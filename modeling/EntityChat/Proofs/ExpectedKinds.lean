import EntityChat.Proofs.Documents
import EntityChat.Proofs.KindSets
import Mathlib.Tactic.TFAE

/-!
What a diagnostic tells of the kinds that were expected. No description begins another one, so an
enumeration can be taken apart again, and a document has a label for each kind. So which kinds there
were shows in the set, in the diagnostic, in its message and in its documents; how often each was
named, and in which order, shows in none of them.
-/

namespace EntityChat

theorem Kind.description_append_inj {j k : Kind} {cs ds : List Char}
    (h : j.description.toList ++ cs = k.description.toList ++ ds) : j = k ∧ cs = ds := by
  have hfree : (Kind.all.all fun j => Kind.all.all fun k =>
      j = k || !j.description.toList.isPrefixOf k.description.toList) = true := by decide
  have hall (k : Kind) : k ∈ Kind.all := List.mem_of_getElem? k.all_rank
  have hne {j k : Kind} (hfront : j.description.toList <+: k.description.toList) : j = k := by
    have hjk := List.all_eq_true.mp (List.all_eq_true.mp hfree j (hall j)) k (hall k)
    simpa [List.isPrefixOf_iff_prefix.mpr hfront] using hjk
  obtain rfl : j = k := by
    rcases List.append_eq_append_iff.mp h with ⟨es, hes, -⟩ | ⟨es, hes, -⟩
    · exact hne ⟨es, hes.symm⟩
    · exact (hne ⟨es, hes.symm⟩).symm
  exact ⟨rfl, List.append_cancel_left h⟩

namespace KindSet

def link : List Kind → List Char
  | [] => " or ".toList
  | _ :: _ => ", ".toList

theorem toList_continued_cons (k : Kind) (ks : List Kind) :
    (continued (k :: ks)).toList =
      link ks ++ (k.description.toList ++ (continued ks).toList) := by
  cases ks with
  | nil => simp [continued, link]
  | cons j ks => simp only [continued, link, String.toList_append, List.append_assoc]

theorem link_append_inj {js ks : List Kind} {cs ds : List Char}
    (h : link js ++ cs = link ks ++ ds) : cs = ds := by
  cases js <;> cases ks
  · exact List.append_cancel_left h
  · cases h
  · cases h
  · exact List.append_cancel_left h

theorem continued_inj {js ks : List Kind}
    (h : (continued js).toList = (continued ks).toList) : js = ks := by
  have hcons (k : Kind) (ks : List Kind) : (continued (k :: ks)).toList ≠ [] := by
    rw [toList_continued_cons]
    cases ks <;> exact List.cons_ne_nil _ _
  induction js generalizing ks with
  | nil =>
    cases ks with
    | nil => rfl
    | cons k ks => exact absurd h.symm (hcons k ks)
  | cons j js ih =>
    cases ks with
    | nil => exact absurd h (hcons j js)
    | cons k ks =>
      rw [toList_continued_cons, toList_continued_cons] at h
      obtain ⟨rfl, hrest⟩ := Kind.description_append_inj (link_append_inj h)
      rw [ih hrest]

theorem toList_display_cons (k : Kind) (ks : List Kind) :
    (display ⟨(k :: ks).toArray⟩).toList = k.description.toList ++ (continued ks).toList :=
  String.toList_append

theorem display_inj {s t : KindSet} (h : s.display = t.display) : s = t := by
  have hnothing (k : Kind) (cs : List Char) : "nothing".toList ≠ k.description.toList ++ cs := by
    intro heq
    have hfront : k.description.toList.isPrefixOf "nothing".toList = true :=
      List.isPrefixOf_iff_prefix.mpr ⟨cs, heq.symm⟩
    revert hfront
    cases k <;> decide
  have hchars := congrArg String.toList h
  obtain ⟨⟨js⟩⟩ := s
  obtain ⟨⟨ks⟩⟩ := t
  cases js with
  | nil =>
    cases ks with
    | nil => rfl
    | cons k ks =>
      rw [toList_display_cons] at hchars
      exact absurd hchars (hnothing k _)
  | cons j js =>
    rw [toList_display_cons] at hchars
    cases ks with
    | nil => exact absurd hchars.symm (hnothing j _)
    | cons k ks =>
      rw [toList_display_cons] at hchars
      obtain ⟨rfl, hrest⟩ := Kind.description_append_inj hchars
      rw [continued_inj hrest]

theorem expected_of_field {i j : Json} {s t : KindSet}
    (hi : i.field? "expected" = some (.ofKindSet s)) (hj : j.field? "expected" = some (.ofKindSet t))
    (h : i = j) : s = t := by
  rw [h, hj] at hi
  have hset := congrArg Json.toKindSet? (Option.some.inj hi)
  rw [Json.toKindSet?_ofKindSet, Json.toKindSet?_ofKindSet] at hset
  exact (Option.some.inj hset).symm

/-- The set made from a list has its kinds in ascending order, as sorting and dropping repetitions
would give them, and finds just these. Lists with the same kinds, and no others, agree in their set,
and so in a diagnostic about a token, in its message and in its documents. -/
theorem ofList_faithful (ks : List Kind) :
    (ofList ks).toList.Pairwise (fun j k => j.rank < k.rank) ∧
    (ofList ks).toList = (ks.mergeSort fun j k => j.rank ≤ k.rank).destutter (· ≠ ·) ∧
    (∀ k, (ofList ks).contains k = true ↔ k ∈ ks) ∧
    ∀ (js : List Kind) (found : Token) (file : Option String),
      List.TFAE
        [∀ k, k ∈ js ↔ k ∈ ks,
         ofList js = ofList ks,
         Diagnostic.unexpected found js = .unexpected found ks,
         (Diagnostic.unexpected found js).message = (Diagnostic.unexpected found ks).message,
         Json.report file (.unexpected found js) = Json.report file (.unexpected found ks),
         Json.ofDiagnostic (.unexpected found js) = Json.ofDiagnostic (.unexpected found ks)] := by
  refine ⟨ascends_foldr_place ks, toList_ofList ks, fun k => ?_, fun js found file => ?_⟩
  · exact (contains_iff (s := ofList ks) (ascends_foldr_place ks)).trans mem_ofList
  tfae_have 1 ↔ 2 := ofList_eq_iff.symm
  tfae_have 2 → 3 := fun h => by rw [Diagnostic.unexpected, h, Diagnostic.unexpected]
  tfae_have 3 → 4 := congrArg Diagnostic.message
  tfae_have 3 → 5 := congrArg (Json.report file)
  tfae_have 3 → 6 := congrArg Json.ofDiagnostic
  tfae_have 4 → 2 := by
    intro h
    -- the same text stands in front of the set, and the same behind it
    have htext := (String.append_left_inj _).mp ((String.append_left_inj _).mp h)
    exact display_inj ((String.append_right_inj _).mp htext)
  tfae_have 5 → 2 := by
    have hfield (d : Diagnostic) :
        (Json.report file d).field? "expected" = some (.ofKindSet d.expected) := by
      simp [Json.report, Json.field?]
    exact expected_of_field (hfield _) (hfield _)
  tfae_have 6 → 2 := expected_of_field rfl rfl
  tfae_finish

end KindSet

end EntityChat
