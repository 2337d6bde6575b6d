import EntityChat.Dump
import EntityChat.Json.Documents
import EntityChat.Proofs.TranscriptPrinting

/-!
The loops along a chat do what recursion on its links would do. Each goes along the remarks as an
iterator gives them, and these are the remarks by recursion; so a chat is told from its own tails,
and a chat that is linked anew is the same chat.
-/

namespace EntityChat.Transcript

def recur {α : Type} (nothing : α) (more : Remark → α → α) : Transcript → α
  | empty => nothing
  | remark r rest => more r (recur nothing more rest)

def Alike : Transcript → Transcript → Prop
  | empty, empty => True
  | remark a t, remark b u => (a.speaker.name = b.speaker.name ∧ a.text = b.text) ∧ Alike t u
  | _, _ => False

/-- The first chat is what is left of the second behind some of its remarks, at least one. -/
inductive Tail : Transcript → Transcript → Prop
  | rest {r t} : Tail t (remark r t)
  | further {r t u} : Tail u t → Tail u (remark r t)

def next? : Transcript → Option (Remark × Transcript)
  | empty => none
  | remark r rest => some (r, rest)

/-- The iterator gives these remarks, and then it is at its end. -/
inductive Iterates : Transcript → List Remark → Prop
  | finish {t} : t.next? = none → Iterates t []
  | step {t r rest rs} : t.next? = some (r, rest) → Iterates rest rs → Iterates t (r :: rs)

section

variable {t u : Transcript}

theorem iterates_toList (t : Transcript) : t.Iterates t.toList := by
  induction t with
  | empty => exact .finish rfl
  | remark r t ih =>
    rw [toList_remark]
    exact .step rfl ih

theorem iterates_iff {rs : List Remark} : t.Iterates rs ↔ t.toList = rs := by
  constructor
  · intro h
    induction h with
    | @finish t hnext =>
      cases t with
      | empty => rfl
      | remark r t => cases hnext
    | @step t r rest rs hnext _ ih =>
      cases t with
      | empty => cases hnext
      | remark q t =>
        obtain ⟨rfl, rfl⟩ := Prod.mk.inj (Option.some.inj hnext)
        rw [toList_remark, ih]
  · intro h
    rw [← h]
    exact iterates_toList t

theorem foldr_toList {α : Type} (nothing : α) (more : Remark → α → α) (t : Transcript) :
    t.toList.foldr more nothing = t.recur nothing more := by
  induction t with
  | empty => rfl
  | remark r t ih => rw [toList_remark, List.foldr_cons, ih, recur]

theorem toList_eq_recur (t : Transcript) : t.toList = t.recur [] List.cons := by
  rw [← foldr_toList, List.foldr_cons_nil]

theorem ofList_eq_foldr (rs : List Remark) : ofList rs = rs.foldr remark empty := by
  rw [ofList, List.foldl_reverse]

theorem count_eq (seen : Nat) (t : Transcript) :
    count seen t = seen + t.recur 0 fun _ n => n + 1 := by
  induction t generalizing seen with
  | empty => rfl
  | remark r t ih =>
    rw [count, ih, recur]
    omega

theorem length_eq_recur (t : Transcript) : t.length = t.recur 0 fun _ n => n + 1 := by
  rw [length, count_eq, Nat.zero_add]

theorem length_toList (t : Transcript) : t.toList.length = t.length := by
  rw [length_eq_recur]
  induction t with
  | empty => rfl
  | remark r t ih => rw [toList_remark, List.length_cons, recur, ih]

theorem map_toList_eq_recur {α : Type} (f : Remark → α) (t : Transcript) :
    t.toList.map f = t.recur [] fun r as => f r :: as := by
  rw [← foldr_toList, List.map_eq_foldr]

theorem render_eq_recur (t : Transcript) :
    t.render = t.recur "" fun r text => r.render ++ "\n" ++ text := by
  induction t with
  | empty => rfl
  | remark r t ih =>
    rw [recur, ← ih, render, render, toList_remark, List.map_cons, String.join_cons]

theorem isEmpty_iff : t.isEmpty = true ↔ t = empty := by
  cases t <;> simp [isEmpty]

theorem eq_empty_iff : t = empty ↔ t.length = 0 := by
  rw [length_eq_recur]
  cases t <;> simp [recur]

theorem beq_iff_alike : (t == u) = true ↔ t.Alike u := by
  rw [beq_iff]
  induction t generalizing u with
  | empty => cases u <;> simp [Alike, toList_empty, toList_remark]
  | remark r t ih =>
    cases u with
    | empty => simp [Alike, toList_empty, toList_remark]
    | remark q u =>
      rw [toList_remark, toList_remark, List.map_cons, List.map_cons, List.cons.injEq, ih, Alike,
        Remark.said, Remark.said, Prod.mk.injEq]

theorem equivalence_beq : Equivalence fun t u : Transcript => (t == u) = true :=
  ⟨fun _ => beq_iff.mpr rfl, fun h => beq_iff.mpr (beq_iff.mp h).symm,
    fun h h' => beq_iff.mpr ((beq_iff.mp h).trans (beq_iff.mp h'))⟩

theorem beq_eq_toList (t u : Transcript) : (t == u) = (t.toList == u.toList) := by
  change same t u = _
  induction t generalizing u with
  | empty => cases u <;> simp [same, toList_empty, toList_remark]
  | remark r t ih =>
    cases u with
    | empty => simp [same, toList_empty, toList_remark]
    | remark q u =>
      rw [toList_remark, toList_remark, List.cons_beq_cons, same, ih]
      cases r == q <;> rfl

theorem Tail.length_lt (h : Tail u t) : u.toList.length < t.toList.length := by
  induction h with
  | rest => simp [toList_remark]
  | further _ ih =>
    rw [toList_remark, List.length_cons]
    exact Nat.lt_succ_of_lt ih

theorem Tail.beq_eq_false (h : Tail u t) : (t == u) = false := by
  refine Bool.eq_false_iff.mpr fun heq => ?_
  have hlength := congrArg List.length (beq_iff.mp heq)
  rw [List.length_map, List.length_map] at hlength
  exact Nat.ne_of_gt h.length_lt hlength

end

/-- What the loops along a chat come to is what recursion on its links would give, and a chat made
of remarks is iterated as these remarks again. Equality is the one by recursion, so it sets no chat
equal to one of its tails. -/
theorem loops_eq_recursion (rs : List Remark) (t u : Transcript) :
    ((∀ qs, (ofList rs).Iterates qs ↔ qs = rs) ∧ ofList rs = rs.foldr remark empty) ∧
    ((∀ qs, t.Iterates qs ↔ qs = t.toList) ∧ t.toList = t.recur [] List.cons ∧
      ofList t.toList = t) ∧
    (t.length = (t.recur 0 fun _ n => n + 1) ∧ (t.isEmpty = true ↔ t = empty) ∧
      (t = empty ↔ t.length = 0)) ∧
    t.copy = t ∧
    ((t == u) = (t.toList == u.toList) ∧ ((t == u) = true ↔ t.Alike u) ∧
      Equivalence (fun t u : Transcript => (t == u) = true) ∧ (Tail u t → (t == u) = false)) ∧
    t.render = (t.recur "" fun r text => r.render ++ "\n" ++ text) ∧
    Json.ofTranscript t = .list (t.recur [] fun r docs => Json.ofRemark r :: docs) ∧
    Dump.ofTranscript t = .list (t.recur [] fun r dumps => Dump.ofRemark r :: dumps) := by
  refine ⟨⟨fun qs => ?_, ofList_eq_foldr rs⟩,
    ⟨fun qs => iterates_iff.trans eq_comm, toList_eq_recur t, ofList_toList t⟩,
    ⟨length_eq_recur t, isEmpty_iff, eq_empty_iff⟩, ofList_toList t,
    ⟨beq_eq_toList t u, beq_iff_alike, equivalence_beq, Tail.beq_eq_false⟩, render_eq_recur t,
    congrArg Json.list (map_toList_eq_recur _ t), congrArg Dump.list (map_toList_eq_recur _ t)⟩
  rw [iterates_iff, toList_ofList, eq_comm]

theorem loops_eq_recursion_twice :
    let r : Remark := ⟨⟨"é", .start⟩, "x"⟩
    let q : Remark := ⟨⟨"é", ⟨9, 2, 1⟩⟩, "x"⟩
    (ofList [r, q]).Iterates [r, q] ∧ (ofList [r, q] == ofList [q]) = false ∧
      (ofList [r, q]).length = 2 := by
  intro r q
  obtain ⟨⟨hiterates, -⟩, -, ⟨hlength, -⟩, -, ⟨-, -, -, htail⟩, -⟩ :=
    loops_eq_recursion [r, q] (ofList [r, q]) (ofList [q])
  exact ⟨(hiterates _).mpr rfl, htail .rest, hlength⟩

end EntityChat.Transcript
