import EntityChat.Proofs.EntityReading
import EntityChat.Proofs.Places
import EntityChat.Proofs.TranscriptReading

/-!
Where trees and diagnostics come from. The names in a tree are tokens of the source in their order,
so each is found in the source at the place that is kept with it. A diagnostic shows a token where
it stands, or the end of the source.
-/

namespace EntityChat

/-- The text is found in the source at the place, which counts all that comes before it. -/
structure Stands (source : String) (text : List Char) (p : Position) : Prop where
  found : source.toUTF8.extract p.offset (p.offset + bytes text) = (String.ofList text).toUTF8
  place : ∃ before rest, source.toList = before ++ rest ∧ p.Behind before

theorem extract_toUTF8 {source : String} {before text rest : List Char}
    (h : source.toList = before ++ (text ++ rest)) :
    source.toUTF8.extract (bytes before) (bytes before + bytes text) =
      (String.ofList text).toUTF8 := by
  have hsource : source = String.ofList before ++ (String.ofList text ++ String.ofList rest) := by
    rw [← String.toList_inj, h]
    simp
  have hsize (cs : List Char) : bytes cs = (String.ofList cs).toByteArray.size := rfl
  rw [hsource, String.toUTF8_eq_toByteArray, String.toByteArray_append, String.toByteArray_append,
    String.toUTF8_eq_toByteArray, hsize before, hsize text, ← Nat.add_zero (ByteArray.size _),
    Nat.add_assoc, ByteArray.extract_append_size_add]
  exact ByteArray.extract_append_eq_left (Nat.zero_add _)

section

variable {source : String} {t u : Token}

theorem stands_of_mem_tokenize (h : source.length < UInt32.size - 1) (ht : t ∈ tokenize source) :
    Stands source t.raw t.position := by
  obtain ⟨before, rest, hsource, hbehind, -⟩ := exists_behind_append_of_mem_tokenize h ht
  refine ⟨?_, before, _, hsource, hbehind⟩
  rw [hbehind.offset]
  exact extract_toUTF8 hsource

theorem behind_of_endOfInput (h : source.length < UInt32.size - 1) (ht : t ∈ tokenize source)
    (hk : t.kind = .endOfInput) : t.position.Behind source.toList := by
  obtain ⟨before, rest, hsource, hbehind, hend⟩ := exists_behind_append_of_mem_tokenize h ht
  rcases hend with ⟨-, hlexeme, rfl⟩ | hfits
  · have hraw : t.raw = [] := by simp [Token.raw, Token.spelled, hk, hlexeme]
    rw [hraw, List.append_nil, List.append_nil] at hsource
    rwa [hsource]
  · exact absurd hk hfits.kind_ne_end

theorem Fits.raw_of_newline {rest : List Char} (h : Fits t.kind t.lexeme.toList rest)
    (hk : t.kind = .newline) : t.raw = ['\n'] := by
  rw [Token.raw, hk, Token.spelled, if_neg (by decide)]
  rw [hk] at h
  generalize t.lexeme.toList = w at h
  cases h with
  | sign hsign =>
    obtain rfl := Option.some.inj hsign
    rfl
  | word _ hword _ => rcases hword.1 with hword | hword <;> cases hword

structure Token.Precedes (t u : Token) : Prop where
  offset : t.position.offset < u.position.offset
  line : t.position.line ≤ u.position.line
  broken : t.kind = .newline → t.position.line < u.position.line

theorem precedes_of_offset_lt (h : source.length < UInt32.size - 1) (ht : t ∈ tokenize source)
    (hu : u ∈ tokenize source) (hlt : t.position.offset < u.position.offset) : t.Precedes u := by
  obtain ⟨before, rest, hsource, hbehind, hfits⟩ := exists_behind_append_of_mem_tokenize h ht
  obtain ⟨before', rest', hsource', hbehind'⟩ := exists_behind_of_mem_tokenize h hu
  have hbytes : bytes before < bytes before' := by rwa [← hbehind.offset, ← hbehind'.offset]
  obtain ⟨c, gs, rfl⟩ := exists_append_of_bytes_lt (hsource.symm.trans hsource') hbytes
  have hline := hbehind'.line
  rw [List.count_append] at hline
  refine ⟨hlt, ?_, fun hk => ?_⟩
  · rw [UInt32.le_iff_toNat_le, hbehind.line, hline]
    omega
  · -- the line break is the first character between the two places
    have hnewline : c = '\n' := by
      rcases hfits with ⟨hend, -⟩ | hfits
      · rw [hk] at hend
        cases hend
      · rw [hfits.raw_of_newline hk, hsource', List.append_assoc] at hsource
        exact (List.cons.inj (List.append_cancel_left hsource)).1
    have hcount : 0 < (c :: gs).count '\n' := List.count_pos_iff.mpr (by simp [hnewline])
    rw [UInt32.lt_iff_toNat_lt, hbehind.line, hline]
    omega

theorem pairwise_precedes (h : source.length < UInt32.size - 1) :
    (tokenize source).Pairwise Token.Precedes :=
  (Scanner.pairwise_offset_lt _ _).imp_of_mem fun ht hu hlt => precedes_of_offset_lt h ht hu hlt

end

/-- The names are found in the source, one behind the other. -/
structure Traced (source : String) (ids : List Identifier) : Prop where
  stands : ∀ a ∈ ids, Stands source a.name.toList a.position
  ascending : ids.Pairwise fun a b => a.position.offset < b.position.offset

def Taken (ts : List Token) (ids : List Identifier) : Prop :=
  ∃ ns : List Token, ns.Sublist ts ∧ (∀ n ∈ ns, n.kind = .identifier) ∧
    ids = ns.map Token.identifier

theorem Taken.trans {ts us : List Token} {ids : List Identifier} (h : Taken ts ids)
    (hsub : ts.Sublist us) : Taken us ids := by
  obtain ⟨ns, hns, hkind, hids⟩ := h
  exact ⟨ns, hns.trans hsub, hkind, hids⟩

theorem Taken.cons {ts us : List Token} {n : Token} {ids : List Identifier} (hn : n ∈ us)
    (hk : n.kind = .identifier) (h : Taken ts ids) : Taken (us ++ ts) (n.identifier :: ids) := by
  obtain ⟨ns, hns, hkind, hids⟩ := h
  exact ⟨n :: ns, (List.singleton_sublist.mpr hn).append hns, List.forall_mem_cons.mpr ⟨hk, hkind⟩,
    by rw [hids, List.map_cons]⟩

theorem Taken.traced {source : String} (h : source.length < UInt32.size - 1)
    {ids : List Identifier} (hids : Taken (tokenize source) ids) : Traced source ids := by
  obtain ⟨ns, hsub, hkind, rfl⟩ := hids
  constructor
  · intro a ha
    obtain ⟨n, hn, rfl⟩ := List.mem_map.mp ha
    have hstands := stands_of_mem_tokenize h (hsub.mem hn)
    rwa [Token.raw, hkind n hn] at hstands
  · have hprecedes := (pairwise_precedes h).sublist hsub
    exact List.pairwise_map.mpr (hprecedes.imp fun hab => hab.offset)

def Entity.identifiers (e : Entity) : List Identifier := e.name :: e.members.map Member.name

theorem Member.Phrase.exists_name {u : List Token} {m : Member} (h : Member.Phrase u m) :
    ∃ n ∈ u, n.kind = .identifier ∧ m.name = n.identifier := by
  cases h with
  | plain hn _ _ => exact ⟨_, List.mem_cons_self, hn, rfl⟩
  | restricted hn _ _ _ _ _ _ => exact ⟨_, by simp, hn, rfl⟩

theorem Member.ListPhrase.taken {u : List Token} {ms : List Member} (h : Member.ListPhrase u ms) :
    Taken u (ms.map Member.name) := by
  cases h with
  | empty => exact ⟨[], List.nil_sublist _, by simp, rfl⟩
  | listed hsep _ =>
    have htaken : Taken _ _ := hsep.exists_sublist_map fun _ _ hv => hv.exists_name
    exact htaken.trans (List.sublist_append_left _ _)

theorem Entity.Sentence.taken {ts : List Token} {e : Entity} (h : Entity.Sentence ts e) :
    Taken ts e.identifiers := by
  obtain @⟨a, b, n, o, r, z, us, ms, -, -, hn, -, hus, -, -⟩ := h
  have hname : n ∈ [a, b, n, o] := by simp
  exact (hus.taken.cons hname hn).trans (List.sublist_append_left _ _)

def Transcript.speakers (t : Transcript) : List Identifier := t.toList.map Remark.speaker

theorem Remark.Phrase.exists_speaker {u : List Token} {r : Remark} (h : Remark.Phrase u r) :
    ∃ n ∈ u, n.kind = .identifier ∧ r.speaker = n.identifier := by
  cases h with
  | mk hn _ _ => exact ⟨_, List.mem_cons_self, hn, rfl⟩

theorem sublist_middle {α : Type} (us vs ws : List α) : vs.Sublist (us ++ vs ++ ws) :=
  (List.sublist_append_right us vs).trans (List.sublist_append_left _ ws)

theorem Remark.ListPhrase.taken {u : List Token} {rs : List Remark} (h : Remark.ListPhrase u rs) :
    Taken u (rs.map Remark.speaker) := by
  cases h with
  | empty _ => exact ⟨[], List.nil_sublist _, by simp, rfl⟩
  | @listed b u w rs _ hsep _ =>
    have htaken : Taken _ _ := hsep.exists_sublist_map fun _ _ hv => hv.exists_speaker
    exact htaken.trans (sublist_middle b u w)

theorem Remark.ListPhrase.line_lt {u : List Token} {rs : List Remark}
    (h : Remark.ListPhrase u rs) (hu : u.Pairwise Token.Precedes) :
    rs.Pairwise fun r r' => r.speaker.position.line < r'.speaker.position.line := by
  cases h with
  | empty _ => exact List.Pairwise.nil
  | @listed b u w rs _ hsep _ =>
    refine hsep.pairwise (fun v s x r r' hv hs hx hall => ?_) (hu.sublist (sublist_middle b u w))
    obtain ⟨n, hn, -, hname⟩ := hv.exists_speaker
    obtain ⟨n', hn', -, hname'⟩ := hx.exists_speaker
    obtain ⟨hne, hbreaks⟩ := hs
    obtain ⟨c, hc⟩ := List.exists_mem_of_ne_nil s hne
    obtain ⟨hvs, -, hlast⟩ := List.pairwise_append.mp hall
    have hfirst := (List.pairwise_append.mp hvs).2.2 n hn c hc
    have hsecond := hlast c (List.mem_append_right _ hc) n' hn'
    rw [hname, hname']
    exact UInt32.lt_of_le_of_lt hfirst.line (hsecond.broken (hbreaks c hc))

theorem Transcript.Sentence.taken {ts : List Token} {t : Transcript}
    (h : Transcript.Sentence ts t) : Taken ts t.speakers := by
  cases h with
  | mk hus _ => exact hus.taken.trans (List.sublist_append_left _ _)

theorem Transcript.Sentence.line_lt {ts : List Token} {t : Transcript}
    (h : Transcript.Sentence ts t) (hts : ts.Pairwise Token.Precedes) :
    t.speakers.Pairwise fun a b => a.position.line < b.position.line := by
  cases h with
  | mk hus _ =>
    exact List.pairwise_map.mpr (hus.line_lt (hts.sublist (List.sublist_append_left _ _)))

/-- The token found stands where the diagnostic says, or the source ends there. -/
structure Diagnostic.PointsInto (source : String) (d : Diagnostic) : Prop where
  position : d.position = d.found.position
  token : d.found.kind ≠ .endOfInput → Stands source d.found.raw d.position
  finish : d.found.kind = .endOfInput → d.position.Behind source.toList

theorem Diagnostic.pointsInto {source : String} (h : source.length < UInt32.size - 1)
    {d : Diagnostic} (hposition : d.position = d.found.position)
    (hfound : d.found ∈ tokenize source) : d.PointsInto source := by
  constructor
  · exact hposition
  · intro _
    rw [hposition]
    exact stands_of_mem_tokenize h hfound
  · intro hk
    rw [hposition]
    exact behind_of_endOfInput h hfound hk

theorem Entity.found_of_read {source : String} {d : Diagnostic}
    (h : Entity.read source = .error d) :
    d.position = d.found.position ∧ d.found ∈ tokenize source := by
  obtain ⟨s, hs⟩ := Entity.refuses_of_read h
  obtain ⟨hposition, hfound⟩ := (hs.rejects (ended_significant source)).found_mem
  exact ⟨hposition, (List.mem_filter.mp hfound).1⟩

/-- Names and diagnostics point back into the source that was read. -/
theorem read_points_back (source : String) (h : source.length < UInt32.size - 1) :
    (∀ e, Entity.read source = .ok e → Traced source e.identifiers) ∧
    (∀ t, Transcript.read source = .ok t → Traced source t.speakers ∧
      t.speakers.Pairwise fun a b => a.position.line < b.position.line) ∧
    ∀ d, Entity.read source = .error d ∨ Transcript.read source = .error d →
      d.PointsInto source := by
  refine ⟨fun e he => ?_, fun t ht => ?_, fun d hd => ?_⟩
  · have htaken := (Entity.sentence_of_read he).taken
    exact (htaken.trans List.filter_sublist).traced h
  · have hsentence := Transcript.sentence_of_read ht
    exact ⟨hsentence.taken.traced h, hsentence.line_lt (pairwise_precedes h)⟩
  · rcases hd with hd | hd
    · obtain ⟨hposition, hfound⟩ := Entity.found_of_read hd
      exact Diagnostic.pointsInto h hposition hfound
    · obtain ⟨hposition, hfound⟩ := (Transcript.rejects_iff.mp hd).found_mem
      exact Diagnostic.pointsInto h hposition hfound

theorem read_points_back_two_remarks :
    "é says \"x\"\n\nb says \"y\"".length < UInt32.size - 1 ∧
    (∃ t, Transcript.read "é says \"x\"\n\nb says \"y\"" = .ok t ∧
      t.speakers = [⟨"é", ⟨0, 1, 1⟩⟩, ⟨"b", ⟨13, 3, 1⟩⟩] ∧
      Traced "é says \"x\"\n\nb says \"y\"" t.speakers ∧
      t.speakers.Pairwise fun a b => a.position.line < b.position.line) ∧
    ∃ d, Entity.read "é says \"x\"\n\nb says \"y\"" = .error d ∧
      d.PointsInto "é says \"x\"\n\nb says \"y\"" := by
  have hlength : "é says \"x\"\n\nb says \"y\"".length < UInt32.size - 1 := by decide +kernel
  obtain ⟨-, hchat, herror⟩ := read_points_back _ hlength
  let t : Transcript := .remark ⟨⟨"é", ⟨0, 1, 1⟩⟩, "x"⟩ (.remark ⟨⟨"b", ⟨13, 3, 1⟩⟩, "y"⟩ .empty)
  let d : Diagnostic := .unexpected ⟨.identifier, "é", .start⟩ [.createWord]
  have ht : Transcript.read "é says \"x\"\n\nb says \"y\"" = .ok t := by decide +kernel
  have hd : Entity.read "é says \"x\"\n\nb says \"y\"" = .error d := by decide +kernel
  exact ⟨hlength, ⟨t, ht, rfl, hchat t ht⟩, d, hd, herror d (.inl hd)⟩

example : Entity.read "create entity é\n\n" =
    .error (.unexpected (.finish ⟨18, 3, 1⟩) [.openBrace]) := by decide +kernel

end EntityChat
