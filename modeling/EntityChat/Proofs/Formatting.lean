import EntityChat.Proofs.EntityPrinting
import EntityChat.Proofs.Moving

/-!
The normal form of a declaration. What is printed can be read again, also with a line break behind
it, and tells all that `==` looks at. So formatting is done after one run, and two sources are
formatted alike just if they declare equal entities.
-/

namespace EntityChat

def Member.stated (m : Member) : String × TypeName × Constraints :=
  (m.name.name, m.type, m.constraints)

def Entity.stated (e : Entity) : String × List (String × TypeName × Constraints) :=
  (e.name.name, e.members.map Member.stated)

theorem Member.beq_iff_stated {m n : Member} : (m == n) = true ↔ m.stated = n.stated := by
  rw [Member.beq_iff, stated, stated, Prod.mk.injEq, Prod.mk.injEq]

theorem Member.list_beq_iff_stated {ms ns : List Member} :
    (ms == ns) = true ↔ ms.map stated = ns.map stated := by
  induction ms generalizing ns with
  | nil => cases ns <;> simp
  | cons m ms ih =>
    cases ns with
    | nil => simp
    | cons n ns =>
      rw [List.cons_beq_cons, Bool.and_eq_true, ih, beq_iff_stated]
      simp

namespace Entity

theorem beq_iff_stated {e e' : Entity} : (e == e') = true ↔ e.stated = e'.stated := by
  rw [beq_iff, Member.list_beq_iff_stated, stated, stated, Prod.mk.injEq]

theorem render_eq_iff {e e' : Entity} (he : e.WellFormed) (he' : e'.WellFormed) :
    e.render = e'.render ↔ (e == e') = true := by
  constructor
  · intro h
    obtain ⟨d, hread, hd⟩ := exists_read_render he
    obtain ⟨d', hread', hd'⟩ := exists_read_render he'
    rw [h, hread'] at hread
    obtain rfl := Except.ok.inj hread
    rw [beq_iff_stated] at hd hd' ⊢
    rw [← hd, hd']
  · exact render_congr

theorem Sentence.at_end {us : List Token} {y z : Token} {e : Entity} (h : Sentence (us ++ [y]) e)
    (hz : z.kind = .endOfInput) : Sentence (us ++ [z]) e := by
  generalize hts : us ++ [y] = ts at h
  obtain @⟨a, b, n, o, r, x, vs, ms, ha, hb, hn, ho, hvs, hr, -⟩ := h
  have hback (x : Token) : [a, b, n, o] ++ vs ++ [r, x] = [a, b, n, o] ++ vs ++ [r] ++ [x] := by
    simp
  rw [hback] at hts
  obtain ⟨rfl, -⟩ := List.append_inj' hts rfl
  rw [← hback]
  exact .mk ha hb hn ho hvs hr hz

theorem read_append_newline {source : String} {e : Entity} (h : read source = .ok e) :
    read (source ++ "\n") = .ok e := by
  obtain ⟨us, q, htokens, hjoin⟩ := tokenize_join source ""
  have hempty : tokenize "" = [.finish .start] := by decide +kernel
  have hfinish (p : Position) : [Token.finish p].filter (·.kind ≠ .newline) = [.finish p] := by
    simp [Token.finish]
  have hsentence := sentence_of_read h
  rw [significant, htokens, List.filter_append, hfinish] at hsentence
  apply read_of_sentence
  rw [String.append_empty, hempty] at hjoin
  rw [significant, hjoin, List.filter_append, List.filter_cons_of_neg (by simp)]
  exact hsentence.at_end rfl

theorem exists_read_line {e : Entity} (he : e.WellFormed) :
    ∃ e', read (e.render ++ "\n") = .ok e' ∧ (e' == e) = true := by
  obtain ⟨e', hread, heq⟩ := exists_read_render he
  exact ⟨e', read_append_newline hread, heq⟩

end Entity

end EntityChat
