import EntityChat.Entity.Reader
import EntityChat.Proofs.Cutting
import EntityChat.Proofs.EntityGrammar
import EntityChat.Proofs.Recognition

/-!
Reading a declaration keeps in step with the machine of the grammar. What is read is a phrase, and
what is refused has no place in any sentence; so every sentence is read, and every diagnostic names
the first token at which a sentence is out of reach, with all that could stand there instead.
-/

namespace EntityChat

open Stage

variable {ts : List Token} {s : Reading}

theorem Constraints.rule_ensures (hts : Ended ts) (hs : machine.At ts typed s)
    (hat : s.cursor.isAt .openParen = true) :
    Constraints.rule.Ensures s (fun c t => c = Constraints.empty.insert .unique ∧
      machine.At ts settled t ∧ t.extension = s.extension ∧
      ∃ (o r : Token) (us : List Token), o.kind = .openParen ∧ us ≠ [] ∧
        (∀ u ∈ us, u.kind = .uniqueWord) ∧ r.kind = .closeParen ∧
        t.behind = s.behind ++ ([o] ++ us ++ [r])) (machine.Refuses ts) := by
  refine (Machine.ensures_take hts hs rfl hat).bind fun o t₁ ⟨ho, hs₁⟩ => ?_
  refine (Machine.ensures_expect (r := constrained) hts hs₁ (by intro j; cases j <;> rfl)).bind
    fun u t₂ ⟨hu, hs₂⟩ => ?_
  refine (Machine.ensures_skip hs₂ (by decide) rfl).bind
    fun _ t₃ ⟨hs₃, hext, hat₃, us, hus, hbehind⟩ => ?_
  refine Rule.ensures_check_bind.mpr ?_
  by_cases hr : t₃.cursor.isAt .closeParen = true
  · simp only [hr, if_true]
    refine (Machine.ensures_take hts hs₃ rfl hr).bind fun r t ⟨hr, ht⟩ => ?_
    refine Rule.ensures_pure.mpr ⟨rfl, ht, ?_, o, r, u :: us, ho.kind, by simp,
      List.forall_mem_cons.mpr ⟨hu.kind, hus⟩, hr.kind, ?_⟩
    · rw [hr.extension, hext, hu.extension, ho.extension]
    · rw [hr.behind, hbehind, hu.behind, ho.behind]
      simp
  · simp only [hr]
    have hr : t₃.cursor.isAt .closeParen = false := Bool.eq_false_iff.mpr hr
    refine Rule.ensures_fail.mpr (Machine.refuses_of hs₃ (by decide) (fun k => ?_) ?_)
    · cases k <;> decide
    · simp [hat₃, hr]

/-- The extension of a reading behind a member says what could still belong to the member, and
none of that comes next. -/
def Member.Read (ts : List Token) (t : Reading) : Prop :=
  ∃ q, machine.At ts q t ∧ Rests q ∧
    (∀ k, k ∈ .comma :: .closeBrace :: t.extension ↔ (q.next k).isSome = true) ∧
    ∀ k ∈ t.extension, t.cursor.isAt k = false

theorem TypeName.rule_ensures {Q : Token → Reading → Prop} {E : Diagnostic → Reading → Prop}
    (h : (Rule.expect .identifier).Ensures s Q E) :
    TypeName.rule.Ensures s (fun y t => ∃ a : Token, y = .named a.lexeme ∧ Q a t) E :=
  h.bind fun a _ ha => Rule.ensures_pure.mpr ⟨a, rfl, ha⟩

theorem Member.rule_ensures (hts : Ended ts) (hs : machine.At ts listing s)
    (hat : s.cursor.isAt .identifier = true) (hext : s.extension = []) :
    Member.rule.Ensures s (fun m t => Member.Read ts t ∧
      ∃ u, Member.Phrase u m ∧ t.behind = s.behind ++ u) (machine.Refuses ts) := by
  refine (Rule.ensures_identifier (Machine.ensures_take hts hs rfl hat)).bind ?_
  intro _ t₁  h
  obtain ⟨n, rfl, hn, hs₁⟩ := h
  refine (Machine.ensures_expect (r := typing) hts hs₁ (by intro j; cases j <;> rfl)).bind ?_
  intro c t₂  h
  obtain ⟨hc, hs₂⟩ := h
  refine (TypeName.rule_ensures (Machine.ensures_expect (r := typed) hts hs₂
    (by intro j; cases j <;> rfl))).bind ?_
  intro _ t₃  h
  obtain ⟨y, rfl, hy, hs₃⟩ := h
  have hbehind : t₃.behind = s.behind ++ [n, c, y] := by
    rw [hy.behind, hc.behind, hn.behind]
    simp
  have hext₃ : t₃.extension = [] := by rw [hy.extension, hc.extension, hn.extension, hext]
  refine Rule.ensures_check_bind.mpr ?_
  by_cases ho : t₃.cursor.isAt .openParen = true
  · simp only [ho, if_true]
    refine (Constraints.rule_ensures hts hs₃ ho).bind ?_
    intro _ t  h
    obtain ⟨rfl, ht, hext', o, r, us, ho, hne, hus, hr, hbehind'⟩ := h
    refine Rule.ensures_pure.mpr ⟨⟨settled, ht, rests_settled, ?_, ?_⟩,
      _, .restricted hn.kind hc.kind hy.kind ho hne hus hr, ?_⟩
    · rw [hext', hext₃]
      intro k
      cases k <;> decide
    · rw [hext', hext₃]
      simp
    · rw [hbehind', hbehind]
      simp
  · simp only [ho]
    have ho : t₃.cursor.isAt .openParen = false := Bool.eq_false_iff.mpr ho
    refine Rule.Ensures.bind (P := fun _ t => t = { t₃ with extension := [.openParen] }) ?_ ?_
    · rw [Rule.ensures_extensible, hext₃]
      rfl
    · intro _ t ht
      subst ht
      refine Rule.ensures_pure.mpr ⟨⟨typed, ⟨hs₃.tokens, hs₃.run⟩, rests_typed, ?_, ?_⟩,
        _, .plain hn.kind hc.kind hy.kind, hbehind⟩
      · intro k
        cases k <;> simp [next]
      · simpa using ho

def Member.ListRead (ts : List Token) (s : Reading) (ms : List Member) (t : Reading) : Prop :=
  t.cursor.isAt .closeBrace = true ∧
    (∃ q, q.next .closeBrace = some closed ∧ machine.At ts q t) ∧
    ∃ u, Member.ListPhrase u ms ∧ t.behind = s.behind ++ u

theorem Member.ListRead.cons {t u : Reading} {z : Token} {m : Member} {v : List Token}
    (hv : Member.Phrase v m) (ht : t.behind = s.behind ++ v) (hz : Took .comma t z u)
    {ms : List Member} {w : Reading} (h : Member.ListRead ts u ms w) :
    Member.ListRead ts s (m :: ms) w := by
  obtain ⟨hat, hq, x, hx, hw⟩ := h
  refine ⟨hat, hq, v ++ [z] ++ x, .cons hv hz.kind hx, ?_⟩
  rw [hw, hz.behind, ht]
  simp

theorem Member.series_ensures (hts : Ended ts) (hs : machine.At ts listing s) :
    (Rule.repeated Entity.memberSeries Member.rule .identifier).Ensures s (Member.ListRead ts s)
      (machine.Refuses ts) := by
  refine Rule.ensures_repeated (I := machine.At ts listing) (R := Member.ListRead ts)
    ?_ ?_ ?_ hs
  · intro s hs hat
    exact ⟨hat, ⟨listing, rfl, hs⟩, [], .empty, by simp⟩
  · intro s hs hterm hfirst
    refine Machine.refuses_of hs (by decide) (fun k => ?_) (by simp [hfirst, hterm])
    cases k <;> decide
  · intro s hs hat
    have hs' : machine.At ts listing { s with extension := [] } := ⟨hs.tokens, hs.run⟩
    refine (Member.rule_ensures hts hs' hat rfl).imp ?_
    intro m t  h
    obtain ⟨⟨q, ht, hrest, hnext, hmiss⟩, u, hu, hbehind⟩ := h
    refine ⟨fun z v hz => ⟨ht.took hz hrest.1, fun ms w hw => .cons hu hbehind hz hw⟩, ?_, ?_⟩
    · intro _ hterm
      exact ⟨hterm, ⟨q, hrest.2, ht⟩, u, .single hu, hbehind⟩
    · intro hsep hterm
      refine Machine.refuses_of ht (Machine.ne_last hrest.1) hnext ?_
      exact List.forall_mem_cons.mpr ⟨hsep, List.forall_mem_cons.mpr ⟨hterm, hmiss⟩⟩

theorem Entity.rule_ensures (hts : Ended ts) (hs : machine.At ts start s) (hb : s.behind = []) :
    Entity.rule.Ensures s (fun e t => machine.At ts finished t ∧ Entity.Sentence t.behind e)
      (machine.Refuses ts) := by
  refine (Machine.ensures_expect (r := created) hts hs (by intro j; cases j <;> rfl)).bind ?_
  intro a t₁  h
  obtain ⟨ha, hs₁⟩ := h
  refine (Machine.ensures_expect (r := announced) hts hs₁ (by intro j; cases j <;> rfl)).bind ?_
  intro b t₂  h
  obtain ⟨hb', hs₂⟩ := h
  refine (Rule.ensures_identifier (Machine.ensures_expect (r := named) hts hs₂
    (by intro j; cases j <;> rfl))).bind ?_
  intro _ t₃  h
  obtain ⟨n, rfl, hn, hs₃⟩ := h
  refine (Machine.ensures_expect (r := listing) hts hs₃ (by intro j; cases j <;> rfl)).bind ?_
  intro o t₄  h
  obtain ⟨ho, hs₄⟩ := h
  refine (Member.series_ensures hts hs₄).bind ?_
  intro ms t₅  h
  obtain ⟨hat, ⟨q, hq, hs₅⟩, us, hus, hbehind⟩ := h
  refine (Machine.ensures_take hts hs₅ hq hat).bind ?_
  intro r t₆  h
  obtain ⟨hr, hs₆⟩ := h
  refine (Machine.ensures_expect (r := finished) hts hs₆ (by intro j; cases j <;> rfl)).bind ?_
  intro z t  h
  obtain ⟨hz, ht⟩ := h
  refine Rule.ensures_pure.mpr ⟨ht, ?_⟩
  have hall : t.behind = [a, b, n, o] ++ us ++ [r, z] := by
    rw [hz.behind, hr.behind, hbehind, ho.behind, hn.behind, hb'.behind, ha.behind, hb]
    simp
  rw [hall]
  exact .mk ha.kind hb'.kind hn.kind ho.kind hus hr.kind hz.kind

def significant (source : String) : List Token := (tokenize source).filter (·.kind ≠ .newline)

theorem ended_significant (source : String) : Ended (significant source) :=
  (cut_tokenize source).ended.filter (by decide)

namespace Entity

theorem rule_ensures_ofTokens (hts : Ended ts) :
    rule.Ensures ⟨.ofTokens ts, []⟩ (fun e _ => Sentence ts e) (machine.Refuses ts) := by
  refine (rule_ensures hts (machine.at_ofTokens ts) rfl).imp fun e t h => ?_
  obtain ⟨ht, hsentence⟩ := h
  rwa [ht.behind_of_last hts] at hsentence

theorem follows : Follows rule machine machine.Steps Sentence where
  ensures := rule_ensures_ofTokens
  run h := h.run
  unique h h' := h.unique h'
  live q := ⟨q.way, run_way q⟩

theorem machine_knows : machine.Knows Grammatical := follows.knows

theorem sentence_of_read {source : String} {e : Entity} (h : read source = .ok e) :
    Sentence (significant source) e := follows.sentence_of_ok (ended_significant source) h

theorem refuses_of_read {source : String} {d : Diagnostic} (h : read source = .error d) :
    ∃ t, machine.Refuses (significant source) d t :=
  ⟨_, (rule_ensures_ofTokens (ended_significant source)).of_error h⟩

theorem read_of_sentence {source : String} {e : Entity} (h : Sentence (significant source) e) :
    read source = .ok e := (follows.ok_iff (ended_significant source)).mpr h

/-- Reading gives the tree of the sentence that the tokens of the source form, if they form one. -/
theorem read_eq_ok_iff (source : String) (e : Entity) :
    read source = .ok e ↔ Sentence (significant source) e :=
  ⟨sentence_of_read, read_of_sentence⟩

theorem diagnostic_exact (source : String) (d : Diagnostic) (h : read source = .error d) :
    d.Exact Grammatical (significant source) := by
  obtain ⟨t, ht⟩ := refuses_of_read h
  exact ht.exact machine_knows (ended_significant source)

theorem diagnostic_exact_missing_comma :
    ∃ d, read "create entity a \x7b x: int\n y: int \x7d" = .error d ∧
      d.Exact Grammatical (significant "create entity a \x7b x: int\n y: int \x7d") :=
  ⟨⟨⟨26, 2, 2⟩, .ofList [.comma, .closeBrace, .openParen], ⟨.identifier, "y", ⟨26, 2, 2⟩⟩⟩,
    by decide +kernel, diagnostic_exact _ _ (by decide +kernel)⟩

end Entity

end EntityChat
