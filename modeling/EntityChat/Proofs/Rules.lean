import EntityChat.Rule.Repeated

/-!
What a rule does, said of its outcome: one property of the value and the reading behind it, one of
the diagnostic and the reading where it arose. Each way of putting rules together has a law of its
own, so that a rule is understood from its parts.
-/

namespace EntityChat

def Token.identifier (t : Token) : Identifier := ⟨t.lexeme, t.position⟩

namespace Reading

def behind (s : Reading) : List Token := s.cursor.tokens.toList.take s.cursor.index

theorem behind_append_ahead (s : Reading) :
    s.behind ++ s.cursor.ahead = s.cursor.tokens.toList := List.take_append_drop _ _

theorem behind_advance {s : Reading} (h : s.cursor.index < s.cursor.tokens.size) :
    Reading.behind { s with cursor := s.cursor.advance } = s.behind ++ [s.cursor.current] := by
  have hc : s.cursor.current = s.cursor.tokens[s.cursor.index] := by
    simp [Cursor.current, Cursor.tokenAt, h]
  simp only [behind, Cursor.advance, h, if_true, hc]
  rw [List.take_add_one]
  simp [h]

end Reading

def Ends {α : Type} (o : Except Diagnostic α × Reading) (Q : α → Reading → Prop)
    (E : Diagnostic → Reading → Prop) : Prop :=
  match o with
  | (.ok a, t) => Q a t
  | (.error d, t) => E d t

theorem Ends.imp {α : Type} {o : Except Diagnostic α × Reading} {Q P : α → Reading → Prop}
    {E : Diagnostic → Reading → Prop} (h : Ends o Q E) (hQ : ∀ a t, Q a t → P a t) :
    Ends o P E := by
  unfold Ends at *
  split at h
  · exact hQ _ _ h
  · exact h

namespace Rule

variable {α β : Type} {s : Reading} {E : Diagnostic → Reading → Prop}

def Ensures (r : Rule α) (s : Reading) (Q : α → Reading → Prop)
    (E : Diagnostic → Reading → Prop) : Prop := Ends (r.run s) Q E

theorem Ensures.imp {r : Rule α} {Q P : α → Reading → Prop} (h : r.Ensures s Q E)
    (hQ : ∀ a t, Q a t → P a t) : r.Ensures s P E := Ends.imp h hQ

theorem Ensures.of_ok {r : Rule α} {Q : α → Reading → Prop} (h : r.Ensures s Q E) {a : α}
    (ha : (r.run s).1 = .ok a) : Q a (r.run s).2 := by
  rcases hr : r.run s with ⟨_, t⟩
  rw [hr] at ha
  obtain rfl := ha
  rw [Ensures, hr] at h
  exact h

theorem Ensures.of_error {r : Rule α} {Q : α → Reading → Prop} (h : r.Ensures s Q E)
    {d : Diagnostic} (hd : (r.run s).1 = .error d) : E d (r.run s).2 := by
  rcases hr : r.run s with ⟨_, t⟩
  rw [hr] at hd
  obtain rfl := hd
  rw [Ensures, hr] at h
  exact h

theorem Ensures.bind {r : Rule α} {f : α → Rule β} {P : α → Reading → Prop}
    {Q : β → Reading → Prop} (h : r.Ensures s P E)
    (hf : ∀ a t, P a t → (f a).Ensures t Q E) : (r >>= f).Ensures s Q E := by
  change Ends ((Rule.bind r f).run s) Q E
  unfold Ensures Ends at h
  unfold Rule.bind
  split at h
  · next a t heq =>
    simp only [heq]
    exact hf a t h
  · next d t heq =>
    simp only [heq]
    exact h

theorem ensures_pure {a : α} {Q : α → Reading → Prop} :
    (pure a : Rule α).Ensures s Q E ↔ Q a s := Iff.rfl

theorem ensures_fail {ks : List Kind} {Q : α → Reading → Prop} :
    (fail ks : Rule α).Ensures s Q E ↔ E (s.unexpected ks) s := Iff.rfl

theorem ensures_check_bind {k : Kind} {f : Bool → Rule β} {Q : β → Reading → Prop} :
    (check k >>= f).Ensures s Q E ↔ (f (s.cursor.isAt k)).Ensures s Q E := Iff.rfl

theorem ensures_extensible {k : Kind} {Q : Unit → Reading → Prop} :
    (extensible k).Ensures s Q E ↔ Q () { s with extension := s.extension ++ [k] } := Iff.rfl

theorem ensures_skip {k : Kind} {Q : Unit → Reading → Prop} :
    (skip k).Ensures s Q E ↔ Q () { s with cursor := s.cursor.skip k } := Iff.rfl

end Rule

structure Took (k : Kind) (s : Reading) (a : Token) (t : Reading) : Prop where
  kind : a.kind = k
  behind : t.behind = s.behind ++ [a]
  tokens : t.cursor.tokens = s.cursor.tokens
  extension : t.extension = s.extension

namespace Cursor

theorem isAt_iff {c : Cursor} {k : Kind} : c.isAt k = true ↔ c.current.kind = k := by
  simp [isAt]

theorem isAt_eq_false_iff {c : Cursor} {k : Kind} : c.isAt k = false ↔ c.current.kind ≠ k := by
  simp [isAt]

theorem eat?_eq_none_iff {c : Cursor} {k : Kind} : c.eat? k = none ↔ c.isAt k = false := by
  simp [eat?]

theorem eat?_eq_some_iff {c d : Cursor} {k : Kind} {t : Token} :
    c.eat? k = some (t, d) ↔ c.isAt k = true ∧ c.current = t ∧ c.advance = d := by
  unfold eat?
  split <;> simp [*]

theorem isAt_of_eat {c : Cursor} {k : Kind} {ac : Token × Cursor} (h : c.eat? k = some ac) :
    c.isAt k = true := (eat?_eq_some_iff.mp h).1

theorem isAt_ne {c : Cursor} {j k : Kind} (h : c.isAt j = true) (hne : k ≠ j) :
    c.isAt k = false := by
  rw [isAt_eq_false_iff, isAt_iff.mp h]
  exact hne.symm

end Cursor

theorem took_of_eat {s : Reading} {k : Kind} {a : Token} {c : Cursor}
    (h : s.cursor.eat? k = some (a, c)) (hlt : s.cursor.index < s.cursor.tokens.size) :
    Took k s a { s with cursor := c } := by
  obtain ⟨hat, rfl, rfl⟩ := Cursor.eat?_eq_some_iff.mp h
  exact ⟨Cursor.isAt_iff.mp hat, Reading.behind_advance hlt, s.cursor.leads_advance.1, rfl⟩

namespace Rule

variable {s : Reading} {E : Diagnostic → Reading → Prop}

theorem ensures_expect {k : Kind} {Q : Token → Reading → Prop}
    (hlt : s.cursor.isAt k = true → s.cursor.index < s.cursor.tokens.size)
    (htake : s.cursor.isAt k = true → ∀ a t, Took k s a t → Q a t)
    (hmiss : s.cursor.isAt k = false → E (s.unexpected [k]) s) : (expect k).Ensures s Q E := by
  cases heq : s.cursor.eat? k with
  | none =>
    simp only [Ensures, Ends, expect, heq]
    exact hmiss (Cursor.eat?_eq_none_iff.mp heq)
  | some ac =>
    simp only [Ensures, Ends, expect, heq]
    have hat := Cursor.isAt_of_eat heq
    exact htake hat ac.1 _ (took_of_eat heq (hlt hat))

theorem ensures_identifier {Q : Token → Reading → Prop}
    (h : (expect .identifier).Ensures s Q E) :
    identifier.Ensures s (fun n t => ∃ a : Token, n = a.identifier ∧ Q a t) E :=
  h.bind fun a _ ha => ensures_pure.mpr ⟨a, rfl, ha⟩

end Rule

theorem Cursor.skip_spec {k : Kind} (hk : k ≠ .endOfInput) (c : Cursor) :
    (c.skip k).tokens = c.tokens ∧ (c.skip k).isAt k = false ∧
      ∃ us : List Token, (∀ u ∈ us, u.kind = k) ∧
        (c.skip k).tokens.toList.take (c.skip k).index = c.tokens.toList.take c.index ++ us := by
  fun_induction Cursor.skip c k with
  | case1 c h ih =>
    obtain ⟨htokens, hat, us, hus, hbehind⟩ := ih
    have hadv := Reading.behind_advance (s := ⟨c, []⟩) h.2
    have hat' := isAt_iff.mp h.1
    refine ⟨htokens.trans c.leads_advance.1, hat, c.current :: us, ?_, ?_⟩
    · exact List.forall_mem_cons.mpr ⟨hat', hus⟩
    · simp only [Reading.behind] at hadv
      rw [hbehind, hadv, List.append_assoc, List.singleton_append]
  | case2 c h =>
    refine ⟨rfl, Bool.eq_false_iff.mpr fun hat => ?_, [], by simp, by simp⟩
    exact h ⟨hat, index_lt_of_isAt hat hk⟩

theorem Cursor.skip_of_not_isAt {c : Cursor} {k : Kind} (h : c.isAt k = false) :
    c.skip k = c := by
  rw [skip, dif_neg]
  simp [h]

namespace Series

variable {α : Type}

theorem gap_eq_self {w : Series} {s : Reading}
    (h : w.collapse = true → s.cursor.isAt w.separator = false) : w.gap s = s := by
  unfold gap
  split
  · next hcollapse => rw [Cursor.skip_of_not_isAt (h hcollapse)]
  · rfl

/-- Behind the item `a` the series goes on after a separator, ends at a terminator, or fails. -/
structure Continues (w : Series) (I : Reading → Prop) (R : Reading → List α → Reading → Prop)
    (E : Diagnostic → Reading → Prop) (s : Reading) (a : α) (t : Reading) : Prop where
  more : ∀ z u, Took w.separator t z u →
    I (w.gap u) ∧ ∀ as v, R (w.gap u) as v → R s (a :: as) v
  stop : t.cursor.isAt w.separator = false → t.cursor.isAt w.terminator = true → R s [a] t
  fail : t.cursor.isAt w.separator = false → t.cursor.isAt w.terminator = false →
    E (t.unexpected (w.separator :: w.terminator :: t.extension)) t

/-- The law of a series. `I` holds wherever an item could begin, and `R` of such a reading, the
items read from there on, and the reading at the terminator. -/
theorem items_ensures {w : Series} {item : Rule α} {first : Kind} {I : Reading → Prop}
    {R : Reading → List α → Reading → Prop} {E : Diagnostic → Reading → Prop}
    (hstop : ∀ s, I s → s.cursor.isAt w.terminator = true → R s [] s)
    (hfirst : ∀ s, I s → s.cursor.isAt w.terminator = false → s.cursor.isAt first = false →
      E (s.unexpected [first, w.terminator]) s)
    (hitem : ∀ s, I s → s.cursor.isAt first = true →
      item.Ensures { s with extension := [] } (Continues w I R E s) E)
    (taken : List α) {s : Reading} (hs : I s) :
    Ends (w.items item first taken s) (fun as t => ∃ bs, as = taken.reverse ++ bs ∧ R s bs t)
      E := by
  fun_induction items w item first taken s with
  | case1 taken s hat => exact ⟨[], by simp, hstop s hs hat⟩
  | case2 taken s hterm hat d t heq =>
    have h := hitem s hs hat
    rw [Rule.Ensures, heq] at h
    exact h
  | case3 taken s hterm hat a t heq z c heat ih =>
    have h := hitem s hs hat
    rw [Rule.Ensures, heq] at h
    have hlt := Cursor.index_lt_of_isAt (Cursor.isAt_of_eat heat) w.separator_ne_end
    obtain ⟨hI, hR⟩ := h.more z _ (took_of_eat heat hlt)
    refine (ih hI).imp fun as v h => ?_
    obtain ⟨bs, has, hbs⟩ := h
    refine ⟨a :: bs, ?_, hR bs v hbs⟩
    rw [has, List.reverse_cons, List.append_assoc, List.singleton_append]
  | case4 taken s hterm hat a t heq heat hend =>
    have h := hitem s hs hat
    rw [Rule.Ensures, heq] at h
    exact ⟨[a], by simp, h.stop (Cursor.eat?_eq_none_iff.mp heat) hend⟩
  | case5 taken s hterm hat a t heq heat hend =>
    have h := hitem s hs hat
    rw [Rule.Ensures, heq] at h
    exact h.fail (Cursor.eat?_eq_none_iff.mp heat) (Bool.eq_false_iff.mpr hend)
  | case6 taken s hterm hat =>
    exact hfirst s hs (Bool.eq_false_iff.mpr hterm) (Bool.eq_false_iff.mpr hat)

end Series

theorem Rule.ensures_repeated {α : Type} {w : Series} {item : Rule α} {first : Kind}
    {I : Reading → Prop} {R : Reading → List α → Reading → Prop} {E : Diagnostic → Reading → Prop}
    (hstop : ∀ s, I s → s.cursor.isAt w.terminator = true → R s [] s)
    (hfirst : ∀ s, I s → s.cursor.isAt w.terminator = false → s.cursor.isAt first = false →
      E (s.unexpected [first, w.terminator]) s)
    (hitem : ∀ s, I s → s.cursor.isAt first = true →
      item.Ensures { s with extension := [] } (Series.Continues w I R E s) E)
    {s : Reading} (hs : I (w.gap s)) :
    (Rule.repeated w item first).Ensures s (R (w.gap s)) E := by
  refine Ends.imp (Series.items_ensures hstop hfirst hitem [] hs) fun as t h => ?_
  obtain ⟨bs, rfl, hbs⟩ := h
  exact hbs

end EntityChat
