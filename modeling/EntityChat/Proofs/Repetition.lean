import EntityChat.Proofs.Sessions

/-!
What a series is, for any separator, terminator and first kind that can be told apart, and for any
rule that reads an item. A series is read just if its items stand between separators as the series
has them, up to its terminator; and otherwise there is one place where it breaks off, inside an
item, where an item could begin, or behind one. Each turn of the loop but the last takes a
separator, so the loop comes to an end.
-/

namespace EntityChat

inductive Cursor.Passes (k : Kind) : Nat → Cursor → Cursor → Prop
  | none {c} : Passes k 0 c c
  | next {n c d} : c.isAt k = true → Passes k n c.advance d → Passes k (n + 1) c d

/-- From the cursor the rule gives the outcome, and it leaves the cursor at `d`. -/
def Rule.Gives {α : Type} (r : Rule α) (c : Cursor) (o : Except Diagnostic α) (d : Cursor) : Prop :=
  ∃ s : Reading, s.cursor = c ∧ (r.run s).1 = o ∧ (r.run s).2.cursor = d

theorem Rule.Blind.gives_iff {α : Type} {r : Rule α} (hr : r.Blind) {s : Reading}
    {o : Except Diagnostic α} {d : Cursor} :
    r.Gives s.cursor o d ↔ (r.run s).1 = o ∧ (r.run s).2.cursor = d := by
  constructor
  · rintro ⟨s', hs', ho, hd⟩
    obtain ⟨hvalue, hcursor⟩ := hr s s' hs'.symm
    exact ⟨hvalue.trans ho, hcursor.trans hd⟩
  · exact fun h => ⟨s, rfl, h⟩

namespace Cursor

variable {k : Kind} {c d : Cursor}

theorem skip_of_isAt (hk : k ≠ .endOfInput) (h : c.isAt k = true) :
    c.skip k = c.advance.skip k := by
  rw [skip, dif_pos ⟨h, index_lt_of_isAt h hk⟩]

theorem Passes.skip_eq (hk : k ≠ .endOfInput) {n : Nat} (h : Passes k n c d) :
    c.skip k = d.skip k := by
  induction h with
  | none => rfl
  | next hat _ ih => rw [skip_of_isAt hk hat, ih]

theorem exists_passes_skip (c : Cursor) (k : Kind) :
    ∃ n ≤ c.remaining, Passes k n c (c.skip k) := by
  fun_induction Cursor.skip c k with
  | case1 c h ih =>
    obtain ⟨n, hn, hpass⟩ := ih
    have hremaining : c.advance.remaining + 1 = c.remaining := by
      simp only [remaining, advance, h.2, if_true]
      omega
    exact ⟨n + 1, hremaining ▸ Nat.succ_le_succ hn, .next h.1 hpass⟩
  | case2 c _ => exact ⟨0, Nat.zero_le _, .none⟩

end Cursor

namespace Series

variable {α : Type} (w : Series) (item : Rule α) (first : Kind)

def ItemRead (c : Cursor) (a : α) (d : Cursor) : Prop :=
  c.isAt first = true ∧ item.Gives c (.ok a) d

/-! How many separators may stand before the items, between two of them, and behind them. -/

def Before (n : Nat) : Prop := n = 0 ∨ w.collapse = true

def Between (n : Nat) : Prop := n = 1 ∨ w.collapse = true ∧ 1 ≤ n

def Behind (n : Nat) : Prop := n ≤ 1 ∨ w.collapse = true

inductive Listed : Cursor → List α → Cursor → Prop
  | one {c a d} : ItemRead item first c a d → Listed c [a] d
  | more {c a d n e as f} : ItemRead item first c a d → d.Passes w.separator n e → w.Between n →
      Listed e as f → Listed c (a :: as) f

/-- From `c` there is a series with the items, and its terminator stands at `e`. -/
def Formed (c : Cursor) (as : List α) (e : Cursor) : Prop :=
  e.isAt w.terminator = true ∧ ∃ m d, c.Passes w.separator m d ∧ w.Before m ∧
    (as = [] ∧ d = e ∨
      ∃ f n, w.Listed item first d as f ∧ f.Passes w.separator n e ∧ w.Behind n)

/-- From `c` there are the items, each with separators behind it, and another could begin at `e`. -/
inductive Open (c : Cursor) : List α → Cursor → Prop
  | start {n d} : c.Passes w.separator n d → w.Before n → Open c [] d
  | more {as b a d n e} : Open c as b → ItemRead item first b a d → d.Passes w.separator n e →
      w.Between n → Open c (as ++ [a]) e

/-- From `c` there is no series, as the diagnostic says of the token at `e`. -/
inductive Broken (c : Cursor) : Diagnostic → Cursor → Prop
  | within {as b x e} : w.Open item first c as b → b.isAt first = true →
      item.Gives b (.error x) e → Broken c x e
  | opening {as e} : w.Open item first c as e → e.isAt first = false →
      e.isAt w.terminator = false → (w.collapse = true → e.isAt w.separator = false) →
      Broken c (.unexpected e.current [first, w.terminator]) e
  | behind {as b a t} : w.Open item first c as b → b.isAt first = true →
      item.run ⟨b, []⟩ = (.ok a, t) → t.cursor.isAt w.separator = false →
      t.cursor.isAt w.terminator = false →
      Broken c (.unexpected t.cursor.current (w.separator :: w.terminator :: t.extension)) t.cursor

variable {w item first} {b c d e : Cursor} {a : α} {as : List α}

theorem Listed.snoc (h : w.Listed item first c as d) {n : Nat} (hpass : d.Passes w.separator n e)
    (hn : w.Between n) {f : Cursor} (ha : ItemRead item first e a f) :
    w.Listed item first c (as ++ [a]) f := by
  induction h with
  | one h => exact .more h hpass hn (.one ha)
  | more h hpass' hn' _ ih => exact .more h hpass' hn' (ih hpass)

theorem Between.behind {n : Nat} (h : w.Between n) : w.Behind n := by
  rcases h with rfl | ⟨hcollapse, -⟩
  · exact .inl (Nat.le_refl _)
  · exact .inr hcollapse

theorem Open.listed (h : w.Open item first c as e) :
    ∃ m d, c.Passes w.separator m d ∧ w.Before m ∧
      (as = [] ∧ d = e ∨
        ∃ f n, w.Listed item first d as f ∧ f.Passes w.separator n e ∧ w.Between n) := by
  induction h with
  | start hpass hn => exact ⟨_, _, hpass, hn, .inl ⟨rfl, rfl⟩⟩
  | @more as b a d n e _ ha hpass hn ih =>
    obtain ⟨m, d', hlead, hm, ⟨rfl, rfl⟩ | ⟨f, n', hlist, hpass', hn'⟩⟩ := ih
    · exact ⟨m, d', hlead, hm, .inr ⟨d, n, .one ha, hpass, hn⟩⟩
    · exact ⟨m, d', hlead, hm, .inr ⟨d, n, hlist.snoc hpass' hn' ha, hpass, hn⟩⟩

theorem Open.append_listed {bs : List α} (h : w.Open item first c bs d)
    (hlist : w.Listed item first d as e) :
    ∃ cs b a, bs ++ as = cs ++ [a] ∧ w.Open item first c cs b ∧ ItemRead item first b a e := by
  induction hlist generalizing bs with
  | one ha => exact ⟨bs, _, _, rfl, h, ha⟩
  | more ha hpass hn _ ih =>
    obtain ⟨cs, b, a, heq, hopen, hb⟩ := ih (h.more ha hpass hn)
    exact ⟨cs, b, a, by rw [← heq, List.append_assoc, List.singleton_append], hopen, hb⟩

theorem formed_iff : w.Formed item first c as e ↔ e.isAt w.terminator = true ∧
    (w.Open item first c as e ∨
      ∃ bs b a, as = bs ++ [a] ∧ w.Open item first c bs b ∧ ItemRead item first b a e) := by
  refine and_congr_right fun _ => ⟨?_, ?_⟩
  · rintro ⟨m, d, hlead, hm, ⟨rfl, rfl⟩ | ⟨f, n, hlist, hpass, hn⟩⟩
    · exact .inl (.start hlead hm)
    · obtain ⟨bs, b, a, rfl, hopen, ha⟩ := (Open.start hlead hm).append_listed hlist
      cases hpass with
      | none => exact .inr ⟨bs, b, a, rfl, hopen, ha⟩
      | @next n _ _ hat hpass =>
        refine .inl (hopen.more ha (.next hat hpass) ?_)
        rcases hn with hn | hcollapse
        · exact .inl (by omega)
        · exact .inr ⟨hcollapse, by omega⟩
  · rintro (hopen | ⟨bs, b, a, rfl, hopen, ha⟩)
    · obtain ⟨m, d, hlead, hm, hempty | ⟨f, n, hlist, hpass, hn⟩⟩ := hopen.listed
      · exact ⟨m, d, hlead, hm, .inl hempty⟩
      · exact ⟨m, d, hlead, hm, .inr ⟨f, n, hlist, hpass, hn.behind⟩⟩
    · obtain ⟨m, d, hlead, hm, ⟨rfl, rfl⟩ | ⟨f, n, hlist, hpass, hn⟩⟩ := hopen.listed
      · exact ⟨m, d, hlead, hm, .inr ⟨e, 0, .one ha, .none, .inl (Nat.zero_le _)⟩⟩
      · exact ⟨m, d, hlead, hm,
          .inr ⟨e, 0, hlist.snoc hpass hn ha, .none, .inl (Nat.zero_le _)⟩⟩

variable {s : Reading}

theorem gap_of_passes {n : Nat} (h : c.Passes w.separator n d) (hn : w.Before n)
    (ks : List Kind) : w.gap ⟨c, ks⟩ = w.gap ⟨d, ks⟩ := by
  rcases hn with rfl | hcollapse
  · cases h
    rfl
  · simp only [gap, hcollapse, if_true, h.skip_eq w.separator_ne_end]

theorem gap_spec (w : Series) (s : Reading) :
    (∃ n, s.cursor.Passes w.separator n (w.gap s).cursor ∧ w.Before n) ∧
      (w.collapse = true → (w.gap s).cursor.isAt w.separator = false) := by
  unfold gap
  split
  · next hcollapse =>
    obtain ⟨n, -, hpass⟩ := s.cursor.exists_passes_skip w.separator
    exact ⟨⟨n, hpass, .inr hcollapse⟩, fun _ => (s.cursor.skip_spec w.separator_ne_end).2.1⟩
  · next hcollapse => exact ⟨⟨0, .none, .inl rfl⟩, fun h => absurd h hcollapse⟩

theorem items_sound (taken : List α) (hopen : w.Open item first c taken.reverse s.cursor)
    (hgap : w.collapse = true → s.cursor.isAt w.separator = false) :
    Ends (w.items item first taken s) (fun as t => w.Formed item first c as t.cursor)
      fun x t => w.Broken item first c x t.cursor := by
  have hread {s t : Reading} {o : Except Diagnostic α}
      (h : item.run { s with extension := [] } = (o, t)) : item.Gives s.cursor o t.cursor :=
    ⟨{ s with extension := [] }, rfl, by rw [h], by rw [h]⟩
  fun_induction items w item first taken s with
  | case1 taken s hterm => exact formed_iff.mpr ⟨hterm, .inl hopen⟩
  | case2 taken s _ hat x t h => exact .within hopen hat (hread h)
  | case3 taken s _ hat a t h z d heat ih =>
    obtain ⟨⟨n, hn, hbefore⟩, hbound⟩ := w.gap_spec { t with cursor := d }
    obtain ⟨hsep, -, rfl⟩ := Cursor.eat?_eq_some_iff.mp heat
    refine ih ?_ hbound
    rw [List.reverse_cons]
    refine hopen.more ⟨hat, hread h⟩ (.next hsep hn) ?_
    rcases hbefore with rfl | hcollapse
    · exact .inl rfl
    · exact .inr ⟨hcollapse, Nat.succ_le_succ (Nat.zero_le n)⟩
  | case4 taken s _ hat a t h _ hterm =>
    exact formed_iff.mpr
      ⟨hterm, .inr ⟨taken.reverse, s.cursor, a, List.reverse_cons, hopen, hat, hread h⟩⟩
  | case5 taken s _ hat a t h heat hterm =>
    exact .behind hopen hat h (Cursor.eat?_eq_none_iff.mp heat) (Bool.eq_false_iff.mpr hterm)
  | case6 taken s hterm hat =>
    exact .opening hopen (Bool.eq_false_iff.mpr hat) (Bool.eq_false_iff.mpr hterm) hgap

section

variable {ks : List Kind} (hterm : b.isAt w.terminator = false) (hat : b.isAt first = true)
  (taken : List α)

include hterm hat

theorem items_of_item_error {x : Diagnostic} {t : Reading}
    (h : item.run ⟨b, []⟩ = (.error x, t)) :
    w.items item first taken ⟨b, ks⟩ = (.error x, t) := by
  rw [items, if_neg (Bool.eq_false_iff.mp hterm), if_pos hat]
  split
  · next heq =>
    rw [h] at heq
    cases heq
    rfl
  · next heq =>
    rw [h] at heq
    cases heq

theorem items_of_item_ok {t : Reading} (h : item.run ⟨b, []⟩ = (.ok a, t)) :
    w.items item first taken ⟨b, ks⟩ =
      if t.cursor.isAt w.separator then
        w.items item first (a :: taken) (w.gap { t with cursor := t.cursor.advance })
      else if t.cursor.isAt w.terminator then (.ok (a :: taken).reverse, t)
      else (.error (t.unexpected (w.separator :: w.terminator :: t.extension)), t) := by
  rw [items, if_neg (Bool.eq_false_iff.mp hterm), if_pos hat]
  split
  · next heq =>
    rw [h] at heq
    cases heq
  · next heq =>
    rw [h] at heq
    cases heq
    split
    · next heat =>
      obtain ⟨hsep, -, rfl⟩ := Cursor.eat?_eq_some_iff.mp heat
      rw [if_pos hsep]
    · next heat =>
      rw [if_neg (Bool.eq_false_iff.mp (Cursor.eat?_eq_none_iff.mp heat))]

end

theorem ItemRead.exists_run (h : ItemRead item first b a d) (hitem : item.Blind) :
    ∃ ks, item.run ⟨b, []⟩ = (.ok a, ⟨d, ks⟩) := by
  obtain ⟨hvalue, hcursor⟩ := (hitem.gives_iff (s := ⟨b, []⟩)).mp h.2
  refine ⟨(item.run ⟨b, []⟩).2.extension, ?_⟩
  rw [← hvalue, ← hcursor]

section

variable (hsep : w.separator ≠ first) (hterm : w.terminator ≠ first) (hitem : item.Blind)

include hsep hterm hitem

theorem Open.exists_run (h : w.Open item first s.cursor as d) :
    ∃ ks, (Rule.repeated w item first).run s = w.items item first as.reverse (w.gap ⟨d, ks⟩) := by
  induction h with
  | start hpass hn =>
    exact ⟨s.extension, congrArg (w.items item first []) (gap_of_passes hpass hn s.extension)⟩
  | @more as b a d n e _ ha hpass hn ih =>
    obtain ⟨ks, hrun⟩ := ih
    obtain ⟨ks', hread⟩ := ha.exists_run hitem
    rw [gap_eq_self fun _ => Cursor.isAt_ne ha.1 hsep,
      items_of_item_ok (Cursor.isAt_ne ha.1 hterm) ha.1 _ hread] at hrun
    cases hpass with
    | none => rcases hn with hn | ⟨-, hn⟩ <;> cases hn
    | @next n _ _ hat hpass =>
      have hbefore : w.Before n := hn.imp Nat.succ.inj And.left
      refine ⟨ks', ?_⟩
      rw [hrun, if_pos hat, gap_of_passes hpass hbefore, List.reverse_append,
        List.reverse_singleton, List.singleton_append]

theorem Open.exists_run_settled (h : w.Open item first s.cursor as d)
    (hgap : w.collapse = true → d.isAt w.separator = false) :
    ∃ ks, (Rule.repeated w item first).run s = w.items item first as.reverse ⟨d, ks⟩ := by
  obtain ⟨ks, hrun⟩ := h.exists_run hsep hterm hitem
  exact ⟨ks, by rw [hrun, gap_eq_self hgap]⟩

theorem run_of_formed (hends : w.separator ≠ w.terminator)
    (h : w.Formed item first s.cursor as e) :
    ((Rule.repeated w item first).run s).1 = .ok as ∧
      ((Rule.repeated w item first).run s).2.cursor = e := by
  obtain ⟨hat, hopen | ⟨bs, b, a, rfl, hopen, ha⟩⟩ := formed_iff.mp h
  · obtain ⟨ks, hrun⟩ :=
      hopen.exists_run_settled hsep hterm hitem fun _ => Cursor.isAt_ne hat hends
    rw [hrun, items, if_pos hat, List.reverse_reverse]
    exact ⟨rfl, rfl⟩
  · obtain ⟨ks, hrun⟩ :=
      hopen.exists_run_settled hsep hterm hitem fun _ => Cursor.isAt_ne ha.1 hsep
    obtain ⟨ks', hread⟩ := ha.exists_run hitem
    rw [hrun, items_of_item_ok (Cursor.isAt_ne ha.1 hterm) ha.1 _ hread,
      if_neg (Bool.eq_false_iff.mp (Cursor.isAt_ne hat hends)), if_pos hat, List.reverse_cons,
      List.reverse_reverse]
    exact ⟨rfl, rfl⟩

theorem run_of_broken {x : Diagnostic} (h : w.Broken item first s.cursor x e) :
    ((Rule.repeated w item first).run s).1 = .error x ∧
      ((Rule.repeated w item first).run s).2.cursor = e := by
  cases h with
  | within hopen hat hfail =>
    obtain ⟨ks, hrun⟩ :=
      hopen.exists_run_settled hsep hterm hitem fun _ => Cursor.isAt_ne hat hsep
    obtain ⟨hvalue, hcursor⟩ := (hitem.gives_iff (s := ⟨_, []⟩)).mp hfail
    rw [hrun, items_of_item_error (Cursor.isAt_ne hat hterm) hat _ (Prod.ext hvalue rfl)]
    exact ⟨rfl, hcursor⟩
  | opening hopen hfirst hstop hgap =>
    obtain ⟨ks, hrun⟩ := hopen.exists_run_settled hsep hterm hitem hgap
    rw [hrun, items, if_neg (Bool.eq_false_iff.mp hstop), if_neg (Bool.eq_false_iff.mp hfirst)]
    exact ⟨rfl, rfl⟩
  | behind hopen hat hread hfree hstop =>
    obtain ⟨ks, hrun⟩ :=
      hopen.exists_run_settled hsep hterm hitem fun _ => Cursor.isAt_ne hat hsep
    rw [hrun, items_of_item_ok (Cursor.isAt_ne hat hterm) hat _ hread,
      if_neg (Bool.eq_false_iff.mp hfree), if_neg (Bool.eq_false_iff.mp hstop)]
    exact ⟨rfl, rfl⟩

end

inductive Turn (α : Type)
  | leave (o : Except Diagnostic (List α)) (s : Reading)
  | again (taken : List α) (s : Reading)

def turn (w : Series) (item : Rule α) (first : Kind) (taken : List α) (s : Reading) : Turn α :=
  if s.cursor.isAt w.terminator then .leave (.ok taken.reverse) s
  else if !taken.isEmpty || s.cursor.isAt first then
    match item.run { s with extension := [] } with
    | (.error x, t) => .leave (.error x) t
    | (.ok a, t) =>
      match t.cursor.eat? w.separator with
      | none =>
        if t.cursor.isAt w.terminator then .leave (.ok (a :: taken).reverse) t
        else .leave (.error (t.unexpected (w.separator :: w.terminator :: t.extension))) t
      | some (_, c) =>
        let u := w.gap { t with cursor := c }
        if !u.cursor.isAt w.terminator && !u.cursor.isAt first then
          .leave (.error (u.unexpected [first, w.terminator])) u
        else .again (a :: taken) u
  else .leave (.error (s.unexpected [first, w.terminator])) s

/-- The loop is left in the last of so many turns. -/
inductive Turns (w : Series) (item : Rule α) (first : Kind) :
    Nat → List α → Reading → Except Diagnostic (List α) × Reading → Prop
  | last {taken s o t} : w.turn item first taken s = .leave o t → Turns w item first 1 taken s (o, t)
  | next {n taken s taken' t o} : w.turn item first taken s = .again taken' t →
      Turns w item first n taken' t o → Turns w item first (n + 1) taken s o

theorem exists_turns (taken : List α)
    (h : taken = [] ∨ s.cursor.isAt w.terminator = true ∨ s.cursor.isAt first = true) :
    ∃ n ≤ s.cursor.remaining + 1, w.Turns item first n taken s (w.items item first taken s) := by
  have hone {o : Except Diagnostic (List α)} {s t : Reading} {taken : List α}
      (h : w.turn item first taken s = .leave o t) :
      ∃ n ≤ s.cursor.remaining + 1, w.Turns item first n taken s (o, t) :=
    ⟨1, Nat.le_add_left 1 _, .last h⟩
  fun_induction items w item first taken s with
  | case1 taken s hterm => exact hone (by simp [turn, hterm])
  | case2 taken s hterm hat x t hread => exact hone (by simp [turn, hterm, hat, hread])
  | case3 taken s hterm hat a t hread z c heat ih =>
    have hless := Nat.lt_of_le_of_lt (w.leads_gap { t with cursor := c }).remaining_le
      (Nat.lt_of_lt_of_le (Cursor.remaining_eat_lt heat w.separator_ne_end)
        (hread ▸ item.leads { s with extension := [] }).remaining_le)
    generalize hu : w.gap { t with cursor := c } = u at *
    by_cases hgo : u.cursor.isAt w.terminator = true ∨ u.cursor.isAt first = true
    · obtain ⟨n, hn, hturns⟩ := ih (.inr hgo)
      have hagain : w.turn item first taken s = .again (a :: taken) u := by
        rcases hgo with hend | hfirst
        · simp [turn, hterm, hat, hread, heat, hu, hend]
        · simp [turn, hterm, hat, hread, heat, hu, hfirst]
      exact ⟨n + 1, Nat.succ_le_succ (Nat.le_trans hn hless), .next hagain hturns⟩
    · obtain ⟨hend, hfirst⟩ := not_or.mp hgo
      rw [items, if_neg hend, if_neg hfirst]
      exact hone (by simp [turn, hterm, hat, hread, heat, hu, hend, hfirst])
  | case4 taken s hterm hat a t hread heat hend =>
    exact hone (by simp [turn, hterm, hat, hread, heat, hend])
  | case5 taken s hterm hat a t hread heat hend =>
    exact hone (by simp [turn, hterm, hat, hread, heat, hend])
  | case6 taken s hterm hat =>
    obtain rfl : taken = [] := by simpa [hterm, hat] using h
    exact hone (by simp [turn, hterm, hat])

/-- Where separator, terminator and first kind can be told apart and an item depends on the place
of the cursor alone: no loop takes more turns than there are tokens left, and one; the items are
given just if there is a series of them, at whose terminator the cursor then is; and a diagnostic is
given just if the series breaks off as it says. -/
theorem repeated_exact (hends : w.separator ≠ w.terminator) (hsep : w.separator ≠ first)
    (hterm : w.terminator ≠ first) (hitem : item.Blind) (s : Reading) :
    (∀ c : Cursor, ∃ n ≤ c.remaining, c.Passes w.separator n (c.skip w.separator) ∧
      (c.skip w.separator).isAt w.separator = false) ∧
    (∃ n ≤ s.cursor.remaining + 1,
      w.Turns item first n [] (w.gap s) ((Rule.repeated w item first).run s)) ∧
    (∀ (as : List α) (e : Cursor),
      ((Rule.repeated w item first).run s).1 = .ok as ∧
        ((Rule.repeated w item first).run s).2.cursor = e ↔
      w.Formed item first s.cursor as e) ∧
    ∀ (x : Diagnostic) (e : Cursor),
      ((Rule.repeated w item first).run s).1 = .error x ∧
        ((Rule.repeated w item first).run s).2.cursor = e ↔
      w.Broken item first s.cursor x e := by
  obtain ⟨⟨m, hpass, hbefore⟩, hgap⟩ := w.gap_spec s
  have hsound : (Rule.repeated w item first).Ensures s
      (fun as t => w.Formed item first s.cursor as t.cursor)
      fun x t => w.Broken item first s.cursor x t.cursor :=
    items_sound [] (.start hpass hbefore) hgap
  refine ⟨fun c => ?_, ?_, fun as e => ⟨?_, run_of_formed hsep hterm hitem hends⟩,
    fun x e => ⟨?_, run_of_broken hsep hterm hitem⟩⟩
  · obtain ⟨n, hn, hskip⟩ := c.exists_passes_skip w.separator
    exact ⟨n, hn, hskip, (c.skip_spec w.separator_ne_end).2.1⟩
  · have hturns : ∃ n ≤ (w.gap s).cursor.remaining + 1,
        w.Turns item first n [] (w.gap s) ((Rule.repeated w item first).run s) :=
      exists_turns [] (.inl rfl)
    obtain ⟨n, hn, hturns⟩ := hturns
    exact ⟨n, Nat.le_trans hn (Nat.succ_le_succ (w.leads_gap s).remaining_le), hturns⟩
  · rintro ⟨hvalue, rfl⟩
    exact hsound.of_ok hvalue
  · rintro ⟨hvalue, rfl⟩
    exact hsound.of_error hvalue

theorem repeated_exact_doubled_comma :
    let w (collapse : Bool) : Series := ⟨.comma, .endOfInput, collapse, by decide⟩
    let comma : Token := ⟨.comma, ",", ⟨2, 1, 3⟩⟩
    let s : Reading :=
      ⟨.ofTokens [⟨.identifier, "a", .start⟩, ⟨.comma, ",", ⟨1, 1, 2⟩⟩, comma,
        ⟨.identifier, "b", ⟨3, 1, 4⟩⟩, ⟨.endOfInput, "", ⟨4, 1, 5⟩⟩], []⟩
    (∀ b, (w b).separator ≠ (w b).terminator ∧ (w b).separator ≠ .identifier ∧
      (w b).terminator ≠ .identifier) ∧
    Rule.identifier.Blind ∧
    ((Rule.repeated (w true) Rule.identifier .identifier).run s).1 =
      .ok [⟨"a", .start⟩, ⟨"b", ⟨3, 1, 4⟩⟩] ∧
    ((Rule.repeated (w false) Rule.identifier .identifier).run s).1 =
      .error (.unexpected comma [.identifier, .endOfInput]) := by
  intro w comma s
  have hkinds (b : Bool) : (w b).separator ≠ (w b).terminator ∧
      (w b).separator ≠ .identifier ∧ (w b).terminator ≠ .identifier := ⟨nofun, nofun, nofun⟩
  have hexact (b : Bool) := repeated_exact (hkinds b).1 (hkinds b).2.1 (hkinds b).2.2
    Rule.blind_identifier s
  have hread (c : Cursor) (hc : c.isAt .identifier = true) :
      ItemRead Rule.identifier .identifier c c.current.identifier c.advance := by
    have hrun : Rule.identifier.run ⟨c, []⟩ = (.ok c.current.identifier, ⟨c.advance, []⟩) := by
      rw [Rule.identifier, Rule.run_bind_of_ok (Rule.run_expect_of_isAt hc)]
      rfl
    exact ⟨hc, ⟨c, []⟩, rfl, by rw [hrun], by rw [hrun]⟩
  refine ⟨hkinds, Rule.blind_identifier, ?_, ?_⟩
  · have hformed : (w true).Formed Rule.identifier .identifier s.cursor
        [⟨"a", .start⟩, ⟨"b", ⟨3, 1, 4⟩⟩] { s.cursor with index := 4 } := by
      refine ⟨rfl, 0, _, .none, .inl rfl, .inr ⟨_, 0, ?_, .none, .inl (Nat.zero_le _)⟩⟩
      exact .more (hread _ rfl) (.next rfl (.next rfl .none)) (.inr ⟨rfl, by decide⟩)
        (.one (hread _ rfl))
    exact (((hexact true).2.2.1 _ _).mpr hformed).1
  · have hopen : (w false).Open Rule.identifier .identifier s.cursor [⟨"a", .start⟩]
        { s.cursor with index := 2 } :=
      .more (.start .none (.inl rfl)) (hread _ rfl) (.next rfl .none) (.inl rfl)
    exact (((hexact false).2.2.2 _ _).mpr (.opening hopen rfl rfl nofun)).1

end Series

end EntityChat
