import EntityChat.Rule

/-!
Repetition. Items are kept apart by a separator, may be followed by one, and go on up to a
terminator, which is left standing. Where separators collapse, any number of them counts as one,
and they may also come first.
-/

namespace EntityChat

def Cursor.skip (c : Cursor) (k : Kind) : Cursor :=
  if _h : c.isAt k = true ∧ c.index < c.tokens.size then c.advance.skip k else c
termination_by c.remaining
decreasing_by simp only [remaining, advance, _h.2, if_true]; omega

theorem Cursor.leads_skip (c : Cursor) (k : Kind) : c.Leads (c.skip k) := by
  fun_induction Cursor.skip c k with
  | case1 c _ ih => exact c.leads_advance.trans ih
  | case2 c _ => exact .refl c

structure Series where
  separator : Kind
  terminator : Kind
  collapse : Bool
  separator_ne_end : separator ≠ .endOfInput := by decide

namespace Series

variable {α : Type}

def gap (w : Series) (s : Reading) : Reading :=
  if w.collapse then { s with cursor := s.cursor.skip w.separator } else s

theorem leads_gap (w : Series) (s : Reading) : s.cursor.Leads (w.gap s).cursor := by
  unfold gap
  split
  · exact s.cursor.leads_skip w.separator
  · exact .refl s.cursor

/-- The rest of the items, behind those that `taken` holds in reverse. The reading stands where an
item could begin. -/
def items (w : Series) (item : Rule α) (first : Kind) (taken : List α) (s : Reading) :
    Except Diagnostic (List α) × Reading :=
  if s.cursor.isAt w.terminator then (.ok taken.reverse, s)
  else if s.cursor.isAt first then
    match _h : item.run { s with extension := [] } with
    | (.error d, t) => (.error d, t)
    | (.ok a, t) =>
      match _h' : t.cursor.eat? w.separator with
      | some (_, c) => items w item first (a :: taken) (w.gap { t with cursor := c })
      | none =>
        if t.cursor.isAt w.terminator then (.ok (a :: taken).reverse, t)
        else (.error (t.unexpected (w.separator :: w.terminator :: t.extension)), t)
  else (.error (s.unexpected [first, w.terminator]), s)
termination_by s.cursor.remaining
decreasing_by
  have hi := item.leads { s with extension := [] }
  rw [_h] at hi
  have hg := w.leads_gap { t with cursor := c }
  exact Nat.lt_of_le_of_lt hg.remaining_le
    (Nat.lt_of_lt_of_le (Cursor.remaining_eat_lt _h' w.separator_ne_end) hi.remaining_le)

theorem leads_items (w : Series) (item : Rule α) (first : Kind) (taken : List α) (s : Reading) :
    s.cursor.Leads (w.items item first taken s).2.cursor := by
  have step {s t : Reading} {r : Except Diagnostic α}
      (h : item.run { s with extension := [] } = (r, t)) : s.cursor.Leads t.cursor := by
    have hi := item.leads { s with extension := [] }
    rwa [h] at hi
  fun_induction items w item first taken s with
  | case1 => exact .refl _
  | case2 taken s _ _ d t h => exact step h
  | case3 taken s _ _ a t h u c h' ih =>
    exact (step h).trans ((Cursor.leads_eat h').trans ((w.leads_gap _).trans ih))
  | case4 taken s _ _ a t h => exact step h
  | case5 taken s _ _ a t h => exact step h
  | case6 => exact .refl _

end Series

/-- The items of a series, each of which begins with a token of the kind `first`. -/
def Rule.repeated {α : Type} (w : Series) (item : Rule α) (first : Kind) : Rule (List α) where
  run s := w.items item first [] (w.gap s)
  leads s := (w.leads_gap s).trans (w.leads_items item first [] (w.gap s))

def Rule.skip (k : Kind) : Rule Unit :=
  ⟨fun s => (.ok (), { s with cursor := s.cursor.skip k }), fun s => s.cursor.leads_skip k⟩

end EntityChat
