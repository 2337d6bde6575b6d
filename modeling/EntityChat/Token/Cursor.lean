import EntityChat.Token

/-!
A cursor over a list of tokens. It never runs out: behind the tokens stands an end of input, as
often as it is asked for. Looking ahead it counts in machine words, and so no farther than to the
last of them.
-/

namespace EntityChat

/-- What becomes of a sum of indices that is no machine word. The program stops there or the sum
wraps around, as the program was built. -/
inductive Overflow
  | stops
  | wraps
deriving DecidableEq

def Overflow.sum? : Overflow → Nat → Nat → Option Nat
  | stops, i, n => if i + n < UInt64.size then some (i + n) else none
  | wraps, i, n => some ((i + n) % UInt64.size)

structure Cursor where
  tokens : Array Token
  index : Nat
deriving DecidableEq

structure Mark where
  index : Nat
deriving DecidableEq

namespace Cursor

def ofTokens (ts : List Token) : Cursor := ⟨ts.toArray, 0⟩

def withoutNewlines (ts : List Token) : Cursor := ofTokens (ts.filter (·.kind ≠ .newline))

/-- The end of input behind the tokens: the last token if it is one, else a new one at the place
of the last token. -/
def finish (c : Cursor) : Token :=
  match c.tokens.back? with
  | none => Token.finish .start
  | some t => if t.kind = .endOfInput then t else Token.finish t.position

def tokenAt (c : Cursor) (i : Nat) : Token := c.tokens[i]?.getD c.finish

def current (c : Cursor) : Token := c.tokenAt c.index

/-- The token so many places ahead, or none if the program stops. -/
def lookahead (c : Cursor) (w : Overflow) (n : UInt64) : Option Token :=
  (w.sum? c.index n.toNat).map c.tokenAt

def isAt (c : Cursor) (k : Kind) : Bool := c.current.kind = k

def atEnd (c : Cursor) : Bool := c.isAt .endOfInput

def advance (c : Cursor) : Cursor :=
  if c.index < c.tokens.size then { c with index := c.index + 1 } else c

def eat? (c : Cursor) (k : Kind) : Option (Token × Cursor) :=
  if c.isAt k then some (c.current, c.advance) else none

def mark (c : Cursor) : Mark := ⟨c.index⟩

def reset (c : Cursor) (m : Mark) : Cursor := { c with index := min m.index c.tokens.size }

def ahead (c : Cursor) : List Token := c.tokens.toList.drop c.index

theorem tokenAt_ahead (c : Cursor) (n : Nat) :
    c.tokenAt (c.index + n) = c.ahead.getD n c.finish := by
  simp [tokenAt, ahead, List.getD_eq_getElem?_getD]

theorem lookahead_of_lt {c : Cursor} {n : UInt64} (h : c.index + n.toNat < UInt64.size)
    (w : Overflow) : c.lookahead w n = some (c.tokenAt (c.index + n.toNat)) := by
  cases w with
  | stops =>
    rw [lookahead, Overflow.sum?, if_pos h]
    rfl
  | wraps =>
    rw [lookahead, Overflow.sum?, Nat.mod_eq_of_lt h]
    rfl

theorem lookahead_stops {c : Cursor} {n : UInt64} (h : UInt64.size ≤ c.index + n.toNat) :
    c.lookahead .stops n = none := by
  rw [lookahead, Overflow.sum?, if_neg (Nat.not_lt.mpr h)]
  rfl

theorem lookahead_wraps {c : Cursor} {n : UInt64} (h : UInt64.size ≤ c.index + n.toNat)
    (hindex : c.index ≤ UInt64.size) : ∃ j, j + UInt64.size = c.index + n.toNat ∧ j < c.index ∧
      c.lookahead .wraps n = some (c.tokenAt j) := by
  have hn : n.toNat < UInt64.size := n.toNat_lt
  refine ⟨c.index + n.toNat - UInt64.size, Nat.sub_add_cancel h, by omega, ?_⟩
  rw [lookahead, Overflow.sum?, Nat.mod_eq_sub_mod h, Nat.mod_eq_of_lt (by omega)]
  rfl

theorem ahead_advance (c : Cursor) : c.advance.ahead = c.ahead.tail := by
  unfold advance
  split
  · simp [ahead]
  · next h =>
    have hd : c.ahead = [] := List.drop_eq_nil_of_le (by simpa using Nat.le_of_not_lt h)
    rw [hd]
    rfl

def remaining (c : Cursor) : Nat := c.tokens.size - c.index

def Leads (c d : Cursor) : Prop := d.tokens = c.tokens ∧ c.index ≤ d.index

theorem Leads.refl (c : Cursor) : c.Leads c := ⟨rfl, Nat.le_refl _⟩

theorem Leads.trans {b c d : Cursor} (h : b.Leads c) (h' : c.Leads d) : b.Leads d :=
  ⟨h'.1.trans h.1, Nat.le_trans h.2 h'.2⟩

theorem Leads.remaining_le {c d : Cursor} (h : c.Leads d) : d.remaining ≤ c.remaining := by
  unfold remaining
  rw [h.1]
  exact Nat.sub_le_sub_left h.2 _

theorem leads_advance (c : Cursor) : c.Leads c.advance := by
  unfold advance
  split
  · exact ⟨rfl, Nat.le_succ _⟩
  · exact .refl c

theorem index_advance_le {c : Cursor} (h : c.index ≤ c.tokens.size) :
    c.advance.index ≤ c.tokens.size := by
  unfold advance
  split
  · next hlt => exact hlt
  · exact h

theorem leads_eat {c d : Cursor} {k : Kind} {t : Token} (h : c.eat? k = some (t, d)) :
    c.Leads d := by
  unfold eat? at h
  split at h
  · cases h; exact leads_advance c
  · cases h

theorem kind_finish (c : Cursor) : c.finish.kind = .endOfInput := by
  unfold finish
  split
  · rfl
  · split
    · assumption
    · rfl

theorem index_lt_of_isAt {c : Cursor} {k : Kind} (h : c.isAt k) (hk : k ≠ .endOfInput) :
    c.index < c.tokens.size := by
  refine Nat.lt_of_not_le fun hle => hk ?_
  have hn : c.tokens[c.index]? = none := Array.getElem?_eq_none hle
  have hc : c.current = c.finish := by simp [current, tokenAt, hn]
  simp only [isAt, decide_eq_true_eq] at h
  rw [← h, hc, kind_finish]

theorem remaining_eat_lt {c d : Cursor} {k : Kind} {t : Token} (h : c.eat? k = some (t, d))
    (hk : k ≠ .endOfInput) : d.remaining < c.remaining := by
  unfold eat? at h
  split at h
  · next hat =>
    have hlt := index_lt_of_isAt hat hk
    cases h
    simp only [advance, hlt, if_true, remaining]
    omega
  · cases h

end Cursor

end EntityChat
