/-!
Sets of code points written as runs. The runs of a set ascend, so a search can stop at the first
run that lies beyond the code point.
-/

namespace EntityChat.Text

structure Span where
  first : Nat
  last : Nat
deriving DecidableEq

namespace Span

def holds (s : Span) (n : Nat) : Prop := s.first ≤ n ∧ n ≤ s.last

def cover : List Span → Nat → Bool
  | [], _ => false
  | s :: rest, n => if n < s.first then false else if n ≤ s.last then true else cover rest n

def ascending (low : Nat) : List Span → Bool
  | [] => true
  | s :: rest => low ≤ s.first && s.first ≤ s.last && ascending (s.last + 1) rest

theorem le_of_holds {low n : Nat} {spans : List Span} (h : ascending low spans = true)
    {s : Span} (hs : s ∈ spans) (hn : s.holds n) : low ≤ n := by
  induction spans generalizing low with
  | nil => cases hs
  | cons t rest ih =>
    simp only [ascending, Bool.and_eq_true, decide_eq_true_eq] at h
    obtain ⟨⟨hlow, hle⟩, hrest⟩ := h
    rcases List.mem_cons.mp hs with rfl | hs
    · exact Nat.le_trans hlow hn.1
    · have := ih hrest hs
      omega

theorem cover_iff {low n : Nat} {spans : List Span} (h : ascending low spans = true) :
    cover spans n = true ↔ ∃ s ∈ spans, s.holds n := by
  induction spans generalizing low with
  | nil => simp [cover]
  | cons t rest ih =>
    simp only [ascending, Bool.and_eq_true, decide_eq_true_eq] at h
    obtain ⟨⟨hlow, hle⟩, hrest⟩ := h
    by_cases hf : n < t.first
    · simp only [cover, hf, if_true, Bool.false_eq_true, List.mem_cons, exists_eq_or_imp, false_iff,
        not_or, not_exists, not_and]
      refine ⟨fun ht => Nat.not_lt_of_le ht.1 hf, fun s hs hn => ?_⟩
      have := le_of_holds hrest hs hn
      omega
    · by_cases hl : n ≤ t.last
      · have ht : t.holds n := ⟨Nat.le_of_not_lt hf, hl⟩
        simp [cover, hf, hl, ht]
      · have ht : ¬ t.holds n := fun ht => hl ht.2
        simp [cover, hf, hl, ht, ih hrest]

end Span

end EntityChat.Text
