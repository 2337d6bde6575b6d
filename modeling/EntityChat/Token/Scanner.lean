import EntityChat.Token
import EntityChat.Token.Word

/-!
Cutting a source into tokens. A scanner gives one token at a time; every source has tokens, the
last of which is the end of input, and each token but that one takes up text.
-/

namespace EntityChat

structure Piece where
  kind : Kind
  lexeme : List Char
  rest : List Char

namespace Piece

/-- A quotation ends at the next quote. One that the line or the source cuts off is unrecognized
input up to there, its opening quote included. -/
def quotation (cs : List Char) : Piece :=
  match cs.dropWhile quotable with
  | '"' :: rest => ⟨.quotation, cs.takeWhile quotable, rest⟩
  | rest => ⟨.unrecognized, '"' :: cs.takeWhile quotable, rest⟩

def word (c : Char) (cs : List Char) : Piece :=
  let w := c :: cs.takeWhile wordContinue
  ⟨Kind.ofWord (String.ofList w), w, cs.dropWhile wordContinue⟩

def front (c : Char) (cs : List Char) : Piece :=
  match Kind.ofPunctuation? c with
  | some k => ⟨k, [c], cs⟩
  | none =>
    if c = '"' then quotation cs
    else if wordStart c then word c cs
    else ⟨.unrecognized, [c], cs⟩

theorem length_dropWhile_le (p : Char → Bool) (cs : List Char) :
    (cs.dropWhile p).length ≤ cs.length :=
  (List.dropWhile_sublist p).length_le

theorem rest_front_le (c : Char) (cs : List Char) : (front c cs).rest.length ≤ cs.length := by
  unfold front
  split
  · exact Nat.le_refl _
  · split
    · have h := length_dropWhile_le quotable cs
      unfold quotation
      split
      · next heq => rw [heq] at h; exact Nat.le_of_succ_le h
      · exact h
    · split
      · exact length_dropWhile_le _ _
      · exact Nat.le_refl _

end Piece

inductive Scanner
  | reading (rest : List Char) (here : Position)
  | finished

namespace Scanner

def ofSource (source : String) : Scanner := reading source.toList .start

def size : Scanner → Nat
  | reading rest _ => rest.length + 1
  | finished => 0

def next? : Scanner → Option (Token × Scanner)
  | finished => none
  | reading cs p =>
    let q := p.past (cs.takeWhile isGap)
    match cs.dropWhile isGap with
    | [] => some (Token.finish q, finished)
    | c :: rest =>
      let piece := Piece.front c rest
      some (⟨piece.kind, String.ofList piece.lexeme, q⟩,
        reading piece.rest (q.past (Token.spelled piece.kind piece.lexeme)))

theorem size_next {s s' : Scanner} {t : Token} (h : s.next? = some (t, s')) :
    s'.size < s.size := by
  cases s with
  | finished => simp [next?] at h
  | reading cs p =>
    have hd := Piece.length_dropWhile_le isGap cs
    simp only [next?] at h
    split at h
    · cases h; simp [size]
    · next c rest heq =>
      cases h
      have hf := Piece.rest_front_le c rest
      rw [heq, List.length_cons] at hd
      simp only [size]
      omega

def collect (taken : List Token) (s : Scanner) : List Token :=
  match _h : s.next? with
  | none => taken.reverse
  | some (t, s') => collect (t :: taken) s'
termination_by s.size
decreasing_by exact size_next _h

theorem collect_eq (taken : List Token) (s : Scanner) :
    collect taken s = taken.reverse ++ collect [] s := by
  rw [collect, collect.eq_def []]
  split
  · simp
  · next t s' h =>
    rw [collect_eq (t :: taken), collect_eq [t]]
    simp
termination_by s.size
decreasing_by all_goals exact size_next (by assumption)

theorem collect_finished : collect [] finished = [] := by rw [collect]; rfl

theorem collect_next {s s' : Scanner} {t : Token} (h : s.next? = some (t, s')) :
    collect [] s = t :: collect [] s' := by
  rw [collect]
  split
  · simp_all
  · next h' =>
    rw [h] at h'
    cases h'
    exact collect_eq [t] s'

end Scanner

def tokenize (source : String) : List Token := Scanner.collect [] (.ofSource source)

end EntityChat
