import EntityChat.Token
import EntityChat.Token.Word

/-!
Cutting a source into tokens in place. A pointer goes along the source and counts bytes, and a
lexeme that may be long is the text between two of its offsets. There is no such text if an offset
falls within a character, and then a call fails.
-/

namespace EntityChat

def slice? (source : String) (i j : Nat) : Option String :=
  if h : (⟨i⟩ : String.Pos.Raw).IsValid source ∧ (⟨j⟩ : String.Pos.Raw).IsValid source ∧ i ≤ j then
    some (source.extract ⟨⟨i⟩, h.1⟩ ⟨⟨j⟩, h.2.1⟩)
  else none

def indexed (i : Nat) : List Char → List (Nat × Char)
  | [] => []
  | c :: cs => (i, c) :: indexed (i + c.utf8Size) cs

structure Pointer where
  ahead : List (Nat × Char)
  line : UInt32
  column : UInt32
  done : Bool
deriving DecidableEq

/-- What comes of a call: the token, unless the tokens are at an end; the bounds of the text that
was cut out for it; and where the pointer stands behind it. -/
structure Call where
  token? : Option Token
  part : Option (Nat × Nat)
  after : Pointer
deriving DecidableEq

namespace Pointer

def ofSource (source : String) : Pointer := ⟨indexed 0 source.toList, 1, 1, false⟩

def offset (source : String) (p : Pointer) : Nat :=
  match p.ahead with
  | (i, _) :: _ => i
  | [] => source.utf8ByteSize

def position (source : String) (p : Pointer) : Position := ⟨p.offset source, p.line, p.column⟩

def bump (p : Pointer) : Pointer :=
  match p.ahead with
  | (_, c) :: rest =>
    if c = '\n' then ⟨rest, p.line + 1, 1, p.done⟩ else ⟨rest, p.line, p.column + 1, p.done⟩
  | [] => p

theorem ahead_bump {p : Pointer} {x : Nat × Char} {rest : List (Nat × Char)}
    (h : p.ahead = x :: rest) : p.bump.ahead = rest := by
  rw [bump, h]
  simp only
  split <;> rfl

def bumpWhile (more : Char → Bool) (p : Pointer) : Pointer :=
  match _h : p.ahead with
  | (_, c) :: _ => if more c then bumpWhile more p.bump else p
  | [] => p
termination_by p.ahead.length
decreasing_by
  rw [ahead_bump _h, _h]
  exact Nat.lt_succ_self _

def cut (source : String) (i j : Nat) (token : String → Token) (after : Pointer) : Option Call := do
  let text ← slice? source i j
  return ⟨some (token text), some (i, j), after⟩

def quotation (source : String) (start : Position) (p : Pointer) : Option Call :=
  let opened := p.bump
  let first := opened.offset source
  let behind := opened.bumpWhile quotable
  let last := behind.offset source
  match behind.ahead with
  | (_, '"') :: _ => cut source first last (⟨.quotation, ·, start⟩) behind.bump
  | _ => cut source start.offset last (⟨.unrecognized, ·, start⟩) behind

def word (source : String) (start : Position) (p : Pointer) : Option Call :=
  let behind := p.bumpWhile wordContinue
  cut source start.offset (behind.offset source) (fun text => ⟨.ofWord text, text, start⟩) behind

def front (source : String) (p : Pointer) (c : Char) : Option Call :=
  let start := p.position source
  let sign (k : Kind) : Call := ⟨some ⟨k, c.toString, start⟩, none, p.bump⟩
  match Kind.ofPunctuation? c with
  | some k => some (sign k)
  | none =>
    if c = '"' then quotation source start p
    else if wordStart c then word source start p
    else some (sign .unrecognized)

/-- A call, or `none` if it asks for a text that there is not. -/
def next (source : String) (p : Pointer) : Option Call :=
  if p.done then some ⟨none, none, p⟩
  else
    let q := p.bumpWhile isGap
    match q.ahead with
    | (_, c) :: _ => front source q c
    | [] => some ⟨some (.finish (q.position source)), none, { q with done := true }⟩

end Pointer

end EntityChat
