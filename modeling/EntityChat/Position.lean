/-!
Places in a source. The offset counts bytes of the encoded text; lines and columns count from one,
a column for each character, in 32 bits.
-/

namespace EntityChat

structure Position where
  offset : Nat
  line : UInt32
  column : UInt32
deriving DecidableEq

namespace Position

def start : Position := ⟨0, 1, 1⟩

def after (p : Position) (c : Char) : Position :=
  if c = '\n' then ⟨p.offset + c.utf8Size, p.line + 1, 1⟩
  else ⟨p.offset + c.utf8Size, p.line, p.column + 1⟩

def past (p : Position) (cs : List Char) : Position := cs.foldl after p

def le (p q : Position) : Bool :=
  p.offset < q.offset ||
    p.offset == q.offset && (p.line < q.line || p.line == q.line && p.column ≤ q.column)

def display (p : Position) : String := p.line.toNat.repr ++ ":" ++ p.column.toNat.repr

end Position

end EntityChat
