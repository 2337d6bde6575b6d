/-!
Documents: values with named parts, in the order in which they were put in, and their text with one
value a line and two blanks for each level.
-/

namespace EntityChat

inductive Json
  | boolean (b : Bool)
  | number (n : Nat)
  | text (s : String)
  | list (items : List Json)
  | object (fields : List (String × Json))

namespace Json

def byteDigits (n : Nat) : List Char := [Nat.digitChar (n / 16), Nat.digitChar (n % 16)]

/-- Quotes, backslashes and controls are escaped, and nothing else. -/
def escaped (c : Char) : List Char :=
  if c = '"' then ['\\', '"']
  else if c = '\\' then ['\\', '\\']
  else if c = '\x08' then ['\\', 'b']
  else if c = '\x0c' then ['\\', 'f']
  else if c = '\n' then ['\\', 'n']
  else if c = '\r' then ['\\', 'r']
  else if c = '\t' then ['\\', 't']
  else if c.toNat < 32 then ['\\', 'u', '0', '0'] ++ byteDigits c.toNat
  else [c]

def quoted (s : String) : String := "\"" ++ String.ofList (s.toList.flatMap escaped) ++ "\""

def margin (level : Nat) : String := String.ofList (List.replicate (2 * level) ' ')

def block (level : Nat) (opening closing : String) (parts : List String) : String :=
  if parts.isEmpty then opening ++ closing
  else
    opening ++ "\n" ++ ",\n".intercalate (parts.map fun p => margin (level + 1) ++ p) ++ "\n" ++
      margin level ++ closing

theorem sizeOf_field {fields : List (String × Json)} {f : String × Json} (h : f ∈ fields) :
    sizeOf f.2 < sizeOf fields := by
  have hf := List.sizeOf_lt_of_mem h
  cases f
  simp only [Prod.mk.sizeOf_spec] at hf ⊢
  omega

def lines (level : Nat) : Json → String
  | boolean b => if b then "true" else "false"
  | number n => n.repr
  | text s => quoted s
  | list items => block level "[" "]" (items.map fun j => j.lines (level + 1))
  | object fields =>
    block level "\x7b" "\x7d" (fields.map fun f => quoted f.1 ++ ": " ++ f.2.lines (level + 1))
termination_by j => sizeOf j
decreasing_by
  · decreasing_tactic
  · next h =>
    have hf := sizeOf_field h
    simp only [object.sizeOf_spec]
    omega

def render (j : Json) : String := j.lines 0

end Json

end EntityChat
