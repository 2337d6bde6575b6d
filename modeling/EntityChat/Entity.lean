import EntityChat.Identifier
import EntityChat.Text.AsciiCase

/-!
Declarations of entities, and the one way of writing each. `==` leaves positions out of account,
so that two sources that differ in layout alone declare equal entities.
-/

namespace EntityChat

structure TypeName where
  name : String
  builtin : Bool
deriving DecidableEq

def builtinNames : List String :=
  ["string", "int", "integer", "float", "double", "decimal", "bool", "boolean", "date", "datetime",
   "uuid"]

/-- Builtin types are known in any mixture of capital and small letters. -/
def TypeName.named (name : String) : TypeName :=
  ⟨name, builtinNames.any (Text.sameUpToCase · name)⟩

inductive Constraint
  | unique
deriving DecidableEq

def Constraint.keyword : Constraint → String
  | .unique => "unique"

def Constraint.label : Constraint → String
  | .unique => "Unique"

structure Constraints where
  unique : Bool
deriving DecidableEq

namespace Constraints

def empty : Constraints := ⟨false⟩

def insert (s : Constraints) : Constraint → Constraints
  | .unique => { s with unique := true }

def contains (s : Constraints) : Constraint → Bool
  | .unique => s.unique

def toList (s : Constraints) : List Constraint := if s.unique then [.unique] else []

end Constraints

structure Member where
  name : Identifier
  type : TypeName
  constraints : Constraints
deriving DecidableEq

namespace Member

instance : BEq Member :=
  ⟨fun a b => a.name == b.name && a.type == b.type && a.constraints == b.constraints⟩

def has (m : Member) (c : Constraint) : Bool := m.constraints.contains c

def suffix (m : Member) : String :=
  match m.constraints.toList with
  | [] => ""
  | cs => " (" ++ " ".intercalate (cs.map Constraint.keyword) ++ ")"

def render (m : Member) : String := m.name.name ++ ": " ++ m.type.name ++ m.suffix

end Member

structure Entity where
  name : Identifier
  members : List Member
deriving DecidableEq

namespace Entity

instance : BEq Entity := ⟨fun a b => a.name == b.name && a.members == b.members⟩

def member? (e : Entity) (name : String) : Option Member :=
  e.members.find? (·.name.name == name)

def render (e : Entity) : String :=
  match e.members with
  | [] => "create entity " ++ e.name.name ++ " \x7b\x7d"
  | ms =>
    "create entity " ++ e.name.name ++ " \x7b\n" ++
      String.join (ms.map fun m => "    " ++ m.render ++ ",\n") ++ "\x7d"

end Entity

end EntityChat
