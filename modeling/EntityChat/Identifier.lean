import EntityChat.Position

/-!
Identifiers. Where one stands is kept with its name, but `==` and the hash go by the name alone.
-/

namespace EntityChat

structure Identifier where
  name : String
  position : Position
deriving DecidableEq

instance : BEq Identifier := ⟨fun a b => a.name == b.name⟩

instance : Hashable Identifier := ⟨fun a => hash a.name⟩

def Identifier.distinct (ids : List Identifier) : List Identifier := ids.eraseDups

def Identifier.firsts (ids : List Identifier) : List Nat :=
  ids.map fun a => ids.findIdx (a == ·)

end EntityChat
