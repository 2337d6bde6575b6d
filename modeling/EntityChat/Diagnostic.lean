import EntityChat.KindSet
import EntityChat.Token

/-!
What a failed reading reports: the token at which it stopped, where that stands, and the kinds that
would have been accepted in its place.
-/

namespace EntityChat

structure Diagnostic where
  position : Position
  expected : KindSet
  found : Token
deriving DecidableEq

namespace Diagnostic

def unexpected (found : Token) (expected : List Kind) : Diagnostic :=
  ⟨found.position, .ofList expected, found⟩

def message (d : Diagnostic) : String :=
  d.position.display ++ ": expected " ++ d.expected.display ++ ", found " ++ d.found.display

end Diagnostic

end EntityChat
