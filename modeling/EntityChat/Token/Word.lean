import EntityChat.Kind
import EntityChat.Text.Alphabetic
import EntityChat.Text.AsciiCase
import EntityChat.Text.Blank
import EntityChat.Text.Numeric

/-!
The characters that form words, the ones that only keep words apart, and the four keywords.
-/

namespace EntityChat

def wordStart (c : Char) : Bool := Text.isAlphabetic c || c == '_'

def wordContinue (c : Char) : Bool := Text.isAlphabetic c || Text.isNumeric c || c == '_'

def isGap (c : Char) : Bool := Text.isBlank c && c != '\n'

def quotable (c : Char) : Bool := c != '"' && c != '\n'

def keywords : List (String × Kind) :=
  [("create", .createWord), ("entity", .entityWord), ("unique", .uniqueWord), ("says", .saysWord)]

/-- Keywords are known in any mixture of capital and small letters. -/
def keyword? (w : String) : Option Kind :=
  (keywords.find? fun k => Text.sameUpToCase k.1 w).map Prod.snd

def Kind.ofWord (w : String) : Kind := (keyword? w).getD .identifier

end EntityChat
