/-!
Spelling up to the case of the letters A to Z. No other letter has a case here.
-/

namespace EntityChat.Text

def asciiSmall (s : String) : String := String.ofList (s.toList.map Char.toLower)

def sameUpToCase (s t : String) : Bool := asciiSmall s == asciiSmall t

end EntityChat.Text
