import EntityChat.Text.DefaultIgnorable
import EntityChat.Text.GraphemeExtend
import EntityChat.Text.Unprintable

/-!
Text in quotes that stays on one line: quotes, backslashes and line breaks are written with a
backslash, and every hidden character is written by its code point.
-/

namespace EntityChat.Text

/-- The halfwidth forms of the voiced and semi-voiced sound marks. They join the character before
them and yet take up a cell of their own. -/
def isHalfwidthMark (c : Char) : Bool := c == '\uff9e' || c == '\uff9f'

def isHidden (c : Char) : Bool :=
  isUnprintable c || isDefaultIgnorable c || (extendsGrapheme c && !isHalfwidthMark c)

def codePoint (c : Char) : List Char :=
  ['\\', 'u', '\x7b'] ++ Nat.toDigits 16 c.toNat ++ ['\x7d']

def escaped (c : Char) : List Char :=
  if c = '"' then ['\\', '"']
  else if c = '\\' then ['\\', '\\']
  else if c = '\n' then ['\\', 'n']
  else if c = '\r' then ['\\', 'r']
  else if c = '\t' then ['\\', 't']
  else if c = '\x00' then ['\\', '0']
  else if isHidden c then codePoint c
  else [c]

def quoted (s : String) : String :=
  "\"" ++ String.ofList (s.toList.flatMap escaped) ++ "\""

end EntityChat.Text
