import EntityChat.Kind
import EntityChat.Position

/-!
A token is a kind, a lexeme and the place where it starts. The lexeme of a quotation leaves out
the quotes; every other lexeme is the text itself.
-/

namespace EntityChat

structure Token where
  kind : Kind
  lexeme : String
  position : Position
deriving DecidableEq

namespace Token

def finish (p : Position) : Token := ⟨.endOfInput, "", p⟩

def spelled (k : Kind) (lexeme : List Char) : List Char :=
  if k = .quotation then '"' :: (lexeme ++ ['"']) else lexeme

def raw (t : Token) : List Char := spelled t.kind t.lexeme.toList

/-- How messages show a token; nothing is escaped. -/
def display (t : Token) : String :=
  match t.kind with
  | .endOfInput => "end of input"
  | .newline => "newline"
  | .quotation => "\"" ++ t.lexeme ++ "\""
  | _ => "'" ++ t.lexeme ++ "'"

end Token

end EntityChat
