/-!
The kinds of token. They are ordered as they are listed here.
-/

namespace EntityChat

inductive Kind
  | createWord
  | entityWord
  | uniqueWord
  | saysWord
  | identifier
  | quotation
  | openBrace
  | closeBrace
  | openParen
  | closeParen
  | colon
  | comma
  | newline
  | unrecognized
  | endOfInput
deriving DecidableEq

namespace Kind

def all : List Kind :=
  [createWord, entityWord, uniqueWord, saysWord, identifier, quotation, openBrace, closeBrace,
   openParen, closeParen, colon, comma, newline, unrecognized, endOfInput]

def rank : Kind → Nat
  | createWord => 0
  | entityWord => 1
  | uniqueWord => 2
  | saysWord => 3
  | identifier => 4
  | quotation => 5
  | openBrace => 6
  | closeBrace => 7
  | openParen => 8
  | closeParen => 9
  | colon => 10
  | comma => 11
  | newline => 12
  | unrecognized => 13
  | endOfInput => 14

/-- The name of a kind in token listings and documents. -/
def label : Kind → String
  | createWord => "KeywordCreate"
  | entityWord => "KeywordEntity"
  | uniqueWord => "KeywordUnique"
  | saysWord => "KeywordSays"
  | identifier => "Identifier"
  | quotation => "StringLiteral"
  | openBrace => "LBrace"
  | closeBrace => "RBrace"
  | openParen => "LParen"
  | closeParen => "RParen"
  | colon => "Colon"
  | comma => "Comma"
  | newline => "Newline"
  | unrecognized => "Error"
  | endOfInput => "Eof"

/-- The name of a kind in messages. -/
def description : Kind → String
  | createWord => "'create'"
  | entityWord => "'entity'"
  | uniqueWord => "'unique'"
  | saysWord => "'says'"
  | identifier => "identifier"
  | quotation => "string literal"
  | openBrace => "'\x7b'"
  | closeBrace => "'\x7d'"
  | openParen => "'('"
  | closeParen => "')'"
  | colon => "':'"
  | comma => "','"
  | newline => "newline"
  | unrecognized => "unrecognized input"
  | endOfInput => "end of input"

def ofPunctuation? (c : Char) : Option Kind :=
  match c with
  | '\n' => some newline
  | '\x7b' => some openBrace
  | '\x7d' => some closeBrace
  | '(' => some openParen
  | ')' => some closeParen
  | ':' => some colon
  | ',' => some comma
  | _ => none

end Kind

end EntityChat
