/-!
The commands of the program and the settings that all of them share.
-/

namespace EntityChat.CommandLine

inductive Command
  | entity
  | chat
  | tokens
  | fmt
deriving DecidableEq

namespace Command

def all : List Command := [entity, chat, tokens, fmt]

def name : Command → String
  | entity => "entity"
  | chat => "chat"
  | tokens => "tokens"
  | fmt => "fmt"

def ofName? (s : String) : Option Command := all.find? (·.name == s)

end Command

inductive Format
  | text
  | json
deriving DecidableEq

def Format.ofName? (s : String) : Option Format :=
  if s = "text" then some .text else if s = "json" then some .json else none

structure Settings where
  format : Format
  quiet : Bool
  verbosity : Nat
deriving DecidableEq

end EntityChat.CommandLine
