import EntityChat.CommandLine.Command
import EntityChat.Text.Quoted

/-!
The log: what a run tells about its work, one event a line, as far as the verbosity allows.
-/

namespace EntityChat.CommandLine

inductive Level
  | warn
  | info
  | debug
deriving DecidableEq

def Level.verbosity : Level → Nat
  | warn => 0
  | info => 1
  | debug => 2

def Level.label : Level → String
  | warn => " WARN"
  | info => " INFO"
  | debug => "DEBUG"

inductive Event
  | readingInput
  | readingFile (file : String)
  | unrecognized (errors : Nat)
  | readEntity (name : String) (members : Nat)
  | readTranscript (lines : Nat)
  | formatting (name : String)
deriving DecidableEq

namespace Event

def level : Event → Level
  | unrecognized _ => .warn
  | readEntity _ _ | readTranscript _ => .info
  | readingInput | readingFile _ | formatting _ => .debug

def text : Event → String
  | readingInput => "reading source from stdin"
  | readingFile file => "reading source file path=" ++ file
  | unrecognized errors => "source contains unrecognized input errors=" ++ errors.repr
  | readEntity name members =>
    "parsed entity declaration entity=" ++ Text.quoted name ++ " members=" ++ members.repr
  | readTranscript lines => "parsed chat transcript lines=" ++ lines.repr
  | formatting name => "formatting entity entity=" ++ Text.quoted name

def line (e : Event) : String := e.level.label ++ " " ++ e.text ++ "\n"

end Event

def logLines (verbosity : Nat) (es : List Event) : List String :=
  (es.filter fun e => e.level.verbosity ≤ verbosity).map Event.line

end EntityChat.CommandLine
