import EntityChat.CommandLine.Arguments
import EntityChat.CommandLine.Input
import EntityChat.CommandLine.Log
import EntityChat.Entity.Reader
import EntityChat.Json.Documents
import EntityChat.Transcript.Reader

/-!
Running a command on a source: what it prints, what it logs, and what it reports when it fails. A
command prints its whole result or nothing.
-/

namespace EntityChat.CommandLine

structure Result where
  events : List Event
  output : String
  notice : String

inductive Failure
  | unreadable (file : String) (cause : ReadError)
  | rejected (file : String) (d : Diagnostic)
deriving DecidableEq

namespace Failure

def message : Failure → String
  | unreadable file cause => "error reading '" ++ file ++ "': " ++ cause.message
  | rejected file d => file ++ ":" ++ d.message

def document : Failure → Json
  | f@(unreadable _ _) => .object [("error", .text f.message)]
  | rejected file d => .report (some file) d

/-- Quiet runs do without the report, unless it is a document. -/
def report (s : Settings) (f : Failure) : String :=
  match s.format with
  | .json => f.document.render ++ "\n"
  | .text => if s.quiet then "" else "error: " ++ f.message ++ "\n"

end Failure

def Result.of (s : Settings) (events : List Event) (text : String) (notice : String) (doc : Json) :
    Result :=
  match s.format with
  | .json => ⟨events, doc.render ++ "\n", ""⟩
  | .text => ⟨events, text, if s.quiet then "" else notice⟩

def memberLines (e : Entity) : String :=
  String.join (e.members.map fun m => e.name.name ++ "." ++ m.render ++ "\n")

def entityNotice (e : Entity) : String :=
  "entity '" ++ e.name.name ++ "' with " ++ e.members.length.repr ++ " member(s)\n"

def remarkLines (t : Transcript) : String :=
  String.join (t.toList.map fun r => r.speaker.name ++ " has said \"" ++ r.text ++ "\"\n")

def transcriptNotice (t : Transcript) : String :=
  if t.isEmpty then "empty transcript\n" else ""

def tokenLine (t : Token) : String :=
  t.position.display ++ " " ++ t.kind.label ++ " " ++ Text.quoted t.lexeme

def tokenLines (ts : List Token) : String := String.join (ts.map fun t => tokenLine t ++ "\n")

def warnings (ts : List Token) : List Event :=
  let errors := ts.countP (·.kind = .unrecognized)
  if errors = 0 then [] else [.unrecognized errors]

def perform (command : Command) (s : Settings) (source : String) : Except Diagnostic Result :=
  match command with
  | .entity => do
    let e ← Entity.read source
    return .of s [.readEntity e.name.name e.members.length] (memberLines e) (entityNotice e)
      (.ofEntity e)
  | .chat => do
    let t ← Transcript.read source
    return .of s [.readTranscript t.length] (remarkLines t) (transcriptNotice t)
      (.ofTranscript t)
  | .tokens =>
    let ts := tokenize source
    return .of s (warnings ts) (tokenLines ts) "" (.ofTokens ts)
  | .fmt => do
    let e ← Entity.read source
    return ⟨[.formatting e.name.name], e.render ++ "\n", ""⟩

/-- What a run leaves behind: its exit code, its output, the lines of its log, and what it says to
the user on the side. -/
structure Outcome where
  exit : Nat
  output : String
  log : List String
  remainder : String
deriving DecidableEq

def Outcome.errors (o : Outcome) : String := String.join o.log ++ o.remainder

def decode (content : Except ReadError ByteArray) : Except ReadError String := do
  match String.fromUTF8? (← content) with
  | some source => return source
  | none => throw .notText

namespace Request

def result (r : Request) (content : Except ReadError ByteArray) : Except Failure Result :=
  match decode content with
  | .error cause => .error (.unreadable r.file cause)
  | .ok source =>
    match perform r.command r.settings source with
    | .error d => .error (.rejected r.file d)
    | .ok result => .ok result

def opening (r : Request) : Event :=
  if isStandardInput r.file then .readingInput else .readingFile r.file

def run (r : Request) (content : Except ReadError ByteArray) : Outcome :=
  match r.result content with
  | .ok result =>
    ⟨0, result.output, logLines r.settings.verbosity (r.opening :: result.events), result.notice⟩
  | .error f => ⟨1, "", logLines r.settings.verbosity [r.opening], f.report r.settings⟩

end Request

def Halt.outcome : Halt → Outcome
  | .misuse => ⟨2, "", [], "error: invalid arguments\n\nFor more information, try '--help'.\n"⟩
  | .version => ⟨0, versionText, [], ""⟩
  | .help t => ⟨0, t.text, [], ""⟩

/-- What comes of the arguments. The file that they name is read, and no other. -/
def runReading {m : Type → Type} [Monad m] (args : List String)
    (read : String → m (Except ReadError ByteArray)) : m Outcome :=
  match Request.ofArguments args with
  | .error h => pure h.outcome
  | .ok r => r.run <$> read r.file

def run (args : List String) (read : String → Except ReadError ByteArray) : Outcome :=
  Id.run (runReading args read)

end EntityChat.CommandLine
