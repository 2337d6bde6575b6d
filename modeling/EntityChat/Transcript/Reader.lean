import EntityChat.Rule.Repeated
import EntityChat.Transcript

/-!
Reading a chat: remarks on lines of their own, each a name, `says` and a quotation. Empty lines do
not matter, and the last line need not be broken.
-/

namespace EntityChat

def Remark.rule : Rule Remark := do
  let speaker ← Rule.identifier
  let _ ← Rule.expect .saysWord
  let t ← Rule.expect .quotation
  return ⟨speaker, t.lexeme⟩

namespace Transcript

def remarkSeries : Series where
  separator := .newline
  terminator := .endOfInput
  collapse := true

def rule : Rule Transcript := do
  let rs ← Rule.repeated remarkSeries Remark.rule .identifier
  let _ ← Rule.expect .endOfInput
  return .ofList rs

def read (source : String) : Except Diagnostic Transcript :=
  (rule.run (.ofSource .chat source)).1

end Transcript

end EntityChat
