import EntityChat.Entity
import EntityChat.Rule.Repeated

/-!
Reading a declaration: `create entity`, a name, and members between braces with commas between
them. A member is a name, a colon and a type, and may end in a list of constraints. Line breaks
do not matter.
-/

namespace EntityChat

/-- Constraints between parentheses, one at least. Repeating one adds nothing. -/
def Constraints.rule : Rule Constraints := do
  let _ ← Rule.expect .openParen
  let _ ← Rule.expect .uniqueWord
  Rule.skip .uniqueWord
  if ← Rule.check .closeParen then
    let _ ← Rule.expect .closeParen
    return Constraints.empty.insert .unique
  else
    Rule.fail [.uniqueWord, .closeParen]

def TypeName.rule : Rule TypeName := do
  let t ← Rule.expect .identifier
  return .named t.lexeme

def Member.rule : Rule Member := do
  let name ← Rule.identifier
  let _ ← Rule.expect .colon
  let type ← TypeName.rule
  if ← Rule.check .openParen then
    let constraints ← Constraints.rule
    return ⟨name, type, constraints⟩
  else
    Rule.extensible .openParen
    return ⟨name, type, .empty⟩

namespace Entity

def memberSeries : Series where
  separator := .comma
  terminator := .closeBrace
  collapse := false

def rule : Rule Entity := do
  let _ ← Rule.expect .createWord
  let _ ← Rule.expect .entityWord
  let name ← Rule.identifier
  let _ ← Rule.expect .openBrace
  let ms ← Rule.repeated memberSeries Member.rule .identifier
  let _ ← Rule.expect .closeBrace
  let _ ← Rule.expect .endOfInput
  return ⟨name, ms⟩

def read (source : String) : Except Diagnostic Entity :=
  (rule.run (.ofSource .entity source)).1

end Entity

end EntityChat
