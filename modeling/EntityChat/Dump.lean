import EntityChat.Diagnostic
import EntityChat.Entity
import EntityChat.Text.Quoted
import EntityChat.Transcript

/-!
Values shown with their structure, for debugging: on one line, or with each part on its own line
and four more blanks for each level.
-/

namespace EntityChat

inductive Dump
  | word (text : String)
  | quoted (text : String)
  | record (name : String) (fields : List (String × Dump))
  | variant (name : String) (content : Dump)
  | list (items : List Dump)
  | set (items : List Dump)

namespace Dump

theorem sizeOf_field {fields : List (String × Dump)} {f : String × Dump} (h : f ∈ fields) :
    sizeOf f.2 < sizeOf fields := by
  have hf := List.sizeOf_lt_of_mem h
  cases f
  simp only [Prod.mk.sizeOf_spec] at hf ⊢
  omega

def line : Dump → String
  | word s => s
  | quoted s => Text.quoted s
  | record name fields =>
    name ++ " \x7b " ++ ", ".intercalate (fields.map fun f => f.1 ++ ": " ++ f.2.line) ++ " \x7d"
  | variant name content => name ++ "(" ++ content.line ++ ")"
  | list items => "[" ++ ", ".intercalate (items.map line) ++ "]"
  | set items => "\x7b" ++ ", ".intercalate (items.map line) ++ "\x7d"
termination_by d => sizeOf d
decreasing_by
  · next h => have hf := sizeOf_field h; simp only [record.sizeOf_spec]; omega
  all_goals decreasing_tactic

def margin (level : Nat) : String := String.ofList (List.replicate (4 * level) ' ')

def block (level : Nat) (opening closing : String) (parts : List String) : String :=
  if parts.isEmpty then opening ++ closing
  else
    opening ++ "\n" ++ String.join (parts.map fun p => margin (level + 1) ++ p ++ ",\n") ++
      margin level ++ closing

def lines (level : Nat) : Dump → String
  | word s => s
  | quoted s => Text.quoted s
  | record name fields =>
    block level (name ++ " \x7b") "\x7d"
      (fields.map fun f => f.1 ++ ": " ++ f.2.lines (level + 1))
  | variant name content => block level (name ++ "(") ")" [content.lines (level + 1)]
  | list items => block level "[" "]" (items.map fun d => d.lines (level + 1))
  | set items => block level "\x7b" "\x7d" (items.map fun d => d.lines (level + 1))
termination_by d => sizeOf d
decreasing_by
  · next h => have hf := sizeOf_field h; simp only [record.sizeOf_spec]; omega
  all_goals decreasing_tactic

def ofPosition (p : Position) : Dump :=
  record "Position"
    [("offset", word p.offset.repr), ("line", word p.line.toNat.repr),
     ("column", word p.column.toNat.repr)]

def ofToken (t : Token) : Dump :=
  record "Token"
    [("kind", word t.kind.label), ("lexeme", quoted t.lexeme), ("position", ofPosition t.position)]

def ofKindSet (s : KindSet) : Dump :=
  variant "Expected" (list (s.toList.map fun k => word k.label))

def ofDiagnostic (d : Diagnostic) : Dump :=
  record "SyntaxError"
    [("position", ofPosition d.position), ("expected", ofKindSet d.expected),
     ("found", ofToken d.found)]

def ofIdentifier (i : Identifier) : Dump :=
  record "Identifier" [("name", quoted i.name), ("position", ofPosition i.position)]

def ofTypeName (t : TypeName) : Dump :=
  record "TypeReference"
    [("name", quoted t.name), ("builtin", word (if t.builtin then "true" else "false"))]

def ofMember (m : Member) : Dump :=
  record "MemberDeclaration"
    [("name", ofIdentifier m.name), ("ty", ofTypeName m.type),
     ("constraints", set (m.constraints.toList.map fun c => word c.label))]

def ofEntity (e : Entity) : Dump :=
  record "EntityDeclaration"
    [("name", ofIdentifier e.name), ("members", list (e.members.map ofMember))]

def ofRemark (r : Remark) : Dump :=
  record "ChatLine" [("speaker", ofIdentifier r.speaker), ("text", quoted r.text)]

def ofTranscript (t : Transcript) : Dump := list (t.toList.map ofRemark)

def ofResult {α : Type} (dump : α → Dump) : Except Diagnostic α → Dump
  | .ok a => variant "Ok" (dump a)
  | .error d => variant "Err" (ofDiagnostic d)

end Dump

end EntityChat
