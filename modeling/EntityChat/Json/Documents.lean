import EntityChat.Diagnostic
import EntityChat.Entity
import EntityChat.Json
import EntityChat.Transcript

/-!
The documents of tokens, declarations, transcripts and diagnostics. They keep everything that the
values hold, positions included.
-/

namespace EntityChat.Json

def ofPosition (p : Position) : Json :=
  object
    [("offset", number p.offset), ("line", number p.line.toNat), ("column", number p.column.toNat)]

def ofToken (t : Token) : Json :=
  object
    [("kind", text t.kind.label), ("lexeme", text t.lexeme), ("position", ofPosition t.position)]

def ofTokens (ts : List Token) : Json := list (ts.map ofToken)

def ofIdentifier (i : Identifier) : Json :=
  object [("name", text i.name), ("position", ofPosition i.position)]

def ofTypeName (t : TypeName) : Json :=
  object [("name", text t.name), ("builtin", boolean t.builtin)]

def ofMember (m : Member) : Json :=
  object
    [("name", ofIdentifier m.name), ("type", ofTypeName m.type),
     ("constraints", list (m.constraints.toList.map fun c => text c.label))]

def ofEntity (e : Entity) : Json :=
  object [("name", ofIdentifier e.name), ("members", list (e.members.map ofMember))]

def ofRemark (r : Remark) : Json :=
  object [("speaker", ofIdentifier r.speaker), ("text", text r.text)]

def ofTranscript (t : Transcript) : Json := list (t.toList.map ofRemark)

def ofKindSet (s : KindSet) : Json := list (s.toList.map fun k => text k.label)

def ofDiagnostic (d : Diagnostic) : Json :=
  object
    [("position", ofPosition d.position), ("expected", ofKindSet d.expected),
     ("found", ofToken d.found)]

/-- A diagnostic for readers of reports, with its message, and with the file it is about if one is
given. The parts are in alphabetical order. -/
def report (file : Option String) (d : Diagnostic) : Json :=
  object <|
    [("column", number d.position.column.toNat), ("expected", ofKindSet d.expected)] ++
    (file.map fun f => ("file", text f)).toList ++
    [("found", object [("kind", text d.found.kind.label), ("lexeme", text d.found.lexeme)]),
     ("line", number d.position.line.toNat), ("message", text d.message),
     ("offset", number d.position.offset)]

end EntityChat.Json
