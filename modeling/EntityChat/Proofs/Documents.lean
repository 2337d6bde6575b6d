import EntityChat.Proofs.JsonText
import EntityChat.Proofs.Provenance
import EntityChat.Proofs.Runs

/-!
Decoding documents. Each value is got back from its document with all that it holds, and a report
gives back its diagnostic and the file; so of what a run reads nothing is lost in what it prints.
-/

namespace EntityChat

def Kind.ofLabel? (s : String) : Option Kind := Kind.all.find? (·.label = s)

theorem Kind.ofLabel?_label (k : Kind) : ofLabel? k.label = some k := by
  cases k <;> decide +kernel

def Constraint.ofLabel? (s : String) : Option Constraint :=
  if s = Constraint.unique.label then some .unique else none

namespace Json

def boolean? : Json → Option Bool
  | boolean b => some b
  | _ => none

def number? : Json → Option Nat
  | number n => some n
  | _ => none

def text? : Json → Option String
  | text s => some s
  | _ => none

def field? (name : String) : Json → Option Json
  | object fields => (fields.find? (·.1 = name)).map (·.2)
  | _ => none

def listOf? {α : Type} (decode : Json → Option α) : Json → Option (List α)
  | list items => items.mapM decode
  | _ => none

def word? : Json → Option UInt32
  | number n => if h : n < UInt32.size then some (.ofNatLT n h) else none
  | _ => none

def toPosition? (j : Json) : Option Position := do
  return ⟨← (← j.field? "offset").number?, ← (← j.field? "line").word?,
    ← (← j.field? "column").word?⟩

def toKind? (j : Json) : Option Kind := do Kind.ofLabel? (← j.text?)

def toToken? (j : Json) : Option Token := do
  return ⟨← (← j.field? "kind").toKind?, ← (← j.field? "lexeme").text?,
    ← (← j.field? "position").toPosition?⟩

def toIdentifier? (j : Json) : Option Identifier := do
  return ⟨← (← j.field? "name").text?, ← (← j.field? "position").toPosition?⟩

def toTypeName? (j : Json) : Option TypeName := do
  return ⟨← (← j.field? "name").text?, ← (← j.field? "builtin").boolean?⟩

def toConstraints? (j : Json) : Option Constraints := do
  let cs ← j.listOf? fun j => do Constraint.ofLabel? (← j.text?)
  return cs.foldl Constraints.insert .empty

def toMember? (j : Json) : Option Member := do
  return ⟨← (← j.field? "name").toIdentifier?, ← (← j.field? "type").toTypeName?,
    ← (← j.field? "constraints").toConstraints?⟩

def toEntity? (j : Json) : Option Entity := do
  return ⟨← (← j.field? "name").toIdentifier?, ← (← j.field? "members").listOf? toMember?⟩

def toRemark? (j : Json) : Option Remark := do
  return ⟨← (← j.field? "speaker").toIdentifier?, ← (← j.field? "text").text?⟩

def toTranscript? (j : Json) : Option Transcript := (j.listOf? toRemark?).map .ofList

def toTokens? (j : Json) : Option (List Token) := j.listOf? toToken?

def toKindSet? (j : Json) : Option KindSet := (j.listOf? toKind?).map fun ks => ⟨ks.toArray⟩

def toReport? (j : Json) : Option (String × Diagnostic) := do
  let position ← j.toPosition?
  let found ← j.field? "found"
  return (← (← j.field? "file").text?, ⟨position, ← (← j.field? "expected").toKindSet?,
    ⟨← (← found.field? "kind").toKind?, ← (← found.field? "lexeme").text?, position⟩⟩)

theorem listOf?_map {α : Type} {decode : Json → Option α} {f : α → Json}
    (h : ∀ a, decode (f a) = some a) (as : List α) :
    listOf? decode (list (as.map f)) = some as := by
  rw [listOf?]
  induction as with
  | nil => rfl
  | cons a as ih => simp [h, ih]

theorem word?_number (x : UInt32) : word? (number x.toNat) = some x := by
  rw [word?, dif_pos x.toNat_lt]
  rfl

theorem toPosition?_ofPosition (p : Position) : (ofPosition p).toPosition? = some p := by
  simp [toPosition?, ofPosition, field?, number?, word?_number]

theorem toKind?_text (k : Kind) : (text k.label).toKind? = some k := by
  simp [toKind?, text?, Kind.ofLabel?_label]

theorem toToken?_ofToken (t : Token) : (ofToken t).toToken? = some t := by
  simp [toToken?, ofToken, field?, text?, toKind?_text, toPosition?_ofPosition]

theorem toTokens?_ofTokens (ts : List Token) : (ofTokens ts).toTokens? = some ts :=
  listOf?_map toToken?_ofToken ts

theorem toIdentifier?_ofIdentifier (n : Identifier) : (ofIdentifier n).toIdentifier? = some n := by
  simp [toIdentifier?, ofIdentifier, field?, text?, toPosition?_ofPosition]

theorem toTypeName?_ofTypeName (t : TypeName) : (ofTypeName t).toTypeName? = some t := by
  simp [toTypeName?, ofTypeName, field?, text?, boolean?]

theorem toConstraints?_list (s : Constraints) :
    (list (s.toList.map fun c => text c.label)).toConstraints? = some s := by
  have hlabel (c : Constraint) :
      (do Constraint.ofLabel? (← (text c.label).text?)) = some c := by cases c; rfl
  rw [toConstraints?, listOf?_map hlabel]
  obtain ⟨unique⟩ := s
  cases unique <;> rfl

theorem toMember?_ofMember (m : Member) : (ofMember m).toMember? = some m := by
  simp [toMember?, ofMember, field?, toIdentifier?_ofIdentifier, toTypeName?_ofTypeName,
    toConstraints?_list]

theorem toEntity?_ofEntity (e : Entity) : (ofEntity e).toEntity? = some e := by
  simp [toEntity?, ofEntity, field?, toIdentifier?_ofIdentifier, listOf?_map toMember?_ofMember]

theorem toRemark?_ofRemark (r : Remark) : (ofRemark r).toRemark? = some r := by
  simp [toRemark?, ofRemark, field?, text?, toIdentifier?_ofIdentifier]

theorem toTranscript?_ofTranscript (t : Transcript) : (ofTranscript t).toTranscript? = some t := by
  rw [toTranscript?, ofTranscript, listOf?_map toRemark?_ofRemark, Option.map_some,
    Transcript.ofList_toList]

theorem toKindSet?_ofKindSet (s : KindSet) : (ofKindSet s).toKindSet? = some s := by
  rw [toKindSet?, ofKindSet, listOf?_map toKind?_text]
  rfl

theorem toReport?_report (file : String) {d : Diagnostic} (hd : d.position = d.found.position) :
    (report (some file) d).toReport? = some (file, d) := by
  obtain ⟨position, expected, found⟩ := d
  obtain rfl : position = found.position := hd
  simp [toReport?, report, toPosition?, field?, text?, number?, word?_number, toKind?_text,
    toKindSet?_ofKindSet]

end Json

namespace CommandLine

def Finding.document : Finding → Json
  | .entity e => .ofEntity e
  | .transcript t => .ofTranscript t
  | .tokens ts => .ofTokens ts

def Finding.ofJson? (c : Command) (j : Json) : Option Finding :=
  match c with
  | .entity | .fmt => j.toEntity?.map .entity
  | .chat => j.toTranscript?.map .transcript
  | .tokens => j.toTokens?.map .tokens

section

variable {ε α β : Type} {x : Except ε α} {f : α → β}

theorem exists_of_map_eq_ok {b : β} (h : x.map f = .ok b) : ∃ a, x = .ok a ∧ f a = b := by
  cases x with
  | error e => cases h
  | ok a => exact ⟨a, rfl, Except.ok.inj h⟩

theorem eq_error_of_map {e : ε} (h : x.map f = .error e) : x = .error e := by
  cases x with
  | error e' => exact congrArg Except.error (Except.error.inj h)
  | ok a => cases h

end

theorem Finding.ofJson?_document {c : Command} {source : String} {x : Finding}
    (h : c.read source = .ok x) : ofJson? c x.document = some x := by
  cases c with
  | entity | fmt =>
    obtain ⟨e, -, rfl⟩ := exists_of_map_eq_ok h
    rw [ofJson?, document, Json.toEntity?_ofEntity]
    rfl
  | chat =>
    obtain ⟨t, -, rfl⟩ := exists_of_map_eq_ok h
    rw [ofJson?, document, Json.toTranscript?_ofTranscript]
    rfl
  | tokens =>
    obtain rfl := Except.ok.inj h
    rw [ofJson?, document, Json.toTokens?_ofTokens]
    rfl

theorem Command.found_of_read {c : Command} {source : String} {d : Diagnostic}
    (h : c.read source = .error d) : d.position = d.found.position := by
  cases c with
  | entity | fmt => exact (Entity.found_of_read (eq_error_of_map h)).1
  | chat => exact (Transcript.rejects_iff.mp (eq_error_of_map h)).found_mem.1
  | tokens => cases h

theorem Command.output_of_json {c : Command} {s : Settings} (hs : s.format = .json) (hc : c ≠ .fmt)
    (x : Finding) : (c.shown s x).output = x.document.render ++ "\n" := by
  cases x with
  | entity e => simp only [shown, if_neg hc, Result.of, hs, Finding.document]
  | transcript t => simp only [shown, Result.of, hs, Finding.document]
  | tokens ts => simp only [shown, Result.of, hs, Finding.document]

namespace Request

variable {r : Request} {content : Except ReadError ByteArray} {source : String} {x : Finding}
  {d : Diagnostic}

theorem output_of_read (hr : r.settings.format = .json) (hc : r.command ≠ .fmt)
    (hsource : content = .ok source.toUTF8) (hread : r.command.read source = .ok x) :
    (r.run content).output = x.document.render ++ "\n" := by
  rw [run_of_read hsource hread]
  exact Command.output_of_json hr hc x

theorem remainder_of_read (hr : r.settings.format = .json) (hsource : content = .ok source.toUTF8)
    (hread : r.command.read source = .error d) :
    (r.run content).remainder = (Json.report (some r.file) d).render ++ "\n" := by
  rw [run_of_fails (.rejected hsource hread)]
  simp only [Failure.report, hr, Failure.document]

/-- A document that is printed is decoded to what was read, and a report to its diagnostic and its
file. So two runs of a command print the same just if they have read the same, places included. -/
theorem run_json_lossless (r : Request) (content : Except ReadError ByteArray) (source : String)
    (hr : r.settings.format = .json) (hsource : content = .ok source.toUTF8) :
    (r.command ≠ .fmt → ∀ x, r.command.read source = .ok x →
      (∃ j, Json.Denotes (r.run content).output j) ∧
      (∀ j, Json.Denotes (r.run content).output j → Finding.ofJson? r.command j = some x) ∧
      ∀ (q : Request) (other : String) (y : Finding), q.settings.format = .json →
        q.command = r.command → q.command.read other = .ok y →
        ((r.run content).output = (q.run (.ok other.toUTF8)).output ↔ x = y)) ∧
    (∀ d, r.command.read source = .error d →
      (∃ j, Json.Denotes (r.run content).remainder j) ∧
      ∀ j, Json.Denotes (r.run content).remainder j → j.toReport? = some (r.file, d)) := by
  constructor
  · intro hc x hread
    have houtput := output_of_read hr hc hsource hread
    have hdenotes : Json.Denotes (r.run content).output x.document := by
      rw [houtput]
      exact Json.denotes_render _
    have hdecode (j : Json) (hj : Json.Denotes (r.run content).output j) :
        Finding.ofJson? r.command j = some x := by
      rw [hj.unique hdenotes]
      exact Finding.ofJson?_document hread
    refine ⟨⟨_, hdenotes⟩, hdecode, fun q other y hq hcommand hother => ?_⟩
    have houtput' := output_of_read hq (by rwa [hcommand]) rfl hother
    constructor
    · intro heq
      have hy := Finding.ofJson?_document hother
      rw [heq, houtput'] at hdecode
      rw [hcommand, hdecode _ (Json.denotes_render _)] at hy
      exact Option.some.inj hy
    · rintro rfl
      rw [houtput, houtput']
  · intro d hread
    have hdenotes : Json.Denotes (r.run content).remainder (.report (some r.file) d) := by
      rw [remainder_of_read hr hsource hread]
      exact Json.denotes_render _
    refine ⟨⟨_, hdenotes⟩, fun j hj => ?_⟩
    rw [hj.unique hdenotes]
    exact Json.toReport?_report r.file (Command.found_of_read hread)

theorem run_json_lossless_escapes :
    let chat : Request := ⟨.chat, "-", ⟨.json, true, 0⟩⟩
    let entity : Request := ⟨.entity, "\"\n", ⟨.json, true, 0⟩⟩
    (∃ t, Transcript.read "é says \"\\\x01\"" = .ok t ∧
      ∀ j, Json.Denotes (chat.run (.ok "é says \"\\\x01\"".toUTF8)).output j →
        j.toTranscript?.map Finding.transcript = some (.transcript t)) ∧
    ∃ d, Entity.read "create\x00" = .error d ∧
      ∀ j, Json.Denotes (entity.run (.ok "create\x00".toUTF8)).remainder j →
        j.toReport? = some ("\"\n", d) := by
  intro chat entity
  let t : Transcript := .remark ⟨⟨"é", ⟨0, 1, 1⟩⟩, "\\\x01"⟩ .empty
  let d : Diagnostic := ⟨⟨6, 1, 7⟩, .ofList [.entityWord], ⟨.unrecognized, "\x00", ⟨6, 1, 7⟩⟩⟩
  have ht : Transcript.read "é says \"\\\x01\"" = .ok t := by decide +kernel
  have hd : Entity.read "create\x00" = .error d := by decide +kernel
  have hchat : chat.command.read "é says \"\\\x01\"" = .ok (.transcript t) := by
    rw [Command.read, ht]
    rfl
  have hentity : entity.command.read "create\x00" = .error d := by
    rw [Command.read, hd]
    rfl
  have hread := (run_json_lossless chat _ _ rfl rfl).1 (by decide) _ hchat
  exact ⟨⟨t, ht, hread.2.1⟩, d, hd, ((run_json_lossless entity _ _ rfl rfl).2 d hentity).2⟩

end Request

end CommandLine

end EntityChat
