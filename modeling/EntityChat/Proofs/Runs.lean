import EntityChat.Proofs.Commands

/-!
What a run comes to. Of a text that it accepts a command makes a finding, and the run shows it; of
anything else comes a failure, and the run reports that and shows nothing. Either way the settings
only say how much is told about it on the side.
-/

namespace EntityChat.CommandLine

inductive Finding
  | entity (e : Entity)
  | transcript (t : Transcript)
  | tokens (ts : List Token)

namespace Command

def read (c : Command) (source : String) : Except Diagnostic Finding :=
  match c with
  | entity | fmt => (Entity.read source).map .entity
  | chat => (Transcript.read source).map .transcript
  | tokens => .ok (.tokens (tokenize source))

def shown (c : Command) (s : Settings) : Finding → Result
  | .entity e =>
    if c = fmt then ⟨[.formatting e.name.name], e.render ++ "\n", ""⟩
    else .of s [.readEntity e.name.name e.members.length] (memberLines e) (entityNotice e)
      (.ofEntity e)
  | .transcript t =>
    .of s [.readTranscript t.length] (remarkLines t) (transcriptNotice t) (.ofTranscript t)
  | .tokens ts => .of s (warnings ts) (tokenLines ts) "" (.ofTokens ts)

end Command

theorem perform_eq (c : Command) (s : Settings) (source : String) :
    perform c s source = (c.read source).map (c.shown s) := by
  cases c with
  | entity | fmt =>
    rw [perform, Command.read]
    cases Entity.read source <;> rfl
  | chat =>
    rw [perform, Command.read]
    cases Transcript.read source <;> rfl
  | tokens => rfl

theorem toUTF8_of_fromUTF8? {bytes : ByteArray} {source : String}
    (h : String.fromUTF8? bytes = some source) : source.toUTF8 = bytes := by
  rw [String.fromUTF8?] at h
  split at h
  · obtain rfl := Option.some.inj h
    rfl
  · cases h

theorem decode_eq_ok_iff {content : Except ReadError ByteArray} {source : String} :
    decode content = .ok source ↔ content = .ok source.toUTF8 := by
  constructor
  · intro h
    cases content with
    | error cause => cases h
    | ok bytes =>
      simp only [decode, bind, Except.bind] at h
      cases hbytes : String.fromUTF8? bytes with
      | none =>
        rw [hbytes] at h
        cases h
      | some text =>
        rw [hbytes] at h
        obtain rfl := Except.ok.inj h
        rw [toUTF8_of_fromUTF8? hbytes]
  · intro h
    rw [h, decode_toUTF8]

theorem run_of_ofArguments {args : List String} {r : Request}
    (h : Request.ofArguments args = .ok r) (read : String → Except ReadError ByteArray) :
    run args read = r.run (read r.file) := by
  rw [run, runReading, h]
  rfl

namespace Request

variable {r : Request} {content : Except ReadError ByteArray}

/-- The failure of a run: its file gives no text, or its command rejects the text. -/
inductive Fails (r : Request) (content : Except ReadError ByteArray) : Failure → Prop
  | unreadable {cause} : decode content = .error cause → Fails r content (.unreadable r.file cause)
  | rejected {source d} : content = .ok source.toUTF8 → r.command.read source = .error d →
      Fails r content (.rejected r.file d)

theorem run_of_read {source : String} {f : Finding} (hsource : content = .ok source.toUTF8)
    (h : r.command.read source = .ok f) : r.run content =
      ⟨0, (r.command.shown r.settings f).output,
        logLines r.settings.verbosity (r.opening :: (r.command.shown r.settings f).events),
        (r.command.shown r.settings f).notice⟩ := by
  have hresult : r.result content = .ok (r.command.shown r.settings f) := by
    simp only [result, decode_eq_ok_iff.mpr hsource, perform_eq, h]
    rfl
  rw [run, hresult]

theorem run_of_fails {f : Failure} (h : r.Fails content f) : r.run content =
    ⟨1, "", logLines r.settings.verbosity [r.opening], f.report r.settings⟩ := by
  cases h with
  | @unreadable cause hdecode =>
    have hresult : r.result content = .error (.unreadable r.file cause) := by
      simp only [result, hdecode]
    rw [run, hresult]
  | @rejected source d hsource hread =>
    have hresult : r.result content = .error (.rejected r.file d) := by
      simp only [result, decode_eq_ok_iff.mpr hsource, perform_eq, hread]
      rfl
    rw [run, hresult]

theorem reads_or_fails (r : Request) (content : Except ReadError ByteArray) :
    (∃ source f, content = .ok source.toUTF8 ∧ r.command.read source = .ok f) ∨
      ∃ f, r.Fails content f := by
  cases hdecode : decode content with
  | error cause => exact .inr ⟨.unreadable r.file cause, .unreadable hdecode⟩
  | ok source =>
    have hsource := decode_eq_ok_iff.mp hdecode
    cases hread : r.command.read source with
    | error d => exact .inr ⟨.rejected r.file d, .rejected hsource hread⟩
    | ok f => exact .inl ⟨source, f, hsource, hread⟩

theorem exit_eq_zero_iff : (r.run content).exit = 0 ↔
    ∃ source f, content = .ok source.toUTF8 ∧ r.command.read source = .ok f := by
  constructor
  · intro h
    rcases r.reads_or_fails content with hread | ⟨f, hf⟩
    · exact hread
    · rw [run_of_fails hf] at h
      cases h
  · intro h
    obtain ⟨source, f, hsource, hread⟩ := h
    rw [run_of_read hsource hread]

theorem fails_of_exit_ne_zero (h : (r.run content).exit ≠ 0) : ∃ f, r.Fails content f := by
  rcases r.reads_or_fails content with hread | hf
  · exact absurd (exit_eq_zero_iff.mpr hread) h
  · exact hf

theorem Fails.congr {q : Request} {f : Failure} (h : r.Fails content f) (hfile : q.file = r.file)
    (hcommand : q.command.read = r.command.read) : q.Fails content f := by
  cases h with
  | unreadable hdecode =>
    rw [← hfile]
    exact .unreadable hdecode
  | rejected hsource hread =>
    rw [← hcommand] at hread
    rw [← hfile]
    exact .rejected hsource hread

theorem run_fmt_of_entity (hr : r.command = .entity) :
    (run { r with command := .fmt } content).exit = (r.run content).exit ∧
      ((r.run content).exit ≠ 0 → run { r with command := .fmt } content = r.run content) := by
  rcases r.reads_or_fails content with ⟨source, f, hsource, hread⟩ | ⟨f, hf⟩
  · have hexit : (r.run content).exit = 0 := exit_eq_zero_iff.mpr ⟨source, f, hsource, hread⟩
    rw [hr] at hread
    have hfmt : (run { r with command := .fmt } content).exit = 0 :=
      exit_eq_zero_iff.mpr ⟨source, f, hsource, hread⟩
    exact ⟨hfmt.trans hexit.symm, fun h => absurd hexit h⟩
  · have hfmt : Fails { r with command := .fmt } content f := by
      refine hf.congr rfl ?_
      rw [hr]
      rfl
    have heq : run { r with command := .fmt } content = r.run content := by
      rw [run_of_fails hfmt, run_of_fails hf]
      rfl
    exact ⟨congrArg Outcome.exit heq, fun _ => heq⟩

end Request

theorem not_error_prefix_entityNotice (e : Entity) :
    ¬ "error: ".toList <+: (entityNotice e).toList := by
  intro h
  have herror : "error: ".toList = ['e', 'r', 'r', 'o', 'r', ':', ' '] := by decide +kernel
  have hentity : "entity '".toList = ['e', 'n', 't', 'i', 't', 'y', ' ', '\''] := by decide +kernel
  rw [entityNotice, String.append_assoc, String.append_assoc, String.append_assoc,
    String.toList_append, herror, hentity] at h
  simp at h

theorem Result.notice_of (s : Settings) (es : List Event) (text notice : String) (doc : Json) :
    (Result.of s es text notice doc).notice =
      if s.format = .text ∧ s.quiet = false then notice else "" := by
  obtain ⟨format, quiet, verbosity⟩ := s
  cases format <;> cases quiet <;> rfl

def Finding.text : Finding → String
  | .entity e => memberLines e
  | .transcript t => remarkLines t
  | .tokens ts => tokenLines ts

theorem Request.text_of_read {r : Request} {source : String} {x : Finding}
    (hr : r.settings.format = .text) (hc : r.command ≠ .fmt) (hread : r.command.read source = .ok x) :
    (r.run (.ok source.toUTF8)).output = x.text := by
  rw [run_of_read rfl hread]
  cases x with
  | entity e => simp only [Command.shown, if_neg hc, Result.of, hr, Finding.text]
  | transcript t => simp only [Command.shown, Result.of, hr, Finding.text]
  | tokens ts => simp only [Command.shown, Result.of, hr, Finding.text]

theorem Command.notice_cases (c : Command) (s : Settings) (f : Finding) :
    (c.shown s f).notice = "" ∨ s.format = .text ∧ s.quiet = false ∧
      ¬ "error: ".toList <+: (c.shown s f).notice.toList := by
  have hof (es : List Event) (text notice : String) (doc : Json)
      (hnotice : ¬ "error: ".toList <+: notice.toList) :
      (Result.of s es text notice doc).notice = "" ∨ s.format = .text ∧ s.quiet = false ∧
        ¬ "error: ".toList <+: (Result.of s es text notice doc).notice.toList := by
    rw [Result.notice_of]
    split
    · next h => exact .inr ⟨h.1, h.2, hnotice⟩
    · exact .inl rfl
  have hempty : ¬ "error: ".toList <+: "".toList := by decide +kernel
  cases f with
  | entity e =>
    rw [shown]
    split
    · exact .inl rfl
    · exact hof _ _ _ _ (not_error_prefix_entityNotice e)
  | transcript t =>
    refine hof _ _ _ _ ?_
    rw [transcriptNotice]
    split
    · decide +kernel
    · exact hempty
  | tokens ts => exact hof _ _ _ _ hempty

theorem Command.report_eq_empty {c : Command} {s : Settings} {x : Finding} {f : Failure}
    (h : (f.report s).toList <+: (c.shown s x).notice.toList) : f.report s = "" := by
  rcases c.notice_cases s x with hempty | ⟨htext, hquiet, hnotice⟩
  · rw [hempty] at h
    exact String.toList_eq_nil_iff.mp (List.prefix_nil.mp h)
  · refine absurd (List.IsPrefix.trans ?_ h) hnotice
    simp only [Failure.report, htext, hquiet, String.append_assoc]
    exact ⟨_, String.toList_append.symm⟩

/-- A command shows the whole of what it finds in a source, with a notice on the side that is no
report, or it shows nothing and says why. What is wrong for `entity` is wrong for `fmt`. -/
theorem run_whole_or_nothing (args : List String) (r : Request)
    (read : String → Except ReadError ByteArray) (hr : Request.ofArguments args = .ok r) :
    ((run args read).exit = 0 ↔
      ∃ source f, read r.file = .ok source.toUTF8 ∧ r.command.read source = .ok f) ∧
    (∀ source f, read r.file = .ok source.toUTF8 → r.command.read source = .ok f →
      run args read = ⟨0, (r.command.shown r.settings f).output,
        logLines r.settings.verbosity (r.opening :: (r.command.shown r.settings f).events),
        (r.command.shown r.settings f).notice⟩ ∧
      ((run args read).remainder = "" ∨ r.settings.format = .text ∧ r.settings.quiet = false ∧
        ¬ "error: ".toList <+: (run args read).remainder.toList)) ∧
    ((run args read).exit = 0 →
      ∀ f : Failure, (f.report r.settings).toList <+: (run args read).remainder.toList →
        f.report r.settings = "") ∧
    ((run args read).exit ≠ 0 → (run args read).exit = 1 ∧ (run args read).output = "" ∧
      ∃ f, r.Fails (read r.file) f ∧
        (run args read).errors = String.join (run args read).log ++ f.report r.settings ∧
        (r.settings.format = .text → r.settings.quiet = false →
          f.report r.settings = "error: " ++ f.message ++ "\n") ∧
        (r.settings.format = .json → f.report r.settings = f.document.render ++ "\n")) ∧
    (r.command = .entity → ∀ args', Request.ofArguments args' = .ok { r with command := .fmt } →
      (run args' read).exit = (run args read).exit ∧
      ((run args read).exit ≠ 0 → run args' read = run args read)) := by
  rw [run_of_ofArguments hr]
  refine ⟨Request.exit_eq_zero_iff, fun source f hsource hread => ?_, fun h f hf => ?_,
    fun h => ?_, fun hentity args' hr' => ?_⟩
  · rw [Request.run_of_read hsource hread]
    exact ⟨rfl, r.command.notice_cases r.settings f⟩
  · obtain ⟨source, x, hsource, hread⟩ := Request.exit_eq_zero_iff.mp h
    rw [Request.run_of_read hsource hread] at hf
    exact Command.report_eq_empty hf
  · obtain ⟨f, hf⟩ := Request.fails_of_exit_ne_zero h
    rw [Request.run_of_fails hf]
    refine ⟨rfl, rfl, f, hf, rfl, fun htext hquiet => ?_, fun hjson => ?_⟩
    · simp only [Failure.report, htext, hquiet]
      rfl
    · simp only [Failure.report, hjson]
  · rw [run_of_ofArguments hr']
    exact Request.run_fmt_of_entity hentity

theorem run_whole_or_nothing_failing :
    let read : String → Except ReadError ByteArray
      | "/a" => .ok "create entity é \x7b".toUTF8
      | "b" => .ok ⟨#[195]⟩
      | _ => .error .missing
    let entity := ["--output=json", "--quiet", "entity", "/a"]
    let fmt := ["fmt", "--quiet", "/a", "--output", "json"]
    (run entity read).exit = 1 ∧ run fmt read = run entity read ∧
      (run entity read).remainder ≠ "" ∧
      (run ["tokens", "b"] read).output = "" := by
  intro read entity fmt
  let r : Request := ⟨.entity, "/a", ⟨.json, true, 0⟩⟩
  have hr : Request.ofArguments entity = .ok r := by decide +kernel
  have hr' : Request.ofArguments fmt = .ok { r with command := .fmt } := by decide +kernel
  have htokens : Request.ofArguments ["tokens", "b"] = .ok ⟨.tokens, "b", ⟨.text, false, 0⟩⟩ := by
    decide +kernel
  have hexit : (run entity read).exit ≠ 0 := by decide +kernel
  have hexit' : (run ["tokens", "b"] read).exit ≠ 0 := by decide +kernel
  obtain ⟨-, -, -, hfails, hsame⟩ := run_whole_or_nothing entity r read hr
  obtain ⟨-, -, -, hnothing, -⟩ := run_whole_or_nothing ["tokens", "b"] _ read htokens
  exact ⟨(hfails hexit).1, (hsame rfl fmt hr').2 hexit, by decide +kernel, (hnothing hexit').2.1⟩

end EntityChat.CommandLine
