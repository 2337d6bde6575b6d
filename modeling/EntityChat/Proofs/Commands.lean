import EntityChat.CommandLine.Run
import EntityChat.Proofs.Formatting

/-!
What the commands do to a source. A run is done if its content is text and the command makes
something of it. `fmt` prints a normal form: printing it again changes nothing, and it is the same
for two sources just if they declare equal entities.
-/

namespace EntityChat.CommandLine

theorem decode_toUTF8 (s : String) : decode (.ok s.toUTF8) = .ok s := by
  have hdecode : String.fromUTF8? s.toUTF8 = some s := by
    rw [String.fromUTF8?, String.toUTF8_eq_toByteArray, dif_pos s.isValidUTF8]
    rfl
  simp only [decode, bind, Except.bind, hdecode]
  rfl

def Outcome.piped (o : Outcome) : Except ReadError ByteArray := .ok o.output.toUTF8

/-- The content is that of a source which declares the entity. -/
def Declares (content : Except ReadError ByteArray) (e : Entity) : Prop :=
  ∃ source, decode content = .ok source ∧ Entity.read source = .ok e

theorem Declares.wellFormed {content : Except ReadError ByteArray} {e : Entity}
    (h : Declares content e) : e.WellFormed := by
  obtain ⟨source, -, hread⟩ := h
  exact (Entity.sentence_of_read hread).wellFormed

theorem declares_toUTF8 {source : String} {e : Entity} (h : Entity.read source = .ok e) :
    Declares (.ok source.toUTF8) e := ⟨source, decode_toUTF8 source, h⟩

namespace Request

variable {r : Request} {content : Except ReadError ByteArray}

theorem run_of_perform {source : String} {result : Result} (hdecode : decode content = .ok source)
    (h : perform r.command r.settings source = .ok result) :
    (r.run content).exit = 0 ∧ (r.run content).output = result.output := by
  have hresult : r.result content = .ok result := by
    simp only [Request.result, hdecode, h]
  simp only [run, hresult, and_self]

theorem exists_perform_of_exit (h : (r.run content).exit = 0) :
    ∃ source result, decode content = .ok source ∧
      perform r.command r.settings source = .ok result := by
  cases hdecode : decode content with
  | error cause => simp [run, Request.result, hdecode] at h
  | ok source =>
    cases hresult : perform r.command r.settings source with
    | error d => simp [run, Request.result, hdecode, hresult] at h
    | ok result => exact ⟨source, result, rfl, hresult⟩

theorem run_fmt (hr : r.command = .fmt) {e : Entity} (h : Declares content e) :
    (r.run content).exit = 0 ∧ (r.run content).output = e.render ++ "\n" := by
  obtain ⟨source, hdecode, hread⟩ := h
  have hperform : perform r.command r.settings source =
      .ok ⟨[.formatting e.name.name], e.render ++ "\n", ""⟩ := by
    rw [hr, perform, hread]
    rfl
  exact run_of_perform hdecode hperform

theorem exit_fmt_iff (hr : r.command = .fmt) :
    (r.run content).exit = 0 ↔ ∃ e, Declares content e := by
  constructor
  · intro h
    obtain ⟨source, result, hdecode, hperform⟩ := exists_perform_of_exit h
    rw [hr, perform] at hperform
    cases hread : Entity.read source with
    | error d =>
      rw [hread] at hperform
      cases hperform
    | ok e => exact ⟨e, source, hdecode, hread⟩
  · intro h
    obtain ⟨e, he⟩ := h
    exact (run_fmt hr he).1

/-- What declares an entity can be formatted. Formatting that again changes nothing, and two sources
are formatted alike just if they declare equal entities. -/
theorem fmt_normal_form (r q : Request) (hr : r.command = .fmt) (hq : q.command = .fmt)
    (content : Except ReadError ByteArray) :
    ((r.run content).exit = 0 ↔ ∃ e, Declares content e) ∧
    ((r.run content).exit = 0 → (q.run (r.run content).piped).exit = 0 ∧
      (q.run (r.run content).piped).output = (r.run content).output) ∧
    ∀ other, (r.run content).exit = 0 → (q.run other).exit = 0 →
      ∃ e e', Declares content e ∧ Declares other e' ∧
        ((r.run content).output = (q.run other).output ↔ (e == e') = true) := by
  refine ⟨exit_fmt_iff hr, fun h => ?_, fun other h hother => ?_⟩
  · obtain ⟨e, he⟩ := (exit_fmt_iff hr).mp h
    have houtput := (run_fmt hr he).2
    obtain ⟨e', hread, heq⟩ := Entity.exists_read_line he.wellFormed
    have hagain : Declares (r.run content).piped e' := by
      rw [Outcome.piped, houtput]
      exact declares_toUTF8 hread
    rw [houtput, ← Entity.render_congr heq]
    exact run_fmt hq hagain
  · obtain ⟨e, he⟩ := (exit_fmt_iff hr).mp h
    obtain ⟨e', he'⟩ := (exit_fmt_iff hq).mp hother
    refine ⟨e, e', he, he', ?_⟩
    rw [(run_fmt hr he).2, (run_fmt hq he').2, ← Entity.render_eq_iff he.wellFormed he'.wellFormed]
    exact String.append_left_inj "\n"

theorem fmt_normal_form_member :
    ∃ (r : Request) (content : Except ReadError ByteArray), r.command = .fmt ∧
      (r.run content).exit = 0 ∧
      (r.run content).output = "create entity é \x7b\n    a: INT (unique),\n\x7d\n" ∧
      (r.run (r.run content).piped).output = (r.run content).output := by
  let r : Request := ⟨.fmt, "-", ⟨.text, false, 0⟩⟩
  let content : Except ReadError ByteArray :=
    .ok "CREATE entity é\x7ba:INT(unique unique)\x7d".toUTF8
  have hexit : (r.run content).exit = 0 := by decide +kernel
  refine ⟨r, content, rfl, hexit, by decide +kernel, ?_⟩
  obtain ⟨-, hagain, -⟩ := fmt_normal_form r r rfl rfl content
  exact (hagain hexit).2

end Request

end EntityChat.CommandLine
