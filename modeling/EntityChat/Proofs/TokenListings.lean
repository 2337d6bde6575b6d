import EntityChat.Proofs.Documents
import EntityChat.Proofs.QuotedText
import EntityChat.Proofs.Rows

/-!
Listings of tokens. A listing has a row for each token, which shows its line, its column, its kind
and its lexeme, whatever the lexeme holds. So two sources have the same listing just if their tokens
agree in all of these.
-/

namespace EntityChat

def Token.shown (t : Token) : UInt32 × UInt32 × Kind × String :=
  (t.position.line, t.position.column, t.kind, t.lexeme)

theorem Token.shown_eq_iff {t u : Token} : t.shown = u.shown ↔
    (t.position.line = u.position.line ∧ t.position.column = u.position.column) ∧
      t.kind = u.kind ∧ t.lexeme = u.lexeme := by
  simp [shown, and_assoc]

theorem Kind.label_injective {j k : Kind} (h : j.label = k.label) : j = k := by
  have hj := ofLabel?_label j
  rw [h, ofLabel?_label] at hj
  exact (Option.some.inj hj).symm

theorem Kind.label_plain (k : Kind) : ∀ c ∈ k.label.toList, c ≠ ' ' ∧ c ≠ '\n' := by
  have hall : (k.label.toList.all fun c => c != ' ' && c != '\n') = true := by
    cases k <;> decide
  intro c hc
  simpa using List.all_eq_true.mp hall c hc

theorem Position.toList_display (p : Position) : p.display.toList =
    Nat.toDigits 10 p.line.toNat ++ ':' :: Nat.toDigits 10 p.column.toNat := by
  simp [display]

theorem Position.display_plain (p : Position) : ∀ c ∈ p.display.toList, c ≠ ' ' ∧ c ≠ '\n' := by
  have hdigits (n : Nat) : ∀ c ∈ Nat.toDigits 10 n, c ≠ ' ' ∧ c ≠ '\n' := by
    intro c hc
    have hdigit : c.isDigit = true := Nat.isDigit_of_mem_toDigits (by decide) (by decide) hc
    exact ⟨Json.ne_of_isDigit hdigit rfl, Json.ne_of_isDigit hdigit rfl⟩
  rw [toList_display]
  refine List.forall_mem_append.mpr ⟨hdigits _, List.forall_mem_cons.mpr ⟨by decide, hdigits _⟩⟩

namespace CommandLine

theorem toList_tokenLine (t : Token) : (tokenLine t).toList =
    t.position.display.toList ++
      ' ' :: (t.kind.label.toList ++ ' ' :: (Text.quoted t.lexeme).toList) := by
  have hspace : " ".toList = [' '] := rfl
  simp only [tokenLine, String.toList_append, hspace, List.append_assoc, List.cons_append,
    List.nil_append]

theorem newline_not_mem_tokenLine (t : Token) : '\n' ∉ (tokenLine t).toList := by
  intro h
  simp only [toList_tokenLine, List.mem_append, List.mem_cons] at h
  rcases h with h | h | h | h | h
  · exact (t.position.display_plain _ h).2 rfl
  · cases h
  · exact (t.kind.label_plain _ h).2 rfl
  · cases h
  · exact Text.newline_not_mem_quoted t.lexeme h

theorem tokenLine_eq_iff {t u : Token} : tokenLine t = tokenLine u ↔ t.shown = u.shown := by
  rw [Token.shown_eq_iff]
  constructor
  · intro h
    have hspace (rest : List Char) : Stops (· != ' ') (' ' :: rest) := stops_cons.mpr rfl
    have hplace (p : Position) : ∀ c ∈ p.display.toList, (c != ' ') = true := fun c hc =>
      bne_iff_ne.mpr (p.display_plain c hc).1
    have hlabel (k : Kind) : ∀ c ∈ k.label.toList, (c != ' ') = true := fun c hc =>
      bne_iff_ne.mpr (k.label_plain c hc).1
    have htext := congrArg String.toList h
    rw [toList_tokenLine, toList_tokenLine] at htext
    obtain ⟨hdisplay, hrest⟩ := (hspace _).append_inj (hspace _) (hplace _) (hplace _) htext
    obtain ⟨hkind, hquoted⟩ := (hspace _).append_inj (hspace _) (hlabel _) (hlabel _)
      (List.cons.inj hrest).2
    exact ⟨Position.line_column_of_display_eq (String.toList_inj.mp hdisplay),
      Kind.label_injective (String.toList_inj.mp hkind),
      Text.quoted_inj.mp (String.toList_inj.mp (List.cons.inj hquoted).2)⟩
  · intro h
    obtain ⟨⟨hline, hcolumn⟩, hkind, hlexeme⟩ := h
    rw [tokenLine, tokenLine, Position.display, Position.display, hline, hcolumn, hkind, hlexeme]

namespace Request

theorem output_of_tokens {r : Request} (hcommand : r.command = .tokens)
    (hformat : r.settings.format = .text) (source : String) :
    (r.run (.ok source.toUTF8)).output = tokenLines (tokenize source) := by
  refine text_of_read (x := .tokens _) hformat (by simp [hcommand]) ?_
  rw [hcommand]
  rfl

/-- A listing has a row for each token, in order, and the row tells all that it shows of the token.
So listings are the same just if their tokens agree in that. -/
theorem run_lists_tokens (r : Request) (source : String) (hcommand : r.command = .tokens)
    (hformat : r.settings.format = .text) :
    (r.run (.ok source.toUTF8)).exit = 0 ∧
    Rows (r.run (.ok source.toUTF8)).output ((tokenize source).map tokenLine) ∧
    (r.run (.ok source.toUTF8)).output.toList.count '\n' = (tokenize source).length ∧
    (∀ t u : Token, tokenLine t = tokenLine u ↔ t.shown = u.shown) ∧
    ∀ (q : Request) (other : String), q.command = .tokens → q.settings.format = .text →
      ((r.run (.ok source.toUTF8)).output = (q.run (.ok other.toUTF8)).output ↔
        (tokenize source).map Token.shown = (tokenize other).map Token.shown) := by
  have hread : r.command.read source = .ok (.tokens (tokenize source)) := by rw [hcommand]; rfl
  have hplain (ts : List Token) : ∀ t ∈ ts, '\n' ∉ (tokenLine t).toList := fun t _ =>
    newline_not_mem_tokenLine t
  have hrows := rows_join (hplain (tokenize source))
  rw [output_of_tokens hcommand hformat]
  refine ⟨exit_eq_zero_iff.mpr ⟨source, _, rfl, hread⟩, hrows, ?_, fun _ _ => tokenLine_eq_iff,
    fun q other hq hq' => ?_⟩
  · rw [← List.length_map tokenLine]
    exact hrows.count
  · rw [output_of_tokens hq hq']
    exact join_rows_eq_iff (hplain _) (hplain _) fun _ _ _ _ => tokenLine_eq_iff

theorem run_lists_tokens_escapes :
    let r : Request := ⟨.tokens, "-", ⟨.text, false, 0⟩⟩
    let output := (r.run (.ok "é \"\\\t\"\n".toUTF8)).output
    output =
        "1:1 Identifier \"é\"\n1:3 StringLiteral \"\\\\\\t\"\n1:7 Newline \"\\n\"\n2:1 Eof \"\"\n" ∧
      output.toList.count '\n' = 4 ∧
      output ≠ (r.run (.ok "é \"\\t\"\n".toUTF8)).output := by
  intro r output
  obtain ⟨-, -, hcount, -, hsame⟩ := run_lists_tokens r "é \"\\\t\"\n" rfl rfl
  have hlength : (tokenize "é \"\\\t\"\n").length = 4 := by decide +kernel
  refine ⟨by decide +kernel, hcount.trans hlength, fun h => ?_⟩
  exact absurd ((hsame r _ rfl rfl).mp h) (by decide +kernel)

end Request

end CommandLine

end EntityChat
