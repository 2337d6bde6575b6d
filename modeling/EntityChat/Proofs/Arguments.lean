import EntityChat.CommandLine.Arguments

/-!
What one argument does to those that are read behind it. Behind the command it is the escape, an
option or a word; in front of it, an option, the value of one, or the name of the command.
-/

namespace EntityChat.CommandLine

theorem exists_of_bind_eq_ok {ε α β : Type} {x : Except ε α} {f : α → Except ε β} {b : β}
    (h : (x >>= f) = .ok b) : ∃ a, x = .ok a ∧ f a = .ok b := by
  cases x with
  | error e => cases h
  | ok a => exact ⟨a, rfl, h⟩

theorem Spelling.exists_cons_of_short {cs letters : List Char} (h : ofChars cs = .short letters) :
    ∃ l ls, letters = l :: ls := by
  unfold ofChars at h
  split at h
  · cases h
  · cases h
  · exact ⟨_, _, (Spelling.short.inj h).symm⟩
  · cases h

theorem Command.name_eq_of_ofName? {arg : String} {c : Command} (h : ofName? arg = some c) :
    arg = c.name := by
  have hname := List.find?_some h
  exact (beq_iff_eq.mp hname).symm

theorem Command.plain_of_ofName? {arg : String} {c : Command} (h : ofName? arg = some c) :
    Spelling.ofChars arg.toList = .plain := by
  rw [name_eq_of_ofName? h]
  cases c <;> decide +kernel

theorem Command.ofName?_of_format {arg : String} {f : Format} (h : Format.ofName? arg = some f) :
    ofName? arg = none := by
  rw [Format.ofName?] at h
  split at h
  · next harg => rw [harg]; decide +kernel
  · split at h
    · next harg => rw [harg]; decide +kernel
    · cases h

namespace Given

variable {g g' s : Given} {c : Option Command} {command : Command} {f : Flag} {after : Given}
  {arg : String} {rest : List String}

theorem settle_of_nothing (h : g.waiting = .nothing) : g.settle = .ok g := by
  rw [settle, h]

theorem waiting_ne_output (h : g.settle = .ok s) : g.waiting ≠ .output := by
  intro hout
  rw [settle, hout] at h
  cases h

theorem exists_format_of_settle {value : String}
    (h : settle { g with waiting := .format value } = .ok s) :
    ∃ f, Format.ofName? value = some f := by
  simp only [settle] at h
  split at h
  · next f _ hf => exact ⟨f, hf⟩
  · cases h

def option (command : Option Command) (g : Given) : Spelling → Except Halt Given
  | .long name value => g.long command name value
  | .short letters => g.short command letters
  | .escape | .plain => .error .misuse

def word (g : Given) (arg : String) : Except Halt Given :=
  if g.waiting = .output then .ok { g with waiting := .format arg } else g.positional arg

theorem exists_settle_of_flag (h : g.flag c f = .ok g') : ∃ s, g.settle = .ok s := by
  obtain ⟨s, hs, -⟩ := exists_of_bind_eq_ok h
  exact ⟨s, hs⟩

theorem exists_settle_of_option
    (h : g.option c (Spelling.ofChars arg.toList) = .ok g') : ∃ s, g.settle = .ok s := by
  cases hs : Spelling.ofChars arg.toList with
  | escape | plain =>
    rw [hs] at h
    cases h
  | long name value =>
    rw [hs, option] at h
    unfold long at h
    split at h
    · obtain ⟨s, hs, -⟩ := exists_of_bind_eq_ok h
      exact ⟨s, hs⟩
    · split at h
      · exact exists_settle_of_flag h
      · cases h
  | short letters =>
    obtain ⟨l, ls, rfl⟩ := Spelling.exists_cons_of_short hs
    rw [hs, option, short, List.foldlM_cons] at h
    obtain ⟨g₁, hflag, -⟩ := exists_of_bind_eq_ok h
    split at hflag
    · exact exists_settle_of_flag hflag
    · cases hflag

theorem behind_cons_cases (h : behind command false g (arg :: rest) = .ok after) :
    (Spelling.ofChars arg.toList = .escape ∧ behind command true g rest = .ok after) ∨
    (∃ g', g.option (some command) (Spelling.ofChars arg.toList) = .ok g' ∧
      behind command false g' rest = .ok after) ∨
    (Spelling.ofChars arg.toList = .plain ∧
      ∃ g', g.word arg = .ok g' ∧ behind command false g' rest = .ok after) := by
  simp only [behind, Bool.false_eq_true, if_false] at h
  cases hs : Spelling.ofChars arg.toList with
  | escape =>
    rw [hs] at h
    exact .inl ⟨rfl, h⟩
  | long name value | short letters =>
    rw [hs] at h
    exact .inr (.inl (exists_of_bind_eq_ok h))
  | plain =>
    rw [hs] at h
    simp only at h
    refine .inr (.inr ⟨rfl, ?_⟩)
    rw [word]
    split at h
    · next hout => exact ⟨_, if_pos hout, h⟩
    · next hout =>
      rw [if_neg hout]
      exact exists_of_bind_eq_ok h

theorem behind_escape (hs : Spelling.ofChars arg.toList = .escape) :
    behind command false g (arg :: rest) = behind command true g rest := by
  simp only [behind, Bool.false_eq_true, if_false, hs]

theorem behind_option (hg : g.option (some command) (Spelling.ofChars arg.toList) = .ok g') :
    behind command false g (arg :: rest) = behind command false g' rest := by
  cases hs : Spelling.ofChars arg.toList with
  | escape | plain =>
    rw [hs] at hg
    cases hg
  | long name value | short letters =>
    rw [hs, option] at hg
    simp only [behind, Bool.false_eq_true, if_false, hs, hg]
    rfl

theorem behind_word (hs : Spelling.ofChars arg.toList = .plain) (hg : g.word arg = .ok g') :
    behind command false g (arg :: rest) = behind command false g' rest := by
  rw [word] at hg
  simp only [behind, Bool.false_eq_true, if_false, hs]
  split at hg
  · next hout =>
    obtain rfl := Except.ok.inj hg
    rw [if_pos hout]
  · next hout =>
    rw [if_neg hout, hg]
    rfl

end Given

namespace Request

variable {g g' s : Given} {c : Command} {after : Given} {arg : String} {rest : List String}
  {r : Request}

theorem before_cons_cases (h : before g (arg :: rest) = .ok r) :
    (Spelling.ofChars arg.toList = .plain ∧ g.waiting = .output ∧
      before { g with waiting := .format arg } rest = .ok r) ∨
    (∃ c after s, Command.ofName? arg = some c ∧ Given.behind c false .nothing rest = .ok after ∧
      g.settle = .ok s ∧ merge c s after = .ok r) ∨
    (∃ g', g.option none (Spelling.ofChars arg.toList) = .ok g' ∧ before g' rest = .ok r) := by
  by_cases hout : g.waiting = .output
  · simp only [before, hout, if_true] at h
    split at h
    · next hs => exact .inl ⟨hs, hout, h⟩
    · cases h
  · simp only [before, hout, if_false] at h
    split at h
    · next c harg =>
      obtain ⟨after, hafter, h⟩ := exists_of_bind_eq_ok h
      obtain ⟨s, hs, hmerge⟩ := exists_of_bind_eq_ok h
      exact .inr (.inl ⟨c, after, s, harg, hafter, hs, hmerge⟩)
    · split at h
      · cases h
      · split at h
        · next hs =>
          rw [hs]
          exact .inr (.inr (exists_of_bind_eq_ok h))
        · next hs =>
          rw [hs]
          exact .inr (.inr (exists_of_bind_eq_ok h))
        · cases h

theorem before_value (hs : Spelling.ofChars arg.toList = .plain) (hout : g.waiting = .output) :
    before g (arg :: rest) = before { g with waiting := .format arg } rest := by
  simp only [before, hout, if_true, hs]

theorem before_command (harg : Command.ofName? arg = some c)
    (hafter : Given.behind c false .nothing rest = .ok after) (hs : g.settle = .ok s) :
    before g (arg :: rest) = merge c s after := by
  have hout := Given.waiting_ne_output hs
  simp only [before, hout, if_false, harg, hafter, hs]
  rfl

theorem plain_ne_of_option {c : Option Command}
    (hg : g.option c (Spelling.ofChars arg.toList) = .ok g') :
    Spelling.ofChars arg.toList ≠ .plain := by
  intro hplain
  rw [hplain] at hg
  cases hg

theorem ofName?_of_option {c : Option Command}
    (hg : g.option c (Spelling.ofChars arg.toList) = .ok g') : Command.ofName? arg = none :=
  Option.eq_none_iff_forall_ne_some.mpr fun _ hc =>
    plain_ne_of_option hg (Command.plain_of_ofName? hc)

theorem before_option (hg : g.option none (Spelling.ofChars arg.toList) = .ok g') :
    before g (arg :: rest) = before g' rest := by
  obtain ⟨s, hsettle⟩ := Given.exists_settle_of_option hg
  have hout := Given.waiting_ne_output hsettle
  have hplain := plain_ne_of_option hg
  have harg := ofName?_of_option hg
  have hhelp : arg ≠ "help" := by
    intro hhelp
    exact hplain (by rw [hhelp]; decide +kernel)
  cases hs : Spelling.ofChars arg.toList with
  | escape =>
    rw [hs] at hg
    cases hg
  | plain => exact absurd hs hplain
  | long name value | short letters =>
    rw [hs, Given.option] at hg
    simp only [before, hout, if_false, harg, hhelp, hs, hg]
    rfl

theorem exists_settle {args : List String} (h : before g args = .ok r)
    (hout : g.waiting ≠ .output) : ∃ s, g.settle = .ok s := by
  cases args with
  | nil => cases h
  | cons arg rest =>
    rcases before_cons_cases h with ⟨-, h', -⟩ | ⟨c, after, s, -, -, hs, -⟩ | ⟨g', hg, -⟩
    · exact absurd h' hout
    · exact ⟨s, hs⟩
    · exact Given.exists_settle_of_option hg

end Request

end EntityChat.CommandLine
