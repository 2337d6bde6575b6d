import EntityChat.Proofs.Arguments
import EntityChat.Proofs.Runs

/-!
How loud a run is. The flags for it can be taken out of the arguments and nothing that the run comes
to changes, only what it tells about that: the log has more lines in it the more often the flag for
them is given on the side of the command that counts, and a quiet run keeps to itself what is said
to a reader of text.
-/

namespace EntityChat.CommandLine

def Spelling.flags? : Spelling → Option (List Flag)
  | .long name none => (Flag.ofName? name).map fun f => [f]
  | .short letters => letters.mapM Flag.ofLetter?
  | _ => none

def Spelling.flags (s : Spelling) : List Flag := s.flags?.getD []

def Flag.isVolume (f : Flag) : Bool := f = .quiet ∨ f = .verbose

def Spelling.isVolume (s : Spelling) : Bool := s.flags?.any fun fs => fs.all Flag.isVolume

/-- The arguments without those that say how loud to be. Behind an escape none does. -/
def unvoiced : List String → List String
  | [] => []
  | arg :: rest =>
    let s := Spelling.ofChars arg.toList
    if s = .escape then arg :: rest
    else if s.isVolume then unvoiced rest
    else arg :: unvoiced rest

def flags : List String → List Flag
  | [] => []
  | arg :: rest =>
    let s := Spelling.ofChars arg.toList
    if s = .escape then [] else s.flags ++ flags rest

def voices (args : List String) : Nat := (flags args).count .verbose

def quiet (args : List String) : Bool := (flags args).contains .quiet

def inFront (args : List String) : List String :=
  args.takeWhile fun arg => (Command.ofName? arg).isNone

def fromCommand (args : List String) : List String :=
  args.dropWhile fun arg => (Command.ofName? arg).isNone

/-- What counts is how often they do behind the command, or in front of it if they never do behind
it. -/
def verbosity (args : List String) : Nat :=
  if voices (fromCommand args) = 0 then voices (inFront args) else voices (fromCommand args)

section

variable {arg : String} {rest : List String}

theorem unvoiced_escape (h : Spelling.ofChars arg.toList = .escape) :
    unvoiced (arg :: rest) = arg :: rest := by
  simp only [unvoiced, h, if_pos]

theorem unvoiced_volume (h : (Spelling.ofChars arg.toList).isVolume = true) :
    unvoiced (arg :: rest) = unvoiced rest := by
  have hne : Spelling.ofChars arg.toList ≠ .escape := by
    intro hescape
    rw [hescape] at h
    cases h
  simp only [unvoiced, hne, h, if_false, if_true]

theorem unvoiced_other (hne : Spelling.ofChars arg.toList ≠ .escape)
    (h : (Spelling.ofChars arg.toList).isVolume = false) :
    unvoiced (arg :: rest) = arg :: unvoiced rest := by
  simp only [unvoiced, hne, h, if_false, Bool.false_eq_true]

theorem unvoiced_plain (h : Spelling.ofChars arg.toList = .plain) :
    unvoiced (arg :: rest) = arg :: unvoiced rest :=
  unvoiced_other (by simp [h]) (by rw [h]; rfl)

theorem flags_escape (h : Spelling.ofChars arg.toList = .escape) : flags (arg :: rest) = [] := by
  simp only [flags, h, if_pos]

theorem flags_cons (hne : Spelling.ofChars arg.toList ≠ .escape) :
    flags (arg :: rest) = (Spelling.ofChars arg.toList).flags ++ flags rest := by
  simp only [flags, hne, if_false]

theorem flags_plain (h : Spelling.ofChars arg.toList = .plain) :
    flags (arg :: rest) = flags rest := by
  rw [flags_cons (by simp [h]), h]
  rfl

end

namespace Given

variable {g g' g₀ s after : Given} {c : Option Command} {command : Command} {f : Flag}
  {fs : List Flag}

def mute (g : Given) : Given := { g with quiet := false, verbosity := 0 }

theorem settle_mute (g : Given) : g.mute.settle = g.settle.map mute := by
  obtain ⟨format, quiet, verbosity, file, waiting⟩ := g
  cases waiting with
  | nothing | output => rfl
  | format value =>
    simp only [settle, mute]
    cases format <;> cases Format.ofName? value <;> rfl
  | file value =>
    simp only [settle, mute]
    split <;> rfl

theorem settled (h : g.settle = .ok s) :
    s.waiting = .nothing ∧ s.quiet = g.quiet ∧ s.verbosity = g.verbosity := by
  rw [settle] at h
  split at h
  · next hwaiting =>
    obtain rfl := Except.ok.inj h
    exact ⟨hwaiting, rfl, rfl⟩
  · cases h
  · split at h
    · obtain rfl := Except.ok.inj h
      exact ⟨rfl, rfl, rfl⟩
    · cases h
  · split at h
    · cases h
    · obtain rfl := Except.ok.inj h
      exact ⟨rfl, rfl, rfl⟩

structure Gains (fs : List Flag) (g g' : Given) : Prop where
  quiet : g'.quiet = (g.quiet || fs.contains .quiet)
  verbosity : g'.verbosity = g.verbosity + fs.count .verbose

theorem Gains.nil (hq : g'.quiet = g.quiet) (hv : g'.verbosity = g.verbosity) :
    Gains [] g g' := ⟨by simp [hq], by simp [hv]⟩

theorem Gains.append {g'' : Given} {gs : List Flag} (h : Gains fs g g') (h' : Gains gs g' g'') :
    Gains (fs ++ gs) g g'' := by
  constructor
  · rw [h'.quiet, h.quiet, List.contains_append, Bool.or_assoc]
  · rw [h'.verbosity, h.verbosity, List.count_append, Nat.add_assoc]

/-- The second state comes of the same arguments without those that say how loud to be. Such an
argument makes the first state look at what waits. -/
structure Tracks (g g₀ : Given) : Prop where
  settle : g₀.settle = g.settle.map mute
  output : g.waiting = .output ∨ g₀.waiting = .output → g₀ = g.mute

theorem Tracks.of_mute (g : Given) : Tracks g g.mute := ⟨settle_mute g, fun _ => rfl⟩

theorem Tracks.settle_eq (h : Tracks g g₀) (hs : g.settle = .ok s) : g₀.settle = .ok s.mute := by
  rw [h.settle, hs]
  rfl

theorem Tracks.waiting_iff (h : Tracks g g₀) : g.waiting = .output ↔ g₀.waiting = .output := by
  constructor
  · intro hg
    rw [h.output (.inl hg)]
    exact hg
  · intro hg₀
    have hmute := h.output (.inr hg₀)
    rw [hmute] at hg₀
    exact hg₀

theorem Tracks.flag (h : Tracks g g₀) (hg : g.flag c f = .ok g') :
    f.isVolume = true ∧ Tracks g' g₀ ∧ Gains [f] g g' := by
  obtain ⟨s, hs, hg⟩ := exists_of_bind_eq_ok hg
  obtain ⟨hwaiting, hquiet, hverbosity⟩ := settled hs
  have htracks (hmute : g'.mute = s.mute) (hnothing : g'.waiting = .nothing) : Tracks g' g₀ := by
    constructor
    · rw [settle_of_nothing hnothing, h.settle_eq hs, ← hmute]
      rfl
    · rintro (hout | hout)
      · rw [hnothing] at hout
        cases hout
      · exact absurd (h.waiting_iff.mpr hout) (waiting_ne_output hs)
  cases f with
  | quiet =>
    simp only at hg
    split at hg
    · cases hg
    · obtain rfl := Except.ok.inj hg
      refine ⟨rfl, htracks rfl hwaiting, by simp, ?_⟩
      simpa using hverbosity
  | verbose =>
    obtain rfl := Except.ok.inj hg
    refine ⟨rfl, htracks rfl hwaiting, ?_, ?_⟩
    · simpa using hquiet
    · simpa using hverbosity
  | version | help => cases c <;> cases hg

theorem Tracks.flags (h : Tracks g g₀) (hg : fs.foldlM (fun g f => g.flag c f) g = .ok g') :
    fs.all Flag.isVolume = true ∧ Tracks g' g₀ ∧ Gains fs g g' := by
  induction fs generalizing g with
  | nil =>
    obtain rfl := Except.ok.inj hg
    exact ⟨rfl, h, .nil rfl rfl⟩
  | cons f fs ih =>
    rw [List.foldlM_cons] at hg
    obtain ⟨g₁, hflag, hg⟩ := exists_of_bind_eq_ok hg
    obtain ⟨hf, h₁, hgains⟩ := h.flag hflag
    obtain ⟨hfs, h', hgains'⟩ := ih h₁ hg
    exact ⟨by rw [List.all_cons, hf, hfs]; rfl, h', hgains.append hgains'⟩

theorem exists_flags_of_short {letters : List Char} (hg : g.short c letters = .ok g') :
    ∃ fs, letters.mapM Flag.ofLetter? = some fs ∧
      fs.foldlM (fun g f => g.flag c f) g = .ok g' := by
  induction letters generalizing g with
  | nil => exact ⟨[], rfl, hg⟩
  | cons l letters ih =>
    rw [short, List.foldlM_cons] at hg
    obtain ⟨g₁, hflag, hg⟩ := exists_of_bind_eq_ok hg
    cases hl : Flag.ofLetter? l with
    | none =>
      rw [hl] at hflag
      cases hflag
    | some f =>
      rw [hl] at hflag
      obtain ⟨fs, hfs, hg⟩ := ih hg
      refine ⟨f :: fs, by simp [hl, hfs], ?_⟩
      have hflag : g.flag c f = .ok g₁ := hflag
      rw [List.foldlM_cons, hflag]
      exact hg

theorem Tracks.setOutput {value : Option String} (h : Tracks g g₀)
    (hg : g.long c "output" value = .ok g') :
    ∃ g₀', g₀.long c "output" value = .ok g₀' ∧ Tracks g' g₀' ∧ Gains [] g g' := by
  unfold long at hg ⊢
  rw [if_pos rfl] at hg ⊢
  obtain ⟨s, hs, hg⟩ := exists_of_bind_eq_ok hg
  obtain ⟨-, hquiet, hverbosity⟩ := settled hs
  have hs₀ := h.settle_eq hs
  simp only [hs₀, bind, Except.bind]
  cases value with
  | none =>
    obtain rfl := Except.ok.inj hg
    exact ⟨_, rfl, .of_mute _, .nil hquiet hverbosity⟩
  | some v =>
    obtain ⟨-, hquiet', hverbosity'⟩ := settled hg
    refine ⟨g'.mute, ?_, .of_mute g', .nil (hquiet'.trans hquiet) (hverbosity'.trans hverbosity)⟩
    have hg : Given.settle { s with waiting := .format v } = .ok g' := hg
    have hmute := settle_mute { s with waiting := .format v }
    rw [hg] at hmute
    exact hmute

theorem Tracks.positional {value : String} (h : Tracks g g₀)
    (hg : g.positional value = .ok g') :
    ∃ g₀', g₀.positional value = .ok g₀' ∧ Tracks g' g₀' ∧ Gains [] g g' := by
  obtain ⟨s, hs, hg⟩ := exists_of_bind_eq_ok hg
  obtain ⟨-, hquiet, hverbosity⟩ := settled hs
  have hs₀ := h.settle_eq hs
  split at hg
  · cases hg
  · next hfile =>
    obtain rfl := Except.ok.inj hg
    refine ⟨_, ?_, .of_mute _, .nil hquiet hverbosity⟩
    simp only [Given.positional, hs₀, bind, Except.bind]
    exact if_neg hfile

theorem Tracks.long {name : String} {value : Option String} (h : Tracks g g₀)
    (hg : g.long c name value = .ok g') :
    Gains (Spelling.long name value).flags g g' ∧
      ((Spelling.long name value).isVolume = true ∧ Tracks g' g₀ ∨
        (Spelling.long name value).isVolume = false ∧
          ∃ g₀', g₀.long c name value = .ok g₀' ∧ Tracks g' g₀') := by
  by_cases hname : name = "output"
  · subst hname
    have hflags : (Spelling.long "output" value).flags? = none := by cases value <;> rfl
    rw [Spelling.isVolume, Spelling.flags, hflags]
    obtain ⟨g₀', hg₀, h', hgains⟩ := h.setOutput hg
    exact ⟨hgains, .inr ⟨rfl, g₀', hg₀, h'⟩⟩
  · unfold Given.long at hg
    rw [if_neg hname] at hg
    split at hg
    · next f hf =>
      have hflags : (Spelling.long name none).flags? = some [f] := by
        rw [Spelling.flags?, hf]
        rfl
      obtain ⟨hvolume, h', hgains⟩ := h.flag hg
      rw [Spelling.isVolume, Spelling.flags, hflags]
      exact ⟨hgains, .inl ⟨by simp [hvolume], h'⟩⟩
    · cases hg

theorem Tracks.option {o : Spelling} (h : Tracks g g₀) (hg : g.option c o = .ok g') :
    o ≠ .escape ∧ Gains o.flags g g' ∧
      (o.isVolume = true ∧ Tracks g' g₀ ∨
        o.isVolume = false ∧ ∃ g₀', g₀.option c o = .ok g₀' ∧ Tracks g' g₀') := by
  cases o with
  | escape | plain => cases hg
  | long name value => exact ⟨by simp, h.long hg⟩
  | short letters =>
    obtain ⟨fs, hfs, hg⟩ := exists_flags_of_short hg
    obtain ⟨hall, h', hgains⟩ := h.flags hg
    have hflags : (Spelling.short letters).flags? = some fs := hfs
    rw [Spelling.isVolume, Spelling.flags, hflags]
    exact ⟨by simp, hgains, .inl ⟨hall, h'⟩⟩

theorem Tracks.value (h : Tracks g g₀) (hout : g.waiting = .output) (arg : String) :
    Tracks { g with waiting := .format arg } { g₀ with waiting := .format arg } := by
  rw [h.output (.inl hout)]
  exact .of_mute _

theorem Tracks.word {arg : String} (h : Tracks g g₀) (hg : g.word arg = .ok g') :
    ∃ g₀', g₀.word arg = .ok g₀' ∧ Tracks g' g₀' ∧ Gains [] g g' := by
  rw [Given.word] at hg ⊢
  split at hg
  · next hout =>
    obtain rfl := Except.ok.inj hg
    rw [if_pos (h.waiting_iff.mp hout)]
    exact ⟨_, rfl, h.value hout arg, .nil rfl rfl⟩
  · next hout =>
    rw [if_neg (h.waiting_iff.not.mp hout)]
    exact h.positional hg

theorem Tracks.escaped {args : List String} (h : Tracks g g₀)
    (hb : behind command true g args = .ok after) :
    behind command true g₀ args = .ok after.mute ∧ Gains [] g after := by
  induction args generalizing g g₀ with
  | nil =>
    obtain ⟨-, hquiet, hverbosity⟩ := settled hb
    exact ⟨h.settle_eq hb, .nil hquiet hverbosity⟩
  | cons arg rest ih =>
    simp only [behind, if_true] at hb ⊢
    obtain ⟨g', hg, hb⟩ := exists_of_bind_eq_ok hb
    obtain ⟨g₀', hg₀, h', hgains⟩ := h.positional hg
    obtain ⟨hafter, hgains'⟩ := ih h' hb
    rw [hg₀]
    exact ⟨hafter, hgains.append hgains'⟩

theorem Tracks.behind {args : List String} (h : Tracks g g₀)
    (hb : behind command false g args = .ok after) :
    Given.behind command false g₀ (unvoiced args) = .ok after.mute ∧
      Gains (CommandLine.flags args) g after := by
  induction args generalizing g g₀ with
  | nil =>
    obtain ⟨-, hquiet, hverbosity⟩ := settled hb
    exact ⟨h.settle_eq hb, .nil hquiet hverbosity⟩
  | cons arg rest ih =>
    rcases behind_cons_cases hb with ⟨hs, hb⟩ | ⟨g', hg, hb⟩ | ⟨hs, g', hg, hb⟩
    · rw [unvoiced_escape hs, flags_escape hs, behind_escape hs]
      exact h.escaped hb
    · obtain ⟨hne, hgains, ⟨hvolume, h'⟩ | ⟨hvolume, g₀', hg₀, h'⟩⟩ := h.option hg
      · obtain ⟨hafter, hgains'⟩ := ih h' hb
        rw [unvoiced_volume hvolume, flags_cons hne]
        exact ⟨hafter, hgains.append hgains'⟩
      · obtain ⟨hafter, hgains'⟩ := ih h' hb
        rw [unvoiced_other hne hvolume, flags_cons hne, behind_option hg₀]
        exact ⟨hafter, hgains.append hgains'⟩
    · obtain ⟨g₀', hg₀, h', hgains⟩ := h.word hg
      obtain ⟨hafter, hgains'⟩ := ih h' hb
      rw [unvoiced_plain hs, flags_plain hs, behind_word hs hg₀]
      exact ⟨hafter, hgains.append hgains'⟩

end Given

namespace Request

variable {g g' g₀ : Given} {args rest : List String} {arg : String} {r : Request}

def mute (r : Request) : Request :=
  { r with settings := { r.settings with quiet := false, verbosity := 0 } }

theorem merge_mute (c : Command) (before after : Given) :
    merge c before.mute after.mute = (merge c before after).map mute := by
  obtain ⟨format, quiet, verbosity, file, waiting⟩ := after
  cases file <;> rfl

structure Loud (g : Given) (args : List String) (r : Request) : Prop where
  quiet : r.settings.quiet = (g.quiet || CommandLine.quiet args)
  verbosity : r.settings.verbosity =
    if voices (fromCommand args) = 0 then g.verbosity + voices (inFront args)
    else voices (fromCommand args)

theorem voices_cons {fs : List Flag} (hfs : flags (arg :: args) = fs ++ flags args) :
    voices (arg :: args) = fs.count .verbose + voices args := by
  rw [voices, hfs, List.count_append, voices]

theorem Loud.cons {fs : List Flag} (h : Loud g' rest r) (hgains : Given.Gains fs g g')
    (hfs : ∀ args, flags (arg :: args) = fs ++ flags args) (harg : Command.ofName? arg = none) :
    Loud g (arg :: rest) r := by
  have hfront : inFront (arg :: rest) = arg :: inFront rest := by simp [inFront, harg]
  have hbehind : fromCommand (arg :: rest) = fromCommand rest := by simp [fromCommand, harg]
  constructor
  · rw [h.quiet, hgains.quiet, CommandLine.quiet, CommandLine.quiet, hfs, List.contains_append,
      Bool.or_assoc]
  · rw [h.verbosity, hgains.verbosity, hfront, hbehind, voices_cons (hfs _), Nat.add_assoc]

theorem Loud.command {c : Command} {s after : Given} (harg : Command.ofName? arg = some c)
    (hs : g.settle = .ok s) (hafter : Given.Gains (flags rest) .nothing after)
    (h : merge c s after = .ok r) : Loud g (arg :: rest) r := by
  have hflags : flags (arg :: rest) = flags rest := flags_plain (Command.plain_of_ofName? harg)
  have hfront : inFront (arg :: rest) = [] := by simp [inFront, harg]
  have hbehind : fromCommand (arg :: rest) = arg :: rest := by simp [fromCommand, harg]
  obtain ⟨-, hquiet, hverbosity⟩ := Given.settled hs
  have hvoices : voices (arg :: rest) = after.verbosity := by
    rw [voices, hflags, hafter.verbosity]
    exact (Nat.zero_add _).symm
  rw [merge] at h
  split at h
  · cases h
  · obtain rfl := Except.ok.inj h
    constructor
    · rw [CommandLine.quiet, hflags, ← hquiet, hafter.quiet]
      rfl
    · rw [hbehind, hfront, hvoices, ← hverbosity]
      rfl

theorem before_unvoiced (h : Given.Tracks g g₀) (hb : before g args = .ok r) :
    before g₀ (unvoiced args) = .ok r.mute ∧ Loud g args r := by
  induction args generalizing g g₀ with
  | nil => cases hb
  | cons arg rest ih =>
    rcases before_cons_cases hb with
      ⟨hs, hout, hb⟩ | ⟨c, after, s, harg, hafter, hs, hmerge⟩ | ⟨g', hg, hb⟩
    · obtain ⟨hbefore, hloud⟩ := ih (h.value hout arg) hb
      -- the value of an option is no name of a command, for it would be no format
      have harg : Command.ofName? arg = none := by
        obtain ⟨s, hsettle⟩ := exists_settle hb (by simp)
        obtain ⟨f, hf⟩ := Given.exists_format_of_settle hsettle
        exact Command.ofName?_of_format hf
      rw [unvoiced_plain hs, before_value hs (h.waiting_iff.mp hout)]
      exact ⟨hbefore, hloud.cons (.nil rfl rfl) (fun _ => flags_plain hs) harg⟩
    · obtain ⟨hbehind, hgains⟩ := (Given.Tracks.of_mute .nothing).behind hafter
      have hbehind : Given.behind c false .nothing (unvoiced rest) = .ok after.mute := hbehind
      rw [unvoiced_plain (Command.plain_of_ofName? harg),
        before_command harg hbehind (h.settle_eq hs), merge_mute, hmerge]
      exact ⟨rfl, .command harg hs hgains hmerge⟩
    · have harg := ofName?_of_option hg
      obtain ⟨hne, hgains, ⟨hvolume, h'⟩ | ⟨hvolume, g₀', hg₀, h'⟩⟩ := h.option hg
      · obtain ⟨hbefore, hloud⟩ := ih h' hb
        rw [unvoiced_volume hvolume]
        exact ⟨hbefore, hloud.cons hgains (fun _ => flags_cons hne) harg⟩
      · obtain ⟨hbefore, hloud⟩ := ih h' hb
        rw [unvoiced_other hne hvolume, before_option hg₀]
        exact ⟨hbefore, hloud.cons hgains (fun _ => flags_cons hne) harg⟩

theorem accepted_unvoiced (h : ofArguments args = .ok r) :
    ofArguments (unvoiced args) = .ok r.mute ∧ r.settings.quiet = CommandLine.quiet args ∧
      r.settings.verbosity = CommandLine.verbosity args := by
  obtain ⟨hbefore, hloud⟩ := before_unvoiced (.of_mute .nothing) h
  refine ⟨hbefore, hloud.quiet, ?_⟩
  rw [hloud.verbosity, CommandLine.verbosity]
  simp [Given.nothing]

end Request

theorem logLines_sublist {v w : Nat} (h : v ≤ w) (es : List Event) :
    (logLines v es).Sublist (logLines w es) := by
  refine (List.monotone_filter_right es fun e he => ?_).map Event.line
  exact decide_eq_true ((of_decide_eq_true he).trans h)

section

variable (format : Format)

theorem Result.exists_of_eq (es : List Event) (text notice : String) (doc : Json) :
    ∃ es' output loud, (format = .text ∨ loud = "") ∧ ∀ quiet verbosity,
      Result.of ⟨format, quiet, verbosity⟩ es text notice doc =
        ⟨es', output, if quiet then "" else loud⟩ := by
  cases format with
  | text => exact ⟨es, text, notice, .inl rfl, fun _ _ => rfl⟩
  | json => exact ⟨es, _, "", .inr rfl, fun quiet _ => by cases quiet <;> rfl⟩

theorem Command.exists_shown_eq (c : Command) (f : Finding) :
    ∃ es output loud, (format = .text ∨ loud = "") ∧ ∀ quiet verbosity,
      c.shown ⟨format, quiet, verbosity⟩ f = ⟨es, output, if quiet then "" else loud⟩ := by
  cases f with
  | entity e =>
    by_cases hc : c = .fmt
    · refine ⟨[.formatting e.name.name], e.render ++ "\n", "", .inr rfl, fun quiet _ => ?_⟩
      rw [shown, if_pos hc, ite_self]
    · simp only [shown, if_neg hc]
      exact Result.exists_of_eq format _ _ _ _
  | transcript t => exact Result.exists_of_eq format _ _ _ _
  | tokens ts => exact Result.exists_of_eq format _ _ _ _

theorem Failure.exists_report_eq (f : Failure) :
    ∃ soft loud, (soft = loud ∨ soft = "" ∧ format = .text) ∧ ∀ quiet verbosity,
      f.report ⟨format, quiet, verbosity⟩ = if quiet then soft else loud := by
  cases format with
  | text => exact ⟨"", _, .inr ⟨rfl, rfl⟩, fun _ _ => rfl⟩
  | json => exact ⟨_, _, .inl rfl, fun quiet _ => by cases quiet <;> rfl⟩

theorem Request.exists_run_eq (c : Command) (file : String)
    (content : Except ReadError ByteArray) :
    ∃ exit output es soft loud, (soft = loud ∨ soft = "" ∧ format = .text) ∧ ∀ quiet verbosity,
      run ⟨c, file, ⟨format, quiet, verbosity⟩⟩ content =
        ⟨exit, output, logLines verbosity es, if quiet then soft else loud⟩ := by
  let r (quiet : Bool) (verbosity : Nat) : Request := ⟨c, file, ⟨format, quiet, verbosity⟩⟩
  let opening := (r false 0).opening
  rcases (r false 0).reads_or_fails content with ⟨source, f, hsource, hread⟩ | ⟨f, hf⟩
  · obtain ⟨es, output, loud, hloud, heq⟩ := c.exists_shown_eq format f
    refine ⟨0, output, opening :: es, "", loud, ?_, fun quiet verbosity => ?_⟩
    · rcases hloud with htext | hloud
      · exact .inr ⟨rfl, htext⟩
      · exact .inl hloud.symm
    · have hread : (r quiet verbosity).command.read source = .ok f := hread
      rw [run_of_read hsource hread, heq]
      rfl
  · obtain ⟨soft, loud, hsoft, heq⟩ := f.exists_report_eq format
    refine ⟨1, "", [opening], soft, loud, hsoft, fun quiet verbosity => ?_⟩
    have hf : (r quiet verbosity).Fails content f := hf.congr rfl rfl
    rw [run_of_fails hf, heq]
    rfl

end

/-- Runs whose arguments differ in nothing but how loud to be come to the same. The log tells less
or more of the same events, by the verbosity alone, and quiet runs may keep the remainder from
readers of text. -/
theorem run_undisturbed (args args' : List String) (r r' : Request)
    (read : String → Except ReadError ByteArray) (hr : Request.ofArguments args = .ok r)
    (hr' : Request.ofArguments args' = .ok r') (h : unvoiced args = unvoiced args') :
    let o := run args read
    let o' := run args' read
    o.exit = o'.exit ∧ o.output = o'.output ∧
      (∃ es, o.errors = String.join (logLines (verbosity args) es) ++ o.remainder ∧
        o.log = logLines (verbosity args) es ∧ o'.log = logLines (verbosity args') es) ∧
      (verbosity args = verbosity args' → o.log = o'.log) ∧
      (verbosity args ≤ verbosity args' → o.log.Sublist o'.log) ∧
      (quiet args = quiet args' → o.remainder = o'.remainder) ∧
      (quiet args = false → quiet args' = true →
        o'.remainder = o.remainder ∨ o'.remainder = "" ∧ r.settings.format = .text) := by
  intro o o'
  obtain ⟨hmute, hquiet, hverbosity⟩ := Request.accepted_unvoiced hr
  obtain ⟨hmute', hquiet', hverbosity'⟩ := Request.accepted_unvoiced hr'
  rw [h, hmute'] at hmute
  obtain ⟨c, file, format, q, v⟩ := r
  obtain ⟨c', file', format', q', v'⟩ := r'
  obtain ⟨rfl, rfl, rfl⟩ : c' = c ∧ file' = file ∧ format' = format := by
    simpa [Request.mute] using hmute
  obtain ⟨exit, output, es, soft, loud, hsoft, heq⟩ := Request.exists_run_eq format' c' file'
    (read file')
  have ho : o = ⟨exit, output, logLines (verbosity args) es,
      if quiet args then soft else loud⟩ := by
    rw [← hquiet, ← hverbosity, ← heq]
    exact run_of_ofArguments hr read
  have ho' : o' =
      ⟨exit, output, logLines (verbosity args') es, if quiet args' then soft else loud⟩ := by
    rw [← hquiet', ← hverbosity', ← heq]
    exact run_of_ofArguments hr' read
  rw [ho, ho']
  refine ⟨rfl, rfl, ⟨es, rfl, rfl, rfl⟩, fun hv => ?_, fun hv => logLines_sublist hv es,
    fun hq => ?_, fun hq hq' => ?_⟩
  · rw [hv]
  · rw [hq]
  · rw [hq, hq']
    rcases hsoft with rfl | ⟨rfl, htext⟩
    · exact .inl rfl
    · exact .inr ⟨rfl, htext⟩

theorem run_undisturbed_broken_transcript :
    let read (_ : String) : Except ReadError ByteArray := .ok "é says".toUTF8
    let o := run ["--verbose", "chat", "-v", "--", "b"] read
    let o' := run ["--quiet", "chat", "-vv", "--", "b"] read
    o.exit = 1 ∧ o'.exit = 1 ∧ o.log.Sublist o'.log ∧ o.remainder ≠ "" ∧ o'.remainder = "" := by
  intro read o o'
  let r (quiet : Bool) (verbosity : Nat) : Request := ⟨.chat, "b", ⟨.text, quiet, verbosity⟩⟩
  have hr : Request.ofArguments ["--verbose", "chat", "-v", "--", "b"] = .ok (r false 1) := by
    decide +kernel
  have hr' : Request.ofArguments ["--quiet", "chat", "-vv", "--", "b"] = .ok (r true 2) := by
    decide +kernel
  have hexit : o.exit = 1 := by decide +kernel
  have hloud : o.remainder ≠ "" := by decide +kernel
  obtain ⟨hsame, -, -, -, hlog, -, -⟩ :=
    run_undisturbed _ _ (r false 1) (r true 2) read hr hr' (by decide +kernel)
  exact ⟨hexit, hsame ▸ hexit, hlog (by decide +kernel), hloud, by decide +kernel⟩

/-- Behind the command the flag is counted anew, so that one more of it may make the log shorter. -/
theorem log_shorter_of_more_voices :
    let args := ["-vv", "entity", "-"]
    let args' := ["-vv", "entity", "-v", "-"]
    let read (_ : String) : Except ReadError ByteArray := .ok "create entity a \x7b\x7d".toUTF8
    (∃ r, Request.ofArguments args = .ok r) ∧ (∃ r, Request.ofArguments args' = .ok r) ∧
      unvoiced args = unvoiced args' ∧ quiet args = quiet args' ∧ voices args < voices args' ∧
      ¬ (run args read).log.Sublist (run args' read).log := by
  have hr : Request.ofArguments ["-vv", "entity", "-"] = .ok ⟨.entity, "-", ⟨.text, false, 2⟩⟩ := by
    decide +kernel
  have hr' : Request.ofArguments ["-vv", "entity", "-v", "-"] =
      .ok ⟨.entity, "-", ⟨.text, false, 1⟩⟩ := by
    decide +kernel
  exact ⟨⟨_, hr⟩, ⟨_, hr'⟩, by decide +kernel⟩

end EntityChat.CommandLine
