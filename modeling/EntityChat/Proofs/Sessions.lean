import EntityChat.Proofs.EntityReading
import EntityChat.Proofs.TranscriptReading

/-!
Reading declarations and chats one after another from the same tokens. What a call gives depends on
the place of the cursor alone, and what is left over from earlier calls does not matter. A failed
call leaves the cursor at the token of its diagnostic, a successful one behind all tokens, where
only empty chats are left to read.
-/

namespace EntityChat

inductive Reply
  | declaration (e : Entity)
  | chat (t : Transcript)

def Grammar.rule : Grammar → Rule Reply
  | entity => do
    let e ← Entity.rule
    return .declaration e
  | chat => do
    let t ← Transcript.rule
    return .chat t

def Reading.after (s : Reading) (calls : List Grammar) : Reading :=
  calls.foldl (fun s g => (g.rule.run s).2) s

namespace Cursor

/-- The cursor stands in tokens of which the end of input is the last, or behind them. -/
structure Sound (c : Cursor) : Prop where
  ended : Ended c.tokens.toList
  within : c.index ≤ c.tokens.size

def Spent (c : Cursor) : Prop := c.index = c.tokens.size

theorem Sound.advance {c : Cursor} (h : c.Sound) : c.advance.Sound := by
  have htokens := c.leads_advance.1
  exact ⟨htokens ▸ h.ended, htokens ▸ index_advance_le h.within⟩

theorem Sound.eat {c d : Cursor} {k : Kind} {t : Token} (h : c.Sound)
    (heat : c.eat? k = some (t, d)) : d.Sound := by
  obtain ⟨-, -, rfl⟩ := eat?_eq_some_iff.mp heat
  exact h.advance

theorem Sound.skip {c : Cursor} (h : c.Sound) (k : Kind) : (c.skip k).Sound := by
  fun_induction Cursor.skip c k with
  | case1 c _ ih => exact ih h.advance
  | case2 c _ => exact h

theorem Sound.spent_advance {c : Cursor} (h : c.Sound) (hat : c.isAt .endOfInput = true) :
    c.advance.Spent := by
  unfold Cursor.advance
  split
  · next hlt =>
    obtain ⟨us, z, htokens, -, hus⟩ := h.ended
    have hsize : c.tokens.size = us.length + 1 := by
      rw [← Array.length_toList, htokens, List.length_append, List.length_singleton]
    have hcurrent : c.tokens.toList[c.index]? = some c.current := by
      simp [current, tokenAt, hlt]
    change c.index + 1 = c.tokens.size
    -- a token in front of the last one is no end of input
    by_contra hne
    have hindex : c.index < us.length := by omega
    rw [htokens, List.getElem?_append_left hindex] at hcurrent
    exact hus _ (List.mem_of_getElem? hcurrent) (isAt_iff.mp hat)
  · next hlt => exact Nat.le_antisymm h.within (Nat.le_of_not_lt hlt)

theorem Spent.current {c : Cursor} (h : c.Spent) (hs : c.Sound) :
    c.tokens.toList.getLast? = some c.current ∧ c.current.kind = .endOfInput := by
  obtain ⟨us, z, htokens, hz, -⟩ := hs.ended
  have hback : c.tokens.back? = some z := by
    rw [← Array.getLast?_toList, htokens, List.getLast?_concat]
  have hcurrent : c.current = z := by
    have hnone : c.tokens[c.index]? = none := Array.getElem?_eq_none (Nat.le_of_eq h.symm)
    simp [Cursor.current, tokenAt, hnone, finish, hback, hz]
  rw [hcurrent, htokens, List.getLast?_concat]
  exact ⟨rfl, hz⟩

theorem Spent.of_leads {c d : Cursor} (h : c.Spent) (hleads : c.Leads d) (hd : d.Sound) :
    d.Spent := by
  obtain ⟨htokens, hindex⟩ := hleads
  have hwithin := hd.within
  unfold Spent at *
  rw [htokens] at hwithin ⊢
  omega

end Cursor

namespace Rule

variable {α β : Type}

/-- What the rule gives, and where it leaves the cursor, depends on where the cursor was. -/
def Blind (r : Rule α) : Prop :=
  ∀ s s' : Reading, s.cursor = s'.cursor →
    (r.run s).1 = (r.run s').1 ∧ (r.run s).2.cursor = (r.run s').2.cursor

theorem blind_pure (a : α) : (pure a : Rule α).Blind := fun _ _ h => ⟨rfl, h⟩

theorem Blind.bind {r : Rule α} {f : α → Rule β} (hr : r.Blind) (hf : ∀ a, (f a).Blind) :
    (r >>= f).Blind := by
  intro s s' h
  have hrun := hr s s' h
  change ((Rule.bind r f).run s).1 = ((Rule.bind r f).run s').1 ∧
    ((Rule.bind r f).run s).2.cursor = ((Rule.bind r f).run s').2.cursor
  simp only [Rule.bind]
  rcases hs : r.run s with ⟨o, t⟩
  rcases hs' : r.run s' with ⟨o', t'⟩
  rw [hs, hs'] at hrun
  obtain ⟨rfl, hcursor⟩ := hrun
  cases o with
  | ok a => exact hf a t t' hcursor
  | error d => exact ⟨rfl, hcursor⟩

theorem blind_expect (k : Kind) : (expect k).Blind := by
  intro s s' h
  simp only [expect, Reading.unexpected, h]
  cases s'.cursor.eat? k with
  | none => exact ⟨rfl, h⟩
  | some ac => exact ⟨rfl, rfl⟩

theorem blind_identifier : identifier.Blind := (blind_expect _).bind fun _ => blind_pure _

theorem blind_repeated (w : Series) (item : Rule α) (first : Kind) :
    (repeated w item first).Blind := by
  intro s s' h
  have hgap : (w.gap s).cursor = (w.gap s').cursor := by
    unfold Series.gap
    split
    · exact congrArg (Cursor.skip · w.separator) h
    · exact h
  change (w.items item first [] (w.gap s)).1 = (w.items item first [] (w.gap s')).1 ∧
    (w.items item first [] (w.gap s)).2.cursor = (w.items item first [] (w.gap s')).2.cursor
  generalize w.gap s = t at hgap
  generalize w.gap s' = t' at hgap
  obtain ⟨c, e⟩ := t
  obtain ⟨c', e'⟩ := t'
  obtain rfl : c = c' := hgap
  -- an item is read without an extension, and its extension is looked at only when it has been read
  rw [Series.items, Series.items]
  split
  · exact ⟨rfl, rfl⟩
  · split
    · exact ⟨rfl, rfl⟩
    · exact ⟨rfl, rfl⟩

/-- From a sound cursor the rule gets to a sound one, of which `Q` holds if the rule gives a value;
a diagnostic is about the token at which the cursor then is. -/
def Reaches (r : Rule α) (Q : Cursor → Prop) : Prop :=
  ∀ s : Reading, s.cursor.Sound → r.Ensures s (fun _ t => t.cursor.Sound ∧ Q t.cursor)
    fun d t => t.cursor.Sound ∧ ∃ ks, d = t.unexpected ks

def Tracks (r : Rule α) : Prop := r.Reaches fun _ => True

theorem Reaches.bind {r : Rule α} {f : α → Rule β} {Q : Cursor → Prop} (hr : r.Tracks)
    (hf : ∀ a, (f a).Reaches Q) : (r >>= f).Reaches Q :=
  fun s hs => (hr s hs).bind fun a t ht => hf a t ht.1

theorem Reaches.map {r : Rule α} {Q : Cursor → Prop} (hr : r.Reaches Q) (f : α → β) :
    (r >>= fun a => pure (f a) : Rule β).Reaches Q :=
  fun s hs => (hr s hs).bind fun _ _ ht => ht

theorem tracks_fail (ks : List Kind) : (fail ks : Rule α).Tracks := fun _ hs => ⟨hs, ks, rfl⟩

theorem tracks_check (k : Kind) : (check k).Tracks := fun _ hs => ⟨hs, trivial⟩

theorem tracks_extensible (k : Kind) : (extensible k).Tracks := fun _ hs => ⟨hs, trivial⟩

theorem tracks_skip (k : Kind) : (skip k).Tracks := fun _ hs => ⟨hs.skip k, trivial⟩

theorem reaches_expect {k : Kind} {Q : Cursor → Prop}
    (hQ : ∀ (c d : Cursor) (t : Token), c.Sound → c.eat? k = some (t, d) → Q d) :
    (expect k).Reaches Q := by
  intro s hs
  cases heat : s.cursor.eat? k with
  | none =>
    simp only [Ensures, Ends, expect, heat]
    exact ⟨hs, [k], rfl⟩
  | some ac =>
    simp only [Ensures, Ends, expect, heat]
    exact ⟨hs.eat heat, hQ _ _ _ hs heat⟩

theorem tracks_expect (k : Kind) : (expect k).Tracks := reaches_expect fun _ _ _ _ _ => trivial

theorem tracks_identifier : identifier.Tracks := (tracks_expect _).map _

theorem reaches_end : (expect .endOfInput).Reaches Cursor.Spent := by
  refine reaches_expect fun c d t hc heat => ?_
  obtain ⟨hat, -, rfl⟩ := Cursor.eat?_eq_some_iff.mp heat
  exact hc.spent_advance hat

theorem sound_gap (w : Series) {s : Reading} (hs : s.cursor.Sound) : (w.gap s).cursor.Sound := by
  unfold Series.gap
  split
  · exact hs.skip w.separator
  · exact hs

theorem tracks_repeated (w : Series) {item : Rule α} (hitem : item.Tracks) (first : Kind) :
    (repeated w item first).Tracks := by
  have hitems (taken : List α) (s : Reading) (hs : s.cursor.Sound) :
      Ends (w.items item first taken s) (fun _ t => t.cursor.Sound ∧ True)
        fun d t => t.cursor.Sound ∧ ∃ ks, d = t.unexpected ks := by
    fun_induction Series.items w item first taken s with
    | case1 => exact ⟨hs, trivial⟩
    | case2 taken s _ _ d t h =>
      have ht := hitem { s with extension := [] } hs
      rwa [Ensures, h] at ht
    | case3 taken s _ _ a t h u c h' ih =>
      have ht := hitem { s with extension := [] } hs
      rw [Ensures, h] at ht
      exact ih (sound_gap w (ht.1.eat h'))
    | case4 taken s _ _ a t h =>
      have ht := hitem { s with extension := [] } hs
      rwa [Ensures, h] at ht
    | case5 taken s _ _ a t h =>
      have ht := hitem { s with extension := [] } hs
      rw [Ensures, h] at ht
      exact ⟨ht.1, _, rfl⟩
    | case6 => exact ⟨hs, _, rfl⟩
  exact fun s hs => hitems [] (w.gap s) (sound_gap w hs)

theorem run_repeated_of_isAt {w : Series} {s : Reading} (hne : w.terminator ≠ w.separator)
    (hat : s.cursor.isAt w.terminator = true) (item : Rule α) (first : Kind) :
    (repeated w item first).run s = (.ok [], s) := by
  change w.items item first [] (w.gap s) = _
  rw [Series.gap_eq_self fun _ => Cursor.isAt_ne hat hne.symm, Series.items, if_pos hat]
  rfl

theorem run_expect_of_isAt {k : Kind} {s : Reading} (hat : s.cursor.isAt k = true) :
    (expect k).run s = (.ok s.cursor.current, { s with cursor := s.cursor.advance }) := by
  simp [expect, Cursor.eat?, hat]

theorem run_expect_of_not_isAt {k : Kind} {s : Reading} (hat : s.cursor.isAt k = false) :
    (expect k).run s = (.error (s.unexpected [k]), s) := by
  simp [expect, Cursor.eat?, hat]

theorem run_bind_of_ok {r : Rule α} {s t : Reading} {a : α} (h : r.run s = (.ok a, t))
    (f : α → Rule β) : (r >>= f).run s = (f a).run t := by
  change (Rule.bind r f).run s = _
  simp [Rule.bind, h]

theorem run_bind_of_error {r : Rule α} {s t : Reading} {d : Diagnostic}
    (h : r.run s = (.error d, t)) (f : α → Rule β) : (r >>= f).run s = (.error d, t) := by
  change (Rule.bind r f).run s = _
  simp [Rule.bind, h]

end Rule

open Rule

theorem Constraints.tracks_rule : Constraints.rule.Tracks :=
  Reaches.bind (tracks_expect _) fun _ =>
  Reaches.bind (tracks_expect _) fun _ =>
  Reaches.bind (tracks_skip _) fun _ =>
  Reaches.bind (tracks_check _) fun b => by
    cases b with
    | false => exact tracks_fail _
    | true => exact (tracks_expect _).map _

theorem Member.tracks_rule : Member.rule.Tracks :=
  Reaches.bind tracks_identifier fun _ =>
  Reaches.bind (tracks_expect _) fun _ =>
  Reaches.bind ((tracks_expect _).map _) fun _ =>
  Reaches.bind (tracks_check _) fun b => by
    cases b with
    | false => exact (tracks_extensible _).map _
    | true => exact Constraints.tracks_rule.map _

theorem Remark.tracks_rule : Remark.rule.Tracks :=
  Reaches.bind tracks_identifier fun _ =>
  Reaches.bind (tracks_expect _) fun _ => (tracks_expect _).map _

theorem Entity.reaches_rule : Entity.rule.Reaches Cursor.Spent :=
  Reaches.bind (tracks_expect _) fun _ =>
  Reaches.bind (tracks_expect _) fun _ =>
  Reaches.bind tracks_identifier fun _ =>
  Reaches.bind (tracks_expect _) fun _ =>
  Reaches.bind (tracks_repeated _ Member.tracks_rule _) fun _ =>
  Reaches.bind (tracks_expect _) fun _ => reaches_end.map _

theorem Transcript.reaches_rule : Transcript.rule.Reaches Cursor.Spent :=
  Reaches.bind (tracks_repeated _ Remark.tracks_rule _) fun _ => reaches_end.map _

theorem Entity.blind_rule : Entity.rule.Blind :=
  (blind_expect _).bind fun _ =>
  (blind_expect _).bind fun _ =>
  blind_identifier.bind fun _ =>
  (blind_expect _).bind fun _ =>
  (blind_repeated _ _ _).bind fun _ =>
  (blind_expect _).bind fun _ =>
  (blind_expect _).bind fun _ => blind_pure _

theorem Transcript.blind_rule : Transcript.rule.Blind :=
  (blind_repeated _ _ _).bind fun _ =>
  (blind_expect _).bind fun _ => blind_pure _

namespace Grammar

theorem blind_rule (g : Grammar) : g.rule.Blind := by
  cases g with
  | entity => exact Entity.blind_rule.bind fun _ => blind_pure _
  | chat => exact Transcript.blind_rule.bind fun _ => blind_pure _

theorem reaches_rule (g : Grammar) : g.rule.Reaches Cursor.Spent := by
  cases g with
  | entity => exact Entity.reaches_rule.map _
  | chat => exact Transcript.reaches_rule.map _

variable {s : Reading} (h : s.cursor.Spent) (hs : s.cursor.Sound)

include h hs

theorem run_chat_of_spent : (chat.rule.run s).1 = .ok (.chat .empty) := by
  have hat := Cursor.isAt_iff.mpr (h.current hs).2
  have hlist := run_repeated_of_isAt (w := Transcript.remarkSeries) (by decide) hat Remark.rule
    .identifier
  have hrule : Transcript.rule.run s = (.ok .empty, { s with cursor := s.cursor.advance }) := by
    rw [Transcript.rule, run_bind_of_ok hlist, run_bind_of_ok (run_expect_of_isAt hat)]
    rfl
  rw [rule, run_bind_of_ok hrule]
  rfl

theorem run_entity_of_spent :
    (entity.rule.run s).1 = .error (s.unexpected [.createWord]) := by
  have hat : s.cursor.isAt .createWord = false := by
    rw [Cursor.isAt_eq_false_iff, (h.current hs).2]
    decide
  have hrule : Entity.rule.run s = (.error (s.unexpected [.createWord]), s) := by
    rw [Entity.rule, run_bind_of_error (run_expect_of_not_isAt hat)]
  rw [rule, run_bind_of_error hrule]

end Grammar

namespace Reading

theorem sound_ofSource (g : Grammar) (source : String) : (ofSource g source).cursor.Sound := by
  have hended := (cut_tokenize source).ended
  cases g with
  | entity => exact ⟨hended.filter (by decide), Nat.zero_le _⟩
  | chat => exact ⟨hended, Nat.zero_le _⟩

theorem sound_run {s : Reading} (hs : s.cursor.Sound) (g : Grammar) :
    (g.rule.run s).2.cursor.Sound := by
  have h := g.reaches_rule s hs
  rcases hr : g.rule.run s with ⟨_ | _, t⟩
  · rw [Rule.Ensures, hr] at h
    exact h.1
  · rw [Rule.Ensures, hr] at h
    exact h.1

theorem sound_after {s : Reading} (hs : s.cursor.Sound) (calls : List Grammar) :
    (s.after calls).cursor.Sound := by
  induction calls generalizing s with
  | nil => exact hs
  | cons g calls ih => exact ih (sound_run hs g)

theorem leads_after (s : Reading) (calls : List Grammar) :
    s.cursor.Leads (s.after calls).cursor := by
  induction calls generalizing s with
  | nil => exact .refl _
  | cons g calls ih => exact (g.rule.leads s).trans (ih _)

structure Answers (s : Reading) (g : Grammar) : Prop where
  blind : ∀ s' : Reading, s'.cursor = s.cursor →
    (g.rule.run s').1 = (g.rule.run s).1 ∧ (g.rule.run s').2.cursor = (g.rule.run s).2.cursor
  leads : s.cursor.Leads (g.rule.run s).2.cursor
  within : (g.rule.run s).2.cursor.index ≤ s.cursor.tokens.size
  stuck : ∀ d, (g.rule.run s).1 = .error d →
    (g.rule.run s).2.cursor.current = d.found ∧ d.position = d.found.position
  spent : ∀ a, (g.rule.run s).1 = .ok a → (g.rule.run s).2.cursor.index = s.cursor.tokens.size
  afterwards : ∀ a, (g.rule.run s).1 = .ok a → ∀ calls,
    (Grammar.chat.rule.run ((g.rule.run s).2.after calls)).1 = .ok (.chat .empty) ∧
    ∃ d, (Grammar.entity.rule.run ((g.rule.run s).2.after calls)).1 = .error d ∧
      d.expected = .ofList [.createWord] ∧ d.found.kind = .endOfInput ∧
      s.cursor.tokens.toList.getLast? = some d.found

/-- Whatever was called before, a call on the tokens of a source gives what it gives from its place,
and never goes back. -/
theorem answers_after (source : String) (g : Grammar) (calls : List Grammar) (call : Grammar) :
    Answers ((ofSource g source).after calls) call := by
  have hs := sound_after (sound_ofSource g source) calls
  generalize (ofSource g source).after calls = s at hs
  have hreach := call.reaches_rule s hs
  have hleads := call.rule.leads s
  have hsound := sound_run hs call
  have hspent : ∀ a, (call.rule.run s).1 = .ok a → (call.rule.run s).2.cursor.Spent :=
    fun a ha => (hreach.of_ok ha).2
  refine ⟨fun s' h => call.blind_rule s' s h, hleads, hleads.1 ▸ hsound.within, fun d hd => ?_,
    fun a ha => hleads.1 ▸ hspent a ha, fun a ha more => ?_⟩
  · obtain ⟨-, ks, rfl⟩ := hreach.of_error hd
    exact ⟨rfl, rfl⟩
  · have hlater := sound_after hsound more
    have hled := leads_after (call.rule.run s).2 more
    have hend := (hspent a ha).of_leads hled hlater
    obtain ⟨hlast, hkind⟩ := hend.current hlater
    rw [hled.1, hleads.1] at hlast
    exact ⟨Grammar.run_chat_of_spent hend hlater, _, Grammar.run_entity_of_spent hend hlater, rfl,
      hkind, hlast⟩

end Reading

end EntityChat
