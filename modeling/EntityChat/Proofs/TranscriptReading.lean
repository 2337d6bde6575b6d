import EntityChat.Proofs.Cutting
import EntityChat.Proofs.Recognition
import EntityChat.Proofs.TranscriptGrammar
import EntityChat.Transcript.Reader

/-!
Reading a chat follows the machine of the grammar, so just the sentences are read. A diagnostic
names all that could stand at its token, but for one thing: where a remark could begin, a line break
could stand as well, and that is left out. Its token is the first at which a sentence is out of
reach, and nothing behind it counts.
-/

namespace EntityChat

open ChatStage

variable {ts : List Token} {s : Reading}

def ChatStage.asks : ChatStage → List Kind
  | fresh => [.identifier, .endOfInput]
  | named => [.saysWord]
  | quoting => [.quotation]
  | spoken => [.newline, .endOfInput]
  | finished => []

def ChatStage.Asks (q : ChatStage) (ks : List Kind) : Prop := ks = q.asks

theorem ChatStage.mem_asks_iff (q : ChatStage) (k : Kind) :
    k ∈ q.asks ↔ (q.next k).isSome = true ∧
      ¬ (k = .newline ∧ (q.next .identifier).isSome = true) := by
  cases q <;> cases k <;> decide

theorem ChatStage.halts_of_asks {q : ChatStage} (hs : machine.At ts q s) (hq : q ≠ finished)
    (hasks : ∀ k ∈ q.asks, s.cursor.isAt k = false)
    (hbreak : (q.next .identifier).isSome = true → s.cursor.isAt .newline = false) :
    machine.Halts Asks ts (s.unexpected q.asks) s := by
  refine Machine.halts_of hs hq rfl fun k hk => ?_
  by_cases hk' : k = .newline ∧ (q.next .identifier).isSome = true
  · obtain ⟨rfl, hbegin⟩ := hk'
    exact hbreak hbegin
  · exact hasks k ((q.mem_asks_iff k).mpr ⟨hk, hk'⟩)

theorem Remark.rule_ensures (hts : Ended ts) (hs : machine.At ts fresh s)
    (hat : s.cursor.isAt .identifier = true) :
    Remark.rule.Ensures s (fun r t => machine.At ts spoken t ∧ t.extension = s.extension ∧
      ∃ u, Remark.Phrase u r ∧ t.behind = s.behind ++ u) (machine.Halts Asks ts) := by
  refine (Rule.ensures_identifier (Machine.ensures_take hts hs rfl hat)).bind ?_
  intro _ t₁ h
  obtain ⟨n, rfl, hn, hs₁⟩ := h
  refine (Machine.ensures_expect_halts (r := quoting) hts hs₁ (by intro j; cases j <;> rfl)
    rfl).bind ?_
  intro v t₂ h
  obtain ⟨hv, hs₂⟩ := h
  refine (Machine.ensures_expect_halts (r := spoken) hts hs₂ (by intro j; cases j <;> rfl)
    rfl).bind ?_
  intro q t h
  obtain ⟨hq, ht⟩ := h
  refine Rule.ensures_pure.mpr ⟨ht, ?_, [n, v, q], .mk hn.kind hv.kind hq.kind, ?_⟩
  · rw [hq.extension, hv.extension, hn.extension]
  · rw [hq.behind, hv.behind, hn.behind]
    simp

def Remark.Begins (ts : List Token) (s : Reading) : Prop :=
  machine.At ts fresh s ∧ s.cursor.isAt .newline = false

theorem Remark.begins_gap (hs : machine.At ts fresh s) :
    Remark.Begins ts (Transcript.remarkSeries.gap s) ∧
      ∃ b, Breaks b ∧ (Transcript.remarkSeries.gap s).behind = s.behind ++ b := by
  obtain ⟨ht, hat, b, hb, hbehind⟩ := hs.skip (k := .newline) (by decide) rfl
  exact ⟨⟨ht, hat⟩, b, hb, hbehind⟩

def Remark.ListRead (ts : List Token) (s : Reading) (rs : List Remark) (t : Reading) : Prop :=
  t.cursor.isAt .endOfInput = true ∧
    (∃ q, q.next .endOfInput = some finished ∧ machine.At ts q t) ∧
    ∃ u, Remark.ListPhrase u rs ∧ t.behind = s.behind ++ u

theorem Remark.ListRead.of_gap {t : Reading} {rs : List Remark} (hs : machine.At ts fresh s)
    (h : Remark.ListRead ts (Transcript.remarkSeries.gap s) rs t) : Remark.ListRead ts s rs t := by
  obtain ⟨-, b, hb, hgap⟩ := Remark.begins_gap hs
  obtain ⟨hat, hq, u, hu, ht⟩ := h
  exact ⟨hat, hq, b ++ u, hu.breaks_append hb, by rw [ht, hgap, List.append_assoc]⟩

theorem Remark.ListRead.cons {t u : Reading} {z : Token} {r : Remark} {v : List Token}
    (hv : Remark.Phrase v r) (ht : t.behind = s.behind ++ v) (hz : Took .newline t z u)
    {rs : List Remark} {w : Reading} (h : Remark.ListRead ts u rs w) :
    Remark.ListRead ts s (r :: rs) w := by
  obtain ⟨hat, hq, x, hx, hw⟩ := h
  refine ⟨hat, hq, v ++ z :: x, (ListPhrase.single hv).join hz.kind hx, ?_⟩
  rw [hw, hz.behind, ht]
  simp

theorem Remark.series_ensures (hts : Ended ts) (hs : machine.At ts fresh s) :
    (Rule.repeated Transcript.remarkSeries Remark.rule .identifier).Ensures s
      (Remark.ListRead ts s) (machine.Halts Asks ts) := by
  refine Rule.Ensures.imp (Rule.ensures_repeated (I := Remark.Begins ts)
    (R := Remark.ListRead ts) ?_ ?_ ?_ (Remark.begins_gap hs).1) fun rs t h => h.of_gap hs
  · intro s h hat
    exact ⟨hat, ⟨fresh, rfl, h.1⟩, [], .empty breaks_nil, by simp⟩
  · intro s h hterm hfirst
    obtain ⟨hs, hbreak⟩ := h
    exact halts_of_asks hs (by decide) (by simpa [asks] using ⟨hfirst, hterm⟩) fun _ => hbreak
  · intro s h hat
    have hs' : machine.At ts fresh { s with extension := [] } := ⟨h.1.tokens, h.1.run⟩
    refine (Remark.rule_ensures hts hs' hat).imp ?_
    intro r t h
    obtain ⟨ht, hext, u, hu, hbehind⟩ := h
    refine ⟨fun z v hz => ?_, ?_, ?_⟩
    · have hv : machine.At ts fresh v := ht.took hz rfl
      exact ⟨(Remark.begins_gap hv).1, fun rs w hw => .cons hu hbehind hz (hw.of_gap hv)⟩
    · intro _ hterm
      exact ⟨hterm, ⟨spoken, rfl, ht⟩, u, .single hu, hbehind⟩
    · intro hsep hterm
      rw [hext]
      exact halts_of_asks ht (by decide) (by simpa [asks] using ⟨hsep, hterm⟩) nofun

theorem Transcript.rule_ensures (hts : Ended ts) (hs : machine.At ts fresh s)
    (hb : s.behind = []) :
    Transcript.rule.Ensures s (fun t u => machine.At ts finished u ∧
      Transcript.Sentence u.behind t) (machine.Halts Asks ts) := by
  refine (Remark.series_ensures hts hs).bind ?_
  intro rs t h
  obtain ⟨hat, ⟨q, hq, ht⟩, us, hus, hbehind⟩ := h
  refine (Machine.ensures_take hts ht hq hat).bind ?_
  intro z u h
  obtain ⟨hz, hu⟩ := h
  refine Rule.ensures_pure.mpr ⟨hu, ?_⟩
  rw [hz.behind, hbehind, hb, List.nil_append]
  exact .mk (by rwa [toList_ofList]) hz.kind

theorem ended_tokenize (source : String) : Ended (tokenize source) := (cut_tokenize source).ended

namespace Transcript

theorem follows : Follows rule machine Asks Sentence where
  ensures hts := by
    refine (rule_ensures hts (machine.at_ofTokens _) rfl).imp fun t u h => ?_
    obtain ⟨hu, hsentence⟩ := h
    rwa [hu.behind_of_last hts] at hsentence
  run h := h.run
  unique h h' := h.unique h'
  live q := ⟨q.way, run_way q⟩

theorem machine_knows : machine.Knows Grammatical := follows.knows

theorem sentence_of_read {source : String} {t : Transcript} (h : read source = .ok t) :
    Sentence (tokenize source) t := follows.sentence_of_ok (ended_tokenize source) h

theorem read_of_sentence {source : String} {t : Transcript} (h : Sentence (tokenize source) t) :
    read source = .ok t := (follows.ok_iff (ended_tokenize source)).mpr h

theorem rejects_iff {source : String} {d : Diagnostic} :
    read source = .error d ↔ machine.Rejects Asks (tokenize source) d :=
  follows.error_iff (fun _ _ _ h h' _ => by rw [h, h']) (ended_tokenize source)

/-- Reading gives the transcript of the sentence that the tokens of the source form, if they form
one. -/
theorem read_eq_ok_iff_sentence (source : String) (t : Transcript) :
    read source = .ok t ↔ Sentence (tokenize source) t :=
  ⟨sentence_of_read, read_of_sentence⟩

/-- The kinds with which a sentence would go on at the token found are those expected there, and a
line break as well where a remark could begin. So they are all expected just if none could. -/
theorem expected_iff_viable (source : String) (d : Diagnostic) (h : read source = .error d) :
    ∃ us vs, tokenize source = us ++ d.found :: vs ∧
      (∀ k, k ∈ d.expected ↔ Viable Grammatical (kinds us ++ [k]) ∧
        ¬ (k = .newline ∧ Viable Grammatical (kinds us ++ [.identifier]))) ∧
      ((∀ k, k ∈ d.expected ↔ Viable Grammatical (kinds us ++ [k])) ↔
        ¬ Viable Grammatical (kinds us ++ [.identifier])) := by
  obtain ⟨us, u, vs, q, ks, hts, hrun, -, rfl, rfl⟩ := rejects_iff.mp h
  have hviable (k : Kind) := machine_knows.viable_snoc_iff (k := k) hrun
  have hexpected : ∀ k, k ∈ (Diagnostic.unexpected u q.asks).expected ↔
      Viable Grammatical (kinds us ++ [k]) ∧
        ¬ (k = .newline ∧ Viable Grammatical (kinds us ++ [.identifier])) := by
    intro k
    rw [hviable, hviable]
    exact KindSet.mem_ofList.trans (q.mem_asks_iff k)
  refine ⟨us, vs, hts, hexpected, fun hall hbegin => ?_, fun hbegin k => ?_⟩
  · -- a name can come here, so a line break can, and that is not expected
    have hbreak : Viable Grammatical (kinds us ++ [.newline]) := by
      rw [hviable] at hbegin ⊢
      revert hbegin
      cases q <;> decide
    exact ((hexpected .newline).mp ((hall .newline).mpr hbreak)).2 ⟨rfl, hbegin⟩
  · rw [hexpected]
    exact and_iff_left fun h => hbegin h.2

theorem expected_iff_viable_missing_break :
    ∃ d, read "a says \"x\" b says \"y\"" = .error d ∧
      ∃ us vs, tokenize "a says \"x\" b says \"y\"" = us ++ d.found :: vs ∧
        (∀ k, k ∈ d.expected ↔ Viable Grammatical (kinds us ++ [k]) ∧
          ¬ (k = .newline ∧ Viable Grammatical (kinds us ++ [.identifier]))) ∧
        ((∀ k, k ∈ d.expected ↔ Viable Grammatical (kinds us ++ [k])) ↔
          ¬ Viable Grammatical (kinds us ++ [.identifier])) :=
  ⟨⟨⟨11, 1, 12⟩, .ofList [.newline, .endOfInput], ⟨.identifier, "b", ⟨11, 1, 12⟩⟩⟩,
    by decide +kernel, expected_iff_viable _ _ (by decide +kernel)⟩

/-- Reading stops at the first token behind which no sentence goes on. It has looked no further:
whatever comes behind that token, the diagnostic is the same. -/
theorem read_stops_earliest (source : String) (d : Diagnostic) (h : read source = .error d) :
    ∃ i, (tokenize source)[i]? = some d.found ∧
      Viable Grammatical (kinds ((tokenize source).take i)) ∧
      ¬ Viable Grammatical (kinds ((tokenize source).take (i + 1))) ∧
      ∀ other : String, (tokenize other).take (i + 1) = (tokenize source).take (i + 1) →
        read other = .error d := by
  obtain ⟨i, hfound, hbefore, hstuck, hsettled⟩ := (rejects_iff.mp h).settled
  refine ⟨i, hfound, machine_knows.viable_iff.mpr hbefore, fun hv => ?_, fun other hother => ?_⟩
  · obtain ⟨q, hq⟩ := machine_knows.viable_iff.mp hv
    cases hstuck.symm.trans hq
  · exact rejects_iff.mpr (hsettled _ hother)

theorem read_stops_earliest_broken_line :
    ∃ d, read "a says\n\"x\"" = .error d ∧
      (∃ i, (tokenize "a says\n\"x\"")[i]? = some d.found ∧
        Viable Grammatical (kinds ((tokenize "a says\n\"x\"").take i)) ∧
        ¬ Viable Grammatical (kinds ((tokenize "a says\n\"x\"").take (i + 1)))) ∧
      read "a says\n\n b" = .error d := by
  let n : Token := ⟨.newline, "\n", ⟨6, 1, 7⟩⟩
  have hread : read "a says\n\"x\"" = .error (.unexpected n [.quotation]) := by decide +kernel
  obtain ⟨i, hfound, hbefore, hbehind, hother⟩ := read_stops_earliest _ _ hread
  refine ⟨_, hread, ⟨i, hfound, hbefore, hbehind⟩, hother _ ?_⟩
  have htwo : (tokenize "a says\n\"x\"")[2]? = some n := by decide +kernel
  have hi : 2 = i := by
    refine (List.getElem?_inj ?_ ?_).mp (htwo.trans hfound.symm)
    · decide +kernel
    · decide +kernel
  subst hi
  decide +kernel

/-- At a keyword which no remark can begin with, a line break could stand and is not expected. -/
theorem expected_lacks_newline :
    ∃ d, read "create" = .error d ∧ ∀ us vs, tokenize "create" = us ++ d.found :: vs →
      ¬ ∀ k, k ∈ d.expected ↔ Viable Grammatical (kinds us ++ [k]) := by
  let c : Token := ⟨.createWord, "create", .start⟩
  refine ⟨.unexpected c [.identifier, .endOfInput], by decide +kernel, fun us vs hts hall => ?_⟩
  have htokens : tokenize "create" = [c, .finish ⟨6, 1, 7⟩] := by decide +kernel
  have hus : us = [] := by
    rw [htokens] at hts
    cases us with
    | nil => rfl
    | cons u us =>
      have hlast : c ∈ [Token.finish ⟨6, 1, 7⟩] := by
        rw [(List.cons.inj hts).2]
        simp [Diagnostic.unexpected]
      exact absurd hlast (by decide +kernel)
  subst hus
  have hbreak : Viable Grammatical [.newline] := machine_knows.viable_iff.mpr ⟨fresh, rfl⟩
  exact absurd (KindSet.mem_ofList.mp ((hall .newline).mpr hbreak)) (by decide)

end Transcript

end EntityChat
