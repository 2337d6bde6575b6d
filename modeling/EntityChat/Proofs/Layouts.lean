import EntityChat.Proofs.Boundaries
import EntityChat.Proofs.Carrying
import EntityChat.Proofs.EntityPrinting
import EntityChat.Proofs.TranscriptPrinting

/-!
Layout and the case of keywords. A text that sets out the tokens of another one with other blanks
between them is cut into the same tokens again, and what is read of tokens, or what is wrong with
them, depends neither on where they stand nor on how their keywords are spelled.
-/

namespace EntityChat

/-- What is left of a token when layout and the case of keywords are left out of account. -/
def Token.bare (t : Token) : Token :=
  ⟨t.kind, if t.kind.spelling?.isSome then Text.asciiSmall t.lexeme else t.lexeme, .start⟩

theorem Token.carries_bare : Carries Token.bare fun _ => .start where
  kind _ := rfl
  lexeme t ht := by simp [Token.bare, ht]
  position _ := rfl

def Grammar.blank : Grammar → Char → Bool
  | entity => Text.isBlank
  | chat => isGap

def Grammar.counts : Grammar → Kind → Bool
  | entity, k => k ≠ .newline
  | chat, _ => true

def Grammar.tokens (g : Grammar) (ts : List Token) : List Token :=
  ts.filter fun t => g.counts t.kind

/-- The text sets out the tokens, `left` being the one in front of them if there is one, with blanks
in front of each and behind the last. Where a word would go on with the next token there is one. -/
inductive Laid (blank : Char → Bool) : Option Token → List Token → List Char → Prop
  | finish {left gap} : (∀ c ∈ gap, blank c = true) → Laid blank left [] gap
  | token {left gap ts rest} {t u : Token} : (∀ c ∈ gap, blank c = true) →
      (gap = [] → ∀ l ∈ left, l.kind.IsWord → Stops wordContinue t.raw) → u.bare = t.bare →
      Laid blank (some t) ts rest → Laid blank left (t :: ts) (gap ++ u.raw ++ rest)

/-- The answers for two lists of tokens are the same: equal values, or diagnostics that found the
same token at the same place of the lists, and expected the same. -/
def Concord {α : Type} [BEq α] (ts us : List Token) :
    Except Diagnostic α → Except Diagnostic α → Prop
  | .ok a, .ok b => (a == b) = true
  | .error d, .error e => d.expected = e.expected ∧ d.found.bare = e.found.bare ∧
      ∃ i : Nat, ts[i]? = some d.found ∧ us[i]? = some e.found
  | _, _ => False

theorem Text.asciiSmall_inj {v w : String} :
    asciiSmall v = asciiSmall w ↔ v.toList.map Char.toLower = w.toList.map Char.toLower :=
  String.ofList_inj

theorem Kind.Names.congr {k : Kind} {v w : String} (h : k.Names w)
    (hv : Text.asciiSmall v = Text.asciiSmall w) : k.Names v :=
  ⟨h.1, fun j u hj => by rw [h.2 j u hj, Text.sameUpToCase_iff, Text.sameUpToCase_iff, hv]⟩

theorem Fits.respell {k : Kind} {v w rest : List Char} (h : Fits k w rest)
    (hk : k.spelling?.isSome = true) (hv : v.map Char.toLower = w.map Char.toLower) :
    Fits k v rest := by
  cases h with
  | sign hsign => exact absurd (.inr hk) (not_isWord_of_sign hsign)
  | word hw hnames hrest =>
    refine .word ?_ (hnames.congr ?_) hrest
    · rwa [← isWord_map_toLower, hv, isWord_map_toLower]
    · rwa [Text.asciiSmall_inj, String.toList_ofList, String.toList_ofList]
  | quotation _ | stray _ _ _ _ | unclosed _ _ => cases hk

namespace Token

variable {t u : Token}

theorem eq_of_bare_eq (h : u.bare = t.bare) : u.kind = t.kind ∧ (u.lexeme = t.lexeme ∨
    t.kind.spelling?.isSome = true ∧ Text.asciiSmall u.lexeme = Text.asciiSmall t.lexeme) := by
  obtain ⟨hkind, hlexeme, -⟩ := Token.mk.inj h
  rw [hkind] at hlexeme
  split at hlexeme
  · next hword => exact ⟨hkind, .inr ⟨hword, hlexeme⟩⟩
  · exact ⟨hkind, .inl hlexeme⟩

theorem map_toLower_raw (h : u.bare = t.bare) :
    u.raw.map Char.toLower = t.raw.map Char.toLower := by
  obtain ⟨hkind, hlexeme⟩ := eq_of_bare_eq h
  have hsmall : u.lexeme.toList.map Char.toLower = t.lexeme.toList.map Char.toLower := by
    rcases hlexeme with hlexeme | ⟨-, hlexeme⟩
    · rw [hlexeme]
    · exact Text.asciiSmall_inj.mp hlexeme
  rw [raw, raw, spelled, spelled, hkind]
  split
  · rw [List.map_cons, List.map_cons, List.map_append, List.map_append, hsmall]
  · exact hsmall

theorem fits_of_bare_eq {rest : List Char} (h : u.bare = t.bare)
    (hfits : Fits t.kind t.lexeme.toList rest) : Fits u.kind u.lexeme.toList rest := by
  obtain ⟨hkind, hlexeme | ⟨hword, hlexeme⟩⟩ := eq_of_bare_eq h
  · rwa [hkind, hlexeme]
  · rw [hkind]
    exact hfits.respell hword (Text.asciiSmall_inj.mp hlexeme)

end Token

theorem stops_map_toLower {cs : List Char} :
    Stops wordContinue (cs.map Char.toLower) ↔ Stops wordContinue cs := by
  cases cs with
  | nil => exact Iff.rfl
  | cons c cs => rw [List.map_cons, stops_cons, stops_cons, wordContinue_toLower]

namespace Grammar

variable {g : Grammar} {c : Char}

theorem isGap_or_newline_of_blank (h : g.blank c = true) :
    isGap c = true ∨ c = '\n' ∧ g.counts .newline = false := by
  cases g with
  | entity =>
    by_cases hc : c = '\n'
    · exact .inr ⟨hc, rfl⟩
    · have hblank : Text.isBlank c = true := h
      exact .inl (by simp [isGap, hblank, hc])
  | chat => exact .inl h

theorem not_wordContinue_of_blank (h : g.blank c = true) : wordContinue c = false := by
  rcases isGap_or_newline_of_blank h with hc | ⟨rfl, -⟩
  · refine Bool.eq_false_iff.mpr fun hword => ?_
    rw [not_isGap_of_wordContinue hword] at hc
    cases hc
  · exact not_wordContinue_of_mem (by simp)

theorem counts_endOfInput (g : Grammar) : g.counts .endOfInput = true := by
  cases g <;> rfl

theorem tokens_collect_blank {gap : List Char} (hgap : ∀ c ∈ gap, g.blank c = true)
    (cs : List Char) (p : Position) :
    g.tokens (Scanner.collect [] (.reading (gap ++ cs) p)) =
      g.tokens (Scanner.collect [] (.reading cs (p.past gap))) := by
  induction gap generalizing p with
  | nil => rfl
  | cons c gap ih =>
    obtain ⟨hc, hgap⟩ := List.forall_mem_cons.mp hgap
    refine Eq.trans ?_ (ih hgap (p.after c))
    -- a line break is a token, but none that counts where it is a blank
    rcases isGap_or_newline_of_blank hc with hc | ⟨rfl, hnewline⟩
    · have hcollect := Scanner.collect_gap_append (List.forall_mem_singleton.mpr hc) (gap ++ cs) p
      exact congrArg g.tokens hcollect
    · have hcollect := Scanner.collect_sign (k := .newline) rfl (gap ++ cs) p
      exact (congrArg g.tokens hcollect).trans (List.filter_cons_of_neg (by simp [hnewline]))

end Grammar

namespace Laid

variable {g : Grammar} {l : Token} {left : Option Token} {ts : List Token} {cs : List Char}

theorem stops (h : Laid g.blank (some l) ts cs) (hl : l.kind.IsWord)
    (hts : ∀ t ∈ ts, ∃ rest, Fits t.kind t.lexeme.toList rest) : Stops wordContinue cs := by
  have hblank {gap : List Char} (hgap : ∀ c ∈ gap, g.blank c = true) : Stops wordContinue gap :=
    fun c hc => Grammar.not_wordContinue_of_blank (hgap c (List.mem_of_mem_head? hc))
  cases h with
  | finish hgap => exact hblank hgap
  | @token _ gap ts rest t u hgap hsep hu _ =>
    obtain ⟨rest', hfits⟩ := hts t List.mem_cons_self
    have hne : u.raw ≠ [] := (Token.fits_of_bare_eq hu hfits).spelled_ne_nil
    -- either a blank comes first, or the text of a token that would not go on with the word
    refine Stops.append_of_ne_nil ?_ (List.append_ne_nil_of_right_ne_nil gap hne) rest
    by_cases hnil : gap = []
    · rw [hnil, List.nil_append, ← stops_map_toLower, Token.map_toLower_raw hu, stops_map_toLower]
      exact hsep hnil l rfl hl
    · exact (hblank hgap).append_of_ne_nil hnil u.raw

theorem map_bare_collect (h : Laid g.blank left ts cs)
    (hts : ∀ t ∈ ts, g.counts t.kind = true ∧ ¬ t.Unclosed ∧
      ∃ rest, Fits t.kind t.lexeme.toList rest)
    (p : Position) :
    (g.tokens (Scanner.collect [] (.reading cs p))).map Token.bare =
      ts.map Token.bare ++ [Token.finish .start] := by
  induction h generalizing p with
  | @finish left gap hgap =>
    rw [← List.append_nil gap, Grammar.tokens_collect_blank hgap, Scanner.collect_gap _ isGap_nil]
    exact congrArg (List.map Token.bare) (List.filter_cons_of_pos g.counts_endOfInput)
  | @token left gap ts rest t u hgap _ hu hrest ih =>
    obtain ⟨⟨hcounts, hclosed, _, hfits⟩, hts⟩ := List.forall_mem_cons.mp hts
    have hfits' : Fits u.kind u.lexeme.toList rest := by
      refine Token.fits_of_bare_eq hu (hfits.before (fun hword => ?_) fun hkind hquote => ?_)
      · exact hrest.stops hword fun t ht => (hts t ht).2.2
      · -- an open quotation would run on over what the new text has behind it
        exact absurd ⟨hkind, hquote⟩ hclosed
    have hcollect := Scanner.collect_token (p.past gap) isGap_nil hfits'
    rw [List.nil_append, ← Token.raw] at hcollect
    have hcounts' : g.counts u.kind = true := by rwa [(Token.eq_of_bare_eq hu).1]
    rw [List.append_assoc, Grammar.tokens_collect_blank hgap, hcollect, String.ofList_toList]
    refine (congrArg (List.map Token.bare) (List.filter_cons_of_pos hcounts')).trans ?_
    rw [List.map_cons, List.map_cons, ← hu]
    exact congrArg (u.bare :: ·) (ih hts _)

theorem map_bare_tokens {s s' : String} (h : ∀ t ∈ tokenize s, ¬ t.Unclosed)
    (hlaid : Laid g.blank none (g.tokens (tokenize s)).dropLast s'.toList) :
    (g.tokens (tokenize s)).map Token.bare = (g.tokens (tokenize s')).map Token.bare := by
  obtain ⟨us, hus⟩ := exists_tokenize_eq s
  have htokens : g.tokens (tokenize s) = g.tokens us ++ [.finish (.past .start s.toList)] := by
    rw [hus, Grammar.tokens, List.filter_append]
    exact congrArg (g.tokens us ++ ·) (List.filter_cons_of_pos g.counts_endOfInput)
  rw [htokens, List.dropLast_concat] at hlaid
  have hall := hlaid.map_bare_collect (fun t ht => ?_) .start
  · rw [htokens, List.map_append]
    exact hall.symm
  · obtain ⟨hmem, hcounts⟩ := List.mem_filter.mp ht
    refine ⟨hcounts, h t ?_, exists_fits_of_mem hus hmem⟩
    rw [hus]
    exact List.mem_append_left _ hmem

end Laid

namespace Follows

variable {α σ : Type} [BEq α] {rule : Rule α} {m : Machine σ} {W : σ → List Kind → Prop}
  {S : List Token → α → Prop} {ts us : List Token}

theorem concord (h : Follows rule m W S)
    (hW : ∀ q ks ks', W q ks → W q ks' → ∀ k, k ∈ ks ↔ k ∈ ks')
    (hS : ∀ a b, S ts a → S us b → (a == b) = true) (hts : Ended ts) (hus : Ended us)
    (hbare : ts.map Token.bare = us.map Token.bare) :
    Concord ts us (rule.run ⟨.ofTokens ts, []⟩).1 (rule.run ⟨.ofTokens us, []⟩).1 := by
  have hkinds : kinds ts = kinds us := by
    rw [← Token.carries_bare.kinds_map, hbare, Token.carries_bare.kinds_map]
  cases hr : (rule.run ⟨.ofTokens ts, []⟩).1 with
  | ok a =>
    have ha := h.sentence_of_ok hts hr
    cases hr' : (rule.run ⟨.ofTokens us, []⟩).1 with
    | ok b => exact hS a b ha (h.sentence_of_ok hus hr')
    | error e =>
      have hrun := h.run ha
      rw [hkinds, (h.rejects_of_error hus hr').run_eq_none] at hrun
      cases hrun
  | error d =>
    have hd := h.rejects_of_error hts hr
    cases hr' : (rule.run ⟨.ofTokens us, []⟩).1 with
    | ok b =>
      have hrun := h.run (h.sentence_of_ok hus hr')
      rw [← hkinds, hd.run_eq_none] at hrun
      cases hrun
    | error e =>
      obtain ⟨i, q, ks, ks', hfound, hfound', hks, hks', hd, he⟩ :=
        hd.same_place (h.rejects_of_error hus hr') hkinds
      refine ⟨?_, ?_, i, hfound, hfound'⟩
      · rw [hd, he]
        exact KindSet.ofList_congr (hW q ks ks' hks hks')
      · have hplace := congrArg (·[i]?) hbare
        simp only [List.getElem?_map, hfound, hfound', Option.map_some] at hplace
        exact Option.some.inj hplace

end Follows

section

variable {g : Position → Position} {ts us : List Token}

theorem Identifier.name_eq_of_moved_eq {n n' : Identifier} (h : n.moved g = n'.moved g) :
    n.name = n'.name := (Identifier.mk.inj h).1

theorem Member.beq_of_moved_eq {ms ns : List Member}
    (h : ms.map (Member.moved g) = ns.map (Member.moved g)) : (ms == ns) = true := by
  induction ms generalizing ns with
  | nil =>
    obtain rfl := List.map_eq_nil_iff.mp h.symm
    rfl
  | cons m ms ih =>
    obtain ⟨n, ns, rfl, hm, hms⟩ := List.map_eq_cons_iff.mp h.symm
    obtain ⟨hname, htype, hconstraints⟩ := Member.mk.inj hm.symm
    rw [List.cons_beq_cons, Bool.and_eq_true]
    refine ⟨Member.beq_iff.mpr ⟨?_, htype, hconstraints⟩, ih hms.symm⟩
    exact Identifier.name_eq_of_moved_eq hname

theorem Entity.beq_of_moved_eq {e e' : Entity} (h : e.moved g = e'.moved g) :
    (e == e') = true := by
  obtain ⟨hname, hmembers⟩ := Entity.mk.inj h
  exact Entity.beq_iff.mpr ⟨Identifier.name_eq_of_moved_eq hname, Member.beq_of_moved_eq hmembers⟩

theorem Transcript.beq_of_moved_eq {t u : Transcript} (h : t.moved g = u.moved g) :
    (t == u) = true := by
  have hsaid (v : Transcript) :
      (v.moved g).toList.map Remark.said = v.toList.map Remark.said := by
    rw [Transcript.moved, toList_ofList, List.map_map]
    rfl
  rw [Transcript.beq_iff, ← hsaid t, h, hsaid u]

theorem Entity.Sentence.beq_of_bare_eq {e e' : Entity} (h : Entity.Sentence ts e)
    (h' : Entity.Sentence us e') (hbare : ts.map Token.bare = us.map Token.bare) :
    (e == e') = true := by
  have hcarried := h'.carried Token.carries_bare
  rw [← hbare] at hcarried
  exact Entity.beq_of_moved_eq ((h.carried Token.carries_bare).unique hcarried)

theorem Transcript.Sentence.beq_of_bare_eq {t u : Transcript} (h : Transcript.Sentence ts t)
    (h' : Transcript.Sentence us u) (hbare : ts.map Token.bare = us.map Token.bare) :
    (t == u) = true := by
  have hcarried := h'.carried Token.carries_bare
  rw [← hbare] at hcarried
  exact Transcript.beq_of_moved_eq ((h.carried Token.carries_bare).unique hcarried)

end

/-- Neither the blanks between the tokens of a source nor the case of its keywords matter to what
is read of it, or to what is wrong with it. -/
theorem read_relaid (s s' : String) (h : ∀ t ∈ tokenize s, ¬ t.Unclosed) :
    (Laid Text.isBlank none (significant s).dropLast s'.toList →
      Concord (significant s) (significant s') (Entity.read s) (Entity.read s')) ∧
    (Laid isGap none (tokenize s).dropLast s'.toList →
      Concord (tokenize s) (tokenize s') (Transcript.read s) (Transcript.read s')) := by
  constructor
  · intro hlaid
    have hbare : (significant s).map Token.bare = (significant s').map Token.bare :=
      Laid.map_bare_tokens (g := .entity) h hlaid
    exact Entity.follows.concord (fun q ks ks' hks hks' k => (hks k).trans (hks' k).symm)
      (fun e e' he he' => he.beq_of_bare_eq he' hbare) (ended_significant s)
      (ended_significant s') hbare
  · intro hlaid
    have htokens (ts : List Token) : Grammar.chat.tokens ts = ts := List.filter_true ts
    rw [← htokens (tokenize s)] at hlaid
    have hbare := Laid.map_bare_tokens (g := .chat) h hlaid
    rw [htokens, htokens] at hbare
    exact Transcript.follows.concord (fun q ks ks' hks hks' k => by rw [hks, hks'])
      (fun t u ht hu => ht.beq_of_bare_eq hu hbare) (ended_tokenize s) (ended_tokenize s') hbare

theorem read_relaid_remark :
    Concord (significant "a says \"x\"") (significant "a\nSAYS\"x\"")
        (Entity.read "a says \"x\"") (Entity.read "a\nSAYS\"x\"") ∧
      Concord (tokenize "a says \"x\"") (tokenize " a SAYS\"x\" ")
        (Transcript.read "a says \"x\"") (Transcript.read " a SAYS\"x\" ") := by
  let a : Token := ⟨.identifier, "a", ⟨0, 1, 1⟩⟩
  let v : Token := ⟨.saysWord, "says", ⟨2, 1, 3⟩⟩
  let x : Token := ⟨.quotation, "x", ⟨7, 1, 8⟩⟩
  have htokens : tokenize "a says \"x\"" = [a, v, x, .finish ⟨10, 1, 11⟩] := by decide +kernel
  have hsignificant : significant "a says \"x\"" = [a, v, x, .finish ⟨10, 1, 11⟩] := by
    decide +kernel
  have hclosed : ∀ t ∈ tokenize "a says \"x\"", ¬ t.Unclosed := by
    rw [htokens]
    simp [Token.Unclosed, a, v, x, Token.finish]
  have hlaid (blank : Char → Bool) (front middle behind : List Char) {text : List Char}
      (hblank : (front ++ middle ++ behind).all blank = true) (hne : middle ≠ [])
      (htext : text = front ++ a.raw ++ (middle ++ "SAYS".toList ++ ([] ++ x.raw ++ behind))) :
      Laid blank none [a, v, x] text := by
    simp only [List.all_append, Bool.and_eq_true, List.all_eq_true] at hblank
    obtain ⟨⟨hfront, hmiddle⟩, hbehind⟩ := hblank
    rw [htext]
    have hquote : Stops wordContinue x.raw := stops_cons.mpr (by decide +kernel)
    have hrest : Laid blank (some v) [x] ([] ++ x.raw ++ behind) :=
      .token (List.forall_mem_nil _) (fun _ _ _ _ => hquote) rfl (.finish hbehind)
    refine .token hfront (fun _ _ h => absurd h (by simp)) rfl ?_
    exact .token (u := { v with lexeme := "SAYS" }) hmiddle (fun h => absurd h hne)
      (by decide +kernel) hrest
  constructor
  · refine (read_relaid _ _ hclosed).1 ?_
    rw [hsignificant]
    exact hlaid Text.isBlank [] ['\n'] [] (by decide +kernel) (by simp) (by decide +kernel)
  · refine (read_relaid _ _ hclosed).2 ?_
    rw [htokens]
    exact hlaid isGap [' '] [' '] [' '] (by decide +kernel) (by simp) (by decide +kernel)

end EntityChat
