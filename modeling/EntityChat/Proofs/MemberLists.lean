import EntityChat.Proofs.Layouts

/-!
Lists of members put one behind the other. Behind members and a comma a declaration is read on just
as if it began there: what is read of the second list comes behind the members of the first, and
what is wrong with the second list is wrong with both, in the same words.
-/

namespace EntityChat

open Stage

section

variable {u v : List Token} {ms ns : List Member}

theorem Member.ListPhrase.separated (h : Member.ListPhrase u ms) (hms : ms ≠ [])
    (hu : (kinds u).getLast? ≠ some .comma) : Separated (Single .comma) Member.Phrase u ms := by
  cases h with
  | empty => exact absurd rfl hms
  | listed hsep hw =>
    rcases hw with rfl | ⟨c, rfl, hc⟩
    · rwa [List.append_nil]
    · rw [kinds_append, kinds_singleton, List.getLast?_concat, hc] at hu
      exact absurd rfl hu

theorem Member.ListPhrase.append {c : Token} (hu : Separated (Single .comma) Member.Phrase u ms)
    (hc : c.kind = .comma) (hv : Member.ListPhrase v ns) :
    Member.ListPhrase (u ++ [c] ++ v) (ms ++ ns) := by
  have hs : Single .comma [c] := ⟨c, rfl, hc⟩
  cases hv with
  | empty =>
    rw [List.append_nil, List.append_nil]
    exact .listed hu (.inr hs)
  | listed hv hw =>
    rw [← List.append_assoc]
    exact .listed (hu.append hs hv) hw

end

def declaring (name members : String) : String := heading name ++ members ++ "\x7d"

theorem Heads.run {name : String} {us : List Token} {n : Token} (h : Heads name us n) :
    machine.run start (kinds us) = some listing := by
  obtain ⟨a, b, o, rfl, ha, hb, hn, ho⟩ := h.tokens
  simp [kinds, Machine.run, machine, next, ha, hb, hn, ho]

theorem Heads.exists_of_sentence {name : String} {us ts : List Token} {n : Token} {e : Entity}
    (h : Heads name us n) (he : Entity.Sentence (us ++ ts) e) :
    e.name = n.identifier ∧ ∃ vs r z, ts = vs ++ [r, z] ∧ Member.ListPhrase vs e.members ∧
      r.kind = .closeBrace ∧ z.kind = .endOfInput := by
  obtain ⟨a, b, o, rfl, -, -, -, -⟩ := h.tokens
  generalize hall : [a, b, n, o] ++ ts = all at he
  obtain @⟨a', b', n', o', r, z, vs, ms, -, -, -, -, hvs, hr, hz⟩ := he
  rw [List.append_assoc] at hall
  obtain ⟨hfront, rfl⟩ := List.append_inj hall rfl
  obtain ⟨-, -, rfl, -⟩ : a = a' ∧ b = b' ∧ n = n' ∧ o = o' := by simpa using hfront
  exact ⟨rfl, vs, r, z, rfl, hvs, hr, hz⟩

theorem exists_tokenize_heading {name : String} (hn : IsName name) :
    ∃ us n, Heads name us n ∧ ∀ text : String, tokenize (heading name ++ text) =
      us ++ Scanner.collect [] (.reading text.toList (.past .start (heading name).toList)) := by
  obtain ⟨us, q, ⟨n, hus⟩, htokens⟩ := (scans_heading hn []).tokenize_eq
  obtain ⟨vs, hvs⟩ := exists_tokenize_eq (heading name)
  obtain ⟨rfl, hq⟩ := List.append_inj' (htokens.symm.trans hvs) rfl
  refine ⟨us, n, hus, fun text => tokenize_append hvs fun t ht _ => ?_⟩
  obtain ⟨rest, hfits⟩ := exists_fits_of_mem hvs (List.mem_of_getLast? ht)
  obtain ⟨a, b, o, rfl, -, -, -, ho⟩ := hus.tokens
  obtain rfl : o = t := by simpa using ht
  refine hfits.before (fun hword => ?_) fun hk => ?_
  · rw [ho] at hword
    rcases hword with hword | hword <;> cases hword
  · rw [ho] at hk
    cases hk

theorem Fits.open_append {w rest ds : List Char} (h : Fits .unrecognized w rest)
    (hw : w.head? = some '"') (hds : ∀ c ∈ ds, c ≠ '"' ∧ c ≠ '\n') :
    Fits .unrecognized (w ++ ds) [] := by
  cases h with
  | sign h => cases h
  | word _ hk _ => rcases hk.1 with hk | hk <;> cases hk
  | stray _ _ hq _ => exact absurd (Option.some.inj hw) hq
  | unclosed hcs _ => exact .unclosed (List.forall_mem_append.mpr ⟨hcs, hds⟩) (.inl rfl)

namespace Scanner

theorem exists_unrecognized_of_open {cs ds : List Char} {us : List Token} {t : Token} {p : Position}
    (hus : collect [] (reading cs p) = us ++ [Token.finish (p.past cs)]) (ht : t ∈ us.getLast?)
    (hstop : t.stop = p.offset + bytes cs) (hopen : t.Unclosed)
    (hds : ∀ c ∈ ds, c ≠ '"' ∧ c ≠ '\n') :
    ∃ u ∈ collect [] (reading (cs ++ ds) p), u.kind = .unrecognized := by
  induction cs using text_induction generalizing us p with
  | gap cs hgap =>
    rw [collect_gap p hgap] at hus
    obtain rfl : us = [] := by simpa using hus
    cases ht
  | token gap k w rest hgap hfits ih =>
    obtain ⟨vs, hvs⟩ := exists_collect_eq rest (p.past (gap ++ Token.spelled k w))
    rw [collect_token p hgap hfits, hvs, ← Position.past_append, ← List.cons_append] at hus
    obtain ⟨rfl, -⟩ := List.append_inj' hus rfl
    rw [List.getLast?_cons] at ht
    cases hlast : vs.getLast? with
    | none =>
      -- the open quotation is this token, and no text is left behind it
      rw [hlast] at ht
      obtain rfl : (⟨k, String.ofList w, p.past gap⟩ : Token) = t := Option.some.inj ht
      obtain ⟨hk, hquote⟩ := hopen
      obtain rfl : k = .unrecognized := hk
      rw [String.toList_ofList] at hquote
      rw [stop_mk, bytes_append _ rest] at hstop
      obtain rfl : rest = [] := bytes_eq_zero_iff.mp (by omega)
      have hcollect := collect_token p hgap (hfits.open_append hquote hds)
      rw [Token.spelled, if_neg (by decide), List.append_nil] at hcollect ⊢
      rw [List.append_assoc, hcollect]
      exact ⟨_, List.mem_cons_self, rfl⟩
    | some v =>
      have hfollow : Fits k w (rest ++ ds) := by
        refine hfits.append fun hrest => ?_
        rw [hrest, collect_gap _ isGap_nil] at hvs
        obtain rfl : vs = [] := by simpa using hvs
        cases hlast
      rw [hlast] at ht
      rw [bytes_append _ rest, ← Nat.add_assoc, ← Position.offset_past] at hstop
      obtain ⟨u, hu, hk⟩ := ih hvs (hlast.trans ht) hstop
      rw [List.append_assoc _ rest, collect_token p hgap hfollow]
      exact ⟨u, List.mem_cons_of_mem _ hu, hk⟩

theorem collect_closed {cs : List Char} {p : Position}
    (h : ∀ t ∈ collect [] (reading (cs ++ ['\x7d']) p), t.kind ≠ .unrecognized) :
    ∃ us, collect [] (reading cs p) = us ++ [Token.finish (p.past cs)] ∧
      ∀ ds, Stops wordContinue ds →
        collect [] (reading (cs ++ ds) p) = us ++ collect [] (reading ds (p.past cs)) := by
  obtain ⟨us, hus⟩ := exists_collect_eq cs p
  refine ⟨us, hus, fun ds hds => collect_append hus fun t ht hstop => ?_⟩
  have hmem : t ∈ collect [] (reading cs p) := by
    rw [hus]
    exact List.mem_append_left _ (List.mem_of_getLast? ht)
  obtain ⟨before, rest, -, -, ⟨hk, hlexeme, -⟩ | hfits⟩ := exists_append_of_mem_collect hmem
  · -- the end of input takes up no text, but it would stand in front of the one that comes last
    have hall := pairwise_offset_lt cs p
    rw [hus] at hall
    have hlt := (List.pairwise_append.mp hall).2.2 t (List.mem_of_getLast? ht) _
      List.mem_cons_self
    have hraw : t.raw = [] := by simp [Token.raw, Token.spelled, hk, hlexeme]
    rw [Token.stop, hraw, bytes_eq_zero_iff.mpr rfl, Nat.add_zero] at hstop
    rw [Token.finish, Position.offset_past, ← hstop] at hlt
    exact absurd hlt (Nat.lt_irrefl _)
  · refine hfits.before (fun _ => hds) fun hk hquote => ?_
    have hbrace : ∀ c ∈ ['\x7d'], c ≠ '"' ∧ c ≠ '\n' := by simp
    obtain ⟨u, hu, hk⟩ := exists_unrecognized_of_open hus ht hstop ⟨hk, hquote⟩ hbrace
    exact absurd hk (h u hu)

end Scanner

theorem Ended.append {us ts : List Token} (hus : ∀ u ∈ us, u.kind ≠ .endOfInput) (h : Ended ts) :
    Ended (us ++ ts) := by
  obtain ⟨vs, z, rfl, hz, hvs⟩ := h
  exact ⟨us ++ vs, z, (List.append_assoc us vs [z]).symm, hz,
    List.forall_mem_append.mpr ⟨hus, hvs⟩⟩

theorem Entity.Sentence.recognized {ts : List Token} {e : Entity} (h : Entity.Sentence ts e) :
    ∀ t ∈ ts, t.kind ≠ .unrecognized := by
  intro t ht hk
  have hrun := h.run
  have hmem : Kind.unrecognized ∈ kinds ts := hk ▸ List.mem_map_of_mem ht
  rw [Machine.run_eq_none_of_mem (fun q => by cases q <;> rfl) hmem] at hrun
  cases hrun

def lastKind? (text : String) : Option Kind :=
  ((kinds (tokenize text)).filter fun k => k ≠ .newline ∧ k ≠ .endOfInput).getLast?

theorem kinds_filter (ts : List Token) (k : Kind) :
    kinds (ts.filter (·.kind ≠ k)) = (kinds ts).filter (· ≠ k) := by
  rw [kinds, kinds, List.filter_map]
  rfl

theorem lastKind?_eq {text : String} {us : List Token} {p : Position} {z : Token} {k : Kind}
    (hus : Scanner.collect [] (.reading text.toList p) = us ++ [z]) (hz : z.kind = .endOfInput)
    (hk : k ≠ .endOfInput)
    (hlast : (kinds (us.filter (·.kind ≠ .newline))).getLast? = some k) :
    lastKind? text = some k := by
  have hkinds : kinds (tokenize text) = kinds us ++ [.endOfInput] := by
    have hmoved := congrArg kinds (Scanner.map_moved_collect text.toList .start p)
    rw [(carries_moved _).kinds_map, (carries_moved _).kinds_map, hus, kinds_append,
      kinds_singleton, hz] at hmoved
    exact hmoved
  obtain ⟨ks, hks⟩ := List.getLast?_eq_some_iff.mp hlast
  have hfilter : (kinds (tokenize text)).filter (fun k => k ≠ .newline ∧ k ≠ .endOfInput) =
      ((kinds us).filter (· ≠ .newline)).filter (· ≠ .endOfInput) := by
    rw [hkinds, List.filter_append, List.filter_filter]
    simp [Bool.and_comm]
  rw [lastKind?, hfilter, ← kinds_filter, hks, List.filter_append]
  simp [hk]

namespace Entity

/-- What is read of a text behind the members of `e` and a comma, by what is read of the text where
it comes first. -/
def Continued (e : Entity) : Except Diagnostic Entity → Except Diagnostic Entity → Prop
  | .ok f, .ok g => g.name = e.name ∧
      ∃ ms, g.members = e.members ++ ms ∧ (ms == f.members) = true
  | .error x, .error d => d.expected = x.expected ∧ d.found.kind = x.found.kind ∧
      d.found.lexeme = x.found.lexeme
  | _, _ => False

section

variable {name a : String} {us : List Token} {n : Token} {e : Entity} {p : Position}

def ahead (cs : List Char) (p : Position) : List Token :=
  (Scanner.collect [] (.reading cs p)).filter (·.kind ≠ .newline)

theorem ended_ahead (cs : List Char) (p : Position) : Ended (ahead cs p) :=
  (Scanner.ended_collect cs p).filter (by decide)

theorem map_moved_ahead (cs : List Char) (p q : Position) :
    (ahead cs p).map (Token.moved fun _ => .start) =
      (ahead cs q).map (Token.moved fun _ => .start) := by
  have hmap (p : Position) : (ahead cs p).map (Token.moved fun _ => .start) =
      ((Scanner.collect [] (.reading cs p)).map (Token.moved fun _ => .start)).filter
        (·.kind ≠ .newline) := by
    rw [ahead, List.filter_map]
    rfl
  rw [hmap, hmap, Scanner.map_moved_collect cs p q]

theorem exists_significant_declaring (hn : IsName name) :
    ∃ us n p, Heads name us n ∧
      ∀ text, significant (declaring name text) = us ++ ahead (text.toList ++ ['\x7d']) p := by
  obtain ⟨us, n, hus, htokens⟩ := exists_tokenize_heading hn
  refine ⟨us, n, .past .start (heading name).toList, hus, fun text => ?_⟩
  rw [declaring, String.append_assoc, significant, htokens, List.filter_append, hus.filter,
    String.toList_append]
  rfl

theorem exists_members_ahead (hus : Heads name us n)
    (he : Sentence (us ++ ahead (a.toList ++ ['\x7d']) p) e) (hne : e.members ≠ [])
    (hlast : lastKind? a ≠ some .comma) :
    e.name = n.identifier ∧ ∃ vs, Separated (Single .comma) Member.Phrase vs e.members ∧
      ∃ q, ∀ cs, Stops wordContinue cs → ahead (a.toList ++ cs) p = vs ++ ahead cs q := by
  have hrecognized : ∀ t ∈ Scanner.collect [] (.reading (a.toList ++ ['\x7d']) p),
      t.kind ≠ .unrecognized := by
    intro t ht hk
    have hmem : t ∈ ahead (a.toList ++ ['\x7d']) p := List.mem_filter.mpr ⟨ht, by simp [hk]⟩
    exact he.recognized t (List.mem_append_right _ hmem) hk
  obtain ⟨vs, hvs, hclosed⟩ := Scanner.collect_closed hrecognized
  have hahead (cs : List Char) (hcs : Stops wordContinue cs) : ahead (a.toList ++ cs) p =
      vs.filter (·.kind ≠ .newline) ++ ahead cs (p.past a.toList) := by
    rw [ahead, hclosed cs hcs, List.filter_append]
    rfl
  have hbrace : Stops wordContinue ['\x7d'] := stops_cons.mpr (not_wordContinue_of_mem (by simp))
  rw [hahead _ hbrace, ahead, Scanner.collect_sign (k := .closeBrace) rfl,
    Scanner.collect_gap _ isGap_nil] at he
  obtain ⟨hname, ws, r, z, hws, hphrase, -, -⟩ := hus.exists_of_sentence he
  obtain ⟨rfl, -⟩ := List.append_inj' hws rfl
  refine ⟨hname, _, hphrase.separated hne fun hcomma => ?_, _, hahead⟩
  exact hlast (lastKind?_eq hvs rfl (by decide) hcomma)

end

section

variable {name : String} {us vs ts : List Token} {n c : Token} {ms : List Member}

theorem run_members (hus : Heads name us n)
    (hvs : Separated (Single .comma) Member.Phrase vs ms) (hc : c.kind = .comma) :
    machine.run start (kinds (us ++ (vs ++ [c]))) = some listing := by
  obtain ⟨r, hr, hrun⟩ := hvs.run (R := Rests) (fun _ _ h => h.run)
    fun _ _ hs hr => hs.run.trans hr.1
  have hcomma : Single .comma [c] := ⟨c, rfl, hc⟩
  rw [kinds_append, kinds_append, Machine.run_append, hus.run, Option.bind_some,
    Machine.run_append, hrun, Option.bind_some, hcomma.run]
  exact hr.1

theorem run_members_append (hus : Heads name us n)
    (hvs : Separated (Single .comma) Member.Phrase vs ms) (hc : c.kind = .comma) (hts : Ended ts) :
    (rule.run ⟨.ofTokens (us ++ (vs ++ [c]) ++ ts), []⟩).1 =
      (rule.run ⟨.ofTokens (us ++ ts), []⟩).1.map fun e => ⟨e.name, ms ++ e.members⟩ := by
  have hfront := hts.append (Machine.kind_ne_of_run hus.run (by decide))
  have hall := hts.append (Machine.kind_ne_of_run (run_members hus hvs hc) (by decide))
  cases hr : (rule.run ⟨.ofTokens (us ++ ts), []⟩).1 with
  | ok e =>
    have he := follows.sentence_of_ok hfront hr
    obtain ⟨hname, ws, r, z, rfl, hws, hr, hz⟩ := hus.exists_of_sentence he
    have hsentence := hus.sentence (.append hvs hc hws) hr hz
    rw [← hname] at hsentence
    refine (follows.ok_iff hall).mpr ?_
    simpa using hsentence
  | error d =>
    have hd := follows.rejects_of_error hfront hr
    exact (follows.error_iff Machine.Steps.congr hall).mpr
      (hd.replace hus.run (run_members hus hvs hc))

end

theorem run_moved {ts us : List Token} (hts : Ended ts) (hus : Ended us)
    (h : ts.map (Token.moved fun _ => .start) = us.map (Token.moved fun _ => .start)) :
    Concord ts us (rule.run ⟨.ofTokens ts, []⟩).1 (rule.run ⟨.ofTokens us, []⟩).1 := by
  have hbare : ts.map Token.bare = us.map Token.bare := by
    have hmap := congrArg (List.map Token.bare) h
    rw [List.map_map, List.map_map] at hmap
    exact hmap
  exact follows.concord Machine.Steps.congr (fun e e' he he' => he.beq_of_bare_eq he' hbare) hts hus
    hbare

theorem continued_of_concord {ts us : List Token} {e : Entity} {r r' : Except Diagnostic Entity}
    (h : ts.map (Token.moved fun _ => .start) = us.map (Token.moved fun _ => .start))
    (hr : Concord ts us r r') (hname : ∀ f, r = .ok f → f.name = e.name) :
    e.Continued r' (r.map fun f => ⟨f.name, e.members ++ f.members⟩) := by
  cases r with
  | ok f =>
    cases r' with
    | ok f' => exact ⟨hname f rfl, f.members, rfl, (beq_iff.mp hr).2⟩
    | error _ => exact hr
  | error d =>
    cases r' with
    | ok _ => exact hr
    | error d' =>
      obtain ⟨hexpected, -, i, hfound, hfound'⟩ := hr
      have hplace := congrArg (·[i]?) h
      simp only [List.getElem?_map, hfound, hfound', Option.map_some] at hplace
      obtain ⟨hkind, hlexeme, -⟩ := Token.mk.inj (Option.some.inj hplace)
      exact ⟨hexpected, hkind, hlexeme⟩

/-- Behind members and a comma a declaration is read on as if it began there. -/
theorem read_members_append (name a b : String) (e : Entity) (hn : IsName name)
    (ha : read (declaring name a) = .ok e) (hne : e.members ≠ [])
    (hlast : lastKind? a ≠ some .comma) :
    e.Continued (read (declaring name b)) (read (declaring name (a ++ "," ++ b))) := by
  obtain ⟨us, n, p, hus, htokens⟩ := exists_significant_declaring hn
  have he := sentence_of_read ha
  rw [htokens] at he
  obtain ⟨hname, vs, hvs, q, hahead⟩ := exists_members_ahead hus he hne hlast
  have hread (text : String) : read (declaring name text) =
      (rule.run ⟨.ofTokens (us ++ ahead (text.toList ++ ['\x7d']) p), []⟩).1 := by
    rw [← htokens]
    rfl
  obtain ⟨q', hbehind⟩ : ∃ q', ahead ((a ++ "," ++ b).toList ++ ['\x7d']) p =
      vs ++ [⟨.comma, ",", q⟩] ++ ahead (b.toList ++ ['\x7d']) q' := by
    have htext : (a ++ "," ++ b).toList ++ ['\x7d'] =
        a.toList ++ ',' :: (b.toList ++ ['\x7d']) := by
      have hsep : ",".toList = [','] := by decide +kernel
      rw [String.toList_append, String.toList_append, hsep, List.append_assoc, List.append_assoc]
      rfl
    have hcomma (cs : List Char) : Stops wordContinue (',' :: cs) :=
      stops_cons.mpr (not_wordContinue_of_mem (by simp))
    rw [htext, hahead _ (hcomma _), ahead, Scanner.collect_sign (k := .comma) rfl]
    exact ⟨_, by rw [List.append_assoc]; rfl⟩
  have hfront := Machine.kind_ne_of_run hus.run (by decide)
  have hended (p : Position) := (ended_ahead (b.toList ++ ['\x7d']) p).append hfront
  -- the second list is cut into the same tokens behind the heading and behind the comma
  have hmoved : (us ++ ahead (b.toList ++ ['\x7d']) q').map (Token.moved fun _ => .start) =
      (us ++ ahead (b.toList ++ ['\x7d']) p).map (Token.moved fun _ => .start) := by
    rw [List.map_append, List.map_append, map_moved_ahead _ q' p]
  rw [hread, hread, hbehind, ← List.append_assoc us,
    run_members_append hus hvs rfl (ended_ahead _ q')]
  refine continued_of_concord hmoved (run_moved (hended q') (hended p) hmoved) fun f hf => ?_
  rw [hname]
  exact (hus.exists_of_sentence (follows.sentence_of_ok (hended q') hf)).1

theorem read_members_append_restricted :
    let a := "x: int (unique)\n"
    ∃ e, read (declaring "é" a) = .ok e ∧
      e.Continued (read (declaring "é" "")) (read (declaring "é" (a ++ "," ++ ""))) ∧
      e.Continued (read (declaring "é" "y: \"ö"))
        (read (declaring "é" (a ++ "," ++ "y: \"ö"))) := by
  intro a
  let e : Entity := ⟨⟨"é", ⟨14, 1, 15⟩⟩,
    [⟨⟨"x", ⟨18, 1, 18⟩⟩, .named "int", Constraints.empty.insert .unique⟩]⟩
  have hname : IsName "é" :=
    ⟨⟨'é', [], by decide +kernel, by decide +kernel, List.forall_mem_nil _⟩, by decide +kernel⟩
  have ha : read (declaring "é" a) = .ok e := by decide +kernel
  have hlast : lastKind? a ≠ some .comma := by decide +kernel
  refine ⟨e, ha, ?_, ?_⟩
  · exact read_members_append "é" a "" e hname ha (List.cons_ne_nil _ _) hlast
  · exact read_members_append "é" a "y: \"ö" e hname ha (List.cons_ne_nil _ _) hlast

end Entity

end EntityChat
