import EntityChat.Proofs.Places

/-!
A text is cut alike wherever it stands, and only the places of its tokens move. More text behind it
changes none of its tokens, unless the last of them could go on with it. A line break never could:
where one joins two texts, it takes the place of the end of the first, and the tokens of the second
move down.
-/

namespace EntityChat

def Token.moved (f : Position → Position) (t : Token) : Token := { t with position := f t.position }

namespace Position

def below (a : String) (p : Position) : Position :=
  ⟨p.offset + (a.utf8ByteSize + 1), p.line + .ofNat (a.toList.count '\n' + 1), p.column⟩

theorem after_below (a : String) (p : Position) (c : Char) :
    (p.below a).after c = (p.after c).below a := by
  have hline (l n : UInt32) : l + n + 1 = l + 1 + n := by
    rw [UInt32.add_assoc, UInt32.add_comm n, ← UInt32.add_assoc]
  unfold after below
  split
  · simp only [Nat.add_right_comm, hline]
  · simp only [Nat.add_right_comm]

theorem past_line (a : String) : start.past (a.toList ++ ['\n']) = start.below a := by
  have hbytes : bytes (a.toList ++ ['\n']) = a.utf8ByteSize + 1 := by
    rw [bytes_append, bytes, String.ofList_toList]
    rfl
  rw [past_start, hbytes, lastLine_concat, List.count_append, List.count_singleton_self]
  simp [below, start, UInt32.ofNat_add, UInt32.add_comm]

end Position

/-- Where `f` takes each place in a text to the place that it has there when the text starts
elsewhere, it takes the tokens along. -/
theorem Scanner.collect_relocated {f : Position → Position} {cs : List Char} {p q : Position}
    (hf : ∀ before rest, cs = before ++ rest → f (p.past before) = q.past before) :
    collect [] (reading cs q) = (collect [] (reading cs p)).map (Token.moved f) := by
  induction cs using text_induction generalizing p q with
  | gap cs hgap =>
    rw [collect_gap q hgap, collect_gap p hgap, ← hf cs [] (by simp)]
    rfl
  | token gap k w rest hgap hfits ih =>
    have hrest : ∀ before rest', rest = before ++ rest' →
        f ((p.past (gap ++ Token.spelled k w)).past before) =
          (q.past (gap ++ Token.spelled k w)).past before := by
      intro before rest' hrest
      rw [← Position.past_append, ← Position.past_append]
      exact hf _ rest' (by rw [hrest, List.append_assoc _ before])
    rw [collect_token q hgap hfits, collect_token p hgap hfits, ih hrest,
      ← hf gap (Token.spelled k w ++ rest) (List.append_assoc _ _ _)]
    rfl

theorem Position.past_moved {f : Position → Position} (hf : ∀ p c, (f p).after c = f (p.after c))
    (p : Position) (cs : List Char) : (f p).past cs = f (p.past cs) := by
  induction cs generalizing p with
  | nil => rfl
  | cons c cs ih =>
    rw [past, List.foldl_cons, hf, ← past, ih]
    rfl

def Kind.IsWord (k : Kind) : Prop := k = .identifier ∨ k.spelling?.isSome = true

namespace Fits

variable {k : Kind} {w rest rest' : List Char}

theorem not_isWord_of_sign {c : Char} (h : k.sign? = some c) : ¬ k.IsWord := by
  intro hk
  cases k <;> cases h <;> rcases hk with hk | hk <;> cases hk

theorem stops (h : Fits k w rest) (hk : k.IsWord) : Stops wordContinue rest := by
  cases h with
  | sign h => exact absurd hk (not_isWord_of_sign h)
  | word _ _ hr => exact hr
  | quotation _ | stray _ _ _ _ | unclosed _ _ => rcases hk with hk | hk <;> cases hk

theorem cut_off (h : Fits .unrecognized w rest) (hw : w.head? = some '"') :
    rest = [] ∨ rest.head? = some '\n' := by
  cases h with
  | sign h => cases h
  | word _ hk _ => rcases hk.1 with hk | hk <;> cases hk
  | stray _ _ hq _ => exact absurd (Option.some.inj hw) hq
  | unclosed _ hr => exact hr

theorem before (h : Fits k w rest) (hword : k.IsWord → Stops wordContinue rest')
    (hquote : k = .unrecognized → w.head? = some '"' → rest' = [] ∨ rest'.head? = some '\n') :
    Fits k w rest' := by
  cases h with
  | sign h => exact .sign h
  | word hw hk _ => exact .word hw hk (hword hk.1)
  | quotation hcs => exact .quotation hcs
  | stray hb hk hq hw => exact .stray hb hk hq hw
  | unclosed hcs _ => exact .unclosed hcs (hquote rfl rfl)

theorem before_newline (h : Fits k w rest) (ds : List Char) : Fits k w ('\n' :: ds) :=
  h.before (fun _ => stops_cons.mpr (not_wordContinue_of_mem (by simp))) fun _ _ => .inr rfl

theorem append {ds : List Char} (h : Fits k w rest) (hds : rest = [] → Fits k w ds) :
    Fits k w (rest ++ ds) := by
  -- only the first character behind a token decides whether it goes on
  cases rest with
  | nil => exact hds rfl
  | cons c rest =>
    refine h.before (fun hk => ?_) fun hk hw => ?_
    · exact stops_cons.mpr (stops_cons.mp (h.stops hk))
    · subst hk
      exact (h.cut_off hw).imp_left nofun

end Fits

def Token.stop (t : Token) : Nat := t.position.offset + bytes t.raw

namespace Scanner

theorem collect_sign {k : Kind} {c : Char} (hc : k.sign? = some c) (rest : List Char)
    (p : Position) : collect [] (reading (c :: rest) p) =
      ⟨k, String.ofList [c], p⟩ :: collect [] (reading rest (p.past [c])) := by
  have hcollect := collect_token p isGap_nil (.sign hc : Fits k [c] rest)
  rwa [Token.spelled, if_neg (ne_quotation_of_sign hc)] at hcollect

theorem ended_collect (cs : List Char) (p : Position) : Ended (collect [] (reading cs p)) := by
  induction cs using text_induction generalizing p with
  | gap cs hgap =>
    rw [collect_gap p hgap]
    exact ⟨[], _, rfl, rfl, List.forall_mem_nil _⟩
  | token gap k w rest hgap hfits ih =>
    rw [collect_token p hgap hfits]
    obtain ⟨us, z, hus, hz, hkind⟩ := ih (p.past (gap ++ Token.spelled k w))
    rw [hus]
    exact ⟨_ :: us, z, rfl, hz, List.forall_mem_cons.mpr ⟨hfits.kind_ne_end, hkind⟩⟩

theorem map_moved_collect (cs : List Char) (p q : Position) :
    (collect [] (reading cs p)).map (Token.moved fun _ => .start) =
      (collect [] (reading cs q)).map (Token.moved fun _ => .start) := by
  induction cs using text_induction generalizing p q with
  | gap cs hgap =>
    rw [collect_gap p hgap, collect_gap q hgap]
    rfl
  | token gap k w rest hgap hfits ih =>
    rw [collect_token p hgap hfits, collect_token q hgap hfits, List.map_cons, List.map_cons,
      ih _ (q.past (gap ++ Token.spelled k w))]
    rfl

theorem stop_mk (k : Kind) (w gap : List Char) (p : Position) :
    (⟨k, String.ofList w, p.past gap⟩ : Token).stop =
      p.offset + bytes (gap ++ Token.spelled k w) := by
  rw [Token.stop, Token.raw, String.toList_ofList, Position.offset_past, bytes_append,
    Nat.add_assoc]

theorem collect_gap_append {gap : List Char} (hgap : ∀ c ∈ gap, isGap c = true) (cs : List Char)
    (p : Position) :
    collect [] (reading (gap ++ cs) p) = collect [] (reading cs (p.past gap)) := by
  rcases gap_or_fits cs with hcs | ⟨gap', k, w, rest, hgap', hfits, rfl, -⟩
  · rw [collect_gap p (List.forall_mem_append.mpr ⟨hgap, hcs⟩), collect_gap _ hcs,
      Position.past_append]
  · have hall := collect_token p (List.forall_mem_append.mpr ⟨hgap, hgap'⟩) hfits
    rw [List.append_assoc gap', ← List.append_assoc gap, ← List.append_assoc (gap ++ gap'), hall,
      ← List.append_assoc gap', collect_token _ hgap' hfits, Position.past_append,
      List.append_assoc, Position.past_append]

theorem exists_collect_eq (cs : List Char) (p : Position) :
    ∃ us, collect [] (reading cs p) = us ++ [Token.finish (p.past cs)] := by
  induction cs using text_induction generalizing p with
  | gap cs hgap => exact ⟨[], collect_gap p hgap⟩
  | token gap k w rest hgap hfits ih =>
    obtain ⟨us, hus⟩ := ih (p.past (gap ++ Token.spelled k w))
    refine ⟨⟨k, String.ofList w, p.past gap⟩ :: us, ?_⟩
    rw [collect_token p hgap hfits, hus, ← Position.past_append, List.cons_append]

theorem collect_append {cs ds : List Char} {us : List Token} {p : Position}
    (hus : collect [] (reading cs p) = us ++ [Token.finish (p.past cs)])
    (hlast : ∀ t ∈ us.getLast?, t.stop = p.offset + bytes cs → Fits t.kind t.lexeme.toList ds) :
    collect [] (reading (cs ++ ds) p) = us ++ collect [] (reading ds (p.past cs)) := by
  induction cs using text_induction generalizing us p with
  | gap cs hgap =>
    rw [collect_gap p hgap] at hus
    obtain rfl : us = [] := by simpa using hus
    exact collect_gap_append hgap ds p
  | token gap k w rest hgap hfits ih =>
    obtain ⟨vs, hvs⟩ := exists_collect_eq rest (p.past (gap ++ Token.spelled k w))
    rw [collect_token p hgap hfits, hvs, ← Position.past_append, ← List.cons_append] at hus
    obtain ⟨rfl, -⟩ := List.append_inj' hus rfl
    have hfollow : Fits k w (rest ++ ds) := by
      refine hfits.append fun hrest => ?_
      subst hrest
      rw [collect_gap _ isGap_nil] at hvs
      obtain rfl : vs = [] := by simpa using hvs
      have hstop := stop_mk k w gap p
      rw [← List.append_nil (gap ++ Token.spelled k w)] at hstop
      have hfits' : Fits k (String.ofList w).toList ds := hlast _ rfl hstop
      rwa [String.toList_ofList] at hfits'
    have htail := ih hvs fun t ht hstop => hlast t ?_ ?_
    · rw [List.append_assoc _ rest, collect_token p hgap hfollow, htail, ← Position.past_append,
        List.cons_append]
    · rw [List.getLast?_cons, Option.mem_def.mp ht]
      rfl
    · rw [hstop, Position.offset_past, bytes_append _ rest, Nat.add_assoc]

end Scanner

theorem exists_tokenize_eq (source : String) :
    ∃ us, tokenize source = us ++ [Token.finish (.past .start source.toList)] :=
  Scanner.exists_collect_eq source.toList .start

theorem exists_fits_of_mem {source : String} {us : List Token} {z t : Token}
    (h : tokenize source = us ++ [z]) (ht : t ∈ us) : ∃ rest, Fits t.kind t.lexeme.toList rest := by
  have hcut := cut_tokenize source
  rw [h] at hcut
  rcases hcut.fits_of_mem (List.mem_append_left [z] ht) with hkind | hfits
  · exact absurd hkind (hcut.ended.kind_ne t ht)
  · exact hfits

theorem tokenize_append {a b : String} {us : List Token}
    (hus : tokenize a = us ++ [Token.finish (.past .start a.toList)])
    (hlast : ∀ t ∈ us.getLast?, t.stop = a.utf8ByteSize → Fits t.kind t.lexeme.toList b.toList) :
    tokenize (a ++ b) = us ++ Scanner.collect [] (.reading b.toList (.past .start a.toList)) := by
  rw [tokenize, Scanner.ofSource, String.toList_append]
  refine Scanner.collect_append hus fun t ht hstop => hlast t ht ?_
  rw [hstop, bytes, String.ofList_toList]
  exact Nat.zero_add _

theorem tokenize_join (a b : String) : ∃ us q, tokenize a = us ++ [Token.finish q] ∧
    tokenize (a ++ "\n" ++ b) =
      us ++ ⟨.newline, "\n", q⟩ :: (tokenize b).map (Token.moved (Position.below a)) := by
  obtain ⟨us, hus⟩ := exists_tokenize_eq a
  have htext : ("\n" ++ b).toList = '\n' :: b.toList := String.toList_append
  have hlast : ∀ t ∈ us.getLast?, Fits t.kind t.lexeme.toList ("\n" ++ b).toList := by
    intro t ht
    obtain ⟨rest, hfits⟩ := exists_fits_of_mem hus (List.mem_of_getLast? ht)
    rw [htext]
    exact hfits.before_newline b.toList
  have hbreak := Scanner.collect_sign (k := .newline) rfl b.toList (Position.start.past a.toList)
  have hmoved : Scanner.collect [] (.reading b.toList (Position.start.below a)) =
      (tokenize b).map (Token.moved (Position.below a)) :=
    Scanner.collect_relocated fun before _ _ =>
      (Position.past_moved (Position.after_below a) _ before).symm
  refine ⟨us, _, hus, ?_⟩
  rw [String.append_assoc, tokenize_append hus fun t ht _ => hlast t ht, htext, ← hmoved,
    ← Position.past_line, Position.past_append]
  exact congrArg (us ++ ·) hbreak

end EntityChat
