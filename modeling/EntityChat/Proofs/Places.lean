import EntityChat.Proofs.Cutting
import Mathlib.Data.List.DropRight
import Mathlib.Data.List.Nodup

/-!
Where tokens stand. A token starts behind some text, and its place counts that text: the bytes, the
line breaks, and the characters since the last line break. So while the counters do not run over,
tokens come one behind the other by offset just as they do by line and column.
-/

namespace EntityChat

def lastLine (cs : List Char) : List Char := cs.rtakeWhile (· ≠ '\n')

theorem lastLine_concat (cs : List Char) (c : Char) :
    lastLine (cs ++ [c]) = if c = '\n' then [] else lastLine cs ++ [c] := by
  rw [lastLine, List.rtakeWhile_concat]
  by_cases hc : c = '\n' <;> simp [hc, lastLine]

theorem lastLine_append (cs ds : List Char) :
    lastLine (cs ++ ds) = if '\n' ∈ ds then lastLine ds else lastLine cs ++ ds := by
  induction ds using List.reverseRecOn with
  | nil => simp
  | append_singleton ds d ih =>
    rw [← List.append_assoc, lastLine_concat, lastLine_concat, ih]
    by_cases hd : d = '\n'
    · simp [hd]
    · by_cases hds : '\n' ∈ ds <;> simp [hd, hds, Ne.symm hd]

theorem bytes_eq_zero_iff {cs : List Char} : bytes cs = 0 ↔ cs = [] := by
  cases cs with
  | nil => simp [bytes]
  | cons c cs =>
    have hc := c.utf8Size_pos
    rw [bytes_cons]
    simp only [reduceCtorEq, iff_false]
    omega

theorem exists_append_of_bytes_lt {cs ds es fs : List Char} (h : cs ++ ds = es ++ fs)
    (hlt : bytes cs < bytes es) : ∃ c gs, es = cs ++ c :: gs := by
  rcases List.append_eq_append_iff.mp h with ⟨gs, rfl, -⟩ | ⟨gs, rfl, -⟩
  · cases gs with
    | nil => simp at hlt
    | cons c gs => exact ⟨c, gs, rfl⟩
  · rw [bytes_append] at hlt
    omega

theorem eq_nil_of_bytes_append {cs gs : List Char} (h : bytes (cs ++ gs) = bytes cs) : gs = [] := by
  rw [bytes_append] at h
  exact bytes_eq_zero_iff.mp (by omega)

theorem eq_of_bytes_eq {cs ds es fs : List Char} (h : cs ++ ds = es ++ fs)
    (heq : bytes cs = bytes es) : cs = es ∧ ds = fs := by
  have hcs : cs = es := by
    rcases List.append_eq_append_iff.mp h with ⟨gs, rfl, -⟩ | ⟨gs, rfl, -⟩
    · rw [eq_nil_of_bytes_append heq.symm, List.append_nil]
    · rw [eq_nil_of_bytes_append heq, List.append_nil]
  subst hcs
  exact ⟨rfl, List.append_cancel_left h⟩

namespace Position

theorem past_append (p : Position) (cs ds : List Char) :
    p.past (cs ++ ds) = (p.past cs).past ds := List.foldl_append

theorem past_start (cs : List Char) : start.past cs =
    ⟨bytes cs, .ofNat (cs.count '\n' + 1), .ofNat ((lastLine cs).length + 1)⟩ := by
  -- the numbers on the right run over where the counters do, so no bound is needed
  induction cs using List.reverseRecOn with
  | nil => rfl
  | append_singleton cs c ih =>
    have hbytes : bytes (cs ++ [c]) = bytes cs + c.utf8Size := by
      rw [bytes_append, bytes_cons]
      rfl
    rw [past_append, ih, hbytes, lastLine_concat]
    by_cases hc : c = '\n'
    · subst hc
      simp [past, after, UInt32.ofNat_add]
    · simp [past, after, hc, UInt32.ofNat_add]

/-- The place counts the text behind which it is. -/
structure Behind (p : Position) (before : List Char) : Prop where
  offset : p.offset = bytes before
  line : p.line.toNat = before.count '\n' + 1
  column : p.column.toNat = (lastLine before).length + 1

theorem behind_past {cs : List Char} (h : cs.length < UInt32.size - 1) :
    (start.past cs).Behind cs := by
  have hline : cs.count '\n' ≤ cs.length := List.count_le_length
  have hcolumn : (lastLine cs).length ≤ cs.length := (List.rtakeWhile_suffix _ cs).length_le
  have hsize : UInt32.size = 4294967296 := rfl
  rw [past_start]
  -- both counters start from one, so they may reach one more than there are characters
  refine ⟨rfl, ?_, ?_⟩
  · exact UInt32.toNat_ofNat_of_lt' (by omega)
  · exact UInt32.toNat_ofNat_of_lt' (by omega)

def Before (p q : Position) : Prop := p.line < q.line ∨ p.line = q.line ∧ p.column < q.column

theorem Before.asymm {p q : Position} (h : p.Before q) : ¬ q.Before p := by
  unfold Before at *
  simp only [UInt32.lt_iff_toNat_lt, ← UInt32.toNat_inj] at *
  omega

theorem Behind.before {p q : Position} {cs ds : List Char} {d : Char} (hp : p.Behind cs)
    (hq : q.Behind (cs ++ d :: ds)) : p.Before q := by
  have hline := hq.line
  have hcolumn := hq.column
  rw [List.count_append] at hline
  rw [lastLine_append] at hcolumn
  unfold Before
  rw [UInt32.lt_iff_toNat_lt, UInt32.lt_iff_toNat_lt, ← UInt32.toNat_inj, hp.line, hp.column, hline,
    hcolumn]
  by_cases hn : '\n' ∈ d :: ds
  · have hcount := List.count_pos_iff.mpr hn
    omega
  · have hcount := List.count_eq_zero.mpr hn
    rw [if_neg hn, List.length_append, List.length_cons]
    omega

theorem Behind.offset_lt_iff {p q : Position} {cs ds es fs : List Char} (hp : p.Behind cs)
    (hq : q.Behind es) (h : cs ++ ds = es ++ fs) : p.offset < q.offset ↔ p.Before q := by
  have hforth {p q : Position} {cs ds es fs : List Char} (hp : p.Behind cs) (hq : q.Behind es)
      (h : cs ++ ds = es ++ fs) (hlt : p.offset < q.offset) : p.Before q := by
    rw [hp.offset, hq.offset] at hlt
    obtain ⟨c, gs, rfl⟩ := exists_append_of_bytes_lt h hlt
    exact hp.before hq
  refine ⟨hforth hp hq h, fun hbefore => ?_⟩
  rcases Nat.lt_trichotomy p.offset q.offset with hlt | heq | hlt
  · exact hlt
  · rw [hp.offset, hq.offset] at heq
    obtain ⟨rfl, -⟩ := eq_of_bytes_eq h heq
    have hline := hp.line.trans hq.line.symm
    have hcolumn := hp.column.trans hq.column.symm
    simp [Before, UInt32.toNat_inj.mp hline, UInt32.toNat_inj.mp hcolumn] at hbefore
  · exact absurd (hforth hq hp h.symm hlt) hbefore.asymm

theorem line_column_of_display_eq {p q : Position} (h : p.display = q.display) :
    p.line = q.line ∧ p.column = q.column := by
  have hdigit (n : Nat) : ∀ c ∈ Nat.toDigits 10 n, c.isDigit = true := fun c hc =>
    Nat.isDigit_of_mem_toDigits (by decide) (by decide) hc
  have hnumber {m n : Nat} (hmn : Nat.toDigits 10 m = Nat.toDigits 10 n) : m = n := by
    have hvalue := congrArg (Nat.ofDigitChars 10 · 0) hmn
    rwa [Nat.ofDigitChars_toDigits (by decide) (by decide),
      Nat.ofDigitChars_toDigits (by decide) (by decide)] at hvalue
  have hcolon (cs : List Char) : Stops Char.isDigit (':' :: cs) := stops_cons.mpr rfl
  have htext : Nat.toDigits 10 p.line.toNat ++ ':' :: Nat.toDigits 10 p.column.toNat =
      Nat.toDigits 10 q.line.toNat ++ ':' :: Nat.toDigits 10 q.column.toNat := by
    simpa [display] using congrArg String.toList h
  have hline := congrArg (List.takeWhile Char.isDigit) htext
  have hcolumn := congrArg (List.dropWhile Char.isDigit) htext
  rw [(hcolon _).takeWhile_append (hdigit _), (hcolon _).takeWhile_append (hdigit _)] at hline
  rw [(hcolon _).dropWhile_append (hdigit _), (hcolon _).dropWhile_append (hdigit _)] at hcolumn
  exact ⟨UInt32.toNat_inj.mp (hnumber hline),
    UInt32.toNat_inj.mp (hnumber (List.cons.inj hcolumn).2)⟩

end Position

theorem Fits.bytes_pos {k : Kind} {w rest : List Char} (h : Fits k w rest) :
    0 < bytes (Token.spelled k w) := by
  apply Nat.pos_of_ne_zero
  rw [Ne, bytes_eq_zero_iff]
  exact h.spelled_ne_nil

namespace Scanner

theorem exists_append_of_mem_collect {cs : List Char} {p : Position} {t : Token}
    (ht : t ∈ collect [] (reading cs p)) :
    ∃ before rest, cs = before ++ (t.raw ++ rest) ∧ t.position = p.past before ∧
      (t.kind = .endOfInput ∧ t.lexeme = "" ∧ rest = [] ∨ Fits t.kind t.lexeme.toList rest) := by
  induction cs using text_induction generalizing p with
  | gap cs hgap =>
    rw [collect_gap p hgap, List.mem_singleton] at ht
    subst ht
    exact ⟨cs, [], by simp [Token.raw, Token.spelled, Token.finish], rfl, .inl ⟨rfl, rfl, rfl⟩⟩
  | token gap k w rest hgap hfits ih =>
    rw [collect_token p hgap hfits] at ht
    rcases List.mem_cons.mp ht with rfl | ht
    · refine ⟨gap, rest, ?_, rfl, .inr ?_⟩
      · rw [Token.raw, String.toList_ofList, List.append_assoc]
      · rwa [String.toList_ofList]
    · obtain ⟨before, behind, rfl, hposition, hfits'⟩ := ih ht
      refine ⟨gap ++ Token.spelled k w ++ before, behind, ?_, ?_, hfits'⟩
      · rw [List.append_assoc _ before]
      · rw [hposition, ← Position.past_append]

theorem pairwise_offset_lt (cs : List Char) (p : Position) :
    (collect [] (reading cs p)).Pairwise fun t u => t.position.offset < u.position.offset := by
  induction cs using text_induction generalizing p with
  | gap cs hgap =>
    rw [collect_gap p hgap]
    exact List.pairwise_singleton _ _
  | token gap k w rest hgap hfits ih =>
    rw [collect_token p hgap hfits]
    refine List.pairwise_cons.mpr ⟨fun u hu => ?_, ih _⟩
    obtain ⟨before, behind, -, hposition, -⟩ := exists_append_of_mem_collect hu
    have hpos := hfits.bytes_pos
    rw [hposition, Position.offset_past, Position.offset_past, Position.offset_past, bytes_append]
    omega

end Scanner

theorem exists_append_of_mem_tokenize {source : String} {t : Token} (ht : t ∈ tokenize source) :
    ∃ before rest, source.toList = before ++ (t.raw ++ rest) ∧ t.position = .past .start before ∧
      (t.kind = .endOfInput ∧ t.lexeme = "" ∧ rest = [] ∨ Fits t.kind t.lexeme.toList rest) :=
  Scanner.exists_append_of_mem_collect ht

theorem eq_of_offset_eq {source : String} {t u : Token} (ht : t ∈ tokenize source)
    (hu : u ∈ tokenize source) (h : t.position.offset = u.position.offset) : t = u := by
  have hnodup : ((tokenize source).map fun t => t.position.offset).Nodup :=
    List.pairwise_map.mpr ((Scanner.pairwise_offset_lt _ _).imp Nat.ne_of_lt)
  exact List.inj_on_of_nodup_map hnodup ht hu h

/-- The tokens stand in the source at the places that they have, in the order of the text by offset
as by line and column, so that a line and a column show which of them is meant. -/
structure Placed (source : String) (ts : List Token) : Prop where
  boundary : ∀ t ∈ ts, (⟨t.position.offset⟩ : String.Pos.Raw).IsValid source
  place : ∀ t ∈ ts, ∃ before rest, source.toList = before ++ rest ∧ t.position.Behind before
  ascending : ts.Pairwise fun t u => t.position.offset < u.position.offset
  order : ∀ t ∈ ts, ∀ u ∈ ts,
    t.position.offset < u.position.offset ↔ t.position.Before u.position
  display : ∀ t ∈ ts, ∀ u ∈ ts, t.position.display = u.position.display → t = u

theorem Position.Behind.isValid {source : String} {p : Position} {before rest : List Char}
    (h : p.Behind before) (hsource : source.toList = before ++ rest) :
    (⟨p.offset⟩ : String.Pos.Raw).IsValid source := by
  refine String.Pos.Raw.isValid_iff_exists_append.mpr
    ⟨.ofList before, .ofList rest, ?_, congrArg String.Pos.Raw.mk h.offset⟩
  rw [← String.toList_inj, String.toList_append, String.toList_ofList, String.toList_ofList,
    hsource]

theorem exists_behind_append_of_mem_tokenize {source : String}
    (h : source.length < UInt32.size - 1) {t : Token} (ht : t ∈ tokenize source) :
    ∃ before rest, source.toList = before ++ (t.raw ++ rest) ∧ t.position.Behind before ∧
      (t.kind = .endOfInput ∧ t.lexeme = "" ∧ rest = [] ∨ Fits t.kind t.lexeme.toList rest) := by
  obtain ⟨before, rest, hsource, hposition, hfits⟩ := exists_append_of_mem_tokenize ht
  have hlength := congrArg List.length hsource
  rw [List.length_append, String.length_toList] at hlength
  refine ⟨before, rest, hsource, ?_, hfits⟩
  rw [hposition]
  exact Position.behind_past (by omega)

theorem exists_behind_of_mem_tokenize {source : String} (h : source.length < UInt32.size - 1)
    {t : Token} (ht : t ∈ tokenize source) :
    ∃ before rest, source.toList = before ++ rest ∧ t.position.Behind before := by
  obtain ⟨before, rest, hsource, hbehind, -⟩ := exists_behind_append_of_mem_tokenize h ht
  exact ⟨before, _, hsource, hbehind⟩

/-- While no counter can run over, the tokens of a source stand at the places that they have. -/
theorem placed_tokenize (source : String) (h : source.length < UInt32.size - 1) :
    Placed source (tokenize source) := by
  have horder : ∀ t ∈ tokenize source, ∀ u ∈ tokenize source,
      t.position.offset < u.position.offset ↔ t.position.Before u.position := by
    intro t ht u hu
    obtain ⟨before, rest, hsource, hbehind⟩ := exists_behind_of_mem_tokenize h ht
    obtain ⟨before', rest', hsource', hbehind'⟩ := exists_behind_of_mem_tokenize h hu
    exact hbehind.offset_lt_iff hbehind' (hsource.symm.trans hsource')
  refine ⟨fun t ht => ?_, fun t ht => exists_behind_of_mem_tokenize h ht,
    Scanner.pairwise_offset_lt _ _, horder, fun t ht u hu hdisplay => ?_⟩
  · obtain ⟨before, rest, hsource, hbehind⟩ := exists_behind_of_mem_tokenize h ht
    exact hbehind.isValid hsource
  · -- neither of the two places comes before the other
    obtain ⟨hline, hcolumn⟩ := Position.line_column_of_display_eq hdisplay
    have htu := horder t ht u hu
    have hut := horder u hu t ht
    simp only [Position.Before, hline, hcolumn, UInt32.lt_irrefl, and_false, or_false, iff_false]
      at htu hut
    exact eq_of_offset_eq ht hu (by omega)

theorem placed_tokenize_two_lines : "é\n x".length < UInt32.size - 1 ∧
    Placed "é\n x" [⟨.identifier, "é", ⟨0, 1, 1⟩⟩, ⟨.newline, "\n", ⟨2, 1, 2⟩⟩,
      ⟨.identifier, "x", ⟨4, 2, 2⟩⟩, .finish ⟨5, 2, 3⟩] := by
  have hlength : "é\n x".length < UInt32.size - 1 := by decide +kernel
  have htokens : tokenize "é\n x" = [⟨.identifier, "é", ⟨0, 1, 1⟩⟩, ⟨.newline, "\n", ⟨2, 1, 2⟩⟩,
      ⟨.identifier, "x", ⟨4, 2, 2⟩⟩, .finish ⟨5, 2, 3⟩] := by decide +kernel
  exact ⟨hlength, htokens ▸ placed_tokenize _ hlength⟩

end EntityChat
