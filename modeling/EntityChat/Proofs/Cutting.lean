import EntityChat.Proofs.Characters
import EntityChat.Token.Scanner
import Mathlib.Data.List.TakeWhile

/-!
What it is for a list of tokens to be the tokens of a text. `Fits` says which lexemes a kind has
and which text may follow one; `Cut` cuts a text into gaps and tokens that fit. A text has one cut
only, up to the lines and columns of its tokens, and `tokenize` finds it.
-/

namespace EntityChat

def bytes (cs : List Char) : Nat := (String.ofList cs).utf8ByteSize

theorem bytes_append (cs ds : List Char) : bytes (cs ++ ds) = bytes cs + bytes ds := by
  simp [bytes, String.ofList_append, String.utf8ByteSize_append]

theorem bytes_cons (c : Char) (cs : List Char) : bytes (c :: cs) = c.utf8Size + bytes cs := by
  rw [← List.singleton_append, bytes_append, bytes, ← String.singleton_eq_ofList,
    String.utf8ByteSize_singleton]

theorem Position.offset_past (p : Position) (cs : List Char) :
    (p.past cs).offset = p.offset + bytes cs := by
  induction cs generalizing p with
  | nil => rfl
  | cons c cs ih =>
    have ha : (p.after c).offset = p.offset + c.utf8Size := by
      unfold after
      split <;> rfl
    rw [past, List.foldl_cons, ← past, ih, ha, bytes_cons, Nat.add_assoc]

/-- The text is at its end, or goes on with a character outside the class. -/
def Stops (p : Char → Bool) (rest : List Char) : Prop := ∀ c ∈ rest.head?, p c = false

theorem stops_nil (p : Char → Bool) : Stops p [] := by simp [Stops]

theorem stops_cons {p : Char → Bool} {c : Char} {rest : List Char} :
    Stops p (c :: rest) ↔ p c = false := by simp [Stops]

theorem Stops.append_of_ne_nil {p : Char → Bool} {cs : List Char} (h : Stops p cs) (hne : cs ≠ [])
    (ds : List Char) : Stops p (cs ++ ds) := by
  obtain ⟨c, cs, rfl⟩ := List.exists_cons_of_ne_nil hne
  exact stops_cons.mpr (stops_cons.mp h)

theorem stops_dropWhile (p : Char → Bool) (cs : List Char) : Stops p (cs.dropWhile p) := by
  intro c hc
  have h := List.head?_dropWhile_not p cs
  rw [Option.mem_def.mp hc] at h
  exact h

theorem Stops.takeWhile_append {p : Char → Bool} {cs rest : List Char} (h : Stops p rest)
    (hcs : ∀ c ∈ cs, p c = true) : (cs ++ rest).takeWhile p = cs := by
  have hr : rest.takeWhile p = [] := by
    cases rest with
    | nil => rfl
    | cons c rest => simp [stops_cons.mp h]
  rw [List.takeWhile_append_of_pos hcs, hr, List.append_nil]

theorem Stops.dropWhile_append {p : Char → Bool} {cs rest : List Char} (h : Stops p rest)
    (hcs : ∀ c ∈ cs, p c = true) : (cs ++ rest).dropWhile p = rest := by
  rw [List.dropWhile_append_of_pos hcs]
  cases rest with
  | nil => rfl
  | cons c rest => simp [stops_cons.mp h]

theorem Stops.append_inj {p : Char → Bool} {cs ds es fs : List Char} (h : Stops p es)
    (h' : Stops p fs) (hcs : ∀ c ∈ cs, p c = true) (hds : ∀ c ∈ ds, p c = true)
    (heq : cs ++ es = ds ++ fs) : cs = ds ∧ es = fs := by
  have htake := congrArg (List.takeWhile p) heq
  rw [h.takeWhile_append hcs, h'.takeWhile_append hds] at htake
  subst htake
  exact ⟨rfl, List.append_cancel_left heq⟩

def IsWord (w : List Char) : Prop :=
  ∃ c cs, w = c :: cs ∧ wordStart c = true ∧ ∀ d ∈ cs, wordContinue d = true

theorem isWord_cons {c : Char} {cs : List Char} :
    IsWord (c :: cs) ↔ wordStart c = true ∧ ∀ d ∈ cs, wordContinue d = true := by
  constructor
  · intro h
    obtain ⟨_, _, heq, hc, hcs⟩ := h
    obtain ⟨rfl, rfl⟩ := List.cons.inj heq
    exact ⟨hc, hcs⟩
  · exact fun h => ⟨c, cs, rfl, h.1, h.2⟩

theorem IsWord.continues {w : List Char} (h : IsWord w) : ∀ c ∈ w, wordContinue c = true := by
  obtain ⟨c, cs, rfl, hc, hcs⟩ := h
  exact List.forall_mem_cons.mpr ⟨wordContinue_of_wordStart hc, hcs⟩

theorem isWord_map_toLower {w : List Char} : IsWord (w.map Char.toLower) ↔ IsWord w := by
  cases w with
  | nil => simp [IsWord]
  | cons c cs => simp [isWord_cons, wordStart_toLower, wordContinue_toLower]

def IsName (w : String) : Prop :=
  IsWord w.toList ∧
    ∀ v ∈ ["create", "entity", "unique", "says"], Text.sameUpToCase v w = false

theorem isName_iff {w : String} : IsName w ↔ IsWord w.toList ∧ Kind.identifier.Names w :=
  and_congr_right' Kind.identifier_names_iff.symm

theorem isWord_of_spelling {k : Kind} {v : String} (h : k.spelling? = some v) :
    IsWord v.toList := by
  have hword : v.toList.head?.any wordStart = true ∧ v.toList.tail.all wordContinue = true := by
    cases k <;> cases h <;> decide +kernel
  generalize v.toList = w at hword
  cases w with
  | nil => cases hword.1
  | cons c cs => exact ⟨c, cs, rfl, hword.1, List.all_eq_true.mp hword.2⟩

/-- The lexemes of each kind, with the text that may follow them. -/
inductive Fits : Kind → List Char → List Char → Prop
  | sign {k c rest} : k.sign? = some c → Fits k [c] rest
  | word {k w rest} : IsWord w → k.Names (String.ofList w) → Stops wordContinue rest → Fits k w rest
  | quotation {cs rest} : (∀ c ∈ cs, c ≠ '"' ∧ c ≠ '\n') → Fits .quotation cs rest
  | stray {c rest} : Text.isBlank c = false → (∀ k : Kind, k.sign? ≠ some c) → c ≠ '"' →
      wordStart c = false → Fits .unrecognized [c] rest
  | unclosed {cs rest} : (∀ c ∈ cs, c ≠ '"' ∧ c ≠ '\n') → (rest = [] ∨ rest.head? = some '\n') →
      Fits .unrecognized ('"' :: cs) rest

/-- Cuts the text `rest`, which stands behind the text `before`, into gaps and tokens. -/
inductive Cut : List Char → List Char → List Token → Prop
  | finish {before gap t} : (∀ c ∈ gap, isGap c = true) → t.kind = .endOfInput → t.lexeme = "" →
      t.position.offset = bytes (before ++ gap) → Cut before gap [t]
  | token {before gap t rest ts} : (∀ c ∈ gap, isGap c = true) →
      t.position.offset = bytes (before ++ gap) → Fits t.kind t.lexeme.toList rest →
      Cut (before ++ gap ++ t.raw) rest ts → Cut before (gap ++ t.raw ++ rest) (t :: ts)

def Ended (ts : List Token) : Prop :=
  ∃ us z, ts = us ++ [z] ∧ z.kind = .endOfInput ∧ ∀ u ∈ us, u.kind ≠ .endOfInput

theorem Ended.filter {ts : List Token} (h : Ended ts) {k : Kind} (hk : k ≠ .endOfInput) :
    Ended (ts.filter (·.kind ≠ k)) := by
  obtain ⟨us, z, rfl, hz, hus⟩ := h
  refine ⟨us.filter (·.kind ≠ k), z, ?_, hz, fun u hu => hus u (List.mem_filter.mp hu).1⟩
  simp [List.filter_append, hz, hk.symm]

theorem Ended.kind_ne {us : List Token} {z : Token} (h : Ended (us ++ [z])) :
    ∀ u ∈ us, u.kind ≠ .endOfInput := by
  obtain ⟨vs, y, hvs, -, hkind⟩ := h
  obtain ⟨rfl, -⟩ := List.append_inj' hvs rfl
  exact hkind

theorem forall_quotable_iff {cs : List Char} :
    (∀ c ∈ cs, quotable c = true) ↔ ∀ c ∈ cs, c ≠ '"' ∧ c ≠ '\n' := by
  simp [quotable]

theorem stops_quotable {rest : List Char} (h : rest = [] ∨ rest.head? = some '\n') :
    Stops quotable rest := by
  rcases h with rfl | h
  · exact stops_nil quotable
  · intro c hc
    obtain rfl : '\n' = c := Option.some.inj (h.symm.trans hc)
    decide

theorem sign_ne_of_wordContinue {c : Char} (h : wordContinue c = true) (k : Kind) :
    k.sign? ≠ some c := by
  intro hk
  have hn := not_wordContinue_of_mem (List.mem_append_left ['"', ' '] (Kind.sign_mem hk))
  rw [h] at hn
  cases hn

theorem ne_quotation_of_sign {k : Kind} {c : Char} (h : k.sign? = some c) : k ≠ .quotation := by
  intro hk
  rw [hk] at h
  cases h

theorem ne_quote_of_wordContinue {c : Char} (h : wordContinue c = true) : c ≠ '"' := by
  intro hc
  subst hc
  rw [not_wordContinue_of_mem (by simp)] at h
  cases h

namespace Fits

theorem kind_ne_end {k : Kind} {w rest : List Char} (h : Fits k w rest) : k ≠ .endOfInput := by
  intro hk
  subst hk
  cases h with
  | sign h => cases h
  | word _ h _ => rcases h.1 with h | h <;> simp [Kind.spelling?] at h

theorem spelled_ne_nil {k : Kind} {w rest : List Char} (h : Fits k w rest) :
    Token.spelled k w ≠ [] := by
  rw [Token.spelled]
  split
  · simp
  · cases h with
    | sign _ => simp
    | word hw _ _ =>
      obtain ⟨c, cs, rfl, -, -⟩ := hw
      simp
    | quotation _ => contradiction
    | stray _ _ _ _ => simp
    | unclosed _ _ => simp

theorem isName {w rest : List Char} (h : Fits .identifier w rest) : IsName (String.ofList w) := by
  cases h with
  | sign h => cases h
  | word hw hn _ => exact isName_iff.mpr ⟨by rwa [String.toList_ofList], hn⟩

theorem within_quotes {w rest : List Char} (h : Fits .quotation w rest) :
    ∀ c ∈ w, c ≠ '"' ∧ c ≠ '\n' := by
  cases h with
  | sign h => cases h
  | word _ h _ => exact absurd rfl h.ne_quotation
  | quotation h => exact h

theorem front_sign {k : Kind} {c : Char} {rest : List Char} (h : k.sign? = some c) :
    Piece.front c rest = ⟨k, [c], rest⟩ := by
  rw [Piece.front, Kind.ofPunctuation?_eq_some_iff.mpr h]

theorem ofPunctuation?_eq_none {c : Char} (h : ∀ k : Kind, k.sign? ≠ some c) :
    Kind.ofPunctuation? c = none := by
  cases hc : Kind.ofPunctuation? c with
  | none => rfl
  | some k => exact absurd (Kind.ofPunctuation?_eq_some_iff.mp hc) (h k)

theorem front_word {c : Char} {cs rest : List Char} (hc : wordStart c = true)
    (hcs : ∀ d ∈ cs, wordContinue d = true) (hr : Stops wordContinue rest) :
    Piece.front c (cs ++ rest) = ⟨.ofWord (String.ofList (c :: cs)), c :: cs, rest⟩ := by
  have hw := wordContinue_of_wordStart hc
  have hq : c ≠ '"' := ne_quote_of_wordContinue hw
  simp only [Piece.front, ofPunctuation?_eq_none (sign_ne_of_wordContinue hw), hq, hc, if_false,
    if_true, Piece.word, hr.takeWhile_append hcs, hr.dropWhile_append hcs]

theorem front_quotation {cs rest : List Char} (hcs : ∀ c ∈ cs, c ≠ '"' ∧ c ≠ '\n') :
    Piece.front '"' (cs ++ '"' :: rest) = ⟨.quotation, cs, rest⟩ := by
  have hr : Stops quotable ('"' :: rest) := stops_cons.mpr (by decide)
  have hq := forall_quotable_iff.mpr hcs
  have hk : Kind.ofPunctuation? '"' = none := rfl
  simp only [Piece.front, hk, if_true, Piece.quotation, hr.takeWhile_append hq,
    hr.dropWhile_append hq]

theorem front_stray {c : Char} {rest : List Char} (hk : ∀ k : Kind, k.sign? ≠ some c)
    (hq : c ≠ '"') (hw : wordStart c = false) :
    Piece.front c rest = ⟨.unrecognized, [c], rest⟩ := by
  simp [Piece.front, ofPunctuation?_eq_none hk, hq, hw]

theorem front_unclosed {cs rest : List Char} (hcs : ∀ c ∈ cs, c ≠ '"' ∧ c ≠ '\n')
    (hr : rest = [] ∨ rest.head? = some '\n') :
    Piece.front '"' (cs ++ rest) = ⟨.unrecognized, '"' :: cs, rest⟩ := by
  have hstop := stops_quotable hr
  have hq := forall_quotable_iff.mpr hcs
  have hk : Kind.ofPunctuation? '"' = none := rfl
  simp only [Piece.front, hk, if_true, Piece.quotation, hstop.takeWhile_append hq,
    hstop.dropWhile_append hq]
  split
  · next rest' =>
    rcases hr with h | h <;> simp at h
  · rfl

theorem front {k : Kind} {w rest : List Char} (h : Fits k w rest) :
    ∃ c cs, Token.spelled k w ++ rest = c :: cs ∧ isGap c = false ∧
      Piece.front c cs = ⟨k, w, rest⟩ := by
  cases h with
  | @sign _ c _ hk =>
    have hq : k ≠ .quotation := ne_quotation_of_sign hk
    exact ⟨c, rest, by simp [Token.spelled, hq], Kind.not_isGap_of_sign hk, front_sign hk⟩
  | word hw hk hr =>
    obtain ⟨c, cs, rfl, hc, hcs⟩ := hw
    have hq : k ≠ .quotation := hk.ne_quotation
    refine ⟨c, cs ++ rest, by simp [Token.spelled, hq],
      not_isGap_of_wordContinue (wordContinue_of_wordStart hc), ?_⟩
    rw [front_word hc hcs hr, hk.eq_ofWord]
  | quotation hcs =>
    exact ⟨'"', w ++ '"' :: rest, by simp [Token.spelled], by decide +kernel, front_quotation hcs⟩
  | @stray c _ hb hk hq hw =>
    exact ⟨c, rest, by simp [Token.spelled], by simp [isGap, hb], front_stray hk hq hw⟩
  | @unclosed cs _ hcs hr =>
    exact ⟨'"', cs ++ rest, by simp [Token.spelled], by decide +kernel, front_unclosed hcs hr⟩

end Fits

namespace Piece

theorem fits_quotation (cs : List Char) :
    Fits (quotation cs).kind (quotation cs).lexeme (quotation cs).rest ∧
      Token.spelled (quotation cs).kind (quotation cs).lexeme ++ (quotation cs).rest =
        '"' :: cs := by
  have hq : ∀ c ∈ cs.takeWhile quotable, c ≠ '"' ∧ c ≠ '\n' :=
    forall_quotable_iff.mp fun c hc => List.mem_takeWhile_imp hc
  have hcs : cs.takeWhile quotable ++ cs.dropWhile quotable = cs :=
    List.takeWhile_append_dropWhile
  have hstop : Stops quotable (cs.dropWhile quotable) := stops_dropWhile quotable cs
  unfold quotation
  split
  · next rest heq =>
    rw [heq] at hcs
    exact ⟨.quotation hq, by simp [Token.spelled, hcs]⟩
  · next rest hne =>
    refine ⟨.unclosed hq ?_, by simp [Token.spelled, hcs]⟩
    cases hd : cs.dropWhile quotable with
    | nil => exact .inl rfl
    | cons c rest =>
      -- the character that ends the quotable ones is no quote here, so it breaks the line
      have hc : c ≠ '"' := by
        intro hc
        rw [hc] at hd
        exact hne rest hd
      rw [hd] at hstop
      have hn : c = '\n' := by simpa [stops_cons, quotable, hc] using hstop
      exact .inr (by rw [hn, List.head?_cons])

theorem fits_word {c : Char} {cs : List Char} (hc : wordStart c = true) :
    Fits (word c cs).kind (word c cs).lexeme (word c cs).rest ∧
      Token.spelled (word c cs).kind (word c cs).lexeme ++ (word c cs).rest = c :: cs := by
  have hn := Kind.ofWord_names (String.ofList (c :: cs.takeWhile wordContinue))
  have hw : IsWord (c :: cs.takeWhile wordContinue) :=
    ⟨c, _, rfl, hc, fun d hd => List.mem_takeWhile_imp hd⟩
  simp only [word]
  refine ⟨.word hw hn (stops_dropWhile wordContinue cs), ?_⟩
  rw [Token.spelled, if_neg hn.ne_quotation, List.cons_append, List.takeWhile_append_dropWhile]

theorem fits_front {c : Char} (cs : List Char) (h : isGap c = false) :
    Fits (front c cs).kind (front c cs).lexeme (front c cs).rest ∧
      Token.spelled (front c cs).kind (front c cs).lexeme ++ (front c cs).rest = c :: cs := by
  unfold front
  split
  · next k hk =>
    have hs := Kind.ofPunctuation?_eq_some_iff.mp hk
    have hq : k ≠ .quotation := ne_quotation_of_sign hs
    exact ⟨.sign hs, by simp [Token.spelled, hq]⟩
  · next hk =>
    split
    · next hq =>
      subst hq
      exact fits_quotation cs
    · next hq =>
      split
      · next hw => exact fits_word hw
      · next hw =>
        have hn : c ≠ '\n' := by
          intro hc
          rw [hc] at hk
          cases hk
        have hb : Text.isBlank c = false := by simpa [isGap, hn] using h
        have hs : ∀ k : Kind, k.sign? ≠ some c := fun k hc => by
          rw [Kind.ofPunctuation?_eq_some_iff.mpr hc] at hk
          cases hk
        exact ⟨.stray hb hs hq (Bool.eq_false_iff.mpr hw), by simp [Token.spelled]⟩

end Piece

theorem isGap_space : ∀ c ∈ [' '], isGap c = true := List.all_eq_true.mp (by decide +kernel)

theorem isGap_nil : ∀ c ∈ ([] : List Char), isGap c = true := by simp

namespace Scanner

theorem collect_token {k : Kind} {gap w rest : List Char} (p : Position)
    (hgap : ∀ c ∈ gap, isGap c = true) (h : Fits k w rest) :
    collect [] (reading (gap ++ Token.spelled k w ++ rest) p) =
      ⟨k, String.ofList w, p.past gap⟩ ::
        collect [] (reading rest (p.past (gap ++ Token.spelled k w))) := by
  obtain ⟨c, cs, hcs, hc, hfront⟩ := h.front
  have hstop : Stops isGap (c :: cs) := stops_cons.mpr hc
  have hnext : (reading (gap ++ Token.spelled k w ++ rest) p).next? =
      some (⟨k, String.ofList w, p.past gap⟩,
        reading rest (p.past (gap ++ Token.spelled k w))) := by
    rw [List.append_assoc, hcs, next?, hstop.takeWhile_append hgap, hstop.dropWhile_append hgap]
    simp [hfront, Position.past]
  exact collect_next hnext

theorem collect_gap {gap : List Char} (p : Position) (hgap : ∀ c ∈ gap, isGap c = true) :
    collect [] (reading gap p) = [Token.finish (p.past gap)] := by
  have hnext : (reading gap p).next? = some (Token.finish (p.past gap), finished) := by
    have htake := (stops_nil isGap).takeWhile_append hgap
    have hdrop := (stops_nil isGap).dropWhile_append hgap
    rw [List.append_nil] at htake hdrop
    rw [next?, htake, hdrop]
  rw [collect_next hnext, collect_finished]

/-- In front of `rest` the text is read as tokens of which `P` holds. -/
def Scans (cs rest : List Char) (P : List Token → Prop) : Prop :=
  ∀ p, ∃ us q, P us ∧ collect [] (reading (cs ++ rest) p) = us ++ collect [] (reading rest q)

namespace Scans

variable {cs ds rest : List Char} {P Q : List Token → Prop}

theorem imp (h : Scans cs rest P) (hPQ : ∀ us, P us → Q us) : Scans cs rest Q := by
  intro p
  obtain ⟨us, q, hus, hcollect⟩ := h p
  exact ⟨us, q, hPQ us hus, hcollect⟩

theorem nil (h : P []) : Scans [] rest P := fun p => ⟨[], p, h, rfl⟩

theorem append (h : Scans cs (ds ++ rest) P) (h' : Scans ds rest Q) :
    Scans (cs ++ ds) rest fun ws => ∃ us vs, ws = us ++ vs ∧ P us ∧ Q vs := by
  intro p
  obtain ⟨us, q, hus, hcs⟩ := h p
  obtain ⟨vs, r, hvs, hds⟩ := h' q
  refine ⟨us ++ vs, r, ⟨us, vs, rfl, hus, hvs⟩, ?_⟩
  rw [List.append_assoc, hcs, hds, List.append_assoc]

theorem tokenize_eq {source : String} (h : Scans source.toList [] P) :
    ∃ us q, P us ∧ tokenize source = us ++ [Token.finish q] := by
  obtain ⟨us, q, hus, hcollect⟩ := h .start
  rw [List.append_nil, collect_gap q (by simp)] at hcollect
  exact ⟨us, _, hus, hcollect⟩

end Scans

section

variable {k : Kind} {gap rest : List Char} (hgap : ∀ c ∈ gap, isGap c = true)

include hgap

theorem scans_of_fits {w : List Char} (h : Fits k w rest) :
    Scans (gap ++ Token.spelled k w) rest fun us =>
      ∃ t : Token, us = [t] ∧ t.kind = k ∧ t.lexeme = String.ofList w := by
  intro p
  exact ⟨_, _, ⟨_, rfl, rfl, rfl⟩, collect_token p hgap h⟩

theorem scans_name {w : String} (hw : IsName w) (hrest : Stops wordContinue rest) :
    Scans (gap ++ w.toList) rest fun us =>
      ∃ t : Token, us = [t] ∧ t.kind = .identifier ∧ t.lexeme = w := by
  obtain ⟨hword, hnames⟩ := isName_iff.mp hw
  have hfits : Fits .identifier w.toList rest :=
    .word hword (by rwa [String.ofList_toList]) hrest
  have h := scans_of_fits hgap hfits
  rwa [String.ofList_toList] at h

theorem scans_keyword {v : String} (hv : k.spelling? = some v) (hrest : Stops wordContinue rest) :
    Scans (gap ++ v.toList) rest fun us => ∃ t : Token, us = [t] ∧ t.kind = k := by
  have hnames := Kind.names_of_spelling hv
  have hfits : Fits k v.toList rest :=
    .word (isWord_of_spelling hv) (by rwa [String.ofList_toList]) hrest
  have h := scans_of_fits hgap hfits
  rw [Token.spelled, if_neg hnames.ne_quotation] at h
  exact h.imp fun us ⟨t, hus, hk, _⟩ => ⟨t, hus, hk⟩

theorem scans_sign {c : Char} (hc : k.sign? = some c) (rest : List Char) :
    Scans (gap ++ [c]) rest fun us => ∃ t : Token, us = [t] ∧ t.kind = k := by
  have hfits : Fits k [c] rest := .sign hc
  have h := scans_of_fits hgap hfits
  rw [Token.spelled, if_neg (ne_quotation_of_sign hc)] at h
  exact h.imp fun us ⟨t, hus, hk, _⟩ => ⟨t, hus, hk⟩

end

theorem gap_or_fits (cs : List Char) :
    (∀ c ∈ cs, isGap c = true) ∨
      ∃ gap k w rest, (∀ c ∈ gap, isGap c = true) ∧ Fits k w rest ∧
        cs = gap ++ Token.spelled k w ++ rest ∧ rest.length < cs.length := by
  cases hd : cs.dropWhile isGap with
  | nil => exact .inl (List.dropWhile_eq_nil_iff.mp hd)
  | cons c ds =>
    have hc : isGap c = false := by
      have hstop := stops_dropWhile isGap cs
      rw [hd] at hstop
      exact stops_cons.mp hstop
    obtain ⟨hfits, hspelled⟩ := Piece.fits_front ds hc
    have hcs : cs.takeWhile isGap ++ cs.dropWhile isGap = cs := List.takeWhile_append_dropWhile
    have hrest := Piece.rest_front_le c ds
    refine .inr ⟨cs.takeWhile isGap, _, _, _, fun c hc => List.mem_takeWhile_imp hc, hfits, ?_, ?_⟩
    · rw [List.append_assoc, hspelled, ← hd, hcs]
    · rw [← hcs, hd, List.length_append, List.length_cons]
      omega

@[elab_as_elim]
theorem text_induction {motive : List Char → Prop}
    (gap : ∀ cs : List Char, (∀ c ∈ cs, isGap c = true) → motive cs)
    (token : ∀ (gap : List Char) (k : Kind) (w rest : List Char), (∀ c ∈ gap, isGap c = true) →
      Fits k w rest → motive rest → motive (gap ++ Token.spelled k w ++ rest))
    (cs : List Char) : motive cs := by
  rcases gap_or_fits cs with hgap | ⟨front, k, w, rest, hgap, hfits, rfl, hlt⟩
  · exact gap cs hgap
  · exact token front k w rest hgap hfits (text_induction gap token rest)
termination_by cs.length

end Scanner

/-- What a cut says of a token: all but its line and column. -/
def Token.view (t : Token) : Kind × String × Nat := (t.kind, t.lexeme, t.position.offset)

theorem Token.view_eq_iff {t u : Token} :
    t.view = u.view ↔
      t.kind = u.kind ∧ t.lexeme = u.lexeme ∧ t.position.offset = u.position.offset := by
  simp [view]

namespace Cut

theorem cut_collect {before cs : List Char} {p : Position} (hp : p.offset = bytes before) :
    Cut before cs (Scanner.collect [] (.reading cs p)) := by
  induction cs using Scanner.text_induction generalizing before p with
  | gap cs hgap =>
    rw [Scanner.collect_gap p hgap]
    refine .finish hgap rfl rfl ?_
    change (p.past cs).offset = _
    rw [Position.offset_past, hp, bytes_append]
  | token gap k w rest hgap hfits ih =>
    rw [Scanner.collect_token p hgap hfits]
    have hoff : (p.past (gap ++ Token.spelled k w)).offset =
        bytes (before ++ gap ++ Token.spelled k w) := by
      rw [Position.offset_past, hp, List.append_assoc, bytes_append before]
    have htail : Cut _ rest _ := ih hoff
    have hraw : Token.raw ⟨k, String.ofList w, p.past gap⟩ = Token.spelled k w := by
      rw [Token.raw, String.toList_ofList]
    rw [← hraw] at htail ⊢
    refine .token hgap ?_ ?_ htail
    · change (p.past gap).offset = _
      rw [Position.offset_past, hp, bytes_append]
    · rwa [String.toList_ofList]

theorem view_eq {before cs : List Char} {ts : List Token} (h : Cut before cs ts) {p : Position}
    (hp : p.offset = bytes before) :
    ts.map Token.view = (Scanner.collect [] (.reading cs p)).map Token.view := by
  induction h generalizing p with
  | @finish before gap t hgap hk hw hoff =>
    rw [Scanner.collect_gap p hgap]
    simp [Token.view, Token.finish, hk, hw, hoff, Position.offset_past, hp, bytes_append]
  | @token before gap t rest ts hgap hoff hfits _ ih =>
    have hq : (p.past (gap ++ t.raw)).offset = bytes (before ++ gap ++ t.raw) := by
      rw [Position.offset_past, hp, List.append_assoc, bytes_append before]
    rw [Token.raw, Scanner.collect_token p hgap hfits, List.map_cons, List.map_cons, ih hq]
    simp [Token.view, hoff, Position.offset_past, hp, bytes_append, Token.raw]

theorem congr {before cs : List Char} {ts us : List Token} (h : Cut before cs ts)
    (hview : ts.map Token.view = us.map Token.view) : Cut before cs us := by
  induction h generalizing us with
  | @finish before gap t hgap hk hw hoff =>
    obtain ⟨u, vs, rfl, hu, hvs⟩ := List.map_eq_cons_iff.mp hview.symm
    obtain rfl := List.map_eq_nil_iff.mp hvs
    obtain ⟨hku, hwu, hou⟩ := Token.view_eq_iff.mp hu
    exact .finish hgap (hku.trans hk) (hwu.trans hw) (hou.trans hoff)
  | @token before gap t rest ts hgap hoff hfits _ ih =>
    obtain ⟨u, vs, rfl, hu, hvs⟩ := List.map_eq_cons_iff.mp hview.symm
    obtain ⟨hku, hwu, hou⟩ := Token.view_eq_iff.mp hu
    have hraw : t.raw = u.raw := by rw [Token.raw, Token.raw, hku, hwu]
    rw [← hku, ← hwu] at hfits
    rw [hraw] at ih ⊢
    exact .token hgap (hou.trans hoff) hfits (ih hvs.symm)

theorem ended {before cs : List Char} {ts : List Token} (h : Cut before cs ts) : Ended ts := by
  induction h with
  | @finish _ _ t _ hk _ _ => exact ⟨[], t, rfl, hk, by simp⟩
  | @token _ _ t _ _ _ _ hfits _ ih =>
    obtain ⟨us, z, rfl, hz, hus⟩ := ih
    exact ⟨t :: us, z, rfl, hz, List.forall_mem_cons.mpr ⟨hfits.kind_ne_end, hus⟩⟩

theorem fits_of_mem {before cs : List Char} {ts : List Token} (h : Cut before cs ts) {t : Token}
    (ht : t ∈ ts) : t.kind = .endOfInput ∨ ∃ rest, Fits t.kind t.lexeme.toList rest := by
  induction h with
  | finish _ hk _ _ =>
    obtain rfl := List.mem_singleton.mp ht
    exact .inl hk
  | @token _ _ _ rest _ _ _ hfits _ ih =>
    rcases List.mem_cons.mp ht with rfl | ht
    · exact .inr ⟨rest, hfits⟩
    · exact ih ht

theorem isName_of_mem {before cs : List Char} {ts : List Token} (h : Cut before cs ts) {t : Token}
    (ht : t ∈ ts) (hk : t.kind = .identifier) : IsName t.lexeme := by
  rcases h.fits_of_mem ht with hend | ⟨rest, hfits⟩
  · rw [hk] at hend
    cases hend
  · rw [hk] at hfits
    have hname := hfits.isName
    rwa [String.ofList_toList] at hname

theorem quotable_of_mem {before cs : List Char} {ts : List Token} (h : Cut before cs ts)
    {t : Token} (ht : t ∈ ts) (hk : t.kind = .quotation) :
    ∀ c ∈ t.lexeme.toList, c ≠ '"' ∧ c ≠ '\n' := by
  rcases h.fits_of_mem ht with hend | ⟨rest, hfits⟩
  · rw [hk] at hend
    cases hend
  · rw [hk] at hfits
    exact hfits.within_quotes

end Cut

theorem cut_tokenize (source : String) : Cut [] source.toList (tokenize source) :=
  Cut.cut_collect rfl

/-- The tokens of a source are the cut of it, and the only one. -/
theorem cut_iff_view_tokenize (source : String) (ts : List Token) :
    Cut [] source.toList ts ↔ ts.map Token.view = (tokenize source).map Token.view :=
  ⟨fun h => h.view_eq rfl, fun h => (cut_tokenize source).congr h.symm⟩

end EntityChat
