import EntityChat.Proofs.Provenance
import EntityChat.Token.InPlace

/-!
Cutting in place gives the tokens of the source, and no call fails. The pointer stands in front of
the text that is still ahead and counts the bytes behind it, so what it cuts out lies between two
places where characters meet.
-/

namespace EntityChat

structure Bounds (source : String) (i j : Nat) : Prop where
  ordered : i ≤ j
  within : j ≤ source.utf8ByteSize
  first : (⟨i⟩ : String.Pos.Raw).IsValid source
  last : (⟨j⟩ : String.Pos.Raw).IsValid source

theorem isSome_slice?_iff {source : String} {i j : Nat} :
    (slice? source i j).isSome = true ↔ Bounds source i j := by
  rw [slice?]
  constructor
  · intro h
    split at h
    · next hvalid => exact ⟨hvalid.2.2, hvalid.2.1.le_rawEndPos, hvalid.1, hvalid.2.1⟩
    · cases h
  · intro h
    rw [dif_pos ⟨h.first, h.last, h.ordered⟩]
    rfl

def Position.Faces (p : Position) (source : String) (rest : List Char) : Prop :=
  ∃ before, source.toList = before ++ rest ∧ p.offset = bytes before

namespace Position.Faces

variable {p : Position} {source : String} {text rest : List Char}

theorem start (source : String) : Position.start.Faces source source.toList := ⟨[], rfl, rfl⟩

theorem past (h : p.Faces source (text ++ rest)) : (p.past text).Faces source rest := by
  obtain ⟨before, hsource, hoffset⟩ := h
  refine ⟨before ++ text, by rw [hsource, List.append_assoc], ?_⟩
  rw [offset_past, hoffset, bytes_append]

theorem after {c : Char} (h : p.Faces source (c :: rest)) : (p.after c).Faces source rest := by
  have hcons : p.Faces source ([c] ++ rest) := h
  exact hcons.past

theorem isValid (h : p.Faces source rest) : (⟨p.offset⟩ : String.Pos.Raw).IsValid source := by
  obtain ⟨before, hsource, hoffset⟩ := h
  refine String.Pos.Raw.isValid_iff_exists_append.mpr ⟨.ofList before, .ofList rest, ?_, ?_⟩
  · rw [← String.toList_inj, hsource]
    simp
  · rw [hoffset]
    rfl

theorem offset_nil (h : p.Faces source []) : p.offset = source.utf8ByteSize := by
  obtain ⟨before, hsource, hoffset⟩ := h
  rw [List.append_nil] at hsource
  rw [hoffset, bytes, ← hsource, String.ofList_toList]

theorem bounds (h : p.Faces source (text ++ rest)) :
    Bounds source p.offset (p.past text).offset := by
  refine ⟨?_, h.past.isValid.le_rawEndPos, h.isValid, h.past.isValid⟩
  rw [offset_past]
  exact Nat.le_add_right _ _

theorem slice?_eq (h : p.Faces source (text ++ rest)) :
    slice? source p.offset (p.past text).offset = some (String.ofList text) := by
  have hbounds := h.bounds
  rw [slice?, dif_pos ⟨hbounds.first, hbounds.last, hbounds.ordered⟩, Option.some.injEq,
    ← String.toByteArray_inj, String.toByteArray_extract]
  obtain ⟨before, hsource, hoffset⟩ := h
  simp only [offset_past, hoffset]
  exact extract_toUTF8 hsource

end Position.Faces

namespace Pointer

def facing (p : Position) (rest : List Char) : Pointer :=
  ⟨indexed p.offset rest, p.line, p.column, false⟩

section

variable {source : String} {p : Position} {c : Char} {rest : List Char}

theorem bump_facing : (facing p (c :: rest)).bump = facing (p.after c) rest := by
  simp only [bump, facing, indexed, Position.after]
  split <;> rfl

theorem bumpWhile_facing_cons (more : Char → Bool) : (facing p (c :: rest)).bumpWhile more =
    if more c then (facing (p.after c) rest).bumpWhile more else facing p (c :: rest) := by
  rw [bumpWhile, ← bump_facing]
  rfl

theorem bumpWhile_facing {more : Char → Bool} {text : List Char}
    (htext : ∀ c ∈ text, more c = true) (hrest : Stops more rest) :
    (facing p (text ++ rest)).bumpWhile more = facing (p.past text) rest := by
  induction text generalizing p with
  | nil =>
    cases rest with
    | nil =>
      rw [List.nil_append, bumpWhile]
      rfl
    | cons c rest =>
      rw [List.nil_append, bumpWhile_facing_cons, stops_cons.mp hrest]
      rfl
  | cons c text ih =>
    obtain ⟨hc, htext⟩ := List.forall_mem_cons.mp htext
    rw [List.cons_append, bumpWhile_facing_cons, if_pos hc, ih htext]
    rfl

theorem offset_facing (h : p.Faces source rest) : (facing p rest).offset source = p.offset := by
  cases rest with
  | nil => exact h.offset_nil.symm
  | cons c rest => rfl

theorem position_facing (h : p.Faces source rest) : (facing p rest).position source = p := by
  rw [position, offset_facing h]
  rfl

end

end Pointer

/-- The call gives the token, and what it has cut out for it is a text of the source. -/
structure Call.Gives (source : String) (t : Token) (after : Pointer) (call : Call) : Prop where
  token : call.token? = some t
  bounds : ∀ i j, call.part = some (i, j) → Bounds source i j
  after : call.after = after

namespace Pointer

section

variable {source : String} {p : Position} {c : Char} {text rest : List Char}

theorem cut_facing (h : p.Faces source (text ++ rest)) (token : String → Token) (after : Pointer) :
    ∃ call, cut source p.offset (p.past text).offset token after = some call ∧
      call.Gives source (token (.ofList text)) after := by
  refine ⟨⟨some (token (.ofList text)), some (p.offset, (p.past text).offset), after⟩, ?_, rfl,
    fun i j hij => ?_, rfl⟩
  · rw [cut, h.slice?_eq]
    rfl
  · obtain ⟨rfl, rfl⟩ := Prod.mk.inj (Option.some.inj hij)
    exact h.bounds

theorem word_facing (hp : p.Faces source (text ++ rest)) (htext : IsWord text)
    (hrest : Stops wordContinue rest) :
    ∃ call, word source p (facing p (text ++ rest)) = some call ∧
      call.Gives source ⟨.ofWord (.ofList text), .ofList text, p⟩ (facing (p.past text) rest) := by
  rw [word, bumpWhile_facing htext.continues hrest]
  simp only [offset_facing hp.past]
  exact cut_facing hp _ _

theorem quotation_facing (hp : p.Faces source ('"' :: (text ++ '"' :: rest)))
    (htext : ∀ c ∈ text, quotable c = true) :
    ∃ call, quotation source p (facing p ('"' :: (text ++ '"' :: rest))) = some call ∧
      call.Gives source ⟨.quotation, .ofList text, p⟩
        (facing (p.past ('"' :: (text ++ ['"']))) rest) := by
  have hopened : (p.after '"').Faces source (text ++ '"' :: rest) := hp.after
  have hstop : Stops quotable ('"' :: rest) := stops_cons.mpr rfl
  have hafter : ((p.after '"').past text).after '"' = p.past ('"' :: (text ++ ['"'])) := by
    simp [Position.past]
  simp only [quotation, bump_facing, bumpWhile_facing htext hstop, offset_facing hopened,
    offset_facing hopened.past, ← hafter]
  exact cut_facing hopened _ _

theorem unclosed_facing (hp : p.Faces source ('"' :: (text ++ rest)))
    (htext : ∀ c ∈ text, quotable c = true) (hrest : rest = [] ∨ rest.head? = some '\n') :
    ∃ call, quotation source p (facing p ('"' :: (text ++ rest))) = some call ∧
      call.Gives source ⟨.unrecognized, .ofList ('"' :: text), p⟩
        (facing (p.past ('"' :: text)) rest) := by
  have hopened : (p.after '"').Faces source (text ++ rest) := hp.after
  have hstop := stops_quotable hrest
  simp only [quotation, bump_facing, bumpWhile_facing htext hstop, offset_facing hopened,
    offset_facing hopened.past]
  have hquoted : p.Faces source (('"' :: text) ++ rest) := hp
  rcases hrest with rfl | hrest
  · exact cut_facing hquoted _ _
  · obtain ⟨rest, rfl⟩ := List.head?_eq_some_iff.mp hrest
    exact cut_facing hquoted _ _

theorem sign_facing (hp : p.Faces source (c :: rest)) (k : Kind) :
    Call.Gives source ⟨k, .ofList [c], p⟩ (facing (p.past [c]) rest)
      ⟨some ⟨k, c.toString, (facing p (c :: rest)).position source⟩, none,
        (facing p (c :: rest)).bump⟩ := by
  rw [position_facing hp, bump_facing]
  exact ⟨rfl, by simp, rfl⟩

theorem front_facing {k : Kind} {w : List Char} (h : Fits k w rest)
    (hp : p.Faces source (Token.spelled k w ++ rest)) :
    ∃ c cs, Token.spelled k w ++ rest = c :: cs ∧ isGap c = false ∧
      ∃ call, front source (facing p (c :: cs)) c = some call ∧
        call.Gives source ⟨k, .ofList w, p⟩ (facing (p.past (Token.spelled k w)) rest) := by
  obtain ⟨c, cs, hcs, hgap, -⟩ := h.front
  refine ⟨c, cs, hcs, hgap, ?_⟩
  rw [hcs] at hp
  have hplace := position_facing hp
  cases h with
  | sign hk =>
    rw [Token.spelled, if_neg (ne_quotation_of_sign hk)] at hcs ⊢
    obtain ⟨rfl, rfl⟩ := List.cons.inj hcs
    refine ⟨_, ?_, sign_facing hp k⟩
    rw [front, Kind.ofPunctuation?_eq_some_iff.mpr hk]
  | word hw hk hr =>
    rw [Token.spelled, if_neg hk.ne_quotation] at hcs ⊢
    have hc : wordStart c = true := by
      obtain ⟨d, ds, rfl, hd, -⟩ := hw
      rwa [← (List.cons.inj hcs).1]
    have hword := wordContinue_of_wordStart hc
    simp only [front, Fits.ofPunctuation?_eq_none (sign_ne_of_wordContinue hword),
      ne_quote_of_wordContinue hword, if_false, hc, if_true, hplace]
    rw [← hcs] at hp ⊢
    rw [hk.eq_ofWord]
    exact word_facing hp hw hr
  | quotation hq =>
    rw [Token.spelled, if_pos rfl] at hcs ⊢
    obtain ⟨rfl, htail⟩ := List.cons.inj hcs
    obtain rfl : cs = w ++ '"' :: rest := htail.symm.trans (List.append_assoc _ _ _)
    have hk : Kind.ofPunctuation? '"' = none := rfl
    simp only [front, hk, if_true, hplace]
    exact quotation_facing hp (forall_quotable_iff.mpr hq)
  | stray hb hk hq hw =>
    rw [Token.spelled, if_neg (by decide)] at hcs ⊢
    obtain ⟨rfl, rfl⟩ := List.cons.inj hcs
    refine ⟨_, ?_, sign_facing hp .unrecognized⟩
    simp only [front, Fits.ofPunctuation?_eq_none hk, hq, hw, if_false, Bool.false_eq_true]
  | unclosed hq hr =>
    rw [Token.spelled, if_neg (by decide)] at hcs ⊢
    obtain ⟨rfl, rfl⟩ := List.cons.inj hcs
    have hk : Kind.ofPunctuation? '"' = none := rfl
    simp only [front, hk, if_true, hplace]
    exact unclosed_facing hp (forall_quotable_iff.mpr hq) hr

section

variable {gap : List Char} (hgap : ∀ c ∈ gap, isGap c = true)

include hgap

theorem next_facing (hrest : Stops isGap rest) : (facing p (gap ++ rest)).next source =
    match rest with
    | c :: cs => front source (facing (p.past gap) (c :: cs)) c
    | [] => some ⟨some (.finish ((facing (p.past gap) []).position source)), none,
        { facing (p.past gap) [] with done := true }⟩ := by
  rw [next, bumpWhile_facing hgap hrest]
  cases rest <;> rfl

theorem next_token {k : Kind} {w : List Char} (h : Fits k w rest)
    (hp : p.Faces source (gap ++ (Token.spelled k w ++ rest))) :
    ∃ call, (facing p (gap ++ (Token.spelled k w ++ rest))).next source = some call ∧
      call.Gives source ⟨k, .ofList w, p.past gap⟩
        (facing ((p.past gap).past (Token.spelled k w)) rest) := by
  obtain ⟨c, cs, hcs, hc, hfront⟩ := front_facing h hp.past
  rw [hcs, next_facing hgap (stops_cons.mpr hc)]
  exact hfront

theorem next_gap (hp : p.Faces source gap) : ∃ call, (facing p gap).next source = some call ∧
    call.Gives source (.finish (p.past gap)) { facing (p.past gap) [] with done := true } := by
  rw [← List.append_nil gap] at hp ⊢
  refine ⟨_, next_facing hgap (stops_nil isGap), ?_⟩
  rw [position_facing hp.past, List.append_nil]
  exact ⟨rfl, by simp, rfl⟩

end

end

inductive Ahead (source : String) : Pointer → List Token → Prop
  | reading {p rest} : p.Faces source rest →
      Ahead source (facing p rest) (Scanner.collect [] (.reading rest p))
  | done {p} : p.done = true → Ahead source p []

structure Proper (source : String) (p : Pointer) (call : Call) : Prop where
  bounds : ∀ i j, call.part = some (i, j) → Bounds source i j
  offset : ∀ t, call.token? = some t → t.kind ≠ .endOfInput →
    p.offset source < call.after.offset source

theorem Ahead.next {source : String} {p : Pointer} {ts : List Token} (h : Ahead source p ts) :
    ∃ call, p.next source = some call ∧ Proper source p call ∧ call.token? = ts.head? ∧
      Ahead source call.after ts.tail := by
  cases h with
  | @reading p rest hp =>
    rcases Scanner.gap_or_fits rest with hgap | ⟨gap, k, w, rest, hgap, hfits, rfl, -⟩
    · obtain ⟨call, hcall, htoken, hbounds, hafter⟩ := next_gap hgap hp
      rw [Scanner.collect_gap p hgap]
      refine ⟨call, hcall, ⟨hbounds, ?_⟩, htoken, ?_⟩
      · intro t ht hk
        rw [htoken] at ht
        obtain rfl := Option.some.inj ht
        exact absurd rfl hk
      · rw [hafter]
        exact .done rfl
    · rw [Scanner.collect_token p hgap hfits]
      rw [List.append_assoc] at hp ⊢
      obtain ⟨call, hcall, htoken, hbounds, hafter⟩ := next_token hgap hfits hp
      refine ⟨call, hcall, ⟨hbounds, ?_⟩, htoken, ?_⟩
      · intro t _ _
        have hpos := hfits.bytes_pos
        rw [hafter, offset_facing hp, offset_facing hp.past.past, Position.offset_past,
          Position.offset_past]
        omega
      · rw [hafter, Position.past_append]
        exact .reading hp.past.past
  | done hdone =>
    refine ⟨⟨none, none, p⟩, ?_, ⟨by simp, by simp⟩, rfl, .done hdone⟩
    rw [Pointer.next, if_pos hdone]

inductive Run (source : String) : Pointer → List Token → Pointer → Prop
  | nil {p} : Run source p [] p
  | call {p t ts q call} : p.next source = some call → call.token? = some t →
      Run source call.after ts q → Run source p (t :: ts) q

theorem Ahead.run {source : String} {p q : Pointer} {ts us : List Token} (h : Ahead source p ts)
    (hrun : Run source p us q) : ∃ vs, ts = us ++ vs ∧ Ahead source q vs := by
  -- a call leaves off the first of the tokens ahead, so a run leaves off those that it gives
  induction hrun generalizing ts with
  | nil => exact ⟨ts, rfl, h⟩
  | @call p t us q call hcall htoken _ ih =>
    obtain ⟨call', hcall', -, hhead, htail⟩ := h.next
    obtain rfl := Option.some.inj (hcall.symm.trans hcall')
    obtain ⟨rest, rfl⟩ := List.head?_eq_some_iff.mp (hhead.symm.trans htoken)
    obtain ⟨vs, hvs, hahead⟩ := ih htail
    exact ⟨vs, congrArg (t :: ·) hvs, hahead⟩

theorem Ahead.exists_run {source : String} {p : Pointer} {ts : List Token}
    (h : Ahead source p ts) : ∃ q, Run source p ts q := by
  induction ts generalizing p with
  | nil => exact ⟨p, .nil⟩
  | cons t ts ih =>
    obtain ⟨call, hcall, -, htoken, htail⟩ := h.next
    obtain ⟨q, hq⟩ := ih htail
    exact ⟨q, .call hcall htoken hq⟩

theorem ahead_ofSource (source : String) :
    Ahead source (ofSource source) (tokenize source) := .reading (.start source)

end Pointer

theorem Scanner.length_collect_le (cs : List Char) (p : Position) :
    (collect [] (reading cs p)).length ≤ cs.length + 1 := by
  induction cs using text_induction generalizing p with
  | gap cs hgap =>
    rw [collect_gap p hgap]
    simp
  | token gap k w rest hgap hfits ih =>
    have hrest := ih (p.past (gap ++ Token.spelled k w))
    have hspelled := List.length_pos_of_ne_nil hfits.spelled_ne_nil
    rw [collect_token p hgap hfits, List.length_cons, List.length_append, List.length_append]
    omega

namespace Pointer

/-- No call asks for a text that there is not, and each moves on until the end. So the calls give
the tokens of the source and come to an end, after as many as there are characters and one more at
the most. -/
theorem next_never_fails (source : String) :
    (∀ i j, (slice? source i j).isSome = true ↔ Bounds source i j) ∧
    (∀ ts p, Run source (ofSource source) ts p →
      ∃ call, p.next source = some call ∧
        (∀ i j, call.part = some (i, j) → Bounds source i j) ∧
        (∀ t, call.token? = some t → t.kind ≠ .endOfInput →
          p.offset source < call.after.offset source) ∧
        (call.token? = none ↔ ts = tokenize source) ∧ ts.length ≤ source.length + 1) ∧
    ∃ p, Run source (ofSource source) (tokenize source) p := by
  refine ⟨fun i j => isSome_slice?_iff, fun ts p hrun => ?_, (ahead_ofSource source).exists_run⟩
  obtain ⟨us, htokens, hahead⟩ := (ahead_ofSource source).run hrun
  obtain ⟨call, hcall, hproper, hhead, -⟩ := hahead.next
  refine ⟨call, hcall, hproper.bounds, hproper.offset, ?_, ?_⟩
  · rw [hhead, List.head?_eq_none_iff, htokens, List.self_eq_append_right]
  · have hlength : (tokenize source).length ≤ source.toList.length + 1 :=
      Scanner.length_collect_le _ _
    rw [htokens, List.length_append, String.length_toList] at hlength
    omega

theorem next_never_fails_unclosed :
    let source := "é\"ö"
    let p : Pointer := ⟨[(2, '"'), (3, 'ö')], 1, 2, false⟩
    let q : Pointer := ⟨[], 1, 4, false⟩
    p.next source = some ⟨some ⟨.unrecognized, "\"ö", ⟨2, 1, 2⟩⟩, some (2, 5), q⟩ ∧
      Bounds source 2 5 ∧ p.offset source < q.offset source ∧ slice? source 1 5 = none := by
  intro source p q
  let t : Token := ⟨.identifier, "é", .start⟩
  have hfirst : (ofSource source).next source = some ⟨some t, some (0, 2), p⟩ := by decide +kernel
  have hnext : p.next source = some ⟨some ⟨.unrecognized, "\"ö", ⟨2, 1, 2⟩⟩, some (2, 5), q⟩ := by
    decide +kernel
  have hrun : Run source (ofSource source) [t] p := .call hfirst rfl .nil
  obtain ⟨-, hcalls, -⟩ := next_never_fails source
  obtain ⟨call, hcall, hbounds, hoffset, -⟩ := hcalls _ _ hrun
  obtain rfl := Option.some.inj (hnext.symm.trans hcall)
  exact ⟨hnext, hbounds 2 5 rfl, hoffset _ rfl (by decide), by decide +kernel⟩

end Pointer

end EntityChat
