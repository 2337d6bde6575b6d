import EntityChat.Token.Word

/-!
The classes of characters keep out of each other's way: what may stand inside a word is no blank,
no punctuation and no quote. Of the keywords a word is at most one.
-/

namespace EntityChat

namespace Text

namespace Span

def apart (s t : Span) : Bool := s.last < t.first || t.last < s.first

theorem not_holds_of_apart {s t : Span} {n : Nat} (h : s.apart t = true) (hs : s.holds n) :
    ¬ t.holds n := by
  intro ht
  simp only [apart, Bool.or_eq_true, decide_eq_true_eq] at h
  obtain ⟨hs₁, hs₂⟩ := hs
  obtain ⟨ht₁, ht₂⟩ := ht
  omega

theorem cover_apart {low low' n : Nat} {xs ys : List Span} (hx : ascending low xs = true)
    (hy : ascending low' ys = true) (h : (xs.all fun s => ys.all s.apart) = true)
    (hn : cover xs n = true) : cover ys n = false := by
  obtain ⟨s, hs, hsn⟩ := (cover_iff hx).mp hn
  apply Bool.eq_false_iff.mpr
  intro hyn
  obtain ⟨t, ht, htn⟩ := (cover_iff hy).mp hyn
  have hst := List.all_eq_true.mp (List.all_eq_true.mp h s hs) t ht
  exact not_holds_of_apart hst hsn htn

end Span

theorem not_isAlphabetic_of_isBlank {c : Char} (h : isBlank c = true) : isAlphabetic c = false :=
  Span.cover_apart ascending_blankSpans ascending_alphabeticSpans (by decide +kernel) h

theorem not_isNumeric_of_isBlank {c : Char} (h : isBlank c = true) : isNumeric c = false :=
  Span.cover_apart ascending_blankSpans ascending_numericSpans (by decide +kernel) h

theorem isAlphabetic_of_isAlpha {c : Char} (h : c.isAlpha = true) : isAlphabetic c = true := by
  refine (Span.cover_iff ascending_alphabeticSpans).mpr ?_
  rcases (Bool.or_eq_true _ _).mp h with h | h
  · obtain ⟨hlow, hhigh⟩ := of_decide_eq_true h
    exact ⟨⟨0x41, 0x5A⟩, List.mem_cons_self, UInt32.le_iff_toNat_le.mp hlow,
      UInt32.le_iff_toNat_le.mp hhigh⟩
  · obtain ⟨hlow, hhigh⟩ := (Bool.and_eq_true _ _).mp h
    exact ⟨⟨0x61, 0x7A⟩, List.mem_cons_of_mem _ List.mem_cons_self,
      UInt32.le_iff_toNat_le.mp (of_decide_eq_true hlow),
      UInt32.le_iff_toNat_le.mp (of_decide_eq_true hhigh)⟩

theorem toLower_of_isAlpha {p : Char → Bool} (hp : ∀ c, c.isAlpha = true → p c = true) (c : Char) :
    p c.toLower = p c := by
  unfold Char.toLower
  split
  · next h =>
    have hcapital : c.isUpper = true := decide_eq_true h
    rw [hp c ((Bool.or_eq_true _ _).mpr (.inl hcapital))]
    refine hp _ ((Bool.or_eq_true _ _).mpr (.inr ((Bool.and_eq_true _ _).mpr ?_)))
    simp [UInt32.le_iff_toNat_le] at h ⊢
    omega
  · rfl

theorem sameUpToCase_iff {s t : String} :
    sameUpToCase s t = true ↔ asciiSmall s = asciiSmall t := by
  simp [sameUpToCase]

end Text

theorem wordContinue_of_wordStart {c : Char} (h : wordStart c = true) : wordContinue c = true := by
  simp only [wordStart, Bool.or_eq_true] at h
  simp only [wordContinue, Bool.or_eq_true]
  exact h.imp_left .inl

theorem wordStart_of_isAlpha {c : Char} (h : c.isAlpha = true) : wordStart c = true := by
  simp [wordStart, Text.isAlphabetic_of_isAlpha h]

theorem wordStart_toLower (c : Char) : wordStart c.toLower = wordStart c :=
  Text.toLower_of_isAlpha (fun _ => wordStart_of_isAlpha) c

theorem wordContinue_toLower (c : Char) : wordContinue c.toLower = wordContinue c :=
  Text.toLower_of_isAlpha (fun _ h => wordContinue_of_wordStart (wordStart_of_isAlpha h)) c

theorem not_isBlank_of_wordContinue {c : Char} (h : wordContinue c = true) :
    Text.isBlank c = false := by
  apply Bool.eq_false_iff.mpr
  intro hb
  have ha := Text.not_isAlphabetic_of_isBlank hb
  have hn := Text.not_isNumeric_of_isBlank hb
  have hu : c = '_' := by simpa [wordContinue, ha, hn] using h
  subst hu
  exact absurd hb (by decide +kernel)

theorem not_isGap_of_wordContinue {c : Char} (h : wordContinue c = true) : isGap c = false := by
  simp [isGap, not_isBlank_of_wordContinue h]

theorem not_wordContinue_of_mem {c : Char}
    (h : c ∈ ['\n', '\x7b', '\x7d', '(', ')', ':', ',', '"', ' ']) : wordContinue c = false := by
  have hall : ['\n', '\x7b', '\x7d', '(', ')', ':', ',', '"', ' '].all
      (fun c => !wordContinue c) = true := by decide +kernel
  exact (Bool.not_eq_true' _).mp (List.all_eq_true.mp hall c h)

def Kind.sign? : Kind → Option Char
  | .newline => some '\n'
  | .openBrace => some '\x7b'
  | .closeBrace => some '\x7d'
  | .openParen => some '('
  | .closeParen => some ')'
  | .colon => some ':'
  | .comma => some ','
  | _ => none

theorem Kind.ofPunctuation?_eq_some_iff {k : Kind} {c : Char} :
    ofPunctuation? c = some k ↔ k.sign? = some c := by
  constructor
  · intro h
    unfold ofPunctuation? at h
    split at h <;> cases h <;> rfl
  · intro h
    cases k <;> cases h <;> rfl

theorem Kind.sign_mem {k : Kind} {c : Char} (h : k.sign? = some c) :
    c ∈ ['\n', '\x7b', '\x7d', '(', ')', ':', ','] := by
  cases k <;> cases h <;> decide

theorem Kind.not_isGap_of_sign {k : Kind} {c : Char} (h : k.sign? = some c) : isGap c = false := by
  have hall : ['\n', '\x7b', '\x7d', '(', ')', ':', ','].all (fun c => !isGap c) = true := by
    decide +kernel
  exact (Bool.not_eq_true' _).mp (List.all_eq_true.mp hall c (sign_mem h))

def Kind.spelling? : Kind → Option String
  | .createWord => some "create"
  | .entityWord => some "entity"
  | .uniqueWord => some "unique"
  | .saysWord => some "says"
  | _ => none

/-- The kind under which a word goes: that of the keyword which it spells, if it spells one. -/
def Kind.Names (k : Kind) (w : String) : Prop :=
  (k = .identifier ∨ k.spelling?.isSome) ∧
    ∀ j v, j.spelling? = some v → (k = j ↔ Text.sameUpToCase v w = true)

theorem Kind.spelling_small {k : Kind} {v : String} (h : k.spelling? = some v) :
    Text.asciiSmall v = v := by
  cases k <;> cases h <;> decide

theorem Kind.spelling_inj {j k : Kind} {v : String} (hj : j.spelling? = some v)
    (hk : k.spelling? = some v) : j = k := by
  cases j <;> cases hj <;> cases k <;> first | rfl | simp [spelling?] at hk

theorem Kind.exists_spelling_iff {v : String} :
    (∃ k : Kind, k.spelling? = some v) ↔ v ∈ ["create", "entity", "unique", "says"] := by
  constructor
  · intro h
    obtain ⟨k, hk⟩ := h
    cases k <;> cases hk <;> simp
  · intro h
    simp only [List.mem_cons, List.not_mem_nil, or_false] at h
    rcases h with rfl | rfl | rfl | rfl
    · exact ⟨.createWord, rfl⟩
    · exact ⟨.entityWord, rfl⟩
    · exact ⟨.uniqueWord, rfl⟩
    · exact ⟨.saysWord, rfl⟩

theorem Kind.spelling_ne_identifier {k : Kind} {v : String} (h : k.spelling? = some v) :
    k ≠ .identifier := by
  intro hk
  rw [hk] at h
  cases h

theorem mem_keywords_iff {v : String} {k : Kind} :
    (v, k) ∈ keywords ↔ k.spelling? = some v := by
  constructor
  · intro h
    simp only [keywords, List.mem_cons, Prod.mk.injEq, List.not_mem_nil, or_false] at h
    rcases h with ⟨rfl, rfl⟩ | ⟨rfl, rfl⟩ | ⟨rfl, rfl⟩ | ⟨rfl, rfl⟩ <;> rfl
  · intro h
    cases k <;> cases h <;> simp [keywords]

theorem Kind.eq_of_sameUpToCase {j k : Kind} {u v w : String} (hj : j.spelling? = some u)
    (hk : k.spelling? = some v) (hu : Text.sameUpToCase u w = true)
    (hv : Text.sameUpToCase v w = true) : j = k := by
  have huv : u = v := by
    rw [← spelling_small hj, ← spelling_small hk, Text.sameUpToCase_iff.mp hu,
      Text.sameUpToCase_iff.mp hv]
  subst huv
  exact spelling_inj hj hk

theorem keyword?_eq_some_iff {w : String} {k : Kind} :
    keyword? w = some k ↔ ∃ v, k.spelling? = some v ∧ Text.sameUpToCase v w = true := by
  constructor
  · intro h
    obtain ⟨⟨v, j⟩, hfind, hj⟩ := Option.map_eq_some_iff.mp h
    subst hj
    have hvw := List.find?_some hfind
    exact ⟨v, mem_keywords_iff.mp (List.mem_of_find?_eq_some hfind), hvw⟩
  · intro h
    obtain ⟨v, hv, hw⟩ := h
    have hsome : (keywords.find? fun k => Text.sameUpToCase k.1 w).isSome = true :=
      List.find?_isSome.mpr ⟨(v, k), mem_keywords_iff.mpr hv, hw⟩
    obtain ⟨⟨u, j⟩, hfind⟩ := Option.isSome_iff_exists.mp hsome
    have hj := mem_keywords_iff.mp (List.mem_of_find?_eq_some hfind)
    have huw := List.find?_some hfind
    have hjk : j = k := Kind.eq_of_sameUpToCase hj hv huw hw
    rw [keyword?, hfind, ← hjk]
    rfl

theorem Kind.identifier_names_iff {w : String} :
    identifier.Names w ↔
      ∀ v ∈ ["create", "entity", "unique", "says"], Text.sameUpToCase v w = false := by
  constructor
  · intro h v hv
    obtain ⟨k, hk⟩ := exists_spelling_iff.mpr hv
    apply Bool.eq_false_iff.mpr
    intro hw
    exact spelling_ne_identifier hk ((h.2 k v hk).mpr hw).symm
  · intro h
    refine ⟨.inl rfl, fun k v hk => ⟨fun hi => ?_, fun hw => ?_⟩⟩
    · exact absurd hi.symm (spelling_ne_identifier hk)
    · rw [h v (exists_spelling_iff.mp ⟨k, hk⟩)] at hw
      cases hw

theorem Kind.names_of_spelling {k : Kind} {v : String} (h : k.spelling? = some v) : k.Names v := by
  have hv : Text.sameUpToCase v v = true := Text.sameUpToCase_iff.mpr rfl
  refine ⟨.inr (by simp [h]), fun j u hj => ⟨fun hkj => ?_, fun hu => ?_⟩⟩
  · subst hkj
    rwa [← Option.some.inj (h.symm.trans hj)]
  · exact eq_of_sameUpToCase h hj hv hu

theorem Kind.Names.ne_quotation {k : Kind} {w : String} (h : k.Names w) : k ≠ .quotation := by
  intro hk
  subst hk
  rcases h.1 with h | h <;> simp [spelling?] at h

theorem Kind.ofWord_names (w : String) : (ofWord w).Names w := by
  cases h : keyword? w with
  | none =>
    have hid : ofWord w = .identifier := by simp [ofWord, h]
    refine ⟨.inl hid, fun j v hj => ⟨fun hk => ?_, fun hw => ?_⟩⟩
    · rw [← hk, hid] at hj
      cases hj
    · rw [keyword?_eq_some_iff.mpr ⟨v, hj, hw⟩] at h
      cases h
  | some k =>
    have hk : ofWord w = k := by simp [ofWord, h]
    obtain ⟨u, hu, huw⟩ := keyword?_eq_some_iff.mp h
    rw [hk]
    refine ⟨.inr (by simp [hu]), fun j v hj => ⟨fun hkj => ?_, fun hw => ?_⟩⟩
    · subst hkj
      rwa [← Option.some.inj (hu.symm.trans hj)]
    · exact eq_of_sameUpToCase hu hj huw hw

theorem Kind.Names.eq_ofWord {k : Kind} {w : String} (h : k.Names w) : k = ofWord w := by
  have hw := ofWord_names w
  rcases h.1 with hk | hk
  · rcases hw.1 with hj | hj
    · rw [hk, hj]
    · obtain ⟨v, hv⟩ := Option.isSome_iff_exists.mp hj
      exact (h.2 _ v hv).mpr ((hw.2 _ v hv).mp rfl)
  · obtain ⟨v, hv⟩ := Option.isSome_iff_exists.mp hk
    exact ((hw.2 _ v hv).mpr ((h.2 _ v hv).mp rfl)).symm

end EntityChat
