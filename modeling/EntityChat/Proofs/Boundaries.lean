import EntityChat.Proofs.Moving

/-!
Where a text can be cut in two and each part be read for itself. It can unless a word or an open
quotation stands at the end of the first part and the second part goes on with it. So a line break
is always a place for a cut.
-/

namespace EntityChat

def firstLine (cs : List Char) : List Char := cs.takeWhile (· ≠ '\n')

theorem bytes_le_firstLine_iff {cs ds : List Char} :
    bytes cs ≤ bytes (firstLine (cs ++ ds)) ↔ '\n' ∉ cs := by
  have hfirst {es fs : List Char} (hes : '\n' ∉ es) : firstLine (es ++ fs) = es ++ firstLine fs :=
    List.takeWhile_append_of_pos fun c hc => decide_eq_true (ne_of_mem_of_not_mem hc hes)
  constructor
  · intro h hn
    obtain ⟨es, fs, rfl, hes⟩ := List.eq_append_cons_of_mem hn
    have hline : firstLine ('\n' :: fs ++ ds) = [] := rfl
    rw [List.append_assoc, hfirst hes, hline, List.append_nil, bytes_append, bytes_cons] at h
    have hc := Char.utf8Size_pos '\n'
    omega
  · intro h
    rw [hfirst h, bytes_append]
    exact Nat.le_add_right _ _

/-- The place that this one of the text `b` becomes when `b` stands behind the text `a`. On its
first line `b` goes on with the columns of the line in which `a` ends. -/
def Position.beyond (a b : String) (p : Position) : Position where
  offset := p.offset + a.utf8ByteSize
  line := p.line + .ofNat (a.toList.count '\n')
  column := if p.offset ≤ bytes (firstLine b.toList) then
    p.column + ((start.past a.toList).column - 1) else p.column

theorem Position.beyond_past {a b : String} {before rest : List Char}
    (h : b.toList = before ++ rest) :
    (start.past before).beyond a b = (start.past a.toList).past before := by
  have hsize : a.utf8ByteSize = bytes a.toList := by rw [bytes, String.ofList_toList]
  have hcolumn (m n : Nat) : UInt32.ofNat (n + 1) + (.ofNat (m + 1) - 1) = .ofNat (m + n + 1) := by
    rw [UInt32.ofNat_add m, show UInt32.ofNat 1 = 1 from rfl, UInt32.add_sub_cancel,
      ← UInt32.ofNat_add, Nat.add_comm m, Nat.add_right_comm]
  rw [← past_append, beyond, past_start, past_start, past_start, hsize, h, bytes_append,
    List.count_append, lastLine_append, Nat.add_comm (bytes before), ← UInt32.ofNat_add,
    Nat.add_comm (_ + 1), ← Nat.add_assoc]
  simp only [bytes_le_firstLine_iff]
  by_cases hn : '\n' ∈ before
  · simp only [hn, not_true_eq_false, if_false, if_true]
  · have hline : lastLine before = before := by
      have happend := lastLine_append [] before
      rwa [if_neg hn] at happend
    simp only [hn, not_false_eq_true, if_false, if_true, hline, hcolumn, List.length_append]

def lastToken? (source : String) : Option Token := (tokenize source).dropLast.getLast?

def Token.Unclosed (t : Token) : Prop :=
  t.kind = .unrecognized ∧ t.lexeme.toList.head? = some '"'

/-- No word at the end of the first text goes on in the second, and no quotation. -/
structure Safe (a b : String) : Prop where
  word : ¬ ∃ t ∈ lastToken? a, t.kind.IsWord ∧ t.stop = a.utf8ByteSize ∧
    ∃ c ∈ b.toList.head?, wordContinue c = true
  quotation : ¬ ∃ t ∈ lastToken? a, t.Unclosed ∧ t.stop = a.utf8ByteSize ∧
    b ≠ "" ∧ b.toList.head? ≠ some '\n'

theorem lastToken?_eq {a : String} {us : List Token} {z : Token} (h : tokenize a = us ++ [z]) :
    lastToken? a = us.getLast? := by rw [lastToken?, h, List.dropLast_concat]

theorem exists_fits_of_mem_lastToken? {a : String} {t : Token} (ht : t ∈ lastToken? a) :
    ∃ rest, Fits t.kind t.lexeme.toList rest := by
  obtain ⟨us, hus⟩ := exists_tokenize_eq a
  rw [lastToken?_eq hus] at ht
  exact exists_fits_of_mem hus (List.mem_of_getLast? ht)

theorem safe_iff {a b : String} : Safe a b ↔
    ∀ t ∈ lastToken? a, t.stop = a.utf8ByteSize → Fits t.kind t.lexeme.toList b.toList := by
  constructor
  · intro h t ht hstop
    obtain ⟨rest, hfits⟩ := exists_fits_of_mem_lastToken? ht
    refine hfits.before (fun hword c hc => ?_) fun hkind hquote => ?_
    · apply Bool.eq_false_iff.mpr
      intro hcontinue
      exact h.word ⟨t, ht, hword, hstop, c, hc, hcontinue⟩
    · by_contra hrest
      obtain ⟨hne, hhead⟩ := not_or.mp hrest
      rw [String.toList_eq_nil_iff] at hne
      exact h.quotation ⟨t, ht, ⟨hkind, hquote⟩, hstop, hne, hhead⟩
  · intro h
    constructor
    · intro hword
      obtain ⟨t, ht, hword, hstop, c, hc, hcontinue⟩ := hword
      have hc' := (h t ht hstop).stops hword c hc
      rw [hcontinue] at hc'
      cases hc'
    · intro hquote
      obtain ⟨t, ht, ⟨hkind, hquote⟩, hstop, hne, hhead⟩ := hquote
      have hfits := h t ht hstop
      rw [hkind] at hfits
      exact (hfits.cut_off hquote).elim (fun hnil => hne (String.toList_eq_nil_iff.mp hnil)) hhead

theorem lastToken?_of_newline {a : String} (h : a.toList.getLast? = some '\n') :
    ∃ t, lastToken? a = some t ∧ t.kind = .newline := by
  obtain ⟨cs, hcs⟩ := List.getLast?_eq_some_iff.mp h
  have ha : a = String.ofList cs ++ "\n" ++ "" := by
    rw [← String.toList_inj, hcs]
    simp
  obtain ⟨us, q, -, hjoin⟩ := tokenize_join (.ofList cs) ""
  have hempty : tokenize "" = [Token.finish .start] := by decide +kernel
  rw [← ha, hempty, List.map_singleton, List.append_cons] at hjoin
  refine ⟨⟨.newline, "\n", q⟩, ?_, rfl⟩
  rw [lastToken?_eq hjoin, List.getLast?_concat]

theorem safe_of_newline {a b : String}
    (h : a.toList.getLast? = some '\n' ∨ b.toList.head? = some '\n') : Safe a b := by
  rw [safe_iff]
  intro t ht _
  obtain ⟨rest, hfits⟩ := exists_fits_of_mem_lastToken? ht
  rcases h with ha | hb
  · obtain ⟨u, hu, hkind⟩ := lastToken?_of_newline ha
    obtain rfl : u = t := Option.some.inj (hu.symm.trans ht)
    rw [hkind] at hfits ⊢
    exact hfits.before (fun hword => by rcases hword with h | h <;> cases h) nofun
  · obtain ⟨ds, hds⟩ := List.head?_eq_some_iff.mp hb
    rw [hds]
    exact hfits.before_newline ds

/-- The tokens of a text are those of its two parts just if the cut is safe, and at a line break it
always is. -/
theorem tokenize_append_iff_safe (a b : String) :
    (tokenize (a ++ b) =
        (tokenize a).dropLast ++ (tokenize b).map (Token.moved (Position.beyond a b)) ↔ Safe a b) ∧
      (a.toList.getLast? = some '\n' ∨ b.toList.head? = some '\n' → Safe a b) := by
  refine ⟨?_, safe_of_newline⟩
  obtain ⟨us, hus⟩ := exists_tokenize_eq a
  have hmoved : Scanner.collect [] (.reading b.toList (.past .start a.toList)) =
      (tokenize b).map (Token.moved (Position.beyond a b)) :=
    Scanner.collect_relocated fun _ _ hb => Position.beyond_past hb
  rw [safe_iff, lastToken?_eq hus, hus, List.dropLast_concat, ← hmoved]
  constructor
  · intro h t ht hstop
    -- in the tokens of the whole text too, `b` stands behind the last token of `a`
    have hmem := List.mem_of_getLast? ht
    have hwhole : t ∈ tokenize (a ++ b) := by
      rw [h]
      exact List.mem_append_left _ hmem
    obtain ⟨before, rest, htext, hposition, ⟨hkind, -⟩ | hfits⟩ :=
      exists_append_of_mem_tokenize hwhole
    · obtain ⟨rest, hfits⟩ := exists_fits_of_mem hus hmem
      exact absurd hkind hfits.kind_ne_end
    · have hbytes : bytes a.toList = bytes (before ++ t.raw) := by
        rw [bytes, String.ofList_toList, ← hstop, Token.stop, hposition, Position.offset_past,
          bytes_append]
        exact congrArg (· + bytes t.raw) (Nat.zero_add _)
      rw [String.toList_append, ← List.append_assoc] at htext
      rwa [(eq_of_bytes_eq htext hbytes).2]
  · exact fun h => tokenize_append hus h

end EntityChat
