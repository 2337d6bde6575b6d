import EntityChat.Proofs.Cutting
import EntityChat.Text.Quoted

/-!
Quoted texts. Each character is written in one of three ways, and none of what is written begins
another: so a quoted text is read in one way only, whichever characters are hidden. A line break is
always written by its letter, and a quoted text is on one line.
-/

namespace EntityChat.Text

theorem exists_digit_of_mem {n : Nat} {c : Char} (h : c ∈ Nat.toDigits 16 n) :
    ∃ d < 16, Nat.digitChar d = c := by
  induction n using Nat.strongRecOn with
  | ind n ih =>
    rcases Nat.lt_or_ge n 16 with hlt | hle
    · rw [Nat.toDigits_of_lt_base hlt, List.mem_singleton] at h
      exact ⟨n, hlt, h.symm⟩
    · rw [Nat.toDigits_of_base_le (by decide) hle, List.mem_append, List.mem_singleton] at h
      rcases h with h | rfl
      · exact ih (n / 16) (by omega) h
      · exact ⟨n % 16, Nat.mod_lt n (by decide), rfl⟩

def hexValue (ds : List Char) : Nat :=
  ds.foldl (fun n c => 16 * n + (List.range 16).findIdx (Nat.digitChar · = c)) 0

theorem hexValue_toDigits (n : Nat) : hexValue (Nat.toDigits 16 n) = n := by
  have hdigit : ∀ d < 16, (List.range 16).findIdx (Nat.digitChar · = Nat.digitChar d) = d := by
    decide
  induction n using Nat.strongRecOn with
  | ind n ih =>
    rcases Nat.lt_or_ge n 16 with hlt | hle
    · rw [Nat.toDigits_of_lt_base hlt, hexValue, List.foldl_cons, List.foldl_nil, hdigit n hlt,
        Nat.mul_zero, Nat.zero_add]
    · have hfront : hexValue (Nat.toDigits 16 (n / 16)) = n / 16 := ih (n / 16) (by omega)
      rw [hexValue] at hfront
      rw [Nat.toDigits_of_base_le (by decide) hle, hexValue, List.foldl_append, hfront,
        List.foldl_cons, List.foldl_nil, hdigit _ (Nat.mod_lt n (by decide)), Nat.div_add_mod]

theorem ne_of_mem_toDigits {n : Nat} {c : Char} (h : c ∈ Nat.toDigits 16 n) :
    c ≠ '\n' ∧ c ≠ '\x7d' := by
  have hdigit : ∀ d < 16, Nat.digitChar d ≠ '\n' ∧ Nat.digitChar d ≠ '\x7d' := by decide
  obtain ⟨d, hd, rfl⟩ := exists_digit_of_mem h
  exact hdigit d hd

def ofLetter? : Char → Option Char
  | '"' => some '"'
  | '\\' => some '\\'
  | 'n' => some '\n'
  | 'r' => some '\r'
  | 't' => some '\t'
  | '0' => some '\x00'
  | _ => none

/-- The ways to write a character between quotes. -/
inductive Written : Char → List Char → Prop
  | plain {c} : c ≠ '"' → c ≠ '\\' → c ≠ '\n' → Written c [c]
  | letter {e c} : ofLetter? e = some c → Written c ['\\', e]
  | code {c} : Written c (codePoint c)

theorem written_escaped (c : Char) : Written c (escaped c) := by
  unfold escaped
  split_ifs with hquote hbackslash hbreak hreturn htab hnull hhidden
  · exact .letter (by rw [hquote]; rfl)
  · exact .letter (by rw [hbackslash]; rfl)
  · exact .letter (by rw [hbreak]; rfl)
  · exact .letter (by rw [hreturn]; rfl)
  · exact .letter (by rw [htab]; rfl)
  · exact .letter (by rw [hnull]; rfl)
  · exact .code
  · exact .plain hquote hbackslash hbreak

theorem codePoint_append (c : Char) (rest : List Char) : codePoint c ++ rest =
    '\\' :: 'u' :: '\x7b' :: (Nat.toDigits 16 c.toNat ++ '\x7d' :: rest) := by
  simp [codePoint]

theorem codePoint_append_inj {c d : Char} {cs ds : List Char}
    (h : codePoint c ++ cs = codePoint d ++ ds) : c = d ∧ cs = ds := by
  have hdigit (c : Char) : ∀ x ∈ Nat.toDigits 16 c.toNat, (x != '\x7d') = true := fun x hx =>
    bne_iff_ne.mpr (ne_of_mem_toDigits hx).2
  have hclose (rest : List Char) : Stops (· != '\x7d') ('\x7d' :: rest) := stops_cons.mpr rfl
  simp only [codePoint_append, List.cons.injEq, true_and] at h
  obtain ⟨hdigits, hrest⟩ := (hclose cs).append_inj (hclose ds) (hdigit c) (hdigit d) h
  have hvalue := congrArg hexValue hdigits
  rw [hexValue_toDigits, hexValue_toDigits] at hvalue
  exact ⟨Char.toNat_inj.mp hvalue, (List.cons.inj hrest).2⟩

namespace Written

variable {c d : Char} {v w cs ds : List Char}

theorem newline_not_mem (h : Written c v) : '\n' ∉ v := by
  intro hmem
  cases h with
  | plain _ _ hbreak => exact hbreak (List.mem_singleton.mp hmem).symm
  | letter he =>
    rcases List.mem_cons.mp hmem with hslash | hletter
    · cases hslash
    · rw [← List.mem_singleton.mp hletter] at he
      cases he
  | code =>
    rw [← List.append_nil (codePoint c), codePoint_append] at hmem
    simp only [List.mem_cons, List.mem_append, List.not_mem_nil, or_false] at hmem
    rcases hmem with hmem | hmem | hmem | hmem | hmem
    · cases hmem
    · cases hmem
    · cases hmem
    · exact (ne_of_mem_toDigits hmem).1 rfl
    · cases hmem

theorem append_inj (hc : Written c v) (hd : Written d w) (h : v ++ cs = w ++ ds) :
    c = d ∧ cs = ds := by
  cases hc with
  | plain _ hslash _ =>
    cases hd with
    | plain _ _ _ => exact List.cons.inj h
    | letter _ => exact absurd (List.cons.inj h).1 hslash
    | code =>
      rw [codePoint_append] at h
      exact absurd (List.cons.inj h).1 hslash
  | letter he =>
    cases hd with
    | plain _ hslash _ => exact absurd (List.cons.inj h).1.symm hslash
    | letter he' =>
      obtain ⟨rfl, hrest⟩ := List.cons.inj (List.cons.inj h).2
      exact ⟨Option.some.inj (he.symm.trans he'), hrest⟩
    | code =>
      rw [codePoint_append] at h
      rw [(List.cons.inj (List.cons.inj h).2).1] at he
      cases he
  | code =>
    cases hd with
    | plain _ hslash _ =>
      rw [codePoint_append] at h
      exact absurd (List.cons.inj h).1.symm hslash
    | letter he =>
      rw [codePoint_append] at h
      rw [← (List.cons.inj (List.cons.inj h).2).1] at he
      cases he
    | code => exact codePoint_append_inj h

theorem ne_nil (h : Written c v) : v ≠ [] := by
  cases h with
  | plain _ _ _ | letter _ => exact List.cons_ne_nil _ _
  | code =>
    rw [← List.append_nil (codePoint c), codePoint_append]
    exact List.cons_ne_nil _ _

end Written

theorem flatMap_escaped_inj {s t : List Char} (h : s.flatMap escaped = t.flatMap escaped) :
    s = t := by
  induction s generalizing t with
  | nil =>
    cases t with
    | nil => rfl
    | cons d t => exact absurd (List.append_eq_nil_iff.mp h.symm).1 (written_escaped d).ne_nil
  | cons c s ih =>
    cases t with
    | nil => exact absurd (List.append_eq_nil_iff.mp h).1 (written_escaped c).ne_nil
    | cons d t =>
      obtain ⟨rfl, hrest⟩ := (written_escaped c).append_inj (written_escaped d) h
      rw [ih hrest]

theorem toList_quoted (s : String) :
    (quoted s).toList = '"' :: (s.toList.flatMap escaped ++ ['"']) := by
  have hquote : "\"".toList = ['"'] := rfl
  simp only [quoted, String.toList_append, String.toList_ofList, hquote]
  rfl

theorem quoted_inj {s t : String} : quoted s = quoted t ↔ s = t := by
  constructor
  · intro h
    have htext := congrArg String.toList h
    rw [toList_quoted, toList_quoted] at htext
    have hescaped := List.append_cancel_right (List.cons.inj htext).2
    exact String.toList_inj.mp (flatMap_escaped_inj hescaped)
  · exact congrArg quoted

theorem newline_not_mem_quoted (s : String) : '\n' ∉ (quoted s).toList := by
  intro h
  simp only [toList_quoted, List.mem_cons, List.mem_append, List.mem_flatMap, List.not_mem_nil,
    or_false] at h
  rcases h with h | ⟨c, -, hc⟩ | h
  · cases h
  · exact (written_escaped c).newline_not_mem hc
  · cases h

end EntityChat.Text
