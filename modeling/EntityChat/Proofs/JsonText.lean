import EntityChat.Json
import EntityChat.Proofs.Cutting

/-!
Texts of documents. The grammar of JSON says what a text stands for, by what is left of it behind
each part; `null`, numbers that are not natural and pairs of surrogates are left out of it, for no
document has them. A text stands for one document at the most, and the text that is written for a
document stands for that. So nothing is lost in writing, whatever characters are in the strings.
-/

namespace EntityChat.Json

def isWhite (c : Char) : Bool := c = ' ' ∨ c = '\n' ∨ c = '\r' ∨ c = '\t'

def skip (cs : List Char) : List Char := cs.dropWhile isWhite

def ofLetter? : Char → Option Char
  | '"' => some '"'
  | '\\' => some '\\'
  | '/' => some '/'
  | 'b' => some '\x08'
  | 'f' => some '\x0c'
  | 'n' => some '\n'
  | 'r' => some '\r'
  | 't' => some '\t'
  | _ => none

def hexDigit? (c : Char) : Option Nat :=
  if '0' ≤ c ∧ c ≤ '9' then some (c.toNat - '0'.toNat)
  else if 'a' ≤ c ∧ c ≤ 'f' then some (c.toNat - 'a'.toNat + 10)
  else if 'A' ≤ c ∧ c ≤ 'F' then some (c.toNat - 'A'.toNat + 10)
  else none

def code? (a b c d : Char) : Option Nat := do
  return 4096 * (← hexDigit? a) + 256 * (← hexDigit? b) + 16 * (← hexDigit? c) + (← hexDigit? d)

inductive Chars : List Char → List Char → List Char → Prop
  | close {rest} : Chars ('"' :: rest) [] rest
  | plain {c cs s rest} : c ≠ '"' → c ≠ '\\' → 32 ≤ c.toNat → Chars cs s rest →
      Chars (c :: cs) (c :: s) rest
  | escape {e c cs s rest} : ofLetter? e = some c → Chars cs s rest →
      Chars ('\\' :: e :: cs) (c :: s) rest
  | code {a b d e n cs s rest} : code? a b d e = some n → n.isValidChar → Chars cs s rest →
      Chars ('\\' :: 'u' :: a :: b :: d :: e :: cs) (Char.ofNat n :: s) rest

inductive Part
  | value
  | items
  | field
  | fields

/-- The text begins with the part, which stands for the document, and the rest is left. -/
inductive Reads : Part → List Char → Json → List Char → Prop
  | yes {rest} : Reads .value ('t' :: 'r' :: 'u' :: 'e' :: rest) (.boolean true) rest
  | no {rest} : Reads .value ('f' :: 'a' :: 'l' :: 's' :: 'e' :: rest) (.boolean false) rest
  | number {c cs ds rest} : cs = ds ++ rest → (∀ d ∈ c :: ds, d.isDigit = true) →
      (c = '0' → ds = []) → Stops Char.isDigit rest →
      Reads .value (c :: cs) (.number (Nat.ofDigitChars 10 (c :: ds) 0)) rest
  | text {cs s rest} : Chars cs s rest → Reads .value ('"' :: cs) (.text (String.ofList s)) rest
  | noItems {cs rest} : skip cs = ']' :: rest → Reads .value ('[' :: cs) (.list []) rest
  | list {cs js rest} : Reads .items (skip cs) (.list js) rest →
      Reads .value ('[' :: cs) (.list js) rest
  | noFields {cs rest} : skip cs = '\x7d' :: rest → Reads .value ('\x7b' :: cs) (.object []) rest
  | object {cs fs rest} : Reads .fields (skip cs) (.object fs) rest →
      Reads .value ('\x7b' :: cs) (.object fs) rest
  | lastItem {cs j ds rest} : Reads .value cs j ds → skip ds = ']' :: rest →
      Reads .items cs (.list [j]) rest
  | nextItem {cs j ds es js rest} : Reads .value cs j ds → skip ds = ',' :: es →
      Reads .items (skip es) (.list js) rest → Reads .items cs (.list (j :: js)) rest
  | field {cs s ds es j rest} : Chars cs s ds → skip ds = ':' :: es →
      Reads .value (skip es) j rest →
      Reads .field ('"' :: cs) (.object [(String.ofList s, j)]) rest
  | lastField {cs f ds rest} : Reads .field cs (.object [f]) ds → skip ds = '\x7d' :: rest →
      Reads .fields cs (.object [f]) rest
  | nextField {cs f ds es fs rest} : Reads .field cs (.object [f]) ds → skip ds = ',' :: es →
      Reads .fields (skip es) (.object fs) rest → Reads .fields cs (.object (f :: fs)) rest

/-- The whole text stands for the document, with white space around it. -/
def Denotes (source : String) (j : Json) : Prop :=
  ∃ rest, Reads .value (skip source.toList) j rest ∧ skip rest = []

theorem Chars.unique {cs s s' rest rest' : List Char} (h : Chars cs s rest)
    (h' : Chars cs s' rest') : s = s' ∧ rest = rest' := by
  induction h generalizing s' with
  | close =>
    cases h' with
    | close => exact ⟨rfl, rfl⟩
    | plain hq _ _ _ => exact absurd rfl hq
  | plain hq hb _ _ ih =>
    cases h' with
    | close => exact absurd rfl hq
    | plain _ _ _ h' =>
      obtain ⟨rfl, rfl⟩ := ih h'
      exact ⟨rfl, rfl⟩
    | escape _ _ | code _ _ _ => exact absurd rfl hb
  | escape he _ ih =>
    cases h' with
    | plain _ hb _ _ => exact absurd rfl hb
    | escape he' h' =>
      obtain ⟨rfl, rfl⟩ := ih h'
      rw [he] at he'
      exact ⟨by rw [Option.some.inj he'], rfl⟩
    | code _ _ _ => cases he
  | code hn _ _ ih =>
    cases h' with
    | plain _ hb _ _ => exact absurd rfl hb
    | escape he _ => cases he
    | code hn' _ h' =>
      obtain ⟨rfl, rfl⟩ := ih h'
      rw [hn] at hn'
      exact ⟨by rw [Option.some.inj hn'], rfl⟩

theorem ne_of_isDigit {c d : Char} (hc : c.isDigit = true) (hd : d.isDigit = false) : c ≠ d := by
  rintro rfl
  rw [hc] at hd
  cases hd

theorem not_isWhite_of_isDigit {c : Char} (h : c.isDigit = true) : isWhite c = false := by
  have hne (d : Char) (hd : d.isDigit = false) : c ≠ d := ne_of_isDigit h hd
  simp [isWhite, hne ' ' rfl, hne '\n' rfl, hne '\r' rfl, hne '\t' rfl]

theorem Reads.begins {p : Part} {cs rest : List Char} {j : Json} (h : Reads p cs j rest) :
    ∃ c ds, cs = c :: ds ∧ isWhite c = false ∧ c ≠ ']' ∧ c ≠ '\x7d' := by
  induction h with
  | number _ hds _ _ =>
    have hc := hds _ List.mem_cons_self
    exact ⟨_, _, rfl, not_isWhite_of_isDigit hc, ne_of_isDigit hc rfl, ne_of_isDigit hc rfl⟩
  | yes | no | text _ | noItems _ | list _ _ | noFields _ | object _ _ | field _ _ _ _ =>
    exact ⟨_, _, rfl, by decide⟩
  | lastItem _ _ ih | nextItem _ _ _ ih _ | lastField _ _ ih | nextField _ _ _ ih _ => exact ih

theorem Reads.skip_eq {p : Part} {cs rest : List Char} {j : Json} (h : Reads p cs j rest) :
    skip cs = cs := by
  obtain ⟨c, ds, rfl, hc, -, -⟩ := h.begins
  exact List.dropWhile_cons_of_neg (by simp [hc])

theorem Reads.ne_close {p : Part} {cs ds rest : List Char} {j : Json} {c : Char}
    (h : Reads p cs j rest) (hc : c = ']' ∨ c = '\x7d') : cs ≠ c :: ds := by
  obtain ⟨d, es, rfl, -, hd⟩ := h.begins
  rintro heq
  obtain ⟨rfl, -⟩ := List.cons.inj heq
  rcases hc with rfl | rfl
  · exact hd.1 rfl
  · exact hd.2 rfl

theorem Reads.unique {p : Part} {cs rest rest' : List Char} {j j' : Json} (h : Reads p cs j rest)
    (h' : Reads p cs j' rest') : j = j' ∧ rest = rest' := by
  induction h generalizing j' rest' with
  | yes =>
    cases h' with
    | yes => exact ⟨rfl, rfl⟩
    | number _ hds _ _ => exact absurd (hds _ List.mem_cons_self) (by decide)
  | no =>
    cases h' with
    | no => exact ⟨rfl, rfl⟩
    | number _ hds _ _ => exact absurd (hds _ List.mem_cons_self) (by decide)
  | number hcs hds _ hrest =>
    have hdigit := hds _ List.mem_cons_self
    cases h' with
    | number hcs' hds' _ hrest' =>
      obtain ⟨rfl, rfl⟩ := hrest.append_inj hrest' (List.forall_mem_cons.mp hds).2
        (List.forall_mem_cons.mp hds').2 (hcs.symm.trans hcs')
      exact ⟨rfl, rfl⟩
    | yes | no | text _ | noItems _ | list _ | noFields _ | object _ =>
      exact absurd hdigit (by decide)
  | text hs =>
    cases h' with
    | text hs' =>
      obtain ⟨rfl, rfl⟩ := hs.unique hs'
      exact ⟨rfl, rfl⟩
    | number _ hds _ _ => exact absurd (hds _ List.mem_cons_self) (by decide)
  | noItems hskip =>
    cases h' with
    | noItems hskip' =>
      rw [hskip] at hskip'
      exact ⟨rfl, (List.cons.inj hskip').2⟩
    | list hitems => exact absurd hskip (hitems.ne_close (.inl rfl))
    | number _ hds _ _ => exact absurd (hds _ List.mem_cons_self) (by decide)
  | list hitems ih =>
    cases h' with
    | noItems hskip => exact absurd hskip (hitems.ne_close (.inl rfl))
    | list hitems' => exact ih hitems'
    | number _ hds _ _ => exact absurd (hds _ List.mem_cons_self) (by decide)
  | noFields hskip =>
    cases h' with
    | noFields hskip' =>
      rw [hskip] at hskip'
      exact ⟨rfl, (List.cons.inj hskip').2⟩
    | object hfields => exact absurd hskip (hfields.ne_close (.inr rfl))
    | number _ hds _ _ => exact absurd (hds _ List.mem_cons_self) (by decide)
  | object hfields ih =>
    cases h' with
    | noFields hskip => exact absurd hskip (hfields.ne_close (.inr rfl))
    | object hfields' => exact ih hfields'
    | number _ hds _ _ => exact absurd (hds _ List.mem_cons_self) (by decide)
  | lastItem _ hskip ih =>
    cases h' with
    | lastItem hj' hskip' =>
      obtain ⟨rfl, rfl⟩ := ih hj'
      rw [hskip] at hskip'
      exact ⟨rfl, (List.cons.inj hskip').2⟩
    | nextItem hj' hskip' _ =>
      obtain ⟨-, rfl⟩ := ih hj'
      rw [hskip] at hskip'
      cases hskip'
  | nextItem _ hskip _ ih ihs =>
    cases h' with
    | lastItem hj' hskip' =>
      obtain ⟨-, rfl⟩ := ih hj'
      rw [hskip] at hskip'
      cases hskip'
    | nextItem hj' hskip' hjs' =>
      obtain ⟨rfl, rfl⟩ := ih hj'
      rw [hskip] at hskip'
      obtain ⟨-, rfl⟩ := List.cons.inj hskip'
      obtain ⟨hjs, rfl⟩ := ihs hjs'
      rw [Json.list.inj hjs]
      exact ⟨rfl, rfl⟩
  | field hs hskip _ ih =>
    cases h' with
    | field hs' hskip' hj' =>
      obtain ⟨rfl, rfl⟩ := hs.unique hs'
      rw [hskip] at hskip'
      obtain ⟨-, rfl⟩ := List.cons.inj hskip'
      obtain ⟨rfl, rfl⟩ := ih hj'
      exact ⟨rfl, rfl⟩
  | lastField _ hskip ih =>
    cases h' with
    | lastField hf' hskip' =>
      obtain ⟨hf, rfl⟩ := ih hf'
      rw [hskip] at hskip'
      exact ⟨hf, (List.cons.inj hskip').2⟩
    | nextField hf' hskip' _ =>
      obtain ⟨-, rfl⟩ := ih hf'
      rw [hskip] at hskip'
      cases hskip'
  | nextField _ hskip _ ih ihs =>
    cases h' with
    | lastField hf' hskip' =>
      obtain ⟨-, rfl⟩ := ih hf'
      rw [hskip] at hskip'
      cases hskip'
    | nextField hf' hskip' hfs' =>
      obtain ⟨hf, rfl⟩ := ih hf'
      rw [hskip] at hskip'
      obtain ⟨-, rfl⟩ := List.cons.inj hskip'
      obtain ⟨hfs, rfl⟩ := ihs hfs'
      obtain ⟨rfl, -⟩ := List.cons.inj (Json.object.inj hf)
      rw [Json.object.inj hfs]
      exact ⟨rfl, rfl⟩

theorem chars_escaped {c : Char} {cs s rest : List Char} (h : Chars cs s rest) :
    Chars (escaped c ++ cs) (c :: s) rest := by
  have hcode : ∀ n < 32, code? '0' '0' (Nat.digitChar (n / 16)) (Nat.digitChar (n % 16)) = some n ∧
      n.isValidChar := by decide +kernel
  unfold escaped
  split_ifs with hquote hbackslash hc hc hc hc hc hlt
  · exact .escape (by rw [hquote]; rfl) h
  · exact .escape (by rw [hbackslash]; rfl) h
  · exact .escape (by rw [hc]; rfl) h
  · exact .escape (by rw [hc]; rfl) h
  · exact .escape (by rw [hc]; rfl) h
  · exact .escape (by rw [hc]; rfl) h
  · exact .escape (by rw [hc]; rfl) h
  · have hchars := Chars.code (hcode c.toNat hlt).1 (hcode c.toNat hlt).2 h
    rwa [Char.ofNat_toNat] at hchars
  · exact .plain hquote hbackslash (Nat.le_of_not_lt hlt) h

theorem chars_quoted (s rest : List Char) :
    Chars (s.flatMap escaped ++ '"' :: rest) s rest := by
  induction s with
  | nil => exact .close
  | cons c s ih =>
    rw [List.flatMap_cons, List.append_assoc]
    exact chars_escaped ih

theorem toList_quoted (s : String) :
    (quoted s).toList = '"' :: (s.toList.flatMap escaped ++ ['"']) := by
  have hquote : "\"".toList = ['"'] := by decide +kernel
  simp only [quoted, String.toList_append, String.toList_ofList, hquote]
  rfl

theorem head?_toDigits_ne {n : Nat} (hn : n ≠ 0) : (Nat.toDigits 10 n).head? ≠ some '0' := by
  induction n using Nat.strongRecOn with
  | ind n ih =>
    rcases Nat.lt_or_ge n 10 with hlt | hge
    · have hdigit : ∀ d < 10, d ≠ 0 → Nat.digitChar d ≠ '0' := by decide
      rw [Nat.toDigits_of_lt_base hlt]
      exact fun h => hdigit n hlt hn (Option.some.inj h)
    · have hfront := ih (n / 10) (by omega) (by omega)
      obtain ⟨c, ds, hds⟩ := List.exists_cons_of_ne_nil
        (Nat.toDigits_ne_nil : Nat.toDigits 10 (n / 10) ≠ [])
      rw [hds] at hfront
      rwa [Nat.toDigits_of_base_le (by decide) hge, hds]

theorem reads_number (n : Nat) {rest : List Char} (hrest : Stops Char.isDigit rest) :
    Reads .value (n.repr.toList ++ rest) (.number n) rest := by
  rw [Nat.toList_repr]
  obtain ⟨c, ds, hds⟩ := List.exists_cons_of_ne_nil (Nat.toDigits_ne_nil : Nat.toDigits 10 n ≠ [])
  have hdigit : ∀ d ∈ c :: ds, d.isDigit = true := by
    intro d hd
    rw [← hds] at hd
    exact Nat.isDigit_of_mem_toDigits (by decide) (by decide) hd
  have hzero : c = '0' → ds = [] := by
    rintro rfl
    have hn : n = 0 := by
      by_contra hn
      exact head?_toDigits_ne hn (by rw [hds]; rfl)
    rw [hn, Nat.toDigits_zero] at hds
    exact (List.cons.inj hds).2.symm
  have hnumber := Reads.number rfl hdigit hzero hrest
  rw [← hds, Nat.ofDigitChars_toDigits (by decide) (by decide)] at hnumber
  rw [hds]
  exact hnumber

theorem skip_append {gap : List Char} (hgap : ∀ c ∈ gap, isWhite c = true) (cs : List Char) :
    skip (gap ++ cs) = skip cs := List.dropWhile_append_of_pos hgap

theorem skip_close {c : Char} (hc : isWhite c = false) (cs : List Char) :
    skip (c :: cs) = c :: cs :=
  List.dropWhile_cons_of_neg (by simp [hc])

theorem isWhite_margin (level : Nat) : ∀ c ∈ (margin level).toList, isWhite c = true := by
  intro c hc
  rw [margin, String.toList_ofList] at hc
  rw [List.eq_of_mem_replicate hc]
  rfl

theorem stops_white {gap : List Char} {c : Char} (rest : List Char)
    (hgap : ∀ d ∈ gap, isWhite d = true) (hc : c.isDigit = false) :
    Stops Char.isDigit (gap ++ c :: rest) := by
  cases gap with
  | nil => exact stops_cons.mpr hc
  | cons d gap =>
    refine stops_cons.mpr (Bool.eq_false_iff.mpr fun hd => ?_)
    have hwhite := hgap d List.mem_cons_self
    rw [not_isWhite_of_isDigit hd] at hwhite
    cases hwhite

/-- How parts between two brackets are read: `E` reads a part, `L` reads those up to the bracket
that closes, and `V` reads the whole. -/
structure Bracketed {α : Type} (opening closing : Char) (E : α → List Char → List Char → Prop)
    (L V : List α → List Char → List Char → Prop) : Prop where
  stands : isWhite closing = false ∧ closing.isDigit = false
  begins {a cs rest} : E a cs rest → skip cs = cs
  none {cs rest} : skip cs = closing :: rest → V [] (opening :: cs) rest
  some {as cs rest} : L as (skip cs) rest → V as (opening :: cs) rest
  last {a cs ds rest} : E a cs ds → skip ds = closing :: rest → L [a] cs rest
  next {a as cs ds es rest} : E a cs ds → skip ds = ',' :: es → L as (skip es) rest →
    L (a :: as) cs rest

theorem list_bracketed : Bracketed '[' ']' (fun j cs rest => Reads .value cs j rest)
    (fun js cs rest => Reads .items cs (.list js) rest)
    (fun js cs rest => Reads .value cs (.list js) rest) where
  stands := ⟨rfl, rfl⟩
  begins h := h.skip_eq
  none := .noItems
  some := .list
  last := .lastItem
  next := .nextItem

theorem object_bracketed : Bracketed '\x7b' '\x7d'
    (fun f cs rest => Reads .field cs (.object [f]) rest)
    (fun fs cs rest => Reads .fields cs (.object fs) rest)
    (fun fs cs rest => Reads .value cs (.object fs) rest) where
  stands := ⟨rfl, rfl⟩
  begins h := h.skip_eq
  none := .noFields
  some := .object
  last := .lastField
  next := .nextField

namespace Bracketed

variable {α : Type} {opening closing : Char} {E : α → List Char → List Char → Prop}
  {L V : List α → List Char → List Char → Prop} {as : List α} {rest : List Char}

theorem rows (h : Bracketed opening closing E L V) {text : α → List Char} {gap gap' : List Char}
    (hgap : ∀ c ∈ gap, isWhite c = true) (hgap' : ∀ c ∈ gap', isWhite c = true) (hne : as ≠ [])
    (hE : ∀ a ∈ as, ∀ rest, Stops Char.isDigit rest → E a (text a ++ rest) rest)
    (rest : List Char) : L as (skip ([',', '\n'].intercalate (as.map fun a => gap ++ text a) ++
      (gap' ++ closing :: rest))) rest := by
  induction as with
  | nil => exact absurd rfl hne
  | cons a as ih =>
    obtain ⟨ha, has⟩ := List.forall_mem_cons.mp hE
    cases as with
    | nil =>
      have hread := ha _ (stops_white rest hgap' h.stands.2)
      have hend : skip (gap' ++ closing :: rest) = closing :: rest := by
        rw [skip_append hgap', skip_close h.stands.1]
      rw [List.map_singleton, List.intercalate_singleton, List.append_assoc, skip_append hgap,
        h.begins hread]
      exact h.last hread hend
    | cons b as =>
      have hrows : [',', '\n'].intercalate ((a :: b :: as).map fun a => gap ++ text a) ++
          (gap' ++ closing :: rest) = gap ++ (text a ++ ',' :: '\n' ::
            ([',', '\n'].intercalate ((b :: as).map fun a => gap ++ text a) ++
              (gap' ++ closing :: rest))) := by
        rw [List.map_cons, List.map_cons, List.intercalate_cons_cons]
        simp only [List.append_assoc, List.cons_append, List.nil_append]
      have hmore := ih (List.cons_ne_nil b as) has
      rw [hrows]
      generalize [',', '\n'].intercalate ((b :: as).map fun a => gap ++ text a) ++
        (gap' ++ closing :: rest) = ds at hmore
      have hcomma : Stops Char.isDigit (',' :: '\n' :: ds) := stops_cons.mpr rfl
      have hread := ha _ hcomma
      rw [skip_append hgap, h.begins hread]
      -- the line break behind the comma is white space in front of the next part
      exact h.next hread (skip_close rfl _) hmore

theorem block (h : Bracketed opening closing E L V) {text : α → String} {o c : String}
    (ho : o.toList = [opening]) (hc : c.toList = [closing]) (level : Nat)
    (hE : ∀ a ∈ as, ∀ rest, Stops Char.isDigit rest → E a ((text a).toList ++ rest) rest) :
    V as ((block level o c (as.map text)).toList ++ rest) rest := by
  have hbreak : "\n".toList = ['\n'] := by decide +kernel
  have hcomma : ",\n".toList = [',', '\n'] := by decide +kernel
  by_cases hne : as = []
  · rw [hne, List.map_nil, Json.block, List.isEmpty_nil, if_pos rfl, String.toList_append, ho, hc]
    exact h.none (skip_close h.stands.1 rest)
  · have hend : ∀ c ∈ '\n' :: (margin level).toList, isWhite c = true :=
      List.forall_mem_cons.mpr ⟨rfl, isWhite_margin level⟩
    have hrows := h.rows (isWhite_margin (level + 1)) hend hne hE rest
    have hempty : (as.map text).isEmpty = false := by simpa using hne
    have hmap : String.toList ∘ (fun p => margin (level + 1) ++ p) ∘ text =
        fun a => (margin (level + 1)).toList ++ (text a).toList :=
      funext fun a => String.toList_append
    simp only [Json.block, hempty, Bool.false_eq_true, if_false, String.toList_append,
      String.toList_intercalate, List.map_map, hmap, ho, hc, hbreak, hcomma, List.append_assoc,
      List.cons_append, List.nil_append]
    exact h.some hrows

end Bracketed

theorem reads_field {f : String × Json} {level : Nat} {rest : List Char}
    (h : Reads .value ((f.2.lines level).toList ++ rest) f.2 rest) :
    Reads .field ((quoted f.1 ++ ": " ++ f.2.lines level).toList ++ rest) (.object [f]) rest := by
  have hcolon : ": ".toList = [':', ' '] := by decide +kernel
  have hvalue : Reads .value (skip (' ' :: ((f.2.lines level).toList ++ rest))) f.2 rest := by
    have hskip : skip (' ' :: ((f.2.lines level).toList ++ rest)) =
        (f.2.lines level).toList ++ rest := h.skip_eq
    rwa [hskip]
  have hfield := Reads.field (chars_quoted f.1.toList _) (skip_close rfl _) hvalue
  rw [String.ofList_toList] at hfield
  simp only [String.toList_append, toList_quoted, hcolon, List.append_assoc, List.cons_append,
    List.nil_append]
  exact hfield

theorem reads_lines (level : Nat) (j : Json) {rest : List Char} (hrest : Stops Char.isDigit rest) :
    Reads .value ((j.lines level).toList ++ rest) j rest := by
  induction level, j using lines.induct generalizing rest with
  | case1 level =>
    have htext : "true".toList = ['t', 'r', 'u', 'e'] := by decide +kernel
    rw [lines, if_pos rfl, htext]
    exact .yes
  | case2 level b hb =>
    have htext : "false".toList = ['f', 'a', 'l', 's', 'e'] := by decide +kernel
    obtain rfl : b = false := Bool.eq_false_iff.mpr hb
    rw [lines, if_neg hb, htext]
    exact .no
  | case3 level n =>
    rw [lines]
    exact reads_number n hrest
  | case4 level s =>
    have htext := Reads.text (chars_quoted s.toList rest)
    rw [String.ofList_toList] at htext
    rw [lines, toList_quoted, List.cons_append, List.append_assoc]
    exact htext
  | case5 level items ih =>
    have hopening : "[".toList = ['['] := by decide +kernel
    have hclosing : "]".toList = [']'] := by decide +kernel
    rw [lines]
    exact list_bracketed.block hopening hclosing level fun j hj _ hrest => ih j hj hrest
  | case6 level fields ih =>
    have hopening : "\x7b".toList = ['\x7b'] := by decide +kernel
    have hclosing : "\x7d".toList = ['\x7d'] := by decide +kernel
    rw [lines]
    exact object_bracketed.block hopening hclosing level fun f hf _ hrest =>
      reads_field (ih f hf hrest)

theorem Denotes.unique {source : String} {j j' : Json} (h : Denotes source j)
    (h' : Denotes source j') : j = j' := by
  obtain ⟨_, hread, -⟩ := h
  obtain ⟨_, hread', -⟩ := h'
  exact (hread.unique hread').1

theorem denotes_render (j : Json) : Denotes (j.render ++ "\n") j := by
  have hbreak : "\n".toList = ['\n'] := by decide +kernel
  have hstops : Stops Char.isDigit ['\n'] := stops_cons.mpr rfl
  have hread := reads_lines 0 j hstops
  refine ⟨['\n'], ?_, rfl⟩
  rw [render, String.toList_append, hbreak, hread.skip_eq]
  exact hread

end EntityChat.Json
