import EntityChat.Proofs.EntityReading
import Mathlib.Data.List.Forall2

/-!
Printing a declaration and reading it back. The text is scanned piece by piece, each piece in front
of all that is printed behind it. What comes back is an equal declaration just if the names are
names and the builtin types are marked as such, and whatever was read is of this kind.
-/

namespace EntityChat

open Scanner

/-- The names are names, and the type is marked as the type of its name is. -/
structure Member.WellFormed (m : Member) : Prop where
  name : IsName m.name.name
  typeName : IsName m.type.name
  builtin : m.type.builtin = (TypeName.named m.type.name).builtin

structure Entity.WellFormed (e : Entity) : Prop where
  name : IsName e.name.name
  members : ∀ m ∈ e.members, m.WellFormed

namespace Member

theorem beq_iff {m n : Member} : (m == n) = true ↔
    m.name.name = n.name.name ∧ m.type = n.type ∧ m.constraints = n.constraints := by
  change (m.name.name == n.name.name && m.type == n.type && m.constraints == n.constraints) =
    true ↔ _
  simp [and_assoc]

theorem WellFormed.of_beq {m n : Member} (hm : m.WellFormed) (h : (m == n) = true) :
    n.WellFormed := by
  obtain ⟨hname, htype, -⟩ := beq_iff.mp h
  exact ⟨hname ▸ hm.name, htype ▸ hm.typeName, htype ▸ hm.builtin⟩

theorem suffix_eq (m : Member) : m.suffix.toList =
    if m.constraints.unique then [' ', '('] ++ "unique".toList ++ [')'] else [] := by
  cases h : m.constraints.unique with
  | false => simp [suffix, Constraints.toList, h]
  | true =>
    rw [suffix, Constraints.toList, h]
    decide +kernel

theorem suffix_congr {m n : Member} (h : m.constraints = n.constraints) : m.suffix = n.suffix := by
  simp [suffix, h]

theorem render_congr {m n : Member} (h : (m == n) = true) : m.render = n.render := by
  obtain ⟨hname, htype, hconstraints⟩ := beq_iff.mp h
  rw [render, render, hname, htype, suffix_congr hconstraints]

theorem forall₂_of_beq {ms ns : List Member} (h : (ms == ns) = true) :
    List.Forall₂ (fun m n => (m == n) = true) ms ns := by
  induction ms generalizing ns with
  | nil =>
    cases ns with
    | nil => exact .nil
    | cons n ns => cases h
  | cons m ms ih =>
    cases ns with
    | nil => cases h
    | cons n ns =>
      rw [List.cons_beq_cons, Bool.and_eq_true] at h
      exact .cons h.1 (ih h.2)

def line (m : Member) : List Char := [' ', ' ', ' ', ' '] ++ m.render.toList ++ [',', '\n']

theorem lines_congr {ms ns : List Member}
    (h : List.Forall₂ (fun m n => (m == n) = true) ms ns) :
    ms.flatMap line = ns.flatMap line := by
  induction h with
  | nil => rfl
  | cons hm _ ih =>
    rw [List.flatMap_cons, List.flatMap_cons, ih, line, line, render_congr hm]

theorem wellFormed_congr {ms ns : List Member}
    (h : List.Forall₂ (fun m n => (m == n) = true) ms ns) (hms : ∀ m ∈ ms, m.WellFormed) :
    ∀ n ∈ ns, n.WellFormed := by
  induction h with
  | nil => simp
  | cons hm _ ih =>
    obtain ⟨hfirst, hms⟩ := List.forall_mem_cons.mp hms
    exact List.forall_mem_cons.mpr ⟨hfirst.of_beq hm, ih hms⟩

end Member

namespace Entity

theorem beq_iff {e e' : Entity} :
    (e == e') = true ↔ e.name.name = e'.name.name ∧ (e.members == e'.members) = true := by
  change (e.name.name == e'.name.name && e.members == e'.members) = true ↔ _
  rw [Bool.and_eq_true, beq_iff_eq]

theorem WellFormed.of_beq {e e' : Entity} (he : e.WellFormed) (h : (e == e') = true) :
    e'.WellFormed := by
  obtain ⟨hname, hmembers⟩ := beq_iff.mp h
  exact ⟨hname ▸ he.name, Member.wellFormed_congr (Member.forall₂_of_beq hmembers) he.members⟩

def body (e : Entity) : List Char :=
  match e.members with
  | [] => []
  | ms => '\n' :: ms.flatMap Member.line

theorem body_congr {e e' : Entity} (h : (e.members == e'.members) = true) : e.body = e'.body := by
  have hmembers := Member.forall₂_of_beq h
  have hlines := Member.lines_congr hmembers
  unfold body
  generalize e.members = ms at hmembers hlines
  generalize e'.members = ns at hmembers hlines
  cases hmembers with
  | nil => rfl
  | cons _ _ => exact congrArg ('\n' :: ·) hlines

end Entity

theorem isGap_indent : ∀ c ∈ [' ', ' ', ' ', ' '], isGap c = true :=
  List.all_eq_true.mp (by decide +kernel)

namespace Member

theorem scans_constraints (rest : List Char) :
    Scans ([' ', '('] ++ ("unique".toList ++ [')'])) rest fun us =>
      ∃ o u r : Token, us = [o, u, r] ∧ o.kind = .openParen ∧ u.kind = .uniqueWord ∧
        r.kind = .closeParen := by
  have hstop : Stops wordContinue ([')'] ++ rest) :=
    stops_cons.mpr (not_wordContinue_of_mem (by simp))
  have hopen := scans_sign isGap_space (k := .openParen) rfl
  have hunique := scans_keyword isGap_nil (k := .uniqueWord) rfl hstop
  have hclose := scans_sign isGap_nil (k := .closeParen) rfl rest
  refine Scans.imp ((hopen _).append (hunique.append hclose)) fun us h => ?_
  obtain ⟨_, _, rfl, ⟨o, rfl, ho⟩, _, _, rfl, ⟨u, rfl, hu⟩, r, rfl, hr⟩ := h
  exact ⟨o, u, r, rfl, ho, hu, hr⟩

theorem scans_suffix (m : Member) (rest : List Char) :
    Scans m.suffix.toList rest fun us =>
      (us = [] ∧ m.constraints = .empty) ∨
        (∃ o u r : Token, us = [o, u, r] ∧ o.kind = .openParen ∧ u.kind = .uniqueWord ∧
          r.kind = .closeParen) ∧ m.constraints = Constraints.empty.insert .unique := by
  rw [suffix_eq]
  cases hu : m.constraints.unique with
  | false => exact .nil (.inl ⟨rfl, congrArg Constraints.mk hu⟩)
  | true => exact (scans_constraints rest).imp fun us h => .inr ⟨h, congrArg Constraints.mk hu⟩

theorem scans_render {m : Member} (hm : m.WellFormed) (rest : List Char) :
    Scans ([' ', ' ', ' ', ' '] ++ m.render.toList) (',' :: rest) fun us =>
      ∃ m', Phrase us m' ∧ (m' == m) = true := by
  have hback : Stops wordContinue (m.suffix.toList ++ ',' :: rest) := by
    rw [suffix_eq]
    split <;> exact stops_cons.mpr (not_wordContinue_of_mem (by simp))
  have htext : [' ', ' ', ' ', ' '] ++ m.render.toList =
      [' ', ' ', ' ', ' '] ++ m.name.name.toList ++ ([':'] ++
        ([' '] ++ m.type.name.toList ++ m.suffix.toList)) := by
    simp [render]
  rw [htext]
  have hcolon : Stops wordContinue ([':'] ++ ([' '] ++ m.type.name.toList ++ m.suffix.toList) ++
      ',' :: rest) := stops_cons.mpr (not_wordContinue_of_mem (by simp))
  have hname := scans_name isGap_indent hm.name hcolon
  have hsign := scans_sign isGap_nil (k := .colon) rfl
  have htype := scans_name isGap_space hm.typeName hback
  refine Scans.imp (hname.append ((hsign _).append (htype.append (scans_suffix m _))))
    fun us h => ?_
  obtain ⟨_, _, rfl, ⟨n, rfl, hn, hname⟩, _, _, rfl, ⟨c, rfl, hc⟩, _, us, rfl,
    ⟨y, rfl, hy, htype⟩, hus⟩ := h
  have htyped : TypeName.named y.lexeme = m.type := by
    rw [htype]
    exact congrArg (TypeName.mk m.type.name) hm.builtin.symm
  rcases hus with ⟨rfl, hempty⟩ | ⟨⟨o, u, r, rfl, ho, hu, hr⟩, hunique⟩
  · exact ⟨_, .plain hn hc hy, beq_iff.mpr ⟨hname, htyped, hempty.symm⟩⟩
  · have hus : ∀ t ∈ [u], t.kind = .uniqueWord := List.forall_mem_singleton.mpr hu
    exact ⟨_, .restricted hn hc hy ho (List.cons_ne_nil _ _) hus hr,
      beq_iff.mpr ⟨hname, htyped, hunique.symm⟩⟩

theorem Phrase.filter {u : List Token} {m : Member} (h : Phrase u m) :
    u.filter (·.kind ≠ .newline) = u := by
  apply List.filter_eq_self.mpr
  intro t ht
  cases h with
  | plain hn hc hy =>
    simp only [List.mem_cons, List.not_mem_nil, or_false] at ht
    rcases ht with rfl | rfl | rfl <;> simp [hn, hc, hy]
  | restricted hn hc hy ho _ hus hr =>
    simp only [List.mem_append, List.mem_cons, List.not_mem_nil, or_false] at ht
    rcases ht with ((rfl | rfl | rfl | rfl) | ht) | rfl
    · simp [hn]
    · simp [hc]
    · simp [hy]
    · simp [ho]
    · simp [hus t ht]
    · simp [hr]

theorem scans_lines {ms : List Member} (hms : ∀ m ∈ ms, m.WellFormed) (rest : List Char) :
    Scans (ms.flatMap line) rest fun us =>
      ∃ ms', ListPhrase (us.filter (·.kind ≠ .newline)) ms' ∧ (ms' == ms) = true := by
  induction ms with
  | nil => exact .nil ⟨[], .empty, rfl⟩
  | cons m ms ih =>
    obtain ⟨hm, hms⟩ := List.forall_mem_cons.mp hms
    have htext : (m :: ms).flatMap line =
        [' ', ' ', ' ', ' '] ++ m.render.toList ++ ([','] ++ (['\n'] ++ ms.flatMap line)) := by
      simp [line]
    rw [htext]
    have hmember := scans_render hm (['\n'] ++ ms.flatMap line ++ rest)
    have hcomma := scans_sign isGap_nil (k := .comma) rfl
    have hbreak := scans_sign isGap_nil (k := .newline) rfl
    refine Scans.imp (hmember.append ((hcomma _).append ((hbreak _).append (ih hms))))
      fun us h => ?_
    obtain ⟨u, _, rfl, ⟨m', hu, hm'⟩, _, _, rfl, ⟨z, rfl, hz⟩, _, us, rfl, ⟨b, rfl, hb⟩,
      ms', hus, hms'⟩ := h
    refine ⟨m' :: ms', ?_, ?_⟩
    · have hzb : ([z] ++ ([b] ++ us)).filter (·.kind ≠ .newline) =
          [z] ++ us.filter (·.kind ≠ .newline) := by simp [hz, hb]
      rw [List.filter_append, hu.filter, hzb, ← List.append_assoc]
      exact .cons hu hz hus
    · rw [List.cons_beq_cons, hm', hms']
      rfl

end Member

def heading (name : String) : String := "create entity " ++ name ++ " \x7b"

structure Heads (name : String) (us : List Token) (n : Token) : Prop where
  tokens : ∃ a b o : Token, us = [a, b, n, o] ∧ a.kind = .createWord ∧ b.kind = .entityWord ∧
    n.kind = .identifier ∧ o.kind = .openBrace
  lexeme : n.lexeme = name

theorem Heads.filter {name : String} {us : List Token} {n : Token} (h : Heads name us n) :
    us.filter (·.kind ≠ .newline) = us := by
  obtain ⟨a, b, o, rfl, ha, hb, hn, ho⟩ := h.tokens
  simp [ha, hb, hn, ho]

theorem Heads.sentence {name : String} {us vs : List Token} {n r z : Token} {ms : List Member}
    (h : Heads name us n) (hvs : Member.ListPhrase vs ms) (hr : r.kind = .closeBrace)
    (hz : z.kind = .endOfInput) : Entity.Sentence (us ++ (vs ++ [r, z])) ⟨n.identifier, ms⟩ := by
  obtain ⟨a, b, o, rfl, ha, hb, hn, ho⟩ := h.tokens
  rw [← List.append_assoc]
  exact .mk ha hb hn ho hvs hr hz

theorem toList_append₃ (s t u : String) :
    (s ++ t ++ u).toList = s.toList ++ t.toList ++ u.toList := by
  rw [String.toList_append, String.toList_append]

theorem toList_heading (name : String) :
    (heading name).toList = "create entity ".toList ++ name.toList ++ [' ', '\x7b'] := by
  have hback : " \x7b".toList = [' ', '\x7b'] := by decide +kernel
  exact (toList_append₃ _ _ _).trans (congrArg _ hback)

theorem scans_heading {name : String} (hn : IsName name) (rest : List Char) :
    Scans (heading name).toList rest fun us => ∃ n, Heads name us n := by
  have hspace (cs : List Char) : Stops wordContinue (' ' :: cs) :=
    stops_cons.mpr (not_wordContinue_of_mem (by simp))
  have hcreate (cs : List Char) := scans_keyword isGap_nil (k := .createWord) rfl (hspace cs)
  have hentity (cs : List Char) := scans_keyword isGap_space (k := .entityWord) rfl (hspace cs)
  have hname (cs : List Char) := scans_name isGap_space hn (hspace cs)
  have hopen := scans_sign isGap_space (k := .openBrace) rfl rest
  have htext : (heading name).toList = "create".toList ++ ([' '] ++ "entity".toList ++
      ([' '] ++ name.toList ++ ([' '] ++ ['\x7b']))) := by
    have hfront : "create entity ".toList =
        "create".toList ++ [' '] ++ "entity".toList ++ [' '] := by decide +kernel
    rw [toList_heading, hfront]
    simp only [List.append_assoc, List.cons_append, List.nil_append]
  rw [htext]
  refine Scans.imp ((hcreate _).append ((hentity _).append ((hname _).append hopen)))
    fun us h => ?_
  obtain ⟨_, _, rfl, ⟨a, rfl, ha⟩, _, _, rfl, ⟨b, rfl, hb⟩, _, _, rfl, ⟨n, rfl, hk, hname⟩,
    o, rfl, ho⟩ := h
  exact ⟨n, ⟨a, b, o, rfl, ha, hb, hk, ho⟩, hname⟩

namespace Entity

theorem join_lines (ms : List Member) :
    (String.join (ms.map fun m => "    " ++ m.render ++ ",\n")).toList =
      ms.flatMap Member.line := by
  have hline : ∀ m : Member, ("    " ++ m.render ++ ",\n").toList = m.line := by
    intro m
    simp [Member.line]
  rw [String.toList_join, List.flatMap_map]
  exact congrArg (List.flatMap · ms) (funext hline)

theorem render_toList (e : Entity) :
    e.render.toList = (heading e.name.name).toList ++ (e.body ++ ['\x7d']) := by
  rw [toList_heading, body, render]
  cases e.members with
  | nil =>
    have hback : " \x7b\x7d".toList = [' ', '\x7b', '\x7d'] := by decide +kernel
    have htext := toList_append₃ "create entity " e.name.name " \x7b\x7d"
    simp only [htext, hback, List.append_assoc, List.cons_append, List.nil_append]
  | cons m ms =>
    have hback : " \x7b\n".toList = [' ', '\x7b', '\n'] := by decide +kernel
    have hclose : "\x7d".toList = ['\x7d'] := by decide +kernel
    have hfront := toList_append₃ "create entity " e.name.name " \x7b\n"
    refine (toList_append₃ _ _ _).trans ?_
    simp only [hfront, join_lines, hback, hclose, List.append_assoc, List.cons_append,
      List.nil_append]

theorem scans_body {e : Entity} (he : e.WellFormed) (rest : List Char) :
    Scans e.body rest fun us =>
      ∃ ms, Member.ListPhrase (us.filter (·.kind ≠ .newline)) ms ∧ (ms == e.members) = true := by
  cases hm : e.members with
  | nil =>
    simp only [body, hm]
    exact .nil ⟨[], .empty, rfl⟩
  | cons m ms =>
    have hms := he.members
    rw [hm] at hms
    simp only [body, hm]
    have hbreak := scans_sign isGap_nil (k := .newline) rfl
    refine Scans.imp ((hbreak _).append (Member.scans_lines hms rest)) fun us h => ?_
    obtain ⟨_, us, rfl, ⟨b, rfl, hb⟩, ms', hus, hms'⟩ := h
    refine ⟨ms', ?_, hms'⟩
    rwa [List.singleton_append, List.filter_cons_of_neg (by simp [hb])]

theorem scans_render {e : Entity} (he : e.WellFormed) :
    Scans e.render.toList [] fun us => ∃ e', (e' == e) = true ∧
      ∀ z : Token, z.kind = .endOfInput → Sentence (us.filter (·.kind ≠ .newline) ++ [z]) e' := by
  have hclose := scans_sign isGap_nil (k := .closeBrace) rfl []
  rw [render_toList]
  refine Scans.imp ((scans_heading he.name _).append ((scans_body he _).append hclose))
    fun us h => ?_
  obtain ⟨vs, _, rfl, ⟨n, hvs⟩, us, _, rfl, ⟨ms, hus, hms⟩, r, rfl, hr⟩ := h
  refine ⟨⟨n.identifier, ms⟩, beq_iff.mpr ⟨hvs.lexeme, hms⟩, fun z hz => ?_⟩
  -- only among the members there are line breaks
  have hfilter : (vs ++ (us ++ [r])).filter (·.kind ≠ .newline) ++ [z] =
      vs ++ (us.filter (·.kind ≠ .newline) ++ [r, z]) := by
    rw [List.filter_append, hvs.filter, List.filter_append]
    simp [hr]
  rw [hfilter]
  exact hvs.sentence hus hr hz

theorem exists_read_render {e : Entity} (he : e.WellFormed) :
    ∃ e', read e.render = .ok e' ∧ (e' == e) = true := by
  obtain ⟨us, q, ⟨e', heq, hsentence⟩, htokens⟩ := (scans_render he).tokenize_eq
  have hfinish : [Token.finish q].filter (·.kind ≠ .newline) = [Token.finish q] := by
    simp [Token.finish]
  refine ⟨e', read_of_sentence ?_, heq⟩
  rw [significant, htokens, List.filter_append, hfinish]
  exact hsentence _ rfl

end Entity

theorem Member.Phrase.wellFormed {u : List Token} {m : Member} (h : Member.Phrase u m)
    (hu : ∀ t ∈ u, t.kind = .identifier → IsName t.lexeme) : m.WellFormed := by
  cases h with
  | @plain n c y hn _ hy => exact ⟨hu n (by simp) hn, hu y (by simp) hy, rfl⟩
  | @restricted n c y o r us hn _ hy _ _ _ _ =>
    exact ⟨hu n (by simp) hn, hu y (by simp) hy, rfl⟩

theorem Member.ListPhrase.wellFormed {u : List Token} {ms : List Member}
    (h : Member.ListPhrase u ms) (hu : ∀ t ∈ u, t.kind = .identifier → IsName t.lexeme) :
    ∀ m ∈ ms, m.WellFormed := by
  cases h with
  | empty => simp
  | listed hsep _ =>
    refine hsep.forall_mem fun v m hv hsub => ?_
    exact hv.wellFormed fun t ht => hu t (List.mem_append_left _ (hsub ht))

theorem isName_of_significant {source : String} {t : Token} (ht : t ∈ significant source)
    (hk : t.kind = .identifier) : IsName t.lexeme :=
  (cut_tokenize source).isName_of_mem (List.mem_filter.mp ht).1 hk

namespace Entity

theorem Sentence.wellFormed {source : String} {e : Entity} (h : Sentence (significant source) e) :
    e.WellFormed := by
  generalize hts : significant source = ts at h
  have hnames : ∀ t ∈ ts, t.kind = .identifier → IsName t.lexeme := by
    intro t ht
    rw [← hts] at ht
    exact isName_of_significant ht
  obtain @⟨a, b, n, o, r, z, us, ms, -, -, hn, -, hus, -, -⟩ := h
  exact ⟨hnames n (by simp) hn, hus.wellFormed fun t ht => hnames t (by simp [ht])⟩

theorem render_congr {e e' : Entity} (h : (e == e') = true) : e.render = e'.render := by
  obtain ⟨hname, hmembers⟩ := beq_iff.mp h
  rw [← String.toList_inj, render_toList, render_toList, hname, body_congr hmembers]

/-- Reading what is printed gives an equal declaration just if the declaration is well formed. All
that is read is, so printing it and reading that changes no more than positions. -/
theorem read_render :
    (∀ e : Entity, (∃ e', read e.render = .ok e' ∧ (e' == e) = true) ↔ e.WellFormed) ∧
      ∀ (source : String) (e : Entity), read source = .ok e →
        e.WellFormed ∧ ∃ e', read e.render = .ok e' ∧ (e' == e) = true ∧ e'.render = e.render := by
  constructor
  · intro e
    constructor
    · intro h
      obtain ⟨e', hread, heq⟩ := h
      exact (sentence_of_read hread).wellFormed.of_beq heq
    · exact exists_read_render
  · intro source e hread
    have he := (sentence_of_read hread).wellFormed
    obtain ⟨e', hread', heq⟩ := exists_read_render he
    exact ⟨he, e', hread', heq, render_congr heq⟩

end Entity

end EntityChat
