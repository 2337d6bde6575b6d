import EntityChat.Proofs.TranscriptReading

/-!
Printing a chat and reading it back. The text has a line for each remark, which is scanned as the
tokens of that remark and a line break. What comes back is an equal chat just if the speakers have
names and the texts stay within their quotes, and whatever was read is of this kind.
-/

namespace EntityChat

open Scanner

/-- The speaker has a name, and the text does not end its own quotation. -/
structure Remark.WellFormed (r : Remark) : Prop where
  speaker : IsName r.speaker.name
  text : ∀ c ∈ r.text.toList, c ≠ '"' ∧ c ≠ '\n'

def Transcript.WellFormed (t : Transcript) : Prop := ∀ r ∈ t.toList, r.WellFormed

namespace Remark

def said (r : Remark) : String × String := (r.speaker.name, r.text)

theorem beq_iff {r q : Remark} : (r == q) = true ↔ r.said = q.said := by
  change (r.speaker.name == q.speaker.name && r.text == q.text) = true ↔ _
  simp [said]

theorem WellFormed.congr {r q : Remark} (hr : r.WellFormed) (h : r.said = q.said) :
    q.WellFormed := by
  obtain ⟨hname, htext⟩ := Prod.mk.inj h
  exact ⟨hname ▸ hr.speaker, htext ▸ hr.text⟩

def line (r : Remark) : List Char :=
  r.speaker.name.toList ++ ([' '] ++ "says".toList ++
    ([' '] ++ Token.spelled .quotation r.text.toList ++ ['\n']))

theorem toList_render (r : Remark) : (r.render ++ "\n").toList = r.line := by
  have hverb : " says \"".toList = [' '] ++ "says".toList ++ [' ', '"'] := by decide +kernel
  simp only [render, line, Token.spelled, String.toList_append, hverb]
  simp

end Remark

namespace Transcript

theorem beq_iff {t u : Transcript} :
    (t == u) = true ↔ t.toList.map Remark.said = u.toList.map Remark.said := by
  change same t u = true ↔ _
  induction t generalizing u with
  | empty =>
    cases u with
    | empty => simp [same]
    | remark q u => simp [same, toList_empty, toList_remark]
  | remark r t ih =>
    cases u with
    | empty => simp [same, toList_empty, toList_remark]
    | remark q u =>
      rw [toList_remark, toList_remark, List.map_cons, List.map_cons, List.cons.injEq, same,
        ← Remark.beq_iff, ← ih]
      by_cases hrq : (r == q) = true
      · simp [hrq]
      · simp [hrq]

theorem WellFormed.of_beq {t u : Transcript} (ht : t.WellFormed) (h : (t == u) = true) :
    u.WellFormed := by
  intro q hq
  have hsaid : q.said ∈ t.toList.map Remark.said := by
    rw [beq_iff.mp h]
    exact List.mem_map_of_mem hq
  obtain ⟨r, hr, hrq⟩ := List.mem_map.mp hsaid
  exact (ht r hr).congr hrq

theorem toList_render (t : Transcript) : t.render.toList = t.toList.flatMap Remark.line := by
  rw [render, String.toList_join, List.flatMap_map]
  exact congrArg (List.flatMap · t.toList) (funext Remark.toList_render)

theorem render_congr {t u : Transcript} (h : (t == u) = true) : t.render = u.render := by
  have hrender (t : Transcript) : t.render = String.join ((t.toList.map Remark.said).map fun p =>
      p.1 ++ " says \"" ++ p.2 ++ "\"" ++ "\n") := by
    rw [List.map_map]
    rfl
  rw [hrender, hrender, beq_iff.mp h]

end Transcript

namespace Remark

theorem scans_line {r : Remark} (hr : r.WellFormed) (rest : List Char) :
    Scans r.line rest fun us =>
      ∃ u n q, us = u ++ [n] ∧ Phrase u q ∧ n.kind = .newline ∧ q.said = r.said := by
  have hspace (cs : List Char) : Stops wordContinue (' ' :: cs) :=
    stops_cons.mpr (not_wordContinue_of_mem (by simp))
  have hname (cs : List Char) := scans_name isGap_nil hr.speaker (hspace cs)
  have hverb (cs : List Char) := scans_keyword isGap_space (k := .saysWord) rfl (hspace cs)
  have htext (cs : List Char) :=
    scans_of_fits isGap_space (Fits.quotation hr.text : Fits _ _ cs)
  have hbreak := scans_sign isGap_nil (k := .newline) rfl rest
  refine Scans.imp ((hname _).append ((hverb _).append ((htext _).append hbreak))) fun us h => ?_
  obtain ⟨_, _, rfl, ⟨n, rfl, hn, hname⟩, _, _, rfl, ⟨s, rfl, hs⟩, _, _, rfl, ⟨q, rfl, hq, htext⟩,
    b, rfl, hb⟩ := h
  refine ⟨[n, s, q], b, _, rfl, .mk hn hs hq, hb, ?_⟩
  rw [String.ofList_toList] at htext
  exact Prod.ext hname htext

theorem scans_lines {rs : List Remark} (hrs : ∀ r ∈ rs, r.WellFormed) (rest : List Char) :
    Scans (rs.flatMap line) rest fun us =>
      ∃ qs, ListPhrase us qs ∧ qs.map said = rs.map said := by
  induction rs with
  | nil => exact .nil ⟨[], .empty breaks_nil, rfl⟩
  | cons r rs ih =>
    obtain ⟨hr, hrs⟩ := List.forall_mem_cons.mp hrs
    rw [List.flatMap_cons]
    refine Scans.imp ((scans_line hr _).append (ih hrs)) fun us h => ?_
    obtain ⟨_, vs, rfl, ⟨u, n, q, rfl, hu, hn, hq⟩, qs, hvs, hqs⟩ := h
    refine ⟨q :: qs, ?_, by rw [List.map_cons, List.map_cons, hq, hqs]⟩
    rw [List.append_assoc, List.singleton_append]
    exact (ListPhrase.single hu).join hn hvs

end Remark

section

variable {before cs : List Char} {ts : List Token} (hcut : Cut before cs ts)

include hcut

theorem Remark.Phrase.wellFormed {u : List Token} {r : Remark} (h : Remark.Phrase u r)
    (hu : u ⊆ ts) : r.WellFormed := by
  cases h with
  | @mk n s q hn _ hq =>
    exact ⟨hcut.isName_of_mem (hu (by simp)) hn, hcut.quotable_of_mem (hu (by simp)) hq⟩

theorem Transcript.Sentence.wellFormed {t : Transcript} (h : Transcript.Sentence ts t) :
    t.WellFormed := by
  obtain ⟨hus, -⟩ := h
  unfold Transcript.WellFormed
  generalize t.toList = rs at hus
  cases hus with
  | empty _ => simp
  | listed _ hu _ =>
    refine hu.forall_mem fun v r hv hsub => hv.wellFormed hcut fun x hx => ?_
    simp [hsub hx]

end

namespace Transcript

theorem exists_read_render {t : Transcript} (ht : t.WellFormed) :
    ∃ t', read t.render = .ok t' ∧ (t' == t) = true := by
  have hscans := Remark.scans_lines ht []
  rw [← toList_render] at hscans
  obtain ⟨us, q, ⟨qs, hus, hqs⟩, htokens⟩ := hscans.tokenize_eq
  refine ⟨ofList qs, read_of_sentence ?_, beq_iff.mpr (by rw [toList_ofList, hqs])⟩
  rw [htokens]
  exact .mk (by rwa [toList_ofList]) rfl

theorem wellFormed_of_read {source : String} {t : Transcript} (h : read source = .ok t) :
    t.WellFormed := (sentence_of_read h).wellFormed (cut_tokenize source)

/-- Reading what is printed gives an equal chat just if the chat is well formed. All that is read
is, so printing it and reading that changes no more than positions. -/
theorem read_render_iff_wellFormed :
    (∀ t : Transcript, (∃ t', read t.render = .ok t' ∧ (t' == t) = true) ↔ t.WellFormed) ∧
      ∀ (source : String) (t : Transcript), read source = .ok t →
        t.WellFormed ∧ ∃ t', read t.render = .ok t' ∧ (t' == t) = true ∧ t'.render = t.render := by
  constructor
  · intro t
    constructor
    · intro h
      obtain ⟨t', hread, heq⟩ := h
      exact (wellFormed_of_read hread).of_beq heq
    · exact exists_read_render
  · intro source t hread
    have ht := wellFormed_of_read hread
    obtain ⟨t', hread', heq⟩ := exists_read_render ht
    exact ⟨ht, t', hread', heq, render_congr heq⟩

end Transcript

end EntityChat
