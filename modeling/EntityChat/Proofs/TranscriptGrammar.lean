import EntityChat.Proofs.Phrases
import EntityChat.Transcript

/-!
The grammar of chats, and the machine that knows it. A chat is

    newline* (REMARK (newline+ REMARK)* newline*)?

up to the end of input, and a remark is `NAME says QUOTATION`. A sentence has one transcript, and
two chats with a line break between them are a chat.
-/

namespace EntityChat

def Breaks (us : List Token) : Prop := ∀ u ∈ us, u.kind = .newline

def Parts (us : List Token) : Prop := us ≠ [] ∧ Breaks us

inductive Remark.Phrase : List Token → Remark → Prop
  | mk {n s q : Token} : n.kind = .identifier → s.kind = .saysWord → q.kind = .quotation →
      Phrase [n, s, q] ⟨n.identifier, q.lexeme⟩

/-- The remarks of a chat: none, or some with line breaks between any two. Further line breaks may
stand before the first and behind the last. -/
inductive Remark.ListPhrase : List Token → List Remark → Prop
  | empty {b} : Breaks b → ListPhrase b []
  | listed {b u w rs} : Breaks b → Separated Parts Remark.Phrase u rs → Breaks w →
      ListPhrase (b ++ u ++ w) rs

inductive Transcript.Sentence : List Token → Transcript → Prop
  | mk {us : List Token} {z : Token} {t : Transcript} : Remark.ListPhrase us t.toList →
      z.kind = .endOfInput → Sentence (us ++ [z]) t

def Transcript.Grammatical (ks : List Kind) : Prop := ∃ ts t, Transcript.Sentence ts t ∧ kinds ts = ks

theorem breaks_nil : Breaks [] := by simp [Breaks]

theorem Breaks.append {b c : List Token} (hb : Breaks b) (hc : Breaks c) : Breaks (b ++ c) :=
  List.forall_mem_append.mpr ⟨hb, hc⟩

theorem Breaks.cons {n : Token} {b : List Token} (hn : n.kind = .newline) (hb : Breaks b) :
    Breaks (n :: b) := List.forall_mem_cons.mpr ⟨hn, hb⟩

namespace Remark

theorem Phrase.begins {u : List Token} {r : Remark} (h : Phrase u r) :
    ∃ n w, u = n :: w ∧ n.kind = .identifier := by
  cases h with
  | mk hn _ _ => exact ⟨_, _, rfl, hn⟩

theorem begins_of_separated {u : List Token} {rs : List Remark} (h : Separated Parts Phrase u rs) :
    ∃ n w, u = n :: w ∧ n.kind = .identifier := by
  obtain ⟨v, r, w, hv, rfl⟩ := h.begins
  obtain ⟨n, x, rfl, hn⟩ := hv.begins
  exact ⟨n, x ++ w, rfl, hn⟩

namespace ListPhrase

theorem single {u : List Token} {r : Remark} (hu : Phrase u r) : ListPhrase u [r] := by
  have h : ListPhrase ([] ++ u ++ []) [r] := .listed breaks_nil (.one hu) breaks_nil
  simpa using h

theorem breaks_append {b u : List Token} {rs : List Remark} (hb : Breaks b) (h : ListPhrase u rs) :
    ListPhrase (b ++ u) rs := by
  cases h with
  | empty hc => exact .empty (hb.append hc)
  | listed hc hu hw =>
    rw [← List.append_assoc, ← List.append_assoc]
    exact .listed (hb.append hc) hu hw

theorem join {u v : List Token} {n : Token} {rs qs : List Remark} (h : ListPhrase u rs)
    (hn : n.kind = .newline) (h' : ListPhrase v qs) : ListPhrase (u ++ n :: v) (rs ++ qs) := by
  cases h with
  | empty hb =>
    have hall := h'.breaks_append (hb.append (.cons hn breaks_nil))
    simpa using hall
  | @listed b u w rs hb hu hw =>
    cases h' with
    | empty hv =>
      have htext : b ++ u ++ w ++ n :: v = b ++ u ++ (w ++ n :: v) := by simp
      rw [htext, List.append_nil]
      exact .listed hb hu (hw.append (.cons hn hv))
    | @listed b' u' w' qs hb' hu' hw' =>
      have htext : b ++ u ++ w ++ n :: (b' ++ u' ++ w') =
          b ++ (u ++ (w ++ n :: b') ++ u') ++ w' := by simp
      have hparts : Parts (w ++ n :: b') := ⟨by simp, hw.append (.cons hn hb')⟩
      rw [htext]
      exact .listed hb (hu.append hparts hu') hw'

end ListPhrase

end Remark

inductive ChatStage
  | fresh
  | named
  | quoting
  | spoken
  | finished
deriving DecidableEq

namespace ChatStage

def next : ChatStage → Kind → Option ChatStage
  | fresh, .newline => some fresh
  | fresh, .identifier => some named
  | fresh, .endOfInput => some finished
  | named, .saysWord => some quoting
  | quoting, .quotation => some spoken
  | spoken, .newline => some fresh
  | spoken, .endOfInput => some finished
  | _, _ => none

def machine : Machine ChatStage where
  start := fresh
  next := next
  last := finished
  start_ne_last := by decide
  eq_last_iff q k r h := by cases q <;> cases k <;> cases h <;> decide
  next_last _ := rfl

def way : ChatStage → List Kind
  | named => [.saysWord, .quotation, .endOfInput]
  | quoting => [.quotation, .endOfInput]
  | fresh | spoken => [.endOfInput]
  | finished => []

theorem run_way (q : ChatStage) : machine.run q q.way = some finished := by
  cases q <;> rfl

theorem next_newline (q : ChatStage) :
    q.next .newline = (q.next .endOfInput).map fun _ => fresh := by
  cases q <;> rfl

theorem next_newline_of_next_end {q : ChatStage} (h : q.next .endOfInput = some finished) :
    q.next .newline = some fresh := by
  rw [next_newline, h]
  rfl

end ChatStage

open ChatStage

theorem Breaks.run {b : List Token} (h : Breaks b) : machine.run fresh (kinds b) = some fresh :=
  Machine.run_of_loop rfl h

theorem Parts.run {b : List Token} (h : Parts b) : machine.run spoken (kinds b) = some fresh := by
  obtain ⟨hne, hb⟩ := h
  obtain ⟨n, b, rfl⟩ := List.exists_cons_of_ne_nil hne
  obtain ⟨hn, hb⟩ := List.forall_mem_cons.mp hb
  have hstep : machine.next spoken n.kind = some fresh := by rw [hn]; rfl
  exact (Machine.run_cons_of_next hstep).trans (Breaks.run hb)

theorem Remark.Phrase.run {u : List Token} {r : Remark} (h : Remark.Phrase u r) :
    machine.run fresh (kinds u) = some spoken := by
  cases h with
  | mk hn hs hq => simp [kinds, Machine.run, machine, next, hn, hs, hq]

theorem Remark.ListPhrase.run {u : List Token} {rs : List Remark} (h : Remark.ListPhrase u rs) :
    ∃ q, q.next .endOfInput = some finished ∧ machine.run fresh (kinds u) = some q := by
  cases h with
  | empty hb => exact ⟨fresh, rfl, hb.run⟩
  | @listed b u w rs hb hu hw =>
    obtain ⟨_, rfl, hrun⟩ := hu.run (R := (· = spoken)) (fun _ _ h => ⟨spoken, rfl, h.run⟩)
      fun s r hs hr => hr ▸ hs.run
    rw [kinds_append, kinds_append, Machine.run_append, Machine.run_append, hb.run,
      Option.bind_some, hrun, Option.bind_some]
    by_cases hne : w = []
    · subst hne
      exact ⟨spoken, rfl, rfl⟩
    · exact ⟨fresh, rfl, Parts.run ⟨hne, hw⟩⟩

theorem Transcript.Sentence.run {ts : List Token} {t : Transcript} (h : Transcript.Sentence ts t) :
    machine.run fresh (kinds ts) = some finished := by
  obtain ⟨hus, hz⟩ := h
  obtain ⟨q, hq, hrun⟩ := hus.run
  rw [kinds_append, Machine.run_append, hrun, Option.bind_some, kinds_singleton,
    Machine.run_singleton, hz]
  exact hq

def Remark.Tail (x : List Token) : Prop :=
  ∃ w z y, x = w ++ z :: y ∧ Breaks w ∧ z.kind = .endOfInput

theorem Remark.legible : Legible Parts Remark.Phrase (fun _ => True) Remark.Tail where
  phrase := by
    intro u u' v v' a a' hu hu' _ _ heq
    cases hu with
    | mk _ _ _ =>
      cases hu' with
      | mk _ _ _ =>
        simp only [List.cons_append, List.nil_append, List.cons.injEq] at heq
        obtain ⟨rfl, rfl, rfl, rfl⟩ := heq
        exact ⟨rfl, rfl, rfl⟩
  separator := by
    intro s s' u u' v v' a a' hs hs' hu hu' heq
    obtain ⟨n, w, rfl, hn⟩ := hu.begins
    obtain ⟨n', w', rfl, hn'⟩ := hu'.begins
    obtain ⟨rfl, rfl, hrest⟩ := append_cons_inj hs.2 hs'.2 (by simp [hn]) (by simp [hn']) heq
    exact ⟨rfl, congrArg (n :: ·) hrest⟩
  follow _ := trivial
  tail _ := trivial
  stop := by
    intro s u v a hs hu hx
    obtain ⟨n, w, rfl, hn⟩ := hu.begins
    obtain ⟨w', z, y, heq, hw', hz⟩ := hx
    obtain ⟨-, rfl, -⟩ := append_cons_inj hs.2 hw' (by simp [hn]) (by simp [hz]) heq
    rw [hn] at hz
    cases hz

theorem Remark.not_breaks_of_separated {b u w : List Token} {rs : List Remark}
    (hu : Separated Parts Remark.Phrase u rs) : ¬ Breaks (b ++ u ++ w) := by
  intro hbreaks
  obtain ⟨n, x, rfl, hn⟩ := begins_of_separated hu
  have hn' := hbreaks n (by simp)
  rw [hn] at hn'
  cases hn'

theorem Remark.ListPhrase.unique {u : List Token} {z : Token} {rs rs' : List Remark}
    (hz : z.kind = .endOfInput) (h : Remark.ListPhrase u rs) (h' : Remark.ListPhrase u rs') :
    rs = rs' := by
  cases h with
  | empty hb =>
    generalize hv : u = v at h'
    cases h' with
    | empty => rfl
    | listed _ hu _ =>
      rw [hv] at hb
      exact absurd hb (not_breaks_of_separated hu)
  | @listed b u w rs hb hu hw =>
    generalize hv : b ++ u ++ w = v at h'
    cases h' with
    | empty hb' =>
      rw [← hv] at hb'
      exact absurd hb' (not_breaks_of_separated hu)
    | @listed b' u' w' rs' hb' hu' hw' =>
      obtain ⟨n, x, hx, hn⟩ := begins_of_separated hu
      obtain ⟨n', x', hx', hn'⟩ := begins_of_separated hu'
      have heq : b ++ n :: (x ++ (w ++ [z])) = b' ++ n' :: (x' ++ (w' ++ [z])) := by
        rw [← List.cons_append, ← hx, ← List.cons_append, ← hx']
        simpa using congrArg (· ++ [z]) hv
      obtain ⟨-, rfl, hrest⟩ := append_cons_inj hb hb' (by simp [hn]) (by simp [hn']) heq
      have htail : u ++ (w ++ [z]) = u' ++ (w' ++ [z]) := by
        rw [hx, hx', List.cons_append, List.cons_append, hrest]
      exact (hu.unique legible hu' ⟨w, z, [], rfl, hw, hz⟩ ⟨w', z, [], rfl, hw', hz⟩ htail).2.1

theorem Transcript.Sentence.listPhrase {us : List Token} {z : Token} {t : Transcript}
    (h : Transcript.Sentence (us ++ [z]) t) : Remark.ListPhrase us t.toList := by
  generalize hts : us ++ [z] = ts at h
  obtain ⟨hvs, -⟩ := h
  obtain ⟨rfl, -⟩ := List.append_inj' hts rfl
  exact hvs

theorem Transcript.Sentence.unique {ts : List Token} {t t' : Transcript}
    (h : Transcript.Sentence ts t) (h' : Transcript.Sentence ts t') : t = t' := by
  obtain ⟨hus, hz⟩ := h
  exact toList_injective (hus.unique hz h'.listPhrase)

end EntityChat
