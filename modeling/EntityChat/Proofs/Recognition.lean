import EntityChat.Proofs.Phrases

/-!
Rules that follow a machine. What such a rule reads is a sentence, and where it fails the machine is
stuck. So it reads every sentence, the machine knows the kinds of the sentences, and tokens that
form none are rejected with the one diagnostic that belongs to them.
-/

namespace EntityChat

variable {α σ : Type}

/-- The rule keeps in step with the machine, `S` being the sentences and `W` the kinds which a
diagnostic names in each state. -/
structure Follows (rule : Rule α) (m : Machine σ) (W : σ → List Kind → Prop)
    (S : List Token → α → Prop) : Prop where
  ensures {ts : List Token} : Ended ts →
    rule.Ensures ⟨.ofTokens ts, []⟩ (fun a _ => S ts a) (m.Halts W ts)
  run {ts : List Token} {a : α} : S ts a → m.run m.start (kinds ts) = some m.last
  unique {ts : List Token} {a b : α} : S ts a → S ts b → a = b
  live : ∀ q, ∃ w, m.run q w = some m.last

namespace Follows

variable {rule : Rule α} {m : Machine σ} {W : σ → List Kind → Prop} {S : List Token → α → Prop}
  {ts : List Token} {a : α} {d : Diagnostic} (h : Follows rule m W S)

include h

theorem sentence_of_ok (hts : Ended ts) (hr : (rule.run ⟨.ofTokens ts, []⟩).1 = .ok a) : S ts a :=
  (h.ensures hts).of_ok hr

theorem rejects_of_error (hts : Ended ts) (hr : (rule.run ⟨.ofTokens ts, []⟩).1 = .error d) :
    m.Rejects W ts d := ((h.ensures hts).of_error hr).rejects hts

theorem exists_ok_of_run (hrun : m.run m.start (kinds ts) = some m.last) :
    ∃ a, (rule.run ⟨.ofTokens ts, []⟩).1 = .ok a := by
  have hts := Machine.ended_of_run_last hrun
  cases hr : (rule.run ⟨.ofTokens ts, []⟩).1 with
  | ok a => exact ⟨a, rfl⟩
  | error d =>
    rw [(h.rejects_of_error hts hr).run_eq_none] at hrun
    cases hrun

theorem ok_iff (hts : Ended ts) : (rule.run ⟨.ofTokens ts, []⟩).1 = .ok a ↔ S ts a := by
  constructor
  · exact h.sentence_of_ok hts
  · intro ha
    obtain ⟨b, hb⟩ := h.exists_ok_of_run (h.run ha)
    rw [hb, h.unique (h.sentence_of_ok hts hb) ha]

theorem error_iff (hW : ∀ q ks ks', W q ks → W q ks' → ∀ k, k ∈ ks ↔ k ∈ ks') (hts : Ended ts) :
    (rule.run ⟨.ofTokens ts, []⟩).1 = .error d ↔ m.Rejects W ts d := by
  constructor
  · exact h.rejects_of_error hts
  · intro hd
    cases hr : (rule.run ⟨.ofTokens ts, []⟩).1 with
    | ok a =>
      have hrun := h.run (h.sentence_of_ok hts hr)
      rw [hd.run_eq_none] at hrun
      cases hrun
    | error d' => rw [(h.rejects_of_error hts hr).unique hW hd]

theorem knows : m.Knows fun ks => ∃ ts a, S ts a ∧ kinds ts = ks where
  sentence_iff ks := by
    constructor
    · intro hks
      obtain ⟨ts, a, ha, rfl⟩ := hks
      exact h.run ha
    · intro hrun
      -- a run of the rule over tokens of these kinds builds the tree
      obtain ⟨ts, rfl⟩ := exists_kinds_eq ks
      obtain ⟨a, ha⟩ := h.exists_ok_of_run hrun
      exact ⟨ts, a, h.sentence_of_ok (Machine.ended_of_run_last hrun) ha, rfl⟩
  live := h.live

end Follows

end EntityChat
