import EntityChat.Proofs.Carrying
import EntityChat.Proofs.TranscriptReading

/-!
Reading two chats with a line break between them. It is to read each of them and to put the second
below the first. If one cannot be read the diagnostic is that of the first which cannot, and where
that one met the end of its text it now meets the line break.
-/

namespace EntityChat

open ChatStage

theorem Transcript.Sentence.moved {f : Position → Position} {ts : List Token} {t : Transcript}
    (h : Transcript.Sentence ts t) : Transcript.Sentence (ts.map (Token.moved f)) (t.moved f) :=
  h.carried (carries_moved f)

def Diagnostic.broken (d : Diagnostic) : Diagnostic :=
  if d.found.kind = .endOfInput then { d with found := ⟨.newline, "\n", d.found.position⟩ } else d

namespace Transcript

def append (t u : Transcript) : Transcript := ofList (t.toList ++ u.toList)

theorem toList_append (t u : Transcript) : (t.append u).toList = t.toList ++ u.toList :=
  toList_ofList _

/-- What reading gives of two texts with a line break between them, by what it gives of the first,
which is `a`, and of the second. -/
def joined (a : String) :
    Except Diagnostic Transcript → Except Diagnostic Transcript → Except Diagnostic Transcript
  | .ok t, .ok u => .ok (t.append (u.moved (Position.below a)))
  | .ok _, .error d => .error (d.moved (Position.below a))
  | .error d, _ => .error d.broken

variable {us ts : List Token} {z n : Token} {t u : Transcript} {d : Diagnostic}

theorem Sentence.join (h : Sentence (us ++ [z]) t) (hn : n.kind = .newline) (h' : Sentence ts u) :
    Sentence (us ++ n :: ts) (t.append u) := by
  obtain @⟨vs, y, u, hvs, hy⟩ := h'
  rw [← List.cons_append, ← List.append_assoc]
  refine .mk ?_ hy
  rw [toList_append]
  exact h.listPhrase.join hn hvs

theorem Sentence.run_newline (h : Sentence (us ++ [z]) t) (hn : n.kind = .newline) :
    machine.run fresh (kinds (us ++ [n])) = some fresh := by
  obtain ⟨q, hq, hrun⟩ := h.listPhrase.run
  rw [kinds_append, Machine.run_append, hrun, Option.bind_some, kinds_singleton,
    Machine.run_singleton, hn]
  exact next_newline_of_next_end hq

theorem rejects_broken {p : Position} (hend : Ended (us ++ [Token.finish p]))
    (h : machine.Rejects Asks (us ++ [Token.finish p]) d) :
    machine.Rejects Asks (us ++ ⟨.newline, "\n", p⟩ :: ts) d.broken := by
  have hus := hend.kind_ne
  obtain ⟨vs, x, ws, q, ks, hplace, hrun, hnone, hks, rfl⟩ := h
  rcases List.eq_nil_or_concat ws with rfl | ⟨ws, y, rfl⟩
  · -- the first text ends too early, and a line break is no better than its end
    obtain ⟨rfl, hx⟩ := List.append_inj' hplace rfl
    obtain rfl := List.head_eq_of_cons_eq hx
    have hnone' : q.next .newline = none := by
      rw [next_newline, show q.next .endOfInput = none from hnone]
      rfl
    exact ⟨us, _, ts, q, ks, rfl, hrun, hnone', hks, rfl⟩
  · rw [List.concat_eq_append, ← List.cons_append, ← List.append_assoc] at hplace
    obtain ⟨rfl, -⟩ := List.append_inj' hplace rfl
    have hx : (Diagnostic.unexpected x ks).broken = .unexpected x ks := if_neg (hus x (by simp))
    rw [hx]
    exact ⟨vs, x, _, q, ks, by rw [List.append_assoc, List.cons_append], hrun, hnone, hks, rfl⟩

/-- Two texts with a line break between them are read as each of them is, the second moved below
the first, and what is wrong with the first is wrong with both. -/
theorem read_join (a b : String) : read (a ++ "\n" ++ b) = joined a (read a) (read b) := by
  obtain ⟨us, q, ha, hjoin⟩ := tokenize_join a b
  cases hread : read a with
  | ok t =>
    have hus := sentence_of_read hread
    rw [ha] at hus
    cases hread' : read b with
    | ok u =>
      refine read_of_sentence ?_
      rw [hjoin]
      exact hus.join rfl (sentence_of_read hread').moved
    | error d =>
      refine rejects_iff.mpr ?_
      rw [hjoin, List.append_cons]
      exact ((rejects_iff.mp hread').moved _).append_left (hus.run_newline rfl)
  | error d =>
    have hend := ended_tokenize a
    have hd := rejects_iff.mp hread
    rw [ha] at hend hd
    refine rejects_iff.mpr ?_
    rw [hjoin]
    exact rejects_broken hend hd

end Transcript

end EntityChat
