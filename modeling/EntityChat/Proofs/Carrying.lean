import EntityChat.Proofs.EntityGrammar
import EntityChat.Proofs.Moving
import EntityChat.Proofs.TranscriptGrammar

/-!
A sentence stays a sentence when its tokens stand elsewhere and its keywords are spelled otherwise.
Its tree stays the same as well, but that the identifiers move along with their tokens.
-/

namespace EntityChat

section

variable (g : Position → Position)

def Identifier.moved (n : Identifier) : Identifier := ⟨n.name, g n.position⟩

def Member.moved (m : Member) : Member := { m with name := m.name.moved g }

def Entity.moved (e : Entity) : Entity := ⟨e.name.moved g, e.members.map (Member.moved g)⟩

def Remark.moved (r : Remark) : Remark := ⟨r.speaker.moved g, r.text⟩

def Transcript.moved (t : Transcript) : Transcript := .ofList (t.toList.map (Remark.moved g))

def Diagnostic.moved (d : Diagnostic) : Diagnostic :=
  ⟨g d.position, d.expected, d.found.moved g⟩

end

/-- Every token keeps its kind and, unless it is a keyword, its lexeme. It moves as `g` says. -/
structure Carries (f : Token → Token) (g : Position → Position) : Prop where
  kind (t : Token) : (f t).kind = t.kind
  lexeme (t : Token) : t.kind.spelling? = none → (f t).lexeme = t.lexeme
  position (t : Token) : (f t).position = g t.position

theorem carries_moved (g : Position → Position) : Carries (Token.moved g) g :=
  ⟨fun _ => rfl, fun _ _ => rfl, fun _ => rfl⟩

section

variable {f : Token → Token} {g : Position → Position} {k : Kind}

theorem Carries.kind_eq (hf : Carries f g) {t : Token} (ht : t.kind = k) : (f t).kind = k :=
  (hf.kind t).trans ht

theorem Carries.lexeme_eq (hf : Carries f g) {t : Token} (ht : t.kind = k)
    (hk : k.spelling? = none) : (f t).lexeme = t.lexeme :=
  hf.lexeme t (ht ▸ hk)

theorem Carries.identifier_eq (hf : Carries f g) {t : Token} (ht : t.kind = .identifier) :
    (f t).identifier = t.identifier.moved g := by
  rw [Token.identifier, hf.lexeme_eq ht rfl, hf.position]
  rfl

theorem Carries.forall_kind_eq (hf : Carries f g) {us : List Token} (h : ∀ u ∈ us, u.kind = k) :
    ∀ u ∈ us.map f, u.kind = k :=
  List.forall_mem_map.mpr fun u hu => hf.kind_eq (h u hu)

theorem Carries.kinds_map (hf : Carries f g) (ts : List Token) : kinds (ts.map f) = kinds ts := by
  rw [kinds, List.map_map]
  exact List.map_congr_left fun t _ => hf.kind t

theorem Single.carried (hf : Carries f g) {s : List Token} (h : Single k s) :
    Single k (s.map f) := by
  obtain ⟨c, rfl, hc⟩ := h
  exact ⟨f c, rfl, hf.kind_eq hc⟩

theorem Member.Phrase.carried (hf : Carries f g) {u : List Token} {m : Member}
    (h : Member.Phrase u m) : Member.Phrase (u.map f) (m.moved g) := by
  cases h with
  | @plain n c t hn hc ht =>
    rw [Member.moved, ← hf.identifier_eq hn, ← hf.lexeme_eq ht rfl]
    exact .plain (hf.kind_eq hn) (hf.kind_eq hc) (hf.kind_eq ht)
  | @restricted n c t o r us hn hc ht ho hne hus hr =>
    rw [Member.moved, ← hf.identifier_eq hn, ← hf.lexeme_eq ht rfl, List.map_append,
      List.map_append]
    exact .restricted (hf.kind_eq hn) (hf.kind_eq hc) (hf.kind_eq ht) (hf.kind_eq ho)
      (mt List.map_eq_nil_iff.mp hne) (hf.forall_kind_eq hus) (hf.kind_eq hr)

theorem Member.ListPhrase.carried (hf : Carries f g) {u : List Token} {ms : List Member}
    (h : Member.ListPhrase u ms) : Member.ListPhrase (u.map f) (ms.map (Member.moved g)) := by
  cases h with
  | empty => exact .empty
  | listed hu hw =>
    rw [List.map_append]
    refine .listed (hu.map (fun _ _ h => h.carried hf) fun _ h => h.carried hf) ?_
    exact hw.imp (fun hw => by rw [hw, List.map_nil]) fun hw => hw.carried hf

theorem Entity.Sentence.carried (hf : Carries f g) {ts : List Token} {e : Entity}
    (h : Entity.Sentence ts e) : Entity.Sentence (ts.map f) (e.moved g) := by
  obtain @⟨a, b, n, o, r, z, us, ms, ha, hb, hn, ho, hus, hr, hz⟩ := h
  rw [List.map_append, List.map_append, Entity.moved, ← hf.identifier_eq hn]
  exact .mk (hf.kind_eq ha) (hf.kind_eq hb) (hf.kind_eq hn) (hf.kind_eq ho) (hus.carried hf)
    (hf.kind_eq hr) (hf.kind_eq hz)

theorem Parts.carried (hf : Carries f g) {b : List Token} (h : Parts b) : Parts (b.map f) :=
  ⟨mt List.map_eq_nil_iff.mp h.1, hf.forall_kind_eq h.2⟩

theorem Remark.Phrase.carried (hf : Carries f g) {u : List Token} {r : Remark}
    (h : Remark.Phrase u r) : Remark.Phrase (u.map f) (r.moved g) := by
  cases h with
  | @mk n s q hn hs hq =>
    rw [Remark.moved, ← hf.identifier_eq hn, ← hf.lexeme_eq hq rfl]
    exact .mk (hf.kind_eq hn) (hf.kind_eq hs) (hf.kind_eq hq)

theorem Remark.ListPhrase.carried (hf : Carries f g) {u : List Token} {rs : List Remark}
    (h : Remark.ListPhrase u rs) : Remark.ListPhrase (u.map f) (rs.map (Remark.moved g)) := by
  cases h with
  | empty hb => exact .empty (hf.forall_kind_eq hb)
  | listed hb hu hw =>
    rw [List.map_append, List.map_append]
    exact .listed (hf.forall_kind_eq hb)
      (hu.map (fun _ _ h => h.carried hf) fun _ h => h.carried hf) (hf.forall_kind_eq hw)

theorem Transcript.Sentence.carried (hf : Carries f g) {ts : List Token} {t : Transcript}
    (h : Transcript.Sentence ts t) : Transcript.Sentence (ts.map f) (t.moved g) := by
  obtain @⟨us, z, t, hus, hz⟩ := h
  rw [List.map_append]
  refine .mk ?_ (hf.kind_eq hz)
  rw [Transcript.moved, Transcript.toList_ofList]
  exact hus.carried hf

end

theorem Machine.Rejects.moved {σ : Type} {m : Machine σ} {W : σ → List Kind → Prop}
    {ts : List Token} {d : Diagnostic} (h : m.Rejects W ts d) (g : Position → Position) :
    m.Rejects W (ts.map (Token.moved g)) (d.moved g) := by
  obtain ⟨us, u, vs, q, ks, rfl, hrun, hnone, hks, rfl⟩ := h
  refine ⟨us.map (Token.moved g), u.moved g, vs.map (Token.moved g), q, ks, ?_, ?_, hnone, hks, rfl⟩
  · rw [List.map_append, List.map_cons]
  · rw [(carries_moved g).kinds_map, hrun]

end EntityChat
