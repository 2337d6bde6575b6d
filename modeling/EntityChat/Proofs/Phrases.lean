import EntityChat.Proofs.Machines

/-!
Phrases are lists of tokens, each with the value that it stands for. Phrases set apart by separators
form a list which is read in one way only, if one phrase is and the tails that may follow the list
cannot be taken for more of it.
-/

namespace EntityChat

theorem exists_kinds_eq (ks : List Kind) : ∃ ts, kinds ts = ks :=
  ⟨ks.map fun k => ⟨k, "", .start⟩, by simp [kinds, Function.comp_def]⟩

def Single (k : Kind) (s : List Token) : Prop := ∃ c : Token, s = [c] ∧ c.kind = k

theorem Single.run {σ : Type} {m : Machine σ} {q : σ} {k : Kind} {s : List Token}
    (h : Single k s) : m.run q (kinds s) = m.next q k := by
  obtain ⟨c, rfl, hc⟩ := h
  rw [kinds_singleton, Machine.run_singleton, hc]

theorem append_cons_inj {k : Kind} {us us' v v' : List Token} {r r' : Token}
    (hus : ∀ u ∈ us, u.kind = k) (hus' : ∀ u ∈ us', u.kind = k) (hr : r.kind ≠ k)
    (hr' : r'.kind ≠ k) (heq : us ++ r :: v = us' ++ r' :: v') : us = us' ∧ r = r' ∧ v = v' := by
  induction us generalizing us' with
  | nil =>
    cases us' with
    | nil => exact ⟨rfl, List.cons.inj heq⟩
    | cons u' us' =>
      obtain ⟨rfl, -⟩ := List.cons.inj heq
      exact absurd (hus' r List.mem_cons_self) hr
  | cons u us ih =>
    cases us' with
    | nil =>
      obtain ⟨rfl, -⟩ := List.cons.inj heq
      exact absurd (hus u List.mem_cons_self) hr'
    | cons u' us' =>
      obtain ⟨rfl, htail⟩ := List.cons.inj heq
      obtain ⟨rfl, h⟩ := ih (List.forall_mem_cons.mp hus).2 (List.forall_mem_cons.mp hus').2 htail
      exact ⟨rfl, h⟩

section

variable {α σ : Type} {S : List Token → Prop} {P : List Token → α → Prop}

/-- One phrase, or several with a separator between any two. -/
inductive Separated (S : List Token → Prop) (P : List Token → α → Prop) :
    List Token → List α → Prop
  | one {u a} : P u a → Separated S P u [a]
  | more {u s v a as} : P u a → S s → Separated S P v as → Separated S P (u ++ s ++ v) (a :: as)

theorem Separated.begins {u : List Token} {as : List α} (h : Separated S P u as) :
    ∃ v a w, P v a ∧ u = v ++ w := by
  cases h with
  | one h => exact ⟨u, _, [], h, by simp⟩
  | @more v s w a as h _ _ => exact ⟨v, a, s ++ w, h, by simp⟩

theorem Separated.append {u s v : List Token} {as bs : List α} (h : Separated S P u as) (hs : S s)
    (h' : Separated S P v bs) : Separated S P (u ++ s ++ v) (as ++ bs) := by
  induction h with
  | one hu => exact .more hu hs h'
  | more hu hr _ ih =>
    have hmore := Separated.more hu hr ih
    simpa using hmore

theorem Separated.map {β : Type} {S' : List Token → Prop} {P' : List Token → β → Prop}
    {f : Token → Token} {g : α → β} (hP : ∀ v a, P v a → P' (v.map f) (g a))
    (hS : ∀ s, S s → S' (s.map f)) {u : List Token} {as : List α} (h : Separated S P u as) :
    Separated S' P' (u.map f) (as.map g) := by
  induction h with
  | one hu => exact .one (hP _ _ hu)
  | more hu hs _ ih =>
    rw [List.map_append, List.map_append]
    exact .more (hP _ _ hu) (hS _ hs) ih

theorem Separated.forall_mem {Q : α → Prop} {u : List Token} {as : List α}
    (h : Separated S P u as) (hP : ∀ v a, P v a → v ⊆ u → Q a) : ∀ a ∈ as, Q a := by
  induction h with
  | one hu => exact List.forall_mem_singleton.mpr (hP _ _ hu (List.Subset.refl _))
  | more hu _ _ ih =>
    refine List.forall_mem_cons.mpr ⟨hP _ _ hu ?_, ih fun v a hv hsub => hP v a hv ?_⟩
    · intro t ht
      exact List.mem_append_left _ (List.mem_append_left _ ht)
    · intro t ht
      exact List.mem_append_right _ (hsub ht)

theorem Separated.exists_sublist_map {β : Type} {p : Token → Prop} {f : Token → β} {g : α → β}
    (hP : ∀ v a, P v a → ∃ t ∈ v, p t ∧ g a = f t) {u : List Token} {as : List α}
    (h : Separated S P u as) :
    ∃ ts : List Token, ts.Sublist u ∧ (∀ t ∈ ts, p t) ∧ as.map g = ts.map f := by
  induction h with
  | one hu =>
    obtain ⟨t, ht, hp, heq⟩ := hP _ _ hu
    exact ⟨[t], List.singleton_sublist.mpr ht, List.forall_mem_singleton.mpr hp, by simp [heq]⟩
  | more hu _ _ ih =>
    obtain ⟨t, ht, hp, heq⟩ := hP _ _ hu
    obtain ⟨ts, hsub, hps, hmap⟩ := ih
    refine ⟨t :: ts, ?_, List.forall_mem_cons.mpr ⟨hp, hps⟩, by simp [heq, hmap]⟩
    have hfirst := (List.singleton_sublist.mpr ht).append hsub
    exact hfirst.trans ((List.sublist_append_left _ _).append_right _)

theorem Separated.exists_sublist {u : List Token} {as : List α} (h : Separated S P u as) :
    ∀ a ∈ as, ∃ v, P v a ∧ v.Sublist u := by
  induction h with
  | one hu => exact List.forall_mem_singleton.mpr ⟨_, hu, List.Sublist.refl _⟩
  | @more u s v a as hu _ _ ih =>
    refine List.forall_mem_cons.mpr ⟨⟨u, hu, by simp⟩, fun b hb => ?_⟩
    obtain ⟨w, hw, hsub⟩ := ih b hb
    exact ⟨w, hw, hsub.trans (List.sublist_append_right _ _)⟩

theorem Separated.pairwise {R : Token → Token → Prop} {Q : α → α → Prop}
    (hQ : ∀ v s w a b, P v a → S s → P w b → (v ++ s ++ w).Pairwise R → Q a b)
    {u : List Token} {as : List α} (h : Separated S P u as) (hu : u.Pairwise R) :
    as.Pairwise Q := by
  induction h with
  | one _ => exact List.pairwise_singleton _ _
  | @more u s v a as hphrase hs hrest ih =>
    apply List.pairwise_cons.mpr
    constructor
    · intro b hb
      obtain ⟨w, hw, hsub⟩ := hrest.exists_sublist b hb
      exact hQ u s w a b hphrase hs hw (hu.sublist (hsub.append_left _))
    · exact ih (hu.sublist (List.sublist_append_right _ _))

theorem Separated.run {m : Machine σ} {q : σ} {R : σ → Prop}
    (hP : ∀ u a, P u a → ∃ r, R r ∧ m.run q (kinds u) = some r)
    (hS : ∀ s r, S s → R r → m.run r (kinds s) = some q) {u : List Token} {as : List α}
    (h : Separated S P u as) : ∃ r, R r ∧ m.run q (kinds u) = some r := by
  induction h with
  | one h => exact hP _ _ h
  | @more u s v a as hu hs _ ih =>
    obtain ⟨r, hr, hrun⟩ := hP u a hu
    obtain ⟨r', hr', hrun'⟩ := ih
    refine ⟨r', hr', ?_⟩
    rw [kinds_append, kinds_append, Machine.run_append, Machine.run_append, hrun, Option.bind_some,
      hS s r hs hr, Option.bind_some, hrun']

/-- Lists that can be read from left to right: `F` holds of what may follow a phrase, `T` of what
may follow a list. -/
structure Legible (S : List Token → Prop) (P : List Token → α → Prop)
    (F T : List Token → Prop) : Prop where
  phrase {u u' v v' : List Token} {a a' : α} : P u a → P u' a' → F v → F v' → u ++ v = u' ++ v' →
    u = u' ∧ a = a' ∧ v = v'
  separator {s s' u u' v v' : List Token} {a a' : α} : S s → S s' → P u a → P u' a' →
    s ++ (u ++ v) = s' ++ (u' ++ v') → s = s' ∧ u ++ v = u' ++ v'
  follow {s v : List Token} : S s → F (s ++ v)
  tail {x : List Token} : T x → F x
  stop {s u v : List Token} {a : α} : S s → P u a → ¬ T (s ++ (u ++ v))

theorem Separated.unique {F T : List Token → Prop} (hl : Legible S P F T)
    {u u' x x' : List Token} {as as' : List α} (h : Separated S P u as)
    (h' : Separated S P u' as') (hx : T x) (hx' : T x') (heq : u ++ x = u' ++ x') :
    u = u' ∧ as = as' ∧ x = x' := by
  induction h generalizing u' as' with
  | @one u a hu =>
    cases h' with
    | one hu' =>
      obtain ⟨rfl, rfl, rfl⟩ := hl.phrase hu hu' (hl.tail hx) (hl.tail hx') heq
      exact ⟨rfl, rfl, rfl⟩
    | @more u' s' v' a' as' hu' hs' hv' =>
      rw [List.append_assoc, List.append_assoc] at heq
      obtain ⟨-, -, rfl⟩ := hl.phrase hu hu' (hl.tail hx) (hl.follow hs') heq
      obtain ⟨w, b, y, hw, rfl⟩ := hv'.begins
      rw [List.append_assoc] at hx
      exact absurd hx (hl.stop hs' hw)
  | @more u s v a as hu hs hv ih =>
    obtain ⟨w, b, y, hw, hwv⟩ := hv.begins
    rw [List.append_assoc, List.append_assoc] at heq
    cases h' with
    | one hu' =>
      obtain ⟨-, -, rfl⟩ := hl.phrase hu hu' (hl.follow hs) (hl.tail hx') heq
      rw [hwv, List.append_assoc] at hx'
      exact absurd hx' (hl.stop hs hw)
    | @more u' s' v' a' as' hu' hs' hv' =>
      rw [List.append_assoc, List.append_assoc] at heq
      obtain ⟨rfl, rfl, hsv⟩ := hl.phrase hu hu' (hl.follow hs) (hl.follow hs') heq
      obtain ⟨w', b', y', hw', hwv'⟩ := hv'.begins
      have hsw : s ++ (w ++ (y ++ x)) = s' ++ (w' ++ (y' ++ x')) := by
        rw [← List.append_assoc w, ← hwv, ← List.append_assoc w', ← hwv', hsv]
      obtain ⟨rfl, hvx⟩ := hl.separator hs hs' hw hw' hsw
      rw [← List.append_assoc, ← hwv, ← List.append_assoc, ← hwv'] at hvx
      obtain ⟨rfl, rfl, rfl⟩ := ih hv' hvx
      exact ⟨rfl, rfl, rfl⟩

end

end EntityChat
