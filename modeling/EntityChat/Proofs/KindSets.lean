import EntityChat.KindSet
import Mathlib.Data.List.Destutter
import Mathlib.Data.List.Nodup

/-!
The members of a set of kinds are those of the list it was made from. The set keeps them in
ascending order, so lists with the same members make the same set, and halving finds a member.
-/

namespace EntityChat

theorem Kind.all_rank (k : Kind) : Kind.all[k.rank]? = some k := by
  cases k <;> rfl

theorem Kind.rank_injective {j k : Kind} (h : j.rank = k.rank) : j = k := by
  have hj := all_rank j
  rw [h, all_rank k] at hj
  exact (Option.some.inj hj).symm

namespace KindSet

theorem mem_place {j k : Kind} {ks : List Kind} : j ∈ place k ks ↔ j = k ∨ j ∈ ks := by
  induction ks with
  | nil => simp [place]
  | cons i ks ih =>
    unfold place
    split
    · simp
    · split
      · next hki => simp [hki]
      · simp [ih, or_left_comm]

theorem mem_ofList {k : Kind} {ks : List Kind} : k ∈ ofList ks ↔ k ∈ ks := by
  change k ∈ (ks.foldr place []).toArray ↔ k ∈ ks
  rw [List.mem_toArray]
  induction ks with
  | nil => rfl
  | cons j ks ih => rw [List.foldr_cons, mem_place, ih, List.mem_cons]

def Ascends (ks : List Kind) : Prop := ks.Pairwise fun j k => j.rank < k.rank

theorem Ascends.place {ks : List Kind} (h : Ascends ks) (k : Kind) : Ascends (place k ks) := by
  induction ks with
  | nil => exact List.pairwise_singleton _ _
  | cons j ks ih =>
    obtain ⟨hj, hks⟩ := List.pairwise_cons.mp h
    unfold KindSet.place
    split
    · next hlt =>
      refine List.pairwise_cons.mpr ⟨List.forall_mem_cons.mpr ⟨hlt, fun i hi => ?_⟩, h⟩
      exact Nat.lt_trans hlt (hj i hi)
    · next hge =>
      split
      · exact h
      · next hne =>
        have hlt : j.rank < k.rank :=
          Nat.lt_of_le_of_ne (Nat.le_of_not_lt hge) fun heq => hne (Kind.rank_injective heq).symm
        refine List.pairwise_cons.mpr ⟨fun i hi => ?_, ih hks⟩
        rcases mem_place.mp hi with rfl | hi
        · exact hlt
        · exact hj i hi

theorem ascends_foldr_place (ks : List Kind) : Ascends (ks.foldr place []) := by
  induction ks with
  | nil => exact List.Pairwise.nil
  | cons k ks ih => exact ih.place k

theorem Ascends.eq_of_mem_iff {js ks : List Kind} (hj : Ascends js) (hk : Ascends ks)
    (h : ∀ i, i ∈ js ↔ i ∈ ks) : js = ks := by
  have hne {i j : Kind} (hlt : i.rank < j.rank) : i ≠ j := fun heq => Nat.ne_of_lt hlt (heq ▸ rfl)
  have hperm : js.Perm ks := (List.perm_ext_iff_of_nodup (hj.imp hne) (hk.imp hne)).mpr h
  refine hperm.eq_of_pairwise (fun i j _ _ hij hji => ?_) hj hk
  exact absurd hij (Nat.lt_asymm hji)

theorem ofList_congr {js ks : List Kind} (h : ∀ k, k ∈ js ↔ k ∈ ks) : ofList js = ofList ks := by
  have hmem (k : Kind) : k ∈ js.foldr place [] ↔ k ∈ ks.foldr place [] := by
    have hall := (mem_ofList.trans (h k)).trans mem_ofList.symm
    exact List.mem_toArray.symm.trans (hall.trans List.mem_toArray)
  exact congrArg (KindSet.mk ∘ List.toArray)
    ((ascends_foldr_place js).eq_of_mem_iff (ascends_foldr_place ks) hmem)

theorem Ascends.rank_lt_iff {ks : Array Kind} (hks : Ascends ks.toList) {m n : Nat} {j k : Kind}
    (hj : ks[m]? = some j) (hk : ks[n]? = some k) : j.rank < k.rank ↔ m < n := by
  obtain ⟨hm, rfl⟩ := Array.getElem?_eq_some_iff.mp hj
  obtain ⟨hn, rfl⟩ := Array.getElem?_eq_some_iff.mp hk
  have hlt := List.pairwise_iff_getElem.mp hks
  constructor
  · intro hrank
    rcases Nat.lt_trichotomy m n with hmn | rfl | hnm
    · exact hmn
    · exact absurd hrank (Nat.lt_irrefl _)
    · exact absurd hrank (Nat.lt_asymm (hlt n m hn hm hnm))
  · exact hlt m n hm hn

theorem search_iff {ks : Array Kind} (hks : Ascends ks.toList) {k : Kind} {low high : Nat}
    (hhigh : high ≤ ks.size) :
    search ks k low high = true ↔ ∃ n, low ≤ n ∧ n < high ∧ ks[n]? = some k := by
  fun_induction search ks k low high with
  | case1 low high hlt middle hnone =>
    have hsize := Array.getElem?_eq_none_iff.mp hnone
    omega
  | case2 low high hlt middle j hj hbelow ih =>
    rw [ih (by omega)]
    constructor
    · rintro ⟨n, hlow, hn, hk⟩
      exact ⟨n, hlow, by omega, hk⟩
    · rintro ⟨n, hlow, -, hk⟩
      exact ⟨n, hlow, (hks.rank_lt_iff hk hj).mp hbelow, hk⟩
  | case3 low high hlt middle j hj _ habove ih =>
    rw [ih hhigh]
    constructor
    · rintro ⟨n, hlow, hn, hk⟩
      exact ⟨n, by omega, hn, hk⟩
    · rintro ⟨n, -, hn, hk⟩
      exact ⟨n, (hks.rank_lt_iff hj hk).mp habove, hn, hk⟩
  | case4 low high hlt middle j hj hbelow habove =>
    obtain rfl : k = j :=
      Kind.rank_injective (Nat.le_antisymm (Nat.le_of_not_lt habove) (Nat.le_of_not_lt hbelow))
    exact iff_of_true rfl ⟨middle, by omega, by omega, hj⟩
  | case5 low high hge =>
    refine iff_of_false Bool.false_ne_true ?_
    rintro ⟨n, hlow, hn, -⟩
    omega

theorem contains_iff {s : KindSet} (hs : Ascends s.toList) {k : Kind} :
    s.contains k = true ↔ k ∈ s := by
  rw [contains, search_iff hs (Nat.le_refl _)]
  change _ ↔ k ∈ s.kinds
  rw [Array.mem_iff_getElem?]
  constructor
  · rintro ⟨n, -, -, hk⟩
    exact ⟨n, hk⟩
  · rintro ⟨n, hk⟩
    exact ⟨n, Nat.zero_le _, (Array.getElem?_eq_some_iff.mp hk).1, hk⟩

theorem ofList_eq_iff {js ks : List Kind} : ofList js = ofList ks ↔ ∀ k, k ∈ js ↔ k ∈ ks := by
  constructor
  · intro h k
    rw [← mem_ofList, h, mem_ofList]
  · exact ofList_congr

theorem toList_ofList (ks : List Kind) :
    (ofList ks).toList = (ks.mergeSort fun j k => j.rank ≤ k.rank).destutter (· ≠ ·) := by
  have hsorted : (ks.mergeSort fun j k => j.rank ≤ k.rank).Pairwise fun j k => j.rank ≤ k.rank := by
    have htrans (i j k : Kind) (hij : decide (i.rank ≤ j.rank) = true)
        (hjk : decide (j.rank ≤ k.rank) = true) : decide (i.rank ≤ k.rank) = true :=
      decide_eq_true (Nat.le_trans (of_decide_eq_true hij) (of_decide_eq_true hjk))
    have htotal (j k : Kind) : (decide (j.rank ≤ k.rank) || decide (k.rank ≤ j.rank)) = true := by
      simpa using Nat.le_total j.rank k.rank
    exact (List.pairwise_mergeSort htrans htotal ks).imp of_decide_eq_true
  have hantisymm : Std.Antisymm fun j k : Kind => j.rank ≤ k.rank :=
    ⟨fun j k hjk hkj => Kind.rank_injective (Nat.le_antisymm hjk hkj)⟩
  rw [hsorted.destutter_eq_dedup]
  refine (ascends_foldr_place ks).eq_of_mem_iff ?_ fun k => ?_
  · have hboth := (hsorted.sublist (List.dedup_sublist _)).and (List.nodup_dedup _)
    refine hboth.imp fun h => Nat.lt_of_le_of_ne h.1 fun heq => h.2 (Kind.rank_injective heq)
  · rw [List.mem_dedup, List.mem_mergeSort]
    exact List.mem_toArray.symm.trans mem_ofList

end KindSet

end EntityChat
