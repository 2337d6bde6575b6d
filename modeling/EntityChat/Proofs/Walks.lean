import EntityChat.Node
import EntityChat.Proofs.Formatting
import EntityChat.Proofs.TranscriptLoops
import Mathlib.Algebra.GroupWithZero.Nat
import Mathlib.Data.List.Forall2

/-!
A walk comes to a node first and then to its children, one after another and each with all below it.
What a visitor does on a walk it would do along the list of visits. The children of a node lie one
level deeper than the node, so the depths tell where each child begins, and what is seen on the way
tells the tree.
-/

namespace EntityChat

theorem Constraints.toList_inj {s t : Constraints} : s.toList = t.toList ↔ s = t := by
  obtain ⟨unique⟩ := s
  obtain ⟨unique'⟩ := t
  cases unique <;> cases unique' <;> decide

namespace Node

@[elab_as_elim]
theorem children_induction {P : Node → Prop} (step : ∀ n : Node, (∀ c ∈ n.children, P c) → P n)
    (n : Node) : P n :=
  step n fun c _ => children_induction step c
termination_by n.height
decreasing_by exact height_child (by assumption)

def keep (seen : Array (Nat × Node)) (depth : Nat) (n : Node) : Array (Nat × Node) :=
  seen.push (depth, n)

def visitsAt (depth : Nat) (n : Node) : List (Nat × Node) := (walk keep depth #[] n).toList

theorem walk_eq {σ : Type} (visit : σ → Nat → Node → σ) (depth : Nat) (seen : σ) (n : Node) :
    walk visit depth seen n = n.children.foldl (walk visit (depth + 1)) (visit seen depth n) := by
  rw [walk, List.foldl_attach]

theorem toList_walk_keep (n : Node) (depth : Nat) (seen : Array (Nat × Node)) :
    (walk keep depth seen n).toList =
      seen.toList ++ (depth, n) :: n.children.flatMap (visitsAt (depth + 1)) := by
  induction n using children_induction generalizing depth seen with
  | step n ih =>
    have hchild (c : Node) (hc : c ∈ n.children) (s : Array (Nat × Node)) :
        (walk keep (depth + 1) s c).toList = s.toList ++ visitsAt (depth + 1) c := by
      rw [visitsAt, ih c hc, ih c hc]
      rfl
    have hchildren (cs : List Node) (hcs : ∀ c ∈ cs, c ∈ n.children) (s : Array (Nat × Node)) :
        (cs.foldl (walk keep (depth + 1)) s).toList =
          s.toList ++ cs.flatMap (visitsAt (depth + 1)) := by
      induction cs generalizing s with
      | nil => simp
      | cons c cs ihcs =>
        obtain ⟨hc, hcs⟩ := List.forall_mem_cons.mp hcs
        rw [List.foldl_cons, ihcs hcs, hchild c hc, List.flatMap_cons, List.append_assoc]
    rw [walk_eq, hchildren n.children fun _ hc => hc, keep, Array.toList_push, List.append_assoc,
      List.singleton_append]

theorem visitsAt_eq (depth : Nat) (n : Node) :
    visitsAt depth n = (depth, n) :: n.children.flatMap (visitsAt (depth + 1)) :=
  toList_walk_keep n depth #[]

theorem walk_eq_foldl {σ : Type} (visit : σ → Nat → Node → σ) (depth : Nat) (seen : σ)
    (n : Node) :
    walk visit depth seen n = (visitsAt depth n).foldl (fun s v => visit s v.1 v.2) seen := by
  induction n using children_induction generalizing depth seen with
  | step n ih =>
    rw [walk_eq, visitsAt_eq, List.foldl_cons, List.foldl_flatMap]
    exact List.foldl_ext _ _ _ fun s c hc => ih c hc (depth + 1) s

theorem depth_bounds {n : Node} {depth : Nat} :
    ∀ v ∈ visitsAt depth n, depth ≤ v.1 ∧ v.1 ≤ depth + n.height := by
  induction n using children_induction generalizing depth with
  | step n ih =>
    rw [visitsAt_eq]
    refine List.forall_mem_cons.mpr ⟨⟨Nat.le_refl _, Nat.le_add_right _ _⟩, fun v hv => ?_⟩
    obtain ⟨c, hc, hv⟩ := List.mem_flatMap.mp hv
    have hheight := height_child hc
    have hbounds := ih c hc v hv
    omega

theorem depth_le {n : Node} : ∀ v ∈ n.visits, v.1 ≤ n.height := by
  intro v hv
  have hbounds : 0 ≤ v.1 ∧ v.1 ≤ 0 + n.height := depth_bounds v hv
  omega

theorem visitsAt_leaf {n : Node} (h : n.children = []) (depth : Nat) :
    visitsAt depth n = [(depth, n)] := by
  rw [visitsAt_eq, h, List.flatMap_nil]

theorem visitsAt_member (depth : Nat) (m : Member) :
    visitsAt depth (member m) = (depth, member m) :: (depth + 1, type m.type) ::
      m.constraints.toList.map fun c => (depth + 1, constraint c) := by
  have hconstraint (c : Constraint) :
      visitsAt (depth + 1) (constraint c) = [(depth + 1, constraint c)] := visitsAt_leaf rfl _
  rw [visitsAt_eq, children, List.flatMap_cons, visitsAt_leaf rfl, List.flatMap_map,
    List.map_eq_flatMap]
  simp only [hconstraint, List.singleton_append]

theorem visits_entity (e : Entity) :
    (entity e).visits = (0, entity e) :: e.members.flatMap fun m =>
      (1, member m) :: (2, type m.type) :: m.constraints.toList.map fun c => (2, constraint c) := by
  change visitsAt 0 (entity e) = _
  rw [visitsAt_eq, children, List.flatMap_map]
  simp only [visitsAt_member]

theorem visits_transcript (t : Transcript) :
    (transcript t).visits = (0, transcript t) :: t.toList.map fun r => (1, remark r) := by
  have hremark (r : Remark) : visitsAt 1 (remark r) = [(1, remark r)] := visitsAt_leaf rfl _
  change visitsAt 0 (transcript t) = _
  rw [visitsAt_eq, children, List.flatMap_map, List.map_eq_flatMap]
  simp only [hremark]

inductive Sign
  | entity (name : String)
  | member (name : String)
  | type (t : TypeName)
  | constraint (c : Constraint)
  | transcript
  | remark (speaker text : String)

def sign : Node → Sign
  | entity e => .entity e.name.name
  | member m => .member m.name.name
  | type t => .type t
  | constraint c => .constraint c
  | transcript _ => .transcript
  | remark r => .remark r.speaker.name r.text

/-- What is seen on a walk, and at which depths. -/
def outline (depth : Nat) (n : Node) : List (Nat × Sign) :=
  (visitsAt depth n).map fun v => (v.1, v.2.sign)

/-- Nodes of one sort that are equal, as `==` has it where there are positions. -/
def Alike : Node → Node → Prop
  | entity e, entity f => (e == f) = true
  | member m, member n => (m == n) = true
  | type t, type u => t = u
  | constraint c, constraint d => c = d
  | transcript t, transcript u => (t == u) = true
  | remark r, remark q => (r == q) = true
  | _, _ => False

theorem outline_eq (depth : Nat) (n : Node) :
    outline depth n = (depth, n.sign) :: n.children.flatMap (outline (depth + 1)) := by
  rw [outline, visitsAt_eq, List.map_cons, List.map_flatMap]
  rfl

section

variable {α β : Type}

theorem forall₂_iff_map_eq {R : α → α → Prop} {g : α → β} {as bs : List α}
    (h : ∀ a ∈ as, ∀ b, R a b ↔ g a = g b) : List.Forall₂ R as bs ↔ as.map g = bs.map g := by
  induction as generalizing bs with
  | nil => cases bs <;> simp
  | cons a as ih =>
    obtain ⟨ha, has⟩ := List.forall_mem_cons.mp h
    cases bs with
    | nil => simp
    | cons b bs => rw [List.forall₂_cons, ha, ih has, List.map_cons, List.map_cons, List.cons.injEq]

theorem forall₂_alike_map {f : α → Node} {g : α → β} (h : ∀ a b, Alike (f a) (f b) ↔ g a = g b)
    (as bs : List α) : List.Forall₂ Alike (as.map f) (bs.map f) ↔ as.map g = bs.map g := by
  rw [List.forall₂_map_left_iff, List.forall₂_map_right_iff]
  exact forall₂_iff_map_eq fun a _ b => h a b

end

theorem alike_iff {m n : Node} :
    Alike m n ↔ m.sign = n.sign ∧ List.Forall₂ Alike m.children n.children := by
  cases m with
  | entity e =>
    cases n with
    | entity f =>
      have hmembers := forall₂_alike_map (f := member) (g := Member.stated)
        (fun a b => Member.beq_iff_stated) e.members f.members
      rw [children, children, hmembers, sign, sign, Sign.entity.injEq, Alike, Entity.beq_iff,
        Member.list_beq_iff_stated]
    | _ => exact iff_of_false id fun h => by cases h.1
  | member a =>
    cases n with
    | member b =>
      have hconstraints := forall₂_alike_map (f := constraint) (g := id) (fun c d => Iff.rfl)
        a.constraints.toList b.constraints.toList
      rw [children, children, List.forall₂_cons, hconstraints, List.map_id, List.map_id,
        Constraints.toList_inj, sign, sign, Sign.member.injEq, Alike, Alike, Member.beq_iff]
    | _ => exact iff_of_false id fun h => by cases h.1
  | type t =>
    cases n with
    | type u => simp [Alike, sign, children]
    | _ => exact iff_of_false id fun h => by cases h.1
  | constraint c =>
    cases n with
    | constraint d => simp [Alike, sign, children]
    | _ => exact iff_of_false id fun h => by cases h.1
  | transcript t =>
    cases n with
    | transcript u =>
      have hremarks := forall₂_alike_map (f := remark) (g := Remark.said)
        (fun r q => Remark.beq_iff) t.toList u.toList
      rw [children, children, hremarks, Alike, Transcript.beq_iff]
      exact (and_iff_right rfl).symm
    | _ => exact iff_of_false id fun h => by cases h.1
  | remark r =>
    cases n with
    | remark q => simp [Alike, sign, children, Remark.beq_iff, Remark.said]
    | _ => exact iff_of_false id fun h => by cases h.1

theorem takeWhile_outline (depth : Nat) (n : Node) (ns : List Node) :
    (n.children.flatMap (outline (depth + 1)) ++ ns.flatMap (outline depth)).takeWhile
      (fun v => depth < v.1) = n.children.flatMap (outline (depth + 1)) := by
  have hdeeper : ∀ v ∈ n.children.flatMap (outline (depth + 1)), decide (depth < v.1) = true := by
    intro v hv
    obtain ⟨c, -, hv⟩ := List.mem_flatMap.mp hv
    obtain ⟨u, hu, rfl⟩ := List.mem_map.mp hv
    exact decide_eq_true (depth_bounds u hu).1
  rw [List.takeWhile_append_of_pos hdeeper]
  cases ns with
  | nil => simp
  | cons n ns => simp [outline_eq]

theorem flatMap_outline_eq_iff {depth : Nat} {ms ns : List Node} :
    ms.flatMap (outline depth) = ns.flatMap (outline depth) ↔
      ms.map (outline depth) = ns.map (outline depth) := by
  constructor
  · intro h
    induction ms generalizing ns with
    | nil =>
      cases ns with
      | nil => rfl
      | cons n ns => simp [outline_eq] at h
    | cons m ms ih =>
      cases ns with
      | nil => simp [outline_eq] at h
      | cons n ns =>
        rw [List.flatMap_cons, List.flatMap_cons, outline_eq, outline_eq, List.cons_append,
          List.cons_append, List.cons.injEq] at h
        obtain ⟨hsign, hrest⟩ := h
        have hbelow := congrArg (List.takeWhile fun v => depth < v.1) hrest
        rw [takeWhile_outline, takeWhile_outline] at hbelow
        rw [hbelow] at hrest
        rw [List.map_cons, List.map_cons, ih (List.append_cancel_left hrest), outline_eq, hsign,
          hbelow, ← outline_eq]
  · intro h
    rw [List.flatMap_def, h, List.flatMap_def]

theorem outline_eq_iff {depth : Nat} {m n : Node} :
    outline depth m = outline depth n ↔ Alike m n := by
  induction m using children_induction generalizing depth n with
  | step m ih =>
    rw [outline_eq, outline_eq, List.cons.injEq, Prod.mk.injEq, flatMap_outline_eq_iff, alike_iff,
      ← forall₂_iff_map_eq fun c hc b => (ih c hc).symm]
    simp

/-- Any visitor goes along the visits, which are the node and then those of its children one level
deeper. In a declaration each member, its type and its constraints are visited once and in order, in
a transcript each remark; and nodes of which the same is seen at the same depths are equal. -/
theorem walk_preorder :
    (∀ {σ : Type} (visit : σ → Nat → Node → σ) (depth : Nat) (seen : σ) (n : Node),
      walk visit depth seen n = (visitsAt depth n).foldl (fun s v => visit s v.1 v.2) seen) ∧
    (∀ (depth : Nat) (n : Node),
      visitsAt depth n = (depth, n) :: n.children.flatMap (visitsAt (depth + 1))) ∧
    (∀ e : Entity,
      (entity e).visits = ((0, entity e) :: e.members.flatMap fun m =>
        (1, member m) :: (2, type m.type) :: m.constraints.toList.map fun c => (2, constraint c)) ∧
      (entity e).visits.length =
        1 + (e.members.map fun m => 2 + m.constraints.toList.length).sum ∧
      ∀ v ∈ (entity e).visits, v.1 ≤ 2) ∧
    (∀ t : Transcript,
      (transcript t).visits = ((0, transcript t) :: t.toList.map fun r => (1, remark r)) ∧
      (transcript t).visits.length = 1 + t.length ∧
      ∀ v ∈ (transcript t).visits, v.1 ≤ 1) ∧
    ∀ (depth : Nat) (m n : Node), outline depth m = outline depth n ↔ Alike m n := by
  refine ⟨walk_eq_foldl, visitsAt_eq, fun e => ⟨visits_entity e, ?_, depth_le⟩,
    fun t => ⟨visits_transcript t, ?_, depth_le⟩, fun depth m n => outline_eq_iff⟩
  · rw [visits_entity, List.length_cons, List.length_flatMap, Nat.add_comm]
    simp only [List.length_cons, List.length_map, Nat.add_comm _ 2]
  · rw [visits_transcript, List.length_cons, List.length_map, Transcript.length_toList,
      Nat.add_comm]

theorem walk_preorder_two_members :
    let m : Member := ⟨⟨"id", .start⟩, ⟨"uuid", true⟩, ⟨true⟩⟩
    let n : Member := ⟨⟨"owner", .start⟩, ⟨"Person", false⟩, ⟨false⟩⟩
    let e : Entity := ⟨⟨"Account", .start⟩, [m, n]⟩
    (entity e).visits =
      [(0, entity e), (1, member m), (2, type m.type), (2, constraint .unique), (1, member n),
       (2, type n.type)] ∧
    (entity e).visits.length = 6 ∧ outline 0 (entity e) ≠ outline 0 (member m) := by
  intro m n e
  obtain ⟨-, -, hentity, -, hoverview⟩ := walk_preorder
  obtain ⟨hvisits, hlength, -⟩ := hentity e
  exact ⟨hvisits, hlength, fun h => (hoverview 0 _ _).mp h⟩

end Node

end EntityChat
