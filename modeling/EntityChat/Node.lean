import EntityChat.Entity
import EntityChat.Transcript

/-!
Declarations and transcripts as trees of nodes. A walk visits a node before its children, and each
child with all below it before the next.
-/

namespace EntityChat

inductive Node
  | entity (e : Entity)
  | member (m : Member)
  | type (t : TypeName)
  | constraint (c : Constraint)
  | transcript (t : Transcript)
  | remark (r : Remark)
deriving DecidableEq

namespace Node

def children : Node → List Node
  | entity e => e.members.map member
  | member m => type m.type :: m.constraints.toList.map constraint
  | transcript t => t.toList.map remark
  | type _ | constraint _ | remark _ => []

def height : Node → Nat
  | entity _ => 2
  | member _ | transcript _ => 1
  | type _ | constraint _ | remark _ => 0

theorem height_child {n c : Node} (h : c ∈ n.children) : c.height < n.height := by
  cases n with
  | entity e => obtain ⟨m, _, rfl⟩ := List.mem_map.mp h; exact Nat.lt_add_one 1
  | member m =>
    rcases List.mem_cons.mp h with rfl | h
    · exact Nat.zero_lt_one
    · obtain ⟨k, _, rfl⟩ := List.mem_map.mp h; exact Nat.zero_lt_one
  | transcript t => obtain ⟨r, _, rfl⟩ := List.mem_map.mp h; exact Nat.zero_lt_one
  | type t => cases h
  | constraint k => cases h
  | remark r => cases h

/-- Walks the node, which stands at the depth, and all below it. Each visit hands on what the visits
before it have gathered. -/
def walk {σ : Type} (visit : σ → Nat → Node → σ) (depth : Nat) (seen : σ) (n : Node) : σ :=
  n.children.attach.foldl (fun s c => walk visit (depth + 1) s c.1) (visit seen depth n)
termination_by n.height
decreasing_by exact height_child c.2

def visits (n : Node) : List (Nat × Node) :=
  (walk (fun (seen : Array (Nat × Node)) d c => seen.push (d, c)) 0 #[] n).toList

def label : Node → String
  | entity e => "entity " ++ e.name.name
  | member m => "member " ++ m.render
  | type t => "type " ++ t.name ++ (if t.builtin then " true" else " false")
  | constraint c => "constraint " ++ c.keyword
  | transcript t => "transcript " ++ t.length.repr
  | remark r => "line " ++ r.render

end Node

end EntityChat
