import EntityChat.Kind

/-!
Sets of kinds, kept in ascending order without repetitions, so that two sets with the same members
are the same value and a member is found by halving.
-/

namespace EntityChat

structure KindSet where
  kinds : Array Kind
deriving DecidableEq

namespace KindSet

def place (k : Kind) : List Kind → List Kind
  | [] => [k]
  | j :: rest =>
    if k.rank < j.rank then k :: j :: rest
    else if k = j then j :: rest
    else j :: place k rest

def ofList (ks : List Kind) : KindSet := ⟨(ks.foldr place []).toArray⟩

def toList (s : KindSet) : List Kind := s.kinds.toList

/-- Whether the kind stands at a place from `low` on and below `high` of an ascending array. -/
def search (ks : Array Kind) (k : Kind) (low high : Nat) : Bool :=
  if _h : low < high then
    let middle := low + (high - low) / 2
    match ks[middle]? with
    | none => false
    | some j =>
      if k.rank < j.rank then search ks k low middle
      else if j.rank < k.rank then search ks k (middle + 1) high
      else true
  else false
termination_by high - low

def contains (s : KindSet) (k : Kind) : Bool := search s.kinds k 0 s.kinds.size

instance : Membership Kind KindSet := ⟨fun s k => k ∈ s.kinds⟩

def continued : List Kind → String
  | [] => ""
  | [k] => " or " ++ k.description
  | k :: rest => ", " ++ k.description ++ continued rest

def display (s : KindSet) : String :=
  match s.toList with
  | [] => "nothing"
  | k :: rest => k.description ++ continued rest

end KindSet

end EntityChat
