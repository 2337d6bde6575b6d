import EntityChat.Identifier

/-!
Transcripts of chats: a transcript is empty, or a remark and the rest of the chat. Chats are long,
so each operation goes along the remarks in a loop.
-/

namespace EntityChat

structure Remark where
  speaker : Identifier
  text : String
deriving DecidableEq

instance : BEq Remark := ⟨fun a b => a.speaker == b.speaker && a.text == b.text⟩

def Remark.render (r : Remark) : String := r.speaker.name ++ " says \"" ++ r.text ++ "\""

inductive Transcript
  | empty
  | remark (first : Remark) (rest : Transcript)
deriving DecidableEq

namespace Transcript

/-- The remarks in order, linked from the last one on. -/
def ofList (rs : List Remark) : Transcript := rs.reverse.foldl (fun rest r => remark r rest) empty

def collect (taken : List Remark) : Transcript → List Remark
  | empty => taken.reverse
  | remark r rest => collect (r :: taken) rest

def toList (t : Transcript) : List Remark := collect [] t

def isEmpty : Transcript → Bool
  | empty => true
  | remark _ _ => false

def count (seen : Nat) : Transcript → Nat
  | empty => seen
  | remark _ rest => count (seen + 1) rest

def length (t : Transcript) : Nat := count 0 t

theorem collect_eq (taken : List Remark) (t : Transcript) :
    collect taken t = taken.reverse ++ collect [] t := by
  induction t generalizing taken with
  | empty => simp [collect]
  | remark r rest ih => rw [collect, collect, ih (r :: taken), ih [r]]; simp

theorem toList_empty : empty.toList = [] := rfl

theorem toList_remark (r : Remark) (t : Transcript) : (remark r t).toList = r :: t.toList :=
  collect_eq [r] t

theorem ofList_cons (r : Remark) (rs : List Remark) : ofList (r :: rs) = remark r (ofList rs) := by
  simp [ofList]

theorem toList_ofList (rs : List Remark) : (ofList rs).toList = rs := by
  induction rs with
  | nil => rfl
  | cons r rs ih => rw [ofList_cons, toList_remark, ih]

theorem ofList_toList (t : Transcript) : ofList t.toList = t := by
  induction t with
  | empty => rfl
  | remark r rest ih => rw [toList_remark, ofList_cons, ih]

theorem toList_injective {t u : Transcript} (h : t.toList = u.toList) : t = u := by
  rw [← ofList_toList t, h, ofList_toList]

def copy (t : Transcript) : Transcript := ofList t.toList

def same : Transcript → Transcript → Bool
  | empty, empty => true
  | remark a t, remark b u => if a == b then same t u else false
  | _, _ => false

instance : BEq Transcript := ⟨same⟩

def render (t : Transcript) : String := String.join (t.toList.map fun r => r.render ++ "\n")

end Transcript

end EntityChat
