import KindDispatch.Kind

/-!
# Memo tables

A `Memo` has one slot for each kind, empty or filled with the places of the visitors that apply to
it.  `get?` is the view of a table; `get?_insert` says what filling a slot does to it.
-/

namespace KindDispatch

structure Memo where
  slots : Vector (Option (List Nat)) Kind.count

namespace Memo

def empty : Memo := ⟨.replicate _ none⟩

instance : Inhabited Memo := ⟨empty⟩

def get? (memo : Memo) (kind : Kind) : Option (List Nat) :=
  have inRange := kind.ordinal_lt_count
  memo.slots[kind.ordinal]

def insert (memo : Memo) (kind : Kind) (entry : List Nat) : Memo :=
  ⟨memo.slots.set kind.ordinal (some entry) kind.ordinal_lt_count⟩

def keys (memo : Memo) : List Kind := Kind.all.filter fun kind => (memo.get? kind).isSome

def size (memo : Memo) : Nat := memo.keys.length

def isEmpty (memo : Memo) : Bool := memo.size == 0

@[simp] theorem get?_empty (kind : Kind) : empty.get? kind = none := by
  simp [empty, get?]

theorem get?_insert (memo : Memo) (kind wanted : Kind) (entry : List Nat) :
    (memo.insert kind entry).get? wanted =
      if wanted = kind then some entry else memo.get? wanted := by
  unfold get? insert
  rw [Vector.getElem_set]
  by_cases same : wanted = kind
  · simp [same]
  · have distinct : kind.ordinal ≠ wanted.ordinal := fun h => same (Kind.ordinal_inj h).symm
    simp [same, distinct]

@[simp] theorem get?_insert_self (memo : Memo) (kind : Kind) (entry : List Nat) :
    (memo.insert kind entry).get? kind = some entry := by
  simp [get?_insert]

end Memo

end KindDispatch
