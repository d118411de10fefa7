import KindDispatch.Kind

/-!
# Sets of kinds

`KindSet` keeps one bit per ordinal in a 128-bit mask.  Membership `kind ∈ set` is the view every
operation is described by: `mem_insert`, `mem_union`, `mem_ofList` and their like say what each one
does, and the enumeration `toList` lists exactly the members, in ordinal order.
-/

namespace KindDispatch

/-- A set of kinds: bit `kind.ordinal` of the mask is set iff `kind` is in the set. -/
structure KindSet where
  mask : BitVec 128
deriving DecidableEq, Repr

namespace KindSet

def contains (set : KindSet) (kind : Kind) : Bool := set.mask.getLsbD kind.ordinal

instance : Membership Kind KindSet := ⟨fun set kind => set.contains kind = true⟩

instance (kind : Kind) (set : KindSet) : Decidable (kind ∈ set) :=
  inferInstanceAs (Decidable (set.contains kind = true))

theorem mem_iff {kind : Kind} {set : KindSet} :
    kind ∈ set ↔ set.mask.getLsbD kind.ordinal = true := Iff.rfl

def empty : KindSet := ⟨0#128⟩

instance : EmptyCollection KindSet := ⟨empty⟩
instance : Inhabited KindSet := ⟨empty⟩

def insert (set : KindSet) (kind : Kind) : KindSet :=
  ⟨set.mask ||| BitVec.twoPow 128 kind.ordinal⟩

def union (set other : KindSet) : KindSet := ⟨set.mask ||| other.mask⟩

def insertAll (set : KindSet) (kinds : List Kind) : KindSet := kinds.foldl insert set

def ofList (kinds : List Kind) : KindSet := empty.insertAll kinds

def full : KindSet := ofList Kind.all

def insertCategory (set : KindSet) (category : Category) : KindSet :=
  set.insertAll (Kind.ofCategory category)

def ofCategory (category : Category) : KindSet := empty.insertCategory category

def isEmpty (set : KindSet) : Bool := set.mask == 0#128

def size (set : KindSet) : Nat := set.mask.cpop.toNat

def toList (set : KindSet) : List Kind := Kind.all.filter set.contains

def display (set : KindSet) : String :=
  "\x7b" ++ ", ".intercalate (set.toList.map Kind.name) ++ "\x7d"

/-! ## Membership after each operation -/

theorem not_mem_empty (kind : Kind) : kind ∉ empty := by
  simp [mem_iff, empty]

theorem mem_insert {set : KindSet} {kind added : Kind} :
    kind ∈ set.insert added ↔ kind = added ∨ kind ∈ set := by
  have bound : added.ordinal < 128 := Nat.lt_of_lt_of_le added.ordinal_lt_count (by decide)
  simp only [mem_iff, insert, BitVec.getLsbD_or, BitVec.getLsbD_twoPow, Bool.or_eq_true,
    Bool.and_eq_true, decide_eq_true_eq]
  constructor
  · rintro (h | ⟨_, h⟩)
    · exact .inr h
    · exact .inl (Kind.ordinal_inj h.symm)
  · rintro (rfl | h)
    · exact .inr ⟨bound, rfl⟩
    · exact .inl h

theorem mem_union {set other : KindSet} {kind : Kind} :
    kind ∈ set.union other ↔ kind ∈ set ∨ kind ∈ other := by
  simp [mem_iff, union]

theorem mem_insertAll {set : KindSet} {kinds : List Kind} {kind : Kind} :
    kind ∈ set.insertAll kinds ↔ kind ∈ set ∨ kind ∈ kinds := by
  induction kinds generalizing set with
  | nil => simp [insertAll]
  | cons head tail ih =>
    have step := @ih (set.insert head)
    simp only [insertAll, List.foldl_cons] at step ⊢
    rw [step, mem_insert, List.mem_cons]
    constructor
    · rintro ((rfl | h) | h)
      · exact .inr (.inl rfl)
      · exact .inl h
      · exact .inr (.inr h)
    · rintro (h | rfl | h)
      · exact .inl (.inr h)
      · exact .inl (.inl rfl)
      · exact .inr h

theorem mem_ofList {kinds : List Kind} {kind : Kind} : kind ∈ ofList kinds ↔ kind ∈ kinds := by
  rw [ofList, mem_insertAll]
  exact ⟨fun h => h.resolve_left (not_mem_empty kind), .inr⟩

theorem mem_full (kind : Kind) : kind ∈ full := mem_ofList.mpr kind.mem_all

theorem mem_toList {set : KindSet} {kind : Kind} : kind ∈ set.toList ↔ kind ∈ set := by
  simp only [toList, List.mem_filter, Kind.mem_all, true_and]
  exact Iff.rfl

end KindSet

end KindDispatch
