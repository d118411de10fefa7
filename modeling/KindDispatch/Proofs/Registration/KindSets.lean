import KindDispatch.KindSet

/-!
# Sets of kinds as finite sets

A mask has more bits than there are kinds.  None of the others is ever set: `Construction` lists the
operations that make sets, and the mask of whatever they make `Fits`.  On fitting masks the mask
itself, which equality, size and emptiness look at, and the kinds, which membership and enumeration
look at, say the same.
-/

namespace KindDispatch

namespace Kind

theorem pairwise_ordinal_all : all.Pairwise (·.ordinal < ·.ordinal) := by
  rw [← List.pairwise_map (f := ordinal) (R := (· < ·)), map_ordinal_all]
  exact List.pairwise_lt_range

private theorem exists_ordinal {ordinal : Nat} (small : ordinal < count) :
    ∃ kind : Kind, kind.ordinal = ordinal := by
  have listed : ordinal ∈ all.map Kind.ordinal := by
    rw [map_ordinal_all]
    exact List.mem_range.mpr small
  obtain ⟨kind, -, same⟩ := List.mem_map.mp listed
  exact ⟨kind, same⟩

theorem mem_ofCategory {kind : Kind} {category : Category} :
    kind ∈ ofCategory category ↔ kind.category = category := by
  simp [ofCategory, mem_all]

end Kind

namespace KindSet

/-! ## Masks of kinds only -/

/-- No bit is set that stands for no kind. -/
def Fits (set : KindSet) : Prop := ∀ bit, set.mask.getLsbD (Kind.count + bit) = false

theorem fits_empty : empty.Fits := by
  intro bit
  simp [empty]

theorem Fits.insert {set : KindSet} (fits : set.Fits) (kind : Kind) : (set.insert kind).Fits := by
  intro bit
  have small := kind.ordinal_lt_count
  have other : kind.ordinal ≠ Kind.count + bit := by omega
  simp [KindSet.insert, BitVec.getLsbD_twoPow, fits bit, other]

theorem Fits.union {set other : KindSet} (fits : set.Fits) (fits' : other.Fits) :
    (set.union other).Fits := by
  intro bit
  simp [KindSet.union, fits bit, fits' bit]

theorem Fits.insertAll {set : KindSet} (fits : set.Fits) (kinds : List Kind) :
    (set.insertAll kinds).Fits := by
  induction kinds generalizing set with
  | nil => exact fits
  | cons kind kinds ih => exact ih (fits.insert kind)

theorem Fits.ext {set other : KindSet} (fits : set.Fits) (fits' : other.Fits)
    (same : ∀ kind, set.contains kind = other.contains kind) : set = other := by
  obtain ⟨mask⟩ := set
  obtain ⟨mask'⟩ := other
  congr 1
  refine BitVec.eq_of_getLsbD_eq fun bit _ => ?_
  rcases Nat.lt_or_ge bit Kind.count with small | large
  · obtain ⟨kind, rfl⟩ := Kind.exists_ordinal small
    exact same kind
  · obtain ⟨beyond, rfl⟩ := Nat.exists_eq_add_of_le large
    exact (fits beyond).trans (fits' beyond).symm

/-! ## Size -/

private theorem cpopNatRec_eq_countP {width : Nat} (mask : BitVec width) (bits : Nat) :
    mask.cpopNatRec bits 0 = (List.range bits).countP mask.getLsbD := by
  induction bits with
  | zero => rfl
  | succ bits ih =>
      rw [BitVec.cpopNatRec_succ, BitVec.cpopNatRec_add, ih, List.range_succ,
        List.countP_append, List.countP_singleton]
      cases mask.getLsbD bits <;> rfl

theorem Fits.size_eq {set : KindSet} (fits : set.Fits) : set.size = set.toList.length := by
  have none : (List.range 55).countP (fun bit => set.mask.getLsbD (Kind.count + bit)) = 0 :=
    List.countP_eq_zero.mpr fun bit _ => by simp [fits bit]
  calc set.size
      = (List.range (Kind.count + 55)).countP set.mask.getLsbD := by
        rw [size, BitVec.toNat_cpop, cpopNatRec_eq_countP]
        rfl
    _ = (List.range Kind.count).countP set.mask.getLsbD := by
        rw [List.range_add, List.countP_append, List.countP_map]
        simpa [Function.comp_def] using none
    _ = set.toList.length := by
        rw [← Kind.map_ordinal_all, List.countP_map, toList, ← List.countP_eq_length_filter]
        rfl

/-! ## Enumeration -/

private theorem pairwise_toList (set : KindSet) : set.toList.Pairwise (·.ordinal < ·.ordinal) :=
  Kind.pairwise_ordinal_all.filter _

theorem Fits.ofList_toList {set : KindSet} (fits : set.Fits) : ofList set.toList = set := by
  refine (fits_empty.insertAll set.toList).ext fits fun kind => Bool.eq_iff_iff.mpr ?_
  exact mem_ofList.trans mem_toList

theorem isEmpty_iff {set : KindSet} : set.isEmpty = true ↔ set = empty := by
  obtain ⟨mask⟩ := set
  simp [isEmpty, empty]

theorem Fits.isEmpty_iff {set : KindSet} (fits : set.Fits) :
    set.isEmpty = true ↔ ∀ kind, set.contains kind = false := by
  rw [KindSet.isEmpty_iff]
  have nowhere (kind : Kind) : empty.contains kind = false :=
    Bool.eq_false_iff.mpr (not_mem_empty kind)
  constructor
  · rintro rfl
    exact nowhere
  · intro none
    exact fits.ext fits_empty fun kind => (none kind).trans (nowhere kind).symm

end KindSet

/-! ## How sets are made -/

/-- How a set came about: the operations on sets, each with what it was given. -/
inductive Construction where
  | empty
  | full
  | ofList (kinds : List Kind)
  | ofCategory (category : Category)
  | insert (before : Construction) (kind : Kind)
  | insertCategory (before : Construction) (category : Category)
  | union (one other : Construction)

namespace Construction

def set : Construction → KindSet
  | empty => .empty
  | full => .full
  | ofList kinds => .ofList kinds
  | ofCategory category => .ofCategory category
  | insert before kind => before.set.insert kind
  | insertCategory before category => before.set.insertCategory category
  | union one other => one.set.union other.set

def PutsIn (kind : Kind) : Construction → Prop
  | empty => False
  | full => True
  | ofList kinds => kind ∈ kinds
  | ofCategory category => kind.category = category
  | insert before added => before.PutsIn kind ∨ kind = added
  | insertCategory before category => before.PutsIn kind ∨ kind.category = category
  | union one other => one.PutsIn kind ∨ other.PutsIn kind

theorem fits (construction : Construction) : construction.set.Fits := by
  induction construction with
  | empty => exact KindSet.fits_empty
  | full => exact KindSet.fits_empty.insertAll _
  | ofList kinds => exact KindSet.fits_empty.insertAll kinds
  | ofCategory category => exact KindSet.fits_empty.insertAll _
  | insert before kind ih => exact ih.insert kind
  | insertCategory before category ih => exact ih.insertAll _
  | union one other ih ih' => exact ih.union ih'

theorem mem_set {construction : Construction} {kind : Kind} :
    kind ∈ construction.set ↔ construction.PutsIn kind := by
  induction construction with
  | empty => exact iff_of_false (KindSet.not_mem_empty kind) id
  | full => exact iff_of_true (KindSet.mem_full kind) trivial
  | ofList kinds => exact KindSet.mem_ofList
  | ofCategory category => exact KindSet.mem_ofList.trans Kind.mem_ofCategory
  | insert before added ih => exact KindSet.mem_insert.trans (or_comm.trans (or_congr_left ih))
  | insertCategory before category ih =>
      exact KindSet.mem_insertAll.trans (or_congr ih Kind.mem_ofCategory)
  | union one other ih ih' => exact KindSet.mem_union.trans (or_congr ih ih')

/-- A set is what was put into it, however it was made: in whatever order, and however often.  Its
mask has bits for kinds only, so that equality, size and emptiness, which look at the mask, agree
with membership; enumerating it gives each member once, in ordinal order. -/
theorem set_is_what_was_put_in (one other : Construction) :
    (∀ kind, one.set.contains kind = true ↔ one.PutsIn kind) ∧
      (∀ bit, one.set.mask.getLsbD (Kind.count + bit) = false) ∧
      (one.set = other.set ↔ ∀ kind, one.set.contains kind = other.set.contains kind) ∧
      (one.set = other.set ↔ ∀ kind, one.PutsIn kind ↔ other.PutsIn kind) ∧
      (∀ kind, kind ∈ one.set.toList ↔ one.set.contains kind = true) ∧
      one.set.toList.Pairwise (·.ordinal < ·.ordinal) ∧
      KindSet.ofList one.set.toList = one.set ∧
      one.set.size = one.set.toList.length ∧
      (one.set.isEmpty = true ↔ ∀ kind, one.set.contains kind = false) := by
  have same_iff : one.set = other.set ↔
      ∀ kind, one.set.contains kind = other.set.contains kind :=
    ⟨fun same kind => by rw [same], one.fits.ext other.fits⟩
  refine ⟨fun _ => mem_set, one.fits, same_iff, ?_, fun _ => KindSet.mem_toList,
    one.set.pairwise_toList, one.fits.ofList_toList, one.fits.size_eq, one.fits.isEmpty_iff⟩
  rw [same_iff]
  refine forall_congr' fun kind => ?_
  rw [← mem_set, ← mem_set]
  exact Bool.eq_iff_iff

example : KindSet.ofList [.method, .function, .method] =
    (KindSet.empty.insert .function).union (.ofList [.method]) := by decide

end Construction

end KindDispatch
