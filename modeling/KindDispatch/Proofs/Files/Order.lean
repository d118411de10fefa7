import KindDispatch.Files.Collect
import Mathlib.Data.List.Nodup

/-!
# The order of paths

`Path.compare` is a total order of the components of paths.  So `Path.inOrder`, which sorts paths
and drops those that are the same as the one before, has each path of a list once, and two lists with
the same paths are the same in order.
-/

namespace KindDispatch.Path

/-! ## Comparing -/

namespace Component

def text : Component → String
  | name text => text
  | _ => ""

theorem compare_eq : compare = compareLex (compareOn rank) (compareOn text) := by
  funext a b
  cases a <;> cases b <;> simp [compare, compareLex, compareOn, rank, text] <;> rfl

instance : Std.TransCmp compare := by
  rw [compare_eq]
  infer_instance

instance : Std.LawfulEqCmp compare where
  compare_self {a} := by
    cases a <;> simp [compare]
  eq_of_compare {a b} equal := by
    cases a <;> cases b <;> simp_all [compare, rank]

end Component

private theorem compareComponents_eq : compareComponents = List.compareLex Component.compare := by
  funext a b
  induction a generalizing b with
  | nil => cases b <;> rfl
  | cons first rest ih =>
      cases b with
      | nil => rfl
      | cons first' rest' => rw [compareComponents, List.compareLex_cons_cons, ih]

instance : Std.TransCmp compareComponents := by
  rw [compareComponents_eq]
  infer_instance

instance : Std.LawfulEqCmp compareComponents := by
  rw [compareComponents_eq]
  infer_instance

instance : Std.TransCmp compare where
  eq_swap {a b} := @Std.OrientedCmp.eq_swap _ compareComponents _ (components a) (components b)
  isLE_trans {a b c} :=
    @Std.TransCmp.isLE_trans _ compareComponents _ (components a) (components b) (components c)

theorem compare_eq_iff {a b : String} : compare a b = .eq ↔ components a = components b :=
  @Std.LawfulEqCmp.compare_eq_iff_eq _ compareComponents _ _ _

theorem same_iff {a b : String} : same a b = true ↔ components a = components b := by
  simp [same]

/-! ## Dropping repetitions -/

private theorem eraseRepsBy_cons_cons {A : Type} (alike : A → A → Bool) (first second : A)
    (rest : List A) :
    (first :: second :: rest).eraseRepsBy alike =
      if alike first second then (first :: rest).eraseRepsBy alike
      else first :: (second :: rest).eraseRepsBy alike := by
  have collected (first : A) (rest done : List A) :
      List.eraseRepsBy.loop alike first rest done =
        done.reverse ++ List.eraseRepsBy.loop alike first rest [] := by
    induction rest generalizing first done with
    | nil => simp [List.eraseRepsBy.loop]
    | cons second rest ih =>
        simp only [List.eraseRepsBy.loop]
        cases alike first second
        · rw [ih second (first :: done), ih second [first]]
          simp
        · exact ih first done
  simp only [List.eraseRepsBy]
  rw [List.eraseRepsBy.loop]
  cases alike first second
  · simpa using collected second rest [first]
  · rfl

private theorem sublist_eraseRepsBy {A : Type} (alike : A → A → Bool) (list : List A) :
    (list.eraseRepsBy alike).Sublist list := by
  cases list with
  | nil => exact .slnil
  | cons first rest =>
      induction rest generalizing first with
      | nil => exact .refl _
      | cons second rest ih =>
          rw [eraseRepsBy_cons_cons]
          split
          · exact (ih first).trans ((List.sublist_cons_self second rest).cons_cons first)
          · exact (ih second).cons_cons first

private theorem exists_mem_eraseRepsBy {paths : List String} {path : String}
    (member : path ∈ paths) :
    ∃ kept ∈ paths.eraseRepsBy same, components kept = components path := by
  cases paths with
  | nil => contradiction
  | cons first rest =>
      induction rest generalizing first path with
      | nil => exact ⟨first, .head _, by rw [List.mem_singleton.mp member]⟩
      | cons second rest ih =>
          rw [eraseRepsBy_cons_cons]
          split
          · rename_i alike
            rcases List.mem_cons.mp member with rfl | later
            · exact ih path (.head _)
            rcases List.mem_cons.mp later with rfl | later
            · obtain ⟨kept, among, equal⟩ := ih first (.head _)
              exact ⟨kept, among, equal.trans (same_iff.mp alike)⟩
            · exact ih first (.tail _ later)
          · rcases List.mem_cons.mp member with rfl | later
            · exact ⟨path, .head _, rfl⟩
            · obtain ⟨kept, among, equal⟩ := ih second later
              exact ⟨kept, .tail _ among, equal⟩

/-- Among paths in order, those that are the same stand side by side. -/
theorem pairwise_eraseRepsBy {paths : List String}
    (sorted : paths.Pairwise fun a b => (compare a b).isLE) :
    (paths.eraseRepsBy same).Pairwise fun a b => compare a b = .lt := by
  cases paths with
  | nil => exact .nil
  | cons first rest =>
      induction rest generalizing first with
      | nil => exact List.pairwise_singleton ..
      | cons second rest ih =>
          obtain ⟨least, sorted'⟩ := List.pairwise_cons.mp sorted
          rw [eraseRepsBy_cons_cons]
          split
          · exact ih first (sorted.sublist ((List.sublist_cons_self second rest).cons_cons first))
          · rename_i different
            refine List.pairwise_cons.mpr ⟨fun later among => ?_, ih second sorted'⟩
            have less : compare first second = .lt := by
              rw [same_iff, ← compare_eq_iff] at different
              have := least second (.head _)
              cases hcompare : compare first second <;> simp_all
            rcases List.mem_cons.mp ((sublist_eraseRepsBy same _).subset among) with rfl | behind
            · exact less
            · exact Std.TransCmp.lt_of_lt_of_isLE less ((List.pairwise_cons.mp sorted').1 _ behind)

/-! ## Paths in order -/

theorem pairwise_inOrder (paths : List String) :
    (inOrder paths).Pairwise fun a b => compare a b = .lt := by
  apply pairwise_eraseRepsBy
  apply List.pairwise_mergeSort
  · exact fun a b c => Std.TransCmp.isLE_trans
  · intro a b
    rw [@Std.OrientedCmp.eq_swap _ compare _ b]
    cases compare a b <;> rfl

theorem inOrder_eq_self {paths : List String}
    (ascending : paths.Pairwise fun a b => compare a b = .lt) : inOrder paths = paths := by
  have sorted : paths.mergeSort (fun a b => (compare a b).isLE) = paths :=
    List.mergeSort_of_pairwise (ascending.imp Ordering.isLE_of_eq_lt)
  rw [inOrder, sorted]
  cases paths with
  | nil => rfl
  | cons first rest =>
      clear sorted
      induction rest generalizing first with
      | nil => rfl
      | cons second rest ih =>
          obtain ⟨least, ascending'⟩ := List.pairwise_cons.mp ascending
          have different : same first second = false := by
            rw [← Bool.not_eq_true, same_iff, ← compare_eq_iff, least second (.head _)]
            simp
          simp [eraseRepsBy_cons_cons, different, ih second ascending']

theorem mem_of_mem_inOrder {paths : List String} {path : String} (member : path ∈ inOrder paths) :
    path ∈ paths :=
  List.mem_mergeSort.mp ((sublist_eraseRepsBy _ _).subset member)

theorem exists_mem_inOrder {paths : List String} {path : String} (member : path ∈ paths) :
    ∃ kept ∈ inOrder paths, components kept = components path :=
  exists_mem_eraseRepsBy (List.mem_mergeSort.mpr member)

theorem mem_components_inOrder {paths : List String} {path : List Component} :
    path ∈ (inOrder paths).map components ↔ path ∈ paths.map components := by
  simp only [List.mem_map]
  constructor
  · rintro ⟨kept, member, rfl⟩
    exact ⟨kept, mem_of_mem_inOrder member, rfl⟩
  · rintro ⟨found, member, rfl⟩
    exact exists_mem_inOrder member

theorem inOrder_congr {paths paths' : List String}
    (alike : ∀ path, path ∈ paths.map components ↔ path ∈ paths'.map components) :
    (inOrder paths).map components = (inOrder paths').map components := by
  have ascending (paths : List String) : ((inOrder paths).map components).Pairwise
      fun a b => compareComponents a b = .lt :=
    List.pairwise_map.mpr (pairwise_inOrder paths)
  have distinct {a b : List Component} (less : compareComponents a b = .lt) : a ≠ b := by
    rintro rfl
    rw [@Std.ReflCmp.compare_self _ compareComponents] at less
    contradiction
  have permuted : ((inOrder paths).map components).Perm ((inOrder paths').map components) := by
    refine (List.perm_ext_iff_of_nodup ((ascending paths).imp distinct)
      ((ascending paths').imp distinct)).mpr fun path => ?_
    rw [mem_components_inOrder, mem_components_inOrder, alike]
  refine permuted.eq_of_pairwise ?_ (ascending paths) (ascending paths')
  intro a b _ _ less greater
  exact absurd greater (Std.OrientedCmp.not_lt_of_lt less)

end KindDispatch.Path
