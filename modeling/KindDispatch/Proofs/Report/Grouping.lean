import KindDispatch.Proofs.Binary64.Digits
import KindDispatch.Report.Figures

/-!
# Grouped digits

`IsGrouping digits text` says that a text is some digits with commas between groups of three, the
first of which may be shorter.  `group` writes such a text, and there is no other
(`IsGrouping.unique`).
-/

namespace KindDispatch.Figures

/-- The digits in a first group of up to three and groups of three, with commas between. -/
def IsGrouping (digits text : List Char) : Prop :=
  ∃ (first : List Char) (others : List (List Char)), digits = first ++ others.flatten ∧
    1 ≤ first.length ∧ first.length ≤ 3 ∧ (∀ group ∈ others, group.length = 3) ∧
    text = first ++ others.flatMap (',' :: ·)

theorem IsGrouping.filter {digits text : List Char} (grouping : IsGrouping digits text)
    {kept : Char → Bool} (noComma : kept ',' = false) : text.filter kept = digits.filter kept := by
  obtain ⟨first, others, rfl, -, -, -, rfl⟩ := grouping
  rw [List.filter_append, List.filter_append]
  congr 1
  induction others with
  | nil => rfl
  | cons group others ih => simp [noComma, ih]

theorem IsGrouping.forall_mem {digits text : List Char} (grouping : IsGrouping digits text)
    {allowed : Char → Prop} (comma : allowed ',') (inDigits : ∀ c ∈ digits, allowed c) :
    ∀ c ∈ text, allowed c := by
  obtain ⟨first, others, rfl, -, -, -, rfl⟩ := grouping
  intro c member
  rcases List.mem_append.mp member with inFirst | inOthers
  · exact inDigits c (List.mem_append_left _ inFirst)
  · obtain ⟨group, inside, member⟩ := List.mem_flatMap.mp inOthers
    rcases List.mem_cons.mp member with rfl | inGroup
    · exact comma
    · exact inDigits c (List.mem_append_right _ (List.mem_flatten_of_mem inside inGroup))

theorem length_flatten_of_threes {groups : List (List Char)}
    (threes : ∀ group ∈ groups, group.length = 3) : groups.flatten.length = 3 * groups.length := by
  induction groups with
  | nil => rfl
  | cons group others ih =>
      obtain ⟨three, threes⟩ := List.forall_mem_cons.mp threes
      rw [List.flatten_cons, List.length_append, three, ih threes, List.length_cons]
      omega

/-- The number of digits decides whether a comma comes after the first one. -/
theorem isGrouping_group {digits : List Char} (nonempty : digits ≠ []) :
    IsGrouping digits (group digits) := by
  induction digits with
  | nil => contradiction
  | cons digit rest ih =>
      rw [group]
      by_cases single : rest = []
      · subst single
        exact ⟨[digit], [], rfl, by simp, by simp, by simp, rfl⟩
      · obtain ⟨first, others, rfl, least, most, threes, text⟩ := ih single
        have length := length_flatten_of_threes threes
        rw [List.length_append, length, text]
        split
        · rename_i full
          refine ⟨[digit], first :: others, rfl, by simp, by simp, ?_, rfl⟩
          exact List.forall_mem_cons.mpr ⟨by omega, threes⟩
        · rename_i short
          have room : first.length ≠ 3 := fun three => short ⟨single, by omega⟩
          exact ⟨digit :: first, others, rfl, by simp, by simp; omega, threes, rfl⟩

private theorem threes_inj {groups groups' : List (List Char)}
    (threes : ∀ group ∈ groups, group.length = 3) (threes' : ∀ group ∈ groups', group.length = 3)
    (same : groups.flatten = groups'.flatten) : groups = groups' := by
  have length := congrArg List.length same
  rw [length_flatten_of_threes threes, length_flatten_of_threes threes'] at length
  induction groups generalizing groups' with
  | nil =>
      have none : groups'.length = 0 := by
        rw [List.length_nil] at length
        omega
      exact (List.eq_nil_of_length_eq_zero none).symm
  | cons group others ih =>
      cases groups' with
      | nil => simp at length
      | cons group' others' =>
          obtain ⟨three, inner⟩ := List.forall_mem_cons.mp threes
          obtain ⟨three', inner'⟩ := List.forall_mem_cons.mp threes'
          obtain ⟨rfl, later⟩ := List.append_inj same (three.trans three'.symm)
          rw [ih inner inner' later (by simp only [List.length_cons] at length; omega)]

theorem IsGrouping.unique {digits text other : List Char} (grouping : IsGrouping digits text)
    (grouping' : IsGrouping digits other) : text = other := by
  obtain ⟨first, others, rfl, least, most, threes, rfl⟩ := grouping
  obtain ⟨first', others', same, least', most', threes', rfl⟩ := grouping'
  have length := congrArg List.length same
  rw [List.length_append, List.length_append, length_flatten_of_threes threes,
    length_flatten_of_threes threes'] at length
  obtain ⟨rfl, later⟩ := List.append_inj same (by omega)
  rw [threes_inj threes threes' later]

end KindDispatch.Figures
