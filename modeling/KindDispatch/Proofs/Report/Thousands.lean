import KindDispatch.Proofs.Report.Grouping
import Mathlib.Algebra.Ring.Nat

/-!
# Grouped numbers

`groupFromLeft` writes digits in a loop: at each one it looks at how many are still to come, and
puts the comma in front of it.  It writes what `group` does (`foldl_putDigit`).

A grouping falls into its groups at the commas (`IsGrouping.splitOn`), and since no group is empty
there is no comma at an end of it and no two side by side.
-/

namespace KindDispatch.Figures

/-! ## From left to right -/

/-- Writes one of `count` digits, which comes with its number.  If it and those to come fill groups
of three there is a comma in front of it, unless it is the first. -/
def putDigit (count : Nat) (written : List Char) (digit : Char × Nat) : List Char :=
  if 0 < digit.2 ∧ (count - digit.2) % 3 = 0 then written ++ [',', digit.1]
  else written ++ [digit.1]

def groupFromLeft (digits : List Char) : List Char :=
  digits.zipIdx.foldl (putDigit digits.length) []

/-- The digits to come are grouped by themselves; a comma divides them from those written if they
fill groups of three. -/
theorem foldl_putDigit (rest : List Char) (done : Nat) (written : List Char) :
    (rest.zipIdx done).foldl (putDigit (done + rest.length)) written =
      written ++ (if 0 < done ∧ rest ≠ [] ∧ rest.length % 3 = 0 then [','] else []) ++
        group rest := by
  induction rest generalizing done written with
  | nil => simp [group]
  | cons digit rest ih =>
      have count : done + (digit :: rest).length = done + 1 + rest.length := by
        rw [List.length_cons]
        omega
      have left : done + 1 + rest.length - done = rest.length + 1 := by omega
      rw [List.zipIdx_cons, List.foldl_cons, count, ih]
      simp only [putDigit, group, left, List.length_cons, ne_eq, reduceCtorEq, not_false_eq_true,
        true_and, Nat.succ_pos]
      split_ifs <;> simp

theorem groupFromLeft_eq (digits : List Char) : groupFromLeft digits = group digits := by
  simpa [groupFromLeft] using foldl_putDigit digits 0 []

/-! ## Groups between commas -/

section Commas

variable {digits text : List Char}

theorem IsGrouping.splitOn (grouping : IsGrouping digits text) (noComma : ',' ∉ digits) :
    ∃ first others, text.splitOn ',' = first :: others ∧ digits = first ++ others.flatten ∧
      1 ≤ first.length ∧ first.length ≤ 3 ∧ ∀ group ∈ others, group.length = 3 := by
  obtain ⟨first, others, rfl, least, most, threes, rfl⟩ := grouping
  refine ⟨first, others, ?_, rfl, least, most, threes⟩
  clear least most threes
  rw [List.mem_append, not_or] at noComma
  obtain ⟨notInFirst, notInOthers⟩ := noComma
  induction others generalizing first with
  | nil => simpa using List.splitOn_eq_singleton notInFirst
  | cons group others ih =>
      rw [List.flatten_cons, List.mem_append, not_or] at notInOthers
      rw [List.flatMap_cons, List.cons_append, List.splitOn_append_cons_self_of_not_mem notInFirst,
        ih group notInOthers.1 notInOthers.2]

/-- All groups but the first are full, so the digits say how many commas there are. -/
theorem IsGrouping.count (grouping : IsGrouping digits text) (noComma : ',' ∉ digits) :
    text.count ',' = (digits.length - 1) / 3 := by
  obtain ⟨first, others, rfl, least, most, threes, rfl⟩ := grouping
  have commas : (others.flatMap (',' :: ·)).count ',' = others.length := by
    rw [List.mem_append, not_or] at noComma
    have notInOthers := noComma.2
    clear least most threes noComma
    induction others with
    | nil => rfl
    | cons group others ih =>
        rw [List.flatten_cons, List.mem_append, not_or] at notInOthers
        rw [List.flatMap_cons, List.cons_append, List.count_cons_self, List.count_append,
          List.count_eq_zero_of_not_mem notInOthers.1, ih notInOthers.2, List.length_cons]
        omega
  rw [List.count_append, commas, List.count_eq_zero_of_not_mem fun member =>
    noComma (List.mem_append_left _ member), List.length_append, length_flatten_of_threes threes]
  omega

private theorem digits_around_commas (nonempty : [] ∉ text.splitOn ',') :
    text.head? ≠ some ',' ∧ text.getLast? ≠ some ',' ∧ ¬[',', ','] <:+: text := by
  refine ⟨fun leading => ?_, fun trailing => ?_, fun ⟨before, after, doubled⟩ => ?_⟩
  · obtain ⟨rest, rfl⟩ := List.head?_eq_some_iff.mp leading
    have split := List.splitOn_append_cons_self (a := ',') [] rest
    rw [List.nil_append, List.splitOn_nil] at split
    exact nonempty (split ▸ List.mem_cons_self)
  · obtain ⟨rest, rfl⟩ := List.getLast?_eq_some_iff.mp trailing
    have split := List.splitOn_append_cons_self (a := ',') rest []
    rw [List.splitOn_nil] at split
    exact nonempty (split ▸ List.mem_concat_self)
  · have between := List.splitOn_append_cons_self (a := ',') [] after
    have split := List.splitOn_append_cons_self (a := ',') before (',' :: after)
    rw [List.nil_append, List.splitOn_nil] at between
    rw [between] at split
    subst doubled
    exact nonempty (by simp [split])

end Commas

/-! ## Numbers -/

private theorem toList_thousands (n : Nat) : (thousands n).toList = group (decimalDigits n) :=
  String.toList_ofList

theorem isGrouping_thousands (n : Nat) : IsGrouping (decimalDigits n) (thousands n).toList := by
  rw [toList_thousands]
  exact isGrouping_group (decimalDigits_ne_nil n)

theorem filter_thousands (n : Nat) : (thousands n).toList.filter (· ≠ ',') = decimalDigits n := by
  rw [(isGrouping_thousands n).filter (by decide), List.filter_eq_self]
  intro c member
  simpa using ne_of_mem_of_not_mem member (notMem_decimalDigits rfl n)

theorem thousands_inj {m n : Nat} : thousands m = thousands n ↔ m = n := by
  refine ⟨fun same => ?_, congrArg thousands⟩
  rw [← decimalDigits_inj, ← filter_thousands m, same, filter_thousands]

private theorem head?_decimalDigits_eq_zero_iff {n : Nat} :
    (decimalDigits n).head? = some '0' ↔ n = 0 := by
  constructor
  · exact fun zero => Classical.byContradiction fun positive => head?_decimalDigits positive zero
  · rintro rfl
    rfl

/-- A grouped number is its digits, with no more than one zero in front, and a comma between any two
groups; only the first group may be shorter than three. -/
theorem thousands_groups_digits (value : UInt64) :
    let digits := decimalDigits value.toNat
    let text := (thousands value.toNat).toList
    text = groupFromLeft digits ∧
    text.filter (· ≠ ',') = digits ∧ (∀ c ∈ digits, c.isDigit) ∧
    (digits.head? = some '0' ↔ value = 0) ∧
    (∃ first others, text.splitOn ',' = first :: others ∧ 1 ≤ first.length ∧ first.length ≤ 3 ∧
      ∀ group ∈ others, group.length = 3) ∧
    text.count ',' = (digits.length - 1) / 3 ∧
    (text.head? ≠ some ',' ∧ text.getLast? ≠ some ',' ∧ ¬[',', ','] <:+: text) ∧
    naturalOfDigits (text.filter (· ≠ ',')) = value.toNat ∧
    ∀ other : UInt64, thousands value.toNat = thousands other.toNat ↔ value = other := by
  intro digits text
  have grouping : IsGrouping digits text := isGrouping_thousands value.toNat
  have noComma : ',' ∉ digits := notMem_decimalDigits rfl value.toNat
  have kept : text.filter (· ≠ ',') = digits := filter_thousands value.toNat
  obtain ⟨first, others, split, -, least, most, threes⟩ := grouping.splitOn noComma
  have nonempty : [] ∉ text.splitOn ',' := by
    rw [split, List.mem_cons, not_or]
    refine ⟨fun none => ?_, fun member => absurd (threes [] member) (by decide)⟩
    rw [← none] at least
    contradiction
  refine ⟨?_, kept, fun c => isDigit_of_mem_decimalDigits, ?_,
    ⟨first, others, split, least, most, threes⟩, grouping.count noComma,
    digits_around_commas nonempty, ?_, fun other => ?_⟩
  · exact (toList_thousands value.toNat).trans (groupFromLeft_eq digits).symm
  · rw [head?_decimalDigits_eq_zero_iff, ← UInt64.toNat_inj, UInt64.toNat_zero]
  · rw [kept, naturalOfDigits_decimalDigits]
  · rw [thousands_inj, UInt64.toNat_inj]

/-- The largest number of 64 bits. -/
example : thousands (2 ^ 64 - 1) = "18,446,744,073,709,551,615" := by decide +kernel

end KindDispatch.Figures
