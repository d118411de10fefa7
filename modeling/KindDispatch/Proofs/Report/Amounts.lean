import KindDispatch.Proofs.Binary64.Rounding
import KindDispatch.Proofs.Report.Grouping

/-!
# Amounts

`IsAmount q text` says that a text is a number rounded to two decimal places, its whole part in groups
of three digits.  `decimal` writes such a text (`isAmount_decimal`), and there is no other
(`IsAmount.unique`).
-/

namespace KindDispatch.Figures

open Binary64

/-! ## Two decimal places -/

/-- A whole part in groups of three digits, a point and two digits. -/
def amountChars (grouped : List Char) (hundredths : Nat) : List Char :=
  grouped ++ ['.', (hundredths / 10 % 10).digitChar, (hundredths % 10).digitChar]

theorem ofList_amountChars (whole : List Char) (hundredths : Nat) :
    String.ofList (amountChars whole hundredths) = String.ofList whole ++ "." ++
      String.ofList [(hundredths / 10 % 10).digitChar, (hundredths % 10).digitChar] := by
  have point : "." = String.ofList ['.'] := rfl
  rw [amountChars, point, ← String.ofList_append, ← String.ofList_append, List.append_assoc]
  rfl

/-- The text is the number, rounded to two decimal places and with a grouped whole part. -/
def IsAmount (q : ℚ) (text : String) : Prop :=
  ∃ hundredths grouped, IsHalfEven (q * 100) hundredths ∧
    IsGrouping (decimalDigits (hundredths / 100)) grouped ∧
    text = String.ofList (amountChars grouped hundredths)

theorem IsAmount.unique {q : ℚ} {text other : String} (amount : IsAmount q text)
    (amount' : IsAmount q other) : text = other := by
  obtain ⟨hundredths, grouped, rounded, grouping, rfl⟩ := amount
  obtain ⟨hundredths', grouped', rounded', grouping', rfl⟩ := amount'
  obtain rfl := rounded.unique rounded'
  rw [grouping.unique grouping']

private theorem toString_digit {n : Nat} (small : n < 10) : toString n = String.ofList
    [n.digitChar] := by
  rw [Nat.toString_eq_ofList_toDigits, Nat.toDigits_of_lt_base small]

variable {significand unit hundredths : Nat}

theorem isHalfEven_hundredths (significand unit : Nat) :
    IsHalfEven ((finite false significand unit).value * 100)
      (roundQuotient (magnitude significand unit * 100) (1 <<< unitExponent)) := by
  have positive : 0 < 1 <<< unitExponent := by
    rw [Nat.shiftLeft_eq]
    positivity
  have rounded := isHalfEven_roundQuotient (magnitude significand unit * 100) positive
  have value : (finite false significand unit).value =
      (magnitude significand unit : Nat) / 2 ^ unitExponent := by simp [value, scaled]
  have ratio : (finite false significand unit).value * (100 : ℚ) =
      (magnitude significand unit * 100 : Nat) / (1 <<< unitExponent : Nat) := by
    rw [value, Nat.shiftLeft_eq, Nat.one_mul]
    push_cast
    ring
  rwa [ratio]

/-- A whole part as it is written: in groups, unless it is too large for that. -/
def wholeChars (n : Nat) : List Char :=
  if n < groupingLimit then group (decimalDigits n) else decimalDigits n

theorem clampNegative_finite (significand unit : Nat) :
    clampNegative (finite false significand unit) = finite false significand unit := by
  have notNegative : ¬(scaled false significand unit < scaled false 0 0) :=
    not_lt.mpr (Int.natCast_nonneg _)
  simp [clampNegative, zero, lt, notNegative]

theorem decimal_eq (rounded : IsHalfEven ((finite false significand unit).value * 100) hundredths) :
    decimal (finite false significand unit) =
      String.ofList (amountChars (wholeChars (hundredths / 100)) hundredths) := by
  obtain rfl := rounded.unique (isHalfEven_hundredths significand unit)
  simp only [decimal, clampNegative_finite]
  generalize roundQuotient (magnitude significand unit * 100) (1 <<< unitExponent) = hundredths at *
  have whole : (if hundredths / 100 < groupingLimit then thousands (hundredths / 100)
      else toString (hundredths / 100)) = String.ofList (wholeChars (hundredths / 100)) := by
    rw [wholeChars, apply_ite String.ofList, Nat.toString_eq_ofList_toDigits]
    rfl
  have tens : hundredths % 100 / 10 = hundredths / 10 % 10 := by omega
  have ones : hundredths % 100 % 10 = hundredths % 10 := by omega
  have both (a b : Char) : String.ofList [a, b] = String.ofList [a] ++ String.ofList [b] := by
    rw [← String.ofList_append, List.singleton_append]
  rw [whole, toString_digit (by omega), toString_digit (by omega), tens, ones, ofList_amountChars,
    both, ← String.append_assoc]

theorem isAmount_decimal
    (rounded : IsHalfEven ((finite false significand unit).value * 100) hundredths)
    (groups : hundredths / 100 < groupingLimit) :
    IsAmount (finite false significand unit).value (decimal (finite false significand unit)) := by
  refine ⟨hundredths, _, rounded, isGrouping_group (decimalDigits_ne_nil _), ?_⟩
  rw [decimal_eq rounded, wholeChars, if_pos groups]

/-! ## Reading an amount -/

/-- The number in front of a blank, in hundredths: its digits, without the commas and the point. -/
def hundredthsShown (text : String) : Nat :=
  naturalOfDigits ((text.toList.takeWhile (· ≠ ' ')).filter Char.isDigit)

def unitShown (text : String) : String := String.ofList ((text.toList.dropWhile (· ≠ ' ')).drop 1)

section Shown

variable {hundredths : Nat} {grouped : List Char}

private theorem naturalOfDigits_amountChars
    (grouping : IsGrouping (decimalDigits (hundredths / 100)) grouped) :
    naturalOfDigits ((amountChars grouped hundredths).filter Char.isDigit) = hundredths := by
  have whole : grouped.filter Char.isDigit = decimalDigits (hundredths / 100) := by
    rw [grouping.filter rfl, List.filter_eq_self]
    exact fun _ => isDigit_of_mem_decimalDigits
  have tens : hundredths / 10 % 10 < 10 := Nat.mod_lt _ (by decide)
  have ones : hundredths % 10 < 10 := Nat.mod_lt _ (by decide)
  have digits : (amountChars grouped hundredths).filter Char.isDigit =
      decimalDigits (hundredths / 100) ++ [(hundredths / 10 % 10).digitChar] ++
        [(hundredths % 10).digitChar] := by
    have point : '.'.isDigit = false := rfl
    simp [amountChars, whole, point, tens, ones]
  rw [digits, naturalOfDigits_append _ ones, naturalOfDigits_append _ tens,
    naturalOfDigits_decimalDigits]
  omega

private theorem ne_blank_of_mem_amountChars
    (grouping : IsGrouping (decimalDigits (hundredths / 100)) grouped) :
    ∀ c ∈ amountChars grouped hundredths, decide (c ≠ ' ') = true := by
  have visible (c : Char) (isDigit : c.isDigit = true) : c ≠ ' ' := by
    rintro rfl
    contradiction
  have whole : ∀ c ∈ grouped, c ≠ ' ' :=
    grouping.forall_mem (by decide) fun c member => visible c (isDigit_of_mem_decimalDigits member)
  have tens := visible (hundredths / 10 % 10).digitChar (by simp [Nat.mod_lt])
  have ones := visible (hundredths % 10).digitChar (by simp [Nat.mod_lt])
  simp only [amountChars, List.mem_append, List.mem_cons, decide_eq_true_eq]
  rintro c (inGroups | rfl | rfl | rfl | none)
  · exact whole c inGroups
  · decide
  · exact tens
  · exact ones
  · exact absurd none List.not_mem_nil

theorem IsAmount.shown {q : ℚ} {text : String} (amount : IsAmount q text) (unit : String) :
    IsHalfEven (q * 100) (hundredthsShown (text ++ " " ++ unit)) ∧
      unitShown (text ++ " " ++ unit) = unit := by
  obtain ⟨hundredths, grouped, rounded, grouping, rfl⟩ := amount
  have split : (String.ofList (amountChars grouped hundredths) ++ " " ++ unit).toList =
      amountChars grouped hundredths ++ ' ' :: unit.toList := by simp
  have unbroken := ne_blank_of_mem_amountChars grouping
  rw [hundredthsShown, unitShown, split, List.takeWhile_append_of_pos unbroken,
    List.dropWhile_append_of_pos unbroken]
  simp [naturalOfDigits_amountChars grouping, rounded]

end Shown

end KindDispatch.Figures
