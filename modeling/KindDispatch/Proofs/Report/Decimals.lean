import KindDispatch.Proofs.Report.Amounts

/-!
# Two decimals

`decimal` rounds a number and writes it at once.  `groupWhole` is the way through texts: the number
is written with two decimals, the text is split at its point, and what is in front of it is read
back as a number of 64 bits, to be grouped.  Both come to the same (`decimal_eq_groupWhole`).  A
whole part that does not fit in 64 bits is not read back and keeps its digits as they are.
-/

namespace KindDispatch.Figures

open Binary64

/-! ## The way through texts -/

def splitPoint? (text : List Char) : Option (List Char × List Char) :=
  match text.dropWhile (· ≠ '.') with
  | [] => none
  | _ :: decimals => some (text.takeWhile (· ≠ '.'), decimals)

/-- The number of 64 bits that digits stand for; there may be a plus sign in front of them. -/
def word? (text : List Char) : Option Nat :=
  let digits := match text with
    | '+' :: digits => digits
    | digits => digits
  if digits ≠ [] ∧ digits.all Char.isDigit ∧ naturalOfDigits digits < groupingLimit then
    some (naturalOfDigits digits)
  else none

def groupWhole (text : String) : String :=
  match splitPoint? text.toList with
  | none => text
  | some (whole, decimals) =>
    (word? whole).elim (String.ofList whole) thousands ++ "." ++ String.ofList decimals

private theorem splitPoint?_append {whole : List Char} (noPoint : '.' ∉ whole)
    (decimals : List Char) : splitPoint? (whole ++ '.' :: decimals) = some (whole, decimals) := by
  have unbroken : ∀ c ∈ whole, decide (c ≠ '.') = true := fun c member =>
    decide_eq_true (ne_of_mem_of_not_mem member noPoint)
  have front : (whole ++ '.' :: decimals).takeWhile (· ≠ '.') = whole := by
    rw [List.takeWhile_append_of_pos unbroken, List.takeWhile_cons_of_neg (by decide),
      List.append_nil]
  have behind : (whole ++ '.' :: decimals).dropWhile (· ≠ '.') = '.' :: decimals := by
    rw [List.dropWhile_append_of_pos unbroken, List.dropWhile_cons_of_neg (by decide)]
  simp only [splitPoint?, front, behind]

private theorem word?_decimalDigits (n : Nat) :
    word? (decimalDigits n) = if n < groupingLimit then some n else none := by
  have isDigit : ∀ c ∈ decimalDigits n, c.isDigit = true := fun c => isDigit_of_mem_decimalDigits
  have unsigned : (match decimalDigits n with
      | '+' :: digits => digits
      | digits => digits) = decimalDigits n := by
    split
    · rename_i digits signed
      exact absurd (isDigit '+' (signed ▸ List.mem_cons_self)) (by decide)
    · rfl
  simp only [word?, unsigned, naturalOfDigits_decimalDigits]
  simp [decimalDigits_ne_nil, List.all_eq_true.mpr isDigit]

private theorem groupWhole_amountChars (hundredths : Nat) :
    groupWhole (String.ofList (amountChars (decimalDigits (hundredths / 100)) hundredths)) =
      String.ofList (amountChars (wholeChars (hundredths / 100)) hundredths) := by
  have noPoint : '.' ∉ decimalDigits (hundredths / 100) := notMem_decimalDigits rfl _
  have whole : (word? (decimalDigits (hundredths / 100))).elim
      (String.ofList (decimalDigits (hundredths / 100))) thousands =
        String.ofList (wholeChars (hundredths / 100)) := by
    rw [word?_decimalDigits, wholeChars]
    split <;> rfl
  rw [groupWhole, String.toList_ofList, amountChars, splitPoint?_append noPoint]
  dsimp only
  rw [whole, ofList_amountChars]

/-! ## Numbers -/

section Numbers

variable {x : Binary64} {significand unit hundredths : Nat}

private theorem fixed_two
    (rounded : IsHalfEven ((finite false significand unit).value * 100) hundredths) :
    (finite false significand unit).fixed 2 =
      String.ofList (amountChars (decimalDigits (hundredths / 100)) hundredths) := by
  obtain rfl := rounded.unique (isHalfEven_hundredths significand unit)
  have hundred : Nat.pow 10 2 = 100 := rfl
  simp only [fixed, hundred]
  generalize roundQuotient (magnitude significand unit * 100) (1 <<< unitExponent) = hundredths at *
  have padded : List.replicate (2 - (decimalDigits (hundredths % 100)).length) '0' ++
      decimalDigits (hundredths % 100) =
        [(hundredths / 10 % 10).digitChar, (hundredths % 10).digitChar] := by
    have tens : hundredths % 100 / 10 = hundredths / 10 % 10 := by omega
    have ones : hundredths % 100 % 10 = hundredths % 10 := by omega
    by_cases short : hundredths % 100 < 10
    · have none : hundredths / 10 % 10 = 0 := by omega
      have last : hundredths % 100 = hundredths % 10 := by omega
      rw [decimalDigits, Nat.toDigits_of_lt_base short, none, last]
      rfl
    · rw [decimalDigits_of_ten_le (by omega), tens, ones, decimalDigits,
        Nat.toDigits_of_lt_base (by omega)]
      rfl
  rw [if_neg (by decide), if_neg Bool.false_ne_true, padded, String.empty_append,
    ofList_amountChars]

private theorem decimal_clampNegative (x : Binary64) : decimal x.clampNegative = decimal x := by
  have twice : x.clampNegative.clampNegative = x.clampNegative := by
    cases x with
    | nan => rfl
    | infinity negative => cases negative <;> rfl
    | finite negative significand unit =>
        by_cases below : (finite negative significand unit).lt zero = true
        · simp only [clampNegative, if_pos below]
          rfl
        · simp only [clampNegative, if_neg below]
  simp only [decimal, twice]

private theorem clampNegative_of_lt (negative : x.lt zero = true) : x.clampNegative = zero := by
  cases x with
  | nan => rfl
  | infinity | finite => simp [clampNegative, negative]

theorem decimal_eq_groupWhole (notNegativeZero : ∀ unit, x ≠ finite true 0 unit) :
    decimal x = groupWhole (x.clampNegative.fixed 2) := by
  have shown (significand unit : Nat) : decimal (finite false significand unit) =
      groupWhole ((finite false significand unit).fixed 2) := by
    have rounded := isHalfEven_hundredths significand unit
    rw [decimal_eq rounded, fixed_two rounded, groupWhole_amountChars]
  rw [← decimal_clampNegative]
  cases x with
  | nan => exact shown 0 0
  | infinity negative =>
      cases negative with
      | false => rfl
      | true => exact shown 0 0
  | finite negative significand unit =>
      cases negative with
      | false => rw [clampNegative_finite]; exact shown significand unit
      | true =>
          have positive : 0 < significand := Nat.pos_of_ne_zero fun none =>
            notNegativeZero unit (none ▸ rfl)
          have below : (finite true significand unit).lt zero = true := by
            have large : 0 < significand <<< unit := by
              rw [Nat.shiftLeft_eq]
              positivity
            have large : (0 : Int) < (significand <<< unit : Nat) := by exact_mod_cast large
            simpa [lt, zero, scaled, magnitude] using large
          rw [clampNegative_of_lt below]
          exact shown 0 0

/-- A number is rounded to two decimals, and then its whole part is grouped, unless that does not
fit in 64 bits.  Negative numbers and NaN are shown as zero. -/
theorem decimal_groups_words :
    (∀ significand unit, ∃ hundredths whole,
      IsHalfEven ((finite false significand unit).value * 100) hundredths ∧
      decimal (finite false significand unit) = String.ofList (amountChars whole hundredths) ∧
      if hundredths / 100 < 2 ^ 64 then IsGrouping (decimalDigits (hundredths / 100)) whole
      else whole = decimalDigits (hundredths / 100)) ∧
    (∀ x : Binary64, x = nan ∨ x.lt zero = true → decimal x = "0.00") ∧
    ∀ x : Binary64, (∀ unit, x ≠ finite true 0 unit) →
      decimal x = groupWhole (x.clampNegative.fixed 2) := by
  refine ⟨fun significand unit => ?_, fun x below => ?_, fun x => decimal_eq_groupWhole⟩
  · have rounded := isHalfEven_hundredths significand unit
    refine ⟨_, _, rounded, decimal_eq rounded, ?_⟩
    have limit : groupingLimit = 2 ^ 64 := rfl
    rw [← limit, wholeChars]
    split
    · exact isGrouping_group (decimalDigits_ne_nil _)
    · rfl
  · have clamped : x.clampNegative = zero := by
      rcases below with rfl | negative
      · rfl
      · exact clampNegative_of_lt negative
    have none : decimal zero = "0.00" := by decide +kernel
    rw [← decimal_clampNegative, clamped, none]

theorem decimal_groups_words_of_minus_one :
    (finite true (2 ^ 52) 1022).lt zero = true ∧
      decimal (finite true (2 ^ 52) 1022) = "0.00" ∧
      (∀ unit, finite true (2 ^ 52) 1022 ≠ finite true 0 unit) ∧
      groupWhole ((finite true (2 ^ 52) 1022).clampNegative.fixed 2) = "0.00" := by
  have negative : (finite true (2 ^ 52) 1022).lt zero = true := by decide +kernel
  have notZero : ∀ unit, finite true (2 ^ 52) 1022 ≠ finite true 0 unit := by simp
  obtain ⟨-, belowZero, throughText⟩ := decimal_groups_words
  have shown := belowZero _ (.inr negative)
  exact ⟨negative, shown, notZero, (throughText _ notZero).symm.trans shown⟩

/-- A rounded number may have a digit more. -/
example : decimal (.ofRatio false 999999 1000) = "1,000.00" := by decide +kernel

private theorem isAmount_two_pow_64 : IsAmount (2 ^ 64) "18,446,744,073,709,551,616.00" := by
  have rounded : IsHalfEven (((2 ^ 64 * 100 : Nat) : ℚ) + 0) (2 ^ 64 * 100) :=
    .floor le_rfl (by norm_num) (by norm_num)
  refine ⟨2 ^ 64 * 100, group (decimalDigits (2 ^ 64)), ?_,
    isGrouping_group (decimalDigits_ne_nil _), by decide +kernel⟩
  rw [add_zero, Nat.cast_mul, Nat.cast_pow, Nat.cast_ofNat, Nat.cast_ofNat] at rounded
  exact rounded

theorem large_amount_is_not_grouped :
    decimal (.ofNat (2 ^ 64)) = "18446744073709551616.00" ∧
      ¬∀ significand unit, (finite false significand unit).IsProper →
        IsAmount (finite false significand unit).value
          (decimal (finite false significand unit)) := by
  have number : Binary64.ofNat (2 ^ 64) = finite false (2 ^ 52) (unitExponent + 12) := by
    decide +kernel
  have shown : decimal (.ofNat (2 ^ 64)) = "18446744073709551616.00" := by decide +kernel
  have value : (finite false (2 ^ 52) (unitExponent + 12)).value = 2 ^ 64 := by
    have one : weight unitExponent = 1 := div_self (by positivity)
    rw [value_finite, weight_add, one]
    norm_num
  refine ⟨shown, fun always => ?_⟩
  have amount := always (2 ^ 52) (unitExponent + 12) ⟨by decide, by decide, fun _ => le_rfl⟩
  rw [value, ← number, shown] at amount
  exact absurd (amount.unique isAmount_two_pow_64) (by decide)

end Numbers

end KindDispatch.Figures
