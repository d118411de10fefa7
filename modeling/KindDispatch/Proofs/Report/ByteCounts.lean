import KindDispatch.Proofs.Report.Amounts
import Mathlib.Data.Nat.Find
import Mathlib.Logic.Function.Iterate

/-!
# Byte counts

A count is rounded to the floating-point format and divided by 1024 until less than that is left, or
no larger unit.  A division only takes 10 off the exponent, so it rounds nothing
(`isSize_iterate`), and the bounds between the units are numbers of the format, so the conversion
carries no count over one of them (`isLargestUnit_ofNat`).  The two decimals of the text are rounded
later; they can make it 1,024.00 of a unit.
-/

namespace KindDispatch.Figures

open Binary64

/-! ## Dividing by 1024 -/

def nextUnit (size : Binary64) : Binary64 := size / Binary64.ofNat 1024

def IsSize (size : Binary64) : Prop :=
  ∃ significand unit, size = finite false significand unit ∧ size.IsProper

variable {size : Binary64}

private theorem ofNat_1024 : Binary64.ofNat 1024 = finite false (2 ^ 52) 1032 := by decide +kernel

private theorem le_iff_of_isSize (isSize : IsSize size) :
    (Binary64.ofNat 1024).le size = true ↔ 1024 ≤ size.value := by
  obtain ⟨significand, unit, rfl, -⟩ := isSize
  have value : (Binary64.ofNat 1024).value = 1024 := value_ofNat (by decide)
  rw [ofNat_1024] at value ⊢
  rw [Binary64.le_iff, value]

private theorem ten_le_unit {significand unit : Nat} (fits : significand < 2 ^ 53)
    (large : 1024 ≤ (finite false significand unit).value) : 10 ≤ unit := by
  by_contra small
  have room : 53 + unit ≤ unitExponent := by
    rw [unitExponent]
    omega
  have most := weight_le_one room
  have positive := weight_pos unit
  have fits : (significand : ℚ) < 2 ^ 53 := by exact_mod_cast fits
  rw [value_finite, if_neg Bool.false_ne_true, one_mul] at large
  nlinarith

/-- Only the exponent changes, so nothing is rounded. -/
theorem nextUnit_finite {significand unit : Nat}
    (proper : (finite false significand (unit + 10)).IsProper) :
    (finite false significand unit).IsProper ∧
      nextUnit (finite false significand (unit + 10)) = finite false significand unit := by
  have proper' : (finite false significand unit).IsProper :=
    ⟨proper.1, Nat.le_of_add_right_le proper.2.1, fun _ => proper.2.2 (Nat.succ_ne_zero _)⟩
  have numerator (a b : Nat) (same : 10 + a = 52 + b) : magnitude significand (unit + 10) <<< a =
      significand * 2 ^ unit * magnitude (2 ^ 52) b := by
    simp only [magnitude, Nat.shiftLeft_eq]
    calc significand * 2 ^ (unit + 10) * 2 ^ a = significand * 2 ^ unit * 2 ^ (10 + a) := by ring
      _ = significand * 2 ^ unit * (2 ^ 52 * 2 ^ b) := by rw [same, Nat.pow_add]
  refine ⟨proper', ?_⟩
  have positive : 0 < magnitude (2 ^ 52) 1032 := by
    rw [magnitude, Nat.shiftLeft_eq]
    positivity
  rw [nextUnit, ofNat_1024, ← ofScaledRatio_exact proper' positive,
    ← numerator unitExponent 1032 rfl]
  rfl

theorem isSize_nextUnit (isSize : IsSize size) (large : 1024 ≤ size.value) :
    IsSize (nextUnit size) ∧ (nextUnit size).value = size.value / 1024 := by
  obtain ⟨significand, unit, rfl, proper⟩ := isSize
  obtain ⟨unit, rfl⟩ := Nat.exists_eq_add_of_le' (ten_le_unit proper.1 large)
  obtain ⟨proper', next⟩ := nextUnit_finite proper
  have split := weight_add unit 10
  have value : (finite false significand (unit + 10)).value =
      1024 * (finite false significand unit).value := by
    rw [value_finite, value_finite, split]
    ring
  rw [next, value, mul_div_cancel_left₀ _ (by positivity)]
  exact ⟨⟨_, _, rfl, proper'⟩, rfl⟩

/-- No division adds an error, as long as there is enough to divide. -/
theorem isSize_iterate (isSize : IsSize size) {steps : Nat}
    (enough : steps = 0 ∨ 1024 ^ steps ≤ size.value) :
    IsSize (nextUnit^[steps] size) ∧ (nextUnit^[steps] size).value = size.value / 1024 ^ steps := by
  induction steps with
  | zero => simpa using isSize
  | succ steps ih =>
      have enough : 1024 ^ steps * 1024 ≤ size.value := by
        rw [← pow_succ]
        exact enough.resolve_left (Nat.succ_ne_zero steps)
      have positive : (0 : ℚ) < 1024 ^ steps := by positivity
      obtain ⟨isSize', value⟩ := ih (.inr (by linarith))
      have large : 1024 ≤ (nextUnit^[steps] size).value := by
        rw [value, le_div_iff₀ positive]
        linarith
      obtain ⟨isSize'', value'⟩ := isSize_nextUnit isSize' large
      rw [Function.iterate_succ_apply']
      exact ⟨isSize'', by rw [value', value, pow_succ, div_div]⟩

/-! ## Choosing a unit -/

def byteUnits : List String := ["B", "KB", "MB", "GB"]

/-- The largest of some units of which a size is at least one, and the first one for less. -/
structure IsLargestUnit (q : ℚ) (limit unit : Nat) : Prop where
  known : unit ≤ limit
  least : unit = 0 ∨ 1024 ^ unit ≤ q
  most : ∀ other ≤ limit, 1024 ^ other ≤ q → other ≤ unit

theorem exists_isLargestUnit (q : ℚ) (limit : Nat) : ∃ unit, IsLargestUnit q limit unit := by
  classical
  refine ⟨Nat.findGreatest (fun unit => 1024 ^ unit ≤ q) limit, Nat.findGreatest_le limit, ?_, ?_⟩
  · rw [or_iff_not_imp_left]
    exact fun positive => Nat.findGreatest_of_ne_zero rfl positive
  · exact fun other known enough => Nat.le_findGreatest known enough

namespace IsLargestUnit

variable {q : ℚ} {limit unit : Nat}

private theorem lt_next (largest : IsLargestUnit q limit unit) (notLast : unit < limit) :
    q < 1024 ^ (unit + 1) := by
  by_contra enough
  exact absurd (largest.most (unit + 1) notLast (not_lt.mp enough)) (Nat.not_succ_le_self unit)

private theorem shift (largest : IsLargestUnit q (limit + 1) (unit + 1)) :
    IsLargestUnit (q / 1024) limit unit := by
  have same (other : Nat) : (1024 ^ other : ℚ) ≤ q / 1024 ↔ 1024 ^ (other + 1) ≤ q := by
    rw [le_div_iff₀ (by norm_num), pow_succ]
  refine ⟨Nat.le_of_succ_le_succ largest.known, ?_, fun other known enough => ?_⟩
  · exact .inr ((same unit).mpr (largest.least.resolve_left (Nat.succ_ne_zero unit)))
  · exact Nat.le_of_succ_le_succ
      (largest.most (other + 1) (Nat.succ_le_succ known) ((same other).mp enough))

private theorem eq_zero_iff (largest : IsLargestUnit q (limit + 1) unit) : unit = 0 ↔ q < 1024 := by
  constructor
  · rintro rfl
    simpa using largest.lt_next (Nat.succ_pos limit)
  · intro less
    rcases largest.least with zero | enough
    · exact zero
    · by_contra positive
      have one : (1024 : ℚ) ≤ 1024 ^ unit := le_self_pow₀ (by norm_num) positive
      linarith

end IsLargestUnit

theorem scaleBytes_eq (isSize : IsSize size) (name : String) (larger : List String) {unit : Nat}
    (largest : IsLargestUnit size.value larger.length unit) :
    scaleBytes size name larger = (nextUnit^[unit] size, (name :: larger).getD unit "") := by
  induction larger generalizing size name unit with
  | nil =>
      obtain rfl := Nat.le_zero.mp largest.known
      rfl
  | cons next others ih =>
      rw [scaleBytes]
      cases unit with
      | zero =>
          have less := largest.eq_zero_iff.mp rfl
          rw [if_neg (mt (le_iff_of_isSize isSize).mp (not_le.mpr less))]
          rfl
      | succ unit =>
          have large := not_lt.mp (mt largest.eq_zero_iff.mpr (Nat.succ_ne_zero unit))
          obtain ⟨isSize', value⟩ := isSize_nextUnit isSize large
          rw [if_pos ((le_iff_of_isSize isSize).mpr large)]
          exact ih isSize' next (value ▸ largest.shift)

/-! ## Texts -/

section Texts

variable {count unit : Nat}

theorem isSize_ofNat (small : count < 2 ^ 64) : IsSize (Binary64.ofNat count) := by
  obtain ⟨significand, unit, written, -⟩ :=
    exists_ofScaledRatio false Nat.one_pos (unitOf_ofNat_lt small)
  exact ⟨significand, unit, (ofNat_eq count).trans written, (isNearest_ofNat small).proper⟩

/-- Every unit is exact, so rounding a count does not change the unit. -/
theorem isLargestUnit_ofNat (small : count < 2 ^ 64) (largest : IsLargestUnit count 3 unit) :
    IsLargestUnit (Binary64.ofNat count).value 3 unit := by
  have same (other : Nat) (known : other ≤ 3) :
      (1024 ^ other : ℚ) ≤ (Binary64.ofNat count).value ↔ (1024 ^ other : ℚ) ≤ count := by
    have exact : 1024 ^ other < 2 ^ 53 :=
      (Nat.pow_le_pow_right (by decide) known).trans_lt (by decide)
    have reaches := le_value_ofNat_iff exact small
    rw [Nat.cast_pow, Nat.cast_ofNat] at reaches
    rw [reaches, ← Nat.cast_le (α := ℚ), Nat.cast_pow, Nat.cast_ofNat]
  exact ⟨largest.known, largest.least.imp_right (same unit largest.known).mpr,
    fun other known enough => largest.most other known ((same other known).mp enough)⟩

/-- In its unit no count is so large that its digits were not grouped. -/
theorem value_div_lt (small : count < 2 ^ 64) (largest : IsLargestUnit count 3 unit) :
    (Binary64.ofNat count).value / 1024 ^ unit < 2 ^ 35 := by
  have nearest := isNearest_ofNat small
  rw [div_lt_iff₀ (by positivity)]
  rcases Nat.eq_or_lt_of_le largest.known with last | notLast
  · have near := nearest.near zero ⟨by decide, by decide, by decide⟩
    have none : zero.value = 0 := by simp [zero, value, scaled, magnitude]
    have small : (count : ℚ) < 2 ^ 64 := by exact_mod_cast small
    have whole : |(count : ℚ)| = count := abs_of_nonneg (Nat.cast_nonneg count)
    rw [none, zero_sub, abs_neg, whole] at near
    have above := (le_abs_self _).trans near
    rw [last]
    linarith
  · have below := (isLargestUnit_ofNat small largest).lt_next notLast
    rw [pow_succ, mul_comm] at below
    have positive : (0 : ℚ) < 1024 ^ unit := by positivity
    linarith

theorem exists_bytes_eq (small : count < 2 ^ 64) (largest : IsLargestUnit count 3 unit) :
    ∃ amount, IsAmount ((Binary64.ofNat count).value / 1024 ^ unit) amount ∧
      bytes count = amount ++ " " ++ byteUnits.getD unit "" := by
  have isSize := isSize_ofNat small
  have largest' := isLargestUnit_ofNat small largest
  have loop := scaleBytes_eq isSize "B" ["KB", "MB", "GB"] largest'
  have below := value_div_lt small largest
  obtain ⟨⟨significand, exponent, shown, -⟩, value⟩ := isSize_iterate isSize largest'.least
  rw [← value, shown] at below
  have rounded := isHalfEven_hundredths significand exponent
  generalize roundQuotient (magnitude significand exponent * 100) _ = hundredths at rounded
  have few : (hundredths : ℚ) < 2 ^ 64 := by linarith [(abs_le.mp rounded.near).2]
  have groups : hundredths / 100 < groupingLimit :=
    (Nat.div_le_self hundredths 100).trans_lt (by exact_mod_cast few)
  have amount := isAmount_decimal rounded groups
  rw [← shown, value] at amount
  refine ⟨_, amount, ?_⟩
  unfold bytes
  rw [loop]
  rfl

/-- The unit is the largest of which there is at least one.  The number in front of it is the count,
rounded to the format and divided without a further error, and then rounded to two decimals. -/
theorem bytes_shows_largest_unit (count : UInt64) :
    let rounded := Binary64.ofNat count.toNat
    ∃ unit, IsLargestUnit count.toNat 3 unit ∧
      rounded.IsNearest count.toNat ∧ (count.toNat < 2 ^ 53 → rounded.value = count.toNat) ∧
      scaleBytes rounded "B" ["KB", "MB", "GB"] =
        (nextUnit^[unit] rounded, byteUnits.getD unit "") ∧
      (∀ steps ≤ unit, (nextUnit^[steps] rounded).value = rounded.value / 1024 ^ steps) ∧
      ∀ text, bytes count.toNat = text ↔ ∃ amount,
        IsAmount (rounded.value / 1024 ^ unit) amount ∧
          text = amount ++ " " ++ byteUnits.getD unit "" := by
  intro rounded
  have small : count.toNat < 2 ^ 64 := count.toNat_lt
  obtain ⟨unit, largest⟩ := exists_isLargestUnit count.toNat 3
  have isSize := isSize_ofNat small
  have largest' := isLargestUnit_ofNat small largest
  have exact {steps : Nat} (fewer : steps ≤ unit) :
      (nextUnit^[steps] rounded).value = rounded.value / 1024 ^ steps := by
    refine (isSize_iterate isSize ?_).2
    rcases largest'.least with rfl | enough
    · exact .inl (Nat.le_zero.mp fewer)
    · exact .inr ((pow_le_pow_right₀ (by norm_num) fewer).trans enough)
  obtain ⟨amount, isAmount, shown⟩ := exists_bytes_eq small largest
  refine ⟨unit, largest, isNearest_ofNat small, value_ofNat,
    scaleBytes_eq isSize "B" ["KB", "MB", "GB"] largest', fun steps => exact, fun text => ?_⟩
  constructor
  · rintro rfl
    exact ⟨amount, isAmount, shown⟩
  · rintro ⟨other, isAmount', rfl⟩
    rw [shown, isAmount.unique isAmount']

/-- Half-way between two numbers of the format. -/
example : bytes (2 ^ 53 + 1) = "8,388,608.00 GB" := by decide +kernel

/-! ## Numbers that reach the next unit -/

theorem hundredthsShown_lt_iff (small : count < 2 ^ 53) (largest : IsLargestUnit count 3 unit) :
    hundredthsShown (bytes count) < 102400 ↔ 200 * count < 204799 * 1024 ^ unit := by
  obtain ⟨amount, isAmount, shown⟩ := exists_bytes_eq (by omega) largest
  have rounded := (isAmount.shown (byteUnits.getD unit "")).1
  rw [← shown, value_ofNat small] at rounded
  have even : Even 102400 := by decide
  rw [rounded.lt_iff even, div_mul_eq_mul_div, div_lt_iff₀ (by positivity),
    ← Nat.cast_lt (α := ℚ)]
  push_cast
  constructor <;> intro below <;> linarith

/-- The unit is chosen before the number is rounded, so just below one of the next unit a number is
rounded up to 1,024.00. -/
theorem number_below_1024_iff (count : UInt64) (smaller : unitShown (bytes count.toNat) ≠ "GB") :
    hundredthsShown (bytes count.toNat) < 102400 ↔
      ¬(1048571 ≤ count.toNat ∧ count.toNat ≤ 1048575 ∨
        1073736582 ≤ count.toNat ∧ count.toNat ≤ 1073741823) := by
  obtain ⟨unit, largest⟩ := exists_isLargestUnit count.toNat 3
  obtain ⟨amount, isAmount, shown⟩ := exists_bytes_eq count.toNat_lt largest
  have notLast : unit < 3 := by
    refine Nat.lt_of_le_of_ne largest.known ?_
    rintro rfl
    rw [shown, (isAmount.shown _).2] at smaller
    exact smaller rfl
  have most : count.toNat < 1024 ^ (unit + 1) := by exact_mod_cast largest.lt_next notLast
  have least : unit = 0 ∨ 1024 ^ unit ≤ count.toNat :=
    largest.least.imp_right fun enough => by exact_mod_cast enough
  have fits : 1024 ^ (unit + 1) ≤ 1024 ^ 3 := Nat.pow_le_pow_right (by decide) (by omega)
  have exact : count.toNat < 2 ^ 53 := by omega
  rw [hundredthsShown_lt_iff exact largest]
  obtain rfl | rfl | rfl : unit = 0 ∨ unit = 1 ∨ unit = 2 := by omega
  all_goals omega

theorem number_below_1024_of_kilobytes :
    unitShown (bytes 1048570) ≠ "GB" ∧ hundredthsShown (bytes 1048570) < 102400 := by
  have smaller : unitShown (bytes (1048570 : UInt64).toNat) ≠ "GB" := by decide +kernel
  exact ⟨smaller, (number_below_1024_iff 1048570 smaller).mpr (by decide)⟩

theorem number_reaches_1024 :
    bytes 1048575 = "1,024.00 KB" ∧ ¬∀ count : UInt64, unitShown (bytes count.toNat) ≠ "GB" →
      hundredthsShown (bytes count.toNat) < 102400 := by
  have shown : bytes 1048575 = "1,024.00 KB" := by decide +kernel
  refine ⟨shown, fun always => ?_⟩
  have below : hundredthsShown (bytes 1048575) < 102400 :=
    always 1048575 (by decide +kernel)
  rw [shown] at below
  exact absurd below (by decide +kernel)

end Texts

end KindDispatch.Figures
