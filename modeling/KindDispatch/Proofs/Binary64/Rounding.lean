import KindDispatch.Binary64.Basic
import Mathlib.Algebra.Order.Field.Rat
import Mathlib.Data.Rat.Cast.Order
import Mathlib.Tactic.FieldSimp
import Mathlib.Tactic.GCongr
import Mathlib.Tactic.Linarith
import Mathlib.Tactic.Positivity
import Mathlib.Tactic.Ring

/-!
# Rounding

`Binary64.IsNearest` says what a correctly rounded number is: none of the format is nearer to what
it stands for, and it has the even significand if another one is as near.  `ofScaledRatio` rounds
correctly, and it leaves a number of the format alone.
-/

namespace KindDispatch

/-! ## Whole numbers -/

/-- The natural number nearest to `q`, the even one of two that are equally near. -/
structure IsHalfEven (q : ℚ) (n : Nat) : Prop where
  near : |n - q| ≤ 1 / 2
  even : |n - q| = 1 / 2 → Even n

namespace IsHalfEven

variable {q : ℚ} {n : Nat}

private theorem half_le (rounded : IsHalfEven q n) {k : Int} (other : k ≠ n) : 1 / 2 ≤ |k - q| := by
  have apart : (1 : ℚ) ≤ |(k : ℚ) - n| := by
    have := Int.one_le_abs (sub_ne_zero.mpr other)
    exact_mod_cast this
  have triangle := abs_sub_le (k : ℚ) q n
  rw [abs_sub_comm q] at triangle
  linarith [rounded.near]

theorem nearest (rounded : IsHalfEven q n) (k : Int) : |n - q| ≤ |k - q| := by
  by_cases same : k = n
  · rw [same, Int.cast_natCast]
  · exact rounded.near.trans (rounded.half_le same)

private theorem even_of_tie (rounded : IsHalfEven q n) {k : Int} (other : k ≠ n)
    (tie : |k - q| = |n - q|) : Even n :=
  rounded.even (le_antisymm rounded.near (tie ▸ rounded.half_le other))

theorem unique {m : Nat} (rounded : IsHalfEven q n) (rounded' : IsHalfEven q m) : m = n := by
  by_contra other
  have half : |(n : ℚ) - q| = 1 / 2 := le_antisymm rounded.near
    (by exact_mod_cast rounded'.half_le (k := n) (by exact_mod_cast Ne.symm other))
  have half' : |(m : ℚ) - q| = 1 / 2 := le_antisymm rounded'.near
    (by exact_mod_cast rounded.half_le (k := m) (by exact_mod_cast other))
  obtain ⟨a, ha⟩ := rounded.even half
  obtain ⟨b, hb⟩ := rounded'.even half'
  -- two even numbers are not one apart
  have apart := abs_sub_le (n : ℚ) q m
  rw [abs_sub_comm q, half, half'] at apart
  have apart : |(n : Int) - m| ≤ 1 := by
    have : |(n : ℚ) - m| ≤ 1 := by linarith
    exact_mod_cast this
  rw [abs_le] at apart
  omega

theorem lt_iff (rounded : IsHalfEven q n) {bound : Nat} (even : Even bound) :
    n < bound ↔ q < bound - 1 / 2 := by
  have near := abs_le.mp rounded.near
  constructor
  · intro below
    by_contra above
    have least : (n : ℚ) + 1 ≤ bound := by exact_mod_cast below
    have half : |(n : ℚ) - q| = 1 / 2 := by
      rw [abs_of_nonpos] <;> linarith
    have next : bound = n + 1 := by
      have most : (bound : ℚ) ≤ n + 1 := by linarith
      exact Nat.le_antisymm (by exact_mod_cast most) below
    exact Nat.not_even_iff_odd.mpr (rounded.even half).add_one (next ▸ even)
  · intro below
    have less : (n : ℚ) < bound := by linarith
    exact_mod_cast less

theorem floor {part : ℚ} (least : 0 ≤ part) (most : part ≤ 1 / 2)
    (even : part = 1 / 2 → Even n) : IsHalfEven (n + part) n := by
  have distance : |(n : ℚ) - (n + part)| = part := by
    rw [sub_add_cancel_left, abs_neg, abs_of_nonneg least]
  exact ⟨distance.trans_le most, fun tie => even (distance.symm.trans tie)⟩

theorem ceil {part : ℚ} (least : 1 / 2 ≤ part) (most : part ≤ 1)
    (even : part = 1 / 2 → Even (n + 1)) : IsHalfEven (n + part) (n + 1) := by
  have distance : |((n + 1 : Nat) : ℚ) - (n + part)| = 1 - part := by
    rw [Nat.cast_add, Nat.cast_one, add_sub_add_left_eq_sub, abs_of_nonneg (by linarith)]
  refine ⟨by rw [distance]; linarith, fun tie => even ?_⟩
  rw [distance] at tie
  linarith

end IsHalfEven

theorem isHalfEven_roundQuotient (num : Nat) {den : Nat} (positive : 0 < den) :
    IsHalfEven (num / den) (roundQuotient num den) := by
  have positive' : (0 : ℚ) < den := by exact_mod_cast positive
  have whole : (num : ℚ) / den = (num / den : Nat) + (num % den : Nat) / den := by
    have split : (num : ℚ) = den * (num / den : Nat) + (num % den : Nat) := by
      exact_mod_cast (Nat.div_add_mod num den).symm
    field_simp
    linarith
  have fits := Nat.mod_lt num positive
  simp only [whole, roundQuotient]
  generalize num / den = floor
  generalize num % den = rest at fits
  have least : (0 : ℚ) ≤ rest / den := by positivity
  have most : (rest : ℚ) / den ≤ 1 := (div_le_one positive').mpr (by exact_mod_cast fits.le)
  have low : (rest : ℚ) / den ≤ 1 / 2 ↔ 2 * rest ≤ den := by
    rw [div_le_div_iff₀ positive' two_pos, one_mul, mul_comm]
    norm_cast
  have high : 1 / 2 ≤ (rest : ℚ) / den ↔ den ≤ 2 * rest := by
    rw [div_le_div_iff₀ two_pos positive', one_mul, mul_comm]
    norm_cast
  split_ifs with below above even
  · exact .floor least (low.mpr below.le) fun half =>
      absurd (high.mp half.ge) (Nat.not_le.mpr below)
  · exact .ceil (high.mpr above.le) most fun half =>
      absurd (low.mp half.le) (Nat.not_le.mpr above)
  · exact .floor least (low.mpr (Nat.not_lt.mp above)) fun _ => Nat.even_iff.mpr even
  · exact .ceil (high.mpr (Nat.not_lt.mp below)) most fun _ => Nat.even_iff.mpr (by omega)

private theorem roundQuotient_eq_or (num den : Nat) :
    roundQuotient num den = num / den ∨ roundQuotient num den = num / den + 1 := by
  simp only [roundQuotient]
  split
  · exact .inl rfl
  split
  · exact .inr rfl
  split
  · exact .inl rfl
  · exact .inr rfl

private theorem roundQuotient_le {num den bound : Nat} (below : num < bound * den) :
    roundQuotient num den ≤ bound := by
  have := Nat.div_lt_of_lt_mul (Nat.mul_comm _ _ ▸ below)
  have := roundQuotient_eq_or num den
  omega

private theorem le_roundQuotient {num den bound : Nat} (positive : 0 < den)
    (above : bound * den ≤ num) : bound ≤ roundQuotient num den := by
  have := (Nat.le_div_iff_mul_le positive).mpr above
  have := roundQuotient_eq_or num den
  omega

theorem roundQuotient_mul (n : Nat) {den : Nat} (positive : 0 < den) :
    roundQuotient (n * den) den = n := by
  simp [roundQuotient, Nat.mul_div_cancel n positive, positive]

/-! ## Numbers of the format -/

namespace Binary64

def value : Binary64 → ℚ
  | finite negative significand unit => scaled negative significand unit / 2 ^ unitExponent
  | nan | infinity _ => 0

def IsProper : Binary64 → Prop
  | finite _ significand unit =>
    significand < 2 ^ 53 ∧ unit ≤ maxUnit ∧ (unit ≠ 0 → 2 ^ 52 ≤ significand)
  | nan | infinity _ => False

def HasEvenSignificand : Binary64 → Prop
  | finite _ significand _ => Even significand
  | nan | infinity _ => False

/-- `q` correctly rounded to a number of the format. -/
structure IsNearest (q : ℚ) (x : Binary64) : Prop where
  proper : x.IsProper
  near : ∀ y : Binary64, y.IsProper → |x.value - q| ≤ |y.value - q|
  even : ∀ y : Binary64, y.IsProper → y.value ≠ x.value → |y.value - q| = |x.value - q| →
    x.HasEvenSignificand

/-! ## Rounding to the format -/

section OfScaledRatio

variable {negative : Bool} {num den : Nat}

def unitOf (num den : Nat) : Nat := (num / den).log2 + 1 - 53

private theorem lt_unitOf (positive : 0 < den) : num < 2 ^ 53 * (den * 2 ^ unitOf num den) := by
  have below : num / den < 2 ^ (53 + unitOf num den) := by
    refine Nat.lt_of_lt_of_le Nat.lt_log2_self (Nat.pow_le_pow_right two_pos ?_)
    rw [unitOf]
    omega
  rw [Nat.div_lt_iff_lt_mul positive, Nat.pow_add] at below
  calc num < 2 ^ 53 * 2 ^ unitOf num den * den := below
    _ = 2 ^ 53 * (den * 2 ^ unitOf num den) := by ring

private theorem unitOf_le (positive : 0 < den) (large : unitOf num den ≠ 0) :
    2 ^ 52 * (den * 2 ^ unitOf num den) ≤ num := by
  have above : 2 ^ (52 + unitOf num den) ≤ num / den := by
    have nonzero : num / den ≠ 0 := by
      intro zero
      simp [unitOf, zero] at large
    refine Nat.le_trans (Nat.pow_le_pow_right two_pos ?_) (Nat.log2_self_le nonzero)
    rw [unitOf] at large ⊢
    omega
  rw [Nat.le_div_iff_mul_le positive, Nat.pow_add] at above
  calc 2 ^ 52 * (den * 2 ^ unitOf num den) = 2 ^ 52 * 2 ^ unitOf num den * den := by ring
    _ ≤ num := above

theorem exists_ofScaledRatio (negative : Bool) (positive : 0 < den)
    (small : unitOf num den < maxUnit) :
    ∃ significand unit, ofScaledRatio negative num den = finite negative significand unit ∧
      (finite negative significand unit).IsProper ∧
      significand * 2 ^ unit =
        roundQuotient num (den * 2 ^ unitOf num den) * 2 ^ unitOf num den ∧
      (Even (roundQuotient num (den * 2 ^ unitOf num den)) → Even significand) := by
  have positive' : 0 < den * 2 ^ unitOf num den := by positivity
  have most : roundQuotient num (den * 2 ^ unitOf num den) ≤ 2 ^ 53 :=
    roundQuotient_le (lt_unitOf positive)
  have least : unitOf num den ≠ 0 → 2 ^ 52 ≤ roundQuotient num (den * 2 ^ unitOf num den) :=
    fun large => le_roundQuotient positive' (unitOf_le positive large)
  have fold : (num / den).log2 + 1 - 53 = unitOf num den := rfl
  simp only [ofScaledRatio, Nat.shiftLeft_eq, fold]
  clear fold
  generalize roundQuotient num (den * 2 ^ unitOf num den) = rounded at *
  generalize unitOf num den = unit at *
  by_cases carry : rounded = 2 * leastNormal
  · refine ⟨leastNormal, unit + 1, ?_, ⟨by decide, by omega, fun _ => by decide⟩, ?_,
      fun _ => by decide⟩
    · rw [if_pos carry]
      simp only [if_neg (by omega : ¬maxUnit < unit + 1)]
    · rw [carry, Nat.pow_succ]
      ring
  · refine ⟨rounded, unit, ?_, ⟨?_, by omega, least⟩, rfl, id⟩
    · rw [if_neg carry]
      simp only [if_neg (by omega : ¬maxUnit < unit)]
    · have : 2 * leastNormal = 2 ^ 53 := rfl
      omega

def weight (unit : Nat) : ℚ := 2 ^ unit / 2 ^ unitExponent

theorem weight_pos (unit : Nat) : 0 < weight unit := by
  rw [weight]
  positivity

theorem value_finite (negative : Bool) (significand unit : Nat) :
    (finite negative significand unit).value =
      (if negative then -1 else 1) * significand * weight unit := by
  cases negative <;> simp [value, scaled, magnitude, Nat.shiftLeft_eq, weight] <;> ring

theorem weight_add (unit more : Nat) : weight (unit + more) = 2 ^ more * weight unit := by
  rw [weight, weight, pow_add]
  ring

theorem weight_le_one {unit : Nat} (small : 53 + unit ≤ unitExponent) :
    2 ^ 53 * weight unit ≤ 1 := by
  obtain ⟨more, size⟩ := Nat.exists_eq_add_of_le small
  have steps : (1 : ℚ) ≤ 2 ^ more := one_le_pow₀ one_le_two
  rw [weight, size, ← mul_div_assoc, ← pow_add, div_le_one (by positivity), pow_add _ _ more]
  exact le_mul_of_one_le_right (by positivity) steps

theorem le_iff {negative negative' : Bool} {significand unit significand' unit' : Nat} :
    le (finite negative significand unit) (finite negative' significand' unit') = true ↔
      (finite negative significand unit).value ≤ (finite negative' significand' unit').value := by
  simp only [le, lt, value, Bool.not_eq_true', decide_eq_false_iff_not, not_lt]
  rw [div_le_div_iff_of_pos_right (by positivity), Int.cast_le]

/-- A number of the format is a multiple of a unit, or it is small compared with that. -/
theorem exists_multiple {y : Binary64} (proper : y.IsProper) (unit : Nat) :
    (∃ k : Int, y.value = k * weight unit) ∨ unit ≠ 0 ∧ y.value < 2 ^ 52 * weight unit := by
  cases y with
  | nan | infinity => exact proper.elim
  | finite negative significand unit' =>
      rcases Nat.lt_or_ge unit' unit with finer | coarser
      · obtain ⟨more, rfl⟩ := Nat.exists_eq_add_of_lt finer
        have fits : (significand : ℚ) < 2 ^ 53 := by exact_mod_cast proper.1
        have steps : (1 : ℚ) ≤ 2 ^ more := one_le_pow₀ one_le_two
        have positive := weight_pos unit'
        refine .inr ⟨by omega, ?_⟩
        calc (finite negative significand unit').value ≤ significand * weight unit' := by
              rw [value_finite]
              gcongr
              cases negative <;> simp
          _ < 2 ^ 53 * weight unit' := by gcongr
          _ ≤ 2 ^ 52 * (2 ^ (more + 1) * weight unit') := by
              rw [pow_succ 2 more]
              nlinarith
          _ = 2 ^ 52 * weight (unit' + more + 1) := by rw [Nat.add_assoc, weight_add]
      · obtain ⟨more, rfl⟩ := Nat.exists_eq_add_of_le coarser
        refine .inl ⟨(if negative then -1 else 1) * significand * 2 ^ more, ?_⟩
        rw [value_finite, weight_add]
        push_cast
        ring

/-- No number of the format is nearer than the nearest multiple of a unit, if the significand of that
is not too small for the unit. -/
theorem multiple_nearest {ratio : ℚ} {rounded unit : Nat} (half : IsHalfEven ratio rounded)
    (least : unit ≠ 0 → 2 ^ 52 ≤ ratio) {y : Binary64} (proper : y.IsProper) :
    |rounded * weight unit - ratio * weight unit| ≤ |y.value - ratio * weight unit| ∧
      (y.value ≠ rounded * weight unit → |y.value - ratio * weight unit| =
        |rounded * weight unit - ratio * weight unit| → Even rounded) := by
  have positive := weight_pos unit
  have distance (k : ℚ) : |k * weight unit - ratio * weight unit| = |k - ratio| * weight unit := by
    rw [← sub_mul, abs_mul, abs_of_pos positive]
  rw [distance]
  rcases exists_multiple proper unit with ⟨k, multiple⟩ | ⟨large, below⟩
  · rw [multiple, distance]
    refine ⟨mul_le_mul_of_nonneg_right (half.nearest k) positive.le, fun other tie => ?_⟩
    refine half.even_of_tie (k := k) ?_ (mul_right_cancel₀ positive.ne' tie)
    rintro rfl
    exact other (by rw [Int.cast_natCast])
  · -- such a number lies below the least multiple, and that is not beyond the ratio
    have nearest := half.nearest (2 ^ 52)
    have least := least large
    rw [Int.cast_pow, Int.cast_ofNat,
      abs_of_nonpos (by linarith : (2 ^ 52 : ℚ) - ratio ≤ 0)] at nearest
    have farther : |rounded - ratio| * weight unit < |y.value - ratio * weight unit| := by
      calc |rounded - ratio| * weight unit ≤ -(2 ^ 52 - ratio) * weight unit := by gcongr
        _ < -(y.value - ratio * weight unit) := by linarith
        _ ≤ |y.value - ratio * weight unit| := neg_le_abs _
    exact ⟨farther.le, fun _ tie => absurd tie farther.ne'⟩

theorem isNearest_ofScaledRatio (positive : 0 < den) (small : unitOf num den < maxUnit) :
    IsNearest (num / den / 2 ^ unitExponent) (ofScaledRatio false num den) := by
  obtain ⟨significand, unit, written, proper, same, even⟩ :=
    exists_ofScaledRatio false positive small
  have least : unitOf num den ≠ 0 → 2 ^ 52 * (den * 2 ^ unitOf num den) ≤ num := unitOf_le positive
  have cells : 0 < den * 2 ^ unitOf num den := by positivity
  have half := isHalfEven_roundQuotient num cells
  generalize roundQuotient num (den * 2 ^ unitOf num den) = rounded at *
  generalize unitOf num den = grid at *
  have target : (num : ℚ) / den / 2 ^ unitExponent =
      num / (den * 2 ^ grid : Nat) * weight grid := by
    rw [weight]
    push_cast
    field_simp
  have reached : (finite false significand unit).value = rounded * weight grid := by
    have same : (significand * 2 ^ unit : ℚ) = rounded * 2 ^ grid := by exact_mod_cast same
    rw [value_finite, weight, weight]
    simp only [Bool.false_eq_true, ↓reduceIte, one_mul, ← mul_div_assoc, same]
  have least : grid ≠ 0 → (2 ^ 52 : ℚ) ≤ num / (den * 2 ^ grid : Nat) := fun large => by
    rw [le_div_iff₀ (by positivity)]
    exact_mod_cast least large
  rw [target, written]
  refine ⟨proper, fun y proper' => ?_, fun y proper' => ?_⟩ <;> rw [reached]
  · exact (multiple_nearest half least proper').1
  · exact fun other tie => even ((multiple_nearest half least proper').2 other tie)

private theorem unitOf_exact {significand unit : Nat}
    (proper : (finite negative significand unit).IsProper)
    (positive : 0 < den) : unitOf (significand * 2 ^ unit * den) den = unit := by
  obtain ⟨most, -, least⟩ := proper
  rw [unitOf, Nat.mul_div_cancel _ positive]
  by_cases zero : unit = 0
  · subst zero
    have small : significand.log2 ≤ 52 := by
      by_cases none : significand = 0
      · simp [none]
      · exact Nat.lt_succ_iff.mp ((Nat.log2_lt none).mpr most)
    rw [Nat.pow_zero, Nat.mul_one]
    omega
  · have least := least zero
    have log : (significand * 2 ^ unit).log2 = 52 + unit := by
      rw [Nat.log2_eq_iff (by positivity), Nat.pow_add, Nat.add_right_comm, Nat.pow_add]
      exact ⟨Nat.mul_le_mul_right _ least, Nat.mul_lt_mul_of_pos_right most (by positivity)⟩
    omega

theorem ofScaledRatio_exact {significand unit : Nat}
    (proper : (finite negative significand unit).IsProper) (positive : 0 < den) :
    ofScaledRatio negative (significand * 2 ^ unit * den) den =
      finite negative significand unit := by
  have fold := unitOf_exact proper positive
  rw [unitOf] at fold
  have multiple : significand * 2 ^ unit * den = significand * (den * 2 ^ unit) := by ring
  have noCarry : significand ≠ 2 * leastNormal := Nat.ne_of_lt proper.1
  simp only [ofScaledRatio, fold, Nat.shiftLeft_eq]
  rw [multiple, roundQuotient_mul _ (by positivity), if_neg noCarry]
  simp only [if_neg (Nat.not_lt.mpr proper.2.1)]

end OfScaledRatio

/-! ## Natural numbers -/

section OfNat

variable {n : Nat}

theorem ofNat_eq (n : Nat) : ofNat n = ofScaledRatio false (n * 2 ^ unitExponent) 1 := by
  rw [ofNat, ofRatio, Nat.shiftLeft_eq]

theorem unitOf_ofNat_lt (small : n < 2 ^ 64) : unitOf (n * 2 ^ unitExponent) 1 < maxUnit := by
  have bound (exponent : Nat) : n * 2 ^ exponent < 2 ^ (64 + exponent) := by
    rw [Nat.pow_add]
    exact Nat.mul_lt_mul_of_pos_right small (by positivity)
  rw [unitOf, Nat.div_one]
  by_cases zero : n * 2 ^ unitExponent = 0
  · rw [zero]
    decide
  · have log := (Nat.log2_lt zero).mpr (bound unitExponent)
    generalize (n * 2 ^ unitExponent).log2 = digits at log
    have sizes : unitExponent = 1074 ∧ maxUnit = 2045 := ⟨rfl, rfl⟩
    omega

theorem isNearest_ofNat (small : n < 2 ^ 64) : IsNearest n (ofNat n) := by
  have nearest := isNearest_ofScaledRatio Nat.one_pos (unitOf_ofNat_lt small)
  rw [← ofNat_eq, Nat.cast_one, div_one, Nat.cast_mul, Nat.cast_pow, Nat.cast_ofNat,
    mul_div_cancel_right₀ _ (by positivity)] at nearest
  exact nearest

theorem ofNat_zero : ofNat 0 = zero := by decide

theorem ofNat_of_lt (positive : n ≠ 0) (small : n < 2 ^ 53) :
    (finite false (n * 2 ^ (52 - n.log2)) (unitExponent - (52 - n.log2))).IsProper ∧
      ofNat n = finite false (n * 2 ^ (52 - n.log2)) (unitExponent - (52 - n.log2)) := by
  have log := (Nat.log2_lt positive).mpr small
  have sizes : unitExponent = 1074 ∧ maxUnit = 2045 := ⟨rfl, rfl⟩
  have proper : (finite false (n * 2 ^ (52 - n.log2)) (unitExponent - (52 - n.log2))).IsProper := by
    refine ⟨?_, by omega, fun _ => ?_⟩
    · calc n * 2 ^ (52 - n.log2) < 2 ^ (n.log2 + 1) * 2 ^ (52 - n.log2) :=
            Nat.mul_lt_mul_of_pos_right Nat.lt_log2_self (by positivity)
        _ = 2 ^ 53 := by rw [← Nat.pow_add]; congr 1; omega
    · calc 2 ^ 52 = 2 ^ n.log2 * 2 ^ (52 - n.log2) := by rw [← Nat.pow_add]; congr 1; omega
        _ ≤ n * 2 ^ (52 - n.log2) := Nat.mul_le_mul_right _ (Nat.log2_self_le positive)
  refine ⟨proper, ?_⟩
  rw [ofNat_eq, ← ofScaledRatio_exact proper Nat.one_pos, Nat.mul_one, Nat.mul_assoc, ← Nat.pow_add,
    Nat.add_sub_cancel' (by omega)]

theorem value_ofNat (small : n < 2 ^ 53) : (ofNat n).value = n := by
  by_cases positive : n = 0
  · subst positive
    rw [ofNat_zero]
    simp [zero, value, scaled, magnitude]
  · have log := (Nat.log2_lt positive).mpr small
    have size : unitExponent = 1074 := rfl
    have split : unitExponent = unitExponent - (52 - n.log2) + (52 - n.log2) := by omega
    have unit := weight_add (unitExponent - (52 - n.log2)) (52 - n.log2)
    rw [← split] at unit
    have one : weight unitExponent = 1 := div_self (by positivity)
    rw [(ofNat_of_lt positive small).2, value_finite]
    push_cast
    rw [one_mul, mul_assoc, ← unit, one, mul_one]

theorem le_value_ofNat_iff {least : Nat} (exact : least < 2 ^ 53) (small : n < 2 ^ 64) :
    (least : ℚ) ≤ (ofNat n).value ↔ least ≤ n := by
  constructor
  · intro reached
    by_contra less
    rw [value_ofNat (by omega), Nat.cast_le] at reached
    contradiction
  · intro reached
    have nearest := isNearest_ofNat small
    have near := nearest.near (ofNat least) (isNearest_ofNat (by omega)).proper
    have reached : (least : ℚ) ≤ n := by exact_mod_cast reached
    rw [value_ofNat exact, abs_of_nonpos (by linarith : (least : ℚ) - n ≤ 0)] at near
    linarith [neg_le_abs ((ofNat n).value - n)]

end OfNat

end Binary64

end KindDispatch
