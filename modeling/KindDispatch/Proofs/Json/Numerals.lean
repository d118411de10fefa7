import KindDispatch.Proofs.Binary64.Digits
import KindDispatch.Proofs.Json.Grammar

/-!
# Written numbers

Natural numbers and finite floating-point numbers are written as JSON numerals.  What could go wrong
is a zero in front of other digits; there is none because no decimal of zero rounds to a positive
number (`digits_ne_zero_of_roundsTo`).
-/

namespace KindDispatch

open Json

/-! ## Whole numbers -/

private theorem isDigits_decimalDigits (n : Nat) : IsDigits (decimalDigits n) :=
  ⟨decimalDigits_ne_nil n, fun _ => isDigit_of_mem_decimalDigits⟩

private theorem isDigits_zero : IsDigits ['0'] := ⟨List.cons_ne_nil _ _, List.all_eq_true.mp rfl⟩

private theorem isWhole_digits {text : List Char} (digits : IsDigits text)
    (start : text.head? ≠ some '0') : IsWhole text := by
  obtain ⟨first, rest, rfl⟩ := List.exists_cons_of_ne_nil digits.1
  obtain ⟨digit, others⟩ := List.forall_mem_cons.mp digits.2
  exact .positive digit (by simpa using start) others

theorem isWhole_decimalDigits (n : Nat) : IsWhole (decimalDigits n) := by
  by_cases positive : n = 0
  · subst positive
    exact .zero
  · exact isWhole_digits (isDigits_decimalDigits n) (head?_decimalDigits positive)

theorem isNumeral_of_isWhole {text : List Char} (isWhole : IsWhole text) : IsNumeral text := by
  have numeral := IsNumeral.mk (.inl rfl) isWhole .none .none
  simpa using numeral

/-! ## Decimals -/

namespace Decimal

theorem digits_stripZeros {limit : Nat} {d : Decimal} (positive : d.digits ≠ 0) :
    (d.stripZeros limit).digits ≠ 0 := by
  induction limit generalizing d with
  | zero => exact positive
  | succ limit ih =>
      rw [stripZeros]
      split
      · rename_i zeros
        exact ih (by show d.digits / 10 ≠ 0; omega)
      · exact positive

/-- Zeros behind the digits make a whole number of them, unless they are more zeros behind zero. -/
theorem isWhole_withZeros {d : Decimal} (regular : d.digits ≠ 0 ∨ d.exponent = 0) :
    IsWhole (decimalDigits d.digits ++ List.replicate d.exponent.toNat '0') := by
  rcases regular with positive | plain
  · have digits : IsDigits (decimalDigits d.digits ++ List.replicate d.exponent.toNat '0') := by
      refine ⟨by simp [decimalDigits_ne_nil], List.forall_mem_append.mpr
        ⟨fun _ => isDigit_of_mem_decimalDigits, fun c member => ?_⟩⟩
      rw [List.eq_of_mem_replicate member]
      rfl
    refine isWhole_digits digits ?_
    rw [head?_decimalDigits_append]
    exact head?_decimalDigits positive
  · simpa [plain] using isWhole_decimalDigits d.digits

end Decimal

section Written

variable {d : Decimal} {sign : List Char}

theorem isNumeral_positional (isSign : sign = [] ∨ sign = ['-'])
    (regular : d.digits ≠ 0 ∨ d.exponent = 0) :
    IsNumeral (sign ++ (d.positional ++ if 0 ≤ d.exponent then ".0" else "").toList) := by
  by_cases whole : 0 ≤ d.exponent
  · have numeral := IsNumeral.mk isSign (d.isWhole_withZeros regular) (.some isDigits_zero) .none
    simpa [Decimal.positional, whole] using numeral
  · have positive : d.digits ≠ 0 := regular.resolve_right fun plain => whole (by omega)
    have digits := isDigits_decimalDigits d.digits
    by_cases inside : 0 < (decimalDigits d.digits).length + d.exponent
    · obtain ⟨point, hpoint, least, most⟩ : ∃ point : Nat,
          (decimalDigits d.digits).length + d.exponent = point ∧ 0 < point ∧
            point < (decimalDigits d.digits).length :=
        ⟨((decimalDigits d.digits).length + d.exponent).toNat, by omega⟩
      have front : IsWhole ((decimalDigits d.digits).take point) := by
        refine isWhole_digits ⟨?_, fun c member => digits.2 c (List.mem_of_mem_take member)⟩ ?_
        · simp [digits.1, Nat.ne_of_gt least]
        · rw [List.head?_take, if_neg (Nat.ne_of_gt least)]
          exact head?_decimalDigits positive
      have back : IsFraction ('.' :: (decimalDigits d.digits).drop point) := by
        refine .some ⟨by simpa using most, fun c member => digits.2 c (List.mem_of_mem_drop member)⟩
      have numeral := IsNumeral.mk isSign front back .none
      simpa [Decimal.positional, whole, inside, hpoint, least] using numeral
    · have fraction : IsFraction ('.' :: (List.replicate
          (-((decimalDigits d.digits).length + d.exponent)).toNat '0' ++ decimalDigits d.digits)) :=
        .some ⟨by simp [digits.1], List.forall_mem_append.mpr ⟨fun c member => by
          rw [List.eq_of_mem_replicate member]
          rfl, digits.2⟩⟩
      have numeral := IsNumeral.mk isSign .zero fraction .none
      simpa [Decimal.positional, whole, inside] using numeral

theorem isNumeral_write (isSign : sign = [] ∨ sign = ['-'])
    (regular : d.digits ≠ 0 ∨ d.exponent = 0) :
    IsNumeral (sign ++ (numberStyle.write d).toList) := by
  rw [DecimalStyle.write]
  split
  · exact isNumeral_positional isSign regular
  · generalize (decimalDigits d.digits).length + d.exponent - 1 = leading
    have exponent : IsExponent ('e' :: (if 0 ≤ leading then "+" else "-").toList ++
        decimalDigits leading.natAbs) := by
      refine .some (.inl rfl) ?_ (isDigits_decimalDigits _)
      split <;> simp
    have digits := isDigits_decimalDigits d.digits
    have numeral {first : Char} {fraction : List Char} (start : first.isDigit = true)
        (isFraction : IsFraction fraction) : IsNumeral (sign ++ (first :: fraction ++
          ('e' :: (if 0 ≤ leading then "+" else "-").toList ++ decimalDigits leading.natAbs))) := by
      have isWhole : IsWhole [first] := by
        by_cases zero : first = '0'
        · exact zero ▸ .zero
        · exact .positive start zero (by simp)
      simpa using IsNumeral.mk isSign isWhole isFraction exponent
    obtain ⟨first, others, split⟩ := List.exists_cons_of_ne_nil (decimalDigits_ne_nil d.digits)
    rw [split] at digits ⊢
    have isDigit := List.forall_mem_cons.mp digits.2
    cases others with
    | nil => simpa [numberStyle, decimalDigits] using numeral isDigit.1 .none
    | cons second rest =>
        have fraction := IsFraction.some ⟨List.cons_ne_nil second rest, isDigit.2⟩
        simpa [numberStyle, decimalDigits] using numeral isDigit.1 fraction

end Written

namespace Binary64

variable {tie : Tie} {significand unit : Nat}

theorem digits_ne_zero_of_roundsTo (d : Decimal) (positive : significand ≠ 0)
    (rounds : roundsTo significand unit d.ratio.1 d.ratio.2 = true) : d.digits ≠ 0 := by
  intro zero
  have ratio : d.ratio.1 = 0 ∧ 0 < d.ratio.2 := by
    unfold Decimal.ratio
    split
    · exact ⟨by simp [zero], Nat.one_pos⟩
    · exact ⟨zero, Nat.pow_pos (by decide)⟩
  have below (n : Nat) (large : 0 < n) : 0 < n <<< unit * d.ratio.2 := by
    rw [Nat.shiftLeft_eq]
    exact Nat.mul_pos (Nat.mul_pos large (Nat.two_pow_pos unit)) ratio.2
  have first := below (4 * significand - 1) (by omega)
  have second := below (4 * significand - 2) (by omega)
  rw [roundsTo, ratio.1] at rounds
  simp only [Nat.mul_zero, Nat.zero_shiftLeft] at rounds
  split at rounds <;> split at rounds <;> simp at rounds <;> omega

private theorem digits_of_neighbour? {exponent : Int} {d : Decimal} (positive : significand ≠ 0)
    (found : neighbour? tie significand unit exponent = some d) : d.digits ≠ 0 := by
  unfold neighbour? at found
  simp only at found
  generalize (if 0 ≤ exponent then (magnitude significand unit, _) else _ : Nat × Nat) = fraction
    at found
  have low : roundsTo significand unit _ _ = true → fraction.1 / fraction.2 ≠ 0 :=
    digits_ne_zero_of_roundsTo ⟨fraction.1 / fraction.2, exponent⟩ positive
  split at found
  · rename_i fits _
    split at found
    · exact Option.some.inj found ▸ low fits
    · split at found
      · exact Option.some.inj found ▸ Nat.succ_ne_zero _
      · exact Option.some.inj found ▸ low fits
    · exact Option.some.inj found ▸ Nat.succ_ne_zero _
  · rename_i fits _
    exact Option.some.inj found ▸ low fits
  · exact Option.some.inj found ▸ Nat.succ_ne_zero _
  · contradiction

private theorem digits_of_firstNeighbour {leading : Int} {tried left : Nat} {d : Decimal}
    (positive : significand ≠ 0)
    (found : firstNeighbour tie significand unit leading tried left = some d) : d.digits ≠ 0 := by
  induction left generalizing tried with
  | zero => contradiction
  | succ left ih =>
      rw [firstNeighbour] at found
      split at found
      · rename_i near
        obtain rfl := Option.some.inj found
        exact digits_of_neighbour? positive near
      · exact ih found

theorem regular_shortest (tie : Tie) (positive : significand ≠ 0) :
    (shortest tie significand unit).digits ≠ 0 ∨ (shortest tie significand unit).exponent = 0 := by
  rw [shortest]
  cases found : firstNeighbour tie significand unit
      (Decimal.leadingExponent (magnitude significand unit) (1 <<< unitExponent)) 0 17 with
  | none => exact .inr rfl
  | some d => exact .inl (Decimal.digits_stripZeros (digits_of_firstNeighbour positive found))

end Binary64

theorem isNumeral_of_writeFinite? {value : Binary64} {text : String}
    (written : numberStyle.writeFinite? value = some text) : IsNumeral text.toList := by
  cases value with
  | nan | infinity => contradiction
  | finite negative significand unit =>
      obtain rfl := Option.some.inj written
      have isSign : (if negative then "-" else "").toList = [] ∨
          (if negative then "-" else "").toList = ['-'] := by cases negative <;> decide
      rw [String.toList_append]
      by_cases zero : significand = 0
      · rw [if_pos zero]
        have numeral := IsNumeral.mk isSign .zero (.some isDigits_zero) .none
        rwa [List.append_nil, List.append_assoc] at numeral
      · rw [if_neg zero]
        exact isNumeral_write isSign (Binary64.regular_shortest _ zero)

end KindDispatch
