import KindDispatch.Binary64.Reading
import KindDispatch.Binary64.Shortest

/-!
# Decimal digits

The digits of a natural number have no zero in front of them, unless they are that zero, and they
are read back as the number.
-/

namespace KindDispatch

theorem toList_toString (n : Nat) : (toString n).toList = decimalDigits n := Nat.toList_repr

theorem isDigit_of_mem_decimalDigits {n : Nat} {c : Char} (member : c ∈ decimalDigits n) :
    c.isDigit = true :=
  Nat.isDigit_of_mem_toDigits (by decide) (Nat.le_refl 10) member

theorem notMem_decimalDigits {c : Char} (notDigit : c.isDigit = false) (n : Nat) :
    c ∉ decimalDigits n := fun member =>
  absurd (isDigit_of_mem_decimalDigits member) (Bool.eq_false_iff.mp notDigit)

theorem decimalDigits_ne_nil (n : Nat) : decimalDigits n ≠ [] := Nat.toDigits_ne_nil

theorem decimalDigits_of_ten_le {n : Nat} (large : 10 ≤ n) :
    decimalDigits n = decimalDigits (n / 10) ++ [(n % 10).digitChar] :=
  Nat.toDigits_of_base_le (by decide) large

theorem head?_decimalDigits_append (n : Nat) (rest : List Char) :
    (decimalDigits n ++ rest).head? = (decimalDigits n).head? := by
  obtain ⟨first, others, split⟩ := List.exists_cons_of_ne_nil (decimalDigits_ne_nil n)
  simp [split]

theorem head?_decimalDigits {n : Nat} (positive : n ≠ 0) : (decimalDigits n).head? ≠ some '0' := by
  induction n using Nat.strongRecOn with
  | ind n ih =>
      rcases Nat.lt_or_ge n 10 with small | large
      · have nonzero : ∀ digit < 10, digit ≠ 0 → digit.digitChar ≠ '0' := by decide
        rw [decimalDigits, Nat.toDigits_of_lt_base small]
        simpa using nonzero n small positive
      · rw [decimalDigits_of_ten_le large, head?_decimalDigits_append]
        exact ih (n / 10) (by omega) (by omega)

/-! ## Reading digits -/

private theorem naturalOfDigits_eq_ofDigitChars {digits : List Char}
    (areDigits : ∀ c ∈ digits, c.isDigit) :
    naturalOfDigits digits = Nat.ofDigitChars 10 digits 0 := by
  suffices general : ∀ start, digits.foldl
      (fun n c => 10 * n + if c.isDigit then c.toNat - 48 else 0) start =
        Nat.ofDigitChars 10 digits start from general 0
  induction digits with
  | nil => simp
  | cons c rest ih =>
      intro start
      obtain ⟨digit, others⟩ := List.forall_mem_cons.mp areDigits
      rw [List.foldl_cons, if_pos digit, ih others, Nat.ofDigitChars_cons]
      rfl

@[simp] theorem naturalOfDigits_decimalDigits (n : Nat) :
    naturalOfDigits (decimalDigits n) = n := by
  rw [naturalOfDigits_eq_ofDigitChars fun c => isDigit_of_mem_decimalDigits]
  exact Nat.ofDigitChars_toDigits (by decide) (Nat.le_refl 10)

theorem naturalOfDigits_append (digits : List Char) {n : Nat} (small : n < 10) :
    naturalOfDigits (digits ++ [n.digitChar]) = 10 * naturalOfDigits digits + n := by
  have isDigit : n.digitChar.isDigit = true := by simpa using small
  rw [naturalOfDigits, naturalOfDigits, List.foldl_append, List.foldl_cons, if_pos isDigit,
    Nat.toNat_digitChar_sub_48_of_lt_ten small, List.foldl_nil]

@[simp] theorem decimalDigits_inj {m n : Nat} : decimalDigits m = decimalDigits n ↔ m = n := by
  refine ⟨fun same => ?_, congrArg decimalDigits⟩
  rw [← naturalOfDigits_decimalDigits m, same, naturalOfDigits_decimalDigits]

end KindDispatch
