import KindDispatch.Binary64.Basic

/-!
# Decimal texts of floating-point numbers

`shortest` finds the fewest decimal digits that read back as the same number, and of those digits
the nearest to it; a `Tie` says which of two equally near ones.  `fixed` rounds the exact value to a
number of decimal places, a half to the even digit.  What a text looks like around the digits, and
where its ties go, is decided by `plain` and by `DecimalStyle`.
-/

namespace KindDispatch

/-- The decimal number `digits * 10 ^ exponent`. -/
structure Decimal where
  digits : Nat
  exponent : Int
deriving DecidableEq, Repr

/-- Which of two neighbouring decimals stands for a number halfway between them. -/
inductive Tie where
  /-- The one whose last digit is even. -/
  | toEven
  /-- The larger one. -/
  | upward
deriving DecidableEq, Repr

def Tie.goesUp : Tie → (digits : Nat) → Bool
  | toEven, digits => digits % 2 = 1
  | upward, _ => true

/-- Decimal digits of a natural number, the most significant first. -/
def decimalDigits (n : Nat) : List Char := Nat.toDigits 10 n

namespace Decimal

def stripZeros : (limit : Nat) → Decimal → Decimal
  | 0, d => d
  | limit + 1, d =>
    if d.digits ≠ 0 ∧ d.digits % 10 = 0 then stripZeros limit ⟨d.digits / 10, d.exponent + 1⟩
    else d

/-- The exponent `e` with `10 ^ e ≤ num / den < 10 ^ (e + 1)`, for positive `num` and `den`. -/
def leadingExponent (num den : Nat) : Int :=
  if den ≤ num then ((decimalDigits (num / den)).length : Int) - 1
  else -((decimalDigits ((den + num - 1) / num - 1)).length : Int)

def ratio (d : Decimal) : Nat × Nat :=
  if 0 ≤ d.exponent then (d.digits * Nat.pow 10 d.exponent.toNat, 1)
  else (d.digits, Nat.pow 10 (-d.exponent).toNat)

def positional (d : Decimal) : String :=
  let text := decimalDigits d.digits
  let point := (text.length : Int) + d.exponent
  if 0 ≤ d.exponent then String.ofList (text ++ List.replicate d.exponent.toNat '0')
  else if 0 < point then
    String.ofList (text.take point.toNat ++ '.' :: text.drop point.toNat)
  else String.ofList ('0' :: '.' :: List.replicate (-point).toNat '0' ++ text)

end Decimal

namespace Binary64

/-- The interval of reals that round to a finite positive number, as a predicate on fractions
`num / den`: half a gap to each side, the ends included when the significand is even. -/
def roundsTo (significand unit : Nat) (num den : Nat) : Bool :=
  let x := (4 * num) <<< unitExponent
  let above := ((4 * significand + 2) <<< unit) * den
  let below :=
    if significand = leastNormal ∧ unit ≠ 0 then ((4 * significand - 1) <<< unit) * den
    else ((4 * significand - 2) <<< unit) * den
  if significand % 2 = 0 then below ≤ x && x ≤ above else below < x && x < above

/-- Of the two neighbours of a number on the grid of multiples of `10 ^ exponent`, the nearest one
that rounds to the number. -/
def neighbour? (tie : Tie) (significand unit : Nat) (exponent : Int) : Option Decimal :=
  let value := magnitude significand unit
  let (num, den) :=
    if 0 ≤ exponent then (value, Nat.pow 10 exponent.toNat <<< unitExponent)
    else (value * Nat.pow 10 (-exponent).toNat, 1 <<< unitExponent)
  let low : Decimal := ⟨num / den, exponent⟩
  let high : Decimal := ⟨num / den + 1, exponent⟩
  let fits (d : Decimal) := let (n, m) := d.ratio; roundsTo significand unit n m
  match fits low, fits high with
  | true, true =>
    match compare (2 * (num % den)) den with
    | .lt => some low
    | .eq => if tie.goesUp low.digits then some high else some low
    | .gt => some high
  | true, false => some low
  | false, true => some high
  | false, false => none

def firstNeighbour (tie : Tie) (significand unit : Nat) (leading : Int) :
    (tried left : Nat) → Option Decimal
  | _, 0 => none
  | tried, left + 1 =>
    match neighbour? tie significand unit (leading - tried) with
    | some d => some d
    | none => firstNeighbour tie significand unit leading (tried + 1) left

/-- The fewest digits that read back as a positive finite number, the nearest of those; seventeen
always suffice. -/
def shortest (tie : Tie) (significand unit : Nat) : Decimal :=
  let leading := Decimal.leadingExponent (magnitude significand unit) (1 <<< unitExponent)
  ((firstNeighbour tie significand unit leading 0 17).getD ⟨0, 0⟩).stripZeros 17

/-- A number in full, without an exponent and with ties upward: `1`, `0.001`, `inf`, `NaN`. -/
def plain : Binary64 → String
  | nan => "NaN"
  | infinity negative => if negative then "-inf" else "inf"
  | finite negative significand unit =>
    (if negative then "-" else "") ++
      if significand = 0 then "0" else (shortest .upward significand unit).positional

def fixed (places : Nat) : Binary64 → String
  | nan => "NaN"
  | infinity negative => if negative then "-inf" else "inf"
  | finite negative significand unit =>
    let scaled :=
      roundQuotient (magnitude significand unit * Nat.pow 10 places) (1 <<< unitExponent)
    let whole := String.ofList (decimalDigits (scaled / Nat.pow 10 places))
    let fraction := decimalDigits (scaled % Nat.pow 10 places)
    let sign := if negative then "-" else ""
    if places = 0 then sign ++ whole
    else sign ++ whole ++ "." ++
      String.ofList (List.replicate (places - fraction.length) '0' ++ fraction)

end Binary64

/-- Where a text of a number stops being positional, how its exponent is written and where its ties
go. -/
structure DecimalStyle where
  /-- Numbers below `10 ^ leastPositional` are written with an exponent. -/
  leastPositional : Int
  /-- Numbers from `10 ^ leastExponential` on are written with an exponent. -/
  leastExponential : Int
  /-- Written before an exponent that is not negative. -/
  positiveSign : String
  /-- Where a number halfway between two shortest decimals goes. -/
  tie : Tie

namespace DecimalStyle

def write (style : DecimalStyle) (d : Decimal) : String :=
  let text := decimalDigits d.digits
  let leading := (text.length : Int) + d.exponent - 1
  if style.leastPositional ≤ leading ∧ leading < style.leastExponential then
    d.positional ++ if 0 ≤ d.exponent then ".0" else ""
  else
    let mantissa := match text with
      | first :: second :: rest => first :: '.' :: second :: rest
      | short => short
    let sign := if 0 ≤ leading then style.positiveSign else "-"
    String.ofList mantissa ++ "e" ++ sign ++ toString leading.natAbs

def writeFinite? (style : DecimalStyle) : Binary64 → Option String
  | .finite negative significand unit =>
    let sign := if negative then "-" else ""
    some <| sign ++
      if significand = 0 then "0.0" else style.write (Binary64.shortest style.tie significand unit)
  | _ => none

end DecimalStyle

end KindDispatch
