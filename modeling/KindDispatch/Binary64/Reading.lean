import KindDispatch.Binary64.Basic

/-!
# Reading decimal texts

`Binary64.ofDecimal?` reads a decimal numeral with an optional fraction and exponent as the number
nearest to it.
-/

namespace KindDispatch

/-- The natural number written by decimal digits; other characters count as zero. -/
def naturalOfDigits (digits : List Char) : Nat :=
  digits.foldl (fun n c => 10 * n + if c.isDigit then c.toNat - 48 else 0) 0

def splitSign : List Char → Bool × List Char
  | '-' :: rest => (true, rest)
  | '+' :: rest => (false, rest)
  | text => (false, text)

namespace Binary64

def exponentCeiling : Int := 310

def exponentFloor : Int := -330

def ofScientific (negative : Bool) (digits : List Char) (exponent : Int) : Binary64 :=
  let digits := digits.dropWhile (· == '0')
  let leading := (digits.length : Int) + exponent
  if digits.isEmpty ∨ leading < exponentFloor then finite negative 0 0
  else if exponentCeiling < leading then infinity negative
  else if 0 ≤ exponent then ofRatio negative (naturalOfDigits digits * Nat.pow 10 exponent.toNat) 1
  else ofRatio negative (naturalOfDigits digits) (Nat.pow 10 (-exponent).toNat)

def exponentOf? : List Char → Option Int
  | [] => some 0
  | mark :: rest =>
    let (negative, digits) := splitSign rest
    if (mark = 'e' ∨ mark = 'E') ∧ digits ≠ [] ∧ digits.all Char.isDigit then
      some (if negative then -(naturalOfDigits digits : Int) else naturalOfDigits digits)
    else none

def ofDecimal? (text : String) : Option Binary64 :=
  let (negative, body) := splitSign text.toList
  if body = ['i', 'n', 'f'] then some (infinity negative)
  else if body = ['n', 'a', 'n'] then some nan
  else
    let whole := body.takeWhile Char.isDigit
    let rest := body.dropWhile Char.isDigit
    let (fraction, rest) := match rest with
      | '.' :: rest => (rest.takeWhile Char.isDigit, rest.dropWhile Char.isDigit)
      | rest => ([], rest)
    if whole.isEmpty && fraction.isEmpty then none
    else (exponentOf? rest).map fun exponent =>
      ofScientific negative (whole ++ fraction) (exponent - fraction.length)

end Binary64

end KindDispatch
