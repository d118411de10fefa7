/-!
# Binary floating-point numbers

`Binary64` is the 64-bit format with 53 significant bits.  A finite number is a natural significand
times a power of two; the unit `2 ^ -1074` of the smallest number is factored out, so that every
magnitude is a natural number of units (`scaled`) and all arithmetic below is exact arithmetic of
naturals followed by one rounding, `ofScaledRatio`: to the nearest representable number, and to the
one with an even significand if two are equally near.
-/

namespace KindDispatch

/-- `num / den` rounded to the nearest natural number, a half to the even one. -/
def roundQuotient (num den : Nat) : Nat :=
  let whole := num / den
  let rest := num % den
  if 2 * rest < den then whole
  else if den < 2 * rest then whole + 1
  else if whole % 2 = 0 then whole
  else whole + 1

/-- A number of the binary64 format; `finite negative significand unit` stands for
`significand * 2 ^ unit * 2 ^ -1074`, with a significand below `2 ^ 53` that is at least `2 ^ 52`
unless the unit is zero. -/
inductive Binary64 where
  | nan
  | infinity (negative : Bool)
  | finite (negative : Bool) (significand unit : Nat)
deriving DecidableEq, Repr, Inhabited

namespace Binary64

def unitExponent : Nat := 1074

def maxUnit : Nat := 2045

def leastNormal : Nat := 1 <<< 52

def zero : Binary64 := finite false 0 0

def magnitude (significand unit : Nat) : Nat := significand <<< unit

/-- The number nearest to `num / den` units, with the given sign; too large ones are infinite. -/
def ofScaledRatio (negative : Bool) (num den : Nat) : Binary64 :=
  let unit := (num / den).log2 + 1 - 53
  let rounded := roundQuotient num (den <<< unit)
  let (significand, unit) := if rounded = 2 * leastNormal then (leastNormal, unit + 1) else (rounded, unit)
  if maxUnit < unit then infinity negative else finite negative significand unit

def ofRatio (negative : Bool) (num den : Nat) : Binary64 :=
  ofScaledRatio negative (num <<< unitExponent) den

def ofNat (n : Nat) : Binary64 := ofRatio false n 1

/-- The 64 bits of a number, as a natural number; the one NaN has the quiet pattern. -/
def toBits : Binary64 → Nat
  | nan => 0x7ff8000000000000
  | infinity negative => (if negative then 1 <<< 63 else 0) + 0x7ff0000000000000
  | finite negative significand unit =>
    (if negative then 1 <<< 63 else 0) +
      if significand < leastNormal then significand
      else (unit + 1) * leastNormal + (significand - leastNormal)

def scaled (negative : Bool) (significand unit : Nat) : Int :=
  if negative then -(magnitude significand unit : Int) else magnitude significand unit

def lt : Binary64 → Binary64 → Bool
  | nan, _ | _, nan => false
  | infinity s, infinity t => s && !t
  | infinity s, finite .. => s
  | finite .., infinity t => !t
  | finite s m p, finite t n q => scaled s m p < scaled t n q

def le : Binary64 → Binary64 → Bool
  | nan, _ | _, nan => false
  | x, y => !y.lt x

/-- The larger of a number and zero, and zero for NaN. -/
def clampNegative : Binary64 → Binary64
  | nan => zero
  | x => if x.lt zero then zero else x

def mul : Binary64 → Binary64 → Binary64
  | nan, _ | _, nan => nan
  | infinity s, infinity t => infinity (s != t)
  | infinity s, finite t significand _ | finite t significand _, infinity s =>
    if significand = 0 then nan else infinity (s != t)
  | finite s m p, finite t n q =>
    ofScaledRatio (s != t) (magnitude m p * magnitude n q) (1 <<< unitExponent)

def div : Binary64 → Binary64 → Binary64
  | nan, _ | _, nan => nan
  | infinity _, infinity _ => nan
  | infinity s, finite t _ _ => infinity (s != t)
  | finite s _ _, infinity t => finite (s != t) 0 0
  | finite s m p, finite t n q =>
    if n = 0 then if m = 0 then nan else infinity (s != t)
    else ofScaledRatio (s != t) (magnitude m p <<< unitExponent) (magnitude n q)

instance : Mul Binary64 := ⟨mul⟩
instance : Div Binary64 := ⟨div⟩

end Binary64

end KindDispatch
