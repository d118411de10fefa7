import KindDispatch.Binary64.Shortest

/-!
# Figures in reports

Digits are grouped in threes from the right.  Amounts have two decimal places, byte counts the
largest of four units that leaves at least one of it.
-/

namespace KindDispatch.Figures

/-- Puts a comma in front of every group of three digits that ends the text, except at its start. -/
def group : List Char → List Char
  | [] => []
  | digit :: rest =>
    if rest ≠ [] ∧ rest.length % 3 = 0 then digit :: ',' :: group rest else digit :: group rest

def thousands (n : Nat) : String := String.ofList (group (decimalDigits n))

/-- Whole parts from here on are written without grouping. -/
def groupingLimit : Nat := UInt64.size

/-- Two decimal places and a grouped whole part; negative numbers and NaN count as zero. -/
def decimal (x : Binary64) : String :=
  match x.clampNegative with
  | .finite _ significand unit =>
    let hundredths :=
      roundQuotient (Binary64.magnitude significand unit * 100) (1 <<< Binary64.unitExponent)
    let whole := hundredths / 100
    let fraction := hundredths % 100
    let digits := if whole < groupingLimit then thousands whole else toString whole
    digits ++ "." ++ toString (fraction / 10) ++ toString (fraction % 10)
  | other => other.plain

def scaleBytes : Binary64 → String → List String → Binary64 × String
  | size, unit, [] => (size, unit)
  | size, unit, larger :: rest =>
    if (Binary64.ofNat 1024).le size then scaleBytes (size / Binary64.ofNat 1024) larger rest
    else (size, unit)

def bytes (count : Nat) : String :=
  let (size, unit) := scaleBytes (.ofNat count) "B" ["KB", "MB", "GB"]
  decimal size ++ " " ++ unit

end KindDispatch.Figures
