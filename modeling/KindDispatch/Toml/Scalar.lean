import KindDispatch.Binary64.Reading
import KindDispatch.Toml.Reader

/-!
# TOML scalars

Strings, numbers and dates, and the blanks and comments around them.  Dates are checked and not
kept: no setting is a date.
-/

namespace KindDispatch.Toml

namespace Parser

variable {α : Type}

/-! ## Blanks and comments -/

def isSpace (c : Char) : Bool := c == ' ' || c == '\t'

def isCommentChar (c : Char) : Bool := c == '\t' || (32 ≤ c.toNat && c.toNat ≠ 127)

def spaces : Parser Unit := discard (takeWhile isSpace)

def newline : Parser Unit := do
  match ← anyChar with
  | '\n' => pure ()
  | '\r' => char '\n'
  | _ => fail

def comment : Parser Unit := do
  char '#'
  discard (takeWhile isCommentChar)

def lineEnding : Parser Unit := newline.orElse theEnd

def lineTrailing : Parser Unit := do
  spaces
  discard (optional comment)
  lineEnding

def spacesAndLinesUpTo : (limit : Nat) → Parser Unit
  | 0 => spaces
  | limit + 1 => do
    spaces
    match ← ahead with
    | some '#' => comment; newline; spacesAndLinesUpTo limit
    | some '\n' | some '\r' => newline; spacesAndLinesUpTo limit
    | _ => pure ()

def spacesAndLines : Parser Unit := fun reader =>
  spacesAndLinesUpTo (reader.rest.length + 1) reader

/-! ## Strings -/

def isHexDigit (c : Char) : Bool :=
  c.isDigit || ('a' ≤ c && c ≤ 'f') || ('A' ≤ c && c ≤ 'F')

def hexValue (c : Char) : Nat :=
  if c.isDigit then c.toNat - 48
  else if 'a' ≤ c then c.toNat - 87
  else c.toNat - 55

def numberOf (base : Nat) (digits : List Char) : Nat :=
  digits.foldl (fun n c => base * n + hexValue c) 0

def outOfRange : String := "value is out of range"

def hexDigitsUpTo : (count : Nat) → Parser (List Char)
  | 0 => pure []
  | count + 1 => do
    match ← optional (satisfy isHexDigit) with
    | none => return []
    | some c => return c :: (← hexDigitsUpTo count)

def codePoint (count : Nat) : Parser Char :=
  ((hexDigitsUpTo count).verify (·.length = count)).convert fun digits =>
    let value := numberOf 16 digits
    if value.isValidChar then .ok (Char.ofNat value) else .error (some outOfRange)

def shortEscapes : List (Char × Char) :=
  [('b', '\x08'), ('f', '\x0c'), ('n', '\n'), ('r', '\r'), ('t', '\t'), ('\\', '\\'), ('"', '"')]

def escapeNames : List String := ["b", "f", "n", "r", "t", "u", "U", "\\", "\""]

/-- Refuses an escape: behind its character if that takes one byte, else in front of it. -/
def badEscape : Parser Char := fun reader =>
  let behind := match reader.rest with
    | c :: rest => if c.utf8Size = 1 then reader.next c rest else reader
    | [] => reader
  .fatal { offset := behind.offset, subject := some "escape sequence"
           expected := escapeNames.map ("`" ++ · ++ "`"), cause := none }

def escaped : Parser Char := do
  char '\\'
  match ← ahead with
  | none => fail
  | some 'u' => discard anyChar; ((codePoint 4).commit).named "unicode 4-digit hex code"
  | some 'U' => discard anyChar; ((codePoint 8).commit).named "unicode 8-digit hex code"
  | some c =>
    match shortEscapes.lookup c with
    | some meant => discard anyChar; return meant
    | none => badEscape

def isBasicChar (c : Char) : Bool := isCommentChar c && c ≠ '"' && c ≠ '\\'

def isLiteralChar (c : Char) : Bool := isCommentChar c && c ≠ '\''

def basicString : Parser (List Char) := do
  char '"'
  let parts ← many ((takeSome isBasicChar).orElse do return [← escaped])
  ((char '"').commit).named "basic string"
  return parts.flatten

def literalString : Parser (List Char) :=
  named "literal string" do
    char '\''
    let content ← takeWhile isLiteralChar
    commit (char '\'')
    return content

/-- A backslash at the end of a line, with all blanks up to the next text. -/
def joinedLines : Parser (List Char) := do
  let join : Parser Unit := do
    char '\\'
    spaces
    newline
    discard (many ((discard (takeSome isSpace)).orElse newline))
  join
  discard (many join)
  return []

def lineBreak : Parser (List Char) := do
  newline
  return ['\n']

def quotes (mark : String) (behind : Parser Unit) : Parser (List Char) :=
  let some' (quotes : String) : Parser (List Char) := do
    text quotes
    lookAhead behind
    return quotes.toList
  (some' (mark ++ mark)).orElse (some' mark)

/-- Text between three quotes: parts, with one or two quotes between them or at the end.  Quotes
between parts are read only if what has to be `behind` them is there. -/
def multilineBody (mark : String) (behind : Parser Unit) (part : Parser (List Char)) :
    Parser (List Char) := do
  let first ← many part
  let others ← many do
    let quotes ← quotes mark behind
    return quotes ++ (← many part).flatten
  let last ← optional (quotes mark (text (mark ++ mark ++ mark)))
  return first.flatten ++ others.flatten ++ last.getD []

def multilineString (subject mark : String) (behind : Parser Unit) (part : Parser (List Char)) :
    Parser (List Char) :=
  named subject do
    text (mark ++ mark ++ mark)
    discard (optional newline)
    let body ← commit (multilineBody mark behind part)
    commit (text (mark ++ mark ++ mark))
    return body

def multilineBasic : Parser (List Char) :=
  multilineString "multiline basic string" "\"" (discard (satisfy (· ≠ '"')))
    ((takeSome isBasicChar).orElse (joinedLines.orElse
      (orElse (do return [← escaped]) lineBreak)))

def multilineLiteral : Parser (List Char) :=
  let part := (takeSome isLiteralChar).orElse lineBreak
  multilineString "multiline literal string" "'" (discard part) part

def string : Parser String := do
  return String.ofList (← multilineBasic.orElse
    (basicString.orElse (multilineLiteral.orElse literalString)))

/-! ## Numbers -/

def digit : Parser Unit := discard (satisfy Char.isDigit)

def moreDigits (isDigit : Char → Bool) : Parser Unit :=
  discard (many ((discard (satisfy isDigit)).orElse do
    char '_'
    expecting ["digit"] (commit (discard (satisfy isDigit)))))

def sign : Parser Unit := discard (optional (satisfy fun c => c == '+' || c == '-'))

def decimal : Parser Unit :=
  named "integer" do
    sign
    orElse
      (do discard (satisfy fun c => c.isDigit && c ≠ '0'); moreDigits Char.isDigit)
      digit

def anyDigits : Parser Unit := do
  digit
  moreDigits Char.isDigit

def based (mark subject : String) (isDigit : Char → Bool) : Parser (List Char) :=
  named subject do
    text mark
    commit (taken do discard (satisfy isDigit); moreDigits isDigit)

def fitting (value : Int) : Except (Option String) Int :=
  if Int64.maxValue.toInt < value then .error (some "number too large to fit in target type")
  else if value < Int64.minValue.toInt then .error (some "number too small to fit in target type")
  else .ok value

def basedValue (base : Nat) (digits : List Char) : Except (Option String) Int :=
  fitting (numberOf base (digits.filter (· ≠ '_')))

def decimalValue (text : List Char) : Except (Option String) Int :=
  let (negative, digits) := splitSign (text.filter (· ≠ '_'))
  fitting (if negative then -(naturalOfDigits digits : Int) else naturalOfDigits digits)

def startsWith (mark : String) : Parser Bool := do
  return (← optional (lookAhead (text mark))).isSome

def integer : Parser Int := do
  if ← startsWith "0x" then
    commit ((based "0x" "hexadecimal integer" isHexDigit).convert (basedValue 16))
  else if ← startsWith "0o" then
    commit ((based "0o" "octal integer" fun c => '0' ≤ c && c ≤ '7').convert (basedValue 8))
  else if ← startsWith "0b" then
    commit ((based "0b" "binary integer" fun c => c == '0' || c == '1').convert (basedValue 2))
  else
    discard (lookAhead decimal)
    commit ((taken decimal).convert decimalValue)

def fraction : Parser Unit := do
  char '.'
  expecting ["digit"] (commit anyDigits)

def exponent : Parser Unit := do
  discard (satisfy fun c => c == 'e' || c == 'E')
  sign
  commit anyDigits

def floatText : Parser Unit := do
  decimal
  orElse exponent do
    fraction
    discard (optional exponent)

def floatValue (digits : List Char) : Except (Option String) Binary64 :=
  match Binary64.ofDecimal? (String.ofList (digits.filter (· ≠ '_'))) with
  | some value => if value = .infinity false then .error none else .ok value
  | none => .error none

def infinityWord : Parser Binary64 := do
  text "inf"
  return .infinity false

def nanWord : Parser Binary64 := do
  text "nan"
  return .nan

def specialFloat : Parser Binary64 := do
  let mark ← optional (satisfy fun c => c == '+' || c == '-')
  match ← infinityWord.orElse nanWord with
  | .infinity _ => return .infinity (mark = some '-')
  | value => return value

def float : Parser Binary64 :=
  named "floating-point number" (orElse
    (do
      discard (lookAhead floatText)
      commit ((taken floatText).convert floatValue))
    specialFloat)

/-! ## Dates and times -/

def digitsExactly (count : Nat) : Parser (List Char) := fun reader =>
  let digits := (reader.rest.take count).takeWhile Char.isDigit
  if digits.length = count then .ok digits ⟨reader.rest.drop count, reader.offset + count⟩
  else .retry (.plain reader.offset)

def digitsWithin (count low high : Nat) : Parser Nat :=
  (digitsExactly count).convert fun digits =>
    let value := naturalOfDigits digits
    if low ≤ value && value ≤ high then .ok value else .error (some outOfRange)

def daysOf (year month : Nat) : Nat :=
  if month = 2 then
    if year % 4 = 0 && (year % 100 ≠ 0 || year % 400 = 0) then 29 else 28
  else if [4, 6, 9, 11].contains month then 30
  else 31

def fullDate : Parser Unit := do
  let year ← digitsWithin 4 0 9999
  char '-'
  let month ← commit (digitsWithin 2 1 12)
  commit (char '-')
  discard (commit ((digitsWithin 2 1 31).convert fun day =>
    if day ≤ daysOf year month then .ok day else .error (some outOfRange)))

def partialTime : Parser Unit := do
  discard (digitsWithin 2 0 23)
  char ':'
  commit do
    discard (digitsWithin 2 0 59)
    char ':'
    discard (digitsWithin 2 0 60)
    discard (optional do char '.'; discard (takeSome Char.isDigit))

def timeOffset : Parser Unit :=
  named "time offset" (orElse
    (discard (satisfy fun c => c == 'Z' || c == 'z'))
    (do
      discard (satisfy fun c => c == '+' || c == '-')
      commit do
        discard (digitsWithin 2 0 23)
        char ':'
        discard (digitsWithin 2 0 59)))

def dateTime : Parser Unit :=
  orElse
    (named "date-time" do
      fullDate
      discard (optional do
        discard (satisfy fun c => c == 'T' || c == 't' || c == ' ')
        partialTime
        discard (optional timeOffset)))
    (named "time" partialTime)

end Parser

end KindDispatch.Toml
