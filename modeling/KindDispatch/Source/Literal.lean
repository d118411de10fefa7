import KindDispatch.Source.Cursor
import KindDispatch.Source.Token

/-!
# Literals

Scanners for string, byte string, C string, byte, character and number literals.  Bodies of strings
are read by one automaton, `quotedFrom`, that differs between the three sorts of strings only in the
escapes and characters it admits.
-/

namespace KindDispatch.Source

def hexValue? (c : Char) : Option Nat :=
  if c.isDigit then some (c.toNat - '0'.toNat)
  else if 'a' ≤ c && c ≤ 'f' then some (c.toNat - 'a'.toNat + 10)
  else if 'A' ≤ c && c ≤ 'F' then some (c.toNat - 'A'.toNat + 10)
  else none

def isCharCode (code : Nat) : Bool := code < 0xd800 || (0xdfff < code && code < 0x110000)

inductive Quoting where
  | text
  | bytes
  | cText
deriving DecidableEq, Repr

namespace Quoting

def admitsHex (quoting : Quoting) (high low : Char) : Bool :=
  match hexValue? high, hexValue? low with
  | some h, some l =>
    match quoting with
    | text => h < 8
    | bytes => true
    | cText => h ≠ 0 || l ≠ 0
  | _, _ => false

def admitsEscape (quoting : Quoting) (c : Char) : Bool :=
  ['n', 'r', 't', '\\', '\'', '"'].contains c || (c == '0' && quoting ≠ cText)

def admitsPlain (quoting : Quoting) (c : Char) : Bool :=
  match quoting with
  | text => true
  | bytes => c.toNat < 128
  | cText => c.toNat ≠ 0

def admitsUnicode (quoting : Quoting) (code : Nat) : Bool :=
  match quoting with
  | text => isCharCode code
  | bytes => false
  | cText => isCharCode code && code ≠ 0

end Quoting

inductive QuotedState where
  | plain
  /-- The blanks after an escaped end of line. -/
  | blanks
  /-- The digits of a `\u` escape: their value and number so far. -/
  | unicode (value digits : Nat)
deriving DecidableEq, Repr

/-- Reads the rest of a quoted text and the quote that ends it.  A carriage return has to stand in
front of a new line. -/
def quotedFrom (quoting : Quoting) :
    QuotedState → (rest : List Char) → Position → Option Cursor
  | _, [], _ => none
  | .unicode value digits, c :: rest, position =>
    if c = '_' ∧ 0 < digits then quotedFrom quoting (.unicode value digits) rest (position.next c)
    else if c = '}' ∧ 0 < digits then
      if quoting.admitsUnicode value then quotedFrom quoting .plain rest (position.next c) else none
    else match hexValue? c with
      | some digit =>
        if digits < 6 then
          quotedFrom quoting (.unicode (16 * value + digit) (digits + 1)) rest (position.next c)
        else none
      | none => none
  | state, '\r' :: rest, position =>
    match rest with
    | '\n' :: rest => quotedFrom quoting state rest ((position.next '\r').next '\n')
    | _ => none
  | _, '\\' :: rest, position =>
    match rest with
    | [] => none
    | '\n' :: rest => quotedFrom quoting .blanks rest ((position.next '\\').next '\n')
    | '\r' :: rest =>
      match rest with
      | '\n' :: rest =>
        quotedFrom quoting .blanks rest (((position.next '\\').next '\r').next '\n')
      | _ => none
    | 'x' :: high :: low :: rest =>
      if quoting.admitsHex high low then
        quotedFrom quoting .plain rest
          ((((position.next '\\').next 'x').next high).next low)
      else none
    | 'u' :: rest =>
      match rest with
      | '{' :: rest =>
        if quoting = .bytes then none
        else quotedFrom quoting (.unicode 0 0) rest (((position.next '\\').next 'u').next '{')
      | _ => none
    | c :: rest =>
      if quoting.admitsEscape c then
        quotedFrom quoting .plain rest ((position.next '\\').next c)
      else none
  | state, c :: rest, position =>
    if state = .blanks ∧ (c = ' ' ∨ c = '\t' ∨ c = '\n') then
      quotedFrom quoting .blanks rest (position.next c)
    else if c = '"' then some ⟨rest, position.next c⟩
    else if quoting.admitsPlain c then quotedFrom quoting .plain rest (position.next c)
    else none

def rawFrom (quoting : Quoting) (hashes : Nat) : (rest : List Char) → Position → Option Cursor
  | [], _ => none
  | '\r' :: rest, position =>
    match rest with
    | '\n' :: rest => rawFrom quoting hashes rest ((position.next '\r').next '\n')
    | _ => none
  | c :: rest, position =>
    if c = '"' ∧ (List.replicate hashes '#').isPrefixOf rest then
      some (Cursor.drop hashes ⟨rest, position.next c⟩)
    else if quoting.admitsPlain c then rawFrom quoting hashes rest (position.next c)
    else none

namespace Cursor

def mostHashes : Nat := 255

def raw? (cursor : Cursor) (quoting : Quoting) : Option Cursor :=
  let hashes := (cursor.takeWhile (· == '#')).length
  let behind := cursor.drop hashes
  match behind.rest with
  | '"' :: rest =>
    if mostHashes < hashes then none else rawFrom quoting hashes rest (behind.position.next '"')
  | _ => none

def quoted? (cursor : Cursor) (letters : String) (quoting : Quoting) : Option Cursor :=
  match cursor.expect? (letters ++ "\"") with
  | some ⟨rest, position⟩ => (quotedFrom quoting .plain rest position).map skipSuffix
  | none =>
    ((cursor.expect? (letters ++ "r")).bind (·.raw? quoting)).map skipSuffix

def unicodeFrom : (value digits : Nat) → (rest : List Char) → Position → Option Cursor
  | _, _, [], _ => none
  | value, digits, c :: rest, position =>
    if c = '_' ∧ 0 < digits then unicodeFrom value digits rest (position.next c)
    else if c = '}' ∧ 0 < digits then
      if isCharCode value then some ⟨rest, position.next c⟩ else none
    else match hexValue? c with
      | some digit =>
        if digits < 6 then unicodeFrom (16 * value + digit) (digits + 1) rest (position.next c)
        else none
      | none => none

def quotedUnit? (cursor : Cursor) (quoting : Quoting) : Option Cursor :=
  match cursor.rest with
  | [] => none
  | '\\' :: 'x' :: high :: low :: _ =>
    if quoting.admitsHex high low then some (cursor.drop 4) else none
  | '\\' :: 'u' :: '{' :: _ =>
    if quoting = .bytes then none
    else let behind := cursor.drop 3; unicodeFrom 0 0 behind.rest behind.position
  | '\\' :: c :: _ => if quoting.admitsEscape c then some (cursor.drop 2) else none
  | '\\' :: [] => none
  | c :: _ => if quoting.admitsPlain c then some (cursor.drop 1) else none

def unit? (cursor : Cursor) (start : String) (quoting : Quoting) : Option Cursor := do
  let behind ← cursor.expect? start
  let behind ← behind.quotedUnit? quoting
  let behind ← behind.expect? "'"
  some behind.skipSuffix

/-! ## Numbers -/

/-- A number does not run into a word. -/
def endOfNumber? (cursor : Cursor) : Option Cursor :=
  if cursor.nextIs isIdentContinue then none else some cursor

def skipDigits (cursor : Cursor) : Cursor := cursor.dropWhile fun c => c.isDigit || c == '_'

/-- Reads an exponent behind its mark: digits and underscores, with at most one sign in front of the
first digit.  Answers whether there is a digit; two signs are refused. -/
def exponentFrom : (signed digits : Bool) → (rest : List Char) → Position → Bool × Cursor
  | _, digits, [], position => (digits, ⟨[], position⟩)
  | signed, digits, c :: rest, position =>
    if c = '+' ∨ c = '-' then
      if digits then (true, ⟨c :: rest, position⟩)
      else if signed then (false, ⟨c :: rest, position⟩)
      else exponentFrom true digits rest (position.next c)
    else if c.isDigit then exponentFrom signed true rest (position.next c)
    else if c = '_' then exponentFrom signed digits rest (position.next c)
    else (digits, ⟨c :: rest, position⟩)

def realDigits? (cursor : Cursor) : Option Cursor :=
  if !cursor.nextIs Char.isDigit then none
  else
    let whole := cursor.skipDigits
    let exponent (mantissa : Option Cursor) (cursor : Cursor) : Option Cursor :=
      if cursor.nextIs fun c => c == 'e' || c == 'E' then
        let behind := cursor.drop 1
        match exponentFrom false false behind.rest behind.position with
        | (true, behind) => some behind
        | (false, _) => mantissa
      else mantissa
    if whole.nextIs (· == '.') then
      let point := whole.drop 1
      if point.nextIs fun c => c == '.' || isIdentStart c then none
      else let fraction := point.skipDigits; exponent (some fraction) fraction
    else exponent none whole

def real? (cursor : Cursor) : Option Cursor := do
  let digits ← cursor.realDigits?
  endOfNumber? digits.skipSuffix

def base (cursor : Cursor) : Nat × Cursor :=
  if cursor.startsWith "0x" then (16, cursor.drop 2)
  else if cursor.startsWith "0o" then (8, cursor.drop 2)
  else if cursor.startsWith "0b" then (2, cursor.drop 2)
  else (10, cursor)

/-- Reads digits of a base, the value so far being `value` if there was a digit.  A decimal digit
that the base does not have is refused, a letter ends the number. -/
def integerFrom (base : Nat) :
    (value : Option Nat) → (rest : List Char) → Position → Option (Nat × Cursor)
  | value, [], position => value.map fun value => (value, ⟨[], position⟩)
  | value, c :: rest, position =>
    if c = '_' then
      if value.isNone && base = 10 then none else integerFrom base value rest (position.next c)
    else match hexValue? c with
      | some digit =>
        if digit < base then
          integerFrom base (some (base * value.getD 0 + digit)) rest (position.next c)
        else if c.isDigit then none
        else value.map fun value => (value, ⟨c :: rest, position⟩)
      | none => value.map fun value => (value, ⟨c :: rest, position⟩)

def integer? (cursor : Cursor) : Option (Nat × Bool × Cursor) := do
  let (base, start) := cursor.base
  let (value, digits) ← integerFrom base none start.rest start.position
  let behind ← endOfNumber? digits.skipSuffix
  some (value, digits.nextIs isIdentStart, behind)

/-! ## All literals -/

/-- Text of the mark that stands for an expression that could not be printed. -/
def errorMark : String := "(/*ERROR*/)"

def literal? (cursor : Cursor) : Option (LiteralForm × Cursor) :=
  let first (form : LiteralForm) (read : Option Cursor)
      (otherwise : Option (LiteralForm × Cursor)) :=
    match read with
    | some behind => some (form, behind)
    | none => otherwise
  first .string (cursor.quoted? "" .text) <|
  first .byteString (cursor.quoted? "b" .bytes) <|
  first .cString (cursor.quoted? "c" .cText) <|
  first .byte (cursor.unit? "b'" .bytes) <|
  first .character (cursor.unit? "'" .text) <|
  match cursor.real? with
  | some behind =>
    some (.real (cursor.rest.take (cursor.rest.length - behind.rest.length)), behind)
  | none => cursor.integer?.map fun (value, suffixed, behind) =>
    (.integer value suffixed, behind)

end Cursor

end KindDispatch.Source
