import KindDispatch.Json.Text
import KindDispatch.Source.Literal

/-!
# The grammar of JSON texts

A JSON text is a sequence of tokens with blanks between them.  `JsonContent` is what a text says,
numbers as they are written; `JsonToken.Spelled` lists the ways a token may be written, in strings
every character as itself, by one of the short escapes or by its code units.
-/

namespace KindDispatch

open Source (hexValue?)

inductive JsonContent where
  | null
  | bool (value : Bool)
  | number (numeral : List Char)
  | string (value : String)
  | array (elements : List JsonContent)
  | object (fields : List (String × JsonContent))

inductive JsonToken where
  /-- A bracket, a brace, a comma or a colon. -/
  | mark (c : Char)
  | null
  | bool (value : Bool)
  | number (numeral : List Char)
  | string (value : String)
deriving DecidableEq

namespace Json

/-! ## Numerals -/

def IsDigits (text : List Char) : Prop := text ≠ [] ∧ ∀ c ∈ text, c.isDigit = true

/-- Digits without a superfluous zero in front. -/
inductive IsWhole : List Char → Prop
  | zero : IsWhole ['0']
  | positive {first : Char} {rest : List Char} (digit : first.isDigit = true)
    (nonzero : first ≠ '0') (digits : ∀ c ∈ rest, c.isDigit = true) : IsWhole (first :: rest)

inductive IsFraction : List Char → Prop
  | none : IsFraction []
  | some {digits : List Char} (areDigits : IsDigits digits) : IsFraction ('.' :: digits)

inductive IsExponent : List Char → Prop
  | none : IsExponent []
  | some {mark : Char} {sign digits : List Char} (isMark : mark = 'e' ∨ mark = 'E')
    (isSign : sign = [] ∨ sign = ['+'] ∨ sign = ['-']) (areDigits : IsDigits digits) :
    IsExponent (mark :: sign ++ digits)

inductive IsNumeral : List Char → Prop
  | mk {sign whole fraction exponent : List Char} (isSign : sign = [] ∨ sign = ['-'])
    (isWhole : IsWhole whole) (isFraction : IsFraction fraction)
    (isExponent : IsExponent exponent) : IsNumeral (sign ++ whole ++ fraction ++ exponent)

/-! ## Characters in strings -/

def shortEscapes : List (Char × Char) :=
  [('"', '"'), ('\\', '\\'), ('/', '/'), ('b', '\x08'), ('f', '\x0c'), ('n', '\n'), ('r', '\r'),
    ('t', '\t')]

def codeUnit? : List Char → Option Nat
  | [a, b, c, d] => do
    let a ← hexValue? a
    let b ← hexValue? b
    let c ← hexValue? c
    let d ← hexValue? d
    return ((a * 16 + b) * 16 + c) * 16 + d
  | _ => none

def isLeading (unit : Nat) : Bool := 0xD800 ≤ unit && unit < 0xDC00

def isTrailing (unit : Nat) : Bool := 0xDC00 ≤ unit && unit < 0xE000

def pairedCode (leading trailing : Nat) : Nat :=
  0x10000 + (leading - 0xD800) * 0x400 + (trailing - 0xDC00)

inductive SpelledChar : Char → List Char → Prop
  | plain {c : Char} (visible : 32 ≤ c.toNat) (noQuote : c ≠ '"') (noEscape : c ≠ '\\') :
    SpelledChar c [c]
  | short {c mark : Char} (escapes : shortEscapes.lookup mark = some c) :
    SpelledChar c ['\\', mark]
  | unit {c : Char} {digits : List Char} (code : codeUnit? digits = some c.toNat) :
    SpelledChar c ('\\' :: 'u' :: digits)
  | pair {c : Char} {first second : List Char} {leading trailing : Nat}
    (unit : codeUnit? first = some leading) (unit' : codeUnit? second = some trailing)
    (leads : isLeading leading = true) (trails : isTrailing trailing = true)
    (code : c.toNat = pairedCode leading trailing) :
    SpelledChar c ('\\' :: 'u' :: first ++ '\\' :: 'u' :: second)

inductive SpelledChars : List Char → List Char → Prop
  | nil : SpelledChars [] []
  | cons {c : Char} {cs text rest : List Char} (first : SpelledChar c text)
    (others : SpelledChars cs rest) : SpelledChars (c :: cs) (text ++ rest)

/-! ## Tokens -/

def isBlank (c : Char) : Bool := c = ' ' || c = '\t' || c = '\n' || c = '\r'

def isMark (c : Char) : Bool := ['[', ']', '\x7b', '\x7d', ',', ':'].contains c

/-- Part of a number or of one of the three names. -/
def isWordChar (c : Char) : Bool := !(isBlank c || isMark c || c = '"')

end Json

namespace JsonToken

open Json

inductive Spelled : JsonToken → List Char → Prop
  | mark {c : Char} (isMark : isMark c = true) : Spelled (.mark c) [c]
  | null : Spelled .null ['n', 'u', 'l', 'l']
  | true : Spelled (.bool true) ['t', 'r', 'u', 'e']
  | false : Spelled (.bool false) ['f', 'a', 'l', 's', 'e']
  | number {numeral : List Char} (isNumeral : IsNumeral numeral) :
    Spelled (.number numeral) numeral
  | string {value : String} {text : List Char} (chars : SpelledChars value.toList text) :
    Spelled (.string value) ('"' :: text ++ ['"'])

def isWord : JsonToken → Bool
  | null | bool _ | number _ => Bool.true
  | mark _ | string _ => Bool.false

/-- A text spells some tokens, with blanks in front of them and at its end.  What is made of word
characters is not followed by another one. -/
inductive Spell : List JsonToken → List Char → Prop
  | done {blanks : List Char} (blank : ∀ c ∈ blanks, isBlank c = Bool.true) : Spell [] blanks
  | token {token : JsonToken} {tokens : List JsonToken} {blanks text rest : List Char}
    (blank : ∀ c ∈ blanks, isBlank c = Bool.true) (spelled : token.Spelled text)
    (apart : token.isWord = Bool.true → ∀ c ∈ rest.head?, isWordChar c = Bool.false)
    (others : Spell tokens rest) : Spell (token :: tokens) (blanks ++ text ++ rest)

end JsonToken

namespace JsonContent

open JsonToken (mark)

mutual

def tokens : JsonContent → List JsonToken
  | null => [.null]
  | bool value => [.bool value]
  | number numeral => [.number numeral]
  | string value => [.string value]
  | array elements => mark '[' :: elementTokens elements ++ [mark ']']
  | object fields => mark '\x7b' :: fieldTokens fields ++ [mark '\x7d']

def elementTokens : List JsonContent → List JsonToken
  | [] => []
  | [element] => tokens element
  | element :: rest => tokens element ++ mark ',' :: elementTokens rest

def fieldTokens : List (String × JsonContent) → List JsonToken
  | [] => []
  | [(key, value)] => .string key :: mark ':' :: tokens value
  | (key, value) :: rest =>
    .string key :: mark ':' :: tokens value ++ mark ',' :: fieldTokens rest

end

def IsText (content : JsonContent) (text : List Char) : Prop := JsonToken.Spell content.tokens text

/-- No object in it has two fields of one key. -/
inductive KeysDistinct : JsonContent → Prop
  | null : KeysDistinct null
  | bool (value : Bool) : KeysDistinct (bool value)
  | number (numeral : List Char) : KeysDistinct (number numeral)
  | string (value : String) : KeysDistinct (string value)
  | array {elements : List JsonContent} (inner : ∀ element ∈ elements, KeysDistinct element) :
    KeysDistinct (array elements)
  | object {fields : List (String × JsonContent)} (distinct : (fields.map Prod.fst).Nodup)
    (inner : ∀ field ∈ fields, KeysDistinct field.2) : KeysDistinct (object fields)

end JsonContent

end KindDispatch
