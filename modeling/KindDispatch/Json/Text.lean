import KindDispatch.Binary64.Shortest

/-!
# JSON texts

A JSON value whose objects keep their fields in the order given, and its two texts: compact, and
indented by two spaces for each level.  Strings are written with the two-character escapes where
there is one, control characters as `\u` and four hexadecimal digits, and everything else as it is.
-/

namespace KindDispatch

inductive Json where
  | null
  | bool (value : Bool)
  | nat (value : Nat)
  | number (value : Binary64)
  | string (value : String)
  | array (elements : List Json)
  | object (fields : List (String × Json))
deriving Inhabited

namespace Json

def hexDigit (n : Nat) : Char := "0123456789abcdef".toList.getD n '0'

def escapeChar (c : Char) : List Char :=
  if c = '"' then ['\\', '"']
  else if c = '\\' then ['\\', '\\']
  else if c = '\n' then ['\\', 'n']
  else if c = '\r' then ['\\', 'r']
  else if c = '\t' then ['\\', 't']
  else if c.toNat = 8 then ['\\', 'b']
  else if c.toNat = 12 then ['\\', 'f']
  else if c.toNat < 32 then
    ['\\', 'u', '0', '0', hexDigit (c.toNat / 16), hexDigit (c.toNat % 16)]
  else [c]

def quote (s : String) : String :=
  String.ofList ('"' :: s.toList.flatMap escapeChar ++ ['"'])

/-- Numbers from 0.00001 up to ten quadrillion are positional, others have a signed exponent; a tie
goes to the even digit. -/
def numberStyle : DecimalStyle := ⟨-5, 16, "+", .toEven⟩

/-- A number that is not finite has no JSON text and is written `null`. -/
def numberText (value : Binary64) : String := (numberStyle.writeFinite? value).getD "null"

mutual

def compact : Json → String
  | null => "null"
  | bool value => if value then "true" else "false"
  | nat value => toString value
  | number value => numberText value
  | string value => quote value
  | array elements => "[" ++ compactElements elements ++ "]"
  | object fields => "\x7b" ++ compactFields fields ++ "\x7d"

def compactElements : List Json → String
  | [] => ""
  | [element] => compact element
  | element :: rest => compact element ++ "," ++ compactElements rest

def compactFields : List (String × Json) → String
  | [] => ""
  | [(key, value)] => quote key ++ ":" ++ compact value
  | (key, value) :: rest => quote key ++ ":" ++ compact value ++ "," ++ compactFields rest

end

def lineStart (level : Nat) : String := "\n" ++ String.ofList (List.replicate (2 * level) ' ')

mutual

/-- The indented text at a nesting level; empty arrays and objects stay on one line. -/
def pretty (level : Nat) : Json → String
  | null => "null"
  | bool value => if value then "true" else "false"
  | nat value => toString value
  | number value => numberText value
  | string value => quote value
  | array [] => "[]"
  | array (element :: rest) =>
    "[" ++ prettyElements (level + 1) (element :: rest) ++ lineStart level ++ "]"
  | object [] => "\x7b\x7d"
  | object (field :: rest) =>
    "\x7b" ++ prettyFields (level + 1) (field :: rest) ++ lineStart level ++ "\x7d"

def prettyElements (level : Nat) : List Json → String
  | [] => ""
  | [element] => lineStart level ++ pretty level element
  | element :: rest =>
    lineStart level ++ pretty level element ++ "," ++ prettyElements level rest

def prettyFields (level : Nat) : List (String × Json) → String
  | [] => ""
  | [(key, value)] => lineStart level ++ quote key ++ ": " ++ pretty level value
  | (key, value) :: rest =>
    lineStart level ++ quote key ++ ": " ++ pretty level value ++ "," ++ prettyFields level rest

end

end Json

end KindDispatch
