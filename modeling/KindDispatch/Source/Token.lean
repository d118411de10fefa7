import KindDispatch.Source.Position

/-!
# Tokens

A source text is read into *token trees*: single tokens, and groups of tokens between a pair of
delimiters.  A lifetime is one token.
-/

namespace KindDispatch.Source

inductive Delimiter where
  | parenthesis
  | bracket
  | brace
deriving DecidableEq, Repr, Inhabited

namespace Delimiter

def ofOpening? : Char → Option Delimiter
  | '(' => some parenthesis
  | '[' => some bracket
  | '{' => some brace
  | _ => none

def ofClosing? : Char → Option Delimiter
  | ')' => some parenthesis
  | ']' => some bracket
  | '}' => some brace
  | _ => none

def closing : Delimiter → String
  | parenthesis => "`)`"
  | bracket => "`]`"
  | brace => "`\x7d`"

end Delimiter

inductive LiteralForm where
  | string
  | byteString
  | cString
  | byte
  | character
  | integer (value : Nat) (suffixed : Bool)
  /-- A number with a fraction or an exponent, kept as it is written. -/
  | real (text : List Char)
  /-- The mark that stands for an expression that could not be printed. -/
  | errorMark
deriving DecidableEq, Repr, Inhabited

def LiteralForm.isNumber : LiteralForm → Bool
  | integer .. | real _ => true
  | _ => false

inductive Token where
  /-- An identifier or keyword; the text of a raw identifier starts with `r#`. -/
  | word (text : String) (position : Position)
  | lifetime (position : Position)
  /-- One character of punctuation; `joint` if another one follows at once. -/
  | punct (mark : Char) (joint : Bool) (position : Position)
  | literal (form : LiteralForm) (position : Position)
  | group (delimiter : Delimiter) (position : Position) (content : List Token) (close : Position)
deriving Inhabited

namespace Token

def position : Token → Position
  | word _ position | lifetime position | punct _ _ position | literal _ position
  | group _ position _ _ => position

mutual

def size : Token → Nat
  | group _ _ content _ => 1 + sizeList content
  | _ => 1

def sizeList : List Token → Nat
  | [] => 0
  | token :: rest => size token + sizeList rest

end

end Token

end KindDispatch.Source
