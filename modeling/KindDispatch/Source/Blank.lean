import KindDispatch.Source.Cursor

/-!
# Blanks and comments

White space and comments separate tokens.  Comments that document an item are tokens themselves:
`///` and `/**` for the item that follows, `//!` and `/*!` for the one around them.
-/

namespace KindDispatch.Source

namespace Cursor

def takeLine : List Char → List Char
  | [] | '\n' :: _ | '\r' :: '\n' :: _ => []
  | c :: rest => c :: takeLine rest

/-- Reads up to the new line, the carriage return before it included. -/
def dropLine (cursor : Cursor) : Cursor := cursor.dropWhile (· != '\n')

def blockCommentFrom : (depth : Nat) → (rest : List Char) → Position → Option Cursor
  | _, [], _ => none
  | depth, '/' :: '*' :: rest, position =>
    blockCommentFrom (depth + 1) rest ((position.next '/').next '*')
  | depth, '*' :: '/' :: rest, position =>
    let position := (position.next '*').next '/'
    if depth ≤ 1 then some ⟨rest, position⟩ else blockCommentFrom (depth - 1) rest position
  | depth, c :: rest, position => blockCommentFrom depth rest (position.next c)

def blockComment? (cursor : Cursor) : Option Cursor :=
  if cursor.startsWith "/*" then blockCommentFrom 0 cursor.rest cursor.position else none

def startsLineComment (cursor : Cursor) : Bool :=
  cursor.startsWith "//" && (!cursor.startsWith "///" || cursor.startsWith "////") &&
    !cursor.startsWith "//!"

def startsBlockComment (cursor : Cursor) : Bool :=
  cursor.startsWith "/*" && (!cursor.startsWith "/**" || cursor.startsWith "/***") &&
    !cursor.startsWith "/*!"

def skipBlanksUpTo : (limit : Nat) → Cursor → Cursor
  | 0, cursor => cursor
  | limit + 1, cursor =>
    let cursor := cursor.dropWhile isBlank
    if cursor.startsLineComment then skipBlanksUpTo limit cursor.dropLine
    else if cursor.startsWith "/**/" then skipBlanksUpTo limit (cursor.drop 4)
    else if cursor.startsBlockComment then
      match cursor.blockComment? with
      | some behind => skipBlanksUpTo limit behind
      | none => cursor
    else cursor

/-- Reads blanks and comments; a comment takes at least two characters. -/
def skipBlanks (cursor : Cursor) : Cursor := skipBlanksUpTo (cursor.rest.length + 1) cursor

def returnsEndLines : List Char → Bool
  | [] => true
  | '\r' :: '\n' :: rest => returnsEndLines rest
  | c :: rest => c != '\r' && returnsEndLines rest

/-- A comment that documents: whether it documents what is around it, and the cursor behind it. -/
def docComment? (cursor : Cursor) : Option (Bool × Cursor) :=
  let line (inner : Bool) : Option (Bool × Cursor) :=
    let behind := (cursor.drop 3)
    if returnsEndLines (takeLine behind.rest) then some (inner, behind.dropLine) else none
  let block (inner : Bool) : Option (Bool × Cursor) :=
    match cursor.blockComment? with
    | some behind =>
      let length := cursor.rest.length - behind.rest.length
      let text := (cursor.rest.take (length - 2)).drop 3
      if returnsEndLines text then some (inner, behind) else none
    | none => none
  if cursor.startsWith "//!" then line true
  else if cursor.startsWith "/*!" then block true
  else if cursor.startsWith "///" && !cursor.startsWith "////" then line false
  else if cursor.startsWith "/**" && !cursor.startsWith "/***" then block false
  else none

end Cursor

end KindDispatch.Source
