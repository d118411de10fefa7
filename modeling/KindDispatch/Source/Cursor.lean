import KindDispatch.Source.CharacterClass
import KindDispatch.Source.Position

/-!
# Cursors

A cursor is the part of a text that has not been read yet, together with its position.  Scanners
are functions from cursors: they answer the cursor behind what they have read, or nothing.
-/

namespace KindDispatch.Source

structure Cursor where
  rest : List Char
  position : Position
deriving DecidableEq, Repr, Inhabited

namespace Cursor

def ofList (text : List Char) : Cursor := ⟨text, .start⟩

def startsWith (cursor : Cursor) (text : String) : Bool := text.toList.isPrefixOf cursor.rest

def startsWithAny (cursor : Cursor) (texts : List String) : Bool := texts.any cursor.startsWith

def nextIs (cursor : Cursor) (condition : Char → Bool) : Bool := cursor.rest.head?.any condition

/-- Reads characters from `rest`, which starts at `position`, as long as a condition holds. -/
def dropWhileFrom (condition : Char → Bool) : (rest : List Char) → Position → Cursor
  | [], position => ⟨[], position⟩
  | c :: rest, position =>
    if condition c then dropWhileFrom condition rest (position.next c) else ⟨c :: rest, position⟩

def dropWhile (cursor : Cursor) (condition : Char → Bool) : Cursor :=
  dropWhileFrom condition cursor.rest cursor.position

def takeWhile (cursor : Cursor) (condition : Char → Bool) : List Char :=
  cursor.rest.takeWhile condition

def drop : (count : Nat) → Cursor → Cursor
  | count + 1, ⟨c :: rest, position⟩ => drop count ⟨rest, position.next c⟩
  | _, cursor => cursor

def expect? (cursor : Cursor) (text : String) : Option Cursor :=
  if cursor.startsWith text then some (cursor.drop text.length) else none

/-! ## Identifiers -/

def identifier? (cursor : Cursor) : Option (List Char × Cursor) :=
  if cursor.nextIs isIdentStart then
    some (cursor.takeWhile isIdentContinue, cursor.dropWhile isIdentContinue)
  else none

def neverRaw : List String := ["_", "super", "self", "Self", "crate"]

def word? (cursor : Cursor) : Option (String × Cursor) :=
  if cursor.startsWith "r#" then
    match (cursor.drop 2).identifier? with
    | some (name, behind) =>
      let name := String.ofList name
      if neverRaw.contains name then none else some ("r#" ++ name, behind)
    | none => none
  else cursor.identifier?.map fun (name, behind) => (String.ofList name, behind)

/-- Starts of literals that are not identifiers even if no literal follows. -/
def literalStarts : List String :=
  ["r\"", "r#\"", "r##", "b\"", "b'", "br\"", "br#", "c\"", "cr\"", "cr#"]

def separateWord? (cursor : Cursor) : Option (String × Cursor) :=
  if cursor.startsWithAny literalStarts then none else cursor.word?

def skipSuffix (cursor : Cursor) : Cursor :=
  match cursor.identifier? with
  | some (_, behind) => behind
  | none => cursor

end Cursor

end KindDispatch.Source
