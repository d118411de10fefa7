import KindDispatch.Source.Blank
import KindDispatch.Source.Literal

/-!
# Reading token trees

`tokenTrees` reads a whole text into token trees.  Open groups are kept on a stack; a text that ends
inside a group fails where the innermost open group starts, any other text that cannot be read fails
at the character that fits nowhere.
-/

namespace KindDispatch.Source

def punctuation : List Char := "~!@#$%^&*-=+|;:,<.>/?'".toList

def unreadableMessage : String := "cannot parse string into token stream"

def byteOrderMark : String := "\uFEFF"

namespace Cursor

/-- Reads one character of punctuation; the slash of a comment is none. -/
def mark? (cursor : Cursor) : Option (Char × Cursor) :=
  if cursor.startsWith "//" || cursor.startsWith "/*" then none
  else match cursor.rest with
    | c :: _ => if punctuation.contains c then some (c, cursor.drop 1) else none
    | [] => none

def afterQuote? (cursor behind : Cursor) : Option (Token × Cursor) :=
  match behind.word? with
  | none => none
  | some (_, afterWord) =>
    if afterWord.startsWith "'" || (afterWord.startsWith "#" && !behind.startsWith "r#") then none
    else if behind.literal?.isSome then some (.punct '\'' true cursor.position, behind)
    else match behind.separateWord? with
      | some (_, afterWord) => some (.lifetime cursor.position, afterWord)
      | none => some (.punct '\'' true cursor.position, behind)

def leaf? (cursor : Cursor) : Option (Token × Cursor) :=
  match cursor.literal? with
  | some (form, behind) => some (.literal form cursor.position, behind)
  | none =>
    match cursor.mark? with
    | some ('\'', behind) => cursor.afterQuote? behind
    | some (mark, behind) => some (.punct mark behind.mark?.isSome cursor.position, behind)
    | none =>
      match cursor.separateWord? with
      | some (text, behind) => some (.word text cursor.position, behind)
      | none =>
        (cursor.expect? errorMark).map fun behind =>
          (.literal .errorMark cursor.position, behind)

end Cursor

/-- The attribute a documenting comment stands for, the last token first. -/
def docTokens (inner : Bool) (start close : Position) : List Token :=
  let meaning : Token := .group .bracket start
    [.word "doc" start, .punct '=' false start, .literal .string start] close
  let bang : List Token := if inner then [.punct '!' false start] else []
  meaning :: bang ++ [.punct '#' false start]

/-- A group that is open: its delimiter, its start, and the tokens in front of it, the last one
first. -/
structure OpenGroup where
  delimiter : Delimiter
  position : Position
  before : List Token

/-- Reads token trees; `done` holds those of the innermost open group, the last one first. -/
def tokenTreesFrom : (limit : Nat) → Cursor → List OpenGroup → (done : List Token) →
    Except ParseFailure (List Token)
  | 0, cursor, _, _ => .error (.ofPosition cursor.position unreadableMessage)
  | limit + 1, cursor, stack, done =>
    let cursor := cursor.skipBlanksUpTo (limit + 1)
    let start := cursor.position
    let failure : ParseFailure := .ofPosition start unreadableMessage
    match cursor.docComment? with
    | some (inner, behind) =>
      tokenTreesFrom limit behind stack (docTokens inner start behind.position.left ++ done)
    | none =>
      match cursor.rest with
      | [] =>
        match stack with
        | [] => .ok done.reverse
        | innermost :: _ => .error (.ofPosition innermost.position unreadableMessage)
      | c :: _ =>
        match Delimiter.ofOpening? c, Delimiter.ofClosing? c with
        | some delimiter, _ =>
          if cursor.startsWith Cursor.errorMark then
            match cursor.leaf? with
            | some (token, behind) => tokenTreesFrom limit behind stack (token :: done)
            | none => .error failure
          else tokenTreesFrom limit (cursor.drop 1) (⟨delimiter, start, done⟩ :: stack) []
        | none, some delimiter =>
          match stack with
          | [] => .error failure
          | innermost :: stack =>
            if innermost.delimiter = delimiter then
              let group : Token := .group delimiter innermost.position done.reverse start
              tokenTreesFrom limit (cursor.drop 1) stack (group :: innermost.before)
            else .error failure
        | none, none =>
          match cursor.leaf? with
          | some (token, behind) => tokenTreesFrom limit behind stack (token :: done)
          | none => .error failure

/-- Reads a whole text; every turn but the last reads at least one character.  A byte order mark
that the text starts with is skipped. -/
def tokenTrees (text : List Char) : Except ParseFailure (List Token) :=
  let start := Cursor.ofList text
  let start := if start.startsWith byteOrderMark then start.drop 1 else start
  tokenTreesFrom (text.length + 1) start [] []

end KindDispatch.Source
