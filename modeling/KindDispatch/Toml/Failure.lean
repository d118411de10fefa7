import KindDispatch.Toml.Reader

/-!
# Failures shown in their text

A failure is shown with the line it is on and marks below the characters that are to blame.
-/

namespace KindDispatch.Toml

structure Failure where
  span : Option Span
  message : String
deriving DecidableEq, Repr, Inhabited

/-- A place in a text; lines and columns count from zero. -/
structure Place where
  line : Nat
  column : Nat
deriving DecidableEq, Repr, Inhabited

namespace Place

/-- The place of a byte in `rest`, given how many lines, and characters and bytes of the line, come
before it.  Columns count characters, but bytes if the byte is not the last one of its character;
the end of the text is one column behind its last character. -/
def ofByteFrom (line column bytes : Nat) : (rest : List Char) → (byte : Nat) → Place
  | [], byte => ⟨line, column + byte⟩
  | [c], byte => inside line column bytes c byte
  | c :: rest, byte =>
    if byte < c.utf8Size then inside line column bytes c byte
    else if c = '\n' then ofByteFrom (line + 1) 0 0 rest (byte - 1)
    else ofByteFrom line (column + 1) (bytes + c.utf8Size) rest (byte - c.utf8Size)
where
  /-- The place of a byte in or behind a character. -/
  inside (line column bytes : Nat) (c : Char) (byte : Nat) : Place :=
    if byte + 1 < c.utf8Size then ⟨line, bytes + byte⟩
    else ⟨line, column + (byte + 1 - c.utf8Size)⟩

def ofByte (text : List Char) (byte : Nat) : Place := ofByteFrom 0 0 0 text byte

end Place

def lineText : (text : List Char) → (line : Nat) → List Char
  | [], _ => []
  | c :: rest, 0 => if c = '\n' then [] else c :: lineText rest 0
  | c :: rest, line + 1 => if c = '\n' then lineText rest line else lineText rest (line + 1)

namespace Failure

def display (failure : Failure) (source : String) : String :=
  match failure.span with
  | none => failure.message ++ "\n"
  | some span =>
    let text := source.toList
    let place := Place.ofByte text span.start
    let content := lineText text place.line
    let number := toString (place.line + 1)
    let margin := String.ofList (List.replicate (number.length + 1) ' ') ++ "|"
    let room := (content.map Char.utf8Size).foldr (· + ·) 0 - place.column
    let marks := max (min (span.stop - span.start) room) 1
    "\n".intercalate [
      s!"TOML parse error at line {place.line + 1}, column {place.column + 1}",
      margin,
      number ++ " | " ++ String.ofList content,
      margin ++ String.ofList (List.replicate (place.column + 1) ' ' ++ List.replicate marks '^'),
      failure.message, ""]

end Failure

end KindDispatch.Toml
