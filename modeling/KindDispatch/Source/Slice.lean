import KindDispatch.Source.Snippet

/-!
# Slices

Parts of a text by bytes.  There is a slice between two bytes only if a character of the text begins
or the text ends at each of them, and if they are in order.  `highlight?` finds the bytes of a
character with offsets and slices, and has no answer if there is none of the slices it takes.
-/

namespace KindDispatch.Source

/-! ## Characters and their bytes -/

/-- The characters of a text, each with the byte it begins at if the text begins at `start`. -/
def offsetsFrom : (start : Nat) → List Char → List (Nat × Char)
  | _, [] => []
  | start, c :: rest => (start, c) :: offsetsFrom (start + c.utf8Size) rest

def offsets (text : List Char) : List (Nat × Char) := offsetsFrom 0 text

def lineEnds (text : List Char) : List Nat :=
  ((offsets text).filter (·.2 = '\n')).map Prod.fst

def lineEnd? (text : List Char) : Option Nat := (lineEnds text).head?

/-! ## Slices -/

/-- What stands behind a number of bytes of a text; none if these end inside a character or the text
is shorter. -/
def behind? : List Char → (bytes : Nat) → Option (List Char)
  | text, 0 => some text
  | [], _ + 1 => none
  | c :: rest, bytes + 1 =>
    if c.utf8Size ≤ bytes + 1 then behind? rest (bytes + 1 - c.utf8Size) else none

def slice? (text : List Char) (span : Span) : Option (List Char) := do
  let rest ← behind? text span.start
  let after ← behind? text span.stop
  if span.start ≤ span.stop then some (rest.take (rest.length - after.length)) else none

/-! ## Highlighting -/

/-- The byte a line begins at: that behind the line end in front of it, or the end of a text that
has fewer lines. -/
def lineOffset (text : List Char) (line : Nat) : Nat :=
  if line ≤ 1 then 0 else ((lineEnds text)[line - 2]?.map (· + 1)).getD (byteLength text)

def highlight? (text : List Char) (line column : Nat) : Option Span := do
  let length := byteLength text
  let lineStart := lineOffset text line
  let rest ← slice? text ⟨lineStart, length⟩
  let lineStop := (lineEnd? rest).elim length (lineStart + ·)
  let content ← slice? text ⟨lineStart, lineStop⟩
  let start := (offsets content)[column - 1]?.elim (lineStart + byteLength content) (lineStart + ·.1)
  let marked ← slice? text ⟨start, length⟩
  let stop := marked.head?.elim start fun c => min (start + c.utf8Size) length
  some ⟨start, stop⟩

end KindDispatch.Source
