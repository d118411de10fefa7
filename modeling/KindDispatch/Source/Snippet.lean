import KindDispatch.Source.CharacterWidth
import KindDispatch.Source.Position

/-!
# Snippets

A parse failure is shown with the line it is on: a title, the place, the line, and below it a caret
with the message.  `highlight` finds the bytes of the offending character; a line that does not fit
on the screen is shown through a window around the caret.
-/

namespace KindDispatch.Source

/-! ## Places in bytes -/

/-- A range of bytes, `stop` excluded. -/
structure Span where
  start : Nat
  stop : Nat
deriving DecidableEq, Repr, Inhabited

def byteLength (text : List Char) : Nat := (text.map Char.utf8Size).foldr (· + ·) 0

def afterLineEnds : List Char → (count : Nat) → List Char
  | text, 0 => text
  | [], _ => []
  | c :: rest, count + 1 => afterLineEnds rest (if c = '\n' then count else count + 1)

def fromLine (text : List Char) (line : Nat) : List Char := afterLineEnds text (line - 1)

def lineStart (text : List Char) (line : Nat) : Nat :=
  byteLength text - byteLength (fromLine text line)

/-- The bytes of the character at a line and column; a column beyond the line stands for its end. -/
def highlight (text : List Char) (line column : Nat) : Span :=
  let rest := fromLine text line
  let before := (rest.takeWhile (· ≠ '\n')).take (column - 1)
  let start := lineStart text line + byteLength before
  ⟨start, start + byteLength ((rest.drop before.length).take 1)⟩

/-! ## Excerpts -/

def splitAtByte : List Char → (bytes : Nat) → List Char × List Char
  | [], _ => ([], [])
  | c :: rest, bytes =>
    if c.utf8Size ≤ bytes then
      let (before, after) := splitAtByte rest (bytes - c.utf8Size)
      (c :: before, after)
    else ([], c :: rest)

/-- The part of a text that is shown: it starts at the beginning of the line the span starts on and
goes up to the first line end behind the span, which is left out. -/
structure Excerpt where
  /-- Number of the line it starts on. -/
  number : Nat
  /-- What is on the line in front of the span. -/
  before : List Char
  /-- What the span covers. -/
  marked : List Char
  after : List Char
deriving Repr, Inhabited

namespace Excerpt

def ofSpan (text : List Char) (span : Span) : Excerpt :=
  let (front, rest) := splitAtByte text span.start
  let (marked, rest) := splitAtByte rest (span.stop - span.start)
  { number := front.count '\n' + 1
    before := (front.reverse.takeWhile (· ≠ '\n')).reverse
    marked
    after := rest.takeWhile (· ≠ '\n') }

def text (excerpt : Excerpt) : List Char := excerpt.before ++ excerpt.marked ++ excerpt.after

def withoutReturn (line : List Char) : List Char :=
  if line.getLast? = some '\r' then line.dropLast else line

def lines (excerpt : Excerpt) : List (List Char) :=
  if excerpt.text.isEmpty then []
  else if excerpt.marked = ['\n'] then
    withoutReturn excerpt.before :: if excerpt.after.isEmpty then [] else [excerpt.after]
  else [excerpt.text]

def shownBefore (excerpt : Excerpt) : List Char :=
  if excerpt.marked = ['\n'] then withoutReturn excerpt.before else excerpt.before

/-- Columns of the white space a line starts with; a tab takes four. -/
def indent (line : List Char) : Nat :=
  ((line.takeWhile isWhiteSpace).map fun c => if c = '\t' then 4 else 1).foldr (· + ·) 0

end Excerpt

/-! ## Windows -/

/-- The columns of the lines that are shown, `left` included and `right` excluded. -/
structure Window where
  left : Nat
  right : Nat
  /-- Columns of the screen. -/
  width : Nat
deriving Repr, Inhabited

structure Extent where
  /-- White space that all lines with something else start with; none if there is no such line. -/
  indent : Option Nat
  /-- Bytes of the longest line. -/
  longest : Nat
  /-- Columns from the caret up to its end. -/
  caretStart : Nat
  caretStop : Nat
  /-- The column behind the message. -/
  labelStop : Nat
deriving Repr, Inhabited

namespace Window

def room : Nat := 6

def longIndent : Nat := 20

def shortIndent : Nat := 16

/-- The window for what has to be shown: everything if it fits, else as much as possible in front of
the caret, and the message only if it fits too.  Lines that are all white space show nothing: the
window is behind them, even if they are tabs, which are shown four times as long as they are. -/
def ofExtent (width : Nat) (extent : Extent) : Window :=
  match extent.indent with
  | none => ⟨4 * extent.longest + 1, 4 * extent.longest + 1, width⟩
  | some indent =>
    let indent := indent - room
    let start := extent.caretStart - room
    let stop := extent.caretStop + room
    let labelStop := extent.labelStop + room
    let left := if longIndent < indent then indent - shortIndent else 0
    let right := max extent.longest left
    if right - left ≤ width then ⟨left, right, width⟩
    else if indent ≤ labelStop && labelStop - indent ≤ width then ⟨indent, indent + width, width⟩
    else
      let around (space : Nat) : Window := ⟨start - space, start - space + width, width⟩
      if labelStop - start ≤ width then around ((width - (labelStop - start)) / 2)
      else if stop - start ≤ width then around ((width - (stop - start)) / 5 * 2)
      else ⟨start, stop, width⟩

/-- Whether a line of some bytes is marked as cut off on the right.  Where a window ends with the
room behind the caret or the message, a line that ends in the room counts as cut off too. -/
def cutsOff (window : Window) (extent : Extent) (bytes : Nat) : Bool :=
  let right :=
    if window.right = extent.caretStop + room ∨ window.right = extent.labelStop + room then
      window.right - room
    else window.right
  right < bytes && window.left + window.width < bytes

end Window

/-! ## Rows -/

def writeAt (column : Nat) (text row : List Char) : List Char :=
  if text.isEmpty then row
  else row.take column ++ List.replicate (column - row.length) ' ' ++ text ++
    row.drop (column + text.length)

/-- Characters that are left out, since they would change the order or the number of those shown. -/
def hiddenCharacters : List Char :=
  ['\u200D', '\u202A', '\u202B', '\u202C', '\u202D', '\u202E', '\u2066', '\u2067', '\u2068',
    '\u2069']

def shownText (text : List Char) : List Char :=
  (text.filter (!hiddenCharacters.contains ·)).flatMap fun c =>
    if c = '\t' then [' ', ' ', ' ', ' '] else [c]

def columns (control : Nat) (text : List Char) : Nat := (text.map (columnWidth control)).foldr (· + ·) 0

def fitting : (width : Nat) → List Char → List Char
  | _, [] => []
  | width, c :: rest =>
    if columnWidth 1 c ≤ width then c :: fitting (width - columnWidth 1 c) rest else []

def cutMark : List Char := "...".toList

def gutter (digits : Nat) (number : Option Nat) : List Char :=
  let number := (number.map toString).getD ""
  (List.replicate (digits - number.length) ' ' ++ number.toList) ++ " |".toList

namespace Snippet

def screenWidth : Nat := 140

def lineRows (number : Nat) (line message : List Char) (window : Window) (extent : Extent) :
    List (List Char) :=
  let digits := (toString number).length
  let shown := shownText line
  let bytes := byteLength shown
  let left := min window.left bytes
  let right := if bytes - window.left ≤ window.width then bytes else min bytes window.right
  let code := fitting (right - left) (shown.drop left)
  let edge := digits + 3
  let row := writeAt edge code (gutter digits (some number))
  let row := if 0 < window.left then writeAt edge cutMark row else row
  let row :=
    if window.cutsOff extent bytes then writeAt (edge + columns 1 code - 3) cutMark row else row
  let cut := columns 1 (shown.take left)
  let carets := (List.range (extent.caretStop - extent.caretStart)).map fun i =>
    edge + extent.caretStart + i - cut
  let below := writeAt (edge + (extent.caretStop + 1 - cut)) message (gutter digits none)
  [row, carets.foldl (fun row column => writeAt column ['^'] row) below]

def caretColumn (text : List Char) : Nat := columns 0 text

def extent (excerpt : Excerpt) (message : String) : Extent :=
  let lines := excerpt.lines
  let start := caretColumn excerpt.shownBefore
  let width := caretColumn (excerpt.marked.filter (· ≠ '\n'))
  let stop := start + max width 1
  { indent := ((lines.filter (!·.all isWhiteSpace)).map Excerpt.indent).min?
    longest := ((lines.map byteLength).max?).getD 0
    caretStart := start
    caretStop := stop
    labelStop := stop + message.utf8ByteSize + 1 }

def place (digits : Nat) (label : String) (line column : Nat) : List Char :=
  let arrow := List.replicate digits ' ' ++ "-->".toList
  writeAt (digits + 4) label.toList arrow ++ s!":{line}:{column}".toList

def body (label : String) (excerpt : Excerpt) (message : String) : List (List Char) :=
  match excerpt.lines with
  | [] => [place 0 label 1 1, gutter 0 none, gutter 0 none]
  | line :: more =>
    let number := excerpt.number
    let digits := (toString number).length
    let extent := extent excerpt message
    let behind := number + 1 + more.length
    let window := .ofExtent (screenWidth - (3 + (toString behind).length)) extent
    [place digits label number (excerpt.shownBefore.length + 1), gutter digits none] ++
      lineRows number line message.toList window extent ++ [gutter digits none]

end Snippet

def ParseFailure.render (failure : ParseFailure) (source label : String) : String :=
  let text := source.toList
  let title := if label.isEmpty then "error" else "error: " ++ label
  let excerpt := Excerpt.ofSpan text (highlight text failure.line failure.column)
  let rows := Snippet.body label excerpt failure.message
  "\n".intercalate (title :: rows.map String.ofList)

end KindDispatch.Source
