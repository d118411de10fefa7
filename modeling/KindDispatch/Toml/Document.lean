import KindDispatch.Toml.Failure
import KindDispatch.Toml.Item
import KindDispatch.Toml.Scalar

/-!
# Reading TOML documents

Keys, values, headers, and the lines they are on.  `Document.read` answers the entries of the root
table, or a failure with the character it is at.
-/

namespace KindDispatch.Toml

namespace Parser

/-! ## Keys -/

def simpleKey : Parser Key := do
  let text : Parser (List Char) := do
    match ← ahead with
    | none => fail
    | some '"' => basicString
    | some '\'' => literalString
    | some _ => takeSome isBareChar
  let (text, span) ← withSpan text
  return ⟨String.ofList text, span⟩

def levelLimit : Nat := 80

def tooDeep : String := "recursion limit exceeded"

def dottedKey : Parser (List Key × Key) :=
  let spaced : Parser Key := do
    spaces
    let key ← simpleKey
    spaces
    return key
  (named "key" (separated spaced (char '.'))).convert fun keys =>
    if levelLimit ≤ keys.length then .error (some tooDeep)
    else
      match keys.getLast? with
      | some key => .ok (keys.dropLast, key)
      | none => .error none

/-! ## Values -/

def asString {α : Type} (parser : Parser α) : Parser α :=
  expecting ["`\"`", "`'`"] (named "string" parser)

def number : Parser (Span → Item) :=
  orElse (do dateTime; return .dateTime) (orElse
    (do return .float (← float))
    (do return .integer (← integer)))

def arrayItems (value : Parser Item) : Parser (List Item) := do
  if (← ahead) = some ']' then return []
  let spaced : Parser Item := do
    spacesAndLines
    let item ← value
    spacesAndLines
    return item
  let items ← optional do
    let items ← separated spaced (char ',')
    discard (optional (char ','))
    return items
  spacesAndLines
  return items.getD []

def keySeparator : Parser Unit := expecting ["`.`", "`=`"] (char '=')

def inlinePair (value : Parser Item) : Parser Pair := do
  let (path, key) ← dottedKey
  commit do
    keySeparator
    spaces
    let item ← value
    spaces
    return ⟨path, key, item⟩

def inlinePairs (value : Parser Item) : Parser (List Pair) := do
  let pairs ← optional (separated (inlinePair value) (char ','))
  spaces
  return pairs.getD []

/-- Something with values inside it; without a parser for those it is nested too deep. -/
def nestedIn (inner : Option (Parser Item)) (parser : Parser Item → Parser (Span → Item)) :
    Parser (Span → Item) :=
  match inner with
  | some inner => parser inner
  | none => fun reader => .fatal { Mistake.plain reader.offset with cause := some tooDeep }

def array (inner : Parser Item) : Parser (Span → Item) := do
  char '['
  let items ← commit (arrayItems inner)
  expecting ["`]`"] (named "array" (commit (char ']')))
  return .array items

def inlineTable (inner : Parser Item) : Parser (Span → Item) := do
  char '\x7b'
  let entries ← commit ((inlinePairs inner).convert fun pairs =>
    (inlineEntries pairs).mapError fun conflict => some conflict.message)
  expecting ["`\x7d`"] (named "inline table" (commit (char '\x7d')))
  return fun span => .inlineTable entries .written (some span)

/-- A value, told by its first character; `inner` reads the values inside it. -/
def valueWith (inner : Option (Parser Item)) : Parser Item := do
  let make : Parser (Span → Item) := do
    match ← ahead with
    | none => fail
    | some '"' | some '\'' => return .string (← string)
    | some '[' => nestedIn inner array
    | some '\x7b' => nestedIn inner inlineTable
    | some '_' => return .integer (← expecting ["leading digit"] integer)
    | some '.' => return .float (← expecting ["leading digit"] float)
    | some 't' => asString do commit (text "true"); return .boolean true
    | some 'f' => asString do commit (text "false"); return .boolean false
    | some 'i' => return .float (← asString infinityWord)
    | some 'n' => return .float (← asString nanWord)
    | some c => if c == '+' || c == '-' || c.isDigit then number else asString fail
  let (item, span) ← withSpan make
  return item span

def value : (levels : Nat) → Parser Item
  | 0 => valueWith none
  | levels + 1 => valueWith (some (value levels))

/-! ## Lines -/

def lineEnd : Parser Unit := expecting ["newline", "`#`"] lineTrailing

def changed (change : Except Conflict Document) : Except (Option String) Document :=
  change.mapError fun conflict => some conflict.message

def pairLine (document : Document) : Parser Document :=
  let pair : Parser Pair := do
    let (path, key) ← dottedKey
    commit do
      keySeparator
      spaces
      let item ← value (levelLimit - 1)
      lineEnd
      return ⟨path, key, item⟩
  pair.convert fun pair => changed (document.addPair pair)

def header (opening closing : String) : Parser ((List Key × Key) × Span) := do
  let key ← withSpan do
    text opening
    let key ← commit dottedKey
    expecting ["`.`", "`" ++ closing ++ "`"] (commit (text closing))
    return key
  expecting ["newline", "`#`"] (commit lineTrailing)
  return key

def headerLine (document : Document) : Parser Document :=
  named "table header" do
    atLeast 2
    if ← startsWith "[[" then
      (header "[[" "]]").convert fun ((above, key), span) =>
        changed (document.startElement above key span)
    else
      (header "[" "]").convert fun ((above, key), span) =>
        changed (document.startTable above key span)

def line (document : Document) : Parser Document := do
  match ← ahead with
  | none => fail
  | some '#' => commit do comment; lineEnding; return document
  | some '[' => commit (headerLine document)
  | some '\n' | some '\r' => newline; return document
  | some _ => commit (pairLine document)

def lines : (limit : Nat) → Document → Parser Document
  | 0, document => pure document
  | limit + 1, document => do
    match ← optional (line document) with
    | none => return document
    | some document => spaces; lines limit document

def document : Parser Document := fun reader =>
  (do
    discard (optional (char '\uFEFF'))
    spaces
    let document ← lines (reader.rest.length + 1) .empty
    theEnd
    return document : Parser Document) reader

end Parser

/-- The failure of a mistake: the character it is at is to blame. -/
def Mistake.failure (mistake : Mistake) (text : List Char) : Failure :=
  let size := match behind text mistake.offset with
    | c :: _ => c.utf8Size
    | [] => 0
  ⟨some ⟨mistake.offset, mistake.offset + size⟩, mistake.message⟩
where
  /-- The text behind a number of bytes. -/
  behind : List Char → Nat → List Char
    | [], _ => []
    | c :: rest, bytes => if bytes = 0 then c :: rest else behind rest (bytes - c.utf8Size)

def Document.read (text : String) : Except Failure Entries :=
  match Parser.document (.ofList text.toList) with
  | .retry mistake | .fatal mistake => .error (mistake.failure text.toList)
  | .ok document _ => document.finish.mapError fun conflict => ⟨none, conflict.message⟩

end KindDispatch.Toml
