import KindDispatch.Toml.Scalar

/-!
# TOML documents

The values of a document with the bytes they are written in.  A table also says how it came to be,
since only some tables may be extended further on.
-/

namespace KindDispatch.Toml

structure Key where
  text : String
  span : Span
deriving DecidableEq, Repr, Inhabited

def isBareChar (c : Char) : Bool := c.isAlphanum || c == '-' || c == '_'

def escapeChar (c : Char) : List Char :=
  match Parser.shortEscapes.find? (·.2 = c) with
  | some (mark, _) => ['\\', mark]
  | none =>
    if c.toNat < 32 || c.toNat = 127 then
      let digits := (Nat.toDigits 16 c.toNat).map Char.toUpper
      '\\' :: 'u' :: List.replicate (4 - digits.length) '0' ++ digits
    else [c]

/-- A key in quotes if it needs them: in single quotes if that spares it escapes. -/
def Key.display (key : Key) : String :=
  let text := key.text.toList
  if !text.isEmpty && text.all isBareChar then key.text
  else if text.any (fun c => c = '"' || c = '\\') && text.all Parser.isLiteralChar then
    String.ofList ('\'' :: text ++ ['\''])
  else String.ofList ('"' :: text.flatMap escapeChar ++ ['"'])

inductive Origin where
  /-- It has a header, or braces, of its own. -/
  | written
  /-- A header names a table inside it. -/
  | above
  /-- A dotted key leads through it. -/
  | dotted
deriving DecidableEq, Repr, Inhabited

/-- A value; a table that is not written anywhere has no span. -/
inductive Item where
  | string (text : String) (span : Span)
  | integer (value : Int) (span : Span)
  | float (value : Binary64) (span : Span)
  | boolean (value : Bool) (span : Span)
  | dateTime (span : Span)
  | array (items : List Item) (span : Span)
  | inlineTable (entries : List (Key × Item)) (origin : Origin) (span : Option Span)
  | table (entries : List (Key × Item)) (origin : Origin) (span : Option Span)
  /-- The tables of an array, each with a header of its own. -/
  | tables (items : List Item) (span : Option Span)
deriving Repr, Inhabited

abbrev Entries := List (Key × Item)

namespace Item

def span? : Item → Option Span
  | string _ span | integer _ span | float _ span | boolean _ span | dateTime span
  | array _ span => some span
  | inlineTable _ _ span | table _ _ span | tables _ span => span

def typeName : Item → String
  | string .. => "string"
  | integer .. => "integer"
  | float .. => "float"
  | boolean .. => "boolean"
  | dateTime _ => "datetime"
  | array .. => "array"
  | inlineTable .. => "inline table"
  | table .. => "table"
  | tables .. => "array of tables"

end Item

namespace Entries

def find? (name : String) (entries : Entries) : Option Item :=
  (List.find? (·.1.text = name) entries).map (·.2)

def replace (name : String) (item : Item) (entries : Entries) : Entries :=
  List.map (fun (key, old) => if key.text = name then (key, item) else (key, old)) entries

def erase (name : String) (entries : Entries) : Entries :=
  List.filter (·.1.text ≠ name) entries

end Entries

inductive Conflict where
  /-- A key is used twice; `table` leads to the table it is in, if that is known. -/
  | duplicateKey (key : String) (table : Option (List Key))
  /-- A dotted key leads through something that is no table. -/
  | notATable (path : List Key) (found : String)
deriving DecidableEq, Repr

def Conflict.message : Conflict → String
  | duplicateKey key none => s!"duplicate key `{key}`"
  | duplicateKey key (some []) => s!"duplicate key `{key}` in document root"
  | duplicateKey key (some path) =>
    s!"duplicate key `{key}` in table `" ++ ".".intercalate (path.map Key.text) ++ "`"
  | notATable path found =>
    "dotted key `" ++ ".".intercalate (path.map Key.text) ++
      s!"` attempted to extend non-table type ({found})"

/-! ## Tables -/

/-- Something done to the entries of a table: an answer, and the entries after it.  It is told how
the table came to be. -/
abbrev Change (α : Type) : Type := Origin → Entries → Except Conflict (α × Entries)

/-- Adds a value to a table, which must have come to be as the key is written: with dots or
without. -/
def addEntry (key : Key) (item : Item) (dotted : Bool) (duplicate : Conflict) : Change Unit :=
  fun origin entries =>
    if dotted ≠ (origin = .dotted : Bool) then .error (.duplicateKey key.text none)
    else if (entries.find? key.text).isSome then .error duplicate
    else .ok ((), entries ++ [(key, item)])

/-- Changes the entries of the inline table a dotted key leads to; missing tables on the way are
made.  `walked` holds the keys before the path. -/
def descendInline {α : Type} (change : Change α) (walked : List Key) : (path : List Key) → Change α
  | [], origin, entries => change origin entries
  | key :: rest, _, entries =>
    let below := descendInline change (walked ++ [key]) rest
    match entries.find? key.text with
    | none =>
      (below .dotted []).map fun (answer, inner) =>
        (answer, entries ++ [(key, .inlineTable inner .dotted none)])
    | some (.inlineTable inner origin span) =>
      if origin = .written then .error (.duplicateKey key.text none)
      else (below origin inner).map fun (answer, inner) =>
        (answer, entries.replace key.text (.inlineTable inner origin span))
    | some other => .error (.notATable (walked ++ [key]) other.typeName)

/-- Changes the entries of the table a path leads to, through the last element of an array of
tables; missing tables on the way are made.  A dotted key leads through no table that is written
somewhere else. -/
def descend {α : Type} (dotted : Bool) (change : Change α) (walked : List Key) :
    (path : List Key) → Change α
  | [], origin, entries => change origin entries
  | key :: rest, _, entries =>
    let below := descend dotted change (walked ++ [key]) rest
    match entries.find? key.text with
    | none =>
      let origin : Origin := if dotted then .dotted else .above
      (below origin []).map fun (answer, inner) =>
        (answer, entries ++ [(key, .table inner origin none)])
    | some (.table inner origin span) =>
      if dotted && origin = .written then .error (.duplicateKey key.text none)
      else (below origin inner).map fun (answer, inner) =>
        (answer, entries.replace key.text (.table inner origin span))
    | some (.tables items span) =>
      match items.getLast? with
      | some (.table inner origin last) =>
        (below origin inner).map fun (answer, inner) =>
          (answer, entries.replace key.text
            (.tables (items.dropLast ++ [.table inner origin last]) span))
      | _ => .error (.notATable (walked ++ [key]) "array of tables")
    | some other => .error (.notATable (walked ++ [key]) other.typeName)

structure Pair where
  path : List Key
  key : Key
  item : Item

def inlineEntries (pairs : List Pair) : Except Conflict Entries :=
  pairs.foldlM (fun entries pair =>
    let add := addEntry pair.key pair.item (!pair.path.isEmpty) (.duplicateKey pair.key.text none)
    (descendInline add [] pair.path .written entries).map (·.2)) []

/-! ## Documents -/

structure Document where
  root : Entries
  current : Entries
  /-- The bytes of the current table, unless it is the root. -/
  span : Option Span
  /-- Where the current table goes; nowhere for the root. -/
  path : List Key
  /-- Whether the current table is an element of an array. -/
  isElement : Bool
deriving Inhabited

namespace Document

def empty : Document := ⟨[], [], none, [], false⟩

def addPair (pair : Pair) (document : Document) : Except Conflict Document :=
  let add := addEntry pair.key pair.item (!pair.path.isEmpty)
    (.duplicateKey pair.key.text (some document.path))
  let span := match document.span, pair.item.span? with
    | some span, some value => some ⟨span.start, value.stop⟩
    | span, _ => span
  (descend true add [] pair.path .written document.current).map fun (_, current) =>
    { document with current, span }

def coveredSpan (items : List Item) : Option Span :=
  match items.head?.bind Item.span?, items.getLast?.bind Item.span? with
  | some first, some last => some ⟨first.start, last.stop⟩
  | _, _ => none

/-- A table goes to the end of the table it is in, or in the place of one that is written
nowhere. -/
def placeTable (key : Key) (table : Item) (conflict : Conflict) : Change Unit :=
  fun _ entries =>
    match entries.find? key.text with
    | none => .ok ((), entries ++ [(key, table)])
    | some (.table _ origin _) =>
      if origin = .written then .error conflict
      else .ok ((), entries.replace key.text table)
    | some _ => .error conflict

def placeElement (key : Key) (table : Item) (conflict : Conflict) : Change Unit :=
  fun _ entries =>
    match entries.find? key.text with
    | none => .ok ((), entries ++ [(key, .tables [table] (coveredSpan [table]))])
    | some (.tables items _) =>
      let items := items ++ [table]
      .ok ((), entries.replace key.text (.tables items (coveredSpan items)))
    | some _ => .error conflict

def finish (document : Document) : Except Conflict Entries :=
  match document.path.getLast? with
  | none => .ok document.current
  | some key =>
    let table : Item := .table document.current .written document.span
    let above := document.path.dropLast
    let conflict : Conflict := .duplicateKey key.display (some above)
    let place := (if document.isElement then placeElement else placeTable) key table conflict
    (descend false place [] above .written document.root).map (·.2)

/-- Starts the table of a header.  A table that is only above others is taken over with what is in
it. -/
def startTable (above : List Key) (key : Key) (span : Span) (document : Document) :
    Except Conflict Document := do
  let takeOver : Change Entries := fun _ entries =>
    match entries.find? key.text with
    | none => .ok ([], entries)
    | some (.table inner .above _) => .ok (inner, entries.erase key.text)
    | some _ => .error (.duplicateKey key.display (some above))
  let (current, root) ← descend false takeOver [] above .written (← document.finish)
  return ⟨root, current, some span, above ++ [key], false⟩

def startElement (above : List Key) (key : Key) (span : Span) (document : Document) :
    Except Conflict Document := do
  let makeArray : Change Unit := fun _ entries =>
    match entries.find? key.text with
    | none => .ok ((), entries ++ [(key, .tables [] none)])
    | some (.tables ..) => .ok ((), entries)
    | some _ => .error (.duplicateKey key.display (some above))
  let (_, root) ← descend false makeArray [] above .written (← document.finish)
  return ⟨root, [], some span, above ++ [key], true⟩

end Document

end KindDispatch.Toml
