import KindDispatch.Binary64.Shortest
import KindDispatch.Config
import KindDispatch.Files.Tree
import KindDispatch.Files.Utf8
import KindDispatch.Toml.Document
import KindDispatch.Toml.Visible

/-!
# Settings files

Settings are read from a TOML document: every key has to be known and every value of the right type,
and keys that are missing leave the default.  The first key in the order of the document that does
not fit is the failure.
-/

namespace KindDispatch.Config

open Toml (Entries Failure Item Key)

/-! ## Values -/

def floatDisplay (value : Binary64) : String :=
  let text := value.plain
  match value with
  | .finite .. => if text.contains '.' then text else text ++ ".0"
  | _ => text

def found : Item → String
  | .string text _ => "string " ++ Visible.quote text
  | .integer value _ => s!"integer `{value}`"
  | .float value _ => "floating point `" ++ floatDisplay value ++ "`"
  | .boolean value _ => s!"boolean `{value}`"
  | .array .. | .tables .. => "sequence"
  | .dateTime _ | .inlineTable .. | .table .. => "map"

def mismatch (item : Item) (wanted : String) : Failure :=
  ⟨item.span?, "invalid type: " ++ found item ++ ", expected " ++ wanted⟩

def readNatural (wanted : String) (limit : Nat) (item : Item) : Except Failure Nat :=
  match item with
  | .integer value span =>
    if 0 ≤ value && value ≤ limit then .ok value.toNat
    else .error ⟨some span, "invalid value: " ++ found item ++ ", expected " ++ wanted⟩
  | _ => .error (mismatch item wanted)

def readString (wanted : String) (item : Item) : Except Failure String :=
  match item with
  | .string text _ => .ok text
  | _ => .error (mismatch item wanted)

def readStrings (wanted : String) (item : Item) : Except Failure (List String) :=
  match item with
  | .array items _ | .tables items _ => items.mapM (readString wanted)
  | _ => .error (mismatch item "a sequence")

/-! ## Modes -/

def ticked (words : List String) : String :=
  ", ".intercalate (words.map fun word => "`" ++ word ++ "`")

def readModeName (name : String) (span : Option Toml.Span) : Except Failure DispatchMode :=
  match DispatchMode.ofLabel? name with
  | some mode => .ok mode
  | none =>
    let known := ticked (DispatchMode.all.map DispatchMode.label)
    .error ⟨span, s!"unknown variant `{name}`, expected one of " ++ known⟩

def readNothing (item : Item) : Except Failure Unit :=
  match item with
  | .tables [] _ | .array [] _ | .table [] .. | .inlineTable [] .. => .ok ()
  | .tables .. => .error ⟨item.span?, "expected empty array"⟩
  | .array .. | .table .. | .inlineTable .. => .error ⟨item.span?, "expected empty table"⟩
  | _ => .error ⟨item.span?, "expected table, found " ++ item.typeName⟩

def readMode (item : Item) : Except Failure DispatchMode :=
  match item with
  | .string name span => readModeName name (some span)
  | .table entries .. | .inlineTable entries .. =>
    match entries with
    | [] => .error ⟨item.span?, "wanted exactly 1 element, found 0 elements"⟩
    | [(key, content)] => do
      let mode ← readModeName key.text (some key.span)
      readNothing content
      return mode
    | _ => .error ⟨item.span?, "wanted exactly 1 element, more than 1 element"⟩
  | _ => .error ⟨item.span?, "wanted string or table"⟩

/-! ## Documents -/

def keys : List String := ["roots", "extensions", "iterations", "mode", "jobs"]

def readValue (key : Key) (item : Item) (config : Config) : Except Failure Config := do
  match key.text with
  | "roots" => return { config with roots := ← readStrings "path string" item }
  | "extensions" => return { config with extensions := ← readStrings "a string" item }
  | "iterations" => return { config with iterations := ← readNatural "u32" (UInt32.size - 1) item }
  | "mode" => return { config with mode := ← readMode item }
  | "jobs" => return { config with jobs := ← readNatural "usize" (UInt64.size - 1) item }
  | other =>
    throw ⟨some key.span, s!"unknown field `{other}`, expected one of " ++ ticked keys⟩

/-- Changes the setting of a key; a failure without a place is at the value, or else at the key. -/
def readEntry (config : Config) (entry : Key × Item) : Except Failure Config :=
  let (key, item) := entry
  (readValue key item config).mapError fun failure =>
    { failure with span := failure.span <|> item.span? <|> some key.span }

def ofEntries (entries : Entries) : Except Failure Config := entries.foldlM readEntry default

def ofText (text : String) : Except Failure Config := do ofEntries (← Toml.Document.read text)

/-! ## Files -/

def loadAs (shown : String) (tree : FileTree) (path : String) : Except BenchError Config :=
  match tree.read path with
  | .error error => .error (.configRead shown error.message)
  | .ok bytes =>
    match Utf8.decode bytes with
    | .error _ => .error (.configRead shown FileError.notText.message)
    | .ok text =>
      (ofText text).mapError fun failure => .configParse shown (failure.display text)

def load (tree : FileTree) (path : String) : Except BenchError Config := loadAs path tree path

def loadFrom (tree : FileTree) (directory : String) : Except BenchError Config :=
  let path := Path.join directory fileName
  if tree.pathExists path then load tree path else .ok default

end KindDispatch.Config
