import KindDispatch.Files.Path

/-!
# File trees

A tree of directories, files and symbolic links, with a working directory.  `FileTree.locate`
follows a path to the place it leads to, which is never a link.
-/

namespace KindDispatch

inductive Entry where
  | file (content : List UInt8)
  | directory (entries : List (String × Entry))
  /-- A symbolic link to a path, relative to the directory it is in. -/
  | link (target : String)
deriving Repr, Inhabited

inductive FileError where
  | notFound
  | notADirectory
  | isADirectory
  | nameTooLong
  | tooManyLinks
  | nulByte
  | notText
deriving DecidableEq, Repr, Inhabited

def FileError.message : FileError → String
  | notFound => "No such file or directory (os error 2)"
  | notADirectory => "Not a directory (os error 20)"
  | isADirectory => "Is a directory (os error 21)"
  | nameTooLong => "File name too long (os error 36)"
  | tooManyLinks => "Too many levels of symbolic links (os error 40)"
  | nulByte => "file name contained an unexpected NUL byte"
  | notText => "stream did not contain valid UTF-8"

/-- A place in a tree: the names from the top down to it. -/
abbrev Location := List String

namespace Entry

def child? (name : String) : Entry → Option Entry
  | directory entries => entries.lookup name
  | _ => none

def find? : Location → Entry → Option Entry
  | [], entry => some entry
  | name :: rest, entry => (entry.child? name).bind (find? rest)

/-- Puts an entry at a location; directories that are missing on the way are made, and what else is
in the way is lost. -/
def insert (entry : Entry) (place : Location) (added : Entry) : Entry :=
  match place with
  | [] => added
  | name :: rest =>
    let others := match entry with
      | directory entries => entries.filter (·.1 ≠ name)
      | _ => []
    directory (others ++ [(name, insert ((entry.child? name).getD (directory [])) rest added)])

mutual

def size : Entry → Nat
  | directory entries => 1 + sizeEntries entries
  | _ => 1

def sizeEntries : List (String × Entry) → Nat
  | [] => 0
  | (_, entry) :: rest => size entry + sizeEntries rest

end

end Entry

/-- A tree of files and the place relative paths start at. -/
structure FileTree where
  top : Entry
  here : Location
deriving Repr, Inhabited

namespace FileTree

inductive Advance where
  | arrived (place : Location)
  /-- A link in a directory, its target, and the steps behind it. -/
  | link (directory : Location) (target : String) (rest : List String)

def nameLimit : Nat := 255

/-- Follows the steps of a path from a place up to the first link.  A step, an empty one too, can
only be made in a directory. -/
def advance (top : Entry) : (steps : List String) → Location → Except FileError Advance
  | [], place => .ok (.arrived place)
  | step :: rest, place =>
    match top.find? place with
    | some (.directory entries) =>
      if step = "" || step = "." then advance top rest place
      else if step = ".." then advance top rest place.dropLast
      else if nameLimit < step.utf8ByteSize then .error .nameTooLong
      else
        match entries.lookup step with
        | none => .error .notFound
        | some (.link target) => .ok (.link place target rest)
        | some _ => advance top rest (place ++ [step])
    | some _ => .error .notADirectory
    | none => .error .notFound

def follow (top : Entry) : (links : Nat) → (steps : List String) → Location →
    Except FileError Location
  | links, steps, place =>
    match advance top steps place with
    | .error error => .error error
    | .ok (.arrived place) => .ok place
    | .ok (.link directory target rest) =>
      match links with
      | 0 => .error .tooManyLinks
      | links + 1 =>
        let start := if Path.isAbsolute target then [] else directory
        follow top links (Path.segments target ++ rest) start

def linkLimit : Nat := 40

def pathLimit : Nat := 4095

def locate (tree : FileTree) (path : String) : Except FileError Location :=
  if path.toList.contains '\x00' then .error .nulByte
  else if path = "" then .error .notFound
  else if pathLimit < path.utf8ByteSize then .error .nameTooLong
  else
    let start := if Path.isAbsolute path then [] else tree.here
    follow tree.top linkLimit (Path.segments path) start

def read (tree : FileTree) (path : String) : Except FileError (List UInt8) :=
  match tree.locate path with
  | .error error => .error error
  | .ok place =>
    match tree.top.find? place with
    | some (.file content) => .ok content
    | some (.directory _) => .error .isADirectory
    | _ => .error .notFound

def pathExists (tree : FileTree) (path : String) : Bool :=
  match tree.locate path with
  | .ok _ => true
  | .error _ => false

end FileTree

end KindDispatch
