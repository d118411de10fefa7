import KindDispatch.Files.Tree

/-!
# Collecting files

`FileTree.walk` lists what is below a root.  Links are followed, but not to a directory the walk is
in already.  Directories and links are looked up by the whole path that the walk took to them, and
cannot be read if that fails.  `collectFrom` keeps the files with the right extension that some walk
comes across, in the order of their paths and each path once.
-/

namespace KindDispatch

inductive Found where
  | file (path : String)
  | directory (path : String)
  /-- Nothing that can be read, or a link to a directory the walk is in. -/
  | unreadable (path : String)
deriving DecidableEq, Repr, Inhabited

def Found.file? : Found → Option String
  | file path => some path
  | _ => none

namespace FileTree

/-- What is below a path; `above` holds the directories the walk is in, and `levels` bounds how deep
it goes. -/
def walkFrom (tree : FileTree) : (levels : Nat) → (above : List Location) → (path : String) →
    List Found
  | 0, _, _ => []
  | levels + 1, above, path =>
    match tree.locate path with
    | .error _ => [.unreadable path]
    | .ok place =>
      match tree.top.find? place with
      | some (.file _) => [.file path]
      | some (.directory entries) =>
        let inside := place :: above
        .directory path :: entries.flatMap fun (name, entry) =>
          let below := Path.join path name
          match entry with
          | .file _ => [.file below]
          | .directory _ => walkFrom tree levels inside below
          | .link _ =>
            if (tree.locate below).toOption.any inside.contains then [.unreadable below]
            else walkFrom tree levels inside below
      | _ => [.unreadable path]

/-- A number of levels no walk goes below: between two links it goes down the tree, and each link
leads to another directory. -/
def levelBound (tree : FileTree) : Nat := (tree.top.size + 1) * (tree.top.size + 1)

def walk (tree : FileTree) (root : String) : List Found := tree.walkFrom tree.levelBound [] root

end FileTree

namespace Path

def same (a b : String) : Bool := components a = components b

/-- The paths of a list in order, the first one of those that are the same. -/
def inOrder (paths : List String) : List String :=
  (paths.mergeSort fun a b => (compare a b).isLE).eraseRepsBy same

end Path

/-- The files that have one of some extensions among what walks come across from some roots. -/
def collectFrom (walk : (root : String) → List Found) (roots extensions : List String) :
    List String :=
  Path.inOrder <|
    ((roots.flatMap walk).filterMap Found.file?).filter (Path.hasExtension · extensions)

def FileTree.collect (tree : FileTree) (roots extensions : List String) : List String :=
  collectFrom tree.walk roots extensions

end KindDispatch
