import KindDispatch.Config
import KindDispatch.Files.Collect
import KindDispatch.Files.Utf8
import KindDispatch.Report.Basic
import KindDispatch.Source.Parse

/-!
# Corpora

A corpus is what could be parsed of the files below the source roots.  A file that cannot be read,
is no text or does not parse is left out and recorded; it never keeps another file out.
-/

namespace KindDispatch

structure ParsedFile where
  path : String
  bytes : Nat
  forest : Forest
deriving DecidableEq, Repr, Inhabited

structure Corpus where
  files : List ParsedFile
  skipped : List SkippedFile
  /-- Bytes of every file that could be read. -/
  sourceBytes : Nat
deriving DecidableEq, Repr, Inhabited

namespace Corpus

def empty : Corpus := ⟨[], [], 0⟩

def addBytes (corpus : Corpus) (bytes : Nat) : Corpus :=
  { corpus with sourceBytes := corpus.sourceBytes + bytes }

def addFile (corpus : Corpus) (file : ParsedFile) : Corpus :=
  { corpus with files := corpus.files ++ [file] }

def skip (corpus : Corpus) (path : String) (reason : SkipReason) : Corpus :=
  { corpus with skipped := corpus.skipped ++ [⟨path, reason⟩] }

/-- Adds the file at a path, given its bytes or why it cannot be read, or skips it.  The bytes count
as soon as they are read. -/
def loadFile (corpus : Corpus) (path : String) (content : Except FileError (List UInt8)) :
    Corpus :=
  match content with
  | .error error => corpus.skip path (.unreadable error.message)
  | .ok bytes =>
    let corpus := corpus.addBytes bytes.length
    match Utf8.decode bytes with
    | .error failure => corpus.skip path (.unreadable ("not valid UTF-8: " ++ failure.message))
    | .ok text =>
      match Source.parse text with
      | .ok forest => corpus.addFile ⟨path, text.utf8ByteSize, forest⟩
      | .error failure =>
        corpus.skip path (.parseError failure.line failure.column failure.message)

def ofPaths (read : (path : String) → Except FileError (List UInt8)) (paths : List String) :
    Corpus :=
  paths.foldl (fun corpus path => corpus.loadFile path (read path)) empty

def isEmpty (corpus : Corpus) : Bool := corpus.files.isEmpty

def forests (corpus : Corpus) : List Forest := corpus.files.map ParsedFile.forest

def nodeCount (corpus : Corpus) : Nat := Forest.totalSize corpus.forests

def ofPaths? (read : (path : String) → Except FileError (List UInt8)) (paths : List String)
    (roots : String) : Except BenchError Corpus :=
  let corpus := ofPaths read paths
  if corpus.isEmpty then .error (.noInput roots) else .ok corpus

def load (tree : FileTree) (config : Config) : Except BenchError Corpus :=
  ofPaths? tree.read (tree.collect config.roots config.extensions) config.rootsDisplay

end Corpus

end KindDispatch
