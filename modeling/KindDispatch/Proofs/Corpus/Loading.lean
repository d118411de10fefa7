import KindDispatch.Corpus
import KindDispatch.Proofs.Files.Encoding
import Mathlib.Algebra.Ring.Nat
import Mathlib.Data.List.Forall2

/-!
# Loading

Each file of a corpus becomes a parsed or a skipped one by its own path and bytes, and the corpus
is what the files become, in order.
-/

namespace KindDispatch.Corpus

/-- What can become of the file at a path, given its bytes or why it cannot be read. -/
inductive Becomes (path : String) :
    Except FileError (List UInt8) → ParsedFile ⊕ SkippedFile → Prop
  | parsed {text : String} {forest : Forest} (parses : Source.parse text = .ok forest) :
      Becomes path (.ok (Utf8.encode text)) (.inl ⟨path, (Utf8.encode text).length, forest⟩)
  | unparseable {text : String} {failure : Source.ParseFailure}
      (fails : Source.parse text = .error failure) :
      Becomes path (.ok (Utf8.encode text))
        (.inr ⟨path, .parseError failure.line failure.column failure.message⟩)
  | notText {bytes : List UInt8} {failure : Utf8.Failure}
      (invalid : ∀ text, bytes ≠ Utf8.encode text) (fails : Utf8.decode bytes = .error failure) :
      Becomes path (.ok bytes) (.inr ⟨path, .unreadable ("not valid UTF-8: " ++ failure.message)⟩)
  | unreadable (error : FileError) :
      Becomes path (.error error) (.inr ⟨path, .unreadable error.message⟩)

def readBytes (content : Except FileError (List UInt8)) : Nat :=
  match content with
  | .ok bytes => bytes.length
  | .error _ => 0

/-! ## One file -/

private theorem exists_becomes (path : String) (content : Except FileError (List UInt8)) :
    ∃ outcome, Becomes path content outcome := by
  cases content with
  | error error => exact ⟨_, .unreadable error⟩
  | ok bytes =>
      cases decoded : Utf8.decode bytes with
      | error failure =>
          refine ⟨_, .notText (fun text encoded => ?_) decoded⟩
          simp [Utf8.decode_eq_ok_iff.mpr encoded] at decoded
      | ok text =>
          obtain rfl := Utf8.decode_eq_ok_iff.mp decoded
          cases parsed : Source.parse text with
          | error failure => exact ⟨_, .unparseable parsed⟩
          | ok forest => exact ⟨_, .parsed parsed⟩

private theorem loadFile_of_becomes {path : String} {content : Except FileError (List UInt8)}
    {outcome : ParsedFile ⊕ SkippedFile} (becomes : Becomes path content outcome)
    (corpus : Corpus) :
    corpus.loadFile path content = ⟨corpus.files ++ outcome.getLeft?.toList,
      corpus.skipped ++ outcome.getRight?.toList, corpus.sourceBytes + readBytes content⟩ := by
  have decoded (text : String) : Utf8.decode (Utf8.encode text) = .ok text :=
    Utf8.decode_eq_ok_iff.mpr rfl
  cases becomes with
  | parsed parses => simp [loadFile, decoded, parses, addFile, addBytes, readBytes]
  | unparseable fails => simp [loadFile, decoded, fails, skip, addBytes, readBytes]
  | notText _ fails => simp [loadFile, fails, skip, addBytes, readBytes]
  | unreadable error => simp [loadFile, skip, readBytes]

theorem Becomes.unique {path : String} {content : Except FileError (List UInt8)}
    {outcome other : ParsedFile ⊕ SkippedFile} (becomes : Becomes path content outcome)
    (becomes' : Becomes path content other) : outcome = other := by
  -- what a file becomes can be seen from the corpus of this file alone
  have same := (loadFile_of_becomes becomes empty).symm.trans (loadFile_of_becomes becomes' empty)
  cases outcome <;> cases other <;> simp_all [empty]

/-! ## All files -/

abbrev AllBecome (read : String → Except FileError (List UInt8)) (paths : List String)
    (outcomes : List (ParsedFile ⊕ SkippedFile)) : Prop :=
  List.Forall₂ (fun path outcome => Becomes path (read path) outcome) paths outcomes

variable {read : String → Except FileError (List UInt8)}

private theorem foldl_loadFile {paths : List String} {outcomes : List (ParsedFile ⊕ SkippedFile)}
    (become : AllBecome read paths outcomes) (corpus : Corpus) :
    paths.foldl (fun corpus path => corpus.loadFile path (read path)) corpus =
      ⟨corpus.files ++ outcomes.filterMap Sum.getLeft?,
        corpus.skipped ++ outcomes.filterMap Sum.getRight?,
        corpus.sourceBytes + (paths.map fun path => readBytes (read path)).sum⟩ := by
  induction become generalizing corpus with
  | nil => simp
  | @cons path outcome paths outcomes becomes _ ih =>
      rw [List.foldl_cons, loadFile_of_becomes becomes, ih]
      cases outcome <;> simp [List.filterMap_cons, Nat.add_assoc]

theorem ofPaths_eq {paths : List String} {outcomes : List (ParsedFile ⊕ SkippedFile)}
    (become : AllBecome read paths outcomes) :
    ofPaths read paths = ⟨outcomes.filterMap Sum.getLeft?, outcomes.filterMap Sum.getRight?,
      (paths.map fun path => readBytes (read path)).sum⟩ := by
  rw [ofPaths, foldl_loadFile become]
  simp [empty]

private theorem become_iff {paths : List String} {outcomes : List (ParsedFile ⊕ SkippedFile)}
    (become : AllBecome read paths outcomes) (others : List (ParsedFile ⊕ SkippedFile)) :
    AllBecome read paths others ↔ others = outcomes := by
  refine ⟨fun become' => ?_, fun same => same ▸ become⟩
  have single : Relator.RightUnique fun path outcome => Becomes path (read path) outcome :=
    fun _ _ _ => Becomes.unique
  exact single.forall₂ become' become

private theorem exists_become (read : String → Except FileError (List UInt8))
    (paths : List String) : ∃ outcomes, AllBecome read paths outcomes := by
  induction paths with
  | nil => exact ⟨[], .nil⟩
  | cons path paths ih =>
      obtain ⟨outcome, becomes⟩ := exists_becomes path (read path)
      obtain ⟨outcomes, become⟩ := ih
      exact ⟨outcome :: outcomes, .cons becomes become⟩

private theorem sum_readBytes (paths : List String) :
    (paths.map fun path => readBytes (read path)).sum =
    ((paths.filterMap fun path => (read path).toOption).map List.length).sum := by
  induction paths with
  | nil => rfl
  | cons path paths ih =>
      rw [List.map_cons, List.sum_cons, ih, List.filterMap_cons]
      cases read path with
      | error error => exact Nat.zero_add _
      | ok bytes => rfl

private theorem Becomes.path_eq {path : String} {content : Except FileError (List UInt8)}
    {file : ParsedFile} (becomes : Becomes path content (.inl file)) : file.path = path := by
  cases becomes
  rfl

theorem sublist_paths (read : String → Except FileError (List UInt8)) (paths : List String) :
    ((ofPaths read paths).files.map ParsedFile.path).Sublist paths := by
  obtain ⟨outcomes, become⟩ := exists_become read paths
  rw [ofPaths_eq become]
  induction become with
  | nil => exact .slnil
  | @cons path outcome paths outcomes becomes _ ih =>
      cases outcome with
      | inl file =>
          rw [List.filterMap_cons, Sum.getLeft?, List.map_cons, becomes.path_eq]
          exact ih.cons_cons path
      | inr file => exact ih.cons path

def Parses (content : Except FileError (List UInt8)) : Prop :=
  ∃ text forest, content = .ok (Utf8.encode text) ∧ Source.parse text = .ok forest

private theorem parses_iff {path : String} {content : Except FileError (List UInt8)}
    {outcome : ParsedFile ⊕ SkippedFile} (becomes : Becomes path content outcome) :
    Parses content ↔ outcome.isLeft := by
  constructor
  · rintro ⟨text, forest, rfl, parses⟩
    rw [becomes.unique (.parsed parses)]
    rfl
  · intro parsed
    cases becomes with
    | parsed parses => exact ⟨_, _, rfl, parses⟩
    | _ => contradiction

private theorem files_eq_nil_iff {paths : List String} :
    (ofPaths read paths).files = [] ↔ ¬∃ path ∈ paths, Parses (read path) := by
  obtain ⟨outcomes, become⟩ := exists_become read paths
  rw [ofPaths_eq become]
  induction become with
  | nil => simp
  | @cons path outcome paths outcomes becomes _ ih =>
      have parses := parses_iff becomes
      cases outcome <;> simp_all [List.filterMap_cons]

/-- Each file becomes a parsed or a skipped one, by its own bytes only; those are the files of the
corpus, in order.  Every byte that could be read is counted, and every node.  It is a failure if
there is no file that parses, and only then. -/
theorem ofPaths_accounts (read : String → Except FileError (List UInt8)) (paths : List String)
    (roots : String) : ∃ outcomes : List (ParsedFile ⊕ SkippedFile),
      (∀ others, AllBecome read paths others ↔ others = outcomes) ∧
      ofPaths read paths = ⟨outcomes.filterMap Sum.getLeft?, outcomes.filterMap Sum.getRight?,
        ((paths.filterMap fun path => (read path).toOption).map List.length).sum⟩ ∧
      (ofPaths read paths).nodeCount =
        ((ofPaths read paths).files.map fun file => file.forest.size).sum ∧
      ((∃ path ∈ paths, Parses (read path)) →
        ofPaths? read paths roots = .ok (ofPaths read paths)) ∧
      (ofPaths? read paths roots = .error (.noInput roots) ↔
        ¬∃ path ∈ paths, Parses (read path)) := by
  obtain ⟨outcomes, become⟩ := exists_become read paths
  refine ⟨outcomes, become_iff become, ?_, ?_, fun parses => ?_, ?_⟩
  · rw [ofPaths_eq become, sum_readBytes]
  · simp [nodeCount, forests, Forest.totalSize, List.sum, Function.comp_def]
  · rw [ofPaths?, isEmpty, if_neg]
    simpa [files_eq_nil_iff] using parses
  · rw [← files_eq_nil_iff]
    by_cases none : (ofPaths read paths).files = [] <;> simp [ofPaths?, isEmpty, none]

theorem ofPaths_accounts_mixed :
    let read (path : String) : Except FileError (List UInt8) :=
      if path = "a.rs" then .ok (Utf8.encode "fn a() {}")
      else if path = "b.rs" then .ok [0xFF]
      else if path = "c.rs" then .ok (Utf8.encode "fn 1")
      else .error .notFound
    let paths := ["d.rs", "c.rs", "b.rs", "a.rs"]
    (∃ path ∈ paths, Parses (read path)) ∧
      ofPaths? read paths "src" = .ok (ofPaths read paths) ∧
      (ofPaths read paths).sourceBytes = 14 ∧
      (ofPaths read paths).files.map ParsedFile.path = ["a.rs"] ∧
      (ofPaths read paths).skipped.map SkippedFile.path = ["d.rs", "c.rs", "b.rs"] := by
  intro read paths
  have parses : ∃ path ∈ paths, Parses (read path) :=
    ⟨"a.rs", by decide, "fn a() {}", [⟨.function, some "a", 1, []⟩], rfl, by decide +kernel⟩
  obtain ⟨_, -, accounts, -, loads, -⟩ := ofPaths_accounts read paths "src"
  refine ⟨parses, loads parses, ?_, by decide +kernel, by decide +kernel⟩
  rw [accounts]
  show List.sum _ = 14
  decide +kernel

end KindDispatch.Corpus
