import KindDispatch.Proofs.Corpus.Loading
import KindDispatch.Proofs.Files.Collected

/-!
# Spellings of roots

Paths that are collected are told apart by how they are written.  Where there are no links, a path
that was collected is a root and names behind it, and it leads to what these names lead to from the
root.  So a file is collected once if the roots that lead to it are written alike.
-/

namespace KindDispatch

namespace FileTree

/-- What a file that is below a path is called, and where it is. -/
structure IsBelow (tree : FileTree) (path file : String) (place rest : Location) : Prop where
  located : tree.locate path = .ok place
  components : Path.components file = Path.components path ++ rest.map .name
  leads (goal : Location) : tree.locate file = .ok goal → goal = place ++ rest

section Linkless

variable {tree : FileTree} (wellFormed : tree.top.wellFormed) (linkless : tree.top.linkless)
include wellFormed linkless

private theorem eq_of_locate_join {path name : String} {place goal : Location}
    {entries : List (String × Entry)} {entry : Entry} (located : tree.locate path = .ok place)
    (found : tree.top.find? place = some (.directory entries)) (member : (name, entry) ∈ entries)
    (leads : tree.locate (Path.join path name) = .ok goal) : goal = place ++ [name] := by
  obtain ⟨place', entries', entry', located', found', present, child⟩ :=
    of_locate_join (ne_empty_of_locate located) (Entry.isName_of_mem wellFormed found member) leads
  obtain rfl : place = place' := by simpa [located] using located'
  have noLink : (!entry'.isLink) = true := by
    rw [← Entry.find?_snoc found'] at present
    exact Entry.test_of_all (Entry.all_of_find? linkless present)
  exact child (by simpa using noLink)

private theorem isBelow_of_reaches {above : List Location} {path file : String}
    (reaches : tree.Reaches above path file) : ∃ place rest, tree.IsBelow path file place rest := by
  induction reaches with
  | @here _ path place _ located found =>
      exact ⟨place, [], located, by simp, fun goal leads => by simpa [located] using leads.symm⟩
  | @entry _ path place entries name _ located found member =>
      have named := Entry.isName_of_mem wellFormed found member
      exact ⟨place, [name], located, Path.components_join (ne_empty_of_locate located) named,
        fun goal => eq_of_locate_join wellFormed linkless located found member⟩
  | @deeper _ path file place entries name entry located found member _ _ ih =>
      obtain ⟨below, rest, located', components, leads⟩ := ih
      have named := Entry.isName_of_mem wellFormed found member
      obtain rfl := eq_of_locate_join wellFormed linkless located found member located'
      refine ⟨place, name :: rest, located, ?_, fun goal arrives => ?_⟩
      · rw [components, Path.components_join (ne_empty_of_locate located) named]
        simp
      · simpa using leads goal arrives

private theorem isBelow_of_mem_collect {roots extensions : List String} {file : String}
    (member : file ∈ tree.collect roots extensions) :
    ∃ root ∈ roots, ∃ place rest, tree.IsBelow root file place rest := by
  obtain ⟨root, among, yielded, -⟩ :=
    (collects_collectFrom tree.walk roots extensions).found file member
  exact ⟨root, among,
    isBelow_of_reaches wellFormed linkless ((mem_walk_iff wellFormed).mp yielded)⟩

end Linkless

/-! ## Files that are collected once -/

/-- A root that leads into another one, or to the same place, is written as the other and the names
on the way. -/
def SpelledAlike (tree : FileTree) (roots : List String) : Prop :=
  ∀ outer ∈ roots, ∀ inner ∈ roots, ∀ place rest, tree.locate outer = .ok place →
    tree.locate inner = .ok (place ++ rest) →
      Path.components inner = Path.components outer ++ rest.map .name

private theorem components_eq_of_isBelow {tree : FileTree} {roots : List String}
    (alike : tree.SpelledAlike roots) {root root' file file' : String}
    {place place' rest rest' : Location} (among : root ∈ roots) (among' : root' ∈ roots)
    (below : tree.IsBelow root file place rest) (below' : tree.IsBelow root' file' place' rest')
    (same : place ++ rest = place' ++ rest') : Path.components file = Path.components file' := by
  rw [below.components, below'.components]
  rcases List.append_eq_append_iff.mp same with ⟨between, rfl, rfl⟩ | ⟨between, rfl, rfl⟩
  · rw [alike root among root' among' place between below.located below'.located]
    simp
  · rw [alike root' among' root among place' between below'.located below.located]
    simp

/-- Where there are no links and the roots are written alike, no two paths that are collected lead
to the same file, and no file is parsed twice. -/
theorem collects_each_file_once (tree : FileTree) (roots extensions : List String)
    (wellFormed : tree.top.wellFormed) (linkless : tree.top.linkless)
    (alike : tree.SpelledAlike roots) :
    let paths := tree.collect roots extensions
    paths.Pairwise (fun path path' =>
      ∀ place, tree.locate path = .ok place → tree.locate path' ≠ .ok place) ∧
    (Corpus.ofPaths tree.read paths).files.Pairwise (fun file file' =>
      ∀ place, tree.locate file.path = .ok place → tree.locate file'.path ≠ .ok place) := by
  intro paths
  have once : paths.Pairwise fun path path' =>
      ∀ place, tree.locate path = .ok place → tree.locate path' ≠ .ok place := by
    refine (collects_collectFrom tree.walk roots extensions).ascending.imp_of_mem ?_
    intro path path' member member' less place leads leads'
    obtain ⟨root, among, start, rest, below⟩ := isBelow_of_mem_collect wellFormed linkless member
    obtain ⟨root', among', start', rest', below'⟩ :=
      isBelow_of_mem_collect wellFormed linkless member'
    have same := (below.leads place leads).symm.trans (below'.leads place leads')
    have equal := components_eq_of_isBelow alike among among' below below' same
    rw [Path.compare_eq_iff.mpr equal] at less
    contradiction
  exact ⟨once, List.pairwise_map.mp (once.sublist (Corpus.sublist_paths tree.read paths))⟩

theorem collects_file_below_two_roots_once :
    let tree : FileTree := ⟨.directory [("src", .directory [("a.rs", .file [])])], []⟩
    let paths := tree.collect [".", "./src", "."] ["rs"]
    tree.top.wellFormed ∧ tree.top.linkless ∧ tree.SpelledAlike [".", "./src", "."] ∧
      paths.Pairwise (fun path path' =>
        ∀ place, tree.locate path = .ok place → tree.locate path' ≠ .ok place) := by
  intro tree paths
  have wellFormed : tree.top.wellFormed := by decide +kernel
  have linkless : tree.top.linkless := by decide +kernel
  have top : tree.locate "." = .ok [] := by rfl
  have below : tree.locate "./src" = .ok ["src"] := by rfl
  have alike : tree.SpelledAlike [".", "./src", "."] := by
    intro outer among inner among' place rest leads leads'
    simp only [List.mem_cons, List.not_mem_nil] at among among'
    have hrest : (outer = "." ∧ inner = "./src" ∧ rest = ["src"]) ∨
        (outer = inner ∧ rest = []) := by
      rcases among with rfl | rfl | rfl | h <;> rcases among' with rfl | rfl | rfl | h' <;>
        simp_all
    rcases hrest with ⟨rfl, rfl, rfl⟩ | ⟨rfl, rfl⟩
    · decide +kernel
    · simp
  exact ⟨wellFormed, linkless, alike,
    (collects_each_file_once tree _ ["rs"] wellFormed linkless alike).1⟩

/-- Roots that are not written alike: one file is collected under two paths, and parsed twice. -/
theorem collects_file_twice :
    let tree : FileTree := ⟨.directory [("src", .directory [("a.rs", .file [])])], []⟩
    let paths := tree.collect [".", "src"] ["rs"]
    tree.top.wellFormed ∧ tree.top.linkless ∧ paths = ["./src/a.rs", "src/a.rs"] ∧
      tree.locate "./src/a.rs" = .ok ["src", "a.rs"] ∧
      tree.locate "src/a.rs" = .ok ["src", "a.rs"] ∧
      (Corpus.ofPaths tree.read paths).files.map ParsedFile.path =
        ["./src/a.rs", "src/a.rs"] := by
  intro tree paths
  have candidates : (([".", "src"].flatMap tree.walk).filterMap Found.file?).filter
      (Path.hasExtension · ["rs"]) = ["./src/a.rs", "src/a.rs"] := by decide +kernel
  have collected : paths = ["./src/a.rs", "src/a.rs"] := by
    simp only [paths, collect, collectFrom, candidates]
    exact Path.inOrder_eq_self (by decide +kernel)
  rw [collected]
  exact ⟨by decide +kernel, by decide +kernel, rfl, by rfl, by rfl, by decide +kernel⟩

end FileTree

end KindDispatch
