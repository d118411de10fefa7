import KindDispatch.Proofs.Files.Alike
import KindDispatch.Proofs.Files.Order

/-!
# Collected files

What is collected is a set of paths in order: the files with a right extension that some walk comes
across.  Neither the order of the roots, of the extensions and of what a walk comes across matters,
nor how often something is in them, nor what a walk cannot read.
-/

namespace KindDispatch

namespace Path

/-! ## Extensions -/

theorem nameHasExtension_iff {name ext : List Char} :
    nameHasExtension name ext = true ↔ ∃ stem, stem ≠ [] ∧ name = stem ++ '.' :: ext := by
  simp only [nameHasExtension, Bool.and_eq_true, List.isSuffixOf_iff_suffix, decide_eq_true_eq,
    List.getLast?_eq_some_iff]
  constructor
  · rintro ⟨⟨⟨front, rfl⟩, long⟩, stem, dotted⟩
    rw [List.length_append, Nat.add_sub_cancel, List.take_left] at long dotted
    subst dotted
    refine ⟨stem, ?_, by simp⟩
    rintro rfl
    simp at long
  · rintro ⟨stem, nonempty, rfl⟩
    have front : (stem ++ '.' :: ext).take ((stem ++ '.' :: ext).length - ext.length) =
        stem ++ ['.'] := by
      rw [← List.singleton_append, ← List.append_assoc, List.length_append, Nat.add_sub_cancel,
        List.take_left]
    rw [front]
    refine ⟨⟨⟨stem ++ ['.'], by simp⟩, ?_⟩, stem, rfl⟩
    simpa [Nat.pos_iff_ne_zero] using nonempty

theorem nameHasExtension_toList_iff {name ext : String} :
    nameHasExtension name.toList ext.toList = true ↔
      ∃ stem, stem ≠ "" ∧ name = stem ++ "." ++ ext := by
  rw [nameHasExtension_iff]
  constructor
  · rintro ⟨stem, nonempty, split⟩
    refine ⟨String.ofList stem, by simpa using nonempty, String.toList_injective ?_⟩
    simp [split]
  · rintro ⟨stem, nonempty, rfl⟩
    exact ⟨stem.toList, by simpa using nonempty, by simp⟩

theorem hasExtension_iff {path : String} {extensions : List String} :
    hasExtension path extensions = true ↔ ∃ stem ext, stem ≠ "" ∧ ext ∈ extensions ∧
      fileName? path = some (stem ++ "." ++ ext) := by
  cases named : fileName? path with
  | none => simp [hasExtension, named]
  | some name =>
      simp only [hasExtension, named, List.any_eq_true, nameHasExtension_toList_iff,
        Option.some.injEq]
      constructor
      · rintro ⟨ext, member, stem, nonempty, split⟩
        exact ⟨stem, ext, nonempty, member, split⟩
      · rintro ⟨stem, ext, nonempty, member, split⟩
        exact ⟨ext, member, stem, nonempty, split⟩

theorem hasExtension_congr {extensions extensions' : List String}
    (alike : ∀ ext, ext ∈ extensions ↔ ext ∈ extensions') (path : String) :
    hasExtension path extensions = hasExtension path extensions' := by
  rw [Bool.eq_iff_iff, hasExtension_iff, hasExtension_iff]
  simp only [alike]

end Path

/-! ## Collecting -/

private theorem Found.file?_eq_some_iff {found : Found} {path : String} :
    found.file? = some path ↔ found = .file path := by
  cases found <;> simp [Found.file?]

private theorem mem_candidates {walk : String → List Found} {roots extensions : List String}
    {path : String} :
    path ∈ ((roots.flatMap walk).filterMap Found.file?).filter (Path.hasExtension · extensions) ↔
      ∃ root ∈ roots, .file path ∈ walk root ∧ Path.hasExtension path extensions := by
  simp only [List.mem_filter, List.mem_filterMap, List.mem_flatMap, Found.file?_eq_some_iff,
    exists_eq_right]
  constructor
  · rintro ⟨⟨root, member, yielded⟩, matching⟩
    exact ⟨root, member, yielded, matching⟩
  · rintro ⟨root, member, yielded, matching⟩
    exact ⟨⟨root, member, yielded⟩, matching⟩

theorem collectFrom_congr {walk walk' : String → List Found}
    {roots roots' extensions extensions' : List String}
    (sameRoots : ∀ root, root ∈ roots ↔ root ∈ roots')
    (sameExtensions : ∀ ext, ext ∈ extensions ↔ ext ∈ extensions')
    (sameFiles : ∀ root ∈ roots, ∀ path, .file path ∈ walk root ↔ .file path ∈ walk' root) :
    (collectFrom walk roots extensions).map Path.components =
      (collectFrom walk' roots' extensions').map Path.components := by
  refine Path.inOrder_congr fun path => ?_
  simp only [List.mem_map, mem_candidates, Path.hasExtension_congr sameExtensions, ← sameRoots]
  refine exists_congr fun found => and_congr_left fun _ => exists_congr fun root =>
    and_congr_right fun member => ?_
  rw [sameFiles root member]

/-- A list of paths is what is to be collected: the files with a right extension that a walk comes
across from some root, each path once and in order. -/
structure Collects (walk : String → List Found) (roots extensions paths : List String) : Prop where
  ascending : paths.Pairwise fun a b => Path.compare a b = .lt
  found : ∀ path ∈ paths, ∃ root ∈ roots, .file path ∈ walk root ∧ Path.hasExtension path extensions
  complete : ∀ root ∈ roots, ∀ path, .file path ∈ walk root → Path.hasExtension path extensions →
    ∃ kept ∈ paths, Path.components kept = Path.components path

theorem collects_collectFrom (walk : String → List Found) (roots extensions : List String) :
    Collects walk roots extensions (collectFrom walk roots extensions) where
  ascending := Path.pairwise_inOrder _
  found _ member := mem_candidates.mp (Path.mem_of_mem_inOrder member)
  complete root member _ yielded matching :=
    Path.exists_mem_inOrder (mem_candidates.mpr ⟨root, member, yielded, matching⟩)

/-- What is collected is a set of paths in order.  It is the same for the same sets of roots, of
extensions and of files that a walk comes across, whatever else the walk comes across, and so for
trees whose directories are read in another order. -/
theorem collectFrom_canonical (walk : String → List Found) (roots extensions : List String) :
    Collects walk roots extensions (collectFrom walk roots extensions) ∧
    (∀ walk' : String → List Found,
      (∀ root, (walk' root).filterMap Found.file? = (walk root).filterMap Found.file?) →
      collectFrom walk' roots extensions = collectFrom walk roots extensions) ∧
    ∀ roots' extensions' : List String,
      (∀ root, root ∈ roots ↔ root ∈ roots') → (∀ ext, ext ∈ extensions ↔ ext ∈ extensions') →
      (∀ walk' : String → List Found,
        (∀ root ∈ roots, ∀ path, .file path ∈ walk root ↔ .file path ∈ walk' root) →
        (collectFrom walk' roots' extensions').map Path.components =
          (collectFrom walk roots extensions).map Path.components) ∧
      ∀ tree other : FileTree, tree.top.wellFormed → other.top.wellFormed → tree.Alike other →
        (other.collect roots' extensions').map Path.components =
          (tree.collect roots extensions).map Path.components := by
  refine ⟨collects_collectFrom _ _ _, fun walk' readable => ?_,
    fun roots' extensions' sameRoots sameExtensions => ⟨fun walk' sameFiles => ?_,
      fun tree other wellFormed wellFormed' alike => ?_⟩⟩
  · simp only [collectFrom, List.filterMap_flatMap, readable]
  · exact (collectFrom_congr sameRoots sameExtensions sameFiles).symm
  · exact (collectFrom_congr sameRoots sameExtensions fun root _ path =>
      alike.mem_walk_iff wellFormed wellFormed').symm

theorem collects_two_roots_in_any_order :
    let walk (root : String) : List Found :=
      [.directory root, .file (Path.join root "notes"), .file (Path.join root "a.rs")]
    let walk' (root : String) : List Found :=
      [.file (Path.join root "a.rs"), .unreadable (Path.join root "locked"),
        .file (Path.join root "notes")]
    let entries := [("b.rs", Entry.file []), ("src", .directory [("a.rs", .file [])])]
    collectFrom walk [".", "src"] ["rs", "toml"] = ["./a.rs", "src/a.rs"] ∧
      (collectFrom walk' ["src", ".", "src"] ["toml", "rs"]).map Path.components =
        (collectFrom walk [".", "src"] ["rs", "toml"]).map Path.components ∧
      (FileTree.collect ⟨.directory entries.reverse, []⟩ ["src", ".", "src"] ["toml", "rs"]).map
          Path.components =
        (FileTree.collect ⟨.directory entries, []⟩ [".", "src"] ["rs", "toml"]).map
          Path.components := by
  intro walk walk' entries
  have sameRoots (root : String) : root ∈ [".", "src"] ↔ root ∈ ["src", ".", "src"] := by
    simp only [List.mem_cons, List.not_mem_nil]
    grind
  have sameExtensions (ext : String) : ext ∈ ["rs", "toml"] ↔ ext ∈ ["toml", "rs"] := by
    simp [or_comm]
  obtain ⟨-, -, same⟩ := collectFrom_canonical walk [".", "src"] ["rs", "toml"]
  obtain ⟨sameWalks, sameTrees⟩ := same _ _ sameRoots sameExtensions
  refine ⟨?_, sameWalks walk' fun root _ path => ?_, ?_⟩
  · have candidates : (([".", "src"].flatMap walk).filterMap Found.file?).filter
        (Path.hasExtension · ["rs", "toml"]) = ["./a.rs", "src/a.rs"] := by decide +kernel
    rw [collectFrom, candidates]
    exact Path.inOrder_eq_self (by decide +kernel)
  · simp [walk, walk', or_comm]
  · have wellFormed : (Entry.directory entries).wellFormed := by decide +kernel
    have wellFormed' : (Entry.directory entries.reverse).wellFormed := by decide +kernel
    exact sameTrees _ _ wellFormed wellFormed'
      (.of_perm wellFormed wellFormed' entries.reverse_perm.symm [])

end KindDispatch
