import KindDispatch.Files.Collect
import KindDispatch.Proofs.Files.Places

/-!
# Files that can be reached

`FileTree.Reaches` says which files can be reached below a path, without a bound.  A walk of a
well-formed tree comes across these files and no others, because no way is longer than its bound: it
goes down the tree, or follows a link to a directory it is not in.
-/

namespace KindDispatch.FileTree

/-- Whether a walk that is in some directories goes on at an entry. -/
def Enters (tree : FileTree) (inside : List Location) (path : String) : Entry → Prop
  | .file _ => False
  | .directory _ => True
  | .link _ => ∀ place, tree.locate path = .ok place → place ∉ inside

/-- The files that can be reached below a path from inside the directories `above`. -/
inductive Reaches (tree : FileTree) : (above : List Location) → (path file : String) → Prop
  | here {above : List Location} {path : String} {place : Location} {content : List UInt8}
    (located : tree.locate path = .ok place)
    (found : tree.top.find? place = some (.file content)) : Reaches tree above path path
  | entry {above : List Location} {path : String} {place : Location}
    {entries : List (String × Entry)} {name : String} {content : List UInt8}
    (located : tree.locate path = .ok place)
    (found : tree.top.find? place = some (.directory entries))
    (member : (name, .file content) ∈ entries) : Reaches tree above path (Path.join path name)
  | deeper {above : List Location} {path file : String} {place : Location}
    {entries : List (String × Entry)} {name : String} {entry : Entry}
    (located : tree.locate path = .ok place)
    (found : tree.top.find? place = some (.directory entries)) (member : (name, entry) ∈ entries)
    (enters : tree.Enters (place :: above) (Path.join path name) entry)
    (later : Reaches tree (place :: above) (Path.join path name) file) : Reaches tree above path file

/-! ## Steps of a walk -/

section Walk

variable {tree : FileTree} {levels : Nat} {above : List Location} {path file : String}
  {place : Location} (located : tree.locate path = .ok place)
include located

private theorem mem_walkFrom_of_file {content : List UInt8}
    (found : tree.top.find? place = some (.file content)) :
    .file file ∈ tree.walkFrom (levels + 1) above path ↔ file = path := by
  simp [walkFrom, located, found]

private theorem mem_walkFrom_of_directory {entries : List (String × Entry)}
    (found : tree.top.find? place = some (.directory entries)) :
    .file file ∈ tree.walkFrom (levels + 1) above path ↔ ∃ name entry, (name, entry) ∈ entries ∧
      ((∃ content, entry = .file content ∧ file = Path.join path name) ∨
        tree.Enters (place :: above) (Path.join path name) entry ∧
          .file file ∈ tree.walkFrom levels (place :: above) (Path.join path name)) := by
  simp only [walkFrom, located, found, List.mem_cons, reduceCtorEq, false_or, List.mem_flatMap,
    Prod.exists]
  refine exists_congr fun name => exists_congr fun entry => and_congr_right fun _ => ?_
  generalize place :: above = inside
  cases entry with
  | file content => simp [Enters]
  | directory entries => simp [Enters]
  | link target =>
      cases leads : tree.locate (Path.join path name) with
      | error error => simp [Enters, leads, Except.toOption]
      | ok goal =>
          by_cases within : goal ∈ inside
          · simp [Enters, leads, Except.toOption, within]
          · simp [Enters, leads, Except.toOption, within]

end Walk

private theorem reaches_of_mem_walkFrom {tree : FileTree} {levels : Nat} {above : List Location}
    {path file : String} (member : .file file ∈ tree.walkFrom levels above path) :
    tree.Reaches above path file := by
  induction levels generalizing above path with
  | zero => simp [walkFrom] at member
  | succ levels ih =>
      cases located : tree.locate path with
      | error error => simp [walkFrom, located] at member
      | ok place =>
          cases found : tree.top.find? place with
          | none => simp [walkFrom, located, found] at member
          | some entry =>
              cases entry with
              | file content =>
                  obtain rfl := (mem_walkFrom_of_file located found).mp member
                  exact .here located found
              | link target => simp [walkFrom, located, found] at member
              | directory entries =>
                  obtain ⟨name, entry, among, ⟨content, rfl, rfl⟩ | ⟨enters, later⟩⟩ :=
                    (mem_walkFrom_of_directory located found).mp member
                  · exact .entry located found among
                  · exact .deeper located found among enters (ih later)

/-! ## Levels of a walk -/

def outside (tree : FileTree) (inside : List Location) : List Location :=
  tree.top.directories.filter (· ∉ inside)

/-- A bound of the levels below a directory: those that are left above the deepest entry, and that
many again for each directory a link can lead to. -/
def room (tree : FileTree) (above : List Location) (place : Location) : Nat :=
  (tree.outside (place :: above)).length * (tree.top.size + 1) + (tree.top.size - place.length)

private theorem length_outside_cons_le (tree : FileTree) (place : Location)
    (inside : List Location) :
    (tree.outside (place :: inside)).length ≤ (tree.outside inside).length := by
  refine List.Sublist.length_le (List.monotone_filter_right _ fun other apart => ?_)
  simp_all

private theorem length_outside_cons_lt {tree : FileTree} {place : Location} {inside : List Location}
    {entries : List (String × Entry)} (found : tree.top.find? place = some (.directory entries))
    (new : place ∉ inside) :
    (tree.outside (place :: inside)).length < (tree.outside inside).length := by
  have split : tree.outside (place :: inside) = (tree.outside inside).filter (· ≠ place) := by
    rw [outside, outside, List.filter_filter]
    congr
    funext other
    simp
  rw [split]
  refine List.length_filter_lt_length_iff_exists.mpr ⟨place, ?_, by simp⟩
  exact List.mem_filter.mpr ⟨Entry.mem_directories found, by simpa using new⟩

private theorem length_outside_le (tree : FileTree) (inside : List Location) :
    (tree.outside inside).length ≤ tree.top.size :=
  Nat.le_trans (List.length_filter_le _ _) (Entry.length_directories_le _)

theorem ne_empty_of_locate {tree : FileTree} {path : String} {place : Location}
    (located : tree.locate path = .ok place) : path ≠ "" := by
  rintro rfl
  simp [locate] at located

private theorem room_lt {tree : FileTree} (wellFormed : tree.top.wellFormed) {above : List Location}
    {path name : String} {place below : Location} {entries others : List (String × Entry)}
    {entry : Entry} (located : tree.locate path = .ok place)
    (found : tree.top.find? place = some (.directory entries)) (member : (name, entry) ∈ entries)
    (enters : tree.Enters (place :: above) (Path.join path name) entry)
    (leads : tree.locate (Path.join path name) = .ok below)
    (found' : tree.top.find? below = some (.directory others)) :
    tree.room (place :: above) below < tree.room above place := by
  obtain ⟨place', entries', entry', located', found'', present, child⟩ :=
    of_locate_join (ne_empty_of_locate located) (Entry.isName_of_mem wellFormed found member) leads
  obtain rfl : place = place' := by simpa [located] using located'
  obtain rfl : entries = entries' := by simpa [found] using found''
  obtain rfl : entry = entry' := by
    simpa [Entry.lookup_of_mem wellFormed found member] using present
  have deep := Entry.length_lt_size found'
  cases linked : entry.isLink with
  | false =>
      have fewer := tree.length_outside_cons_le below (place :: above)
      have fewer := Nat.mul_le_mul_right (tree.top.size + 1) fewer
      have longer : below.length = place.length + 1 := by simp [child linked]
      simp only [room]
      omega
  | true =>
      have new : below ∉ place :: above := by
        cases entry with
        | link target => exact enters below leads
        | _ => contradiction
      have fewer := length_outside_cons_lt found' new
      have fewer := Nat.mul_le_mul_right (tree.top.size + 1) (Nat.succ_le_of_lt fewer)
      simp only [room, Nat.succ_mul] at fewer ⊢
      omega

private theorem mem_walkFrom_of_reaches {tree : FileTree} (wellFormed : tree.top.wellFormed)
    {above : List Location} {path file : String} (reaches : tree.Reaches above path file)
    {levels : Nat} (enough : ∀ place entries, tree.locate path = .ok place →
      tree.top.find? place = some (.directory entries) → tree.room above place ≤ levels) :
    .file file ∈ tree.walkFrom (levels + 1) above path := by
  induction reaches generalizing levels with
  | here located found => exact (mem_walkFrom_of_file located found).mpr rfl
  | entry located found member =>
      exact (mem_walkFrom_of_directory located found).mpr ⟨_, _, member, .inl ⟨_, rfl, rfl⟩⟩
  | @deeper above path file place entries name entry located found member enters later ih =>
      have deep := Entry.length_lt_size found
      have least := enough place entries located found
      refine (mem_walkFrom_of_directory located found).mpr ⟨name, entry, member, .inr ⟨enters, ?_⟩⟩
      cases levels with
      | zero =>
          simp only [room] at least
          omega
      | succ levels =>
          refine ih fun below others leads found' => ?_
          have := room_lt wellFormed located found member enters leads found'
          omega

theorem mem_walk_iff {tree : FileTree} (wellFormed : tree.top.wellFormed) {root file : String} :
    .file file ∈ tree.walk root ↔ tree.Reaches [] root file := by
  refine ⟨reaches_of_mem_walkFrom, fun reaches => ?_⟩
  have bound : tree.levelBound = tree.top.size * (tree.top.size + 1) + tree.top.size + 1 := by
    rw [levelBound, Nat.succ_mul, Nat.add_assoc]
  rw [walk, bound]
  refine mem_walkFrom_of_reaches wellFormed reaches fun place entries _ _ => ?_
  have few := Nat.mul_le_mul_right (tree.top.size + 1) (tree.length_outside_le [place])
  simp only [room]
  omega

end KindDispatch.FileTree
