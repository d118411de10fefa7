import KindDispatch.Files.Tree
import KindDispatch.Proofs.Files.Joining
import Mathlib.Data.List.Nodup

/-!
# Places in a tree

What a tree holds is seen through `Entry.find?`.  In a well-formed tree the names in a directory are
distinct and can be written in paths; there a path joined with a name leads to the entry of that name
in the directory the path leads to, unless the entry is a link.
-/

namespace KindDispatch

namespace Entry

/-! ## Entries below an entry -/

mutual

def all (test : Entry → Bool) : Entry → Bool
  | file content => test (file content)
  | link target => test (link target)
  | directory entries => test (directory entries) && allEntries test entries

def allEntries (test : Entry → Bool) : List (String × Entry) → Bool
  | [] => true
  | (_, entry) :: rest => all test entry && allEntries test rest

end

theorem allEntries_iff {test : Entry → Bool} {entries : List (String × Entry)} :
    allEntries test entries = true ↔ ∀ name entry, (name, entry) ∈ entries → entry.all test := by
  induction entries with
  | nil => simp [allEntries]
  | cons first rest ih =>
      obtain ⟨name, entry⟩ := first
      simp [allEntries, ih, or_imp, forall_and]

theorem test_of_all {test : Entry → Bool} {entry : Entry} (every : entry.all test) : test entry := by
  cases entry <;> simp_all [all]

@[simp] theorem find?_nil (entry : Entry) : entry.find? [] = some entry := rfl

theorem find?_append (place rest : Location) (entry : Entry) :
    entry.find? (place ++ rest) = (entry.find? place).bind (find? rest) := by
  induction place generalizing entry with
  | nil => rfl
  | cons name place ih =>
      rw [List.cons_append, find?, find?]
      cases entry.child? name with
      | none => rfl
      | some child => exact ih child

theorem find?_snoc {entry : Entry} {place : Location} {entries : List (String × Entry)}
    (found : entry.find? place = some (directory entries)) (name : String) :
    entry.find? (place ++ [name]) = entries.lookup name := by
  rw [find?_append, found, Option.bind_some, find?, child?]
  cases entries.lookup name <;> rfl

theorem mem_of_lookup {entries : List (String × Entry)} {name : String} {entry : Entry}
    (found : entries.lookup name = some entry) : (name, entry) ∈ entries := by
  obtain ⟨before, after, rfl, -⟩ := List.lookup_eq_some_iff.mp found
  simp

theorem all_of_find? {test : Entry → Bool} {entry found : Entry} {place : Location}
    (every : entry.all test) (present : entry.find? place = some found) : found.all test := by
  induction place generalizing entry with
  | nil =>
      obtain rfl : entry = found := by simpa using present
      exact every
  | cons name place ih =>
      cases entry with
      | file content => contradiction
      | link target => contradiction
      | directory entries =>
          rw [find?, child?] at present
          obtain ⟨child, among, present⟩ := Option.bind_eq_some_iff.mp present
          simp only [all, Bool.and_eq_true, allEntries_iff] at every
          exact ih (every.2 name child (mem_of_lookup among)) present

/-! ## Well-formed trees -/

def isProper : Entry → Bool
  | directory entries => (entries.map Prod.fst).Nodup && entries.all (Path.isName ·.1)
  | _ => true

/-- The names in each directory are distinct, and are names. -/
def wellFormed (entry : Entry) : Bool := entry.all isProper

def isLink : Entry → Bool
  | link _ => true
  | _ => false

def linkless (entry : Entry) : Bool := entry.all (!·.isLink)

section Proper

variable {top : Entry} (wellFormed : top.wellFormed) {place : Location}
  {entries : List (String × Entry)} (found : top.find? place = some (directory entries))
include wellFormed found

theorem isName_of_mem {name : String} {entry : Entry} (member : (name, entry) ∈ entries) :
    Path.isName name := by
  have proper := test_of_all (all_of_find? wellFormed found)
  simp only [isProper, Bool.and_eq_true, List.all_eq_true] at proper
  exact proper.2 _ member

theorem lookup_of_mem {name : String} {entry : Entry} (member : (name, entry) ∈ entries) :
    entries.lookup name = some entry := by
  have proper := test_of_all (all_of_find? wellFormed found)
  simp only [isProper, Bool.and_eq_true, decide_eq_true_eq] at proper
  obtain ⟨distinct, -⟩ := proper
  obtain ⟨before, after, rfl⟩ := List.append_of_mem member
  refine List.lookup_eq_some_iff.mpr ⟨before, after, rfl, fun other earlier => ?_⟩
  rw [List.map_append, List.nodup_append] at distinct
  have different := distinct.2.2 other.1 (List.mem_map_of_mem earlier) name (by simp)
  simpa using Ne.symm different

end Proper

/-! ## Places of directories -/

mutual

def directories : Entry → List Location
  | directory entries => [] :: directoriesBelow entries
  | _ => []

def directoriesBelow : List (String × Entry) → List Location
  | [] => []
  | (name, entry) :: rest => (directories entry).map (name :: ·) ++ directoriesBelow rest

end

private theorem mem_directoriesBelow {entries : List (String × Entry)} {name : String}
    {entry : Entry}
    {place : Location} (member : (name, entry) ∈ entries) (below : place ∈ entry.directories) :
    name :: place ∈ directoriesBelow entries := by
  induction entries with
  | nil => contradiction
  | cons first rest ih =>
      rw [directoriesBelow, List.mem_append]
      rcases List.mem_cons.mp member with rfl | later
      · exact .inl (List.mem_map_of_mem below)
      · exact .inr (ih later)

theorem mem_directories {entry : Entry} {place : Location} {entries : List (String × Entry)}
    (found : entry.find? place = some (directory entries)) : place ∈ entry.directories := by
  induction place generalizing entry with
  | nil =>
      obtain rfl : entry = directory entries := by simpa using found
      exact .head _
  | cons name place ih =>
      cases entry with
      | file content => contradiction
      | link target => contradiction
      | directory others =>
          rw [find?, child?] at found
          obtain ⟨child, among, found⟩ := Option.bind_eq_some_iff.mp found
          exact .tail _ (mem_directoriesBelow (mem_of_lookup among) (ih found))

mutual

theorem length_directories_le : ∀ entry : Entry, entry.directories.length ≤ entry.size
  | file _ | link _ => by simp [directories]
  | directory entries => by
    have := length_directoriesBelow_le entries
    simp only [directories, size, List.length_cons]
    omega

theorem length_directoriesBelow_le : ∀ entries : List (String × Entry),
    (directoriesBelow entries).length ≤ sizeEntries entries
  | [] => by simp [directoriesBelow]
  | (_, entry) :: rest => by
    have := length_directories_le entry
    have := length_directoriesBelow_le rest
    simp only [directoriesBelow, sizeEntries, List.length_append, List.length_map]
    omega

end

private theorem size_le_sizeEntries {entries : List (String × Entry)} {name : String}
    {entry : Entry} (member : (name, entry) ∈ entries) : entry.size ≤ sizeEntries entries := by
  induction entries with
  | nil => contradiction
  | cons first rest ih =>
      obtain ⟨name', entry'⟩ := first
      rw [sizeEntries]
      rcases List.mem_cons.mp member with same | later
      · obtain ⟨rfl, rfl⟩ := Prod.mk.inj same
        omega
      · have := ih later
        omega

theorem length_lt_size {entry found : Entry} {place : Location}
    (present : entry.find? place = some found) : place.length < entry.size := by
  induction place generalizing entry with
  | nil => cases entry <;> simp only [size, List.length_nil] <;> omega
  | cons name place ih =>
      cases entry with
      | file content => contradiction
      | link target => contradiction
      | directory entries =>
          rw [find?, child?] at present
          obtain ⟨child, among, present⟩ := Option.bind_eq_some_iff.mp present
          have := ih present
          have := size_le_sizeEntries (mem_of_lookup among)
          rw [size, List.length_cons]
          omega

end Entry

namespace FileTree

/-! ## Following paths -/

theorem advance_append (top : Entry) (steps more : List String) (place : Location) :
    advance top (steps ++ more) place =
      match advance top steps place with
      | .error error => .error error
      | .ok (.arrived place) => advance top more place
      | .ok (.link directory target rest) => .ok (.link directory target (rest ++ more)) := by
  induction steps generalizing place with
  | nil => rfl
  | cons step steps ih =>
      simp only [List.cons_append, advance]
      split
      · split
        · exact ih place
        split
        · exact ih place.dropLast
        split
        · rfl
        split
        · rfl
        · rfl
        · exact ih _
      · rfl
      · rfl

theorem follow_append (top : Entry) (links : Nat) (steps more : List String) (place : Location) :
    (∃ error, follow top links steps place = .error error ∧
      follow top links (steps ++ more) place = .error error) ∨
    ∃ between left, follow top links steps place = .ok between ∧
      follow top links (steps ++ more) place = follow top left more between := by
  induction links generalizing steps place with
  | zero =>
      rw [follow, follow, advance_append]
      rcases advance top steps place with error | ⟨between⟩ | ⟨directory, target, rest⟩
      · exact .inl ⟨error, rfl, rfl⟩
      · exact .inr ⟨between, 0, rfl, by rw [follow]⟩
      · exact .inl ⟨.tooManyLinks, rfl, rfl⟩
  | succ links ih =>
      rw [follow, follow, advance_append]
      rcases advance top steps place with error | ⟨between⟩ | ⟨directory, target, rest⟩
      · exact .inl ⟨error, rfl, rfl⟩
      · exact .inr ⟨between, links + 1, rfl, by rw [follow]⟩
      · simpa using ih (Path.segments target ++ rest) (if Path.isAbsolute target then [] else directory)

private theorem of_follow_name {top : Entry} {links : Nat} {name : String} {place goal : Location}
    (named : Path.isName name) (arrives : follow top links [name] place = .ok goal) :
    ∃ entries entry, top.find? place = some (.directory entries) ∧
      entries.lookup name = some entry ∧ (entry.isLink = false → goal = place ++ [name]) := by
  obtain ⟨nonempty, notHere, notUp, -⟩ := Path.isName_iff.mp named
  rw [follow] at arrives
  simp only [advance, nonempty, notHere, notUp, decide_false, Bool.or_self, Bool.false_eq_true,
    if_false] at arrives
  cases hfound : top.find? place with
  | none => simp [hfound] at arrives
  | some found =>
      cases found with
      | file content => simp [hfound] at arrives
      | link target => simp [hfound] at arrives
      | directory entries =>
          simp only [hfound] at arrives
          by_cases long : nameLimit < name.utf8ByteSize
          · simp [long] at arrives
          simp only [long, if_false] at arrives
          cases hentry : entries.lookup name with
          | none => simp [hentry] at arrives
          | some entry =>
              refine ⟨entries, entry, rfl, hentry, fun noLink => ?_⟩
              cases entry <;> simp_all [Entry.isLink]

/-- A path that is joined with a name leads somewhere only if the path leads to a directory with an
entry of that name. -/
theorem of_locate_join {tree : FileTree} {path name : String} {goal : Location}
    (nonempty : path ≠ "") (named : Path.isName name)
    (arrives : tree.locate (Path.join path name) = .ok goal) :
    ∃ place entries entry, tree.locate path = .ok place ∧
      tree.top.find? place = some (.directory entries) ∧ entries.lookup name = some entry ∧
      (entry.isLink = false → goal = place ++ [name]) := by
  obtain ⟨tail, joined⟩ : ∃ tail, Path.join path name = path ++ tail := by
    rw [Path.join_eq nonempty named]
    split
    · exact ⟨name, rfl⟩
    · exact ⟨"/" ++ name, by rw [String.append_assoc]⟩
  obtain ⟨steps, -, before, after⟩ := Path.segments_join nonempty named
  unfold locate at arrives ⊢
  split at arrives
  · contradiction
  rename_i noNul
  split at arrives
  · contradiction
  split at arrives
  · contradiction
  rename_i short
  rw [joined] at noNul short
  rw [String.utf8ByteSize_append] at short
  rw [if_neg (by simp_all), if_neg nonempty, if_neg (by omega)]
  rw [Path.isAbsolute_join nonempty named, after] at arrives
  generalize (if Path.isAbsolute path then [] else tree.here) = start at arrives ⊢
  rcases follow_append tree.top linkLimit steps [name] start with
    ⟨error, -, fails⟩ | ⟨between, left, reached, follows⟩
  · simp [fails] at arrives
  rw [follows] at arrives
  obtain ⟨entries, entry, found, present, child⟩ := of_follow_name named arrives
  refine ⟨between, entries, entry, ?_, found, present, child⟩
  rcases before with before | before
  · rwa [before]
  · -- the slash at the end of the path asks for the directory only
    rw [before]
    rcases follow_append tree.top linkLimit steps [""] start with
      ⟨error, fails, -⟩ | ⟨between', left', reached', follows'⟩
    · simp [fails] at reached
    · obtain rfl : between = between' := by simpa [reached'] using reached.symm
      rw [follows', follow]
      simp [advance, found]

end FileTree

end KindDispatch
