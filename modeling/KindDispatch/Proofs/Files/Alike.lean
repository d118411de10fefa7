import KindDispatch.Proofs.Files.Reach

/-!
# The order of entries

Two trees are alike if they have the same entries at the same places, whatever order the entries of
their directories are in.  Paths lead to the same places in them, and walks come across the same
files.
-/

namespace KindDispatch

def Entry.outline : Entry → Entry
  | .directory _ => .directory []
  | entry => entry

namespace FileTree

/-- Two trees have the same entries, in any order. -/
structure Alike (tree other : FileTree) : Prop where
  here : tree.here = other.here
  outline (place : Location) :
    (tree.top.find? place).map Entry.outline = (other.top.find? place).map Entry.outline

namespace Alike

variable {tree other : FileTree}

theorem symm (alike : tree.Alike other) : other.Alike tree :=
  ⟨alike.here.symm, fun place => (alike.outline place).symm⟩

theorem of_perm {entries others : List (String × Entry)}
    (wellFormed : (Entry.directory entries).wellFormed)
    (wellFormed' : (Entry.directory others).wellFormed) (perm : entries.Perm others)
    (here : Location) : Alike ⟨.directory entries, here⟩ ⟨.directory others, here⟩ := by
  refine ⟨rfl, fun place => ?_⟩
  cases place with
  | nil => rfl
  | cons name rest =>
      have same : entries.lookup name = others.lookup name := by
        ext entry
        constructor
        · intro found
          have member := perm.mem_iff.mp (Entry.mem_of_lookup found)
          exact Entry.lookup_of_mem wellFormed' (Entry.find?_nil _) member
        · intro found
          have member := perm.mem_iff.mpr (Entry.mem_of_lookup found)
          exact Entry.lookup_of_mem wellFormed (Entry.find?_nil _) member
      simp only [Entry.find?, Entry.child?, same]

section Entries

variable (alike : tree.Alike other) {place : Location}
include alike

private theorem exists_found {entry : Entry} (found : tree.top.find? place = some entry) :
    ∃ entry', other.top.find? place = some entry' ∧ entry.outline = entry'.outline := by
  have same := alike.outline place
  rw [found, Option.map_some, eq_comm, Option.map_eq_some_iff] at same
  obtain ⟨entry', found', same⟩ := same
  exact ⟨entry', found', same.symm⟩

private theorem found_file {content : List UInt8}
    (found : tree.top.find? place = some (.file content)) :
    other.top.find? place = some (.file content) := by
  obtain ⟨entry', found', same⟩ := alike.exists_found found
  cases entry' <;> simp_all [Entry.outline]

private theorem found_link {target : String} (found : tree.top.find? place = some (.link target)) :
    other.top.find? place = some (.link target) := by
  obtain ⟨entry', found', same⟩ := alike.exists_found found
  cases entry' <;> simp_all [Entry.outline]

private theorem found_directory {entries : List (String × Entry)}
    (found : tree.top.find? place = some (.directory entries)) :
    ∃ entries', other.top.find? place = some (.directory entries') := by
  obtain ⟨entry', found', same⟩ := alike.exists_found found
  cases entry' with
  | directory entries' => exact ⟨entries', found'⟩
  | _ => contradiction

private theorem found_none (missing : tree.top.find? place = none) :
    other.top.find? place = none := by
  simpa [missing] using (alike.outline place).symm

end Entries

/-! ## Paths -/

section Paths

variable (alike : tree.Alike other)
include alike

theorem advance_eq (steps : List String) (place : Location) :
    advance tree.top steps place = advance other.top steps place := by
  induction steps generalizing place with
  | nil => rfl
  | cons step rest ih =>
      rw [advance, advance]
      cases found : tree.top.find? place with
      | none => rw [alike.found_none found]
      | some entry =>
          cases entry with
          | file content => rw [alike.found_file found]
          | link target => rw [alike.found_link found]
          | directory entries =>
              obtain ⟨entries', found'⟩ := alike.found_directory found
              rw [found']
              simp only [ih]
              have child := Entry.find?_snoc found step
              have child' := Entry.find?_snoc found' step
              rw [← child, ← child']
              cases below : tree.top.find? (place ++ [step]) with
              | none => rw [alike.found_none below]
              | some entry =>
                  cases entry with
                  | file content => rw [alike.found_file below]
                  | link target => rw [alike.found_link below]
                  | directory entries =>
                      obtain ⟨others, below'⟩ := alike.found_directory below
                      rw [below']

theorem follow_eq (links : Nat) (steps : List String) (place : Location) :
    follow tree.top links steps place = follow other.top links steps place := by
  induction links generalizing steps place with
  | zero => rw [follow, follow, alike.advance_eq]
  | succ links ih =>
      rw [follow, follow, alike.advance_eq]
      simp only [ih]

theorem locate_eq (path : String) : tree.locate path = other.locate path := by
  simp only [locate, alike.here, alike.follow_eq]

end Paths

/-! ## Walks -/

theorem reaches (alike : tree.Alike other) (wellFormed : tree.top.wellFormed)
    {above : List Location} {path file : String} (reached : tree.Reaches above path file) :
    other.Reaches above path file := by
  -- the entry of a name in one tree and in the other
  have transfer {place : Location} {entries : List (String × Entry)} {name : String}
      {entry : Entry} (found : tree.top.find? place = some (.directory entries))
      (member : (name, entry) ∈ entries) : ∃ entries' entry',
        other.top.find? place = some (.directory entries') ∧ (name, entry') ∈ entries' ∧
          entry.outline = entry'.outline := by
    obtain ⟨entries', found'⟩ := alike.found_directory found
    have child := Entry.find?_snoc found name
    rw [Entry.lookup_of_mem wellFormed found member] at child
    obtain ⟨entry', child', same⟩ := alike.exists_found child
    rw [Entry.find?_snoc found'] at child'
    exact ⟨entries', entry', found', Entry.mem_of_lookup child', same⟩
  induction reached with
  | here located found =>
      exact .here ((alike.locate_eq _).symm.trans located) (alike.found_file found)
  | entry located found member =>
      obtain ⟨entries', entry', found', member', same⟩ := transfer found member
      cases entry' with
      | file content =>
          exact .entry ((alike.locate_eq _).symm.trans located) found' member'
      | _ => contradiction
  | deeper located found member enters _ ih =>
      obtain ⟨entries', entry', found', member', same⟩ := transfer found member
      refine .deeper ((alike.locate_eq _).symm.trans located) found' member' ?_ ih
      rename_i entry _
      cases entry <;> cases entry' <;> simp_all [Entry.outline, Enters, alike.locate_eq]

theorem mem_walk_iff (alike : tree.Alike other) (wellFormed : tree.top.wellFormed)
    (wellFormed' : other.top.wellFormed) {root file : String} :
    .file file ∈ tree.walk root ↔ .file file ∈ other.walk root := by
  rw [FileTree.mem_walk_iff wellFormed, FileTree.mem_walk_iff wellFormed']
  exact ⟨alike.reaches wellFormed, alike.symm.reaches wellFormed'⟩

end Alike

end FileTree

end KindDispatch
