import KindDispatch.Files.Path

/-!
# Paths of entries

The path of an entry has the components of its directory and one more, the name of the entry,
however the path of the directory is written.
-/

namespace KindDispatch.Path

def isName (name : String) : Bool :=
  name ≠ "" && name ≠ "." && name ≠ ".." && !name.toList.contains '/' &&
    !name.toList.contains '\x00'

theorem isName_iff {name : String} : isName name = true ↔
    name ≠ "" ∧ name ≠ "." ∧ name ≠ ".." ∧ '/' ∉ name.toList ∧ '\x00' ∉ name.toList := by
  simp [isName, and_assoc]

theorem component?_of_isName {name : String} (named : isName name) :
    component? name = some (.name name) := by
  obtain ⟨nonempty, notHere, notUp, -⟩ := isName_iff.mp named
  simp [component?, nonempty, notHere, notUp]

/-! ## Segments -/

private theorem segmentsFrom_of_noSlash {text : List Char} (noSlash : '/' ∉ text)
    (current : List Char) :
    segmentsFrom current text = [String.ofList (current.reverse ++ text)] := by
  induction text generalizing current with
  | nil => simp [segmentsFrom]
  | cons c rest ih =>
      simp only [List.mem_cons, not_or] at noSlash
      simp [segmentsFrom, Ne.symm noSlash.1, ih noSlash.2]

private theorem segmentsFrom_append (current text rest : List Char) :
    segmentsFrom current (text ++ '/' :: rest) =
      segmentsFrom current text ++ segmentsFrom [] rest := by
  induction text generalizing current with
  | nil => simp [segmentsFrom]
  | cons c text ih =>
      by_cases slash : c = '/'
      · simp [segmentsFrom, slash, ih]
      · simp [segmentsFrom, slash, ih]

private theorem segmentsFrom_ne_nil (current text : List Char) : segmentsFrom current text ≠
    [] := by
  induction text generalizing current with
  | nil => simp [segmentsFrom]
  | cons c rest ih =>
      rw [segmentsFrom]
      split
      · simp
      · exact ih _

private theorem segmentsFrom_append_name (text : List Char) {name : String} (named : isName name) :
    segmentsFrom [] (text ++ '/' :: name.toList) = segmentsFrom [] text ++ [name] := by
  obtain ⟨-, -, -, noSlash, -⟩ := isName_iff.mp named
  rw [segmentsFrom_append, segmentsFrom_of_noSlash noSlash]
  simp

/-! ## Joining -/

section Join

variable {path name : String} (nonempty : path ≠ "") (named : isName name)
include nonempty named

theorem join_eq : join path name =
    if path.toList.getLast? = some '/' then path ++ name else path ++ "/" ++ name := by
  obtain ⟨-, -, -, noSlash, -⟩ := isName_iff.mp named
  have relative : isAbsolute name = false := by
    rw [isAbsolute, decide_eq_false_iff_not]
    exact fun slash => noSlash (List.mem_of_head? slash)
  simp [join, nonempty, relative]

theorem segments_join :
    ∃ steps, steps ≠ [] ∧ (segments path = steps ∨ segments path = steps ++ [""]) ∧
      segments (join path name) = steps ++ [name] := by
  rw [join_eq nonempty named]
  split
  · rename_i slash
    obtain ⟨front, hfront⟩ := List.getLast?_eq_some_iff.mp slash
    refine ⟨segmentsFrom [] front, segmentsFrom_ne_nil _ _, .inr ?_, ?_⟩
    · rw [segments, hfront, segmentsFrom_append]
      rfl
    · rw [segments, String.toList_append, hfront, List.append_assoc, List.singleton_append,
        segmentsFrom_append_name front named]
  · refine ⟨segments path, segmentsFrom_ne_nil _ _, .inl rfl, ?_⟩
    rw [segments, String.toList_append, String.toList_append, List.append_assoc]
    exact segmentsFrom_append_name path.toList named

theorem isAbsolute_join : isAbsolute (join path name) = isAbsolute path := by
  obtain ⟨first, rest, hpath⟩ : ∃ first rest, path.toList = first :: rest :=
    List.exists_cons_of_ne_nil (by simpa using nonempty)
  rw [join_eq nonempty named]
  split <;> simp [isAbsolute, hpath]

theorem components_join : components (join path name) = components path ++ [.name name] := by
  obtain ⟨steps, some, before, after⟩ := segments_join nonempty named
  have same : (segments path).filterMap component? = steps.filterMap component? := by
    rcases before with before | before <;> simp [before, component?]
  have first : (segments path).head? = steps.head? := by
    obtain ⟨first, rest, rfl⟩ := List.exists_cons_of_ne_nil some
    rcases before with before | before <;> simp [before]
  have first' : (steps ++ [name]).head? = steps.head? := by
    obtain ⟨first, rest, rfl⟩ := List.exists_cons_of_ne_nil some
    rfl
  simp only [components, isAbsolute_join nonempty named, after, same, first, first',
    List.filterMap_append, List.filterMap_cons, component?_of_isName named, List.filterMap_nil]
  split
  · rfl
  · split <;> rfl

end Join

end KindDispatch.Path
