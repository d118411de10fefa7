import KindDispatch.Proofs.Source.Grammar
import KindDispatch.Proofs.Source.Tokens
import KindDispatch.Proofs.Source.Lowering
import KindDispatch.Source.Parse
import Mathlib.Data.List.TakeWhile

/-!
# Where files and failures come from

The names in a file are identifiers of the text, each with the line it is read on.  A failure is
where something in the text is, or behind its end.
-/

namespace KindDispatch.Source

def readText (source : String) : List Char := withoutInterpreter (withoutMark source.toList)

/-! ## Tokens and what is taken from them -/

section Taken

variable {text : List Char} {tokens : List Token}
  (inText : ∀ token ∈ tokens, Token.IsAllIn text token)
include inText

private theorem isIn_of_mem_flattenList {part : Token} (member : part ∈ Token.flattenList tokens) :
    part.IsIn text := by
  obtain ⟨token, among, member⟩ := Token.mem_flattenList.mp member
  exact inText token among part member

private theorem isIn_of_mem_places {place : Position}
    (member : place ∈ Tokens.places (Token.flattenList tokens)) : place.IsIn text := by
  rcases List.mem_cons.mp member with rfl | member
  · exact ⟨[], text, rfl, rfl⟩
  · obtain ⟨token, among, member⟩ := List.mem_flatMap.mp member
    exact (isIn_of_mem_flattenList inText among).1 place member

private theorem isIn_of_mem_names {name : Name}
    (member : name ∈ Tokens.names (Token.flattenList tokens)) : name.IsIn text := by
  obtain ⟨token, among, member⟩ := List.mem_flatMap.mp member
  exact (isIn_of_mem_flattenList inText among).2 name member

end Taken

namespace Element

mutual

theorem mem_names_of_isTakenFrom {scope : Tokens} : ∀ {element : Element},
    element.IsTakenFrom scope →
      ∀ part ∈ element.elements, ∀ name ∈ part.name, name ∈ scope.names
  | ⟨construct, name, attributes, parts⟩, .intro _ names fromAttributes fromParts => by
    intro part member
    rw [elements, List.mem_cons, List.mem_append] at member
    rcases member with rfl | member | member
    · exact names
    · exact mem_names_of_forall fromAttributes part member
    · exact mem_names_of_forall fromParts part member

private theorem mem_names_of_forall {scope : Tokens} : ∀ {elements : List Element},
    (∀ element ∈ elements, element.IsTakenFrom scope) →
      ∀ part ∈ elementsList elements, ∀ name ∈ part.name, name ∈ scope.names
  | [], _ => by simp [elementsList]
  | element :: rest, taken => by
    intro part member
    rw [elementsList, List.mem_append] at member
    rcases member with member | member
    · exact mem_names_of_isTakenFrom (taken element (.head _)) part member
    · exact mem_names_of_forall (fun other later => taken other (.tail _ later)) part member

end

end Element

/-! ## Texts in front -/

private theorem exists_withoutMark (text : List Char) :
    ∃ front, '\n' ∉ front ∧ text = front ++ withoutMark text := by
  unfold withoutMark
  split
  · rename_i marked
    obtain ⟨rest, rfl⟩ := List.isPrefixOf_iff_prefix.mp marked
    exact ⟨byteOrderMark.toList, by decide, rfl⟩
  · exact ⟨[], List.not_mem_nil, rfl⟩

private theorem exists_withoutInterpreter (text : List Char) :
    ∃ front, '\n' ∉ front ∧ text = front ++ withoutInterpreter text := by
  unfold withoutInterpreter
  split
  · refine ⟨text.takeWhile (· ≠ '\n'), ?_, (List.takeWhile_append_dropWhile ..).symm⟩
    intro lineEnd
    simpa using List.mem_takeWhile_imp lineEnd
  · exact ⟨[], List.not_mem_nil, rfl⟩

theorem exists_readText (source : String) :
    ∃ front, '\n' ∉ front ∧ source.toList = front ++ readText source := by
  obtain ⟨mark, noLineEnd, split⟩ := exists_withoutMark source.toList
  obtain ⟨line, noLineEnd', split'⟩ := exists_withoutInterpreter (withoutMark source.toList)
  refine ⟨mark ++ line, by simp [noLineEnd, noLineEnd'], ?_⟩
  rw [List.append_assoc, readText, ← split', ← split]

private theorem Name.IsIn.behind {front text : List Char} {name : Name} (noLineEnd : '\n' ∉ front)
    (inText : name.IsIn text) : name.IsIn (front ++ text) := by
  obtain ⟨before, cursor, split, line, identifies⟩ := inText
  refine ⟨front ++ before, cursor, ?_, ?_, identifies⟩
  · rw [split, List.append_assoc]
  · rw [line, List.count_append, List.count_eq_zero_of_not_mem noLineEnd, Nat.zero_add]

/-! ## Files and failures -/

theorem position_of_refused {source : String} {failure : ParseFailure}
    (refused : parseFile source = .error failure) :
    Position.IsIn (readText source) ⟨failure.line, failure.column⟩ := by
  have read := readIn_tokenTrees (readText source)
  change (tokenTrees (readText source)).bind SourceFile.ofTokens? = _ at refused
  cases htokens : tokenTrees (readText source) with
  | error cause =>
      rw [htokens] at read refused
      cases refused
      exact read
  | ok tokens =>
      rw [htokens] at read
      replace refused : SourceFile.ofTokens? tokens = .error failure := by rwa [htokens] at refused
      have origin := SourceFile.takenFrom_ofTokens? tokens
      rw [refused] at origin
      obtain ⟨position, message, place, rfl⟩ := origin
      exact isIn_of_mem_places read place

theorem parseFile_eq_ok {source : String} {file : SourceFile}
    (parsed : parseFile source = .ok file) :
    ∃ tokens, tokenTrees (readText source) = .ok tokens ∧
      SourceFile.ofTokens? tokens = .ok file := by
  change (tokenTrees (readText source)).bind SourceFile.ofTokens? = _ at parsed
  cases htokens : tokenTrees (readText source) with
  | error failure =>
      rw [htokens] at parsed
      contradiction
  | ok tokens =>
      rw [htokens] at parsed
      exact ⟨tokens, rfl, parsed⟩

theorem names_of_parsed_file {source : String} {file : SourceFile}
    (parsed : parseFile source = .ok file) :
    ∀ element ∈ file.elements, ∀ name ∈ element.name, name.IsIn source.toList := by
  obtain ⟨tokens, htokens, hfile⟩ := parseFile_eq_ok parsed
  have read := readIn_tokenTrees (readText source)
  have origin := SourceFile.takenFrom_ofTokens? tokens
  rw [htokens] at read
  rw [hfile] at origin
  obtain ⟨attributes, items⟩ := origin
  obtain ⟨front, noLineEnd, split⟩ := exists_readText source
  intro element member name named
  rw [split]
  refine .behind noLineEnd (isIn_of_mem_names read ?_)
  rcases List.mem_append.mp member with member | member
  · exact Element.mem_names_of_forall attributes element member name named
  · exact Element.mem_names_of_forall items element member name named

end KindDispatch.Source
