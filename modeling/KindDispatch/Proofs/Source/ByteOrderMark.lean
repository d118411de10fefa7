import KindDispatch.Proofs.Source.Highlight
import KindDispatch.Proofs.Source.Origin

/-!
# Byte order marks

A byte order mark is no part of the text that is parsed, so it changes no failure.  But the failure
is shown in the text with the mark, where the mark counts as the first character of the first line.
-/

namespace KindDispatch.Source

def mark : Char := '\uFEFF'

def startsWithMark (source : String) : Bool := source.toList.head? = some mark

private theorem toList_byteOrderMark : byteOrderMark.toList = [mark] := by decide

private theorem toList_marked (source : String) :
    (byteOrderMark ++ source).toList = mark :: source.toList := by
  rw [String.toList_append, toList_byteOrderMark, List.singleton_append]

private theorem withoutMark_of_unmarked {source : String}
    (unmarked : startsWithMark source = false) : withoutMark source.toList = source.toList := by
  unfold withoutMark
  rw [toList_byteOrderMark]
  cases htext : source.toList with
  | nil => rfl
  | cons c rest =>
      have : ¬mark = c := by
        simpa [startsWithMark, htext, eq_comm] using unmarked
      simp [this]

private theorem withoutMark_marked (source : String) :
    withoutMark (byteOrderMark ++ source).toList = source.toList := by
  simp [withoutMark, toList_byteOrderMark]

def failure? {α : Type} : Except ParseFailure α → Option ParseFailure
  | .error failure => some failure
  | .ok _ => none

private theorem eq_error_of_failure? {α : Type} {result : Except ParseFailure α}
    {failure : ParseFailure}
    (fails : failure? result = some failure) : result = .error failure := by
  cases result with
  | error found => rw [Option.some.inj fails]
  | ok value => contradiction

theorem parse_marked {source : String} (unmarked : startsWithMark source = false) :
    parse (byteOrderMark ++ source) = parse source := by
  rw [parse, parse, parseFile, parseFile, withoutMark_marked, withoutMark_of_unmarked unmarked]

/-! ## Positions of failures -/

namespace Position.IsIn

variable {text : List Char} {position : Position}

private theorem line_pos (inText : position.IsIn text) : 0 < position.line := by
  obtain ⟨before, rest, -, rfl⟩ := inText
  rw [line_after]
  exact Nat.add_pos_left Nat.one_pos _

private theorem column_pos (inText : position.IsIn text) : 0 < position.column := by
  obtain ⟨before, rest, -, rfl⟩ := inText
  exact column_pos_after before Nat.one_pos

private theorem column_le (inText : position.IsIn text) (first : position.line = 1) :
    position.column ≤ (firstLine text).length + 1 := by
  obtain ⟨before, rest, rfl, rfl⟩ := inText
  have oneLine : '\n' ∉ before := by
    rw [line_after, start, Nat.add_eq_left] at first
    exact List.count_eq_zero.mp first
  have line : firstLine (before ++ rest) = before ++ firstLine rest :=
    List.takeWhile_append_of_pos (by grind)
  rw [column_after oneLine, start, line, List.length_append]
  dsimp only
  omega

end Position.IsIn

private theorem length_firstLine_withoutInterpreter_le (text : List Char) :
    (firstLine (withoutInterpreter text)).length ≤ (firstLine text).length := by
  unfold withoutInterpreter
  split
  · -- what is left of the first line is its end
    have none : firstLine (text.dropWhile (· ≠ '\n')) = [] := by
      exact List.takeWhile_eq_nil_iff.mpr (List.dropWhile_get_zero_not _ text)
    rw [none]
    exact Nat.zero_le _
  · exact Nat.le_refl _

theorem position_of_unmarked {source : String} (unmarked : startsWithMark source = false)
    {failure : ParseFailure} (refused : parse source = .error failure) :
    0 < failure.line ∧ 0 < failure.column ∧
      (failure.line = 1 → failure.column ≤ (firstLine source.toList).length + 1) := by
  have inText : Position.IsIn (readText source) ⟨failure.line, failure.column⟩ := by
    apply position_of_refused
    cases hfile : parseFile source <;> simp_all [parse, Except.map]
  refine ⟨inText.line_pos, inText.column_pos, fun first => (inText.column_le first).trans ?_⟩
  rw [readText, withoutMark_of_unmarked unmarked]
  exact Nat.add_le_add_right (length_firstLine_withoutInterpreter_le _) 1

/--
A text that is refused is refused behind a byte order mark too, with the same line, column and
message.  On any other line than the first, the same character is highlighted: its bytes move along
with the mark.  On the first line they never do.  There the character before it is highlighted, and
the mark if it is the first one.
-/
theorem marked_failure {source : String} (unmarked : startsWithMark source = false)
    {failure : ParseFailure} (refused : parse source = .error failure) :
    parse (byteOrderMark ++ source) = .error failure ∧
      (let plain := highlight source.toList failure.line
       let marked := highlight (byteOrderMark ++ source).toList failure.line
       (marked failure.column = (plain failure.column).shift 3 ↔ failure.line ≠ 1) ∧
        (failure.line = 1 → marked failure.column =
          if failure.column = 1 then ⟨0, 3⟩ else (plain (failure.column - 1)).shift 3)) := by
  have noLineEnd : mark ≠ '\n' := by decide
  have bytes : mark.utf8Size = 3 := by decide
  obtain ⟨line, column, within⟩ := position_of_unmarked unmarked refused
  refine ⟨by rw [parse_marked unmarked, refused], ?_⟩
  rw [toList_marked, ← bytes]
  constructor
  · rw [highlight_cons_eq_shift_iff noLineEnd]
    omega
  · intro first
    split
    · exact highlight_cons_of_start _ (by omega) (by omega)
    · obtain ⟨before, hbefore⟩ : ∃ before, failure.column = before + 2 :=
        ⟨failure.column - 2, by omega⟩
      rw [hbefore]
      exact highlight_cons_of_first noLineEnd _ (by omega) before

theorem marked_failure_on_second_line :
    parse (byteOrderMark ++ "fn f()\n  1") = .error ⟨2, 3, "expected curly braces"⟩ ∧
      highlight (byteOrderMark ++ "fn f()\n  1").toList 2 3 =
        (highlight "fn f()\n  1".toList 2 3).shift 3 := by
  have refused : parse "fn f()\n  1" = .error ⟨2, 3, "expected curly braces"⟩ :=
    eq_error_of_failure? (by decide +kernel)
  obtain ⟨marked, moves, -⟩ := marked_failure (by decide) refused
  exact ⟨marked, moves.mpr (by decide)⟩

/-- The offending `1` is the fourth character, but behind a mark the blank before it is
highlighted. -/
theorem marked_failure_misses_token :
    startsWithMark "fn 1" = false ∧ parse "fn 1" = .error ⟨1, 4, "expected identifier"⟩ ∧
      parse (byteOrderMark ++ "fn 1") = .error ⟨1, 4, "expected identifier"⟩ ∧
      (highlight "fn 1".toList 1 4).shift 3 = ⟨6, 7⟩ ∧
      highlight (byteOrderMark ++ "fn 1").toList 1 4 = ⟨5, 6⟩ := by
  have refused : parse "fn 1" = .error ⟨1, 4, "expected identifier"⟩ :=
    eq_error_of_failure? (by decide +kernel)
  refine ⟨by decide, refused, ?_, by decide, by decide⟩
  rw [parse_marked (by decide), refused]

end KindDispatch.Source
