import KindDispatch.Source.Snippet

/-!
# Highlighted bytes

What a character in front of a text does to the bytes that `highlight` finds: on any later line the
same character is found, on the first line the one before it.
-/

namespace KindDispatch.Source

/-! ## Bytes -/

theorem byteLength_cons (c : Char) (text : List Char) :
    byteLength (c :: text) = c.utf8Size + byteLength text := rfl

theorem byteLength_append (text text' : List Char) :
    byteLength (text ++ text') = byteLength text + byteLength text' := by
  induction text with
  | nil => simp [byteLength]
  | cons c rest ih => simp only [List.cons_append, byteLength_cons, ih, Nat.add_assoc]

theorem byteLength_pos {text : List Char} (nonempty : text ≠ []) : 0 < byteLength text := by
  cases text with
  | nil => contradiction
  | cons c rest =>
      have := c.utf8Size_pos
      rw [byteLength_cons]
      omega

private theorem byteLength_fromLine_le (text : List Char) (line : Nat) :
    byteLength (fromLine text line) ≤ byteLength text := by
  unfold fromLine
  generalize line - 1 = count
  induction text generalizing count with
  | nil => cases count <;> simp [afterLineEnds]
  | cons c rest ih =>
      cases count with
      | zero => simp [afterLineEnds]
      | succ count =>
          have := ih (if c = '\n' then count else count + 1)
          rw [afterLineEnds, byteLength_cons]
          omega

private theorem byteLength_take_lt {text : List Char} {count count' : Nat}
    (shorter : count < count') (within : count' ≤ text.length) :
    byteLength (text.take count) < byteLength (text.take count') := by
  have split : text.take count' = text.take count ++ (text.drop count).take (count' - count) := by
    rw [← List.take_add]
    congr
    omega
  have more : (text.drop count).take (count' - count) ≠ [] := by
    intro empty
    have := congrArg List.length empty
    simp only [List.length_take, List.length_drop, List.length_nil] at this
    omega
  have := byteLength_pos more
  rw [split, byteLength_append]
  omega

def Span.shift (span : Span) (bytes : Nat) : Span := ⟨span.start + bytes, span.stop + bytes⟩

private theorem Span.shift_inj {span span' : Span} {bytes : Nat} :
    span.shift bytes = span'.shift bytes ↔ span = span' := by
  cases span
  cases span'
  simp [Span.shift]

def firstLine (text : List Char) : List Char := text.takeWhile (· ≠ '\n')

theorem fromLine_of_le_one (text : List Char) {line : Nat} (first : line ≤ 1) :
    fromLine text line = text := by
  have none : line - 1 = 0 := by omega
  simp [fromLine, none, afterLineEnds]

private theorem highlight_of_le_one (text : List Char) {line : Nat} (first : line ≤ 1)
    (column : Nat) : highlight text line column =
      let before := (firstLine text).take (column - 1)
      ⟨byteLength before, byteLength before + byteLength ((text.drop before.length).take 1)⟩ := by
  simp [highlight, lineStart, fromLine_of_le_one text first, firstLine]

private theorem highlight_succ_eq_iff (text : List Char) {line : Nat} (first : line ≤ 1)
    (column : Nat) : highlight text line (column + 1) = highlight text line (column + 2) ↔
      (firstLine text).length ≤ column := by
  simp only [highlight_of_le_one text first, Nat.add_one_sub_one]
  rcases Nat.lt_or_ge column (firstLine text).length with within | beyond
  · have := byteLength_take_lt (Nat.lt_add_one column) within
    simp only [Span.mk.injEq]
    omega
  · rw [List.take_of_length_le beyond, List.take_of_length_le (Nat.le_succ_of_le beyond)]
    simpa using beyond

/-! ## A character in front of a text -/

section Prepend

variable {c : Char} (noLineEnd : c ≠ '\n') (text : List Char)
include noLineEnd

private theorem fromLine_cons {line : Nat} (later : 2 ≤ line) :
    fromLine (c :: text) line = fromLine text line := by
  obtain ⟨count, hcount⟩ : ∃ count, line - 1 = count + 1 := ⟨line - 2, by omega⟩
  simp [fromLine, hcount, afterLineEnds, noLineEnd]

private theorem firstLine_cons : firstLine (c :: text) = c :: firstLine text := by
  simp [firstLine, noLineEnd]

theorem highlight_cons_of_later {line : Nat} (later : 2 ≤ line) (column : Nat) :
    highlight (c :: text) line column = (highlight text line column).shift c.utf8Size := by
  have := byteLength_fromLine_le text line
  simp only [highlight, lineStart, fromLine_cons noLineEnd text later, byteLength_cons,
    Span.shift, Span.mk.injEq]
  omega

/-- In front of the first line, columns are counted from the new character on. -/
theorem highlight_cons_of_first {line : Nat} (first : line ≤ 1) (column : Nat) :
    highlight (c :: text) line (column + 2) =
      (highlight text line (column + 1)).shift c.utf8Size := by
  simp only [highlight_of_le_one _ first, firstLine_cons noLineEnd, Nat.add_one_sub_one,
    List.take_succ_cons, List.length_cons, List.drop_succ_cons, byteLength_cons, Span.shift,
    Span.mk.injEq]
  omega

omit noLineEnd in
theorem highlight_cons_of_start {line column : Nat} (first : line ≤ 1) (start : column ≤ 1) :
    highlight (c :: text) line column = ⟨0, c.utf8Size⟩ := by
  have none : column - 1 = 0 := by omega
  simp [highlight_of_le_one _ first, none, byteLength]

/-- The bytes of a character move along with it, unless it is on the first line. -/
theorem highlight_cons_eq_shift_iff (line column : Nat) :
    highlight (c :: text) line column = (highlight text line column).shift c.utf8Size ↔
      2 ≤ line ∨ (firstLine text).length + 2 ≤ column := by
  have positive := c.utf8Size_pos
  by_cases later : 2 ≤ line
  · simp [later, highlight_cons_of_later noLineEnd text later]
  have first : line ≤ 1 := by omega
  simp only [later, false_or]
  match column with
  | 0 | 1 =>
      rw [highlight_cons_of_start text first (by omega)]
      simp only [Span.shift, Span.mk.injEq]
      omega
  | column + 2 =>
      rw [highlight_cons_of_first noLineEnd text first, Span.shift_inj,
        highlight_succ_eq_iff text first, Nat.add_le_add_iff_right]

end Prepend

end KindDispatch.Source
