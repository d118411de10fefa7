import KindDispatch.Proofs.Source.Highlight
import KindDispatch.Source.Slice
import Mathlib.Data.List.TakeWhile

/-!
# Slices and lines

There is a slice between two parts of a text exactly if the text is split there.  A line of a text
is split off by `IsLine`, and the slices that `highlight?` takes are all split along a line and a
character of it.
-/

namespace KindDispatch.Source

/-! ## Slices -/

@[simp] theorem byteLength_nil : byteLength [] = 0 := rfl

@[simp] theorem byteLength_singleton (c : Char) : byteLength [c] = c.utf8Size := rfl

private theorem behind?_append (before rest : List Char) :
    behind? (before ++ rest) (byteLength before) = some rest := by
  induction before with
  | nil => cases rest <;> simp [byteLength, behind?]
  | cons c before ih =>
      have := c.utf8Size_pos
      obtain ⟨bytes, hbytes⟩ : ∃ bytes, byteLength (c :: before) = bytes + 1 :=
        ⟨byteLength (c :: before) - 1, by rw [byteLength_cons]; omega⟩
      rw [hbytes, List.cons_append, behind?, ← hbytes, byteLength_cons, if_pos (by omega),
        Nat.add_sub_cancel_left, ih]

private theorem exists_of_behind? {text rest : List Char} {bytes : Nat}
    (split : behind? text bytes = some rest) :
    ∃ before, text = before ++ rest ∧ byteLength before = bytes := by
  fun_induction behind? text bytes with
  | case1 text => exact ⟨[], by simpa using split, rfl⟩
  | case2 => contradiction
  | case3 c text bytes fits ih =>
      obtain ⟨before, rfl, hbytes⟩ := ih split
      refine ⟨c :: before, rfl, ?_⟩
      rw [byteLength_cons, hbytes]
      omega
  | case4 => contradiction

theorem slice?_append (before part after : List Char) :
    slice? (before ++ part ++ after) ⟨byteLength before, byteLength (before ++ part)⟩ =
      some part := by
  have first := behind?_append before (part ++ after)
  have second := behind?_append (before ++ part) after
  rw [← List.append_assoc] at first
  simp only [slice?, first, second]
  simp [byteLength_append]

/-- The slices of a text are the parts it can be split into, with the bytes they have there. -/
theorem slice?_eq_some_iff {text part : List Char} {span : Span} :
    slice? text span = some part ↔ ∃ before after, text = before ++ part ++ after ∧
      span = ⟨byteLength before, byteLength (before ++ part)⟩ := by
  constructor
  · intro sliced
    simp only [slice?, Option.bind_eq_bind, Option.bind_eq_some_iff] at sliced
    obtain ⟨rest, hrest, after, hafter, sliced⟩ := sliced
    split at sliced
    · rename_i ordered
      obtain ⟨before, rfl, hstart⟩ := exists_of_behind? hrest
      obtain ⟨upTo, split, hstop⟩ := exists_of_behind? hafter
      rcases List.append_eq_append_iff.mp split with ⟨middle, rfl, rfl⟩ | ⟨middle, rfl, rfl⟩
      · obtain rfl : middle = part := by simpa using sliced
        exact ⟨before, after, by simp, by cases span; simp_all⟩
      · -- the end of the slice is in front of its start, so nothing is between them
        have none : byteLength middle = 0 := by
          rw [← hstart, ← hstop, byteLength_append] at ordered
          omega
        obtain rfl : middle = [] := by
          by_contra nonempty
          exact absurd none (Nat.ne_of_gt (byteLength_pos nonempty))
        obtain rfl : [] = part := by simpa using sliced
        exact ⟨upTo, rest, by simp, by cases span; simp_all⟩
    · contradiction
  · rintro ⟨before, after, rfl, rfl⟩
    exact slice?_append before part after

theorem slice?_to_end (before rest : List Char) :
    slice? (before ++ rest) ⟨byteLength before, byteLength (before ++ rest)⟩ = some rest := by
  simpa using slice?_append before rest []

/-! ## Bytes of characters -/

private theorem offsetsFrom_append (start : Nat) (text text' : List Char) :
    offsetsFrom start (text ++ text') =
      offsetsFrom start text ++ offsetsFrom (start + byteLength text) text' := by
  induction text generalizing start with
  | nil => simp [offsetsFrom, byteLength]
  | cons c rest ih => simp [offsetsFrom, ih, byteLength_cons, Nat.add_assoc]

@[simp] theorem length_offsetsFrom (start : Nat) (text : List Char) :
    (offsetsFrom start text).length = text.length := by
  induction text generalizing start with
  | nil => rfl
  | cons c rest ih => simp [offsetsFrom, ih]

private theorem getElem?_offsets (before : List Char) (c : Char) (after : List Char) :
    (offsets (before ++ c :: after))[before.length]? = some (byteLength before, c) := by
  simp [offsets, offsetsFrom_append, offsetsFrom]

private theorem getElem?_offsets_of_le {text : List Char} {index : Nat}
    (beyond : text.length ≤ index) : (offsets text)[index]? = none := by
  simpa [offsets] using beyond

private theorem elim_offsets (start : Nat) (text : List Char) (index : Nat) :
    (offsets text)[index]?.elim (start + byteLength text) (start + ·.1) =
      start + byteLength (text.take index) := by
  rcases Nat.lt_or_ge index text.length with within | beyond
  · have split := List.take_append_drop index text
    rw [List.drop_eq_getElem_cons within] at split
    have character := getElem?_offsets (text.take index) text[index] (text.drop (index + 1))
    rw [split, List.length_take_of_le (Nat.le_of_lt within)] at character
    rw [character, Option.elim_some]
  · rw [getElem?_offsets_of_le beyond, List.take_of_length_le beyond, Option.elim_none]

private theorem filter_offsetsFrom_eq_nil {text : List Char} (oneLine : '\n' ∉ text) (start : Nat) :
    (offsetsFrom start text).filter (·.2 = '\n') = [] := by
  induction text generalizing start with
  | nil => rfl
  | cons c rest ih =>
      simp only [List.mem_cons, not_or] at oneLine
      simp [offsetsFrom, ih oneLine.2, Ne.symm oneLine.1]

private theorem length_filter_offsetsFrom (start : Nat) (text : List Char) :
    ((offsetsFrom start text).filter (·.2 = '\n')).length = text.count '\n' := by
  induction text generalizing start with
  | nil => rfl
  | cons c rest ih =>
      by_cases ends : c = '\n'
      · simp [offsetsFrom, ends, ih]
      · simp [offsetsFrom, ends, ih]

@[simp] theorem length_lineEnds (text : List Char) :
    (lineEnds text).length = text.count '\n' := by
  simp [lineEnds, offsets, length_filter_offsetsFrom]

private theorem getElem?_lineEnds (before after : List Char) :
    (lineEnds (before ++ '\n' :: after))[before.count '\n']? = some (byteLength before) := by
  have index := length_filter_offsetsFrom 0 before
  simp [lineEnds, offsets, offsetsFrom_append, offsetsFrom, index]

private theorem lineEnd?_of_ended {content : List Char} (oneLine : '\n' ∉ content)
    (after : List Char) : lineEnd? (content ++ '\n' :: after) = some (byteLength content) := by
  have first := getElem?_lineEnds content after
  rwa [List.count_eq_zero_of_not_mem oneLine, ← List.head?_eq_getElem?] at first

private theorem lineEnd?_of_last {content : List Char} (oneLine : '\n' ∉ content) :
    lineEnd? content = none := by
  simp [lineEnd?, lineEnds, offsets, filter_offsetsFrom_eq_nil oneLine]

/-! ## Lines -/

/-- The bytes of the first character of what follows a text. -/
def Span.ofNext (before rest : List Char) : Span :=
  ⟨byteLength before, byteLength before + byteLength (rest.take 1)⟩

/-- A line of a text with what stands before and behind it, line ends included. -/
structure IsLine (text : List Char) (line : Nat) (before content after : List Char) : Prop where
  split : text = before ++ content ++ after
  number : before.count '\n' + 1 = line
  begins : before = [] ∨ ['\n'] <:+ before
  oneLine : '\n' ∉ content
  ends : after = [] ∨ ['\n'] <+: after

private theorem exists_lineEnd {text : List Char} {count : Nat} (enough : count < text.count '\n') :
    ∃ front rest, text = front ++ '\n' :: rest ∧ front.count '\n' = count := by
  induction text generalizing count with
  | nil => simp at enough
  | cons c text ih =>
      by_cases ends : c = '\n'
      · cases count with
        | zero => exact ⟨[], text, by simp [ends], rfl⟩
        | succ count =>
            obtain ⟨front, rest, rfl, hfront⟩ := ih (by simpa [ends] using enough)
            exact ⟨c :: front, rest, rfl, by simp [ends, hfront]⟩
      · obtain ⟨front, rest, rfl, hfront⟩ := ih (by simpa [ends] using enough)
        exact ⟨c :: front, rest, rfl, by simp [ends, hfront]⟩

private theorem upToLineEnd (text : List Char) :
    '\n' ∉ text.takeWhile (· ≠ '\n') ∧
      (text.dropWhile (· ≠ '\n') = [] ∨ ['\n'] <+: text.dropWhile (· ≠ '\n')) := by
  constructor
  · intro member
    simpa using List.mem_takeWhile_imp member
  · have head := List.head?_dropWhile_not (· ≠ '\n') text
    cases hrest : text.dropWhile (· ≠ '\n') <;> simp_all

theorem exists_isLine {text : List Char} {line : Nat} (positive : 1 ≤ line)
    (present : line ≤ text.count '\n' + 1) :
    ∃ before content after, IsLine text line before content after := by
  obtain ⟨before, rest, rfl, number, begins⟩ : ∃ before rest, text = before ++ rest ∧
      before.count '\n' + 1 = line ∧ (before = [] ∨ ['\n'] <:+ before) := by
    rcases Nat.lt_or_ge 1 line with later | first
    · obtain ⟨front, rest, rfl, hfront⟩ :=
        @exists_lineEnd text (line - 2) (by omega)
      refine ⟨front ++ ['\n'], rest, by simp, ?_, .inr ⟨front, rfl⟩⟩
      simp [hfront]
      omega
    · exact ⟨[], text, rfl, by simp; omega, .inl rfl⟩
  obtain ⟨oneLine, ends⟩ := upToLineEnd rest
  exact ⟨before, rest.takeWhile (· ≠ '\n'), rest.dropWhile (· ≠ '\n'), by simp, number, begins,
    oneLine, ends⟩

private theorem afterLineEnds_append (front rest : List Char) :
    afterLineEnds (front ++ '\n' :: rest) (front.count '\n' + 1) = rest := by
  induction front with
  | nil => cases rest <;> simp [afterLineEnds]
  | cons c front ih =>
      by_cases ends : c = '\n'
      · simp [afterLineEnds, ends, ih]
      · simp [afterLineEnds, ends, ih]

private theorem afterLineEnds_of_lt {text : List Char} {count : Nat}
    (few : text.count '\n' < count) : afterLineEnds text count = [] := by
  fun_induction afterLineEnds text count with
  | case1 => simp at few
  | case2 => rfl
  | case3 c rest count ih =>
      apply ih
      by_cases ends : c = '\n' <;> simp_all

namespace IsLine

variable {text before content after : List Char} {line : Nat}
  (isLine : IsLine text (max line 1) before content after)
include isLine

private theorem first_or_later :
    (line ≤ 1 ∧ before = []) ∨
      ∃ front, before = front ++ ['\n'] ∧ line = front.count '\n' + 2 := by
  have number := isLine.number
  rcases isLine.begins with rfl | ⟨front, rfl⟩
  · simp at number
    exact .inl ⟨by omega, rfl⟩
  · simp at number
    exact .inr ⟨front, rfl, by omega⟩

private theorem fromLine_eq : fromLine text line = content ++ after := by
  rw [isLine.split]
  rcases isLine.first_or_later with ⟨first, rfl⟩ | ⟨front, rfl, rfl⟩
  · rw [fromLine_of_le_one _ first, List.nil_append]
  · simpa [fromLine] using afterLineEnds_append front (content ++ after)

private theorem lineOffset_eq : lineOffset text line = byteLength before := by
  rw [isLine.split]
  rcases isLine.first_or_later with ⟨first, rfl⟩ | ⟨front, rfl, rfl⟩
  · simp [lineOffset, first, byteLength]
  · have lineEnd := getElem?_lineEnds front (content ++ after)
    simp only [lineOffset, List.append_assoc, List.cons_append, List.nil_append]
    rw [if_neg (by omega), Nat.add_sub_cancel, lineEnd]
    exact (byteLength_append front ['\n']).symm

private theorem takeWhile_eq : (content ++ after).takeWhile (· ≠ '\n') = content := by
  rw [List.takeWhile_append_of_pos (by grind [isLine.oneLine])]
  rcases isLine.ends with rfl | ⟨rest, rfl⟩ <;> simp

private theorem slice?_eq :
    slice? text ⟨byteLength before,
        (lineEnd? (content ++ after)).elim (byteLength text) (byteLength before + ·)⟩ =
      some content := by
  rw [isLine.split]
  rcases isLine.ends with rfl | ⟨rest, rfl⟩
  · simpa [lineEnd?_of_last isLine.oneLine] using slice?_to_end before content
  · have slice := slice?_append before content ('\n' :: rest)
    simpa [lineEnd?_of_ended isLine.oneLine, byteLength_append] using slice

private theorem split_at (column : Nat) :
    text = before ++ content.take (column - 1) ++ (content.drop (column - 1) ++ after) := by
  rw [isLine.split, ← List.append_assoc, List.append_assoc before (content.take _),
    List.take_append_drop]

theorem highlight_eq (column : Nat) :
    highlight text line column =
      .ofNext (before ++ content.take (column - 1)) (content.drop (column - 1) ++ after) := by
  have bytes : lineStart text line = byteLength before := by
    rw [lineStart, isLine.fromLine_eq, isLine.split, List.append_assoc, byteLength_append before,
      Nat.add_sub_cancel]
  have rest : (content ++ after).drop (content.take (column - 1)).length =
      content.drop (column - 1) ++ after := by
    conv => lhs; rw [← List.take_append_drop (column - 1) content, List.append_assoc]
    simp
  simp only [highlight, isLine.fromLine_eq, isLine.takeWhile_eq, bytes, rest, Span.ofNext,
    byteLength_append]

theorem highlight?_eq (column : Nat) :
    highlight? text line column =
      some (.ofNext (before ++ content.take (column - 1)) (content.drop (column - 1) ++ after)) := by
  have behind : slice? text ⟨byteLength before, byteLength text⟩ = some (content ++ after) := by
    simpa [isLine.split] using slice?_to_end before (content ++ after)
  have split := isLine.split_at column
  have marked := slice?_to_end (before ++ content.take (column - 1))
    (content.drop (column - 1) ++ after)
  rw [← split, byteLength_append] at marked
  simp only [highlight?, isLine.lineOffset_eq, behind, isLine.slice?_eq, elim_offsets, marked,
    Option.bind_eq_bind, Option.bind_some]
  cases hrest : content.drop (column - 1) ++ after with
  | nil => simp [Span.ofNext, byteLength_append]
  | cons c rest =>
      have within : byteLength before + byteLength (content.take (column - 1)) + c.utf8Size ≤
          byteLength text := by
        rw [split, hrest, byteLength_append, byteLength_append, byteLength_cons]
        omega
      simp [Span.ofNext, Nat.min_eq_left within, byteLength_append]

end IsLine

section Beyond

variable {text : List Char} {line : Nat} (beyond : text.count '\n' + 1 < line)
include beyond

private theorem highlight_of_beyond (column : Nat) : highlight text line column = .ofNext text
    [] := by
  have rest : fromLine text line = [] := afterLineEnds_of_lt (by omega)
  simp [highlight, lineStart, rest, Span.ofNext]

private theorem highlight?_of_beyond (column : Nat) :
    highlight? text line column = some (.ofNext text []) := by
  have lineStart : lineOffset text line = byteLength text := by
    rw [lineOffset, if_neg (by omega), List.getElem?_eq_none (by simp; omega)]
    rfl
  have rest : slice? text ⟨byteLength text, byteLength text⟩ = some [] := by
    simpa using slice?_to_end text []
  simp [highlight?, lineStart, rest, lineEnd?_of_last, offsets, offsetsFrom, Span.ofNext]

end Beyond

/-! ## Places -/

theorem byteLength_toList (source : String) : byteLength source.toList = source.utf8ByteSize := by
  have bytes (text : List Char) : byteLength text = text.utf8Encode.size := by
    induction text with
    | nil => simp
    | cons c rest ih =>
        rw [byteLength_cons, ih, List.utf8Encode_cons, ByteArray.size_append,
          List.utf8Encode_singleton, List.size_toByteArray, String.length_utf8EncodeChar]
  rw [bytes, String.utf8Encode_toList, String.size_toByteArray]

theorem highlight_at (before rest : List Char) :
    (highlight (before ++ rest) (1 + before.count '\n')
      (1 + (before.reverse.takeWhile (· ≠ '\n')).length)).start = byteLength before := by
  obtain ⟨oneLine, begins⟩ := upToLineEnd before.reverse
  obtain ⟨oneLine', ends⟩ := upToLineEnd rest
  generalize hlast : before.reverse.takeWhile (· ≠ '\n') = last at oneLine ⊢
  generalize hfront : before.reverse.dropWhile (· ≠ '\n') = front at begins
  have hbefore : before = front.reverse ++ last.reverse := by
    rw [← List.reverse_append, ← hlast, ← hfront, List.takeWhile_append_dropWhile,
      List.reverse_reverse]
  have isLine : IsLine (before ++ rest) (max (1 + before.count '\n') 1) front.reverse
      (last.reverse ++ rest.takeWhile (· ≠ '\n')) (rest.dropWhile (· ≠ '\n')) := by
    refine ⟨by simp [hbefore], ?_, ?_, ?_, ends⟩
    · rw [hbefore, List.count_append, List.count_reverse, List.count_reverse,
        List.count_eq_zero_of_not_mem oneLine]
      omega
    · rcases begins with rfl | begins
      · exact .inl rfl
      · exact .inr (List.reverse_suffix.mpr begins)
    · exact List.not_mem_append (by simpa using oneLine) oneLine'
  rw [isLine.highlight_eq, Span.ofNext, Nat.add_sub_cancel_left, List.take_left' (by simp),
    ← hbefore]

/-- No slice fails, and what is highlighted is the character at the line and column, or what ends
the line or the text if there is none.  Each place of a text is found by its line and column. -/
theorem highlight_locates_character (source : String) (line column : Nat) :
    let text := source.toList
    let span := highlight text line column
    highlight? text line column = some span ∧
    (line ≤ text.count '\n' + 1 →
      ∃ before content after, IsLine text (max line 1) before content after ∧
        (∀ front c behind, content = front ++ c :: behind → front.length + 1 = max column 1 →
          span.start = byteLength (before ++ front)) ∧
        (content.length < max column 1 → span.start = byteLength (before ++ content))) ∧
    (text.count '\n' + 1 < line → span.start = source.utf8ByteSize) ∧
    ((∃ before c rest, text = before ++ c :: rest ∧
        span = ⟨byteLength before, byteLength before + c.utf8Size⟩) ∨
      span = ⟨source.utf8ByteSize, source.utf8ByteSize⟩) ∧
    ∀ before rest, text = before ++ rest →
      (highlight text (1 + before.count '\n')
        (1 + (before.reverse.takeWhile (· ≠ '\n')).length)).start = byteLength before := by
  dsimp only
  rw [← byteLength_toList]
  rcases Nat.lt_or_ge (source.toList.count '\n' + 1) line with beyond | present
  · rw [highlight_of_beyond beyond, highlight?_of_beyond beyond]
    exact ⟨rfl, fun present => absurd beyond (by omega), fun _ => rfl, .inr rfl,
      fun before rest split => split ▸ highlight_at before rest⟩
  · obtain ⟨before, content, after, isLine⟩ :=
      exists_isLine (Nat.le_max_right line 1) (Nat.max_le.mpr ⟨present, Nat.le_add_left ..⟩)
    rw [isLine.highlight_eq, isLine.highlight?_eq]
    refine ⟨rfl, fun _ => ⟨before, content, after, isLine, ?_, ?_⟩, fun beyond => ?_, ?_, ?_⟩
    · rintro front c behind rfl column
      rw [Span.ofNext, List.take_left' (by omega)]
    · intro short
      rw [Span.ofNext, List.take_of_length_le (by omega)]
    · exact absurd beyond (by omega)
    · rw [isLine.split_at column]
      generalize before ++ content.take (column - 1) = front
      cases content.drop (column - 1) ++ after with
      | nil => simp [Span.ofNext]
      | cons c rest => exact .inl ⟨front, c, rest, rfl, rfl⟩
    · exact fun before rest split => split ▸ highlight_at before rest

theorem highlight_locates_accent :
    "let a\n  = é;\n".toList = "let a\n  = ".toList ++ "é;\n".toList ∧
      (highlight "let a\n  = é;\n".toList 2 5).start = 10 ∧
      highlight? "let a\n  = é;\n".toList 2 5 = some ⟨10, 12⟩ ∧
      "let a\n  = é;\n".toList.count '\n' + 1 < 7 ∧
      (highlight "let a\n  = é;\n".toList 7 40).start = 14 := by
  have split : "let a\n  = é;\n".toList = "let a\n  = ".toList ++ "é;\n".toList := by decide
  have few : "let a\n  = é;\n".toList.count '\n' + 1 < 7 := by decide
  obtain ⟨sliced, -, -, -, places⟩ := highlight_locates_character "let a\n  = é;\n" 2 5
  obtain ⟨-, -, beyond, -⟩ := highlight_locates_character "let a\n  = é;\n" 7 40
  exact ⟨split, places _ _ split, sliced, few, beyond few⟩

end KindDispatch.Source
