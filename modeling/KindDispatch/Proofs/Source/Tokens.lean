import KindDispatch.Proofs.Source.Scanning
import KindDispatch.Proofs.Source.TakenFrom

/-!
# Tokens and the text

Every token is where it stands in the text: its places are those of characters, and the names it
gives are read there.
-/

namespace KindDispatch.Source

/-! ## Positions in a text -/

namespace Position

/-- The position of a character of a text, or the one behind the last. -/
def IsIn (text : List Char) (position : Position) : Prop :=
  ∃ before rest, text = before ++ rest ∧ position = start.after before

theorem line_after (position : Position) (text : List Char) :
    (position.after text).line = position.line + text.count '\n' := by
  induction text generalizing position with
  | nil => rfl
  | cons c rest ih =>
      change ((position.next c).after rest).line = _
      rw [ih, List.count_cons]
      unfold next
      split
      · rename_i ended
        simp only [ended, beq_self_eq_true, if_true]
        omega
      · rename_i within
        simp [within]

theorem column_after {text : List Char} (oneLine : '\n' ∉ text) (position : Position) :
    (position.after text).column = position.column + text.length := by
  induction text generalizing position with
  | nil => rfl
  | cons c rest ih =>
      simp only [List.mem_cons, not_or] at oneLine
      change ((position.next c).after rest).column = _
      rw [ih oneLine.2, next, if_neg (Ne.symm oneLine.1), List.length_cons]
      dsimp only
      omega

theorem column_pos_after {position : Position} (text : List Char) (positive : 0 < position.column) :
    0 < (position.after text).column := by
  induction text generalizing position with
  | nil => exact positive
  | cons c rest ih =>
      have next_pos : 0 < (position.next c).column := by
        unfold next
        split
        · exact Nat.one_pos
        · exact Nat.succ_pos _
      exact ih next_pos

end Position

namespace Cursor

def IsIn (text : List Char) (cursor : Cursor) : Prop :=
  ∃ before, text = before ++ cursor.rest ∧ cursor.position = Position.start.after before

variable {text : List Char} {cursor behind : Cursor}

theorem IsIn.position (inText : cursor.IsIn text) : cursor.position.IsIn text := by
  obtain ⟨before, split, position⟩ := inText
  exact ⟨before, cursor.rest, split, position⟩

theorem IsIn.reaches (inText : cursor.IsIn text) (reaches : cursor.Reaches behind) :
    behind.IsIn text := by
  obtain ⟨before, split, position⟩ := inText
  obtain ⟨read, rest, later⟩ := reaches
  refine ⟨before ++ read, ?_, ?_⟩
  · rw [split, rest, List.append_assoc]
  · rw [later, position, Position.after_append]

/-- What identifier is read at a cursor.  The word `self` as a parameter names the type `Self`, and
comments that document something are attributes that are named `doc`. -/
inductive Identifies (cursor : Cursor) : String → Prop
  | word {text : String} {behind : Cursor} (read : cursor.word? = some (text, behind)) :
    Identifies cursor text
  | self {behind : Cursor} (read : cursor.word? = some ("self", behind)) : Identifies cursor "Self"
  | comment {inner : Bool} {behind : Cursor} (read : cursor.docComment? = some (inner, behind)) :
    Identifies cursor "doc"

end Cursor

def Name.IsIn (text : List Char) (name : Name) : Prop :=
  ∃ before cursor, text = before ++ Cursor.rest cursor ∧ name.line = before.count '\n' + 1 ∧
    cursor.Identifies name.text

theorem Cursor.IsIn.name {text : List Char} {cursor : Cursor} {name : String}
    (inText : cursor.IsIn text) (identifies : cursor.Identifies name) :
    Name.IsIn text ⟨name, cursor.position.line⟩ := by
  obtain ⟨before, split, position⟩ := inText
  refine ⟨before, cursor, split, ?_, identifies⟩
  dsimp only
  rw [position, Position.line_after, Nat.add_comm]
  rfl

/-! ## Single tokens -/

namespace Token

def IsIn (text : List Char) (token : Token) : Prop :=
  (∀ place ∈ token.places, place.IsIn text) ∧ ∀ name ∈ token.names, name.IsIn text

def IsAllIn (text : List Char) (token : Token) : Prop := ∀ part ∈ token.flatten, part.IsIn text

private theorem isAllIn_nameless {text : List Char} {token : Token} {place : Position}
    (start : place.IsIn text) (leaf : token.flatten = [token]) (places : token.places = [place])
    (nameless : token.names = []) : token.IsAllIn text := by
  simp [IsAllIn, IsIn, leaf, places, nameless, start]

private theorem isAllIn_group {text : List Char} {delimiter : Delimiter} {position close : Position}
    {content : List Token} (start : position.IsIn text) (stop : close.IsIn text)
    (inside : ∀ token ∈ content, token.IsAllIn text) :
    (group delimiter position content close).IsAllIn text := by
  intro part member
  rcases List.mem_cons.mp member with rfl | member
  · simp [IsIn, places, names, start, stop]
  · obtain ⟨token, among, member⟩ := mem_flattenList.mp member
    exact inside token among part member

end Token

namespace Cursor

variable {text : List Char} {cursor behind : Cursor}

/-- The last character that is read is not a line end. -/
def Passes (cursor behind : Cursor) : Prop :=
  ∃ between last, cursor.Reaches between ∧ between.rest = last :: behind.rest ∧ last ≠ '\n' ∧
    behind.position = between.position.next last

namespace Passes

theorem reaches (passes : cursor.Passes behind) : cursor.Reaches behind := by
  obtain ⟨between, last, reaches, rest, -, position⟩ := passes
  refine reaches.trans ⟨[last], ?_, ?_⟩
  · rw [rest, List.singleton_append]
  · rw [position]
    rfl

@[grind .] theorem char {c : Char} (inLine : c ≠ '\n') (rest : List Char) (position : Position) :
    Passes ⟨c :: rest, position⟩ ⟨rest, position.next c⟩ :=
  ⟨_, c, .refl _, rfl, inLine, rfl⟩

theorem of_reaches {between : Cursor} (first : cursor.Reaches between)
    (last : between.Passes behind) : cursor.Passes behind := by
  obtain ⟨between', c, reaches, last⟩ := last
  exact ⟨between', c, first.trans reaches, last⟩

@[grind .] theorem step {c : Char} {rest : List Char} {position : Position}
    (later : Passes ⟨rest, position.next c⟩ behind) : Passes ⟨c :: rest, position⟩ behind :=
  of_reaches (.step (.refl _)) later

private theorem left_isIn (inText : cursor.IsIn text) (passes : cursor.Passes behind) :
    behind.position.left.IsIn text := by
  obtain ⟨between, last, reaches, -, inLine, position⟩ := passes
  have same : behind.position.left = between.position := by
    rw [position, Position.next, if_neg inLine, Position.left]
    rfl
  rw [same]
  exact (inText.reaches reaches).position

end Passes

private theorem passes_blockCommentFrom {depth : Nat} {rest : List Char} {position : Position}
    (found : blockCommentFrom depth rest position = some behind) :
    Passes ⟨rest, position⟩ behind := by
  fun_induction blockCommentFrom depth rest position <;> grind

private theorem passes_dropLine (cursor : Cursor) :
    cursor.dropLine = cursor ∨ cursor.Passes cursor.dropLine := by
  obtain ⟨rest, position⟩ := cursor
  change dropWhileFrom (· != '\n') rest position = _ ∨
    Passes _ (dropWhileFrom (· != '\n') rest position)
  fun_induction dropWhileFrom (· != '\n') rest position <;> grind

private theorem passes_startsWith {text : String} (front : List Char) {last : Char}
    (ending : text.toList = front ++ [last]) (inLine : last ≠ '\n')
    (starts : cursor.startsWith text) : cursor.Passes (cursor.drop text.length) := by
  have length : text.length = front.length + 1 := by
    rw [← String.length_toList, ending, List.length_append, List.length_singleton]
  rw [startsWith, ending, List.isPrefixOf_iff_prefix] at starts
  obtain ⟨behind, rest⟩ := starts
  rw [length]
  clear ending length
  obtain ⟨_, position⟩ := cursor
  subst rest
  induction front generalizing position with
  | nil => exact .char inLine _ _
  | cons c front ih => exact .step (ih _)

theorem passes_docComment? {inner : Bool} (found : cursor.docComment? = some (inner, behind)) :
    cursor.Passes behind := by
  have line {text : String} (starts : cursor.startsWith text = true)
      (slashes : text = "//!" ∨ text = "///") : cursor.Passes (cursor.drop 3).dropLine := by
    have passes : cursor.Passes (cursor.drop 3) := by
      rcases slashes with rfl | rfl
      · exact passes_startsWith ['/', '/'] rfl (by decide) starts
      · exact passes_startsWith ['/', '/'] rfl (by decide) starts
    rcases passes_dropLine (cursor.drop 3) with same | later
    · rwa [same]
    · exact .of_reaches passes.reaches later
  have block {behind : Cursor} (found : cursor.blockComment? = some behind) :
      cursor.Passes behind := by
    unfold blockComment? at found
    split at found
    · exact passes_blockCommentFrom found
    · contradiction
  unfold docComment? at found
  grind

private theorem isAllIn_docTokens {inner : Bool} (inText : cursor.IsIn text)
    (found : cursor.docComment? = some (inner, behind)) :
    ∀ token ∈ docTokens inner cursor.position behind.position.left, token.IsAllIn text := by
  have start := inText.position
  have close := (passes_docComment? found).left_isIn inText
  have name := inText.name (.comment found)
  cases inner <;>
    simp [docTokens, Token.IsAllIn, Token.IsIn, Token.flatten, Token.flattenList, Token.places,
      Token.names, Token.position, start, close, name]

@[grind →] theorem reaches_mark? {c : Char} (found : cursor.mark? = some (c, behind)) :
    cursor.Reaches behind := by
  unfold mark? at found
  grind

theorem isAllIn_word {word : String} (inText : cursor.IsIn text)
    (read : cursor.word? = some (word, behind)) :
    (Token.word word cursor.position).IsAllIn text := by
  have start := inText.position
  have name := inText.name (.word read)
  by_cases self : word = "self"
  · subst self
    have type := inText.name (.self read)
    simp [Token.IsAllIn, Token.IsIn, Token.flatten, Token.places, Token.names, Token.position,
      start, name, type]
  · simp [Token.IsAllIn, Token.IsIn, Token.flatten, Token.places, Token.names, Token.position,
      start, name, self]

theorem isAllIn_afterQuote? {token : Token} {behindQuote : Cursor} (inText : cursor.IsIn text)
    (found : cursor.afterQuote? behindQuote = some (token, behind)) :
    behindQuote.Reaches behind ∧ token.IsAllIn text := by
  have start := inText.position
  have punct : (Token.punct '\'' true cursor.position).IsAllIn text :=
    Token.isAllIn_nameless start rfl rfl rfl
  have lifetime : (Token.lifetime cursor.position).IsAllIn text :=
    Token.isAllIn_nameless start rfl rfl rfl
  unfold afterQuote? at found
  grind

theorem isAllIn_leaf? {token : Token} (inText : cursor.IsIn text)
    (found : cursor.leaf? = some (token, behind)) :
    cursor.Reaches behind ∧ token.IsAllIn text := by
  have start := inText.position
  have literal (form : LiteralForm) : (Token.literal form cursor.position).IsAllIn text :=
    Token.isAllIn_nameless start rfl rfl rfl
  have punct (c : Char) (joint : Bool) : (Token.punct c joint cursor.position).IsAllIn text :=
    Token.isAllIn_nameless start rfl rfl rfl
  unfold leaf? at found
  grind [→ isAllIn_word, → isAllIn_afterQuote?, Option.map_eq_some_iff]

end Cursor

/-! ## Whole texts -/

def OpenGroup.IsIn (text : List Char) (group : OpenGroup) : Prop :=
  group.position.IsIn text ∧ ∀ token ∈ group.before, token.IsAllIn text

/-- All places of a failure or of the tokens are in a text, and the names are read there. -/
def ReadIn (text : List Char) : Except ParseFailure (List Token) → Prop
  | .error failure => Position.IsIn text ⟨failure.line, failure.column⟩
  | .ok tokens => ∀ token ∈ tokens, token.IsAllIn text

theorem readIn_tokenTreesFrom {text : List Char} (limit : Nat) {cursor : Cursor}
    {stack : List OpenGroup} {done : List Token} (inText : cursor.IsIn text)
    (opened : ∀ group ∈ stack, group.IsIn text) (read : ∀ token ∈ done, token.IsAllIn text) :
    ReadIn text (tokenTreesFrom limit cursor stack done) := by
  -- a turn starts behind blanks, and all but those for groups leave the stack as it is
  have skip (limit : Nat) {cursor : Cursor} (inText : cursor.IsIn text) :
      (cursor.skipBlanksUpTo limit).IsIn text :=
    inText.reaches (Cursor.reaches_skipBlanksUpTo limit cursor)
  have drop {cursor : Cursor} (inText : cursor.IsIn text) : (cursor.drop 1).IsIn text :=
    inText.reaches (Cursor.reaches_drop 1 cursor)
  fun_induction tokenTreesFrom limit cursor stack done with
  | case1 cursor => exact inText.position
  | case2 limit cursor stack done cursor' start inner behind found ih =>
      have comment := Cursor.isAllIn_docTokens (skip _ inText) found
      exact ih ((skip _ inText).reaches (Cursor.passes_docComment? found).reaches) opened
        (List.forall_mem_append.mpr ⟨comment, read⟩)
  | case3 => exact fun token member => read token (List.mem_reverse.mp member)
  | case4 limit cursor done cursor' noComment noRest innermost stack =>
      exact (opened innermost (.head _)).1
  | case5 limit cursor stack done cursor' _ _ _ _ _ _ _ token behind found ih =>
      obtain ⟨reaches, leaf⟩ := Cursor.isAllIn_leaf? (skip _ inText) found
      exact ih ((skip _ inText).reaches reaches) opened (List.forall_mem_cons.mpr ⟨leaf, read⟩)
  | case7 limit cursor stack done cursor' start _ _ _ _ delimiter _ _ ih =>
      have group : OpenGroup.IsIn text ⟨delimiter, start, done⟩ := ⟨(skip _ inText).position, read⟩
      exact ih (drop (skip _ inText)) (List.forall_mem_cons.mpr ⟨group, opened⟩) (by simp)
  | case9 limit cursor done cursor' start _ _ _ _ _ innermost stack _ group ih =>
      obtain ⟨⟨position, before⟩, opened⟩ := List.forall_mem_cons.mp opened
      have inside : group.IsAllIn text :=
        Token.isAllIn_group position (skip _ inText).position
          fun token member => read token (List.mem_reverse.mp member)
      exact ih (drop (skip _ inText)) opened (List.forall_mem_cons.mpr ⟨inside, before⟩)
  | case11 limit cursor stack done cursor' _ _ _ _ _ _ token behind found ih =>
      obtain ⟨reaches, leaf⟩ := Cursor.isAllIn_leaf? (skip _ inText) found
      exact ih ((skip _ inText).reaches reaches) opened (List.forall_mem_cons.mpr ⟨leaf, read⟩)
  | _ => exact (skip _ inText).position

theorem readIn_tokenTrees (text : List Char) : ReadIn text (tokenTrees text) := by
  have start : (Cursor.ofList text).IsIn text := ⟨[], rfl, rfl⟩
  apply readIn_tokenTreesFrom _ _ (by simp) (by simp)
  split
  · exact start.reaches (Cursor.reaches_drop 1 _)
  · exact start

end KindDispatch.Source
