import KindDispatch.Source.TokenStream

/-!
# Scanners go forwards

A scanner answers a cursor behind what it has read: `cursor.Reaches behind` says that the rest of
the one is some text followed by the rest of the other, and that the position moves along with that
text.
-/

namespace KindDispatch.Source

namespace Position

def after (position : Position) (text : List Char) : Position := text.foldl next position

theorem after_append (position : Position) (text text' : List Char) :
    position.after (text ++ text') = (position.after text).after text' :=
  List.foldl_append

end Position

namespace Cursor

def Reaches (cursor behind : Cursor) : Prop :=
  ∃ text, cursor.rest = text ++ behind.rest ∧ behind.position = cursor.position.after text

namespace Reaches

@[grind .] theorem refl (cursor : Cursor) : cursor.Reaches cursor := ⟨[], rfl, rfl⟩

@[grind →] theorem trans {cursor between behind : Cursor} (first : cursor.Reaches between)
    (second : between.Reaches behind) : cursor.Reaches behind := by
  obtain ⟨text, rest, position⟩ := first
  obtain ⟨text', rest', position'⟩ := second
  refine ⟨text ++ text', ?_, ?_⟩
  · rw [rest, rest', List.append_assoc]
  · rw [position', position, Position.after_append]

@[grind .] theorem step {c : Char} {rest : List Char} {position : Position} {behind : Cursor}
    (later : Reaches ⟨rest, position.next c⟩ behind) : Reaches ⟨c :: rest, position⟩ behind := by
  obtain ⟨text, hrest, hposition⟩ := later
  exact ⟨c :: text, congrArg (c :: ·) hrest, hposition⟩

end Reaches

variable {cursor behind : Cursor} {rest : List Char} {position : Position}

/-! ## Characters and words -/

theorem reaches_drop (count : Nat) (cursor : Cursor) :
    cursor.Reaches (cursor.drop count) := by
  fun_induction drop count cursor <;> grind

@[grind ←] theorem Reaches.drop {between : Cursor} {count : Nat} (first : cursor.Reaches between) :
    cursor.Reaches (between.drop count) :=
  first.trans (reaches_drop count between)

@[grind →] theorem Reaches.of_drop {count : Nat} (later : (cursor.drop count).Reaches behind) :
    cursor.Reaches behind :=
  (reaches_drop count cursor).trans later

private theorem reaches_dropWhile (cursor : Cursor) (condition : Char → Bool) :
    cursor.Reaches (cursor.dropWhile condition) := by
  obtain ⟨rest, position⟩ := cursor
  change Reaches ⟨rest, position⟩ (dropWhileFrom condition rest position)
  fun_induction dropWhileFrom condition rest position <;> grind

@[grind ←] theorem Reaches.dropWhile {between : Cursor} {condition : Char → Bool}
    (first : cursor.Reaches between) : cursor.Reaches (between.dropWhile condition) :=
  first.trans (between.reaches_dropWhile condition)

@[grind →] theorem Reaches.of_dropWhile {condition : Char → Bool}
    (later : (cursor.dropWhile condition).Reaches behind) : cursor.Reaches behind :=
  (cursor.reaches_dropWhile condition).trans later

@[grind →] theorem reaches_expect? {text : String} (found : cursor.expect? text = some behind) :
    cursor.Reaches behind := by
  unfold expect? at found
  grind

@[grind →] theorem reaches_identifier? {name : List Char}
    (found : cursor.identifier? = some (name, behind)) : cursor.Reaches behind := by
  unfold identifier? at found
  grind

@[grind ←] theorem Reaches.skipSuffix {between : Cursor} (first : cursor.Reaches between) :
    cursor.Reaches between.skipSuffix := by
  unfold Cursor.skipSuffix
  grind

@[grind →] theorem reaches_word? {text : String} (found : cursor.word? = some (text, behind)) :
    cursor.Reaches behind := by
  unfold word? at found
  grind [Option.map_eq_some_iff]

@[grind →] theorem word?_of_separateWord? {text : String}
    (found : cursor.separateWord? = some (text, behind)) : cursor.word? = some (text, behind) := by
  unfold separateWord? at found
  grind

/-! ## Blanks and comments -/

@[grind →] theorem reaches_blockCommentFrom {depth : Nat}
    (found : blockCommentFrom depth cursor.rest cursor.position = some behind) :
    cursor.Reaches behind := by
  obtain ⟨rest, position⟩ := cursor
  dsimp only at found
  fun_induction blockCommentFrom depth rest position <;> grind

@[grind →] theorem reaches_blockComment? (found : cursor.blockComment? = some behind) :
    cursor.Reaches behind := by
  unfold blockComment? at found
  grind

@[grind .] theorem reaches_skipBlanksUpTo (limit : Nat) (cursor : Cursor) :
    cursor.Reaches (cursor.skipBlanksUpTo limit) := by
  fun_induction skipBlanksUpTo limit cursor <;> grind [dropLine]

/-! ## Strings and characters -/

@[grind →] theorem reaches_quotedFrom {quoting : Quoting} {state : QuotedState}
    (found : quotedFrom quoting state rest position = some behind) :
    Reaches ⟨rest, position⟩ behind := by
  fun_induction quotedFrom quoting state rest position <;> grind

@[grind →] theorem reaches_rawFrom {quoting : Quoting} {hashes : Nat}
    (found : rawFrom quoting hashes rest position = some behind) :
    Reaches ⟨rest, position⟩ behind := by
  fun_induction rawFrom quoting hashes rest position <;> grind

@[grind →] theorem reaches_raw? {quoting : Quoting} (found : cursor.raw? quoting = some behind) :
    cursor.Reaches behind := by
  unfold raw? at found
  dsimp only at found
  generalize (cursor.takeWhile (· == '#')).length = hashes at found
  have read : (cursor.drop hashes).Reaches behind := by
    generalize cursor.drop hashes = start at found
    obtain ⟨rest, position⟩ := start
    grind
  exact read.of_drop

@[grind →] theorem reaches_quoted? {letters : String} {quoting : Quoting}
    (found : cursor.quoted? letters quoting = some behind) : cursor.Reaches behind := by
  unfold quoted? at found
  grind [Option.map_eq_some_iff, Option.bind_eq_some_iff]

@[grind →] theorem reaches_unicodeFrom {value digits : Nat}
    (found : unicodeFrom value digits cursor.rest cursor.position = some behind) :
    cursor.Reaches behind := by
  obtain ⟨rest, position⟩ := cursor
  dsimp only at found
  fun_induction unicodeFrom value digits rest position <;> grind

@[grind →] theorem reaches_quotedUnit? {quoting : Quoting}
    (found : cursor.quotedUnit? quoting = some behind) : cursor.Reaches behind := by
  unfold quotedUnit? at found
  grind

@[grind →] theorem reaches_unit? {start : String} {quoting : Quoting}
    (found : cursor.unit? start quoting = some behind) : cursor.Reaches behind := by
  unfold unit? at found
  simp only [Option.bind_eq_bind, Option.bind_eq_some_iff] at found
  grind

/-! ## Numbers -/

@[grind →] theorem reaches_exponentFrom {signed digits found : Bool}
    (read : exponentFrom signed digits cursor.rest cursor.position = (found, behind)) :
    cursor.Reaches behind := by
  obtain ⟨rest, position⟩ := cursor
  dsimp only at read
  fun_induction exponentFrom signed digits rest position <;> grind

@[grind →] theorem reaches_realDigits? (found : cursor.realDigits? = some behind) :
    cursor.Reaches behind := by
  unfold realDigits? at found
  grind [skipDigits]

@[grind →] theorem reaches_real? (found : cursor.real? = some behind) : cursor.Reaches behind := by
  unfold real? at found
  simp only [Option.bind_eq_bind, Option.bind_eq_some_iff] at found
  grind [endOfNumber?]

@[grind →] theorem reaches_integerFrom {base number : Nat} {value : Option Nat}
    (found : integerFrom base value cursor.rest cursor.position = some (number, behind)) :
    cursor.Reaches behind := by
  obtain ⟨rest, position⟩ := cursor
  dsimp only at found
  fun_induction integerFrom base value rest position <;> grind [Option.map_eq_some_iff]

@[grind →] theorem reaches_integer? {value : Nat} {suffixed : Bool}
    (found : cursor.integer? = some (value, suffixed, behind)) : cursor.Reaches behind := by
  unfold integer? at found
  simp only [Option.bind_eq_bind, Option.bind_eq_some_iff] at found
  grind [endOfNumber?, base]

@[grind →] theorem reaches_literal? {form : LiteralForm}
    (found : cursor.literal? = some (form, behind)) : cursor.Reaches behind := by
  unfold literal? at found
  grind [Option.map_eq_some_iff]

end Cursor

end KindDispatch.Source
