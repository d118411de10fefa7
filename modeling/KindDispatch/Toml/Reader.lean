/-!
# Readers of TOML texts

A parser reads characters and answers a value and what is left, or a mistake.  After a mistake that
is not final another way of reading the same text may be tried; `commit` makes mistakes final.  A
mistake carries the byte the reading had come to.
-/

namespace KindDispatch.Toml

/-- The part of a text that has not been read yet; `offset` counts the bytes before it. -/
structure Reader where
  rest : List Char
  offset : Nat
deriving DecidableEq, Repr, Inhabited

namespace Reader

def ofList (text : List Char) : Reader := ⟨text, 0⟩

def next (reader : Reader) (c : Char) (rest : List Char) : Reader :=
  ⟨rest, reader.offset + c.utf8Size⟩

end Reader

structure Span where
  start : Nat
  stop : Nat
deriving DecidableEq, Repr, Inhabited

structure Mistake where
  /-- The byte the reading had come to. -/
  offset : Nat
  /-- What could not be read. -/
  subject : Option String
  /-- What could have come instead. -/
  expected : List String
  /-- Why something that was read cannot stand. -/
  cause : Option String
deriving DecidableEq, Repr, Inhabited

namespace Mistake

def plain (offset : Nat) : Mistake := ⟨offset, none, [], none⟩

def message (mistake : Mistake) : String :=
  "\n".intercalate ((mistake.subject.map ("invalid " ++ ·)).toList ++
    (if mistake.expected.isEmpty then []
     else ["expected " ++ ", ".intercalate mistake.expected]) ++ mistake.cause.toList)

end Mistake

inductive Outcome (α : Type) where
  | ok (value : α) (reader : Reader)
  /-- Another way of reading may be tried. -/
  | retry (mistake : Mistake)
  | fatal (mistake : Mistake)
deriving Inhabited

abbrev Parser (α : Type) : Type := Reader → Outcome α

namespace Parser

variable {α β : Type}

instance : Monad Parser where
  pure value reader := .ok value reader
  bind parser continuation reader :=
    match parser reader with
    | .ok value reader => continuation value reader
    | .retry mistake => .retry mistake
    | .fatal mistake => .fatal mistake

def fail : Parser α := fun reader => .retry (.plain reader.offset)

def orElse (first second : Parser α) : Parser α := fun reader =>
  match first reader with
  | .retry _ => second reader
  | outcome => outcome

/-- Makes mistakes final. -/
def commit (parser : Parser α) : Parser α := fun reader =>
  match parser reader with
  | .retry mistake => .fatal mistake
  | outcome => outcome

def adjust (change : Mistake → Mistake) (parser : Parser α) : Parser α := fun reader =>
  match parser reader with
  | .ok value reader => .ok value reader
  | .retry mistake => .retry (change mistake)
  | .fatal mistake => .fatal (change mistake)

/-- Says what a parser reads; the innermost name stays. -/
def named (subject : String) : Parser α → Parser α :=
  adjust fun mistake => { mistake with subject := mistake.subject <|> some subject }

def expecting (what : List String) : Parser α → Parser α :=
  adjust fun mistake => { mistake with expected := mistake.expected ++ what }

def convert (parser : Parser α) (conversion : α → Except (Option String) β) : Parser β :=
  fun reader =>
    match parser reader with
    | .retry mistake => .retry mistake
    | .fatal mistake => .fatal mistake
    | .ok value behind =>
      match conversion value with
      | .ok value => .ok value behind
      | .error cause => .retry { Mistake.plain reader.offset with cause }

def verify (parser : Parser α) (condition : α → Bool) : Parser α :=
  parser.convert fun value => if condition value then .ok value else .error none

def optional (parser : Parser α) : Parser (Option α) := fun reader =>
  match parser reader with
  | .ok value reader => .ok (some value) reader
  | .retry _ => .ok none reader
  | .fatal mistake => .fatal mistake

def lookAhead (parser : Parser α) : Parser α := fun reader =>
  match parser reader with
  | .ok value _ => .ok value reader
  | outcome => outcome

def withSpan (parser : Parser α) : Parser (α × Span) := fun reader =>
  match parser reader with
  | .ok value behind => .ok (value, ⟨reader.offset, behind.offset⟩) behind
  | .retry mistake => .retry mistake
  | .fatal mistake => .fatal mistake

def taken (parser : Parser α) : Parser (List Char) := fun reader =>
  match parser reader with
  | .ok _ behind => .ok (reader.rest.take (reader.rest.length - behind.rest.length)) behind
  | .retry mistake => .retry mistake
  | .fatal mistake => .fatal mistake

/-! ## Characters -/

def ahead : Parser (Option Char) := fun reader => .ok reader.rest.head? reader

def theEnd : Parser Unit := fun reader =>
  if reader.rest.isEmpty then .ok () reader else .retry (.plain reader.offset)

def anyChar : Parser Char := fun reader =>
  match reader.rest with
  | [] => .retry (.plain reader.offset)
  | c :: rest => .ok c (reader.next c rest)

def atLeast (count : Nat) : Parser Unit := fun reader =>
  if (reader.rest.take count).length = count then .ok () reader
  else .retry (.plain reader.offset)

def satisfy (condition : Char → Bool) : Parser Char := fun reader =>
  match reader.rest with
  | [] => .retry (.plain reader.offset)
  | c :: rest =>
    if condition c then .ok c (reader.next c rest) else .retry (.plain reader.offset)

def char (c : Char) : Parser Unit := do discard (satisfy (· == c))

def text (wanted : String) : Parser Unit := fun reader =>
  if wanted.toList.isPrefixOf reader.rest then
    .ok () ⟨reader.rest.drop wanted.length, reader.offset + wanted.utf8ByteSize⟩
  else .retry (.plain reader.offset)

def spanWhile (condition : Char → Bool) : (rest : List Char) → (offset : Nat) →
    List Char × Reader
  | [], offset => ([], ⟨[], offset⟩)
  | c :: rest, offset =>
    if condition c then
      let (taken, reader) := spanWhile condition rest (offset + c.utf8Size)
      (c :: taken, reader)
    else ([], ⟨c :: rest, offset⟩)

def takeWhile (condition : Char → Bool) : Parser (List Char) := fun reader =>
  let (taken, reader) := spanWhile condition reader.rest reader.offset
  .ok taken reader

def takeSome (condition : Char → Bool) : Parser (List Char) :=
  (takeWhile condition).verify (!·.isEmpty)

/-! ## Repetition -/

def manyUpTo (parser : Parser α) : (limit : Nat) → Parser (List α)
  | 0 => pure []
  | limit + 1 => fun reader =>
    match parser reader with
    | .ok value behind =>
      match manyUpTo parser limit behind with
      | .ok values reader => .ok (value :: values) reader
      | outcome => outcome
    | .retry _ => .ok [] reader
    | .fatal mistake => .fatal mistake

def many (parser : Parser α) : Parser (List α) := fun reader =>
  manyUpTo parser (reader.rest.length + 1) reader

/-- Reads values with a separator between them, at least one; a separator that no value follows is
left. -/
def separated (parser : Parser α) (separator : Parser Unit) : Parser (List α) := do
  let first ← parser
  return first :: (← many do separator; parser)

end Parser

end KindDispatch.Toml
