import KindDispatch.Source.Syntax
import KindDispatch.Source.Token

/-!
# Reading from tokens

A `Parser` reads tokens of one group and fails at the first one that fits nowhere.  What may come
next is described by an `Expectation`: it decides whether the tokens ahead meet it, and has the text
it is called in messages.

Tokens that are left over at the end of a group do not stop a parser.  The first that is found is
kept in `Input.stray`, and reported when everything else could be read.
-/

namespace KindDispatch.Source

abbrev Tokens := List Token

namespace Tokens

def after (tokens : Tokens) (count : Nat) : Tokens := tokens.drop count

def marks : List Char → Tokens → Bool
  | [], _ => true
  | [mark], .punct found _ _ :: _ => mark == found && found != '\''
  | mark :: more, .punct found joint _ :: rest =>
    mark == found && found != '\'' && joint && marks more rest
  | _, _ => false

def punct (tokens : Tokens) (text : String) : Bool := marks text.toList tokens

def keyword (tokens : Tokens) (text : String) : Bool :=
  match tokens with
  | .word found _ :: _ => found == text
  | _ => false

def anyWord : Tokens → Bool
  | .word .. :: _ => true
  | _ => false

def reservedWords : List String := [
  "_", "abstract", "as", "async", "await", "become", "box", "break", "const", "continue", "crate",
  "do", "dyn", "else", "enum", "extern", "false", "final", "fn", "for", "if", "impl", "in", "let",
  "loop", "macro", "match", "mod", "move", "mut", "override", "priv", "pub", "ref", "return",
  "Self", "self", "static", "struct", "super", "trait", "true", "try", "type", "typeof", "unsafe",
  "unsized", "use", "virtual", "where", "while", "yield"]

def identifier : Tokens → Bool
  | .word text _ :: _ => !reservedWords.contains text
  | _ => false

def lifetime : Tokens → Bool
  | .lifetime _ :: _ => true
  | _ => false

def group (tokens : Tokens) (delimiter : Delimiter) : Bool :=
  match tokens with
  | .group found .. :: _ => found == delimiter
  | _ => false

/-- Splits off a literal, the two truth values and negative numbers included. -/
def literal? : Tokens → Option (LiteralForm × Tokens)
  | .literal form _ :: rest => some (form, rest)
  | .word text _ :: rest =>
    if text == "true" || text == "false" then some (.errorMark, rest) else none
  | .punct '-' _ _ :: .literal form _ :: rest =>
    if form.isNumber then some (form, rest) else none
  | _ => none

def literal (tokens : Tokens) : Bool := tokens.literal?.isSome

def stringLiteral : Tokens → Bool
  | .literal .string _ :: _ => true
  | _ => false

end Tokens

inductive Expectation where
  | identifier
  | lifetime
  | literal
  | stringLiteral
  | keyword (text : String)
  | punct (text : String)
  | group (delimiter : Delimiter)
deriving DecidableEq, Repr

namespace Expectation

def holds : Expectation → Tokens → Bool
  | identifier, tokens => tokens.identifier
  | lifetime, tokens => tokens.lifetime
  | literal, tokens => tokens.literal
  | stringLiteral, tokens => tokens.stringLiteral
  | keyword text, tokens => tokens.keyword text
  | punct text, tokens => tokens.punct text
  | group delimiter, tokens => tokens.group delimiter

def display : Expectation → String
  | identifier => "identifier"
  | lifetime => "lifetime"
  | literal => "literal"
  | stringLiteral => "string literal"
  | keyword text | punct text => "`" ++ text ++ "`"
  | group .parenthesis => "parentheses"
  | group .bracket => "square brackets"
  | group .brace => "curly braces"

end Expectation

structure Input where
  tokens : Tokens
  /-- Delimiter of the group, none at the top level. -/
  delimiter : Option Delimiter
  /-- Where the group ends; the top level counts as ending at the start of the text. -/
  close : Position
  /-- The failure for the first token that was left over in a group. -/
  stray : Option ParseFailure
  /-- Number of tokens of the whole text, which bounds the turns of any loop. -/
  bound : Nat

namespace Input

def ofTokens (tokens : List Token) : Input :=
  ⟨tokens, none, .start, none, Token.sizeList tokens⟩

def isAtEnd (input : Input) : Bool := input.tokens.isEmpty

def position (input : Input) : Position :=
  match input.tokens with
  | token :: _ => token.position
  | [] => input.close

def failure (input : Input) (message : String) : ParseFailure :=
  .ofPosition input.position <|
    if input.isAtEnd then "unexpected end of input, " ++ message else message

/-- The failure for expectations that were not enough to go on; those that are met are not
mentioned. -/
def unmet (input : Input) (expectations : List Expectation) : ParseFailure :=
  match expectations.filter fun expectation => !expectation.holds input.tokens with
  | [] =>
    .ofPosition input.position
      (if input.isAtEnd then "unexpected end of input" else "unexpected token")
  | [only] => input.failure ("expected " ++ only.display)
  | [first, second] => input.failure ("expected " ++ first.display ++ " or " ++ second.display)
  | many => input.failure ("expected one of: " ++ ", ".intercalate (many.map Expectation.display))

def leftover? (input : Input) : Option ParseFailure :=
  if input.isAtEnd then none
  else some <| .ofPosition input.position <| match input.delimiter with
    | some delimiter => "unexpected token, expected " ++ delimiter.closing
    | none => "unexpected token"

end Input

abbrev Parser := StateT Input (Except ParseFailure)

namespace Parser

def ahead : Parser Tokens := return (← get).tokens

def atEnd : Parser Bool := return (← get).isAtEnd

def position : Parser Position := return (← get).position

def raise {α : Type} (failure : ParseFailure) : Parser α := throw failure

def fail {α : Type} (message : String) : Parser α := do raise ((← get).failure message)

def unmet {α : Type} (expectations : List Expectation) : Parser α := do
  raise ((← get).unmet expectations)

def skip (count : Nat) : Parser Unit :=
  modify fun input => { input with tokens := input.tokens.after count }

def peekPunct (text : String) : Parser Bool := return (← ahead).punct text
def peekKeyword (text : String) : Parser Bool := return (← ahead).keyword text
def peekGroup (delimiter : Delimiter) : Parser Bool := return (← ahead).group delimiter

def punct (text : String) : Parser Unit := do
  if ← peekPunct text then skip text.length
  else raise (.ofPosition (← position) ("expected `" ++ text ++ "`"))

def optPunct (text : String) : Parser Bool := do
  if ← peekPunct text then skip text.length; return true
  else return false

def keyword (text : String) : Parser Unit := do
  if ← peekKeyword text then skip 1 else fail ("expected `" ++ text ++ "`")

def optKeyword (text : String) : Parser Bool := do
  if ← peekKeyword text then skip 1; return true
  else return false

def anyWord : Parser Name := do
  match ← ahead with
  | .word text position :: _ => skip 1; return ⟨text, position.line⟩
  | _ => fail "expected ident"

def identifier : Parser Name := do
  match ← ahead with
  | .word text position :: _ =>
    if Tokens.reservedWords.contains text then
      fail ("expected identifier, found keyword `" ++ text ++ "`")
    else
      skip 1
      return ⟨text, position.line⟩
  | _ => fail "expected identifier"

def lifetime : Parser Unit := do
  if (← ahead).lifetime then skip 1 else fail "expected lifetime"

def optLifetime : Parser Bool := do
  if (← ahead).lifetime then skip 1; return true
  else return false

def literal : Parser LiteralForm := do
  match (← ahead).literal? with
  | some (form, rest) => modify fun input => { input with tokens := rest }; return form
  | none => fail "expected literal"

/-- Reads a group, its content with `content`, and answers the failure for what is left over in
it as well. -/
def groupAndLeftover {α : Type} (delimiter : Delimiter) (content : Parser α) :
    Parser (α × Option ParseFailure) := fun input =>
  match input.tokens with
  | .group found _ tokens close :: rest =>
    if found = delimiter then
      match content { input with tokens, delimiter := some delimiter, close } with
      | .ok (result, inner) =>
        .ok ((result, inner.leftover?), { input with tokens := rest, stray := inner.stray })
      | .error failure => .error failure
    else .error (input.unmet [.group delimiter])
  | _ => .error (input.unmet [.group delimiter])

def keepStray (leftover : Option ParseFailure) : Parser Unit :=
  modify fun input => { input with stray := input.stray <|> leftover }

/-- Reads a group and what belongs to it behind it.  What is left over in groups behind it counts as
found first. -/
def groupThen {α β : Type} (delimiter : Delimiter) (content : Parser α) (behind : α → Parser β) :
    Parser β := do
  let (result, leftover) ← groupAndLeftover delimiter content
  let result ← behind result
  keepStray leftover
  return result

def group {α : Type} (delimiter : Delimiter) (content : Parser α) : Parser α :=
  groupThen delimiter content pure

def skipGroup (delimiter : Delimiter) : Parser Unit := group delimiter (do skip (← ahead).length)

def anyGroup : Parser Delimiter := do
  match ← ahead with
  | .group delimiter .. :: _ => skip 1; return delimiter
  | _ => fail "expected delimiter"

def attempt {α : Type} (parser : Parser α) : Parser (Option α) := fun input =>
  match parser input with
  | .ok (result, input) => .ok (some result, input)
  | .error _ => .ok (none, input)

def lookAhead {α : Type} (parser : Parser α) : Parser (α × Input) := fun input =>
  match parser input with
  | .ok (result, behind) => .ok ((result, behind), input)
  | .error failure => .error failure

inductive Turn (α : Type) where
  | stop
  /-- The last entry of the list. -/
  | last (entry : α)
  /-- An entry; there may be more. -/
  | more (entry : α)

def collectUpTo {α : Type} (turn : Parser (Turn α)) : (limit : Nat) → Parser (List α)
  | 0 => return []
  | limit + 1 => do
    match ← turn with
    | .stop => return []
    | .last entry => return [entry]
    | .more entry => return entry :: (← collectUpTo turn limit)

/-- The entries of all turns; each but the last reads a token. -/
def collect {α : Type} (turn : Parser (Turn α)) : Parser (List α) := do
  collectUpTo turn ((← get).bound + 1)

def collectWhile {α : Type} (condition : Tokens → Bool) (entry : Parser α) : Parser (List α) :=
  collect do
    if condition (← ahead) then return .more (← entry) else return .stop

def untilEnd {α : Type} (entry : Parser α) : Parser (List α) :=
  collectWhile (fun tokens => !tokens.isEmpty) entry

def separated {α : Type} (stop : Tokens → Bool) (separator : String) (entry : Parser α) :
    Parser (List α) :=
  collect do
    if stop (← ahead) then return .stop
    let result ← entry
    unless stop (← ahead) do punct separator
    return .more result

def commaList {α : Type} (entry : Parser α) : Parser (List α) :=
  separated List.isEmpty "," entry

def joined {α : Type} (stop : Tokens → Bool) (separator : String) (entry : Parser α) :
    Parser (List α) :=
  collect do
    if stop (← ahead) then return .stop
    let result ← entry
    if ← optPunct separator then return .more result else return .last result

def loopUpTo {σ : Type} (turn : σ → Parser (Turn σ)) : (limit : Nat) → σ → Parser σ
  | 0, state => return state
  | limit + 1, state => do
    match ← turn state with
    | .stop => return state
    | .last state => return state
    | .more state => loopUpTo turn limit state

def loop {σ : Type} (turn : σ → Parser (Turn σ)) (state : σ) : Parser σ := do
  loopUpTo turn ((← get).bound + 1) state

end Parser

end KindDispatch.Source
