import KindDispatch.Source.Grammar.Path

/-!
# What is taken from the tokens

What is read from a text is taken from its tokens: the names are those of words, and the places are
those of tokens.  `TakenFrom scope value` says so of a value, where `scope` holds all tokens of the
text, those in groups included.

Its rules are instances, one for each way values are put together, so that the instance of a value
is found along its term.
-/

namespace KindDispatch.Source

/-! ## Places and names -/

namespace Token

mutual

def flatten : Token → List Token
  | .group delimiter position content close =>
    .group delimiter position content close :: flattenList content
  | token => [token]

def flattenList : List Token → List Token
  | [] => []
  | token :: rest => flatten token ++ flattenList rest

end

theorem mem_flatten (token : Token) : token ∈ token.flatten := by
  cases token <;> simp [flatten]

theorem mem_flattenList {part : Token} {tokens : List Token} :
    part ∈ flattenList tokens ↔ ∃ token ∈ tokens, part ∈ token.flatten := by
  induction tokens with
  | nil => simp [flattenList]
  | cons token rest ih => simp [flattenList, ih]

theorem flattenList_subset_iff {tokens scope : List Token} :
    flattenList tokens ⊆ scope ↔ ∀ token ∈ tokens, token.flatten ⊆ scope := by
  simp only [List.subset_def, mem_flattenList]
  grind

/-- Where a token starts, and where it ends if it is a group. -/
def places : Token → List Position
  | .group _ position _ close => [position, close]
  | token => [token.position]

private theorem position_mem_places (token : Token) : token.position ∈ token.places := by
  cases token <;> simp [places, position]

/-- The names a token may give; the word `self` as a parameter names the type `Self` as well. -/
def names : Token → List Name
  | .word text position =>
    if text = "self" then [⟨text, position.line⟩, ⟨"Self", position.line⟩]
    else [⟨text, position.line⟩]
  | _ => []

end Token

namespace Tokens

def places (scope : Tokens) : List Position := .start :: scope.flatMap Token.places

def names (scope : Tokens) : List Name := scope.flatMap Token.names

theorem mem_places {scope : Tokens} {token : Token} (member : token ∈ scope) {position : Position}
    (place : position ∈ token.places) : position ∈ scope.places :=
  List.mem_cons_of_mem _ (List.mem_flatMap_of_mem member place)

theorem mem_names_word {scope : Tokens} {text : String} {position : Position}
    (member : .word text position ∈ scope) : ⟨text, position.line⟩ ∈ scope.names := by
  apply List.mem_flatMap_of_mem member
  by_cases self : text = "self" <;> simp [Token.names, self]

theorem mem_names_self {scope : Tokens} {position : Position}
    (member : .word "self" position ∈ scope) : ⟨"Self", position.line⟩ ∈ scope.names := by
  apply List.mem_flatMap_of_mem member
  simp [Token.names]

end Tokens

/-- Where the dots of a range are.  No other construct remembers a place. -/
@[reducible] def Construct.places : Construct → List Position
  | .rangeExpr dots _ => [dots]
  | _ => []

/-! ## Values -/

/-- What it means for values of a type to be taken from tokens. -/
class Sourced (α : Type) where
  takenFrom : (scope : Tokens) → α → Prop

class TakenFrom (scope : Tokens) {α : Type} [Sourced α] (value : α) : Prop where
  taken : Sourced.takenFrom scope value

theorem taken {scope : Tokens} {α : Type} [Sourced α] (value : α) [source : TakenFrom scope value] :
    Sourced.takenFrom scope value :=
  source.taken

abbrev Taken (scope : Tokens) (α : Type) [Sourced α] : Type :=
  { value : α // Sourced.takenFrom scope value }

inductive Element.IsTakenFrom (scope : Tokens) : Element → Prop
  | intro {element : Element}
      (construct : ∀ place ∈ element.construct.places, place ∈ scope.places)
      (name : ∀ name ∈ element.name, name ∈ scope.names)
      (attributes : ∀ child ∈ element.attributes, IsTakenFrom scope child)
      (parts : ∀ part ∈ element.parts, IsTakenFrom scope part) : IsTakenFrom scope element

section Sourced

variable {α β : Type} [Sourced α] [Sourced β]

instance : Sourced Unit := ⟨fun _ _ => True⟩
instance : Sourced Bool := ⟨fun _ _ => True⟩
instance : Sourced Delimiter := ⟨fun _ _ => True⟩
instance : Sourced LiteralForm := ⟨fun _ _ => True⟩
instance : Sourced Position := ⟨fun scope position => position ∈ scope.places⟩
instance : Sourced Name := ⟨fun scope name => name ∈ scope.names⟩
instance : Sourced Token := ⟨fun scope token => token.flatten ⊆ scope⟩
instance : Sourced Element := ⟨Element.IsTakenFrom⟩

instance : Sourced Construct :=
  ⟨fun scope construct => ∀ place ∈ construct.places, place ∈ scope.places⟩

instance : Sourced ParseFailure :=
  ⟨fun scope failure => ∃ position message, position ∈ scope.places ∧
    failure = .ofPosition position message⟩

instance : Sourced (Option α) := ⟨fun scope value => ∀ v ∈ value, Sourced.takenFrom scope v⟩

instance : Sourced (List α) := ⟨fun scope values => ∀ v ∈ values, Sourced.takenFrom scope v⟩

instance : Sourced (α × β) :=
  ⟨fun scope pair => Sourced.takenFrom scope pair.1 ∧ Sourced.takenFrom scope pair.2⟩

instance : Sourced (Parser.Turn α) :=
  ⟨fun scope turn => ∀ v, turn = .last v ∨ turn = .more v → Sourced.takenFrom scope v⟩

instance : Sourced Input :=
  ⟨fun scope input => Sourced.takenFrom scope input.tokens ∧
    Sourced.takenFrom scope input.close ∧ Sourced.takenFrom scope input.stray⟩

instance : Sourced (Except ParseFailure α) :=
  ⟨fun scope result => match result with
    | .error failure => Sourced.takenFrom scope failure
    | .ok value => Sourced.takenFrom scope value⟩

instance : Sourced Segment :=
  ⟨fun scope segment => Sourced.takenFrom scope segment.name ∧
    Sourced.takenFrom scope segment.arguments⟩

instance : Sourced Path := ⟨fun scope path => Sourced.takenFrom scope path.segments⟩

instance : Sourced Bound := ⟨fun scope bound => Sourced.takenFrom scope bound.element⟩

end Sourced

section Values

variable {scope : Tokens} {α β : Type} [Sourced α] [Sourced β]

instance (value : Taken scope α) : TakenFrom scope value.val := ⟨value.property⟩

instance (value : Unit) : TakenFrom scope value := ⟨trivial⟩
instance (value : Bool) : TakenFrom scope value := ⟨trivial⟩
instance (value : Delimiter) : TakenFrom scope value := ⟨trivial⟩
instance (value : LiteralForm) : TakenFrom scope value := ⟨trivial⟩

instance : TakenFrom scope (none : Option α) := ⟨by simp [Sourced.takenFrom]⟩

instance (value : α) [TakenFrom scope value] : TakenFrom scope (some value) :=
  ⟨by simpa [Sourced.takenFrom] using taken value⟩

instance (value other : Option α) [found : TakenFrom scope value]
    [default : TakenFrom scope other] : TakenFrom scope (value.or other) := by
  cases value with
  | none => exact default
  | some _ => exact found

instance (value other : Option α) [found : TakenFrom scope value]
    [default : TakenFrom scope other] : TakenFrom scope (value <|> other) := by
  cases value with
  | none => exact default
  | some _ => exact found

instance (first : α) (second : β) [TakenFrom scope first] [TakenFrom scope second] :
    TakenFrom scope (first, second) :=
  ⟨taken first, taken second⟩

instance (pair : α × β) [TakenFrom scope pair] : TakenFrom scope pair.1 := ⟨(taken pair).1⟩
instance (pair : α × β) [TakenFrom scope pair] : TakenFrom scope pair.2 := ⟨(taken pair).2⟩

instance (condition : Prop) [Decidable condition] (value other : α) [TakenFrom scope value]
    [TakenFrom scope other] : TakenFrom scope (if condition then value else other) := by
  split <;> infer_instance

/-! ### Lists -/

instance : TakenFrom scope ([] : List α) := ⟨by simp [Sourced.takenFrom]⟩

instance (first : α) (rest : List α) [TakenFrom scope first] [TakenFrom scope rest] :
    TakenFrom scope (first :: rest) :=
  ⟨List.forall_mem_cons.mpr ⟨taken first, taken rest⟩⟩

instance (values others : List α) [TakenFrom scope values] [TakenFrom scope others] :
    TakenFrom scope (values ++ others) :=
  ⟨List.forall_mem_append.mpr ⟨taken values, taken others⟩⟩

instance (values : List α) [TakenFrom scope values] : TakenFrom scope values.reverse :=
  ⟨fun value member => taken values value (List.mem_reverse.mp member)⟩

instance (values : List α) (function : α → β) [TakenFrom scope values]
    [each : ∀ value : Taken scope α, TakenFrom scope (function value.val)] :
    TakenFrom scope (values.map function) := by
  constructor
  intro _ member
  obtain ⟨value, among, rfl⟩ := List.mem_map.mp member
  exact (each ⟨value, taken values value among⟩).taken

instance (value : Option α) [TakenFrom scope value] : TakenFrom scope value.toList :=
  ⟨fun v member => taken value v (Option.mem_toList.mp member)⟩

instance (value : Option α) (default : α) [TakenFrom scope value] [TakenFrom scope default] :
    TakenFrom scope (value.getD default) := by
  constructor
  cases value with
  | none => exact taken default
  | some v => exact taken (some v) v rfl

/-! ### Turns -/

instance : TakenFrom scope (Parser.Turn.stop : Parser.Turn α) := ⟨by simp [Sourced.takenFrom]⟩

instance (entry : α) [TakenFrom scope entry] : TakenFrom scope (Parser.Turn.last entry) :=
  ⟨by simpa [Sourced.takenFrom] using taken entry⟩

instance (entry : α) [TakenFrom scope entry] : TakenFrom scope (Parser.Turn.more entry) :=
  ⟨by simpa [Sourced.takenFrom] using taken entry⟩

/-! ### Failures and inputs -/

instance (position : Position) (message : String) [TakenFrom scope position] :
    TakenFrom scope (ParseFailure.ofPosition position message) :=
  ⟨position, message, taken position, rfl⟩

instance (tokens : Tokens) (delimiter : Option Delimiter) (close : Position)
    (stray : Option ParseFailure) (bound : Nat) [TakenFrom scope tokens] [TakenFrom scope close]
    [TakenFrom scope stray] : TakenFrom scope (Input.mk tokens delimiter close stray bound) :=
  ⟨taken tokens, taken close, taken stray⟩

section Input

variable (input : Input) [TakenFrom scope input]

instance : TakenFrom scope input.tokens := ⟨(taken input).1⟩
instance : TakenFrom scope input.close := ⟨(taken input).2.1⟩
instance : TakenFrom scope input.stray := ⟨(taken input).2.2⟩

instance : TakenFrom scope input.position := by
  constructor
  unfold Input.position
  split
  · rename_i token rest tokens
    have first : token.flatten ⊆ scope := taken input.tokens token (by simp [tokens])
    exact Tokens.mem_places (first token.mem_flatten) token.position_mem_places
  · exact taken input.close

instance (message : String) : TakenFrom scope (input.failure message) := by
  unfold Input.failure
  infer_instance

instance (expectations : List Expectation) : TakenFrom scope (input.unmet expectations) := by
  unfold Input.unmet
  split <;> infer_instance

instance : TakenFrom scope input.leftover? := by
  unfold Input.leftover?
  split <;> infer_instance

end Input

instance (tokens : Tokens) (count : Nat) [TakenFrom scope tokens] :
    TakenFrom scope (tokens.after count) :=
  ⟨fun token member => taken tokens token (List.mem_of_mem_drop member)⟩

/-! ### Elements -/

instance (construct : Construct) [TakenFrom scope construct.places] : TakenFrom scope construct :=
  ⟨taken construct.places⟩

section Element

variable (element : Element) [TakenFrom scope element]

instance : TakenFrom scope element.construct :=
  ⟨match taken element with | .intro construct .. => construct⟩

instance : TakenFrom scope element.name := ⟨match taken element with | .intro _ name .. => name⟩

instance : TakenFrom scope element.attributes :=
  ⟨match taken element with | .intro _ _ attributes _ => attributes⟩

instance : TakenFrom scope element.parts := ⟨match taken element with | .intro _ _ _ parts => parts⟩

end Element

instance (construct : Construct) (name : Option Name) (attributes parts : List Element)
    [TakenFrom scope construct] [TakenFrom scope name] [TakenFrom scope attributes]
    [TakenFrom scope parts] : TakenFrom scope (Element.mk construct name attributes parts) :=
  ⟨.intro (taken construct) (taken name) (taken attributes) (taken parts)⟩

instance (construct : Construct) (parts : List Element) [TakenFrom scope construct]
    [TakenFrom scope parts] : TakenFrom scope (Element.plain construct parts) := by
  unfold Element.plain
  infer_instance

instance (construct : Construct) (name : Option Name) (parts : List Element)
    [TakenFrom scope construct] [TakenFrom scope name] [TakenFrom scope parts] :
    TakenFrom scope (Element.named construct name parts) := by
  unfold Element.named
  infer_instance

instance : TakenFrom scope Element.opaqueText := by
  unfold Element.opaqueText
  infer_instance

instance (element : Element) (attributes : List Element) [TakenFrom scope element]
    [TakenFrom scope attributes] : TakenFrom scope (element.withAttributes attributes) := by
  unfold Element.withAttributes
  infer_instance

/-! ### Paths and bounds -/

instance (name : Name) (arguments : Option Element) [TakenFrom scope name]
    [TakenFrom scope arguments] : TakenFrom scope (Segment.mk name arguments) :=
  ⟨taken name, taken arguments⟩

instance (rooted : Bool) (segments : List Segment) [TakenFrom scope segments] :
    TakenFrom scope (Path.mk rooted segments) :=
  ⟨taken segments⟩

instance (form : BoundForm) (element : Element) [TakenFrom scope element] :
    TakenFrom scope (Bound.mk form element) :=
  ⟨taken element⟩

instance (bound : Bound) [TakenFrom scope bound] : TakenFrom scope bound.element := ⟨taken bound⟩

section Path

variable (path : Path) [TakenFrom scope path]

instance : TakenFrom scope path.segments := ⟨taken path⟩

instance : TakenFrom scope path.name := by
  constructor
  intro name found
  obtain ⟨segment, last, rfl⟩ := Option.map_eq_some_iff.mp found
  exact (taken path.segments segment (List.mem_of_getLast? last)).1

instance : TakenFrom scope path.element := by
  have arguments : TakenFrom scope (path.segments.filterMap Segment.arguments) := by
    constructor
    intro element member
    obtain ⟨segment, among, found⟩ := List.mem_filterMap.mp member
    exact (taken path.segments segment among).2 element found
  unfold Path.element
  infer_instance

instance (arguments : Element) [TakenFrom scope arguments] :
    TakenFrom scope (path.withLastArguments arguments) := by
  unfold Path.withLastArguments
  split
  · rename_i segment last
    have front : TakenFrom scope path.segments.dropLast :=
      ⟨fun segment member => taken path.segments segment (List.dropLast_subset _ member)⟩
    have name : TakenFrom scope segment.name :=
      ⟨(taken path.segments segment (List.mem_of_getLast? last)).1⟩
    infer_instance
  · infer_instance

end Path

instance (name : Name) [TakenFrom scope name] : TakenFrom scope (Path.ofName name) := by
  unfold Path.ofName
  infer_instance

end Values

end KindDispatch.Source
