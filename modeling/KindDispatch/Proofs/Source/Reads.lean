import KindDispatch.Proofs.Source.Reading
import KindDispatch.Proofs.Source.TakenFrom

/-!
# Parsers that read from the tokens

`Reads scope parser` says that what a parser answers is taken from the tokens of the text, failures
included.  As for values, there is one instance for each way parsers are put together.
-/

namespace KindDispatch.Source

namespace Parser

/-- What a parser answers is taken from the tokens if what it reads is. -/
class Reads (scope : Tokens) {α : Type} [Sourced α] (parser : Parser α) : Prop where
  reads : ∀ input : Taken scope Input, Sourced.takenFrom scope (parser input.val)

variable {scope : Tokens} {α β γ : Type} [Sourced α] [Sourced β] [Sourced γ]

/-! ### Ways to put parsers together -/

instance (value : α) [TakenFrom scope value] : Reads scope (pure value : Parser α) :=
  ⟨fun input => ⟨taken value, input.property⟩⟩

instance Reads.bind (parser : Parser α) (next : α → Parser β) [first : Reads scope parser]
    [rest : ∀ value : Taken scope α, Reads scope (next value.val)] :
    Reads scope (parser >>= next) := by
  constructor
  intro input
  have read := first.reads input
  rw [bind_eq]
  cases hparser : parser input.val with
  | error failure =>
      rw [hparser] at read
      exact read
  | ok answer =>
      rw [hparser] at read
      exact (rest ⟨answer.1, read.1⟩).reads ⟨answer.2, read.2⟩

theorem Reads.andThen {parser : Parser α} {next : α → Parser β} [Reads scope parser]
    (rest : ∀ value, [TakenFrom scope value] → Reads scope (next value)) :
    Reads scope (parser >>= next) :=
  have (value : Taken scope α) : Reads scope (next value.val) := rest value.val
  Reads.bind parser next

instance (priority := high) Reads.bindPair (parser : Parser (α × β)) (next : α × β → Parser γ)
    [Reads scope parser]
    [rest : ∀ (first : Taken scope α) (second : Taken scope β),
      Reads scope (next (first.val, second.val))] :
    Reads scope (parser >>= next) :=
  have (pair : Taken scope (α × β)) : Reads scope (next pair.val) :=
    rest ⟨pair.val.1, pair.property.1⟩ ⟨pair.val.2, pair.property.2⟩
  Reads.bind parser next

/-- Where nothing else helps, an option is taken apart where it is bound. -/
instance (priority := low) Reads.bindOption (parser : Parser (Option α))
    (next : Option α → Parser β) [Reads scope parser] [absent : Reads scope (next none)]
    [present : ∀ value : Taken scope α, Reads scope (next (some value.val))] :
    Reads scope (parser >>= next) :=
  have : ∀ value : Taken scope (Option α), Reads scope (next value.val)
    | ⟨none, _⟩ => absent
    | ⟨some value, source⟩ => present ⟨value, source value rfl⟩
  Reads.bind parser next

instance (priority := low) Reads.bindTurn (parser : Parser (Turn α)) (next : Turn α → Parser β)
    [Reads scope parser] [stop : Reads scope (next .stop)]
    [last : ∀ entry : Taken scope α, Reads scope (next (.last entry.val))]
    [more : ∀ entry : Taken scope α, Reads scope (next (.more entry.val))] :
    Reads scope (parser >>= next) :=
  have : ∀ turn : Taken scope (Turn α), Reads scope (next turn.val)
    | ⟨.stop, _⟩ => stop
    | ⟨.last entry, source⟩ => last ⟨entry, source entry (.inl rfl)⟩
    | ⟨.more entry, source⟩ => more ⟨entry, source entry (.inr rfl)⟩
  Reads.bind parser next

instance (condition : Prop) [Decidable condition] (parser other : Parser α) [Reads scope parser]
    [Reads scope other] : Reads scope (if condition then parser else other) := by
  split <;> infer_instance

instance (function : α → β) (parser : Parser α) [Reads scope parser]
    [∀ value : Taken scope α, TakenFrom scope (function value.val)] :
    Reads scope (function <$> parser) := by
  rw [map_eq_pure_bind]
  infer_instance

instance (parser : Parser α) [Reads scope parser] : Reads scope (discard parser) := by
  change Reads scope ((fun _ => ()) <$> parser)
  infer_instance

/-! ### Single steps -/

instance : Reads scope (get : Parser Input) := ⟨fun input => ⟨input.property, input.property⟩⟩

instance (change : Input → Input)
    [each : ∀ input : Taken scope Input, TakenFrom scope (change input.val)] :
    Reads scope (modify change : Parser Unit) :=
  ⟨fun input => ⟨trivial, (each input).taken⟩⟩

instance (failure : ParseFailure) [TakenFrom scope failure] :
    Reads scope (raise failure : Parser α) :=
  ⟨fun _ => taken failure⟩

instance : Reads scope ahead := by unfold ahead; infer_instance
instance : Reads scope atEnd := by unfold atEnd; infer_instance
instance : Reads scope position := by unfold position; infer_instance

instance (message : String) : Reads scope (fail message : Parser α) := by
  unfold fail
  infer_instance

instance (expectations : List Expectation) : Reads scope (unmet expectations : Parser α) := by
  unfold unmet
  infer_instance

instance (count : Nat) : Reads scope (skip count) := by unfold skip; infer_instance
instance (text : String) : Reads scope (peekPunct text) := by unfold peekPunct; infer_instance
instance (text : String) : Reads scope (peekKeyword text) := by unfold peekKeyword; infer_instance
instance (text : String) : Reads scope (punct text) := by unfold punct; infer_instance
instance (text : String) : Reads scope (optPunct text) := by unfold optPunct; infer_instance
instance (text : String) : Reads scope (keyword text) := by unfold keyword; infer_instance
instance (text : String) : Reads scope (optKeyword text) := by unfold optKeyword; infer_instance
instance : Reads scope lifetime := by unfold lifetime; infer_instance
instance : Reads scope optLifetime := by unfold optLifetime; infer_instance

instance (delimiter : Delimiter) : Reads scope (peekGroup delimiter) := by
  unfold peekGroup
  infer_instance

/-! ### Words and literals -/

private theorem word_mem {text : String} {position : Position} {rest : Tokens}
    (source : TakenFrom scope (.word text position :: rest)) : .word text position ∈ scope := by
  have first : (Token.word text position).flatten ⊆ scope := source.taken _ List.mem_cons_self
  exact first (Token.mem_flatten _)

private theorem takenFrom_word {text : String} {position : Position} {rest : Tokens}
    (source : TakenFrom scope (.word text position :: rest)) :
    TakenFrom scope (⟨text, position.line⟩ : Name) :=
  ⟨Tokens.mem_names_word (word_mem source)⟩

instance : Reads scope anyWord := by
  unfold anyWord
  refine .andThen fun tokens source => ?_
  split
  · have := takenFrom_word source
    infer_instance
  · infer_instance

instance : Reads scope identifier := by
  unfold identifier
  refine .andThen fun tokens source => ?_
  split
  · have := takenFrom_word source
    infer_instance
  · infer_instance

private theorem keyword_eq_ok {text : String} {input behind : Input}
    (reads : keyword text input = .ok ((), behind)) :
    ∃ position rest, input.tokens = .word text position :: rest := by
  obtain ⟨peeked, between, hpeek, hskip⟩ := bind_eq_ok reads
  cases hpeek
  split at hskip
  · rename_i next
    unfold Tokens.keyword at next
    split at next
    · rename_i found position rest tokens
      exact ⟨position, rest, by rw [tokens, eq_of_beq next]⟩
    · contradiction
  · contradiction

theorem reads_selfName {next : Position → Name → Parser α}
    (rest : ∀ start name, [TakenFrom scope start] → [TakenFrom scope name] →
      Reads scope (next start name)) :
    Reads scope (do
      let start ← position
      let name ← (do keyword "self"; return ⟨"Self", start.line⟩)
      next start name) := by
  constructor
  intro input
  have step := (inferInstance : Reads scope (keyword "self")).reads input
  change Sourced.takenFrom scope ((do
    let name ← (do keyword "self"; return (⟨"Self", input.val.position.line⟩ : Name))
    next input.val.position name) input.val)
  rw [bind_eq, bind_eq]
  cases hkeyword : keyword "self" input.val with
  | error failure =>
      rw [hkeyword] at step
      exact step
  | ok answer =>
      rw [hkeyword] at step
      obtain ⟨position, more, tokens⟩ := keyword_eq_ok hkeyword
      have source : TakenFrom scope (.word "self" position :: more) := ⟨tokens ▸ input.property.1⟩
      have here : input.val.position = position := by rw [Input.position, tokens]; rfl
      have : TakenFrom scope (⟨"Self", input.val.position.line⟩ : Name) :=
        ⟨here ▸ Tokens.mem_names_self (word_mem source)⟩
      have self : Reads scope (next input.val.position ⟨"Self", input.val.position.line⟩) := rest ..
      exact self.reads ⟨answer.2, step.2⟩

instance (tokens : Tokens) [TakenFrom scope tokens] : TakenFrom scope tokens.literal? := by
  have source : Sourced.takenFrom scope tokens := taken tokens
  constructor
  intro answer found
  unfold Tokens.literal? at found
  refine ⟨trivial, fun token member => source token ?_⟩
  split at found
  · cases found
    exact .tail _ member
  · split at found
    · cases found
      exact .tail _ member
    · contradiction
  · split at found
    · cases found
      exact .tail _ (.tail _ member)
    · contradiction
  · contradiction

instance : Reads scope literal := by
  unfold literal
  refine .andThen fun tokens _ => ?_
  split
  · rename_i form rest found
    have : TakenFrom scope rest := ⟨(taken tokens.literal? _ found).2⟩
    infer_instance
  · infer_instance

/-! ### Groups -/

instance (delimiter : Delimiter) (content : Parser α) [inner : Reads scope content] :
    Reads scope (groupAndLeftover delimiter content) := by
  constructor
  rintro ⟨input, source⟩
  have : TakenFrom scope input := ⟨source⟩
  change Sourced.takenFrom scope (groupAndLeftover delimiter content input)
  unfold groupAndLeftover
  split
  · rename_i found position tokens close rest next
    have whole : TakenFrom scope (.group found position tokens close :: rest : Tokens) :=
      ⟨next ▸ source.1⟩
    have group := whole.taken _ List.mem_cons_self
    have : TakenFrom scope rest := ⟨fun token later => whole.taken token (.tail _ later)⟩
    have : TakenFrom scope tokens :=
      ⟨Token.flattenList_subset_iff.mp (List.subset_of_cons_subset group)⟩
    have : TakenFrom scope close :=
      ⟨Tokens.mem_places (group (Token.mem_flatten _)) (by simp [Token.places])⟩
    split
    · have read := inner.reads ⟨_, taken ⟨tokens, some delimiter, close, input.stray, input.bound⟩⟩
      split
      · rename_i result behind hcontent
        rw [hcontent] at read
        have : TakenFrom scope behind := ⟨read.2⟩
        exact ⟨⟨read.1, taken behind.leftover?⟩, taken _⟩
      · rename_i failure hcontent
        rw [hcontent] at read
        exact read
    · exact taken (input.unmet _)
  · exact taken (input.unmet _)

instance (leftover : Option ParseFailure) [TakenFrom scope leftover] :
    Reads scope (keepStray leftover) := by
  unfold keepStray
  infer_instance

theorem Reads.groupThen {delimiter : Delimiter} {content : Parser α} {behind : α → Parser β}
    [Reads scope content] (rest : ∀ value, [TakenFrom scope value] → Reads scope (behind value)) :
    Reads scope (groupThen delimiter content behind) := by
  have (value : Taken scope α) : Reads scope (behind value.val) := rest value.val
  unfold Parser.groupThen
  infer_instance

instance (delimiter : Delimiter) (content : Parser α) (behind : α → Parser β)
    [Reads scope content] [rest : ∀ value : Taken scope α, Reads scope (behind value.val)] :
    Reads scope (groupThen delimiter content behind) :=
  .groupThen fun value source => rest ⟨value, source.taken⟩

instance (delimiter : Delimiter) (content : Parser α) [Reads scope content] :
    Reads scope (group delimiter content) := by
  unfold group
  infer_instance

instance (delimiter : Delimiter) : Reads scope (skipGroup delimiter) := by
  unfold skipGroup
  infer_instance

instance : Reads scope anyGroup := by
  unfold anyGroup
  refine .andThen fun tokens _ => ?_
  split <;> infer_instance

/-! ### Attempts -/

instance (parser : Parser α) [inner : Reads scope parser] : Reads scope (attempt parser) := by
  constructor
  intro input
  have read := inner.reads input
  unfold attempt
  cases hparser : parser input.val with
  | error failure => exact ⟨taken none, input.property⟩
  | ok answer =>
      rw [hparser] at read
      exact ⟨by simpa [Sourced.takenFrom] using read.1, read.2⟩

instance (parser : Parser α) [inner : Reads scope parser] : Reads scope (lookAhead parser) := by
  constructor
  intro input
  have read := inner.reads input
  unfold lookAhead
  cases hparser : parser input.val with
  | error failure =>
      rw [hparser] at read
      exact read
  | ok answer =>
      rw [hparser] at read
      exact ⟨read, input.property⟩

/-! ### Loops -/

instance (turn : Parser (Turn α)) [Reads scope turn] : Reads scope (collect turn) := by
  have upTo : ∀ limit, Reads scope (collectUpTo turn limit) := by
    intro limit
    induction limit with
    | zero => unfold collectUpTo; infer_instance
    | succ limit ih =>
        unfold collectUpTo
        infer_instance
  unfold collect
  infer_instance

instance (condition : Tokens → Bool) (entry : Parser α) [Reads scope entry] :
    Reads scope (collectWhile condition entry) := by
  unfold collectWhile
  infer_instance

instance (entry : Parser α) [Reads scope entry] : Reads scope (untilEnd entry) := by
  unfold untilEnd
  infer_instance

instance (stop : Tokens → Bool) (separator : String) (entry : Parser α) [Reads scope entry] :
    Reads scope (separated stop separator entry) := by
  unfold separated
  infer_instance

instance (entry : Parser α) [Reads scope entry] : Reads scope (commaList entry) := by
  unfold commaList
  infer_instance

instance (stop : Tokens → Bool) (separator : String) (entry : Parser α) [Reads scope entry] :
    Reads scope (joined stop separator entry) := by
  unfold joined
  infer_instance

theorem Reads.loop {turn : α → Parser (Turn α)} {start : α} [TakenFrom scope start]
    (each : ∀ state, [TakenFrom scope state] → Reads scope (turn state)) :
    Reads scope (loop turn start) := by
  have (state : Taken scope α) : Reads scope (turn state.val) := each state.val
  have upTo : ∀ limit (state : Taken scope α), Reads scope (loopUpTo turn limit state.val) := by
    intro limit
    induction limit with
    | zero =>
        intro state
        unfold loopUpTo
        infer_instance
    | succ limit ih =>
        intro state
        unfold loopUpTo
        infer_instance
  have (limit : Nat) : Reads scope (loopUpTo turn limit start) := upTo limit ⟨start, taken start⟩
  unfold Parser.loop
  infer_instance

instance (turn : α → Parser (Turn α)) (start : α) [TakenFrom scope start]
    [each : ∀ state : Taken scope α, Reads scope (turn state.val)] :
    Reads scope (loop turn start) :=
  .loop fun state source => each ⟨state, source.taken⟩

end Parser

end KindDispatch.Source
