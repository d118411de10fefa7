import KindDispatch.Source.Parser

/-!
# What parsers answer

`Parser.Yields P parser` says that whatever the parser answers satisfies `P`.  There is one rule for
each way parsers are put together, so that a proof about a parser follows its text.
-/

namespace KindDispatch.Source.Parser

variable {α β : Type}

theorem bind_eq (parser : Parser α) (next : α → Parser β) (input : Input) :
    (parser >>= next) input =
      match parser input with
      | .error failure => .error failure
      | .ok (value, between) => next value between := by
  simp only [bind, StateT.bind, Except.bind]
  cases parser input <;> rfl

theorem bind_eq_ok {parser : Parser α} {next : α → Parser β} {input behind : Input} {result : β}
    (reads : (parser >>= next) input = .ok (result, behind)) :
    ∃ value between, parser input = .ok (value, between) ∧
      next value between = .ok (result, behind) := by
  rw [bind_eq] at reads
  cases hparser : parser input with
  | error failure =>
      rw [hparser] at reads
      contradiction
  | ok answer =>
      rw [hparser] at reads
      exact ⟨answer.1, answer.2, rfl, reads⟩

def Yields (P : α → Prop) (parser : Parser α) : Prop :=
  ∀ input result behind, parser input = .ok (result, behind) → P result

namespace Yields

variable {P : α → Prop} {Q : β → Prop} {parser : Parser α} {next : α → Parser β}

theorem pure {value : α} (holds : P value) : Yields P (pure value) := by
  rintro input _ _ ⟨⟩
  exact holds

theorem raise (failure : ParseFailure) : Yields P (Parser.raise failure) := by
  rintro input _ _ ⟨⟩

theorem unmet (expectations : List Expectation) : Yields P (Parser.unmet expectations) := by
  rintro input _ _ ⟨⟩

theorem bind (first : Yields P parser) (rest : ∀ value, P value → Yields Q (next value)) :
    Yields Q (parser >>= next) := by
  intro input result behind reads
  obtain ⟨value, between, hparser, hnext⟩ := bind_eq_ok reads
  exact rest value (first _ _ _ hparser) _ _ _ hnext

theorem after (rest : ∀ value, Yields Q (next value)) : Yields Q (parser >>= next) := by
  intro input result behind reads
  obtain ⟨value, between, -, hnext⟩ := bind_eq_ok reads
  exact rest value _ _ _ hnext

theorem ite {condition : Prop} [Decidable condition] {other : Parser α}
    (holds : condition → Yields P parser) (fails : ¬condition → Yields P other) :
    Yields P (if condition then parser else other) := by
  split
  · exact holds ‹_›
  · exact fails ‹_›

theorem groupAndLeftover {delimiter : Delimiter} (content : Yields P parser) :
    Yields (P ·.1) (Parser.groupAndLeftover delimiter parser) := by
  intro input result behind reads
  unfold Parser.groupAndLeftover at reads
  split at reads
  · split at reads
    · split at reads
      · rename_i hparser
        cases reads
        exact content _ _ _ hparser
      · contradiction
    · contradiction
  · contradiction

theorem groupThen {delimiter : Delimiter} (content : Yields P parser)
    (behind : ∀ value, P value → Yields Q (next value)) :
    Yields Q (Parser.groupThen delimiter parser next) :=
  content.groupAndLeftover.bind fun _ holds =>
    (behind _ holds).bind fun _ result => after fun _ => pure result

theorem group {delimiter : Delimiter} (content : Yields P parser) :
    Yields P (Parser.group delimiter parser) :=
  content.groupThen fun _ holds => pure holds

theorem collect {turn : Parser (Turn α)}
    (entries :
      Yields (fun turn => ∀ entry, turn = .last entry ∨ turn = .more entry → P entry) turn) :
    Yields (∀ entry ∈ ·, P entry) (Parser.collect turn) := by
  have upTo : ∀ limit, Yields (∀ entry ∈ ·, P entry) (collectUpTo turn limit) := by
    intro limit
    induction limit with
    | zero => exact pure (by simp)
    | succ limit ih =>
        refine entries.bind fun answer holds => ?_
        cases answer with
        | stop => exact pure (by simp)
        | last entry => exact pure (by simpa using holds)
        | more entry =>
            have first : P entry := holds entry (.inr rfl)
            exact ih.bind fun rest others => pure (by simpa using ⟨first, others⟩)
  exact after fun _ => upTo _

theorem collectWhile {condition : Tokens → Bool} (entry : Yields P parser) :
    Yields (∀ entry ∈ ·, P entry) (Parser.collectWhile condition parser) := by
  refine collect <| after fun _ => ite (fun _ => ?_) fun _ => pure (by simp)
  exact entry.bind fun value holds => pure (by simpa using holds)

theorem untilEnd (entry : Yields P parser) :
    Yields (∀ entry ∈ ·, P entry) (Parser.untilEnd parser) :=
  collectWhile entry

end Yields

end KindDispatch.Source.Parser
