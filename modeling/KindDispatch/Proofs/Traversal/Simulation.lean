import KindDispatch.Traversal.Walk

/-!
# Walks that differ only in what they carry

`Walk.sequence`, `Walk.descend` and `Walk.forests` do not look into the state they hand on.  So if
two ways to walk one node give the same node and the same step, and states that are related again,
then the same holds for sequences, for children and for forests.  `Alike` says this of two results.
-/

namespace KindDispatch

variable {A B W W' W'' : Type}

/-- Two results with the same step and the same value, and related states. -/
inductive Alike (R : W → W' → Prop) :
    Except Halt (Step × A × W) → Except Halt (Step × A × W') → Prop
  | halt (cause : Halt) : Alike R (.error cause) (.error cause)
  | done (step : Step) (value : A) {walk : W} {walk' : W'} (related : R walk walk') :
      Alike R (.ok (step, value, walk)) (.ok (step, value, walk'))

namespace Alike

theorem outcomes {R : W → W' → Prop} {result : Except Halt (Step × A × W)}
    {result' : Except Halt (Step × A × W')} (alike : Alike R result result') :
    (∃ cause, result = .error cause ∧ result' = .error cause) ∨
      ∃ step value walk walk',
        result = .ok (step, value, walk) ∧ result' = .ok (step, value, walk') ∧ R walk walk' := by
  cases alike with
  | halt cause => exact .inl ⟨cause, rfl, rfl⟩
  | done step value related => exact .inr ⟨step, value, _, _, rfl, rfl, related⟩

theorem mono {R Q : W → W' → Prop} (weaker : ∀ walk walk', R walk walk' → Q walk walk')
    {result : Except Halt (Step × A × W)} {result' : Except Halt (Step × A × W')}
    (alike : Alike R result result') : Alike Q result result' := by
  cases alike with
  | halt cause => exact .halt cause
  | done step value related => exact .done step value (weaker _ _ related)

theorem trans {R : W → W' → Prop} {Q : W' → W'' → Prop}
    {first : Except Halt (Step × A × W)} {second : Except Halt (Step × A × W')}
    {third : Except Halt (Step × A × W'')} (left : Alike R first second)
    (right : Alike Q second third) :
    Alike (fun walk walk'' => ∃ walk', R walk walk' ∧ Q walk' walk'') first third := by
  cases left with
  | halt cause =>
      cases right
      exact .halt cause
  | done step value related =>
      cases right with
      | done _ _ related' => exact .done step value ⟨_, related, related'⟩

theorem mapValue {R : W → W' → Prop} (change : A → B)
    {result : Except Halt (Step × A × W)} {result' : Except Halt (Step × A × W')}
    (alike : Alike R result result') :
    Alike R (result.map fun (step, value, walk) => (step, change value, walk))
      (result'.map fun (step, value, walk) => (step, change value, walk)) := by
  cases alike with
  | halt cause => exact .halt cause
  | done step value related => exact .done step (change value) related

end Alike

namespace Walk

variable {R : W → W' → Prop} {walkOne : Node → W → Except Halt (Step × Node × W)}
  {walkOne' : Node → W' → Except Halt (Step × Node × W')}

theorem sequence_alike
    (one : ∀ node walk walk', R walk walk' → Alike R (walkOne node walk) (walkOne' node walk'))
    (done rest : List Node) {walk : W} {walk' : W'} (related : R walk walk') :
    Alike R (sequence walkOne done rest walk) (sequence walkOne' done rest walk') := by
  induction rest generalizing done walk walk' with
  | nil => exact .done .keep done.reverse related
  | cons node rest ih =>
      simp only [sequence]
      rcases (one node walk walk' related).outcomes with
        ⟨cause, hone, hone'⟩ | ⟨step, node, walk, walk', hone, hone', related⟩
      · rw [hone, hone']
        exact .halt cause
      · rw [hone, hone']
        cases step with
        | keep => exact ih (node :: done) related
        | remove => exact ih done related
        | stop => exact .done .stop _ related

theorem descend_alike
    {walkChildren : List Node → W → Except Halt (Step × List Node × W)}
    {walkChildren' : List Node → W' → Except Halt (Step × List Node × W')}
    (children : ∀ nodes walk walk', R walk walk' →
      Alike R (walkChildren nodes walk) (walkChildren' nodes walk'))
    (skip : Bool) (node : Node) {walk : W} {walk' : W'} (related : R walk walk') :
    Alike R (descend walkChildren skip node walk) (descend walkChildren' skip node walk') := by
  unfold descend
  cases skip with
  | true => exact .done .keep node related
  | false => exact (children node.children walk walk' related).mapValue node.withChildren

theorem forests_alike
    (one : ∀ node walk walk', R walk walk' → Alike R (walkOne node walk) (walkOne' node walk'))
    (forests : List Forest) {walk : W} {walk' : W'} (related : R walk walk') :
    Alike R (Walk.forests walkOne forests walk) (Walk.forests walkOne' forests walk') := by
  induction forests generalizing walk walk' with
  | nil => exact .done .keep [] related
  | cons forest rest ih =>
      simp only [Walk.forests]
      rcases (sequence_alike one [] forest related).outcomes with
        ⟨cause, hone, hone'⟩ | ⟨step, forest, walk, walk', hone, hone', related⟩
      · rw [hone, hone']
        exact .halt cause
      · rw [hone, hone']
        cases step with
        | stop => exact .done .stop (forest :: rest) related
        | keep => exact (ih related).mapValue (forest :: ·)
        | remove => exact (ih related).mapValue (forest :: ·)

end Walk

/-! ## What a walk preserves -/

/-- A result that is not out of range, with a state for which `P` holds. -/
inductive Within (P : W → Prop) : Except Halt (Step × A × W) → Prop
  | tooDeep : Within P (.error .tooDeep)
  | done (step : Step) (value : A) {walk : W} (holds : P walk) :
      Within P (.ok (step, value, walk))

namespace Within

theorem outcomes {P : W → Prop} {result : Except Halt (Step × A × W)} (within : Within P result) :
    result = .error .tooDeep ∨ ∃ step value walk, result = .ok (step, value, walk) ∧ P walk := by
  cases within with
  | tooDeep => exact .inl rfl
  | done step value holds => exact .inr ⟨step, value, _, rfl, holds⟩

theorem not_outOfRange {P : W → Prop} {result : Except Halt (Step × A × W)}
    (within : Within P result) : result ≠ .error .outOfRange := by
  rcases within.outcomes with h | ⟨step, value, walk, h, -⟩ <;> simp [h]

theorem mapValue {P : W → Prop} (change : A → B) {result : Except Halt (Step × A × W)}
    (within : Within P result) :
    Within P (result.map fun (step, value, walk) => (step, change value, walk)) := by
  cases within with
  | tooDeep => exact .tooDeep
  | done step value holds => exact .done step (change value) holds

theorem of_alike {P : W → Prop} {Q : W' → Prop} {result : Except Halt (Step × A × W)}
    {result' : Except Halt (Step × A × W')} {R : W → W' → Prop} (alike : Alike R result result')
    (transfer : ∀ walk walk', R walk walk' → Q walk' → P walk) (within : Within Q result') :
    Within P result := by
  cases alike with
  | halt cause =>
      cases within
      exact .tooDeep
  | done step value related =>
      cases within with
      | done _ _ holds => exact .done step value (transfer _ _ related holds)

end Within

namespace Walk

variable {P : W → Prop} {walkOne : Node → W → Except Halt (Step × Node × W)}

theorem sequence_within (one : ∀ node walk, P walk → Within P (walkOne node walk))
    (done rest : List Node) {walk : W} (holds : P walk) :
    Within P (sequence walkOne done rest walk) := by
  induction rest generalizing done walk with
  | nil => exact .done .keep done.reverse holds
  | cons node rest ih =>
      simp only [sequence]
      rcases (one node walk holds).outcomes with hone | ⟨step, node, walk, hone, holds⟩
      · rw [hone]
        exact .tooDeep
      · rw [hone]
        cases step with
        | keep => exact ih (node :: done) holds
        | remove => exact ih done holds
        | stop => exact .done .stop _ holds

theorem descend_within {walkChildren : List Node → W → Except Halt (Step × List Node × W)}
    (children : ∀ nodes walk, P walk → Within P (walkChildren nodes walk)) (skip : Bool)
    (node : Node) {walk : W} (holds : P walk) :
    Within P (descend walkChildren skip node walk) := by
  unfold descend
  cases skip with
  | true => exact .done .keep node holds
  | false => exact (children node.children walk holds).mapValue node.withChildren

theorem forests_within (one : ∀ node walk, P walk → Within P (walkOne node walk))
    (forests : List Forest) {walk : W} (holds : P walk) :
    Within P (Walk.forests walkOne forests walk) := by
  induction forests generalizing walk with
  | nil => exact .done .keep [] holds
  | cons forest rest ih =>
      simp only [Walk.forests]
      rcases (sequence_within one [] forest holds).outcomes with
        hone | ⟨step, forest, walk, hone, holds⟩
      · rw [hone]
        exact .tooDeep
      · rw [hone]
        cases step with
        | stop => exact .done .stop (forest :: rest) holds
        | keep => exact (ih holds).mapValue (forest :: ·)
        | remove => exact (ih holds).mapValue (forest :: ·)

end Walk

end KindDispatch
