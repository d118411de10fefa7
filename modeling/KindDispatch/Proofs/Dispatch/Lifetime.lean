import KindDispatch.Proofs.Dispatch.Counters

/-!
# The life of a dispatcher

Counters can be set back, so what they show belongs to a stretch of the life of a dispatcher; the
memo table belongs to all of it.  A `Lifetime` keeps what the dispatcher itself forgets: the kinds it
was asked for, and what its counters had shown whenever they were set back.  Together with these its
counters are those of a dispatcher that was never set back (`CachedDispatch.credit`), so the laws of
`CachedDispatch.Spent` hold of whole lives.
-/

namespace KindDispatch

/-- What a dispatcher was asked for, the latest kind first, and what it counted before its counters
were last set back. -/
structure Lifetime where
  asked : List Kind
  retired : DispatchCounters

namespace Lifetime

def new : Lifetime := ⟨[], .zero⟩

def ask (life : Lifetime) (kinds : List Kind) : Lifetime :=
  { life with asked := kinds.reverse ++ life.asked }

def retire (life : Lifetime) (counters : DispatchCounters) : Lifetime :=
  { life with retired := life.retired + counters }

private theorem ask_cons (life : Lifetime) (kind : Kind) (rest : List Kind) :
    life.ask (kind :: rest) = (life.ask [kind]).ask rest := by
  simp [ask]

end Lifetime

namespace DispatchCounters

@[simp] theorem add_zero (counters : DispatchCounters) : counters + zero = counters := rfl

@[simp] theorem zero_add (counters : DispatchCounters) : zero + counters = counters := by
  simp [add_def, zero]

end DispatchCounters

/-! ## Dispatchers that count on -/

namespace CachedDispatch

def credit (dispatch : CachedDispatch) (retired : DispatchCounters) : CachedDispatch :=
  { dispatch with counters := retired + dispatch.counters }

section

variable (dispatch : CachedDispatch) (retired : DispatchCounters) (kind : Kind)

private theorem credit_countLookup :
    ((dispatch.credit retired).countLookup kind).2 =
      (dispatch.countLookup kind).2.credit retired := by
  unfold countLookup credit
  cases dispatch.memo.get? kind <;> simp [DispatchCounters.add_def, Nat.add_assoc]

private theorem credit_evaluate :
    ((dispatch.credit retired).evaluate kind).2 = (dispatch.evaluate kind).2.credit retired := by
  simp [evaluate, credit, DispatchCounters.add_def, Nat.add_assoc]

private theorem credit_countSharedHit :
    (dispatch.credit retired).countSharedHit = dispatch.countSharedHit.credit retired := by
  simp [countSharedHit, credit, DispatchCounters.add_def, Nat.add_assoc]

private theorem credit_memoize (entry : List Nat) :
    (dispatch.credit retired).memoize kind entry =
      (dispatch.memoize kind entry).credit retired := rfl

private theorem credit_resetCounters :
    dispatch.resetCounters.credit (retired + dispatch.counters) = dispatch.credit retired := rfl

end

namespace Answered

variable {dispatch after : CachedDispatch} {kind : Kind}

theorem credit (answered : dispatch.Answered kind after) (retired : DispatchCounters) :
    (dispatch.credit retired).Answered kind (after.credit retired) := by
  have remembered : (dispatch.credit retired).memo = dispatch.memo := rfl
  cases answered with
  | hit known =>
      rw [← credit_countLookup]
      exact .hit (remembered ▸ known)
  | found unknown entry =>
      rw [← credit_memoize, ← credit_countSharedHit, ← credit_countLookup]
      exact .found (remembered ▸ unknown) entry
  | evaluated unknown entry =>
      rw [← credit_memoize, ← credit_evaluate, ← credit_countLookup]
      exact .evaluated (remembered ▸ unknown) entry

theorem balanced (answered : dispatch.Answered kind after)
    (balanced : dispatch.counters.Balanced dispatch.rules.length) :
    after.counters.Balanced after.rules.length := by
  have hlookups := balanced.lookups
  have hshared := balanced.shared_le
  have hchecks := balanced.checks
  cases answered with
  | hit known =>
      rw [rules_countLookup, counters_countLookup_of_remembered known]
      exact ⟨by simp only; omega, hshared, hchecks⟩
  | found unknown entry =>
      simp only [rules_memoize, rules_countLookup, counters_memoize, countSharedHit,
        counters_countLookup_of_new unknown]
      exact ⟨by simp only; omega, by simp only; omega, by
        simp only [Nat.add_sub_add_right]; exact hchecks⟩
  | evaluated unknown entry =>
      have hevaluated : dispatch.counters.misses + 1 - dispatch.counters.sharedHits =
          dispatch.counters.misses - dispatch.counters.sharedHits + 1 := by omega
      simp only [rules_memoize, rules_countLookup, counters_memoize, evaluate,
        counters_countLookup_of_new unknown]
      exact ⟨by simp only; omega, by simp only; omega, by
        simp only [hevaluated, Nat.mul_succ, hchecks]⟩

theorem keeps (answered : dispatch.Answered kind after) {wanted : Kind} {entry : List Nat}
    (known : dispatch.remembered? wanted = some entry) :
    after.remembered? wanted = some entry := by
  simp only [remembered?] at known ⊢
  have other (unknown : dispatch.memo.get? kind = none) : wanted ≠ kind := by
    rintro rfl
    rw [known] at unknown
    contradiction
  cases answered with
  | hit => simpa using known
  | found unknown held => simpa [Memo.get?_insert, other unknown] using known
  | evaluated unknown held => simpa [Memo.get?_insert, other unknown] using known

end Answered

inductive Answers : CachedDispatch → List Kind → CachedDispatch → Prop
  | nil (dispatch : CachedDispatch) : Answers dispatch [] dispatch
  | cons {dispatch between after : CachedDispatch} {kind : Kind} {rest : List Kind}
      (first : dispatch.Answered kind between) (later : Answers between rest after) :
      Answers dispatch (kind :: rest) after

theorem answers_lookUps (dispatch : CachedDispatch) (kinds : List Kind) :
    Answers dispatch kinds (Dispatch.lookUps dispatch kinds).2 := by
  induction kinds generalizing dispatch with
  | nil => exact .nil dispatch
  | cons kind rest ih => exact .cons (answered_resolve dispatch kind) (ih _)

theorem sharedHits_lookUps (dispatch : CachedDispatch) (kinds : List Kind) :
    (Dispatch.lookUps dispatch kinds).2.counters.sharedHits = dispatch.counters.sharedHits := by
  induction kinds generalizing dispatch with
  | nil => rfl
  | cons kind rest ih =>
      have first : (dispatch.resolve kind).2.counters.sharedHits =
          dispatch.counters.sharedHits := by
        cases hmemo : dispatch.memo.get? kind with
        | some entry =>
            rw [resolve_of_remembered hmemo, counters_countLookup_of_remembered hmemo]
        | none =>
            rw [resolve_of_new hmemo]
            simp [evaluate, counters_countLookup_of_new hmemo]
      rw [Dispatch.lookUps_cons, ih]
      exact first

theorem Answers.rules_eq {dispatch after : CachedDispatch} {kinds : List Kind}
    (answers : Answers dispatch kinds after) : after.rules = dispatch.rules := by
  induction answers with
  | nil => rfl
  | cons first _ ih => rw [ih, first.rules_eq]

theorem Answers.keeps {dispatch after : CachedDispatch} {kinds : List Kind}
    (answers : Answers dispatch kinds after) {wanted : Kind} {entry : List Nat}
    (known : dispatch.remembered? wanted = some entry) :
    after.remembered? wanted = some entry := by
  induction answers with
  | nil => exact known
  | cons first _ ih => exact ih (first.keeps known)

end CachedDispatch

theorem SharedDispatch.answers_lookUps (dispatch : SharedDispatch) (kinds : List Kind) :
    dispatch.cached.Answers kinds (Dispatch.lookUps dispatch kinds).2.cached := by
  induction kinds generalizing dispatch with
  | nil => exact .nil dispatch.cached
  | cons kind rest ih => exact .cons (answered_resolve dispatch kind) (ih _)

/-! ## What holds of a whole life -/

structure NaiveDispatch.Consistent (life : Lifetime) (dispatch : NaiveDispatch) : Prop where
  counters : dispatch.counters =
    ⟨dispatch.counters.lookups, 0, dispatch.counters.lookups, 0,
      dispatch.rules.length * dispatch.counters.lookups⟩
  lookups : (life.retired + dispatch.counters).lookups = life.asked.length

structure CachedDispatch.Consistent (life : Lifetime) (dispatch : CachedDispatch) : Prop where
  balanced : dispatch.counters.Balanced dispatch.rules.length
  lookups : (life.retired + dispatch.counters).lookups = life.asked.length
  remembered : ∀ kind, (dispatch.remembered? kind).isSome = true ↔ kind ∈ life.asked
  cachedKinds : dispatch.cachedKinds = Kind.distinctCount life.asked
  misses : (life.retired + dispatch.counters).misses = dispatch.cachedKinds

namespace NaiveDispatch

variable {life : Lifetime} {dispatch : NaiveDispatch}

theorem consistent_ofRules (rules : List Applicability) : (ofRules rules).Consistent .new :=
  ⟨rfl, rfl⟩

theorem Consistent.lookUps (consistent : dispatch.Consistent life) (kinds : List Kind) :
    (Dispatch.lookUps dispatch kinds).2.Consistent (life.ask kinds) := by
  have spent : dispatch.Spent dispatch.rules dispatch.counters.lookups := ⟨rfl, consistent.counters⟩
  have after := spent.lookUps kinds
  have htotal : life.retired.lookups + dispatch.counters.lookups = life.asked.length :=
    consistent.lookups
  constructor
  · rw [after.rules_eq, after.counters]
  · simp only [DispatchCounters.add_def, after.counters, Lifetime.ask, List.length_append,
      List.length_reverse]
    omega

theorem Consistent.resetCounters (consistent : dispatch.Consistent life) :
    (Dispatch.resetCounters dispatch).Consistent (life.retire dispatch.counters) :=
  ⟨rfl, consistent.lookups⟩

end NaiveDispatch

namespace CachedDispatch

/-- The counters are balanced since they were last set back, and with what was counted before they
are those of the whole life. -/
structure Lived (life : Lifetime) (dispatch : CachedDispatch) : Prop where
  balanced : dispatch.counters.Balanced dispatch.rules.length
  whole : ∃ shared, (dispatch.credit life.retired).Spent dispatch.rules life.asked shared

namespace Lived

variable {life : Lifetime} {dispatch after : CachedDispatch}

theorem ofRules (rules : List Applicability) : (CachedDispatch.ofRules rules).Lived .new :=
  ⟨DispatchCounters.balanced_zero _, 0, spent_ofRules rules⟩

theorem answered (lived : dispatch.Lived life) {kind : Kind}
    (answered : dispatch.Answered kind after) : after.Lived (life.ask [kind]) := by
  obtain ⟨shared, spent⟩ := lived.whole
  refine ⟨answered.balanced lived.balanced, ?_⟩
  rw [answered.rules_eq]
  exact spent.answered (answered.credit life.retired)

theorem answers (lived : dispatch.Lived life) {kinds : List Kind}
    (answers : dispatch.Answers kinds after) : after.Lived (life.ask kinds) := by
  induction answers generalizing life with
  | nil => exact lived
  | @cons _ _ _ kind rest first _ ih =>
      rw [Lifetime.ask_cons]
      exact ih (lived.answered first)

theorem resetCounters (lived : dispatch.Lived life) :
    dispatch.resetCounters.Lived (life.retire dispatch.counters) := by
  refine ⟨DispatchCounters.balanced_zero _, ?_⟩
  rw [Lifetime.retire, credit_resetCounters]
  exact lived.whole

theorem consistent (lived : dispatch.Lived life) : dispatch.Consistent life := by
  obtain ⟨shared, spent⟩ := lived.whole
  have hcounters : life.retired + dispatch.counters = _ := spent.counters
  have remembered : ∀ kind, (dispatch.memo.get? kind).isSome = true ↔ kind ∈ life.asked := by
    intro kind
    have unknown : dispatch.memo.get? kind = none ↔ kind ∉ life.asked := spent.memo kind
    rw [← Decidable.not_iff_not, ← unknown]
    simp
  have size : dispatch.cachedKinds = Kind.distinctCount life.asked := by
    rw [cachedKinds, Memo.size_eq_distinctCount]
    exact Kind.distinctCount_congr fun kind => Memo.mem_keys.trans (remembered kind)
  exact ⟨lived.balanced, by rw [hcounters], remembered, size, by rw [hcounters, size]⟩

end Lived

end CachedDispatch

/-! ## What a table is paid for -/

namespace SharedDispatch

/-- A dispatcher that works on a table alone pays for each entry the table gets with an evaluation of
its rules, and for nothing else. -/
theorem checks_resolve (dispatch : SharedDispatch) (kind : Kind) :
    (Dispatch.resolve dispatch kind).2.cached.counters.applicabilityChecks +
        dispatch.cached.rules.length * dispatch.table.size =
      dispatch.cached.counters.applicabilityChecks +
        dispatch.cached.rules.length * (Dispatch.resolve dispatch kind).2.table.size := by
  change (dispatch.resolve kind).2.cached.counters.applicabilityChecks + _ =
    _ + _ * (dispatch.resolve kind).2.table.size
  cases hmemo : dispatch.cached.memo.get? kind with
  | some entry =>
      rw [resolve_of_remembered hmemo]
      simp [CachedDispatch.counters_countLookup_of_remembered hmemo]
  | none =>
      cases htable : dispatch.table.get? kind with
      | some entry =>
          rw [resolve_of_shared hmemo htable]
          simp [CachedDispatch.countSharedHit, CachedDispatch.counters_countLookup_of_new hmemo]
      | none =>
          have grown : (dispatch.table.insert kind
              (applicable dispatch.cached.rules kind)).2.size = dispatch.table.size + 1 := by
            rw [SharedTable.insert_of_absent htable]
            exact Memo.size_insert htable _
          rw [resolve_of_new hmemo htable]
          simp only [CachedDispatch.counters_memoize, CachedDispatch.evaluate,
            CachedDispatch.rules_countLookup, CachedDispatch.counters_countLookup_of_new hmemo,
            grown, Nat.mul_succ]
          omega

private theorem visitorCount_resolve (dispatch : SharedDispatch) (kind : Kind) :
    (Dispatch.resolve dispatch kind).2.table.visitorCount = dispatch.table.visitorCount := by
  change (dispatch.resolve kind).2.table.visitorCount = _
  cases hmemo : dispatch.cached.memo.get? kind with
  | some entry => rw [resolve_of_remembered hmemo]
  | none =>
      cases htable : dispatch.table.get? kind with
      | some entry => rw [resolve_of_shared hmemo htable]
      | none => rw [resolve_of_new hmemo htable, SharedTable.insert_of_absent htable]

theorem checks_lookUps (dispatch : SharedDispatch) (kinds : List Kind) :
    (Dispatch.lookUps dispatch kinds).2.cached.counters.applicabilityChecks +
        dispatch.cached.rules.length * dispatch.table.size =
      dispatch.cached.counters.applicabilityChecks +
        dispatch.cached.rules.length * (Dispatch.lookUps dispatch kinds).2.table.size := by
  induction kinds generalizing dispatch with
  | nil => rfl
  | cons kind rest ih =>
      have first := checks_resolve dispatch kind
      have later := ih (Dispatch.resolve dispatch kind).2
      rw [(answered_resolve dispatch kind).rules_eq] at later
      rw [Dispatch.lookUps_cons]
      dsimp only
      omega

theorem visitorCount_lookUps (dispatch : SharedDispatch) (kinds : List Kind) :
    (Dispatch.lookUps dispatch kinds).2.table.visitorCount = dispatch.table.visitorCount := by
  induction kinds generalizing dispatch with
  | nil => rfl
  | cons kind rest ih => rw [Dispatch.lookUps_cons, ih, visitorCount_resolve]

end SharedDispatch

/-! ## Lookups in the middle of each other -/

private theorem Participant.Since.memo_eq {who : Participant} {settled : CachedDispatch}
    (since : who.Since settled) : who.dispatch.memo = settled.memo := by
  unfold Participant.Since at since
  split at since
  · rw [since]
  · rw [since]
  · rw [since.2, CachedDispatch.memo_countLookup]
  · rw [since.2, CachedDispatch.memo_evaluate, CachedDispatch.memo_countLookup]

/-- A participant whose counters may be set back, and what they had shown. -/
structure Keeper where
  who : Participant
  retired : DispatchCounters

inductive Deed where
  | move (move : Move)
  | reset
deriving DecidableEq, Repr

namespace Keeper

def fresh (rules : List Applicability) : Keeper := ⟨.fresh rules, .zero⟩

def life (keeper : Keeper) : Lifetime := ⟨keeper.who.answers.map (·.1), keeper.retired⟩

/-- One step on a table; counters are set back between lookups only. -/
def act (keeper : Keeper) (deed : Deed) (table : SharedTable) : Keeper × SharedTable :=
  match deed with
  | .move move =>
    let (who, table) := keeper.who.act move table
    ({ keeper with who }, table)
  | .reset =>
    if keeper.who.phase = .idle then
      (⟨{ keeper.who with dispatch := keeper.who.dispatch.resetCounters },
        keeper.retired + keeper.who.dispatch.counters⟩, table)
    else (keeper, table)

/-- The lookups it has finished account for its counters and its memo table. -/
def Lives (keeper : Keeper) : Prop :=
  ∃ settled : CachedDispatch, settled.Lived keeper.life ∧ keeper.who.Since settled

private theorem lives_fresh (rules : List Applicability) : (fresh rules).Lives :=
  ⟨.ofRules rules, .ofRules rules, rfl⟩

theorem Lives.consistent {keeper : Keeper} (lives : keeper.Lives)
    (idle : keeper.who.phase = .idle) : keeper.who.dispatch.Consistent keeper.life := by
  obtain ⟨settled, lived, since⟩ := lives
  simp only [Participant.Since, idle] at since
  exact since ▸ lived.consistent

theorem Lives.act {keeper : Keeper} (lives : keeper.Lives) (deed : Deed) (table : SharedTable) :
    (keeper.act deed table).1.Lives := by
  obtain ⟨settled, lived, since⟩ := lives
  cases deed with
  | move move =>
      rcases (keeper.who.outcome_act move table).since since with
        ⟨hanswers, since⟩ | ⟨kind, entry, settled', hanswers, answered, since⟩
      · refine ⟨settled, ?_, since⟩
        have same : (keeper.act (.move move) table).1.life = keeper.life := by
          simp [life, Keeper.act, hanswers]
        rwa [same]
      · refine ⟨settled', ?_, since⟩
        have asked : (keeper.act (.move move) table).1.life = keeper.life.ask [kind] := by
          simp [life, Keeper.act, hanswers, Lifetime.ask]
        rw [asked]
        exact lived.answered answered
  | reset =>
      by_cases idle : keeper.who.phase = .idle
      · simp only [Participant.Since, idle] at since
        subst since
        rw [Keeper.act, if_pos idle]
        refine ⟨keeper.who.dispatch.resetCounters, lived.resetCounters, ?_⟩
        simp [Participant.Since, idle]
      · rw [Keeper.act, if_neg idle]
        exact ⟨settled, lived, since⟩

theorem remembered?_reset (keeper : Keeper) (table : SharedTable) (kind : Kind) :
    (keeper.act .reset table).1.who.dispatch.remembered? kind =
      keeper.who.dispatch.remembered? kind := by
  by_cases idle : keeper.who.phase = .idle
  · simp [act, idle, CachedDispatch.remembered?, CachedDispatch.resetCounters]
  · simp [act, idle]

theorem Lives.keeps {keeper : Keeper} (lives : keeper.Lives) (deed : Deed) (table : SharedTable)
    {kind : Kind} {entry : List Nat} (known : keeper.who.dispatch.remembered? kind = some entry) :
    (keeper.act deed table).1.who.dispatch.remembered? kind = some entry := by
  obtain ⟨settled, -, since⟩ := lives
  cases deed with
  | move move =>
      have before : settled.remembered? kind = some entry := by
        rwa [CachedDispatch.remembered?, ← since.memo_eq]
      rcases (keeper.who.outcome_act move table).since since with
        ⟨-, since⟩ | ⟨asked, held, settled', -, answered, since⟩
      · exact (congrArg (·.get? kind) since.memo_eq).trans before
      · exact (congrArg (·.get? kind) since.memo_eq).trans (answered.keeps before)
  | reset => rwa [remembered?_reset]

end Keeper

structure Keepers where
  table : SharedTable
  members : List Keeper

namespace Keepers

def start (table : SharedTable) (rules : List (List Applicability)) : Keepers :=
  ⟨table, rules.map .fresh⟩

def act (keepers : Keepers) (number : Nat) (deed : Deed) : Keepers :=
  match keepers.members[number]? with
  | none => keepers
  | some keeper =>
    let (keeper, table) := keeper.act deed keepers.table
    ⟨table, keepers.members.set number keeper⟩

def run (keepers : Keepers) (schedule : List (Nat × Deed)) : Keepers :=
  schedule.foldl (fun keepers step => keepers.act step.1 step.2) keepers

private theorem getElem?_act (keepers : Keepers) (number : Nat) (deed : Deed) (place : Nat) :
    (keepers.act number deed).members[place]? =
      if place = number then
        keepers.members[number]?.map fun keeper => (keeper.act deed keepers.table).1
      else keepers.members[place]? := by
  unfold act
  cases hkeeper : keepers.members[number]? with
  | none =>
      by_cases same : place = number
      · subst same
        simp [hkeeper]
      · simp [same]
  | some keeper =>
      have inRange := (List.getElem?_eq_some_iff.mp hkeeper).1
      by_cases same : place = number
      · subst same
        simp [inRange]
      · simp [same, List.getElem?_set_ne (Ne.symm same)]

/-- Under every schedule every keeper lives on, and remembers at least what it remembered. -/
theorem run_lives {keepers : Keepers} (schedule : List (Nat × Deed)) {place : Nat}
    {keeper : Keeper} (member : keepers.members[place]? = some keeper) (lives : keeper.Lives) :
    ∃ later, (keepers.run schedule).members[place]? = some later ∧ later.Lives ∧
      ∀ kind entry, keeper.who.dispatch.remembered? kind = some entry →
        later.who.dispatch.remembered? kind = some entry := by
  induction schedule generalizing keepers keeper with
  | nil => exact ⟨keeper, member, lives, fun _ _ known => known⟩
  | cons step rest ih =>
      obtain ⟨number, deed⟩ := step
      by_cases same : place = number
      · subst same
        have next : (keepers.act place deed).members[place]? =
            some (keeper.act deed keepers.table).1 := by
          rw [getElem?_act, if_pos rfl, member, Option.map_some]
        obtain ⟨later, hlater, hlives, keeps⟩ := ih next (lives.act deed keepers.table)
        exact ⟨later, hlater, hlives, fun kind entry known =>
          keeps kind entry (lives.keeps deed keepers.table known)⟩
      · have next : (keepers.act number deed).members[place]? = some keeper := by
          rw [getElem?_act, if_neg same, member]
        exact ih next lives

private theorem length_run (keepers : Keepers) (schedule : List (Nat × Deed)) :
    (keepers.run schedule).members.length = keepers.members.length := by
  induction schedule generalizing keepers with
  | nil => rfl
  | cons step rest ih =>
      refine (ih (keepers.act step.1 step.2)).trans ?_
      unfold act
      cases keepers.members[step.1]? <;> simp

theorem lives_of_run {table : SharedTable} {rules : List (List Applicability)}
    {schedule : List (Nat × Deed)} {place : Nat} {keeper : Keeper}
    (member : ((start table rules).run schedule).members[place]? = some keeper) :
    keeper.Lives := by
  have inRange := (List.getElem?_eq_some_iff.mp member).1
  rw [length_run, start, List.length_map] at inRange
  have first : (start table rules).members[place]? = some (.fresh rules[place]) := by
    simp [start, inRange]
  obtain ⟨later, hlater, lives, -⟩ := run_lives schedule first (Keeper.lives_fresh _)
  exact Option.some.inj (hlater.symm.trans member) ▸ lives

end Keepers

end KindDispatch
