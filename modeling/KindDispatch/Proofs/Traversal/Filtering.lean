import KindDispatch.Proofs.Traversal.Parallel

/-!
# Dispatch as a filter

Instead of looking up the visitors that apply to a kind one could ask every visitor at every node
whether the kind of the node is one of its own.  `Hooks.filtering` are visitors that are asked so.
The two come to the same as long as no node is replaced by one of another kind: visitors looked up
before such a replacement would still be called after it.

So two walks are compared up to the first such call (`Recorded.Matches`).
-/

namespace KindDispatch

variable {V S D D' W W' A B P Q : Type}

/-! ## Filtering visitors -/

/-- Visitors that apply to every kind and accept a node only if its kind is one that they were
declared for. -/
def Hooks.filtering (hooks : Hooks V S) : Hooks (V × Applicability) S where
  name visitor := hooks.name visitor.1
  applicability _ := .any
  accepts visitor node := visitor.2.appliesTo node.kind && hooks.accepts visitor.1 node
  call hook visitor node state :=
    let (result, inner, state) := hooks.call hook visitor.1 node state
    (result, (inner, visitor.2), state)

def VisitorSet.filtering (set : VisitorSet V) : VisitorSet (V × Applicability) :=
  ⟨set.entries.map (·, .any)⟩

@[simp] theorem VisitorSet.visitors_filtering (set : VisitorSet V) :
    set.filtering.visitors = set.entries := by
  simp [visitors, filtering, Function.comp_def]

@[simp] theorem VisitorSet.rules_filtering (set : VisitorSet V) :
    set.filtering.rules = set.rules.map fun _ => .any := by
  simp [rules, filtering, Function.comp_def]

/-- The call does not put a node of another kind in the place of the one it is made on. -/
def VisitorCall.KeepsKind (call : VisitorCall) : Prop :=
  ∀ other, call.result = .replace other → other.kind = call.node.kind

instance (call : VisitorCall) : Decidable call.KeepsKind :=
  match same : call.result with
  | .replace other =>
    decidable_of_iff (other.kind = call.node.kind) (by simp [VisitorCall.KeepsKind, same])
  | .proceed | .skipChildren | .remove | .stop =>
    .isTrue fun other replaced => by simp [same] at replaced

namespace Recorded

/-! ## Parts of two walks -/

/-- A part of a walk that does not come to an end without a call that is not `good`. -/
def Spoilt (good : VisitorCall → Prop) (part : Part P A W) : Prop :=
  Ensures (fun _ _ moments _ => ∃ moment ∈ moments, ¬good moment.call) part

/-- Parts of two walks that go the same way, unless both are spoilt. -/
inductive Matches (good : VisitorCall → Prop) (R : W → W' → Prop) :
    Part P A W → Part P A W' → Prop
  | done (step : Step) (value : A) (moments : List (Moment P)) {walk : W} {walk' : W'}
      (related : R walk walk') :
      Matches good R (.ok (step, value, moments, walk)) (.ok (step, value, moments, walk'))
  | spoilt {part : Part P A W} {part' : Part P A W'} (spoilt : Spoilt good part)
      (spoilt' : Spoilt good part') : Matches good R part part'

variable {good : VisitorCall → Prop} {R : W → W' → Prop} {part : Part P A W} {part' : Part P A W'}

namespace Spoilt

theorem error (cause : Halt) : Spoilt (P := P) (A := A) (W := W) good (.error cause) := by
  rintro _ _ _ _ ⟨⟩

theorem ok {step : Step} {value : A} {moments : List (Moment P)} {walk : W}
    (bad : ∃ moment ∈ moments, ¬good moment.call) :
    Spoilt good (.ok (step, value, moments, walk)) :=
  Ensures.ok bad

theorem relocate (spoilt : Spoilt good part) (change : P → Q) (outer : A → B) :
    Spoilt good (relocate change outer part) := by
  refine Ensures.relocate spoilt ?_
  rintro _ _ moments _ ⟨moment, member, bad⟩
  exact ⟨moment.map change, List.mem_map_of_mem member, bad⟩

theorem andThen (spoilt : Spoilt good part) (exit : A → B)
    (next : Step → A → W → Part P B W) : Spoilt good (andThen part exit next) := by
  refine Ensures.andThen spoilt (fun _ _ _ bad => bad) ?_
  rintro step value early walk - ⟨moment, member, bad⟩ _ _ _ _ -
  exact ⟨moment, List.mem_append_left _ member, bad⟩

theorem andThen_ok {step : Step} (going : step ≠ .stop) {value : A} {early : List (Moment P)}
    {walk : W} (exit : A → B) {next : Step → A → W → Part P B W}
    (spoilt : Spoilt good (next step value walk)) :
    Spoilt good (Recorded.andThen (.ok (step, value, early, walk)) exit next) := by
  intro _ _ _ _ ends
  rcases andThen_eq_ok ends with ⟨_, hfirst, -, -⟩ | ⟨_, _, _, _, late, -, hfirst, hnext, rfl⟩
  · cases hfirst
    contradiction
  · cases hfirst
    obtain ⟨moment, member, bad⟩ := spoilt _ _ _ _ hnext
    exact ⟨moment, List.mem_append_right _ member, bad⟩

end Spoilt

namespace Matches

theorem outcomes (same : Matches good R part part') :
    (∃ step value moments walk walk', part = .ok (step, value, moments, walk) ∧
        part' = .ok (step, value, moments, walk') ∧ R walk walk') ∨
      Spoilt good part ∧ Spoilt good part' := by
  cases same with
  | done step value moments related => exact .inl ⟨step, value, moments, _, _, rfl, rfl, related⟩
  | spoilt one other => exact .inr ⟨one, other⟩

theorem error (cause : Halt) :
    Matches (P := P) (A := A) good R (.error cause) (.error cause) :=
  .spoilt (.error cause) (.error cause)

theorem relocate (same : Matches good R part part') (change : P → Q) (outer : A → B) :
    Matches good R (relocate change outer part) (Recorded.relocate change outer part') := by
  cases same with
  | done step value moments related => exact .done step (outer value) _ related
  | spoilt one other => exact .spoilt (one.relocate change outer) (other.relocate change outer)

/-- What comes next has to match only after calls that are good. -/
theorem andThen (same : Matches good R part part') (exit : A → B)
    {next : Step → A → W → Part P B W} {next' : Step → A → W' → Part P B W'}
    (goes : ∀ step value moments walk walk', part = .ok (step, value, moments, walk) →
      (∀ moment ∈ moments, good moment.call) → R walk walk' →
      Matches good R (next step value walk) (next' step value walk')) :
    Matches good R (andThen part exit next) (Recorded.andThen part' exit next') := by
  rcases same.outcomes with
    ⟨step, value, moments, walk, walk', rfl, rfl, related⟩ | ⟨one, other⟩
  · by_cases stopped : step = .stop
    · subst stopped
      exact .done .stop (exit value) moments related
    · by_cases clean : ∀ moment ∈ moments, good moment.call
      · rcases (goes step value moments walk walk' rfl clean related).outcomes with
          ⟨step', value', late, after, after', hnext, hnext', related'⟩ | ⟨one, other⟩
        · rw [andThen_of_ne stopped, andThen_of_ne stopped, hnext, hnext']
          exact .done step' value' (moments ++ late) related'
        · exact .spoilt (one.andThen_ok stopped exit) (other.andThen_ok stopped exit)
      · have bad : ∃ moment ∈ moments, ¬good moment.call := by simpa using clean
        exact .spoilt ((Spoilt.ok bad).andThen exit next) ((Spoilt.ok bad).andThen exit next')
  · exact .spoilt (one.andThen exit next) (other.andThen exit next')

end Matches

/-! ## Sequences and forests -/

section

variable {walkOne : Node → W → Part Place Node W} {walkOne' : Node → W' → Part Place Node W'}

theorem sequence_matches
    (one : ∀ node walk walk', R walk walk' →
      Matches good R (walkOne node walk) (walkOne' node walk'))
    (done rest : List Node) {walk : W} {walk' : W'} (related : R walk walk') :
    Matches good R (sequence walkOne done rest walk) (sequence walkOne' done rest walk') := by
  induction rest generalizing done walk walk' with
  | nil => exact .done .keep done.reverse [] related
  | cons node rest ih =>
      exact ((one node walk walk' related).relocate _ id).andThen _
        fun step left _ _ _ _ _ related => ih (step.kept left ++ done) related

theorem descend_matches
    (one : ∀ node walk walk', R walk walk' →
      Matches good R (walkOne node walk) (walkOne' node walk'))
    (skip : Bool) (node : Node) {walk : W} {walk' : W'} (related : R walk walk') :
    Matches good R (descend (sequence walkOne []) skip node walk)
      (descend (sequence walkOne' []) skip node walk') := by
  unfold descend
  cases skip with
  | true => exact .done .keep node [] related
  | false => exact (sequence_matches one [] node.children related).relocate _ _

theorem forests_matches
    (one : ∀ node walk walk', R walk walk' →
      Matches good R (walkOne node walk) (walkOne' node walk'))
    (done rest : List Forest) {walk : W} {walk' : W'} (related : R walk walk') :
    Matches good R (forests walkOne done rest walk) (forests walkOne' done rest walk') := by
  induction rest generalizing done walk walk' with
  | nil => exact .done .keep done.reverse [] related
  | cons forest rest ih =>
      exact ((sequence_matches one [] forest related).relocate _ id).andThen _
        fun _ left _ _ _ _ _ related => ih (left :: done) related

end

end Recorded

/-! ## Filters in place of lookups -/

/-- The progress of visitors and that of the same visitors with filters of their own. -/
structure Progress.Filters (rules : List Applicability) (progress : Progress V S)
    (progress' : Progress (V × Applicability) S) : Prop where
  visitors : progress'.visitors.map Prod.fst = progress.visitors
  declared : progress'.visitors.map Prod.snd = rules.toArray
  state : progress'.state = progress.state
  stats : progress'.stats = progress.stats
  calls : progress'.calls = progress.calls

namespace Progress.Filters

variable {rules : List Applicability} {progress : Progress V S}
  {progress' : Progress (V × Applicability) S} {index : Nat}

private theorem countNode (filters : progress.Filters rules progress') :
    Filters rules progress.countNode progress'.countNode :=
  { filters with stats := by simp [Progress.countNode, filters.stats] }

private theorem present (filters : progress.Filters rules progress') {rule : Applicability}
    (declared : rules[index]? = some rule) :
    ∃ (inRange : index < progress.visitors.size) (inRange' : index < progress'.visitors.size),
      progress'.visitors[index] = (progress.visitors[index], rule) := by
  obtain ⟨visitors, state, stats, calls⟩ := progress
  obtain rfl := filters.visitors
  have second : (progress'.visitors.map Prod.snd)[index]? = some rule := by
    rw [filters.declared, List.getElem?_toArray, declared]
  obtain ⟨inRange, same⟩ := Array.getElem?_eq_some_iff.mp second
  have inRange' : index < progress'.visitors.size := by simpa using inRange
  exact ⟨by simpa using inRange', inRange', Prod.ext (by simp) (by simpa using same)⟩

private theorem answered (filters : progress.Filters rules progress') (call : VisitorCall)
    {rule : Applicability} (declared : rules[index]? = some rule)
    (inRange : index < progress.visitors.size) (inRange' : index < progress'.visitors.size)
    (visitor : V) (state : S) :
    Filters rules
      (Recorded.answered progress call (progress.visitors.set index visitor) state)
      (Recorded.answered progress' call (progress'.visitors.set index (visitor, rule)) state) where
  visitors := by
    simp [Recorded.answered, Array.map_set, filters.visitors]
  declared := by
    obtain ⟨_, _, same⟩ := filters.present declared
    have inRange'' : index < (progress'.visitors.map Prod.snd).size := by simpa using inRange'
    have own : rule = (progress'.visitors.map Prod.snd)[index] := by simp [same]
    calc (progress'.visitors.set index (visitor, rule)).map Prod.snd
        = (progress'.visitors.map Prod.snd).set index rule := Array.map_set
      _ = progress'.visitors.map Prod.snd := by
          simp only [own]
          exact Array.set_getElem_self inRange''
      _ = rules.toArray := filters.declared
  state := rfl
  stats := by simp [Recorded.answered, filters.stats]
  calls := by simp [Recorded.answered, filters.calls]

end Progress.Filters

structure Owned.Filters [Dispatch D] [LawfulDispatch D] [Dispatch D'] [LawfulDispatch D']
    (rules : List Applicability) (walk : Progress V S × D)
    (walk' : Progress (V × Applicability) S × D') : Prop where
  progress : walk.1.Filters rules walk'.1
  sound : LawfulDispatch.Sound rules walk.2
  sound' : LawfulDispatch.Sound (rules.map fun _ => .any) walk'.2

def Chosen (rules : List Applicability) (kind : Kind) (indices indices' : List Nat) : Prop :=
  indices = indices'.filter (fun index => rules[index]?.any (·.appliesTo kind)) ∧
    ∀ index ∈ indices', index < rules.length

private theorem chosen_applicable (rules : List Applicability) (kind : Kind) :
    Chosen rules kind (applicable rules kind) (applicable (rules.map fun _ => .any) kind) := by
  have all : applicable (rules.map fun _ => .any) kind = rules.zipIdx.map (·.2) := by
    have every : ∀ place ∈ (rules.map fun _ => Applicability.any).zipIdx,
        place.1.appliesTo kind = true := by
      intro place member
      obtain ⟨rule, -, same⟩ := List.mem_map.mp (List.fst_mem_of_mem_zipIdx member)
      rw [← same]
      rfl
    rw [applicable_eq_filter, List.filter_eq_self.mpr every]
    simp
  refine ⟨?_, fun index member => by simpa using lt_length_of_mem_applicable member⟩
  rw [all, applicable_eq_filter, List.filter_map]
  congr 1
  refine List.filter_congr fun place member => ?_
  have present : rules[place.2]? = some place.1 := List.mem_zipIdx_iff_getElem?.mp member
  simp [present]

theorem Owned.Filters.resolve [Dispatch D] [LawfulDispatch D] [Dispatch D'] [LawfulDispatch D']
    {rules : List Applicability} {progress : Progress V S} {dispatch : D}
    {progress' : Progress (V × Applicability) S} {dispatch' : D'}
    (filters : Owned.Filters rules (progress, dispatch) (progress', dispatch')) (kind : Kind) :
    Chosen rules kind (Dispatch.resolve dispatch kind).1 (Dispatch.resolve dispatch' kind).1 ∧
      Owned.Filters rules (progress, (Dispatch.resolve dispatch kind).2)
        (progress', (Dispatch.resolve dispatch' kind).2) := by
  rw [LawfulDispatch.resolve_fst filters.sound, LawfulDispatch.resolve_fst filters.sound']
  exact ⟨chosen_applicable rules kind, { filters with
    sound := LawfulDispatch.sound_resolve filters.sound kind
    sound' := LawfulDispatch.sound_resolve filters.sound' kind }⟩

namespace Recorded

private theorem andThen_nothing {step : Step} (going : step ≠ .stop) (value : A) (walk : W)
    (exit : A → B) (next : Step → A → W → Part P B W) :
    andThen (.ok (step, value, [], walk)) exit next = next step value walk := by
  rw [andThen_of_ne going]
  cases next step value walk <;> rfl

private theorem kind_call (hooks : Hooks V S) (hook : Hook) (index : Nat) (node : Node)
    (skip : Bool) (walk : Progress V S × D) :
    Ensures (fun _ (left : Node × Bool) moments _ =>
        (∀ moment ∈ moments, moment.call.KeepsKind) → left.1.kind = node.kind)
      (call hooks hook index (node, skip) walk) := by
  obtain ⟨progress, dispatch⟩ := walk
  refine call_ensures hooks hook node skip progress dispatch (fun _ => rfl) ?_
  intro inRange result visitor state accepts answer keeps
  have keepsKind : VisitorCall.KeepsKind ⟨index, hook, node, result⟩ := by simpa using keeps
  cases result with
  | replace other => exact keepsKind other rfl
  | proceed => rfl
  | skipChildren => rfl
  | remove => rfl
  | stop => rfl

section

variable [Dispatch D] [LawfulDispatch D] [Dispatch D'] [LawfulDispatch D'] {hooks : Hooks V S}
  {rules : List Applicability} {walk : Progress V S × D}
  {walk' : Progress (V × Applicability) S × D'} {index : Nat} {rule : Applicability} {node : Node}

private theorem call_matches (filters : Owned.Filters rules walk walk') (hook : Hook)
    (declared : rules[index]? = some rule) (applies : rule.appliesTo node.kind = true)
    (skip : Bool) :
    Matches VisitorCall.KeepsKind (Owned.Filters rules)
      (call hooks hook index (node, skip) walk)
      (call hooks.filtering hook index (node, skip) walk') := by
  obtain ⟨progress, dispatch⟩ := walk
  obtain ⟨progress', dispatch'⟩ := walk'
  have both : progress.Filters rules progress' := filters.progress
  obtain ⟨inRange, inRange', same⟩ := both.present declared
  have accepts' : hooks.filtering.accepts progress'.visitors[index] node =
      hooks.accepts progress.visitors[index] node := by
    simp [Hooks.filtering, same, applies]
  cases haccepts : hooks.accepts progress.visitors[index] node with
  | false =>
      rw [call_of_not_accepts hooks hook node skip progress dispatch inRange haccepts,
        call_of_not_accepts hooks.filtering hook node skip progress' dispatch' inRange'
          (accepts'.trans haccepts)]
      exact .done _ _ _ filters
  | true =>
      rcases answer : hooks.call hook progress.visitors[index] node progress.state with
        ⟨result, visitor, state⟩
      have answer' : hooks.filtering.call hook progress'.visitors[index] node progress'.state =
          (result, (visitor, rule), state) := by
        simp [Hooks.filtering, same, both.state, answer]
      rw [call_of_accepts hooks hook node skip progress dispatch inRange haccepts answer,
        call_of_accepts hooks.filtering hook node skip progress' dispatch' inRange'
          (accepts'.trans haccepts) answer', both.stats]
      exact .done _ _ _
        { filters with progress := both.answered _ declared inRange inRange' visitor state }

private theorem call_of_not_applies (filters : Owned.Filters rules walk walk') (hook : Hook)
    (declared : rules[index]? = some rule) (applies : rule.appliesTo node.kind = false)
    (skip : Bool) :
    call hooks.filtering hook index (node, skip) walk' = .ok (.keep, (node, skip), [], walk') := by
  obtain ⟨inRange, inRange', same⟩ := filters.progress.present declared
  exact call_of_not_accepts hooks.filtering hook node skip walk'.1 walk'.2 inRange'
    (by simp [Hooks.filtering, same, applies])

private theorem callEach_matches (filters : Owned.Filters rules walk walk') (hook : Hook)
    {indices indices' : List Nat} (target : Node × Bool)
    (chosen : Chosen rules target.1.kind indices indices') :
    Matches VisitorCall.KeepsKind (Owned.Filters rules) (callEach hooks hook indices target walk)
      (callEach hooks.filtering hook indices' target walk') := by
  induction indices' generalizing indices target walk walk' with
  | nil =>
      obtain rfl : indices = [] := by simpa using chosen.1
      exact .done .keep target [] filters
  | cons index rest ih =>
      obtain ⟨node, skip⟩ := target
      obtain ⟨rfl, inRange⟩ := chosen
      obtain ⟨hindex, hrest⟩ := List.forall_mem_cons.mp inRange
      have declared : rules[index]? = some rules[index] := List.getElem?_eq_getElem hindex
      cases applies : rules[index].appliesTo node.kind with
      | true =>
          rw [List.filter_cons_of_pos (by simp [declared, applies])]
          refine (call_matches filters hook declared applies skip).andThen id ?_
          rintro step left moments walk walk' called keeps filters
          split
          · exact .done .remove left [] filters
          · have same : left.1.kind = node.kind :=
              kind_call hooks hook index node skip _ _ _ _ _ called keeps
            exact ih filters left ⟨by rw [same], hrest⟩
      | false =>
          rw [List.filter_cons_of_neg (by simp [declared, applies])]
          rw [callEach, call_of_not_applies filters hook declared applies skip,
            andThen_nothing (by simp)]
          exact ih filters (node, skip) ⟨rfl, hrest⟩

theorem leave_matches (filters : Owned.Filters rules walk walk') {entered : Kind}
    {indices indices' : List Nat} (chosen : Chosen rules entered indices indices') (left : Node) :
    Matches VisitorCall.KeepsKind (Owned.Filters rules) (leave hooks entered indices left walk)
      (leave hooks.filtering entered indices' left walk') := by
  obtain ⟨progress, dispatch⟩ := walk
  obtain ⟨progress', dispatch'⟩ := walk'
  unfold leave
  by_cases changed : left.kind ≠ entered
  · obtain ⟨chosen, filters⟩ := filters.resolve left.kind
    simp only [if_pos changed]
    exact (callEach_matches filters .leave (left, false) chosen).relocate id Prod.fst
  · obtain rfl : left.kind = entered := not_not.mp changed
    simp only [if_neg changed]
    exact (callEach_matches filters .leave (left, false) chosen).relocate id Prod.fst

theorem node_matches (depth : Nat) (target : Node) (filters : Owned.Filters rules walk walk') :
    Matches VisitorCall.KeepsKind (Owned.Filters rules) (Recorded.node hooks depth target walk)
      (Recorded.node hooks.filtering depth target walk') := by
  induction depth generalizing target walk walk' with
  | zero => exact .error .tooDeep
  | succ depth ih =>
      obtain ⟨progress, dispatch⟩ := walk
      obtain ⟨progress', dispatch'⟩ := walk'
      obtain ⟨chosen, filters⟩ := filters.resolve target.kind
      have counted : Owned.Filters rules
          (progress.countNode, (Dispatch.resolve dispatch target.kind).2)
          (progress'.countNode, (Dispatch.resolve dispatch' target.kind).2) :=
        { filters with progress := filters.progress.countNode }
      refine (callEach_matches counted .enter (target, false) chosen).andThen Prod.fst ?_
      rintro step ⟨entered, skip⟩ moments walk walk' - - filters
      dsimp only
      split
      · exact .done .remove entered [] filters
      · refine (descend_matches (fun node _ _ => ih node) skip entered filters).andThen id ?_
        exact fun _ left _ _ _ _ _ filters => leave_matches filters chosen left

end

end Recorded

/-! ## Sessions -/

structure Session.Filters (rules : List Applicability) (session : Session V S D)
    (session' : Session (V × Applicability) S D') : Prop where
  calls : session'.calls = session.calls
  forests : session'.forests = session.forests
  visitors : session'.traverser.visitors.toList = session.traverser.visitors.toList.zip rules
  state : session'.state = session.state
  stats : session'.stats = session.stats

private theorem Traverser.bad_call_of_spoilt [Dispatch D] {hooks : Hooks V S} {depth : Nat}
    {traverser : Traverser V D} {forests : List Forest} {state : S} {session : Session V S D}
    {good : VisitorCall → Prop}
    (spoilt : Recorded.Spoilt good (traverser.recorded hooks depth forests state))
    (ends : traverser.traverseAll hooks depth forests state = .ok session) :
    ∃ call ∈ session.calls, ¬good call := by
  obtain ⟨step, progress, hrecorded, -, hcalls, -⟩ := recorded_of_traverseAll ends
  obtain ⟨moment, member, bad⟩ := spoilt _ _ _ _ hrecorded
  exact ⟨moment.call, hcalls ▸ List.mem_map_of_mem member, bad⟩

private theorem Owned.Filters.start [Dispatch D] [LawfulDispatch D] [Dispatch D']
    [LawfulDispatch D'] (set : VisitorSet V) {dispatch : D} {dispatch' : D'}
    (sound : LawfulDispatch.Sound set.rules dispatch)
    (sound' : LawfulDispatch.Sound set.filtering.rules dispatch') (state : S) :
    Owned.Filters set.rules (Traverser.start ⟨set.visitors.toArray, dispatch⟩ state)
      (Traverser.start ⟨set.filtering.visitors.toArray, dispatch'⟩ state) where
  progress :=
    { visitors := by
        simp only [Traverser.start, VisitorSet.visitors_filtering]
        simp [VisitorSet.visitors]
      declared := by
        simp only [Traverser.start, VisitorSet.visitors_filtering]
        simp [VisitorSet.rules]
      state := rfl
      stats := rfl
      calls := rfl }
  sound
  sound' := by
    rw [VisitorSet.rules_filtering] at sound'
    exact sound'

theorem Owned.Filters.session [Dispatch D] [LawfulDispatch D] [Dispatch D'] [LawfulDispatch D']
    {rules : List Applicability} {walk : Progress V S × D}
    {walk' : Progress (V × Applicability) S × D'} (filters : Owned.Filters rules walk walk')
    (forests : List Forest) :
    Session.Filters rules (.ofWalk forests walk) (.ofWalk forests walk') where
  calls := congrArg List.reverse filters.progress.calls
  forests := rfl
  visitors := by
    refine List.zip_of_prod ?_ ?_
    · simpa [Session.ofWalk] using congrArg Array.toList filters.progress.visitors
    · simpa [Session.ofWalk] using congrArg Array.toList filters.progress.declared
  state := filters.progress.state
  stats := filters.progress.stats

/--
Visitors that are looked up by their rules and the same visitors that are all asked at every node,
and check the rules themselves, make the same sessions, if no call puts a node of another kind in
the place of one: the same calls on the same nodes, and at the end the same forests, visitors, state
of the caller and totals.  It is enough that either session ends without such a call; then so does
the other.
-/
theorem dispatch_is_filtering [Dispatch D] [LawfulDispatch D] [Dispatch D'] [LawfulDispatch D']
    (hooks : Hooks V S) (set : VisitorSet V) {dispatch : D} {dispatch' : D'}
    (sound : LawfulDispatch.Sound set.rules dispatch)
    (sound' : LawfulDispatch.Sound set.filtering.rules dispatch') (depth : Nat)
    (forests : List Forest) (state : S) :
    let traverser : Traverser V D := ⟨set.visitors.toArray, dispatch⟩
    let traverser' : Traverser (V × Applicability) D' := ⟨set.filtering.visitors.toArray, dispatch'⟩
    (∀ session, traverser.traverseAll hooks depth forests state = .ok session →
        (∀ call ∈ session.calls, call.KeepsKind) →
        ∃ session', traverser'.traverseAll hooks.filtering depth forests state = .ok session' ∧
          session.Filters set.rules session') ∧
      ∀ session', traverser'.traverseAll hooks.filtering depth forests state = .ok session' →
        (∀ call ∈ session'.calls, call.KeepsKind) →
        ∃ session, traverser.traverseAll hooks depth forests state = .ok session ∧
          session.Filters set.rules session' := by
  intro traverser traverser'
  have walks : Recorded.Matches VisitorCall.KeepsKind (Owned.Filters set.rules)
      (traverser.recorded hooks depth forests state)
      (traverser'.recorded hooks.filtering depth forests state) :=
    Recorded.forests_matches (fun node _ _ => Recorded.node_matches depth node) [] forests
      (.start set sound sound' state)
  rcases walks.outcomes with
    ⟨step, left, moments, walk, walk', hrecorded, hrecorded', filters⟩ | ⟨spoilt, spoilt'⟩
  · have ends : traverser.traverseAll hooks depth forests state = .ok (.ofWalk left walk) := by
      rw [Traverser.traverseAll_eq_recorded, hrecorded]
      rfl
    have ends' : traverser'.traverseAll hooks.filtering depth forests state =
        .ok (.ofWalk left walk') := by
      rw [Traverser.traverseAll_eq_recorded, hrecorded']
      rfl
    refine ⟨fun session hsession _ => ⟨_, ends', ?_⟩, fun session' hsession' _ => ⟨_, ends, ?_⟩⟩
    · obtain rfl := Except.ok.inj (ends.symm.trans hsession)
      exact filters.session left
    · obtain rfl := Except.ok.inj (ends'.symm.trans hsession')
      exact filters.session left
  · refine ⟨fun session hsession keeps => ?_, fun session' hsession' keeps => ?_⟩
    · obtain ⟨call, member, bad⟩ := Traverser.bad_call_of_spoilt spoilt hsession
      exact absurd (keeps call member) bad
    · obtain ⟨call, member, bad⟩ := Traverser.bad_call_of_spoilt spoilt' hsession'
      exact absurd (keeps call member) bad

/-! Functions are renamed and structs are removed, with and without a memo table.  Where functions
are turned into structs before a visitor of functions has its turn, that visitor is called all the
same, but its filter would not let it. -/

namespace Script

section Renamed

def tidying : VisitorSet ScriptedVisitor :=
  ⟨[({ ScriptedVisitor.idle "rename" with enter := [⟨.rename "other", .always, none⟩] },
      .ofKind .function),
    ({ ScriptedVisitor.idle "remove" with leave := [⟨.remove, .always, none⟩] }, .ofKind .struct)]⟩

def renamed : List Forest := [[⟨.function, none, 0, [.ofKind .struct, .ofKind .enum]⟩]]

theorem dispatch_is_filtering_renamed :
    ∃ session session',
      (Traverser.cached tidying).traverseAll (ScriptedVisitor.hooks Unit) 2 renamed () =
          .ok session ∧
        (Traverser.naive tidying.filtering).traverseAll (ScriptedVisitor.hooks Unit).filtering 2
          renamed () = .ok session' ∧
        session.Filters tidying.rules session' := by
  have sound : LawfulDispatch.Sound tidying.rules (CachedDispatch.ofRules tidying.rules) :=
    CachedDispatch.sound_ofRules tidying.rules
  have same := (dispatch_is_filtering (ScriptedVisitor.hooks Unit) tidying sound
    (NaiveDispatch.sound_ofRules tidying.filtering.rules) 2 renamed ()).1
  have keeps : ((Traverser.cached tidying).traverseAll (ScriptedVisitor.hooks Unit) 2 renamed
      ()).toOption.map (fun session => decide (∀ call ∈ session.calls, call.KeepsKind)) =
        some true := by decide +kernel
  cases ends : (Traverser.cached tidying).traverseAll (ScriptedVisitor.hooks Unit) 2 renamed () with
  | error cause =>
      rw [ends] at keeps
      contradiction
  | ok session =>
      rw [ends] at keeps
      have keeps' : ∀ call ∈ session.calls, call.KeepsKind :=
        of_decide_eq_true (Option.some.inj keeps)
      obtain ⟨session', ends', filters⟩ := same session ends keeps'
      exact ⟨session, session', rfl, ends', filters⟩

def hasty : VisitorSet ScriptedVisitor :=
  ⟨[({ ScriptedVisitor.idle "rekind" with enter := [⟨.rekind .struct, .always, none⟩] },
      .ofKind .function),
    (ScriptedVisitor.idle "look", .ofKind .function)]⟩

example :
    ((Traverser.cached hasty).traverseAll (ScriptedVisitor.hooks Unit) 1 [[.ofKind .function]]
        ()).toOption.map (·.stats.visitorCalls) = some 2 ∧
      ((Traverser.cached hasty.filtering).traverseAll (ScriptedVisitor.hooks Unit).filtering 1
        [[.ofKind .function]] ()).toOption.map (·.stats.visitorCalls) = some 1 := by
  decide +kernel

end Renamed

end Script

end KindDispatch
