import KindDispatch.Proofs.Dispatch.Hits
import KindDispatch.Proofs.Traversal.Filtering
import KindDispatch.Proofs.Traversal.Tour

/-!
# Visits and lookups

A session is told by the visits it makes.  A visit says which node the walk came to, which calls
were made on entering it, what was visited below and, if the walk got as far as leaving it, on which
node and with which calls.  `Visit.Faithful` ties these to each other, so that the visits can be read
off the trace and the forests.

The walk looks up the kind of every node it comes to, and a second kind only where it leaves a node
of another kind; `Visit.kinds` lists these lookups.
-/

namespace KindDispatch

variable {V S D W A : Type}

/-! ## Calls on one node -/

def VisitorCall.outcome (node : Node) (calls : List VisitorCall) : Node :=
  calls.foldl (fun node call => call.result.leaving node) node

/-- The calls are made one after the other, each on what those before it left of the node; one that
removes the node or stops is the last. -/
def VisitorCall.Chained (hook : Hook) : Node → List VisitorCall → Prop
  | _, [] => True
  | node, call :: rest =>
    call.hook = hook ∧ call.node = node ∧ (call.result.step ≠ .keep → rest = []) ∧
      Chained hook (call.result.leaving node) rest

private theorem VisitorCall.Chained.hook_eq {hook : Hook} {node : Node} {calls : List VisitorCall}
    (chained : Chained hook node calls) : ∀ call ∈ calls, call.hook = hook := by
  induction calls generalizing node with
  | nil => simp
  | cons call rest ih =>
      obtain ⟨same, -, -, later⟩ := chained
      exact List.forall_mem_cons.mpr ⟨same, ih later⟩

private theorem VisitorCall.Chained.kind_outcome {hook : Hook} {node : Node}
    {calls : List VisitorCall}
    (chained : Chained hook node calls) (keeps : ∀ call ∈ calls, call.KeepsKind) :
    (outcome node calls).kind = node.kind := by
  induction calls generalizing node with
  | nil => rfl
  | cons call rest ih =>
      obtain ⟨-, rfl, -, later⟩ := chained
      obtain ⟨first, others⟩ := List.forall_mem_cons.mp keeps
      have same : (call.result.leaving call.node).kind = call.node.kind := by
        cases result : call.result with
        | replace other => exact first other result
        | proceed => rfl
        | skipChildren => rfl
        | remove => rfl
        | stop => rfl
      exact (ih later others).trans same

structure Progress.Made (hook : Hook) (node : Node) (skip : Bool) (calls : List VisitorCall)
    (step : Step) (left : Node) (skip' : Bool) (before after : Progress V S) : Prop where
  size : after.visitors.size = before.visitors.size
  trace : after.calls = calls.reverse ++ before.calls
  nodesVisited : after.stats.nodesVisited = before.stats.nodesVisited
  chained : VisitorCall.Chained hook node calls
  left : left = VisitorCall.outcome node calls
  kept : step = .keep ↔ ∀ call ∈ calls, call.result.step = .keep
  stopped : step = .stop ↔ ∃ call ∈ calls, call.result = .stop
  skipped : skip' = (skip || skips calls)

namespace Progress

private theorem callsSince_of_append {before after : Progress V S} {calls : List VisitorCall}
    (same : after.calls = calls.reverse ++ before.calls) : before.callsSince after = calls := by
  simp [callsSince, same]

variable {hook : Hook} {node left : Node} {skip skip' : Bool} {step : Step}

theorem Made.nothing (hook : Hook) (node : Node) (skip : Bool) (progress : Progress V S) :
    Made hook node skip [] .keep node skip progress progress where
  size := rfl
  trace := rfl
  nodesVisited := rfl
  chained := trivial
  left := rfl
  kept := by simp
  stopped := by simp
  skipped := by simp [skips]

theorem Made.cons {index : Nat} (result : VisitResult) {calls : List VisitorCall}
    {before between after : Progress V S} (goes : result.step = .keep)
    (made : Made hook (result.leaving node) (result.skipping skip) calls step left skip' between
      after)
    (size : between.visitors.size = before.visitors.size)
    (first : between.calls = ⟨index, hook, node, result⟩ :: before.calls)
    (counted : between.stats.nodesVisited = before.stats.nodesVisited) :
    Made hook node skip (⟨index, hook, node, result⟩ :: calls) step left skip' before after where
  size := made.size.trans size
  trace := by simp [made.trace, first]
  nodesVisited := made.nodesVisited.trans counted
  chained := ⟨rfl, rfl, fun other => absurd goes other, made.chained⟩
  left := made.left
  kept := by simp [made.kept, goes]
  stopped := by
    have other : result ≠ .stop := by
      rintro rfl
      cases goes
    simp [made.stopped, other]
  skipped := by
    rw [made.skipped]
    cases result <;> simp [VisitResult.skipping, skips]

theorem Made.last {index : Nat} (result : VisitResult) {before after : Progress V S}
    (ends : result.step ≠ .keep) (size : after.visitors.size = before.visitors.size)
    (first : after.calls = ⟨index, hook, node, result⟩ :: before.calls)
    (counted : after.stats.nodesVisited = before.stats.nodesVisited) :
    Made hook node skip [⟨index, hook, node, result⟩] result.step node skip before after where
  size := size
  trace := first
  nodesVisited := counted
  chained := ⟨rfl, rfl, fun _ => rfl, trivial⟩
  left := by cases result <;> first | rfl | exact absurd rfl ends
  kept := by simp
  stopped := by cases result <;> simp [VisitResult.step]
  skipped := by cases result <;> simp_all [skips, VisitResult.step]

private theorem size_answered {progress : Progress V S} {index : Nat}
    (inRange : index < progress.visitors.size) (call : VisitorCall) (visitor : V) (state : S) :
    (Recorded.answered progress call (progress.visitors.set index visitor) state).visitors.size =
      progress.visitors.size :=
  Array.size_set inRange

theorem callEach_made {hooks : Hooks V S} {indices : List Nat} {before after : Progress V S}
    (ends : before.callEach hooks hook indices node skip = .ok (step, left, skip', after)) :
    ∃ calls, Made hook node skip calls step left skip' before after := by
  induction indices generalizing node skip before with
  | nil =>
      cases ends
      exact ⟨[], .nothing hook _ _ _⟩
  | cons index rest ih =>
      rw [callEach] at ends
      by_cases inRange : index < before.visitors.size
      · cases haccepts : hooks.accepts before.visitors[index] node with
        | false =>
            rw [call_of_refuses inRange haccepts] at ends
            exact ih ends
        | true =>
            rw [call_of_accepts inRange haccepts rfl] at ends
            generalize (hooks.call hook before.visitors[index] node before.state).1 = result at ends
            cases result with
            | proceed =>
                obtain ⟨calls, made⟩ := ih ends
                exact ⟨_, .cons .proceed rfl made (size_answered inRange ..) rfl rfl⟩
            | skipChildren =>
                obtain ⟨calls, made⟩ := ih ends
                exact ⟨_, .cons .skipChildren rfl made (size_answered inRange ..) rfl rfl⟩
            | replace other =>
                obtain ⟨calls, made⟩ := ih ends
                exact ⟨_, .cons (.replace other) rfl made (size_answered inRange ..) rfl rfl⟩
            | remove =>
                cases ends
                exact ⟨_, .last .remove (by simp [VisitResult.step]) (size_answered inRange ..) rfl rfl⟩
            | stop =>
                cases ends
                exact ⟨_, .last .stop (by simp [VisitResult.step]) (size_answered inRange ..) rfl rfl⟩
      · rw [call_of_outOfRange inRange] at ends
        cases ends

end Progress

/-! ## Visits -/

structure Visit where
  /-- The node as the walk found it. -/
  arrived : Node
  entering : List VisitorCall
  /-- The visits of its children. -/
  beneath : List Visit
  /-- The node the walk left and the calls on leaving it, if it came to that. -/
  leaving : Option (Node × List VisitorCall)

namespace Visit

def entered (visit : Visit) : Node := VisitorCall.outcome visit.arrived visit.entering

/-- The node was removed, or the walk stopped, on entering. -/
def turnedAway (visit : Visit) : Bool := visit.entering.any (·.result.step ≠ .keep)

/-- The walk left the node, and with another kind than it found it with. -/
def rekinded (visit : Visit) : Bool :=
  visit.leaving.any fun left => left.1.kind ≠ visit.arrived.kind

/-- The kind that is looked up for leaving a node that was of kind `arrived`. -/
def kindLeft (arrived : Kind) : Option (Node × List VisitorCall) → List Kind
  | none => []
  | some (left, _) => if left.kind ≠ arrived then [left.kind] else []

def callsLeaving : Option (Node × List VisitorCall) → List VisitorCall
  | none => []
  | some (_, calls) => calls

mutual

/-- A visit and those below it, parents first. -/
def all : Visit → List Visit
  | ⟨arrived, entering, below, leaving⟩ => ⟨arrived, entering, below, leaving⟩ :: allOf below

def allOf : List Visit → List Visit
  | [] => []
  | visit :: rest => all visit ++ allOf rest

end

mutual

def calls : Visit → List VisitorCall
  | ⟨_, entering, below, leaving⟩ => entering ++ callsOf below ++ callsLeaving leaving

def callsOf : List Visit → List VisitorCall
  | [] => []
  | visit :: rest => calls visit ++ callsOf rest

end

mutual

def kinds : Visit → List Kind
  | ⟨arrived, _, below, leaving⟩ =>
    arrived.kind :: kindsOf below ++ kindLeft arrived.kind leaving

def kindsOf : List Visit → List Kind
  | [] => []
  | visit :: rest => kinds visit ++ kindsOf rest

end

@[simp] theorem allOf_append (first second : List Visit) :
    allOf (first ++ second) = allOf first ++ allOf second := by
  induction first with
  | nil => rfl
  | cons visit rest ih => simp only [List.cons_append, allOf, ih, List.append_assoc]

@[simp] theorem callsOf_append (first second : List Visit) :
    callsOf (first ++ second) = callsOf first ++ callsOf second := by
  induction first with
  | nil => rfl
  | cons visit rest ih => simp only [List.cons_append, callsOf, ih, List.append_assoc]

@[simp] theorem kindsOf_append (first second : List Visit) :
    kindsOf (first ++ second) = kindsOf first ++ kindsOf second := by
  induction first with
  | nil => rfl
  | cons visit rest ih => simp only [List.cons_append, kindsOf, ih, List.append_assoc]

private theorem turnedAway_eq_false {visit : Visit} :
    visit.turnedAway = false ↔ ∀ call ∈ visit.entering, call.result.step = .keep := by
  simp [turnedAway]

private theorem length_kindLeft (visit : Visit) :
    (kindLeft visit.arrived.kind visit.leaving).length = if visit.rekinded then 1 else 0 := by
  unfold rekinded
  rcases visit.leaving with _ | ⟨left, calls⟩
  · rfl
  · by_cases same : left.kind = visit.arrived.kind <;> simp [kindLeft, same]

mutual

theorem length_kinds : ∀ visit : Visit,
    visit.kinds.length = visit.all.length + visit.all.countP rekinded
  | ⟨arrived, entering, below, leaving⟩ => by
    have second := length_kindLeft ⟨arrived, entering, below, leaving⟩
    simp only [kinds, all, List.length_cons, List.length_append, List.countP_cons,
      length_kindsOf below, second]
    omega

private theorem length_kindsOf : ∀ visits : List Visit,
    (kindsOf visits).length = (allOf visits).length + (allOf visits).countP rekinded
  | [] => rfl
  | visit :: rest => by
    simp only [kindsOf, allOf, List.length_append, List.countP_append, length_kinds visit,
      length_kindsOf rest]
    omega

end

mutual

theorem calls_of_mem_all : ∀ (visit : Visit), ∀ inner ∈ visit.all,
    ∀ call ∈ inner.entering, call ∈ visit.calls
  | ⟨arrived, entering, below, leaving⟩, inner, member, call, made => by
    rw [all, List.mem_cons] at member
    rw [calls, List.mem_append, List.mem_append]
    rcases member with rfl | deeper
    · exact .inl (.inl made)
    · exact .inl (.inr (callsOf_of_mem_allOf below inner deeper call made))

private theorem callsOf_of_mem_allOf : ∀ (visits : List Visit), ∀ inner ∈ allOf visits,
    ∀ call ∈ inner.entering, call ∈ callsOf visits
  | [], inner, member, _, _ => by simp [allOf] at member
  | visit :: rest, inner, member, call, made => by
    rw [allOf, List.mem_append] at member
    rw [callsOf, List.mem_append]
    rcases member with here | later
    · exact .inl (calls_of_mem_all visit inner here call made)
    · exact .inr (callsOf_of_mem_allOf rest inner later call made)

end

/-- The parts of a visit belong together.  It goes below unless the node was turned away or its
children are to be skipped, and then to the children of what the calls on entering left, one after
the other; only a stop keeps it from some of them.  It gets as far as leaving unless the node was
turned away or a call below stopped, and what it leaves is the node entered with what became of the
children. -/
structure Faithful (visit : Visit) : Prop where
  entering : VisitorCall.Chained .enter visit.arrived visit.entering
  beneath : visit.beneath.map arrived <+: visit.entered.children
  skipped : visit.turnedAway ∨ skips visit.entering → visit.beneath = []
  whole : visit.turnedAway = false → skips visit.entering = false →
    (∀ call ∈ callsOf visit.beneath, call.result ≠ .stop) →
      visit.beneath.map arrived = visit.entered.children
  reached : visit.leaving.isSome ↔
    visit.turnedAway = false ∧ ∀ call ∈ callsOf visit.beneath, call.result ≠ .stop
  leaving : ∀ left calls, visit.leaving = some (left, calls) →
    (∃ children, left = visit.entered.withChildren children) ∧
      VisitorCall.Chained .leave left calls

/-- A second lookup is made for the kind that entering gave the node, whatever happens on
leaving. -/
theorem Faithful.rekinded_iff {visit : Visit} (faithful : visit.Faithful) :
    visit.rekinded = true ↔
      visit.leaving.isSome = true ∧ visit.entered.kind ≠ visit.arrived.kind := by
  cases hleaving : visit.leaving with
  | none => simp [rekinded, hleaving]
  | some departure =>
      obtain ⟨left, calls⟩ := departure
      obtain ⟨⟨children, rfl⟩, -⟩ := faithful.leaving left calls hleaving
      simp [rekinded, hleaving, Node.withChildren]

end Visit

/-! ## The walk with its visits -/

namespace Visited

/-- The walk of `Owned.node` with the visits made so far beside its state. -/
def node [Dispatch D] (hooks : Hooks V S) :
    (depth : Nat) → Node → (Progress V S × D) × List Visit →
      Except Halt (Step × Node × (Progress V S × D) × List Visit)
  | 0, _, _ => .error .tooDeep
  | depth + 1, target, ((progress, dispatch), visits) =>
    let (indices, dispatch) := Dispatch.resolve dispatch target.kind
    match progress.countNode.callEach hooks .enter indices target false with
    | .error halt => .error halt
    | .ok (.remove, entered, _, after) =>
      .ok (.remove, entered, (after, dispatch),
        visits ++ [⟨target, progress.callsSince after, [], none⟩])
    | .ok (.stop, entered, _, after) =>
      .ok (.stop, entered, (after, dispatch),
        visits ++ [⟨target, progress.callsSince after, [], none⟩])
    | .ok (.keep, entered, skip, after) =>
      match Walk.descend (Walk.sequence (node hooks depth) []) skip entered
          ((after, dispatch), []) with
      | .error halt => .error halt
      | .ok (.stop, left, owned, below) =>
        .ok (.stop, left, owned, visits ++ [⟨target, progress.callsSince after, below, none⟩])
      | .ok (_, left, owned, below) =>
        (Owned.leave hooks target.kind indices left owned).map fun (step, last, owned') =>
          (step, last, owned', visits ++
            [⟨target, progress.callsSince after, below,
              some (left, owned.1.callsSince owned'.1)⟩])

def Of (owned : (Progress V S × D) × List Visit) (walk : Progress V S × D) : Prop :=
  owned.1 = walk

theorem node_alike_owned [Dispatch D] (hooks : Hooks V S) (depth : Nat) (target : Node)
    {walk : (Progress V S × D) × List Visit} {owned : Progress V S × D} (same : Of walk owned) :
    Alike Of (node hooks depth target walk)
      (Owned.node hooks depth target owned) := by
  induction depth generalizing target walk owned with
  | zero => exact .halt .tooDeep
  | succ depth ih =>
      obtain ⟨⟨progress, dispatch⟩, visits⟩ := walk
      obtain rfl := same
      simp only [node, Owned.node]
      generalize Dispatch.resolve dispatch target.kind = resolved
      obtain ⟨indices, dispatch⟩ := resolved
      cases progress.countNode.callEach hooks .enter indices target false with
      | error cause => exact .halt cause
      | ok answer =>
          obtain ⟨step, entered, skip, after⟩ := answer
          cases step with
          | remove => exact .done .remove entered rfl
          | stop => exact .done .stop entered rfl
          | keep =>
              have children := Walk.descend_alike (fun nodes _ _ related =>
                Walk.sequence_alike (fun target _ _ => ih target) [] nodes related) skip entered
                (rfl : Of ((after, dispatch), []) (after, dispatch))
              rcases children.outcomes with
                ⟨cause, hdescend, hdescend'⟩ |
                  ⟨step, left, ⟨owned, below⟩, _, hdescend, hdescend', rfl⟩
              · simp only [hdescend, hdescend']
                exact .halt cause
              · have leave : Alike (fun walk owned => walk.1 = owned)
                    ((Owned.leave hooks target.kind indices left owned).map
                      fun (step, last, owned') => (step, last, owned', visits ++
                        [⟨target, progress.callsSince after, below,
                          some (left, owned.1.callsSince owned'.1)⟩]))
                    (Owned.leave hooks target.kind indices left owned) := by
                  rcases Owned.leave hooks target.kind indices left owned with
                    cause | ⟨step, last, owned'⟩
                  · exact .halt cause
                  · exact .done step last rfl
                simp only [hdescend, hdescend']
                cases step with
                | stop => exact .done .stop left rfl
                | keep => exact leave
                | remove => exact leave

/-! ## What the visits say -/

structure Explains [Dispatch D] (nodes : List Node) (visits : List Visit) (step : Step)
    (before after : Progress V S × D) : Prop where
  size : after.1.visitors.size = before.1.visitors.size
  calls : after.1.calls = (Visit.callsOf visits).reverse ++ before.1.calls
  nodesVisited : after.1.stats.nodesVisited =
    before.1.stats.nodesVisited + (Visit.allOf visits).length
  dispatch : after.2 = (Dispatch.lookUps before.2 (Visit.kindsOf visits)).2
  faithful : ∀ visit ∈ Visit.allOf visits, visit.Faithful
  arrived : visits.map Visit.arrived <+: nodes
  whole : step ≠ .stop → visits.map Visit.arrived = nodes
  stopped : step = .stop ↔ ∃ call ∈ Visit.callsOf visits, call.result = .stop

variable [Dispatch D]

namespace Explains

variable {nodes nodes' : List Node} {visits visits' : List Visit} {step step' : Step}
  {before between after : Progress V S × D}

theorem nothing (going : step ≠ .stop) (walk : Progress V S × D) :
    Explains [] [] step walk walk where
  size := rfl
  calls := rfl
  nodesVisited := rfl
  dispatch := rfl
  faithful := by simp [Visit.allOf]
  arrived := List.prefix_rfl
  whole _ := rfl
  stopped := by simp [going, Visit.callsOf]

theorem append (first : Explains nodes visits step before between) (going : step ≠ .stop)
    (second : Explains nodes' visits' step' between after) :
    Explains (nodes ++ nodes') (visits ++ visits') step' before after where
  size := second.size.trans first.size
  calls := by simp [second.calls, first.calls]
  nodesVisited := by
    rw [second.nodesVisited, first.nodesVisited, Visit.allOf_append, List.length_append,
      Nat.add_assoc]
  dispatch := by
    rw [second.dispatch, first.dispatch, Visit.kindsOf_append, Dispatch.lookUps_append]
  faithful := by
    rw [Visit.allOf_append]
    exact List.forall_mem_append.mpr ⟨first.faithful, second.faithful⟩
  arrived := by
    rw [List.map_append, first.whole going]
    exact (List.prefix_append_right_inj nodes).mpr second.arrived
  whole going' := by rw [List.map_append, first.whole going, second.whole going']
  stopped := by
    have none : ∀ call ∈ Visit.callsOf visits, call.result ≠ .stop :=
      fun call made stop => going (first.stopped.mpr ⟨call, made, stop⟩)
    rw [second.stopped, Visit.callsOf_append]
    constructor
    · rintro ⟨call, made, stop⟩
      exact ⟨call, List.mem_append_right _ made, stop⟩
    · rintro ⟨call, made, stop⟩
      rcases List.mem_append.mp made with early | late
      · exact absurd stop (none call early)
      · exact ⟨call, late, stop⟩

theorem cut (explains : Explains nodes visits .stop before after) (rest : List Node) :
    Explains (nodes ++ rest) visits .stop before after :=
  { explains with
    arrived := explains.arrived.trans (List.prefix_append nodes rest)
    whole := fun going => absurd rfl going }

end Explains

/-- Whenever the walk of some nodes comes to an end, it has added the visits that tell it. -/
def Tells (nodes : List Node) (before : (Progress V S × D) × List Visit)
    (result : Except Halt (Step × A × (Progress V S × D) × List Visit)) : Prop :=
  ∀ step value after, result = .ok (step, value, after) →
    ∃ visits, after.2 = before.2 ++ visits ∧ Explains nodes visits step before.1 after.1

section

variable {walkOne : Node → (Progress V S × D) × List Visit →
  Except Halt (Step × Node × (Progress V S × D) × List Visit)}

theorem sequence_tells (one : ∀ node walk, Tells [node] walk (walkOne node walk))
    (done rest : List Node) (walk : (Progress V S × D) × List Visit) :
    Tells rest walk (Walk.sequence walkOne done rest walk) := by
  induction rest generalizing done walk with
  | nil =>
      rintro _ _ _ ⟨⟩
      exact ⟨[], by simp, .nothing (by simp) walk.1⟩
  | cons node rest ih =>
      intro step value after ends
      rw [Walk.sequence] at ends
      have goes : ∀ step' left between done, step' ≠ .stop →
          walkOne node walk = .ok (step', left, between) →
          Walk.sequence walkOne done rest between = .ok (step, value, after) →
          ∃ visits, after.2 = walk.2 ++ visits ∧
            Explains (node :: rest) visits step walk.1 after.1 := by
        intro step' left between done going hone later
        obtain ⟨visits, hvisits, first⟩ := one node walk _ _ _ hone
        obtain ⟨visits', hvisits', second⟩ := ih done between _ _ _ later
        exact ⟨visits ++ visits', by rw [hvisits', hvisits, List.append_assoc],
          first.append going second⟩
      rcases hone : walkOne node walk with cause | ⟨step', left, between⟩
      · rw [hone] at ends
        cases ends
      · rw [hone] at ends
        cases step' with
        | keep => exact goes _ _ _ _ (by simp) hone ends
        | remove => exact goes _ _ _ _ (by simp) hone ends
        | stop =>
            cases ends
            obtain ⟨visits, hvisits, first⟩ := one node walk _ _ _ hone
            exact ⟨visits, hvisits, first.cut rest⟩

theorem forests_tells (one : ∀ node walk, Tells [node] walk (walkOne node walk))
    (forests : List Forest) (walk : (Progress V S × D) × List Visit) :
    Tells forests.flatten walk (Walk.forests walkOne forests walk) := by
  induction forests generalizing walk with
  | nil =>
      rintro _ _ _ ⟨⟩
      exact ⟨[], by simp, .nothing (by simp) walk.1⟩
  | cons forest rest ih =>
      intro step value after ends
      rw [Walk.forests] at ends
      have goes : ∀ step' left between, step' ≠ .stop →
          Walk.sequence walkOne [] forest walk = .ok (step', left, between) →
          (Walk.forests walkOne rest between).map
            (fun later => (later.1, left :: later.2.1, later.2.2)) = .ok (step, value, after) →
          ∃ visits, after.2 = walk.2 ++ visits ∧
            Explains (forest :: rest).flatten visits step walk.1 after.1 := by
        intro step' left between going hforest later
        obtain ⟨visits, hvisits, first⟩ := sequence_tells one [] forest walk _ _ _ hforest
        rcases hrest : Walk.forests walkOne rest between with cause | ⟨step'', rest', after'⟩
        · rw [hrest] at later
          cases later
        · rw [hrest] at later
          cases later
          obtain ⟨visits', hvisits', second⟩ := ih between _ _ _ hrest
          exact ⟨visits ++ visits', by rw [hvisits', hvisits, List.append_assoc],
            first.append going second⟩
      rcases hforest : Walk.sequence walkOne [] forest walk with cause | ⟨step', left, between⟩
      · rw [hforest] at ends
        cases ends
      · rw [hforest] at ends
        cases step' with
        | keep => exact goes _ _ _ (by simp) hforest ends
        | remove => exact goes _ _ _ (by simp) hforest ends
        | stop =>
            cases ends
            obtain ⟨visits, hvisits, first⟩ :=
              sequence_tells one [] forest walk _ _ _ hforest
            exact ⟨visits, hvisits, first.cut rest.flatten⟩

end

/-! ### One node -/

structure Leaves (arrived : Kind) (leaving : Option (Node × List VisitorCall))
    (before after : Progress V S × D) : Prop where
  size : after.1.visitors.size = before.1.visitors.size
  calls : after.1.calls = (Visit.callsLeaving leaving).reverse ++ before.1.calls
  nodesVisited : after.1.stats.nodesVisited = before.1.stats.nodesVisited
  dispatch : after.2 = (Dispatch.lookUps before.2 (Visit.kindLeft arrived leaving)).2

private theorem Leaves.nothing (arrived : Kind) (walk : Progress V S × D) :
    Leaves arrived none walk walk :=
  ⟨rfl, rfl, rfl, rfl⟩

private theorem leave_leaves {hooks : Hooks V S} {arrived : Kind} {indices : List Nat}
    {left last : Node} {step : Step} {before after : Progress V S × D}
    (ends : Owned.leave hooks arrived indices left before = .ok (step, last, after)) :
    ∃ calls, before.1.callsSince after.1 = calls ∧ VisitorCall.Chained .leave left calls ∧
      (step = .stop ↔ ∃ call ∈ calls, call.result = .stop) ∧
      Leaves arrived (some (left, calls)) before after := by
  obtain ⟨progress, dispatch⟩ := before
  rw [Owned.leave] at ends
  have asked : (if left.kind ≠ arrived then Dispatch.resolve dispatch left.kind
      else (indices, dispatch)).2 =
        (Dispatch.lookUps dispatch (if left.kind ≠ arrived then [left.kind] else [])).2 := by
    by_cases same : left.kind = arrived <;> simp [same, Dispatch.lookUps_cons]
  generalize (if left.kind ≠ arrived then Dispatch.resolve dispatch left.kind
    else (indices, dispatch)) = resolved at ends asked
  obtain ⟨indices, dispatch'⟩ := resolved
  dsimp only at ends asked
  rcases hcalled : progress.callEach hooks .leave indices left false with
    cause | ⟨step', last', skip, progress'⟩
  · rw [hcalled] at ends
    cases ends
  · rw [hcalled] at ends
    cases ends
    obtain ⟨calls, made⟩ := Progress.callEach_made hcalled
    exact ⟨calls, Progress.callsSince_of_append made.trace, made.chained, made.stopped,
      made.size, made.trace, made.nodesVisited, asked⟩

private theorem Explains.visit {hook : Hook} {visit : Visit} {step step' step'' : Step}
    {entered : Node}
    {skip : Bool} {nodes : List Node} {progress after : Progress V S} {dispatch : D}
    {below left : Progress V S × D}
    (made : Progress.Made hook visit.arrived false visit.entering step entered skip
      progress.countNode after)
    (under : Explains nodes visit.beneath step'
      (after, (Dispatch.resolve dispatch visit.arrived.kind).2) below)
    (leaves : Leaves visit.arrived.kind visit.leaving below left)
    (faithful : visit.Faithful)
    (stopped : step'' = .stop ↔ ∃ call ∈ visit.calls, call.result = .stop) :
    Explains [visit.arrived] [visit] step'' (progress, dispatch) left := by
  obtain ⟨arrived, entering, under', leaving⟩ := visit
  have noMore : ∀ visits, Visit.callsOf [visits] = visits.calls := fun _ => by
    simp [Visit.callsOf]
  refine ⟨?_, ?_, ?_, ?_, ?_, List.prefix_rfl, fun _ => rfl, by rw [noMore]; exact stopped⟩
  · exact leaves.size.trans (under.size.trans made.size)
  · rw [noMore, leaves.calls, under.calls, made.trace]
    simp [Visit.calls, Progress.countNode]
  · rw [leaves.nodesVisited, under.nodesVisited, made.nodesVisited]
    simp only [Progress.countNode, Visit.allOf, Visit.all, List.append_nil, List.length_cons]
    omega
  · rw [leaves.dispatch, under.dispatch]
    simp [Visit.kindsOf, Visit.kinds, Dispatch.lookUps_cons, Dispatch.lookUps_append]
  · intro inner member
    simp only [Visit.allOf, Visit.all, List.append_nil, List.mem_cons] at member
    rcases member with rfl | deeper
    · exact faithful
    · exact under.faithful inner deeper

theorem descend_tells {walkOne : Node → (Progress V S × D) × List Visit →
      Except Halt (Step × Node × (Progress V S × D) × List Visit)}
    (one : ∀ node walk, Tells [node] walk (walkOne node walk)) {skip : Bool} {entered left : Node}
    {step : Step} {before : Progress V S × D} {after : (Progress V S × D) × List Visit}
    (ends : Walk.descend (Walk.sequence walkOne []) skip entered (before, []) =
      .ok (step, left, after)) :
    (∃ children, left = entered.withChildren children) ∧
      Explains (if skip then [] else entered.children) after.2 step before after.1 := by
  unfold Walk.descend at ends
  cases skip with
  | true =>
      cases ends
      exact ⟨⟨entered.children, by simp⟩, .nothing (by simp) before⟩
  | false =>
      simp only [Bool.false_eq_true, if_false] at ends ⊢
      rcases hchildren : Walk.sequence walkOne [] entered.children (before, []) with
        cause | ⟨step', children, after'⟩
      · rw [hchildren] at ends
        cases ends
      · rw [hchildren] at ends
        cases ends
        obtain ⟨visits, hvisits, explains⟩ := sequence_tells one [] _ _ _ _ _ hchildren
        rw [List.nil_append] at hvisits
        exact ⟨⟨children, rfl⟩, hvisits ▸ explains⟩

section

variable {hook : Hook} {target entered : Node} {entering : List VisitorCall} {step step' : Step}
  {skip : Bool} {progress after : Progress V S}

private theorem Explains.turnedAway {dispatch : D}
    (made : Progress.Made .enter target false entering step entered skip progress.countNode after)
    (ends : step ≠ .keep) :
    Explains [target] [⟨target, entering, [], none⟩] step (progress, dispatch)
      (after, (Dispatch.resolve dispatch target.kind).2) := by
  have away : Visit.turnedAway ⟨target, entering, [], none⟩ = true := by
    rw [← Bool.not_eq_false, Visit.turnedAway_eq_false, ← made.kept]
    exact ends
  have faithful : Visit.Faithful ⟨target, entering, [], none⟩ :=
    { entering := made.chained
      beneath := List.nil_prefix
      skipped := fun _ => rfl
      whole := fun notAway => by simp [away] at notAway
      reached := by simp [away]
      leaving := by simp }
  have nothing : Explains [] [] .keep (after, (Dispatch.resolve dispatch target.kind).2) _ :=
    .nothing (by simp) _
  refine .visit made nothing (.nothing _ _) faithful ?_
  simp [Visit.calls, Visit.callsOf, Visit.callsLeaving, made.stopped]

private theorem faithful_of_kept {beneath : List Visit}
    {leaving : Option (Node × List VisitorCall)} {before below : Progress V S × D}
    (made : Progress.Made .enter target false entering .keep entered skip progress after)
    (under : Explains (if skip then [] else entered.children) beneath step before below)
    (reached : leaving.isSome ↔ step ≠ .stop)
    (left : ∀ left calls, leaving = some (left, calls) →
      (∃ children, left = entered.withChildren children) ∧
        VisitorCall.Chained .leave left calls) :
    Visit.Faithful ⟨target, entering, beneath, leaving⟩ := by
  have kept : Visit.turnedAway ⟨target, entering, beneath, leaving⟩ = false :=
    Visit.turnedAway_eq_false.mpr (made.kept.mp rfl)
  have hskip : skip = skips entering := by simpa using made.skipped
  have going : step ≠ .stop ↔ ∀ call ∈ Visit.callsOf beneath, call.result ≠ .stop := by
    simp [under.stopped]
  obtain rfl := made.left
  subst hskip
  refine ⟨made.chained, ?_, ?_, ?_, ?_, left⟩
  · refine under.arrived.trans ?_
    split
    · exact List.nil_prefix
    · exact List.prefix_rfl
  · rintro (away | skipped)
    · simp [kept] at away
    · have nothing := under.arrived
      rw [if_pos skipped] at nothing
      simpa using nothing
  · intro _ notSkipped unstopped
    have whole := under.whole (going.mpr unstopped)
    rwa [if_neg (by simp_all)] at whole
  · rw [reached, going]
    simp [kept]

variable {dispatch : D} {beneath : List Visit} {below : Progress V S × D}

private theorem Explains.cutShort
    (made : Progress.Made .enter target false entering .keep entered skip progress.countNode after)
    (under : Explains (if skip then [] else entered.children) beneath .stop
      (after, (Dispatch.resolve dispatch target.kind).2) below) :
    Explains [target] [⟨target, entering, beneath, none⟩] .stop (progress, dispatch) below := by
  have faithful : Visit.Faithful ⟨target, entering, beneath, none⟩ :=
    faithful_of_kept made under (by simp) (by simp)
  refine .visit made under (.nothing _ _) faithful ?_
  obtain ⟨call, called, stop⟩ := under.stopped.mp rfl
  exact iff_of_true rfl ⟨call, by simp [Visit.calls, called], stop⟩

private theorem Explains.left {hooks : Hooks V S} {indices : List Nat} {left last : Node}
    {owned : Progress V S × D}
    (made : Progress.Made .enter target false entering .keep entered skip progress.countNode after)
    (under : Explains (if skip then [] else entered.children) beneath step
      (after, (Dispatch.resolve dispatch target.kind).2) below)
    (going : step ≠ .stop) (unchanged : ∃ children, left = entered.withChildren children)
    (ends : Owned.leave hooks target.kind indices left below = .ok (step', last, owned)) :
    Explains [target] [⟨target, entering, beneath, some (left, below.1.callsSince owned.1)⟩] step'
      (progress, dispatch) owned := by
  obtain ⟨calls, hcalls, chained, stopped, leaves⟩ := leave_leaves ends
  rw [hcalls]
  have faithful : Visit.Faithful ⟨target, entering, beneath, some (left, calls)⟩ := by
    refine faithful_of_kept made under (by simp [going]) ?_
    rintro _ _ ⟨⟩
    exact ⟨unchanged, chained⟩
  refine .visit made under leaves faithful ?_
  -- only the calls on leaving can have stopped
  have first : ¬∃ call ∈ entering, call.result = .stop := by simp [← made.stopped]
  have middle : ¬∃ call ∈ Visit.callsOf beneath, call.result = .stop := mt under.stopped.mpr going
  simp only [Visit.calls, Visit.callsLeaving, List.mem_append, or_and_right, exists_or, first,
    middle, false_or, stopped]

end

theorem node_tells (hooks : Hooks V S) (depth : Nat) (target : Node)
    (walk : (Progress V S × D) × List Visit) :
    Tells [target] walk (node hooks depth target walk) := by
  induction depth generalizing target walk with
  | zero => rintro _ _ _ ⟨⟩
  | succ depth ih =>
      obtain ⟨⟨progress, dispatch⟩, visits⟩ := walk
      intro step value after ends
      rw [node] at ends
      dsimp only at ends
      rcases hentered : progress.countNode.callEach hooks .enter
        (Dispatch.resolve dispatch target.kind).1 target false with
        cause | ⟨step', entered, skip, between⟩
      · rw [hentered] at ends
        cases ends
      obtain ⟨entering, made⟩ := Progress.callEach_made hentered
      obtain rfl : progress.callsSince between = entering :=
        Progress.callsSince_of_append made.trace
      rw [hentered] at ends
      cases step' with
      | remove =>
          cases ends
          exact ⟨_, rfl, .turnedAway made (by simp)⟩
      | stop =>
          cases ends
          exact ⟨_, rfl, .turnedAway made (by simp)⟩
      | keep =>
          dsimp only at ends
          rcases hbelow : Walk.descend (Walk.sequence (node hooks depth) []) skip entered
            ((between, (Dispatch.resolve dispatch target.kind).2), []) with
            cause | ⟨step', left, below, beneath⟩
          · rw [hbelow] at ends
            cases ends
          obtain ⟨unchanged, under⟩ := descend_tells ih hbelow
          rw [hbelow] at ends
          by_cases going : step' = .stop
          · subst going
            cases ends
            exact ⟨_, rfl, .cutShort made under⟩
          · rcases hleave : Owned.leave hooks target.kind (Dispatch.resolve dispatch target.kind).1
              left below with cause | ⟨step'', last, owned⟩
            · cases step' <;> simp [hleave, Except.map] at ends going
            · have same : step = step'' ∧ after = (owned, visits ++ [⟨target,
                  progress.callsSince between, beneath,
                  some (left, below.1.callsSince owned.1)⟩]) := by
                cases step' <;> simp_all [Except.map]
              obtain ⟨rfl, rfl⟩ := same
              exact ⟨_, rfl, .left made under going unchanged hleave⟩

end Visited

/-! ## Sessions -/

/-- Visits tell what a session over some forests did. -/
structure Session.ToldBy (forests : List Forest) (visits : List Visit) (session : Session V S D) :
    Prop where
  calls : session.calls = Visit.callsOf visits
  nodesVisited : session.stats.nodesVisited = (Visit.allOf visits).length
  faithful : ∀ visit ∈ Visit.allOf visits, visit.Faithful
  arrived : visits.map Visit.arrived <+: forests.flatten
  whole : (∀ call ∈ session.calls, call.result ≠ .stop) →
    visits.map Visit.arrived = forests.flatten

namespace Traverser

variable [Dispatch D]

def visits (hooks : Hooks V S) (depth : Nat) (traverser : Traverser V D) (forests : List Forest)
    (state : S) : List Visit :=
  match Walk.forests (Visited.node hooks depth) forests (traverser.start state, []) with
  | .error _ => []
  | .ok (_, _, _, visits) => visits

variable {hooks : Hooks V S} {depth : Nat} {traverser : Traverser V D} {forests : List Forest}
  {state : S} {session : Session V S D}

theorem traverseAll_explained (hooks : Hooks V S) (depth : Nat) (traverser : Traverser V D)
    (forests : List Forest) (state : S) :
    (∃ cause, traverser.traverseAll hooks depth forests state = .error cause ∧
        traverser.visits hooks depth forests state = []) ∨
      ∃ step forests' walk,
        traverser.traverseAll hooks depth forests state = .ok (.ofWalk forests' walk) ∧
        Visited.Explains forests.flatten (traverser.visits hooks depth forests state) step
          (traverser.start state) walk := by
  have same : Visited.Of (traverser.start state, []) (traverser.start state) := rfl
  have alike := Walk.forests_alike
    (fun target _ _ => Visited.node_alike_owned hooks depth target) forests same
  rw [traverseAll_eq_owned]
  rcases alike.outcomes with
    ⟨cause, hvisited, howned⟩ | ⟨step, forests', ⟨owned, visits⟩, _, hvisited, howned, rfl⟩
  · exact .inl ⟨cause, by rw [howned]; rfl, by rw [Traverser.visits, hvisited]⟩
  · obtain ⟨later, rfl, explains⟩ :=
      Visited.forests_tells (Visited.node_tells hooks depth) forests _ _ _ _ hvisited
    refine .inr ⟨step, forests', owned, by rw [howned]; rfl, ?_⟩
    rwa [Traverser.visits, hvisited]

theorem explained_of_traverseAll
    (ends : traverser.traverseAll hooks depth forests state = .ok session) :
    ∃ step forests' walk, session = .ofWalk forests' walk ∧
      Visited.Explains forests.flatten (traverser.visits hooks depth forests state) step
        (traverser.start state) walk := by
  rcases traverseAll_explained hooks depth traverser forests state with
    ⟨cause, halts, -⟩ | ⟨step, forests', walk, ends', explains⟩
  · rw [halts] at ends
    cases ends
  · rw [ends'] at ends
    cases ends
    exact ⟨step, forests', walk, rfl, explains⟩

theorem size_of_traverseAll
    (ends : traverser.traverseAll hooks depth forests state = .ok session) :
    session.traverser.visitors.size = traverser.visitors.size := by
  obtain ⟨step, forests', walk, rfl, explains⟩ := explained_of_traverseAll ends
  exact explains.size

theorem told_of_traverseAll
    (ends : traverser.traverseAll hooks depth forests state = .ok session) :
    session.ToldBy forests (traverser.visits hooks depth forests state) := by
  obtain ⟨step, forests', ⟨progress, dispatch⟩, rfl, explains⟩ := explained_of_traverseAll ends
  have calls : progress.calls.reverse =
      Visit.callsOf (traverser.visits hooks depth forests state) := by
    rw [explains.calls]
    simp [start]
  refine ⟨calls, ?_, explains.faithful, explains.arrived, fun unstopped => explains.whole ?_⟩
  · exact explains.nodesVisited.trans (Nat.zero_add _)
  · intro stop
    obtain ⟨call, made, result⟩ := explains.stopped.mp stop
    rw [← calls] at made
    exact unstopped call made result

theorem visits_of_error {cause : Halt}
    (halts : traverser.traverseAll hooks depth forests state = .error cause) :
    traverser.visits hooks depth forests state = [] := by
  rcases traverseAll_explained hooks depth traverser forests state with
    ⟨_, -, none⟩ | ⟨step, forests', walk, ends, -⟩
  · exact none
  · rw [halts] at ends
    cases ends

theorem dispatch_of_traverseAll
    (ends : traverser.traverseAll hooks depth forests state = .ok session) :
    session.traverser.dispatch =
      (Dispatch.lookUps traverser.dispatch
        (Visit.kindsOf (traverser.visits hooks depth forests state))).2 := by
  obtain ⟨step, forests', walk, rfl, explains⟩ := explained_of_traverseAll ends
  exact explains.dispatch

end Traverser

/--
A session looks up one kind for every node it visits, and a second one for those it leaves with
another kind than it found them with.  Which these are is decided when the last visitor has been
called on entering: a kind that is changed and changed back by then, or changed on leaving, costs
nothing.
-/
theorem session_lookups [Dispatch D] [MeteredDispatch D] {hooks : Hooks V S} {depth : Nat}
    {traverser : Traverser V D} {forests : List Forest} {state : S} {session : Session V S D}
    (ends : traverser.traverseAll hooks depth forests state = .ok session) :
    let visits := traverser.visits hooks depth forests state
    let before := (Dispatch.counters traverser.dispatch).lookups
    let after := (Dispatch.counters session.traverser.dispatch).lookups
    session.ToldBy forests visits ∧
      session.traverser.dispatch =
        (Dispatch.lookUps traverser.dispatch (Visit.kindsOf visits)).2 ∧
      after = before + session.stats.nodesVisited + (Visit.allOf visits).countP Visit.rekinded ∧
      (∀ visit ∈ Visit.allOf visits, visit.rekinded = true ↔
        visit.leaving.isSome = true ∧ visit.entered.kind ≠ visit.arrived.kind) ∧
      ((∀ visit ∈ Visit.allOf visits, visit.entered.kind = visit.arrived.kind) →
        after = before + session.stats.nodesVisited) ∧
      ((∀ call ∈ session.calls, call.hook = .enter → call.KeepsKind) →
        after = before + session.stats.nodesVisited) := by
  intro visits before after
  have told : session.ToldBy forests visits := Traverser.told_of_traverseAll ends
  have asked := Traverser.dispatch_of_traverseAll ends
  have total : after = before + session.stats.nodesVisited +
      (Visit.allOf visits).countP Visit.rekinded := by
    simp only [after, before, asked, Dispatch.lookups_lookUps, Visit.length_kindsOf,
      told.nodesVisited]
    exact (Nat.add_assoc ..).symm
  have again : ∀ visit ∈ Visit.allOf visits, visit.rekinded = true ↔
      visit.leaving.isSome = true ∧ visit.entered.kind ≠ visit.arrived.kind :=
    fun visit member => (told.faithful visit member).rekinded_iff
  have unchanged : (∀ visit ∈ Visit.allOf visits, visit.entered.kind = visit.arrived.kind) →
      after = before + session.stats.nodesVisited := by
    intro same
    have none : (Visit.allOf visits).countP Visit.rekinded = 0 := by
      refine List.countP_eq_zero.mpr fun visit member rekinded => ?_
      exact ((again visit member).mp rekinded).2 (same visit member)
    rw [total, none, Nat.add_zero]
  refine ⟨told, asked, total, again, unchanged, fun keeps => unchanged fun visit member => ?_⟩
  have entering := (told.faithful visit member).entering
  refine entering.kind_outcome fun call called => keeps call ?_ (entering.hook_eq call called)
  rw [told.calls]
  exact Visit.callsOf_of_mem_allOf visits visit member call called

/-! Of three functions one is turned into a struct on entering, one there and back again, and one is
turned into a struct on leaving. -/

section Lookups

open Script

def fickle : VisitorSet ScriptedVisitor :=
  let onLine (line : Nat) : Condition := { Condition.always with line := some line }
  ⟨[({ ScriptedVisitor.idle "there" with
        enter := [⟨.rekind .struct, onLine 1, none⟩, ⟨.rekind .struct, onLine 2, none⟩]
        leave := [⟨.rekind .struct, onLine 3, none⟩] }, .any),
    ({ ScriptedVisitor.idle "back" with
        enter := [⟨.rekind .function, onLine 2, none⟩] }, .any)]⟩

def functions : Forest :=
  [⟨.function, none, 1, []⟩, ⟨.function, none, 2, []⟩, ⟨.function, none, 3, []⟩]

theorem session_lookups_fickle :
    ∃ session, (Traverser.cached fickle).traverseAll (ScriptedVisitor.hooks Unit) 2 [functions] () =
        .ok session ∧
      session.stats.nodesVisited = 3 ∧
      session.forests = [[⟨.struct, none, 1, []⟩, ⟨.function, none, 2, []⟩,
        ⟨.struct, none, 3, []⟩]] ∧
      session.traverser.dispatch.counters.lookups = 4 := by
  have ran : ((Traverser.cached fickle).traverseAll (ScriptedVisitor.hooks Unit) 2 [functions]
      ()).toOption.map (fun session => (session.stats.nodesVisited, session.forests)) =
        some (3, [[⟨.struct, none, 1, []⟩, ⟨.function, none, 2, []⟩,
          ⟨.struct, none, 3, []⟩]]) := by decide +kernel
  cases ends : (Traverser.cached fickle).traverseAll (ScriptedVisitor.hooks Unit) 2 [functions]
      () with
  | error cause =>
      rw [ends] at ran
      contradiction
  | ok session =>
      rw [ends] at ran
      obtain ⟨visited, left⟩ := Prod.mk.inj (Option.some.inj ran)
      have rekinded : (Visit.allOf ((Traverser.cached fickle).visits (ScriptedVisitor.hooks Unit) 2
          [functions] ())).countP Visit.rekinded = 1 := by decide +kernel
      have total := (session_lookups ends).2.2.1
      rw [visited, rekinded] at total
      exact ⟨session, rfl, visited, left, total⟩

end Lookups

end KindDispatch
