import KindDispatch.Proofs.Lists
import KindDispatch.Proofs.Traversal.Plain
import KindDispatch.Traversal.Traverser

/-!
# Walks with a record

A record lists the calls of a walk together with what a call cannot see: the place in the forests it
was made at, and how many nodes had been walked by then.  `Recorded.node` and the functions it is
built from are the walk of `Owned.node` with such a record beside its result, and `Recorded.forget`
takes the record away again.

All of them are made with `Recorded.andThen`, which goes on after a part of a walk unless that part
was stopped.  So what a record says is shown once for a single call and once for `andThen`.
-/

namespace KindDispatch

/-! ## Places -/

/-- A place in a sequence of nodes, given by what stands around it.  Further down it is given by the
node it is under, as that was when the walk went down to its children. -/
inductive Place where
  | here (before after : List Node)
  | under (before : List Node) (parent : Node) (after : List Node) (inner : Place)

namespace Place

def fill : Place → List Node → List Node
  | here before after, nodes => before ++ nodes ++ after
  | under before parent after inner, nodes =>
    before ++ parent.withChildren (inner.fill nodes) :: after

def within (before after : List Node) : Place → Place
  | here before' after' => here (before ++ before') (after' ++ after)
  | under before' parent after' inner => under (before ++ before') parent (after' ++ after) inner

@[simp] theorem fill_within (place : Place) (before after nodes : List Node) :
    (place.within before after).fill nodes = before ++ place.fill nodes ++ after := by
  cases place <;> simp [within, fill]

end Place

structure Site where
  earlier : List Forest
  place : Place
  later : List Forest

def Site.fill (site : Site) (nodes : List Node) : List Forest :=
  site.earlier ++ site.place.fill nodes :: site.later

/-- A call, the place it was made at, and the number of nodes walked by then. -/
structure Moment (P : Type) where
  place : P
  walked : Nat
  call : VisitorCall

def Moment.map {P Q : Type} (change : P → Q) (moment : Moment P) : Moment Q :=
  ⟨change moment.place, moment.walked, moment.call⟩

/-! ## The answer to a call -/

namespace VisitResult

def step : VisitResult → Step
  | remove => .remove
  | stop => .stop
  | _ => .keep

def leaving (node : Node) : VisitResult → Node
  | replace other => other
  | _ => node

def skipping (skip : Bool) : VisitResult → Bool
  | skipChildren => true
  | _ => skip

end VisitResult

def Step.kept : Step → Node → List Node
  | remove, _ => []
  | _, node => [node]

/-! ## The walk -/

variable {V S D W A B P Q : Type}

def Progress.callsSince (before after : Progress V S) : List VisitorCall :=
  (after.calls.take (after.calls.length - before.calls.length)).reverse

namespace Recorded

abbrev Part (P A W : Type) := Except Halt (Step × A × List (Moment P) × W)

/-- Goes on after a part of a walk, unless that was stopped; then `exit` is what it leaves. -/
def andThen (first : Part P A W) (exit : A → B) (next : Step → A → W → Part P B W) : Part P B W :=
  match first with
  | .error halt => .error halt
  | .ok (.stop, value, moments, walk) => .ok (.stop, exit value, moments, walk)
  | .ok (step, value, moments, walk) =>
    (next step value walk).map fun (step, value, later, walk) =>
      (step, value, moments ++ later, walk)

def relocate (change : P → Q) (value : A → B) (result : Part P A W) : Part Q B W :=
  result.map fun (step, inner, moments, walk) =>
    (step, value inner, moments.map (Moment.map change), walk)

def call (hooks : Hooks V S) (hook : Hook) (index : Nat) :
    Node × Bool → Progress V S × D → Part Place (Node × Bool) (Progress V S × D)
  | (node, skip), (progress, dispatch) =>
    (progress.call hooks hook index node).map fun (result, after) =>
      let moments := (progress.callsSince after).map fun call =>
        ⟨.here [] [], progress.stats.nodesVisited, call⟩
      (result.step, (result.leaving node, result.skipping skip), moments, after, dispatch)

def callEach (hooks : Hooks V S) (hook : Hook) :
    List Nat → Node × Bool → Progress V S × D → Part Place (Node × Bool) (Progress V S × D)
  | [], target, walk => .ok (.keep, target, [], walk)
  | index :: rest, target, walk =>
    andThen (call hooks hook index target walk) id fun step target walk =>
      if step = .remove then .ok (.remove, target, [], walk)
      else callEach hooks hook rest target walk

def sequence (walkOne : Node → W → Part Place Node W) :
    (done rest : List Node) → W → Part Place (List Node) W
  | done, [], walk => .ok (.keep, done.reverse, [], walk)
  | done, node :: rest, walk =>
    andThen (relocate (Place.within done.reverse rest) id (walkOne node walk))
      (fun node => done.reverse ++ node :: rest)
      fun step node walk => sequence walkOne (step.kept node ++ done) rest walk

def descend (walkChildren : List Node → W → Part Place (List Node) W)
    (skip : Bool) (node : Node) (walk : W) : Part Place Node W :=
  if skip then .ok (.keep, node, [], walk)
  else relocate (Place.under [] node []) node.withChildren (walkChildren node.children walk)

def leave [Dispatch D] (hooks : Hooks V S) (entered : Kind) (indices : List Nat) (left : Node) :
    Progress V S × D → Part Place Node (Progress V S × D)
  | (progress, dispatch) =>
    let (indices, dispatch) :=
      if left.kind ≠ entered then Dispatch.resolve dispatch left.kind else (indices, dispatch)
    relocate id Prod.fst (callEach hooks .leave indices (left, false) (progress, dispatch))

def node [Dispatch D] (hooks : Hooks V S) :
    (depth : Nat) → Node → Progress V S × D → Part Place Node (Progress V S × D)
  | 0, _, _ => .error .tooDeep
  | depth + 1, target, (progress, dispatch) =>
    let (indices, dispatch) := Dispatch.resolve dispatch target.kind
    andThen (callEach hooks .enter indices (target, false) (progress.countNode, dispatch)) Prod.fst
      fun step (entered, skip) walk =>
        if step = .remove then .ok (.remove, entered, [], walk)
        else
          andThen (descend (sequence (node hooks depth) []) skip entered walk) id
            fun _ left walk => leave hooks target.kind indices left walk

def forests (walkOne : Node → W → Part Place Node W) :
    (done rest : List Forest) → W → Part Site (List Forest) W
  | done, [], walk => .ok (.keep, done.reverse, [], walk)
  | done, forest :: rest, walk =>
    andThen (relocate (Site.mk done.reverse · rest) id (sequence walkOne [] forest walk))
      (fun forest => done.reverse ++ forest :: rest)
      fun _ forest walk => forests walkOne (forest :: done) rest walk

/-! ## Parts of a walk -/

def Ensures (R : Step → A → List (Moment P) → W → Prop) (result : Part P A W) : Prop :=
  ∀ step value moments walk, result = .ok (step, value, moments, walk) → R step value moments walk

variable {first : Part P A W} {exit : A → B} {next : Step → A → W → Part P B W}
  {change : P → Q} {outer : A → B} {result : Part P A W}

theorem andThen_of_ne {step : Step} (going : step ≠ .stop) (value : A) (moments : List (Moment P))
    (walk : W) :
    andThen (.ok (step, value, moments, walk)) exit next =
      (next step value walk).map fun (step, value, later, walk) =>
        (step, value, moments ++ later, walk) := by
  cases step with
  | stop => contradiction
  | keep => rfl
  | remove => rfl

theorem andThen_eq_ok {step : Step} {value : B} {moments : List (Moment P)} {walk : W}
    (ends : andThen first exit next = .ok (step, value, moments, walk)) :
    (∃ inner, first = .ok (.stop, inner, moments, walk) ∧ step = .stop ∧ value = exit inner) ∨
      ∃ middle inner early between late, middle ≠ .stop ∧
        first = .ok (middle, inner, early, between) ∧
        next middle inner between = .ok (step, value, late, walk) ∧ moments = early ++ late := by
  rcases first with cause | ⟨middle, inner, early, between⟩
  · contradiction
  · by_cases stopped : middle = .stop
    · subst stopped
      cases ends
      exact .inl ⟨inner, rfl, rfl, rfl⟩
    · rw [andThen_of_ne stopped] at ends
      cases hnext : next middle inner between with
      | error cause =>
          rw [hnext] at ends
          contradiction
      | ok result =>
          rw [hnext] at ends
          cases ends
          exact .inr ⟨middle, inner, early, between, _, stopped, rfl, hnext, rfl⟩

theorem relocate_eq_ok {step : Step} {value : B} {moments : List (Moment Q)} {walk : W}
    (ends : relocate change outer result = .ok (step, value, moments, walk)) :
    ∃ inner nearby, result = .ok (step, inner, nearby, walk) ∧ value = outer inner ∧
      moments = nearby.map (Moment.map change) := by
  rcases result with cause | ⟨step', inner, nearby, walk'⟩
  · contradiction
  · cases ends
    exact ⟨inner, nearby, rfl, rfl, rfl⟩

namespace Ensures

variable {R : Step → A → List (Moment P) → W → Prop}

theorem ok {step : Step} {value : A} {moments : List (Moment P)} {walk : W}
    (holds : R step value moments walk) : Ensures R (.ok (step, value, moments, walk)) := by
  rintro _ _ _ _ ⟨⟩
  exact holds

theorem mono {R' : Step → A → List (Moment P) → W → Prop} (ensures : Ensures R result)
    (weaker : ∀ step value moments walk, R step value moments walk → R' step value moments walk) :
    Ensures R' result :=
  fun _ _ _ _ ends => weaker _ _ _ _ (ensures _ _ _ _ ends)

/-- What is to be shown of two parts: the first may be stopped, else both are gone through. -/
theorem andThen {R' : Step → B → List (Moment P) → W → Prop} (ensures : Ensures R first)
    (stopped : ∀ value moments walk, R .stop value moments walk →
      R' .stop (exit value) moments walk)
    (goes : ∀ step value early walk, step ≠ .stop → R step value early walk →
      Ensures (fun step value late walk => R' step value (early ++ late) walk)
        (next step value walk)) :
    Ensures R' (andThen first exit next) := by
  intro step value moments walk ends
  rcases andThen_eq_ok ends with
    ⟨inner, hfirst, rfl, rfl⟩ | ⟨middle, inner, early, between, late, going, hfirst, hnext, rfl⟩
  · exact stopped inner moments walk (ensures _ _ _ _ hfirst)
  · exact goes middle inner early between going (ensures _ _ _ _ hfirst) _ _ _ _ hnext

theorem relocate {R' : Step → B → List (Moment Q) → W → Prop} (ensures : Ensures R result)
    (outside : ∀ step value moments walk, R step value moments walk →
      R' step (outer value) (moments.map (Moment.map change)) walk) :
    Ensures R' (relocate change outer result) := by
  intro step value moments walk ends
  obtain ⟨inner, nearby, hresult, rfl, rfl⟩ := relocate_eq_ok ends
  exact outside _ _ _ _ (ensures _ _ _ _ hresult)

end Ensures

/-! ## One call -/

def answered (progress : Progress V S) (call : VisitorCall) (visitors : Array V) (state : S) :
    Progress V S where
  visitors
  state
  stats := { progress.stats with
    visitorCalls := progress.stats.visitorCalls + 1
    stopped := progress.stats.stopped || call.result.isStop }
  calls := call :: progress.calls

section

variable (hooks : Hooks V S) (hook : Hook) {index : Nat} (node : Node) (skip : Bool)
  (progress : Progress V S) (dispatch : D)

theorem call_of_outOfRange (outside : ¬index < progress.visitors.size) :
    call hooks hook index (node, skip) (progress, dispatch) = .error .outOfRange := by
  simp [call, Progress.call, outside, Except.map]

theorem call_of_not_accepts (inRange : index < progress.visitors.size)
    (refuses : hooks.accepts progress.visitors[index] node = false) :
    call hooks hook index (node, skip) (progress, dispatch) =
      .ok (.keep, (node, skip), [], progress, dispatch) := by
  simp [call, Progress.call, inRange, refuses, Except.map, Progress.callsSince, VisitResult.step,
    VisitResult.leaving, VisitResult.skipping]

theorem call_of_accepts (inRange : index < progress.visitors.size)
    (accepts : hooks.accepts progress.visitors[index] node = true) {result : VisitResult}
    {visitor : V} {state : S}
    (answer : hooks.call hook progress.visitors[index] node progress.state =
      (result, visitor, state)) :
    call hooks hook index (node, skip) (progress, dispatch) =
      .ok (result.step, (result.leaving node, result.skipping skip),
        [⟨.here [] [], progress.stats.nodesVisited, ⟨index, hook, node, result⟩⟩],
        answered progress ⟨index, hook, node, result⟩ (progress.visitors.set index visitor) state,
        dispatch) := by
  simp [call, Progress.call, inRange, accepts, answer, Except.map, Progress.callsSince, answered]

theorem call_ensures {R : Step → Node × Bool → List (Moment Place) → Progress V S × D → Prop}
    (refused : R .keep (node, skip) [] (progress, dispatch))
    (made : ∀ (inRange : index < progress.visitors.size) result visitor state,
      hooks.accepts progress.visitors[index] node = true →
      hooks.call hook progress.visitors[index] node progress.state = (result, visitor, state) →
      R result.step (result.leaving node, result.skipping skip)
        [⟨.here [] [], progress.stats.nodesVisited, ⟨index, hook, node, result⟩⟩]
        (answered progress ⟨index, hook, node, result⟩ (progress.visitors.set index visitor) state,
          dispatch)) :
    Ensures R (call hooks hook index (node, skip) (progress, dispatch)) := by
  by_cases inRange : index < progress.visitors.size
  · cases haccepts : hooks.accepts progress.visitors[index] node with
    | false =>
        rw [call_of_not_accepts hooks hook node skip progress dispatch inRange haccepts]
        exact .ok refused
    | true =>
        rw [call_of_accepts hooks hook node skip progress dispatch inRange haccepts rfl]
        exact .ok (made inRange _ _ _ haccepts rfl)
  · rw [call_of_outOfRange hooks hook node skip progress dispatch inRange]
    rintro _ _ _ _ ⟨⟩

end

/-! ## Without the record -/

def forget (result : Part P A W) : Except Halt (Step × A × W) :=
  result.map fun (step, value, _, walk) => (step, value, walk)

private theorem forget_relocate (change : P → Q) (value : A → B) (result : Part P A W) :
    forget (relocate change value result) =
      (forget result).map fun (step, inner, walk) => (step, value inner, walk) := by
  cases result <;> rfl

private theorem forget_andThen (first : Part P A W) (exit : A → B)
    (next : Step → A → W → Part P B W) : forget (andThen first exit next) =
      match forget first with
      | .error halt => .error halt
      | .ok (.stop, value, walk) => .ok (.stop, exit value, walk)
      | .ok (step, value, walk) => forget (next step value walk) := by
  rcases first with cause | ⟨step, value, moments, walk⟩
  · rfl
  · cases step with
    | stop => rfl
    | keep => cases h : next .keep value walk <;> simp [andThen, forget, Except.map, h]
    | remove => cases h : next .remove value walk <;> simp [andThen, forget, Except.map, h]

private theorem forget_callEach (hooks : Hooks V S) (hook : Hook) (indices : List Nat)
    (target : Node) (skip : Bool) (progress : Progress V S) (dispatch : D) :
    forget (callEach hooks hook indices (target, skip) (progress, dispatch)) =
      (progress.callEach hooks hook indices target skip).map
        fun (step, node, skip, progress) => (step, (node, skip), progress, dispatch) := by
  induction indices generalizing target skip progress with
  | nil => rfl
  | cons index rest ih =>
      rw [callEach, forget_andThen, Progress.callEach]
      simp only [call]
      cases progress.call hooks hook index target with
      | error cause => rfl
      | ok answer =>
          obtain ⟨result, after⟩ := answer
          cases result with
          | proceed => exact ih target skip after
          | skipChildren => exact ih target true after
          | replace other => exact ih other skip after
          | remove => rfl
          | stop => rfl

section

variable {walkOne : Node → W → Part Place Node W}
  {plainOne : Node → W → Except Halt (Step × Node × W)}

theorem forget_sequence (one : ∀ node walk, forget (walkOne node walk) = plainOne node walk)
    (done rest : List Node) (walk : W) :
    forget (sequence walkOne done rest walk) = Walk.sequence plainOne done rest walk := by
  induction rest generalizing done walk with
  | nil => rfl
  | cons node rest ih =>
      rw [sequence, forget_andThen, forget_relocate, one, Walk.sequence]
      rcases plainOne node walk with cause | ⟨step, left, walk⟩
      · rfl
      · cases step with
        | keep => exact ih (left :: done) walk
        | remove => exact ih done walk
        | stop => rfl

private theorem forget_forests (one : ∀ node walk, forget (walkOne node walk) = plainOne node walk)
    (done rest : List Forest) (walk : W) :
    forget (forests walkOne done rest walk) =
      (Walk.forests plainOne rest walk).map
        fun (step, forests, walk) => (step, done.reverse ++ forests, walk) := by
  induction rest generalizing done walk with
  | nil => simp [forests, forget, Walk.forests, Except.map]
  | cons forest rest ih =>
      rw [forests, forget_andThen, forget_relocate, forget_sequence one, Walk.forests]
      have next : ∀ left walk, forget (forests walkOne (left :: done) rest walk) =
          ((Walk.forests plainOne rest walk).map
            fun (step, rest, walk) => (step, left :: rest, walk)).map
              fun (step, forests, walk) => (step, done.reverse ++ forests, walk) := by
        intro left walk
        rw [ih]
        cases Walk.forests plainOne rest walk <;> simp [Except.map]
      rcases Walk.sequence plainOne [] forest walk with cause | ⟨step, left, walk⟩
      · rfl
      · cases step with
        | keep => exact next left walk
        | remove => exact next left walk
        | stop => rfl

end

theorem forget_node [Dispatch D] (hooks : Hooks V S) (depth : Nat) (target : Node)
    (walk : Progress V S × D) :
    forget (node hooks depth target walk) = Owned.node hooks depth target walk := by
  induction depth generalizing target walk with
  | zero => rfl
  | succ depth ih =>
      obtain ⟨progress, dispatch⟩ := walk
      simp only [node, Owned.node, forget_andThen, forget_callEach]
      generalize Dispatch.resolve dispatch target.kind = resolved
      obtain ⟨indices, dispatch⟩ := resolved
      have left : ∀ node walk, forget (leave hooks target.kind indices node walk) =
          Owned.leave (D := D) hooks target.kind indices node walk := by
        rintro node ⟨progress, dispatch⟩
        simp only [leave, Owned.leave, forget_relocate, forget_callEach]
        cases Progress.callEach _ _ _ _ _ _ <;> rfl
      rcases progress.countNode.callEach hooks .enter indices target false with
        cause | ⟨step, entered, skip, progress⟩
      · rfl
      · cases step with
        | remove => rfl
        | stop => rfl
        | keep =>
            simp only [Except.map, reduceCtorEq, if_false, forget_andThen, descend, Walk.descend,
              left]
            cases skip with
            | true => rfl
            | false =>
                simp only [Bool.false_eq_true, if_false, forget_relocate, forget_sequence ih]
                rcases Walk.sequence (Owned.node hooks depth) [] entered.children
                  (progress, dispatch) with cause | ⟨step, children, walk⟩
                · rfl
                · cases step <;> rfl

/-! ## Totals and trace -/

structure Ran (step : Step) (moments : List (Moment P)) (before after : Progress V S) : Prop where
  calls : after.calls = (moments.map Moment.call).reverse ++ before.calls
  visitorCalls : after.stats.visitorCalls = before.stats.visitorCalls + moments.length
  going : step ≠ .stop → after.stats.stopped = before.stats.stopped ∧
    ∀ moment ∈ moments, moment.call.result ≠ .stop
  stopped : step = .stop → after.stats.stopped = true ∧
    ∃ early last, moments = early ++ [last] ∧ last.call.result = .stop ∧
      last.walked = after.stats.nodesVisited

namespace Ran

variable {step step' : Step} {moments early late : List (Moment P)}
  {before between after : Progress V S}

theorem nothing (going : step ≠ .stop) (progress : Progress V S) :
    Ran step ([] : List (Moment P)) progress progress :=
  ⟨rfl, rfl, fun _ => ⟨rfl, by simp⟩, fun stop => absurd stop going⟩

theorem map (ran : Ran step moments before after) (change : P → Q) :
    Ran step (moments.map (Moment.map change)) before after where
  calls := by
    rw [ran.calls, List.map_map]
    rfl
  visitorCalls := by rw [ran.visitorCalls, List.length_map]
  going hstep := by
    obtain ⟨same, others⟩ := ran.going hstep
    exact ⟨same, List.forall_mem_map.mpr others⟩
  stopped hstep := by
    obtain ⟨hstopped, early, last, rfl, result, walked⟩ := ran.stopped hstep
    exact ⟨hstopped, early.map (.map change), last.map change, List.map_append, result, walked⟩

theorem append (ran : Ran step early before between) (going : step ≠ .stop)
    (ran' : Ran step' late between after) : Ran step' (early ++ late) before after where
  calls := by rw [ran'.calls, ran.calls, List.map_append, List.reverse_append, List.append_assoc]
  visitorCalls := by
    rw [ran'.visitorCalls, ran.visitorCalls, List.length_append, Nat.add_assoc]
  going hstep := by
    obtain ⟨same, others⟩ := ran.going going
    obtain ⟨same', others'⟩ := ran'.going hstep
    exact ⟨same'.trans same, List.forall_mem_append.mpr ⟨others, others'⟩⟩
  stopped hstep := by
    obtain ⟨hstopped, early', last, rfl, result, walked⟩ := ran'.stopped hstep
    exact ⟨hstopped, early ++ early', last, (List.append_assoc ..).symm, result, walked⟩

end Ran

def Runs (before : Progress V S) (result : Part P A (Progress V S × D)) : Prop :=
  Ensures (fun step _ moments after => Ran step moments before after.1) result

namespace Runs

theorem ok {step : Step} (going : step ≠ .stop) (value : A) (walk : Progress V S × D) :
    Runs walk.1 (.ok (step, value, ([] : List (Moment P)), walk)) :=
  Ensures.ok (.nothing going walk.1)

theorem andThen {before : Progress V S} {first : Part P A (Progress V S × D)}
    (runs : Runs before first) {exit : A → B}
    {next : Step → A → Progress V S × D → Part P B (Progress V S × D)}
    (goes : ∀ step value walk, Runs walk.1 (next step value walk)) :
    Runs before (andThen first exit next) := by
  refine Ensures.andThen runs (fun _ _ _ ran => ran) ?_
  intro step value early walk going ran
  exact (goes step value walk).mono fun _ _ _ _ ran' => ran.append going ran'

theorem relocate {before : Progress V S} {result : Part P A (Progress V S × D)}
    (runs : Runs before result) (change : P → Q) (outer : A → B) :
    Runs before (relocate change outer result) :=
  Ensures.relocate runs fun _ _ _ _ ran => ran.map change

end Runs

private theorem call_runs (hooks : Hooks V S) (hook : Hook) (index : Nat) (target : Node × Bool)
    (walk : Progress V S × D) : Runs walk.1 (call hooks hook index target walk) := by
  obtain ⟨node, skip⟩ := target
  obtain ⟨progress, dispatch⟩ := walk
  refine call_ensures hooks hook node skip progress dispatch (.nothing (by simp) progress) ?_
  intro inRange result visitor state accepts answer
  refine ⟨rfl, rfl, fun going => ?_, fun stop => ?_⟩
  · have other : result ≠ .stop := by
      rintro rfl
      exact going rfl
    have notStop : result.isStop = false := by cases result <;> simp_all [VisitResult.isStop]
    simp [answered, notStop, other]
  · have same : result = .stop := by cases result <;> simp_all [VisitResult.step]
    subst same
    exact ⟨by simp [answered, VisitResult.isStop], [], _, rfl, rfl, rfl⟩

private theorem callEach_runs (hooks : Hooks V S) (hook : Hook) (indices : List Nat)
    (target : Node × Bool) (walk : Progress V S × D) :
    Runs walk.1 (callEach hooks hook indices target walk) := by
  induction indices generalizing target walk with
  | nil => exact .ok (by simp) target walk
  | cons index rest ih =>
      refine (call_runs hooks hook index target walk).andThen fun step target walk => ?_
      split
      · exact .ok (by simp) target walk
      · exact ih target walk

section

variable {walkOne : Node → Progress V S × D → Part Place Node (Progress V S × D)}

theorem sequence_runs (one : ∀ node walk, Runs walk.1 (walkOne node walk)) (done rest : List Node)
    (walk : Progress V S × D) : Runs walk.1 (sequence walkOne done rest walk) := by
  induction rest generalizing done walk with
  | nil => exact .ok (by simp) done.reverse walk
  | cons node rest ih => exact ((one node walk).relocate _ id).andThen fun _ _ walk => ih _ walk

theorem forests_runs (one : ∀ node walk, Runs walk.1 (walkOne node walk))
    (done rest : List Forest) (walk : Progress V S × D) :
    Runs walk.1 (forests walkOne done rest walk) := by
  induction rest generalizing done walk with
  | nil => exact .ok (by simp) done.reverse walk
  | cons forest rest ih =>
      exact ((sequence_runs one [] forest walk).relocate _ id).andThen fun _ _ walk => ih _ walk

end

theorem node_runs [Dispatch D] (hooks : Hooks V S) (depth : Nat) (target : Node)
    (walk : Progress V S × D) : Runs walk.1 (node hooks depth target walk) := by
  induction depth generalizing target walk with
  | zero => rintro _ _ _ _ ⟨⟩
  | succ depth ih =>
      obtain ⟨progress, dispatch⟩ := walk
      -- the walk starts with the node counted, which a record does not speak of
      suffices runs : Runs progress.countNode (node hooks (depth + 1) target (progress, dispatch))
        from runs.mono fun _ _ _ _ ran => ⟨ran.calls, ran.visitorCalls, ran.going, ran.stopped⟩
      refine (callEach_runs hooks .enter _ _ (progress.countNode, _)).andThen ?_
      rintro step ⟨entered, skip⟩ walk
      dsimp only
      split
      · exact .ok (by simp) entered walk
      · have below : Runs walk.1 (descend (sequence (node hooks depth) []) skip entered walk) := by
          unfold descend
          split
          · exact .ok (by simp) entered walk
          · exact (sequence_runs ih [] entered.children walk).relocate _ _
        exact below.andThen fun _ left _ => (callEach_runs hooks .leave _ _ _).relocate id Prod.fst

end Recorded

namespace Traverser

variable [Dispatch D] (hooks : Hooks V S) (depth : Nat) (traverser : Traverser V D)
  (forests : List Forest) (state : S)

def recorded : Recorded.Part Site (List Forest) (Progress V S × D) :=
  Recorded.forests (Recorded.node hooks depth) [] forests
    (⟨traverser.visitors, state, .zero, []⟩, traverser.dispatch)

def record : List (Moment Site) :=
  match traverser.recorded hooks depth forests state with
  | .error _ => []
  | .ok (_, _, moments, _) => moments

theorem traverseAll_eq_recorded :
    traverser.traverseAll hooks depth forests state =
      (traverser.recorded hooks depth forests state).map
        fun (_, forests, _, progress, dispatch) =>
          { traverser := ⟨progress.visitors, dispatch⟩, forests, state := progress.state,
            stats := progress.stats, calls := progress.calls.reverse } := by
  have forgotten : Recorded.forget (traverser.recorded hooks depth forests state) = _ :=
    Recorded.forget_forests (Recorded.forget_node hooks depth) [] forests (traverser.start state)
  calc traverser.traverseAll hooks depth forests state
      = (Recorded.forget (traverser.recorded hooks depth forests state)).map
          fun walked => .ofWalk walked.2.1 walked.2.2 := by
        rw [traverseAll_eq_owned, forgotten]
        cases Walk.forests (Owned.node hooks depth) forests (traverser.start state) <;> rfl
    _ = _ := by cases traverser.recorded hooks depth forests state <;> rfl

variable {hooks depth traverser forests state}

theorem recorded_of_traverseAll {session : Session V S D}
    (ends : traverser.traverseAll hooks depth forests state = .ok session) :
    ∃ step progress,
      traverser.recorded hooks depth forests state =
        .ok (step, session.forests, traverser.record hooks depth forests state, progress,
          session.traverser.dispatch) ∧
      session.stats = progress.stats ∧
      session.calls = (traverser.record hooks depth forests state).map Moment.call ∧
      Recorded.Ran step (traverser.record hooks depth forests state)
        ⟨traverser.visitors, state, .zero, []⟩ progress := by
  rw [traverseAll_eq_recorded] at ends
  have runs := Recorded.forests_runs (Recorded.node_runs hooks depth) [] forests
    (⟨traverser.visitors, state, .zero, []⟩, traverser.dispatch)
  cases hrecorded : traverser.recorded hooks depth forests state with
  | error cause =>
      rw [hrecorded] at ends
      contradiction
  | ok result =>
      obtain ⟨step, left, moments, progress, dispatch⟩ := result
      have hrecord : traverser.record hooks depth forests state = moments := by
        rw [record, hrecorded]
      have ran := runs step left moments (progress, dispatch) hrecorded
      rw [hrecorded] at ends
      cases ends
      rw [hrecord]
      have hcalls : progress.calls = (moments.map Moment.call).reverse := by simpa using ran.calls
      exact ⟨step, progress, rfl, rfl, List.reverse_eq_iff.mpr hcalls, ran⟩

end Traverser

end KindDispatch
