import KindDispatch.Proofs.Traversal.Parallel
import KindDispatch.Proofs.Traversal.Record

/-!
# Sessions over several forests

A session over several forests is what the sessions over each of them come to, one after the other
up to the first that is stopped (`Traverser.traverseInTurn`, `Session.joined`).  This rests on
`Progress.after`: what a walk does, does not depend on what has been counted and called before it.

It is also a session over one forest, the concatenation of the given ones.
-/

namespace KindDispatch

variable {V S D W : Type}

/-! ## Walks that come after others -/

namespace Progress

def after (earlier later : Progress V S) : Progress V S where
  visitors := later.visitors
  state := later.state
  stats :=
    { nodesVisited := earlier.stats.nodesVisited + later.stats.nodesVisited
      visitorCalls := earlier.stats.visitorCalls + later.stats.visitorCalls
      stopped := earlier.stats.stopped || later.stats.stopped }
  calls := later.calls ++ earlier.calls

variable (earlier : Progress V S)

private theorem after_start :
    earlier.after ⟨earlier.visitors, earlier.state, .zero, []⟩ = earlier := by
  simp [after, TraversalStats.zero]

private theorem call_after (hooks : Hooks V S) (hook : Hook) (index : Nat) (node : Node)
    (later : Progress V S) :
    (earlier.after later).call hooks hook index node =
      (later.call hooks hook index node).map fun (result, later) =>
        (result, earlier.after later) := by
  by_cases inRange : index < later.visitors.size
  · cases accepts : hooks.accepts later.visitors[index] node with
    | false => simp [call, after, inRange, accepts, Except.map]
    | true => simp [call, after, inRange, accepts, Except.map, Nat.add_assoc, Bool.or_assoc]
  · simp [call, after, inRange, Except.map]

private theorem callEach_after (hooks : Hooks V S) (hook : Hook) (indices : List Nat) (node : Node)
    (skip : Bool) (later : Progress V S) :
    (earlier.after later).callEach hooks hook indices node skip =
      (later.callEach hooks hook indices node skip).map fun (step, node, skip, later) =>
        (step, node, skip, earlier.after later) := by
  induction indices generalizing node skip later with
  | nil => rfl
  | cons index rest ih =>
      simp only [callEach, call_after]
      cases later.call hooks hook index node with
      | error cause => rfl
      | ok answer =>
          obtain ⟨result, later⟩ := answer
          cases result with
          | proceed => exact ih node skip later
          | skipChildren => exact ih node true later
          | replace node => exact ih node skip later
          | remove => rfl
          | stop => rfl

end Progress

namespace Owned

variable [Dispatch D]

theorem parallel_after (hooks : Hooks V S) (earlier : Progress V S) :
    Parallel hooks hooks
      (fun (walk later : Progress V S × D) => walk = (earlier.after later.1, later.2))
      (· = ·) where
  countNode := by
    rintro _ _ later dispatch ⟨⟩
    rfl
  resolve := by
    rintro _ _ later dispatch ⟨⟩ kind
    exact ⟨rfl, rfl⟩
  callEach := by
    rintro _ _ later dispatch indices _ ⟨⟩ rfl hook node skip
    rw [Progress.callEach_after]
    cases later.callEach hooks hook indices node skip with
    | error cause => exact .halt cause
    | ok called =>
        obtain ⟨step, node, skip, later⟩ := called
        exact .done step node ⟨rfl, rfl⟩

theorem forests_after (hooks : Hooks V S) (depth : Nat) (earlier later : Progress V S)
    (dispatch : D) (forests : List Forest) :
    Walk.forests (node hooks depth) forests (earlier.after later, dispatch) =
      (Walk.forests (node hooks depth) forests (later, dispatch)).map
        fun (step, forests, later, dispatch) => (step, forests, earlier.after later, dispatch) := by
  have related : (fun (walk walk' : Progress V S × D) => walk = (earlier.after walk'.1, walk'.2))
      (earlier.after later, dispatch) (later, dispatch) := rfl
  rcases ((parallel_after hooks earlier).forests depth forests related).outcomes with
    ⟨cause, hwalk, hlater⟩ | ⟨step, left, _, ⟨later, dispatch⟩, hwalk, hlater, rfl⟩
  · rw [hwalk, hlater]
    rfl
  · rw [hwalk, hlater]
    rfl

private theorem sequence_stopped (hooks : Hooks V S) (depth : Nat) {nodes left : List Node}
    {step : Step}
    {before after : Progress V S} {dispatch dispatch' : D} (going : before.stats.stopped = false)
    (ends : Walk.sequence (node hooks depth) [] nodes (before, dispatch) =
      .ok (step, left, after, dispatch')) :
    after.stats.stopped = true ↔ step = .stop := by
  rw [← Recorded.forget_sequence (Recorded.forget_node hooks depth)] at ends
  have runs := Recorded.sequence_runs (Recorded.node_runs hooks depth) [] nodes (before, dispatch)
  cases hrecorded : Recorded.sequence (Recorded.node hooks depth) [] nodes (before, dispatch) with
  | error cause =>
      rw [hrecorded] at ends
      contradiction
  | ok result =>
      obtain ⟨step', left', moments, after', dispatch''⟩ := result
      rw [hrecorded] at ends
      cases ends
      have ran : Recorded.Ran step moments before after := runs _ _ _ _ hrecorded
      by_cases stop : step = .stop
      · simp [stop, (ran.stopped stop).1]
      · simp [stop, (ran.going stop).1, going]

end Owned

/-! ## One forest after the other -/

namespace Session

def followedBy (session later : Session V S D) : Session V S D where
  traverser := later.traverser
  forests := session.forests ++ later.forests
  state := later.state
  stats :=
    { nodesVisited := session.stats.nodesVisited + later.stats.nodesVisited
      visitorCalls := session.stats.visitorCalls + later.stats.visitorCalls
      stopped := session.stats.stopped || later.stats.stopped }
  calls := session.calls ++ later.calls

/-- What sessions over the first of some forests come to: the forests after these are as they were,
and where there is no session at all, nothing has happened. -/
def joined (traverser : Traverser V D) (forests : List Forest) (state : S)
    (sessions : List (Session V S D)) : Session V S D where
  traverser := (sessions.getLast?.map Session.traverser).getD traverser
  forests := sessions.flatMap Session.forests ++ forests.drop sessions.length
  state := (sessions.getLast?.map Session.state).getD state
  stats :=
    { nodesVisited := (sessions.map (·.stats.nodesVisited)).sum
      visitorCalls := (sessions.map (·.stats.visitorCalls)).sum
      stopped := sessions.any (·.stats.stopped) }
  calls := sessions.flatMap Session.calls

private theorem joined_cons (traverser : Traverser V D) (forest : Forest) (rest : List Forest)
    (state : S) (session : Session V S D) (sessions : List (Session V S D)) :
    joined traverser (forest :: rest) state (session :: sessions) =
      session.followedBy (joined session.traverser rest session.state sessions) := by
  cases hlast : sessions.getLast? <;>
    simp [joined, followedBy, List.getLast?_cons, hlast]

private theorem joined_single (traverser : Traverser V D) (forest : Forest) (rest : List Forest)
    (state : S) {session : Session V S D} (stopped : session.stats.stopped = true) :
    joined traverser (forest :: rest) state [session] =
      { session with forests := session.forests ++ rest } := by
  obtain ⟨traverser, left, state, ⟨nodesVisited, visitorCalls, _⟩, calls⟩ := session
  obtain rfl := stopped
  simp [joined]

end Session

namespace Traverser

variable [Dispatch D] (hooks : Hooks V S) (depth : Nat)

/-- Sessions over one forest after the other, none after the first that is stopped. -/
def traverseInTurn :
    Traverser V D → List Forest → S → Except Halt (List (Session V S D))
  | _, [], _ => .ok []
  | traverser, forest :: rest, state =>
    match traverser.traverse hooks depth forest state with
    | .error halt => .error halt
    | .ok session =>
      if session.stats.stopped then .ok [session]
      else (traverseInTurn session.traverser rest session.state).map (session :: ·)

private theorem traverse_eq_owned (traverser : Traverser V D) (forest : Forest) (state : S) :
    traverser.traverse hooks depth forest state =
      (Walk.sequence (Owned.node hooks depth) [] forest (traverser.start state)).map
        fun (_, left, walk) => .ofWalk [left] walk := by
  rw [traverse, traverseAll_eq_owned, Walk.forests]
  rcases Walk.sequence _ [] forest _ with cause | ⟨step, left, walk⟩
  · rfl
  · cases step <;> rfl

theorem traverseAll_cons (traverser : Traverser V D) (forest : Forest) (rest : List Forest)
    (state : S) :
    traverser.traverseAll hooks depth (forest :: rest) state =
      match traverser.traverse hooks depth forest state with
      | .error halt => .error halt
      | .ok session =>
        if session.stats.stopped then .ok { session with forests := session.forests ++ rest }
        else (session.traverser.traverseAll hooks depth rest session.state).map
          session.followedBy := by
  rw [traverse_eq_owned, traverseAll_eq_owned, Walk.forests]
  cases hforest : Walk.sequence (Owned.node hooks depth) [] forest (traverser.start state) with
  | error cause => rfl
  | ok result =>
      obtain ⟨step, left, progress, dispatch⟩ := result
      have stopped := Owned.sequence_stopped hooks depth rfl hforest
      -- the rest is walked on top of what has been counted and called so far
      have goes : ((Walk.forests (Owned.node hooks depth) rest (progress, dispatch)).map
            fun walked => (walked.1, left :: walked.2.1, walked.2.2)).map
            (fun walked => Session.ofWalk walked.2.1 walked.2.2) =
          (Traverser.traverseAll hooks depth ⟨progress.visitors, dispatch⟩ rest
            progress.state).map (Session.ofWalk [left] (progress, dispatch)).followedBy := by
        have later := Owned.forests_after hooks depth progress
          ⟨progress.visitors, progress.state, .zero, []⟩ dispatch rest
        rw [Progress.after_start] at later
        rw [later, traverseAll_eq_owned, start]
        cases Walk.forests _ rest _ with
        | error cause => rfl
        | ok result => simp [Except.map, Session.ofWalk, Session.followedBy, Progress.after]
      have going : step ≠ .stop → progress.stats.stopped = false := by simpa using stopped.not.mpr
      cases step with
      | stop => simp [Except.map, Session.ofWalk, stopped]
      | keep =>
          simp only [Except.map, Session.ofWalk, going, ne_eq, reduceCtorEq, not_false_eq_true,
            Bool.false_eq_true, if_false]
          exact goes
      | remove =>
          simp only [Except.map, Session.ofWalk, going, ne_eq, reduceCtorEq, not_false_eq_true,
            Bool.false_eq_true, if_false]
          exact goes

theorem traverseAll_eq_inTurn (traverser : Traverser V D) (forests : List Forest) (state : S) :
    traverser.traverseAll hooks depth forests state =
      (traverser.traverseInTurn hooks depth forests state).map
        (.joined traverser forests state) := by
  induction forests generalizing traverser state with
  | nil => rfl
  | cons forest rest ih =>
      rw [traverseAll_cons, traverseInTurn]
      cases traverser.traverse hooks depth forest state with
      | error cause => rfl
      | ok session =>
          by_cases stopped : session.stats.stopped = true
          · simp only [stopped, if_true, Except.map, Except.ok.injEq]
            exact (Session.joined_single traverser forest rest state stopped).symm
          · simp only [stopped, ih]
            cases traverseInTurn hooks depth session.traverser rest session.state with
            | error cause => rfl
            | ok sessions => simp [Except.map, Session.joined_cons]

end Traverser

/-! ## All forests in one -/

namespace Walk

variable {walkOne : Node → W → Except Halt (Step × Node × W)}

theorem sequence_done (done rest : List Node) (walk : W) :
    sequence walkOne done rest walk =
      (sequence walkOne [] rest walk).map fun (step, nodes, walk) =>
        (step, done.reverse ++ nodes, walk) := by
  induction rest generalizing done walk with
  | nil => simp [sequence, Except.map]
  | cons node rest ih =>
      simp only [sequence]
      rcases walkOne node walk with cause | ⟨step, node, walk⟩
      · rfl
      · cases step with
        | keep =>
            simp only
            rw [ih (node :: done), ih [node]]
            cases sequence walkOne [] rest walk <;> simp [Except.map]
        | remove => exact ih done walk
        | stop => simp [Except.map]

theorem sequence_append (first second : List Node) (walk : W) :
    sequence walkOne [] (first ++ second) walk =
      match sequence walkOne [] first walk with
      | .error halt => .error halt
      | .ok (.stop, nodes, walk) => .ok (.stop, nodes ++ second, walk)
      | .ok (_, nodes, walk) =>
        (sequence walkOne [] second walk).map fun (step, later, walk) =>
          (step, nodes ++ later, walk) := by
  induction first generalizing walk with
  | nil =>
      simp only [sequence, List.nil_append, List.reverse_nil]
      cases sequence walkOne [] second walk <;> rfl
  | cons node rest ih =>
      simp only [sequence, List.cons_append]
      rcases walkOne node walk with cause | ⟨step, node, walk⟩
      · rfl
      · cases step with
        | keep =>
            simp only
            rw [sequence_done [node], sequence_done [node], ih]
            rcases sequence walkOne [] rest walk with cause | ⟨step, nodes, walk⟩
            · rfl
            · rcases hsecond : sequence walkOne [] second walk with
                cause | ⟨step', later, walk'⟩ <;>
                cases step <;> simp [hsecond, Except.map]
        | remove => exact ih walk
        | stop => simp

theorem sequence_flatten (forests : List Forest) (walk : W) :
    sequence walkOne [] forests.flatten walk =
      (Walk.forests walkOne forests walk).map fun (step, forests, walk) =>
        (step, forests.flatten, walk) := by
  induction forests generalizing walk with
  | nil => rfl
  | cons forest rest ih =>
      rw [List.flatten_cons, sequence_append, Walk.forests]
      rcases sequence walkOne [] forest walk with cause | ⟨step, left, walk⟩
      · rfl
      · rcases hrest : Walk.forests walkOne rest walk with cause | ⟨step', later, walk'⟩ <;>
          cases step <;> simp [ih, hrest, Except.map]

end Walk

/--
A session over several forests is what the sessions over each of them come to, one after the other
and none after the first that is stopped: it makes their calls, leaves the forests, the visitors,
the dispatcher and the state of the caller as they do, and counts as much as they do together.  A
session over the concatenation of the forests does the same and leaves the concatenation of what is
left.  Whether the sessions end is the same too.
-/
theorem sessions_compose [Dispatch D] (hooks : Hooks V S) (depth : Nat) (traverser : Traverser V D)
    (forests : List Forest) (state : S) :
    traverser.traverseAll hooks depth forests state =
        (traverser.traverseInTurn hooks depth forests state).map
          (.joined traverser forests state) ∧
      traverser.traverse hooks depth forests.flatten state =
        (traverser.traverseAll hooks depth forests state).map fun session =>
          { session with forests := [session.forests.flatten] } := by
  refine ⟨traverser.traverseAll_eq_inTurn hooks depth forests state, ?_⟩
  rw [Traverser.traverse_eq_owned, Traverser.traverseAll_eq_owned, Walk.sequence_flatten]
  cases Walk.forests (Owned.node hooks depth) forests (traverser.start state) <;> rfl

end KindDispatch
