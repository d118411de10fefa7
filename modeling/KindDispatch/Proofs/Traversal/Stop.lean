import KindDispatch.Proofs.Traversal.Edits

/-!
# Stopping a session

`Hooks.stopping` answers one call of a session with `stop` and is otherwise like the hooks it is
made from.  The session then ends with that call: up to there it goes like the first one, and it
leaves the forests as that call finds them.  `Recorded.Cut` says this of a part of a walk, where the
call to be stopped may come within the part or after it.
-/

namespace KindDispatch

variable {V S D A B P Q : Type}

/-- The same behaviour, but the call that comes when the count is `1` is answered with `stop`.  The
count goes down with every call. -/
def Hooks.stopping (hooks : Hooks V S) : Hooks V (S × Nat) where
  name := hooks.name
  applicability := hooks.applicability
  accepts := hooks.accepts
  call hook visitor node clocked :=
    let (result, visitor, state) := hooks.call hook visitor node clocked.1
    (if clocked.2 = 1 then .stop else result, visitor, state, clocked.2 - 1)

def Progress.clocked (count : Nat) (progress : Progress V S) : Progress V (S × Nat) :=
  ⟨progress.visitors, (progress.state, count), progress.stats, progress.calls⟩

def Moment.stopping (moment : Moment P) : Moment P :=
  { moment with call := { moment.call with result := .stop } }

namespace Recorded

/-- If the first part ends before the call that is to be stopped, the second ends in the same way;
if that call is one of its own, the second ends there. -/
structure Cut (count : Nat) (run : Part P A (Progress V S × D))
    (run' : Part P A (Progress V (S × Nat) × D)) : Prop where
  before : ∀ step value moments progress dispatch,
    run = .ok (step, value, moments, progress, dispatch) → moments.length < count →
      run' = .ok (step, value, moments, progress.clocked (count - moments.length), dispatch)
  within : ∀ step value early moment late walk,
    run = .ok (step, value, early ++ moment :: late, walk) → early.length + 1 = count →
      ∃ value' walk', run' = .ok (.stop, value', early ++ [moment.stopping], walk')

namespace Cut

variable {count : Nat} {run first : Part P A (Progress V S × D)}
  {run' first' : Part P A (Progress V (S × Nat) × D)}

theorem nothing (step : Step) (value : A) (progress : Progress V S) (dispatch : D) :
    Cut count (.ok (step, value, ([] : List (Moment P)), progress, dispatch))
      (.ok (step, value, [], progress.clocked count, dispatch)) where
  before := by
    rintro _ _ _ _ _ ⟨⟩ -
    rfl
  within := by
    intro _ _ early moment late _ ends
    simp at ends

theorem error (cause : Halt) (run' : Part P A (_ × D)) :
    Cut (V := V) (S := S) count (.error cause) run' where
  before := by rintro _ _ _ _ _ ⟨⟩
  within := by rintro _ _ _ _ _ _ ⟨⟩

theorem relocate (cut : Cut count run run') (change : P → Q) (outer : A → B) :
    Cut count (relocate change outer run) (relocate change outer run') where
  before := by
    intro step value moments progress dispatch ends few
    obtain ⟨inner, nearby, hrun, rfl, rfl⟩ := relocate_eq_ok ends
    rw [List.length_map] at few ⊢
    rw [cut.before _ _ _ _ _ hrun few]
    rfl
  within := by
    intro step value early moment late walk ends last
    obtain ⟨inner, nearby, hrun, rfl, split⟩ := relocate_eq_ok ends
    obtain ⟨early, moment, rest, rfl, rfl, rfl⟩ := map_eq_append_cons split.symm
    rw [List.length_map] at last
    obtain ⟨value', walk', hrun'⟩ := cut.within _ _ _ _ _ _ hrun last
    rw [hrun']
    exact ⟨outer value', walk', by simp [Recorded.relocate, Except.map]; rfl⟩

theorem andThen (cut : Cut count first first') (exit : A → B)
    {next : Step → A → Progress V S × D → Part P B (Progress V S × D)}
    {next' : Step → A → Progress V (S × Nat) × D → Part P B (Progress V (S × Nat) × D)}
    (goes : ∀ count step value progress dispatch,
      Cut count (next step value (progress, dispatch))
        (next' step value (progress.clocked count, dispatch))) :
    Cut count (andThen first exit next) (andThen first' exit next') where
  before := by
    intro step value moments progress dispatch ends few
    rcases andThen_eq_ok ends with
      ⟨inner, hfirst, rfl, rfl⟩ |
        ⟨middle, inner, early, ⟨between, dispatch'⟩, late, going, hfirst, hnext, rfl⟩
    · rw [cut.before _ _ _ _ _ hfirst few]
      rfl
    · rw [List.length_append] at few
      have hfirst' := cut.before _ _ _ _ _ hfirst (by omega)
      have hnext' := (goes (count - early.length) middle inner between dispatch').before
        _ _ _ _ _ hnext (by omega)
      rw [hfirst', andThen_of_ne going, hnext', List.length_append, Nat.sub_sub]
      rfl
  within := by
    intro step value early moment late walk ends last
    rcases andThen_eq_ok ends with
      ⟨inner, hfirst, rfl, rfl⟩ |
        ⟨middle, inner, moments, ⟨between, dispatch'⟩, later, going, hfirst, hnext, split⟩
    · obtain ⟨value', walk', hfirst'⟩ := cut.within _ _ _ _ _ _ hfirst last
      rw [hfirst']
      exact ⟨_, _, rfl⟩
    · -- the call that stops is made by the first part, or by what goes on from it
      rcases append_eq_append_cons split.symm with ⟨rest, rfl⟩ | ⟨rest, rfl, rfl⟩
      · obtain ⟨value', walk', hfirst'⟩ := cut.within _ _ _ _ _ _ hfirst last
        rw [hfirst']
        exact ⟨_, _, rfl⟩
      · rw [List.length_append] at last
        have hfirst' := cut.before _ _ _ _ _ hfirst (by omega)
        obtain ⟨value', walk', hnext'⟩ := (goes (count - moments.length) middle inner between
          dispatch').within _ _ _ _ _ _ hnext (by omega)
        rw [hfirst', andThen_of_ne going, hnext']
        exact ⟨value', walk', by simp [Except.map]⟩

end Cut

private theorem call_cut (hooks : Hooks V S) (hook : Hook) (index : Nat) (target : Node × Bool)
    (progress : Progress V S) (dispatch : D) (count : Nat) :
    Cut count (call hooks hook index target (progress, dispatch))
      (call hooks.stopping hook index target (progress.clocked count, dispatch)) := by
  obtain ⟨node, skip⟩ := target
  by_cases inRange : index < progress.visitors.size
  · cases haccepts : hooks.accepts progress.visitors[index] node with
    | false =>
        rw [call_of_not_accepts hooks hook node skip progress dispatch inRange haccepts,
          call_of_not_accepts hooks.stopping hook node skip (progress.clocked count) dispatch
            inRange haccepts]
        exact .nothing _ _ _ _
    | true =>
        cases hanswer : hooks.call hook progress.visitors[index] node progress.state with
        | mk result after =>
            have hanswer' : hooks.stopping.call hook progress.visitors[index] node
                (progress.state, count) =
                  (if count = 1 then .stop else result, after.1, after.2, count - 1) := by
              simp only [Hooks.stopping, hanswer]
            rw [call_of_accepts hooks hook node skip progress dispatch inRange haccepts hanswer,
              call_of_accepts hooks.stopping hook node skip (progress.clocked count) dispatch
                inRange haccepts hanswer']
            constructor
            · rintro _ _ _ _ _ ⟨⟩ few
              have other : count ≠ 1 := by
                rintro rfl
                simp at few
              rw [if_neg other]
              rfl
            · intro step value early moment late walk ends last
              have split : [_] = early ++ moment :: late :=
                congrArg (fun answer => answer.2.2.1) (Except.ok.inj ends)
              cases early with
              | cons first rest => simp at split
              | nil =>
                  obtain rfl : count = 1 := last.symm
                  obtain ⟨rfl, rfl⟩ := List.cons.inj split
                  exact ⟨_, _, rfl⟩
  · rw [call_of_outOfRange hooks hook node skip progress dispatch inRange]
    exact .error _ _

private theorem callEach_cut (hooks : Hooks V S) (hook : Hook) (indices : List Nat)
    (target : Node × Bool) (progress : Progress V S) (dispatch : D) (count : Nat) :
    Cut count (callEach hooks hook indices target (progress, dispatch))
      (callEach hooks.stopping hook indices target (progress.clocked count, dispatch)) := by
  induction indices generalizing target progress dispatch count with
  | nil => exact .nothing _ _ _ _
  | cons index rest ih =>
      refine (call_cut hooks hook index target progress dispatch count).andThen id ?_
      intro count step target progress dispatch
      split
      · exact .nothing _ _ _ _
      · exact ih target progress dispatch count

section

variable {walkOne : Node → Progress V S × D → Part Place Node (Progress V S × D)}
  {walkOne' : Node → Progress V (S × Nat) × D → Part Place Node (Progress V (S × Nat) × D)}

theorem sequence_cut
    (one : ∀ count node progress dispatch,
      Cut count (walkOne node (progress, dispatch))
        (walkOne' node (progress.clocked count, dispatch)))
    (done rest : List Node) (progress : Progress V S) (dispatch : D) (count : Nat) :
    Cut count (sequence walkOne done rest (progress, dispatch))
      (sequence walkOne' done rest (progress.clocked count, dispatch)) := by
  induction rest generalizing done progress dispatch count with
  | nil => exact .nothing _ _ _ _
  | cons node rest ih =>
      refine ((one count node progress dispatch).relocate _ id).andThen _ ?_
      intro count step left progress dispatch
      exact ih _ progress dispatch count

theorem forests_cut
    (one : ∀ count node progress dispatch,
      Cut count (walkOne node (progress, dispatch))
        (walkOne' node (progress.clocked count, dispatch)))
    (done rest : List Forest) (progress : Progress V S) (dispatch : D) (count : Nat) :
    Cut count (forests walkOne done rest (progress, dispatch))
      (forests walkOne' done rest (progress.clocked count, dispatch)) := by
  induction rest generalizing done progress dispatch count with
  | nil => exact .nothing _ _ _ _
  | cons forest rest ih =>
      refine ((sequence_cut one [] forest progress dispatch count).relocate _ id).andThen _ ?_
      intro count step left progress dispatch
      exact ih _ progress dispatch count

end

theorem node_cut [Dispatch D] (hooks : Hooks V S) (depth : Nat) (count : Nat) (target : Node)
    (progress : Progress V S) (dispatch : D) :
    Cut count (node hooks depth target (progress, dispatch))
      (node hooks.stopping depth target (progress.clocked count, dispatch)) := by
  induction depth generalizing count target progress dispatch with
  | zero => exact .error _ _
  | succ depth ih =>
      refine (callEach_cut hooks .enter _ _ progress.countNode _ count).andThen Prod.fst ?_
      rintro count step ⟨entered, skip⟩ progress dispatch
      dsimp only
      split
      · exact .nothing _ _ _ _
      · have below : Cut count (descend (sequence (node hooks depth) []) skip entered
            (progress, dispatch))
            (descend (sequence (node hooks.stopping depth) []) skip entered
              (progress.clocked count, dispatch)) := by
          unfold descend
          split
          · exact .nothing _ _ _ _
          · exact (sequence_cut ih [] entered.children progress dispatch count).relocate _ _
        refine below.andThen id ?_
        intro count step left progress dispatch
        exact (callEach_cut hooks .leave _ _ progress _ count).relocate id Prod.fst

end Recorded

theorem Traverser.record_stopping [Dispatch D] {hooks : Hooks V S} {depth : Nat}
    {traverser : Traverser V D} {forests : List Forest} {state : S} {session : Session V S D}
    (ends : traverser.traverseAll hooks depth forests state = .ok session)
    {before after : List (Moment Site)} {moment : Moment Site}
    (split : traverser.record hooks depth forests state = before ++ moment :: after) :
    ∃ stopped,
      traverser.traverseAll hooks.stopping depth forests (state, before.length + 1) = .ok stopped ∧
      traverser.record hooks.stopping depth forests (state, before.length + 1) =
        before ++ [moment.stopping] := by
  obtain ⟨step, progress, hrecorded, -⟩ := recorded_of_traverseAll ends
  rw [split] at hrecorded
  have cut := Recorded.forests_cut (fun count => Recorded.node_cut hooks depth count) [] forests
    ⟨traverser.visitors, state, .zero, []⟩ traverser.dispatch (before.length + 1)
  obtain ⟨forests', walk', hcut⟩ := cut.within _ _ _ _ _ _ hrecorded rfl
  have hstopped : traverser.recorded hooks.stopping depth forests (state, before.length + 1) =
      .ok (.stop, forests', before ++ [moment.stopping], walk') := hcut
  rw [traverseAll_eq_recorded, record, hstopped]
  exact ⟨_, rfl, rfl⟩

theorem Traverser.stopped_iff [Dispatch D] {hooks : Hooks V S} {depth : Nat}
    {traverser : Traverser V D} {forests : List Forest} {state : S} {session : Session V S D}
    (ends : traverser.traverseAll hooks depth forests state = .ok session) :
    session.stats.stopped = true ↔
      ∃ call, session.calls.getLast? = some call ∧ call.result = .stop := by
  obtain ⟨step, progress, -, hstats, hcalls, ran⟩ := recorded_of_traverseAll ends
  rw [hstats, hcalls]
  by_cases stop : step = .stop
  · obtain ⟨hstopped, early, last, hrecord, hlast, -⟩ := ran.stopped stop
    rw [hrecord]
    simp [hstopped, hlast]
  · obtain ⟨same, others⟩ := ran.going stop
    have hstopped : progress.stats.stopped = false := same
    constructor
    · intro contrary
      rw [hstopped] at contrary
      contradiction
    · rintro ⟨call, hlast, hstop⟩
      obtain ⟨moment, member, rfl⟩ := List.mem_map.mp (List.mem_of_getLast? hlast)
      exact absurd hstop (others moment member)

/--
A session is stopped exactly when its last call was answered with `stop`.  And for each of its
calls, if only that one is answered with `stop` instead, the session goes the same way up to that
call and ends there.  It has then walked as many nodes as the first session had by that call.  The
forests are left as the answers before that call have made them, with nothing done at the place of
its node, and after that place stands what was given there.
-/
theorem stop_cuts_session [Dispatch D] (hooks : Hooks V S) (depth : Nat)
    (traverser : Traverser V D) (forests : List Forest) (state : S) {session : Session V S D}
    (ends : traverser.traverseAll hooks depth forests state = .ok session) :
    (session.stats.stopped = true ↔
        ∃ call, session.calls.getLast? = some call ∧ call.result = .stop) ∧
      (traverser.record hooks depth forests state).map Moment.call = session.calls ∧
      ∀ before moment after,
        traverser.record hooks depth forests state = before ++ moment :: after →
        ∃ stopped,
          traverser.traverseAll hooks.stopping depth forests (state, before.length + 1) =
            .ok stopped ∧
          stopped.calls = before.map Moment.call ++ [{ moment.call with result := .stop }] ∧
          stopped.stats = ⟨moment.walked, before.length + 1, true⟩ ∧
          stopped.forests = moment.place.fill [moment.call.node] ∧
          Edits Site.fill forests before stopped.forests ∧
          moment.place.Ahead (Reached Site.fill forests before) forests := by
  obtain ⟨-, -, -, -, hcalls, -⟩ := Traverser.recorded_of_traverseAll ends
  refine ⟨Traverser.stopped_iff ends, hcalls.symm, fun before moment after split => ?_⟩
  obtain ⟨stopped, hstopped, hrecord⟩ := Traverser.record_stopping ends split
  obtain ⟨step, progress, -, hstats, hcalls, ran⟩ := Traverser.recorded_of_traverseAll hstopped
  have traced := Traverser.record_traced hstopped
  rw [hrecord] at hcalls ran traced
  have stop : step = .stop := by
    by_contra going
    exact (ran.going going).2 moment.stopping (by simp) rfl
  obtain ⟨hflag, early, last, hlast, -, hwalked⟩ := ran.stopped stop
  obtain rfl : moment.stopping = last := by
    have := (List.append_inj' hlast rfl).2
    simpa using this
  have hcount : progress.stats.visitorCalls = before.length + 1 := by
    simpa [TraversalStats.zero] using ran.visitorCalls
  have hnodes : progress.stats.nodesVisited = moment.walked := hwalked.symm
  have hwhole : stopped.stats = ⟨moment.walked, before.length + 1, true⟩ := by
    rw [hstats, ← hnodes, ← hcount, ← hflag]
  obtain ⟨edits, hforests⟩ := traced.edits.last
  have hleaves : moment.stopping.call.leaves = [moment.call.node] := rfl
  refine ⟨stopped, hstopped, hcalls.trans List.map_append, hwhole, ?_, ?_, ?_⟩
  · rw [hforests, hleaves]
    rfl
  · rw [hforests, hleaves]
    exact edits
  · exact (Traverser.record_traced ends).ahead before moment after split

/-! The second of four calls would have removed the node that the first had put in the place of a
function.  Stopped there, the session keeps the replacement and does not remove it. -/

section Hoisted

open Script

theorem stop_cuts_session_hoisted :
    ∃ stopped, (Traverser.cached hoisting).traverseAll (ScriptedVisitor.hooks Unit).stopping 2
        nested ((), 2) = .ok stopped ∧
      stopped.stats = ⟨1, 2, true⟩ ∧
      stopped.forests =
        [[⟨.struct, none, 1, []⟩, ⟨.struct, none, 2, []⟩], [.ofKind .struct]] := by
  have finished : ((Traverser.cached hoisting).traverseAll (ScriptedVisitor.hooks Unit) 2 nested
      ()).toOption.isSome = true := by decide +kernel
  have seen : (((Traverser.cached hoisting).record (ScriptedVisitor.hooks Unit) 2 nested ()).map
      fun moment => (moment.walked, moment.place.fill [moment.call.node])).take 2 =
        [(1, nested),
          (1, [[⟨.struct, none, 1, []⟩, ⟨.struct, none, 2, []⟩], [.ofKind .struct]])] := by
    decide +kernel
  cases hsession : (Traverser.cached hoisting).traverseAll (ScriptedVisitor.hooks Unit) 2 nested ()
    with
  | error cause =>
      rw [hsession] at finished
      contradiction
  | ok session =>
      obtain ⟨-, -, cuts⟩ := stop_cuts_session (ScriptedVisitor.hooks Unit) 2
        (Traverser.cached hoisting) nested () hsession
      rw [← List.map_take] at seen
      obtain ⟨first, rest, hfirst, -, hrest⟩ := List.map_eq_cons_iff.mp seen
      obtain ⟨second, rest, rfl, hsecond, -⟩ := List.map_eq_cons_iff.mp hrest
      have split := List.take_append_drop 2
        ((Traverser.cached hoisting).record (ScriptedVisitor.hooks Unit) 2 nested ())
      rw [hfirst] at split
      obtain ⟨stopped, hstopped, -, hstats, hforests, -⟩ := cuts [first] second _ split.symm
      obtain ⟨hwalked, hfill⟩ := Prod.mk.inj hsecond
      rw [hwalked] at hstats
      exact ⟨stopped, hstopped, hstats, by rw [hforests, hfill]⟩

end Hoisted

end KindDispatch
