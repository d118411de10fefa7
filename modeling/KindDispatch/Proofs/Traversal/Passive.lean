import KindDispatch.Proofs.Dispatch.Hits
import KindDispatch.Proofs.Traversal.Parallel
import Mathlib.Data.List.Forall2

/-!
# Passive visitors

A visitor that answers every call to go on, and touches nothing but itself, can be put in between
other visitors without their noticing.  The visitors after it get other numbers, so the lists looked
up, the memo table and the trace are not the same; but without it they are, when the others are
numbered as before.
-/

namespace KindDispatch

variable {V S D : Type}

/-! ## Numbers -/

/-- The number of a visitor after another one has been put in at a place. -/
def shift (place index : Nat) : Nat := if index < place then index else index + 1

private theorem shift_ne (place index : Nat) : shift place index ≠ place := by
  unfold shift
  split <;> omega

theorem shift_injective (place : Nat) : Function.Injective (shift place) := by
  intro index other same
  unfold shift at same
  split at same <;> split at same <;> omega

theorem shift_of_lt {place index : Nat} (before : index < place) : shift place index = index :=
  if_pos before

theorem shift_of_le {place index : Nat} (after : place ≤ index) : shift place index = index + 1 :=
  if_neg (Nat.not_lt.mpr after)

def VisitorCall.renumber (place : Nat) (call : VisitorCall) : VisitorCall :=
  { call with visitor := shift place call.visitor }

/-! ## Rules -/

private theorem applicableFrom_append (kind : Kind) (start : Nat)
    (first second : List Applicability) : applicableFrom kind start (first ++ second) =
      applicableFrom kind start first ++ applicableFrom kind (start + first.length) second := by
  induction first generalizing start with
  | nil => rfl
  | cons rule first ih =>
      have next : start + 1 + first.length = start + (first.length + 1) := by omega
      by_cases applies : rule.appliesTo kind = true
      · simp [applicableFrom, applies, ih, next]
      · simp [applicableFrom, applies, ih, next]

private theorem applicableFrom_succ (kind : Kind) (start : Nat) (rules : List Applicability) :
    applicableFrom kind (start + 1) rules = (applicableFrom kind start rules).map (· + 1) := by
  induction rules generalizing start with
  | nil => rfl
  | cons rule rules ih =>
      by_cases applies : rule.appliesTo kind = true
      · simp [applicableFrom, applies, ih]
      · simp [applicableFrom, applies, ih]

def Beside (place : Nat) (indices indices' : List Nat) : Prop :=
  indices.map (shift place) = indices'.filter (· ≠ place)

theorem applicable_beside (before after : List Applicability) (scope : Applicability)
    (kind : Kind) :
    Beside before.length (applicable (before ++ after) kind)
      (applicable (before ++ scope :: after) kind) := by
  have early : ∀ index ∈ applicableFrom kind 0 before, index < before.length := by
    intro index member
    obtain ⟨-, rule, present, -⟩ := mem_applicableFrom.mp member
    exact (List.getElem?_eq_some_iff.mp present).1
  have late : ∀ index ∈ applicableFrom kind before.length after, before.length ≤ index :=
    fun index member => (mem_applicableFrom.mp member).1
  have hbefore : (applicableFrom kind 0 before).map (shift before.length) =
      (applicableFrom kind 0 before).filter (· ≠ before.length) := by
    have others : ∀ index ∈ applicableFrom kind 0 before, decide (index ≠ before.length) = true :=
      fun index member => decide_eq_true (Nat.ne_of_lt (early index member))
    rw [List.filter_eq_self.mpr others,
      List.map_congr_left fun index member => shift_of_lt (early index member), List.map_id']
  have hlater : (applicableFrom kind before.length after).map (shift before.length) =
      applicableFrom kind (before.length + 1) after := by
    rw [applicableFrom_succ]
    exact List.map_congr_left fun index member => shift_of_le (late index member)
  have hafter : (applicableFrom kind before.length after).map (shift before.length) =
      (applicableFrom kind before.length (scope :: after)).filter (· ≠ before.length) := by
    have others : ∀ index ∈ applicableFrom kind (before.length + 1) after,
        index ≠ before.length := by
      intro index member
      have := (mem_applicableFrom.mp member).1
      omega
    rw [hlater, applicableFrom]
    split <;> simpa using (List.filter_eq_self.mpr fun index member => by
      simpa using others index member).symm
  unfold Beside applicable
  rw [applicableFrom_append, applicableFrom_append, List.map_append, List.filter_append,
    Nat.zero_add, hbefore, hafter]

/-! ## Walks -/

/-- Visitors that answer every call to go on and leave the state of the caller alone. -/
def Hooks.Passive (hooks : Hooks V S) (passive : V → Prop) : Prop :=
  ∀ visitor, passive visitor → ∀ hook node state,
    ∃ visitor', hooks.call hook visitor node state = (.proceed, visitor', state) ∧ passive visitor'

/-- The progress of two walks, the second of which has a passive visitor at a place. -/
structure Progress.Hides (passive : V → Prop) (place : Nat) (progress progress' : Progress V S) :
    Prop where
  visitors : ∀ index, progress'.visitors[shift place index]? = progress.visitors[index]?
  inserted : ∃ visitor, progress'.visitors[place]? = some visitor ∧ passive visitor
  state : progress'.state = progress.state
  nodesVisited : progress'.stats.nodesVisited = progress.stats.nodesVisited
  visitorCalls : progress'.stats.visitorCalls =
    progress.stats.visitorCalls + progress'.calls.countP (·.visitor = place)
  stopped : progress'.stats.stopped = progress.stats.stopped
  calls : progress'.calls.filter (·.visitor ≠ place) = progress.calls.map (.renumber place)

namespace Progress.Hides

variable {hooks : Hooks V S} {passive : V → Prop} {place : Nat} {progress progress' : Progress V S}

private theorem countNode (hides : Hides passive place progress progress') :
    Hides passive place progress.countNode progress'.countNode where
  visitors := hides.visitors
  inserted := hides.inserted
  state := hides.state
  nodesVisited := congrArg (· + 1) hides.nodesVisited
  visitorCalls := hides.visitorCalls
  stopped := hides.stopped
  calls := hides.calls

private theorem answered (hides : Hides passive place progress progress') {index : Nat}
    (inRange : index < progress.visitors.size)
    (inRange' : shift place index < progress'.visitors.size) (hook : Hook) (node : Node)
    (result : VisitResult) (visitor : V) (state : S) :
    Hides passive place
      (Recorded.answered progress ⟨index, hook, node, result⟩
        (progress.visitors.set index visitor) state)
      (Recorded.answered progress' ⟨shift place index, hook, node, result⟩
        (progress'.visitors.set (shift place index) visitor) state) where
  visitors other := by
    by_cases same : index = other
    · subst same
      simp [Recorded.answered]
    · have different : shift place index ≠ shift place other :=
        fun h => same (shift_injective place h)
      simp [Recorded.answered, same, different, hides.visitors other]
  inserted := by
    simpa [Recorded.answered, shift_ne] using hides.inserted
  state := rfl
  nodesVisited := hides.nodesVisited
  visitorCalls := by
    simp [Recorded.answered, shift_ne, hides.visitorCalls, Nat.add_right_comm]
  stopped := by simp [Recorded.answered, hides.stopped]
  calls := by
    simpa [Recorded.answered, shift_ne, VisitorCall.renumber] using hides.calls

private theorem answered_inserted (hides : Hides passive place progress progress')
    (inRange : place < progress'.visitors.size) (hook : Hook) (node : Node) {visitor : V}
    (isPassive : passive visitor) :
    Hides passive place progress
      (Recorded.answered progress' ⟨place, hook, node, .proceed⟩
        (progress'.visitors.set place visitor) progress'.state) where
  visitors other := by
    simp [Recorded.answered, (shift_ne place other).symm, hides.visitors other]
  inserted := ⟨visitor, by simp [Recorded.answered], isPassive⟩
  state := hides.state
  nodesVisited := hides.nodesVisited
  visitorCalls := by simp [Recorded.answered, hides.visitorCalls, Nat.add_assoc]
  stopped := by simp [Recorded.answered, VisitResult.isStop, hides.stopped]
  calls := by simpa [Recorded.answered] using hides.calls

theorem call (hides : Hides passive place progress progress') (hook : Hook) (index : Nat)
    (node : Node) :
    (progress.call hooks hook index node = .error .outOfRange ∧
        progress'.call hooks hook (shift place index) node = .error .outOfRange) ∨
      ∃ result after after', progress.call hooks hook index node = .ok (result, after) ∧
        progress'.call hooks hook (shift place index) node = .ok (result, after') ∧
        Hides passive place after after' := by
  by_cases inRange : index < progress.visitors.size
  · have present : progress'.visitors[shift place index]? = some progress.visitors[index] := by
      rw [hides.visitors, Array.getElem?_eq_getElem inRange]
    obtain ⟨inRange', same⟩ := Array.getElem?_eq_some_iff.mp present
    cases haccepts : hooks.accepts progress.visitors[index] node with
    | false =>
        exact .inr ⟨_, _, _, Progress.call_of_refuses inRange haccepts,
          Progress.call_of_refuses inRange' (by rw [same, haccepts]), hides⟩
    | true =>
        refine .inr ⟨_, _, _, Progress.call_of_accepts inRange haccepts rfl,
          Progress.call_of_accepts inRange' (by rw [same, haccepts]) (by rw [same, hides.state]),
          hides.answered inRange inRange' hook node _ _ _⟩
  · have absent : progress'.visitors[shift place index]? = none := by
      rw [hides.visitors, Array.getElem?_eq_none (Nat.not_lt.mp inRange)]
    exact .inl ⟨Progress.call_of_outOfRange inRange,
      Progress.call_of_outOfRange (Nat.not_lt.mpr (Array.getElem?_eq_none_iff.mp absent))⟩

theorem call_inserted (isPassive : hooks.Passive passive)
    (hides : Hides passive place progress progress') (hook : Hook) (node : Node) :
    ∃ after', progress'.call hooks hook place node = .ok (.proceed, after') ∧
      Hides passive place progress after' := by
  obtain ⟨visitor, present, hpassive⟩ := hides.inserted
  obtain ⟨inRange, rfl⟩ := Array.getElem?_eq_some_iff.mp present
  cases haccepts : hooks.accepts progress'.visitors[place] node with
  | false => exact ⟨progress', Progress.call_of_refuses inRange haccepts, hides⟩
  | true =>
      obtain ⟨visitor', answer, hpassive'⟩ := isPassive _ hpassive hook node progress'.state
      exact ⟨_, Progress.call_of_accepts inRange haccepts answer,
        hides.answered_inserted inRange hook node hpassive'⟩

theorem callEach (isPassive : hooks.Passive passive)
    (hides : Hides passive place progress progress') {indices indices' : List Nat}
    (beside : Beside place indices indices') (hook : Hook) (node : Node) (skip : Bool) :
    Alike (fun called called' => called.1 = called'.1 ∧ Hides passive place called.2 called'.2)
      (progress.callEach hooks hook indices node skip)
      (progress'.callEach hooks hook indices' node skip) := by
  induction indices' generalizing indices node skip progress progress' with
  | nil =>
      obtain rfl : indices = [] := by simpa [Beside] using beside
      exact .done .keep node ⟨rfl, hides⟩
  | cons index' rest' ih =>
      by_cases here : index' = place
      · subst here
        have rest : Beside index' indices rest' := by simpa [Beside] using beside
        obtain ⟨after', hcall, hides'⟩ := hides.call_inserted isPassive hook node
        rw [Progress.callEach, hcall]
        exact ih hides' rest node skip
      · obtain ⟨index, rest, rfl, rfl, hrest⟩ : ∃ index rest, indices = index :: rest ∧
            shift place index = index' ∧ Beside place rest rest' := by
          unfold Beside at beside
          rw [List.filter_cons_of_pos (by simpa using here)] at beside
          exact List.map_eq_cons_iff.mp beside
        rcases hides.call hook index node with
          ⟨hcall, hcall'⟩ | ⟨result, after, after', hcall, hcall', hides'⟩
        · rw [Progress.callEach, Progress.callEach, hcall, hcall']
          exact .halt .outOfRange
        · rw [Progress.callEach, Progress.callEach, hcall, hcall']
          cases result with
          | proceed => exact ih hides' hrest node skip
          | skipChildren => exact ih hides' hrest node true
          | replace other => exact ih hides' hrest other skip
          | remove => exact .done .remove node ⟨rfl, hides'⟩
          | stop => exact .done .stop node ⟨rfl, hides'⟩

end Progress.Hides

structure Owned.Hides [Dispatch D] [LawfulDispatch D] [MeteredDispatch D] (passive : V → Prop)
    (before : List Applicability) (scope : Applicability) (after : List Applicability)
    (walk walk' : Progress V S × D) : Prop where
  progress : walk.1.Hides passive before.length walk'.1
  sound : LawfulDispatch.Sound (before ++ after) walk.2
  sound' : LawfulDispatch.Sound (before ++ scope :: after) walk'.2
  inStep : Dispatch.InStep walk.2 walk'.2

section Walks

variable [Dispatch D] [LawfulDispatch D] [MeteredDispatch D] {hooks : Hooks V S}
  {passive : V → Prop} {before after : List Applicability} {scope : Applicability}

theorem Owned.parallel_hides (isPassive : hooks.Passive passive) :
    Owned.Parallel hooks hooks (Owned.Hides (D := D) passive before scope after)
      (Beside before.length) where
  countNode hides := { hides with progress := hides.progress.countNode }
  resolve hides kind := by
    refine ⟨?_, { hides with
      sound := LawfulDispatch.sound_resolve hides.sound kind
      sound' := LawfulDispatch.sound_resolve hides.sound' kind
      inStep := hides.inStep.resolve kind }⟩
    rw [LawfulDispatch.resolve_fst hides.sound, LawfulDispatch.resolve_fst hides.sound']
    exact applicable_beside before after scope kind
  callEach hides beside hook node skip :=
    (hides.progress.callEach isPassive beside hook node skip).mono fun _ _ related =>
      ⟨related.1, { hides with progress := related.2 }⟩

end Walks

/-! ## Sessions -/

/-- Two sessions, the second of which has one visitor more, at a place, and goes as if it had
not. -/
structure Session.Hides [Dispatch D] (place : Nat) (session session' : Session V S D) : Prop where
  calls : session'.calls.filter (·.visitor ≠ place) = session.calls.map (.renumber place)
  forests : session'.forests = session.forests
  state : session'.state = session.state
  visitors : ∀ index,
    session'.traverser.visitors[shift place index]? = session.traverser.visitors[index]?
  nodesVisited : session'.stats.nodesVisited = session.stats.nodesVisited
  stopped : session'.stats.stopped = session.stats.stopped
  visitorCalls : session'.stats.visitorCalls =
    session.stats.visitorCalls + session'.calls.countP (·.visitor = place)
  tally : (Dispatch.counters session'.traverser.dispatch).tally =
    (Dispatch.counters session.traverser.dispatch).tally

/-- Sessions one after the other, each with some forests.  Before each the caller may change its
state. -/
def Traverser.sessions [Dispatch D] (hooks : Hooks V S) (depth : Nat) :
    Traverser V D → S → List ((S → S) × List Forest) → Except Halt (List (Session V S D))
  | _, _, [] => .ok []
  | traverser, state, (change, forests) :: rest =>
    match traverser.traverseAll hooks depth forests (change state) with
    | .error halt => .error halt
    | .ok session =>
      (sessions hooks depth session.traverser session.state rest).map (session :: ·)

theorem Traverser.sessions_cons [Dispatch D] {hooks : Hooks V S} {depth : Nat}
    {traverser : Traverser V D} {state : S} {change : S → S} {forests : List Forest}
    {session : Session V S D}
    (ends : traverser.traverseAll hooks depth forests (change state) = .ok session)
    (rest : List ((S → S) × List Forest)) :
    traverser.sessions hooks depth state ((change, forests) :: rest) =
      (session.traverser.sessions hooks depth session.state rest).map (session :: ·) := by
  rw [sessions, ends]

private theorem getElem?_shift (before after : List V) (visitor : V) (index : Nat) :
    (before ++ visitor :: after)[shift before.length index]? = (before ++ after)[index]? := by
  by_cases early : index < before.length
  · rw [shift_of_lt early, List.getElem?_append_left early, List.getElem?_append_left early]
  · have late : before.length ≤ index := Nat.not_lt.mp early
    have next : index + 1 - before.length = index - before.length + 1 := by omega
    rw [shift_of_le late, List.getElem?_append_right late,
      List.getElem?_append_right (Nat.le_succ_of_le late), next, List.getElem?_cons_succ]

private theorem Progress.Hides.start {passive : V → Prop} (before after : List V) {visitor : V}
    (isPassive : passive visitor) (state : S) :
    Progress.Hides passive before.length ⟨(before ++ after).toArray, state, .zero, []⟩
      ⟨(before ++ visitor :: after).toArray, state, .zero, []⟩ where
  visitors index := by simpa using getElem?_shift before after visitor index
  inserted := ⟨visitor, by simp, isPassive⟩
  state := rfl
  nodesVisited := rfl
  visitorCalls := rfl
  stopped := rfl
  calls := rfl

theorem Progress.Hides.restart {passive : V → Prop} {place : Nat}
    {progress progress' : Progress V S} (hides : progress.Hides passive place progress') (state : S) :
    Progress.Hides passive place ⟨progress.visitors, state, .zero, []⟩
      ⟨progress'.visitors, state, .zero, []⟩ where
  visitors := hides.visitors
  inserted := hides.inserted
  state := rfl
  nodesVisited := rfl
  visitorCalls := rfl
  stopped := rfl
  calls := rfl

section Sessions

variable [Dispatch D] [LawfulDispatch D] [MeteredDispatch D] {hooks : Hooks V S}
  {passive : V → Prop} {before after : List Applicability} {scope : Applicability}

theorem Owned.Hides.session {walk walk' : Progress V S × D}
    (hides : Owned.Hides passive before scope after walk walk') (forests : List Forest) :
    Session.Hides before.length (.ofWalk forests walk) (.ofWalk forests walk') where
  calls := by
    simp only [Session.ofWalk, List.filter_reverse, hides.progress.calls, List.map_reverse]
  forests := rfl
  state := hides.progress.state
  visitors := hides.progress.visitors
  nodesVisited := hides.progress.nodesVisited
  stopped := hides.progress.stopped
  visitorCalls := by
    simp only [Session.ofWalk, List.countP_reverse, hides.progress.visitorCalls]
  tally := hides.inStep.tally.symm

theorem Traverser.sessions_hide (isPassive : hooks.Passive passive) (depth : Nat)
    {traverser traverser' : Traverser V D} {state : S}
    (hides : Owned.Hides passive before scope after (traverser.start state)
      (traverser'.start state)) (inputs : List ((S → S) × List Forest)) :
    (∃ cause, traverser.sessions hooks depth state inputs = .error cause ∧
        traverser'.sessions hooks depth state inputs = .error cause) ∨
      ∃ sessions sessions', traverser.sessions hooks depth state inputs = .ok sessions ∧
        traverser'.sessions hooks depth state inputs = .ok sessions' ∧
        List.Forall₂ (Session.Hides before.length) sessions sessions' := by
  induction inputs generalizing traverser traverser' state with
  | nil => exact .inr ⟨[], [], rfl, rfl, .nil⟩
  | cons input rest ih =>
      obtain ⟨change, forests⟩ := input
      have restarted : Owned.Hides passive before scope after (traverser.start (change state))
          (traverser'.start (change state)) :=
        { hides with progress := hides.progress.restart (change state) }
      rcases (Owned.parallel_hides isPassive).traverseAll depth forests restarted with
        ⟨cause, hsession, hsession'⟩ | ⟨left, walk, walk', hsession, hsession', ended⟩
      · exact .inl ⟨cause, by rw [sessions, hsession], by rw [sessions, hsession']⟩
      · have later : Owned.Hides passive before scope after
            (Traverser.start (Session.ofWalk left walk).traverser walk.1.state)
            (Traverser.start (Session.ofWalk left walk').traverser walk.1.state) :=
          { ended with progress := ended.progress.restart walk.1.state }
        have same : (Session.ofWalk left walk').state = walk.1.state := ended.progress.state
        have state : (Session.ofWalk left walk).state = walk.1.state := rfl
        rw [sessions_cons hsession, sessions_cons hsession', same, state]
        rcases ih later with ⟨cause, hrest, hrest'⟩ | ⟨sessions, sessions', hrest, hrest', related⟩
        · rw [hrest, hrest']
          exact .inl ⟨cause, rfl, rfl⟩
        · rw [hrest, hrest']
          exact .inr ⟨_, _, rfl, rfl, .cons (ended.session left) related⟩

end Sessions

/--
A passive visitor is not noticed.  Put in at any place of some visitors, with any declaration, it
leaves every sequence of sessions as it was: the others are called as before on the same nodes, and
the forests, their states, the state of the caller, the nodes walked and the lookups, hits and
misses are the same.  The sessions only count its own calls in addition.  This holds for any two
dispatchers that answer by the rules and have counted and remember the same, new ones for instance.
-/
theorem passive_visitor_is_invisible [Dispatch D] [LawfulDispatch D] [MeteredDispatch D]
    {hooks : Hooks V S} {passive : V → Prop} (isPassive : hooks.Passive passive)
    (before after : List (V × Applicability)) {visitor : V} (inserted : passive visitor)
    (scope : Applicability) {dispatch dispatch' : D}
    (sound : LawfulDispatch.Sound (VisitorSet.mk (before ++ after)).rules dispatch)
    (sound' : LawfulDispatch.Sound (VisitorSet.mk (before ++ (visitor, scope) :: after)).rules
      dispatch')
    (inStep : Dispatch.InStep dispatch dispatch') (depth : Nat) (state : S)
    (inputs : List ((S → S) × List Forest)) :
    let traverser : Traverser V D :=
      ⟨(VisitorSet.mk (before ++ after)).visitors.toArray, dispatch⟩
    let traverser' : Traverser V D :=
      ⟨(VisitorSet.mk (before ++ (visitor, scope) :: after)).visitors.toArray, dispatch'⟩
    (∃ cause, traverser.sessions hooks depth state inputs = .error cause ∧
        traverser'.sessions hooks depth state inputs = .error cause) ∨
      ∃ sessions sessions', traverser.sessions hooks depth state inputs = .ok sessions ∧
        traverser'.sessions hooks depth state inputs = .ok sessions' ∧
        List.Forall₂ (Session.Hides before.length) sessions sessions' := by
  intro traverser traverser'
  have progress := Progress.Hides.start (before.map (·.1)) (after.map (·.1)) inserted state
  rw [VisitorSet.rules, List.map_append] at sound sound'
  have hides : Owned.Hides passive (before.map (·.2)) scope (after.map (·.2))
      (traverser.start state) (traverser'.start state) :=
    { progress := by
        simpa [traverser, traverser', Traverser.start, VisitorSet.visitors] using progress
      sound
      sound'
      inStep }
  simpa using Traverser.sessions_hide isPassive depth hides inputs

namespace Script

theorem ScriptedVisitor.passive (S : Type) :
    (hooks S).Passive fun visitor => visitor.enter = [] ∧ visitor.leave = [] := by
  rintro ⟨name, scope, accepts, enter, leave⟩ ⟨rfl, rfl⟩ hook node state
  cases hook with
  | enter => exact ⟨_, rfl, rfl, rfl⟩
  | leave => exact ⟨_, rfl, rfl, rfl⟩

/-! A visitor without rules between one that turns functions into structs and one that removes
structs; in the second session the lookups are hits. -/

section Looking

def lookingSessions : List ((Unit → Unit) × List Forest) :=
  [(id, [[.ofKind .function, .ofKind .struct]]), (id, [[.ofKind .function]])]

theorem passive_visitor_is_invisible_looking :
    let before := rekinding.entries.take 1
    let after := rekinding.entries.drop 1
    let plain := Traverser.cached ⟨before ++ after⟩
    let looking := Traverser.cached ⟨before ++ (ScriptedVisitor.idle "look", .any) :: after⟩
    ∃ sessions sessions',
      plain.sessions (ScriptedVisitor.hooks Unit) 2 () lookingSessions = .ok sessions ∧
        looking.sessions (ScriptedVisitor.hooks Unit) 2 () lookingSessions = .ok sessions' ∧
        List.Forall₂ (Session.Hides 1) sessions sessions' := by
  intro before after plain looking
  have isPassive : (ScriptedVisitor.idle "look").enter = [] ∧
      (ScriptedVisitor.idle "look").leave = [] := ⟨rfl, rfl⟩
  have invisible := passive_visitor_is_invisible (ScriptedVisitor.passive Unit) before after
    isPassive .any (CachedDispatch.sound_ofRules _) (CachedDispatch.sound_ofRules _)
    (CachedDispatch.inStep_ofRules _ _) 2 () lookingSessions
  have ends : (plain.sessions (ScriptedVisitor.hooks Unit) 2 () lookingSessions).toOption.isSome =
      true := by decide +kernel
  rcases invisible with ⟨cause, halts, -⟩ | sessions
  · rw [show plain.sessions _ 2 () lookingSessions = .error cause from halts] at ends
    contradiction
  · exact sessions

end Looking

end Script

end KindDispatch
