import KindDispatch.Proofs.Traversal.Requests
import KindDispatch.Proofs.Traversal.Visits

/-!
# What a command does

`Workshop.Effect` lists what a command can do to a workshop.  A session does to a dispatcher what
the lookups of its visits do, one after the other, so a session and a direct lookup have one effect:
they put the dispatcher through a list of lookups and leave some visitors behind.
-/

namespace KindDispatch

variable {V S D : Type}

def Engine.resetCounters : Engine V → Engine V
  | naive traverser => .naive traverser.resetCounters
  | cached traverser => .cached traverser.resetCounters
  | shared table traverser => .shared table traverser.resetCounters

namespace Workshop

def kindsOf (hooks : Hooks V S) (depth : Nat) (workshop : Workshop V) (engine : Engine V) :
    Request S → List Kind
  | .session forests state =>
    Visit.kindsOf <| match engine with
    | .naive traverser => traverser.visits hooks depth forests state
    | .cached traverser => traverser.visits hooks depth forests state
    | .shared table traverser => (workshop.plugged table traverser).visits hooks depth forests state
  | .lookUp kind => [kind]
  | .resetCounters => []

inductive Asked (workshop : Workshop V) (number : Nat) : Engine V → List Kind → Workshop V → Prop
  | nothing (engine : Engine V) : Asked workshop number engine [] workshop
  | naive {traverser after : Traverser V NaiveDispatch} {kinds : List Kind}
      (went : after.dispatch = (Dispatch.lookUps traverser.dispatch kinds).2)
      (size : after.visitors.size = traverser.visitors.size) :
      Asked workshop number (.naive traverser) kinds (workshop.setEngine number (.naive after))
  | cached {traverser after : Traverser V CachedDispatch} {kinds : List Kind}
      (went : after.dispatch = (Dispatch.lookUps traverser.dispatch kinds).2)
      (size : after.visitors.size = traverser.visitors.size) :
      Asked workshop number (.cached traverser) kinds (workshop.setEngine number (.cached after))
  | shared {table : Nat} {traverser : Traverser V CachedDispatch}
      {after : Traverser V SharedDispatch} {kinds : List Kind}
      (went : after.dispatch =
        (Dispatch.lookUps (workshop.plugged table traverser).dispatch kinds).2)
      (size : after.visitors.size = traverser.visitors.size) :
      Asked workshop number (.shared table traverser) kinds (workshop.unplug number table after)

inductive Effect (hooks : Hooks V S) (depth : Nat) (workshop : Workshop V) :
    Command V S → Workshop V → Prop
  | naive (set : VisitorSet V) :
      Effect hooks depth workshop (.build .naive set)
        ⟨workshop.engines ++ [some (.naive (.naive set))], workshop.tables⟩
  | cached (set : VisitorSet V) :
      Effect hooks depth workshop (.build .cached set)
        ⟨workshop.engines ++ [some (.cached (.cached set))], workshop.tables⟩
  | shared {table : Nat} {set : VisitorSet V} {bound : SharedTable}
      (hbind : (workshop.table table).bind set.size = .ok bound) :
      Effect hooks depth workshop (.build (.shared table) set)
        ⟨workshop.engines ++ [some (.shared table ⟨set.visitors.toArray, .ofRules set.rules⟩)],
          (workshop.setTable table bound).tables⟩
  | refused {table : Nat} {set : VisitorSet V} {error : SetupError}
      (hbind : (workshop.table table).bind set.size = .error error) :
      Effect hooks depth workshop (.build (.shared table) set) workshop.addFailed
  | missing {number : Nat} (request : Request S) (hengine : workshop.engine? number = none) :
      Effect hooks depth workshop (.ask number request) workshop
  | asked {number : Nat} {engine : Engine V} {request : Request S} {later : Workshop V}
      (hengine : workshop.engine? number = some engine) (lookUps : request ≠ .resetCounters)
      (asked : workshop.Asked number engine (workshop.kindsOf hooks depth engine request) later) :
      Effect hooks depth workshop (.ask number request) later
  | reset {number : Nat} {engine : Engine V} (hengine : workshop.engine? number = some engine) :
      Effect hooks depth workshop (.ask number .resetCounters)
        (workshop.setEngine number engine.resetCounters)

variable (hooks : Hooks V S) (depth : Nat) (workshop : Workshop V)

theorem perform_shared_of_bind {table : Nat} {set : VisitorSet V} {bound : SharedTable}
    (hbind : (workshop.table table).bind set.size = .ok bound) :
    workshop.perform hooks depth (.build (.shared table) set) = (.built,
      ⟨workshop.engines ++ [some (.shared table ⟨set.visitors.toArray, .ofRules set.rules⟩)],
        (workshop.setTable table bound).tables⟩) := by
  rw [← set.length_rules] at hbind
  simp only [perform, addEngine, Traverser.cachedShared, SharedDispatch.ofRules, hbind, Except.map]
  rfl

theorem perform_shared_of_refused {table : Nat} {set : VisitorSet V} {error : SetupError}
    (hbind : (workshop.table table).bind set.size = .error error) :
    workshop.perform hooks depth (.build (.shared table) set) =
      (.refused error, workshop.addFailed) := by
  rw [← set.length_rules] at hbind
  simp only [perform, addEngine, Traverser.cachedShared, SharedDispatch.ofRules, hbind, Except.map]

variable {workshop} {number : Nat} {engine : Engine V}

private theorem perform_session (hengine : workshop.engine? number = some engine)
    (forests : List Forest) (state : S) :
    (workshop.perform hooks depth (.ask number (.session forests state))).2 =
      ((workshop.traverseAll? hooks depth number forests state).map Prod.snd).getD workshop := by
  simp only [perform, hengine]
  cases workshop.traverseAll? hooks depth number forests state <;> rfl

/-- A session that ends leaves what its visits looked up, and one that does not leaves nothing. -/
theorem asked_of_traverseAll [Dispatch D] (before : Traverser V D) (put : Traverser V D → Workshop V)
    (goes : ∀ after kinds, after.dispatch = (Dispatch.lookUps before.dispatch kinds).2 →
      after.visitors.size = before.visitors.size → workshop.Asked number engine kinds (put after))
    (forests : List Forest) (state : S) :
    workshop.Asked number engine (Visit.kindsOf (before.visits hooks depth forests state))
      (((before.traverseAll hooks depth forests state).toOption.map
        fun session => put session.traverser).getD workshop) := by
  cases hsession : before.traverseAll hooks depth forests state with
  | error cause =>
      rw [Traverser.visits_of_error hsession]
      exact .nothing engine
  | ok session =>
      exact goes session.traverser _ (Traverser.dispatch_of_traverseAll hsession)
        (Traverser.size_of_traverseAll hsession)

private theorem asked_session (hengine : workshop.engine? number = some engine)
    (forests : List Forest) (state : S) :
    workshop.Asked number engine (workshop.kindsOf hooks depth engine (.session forests state))
      (workshop.perform hooks depth (.ask number (.session forests state))).2 := by
  rw [perform_session hooks depth hengine]
  cases engine with
  | naive traverser =>
      have ended : (workshop.traverseAll? hooks depth number forests state).map Prod.snd =
          (traverser.traverseAll hooks depth forests state).toOption.map
            fun session => workshop.setEngine number (.naive session.traverser) := by
        simp only [traverseAll?, hengine, Option.bind_eq_bind, Option.bind_some]
        cases (traverser.traverseAll hooks depth forests state).toOption <;> rfl
      rw [ended]
      exact asked_of_traverseAll hooks depth traverser _ (fun after kinds => .naive) forests state
  | cached traverser =>
      have ended : (workshop.traverseAll? hooks depth number forests state).map Prod.snd =
          (traverser.traverseAll hooks depth forests state).toOption.map
            fun session => workshop.setEngine number (.cached session.traverser) := by
        simp only [traverseAll?, hengine, Option.bind_eq_bind, Option.bind_some]
        cases (traverser.traverseAll hooks depth forests state).toOption <;> rfl
      rw [ended]
      exact asked_of_traverseAll hooks depth traverser _ (fun after kinds => .cached) forests state
  | shared table traverser =>
      have ended : (workshop.traverseAll? hooks depth number forests state).map Prod.snd =
          ((workshop.plugged table traverser).traverseAll hooks depth forests state).toOption.map
            fun session => workshop.unplug number table session.traverser := by
        simp only [traverseAll?, hengine, Option.bind_eq_bind, Option.bind_some]
        cases ((workshop.plugged table traverser).traverseAll hooks depth forests state).toOption <;>
          rfl
      rw [ended]
      exact asked_of_traverseAll hooks depth (workshop.plugged table traverser) _
        (fun after kinds => .shared) forests state

private theorem asked_lookUp (hengine : workshop.engine? number = some engine) (kind : Kind) :
    workshop.Asked number engine [kind]
      (workshop.perform hooks depth (.ask number (.lookUp kind))).2 := by
  cases engine with
  | naive traverser =>
      simp only [perform, hengine, resolve?]
      exact .naive rfl rfl
  | cached traverser =>
      simp only [perform, hengine, resolve?]
      exact .cached rfl rfl
  | shared table traverser =>
      simp only [perform, hengine, resolve?]
      exact .shared rfl rfl

theorem resetCounters_of_engine? (hengine : workshop.engine? number = some engine) :
    workshop.resetCounters number = workshop.setEngine number engine.resetCounters := by
  cases engine <;> simp only [resetCounters, hengine, Engine.resetCounters]

theorem effect_perform (workshop : Workshop V) (command : Command V S) :
    workshop.Effect hooks depth command (workshop.perform hooks depth command).2 := by
  cases command with
  | build mode set =>
      cases mode with
      | naive => exact .naive set
      | cached => exact .cached set
      | shared table =>
          cases hbind : (workshop.table table).bind set.size with
          | ok bound =>
              rw [perform_shared_of_bind hooks depth workshop hbind]
              exact .shared hbind
          | error error =>
              rw [perform_shared_of_refused hooks depth workshop hbind]
              exact .refused hbind
  | ask number request =>
      cases hengine : workshop.engine? number with
      | none =>
          simp only [perform, hengine]
          exact .missing request hengine
      | some engine =>
          cases request with
          | session forests state =>
              exact .asked hengine (by simp) (asked_session hooks depth hengine forests state)
          | lookUp kind =>
              exact .asked hengine (by simp) (asked_lookUp hooks depth hengine kind)
          | resetCounters =>
              simp only [perform, hengine, resetCounters_of_engine? hengine]
              exact .reset hengine

/-! ## One engine in the place of another -/

structure Replaces (workshop : Workshop V) (number : Nat) (engine : Engine V)
    (later : Workshop V) : Prop where
  self : later.engine? number = some engine
  others : ∀ other, other ≠ number → later.engine? other = workshop.engine? other
  length : later.engines.length = workshop.engines.length

theorem Replaces.cases {later : Workshop V} (replaces : workshop.Replaces number engine later)
    {other : Nat} {found : Engine V} (hfound : later.engine? other = some found) :
    other = number ∧ engine = found ∨ other ≠ number ∧ workshop.engine? other = some found := by
  by_cases same : other = number
  · subst same
    rw [replaces.self] at hfound
    exact .inl ⟨rfl, Option.some.inj hfound⟩
  · rw [replaces.others other same] at hfound
    exact .inr ⟨same, hfound⟩

theorem replaces_same (present : workshop.engine? number = some engine) :
    workshop.Replaces number engine workshop :=
  ⟨present, fun _ _ => rfl, rfl⟩

theorem replaces_setEngine (present : workshop.engine? number = some engine)
    (engine' : Engine V) : workshop.Replaces number engine' (workshop.setEngine number engine') :=
  ⟨engine?_setEngine_self present engine', fun _ different =>
    engine?_setEngine_of_ne different workshop engine', by simp [setEngine]⟩

theorem replaces_unplug (present : workshop.engine? number = some engine) (table : Nat)
    (traverser : Traverser V SharedDispatch) :
    workshop.Replaces number (.shared table ⟨traverser.visitors, traverser.dispatch.cached⟩)
      (workshop.unplug number table traverser) :=
  ⟨engine?_unplug_self present table traverser, fun _ different =>
    engine?_setEngine_of_ne different _ _, by simp [unplug, setEngine, setTable]⟩

theorem table_unplug_self (workshop : Workshop V) (number table : Nat)
    (traverser : Traverser V SharedDispatch) :
    (workshop.unplug number table traverser).table table = traverser.dispatch.table :=
  workshop.table_setTable_self table traverser.dispatch.table

theorem table_unplug_of_ne {table other : Nat} (different : other ≠ table) (workshop : Workshop V)
    (number : Nat) (traverser : Traverser V SharedDispatch) :
    (workshop.unplug number table traverser).table other = workshop.table other :=
  table_setTable_of_ne different workshop traverser.dispatch.table

end Workshop

end KindDispatch
