import KindDispatch.Proofs.Traversal.Plain
import KindDispatch.Traversal.Engine

/-!
# Requests to engines

A command builds an engine or puts a request to one: a session, a direct lookup, a reset of its
counters.  Its answer shows everything a caller can see of sessions and lookups.  A request changes
one engine and, if that engine shares a table, the table; `AfterRequest` says in which ways.
-/

namespace KindDispatch

variable {V S D : Type}

/-! ## Plain sessions -/

def Plain.session? (hooks : Hooks V S) (depth : Nat) (rules : List Applicability)
    (visitors : Array V) (forests : List Forest) (state : S) :
    Option (Workshop.Outcome S × Array V) :=
  ((Walk.forests (Plain.node hooks rules depth) forests ⟨visitors, state, .zero, []⟩).map
    fun (_, forests, progress) =>
      (⟨forests, progress.state, progress.stats, progress.calls.reverse⟩,
        progress.visitors)).toOption

theorem Traverser.traverseAll_plain [Dispatch D] [LawfulDispatch D] (hooks : Hooks V S)
    (depth : Nat) {rules : List Applicability} {traverser : Traverser V D}
    (sound : LawfulDispatch.Sound rules traverser.dispatch) (forests : List Forest) (state : S) :
    ((traverser.traverseAll hooks depth forests state).toOption = none ∧
        Plain.session? hooks depth rules traverser.visitors forests state = none) ∨
      ∃ session, (traverser.traverseAll hooks depth forests state).toOption = some session ∧
        Plain.session? hooks depth rules traverser.visitors forests state =
          some (⟨session.forests, session.state, session.stats, session.calls⟩,
            session.traverser.visitors) ∧
        LawfulDispatch.Sound rules session.traverser.dispatch := by
  have follows : Walk.Follows rules #[]
      ⟨⟨traverser.visitors, state, .zero, []⟩, traverser.dispatch, #[]⟩
      ⟨traverser.visitors, state, .zero, []⟩ := ⟨rfl, rfl, sound⟩
  simp only [traverseAll, Plain.session?]
  rcases (Walk.forests_alike_plain hooks depth forests follows).outcomes with
    ⟨cause, hwalk, hplain⟩ | ⟨step, forests', walk, progress, hwalk, hplain, follows'⟩
  · rw [hwalk, hplain]
    exact .inl ⟨rfl, rfl⟩
  · rw [hwalk, hplain]
    obtain rfl := follows'.progress_eq
    exact .inr ⟨_, rfl, rfl, follows'.sound⟩

theorem Traverser.sound_traverseAll [Dispatch D] [LawfulDispatch D] (hooks : Hooks V S)
    (depth : Nat) {rules : List Applicability} {traverser : Traverser V D}
    (sound : LawfulDispatch.Sound rules traverser.dispatch) {forests : List Forest} {state : S}
    {session : Session V S D}
    (hsession : (traverser.traverseAll hooks depth forests state).toOption = some session) :
    LawfulDispatch.Sound rules session.traverser.dispatch := by
  rcases traverseAll_plain hooks depth sound forests state with
    ⟨hnone, -⟩ | ⟨session', hsome, -, sound'⟩
  · rw [hsession] at hnone
    contradiction
  · obtain rfl : session = session' := Option.some.inj (hsession.symm.trans hsome)
    exact sound'

/-! ## Commands and answers -/

inductive Request (S : Type) where
  | session (forests : List Forest) (state : S)
  | lookUp (kind : Kind)
  | resetCounters

inductive Command (V S : Type) where
  | build (mode : EngineMode) (set : VisitorSet V)
  | ask (engine : Nat) (request : Request S)

inductive Answer (V S : Type) where
  | built
  | refused (error : SetupError)
  | noEngine
  /-- The session and the visitors it left behind. -/
  | session (outcome : Workshop.Outcome S) (visitors : Array V)
  | indices (indices : List Nat)
  | reset
  /-- The session goes below the last level; nothing is done. -/
  | unfinished

def Engine.visitors : Engine V → Array V
  | naive traverser => traverser.visitors
  | cached traverser | shared _ traverser => traverser.visitors

namespace Workshop

def perform (hooks : Hooks V S) (depth : Nat) (workshop : Workshop V) :
    Command V S → Answer V S × Workshop V
  | .build mode set =>
    match workshop.addEngine mode set with
    | .error error => (.refused error, workshop.addFailed)
    | .ok workshop => (.built, workshop)
  | .ask number request =>
    match workshop.engine? number, request with
    | none, _ => (.noEngine, workshop)
    | some _, .session forests state =>
      match workshop.traverseAll? hooks depth number forests state with
      | none => (.unfinished, workshop)
      | some (outcome, workshop) =>
        (.session outcome (((workshop.engine? number).map Engine.visitors).getD #[]), workshop)
    | some _, .lookUp kind =>
      match workshop.resolve? number kind with
      | none => (.noEngine, workshop)
      | some (indices, workshop) => (.indices indices, workshop)
    | some _, .resetCounters => (.reset, workshop.resetCounters number)

end Workshop

/-! ## Engines and tables in a workshop -/

namespace Workshop

variable {workshop : Workshop V} {number : Nat} {engine : Engine V}

theorem lt_length_of_engine? (present : workshop.engine? number = some engine) :
    number < workshop.engines.length := by
  refine Nat.lt_of_not_le fun outside => ?_
  simp [engine?, List.getElem?_eq_none outside] at present

theorem engine?_setEngine_self (present : workshop.engine? number = some engine)
    (engine' : Engine V) : (workshop.setEngine number engine').engine? number = some engine' := by
  simp [engine?, setEngine, lt_length_of_engine? present]

theorem engine?_unplug_self (present : workshop.engine? number = some engine) (table : Nat)
    (traverser : Traverser V SharedDispatch) :
    (workshop.unplug number table traverser).engine? number =
      some (.shared table ⟨traverser.visitors, traverser.dispatch.cached⟩) := by
  simp [engine?, unplug, setEngine, setTable, lt_length_of_engine? present]

theorem engine?_setEngine_of_ne {other : Nat} (different : other ≠ number)
    (workshop : Workshop V) (engine' : Engine V) :
    (workshop.setEngine number engine').engine? other = workshop.engine? other := by
  simp [engine?, setEngine, List.getElem?_set_ne different.symm]

theorem engine?_append (workshop : Workshop V) (slot : Option (Engine V))
    (tables : List (Nat × SharedTable)) (number : Nat) :
    (Workshop.mk (workshop.engines ++ [slot]) tables).engine? number =
      if number = workshop.engines.length then slot else workshop.engine? number := by
  rcases Nat.lt_trichotomy number workshop.engines.length with before | rfl | later
  · simp [engine?, List.getElem?_append_left before, Nat.ne_of_lt before]
  · simp [engine?]
  · have hlonger : (workshop.engines ++ [slot])[number]? = none := by
      rw [List.getElem?_eq_none_iff, List.length_append]
      exact later
    have hshorter : workshop.engines[number]? = none :=
      List.getElem?_eq_none_iff.mpr (Nat.le_of_lt later)
    rw [if_neg (Nat.ne_of_gt later), engine?, engine?, hlonger, hshorter]

theorem engine?_append_of_some (present : workshop.engine? number = some engine)
    (slot : Option (Engine V)) (tables : List (Nat × SharedTable)) :
    (Workshop.mk (workshop.engines ++ [slot]) tables).engine? number = some engine := by
  have inRange := lt_length_of_engine? present
  rw [engine?_append, if_neg (Nat.ne_of_lt inRange), present]

theorem of_engine?_append {slot : Option (Engine V)} {tables : List (Nat × SharedTable)}
    (hengine : (Workshop.mk (workshop.engines ++ [slot]) tables).engine? number = some engine) :
    number = workshop.engines.length ∧ slot = some engine ∨
      workshop.engine? number = some engine := by
  rw [engine?_append] at hengine
  by_cases last : number = workshop.engines.length
  · rw [if_pos last] at hengine
    exact .inl ⟨last, hengine⟩
  · rw [if_neg last] at hengine
    exact .inr hengine

theorem of_addEngine_shared {number : Nat} {set : VisitorSet V} {later : Workshop V}
    (hadd : workshop.addEngine (.shared number) set = .ok later) :
    ∃ held traverser, later = ⟨workshop.engines ++ [some (.shared number traverser)],
      (workshop.setTable number held).tables⟩ := by
  cases hbuilt : Traverser.cachedShared set (workshop.table number) with
  | error error => simp [addEngine, hbuilt, Except.map] at hadd
  | ok traverser =>
      simp only [addEngine, hbuilt, Except.map, Except.ok.injEq] at hadd
      exact ⟨traverser.dispatch.table, _, hadd.symm⟩

theorem of_addEngine {mode : EngineMode} {set : VisitorSet V} {later : Workshop V}
    (hadd : workshop.addEngine mode set = .ok later) :
    ∃ engine tables, later = ⟨workshop.engines ++ [some engine], tables⟩ := by
  cases mode with
  | naive => exact ⟨_, _, (Except.ok.inj hadd).symm⟩
  | cached => exact ⟨_, _, (Except.ok.inj hadd).symm⟩
  | shared number =>
      obtain ⟨held, traverser, hlater⟩ := of_addEngine_shared hadd
      exact ⟨_, _, hlater⟩

private theorem lookup_filter_of_ne {number other : Nat} (different : other ≠ number)
    (tables : List (Nat × SharedTable)) :
    (tables.filter (·.1 != number)).lookup other = tables.lookup other := by
  induction tables with
  | nil => rfl
  | cons entry rest ih =>
      obtain ⟨key, table⟩ := entry
      by_cases same : key = number
      · have hother : (other == key) = false := by simpa [same] using different
        rw [List.filter_cons_of_neg (by simp [same]), ih, List.lookup_cons, hother]
      · rw [List.filter_cons_of_pos (by simp [same]), List.lookup_cons, List.lookup_cons, ih]

theorem table_setTable (workshop : Workshop V) (number other : Nat) (table : SharedTable) :
    (workshop.setTable number table).table other =
      if other = number then table else workshop.table other := by
  by_cases same : other = number
  · simp [Workshop.table, setTable, same]
  · have hnumber : (other == number) = false := by simpa using same
    simp only [Workshop.table, setTable, List.lookup_cons, hnumber, lookup_filter_of_ne same,
      same, if_false]

theorem table_setTable_self (workshop : Workshop V) (number : Nat) (table : SharedTable) :
    (workshop.setTable number table).table number = table := by
  rw [table_setTable, if_pos rfl]

theorem table_setTable_of_ne {number other : Nat} (different : other ≠ number)
    (workshop : Workshop V) (table : SharedTable) :
    (workshop.setTable number table).table other = workshop.table other := by
  rw [table_setTable, if_neg different]

end Workshop

/-! ## What a request changes -/

namespace Workshop

variable {workshop : Workshop V}

inductive AfterRequest (workshop : Workshop V) (number : Nat) : Workshop V → Prop
  | same : AfterRequest workshop number workshop
  | naive {traverser : Traverser V NaiveDispatch}
      (hengine : workshop.engine? number = some (.naive traverser))
      (after : Traverser V NaiveDispatch) :
      AfterRequest workshop number (workshop.setEngine number (.naive after))
  | cached {traverser : Traverser V CachedDispatch}
      (hengine : workshop.engine? number = some (.cached traverser))
      (after : Traverser V CachedDispatch) :
      AfterRequest workshop number (workshop.setEngine number (.cached after))
  | reset {table : Nat} {traverser : Traverser V CachedDispatch}
      (hengine : workshop.engine? number = some (.shared table traverser)) :
      AfterRequest workshop number
        (workshop.setEngine number (.shared table traverser.resetCounters))
  | shared {table : Nat} {traverser : Traverser V CachedDispatch}
      (hengine : workshop.engine? number = some (.shared table traverser))
      (after : Traverser V SharedDispatch)
      (sound : ∀ rules, LawfulDispatch.Sound rules (workshop.plugged table traverser).dispatch →
        LawfulDispatch.Sound rules after.dispatch) :
      AfterRequest workshop number (workshop.unplug number table after)

private theorem afterRequest_session (hooks : Hooks V S) (depth : Nat) {number : Nat}
    {forests : List Forest} {state : S} {result : Outcome S × Workshop V}
    (hsession : workshop.traverseAll? hooks depth number forests state = some result) :
    AfterRequest workshop number result.2 := by
  unfold traverseAll? at hsession
  obtain ⟨engine, hengine, hsession⟩ := Option.bind_eq_some_iff.mp hsession
  cases engine with
  | naive traverser =>
      obtain ⟨session, -, hresult⟩ := Option.bind_eq_some_iff.mp hsession
      obtain rfl := Option.some.inj hresult
      exact .naive hengine session.traverser
  | cached traverser =>
      obtain ⟨session, -, hresult⟩ := Option.bind_eq_some_iff.mp hsession
      obtain rfl := Option.some.inj hresult
      exact .cached hengine session.traverser
  | shared table traverser =>
      obtain ⟨session, hshared, hresult⟩ := Option.bind_eq_some_iff.mp hsession
      obtain rfl := Option.some.inj hresult
      exact .shared hengine session.traverser fun rules sound =>
        Traverser.sound_traverseAll hooks depth sound hshared

theorem afterRequest_ask (hooks : Hooks V S) (depth : Nat) (workshop : Workshop V) (number : Nat)
    (request : Request S) :
    AfterRequest workshop number (workshop.perform hooks depth (.ask number request)).2 := by
  cases hengine : workshop.engine? number with
  | none =>
      simp only [perform, hengine]
      exact .same
  | some engine =>
      cases request with
      | session forests state =>
          cases hsession : workshop.traverseAll? hooks depth number forests state with
          | none =>
              simp only [perform, hengine, hsession]
              exact .same
          | some result =>
              simp only [perform, hengine, hsession]
              exact afterRequest_session hooks depth hsession
      | lookUp kind =>
          cases engine with
          | naive traverser =>
              simp only [perform, hengine, resolve?]
              exact .naive hengine _
          | cached traverser =>
              simp only [perform, hengine, resolve?]
              exact .cached hengine _
          | shared table traverser =>
              simp only [perform, hengine, resolve?]
              exact .shared hengine _ fun rules sound => LawfulDispatch.sound_resolve sound kind
      | resetCounters =>
          cases engine with
          | naive traverser =>
              simp only [perform, hengine, resetCounters]
              exact .naive hengine _
          | cached traverser =>
              simp only [perform, hengine, resetCounters]
              exact .cached hengine _
          | shared table traverser =>
              simp only [perform, hengine, resetCounters]
              exact .reset hengine

theorem AfterRequest.engine?_of_ne {number other : Nat} {later : Workshop V}
    (after : workshop.AfterRequest number later) (different : other ≠ number) :
    later.engine? other = workshop.engine? other := by
  cases after with
  | same => rfl
  | naive | cached | reset | shared => exact engine?_setEngine_of_ne different _ _

theorem AfterRequest.length_engines {number : Nat} {later : Workshop V}
    (after : workshop.AfterRequest number later) :
    later.engines.length = workshop.engines.length := by
  cases after with
  | same => rfl
  | naive | cached | reset | shared => simp [unplug, setEngine, setTable]

end Workshop

end KindDispatch
