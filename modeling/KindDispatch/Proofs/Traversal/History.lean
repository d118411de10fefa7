import KindDispatch.Proofs.Traversal.Depth
import KindDispatch.Proofs.Traversal.Requests
import KindDispatch.Traversal.Script

/-!
# Histories of engines

A history is a list of commands.  A `Room` answers the requests to one engine without the engine: it
has a rule list and visitors, and its sessions are plain walks.

An engine answers as the room with its rules and visitors does (`Hosts.answersTo`), whatever is asked
of other engines before and meanwhile, as long as all engines bound to its table, if it shares one,
have its rules.  The room does not know how the engine dispatches, so nobody who only sees the
answers does.
-/

namespace KindDispatch

variable {V S : Type}

/-! ## Histories -/

namespace Command

def isBuild : Command V S → Bool
  | build .. => true
  | ask .. => false

def requestTo? (number : Nat) : Command V S → Option (Request S)
  | build .. => none
  | ask other request => if other = number then some request else none

def putsTo (table : Nat) : Command V S → Bool
  | build (.shared other) _ => other == table
  | _ => false

/-- The command puts no other rules to a table; a table that is in use refuses another number of
rules, so that much may be tried. -/
def Obeys (table : Nat) (rules : List Applicability) (inUse : Bool) : Command V S → Prop
  | build (.shared other) set =>
    other = table → set.rules = rules ∨ inUse = true ∧ set.rules.length ≠ rules.length
  | _ => True

end Command

/-- The engines that a history binds to a table all have one rule list. -/
def OneRuleList (table : Nat) (rules : List Applicability) : Bool → List (Command V S) → Prop
  | _, [] => True
  | inUse, command :: rest =>
    command.Obeys table rules inUse ∧ OneRuleList table rules (inUse || command.putsTo table) rest

/-- If engines of the mode share a table, those of the history all have one rule list. -/
def EngineMode.OneRuleList (mode : EngineMode) (rules : List Applicability)
    (history : List (Command V S)) : Prop :=
  ∀ table, mode = .shared table → KindDispatch.OneRuleList table rules false history

def engineCount (history : List (Command V S)) : Nat := history.countP Command.isBuild

def requestsTo (number : Nat) (history : List (Command V S)) : List (Request S) :=
  history.filterMap (Command.requestTo? number)

namespace Workshop

def after (hooks : Hooks V S) (depth : Nat) (workshop : Workshop V)
    (history : List (Command V S)) : Workshop V :=
  history.foldl (fun workshop command => (workshop.perform hooks depth command).2) workshop

def answersTo (hooks : Hooks V S) (depth number : Nat) :
    Workshop V → List (Command V S) → List (Answer V S)
  | _, [] => []
  | workshop, command :: rest =>
    let (answer, workshop) := workshop.perform hooks depth command
    match command.requestTo? number with
    | none => answersTo hooks depth number workshop rest
    | some _ => answer :: answersTo hooks depth number workshop rest

end Workshop

/-! ## Depth bounds -/

def Answer.isUnfinished : Answer V S → Bool
  | unfinished => true
  | _ => false

namespace Workshop

def Ends (hooks : Hooks V S) (depth : Nat) : Workshop V → List (Command V S) → Prop
  | _, [] => True
  | workshop, command :: rest =>
    let (answer, workshop) := workshop.perform hooks depth command
    answer.isUnfinished = false ∧ Ends hooks depth workshop rest

theorem perform_mono (hooks : Hooks V S) {depth depth' : Nat} (h : depth ≤ depth')
    {workshop : Workshop V} {command : Command V S}
    (ends : (workshop.perform hooks depth command).1.isUnfinished = false) :
    workshop.perform hooks depth' command = workshop.perform hooks depth command := by
  cases command with
  | build mode set => rfl
  | ask number request =>
      cases hengine : workshop.engine? number with
      | none => simp only [perform, hengine]
      | some engine =>
          cases request with
          | lookUp kind => simp only [perform, hengine]
          | resetCounters => simp only [perform, hengine]
          | session forests state =>
              cases hsession : workshop.traverseAll? hooks depth number forests state with
              | none => simp [perform, hengine, hsession, Answer.isUnfinished] at ends
              | some result =>
                  simp only [perform, hengine, hsession, traverseAll?_mono hooks h hsession]

theorem answersTo_mono (hooks : Hooks V S) {depth depth' : Nat} (h : depth ≤ depth') (number : Nat)
    {workshop : Workshop V} {history : List (Command V S)}
    (ends : workshop.Ends hooks depth history) :
    workshop.answersTo hooks depth' number history =
        workshop.answersTo hooks depth number history ∧
      workshop.after hooks depth' history = workshop.after hooks depth history := by
  induction history generalizing workshop with
  | nil => exact ⟨rfl, rfl⟩
  | cons command rest ih =>
      have hcommand := perform_mono hooks h ends.1
      have hrest : (workshop.perform hooks depth command).2.Ends hooks depth rest := ends.2
      obtain ⟨hanswers, hafter⟩ := ih hrest
      refine ⟨?_, ?_⟩
      · simp only [answersTo, hcommand, hanswers]
      · simp only [after, List.foldl_cons, hcommand] at hafter ⊢
        exact hafter

end Workshop

/-! ## Rooms -/

structure Room (V : Type) where
  rules : List Applicability
  visitors : Array V

namespace Room

def ofSet (set : VisitorSet V) : Room V := ⟨set.rules, set.visitors.toArray⟩

def reply (hooks : Hooks V S) (depth : Nat) (room : Room V) : Request S → Answer V S × Room V
  | .session forests state =>
    match Plain.session? hooks depth room.rules room.visitors forests state with
    | none => (.unfinished, room)
    | some (outcome, visitors) => (.session outcome visitors, { room with visitors })
  | .lookUp kind => (.indices (applicable room.rules kind), room)
  | .resetCounters => (.reset, room)

def replies (hooks : Hooks V S) (depth : Nat) : Room V → List (Request S) → List (Answer V S)
  | _, [] => []
  | room, request :: rest =>
    let (answer, room) := room.reply hooks depth request
    answer :: replies hooks depth room rest

@[simp] theorem rules_reply (hooks : Hooks V S) (depth : Nat) (room : Room V)
    (request : Request S) : (room.reply hooks depth request).2.rules = room.rules := by
  cases request with
  | session forests state =>
      cases hsession : Plain.session? hooks depth room.rules room.visitors forests state <;>
        simp [reply, hsession]
  | lookUp kind => rfl
  | resetCounters => rfl

end Room

/-! ## Tables used with one rule list -/

namespace Workshop

variable {workshop : Workshop V} {rules : List Applicability} {table : Nat} {inUse : Bool}

/-- A table, in use or not, and the engines bound to it all answer by one rule list. -/
structure Uniform (rules : List Applicability) (table : Nat) (inUse : Bool)
    (workshop : Workshop V) : Prop where
  common : (workshop.table table).Sound rules
  count : inUse = true → (workshop.table table).visitorCount = some rules.length
  engines : ∀ number traverser, workshop.engine? number = some (.shared table traverser) →
    inUse = true ∧ traverser.dispatch.Sound rules

namespace Uniform

private theorem empty : Uniform rules table false (.empty : Workshop V) :=
  ⟨SharedTable.sound_empty rules, nofun, by simp [engine?, Workshop.empty]⟩

private theorem plugged (uniform : workshop.Uniform rules table inUse) {number : Nat}
    {traverser : Traverser V CachedDispatch}
    (hengine : workshop.engine? number = some (.shared table traverser)) :
    (workshop.plugged table traverser).dispatch.Sound rules := by
  obtain ⟨hinUse, sound⟩ := uniform.engines number traverser hengine
  exact ⟨sound, uniform.common, uniform.count hinUse⟩

theorem setEngine (uniform : workshop.Uniform rules table inUse) {number : Nat}
    {engine engine' : Engine V} (present : workshop.engine? number = some engine')
    (sound : ∀ traverser, engine = .shared table traverser →
      inUse = true ∧ traverser.dispatch.Sound rules) :
    (workshop.setEngine number engine).Uniform rules table inUse := by
  refine ⟨uniform.common, uniform.count, fun other traverser hother => ?_⟩
  by_cases same : other = number
  · subst same
    rw [engine?_setEngine_self present] at hother
    exact sound traverser (Option.some.inj hother)
  · rw [engine?_setEngine_of_ne same] at hother
    exact uniform.engines other traverser hother

theorem setTable (uniform : workshop.Uniform rules table inUse) {held : SharedTable}
    (sound : held.Sound rules) (count : held.visitorCount = some rules.length) :
    (workshop.setTable table held).Uniform rules table true := by
  have hheld := workshop.table_setTable_self table held
  refine ⟨by rwa [hheld], fun _ => by rwa [hheld], fun other traverser hother => ?_⟩
  exact ⟨rfl, (uniform.engines other traverser hother).2⟩

theorem setTable_of_ne (uniform : workshop.Uniform rules table inUse) {number : Nat}
    (different : number ≠ table) (held : SharedTable) :
    (workshop.setTable number held).Uniform rules table inUse := by
  have hheld := table_setTable_of_ne different.symm workshop held
  exact ⟨by rw [hheld]; exact uniform.common, by rw [hheld]; exact uniform.count, uniform.engines⟩

theorem append (uniform : workshop.Uniform rules table inUse) {slot : Option (Engine V)}
    (sound : ∀ traverser, slot = some (.shared table traverser) →
      inUse = true ∧ traverser.dispatch.Sound rules) :
    (Workshop.mk (workshop.engines ++ [slot]) workshop.tables).Uniform rules table inUse := by
  refine ⟨uniform.common, uniform.count, fun number traverser hnumber => ?_⟩
  rcases of_engine?_append hnumber with ⟨-, added⟩ | earlier
  · exact sound traverser added
  · exact uniform.engines number traverser earlier

/-! ### What a command does to a table -/

theorem afterRequest (uniform : workshop.Uniform rules table inUse) {number : Nat}
    {later : Workshop V} (after : workshop.AfterRequest number later) :
    later.Uniform rules table inUse := by
  cases after with
  | same => exact uniform
  | naive hengine later => exact uniform.setEngine hengine (by simp)
  | cached hengine later => exact uniform.setEngine hengine (by simp)
  | @reset other traverser hengine =>
      refine uniform.setEngine hengine fun reset hreset => ?_
      obtain ⟨rfl, rfl⟩ := Engine.shared.inj hreset
      obtain ⟨hinUse, sound⟩ := uniform.engines number traverser hengine
      exact ⟨hinUse, sound.rules_eq, sound.memo⟩
  | @shared other traverser hengine later keeps =>
      by_cases same : other = table
      · -- the request worked on this very table, which is in use because the engine is bound to it
        subst same
        obtain ⟨rfl, -⟩ := uniform.engines number traverser hengine
        have sound : later.dispatch.Sound rules := keeps rules (uniform.plugged hengine)
        refine (uniform.setTable sound.table sound.bound).setEngine hengine fun put hput => ?_
        obtain ⟨-, rfl⟩ := Engine.shared.inj hput
        exact ⟨rfl, sound.cached⟩
      · refine (uniform.setTable_of_ne same _).setEngine hengine fun put hput => ?_
        exact absurd (Engine.shared.inj hput).1 same

theorem addShared (uniform : workshop.Uniform rules table inUse) {set : VisitorSet V}
    (same : set.rules = rules) :
    ∃ later, workshop.addEngine (.shared table) set = .ok later ∧
      later.Uniform rules table true ∧
      later.engine? workshop.engines.length =
        some (.shared table ⟨set.visitors.toArray, .ofRules rules⟩) := by
  obtain ⟨bound, hbind, sound⟩ := uniform.common.bind
  have hadd : workshop.addEngine (.shared table) set =
      .ok ⟨workshop.engines ++ [some (.shared table ⟨set.visitors.toArray, .ofRules rules⟩)],
        (workshop.setTable table bound).tables⟩ := by
    simp only [addEngine, Traverser.cachedShared, SharedDispatch.ofRules, same, hbind, Except.map]
    rfl
  refine ⟨_, hadd, ?_, by simp [engine?]⟩
  refine (uniform.setTable sound (SharedTable.visitorCount_bind hbind)).append fun put hput => ?_
  obtain ⟨-, rfl⟩ := Engine.shared.inj (Option.some.inj hput)
  exact ⟨rfl, CachedDispatch.sound_ofRules rules⟩

private theorem addShared_refused (uniform : workshop.Uniform rules table true) {set : VisitorSet V}
    (different : set.rules.length ≠ rules.length) :
    workshop.addEngine (.shared table) set =
      .error (.sharedTableMismatch rules.length set.rules.length) := by
  have hbind : (workshop.table table).bind set.rules.length =
      .error (.sharedTableMismatch rules.length set.rules.length) := by
    simp only [SharedTable.bind, uniform.count rfl, different.symm, if_false]
  simp only [addEngine, Traverser.cachedShared, SharedDispatch.ofRules, hbind, Except.map]

private theorem addShared_of_ne (uniform : workshop.Uniform rules table inUse) {other : Nat}
    (different : other ≠ table) {set : VisitorSet V} {later : Workshop V}
    (hadd : workshop.addEngine (.shared other) set = .ok later) :
    later.Uniform rules table inUse := by
  obtain ⟨held, traverser, rfl⟩ := of_addEngine_shared hadd
  refine (uniform.setTable_of_ne different held).append fun put hput => ?_
  exact absurd (Engine.shared.inj (Option.some.inj hput)).1 different

theorem perform (uniform : workshop.Uniform rules table inUse) (hooks : Hooks V S) (depth : Nat)
    {command : Command V S} (obeys : command.Obeys table rules inUse) :
    (workshop.perform hooks depth command).2.Uniform rules table
      (inUse || command.putsTo table) := by
  cases command with
  | ask number request =>
      simp only [Command.putsTo, Bool.or_false]
      exact uniform.afterRequest (afterRequest_ask hooks depth workshop number request)
  | build mode set =>
      cases mode with
      | naive =>
          simp only [Command.putsTo, Bool.or_false]
          exact uniform.append (by simp)
      | cached =>
          simp only [Command.putsTo, Bool.or_false]
          exact uniform.append (by simp)
      | shared other =>
          by_cases same : other = table
          · subst same
            simp only [Command.putsTo, beq_self_eq_true, Bool.or_true]
            rcases obeys rfl with same | ⟨rfl, different⟩
            · obtain ⟨later, hadd, uniform', -⟩ := uniform.addShared same
              simp only [Workshop.perform, hadd]
              exact uniform'
            · simp only [Workshop.perform, uniform.addShared_refused different]
              exact uniform.append (by simp)
          · have elsewhere : (other == table) = false := by simpa using same
            simp only [Command.putsTo, elsewhere, Bool.or_false, Workshop.perform]
            cases hadd : workshop.addEngine (.shared other) set with
            | error error => exact uniform.append (by simp)
            | ok later => exact uniform.addShared_of_ne same hadd

theorem after (uniform : workshop.Uniform rules table inUse) (hooks : Hooks V S) (depth : Nat)
    {history rest : List (Command V S)} (obeys : OneRuleList table rules inUse (history ++ rest)) :
    ∃ inUse', (workshop.after hooks depth history).Uniform rules table inUse' ∧
      OneRuleList table rules inUse' rest := by
  induction history generalizing workshop inUse with
  | nil => exact ⟨inUse, uniform, obeys⟩
  | cons command history ih => exact ih (uniform.perform hooks depth obeys.1) obeys.2

end Uniform

/-! ## Numbers of engines -/

private theorem length_perform (hooks : Hooks V S) (depth : Nat) (workshop : Workshop V)
    (command : Command V S) :
    (workshop.perform hooks depth command).2.engines.length =
      workshop.engines.length + [command].countP Command.isBuild := by
  cases command with
  | ask number request =>
      have same := (afterRequest_ask hooks depth workshop number request).length_engines
      simpa [Command.isBuild] using same
  | build mode set =>
      cases hadd : workshop.addEngine mode set with
      | error error => simp [perform, hadd, addFailed, Command.isBuild]
      | ok later =>
          obtain ⟨engine, tables, rfl⟩ := of_addEngine hadd
          simp [perform, hadd, Command.isBuild]

private theorem length_after (hooks : Hooks V S) (depth : Nat) (workshop : Workshop V)
    (history : List (Command V S)) :
    (workshop.after hooks depth history).engines.length =
      workshop.engines.length + engineCount history := by
  induction history generalizing workshop with
  | nil => rfl
  | cons command rest ih =>
      have hcount : engineCount (command :: rest) =
          [command].countP Command.isBuild + engineCount rest := by
        simp [engineCount, List.countP_cons, Nat.add_comm]
      simp only [after, List.foldl_cons] at ih ⊢
      rw [ih, length_perform, hcount, Nat.add_assoc]

end Workshop

/-! ## An engine answers as its room does -/

inductive Engine.Serves : Engine V → EngineMode → Room V → Prop
  | naive {rules : List Applicability} {traverser : Traverser V NaiveDispatch}
      (sound : LawfulDispatch.Sound rules traverser.dispatch) :
      Serves (.naive traverser) .naive ⟨rules, traverser.visitors⟩
  | cached {rules : List Applicability} {traverser : Traverser V CachedDispatch}
      (sound : LawfulDispatch.Sound rules traverser.dispatch) :
      Serves (.cached traverser) .cached ⟨rules, traverser.visitors⟩
  | shared (table : Nat) (rules : List Applicability) (traverser : Traverser V CachedDispatch) :
      Serves (.shared table traverser) (.shared table) ⟨rules, traverser.visitors⟩

private theorem Engine.Serves.visitors_eq {engine : Engine V} {mode : EngineMode} {room : Room V}
    (serves : engine.Serves mode room) : engine.visitors = room.visitors := by
  cases serves <;> rfl

/-- The engine with a number serves a room; its table, if it shares one, is used with the rules of
the room only. -/
structure Workshop.Hosts (number : Nat) (mode : EngineMode) (room : Room V)
    (workshop : Workshop V) : Prop where
  engine : ∃ engine, workshop.engine? number = some engine ∧ engine.Serves mode room
  uniform : ∀ table, mode = .shared table → workshop.Uniform room.rules table true

namespace Workshop.Hosts

variable {workshop : Workshop V} {number : Nat} {mode : EngineMode} {room : Room V}

private theorem session (hosts : workshop.Hosts number mode room) (hooks : Hooks V S) (depth : Nat)
    (forests : List Forest) (state : S) :
    (workshop.traverseAll? hooks depth number forests state = none ∧
        Plain.session? hooks depth room.rules room.visitors forests state = none) ∨
      ∃ outcome later visitors engine,
        workshop.traverseAll? hooks depth number forests state = some (outcome, later) ∧
        Plain.session? hooks depth room.rules room.visitors forests state =
          some (outcome, visitors) ∧
        later.engine? number = some engine ∧ engine.Serves mode { room with visitors } := by
  obtain ⟨engine, hengine, serves⟩ := hosts.engine
  cases serves with
  | naive sound =>
      rcases Traverser.traverseAll_plain hooks depth sound forests state with
        ⟨hnone, hroom⟩ | ⟨session, hsome, hroom, sound'⟩
      · exact .inl ⟨by simp [traverseAll?, hengine, hnone], hroom⟩
      · exact .inr ⟨_, _, _, _, by simp [traverseAll?, hengine, hsome], hroom,
          engine?_setEngine_self hengine _, .naive sound'⟩
  | cached sound =>
      rcases Traverser.traverseAll_plain hooks depth sound forests state with
        ⟨hnone, hroom⟩ | ⟨session, hsome, hroom, sound'⟩
      · exact .inl ⟨by simp [traverseAll?, hengine, hnone], hroom⟩
      · exact .inr ⟨_, _, _, _, by simp [traverseAll?, hengine, hsome], hroom,
          engine?_setEngine_self hengine _, .cached sound'⟩
  | shared table rules traverser =>
      have plugged : LawfulDispatch.Sound rules (workshop.plugged table traverser).dispatch :=
        (hosts.uniform table rfl).plugged hengine
      rcases Traverser.traverseAll_plain hooks depth plugged forests state with
        ⟨hnone, hroom⟩ | ⟨session, hsome, hroom, -⟩
      · exact .inl ⟨by simp [traverseAll?, hengine, hnone], hroom⟩
      · have serves : Engine.Serves (.shared table ⟨session.traverser.visitors,
            session.traverser.dispatch.cached⟩) (.shared table) ⟨rules, session.traverser.visitors⟩ :=
          .shared table rules _
        exact .inr ⟨_, _, _, _, by simp [traverseAll?, hengine, hsome], hroom,
          engine?_unplug_self hengine table session.traverser, serves⟩

private theorem lookUp (hosts : workshop.Hosts number mode room) (kind : Kind) :
    ∃ later engine, workshop.resolve? number kind = some (applicable room.rules kind, later) ∧
      later.engine? number = some engine ∧ engine.Serves mode room := by
  obtain ⟨engine, hengine, serves⟩ := hosts.engine
  cases serves with
  | @naive rules traverser sound =>
      have serves : Engine.Serves (.naive (traverser.resolve kind).2) .naive
          ⟨rules, traverser.visitors⟩ := .naive (LawfulDispatch.sound_resolve sound kind)
      refine ⟨_, _, ?_, engine?_setEngine_self hengine _, serves⟩
      simp [resolve?, hengine, Traverser.resolve, LawfulDispatch.resolve_fst sound]
  | @cached rules traverser sound =>
      have serves : Engine.Serves (.cached (traverser.resolve kind).2) .cached
          ⟨rules, traverser.visitors⟩ := .cached (LawfulDispatch.sound_resolve sound kind)
      refine ⟨_, _, ?_, engine?_setEngine_self hengine _, serves⟩
      simp [resolve?, hengine, Traverser.resolve, LawfulDispatch.resolve_fst sound]
  | shared table rules traverser =>
      have plugged : LawfulDispatch.Sound rules (workshop.plugged table traverser).dispatch :=
        (hosts.uniform table rfl).plugged hengine
      have serves : Engine.Serves (.shared table ⟨traverser.visitors,
          ((workshop.plugged table traverser).resolve kind).2.dispatch.cached⟩) (.shared table)
          ⟨rules, traverser.visitors⟩ := .shared table rules _
      refine ⟨_, _, ?_, engine?_unplug_self hengine table
        ((workshop.plugged table traverser).resolve kind).2, serves⟩
      simp [resolve?, hengine, Traverser.resolve, LawfulDispatch.resolve_fst plugged]

private theorem resetCounters (hosts : workshop.Hosts number mode room) :
    ∃ engine, (workshop.resetCounters number).engine? number = some engine ∧
      engine.Serves mode room := by
  obtain ⟨engine, hengine, serves⟩ := hosts.engine
  unfold Workshop.resetCounters
  rw [hengine]
  cases serves with
  | naive sound =>
      exact ⟨_, engine?_setEngine_self hengine _, .naive (LawfulDispatch.sound_resetCounters sound)⟩
  | cached sound =>
      exact ⟨_, engine?_setEngine_self hengine _,
        .cached (LawfulDispatch.sound_resetCounters sound)⟩
  | shared table rules traverser =>
      exact ⟨_, engine?_setEngine_self hengine _, .shared table rules traverser.resetCounters⟩

theorem ask (hosts : workshop.Hosts number mode room) (hooks : Hooks V S) (depth : Nat)
    (request : Request S) :
    (workshop.perform hooks depth (.ask number request)).1 = (room.reply hooks depth request).1 ∧
      (workshop.perform hooks depth (.ask number request)).2.Hosts number mode
        (room.reply hooks depth request).2 := by
  have uniform : ∀ table, mode = .shared table →
      (workshop.perform hooks depth (.ask number request)).2.Uniform
        (room.reply hooks depth request).2.rules table true := by
    intro table hmode
    rw [Room.rules_reply]
    exact (hosts.uniform table hmode).afterRequest
      (afterRequest_ask hooks depth workshop number request)
  -- what happens to the table is known; left are the answer and the engine itself
  suffices answer : (workshop.perform hooks depth (.ask number request)).1 =
        (room.reply hooks depth request).1 ∧
      ∃ engine, (workshop.perform hooks depth (.ask number request)).2.engine? number =
        some engine ∧ engine.Serves mode (room.reply hooks depth request).2 from
    ⟨answer.1, answer.2, uniform⟩
  obtain ⟨engine, hengine, serves⟩ := hosts.engine
  cases request with
  | session forests state =>
      rcases hosts.session hooks depth forests state with
        ⟨hnone, hroom⟩ | ⟨outcome, later, visitors, engine', hsome, hroom, hengine', serves'⟩
      · simp only [perform, Room.reply, hengine, hnone, hroom, true_and]
        exact ⟨engine, rfl, serves⟩
      · simp only [perform, Room.reply, hengine, hsome, hroom, hengine', Option.map_some,
          Option.getD_some, serves'.visitors_eq, true_and]
        exact ⟨engine', rfl, serves'⟩
  | lookUp kind =>
      obtain ⟨later, engine', hlookUp, hengine', serves'⟩ := hosts.lookUp kind
      simp only [perform, Room.reply, hengine, hlookUp, true_and]
      exact ⟨engine', hengine', serves'⟩
  | resetCounters =>
      simp only [perform, Room.reply, hengine, true_and]
      exact hosts.resetCounters

theorem other (hosts : workshop.Hosts number mode room) (hooks : Hooks V S) (depth : Nat)
    {command : Command V S} (elsewhere : command.requestTo? number = none)
    (obeys : ∀ table, mode = .shared table → command.Obeys table room.rules true) :
    (workshop.perform hooks depth command).2.Hosts number mode room := by
  refine ⟨?_, fun table hmode => ?_⟩
  · obtain ⟨engine, hengine, serves⟩ := hosts.engine
    refine ⟨engine, ?_, serves⟩
    cases command with
    | ask asked request =>
        have different : number ≠ asked := by
          rintro rfl
          simp [Command.requestTo?] at elsewhere
        rw [(afterRequest_ask hooks depth workshop asked request).engine?_of_ne different, hengine]
    | build mode' set =>
        cases hadd : workshop.addEngine mode' set with
        | error error =>
            simp only [perform, hadd]
            exact engine?_append_of_some hengine none workshop.tables
        | ok later =>
            obtain ⟨built, tables, rfl⟩ := of_addEngine hadd
            simp only [perform, hadd]
            exact engine?_append_of_some hengine (some built) tables
  · simpa using (hosts.uniform table hmode).perform hooks depth (obeys table hmode)

theorem answersTo (hosts : workshop.Hosts number mode room) (hooks : Hooks V S) (depth : Nat)
    {history : List (Command V S)}
    (obeys : ∀ table, mode = .shared table → OneRuleList table room.rules true history) :
    workshop.answersTo hooks depth number history =
      room.replies hooks depth (requestsTo number history) := by
  induction history generalizing workshop room with
  | nil => rfl
  | cons command rest ih =>
      have obeysRest : ∀ table, mode = .shared table → OneRuleList table room.rules true rest :=
        fun table hmode => (obeys table hmode).2
      -- the room moves with the requests to its engine and stays as it is otherwise
      cases hrequest : command.requestTo? number with
      | none =>
          have hosts' := hosts.other hooks depth hrequest fun table hmode => (obeys table hmode).1
          simp only [Workshop.answersTo, hrequest, requestsTo, List.filterMap_cons]
          exact ih hosts' obeysRest
      | some request =>
          obtain rfl : command = .ask number request := by
            cases command with
            | build mode' set => simp [Command.requestTo?] at hrequest
            | ask asked request' =>
                simp only [Command.requestTo?] at hrequest
                split at hrequest
                · next same => rw [same, Option.some.inj hrequest]
                · contradiction
          obtain ⟨hanswer, hosts'⟩ := hosts.ask hooks depth request
          simp only [Workshop.answersTo, hrequest, requestsTo, List.filterMap_cons, Room.replies,
            hanswer]
          rw [ih hosts' (by simpa using obeysRest), requestsTo]

theorem build (set : VisitorSet V) (hooks : Hooks V S) (depth : Nat)
    (uniform : ∀ table, mode = .shared table →
      ∃ inUse, workshop.Uniform set.rules table inUse) :
    (workshop.perform hooks depth (.build mode set)).2.Hosts workshop.engines.length mode
      (.ofSet set) := by
  cases mode with
  | naive =>
      have serves : Engine.Serves (.naive (.naive set)) .naive (.ofSet set) :=
        .naive (NaiveDispatch.sound_ofRules set.rules)
      exact ⟨⟨_, by simp [perform, addEngine, engine?], serves⟩, by simp⟩
  | cached =>
      have serves : Engine.Serves (.cached (.cached set)) .cached (.ofSet set) :=
        .cached (CachedDispatch.sound_ofRules set.rules)
      exact ⟨⟨_, by simp [perform, addEngine, engine?], serves⟩, by simp⟩
  | shared table =>
      obtain ⟨inUse, fits⟩ := uniform table rfl
      obtain ⟨later, hadd, fits', hengine⟩ := fits.addShared rfl
      have serves : Engine.Serves (.shared table ⟨set.visitors.toArray, .ofRules set.rules⟩)
          (.shared table) (.ofSet set) := .shared table set.rules _
      simp only [perform, hadd]
      refine ⟨⟨_, hengine, serves⟩, fun other hmode => ?_⟩
      obtain rfl := EngineMode.shared.inj hmode
      exact fits'

end Workshop.Hosts

def Workshop.answersOf (hooks : Hooks V S) (depth : Nat) (before : List (Command V S))
    (mode : EngineMode) (set : VisitorSet V) (later : List (Command V S)) : List (Answer V S) :=
  (Workshop.empty.after hooks depth (before ++ [.build mode set])).answersTo hooks depth
    (engineCount before) later

theorem Workshop.answersOf_eq (hooks : Hooks V S) (depth : Nat) {before later : List (Command V S)}
    {mode : EngineMode} {set : VisitorSet V}
    (uniform : mode.OneRuleList set.rules (before ++ .build mode set :: later)) :
    answersOf hooks depth before mode set later =
      (Room.ofSet set).replies hooks depth (requestsTo (engineCount before) later) := by
  have bound : ∀ table, mode = .shared table →
      ∃ inUse, (empty.after hooks depth before).Uniform set.rules table inUse ∧
        OneRuleList table set.rules inUse (.build mode set :: later) :=
    fun table hmode => Uniform.empty.after hooks depth (uniform table hmode)
  have hosts := Hosts.build set hooks depth fun table hmode =>
    let ⟨inUse, fits, _⟩ := bound table hmode
    ⟨inUse, fits⟩
  have hnumber : (empty.after hooks depth before).engines.length = engineCount before := by
    simp [length_after, empty]
  rw [hnumber] at hosts
  have obeys : ∀ table, mode = .shared table →
      OneRuleList table (Room.ofSet set).rules true later := by
    rintro table rfl
    obtain ⟨inUse, -, -, obeys⟩ := bound table rfl
    simp only [Command.putsTo, beq_self_eq_true, Bool.or_true] at obeys
    exact obeys
  rw [answersOf, after, List.foldl_append]
  exact hosts.answersTo hooks depth obeys

/--
An engine built from visitors gets the same answers however it dispatches: sessions make the same
calls on the same nodes, leave the same forests, visitors and states of the caller and count the
same totals, and lookups give the same lists.  If all sessions end in one history, they do in the
other.  What other engines are built and asked does not matter, except that engines on a table of
this one have its rules.
-/
theorem answers_same_in_every_mode (hooks : Hooks V S) (set : VisitorSet V)
    {mode mode' : EngineMode} {before later before' later' : List (Command V S)}
    (uniform : mode.OneRuleList set.rules (before ++ .build mode set :: later))
    (uniform' : mode'.OneRuleList set.rules (before' ++ .build mode' set :: later'))
    (same : requestsTo (engineCount before) later = requestsTo (engineCount before') later') :
    (∀ depth, Workshop.answersOf hooks depth before mode set later =
        Workshop.answersOf hooks depth before' mode' set later') ∧
      ((∃ depth, .unfinished ∉ Workshop.answersOf hooks depth before mode set later) ↔
        ∃ depth, .unfinished ∉ Workshop.answersOf hooks depth before' mode' set later') := by
  have answers : ∀ depth, Workshop.answersOf hooks depth before mode set later =
      Workshop.answersOf hooks depth before' mode' set later' := by
    intro depth
    calc Workshop.answersOf hooks depth before mode set later
        = (Room.ofSet set).replies hooks depth (requestsTo (engineCount before) later) :=
          Workshop.answersOf_eq hooks depth uniform
      _ = (Room.ofSet set).replies hooks depth (requestsTo (engineCount before') later') := by
          rw [same]
      _ = Workshop.answersOf hooks depth before' mode' set later' :=
          (Workshop.answersOf_eq hooks depth uniform').symm
  exact ⟨answers, by simp only [answers]⟩

section Rekinded

open Script

/-- Two sessions that turn functions into structs, with a reset between them. -/
def rekindingSessions (number : Nat) : List (Command ScriptedVisitor Unit) :=
  [.ask number (.session [[.ofKind .function, .ofKind .struct]] ()), .ask number .resetCounters,
    .ask number (.session [[.ofKind .function]] ())]

/-- Another engine on table 0, and a lookup of the kind that nodes of the sessions will get. -/
def rekindingBefore : List (Command ScriptedVisitor Unit) :=
  [.build (.shared 0) rekinding, .ask 0 (.lookUp .struct)]

theorem answers_same_in_every_mode_rekinded :
    (Workshop.answersOf (ScriptedVisitor.hooks Unit) 2 [] .naive rekinding (rekindingSessions 0) =
        Workshop.answersOf (ScriptedVisitor.hooks Unit) 2 rekindingBefore (.shared 0) rekinding
          (.ask 0 (.lookUp .function) :: rekindingSessions 1)) ∧
      ∃ depth, .unfinished ∉ Workshop.answersOf (ScriptedVisitor.hooks Unit) depth rekindingBefore
        (.shared 0) rekinding (.ask 0 (.lookUp .function) :: rekindingSessions 1) := by
  have uniform : (EngineMode.shared 0).OneRuleList rekinding.rules
      (rekindingBefore ++ .build (.shared 0) rekinding ::
        .ask 0 (.lookUp .function) :: rekindingSessions 1) := by
    intro table hmode
    obtain rfl := EngineMode.shared.inj hmode
    simp [rekindingBefore, rekindingSessions, OneRuleList, Command.Obeys]
  have alone : EngineMode.naive.OneRuleList rekinding.rules
      ([] ++ .build .naive rekinding :: rekindingSessions 0) := nofun
  obtain ⟨answers, ends⟩ := answers_same_in_every_mode (ScriptedVisitor.hooks Unit) rekinding
    alone uniform rfl
  have finished : ((Workshop.answersOf (ScriptedVisitor.hooks Unit) 2 [] .naive rekinding
      (rekindingSessions 0)).any Answer.isUnfinished) = false := by decide +kernel
  refine ⟨answers 2, ends.mp ⟨2, fun stuck => ?_⟩⟩
  have found := List.any_eq_true (p := Answer.isUnfinished).mpr ⟨Answer.unfinished, stuck, rfl⟩
  rw [finished] at found
  exact Bool.false_ne_true found

end Rekinded

end KindDispatch
