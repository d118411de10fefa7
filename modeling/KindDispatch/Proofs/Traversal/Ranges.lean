import KindDispatch.Proofs.Bench.Concurrent
import KindDispatch.Proofs.Dispatch.Bounded
import KindDispatch.Proofs.Dispatch.Lifetime
import KindDispatch.Proofs.Traversal.Effects
import KindDispatch.Proofs.Traversal.History

/-!
# Visitors are never out of range

A walk over a bounded dispatcher finds every visitor it asks for.  Every engine of a history has
one: an engine has as many rules as visitors, and the entries of a table are in range for the number
of visitors the table is bound to, which is that of its first engine (`Workshop.firstCount?`).
-/

namespace KindDispatch

variable {V S D : Type}

/-! ## Walks -/

namespace Owned

variable [Dispatch D] [BoundedDispatch D] {count : Nat}

structure Bounded (count : Nat) (walk : Progress V S × D) : Prop where
  size : walk.1.visitors.size = count
  dispatch : BoundedDispatch.Bounded count walk.2

private theorem leave_bounded (hooks : Hooks V S) (entered : Kind) {indices : List Nat}
    (found : Ascending count indices) (left : Node) {walk : Progress V S × D}
    (bounded : Bounded count walk) :
    Within (Bounded count) (leave hooks entered indices left walk) := by
  obtain ⟨progress, dispatch⟩ := walk
  obtain ⟨size, bounded⟩ := bounded
  have chosen : Ascending count (if left.kind ≠ entered then Dispatch.resolve dispatch left.kind
        else (indices, dispatch)).1 ∧
      BoundedDispatch.Bounded count (if left.kind ≠ entered then
        Dispatch.resolve dispatch left.kind else (indices, dispatch)).2 := by
    by_cases same : left.kind = entered
    · simpa [same] using And.intro found bounded
    · simpa [same] using And.intro (BoundedDispatch.ascending bounded left.kind)
        (BoundedDispatch.bounded_resolve bounded left.kind)
  obtain ⟨step, last, skip, after, hcalls, size⟩ :=
    Progress.callEach_inRange hooks .leave _ chosen.1.below left false size
  simp only [leave, hcalls]
  exact .done step last ⟨size, chosen.2⟩

theorem node_bounded (hooks : Hooks V S) (depth : Nat) (target : Node)
    {walk : Progress V S × D} (bounded : Bounded count walk) :
    Within (Bounded count) (node hooks depth target walk) := by
  induction depth generalizing target walk with
  | zero => exact .tooDeep
  | succ depth ih =>
      obtain ⟨progress, dispatch⟩ := walk
      obtain ⟨size, bounded⟩ := bounded
      have found := BoundedDispatch.ascending bounded target.kind
      have bounded := BoundedDispatch.bounded_resolve bounded target.kind
      have children : ∀ nodes (walk : Progress V S × D), Bounded count walk →
          Within (Bounded count) (Walk.sequence (node hooks depth) [] nodes walk) :=
        fun nodes _ bounded => Walk.sequence_within (fun target _ => ih target) [] nodes bounded
      have counted : progress.countNode.visitors.size = count := size
      obtain ⟨step, entered, skip, after, henter, size⟩ :=
        Progress.callEach_inRange hooks .enter _ found.below target false counted
      simp only [node, henter]
      cases step with
      | remove => exact .done .remove entered ⟨size, bounded⟩
      | stop => exact .done .stop entered ⟨size, bounded⟩
      | keep =>
          simp only
          rcases (Walk.descend_within children skip entered
              (⟨size, bounded⟩ : Bounded count (after, _))).outcomes with
            hdescend | ⟨step, left, walk, hdescend, bounded⟩
          · rw [hdescend]
            exact .tooDeep
          · rw [hdescend]
            cases step with
            | stop => exact .done .stop left bounded
            | keep => exact leave_bounded hooks target.kind found left bounded
            | remove => exact leave_bounded hooks target.kind found left bounded

end Owned

/-- Whatever a traverser is asked next, it does not ask for a visitor that is not there: its lookups
name visitors it has, in order, and no session comes across a slot or visitor out of range. -/
structure Traverser.InRange (S : Type) [Dispatch D] (traverser : Traverser V D) : Prop where
  lookUps : ∀ kinds, ∀ indices ∈ (Dispatch.lookUps traverser.dispatch kinds).1,
    Ascending traverser.visitorCount indices
  sessions : ∀ (hooks : Hooks V S) (depth : Nat) (forests : List Forest) (state : S),
    traverser.traverseAll hooks depth forests state ≠ .error .outOfRange

theorem Traverser.inRange (S : Type) [Dispatch D] [BoundedDispatch D] {traverser : Traverser V D}
    (bounded : BoundedDispatch.Bounded traverser.visitorCount traverser.dispatch) :
    traverser.InRange S := by
  refine ⟨fun kinds => (BoundedDispatch.lookUps bounded kinds).1, ?_⟩
  intro hooks depth forests state
  have within := Walk.forests_within (fun target _ => Owned.node_bounded hooks depth target) forests
    (⟨rfl, bounded⟩ : Owned.Bounded traverser.visitorCount (traverser.start state))
  rw [traverseAll_eq_owned]
  rcases within.outcomes with hwalk | ⟨step, left, walk, hwalk, -⟩
  · rw [hwalk]
    exact nofun
  · rw [hwalk]
    exact nofun

private theorem Traverser.bounded_of_lookUps [Dispatch D] [BoundedDispatch D]
    {before after : Traverser V D}
    (bounded : BoundedDispatch.Bounded before.visitorCount before.dispatch) {kinds : List Kind}
    (went : after.dispatch = (Dispatch.lookUps before.dispatch kinds).2)
    (size : after.visitors.size = before.visitors.size) :
    BoundedDispatch.Bounded after.visitorCount after.dispatch := by
  rw [went, visitorCount, size]
  exact (BoundedDispatch.lookUps bounded kinds).2

instance : BoundedDispatch Replay where
  Bounded count replay := ∀ answer ∈ replay.pending, Ascending count answer.2
  ascending := by
    rintro count ⟨_ | ⟨answer, rest⟩, faithful⟩ bounded kind
    · exact ⟨.nil, by simp [Dispatch.resolve]⟩
    · exact bounded answer List.mem_cons_self
  bounded_resolve := by
    rintro count ⟨_ | ⟨answer, rest⟩, faithful⟩ bounded kind
    · simp [Dispatch.resolve]
    · exact fun other member => bounded other (List.mem_cons_of_mem answer member)

/-! ## Tables of a workshop -/

def Command.countFor? (table : Nat) : Command V S → Option Nat
  | build (.shared other) set => if other = table then some set.size else none
  | _ => none

/-- The number of visitors of the first engine that was to be bound to a table. -/
def firstCount? (table : Nat) (history : List (Command V S)) : Option Nat :=
  history.findSome? (Command.countFor? table)

namespace Workshop

variable {workshop : Workshop V} {table : Nat}

/-- A table is bound by the first command that can, and never again. -/
theorem visitorCount_perform (hooks : Hooks V S) (depth : Nat) (workshop : Workshop V)
    (command : Command V S) (table : Nat) :
    ((workshop.perform hooks depth command).2.table table).visitorCount =
      (workshop.table table).visitorCount.or (command.countFor? table) := by
  have effect := effect_perform hooks depth workshop command
  generalize (workshop.perform hooks depth command).2 = later at effect
  cases effect with
  | naive set => exact (Option.or_none ..).symm
  | cached set => exact (Option.or_none ..).symm
  | @shared other set bound hbind =>
      change ((workshop.setTable other bound).table table).visitorCount = _
      by_cases here : table = other
      · subst here
        rw [table_setTable_self, Command.countFor?, if_pos rfl, SharedTable.visitorCount_bind hbind]
        rcases SharedTable.visitorCount_of_bind hbind with unused | same
        · simp [unused]
        · simp [same]
      · simp [table_setTable_of_ne here, Command.countFor?, Ne.symm here]
  | @refused other set error hbind =>
      change (workshop.table table).visitorCount = _
      by_cases here : other = table
      · subst here
        obtain ⟨expected, count, -, -⟩ := SharedTable.bind_eq_error.mp hbind
        simp [count]
      · simp [Command.countFor?, here]
  | missing => exact (Option.or_none ..).symm
  | @asked number engine request later hengine lookUps asked =>
      refine Eq.trans ?_ (Option.or_none ..).symm
      generalize workshop.kindsOf hooks depth engine request = kinds at asked
      cases asked with
      | nothing | naive | cached => rfl
      | @shared other traverser after kinds went size =>
          by_cases here : table = other
          · subst here
            rw [table_unplug_self, went, SharedDispatch.visitorCount_lookUps]
            rfl
          · rw [table_unplug_of_ne here]
  | reset => exact (Option.or_none ..).symm

private theorem visitorCount_after (hooks : Hooks V S) (depth : Nat) (workshop : Workshop V)
    (history : List (Command V S)) (table : Nat) :
    ((workshop.after hooks depth history).table table).visitorCount =
      (workshop.table table).visitorCount.or (firstCount? table history) := by
  induction history generalizing workshop with
  | nil => exact (Option.or_none ..).symm
  | cons command rest ih =>
      refine (ih (workshop.perform hooks depth command).2).trans ?_
      rw [visitorCount_perform, Option.or_assoc, firstCount?, firstCount?, List.findSome?_cons]
      cases command.countFor? table <;> rfl

/-! ## Engines of a workshop -/

def Retains (workshop later : Workshop V) : Prop :=
  ∀ table count, (workshop.table table).visitorCount = some count →
    (later.table table).visitorCount = some count

theorem retains_perform (hooks : Hooks V S) (depth : Nat) (workshop : Workshop V)
    (command : Command V S) : workshop.Retains (workshop.perform hooks depth command).2 := by
  intro table count bound
  rw [visitorCount_perform, bound, Option.some_or]

theorem retains_after (hooks : Hooks V S) (depth : Nat) (workshop : Workshop V)
    (history : List (Command V S)) : workshop.Retains (workshop.after hooks depth history) := by
  intro table count bound
  rw [visitorCount_after, bound, Option.some_or]

end Workshop

/-- The entries of a table are in range for the number of visitors it is bound to. -/
def SharedTable.Bounded (table : SharedTable) : Prop :=
  ∀ kind entry, table.get? kind = some entry →
    ∃ count, table.visitorCount = some count ∧ Ascending count entry

private theorem SharedTable.bounded_empty : empty.Bounded := by
  intro kind entry known
  simp [get?, empty] at known

theorem SharedTable.Bounded.bind {table bound : SharedTable} (bounded : table.Bounded) {count : Nat}
    (hbind : table.bind count = .ok bound) : bound.Bounded := by
  intro kind entry known
  rw [get?, memo_bind hbind] at known
  obtain ⟨expected, before, ascending⟩ := bounded kind entry known
  rcases visitorCount_of_bind hbind with unused | same
  · rw [unused] at before
    contradiction
  · obtain rfl := Option.some.inj (same.symm.trans before)
    exact ⟨count, visitorCount_bind hbind, ascending⟩

def Engine.Fits (workshop : Workshop V) : Engine V → Prop
  | naive traverser => BoundedDispatch.Bounded traverser.visitorCount traverser.dispatch
  | cached traverser => BoundedDispatch.Bounded traverser.visitorCount traverser.dispatch
  | shared table traverser =>
    BoundedDispatch.Bounded traverser.visitorCount traverser.dispatch ∧
      (workshop.table table).visitorCount = some traverser.visitorCount

private theorem Engine.Fits.retains {workshop later : Workshop V} {engine : Engine V}
    (fits : engine.Fits workshop) (retains : workshop.Retains later) : engine.Fits later := by
  cases engine with
  | naive | cached => exact fits
  | shared table traverser => exact ⟨fits.1, retains table _ fits.2⟩

private theorem Engine.Fits.resetCounters {workshop : Workshop V} {engine : Engine V}
    (fits : engine.Fits workshop) : engine.resetCounters.Fits workshop := by
  cases engine with
  | naive traverser => exact fits
  | cached traverser => exact ⟨fits.rules, fits.memo⟩
  | shared table traverser => exact ⟨⟨fits.1.rules, fits.1.memo⟩, fits.2⟩

private theorem Engine.Fits.ruleCount {workshop : Workshop V} {engine : Engine V}
    (fits : engine.Fits workshop) : engine.ruleCount = engine.visitorCount := by
  cases engine with
  | naive => exact fits
  | cached => exact fits.rules
  | shared => exact fits.1.rules

theorem CachedDispatch.bounded_ofSet (set : VisitorSet V) :
    (ofRules set.rules).Bounded set.visitors.toArray.size := by
  have bounded := bounded_ofRules set.rules
  rwa [set.length_rules, ← set.length_visitors] at bounded

def Engine.InRange (S : Type) (workshop : Workshop V) : Engine V → Prop
  | naive traverser => traverser.InRange S
  | cached traverser => traverser.InRange S
  | shared table traverser => (workshop.plugged table traverser).InRange S

namespace Workshop

variable {workshop : Workshop V}

structure InBounds (workshop : Workshop V) : Prop where
  engines : ∀ number engine, workshop.engine? number = some engine → engine.Fits workshop
  tables : ∀ table, (workshop.table table).Bounded

private theorem inBounds_empty : (empty : Workshop V).InBounds :=
  ⟨by simp [empty, engine?], fun _ => SharedTable.bounded_empty⟩

namespace InBounds

private theorem plugged (inBounds : workshop.InBounds) {table : Nat}
    {traverser : Traverser V CachedDispatch}
    (fits : (Engine.shared table traverser).Fits workshop) :
    BoundedDispatch.Bounded (workshop.plugged table traverser).visitorCount
      (workshop.plugged table traverser).dispatch := by
  refine ⟨fits.1, fun kind entry known => ?_⟩
  obtain ⟨count, bound, ascending⟩ := inBounds.tables table kind entry known
  obtain rfl := Option.some.inj (fits.2.symm.trans bound)
  exact ascending

theorem append (inBounds : workshop.InBounds) {slot : Option (Engine V)}
    {tables : List (Nat × SharedTable)}
    (retains : workshop.Retains ⟨workshop.engines ++ [slot], tables⟩)
    (newborn : ∀ engine, slot = some engine → engine.Fits ⟨workshop.engines ++ [slot], tables⟩)
    (bounded : ∀ table, ((Workshop.mk (workshop.engines ++ [slot]) tables).table table).Bounded) :
    (Workshop.mk (workshop.engines ++ [slot]) tables).InBounds := by
  refine ⟨fun number engine hengine => ?_, bounded⟩
  rcases of_engine?_append hengine with ⟨-, added⟩ | earlier
  · exact newborn engine added
  · exact (inBounds.engines number engine earlier).retains retains

theorem replace (inBounds : workshop.InBounds) {number : Nat} {engine : Engine V}
    {later : Workshop V} (replaces : workshop.Replaces number engine later)
    (retains : workshop.Retains later) (fits : engine.Fits later)
    (bounded : ∀ table, (later.table table).Bounded) : later.InBounds := by
  refine ⟨fun other found hfound => ?_, bounded⟩
  rcases replaces.cases hfound with ⟨-, rfl⟩ | ⟨-, before⟩
  · exact fits
  · exact (inBounds.engines other found before).retains retains

theorem asked (inBounds : workshop.InBounds) {number : Nat} {engine : Engine V}
    (present : workshop.engine? number = some engine) {kinds : List Kind} {later : Workshop V}
    (asked : workshop.Asked number engine kinds later) (retains : workshop.Retains later) :
    later.InBounds := by
  have fits := inBounds.engines number engine present
  cases asked with
  | nothing => exact inBounds
  | naive went size =>
      exact inBounds.replace (replaces_setEngine present _) retains
        (Traverser.bounded_of_lookUps fits went size) inBounds.tables
  | cached went size =>
      exact inBounds.replace (replaces_setEngine present _) retains
        (Traverser.bounded_of_lookUps fits went size) inBounds.tables
  | @shared table traverser after kinds went size =>
      have bounded := Traverser.bounded_of_lookUps (inBounds.plugged fits) went size
      have held := workshop.table_unplug_self number table after
      have count : ((workshop.unplug number table after).table table).visitorCount =
          some after.visitorCount := by
        rw [Traverser.visitorCount, size]
        exact retains table _ fits.2
      refine inBounds.replace (replaces_unplug present table after) retains
        ⟨bounded.cached, count⟩ fun other => ?_
      by_cases here : other = table
      · -- the engine has the number of visitors that the table is bound to, so what it has stored is
        -- in range for every engine on the table
        subst here
        intro kind entry known
        refine ⟨after.visitorCount, count, bounded.table kind entry ?_⟩
        rwa [held] at known
      · rw [table_unplug_of_ne here]
        exact inBounds.tables other

theorem perform (inBounds : workshop.InBounds) (hooks : Hooks V S) (depth : Nat)
    (command : Command V S) : (workshop.perform hooks depth command).2.InBounds := by
  have effect := effect_perform hooks depth workshop command
  have retains := retains_perform hooks depth workshop command
  generalize (workshop.perform hooks depth command).2 = later at effect retains
  cases effect with
  | naive set =>
      refine inBounds.append retains ?_ inBounds.tables
      rintro _ ⟨⟩
      simp [Engine.Fits, Traverser.naive, Traverser.visitorCount, NaiveDispatch.ofRules,
        BoundedDispatch.Bounded]
  | cached set =>
      refine inBounds.append retains ?_ inBounds.tables
      rintro _ ⟨⟩
      exact CachedDispatch.bounded_ofSet set
  | @shared table set bound hbind =>
      have held := workshop.table_setTable_self table bound
      refine inBounds.append retains ?_ fun other => ?_
      · rintro _ ⟨⟩
        refine ⟨CachedDispatch.bounded_ofSet set, ?_⟩
        change ((workshop.setTable table bound).table table).visitorCount = _
        rw [held, SharedTable.visitorCount_bind hbind]
        simp [Traverser.visitorCount]
      · change ((workshop.setTable table bound).table other).Bounded
        by_cases here : other = table
        · subst here
          rw [held]
          exact (inBounds.tables other).bind hbind
        · rw [table_setTable_of_ne here]
          exact inBounds.tables other
  | refused hbind => exact inBounds.append retains (by simp) inBounds.tables
  | missing => exact inBounds
  | asked hengine lookUps asked => exact inBounds.asked hengine asked retains
  | @reset number engine hengine =>
      have fits := (inBounds.engines number engine hengine).resetCounters
      exact inBounds.replace (replaces_setEngine hengine _) retains (fits.retains retains)
        inBounds.tables

theorem after (inBounds : workshop.InBounds) (hooks : Hooks V S) (depth : Nat)
    (history : List (Command V S)) : (workshop.after hooks depth history).InBounds := by
  induction history generalizing workshop with
  | nil => exact inBounds
  | cons command rest ih => exact ih (inBounds.perform hooks depth command)

theorem inRange (inBounds : workshop.InBounds) (S : Type) {number : Nat} {engine : Engine V}
    (present : workshop.engine? number = some engine) : engine.InRange S workshop := by
  have fits := inBounds.engines number engine present
  cases engine with
  | naive traverser => exact Traverser.inRange S fits
  | cached traverser => exact Traverser.inRange S fits
  | shared table traverser => exact Traverser.inRange S (inBounds.plugged fits)

theorem resolve? (inBounds : workshop.InBounds) {number : Nat} {engine : Engine V}
    (present : workshop.engine? number = some engine) (kind : Kind) :
    ∃ indices later, workshop.resolve? number kind = some (indices, later) ∧
      Ascending engine.visitorCount indices := by
  have fits := inBounds.engines number engine present
  cases engine with
  | naive traverser =>
      simp only [Workshop.resolve?, present, Option.bind_eq_bind, Option.bind_some]
      exact ⟨_, _, rfl, BoundedDispatch.ascending fits kind⟩
  | cached traverser =>
      simp only [Workshop.resolve?, present, Option.bind_eq_bind, Option.bind_some]
      exact ⟨_, _, rfl, BoundedDispatch.ascending fits kind⟩
  | shared table traverser =>
      simp only [Workshop.resolve?, present, Option.bind_eq_bind, Option.bind_some]
      exact ⟨_, _, rfl, BoundedDispatch.ascending (inBounds.plugged fits) kind⟩

end InBounds

/-! ## Refusals -/

private theorem perform_shared_eq_refused (hooks : Hooks V S) (depth : Nat) (workshop : Workshop V)
    (table : Nat) (set : VisitorSet V) (error : SetupError) :
    (workshop.perform hooks depth (.build (.shared table) set)).1 = .refused error ↔
      (workshop.table table).bind set.size = .error error := by
  cases hbind : (workshop.table table).bind set.size with
  | ok bound => simp [perform_shared_of_bind hooks depth workshop hbind]
  | error cause => simp [perform_shared_of_refused hooks depth workshop hbind]

private theorem table_of_refused (hooks : Hooks V S) (depth : Nat) (workshop : Workshop V)
    {table : Nat} {set : VisitorSet V} {error : SetupError}
    (refused : (workshop.perform hooks depth (.build (.shared table) set)).1 = .refused error)
    (other : Nat) :
    (workshop.perform hooks depth (.build (.shared table) set)).2.table other =
      workshop.table other := by
  rw [perform_shared_eq_refused] at refused
  rw [perform_shared_of_refused hooks depth workshop refused]
  rfl

end Workshop

private theorem SharedDispatch.ofRules_eq_error (rules : List Applicability) (table : SharedTable)
    (error : SetupError) :
    ofRules rules table = .error error ↔ table.bind rules.length = .error error := by
  rw [ofRules]
  cases table.bind rules.length <;> simp [Except.map]

/-- The refusal of `count` visitors by a table that is in use for another number of them. -/
def Mismatch (inUse : Option Nat) (count : Nat) (error : SetupError) : Prop :=
  ∃ expected, inUse = some expected ∧ expected ≠ count ∧
    error = .sharedTableMismatch expected count

/--
Whatever rules the engines on a table were built from, none is ever answered a visitor that it does
not have, and no session of theirs comes across one.  A table is bound to the number of visitors of
the first engine that was to share it, for good, and refuses engines and dispatchers over another
number; a refusal leaves all tables as they were.

The answers are in range as well if lookups of dispatchers on one table interrupt each other, and so
are sessions that are given such answers.
-/
theorem indices_in_range_in_every_history (hooks : Hooks V S) (depth : Nat)
    (history : List (Command V S)) :
    let workshop := (Workshop.empty : Workshop V).after hooks depth history
    (∀ number engine, workshop.engine? number = some engine →
      engine.ruleCount = engine.visitorCount ∧ engine.InRange S workshop ∧
        ∀ kind, ∃ indices later, workshop.resolve? number kind = some (indices, later) ∧
          Ascending engine.visitorCount indices) ∧
      (∀ table, (workshop.table table).visitorCount = firstCount? table history) ∧
      (∀ table set,
        let build := workshop.perform hooks depth (.build (.shared table) set)
        (∀ error, build.1 = .refused error ↔
          Mismatch (firstCount? table history) set.size error) ∧
        ∀ error, build.1 = .refused error →
          ∀ other, build.2.table other = workshop.table other) ∧
      (∀ table rules error, SharedDispatch.ofRules rules (workshop.table table) = .error error ↔
        Mismatch (firstCount? table history) rules.length error) ∧
      (∀ table count, (workshop.table table).visitorCount = some count → ∀ later,
        ((workshop.after hooks depth later).table table).visitorCount = some count) ∧
      ∀ (rules : List (List Applicability)) (schedule : List (Nat × Move)),
        let gathering := (Gathering.start .empty rules).run schedule
        (∀ count, gathering.table.visitorCount = some count → ∀ later,
          (gathering.run later).table.visitorCount = some count) ∧
        ∀ who ∈ gathering.members,
          (∀ answer ∈ who.answers, Ascending who.rules.length answer.2) ∧
            ∀ visitors : Array V, visitors.size = who.rules.length →
              (Traverser.mk visitors (Replay.mk who.answers.reverse true)).InRange S := by
  intro workshop
  have inBounds : workshop.InBounds := Workshop.inBounds_empty.after hooks depth history
  have bound : ∀ table, (workshop.table table).visitorCount = firstCount? table history := by
    intro table
    rw [Workshop.visitorCount_after]
    exact Option.none_or
  refine ⟨fun number engine hengine => ?_, bound, fun table set => ⟨fun error => ?_, ?_⟩, ?_, ?_, ?_⟩
  · exact ⟨(inBounds.engines number engine hengine).ruleCount, inBounds.inRange S hengine,
      inBounds.resolve? hengine⟩
  · rw [Workshop.perform_shared_eq_refused, SharedTable.bind_eq_error, bound, Mismatch]
  · exact fun error => Workshop.table_of_refused hooks depth workshop
  · intro table rules error
    rw [SharedDispatch.ofRules_eq_error, SharedTable.bind_eq_error, bound, Mismatch]
  · intro table count now later
    exact Workshop.retains_after hooks depth workshop later table count now
  · intro rules schedule gathering
    refine ⟨fun count now later => gathering.visitorCount_run later now, fun who member => ?_⟩
    have answers := Gathering.ascending_answers rules schedule who member
    refine ⟨answers, fun visitors size => Traverser.inRange S fun answer given => ?_⟩
    rw [Traverser.visitorCount, size]
    exact answers answer (List.mem_reverse.mp given)

open Script in
-- on a table of others an engine is called for a kind that its rules exclude, and two visitors are
-- refused
example :
    let any : VisitorSet ScriptedVisitor := ⟨[(.idle "any", .any)]⟩
    let enums : VisitorSet ScriptedVisitor := ⟨[(.idle "enums", .ofKind .enum)]⟩
    let workshop := Workshop.empty.after (ScriptedVisitor.hooks Unit) 1
      [.build (.shared 0) any, .build (.shared 0) enums, .ask 0 (.lookUp .struct),
        .build (.shared 0) ⟨any.entries ++ enums.entries⟩]
    (workshop.resolve? 1 .struct).map Prod.fst = some [0] ∧
      (workshop.engine? 2).isNone = true ∧ (workshop.table 0).visitorCount = some 1 := by
  decide +kernel

end KindDispatch
