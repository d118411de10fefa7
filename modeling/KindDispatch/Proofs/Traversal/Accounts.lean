import KindDispatch.Proofs.Dispatch.Lifetime
import KindDispatch.Proofs.Lists
import KindDispatch.Proofs.Traversal.Effects
import KindDispatch.Proofs.Traversal.History

/-!
# The accounts of engines

What the counters and the memo table of an engine show after a history, against the kinds it was
asked for in that history (`Workshop.lifetime`).  The engines on one table share a further account:
together they have evaluated their rules once for each entry of the table (`Workshop.Paid`).
-/

namespace KindDispatch

variable {V S : Type}

/-! ## Lives of engines -/

def Lifetime.next (hooks : Hooks V S) (depth : Nat) (workshop : Workshop V) (number : Nat)
    (life : Lifetime) : Command V S → Lifetime
  | .build .. => life
  | .ask other request =>
    if other = number then
      match workshop.engine? number, request with
      | none, _ => life
      | some engine, .resetCounters => life.retire engine.counters
      | some engine, request => life.ask (workshop.kindsOf hooks depth engine request)
    else life

section Next

variable (hooks : Hooks V S) (depth : Nat) {workshop : Workshop V} {number other : Nat}
  {engine : Engine V} {request : Request S} (life : Lifetime)

private theorem Lifetime.next_of_ne (different : other ≠ number) :
    life.next hooks depth workshop other (.ask number request) = life := by
  simp [next, different.symm]

private theorem Lifetime.next_missing (hengine : workshop.engine? number = none) :
    life.next hooks depth workshop other (.ask number request) = life := by
  by_cases same : number = other
  · subst same
    simp [next, hengine]
  · simp [next, same]

private theorem Lifetime.next_asked (hengine : workshop.engine? number = some engine)
    (lookUps : request ≠ .resetCounters) :
    life.next hooks depth workshop number (.ask number request) =
      life.ask (workshop.kindsOf hooks depth engine request) := by
  cases request with
  | session forests state => simp [next, hengine]
  | lookUp kind => simp [next, hengine]
  | resetCounters => contradiction

private theorem Lifetime.next_reset (hengine : workshop.engine? number = some engine) :
    life.next hooks depth workshop number (.ask number (.resetCounters : Request S)) =
      life.retire engine.counters := by
  simp [next, hengine]

end Next

def Workshop.lifetime (hooks : Hooks V S) (depth number : Nat) :
    Workshop V → Lifetime → List (Command V S) → Lifetime
  | _, life, [] => life
  | workshop, life, command :: rest =>
    lifetime hooks depth number (workshop.perform hooks depth command).2
      (life.next hooks depth workshop number command) rest

def Engine.Consistent (life : Lifetime) : Engine V → Prop
  | naive traverser => traverser.dispatch.Consistent life
  | cached traverser =>
    traverser.dispatch.Consistent life ∧ traverser.dispatch.counters.sharedHits = 0
  | shared _ traverser => traverser.dispatch.Consistent life

def Engine.Lived (life : Lifetime) : Engine V → Prop
  | naive traverser => traverser.dispatch.Consistent life
  | cached traverser =>
    traverser.dispatch.Lived life ∧ traverser.dispatch.counters.sharedHits = 0
  | shared _ traverser => traverser.dispatch.Lived life

theorem Engine.Lived.consistent {life : Lifetime} {engine : Engine V} (lived : engine.Lived life) :
    engine.Consistent life := by
  cases engine with
  | naive traverser => exact lived
  | cached traverser => exact ⟨lived.1.consistent, lived.2⟩
  | shared table traverser => exact CachedDispatch.Lived.consistent lived

inductive Engine.Went (kinds : List Kind) : Engine V → Engine V → Prop
  | naive {before after : Traverser V NaiveDispatch}
      (went : after.dispatch = (Dispatch.lookUps before.dispatch kinds).2) :
      Went kinds (.naive before) (.naive after)
  | cached {before after : Traverser V CachedDispatch}
      (went : after.dispatch = (Dispatch.lookUps before.dispatch kinds).2) :
      Went kinds (.cached before) (.cached after)
  | shared {table : Nat} {before after : Traverser V CachedDispatch}
      (answers : before.dispatch.Answers kinds after.dispatch) :
      Went kinds (.shared table before) (.shared table after)

private theorem Engine.went_nil (engine : Engine V) : engine.Went [] engine := by
  cases engine with
  | naive traverser => exact .naive rfl
  | cached traverser => exact .cached rfl
  | shared table traverser => exact .shared (.nil _)

theorem Engine.Lived.went {life : Lifetime} {kinds : List Kind} {engine after : Engine V}
    (lived : engine.Lived life) (went : engine.Went kinds after) :
    after.Lived (life.ask kinds) := by
  cases went with
  | naive went =>
      simp only [Engine.Lived, went]
      exact NaiveDispatch.Consistent.lookUps lived kinds
  | cached went =>
      simp only [Engine.Lived, went]
      exact ⟨lived.1.answers (CachedDispatch.answers_lookUps _ kinds),
        (CachedDispatch.sharedHits_lookUps _ kinds).trans lived.2⟩
  | shared answers => exact CachedDispatch.Lived.answers lived answers

theorem Engine.Went.keeps {kinds : List Kind} {engine after : Engine V}
    (went : engine.Went kinds after) {kind : Kind} {entry : List Nat}
    (known : engine.remembered? kind = some entry) : after.remembered? kind = some entry := by
  cases went with
  | naive => contradiction
  | @cached before after went =>
      simp only [remembered?, went]
      exact (CachedDispatch.answers_lookUps before.dispatch kinds).keeps known
  | shared answers => exact answers.keeps known

theorem Engine.Lived.resetCounters {life : Lifetime} {engine : Engine V}
    (lived : engine.Lived life) : engine.resetCounters.Lived (life.retire engine.counters) := by
  cases engine with
  | naive traverser => exact NaiveDispatch.Consistent.resetCounters lived
  | cached traverser => exact ⟨lived.1.resetCounters, rfl⟩
  | shared table traverser => exact CachedDispatch.Lived.resetCounters lived

namespace Workshop

variable {workshop : Workshop V} {lives : Nat → Lifetime}

/-- Every engine has lived the life that was kept for it, and numbers not given out have none. -/
structure Lives (lives : Nat → Lifetime) (workshop : Workshop V) : Prop where
  engines : ∀ number engine, workshop.engine? number = some engine → engine.Lived (lives number)
  unborn : ∀ number, workshop.engines.length ≤ number → lives number = .new

private theorem lives_empty : (empty : Workshop V).Lives fun _ => .new :=
  ⟨by simp [empty, engine?], fun _ _ => rfl⟩

theorem Lives.append (kept : workshop.Lives lives) {slot : Option (Engine V)}
    (newborn : ∀ engine, slot = some engine → engine.Lived .new)
    (tables : List (Nat × SharedTable)) :
    (Workshop.mk (workshop.engines ++ [slot]) tables).Lives lives := by
  constructor
  · intro number engine hengine
    rcases of_engine?_append hengine with ⟨rfl, added⟩ | earlier
    · rw [kept.unborn _ (Nat.le_refl _)]
      exact newborn engine added
    · exact kept.engines number engine earlier
  · intro number outside
    rw [List.length_append] at outside
    exact kept.unborn number (Nat.le_of_succ_le outside)

theorem Lives.replace (kept : workshop.Lives lives) {number : Nat} {engine engine' : Engine V}
    (present : workshop.engine? number = some engine) {later : Workshop V}
    (replaces : workshop.Replaces number engine' later) {lives' : Nat → Lifetime}
    (lived : engine'.Lived (lives' number))
    (same : ∀ other, other ≠ number → lives' other = lives other) : later.Lives lives' := by
  constructor
  · intro other found hfound
    rcases replaces.cases hfound with ⟨rfl, rfl⟩ | ⟨different, before⟩
    · exact lived
    · rw [same other different]
      exact kept.engines other found before
  · intro other outside
    have inRange := lt_length_of_engine? present
    rw [replaces.length] at outside
    rw [same other (by omega)]
    exact kept.unborn other outside

theorem Asked.replaces {number : Nat} {engine : Engine V} {kinds : List Kind}
    {later : Workshop V} (asked : workshop.Asked number engine kinds later)
    (present : workshop.engine? number = some engine) :
    ∃ engine', workshop.Replaces number engine' later ∧ engine.Went kinds engine' := by
  cases asked with
  | nothing => exact ⟨engine, replaces_same present, engine.went_nil⟩
  | naive went size => exact ⟨_, replaces_setEngine present _, .naive went⟩
  | cached went size => exact ⟨_, replaces_setEngine present _, .cached went⟩
  | @shared table traverser after kinds went size =>
      have answers : traverser.dispatch.Answers kinds after.dispatch.cached :=
        went ▸ SharedDispatch.answers_lookUps (workshop.plugged table traverser).dispatch kinds
      exact ⟨_, replaces_unplug present table after, .shared answers⟩

theorem Lives.perform (kept : workshop.Lives lives) (hooks : Hooks V S) (depth : Nat)
    (command : Command V S) :
    (workshop.perform hooks depth command).2.Lives
      fun number => (lives number).next hooks depth workshop number command := by
  have effect := effect_perform hooks depth workshop command
  generalize (workshop.perform hooks depth command).2 = later at effect
  cases effect with
  | naive set =>
      refine kept.append ?_ _
      rintro _ ⟨⟩
      exact NaiveDispatch.consistent_ofRules set.rules
  | cached set =>
      refine kept.append ?_ _
      rintro _ ⟨⟩
      exact ⟨.ofRules set.rules, rfl⟩
  | @shared table set bound hbind =>
      refine kept.append ?_ _
      rintro _ ⟨⟩
      exact CachedDispatch.Lived.ofRules set.rules
  | refused hbind => exact kept.append (by simp) _
  | missing request hengine => simpa only [Lifetime.next_missing hooks depth _ hengine] using kept
  | @asked number engine request later hengine lookUps asked =>
      obtain ⟨engine', replaces, went⟩ := asked.replaces hengine
      refine kept.replace hengine replaces ?_ fun other => Lifetime.next_of_ne hooks depth _
      rw [Lifetime.next_asked hooks depth _ hengine lookUps]
      exact (kept.engines number engine hengine).went went
  | @reset number engine hengine =>
      have lived := (kept.engines number engine hengine).resetCounters
      refine kept.replace hengine (replaces_setEngine hengine _) ?_ fun other =>
        Lifetime.next_of_ne hooks depth _
      rwa [Lifetime.next_reset hooks depth _ hengine]

end Workshop

/-! ## The account of a table -/

def Engine.checksOn (table : Nat) (life : Lifetime) : Engine V → Nat
  | shared other traverser =>
    if other = table then (life.retired + traverser.dispatch.counters).applicabilityChecks else 0
  | naive _ | cached _ => 0

private theorem Engine.checksOn_resetCounters (table : Nat) (life : Lifetime) (engine : Engine V) :
    engine.resetCounters.checksOn table (life.retire engine.counters) =
      engine.checksOn table life := by
  cases engine <;> rfl

namespace Workshop

variable {workshop : Workshop V} {lives lives' : Nat → Lifetime} {table : Nat}

/-- What all engines on a table have counted in their lives for evaluating rules. -/
def checksOn (table : Nat) (lives : Nat → Lifetime) (workshop : Workshop V) : Nat :=
  ((List.range workshop.engines.length).map fun number =>
    ((workshop.engine? number).map (Engine.checksOn table (lives number))).getD 0).sum

private theorem checksOn_append (lives : Nat → Lifetime) (slot : Option (Engine V))
    (tables : List (Nat × SharedTable)) :
    (Workshop.mk (workshop.engines ++ [slot]) tables).checksOn table lives =
      workshop.checksOn table lives +
        (slot.map (Engine.checksOn table (lives workshop.engines.length))).getD 0 := by
  have earlier : ∀ number ∈ List.range workshop.engines.length,
      (Workshop.mk (workshop.engines ++ [slot]) tables).engine? number =
        workshop.engine? number := by
    intro number member
    rw [engine?_append, if_neg (Nat.ne_of_lt (List.mem_range.mp member))]
  simp only [checksOn, List.length_append, List.length_singleton, List.range_succ, List.map_append,
    List.sum_append, List.map_singleton, List.sum_singleton, engine?_append workshop slot tables,
    if_true]
  congr 2
  refine List.map_congr_left fun number member => ?_
  rw [if_neg (Nat.ne_of_lt (List.mem_range.mp member))]

private theorem checksOn_replace (table : Nat) {number : Nat} {engine engine' : Engine V}
    (present : workshop.engine? number = some engine) {later : Workshop V}
    (replaces : workshop.Replaces number engine' later)
    (same : ∀ other, other ≠ number → lives' other = lives other) :
    later.checksOn table lives' + engine.checksOn table (lives number) =
      workshop.checksOn table lives + engine'.checksOn table (lives' number) := by
  have update := sum_range_update (lt_length_of_engine? present)
    (f := fun number => ((workshop.engine? number).map (Engine.checksOn table (lives number))).getD 0)
    (g := fun number => ((later.engine? number).map (Engine.checksOn table (lives' number))).getD 0)
    fun other different => by rw [replaces.others other different, same other different]
  simpa [checksOn, replaces.length, replaces.self, present] using update

/-- The engines on a table have evaluated all their rules, of which there are as many for each of
them, once for every entry of the table. -/
structure Paid (table : Nat) (lives : Nat → Lifetime) (workshop : Workshop V) : Prop where
  bound : ∀ number traverser, workshop.engine? number = some (.shared table traverser) →
    (workshop.table table).visitorCount = some traverser.dispatch.rules.length
  unused : (workshop.table table).visitorCount = none → (workshop.table table).size = 0
  checks : workshop.checksOn table lives =
    (workshop.table table).visitorCount.getD 0 * (workshop.table table).size

private theorem paid_empty (table : Nat) : (empty : Workshop V).Paid table fun _ => .new :=
  ⟨by simp [empty, engine?], fun _ => rfl, rfl⟩

namespace Paid

theorem append (paid : workshop.Paid table lives) {slot : Option (Engine V)}
    (newborn : ∀ traverser, slot = some (.shared table traverser) →
      (workshop.table table).visitorCount = some traverser.dispatch.rules.length ∧
        ((lives workshop.engines.length).retired + traverser.dispatch.counters).applicabilityChecks =
          0) :
    (Workshop.mk (workshop.engines ++ [slot]) workshop.tables).Paid table lives := by
  have free : (slot.map (Engine.checksOn table (lives workshop.engines.length))).getD 0 = 0 := by
    rcases slot with _ | _ | _ | ⟨other, traverser⟩
    · rfl
    · rfl
    · rfl
    · by_cases here : other = table
      · subst here
        simp [Engine.checksOn, (newborn traverser rfl).2]
      · simp [Engine.checksOn, here]
  refine ⟨fun number traverser hengine => ?_, paid.unused, ?_⟩
  · rcases of_engine?_append hengine with ⟨-, added⟩ | earlier
    · exact (newborn traverser added).1
    · exact paid.bound number traverser earlier
  · rw [checksOn_append, free]
    exact paid.checks

/-- Binding a table costs nothing: it is empty, or bound to that number already. -/
theorem bind (paid : workshop.Paid table lives) {other count : Nat} {bound : SharedTable}
    (hbind : (workshop.table other).bind count = .ok bound) :
    (workshop.setTable other bound).Paid table lives := by
  by_cases here : other = table
  · subst here
    have held := workshop.table_setTable_self other bound
    have size : bound.size = (workshop.table other).size :=
      congrArg Memo.size (SharedTable.memo_bind hbind)
    have now : bound.visitorCount = some count := SharedTable.visitorCount_bind hbind
    have before := SharedTable.visitorCount_of_bind hbind
    refine ⟨fun number traverser hengine => ?_, ?_, ?_⟩
    · have known := paid.bound number traverser hengine
      rw [held, now]
      rcases before with unused | same
      · rw [unused] at known
        contradiction
      · exact same.symm.trans known
    · simp [held, now]
    · have total := paid.checks
      rw [held, now, size]
      refine total.trans ?_
      rcases before with unused | same
      · simp [paid.unused unused]
      · simp [same]
  · have held := table_setTable_of_ne (Ne.symm here) workshop bound
    exact ⟨by rw [held]; exact paid.bound, by rw [held]; exact paid.unused,
      by rw [held]; exact paid.checks⟩

theorem replace (paid : workshop.Paid table lives) {number : Nat} {engine engine' : Engine V}
    (present : workshop.engine? number = some engine) {later : Workshop V}
    (replaces : workshop.Replaces number engine' later)
    (same : ∀ other, other ≠ number → lives' other = lives other)
    (held : later.table table = workshop.table table)
    (checks : engine'.checksOn table (lives' number) = engine.checksOn table (lives number))
    (bound : ∀ traverser, engine' = .shared table traverser →
      (workshop.table table).visitorCount = some traverser.dispatch.rules.length) :
    later.Paid table lives' := by
  refine ⟨fun other traverser hother => ?_, by rw [held]; exact paid.unused, ?_⟩
  · rw [held]
    rcases replaces.cases hother with ⟨rfl, put⟩ | ⟨-, before⟩
    · exact bound traverser put
    · exact paid.bound other traverser before
  · have update := checksOn_replace table present replaces same
    have total := paid.checks
    rw [held]
    omega

theorem lookUps (paid : workshop.Paid table lives) {number : Nat}
    {traverser : Traverser V CachedDispatch}
    (present : workshop.engine? number = some (.shared table traverser)) {kinds : List Kind}
    {after : Traverser V SharedDispatch}
    (went : after.dispatch = (Dispatch.lookUps (workshop.plugged table traverser).dispatch kinds).2)
    (own : (lives' number).retired = (lives number).retired)
    (same : ∀ other, other ≠ number → lives' other = lives other) :
    (workshop.unplug number table after).Paid table lives' := by
  have held := workshop.table_unplug_self number table after
  have count : after.dispatch.table.visitorCount = (workshop.table table).visitorCount := by
    rw [went, SharedDispatch.visitorCount_lookUps]
    rfl
  have rules : after.dispatch.cached.rules = traverser.dispatch.rules := by
    rw [went, (SharedDispatch.answers_lookUps _ kinds).rules_eq]
    rfl
  have bound := paid.bound number traverser present
  have replaces := replaces_unplug present table after
  refine ⟨fun other found hother => ?_, ?_, ?_⟩
  · rw [held, count]
    rcases replaces.cases hother with ⟨rfl, put⟩ | ⟨-, before⟩
    · obtain ⟨-, rfl⟩ := Engine.shared.inj put
      rw [bound, rules]
    · exact paid.bound other found before
  · rw [held, count, bound]
    exact nofun
  · have spent := SharedDispatch.checks_lookUps (workshop.plugged table traverser).dispatch kinds
    rw [← went] at spent
    have update := checksOn_replace table present replaces same
    have total := paid.checks
    rw [held, count, bound, Option.getD_some]
    rw [bound, Option.getD_some] at total
    simp only [Engine.checksOn, if_true, own, DispatchCounters.add_def, plugged] at update spent
    omega

theorem perform (paid : workshop.Paid table lives) (kept : workshop.Lives lives)
    (hooks : Hooks V S) (depth : Nat) (command : Command V S) :
    (workshop.perform hooks depth command).2.Paid table
      fun number => (lives number).next hooks depth workshop number command := by
  have effect := effect_perform hooks depth workshop command
  generalize (workshop.perform hooks depth command).2 = later at effect
  cases effect with
  | naive set => exact paid.append (by simp)
  | cached set => exact paid.append (by simp)
  | @shared other set bound hbind =>
      refine (paid.bind hbind).append ?_
      rintro traverser ⟨⟩
      have held := workshop.table_setTable_self table bound
      have unborn : lives workshop.engines.length = .new := kept.unborn _ (Nat.le_refl _)
      refine ⟨?_, ?_⟩
      · rw [held, SharedTable.visitorCount_bind hbind]
        simp [CachedDispatch.ofRules]
      · simp only [Workshop.setTable, unborn]
        rfl
  | refused hbind => exact paid.append (by simp)
  | missing request hengine => simpa only [Lifetime.next_missing hooks depth _ hengine] using paid
  | @asked number engine request later hengine lookUps asked =>
      have others : ∀ other, other ≠ number →
          (lives other).next hooks depth workshop other (.ask number request) = lives other :=
        fun other => Lifetime.next_of_ne hooks depth _
      have own := Lifetime.next_asked hooks depth (lives number) hengine lookUps
      generalize workshop.kindsOf hooks depth engine request = kinds at asked own
      cases asked with
      | nothing =>
          refine paid.replace hengine (replaces_same hengine) others rfl (by rw [own]; rfl) ?_
          rintro traverser rfl
          exact paid.bound number traverser hengine
      | naive went size =>
          exact paid.replace hengine (replaces_setEngine hengine _) others rfl rfl (by simp)
      | cached went size =>
          exact paid.replace hengine (replaces_setEngine hengine _) others rfl rfl (by simp)
      | @shared other traverser after kinds went size =>
          by_cases here : other = table
          · subst here
            exact paid.lookUps hengine went (by rw [own]; rfl) others
          · have held := table_unplug_of_ne (Ne.symm here) workshop number after
            refine paid.replace hengine (replaces_unplug hengine other after) others held ?_ ?_
            · simp [Engine.checksOn, here]
            · rintro found ⟨⟩
              contradiction
  | @reset number engine hengine =>
      refine paid.replace hengine (replaces_setEngine hengine _)
        (fun other => Lifetime.next_of_ne hooks depth _) rfl ?_ ?_
      · rw [Lifetime.next_reset hooks depth _ hengine, Engine.checksOn_resetCounters]
      · intro traverser same
        cases engine with
        | naive | cached => contradiction
        | shared other before =>
            obtain ⟨rfl, rfl⟩ := Engine.shared.inj same
            exact paid.bound number before hengine

end Paid

/-! ## What engines remember -/

def remembered? (workshop : Workshop V) (number : Nat) (kind : Kind) : Option (List Nat) :=
  (workshop.engine? number).bind (Engine.remembered? kind)

private theorem Replaces.remembered?_of_ne {number other : Nat} {engine : Engine V}
    {later : Workshop V}
    (replaces : workshop.Replaces number engine later) (different : other ≠ number) (kind : Kind) :
    later.remembered? other kind = workshop.remembered? other kind := by
  rw [remembered?, remembered?, replaces.others other different]

private theorem Replaces.remembered?_self {number : Nat} {engine : Engine V} {later : Workshop V}
    (replaces : workshop.Replaces number engine later) (kind : Kind) :
    later.remembered? number kind = engine.remembered? kind := by
  rw [remembered?, replaces.self, Option.bind_some]

private theorem remembered?_resetCounters (workshop : Workshop V) (number other : Nat)
    (kind : Kind) :
    (workshop.resetCounters number).remembered? other kind = workshop.remembered? other kind := by
  cases hengine : workshop.engine? number with
  | none => simp only [resetCounters, hengine]
  | some engine =>
      have replaces := replaces_setEngine hengine engine.resetCounters
      rw [resetCounters_of_engine? hengine]
      by_cases same : other = number
      · subst same
        rw [replaces.remembered?_self, (replaces_same hengine).remembered?_self]
        cases engine <;> rfl
      · exact replaces.remembered?_of_ne same kind

theorem remembered?_perform (hooks : Hooks V S) (depth : Nat) (command : Command V S)
    {number : Nat} {kind : Kind} {entry : List Nat}
    (known : workshop.remembered? number kind = some entry) :
    (workshop.perform hooks depth command).2.remembered? number kind = some entry := by
  obtain ⟨engine, present, remembered⟩ := Option.bind_eq_some_iff.mp known
  have effect := effect_perform hooks depth workshop command
  generalize (workshop.perform hooks depth command).2 = later at effect
  cases effect with
  | naive | cached | shared | refused =>
      simpa [remembered?, addFailed, engine?_append_of_some present] using remembered
  | missing => exact known
  | @asked moved asker request later hengine lookUps asked =>
      obtain ⟨engine', replaces, went⟩ := asked.replaces hengine
      by_cases same : number = moved
      · subst same
        obtain rfl := Option.some.inj (present.symm.trans hengine)
        rw [replaces.remembered?_self]
        exact went.keeps remembered
      · rwa [replaces.remembered?_of_ne same]
  | @reset moved asker hengine =>
      rwa [← resetCounters_of_engine? hengine, remembered?_resetCounters]

theorem remembered?_after (hooks : Hooks V S) (depth : Nat) (history : List (Command V S))
    {number : Nat} {kind : Kind} {entry : List Nat}
    (known : workshop.remembered? number kind = some entry) :
    (workshop.after hooks depth history).remembered? number kind = some entry := by
  induction history generalizing workshop with
  | nil => exact known
  | cons command rest ih => exact ih (remembered?_perform hooks depth command known)

/-! ## Histories -/

theorem accounts_after (hooks : Hooks V S) (depth : Nat) (history : List (Command V S))
    (kept : workshop.Lives lives) (paid : ∀ table, workshop.Paid table lives) :
    let later := fun number => workshop.lifetime hooks depth number (lives number) history
    (workshop.after hooks depth history).Lives later ∧
      ∀ table, (workshop.after hooks depth history).Paid table later := by
  induction history generalizing workshop lives with
  | nil => exact ⟨kept, paid⟩
  | cons command rest ih =>
      exact ih (kept.perform hooks depth command) fun table =>
        (paid table).perform kept hooks depth command

end Workshop

/--
After every history the counters and the memo table of every engine are consistent with each other
and with the kinds it has been asked for.  No history changes an entry that is remembered, and a
reset of counters changes none at all.  The engines on one table have, in all their lives together,
evaluated their rules once for each entry of the table.

All but the last holds as well of dispatchers whose lookups on one table interrupt each other.
-/
theorem accounts_after_every_history (hooks : Hooks V S) (depth : Nat)
    (history : List (Command V S)) :
    let workshop := (Workshop.empty : Workshop V).after hooks depth history
    let life := fun number =>
      (Workshop.empty : Workshop V).lifetime hooks depth number .new history
    (∀ number engine, workshop.engine? number = some engine → engine.Consistent (life number)) ∧
      (∀ number kind entry, workshop.remembered? number kind = some entry →
        ∀ later, (workshop.after hooks depth later).remembered? number kind = some entry) ∧
      (∀ number other kind,
        (workshop.resetCounters number).remembered? other kind =
          workshop.remembered? other kind) ∧
      (∀ table number traverser, workshop.engine? number = some (.shared table traverser) →
        workshop.checksOn table life =
          traverser.dispatch.rules.length * (workshop.table table).size) ∧
      ∀ (table : SharedTable) (rules : List (List Applicability)) (schedule : List (Nat × Deed)),
        let keepers := (Keepers.start table rules).run schedule
        ∀ (place : Nat) (keeper : Keeper), keepers.members[place]? = some keeper →
          (keeper.who.phase = .idle → keeper.who.dispatch.Consistent keeper.life) ∧
            (∀ kind, (keeper.act .reset keepers.table).1.who.dispatch.remembered? kind =
              keeper.who.dispatch.remembered? kind) ∧
            ∀ later, ∃ keeper' : Keeper, (keepers.run later).members[place]? = some keeper' ∧
              ∀ kind entry, keeper.who.dispatch.remembered? kind = some entry →
                keeper'.who.dispatch.remembered? kind = some entry := by
  intro workshop life
  obtain ⟨kept, paid⟩ := Workshop.accounts_after hooks depth history Workshop.lives_empty
    Workshop.paid_empty
  refine ⟨fun number engine hengine => (kept.engines number engine hengine).consistent,
    fun number kind entry known later => Workshop.remembered?_after hooks depth later known,
    fun number other kind => Workshop.remembered?_resetCounters workshop number other kind, ?_, ?_⟩
  · intro table number traverser hengine
    have total := (paid table).checks
    rwa [(paid table).bound number traverser hengine, Option.getD_some] at total
  · intro table rules schedule keepers place keeper hkeeper
    have lives : keeper.Lives := Keepers.lives_of_run hkeeper
    refine ⟨lives.consistent, fun kind => keeper.remembered?_reset _ kind, fun later => ?_⟩
    obtain ⟨keeper', hkeeper', -, keeps⟩ := Keepers.run_lives later hkeeper lives
    exact ⟨keeper', hkeeper', keeps⟩

open Script in
-- the second engine finds one kind in the table and evaluates another
example :
    let set : VisitorSet ScriptedVisitor := ⟨[(.idle "look", .any)]⟩
    let history : List (Command ScriptedVisitor Unit) :=
      [.build (.shared 0) set, .build (.shared 0) set, .ask 0 (.lookUp .struct),
        .ask 0 .resetCounters, .ask 1 (.lookUp .struct), .ask 1 (.lookUp .enum),
        .ask 0 (.lookUp .struct)]
    let workshop := Workshop.empty.after (ScriptedVisitor.hooks Unit) 1 history
    (workshop.engine? 0).map Engine.counters = some ⟨1, 1, 0, 0, 0⟩ ∧
      (workshop.engine? 1).map Engine.counters = some ⟨2, 0, 2, 1, 1⟩ ∧
      (Workshop.empty.lifetime (ScriptedVisitor.hooks Unit) 1 0 .new history).retired =
        ⟨1, 0, 1, 0, 1⟩ ∧
      (workshop.table 0).size = 2 := by
  decide +kernel

end KindDispatch
