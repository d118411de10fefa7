import KindDispatch.Bench.Run
import KindDispatch.Proofs.Bench.Passes

/-!
# Workers side by side

The workers of a pass run side by side.  Those that share a table disturb each other between the
steps of their lookups, and what they do is a schedule of a `Gathering`.  A schedule fits the chunks
of a pass if every worker has finished, and the walk of its chunk, given the answers the worker got,
makes exactly the lookups the worker made (`Replay`).

`totals_in_every_run` says that nothing a run reports as its totals depends on any of this: not on the
strategy or the number of workers, not on where the corpus is cut, and not on the schedules.
-/

namespace KindDispatch

open CountingVisitor

/-- A dispatcher that gives the answers of a log one after the other, and notes whether it is asked
for the kinds of the log. -/
structure Replay where
  pending : List (Kind × List Nat)
  faithful : Bool

namespace Replay

instance : Dispatch Replay where
  resolve replay kind :=
    match replay.pending with
    | [] => ([], ⟨[], false⟩)
    | (wanted, entry) :: rest => (entry, ⟨rest, replay.faithful && wanted == kind⟩)
  visitorCount _ := 0
  counters _ := .zero
  resetCounters := id

def isExact (replay : Replay) : Bool := replay.pending.isEmpty && replay.faithful

private theorem isExact_lookUps (log : List (Kind × List Nat)) (faithful : Bool)
    (kinds : List Kind) : (Dispatch.lookUps (Replay.mk log faithful) kinds).2.isExact = true ↔
      faithful = true ∧ log.map (·.1) = kinds := by
  induction kinds generalizing log faithful with
  | nil => cases log <;> simp [isExact]
  | cons kind rest ih =>
      cases log with
      | nil => simp [Dispatch.lookUps_cons, Dispatch.resolve, ih]
      | cons first log =>
          simp [Dispatch.lookUps_cons, Dispatch.resolve, ih, and_assoc]

private theorem lookUps_fst (log : List (Kind × List Nat)) (faithful : Bool) :
    (Dispatch.lookUps (Replay.mk log faithful) (log.map (·.1))).1 = log.map (·.2) := by
  induction log generalizing faithful with
  | nil => rfl
  | cons first log ih => simp [Dispatch.lookUps_cons, Dispatch.resolve, ih]

private theorem inRange : InRange fun replay : Replay =>
    ∀ answer ∈ replay.pending, ∀ index ∈ answer.2, index < all.length where
  resolve replay kind holds := by
    obtain ⟨pending, faithful⟩ := replay
    cases pending with
    | nil => simp [Dispatch.resolve]
    | cons first rest => exact fun answer member => holds answer (List.mem_cons_of_mem first member)
  lt_length replay kind holds := by
    obtain ⟨pending, faithful⟩ := replay
    cases pending with
    | nil => simp [Dispatch.resolve]
    | cons first rest => exact holds first List.mem_cons_self

end Replay

namespace Passes

/-! ## Passes under a schedule -/

/-- What a worker made of its chunk: nothing, unless it has finished, and its lookups are those of
the walk. -/
def workerTally? (visitors : VisitorSet CountingVisitor) (worker : Participant)
    (chunk : List Forest) : Option (List Forest × PassStats × DispatchCounters) :=
  if worker.phase = .idle then
    match walkEach chunk ⟨visitors.visitors.toArray, Replay.mk worker.answers.reverse true⟩ .zero with
    | .error _ => none
    | .ok (forests, traverser, stats) =>
      if traverser.dispatch.isExact then some (forests, stats, worker.dispatch.counters) else none
  else none

def gather (visitors : VisitorSet CountingVisitor) (table : SharedTable) :
    List Participant → List (List Forest) → Option ChunkTally
  | [], [] => some ⟨[], .zero, .zero, table⟩
  | worker :: workers, chunk :: chunks => do
    let (forests, stats, counters) ← workerTally? visitors worker chunk
    let others ← gather visitors table workers chunks
    return ⟨forests ++ others.forests, stats + others.stats, counters + others.counters, table⟩
  | _, _ => none

/-- A pass in which there is a worker for each chunk, and the schedule is that of the workers that
share the table; naive workers share nothing. -/
def concurrentPass? (strategy : Strategy) (visitors : VisitorSet CountingVisitor)
    (chunks : List (List Forest)) (schedule : List (Nat × Move)) (table : SharedTable) :
    Option ChunkTally :=
  match strategy with
  | .naive => (walkChunks .naive visitors chunks table).toOption
  | .cached =>
    let after := (Gathering.start table (chunks.map fun _ => visitors.rules)).run schedule
    gather visitors after.table after.members chunks

/-- Passes one after the other.  Each cuts the corpus in some way and has some schedule, and starts
when all workers of the one before it have finished. -/
inductive ConcurrentRun (strategy : Strategy) (visitors : VisitorSet CountingVisitor) :
    Nat → SharedTable → Tally → Tally → Prop
  | done (table : SharedTable) (tally : Tally) : ConcurrentRun strategy visitors 0 table tally tally
  | pass {iterations : Nat} {table : SharedTable} {tally final : Tally} {pass : ChunkTally}
      (chunks : List (List Forest)) (schedule : List (Nat × Move))
      (cut : chunks.flatten = tally.forests)
      (hpass : concurrentPass? strategy visitors chunks schedule table = some pass)
      (rest : ConcurrentRun strategy visitors iterations pass.table (addPass tally pass) final) :
      ConcurrentRun strategy visitors (iterations + 1) table tally final

end Passes

/-! ## Every schedule -/

namespace Gathering

/-- What every step of a participant preserves while the table grows, every schedule preserves for all
members. -/
theorem run_members {P : Participant → Prop} {gathering : Gathering}
    (step : ∀ who table after, gathering.table.Grows table →
      Participant.Outcome who table after → P who → P after.1)
    (holds : ∀ who ∈ gathering.members, P who) (schedule : List (Nat × Move)) :
    ∀ who ∈ (gathering.run schedule).members, P who := by
  have both : gathering.table.Grows (gathering.run schedule).table ∧
      ∀ who ∈ (gathering.run schedule).members, P who := by
    refine run_preserves (P := fun later => gathering.table.Grows later.table ∧
      ∀ who ∈ later.members, P who) ?_ ⟨.refl _, holds⟩ schedule
    rintro later number move ⟨grows, holds⟩
    refine ⟨grows.trans (later.grows_act number move), ?_⟩
    rcases later.act_cases number move with same | ⟨who, after, hwho, outcome, hact⟩
    · rwa [same]
    · rw [hact]
      intro other member
      rcases List.mem_or_eq_of_mem_set member with old | rfl
      · exact holds other old
      · exact step who later.table after grows outcome (holds who (List.mem_of_getElem? hwho))
  exact both.2

theorem rules_eq_of_mem_run {rules : List Applicability} (table : SharedTable)
    {ruleLists : List (List Applicability)} (common : ∀ own ∈ ruleLists, own = rules)
    {schedule : List (Nat × Move)} {who : Participant}
    (member : who ∈ ((start table ruleLists).run schedule).members) : who.rules = rules := by
  have hown := List.mem_map_of_mem (f := Participant.rules) member
  rw [rules_run] at hown
  simp only [start, List.map_map, List.mem_map] at hown
  obtain ⟨own, hmem, hwho⟩ := hown
  rw [← hwho]
  exact common own hmem

theorem run_by_rules {rules : List Applicability} {table : SharedTable}
    (sound : table.memo.Sound rules) (ruleLists : List (List Applicability))
    (common : ∀ own ∈ ruleLists, own = rules) (schedule : List (Nat × Move)) :
    ((start table ruleLists).run schedule).table.memo.Sound rules ∧
      ∀ who ∈ ((start table ruleLists).run schedule).members,
        who.Accounts ∧ ∀ answer ∈ who.answers, answer.2 = applicable rules answer.1 := by
  have coherent := (coherent_start table ruleLists).run schedule
  have sound' : ((start table ruleLists).run schedule).table.memo.Sound rules := by
    intro kind entry held
    rcases coherent.origin kind entry held with known | ⟨who, member, -, rule⟩
    · exact sound kind entry known
    · rw [rule, rules_eq_of_mem_run table common member]
  refine ⟨sound', fun who member => ⟨?_, ?_⟩⟩
  · refine run_members (fun _ _ _ _ outcome accounts => outcome.accounts accounts) ?_ schedule
      who member
    intro who member
    simp only [start, List.mem_map] at member
    obtain ⟨own, -, rfl⟩ := member
    exact Participant.accounts_fresh own
  · rintro ⟨kind, entry⟩ given
    exact sound' kind entry (coherent.answered member given)

end Gathering

namespace Passes

theorem workerTally?_eq {worker : Participant} (idle : worker.phase = .idle)
    (byRules : ∀ answer ∈ worker.answers, answer.2 = applicable visitorSet.rules answer.1)
    (chunk : List Forest) :
    workerTally? visitorSet worker chunk =
      if worker.answers.reverse.map (·.1) = corpusKinds chunk then
        some (chunk, census (corpusKinds chunk), worker.dispatch.counters)
      else none := by
  have holds : ∀ answer ∈ (Replay.mk worker.answers.reverse true).pending,
      ∀ index ∈ answer.2, index < all.length := by
    intro answer member index hindex
    rw [byRules answer (List.mem_reverse.mp member)] at hindex
    exact lt_length_of_mem_applicable hindex
  -- the walk ends on any log whose answers are in range; what can fail is the comparison
  have hwalk := walkEach_counts Replay.inRange chunk holds .zero
  unfold workerTally?
  simp only [if_pos idle, visitors_visitorSet, hwalk]
  by_cases same : worker.answers.reverse.map (·.1) = corpusKinds chunk
  · have hexact := (Replay.isExact_lookUps _ true (corpusKinds chunk)).mpr ⟨rfl, same⟩
    have hanswers : worker.answers.reverse.map (·.2) =
        (corpusKinds chunk).map (applicable visitorSet.rules) := by
      rw [← same, List.map_map]
      refine List.map_congr_left fun answer member => ?_
      exact byRules answer (List.mem_reverse.mp member)
    have hstats : ((Dispatch.lookUps (Replay.mk worker.answers.reverse true)
        (corpusKinds chunk)).1.foldl countEach .zero) = census (corpusKinds chunk) := by
      rw [← same, Replay.lookUps_fst, hanswers, foldl_countEach, same]
      simp [PassStats.add_def, PassStats.zero]
    rw [if_pos same]
    exact (if_pos hexact).trans
      (congrArg (fun stats => some (chunk, stats, worker.dispatch.counters)) hstats)
  · rw [if_neg same]
    exact if_neg fun hexact => same ((Replay.isExact_lookUps _ true (corpusKinds chunk)).mp hexact).2

private theorem workerTally?_totals {worker : Participant} (accounts : worker.Accounts)
    (byRules : ∀ answer ∈ worker.answers, answer.2 = applicable visitorSet.rules answer.1)
    {chunk forests : List Forest} {stats : PassStats} {counters : DispatchCounters}
    (htally : workerTally? visitorSet worker chunk = some (forests, stats, counters)) :
    forests = chunk ∧ stats = census (corpusKinds chunk) ∧
      counters.lookups = (corpusKinds chunk).length := by
  by_cases idle : worker.phase = .idle
  · rw [workerTally?_eq idle byRules] at htally
    simp only [Option.ite_none_right_eq_some, Option.some.injEq, Prod.mk.injEq] at htally
    obtain ⟨same, rfl, rfl, rfl⟩ := htally
    obtain ⟨shared, spent⟩ := accounts.spent idle
    refine ⟨rfl, rfl, ?_⟩
    rw [spent.counters, ← same]
    simp
  · simp [workerTally?, idle] at htally

private theorem gather_totals {table : SharedTable} {workers : List Participant}
    (honest : ∀ who ∈ workers,
      who.Accounts ∧ ∀ answer ∈ who.answers, answer.2 = applicable visitorSet.rules answer.1)
    {chunks : List (List Forest)} {pass : ChunkTally}
    (hpass : gather visitorSet table workers chunks = some pass) :
    PassTotals .cached chunks.flatten pass ∧ pass.table = table := by
  induction chunks generalizing workers pass with
  | nil =>
      cases workers with
      | nil =>
          obtain rfl := Option.some.inj hpass
          exact ⟨⟨rfl, rfl, rfl, nofun⟩, rfl⟩
      | cons worker workers => contradiction
  | cons chunk chunks ih =>
      cases workers with
      | nil => contradiction
      | cons worker workers =>
          simp only [gather, bind, Option.bind_eq_some_iff] at hpass
          obtain ⟨⟨forests, stats, counters⟩, htally, others, hothers, hpass⟩ := hpass
          obtain rfl := Option.some.inj hpass
          obtain ⟨accounts, byRules⟩ := honest worker List.mem_cons_self
          obtain ⟨hforests, hstats, hlookups⟩ := workerTally?_totals accounts byRules htally
          have first : PassTotals .cached chunk ⟨forests, stats, counters, table⟩ :=
            ⟨hforests, hstats, hlookups, nofun⟩
          obtain ⟨rest, -⟩ := ih (fun who member => honest who (List.mem_cons_of_mem worker member))
            hothers
          exact ⟨first.append rest table, rfl⟩

theorem concurrentPass?_totals {strategy : Strategy} {chunks : List (List Forest)}
    {schedule : List (Nat × Move)} {table : SharedTable} (sound : table.memo.Sound visitorSet.rules)
    {pass : ChunkTally}
    (hpass : concurrentPass? strategy visitorSet chunks schedule table = some pass) :
    PassTotals strategy chunks.flatten pass ∧ pass.table.memo.Sound visitorSet.rules := by
  cases strategy with
  | naive =>
      obtain ⟨pass', hpass', totals, htable⟩ := walkChunks_naive_totals chunks table
      simp only [concurrentPass?, hpass'] at hpass
      obtain rfl := Option.some.inj hpass
      exact ⟨totals, htable ▸ sound⟩
  | cached =>
      obtain ⟨sound', honest⟩ := Gathering.run_by_rules sound
        (chunks.map fun _ => visitorSet.rules) (by simp) schedule
      obtain ⟨totals, htable⟩ := gather_totals honest hpass
      exact ⟨totals, htable ▸ sound'⟩

theorem ConcurrentRun.totals {strategy : Strategy} {iterations done : Nat} {table : SharedTable}
    {corpus : List Forest} {tally final : Tally}
    (run : ConcurrentRun strategy visitorSet iterations table tally final)
    (sound : table.memo.Sound visitorSet.rules) (totals : Totals strategy done corpus tally) :
    Totals strategy (done + iterations) corpus final := by
  induction run generalizing done with
  | done table tally => exact totals
  | @pass iterations table tally final pass chunks schedule cut hpass rest ih =>
      obtain ⟨passTotals, sound'⟩ := concurrentPass?_totals sound hpass
      rw [cut, totals.forests] at passTotals
      have := ih sound' (totals.add passTotals)
      rwa [Nat.add_assoc, Nat.add_comm 1] at this

end Passes

/-! ## One worker after the other -/

namespace Participant

private theorem act_bind {rules : List Applicability} {table bound : SharedTable}
    (hbind : table.bind rules.length = .ok bound) :
    (fresh rules).act .bind table = (⟨.ofRules rules, .idle, []⟩, bound) := by
  simp only [act, fresh, CachedDispatch.ofRules, hbind]

def lookUpMoves (kinds : List Kind) : List Move :=
  kinds.flatMap fun kind => [.lookUp kind, .ask, .store]

theorem acts_lookUps {who : Participant} (idle : who.phase = .idle) (kinds : List Kind)
    (table : SharedTable) :
    who.acts (lookUpMoves kinds) table =
      let (entries, after) := Dispatch.lookUps (SharedDispatch.mk who.dispatch table) kinds
      (⟨after.cached, .idle, (kinds.zip entries).reverse ++ who.answers⟩, after.table) := by
  induction kinds generalizing who table with
  | nil =>
      obtain ⟨dispatch, phase, answers⟩ := who
      obtain rfl : phase = .idle := idle
      rfl
  | cons kind rest ih =>
      rw [lookUpMoves, List.flatMap_cons, acts_append, acts_lookUp idle, ← lookUpMoves, ih rfl]
      simp [finish, Dispatch.lookUps_cons, Dispatch.resolve]

end Participant

namespace Gathering

private theorem run_member (table : SharedTable) (before : List Participant) (who : Participant)
    (after : List Participant) (moves : List Move) :
    (Gathering.mk table (before ++ who :: after)).run (moves.map fun move => (before.length, move)) =
      ⟨(who.acts moves table).2, before ++ (who.acts moves table).1 :: after⟩ := by
  induction moves generalizing table who with
  | nil => rfl
  | cons move rest ih =>
      have hact : (Gathering.mk table (before ++ who :: after)).act before.length move =
          ⟨(who.act move table).2, before ++ (who.act move table).1 :: after⟩ := by
        simp [act]
      have hrun := ih (who.act move table).2 (who.act move table).1
      rw [← hact] at hrun
      exact hrun

theorem run_append (gathering : Gathering) (first second : List (Nat × Move)) :
    gathering.run (first ++ second) = (gathering.run first).run second := by
  simp [run, List.foldl_append]

end Gathering

namespace Passes

def turns : (number : Nat) → (chunks : List (List Forest)) → List (Nat × Move)
  | _, [] => []
  | number, chunk :: rest =>
    (Move.bind :: Participant.lookUpMoves (corpusKinds chunk)).map (fun move => (number, move)) ++
      turns (number + 1) rest

def finished (bound : SharedTable) (chunk : List Forest) : Participant :=
  let asked := Dispatch.lookUps
    (SharedDispatch.mk (.ofRules visitorSet.rules) bound) (corpusKinds chunk)
  ⟨asked.2.cached, .idle, ((corpusKinds chunk).zip asked.1).reverse⟩

private theorem workerTally?_finished {table bound : SharedTable}
    (hbind : table.bind visitorSet.rules.length = .ok bound)
    (sound : bound.Sound visitorSet.rules) (chunk : List Forest) :
    workerTally? visitorSet (finished bound chunk) chunk =
      some (chunk, census (corpusKinds chunk), (finished bound chunk).dispatch.counters) := by
  have fresh : LawfulDispatch.Sound visitorSet.rules
      (SharedDispatch.mk (.ofRules visitorSet.rules) bound) :=
    SharedDispatch.sound_ofRules hbind sound
  have hanswers : (finished bound chunk).answers =
      ((corpusKinds chunk).map fun kind =>
        (kind, applicable visitorSet.rules kind)).reverse := by
    rw [finished, Dispatch.lookUps_fst fresh, List.map_prod_left_eq_zip]
  have byRules : ∀ answer ∈ (finished bound chunk).answers,
      answer.2 = applicable visitorSet.rules answer.1 := by
    intro answer member
    rw [hanswers, List.mem_reverse, List.mem_map] at member
    obtain ⟨kind, -, rfl⟩ := member
    rfl
  rw [workerTally?_eq rfl byRules, if_pos]
  simp [hanswers, Function.comp_def]

private theorem acts_finished {table bound : SharedTable}
    (hbind : table.bind visitorSet.rules.length = .ok bound) (chunk : List Forest) :
    (Participant.fresh visitorSet.rules).acts
        (.bind :: Participant.lookUpMoves (corpusKinds chunk)) table =
      (finished bound chunk,
        (Dispatch.lookUps (SharedDispatch.mk (.ofRules visitorSet.rules) bound)
          (corpusKinds chunk)).2.table) := by
  have hbound : (Participant.fresh visitorSet.rules).acts [.bind] table =
      (⟨.ofRules visitorSet.rules, .idle, []⟩, bound) := Participant.act_bind hbind
  rw [← List.singleton_append, Participant.acts_append, hbound, Participant.acts_lookUps rfl]
  simp [finished]

theorem run_turns {chunks : List (List Forest)} {table : SharedTable}
    (sound : table.Sound visitorSet.rules) {pass : ChunkTally}
    (hpass : walkChunks .cached visitorSet chunks table = .ok pass)
    (before : List Participant) :
    ∃ workers,
      (Gathering.mk table
          (before ++ chunks.map fun _ => Participant.fresh visitorSet.rules)).run
          (turns before.length chunks) = ⟨pass.table, before ++ workers⟩ ∧
        ∀ table', gather visitorSet table' workers chunks = some { pass with table := table' } := by
  induction chunks generalizing table pass before with
  | nil =>
      obtain rfl := Except.ok.inj hpass
      exact ⟨[], rfl, fun _ => rfl⟩
  | cons chunk rest ih =>
      obtain ⟨bound, hbind, hbound⟩ := sound.bind
      have fresh : LawfulDispatch.Sound visitorSet.rules
          (SharedDispatch.mk (.ofRules visitorSet.rules) bound) :=
        SharedDispatch.sound_ofRules hbind hbound
      have sound' : SharedDispatch.Sound visitorSet.rules _ :=
        Dispatch.sound_lookUps fresh (corpusKinds chunk)
      -- the first worker leaves the table sound, so the others make their pass from there
      obtain ⟨others, hothers, -⟩ := walkChunks_totals .cached rest sound'.table
      simp only [walkChunks, walkChunk_cached hbind hbound, bind, Except.bind, hothers] at hpass
      obtain rfl := Except.ok.inj hpass
      obtain ⟨workers, hrun, hgather⟩ := ih sound'.table hothers (before ++ [finished bound chunk])
      refine ⟨finished bound chunk :: workers, ?_, fun table' => ?_⟩
      · rw [turns, Gathering.run_append, List.map_cons, Gathering.run_member,
          acts_finished hbind]
        simpa using hrun
      · simp only [gather, workerTally?_finished hbind hbound, hgather]
        rfl

/-- The chunks walked one after the other are a pass under one of the schedules. -/
theorem concurrentPass?_turns (strategy : Strategy) {chunks : List (List Forest)}
    {table : SharedTable} (sound : table.Sound visitorSet.rules) {pass : ChunkTally}
    (hpass : walkChunks strategy visitorSet chunks table = .ok pass) :
    concurrentPass? strategy visitorSet chunks (turns 0 chunks) table = some pass := by
  cases strategy with
  | naive => simp only [concurrentPass?, hpass, Except.toOption]
  | cached =>
      obtain ⟨workers, hrun, hgather⟩ := run_turns sound hpass []
      have hstart : (Gathering.start table (chunks.map fun _ => visitorSet.rules)).run
          (turns 0 chunks) = ⟨pass.table, workers⟩ := by
        simpa [Gathering.start, Function.comp_def] using hrun
      simp only [concurrentPass?, hstart, hgather]

/-- A run in chunks, as the program makes it, is one of the concurrent runs. -/
theorem concurrentRun_chunked (strategy : Strategy) (size iterations : Nat) {table : SharedTable}
    (sound : table.Sound visitorSet.rules) {tally final : Tally}
    (hfinal : chunked strategy visitorSet size iterations table tally = .ok final) :
    ConcurrentRun strategy visitorSet iterations table tally final := by
  induction iterations generalizing table tally with
  | zero =>
      obtain rfl := Except.ok.inj hfinal
      exact .done table tally
  | succ iterations ih =>
      obtain ⟨pass, hpass, -, sound'⟩ :=
        walkChunks_totals strategy (chunks size tally.forests) sound
      simp only [chunked, hpass, bind, Except.bind] at hfinal
      exact .pass (chunks size tally.forests) (turns 0 (chunks size tally.forests))
        (flatten_chunks size tally.forests) (concurrentPass?_turns strategy sound hpass)
        (ih sound' hfinal)

end Passes

/--
A run reports the same totals whatever the number of workers, and leaves the corpus as it was.  So do
the workers of every cut of the corpus, pass by pass, under every schedule; the run with several
workers is one of these.  A single caching traverser misses once for each kind that occurs.
-/
theorem totals_in_every_run (strategy : Strategy) (iterations jobs : Nat) (corpus : List Forest) :
    (∃ report, runStrategy strategy iterations jobs corpus = .ok (report, corpus) ∧
        Passes.Totals strategy iterations corpus
          ⟨report.nodesVisited, report.lastPass, report.dispatch, corpus⟩ ∧
        (strategy = .cached → jobs ≤ 1 → 1 ≤ iterations →
          report.dispatch.misses = Kind.distinctCount (corpusKinds corpus) ∧
            report.dispatch.hits = report.dispatch.lookups - report.dispatch.misses ∧
            report.dispatch.sharedHits = 0 ∧
            report.dispatch.applicabilityChecks = 4 * report.dispatch.misses)) ∧
      (∀ final, Passes.ConcurrentRun strategy visitorSet iterations .empty (Passes.initial corpus)
          final → Passes.Totals strategy iterations corpus final) ∧
      (1 < jobs → ∃ final, Passes.run strategy iterations jobs corpus = .ok final ∧
        Passes.ConcurrentRun strategy visitorSet iterations .empty (Passes.initial corpus)
          final) := by
  have sound := SharedTable.sound_empty visitorSet.rules
  obtain ⟨tally, hrun, totals, spent⟩ := Passes.run_totals strategy iterations jobs corpus
  refine ⟨?_, ?_, ?_⟩
  · have hforests := totals.forests
    refine ⟨⟨strategy, iterations, jobs, tally.nodesVisited, tally.lastPass, .zero, tally.dispatch,
      none⟩, ?_, ?_, spent⟩
    · rw [runStrategy, hrun, Except.map, hforests]
    · exact ⟨rfl, totals.nodesVisited, totals.lookups, totals.lastPass, totals.naive⟩
  · intro final concurrent
    have := concurrent.totals sound.memo (Passes.totals_initial strategy corpus)
    rwa [Nat.zero_add] at this
  · intro several
    refine ⟨tally, hrun, ?_⟩
    have single : ¬ jobs ≤ 1 := by omega
    simp only [Passes.run, registered_eq, if_neg single] at hrun
    exact Passes.concurrentRun_chunked strategy _ iterations sound hrun

/-! Two workers look up the same kind, and both find the table empty. -/

def structInTwoFiles : List Forest := [[.ofKind .struct], [.ofKind .struct]]

theorem totals_in_every_run_race :
    ∃ final, Passes.ConcurrentRun .cached visitorSet 1 .empty (Passes.initial structInTwoFiles)
        final ∧
      final.nodesVisited = 2 ∧ final.dispatch.lookups = 2 ∧
      final.dispatch.applicabilityChecks = 8 := by
  obtain ⟨pass, hpass, hchecks⟩ : ∃ pass,
      Passes.concurrentPass? .cached visitorSet [[[.ofKind .struct]], [[.ofKind .struct]]]
        Gathering.race .empty = some pass ∧ pass.counters.applicabilityChecks = 8 :=
    ⟨_, rfl, rfl⟩
  have concurrent : Passes.ConcurrentRun .cached visitorSet 1 .empty
      (Passes.initial structInTwoFiles)
      (Passes.addPass (Passes.initial structInTwoFiles) pass) :=
    .pass _ Gathering.race rfl hpass (.done _ _)
  have totals := (totals_in_every_run .cached 1 2 structInTwoFiles).2.1 _ concurrent
  refine ⟨_, concurrent, totals.nodesVisited, totals.lookups.trans totals.nodesVisited, ?_⟩
  simp [Passes.addPass, Passes.initial, DispatchCounters.add_def, hchecks, DispatchCounters.zero]

end KindDispatch
