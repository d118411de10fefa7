import KindDispatch.Proofs.Bench.Concurrent
import KindDispatch.Proofs.Lists
import Mathlib.Data.List.Forall2

/-!
# What workers side by side spend

Which worker evaluates a kind is a race, so not all counters of a pass are the same under every
schedule.  Two accounts bound those that are not.  A worker has evaluated what it missed and the
table did not answer (`DispatchCounters.Balanced`), and the table has grown by at most one entry for
each of these evaluations (`Gathering.table_size_run`).  Kinds that a table held from the start are
never evaluated (`Participant.Served`); after the first pass these are all kinds there are.

`costs_under_every_schedule` puts this together for all passes of a run.
-/

namespace KindDispatch

open CountingVisitor

/-! ## Totals of counters -/

namespace DispatchCounters

def total (list : List DispatchCounters) : DispatchCounters := list.foldr (· + ·) .zero

private theorem misses_total (list : List DispatchCounters) :
    (total list).misses = (list.map misses).sum := by
  induction list with
  | nil => rfl
  | cons first rest ih =>
      rw [List.map_cons, List.sum_cons, ← ih]
      rfl

private theorem sharedHits_total (list : List DispatchCounters) :
    (total list).sharedHits = (list.map sharedHits).sum := by
  induction list with
  | nil => rfl
  | cons first rest ih =>
      rw [List.map_cons, List.sum_cons, ← ih]
      rfl

private theorem balanced_total {ruleCount : Nat} {list : List DispatchCounters}
    (each : ∀ counters ∈ list, counters.Balanced ruleCount) : (total list).Balanced ruleCount := by
  induction list with
  | nil => exact balanced_zero ruleCount
  | cons first rest ih =>
      have hrest := ih fun counters member => each counters (List.mem_cons_of_mem first member)
      exact (each first List.mem_cons_self).add hrest

end DispatchCounters

/-! ## What a table is paid for its entries -/

private theorem SharedTable.size_insert_le (table : SharedTable) (kind : Kind) (entry : List Nat) :
    (table.insert kind entry).2.size ≤ table.size + 1 := by
  cases hpresent : table.get? kind with
  | some present =>
      rw [insert_of_present hpresent]
      exact Nat.le_succ _
  | none =>
      rw [insert_of_absent hpresent]
      exact Nat.le_of_eq (Memo.size_insert hpresent entry)

namespace Participant

def pending (who : Participant) : Nat :=
  match who.phase with
  | .outside | .idle => 0
  | .asking _ | .storing .. => 1

private theorem pending_of_idle {who : Participant} (idle : who.phase = .idle) :
    who.pending = 0 := by
  simp [pending, idle]

namespace Outcome

variable {who : Participant} {table : SharedTable} {after : Participant × SharedTable}

theorem table_size (outcome : Outcome who table after) :
    after.2.size + (after.1.dispatch.counters.sharedHits + after.1.pending) +
        who.dispatch.counters.misses ≤
      table.size + (who.dispatch.counters.sharedHits + who.pending) +
        after.1.dispatch.counters.misses := by
  cases outcome with
  | nothing => exact Nat.le_refl _
  | bound after outside memo => simp [pending, outside, SharedTable.size, memo]
  | hit kind entry idle known =>
      simp [pending, finish, idle, CachedDispatch.counters_countLookup_of_remembered known]
  | missed kind idle unknown =>
      simp [pending, idle, CachedDispatch.counters_countLookup_of_new unknown]
      omega
  | found kind entry asking present =>
      simp [pending, finish, asking, CachedDispatch.countSharedHit]
  | computed kind asking absent =>
      simp [pending, asking, CachedDispatch.evaluate]
  | stored kind own storing =>
      have hsize := table.size_insert_le kind own
      simp only [pending, finish, storing, CachedDispatch.counters_memoize]
      omega

end Outcome

end Participant

namespace Gathering

def misses (gathering : Gathering) : Nat :=
  (gathering.members.map (·.dispatch.counters.misses)).sum

/-- The misses that were answered by the table or have not been answered yet. -/
def unevaluated (gathering : Gathering) : Nat :=
  (gathering.members.map fun who => who.dispatch.counters.sharedHits + who.pending).sum

private theorem table_size_act (gathering : Gathering) (number : Nat) (move : Move) :
    (gathering.act number move).table.size + (gathering.act number move).unevaluated +
        gathering.misses ≤
      gathering.table.size + gathering.unevaluated + (gathering.act number move).misses := by
  rcases gathering.act_cases number move with same | ⟨who, after, hwho, outcome, hact⟩
  · exact Nat.le_of_eq (by rw [same])
  · have hstep := outcome.table_size
    have hmisses := sum_map_set hwho after.1 (·.dispatch.counters.misses)
    have hrest := sum_map_set hwho after.1
      fun who => who.dispatch.counters.sharedHits + who.pending
    rw [hact]
    simp only [misses, unevaluated] at *
    omega

/-- Under every schedule the entries a table gets are paid for by misses it did not answer. -/
theorem table_size_run (gathering : Gathering) (schedule : List (Nat × Move)) :
    (gathering.run schedule).table.size + (gathering.run schedule).unevaluated +
        gathering.misses ≤
      gathering.table.size + gathering.unevaluated + (gathering.run schedule).misses := by
  refine run_preserves (P := fun later =>
    later.table.size + later.unevaluated + gathering.misses ≤
      gathering.table.size + gathering.unevaluated + later.misses) ?_ (Nat.le_refl _) schedule
  intro later number move holds
  have hstep := later.table_size_act number move
  omega

end Gathering

/-! ## Kinds the table held from the start -/

namespace Participant

structure Served (known : SharedTable) (who : Participant) : Prop where
  storing : ∀ kind own, who.phase = .storing kind own → known.get? kind = none
  misses : (∀ answer ∈ who.answers, known.get? answer.1 ≠ none) →
    who.dispatch.counters.misses = who.dispatch.counters.sharedHits + who.pending

private theorem served_fresh (known : SharedTable) (rules : List Applicability) :
    (fresh rules).Served known :=
  ⟨by simp [fresh], fun _ => rfl⟩

theorem Outcome.served {known : SharedTable} {who : Participant} {table : SharedTable}
    {after : Participant × SharedTable} (grows : known.Grows table)
    (outcome : Outcome who table after) (served : who.Served known) : after.1.Served known := by
  have earlier : ∀ kind entry,
      (∀ answer ∈ (kind, entry) :: who.answers, known.get? answer.1 ≠ none) →
        who.dispatch.counters.misses = who.dispatch.counters.sharedHits + who.pending :=
    fun kind entry held =>
      served.misses fun answer member => held answer (List.mem_cons_of_mem _ member)
  cases outcome with
  | nothing => exact served
  | bound after outside memo =>
      refine ⟨by simp, fun held => ?_⟩
      simpa [pending, outside] using served.misses held
  | hit kind entry idle known =>
      refine ⟨by simp [finish], fun held => ?_⟩
      simpa [pending, finish, idle, CachedDispatch.counters_countLookup_of_remembered known] using
        earlier kind entry held
  | missed kind idle unknown =>
      refine ⟨by simp, fun held => ?_⟩
      simpa [pending, idle, CachedDispatch.counters_countLookup_of_new unknown] using
        served.misses held
  | found kind entry asking present =>
      refine ⟨by simp [finish], fun held => ?_⟩
      simpa [pending, finish, asking, CachedDispatch.countSharedHit] using earlier kind entry held
  | computed kind asking absent =>
      refine ⟨fun wanted own storing => ?_, fun held => ?_⟩
      · obtain ⟨rfl, -⟩ := Phase.storing.inj storing
        refine Option.eq_none_iff_forall_ne_some.mpr fun entry held => ?_
        rw [grows kind entry held] at absent
        contradiction
      · simpa [pending, asking, CachedDispatch.evaluate] using served.misses held
  | stored kind own storing =>
      -- whoever stores a kind has not found it, so it was not known before the pass
      refine ⟨by simp [finish], fun held => ?_⟩
      exact absurd (served.storing kind own storing) (held _ List.mem_cons_self)

end Participant

/-! ## One pass -/

def SharedTable.Covers (kinds : List Kind) (table : SharedTable) : Prop :=
  ∀ kind ∈ kinds, table.get? kind ≠ none

theorem SharedTable.Covers.distinctCount_le_size {kinds : List Kind} {table : SharedTable}
    (covers : table.Covers kinds) : Kind.distinctCount kinds ≤ table.size := by
  rw [size, Memo.size_eq_distinctCount]
  refine Kind.distinctCount_le_of_subset fun kind member => ?_
  rw [Memo.mem_keys, Option.isSome_iff_ne_none]
  exact covers kind member

namespace Passes

structure Finished (who : Participant) (chunk : List Forest) : Prop where
  idle : who.phase = .idle
  asked : who.answers.reverse.map (·.1) = corpusKinds chunk

private theorem Finished.mem_corpusKinds {who : Participant} {chunk : List Forest}
    (finished : Finished who chunk) {kind : Kind} :
    kind ∈ corpusKinds chunk ↔ ∃ entry, (kind, entry) ∈ who.answers := by
  rw [← finished.asked]
  simp

private theorem Finished.misses {who : Participant} {chunk : List Forest}
    (finished : Finished who chunk) (accounts : who.Accounts) :
    who.dispatch.counters.misses = Kind.distinctCount (corpusKinds chunk) := by
  obtain ⟨shared, spent⟩ := accounts.spent finished.idle
  rw [spent.counters, ← finished.asked]
  refine Kind.distinctCount_congr fun kind => ?_
  simp

private theorem gather_finished {table : SharedTable} {workers : List Participant}
    (byRules : ∀ who ∈ workers, ∀ answer ∈ who.answers,
      answer.2 = applicable visitorSet.rules answer.1)
    {chunks : List (List Forest)} {pass : ChunkTally}
    (hpass : gather visitorSet table workers chunks = some pass) :
    List.Forall₂ Finished workers chunks ∧
      pass.counters = DispatchCounters.total (workers.map (·.dispatch.counters)) ∧
      pass.table = table := by
  induction chunks generalizing workers pass with
  | nil =>
      cases workers with
      | nil =>
          obtain rfl := Option.some.inj hpass
          exact ⟨.nil, rfl, rfl⟩
      | cons worker workers => contradiction
  | cons chunk chunks ih =>
      cases workers with
      | nil => contradiction
      | cons worker workers =>
          simp only [gather, bind, Option.bind_eq_some_iff] at hpass
          obtain ⟨⟨forests, stats, counters⟩, htally, others, hothers, hpass⟩ := hpass
          obtain rfl := Option.some.inj hpass
          obtain ⟨finished, htotal, -⟩ :=
            ih (fun who member => byRules who (List.mem_cons_of_mem worker member)) hothers
          by_cases idle : worker.phase = .idle
          · rw [workerTally?_eq idle (byRules worker List.mem_cons_self)] at htally
            simp only [Option.ite_none_right_eq_some, Option.some.injEq, Prod.mk.injEq] at htally
            obtain ⟨asked, -, -, rfl⟩ := htally
            exact ⟨.cons ⟨idle, asked⟩ finished, by rw [htotal]; rfl, rfl⟩
          · simp [workerTally?, idle] at htally

def kindsPerChunk (chunks : List (List Forest)) : Nat :=
  (chunks.map fun chunk => Kind.distinctCount (corpusKinds chunk)).sum

section

variable {workers : List Participant} {chunks : List (List Forest)}

private theorem sum_misses (finished : List.Forall₂ Finished workers chunks)
    (accounts : ∀ who ∈ workers, who.Accounts) :
    (workers.map (·.dispatch.counters.misses)).sum = kindsPerChunk chunks := by
  induction finished with
  | nil => rfl
  | @cons who chunk workers chunks first rest ih =>
      have hrest := ih fun other member => accounts other (List.mem_cons_of_mem who member)
      rw [kindsPerChunk] at hrest ⊢
      rw [List.map_cons, List.sum_cons, List.map_cons, List.sum_cons, hrest,
        first.misses (accounts who List.mem_cons_self)]

private theorem idle_of_finished (finished : List.Forall₂ Finished workers chunks) :
    ∀ who ∈ workers, who.phase = .idle := by
  induction finished with
  | nil => simp
  | cons first rest ih => exact List.forall_mem_cons.mpr ⟨first.idle, ih⟩

private theorem mem_corpusKinds_flatten (finished : List.Forall₂ Finished workers chunks)
    {kind : Kind} : kind ∈ corpusKinds chunks.flatten ↔
      ∃ who ∈ workers, ∃ entry, (kind, entry) ∈ who.answers := by
  induction finished with
  | nil => simp [corpusKinds]
  | cons first rest ih =>
      rw [List.flatten_cons, corpusKinds_append, List.mem_append, ih, first.mem_corpusKinds]
      simp

end

/-- What a pass over some chunks spends, and what it leaves in the table it started with. -/
structure PassCosts (chunks : List (List Forest)) (table : SharedTable) (pass : ChunkTally) :
    Prop where
  balanced : pass.counters.Balanced 4
  misses : pass.counters.misses = kindsPerChunk chunks
  paid : pass.table.size + pass.counters.sharedHits ≤ table.size + pass.counters.misses
  covers : pass.table.Covers (corpusKinds chunks.flatten)
  served : table.Covers (corpusKinds chunks.flatten) →
    pass.counters.sharedHits = pass.counters.misses

theorem concurrentPass?_costs {chunks : List (List Forest)} {schedule : List (Nat × Move)}
    {table : SharedTable} (sound : table.memo.Sound visitorSet.rules) {pass : ChunkTally}
    (hpass : concurrentPass? .cached visitorSet chunks schedule table = some pass) :
    PassCosts chunks table pass := by
  let ruleLists := chunks.map fun _ => visitorSet.rules
  have common : ∀ own ∈ ruleLists, own = visitorSet.rules := by simp [ruleLists]
  obtain ⟨-, honest⟩ := Gathering.run_by_rules sound ruleLists common schedule
  have coherent := (Gathering.coherent_start table ruleLists).run schedule
  have served : ∀ who ∈ ((Gathering.start table ruleLists).run schedule).members,
      who.Served table := by
    refine Gathering.run_members (fun _ _ _ grows outcome served => outcome.served grows served) ?_
      schedule
    intro who member
    obtain ⟨own, -, rfl⟩ := List.mem_map.mp member
    exact Participant.served_fresh table own
  have paid := (Gathering.start table ruleLists).table_size_run schedule
  obtain ⟨finished, hcounters, htable⟩ :=
    gather_finished (fun who member => (honest who member).2) hpass
  have idle := idle_of_finished finished
  have hmisses := DispatchCounters.misses_total
    (((Gathering.start table ruleLists).run schedule).members.map (·.dispatch.counters))
  have hshared := DispatchCounters.sharedHits_total
    (((Gathering.start table ruleLists).run schedule).members.map (·.dispatch.counters))
  rw [← hcounters, List.map_map] at hmisses hshared
  refine ⟨?_, ?_, ?_, ?_, ?_⟩
  · rw [hcounters]
    refine DispatchCounters.balanced_total fun counters member => ?_
    obtain ⟨who, hwho, rfl⟩ := List.mem_map.mp member
    obtain ⟨shared, spent⟩ := (honest who hwho).1.spent (idle who hwho)
    have balanced := spent.balanced
    rwa [Gathering.rules_eq_of_mem_run table common hwho] at balanced
  · rw [hmisses]
    exact sum_misses finished fun who member => (honest who member).1
  · -- nobody had missed anything before, and nothing is pending any more
    have hbefore : (Gathering.start table ruleLists).misses = 0 ∧
        (Gathering.start table ruleLists).unevaluated = 0 := by
      simp [Gathering.misses, Gathering.unevaluated, Gathering.start, Participant.fresh,
        Participant.pending, CachedDispatch.ofRules, DispatchCounters.zero, Function.comp_def]
    have hafter : ((Gathering.start table ruleLists).run schedule).unevaluated =
        pass.counters.sharedHits := by
      rw [hshared, Gathering.unevaluated]
      congr 1
      refine List.map_congr_left fun who member => ?_
      simp [Participant.pending_of_idle (idle who member)]
    rw [hbefore.1, hbefore.2, Nat.add_zero, Nat.add_zero, hafter] at paid
    rw [htable, hmisses]
    exact paid
  · intro kind member
    obtain ⟨who, hwho, entry, given⟩ := (mem_corpusKinds_flatten finished).mp member
    rw [htable, coherent.answered hwho given]
    simp
  · intro covers
    rw [hshared, hmisses]
    congr 1
    refine List.map_congr_left fun who member => ?_
    have held : ∀ answer ∈ who.answers, table.get? answer.1 ≠ none := fun answer given =>
      covers answer.1 ((mem_corpusKinds_flatten finished).mpr ⟨who, member, answer.2, given⟩)
    have hwho := (served who member).misses held
    rw [Participant.pending_of_idle (idle who member)] at hwho
    exact hwho.symm

/-! ## All passes -/

/-- Passes one after the other that cut the corpus into chunks of one size, and what each of them
counted.  Each has some schedule, and starts when all workers of the one before it have finished. -/
inductive CutRun (visitors : VisitorSet CountingVisitor) (size : Nat) :
    SharedTable → Tally → List ChunkTally → Tally → Prop
  | done (table : SharedTable) (tally : Tally) : CutRun visitors size table tally [] tally
  | pass {table : SharedTable} {tally final : Tally} {pass : ChunkTally} {passes : List ChunkTally}
      (schedule : List (Nat × Move))
      (hpass :
        concurrentPass? .cached visitors (chunks size tally.forests) schedule table = some pass)
      (rest : CutRun visitors size pass.table (addPass tally pass) passes final) :
      CutRun visitors size table tally (pass :: passes) final

theorem cutRun_chunked (size iterations : Nat) {table : SharedTable}
    (sound : table.Sound visitorSet.rules) {tally final : Tally}
    (hfinal : chunked .cached visitorSet size iterations table tally = .ok final) :
    ∃ passes, passes.length = iterations ∧ CutRun visitorSet size table tally passes final := by
  induction iterations generalizing table tally with
  | zero =>
      obtain rfl := Except.ok.inj hfinal
      exact ⟨[], rfl, .done table tally⟩
  | succ iterations ih =>
      obtain ⟨pass, hpass, -, sound'⟩ := walkChunks_totals .cached (chunks size tally.forests) sound
      simp only [chunked, hpass, bind, Except.bind] at hfinal
      obtain ⟨passes, hlength, rest⟩ := ih sound' hfinal
      exact ⟨pass :: passes, congrArg Nat.succ hlength,
        .pass _ (concurrentPass?_turns .cached sound hpass) rest⟩

/-- What a number of passes have spent, `evaluated` times on evaluating the rules against a kind. -/
structure Spending (corpus : List Forest) (size iterations evaluated : Nat) (tally : Tally) :
    Prop where
  forests : tally.forests = corpus
  balanced : tally.dispatch.Balanced 4
  misses : tally.dispatch.misses = iterations * kindsPerChunk (chunks size corpus)
  evaluated : tally.dispatch.misses = tally.dispatch.sharedHits + evaluated

private theorem spending_initial (corpus : List Forest) (size : Nat) :
    Spending corpus size 0 0 (initial corpus) :=
  ⟨rfl, DispatchCounters.balanced_zero 4, by simp [initial, DispatchCounters.zero], rfl⟩

theorem Spending.add {corpus : List Forest} {size iterations evaluated evaluated' : Nat}
    {tally : Tally} (spending : Spending corpus size iterations evaluated tally)
    {table : SharedTable} {pass : ChunkTally} (forests : pass.forests = corpus)
    (costs : PassCosts (chunks size corpus) table pass)
    (hevaluated : pass.counters.misses = pass.counters.sharedHits + evaluated') :
    Spending corpus size (iterations + 1) (evaluated + evaluated') (addPass tally pass) := by
  have hbefore := spending.evaluated
  refine ⟨forests, spending.balanced.add costs.balanced, ?_, ?_⟩
  · simp only [addPass, DispatchCounters.add_def, spending.misses, costs.misses, Nat.succ_mul]
  · simp only [addPass, DispatchCounters.add_def]
    omega

theorem CutRun.step {corpus : List Forest} {size iterations evaluated : Nat} {table : SharedTable}
    (sound : table.memo.Sound visitorSet.rules) {tally : Tally}
    (spending : Spending corpus size iterations evaluated tally) {schedule : List (Nat × Move)}
    {pass : ChunkTally}
    (hpass : concurrentPass? .cached visitorSet (chunks size tally.forests) schedule table =
      some pass) :
    PassCosts (chunks size corpus) table pass ∧ pass.table.memo.Sound visitorSet.rules ∧
      ∀ evaluated', pass.counters.misses = pass.counters.sharedHits + evaluated' →
        Spending corpus size (iterations + 1) (evaluated + evaluated') (addPass tally pass) := by
  rw [spending.forests] at hpass
  have costs := concurrentPass?_costs sound hpass
  obtain ⟨totals, sound'⟩ := concurrentPass?_totals sound hpass
  rw [flatten_chunks] at totals
  exact ⟨costs, sound', fun evaluated' => spending.add totals.forests costs⟩

/-- Once the table has all kinds of the corpus, nothing is evaluated any more. -/
theorem CutRun.warm {corpus : List Forest} {size iterations evaluated : Nat} {table : SharedTable}
    {tally final : Tally} {passes : List ChunkTally}
    (run : CutRun visitorSet size table tally passes final)
    (sound : table.memo.Sound visitorSet.rules)
    (spending : Spending corpus size iterations evaluated tally)
    (covers : table.Covers (corpusKinds corpus)) :
    Spending corpus size (iterations + passes.length) evaluated final ∧
      ∀ pass ∈ passes, pass.counters.sharedHits = pass.counters.misses := by
  induction run generalizing iterations with
  | done table tally => exact ⟨spending, by simp⟩
  | @pass table tally final pass passes schedule hpass rest ih =>
      obtain ⟨costs, sound', later⟩ := CutRun.step sound spending hpass
      have hcovers := costs.covers
      have hserved := costs.served
      rw [flatten_chunks] at hcovers hserved
      obtain ⟨spending', hpasses⟩ := ih sound' (later 0 (hserved covers).symm) hcovers
      rw [Nat.add_assoc, Nat.add_comm 1] at spending'
      exact ⟨spending', List.forall_mem_cons.mpr ⟨hserved covers, hpasses⟩⟩

end Passes

/--
Several workers, each with its chunk of the corpus, under every schedule of every pass.  Their
misses are the distinct kinds of the chunks, once for each pass; every miss that the shared table
does not answer costs an evaluation of the four rules.  Of these there are at least as many as kinds
in the corpus and at most as many as kinds in the chunks, all of them in the first pass.  There are
never more chunks than workers, and the run as the program makes it is one of these runs.
-/
theorem costs_under_every_schedule {iterations jobs : Nat} (some : 1 ≤ iterations)
    (several : 2 ≤ jobs) (corpus : List Forest) :
    let size := Passes.chunkSize corpus.length jobs
    let chunks := Passes.chunks size corpus
    let kinds := (chunks.map fun chunk => Kind.distinctCount (corpusKinds chunk)).sum
    chunks.length ≤ jobs ∧ chunks.flatten = corpus ∧
      (∀ passes final,
        Passes.CutRun visitorSet size .empty (Passes.initial corpus) passes final →
        passes.length = iterations →
        final.dispatch.misses = iterations * kinds ∧
          final.dispatch.hits + final.dispatch.misses = final.dispatch.lookups ∧
          final.dispatch.sharedHits ≤ final.dispatch.misses ∧
          final.dispatch.applicabilityChecks =
            4 * (final.dispatch.misses - final.dispatch.sharedHits) ∧
          Kind.distinctCount (corpusKinds corpus) ≤
            final.dispatch.misses - final.dispatch.sharedHits ∧
          final.dispatch.misses - final.dispatch.sharedHits ≤ kinds ∧
          ∀ pass ∈ passes.tail, pass.counters.sharedHits = pass.counters.misses) ∧
      ∃ report passes final, runStrategy .cached iterations jobs corpus = .ok (report, corpus) ∧
        Passes.CutRun visitorSet size .empty (Passes.initial corpus) passes final ∧
        passes.length = iterations ∧ report.dispatch = final.dispatch := by
  intro size chunks kinds
  refine ⟨Passes.length_chunks_le corpus (by omega), Passes.flatten_chunks size corpus, ?_, ?_⟩
  · intro passes final run hlength
    cases run with
    | done table tally =>
        rw [List.length_nil] at hlength
        omega
    | @pass _ _ _ first passes schedule hpass rest =>
        -- the first pass fills the shared table, and the others find everything in it
        have empty := Memo.sound_empty visitorSet.rules
        obtain ⟨costs, sound, later⟩ :=
          Passes.CutRun.step empty (Passes.spending_initial corpus size) hpass
        have hcovers := costs.covers
        rw [Passes.flatten_chunks] at hcovers
        have hshared := costs.balanced.shared_le
        obtain ⟨spending, hpasses⟩ :=
          rest.warm sound (later (first.counters.misses - first.counters.sharedHits) (by omega))
            hcovers
        have hmisses := spending.misses
        have hevaluated := spending.evaluated
        have hfirst : first.counters.misses = kinds := costs.misses
        have hpaid : first.table.size + first.counters.sharedHits ≤
            SharedTable.empty.size + first.counters.misses := costs.paid
        have hempty : SharedTable.empty.size = 0 := by rfl
        have hdistinct := hcovers.distinctCount_le_size
        have hpasses' : 0 + 1 + passes.length = iterations := by
          rw [← hlength, List.length_cons]
          omega
        rw [hpasses'] at hmisses
        exact ⟨hmisses, spending.balanced.lookups, spending.balanced.shared_le,
          spending.balanced.checks, by omega, by omega, hpasses⟩
  · have sound := SharedTable.sound_empty visitorSet.rules
    obtain ⟨tally, hrun, totals, -⟩ := Passes.run_totals .cached iterations jobs corpus
    have single : ¬ jobs ≤ 1 := by omega
    have hchunked := hrun
    simp only [Passes.run, registered_eq, if_neg single] at hchunked
    obtain ⟨passes, hlength, run⟩ := Passes.cutRun_chunked size iterations sound hchunked
    refine ⟨⟨.cached, iterations, jobs, tally.nodesVisited, tally.lastPass, .zero, tally.dispatch,
      none⟩, passes, tally, ?_, run, hlength, rfl⟩
    rw [runStrategy, hrun, Except.map, totals.forests]

/-! Both workers evaluate the kind in the first pass, and the table answers both in the second. -/

theorem costs_under_every_schedule_race :
    ∃ passes final,
      Passes.CutRun visitorSet 1 .empty (Passes.initial structInTwoFiles) passes final ∧
        passes.length = 2 ∧ final.dispatch.misses = 4 ∧ final.dispatch.sharedHits = 2 ∧
        final.dispatch.applicabilityChecks = 8 := by
  obtain ⟨first, second, hfirst, hsecond, hshared⟩ : ∃ first second,
      Passes.concurrentPass? .cached visitorSet (Passes.chunks 1 structInTwoFiles) Gathering.race
          .empty = some first ∧
        Passes.concurrentPass? .cached visitorSet (Passes.chunks 1 first.forests) Gathering.race
          first.table = some second ∧
        (first.counters + second.counters).sharedHits = 2 :=
    ⟨_, _, rfl, rfl, rfl⟩
  let final := Passes.addPass (Passes.addPass (Passes.initial structInTwoFiles) first) second
  have run : Passes.CutRun visitorSet 1 .empty (Passes.initial structInTwoFiles) [first, second]
      final :=
    .pass Gathering.race hfirst (.pass Gathering.race hsecond (.done _ _))
  have costs := (costs_under_every_schedule (by decide : 1 ≤ 2) (by decide : 2 ≤ 2)
    structInTwoFiles).2.2.1 _ _ run rfl
  have hfinal : final.dispatch.sharedHits = 2 := by
    simpa [final, Passes.addPass, Passes.initial, DispatchCounters.add_def, DispatchCounters.zero]
      using hshared
  have hmisses : final.dispatch.misses = 4 := costs.1
  refine ⟨_, final, run, rfl, hmisses, hfinal, ?_⟩
  rw [costs.2.2.2.1, hmisses, hfinal]

end KindDispatch
