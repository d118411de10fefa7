import KindDispatch.Proofs.Bench.Counting

/-!
# What passes add up to

`Totals` says what passes over a corpus add up to: every node counted once in every pass, one lookup
for each, and the corpus as it was.  Both ways to make passes have these totals, the one that keeps a
single traverser and the one that cuts the corpus into chunks; where it is cut does not matter.
-/

namespace KindDispatch

open CountingVisitor

def corpusKinds (forests : List Forest) : List Kind := forests.flatMap Forest.kinds

theorem corpusKinds_append (first second : List Forest) :
    corpusKinds (first ++ second) = corpusKinds first ++ corpusKinds second :=
  List.flatMap_append

private theorem length_corpusKinds (corpus : List Forest) :
    (corpusKinds corpus).length = Forest.totalSize corpus := by
  induction corpus with
  | nil => rfl
  | cons forest rest ih =>
      have hforest : (Forest.kinds forest).length = Forest.size forest := by
        rw [Forest.kinds, List.length_map, Node.preorderList_eq_flatMap]
        exact forest.length_preorder
      rw [Forest.totalSize, List.map_cons, List.foldr_cons, ← Forest.totalSize, ← ih, ← hforest,
        corpusKinds, List.flatMap_cons, List.length_append]
      rfl

namespace Passes

variable {D : Type}

/-! ## Walks by the rules -/

private theorem inRange_sound [Dispatch D] [LawfulDispatch D] :
    InRange (fun dispatch : D => LawfulDispatch.Sound visitorSet.rules dispatch) where
  resolve _ kind sound := LawfulDispatch.sound_resolve sound kind
  lt_length dispatch kind sound index member := by
    rw [LawfulDispatch.resolve_fst sound kind] at member
    exact lt_length_of_mem_applicable member

private theorem walkEach_by_rules [Dispatch D] [LawfulDispatch D] (forests : List Forest)
    {dispatch : D} (sound : LawfulDispatch.Sound visitorSet.rules dispatch) :
    walkEach forests ⟨all.toArray, dispatch⟩ .zero =
      .ok (forests, ⟨all.toArray, (Dispatch.lookUps dispatch (corpusKinds forests)).2⟩,
        census (corpusKinds forests)) := by
  have hzero : PassStats.zero + census (corpusKinds forests) = census (corpusKinds forests) := by
    simp [PassStats.add_def, PassStats.zero]
  rw [walkEach_counts inRange_sound forests sound, Dispatch.lookUps_fst sound, foldl_countEach]
  exact congrArg (fun stats => Except.ok (forests, _, stats)) hzero

/-! ## One pass -/

structure PassTotals (strategy : Strategy) (corpus : List Forest) (pass : ChunkTally) : Prop where
  forests : pass.forests = corpus
  stats : pass.stats = census (corpusKinds corpus)
  lookups : pass.counters.lookups = (corpusKinds corpus).length
  naive : strategy = .naive →
    pass.counters =
      ⟨(corpusKinds corpus).length, 0, (corpusKinds corpus).length, 0,
        4 * (corpusKinds corpus).length⟩

theorem PassTotals.append {strategy : Strategy} {first second : List Forest}
    {pass pass' : ChunkTally} (totals : PassTotals strategy first pass)
    (totals' : PassTotals strategy second pass') (table : SharedTable) :
    PassTotals strategy (first ++ second)
      ⟨pass.forests ++ pass'.forests, pass.stats + pass'.stats, pass.counters + pass'.counters,
        table⟩ where
  forests := by rw [totals.forests, totals'.forests]
  stats := by
    rw [totals.stats, totals'.stats, corpusKinds_append, census_append]
  lookups := by
    simp [DispatchCounters.add_def, totals.lookups, totals'.lookups, corpusKinds_append]
  naive isNaive := by
    rw [totals.naive isNaive, totals'.naive isNaive]
    simp [DispatchCounters.add_def, corpusKinds_append, Nat.mul_add]

private theorem walkChunk_naive (table : SharedTable) (forests : List Forest) :
    walkChunk .naive visitorSet table forests =
      .ok ⟨forests, census (corpusKinds forests),
        (Dispatch.lookUps (NaiveDispatch.ofRules visitorSet.rules) (corpusKinds forests)).2.counters,
        table⟩ := by
  have hwalk := walkEach_by_rules forests (NaiveDispatch.sound_ofRules visitorSet.rules)
  simp only [walkChunk, Traverser.naive, visitors_visitorSet, hwalk]
  rfl

theorem walkChunk_cached {table bound : SharedTable}
    (hbind : table.bind visitorSet.rules.length = .ok bound)
    (sound : bound.Sound visitorSet.rules) (forests : List Forest) :
    walkChunk .cached visitorSet table forests =
      let after := (Dispatch.lookUps (SharedDispatch.mk (.ofRules visitorSet.rules) bound)
        (corpusKinds forests)).2
      .ok ⟨forests, census (corpusKinds forests), after.cached.counters, after.table⟩ := by
  have fresh : LawfulDispatch.Sound visitorSet.rules
      (SharedDispatch.mk (.ofRules visitorSet.rules) bound) :=
    SharedDispatch.sound_ofRules hbind sound
  have hwalk := walkEach_by_rules forests fresh
  simp only [walkChunk, Traverser.cachedShared, SharedDispatch.ofRules, hbind, Except.map,
    visitors_visitorSet, hwalk]
  rfl

private theorem walkChunk_naive_totals (table : SharedTable) (forests : List Forest) :
    ∃ pass, walkChunk .naive visitorSet table forests = .ok pass ∧
      PassTotals .naive forests pass ∧ pass.table = table := by
  have hcounters :=
    ((NaiveDispatch.spent_ofRules visitorSet.rules).lookUps (corpusKinds forests)).counters
  rw [Nat.zero_add, VisitorSet.length_rules, size_visitorSet] at hcounters
  refine ⟨_, walkChunk_naive table forests, ⟨rfl, rfl, ?_, fun _ => hcounters⟩, rfl⟩
  exact congrArg DispatchCounters.lookups hcounters

private theorem walkChunk_cached_totals {table : SharedTable} (sound : table.Sound visitorSet.rules)
    (forests : List Forest) :
    ∃ pass, walkChunk .cached visitorSet table forests = .ok pass ∧
      PassTotals .cached forests pass ∧ pass.table.Sound visitorSet.rules := by
  obtain ⟨bound, hbind, hbound⟩ := sound.bind
  have fresh : LawfulDispatch.Sound visitorSet.rules
      (SharedDispatch.mk (.ofRules visitorSet.rules) bound) :=
    SharedDispatch.sound_ofRules hbind hbound
  have sound' : SharedDispatch.Sound visitorSet.rules _ :=
    Dispatch.sound_lookUps fresh (corpusKinds forests)
  have unspent : (SharedDispatch.mk (.ofRules visitorSet.rules) bound).cached.Spent
      visitorSet.rules [] 0 := CachedDispatch.spent_ofRules visitorSet.rules
  obtain ⟨shared, spent⟩ := SharedDispatch.spent_lookUps unspent (corpusKinds forests)
  refine ⟨_, walkChunk_cached hbind hbound forests, ⟨rfl, rfl, ?_, nofun⟩, sound'.table⟩
  simpa using congrArg DispatchCounters.lookups spent.counters

private theorem walkChunks_totals_of {strategy : Strategy} {P : SharedTable → Prop}
    (one : ∀ table, P table → ∀ forests,
      ∃ pass, walkChunk strategy visitorSet table forests = .ok pass ∧
        PassTotals strategy forests pass ∧ P pass.table)
    (chunks : List (List Forest)) {table : SharedTable} (fits : P table) :
    ∃ pass, walkChunks strategy visitorSet chunks table = .ok pass ∧
      PassTotals strategy chunks.flatten pass ∧ P pass.table := by
  induction chunks generalizing table with
  | nil => exact ⟨_, rfl, ⟨rfl, rfl, rfl, fun _ => rfl⟩, fits⟩
  | cons chunk rest ih =>
      obtain ⟨first, hfirst, totals, fits'⟩ := one table fits chunk
      obtain ⟨others, hothers, totals', fits''⟩ := ih fits'
      refine ⟨_, ?_, totals.append totals' others.table, fits''⟩
      simp only [walkChunks, hfirst]
      simp only [bind, Except.bind, hothers]
      rfl

theorem walkChunks_naive_totals (chunks : List (List Forest)) (table : SharedTable) :
    ∃ pass, walkChunks .naive visitorSet chunks table = .ok pass ∧
      PassTotals .naive chunks.flatten pass ∧ pass.table = table := by
  refine walkChunks_totals_of (P := (· = table)) ?_ chunks rfl
  rintro _ rfl forests
  exact walkChunk_naive_totals _ forests

theorem walkChunks_totals (strategy : Strategy) (chunks : List (List Forest))
    {table : SharedTable} (sound : table.Sound visitorSet.rules) :
    ∃ pass, walkChunks strategy visitorSet chunks table = .ok pass ∧
      PassTotals strategy chunks.flatten pass ∧ pass.table.Sound visitorSet.rules := by
  cases strategy with
  | naive =>
      obtain ⟨pass, hpass, totals, rfl⟩ := walkChunks_naive_totals chunks table
      exact ⟨pass, hpass, totals, sound⟩
  | cached => exact walkChunks_totals_of (fun _ => walkChunk_cached_totals) chunks sound

/-! ## All passes -/

structure Totals (strategy : Strategy) (iterations : Nat) (corpus : List Forest)
    (tally : Tally) : Prop where
  forests : tally.forests = corpus
  nodesVisited : tally.nodesVisited = iterations * Forest.totalSize corpus
  lookups : tally.dispatch.lookups = tally.nodesVisited
  /-- Nothing is counted if there is no pass; otherwise the nodes, and among them the functions, the
  structs and the methods. -/
  lastPass : tally.lastPass = if iterations = 0 then ⟨0, 0, 0, 0⟩ else
    ⟨Forest.totalSize corpus, (corpusKinds corpus).count .function,
      (corpusKinds corpus).count .struct, (corpusKinds corpus).count .method⟩
  naive : strategy = .naive →
    tally.dispatch.hits = 0 ∧ tally.dispatch.misses = tally.dispatch.lookups ∧
      tally.dispatch.applicabilityChecks = 4 * tally.dispatch.lookups

def initial (corpus : List Forest) : Tally := ⟨0, .zero, .zero, corpus⟩

theorem totals_initial (strategy : Strategy) (corpus : List Forest) :
    Totals strategy 0 corpus (initial corpus) where
  forests := rfl
  nodesVisited := by simp [initial]
  lookups := rfl
  lastPass := rfl
  naive _ := ⟨rfl, rfl, rfl⟩

def addPass (tally : Tally) (pass : ChunkTally) : Tally :=
  ⟨tally.nodesVisited + pass.stats.nodesVisited, pass.stats, tally.dispatch + pass.counters,
    pass.forests⟩

theorem Totals.add {strategy : Strategy} {iterations : Nat} {corpus : List Forest} {tally : Tally}
    (totals : Totals strategy iterations corpus tally) {pass : ChunkTally}
    (passTotals : PassTotals strategy corpus pass) :
    Totals strategy (iterations + 1) corpus (addPass tally pass) := by
  have hsize := length_corpusKinds corpus
  have hpass : pass.stats.nodesVisited = Forest.totalSize corpus := by
    rw [passTotals.stats, ← hsize]
    rfl
  refine ⟨passTotals.forests, ?_, ?_, ?_, fun isNaive => ?_⟩
  · simp only [addPass, totals.nodesVisited, hpass, Nat.add_mul, Nat.one_mul]
  · simp only [addPass, DispatchCounters.add_def, totals.lookups, passTotals.lookups, hpass,
      hsize]
  · rw [if_neg (Nat.succ_ne_zero iterations), ← hsize]
    exact passTotals.stats
  · obtain ⟨hhits, hmisses, hchecks⟩ := totals.naive isNaive
    simp only [addPass, DispatchCounters.add_def, passTotals.naive isNaive, hhits, hmisses,
      hchecks, Nat.mul_add, and_self]

/-! ### With chunks -/

private theorem flatten_chunksFrom {α : Type} (size : Nat) (xs : List α) (room : Nat)
    (current : List α) : (chunksFrom size xs room current).flatten = current.reverse ++ xs := by
  induction xs generalizing room current with
  | nil =>
      cases current with
      | nil => rfl
      | cons first rest => simp [chunksFrom]
  | cons x rest ih =>
      cases room with
      | zero => simp [chunksFrom, ih]
      | succ room => simp [chunksFrom, ih]

theorem flatten_chunks {α : Type} (size : Nat) (xs : List α) : (chunks size xs).flatten = xs := by
  rw [chunks, flatten_chunksFrom]
  rfl

/-- All chunks but the last are full, so their number is the quotient rounded up. -/
theorem length_chunksFrom_mul_lt {α : Type} {size : Nat} (positive : 0 < size) (xs : List α)
    {room : Nat} {current : List α} (filled : current.length + room = size) :
    (chunksFrom size xs room current).length * size < current.length + xs.length + size := by
  induction xs generalizing room current with
  | nil =>
      cases current with
      | nil => simpa [chunksFrom] using positive
      | cons first rest => simp [chunksFrom]
  | cons x rest ih =>
      cases room with
      | zero =>
          have cut : [x].length + (size - 1) = size := by
            rw [List.length_singleton]
            omega
          have hrest := ih cut
          simp only [chunksFrom, List.length_cons, List.length_nil, Nat.succ_mul] at hrest ⊢
          omega
      | succ room =>
          have grown : (x :: current).length + room = size := by
            rw [List.length_cons]
            omega
          have hrest := ih grown
          simp only [chunksFrom, List.length_cons] at hrest ⊢
          omega

theorem length_chunks_le {α : Type} (xs : List α) {jobs : Nat} (some : 1 ≤ jobs) :
    (chunks (chunkSize xs.length jobs) xs).length ≤ jobs := by
  have positive : 0 < chunkSize xs.length jobs := Nat.le_max_right _ _
  have empty : ([] : List α).length + chunkSize xs.length jobs = chunkSize xs.length jobs :=
    Nat.zero_add _
  have hlength := length_chunksFrom_mul_lt positive xs empty
  have hquotient : xs.length ≤ jobs * chunkSize xs.length jobs := by
    have hdivision := Nat.div_add_mod (xs.length + jobs - 1) jobs
    have hrest : (xs.length + jobs - 1) % jobs < jobs := Nat.mod_lt _ some
    calc xs.length
        ≤ jobs * ((xs.length + jobs - 1) / jobs) := by omega
      _ ≤ jobs * chunkSize xs.length jobs := Nat.mul_le_mul_left jobs (Nat.le_max_left _ _)
  have hless : (chunks (chunkSize xs.length jobs) xs).length * chunkSize xs.length jobs <
      (jobs + 1) * chunkSize xs.length jobs := by
    rw [chunks, Nat.succ_mul]
    simp only [List.length_nil] at hlength
    omega
  exact Nat.le_of_lt_succ (Nat.lt_of_mul_lt_mul_right hless)

theorem chunked_totals (strategy : Strategy) (size iterations : Nat) {done : Nat}
    {corpus : List Forest} {table : SharedTable} (sound : table.Sound visitorSet.rules)
    {tally : Tally} (totals : Totals strategy done corpus tally) :
    ∃ final, chunked strategy visitorSet size iterations table tally = .ok final ∧
      Totals strategy (done + iterations) corpus final := by
  induction iterations generalizing done table tally with
  | zero => exact ⟨tally, rfl, totals⟩
  | succ iterations ih =>
      obtain ⟨pass, hpass, passTotals, sound'⟩ :=
        walkChunks_totals strategy (chunks size tally.forests) sound
      rw [flatten_chunks, totals.forests] at passTotals
      obtain ⟨final, hfinal, totals'⟩ := ih sound' (totals.add passTotals)
      refine ⟨final, ?_, ?_⟩
      · rw [chunked, hpass]
        exact hfinal
      · rwa [Nat.add_assoc, Nat.add_comm 1] at totals'

/-! ### With one traverser -/

def repeated (iterations : Nat) (kinds : List Kind) : List Kind :=
  (List.replicate iterations kinds).flatten

private theorem length_repeated (iterations : Nat) (kinds : List Kind) :
    (repeated iterations kinds).length = iterations * kinds.length := by
  simp [repeated]

private theorem distinctCount_repeated {iterations : Nat} (some : 1 ≤ iterations)
    (kinds : List Kind) :
    Kind.distinctCount (repeated iterations kinds).reverse = Kind.distinctCount kinds := by
  have : iterations ≠ 0 := by omega
  refine Kind.distinctCount_congr fun kind => ?_
  simp [repeated, this]

private theorem warm_eq [Dispatch D] [LawfulDispatch D] (iterations : Nat) {dispatch : D}
    (sound : LawfulDispatch.Sound visitorSet.rules dispatch) (tally : Tally) :
    warm iterations ⟨all.toArray, dispatch⟩ tally =
      .ok
        { nodesVisited := tally.nodesVisited + iterations * (corpusKinds tally.forests).length
          lastPass := if iterations = 0 then tally.lastPass else census (corpusKinds tally.forests)
          dispatch := Dispatch.counters
            (Dispatch.lookUps dispatch (repeated iterations (corpusKinds tally.forests))).2
          forests := tally.forests } := by
  induction iterations generalizing dispatch tally with
  | zero => simp [warm, repeated]
  | succ iterations ih =>
      have hnext := ih (Dispatch.sound_lookUps sound (corpusKinds tally.forests))
        { tally with
          nodesVisited := tally.nodesVisited + (census (corpusKinds tally.forests)).nodesVisited
          lastPass := census (corpusKinds tally.forests) }
      have hsum : tally.nodesVisited + (corpusKinds tally.forests).length +
          iterations * (corpusKinds tally.forests).length =
          tally.nodesVisited + (iterations + 1) * (corpusKinds tally.forests).length := by
        rw [Nat.succ_mul]
        omega
      rw [warm, walkEach_by_rules tally.forests sound]
      refine Eq.trans hnext ?_
      simp [repeated, List.replicate_succ, Dispatch.lookUps_append, census, hsum]

theorem warm_totals [Dispatch D] [LawfulDispatch D] (strategy : Strategy) (iterations : Nat)
    (corpus : List Forest) {dispatch : D} (sound : LawfulDispatch.Sound visitorSet.rules dispatch)
    {counters : DispatchCounters}
    (hcounters : Dispatch.counters
      (Dispatch.lookUps dispatch (repeated iterations (corpusKinds corpus))).2 = counters)
    (lookups : counters.lookups = iterations * (corpusKinds corpus).length)
    (naive : strategy = .naive → counters.hits = 0 ∧ counters.misses = counters.lookups ∧
      counters.applicabilityChecks = 4 * counters.lookups) :
    ∃ final, warm iterations ⟨all.toArray, dispatch⟩ (initial corpus) = .ok final ∧
      Totals strategy iterations corpus final ∧ final.dispatch = counters := by
  have hsize := length_corpusKinds corpus
  refine ⟨_, warm_eq iterations sound (initial corpus), ⟨rfl, ?_, ?_, ?_, ?_⟩, hcounters⟩
  · simp [initial, hsize]
  · simp [initial, hcounters, lookups]
  · rw [← hsize]
    rfl
  · intro isNaive
    simp only [initial, hcounters]
    exact naive isNaive

theorem run_totals (strategy : Strategy) (iterations jobs : Nat) (corpus : List Forest) :
    ∃ tally, run strategy iterations jobs corpus = .ok tally ∧
      Totals strategy iterations corpus tally ∧
      (strategy = .cached → jobs ≤ 1 → 1 ≤ iterations →
        tally.dispatch.misses = Kind.distinctCount (corpusKinds corpus) ∧
          tally.dispatch.hits = tally.dispatch.lookups - tally.dispatch.misses ∧
          tally.dispatch.sharedHits = 0 ∧
          tally.dispatch.applicabilityChecks = 4 * tally.dispatch.misses) := by
  unfold run
  rw [registered_eq]
  by_cases single : jobs ≤ 1
  · simp only [if_pos single]
    cases strategy with
    | naive =>
        have spent := (NaiveDispatch.spent_ofRules visitorSet.rules).lookUps
          (repeated iterations (corpusKinds corpus))
        obtain ⟨final, hfinal, totals, -⟩ := warm_totals .naive iterations corpus
          (NaiveDispatch.sound_ofRules visitorSet.rules) spent.counters
          (by simp [length_repeated]) (by simp)
        exact ⟨final, hfinal, totals, nofun⟩
    | cached =>
        have sound : LawfulDispatch.Sound visitorSet.rules
            (CachedDispatch.ofRules visitorSet.rules) :=
          CachedDispatch.sound_ofRules visitorSet.rules
        have spent := (CachedDispatch.spent_ofRules visitorSet.rules).lookUps
          (repeated iterations (corpusKinds corpus))
        obtain ⟨final, hfinal, totals, hdispatch⟩ := warm_totals .cached iterations corpus sound
          spent.counters (by simp [length_repeated]) nofun
        refine ⟨final, hfinal, totals, fun _ _ some => ?_⟩
        rw [hdispatch]
        simp [distinctCount_repeated some]
  · simp only [if_neg single]
    obtain ⟨final, hfinal, totals⟩ := chunked_totals strategy (chunkSize corpus.length jobs)
      iterations (SharedTable.sound_empty visitorSet.rules) (totals_initial strategy corpus)
    rw [Nat.zero_add] at totals
    exact ⟨final, hfinal, totals, fun _ hjobs => absurd hjobs single⟩

end Passes

end KindDispatch
