import KindDispatch.Proofs.Traversal.Record

/-!
# Two walks side by side

Two walks of the same node may differ in their visitors, in the state of the caller and in how they
dispatch.  If a relation between their states is kept when a node is counted, when a kind is looked
up and when the visitors found are called, then it is kept by the walks, and both leave the same
node in the same way.
-/

namespace KindDispatch

variable {V V' S S' D D' : Type}

/-! ## One call -/

namespace Progress

variable {hooks : Hooks V S} {hook : Hook} {index : Nat} {node : Node} {progress : Progress V S}

theorem call_of_outOfRange (outside : ¬index < progress.visitors.size) :
    progress.call hooks hook index node = .error .outOfRange := by
  simp [call, outside]

theorem call_of_refuses (inRange : index < progress.visitors.size)
    (refuses : hooks.accepts progress.visitors[index] node = false) :
    progress.call hooks hook index node = .ok (.proceed, progress) := by
  simp [call, inRange, refuses]

theorem call_of_accepts (inRange : index < progress.visitors.size)
    (accepts : hooks.accepts progress.visitors[index] node = true) {result : VisitResult}
    {visitor : V} {state : S}
    (answer : hooks.call hook progress.visitors[index] node progress.state =
      (result, visitor, state)) :
    progress.call hooks hook index node =
      .ok (result, Recorded.answered progress ⟨index, hook, node, result⟩
        (progress.visitors.set index visitor) state) := by
  simp [call, inRange, accepts, answer, Recorded.answered]

end Progress

/-! ## Walks -/

namespace Owned

/-- A relation between the states of two walks that the parts of a walk keep; `same` is how the
lists that they look up are related. -/
structure Parallel [Dispatch D] [Dispatch D'] (hooks : Hooks V S) (hooks' : Hooks V' S')
    (R : Progress V S × D → Progress V' S' × D' → Prop) (same : List Nat → List Nat → Prop) :
    Prop where
  countNode : ∀ {progress dispatch progress' dispatch'},
    R (progress, dispatch) (progress', dispatch') →
      R (progress.countNode, dispatch) (progress'.countNode, dispatch')
  resolve : ∀ {progress dispatch progress' dispatch'},
    R (progress, dispatch) (progress', dispatch') → ∀ kind,
      same (Dispatch.resolve dispatch kind).1 (Dispatch.resolve dispatch' kind).1 ∧
        R (progress, (Dispatch.resolve dispatch kind).2)
          (progress', (Dispatch.resolve dispatch' kind).2)
  callEach : ∀ {progress dispatch progress' dispatch' indices indices'},
    R (progress, dispatch) (progress', dispatch') → same indices indices' →
      ∀ hook node skip,
        Alike (fun called called' =>
            called.1 = called'.1 ∧ R (called.2, dispatch) (called'.2, dispatch'))
          (progress.callEach hooks hook indices node skip)
          (progress'.callEach hooks' hook indices' node skip)

namespace Parallel

variable [Dispatch D] [Dispatch D'] {hooks : Hooks V S} {hooks' : Hooks V' S'}
  {R : Progress V S × D → Progress V' S' × D' → Prop} {same : List Nat → List Nat → Prop}
  {walk : Progress V S × D} {walk' : Progress V' S' × D'} {indices indices' : List Nat}

theorem leave (parallel : Parallel hooks hooks' R same) (entered : Kind) (left : Node)
    (related : R walk walk') (found : same indices indices') :
    Alike R (leave hooks entered indices left walk) (leave hooks' entered indices' left walk') := by
  obtain ⟨progress, dispatch⟩ := walk
  obtain ⟨progress', dispatch'⟩ := walk'
  have chosen : same
        (if left.kind ≠ entered then Dispatch.resolve dispatch left.kind else (indices, dispatch)).1
        (if left.kind ≠ entered then Dispatch.resolve dispatch' left.kind
          else (indices', dispatch')).1 ∧
      R (progress, (if left.kind ≠ entered then Dispatch.resolve dispatch left.kind
          else (indices, dispatch)).2)
        (progress', (if left.kind ≠ entered then Dispatch.resolve dispatch' left.kind
          else (indices', dispatch')).2) := by
    by_cases changed : left.kind ≠ entered
    · simpa only [if_pos changed] using parallel.resolve related left.kind
    · simpa only [if_neg changed] using And.intro found related
  unfold Owned.leave
  rcases (parallel.callEach chosen.2 chosen.1 .leave left false).outcomes with
    ⟨cause, hcalls, hcalls'⟩ | ⟨step, left, called, called', hcalls, hcalls', -, related⟩
  · simp only [hcalls, hcalls']
    exact .halt cause
  · simp only [hcalls, hcalls']
    exact .done step left related

theorem node (parallel : Parallel hooks hooks' R same) (depth : Nat) (target : Node)
    (related : R walk walk') :
    Alike R (node hooks depth target walk) (node hooks' depth target walk') := by
  induction depth generalizing target walk walk' with
  | zero => exact .halt .tooDeep
  | succ depth ih =>
      obtain ⟨progress, dispatch⟩ := walk
      obtain ⟨progress', dispatch'⟩ := walk'
      obtain ⟨found, related⟩ := parallel.resolve related target.kind
      have children : ∀ nodes walk walk', R walk walk' →
          Alike R (Walk.sequence (Owned.node hooks depth) [] nodes walk)
            (Walk.sequence (Owned.node hooks' depth) [] nodes walk') :=
        fun nodes _ _ related => Walk.sequence_alike (fun target _ _ => ih target) [] nodes related
      simp only [Owned.node]
      rcases (parallel.callEach (parallel.countNode related) found .enter target false).outcomes
        with ⟨cause, henter, henter'⟩ |
          ⟨step, entered, ⟨skip, progress⟩, ⟨skip', progress'⟩, henter, henter', rfl, related⟩
      · rw [henter, henter']
        exact .halt cause
      · rw [henter, henter']
        cases step with
        | remove => exact .done .remove entered related
        | stop => exact .done .stop entered related
        | keep =>
            simp only
            rcases (Walk.descend_alike children skip entered related).outcomes with
              ⟨cause, hdescend, hdescend'⟩ |
                ⟨step, left, walk, walk', hdescend, hdescend', related⟩
            · rw [hdescend, hdescend']
              exact .halt cause
            · rw [hdescend, hdescend']
              cases step with
              | stop => exact .done .stop left related
              | keep => exact parallel.leave target.kind left related found
              | remove => exact parallel.leave target.kind left related found

theorem forests (parallel : Parallel hooks hooks' R same) (depth : Nat) (forests : List Forest)
    (related : R walk walk') :
    Alike R (Walk.forests (Owned.node hooks depth) forests walk)
      (Walk.forests (Owned.node hooks' depth) forests walk') :=
  Walk.forests_alike (fun target _ _ => parallel.node depth target) forests related

end Parallel

end Owned

/-! ## Sessions -/

/-- Two sessions whose walks go side by side both end or both do not. -/
theorem Owned.Parallel.traverseAll [Dispatch D] [Dispatch D'] {hooks : Hooks V S}
    {hooks' : Hooks V' S'} {R : Progress V S × D → Progress V' S' × D' → Prop}
    {same : List Nat → List Nat → Prop} (parallel : Parallel hooks hooks' R same) (depth : Nat)
    {traverser : Traverser V D} {traverser' : Traverser V' D'} (forests : List Forest) {state : S}
    {state' : S'} (related : R (traverser.start state) (traverser'.start state')) :
    (∃ cause, traverser.traverseAll hooks depth forests state = .error cause ∧
        traverser'.traverseAll hooks' depth forests state' = .error cause) ∨
      ∃ left walk walk', traverser.traverseAll hooks depth forests state =
          .ok (.ofWalk left walk) ∧
        traverser'.traverseAll hooks' depth forests state' = .ok (.ofWalk left walk') ∧
        R walk walk' := by
  rw [Traverser.traverseAll_eq_owned, Traverser.traverseAll_eq_owned]
  rcases (parallel.forests depth forests related).outcomes with
    ⟨cause, hwalk, hwalk'⟩ | ⟨step, left, walk, walk', hwalk, hwalk', related⟩
  · rw [hwalk, hwalk']
    exact .inl ⟨cause, rfl, rfl⟩
  · rw [hwalk, hwalk']
    exact .inr ⟨left, walk, walk', rfl, rfl, related⟩

end KindDispatch
