import KindDispatch.Proofs.Traversal.Record

/-!
# Sessions that come to an end

A walk goes down into whatever its visitors put in the place of a node, so it need not end.  It does
end if growth is paid for: if there is a number, read off the visitors and the state of the caller,
that no call increases and that every call decreases which replaces a node by a larger one on
entering it.

Along a walk either this number gets smaller or the nodes do.  That is the induction of
`Recorded.node_settles`, first on the number and then on the size of the node.
-/

namespace KindDispatch

variable {V S D W A B P Q : Type}

/-- Visitors for which `holds` pay with `potential` for the nodes they let grow on entering. -/
structure Paid (hooks : Hooks V S) (holds : Array V → S → Prop) (potential : Array V → S → Nat) :
    Prop where
  call : ∀ {visitors : Array V} {state : S} {index : Nat} (inRange : index < visitors.size)
    {hook : Hook} {node : Node} {result : VisitResult} {visitor : V} {state' : S},
    holds visitors state → hooks.accepts visitors[index] node = true →
    hooks.call hook visitors[index] node state = (result, visitor, state') →
      holds (visitors.set index visitor) state' ∧
      potential (visitors.set index visitor) state' ≤ potential visitors state ∧
      ∀ other, hook = .enter → result = .replace other → node.size < other.size →
        potential (visitors.set index visitor) state' < potential visitors state

/-- Dispatchers for which `named` holds name only the first `count` visitors, and lookups do not
lead out of them. -/
def Dispatch.Names [Dispatch D] (count : Nat) (named : D → Prop) : Prop :=
  ∀ dispatch kind, named dispatch →
    (∀ index ∈ (Dispatch.resolve dispatch kind).1, index < count) ∧
      named (Dispatch.resolve dispatch kind).2

theorem LawfulDispatch.names [Dispatch D] [LawfulDispatch D] (rules : List Applicability) :
    Dispatch.Names rules.length (Sound rules : D → Prop) := by
  refine fun dispatch kind sound => ⟨fun index member => ?_, ?_⟩
  · rw [resolve_fst sound kind] at member
    exact lt_length_of_mem_applicable member
  · exact sound_resolve sound kind

/-- A call that does not let a node grow on entering it. -/
def VisitorCall.Modest (call : VisitorCall) : Prop :=
  call.hook = .enter → ∀ other, call.result = .replace other → other.size ≤ call.node.size

namespace Recorded

/-! ## Runs that settle -/

/-- From some bound on the depth on, the run ends, always in the same way, and with `Q`. -/
def Settles (Q : A → W → Prop) (run : Nat → Part P A W) : Prop :=
  ∃ step value moments walk, Q value walk ∧
    ∃ bound, ∀ depth, bound ≤ depth → run depth = .ok (step, value, moments, walk)

namespace Settles

variable {R : A → W → Prop} {R' : B → W → Prop}

theorem ok {step : Step} {value : A} {moments : List (Moment P)} {walk : W} (holds : R value walk) :
    Settles R fun _ => .ok (step, value, moments, walk) :=
  ⟨step, value, moments, walk, holds, 0, fun _ _ => rfl⟩

theorem mono {run : Nat → Part P A W} (settles : Settles R run)
    {T : A → W → Prop} (weaker : ∀ value walk, R value walk → T value walk) : Settles T run := by
  obtain ⟨step, value, moments, walk, holds, ends⟩ := settles
  exact ⟨step, value, moments, walk, weaker _ _ holds, ends⟩

theorem of_succ {run : Nat → Part P A W}
    (settles : Settles R fun depth => run (depth + 1)) : Settles R run := by
  obtain ⟨step, value, moments, walk, holds, bound, ends⟩ := settles
  refine ⟨step, value, moments, walk, holds, bound + 1, fun depth deep => ?_⟩
  obtain ⟨depth, rfl⟩ : ∃ less, depth = less + 1 := ⟨depth - 1, by omega⟩
  exact ends depth (by omega)

theorem relocate {run : Nat → Part P A W} (settles : Settles R run) (change : P → Q) {outer : A → B}
    (outside : ∀ value walk, R value walk → R' (outer value) walk) :
    Settles R' fun depth => relocate change outer (run depth) := by
  obtain ⟨step, value, moments, walk, holds, bound, ends⟩ := settles
  refine ⟨step, outer value, moments.map (.map change), walk, outside _ _ holds, bound, ?_⟩
  intro depth deep
  simp only [ends depth deep]
  rfl

theorem andThen {first : Nat → Part P A W} (settles : Settles R first) (exit : A → B)
    (stopped : ∀ value walk, R value walk → R' (exit value) walk)
    {next : Nat → Step → A → W → Part P B W}
    (goes : ∀ step value walk, R value walk → Settles R' fun depth => next depth step value walk) :
    Settles R' fun depth => andThen (first depth) exit (next depth) := by
  obtain ⟨step, value, early, walk, holds, bound, ends⟩ := settles
  by_cases stop : step = .stop
  · subst stop
    refine ⟨.stop, exit value, early, walk, stopped _ _ holds, bound, fun depth deep => ?_⟩
    simp only [ends depth deep]
    rfl
  · obtain ⟨step', value', late, walk', holds', bound', ends'⟩ := goes step value walk holds
    -- deep enough for both parts
    refine ⟨step', value', early ++ late, walk', holds', max bound bound', fun depth deep => ?_⟩
    have hfirst := ends depth (by omega)
    have hnext := ends' depth (by omega)
    simp only [hfirst, andThen_of_ne stop, hnext]
    rfl

end Settles

/-! ## Growth that is paid for -/

section

variable {hooks : Hooks V S} {holds : Array V → S → Prop}
  {potential : Array V → S → Nat} {count : Nat} {named : D → Prop}

structure Solvent (holds : Array V → S → Prop) (count : Nat) (named : D → Prop)
    (walk : Progress V S × D) : Prop where
  holds : holds walk.1.visitors walk.1.state
  size : walk.1.visitors.size = count
  named : named walk.2

def funds (potential : Array V → S → Nat) (walk : Progress V S × D) : Nat :=
  potential walk.1.visitors walk.1.state

structure Spends (holds : Array V → S → Prop) (potential : Array V → S → Nat) (count : Nat)
    (named : D → Prop) (before after : Progress V S × D) : Prop where
  solvent : Solvent holds count named after
  funds_le : funds potential after ≤ funds potential before

private theorem call_settles (paid : Paid hooks holds potential) (hook : Hook) {index : Nat}
    (inRange : index < count) (target : Node × Bool) {walk : Progress V S × D}
    (solvent : Solvent holds count named walk) :
    Settles (fun left after => Spends holds potential count named walk after ∧ (hook = .enter →
        left.1.size ≤ target.1.size ∨ funds potential after < funds potential walk))
      fun _ => call hooks hook index target walk := by
  obtain ⟨node, skip⟩ := target
  obtain ⟨progress, dispatch⟩ := walk
  have hindex : index < progress.visitors.size := by rwa [solvent.size]
  cases haccepts : hooks.accepts progress.visitors[index] node with
  | false =>
      simp only [call_of_not_accepts hooks hook node skip progress dispatch hindex haccepts]
      exact .ok ⟨⟨solvent, Nat.le_refl _⟩, fun _ => .inl (Nat.le_refl _)⟩
  | true =>
      rcases hanswer : hooks.call hook progress.visitors[index] node progress.state with
        ⟨result, visitor, state⟩
      obtain ⟨hholds, hle, hlt⟩ := paid.call hindex solvent.holds haccepts hanswer
      simp only [call_of_accepts hooks hook node skip progress dispatch hindex haccepts hanswer]
      refine .ok ⟨⟨⟨hholds, ?_, solvent.named⟩, hle⟩, fun entering => ?_⟩
      · simpa [answered] using solvent.size
      · cases hresult : result with
        | replace other =>
            by_cases grows : node.size < other.size
            · exact .inr (hlt other entering hresult grows)
            · exact .inl (by simpa [VisitResult.leaving] using grows)
        | _ => exact .inl (Nat.le_refl _)

private theorem callEach_settles (paid : Paid hooks holds potential) (hook : Hook)
    {indices : List Nat}
    (inRange : ∀ index ∈ indices, index < count) (target : Node × Bool) {walk : Progress V S × D}
    (solvent : Solvent holds count named walk) :
    Settles (fun left after => Spends holds potential count named walk after ∧ (hook = .enter →
        left.1.size ≤ target.1.size ∨ funds potential after < funds potential walk))
      fun _ => callEach hooks hook indices target walk := by
  induction indices generalizing target walk with
  | nil => exact .ok ⟨⟨solvent, Nat.le_refl _⟩, fun _ => .inl (Nat.le_refl _)⟩
  | cons index rest ih =>
      obtain ⟨hindex, hrest⟩ := List.forall_mem_cons.mp inRange
      refine (call_settles paid hook hindex target solvent).andThen id (fun _ _ h => h) ?_
      rintro step left after ⟨spends, grown⟩
      split
      · exact .ok ⟨spends, grown⟩
      · refine (ih hrest left spends.solvent).mono ?_
        rintro left' after' ⟨spends', grown'⟩
        have := spends.funds_le
        have := spends'.funds_le
        refine ⟨⟨spends'.solvent, by omega⟩, fun entering => ?_⟩
        have := grown entering
        have := grown' entering
        omega

theorem sequence_settles {limit : Nat}
    {walkOne : Nat → Node → Progress V S × D → Part Place Node (Progress V S × D)}
    (done : List Node) {rest : List Node}
    (one : ∀ node ∈ rest, ∀ walk, Solvent holds count named walk → funds potential walk ≤ limit →
      Settles (fun _ after => Spends holds potential count named walk after)
        fun depth => walkOne depth node walk)
    {walk : Progress V S × D} (solvent : Solvent holds count named walk)
    (enough : funds potential walk ≤ limit) :
    Settles (fun _ after => Spends holds potential count named walk after)
      fun depth => sequence (walkOne depth) done rest walk := by
  induction rest generalizing done walk with
  | nil => exact .ok ⟨solvent, Nat.le_refl _⟩
  | cons node rest ih =>
      obtain ⟨hnode, hrest⟩ := List.forall_mem_cons.mp one
      have first : Settles (fun _ after => Spends holds potential count named walk after)
          fun depth => relocate (Place.within done.reverse rest) id (walkOne depth node walk) :=
        (hnode walk solvent enough).relocate _ fun _ _ h => h
      refine first.andThen (fun left => done.reverse ++ left :: rest) (fun _ _ h => h) ?_
      intro step left after spends
      have := spends.funds_le
      refine (ih _ hrest spends.solvent (by omega)).mono fun _ after' spends' => ?_
      have := spends'.funds_le
      exact ⟨spends'.solvent, by omega⟩

variable [Dispatch D]

private theorem leave_settles (paid : Paid hooks holds potential)
    (names : Dispatch.Names count named)
    (entered : Kind) {indices : List Nat} (inRange : ∀ index ∈ indices, index < count)
    (left : Node) {walk : Progress V S × D} (solvent : Solvent holds count named walk) :
    Settles (fun _ after => Spends holds potential count named walk after)
      fun _ => leave hooks entered indices left walk := by
  obtain ⟨progress, dispatch⟩ := walk
  obtain ⟨hanswer, hnamed⟩ := names dispatch left.kind solvent.named
  by_cases changed : left.kind ≠ entered
  · simp only [leave, if_pos changed]
    have solvent' : Solvent holds count named (progress, (Dispatch.resolve dispatch left.kind).2) :=
      ⟨solvent.holds, solvent.size, hnamed⟩
    refine (callEach_settles paid .leave hanswer (left, false) solvent').relocate _ ?_
    rintro _ after ⟨spends, -⟩
    exact ⟨spends.solvent, spends.funds_le⟩
  · simp only [leave, if_neg changed]
    refine (callEach_settles paid .leave inRange (left, false) solvent).relocate _ ?_
    rintro _ after ⟨spends, -⟩
    exact spends

theorem node_settles (paid : Paid hooks holds potential) (names : Dispatch.Names count named)
    (limit size : Nat) (target : Node) {walk : Progress V S × D}
    (solvent : Solvent holds count named walk) (enough : funds potential walk ≤ limit)
    (small : target.size ≤ size) :
    Settles (fun _ after => Spends holds potential count named walk after)
      fun depth => node hooks depth target walk := by
  -- lexicographically on the funds left, then on the size of the node
  induction limit using Nat.strongRecOn generalizing size target walk with
  | ind limit ihLimit =>
  induction size using Nat.strongRecOn generalizing target walk with
  | ind size ihSize =>
      obtain ⟨progress, dispatch⟩ := walk
      obtain ⟨hanswer, hnamed⟩ := names dispatch target.kind solvent.named
      have counted : Solvent holds count named
          (progress.countNode, (Dispatch.resolve dispatch target.kind).2) :=
        ⟨solvent.holds, solvent.size, hnamed⟩
      refine .of_succ ?_
      refine (callEach_settles paid .enter hanswer (target, false) counted).andThen Prod.fst
        (fun _ _ h => ⟨h.1.solvent, h.1.funds_le⟩) ?_
      rintro step ⟨entered, skip⟩ walk ⟨spends, grown⟩
      have hfunds : funds potential walk ≤ funds potential (progress, dispatch) := spends.funds_le
      have hgrown : entered.size ≤ target.size ∨
          funds potential walk < funds potential (progress, dispatch) := grown rfl
      dsimp only
      split
      · exact .ok ⟨spends.solvent, hfunds⟩
      · -- each child is smaller than the node given, or there is less to pay with
        have children : ∀ child ∈ entered.children, ∀ walk', Solvent holds count named walk' →
            funds potential walk' ≤ funds potential walk →
            Settles (fun _ after => Spends holds potential count named walk' after)
              fun depth => node hooks depth child walk' := by
          intro child member walk' solvent' enough'
          have hchild := Node.size_lt_of_mem_children member
          rcases hgrown with smaller | less
          · exact ihSize child.size (by omega) child solvent' (by omega) (Nat.le_refl _)
          · exact ihLimit (funds potential walk) (by omega) child.size child solvent' enough'
              (Nat.le_refl _)
        have below : Settles (fun _ after => Spends holds potential count named walk after)
            fun depth => descend (sequence (node hooks depth) []) skip entered walk := by
          unfold descend
          split
          · exact .ok ⟨spends.solvent, Nat.le_refl _⟩
          · exact (sequence_settles [] children spends.solvent (Nat.le_refl _)).relocate _
              fun _ _ h => h
        refine below.andThen id (fun _ _ h => ⟨h.solvent, Nat.le_trans h.funds_le hfunds⟩) ?_
        intro _ left after spends'
        refine (leave_settles paid names target.kind hanswer left spends'.solvent).mono ?_
        intro _ last spends''
        have := spends'.funds_le
        have := spends''.funds_le
        exact ⟨spends''.solvent, by omega⟩

theorem forests_settles (paid : Paid hooks holds potential) (names : Dispatch.Names count named)
    (done rest : List Forest) {walk : Progress V S × D} (solvent : Solvent holds count named walk) :
    Settles (fun _ after => Solvent holds count named after)
      fun depth => forests (node hooks depth) done rest walk := by
  induction rest generalizing done walk with
  | nil => exact .ok solvent
  | cons forest rest ih =>
      have first : Settles (fun _ after => Spends holds potential count named walk after)
          fun depth => relocate (Site.mk done.reverse · rest) id
            (sequence (node hooks depth) [] forest walk) :=
        (sequence_settles [] (fun node _ walk solvent enough =>
          node_settles paid names _ _ node solvent enough (Nat.le_refl _)) solvent
            (Nat.le_refl _)).relocate _ fun _ _ h => h
      refine first.andThen (fun left => done.reverse ++ left :: rest) (fun _ _ h => h.solvent) ?_
      intro step left after spends
      exact ih _ spends.solvent

end

/-! ## Without growth -/

def Visits (before : Progress V S) (most : Nat) (result : Part P A (Progress V S × D)) : Prop :=
  Ensures (fun _ _ moments after => (∀ moment ∈ moments, moment.call.Modest) →
    after.1.stats.nodesVisited ≤ before.stats.nodesVisited + most) result

namespace Visits

variable {before : Progress V S} {most more : Nat}

theorem nothing (step : Step) (value : A) (moments : List (Moment P)) (walk : Progress V S × D)
    (most : Nat) : Visits walk.1 most (.ok (step, value, moments, walk)) :=
  Ensures.ok fun _ => Nat.le_add_right _ _

theorem relocate {result : Part P A (Progress V S × D)}
    (visits : Visits before most result) (change : P → Q) (outer : A → B) :
    Visits before most (relocate change outer result) :=
  Ensures.relocate visits fun _ _ _ _ bound modest =>
    bound fun _ member => modest _ (List.mem_map_of_mem member)

theorem andThen {first : Part P A (Progress V S × D)}
    (visits : Visits before most first) {exit : A → B}
    {next : Step → A → Progress V S × D → Part P B (Progress V S × D)}
    (goes : ∀ step value walk, Visits walk.1 more (next step value walk)) :
    Visits before (most + more) (andThen first exit next) := by
  refine Ensures.andThen visits (fun _ _ _ bound modest => ?_) ?_
  · have := bound modest
    omega
  · intro step value early walk going bound
    refine (goes step value walk).mono fun _ _ late _ bound' modest => ?_
    obtain ⟨hearly, hlate⟩ := List.forall_mem_append.mp modest
    have := bound hearly
    have := bound' hlate
    omega

end Visits

private theorem callEach_visits (hooks : Hooks V S) (hook : Hook) (indices : List Nat)
    (target : Node × Bool) (walk : Progress V S × D) :
    Ensures (fun _ left moments after =>
        after.1.stats.nodesVisited = walk.1.stats.nodesVisited ∧
          (hook = .enter → (∀ moment ∈ moments, moment.call.Modest) →
            left.1.size ≤ target.1.size))
      (callEach hooks hook indices target walk) := by
  induction indices generalizing target walk with
  | nil => exact .ok ⟨rfl, fun _ _ => Nat.le_refl _⟩
  | cons index rest ih =>
      obtain ⟨node, skip⟩ := target
      obtain ⟨progress, dispatch⟩ := walk
      have first : Ensures (fun _ left moments after =>
          after.1.stats.nodesVisited = progress.stats.nodesVisited ∧
            (hook = .enter → (∀ moment ∈ moments, moment.call.Modest) →
              left.1.size ≤ node.size))
          (call hooks hook index (node, skip) (progress, dispatch)) := by
        refine call_ensures hooks hook node skip progress dispatch
          ⟨rfl, fun _ _ => Nat.le_refl _⟩ ?_
        intro inRange result visitor state accepts answer
        refine ⟨rfl, fun entering modest => ?_⟩
        have hcall := List.forall_mem_singleton.mp modest entering
        cases result with
        | replace other => exact hcall other rfl
        | _ => exact Nat.le_refl _
      refine first.andThen (fun _ _ _ h => h) ?_
      rintro step left early after going ⟨same, smaller⟩
      split
      · exact .ok ⟨same, by simpa using smaller⟩
      · refine (ih left after).mono ?_
        rintro _ left' late after' ⟨same', smaller'⟩
        refine ⟨same'.trans same, fun entering modest => ?_⟩
        obtain ⟨hearly, hlate⟩ := List.forall_mem_append.mp modest
        exact Nat.le_trans (smaller' entering hlate) (smaller entering hearly)

section

variable {walkOne : Node → Progress V S × D → Part Place Node (Progress V S × D)}

theorem sequence_visits (one : ∀ node walk, Visits walk.1 node.size (walkOne node walk))
    (done rest : List Node) (walk : Progress V S × D) :
    Visits walk.1 (Node.sizeList rest) (sequence walkOne done rest walk) := by
  induction rest generalizing done walk with
  | nil => exact .nothing _ _ _ _ _
  | cons node rest ih => exact ((one node walk).relocate _ id).andThen fun _ _ walk => ih _ walk

theorem forests_visits (one : ∀ node walk, Visits walk.1 node.size (walkOne node walk))
    (done rest : List Forest) (walk : Progress V S × D) :
    Visits walk.1 (Forest.totalSize rest) (forests walkOne done rest walk) := by
  induction rest generalizing done walk with
  | nil => exact .nothing _ _ _ _ _
  | cons forest rest ih =>
      have first := sequence_visits one [] forest walk
      rw [Node.sizeList_eq_foldr] at first
      exact (first.relocate _ id).andThen fun _ _ walk => ih _ walk

end

private theorem leave_visits [Dispatch D] (hooks : Hooks V S) (entered : Kind) (indices : List Nat)
    (left : Node) (walk : Progress V S × D) :
    Visits walk.1 0 (leave hooks entered indices left walk) := by
  have called : ∀ indices (walk : Progress V S × D),
      Visits walk.1 0 (callEach hooks .leave indices (left, false) walk) :=
    fun indices walk => (callEach_visits hooks .leave indices (left, false) walk).mono
      fun _ _ _ _ h _ => Nat.le_of_eq h.1
  exact (called _ (walk.1, _)).relocate id Prod.fst

theorem node_visits [Dispatch D] (hooks : Hooks V S) (depth : Nat) (target : Node)
    (walk : Progress V S × D) : Visits walk.1 target.size (node hooks depth target walk) := by
  induction depth generalizing target walk with
  | zero => rintro _ _ _ _ ⟨⟩
  | succ depth ih =>
      obtain ⟨progress, dispatch⟩ := walk
      have hpositive := target.size_eq
      refine (callEach_visits hooks .enter _ (target, false) (progress.countNode, _)).andThen ?_ ?_
      · rintro _ _ after ⟨same, -⟩ -
        have hcount : after.1.stats.nodesVisited = progress.stats.nodesVisited + 1 := same
        show after.1.stats.nodesVisited ≤ progress.stats.nodesVisited + target.size
        omega
      · rintro step ⟨entered, skip⟩ early walk going ⟨same, smaller⟩
        have hcount : walk.1.stats.nodesVisited = progress.stats.nodesVisited + 1 := same
        have inside : Visits walk.1 (Node.sizeList entered.children)
            (if step = .remove then .ok (.remove, entered, [], walk)
            else andThen (descend (sequence (node hooks depth) []) skip entered walk) id
              fun _ left walk => leave hooks target.kind
                (Dispatch.resolve dispatch target.kind).1 left walk) := by
          split
          · exact .nothing _ _ _ _ _
          · have below : Visits walk.1 (Node.sizeList entered.children)
                (descend (sequence (node hooks depth) []) skip entered walk) := by
              unfold descend
              split
              · exact .nothing _ _ _ _ _
              · exact (sequence_visits ih [] entered.children walk).relocate _ _
            exact below.andThen fun _ left walk => leave_visits hooks target.kind _ left walk
        refine inside.mono fun _ _ late after bound modest => ?_
        obtain ⟨hearly, hlate⟩ := List.forall_mem_append.mp modest
        have hentered : entered.size ≤ target.size := smaller rfl hearly
        have hafter := bound hlate
        have hsize := entered.size_eq
        show after.1.stats.nodesVisited ≤ progress.stats.nodesVisited + target.size
        omega

end Recorded

/--
If growth is paid for, every session comes to an end, whatever its visitors answer on leaving nodes.
If moreover no call lets a node grow, it walks at most as many nodes as there were before it.
-/
theorem sessions_end_when_growth_is_paid [Dispatch D] {hooks : Hooks V S}
    {holds : Array V → S → Prop} {potential : Array V → S → Nat}
    (paid : Paid hooks holds potential) {traverser : Traverser V D} {state : S}
    (start : holds traverser.visitors state) {named : D → Prop}
    (names : Dispatch.Names traverser.visitors.size named) (isNamed : named traverser.dispatch)
    (forests : List Forest) :
    ∃ bound session,
      (∀ depth, bound ≤ depth →
        traverser.traverseAll hooks depth forests state = .ok session) ∧
      ((∀ call ∈ session.calls, call.Modest) →
        session.stats.nodesVisited ≤ Forest.totalSize forests) := by
  have solvent : Recorded.Solvent holds traverser.visitors.size named
      (⟨traverser.visitors, state, .zero, []⟩, traverser.dispatch) := ⟨start, rfl, isNamed⟩
  obtain ⟨step, left, moments, ⟨progress, dispatch⟩, -, bound, ends⟩ :=
    Recorded.forests_settles paid names [] forests solvent
  have hsession : ∀ depth, bound ≤ depth →
      traverser.traverseAll hooks depth forests state =
        .ok ⟨⟨progress.visitors, dispatch⟩, left, progress.state, progress.stats,
          progress.calls.reverse⟩ := by
    intro depth deep
    have hrecorded : traverser.recorded hooks depth forests state = _ := ends depth deep
    rw [Traverser.traverseAll_eq_recorded, hrecorded]
    rfl
  refine ⟨bound, _, hsession, fun modest => ?_⟩
  have hends := ends bound (Nat.le_refl _)
  have visits := Recorded.forests_visits (Recorded.node_visits hooks bound) [] forests
    (⟨traverser.visitors, state, .zero, []⟩, traverser.dispatch) _ _ _ _ hends
  have ran := Recorded.forests_runs (Recorded.node_runs hooks bound) [] forests
    (⟨traverser.visitors, state, .zero, []⟩, traverser.dispatch) _ _ _ _ hends
  have hcalls : progress.calls.reverse = moments.map Moment.call := by
    simpa using congrArg List.reverse ran.calls
  rw [hcalls] at modest
  simpa [TraversalStats.zero] using visits (List.forall_mem_map.mp modest)

/-! ## Scripts with limited growth -/

namespace Script

/-- Actions that never put a larger node in the place of another. -/
def Action.shrinks : Action → Bool
  | substitute _ | wrap _ | setChildren _ => false
  | _ => true

private theorem Action.size_le_of_shrinks {action : Action} (shrinks : action.shrinks = true)
    {node other : Node} (result : action.apply node = .replace other) : other.size ≤ node.size := by
  have hnode := node.size_eq
  cases action with
  | hoist =>
      cases hchildren : node.children with
      | nil => simp [apply, hchildren, VisitResult.ofOption] at result
      | cons first rest =>
          obtain rfl : first = other := by
            simpa [apply, hchildren, VisitResult.ofOption] using result
          exact Nat.le_of_lt (Node.size_lt_of_mem_children (by simp [hchildren]))
  | strip =>
      cases result
      rw [Node.size_eq]
      simp only [Node.withChildren, Node.sizeList]
      omega
  | rekind kind =>
      cases result
      rw [Node.size_eq]
      exact Nat.le_of_eq hnode.symm
  | rename name =>
      cases result
      rw [Node.size_eq]
      exact Nat.le_of_eq hnode.symm
  | substitute tree => contradiction
  | wrap kind => contradiction
  | setChildren children => contradiction
  | proceed => contradiction
  | skipChildren => contradiction
  | remove => contradiction
  | stop => contradiction

def Rule.isLimited (rule : Rule) : Bool := rule.action.shrinks || rule.uses.isSome

def Rule.budget (rule : Rule) : Nat := rule.uses.getD 0

private theorem Rule.use_budget {rule : Rule} {node : Node} (ready : rule.isReady node = true)
    (limited : rule.isLimited = true) :
    rule.use.isLimited = true ∧ rule.use.budget ≤ rule.budget ∧
      ∀ other, rule.action.apply node = .replace other → node.size < other.size →
        rule.use.budget < rule.budget := by
  obtain ⟨action, condition, uses⟩ := rule
  cases uses with
  | none =>
      have shrinks : action.shrinks = true := by simpa [isLimited] using limited
      refine ⟨by simp [use, isLimited, shrinks], Nat.le_refl _, fun other result grows => ?_⟩
      have := Action.size_le_of_shrinks shrinks result
      omega
  | some count =>
      have hcount : count ≠ 0 := by
        rintro rfl
        simp [isReady] at ready
      refine ⟨by simp [use, isLimited], ?_, fun _ _ _ => ?_⟩
      · simp [use, budget]
      · simp only [use, budget, Option.map_some, Option.getD_some]
        omega

private theorem Rule.fire_budget (node : Node) {rules : List Rule}
    (limited : ∀ rule ∈ rules, rule.isLimited = true) :
    (∀ rule ∈ (fire node rules).2, rule.isLimited = true) ∧
      ((fire node rules).2.map budget).sum ≤ (rules.map budget).sum ∧
      ∀ other, (fire node rules).1 = .replace other → node.size < other.size →
        ((fire node rules).2.map budget).sum < (rules.map budget).sum := by
  induction rules with
  | nil => exact ⟨limited, Nat.le_refl _, fun _ result => by simp [fire] at result⟩
  | cons rule rest ih =>
      obtain ⟨hrule, hrest⟩ := List.forall_mem_cons.mp limited
      by_cases ready : rule.isReady node = true
      · obtain ⟨hused, hle, hlt⟩ := use_budget ready hrule
        simp only [fire, if_pos ready, List.map_cons, List.sum_cons]
        refine ⟨List.forall_mem_cons.mpr ⟨hused, hrest⟩, by omega, fun other result grows => ?_⟩
        have := hlt other result grows
        omega
      · obtain ⟨hlimited, hle, hlt⟩ := ih hrest
        simp only [fire, if_neg ready, List.map_cons, List.sum_cons]
        refine ⟨List.forall_mem_cons.mpr ⟨hrule, hlimited⟩, by omega, fun other result grows => ?_⟩
        have := hlt other result grows
        omega

namespace ScriptedVisitor

def IsLimited (visitor : ScriptedVisitor) : Prop := ∀ rule ∈ visitor.enter, rule.isLimited = true

def budget (visitor : ScriptedVisitor) : Nat := (visitor.enter.map Rule.budget).sum

theorem paid (S : Type) :
    Paid (hooks S) (fun visitors _ => ∀ visitor ∈ visitors, visitor.IsLimited)
      (fun visitors _ => (visitors.toList.map budget).sum) where
  call := by
    intro visitors state index inRange hook node result visitor state' limited accepts answer
    have hold : visitors[index].IsLimited := limited _ (Array.getElem_mem inRange)
    have one : visitor.IsLimited ∧ visitor.budget ≤ visitors[index].budget ∧
        ∀ other, hook = .enter → result = .replace other → node.size < other.size →
          visitor.budget < visitors[index].budget := by
      cases hook with
      | enter =>
          obtain ⟨hlimited, hle, hlt⟩ := Rule.fire_budget node hold
          cases answer
          exact ⟨hlimited, hle, fun other _ result grows => hlt other result grows⟩
      | leave =>
          cases answer
          exact ⟨hold, Nat.le_refl _, nofun⟩
    obtain ⟨hlimited, hle, hlt⟩ := one
    have present : visitors.toList[index]? = some visitors[index] := by simp [inRange]
    have hset : ((visitors.set index visitor).toList.map budget).sum + visitors[index].budget =
        (visitors.toList.map budget).sum + visitor.budget := by
      rw [Array.toList_set]
      exact sum_map_set present visitor budget
    refine ⟨fun other member => ?_, by omega, fun other entering replaced grows => ?_⟩
    · rcases Array.mem_or_eq_of_mem_set member with kept | rfl
      · exact limited other kept
      · exact hlimited
    · have := hlt other entering replaced grows
      omega

end ScriptedVisitor

/-! A visitor that puts every function below a struct never ends; with two uses it does. -/

section Wrapped

def wrapping : VisitorSet ScriptedVisitor :=
  ⟨[({ ScriptedVisitor.idle "wrap" with
        enter := [⟨.wrap .struct, .always, some 2⟩] }, .ofKind .function)]⟩

theorem sessions_end_when_growth_is_paid_wrapped :
    ∃ bound session, ∀ depth, bound ≤ depth →
      (Traverser.cached wrapping).traverseAll (ScriptedVisitor.hooks Unit) depth
        [[.ofKind .function]] () = .ok session := by
  have start : ∀ visitor ∈ (Traverser.cached wrapping).visitors, visitor.IsLimited := by
    simp [Traverser.cached, wrapping, VisitorSet.visitors, ScriptedVisitor.IsLimited,
      Rule.isLimited]
  obtain ⟨bound, session, ends, -⟩ := sessions_end_when_growth_is_paid (ScriptedVisitor.paid Unit)
    start (LawfulDispatch.names wrapping.rules) (CachedDispatch.sound_ofRules wrapping.rules)
    [[.ofKind .function]]
  exact ⟨bound, session, ends⟩

end Wrapped

end Script

end KindDispatch
