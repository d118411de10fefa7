import KindDispatch.Bench.Passes
import KindDispatch.Proofs.Dispatch.Counters
import KindDispatch.Proofs.Traversal.Plain

/-!
# Walks of counting visitors

The counting visitors accept every node and change nothing, so whatever the dispatcher answers, a
walk keeps every node and makes one lookup for each, parents before children.  `walkEach_counts` says
so for every dispatcher whose answers name visitors that are there; the counts are those of the
visitors it named.  If it answers by the rules, these are the numbers of nodes of each kind.
-/

namespace KindDispatch

def Forest.kinds (forest : Forest) : List Kind := (Node.preorderList forest).map Node.kind

namespace CountingVisitor

/-! ## The visitors and their rules -/

def visitorSet : VisitorSet CountingVisitor :=
  ⟨all.map fun visitor => (visitor, visitor.applicability)⟩

theorem registered_eq : registered = .ok visitorSet := by
  rfl

@[simp] theorem visitors_visitorSet : visitorSet.visitors = all := by
  rfl

@[simp] theorem size_visitorSet : visitorSet.size = 4 := by
  rfl

def countEach (stats : PassStats) (indices : List Nat) : PassStats :=
  (indices.filterMap (all[·]?)).foldl count stats

def census (kinds : List Kind) : PassStats :=
  ⟨kinds.length, kinds.count .function, kinds.count .struct, kinds.count .method⟩

private theorem countEach_applicable (stats : PassStats) (kind : Kind) :
    countEach stats (applicable visitorSet.rules kind) = stats + census [kind] := by
  cases kind <;> rfl

theorem census_append (first second : List Kind) :
    census (first ++ second) = census first + census second := by
  simp [census, PassStats.add_def]

private theorem add_census_append (stats : PassStats) (first second : List Kind) :
    stats + census first + census second = stats + census (first ++ second) := by
  simp [census_append, PassStats.add_def, Nat.add_assoc]

theorem foldl_countEach (kinds : List Kind) (stats : PassStats) :
    (kinds.map (applicable visitorSet.rules)).foldl countEach stats = stats + census kinds := by
  induction kinds generalizing stats with
  | nil => simp [census, PassStats.add_def]
  | cons kind rest ih =>
      rw [List.map_cons, List.foldl_cons, countEach_applicable, ih, add_census_append]
      rfl

/-! ## Calls -/

private theorem call_counts (hook : Hook) {index : Nat} (inRange : index < all.length) (node : Node)
    {progress : Progress CountingVisitor PassStats} (ready : progress.visitors = all.toArray) :
    ∃ after, progress.call hooks hook index node = .ok (.proceed, after) ∧
      after.visitors = all.toArray ∧
      after.state = match hook with
        | .enter => countEach progress.state [index]
        | .leave => progress.state := by
  obtain ⟨visitors, state, stats, calls⟩ := progress
  obtain rfl : visitors = all.toArray := ready
  have hsize : index < all.toArray.size := by simpa using inRange
  have hvisitor : all[index]? = some all[index] := List.getElem?_eq_getElem inRange
  simp only [Progress.call, hsize, dite_true]
  cases hook with
  | enter => exact ⟨_, rfl, by simp [hooks], by simp [hooks, countEach, hvisitor]⟩
  | leave => exact ⟨_, rfl, by simp [hooks], by simp [hooks]⟩

private theorem callEach_counts (hook : Hook) (indices : List Nat)
    (inRange : ∀ index ∈ indices, index < all.length) (node : Node) (skip : Bool)
    {progress : Progress CountingVisitor PassStats} (ready : progress.visitors = all.toArray) :
    ∃ after, progress.callEach hooks hook indices node skip = .ok (.keep, node, skip, after) ∧
      after.visitors = all.toArray ∧
      after.state = match hook with
        | .enter => countEach progress.state indices
        | .leave => progress.state := by
  induction indices generalizing progress with
  | nil => exact ⟨progress, rfl, ready, by cases hook <;> rfl⟩
  | cons index rest ih =>
      have hindex : index < all.length := inRange index List.mem_cons_self
      have hrest : ∀ other ∈ rest, other < all.length :=
        fun other hother => inRange other (List.mem_cons_of_mem index hother)
      obtain ⟨after, hcall, ready', hstate⟩ := call_counts hook hindex node ready
      obtain ⟨last, hcalls, ready'', hlast⟩ := ih hrest ready'
      refine ⟨last, by simp only [Progress.callEach, hcall, hcalls], ready'', ?_⟩
      cases hook with
      | enter =>
          rw [hlast, hstate]
          simp [countEach, List.getElem?_eq_getElem hindex]
      | leave => exact hlast.trans hstate

/-! ## Walks -/

/-- A condition on dispatchers that lookups keep, and under which they name only visitors that are
there. -/
structure InRange {D : Type} [Dispatch D] (P : D → Prop) : Prop where
  resolve : ∀ dispatch kind, P dispatch → P (Dispatch.resolve dispatch kind).2
  lt_length : ∀ dispatch kind, P dispatch →
    ∀ index ∈ (Dispatch.resolve dispatch kind).1, index < all.length

section Walks

variable {D : Type} [Dispatch D] {P : D → Prop}

theorem InRange.lookUps (inRange : InRange P) {dispatch : D} (holds : P dispatch)
    (kinds : List Kind) : P (Dispatch.lookUps dispatch kinds).2 := by
  induction kinds generalizing dispatch with
  | nil => exact holds
  | cons kind rest ih => exact ih (inRange.resolve dispatch kind holds)

/-- The result of a walk that keeps everything and looks up and counts nodes of some kinds. -/
def Counts {A : Type} (kinds : List Kind) (value : A) (dispatch : D) (state : PassStats)
    (result : Except Halt (Step × A × Progress CountingVisitor PassStats × D)) : Prop :=
  ∃ after, result = .ok (.keep, value, after, (Dispatch.lookUps dispatch kinds).2) ∧
    after.visitors = all.toArray ∧
    after.state = (Dispatch.lookUps dispatch kinds).1.foldl countEach state

private theorem sequence_counts (inRange : InRange P)
    {walkOne : Node → Progress CountingVisitor PassStats × D →
      Except Halt (Step × Node × Progress CountingVisitor PassStats × D)}
    (nodes : List Node)
    (one : ∀ target ∈ nodes, ∀ progress dispatch, progress.visitors = all.toArray → P dispatch →
      Counts (target.preorder.map Node.kind) target dispatch progress.state
        (walkOne target (progress, dispatch)))
    (done : List Node) {progress : Progress CountingVisitor PassStats} {dispatch : D}
    (ready : progress.visitors = all.toArray) (holds : P dispatch) :
    Counts (Forest.kinds nodes) (done.reverse ++ nodes) dispatch progress.state
      (Walk.sequence walkOne done nodes (progress, dispatch)) := by
  induction nodes generalizing done progress dispatch with
  | nil => exact ⟨progress, by simp [Walk.sequence, Forest.kinds, Node.preorderList], ready, rfl⟩
  | cons target rest ih =>
      have hkinds : Forest.kinds (target :: rest) =
          target.preorder.map Node.kind ++ Forest.kinds rest := by
        simp [Forest.kinds, Node.preorderList]
      obtain ⟨after, hone, ready', hstate⟩ :=
        one target List.mem_cons_self progress dispatch ready holds
      obtain ⟨last, hrest, ready'', hlast⟩ :=
        ih (fun other hother => one other (List.mem_cons_of_mem target hother)) (target :: done)
          ready' (inRange.lookUps holds (target.preorder.map Node.kind))
      refine ⟨last, ?_, ready'', ?_⟩
      · simp only [Walk.sequence, hone, hrest, hkinds, Dispatch.lookUps_append]
        simp
      · rw [hlast, hstate, hkinds, Dispatch.lookUps_append, List.foldl_append]

private theorem leave_counts {entered : Kind} {left : Node} (same : left.kind = entered)
    {indices : List Nat} (inRange : ∀ index ∈ indices, index < all.length)
    {progress : Progress CountingVisitor PassStats} (ready : progress.visitors = all.toArray)
    (dispatch : D) :
    ∃ after, Owned.leave hooks entered indices left (progress, dispatch) =
        .ok (.keep, left, after, dispatch) ∧
      after.visitors = all.toArray ∧ after.state = progress.state := by
  obtain ⟨after, hleave, ready', hstate⟩ :=
    callEach_counts .leave indices inRange left false ready
  refine ⟨after, ?_, ready', hstate⟩
  simp only [Owned.leave, same, ne_eq, not_true_eq_false, if_false, hleave]
  rfl

theorem node_counts (inRange : InRange P) (depth : Nat) (target : Node)
    (deep : target.depth ≤ depth) {progress : Progress CountingVisitor PassStats} {dispatch : D}
    (ready : progress.visitors = all.toArray) (holds : P dispatch) :
    Counts (target.preorder.map Node.kind) target dispatch progress.state
      (Owned.node hooks depth target (progress, dispatch)) := by
  -- on the bound, since the walk of the children recurses on it and not on the node
  induction depth generalizing target progress dispatch with
  | zero =>
      cases target
      simp [Node.depth] at deep
  | succ depth ih =>
      have hdepth : target.depth = 1 + Node.depthList target.children := by
        cases target
        rfl
      have hkinds : target.preorder.map Node.kind =
          target.kind :: Forest.kinds target.children := by
        cases target
        rfl
      have hindices := inRange.lt_length dispatch target.kind holds
      have hcounted : progress.countNode.visitors = all.toArray := ready
      obtain ⟨entered, henter, hentered, hstate⟩ :=
        callEach_counts .enter _ hindices target false hcounted
      have children : ∀ child ∈ target.children, ∀ progress dispatch,
          progress.visitors = all.toArray → P dispatch →
          Counts (child.preorder.map Node.kind) child dispatch progress.state
            (Owned.node hooks depth child (progress, dispatch)) := by
        intro child hchild progress dispatch ready holds
        have := Node.depth_le_depthList hchild
        exact ih child (by omega) ready holds
      obtain ⟨walked, hwalk, hwalked, hstate'⟩ :=
        sequence_counts inRange target.children children [] hentered
          (inRange.resolve dispatch target.kind holds)
      obtain ⟨left, hleave, hleft, hstate''⟩ :=
        leave_counts (rfl : target.kind = target.kind) hindices hwalked
          (Dispatch.lookUps (Dispatch.resolve dispatch target.kind).2
            (Forest.kinds target.children)).2
      have hsame : target.withChildren ([].reverse ++ target.children) = target := by
        cases target
        rfl
      refine ⟨left, ?_, hleft, ?_⟩
      · simp only [Owned.node, henter, Walk.descend, Bool.false_eq_true, if_false, hwalk, Except.map,
          hsame, hkinds, Dispatch.lookUps_cons]
        exact hleave
      · rw [hstate'', hstate', hstate, hkinds, Dispatch.lookUps_cons]
        rfl

theorem traverse_counts (inRange : InRange P) (forest : Forest) {dispatch : D} (holds : P dispatch)
    (state : PassStats) :
    ∃ session, Traverser.traverse hooks (Forest.depth forest) ⟨all.toArray, dispatch⟩ forest state =
        .ok session ∧
      session.forests = [forest] ∧
      session.traverser = ⟨all.toArray, (Dispatch.lookUps dispatch (Forest.kinds forest)).2⟩ ∧
      session.state = (Dispatch.lookUps dispatch (Forest.kinds forest)).1.foldl countEach state := by
  let progress : Progress CountingVisitor PassStats := ⟨all.toArray, state, .zero, []⟩
  have one : ∀ target ∈ forest, ∀ progress dispatch, progress.visitors = all.toArray →
      P dispatch → Counts (target.preorder.map Node.kind) target dispatch progress.state
        (Owned.node hooks (Forest.depth forest) target (progress, dispatch)) :=
    fun target htarget progress dispatch ready holds =>
      node_counts inRange _ target (Node.depth_le_depthList htarget) ready holds
  obtain ⟨after, hforest, ready, hstate⟩ :=
    sequence_counts inRange forest one [] (rfl : progress.visitors = all.toArray) holds
  have howned : Walk.forests (Owned.node hooks (Forest.depth forest)) [forest] (progress, dispatch) =
      .ok (.keep, [forest], after, (Dispatch.lookUps dispatch (Forest.kinds forest)).2) := by
    simp only [Walk.forests, hforest]
    rfl
  refine ⟨.ofWalk [forest] (after, (Dispatch.lookUps dispatch (Forest.kinds forest)).2), ?_, rfl, ?_,
    hstate⟩
  · rw [Traverser.traverse, Traverser.traverseAll_eq_owned, Traverser.start, howned]
    rfl
  · simp [Session.ofWalk, ready]

theorem walkEach_counts (inRange : InRange P) (forests : List Forest) {dispatch : D}
    (holds : P dispatch) (stats : PassStats) :
    Passes.walkEach forests ⟨all.toArray, dispatch⟩ stats =
      .ok (forests, ⟨all.toArray, (Dispatch.lookUps dispatch (forests.flatMap Forest.kinds)).2⟩,
        (Dispatch.lookUps dispatch (forests.flatMap Forest.kinds)).1.foldl countEach stats) := by
  induction forests generalizing dispatch stats with
  | nil => rfl
  | cons forest rest ih =>
      obtain ⟨session, hsession, hforests, htraverser, hstate⟩ :=
        traverse_counts inRange forest holds stats
      have hrest := ih (inRange.lookUps holds (Forest.kinds forest)) session.state
      rw [Passes.walkEach, hsession]
      simp only [htraverser, hrest, hforests]
      simp only [hstate, List.flatMap_cons, Dispatch.lookUps_append, List.foldl_append]
      rfl

end Walks

end CountingVisitor

end KindDispatch
