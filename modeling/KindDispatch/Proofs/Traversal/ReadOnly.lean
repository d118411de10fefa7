import KindDispatch.Proofs.Dispatch.Hits
import KindDispatch.Proofs.Traversal.Parallel
import KindDispatch.Proofs.Traversal.Tour

/-!
# Read-only sessions

Visitors that only ever answer to go on or to skip the children leave the forests as they are.  A
session with them is the tour of its roots; it walks the nodes that are not below one whose children
were skipped and makes one lookup for each of them.
-/

namespace KindDispatch

variable {V S D A : Type}

/-! ## Read-only visitors -/

/-- Visitors that, as long as `holds`, only answer to go on or to skip the children. -/
structure Hooks.ReadOnly (hooks : Hooks V S) (holds : Array V → S → Prop) : Prop where
  call : ∀ {visitors : Array V} {state : S} {index : Nat} (inRange : index < visitors.size)
    {hook : Hook} {node : Node} {result : VisitResult} {visitor : V} {state' : S},
    holds visitors state → hooks.accepts visitors[index] node = true →
    hooks.call hook visitors[index] node state = (result, visitor, state') →
      (result = .proceed ∨ result = .skipChildren) ∧ holds (visitors.set index visitor) state'

structure Party.Ready (holds : Array V → S → Prop) (count : Nat) (party : Party V S) : Prop where
  holds : holds party.visitors party.state
  size : party.visitors.size = count

namespace Progress

def party (progress : Progress V S) : Party V S := ⟨progress.visitors, progress.state⟩

def toured (before : Progress V S) (walked : Nat) (calls : List VisitorCall) (party : Party V S) :
    Progress V S where
  visitors := party.visitors
  state := party.state
  stats :=
    { nodesVisited := before.stats.nodesVisited + walked
      visitorCalls := before.stats.visitorCalls + calls.length
      stopped := before.stats.stopped }
  calls := calls.reverse ++ before.calls

@[simp] theorem party_countNode (progress : Progress V S) :
    progress.countNode.party = progress.party := rfl

@[simp] theorem party_toured (before : Progress V S) (walked : Nat) (calls : List VisitorCall)
    (party : Party V S) : (before.toured walked calls party).party = party := rfl

@[simp] theorem toured_nil (progress : Progress V S) :
    progress.toured 0 [] progress.party = progress := rfl

@[simp] theorem toured_toured (before : Progress V S) (walked walked' : Nat)
    (calls calls' : List VisitorCall) (party party' : Party V S) :
    (before.toured walked calls party).toured walked' calls' party' =
      before.toured (walked + walked') (calls ++ calls') party' := by
  simp [toured, Nat.add_assoc]

private theorem countNode_toured (before : Progress V S) (walked : Nat) (calls : List VisitorCall)
    (party : Party V S) :
    before.countNode.toured walked calls party = before.toured (1 + walked) calls party := by
  simp [toured, countNode, Nat.add_assoc]

private theorem answered_eq_toured (progress : Progress V S) {call : VisitorCall}
    (goes : call.result.isStop = false) (visitors : Array V) (state : S) :
    Recorded.answered progress call visitors state =
      progress.toured 0 [call] ⟨visitors, state⟩ := by
  simp [Recorded.answered, toured, goes]

end Progress

section Walks

variable {hooks : Hooks V S} {holds : Array V → S → Prop} {rules : List Applicability}

private theorem callEach_rounds (readOnly : hooks.ReadOnly holds) (hook : Hook) {indices : List Nat}
    {count : Nat} (inRange : ∀ index ∈ indices, index < count) (node : Node) (skip : Bool)
    (progress : Progress V S) (ready : progress.party.Ready holds count) :
    let called := node.round hooks hook indices progress.party
    progress.callEach hooks hook indices node skip =
        .ok (.keep, node, skip || skips called.1, progress.toured 0 called.1 called.2) ∧
      called.2.Ready holds count := by
  induction indices generalizing skip progress with
  | nil =>
      exact ⟨by simp [Progress.callEach, Node.round, skips], ready⟩
  | cons index rest ih =>
      obtain ⟨hindex, hrest⟩ := List.forall_mem_cons.mp inRange
      have present : index < progress.visitors.size := Nat.lt_of_lt_of_eq hindex ready.size.symm
      cases haccepts : hooks.accepts progress.visitors[index] node with
      | false =>
          rw [Node.round_of_refuses progress.party present haccepts, Progress.callEach,
            Progress.call_of_refuses present haccepts]
          exact ih hrest skip progress ready
      | true =>
          rcases hanswer : hooks.call hook progress.visitors[index] node progress.state with
            ⟨result, visitor, state⟩
          obtain ⟨gentle, still⟩ := readOnly.call present ready.holds haccepts hanswer
          have goes : result.isStop = false := by rcases gentle with rfl | rfl <;> rfl
          let after := progress.toured 0 [⟨index, hook, node, result⟩]
            ⟨progress.visitors.set index visitor, state⟩
          have ready' : after.party.Ready holds count :=
            ⟨still, (Array.size_set present).trans ready.size⟩
          have hround : node.round hooks hook (index :: rest) progress.party =
              (⟨index, hook, node, result⟩ :: (node.round hooks hook rest after.party).1,
                (node.round hooks hook rest after.party).2) :=
            Node.round_of_accepts progress.party present haccepts hanswer
          obtain ⟨hcalls, ready''⟩ :=
            ih hrest (decide (result = .skipChildren) || skip) after ready'
          rw [hround, Progress.callEach, Progress.call_of_accepts present haccepts hanswer,
            Progress.answered_eq_toured progress goes]
          refine ⟨?_, ready''⟩
          rcases gentle with rfl | rfl
          · exact hcalls.trans (by simp [after, skips])
          · exact hcalls.trans (by simp [after, skips])

/-- The result of a part of a walk that makes the calls of a tour, walks those of its nodes that are
not hidden, looks up their kinds and leaves everything as it was. -/
def Tours [Dispatch D] (holds : Array V → S → Prop) (count : Nat)
    (tour : List (Address × VisitorCall) × Party V S) (places : List (Address × Node)) (value : A)
    (progress : Progress V S) (dispatch : D)
    (result : Except Halt (Step × A × Progress V S × D)) : Prop :=
  let after := progress.toured (visible tour.1 places).length (tour.1.map (·.2)) tour.2
  result = .ok (.keep, value, after,
      (Dispatch.lookUps dispatch ((visible tour.1 places).map (·.2.kind))).2) ∧
    after.party.Ready holds count

variable [Dispatch D]

private theorem descend_tours {count : Nat} {walkChildren : List Node → Progress V S × D →
      Except Halt (Step × List Node × Progress V S × D)} (target : Node)
    (progress : Progress V S) {dispatch : D} (ready : progress.party.Ready holds count)
    (children : Tours holds count (Node.tourFrom hooks rules 0 target.children progress.party)
      (Node.placesFrom 0 target.children) target.children progress dispatch
      (walkChildren target.children (progress, dispatch))) (skip : Bool) :
    Tours holds count (Node.tourBelow hooks rules skip target.children progress.party)
      (Node.placesBelow skip target.children) target progress dispatch
      (Walk.descend walkChildren skip target (progress, dispatch)) := by
  cases skip with
  | true => exact ⟨by simp [Walk.descend, Node.tourBelow, Node.placesBelow, visible], ready⟩
  | false =>
      obtain ⟨hchildren, ready'⟩ := children
      exact ⟨by simp [Walk.descend, Node.tourBelow, Node.placesBelow, hchildren, Except.map],
        ready'⟩

private theorem leave_tours (readOnly : hooks.ReadOnly holds) (target : Node)
    (progress : Progress V S) (dispatch : D) (ready : progress.party.Ready holds rules.length) :
    let left := target.round hooks .leave (applicable rules target.kind) progress.party
    Owned.leave hooks target.kind (applicable rules target.kind) target (progress, dispatch) =
        .ok (.keep, target, progress.toured 0 left.1 left.2, dispatch) ∧
      left.2.Ready holds rules.length := by
  obtain ⟨hleave, ready'⟩ := callEach_rounds readOnly .leave
    (fun _ => lt_length_of_mem_applicable) target false progress ready
  exact ⟨by simp [Owned.leave, hleave, Except.map], ready'⟩

variable [LawfulDispatch D]

private theorem sequence_tours {count : Nat}
    {walkOne : Node → Progress V S × D → Except Halt (Step × Node × Progress V S × D)}
    (nodes : List Node)
    (one : ∀ target ∈ nodes, ∀ progress dispatch, progress.party.Ready holds count →
      LawfulDispatch.Sound rules dispatch →
      Tours holds count (target.tour hooks rules progress.party) target.places target progress
        dispatch (walkOne target (progress, dispatch)))
    (number : Nat) (done : List Node) (progress : Progress V S) {dispatch : D}
    (ready : progress.party.Ready holds count) (sound : LawfulDispatch.Sound rules dispatch) :
    Tours holds count (Node.tourFrom hooks rules number nodes progress.party)
      (Node.placesFrom number nodes) (done.reverse ++ nodes) progress dispatch
      (Walk.sequence walkOne done nodes (progress, dispatch)) := by
  induction nodes generalizing number done progress dispatch with
  | nil => exact ⟨by simp [Walk.sequence, Node.tourFrom, Node.placesFrom, visible], ready⟩
  | cons target rest ih =>
      obtain ⟨htarget, ready'⟩ := one target List.mem_cons_self progress dispatch ready sound
      obtain ⟨hrest, ready''⟩ :=
        ih (fun other member => one other (List.mem_cons_of_mem target member)) (number + 1)
          (target :: done) _ ready' (Dispatch.sound_lookUps sound _)
      refine ⟨?_, ready''⟩
      rw [Node.visible_tourFrom, Node.tourFrom_cons]
      simp only [Walk.sequence, htarget]
      rw [hrest]
      simp [Dispatch.lookUps_append, Function.comp_def]

theorem node_tours (readOnly : hooks.ReadOnly holds) (depth : Nat) (target : Node)
    (deep : target.depth ≤ depth) {progress : Progress V S} {dispatch : D}
    (ready : progress.party.Ready holds rules.length)
    (sound : LawfulDispatch.Sound rules dispatch) :
    Tours holds rules.length (target.tour hooks rules progress.party) target.places target progress
      dispatch (Owned.node hooks depth target (progress, dispatch)) := by
  -- on the bound, since the walk of the children recurses on it and not on the node
  induction depth generalizing target progress dispatch with
  | zero =>
      cases target
      simp [Node.depth] at deep
  | succ depth ih =>
      have hdepth : target.depth = 1 + Node.depthList target.children := by
        cases target
        rfl
      have inRange : ∀ index ∈ applicable rules target.kind, index < rules.length :=
        fun _ => lt_length_of_mem_applicable
      have sound' := LawfulDispatch.sound_resolve sound target.kind
      have children : ∀ child ∈ target.children, ∀ (progress : Progress V S) (dispatch : D),
          progress.party.Ready holds rules.length → LawfulDispatch.Sound rules dispatch →
          Tours holds rules.length (child.tour hooks rules progress.party) child.places child
            progress dispatch (Owned.node hooks depth child (progress, dispatch)) := by
        intro child hchild progress dispatch ready sound
        have := Node.depth_le_depthList hchild
        exact ih child (by omega) ready sound
      rcases hentered : target.round hooks .enter (applicable rules target.kind) progress.party with
        ⟨entering, first⟩
      rcases hbelow : Node.tourBelow hooks rules (skips entering) target.children first with
        ⟨below, second⟩
      rcases hleft : target.round hooks .leave (applicable rules target.kind) second with
        ⟨leaving, third⟩
      let onEnter := progress.countNode.toured 0 entering first
      let onLeave := onEnter.toured
        (visible below (Node.placesBelow (skips entering) target.children)).length
        (below.map (·.2)) second
      obtain ⟨henter, ready₁⟩ :=
        callEach_rounds readOnly .enter inRange target false progress.countNode ready
      simp only [Progress.party_countNode, hentered] at henter ready₁
      have walked := sequence_tours target.children children 0 [] onEnter ready₁ sound'
      obtain ⟨hdescend, ready₂⟩ := descend_tours target onEnter ready₁ walked (skips entering)
      simp only [onEnter, Progress.party_toured, hbelow] at hdescend ready₂
      obtain ⟨hleave, ready₃⟩ :=
        leave_tours readOnly target onLeave
          (Dispatch.lookUps (Dispatch.resolve dispatch target.kind).2 ((visible below
            (Node.placesBelow (skips entering) target.children)).map (·.2.kind))).2 ready₂
      simp only [onLeave, Progress.party_toured, hleft] at hleave ready₃
      have htour : target.tour hooks rules progress.party =
          (entering.map (([], ·)) ++ below ++ leaving.map (([], ·)), third) := by
        simp [Node.tour_eq, hentered, hbelow, hleft]
      have hvisible : visible (target.tour hooks rules progress.party).1 target.places =
          ([], target) :: visible below (Node.placesBelow (skips entering) target.children) := by
        simp [Node.visible_tour, hentered, hbelow]
      unfold Tours
      rw [hvisible, htour]
      refine ⟨?_, ready₃⟩
      simp only [Owned.node, LawfulDispatch.resolve_fst sound, henter, Bool.false_or, hdescend]
      rw [hleave]
      simp [onEnter, Progress.countNode_toured, Dispatch.lookUps_cons, Function.comp_def,
        Nat.add_comm]

theorem forests_tours {count : Nat}
    {walkOne : Node → Progress V S × D → Except Halt (Step × Node × Progress V S × D)}
    (forests : List Forest)
    (one : ∀ forest ∈ forests, ∀ target ∈ forest, ∀ progress dispatch,
      progress.party.Ready holds count → LawfulDispatch.Sound rules dispatch →
      Tours holds count (target.tour hooks rules progress.party) target.places target progress
        dispatch (walkOne target (progress, dispatch)))
    (number : Nat) (progress : Progress V S) {dispatch : D}
    (ready : progress.party.Ready holds count) (sound : LawfulDispatch.Sound rules dispatch) :
    Tours holds count (Node.tourFrom hooks rules number forests.flatten progress.party)
      (Node.placesFrom number forests.flatten) forests progress dispatch
      (Walk.forests walkOne forests (progress, dispatch)) := by
  induction forests generalizing number progress dispatch with
  | nil => exact ⟨by simp [Walk.forests, Node.tourFrom, Node.placesFrom, visible], ready⟩
  | cons forest rest ih =>
      obtain ⟨hforest, ready'⟩ :=
        sequence_tours forest (one forest List.mem_cons_self) number [] progress ready sound
      obtain ⟨hrest, ready''⟩ :=
        ih (fun other member => one other (List.mem_cons_of_mem forest member))
          (number + forest.length) _ ready' (Dispatch.sound_lookUps sound _)
      refine ⟨?_, ?_⟩
      · rw [List.flatten_cons, Node.visible_append, Node.tourFrom_append]
        simp only [Walk.forests, hforest]
        rw [hrest]
        simp [Except.map, Dispatch.lookUps_append]
      · rw [List.flatten_cons, Node.tourFrom_append]
        exact ready''

end Walks

/-! ## Sessions -/

private theorem Forest.size_flatten (forests : List Forest) :
    Forest.size forests.flatten = Forest.totalSize forests := by
  induction forests with
  | nil => rfl
  | cons forest rest ih =>
      rw [List.flatten_cons, Forest.size_append, ih]
      rfl

private theorem length_visible {calls : List (Address × VisitorCall)} (forests : List Forest)
    (descends : ∀ call ∈ calls, call.2.hook = .enter → call.2.result ≠ .skipChildren) :
    (visible calls (Node.placesFrom 0 forests.flatten)).length = Forest.totalSize forests := by
  have all : visible calls (Node.placesFrom 0 forests.flatten) =
      Node.placesFrom 0 forests.flatten := by
    refine List.filter_eq_self.mpr fun place _ => decide_eq_true ?_
    rintro ⟨call, member, enter, skip, -⟩
    exact descends call member enter skip
  rw [all, ← List.length_map (f := Prod.snd), Node.map_placesFrom, Node.preorderList_eq_flatMap,
    ← Forest.size_flatten, ← Forest.length_preorder]
  rfl

/--
A session with read-only visitors always ends, is not stopped and leaves the forests as they are.
Its calls are the tour of the roots, one after the other: a node is entered by the visitors that its
kind is for, each if it accepts the node when its turn comes, its children are toured unless one of
these calls asked to skip them, and it is left in the same way.  The nodes walked are those that are
not below a node whose children were skipped, which is all of them if none were; for each there is
one lookup, of its kind.  If the visitors always accept the same nodes, those that leave a node are
those that entered it.
-/
theorem read_only_session_is_tour [Dispatch D] [LawfulDispatch D] [MeteredDispatch D]
    {hooks : Hooks V S} {holds : Array V → S → Prop} (readOnly : hooks.ReadOnly holds)
    {rules : List Applicability} {traverser : Traverser V D} {state : S}
    (sound : LawfulDispatch.Sound rules traverser.dispatch)
    (size : traverser.visitors.size = rules.length) (start : holds traverser.visitors state)
    {forests : List Forest} {depth : Nat} (deep : ∀ forest ∈ forests, Forest.depth forest ≤ depth) :
    let toured := Node.tourFrom hooks rules 0 forests.flatten ⟨traverser.visitors, state⟩
    let walked := visible toured.1 (Node.placesFrom 0 forests.flatten)
    ∃ session, traverser.traverseAll hooks depth forests state = .ok session ∧
      session.forests = forests ∧ session.calls = toured.1.map (·.2) ∧
      session.traverser.visitors = toured.2.visitors ∧ session.state = toured.2.state ∧
      session.stats = ⟨walked.length, toured.1.length, false⟩ ∧
      session.traverser.dispatch =
        (Dispatch.lookUps traverser.dispatch (walked.map (·.2.kind))).2 ∧
      (Dispatch.counters session.traverser.dispatch).lookups =
        (Dispatch.counters traverser.dispatch).lookups + walked.length ∧
      ((∀ call ∈ session.calls, call.hook = .enter → call.result ≠ .skipChildren) →
        walked.length = Forest.totalSize forests) ∧
      (hooks.Steady → Bracketed toured.1) := by
  intro toured walked
  let before : Progress V S := ⟨traverser.visitors, state, .zero, []⟩
  have one : ∀ forest ∈ forests, ∀ target ∈ forest, ∀ (progress : Progress V S) (dispatch : D),
      progress.party.Ready holds rules.length → LawfulDispatch.Sound rules dispatch →
      Tours holds rules.length (target.tour hooks rules progress.party) target.places target
        progress dispatch (Owned.node hooks depth target (progress, dispatch)) := by
    intro forest hforest target htarget progress dispatch ready sound
    have hroot := Node.depth_le_depthList htarget
    have hdepth : Node.depthList forest ≤ depth := deep forest hforest
    exact node_tours readOnly depth target (by omega) ready sound
  obtain ⟨hforests, -⟩ := forests_tours forests one 0 before ⟨start, size⟩ sound
  let after := before.toured walked.length (toured.1.map (·.2)) toured.2
  let dispatch := (Dispatch.lookUps traverser.dispatch (walked.map (·.2.kind))).2
  have ends : traverser.traverseAll hooks depth forests state =
      .ok (.ofWalk forests (after, dispatch)) := by
    rw [Traverser.traverseAll_eq_owned]
    exact congrArg _ hforests
  have calls : (Session.ofWalk forests (after, dispatch)).calls = toured.1.map (·.2) := by
    simp [Session.ofWalk, after, before, Progress.toured]
  have stats : after.stats = ⟨walked.length, toured.1.length, false⟩ := by
    simp [after, before, Progress.toured, TraversalStats.zero]
  refine ⟨_, ends, rfl, calls, rfl, rfl, stats, rfl, ?_, fun descends => ?_, fun steady =>
    (Node.tourFrom_steady steady 0 _ _).2⟩
  · exact (Dispatch.lookups_lookUps _ _).trans (by rw [List.length_map])
  · refine length_visible forests fun call member => descends call.2 ?_
    rw [calls]
    exact List.mem_map_of_mem member

/-! ## Scripts -/

namespace Script

def Rule.isReadOnly (rule : Rule) : Bool :=
  rule.action = .proceed || rule.action = .skipChildren

private theorem Rule.fire_readOnly (node : Node) {rules : List Rule}
    (readOnly : ∀ rule ∈ rules, rule.isReadOnly = true) :
    ((fire node rules).1 = .proceed ∨ (fire node rules).1 = .skipChildren) ∧
      ∀ rule ∈ (fire node rules).2, rule.isReadOnly = true := by
  induction rules with
  | nil => exact ⟨.inl rfl, readOnly⟩
  | cons rule rest ih =>
      obtain ⟨hrule, hrest⟩ := List.forall_mem_cons.mp readOnly
      by_cases ready : rule.isReady node = true
      · have action : rule.action = .proceed ∨ rule.action = .skipChildren := by
          simpa [isReadOnly] using hrule
        simp only [fire, if_pos ready]
        refine ⟨?_, List.forall_mem_cons.mpr ⟨hrule, hrest⟩⟩
        rcases action with action | action
        · exact .inl (by rw [action]; rfl)
        · exact .inr (by rw [action]; rfl)
      · obtain ⟨answer, later⟩ := ih hrest
        simp only [fire, if_neg ready]
        exact ⟨answer, List.forall_mem_cons.mpr ⟨hrule, later⟩⟩

namespace ScriptedVisitor

structure IsReadOnly (visitor : ScriptedVisitor) : Prop where
  enter : ∀ rule ∈ visitor.enter, rule.isReadOnly = true
  leave : ∀ rule ∈ visitor.leave, rule.isReadOnly = true

theorem readOnly (S : Type) :
    (hooks S).ReadOnly fun visitors _ => ∀ visitor ∈ visitors, visitor.IsReadOnly where
  call := by
    intro visitors state index inRange hook node result visitor state' holds accepts answer
    have old : visitors[index].IsReadOnly := holds _ (Array.getElem_mem inRange)
    have one : (result = .proceed ∨ result = .skipChildren) ∧ visitor.IsReadOnly := by
      cases hook with
      | enter =>
          obtain ⟨gentle, later⟩ := Rule.fire_readOnly node old.enter
          cases answer
          exact ⟨gentle, later, old.leave⟩
      | leave =>
          obtain ⟨gentle, later⟩ := Rule.fire_readOnly node old.leave
          cases answer
          exact ⟨gentle, old.enter, later⟩
    refine ⟨one.1, fun other member => ?_⟩
    rcases Array.mem_or_eq_of_mem_set member with kept | rfl
    · exact holds other kept
    · exact one.2

theorem steady (S : Type) : (hooks S).Steady := by
  intro hook visitor node state other
  cases hook <;> rfl

end ScriptedVisitor

/-! The children of the first function are skipped, those of the second are not: the first use of
the rule is its last. -/

section Skipped

def skipping : VisitorSet ScriptedVisitor :=
  ⟨[({ ScriptedVisitor.idle "skip" with enter := [⟨.skipChildren, .always, some 1⟩] },
      .ofKind .function),
    (ScriptedVisitor.idle "look", .any)]⟩

def twoFunctions : List Forest :=
  [[⟨.function, none, 0, [.ofKind .struct]⟩], [⟨.function, none, 0, [.ofKind .struct]⟩]]

theorem read_only_session_is_tour_skipped :
    ∃ session, (Traverser.cached skipping).traverseAll (ScriptedVisitor.hooks Unit) 2 twoFunctions
        () = .ok session ∧
      session.forests = twoFunctions ∧ session.stats = ⟨3, 10, false⟩ ∧
      (Dispatch.counters session.traverser.dispatch).lookups = 3 ∧
      Bracketed (Node.tourFrom (ScriptedVisitor.hooks Unit) skipping.rules 0 twoFunctions.flatten
        ⟨(Traverser.cached skipping).visitors, ()⟩).1 := by
  have start : ∀ visitor ∈ (Traverser.cached skipping).visitors, visitor.IsReadOnly := by
    intro visitor member
    have : visitor ∈ skipping.visitors := by simpa [Traverser.cached] using member
    simp only [skipping, VisitorSet.visitors, List.map_cons, List.map_nil, List.mem_cons,
      List.not_mem_nil, or_false] at this
    rcases this with rfl | rfl
    · exact ⟨by simp [Rule.isReadOnly], by simp [ScriptedVisitor.idle]⟩
    · exact ⟨by simp [ScriptedVisitor.idle], by simp [ScriptedVisitor.idle]⟩
  obtain ⟨session, ends, forests, -, -, -, stats, -, lookups, -, bracketed⟩ :=
    read_only_session_is_tour (ScriptedVisitor.readOnly Unit)
      (CachedDispatch.sound_ofRules skipping.rules) rfl start
      (show ∀ forest ∈ twoFunctions, Forest.depth forest ≤ 2 by decide)
  exact ⟨session, ends, forests, stats.trans (by decide +kernel),
    lookups.trans (by decide +kernel), bracketed (ScriptedVisitor.steady Unit)⟩

end Skipped

end Script

end KindDispatch
