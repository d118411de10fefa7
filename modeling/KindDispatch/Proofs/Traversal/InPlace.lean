import KindDispatch.Proofs.Traversal.Composition

/-!
# Sequences that are changed in place

A walk may take nodes out of the sequence it goes through, and may put others in their place.
`Walk.sequence` keeps what is done apart from what is still to be walked.  `Walk.inPlace` is the same
walk as a loop over one list that is changed on the way, where a removal closes the gap under the
index.

Neither skips a node or comes to one twice.  `InTurn` says what it is to walk some nodes one after
the other, without any sequence that changes, and both loops come to what it says.
-/

namespace KindDispatch

variable {V S D W : Type}

structure Turn where
  step : Step
  node : Node

def Turn.kept (turn : Turn) : List Node := turn.step.kept turn.node

/-- Some nodes are walked one after the other, each from the state that the one before it left. -/
inductive InTurn (walkOne : Node → W → Except Halt (Step × Node × W)) :
    List Node → W → List Turn → W → Prop
  | nil (walk : W) : InTurn walkOne [] walk [] walk
  | cons {node left : Node} {rest : List Node} {step : Step} {walk between after : W}
      {turns : List Turn} (first : walkOne node walk = .ok (step, left, between))
      (others : InTurn walkOne rest between turns after) :
      InTurn walkOne (node :: rest) walk (⟨step, left⟩ :: turns) after

namespace Walk

/-- Walks a sequence from an index on and changes it on the way.  When a node is removed, the next
one moves under the index. -/
def inPlace (walkOne : Node → W → Except Halt (Step × Node × W)) (nodes : List Node) (index : Nat)
    (walk : W) : Except Halt (Step × List Node × W) :=
  if inRange : index < nodes.length then
    match walkOne nodes[index] walk with
    | .error halt => .error halt
    | .ok (.keep, node, walk) => inPlace walkOne (nodes.set index node) (index + 1) walk
    | .ok (.remove, _, walk) => inPlace walkOne (nodes.eraseIdx index) index walk
    | .ok (.stop, node, walk) => .ok (.stop, nodes.set index node, walk)
  else .ok (.keep, nodes, walk)
termination_by nodes.length - index
decreasing_by
  all_goals simp only [List.length_set, List.length_eraseIdx]
  all_goals grind

def noting (walkOne : Node → W → Except Halt (Step × Node × W)) (node : Node) :
    W × List Node → Except Halt (Step × Node × W × List Node)
  | (walk, noted) => (walkOne node walk).map fun (step, left, walk) =>
      (step, left, walk, noted ++ [node])

variable {walkOne : Node → W → Except Halt (Step × Node × W)}

/-- The list holds what is left of the nodes that were walked, and then the others; the index is
between the two. -/
theorem inPlace_append (done rest : List Node) (walk : W) :
    inPlace walkOne (done ++ rest) done.length walk =
      sequence walkOne done.reverse rest walk := by
  induction rest generalizing done walk with
  | nil =>
      rw [inPlace]
      simp [sequence]
  | cons node rest ih =>
      rw [inPlace]
      simp only [List.length_append, List.length_cons, Nat.lt_add_right_iff_pos, Nat.zero_lt_succ,
        dite_true, List.getElem_append_right, Nat.le_refl, Nat.sub_self, List.getElem_cons_zero,
        sequence]
      rcases walkOne node walk with halt | ⟨step, left, walk⟩
      · rfl
      · cases step with
        | keep =>
            have kept := ih (done ++ [left]) walk
            simp only [List.length_append, List.length_singleton, List.append_assoc,
              List.singleton_append, List.reverse_append, List.reverse_singleton] at kept
            simpa using kept
        | remove =>
            have removed : (done ++ node :: rest).eraseIdx done.length = done ++ rest := by
              simp [List.eraseIdx_append_of_length_le]
            simp only [removed, ih]
        | stop => simp

theorem inPlace_eq_sequence (nodes : List Node) (walk : W) :
    inPlace walkOne nodes 0 walk = sequence walkOne [] nodes walk :=
  inPlace_append [] nodes walk

private theorem sequence_of_error {node : Node} {walk : W} {cause : Halt}
    (halts : walkOne node walk = .error cause) (rest : List Node) :
    sequence walkOne [] (node :: rest) walk = .error cause := by
  simp [sequence, halts]

private theorem sequence_of_stop {node left : Node} {walk after : W}
    (stops : walkOne node walk = .ok (.stop, left, after)) (rest : List Node) :
    sequence walkOne [] (node :: rest) walk = .ok (.stop, left :: rest, after) := by
  simp [sequence, stops]

private theorem sequence_of_ne {node left : Node} {step : Step} {walk between : W}
    (first : walkOne node walk = .ok (step, left, between)) (goes : step ≠ .stop)
    (rest : List Node) :
    sequence walkOne [] (node :: rest) walk =
      (sequence walkOne [] rest between).map fun (last, nodes, walk) =>
        (last, step.kept left ++ nodes, walk) := by
  rw [sequence, first]
  cases step with
  | keep => exact sequence_done [left] rest between
  | remove => exact sequence_done [] rest between
  | stop => contradiction

private theorem noting_of_ok {node left : Node} {step : Step} {walk after : W}
    (one : walkOne node walk = .ok (step, left, after)) (noted : List Node) :
    noting walkOne node (walk, noted) = .ok (step, left, after, noted ++ [node]) := by
  simp [noting, one, Except.map]

private theorem noting_of_error {node : Node} {walk : W} {cause : Halt}
    (one : walkOne node walk = .error cause) (noted : List Node) :
    noting walkOne node (walk, noted) = .error cause := by
  simp [noting, one, Except.map]

end Walk

/-! ## What a sequence comes to -/

section

variable (walkOne : Node → W → Except Halt (Step × Node × W))

/-- What a sequence comes to if its nodes are walked once each and in order: the step, the sequence
that is left, the state, and the nodes that were walked. -/
inductive Course (nodes : List Node) (walk : W) :
    Except Halt (Step × List Node × W × List Node) → Prop
  | finished {turns : List Turn} {after : W} (walked : InTurn walkOne nodes walk turns after)
      (going : ∀ turn ∈ turns, turn.step ≠ .stop) :
      Course nodes walk (.ok (.keep, turns.flatMap Turn.kept, after, nodes))
  /-- The node that stops the walk is left in its place, and those after it as they were. -/
  | stopped {before rest : List Node} {node left : Node} {turns : List Turn} {between after : W}
      (split : nodes = before ++ node :: rest) (walked : InTurn walkOne before walk turns between)
      (going : ∀ turn ∈ turns, turn.step ≠ .stop)
      (stops : walkOne node between = .ok (.stop, left, after)) :
      Course nodes walk
        (.ok (.stop, turns.flatMap Turn.kept ++ left :: rest, after, before ++ [node]))
  | halted {before rest : List Node} {node : Node} {turns : List Turn} {between : W} {cause : Halt}
      (split : nodes = before ++ node :: rest) (walked : InTurn walkOne before walk turns between)
      (going : ∀ turn ∈ turns, turn.step ≠ .stop) (halts : walkOne node between = .error cause) :
      Course nodes walk (.error cause)

end

variable {walkOne : Node → W → Except Halt (Step × Node × W)}

theorem InTurn.sequence_noting {before : List Node} {walk between : W} {turns : List Turn}
    (walked : InTurn walkOne before walk turns between)
    (going : ∀ turn ∈ turns, turn.step ≠ .stop) (rest noted : List Node) :
    Walk.sequence (Walk.noting walkOne) [] (before ++ rest) (walk, noted) =
      (Walk.sequence (Walk.noting walkOne) [] rest (between, noted ++ before)).map
        fun (last, nodes, walk) => (last, turns.flatMap Turn.kept ++ nodes, walk) := by
  induction walked generalizing noted with
  | nil walk =>
      simp only [List.nil_append, List.append_nil, List.flatMap_nil]
      cases Walk.sequence (Walk.noting walkOne) [] rest (walk, noted) <;> rfl
  | cons first others ih =>
      rename_i node left before step walk between after turns
      have later := ih (fun turn member => going turn (List.mem_cons_of_mem _ member))
        (noted ++ [node])
      rw [List.append_assoc, List.singleton_append] at later
      rw [List.cons_append, Walk.sequence_of_ne (Walk.noting_of_ok first noted)
        (going ⟨step, left⟩ List.mem_cons_self), later]
      cases Walk.sequence (Walk.noting walkOne) [] rest (after, noted ++ node :: before) <;>
        simp [Except.map, Turn.kept]

namespace Course

theorem cons {node left : Node} {rest : List Node} {walk between : W} {step : Step}
    {result : Except Halt (Step × List Node × W × List Node)}
    (first : walkOne node walk = .ok (step, left, between)) (goes : step ≠ .stop)
    (course : Course walkOne rest between result) :
    Course walkOne (node :: rest) walk (result.map fun (last, nodes, after, walked) =>
      (last, step.kept left ++ nodes, after, node :: walked)) := by
  have going : ∀ {turns : List Turn}, (∀ turn ∈ turns, turn.step ≠ .stop) →
      ∀ turn ∈ (⟨step, left⟩ :: turns : List Turn), turn.step ≠ .stop := by
    intro turns others turn member
    rcases List.mem_cons.mp member with rfl | later
    · exact goes
    · exact others turn later
  cases course with
  | finished walked others => exact .finished (.cons first walked) (going others)
  | stopped split walked others stops =>
      have whole := stopped (congrArg (node :: ·) split) (.cons first walked) (going others) stops
      simpa [Except.map, Turn.kept] using whole
  | halted split walked others halts =>
      exact .halted (congrArg (node :: ·) split) (.cons first walked) (going others) halts

variable (walkOne) in
theorem exists_sequence (nodes : List Node) (walk : W) (noted : List Node) :
    ∃ result, Course walkOne nodes walk result ∧
      Walk.sequence (Walk.noting walkOne) [] nodes (walk, noted) =
        result.map fun (last, left, after, walked) => (last, left, after, noted ++ walked) := by
  induction nodes generalizing walk noted with
  | nil => exact ⟨_, .finished (.nil walk) (by simp), by simp [Walk.sequence, Except.map]⟩
  | cons node rest ih =>
      rcases first : walkOne node walk with cause | ⟨step, left, between⟩
      · exact ⟨_, .halted (List.nil_append _).symm (.nil walk) (by simp) first,
          Walk.sequence_of_error (Walk.noting_of_error first noted) rest⟩
      · have one := Walk.noting_of_ok first noted
        by_cases stops : step = .stop
        · subst stops
          exact ⟨_, .stopped (List.nil_append _).symm (.nil walk) (by simp) first,
            Walk.sequence_of_stop one rest⟩
        · obtain ⟨result, course, later⟩ := ih between (noted ++ [node])
          refine ⟨_, course.cons first stops, ?_⟩
          rw [Walk.sequence_of_ne one stops, later]
          cases result <;> simp [Except.map]

theorem eq_sequence {nodes : List Node} {walk : W}
    {result : Except Halt (Step × List Node × W × List Node)}
    (course : Course walkOne nodes walk result) :
    Walk.sequence (Walk.noting walkOne) [] nodes (walk, []) = result := by
  cases course with
  | finished walked going =>
      have whole := walked.sequence_noting going [] []
      simpa [Walk.sequence, Except.map] using whole
  | stopped split walked going stops =>
      rw [split, walked.sequence_noting going, Walk.sequence_of_stop (Walk.noting_of_ok stops _)]
      simp [Except.map]
  | halted split walked going halts =>
      rw [split, walked.sequence_noting going, Walk.sequence_of_error (Walk.noting_of_error halts _)]
      rfl

theorem iff_sequence (nodes : List Node) (walk : W)
    (result : Except Halt (Step × List Node × W × List Node)) :
    Course walkOne nodes walk result ↔
      Walk.sequence (Walk.noting walkOne) [] nodes (walk, []) = result := by
  constructor
  · exact eq_sequence
  · rintro rfl
    obtain ⟨result, course, ends⟩ := exists_sequence walkOne nodes walk []
    have same : Walk.sequence (Walk.noting walkOne) [] nodes (walk, []) = result := by
      rw [ends]
      cases result <;> simp [Except.map]
    rwa [same]

end Course

theorem Walk.sequence_forget_noting (nodes : List Node) (walk : W) :
    (sequence (noting walkOne) [] nodes (walk, [])).map
        (fun (last, left, after, _) => (last, left, after)) =
      sequence walkOne [] nodes walk := by
  have alike : ∀ node (noted : W × List Node) walk, noted.1 = walk →
      Alike (fun noted walk => noted.1 = walk) (noting walkOne node noted) (walkOne node walk) := by
    rintro node ⟨walk, noted⟩ _ rfl
    rcases one : walkOne node walk with cause | ⟨step, left, after⟩
    · rw [noting_of_error one]
      exact .halt cause
    · rw [noting_of_ok one]
      exact .done step left rfl
  have related : ((walk, []) : W × List Node).1 = walk := rfl
  rcases (sequence_alike alike [] nodes related).outcomes with
    ⟨cause, hnoting, hwalk⟩ | ⟨step, left, ⟨after, noted⟩, _, hnoting, hwalk, rfl⟩
  · rw [hnoting, hwalk]
    rfl
  · rw [hnoting, hwalk]
    rfl

/--
A sequence that is changed while it is walked is walked as if it did not change: its nodes are
walked once each and in order, up to one that stops the walk, and each from the state the one before
it left.  In the end, or when it is stopped, there is left of each node that was walked nothing if
it was removed, and else the node its walk left there; what was put in its place is not walked
again.  The node that stops the walk stays, and so do all after it.
-/
theorem removal_keeps_turns [Dispatch D] (hooks : Hooks V S) (depth : Nat) (nodes : List Node)
    (walk : Walk V S D) :
    Walk.inPlace (Walk.node hooks depth) nodes 0 walk =
        Walk.sequence (Walk.node hooks depth) [] nodes walk ∧
      (Walk.inPlace (Walk.noting (Walk.node hooks depth)) nodes 0 (walk, [])).map
          (fun (last, left, after, _) => (last, left, after)) =
        Walk.inPlace (Walk.node hooks depth) nodes 0 walk ∧
      ∀ result, Walk.inPlace (Walk.noting (Walk.node hooks depth)) nodes 0 (walk, []) = result ↔
        Course (Walk.node hooks depth) nodes walk result := by
  refine ⟨Walk.inPlace_eq_sequence nodes walk, ?_, fun result => ?_⟩
  · rw [Walk.inPlace_eq_sequence, Walk.inPlace_eq_sequence]
    exact Walk.sequence_forget_noting nodes walk
  · rw [Walk.inPlace_eq_sequence]
    exact (Course.iff_sequence nodes walk result).symm

end KindDispatch
