import KindDispatch.Traversal.Engine

/-!
# The bound on the depth

A walk that comes to an end within a bound ends in the same way within every larger one.  So whether
a session ends, and how, does not depend on the bound, as long as that is large enough.
-/

namespace KindDispatch

variable {V S D W : Type}

private theorem map_mono {A B : Type} {result result' : Except Halt A} {change : A → B} {value : B}
    (mono : ∀ inner, result = .ok inner → result' = .ok inner)
    (hr : result.map change = .ok value) : result'.map change = .ok value := by
  cases hresult : result with
  | error cause =>
      rw [hresult] at hr
      contradiction
  | ok inner =>
      rw [hresult] at hr
      rw [mono inner hresult]
      exact hr

namespace Walk

section

variable {walkOne walkOne' : Node → W → Except Halt (Step × Node × W)}

theorem sequence_mono
    (one : ∀ node walk result, walkOne node walk = .ok result → walkOne' node walk = .ok result)
    {done rest : List Node} {walk : W} {result : Step × List Node × W}
    (hr : sequence walkOne done rest walk = .ok result) :
    sequence walkOne' done rest walk = .ok result := by
  induction rest generalizing done walk with
  | nil => exact hr
  | cons node rest ih =>
      simp only [sequence] at hr ⊢
      cases hone : walkOne node walk with
      | error cause =>
          rw [hone] at hr
          contradiction
      | ok outcome =>
          rw [hone] at hr
          rw [one node walk outcome hone]
          obtain ⟨step, node, walk⟩ := outcome
          cases step with
          | keep => exact ih hr
          | remove => exact ih hr
          | stop => exact hr

theorem forests_mono
    (one : ∀ node walk result, walkOne node walk = .ok result → walkOne' node walk = .ok result)
    {list : List Forest} {walk : W} {result : Step × List Forest × W}
    (hr : forests walkOne list walk = .ok result) : forests walkOne' list walk = .ok result := by
  induction list generalizing walk result with
  | nil => exact hr
  | cons forest rest ih =>
      simp only [forests] at hr ⊢
      cases hone : sequence walkOne [] forest walk with
      | error cause =>
          rw [hone] at hr
          contradiction
      | ok outcome =>
          rw [hone] at hr
          rw [sequence_mono one hone]
          obtain ⟨step, forest, walk⟩ := outcome
          cases step with
          | stop => exact hr
          | keep => exact map_mono (fun _ => ih) hr
          | remove => exact map_mono (fun _ => ih) hr

end

variable [Dispatch D]

theorem visit_mono (hooks : Hooks V S)
    {walkChildren walkChildren' : List Node → Walk V S D →
      Except Halt (Step × List Node × Walk V S D)}
    (children : ∀ nodes walk result, walkChildren nodes walk = .ok result →
      walkChildren' nodes walk = .ok result)
    {start : Nat} {target : Node} {walk : Walk V S D} {result : Step × Node × Walk V S D}
    (hr : visit hooks walkChildren start target walk = .ok result) :
    visit hooks walkChildren' start target walk = .ok result := by
  unfold visit at hr ⊢
  simp only at hr ⊢
  cases henter : walk.callPath hooks .enter start walk.path.size target with
  | error cause =>
      rw [henter] at hr
      contradiction
  | ok outcome =>
      rw [henter] at hr
      obtain ⟨step, entered, skip, walk⟩ := outcome
      cases step with
      | remove => exact hr
      | stop => exact hr
      | keep =>
          simp only at hr ⊢
          cases skip with
          | true => exact hr
          | false =>
              cases hchildren : walkChildren entered.children walk with
              | error cause => simp [descend, hchildren, Except.map] at hr
              | ok outcome =>
                  simp only [descend, hchildren] at hr
                  simp only [descend, children _ _ _ hchildren]
                  exact hr

theorem node_mono (hooks : Hooks V S) {depth depth' : Nat} (h : depth ≤ depth') {target : Node}
    {walk : Walk V S D} {result : Step × Node × Walk V S D}
    (hr : node hooks depth target walk = .ok result) :
    node hooks depth' target walk = .ok result := by
  induction depth generalizing depth' target walk result with
  | zero => simp [node] at hr
  | succ depth ih =>
      obtain ⟨deeper, rfl⟩ : ∃ deeper, depth' = deeper + 1 := ⟨depth' - 1, by omega⟩
      have hdeeper : depth ≤ deeper := by omega
      simp only [node] at hr ⊢
      exact map_mono
        (fun _ => visit_mono hooks fun _ _ _ => sequence_mono fun _ _ _ => ih hdeeper) hr

end Walk

theorem Traverser.traverseAll_mono [Dispatch D] (hooks : Hooks V S) {depth depth' : Nat}
    (h : depth ≤ depth') {traverser : Traverser V D} {forests : List Forest} {state : S}
    {session : Session V S D} (hr : traverser.traverseAll hooks depth forests state = .ok session) :
    traverser.traverseAll hooks depth' forests state = .ok session := by
  simp only [traverseAll] at hr ⊢
  exact map_mono (fun _ => Walk.forests_mono fun _ _ _ => Walk.node_mono hooks h) hr

theorem Workshop.traverseAll?_mono (hooks : Hooks V S) {depth depth' : Nat} (h : depth ≤ depth')
    {workshop : Workshop V} {number : Nat} {forests : List Forest} {state : S}
    {result : Outcome S × Workshop V}
    (hr : workshop.traverseAll? hooks depth number forests state = some result) :
    workshop.traverseAll? hooks depth' number forests state = some result := by
  have toOption_mono : ∀ {D : Type} [Dispatch D] {traverser : Traverser V D}
      {session : Session V S D},
      (traverser.traverseAll hooks depth forests state).toOption = some session →
      (traverser.traverseAll hooks depth' forests state).toOption = some session := by
    intro D _ traverser session hsome
    cases hsession : traverser.traverseAll hooks depth forests state with
    | error cause =>
        rw [hsession] at hsome
        contradiction
    | ok session' =>
        rw [hsession] at hsome
        rw [Traverser.traverseAll_mono hooks h hsession]
        exact hsome
  simp only [traverseAll?, bind, Option.bind_eq_some_iff] at hr ⊢
  obtain ⟨engine, hengine, hr⟩ := hr
  refine ⟨engine, hengine, ?_⟩
  cases engine with
  | naive traverser =>
      obtain ⟨session, hsession, hr⟩ := Option.bind_eq_some_iff.mp hr
      exact Option.bind_eq_some_iff.mpr ⟨session, toOption_mono hsession, hr⟩
  | cached traverser =>
      obtain ⟨session, hsession, hr⟩ := Option.bind_eq_some_iff.mp hr
      exact Option.bind_eq_some_iff.mpr ⟨session, toOption_mono hsession, hr⟩
  | shared table traverser =>
      obtain ⟨session, hsession, hr⟩ := Option.bind_eq_some_iff.mp hr
      exact Option.bind_eq_some_iff.mpr ⟨session, toOption_mono hsession, hr⟩

end KindDispatch
