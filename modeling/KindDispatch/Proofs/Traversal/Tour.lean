import KindDispatch.Traversal.Walk

/-!
# Tours

Where visitors only ever answer to go on or to skip the children, the calls of a walk can be said by
recursion over the nodes.  `Node.tour` enters a node with the visitors its kind is for, tours its
children unless one of them asked to skip these, and leaves it with the same visitors again.  Every
call comes with the address of its node, so `Hidden` can tell from the calls which nodes are below
one whose children were skipped.
-/

namespace KindDispatch

variable {V S : Type}

/-! ## Addresses -/

/-- Where a node is below some nodes: the number of its root among them, then on each level its
number among the children of the node above. -/
abbrev Address := List Nat

namespace Node

mutual

def places : Node → List (Address × Node)
  | ⟨kind, name, line, children⟩ => ([], ⟨kind, name, line, children⟩) :: placesFrom 0 children

def placesFrom : (number : Nat) → List Node → List (Address × Node)
  | _, [] => []
  | number, node :: rest =>
    (places node).map (fun place => (number :: place.1, place.2)) ++ placesFrom (number + 1) rest

end

mutual

theorem map_places : ∀ node : Node, node.places.map Prod.snd = node.preorder
  | ⟨_, _, _, children⟩ => by simp only [places, preorder, List.map_cons, map_placesFrom 0 children]

theorem map_placesFrom : ∀ (number : Nat) (nodes : List Node),
    (placesFrom number nodes).map Prod.snd = preorderList nodes
  | _, [] => rfl
  | number, node :: rest => by
    simp only [placesFrom, preorderList, List.map_append, List.map_map, Function.comp_def,
      map_places node, map_placesFrom (number + 1) rest]

end

end Node

/-! ## Tours -/

structure Party (V S : Type) where
  visitors : Array V
  state : S

/-- Calls on one node the visitors with the given numbers that accept it when their turn comes. -/
def Node.round (hooks : Hooks V S) (hook : Hook) (node : Node) :
    List Nat → Party V S → List VisitorCall × Party V S
  | [], party => ([], party)
  | index :: rest, party =>
    if inRange : index < party.visitors.size then
      if hooks.accepts party.visitors[index] node then
        let (result, visitor, state) := hooks.call hook party.visitors[index] node party.state
        let (calls, party) :=
          round hooks hook node rest ⟨party.visitors.set index visitor, state⟩
        (⟨index, hook, node, result⟩ :: calls, party)
      else round hooks hook node rest party
    else round hooks hook node rest party

section Round

variable {hooks : Hooks V S} {hook : Hook} {node : Node} {index : Nat} {rest : List Nat}
  (party : Party V S)

theorem Node.round_of_refuses (inRange : index < party.visitors.size)
    (refuses : hooks.accepts party.visitors[index] node = false) :
    node.round hooks hook (index :: rest) party = node.round hooks hook rest party := by
  simp [round, inRange, refuses]

theorem Node.round_of_accepts (inRange : index < party.visitors.size)
    (accepts : hooks.accepts party.visitors[index] node = true) {result : VisitResult}
    {visitor : V} {state : S}
    (answer : hooks.call hook party.visitors[index] node party.state = (result, visitor, state)) :
    node.round hooks hook (index :: rest) party =
      let later := node.round hooks hook rest ⟨party.visitors.set index visitor, state⟩
      (⟨index, hook, node, result⟩ :: later.1, later.2) := by
  simp [round, inRange, accepts, answer]

end Round

def skips (calls : List VisitorCall) : Bool := calls.any (·.result = .skipChildren)

namespace Node

variable (hooks : Hooks V S) (rules : List Applicability)

mutual

/-- The calls of the visitors on a node and below, each with the address of its node. -/
def tour : Node → Party V S → List (Address × VisitorCall) × Party V S
  | ⟨kind, name, line, children⟩, party =>
    let node : Node := ⟨kind, name, line, children⟩
    let (entered, party) := node.round hooks .enter (applicable rules kind) party
    let (below, party) := if skips entered then ([], party) else tourFrom 0 children party
    let (left, party) := node.round hooks .leave (applicable rules kind) party
    (entered.map (([], ·)) ++ below ++ left.map (([], ·)), party)

def tourFrom : (number : Nat) → List Node → Party V S → List (Address × VisitorCall) × Party V S
  | _, [], party => ([], party)
  | number, node :: rest, party =>
    let (first, party) := tour node party
    let (later, party) := tourFrom (number + 1) rest party
    (first.map (fun call => (number :: call.1, call.2)) ++ later, party)

end

def tourBelow (skip : Bool) (children : List Node) (party : Party V S) :
    List (Address × VisitorCall) × Party V S :=
  if skip then ([], party) else tourFrom hooks rules 0 children party

def placesBelow (skip : Bool) (children : List Node) : List (Address × Node) :=
  if skip then [] else placesFrom 0 children

variable {hooks rules}

theorem tour_eq (node : Node) (party : Party V S) :
    node.tour hooks rules party =
      let entered := node.round hooks .enter (applicable rules node.kind) party
      let below := tourBelow hooks rules (skips entered.1) node.children entered.2
      let left := node.round hooks .leave (applicable rules node.kind) below.2
      (entered.1.map (([], ·)) ++ below.1 ++ left.1.map (([], ·)), left.2) := by
  cases node
  rfl

theorem tourFrom_cons (number : Nat) (node : Node) (rest : List Node) (party : Party V S) :
    tourFrom hooks rules number (node :: rest) party =
      let first := node.tour hooks rules party
      let later := tourFrom hooks rules (number + 1) rest first.2
      (first.1.map (fun call => (number :: call.1, call.2)) ++ later.1, later.2) := rfl

theorem places_eq (node : Node) : node.places = ([], node) :: placesFrom 0 node.children := by
  cases node
  rfl

/-! ## Addresses of calls -/

private theorem hook_of_mem_round {hook : Hook} {node : Node} {indices : List Nat}
    {party : Party V S}
    {call : VisitorCall} (member : call ∈ (node.round hooks hook indices party).1) :
    call.hook = hook := by
  induction indices generalizing party with
  | nil => simp [round] at member
  | cons index rest ih =>
      rw [round] at member
      split at member
      · split at member
        · rcases List.mem_cons.mp member with rfl | later
          · rfl
          · exact ih later
        · exact ih member
      · exact ih member

theorem address_of_mem_tourFrom {number : Nat} {nodes : List Node} {party : Party V S}
    {call : Address × VisitorCall} (member : call ∈ (tourFrom hooks rules number nodes party).1) :
    ∃ first rest, call.1 = first :: rest ∧ number ≤ first := by
  induction nodes generalizing number party with
  | nil => simp [tourFrom] at member
  | cons node nodes ih =>
      rw [tourFrom_cons] at member
      rcases List.mem_append.mp member with here | later
      · obtain ⟨below, -, rfl⟩ := List.mem_map.mp here
        exact ⟨number, below.1, rfl, Nat.le_refl _⟩
      · obtain ⟨first, rest, same, le⟩ := ih later
        exact ⟨first, rest, same, by omega⟩

theorem address_of_mem_placesFrom {number : Nat} {nodes : List Node} {place : Address × Node}
    (member : place ∈ placesFrom number nodes) :
    ∃ first rest, place.1 = first :: rest ∧ number ≤ first := by
  induction nodes generalizing number with
  | nil => simp [placesFrom] at member
  | cons node nodes ih =>
      rw [placesFrom] at member
      rcases List.mem_append.mp member with here | later
      · obtain ⟨below, -, rfl⟩ := List.mem_map.mp here
        exact ⟨number, below.1, rfl, Nat.le_refl _⟩
      · obtain ⟨first, rest, same, le⟩ := ih later
        exact ⟨first, rest, same, by omega⟩

end Node

/-! ## Skipped children -/

/-- The address is below that of a node on entering which a visitor asked to skip the children. -/
def Hidden (calls : List (Address × VisitorCall)) (address : Address) : Prop :=
  ∃ call ∈ calls, call.2.hook = .enter ∧ call.2.result = .skipChildren ∧
    call.1 <+: address ∧ call.1 ≠ address

instance (calls : List (Address × VisitorCall)) (address : Address) :
    Decidable (Hidden calls address) :=
  inferInstanceAs (Decidable (∃ call ∈ calls, _))

def visible (calls : List (Address × VisitorCall)) (places : List (Address × Node)) :
    List (Address × Node) :=
  places.filter fun place => ¬Hidden calls place.1

section Hidden

variable {calls first later : List (Address × VisitorCall)} {address : Address}

private theorem not_hidden_nil : ¬Hidden calls [] := by
  rintro ⟨call, -, -, -, above, other⟩
  exact other (List.prefix_nil.mp above)

private theorem hidden_append :
    Hidden (first ++ later) address ↔ Hidden first address ∨ Hidden later address := by
  simp [Hidden, or_and_right, exists_or]

private theorem not_hidden_of_ne {number : Nat}
    (elsewhere : ∀ call ∈ calls, ∃ other rest, call.1 = other :: rest ∧ other ≠ number) :
    ¬Hidden calls (number :: address) := by
  rintro ⟨call, member, -, -, above, -⟩
  obtain ⟨other, rest, same, different⟩ := elsewhere call member
  rw [same] at above
  exact different (List.cons_prefix_cons.mp above).1

private theorem hidden_map_cons {number : Nat} :
    Hidden (calls.map fun call => (number :: call.1, call.2)) (number :: address) ↔
      Hidden calls address := by
  constructor
  · rintro ⟨_, mapped, enter, skip, above, other⟩
    obtain ⟨call, member, rfl⟩ := List.mem_map.mp mapped
    exact ⟨call, member, enter, skip, (List.cons_prefix_cons.mp above).2, by simpa using other⟩
  · rintro ⟨call, member, enter, skip, above, other⟩
    exact ⟨_, List.mem_map_of_mem member, enter, skip, List.cons_prefix_cons.mpr ⟨rfl, above⟩,
      by simpa using other⟩

private theorem hidden_here {hook : Hook} {own : List VisitorCall}
    (hooked : ∀ call ∈ own, call.hook = hook) (number : Nat) :
    Hidden (own.map (([], ·))) (number :: address) ↔ hook = .enter ∧ skips own = true := by
  constructor
  · rintro ⟨_, mapped, enter, skip, -, -⟩
    obtain ⟨call, member, rfl⟩ := List.mem_map.mp mapped
    exact ⟨(hooked call member).symm.trans enter, by simpa [skips] using ⟨call, member, skip⟩⟩
  · rintro ⟨rfl, skip⟩
    obtain ⟨call, member, skip⟩ : ∃ call ∈ own, call.result = .skipChildren := by
      simpa [skips] using skip
    exact ⟨_, List.mem_map_of_mem member, hooked call member, skip, List.nil_prefix, by simp⟩

private theorem visible_root (calls : List (Address × VisitorCall)) (node : Node)
    (places : List (Address × Node)) :
    visible calls (([], node) :: places) = ([], node) :: visible calls places :=
  List.filter_cons_of_pos (by simpa using not_hidden_nil)

private theorem visible_congr {calls calls' : List (Address × VisitorCall)}
    {places : List (Address × Node)}
    (same : ∀ place ∈ places, (Hidden calls place.1 ↔ Hidden calls' place.1)) :
    visible calls places = visible calls' places :=
  List.filter_congr fun place member => by simp [same place member]

end Hidden

namespace Node

variable {hooks : Hooks V S} {rules : List Applicability}

theorem visible_tour (node : Node) (party : Party V S) :
    visible (node.tour hooks rules party).1 node.places =
      let entered := node.round hooks .enter (applicable rules node.kind) party
      ([], node) :: visible (tourBelow hooks rules (skips entered.1) node.children entered.2).1
        (placesBelow (skips entered.1) node.children) := by
  have entering : ∀ call ∈ (node.round hooks .enter (applicable rules node.kind) party).1,
      call.hook = .enter := fun _ => hook_of_mem_round
  have leaving : ∀ party, ∀ call ∈ (node.round hooks .leave (applicable rules node.kind) party).1,
      call.hook = .leave := fun _ _ => hook_of_mem_round
  rw [tour_eq, places_eq, visible_root]
  simp only [List.cons.injEq, true_and]
  cases skip : skips (node.round hooks .enter (applicable rules node.kind) party).1 with
  | true =>
      refine List.filter_eq_nil_iff.mpr fun place member => ?_
      obtain ⟨first, rest, same, -⟩ := address_of_mem_placesFrom member
      have here : Hidden _ (first :: rest) := (hidden_here entering first).mpr ⟨rfl, skip⟩
      rw [List.append_assoc]
      simpa [same] using hidden_append.mpr (.inl here)
  | false =>
      refine visible_congr fun place member => ?_
      obtain ⟨first, rest, same, -⟩ := address_of_mem_placesFrom member
      rw [same, hidden_append, hidden_append, hidden_here entering, hidden_here (leaving _)]
      simp [skip]

theorem visible_tourFrom (number : Nat) (node : Node) (rest : List Node) (party : Party V S) :
    visible (tourFrom hooks rules number (node :: rest) party).1
        (placesFrom number (node :: rest)) =
      (visible (node.tour hooks rules party).1 node.places).map
          (fun place => (number :: place.1, place.2)) ++
        visible (tourFrom hooks rules (number + 1) rest (node.tour hooks rules party).2).1
          (placesFrom (number + 1) rest) := by
  rw [tourFrom_cons, placesFrom, visible, List.filter_append, List.filter_map]
  congr 1
  · congr 1
    refine List.filter_congr fun place member => ?_
    have elsewhere : ¬Hidden
        (tourFrom hooks rules (number + 1) rest (node.tour hooks rules party).2).1
        (number :: place.1) := by
      refine not_hidden_of_ne fun call member => ?_
      obtain ⟨first, rest, same, le⟩ := address_of_mem_tourFrom member
      exact ⟨first, rest, same, by omega⟩
    simp [hidden_append, hidden_map_cons, elsewhere]
  · refine visible_congr fun place member => ?_
    obtain ⟨first, rest, same, le⟩ := address_of_mem_placesFrom member
    have elsewhere : ¬Hidden ((node.tour hooks rules party).1.map
        fun call => (number :: call.1, call.2)) place.1 := by
      rw [same]
      refine not_hidden_of_ne fun call member => ?_
      obtain ⟨below, -, rfl⟩ := List.mem_map.mp member
      exact ⟨number, below.1, rfl, by omega⟩
    simp [hidden_append, elsewhere]

theorem tourFrom_append (number : Nat) (first rest : List Node) (party : Party V S) :
    tourFrom hooks rules number (first ++ rest) party =
      let early := tourFrom hooks rules number first party
      let late := tourFrom hooks rules (number + first.length) rest early.2
      (early.1 ++ late.1, late.2) := by
  induction first generalizing number party with
  | nil => rfl
  | cons node first ih =>
      simp only [List.cons_append, tourFrom_cons, ih, List.length_cons, List.append_assoc]
      rw [Nat.add_right_comm, Nat.add_assoc]

theorem visible_append (number : Nat) (first rest : List Node) (party : Party V S) :
    visible (tourFrom hooks rules number (first ++ rest) party).1
        (placesFrom number (first ++ rest)) =
      visible (tourFrom hooks rules number first party).1 (placesFrom number first) ++
        visible (tourFrom hooks rules (number + first.length) rest
            (tourFrom hooks rules number first party).2).1
          (placesFrom (number + first.length) rest) := by
  induction first generalizing number party with
  | nil => rfl
  | cons node first ih =>
      rw [List.cons_append, visible_tourFrom, ih, visible_tourFrom, List.append_assoc,
        List.length_cons, Nat.add_right_comm, Nat.add_assoc number]
      rfl

end Node

/-! ## Visitors that always accept the same nodes -/

/-- Calls do not change what the visitors accept. -/
def Hooks.Steady (hooks : Hooks V S) : Prop :=
  ∀ hook visitor node state other,
    hooks.accepts (hooks.call hook visitor node state).2.1 other = hooks.accepts visitor other

def Party.taste (hooks : Hooks V S) (party : Party V S) (index : Nat) (node : Node) : Bool :=
  party.visitors[index]?.any (hooks.accepts · node)

def callersAt (calls : List (Address × VisitorCall)) (hook : Hook) (address : Address) : List Nat :=
  (calls.filter fun call => call.1 = address ∧ call.2.hook = hook).map (·.2.visitor)

/-- Every node is left by the visitors that entered it, in the same order. -/
def Bracketed (calls : List (Address × VisitorCall)) : Prop :=
  ∀ address, callersAt calls .enter address = callersAt calls .leave address

section Bracketed

variable {calls first later : List (Address × VisitorCall)}

private theorem callersAt_append (hook : Hook) (address : Address) :
    callersAt (first ++ later) hook address =
      callersAt first hook address ++ callersAt later hook address := by
  simp [callersAt]

theorem bracketed_nil : Bracketed [] := fun _ => rfl

theorem Bracketed.append (early : Bracketed first) (late : Bracketed later) :
    Bracketed (first ++ later) := fun address => by
  rw [callersAt_append, callersAt_append, early address, late address]

private theorem callersAt_map_cons (number : Nat) (hook : Hook) (address : Address) :
    callersAt (calls.map fun call => (number :: call.1, call.2)) hook (number :: address) =
      callersAt calls hook address := by
  simp [callersAt, List.filter_map, Function.comp_def]

private theorem callersAt_of_ne (hook : Hook) {address : Address}
    (elsewhere : ∀ call ∈ calls, call.1 ≠ address) : callersAt calls hook address = [] := by
  simp only [callersAt, List.map_eq_nil_iff, List.filter_eq_nil_iff]
  intro call member
  simp [elsewhere call member]

theorem Bracketed.map_cons (bracketed : Bracketed calls) (number : Nat) :
    Bracketed (calls.map fun call => (number :: call.1, call.2)) := fun address => by
  by_cases here : ∃ rest, address = number :: rest
  · obtain ⟨rest, rfl⟩ := here
    rw [callersAt_map_cons, callersAt_map_cons, bracketed rest]
  · have elsewhere : ∀ call ∈ calls.map fun call => (number :: call.1, call.2),
        call.1 ≠ address := by
      intro call member same
      obtain ⟨inner, -, rfl⟩ := List.mem_map.mp member
      exact here ⟨inner.1, same.symm⟩
    rw [callersAt_of_ne .enter elsewhere, callersAt_of_ne .leave elsewhere]

private theorem callersAt_here {own : List VisitorCall} {hook : Hook}
    (hooked : ∀ call ∈ own, call.hook = hook) (wanted : Hook) :
    callersAt (own.map (([], ·))) wanted [] =
      if hook = wanted then own.map (·.visitor) else [] := by
  have chosen : own.filter (·.hook = wanted) = if hook = wanted then own else [] := by
    by_cases same : hook = wanted
    · rw [if_pos same]
      exact List.filter_eq_self.mpr fun call member => by simp [hooked call member, same]
    · rw [if_neg same]
      exact List.filter_eq_nil_iff.mpr fun call member => by simp [hooked call member, same]
  rw [← List.map_nil, ← apply_ite (List.map _), ← chosen]
  simp [callersAt, List.filter_map, Function.comp_def]

/-- The calls on a node put the calls below it in brackets. -/
theorem Bracketed.around {entered left : List VisitorCall} (bracketed : Bracketed calls)
    (below : ∀ call ∈ calls, call.1 ≠ []) (entering : ∀ call ∈ entered, call.hook = .enter)
    (leaving : ∀ call ∈ left, call.hook = .leave)
    (same : entered.map (·.visitor) = left.map (·.visitor)) :
    Bracketed (entered.map (([], ·)) ++ calls ++ left.map (([], ·))) := fun address => by
  simp only [callersAt_append]
  cases address with
  | nil =>
      rw [callersAt_of_ne _ below, callersAt_of_ne _ below, callersAt_here entering,
        callersAt_here entering, callersAt_here leaving, callersAt_here leaving]
      simp [same]
  | cons number rest =>
      have elsewhere : ∀ (own : List VisitorCall) (hook : Hook),
          callersAt (own.map (([], ·))) hook (number :: rest) = [] := by
        refine fun own hook => callersAt_of_ne hook fun call member => ?_
        obtain ⟨inner, -, rfl⟩ := List.mem_map.mp member
        exact (List.cons_ne_nil number rest).symm
      simp [elsewhere, bracketed (number :: rest)]

end Bracketed

private theorem Party.taste_set {hooks : Hooks V S} {party : Party V S} {index : Nat} {visitor : V}
    (inRange : index < party.visitors.size)
    (same : ∀ node, hooks.accepts visitor node = hooks.accepts party.visitors[index] node)
    (state : S) :
    Party.taste hooks ⟨party.visitors.set index visitor, state⟩ = party.taste hooks := by
  funext other node
  by_cases here : index = other
  · subst here
    simp [taste, inRange, same]
  · simp [taste, here]

namespace Node

variable {hooks : Hooks V S} {rules : List Applicability}

theorem round_steady (steady : hooks.Steady) (hook : Hook) (node : Node) (indices : List Nat)
    (party : Party V S) :
    (node.round hooks hook indices party).2.taste hooks = party.taste hooks ∧
      (node.round hooks hook indices party).1.map (·.visitor) =
        indices.filter fun index => party.taste hooks index node := by
  induction indices generalizing party with
  | nil => exact ⟨rfl, rfl⟩
  | cons index rest ih =>
      by_cases inRange : index < party.visitors.size
      · have htaste : party.taste hooks index node = hooks.accepts party.visitors[index] node := by
          simp [Party.taste, inRange]
        cases haccepts : hooks.accepts party.visitors[index] node with
        | false =>
            rw [round_of_refuses party inRange haccepts,
              List.filter_cons_of_neg (by simp [htaste, haccepts])]
            exact ih party
        | true =>
            rw [round_of_accepts party inRange haccepts rfl,
              List.filter_cons_of_pos (by simp [htaste, haccepts])]
            have kept := Party.taste_set inRange (steady hook _ node party.state)
              (hooks.call hook party.visitors[index] node party.state).2.2
            obtain ⟨same, called⟩ := ih ⟨_, _⟩
            rw [kept] at same called
            exact ⟨same, by simp [called]⟩
      · have htaste : party.taste hooks index node = false := by
          simp [Party.taste, inRange]
        rw [List.filter_cons_of_neg (by simp [htaste])]
        simp only [round, inRange, dite_false]
        exact ih party

mutual

theorem tour_steady (steady : hooks.Steady) : ∀ (node : Node) (party : Party V S),
    (node.tour hooks rules party).2.taste hooks = party.taste hooks ∧
      Bracketed (node.tour hooks rules party).1
  | ⟨kind, name, line, children⟩, party => by
    let node : Node := ⟨kind, name, line, children⟩
    let entered := node.round hooks .enter (applicable rules kind) party
    let below := tourBelow hooks rules (skips entered.1) children entered.2
    obtain ⟨hentered, entering⟩ := round_steady steady .enter node (applicable rules kind) party
    obtain ⟨hleft, leaving⟩ := round_steady steady .leave node (applicable rules kind) below.2
    have inside : below.2.taste hooks = entered.2.taste hooks ∧ Bracketed below.1 ∧
        ∀ call ∈ below.1, call.1 ≠ [] := by
      cases hskip : skips entered.1 with
      | true => simp [below, tourBelow, hskip, bracketed_nil]
      | false =>
          obtain ⟨hbelow, bracketed⟩ := tourFrom_steady steady 0 children entered.2
          simp only [below, tourBelow, hskip, Bool.false_eq_true, if_false]
          refine ⟨hbelow, bracketed, fun call member => ?_⟩
          obtain ⟨first, rest, same, -⟩ := address_of_mem_tourFrom member
          simp [same]
    obtain ⟨hbelow, bracketed, nonempty⟩ := inside
    have same : below.2.taste hooks = party.taste hooks := hbelow.trans hentered
    rw [same] at hleft leaving
    refine ⟨hleft, bracketed.around nonempty (fun _ => hook_of_mem_round)
      (fun _ => hook_of_mem_round) (entering.trans leaving.symm)⟩

theorem tourFrom_steady (steady : hooks.Steady) :
    ∀ (number : Nat) (nodes : List Node) (party : Party V S),
      (tourFrom hooks rules number nodes party).2.taste hooks = party.taste hooks ∧
        Bracketed (tourFrom hooks rules number nodes party).1
  | _, [], party => ⟨rfl, bracketed_nil⟩
  | number, node :: rest, party => by
    obtain ⟨same, first⟩ := tour_steady steady node party
    obtain ⟨same', later⟩ :=
      tourFrom_steady steady (number + 1) rest (node.tour hooks rules party).2
    rw [tourFrom_cons]
    exact ⟨same'.trans same, (first.map_cons number).append later⟩

end

end Node

end KindDispatch
