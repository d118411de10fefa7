import KindDispatch.Proofs.Traversal.Record
import Mathlib.Algebra.BigOperators.Group.Multiset.Basic
import Mathlib.Tactic.Abel

/-!
# What a walk does to the forests

Every call finds its node at its place in the forests and leaves there what it answers: a
replacement, nothing, or the node.  `Edits` says that a record, read in this way from the first call
to the last, leads from the forests before a session to those after it.  So nothing else is done to
them.

Around a place the walk leaves things as they were given: `Place.Ahead` says what stands after it.
-/

namespace KindDispatch

variable {V S D W A B P Q X Y : Type}

/-! ## Edits -/

def VisitorCall.leaves (call : VisitorCall) : List Node :=
  call.result.step.kept (call.result.leaving call.node)

/-- Each call finds its node at its place and leaves there what it answers, and that is all. -/
def Edits (fill : P → List Node → X) : X → List (Moment P) → X → Prop
  | before, [], after => before = after
  | before, moment :: rest, after =>
    before = fill moment.place [moment.call.node] ∧
      Edits fill (fill moment.place moment.call.leaves) rest after

namespace Edits

variable {fill : P → List Node → X} {before between after : X} {early late : List (Moment P)}

theorem append (edits : Edits fill before early between) (edits' : Edits fill between late after) :
    Edits fill before (early ++ late) after := by
  induction early generalizing before with
  | nil =>
      obtain rfl := edits
      exact edits'
  | cons moment rest ih => exact ⟨edits.1, ih edits.2⟩

theorem relocate {fill' : Q → List Node → Y} {change : P → Q} {outer : X → Y}
    (outside : ∀ place nodes, fill' (change place) nodes = outer (fill place nodes))
    (edits : Edits fill before early after) :
    Edits fill' (outer before) (early.map (Moment.map change)) (outer after) := by
  induction early generalizing before with
  | nil => exact congrArg outer edits
  | cons moment rest ih =>
      obtain ⟨found, rest⟩ := edits
      refine ⟨?_, ?_⟩
      · rw [found]
        exact (outside moment.place [moment.call.node]).symm
      · have := ih rest
        rwa [← outside] at this

theorem last {moment : Moment P} (edits : Edits fill before (early ++ [moment]) after) :
    Edits fill before early (fill moment.place [moment.call.node]) ∧
      after = fill moment.place moment.call.leaves := by
  induction early generalizing before with
  | nil => exact edits.imp id Eq.symm
  | cons first rest ih =>
      obtain ⟨found, rest⟩ := edits
      obtain ⟨rest, last⟩ := ih rest
      exact ⟨⟨found, rest⟩, last⟩

private theorem eq_of_keeps (edits : Edits fill before early after)
    (keeps : ∀ moment ∈ early, moment.call.leaves = [moment.call.node]) : before = after := by
  induction early with
  | nil => exact edits
  | cons moment rest ih =>
      obtain ⟨hfirst, hrest⟩ := List.forall_mem_cons.mp keeps
      obtain ⟨found, edits⟩ := edits
      rw [hfirst, ← found] at edits
      exact ih edits hrest

end Edits

/-- What has been there when some of the calls of a record had been made. -/
def Reached (fill : P → List Node → X) (before : X) (moments : List (Moment P)) (whole : X) :
    Prop :=
  ∃ earlier, earlier <+: moments ∧ Edits fill before earlier whole

/-! ## Around a place -/

namespace Place

/-- After the place stands the end of what was given there: at the top the end of a given sequence,
and below a node the end of the children it had at some time that has been reached. -/
def Ahead : (reached : List Node → Prop) → (given : List Node) → Place → Prop
  | _, given, here _ after => after <:+ given
  | reached, given, under before parent after inner =>
    after <:+ given ∧ reached (before ++ parent :: after) ∧
      inner.Ahead (fun nodes => reached (before ++ parent.withChildren nodes :: after))
        parent.children

theorem Ahead.mono {reached reached' : List Node → Prop} {given : List Node} {place : Place}
    (ahead : place.Ahead reached given) (weaker : ∀ nodes, reached nodes → reached' nodes) :
    place.Ahead reached' given := by
  induction place generalizing reached reached' given with
  | here before after => exact ahead
  | under before parent after inner ih =>
      obtain ⟨suffix, found, ahead⟩ := ahead
      exact ⟨suffix, weaker _ found, ih ahead fun _ => weaker _⟩

theorem Ahead.within {reached reached' : List Node → Prop} {place : Place}
    (ahead : place.Ahead reached []) {before after given : List Node} (suffix : after <:+ given)
    (weaker : ∀ nodes, reached nodes → reached' (before ++ nodes ++ after)) :
    (place.within before after).Ahead reached' given := by
  cases place with
  | here before' after' =>
      obtain rfl := List.suffix_nil.mp ahead
      exact suffix
  | under before' parent after' inner =>
      obtain ⟨nothing, found, ahead⟩ := ahead
      obtain rfl := List.suffix_nil.mp nothing
      refine ⟨suffix, by simpa using weaker _ found, ahead.mono fun nodes reached => ?_⟩
      simpa using weaker _ reached

end Place

/-- The forests after the place are the given ones, and so is what stands after it in its own. -/
structure Site.Ahead (reached : List Forest → Prop) (given : List Forest) (site : Site) : Prop where
  later : site.later = given.drop (site.earlier.length + 1)
  place : ∃ forest, given[site.earlier.length]? = some forest ∧
    site.place.Ahead (fun nodes => reached (site.earlier ++ nodes :: site.later)) forest

/-- A way to fill places, and a property of places relative to what has been reached. -/
structure View (P X : Type) where
  fill : P → List Node → X
  ahead : (X → Prop) → P → Prop
  mono : ∀ {reached reached' place}, ahead reached place →
    (∀ whole, reached whole → reached' whole) → ahead reached' place

def Place.view (given : List Node) : View Place (List Node) where
  fill := Place.fill
  ahead reached place := place.Ahead reached given
  mono := Ahead.mono

def Site.view (given : List Forest) : View Site (List Forest) where
  fill := Site.fill
  ahead reached site := site.Ahead reached given
  mono ahead weaker := by
    obtain ⟨later, forest, found, ahead⟩ := ahead
    exact ⟨later, forest, found, ahead.mono fun _ => weaker _⟩

/-- A record leads from one whole to another, and each of its places looks as the view says. -/
structure Traced (view : View P X) (before : X) (moments : List (Moment P)) (after : X) : Prop where
  edits : Edits view.fill before moments after
  ahead : ∀ early moment late, moments = early ++ moment :: late →
    view.ahead (Reached view.fill before early) moment.place

namespace Traced

variable {view : View P X} {before between after : X} {early late : List (Moment P)}

theorem nothing (view : View P X) (whole : X) : Traced view whole [] whole :=
  ⟨rfl, by simp⟩

theorem single {moment : Moment P} (found : before = view.fill moment.place [moment.call.node])
    (left : after = view.fill moment.place moment.call.leaves)
    (ahead : ∀ reached, view.ahead reached moment.place) : Traced view before [moment] after where
  edits := ⟨found, left.symm⟩
  ahead early other late split := by
    obtain ⟨rfl, rfl⟩ : early = [] ∧ moment = other := by
      cases early with
      | nil => exact ⟨rfl, (List.cons.inj split).1⟩
      | cons first rest => simp at split
    exact ahead _

theorem append (traced : Traced view before early between)
    (traced' : Traced view between late after) : Traced view before (early ++ late) after where
  edits := traced.edits.append traced'.edits
  ahead earlier moment rest split := by
    rcases append_eq_append_cons split with ⟨rest, hearly⟩ | ⟨later, rfl, hlate⟩
    · exact traced.ahead earlier moment rest hearly
    · -- what the second record has reached, has been reached after all of the first
      refine view.mono (traced'.ahead later moment rest hlate) fun whole reached => ?_
      obtain ⟨some, hprefix, edits⟩ := reached
      exact ⟨early ++ some, (List.prefix_append_right_inj early).mpr hprefix,
        traced.edits.append edits⟩

theorem relocate {view' : View Q Y} {change : P → Q} {outer : X → Y}
    (traced : Traced view before early after)
    (outside : ∀ place nodes, view'.fill (change place) nodes = outer (view.fill place nodes))
    (ahead : ∀ {reached reached' place}, reached' (outer before) → view.ahead reached place →
      (∀ whole, reached whole → reached' (outer whole)) → view'.ahead reached' (change place)) :
    Traced view' (outer before) (early.map (Moment.map change)) (outer after) where
  edits := traced.edits.relocate outside
  ahead earlier moment rest split := by
    obtain ⟨earlier, moment, rest, rfl, rfl, rfl⟩ := map_eq_append_cons split
    have start : Reached view'.fill (outer before) (earlier.map (Moment.map change))
        (outer before) := ⟨[], List.nil_prefix, rfl⟩
    refine ahead start (traced.ahead earlier moment rest rfl) fun whole reached => ?_
    obtain ⟨some, hprefix, edits⟩ := reached
    exact ⟨some.map (Moment.map change), hprefix.map _, edits.relocate outside⟩

end Traced

namespace Recorded

def Traces (view : View P X) (before : X) (shows : Step → A → X) (result : Part P A W) : Prop :=
  Ensures (fun step value moments _ => Traced view before moments (shows step value)) result

namespace Traces

variable {view : View P X} {before : X}

theorem andThen {first : Part P A W} {shows : Step → A → X}
    (traces : Traces view before shows first) (exit : A → B) {shows' : Step → B → X}
    (stopped : ∀ value, shows' .stop (exit value) = shows .stop value)
    {next : Step → A → W → Part P B W} (goes : ∀ step value walk, step ≠ .stop →
      Traces view (shows step value) shows' (next step value walk)) :
    Traces view before shows' (andThen first exit next) := by
  refine Ensures.andThen traces (fun value moments walk traced => ?_) ?_
  · rwa [stopped]
  · intro step value early walk going traced
    exact (goes step value walk going).mono fun _ _ _ _ traced' => traced.append traced'

theorem relocate {result : Part P A W} {shows : Step → A → X}
    (traces : Traces view before shows result) {view' : View Q Y} {change : P → Q} (outer : X → Y)
    (outside : ∀ place nodes, view'.fill (change place) nodes = outer (view.fill place nodes))
    (ahead : ∀ {reached reached' place}, reached' (outer before) → view.ahead reached place →
      (∀ whole, reached whole → reached' (outer whole)) → view'.ahead reached' (change place))
    {value : A → B} {shows' : Step → B → Y}
    (same : ∀ step inner, shows' step (value inner) = outer (shows step inner)) :
    Traces view' (outer before) shows' (relocate change value result) := by
  refine Ensures.relocate traces fun step inner moments walk traced => ?_
  rw [same]
  exact traced.relocate outside ahead

end Traces

private theorem call_traces (hooks : Hooks V S) (hook : Hook) (index : Nat) (target : Node × Bool)
    (walk : Progress V S × D) :
    Traces (Place.view []) [target.1] (fun step left => step.kept left.1)
      (call hooks hook index target walk) := by
  obtain ⟨node, skip⟩ := target
  obtain ⟨progress, dispatch⟩ := walk
  refine call_ensures hooks hook node skip progress dispatch (.nothing _ [node]) ?_
  intro inRange result visitor state accepts answer
  refine .single ?_ ?_ fun reached => List.suffix_refl []
  · simp [Place.view, Place.fill]
  · simp [Place.view, Place.fill, VisitorCall.leaves]

private theorem callEach_traces (hooks : Hooks V S) (hook : Hook) (indices : List Nat)
    (target : Node × Bool) (walk : Progress V S × D) :
    Traces (Place.view []) [target.1] (fun step left => step.kept left.1)
      (callEach hooks hook indices target walk) := by
  induction indices generalizing target walk with
  | nil => exact .ok (.nothing _ _)
  | cons index rest ih =>
      refine (call_traces hooks hook index target walk).andThen id (fun _ => rfl) ?_
      intro step target walk going
      split
      · subst step
        exact .ok (.nothing _ _)
      · have kept : step.kept target.1 = [target.1] := by cases step <;> simp_all [Step.kept]
        rw [kept]
        exact ih target walk

section

variable {walkOne : Node → W → Part Place Node W}

theorem sequence_traces
    (one : ∀ node walk,
      Traces (Place.view []) [node] (fun step left => step.kept left) (walkOne node walk))
    (given done rest : List Node) (suffix : rest <:+ given) (walk : W) :
    Traces (Place.view given) (done.reverse ++ rest) (fun _ nodes => nodes)
      (sequence walkOne done rest walk) := by
  induction rest generalizing done walk with
  | nil =>
      rw [List.append_nil]
      exact .ok (.nothing _ _)
  | cons node rest ih =>
      have hrest : rest <:+ given := (List.suffix_cons node rest).trans suffix
      have shifted : Traces (Place.view given) (done.reverse ++ [node] ++ rest)
          (fun step left => done.reverse ++ step.kept left ++ rest)
          (relocate (Place.within done.reverse rest) id (walkOne node walk)) :=
        (one node walk).relocate (fun nodes => done.reverse ++ nodes ++ rest)
          (fun place nodes => place.fill_within done.reverse rest nodes)
          (fun _ ahead weaker => ahead.within hrest weaker) fun _ _ => rfl
      rw [List.append_cons]
      refine shifted.andThen _ (fun left => by simp [Step.kept]) ?_
      intro step left walk going
      -- a removed node is not counted among those done, so the rest moves up
      have hdone : done.reverse ++ step.kept left ++ rest =
          (step.kept left ++ done).reverse ++ rest := by
        cases step <;> simp [Step.kept]
      rw [hdone]
      exact ih _ hrest walk

theorem forests_traces
    (one : ∀ node walk,
      Traces (Place.view []) [node] (fun step left => step.kept left) (walkOne node walk))
    (given done rest : List Forest) (later : rest = given.drop done.length) (walk : W) :
    Traces (Site.view given) (done.reverse ++ rest) (fun _ forests => forests)
      (forests walkOne done rest walk) := by
  induction rest generalizing done walk with
  | nil =>
      rw [List.append_nil]
      exact .ok (.nothing _ _)
  | cons forest rest ih =>
      have hforest : given[done.length]? = some forest := by
        rw [← List.head?_drop, ← later, List.head?_cons]
      have hrest : rest = given.drop (done.length + 1) := by
        rw [← List.tail_drop, ← later, List.tail_cons]
      have shifted : Traces (Site.view given) (done.reverse ++ forest :: rest)
          (fun _ left => done.reverse ++ left :: rest)
          (relocate (Site.mk done.reverse · rest) id (sequence walkOne [] forest walk)) := by
        refine (sequence_traces one forest [] forest List.suffix_rfl walk).relocate
          (fun nodes => done.reverse ++ nodes :: rest) (fun _ _ => rfl) ?_ fun _ _ => rfl
        intro reached reached' place _ ahead weaker
        exact ⟨by simpa using hrest, forest, by simpa using hforest, ahead.mono weaker⟩
      refine shifted.andThen _ (fun left => rfl) ?_
      intro step left walk going
      rw [show done.reverse ++ left :: rest = (left :: done).reverse ++ rest by simp]
      exact ih (left :: done) hrest walk

end

theorem node_traces [Dispatch D] (hooks : Hooks V S) (depth : Nat) (target : Node)
    (walk : Progress V S × D) :
    Traces (Place.view []) [target] (fun step left => step.kept left)
      (node hooks depth target walk) := by
  induction depth generalizing target walk with
  | zero => rintro _ _ _ _ ⟨⟩
  | succ depth ih =>
      obtain ⟨progress, dispatch⟩ := walk
      refine (callEach_traces hooks .enter _ (target, false) _).andThen Prod.fst (fun _ => rfl) ?_
      rintro step ⟨entered, skip⟩ walk going
      dsimp only
      split
      · subst step
        exact .ok (.nothing _ _)
      · have kept : step.kept entered = [entered] := by cases step <;> simp_all [Step.kept]
        have below : Traces (Place.view []) [entered] (fun _ left => [left])
            (descend (sequence (node hooks depth) []) skip entered walk) := by
          unfold descend
          split
          · exact .ok (.nothing _ _)
          · have children := sequence_traces ih entered.children [] _ List.suffix_rfl walk
            suffices Traces (Place.view []) [entered.withChildren entered.children] _ _ by
              rwa [Node.withChildren_children] at this
            refine children.relocate (fun nodes => [entered.withChildren nodes]) (fun _ _ => rfl) ?_
              fun _ _ => rfl
            intro reached reached' place start ahead weaker
            exact ⟨List.suffix_rfl, by simpa using start, ahead.mono weaker⟩
        rw [kept]
        refine below.andThen id (fun _ => rfl) ?_
        rintro step left ⟨progress, dispatch⟩ going
        exact (callEach_traces hooks .leave _ (left, false) _).relocate id
          (fun _ _ => rfl) (fun _ ahead weaker => ahead.mono weaker) fun _ _ => rfl

end Recorded

theorem Traverser.record_traced [Dispatch D] {hooks : Hooks V S} {depth : Nat}
    {traverser : Traverser V D} {forests : List Forest} {state : S} {session : Session V S D}
    (ends : traverser.traverseAll hooks depth forests state = .ok session) :
    Traced (Site.view forests) forests (traverser.record hooks depth forests state)
      session.forests := by
  obtain ⟨step, progress, hrecorded, -⟩ := recorded_of_traverseAll ends
  exact Recorded.forests_traces (Recorded.node_traces hooks depth) forests [] forests rfl _ _ _ _ _
    hrecorded

/-! ## Counting nodes -/

abbrev Label := Kind × Option String × Nat

def Node.label (node : Node) : Label := (node.kind, node.name, node.line)

def Forest.labels (forest : Forest) : Multiset Label := ↑(forest.preorder.map Node.label)

namespace Forest

@[simp] theorem labels_append (forest forest' : Forest) :
    labels (forest ++ forest') = labels forest + labels forest' := by
  simp [labels, preorder]

theorem labels_cons (node : Node) (rest : Forest) :
    labels (node :: rest) = labels [node] + labels rest :=
  labels_append [node] rest

@[simp] theorem labels_nil : labels [] = 0 := rfl

theorem labels_withChildren (node : Node) (children : List Node) :
    labels [node.withChildren children] = {node.label} + labels children := by
  simp only [labels, preorder, Node.withChildren, List.flatMap_cons, List.flatMap_nil,
    List.append_nil, Node.preorder, Node.preorderList_eq_flatMap, List.map_cons]
  rfl

end Forest

def totalLabels (forests : List Forest) : Multiset Label := (forests.map Forest.labels).sum

namespace VisitorCall

def lost (call : VisitorCall) : Multiset Label :=
  match call.result with
  | .replace _ | .remove => Forest.labels [call.node]
  | _ => 0

def gained (call : VisitorCall) : Multiset Label :=
  match call.result with
  | .replace node => Forest.labels [node]
  | _ => 0

private theorem labels_leaves (call : VisitorCall) :
    Forest.labels call.leaves + call.lost = Forest.labels [call.node] + call.gained := by
  obtain ⟨visitor, hook, node, result⟩ := call
  cases result <;>
    simp [leaves, lost, gained, VisitResult.step, VisitResult.leaving, Step.kept, add_comm]

end VisitorCall

private theorem Place.labels_fill (place : Place) (nodes : List Node) :
    Forest.labels (place.fill nodes) = Forest.labels (place.fill []) + Forest.labels nodes := by
  induction place with
  | here before after =>
      simp only [fill, Forest.labels_append, Forest.labels_nil]
      abel
  | under before parent after inner ih =>
      have hparent : ∀ children, Forest.labels (parent.withChildren children :: after) =
          {parent.label} + Forest.labels children + Forest.labels after := by
        intro children
        rw [Forest.labels_cons, Forest.labels_withChildren]
      rw [fill, fill, Forest.labels_append, Forest.labels_append, hparent, hparent, ih]
      abel

private theorem Site.totalLabels_fill (site : Site) (nodes : List Node) :
    totalLabels (site.fill nodes) = totalLabels (site.fill []) + Forest.labels nodes := by
  simp only [totalLabels, fill, List.map_append, List.map_cons, List.sum_append, List.sum_cons,
    site.place.labels_fill nodes]
  abel

theorem Edits.totalLabels {before after : List Forest} {moments : List (Moment Site)}
    (edits : Edits Site.fill before moments after) :
    totalLabels after + (moments.map (·.call.lost)).sum =
      totalLabels before + (moments.map (·.call.gained)).sum := by
  induction moments generalizing before with
  | nil =>
      obtain rfl := edits
      rfl
  | cons moment rest ih =>
      obtain ⟨found, edits⟩ := edits
      have hrest := ih edits
      have hcall := moment.call.labels_leaves
      rw [Site.totalLabels_fill] at hrest
      simp only [List.map_cons, List.sum_cons]
      rw [found, Site.totalLabels_fill moment.place [moment.call.node]]
      calc
        _ = KindDispatch.totalLabels after + (rest.map (·.call.lost)).sum +
              moment.call.lost := by
            abel
        _ = KindDispatch.totalLabels (moment.place.fill []) +
              (Forest.labels moment.call.leaves + moment.call.lost) +
              (rest.map (·.call.gained)).sum := by
            rw [hrest]
            abel
        _ = _ := by
            rw [hcall]
            abel

private theorem Edits.eq_of_unchanged {before after : List Forest} {moments : List (Moment Site)}
    (edits : Edits Site.fill before moments after)
    (unchanged : ∀ moment ∈ moments,
      moment.call.result ≠ .remove ∧ ∀ node, moment.call.result ≠ .replace node) :
    after = before := by
  refine (edits.eq_of_keeps fun moment member => ?_).symm
  obtain ⟨notRemove, notReplace⟩ := unchanged moment member
  unfold VisitorCall.leaves
  cases h : moment.call.result with
  | remove => exact absurd h notRemove
  | replace node => exact absurd h (notReplace node)
  | proceed => rfl
  | skipChildren => rfl
  | stop => rfl

/--
A session, stopped or not, takes out of the forests the nodes its calls removed or replaced, as they
were at each call, and brings in the nodes they were replaced with.  Apart from that it leaves every
node where it is.
-/
theorem session_conserves_nodes [Dispatch D] (hooks : Hooks V S) (depth : Nat)
    (traverser : Traverser V D) (forests : List Forest) (state : S) {session : Session V S D}
    (ends : traverser.traverseAll hooks depth forests state = .ok session) :
    totalLabels session.forests + (session.calls.map VisitorCall.lost).sum =
        totalLabels forests + (session.calls.map VisitorCall.gained).sum ∧
      (∃ record : List (Moment Site), record.map Moment.call = session.calls ∧
        Edits Site.fill forests record session.forests) ∧
      ((∀ call ∈ session.calls, call.result ≠ .remove ∧ ∀ node, call.result ≠ .replace node) →
        session.forests = forests) := by
  obtain ⟨step, progress, -, -, hcalls, -⟩ := Traverser.recorded_of_traverseAll ends
  have edits := (Traverser.record_traced ends).edits
  rw [hcalls]
  refine ⟨?_, ⟨_, rfl, edits⟩, fun unchanged => ?_⟩
  · simp only [List.map_map]
    exact edits.totalLabels
  · exact edits.eq_of_unchanged (List.forall_mem_map.mp unchanged)

/-! A function is replaced by its first child, that is removed while it is left, and the session is
stopped at the node after it. -/

section Hoisted

open Script

def hoisting : VisitorSet ScriptedVisitor :=
  ⟨[({ ScriptedVisitor.idle "hoist" with enter := [⟨.hoist, .always, none⟩] }, .ofKind .function),
    ({ ScriptedVisitor.idle "remove" with
        leave := [⟨.remove, { Condition.always with line := some 1 }, none⟩,
          ⟨.stop, .always, none⟩] }, .ofKind .struct)]⟩

def nested : List Forest :=
  [[⟨.function, none, 0, [⟨.struct, none, 1, []⟩]⟩, ⟨.struct, none, 2, []⟩], [.ofKind .struct]]

theorem session_conserves_nodes_hoisted :
    ∃ session, (Traverser.cached hoisting).traverseAll (ScriptedVisitor.hooks Unit) 2 nested () =
        .ok session ∧
      session.forests = [[⟨.struct, none, 2, []⟩], [.ofKind .struct]] ∧
      totalLabels session.forests + (session.calls.map VisitorCall.lost).sum =
        totalLabels nested + (session.calls.map VisitorCall.gained).sum := by
  have forests : ((Traverser.cached hoisting).traverseAll (ScriptedVisitor.hooks Unit) 2 nested
      ()).toOption.map Session.forests =
        some [[⟨.struct, none, 2, []⟩], [.ofKind .struct]] := by decide +kernel
  cases hsession : (Traverser.cached hoisting).traverseAll (ScriptedVisitor.hooks Unit) 2 nested ()
    with
  | error cause =>
      rw [hsession] at forests
      contradiction
  | ok session =>
      rw [hsession] at forests
      refine ⟨session, rfl, Option.some.inj forests, ?_⟩
      exact (session_conserves_nodes (ScriptedVisitor.hooks Unit) 2 (Traverser.cached hoisting)
        nested () hsession).1

end Hoisted

end KindDispatch
