import KindDispatch.Proofs.Dispatch.Lawful
import KindDispatch.Proofs.Traversal.Simulation
import KindDispatch.Traversal.Script
import KindDispatch.Traversal.Traverser

/-!
# The walk without a common path

The walk keeps the visitor lists of all nodes on the current path in one vector, adds to its end and
cuts it back.  Two plainer walks say what that amounts to.  In `Owned.node` every node holds its own
lists, which it still gets from a dispatcher.  In `Plain.node` there is no dispatcher either: the
lists are the rules that apply.

The first step, `node_alike_owned`, holds for every dispatcher; the second, `node_alike_plain`, for
dispatchers that answer by their rules.  Together they give `walk_refines_plain`.
-/

namespace KindDispatch

variable {V S D : Type}

namespace Progress

def callEach (hooks : Hooks V S) (hook : Hook) :
    List Nat → Node → (skip : Bool) → Progress V S →
      Except Halt (Step × Node × Bool × Progress V S)
  | [], node, skip, progress => .ok (.keep, node, skip, progress)
  | index :: rest, node, skip, progress =>
    match progress.call hooks hook index node with
    | .error halt => .error halt
    | .ok (.proceed, progress) => callEach hooks hook rest node skip progress
    | .ok (.skipChildren, progress) => callEach hooks hook rest node true progress
    | .ok (.replace node, progress) => callEach hooks hook rest node skip progress
    | .ok (.remove, progress) => .ok (.remove, node, skip, progress)
    | .ok (.stop, progress) => .ok (.stop, node, skip, progress)

theorem callSlots_eq_callEach (hooks : Hooks V S) (hook : Hook) (path : Array Nat)
    (indices : List Nat) (slot : Nat)
    (hpath : ∀ place, place < indices.length → path[slot + place]? = indices[place]?)
    (node : Node) (skip : Bool) (progress : Progress V S) :
    callSlots hooks hook path indices.length slot node skip progress =
      callEach hooks hook indices node skip progress := by
  induction indices generalizing slot node skip progress with
  | nil => rfl
  | cons index rest ih =>
      have hfirst : path[slot]? = some index := by
        simpa using hpath 0 (by simp)
      have hrest : ∀ place, place < rest.length → path[slot + 1 + place]? = rest[place]? := by
        intro place hplace
        have := hpath (place + 1) (by simpa using hplace)
        rwa [List.getElem?_cons_succ, ← Nat.add_assoc, Nat.add_right_comm] at this
      simp only [List.length_cons, callSlots, callEach, hfirst]
      cases progress.call hooks hook index node with
      | error cause => rfl
      | ok answer =>
          obtain ⟨result, progress⟩ := answer
          cases result with
          | proceed => exact ih (slot + 1) hrest node skip progress
          | skipChildren => exact ih (slot + 1) hrest node true progress
          | replace node => exact ih (slot + 1) hrest node skip progress
          | remove => rfl
          | stop => rfl

end Progress

/-! ## Two plainer walks -/

namespace Owned

/-- Leaves a node with the visitors it was entered with or, if its kind is no longer the one it was
entered with, with those of its kind now. -/
def leave [Dispatch D] (hooks : Hooks V S) (entered : Kind) (indices : List Nat) (left : Node) :
    Progress V S × D → Except Halt (Step × Node × Progress V S × D)
  | (progress, dispatch) =>
    let (indices, dispatch) :=
      if left.kind ≠ entered then Dispatch.resolve dispatch left.kind else (indices, dispatch)
    (progress.callEach hooks .leave indices left false).map
      fun (step, left, _, progress) => (step, left, progress, dispatch)

/-- The walk in which every node holds the lists that were looked up for it. -/
def node [Dispatch D] (hooks : Hooks V S) :
    (depth : Nat) → Node → Progress V S × D → Except Halt (Step × Node × Progress V S × D)
  | 0, _, _ => .error .tooDeep
  | depth + 1, target, (progress, dispatch) =>
    let (indices, dispatch) := Dispatch.resolve dispatch target.kind
    match progress.countNode.callEach hooks .enter indices target false with
    | .error halt => .error halt
    | .ok (.remove, entered, _, progress) => .ok (.remove, entered, progress, dispatch)
    | .ok (.stop, entered, _, progress) => .ok (.stop, entered, progress, dispatch)
    | .ok (.keep, entered, skip, progress) =>
      match Walk.descend (Walk.sequence (node hooks depth) []) skip entered
          (progress, dispatch) with
      | .error halt => .error halt
      | .ok (.stop, left, progress, dispatch) => .ok (.stop, left, progress, dispatch)
      | .ok (_, left, owned) => leave hooks target.kind indices left owned

end Owned

namespace Plain

/--
The walk the rules describe.  The node is counted.  The visitors whose rules apply to its kind on
arrival are entered, in registration order, each only if it accepts the node as it is then.  Unless
one of them removed the node, stopped, or asked to skip them, the children are walked.  Then the
visitors whose rules apply to the kind the node has now are left in the same way.
-/
def node (hooks : Hooks V S) (rules : List Applicability) :
    (depth : Nat) → Node → Progress V S → Except Halt (Step × Node × Progress V S)
  | 0, _, _ => .error .tooDeep
  | depth + 1, target, progress =>
    match progress.countNode.callEach hooks .enter (applicable rules target.kind) target false with
    | .error halt => .error halt
    | .ok (.remove, entered, _, progress) => .ok (.remove, entered, progress)
    | .ok (.stop, entered, _, progress) => .ok (.stop, entered, progress)
    | .ok (.keep, entered, skip, progress) =>
      match Walk.descend (Walk.sequence (node hooks rules depth) []) skip entered progress with
      | .error halt => .error halt
      | .ok (.stop, left, progress) => .ok (.stop, left, progress)
      | .ok (_, left, progress) =>
        (progress.callEach hooks .leave (applicable rules left.kind) left false).map
          fun (step, left, _, progress) => (step, left, progress)

end Plain

/-! ## Doing without the path -/

namespace Walk

/-- The walk state with a given path and, apart from that, the state of `Owned.node`. -/
def OnPath (path : Array Nat) (walk : Walk V S D) (owned : Progress V S × D) : Prop :=
  walk = ⟨owned.1, owned.2, path⟩

def Above (path : Array Nat) (walk : Walk V S D) (owned : Progress V S × D) : Prop :=
  ∃ indices : List Nat, OnPath (path ++ indices.toArray) walk owned

private theorem Above.cut {path : Array Nat} {walk : Walk V S D} {owned : Progress V S × D}
    (above : Above path walk owned) : OnPath path (cutPath path.size walk) owned := by
  obtain ⟨indices, rfl⟩ := above
  simp [OnPath, cutPath]

private theorem callPath_append (hooks : Hooks V S) (hook : Hook) (node : Node)
    (progress : Progress V S) (dispatch : D) (path : Array Nat) (indices : List Nat) :
    callPath hooks hook path.size (path ++ indices.toArray).size node
        ⟨progress, dispatch, path ++ indices.toArray⟩ =
      (progress.callEach hooks hook indices node false).map
        fun (step, node, skip, progress) =>
          (step, node, skip, ⟨progress, dispatch, path ++ indices.toArray⟩) := by
  have hcount : (path ++ indices.toArray).size - path.size = indices.length := by simp
  have hpath : ∀ place, place < indices.length →
      (path ++ indices.toArray)[path.size + place]? = indices[place]? := by
    intro place _
    rw [Array.getElem?_append_right (Nat.le_add_right _ _), Nat.add_sub_cancel_left]
    simp
  unfold callPath
  rw [hcount, Progress.callSlots_eq_callEach hooks hook _ indices path.size hpath]

private theorem leave_alike_owned [Dispatch D] (hooks : Hooks V S) (entered : Kind) (left : Node)
    (owned : Progress V S × D) (path : Array Nat) (indices : List Nat) :
    Alike (Above path)
      (leave hooks entered path.size (path ++ indices.toArray).size left
        ⟨owned.1, owned.2, path ++ indices.toArray⟩)
      (Owned.leave hooks entered indices left owned) := by
  obtain ⟨progress, dispatch⟩ := owned
  unfold leave Owned.leave
  by_cases changed : left.kind ≠ entered
  · -- the old list is cut off and the new one takes its place
    have hpath : extendPath left.kind
          (cutPath path.size ⟨progress, dispatch, path ++ indices.toArray⟩) =
        ⟨progress, (Dispatch.resolve dispatch left.kind).2,
          path ++ (Dispatch.resolve dispatch left.kind).1.toArray⟩ := by
      simp [extendPath, cutPath]
    simp only [if_pos changed, hpath, callPath_append]
    cases progress.callEach hooks .leave (Dispatch.resolve dispatch left.kind).1 left false with
    | error cause => exact .halt cause
    | ok answer =>
        obtain ⟨step, left', skip, progress⟩ := answer
        exact .done step left' ⟨_, rfl⟩
  · simp only [if_neg changed, callPath_append]
    cases progress.callEach hooks .leave indices left false with
    | error cause => exact .halt cause
    | ok answer =>
        obtain ⟨step, left', skip, progress⟩ := answer
        exact .done step left' ⟨indices, rfl⟩

theorem node_alike_owned [Dispatch D] (hooks : Hooks V S) (depth : Nat) (target : Node)
    {path : Array Nat} {walk : Walk V S D} {owned : Progress V S × D}
    (onPath : OnPath path walk owned) :
    Alike (OnPath path) (node hooks depth target walk) (Owned.node hooks depth target owned) := by
  induction depth generalizing target path walk owned with
  | zero => exact .halt .tooDeep
  | succ depth ih =>
      obtain rfl := onPath
      obtain ⟨progress, dispatch⟩ := owned
      -- the children start from a longer path, so the hypothesis has to hold for every path
      have children : ∀ (path : Array Nat) nodes (walk : Walk V S D) owned,
          OnPath path walk owned →
          Alike (OnPath path) (sequence (node hooks depth) [] nodes walk)
            (sequence (Owned.node hooks depth) [] nodes owned) :=
        fun _ nodes _ _ onPath => sequence_alike (fun target _ _ => ih target) [] nodes onPath
      have visited : Alike (Above path)
          (visit hooks (sequence (node hooks depth) []) path.size target
            (extendPath target.kind ⟨progress.countNode, dispatch, path⟩))
          (Owned.node hooks (depth + 1) target (progress, dispatch)) := by
        simp only [Owned.node, extendPath, visit, Array.append_eq_append]
        generalize Dispatch.resolve dispatch target.kind = resolved
        obtain ⟨indices, dispatch⟩ := resolved
        simp only [callPath_append]
        cases progress.countNode.callEach hooks .enter indices target false with
        | error cause => exact .halt cause
        | ok answer =>
            obtain ⟨step, entered, skip, progress⟩ := answer
            cases step with
            | remove => exact .done .remove entered ⟨indices, rfl⟩
            | stop => exact .done .stop entered ⟨indices, rfl⟩
            | keep =>
                simp only [Except.map]
                rcases (descend_alike (children _) skip entered
                    (rfl : OnPath (path ++ indices.toArray) _ (progress, dispatch))).outcomes with
                  ⟨cause, hdescend, hdescend'⟩ |
                    ⟨step, left, walk, owned, hdescend, hdescend', onPath⟩
                · rw [hdescend, hdescend']
                  exact .halt cause
                · rw [hdescend, hdescend']
                  obtain rfl := onPath
                  cases step with
                  | stop => exact .done .stop left ⟨indices, rfl⟩
                  | keep => exact leave_alike_owned hooks target.kind left owned path indices
                  | remove => exact leave_alike_owned hooks target.kind left owned path indices
      simp only [node]
      rcases visited.outcomes with
        ⟨cause, hvisit, howned⟩ | ⟨step, left, walk, owned, hvisit, howned, above⟩
      · rw [hvisit, howned]
        exact .halt cause
      · rw [hvisit, howned]
        exact .done step left above.cut

end Walk

def Traverser.start (traverser : Traverser V D) (state : S) : Progress V S × D :=
  (⟨traverser.visitors, state, .zero, []⟩, traverser.dispatch)

def Session.ofWalk (forests : List Forest) : Progress V S × D → Session V S D
  | (progress, dispatch) =>
    { traverser := ⟨progress.visitors, dispatch⟩, forests, state := progress.state,
      stats := progress.stats, calls := progress.calls.reverse }

theorem Traverser.traverseAll_eq_owned [Dispatch D] (hooks : Hooks V S) (depth : Nat)
    (traverser : Traverser V D) (forests : List Forest) (state : S) :
    traverser.traverseAll hooks depth forests state =
      (Walk.forests (Owned.node hooks depth) forests (traverser.start state)).map
        fun (_, forests, walk) => .ofWalk forests walk := by
  have onPath : Walk.OnPath #[]
      ⟨⟨traverser.visitors, state, .zero, []⟩, traverser.dispatch, #[]⟩
      (traverser.start state) := rfl
  have alike := Walk.forests_alike
    (fun target _ _ => Walk.node_alike_owned hooks depth target) forests onPath
  unfold traverseAll
  rcases alike.outcomes with
    ⟨cause, hwalk, howned⟩ | ⟨step, left, walk, owned, hwalk, howned, rfl⟩
  · simp only [hwalk, howned]
    rfl
  · simp only [hwalk, howned]
    rfl

/-! ## Doing without the dispatcher -/

namespace Owned

def ByRules [Dispatch D] [LawfulDispatch D] (rules : List Applicability)
    (owned : Progress V S × D) (progress : Progress V S) : Prop :=
  owned.1 = progress ∧ LawfulDispatch.Sound rules owned.2

private theorem leave_alike_plain [Dispatch D] [LawfulDispatch D] (hooks : Hooks V S)
    {rules : List Applicability} (entered : Kind) (left : Node) {owned : Progress V S × D}
    (sound : LawfulDispatch.Sound rules owned.2) :
    Alike (ByRules rules) (leave hooks entered (applicable rules entered) left owned)
      ((owned.1.callEach hooks .leave (applicable rules left.kind) left false).map
        fun (step, left, _, progress) => (step, left, progress)) := by
  obtain ⟨progress, dispatch⟩ := owned
  -- an unchanged kind has the list it was entered with, which is that of the rules too
  have hlist : (if left.kind ≠ entered then Dispatch.resolve dispatch left.kind
      else (applicable rules entered, dispatch)).1 = applicable rules left.kind := by
    by_cases same : left.kind = entered
    · simp [same]
    · simpa [same] using LawfulDispatch.resolve_fst sound left.kind
  have hsound : LawfulDispatch.Sound rules (if left.kind ≠ entered then
      Dispatch.resolve dispatch left.kind else (applicable rules entered, dispatch)).2 := by
    by_cases same : left.kind = entered
    · simpa [same] using sound
    · simpa [same] using LawfulDispatch.sound_resolve sound left.kind
  simp only [leave, hlist]
  cases progress.callEach hooks .leave (applicable rules left.kind) left false with
  | error cause => exact .halt cause
  | ok answer =>
      obtain ⟨step, left', skip, progress⟩ := answer
      exact .done step left' ⟨rfl, hsound⟩

theorem node_alike_plain [Dispatch D] [LawfulDispatch D] (hooks : Hooks V S)
    {rules : List Applicability} (depth : Nat) (target : Node) {owned : Progress V S × D}
    {progress : Progress V S} (byRules : ByRules rules owned progress) :
    Alike (ByRules rules) (node hooks depth target owned)
      (Plain.node hooks rules depth target progress) := by
  induction depth generalizing target owned progress with
  | zero => exact .halt .tooDeep
  | succ depth ih =>
      obtain ⟨_, dispatch⟩ := owned
      obtain ⟨rfl, sound⟩ := byRules
      have hlist := LawfulDispatch.resolve_fst sound target.kind
      have hsound := LawfulDispatch.sound_resolve sound target.kind
      have children : ∀ nodes (owned : Progress V S × D) progress, ByRules rules owned progress →
          Alike (ByRules rules) (Walk.sequence (node hooks depth) [] nodes owned)
            (Walk.sequence (Plain.node hooks rules depth) [] nodes progress) :=
        fun nodes _ _ byRules =>
          Walk.sequence_alike (fun target _ _ => ih target) [] nodes byRules
      simp only [node, Plain.node, hlist]
      cases Progress.callEach hooks .enter (applicable rules target.kind) target false _ with
      | error cause => exact .halt cause
      | ok answer =>
          obtain ⟨step, entered, skip, progress⟩ := answer
          cases step with
          | remove => exact .done .remove entered ⟨rfl, hsound⟩
          | stop => exact .done .stop entered ⟨rfl, hsound⟩
          | keep =>
              simp only
              rcases (Walk.descend_alike children skip entered
                  (⟨rfl, hsound⟩ : ByRules rules (progress, _) progress)).outcomes with
                ⟨cause, hdescend, hdescend'⟩ |
                  ⟨step, left, owned, progress, hdescend, hdescend', byRules⟩
              · rw [hdescend, hdescend']
                exact .halt cause
              · rw [hdescend, hdescend']
                obtain ⟨rfl, sound⟩ := byRules
                cases step with
                | stop => exact .done .stop left ⟨rfl, sound⟩
                | keep => exact leave_alike_plain hooks target.kind left sound
                | remove => exact leave_alike_plain hooks target.kind left sound

end Owned

/-! ## Every visitor is there -/

namespace Progress

variable {count : Nat}

private theorem call_inRange (hooks : Hooks V S) (hook : Hook) {index : Nat}
    (inRange : index < count)
    (node : Node) {progress : Progress V S} (size : progress.visitors.size = count) :
    ∃ result after, progress.call hooks hook index node = .ok (result, after) ∧
      after.visitors.size = count := by
  have hindex : index < progress.visitors.size := by rwa [size]
  unfold call
  simp only [hindex, dite_true]
  split
  · exact ⟨_, _, rfl, by simpa using size⟩
  · exact ⟨_, _, rfl, size⟩

theorem callEach_inRange (hooks : Hooks V S) (hook : Hook) (indices : List Nat)
    (inRange : ∀ index ∈ indices, index < count) (node : Node) (skip : Bool)
    {progress : Progress V S} (size : progress.visitors.size = count) :
    ∃ step node' skip' after,
      progress.callEach hooks hook indices node skip = .ok (step, node', skip', after) ∧
        after.visitors.size = count := by
  induction indices generalizing node skip progress with
  | nil => exact ⟨_, _, _, _, rfl, size⟩
  | cons index rest ih =>
      have hrest : ∀ index ∈ rest, index < count :=
        fun other hother => inRange other (List.mem_cons_of_mem index hother)
      obtain ⟨result, after, hcall, size⟩ :=
        call_inRange hooks hook (inRange index List.mem_cons_self) node size
      simp only [callEach, hcall]
      cases result with
      | proceed => exact ih hrest node skip size
      | skipChildren => exact ih hrest node true size
      | replace node => exact ih hrest node skip size
      | remove => exact ⟨_, _, _, _, rfl, size⟩
      | stop => exact ⟨_, _, _, _, rfl, size⟩

def Fits (rules : List Applicability) (progress : Progress V S) : Prop :=
  progress.visitors.size = rules.length

end Progress

theorem lt_length_of_mem_applicable {rules : List Applicability} {kind : Kind} {index : Nat}
    (member : index ∈ applicable rules kind) : index < rules.length := by
  obtain ⟨rule, hrule, -⟩ := mem_applicable.mp member
  exact (List.getElem?_eq_some_iff.mp hrule).1

namespace Plain

theorem node_within (hooks : Hooks V S) {rules : List Applicability} (depth : Nat) (target : Node)
    {progress : Progress V S} (fits : progress.Fits rules) :
    Within (Progress.Fits rules) (node hooks rules depth target progress) := by
  induction depth generalizing target progress with
  | zero => exact .tooDeep
  | succ depth ih =>
      have children : ∀ nodes (progress : Progress V S), progress.Fits rules →
          Within (Progress.Fits rules)
            (Walk.sequence (node hooks rules depth) [] nodes progress) :=
        fun nodes _ fits => Walk.sequence_within (fun target _ => ih target) [] nodes fits
      have hcounted : progress.countNode.Fits rules := fits
      obtain ⟨step, entered, skip, after, henter, fits⟩ :=
        Progress.callEach_inRange hooks .enter (applicable rules target.kind)
          (fun _ => lt_length_of_mem_applicable) target false hcounted
      simp only [node, henter]
      cases step with
      | remove => exact .done .remove entered fits
      | stop => exact .done .stop entered fits
      | keep =>
          simp only
          rcases (Walk.descend_within children skip entered fits).outcomes with
            hdescend | ⟨step, left, after, hdescend, fits⟩
          · rw [hdescend]
            exact .tooDeep
          · obtain ⟨step', left', skip', after', hleave, fits'⟩ :=
              Progress.callEach_inRange hooks .leave (applicable rules left.kind)
                (fun _ => lt_length_of_mem_applicable) left false fits
            rw [hdescend]
            cases step with
            | stop => exact .done .stop left fits
            | keep =>
                simp only [hleave]
                exact .done step' left' fits'
            | remove =>
                simp only [hleave]
                exact .done step' left' fits'

end Plain

/-! ## The walk against the plain one -/

namespace Walk

/-- A walk with a given path that is, path and dispatcher apart, where the plain one is. -/
structure Follows [Dispatch D] [LawfulDispatch D] (rules : List Applicability) (path : Array Nat)
    (walk : Walk V S D) (progress : Progress V S) : Prop where
  progress_eq : walk.toProgress = progress
  path_eq : walk.path = path
  sound : LawfulDispatch.Sound rules walk.dispatch

variable [Dispatch D] [LawfulDispatch D] {rules : List Applicability} {path : Array Nat}
  {walk : Walk V S D} {progress : Progress V S}

theorem node_alike_plain (hooks : Hooks V S) (depth : Nat) (target : Node)
    (follows : Follows rules path walk progress) :
    Alike (Follows rules path) (node hooks depth target walk)
      (Plain.node hooks rules depth target progress) := by
  obtain ⟨before, dispatch, slots⟩ := walk
  obtain ⟨rfl, rfl, sound⟩ := follows
  have onPath : OnPath slots ⟨before, dispatch, slots⟩ (before, dispatch) := rfl
  have byRules : Owned.ByRules rules (before, dispatch) before := ⟨rfl, sound⟩
  have owned := node_alike_owned hooks depth target onPath
  have plain := Owned.node_alike_plain hooks depth target byRules
  refine (owned.trans plain).mono ?_
  rintro after progress' ⟨owned', rfl, rfl, sound'⟩
  exact ⟨rfl, rfl, sound'⟩

theorem forests_alike_plain (hooks : Hooks V S) (depth : Nat) (forests : List Forest)
    (follows : Follows rules path walk progress) :
    Alike (Follows rules path) (Walk.forests (node hooks depth) forests walk)
      (Walk.forests (Plain.node hooks rules depth) forests progress) :=
  forests_alike (fun target _ _ => node_alike_plain hooks depth target) forests follows

end Walk

/--
Whatever the path holds beforehand, the walk of a node, and of forests, does to the node, the
visitors, the caller's state, the totals and the trace what the plain walk does.  However it ends,
the path holds afterwards what it held before, and no slot or visitor is asked for that is not
there.
-/
theorem walk_refines_plain [Dispatch D] [LawfulDispatch D] (hooks : Hooks V S)
    (set : VisitorSet V) (depth : Nat) (walk : Walk V S D)
    (sound : LawfulDispatch.Sound set.rules walk.dispatch) (fits : walk.visitors.size = set.size) :
    (∀ target,
      Alike (Walk.Follows set.rules walk.path) (Walk.node hooks depth target walk)
          (Plain.node hooks set.rules depth target walk.toProgress) ∧
        Walk.node hooks depth target walk ≠ .error .outOfRange) ∧
      ∀ forests,
        Alike (Walk.Follows set.rules walk.path)
            (Walk.forests (Walk.node hooks depth) forests walk)
            (Walk.forests (Plain.node hooks set.rules depth) forests walk.toProgress) ∧
          Walk.forests (Walk.node hooks depth) forests walk ≠ .error .outOfRange := by
  have follows : Walk.Follows set.rules walk.path walk walk.toProgress := ⟨rfl, rfl, sound⟩
  have hfits : walk.toProgress.Fits set.rules := by simpa [Progress.Fits] using fits
  have transfer : ∀ (after : Walk V S D) progress,
      Walk.Follows set.rules walk.path after progress → progress.Fits set.rules →
        after.toProgress.Fits set.rules := by
    rintro after progress follows fits
    rwa [follows.progress_eq]
  constructor
  · intro target
    have alike := Walk.node_alike_plain hooks depth target follows
    have within := Plain.node_within hooks depth target hfits
    exact ⟨alike, (Within.of_alike alike transfer within).not_outOfRange⟩
  · intro forests
    have alike := Walk.forests_alike_plain hooks depth forests follows
    have within := Walk.forests_within
      (fun target progress => Plain.node_within hooks depth target) forests hfits
    exact ⟨alike, (Within.of_alike alike transfer within).not_outOfRange⟩

/-! A function is turned into a struct while it is entered, and the visitor of structs removes it
while it is left; the path is not empty and the dispatcher has answered for functions before. -/

section Rekinded

open Script

def rekinding : VisitorSet ScriptedVisitor :=
  ⟨[({ ScriptedVisitor.idle "rekind" with
        enter := [⟨.rekind .struct, .always, none⟩] }, .ofKind .function),
    ({ ScriptedVisitor.idle "remove" with
        leave := [⟨.remove, .always, none⟩] }, .ofKind .struct)]⟩

def midway : Walk ScriptedVisitor Unit CachedDispatch where
  visitors := rekinding.visitors.toArray
  state := ()
  stats := .zero
  calls := []
  dispatch := ((CachedDispatch.ofRules rekinding.rules).resolve .function).2
  path := #[7, 7]

theorem walk_refines_plain_rekinded :
    ∃ walk, Walk.node (ScriptedVisitor.hooks Unit) 2 (.ofKind .function) midway =
        .ok (.remove, .ofKind .struct, walk) ∧
      walk.path = #[7, 7] ∧ walk.stats = ⟨1, 2, false⟩ := by
  have sound : LawfulDispatch.Sound rekinding.rules midway.dispatch :=
    (CachedDispatch.sound_ofRules rekinding.rules).resolve .function
  have alike := ((walk_refines_plain (ScriptedVisitor.hooks Unit) rekinding 2 midway sound rfl).1
    (.ofKind .function)).1
  rcases alike.outcomes with
    ⟨cause, -, hplain⟩ | ⟨step, left, walk, progress, hnode, hplain, follows⟩
  · cases hplain
  · cases hplain
    exact ⟨walk, hnode, follows.path_eq, congrArg Progress.stats follows.progress_eq⟩

end Rekinded

end KindDispatch
