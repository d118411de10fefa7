import KindDispatch.Bench.Counting
import KindDispatch.Registry
import KindDispatch.Proofs.Dispatch.Lawful
import KindDispatch.Proofs.Registration.KindSets

/-!
# Columns that stay aligned

A place in a registry means a visitor only if both columns have the same visitor's entry there.  A
registration either extends both columns by what it is about or is refused and changes neither
(`register_eq`), so the columns list the accepted registrations, in order, and no trace is left of
the others.
-/

namespace KindDispatch

variable {V S : Type}

theorem Applicability.isEmptyDeclaration_iff {scope : Applicability} :
    scope.isEmptyDeclaration = true ↔ scope = .kinds .empty := by
  cases scope with
  | any => simp [isEmptyDeclaration]
  | kinds set => simpa [isEmptyDeclaration] using KindSet.isEmpty_iff
  | predicate holds => simp [isEmptyDeclaration]

namespace Registration

def IsRefused (hooks : Hooks V S) (registration : Registration V) : Prop :=
  registration.declared hooks = .kinds .empty

instance (hooks : Hooks V S) (registration : Registration V) :
    Decidable (registration.IsRefused hooks) :=
  decidable_of_iff _ Applicability.isEmptyDeclaration_iff

def accepted (hooks : Hooks V S) (registrations : List (Registration V)) :
    List (Registration V) :=
  registrations.filter fun registration => ¬registration.IsRefused hooks

def outcome (hooks : Hooks V S) (earlier : Nat) (registration : Registration V) :
    Except SetupError Unit :=
  if registration.IsRefused hooks then
    .error (.emptyKindSet earlier (hooks.name registration.visitor))
  else .ok ()

end Registration

open Registration

/-! ## One registration -/

namespace Registry

variable {hooks : Hooks V S} {registry : Registry V}

def extend (hooks : Hooks V S) (registry : Registry V) (registrations : List (Registration V)) :
    Registry V :=
  ⟨registry.visitors ++ registrations.map visitor,
    registry.rules ++ registrations.map (declared hooks)⟩

/-- A registration extends both columns, or none. -/
theorem register_eq (hooks : Hooks V S) (registry : Registry V) (registration : Registration V) :
    registry.register hooks registration = (registration.outcome hooks registry.size,
      if registration.IsRefused hooks then registry else registry.extend hooks [registration]) := by
  have asPushWith : registry.register hooks registration =
      registry.pushWith hooks registration.visitor (registration.declared hooks) := by
    cases registration <;> rfl
  rw [asPushWith, pushWith, outcome]
  by_cases refused : registration.IsRefused hooks
  · rw [if_pos refused, if_pos refused, if_pos (Applicability.isEmptyDeclaration_iff.mpr refused)]
  · rw [if_neg refused, if_neg refused,
      if_neg (mt Applicability.isEmptyDeclaration_iff.mp refused)]
    rfl

private theorem includingScoped_eq_ok {after : Registry V} {visitor : V} :
    registry.includingScoped hooks visitor = .ok after ↔
      registry.pushScoped hooks visitor = (.ok (), after) := by
  unfold includingScoped
  obtain ⟨outcome, left⟩ := registry.pushScoped hooks visitor
  cases outcome <;> simp [Except.map]

end Registry

theorem VisitorSet.register_eq (hooks : Hooks V S) (set : VisitorSet V)
    (registration : Registration V) :
    set.register hooks registration = (registration.outcome hooks set.size).map fun _ =>
      ⟨set.entries ++ [(registration.visitor, registration.declared hooks)]⟩ := by
  have asPushWith : set.register hooks registration =
      set.pushWith hooks registration.visitor (registration.declared hooks) := by
    cases registration <;> rfl
  rw [asPushWith, pushWith, outcome]
  by_cases refused : registration.IsRefused hooks
  · rw [if_pos refused, if_pos (Applicability.isEmptyDeclaration_iff.mpr refused)]
    rfl
  · rw [if_neg refused, if_neg (mt Applicability.isEmptyDeclaration_iff.mp refused)]
    rfl

/-! ## Some registrations -/

namespace Registry

theorem registerAll_snd (hooks : Hooks V S) (registrations : List (Registration V))
    (registry : Registry V) : (registry.registerAll hooks registrations).2 =
      registry.extend hooks (accepted hooks registrations) := by
  induction registrations generalizing registry with
  | nil => simp [registerAll, extend, accepted]
  | cons registration rest ih =>
      by_cases refused : registration.IsRefused hooks
      · simp [registerAll, register_eq, ih, accepted, refused]
      · simp [registerAll, register_eq, ih, accepted, refused, extend]

theorem registerAll_fst (hooks : Hooks V S) (registrations : List (Registration V))
    (registry : Registry V) : (registry.registerAll hooks registrations).1 =
      registrations.mapIdx fun index registration => registration.outcome hooks
        (registry.size + (accepted hooks (registrations.take index)).length) := by
  induction registrations generalizing registry with
  | nil => rfl
  | cons registration rest ih =>
      by_cases refused : registration.IsRefused hooks
      · simp [registerAll, register_eq, ih, accepted, refused, List.mapIdx_cons]
      · simp [registerAll, register_eq, ih, accepted, refused, extend, size, List.mapIdx_cons,
          Nat.add_assoc, Nat.add_comm 1]

end Registry

private theorem accepted_accepted (hooks : Hooks V S) (registrations : List (Registration V)) :
    accepted hooks (accepted hooks registrations) = accepted hooks registrations := by
  simp [accepted]

theorem VisitorSet.entries_registerAll (hooks : Hooks V S) (registrations : List (Registration V))
    (set : VisitorSet V) : (set.registerAll hooks registrations).entries = set.entries ++
      (accepted hooks registrations).map fun registration =>
        (registration.visitor, registration.declared hooks) := by
  induction registrations generalizing set with
  | nil => simp [registerAll, accepted]
  | cons registration rest ih =>
      rw [registerAll, List.foldl_cons, register_eq, ← registerAll, ih]
      by_cases refused : registration.IsRefused hooks <;>
        simp [outcome, accepted, refused, Except.map]

theorem Registry.registerAll_ofSet (hooks : Hooks V S) (registrations : List (Registration V))
    (set : VisitorSet V) : ((ofSet set).registerAll hooks registrations).2 =
      ofSet (set.registerAll hooks registrations) := by
  rw [registerAll_snd]
  simp [extend, ofSet, VisitorSet.visitors, VisitorSet.rules, VisitorSet.entries_registerAll]

theorem mem_resolve_iff {D : Type} [Dispatch D] [LawfulDispatch D] {dispatch : D}
    {hooks : Hooks V S} {registrations : List (Registration V)}
    (sound : LawfulDispatch.Sound (registrations.map (declared hooks)) dispatch) (kind : Kind)
    (index : Nat) : index ∈ (Dispatch.resolve dispatch kind).1 ↔
      ∃ registration, registrations[index]? = some registration ∧
        (registration.declared hooks).appliesTo kind = true := by
  rw [LawfulDispatch.resolve_fst sound, mem_applicable]
  simp only [List.getElem?_map, Option.map_eq_some_iff]
  constructor
  · rintro ⟨_, ⟨registration, present, rfl⟩, applies⟩
    exact ⟨registration, present, applies⟩
  · rintro ⟨registration, present, applies⟩
    exact ⟨_, ⟨registration, present, rfl⟩, applies⟩

/-- Whatever is registered and refused, the two columns list the accepted registrations in order, so
that names, declarations and the answers of every dispatcher mean the same visitors by the same
places.  A registration is refused if it is for the set of no kinds; it is told how many were
accepted before it, changes nothing and leaves no trace. -/
theorem columns_stay_aligned (hooks : Hooks V S) (registrations : List (Registration V)) :
    let reached := Registry.empty.registerAll hooks registrations
    let kept := accepted hooks registrations
    reached.2.visitors = kept.map visitor ∧
      reached.2.rules = kept.map (declared hooks) ∧
      reached.2.names hooks = kept.map (fun registration => hooks.name registration.visitor) ∧
      (∀ (D : Type) [Dispatch D] [LawfulDispatch D] (dispatch : D),
        LawfulDispatch.Sound reached.2.rules dispatch → ∀ kind index,
          index ∈ (Dispatch.resolve dispatch kind).1 ↔
            ∃ registration, kept[index]? = some registration ∧
              (registration.declared hooks).appliesTo kind = true) ∧
      reached.1 = registrations.mapIdx (fun index registration =>
        registration.outcome hooks (accepted hooks (registrations.take index)).length) ∧
      (∀ (registry : Registry V) (registration : Registration V), registration.IsRefused hooks →
        (registry.register hooks registration).2 = registry) ∧
      reached.2 = (Registry.empty.registerAll hooks kept).2 ∧
      reached.2 = Registry.ofSet (VisitorSet.empty.registerAll hooks registrations) ∧
      ∀ (registry after : Registry V) (visitor : V),
        registry.includingScoped hooks visitor = .ok after ↔
          registry.pushScoped hooks visitor = (.ok (), after) := by
  intro reached kept
  have columns : reached.2 = ⟨kept.map visitor, kept.map (declared hooks)⟩ :=
    Registry.registerAll_snd hooks registrations .empty
  have rules : reached.2.rules = kept.map (declared hooks) := by rw [columns]
  refine ⟨by rw [columns], rules, ?_, ?_, ?_, ?_, ?_,
    Registry.registerAll_ofSet hooks registrations .empty, fun _ _ _ =>
      Registry.includingScoped_eq_ok⟩
  · rw [columns, Registry.names, List.map_map]
    rfl
  · intro D _ _ dispatch sound
    exact mem_resolve_iff (rules ▸ sound)
  · simp [reached, Registry.registerAll_fst, Registry.size, Registry.empty]
  · intro registry registration refused
    rw [Registry.register_eq, if_pos refused]
  · rw [columns, Registry.registerAll_snd, accepted_accepted]
    rfl

theorem columns_stay_aligned_refused :
    let hooks := CountingVisitor.hooks
    let refused : Registration CountingVisitor := .pushWith .structs (.kinds .empty)
    let reached := Registry.empty.registerAll hooks
      [.including .nodes, refused, .pushScoped .functions]
    let dispatch := NaiveDispatch.ofRules reached.2.rules
    LawfulDispatch.Sound reached.2.rules dispatch ∧ refused.IsRefused hooks ∧
      reached.2.visitors = [.nodes, .functions] ∧
      1 ∈ (Dispatch.resolve dispatch .function).1 ∧
      reached.1 = [.ok (), .error (.emptyKindSet 1 "StructOnly"), .ok ()] ∧
      (reached.2.register hooks refused).2 = reached.2 := by
  intro hooks refused reached dispatch
  obtain ⟨visitors, -, -, answers, outcomes, unchanged, -⟩ :=
    columns_stay_aligned hooks [.including .nodes, refused, .pushScoped .functions]
  have sound : LawfulDispatch.Sound reached.2.rules dispatch := NaiveDispatch.sound_ofRules _
  have isRefused : refused.IsRefused hooks := rfl
  exact ⟨sound, isRefused, visitors,
    (answers _ dispatch sound .function 1).mpr ⟨.pushScoped .functions, rfl, by decide⟩, outcomes,
    unchanged reached.2 refused isRefused⟩

end KindDispatch
