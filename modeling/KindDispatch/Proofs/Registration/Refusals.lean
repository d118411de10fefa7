import KindDispatch.Proofs.Registration.Alignment

/-!
# Declarations that are refused

A visitor that applies to no kind would never be called.  Sets without kinds are refused when they
are declared, and the sets that the operations make have no kinds only if their mask is empty, which
is all that registration looks at.  A predicate is never asked before a lookup, so one that holds of
no kind is registered all the same (`registers_predicate_of_no_kind`).
-/

namespace KindDispatch

variable {V S : Type}

namespace Applicability

/-- The set that is declared, if it is one, was made by the operations on sets. -/
def IsMade : Applicability → Prop
  | kinds set => ∃ construction : Construction, construction.set = set
  | any | predicate _ => True

theorem eq_empty_iff {scope : Applicability} (made : scope.IsMade)
    (holds : scope ≠ .predicate fun _ => false) :
    scope = .kinds .empty ↔ ∀ kind, scope.appliesTo kind = false := by
  cases scope with
  | any => simp [appliesTo]
  | kinds set =>
      obtain ⟨construction, rfl⟩ := made
      rw [kinds.injEq, ← KindSet.isEmpty_iff, construction.fits.isEmpty_iff]
      rfl
  | predicate decides =>
      refine iff_of_false (by simp) fun nowhere => holds ?_
      rw [show decides = fun _ => false from funext nowhere]

end Applicability

open Registration

/-- Apart from predicates that hold of no kind, just the declarations that apply to no kind are
refused, so every visitor of a set applies to a kind. -/
theorem refused_iff_applies_nowhere (hooks : Hooks V S) :
    (∀ (set : VisitorSet V) (visitor : V) (declared : Applicability), declared.IsMade →
        declared ≠ .predicate (fun _ => false) →
        ((∃ index name, set.pushWith hooks visitor declared = .error (.emptyKindSet index name)) ↔
          ∀ kind, declared.appliesTo kind = false)) ∧
      ∀ registrations : List (Registration V),
        (∀ registration ∈ registrations, (registration.declared hooks).IsMade ∧
          registration.declared hooks ≠ .predicate fun _ => false) →
        ∀ entry ∈ (VisitorSet.empty.registerAll hooks registrations).entries,
          ∃ kind, entry.2.appliesTo kind = true := by
  constructor
  · intro set visitor declared made holds
    have registered := VisitorSet.register_eq hooks set (.pushWith visitor declared)
    rw [← Applicability.eq_empty_iff made holds]
    change set.pushWith hooks visitor declared = _ at registered
    rw [registered]
    by_cases refused : declared = .kinds .empty
    · simp [outcome, IsRefused, Registration.declared, refused, Except.map]
    · simp [outcome, IsRefused, Registration.declared, refused, Except.map]
  · intro registrations sensible entry member
    rw [VisitorSet.entries_registerAll] at member
    obtain ⟨registration, kept, rfl⟩ := List.mem_map.mp (by simpa [VisitorSet.empty] using member)
    obtain ⟨present, notRefused⟩ := List.mem_filter.mp kept
    obtain ⟨made, holds⟩ := sensible registration present
    have notRefused : ¬registration.IsRefused hooks := of_decide_eq_true notRefused
    have somewhere := mt (Applicability.eq_empty_iff made holds).mpr notRefused
    simpa using somewhere

theorem refused_iff_applies_nowhere_union :
    let hooks := CountingVisitor.hooks
    let empty : Applicability := .kinds ((KindSet.ofList []).union .empty)
    let full : Applicability := .kinds (KindSet.ofCategory .item)
    empty.IsMade ∧ full.IsMade ∧
      VisitorSet.empty.pushWith hooks .nodes empty = .error (.emptyKindSet 0 "NodeCounter") ∧
      (∀ kind, empty.appliesTo kind = false) ∧
      ∀ entry ∈ (VisitorSet.empty.registerAll hooks
          [.pushWith .nodes empty, .pushWith .structs full]).entries,
        ∃ kind, entry.2.appliesTo kind = true := by
  intro hooks empty full
  have made : empty.IsMade := ⟨.union (.ofList []) .empty, rfl⟩
  have made' : full.IsMade := ⟨.ofCategory .item, rfl⟩
  obtain ⟨refused_iff, registered⟩ := refused_iff_applies_nowhere hooks
  have refused : VisitorSet.empty.pushWith hooks .nodes empty =
      .error (.emptyKindSet 0 "NodeCounter") := rfl
  refine ⟨made, made', refused, ?_, registered _ ?_⟩
  · exact (refused_iff .empty .nodes empty made (by simp [empty])).mp ⟨_, _, refused⟩
  · simp [Registration.declared, made, made', empty, full]

theorem registers_predicate_of_no_kind :
    let declared : Applicability := .predicate fun _ => false
    (∀ kind, declared.appliesTo kind = false) ∧
      VisitorSet.empty.pushWith CountingVisitor.hooks .nodes declared =
        .ok ⟨[(.nodes, declared)]⟩ :=
  ⟨fun _ => rfl, rfl⟩

end KindDispatch
