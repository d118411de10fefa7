import KindDispatch.KindSet

/-!
# Applicability

A visitor declares which *kinds* of node it applies to, never which nodes: that is what makes the
answer for a kind worth remembering.  A list of declarations, in registration order, is a *rule
list*; `applicable rules kind` lists the places of the rules that apply to a kind.
-/

namespace KindDispatch

inductive Applicability where
  | any
  | kinds (set : KindSet)
  | predicate (holds : Kind → Bool)
deriving Inhabited

namespace Applicability

def ofKind (kind : Kind) : Applicability := .kinds (KindSet.empty.insert kind)

def appliesTo : Applicability → Kind → Bool
  | any, _ => true
  | kinds set, kind => set.contains kind
  | predicate holds, kind => holds kind

def appliedKinds (scope : Applicability) : List Kind := Kind.all.filter scope.appliesTo

/-- Declarations that list no kind at all; they are rejected when a visitor is registered. -/
def isEmptyDeclaration : Applicability → Bool
  | kinds set => set.isEmpty
  | _ => false

end Applicability

/-- Places of the rules that apply to `kind`, counted from `start`, in registration order. -/
def applicableFrom (kind : Kind) : (start : Nat) → List Applicability → List Nat
  | _, [] => []
  | start, rule :: rules =>
    if rule.appliesTo kind then start :: applicableFrom kind (start + 1) rules
    else applicableFrom kind (start + 1) rules

def applicable (rules : List Applicability) (kind : Kind) : List Nat := applicableFrom kind 0 rules

theorem mem_applicableFrom {kind : Kind} {start index : Nat} {rules : List Applicability} :
    index ∈ applicableFrom kind start rules ↔
      start ≤ index ∧ ∃ rule, rules[index - start]? = some rule ∧ rule.appliesTo kind = true := by
  induction rules generalizing start with
  | nil => simp [applicableFrom]
  | cons rule rules ih =>
    have split : ∀ {n}, start ≤ n → n ≠ start → n - start = n - (start + 1) + 1 := by omega
    by_cases here : index = start
    · subst here
      by_cases applies : rule.appliesTo kind = true
      · simp [applicableFrom, applies]
      · simp only [applicableFrom, applies, Bool.false_eq_true, if_false, ih, Nat.sub_self,
          List.getElem?_cons_zero, Option.some.injEq, exists_eq_left', Nat.le_refl, true_and,
          iff_false]
        omega
    · have reach : index ∈ applicableFrom kind start (rule :: rules) ↔
          index ∈ applicableFrom kind (start + 1) rules := by
        simp only [applicableFrom]
        split <;> simp [here]
      rw [reach, ih]
      constructor
      · rintro ⟨le, found⟩
        refine ⟨by omega, ?_⟩
        rw [split (by omega) here, List.getElem?_cons_succ]
        exact found
      · rintro ⟨le, found⟩
        rw [split le here, List.getElem?_cons_succ] at found
        exact ⟨by omega, found⟩

theorem mem_applicable {rules : List Applicability} {kind : Kind} {index : Nat} :
    index ∈ applicable rules kind ↔
      ∃ rule, rules[index]? = some rule ∧ rule.appliesTo kind = true := by
  simp [applicable, mem_applicableFrom]

theorem applicableFrom_eq_filter (kind : Kind) (start : Nat) (rules : List Applicability) :
    applicableFrom kind start rules =
      ((rules.zipIdx start).filter fun place => place.1.appliesTo kind).map (·.2) := by
  induction rules generalizing start with
  | nil => rfl
  | cons rule rules ih =>
      by_cases applies : rule.appliesTo kind = true
      · simp [applicableFrom, List.zipIdx_cons, applies, ih]
      · simp [applicableFrom, List.zipIdx_cons, applies, ih]

theorem applicable_eq_filter (rules : List Applicability) (kind : Kind) :
    applicable rules kind =
      (rules.zipIdx.filter fun place => place.1.appliesTo kind).map (·.2) :=
  applicableFrom_eq_filter kind 0 rules

end KindDispatch
