import KindDispatch.Proofs.Dispatch.Interleaving

/-!
# What lookups cost

The counters of a dispatcher after a list of lookups.  A naive dispatcher evaluates its rules at
every lookup.  A caching one misses once for each distinct kind; a miss is answered by the shared
table or costs an evaluation of the rules.  `CachedDispatch.Spent` says so of a dispatcher and the
kinds it has been asked for, and is kept by each of the three ways a lookup can end, whoever moves in
between.
-/

namespace KindDispatch

/-! ## Distinct kinds -/

namespace Kind

def distinctCount (kinds : List Kind) : Nat := all.countP (· ∈ kinds)

private theorem count_all (kind : Kind) : all.count kind = 1 := by
  cases kind <;> rfl

@[simp] theorem distinctCount_nil : distinctCount [] = 0 := rfl

theorem distinctCount_congr {kinds kinds' : List Kind}
    (same : ∀ kind, kind ∈ kinds ↔ kind ∈ kinds') :
    distinctCount kinds = distinctCount kinds' := by
  simp only [distinctCount, same]

theorem distinctCount_cons_of_mem {kind : Kind} {kinds : List Kind} (old : kind ∈ kinds) :
    distinctCount (kind :: kinds) = distinctCount kinds := by
  refine distinctCount_congr fun wanted => ?_
  rw [List.mem_cons]
  exact ⟨fun occurs => occurs.elim (fun same => same ▸ old) id, .inr⟩

private theorem countP_cons_of_notMem {kind : Kind} {kinds : List Kind} (new : kind ∉ kinds)
    (candidates : List Kind) :
    candidates.countP (· ∈ kind :: kinds) =
      candidates.countP (· ∈ kinds) + candidates.count kind := by
  induction candidates with
  | nil => rfl
  | cons candidate rest ih =>
      rw [List.countP_cons, List.countP_cons, List.count_cons, ih]
      by_cases same : candidate = kind
      · subst same
        simp [new]
        omega
      · simp [same]
        omega

theorem distinctCount_cons_of_notMem {kind : Kind} {kinds : List Kind} (new : kind ∉ kinds) :
    distinctCount (kind :: kinds) = distinctCount kinds + 1 := by
  rw [distinctCount, countP_cons_of_notMem new, count_all]
  rfl

theorem distinctCount_le_length (kinds : List Kind) : distinctCount kinds ≤ kinds.length := by
  induction kinds with
  | nil => exact Nat.le_refl 0
  | cons kind rest ih =>
      rw [List.length_cons]
      by_cases old : kind ∈ rest
      · rw [distinctCount_cons_of_mem old]
        omega
      · rw [distinctCount_cons_of_notMem old]
        omega

theorem distinctCount_le_of_subset {kinds kinds' : List Kind} (subset : kinds ⊆ kinds') :
    distinctCount kinds ≤ distinctCount kinds' := by
  unfold distinctCount
  refine List.countP_mono_left fun kind _ occurs => ?_
  simp only [decide_eq_true_eq] at occurs ⊢
  exact subset occurs

end Kind

namespace Memo

@[simp] theorem mem_keys {memo : Memo} {kind : Kind} :
    kind ∈ memo.keys ↔ (memo.get? kind).isSome = true := by
  simp [keys, Kind.mem_all]

theorem size_eq_distinctCount (memo : Memo) : memo.size = Kind.distinctCount memo.keys := by
  unfold size Kind.distinctCount
  rw [keys, ← List.countP_eq_length_filter]
  refine List.countP_congr fun kind _ => ?_
  simp [Kind.mem_all]

theorem size_insert {memo : Memo} {kind : Kind} (absent : memo.get? kind = none)
    (entry : List Nat) : (memo.insert kind entry).size = memo.size + 1 := by
  have new : kind ∉ memo.keys := by simp [absent]
  have filled : Kind.distinctCount (memo.insert kind entry).keys =
      Kind.distinctCount (kind :: memo.keys) := by
    refine Kind.distinctCount_congr fun wanted => ?_
    rw [mem_keys, get?_insert, List.mem_cons, mem_keys]
    by_cases same : wanted = kind <;> simp [same]
  rw [size_eq_distinctCount, size_eq_distinctCount, filled, Kind.distinctCount_cons_of_notMem new]

end Memo

/-! ## Balanced counters -/

namespace DispatchCounters

/-- Every lookup was a hit or a miss, and every miss that no table answered cost an evaluation of
all the rules. -/
structure Balanced (ruleCount : Nat) (counters : DispatchCounters) : Prop where
  lookups : counters.hits + counters.misses = counters.lookups
  shared_le : counters.sharedHits ≤ counters.misses
  checks : counters.applicabilityChecks = ruleCount * (counters.misses - counters.sharedHits)

theorem balanced_zero (ruleCount : Nat) : zero.Balanced ruleCount :=
  ⟨rfl, Nat.le_refl 0, rfl⟩

theorem Balanced.add {ruleCount : Nat} {first second : DispatchCounters}
    (left : first.Balanced ruleCount) (right : second.Balanced ruleCount) :
    (first + second).Balanced ruleCount := by
  have hlookups := left.lookups
  have hlookups' := right.lookups
  have hshared := left.shared_le
  have hshared' := right.shared_le
  have hevaluated : first.misses + second.misses - (first.sharedHits + second.sharedHits) =
      (first.misses - first.sharedHits) + (second.misses - second.sharedHits) := by omega
  rw [add_def]
  constructor
  · simp only
    omega
  · simp only
    omega
  · simp only [left.checks, right.checks, hevaluated, Nat.mul_add]

end DispatchCounters

/-! ## Lookups one after the other -/

namespace Dispatch

variable {D : Type} [Dispatch D]

def lookUps (dispatch : D) : List Kind → List (List Nat) × D
  | [] => ([], dispatch)
  | kind :: rest =>
    let (entry, dispatch) := resolve dispatch kind
    let (entries, dispatch) := lookUps dispatch rest
    (entry :: entries, dispatch)

@[simp] theorem lookUps_nil (dispatch : D) : lookUps dispatch [] = ([], dispatch) := rfl

theorem lookUps_cons (dispatch : D) (kind : Kind) (rest : List Kind) :
    lookUps dispatch (kind :: rest) =
      ((resolve dispatch kind).1 :: (lookUps (resolve dispatch kind).2 rest).1,
        (lookUps (resolve dispatch kind).2 rest).2) := rfl

theorem lookUps_append (dispatch : D) (first second : List Kind) :
    lookUps dispatch (first ++ second) =
      ((lookUps dispatch first).1 ++ (lookUps (lookUps dispatch first).2 second).1,
        (lookUps (lookUps dispatch first).2 second).2) := by
  induction first generalizing dispatch with
  | nil => rfl
  | cons kind rest ih => simp only [List.cons_append, lookUps_cons, ih]

variable [LawfulDispatch D] {rules : List Applicability} {dispatch : D}

theorem lookUps_fst (sound : LawfulDispatch.Sound rules dispatch) (kinds : List Kind) :
    (lookUps dispatch kinds).1 = kinds.map (applicable rules) := by
  induction kinds generalizing dispatch with
  | nil => rfl
  | cons kind rest ih =>
      rw [lookUps_cons, LawfulDispatch.resolve_fst sound kind,
        ih (LawfulDispatch.sound_resolve sound kind), List.map_cons]

theorem sound_lookUps (sound : LawfulDispatch.Sound rules dispatch) (kinds : List Kind) :
    LawfulDispatch.Sound rules (lookUps dispatch kinds).2 := by
  induction kinds generalizing dispatch with
  | nil => exact sound
  | cons kind rest ih => exact ih (LawfulDispatch.sound_resolve sound kind)

end Dispatch

/-! ## Naive dispatch -/

namespace NaiveDispatch

structure Spent (rules : List Applicability) (asked : Nat) (dispatch : NaiveDispatch) : Prop where
  rules_eq : dispatch.rules = rules
  counters : dispatch.counters = ⟨asked, 0, asked, 0, rules.length * asked⟩

theorem spent_ofRules (rules : List Applicability) : (ofRules rules).Spent rules 0 :=
  ⟨rfl, rfl⟩

theorem Spent.resolve {rules : List Applicability} {asked : Nat} {dispatch : NaiveDispatch}
    (spent : dispatch.Spent rules asked) (kind : Kind) :
    (Dispatch.resolve dispatch kind).2.Spent rules (asked + 1) := by
  refine ⟨spent.rules_eq, ?_⟩
  simp [Dispatch.resolve, NaiveDispatch.resolve, spent.counters, spent.rules_eq, Nat.mul_succ]

theorem Spent.lookUps {rules : List Applicability} {asked : Nat} {dispatch : NaiveDispatch}
    (spent : dispatch.Spent rules asked) (kinds : List Kind) :
    (Dispatch.lookUps dispatch kinds).2.Spent rules (asked + kinds.length) := by
  induction kinds generalizing asked dispatch with
  | nil => exact spent
  | cons kind rest ih =>
      have step := ih (spent.resolve kind)
      rwa [Nat.add_right_comm] at step

end NaiveDispatch

/-! ## Cached dispatch -/

namespace CachedDispatch

/-- The ways a lookup of a kind ends, whatever table is shared and whoever moves in between.  An
entry that is found, or stored first by somebody else, need not come from the rules. -/
inductive Answered (dispatch : CachedDispatch) (kind : Kind) : CachedDispatch → Prop
  | hit {entry : List Nat} (known : dispatch.memo.get? kind = some entry) :
      Answered dispatch kind (dispatch.countLookup kind).2
  | found (unknown : dispatch.memo.get? kind = none) (entry : List Nat) :
      Answered dispatch kind ((dispatch.countLookup kind).2.countSharedHit.memoize kind entry)
  | evaluated (unknown : dispatch.memo.get? kind = none) (entry : List Nat) :
      Answered dispatch kind
        (((dispatch.countLookup kind).2.evaluate kind).2.memoize kind entry)

theorem answered_resolve (dispatch : CachedDispatch) (kind : Kind) :
    dispatch.Answered kind (Dispatch.resolve dispatch kind).2 := by
  change dispatch.Answered kind (dispatch.resolve kind).2
  cases hmemo : dispatch.memo.get? kind with
  | some entry =>
      rw [resolve_of_remembered hmemo]
      exact .hit hmemo
  | none =>
      rw [resolve_of_new hmemo]
      exact .evaluated hmemo _

theorem Answered.rules_eq {dispatch after : CachedDispatch} {kind : Kind}
    (answered : dispatch.Answered kind after) : after.rules = dispatch.rules := by
  cases answered <;> simp

/-- What a caching dispatcher has counted after lookups of the kinds `asked`, of which a shared table
answered `shared`. -/
structure Spent (rules : List Applicability) (asked : List Kind) (shared : Nat)
    (dispatch : CachedDispatch) : Prop where
  rules_eq : dispatch.rules = rules
  memo : ∀ kind, dispatch.memo.get? kind = none ↔ kind ∉ asked
  shared_le : shared ≤ Kind.distinctCount asked
  counters : dispatch.counters =
    ⟨asked.length, asked.length - Kind.distinctCount asked, Kind.distinctCount asked, shared,
      rules.length * (Kind.distinctCount asked - shared)⟩

theorem spent_ofRules (rules : List Applicability) : (ofRules rules).Spent rules [] 0 where
  rules_eq := rfl
  memo kind := by simp [ofRules]
  shared_le := by simp
  counters := by simp [ofRules, DispatchCounters.zero]

namespace Spent

variable {rules : List Applicability} {asked : List Kind} {shared : Nat}
  {dispatch : CachedDispatch} {kind : Kind}

private theorem hit (spent : dispatch.Spent rules asked shared) {entry : List Nat}
    (known : dispatch.memo.get? kind = some entry) :
    (dispatch.countLookup kind).2.Spent rules (kind :: asked) shared := by
  have old : kind ∈ asked := by
    refine Decidable.byContradiction fun new => ?_
    rw [(spent.memo kind).mpr new] at known
    contradiction
  have same := Kind.distinctCount_cons_of_mem old
  have hle := Kind.distinctCount_le_length asked
  refine ⟨by simpa using spent.rules_eq, ?_, by rw [same]; exact spent.shared_le, ?_⟩
  · intro wanted
    rw [memo_countLookup, spent.memo wanted, List.mem_cons, not_or]
    exact ⟨fun new => ⟨fun equal => new (equal ▸ old), new⟩, And.right⟩
  · have hhits : asked.length - Kind.distinctCount asked + 1 =
        asked.length + 1 - Kind.distinctCount asked := by omega
    simp [countLookup, known, spent.counters, same, hhits]

private theorem miss (spent : dispatch.Spent rules asked shared)
    (unknown : dispatch.memo.get? kind = none) {after : CachedDispatch} {shared' : Nat}
    (entry : List Nat) (hrules : after.rules = dispatch.rules)
    (hmemo : after.memo = dispatch.memo.insert kind entry)
    (hshared : shared' ≤ Kind.distinctCount (kind :: asked))
    (hcounters : after.counters =
      ⟨asked.length + 1, asked.length - Kind.distinctCount asked, Kind.distinctCount asked + 1, shared',
        rules.length * (Kind.distinctCount asked + 1 - shared')⟩) :
    after.Spent rules (kind :: asked) shared' := by
  have new : kind ∉ asked := (spent.memo kind).mp unknown
  have hcard := Kind.distinctCount_cons_of_notMem new
  refine ⟨hrules.trans spent.rules_eq, ?_, hshared, ?_⟩
  · intro wanted
    rw [hmemo, Memo.get?_insert, List.mem_cons, not_or]
    by_cases same : wanted = kind
    · simp [same]
    · simp [same, spent.memo wanted]
  · rw [hcounters, hcard, List.length_cons, Nat.add_sub_add_right]

private theorem evaluated (spent : dispatch.Spent rules asked shared)
    (unknown : dispatch.memo.get? kind = none) (entry : List Nat) :
    (((dispatch.countLookup kind).2.evaluate kind).2.memoize kind entry).Spent rules
      (kind :: asked) shared := by
  have new : kind ∉ asked := (spent.memo kind).mp unknown
  have hle := spent.shared_le
  have hchecks : Kind.distinctCount asked + 1 - shared = Kind.distinctCount asked - shared + 1 := by omega
  refine spent.miss unknown entry (by simp) (by simp) ?_ ?_
  · rw [Kind.distinctCount_cons_of_notMem new]
    omega
  · simp [evaluate, countLookup, unknown, spent.counters, spent.rules_eq, hchecks, Nat.mul_succ]

private theorem found (spent : dispatch.Spent rules asked shared)
    (unknown : dispatch.memo.get? kind = none) (entry : List Nat) :
    ((dispatch.countLookup kind).2.countSharedHit.memoize kind entry).Spent rules
      (kind :: asked) (shared + 1) := by
  have new : kind ∉ asked := (spent.memo kind).mp unknown
  refine spent.miss unknown entry (by simp) (by simp) ?_ ?_
  · rw [Kind.distinctCount_cons_of_notMem new]
    exact Nat.succ_le_succ spent.shared_le
  · simp [countSharedHit, countLookup, unknown, spent.counters]

theorem balanced (spent : dispatch.Spent rules asked shared) :
    dispatch.counters.Balanced rules.length := by
  have hlength := Kind.distinctCount_le_length asked
  rw [spent.counters]
  exact ⟨Nat.sub_add_cancel hlength, spent.shared_le, rfl⟩

theorem resolve (spent : dispatch.Spent rules asked shared) (kind : Kind) :
    (Dispatch.resolve dispatch kind).2.Spent rules (kind :: asked) shared := by
  change (dispatch.resolve kind).2.Spent rules (kind :: asked) shared
  cases hmemo : dispatch.memo.get? kind with
  | some entry =>
      rw [resolve_of_remembered hmemo]
      exact spent.hit hmemo
  | none =>
      rw [resolve_of_new hmemo]
      exact spent.evaluated hmemo _

theorem answered (spent : dispatch.Spent rules asked shared) {after : CachedDispatch}
    (answered : dispatch.Answered kind after) :
    ∃ shared', after.Spent rules (kind :: asked) shared' := by
  cases answered with
  | hit known => exact ⟨shared, spent.hit known⟩
  | found unknown entry => exact ⟨shared + 1, spent.found unknown entry⟩
  | evaluated unknown entry => exact ⟨shared, spent.evaluated unknown entry⟩

theorem lookUps (spent : dispatch.Spent rules asked shared) (kinds : List Kind) :
    (Dispatch.lookUps dispatch kinds).2.Spent rules (kinds.reverse ++ asked) shared := by
  induction kinds generalizing asked dispatch with
  | nil => exact spent
  | cons kind rest ih =>
      rw [List.reverse_cons, List.append_assoc]
      exact ih (spent.resolve kind)

end Spent

end CachedDispatch

/-! ## Dispatch on a shared table -/

namespace SharedDispatch

variable {rules : List Applicability} {asked : List Kind} {shared : Nat}
  {dispatch : SharedDispatch}

theorem answered_resolve (dispatch : SharedDispatch) (kind : Kind) :
    dispatch.cached.Answered kind (Dispatch.resolve dispatch kind).2.cached := by
  change dispatch.cached.Answered kind (dispatch.resolve kind).2.cached
  cases hmemo : dispatch.cached.memo.get? kind with
  | some entry =>
      rw [resolve_of_remembered hmemo]
      exact .hit hmemo
  | none =>
      cases htable : dispatch.table.get? kind with
      | some entry =>
          rw [resolve_of_shared hmemo htable]
          exact .found hmemo entry
      | none =>
          rw [resolve_of_new hmemo htable]
          exact .evaluated hmemo _

theorem spent_lookUps (spent : dispatch.cached.Spent rules asked shared) (kinds : List Kind) :
    ∃ shared',
      (Dispatch.lookUps dispatch kinds).2.cached.Spent rules (kinds.reverse ++ asked) shared' := by
  induction kinds generalizing asked shared dispatch with
  | nil => exact ⟨shared, spent⟩
  | cons kind rest ih =>
      obtain ⟨shared', spent'⟩ := spent.answered (answered_resolve dispatch kind)
      rw [List.reverse_cons, List.append_assoc]
      exact ih spent'

end SharedDispatch

namespace Participant

/-- The dispatcher of a participant, seen from what it was when it last finished a lookup. -/
def Since (settled : CachedDispatch) (who : Participant) : Prop :=
  match who.phase with
  | .outside | .idle => who.dispatch = settled
  | .asking kind =>
    settled.memo.get? kind = none ∧ who.dispatch = (settled.countLookup kind).2
  | .storing kind _ =>
    settled.memo.get? kind = none ∧ who.dispatch = ((settled.countLookup kind).2.evaluate kind).2

/-- The counters account for the lookups a participant has finished and for the one it is making. -/
def Accounts (who : Participant) : Prop :=
  ∃ settled shared,
    settled.Spent who.rules (who.answers.map (·.1)) shared ∧ who.Since settled

theorem accounts_fresh (rules : List Applicability) : (fresh rules).Accounts :=
  ⟨.ofRules rules, 0, CachedDispatch.spent_ofRules rules, rfl⟩

theorem Accounts.spent {who : Participant} (accounts : who.Accounts) (idle : who.phase = .idle) :
    ∃ shared, who.dispatch.Spent who.rules (who.answers.map (·.1)) shared := by
  obtain ⟨settled, shared, spent, since⟩ := accounts
  simp only [Since, idle] at since
  exact ⟨shared, since ▸ spent⟩

/-- A step of a participant leaves what it has finished as it was, or finishes a lookup. -/
theorem Outcome.since {who : Participant} {table : SharedTable} {after : Participant × SharedTable}
    {settled : CachedDispatch} (outcome : Outcome who table after) (since : who.Since settled) :
    (after.1.answers = who.answers ∧ after.1.Since settled) ∨
      ∃ kind entry settled', after.1.answers = (kind, entry) :: who.answers ∧
        settled.Answered kind settled' ∧ after.1.Since settled' := by
  cases outcome with
  | nothing => exact .inl ⟨rfl, since⟩
  | bound after outside memo =>
      simp only [Since, outside] at since
      exact .inl ⟨rfl, since⟩
  | hit kind entry idle known =>
      simp only [Since, idle] at since
      subst since
      exact .inr ⟨kind, entry, _, rfl, .hit known, rfl⟩
  | missed kind idle unknown =>
      simp only [Since, idle] at since
      subst since
      exact .inl ⟨rfl, unknown, rfl⟩
  | found kind entry asking present =>
      simp only [Since, asking] at since
      obtain ⟨unknown, hdispatch⟩ := since
      refine .inr ⟨kind, entry, _, rfl, .found unknown entry, ?_⟩
      simp [Since, finish, hdispatch]
  | computed kind asking absent =>
      simp only [Since, asking] at since
      obtain ⟨unknown, hdispatch⟩ := since
      refine .inl ⟨rfl, unknown, ?_⟩
      simp [hdispatch]
  | stored kind own storing =>
      simp only [Since, storing] at since
      obtain ⟨unknown, hdispatch⟩ := since
      refine .inr ⟨kind, _, _, rfl, .evaluated unknown (table.insert kind own).1, ?_⟩
      simp [Since, finish, hdispatch]

theorem Outcome.accounts {who : Participant} {table : SharedTable}
    {after : Participant × SharedTable} (outcome : Outcome who table after)
    (accounts : who.Accounts) : after.1.Accounts := by
  obtain ⟨settled, shared, spent, since⟩ := accounts
  unfold Accounts
  rw [outcome.rules_eq]
  rcases outcome.since since with
    ⟨hanswers, since⟩ | ⟨kind, entry, settled', hanswers, answered, since⟩
  · rw [hanswers]
    exact ⟨settled, shared, spent, since⟩
  · obtain ⟨shared', spent'⟩ := spent.answered answered
    rw [hanswers]
    exact ⟨settled', shared', spent', since⟩

end Participant

end KindDispatch
