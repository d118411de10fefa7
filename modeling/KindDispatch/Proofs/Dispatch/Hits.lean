import KindDispatch.Proofs.Dispatch.Counters

/-!
# Hits and misses

How many lookups a dispatcher has made, and how many of them were hits, depends on the kinds that
were asked and not on the rules or on what a shared table holds.  `MeteredDispatch` says so for the
three dispatchers: a lookup is a hit if its kind is remembered, and what is remembered after it
depends only on what was remembered before.
-/

namespace KindDispatch

variable {D : Type}

structure LookupTally where
  lookups : Nat
  hits : Nat
  misses : Nat
deriving DecidableEq, Repr

def DispatchCounters.tally (counters : DispatchCounters) : LookupTally :=
  ⟨counters.lookups, counters.hits, counters.misses⟩

def LookupTally.count (tally : LookupTally) (hit : Bool) : LookupTally :=
  if hit then ⟨tally.lookups + 1, tally.hits + 1, tally.misses⟩
  else ⟨tally.lookups + 1, tally.hits, tally.misses + 1⟩

@[simp] theorem LookupTally.lookups_count (tally : LookupTally) (hit : Bool) :
    (tally.count hit).lookups = tally.lookups + 1 := by
  cases hit <;> rfl

class MeteredDispatch (D : Type) [Dispatch D] where
  /-- The kinds whose lookups are hits. -/
  remembers : D → Kind → Bool
  /-- Whether a lookup adds its kind to them. -/
  memoizes : Bool
  tally_resolve (dispatch : D) (kind : Kind) :
    (Dispatch.counters (Dispatch.resolve dispatch kind).2).tally =
      (Dispatch.counters dispatch).tally.count (remembers dispatch kind)
  remembers_resolve (dispatch : D) (kind wanted : Kind) :
    remembers (Dispatch.resolve dispatch kind).2 wanted =
      (remembers dispatch wanted || memoizes && decide (wanted = kind))

namespace Dispatch

variable [Dispatch D] [MeteredDispatch D]

structure InStep (dispatch dispatch' : D) : Prop where
  tally : (counters dispatch).tally = (counters dispatch').tally
  remembers : ∀ kind,
    MeteredDispatch.remembers dispatch kind = MeteredDispatch.remembers dispatch' kind

theorem InStep.resolve {dispatch dispatch' : D} (inStep : InStep dispatch dispatch') (kind : Kind) :
    InStep (Dispatch.resolve dispatch kind).2 (Dispatch.resolve dispatch' kind).2 where
  tally := by
    rw [MeteredDispatch.tally_resolve, MeteredDispatch.tally_resolve, inStep.tally,
      inStep.remembers kind]
  remembers wanted := by
    rw [MeteredDispatch.remembers_resolve, MeteredDispatch.remembers_resolve,
      inStep.remembers wanted]

theorem lookups_lookUps (dispatch : D) (kinds : List Kind) :
    (counters (lookUps dispatch kinds).2).lookups =
      (counters dispatch).lookups + kinds.length := by
  induction kinds generalizing dispatch with
  | nil => rfl
  | cons kind rest ih =>
      have first : (counters (Dispatch.resolve dispatch kind).2).lookups =
          (counters dispatch).lookups + 1 := by
        have step := congrArg LookupTally.lookups (MeteredDispatch.tally_resolve dispatch kind)
        rwa [LookupTally.lookups_count] at step
      rw [lookUps_cons, ih, first, List.length_cons]
      omega

end Dispatch

/-! ## The three dispatchers -/

private theorem Memo.isSome_get?_insert (memo : Memo) (kind wanted : Kind) (entry : List Nat) :
    ((memo.insert kind entry).get? wanted).isSome =
      ((memo.get? wanted).isSome || decide (wanted = kind)) := by
  rw [get?_insert]
  by_cases same : wanted = kind <;> simp [same]

namespace NaiveDispatch

instance : MeteredDispatch NaiveDispatch where
  remembers _ _ := false
  memoizes := false
  tally_resolve _ _ := rfl
  remembers_resolve _ _ _ := rfl

theorem inStep_ofRules (rules rules' : List Applicability) :
    Dispatch.InStep (ofRules rules) (ofRules rules') :=
  ⟨rfl, fun _ => rfl⟩

end NaiveDispatch

namespace CachedDispatch

private theorem tally_countLookup (dispatch : CachedDispatch) (kind : Kind) :
    (dispatch.countLookup kind).2.counters.tally =
      dispatch.counters.tally.count (dispatch.memo.get? kind).isSome := by
  cases hmemo : dispatch.memo.get? kind with
  | some entry => rw [counters_countLookup_of_remembered hmemo]; rfl
  | none => rw [counters_countLookup_of_new hmemo]; rfl

instance : MeteredDispatch CachedDispatch where
  remembers dispatch kind := (dispatch.memo.get? kind).isSome
  memoizes := true
  tally_resolve dispatch kind := by
    refine Eq.trans ?_ (tally_countLookup dispatch kind)
    change (dispatch.resolve kind).2.counters.tally = _
    cases hmemo : dispatch.memo.get? kind with
    | some entry => rw [resolve_of_remembered hmemo]
    | none =>
        rw [resolve_of_new hmemo]
        rfl
  remembers_resolve dispatch kind wanted := by
    change ((dispatch.resolve kind).2.memo.get? wanted).isSome = _
    cases hmemo : dispatch.memo.get? kind with
    | some entry =>
        rw [resolve_of_remembered hmemo, memo_countLookup]
        by_cases same : wanted = kind <;> simp [same, hmemo]
    | none =>
        rw [resolve_of_new hmemo, memo_memoize, Memo.isSome_get?_insert]
        simp

theorem inStep_ofRules (rules rules' : List Applicability) :
    Dispatch.InStep (ofRules rules) (ofRules rules') :=
  ⟨rfl, fun _ => rfl⟩

end CachedDispatch

namespace SharedDispatch

instance : MeteredDispatch SharedDispatch where
  remembers dispatch kind := (dispatch.cached.memo.get? kind).isSome
  memoizes := true
  tally_resolve dispatch kind := by
    refine Eq.trans ?_ (CachedDispatch.tally_countLookup dispatch.cached kind)
    change (dispatch.resolve kind).2.cached.counters.tally = _
    cases hmemo : dispatch.cached.memo.get? kind with
    | some entry => rw [resolve_of_remembered hmemo]
    | none =>
        cases htable : dispatch.table.get? kind with
        | some entry => rw [resolve_of_shared hmemo htable]; rfl
        | none => rw [resolve_of_new hmemo htable]; rfl
  remembers_resolve dispatch kind wanted := by
    change ((dispatch.resolve kind).2.cached.memo.get? wanted).isSome = _
    cases hmemo : dispatch.cached.memo.get? kind with
    | some entry =>
        rw [resolve_of_remembered hmemo, CachedDispatch.memo_countLookup]
        by_cases same : wanted = kind <;> simp [same, hmemo]
    | none =>
        cases htable : dispatch.table.get? kind with
        | some entry =>
            rw [resolve_of_shared hmemo htable, CachedDispatch.memo_memoize,
              Memo.isSome_get?_insert]
            simp
        | none =>
            rw [resolve_of_new hmemo htable, CachedDispatch.memo_memoize,
              Memo.isSome_get?_insert]
            simp

theorem inStep_ofRules (rules rules' : List Applicability) (table table' : SharedTable) :
    Dispatch.InStep (SharedDispatch.mk (.ofRules rules) table) ⟨.ofRules rules', table'⟩ :=
  ⟨rfl, fun _ => rfl⟩

end SharedDispatch

end KindDispatch
