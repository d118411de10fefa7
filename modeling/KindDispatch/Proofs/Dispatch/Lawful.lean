import KindDispatch.Dispatch.Naive
import KindDispatch.Dispatch.Shared

/-!
# Dispatchers that answer by their rules

A dispatcher is *sound* for a rule list if everything it remembers is what the rules say.  Lookups
keep a dispatcher sound, and a sound one answers every lookup with the places of the rules that
apply.  `LawfulDispatch` collects these laws; the naive, the caching and the sharing dispatchers all
obey them, so whatever is shown from the laws alone holds for each of the three.
-/

namespace KindDispatch

class LawfulDispatch (D : Type) [Dispatch D] where
  /-- What a dispatcher built from a rule list keeps true of itself. -/
  Sound : List Applicability → D → Prop
  resolve_fst {rules : List Applicability} {dispatch : D} (sound : Sound rules dispatch)
    (kind : Kind) : (Dispatch.resolve dispatch kind).1 = applicable rules kind
  sound_resolve {rules : List Applicability} {dispatch : D} (sound : Sound rules dispatch)
    (kind : Kind) : Sound rules (Dispatch.resolve dispatch kind).2
  sound_resetCounters {rules : List Applicability} {dispatch : D} (sound : Sound rules dispatch) :
    Sound rules (Dispatch.resetCounters dispatch)

/-! ## Memo tables -/

def Memo.Sound (rules : List Applicability) (memo : Memo) : Prop :=
  ∀ kind entry, memo.get? kind = some entry → entry = applicable rules kind

namespace Memo

theorem sound_empty (rules : List Applicability) : empty.Sound rules := by
  intro kind entry hentry
  simp at hentry

theorem Sound.insert {rules : List Applicability} {memo : Memo} (sound : memo.Sound rules)
    (kind : Kind) : (memo.insert kind (applicable rules kind)).Sound rules := by
  intro wanted entry hentry
  rw [get?_insert] at hentry
  by_cases same : wanted = kind
  · subst same
    simpa using hentry.symm
  · simp only [same, if_false] at hentry
    exact sound wanted entry hentry

end Memo

/-! ## The three dispatchers -/

namespace NaiveDispatch

instance : LawfulDispatch NaiveDispatch where
  Sound rules dispatch := dispatch.rules = rules
  resolve_fst := by
    rintro rules dispatch rfl kind
    rfl
  sound_resolve := by
    rintro rules dispatch rfl kind
    rfl
  sound_resetCounters := by
    rintro rules dispatch rfl
    rfl

theorem sound_ofRules (rules : List Applicability) :
    LawfulDispatch.Sound rules (ofRules rules) := by
  rfl

end NaiveDispatch

namespace CachedDispatch

structure Sound (rules : List Applicability) (dispatch : CachedDispatch) : Prop where
  rules_eq : dispatch.rules = rules
  memo : dispatch.memo.Sound rules

theorem sound_ofRules (rules : List Applicability) : (ofRules rules).Sound rules :=
  ⟨rfl, Memo.sound_empty rules⟩

variable {rules : List Applicability} {dispatch : CachedDispatch}

namespace Sound

private theorem countLookup (sound : dispatch.Sound rules) (kind : Kind) :
    (dispatch.countLookup kind).2.Sound rules :=
  ⟨by simpa using sound.rules_eq, by simpa using sound.memo⟩

private theorem countSharedHit (sound : dispatch.Sound rules) :
    dispatch.countSharedHit.Sound rules :=
  ⟨sound.rules_eq, sound.memo⟩

private theorem evaluate (sound : dispatch.Sound rules) (kind : Kind) :
    (dispatch.evaluate kind).2.Sound rules :=
  ⟨sound.rules_eq, sound.memo⟩

private theorem memoize (sound : dispatch.Sound rules) (kind : Kind) :
    (dispatch.memoize kind (applicable rules kind)).Sound rules :=
  ⟨sound.rules_eq, sound.memo.insert kind⟩

theorem resolve_fst (sound : dispatch.Sound rules) (kind : Kind) :
    (dispatch.resolve kind).1 = applicable rules kind := by
  cases hmemo : dispatch.memo.get? kind with
  | some entry =>
      rw [resolve_of_remembered hmemo]
      exact sound.memo kind entry hmemo
  | none => rw [resolve_of_new hmemo, sound.rules_eq]

theorem resolve (sound : dispatch.Sound rules) (kind : Kind) :
    (dispatch.resolve kind).2.Sound rules := by
  cases hmemo : dispatch.memo.get? kind with
  | some entry =>
      rw [resolve_of_remembered hmemo]
      exact sound.countLookup kind
  | none =>
      rw [resolve_of_new hmemo, sound.rules_eq]
      exact ((sound.countLookup kind).evaluate kind).memoize kind

end Sound

instance : LawfulDispatch CachedDispatch where
  Sound := Sound
  resolve_fst sound kind := sound.resolve_fst kind
  sound_resolve sound kind := sound.resolve kind
  sound_resetCounters sound := ⟨sound.rules_eq, sound.memo⟩

end CachedDispatch

/-- A table all of whose users were built from one rule list. -/
structure SharedTable.Sound (rules : List Applicability) (table : SharedTable) : Prop where
  memo : table.memo.Sound rules
  /-- The table is in use, if at all, for as many visitors as there are rules. -/
  visitorCount : ∀ count, table.visitorCount = some count → count = rules.length

namespace SharedTable

variable {rules : List Applicability} {table : SharedTable}

theorem sound_empty (rules : List Applicability) : empty.Sound rules :=
  ⟨Memo.sound_empty rules, by simp [empty]⟩

theorem Sound.bind (sound : table.Sound rules) :
    ∃ bound, table.bind rules.length = .ok bound ∧ bound.Sound rules := by
  unfold SharedTable.bind
  cases hcount : table.visitorCount with
  | none => exact ⟨_, rfl, sound.memo, by simp⟩
  | some count =>
      have hlength := sound.visitorCount count hcount
      exact ⟨table, by simp [hlength], sound⟩

theorem Sound.insert (sound : table.Sound rules) (kind : Kind) :
    (table.insert kind (applicable rules kind)).2.Sound rules := by
  cases hpresent : table.get? kind with
  | some present => simpa [insert_of_present hpresent] using sound
  | none =>
      rw [insert_of_absent hpresent]
      exact ⟨sound.memo.insert kind, sound.visitorCount⟩

@[simp] theorem visitorCount_insert (table : SharedTable) (kind : Kind) (entry : List Nat) :
    (table.insert kind entry).2.visitorCount = table.visitorCount := by
  cases hpresent : table.get? kind with
  | some present => rw [insert_of_present hpresent]
  | none => rw [insert_of_absent hpresent]

end SharedTable

namespace SharedDispatch

structure Sound (rules : List Applicability) (dispatch : SharedDispatch) : Prop where
  cached : dispatch.cached.Sound rules
  table : dispatch.table.Sound rules
  bound : dispatch.table.visitorCount = some rules.length

theorem sound_ofRules {rules : List Applicability} {table bound : SharedTable}
    (hbind : table.bind rules.length = .ok bound) (sound : bound.Sound rules) :
    Sound rules ⟨.ofRules rules, bound⟩ :=
  ⟨CachedDispatch.sound_ofRules rules, sound, SharedTable.visitorCount_bind hbind⟩

variable {rules : List Applicability} {dispatch : SharedDispatch}

namespace Sound

theorem resolve_fst (sound : dispatch.Sound rules) (kind : Kind) :
    (dispatch.resolve kind).1 = applicable rules kind := by
  cases hmemo : dispatch.cached.memo.get? kind with
  | some entry =>
      rw [resolve_of_remembered hmemo]
      exact sound.cached.memo kind entry hmemo
  | none =>
      cases htable : dispatch.table.get? kind with
      | some entry =>
          rw [resolve_of_shared hmemo htable]
          exact sound.table.memo kind entry htable
      | none => rw [resolve_of_new hmemo htable, sound.cached.rules_eq]

theorem resolve (sound : dispatch.Sound rules) (kind : Kind) :
    (dispatch.resolve kind).2.Sound rules := by
  have hcounted := sound.cached.countLookup kind
  cases hmemo : dispatch.cached.memo.get? kind with
  | some entry =>
      rw [resolve_of_remembered hmemo]
      exact ⟨hcounted, sound.table, sound.bound⟩
  | none =>
      cases htable : dispatch.table.get? kind with
      | some entry =>
          have hentry : entry = applicable rules kind := sound.table.memo kind entry htable
          rw [resolve_of_shared hmemo htable, hentry]
          exact ⟨hcounted.countSharedHit.memoize kind, sound.table, sound.bound⟩
      | none =>
          rw [resolve_of_new hmemo htable, sound.cached.rules_eq]
          exact ⟨(hcounted.evaluate kind).memoize kind, sound.table.insert kind,
            by simpa using sound.bound⟩

end Sound

instance : LawfulDispatch SharedDispatch where
  Sound := Sound
  resolve_fst sound kind := sound.resolve_fst kind
  sound_resolve sound kind := sound.resolve kind
  sound_resetCounters sound :=
    ⟨⟨sound.cached.rules_eq, sound.cached.memo⟩, sound.table, sound.bound⟩

end SharedDispatch

end KindDispatch
