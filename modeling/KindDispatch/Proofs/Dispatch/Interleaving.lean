import KindDispatch.Proofs.Dispatch.Lawful

/-!
# Dispatchers on one table, step by step

Dispatchers that share a table run side by side.  Asking the table and storing into it are two
separate steps of a lookup, and steps of other dispatchers may fall in between.  A `Gathering` is a
table with the dispatchers that may use it, each with a note of how far its lookup has come; a
schedule names, step after step, which of them moves and how.

The main result is `table_entries_agree`: under every schedule the table only grows, and every
dispatcher remembers what the table holds.
-/

namespace KindDispatch

inductive Phase where
  | outside
  | idle
  /-- Its memo table has no entry, and it is about to ask the shared one. -/
  | asking (kind : Kind)
  /-- The shared table had no entry either, and it is about to store the one it has computed. -/
  | storing (kind : Kind) (own : List Nat)
deriving DecidableEq, Repr

structure Participant where
  dispatch : CachedDispatch
  phase : Phase
  /-- The lookups it has finished with their answers, the latest first. -/
  answers : List (Kind × List Nat)

inductive Move where
  | bind
  | lookUp (kind : Kind)
  | ask
  | store
deriving DecidableEq, Repr

namespace Participant

def fresh (rules : List Applicability) : Participant := ⟨.ofRules rules, .outside, []⟩

def rules (who : Participant) : List Applicability := who.dispatch.rules

def IsBound (who : Participant) : Prop := who.phase ≠ .outside

def finish (who : Participant) (dispatch : CachedDispatch) (kind : Kind) (entry : List Nat) :
    Participant :=
  ⟨dispatch, .idle, (kind, entry) :: who.answers⟩

/-- One step on a table; a move that does not fit the phase does nothing. -/
def act (who : Participant) (move : Move) (table : SharedTable) : Participant × SharedTable :=
  match move, who.phase with
  | .bind, .outside =>
    match table.bind who.dispatch.rules.length with
    | .ok table => ({ who with phase := .idle }, table)
    | .error _ => (who, table)
  | .lookUp kind, .idle =>
    match who.dispatch.countLookup kind with
    | (some entry, dispatch) => (who.finish dispatch kind entry, table)
    | (none, dispatch) => ({ who with dispatch, phase := .asking kind }, table)
  | .ask, .asking kind =>
    match table.get? kind with
    | some entry =>
      (who.finish (who.dispatch.countSharedHit.memoize kind entry) kind entry, table)
    | none =>
      let (own, dispatch) := who.dispatch.evaluate kind
      ({ who with dispatch, phase := .storing kind own }, table)
  | .store, .storing kind own =>
    let (entry, table) := table.insert kind own
    (who.finish (who.dispatch.memoize kind entry) kind entry, table)
  | _, _ => (who, table)

end Participant

structure Gathering where
  table : SharedTable
  members : List Participant

namespace Gathering

def start (table : SharedTable) (rules : List (List Applicability)) : Gathering :=
  ⟨table, rules.map .fresh⟩

def act (gathering : Gathering) (number : Nat) (move : Move) : Gathering :=
  match gathering.members[number]? with
  | none => gathering
  | some who =>
    let (who, table) := who.act move gathering.table
    ⟨table, gathering.members.set number who⟩

def run (gathering : Gathering) (schedule : List (Nat × Move)) : Gathering :=
  schedule.foldl (fun gathering step => gathering.act step.1 step.2) gathering

end Gathering

/-! ## What one step can do -/

namespace Participant

variable {who : Participant} {kind : Kind} {entry own : List Nat} {table : SharedTable}

private theorem act_lookUp_of_remembered (idle : who.phase = .idle)
    (known : who.dispatch.memo.get? kind = some entry) :
    who.act (.lookUp kind) table =
      (who.finish (who.dispatch.countLookup kind).2 kind entry, table) := by
  simp only [act, idle]
  rw [CachedDispatch.countLookup_of_remembered known]

private theorem act_lookUp_of_new (idle : who.phase = .idle)
    (unknown : who.dispatch.memo.get? kind = none) :
    who.act (.lookUp kind) table =
      ({ who with dispatch := (who.dispatch.countLookup kind).2, phase := .asking kind },
        table) := by
  simp only [act, idle]
  rw [CachedDispatch.countLookup_of_new unknown]

private theorem act_ask_of_present (asking : who.phase = .asking kind)
    (present : table.get? kind = some entry) :
    who.act .ask table =
      (who.finish (who.dispatch.countSharedHit.memoize kind entry) kind entry, table) := by
  simp only [act, asking, present]

private theorem act_ask_of_absent (asking : who.phase = .asking kind)
    (absent : table.get? kind = none) : who.act .ask table =
      ({ who with
          dispatch := (who.dispatch.evaluate kind).2
          phase := .storing kind (applicable who.rules kind) }, table) := by
  simp only [act, asking, absent]
  rfl

theorem act_store (storing : who.phase = .storing kind own) :
    who.act .store table =
      (who.finish (who.dispatch.memoize kind (table.insert kind own).1) kind
        (table.insert kind own).1, (table.insert kind own).2) := by
  obtain ⟨dispatch, _, answers⟩ := who
  subst storing
  rfl

private theorem act_ask_of_idle (idle : who.phase = .idle) : who.act .ask table = (who, table) := by
  obtain ⟨dispatch, _, answers⟩ := who
  subst idle
  rfl

private theorem act_store_of_idle (idle : who.phase = .idle) : who.act .store table =
    (who, table) := by
  obtain ⟨dispatch, _, answers⟩ := who
  subst idle
  rfl

inductive Outcome (who : Participant) (table : SharedTable) : Participant × SharedTable → Prop
  | nothing : Outcome who table (who, table)
  | bound (after : SharedTable) (outside : who.phase = .outside)
      (memo : after.memo = table.memo) :
      Outcome who table ({ who with phase := .idle }, after)
  | hit (kind : Kind) (entry : List Nat) (idle : who.phase = .idle)
      (known : who.dispatch.memo.get? kind = some entry) :
      Outcome who table (who.finish (who.dispatch.countLookup kind).2 kind entry, table)
  | missed (kind : Kind) (idle : who.phase = .idle)
      (unknown : who.dispatch.memo.get? kind = none) :
      Outcome who table
        ({ who with dispatch := (who.dispatch.countLookup kind).2, phase := .asking kind }, table)
  | found (kind : Kind) (entry : List Nat) (asking : who.phase = .asking kind)
      (present : table.get? kind = some entry) :
      Outcome who table
        (who.finish (who.dispatch.countSharedHit.memoize kind entry) kind entry, table)
  | computed (kind : Kind) (asking : who.phase = .asking kind)
      (absent : table.get? kind = none) :
      Outcome who table
        ({ who with
            dispatch := (who.dispatch.evaluate kind).2
            phase := .storing kind (applicable who.rules kind) }, table)
  | stored (kind : Kind) (own : List Nat) (storing : who.phase = .storing kind own) :
      Outcome who table
        (who.finish (who.dispatch.memoize kind (table.insert kind own).1) kind
          (table.insert kind own).1, (table.insert kind own).2)

theorem outcome_act (who : Participant) (move : Move) (table : SharedTable) :
    Outcome who table (who.act move table) := by
  cases move with
  | bind =>
      cases hphase : who.phase with
      | outside =>
          simp only [act, hphase]
          cases hbind : table.bind who.dispatch.rules.length with
          | error cause => exact .nothing
          | ok after => exact .bound after hphase (SharedTable.memo_bind hbind)
      | _ =>
          simp only [act, hphase]
          exact .nothing
  | lookUp kind =>
      cases hphase : who.phase with
      | idle =>
          cases hmemo : who.dispatch.memo.get? kind with
          | some entry =>
              rw [act_lookUp_of_remembered hphase hmemo]
              exact .hit kind entry hphase hmemo
          | none =>
              rw [act_lookUp_of_new hphase hmemo]
              exact .missed kind hphase hmemo
      | _ =>
          simp only [act, hphase]
          exact .nothing
  | ask =>
      cases hphase : who.phase with
      | asking kind =>
          cases hpresent : table.get? kind with
          | some entry =>
              rw [act_ask_of_present hphase hpresent]
              exact .found kind entry hphase hpresent
          | none =>
              rw [act_ask_of_absent hphase hpresent]
              exact .computed kind hphase hpresent
      | _ =>
          simp only [act, hphase]
          exact .nothing
  | store =>
      cases hphase : who.phase with
      | storing kind own =>
          rw [act_store hphase]
          exact .stored kind own hphase
      | _ =>
          simp only [act, hphase]
          exact .nothing

end Participant

/-! ## A lookup nobody interrupts -/

namespace Participant

def acts (who : Participant) (moves : List Move) (table : SharedTable) :
    Participant × SharedTable :=
  moves.foldl (fun state move => state.1.act move state.2) (who, table)

theorem acts_append (who : Participant) (first second : List Move) (table : SharedTable) :
    who.acts (first ++ second) table =
      (who.acts first table).1.acts second (who.acts first table).2 := by
  simp [acts, List.foldl_append]

/-- The steps of a lookup, made one right after the other, are the lookup of a sharing dispatcher.
Steps that a lookup has no use for do nothing. -/
theorem acts_lookUp {who : Participant} (idle : who.phase = .idle) (kind : Kind)
    (table : SharedTable) :
    who.acts [.lookUp kind, .ask, .store] table =
      (who.finish ((SharedDispatch.mk who.dispatch table).resolve kind).2.cached kind
          ((SharedDispatch.mk who.dispatch table).resolve kind).1,
        ((SharedDispatch.mk who.dispatch table).resolve kind).2.table) := by
  simp only [acts, List.foldl_cons, List.foldl_nil]
  cases hmemo : who.dispatch.memo.get? kind with
  | some entry =>
      rw [SharedDispatch.resolve_of_remembered hmemo, act_lookUp_of_remembered idle hmemo,
        act_ask_of_idle rfl, act_store_of_idle rfl]
  | none =>
      rw [act_lookUp_of_new idle hmemo]
      cases htable : table.get? kind with
      | some entry =>
          rw [SharedDispatch.resolve_of_shared hmemo htable, act_ask_of_present rfl htable,
            act_store_of_idle rfl]
          rfl
      | none =>
          rw [SharedDispatch.resolve_of_new hmemo htable, act_ask_of_absent rfl htable,
            act_store rfl]
          simp [SharedTable.insert_of_absent htable, finish, rules]

end Participant

/-! ## The table only grows -/

def SharedTable.Grows (table after : SharedTable) : Prop :=
  ∀ kind entry, table.get? kind = some entry → after.get? kind = some entry

theorem SharedTable.Grows.refl (table : SharedTable) : table.Grows table :=
  fun _ _ held => held

theorem SharedTable.Grows.trans {first second third : SharedTable} (left : first.Grows second)
    (right : second.Grows third) : first.Grows third :=
  fun kind entry held => right kind entry (left kind entry held)

namespace Participant

structure Agrees (table : SharedTable) (who : Participant) : Prop where
  remembered : ∀ kind entry,
    who.dispatch.memo.get? kind = some entry → table.get? kind = some entry
  answered : ∀ kind entry,
    (kind, entry) ∈ who.answers → who.dispatch.memo.get? kind = some entry
  /-- What it is about to store comes from its own rules. -/
  own : ∀ kind entry, who.phase = .storing kind entry → entry = applicable who.rules kind

private theorem agrees_fresh (table : SharedTable) (rules : List Applicability) :
    (fresh rules).Agrees table where
  remembered kind entry known := by simp [fresh, CachedDispatch.ofRules] at known
  answered kind entry given := by simp [fresh] at given
  own kind entry storing := by simp [fresh] at storing

theorem Agrees.grows {table after : SharedTable} {who : Participant} (agrees : who.Agrees table)
    (grows : table.Grows after) : who.Agrees after :=
  ⟨fun kind entry known => grows kind entry (agrees.remembered kind entry known),
    agrees.answered, agrees.own⟩

private theorem Agrees.finish {table after : SharedTable} {who : Participant}
    (agrees : who.Agrees table) (grows : table.Grows after) {kind : Kind} {entry : List Nat}
    (held : after.get? kind = some entry) {dispatch : CachedDispatch}
    (memo : dispatch.memo = who.dispatch.memo.insert kind entry) :
    (who.finish dispatch kind entry).Agrees after where
  remembered wanted found known := by
    simp only [Participant.finish, memo, Memo.get?_insert] at known
    split at known
    · rename_i same
      rw [same, held, known]
    · exact grows wanted found (agrees.remembered wanted found known)
  answered wanted found given := by
    simp only [Participant.finish, List.mem_cons, Prod.mk.injEq] at given
    simp only [Participant.finish, memo, Memo.get?_insert]
    rcases given with ⟨rfl, rfl⟩ | given
    · simp
    · have known := agrees.answered wanted found given
      split
      · rename_i same
        have hheld := grows wanted found (agrees.remembered wanted found known)
        rw [same, held] at hheld
        exact hheld
      · exact known
  own wanted found storing := by simp [Participant.finish] at storing

namespace Outcome

variable {who : Participant} {table : SharedTable} {after : Participant × SharedTable}

theorem grows (outcome : Outcome who table after) : table.Grows after.2 := by
  cases outcome with
  | stored kind own storing =>
      intro wanted entry held
      exact SharedTable.get?_insert_of_some held kind own
  | bound after outside memo =>
      intro kind entry held
      simpa [SharedTable.get?, memo] using held
  | _ => exact SharedTable.Grows.refl table

theorem rules_eq (outcome : Outcome who table after) : after.1.rules = who.rules := by
  cases outcome <;> simp [rules, finish]

theorem isBound (outcome : Outcome who table after) (bound : who.IsBound) : after.1.IsBound := by
  cases outcome with
  | nothing => exact bound
  | _ => simp [IsBound, finish]

theorem agrees (outcome : Outcome who table after) (agrees : who.Agrees table) :
    after.1.Agrees after.2 := by
  have grows := outcome.grows
  cases outcome with
  | nothing => exact agrees
  | bound after outside memo =>
      exact ⟨(agrees.grows grows).remembered, agrees.answered, by simp⟩
  | hit kind entry idle known =>
      refine ⟨?_, ?_, by simp [finish]⟩
      · simpa [finish] using agrees.remembered
      · intro wanted found given
        simp only [finish, List.mem_cons, Prod.mk.injEq] at given
        rcases given with ⟨rfl, rfl⟩ | given
        · simpa [finish] using known
        · simpa [finish] using agrees.answered wanted found given
  | missed kind idle unknown =>
      exact ⟨by simpa using agrees.remembered, by simpa using agrees.answered, by simp⟩
  | found kind entry asking present => exact agrees.finish grows present rfl
  | computed kind asking absent =>
      refine ⟨agrees.remembered, agrees.answered, ?_⟩
      intro wanted entry storing
      simp only [Phase.storing.injEq] at storing
      rw [← storing.1, ← storing.2]
      rfl
  | stored kind own storing =>
      exact agrees.finish grows (SharedTable.get?_insert_self table kind own) rfl

theorem origin (outcome : Outcome who table after) (agrees : who.Agrees table) {kind : Kind}
    {entry : List Nat} (held : after.2.get? kind = some entry) :
    table.get? kind = some entry ∨ after.1.IsBound ∧ entry = applicable after.1.rules kind := by
  cases outcome with
  | stored wanted own storing =>
      cases hpresent : table.get? wanted with
      | some present =>
          rw [SharedTable.insert_of_present hpresent] at held
          exact .inl held
      | none =>
          rw [SharedTable.insert_of_absent hpresent] at held
          simp only [SharedTable.get?, Memo.get?_insert] at held
          split at held
          · rename_i same
            have hown := agrees.own wanted own storing
            simp only [Option.some.injEq] at held
            exact .inr ⟨by simp [IsBound, finish], by simp [← held, hown, same, rules, finish]⟩
          · exact .inl held
  | bound after outside memo => exact .inl (by simpa [SharedTable.get?, memo] using held)
  | _ => exact .inl held

end Outcome

end Participant

/-! ## Every schedule -/

namespace Gathering

theorem act_cases (gathering : Gathering) (number : Nat) (move : Move) :
    gathering.act number move = gathering ∨
      ∃ who after, gathering.members[number]? = some who ∧
        Participant.Outcome who gathering.table after ∧
        gathering.act number move = ⟨after.2, gathering.members.set number after.1⟩ := by
  unfold act
  cases hwho : gathering.members[number]? with
  | none => exact .inl rfl
  | some who =>
      exact .inr ⟨who, who.act move gathering.table, rfl, who.outcome_act move _, rfl⟩

theorem run_preserves {P : Gathering → Prop}
    (step : ∀ gathering number move, P gathering → P (gathering.act number move))
    {gathering : Gathering} (holds : P gathering) (schedule : List (Nat × Move)) :
    P (gathering.run schedule) := by
  unfold run
  induction schedule generalizing gathering with
  | nil => exact holds
  | cons first rest ih => exact ih (step gathering first.1 first.2 holds)

theorem grows_act (gathering : Gathering) (number : Nat) (move : Move) :
    gathering.table.Grows (gathering.act number move).table := by
  rcases gathering.act_cases number move with same | ⟨who, after, -, outcome, hact⟩
  · rw [same]
    exact .refl _
  · rw [hact]
    exact outcome.grows

theorem grows_run (gathering : Gathering) (schedule : List (Nat × Move)) :
    gathering.table.Grows (gathering.run schedule).table :=
  run_preserves (P := fun later => gathering.table.Grows later.table)
    (fun later number move grows => grows.trans (later.grows_act number move)) (.refl _) schedule

private theorem rules_act (gathering : Gathering) (number : Nat) (move : Move) :
    (gathering.act number move).members.map Participant.rules =
      gathering.members.map Participant.rules := by
  rcases gathering.act_cases number move with same | ⟨who, after, hwho, outcome, hact⟩
  · rw [same]
  · obtain ⟨hbound, hget⟩ := List.getElem?_eq_some_iff.mp hwho
    have hlength : number < (gathering.members.map Participant.rules).length := by
      simpa using hbound
    have hrules : who.rules = (gathering.members.map Participant.rules)[number] := by
      simp [hget]
    rw [hact, List.map_set, outcome.rules_eq, hrules]
    exact List.set_getElem_self hlength

theorem rules_run (gathering : Gathering) (schedule : List (Nat × Move)) :
    (gathering.run schedule).members.map Participant.rules =
      gathering.members.map Participant.rules :=
  run_preserves
    (P := fun later => later.members.map Participant.rules =
      gathering.members.map Participant.rules)
    (fun later number move same => (later.rules_act number move).trans same) rfl schedule

/-- All members agree with the table, and every entry of the table is one of `known` or comes from
the rules of a bound member. -/
structure Coherent (known : SharedTable) (gathering : Gathering) : Prop where
  agrees : ∀ who ∈ gathering.members, who.Agrees gathering.table
  origin : ∀ kind entry, gathering.table.get? kind = some entry →
    known.get? kind = some entry ∨
      ∃ who ∈ gathering.members, who.IsBound ∧ entry = applicable who.rules kind

theorem coherent_start (table : SharedTable) (rules : List (List Applicability)) :
    (start table rules).Coherent table where
  agrees who member := by
    simp only [start, List.mem_map] at member
    obtain ⟨own, -, rfl⟩ := member
    exact Participant.agrees_fresh table own
  origin _ _ held := .inl held

theorem Coherent.act {known : SharedTable} {gathering : Gathering}
    (coherent : gathering.Coherent known) (number : Nat) (move : Move) :
    (gathering.act number move).Coherent known := by
  rcases gathering.act_cases number move with same | ⟨who, after, hwho, outcome, hact⟩
  · rwa [same]
  have hmember := List.mem_of_getElem? hwho
  have hlength : number < gathering.members.length := (List.getElem?_eq_some_iff.mp hwho).1
  have hmoved : after.1 ∈ gathering.members.set number after.1 :=
    List.mem_set hlength after.1
  rw [hact]
  constructor
  · intro other member
    rcases List.mem_or_eq_of_mem_set member with old | rfl
    · exact (coherent.agrees other old).grows outcome.grows
    · exact outcome.agrees (coherent.agrees who hmember)
  · intro kind entry held
    rcases outcome.origin (coherent.agrees who hmember) held with old | ⟨bound, rule⟩
    · rcases coherent.origin kind entry old with initial | ⟨other, hother, bound, rule⟩
      · exact .inl initial
      -- the member that moved is still bound, and to the same rules
      · obtain ⟨place, hplace⟩ := List.getElem?_of_mem hother
        by_cases moved : number = place
        · subst moved
          obtain rfl : who = other := Option.some.inj (hwho.symm.trans hplace)
          refine .inr ⟨after.1, hmoved, outcome.isBound bound, ?_⟩
          rw [outcome.rules_eq, rule]
        · refine .inr ⟨other, ?_, bound, rule⟩
          apply List.mem_of_getElem? (i := place)
          rw [List.getElem?_set_ne moved, hplace]
    · exact .inr ⟨after.1, hmoved, bound, rule⟩

theorem Coherent.run {known : SharedTable} {gathering : Gathering}
    (coherent : gathering.Coherent known) (schedule : List (Nat × Move)) :
    (gathering.run schedule).Coherent known :=
  run_preserves (fun _ number move holds => holds.act number move) coherent schedule

private theorem Coherent.remembered {known : SharedTable} {gathering : Gathering}
    (coherent : gathering.Coherent known) {who : Participant} (member : who ∈ gathering.members)
    {kind : Kind} {entry : List Nat} (found : who.dispatch.remembered? kind = some entry) :
    gathering.table.get? kind = some entry :=
  (coherent.agrees who member).remembered kind entry found

theorem Coherent.answered {known : SharedTable} {gathering : Gathering}
    (coherent : gathering.Coherent known) {who : Participant} (member : who ∈ gathering.members)
    {kind : Kind} {entry : List Nat} (given : (kind, entry) ∈ who.answers) :
    gathering.table.get? kind = some entry :=
  coherent.remembered member ((coherent.agrees who member).answered kind entry given)

/--
Whatever the schedule has done so far and whatever it does next: the table only grows; every member
remembers and has answered what the table holds, so no two members differ on a kind; and if the
members that are bound share one rule list, every entry is the one a naive dispatcher over it gives.
-/
theorem table_entries_agree (rules : List (List Applicability))
    (before after : List (Nat × Move)) :
    let gathering := (start .empty rules).run before
    gathering.table.Grows (gathering.run after).table ∧
      (∀ who ∈ gathering.members, ∀ kind entry,
        who.dispatch.remembered? kind = some entry ∨ (kind, entry) ∈ who.answers →
          gathering.table.get? kind = some entry) ∧
      (∀ who ∈ gathering.members, ∀ other ∈ gathering.members, ∀ kind entry entry',
        who.dispatch.remembered? kind = some entry →
          other.dispatch.remembered? kind = some entry' → entry = entry') ∧
      (∀ common, (∀ who ∈ gathering.members, who.IsBound → who.rules = common) →
        ∀ kind entry,
          (gathering.table.get? kind = some entry ∨
            ∃ who ∈ gathering.members, who.dispatch.remembered? kind = some entry) →
          entry = (Dispatch.resolve (NaiveDispatch.ofRules common) kind).1 ∧
            entry = (common.zipIdx.filter fun place => place.1.appliesTo kind).map (·.2)) := by
  intro gathering
  have coherent : gathering.Coherent .empty := (coherent_start .empty rules).run before
  refine ⟨gathering.grows_run after, ?_, ?_, ?_⟩
  · rintro who member kind entry (found | given)
    · exact coherent.remembered member found
    · exact coherent.answered member given
  · intro who member other member' kind entry entry' found found'
    have held := coherent.remembered member found
    have held' := coherent.remembered member' found'
    exact Option.some.inj (held.symm.trans held')
  · intro common same kind entry source
    have held : gathering.table.get? kind = some entry := by
      rcases source with held | ⟨who, member, found⟩
      · exact held
      · exact coherent.remembered member found
    have rule : entry = applicable common kind := by
      rcases coherent.origin kind entry held with initial | ⟨who, member, bound, rule⟩
      · simp [SharedTable.get?, SharedTable.empty] at initial
      · rw [rule, same who member bound]
    exact ⟨rule, rule.trans (applicable_eq_filter common kind)⟩

/-- Two members ask for one kind before either has stored its entry. -/
def race : List (Nat × Move) :=
  [(0, .bind), (1, .bind), (0, .lookUp .struct), (1, .lookUp .struct), (0, .ask), (1, .ask),
    (1, .store), (0, .store)]

theorem table_entries_agree_race :
    let gathering := (start .empty [[.any], [.any]]).run race
    (∀ who ∈ gathering.members, who.IsBound → who.rules = [.any]) ∧
      gathering.table.get? .struct = some [0] ∧
      [0] = (Dispatch.resolve (NaiveDispatch.ofRules [.any]) .struct).1 := by
  intro gathering
  have same : ∀ who ∈ gathering.members, who.IsBound → who.rules = [.any] := by
    intro who member _
    have hrules : gathering.members.map Participant.rules = [[.any], [.any]] :=
      rules_run (start .empty [[.any], [.any]]) race
    have hown := List.mem_map_of_mem (f := Participant.rules) member
    rw [hrules] at hown
    simpa using hown
  have held : gathering.table.get? .struct = some [0] := by decide
  exact ⟨same, held,
    ((table_entries_agree [[.any], [.any]] race []).2.2.2 [.any] same .struct [0] (.inl held)).1⟩

-- with different rules the first to store decides, and the other forgets its own entry
example :
    ((start .empty [[.any], [.ofKind .call]]).run race).members.map
      (fun who => who.dispatch.remembered? .struct) = [some [], some []] := by
  decide

end Gathering

end KindDispatch
