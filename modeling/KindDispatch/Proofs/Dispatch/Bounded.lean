import KindDispatch.Proofs.Dispatch.Counters

/-!
# Answers in range

A traverser indexes its visitors with the answers of its dispatcher, and on a shared table these may
come from the rules of somebody else.  They are in range all the same: a dispatcher's own answers
name its own rules, and a table only admits dispatchers with one number of rules.
`BoundedDispatch` collects what has to hold of a dispatcher, `Gathering.ascending_answers` says it of
dispatchers whose lookups on one table interrupt each other.
-/

namespace KindDispatch

/-- Places of visitors in registration order, of which there are `count`. -/
structure Ascending (count : Nat) (indices : List Nat) : Prop where
  increasing : indices.Pairwise (· < ·)
  below : ∀ index ∈ indices, index < count

private theorem pairwise_applicableFrom (kind : Kind) (start : Nat) (rules : List Applicability) :
    (applicableFrom kind start rules).Pairwise (· < ·) := by
  induction rules generalizing start with
  | nil => exact .nil
  | cons rule rules ih =>
      unfold applicableFrom
      split
      · refine .cons (fun index later => ?_) (ih (start + 1))
        have := (mem_applicableFrom.mp later).1
        omega
      · exact ih (start + 1)

theorem ascending_applicable (rules : List Applicability) (kind : Kind) :
    Ascending rules.length (applicable rules kind) := by
  refine ⟨pairwise_applicableFrom kind 0 rules, fun index member => ?_⟩
  obtain ⟨rule, present, -⟩ := mem_applicable.mp member
  exact (List.getElem?_eq_some_iff.mp present).1

class BoundedDispatch (D : Type) [Dispatch D] where
  Bounded : Nat → D → Prop
  ascending {count : Nat} {dispatch : D} (bounded : Bounded count dispatch) (kind : Kind) :
    Ascending count (Dispatch.resolve dispatch kind).1
  bounded_resolve {count : Nat} {dispatch : D} (bounded : Bounded count dispatch) (kind : Kind) :
    Bounded count (Dispatch.resolve dispatch kind).2

theorem BoundedDispatch.lookUps {D : Type} [Dispatch D] [BoundedDispatch D] {count : Nat}
    {dispatch : D} (bounded : Bounded count dispatch) (kinds : List Kind) :
    (∀ indices ∈ (Dispatch.lookUps dispatch kinds).1, Ascending count indices) ∧
      Bounded count (Dispatch.lookUps dispatch kinds).2 := by
  induction kinds generalizing dispatch with
  | nil => exact ⟨by simp, bounded⟩
  | cons kind rest ih =>
      obtain ⟨later, after⟩ := ih (bounded_resolve bounded kind)
      rw [Dispatch.lookUps_cons]
      exact ⟨List.forall_mem_cons.mpr ⟨ascending bounded kind, later⟩, after⟩

/-! ## The three dispatchers -/

def Memo.Bounded (count : Nat) (memo : Memo) : Prop :=
  ∀ kind entry, memo.get? kind = some entry → Ascending count entry

theorem Memo.bounded_empty (count : Nat) : empty.Bounded count := by
  intro kind entry known
  simp at known

theorem Memo.Bounded.insert {count : Nat} {memo : Memo} (bounded : memo.Bounded count) (kind : Kind)
    {entry : List Nat} (ascending : Ascending count entry) :
    (memo.insert kind entry).Bounded count := by
  intro wanted found known
  rw [get?_insert] at known
  split at known
  · exact Option.some.inj known ▸ ascending
  · exact bounded wanted found known

instance : BoundedDispatch NaiveDispatch where
  Bounded count dispatch := dispatch.rules.length = count
  ascending := by
    rintro _ dispatch rfl kind
    exact ascending_applicable dispatch.rules kind
  bounded_resolve bounded _ := bounded

/-- Entries from elsewhere are no worse than its own. -/
structure CachedDispatch.Bounded (count : Nat) (dispatch : CachedDispatch) : Prop where
  rules : dispatch.rules.length = count
  memo : dispatch.memo.Bounded count

namespace CachedDispatch

variable {count : Nat} {dispatch : CachedDispatch}

theorem bounded_ofRules (rules : List Applicability) : (ofRules rules).Bounded rules.length :=
  ⟨rfl, Memo.bounded_empty _⟩

theorem Bounded.own (bounded : dispatch.Bounded count) (kind : Kind) :
    Ascending count (applicable dispatch.rules kind) :=
  bounded.rules ▸ ascending_applicable dispatch.rules kind

instance : BoundedDispatch CachedDispatch where
  Bounded := CachedDispatch.Bounded
  ascending := by
    intro count dispatch bounded kind
    change Ascending count (dispatch.resolve kind).1
    cases hmemo : dispatch.memo.get? kind with
    | some entry =>
        rw [resolve_of_remembered hmemo]
        exact bounded.memo kind entry hmemo
    | none =>
        rw [resolve_of_new hmemo]
        exact bounded.own kind
  bounded_resolve := by
    intro count dispatch bounded kind
    change (dispatch.resolve kind).2.Bounded count
    cases hmemo : dispatch.memo.get? kind with
    | some entry =>
        rw [resolve_of_remembered hmemo]
        exact ⟨by simpa using bounded.rules, by simpa using bounded.memo⟩
    | none =>
        rw [resolve_of_new hmemo]
        exact ⟨by simpa using bounded.rules, by
          simpa using bounded.memo.insert kind (bounded.own kind)⟩

end CachedDispatch

structure SharedDispatch.Bounded (count : Nat) (dispatch : SharedDispatch) : Prop where
  cached : dispatch.cached.Bounded count
  table : dispatch.table.memo.Bounded count

namespace SharedDispatch

instance : BoundedDispatch SharedDispatch where
  Bounded := SharedDispatch.Bounded
  ascending := by
    intro count dispatch bounded kind
    change Ascending count (dispatch.resolve kind).1
    cases hmemo : dispatch.cached.memo.get? kind with
    | some entry =>
        rw [resolve_of_remembered hmemo]
        exact bounded.cached.memo kind entry hmemo
    | none =>
        cases htable : dispatch.table.get? kind with
        | some entry =>
            rw [resolve_of_shared hmemo htable]
            exact bounded.table kind entry htable
        | none =>
            rw [resolve_of_new hmemo htable]
            exact bounded.cached.own kind
  bounded_resolve := by
    intro count dispatch bounded kind
    change (dispatch.resolve kind).2.Bounded count
    have rules := bounded.cached.rules
    have memo := bounded.cached.memo
    cases hmemo : dispatch.cached.memo.get? kind with
    | some entry =>
        rw [resolve_of_remembered hmemo]
        exact ⟨⟨by simpa using rules, by simpa using memo⟩, bounded.table⟩
    | none =>
        cases htable : dispatch.table.get? kind with
        | some entry =>
            have found := memo.insert kind (bounded.table kind entry htable)
            rw [resolve_of_shared hmemo htable]
            exact ⟨⟨by simpa using rules, by simpa using found⟩, bounded.table⟩
        | none =>
            have own := bounded.cached.own kind
            have evaluated := memo.insert kind own
            rw [resolve_of_new hmemo htable, SharedTable.insert_of_absent htable]
            exact ⟨⟨by simpa using rules, by simpa using evaluated⟩, bounded.table.insert kind own⟩

end SharedDispatch

/-! ## Lookups in the middle of each other -/

namespace Participant

theorem visitorCount_act (who : Participant) (move : Move) {table : SharedTable} {count : Nat}
    (bound : table.visitorCount = some count) :
    (who.act move table).2.visitorCount = some count := by
  cases move with
  | bind =>
      cases hphase : who.phase with
      | outside =>
          simp only [act, hphase]
          cases hbind : table.bind who.dispatch.rules.length with
          | error cause => exact bound
          | ok after =>
              rw [SharedTable.bind, bound] at hbind
              dsimp only at hbind
              split at hbind
              · exact Except.ok.inj hbind ▸ bound
              · contradiction
      | _ => simpa only [act, hphase] using bound
  | lookUp kind =>
      cases hphase : who.phase with
      | idle =>
          simp only [act, hphase]
          split <;> exact bound
      | _ => simpa only [act, hphase] using bound
  | ask =>
      cases hphase : who.phase with
      | asking kind =>
          simp only [act, hphase]
          split <;> exact bound
      | _ => simpa only [act, hphase] using bound
  | store =>
      cases hphase : who.phase with
      | storing kind own =>
          rw [act_store hphase]
          exact (SharedTable.visitorCount_insert table kind own).trans bound
      | _ => simpa only [act, hphase] using bound

private theorem isBound_act (who : Participant) (move : Move) (table : SharedTable)
    (now : (who.act move table).1.IsBound) :
    who.IsBound ∨ (who.act move table).2.visitorCount = some who.rules.length := by
  by_cases before : who.IsBound
  · exact .inl before
  · have outside : who.phase = .outside := by simpa [IsBound] using before
    cases move with
    | bind =>
        simp only [act, outside] at now ⊢
        cases hbind : table.bind who.dispatch.rules.length with
        | error cause =>
            simp only [hbind] at now
            exact .inl now
        | ok after => exact .inr (SharedTable.visitorCount_bind hbind)
    | _ =>
        simp only [act, outside] at now
        exact .inl now

private theorem answers_act_of_outside {who : Participant} (move : Move) (table : SharedTable)
    (later : ¬(who.act move table).1.IsBound) :
    (who.act move table).1.answers = who.answers := by
  have outcome := who.outcome_act move table
  have outside : who.phase = .outside := by
    simpa [IsBound] using mt outcome.isBound later
  generalize who.act move table = after at outcome
  cases outcome with
  | nothing | bound => rfl
  | hit kind entry idle => simp [outside] at idle
  | missed => rfl
  | found kind entry asking => simp [outside] at asking
  | computed => rfl
  | stored kind own storing => simp [outside] at storing

end Participant

namespace Gathering

theorem visitorCount_run {gathering : Gathering} (schedule : List (Nat × Move)) {count : Nat}
    (bound : gathering.table.visitorCount = some count) :
    (gathering.run schedule).table.visitorCount = some count := by
  refine run_preserves (P := fun later => later.table.visitorCount = some count)
    (fun later number move bound => ?_) bound schedule
  unfold Gathering.act
  cases later.members[number]? with
  | none => exact bound
  | some who => exact who.visitorCount_act move bound

/-- The members that are bound have as many rules as the table is bound to, and the others have
asked for nothing. -/
def Admitted (gathering : Gathering) : Prop :=
  ∀ who ∈ gathering.members,
    (who.IsBound → gathering.table.visitorCount = some who.rules.length) ∧
      (¬who.IsBound → who.answers = [])

private theorem admitted_start (table : SharedTable) (rules : List (List Applicability)) :
    (start table rules).Admitted := by
  intro who member
  obtain ⟨own, -, rfl⟩ := List.mem_map.mp member
  exact ⟨fun bound => absurd rfl bound, fun _ => rfl⟩

theorem Admitted.act {gathering : Gathering} (admitted : gathering.Admitted) (number : Nat)
    (move : Move) : (gathering.act number move).Admitted := by
  unfold Gathering.act
  cases hwho : gathering.members[number]? with
  | none => exact admitted
  | some who =>
      obtain ⟨before, fresh⟩ := admitted who (List.mem_of_getElem? hwho)
      intro other member
      rcases List.mem_or_eq_of_mem_set member with old | rfl
      · obtain ⟨bound, none⟩ := admitted other old
        exact ⟨fun h => who.visitorCount_act move (bound h), none⟩
      · refine ⟨fun now => ?_, fun later => ?_⟩
        · rw [(who.outcome_act move gathering.table).rules_eq]
          rcases who.isBound_act move gathering.table now with earlier | admitted
          · exact who.visitorCount_act move (before earlier)
          · exact admitted
        · rw [Participant.answers_act_of_outside move _ later]
          exact fresh (mt (who.outcome_act move gathering.table).isBound later)

/-- Whoever has stored an entry first, it is in range for all who get it as an answer. -/
theorem ascending_answers (rules : List (List Applicability)) (schedule : List (Nat × Move)) :
    ∀ who ∈ ((start .empty rules).run schedule).members, ∀ answer ∈ who.answers,
      Ascending who.rules.length answer.2 := by
  intro who member answer given
  have coherent := (coherent_start .empty rules).run schedule
  have admitted : ((start .empty rules).run schedule).Admitted :=
    run_preserves (fun _ number move holds => holds.act number move)
      (admitted_start .empty rules) schedule
  obtain ⟨bound, fresh⟩ := admitted who member
  have count : ((start .empty rules).run schedule).table.visitorCount =
      some who.rules.length := by
    refine bound fun outside => ?_
    rw [fresh (fun isBound => isBound outside)] at given
    simp at given
  -- the answer is in the table, where a member has put it that may have other rules, but as many
  have held := coherent.answered member given
  rcases coherent.origin _ _ held with initial | ⟨other, member', bound', rule⟩
  · simp [SharedTable.get?, SharedTable.empty] at initial
  · have same := count.symm.trans ((admitted other member').1 bound')
    rw [rule, Option.some.inj same]
    exact ascending_applicable other.rules answer.1

end Gathering

end KindDispatch
