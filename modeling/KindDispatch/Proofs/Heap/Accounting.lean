import KindDispatch.Heap
import Mathlib.Algebra.Ring.Nat
import Mathlib.Data.List.Infix
import Mathlib.Data.List.Nodup
import Mathlib.Order.Bounds.Basic

/-!
# Exact accounting

A meter sees sizes only, so it can be right only if the calls are: whoever resizes or releases a
block names one that is live with the size it has, and the system hands out no block that is live.
In such a history (`Lawful`) the bytes in use are those of the live blocks, the peak is the most
there have been since the last reset, and neither counter ever wraps around.

The step lemma is `Exact.perform`.  What a call adds to the counter and takes from it is what it
adds to the live blocks and takes from them (`liveBytes_perform`), whatever the call is.
-/

namespace KindDispatch

/-! ## Counters -/

namespace HeapChange

def Fits (meter : HeapMeter) : HeapChange → Prop
  | grow bytes => meter.current.toNat + bytes.toNat < 2 ^ 64
  | shrink bytes => bytes ≤ meter.current
  | resetPeak | keep => True

def gained : HeapChange → Nat
  | grow bytes => bytes.toNat
  | shrink _ | resetPeak | keep => 0

def lost : HeapChange → Nat
  | shrink bytes => bytes.toNat
  | grow _ | resetPeak | keep => 0

private theorem fits_of_balance {meter : HeapMeter} {change : HeapChange} {before after : Nat}
    (current : meter.current.toNat = before) (balance : after + change.lost = before + change.gained)
    (small : after < 2 ^ 64) : change.Fits meter := by
  cases change with
  | grow bytes =>
      simp only [gained, lost] at balance
      simp only [Fits]
      omega
  | shrink bytes =>
      simp only [gained, lost] at balance
      rw [Fits, UInt64.le_iff_toNat_le]
      omega
  | resetPeak => trivial
  | keep => trivial

end HeapChange

namespace HeapMeter

variable {meter : HeapMeter} {change : HeapChange}

private theorem current_update (fits : change.Fits meter) :
    (meter.update change).current.toNat + change.lost = meter.current.toNat + change.gained := by
  cases change with
  | grow bytes =>
      simp only [update, HeapChange.lost, HeapChange.gained, UInt64.toNat_add]
      rw [Nat.mod_eq_of_lt fits, Nat.add_zero]
  | shrink bytes =>
      have enough := UInt64.le_iff_toNat_le.mp fits
      simp only [update, HeapChange.lost, HeapChange.gained]
      rw [UInt64.toNat_sub_of_le _ _ fits]
      omega
  | resetPeak => rfl
  | keep => rfl

private theorem toNat_max (bytes other : UInt64) :
    (max bytes other).toNat = max bytes.toNat other.toNat := by
  rw [show max bytes other = if bytes ≤ other then other else bytes from rfl, Nat.max_def]
  split <;> simp_all [UInt64.le_iff_toNat_le]

private theorem peak_update (fits : change.Fits meter) (le : meter.current.toNat ≤ meter.peak.toNat)
    (other : change ≠ .resetPeak) :
    (meter.update change).peak.toNat =
      max (meter.update change).current.toNat meter.peak.toNat := by
  have current := current_update fits
  cases change with
  | grow bytes => rw [Nat.max_comm, ← toNat_max]; rfl
  | shrink bytes =>
      have less : (meter.update (.shrink bytes)).current.toNat ≤ meter.current.toNat := by
        simp only [HeapChange.gained] at current
        omega
      exact (Nat.max_eq_right (less.trans le)).symm
  | resetPeak => contradiction
  | keep => exact (Nat.max_eq_right le).symm

private theorem current_le_peak_update (fits : change.Fits meter)
    (le : meter.current.toNat ≤ meter.peak.toNat) :
    (meter.update change).current.toNat ≤ (meter.update change).peak.toNat := by
  by_cases reset : change = .resetPeak
  · subst reset
    exact Nat.le_refl _
  · rw [peak_update fits le reset]
    exact Nat.le_max_left _ _

end HeapMeter

namespace Heap

/-! ## Live blocks -/

def liveBytes (heap : Heap) : Nat := (heap.blocks.map fun block => block.2.toNat).sum

def Distinct (heap : Heap) : Prop := (heap.blocks.map Prod.fst).Nodup

variable {heap : Heap} {call : HeapCall} {block : Nat} {size : UInt64}

theorem size?_eq_none_iff : heap.size? block = none ↔ block ∉ heap.blocks.map Prod.fst := by
  simp only [size?, List.lookup_eq_none_iff, bne_iff_ne, List.mem_map, not_exists, not_and]
  exact forall₂_congr fun entry member => ne_comm

private theorem filter_of_absent {entries : List (Nat × UInt64)}
    (absent : block ∉ entries.map Prod.fst) : entries.filter (·.1 != block) = entries := by
  refine List.filter_eq_self.mpr fun entry member => bne_iff_ne.mpr ?_
  rintro rfl
  exact absent (List.mem_map_of_mem member)

private theorem notMem_without (heap : Heap) (block : Nat) :
    block ∉ (heap.without block).map Prod.fst := by
  simp [without]

private theorem sublist_without (heap : Heap) (block : Nat) :
    ((heap.without block).map Prod.fst).Sublist (heap.blocks.map Prod.fst) :=
  List.filter_sublist.map _

/-- A live block is listed once, so taking it out takes out its bytes and no others. -/
theorem liveBytes_of_live (distinct : heap.Distinct) (live : heap.size? block = some size) :
    heap.liveBytes = ((heap.without block).map fun block => block.2.toNat).sum + size.toNat := by
  obtain ⟨before, after, split, -⟩ := List.lookup_eq_some_iff.mp live
  rw [Distinct, split, List.map_append, List.map_cons, List.nodup_middle] at distinct
  have absent := (List.nodup_cons.mp distinct).1
  rw [List.mem_append, not_or] at absent
  have left : heap.without block = before ++ after := by
    rw [without, split, List.filter_append, List.filter_cons_of_neg (by simp),
      filter_of_absent absent.1, filter_of_absent absent.2]
  rw [liveBytes, left, split]
  simp only [List.map_append, List.map_cons, List.sum_append, List.sum_cons]
  omega

/-! ## Histories -/

/-- What is promised of a call: the caller names live blocks with the size they have, and the system
hands out no block that is live, unless it is the one that is resized. -/
def Admits (heap : Heap) : HeapCall → Prop
  | .allocate _ answer => ∀ block ∈ answer, heap.size? block = none
  | .resize block old _ answer =>
    heap.size? block = some old ∧ ∀ moved ∈ answer, moved = block ∨ heap.size? moved = none
  | .release block size => heap.size? block = some size
  | .resetPeak => True

/-- Every call keeps the promises at its time, and the live blocks never have more bytes than can be
counted. -/
def Lawful : Heap → List HeapCall → Prop
  | _, [] => True
  | heap, call :: rest =>
    heap.Admits call ∧ (heap.perform call).liveBytes < 2 ^ 64 ∧ (heap.perform call).Lawful rest

instance (heap : Heap) : (call : HeapCall) → Decidable (heap.Admits call)
  | .allocate _ answer => inferInstanceAs (Decidable (∀ block ∈ answer, _))
  | .resize block old _ answer =>
    inferInstanceAs (Decidable (heap.size? block = some old ∧ ∀ moved ∈ answer, _))
  | .release block size => inferInstanceAs (Decidable (heap.size? block = some size))
  | .resetPeak => instDecidableTrue

instance decidableLawful : (heap : Heap) → (calls : List HeapCall) → Decidable (heap.Lawful calls)
  | _, [] => instDecidableTrue
  | heap, call :: rest =>
    have := decidableLawful (heap.perform call) rest
    inferInstanceAs (Decidable (heap.Admits call ∧ _ ∧ _))

private theorem resize_balance (block : Nat) (old new : UInt64) (moved : Nat) :
    new.toNat + (HeapCall.resize block old new (some moved)).change.lost =
      old.toNat + (HeapCall.resize block old new (some moved)).change.gained := by
  simp only [HeapCall.change]
  split
  case isTrue le =>
    have less := UInt64.le_iff_toNat_le.mp le
    simp only [HeapChange.lost, HeapChange.gained, UInt64.toNat_sub_of_le _ _ le]
    omega
  case isFalse notLe =>
    have less : new.toNat < old.toNat := by
      rw [UInt64.le_iff_toNat_le] at notLe
      omega
    have le : new ≤ old := UInt64.le_iff_toNat_le.mpr less.le
    simp only [HeapChange.lost, HeapChange.gained, UInt64.toNat_sub_of_le _ _ le]
    omega

theorem liveBytes_perform (distinct : heap.Distinct) (admits : heap.Admits call) :
    (heap.perform call).liveBytes + call.change.lost = heap.liveBytes + call.change.gained := by
  cases call with
  | allocate size answer =>
      cases answer with
      | none => rfl
      | some block =>
          have left : heap.without block = heap.blocks :=
            filter_of_absent (size?_eq_none_iff.mp (admits block rfl))
          simp only [perform, blocksAfter, left, liveBytes, List.map_cons, List.sum_cons,
            HeapCall.change, HeapChange.lost, HeapChange.gained]
          omega
  | resize block old new answer =>
      cases answer with
      | none => rfl
      | some moved =>
          have before := liveBytes_of_live distinct admits.1
          have balance := resize_balance block old new moved
          simp only [perform, blocksAfter, liveBytes, List.map_cons, List.sum_cons] at before ⊢
          omega
  | release block size => exact (liveBytes_of_live distinct admits).symm
  | resetPeak => rfl

theorem Distinct.perform (distinct : heap.Distinct) (admits : heap.Admits call) :
    (heap.perform call).Distinct := by
  have others (block : Nat) := distinct.sublist (heap.sublist_without block)
  cases call with
  | allocate size answer =>
      cases answer with
      | none => exact distinct
      | some block => exact List.nodup_cons.mpr ⟨heap.notMem_without block, others block⟩
  | resize block old new answer =>
      cases answer with
      | none => exact distinct
      | some moved =>
          refine List.nodup_cons.mpr ⟨?_, others block⟩
          rcases admits.2 moved rfl with rfl | absent
          · exact heap.notMem_without moved
          · exact fun present =>
              size?_eq_none_iff.mp absent ((heap.sublist_without block).subset present)
  | release block size => exact others block
  | resetPeak => exact distinct

/-- What a meter keeps true of the blocks it accounts for. -/
structure Exact (heap : Heap) : Prop where
  distinct : heap.Distinct
  current : heap.meter.current.toNat = heap.liveBytes
  current_le_peak : heap.meter.current.toNat ≤ heap.meter.peak.toNat

theorem exact_empty : empty.Exact := ⟨List.nodup_nil, rfl, Nat.le_refl _⟩

namespace Exact

theorem fits (exact : heap.Exact) (admits : heap.Admits call)
    (small : (heap.perform call).liveBytes < 2 ^ 64) : call.change.Fits heap.meter :=
  HeapChange.fits_of_balance exact.current (liveBytes_perform exact.distinct admits) small

theorem perform (exact : heap.Exact) (admits : heap.Admits call)
    (small : (heap.perform call).liveBytes < 2 ^ 64) : (heap.perform call).Exact := by
  have fits := exact.fits admits small
  refine ⟨exact.distinct.perform admits, ?_,
    HeapMeter.current_le_peak_update fits exact.current_le_peak⟩
  have counted := HeapMeter.current_update fits
  have live := liveBytes_perform exact.distinct admits
  have before := exact.current
  change (heap.meter.update call.change).current.toNat = _
  omega

end Exact

/-! ## Whole histories -/

variable {calls : List HeapCall}

theorem performAll_append (heap : Heap) (calls others : List HeapCall) :
    heap.performAll (calls ++ others) = (heap.performAll calls).performAll others :=
  List.foldl_append

private theorem lawful_append {others : List HeapCall} :
    heap.Lawful (calls ++ others) ↔ heap.Lawful calls ∧ (heap.performAll calls).Lawful others := by
  induction calls generalizing heap with
  | nil => exact (and_iff_right trivial).symm
  | cons call calls ih => simp only [List.cons_append, Lawful, ih, and_assoc]; rfl

theorem Exact.performAll (exact : heap.Exact) (lawful : heap.Lawful calls) :
    (heap.performAll calls).Exact := by
  induction calls generalizing heap with
  | nil => exact exact
  | cons call calls ih => exact ih (exact.perform lawful.1 lawful.2.1) lawful.2.2

theorem Exact.fits_next (exact : heap.Exact) {before after : List HeapCall}
    (lawful : heap.Lawful (before ++ call :: after)) :
    call.change.Fits (heap.performAll before).meter := by
  obtain ⟨earlier, admits, small, -⟩ := lawful_append.mp lawful
  exact (exact.performAll earlier).fits admits small

/-- The bytes in use after each part of a history, the empty one included. -/
def usages (heap : Heap) (calls : List HeapCall) : Set Nat :=
  {bytes | ∃ reached, reached <+: calls ∧
    bytes = (heap.performAll reached).meter.current.toNat}

private theorem usages_concat (heap : Heap) (calls : List HeapCall) (call : HeapCall) :
    heap.usages (calls ++ [call]) =
      insert (heap.performAll (calls ++ [call])).meter.current.toNat (heap.usages calls) := by
  ext bytes
  simp only [usages, Set.mem_ofPred_eq, Set.mem_insert_iff, List.prefix_concat_iff]
  constructor
  · rintro ⟨reached, rfl | earlier, rfl⟩
    · exact .inl rfl
    · exact .inr ⟨reached, earlier, rfl⟩
  · rintro (rfl | ⟨reached, earlier, rfl⟩)
    · exact ⟨_, .inl rfl, rfl⟩
    · exact ⟨reached, .inr earlier, rfl⟩

private theorem change_eq_resetPeak : call.change = .resetPeak ↔ call = .resetPeak := by
  cases call with
  | allocate size answer => cases answer <;> simp [HeapCall.change]
  | resize block old new answer =>
      cases answer with
      | none => simp [HeapCall.change]
      | some moved =>
          simp only [HeapCall.change]
          split <;> simp
  | release block size => simp [HeapCall.change]
  | resetPeak => simp [HeapCall.change]

theorem Exact.peak_isGreatest (exact : heap.Exact) (level : heap.meter.peak = heap.meter.current)
    (lawful : heap.Lawful calls) (unreset : .resetPeak ∉ calls) :
    IsGreatest (heap.usages calls) (heap.performAll calls).meter.peak.toNat := by
  induction calls using List.reverseRecOn with
  | nil =>
      have single : heap.usages [] = {heap.meter.current.toNat} := by
        ext bytes
        simp [usages, Heap.performAll]
      rw [single, Heap.performAll, List.foldl_nil, level]
      exact isGreatest_singleton
  | append_singleton calls call ih =>
      obtain ⟨earlier, next⟩ := lawful_append.mp lawful
      have before := exact.performAll earlier
      have other : call.change ≠ .resetPeak := fun reset =>
        unreset (by simp [change_eq_resetPeak.mp reset])
      have peak := HeapMeter.peak_update (before.fits next.1 next.2.1) before.current_le_peak other
      have greatest := ih earlier fun member => unreset (List.mem_append_left _ member)
      rw [usages_concat, performAll_append]
      exact peak ▸ greatest.insert _

private theorem exists_since_reset (calls : List HeapCall) :
    ∃ before after, calls = before ++ after ∧
    (before = [] ∨ ∃ earlier, before = earlier ++ [.resetPeak]) ∧ .resetPeak ∉ after := by
  induction calls using List.reverseRecOn with
  | nil => exact ⟨[], [], rfl, .inl rfl, List.not_mem_nil⟩
  | append_singleton calls call ih =>
      by_cases reset : call = .resetPeak
      · subst reset
        exact ⟨calls ++ [.resetPeak], [], by simp, .inr ⟨calls, rfl⟩, List.not_mem_nil⟩
      · obtain ⟨before, after, rfl, start, unreset⟩ := ih
        refine ⟨before, after ++ [call], by simp, start, ?_⟩
        simp [unreset, Ne.symm reset]

theorem peak_of_reset {before : List HeapCall}
    (reset : before = [] ∨ ∃ earlier, before = earlier ++ [.resetPeak]) :
    (empty.performAll before).meter.peak = (empty.performAll before).meter.current := by
  rcases reset with rfl | ⟨earlier, rfl⟩
  · rfl
  · rw [performAll_append]
    rfl

end Heap

def HeapCall.IsRefused : HeapCall → Prop
  | allocate _ answer | resize _ _ _ answer => answer = none
  | release .. | resetPeak => False

namespace Heap

theorem perform_refused (heap : Heap) {call : HeapCall} (refused : call.IsRefused) :
    heap.perform call = heap := by
  cases call with
  | allocate size answer =>
      cases refused
      rfl
  | resize block old new answer =>
      cases refused
      rfl
  | release block size => exact refused.elim
  | resetPeak => exact refused.elim

/-- After every lawful history the bytes in use are those of the live blocks, and the peak is the
most there have been since the last reset, or since the meter was made.  On the way no counter
wraps around, and a call that is refused changes nothing. -/
theorem meter_accounts_for_blocks {calls : List HeapCall} (lawful : empty.Lawful calls) :
    (empty.performAll calls).meter.current.toNat = (empty.performAll calls).liveBytes ∧
      (∃ before after, calls = before ++ after ∧
        (before = [] ∨ ∃ earlier, before = earlier ++ [.resetPeak]) ∧ .resetPeak ∉ after ∧
        IsGreatest {bytes | ∃ reached, reached <+: after ∧
            bytes = (empty.performAll (before ++ reached)).meter.current.toNat}
          (empty.performAll calls).meter.peak.toNat) ∧
      (empty.performAll calls).meter.current ≤ (empty.performAll calls).meter.peak ∧
      ∀ before call after, calls = before ++ call :: after →
        call.change.Fits (empty.performAll before).meter ∧
          (call.IsRefused → empty.performAll (before ++ [call]) = empty.performAll before) := by
  have exact := exact_empty.performAll lawful
  refine ⟨exact.current, ?_, UInt64.le_iff_toNat_le.mpr exact.current_le_peak, ?_⟩
  · obtain ⟨before, after, rfl, reset, unreset⟩ := exists_since_reset calls
    obtain ⟨earlier, later⟩ := lawful_append.mp lawful
    refine ⟨before, after, rfl, reset, unreset, ?_⟩
    have greatest := (exact_empty.performAll earlier).peak_isGreatest (peak_of_reset reset) later
      unreset
    simpa only [usages, performAll_append] using greatest
  · rintro before call after rfl
    refine ⟨exact_empty.fits_next lawful, fun refused => ?_⟩
    rw [performAll_append]
    exact perform_refused _ refused

theorem meter_accounts_for_blocks_moved :
    let calls : List HeapCall := [.allocate 4096 (some 1), .allocate 4096 (some 2),
      .release 1 4096, .resetPeak, .resize 2 4096 5000 (some 1), .allocate 10000 none,
      .resize 1 5000 1024 (some 1)]
    empty.Lawful calls ∧ (empty.performAll calls).meter = ⟨1024, 5000⟩ ∧
      (empty.performAll calls).liveBytes = 1024 := by
  intro calls
  have lawful : empty.Lawful calls := by decide
  have accounts := (meter_accounts_for_blocks lawful).1
  exact ⟨lawful, rfl, accounts.symm.trans rfl⟩

end Heap

end KindDispatch
