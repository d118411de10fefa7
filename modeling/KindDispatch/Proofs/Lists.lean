import Mathlib.Algebra.Ring.Nat

/-!
# Lists

Facts about lists that the library does not have in this form.
-/

namespace KindDispatch

variable {A B : Type}

theorem append_eq_append_cons {early late before after : List A} {middle : A}
    (split : early ++ late = before ++ middle :: after) :
    (∃ rest, early = before ++ middle :: rest) ∨
      ∃ rest, before = early ++ rest ∧ late = rest ++ middle :: after := by
  rcases List.append_eq_append_iff.mp split with ⟨rest, hbefore, hlate⟩ | ⟨rest, hearly, hrest⟩
  · exact .inr ⟨rest, hbefore, hlate⟩
  · cases rest with
    | nil => exact .inr ⟨[], by simpa using hearly.symm, by simpa using hrest.symm⟩
    | cons first rest =>
        obtain ⟨rfl, -⟩ := List.cons.inj hrest
        exact .inl ⟨rest, hearly⟩

theorem map_eq_append_cons {list : List A} {change : A → B} {before after : List B} {middle : B}
    (split : list.map change = before ++ middle :: after) :
    ∃ early first late, list = early ++ first :: late ∧ early.map change = before ∧
      change first = middle := by
  obtain ⟨early, rest, rfl, hbefore, hrest⟩ := List.map_eq_append_iff.mp split
  obtain ⟨first, late, rfl, hfirst, -⟩ := List.map_eq_cons_iff.mp hrest
  exact ⟨early, first, late, rfl, hbefore, hfirst⟩

theorem sum_map_set {list : List A} {number : Nat} {old : A} (present : list[number]? = some old)
    (new : A) (f : A → Nat) :
    ((list.set number new).map f).sum + f old = (list.map f).sum + f new := by
  induction list generalizing number with
  | nil => simp at present
  | cons first rest ih =>
      cases number with
      | zero =>
          obtain rfl : first = old := by simpa using present
          simp only [List.set_cons_zero, List.map_cons, List.sum_cons]
          omega
      | succ number =>
          have hrest := ih (by simpa using present)
          simp only [List.set_cons_succ, List.map_cons, List.sum_cons]
          omega

theorem sum_range_update {f g : Nat → Nat} {number count : Nat} (inRange : number < count)
    (same : ∀ other, other ≠ number → g other = f other) :
    ((List.range count).map g).sum + f number = ((List.range count).map f).sum + g number := by
  induction count with
  | zero => omega
  | succ count ih =>
      simp only [List.range_succ, List.map_append, List.sum_append, List.map_cons, List.map_nil,
        List.sum_cons, List.sum_nil]
      by_cases last : number = count
      · subst last
        have earlier : (List.range number).map g = (List.range number).map f := by
          refine List.map_congr_left fun other member => same other ?_
          exact Nat.ne_of_lt (List.mem_range.mp member)
        rw [earlier]
        omega
      · have hrest := ih (by omega)
        have hlast := same count (Ne.symm last)
        omega

end KindDispatch
