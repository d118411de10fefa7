import KindDispatch.Proofs.Forest.Enumeration
import KindDispatch.Proofs.Registration.KindSets
import Mathlib.Algebra.Ring.Nat

/-!
# Histograms

A histogram is a table in the order of the kinds.  `countIn` counts one more of a kind in such a
table: it adds to the entry that is there, or puts a new one in its place.  Counting the nodes of a
forest one after the other makes its histogram (`Forest.histogram_eq_foldl`), and the numbers in it
add up to how often something was counted.
-/

namespace KindDispatch

def countIn : List (Kind × Nat) → Kind → List (Kind × Nat)
  | [], kind => [(kind, 1)]
  | (first, count) :: rest, kind =>
    if kind.ordinal < first.ordinal then (kind, 1) :: (first, count) :: rest
    else if kind = first then (first, count + 1) :: rest
    else (first, count) :: countIn rest kind

private theorem sum_countIn (table : List (Kind × Nat)) (kind : Kind) :
    ((countIn table kind).map Prod.snd).sum = (table.map Prod.snd).sum + 1 := by
  fun_induction countIn table kind with
  | case1 => rfl
  | case2 | case3 | case4 =>
      simp only [List.map_cons, List.sum_cons, *]
      omega

theorem sum_foldl_countIn (counted : List Kind) (table : List (Kind × Nat)) :
    ((counted.foldl countIn table).map Prod.snd).sum =
      (table.map Prod.snd).sum + counted.length := by
  induction counted generalizing table with
  | nil => rfl
  | cons kind rest ih =>
      rw [List.foldl_cons, ih, sum_countIn, List.length_cons]
      omega

/-! ## Tables -/

def countTable (kinds : List Kind) (counts : Kind → Nat) : List (Kind × Nat) :=
  (kinds.map fun kind => (kind, counts kind)).filter (·.2 ≠ 0)

def oneMore (counts : Kind → Nat) (kind : Kind) : Kind → Nat :=
  fun wanted => counts wanted + if kind == wanted then 1 else 0

private theorem oneMore_self (counts : Kind → Nat) (kind : Kind) :
    oneMore counts kind kind = counts kind + 1 := by
  simp [oneMore]

private theorem oneMore_of_ne (counts : Kind → Nat) {kind wanted : Kind}
    (different : kind ≠ wanted) : oneMore counts kind wanted = counts wanted := by
  simp [oneMore, different]

section Table

variable {kinds : List Kind} {counts counts' : Kind → Nat} {kind : Kind}

private theorem countTable_cons_of_zero (none : counts kind = 0) (rest : List Kind) :
    countTable (kind :: rest) counts = countTable rest counts := by
  simp [countTable, none]

private theorem countTable_cons_of_ne (some : counts kind ≠ 0) (rest : List Kind) :
    countTable (kind :: rest) counts = (kind, counts kind) :: countTable rest counts := by
  simp [countTable, some]

private theorem countTable_congr (same : ∀ kind ∈ kinds, counts kind = counts' kind) :
    countTable kinds counts = countTable kinds counts' := by
  rw [countTable, countTable, List.map_congr_left fun kind member => by rw [same kind member]]

theorem mem_countTable {count : Nat} :
    (kind, count) ∈ countTable kinds counts ↔ kind ∈ kinds ∧ count = counts kind ∧ count ≠ 0 := by
  simp only [countTable, List.mem_filter, List.mem_map, Prod.mk.injEq, decide_eq_true_eq]
  constructor
  · rintro ⟨⟨_, member, rfl, rfl⟩, some⟩
    exact ⟨member, rfl, some⟩
  · rintro ⟨member, rfl, some⟩
    exact ⟨⟨kind, member, rfl, rfl⟩, some⟩

theorem pairwise_countTable (ascending : kinds.Pairwise (·.ordinal < ·.ordinal))
    (counts : Kind → Nat) :
    ((countTable kinds counts).map Prod.fst).Pairwise (·.ordinal < ·.ordinal) :=
  List.pairwise_map.mpr (.filter _ (List.pairwise_map.mpr ascending))

private theorem countIn_of_lt {table : List (Kind × Nat)}
    (later : ∀ entry ∈ table, kind.ordinal < entry.1.ordinal) :
    countIn table kind = (kind, 1) :: table := by
  cases table with
  | nil => rfl
  | cons entry rest => exact if_pos (later entry List.mem_cons_self)

theorem countIn_countTable (ascending : kinds.Pairwise (·.ordinal < ·.ordinal))
    (member : kind ∈ kinds) :
    countIn (countTable kinds counts) kind = countTable kinds (oneMore counts kind) := by
  induction kinds with
  | nil => contradiction
  | cons first rest ih =>
      obtain ⟨below, ascending⟩ := List.pairwise_cons.mp ascending
      by_cases here : kind = first
      · subst here
        -- a kind is listed once, so only the entry here changes; if there is none it goes in front
        have notLater : kind ∉ rest := fun later => Nat.lt_irrefl _ (below kind later)
        have kept : countTable rest (oneMore counts kind) = countTable rest counts :=
          countTable_congr fun wanted later =>
            oneMore_of_ne counts (ne_of_mem_of_not_mem later notLater).symm
        have more := oneMore_self counts kind
        rw [countTable_cons_of_ne (more.trans_ne (Nat.succ_ne_zero _)), kept, more]
        by_cases none : counts kind = 0
        · rw [countTable_cons_of_zero none, none]
          exact countIn_of_lt fun entry listed => below entry.1 (mem_countTable.mp listed).1
        · rw [countTable_cons_of_ne none, countIn, if_neg (Nat.lt_irrefl _), if_pos rfl]
      · have later : kind ∈ rest := (List.mem_cons.mp member).resolve_left here
        have kept := oneMore_of_ne counts here
        by_cases none : counts first = 0
        · rw [countTable_cons_of_zero none, countTable_cons_of_zero (kept.trans none),
            ih ascending later]
        · rw [countTable_cons_of_ne none, countTable_cons_of_ne (kept.trans_ne none), kept, countIn,
            if_neg (Nat.lt_asymm (below kind later)), if_neg here, ih ascending later]

theorem foldl_countIn (counted : List Kind) (counts : Kind → Nat) :
    counted.foldl countIn (countTable Kind.all counts) =
      countTable Kind.all fun kind => counts kind + counted.count kind := by
  induction counted generalizing counts with
  | nil => rfl
  | cons kind rest ih =>
      rw [List.foldl_cons, countIn_countTable Kind.pairwise_ordinal_all (Kind.mem_all kind), ih]
      refine countTable_congr fun wanted _ => ?_
      rw [oneMore, List.count_cons]
      omega

end Table

/-! ## Histograms of forests -/

namespace Forest

variable {forest : Forest} {kind : Kind} {count : Nat}

theorem histogram_eq (forest : Forest) :
    forest.histogram = countTable Kind.all fun kind => (forest.preorder.map Node.kind).count kind :=
  rfl

theorem histogram_eq_foldl (forest : Forest) :
    forest.histogram = (forest.preorder.map Node.kind).foldl countIn [] := by
  have empty : [] = countTable Kind.all fun _ => 0 := rfl
  rw [histogram_eq, empty, foldl_countIn]
  exact countTable_congr fun kind _ => (Nat.zero_add _).symm

theorem mem_histogram :
    (kind, count) ∈ forest.histogram ↔
      count = forest.preorder.countP (·.kind == kind) ∧ count ≠ 0 := by
  rw [histogram_eq, mem_countTable, List.count_eq_countP, List.countP_map]
  exact and_iff_right (Kind.mem_all kind)

theorem sum_histogram (forest : Forest) : (forest.histogram.map Prod.snd).sum = forest.size := by
  rw [histogram_eq_foldl, sum_foldl_countIn, List.length_map, length_preorder, List.map_nil,
    List.sum_nil, Nat.zero_add]

end Forest

/-- The stack lists a subtree in preorder and then ends, each node once and as many as the subtree
has.  The histogram of a forest has an entry for each kind that occurs in it, made by counting these
nodes one after the other. -/
theorem preorder_lists_and_counts_nodes (node : Node) (forest : Forest) :
    node.preorder = node :: node.children.flatMap Node.preorder ∧
    (∀ nodes, Yields Preorder.next? (.ofNode node) nodes ↔ nodes = node.preorder) ∧
    (∀ nodes, Yields popNode [node] nodes ↔ nodes = node.preorder) ∧
    (∀ limit, (Preorder.ofNode node).take limit = node.preorder.take limit) ∧
    node.ListedOnce node.preorder ∧
    node.preorder.length = node.size ∧
    forest.histogram = ((forest.flatMap Node.preorder).map Node.kind).foldl countIn [] ∧
    (forest.histogram.map Prod.fst).Nodup ∧
    (∀ kind, (∃ count, (kind, count) ∈ forest.histogram) ↔
      ∃ node ∈ forest.flatMap Node.preorder, node.kind = kind) ∧
    (∀ kind count, (kind, count) ∈ forest.histogram ↔
      count = (forest.flatMap Node.preorder).countP (·.kind == kind) ∧ count ≠ 0) ∧
    (forest.histogram.map Prod.snd).sum = forest.size := by
  have single : Forest.preorder [node] = node.preorder := by simp [Forest.preorder]
  have yields : Yields Preorder.next? (.ofNode node) node.preorder :=
    single ▸ Preorder.yields [node]
  have yields' : Yields popNode [node] node.preorder := single ▸ yields_popNode [node]
  refine ⟨single.symm.trans (Forest.preorder_singleton node),
    fun nodes => ⟨fun other => other.unique yields, fun same => same ▸ yields⟩,
    fun nodes => ⟨fun other => other.unique yields', fun same => same ▸ yields'⟩,
    fun limit => single ▸ Preorder.take_eq limit [node], node.listedOnce_preorder,
    node.length_preorder, forest.histogram_eq_foldl, ?_, fun kind => ?_,
    fun kind count => Forest.mem_histogram, forest.sum_histogram⟩
  · have ascending := pairwise_countTable Kind.pairwise_ordinal_all
      fun kind => (forest.preorder.map Node.kind).count kind
    rw [← Forest.histogram_eq] at ascending
    exact ascending.imp fun below same => absurd (congrArg Kind.ordinal same) (Nat.ne_of_lt below)
  · simp only [Forest.mem_histogram, exists_eq_left, ne_eq, List.countP_eq_zero, not_forall]
    simp [Forest.preorder]

end KindDispatch
