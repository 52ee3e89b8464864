import BoundSeal.Rust.Collections

/-!
# Topological sorting by counting (Kahn's algorithm)

The graph maps every node to the set of the nodes it depends on. The algorithm keeps
for every node the number of its dependencies that have not been listed, and lists the
smallest node whose number is zero.
-/

namespace BoundSeal.Lib

open Rust Std

/-- Listing a dependency that was not listed takes one off the number. -/
theorem length_filter_concat {α : Type} [DecidableEq α] {node : α} {l order : List α}
    (hnodup : l.Nodup) (hnew : node ∉ order) :
    (l.filter (· ∉ order ++ [node])).length =
      if node ∈ l then (l.filter (· ∉ order)).length - 1 else (l.filter (· ∉ order)).length := by
  have herase : l.filter (· ∉ order ++ [node]) = (l.filter (· ∉ order)).erase node := by
    rw [(hnodup.filter _).erase_eq_filter, List.filter_filter]
    refine List.filter_congr fun a _ => ?_
    by_cases heq : a = node
    · simp [heq]
    · simp [heq]
  rw [herase, List.length_erase]
  simp [hnew]

variable {κ : Type} [Ord κ] [TransOrd κ]

/-- The nodes that depend on each node. -/
def dependents (graph : BTreeMap κ (BTreeSet κ)) : BTreeMap κ (BTreeSet κ) :=
  graph.toList.foldl (fun found entry => entry.2.toList.foldl
    (fun found dependency => found.insert dependency ((found[dependency]?.getD ∅).insert entry.1)) found) ∅

/-- The variables of the algorithm. -/
structure Sorting (κ : Type) [Ord κ] where
  indegree : BTreeMap κ ℕ
  ready : BTreeSet κ
  order : List κ

namespace Sorting

/-- The number of dependencies that a node still waits for. -/
def count (s : Sorting κ) (node : κ) : ℕ := s.indegree[node]?.getD 0

/-- One dependency of a node has been listed. -/
def release (s : Sorting κ) (node : κ) : Sorting κ :=
  { s with
    indegree := s.indegree.insert node (s.count node - 1)
    ready := if s.count node - 1 = 0 then s.ready.insert node else s.ready }

/-- A node is listed. -/
def list (graph : BTreeMap κ (BTreeSet κ)) (s : Sorting κ) (node : κ) : Sorting κ :=
  ((dependents graph)[node]?.getD ∅).toList.foldl release
    { s with ready := s.ready.erase node, order := s.order ++ [node] }

/-- At most so many nodes are listed. -/
def loop (graph : BTreeMap κ (BTreeSet κ)) : ℕ → Sorting κ → Sorting κ
  | 0, s => s
  | rounds + 1, s =>
    match s.ready.toList.head? with
    | none => s
    | some node => loop graph rounds (list graph s node)

end Sorting

/-- Before the first node is listed. -/
def startSorting (graph : BTreeMap κ (BTreeSet κ)) : Sorting κ where
  indegree := graph.map fun _ dependencies => dependencies.size
  ready := ExtTreeSet.ofList ((graph.toList.filter fun entry => entry.2.size == 0).map (·.1)) compare
  order := []

/-- After the last node is listed. No more nodes are listed than the graph has. -/
def finishSorting (graph : BTreeMap κ (BTreeSet κ)) : Sorting κ := (startSorting graph).loop graph graph.size

/-- The nodes, each after the nodes it depends on. -/
def topologicalOrder (graph : BTreeMap κ (BTreeSet κ)) : List κ := (finishSorting graph).order

variable {s : Sorting κ}

theorem Sorting.order_foldl_release {nodes : List κ} : (nodes.foldl release s).order = s.order := by
  induction nodes generalizing s with
  | nil => rfl
  | cons node nodes ih => exact ih

/-! ## The nodes that depend on a node -/

variable [LawfulEqOrd κ]

variable {node : κ}

theorem mem_of_head?_toList {set : BTreeSet κ} (h : set.toList.head? = some node) : node ∈ set :=
  ExtTreeSet.mem_toList.mp (List.mem_of_head? h)

theorem mem_foldl_dependents {found : BTreeMap κ (BTreeSet κ)} {node a d : κ}
    {dependencies : List κ} : d ∈ (dependencies.foldl (fun found dependency =>
      found.insert dependency ((found[dependency]?.getD ∅).insert node)) found)[a]?.getD ∅ ↔
      d ∈ found[a]?.getD ∅ ∨ (d = node ∧ a ∈ dependencies) := by
  induction dependencies generalizing found with
  | nil => simp
  | cons dependency dependencies ih =>
    rw [List.foldl_cons, ih]
    by_cases heq : dependency = a
    · subst heq
      rw [getElem?_insert_self, Option.getD_some, ExtTreeSet.mem_insert, LawfulEqOrd.compare_eq_iff_eq]
      simp only [List.mem_cons, true_or, and_true]
      constructor
      · rintro ((rfl | hfound) | ⟨hd, -⟩)
        · exact .inr rfl
        · exact .inl hfound
        · exact .inr hd
      · rintro (hfound | rfl)
        · exact .inl (.inr hfound)
        · exact .inl (.inl rfl)
    · rw [getElem?_insert_of_ne _ _ heq, List.mem_cons]
      simp [Ne.symm heq]

/-- A node depends on another if that is in its set. -/
theorem mem_dependents {graph : BTreeMap κ (BTreeSet κ)} {a d : κ} :
    d ∈ (dependents graph)[a]?.getD ∅ ↔ ∃ dependencies, graph[d]? = some dependencies ∧ a ∈ dependencies := by
  have hfold : ∀ (entries : List (κ × BTreeSet κ)) (found : BTreeMap κ (BTreeSet κ)),
      d ∈ (entries.foldl (fun found entry => entry.2.toList.foldl (fun found dependency =>
        found.insert dependency ((found[dependency]?.getD ∅).insert entry.1)) found) found)[a]?.getD ∅ ↔
        d ∈ found[a]?.getD ∅ ∨ ∃ dependencies, (d, dependencies) ∈ entries ∧ a ∈ dependencies := by
    intro entries
    induction entries with
    | nil => simp
    | cons entry entries ih =>
      intro found
      rw [List.foldl_cons, ih, mem_foldl_dependents, or_assoc]
      refine or_congr_right ?_
      constructor
      · rintro (⟨rfl, hmem⟩ | ⟨dependencies, hentry, hmem⟩)
        · exact ⟨entry.2, List.mem_cons_self, ExtTreeSet.mem_toList.mp hmem⟩
        · exact ⟨dependencies, List.mem_cons_of_mem _ hentry, hmem⟩
      · rintro ⟨dependencies, hentry, hmem⟩
        rcases List.mem_cons.mp hentry with rfl | hentry
        · exact .inl ⟨rfl, ExtTreeSet.mem_toList.mpr hmem⟩
        · exact .inr ⟨dependencies, hentry, hmem⟩
  rw [dependents, hfold]
  simp [ExtTreeMap.mem_toList_iff_getElem?_eq_some]

/-! ## One round -/

namespace Sorting

variable {s : Sorting κ} {nodes : List κ} {node : κ}

theorem count_release [DecidableEq κ] (s : Sorting κ) (a node : κ) :
    (s.release a).count node = if a = node then s.count node - 1 else s.count node := by
  by_cases heq : a = node
  · subst heq
    rw [if_pos rfl, count, release, getElem?_insert_self, Option.getD_some]
  · rw [if_neg heq, count, release, getElem?_insert_of_ne _ _ heq, count]

theorem mem_ready_release {a : κ} : node ∈ (s.release a).ready ↔ node ∈ s.ready ∨
    (a = node ∧ s.count node - 1 = 0) := by
  unfold release
  by_cases hzero : s.count a - 1 = 0
  · simp only [if_pos hzero, ExtTreeSet.mem_insert, LawfulEqOrd.compare_eq_iff_eq]
    constructor
    · rintro (rfl | hready)
      · exact .inr ⟨rfl, hzero⟩
      · exact .inl hready
    · rintro (hready | ⟨rfl, -⟩)
      · exact .inr hready
      · exact .inl rfl
  · simp only [if_neg hzero]
    constructor
    · exact .inl
    · rintro (hready | ⟨rfl, hcount⟩)
      · exact hready
      · exact absurd hcount hzero

theorem count_foldl_release [DecidableEq κ] (hnodup : nodes.Nodup) :
    (nodes.foldl release s).count node = if node ∈ nodes then s.count node - 1 else s.count node := by
  induction nodes generalizing s with
  | nil => rfl
  | cons a nodes ih =>
    obtain ⟨hnew, hnodup⟩ := List.nodup_cons.mp hnodup
    rw [List.foldl_cons, ih hnodup, count_release]
    by_cases heq : a = node
    · subst heq
      simp [hnew]
    · simp [heq, Ne.symm heq]

theorem mem_ready_foldl_release [DecidableEq κ] (hnodup : nodes.Nodup) :
    node ∈ (nodes.foldl release s).ready ↔ node ∈ s.ready ∨ (node ∈ nodes ∧ s.count node - 1 = 0) := by
  induction nodes generalizing s with
  | nil => simp
  | cons a nodes ih =>
    obtain ⟨hnew, hnodup⟩ := List.nodup_cons.mp hnodup
    rw [List.foldl_cons, ih hnodup, mem_ready_release, count_release, List.mem_cons]
    by_cases heq : a = node
    · subst heq
      simp [hnew]
    · simp [heq, Ne.symm heq]

end Sorting

/-! ## The invariant -/

variable [DecidableEq κ]

/-- What holds before every round. -/
structure Sorting.Inv (graph : BTreeMap κ (BTreeSet κ)) (s : Sorting κ) : Prop where
  counts : ∀ node dependencies, graph[node]? = some dependencies →
    s.count node = (dependencies.toList.filter (· ∉ s.order)).length
  ready : ∀ node, node ∈ s.ready ↔ node ∈ graph ∧ node ∉ s.order ∧ s.count node = 0
  nodup : s.order.Nodup
  nodes : ∀ node ∈ s.order, node ∈ graph
  before : ∀ l node l', s.order = l ++ node :: l' → ∀ dependencies,
    graph[node]? = some dependencies → ∀ d ∈ dependencies, d ∈ l

theorem inv_startSorting (graph : BTreeMap κ (BTreeSet κ)) : (startSorting graph).Inv graph where
  counts node dependencies h := by
    simp [Sorting.count, startSorting, h]
  ready node := by
    simp only [startSorting, List.not_mem_nil, not_false_eq_true, true_and, Sorting.count]
    rw [ExtTreeSet.mem_ofList, List.contains_iff_mem, List.mem_map]
    simp only [List.mem_filter, beq_iff_eq, Prod.exists, exists_and_right, exists_eq_right,
      ExtTreeMap.mem_toList_iff_getElem?_eq_some]
    constructor
    · rintro ⟨dependencies, h, hsize⟩
      exact ⟨mem_of_getElem? h, by simp [h, hsize]⟩
    · rintro ⟨hmem, hcount⟩
      obtain ⟨dependencies, h⟩ := exists_getElem?_of_mem hmem
      exact ⟨dependencies, h, by simpa [h] using hcount⟩
  nodup := List.nodup_nil
  nodes _ h := absurd h List.not_mem_nil
  before l node l' h := by simp [startSorting] at h

section

variable {graph : BTreeMap κ (BTreeSet κ)} {s : Sorting κ} {node : κ}

/-- The dependencies of a node without a number are all listed. -/
theorem Sorting.Inv.listed (h : s.Inv graph) {dependencies : BTreeSet κ} (hnode : graph[node]? = some dependencies)
    (hzero : s.count node = 0) {d : κ} (hd : d ∈ dependencies) : d ∈ s.order := by
  have hempty := List.length_eq_zero_iff.mp ((h.counts node dependencies hnode).symm.trans hzero)
  by_contra hnot
  have hmem : d ∈ dependencies.toList.filter (· ∉ s.order) := by
    simp [hnot, hd]
  rw [hempty] at hmem
  exact absurd hmem List.not_mem_nil

theorem Sorting.Inv.list (h : s.Inv graph) (hready : node ∈ s.ready) : (s.list graph node).Inv graph := by
  obtain ⟨hgraph, hnew, hzero⟩ := (h.ready node).mp hready
  have hdistinct : ∀ set : BTreeSet κ, set.toList.Nodup := fun _ =>
    ExtTreeSet.distinct_toList.imp fun hne heq => hne (by rw [heq]; exact ReflOrd.compare_self)
  have hnodup := hdistinct ((dependents graph)[node]?.getD ∅)
  have hself : ∀ dependencies, graph[node]? = some dependencies → node ∉ dependencies := fun dependencies hnode hmem =>
    hnew (h.listed hnode hzero hmem)
  have hcount : ∀ other dependencies, graph[other]? = some dependencies →
      (s.list graph node).count other = if node ∈ dependencies then s.count other - 1 else s.count other := by
    intro other dependencies hother
    have hmem : other ∈ ((dependents graph)[node]?.getD ∅).toList ↔ node ∈ dependencies := by
      rw [ExtTreeSet.mem_toList, mem_dependents]
      simp [hother]
    rw [Sorting.list, Sorting.count_foldl_release hnodup]
    simp only [hmem]
    rfl
  have horder : (s.list graph node).order = s.order ++ [node] := Sorting.order_foldl_release
  constructor
  case counts =>
    intro other dependencies hother
    rw [hcount other dependencies hother, horder,
      length_filter_concat (hdistinct dependencies) hnew, h.counts other dependencies hother]
    simp
  case ready =>
    intro other
    rw [Sorting.list, Sorting.mem_ready_foldl_release hnodup, ExtTreeSet.mem_toList, mem_dependents]
    show _ ∈ s.ready.erase node ∨ (_ ∧ s.count other - 1 = 0) ↔ _
    rw [ExtTreeSet.mem_erase, ne_eq, LawfulEqOrd.compare_eq_iff_eq]
    change _ ↔ other ∈ graph ∧ other ∉ (s.list graph node).order ∧ (s.list graph node).count other = 0
    rw [horder, List.mem_append, List.mem_singleton, not_or]
    constructor
    · rintro (⟨hne, hready⟩ | ⟨⟨dependencies, hother, hmem⟩, hone⟩)
      · obtain ⟨hin, hunlisted, hcountzero⟩ := (h.ready other).mp hready
        obtain ⟨dependencies, hother⟩ := exists_getElem?_of_mem hin
        refine ⟨hin, ⟨hunlisted, fun heq => hne heq.symm⟩, ?_⟩
        rw [hcount other dependencies hother, hcountzero]
        simp
      · refine ⟨mem_of_getElem? hother, ⟨?_, ?_⟩, ?_⟩
        · -- the dependencies of a listed node are listed
          intro hlisted
          obtain ⟨l, l', hsplit⟩ := List.append_of_mem hlisted
          exact hnew (hsplit ▸ List.mem_append_left _ (h.before l other l' hsplit dependencies hother node hmem))
        · rintro rfl
          exact hself dependencies hother hmem
        · rw [hcount other dependencies hother, if_pos hmem, hone]
    · rintro ⟨hin, ⟨hunlisted, hne⟩, hcountzero⟩
      obtain ⟨dependencies, hother⟩ := exists_getElem?_of_mem hin
      rw [hcount other dependencies hother] at hcountzero
      by_cases hmem : node ∈ dependencies
      · rw [if_pos hmem] at hcountzero
        exact .inr ⟨⟨dependencies, hother, hmem⟩, hcountzero⟩
      · rw [if_neg hmem] at hcountzero
        exact .inl ⟨fun heq => hne heq.symm, (h.ready other).mpr ⟨hin, hunlisted, hcountzero⟩⟩
  case nodup =>
    rw [horder]
    exact List.nodup_append.mpr ⟨h.nodup, List.nodup_singleton _, fun a ha b hb => by
      rw [List.mem_singleton.mp hb]
      rintro rfl
      exact hnew ha⟩
  case nodes =>
    intro other hother
    rw [horder, List.mem_append, List.mem_singleton] at hother
    rcases hother with hother | rfl
    · exact h.nodes other hother
    · exact hgraph
  case before =>
    intro l other l' hsplit dependencies hother d hd
    rw [horder] at hsplit
    rcases List.eq_nil_or_concat l' with rfl | ⟨front, last, rfl⟩
    · obtain ⟨rfl, hlast⟩ := List.append_inj' hsplit rfl
      obtain rfl : node = other := by simpa using hlast
      exact h.listed hother hzero hd
    · rw [List.concat_eq_append, ← List.cons_append, ← List.append_assoc] at hsplit
      obtain ⟨hfront, -⟩ := List.append_inj' hsplit rfl
      exact h.before l other front hfront dependencies hother d hd

theorem Sorting.Inv.loop (h : s.Inv graph) (rounds : ℕ) : (s.loop graph rounds).Inv graph := by
  induction rounds generalizing s with
  | zero => exact h
  | succ rounds ih =>
    rw [Sorting.loop]
    split
    · exact h
    · next node hfirst => exact ih (h.list (mem_of_head?_toList hfirst))

end

variable {graph : BTreeMap κ (BTreeSet κ)}

theorem inv_finishSorting (graph : BTreeMap κ (BTreeSet κ)) : (finishSorting graph).Inv graph :=
  (inv_startSorting graph).loop _

/-- The order lists each node once. -/
theorem nodup_topologicalOrder (graph : BTreeMap κ (BTreeSet κ)) : (topologicalOrder graph).Nodup :=
  (inv_finishSorting graph).nodup

/-- The order lists nodes of the graph. -/
theorem mem_of_mem_topologicalOrder (h : node ∈ topologicalOrder graph) : node ∈ graph :=
  (inv_finishSorting graph).nodes node h

/-- **A node comes after its dependencies.** -/
theorem dependency_before {l l' : List κ} {node d : κ} {dependencies : BTreeSet κ}
    (hsplit : topologicalOrder graph = l ++ node :: l') (hnode : graph[node]? = some dependencies)
    (hd : d ∈ dependencies) : d ∈ l :=
  (inv_finishSorting graph).before l node l' hsplit dependencies hnode d hd

omit [DecidableEq κ] in
/-- Different keys of a map are at most as many as the map has. -/
theorem length_le_size {ν : Type} {m : BTreeMap κ ν} {order : List κ} (hnodup : order.Nodup)
    (hsub : ∀ node ∈ order, node ∈ m) : order.length ≤ m.size := by
  have hkeys : order ⊆ m.keys := fun node hnode => ExtTreeMap.mem_keys.mpr (hsub node hnode)
  rw [← ExtTreeMap.length_keys]
  exact (hnodup.subperm hkeys).length_le

/-- An order with as many nodes as the graph has every node. -/
theorem mem_topologicalOrder (hlength : (topologicalOrder graph).length = graph.size)
    (h : node ∈ graph) : node ∈ topologicalOrder graph := by
  by_contra hnot
  have hlonger : (node :: topologicalOrder graph).length ≤ graph.size := length_le_size
    (List.nodup_cons.mpr ⟨hnot, nodup_topologicalOrder graph⟩) (by
      intro other hother
      rcases List.mem_cons.mp hother with rfl | hother
      · exact h
      · exact mem_of_mem_topologicalOrder hother)
  rw [List.length_cons] at hlonger
  omega

/-! ## All orders -/

/-- A node depends on another. -/
def Needs (graph : BTreeMap κ (BTreeSet κ)) (node d : κ) : Prop :=
  ∃ dependencies, graph[node]? = some dependencies ∧ d ∈ dependencies

/-- A list of all nodes, each after the nodes it depends on. -/
structure IsOrder (graph : BTreeMap κ (BTreeSet κ)) (order : List κ) : Prop where
  perm : order.Perm graph.keys
  before : ∀ l node l', order = l ++ node :: l' → ∀ d, Needs graph node d → d ∈ l

variable {order : List κ}

namespace IsOrder

omit [DecidableEq κ] in
theorem mem (h : IsOrder graph order) {node : κ} : node ∈ order ↔ node ∈ graph :=
  h.perm.mem_iff.trans ExtTreeMap.mem_keys

omit [LawfulEqOrd κ] [DecidableEq κ] in
theorem nodup (h : IsOrder graph order) : order.Nodup := h.perm.nodup_iff.mpr ExtTreeMap.nodup_keys

omit [DecidableEq κ] in
theorem exists_before (h : IsOrder graph order) {node d : κ} (hneeds : Needs graph node d) :
    ∃ l l', order = l ++ node :: l' ∧ d ∈ l := by
  obtain ⟨dependencies, hnode, -⟩ := id hneeds
  obtain ⟨l, l', hsplit⟩ := List.append_of_mem (h.mem.mpr (mem_of_getElem? hnode))
  exact ⟨l, l', hsplit, h.before l node l' hsplit d hneeds⟩

/-- In an order the dependency has the smaller position. -/
theorem idxOf_lt (h : IsOrder graph order) {node d : κ} (hneeds : Needs graph node d) :
    order.idxOf d < order.idxOf node := by
  obtain ⟨l, l', rfl, hd⟩ := h.exists_before hneeds
  have hnew : node ∉ l := fun hl => (List.nodup_append.mp h.nodup).2.2 node hl node List.mem_cons_self rfl
  rw [List.idxOf_append_of_mem hd, List.idxOf_append_of_notMem hnew, List.idxOf_cons_self]
  exact Nat.lt_add_right _ (List.idxOf_lt_length_of_mem hd)

theorem acyclic (h : IsOrder graph order) (node : κ) : ¬ Relation.TransGen (Needs graph) node node := by
  have hlt : ∀ {d}, Relation.TransGen (Needs graph) node d → order.idxOf d < order.idxOf node := by
    intro d hd
    induction hd with
    | single hone => exact h.idxOf_lt hone
    | tail _ hlast ih => exact (h.idxOf_lt hlast).trans ih
  exact fun hcycle => lt_irrefl _ (hlt hcycle)

omit [DecidableEq κ] in
theorem known (h : IsOrder graph order) {node d : κ} (hneeds : Needs graph node d) : d ∈ graph := by
  obtain ⟨l, l', rfl, hd⟩ := h.exists_before hneeds
  exact h.mem.mp (List.mem_append_left _ hd)

end IsOrder

omit [LawfulEqOrd κ] [DecidableEq κ] in
/-- The loop ends because nothing is ready, or lists a node in every round. -/
theorem Sorting.loop_cases (graph : BTreeMap κ (BTreeSet κ)) (rounds : ℕ) (s : Sorting κ) :
    (s.loop graph rounds).ready.toList.head? = none ∨ (s.loop graph rounds).order.length = s.order.length + rounds := by
  induction rounds generalizing s with
  | zero => exact .inr rfl
  | succ rounds ih =>
    rw [Sorting.loop]
    split
    · next hnone => exact .inl hnone
    · next node _ =>
      have horder : (s.list graph node).order = s.order ++ [node] := Sorting.order_foldl_release
      refine (ih (s.list graph node)).imp_right fun hlength => ?_
      rw [hlength, horder, List.length_append, List.length_singleton]
      omega

/-- **The algorithm ends**: after as many rounds as there are nodes none is ready. -/
theorem not_mem_ready_finishSorting (graph : BTreeMap κ (BTreeSet κ)) (node : κ) :
    node ∉ (finishSorting graph).ready := by
  intro hready
  obtain ⟨hgraph, hnew, -⟩ := ((inv_finishSorting graph).ready node).mp hready
  rcases Sorting.loop_cases graph graph.size (startSorting graph) with hnone | hlength
  · have hmem := ExtTreeSet.mem_toList.mpr hready
    rw [finishSorting, List.head?_eq_none_iff.mp hnone] at hmem
    exact absurd hmem List.not_mem_nil
  · exact hnew (mem_topologicalOrder (by rw [topologicalOrder, finishSorting, hlength]; exact Nat.zero_add _) hgraph)

theorem isOrder_topologicalOrder (hall : ∀ node ∈ graph, node ∈ topologicalOrder graph) :
    IsOrder graph (topologicalOrder graph) where
  perm := (List.perm_ext_iff_of_nodup (nodup_topologicalOrder graph) ExtTreeMap.nodup_keys).mpr fun node =>
    ⟨fun h => ExtTreeMap.mem_keys.mpr (mem_of_mem_topologicalOrder h), fun h => hall node (ExtTreeMap.mem_keys.mp h)⟩
  before _ _ _ hsplit _ := fun ⟨_, hnode, hd⟩ => dependency_before hsplit hnode hd

/-- A node is ready when all it depends on is listed. -/
theorem Sorting.Inv.ready_of_listed (h : s.Inv graph) (hgraph : node ∈ graph)
    (hnew : node ∉ s.order) (hlisted : ∀ d, Needs graph node d → d ∈ s.order) : node ∈ s.ready := by
  obtain ⟨dependencies, hget⟩ := exists_getElem?_of_mem hgraph
  refine (h.ready node).mpr ⟨hgraph, hnew, ?_⟩
  rw [h.counts node dependencies hget, List.length_eq_zero_iff, List.filter_eq_nil_iff]
  intro d hd
  simpa using hlisted d ⟨dependencies, hget, ExtTreeSet.mem_toList.mp hd⟩

/-- **All nodes are listed** when they depend on known nodes and not on themselves. -/
theorem mem_topologicalOrder_of_acyclic (hknown : ∀ {node d}, Needs graph node d → d ∈ graph)
    (hacyclic : ∀ node, ¬ Relation.TransGen (Needs graph) node node) (node : κ)
    (hnode : node ∈ graph) : node ∈ topologicalOrder graph := by
  by_contra hnew
  -- a node that is not listed and waits for no other such node is ready
  let waits : {node // node ∈ graph} → {node // node ∈ graph} → Prop :=
    fun d node => Relation.TransGen (Needs graph) node d
  have : Finite {node // node ∈ graph} :=
    (graph.keys.finite_toSet.subset fun _ h => ExtTreeMap.mem_keys.mpr h).to_subtype
  have : IsTrans _ waits := ⟨fun _ _ _ hab hbc => hbc.trans hab⟩
  have : Std.Irrefl waits := ⟨fun a => hacyclic a⟩
  obtain ⟨⟨first, hfirst⟩, hunlisted, hleast⟩ := (Finite.wellFounded_of_trans_of_irrefl waits).has_min
    {node | node.1 ∉ topologicalOrder graph} ⟨⟨node, hnode⟩, hnew⟩
  refine not_mem_ready_finishSorting graph first ((inv_finishSorting graph).ready_of_listed hfirst hunlisted ?_)
  intro d hneeds
  by_contra hd
  exact hleast ⟨d, hknown hneeds⟩ hd (.single hneeds)

/-! ## The least order -/

/-- The first list is smaller at the first place where the two differ. -/
def Differs (order other : List κ) : Prop :=
  ∃ l a b t u, order = l ++ a :: t ∧ other = l ++ b :: u ∧ compare a b = .lt

theorem Sorting.Inv.least (h : s.Inv graph) (hother : IsOrder graph order) (rounds : ℕ)
    (hs : s.order <+: order ∨ Differs s.order order) :
    (s.loop graph rounds).order <+: order ∨ Differs (s.loop graph rounds).order order := by
  induction rounds generalizing s with
  | zero => exact hs
  | succ rounds ih =>
    rw [Sorting.loop]
    split
    · exact hs
    · next node hfirst =>
      have hready := mem_of_head?_toList hfirst
      refine ih (h.list hready) ?_
      have horder : (s.list graph node).order = s.order ++ [node] := Sorting.order_foldl_release
      rw [horder]
      rcases hs with ⟨rest, rfl⟩ | ⟨l, a, b, t, u, hs, hl, hlt⟩
      · obtain ⟨hgraph, hnew, -⟩ := (h.ready node).mp hready
        cases rest with
        | nil => exact absurd (hother.mem.mpr hgraph) (by rwa [List.append_nil])
        | cons b u =>
          -- the next node of the other order is ready as well, so it is not smaller
          have hb : b ∈ s.ready := h.ready_of_listed (hother.mem.mp (List.mem_append_right _ List.mem_cons_self))
            (fun hl => (List.nodup_append.mp hother.nodup).2.2 b hl b List.mem_cons_self rfl)
            (hother.before s.order b u rfl)
          obtain ⟨others, hothers⟩ := List.head?_eq_some_iff.mp hfirst
          have hsorted := hothers ▸ s.ready.ordered_toList
          rcases List.mem_cons.mp (hothers ▸ ExtTreeSet.mem_toList.mpr hb) with rfl | hlater
          · exact .inl ⟨u, by simp⟩
          · exact .inr ⟨s.order, node, b, [], u, rfl, rfl, (List.pairwise_cons.mp hsorted).1 b hlater⟩
      · exact .inr ⟨l, a, b, t ++ [node], u, by simp [hs], hl, hlt⟩

/-- **The least order** is found: another one is larger where they first differ. -/
theorem topologicalOrder_least (hfound : IsOrder graph (topologicalOrder graph)) (hother : IsOrder graph order) :
    topologicalOrder graph = order ∨ Differs (topologicalOrder graph) order := by
  have hleast := (inv_startSorting graph).least hother graph.size (.inl List.nil_prefix)
  exact hleast.imp_left fun hprefix => hprefix.eq_of_length (hfound.perm.trans hother.perm.symm).length_eq

end BoundSeal.Lib
