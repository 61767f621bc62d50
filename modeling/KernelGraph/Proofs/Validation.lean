/-
  What validation finds.

  1. A graph is valid (`Valid`) if every edge names a kernel and a slot of the graph, and every
     kernel with a source has exactly one edge from an execution interface.  The edges are counted
     by their positions (`driving`), so an edge that is there twice counts twice, and one from an
     empty slot does not count.
  2. Otherwise there is one first fault (`FirstFault`): the first edge that leaves the graph, and if
     there is none, the first kernel with another number of edges than one.

  Searching the edges and then the kernels finds just that (`validate_exact`).
-/
import KernelGraph.Graph.Validation
import KernelGraph.Proofs.Confinement
import Mathlib.Data.List.Sigma
import Mathlib.Data.Set.Card

namespace KernelGraph

/-! ## First elements and numbers of positions -/

section
variable {α β : Type} {xs : List α}

/-- What a search finds is found at the first position where there is something to find. -/
theorem findSome?_eq_some_iff_getElem? {f : α → Option β} {y : β} :
    xs.findSome? f = some y ↔ ∃ (i : Nat) (x : α), xs[i]? = some x ∧ f x = some y ∧
      ∀ j < i, ∀ z, xs[j]? = some z → f z = none := by
  rw [List.findSome?_eq_some_iff]
  constructor
  · rintro ⟨before, x, behind, rfl, hx, hbefore⟩
    refine ⟨before.length, x, by simp, hx, fun j hj z hz => hbefore z ?_⟩
    rw [List.getElem?_append_left hj] at hz
    exact List.mem_of_getElem? hz
  · rintro ⟨i, x, hi, hx, hbefore⟩
    obtain ⟨hlt, rfl⟩ := List.getElem?_eq_some_iff.1 hi
    refine ⟨xs.take i, xs[i], xs.drop (i + 1), ?_, hx, fun z hz => ?_⟩
    · rw [← List.drop_eq_getElem_cons hlt, List.take_append_drop]
    · obtain ⟨j, hj, rfl⟩ := List.mem_take_iff_getElem.1 hz
      exact hbefore j (by omega) _ (List.getElem?_eq_getElem (by omega))

/-- There are as many positions with a property as elements that a filter keeps. -/
theorem ncard_positions (p : α → Bool) (xs : List α) :
    {i : Nat | ∃ x, xs[i]? = some x ∧ p x = true}.ncard = (xs.filter p).length := by
  have hpositions : {i : Nat | ∃ x, xs[i]? = some x ∧ p x = true} =
      ((xs.zipIdx.filter fun x => p x.1).map Prod.snd).toFinset := by
    ext i
    simp [List.mem_zipIdx_iff_getElem?]
  have hnodup : ((xs.zipIdx.filter fun x => p x.1).map Prod.snd).Nodup :=
    (List.nodup_zipIdx_map_snd xs).sublist (List.filter_sublist.map Prod.snd)
  have hfilter := List.filter_map (f := (Prod.fst : α × Nat → α)) (p := p) (l := xs.zipIdx)
  rw [List.zipIdx_map_fst] at hfilter
  rw [hpositions, Set.ncard_coe_finset, List.toFinset_card_of_nodup hnodup, List.length_map,
    hfilter, List.length_map]
  rfl

end

namespace Graph

/-! ## Valid graphs -/

/-- The slot holds an execution interface. -/
def Executes (g : Graph) (i : Int) : Prop :=
  ∃ x, g.interface? i = some x ∧ x.interface.isExecution = true

/-- The positions of the kernel's edges from slots that hold an execution interface. -/
def driving (g : Graph) (k : Int) : Set Nat :=
  {i | ∃ e, g.edges[i]? = some e ∧ e.kernel = k ∧ g.Executes e.interface}

/-- The edge names a kernel of the graph. -/
def NamesKernel (g : Graph) (e : Edge) : Prop := 0 ≤ e.kernel ∧ e.kernel < g.kernels.length

/-- The edge names a slot of the graph. -/
def NamesSlot (g : Graph) (e : Edge) : Prop := 0 ≤ e.interface ∧ e.interface < g.interfaces.length

/-- Every edge stays inside the graph, and every kernel with a source has exactly one edge from an
    execution interface. -/
structure Valid (g : Graph) : Prop where
  edges : ∀ e ∈ g.edges, g.NamesKernel e ∧ g.NamesSlot e
  kernels : ∀ k s, g.source? k = some s → ∃ i, g.driving k = {i}

/-- The edges in front of the position `i` stay inside the graph. -/
def StaysUpTo (g : Graph) (i : Nat) : Prop :=
  ∀ j < i, ∀ e, g.edges[j]? = some e → g.NamesKernel e ∧ g.NamesSlot e

/-- What is wrong with a graph: the first edge that leaves it, its kernel before its slot; without
    such an edge, the first kernel that has a source and a wrong number of execution edges. -/
inductive FirstFault (g : Graph) : InvalidGraph → Prop
  | kernelIndex {i : Nat} {e : Edge} (he : g.edges[i]? = some e) (hbefore : g.StaysUpTo i)
      (hkernel : ¬ g.NamesKernel e) : FirstFault g (.kernelIndex i e.kernel)
  | interfaceIndex {i : Nat} {e : Edge} (he : g.edges[i]? = some e) (hbefore : g.StaysUpTo i)
      (hkernel : g.NamesKernel e) (hslot : ¬ g.NamesSlot e) :
      FirstFault g (.interfaceIndex i e.interface)
  | executionEdges {k : Nat} {kernel : Kernel} {s : KernelSource}
      (hedges : ∀ e ∈ g.edges, g.NamesKernel e ∧ g.NamesSlot e)
        (hkernel : g.kernel? k = some kernel)
      (hsource : kernel.source = some s)
      (hbefore : ∀ j : Nat, j < k → ∀ s, g.source? j = some s → (g.driving j).ncard = 1)
      (hcount : (g.driving k).ncard ≠ 1) :
      FirstFault g (.executionEdges kernel.name (g.driving k).ncard)

section
variable {g : Graph} {f : InvalidGraph}

theorem executes_iff {e : Edge} : g.Executes e.interface ↔ g.isExecutionEdge e = true := by
  rw [Executes, isExecutionEdge]
  cases g.interface? e.interface with
  | none => simp
  | some x => simp

/-- **The edges that are counted** are those at the positions that drive the kernel. -/
theorem ncard_driving (g : Graph) (k : Nat) : (g.driving k).ncard = g.executionEdges k := by
  rw [executionEdges, ← ncard_positions]
  congr 1
  ext i
  simp only [driving, executes_iff, Set.mem_ofPred_eq, Bool.and_eq_true, decide_eq_true_eq]

/-! ## Faults of an edge and of a kernel -/

theorem edgeFault?_eq_some {e : Edge} {i : Nat} : g.edgeFault? e i = some f ↔
    (¬ g.NamesKernel e ∧ f = .kernelIndex i e.kernel) ∨
      (g.NamesKernel e ∧ ¬ g.NamesSlot e ∧ f = .interfaceIndex i e.interface) := by
  have hkernel : (decide (e.kernel < 0) || decide ((g.kernels.length : Int) ≤ e.kernel)) = true ↔
      ¬ g.NamesKernel e := by
    rw [Bool.or_eq_true, decide_eq_true_eq, decide_eq_true_eq, NamesKernel]
    omega
  have hslot : (decide (e.interface < 0) ||
      decide ((g.interfaces.length : Int) ≤ e.interface)) = true ↔ ¬ g.NamesSlot e := by
    rw [Bool.or_eq_true, decide_eq_true_eq, decide_eq_true_eq, NamesSlot]
    omega
  rw [edgeFault?]
  split
  · rename_i hout
    simp [hkernel.1 hout, eq_comm]
  · rename_i hin
    have hk : g.NamesKernel e := not_not.1 fun hout => hin (hkernel.2 hout)
    split
    · rename_i hout
      simp [hk, hslot.1 hout, eq_comm]
    · rename_i hin'
      have hi : g.NamesSlot e := not_not.1 fun hout => hin' (hslot.2 hout)
      simp [hk, hi]

theorem edgeFault?_eq_none {e : Edge} {i : Nat} :
    g.edgeFault? e i = none ↔ g.NamesKernel e ∧ g.NamesSlot e := by
  rw [Option.eq_none_iff_forall_ne_some]
  simp only [ne_eq, edgeFault?_eq_some]
  constructor
  · intro h
    have hkernel : g.NamesKernel e := not_not.1 fun hout => h _ (.inl ⟨hout, rfl⟩)
    exact ⟨hkernel, not_not.1 fun hout => h _ (.inr ⟨hkernel, hout, rfl⟩)⟩
  · rintro ⟨hkernel, hslot⟩ f (⟨hout, _⟩ | ⟨_, hout, _⟩)
    · exact hout hkernel
    · exact hout hslot

theorem kernelFault?_eq_some {k : Nat} : g.kernelFault? k = some f ↔
    ∃ kernel s, g.kernel? k = some kernel ∧ kernel.source = some s ∧ (g.driving k).ncard ≠ 1 ∧
      f = .executionEdges kernel.name (g.driving k).ncard := by
  rw [ncard_driving, kernelFault?]
  rcases hk : g.kernel? k with _ | ⟨name, _ | s⟩
  · simp
  · simp
  · by_cases hn : g.executionEdges k = 1
    · simp [hn]
    · simp [hn, eq_comm]

theorem kernelFault?_eq_none {k : Nat} :
    g.kernelFault? k = none ↔ ∀ s, g.source? k = some s → (g.driving k).ncard = 1 := by
  rw [Option.eq_none_iff_forall_ne_some]
  simp only [ne_eq, kernelFault?_eq_some, source?, Option.bind_eq_some_iff]
  constructor
  · rintro h s ⟨kernel, hk, hs⟩
    exact not_not.1 fun hn => h _ ⟨kernel, s, hk, hs, hn, rfl⟩
  · rintro h f ⟨kernel, s, hk, hs, hn, _⟩
    exact hn (h s ⟨kernel, hk, hs⟩)

/-! ## The search -/

/-- The search over the edges finds the first one that leaves the graph. -/
theorem findSome?_edgeFault?_eq_some :
    (g.edges.zipIdx.findSome? fun (e, i) => g.edgeFault? e i) = some f ↔
      ∃ i e, g.edges[i]? = some e ∧ g.edgeFault? e i = some f ∧ g.StaysUpTo i := by
  rw [findSome?_eq_some_iff_getElem?]
  simp only [List.getElem?_zipIdx, Option.map_eq_some_iff, Nat.zero_add]
  constructor
  · rintro ⟨i, _, ⟨e, he, rfl⟩, hf, hbefore⟩
    exact ⟨i, e, he, hf, fun j hj e' he' =>
      edgeFault?_eq_none.1 (hbefore j hj (e', j) ⟨e', he', rfl⟩)⟩
  · rintro ⟨i, e, he, hf, hbefore⟩
    refine ⟨i, (e, i), ⟨e, he, rfl⟩, hf, ?_⟩
    rintro j hj _ ⟨e', he', rfl⟩
    exact edgeFault?_eq_none.2 (hbefore j hj e' he')

theorem findSome?_edgeFault?_eq_none :
    (g.edges.zipIdx.findSome? fun (e, i) => g.edgeFault? e i) = none ↔
      ∀ e ∈ g.edges, g.NamesKernel e ∧ g.NamesSlot e := by
  rw [List.findSome?_eq_none_iff]
  constructor
  · intro h e he
    obtain ⟨i, hi⟩ := List.mem_iff_getElem?.1 he
    exact edgeFault?_eq_none.1 (h (e, i) (List.mem_zipIdx_iff_getElem?.2 hi))
  · rintro h ⟨e, i⟩ hx
    exact edgeFault?_eq_none.2 (h e (List.mem_of_getElem? (List.mem_zipIdx_iff_getElem?.1 hx)))

/-- The search over the kernels finds the first one with a wrong count. -/
theorem findSome?_kernelFault?_eq_some :
    (List.range g.kernels.length).findSome? g.kernelFault? = some f ↔
      ∃ k, g.kernelFault? k = some f ∧
        ∀ j : Nat, j < k → ∀ s, g.source? j = some s → (g.driving j).ncard = 1 := by
  rw [findSome?_eq_some_iff_getElem?]
  constructor
  · rintro ⟨i, k, hi, hf, hbefore⟩
    obtain ⟨hlt, rfl⟩ := List.getElem?_eq_some_iff.1 hi
    rw [List.getElem_range] at hf
    rw [List.length_range] at hlt
    exact ⟨i, hf, fun j hj => kernelFault?_eq_none.1
      (hbefore j hj j (List.getElem?_range (Nat.lt_trans hj hlt)))⟩
  · rintro ⟨k, hf, hbefore⟩
    obtain ⟨kernel, s, hk, hs, _⟩ := kernelFault?_eq_some.1 hf
    have hlt := (range_of_source? (Option.bind_eq_some_iff.2 ⟨kernel, hk, hs⟩)).2
    refine ⟨k, k, List.getElem?_range (by omega), hf, fun j hj z hz => ?_⟩
    obtain ⟨_, rfl⟩ := List.getElem?_eq_some_iff.1 hz
    rw [List.getElem_range]
    exact kernelFault?_eq_none.2 (hbefore j hj)

theorem findSome?_kernelFault?_eq_none :
    (List.range g.kernels.length).findSome? g.kernelFault? = none ↔
      ∀ k s, g.source? k = some s → ∃ i, g.driving k = {i} := by
  rw [List.findSome?_eq_none_iff]
  simp only [← Set.ncard_eq_one]
  constructor
  · intro h k s hs
    obtain ⟨h0, hlt⟩ := range_of_source? hs
    obtain ⟨n, rfl⟩ := Int.eq_ofNat_of_zero_le h0
    exact kernelFault?_eq_none.1 (h n (List.mem_range.2 (by omega))) s hs
  · intro h k _
    exact kernelFault?_eq_none.2 (h k)

/-- **A fault is found** exactly if it is the first one. -/
theorem firstFault?_eq_some : g.firstFault? = some f ↔ g.FirstFault f := by
  rw [firstFault?, Option.or_eq_some_iff, findSome?_edgeFault?_eq_some,
    findSome?_edgeFault?_eq_none, findSome?_kernelFault?_eq_some]
  constructor
  · rintro (⟨i, e, he, hf, hbefore⟩ | ⟨hedges, k, hf, hbefore⟩)
    · rcases edgeFault?_eq_some.1 hf with ⟨hkernel, rfl⟩ | ⟨hkernel, hslot, rfl⟩
      · exact .kernelIndex he hbefore hkernel
      · exact .interfaceIndex he hbefore hkernel hslot
    · obtain ⟨kernel, s, hk, hs, hcount, rfl⟩ := kernelFault?_eq_some.1 hf
      exact .executionEdges hedges hk hs hbefore hcount
  · rintro (⟨he, hbefore, hkernel⟩ | ⟨he, hbefore, hkernel, hslot⟩ |
      ⟨hedges, hk, hs, hbefore, hcount⟩)
    · exact .inl ⟨_, _, he, edgeFault?_eq_some.2 (.inl ⟨hkernel, rfl⟩), hbefore⟩
    · exact .inl ⟨_, _, he, edgeFault?_eq_some.2 (.inr ⟨hkernel, hslot, rfl⟩), hbefore⟩
    · exact .inr ⟨hedges, _, kernelFault?_eq_some.2 ⟨_, _, hk, hs, hcount, rfl⟩, hbefore⟩

theorem firstFault?_eq_none : g.firstFault? = none ↔ g.Valid := by
  rw [firstFault?, Option.or_eq_none_iff, findSome?_edgeFault?_eq_none,
    findSome?_kernelFault?_eq_none]
  exact ⟨fun h => ⟨h.1, h.2⟩, fun h => ⟨h.edges, h.kernels⟩⟩

/-- **Validation accepts the valid graphs** and no others. -/
theorem validate_eq_ok : g.validate = .ok () ↔ g.Valid := by
  rw [← firstFault?_eq_none, validate]
  cases g.firstFault? with
  | none => simp
  | some f => simp

theorem validate_eq_error : g.validate = .error f ↔ g.FirstFault f := by
  rw [← firstFault?_eq_some, validate]
  cases g.firstFault? with
  | none => simp
  | some f => simp

end

/-- **Validation is exact.**  It accepts the valid graphs and no others.  The error of any other
    graph is that of its first fault, and its message says that the graph is invalid. -/
theorem validate_exact (g : Graph) :
    (g.validate = .ok () ↔ g.Valid) ∧
      (∀ f, g.validate = .error f ↔ g.FirstFault f) ∧
      ∀ f : InvalidGraph, ∃ detail, f.message = "computegraph: invalid graph: " ++ detail :=
  ⟨validate_eq_ok, fun _ => validate_eq_error, fun _ => ⟨_, rfl⟩⟩

/-- An edge that is there twice counts twice. -/
example : validate
    { name := "G"
      kernels := [some ⟨"K", some {}⟩]
      interfaces := [some (.execution 1)]
      edges := [{}, {}] } = .error (.executionEdges "K" 2) := rfl

end Graph

end KernelGraph
