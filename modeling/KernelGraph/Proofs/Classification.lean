/-
  How an invocation classifies the slots of its kernel.

  The lists and flags of an invocation come from passes over the kernel's edges and over the slots
  that these name.  `Classifies` says what each of them has to be, of the edges alone:

  1. In a valid graph one slot drives the kernel, and it has a binding group if every slot was added
     with one (`Built`).
  2. The bound slots stand in the order of their first edges, and the slots of a hook in the order
     of their first output edges (`ListsInOrder`).
  3. A slot is primary if it is in the group of the slot that drives the kernel, and only primary
     slots decide whether one dispatch is enough.
  4. Layout and permutations are gathered from the bound slots in this order, for a build as for a
     plan, so that a plan does not depend on the builds that it is given (`Visits`).
-/
import KernelGraph.Proofs.Build
import KernelGraph.Proofs.TranslationUnit
import KernelGraph.Proofs.Validation

namespace KernelGraph

/-- The list has exactly the numbers with the property, in the strict order of their positions, so
    each of them once. -/
structure ListsInOrder (P : Int → Prop) (position : Int → Nat) (is : List Int) : Prop where
  mem_iff : ∀ i, i ∈ is ↔ P i
  ordered : is.Pairwise fun i j => position i < position j

namespace Graph

/-- The graphs whose slots were added one by one, each with its group.  Everything else may be
    edited at will. -/
inductive Built : Graph → Prop
  | empty (name : String) : Built { name }
  | addInterface {g : Graph} (d : Option DataInterface) (group : Int) (h : Built g) :
      Built (g.addInterface d group)
  | edit {g g' : Graph} (h : Built g) (hinterfaces : g'.interfaces = g.interfaces)
      (hgroups : g'.groups = g.groups) : Built g'

/-- A slot that an edge of the kernel names and that holds an execution interface. -/
def Drives (g : Graph) (k i : Int) : Prop :=
  ∃ e ∈ g.edges, e.kernel = k ∧ e.interface = i ∧ g.Executes i

/-- A slot that the kernel writes to, and whose interface has the property. -/
def Writes (g : Graph) (k : Int) (wanted : Interface → Bool) (i : Int) : Prop :=
  (∃ e ∈ g.edges, e.kernel = k ∧ e.interface = i ∧ e.input = false) ∧
    ∃ x, g.interface? i = some x ∧ wanted x.interface = true

/-- The position of the first edge that the kernel writes to a slot through. -/
def firstOutput (g : Graph) (k i : Int) : Nat :=
  g.edges.findIdx fun e => e.kernel = k && e.interface = i && !e.input

/-- What the slots of an invocation have to be, given the edges of the kernel. -/
structure Classifies (g : Graph) (k : Int) (v : Invocation) : Prop where
  execution : ∀ i, g.Drives k i ↔ i = v.executionSlot
  group : g.group? v.executionSlot = some v.bindingGroup
  slots : ListsInOrder (g.Binds k) (g.firstEdge k) (v.slots.map BoundSlot.index)
  primary : ∀ b ∈ v.slots, b.primary = true ↔ g.group? b.index = some v.bindingGroup
  unified : v.unifiedDispatch = true ↔ ∀ i ∈ v.primary, ∀ x, g.interface? i = some x →
    x.interface.unified = true
  readback : ListsInOrder (g.Writes k Interface.readback) (g.firstOutput k) v.readback
  preSubmit : ListsInOrder (g.Writes k Interface.preSubmit) (g.firstOutput k) v.preSubmit
  postSubmit : ListsInOrder (g.Writes k Interface.postSubmit) (g.firstOutput k) v.postSubmit

/-- The same graph, but that interfaces may have gained or lost the capability for unified dispatch,
    other than at the slots that are kept. -/
structure Recapable (kept : List Int) (g g' : Graph) : Prop where
  kernels : g'.kernels = g.kernels
  edges : g'.edges = g.edges
  groups : g'.groups = g.groups
  interfaces : ∀ i, Option.Rel (fun x x' : DataInterface =>
    x'.interface = { x.interface with unified := x'.interface.unified } ∧
      (i ∈ kept → x'.interface.unified = x.interface.unified)) (g.interface? i) (g'.interface? i)

section
variable {g g' : Graph} {k i : Int}

/-! ## Groups -/

theorem Built.length_groups (h : g.Built) : g.groups.length = g.interfaces.length := by
  induction h with
  | empty name => rfl
  | addInterface d group _ ih =>
    show (_ ++ [group]).length = (_ ++ [d]).length
    rw [List.length_append, List.length_append, ih, List.length_singleton, List.length_singleton]
  | edit _ hinterfaces hgroups ih => rw [hgroups, hinterfaces, ih]

/-- **Every slot that is not empty has a group.** -/
theorem Built.exists_group? (h : g.Built) {x : DataInterface} (hx : g.interface? i = some x) :
    ∃ group, g.group? i = some group := by
  have helement := Option.join_eq_some_iff.1 hx
  rw [elementAt?] at helement
  split at helement
  · cases helement
  · rename_i h0
    obtain ⟨hlt, _⟩ := List.getElem?_eq_some_iff.1 helement
    rw [group?, elementAt?, if_neg h0]
    exact ⟨_, List.getElem?_eq_getElem (h.length_groups ▸ hlt)⟩

/-! ## The slot that drives a kernel -/

theorem isExecutionSlot_iff :
    executionSlot?.isExecutionSlot g i = true ↔ g.Executes i := by
  rw [executionSlot?.isExecutionSlot, Executes]
  cases g.interface? i with
  | none => simp
  | some x => simp

/-- The slot that is found drives the kernel. -/
theorem drives_of_executionSlot? (h : g.executionSlot? k = some i) : g.Drives k i := by
  obtain ⟨⟨e, position⟩, hfound, rfl⟩ := Option.map_eq_some_iff.1 h
  have hmem : e ∈ (g.kernelEdges k).map Prod.fst :=
    List.mem_map.2 ⟨_, List.mem_of_find?_eq_some hfound, rfl⟩
  rw [map_fst_kernelEdges, List.mem_filter, decide_eq_true_eq] at hmem
  exact ⟨e, hmem.1, hmem.2, rfl, isExecutionSlot_iff.1 (List.find?_some hfound :)⟩

/-- In a valid graph at most one slot drives a kernel. -/
theorem Valid.drives_inj (h : g.Valid) {s : KernelSource} (hs : g.source? k = some s) {j : Int}
    (hi : g.Drives k i) (hj : g.Drives k j) : i = j := by
  obtain ⟨position, hposition⟩ := h.kernels k s hs
  have hat : ∀ {i : Int}, g.Drives k i → ∃ e, g.edges[position]? = some e ∧ e.interface = i := by
    rintro i ⟨e, he, hk, rfl, hexecutes⟩
    obtain ⟨n, hn⟩ := List.mem_iff_getElem?.1 he
    have hmem : n ∈ g.driving k := ⟨e, hn, hk, hexecutes⟩
    rw [hposition, Set.mem_singleton_iff] at hmem
    exact ⟨e, hmem ▸ hn, rfl⟩
  obtain ⟨e, he, rfl⟩ := hat hi
  obtain ⟨e', he', rfl⟩ := hat hj
  rw [Option.some.inj (he.symm.trans he')]

/-- **In a valid graph one slot drives each kernel with a source**, and it is found. -/
theorem Valid.exists_executionSlot? (h : g.Valid) {s : KernelSource} (hs : g.source? k = some s) :
    ∃ i, g.executionSlot? k = some i ∧ ∀ j, g.Drives k j ↔ j = i := by
  cases hslot : g.executionSlot? k with
  | some i =>
    have hi := drives_of_executionSlot? hslot
    exact ⟨i, rfl, fun j => ⟨fun hj => h.drives_inj hs hj hi, fun hj => hj ▸ hi⟩⟩
  | none =>
    obtain ⟨position, hposition⟩ := h.kernels k s hs
    obtain ⟨e, he, hk, hexecutes⟩ : position ∈ g.driving k := hposition ▸ rfl
    have hmem : e ∈ (g.kernelEdges k).map Prod.fst := by
      rw [map_fst_kernelEdges, List.mem_filter, decide_eq_true_eq]
      exact ⟨List.mem_of_getElem? he, hk⟩
    obtain ⟨⟨_, n⟩, hedge, rfl⟩ := List.mem_map.1 hmem
    rw [executionSlot?, Option.map_eq_none_iff, List.find?_eq_none] at hslot
    exact absurd (isExecutionSlot_iff.2 hexecutes) (hslot _ hedge)

/-! ## Slots in order -/

/-- **The bound slots are those of the kernel's edges**, in the order of the first edges. -/
theorem listsInOrder_boundInterfaces (g : Graph) (k : Int) :
    ListsInOrder (g.Binds k) (g.firstEdge k) ((g.boundInterfaces k).map Prod.fst) where
  mem_iff i := by
    rw [binds_iff, List.mem_map]
    constructor
    · rintro ⟨⟨_, x⟩, hx, rfl⟩
      exact ⟨x, hx⟩
    · rintro ⟨x, hx⟩
      exact ⟨(i, x), hx, rfl⟩
  ordered := by
    rw [map_fst_boundInterfaces]
    exact (g.pairwise_boundSlots k).filter _

/-- An output edge of the kernel to a slot whose interface has the property. -/
def isOutput (g : Graph) (k : Int) (wanted : Interface → Bool) (e : Edge) : Bool :=
  e.kernel = k && !e.input && (g.interface? e.interface).any fun x => wanted x.interface

theorem outputSlots_eq (g : Graph) (k : Int) (wanted : Interface → Bool) :
    g.outputSlots k wanted =
      distinct ((g.edges.filter (g.isOutput k wanted)).map Edge.interface) := by
  rw [outputSlots]
  congr 1
  calc (g.kernelEdges k).filterMap _
      = (g.kernelEdges k).filterMap ((fun e : Edge =>
          if g.isOutput k wanted e then some e.interface else none) ∘ Prod.fst) := by
        refine List.filterMap_congr fun x hx => ?_
        have hk : x.1.kernel = k := of_decide_eq_true (List.mem_filter.1 hx).2
        dsimp only [Function.comp_apply]
        rw [isOutput]
        cases g.interface? x.1.interface with
        | none => simp
        | some d => simp [hk]
    _ = (g.edges.filter fun e => e.kernel = k).filterMap fun e =>
          if g.isOutput k wanted e then some e.interface else none := by
        rw [← List.filterMap_map, map_fst_kernelEdges]
    _ = g.edges.filterMap fun e => if g.isOutput k wanted e then some e.interface else none := by
        rw [List.filterMap_filter]
        refine List.filterMap_congr fun e _ => ?_
        by_cases hk : e.kernel = k
        · simp [hk]
        · simp [isOutput, hk]
    _ = (g.edges.filter (g.isOutput k wanted)).map Edge.interface := by
        rw [← List.filterMap_filter, List.filterMap_eq_map']

/-- **The slots of a hook are those that the kernel writes to and that want it**, in the order of
    the first output edges. -/
theorem listsInOrder_outputSlots (g : Graph) (k : Int) (wanted : Interface → Bool) :
    ListsInOrder (g.Writes k wanted) (g.firstOutput k) (g.outputSlots k wanted) := by
  have hmem : ∀ i, i ∈ g.outputSlots k wanted ↔ g.Writes k wanted i := by
    intro i
    rw [outputSlots_eq, mem_distinct, List.mem_map]
    simp only [List.mem_filter, isOutput, Bool.and_eq_true, decide_eq_true_eq, Option.any_eq_true,
      Bool.not_eq_true', Writes]
    constructor
    · rintro ⟨e, ⟨he, ⟨hk, hinput⟩, x, hx, hwanted⟩, rfl⟩
      exact ⟨⟨e, he, hk, rfl, hinput⟩, x, hx, hwanted⟩
    · rintro ⟨⟨e, he, hk, rfl, hinput⟩, x, hx, hwanted⟩
      exact ⟨e, ⟨he, ⟨hk, hinput⟩, x, hx, hwanted⟩, rfl⟩
  refine ⟨hmem, ?_⟩
  -- at a slot that wants the hook, every output edge counts
  have hposition : ∀ i ∈ g.outputSlots k wanted,
      (g.edges.findIdx fun e => g.isOutput k wanted e && e.interface = i) = g.firstOutput k i := by
    intro i hi
    obtain ⟨_, x, hx, hwanted⟩ := (hmem i).1 hi
    rw [firstOutput]
    congr 1
    funext e
    by_cases he : e.interface = i
    · simp [isOutput, he, hx, hwanted]
    · simp [he]
  have hordered := pairwise_distinct (g.isOutput k wanted) Edge.interface g.edges
  rw [← outputSlots_eq] at hordered
  refine hordered.imp_of_mem fun {i j} hi hj hlt => ?_
  rwa [hposition i hi, hposition j hj] at hlt

/-! ## Invocations -/

/-- A bound slot is listed as primary if it is found to be in the group. -/
theorem mem_primary {n : Nat} {kernel : Kernel} {s : KernelSource} {build : Option KernelBuild}
    {p : Int × DataInterface} (hp : p ∈ g.boundInterfaces n)
    (hgroup : ((g.executionSlot? n).isSome && decide ((g.group? p.1).getD 0 =
      ((g.executionSlot? n).bind g.group?).getD 0)) = true) :
    p.1 ∈ (g.invocation n kernel s build).primary :=
  List.mem_map.2 ⟨⟨p.1, _⟩, List.mem_filter.2 ⟨List.mem_map.2 ⟨p, hp, rfl⟩, hgroup⟩, rfl⟩

/-- **The invocation of a kernel classifies its slots.** -/
theorem classifies_invocation (hbuilt : g.Built) (hvalid : g.Valid) {n : Nat} {s : KernelSource}
    (hs : g.source? n = some s) (kernel : Kernel) (build : Option KernelBuild) :
    g.Classifies n (g.invocation n kernel s build) := by
  obtain ⟨slot, hslot, hdrives⟩ := hvalid.exists_executionSlot? hs
  obtain ⟨_, _, _, _, x, hx, _⟩ := (hdrives slot).2 rfl
  obtain ⟨group, hgroup⟩ := hbuilt.exists_group? hx
  have hprimary : ∀ {i x}, g.interface? i = some x →
      (((g.executionSlot? n).isSome && decide ((g.group? i).getD 0 =
        ((g.executionSlot? n).bind g.group?).getD 0)) = true ↔ g.group? i = some group) := by
    intro i x hx
    obtain ⟨group', hgroup'⟩ := hbuilt.exists_group? hx
    simp [hslot, hgroup, hgroup']
  have hexecution : (g.invocation n kernel s build).executionSlot = slot := by
    show (g.executionSlot? n).getD (-1) = slot
    rw [hslot, Option.getD_some]
  have hbinding : (g.invocation n kernel s build).bindingGroup = group := by
    show ((g.executionSlot? n).bind g.group?).getD 0 = group
    rw [hslot, Option.bind_some, hgroup, Option.getD_some]
  have hslots : ∀ b ∈ (g.invocation n kernel s build).slots,
      (b.primary = true ↔ g.group? b.index = some group) := by
    intro b hb
    obtain ⟨⟨i, x⟩, hx, rfl⟩ := List.mem_map.1 hb
    exact hprimary (interface?_of_mem hx)
  refine ⟨hexecution ▸ hdrives, by rw [hexecution, hbinding, hgroup], ?_, hbinding ▸ hslots, ?_,
    g.listsInOrder_outputSlots n _, g.listsInOrder_outputSlots n _,
    g.listsInOrder_outputSlots n _⟩
  · have hindices : (g.invocation n kernel s build).slots.map BoundSlot.index =
        (g.boundInterfaces n).map Prod.fst := List.map_map
    rw [hindices]
    exact g.listsInOrder_boundInterfaces n
  · have hunified : (g.invocation n kernel s build).unifiedDispatch = true ↔
        ∀ p ∈ g.boundInterfaces n, g.group? p.1 = some group → p.2.interface.unified = true := by
      refine List.all_eq_true.trans (forall₂_congr fun p hp => ?_)
      rw [Bool.or_eq_true, Bool.not_eq_true', ← Bool.not_eq_true, hprimary (interface?_of_mem hp),
        ← imp_iff_not_or]
    rw [hunified]
    constructor
    · intro h i hi x hx
      obtain ⟨b, hb, rfl⟩ := List.mem_map.1 hi
      obtain ⟨hb, hbprimary⟩ := List.mem_filter.1 hb
      obtain ⟨p, hp, rfl⟩ := List.mem_map.1 hb
      cases (interface?_of_mem hp).symm.trans hx
      exact h p hp ((hprimary hx).1 hbprimary)
    · intro h p hp hgroup'
      have hx := interface?_of_mem hp
      exact h p.1 (mem_primary hp ((hprimary hx).2 hgroup')) p.2 hx

end

/-! ## The capability of secondary slots -/

section
variable {g g' : Graph} {kept : List Int} {k : Int}

namespace Recapable

variable (h : Recapable kept g g')
include h

/-- A slot is empty in both graphs, or its interfaces differ in the capability at most. -/
theorem interface?_cases (i : Int) : (g.interface? i = none ∧ g'.interface? i = none) ∨
    ∃ x x', g.interface? i = some x ∧ g'.interface? i = some x' ∧
      x'.interface = { x.interface with unified := x'.interface.unified } ∧
        (i ∈ kept → x'.interface.unified = x.interface.unified) := by
  have hrel := h.interfaces i
  revert hrel
  generalize g.interface? i = slot
  generalize g'.interface? i = slot'
  rintro (⟨hsame, hkept⟩ | _)
  · exact .inr ⟨_, _, rfl, rfl, hsame, hkept⟩
  · exact .inl ⟨rfl, rfl⟩

theorem isExecutionSlot (i : Int) :
    executionSlot?.isExecutionSlot g' i = executionSlot?.isExecutionSlot g i := by
  rw [executionSlot?.isExecutionSlot, executionSlot?.isExecutionSlot]
  rcases h.interface?_cases i with ⟨hx, hx'⟩ | ⟨x, x', hx, hx', hsame, _⟩
  · rw [hx, hx']
  · simp only [hx, hx']
    rw [hsame]

theorem executionSlot? (k : Int) : g'.executionSlot? k = g.executionSlot? k := by
  rw [Graph.executionSlot?, Graph.executionSlot?, kernelEdges, kernelEdges, h.edges]
  congr 2
  funext e
  exact h.isExecutionSlot e.1.interface

theorem boundSlots (k : Int) : g'.boundSlots k = g.boundSlots k := by
  rw [boundSlots_eq, boundSlots_eq, h.edges]

end Recapable

/-- **Secondary slots do not decide** whether one dispatch is enough. -/
theorem Recapable.unifiedDispatch {n : Nat} {kernel kernel' : Kernel} {s s' : KernelSource}
    {build build' : Option KernelBuild}
    (h : Recapable (g.invocation n kernel s build).primary g g') :
    (g'.invocation n kernel' s' build').unifiedDispatch =
      (g.invocation n kernel s build).unifiedDispatch := by
  have hgroup : g'.group? = g.group? := by
    funext i
    rw [group?, group?, h.groups]
  show (g'.boundInterfaces n).all _ = (g.boundInterfaces n).all _
  rw [boundInterfaces, boundInterfaces, h.boundSlots, List.all_filterMap, List.all_filterMap,
    h.executionSlot?, hgroup, Bool.eq_iff_iff, List.all_eq_true, List.all_eq_true]
  refine forall₂_congr fun i hi => ?_
  rcases h.interface?_cases i with ⟨hx, hx'⟩ | ⟨x, x', hx, hx', _, hkept⟩
  · rw [hx, hx']
  · rw [hx, hx']
    dsimp only [Option.map_some]
    rw [Bool.or_eq_true, Bool.or_eq_true]
    refine or_congr_right' fun hprimary => ?_
    rw [Bool.not_eq_true', Bool.not_eq_false] at hprimary
    rw [hkept (mem_primary (mem_boundInterfaces.2 ⟨hi, hx⟩) hprimary)]

end

/-! ## Plans -/

section
variable {g : Graph} {n : Nat} {kernel : Kernel} {s : KernelSource}

/-- **A plan has one invocation** of each kernel with a source. -/
theorem mem_plan_iff (hkernel : g.kernel? n = some kernel) (hsource : kernel.source = some s)
    {generation : Nat} {level : FeatureLevel} {builds : List (Nat × KernelBuild)}
    {v : Invocation} :
    v ∈ (g.plan generation level builds).invocations ∧ v.kernel = n ↔
      v = g.invocation n kernel s (builds.lookup n) := by
  constructor
  · rintro ⟨hv, rfl⟩
    obtain ⟨⟨k, kernel', s'⟩, hmem, rfl⟩ := List.mem_map.1 hv
    obtain ⟨hkernel', hsource'⟩ := mem_compilable.1 hmem
    cases hkernel.symm.trans hkernel'
    cases hsource.symm.trans hsource'
    rfl
  · rintro rfl
    exact ⟨List.mem_map.2 ⟨_, mem_compilable.2 ⟨hkernel, hsource⟩, rfl⟩, rfl⟩

/-- **Plans classify slots by the edges.**  A plan of a valid graph has one invocation of each
    kernel with a source, which classifies the slots of the kernel.  Whether one dispatch is enough
    does not depend on the capability of the slots that are not primary. -/
theorem plan_classifies (hbuilt : g.Built) (hvalid : g.validate = .ok ())
    (hs : g.source? n = some s) (generation : Nat) (level : FeatureLevel)
    (builds : List (Nat × KernelBuild)) :
    ∃ v, (∀ v', v' ∈ (g.plan generation level builds).invocations ∧ v'.kernel = n ↔ v' = v) ∧
      g.Classifies n v ∧
      ∀ g', Recapable v.primary g g' → ∀ generation' level' builds',
        ∃ v', (∀ w, w ∈ (g'.plan generation' level' builds').invocations ∧ w.kernel = n ↔
          w = v') ∧ v'.unifiedDispatch = v.unifiedDispatch := by
  obtain ⟨kernel, hkernel, hsource⟩ := Option.bind_eq_some_iff.1 hs
  refine ⟨_, fun v' => mem_plan_iff hkernel hsource,
    classifies_invocation hbuilt (validate_eq_ok.1 hvalid) hs kernel _,
    fun g' h generation' level' builds' => ⟨_, fun w => mem_plan_iff ?_ hsource, h.unifiedDispatch⟩⟩
  rw [kernel?, h.kernels]
  exact hkernel

/-- A kernel that is driven by slot 0, and that writes to slot 1 of the same group and to slot 3 of
    another.  Slot 2 is empty.  Slot 3 may or may not be capable of unified dispatch. -/
def hooked (unified : Bool) : Graph :=
  { (((({ name := "G" : Graph }.addInterface (some (.execution 64)) 1).addInterface
      (some (.buffer { unified := true, readback := true })) 1).addInterface none 1).addInterface
      (some (.buffer { unified, readback := true, preSubmit := true })) 0) with
    kernels := [some ⟨"K", some {}⟩]
    edges :=
      [{ interface := 3 }, { interface := 0, input := true }, { interface := 2 },
       { interface := 1, input := true }, { interface := 1 }, { interface := 3 }] }

theorem built_hooked (unified : Bool) : (hooked unified).Built :=
  (((((Built.empty "G").addInterface _ _).addInterface _ _).addInterface _ _).addInterface
    _ _).edit rfl rfl

theorem recapable_hooked : Recapable [0, 1] (hooked false) (hooked true) where
  kernels := rfl
  edges := rfl
  groups := rfl
  interfaces
    | .negSucc i => by
      have h : Int.negSucc i < 0 := Int.negSucc_lt_zero i
      rw [interface?, interface?, elementAt?, elementAt?, if_pos h, if_pos h]
      exact .none
    | 0 => .some ⟨rfl, fun _ => rfl⟩
    | 1 => .some ⟨rfl, fun _ => rfl⟩
    | 2 => .none
    | 3 => .some ⟨rfl, fun h => absurd h (by decide)⟩
    | .ofNat (_ + 4) => .none

theorem plan_classifies_hooked : (hooked false).validate = .ok () ∧
    ∃ v ∈ ((hooked false).plan 1 .sm5 []).invocations,
      (hooked false).Classifies 0 v ∧ v.executionSlot = 0 ∧ v.bindingGroup = 1 ∧
        v.slots = [⟨3, false⟩, ⟨0, true⟩, ⟨1, true⟩] ∧ v.unifiedDispatch = true ∧
        v.readback = [3, 1] ∧ v.preSubmit = [3] ∧ v.postSubmit = [] ∧
        ∃ v' ∈ ((hooked true).plan 2 .sm5 []).invocations, v'.unifiedDispatch = true := by
  have hvalid : (hooked false).validate = .ok () := rfl
  obtain ⟨v, hv, hclassifies, hrecapable⟩ :=
    plan_classifies (n := 0) (built_hooked false) hvalid rfl 1 .sm5 []
  obtain ⟨hmem, _⟩ := (hv v).2 rfl
  cases List.mem_singleton.1 hmem
  obtain ⟨v', hv', hunified⟩ := hrecapable (hooked true) recapable_hooked 2 .sm5 []
  exact ⟨hvalid, _, hmem, hclassifies, rfl, rfl, rfl, rfl, rfl, rfl, rfl,
    v', ((hv' v').2 rfl).1, hunified⟩

end

/-! ## With and without a build -/

/-- The list has the slots that a kernel visits, with their interfaces: the bound ones, each once,
    in the order of the first edges. -/
structure Visits (g : Graph) (k : Int) (is : List (Int × DataInterface)) : Prop where
  slots : ListsInOrder (g.Binds k) (g.firstEdge k) (is.map Prod.fst)
  interfaces : ∀ p ∈ is, g.interface? p.1 = some p.2

section
variable {g : Graph} {k : Int} {is is' : List (Int × DataInterface)}

theorem visits_boundInterfaces (g : Graph) (k : Int) : g.Visits k (g.boundInterfaces k) :=
  ⟨g.listsInOrder_boundInterfaces k, fun _ => interface?_of_mem⟩

theorem Visits.mem_iff (h : g.Visits k is) {p : Int × DataInterface} :
    p ∈ is ↔ g.Binds k p.1 ∧ g.interface? p.1 = some p.2 := by
  rw [← h.slots.mem_iff]
  constructor
  · exact fun hp => ⟨List.mem_map_of_mem hp, h.interfaces p hp⟩
  · rintro ⟨hslot, hx⟩
    obtain ⟨q, hq, hsame⟩ := List.mem_map.1 hslot
    have hinterface := h.interfaces q hq
    rw [hsame, hx] at hinterface
    rwa [← Prod.ext hsame (Option.some.inj hinterface).symm]

/-- **The edges say which slots are visited, and in which order.** -/
theorem Visits.unique (h : g.Visits k is) (h' : g.Visits k is') : is = is' := by
  have hordered := List.pairwise_map.1 h.slots.ordered
  have hordered' := List.pairwise_map.1 h'.slots.ordered
  have hirrefl : ∀ {p q : Int × DataInterface}, g.firstEdge k p.1 < g.firstEdge k q.1 → p ≠ q :=
    fun hlt heq => Nat.lt_irrefl _ (heq ▸ hlt)
  have hperm : is.Perm is' := (List.perm_ext_iff_of_nodup (hordered.imp hirrefl)
    (hordered'.imp hirrefl)).2 fun p => h.mem_iff.trans h'.mem_iff.symm
  exact hperm.eq_of_pairwise (fun p q _ _ hlt hgt => absurd hlt (Nat.lt_asymm hgt))
    hordered hordered'

end

section
variable {g : Graph} {k : Nat} {kernel : Kernel} {s : KernelSource} {b : KernelBuild}
  {files : FileStore} {registry : Nat} {d : Dialect} {format : String}

/-- **An invocation is the same with the build of its kernel and without.** -/
theorem invocation_build (hbuild : (g.build files registry k d format).result = .ok b) :
    g.invocation k kernel s (some b) = g.invocation k kernel s none := by
  obtain ⟨s', _, _, _, hs, _, hassemble⟩ := build_eq_ok.1 hbuild
  obtain ⟨_, hpermutations, hlayout, _⟩ := assemble_fields hassemble
  rw [Int.toNat_natCast] at hpermutations hlayout
  simp only [invocation, hlayout, hpermutations, permutationVector?, hs, Option.map_some]

/-- **A plan falls back to what the build has.**  If the build of a kernel succeeds, its
    permutations and its layout are what the kernel's source and the interfaces at the visited slots
    add up to, and so are the permutation vector and the metadata that the graph itself has for the
    kernel.  A plan has the same invocations, and that of the kernel has this layout and these
    permutations, whether or not the build is among the builds given. -/
theorem plan_falls_back (hbuild : (g.build files registry k d format).result = .ok b) :
    (∃ s is, g.source? k = some s ∧ (∀ is', g.Visits k is' ↔ is' = is) ∧
      b.permutations = is.foldl (fun v p => p.2.interface.permutations v)
        (PermutationVector.empty.addAll s.permutations) ∧
      b.layout = is.foldl (fun l p => l.addSlot p.1 p.2) { name := g.friendlyName k }) ∧
      g.permutationVectors[k]? = some (some b.permutations) ∧ g.metadata k = .ok b.layout ∧
      ∀ generation level builds builds', builds.lookup k = some b → builds'.lookup k = none →
        (∀ n, n ≠ k → builds.lookup n = builds'.lookup n) →
        g.plan generation level builds = g.plan generation level builds' ∧
          ∃ v, v.layout = b.layout ∧ v.permutations = some b.permutations ∧
            ∀ v', v' ∈ (g.plan generation level builds').invocations ∧ v'.kernel = k ↔ v' = v := by
  obtain ⟨s, _, _, hlt, hs, _, hassemble⟩ := build_eq_ok.1 hbuild
  obtain ⟨_, hpermutations, hlayout, _⟩ := assemble_fields hassemble
  rw [Int.toNat_natCast] at hpermutations hlayout
  have hlt := Int.ofNat_lt.1 hlt
  have hvector : g.permutationVector? k = some b.permutations := by
    rw [permutationVector?, hs, hpermutations, Option.map_some]
  refine ⟨⟨s, g.boundInterfaces k, hs, fun is' => ⟨fun h => h.unique (g.visits_boundInterfaces k),
    fun h => h ▸ g.visits_boundInterfaces k⟩, hpermutations, hlayout⟩, ?_, ?_,
    fun generation level builds builds' hwith hwithout hother => ⟨?_, ?_⟩⟩
  · rw [permutationVectors, List.getElem?_map, List.getElem?_range hlt, Option.map_some, hvector]
  · have hrange : ¬ ((k : Int) < 0 || decide ((g.kernels.length : Int) ≤ k)) = true := by
      simp only [Bool.or_eq_true, decide_eq_true_eq]
      omega
    rw [metadata, if_neg hrange, hlayout]
  · rw [plan, plan]
    congr 1
    refine List.map_congr_left ?_
    rintro ⟨n, kernel, s'⟩ _
    dsimp only
    by_cases hn : n = k
    · subst hn
      rw [hwith, hwithout, invocation_build hbuild]
    · rw [hother n hn]
  · obtain ⟨kernel, hkernel, hsource⟩ := Option.bind_eq_some_iff.1 hs
    refine ⟨g.invocation k kernel s none, hlayout.symm, hvector, fun v' => ?_⟩
    rw [mem_plan_iff hkernel hsource, hwithout]

end

/-- An interface that adds options. -/
def chooser (options : List PermutationOption) : DataInterface :=
  .custom { className := "X", permutations := fun v => v.addAll options }

/-- A kernel that visits two slots that share options with it, the first one twice, and an empty
    slot. -/
def choosingGraph : Graph where
  name := "G"
  kernels := [some ⟨"A", some { entryPoint := "Main", permutations := [⟨"QUALITY", 3⟩] }⟩]
  interfaces := [some (chooser [⟨"FAST", 2⟩, ⟨"QUALITY", 5⟩]), none, some (chooser [⟨"FAST", 4⟩])]
  edges := [{ interface := 2 }, { interface := 1 }, { interface := 0 }, { interface := 2 }]

/-- The options keep their places and take the larger counts, with the build and without. -/
theorem plan_falls_back_choosing : ∃ b,
    (choosingGraph.build Builtin.store Builtin.registryId 0 .wgsl "wgsl").result = .ok b ∧
      b.permutations.options = [⟨"QUALITY", 5⟩, ⟨"FAST", 4⟩] ∧
      choosingGraph.permutationVectors = [some b.permutations] ∧
      choosingGraph.plan 1 .sm5 [(0, b)] = choosingGraph.plan 1 .sm5 [] := by
  obtain ⟨b, hassemble⟩ : ∃ b, choosingGraph.assemble Builtin.store 0
      { entryPoint := "Main", permutations := [⟨"QUALITY", 3⟩] } .wgsl
      (FileStore.message "wgsl" Builtin.kernelWrapperText []).sum = .ok b := ⟨_, rfl⟩
  have hbuild := build_builtin (g := choosingGraph) (k := 0) (by decide) rfl hassemble
  obtain ⟨_, hvector, _, hplan⟩ := plan_falls_back hbuild
  have hvectors : choosingGraph.permutationVectors = [some ⟨[⟨"QUALITY", 5⟩, ⟨"FAST", 4⟩]⟩] := by
    decide
  have hsame : some ⟨[⟨"QUALITY", 5⟩, ⟨"FAST", 4⟩]⟩ = some b.permutations := by
    rw [hvectors] at hvector
    exact Option.some.inj hvector
  obtain ⟨hequal, _⟩ := hplan 1 .sm5 [(0, b)] [] rfl rfl fun n hn => by
    rw [List.lookup_cons, beq_false_of_ne hn]
  exact ⟨b, hbuild, congrArg PermutationVector.options (Option.some.inj hsame).symm,
    hvectors.trans (congrArg (fun v => [v]) hsame), hequal⟩

end Graph

end KernelGraph
