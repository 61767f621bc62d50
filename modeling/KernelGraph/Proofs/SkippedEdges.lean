/-
  Edges without a shim.

  An edge of a kernel has a shim if its slot is not empty and both of its functions exist (`Fits`).
  Every other edge is skipped, yet the build may still see it, since a slot is bound by any edge
  that names it:

  1. The assembled source has one shim for each edge that fits, in order (`HasShims`).

  2. An edge from an empty slot binds nothing, and an edge that does not fit binds nothing anew if
     an edge in front of it names the same slot (`Skips`).  In both cases the bound interfaces and
     the shims are the same without the edge (`Skips.sameConnections`), and so is the build.
-/
import KernelGraph.Proofs.Confinement
import KernelGraph.Proofs.TranslationUnit

namespace KernelGraph

/-! ## The functions of an edge -/

namespace Edge

/-- The functions that an interface offers to the edge. -/
def offered (e : Edge) (x : DataInterface) : List Function :=
  if e.input then x.interface.inputs else x.interface.outputs

/-- The functions of the kernel that the edge may stand for. -/
def asked (e : Edge) (s : KernelSource) : List Function :=
  if e.input then s.inputs else s.outputs

end Edge

namespace Graph

/-- The edge comes from a slot that is not empty, and both of its functions exist. -/
def Fits (g : Graph) (s : KernelSource) (e : Edge) : Prop :=
  ∃ x ∈ g.interface? e.interface,
    (0 ≤ e.interfaceFunction ∧ e.interfaceFunction < (e.offered x).length) ∧
      0 ≤ e.kernelFunction ∧ e.kernelFunction < (e.asked s).length

instance (g : Graph) (s : KernelSource) : DecidablePred (g.Fits s) := fun e =>
  inferInstanceAs (Decidable (∃ x ∈ g.interface? e.interface,
    (0 ≤ e.interfaceFunction ∧ e.interfaceFunction < (e.offered x).length) ∧
      0 ≤ e.kernelFunction ∧ e.kernelFunction < (e.asked s).length))

/-- What the shim of an edge consists of. -/
structure IsShim (g : Graph) (k : Int) (s : KernelSource) (e : Edge) (f : Shim) : Prop where
  impl : ∃ x, g.interface? e.interface = some x ∧
    elementAt? (e.offered x) e.interfaceFunction = some f.impl
  wrap : elementAt? (e.asked s) e.kernelFunction = some f.wrap
  uid : f.uid = ((g.layout k).scope e.interface).uid
  rename : f.rename = e.rename
  scope : f.scope = e.scope

/-- The source of the build has one shim for each edge of the kernel that fits, in the order of the
    edges, and none for any other.  They stand between what the interfaces contribute and the
    body. -/
def HasShims (g : Graph) (k : Int) (s : KernelSource) (b : KernelBuild) : Prop :=
  ∃ cs shims, List.Forall₂ (g.Contributes k) (g.boundInterfaces k) cs ∧
    List.Forall₂ (g.IsShim k s) (g.edges.filter fun e => e.kernel = k ∧ g.Fits s e) shims ∧
    b.source = String.join ((structDeclarations (g.boundInterfaces k)).map (· ++ "\n")) ++
      String.join ((s.pool.gather s.sources).map fun x => b.dialect.includeLine x.path) ++
      String.join (cs.map fun c => c.text b.dialect) ++
      String.join (shims.map b.dialect.shim) ++ s.body

/-- The same graph without the edge at a position. -/
def disconnect (g : Graph) (i : Nat) : Graph := { g with edges := g.edges.eraseIdx i }

/-- The edge at the position is one of the kernel's.  It comes from an empty slot, or it does not
    fit and an edge of the kernel in front of it names the same slot. -/
def Skips (g : Graph) (k : Int) (s : KernelSource) (i : Nat) : Prop :=
  ∃ e, g.edges[i]? = some e ∧ e.kernel = k ∧
    (g.interface? e.interface = none ∨
      ¬ g.Fits s e ∧ ∃ j < i, ∃ e', g.edges[j]? = some e' ∧ e'.kernel = k ∧
        e'.interface = e.interface)

/-! ## Shims -/

section
variable {g : Graph} {k : Int} {s : KernelSource} {e : Edge} {f : Shim}

theorem isSome_elementAt? {α : Type} {xs : List α} {i : Int} :
    (elementAt? xs i).isSome ↔ 0 ≤ i ∧ i < xs.length := by
  rw [elementAt?]
  split
  · rename_i h
    simp [h]
  · rw [Option.isSome_iff_ne_none, ne_eq, List.getElem?_eq_none_iff]
    omega

theorem edgeFunctions?_eq {x : DataInterface} : edgeFunctions? x s e =
    (elementAt? (e.offered x) e.interfaceFunction).bind fun impl =>
      (elementAt? (e.asked s) e.kernelFunction).map fun wrap => (impl, wrap) := by
  have hpair : (if e.input then (x.interface.inputs, s.inputs)
      else (x.interface.outputs, s.outputs)) = (e.offered x, e.asked s) := by
    rw [Edge.offered, Edge.asked]
    split
    · rfl
    · rfl
  rw [edgeFunctions?, hpair]
  dsimp only
  cases elementAt? (e.offered x) e.interfaceFunction with
  | none => rfl
  | some impl => cases elementAt? (e.asked s) e.kernelFunction with
    | none => rfl
    | some wrap => rfl

/-- **The edges that fit** are those with a shim. -/
theorem fits_iff : g.Fits s e ↔ (g.edgeShim? s e).isSome := by
  rw [Fits, edgeShim?]
  cases g.interface? e.interface with
  | none => simp
  | some x =>
    simp only [Option.mem_def, Option.some.injEq, exists_eq_left', ← isSome_elementAt?]
    rw [edgeFunctions?_eq]
    cases elementAt? (e.offered x) e.interfaceFunction with
    | none => simp
    | some impl => simp

/-- The shim of an edge of the kernel. -/
theorem isShim_of_edgeShim? (he : e ∈ g.edges) (hk : e.kernel = k) (h : g.edgeShim? s e = some f) :
    g.IsShim k s e f := by
  rw [edgeShim?] at h
  cases hx : g.interface? e.interface with
  | none =>
    rw [hx] at h
    cases h
  | some x =>
    rw [hx] at h
    obtain ⟨⟨impl, wrap⟩, hfunctions, rfl⟩ := Option.map_eq_some_iff.1 h
    rw [edgeFunctions?_eq, Option.bind_eq_some_iff] at hfunctions
    obtain ⟨_, himpl, hwrap⟩ := hfunctions
    obtain ⟨_, hwrap, heq⟩ := Option.map_eq_some_iff.1 hwrap
    cases heq
    have hbound : (e.interface, x) ∈ g.boundInterfaces k :=
      mem_boundInterfaces.2 ⟨mem_boundSlots.2 ⟨e, he, hk, rfl⟩, hx⟩
    exact ⟨⟨x, hx, himpl⟩, hwrap, (uid_scope_layout hbound).symm, rfl, rfl⟩

/-- What a filter keeps is related to what it is mapped to. -/
theorem forall₂_filterMap {α β : Type} {p : α → Bool} {f : α → Option β} {R : α → β → Prop}
    {xs : List α} (hp : ∀ x ∈ xs, p x = (f x).isSome)
    (hR : ∀ x ∈ xs, ∀ y, f x = some y → R x y) :
    List.Forall₂ R (xs.filter p) (xs.filterMap f) := by
  induction xs with
  | nil => exact .nil
  | cons x xs ih =>
    have hrest := ih (fun y hy => hp y (List.mem_cons_of_mem _ hy))
      fun y hy => hR y (List.mem_cons_of_mem _ hy)
    have hx := hp x (List.mem_cons_self ..)
    cases hf : f x with
    | none =>
      rw [hf] at hx
      rwa [List.filter_cons_of_neg (by simp [hx]), List.filterMap_cons_none hf]
    | some y =>
      rw [hf] at hx
      rw [List.filter_cons_of_pos (by simp [hx]), List.filterMap_cons_some hf]
      exact .cons (hR x (List.mem_cons_self ..) y hf) hrest

/-- **Every edge that fits has one shim**, in the order of the edges. -/
theorem isShim_shims (g : Graph) (k : Int) (s : KernelSource) :
    List.Forall₂ (g.IsShim k s) (g.edges.filter fun e => e.kernel = k ∧ g.Fits s e)
      (g.shims k s) := by
  have hfilter : (g.edges.filter fun e => e.kernel = k ∧ g.Fits s e) =
      (g.edges.filter fun e => e.kernel = k).filter fun e => g.Fits s e := by
    rw [List.filter_filter]
    exact List.filter_congr fun e _ => by rw [Bool.and_comm, Bool.decide_and]
  rw [hfilter, shims_eq]
  refine forall₂_filterMap (fun e _ => ?_) fun e he f hf => ?_
  · rw [Bool.eq_iff_iff, decide_eq_true_eq]
    exact fits_iff
  · obtain ⟨he, hk⟩ := List.mem_filter.1 he
    exact isShim_of_edgeShim? he (of_decide_eq_true hk) hf

theorem hasShims_of_assemble {b : KernelBuild} {files : FileStore} {k : Nat} {d : Dialect}
    {w : Digest} (h : g.assemble files k s d w = .ok b) : g.HasShims k s b := by
  obtain ⟨cs, hcs, _, _, _, _, hsource⟩ := assemble_parts h
  obtain ⟨_, _, _, rfl⟩ := assemble_fields h
  exact ⟨cs, _, contributes_of_contributions hcs, g.isShim_shims k s, hsource⟩

/-! ## Edges that bind nothing -/

/-- The first of equal elements are kept with or without a repetition. -/
theorem distinct_append_cons_of_mem {α : Type} [BEq α] [LawfulBEq α] {xs : List α} {a : α}
    (h : a ∈ xs) (ys : List α) : distinct (xs ++ a :: ys) = distinct (xs ++ ys) := by
  have hold : (distinct xs).contains a = true := List.contains_iff_mem.2 (mem_distinct.2 h)
  rw [distinct, distinct, List.foldl_append, List.foldl_append, List.foldl_cons]
  show List.foldl _ (if (distinct xs).contains a then distinct xs else _) ys = _
  rw [if_pos hold]
  rfl

theorem filter_distinct {α : Type} [BEq α] [LawfulBEq α] (p : α → Bool) (xs : List α) :
    (distinct xs).filter p = distinct (xs.filter p) := by
  induction xs using List.reverseRecOn with
  | nil => rfl
  | append_singleton xs x ih =>
    rw [distinct_concat, List.filter_append]
    by_cases hx : p x
    · rw [List.filter_cons_of_pos hx, List.filter_nil, distinct_concat, ← ih]
      have hkept : ((distinct xs).filter p).contains x = (distinct xs).contains x := by
        simp [hx]
      rw [hkept]
      split
      · rfl
      · rw [List.filter_append, List.filter_cons_of_pos hx, List.filter_nil]
    · rw [List.filter_cons_of_neg hx, List.filter_nil, List.append_nil]
      split
      · exact ih
      · rw [List.filter_append, List.filter_cons_of_neg hx, List.filter_nil, List.append_nil, ih]

/-- The bound interfaces are those at the slots that are not empty. -/
theorem boundInterfaces_eq (g : Graph) (k : Int) : g.boundInterfaces k =
    (distinct (((g.edges.filter fun e => e.kernel = k).map Edge.interface).filter fun i =>
      (g.interface? i).isSome)).filterMap fun i => (g.interface? i).map fun x => (i, x) := by
  rw [boundInterfaces, boundSlots_eq, ← filter_distinct, List.filterMap_filter]
  refine List.filterMap_congr fun i _ => ?_
  cases g.interface? i with
  | none => rfl
  | some x => rfl

variable {i : Nat}

/-- An edge of the kernel stands between the edges in front of it and those behind. -/
theorem filter_edges (he : g.edges[i]? = some e) (hk : e.kernel = k) :
    (g.edges.filter fun e => e.kernel = k) =
      ((g.edges.take i).filter fun e => e.kernel = k) ++
        e :: (g.edges.drop (i + 1)).filter fun e => e.kernel = k := by
  obtain ⟨hlt, rfl⟩ := List.getElem?_eq_some_iff.1 he
  conv_lhs => rw [← List.take_append_drop i g.edges, List.drop_eq_getElem_cons hlt]
  rw [List.filter_append, List.filter_cons_of_pos (by simpa using hk)]

theorem filter_edges_disconnect (g : Graph) (i : Nat) (k : Int) :
    ((g.disconnect i).edges.filter fun e => e.kernel = k) =
      ((g.edges.take i).filter fun e => e.kernel = k) ++
        (g.edges.drop (i + 1)).filter fun e => e.kernel = k := by
  rw [disconnect, List.eraseIdx_eq_take_drop_succ, List.filter_append]

namespace Skips

variable (h : g.Skips k s i)
include h

/-- **The same interfaces are bound** without the edge. -/
theorem boundInterfaces : (g.disconnect i).boundInterfaces k = g.boundInterfaces k := by
  obtain ⟨e, he, hk, hempty | ⟨_, j, hj, e', he', hk', hslot⟩⟩ := h
  · rw [boundInterfaces_eq, boundInterfaces_eq, filter_edges he hk, filter_edges_disconnect,
      List.map_append, List.map_append, List.map_cons, List.filter_append, List.filter_append,
      List.filter_cons_of_neg (by simp [hempty])]
    rfl
  · have hnamed : e.interface ∈
        ((g.edges.take i).filter fun e => e.kernel = k).map Edge.interface := by
      refine List.mem_map.2 ⟨e', List.mem_filter.2 ⟨?_, decide_eq_true hk'⟩, hslot⟩
      obtain ⟨hlt, rfl⟩ := List.getElem?_eq_some_iff.1 he'
      exact List.mem_take_iff_getElem.2 ⟨j, by omega, rfl⟩
    rw [Graph.boundInterfaces, Graph.boundInterfaces, boundSlots_eq, boundSlots_eq,
      filter_edges he hk, filter_edges_disconnect, List.map_append, List.map_append, List.map_cons,
      distinct_append_cons_of_mem hnamed]
    rfl

/-- **The shims are the same** without the edge. -/
theorem shims : (g.disconnect i).shims k s = g.shims k s := by
  obtain ⟨e, he, hk, hskip⟩ := h
  have hnone : g.edgeShim? s e = none := by
    rcases hskip with hempty | ⟨hfits, _⟩
    · rw [edgeShim?, hempty]
    · rwa [fits_iff, Option.not_isSome_iff_eq_none] at hfits
  rw [shims_eq, shims_eq, filter_edges he hk, filter_edges_disconnect, List.filterMap_append,
    List.filterMap_append, List.filterMap_cons_none hnone]
  rfl

theorem sameConnections (hs : g.source? k = some s) : g.SameConnections (g.disconnect i) k :=
  ⟨rfl, rfl, h.boundInterfaces, fun s' hs' => by
    cases hs.symm.trans hs'
    exact h.shims⟩

end Skips

/-- **Skipped edges are inert.**  A build has one shim for each edge that fits, and none for any
    other.  Without an edge that is skipped, in a way that leaves no slot unbound, the result is the
    same, whether the build succeeds or not. -/
theorem skipped_edges_inert (hs : g.source? k = some s) (files : FileStore) (registry : Nat)
    (d : Dialect) (format : String) :
    (∀ b, (g.build files registry k d format).result = .ok b → g.HasShims k s b) ∧
      ∀ i, g.Skips k s i → ((g.disconnect i).build files registry k d format).result =
        (g.build files registry k d format).result := by
  constructor
  · intro b hb
    obtain ⟨s', _, h0, _, hs', _, hassemble⟩ := build_eq_ok.1 hb
    cases hs.symm.trans hs'
    obtain ⟨n, rfl⟩ := Int.eq_ofNat_of_zero_le h0
    exact hasShims_of_assemble hassemble
  · intro i h
    exact (h.sameConnections hs).result_build (Option.isSome_iff_exists.2 ⟨s, hs⟩)

end

/-- A kernel with two edges that fit, one from an empty slot, and one to a function that does not
    exist. -/
def sparseGraph : Graph :=
  { readingGraph with
    interfaces := readingGraph.interfaces ++ [none]
    edges := { interface := 2, input := true } :: readingGraph.edges ++
      [{ interface := 1, interfaceFunction := 7, input := true }] }

theorem skipped_edges_inert_sparse :
    (sparseGraph.build Builtin.store Builtin.registryId 0 .wgsl "wgsl").result =
        .ok readingBuild ∧
      sparseGraph.HasShims 0 readingSource readingBuild ∧
      (sparseGraph.edges.filter fun e => e.kernel = 0 ∧ sparseGraph.Fits readingSource e) =
        readingGraph.edges ∧
      ((sparseGraph.disconnect 0).build Builtin.store Builtin.registryId 0 .wgsl "wgsl").result =
        .ok readingBuild ∧
      ((sparseGraph.disconnect 3).build Builtin.store Builtin.registryId 0 .wgsl "wgsl").result =
        .ok readingBuild := by
  have hcurrent : Builtin.store.Current Builtin.registryId := Lru.holds_empty _
  have hb : (sparseGraph.build Builtin.store Builtin.registryId 0 .wgsl "wgsl").result =
      .ok readingBuild :=
    build_eq_ok.2 ⟨readingSource, _, by decide, by decide, rfl, hcurrent.digest_eq_ok_iff.2
      (FileStore.hasDigest_leaf source?_wrapper_builtin included_wrapper), rfl⟩
  have hempty : sparseGraph.Skips 0 readingSource 0 := ⟨_, rfl, rfl, .inl rfl⟩
  have hmisfit : sparseGraph.Skips 0 readingSource 3 :=
    ⟨_, rfl, rfl, .inr ⟨by decide, 1, by decide, _, rfl, rfl, rfl⟩⟩
  obtain ⟨hshims, hinert⟩ := skipped_edges_inert (g := sparseGraph) (k := 0) rfl Builtin.store
    Builtin.registryId .wgsl "wgsl"
  exact ⟨hb, hshims _ hb, by decide, (hinert 0 hempty).trans hb, (hinert 3 hmisfit).trans hb⟩

end Graph

end KernelGraph
