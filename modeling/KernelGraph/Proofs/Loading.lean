/-
  Loaded graphs are connected as their files say.

  The loader looks names up once and keeps positions, and everything later reads the positions: the
  validation, the shims of a build, the count of edges that do not fit.  So it matters that both
  sides mean the same lists, for each direction of an edge.

  1. A result of the loader is taken apart into the results of its steps (`resolveGraph_eq_ok`,
     `resolveEdge_eq_ok`).  Names are distinct where they are checked (`checkNames_eq_ok`), and the
     position of a function is that of the first one with the name (`picks_of_functionIndex?`).

  2. `Connects` says what an edge of the graph has to do with the edge that was declared.  From it
     follows that the edge points inside the graph and fits (`Connects.fits`), and so that its
     kernel is built with a shim for it.

  The factories are whatever was registered.  With those that the library brings along every
  interface is built in (`isBuiltin_of_create`), and no interface fails to find its parameters.
-/
import KernelGraph.GraphFile.Loader
import KernelGraph.Proofs.Declarations
import KernelGraph.Proofs.Build
import KernelGraph.Proofs.SkippedEdges
import KernelGraph.Proofs.Validation

namespace KernelGraph

theorem elementAt?_map {α β : Type} (f : α → β) (xs : List α) (i : Int) :
    elementAt? (xs.map f) i = (elementAt? xs i).map f := by
  rw [elementAt?, elementAt?]
  split
  · rfl
  · rw [List.getElem?_map]

namespace GraphFile

/-! ## Steps that succeed -/

section
variable {ε α β : Type}

theorem bind_eq_ok {r : Except ε α} {f : α → Except ε β} {b : β} :
    (r >>= f) = .ok b ↔ ∃ a, r = .ok a ∧ f a = .ok b := by
  cases r with
  | error e =>
    constructor
    · intro h
      cases h
    · rintro ⟨a, ha, -⟩
      cases ha
  | ok a =>
    constructor
    · intro h
      exact ⟨a, rfl, h⟩
    · rintro ⟨_, ha, h⟩
      cases ha
      exact h

/-- All elements are mapped, each to its own result. -/
theorem mapM_eq_ok {f : α → Except ε β} {xs : List α} {ys : List β} :
    xs.mapM f = .ok ys ↔ List.Forall₂ (fun x y => f x = .ok y) xs ys := by
  induction xs generalizing ys with
  | nil =>
    rw [List.mapM_nil, List.forall₂_nil_left_iff]
    constructor
    · intro h
      cases h
      rfl
    · rintro rfl
      rfl
  | cons x xs ih =>
    rw [List.mapM_cons, List.forall₂_cons_left_iff, bind_eq_ok]
    constructor
    · rintro ⟨y, hy, h⟩
      obtain ⟨ys', hys, h⟩ := bind_eq_ok.1 h
      cases h
      exact ⟨y, ys', hy, ih.1 hys, rfl⟩
    · rintro ⟨y, ys', hy, hys, rfl⟩
      exact ⟨y, hy, bind_eq_ok.2 ⟨ys', ih.2 hys, rfl⟩⟩

theorem inside_eq_ok {place : Place} {r : Except Problem α} {a : α} :
    inside place r = .ok a ↔ r = .ok a := by
  cases r with
  | error e => exact ⟨nofun, nofun⟩
  | ok b => exact Iff.rfl

end

/-! ## Names -/

theorem firstRepeated?_eq_none {seen names : List String} :
    firstRepeated? seen names = none ↔ names.Nodup ∧ ∀ n ∈ names, n ∉ seen := by
  induction names generalizing seen with
  | nil => exact ⟨fun _ => ⟨List.nodup_nil, fun n hn => absurd hn List.not_mem_nil⟩, fun _ => rfl⟩
  | cons n names ih =>
    rw [firstRepeated?]
    by_cases hn : n ∈ seen
    · rw [if_pos (List.contains_iff_mem.2 hn)]
      exact ⟨nofun, fun h => absurd hn (h.2 n (List.mem_cons_self ..))⟩
    · rw [if_neg (fun h => hn (List.contains_iff_mem.1 h)), ih, List.nodup_cons]
      constructor
      · rintro ⟨hnodup, hnew⟩
        refine ⟨⟨fun h => hnew n h (List.mem_cons_self ..), hnodup⟩, fun m hm => ?_⟩
        rcases List.mem_cons.1 hm with rfl | hm
        · exact hn
        · exact fun h => hnew m hm (List.mem_cons_of_mem _ h)
      · rintro ⟨⟨hnames, hnodup⟩, hnew⟩
        refine ⟨hnodup, fun m hm h => ?_⟩
        rcases List.mem_cons.1 h with rfl | h
        · exact hnames hm
        · exact hnew m (List.mem_cons_of_mem _ hm) h

/-- Names are accepted when none is used twice. -/
theorem checkNames_eq_ok {kind : String} {names : List String} :
    checkNames kind names = .ok () ↔ names.Nodup := by
  have h : firstRepeated? [] names = none ↔ names.Nodup ∧ ∀ n ∈ names, n ∉ [] :=
    firstRepeated?_eq_none
  rw [checkNames]
  cases hfirst : firstRepeated? [] names with
  | none =>
    rw [hfirst] at h
    exact ⟨fun _ => (h.1 rfl).1, fun _ => rfl⟩
  | some n =>
    rw [hfirst] at h
    exact ⟨nofun, fun hnodup => nomatch h.2 ⟨hnodup, fun _ _ => List.not_mem_nil⟩⟩

/-- The position is that of the first function with the name. -/
def Picks (fs : List Function) (i : Int) (name : String) : Prop :=
  ∃ f, elementAt? fs i = some f ∧ f.name = name ∧
    ∀ j < i, ∀ f', elementAt? fs j = some f' → f'.name ≠ name

theorem Picks.mem {fs : List Function} {i : Int} {name : String} (h : Picks fs i name) :
    0 ≤ i ∧ i < fs.length := by
  obtain ⟨f, hf, -⟩ := h
  exact Graph.isSome_elementAt?.1 (by rw [hf]; rfl)

theorem picks_of_functionIndex? {fs : List Function} {name : String} {i : Nat}
    (h : functionIndex? fs name = some i) : Picks fs i name := by
  obtain ⟨hi, hname, hbefore⟩ := List.findIdx?_eq_some_iff_getElem.1 h
  refine ⟨fs[i], ?_, of_decide_eq_true hname, fun j hj f hf => ?_⟩
  · rw [elementAt?_natCast, List.getElem?_eq_getElem hi]
  · obtain ⟨n, rfl⟩ : ∃ n : Nat, j = n := Int.eq_ofNat_of_zero_le
      (Graph.isSome_elementAt?.1 (by rw [hf]; rfl)).1
    rw [elementAt?_natCast] at hf
    obtain ⟨hn, rfl⟩ := List.getElem?_eq_some_iff.1 hf
    have := hbefore n (by omega)
    simpa using this

theorem functionIndex?_eq_none {fs : List Function} {name : String} :
    functionIndex? fs name = none ↔ ¬ ∃ f ∈ fs, f.name = name := by
  rw [functionIndex?, List.findIdx?_eq_none_iff]
  simp

/-- A function of a kernel is found where the direction says. -/
theorem kernelFunction?_eq_some {s : KernelSource} {name : String} {input : Bool} {i : Nat}
    (h : kernelFunction? s name = some (input, i)) :
    Picks (if input then s.inputs else s.outputs) i name ∧
      (input = true ↔ ∃ f ∈ s.inputs, f.name = name) := by
  rw [kernelFunction?] at h
  split at h
  next n hn =>
    cases h
    refine ⟨picks_of_functionIndex? hn, fun _ => ?_, fun _ => rfl⟩
    by_contra hnone
    cases hn.symm.trans (functionIndex?_eq_none.2 hnone)
  next hn =>
    obtain ⟨n, hn', h⟩ := Option.map_eq_some_iff.1 h
    cases h
    exact ⟨picks_of_functionIndex? hn', nofun, fun hf => absurd hf (functionIndex?_eq_none.1 hn)⟩

/-! ## Steps of the loader -/

/-- What is found by name among named things stands at the position in both lists. -/
theorem find?_zipIdx_zip {α : Type} {names : List String} {xs : List α} {name n : String} {x : α}
    {i : Nat} (h : (names.zip xs).zipIdx.find? (fun y => y.1.1 = name) = some ((n, x), i)) :
    names[i]? = some name ∧ xs[i]? = some x := by
  have hmem := List.mem_of_find?_eq_some h
  have hname : n = name := by simpa using List.find?_some h
  rw [List.mem_zipIdx_iff_getElem?, List.getElem?_zip_eq_some] at hmem
  subst hname
  exact hmem

/-- The interface and the binding group of a declaration. -/
theorem resolveInterface_eq_ok {factories : Factories} {bindings : List String} {d : InterfaceDecl}
    {x : DataInterface} {i : Int} (h : resolveInterface factories bindings d = .ok (x, i)) :
    createInterface factories d = .ok x ∧
      (d.binding = "" ∧ i = 0 ∨ elementAt? bindings i = some d.binding) := by
  obtain ⟨y, hy, h⟩ := bind_eq_ok.1 h
  have hcreate := inside_eq_ok.1 hy
  split at h
  next hempty =>
    cases h
    exact ⟨hcreate, Or.inl ⟨hempty, rfl⟩⟩
  next =>
    split at h
    next n hn =>
      cases h
      obtain ⟨hlt, hname, -⟩ := List.findIdx?_eq_some_iff_getElem.1 hn
      refine ⟨hcreate, Or.inr ?_⟩
      rw [elementAt?_natCast, List.getElem?_eq_getElem hlt, of_decide_eq_true hname]
    next => cases h

/-- The name of the kernel function that a declared edge asks for. -/
def EdgeDecl.asksFor (d : EdgeDecl) : String :=
  if d.kernelFunction = "" then d.function else d.kernelFunction

/-- What a resolved edge points to, in the lists that it was resolved with. -/
theorem resolveEdge_eq_ok {interfaceNames kernelNames : List String} {xs : List DataInterface}
    {sources : List KernelSource} {d : EdgeDecl} {e : Edge}
    (h : resolveEdge (interfaceNames.zip xs) (kernelNames.zip sources) d = .ok e) :
    ∃ (i k : Nat) (x : DataInterface) (s : KernelSource),
      e.interface = i ∧ interfaceNames[i]? = some d.interface ∧ xs[i]? = some x ∧
      e.kernel = k ∧ kernelNames[k]? = some d.kernel ∧ sources[k]? = some s ∧
      Picks (e.asked s) e.kernelFunction d.asksFor ∧
      (e.input = true ↔ ∃ f ∈ s.inputs, f.name = d.asksFor) ∧
      Picks (e.offered x) e.interfaceFunction d.function ∧
      e.rename = d.rename ∧ e.scope = d.scope := by
  rw [resolveEdge] at h
  split at h
  next => cases h
  next _ x i hi =>
    split at h
    next => cases h
    next _ s k hk =>
      dsimp only at h
      split at h
      next => cases h
      next input kernelFunction hfunction =>
        split at h
        next => cases h
        next interfaceFunction hsupported =>
          cases h
          obtain ⟨hpicks, hinput⟩ := kernelFunction?_eq_some hfunction
          obtain ⟨hname, hx⟩ := find?_zipIdx_zip hi
          obtain ⟨hkernel, hs⟩ := find?_zipIdx_zip hk
          exact ⟨i, k, x, s, rfl, hname, hx, rfl, hkernel, hs, hpicks, hinput,
            picks_of_functionIndex? hsupported, rfl, rfl⟩

/-- The names of the binding groups. -/
def GraphDecl.groupNames (d : GraphDecl) : List String :=
  if d.bindings.isEmpty then [defaultBinding] else d.bindings

/-- What a graph is loaded from: every step succeeded, and the graph consists of their results. -/
theorem resolveGraph_eq_ok {factories : Factories} {files : String → HostFile} {dir : String}
    {d : GraphDecl} {g : Graph} (h : resolveGraph factories files dir d = .ok g) :
    ∃ slots sources edges,
      List.Forall₂ (fun x y => resolveInterface factories d.groupNames x = .ok y) d.interfaces
        slots ∧
      (d.kernels.map KernelDecl.name).Nodup ∧ sources.length = d.kernels.length ∧
      List.Forall₂ (fun x e => resolveEdge
        ((d.interfaces.map InterfaceDecl.name).zip (slots.map Prod.fst))
        ((d.kernels.map KernelDecl.name).zip sources) x = .ok e) d.edges edges ∧
      g = {
        name := d.name
        bindings := d.groupNames.map fun name => { name }
        interfaces := slots.map fun s => some s.1
        groups := slots.map Prod.snd
        kernels := ((d.kernels.map KernelDecl.name).zip sources).map fun (name, s) =>
          some { name, source := some s }
        edges } := by
  obtain ⟨_, -, h⟩ := bind_eq_ok.1 h
  obtain ⟨_, -, h⟩ := bind_eq_ok.1 h
  obtain ⟨slots, hslots, h⟩ := bind_eq_ok.1 h
  obtain ⟨pool, -, h⟩ := bind_eq_ok.1 h
  obtain ⟨_, hkernels, h⟩ := bind_eq_ok.1 h
  obtain ⟨sources, hsources, h⟩ := bind_eq_ok.1 h
  obtain ⟨edges, hedges, h⟩ := bind_eq_ok.1 h
  cases h
  refine ⟨slots, sources, edges, mapM_eq_ok.1 hslots, checkNames_eq_ok.1 hkernels,
    (mapM_eq_ok.1 hsources).length_eq.symm, ?_, rfl⟩
  -- an edge is resolved with its position, which only names it in a problem
  have hedges := mapM_eq_ok.1 hedges
  rw [List.forall₂_iff_get] at hedges ⊢
  obtain ⟨hlength, hedges⟩ := hedges
  rw [List.length_zipIdx] at hlength
  refine ⟨hlength, fun i hi hi' => ?_⟩
  have he := inside_eq_ok.1 (hedges i (by rwa [List.length_zipIdx]) hi')
  simpa using he

/-! ## Loaded graphs -/

/-- The interface of the declaration stands at the position, in the group that the declaration names
    or else in the first one. -/
structure Places (factories : Factories) (g : Graph) (n : Nat) (d : InterfaceDecl) : Prop where
  created : ∃ x, createInterface factories d = .ok x ∧ g.interface? n = some x
  grouped : ∃ i b, g.group? n = some i ∧ elementAt? g.bindings i = some b ∧
    (d.binding = "" ∧ i = 0 ∨ b.name = d.binding)

/-- The edge connects what the declaration asks for, in one direction. -/
structure Connects (d : GraphDecl) (g : Graph) (x : EdgeDecl) (e : Edge) : Prop where
  inKernels : g.NamesKernel e
  inSlots : g.NamesSlot e
  /-- The kernel has the name, and so does its function.  An input goes before an output. -/
  kernel : ∃ s, g.kernel? e.kernel = some { name := x.kernel, source := some s } ∧
    Picks (e.asked s) e.kernelFunction x.asksFor ∧
    (e.input = true ↔ ∃ f ∈ s.inputs, f.name = x.asksFor)
  /-- The slot is that of the interface with the name, and its function has the name. -/
  slot : ∃ y z, elementAt? d.interfaces e.interface = some y ∧ y.name = x.interface ∧
    g.interface? e.interface = some z ∧ Picks (e.offered z) e.interfaceFunction x.function
  rename : e.rename = x.rename
  scope : e.scope = x.scope

/-- An edge that connects what was asked for has a shim. -/
theorem Connects.fits {d : GraphDecl} {g : Graph} {x : EdgeDecl} {e : Edge} (h : Connects d g x e)
    {s : KernelSource} (hs : g.source? e.kernel = some s) : g.Fits s e := by
  obtain ⟨s', hkernel, hasked, -⟩ := h.kernel
  obtain ⟨y, z, -, -, hz, hoffered⟩ := h.slot
  rw [Graph.source?, hkernel] at hs
  cases hs
  exact ⟨z, hz, hoffered.mem, hasked.mem⟩

section
variable {factories : Factories} {files : String → HostFile} {dir : String} {d : GraphDecl}
variable {g : Graph}

theorem groupNames_ne_nil (d : GraphDecl) : d.groupNames ≠ [] := by
  rw [GraphDecl.groupNames]
  split
  · exact List.cons_ne_nil _ _
  next h => exact fun hnil => h (List.isEmpty_iff.2 hnil)

/-- **Kernels have the names that were declared**, each once, and all of them have a source. -/
theorem kernels_of_resolveGraph (h : resolveGraph factories files dir d = .ok g) :
    (g.kernels.map fun k => k.map Kernel.name) = (d.kernels.map fun k => some k.name) ∧
      (g.kernels.map fun k => k.map Kernel.name).Nodup ∧
      ∀ k : Int, 0 ≤ k → k < g.kernels.length → ∃ s, g.source? k = some s := by
  obtain ⟨slots, sources, edges, -, hnodup, hlength, -, rfl⟩ := resolveGraph_eq_ok h
  have hzip : ((d.kernels.map KernelDecl.name).zip sources).map Prod.fst =
      d.kernels.map KernelDecl.name :=
    List.map_fst_zip (by rw [List.length_map, hlength])
  -- the names of the kernels are the first components of the pairs
  have hnames : (((d.kernels.map KernelDecl.name).zip sources).map fun (name, s) =>
      some ({ name, source := some s } : Kernel)).map (fun k => k.map Kernel.name) =
        (d.kernels.map KernelDecl.name).map some := by
    conv_rhs => rw [← hzip]
    rw [List.map_map, List.map_map]
    rfl
  refine ⟨hnames.trans (List.map_map ..), ?_, fun k h0 hk => ?_⟩
  · show (List.map _ (List.map _ _)).Nodup
    rw [hnames]
    exact hnodup.map (Option.some_injective _)
  · obtain ⟨n, rfl⟩ := Int.eq_ofNat_of_zero_le h0
    obtain ⟨x, hx⟩ := Option.isSome_iff_exists.1 (Graph.isSome_elementAt?.2 ⟨h0, hk⟩)
    obtain ⟨p, -, rfl⟩ : ∃ p ∈ (d.kernels.map KernelDecl.name).zip sources,
        some { name := p.1, source := some p.2 } = x := by
      rw [elementAt?_natCast] at hx
      exact List.mem_map.1 (List.mem_of_getElem? hx)
    refine ⟨p.2, ?_⟩
    rw [Graph.source?, Graph.kernel?, hx]
    rfl

/-- **Every interface has a slot and a binding group.** -/
theorem places_of_resolveGraph (h : resolveGraph factories files dir d = .ok g) :
    g.interfaces.length = d.interfaces.length ∧
      ∀ (n : Nat) (x : InterfaceDecl), d.interfaces[n]? = some x → Places factories g n x := by
  obtain ⟨slots, sources, edges, hslots, -, -, -, rfl⟩ := resolveGraph_eq_ok h
  refine ⟨by rw [List.length_map, hslots.length_eq], fun n x hx => ?_⟩
  obtain ⟨hn, rfl⟩ := List.getElem?_eq_some_iff.1 hx
  have hn' : n < slots.length := hslots.length_eq ▸ hn
  obtain ⟨hcreate, hgroup⟩ := resolveInterface_eq_ok ((List.forall₂_iff_get.1 hslots).2 n hn hn')
  have hslot : elementAt? slots n = some slots[n] := by
    rw [elementAt?_natCast, List.getElem?_eq_getElem hn']
  refine ⟨⟨slots[n].1, hcreate, ?_⟩, ?_⟩
  · rw [Graph.interface?, elementAt?_map, hslot]
    rfl
  · have hi : elementAt? (slots.map Prod.snd) n = some slots[n].2 := by
      rw [elementAt?_map, hslot]
      rfl
    rcases hgroup with ⟨hempty, hzero⟩ | hname
    · obtain ⟨first, rest, hnames⟩ := List.exists_cons_of_ne_nil (groupNames_ne_nil d)
      refine ⟨slots[n].2, { name := first }, hi, ?_, Or.inl ⟨hempty, hzero⟩⟩
      rw [show slots[n].2 = 0 from hzero, hnames]
      rfl
    · refine ⟨slots[n].2, { name := d.interfaces[n].binding }, hi, ?_, Or.inr rfl⟩
      rw [elementAt?_map, show elementAt? d.groupNames slots[n].2 = _ from hname]
      rfl

/-- **Edges connect what their declarations ask for.** -/
theorem connects_of_resolveGraph (h : resolveGraph factories files dir d = .ok g) :
    List.Forall₂ (Connects d g) d.edges g.edges := by
  obtain ⟨slots, sources, edges, hslots, -, hlength, hedges, rfl⟩ := resolveGraph_eq_ok h
  refine hedges.imp fun x e he => ?_
  obtain ⟨i, k, y, s, hi, hname, hy, hk, hkernel, hs, hasked, hinput, hoffered, hrename, hscope⟩ :=
    resolveEdge_eq_ok he
  have hin : i < slots.length := by
    obtain ⟨_, hslot, -⟩ := Option.map_eq_some_iff.1 (List.getElem?_map .. ▸ hy)
    exact (List.getElem?_eq_some_iff.1 hslot).1
  obtain ⟨decl, hdecl, hdeclname⟩ := Option.map_eq_some_iff.1 (List.getElem?_map .. ▸ hname)
  have hpair : ((d.kernels.map KernelDecl.name).zip sources)[k]? = some (x.kernel, s) :=
    List.getElem?_zip_eq_some.2 ⟨hkernel, hs⟩
  have hkn : k < ((d.kernels.map KernelDecl.name).zip sources).length :=
    (List.getElem?_eq_some_iff.1 hpair).1
  refine ⟨?_, ?_, ⟨s, ?_, hasked, hinput⟩, ⟨decl, y, ?_, hdeclname, ?_, hoffered⟩, hrename, hscope⟩
  · rw [Graph.NamesKernel, hk, List.length_map]
    omega
  · rw [Graph.NamesSlot, hi, List.length_map]
    omega
  · rw [Graph.kernel?, hk, elementAt?_map, elementAt?_natCast, hpair]
    rfl
  · rw [hi, elementAt?_natCast, hdecl]
  · obtain ⟨slot, hslot, rfl⟩ := Option.map_eq_some_iff.1 (List.getElem?_map .. ▸ hy)
    rw [Graph.interface?, hi, elementAt?_map, elementAt?_natCast, hslot]
    rfl

end

/-! ## Standard interfaces -/

/-- The standard factories create built-in interfaces only. -/
theorem isBuiltin_of_create {type : String} {attrs : Attributes} {x : DataInterface}
    (h : Factories.create Factory.standard type attrs = .ok x) : x.IsBuiltin := by
  rw [Factories.create] at h
  split at h
  · cases h
  next factory hfactory =>
    have hmem := mem_of_lookup hfactory
    rw [Factory.standard, List.mem_cons, List.mem_cons, List.mem_singleton] at hmem
    rcases hmem with hmem | hmem | hmem
    · cases hmem
      obtain ⟨_, -, h⟩ := bind_eq_ok.1 h
      obtain ⟨_, -, h⟩ := bind_eq_ok.1 h
      cases h
      trivial
    · cases hmem
      obtain ⟨_, -, h⟩ := bind_eq_ok.1 h
      obtain ⟨_, -, h⟩ := bind_eq_ok.1 h
      obtain ⟨_, -, h⟩ := bind_eq_ok.1 h
      obtain ⟨_, -, h⟩ := bind_eq_ok.1 h
      obtain ⟨_, -, h⟩ := bind_eq_ok.1 h
      obtain ⟨_, -, h⟩ := bind_eq_ok.1 h
      obtain ⟨_, -, h⟩ := bind_eq_ok.1 h
      cases h
      trivial
    · cases hmem
      obtain ⟨_, -, h⟩ := bind_eq_ok.1 h
      obtain ⟨_, -, h⟩ := bind_eq_ok.1 h
      obtain ⟨_, -, h⟩ := bind_eq_ok.1 h
      cases h
      trivial

theorem isBuiltin_of_createInterface {d : InterfaceDecl} {x : DataInterface}
    (h : createInterface Factory.standard d = .ok x) : x.IsBuiltin := by
  rw [createInterface] at h
  split at h
  · cases h
  · split at h
    · cases h
    next attributes _ =>
      cases hcreate : Factories.create Factory.standard d.type attributes with
      | error e =>
        rw [hcreate] at h
        cases h
      | ok y =>
        rw [hcreate] at h
        cases h
        exact isBuiltin_of_create hcreate

theorem isBuiltin_of_places {g : Graph} {ds : List InterfaceDecl}
    (hlength : g.interfaces.length = ds.length)
    (h : ∀ (n : Nat) (x : InterfaceDecl), ds[n]? = some x → Places Factory.standard g n x)
    {x : DataInterface} (hx : some x ∈ g.interfaces) : x.IsBuiltin := by
  obtain ⟨n, hn, hget⟩ := List.mem_iff_getElem.1 hx
  have hd : ds[n]? = some (ds.get ⟨n, hlength ▸ hn⟩) := List.getElem?_eq_getElem _
  obtain ⟨y, hy, hslot⟩ := (h n _ hd).created
  rw [Graph.interface?, elementAt?_natCast, List.getElem?_eq_getElem hn, hget] at hslot
  cases hslot
  exact isBuiltin_of_createInterface hy

theorem isBuiltin_of_resolveGraphs {files : String → HostFile} {file : String}
    {ds : List GraphDecl} {g : Graph} (hg : g ∈ (resolveGraphs files file ds).1) {x : DataInterface}
    (hx : some x ∈ g.interfaces) : x.IsBuiltin := by
  induction ds with
  | nil => cases hg
  | cons d ds ih =>
    rw [resolveGraphs] at hg
    cases hd : resolveGraph Factory.standard files (HostPath.directory file) d with
    | error p =>
      rw [hd] at hg
      cases hg
    | ok g' =>
      rw [hd] at hg
      rcases List.mem_cons.1 hg with rfl | hg
      · obtain ⟨hlength, hplaces⟩ := places_of_resolveGraph hd
        exact isBuiltin_of_places hlength hplaces hx
      · exact ih hg

/-- **The interfaces of a loaded file are built in**, also if a graph after it cannot be loaded. -/
theorem isBuiltin_of_loadedGraphs {read? : String → Option (List GraphDecl)}
    {files : String → HostFile} {file : String} {g : Graph}
    (hg : g ∈ (loadedGraphs read? files file).1) {x : DataInterface} (hx : some x ∈ g.interfaces) :
    x.IsBuiltin := by
  rw [loadedGraphs] at hg
  split at hg
  · cases hg
  · rw [graphsOfText] at hg
    split at hg
    · cases hg
    · exact isBuiltin_of_resolveGraphs hg hx

end GraphFile

/-! ## Builds without a mismatch -/

namespace Graph

section
variable {g : Graph} {k : Int}

/-- Edges that fit are no mismatches. -/
theorem mismatches_eq_zero
    (h : ∀ s, g.source? k = some s → ∀ e ∈ g.edges, e.kernel = k → g.Fits s e) :
    g.mismatches k = 0 := by
  rw [mismatches]
  cases hs : g.source? k with
  | none => rfl
  | some s =>
    show ((g.kernelEdges k).filter fun p => g.isMismatch s p.1).length = 0
    rw [List.length_eq_zero_iff, List.filter_eq_nil_iff]
    intro p hp
    obtain ⟨hp, hk⟩ := List.mem_filter.1 hp
    have hshim := fits_iff.1 (h s hs p.1 (List.mem_of_getElem? (List.mem_zipIdx_iff_getElem?.1 hp))
      (of_decide_eq_true hk))
    rw [edgeShim?] at hshim
    rw [isMismatch]
    split
    · intro hfalse
      cases hfalse
    next x hx =>
      rw [hx, Option.isSome_map] at hshim
      rw [Option.isNone_iff_eq_none]
      exact fun hnone => by simp [hnone] at hshim

variable {store : FileStore} {registry : Nat} {dialect : Dialect} {format : String}

/-- A build counts the kernel's mismatches, or none. -/
theorem mismatches_build :
    (g.build store registry k dialect format).mismatches = 0 ∨
      (g.build store registry k dialect format).mismatches = g.mismatches k := by
  rw [build]
  split
  · exact Or.inl rfl
  · split
    · exact Or.inl rfl
    · exact Or.inl rfl
    · dsimp only
      split
      · exact Or.inl rfl
      · split
        · exact Or.inr rfl
        · exact Or.inr rfl

/-- The build of a kernel with a source succeeds, or it fails for the wrapper or for an undeclared
    parameter. -/
theorem build_ends (store : FileStore) (registry : Nat) (dialect : Dialect) (format : String)
    {s : KernelSource} (h0 : 0 ≤ k) (hk : k < g.kernels.length)
    (hs : g.source? k = some s) :
    (∃ b, (g.build store registry k dialect format).result = .ok b) ∨
      (∃ name e, (g.build store registry k dialect format).result = .error (.wrapper name e) ∧
        ((digested (g.boundInterfaces k) store).digest registry VirtualPath.kernelWrapper
          format).1 = .error e) ∨
      ∃ u, (g.build store registry k dialect format).result = .error (.undeclared u) := by
  cases hcs : contributions (g.layout k) (g.boundInterfaces k) store with
  | error u => exact Or.inr (Or.inr ⟨u, build_of_undeclared h0 hk hs hcs⟩)
  | ok cs =>
    cases hdigest : ((digested (g.boundInterfaces k) store).digest registry
      VirtualPath.kernelWrapper format).1 with
    | error e => exact Or.inr (Or.inl ⟨_, e, build_of_digest_error h0 hk hs hcs hdigest, rfl⟩)
    | ok w =>
      obtain ⟨b, hb⟩ : ∃ b, g.assemble store k.toNat s dialect w = .ok b := by
        rw [assemble, Int.toNat_of_nonneg h0, hcs]
        exact ⟨_, rfl⟩
      exact Or.inl ⟨b, build_eq_ok.2 ⟨s, w, h0, hk, hs, hdigest, hb⟩⟩

/-- Only an interface that is not built in can ask for an undeclared parameter. -/
theorem exists_custom_of_undeclared {u : UndeclaredParameter}
    (h : (g.build store registry k dialect format).result = .error (.undeclared u)) :
    ∃ x, some x ∈ g.interfaces ∧ ¬ x.IsBuiltin := by
  by_contra hall
  have hbuiltin : ∀ p ∈ g.boundInterfaces k, p.2.IsBuiltin := fun p hp => by
    by_contra hp'
    exact hall ⟨p.2, mem_of_interface? (interface?_of_mem hp), hp'⟩
  obtain ⟨cs, hcs⟩ := exists_contributions hbuiltin store
  exact build_ne_undeclared hcs u h

end

end Graph

namespace GraphFile

/-- **Loaded graphs are connected as declared.**  For whatever factories are registered, and every
    declaration that the loader accepts:

    1. kernels have the declared names, which are distinct;
    2. every declared interface has a slot, and its binding group exists;
    3. the edges are those that were declared, and each connects what was asked for;
    4. no index fails the validation;
    5. no build counts a mismatch, every edge of a kernel fits, and a build of a kernel has one shim
       for each of its edges.  A build can only fail because the kernel wrapper has no digest, or
       because an interface that is not built in asks for a parameter that it does not declare;
    6. with the standard factories there are no such interfaces. -/
theorem resolveGraph_connected (factories : Factories) (files : String → HostFile) (dir : String)
    (d : GraphDecl) (g : Graph) (h : resolveGraph factories files dir d = .ok g) :
    ((g.kernels.map fun k => k.map Kernel.name) = (d.kernels.map fun k => some k.name) ∧
      (g.kernels.map fun k => k.map Kernel.name).Nodup) ∧
    (g.interfaces.length = d.interfaces.length ∧
      ∀ (n : Nat) (x : InterfaceDecl), d.interfaces[n]? = some x → Places factories g n x) ∧
    List.Forall₂ (Connects d g) d.edges g.edges ∧
    (∀ f, g.validate = .error f → ∃ name n, f = .executionEdges name n) ∧
    (∀ (k : Int) (store : FileStore) (registry : Nat) (dialect : Dialect) (format : String),
      (g.build store registry k dialect format).mismatches = 0 ∧
      (0 ≤ k → k < g.kernels.length → ∃ s, g.source? k = some s ∧
        (∀ e ∈ g.edges, e.kernel = k → g.Fits s e) ∧
        ((∃ b, (g.build store registry k dialect format).result = .ok b ∧ g.HasShims k s b) ∨
          (∃ name e, (g.build store registry k dialect format).result = .error (.wrapper name e) ∧
            ((digested (g.boundInterfaces k) store).digest registry VirtualPath.kernelWrapper
              format).1 = .error e) ∨
          ∃ u x, (g.build store registry k dialect format).result = .error (.undeclared u) ∧
            some x ∈ g.interfaces ∧ ¬ x.IsBuiltin))) ∧
    (factories = Factory.standard → ∀ x, some x ∈ g.interfaces → x.IsBuiltin) := by
  obtain ⟨hnames, hnodup, hsources⟩ := kernels_of_resolveGraph h
  obtain ⟨hlength, hplaces⟩ := places_of_resolveGraph h
  have hedges := connects_of_resolveGraph h
  have hconnects : ∀ e ∈ g.edges, ∃ x, Connects d g x e := by
    intro e he
    obtain ⟨n, hn, rfl⟩ := List.mem_iff_getElem.1 he
    obtain ⟨hlength, hget⟩ := List.forall₂_iff_get.1 hedges
    exact ⟨_, hget n (hlength ▸ hn) hn⟩
  have hfits : ∀ k s, g.source? k = some s → ∀ e ∈ g.edges, e.kernel = k → g.Fits s e := by
    rintro k s hs e he rfl
    obtain ⟨x, hx⟩ := hconnects e he
    exact hx.fits hs
  refine ⟨⟨hnames, hnodup⟩, ⟨hlength, hplaces⟩, hedges, fun f hf => ?_,
    fun k store registry dialect format => ⟨?_, fun h0 hk => ?_⟩, ?_⟩
  · -- the faults of edges are excluded, what is left are those of kernels
    cases Graph.validate_eq_error.1 hf with
    | kernelIndex he _ hkernel =>
      obtain ⟨x, hx⟩ := hconnects _ (List.mem_of_getElem? he)
      exact absurd hx.inKernels hkernel
    | interfaceIndex he _ _ hslot =>
      obtain ⟨x, hx⟩ := hconnects _ (List.mem_of_getElem? he)
      exact absurd hx.inSlots hslot
    | executionEdges _ _ _ _ _ => exact ⟨_, _, rfl⟩
  · rcases g.mismatches_build (k := k) with hzero | hcount
    · exact hzero
    · rw [hcount]
      exact Graph.mismatches_eq_zero (hfits k)
  · obtain ⟨s, hs⟩ := hsources k h0 hk
    refine ⟨s, hs, hfits k s hs, ?_⟩
    rcases Graph.build_ends store registry dialect format h0 hk hs with
      ⟨b, hb⟩ | hwrapper | ⟨u, hu⟩
    · refine Or.inl ⟨b, hb, ?_⟩
      obtain ⟨s', _, _, _, hs', _, hassemble⟩ := Graph.build_eq_ok.1 hb
      cases hs.symm.trans hs'
      obtain ⟨n, rfl⟩ := Int.eq_ofNat_of_zero_le h0
      exact Graph.hasShims_of_assemble hassemble
    · exact Or.inr (Or.inl hwrapper)
    · obtain ⟨x, hx, hcustom⟩ := Graph.exists_custom_of_undeclared hu
      exact Or.inr (Or.inr ⟨u, x, hu, hx, hcustom⟩)
  · rintro rfl x hx
    exact isBuiltin_of_places hlength hplaces hx

/-- A kernel that reads the number of threads and writes a buffer under another name. -/
def relayDecl : GraphDecl where
  name := "Relay"
  bindings := ["Scene", "View"]
  interfaces :=
    [⟨"execution", "exec", "", [], false⟩, ⟨"buffer", "out", "View", [], false⟩]
  kernels :=
    [{ name := "Copy", entryPoint := "main", groupSize := [], source := "fn main() {}"
       sourceFile := "", isDefault := false, defines := []
       inputs := [⟨"ReadNumThreads", "u32", []⟩], outputs := [⟨"Store", "", []⟩]
       options := [], sources := [] }]
  edges :=
    [⟨"exec", "ReadNumThreads", "Copy", "", "", ""⟩, ⟨"out", "WriteValue", "Copy", "Store", "", ""⟩]

/-- The graph that it declares. -/
def relayGraph : Graph where
  name := "Relay"
  bindings := [{ name := "Scene" }, { name := "View" }]
  interfaces := [some (.execution 1), some (.buffer { type := "f32" })]
  groups := [0, 1]
  kernels :=
    [some ⟨"Copy", some
      { entryPoint := "main", groupSize := ⟨1, 1, 1⟩, body := "fn main() {}"
        inputs := [{ name := "ReadNumThreads", result := "u32" }],
          outputs := [{ name := "Store" }] }⟩]
  edges := [{ input := true }, { interface := 1 }]

theorem resolveGraph_connected_relay :
    resolveGraph Factory.standard (fun _ => .missing) "" relayDecl = .ok relayGraph ∧
    List.Forall₂ (Connects relayDecl relayGraph) relayDecl.edges relayGraph.edges ∧
    relayGraph.validate = .ok () := by
  have h : resolveGraph Factory.standard (fun _ => .missing) "" relayDecl = .ok relayGraph := by
    rw [resolveGraph]
    simp only [relayDecl, List.mapM_cons, List.mapM_nil, resolveKernel, List.mergeSort_nil]
    rfl
  obtain ⟨-, -, hedges, -⟩ := resolveGraph_connected _ _ _ _ _ h
  exact ⟨h, hedges, rfl⟩

end GraphFile

end KernelGraph
