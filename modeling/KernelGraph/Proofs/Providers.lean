/-
  Providers are initialised with exact masks.

  1. `testBit_masks`: a bit of a mask is set exactly if an edge of the direction uses the function
     of this number.  So masks depend on the edges as a set, and only on those whose function fits.

  2. `Creates`: the interface of a slot in the group creates a provider.  What `createProvider` does
     at a slot is one of two things: the provider that is created is initialised by one call, or
     there is none and no call.

  3. `Provides`: what comes of all slots together.  The calls are made in the order of the slots,
     one for each provider that is created.
-/
import KernelGraph.Graph.Providers
import KernelGraph.Proofs.Build
import Mathlib.Data.Nat.Bitwise

namespace KernelGraph.Graph

variable {g g' : Graph} {i : Int} {object : Option BoundObject} {n : Nat} {d d' : DataInterface}
  {p p' : Provider}

/-! ## Masks -/

/-- An edge of the direction uses function `k` of the slot. -/
def Uses (g : Graph) (slot : Int) (input : Bool) (k : Nat) : Prop :=
  ∃ e ∈ g.edges, e.interface = slot ∧ e.input = input ∧ e.interfaceFunction = k

/-- A shifted one has a single bit. -/
theorem testBit_one_shiftLeft {f k : Nat} (hf : f < 64) :
    ((1 : UInt64) <<< f.toUInt64).toNat.testBit k = true ↔ f = k := by
  have hmod : f % 2 ^ 64 % 64 = f := by omega
  rw [UInt64.toNat_shiftLeft, UInt64.toNat_ofNat']
  rw [hmod, UInt64.toNat_one, Nat.one_shiftLeft, Nat.mod_eq_of_lt, Nat.testBit_two_pow,
    decide_eq_true_eq]
  exact Nat.pow_lt_pow_right (by decide) hf

/-- One edge sets the bit of its function, if it is one of the slot and of the direction. -/
theorem testBit_mark (slot : Int) (input : Bool) (m : UInt64) (e : Edge) {k : Nat} (hk : k < 64) :
    (mark slot input m e).toNat.testBit k = true ↔ m.toNat.testBit k = true ∨
      e.interface = slot ∧ e.input = input ∧ e.interfaceFunction = k := by
  have hmarks : (e.interface = slot && e.input = input && (0 : Int) ≤ e.interfaceFunction &&
      e.interfaceFunction < maskWidth) = true ↔ e.interface = slot ∧ e.input = input ∧
        0 ≤ e.interfaceFunction ∧ e.interfaceFunction < 64 := by
    simp only [Bool.and_eq_true, decide_eq_true_eq, and_assoc]
    exact Iff.rfl
  unfold mark
  split
  · rename_i h
    obtain ⟨hslot, hinput, hpos, hfits⟩ := hmarks.1 h
    rw [UInt64.toNat_or, Nat.testBit_or, Bool.or_eq_true, testBit_one_shiftLeft (by omega)]
    refine or_congr_right ⟨fun hbit => ⟨hslot, hinput, by omega⟩, fun ⟨_, _, hfunction⟩ => ?_⟩
    omega
  · rename_i h
    refine (or_iff_left fun ⟨hslot, hinput, hfunction⟩ => h ?_).symm
    exact hmarks.2 ⟨hslot, hinput, by omega, by omega⟩

/-- A list of edges sets the bits of their functions. -/
theorem testBit_foldl_mark (slot : Int) (input : Bool) (edges : List Edge) (m : UInt64) {k : Nat}
    (hk : k < 64) : (edges.foldl (mark slot input) m).toNat.testBit k = true ↔
      m.toNat.testBit k = true ∨
        ∃ e ∈ edges, e.interface = slot ∧ e.input = input ∧ e.interfaceFunction = k := by
  induction edges generalizing m with
  | nil => simp
  | cons e edges ih =>
    rw [List.foldl_cons, ih, testBit_mark slot input m e hk, or_assoc]
    simp only [List.mem_cons, exists_eq_or_imp]

theorem testBit_mask (g : Graph) (slot : Int) (input : Bool) {k : Nat} (hk : k < 64) :
    (g.mask slot input).toNat.testBit k = true ↔ g.Uses slot input k := by
  rw [mask, testBit_foldl_mark slot input g.edges 0 hk, Uses]
  simp

/-- **A bit of a mask** is set exactly if an edge uses the function of its number. -/
theorem testBit_masks (g : Graph) (slot : Int) {k : Nat} (hk : k < 64) :
    ((g.masks slot).1.toNat.testBit k = true ↔ g.Uses slot true k) ∧
      ((g.masks slot).2.toNat.testBit k = true ↔ g.Uses slot false k) :=
  ⟨testBit_mask g slot true hk, testBit_mask g slot false hk⟩

/-- Words with the same bits are equal. -/
theorem eq_of_testBit {a b : UInt64}
    (h : ∀ k < 64, (a.toNat.testBit k = true ↔ b.toNat.testBit k = true)) : a = b := by
  refine UInt64.toNat_inj.1 (Nat.eq_of_testBit_eq fun k => ?_)
  rcases Nat.lt_or_ge k 64 with hk | hk
  · exact Bool.eq_iff_iff.2 (h k hk)
  · have hpow : 2 ^ 64 ≤ 2 ^ k := Nat.pow_le_pow_right (by decide) hk
    rw [Nat.testBit_lt_two_pow (Nat.lt_of_lt_of_le a.toNat_lt hpow),
      Nat.testBit_lt_two_pow (Nat.lt_of_lt_of_le b.toNat_lt hpow)]

/-- **Masks depend on the edges as a set**, and only on those whose function fits. -/
theorem masks_congr {slot : Int} (h : ∀ e : Edge, e.interface = slot → 0 ≤ e.interfaceFunction →
    e.interfaceFunction < 64 → (e ∈ g.edges ↔ e ∈ g'.edges)) : g.masks slot = g'.masks slot := by
  have huses : ∀ input, ∀ k < 64, (g.Uses slot input k ↔ g'.Uses slot input k) := by
    intro input k hk
    refine exists_congr fun e => and_congr_left fun ⟨hslot, _, hfunction⟩ => ?_
    exact h e hslot (by omega) (by omega)
  refine Prod.ext (eq_of_testBit fun k hk => ?_) (eq_of_testBit fun k hk => ?_)
  · rw [(testBit_masks g slot hk).1, (testBit_masks g' slot hk).1]
    exact huses true k hk
  · rw [(testBit_masks g slot hk).2, (testBit_masks g' slot hk).2]
    exact huses false k hk

/-! ## One slot -/

/-- The slot is in the group `i`, and its interface creates the provider. -/
structure Creates (g : Graph) (i : Int) (n : Nat) (d : DataInterface) (p : Provider) : Prop where
  interface : g.interface? n = some d
  group : g.group? n = some i
  provider : d.interface.provider = .ok (some p)

/-- A slot creates one provider at most. -/
theorem Creates.unique (h : g.Creates i n d p) (h' : g.Creates i n d' p') : d = d' ∧ p = p' := by
  cases h.interface.symm.trans h'.interface
  cases h.provider.symm.trans h'.provider
  exact ⟨rfl, rfl⟩

theorem Creates.getElem?_interfaces (h : g.Creates i n d p) :
    g.interfaces[n]? = some (some d) := by
  have hinterface := h.interface
  rwa [interface?, elementAt?_natCast, Option.join_eq_some_iff] at hinterface

theorem interface?_eq {x : Option DataInterface} (hx : g.interfaces[n]? = some x) :
    g.interface? n = x := by
  rw [interface?, elementAt?_natCast, hx]
  rfl

/-- What comes of a slot: the provider that is created and one call, or neither. -/
theorem createProvider_cases (g : Graph) (i : Int) (b : Binding) (object : Option BoundObject)
    {x : Option DataInterface} (hx : g.interfaces[n]? = some x) :
    (∃ d p, g.Creates i n d p ∧
      (g.createProvider i b object (x, n)).provider = some ((g.initialization object d n).apply p) ∧
      (g.createProvider i b object (x, n)).calls = [g.initialization object d n]) ∨
    ((¬ ∃ d p, g.Creates i n d p) ∧ (g.createProvider i b object (x, n)).provider = none ∧
      (g.createProvider i b object (x, n)).calls = []) := by
  have hinterface := interface?_eq hx
  by_cases hcreates : ∃ d p, g.Creates i n d p
  · obtain ⟨d, p, h⟩ := hcreates
    cases hinterface.symm.trans h.interface
    refine Or.inl ⟨d, p, h, ?_, ?_⟩ <;> simp [createProvider, h.group, h.provider]
  · refine Or.inr ⟨hcreates, ?_⟩
    cases x with
    | none => exact ⟨rfl, rfl⟩
    | some d =>
      by_cases hgroup : g.group? n = some i
      · cases hp : d.interface.provider with
        | error text => simp [createProvider, hgroup, hp]
        | ok made =>
          cases made with
          | none => simp [createProvider, hgroup, hp]
          | some p => exact absurd ⟨d, p, hinterface, hgroup, hp⟩ hcreates
      · simp [createProvider, hgroup]

/-- The provider of a slot is the one that its interface created, after the call. -/
theorem provider_createProvider (b : Binding) {x : Option DataInterface}
    (hx : g.interfaces[n]? = some x) : (g.createProvider i b object (x, n)).provider = some p ↔
      ∃ d p₀, g.Creates i n d p₀ ∧ p = (g.initialization object d n).apply p₀ := by
  obtain ⟨d, p₀, h, hprovider, _⟩ | ⟨hnone, hprovider, _⟩ := createProvider_cases g i b object hx
  · rw [hprovider, Option.some.injEq]
    constructor
    · rintro rfl
      exact ⟨d, p₀, h, rfl⟩
    · rintro ⟨d', p', h', rfl⟩
      obtain ⟨rfl, rfl⟩ := h.unique h'
      rfl
  · rw [hprovider]
    constructor
    · intro h
      cases h
    · rintro ⟨d, p₀, h, _⟩
      exact absurd ⟨d, p₀, h⟩ hnone

/-- The calls of a slot are the one for the provider that its interface created. -/
theorem mem_calls_createProvider (b : Binding) {x : Option DataInterface} {call : Initialization}
    (hx : g.interfaces[n]? = some x) : call ∈ (g.createProvider i b object (x, n)).calls ↔
      ∃ d p, g.Creates i n d p ∧ call = g.initialization object d n := by
  obtain ⟨d, p, h, _, hcalls⟩ | ⟨hnone, _, hcalls⟩ := createProvider_cases g i b object hx
  · rw [hcalls, List.mem_singleton]
    constructor
    · rintro rfl
      exact ⟨d, p, h, rfl⟩
    · rintro ⟨d', p', h', rfl⟩
      obtain ⟨rfl, rfl⟩ := h.unique h'
      rfl
  · rw [hcalls]
    constructor
    · intro h
      cases h
    · rintro ⟨d, p, h, _⟩
      exact absurd ⟨d, p, h⟩ hnone

/-- There is one call at most. -/
theorem pairwise_calls_createProvider (b : Binding) {x : Option DataInterface}
    (hx : g.interfaces[n]? = some x) (r : Initialization → Initialization → Prop) :
    (g.createProvider i b object (x, n)).calls.Pairwise r := by
  obtain ⟨d, p, _, _, hcalls⟩ | ⟨_, _, hcalls⟩ := createProvider_cases g i b object hx
  · rw [hcalls]
    exact List.pairwise_singleton r _
  · rw [hcalls]
    exact List.Pairwise.nil

/-! ## All slots -/

/-- What a creation yields and what it calls: an entry for each slot; a provider exactly where the
    interface of a slot in the group created one; and in the order of the slots one call for each
    of them, which it has gone through. -/
structure Provides (g : Graph) (i : Int) (object : Option BoundObject)
    (ps : List (Option Provider)) (calls : List Initialization) : Prop where
  length : ps.length = g.interfaces.length
  provider : ∀ n p, ps[n]? = some (some p) ↔
    ∃ d p₀, g.Creates i n d p₀ ∧ p = (g.initialization object d n).apply p₀
  ordered : calls.Pairwise fun a b => a.slot < b.slot
  mem_calls : ∀ call, call ∈ calls ↔
    ∃ n d p, g.Creates i n d p ∧ call = g.initialization object d n

theorem mem_slots {x : Option DataInterface} : (x, n) ∈ g.slots ↔ g.interfaces[n]? = some x :=
  List.mem_zipIdx_iff_getElem?

theorem ordered_slots (g : Graph) : g.slots.Pairwise fun a b => a.2 < b.2 := by
  have h : (g.slots.map Prod.snd).Pairwise (· < ·) := by
    rw [slots, List.zipIdx_map_snd]
    exact List.pairwise_lt_range'
  exact List.pairwise_map.1 h

theorem provides_slots (g : Graph) (i : Int) (b : Binding) (object : Option BoundObject) :
    g.Provides i object ((g.slots.map (g.createProvider i b object)).map Provision.provider)
      ((g.slots.map (g.createProvider i b object)).flatMap Provision.calls) where
  length := by rw [List.length_map, List.length_map, slots, List.length_zipIdx]
  provider n p := by
    rw [List.getElem?_map, List.getElem?_map, slots, List.getElem?_zipIdx, Nat.zero_add]
    cases hx : g.interfaces[n]? with
    | none =>
      constructor
      · intro h
        cases h
      · rintro ⟨d, p₀, h, _⟩
        cases hx.symm.trans h.getElem?_interfaces
    | some x =>
      rw [Option.map_some, Option.map_some, Option.map_some, Option.some.injEq]
      exact provider_createProvider b hx
  ordered := by
    rw [List.flatMap_map, List.pairwise_flatMap]
    refine ⟨fun ⟨x, n⟩ hx => pairwise_calls_createProvider b (mem_slots.1 hx) _, ?_⟩
    refine g.ordered_slots.imp_of_mem fun {a a'} ha ha' hlt call hcall call' hcall' => ?_
    -- every call is for the slot that it is made at
    obtain ⟨d, p, _, rfl⟩ := (mem_calls_createProvider b (mem_slots.1 ha)).1 hcall
    obtain ⟨d', p', _, rfl⟩ := (mem_calls_createProvider b (mem_slots.1 ha')).1 hcall'
    exact hlt
  mem_calls call := by
    rw [List.flatMap_map, List.mem_flatMap]
    constructor
    · rintro ⟨⟨x, n⟩, hx, hcall⟩
      obtain ⟨d, p, h, rfl⟩ := (mem_calls_createProvider b (mem_slots.1 hx)).1 hcall
      exact ⟨n, d, p, h, rfl⟩
    · rintro ⟨n, d, p, h, rfl⟩
      have hx := h.getElem?_interfaces
      exact ⟨(some d, n), mem_slots.2 hx, (mem_calls_createProvider b hx).2 ⟨d, p, h, rfl⟩⟩

/-- **A creation that succeeds** has gone through all slots. -/
theorem provides_of_createProviders {ps : List (Option Provider)} {notes : List Log.Record}
    (h : g.createProviders i object = .ok (ps, notes)) :
    g.Provides i object ps (g.creation i object).2 := by
  unfold createProviders creation at h
  unfold creation
  cases hb : g.bindingFor i object with
  | error e =>
    rw [hb] at h
    cases h
  | ok b =>
    rw [hb] at h
    cases h
    exact g.provides_slots i b object

/-- **A creation that fails** has called nothing. -/
theorem calls_eq_nil_of_createProviders {e : GraphError}
    (h : g.createProviders i object = .error e) : (g.creation i object).2 = [] := by
  unfold createProviders creation at h
  unfold creation
  cases hb : g.bindingFor i object with
  | error e => rfl
  | ok b =>
    rw [hb] at h
    cases h

/-- **A rebinding that fails** has called nothing. -/
theorem calls_eq_nil_of_initializeProviders {providers : List (Option Provider)} {e : GraphError}
    (h : g.initializeProviders i object providers = .error e) :
    (g.rebinding i object providers).2 = [] := by
  unfold initializeProviders rebinding at h
  unfold rebinding
  cases hb : g.bindingFor i object with
  | error e => rfl
  | ok b =>
    rw [hb] at h
    dsimp only at h ⊢
    split at h
    · cases h
    · rename_i hlength
      rw [if_neg hlength]

/-- **Providers are initialised with exact masks.**

    1. A bit of a mask is set exactly if an edge of the direction uses the function of its number.
       So graphs that have the same edges at a slot, those apart whose function does not fit, have
       the same masks there, in whatever order and however often the edges are listed.

    2. A creation that succeeds has one entry for each slot: the provider that the interface of a
       slot in the group created, initialised by one call with the object and these masks, and none
       elsewhere.

    3. A creation or a rebinding that fails has initialised nothing. -/
theorem initialises_exactly (g : Graph) :
    (∀ (slot : Int) (k : Nat), k < 64 →
      ((g.masks slot).1.toNat.testBit k = true ↔ g.Uses slot true k) ∧
        ((g.masks slot).2.toNat.testBit k = true ↔ g.Uses slot false k)) ∧
    (∀ (g' : Graph) (slot : Int), (∀ e : Edge, e.interface = slot → 0 ≤ e.interfaceFunction →
      e.interfaceFunction < 64 → (e ∈ g.edges ↔ e ∈ g'.edges)) → g.masks slot = g'.masks slot) ∧
    (∀ i object ps notes, g.createProviders i object = .ok (ps, notes) →
      g.Provides i object ps (g.creation i object).2) ∧
    (∀ i object e, g.createProviders i object = .error e → (g.creation i object).2 = []) ∧
    ∀ i object providers e, g.initializeProviders i object providers = .error e →
      (g.rebinding i object providers).2 = [] :=
  ⟨fun slot _ hk => testBit_masks g slot hk, fun _ _ h => masks_congr h,
    fun _ _ _ _ h => provides_of_createProviders h,
    fun _ _ _ h => calls_eq_nil_of_createProviders h,
    fun _ _ _ _ h => calls_eq_nil_of_initializeProviders h⟩

/-- Two groups with an empty slot.  The last slot is used through functions 0 and 63, through one of
    them twice, and through functions that no mask shows. -/
def mixedSlots : Graph where
  name := "G"
  interfaces := [some (.execution 64), none, some (.buffer {}), some (.buffer {})]
  groups := [0, 0, 1, 0]
  bindings := [{ name := "P" }, { name := "Q", accepts := fun _ => false }]
  edges := [
    { interface := 3, interfaceFunction := 63, input := true },
    { interface := 3, interfaceFunction := 64, input := true },
    { interface := 3, interfaceFunction := 0 },
    { interface := 3, interfaceFunction := -1 },
    { interface := 3, interfaceFunction := 63, input := true }]

/-- What the first group is created as. -/
def mixedProviders : List (Option Provider) :=
  [some (.execution 64 (some (.int 7))), none, none,
    some (.buffer (some (.int 7)) 0x8000000000000000 1)]

/-- The first group takes the number, the second one does not. -/
theorem initialises_exactly_mixedSlots :
    mixedSlots.createProviders 0 (some (.int 7)) = .ok (mixedProviders, []) ∧
      mixedSlots.Provides 0 (some (.int 7)) mixedProviders
        (mixedSlots.creation 0 (some (.int 7))).2 ∧
      mixedSlots.createProviders 1 (some (.int 7)) = .error (.bindingObject "Q" "int") ∧
      (mixedSlots.creation 1 (some (.int 7))).2 = [] := by
  obtain ⟨_, _, hcreated, hfailed, _⟩ := mixedSlots.initialises_exactly
  have hok : mixedSlots.createProviders 0 (some (.int 7)) = .ok (mixedProviders, []) := rfl
  have herror : mixedSlots.createProviders 1 (some (.int 7)) =
      .error (.bindingObject "Q" "int") := rfl
  exact ⟨hok, hcreated _ _ _ _ hok, herror, hfailed _ _ _ herror⟩

end KernelGraph.Graph
