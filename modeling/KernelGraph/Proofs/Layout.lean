/-
  Source and layout agree on bindings.

  The layout of a kernel is made slot by slot.  What a slot adds to the parameters and what it puts
  into its own scope come from one pass over its declarations, in which a name that the scope knows
  is skipped:

  1. `Declares` says what this pass adds: the parameters are numbered from where it began, they
     belong to the slot, and the scope binds exactly them.

  2. `Assigned` is the invariant of the whole layout.  Every slot has one scope, which binds the
     parameters of that slot and no others; nothing is bound twice, and the parameters stand in the
     order of the slots.  It is kept as each new slot is added (`Assigned.addSlot`).

  3. The slots are those of the kernel's edges, each once, in the order of the first edge
     (`pairwise_boundSlots`).

  A binding is a word of 32 bits, so that only fewer than 2^32 declarations are told apart.
-/
import KernelGraph.Graph.Layout
import Mathlib.Algebra.GroupWithZero.Nat
import Mathlib.Data.List.Induction
import Mathlib.Data.List.Nodup

namespace KernelGraph

namespace Graph

/-! ## Bound slots -/

section
variable {g : Graph} {k i : Int} {x : DataInterface}

theorem map_fst_kernelEdges (g : Graph) (k : Int) :
    (g.kernelEdges k).map Prod.fst = g.edges.filter fun e => e.kernel = k := by
  have hfilter := List.filter_map (f := (Prod.fst : Edge × Nat → Edge))
    (p := fun e => decide (e.kernel = k)) (l := g.edges.zipIdx)
  rw [List.zipIdx_map_fst] at hfilter
  exact hfilter.symm

/-- The slots that the edges of a kernel name, with repetitions. -/
theorem boundSlots_eq (g : Graph) (k : Int) : g.boundSlots k =
    distinct ((g.edges.filter fun e => e.kernel = k).map Edge.interface) := by
  rw [boundSlots, ← map_fst_kernelEdges, List.map_map]
  rfl

theorem distinct_concat {α : Type} [BEq α] (xs : List α) (x : α) : distinct (xs ++ [x]) =
    if (distinct xs).contains x then distinct xs else distinct xs ++ [x] := by
  rw [distinct, List.foldl_append]
  rfl

theorem mem_distinct {α : Type} [BEq α] [LawfulBEq α] {xs : List α} {a : α} :
    a ∈ distinct xs ↔ a ∈ xs := by
  induction xs using List.reverseRecOn with
  | nil => rfl
  | append_singleton xs x ih =>
    rw [distinct_concat, List.mem_append, List.mem_singleton, ← ih]
    split
    · rename_i hold
      refine ⟨.inl, fun h => h.elim id ?_⟩
      rintro rfl
      exact List.contains_iff_mem.1 hold
    · rw [List.mem_append, List.mem_singleton]

theorem nodup_distinct {α : Type} [BEq α] [LawfulBEq α] (xs : List α) : (distinct xs).Nodup := by
  induction xs using List.reverseRecOn with
  | nil => exact List.nodup_nil
  | append_singleton xs x ih =>
    rw [distinct_concat]
    split
    · exact ih
    · rename_i hnew
      rw [← List.concat_eq_append]
      exact ih.concat fun hx => hnew (List.contains_iff_mem.2 hx)

/-- A slot that an edge of the kernel names, and that is not empty. -/
def Binds (g : Graph) (k i : Int) : Prop :=
  (∃ e ∈ g.edges, e.kernel = k ∧ e.interface = i) ∧ (g.interface? i).isSome

theorem mem_boundSlots : i ∈ g.boundSlots k ↔ ∃ e ∈ g.edges, e.kernel = k ∧ e.interface = i := by
  rw [boundSlots_eq, mem_distinct, List.mem_map]
  simp only [List.mem_filter, decide_eq_true_eq]
  constructor
  · rintro ⟨e, ⟨he, hk⟩, hi⟩
    exact ⟨e, he, hk, hi⟩
  · rintro ⟨e, he, hk, hi⟩
    exact ⟨e, ⟨he, hk⟩, hi⟩

theorem mem_boundInterfaces :
    (i, x) ∈ g.boundInterfaces k ↔ i ∈ g.boundSlots k ∧ g.interface? i = some x := by
  rw [boundInterfaces, List.mem_filterMap]
  constructor
  · rintro ⟨j, hj, hx⟩
    obtain ⟨y, hy, heq⟩ := Option.map_eq_some_iff.1 hx
    cases heq
    exact ⟨hj, hy⟩
  · rintro ⟨hi, hx⟩
    exact ⟨i, hi, by rw [hx]; rfl⟩

theorem interface?_of_mem (h : (i, x) ∈ g.boundInterfaces k) : g.interface? i = some x :=
  (mem_boundInterfaces.1 h).2

theorem binds_iff : g.Binds k i ↔ ∃ x, (i, x) ∈ g.boundInterfaces k := by
  rw [Binds, ← mem_boundSlots, Option.isSome_iff_exists]
  simp only [mem_boundInterfaces, exists_and_left]

/-- The slots of the bound interfaces are the bound slots that are not empty. -/
theorem map_fst_boundInterfaces (g : Graph) (k : Int) : (g.boundInterfaces k).map Prod.fst =
    (g.boundSlots k).filter fun i => (g.interface? i).isSome := by
  rw [boundInterfaces]
  induction g.boundSlots k with
  | nil => rfl
  | cons i is ih =>
    rw [List.filterMap_cons, List.filter_cons]
    cases g.interface? i with
    | none => exact ih
    | some x => exact congrArg (i :: ·) ih

/-- Every slot is bound once. -/
theorem nodup_slots (g : Graph) (k : Int) : ((g.boundInterfaces k).map Prod.fst).Nodup := by
  rw [map_fst_boundInterfaces, boundSlots_eq]
  exact (nodup_distinct _).filter _

theorem nodup_boundInterfaces (g : Graph) (k : Int) : (g.boundInterfaces k).Nodup :=
  List.Nodup.of_map _ (g.nodup_slots k)

/-- The position of the first edge of a kernel that names a slot. -/
def firstEdge (g : Graph) (k i : Int) : Nat :=
  g.edges.findIdx fun e => e.kernel = k && e.interface = i

/-- What is found in the front of a list is found at the same place in the whole. -/
theorem findIdx_append_of_exists {α : Type} {p : α → Bool} {as : List α} (bs : List α)
    (h : ∃ a ∈ as, p a) : (as ++ bs).findIdx p = as.findIdx p := by
  rw [List.findIdx_append, if_pos (List.findIdx_lt_length_of_exists h)]

theorem length_le_findIdx_append {α : Type} {p : α → Bool} {as : List α} (bs : List α)
    (h : ∀ a ∈ as, p a = false) : as.length ≤ (as ++ bs).findIdx p := by
  rw [List.findIdx_append, if_neg fun hlt => ?_]
  · exact Nat.le_add_left ..
  · obtain ⟨a, ha, hp⟩ := List.findIdx_lt_length.1 hlt
    rw [h a ha] at hp
    cases hp

/-- **The first of equal elements are kept in order**: the values that the elements with a property
    have stand in the order of the positions where they come first. -/
theorem pairwise_distinct {α β : Type} [DecidableEq β] (p : α → Bool) (f : α → β) (xs : List α) :
    (distinct ((xs.filter p).map f)).Pairwise fun a b =>
      (xs.findIdx fun x => p x && f x = a) < xs.findIdx fun x => p x && f x = b := by
  have hfound : ∀ {xs : List α} {b : β}, b ∈ distinct ((xs.filter p).map f) ↔
      ∃ x ∈ xs, (p x && decide (f x = b)) = true := by
    intro xs b
    rw [mem_distinct, List.mem_map]
    simp only [List.mem_filter, Bool.and_eq_true, decide_eq_true_eq, and_assoc]
  -- the elements come one by one, and where a value came first stays where it is
  induction xs using List.reverseRecOn with
  | nil => exact List.Pairwise.nil
  | append_singleton xs x ih =>
    have hkept : (distinct ((xs.filter p).map f)).Pairwise fun a b =>
        ((xs ++ [x]).findIdx fun x => p x && f x = a) <
          (xs ++ [x]).findIdx fun x => p x && f x = b :=
      ih.imp_of_mem fun ha hb hlt => by
        rw [findIdx_append_of_exists _ (hfound.1 ha), findIdx_append_of_exists _ (hfound.1 hb)]
        exact hlt
    rw [List.filter_append]
    by_cases hx : p x
    · have hnamed : [x].filter p = [x] := by simp [hx]
      rw [hnamed, List.map_append, List.map_singleton, distinct_concat]
      split
      · exact hkept
      · rename_i hnew
        refine List.pairwise_append.2 ⟨hkept, List.pairwise_singleton _ _, fun a ha b hb => ?_⟩
        cases List.mem_singleton.1 hb
        have hold := List.findIdx_lt_length_of_exists (hfound.1 ha)
        rw [← findIdx_append_of_exists [x] (hfound.1 ha)] at hold
        refine Nat.lt_of_lt_of_le hold (length_le_findIdx_append _ fun y hy => ?_)
        refine eq_false_of_ne_true fun hp => hnew ?_
        exact List.contains_iff_mem.2 (hfound.2 ⟨y, hy, hp⟩)
    · have hother : [x].filter p = [] := by simp [hx]
      rw [hother, List.append_nil]
      exact hkept

/-- **Bound slots stand in the order of their first edges.** -/
theorem pairwise_boundSlots (g : Graph) (k : Int) :
    (g.boundSlots k).Pairwise fun i j => g.firstEdge k i < g.firstEdge k j := by
  rw [boundSlots_eq]
  exact pairwise_distinct (fun e : Edge => e.kernel = k) Edge.interface g.edges

end

end Graph

/-! ## Lists of pairs -/

section
variable {α β : Type} [BEq α] [LawfulBEq α] {xs : List (α × β)} {a : α} {b : β}

theorem mem_of_lookup (h : xs.lookup a = some b) : (a, b) ∈ xs := by
  obtain ⟨before, behind, rfl, _⟩ := List.lookup_eq_some_iff.1 h
  exact List.mem_append_right _ (List.mem_cons_self ..)

theorem lookup_of_mem (hnodup : (xs.map Prod.fst).Nodup) (h : (a, b) ∈ xs) :
    xs.lookup a = some b := by
  obtain ⟨before, behind, rfl⟩ := List.append_of_mem h
  refine List.lookup_eq_some_iff.2 ⟨before, behind, rfl, fun x hx => bne_iff_ne.2 ?_⟩
  rintro rfl
  rw [List.map_append, List.nodup_append] at hnodup
  exact hnodup.2.2 _ (List.mem_map_of_mem hx) _ (List.mem_cons_self ..) rfl

theorem lookup_of_not_mem (h : a ∉ xs.map Prod.fst) : xs.lookup a = none :=
  List.lookup_eq_none_iff.2 fun _ hx => bne_iff_ne.2 fun heq => h (heq ▸ List.mem_map_of_mem hx)

end

namespace Layout

/-! ## What a slot declares -/

/-- The parameter that a declaration becomes. -/
def ofDecl (slot : Int) (uid : String) (binding : UInt32) (x : ParameterDecl) : Parameter :=
  ⟨x.name ++ "_" ++ uid, x.name, x.kind, x.type, x.size, binding, slot⟩

/-- The entry of a parameter in the scope of its slot. -/
def entry (p : Parameter) : String × UInt32 := (p.localName, p.binding)

/-- Of the declarations `xs` of a slot, the first of every name that the scope has not `seen` before
    became the parameters `new`, which are numbered from `start` on. -/
structure Declares (slot : Int) (uid : String) (start : Nat) (seen : List String)
    (xs : List ParameterDecl) (new : List Parameter) : Prop where
  declared : ∀ p ∈ new, ∃ x ∈ xs, p = ofDecl slot uid p.binding x
  complete : ∀ x ∈ xs, x.name ∈ seen ∨ ∃ p ∈ new, p.localName = x.name
  binding : ∀ n p, new[n]? = some p → p.binding = (start + n).toUInt32
  fresh : ∀ p ∈ new, p.localName ∉ seen
  nodup : (new.map Parameter.localName).Nodup
  length : new.length ≤ xs.length

section
variable {slot : Int} {uid : String} {start : Nat} {seen : List String} {x : ParameterDecl}
  {xs : List ParameterDecl} {new : List Parameter}

theorem Declares.skip (hseen : x.name ∈ seen) (h : Declares slot uid start seen xs new) :
    Declares slot uid start seen (x :: xs) new where
  declared p hp := by
    obtain ⟨y, hy, heq⟩ := h.declared p hp
    exact ⟨y, List.mem_cons_of_mem _ hy, heq⟩
  complete y hy := by
    rcases List.mem_cons.1 hy with rfl | hy
    · exact .inl hseen
    · exact h.complete y hy
  binding := h.binding
  fresh := h.fresh
  nodup := h.nodup
  length := Nat.le_succ_of_le h.length

theorem Declares.keep (hnew : x.name ∉ seen)
    (h : Declares slot uid (start + 1) (seen ++ [x.name]) xs new) :
    Declares slot uid start seen (x :: xs) (ofDecl slot uid start.toUInt32 x :: new) where
  declared p hp := by
    rcases List.mem_cons.1 hp with rfl | hp
    · exact ⟨x, List.mem_cons_self .., rfl⟩
    · obtain ⟨y, hy, heq⟩ := h.declared p hp
      exact ⟨y, List.mem_cons_of_mem _ hy, heq⟩
  complete y hy := by
    rcases List.mem_cons.1 hy with rfl | hy
    · exact .inr ⟨_, List.mem_cons_self .., rfl⟩
    · rcases h.complete y hy with hold | ⟨p, hp, hname⟩
      · rcases List.mem_append.1 hold with hold | hname
        · exact .inl hold
        · exact .inr ⟨_, List.mem_cons_self .., (List.mem_singleton.1 hname).symm⟩
      · exact .inr ⟨p, List.mem_cons_of_mem _ hp, hname⟩
  binding n p hp := by
    cases n with
    | zero =>
      cases hp
      rfl
    | succ n =>
      rw [h.binding n p hp]
      congr 1
      omega
  fresh p hp := by
    rcases List.mem_cons.1 hp with rfl | hp
    · exact hnew
    · exact fun hold => h.fresh p hp (List.mem_append_left _ hold)
  nodup := by
    rw [List.map_cons, List.nodup_cons]
    refine ⟨fun hx => ?_, h.nodup⟩
    obtain ⟨p, hp, hname⟩ := List.mem_map.1 hx
    refine h.fresh p hp (List.mem_append_right _ ?_)
    rw [hname]
    exact List.mem_singleton_self _
  length := Nat.succ_le_succ h.length

end

/-- **The pass over the declarations of a slot** adds the same parameters to the layout and to the
    scope. -/
theorem declares_foldl (slot : Int) (xs : List ParameterDecl) (l : Layout) (scope : Scope) :
    ∃ new, xs.foldl (addParameter slot) (l, scope) =
        ({ l with parameters := l.parameters ++ new },
          { scope with bindings := scope.bindings ++ new.map entry }) ∧
      Declares slot scope.uid l.parameters.length (scope.bindings.map Prod.fst) xs new := by
  induction xs generalizing l scope with
  | nil =>
    refine ⟨[], ?_, ?_⟩
    · rw [List.map_nil, List.append_nil, List.append_nil]
      rfl
    · constructor <;> simp
  | cons x xs ih =>
    rw [List.foldl_cons, addParameter]
    dsimp only
    by_cases hseen : x.name ∈ scope.bindings.map Prod.fst
    · have hsome : (scope.binding? x.name).isSome := by
        obtain ⟨y, hy, hname⟩ := List.mem_map.1 hseen
        rw [Scope.binding?, Option.isSome_iff_ne_none]
        exact fun hnone => bne_iff_ne.1 (List.lookup_eq_none_iff.1 hnone y hy) hname.symm
      rw [if_pos hsome]
      obtain ⟨new, hfold, h⟩ := ih l scope
      exact ⟨new, hfold, h.skip hseen⟩
    · have hnone : ¬ (scope.binding? x.name).isSome = true := by
        rw [Scope.binding?, lookup_of_not_mem hseen]
        exact Bool.false_ne_true
      rw [if_neg hnone]
      obtain ⟨new, hfold, h⟩ := ih
        { l with parameters := l.parameters ++
            [ofDecl slot scope.uid l.parameters.length.toUInt32 x] }
        { scope with bindings := scope.bindings ++ [(x.name, l.parameters.length.toUInt32)] }
      rw [List.length_append, List.map_append] at h
      refine ⟨_, hfold.trans ?_, h.keep hseen⟩
      simp only [List.append_assoc]
      rfl

/-- A slot is added with its parameters and with its scope, which binds them. -/
theorem declares_addSlot (l : Layout) (i : Int) (d : DataInterface) :
    ∃ new, l.addSlot i d =
        { l with
          parameters := l.parameters ++ new
          scopes := l.scopes ++
            [(i, { uid := d.uid i, group := l.group, bindings := new.map entry })] } ∧
      Declares i (d.uid i) l.parameters.length [] (d.interface.parameters (d.uid i)) new := by
  obtain ⟨new, hfold, hnew⟩ := declares_foldl i (d.interface.parameters (d.uid i)) l
    { uid := d.uid i, group := l.group }
  refine ⟨new, ?_, hnew⟩
  rw [addSlot]
  dsimp only
  rw [hfold]
  rfl

/-! ## All slots together -/

/-- What the layout of the interfaces `is` has assigned: one scope to every slot, which binds the
    parameters of that slot and no others, and its position to every parameter.  `order` says of
    any relation that holds along the slots that it holds along the parameters. -/
structure Assigned (is : List (Int × DataInterface)) (l : Layout) : Prop where
  slots : l.scopes.map Prod.fst = is.map Prod.fst
  scopes : ∀ i scope, (i, scope) ∈ l.scopes → scope.group = l.group ∧
    (∃ x, (i, x) ∈ is ∧ scope.uid = x.uid i) ∧
    scope.bindings = (l.parameters.filter fun p => p.slot = i).map entry
  bindings : ∀ (n : Nat) (p : Parameter), l.parameters[n]? = some p → p.binding = n.toUInt32
  nodup : (l.parameters.map fun p => (p.slot, p.localName)).Nodup
  order : ∀ R : Int → Int → Prop, (is.map Prod.fst).Pairwise R →
    l.parameters.Pairwise fun p q => p.slot = q.slot ∨ R p.slot q.slot
  declared : ∀ p ∈ l.parameters, ∃ d, (p.slot, d) ∈ is ∧
    ∃ x ∈ d.interface.parameters (d.uid p.slot), p = ofDecl p.slot (d.uid p.slot) p.binding x
  complete : ∀ i d, (i, d) ∈ is → ∀ x ∈ d.interface.parameters (d.uid i),
    ∃ p ∈ l.parameters, p.slot = i ∧ p.localName = x.name
  length : l.parameters.length ≤
    (is.map fun (i, d) => (d.interface.parameters (d.uid i)).length).sum

section
variable {is : List (Int × DataInterface)} {l : Layout} {i : Int} {d : DataInterface}

theorem Assigned.slot_mem (h : Assigned is l) {p : Parameter} (hp : p ∈ l.parameters) :
    p.slot ∈ is.map Prod.fst := by
  obtain ⟨d, hd, _⟩ := h.declared p hp
  exact List.mem_map_of_mem hd

/-- **Adding a slot** assigns its own parameters, and leaves the others as they are. -/
theorem Assigned.addSlot (h : Assigned is l) (hi : i ∉ is.map Prod.fst) :
    Assigned (is ++ [(i, d)]) (l.addSlot i d) := by
  obtain ⟨new, hadd, hnew⟩ := l.declares_addSlot i d
  have hslot : ∀ p ∈ new, p.slot = i := fun p hp => by
    obtain ⟨x, _, heq⟩ := hnew.declared p hp
    rw [heq]
    rfl
  have hne : ∀ p ∈ l.parameters, p.slot ≠ i := fun p hp heq => hi (heq ▸ h.slot_mem hp)
  rw [hadd]
  constructor
  · rw [List.map_append, List.map_append, h.slots]
    rfl
  · intro j scope hmem
    rw [List.filter_append]
    rcases List.mem_append.1 hmem with hmem | hmem
    · -- no new parameter belongs to an earlier slot
      obtain ⟨hgroup, ⟨x, hx, huid⟩, hbindings⟩ := h.scopes j scope hmem
      have hother : new.filter (fun p => p.slot = j) = [] :=
        List.filter_eq_nil_iff.2 fun p hp heq => by
          rw [hslot p hp, decide_eq_true_eq] at heq
          subst heq
          exact hi (List.mem_map_of_mem hx)
      refine ⟨hgroup, ⟨x, List.mem_append_left _ hx, huid⟩, ?_⟩
      rw [hother, List.append_nil, hbindings]
    · cases List.mem_singleton.1 hmem
      have hold : l.parameters.filter (fun p => p.slot = i) = [] :=
        List.filter_eq_nil_iff.2 fun p hp heq => hne p hp (of_decide_eq_true heq)
      have hall : new.filter (fun p => p.slot = i) = new :=
        List.filter_eq_self.2 fun p hp => decide_eq_true (hslot p hp)
      refine ⟨rfl, ⟨d, List.mem_append_right _ (List.mem_singleton_self _), rfl⟩, ?_⟩
      rw [hold, hall, List.nil_append]
  · intro n p hp
    rcases Nat.lt_or_ge n l.parameters.length with hlt | hge
    · rw [List.getElem?_append_left hlt] at hp
      exact h.bindings n p hp
    · rw [List.getElem?_append_right hge] at hp
      rw [hnew.binding _ p hp]
      congr 1
      omega
  · rw [List.map_append, List.nodup_append]
    refine ⟨h.nodup, ?_, ?_⟩
    · have hsame : new.map (fun p => (p.slot, p.localName)) =
          (new.map Parameter.localName).map fun name => (i, name) := by
        rw [List.map_map]
        exact List.map_congr_left fun p hp => by rw [hslot p hp]; rfl
      rw [hsame]
      exact hnew.nodup.map fun _ _ heq => (Prod.mk.inj heq).2
    · intro a ha b hb heq
      obtain ⟨p, hp, rfl⟩ := List.mem_map.1 ha
      obtain ⟨q, hq, rfl⟩ := List.mem_map.1 hb
      exact hne p hp ((Prod.mk.inj heq).1.trans (hslot q hq))
  · intro R hR
    rw [List.map_append, List.pairwise_append] at hR
    obtain ⟨hbefore, _, hlast⟩ := hR
    refine List.pairwise_append.2 ⟨h.order R hbefore, ?_, fun p hp q hq => ?_⟩
    · exact List.pairwise_of_forall_mem_list fun p hp q hq =>
        .inl ((hslot p hp).trans (hslot q hq).symm)
    · rw [hslot q hq]
      exact .inr (hlast _ (h.slot_mem hp) _ (List.mem_singleton_self _))
  · intro p hp
    rcases List.mem_append.1 hp with hp | hp
    · obtain ⟨x, hx, hdecl⟩ := h.declared p hp
      exact ⟨x, List.mem_append_left _ hx, hdecl⟩
    · refine ⟨d, ?_, ?_⟩
      · rw [hslot p hp]
        exact List.mem_append_right _ (List.mem_singleton_self _)
      · rw [hslot p hp]
        exact hnew.declared p hp
  · intro j x hmem y hy
    rcases List.mem_append.1 hmem with hmem | hmem
    · obtain ⟨p, hp, hpy⟩ := h.complete j x hmem y hy
      exact ⟨p, List.mem_append_left _ hp, hpy⟩
    · cases List.mem_singleton.1 hmem
      obtain ⟨p, hp, hname⟩ := (hnew.complete y hy).resolve_left List.not_mem_nil
      exact ⟨p, List.mem_append_right _ hp, hslot p hp, hname⟩
  · rw [List.length_append, List.map_append, List.sum_append]
    refine Nat.add_le_add h.length ?_
    rw [List.map_singleton, List.sum_singleton]
    exact hnew.length

theorem assigned_foldl (name : String) (hnodup : (is.map Prod.fst).Nodup) :
    Assigned is (is.foldl (fun l (i, d) => l.addSlot i d) { name }) := by
  induction is using List.reverseRecOn with
  | nil => constructor <;> simp
  | append_singleton is p ih =>
    rw [List.map_append, List.nodup_append] at hnodup
    rw [List.foldl_append]
    refine (ih hnodup.1).addSlot fun hp => ?_
    exact hnodup.2.2 _ hp _ (List.mem_singleton_self _) rfl

end

end Layout

namespace Graph

section
variable {g : Graph} {k i : Int} {x : DataInterface}

theorem assigned_layout (g : Graph) (k : Int) : (g.layout k).Assigned (g.boundInterfaces k) :=
  Layout.assigned_foldl _ (g.nodup_slots k)

/-! ## The scope of a slot -/

/-- A bound slot has a scope. -/
theorem exists_scope (h : (i, x) ∈ g.boundInterfaces k) :
    ∃ scope, (i, scope) ∈ (g.layout k).scopes ∧ (g.layout k).scope i = scope := by
  have hassigned := g.assigned_layout k
  have hslot : i ∈ (g.layout k).scopes.map Prod.fst := by
    rw [hassigned.slots]
    exact List.mem_map_of_mem h
  obtain ⟨⟨_, scope⟩, hmem, rfl⟩ := List.mem_map.1 hslot
  refine ⟨scope, hmem, ?_⟩
  rw [Layout.scope, lookup_of_mem (hassigned.slots ▸ g.nodup_slots k) hmem]
  rfl

/-- **The scope of a bound slot** carries the slot's unique name. -/
theorem uid_scope_layout (h : (i, x) ∈ g.boundInterfaces k) :
    ((g.layout k).scope i).uid = x.uid i := by
  obtain ⟨scope, hmem, hscope⟩ := exists_scope h
  obtain ⟨_, ⟨y, hy, huid⟩, _⟩ := (g.assigned_layout k).scopes i scope hmem
  rw [hscope, huid]
  cases (interface?_of_mem h).symm.trans (interface?_of_mem hy)
  rfl

/-- It is in the group of the layout. -/
theorem group_scope_layout (h : (i, x) ∈ g.boundInterfaces k) :
    ((g.layout k).scope i).group = (g.layout k).group := by
  obtain ⟨scope, hmem, hscope⟩ := exists_scope h
  rw [hscope]
  exact ((g.assigned_layout k).scopes i scope hmem).1

/-- A slot that is not bound has an empty one. -/
theorem scope_of_not_mem (h : i ∉ (g.boundInterfaces k).map Prod.fst) :
    (g.layout k).scope i = {} := by
  rw [← (g.assigned_layout k).slots] at h
  rw [Layout.scope, lookup_of_not_mem h]
  rfl

/-- **A scope binds the parameters of its slot** to their bindings, and nothing else. -/
theorem binding?_scope_layout {name : String} {b : UInt32} :
    ((g.layout k).scope i).binding? name = some b ↔
      ∃ p ∈ (g.layout k).parameters, p.slot = i ∧ p.localName = name ∧ p.binding = b := by
  have hassigned := g.assigned_layout k
  by_cases hi : i ∈ (g.boundInterfaces k).map Prod.fst
  · obtain ⟨⟨_, x⟩, hx, rfl⟩ := List.mem_map.1 hi
    obtain ⟨scope, hmem, hscope⟩ := exists_scope hx
    obtain ⟨_, _, hbindings⟩ := hassigned.scopes _ scope hmem
    have hnodup : (scope.bindings.map Prod.fst).Nodup := by
      -- names are different where slots are the same
      rw [hbindings, List.map_map]
      refine List.Nodup.map_on (fun p hp q hq hname => ?_)
        ((List.Nodup.of_map _ hassigned.nodup).filter _)
      obtain ⟨hp, hslot⟩ := List.mem_filter.1 hp
      obtain ⟨hq, hslot'⟩ := List.mem_filter.1 hq
      refine List.inj_on_of_nodup_map hassigned.nodup hp hq (Prod.ext ?_ hname)
      exact (of_decide_eq_true hslot).trans (of_decide_eq_true hslot').symm
    rw [hscope, Scope.binding?]
    constructor
    · intro h
      have hentry := mem_of_lookup h
      rw [hbindings] at hentry
      obtain ⟨p, hp, heq⟩ := List.mem_map.1 hentry
      obtain ⟨hp, hslot⟩ := List.mem_filter.1 hp
      obtain ⟨hname, hbinding⟩ := Prod.mk.inj heq
      exact ⟨p, hp, of_decide_eq_true hslot, hname, hbinding⟩
    · rintro ⟨p, hp, hslot, rfl, rfl⟩
      refine lookup_of_mem hnodup ?_
      rw [hbindings]
      exact List.mem_map.2 ⟨p, List.mem_filter.2 ⟨hp, decide_eq_true hslot⟩, rfl⟩
  · rw [scope_of_not_mem hi]
    constructor
    · intro h
      cases h
    · rintro ⟨p, hp, rfl, _⟩
      exact absurd (hassigned.slot_mem hp) hi

/-! ## The layout of a kernel -/

/-- How many parameters the interfaces bound to a kernel declare, repetitions included. -/
def declarations (g : Graph) (k : Int) : Nat :=
  ((g.boundInterfaces k).map fun (i, d) => (d.interface.parameters (d.uid i)).length).sum

/-- Source and layout of a kernel agree on bindings. -/
structure BindingsAgree (g : Graph) (k : Int) (l : Layout) : Prop where
  /-- Parameters are bound to their positions. -/
  binding : ∀ (n : Nat) p, l.parameters[n]? = some p → p.binding.toNat = n
  /-- A slot that is bound and not empty has one scope, -/
  oneScope : ∀ i, g.Binds k i → (l.scopes.map Prod.fst).count i = 1
  /-- and no other slot has any. -/
  noScope : ∀ i, ¬ g.Binds k i → (l.scopes.map Prod.fst).count i = 0
  /-- A scope binds a name exactly to the position of the slot's parameter with this name. -/
  bound : ∀ i name b, (l.scope i).binding? name = some b ↔
    ∃ p, l.parameters[b.toNat]? = some p ∧ p.slot = i ∧ p.localName = name
  /-- No slot binds a name twice. -/
  once : (l.parameters.map fun p => (p.slot, p.localName)).Nodup
  /-- The parameters of a slot stand together, -/
  contiguous : ∀ (m n o : Nat) p q r, m < n → n < o → l.parameters[m]? = some p →
    l.parameters[n]? = some q → l.parameters[o]? = some r → p.slot = r.slot → q.slot = p.slot
  /-- and the slots in the order of their first edges. -/
  order : l.parameters.Pairwise fun p q =>
    p.slot = q.slot ∨ g.firstEdge k p.slot < g.firstEdge k q.slot

/-- **Source and layout agree on bindings**, as long as fewer than 2^32 parameters are declared. -/
theorem layout_bindings (g : Graph) (k : Int) (hcount : g.declarations k < 2 ^ 32) :
    g.BindingsAgree k (g.layout k) := by
  have hassigned := g.assigned_layout k
  have hbinding : ∀ (n : Nat) p, (g.layout k).parameters[n]? = some p → p.binding.toNat = n := by
    intro n p hp
    have hlt := (List.getElem?_eq_some_iff.1 hp).1
    have hlength := hassigned.length
    rw [hassigned.bindings n p hp]
    refine UInt32.toNat_ofNat_of_lt' (Nat.lt_of_lt_of_le hlt (Nat.le_of_lt ?_))
    exact Nat.lt_of_le_of_lt hlength hcount
  have horder : (g.layout k).parameters.Pairwise fun p q =>
      p.slot = q.slot ∨ g.firstEdge k p.slot < g.firstEdge k q.slot := by
    refine hassigned.order (fun i j => g.firstEdge k i < g.firstEdge k j) ?_
    rw [map_fst_boundInterfaces]
    exact (g.pairwise_boundSlots k).filter _
  have hslots : ((g.layout k).scopes.map Prod.fst).Nodup := by
    rw [hassigned.slots]
    exact g.nodup_slots k
  have hbinds : ∀ i, i ∈ (g.layout k).scopes.map Prod.fst ↔ g.Binds k i := by
    intro i
    rw [hassigned.slots, binds_iff, List.mem_map]
    constructor
    · rintro ⟨⟨_, x⟩, hx, rfl⟩
      exact ⟨x, hx⟩
    · rintro ⟨x, hx⟩
      exact ⟨(i, x), hx, rfl⟩
  refine ⟨hbinding, fun i hi => ?_, fun i hi => ?_, fun i name b => ?_, hassigned.nodup, ?_, horder⟩
  · exact List.count_eq_one_of_mem hslots ((hbinds i).2 hi)
  · exact List.count_eq_zero_of_not_mem fun h => hi ((hbinds i).1 h)
  · rw [binding?_scope_layout]
    constructor
    · rintro ⟨p, hp, hslot, hname, rfl⟩
      obtain ⟨n, hn⟩ := List.mem_iff_getElem?.1 hp
      exact ⟨p, by rw [hbinding n p hn]; exact hn, hslot, hname⟩
    · rintro ⟨p, hp, hslot, hname⟩
      exact ⟨p, List.mem_of_getElem? hp, hslot, hname, UInt32.toNat_inj.1 (hbinding _ p hp)⟩
  · -- a slot in between would have its first edge behind that of its neighbours, and in front of it
    intro m n o p q r hmn hno hp hq hr hsame
    have hat : ∀ {m n : Nat} {p q : Parameter}, m < n → (g.layout k).parameters[m]? = some p →
        (g.layout k).parameters[n]? = some q →
        p.slot = q.slot ∨ g.firstEdge k p.slot < g.firstEdge k q.slot := by
      intro m n p q hlt hp hq
      obtain ⟨hm, rfl⟩ := List.getElem?_eq_some_iff.1 hp
      obtain ⟨hn, rfl⟩ := List.getElem?_eq_some_iff.1 hq
      exact List.pairwise_iff_getElem.1 horder m n hm hn hlt
    rcases hat hmn hp hq with heq | hlt
    · exact heq.symm
    · rcases hat hno hq hr with heq | hlt'
      · exact heq.trans hsame.symm
      · rw [hsame] at hlt
        omega

end

/-- A kernel that reads twice from an interface that declares a name twice, and from a slot that is
    empty. -/
def repeatedGraph : Graph where
  name := "G"
  interfaces :=
    [some (.execution 64),
      some (.custom
        { className := "X"
          parameters := fun _ =>
            [⟨"A", "u32", .uniform, 4⟩, ⟨"B", "f32", .storage, 0⟩, ⟨"A", "i32", .uniform, 4⟩] }),
      none]
  edges := [{ interface := 1 }, { interface := 2 }, { interface := 0 }, { interface := 1 }]

theorem layout_bindings_repeated : repeatedGraph.declarations 0 < 2 ^ 32 ∧
    repeatedGraph.BindingsAgree 0 (repeatedGraph.layout 0) ∧
    (repeatedGraph.layout 0).parameters.map (fun p => (p.slot, p.name, p.binding)) =
      [(1, "A_DI1_X", 0), (1, "B_DI1_X", 1), (0, "NumThreads_DI0_Execution", 2)] :=
  ⟨by decide, layout_bindings repeatedGraph 0 (by decide), by decide⟩

end Graph

end KernelGraph
