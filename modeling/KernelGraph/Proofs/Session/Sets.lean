/-
  The sets of a graph's resources.

  An update first matches the sets to the kernels: those of removed kernels go, with their
  resources, and new kernels get empty sets.  Then each kernel asks its set for a resource.  It gets
  the one that is there for the graph's level, or a new one.
-/
import KernelGraph.Proofs.Session.Holdings

namespace KernelGraph

namespace Graph

theorem compilable_sublist (g : Graph) :
    (g.compilable.map Prod.fst).Sublist (List.range g.kernels.length) := by
  have hindex : ∀ xs : List (Option Kernel × Nat), ((xs.filterMap fun y =>
      y.1.bind fun x => x.source.map fun s => (y.2, x, s)).map Prod.fst).Sublist
        (xs.map Prod.snd) := by
    intro xs
    induction xs with
    | nil => exact .refl _
    | cons x xs ih =>
      obtain ⟨kernel, k⟩ := x
      rw [List.filterMap_cons]
      split
      · exact ih.cons _
      · rename_i y hy
        obtain ⟨kernel', _, hy⟩ := Option.bind_eq_some_iff.1 hy
        obtain ⟨source, _, rfl⟩ := Option.map_eq_some_iff.1 hy
        exact ih.cons_cons _
  have hall := hindex g.kernels.zipIdx
  rw [List.zipIdx_map_snd, ← List.range_eq_range'] at hall
  exact hall

theorem nodup_compilable (g : Graph) : (g.compilable.map Prod.fst).Nodup :=
  List.nodup_range.sublist g.compilable_sublist

theorem lt_of_mem_compilable {g : Graph} {k : Nat} (h : k ∈ g.compilable.map Prod.fst) :
    k < g.kernels.length :=
  List.mem_range.1 (g.compilable_sublist.subset h)

end Graph

theorem ResourceSet.toList_empty (format : String) (editor : Bool) :
    (ResourceSet.empty format editor).toList = [] := by
  cases editor with
  | false => rfl
  | true => rfl

theorem ResourceSet.fits_empty (o : GraphOptions) :
    (ResourceSet.empty o.format o.editor).Fits o := by
  cases h : o.editor with
  | false => exact ⟨h, rfl⟩
  | true => exact ⟨h, rfl, rfl⟩

namespace ResourceSet

/-- The resource that the set has for a level, if there is one.  A level that is not defined has the
    place of another one in the table of an editor. -/
def owned? (set : ResourceSet) (store : ResourceStore) (level : FeatureLevel) : Option Nat :=
  match set with
  | editor _ table => (table[(if level.isValid then level else .sm5).code.toNat]?).join
  | runtime _ _ => set.lookup? store level

/-- Sets of the kind find what they have for the level: the table of an editor finds nothing at a
    level that is not defined. -/
def Visible (editor : Bool) (level : FeatureLevel) : Prop := editor = false ∨ level.isValid = true

instance (editor : Bool) (level : FeatureLevel) : Decidable (Visible editor level) :=
  inferInstanceAs (Decidable (_ ∨ _))

section
variable {o : GraphOptions} {set : ResourceSet} {store store' : ResourceStore}
  {level : FeatureLevel} {r : Nat}

theorem mem_of_lookup? (h : set.lookup? store level = some r) : r ∈ set.toList := by
  cases set with
  | editor _ table =>
    exact List.mem_filterMap.2 ⟨some r, List.mem_of_getElem? (Option.join_eq_some_iff.1 h), rfl⟩
  | runtime _ slot =>
    have hslot : slot = some r := (Option.filter_eq_some_iff.1 h).1
    rw [hslot]
    exact List.mem_singleton_self r

theorem mem_of_owned? (h : set.owned? store level = some r) : r ∈ set.toList := by
  cases set with
  | editor format table =>
    exact List.mem_filterMap.2 ⟨some r, List.mem_of_getElem? (Option.join_eq_some_iff.1 h), rfl⟩
  | runtime format slot => exact mem_of_lookup? h

theorem lookup?_congr
    (h : ∀ r ∈ set.toList, (store'[r]?).map Resource.level = (store[r]?).map Resource.level) :
    set.lookup? store' level = set.lookup? store level := by
  cases set with
  | editor format table => rfl
  | runtime format slot =>
    cases slot with
    | none => rfl
    | some r =>
      have hr := h r (List.mem_singleton_self r)
      simp only [lookup?, hr, Option.filter_some]

theorem owned?_congr
    (h : ∀ r ∈ set.toList, (store'[r]?).map Resource.level = (store[r]?).map Resource.level) :
    set.owned? store' level = set.owned? store level := by
  cases set with
  | editor format table => rfl
  | runtime format slot => exact lookup?_congr h

theorem owned?_empty (format : String) (editor : Bool) (store : ResourceStore)
    (level : FeatureLevel) : (empty format editor).owned? store level = none := by
  cases h : (empty format editor).owned? store level with
  | none => rfl
  | some r =>
    have hmem := mem_of_owned? h
    rw [toList_empty] at hmem
    cases hmem

/-- **A set that has a resource** hands it out. -/
theorem resource_of_owned? (h : set.owned? store level = some r) :
    set.resource store level = (r, none, set, store) := by
  cases set with
  | editor format table =>
    simp only [owned?] at h
    simp only [resource, h]
  | runtime format slot =>
    simp only [owned?] at h
    simp only [resource, h]

/-- The place of the level in an editor's table is there. -/
theorem place_lt (level : FeatureLevel) :
    (if level.isValid then level else .sm5).code.toNat < FeatureLevel.names.length := by
  split
  · rename_i h
    simpa [FeatureLevel.isValid] using h
  · decide

/-- Looking the level up finds what the set has, if the level is defined or the set is no table. -/
theorem lookup?_eq_owned? (h : level.isValid = true ∨ ∃ format slot, set = .runtime format slot) :
    set.lookup? store level = set.owned? store level := by
  cases set with
  | runtime format slot => rfl
  | editor format table =>
    rcases h with h | ⟨format, slot, h⟩
    · simp only [lookup?, owned?, h, if_true]
    · cases h

/-- **A table finds nothing** at a level that is not defined. -/
theorem lookup?_of_not_valid {format : String} {table : List (Option Nat)}
    (hlength : table.length = FeatureLevel.names.length) (h : level.isValid = false) :
    (editor format table).lookup? store level = none := by
  have hle : table.length ≤ level.code.toNat := by
    rw [hlength]
    simpa [FeatureLevel.isValid] using h
  rw [lookup?, List.getElem?_eq_none hle]
  rfl

/-- A graph's set finds what it has, if it is visible. -/
theorem Fits.lookup?_eq (h : set.Fits o) : set.lookup? store level =
    if Visible o.editor level then set.owned? store level else none := by
  cases set with
  | runtime format slot =>
    have hvisible : Visible o.editor level := Or.inl h.1
    rw [if_pos hvisible, owned?]
  | editor format table =>
    split
    · rename_i hvisible
      refine lookup?_eq_owned? (Or.inl (hvisible.resolve_left ?_))
      rw [h.1]
      simp
    · rename_i hhidden
      exact lookup?_of_not_valid h.2.2 (Bool.eq_false_iff.2 (not_or.1 hhidden).2)

end

end ResourceSet

/-- What a graph's set yields for the graph's level: the resource that it has, or a new one that it
    has not had before. -/
theorem ResourceSet.resource_cases {o : GraphOptions} {set : ResourceSet} {store : ResourceStore}
    (hfits : set.Fits o)
    (hlevel : ∀ r ∈ set.toList, o.editor = false → (store[r]?).map Resource.level = some o.level) :
    (∃ r ∈ set.toList, set.owned? store o.level = some r ∧
      set.resource store o.level = (r, none, set, store)) ∨
    ∃ (set' : ResourceSet) (level : FeatureLevel), set'.Fits o ∧
      (o.editor = false → level = o.level) ∧
      (∀ r, r ∈ set'.toList ↔ r ∈ set.toList ∨ r = store.size) ∧
      (set.owned? store o.level = none ∧
        set'.owned? (store.push { format := o.format, level }) o.level = some store.size) ∧
      set.resource store o.level =
        (store.size, none, set', store.push { format := o.format, level }) := by
  cases set with
  | runtime format slot =>
    obtain ⟨heditor, hformat⟩ := hfits
    cases slot with
    | none =>
      refine Or.inr ⟨.runtime format (some store.size), o.level, ⟨heditor, hformat⟩, fun _ => rfl,
        fun r => ?_, ⟨rfl, ?_⟩, ?_⟩
      · simp [ResourceSet.toList]
      · simp [ResourceSet.owned?, ResourceSet.lookup?]
      · rw [hformat]
        rfl
    | some r =>
      have hr := hlevel r (List.mem_singleton_self r) heditor
      have hlookup : (ResourceSet.runtime format (some r)).lookup? store o.level = some r := by
        rw [ResourceSet.lookup?, Option.filter_some, hr, if_pos (decide_eq_true rfl)]
      refine Or.inl ⟨r, List.mem_singleton_self r, hlookup, ?_⟩
      simp only [ResourceSet.resource, hlookup]
  | editor format table =>
    obtain ⟨heditor, hformat, hlength⟩ := hfits
    -- a level that is not defined has the place of another one
    obtain ⟨level, hlevel, hlt⟩ : ∃ level : FeatureLevel,
        level = (if o.level.isValid then o.level else .sm5) ∧ level.code.toNat < table.length :=
      ⟨_, rfl, hlength.symm ▸ ResourceSet.place_lt o.level⟩
    cases hslot : (table[level.code.toNat]?).join with
    | some r =>
      have hget := Option.join_eq_some_iff.1 hslot
      refine Or.inl ⟨r, ?_, ?_, ?_⟩
      · exact List.mem_filterMap.2 ⟨some r, List.mem_of_getElem? hget, rfl⟩
      · rw [ResourceSet.owned?, ← hlevel, hslot]
      · simp only [ResourceSet.resource, ← hlevel, hslot]
    | none =>
      refine Or.inr ⟨.editor format (table.set level.code.toNat (some store.size)), level,
        ⟨heditor, hformat, (by rw [List.length_set, hlength])⟩,
        fun h => (by rw [heditor] at h; cases h), fun r => ?_, ⟨?_, ?_⟩, ?_⟩
      · -- nothing was at the place
        simp only [ResourceSet.toList, List.mem_filterMap, id]
        have hold : table[level.code.toNat]? = some none := by
          rw [List.getElem?_eq_getElem hlt] at hslot ⊢
          exact congrArg some hslot
        constructor
        · rintro ⟨x, hx, rfl⟩
          rcases List.mem_or_eq_of_mem_set hx with hx | hx
          · exact Or.inl ⟨_, hx, rfl⟩
          · exact Or.inr (Option.some.inj hx)
        · rintro (⟨x, hx, rfl⟩ | rfl)
          · obtain ⟨i, hi⟩ := List.mem_iff_getElem?.1 hx
            refine ⟨some r, List.mem_of_getElem? (i := i) ?_, rfl⟩
            rw [List.getElem?_set_ne, hi]
            intro heq
            rw [heq, hi] at hold
            cases hold
          · exact ⟨_, List.mem_set hlt _, rfl⟩
      · rw [ResourceSet.owned?, ← hlevel, hslot]
      · rw [ResourceSet.owned?, ← hlevel, List.getElem?_set_self hlt]
        rfl
      · simp only [ResourceSet.resource, ← hlevel, hslot]
        rw [hformat]

namespace Session

section
variable {s s' s'' : Session} {g k r : Nat}

/-! ## Resizing the sets -/

/-- Invalidating resources changes the resources only. -/
theorem foldl_invalidate (rs : List Nat) (s : Session) :
    rs.foldl (fun s r => s.modifyResource r Resource.invalidate) s =
      { s with resources := rs.foldl (fun a r => a.modify r Resource.invalidate) s.resources } := by
  induction rs generalizing s with
  | nil => rfl
  | cons r rs ih => rw [List.foldl_cons, ih]; rfl

theorem size_foldl_invalidate (rs : List Nat) (store : ResourceStore) :
    (rs.foldl (fun a r => a.modify r Resource.invalidate) store).size = store.size := by
  induction rs generalizing store with
  | nil => rfl
  | cons r rs ih => rw [List.foldl_cons, ih, Array.size_modify]

/-- Exactly the resources listed are invalidated. -/
theorem resource_foldl_invalidate (rs : List Nat) (s : Session) (i : Nat) :
    (rs.foldl (fun s r => s.modifyResource r Resource.invalidate) s).resource i =
      if i ∈ rs ∧ i < s.resources.size then (s.resource i).invalidate else s.resource i := by
  induction rs generalizing s with
  | nil => rw [if_neg fun h => by cases h.1]; rfl
  | cons r rs ih =>
    have hsize : (s.modifyResource r Resource.invalidate).resources.size = s.resources.size :=
      Array.size_modify
    rw [List.foldl_cons, ih, resource_modifyResource, hsize]
    by_cases hi : i < s.resources.size
    · by_cases hr : r = i
      · subst hr
        rw [if_pos (⟨rfl, hi⟩ : r = r ∧ _), if_pos (⟨List.mem_cons_self .., hi⟩ : r ∈ r :: rs ∧ _)]
        split
        · rfl
        · rfl
      · rw [if_neg (fun h => hr h.1 : ¬(r = i ∧ _))]
        simp only [List.mem_cons, Ne.symm hr, false_or]
    · have hr : ¬ (r = i ∧ r < s.resources.size) := by
        rintro ⟨rfl, h⟩
        exact hi h
      rw [if_neg fun h => hi h.2, if_neg hr, if_neg fun h => hi h.2]

theorem settles_foldl_invalidate (rs : List Nat) (s : Session) (i : Nat) :
    (s.resource i).Settles
      ((rs.foldl (fun s r => s.modifyResource r Resource.invalidate) s).resource i) := by
  rw [resource_foldl_invalidate]
  split
  · exact .invalidate _
  · exact .refl _

/-- The resources of the kernels that a graph no longer has. -/
def removedResources (s : Session) (g : Nat) : List Nat :=
  ((s.graph g).sets.drop (s.graph g).definition.kernels.length).flatMap fun set =>
    (set.map ResourceSet.toList).getD []

/-- The sets of a graph, matched to its kernels. -/
def matchedSets (s : Session) (g : Nat) : List (Option ResourceSet) :=
  let x := s.graph g
  let n := x.definition.kernels.length
  (x.sets.take n ++ List.replicate (n - x.sets.length) none).map fun set : Option ResourceSet =>
    some (set.getD (.empty x.options.format x.options.editor))

theorem getElem?_matchedSets (s : Session) (g k : Nat) :
    (s.matchedSets g)[k]? =
      if k < (s.graph g).definition.kernels.length then
        some (some ((((s.graph g).sets[k]?).join).getD
          (.empty (s.graph g).options.format (s.graph g).options.editor)))
      else none := by
  unfold matchedSets
  dsimp only
  generalize (s.graph g).definition.kernels.length = n
  generalize (s.graph g).sets = sets
  rw [List.getElem?_map]
  by_cases hk : k < n
  · rw [if_pos hk]
    by_cases hl : k < sets.length
    · rw [List.getElem?_append_left (by rw [List.length_take]; omega), List.getElem?_take,
        if_pos hk, List.getElem?_eq_getElem hl]
      rfl
    · rw [List.getElem?_append_right (by rw [List.length_take]; omega), List.getElem?_replicate,
        if_pos (by rw [List.length_take]; omega), List.getElem?_eq_none (by omega)]
      rfl
  · rw [if_neg hk, List.getElem?_eq_none]
    · rfl
    · rw [List.length_append, List.length_take, List.length_replicate]
      omega

theorem modifyGraph_congr {f f' : GraphState → GraphState}
    (h : f (s.graph g) = f' (s.graph g)) : s.modifyGraph g f = s.modifyGraph g f' := by
  unfold Session.modifyGraph
  congr 1
  apply Array.ext_getElem?
  intro i
  rw [Array.getElem?_modify, Array.getElem?_modify]
  split
  · rename_i hi
    subst hi
    cases hx : s.graphs[g]? with
    | none => rfl
    | some x =>
      rw [Session.graph, Array.getD_eq_getD_getElem?, hx] at h
      exact congrArg some h
  · rfl

/-- **Resizing**: the resources of removed kernels are invalidated, the sets of the others are kept
    or made. -/
theorem resizeSets_eq (h : s.Holdings) (g : Nat) :
    s.resizeSets g = ((s.removedResources g).foldl
      (fun s r => s.modifyResource r Resource.invalidate) s).modifyGraph g fun x =>
        { x with sets := s.matchedSets g } := by
  unfold Session.resizeSets
  extract_lets x n removed s₁ kept format
  have hs₁ : ∀ i, (s.resource i).Settles (s₁.resource i) := settles_foldl_invalidate removed s
  have hstore : s₁ = { s with resources := _ } := foldl_invalidate removed s
  have hsize : s₁.resources.size = s.resources.size := by
    rw [hstore]
    exact size_foldl_invalidate removed s.resources
  have hgraph : s₁.graph g = s.graph g := by
    rw [hstore]
    rfl
  -- all resources of a set have the format of the graph
  have hformat : ∀ set, some set ∈ kept → set.hasFormat s₁.resources format = true := by
    intro set hset
    have hmem : some set ∈ x.sets := by
      rcases List.mem_append.1 hset with hset | hset
      · exact List.mem_of_mem_take hset
      · cases List.eq_of_mem_replicate hset
    obtain ⟨k, hk⟩ := List.mem_iff_getElem?.1 hmem
    refine List.all_eq_true.2 fun r hr => decide_eq_true ?_
    have ho : s.Owns g k r := ⟨set, hk, hr⟩
    have hlt : r < s₁.resources.size := by rw [hsize]; exact h.lt ho
    have hr : s₁.resources[r]? = some (s₁.resource r) := by
      rw [Session.resource, Array.getD_eq_getD_getElem?, Array.getElem?_eq_getElem hlt]
      rfl
    rw [hr, Option.map_some, (hs₁ r).format, h.format ho]
  refine modifyGraph_congr ?_
  rw [hgraph]
  congr 1
  refine List.map_congr_left fun set hset => ?_
  cases set with
  | none => rfl
  | some set =>
    dsimp only
    rw [if_pos (hformat set hset)]
    rfl

theorem graph_resizeSets (h : s.Holdings) (g i : Nat) : (s.resizeSets g).graph i =
    if g = i ∧ g < s.graphs.size then { s.graph i with sets := s.matchedSets g }
    else s.graph i := by
  rw [resizeSets_eq h, foldl_invalidate, graph_modifyGraph]
  rfl

theorem sets_resizeSets (h : s.Holdings) (hg : g < s.graphs.size) :
    ((s.resizeSets g).graph g).sets = s.matchedSets g := by
  rw [graph_resizeSets h, if_pos ⟨rfl, hg⟩]

/-- Resizing changes the sets of a graph only. -/
theorem graph_resizeSets_eq (h : s.Holdings) (g i : Nat) : (s.resizeSets g).graph i =
    { s.graph i with sets := ((s.resizeSets g).graph i).sets } := by
  rw [graph_resizeSets h]
  split
  · rfl
  · rfl

/-- Resizing leaves a frame. -/
theorem Frame.resizeSets (h : s.Holdings) (g : Nat) : s.Frame (s.resizeSets g) := by
  have hgraph := graph_resizeSets h g
  have hsame : ∀ i, ((s.resizeSets g).graph i).options = (s.graph i).options ∧
      ((s.resizeSets g).graph i).generation = (s.graph i).generation ∧
      ((s.resizeSets g).graph i).closed = (s.graph i).closed := by
    intro i
    rw [graph_resizeSets_eq h]
    exact ⟨rfl, rfl, rfl⟩
  have hfields : s.resizeSets g = { s with
      graphs := (s.resizeSets g).graphs, resources := (s.resizeSets g).resources } := by
    rw [resizeSets_eq h, foldl_invalidate]
    rfl
  have hentries : (s.resizeSets g).platformResources = s.platformResources := by
    rw [hfields]
    rfl
  have hcooked : ∀ r, (s.resizeSets g).IsCooked r ↔ s.IsCooked r := by
    intro r
    rw [IsCooked, IsCooked, hentries]
  exact
    { size := by
        rw [resizeSets_eq h, foldl_invalidate]
        exact Nat.le_of_eq Array.size_modify.symm
      sets := fun i k set hset => by
        rw [(hsame i).1]
        rw [hgraph] at hset
        split at hset
        · rename_i hi
          obtain ⟨rfl, _⟩ := hi
          dsimp only at hset
          rw [getElem?_matchedSets] at hset
          split at hset
          · cases hold : ((s.graph g).sets[k]?).join with
            | none =>
              rw [hold] at hset
              cases hset
              exact Or.inr ⟨ResourceSet.toList_empty _ _, ResourceSet.fits_empty _⟩
            | some set' =>
              rw [hold] at hset
              cases hset
              exact Or.inl (Option.join_eq_some_iff.1 hold)
          · cases hset
        · exact Or.inl hset
      options := fun i _ => (hsame i).1
      generation := fun i => Nat.le_of_eq (hsame i).2.1.symm
      closed := fun i hi => by rw [(hsame i).2.2]; exact hi
      opened := fun i hi => Or.inl (by rw [← (hsame i).2.2]; exact hi)
      resources := by
        rw [resizeSets_eq h, foldl_invalidate]
        exact Nat.le_of_eq (size_foldl_invalidate _ _).symm
      eased := fun r _ _ => by
        have hsettles := settles_foldl_invalidate (s.removedResources g) s r
        rw [resizeSets_eq h]
        exact hsettles.toEases
      cooked := fun r => (hcooked r).2
      fresh := fun r hr => Or.inl ((hcooked r).1 hr)
      tasks := Nat.le_of_eq (by rw [hfields])
      jobs := fun id t ht => Or.inl ⟨t, by rw [hfields] at ht; exact ht, rfl⟩
      pools := fun p pool hpool id hid => by
        rw [hfields] at hpool
        exact Or.inl ⟨pool, hpool, hid, fun h => h⟩ }

/-! ## The resource of a kernel -/

theorem modifyGraph_eq_self {f : GraphState → GraphState} (h : f (s.graph g) = s.graph g) :
    s.modifyGraph g f = s := by
  have hcongr : s.modifyGraph g f = s.modifyGraph g fun x => x := modifyGraph_congr h
  rw [hcongr]
  unfold Session.modifyGraph
  congr 1
  apply Array.ext_getElem?
  intro i
  rw [Array.getElem?_modify]
  split
  · rw [Option.map_id']
  · rfl

/-- A resource is made for a kernel, whose set becomes `set`. -/
def addResource (s : Session) (g k : Nat) (set : ResourceSet) (level : FeatureLevel) : Session :=
  { s with
    resources := s.resources.push { format := (s.graph g).options.format, level } }.modifyGraph g
      fun x => { x with sets := x.sets.set k (some set) }

/-- The resource of a kernel: the one that its set holds for the graph's level, or a new one that is
    added to the set. -/
inductive Provides (s : Session) (g k : Nat) (set : ResourceSet) : Nat × Session → Prop
  | old {r : Nat} (hr : r ∈ set.toList)
      (howned : set.owned? s.resources (s.graph g).options.level = some r) :
      Provides s g k set (r, s)
  | new {set' : ResourceSet} {level : FeatureLevel} (hfits : set'.Fits (s.graph g).options)
      (hlevel : (s.graph g).options.editor = false → level = (s.graph g).options.level)
      (hmem : ∀ r, r ∈ set'.toList ↔ r ∈ set.toList ∨ r = s.resources.size)
      (hnone : set.owned? s.resources (s.graph g).options.level = none)
      (howned : set'.owned? (s.resources.push { format := (s.graph g).options.format, level })
        (s.graph g).options.level = some s.resources.size) :
      Provides s g k set (s.resources.size, s.addResource g k set' level)

theorem kernelResource_provides (h : s.Holdings) {set : ResourceSet}
    (hset : (s.graph g).sets[k]? = some (some set)) :
    Provides s g k set (s.kernelResource g k) := by
  have hlevel : ∀ r ∈ set.toList, (s.graph g).options.editor = false →
      (s.resources[r]?).map Resource.level = some (s.graph g).options.level := by
    intro r hr heditor
    have ho : s.Owns g k r := ⟨set, hset, hr⟩
    have hlt := h.lt ho
    have hlevel := h.level ho heditor
    rw [Session.resource, Array.getD_eq_getD_getElem?, Array.getElem?_eq_getElem hlt] at hlevel
    rw [Array.getElem?_eq_getElem hlt, Option.map_some]
    exact congrArg some hlevel
  have hjoin : ((s.graph g).sets[k]?).join = some set := by rw [hset]; rfl
  unfold Session.kernelResource
  simp only [hjoin, Option.getD_some]
  rcases ResourceSet.resource_cases (h.fits hset) hlevel with
    ⟨r, hr, howned, hout⟩ | ⟨set', level, hfits, heditor, hmem, ⟨hnone, howned⟩, hout⟩
  · have hsame : s.modifyGraph g (fun x => { x with sets := x.sets.set k (some set) }) = s := by
      refine modifyGraph_eq_self ?_
      have hsets : (s.graph g).sets.set k (some set) = (s.graph g).sets := by
        apply List.ext_getElem?
        intro i
        rw [List.getElem?_set]
        split
        · rename_i hi
          rw [← hi, hset, if_pos (List.getElem?_eq_some_iff.1 hset).1]
        · rfl
      rw [hsets]
    simp only [hout]
    rw [show ({ s with resources := s.resources } : Session) = s from rfl, hsame]
    exact .old hr howned
  · simp only [hout]
    exact .new hfits heditor hmem hnone howned

/-! ### A new resource -/

section
variable {set set' : ResourceSet} {level : FeatureLevel}

theorem size_addResource : (s.addResource g k set' level).resources.size = s.resources.size + 1 :=
  Array.size_push _

theorem resource_addResource (i : Nat) : (s.addResource g k set' level).resource i =
    if i = s.resources.size then { format := (s.graph g).options.format, level }
    else s.resource i := by
  show (s.resources.push _).getD i default = _
  rw [Session.resource, Array.getD_eq_getD_getElem?, Array.getD_eq_getD_getElem?,
    Array.getElem?_push]
  split
  · rfl
  · rfl

theorem graph_addResource (i : Nat) : (s.addResource g k set' level).graph i =
    if g = i ∧ g < s.graphs.size then
      { s.graph i with sets := (s.graph i).sets.set k (some set') }
    else s.graph i :=
  graph_modifyGraph _ g _ i

theorem isCooked_addResource (r : Nat) :
    (s.addResource g k set' level).IsCooked r ↔ s.IsCooked r := Iff.rfl

theorem options_addResource (i : Nat) :
    ((s.addResource g k set' level).graph i).options = (s.graph i).options ∧
      ((s.addResource g k set' level).graph i).generation = (s.graph i).generation := by
  rw [graph_addResource]
  split
  · exact ⟨rfl, rfl⟩
  · exact ⟨rfl, rfl⟩

theorem sets_addResource_of_ne {i j : Nat} (h : ¬ (i = g ∧ j = k)) :
    ((s.addResource g k set' level).graph i).sets[j]? = (s.graph i).sets[j]? := by
  rw [graph_addResource]
  split
  · rename_i hi
    exact List.getElem?_set_ne fun hj => h ⟨hi.1.symm, hj.symm⟩
  · rfl

section
variable (hset : (s.graph g).sets[k]? = some (some set))
include hset

theorem sets_addResource_self :
    ((s.addResource g k set' level).graph g).sets[k]? = some (some set') := by
  rw [graph_addResource, if_pos ⟨rfl, lt_size_of_set hset⟩]
  exact List.getElem?_set_self (List.getElem?_eq_some_iff.1 hset).1

/-- The resource has been added to what the graph owns. -/
theorem owns_addResource (hmem : ∀ r, r ∈ set'.toList ↔ r ∈ set.toList ∨ r = s.resources.size)
    {i j r : Nat} : (s.addResource g k set' level).Owns i j r ↔
      s.Owns i j r ∨ i = g ∧ j = k ∧ r = s.resources.size := by
  by_cases hi : i = g ∧ j = k
  · obtain ⟨rfl, rfl⟩ := hi
    unfold Owns
    rw [sets_addResource_self hset, hset]
    simp [hmem]
  · unfold Owns
    rw [sets_addResource_of_ne hi]
    constructor
    · exact Or.inl
    · rintro (ho | ⟨rfl, rfl, _⟩)
      · exact ho
      · exact absurd ⟨rfl, rfl⟩ hi

end

end

end

end Session

end KernelGraph
