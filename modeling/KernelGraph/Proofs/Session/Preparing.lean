/-
  Preparing the kernels of an update.

  Every kernel gets its resource and is built.  A build that fails fails the resource; a build whose
  program the resource already holds is left; any other begins a compile.  So the resources that an
  update begins are those that its graph owns, one for each kernel that is to be compiled.
-/
import KernelGraph.Proofs.Session.Sets

namespace KernelGraph.Session

section
variable {s s' s'' : Session} {g k r : Nat}

/-! ## What an update changes while it prepares -/

/-- The kernel has a resource set. -/
def HasSet (s : Session) (g k : Nat) : Prop := ∃ set, (s.graph g).sets[k]? = some (some set)

/-- The sets of one graph have grown by new resources, and resources of the graph have been begun or
    have failed for its generation. -/
structure Renews (g : Nat) (s s' : Session) : Prop where
  size : s'.graphs.size = s.graphs.size
  graph : s'.graph g = { s.graph g with sets := (s'.graph g).sets }
  other : ∀ i ≠ g, s'.graph i = s.graph i
  sets : ∀ {i k}, s.HasSet i k → s'.HasSet i k
  owns : ∀ {i k r}, s.Owns i k r → s'.Owns i k r
  fresh : ∀ {i k r}, s'.Owns i k r → s.Owns i k r ∨ s.resources.size ≤ r
  resources : s.resources.size ≤ s'.resources.size
  kept : ∀ r < s.resources.size, s'.resource r = s.resource r ∨
    (∃ k, s.Owns g k r) ∧ (s'.resource r).generation = (s.graph g).generation
  entries : s'.platforms = s.platforms
  proxies : s'.proxies = s.proxies
  tasks : s'.tasks = s.tasks
  pools : s'.pools = s.pools
  hooks : s'.hooks = s.hooks

theorem Renews.refl (g : Nat) (s : Session) : Renews g s s where
  size := rfl
  graph := rfl
  other _ _ := rfl
  sets h := h
  owns h := h
  fresh h := Or.inl h
  resources := Nat.le_refl _
  kept _ _ := Or.inl rfl
  entries := rfl
  proxies := rfl
  tasks := rfl
  pools := rfl
  hooks := rfl

theorem Renews.generation (h : Renews g s s') (i : Nat) :
    (s'.graph i).generation = (s.graph i).generation := by
  by_cases hi : i = g
  · rw [hi, h.graph]
  · rw [h.other i hi]

theorem Renews.trans (h : Renews g s s') (h' : Renews g s' s'') : Renews g s s'' where
  size := h'.size.trans h.size
  graph := by
    rw [h'.graph, h.graph]
  other i hi := (h'.other i hi).trans (h.other i hi)
  sets hset := h'.sets (h.sets hset)
  owns ho := h'.owns (h.owns ho)
  fresh ho := by
    rcases h'.fresh ho with ho | hle
    · exact h.fresh ho
    · exact Or.inr (Nat.le_trans h.resources hle)
  resources := Nat.le_trans h.resources h'.resources
  kept r hr := by
    rcases h'.kept r (Nat.lt_of_lt_of_le hr h.resources) with heq | ⟨⟨k, ho⟩, hgen⟩
    · rw [heq]
      exact h.kept r hr
    · refine Or.inr ⟨⟨k, ?_⟩, hgen.trans (h.generation g)⟩
      rcases h.fresh ho with ho | hle
      · exact ho
      · omega
  entries := h'.entries.trans h.entries
  proxies := h'.proxies.trans h.proxies
  tasks := h'.tasks.trans h.tasks
  pools := h'.pools.trans h.pools
  hooks := h'.hooks.trans h.hooks

theorem Renews.of_eq (hgraphs : s'.graphs = s.graphs) (hresources : s'.resources = s.resources)
    (hplatforms : s'.platforms = s.platforms) (hproxies : s'.proxies = s.proxies)
    (htasks : s'.tasks = s.tasks) (hpools : s'.pools = s.pools) (hhooks : s'.hooks = s.hooks) :
    Renews g s s' := by
  have hgraph :
      ∀ i, s'.graph i = s.graph i := fun i => by rw [Session.graph, Session.graph, hgraphs]
  have howns : ∀ i k r, s'.Owns i k r ↔ s.Owns i k r := fun i k r => by rw [Owns, Owns, hgraph]
  exact
    { size := by rw [hgraphs]
      graph := by rw [hgraph]
      other := fun i _ => hgraph i
      sets := fun hset => by rw [HasSet, hgraph]; exact hset
      owns := (howns _ _ _).2
      fresh := fun ho => Or.inl ((howns _ _ _).1 ho)
      resources := Nat.le_of_eq (by rw [hresources])
      kept := fun r _ => Or.inl (by rw [Session.resource, Session.resource, hresources])
      entries := hplatforms
      proxies := hproxies
      tasks := htasks
      pools := hpools
      hooks := hhooks }

theorem Holdings.of_eq (h : s.Holdings) (hgraphs : s'.graphs = s.graphs)
    (hresources : s'.resources = s.resources) (hplatforms : s'.platforms = s.platforms) :
    s'.Holdings := by
  cases s
  cases s'
  dsimp only at hgraphs hresources hplatforms
  subst hgraphs hresources hplatforms
  exact ⟨h.fits, h.lt, h.uncooked, h.format, h.level, h.generation, h.apart, h.cooked⟩

/-- A resource of the graph is begun, or fails, for the graph's generation. -/
theorem Holdings.renew (h : s.Holdings) (ho : s.Owns g k r) {f : Resource → Resource}
    (hf : ∀ x, (f x).format = x.format ∧ (f x).level = x.level ∧
      (f x).generation = (s.graph g).generation) :
    (s.modifyResource r f).Holdings ∧ Renews g s (s.modifyResource r f) := by
  have hsize : (s.modifyResource r f).resources.size = s.resources.size := Array.size_modify
  have hresource : ∀ i, (s.modifyResource r f).resource i = if r = i then f (s.resource i)
      else s.resource i := fun i => by
    rw [resource_modifyResource]
    simp only [h.lt ho, and_true]
  refine ⟨?_, ?_⟩
  · exact
      { fits := h.fits
        lt := fun ho' => by rw [hsize]; exact h.lt ho'
        uncooked := h.uncooked
        format := fun {g' k' r'} ho' => by
          rw [hresource]
          split
          · rw [(hf _).1]
            exact h.format ho'
          · exact h.format ho'
        level := fun {g' k' r'} ho' heditor => by
          rw [hresource]
          split
          · rw [(hf _).2.1]
            exact h.level ho' heditor
          · exact h.level ho' heditor
        generation := fun {g' k' r'} ho' => by
          rw [hresource]
          split
          · rename_i hr
            subst hr
            have hg : g = g' := (h.apart ho ho').1
            exact Nat.le_of_eq ((hf _).2.2.trans (by rw [hg]; rfl))
          · exact h.generation ho'
        apart := h.apart
        cooked := fun hc => by rw [hsize]; exact h.cooked hc }
  · exact
      { size := rfl
        graph := rfl
        other := fun _ _ => rfl
        sets := fun hset => hset
        owns := fun ho' => ho'
        fresh := fun ho' => Or.inl ho'
        resources := Nat.le_of_eq hsize.symm
        kept := fun i _ => by
          rw [hresource]
          split
          · rename_i hr
            subst hr
            exact Or.inr ⟨⟨k, ho⟩, (hf _).2.2⟩
          · exact Or.inl rfl
        entries := rfl
        proxies := rfl
        tasks := rfl
        pools := rfl
        hooks := rfl }

/-- A resource is made for a kernel. -/
theorem Holdings.addResource (h : s.Holdings) {set set' : ResourceSet} {level : FeatureLevel}
    (hset : (s.graph g).sets[k]? = some (some set)) (hfits : set'.Fits (s.graph g).options)
    (hlevel : (s.graph g).options.editor = false → level = (s.graph g).options.level)
    (hmem : ∀ r, r ∈ set'.toList ↔ r ∈ set.toList ∨ r = s.resources.size) :
    (s.addResource g k set' level).Holdings := by
  have hresource : ∀ {i}, i < s.resources.size →
      (s.addResource g k set' level).resource i = s.resource i := fun hi => by
    rw [resource_addResource, if_neg (Nat.ne_of_lt hi)]
  have hnew : (s.addResource g k set' level).resource s.resources.size =
      { format := (s.graph g).options.format, level } := by
    rw [resource_addResource, if_pos rfl]
  have howns : ∀ {i j r}, (s.addResource g k set' level).Owns i j r →
      s.Owns i j r ∨ i = g ∧ j = k ∧ r = s.resources.size := (owns_addResource hset hmem).1
  exact
    { fits := fun {i j x} hx => by
        rw [(options_addResource i).1]
        by_cases hi : i = g ∧ j = k
        · obtain ⟨rfl, rfl⟩ := hi
          rw [sets_addResource_self hset] at hx
          cases hx
          exact hfits
        · rw [sets_addResource_of_ne hi] at hx
          exact h.fits hx
      lt := fun ho => by
        rw [size_addResource]
        rcases howns ho with ho | ⟨_, _, rfl⟩
        · exact Nat.lt_succ_of_lt (h.lt ho)
        · exact Nat.lt_succ_self _
      uncooked := fun ho hc => by
        rw [isCooked_addResource] at hc
        rcases howns ho with ho | ⟨_, _, rfl⟩
        · exact h.uncooked ho hc
        · exact Nat.lt_irrefl _ (h.cooked hc)
      format := fun {i j r} ho => by
        rw [(options_addResource i).1]
        rcases howns ho with ho | ⟨rfl, _, rfl⟩
        · rw [hresource (h.lt ho)]
          exact h.format ho
        · rw [hnew]
      level := fun {i j r} ho heditor => by
        rw [(options_addResource i).1] at heditor ⊢
        rcases howns ho with ho | ⟨rfl, _, rfl⟩
        · rw [hresource (h.lt ho)]
          exact h.level ho heditor
        · rw [hnew]
          exact hlevel heditor
      generation := fun {i j r} ho => by
        rw [(options_addResource i).2]
        rcases howns ho with ho | ⟨rfl, _, rfl⟩
        · rw [hresource (h.lt ho)]
          exact h.generation ho
        · rw [hnew]
          exact Nat.zero_le _
      apart := fun ho ho' => by
        rcases howns ho with ho | ⟨rfl, rfl, rfl⟩
        · rcases howns ho' with ho' | ⟨_, _, rfl⟩
          · exact h.apart ho ho'
          · exact absurd (h.lt ho) (Nat.lt_irrefl _)
        · rcases howns ho' with ho' | ⟨rfl, rfl, _⟩
          · exact absurd (h.lt ho') (Nat.lt_irrefl _)
          · exact ⟨rfl, rfl⟩
      cooked := fun hc => by
        rw [size_addResource]
        exact Nat.lt_succ_of_lt (h.cooked hc) }

theorem Renews.addResource (s : Session) {set set' : ResourceSet} {level : FeatureLevel}
    (hset : (s.graph g).sets[k]? = some (some set))
    (hmem : ∀ r, r ∈ set'.toList ↔ r ∈ set.toList ∨ r = s.resources.size) :
    Renews g s (s.addResource g k set' level) where
  size := Array.size_modify
  graph := by rw [graph_addResource, if_pos ⟨rfl, lt_size_of_set hset⟩]
  other i hi := by rw [graph_addResource, if_neg fun h => hi h.1.symm]
  sets {i j} hx := by
    by_cases hi : i = g ∧ j = k
    · obtain ⟨rfl, rfl⟩ := hi
      exact ⟨set', sets_addResource_self hset⟩
    · rw [HasSet, sets_addResource_of_ne hi]
      exact hx
  owns ho := (owns_addResource hset hmem).2 (Or.inl ho)
  fresh ho := by
    rcases (owns_addResource hset hmem).1 ho with ho | ⟨_, _, rfl⟩
    · exact Or.inl ho
    · exact Or.inr (Nat.le_refl _)
  resources := by
    rw [size_addResource]
    exact Nat.le_succ _
  kept r hr := Or.inl (by rw [resource_addResource, if_neg (Nat.ne_of_lt hr)])
  entries := rfl
  proxies := rfl
  tasks := rfl
  pools := rfl
  hooks := rfl

/-- **The resource of a kernel** belongs to the kernel. -/
theorem Holdings.kernelResource (h : s.Holdings) {set : ResourceSet}
    (hset : (s.graph g).sets[k]? = some (some set)) :
    (s.kernelResource g k).2.Holdings ∧ Renews g s (s.kernelResource g k).2 ∧
      (s.kernelResource g k).2.Owns g k (s.kernelResource g k).1 := by
  have hprovides := kernelResource_provides h hset
  generalize s.kernelResource g k = out at hprovides
  cases hprovides with
  | old hr _ => exact ⟨h, .refl g s, set, hset, hr⟩
  | new hfits hlevel hmem _ _ =>
    exact ⟨h.addResource hset hfits hlevel hmem, .addResource s hset hmem,
      (owns_addResource hset hmem).2 (Or.inr ⟨rfl, rfl, rfl⟩)⟩

/-! ## Preparing kernels -/

/-- What becomes of a kernel that an update prepares: its resource is `r`, its build is `built`, and
    `s` is the session after the build. -/
inductive Prepares (g k : Nat) (kernel : Kernel) (source : KernelSource) (p : Prepared) (r : Nat)
    (s : Session) : Except GraphError KernelBuild → Except GraphError Prepared × Session → Prop
  | stopped {e : UndeclaredParameter} : Prepares g k kernel source p r s (.error (.undeclared e))
      (.error (.undeclared e), s)
  | failed {e : GraphError} {result : CompileResult} {s' : Session}
      (he : ∀ x, e ≠ .undeclared x) (hresult : result.success = false)
      (hs' : s' = s.modifyResource r fun x => x.fail none (s.graph g).generation result)
      (herror : result.error = some (.build e)) :
      Prepares g k kernel source p r s (.error e)
        (.ok { p with session := s', failed := p.failed ++ [k] }, s')
  | reused {b : KernelBuild} {s' : Session} (hreuse : (s.resource r).isReusable b.hashKey = true)
      (hs' : s.Books s') :
      Prepares g k kernel source p r s (.ok b)
        (.ok { p with session := s', builds := p.builds ++ [(k, b)] }, s')
  | begun {b : KernelBuild} {s' : Session} (hreuse : (s.resource r).isReusable b.hashKey = false)
      (hs' : s' = s.modifyResource r fun x => x.begin b (s.graph g).generation) :
      Prepares g k kernel source p r s (.ok b)
        (.ok { p with
          session := s'
          builds := p.builds ++ [(k, b)]
          jobs := p.jobs ++ [(k, kernel.name, source.isDefault, r, b)] }, s')

theorem prepareKernel_prepares (g : Nat) (d : Dialect) (p : Prepared) (k : Nat) (kernel : Kernel)
    (source : KernelSource) :
    Prepares g k kernel source p (p.session.kernelResource g k).1
      ((p.session.kernelResource g k).2.buildKernel g k d
        (p.session.graph g).options.format).2
      ((p.session.kernelResource g k).2.buildKernel g k d (p.session.graph g).options.format).1
      (prepareKernel g d p k kernel source) := by
  unfold prepareKernel
  generalize p.session.kernelResource g k = out
  obtain ⟨r, s₁⟩ := out
  dsimp only
  generalize s₁.buildKernel g k d (p.session.graph g).options.format = out
  obtain ⟨built, s⟩ := out
  dsimp only
  split
  · exact .stopped
  · rename_i e he
    refine .failed he ?_ rfl ?_
    · rfl
    · rfl
  · split
    · rename_i hreuse
      exact .reused hreuse (.note _ _)
    · rename_i hreuse
      exact .begun (by simpa using hreuse) rfl

/-- An update has prepared some kernels since the session `s`, and `rest` are those to come. -/
structure Preparation (g : Nat) (s : Session) (rest : List Nat) (p : Prepared) : Prop where
  holdings : p.session.Holdings
  renews : Renews g s p.session
  sets : ∀ k ∈ rest, p.session.HasSet g k
  owned : ∀ x ∈ p.jobs, p.session.Owns g x.1 x.2.2.2.1
  apart : (p.failed ++ p.jobs.map Prod.fst ++ rest).Nodup

/-- **One kernel is prepared.** -/
theorem Preparation.prepareKernel {rest : List Nat} {p : Prepared}
    (h : Preparation g s (k :: rest) p) (d : Dialect) (kernel : Kernel) (source : KernelSource) :
    (Session.prepareKernel g d p k kernel source).2.Holdings ∧
      Renews g s (Session.prepareKernel g d p k kernel source).2 ∧
      ∀ p', (Session.prepareKernel g d p k kernel source).1 = .ok p' →
        p'.session = (Session.prepareKernel g d p k kernel source).2 ∧
          Preparation g s rest p' := by
  obtain ⟨set, hset⟩ := h.sets k (List.mem_cons_self ..)
  obtain ⟨hholdings, hrenews, hown⟩ := h.holdings.kernelResource hset
  have hprepares := prepareKernel_prepares g d p k kernel source
  generalize (p.session.kernelResource g k).1 = r at hown hprepares
  generalize (p.session.kernelResource g k).2 = s₁ at hholdings hrenews hown hprepares
  have hbuilt : Renews g s₁ (s₁.buildKernel g k d (p.session.graph g).options.format).2 :=
    .of_eq rfl rfl rfl rfl rfl rfl rfl
  have hholdings₂ : (s₁.buildKernel g k d (p.session.graph g).options.format).2.Holdings :=
    hholdings.of_eq rfl rfl rfl
  generalize s₁.buildKernel g k d (p.session.graph g).options.format =
    built at hprepares hbuilt hholdings₂
  obtain ⟨result, s₂⟩ := built
  dsimp only at hprepares hbuilt hholdings₂
  have hrenews₂ := (h.renews.trans hrenews).trans hbuilt
  have hown₂ := hbuilt.owns hown
  -- the jobs and the sets so far stay
  have hnext : ∀ {s'}, Renews g s₂ s' → (∀ k ∈ rest, s'.HasSet g k) ∧
      ∀ x ∈ p.jobs, s'.Owns g x.1 x.2.2.2.1 := by
    intro s' hs'
    have hall := (hrenews.trans hbuilt).trans hs'
    exact ⟨fun k hk => hall.sets (h.sets k (List.mem_cons_of_mem _ hk)),
      fun x hx => hall.owns (h.owned x hx)⟩
  have happart := h.apart
  generalize Session.prepareKernel g d p k kernel source = out at hprepares
  cases hprepares with
  | stopped => exact ⟨hholdings₂, hrenews₂, fun p' hp' => by cases hp'⟩
  | @failed e result s' _ _ hs' =>
    obtain ⟨hholdings', hs''⟩ := hholdings₂.renew hown₂
      (f := fun x => x.fail none (s₂.graph g).generation result) fun _ => ⟨rfl, rfl, rfl⟩
    rw [← hs'] at hholdings' hs''
    obtain ⟨hsets, howned⟩ := hnext hs''
    refine ⟨hholdings', hrenews₂.trans hs'', fun p' hp' => ?_⟩
    cases hp'
    refine ⟨rfl, hholdings', hrenews₂.trans hs'', hsets, howned, ?_⟩
    rw [List.append_assoc, List.append_assoc]
    rw [List.append_assoc] at happart
    exact happart.perm (List.perm_middle.append_left _)
  | @reused b s' _ hs' =>
    have hs'' : Renews g s₂ s' := by
      obtain ⟨_, _, _, rfl⟩ := hs'
      exact .of_eq rfl rfl rfl rfl rfl rfl rfl
    have hholdings' : s'.Holdings := by
      obtain ⟨_, _, _, rfl⟩ := hs'
      exact hholdings₂.of_eq rfl rfl rfl
    obtain ⟨hsets, howned⟩ := hnext hs''
    refine ⟨hholdings', hrenews₂.trans hs'', fun p' hp' => ?_⟩
    cases hp'
    refine ⟨rfl, hholdings', hrenews₂.trans hs'', hsets, howned, ?_⟩
    exact happart.sublist ((List.Sublist.refl _).append (List.sublist_cons_self k rest))
  | @begun b s' _ hs' =>
    obtain ⟨hholdings', hs''⟩ := hholdings₂.renew hown₂
      (f := fun x => x.begin b (s₂.graph g).generation) fun _ => ⟨rfl, rfl, rfl⟩
    rw [← hs'] at hholdings' hs''
    obtain ⟨hsets, howned⟩ := hnext hs''
    refine ⟨hholdings', hrenews₂.trans hs'', fun p' hp' => ?_⟩
    cases hp'
    refine ⟨rfl, hholdings', hrenews₂.trans hs'', hsets, fun x hx => ?_, ?_⟩
    · rcases List.mem_append.1 hx with hx | hx
      · exact howned x hx
      · cases List.mem_singleton.1 hx
        exact hs''.owns hown₂
    · rw [List.map_append, ← List.append_assoc, List.append_assoc]
      exact happart

/-- **All kernels are prepared.** -/
theorem Preparation.prepareKernels {d : Dialect} {ks : List (Nat × Kernel × KernelSource)}
    {p : Prepared} (h : Preparation g s (ks.map Prod.fst) p) :
    (Session.prepareKernels g d ks p).2.Holdings ∧
      Renews g s (Session.prepareKernels g d ks p).2 ∧
      ∀ p', (Session.prepareKernels g d ks p).1 = .ok p' →
        p'.session = (Session.prepareKernels g d ks p).2 ∧ Preparation g s [] p' := by
  induction ks generalizing p with
  | nil =>
    refine ⟨h.holdings, h.renews, fun p' hp' => ?_⟩
    cases hp'
    exact ⟨rfl, h⟩
  | cons x ks ih =>
    obtain ⟨k, kernel, source⟩ := x
    obtain ⟨hholdings, hrenews, hnext⟩ := h.prepareKernel d kernel source
    unfold Session.prepareKernels
    split
    · rename_i e s' heq
      rw [heq] at hholdings hrenews
      exact ⟨hholdings, hrenews, fun p' hp' => by cases hp'⟩
    · rename_i p' s' heq
      exact ih (hnext p' (by rw [heq])).2

/-- The sets are matched to the kernels, so that every kernel to be prepared has one. -/
theorem Preparation.resizeSets (h : s.Holdings) (hg : g < s.graphs.size) :
    Preparation g (s.resizeSets g)
      (((s.resizeSets g).graph g).definition.compilable.map Prod.fst)
      { session := s.resizeSets g } := by
  have hsets : ∀ k ∈ ((s.resizeSets g).graph g).definition.compilable.map Prod.fst,
      (s.resizeSets g).HasSet g k := by
    intro k hk
    rw [graph_resizeSets_eq h] at hk
    have hlt := Graph.lt_of_mem_compilable hk
    unfold HasSet
    rw [sets_resizeSets h hg, getElem?_matchedSets, if_pos hlt]
    exact ⟨_, rfl⟩
  have hholdings : (s.resizeSets g).Holdings := h.frame (.resizeSets h g)
  generalize s.resizeSets g = resized at hsets hholdings
  exact ⟨hholdings, .refl g _, hsets, fun x hx => absurd hx List.not_mem_nil,
    Graph.nodup_compilable _⟩

end

end KernelGraph.Session
