/-
  What an update does to a session while it prepares its kernels.

  The sets of its graph are matched to the kernels, resources of the graph are begun or fail, and
  new ones are made.  Nothing else changes: not the resources of others, no task, no platform, no
  proxy.  A resource that knows a task has known it before.
-/
import KernelGraph.Proofs.Pending.Opening
import KernelGraph.Proofs.Workshop.Fitting

namespace KernelGraph.Session

section
variable {s s' s'' : Session} {g k : Nat}

/-! ## Tasks and commands -/

/-- No resource gets to know a task, and no proxy is handed over. -/
structure Modest (s s' : Session) : Prop where
  told : ∀ {r id : Nat}, (s'.resource r).task = some id → (s.resource r).task = some id
  commands : s'.commands = s.commands

theorem Modest.trans (h : s.Modest s') (h' : s'.Modest s'') : s.Modest s'' where
  told ht := h.told (h'.told ht)
  commands := h'.commands.trans h.commands

theorem Modest.of_eq (hresources : s'.resources = s.resources)
    (hcommands : s'.commands = s.commands) :
    s.Modest s' where
  told ht := by
    rw [Session.resource, hresources] at ht
    exact ht
  commands := hcommands

theorem Modest.modifyResource (s : Session) (r : Nat) {f : Resource → Resource}
    (hf : ∀ (x : Resource) (id : Nat), (f x).task = some id → x.task = some id) :
    s.Modest (s.modifyResource r f) where
  told ht := by
    rw [resource_modifyResource] at ht
    split at ht
    · exact hf _ _ ht
    · exact ht
  commands := rfl

theorem commands_kernelResource (s : Session) (g k : Nat) :
    (s.kernelResource g k).2.commands = s.commands := by
  unfold Session.kernelResource
  extract_lets x set
  split
  dsimp only
  split
  · rfl
  · rfl

theorem Modest.kernelResource (hs : s.Holdings) {set : ResourceSet}
    (hset : (s.graph g).sets[k]? = some (some set)) : s.Modest (s.kernelResource g k).2 where
  told {r id} ht := by
    rcases resource_kernelResource hs hset r with heq | ⟨_, _, hnone⟩
    · rw [heq] at ht
      exact ht
    · rw [hnone] at ht
      cases ht
  commands := commands_kernelResource s g k

theorem Modest.buildKernel (s : Session) (g k : Nat) (d : Dialect) (format : String) :
    s.Modest (s.buildKernel g k d format).2 := .of_eq rfl rfl

theorem Modest.prepareKernel {rest : List Nat} {p : Prepared} (h : Preparation g s (k :: rest) p)
    (d : Dialect) (kernel : Kernel) (source : KernelSource) :
    p.session.Modest (Session.prepareKernel g d p k kernel source).2 := by
  obtain ⟨set, hset⟩ := h.sets k (List.mem_cons_self ..)
  have hmade := Modest.kernelResource h.holdings hset
  have hprepares := prepareKernel_prepares g d p k kernel source
  have hbuilt := hmade.trans
    (.buildKernel (p.session.kernelResource g k).2 g k d (p.session.graph g).options.format)
  generalize ((p.session.kernelResource g k).2.buildKernel g k d
    (p.session.graph g).options.format) = built at hprepares hbuilt
  obtain ⟨result, m⟩ := built
  dsimp only at hprepares hbuilt
  generalize Session.prepareKernel g d p k kernel source = out at hprepares
  cases hprepares with
  | stopped => exact hbuilt
  | failed _ _ hs' _ =>
    rw [hs']
    exact hbuilt.trans (.modifyResource m _ fun x id h => by cases h)
  | reused _ hs' =>
    obtain ⟨_, _, _, rfl⟩ := hs'
    exact hbuilt.trans (.of_eq rfl rfl)
  | begun _ hs' =>
    rw [hs']
    exact hbuilt.trans (.modifyResource m _ fun x id h => h)

theorem Modest.prepareKernels {d : Dialect} {ks : List (Nat × Kernel × KernelSource)}
    {p : Prepared} (h : Preparation g s (ks.map Prod.fst) p) :
    p.session.Modest (Session.prepareKernels g d ks p).2 := by
  induction ks generalizing p with
  | nil => exact .of_eq rfl rfl
  | cons x ks ih =>
    obtain ⟨k, kernel, source⟩ := x
    obtain ⟨_, _, hnext⟩ := h.prepareKernel d kernel source
    have hone := Modest.prepareKernel h d kernel source
    unfold Session.prepareKernels
    split
    · rename_i e s' heq
      rw [heq] at hone
      exact hone
    · rename_i p' s' heq
      obtain ⟨hsession, hrest⟩ := hnext p' (by rw [heq])
      rw [← hsession] at hone
      exact hone.trans (ih hrest)

/-! ## The whole section -/

/-- The sets of the graph are overhauled, and its resources with them. -/
structure Overhauls (g : Nat) (s s' : Session) : Prop extends Modest s s' where
  passes : s.Passes s'
  holdings : s'.Holdings
  listing : s.Listing → s'.Listing
  graph : ∃ sets pending locked, s'.graph g = { s.graph g with sets, pending, locked }
  other : ∀ i ≠ g, s'.graph i = s.graph i
  kept : ∀ r < s.resources.size, (∀ k, ¬ s.Owns g k r) → s'.resource r = s.resource r
  tasks : s'.tasks = s.tasks
  platforms : s'.platforms = s.platforms
  proxies : s'.proxies = s.proxies
  hooks : s'.hooks = s.hooks

/-- A resource of nobody's kernel, or of somebody else's, is as it was. -/
theorem resource_resizeSets_of_not_owns (hs : s.Holdings) {r : Nat} (h : ∀ k, ¬ s.Owns g k r) :
    (s.resizeSets g).resource r = s.resource r := by
  have heq : (s.resizeSets g).resource r = ((s.removedResources g).foldl
      (fun s r => s.modifyResource r Resource.invalidate) s).resource r := by
    rw [resizeSets_eq hs]
    rfl
  rw [heq, resource_foldl_invalidate]
  refine if_neg fun hremoved => ?_
  obtain ⟨set, hset, hr⟩ := List.mem_flatMap.1 hremoved.1
  obtain ⟨k, hk⟩ := List.mem_iff_getElem?.1 (List.mem_of_mem_drop hset)
  cases set with
  | none => cases hr
  | some set => exact h k ⟨set, hk, hr⟩

theorem Overhauls.resizeSets (hs : s.Holdings) (g : Nat) : Overhauls g s (s.resizeSets g) := by
  have hframe := Frame.resizeSets hs g
  have hgraph := graph_resizeSets_eq hs g
  have hfields : s.resizeSets g = { s with
      graphs := (s.resizeSets g).graphs, resources := (s.resizeSets g).resources } := by
    rw [resizeSets_eq hs, foldl_invalidate]
    rfl
  have hlisted : ∀ {i name p}, (s.resizeSets g).Lists i name p → s.Lists i name p := by
    intro i name p hl
    rw [Session.Lists, hgraph] at hl
    exact hl
  exact
    { told := fun {r id} ht => by
        have hlapses := (lapses_resizeSets hs g r).1
        rw [hlapses.told ht] at ht
        exact ht
      commands := by rw [hfields]
      passes := .of_elapses hframe.elapses (by rw [hfields]) (by rw [hfields]) hlisted
      holdings := hs.frame hframe
      listing := fun hl => hl.of_marks (by rw [hfields]) hlisted
      graph := ⟨_, _, _, hgraph g⟩
      other := fun i hi => by rw [graph_resizeSets hs, if_neg fun h => hi h.1.symm]
      kept := fun r _ hno => resource_resizeSets_of_not_owns hs hno
      tasks := by rw [hfields]
      platforms := by rw [hfields]
      proxies := by rw [hfields]
      hooks := by rw [hfields] }

theorem Overhauls.renews (h : Overhauls g s s') (hframe : s.Frame s') (hr : Renews g s' s'')
    (hmodest : s'.Modest s'') (hholdings : s''.Holdings) : Overhauls g s s'' := by
  have hcook : ∀ i, (s''.graph i).cook = (s'.graph i).cook := fun i => by
    by_cases hi : i = g
    · rw [hi, hr.graph]
    · rw [hr.other i hi]
  have hlisted : ∀ {i name p}, s''.Lists i name p → s'.Lists i name p := by
    intro i name p hl
    rw [Session.Lists, hcook] at hl
    exact hl
  exact
    { toModest := h.toModest.trans hmodest
      passes := h.passes.trans (.of_elapses hr.elapses (by rw [hr.tasks])
        (by rw [hr.entries]) hlisted)
      holdings := hholdings
      listing := fun hl => (h.listing hl).of_marks (by rw [hr.entries]) hlisted
      graph := by
        obtain ⟨sets, pending, locked, heq⟩ := h.graph
        exact ⟨_, pending, locked, by rw [hr.graph, heq]⟩
      other := fun i hi => (hr.other i hi).trans (h.other i hi)
      kept := fun r hlt hno => by
        rcases hr.kept r (Nat.lt_of_lt_of_le hlt hframe.resources) with heq | ⟨⟨k, ho⟩, _⟩
        · exact heq.trans (h.kept r hlt hno)
        · exact absurd (hframe.owns ho) (hno k)
      tasks := hr.tasks.trans h.tasks
      platforms := hr.entries.trans h.platforms
      proxies := hr.proxies.trans h.proxies
      hooks := hr.hooks.trans h.hooks }

/-- **The preparations of an update** overhaul its graph. -/
theorem overhauls_prepareKernels (hs : s.Holdings) (hg : g < s.graphs.size) (d : Dialect) :
    Overhauls g s (Session.prepareKernels g d ((s.resizeSets g).graph g).definition.compilable
      { session := s.resizeSets g }).2 := by
  have hprepared := Preparation.resizeSets hs hg
  obtain ⟨hholdings, hrenews, _⟩ := hprepared.prepareKernels (d := d)
  exact (Overhauls.resizeSets hs g).renews (.resizeSets hs g) hrenews
    (.prepareKernels hprepared) hholdings

/-- Then something changes in the graph that is neither its sets nor what it is made of. -/
theorem Overhauls.frame (h : Overhauls g s s') (hframe : s'.Frame s'')
    (hgraph : ∃ pending locked, s''.graph g = { s'.graph g with pending, locked })
    (hother : ∀ i ≠ g, s''.graph i = s'.graph i)
    (hfields : s'' = { s' with graphs := s''.graphs, metrics := s''.metrics }) :
    Overhauls g s s'' := by
  obtain ⟨pending, locked, hgraph⟩ := hgraph
  have hlisted : ∀ {i name p}, s''.Lists i name p → s'.Lists i name p := by
    intro i name p hl
    by_cases hi : i = g
    · subst hi
      rw [Session.Lists, hgraph] at hl
      exact hl
    · rw [Session.Lists, hother i hi] at hl
      exact hl
  exact
    { toModest := h.toModest.trans (.of_eq (by rw [hfields]) (by rw [hfields]))
      passes := h.passes.trans
        (.of_elapses hframe.elapses (by rw [hfields]) (by rw [hfields]) hlisted)
      holdings := h.holdings.frame hframe
      listing := fun hl => (h.listing hl).of_marks (by rw [hfields]) hlisted
      graph := by
        obtain ⟨sets, _, _, heq⟩ := h.graph
        exact ⟨sets, pending, locked, by rw [hgraph, heq]⟩
      other := fun i hi => (hother i hi).trans (h.other i hi)
      kept := fun r hr hno => by
        rw [← h.kept r hr hno, Session.resource, Session.resource, hfields]
      tasks := Eq.trans (by rw [hfields]) h.tasks
      platforms := Eq.trans (by rw [hfields]) h.platforms
      proxies := Eq.trans (by rw [hfields]) h.proxies
      hooks := Eq.trans (by rw [hfields]) h.hooks }

theorem Overhauls.setPending (h : Overhauls g s s') (pending : List Nat) :
    Overhauls g s (s'.setPending g pending) := by
  have hgraph : ∀ i, (s'.setPending g pending).graph i =
      if g = i ∧ g < s'.graphs.size then { s'.graph i with pending } else s'.graph i :=
    graph_modifyGraph s' g _
  refine h.frame (.setPending s' g pending) ?_ (fun i hi => ?_) rfl
  · rw [hgraph]
    split
    · exact ⟨_, _, rfl⟩
    · exact ⟨_, _, rfl⟩
  · rw [hgraph, if_neg fun h => hi h.1.symm]

/-- **An update that an interface stops** overhauls its graph and keeps the lock. -/
theorem overhauls_stopped (hs : s.Holdings) (hg : g < s.graphs.size) {d : Dialect} {e : GraphError}
    (hp : Session.prepareKernels g d ((s.resizeSets g).graph g).definition.compilable
      { session := s.resizeSets g } = (.error e, s')) : Overhauls g s (s'.lock g) := by
  have hoverhaul := overhauls_prepareKernels hs hg d
  rw [hp] at hoverhaul
  refine hoverhaul.frame (.lock s' g) ⟨_, _, graph_lock s' g g⟩ (fun i hi => ?_) rfl
  exact (graph_modifyGraph s' g _ i).trans (if_neg fun h => hi h.1.symm)

/-- **What an update has prepared**: its jobs move resources of their own kernels. -/
theorem jobFits_preparedJobs (hs : s.Holdings) (hg : g < s.graphs.size)
    (hopen : (s.graph g).closed = false) {d : Dialect} {p : Prepared} {s' : Session}
    (hp : Session.prepareKernels g d ((s.resizeSets g).graph g).definition.compilable
      { session := s.resizeSets g } = (.ok p, s')) :
    Overhauls g s (p.session.setPending g (p.jobs.map Prod.fst)) ∧
      (preparedPlan g p).generation = (s.graph g).generation ∧
      ∀ j ∈ preparedJobs g p (preparedPlan g p),
        j.graph = g ∧ j.kind = .runtime (s.graph g).generation (preparedPlan g p) ∧
        JobFits (p.session.setPending g (p.jobs.map Prod.fst)) j (s.graph g).generation
          (preparedPlan g p) := by
  obtain ⟨hsession, hprepared⟩ := ((Preparation.resizeSets hs hg).prepareKernels (d := d)).2.2 p
    (by rw [hp])
  have hoverhaul := overhauls_prepareKernels hs hg d
  rw [hp] at hsession hoverhaul
  rw [← hsession] at hoverhaul
  have hset := hoverhaul.setPending (p.jobs.map Prod.fst)
  have hpgraph : p.session.graph g = { s.graph g with
      sets := (p.session.graph g).sets, pending := (p.session.graph g).pending
      locked := (p.session.graph g).locked } := by
    obtain ⟨sets, pending, locked, heq⟩ := hoverhaul.graph
    rw [heq]
  have hgeneration : (p.session.graph g).generation = (s.graph g).generation := by rw [hpgraph]
  refine ⟨hset, hgeneration, fun j hj => ?_⟩
  obtain ⟨⟨k, name, isDefault, r, build⟩, hx, rfl⟩ := List.mem_map.1 hj
  have ho := hprepared.owned _ hx
  rw [← hgeneration]
  refine ⟨rfl, rfl, ?_⟩
  have hfits : JobFits p.session
      { graph := g, kernel := k, name, isDefault, resource := r, build
        format := (p.session.graph g).options.format
        kind := .runtime (p.session.graph g).generation (preparedPlan g p) }
      (p.session.graph g).generation (preparedPlan g p) :=
    { graph := Nat.lt_of_lt_of_le hg hoverhaul.passes.size
      plan := rfl
      le := Nat.le_refl _
      lt := fun hclosed => by
        rw [hpgraph] at hclosed
        rw [hopen] at hclosed
        cases hclosed
      resource := hprepared.holdings.lt ho
      uncooked := hprepared.holdings.uncooked ho
      owner := fun i k ho' => hprepared.holdings.apart ho' ho }
  exact hfits.frame (.setPending p.session g _)

end

end KernelGraph.Session
