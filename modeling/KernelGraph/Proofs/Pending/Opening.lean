/-
  The account that an update opens.

  An update prepares its kernels one by one.  The resource of a kernel whose compile is begun waits
  for the update's own generation; that of a kernel that was built in vain, or whose program is
  there already, waits for nothing.  So afterwards a resource waits only if there is a job for it,
  provided that none waits of the kernels that have no source.
-/
import KernelGraph.Proofs.Pending.Callers

namespace KernelGraph.Session

section
variable {s s' : Session} {g k : Nat}

/-- The resource of a kernel is as it was, or new. -/
theorem resource_kernelResource (hs : s.Holdings) {set : ResourceSet}
    (hset : (s.graph g).sets[k]? = some (some set)) (i : Nat) :
    (s.kernelResource g k).2.resource i = s.resource i ∨ s.resources.size ≤ i ∧
      ((s.kernelResource g k).2.resource i).state = .uncompiled ∧
      ((s.kernelResource g k).2.resource i).task = none := by
  have hprovides := kernelResource_provides hs hset
  generalize s.kernelResource g k = out at hprovides
  cases hprovides with
  | old _ _ => exact Or.inl rfl
  | new _ _ _ _ =>
    dsimp only
    rw [resource_addResource]
    split
    · rename_i hi
      exact Or.inr ⟨Nat.le_of_eq hi.symm, rfl, rfl⟩
    · exact Or.inl rfl

theorem resource_of_le {i : Nat} (h : s.resources.size ≤ i) : s.resource i = default := by
  rw [Session.resource, Array.getD_eq_getD_getElem?, Array.getElem?_eq_none h]
  rfl

/-- An update has prepared some kernels since the session `s`: the resources that wait are those of
    its jobs, and of the kernels `rest` that are to come. -/
structure Opens (g : Nat) (s : Session) (rest : List Nat) (p : Prepared) : Prop
    extends Preparation g s rest p where
  handing : p.session.Handing
  compiles : ∀ k ∈ p.jobs.map Prod.fst ++ rest, s.Compiles g k
  begun : ∀ x ∈ p.jobs, (p.session.resource x.2.2.2.1).state = .compiling ∧
    (p.session.resource x.2.2.2.1).generation = (s.graph g).generation
  waiting : ∀ {k r}, p.session.Owns g k r → (p.session.resource r).state = .compiling →
    k ∈ rest ∨ ∃ x ∈ p.jobs, x.1 = k ∧ x.2.2.2.1 = r
  told : ∀ {k r id}, p.session.Owns g k r → (p.session.resource r).task = some id →
    s.Owns g k r ∧ (s.resource r).task = some id

/-- The session changes, but neither graphs nor resources do. -/
theorem Opens.of_eq {rest : List Nat} {p q : Prepared} (h : Opens g s rest p)
    (hprepared : Preparation g s rest q) (hjobs : q.jobs = p.jobs)
    (hgraphs : q.session.graphs = p.session.graphs)
    (hresources : q.session.resources = p.session.resources) : Opens g s rest q := by
  have hgraph : ∀ i, q.session.graph i = p.session.graph i := fun i => by
    rw [Session.graph, Session.graph, hgraphs]
  have hresource : ∀ i, q.session.resource i = p.session.resource i := fun i => by
    rw [Session.resource, Session.resource, hresources]
  have howns : ∀ {k r}, q.session.Owns g k r → p.session.Owns g k r := fun ho => by
    rw [Owns, hgraph] at ho
    exact ho
  refine ⟨hprepared, fun i k set hset => ?_, ?_, fun x hx => ?_,
    fun ho hstate => ?_, fun ho htask => ?_⟩
  · rw [hgraph] at hset ⊢
    rw [hresources]
    exact h.handing i k set hset
  · rw [hjobs]
    exact h.compiles
  · rw [hresource]
    exact h.begun x (by rw [← hjobs]; exact hx)
  · rw [hresource] at hstate
    rw [hjobs]
    exact h.waiting (howns ho) hstate
  · rw [hresource] at htask
    exact h.told (howns ho) htask

/-- The resources of the jobs so far belong to other kernels than those to come. -/
theorem Opens.ne_of_mem_jobs {rest : List Nat} {p : Prepared}
    (h : Opens g s (k :: rest) p) {r : Nat}
    (ho : p.session.Owns g k r) {x : Nat × String × Bool × Nat × KernelBuild} (hx : x ∈ p.jobs) :
    x.2.2.2.1 ≠ r := by
  rintro rfl
  have hk := (h.holdings.apart (h.owned x hx) ho).2
  have hdisjoint := (List.nodup_append.1 h.apart).2.2 x.1
    (List.mem_append_right _ (List.mem_map_of_mem hx)) k (List.mem_cons_self ..)
  exact hdisjoint hk

/-- **A kernel is provided** with its resource. -/
theorem Opens.provide {rest : List Nat} {p : Prepared} (h : Opens g s (k :: rest) p) :
    Opens g s (k :: rest) { p with session := (p.session.kernelResource g k).2 } ∧
      (p.session.kernelResource g k).2.Owns g k (p.session.kernelResource g k).1 := by
  obtain ⟨set, hset⟩ := h.sets k (List.mem_cons_self ..)
  obtain ⟨hholdings, hrenews, hown⟩ := h.holdings.kernelResource hset
  have hhanding := h.handing.kernelResource h.holdings hset
  have hresource := resource_kernelResource h.holdings hset
  generalize (p.session.kernelResource g k).2 = m at hholdings hrenews hown hhanding hresource ⊢
  generalize (p.session.kernelResource g k).1 = r at hown ⊢
  have hprepared : Preparation g s (k :: rest) { p with session := m } :=
    ⟨hholdings, h.renews.trans hrenews, fun k hk => hrenews.sets (h.sets k hk),
      fun x hx => hrenews.owns (h.owned x hx), h.apart⟩
  -- a resource that waits, or has a task, was there before
  have hold : ∀ {k r}, m.Owns g k r → (m.resource r).state = .compiling ∨
      (m.resource r).task ≠ none → p.session.Owns g k r ∧ m.resource r = p.session.resource r := by
    intro k r ho hor
    rcases hresource r with heq | ⟨hle, hstate, htask⟩
    · rcases hrenews.fresh ho with ho | hle
      · exact ⟨ho, heq⟩
      · rw [heq, resource_of_le hle] at hor
        rcases hor with hor | hor
        · cases hor
        · exact absurd rfl hor
    · rw [hstate, htask] at hor
      rcases hor with hor | hor
      · cases hor
      · exact absurd rfl hor
  refine ⟨⟨hprepared, hhanding, h.compiles, fun x hx => ?_,
    fun ho hstate => ?_, fun ho htask => ?_⟩,
    hown⟩
  · rcases hresource x.2.2.2.1 with heq | ⟨hle, _⟩
    · rw [heq]
      exact h.begun x hx
    · exact absurd (h.holdings.lt (h.owned x hx)) (Nat.not_lt.2 hle)
  · obtain ⟨ho, heq⟩ := hold ho (Or.inl hstate)
    rw [heq] at hstate
    exact h.waiting ho hstate
  · obtain ⟨ho, heq⟩ := hold ho (Or.inr (by rw [htask]; exact Option.some_ne_none _))
    rw [heq] at htask
    exact h.told ho htask

/-- The kernel's resource changes and waits for nothing. -/
theorem Opens.pass {rest : List Nat} {p q : Prepared} {r : Nat} (h : Opens g s (k :: rest) p)
    (ho : p.session.Owns g k r) (hprepared : Preparation g s rest q) (hjobs : q.jobs = p.jobs)
    {f : Resource → Resource} (hq : q.session = p.session.modifyResource r f)
    (hlevel : ∀ x, (f x).level = x.level) (hstate : (f (p.session.resource r)).state ≠ .compiling)
    (htask : ∀ id, (f (p.session.resource r)).task = some id →
      (p.session.resource r).task = some id) : Opens g s rest q := by
  have hresource : ∀ i, q.session.resource i =
      if r = i then f (p.session.resource i) else p.session.resource i := fun i => by
    rw [hq, resource_modifyResource]
    simp only [h.holdings.lt ho, and_true]
  have howns : ∀ {k r}, q.session.Owns g k r → p.session.Owns g k r := fun ho => by
    rw [hq] at ho
    exact ho
  refine ⟨hprepared, ?_, fun i hi => ?_, fun x hx => ?_, fun ho' hwaits => ?_, fun ho' hid => ?_⟩
  · rw [hq]
    exact h.handing.modifyResource h.holdings r hlevel
  · rw [hjobs] at hi
    refine h.compiles i ?_
    rcases List.mem_append.1 hi with hi | hi
    · exact List.mem_append_left _ hi
    · exact List.mem_append_right _ (List.mem_cons_of_mem _ hi)
  · rw [hjobs] at hx
    rw [hresource, if_neg (Ne.symm (h.ne_of_mem_jobs ho hx))]
    exact h.begun x hx
  · rw [hresource] at hwaits
    rw [hjobs]
    split at hwaits
    · rename_i hr
      rw [← hr] at hwaits
      exact absurd hwaits hstate
    · rename_i hr
      rcases h.waiting (howns ho') hwaits with hk | hx
      · rcases List.mem_cons.1 hk with rfl | hk
        · exact absurd (h.handing.unique ho (howns ho')) hr
        · exact Or.inl hk
      · exact Or.inr hx
  · rw [hresource] at hid
    split at hid
    · rename_i hr
      rw [← hr] at hid ho' ⊢
      exact h.told (howns ho') (htask _ hid)
    · exact h.told (howns ho') hid

/-- The compile of the kernel is begun. -/
theorem Opens.begin {rest : List Nat} {p q : Prepared} {r : Nat} (h : Opens g s (k :: rest) p)
    (ho : p.session.Owns g k r) (hprepared : Preparation g s rest q) {name : String}
    {isDefault : Bool} {b : KernelBuild} (hjobs : q.jobs = p.jobs ++ [(k, name, isDefault, r, b)])
    (hq : q.session = p.session.modifyResource r fun x =>
      x.begin b (p.session.graph g).generation) : Opens g s rest q := by
  have hresource : ∀ i, q.session.resource i =
      if r = i then (p.session.resource i).begin b (p.session.graph g).generation
      else p.session.resource i := fun i => by
    rw [hq, resource_modifyResource]
    simp only [h.holdings.lt ho, and_true]
  have howns : ∀ {k r}, q.session.Owns g k r → p.session.Owns g k r := fun ho => by
    rw [hq] at ho
    exact ho
  refine ⟨hprepared, ?_, fun i hi => ?_, fun x hx => ?_, fun ho' hwaits => ?_, fun ho' hid => ?_⟩
  · rw [hq]
    exact h.handing.modifyResource h.holdings r fun _ => rfl
  · rw [hjobs, List.map_append, List.append_assoc] at hi
    exact h.compiles i hi
  · rw [hjobs] at hx
    rcases List.mem_append.1 hx with hx | hx
    · rw [hresource, if_neg (Ne.symm (h.ne_of_mem_jobs ho hx))]
      exact h.begun x hx
    · cases List.mem_singleton.1 hx
      rw [hresource, if_pos rfl]
      exact ⟨rfl, h.renews.generation g⟩
  · rw [hresource] at hwaits
    rw [hjobs]
    split at hwaits
    · rename_i hr
      subst hr
      have hk := (h.holdings.apart ho (howns ho')).2
      exact Or.inr ⟨_, List.mem_append_right _ (List.mem_singleton_self _), hk, rfl⟩
    · rename_i hr
      rcases h.waiting (howns ho') hwaits with hk | ⟨x, hx, hxk⟩
      · rcases List.mem_cons.1 hk with rfl | hk
        · exact absurd (h.handing.unique ho (howns ho')) hr
        · exact Or.inl hk
      · exact Or.inr ⟨x, List.mem_append_left _ hx, hxk⟩
  · rw [hresource] at hid
    split at hid
    · rename_i hr
      rw [← hr] at hid ho' ⊢
      exact h.told (howns ho') hid
    · exact h.told (howns ho') hid

/-- **One kernel is prepared.** -/
theorem Opens.prepareKernel {rest : List Nat} {p q : Prepared} (h : Opens g s (k :: rest) p)
    (d : Dialect) (kernel : Kernel) (source : KernelSource)
    (hq : (Session.prepareKernel g d p k kernel source).1 = .ok q) : Opens g s rest q := by
  obtain ⟨_, hprepared⟩ := (h.toPreparation.prepareKernel d kernel source).2.2 q hq
  obtain ⟨hprovided, hown⟩ := h.provide
  have hprepares := prepareKernel_prepares g d p k kernel source
  generalize (p.session.kernelResource g k).1 = r at hown hprepares
  generalize (p.session.kernelResource g k).2 = m at hprovided hown hprepares
  -- the build changes neither graphs nor resources
  have hbuilt : Opens g s (k :: rest) { p with
      session := (m.buildKernel g k d (p.session.graph g).options.format).2 } := by
    refine hprovided.of_eq ?_ rfl rfl rfl
    have hprepared := hprovided.toPreparation
    exact ⟨hprepared.holdings.of_eq rfl rfl rfl,
      hprepared.renews.trans (.of_eq rfl rfl rfl rfl rfl rfl rfl), hprepared.sets, hprepared.owned,
      hprepared.apart⟩
  have hown' : (m.buildKernel g k d (p.session.graph g).options.format).2.Owns g k r := hown
  generalize m.buildKernel g k d (p.session.graph g).options.format =
    built at hprepares hbuilt hown'
  obtain ⟨result, m'⟩ := built
  dsimp only at hprepares hbuilt hown'
  generalize Session.prepareKernel g d p k kernel source = out at hprepares hq
  cases hprepares with
  | stopped => cases hq
  | failed _ _ hs' _ =>
    cases hq
    exact hbuilt.pass hown' hprepared rfl hs' (fun _ => rfl) (fun h => by cases h)
      fun id h => by cases h
  | @reused b s' hreuse hs' =>
    cases hq
    have hstate : (m'.resource r).state = .compiled := by
      simp only [Resource.isReusable, Bool.and_eq_true, decide_eq_true_eq] at hreuse
      exact hreuse.1.1
    have hsame : m'.modifyResource r (fun x => x) = m' := modifyResource_eq_self rfl
    have hpassed : Opens g s rest { p with session := m' } := by
      refine hbuilt.pass hown' ?_ rfl hsame.symm (fun _ => rfl)
        (by rw [hstate]; exact fun h => by cases h)
        fun _ h => h
      have happart := (List.nodup_append.1 h.apart)
      exact ⟨hbuilt.holdings, hbuilt.renews, fun k hk => hbuilt.sets k (List.mem_cons_of_mem _ hk),
        hbuilt.owned,
          h.apart.sublist ((List.Sublist.refl _).append (List.sublist_cons_self k rest))⟩
    obtain ⟨_, _, _, rfl⟩ := hs'
    exact hpassed.of_eq hprepared rfl rfl rfl
  | begun _ hs' =>
    cases hq
    exact hbuilt.begin hown' hprepared rfl hs'

/-- **All kernels are prepared.** -/
theorem Opens.prepareKernels {d : Dialect} {ks : List (Nat × Kernel × KernelSource)}
    {p q : Prepared} (h : Opens g s (ks.map Prod.fst) p)
    (hq : (Session.prepareKernels g d ks p).1 = .ok q) : Opens g s [] q := by
  induction ks generalizing p with
  | nil =>
    cases hq
    exact h
  | cons x ks ih =>
    obtain ⟨k, kernel, source⟩ := x
    unfold Session.prepareKernels at hq
    split at hq
    · cases hq
    · rename_i p' _ heq
      exact ih (h.prepareKernel d kernel source (by rw [heq])) hq

/-- **An update opens its account**, if no resource waits of a kernel without a source. -/
theorem Opens.resizeSets (hs : s.Holdings) (hhanding : s.Handing) (hg : g < s.graphs.size)
    (hwaiting : ∀ {k r}, s.Owns g k r → (s.resource r).state = .compiling → s.Compiles g k) :
    Opens g (s.resizeSets g) (((s.resizeSets g).graph g).definition.compilable.map Prod.fst)
      { session := s.resizeSets g } := by
  have hprepared := Preparation.resizeSets hs hg
  have hframe := Frame.resizeSets hs g
  have hcalm := Calm.resizeSets hs g
  have hdefinition : ((s.resizeSets g).graph g).definition = (s.graph g).definition := by
    rw [graph_resizeSets_eq hs]
  have hhanding' := hhanding.frame hs hframe
  generalize s.resizeSets g = m at hprepared hframe hcalm hdefinition hhanding' ⊢
  refine ⟨hprepared, hhanding', fun k hk => hk, fun x hx => (by cases hx), ?_, fun ho htask =>
    ⟨ho, htask⟩⟩
  intro k r ho hstate
  have hold := hframe.owns ho
  have hsettles := hcalm.settled r (hs.lt hold) (hs.uncooked hold)
  rw [hsettles.same hstate] at hstate
  rw [hdefinition]
  exact Or.inl (hwaiting hold hstate)

/-! ## The account -/

/-- Preparing a kernel leaves the gauge. -/
theorem gauge_prepareKernel (d : Dialect) (p : Prepared) (kernel : Kernel) (source : KernelSource)
    (q : Prepared) (hq : (Session.prepareKernel g d p k kernel source).1 = .ok q) :
    q.session.metrics.pending = p.session.metrics.pending := by
  have hresource : (p.session.kernelResource g k).2.metrics = p.session.metrics := by
    unfold Session.kernelResource
    dsimp only
    split
    · rfl
    · rfl
  have hbuild : ((p.session.kernelResource g k).2.buildKernel g k d
      (p.session.graph g).options.format).2.metrics.pending = p.session.metrics.pending := by
    rw [← hresource]
    rfl
  unfold Session.prepareKernel at hq
  generalize p.session.kernelResource g k = out at hbuild hq
  obtain ⟨r, m⟩ := out
  dsimp only at hbuild hq
  generalize m.buildKernel g k d (p.session.graph g).options.format = out at hbuild hq
  obtain ⟨built, m'⟩ := out
  dsimp only at hbuild hq
  split at hq
  · cases hq
  · cases hq
    exact hbuild
  · split at hq
    · cases hq
      exact hbuild
    · cases hq
      exact hbuild

theorem gauge_prepareKernels {d : Dialect} {ks : List (Nat × Kernel × KernelSource)}
    {p q : Prepared} (hq : (Session.prepareKernels g d ks p).1 = .ok q) :
    q.session.metrics.pending = p.session.metrics.pending := by
  induction ks generalizing p with
  | nil =>
    cases hq
    rfl
  | cons x ks ih =>
    obtain ⟨k, kernel, source⟩ := x
    have hkernel := gauge_prepareKernel (g := g) (k := k) d p kernel source
    unfold Session.prepareKernels at hq
    generalize Session.prepareKernel g d p k kernel source = out at hkernel hq
    obtain ⟨result, m⟩ := out
    cases result with
    | error e => cases hq
    | ok p' => exact (ih hq).trans (hkernel p' rfl)

/-- An update has prepared its kernels and has jobs to submit. -/
structure Opened (g : Nat) (s s' : Session) (jobs : List Job) : Prop where
  elapses : s.Elapses s'
  holdings : s'.Holdings
  handing : s'.Handing
  size : s'.graphs.size = s.graphs.size
  graph : s'.graph g = { s.graph g with
    sets := (s'.graph g).sets, pending := jobs.map Job.kernel }
  other : ∀ i ≠ g, s'.graph i = s.graph i
  kept : ∀ {i k r}, i ≠ g → s.Owns i k r → s'.resource r = s.resource r
  tasks : s'.tasks = s.tasks
  serves : ∀ j ∈ jobs, s'.Serves g (s.graph g).generation j
  begun : ∀ j ∈ jobs, s'.Owns g j.kernel j.resource ∧ s'.Awaits j
  apart : (jobs.map Job.kernel).Nodup
  waiting : ∀ {k r}, s'.Owns g k r → (s'.resource r).state = .compiling →
    ∃ j ∈ jobs, j.kernel = k ∧ j.resource = r
  told : ∀ {k r id}, s'.Owns g k r → (s'.resource r).task = some id →
    s.Owns g k r ∧ (s.resource r).task = some id
  gauge : s'.metrics.pending = s.metrics.pending - (s.graph g).pending.length + jobs.length

/-- Resources of other graphs stay while the sets are matched to the kernels. -/
theorem lapses_resizeSets (hs : s.Holdings) (g r : Nat) :
    (s.resource r).Lapses ((s.resizeSets g).resource r) ∧
      ∀ {i k}, i ≠ g → s.Owns i k r → (s.resizeSets g).resource r = s.resource r := by
  have hresource := resource_foldl_invalidate (s.removedResources g) s r
  have heq : (s.resizeSets g).resource r = ((s.removedResources g).foldl
      (fun s r => s.modifyResource r Resource.invalidate) s).resource r := by
    rw [resizeSets_eq hs]
    rfl
  rw [heq, hresource]
  refine ⟨?_, fun hi ho => ?_⟩
  · split
    · exact .invalidate _
    · exact Or.inl rfl
  · refine if_neg fun hremoved => hi ?_
    obtain ⟨set, hset, hr⟩ := List.mem_flatMap.1 hremoved.1
    obtain ⟨k, hk⟩ := List.mem_iff_getElem?.1 (List.mem_of_mem_drop hset)
    cases set with
    | none => cases hr
    | some set => exact (hs.apart ho ⟨set, hk, hr⟩).1

variable {φ : Nat → Ledger.Caller} {c : Nat}

/-- **An update opens its account.** -/
theorem Calls.prepare (h : s.Calls φ) {n : Nat} (hφ : φ c = .waiting g n)
    (hopen : (s.graph g).closed = false)
    (hwaiting : ∀ {k r}, s.Owns g k r → (s.resource r).state = .compiling → s.Compiles g k)
    {d : Dialect} {p : Prepared} {s' : Session}
    (hp : Session.prepareKernels g d ((s.resizeSets g).graph g).definition.compilable
      { session := s.resizeSets g } = (.ok p, s')) :
    Opened g s (p.session.setPending g (p.jobs.map Prod.fst))
      (preparedJobs g p (preparedPlan g p)) := by
  have hs := h.holdings
  have hg : g < s.graphs.size := (h.callers c).graph (by rw [hφ]; rfl)
  have hopens := (Opens.resizeSets hs h.handing hg hwaiting).prepareKernels (d := d) (by rw [hp])
  have hgauge := gauge_prepareKernels (q := p) (by rw [hp])
  have hframe := Frame.resizeSets hs g
  have hgraph := graph_resizeSets_eq hs g
  have hlapses := lapses_resizeSets hs g
  have hother : ∀ i ≠ g, (s.resizeSets g).graph i = s.graph i := fun i hi => by
    rw [graph_resizeSets hs, if_neg fun h => hi h.1.symm]
  have htasks : (s.resizeSets g).tasks = s.tasks := by
    rw [resizeSets_eq hs, foldl_invalidate]
    rfl
  have hmetrics : (s.resizeSets g).metrics = s.metrics := by
    rw [resizeSets_eq hs, foldl_invalidate]
    rfl
  have hsize : (s.resizeSets g).graphs.size = s.graphs.size := by
    rw [resizeSets_eq hs, foldl_invalidate]
    exact Array.size_modify
  dsimp only at hgauge
  generalize s.resizeSets g = m at *
  have hkernels : (preparedJobs g p (preparedPlan g p)).map Job.kernel = p.jobs.map Prod.fst := by
    unfold preparedJobs
    rw [List.map_map]
    rfl
  have hpgraph : p.session.graph g = { s.graph g with sets := (p.session.graph g).sets } := by
    rw [hopens.renews.graph, hgraph]
  have hpsize : p.session.graphs.size = s.graphs.size := hopens.renews.size.trans hsize
  have hpframe : p.session.Frame (p.session.setPending g (p.jobs.map Prod.fst)) :=
    .setPending p.session g _
  have hqgraph : (p.session.setPending g (p.jobs.map Prod.fst)).graph g =
      { p.session.graph g with pending := p.jobs.map Prod.fst } := by
    refine (graph_modifyGraph p.session g _ g).trans (if_pos ⟨rfl, ?_⟩)
    rw [hpsize]
    exact hg
  have hqother : ∀ i ≠ g, (p.session.setPending g (p.jobs.map Prod.fst)).graph i =
      p.session.graph i := fun i hi =>
    (graph_modifyGraph p.session g _ i).trans (if_neg fun h => hi h.1.symm)
  have howns : ∀ {k r}, (p.session.setPending g (p.jobs.map Prod.fst)).Owns g k r ↔
      p.session.Owns g k r := by
    intro k r
    rw [Owns, hqgraph]
    exact Iff.rfl
  have hgeneration : (p.session.graph g).generation = (s.graph g).generation := by rw [hpgraph]
  have hfits : ∀ x ∈ p.jobs, ∀ j : Job, j.graph = g → j.kernel = x.1 → j.resource = x.2.2.2.1 →
      JobFits p.session j (p.session.graph g).generation (preparedPlan g p) := by
    intro x hx j hgraph' hkernel hresource
    have ho := hopens.owned x hx
    refine ⟨by rw [hgraph', hpsize]; exact hg, rfl, Nat.le_of_eq (by rw [hgraph']),
      fun hclosed => ?_,
      by rw [hresource]; exact hopens.holdings.lt ho,
      by rw [hresource]; exact hopens.holdings.uncooked ho, fun i k ho' => ?_⟩
    · rw [hgraph', hpgraph, hopen] at hclosed
      cases hclosed
    · rw [hgraph', hkernel]
      rw [hresource] at ho'
      exact hopens.holdings.apart ho' ho
  refine
    { elapses := .trans hframe.elapses (.trans hopens.renews.elapses hpframe.elapses)
      holdings := hopens.holdings.frame hpframe
      handing := hopens.handing.frame hopens.holdings hpframe
      size := ?_
      graph := ?_
      other := fun i hi => by rw [hqother i hi, hopens.renews.other i hi, hother i hi]
      kept := ?_
      tasks := hopens.renews.tasks.trans htasks
      serves := ?_
      begun := ?_
      apart := ?_
      waiting := ?_
      told := ?_
      gauge := ?_ }
  · exact Array.size_modify.trans hpsize
  · rw [hqgraph, hkernels, hpgraph]
  · intro i k r hi ho
    have hlt := hs.lt ho
    rcases hopens.renews.kept r (Nat.lt_of_lt_of_le hlt hframe.resources) with heq | ⟨⟨k', ho'⟩, _⟩
    · exact heq.trans ((hlapses r).2 hi ho)
    · exact absurd (hs.apart (hframe.owns ho') ho).1 hi.symm
  · intro j hj
    obtain ⟨x, hx, rfl⟩ := List.mem_map.1 hj
    refine ⟨rfl, ⟨preparedPlan g p, by rw [hgeneration], ?_⟩, ?_⟩
    · rw [← hgeneration]
      exact (hfits x hx _ rfl rfl rfl).frame hpframe
    · have hcompiles := hopens.compiles x.1 (List.mem_append_left _ (List.mem_map_of_mem hx))
      rw [Compiles, hqgraph, hpgraph]
      rw [Compiles, hgraph] at hcompiles
      exact hcompiles
  · intro j hj
    obtain ⟨x, hx, rfl⟩ := List.mem_map.1 hj
    obtain ⟨hstate, hnumber⟩ := hopens.begun x hx
    refine ⟨howns.2 (hopens.owned x hx), ?_, hstate⟩
    have hnumber' : (p.session.resource x.2.2.2.1).generation = (p.session.graph g).generation := by
      rw [hnumber, hgraph, hpgraph]
    exact hnumber'
  · have happart := hopens.apart
    rw [List.append_nil] at happart
    rw [hkernels]
    exact (List.nodup_append.1 happart).2.1
  · intro k r ho hstate
    rcases hopens.waiting (howns.1 ho) hstate with hk | ⟨x, hx, hk, hr⟩
    · cases hk
    · exact ⟨_, List.mem_map_of_mem hx, hk, hr⟩
  · intro k r id ho htask
    obtain ⟨ho', htask'⟩ := hopens.told (howns.1 ho) htask
    have hsame := (hlapses r).1.told htask'
    rw [hsame] at htask'
    exact ⟨hframe.owns ho', htask'⟩
  · have hpending : (p.session.graph g).pending = (s.graph g).pending := by rw [hpgraph]
    have hlength : (preparedJobs g p (preparedPlan g p)).length = (p.jobs.map Prod.fst).length := by
      rw [← hkernels, List.length_map]
    show p.session.metrics.pending - (p.session.graph g).pending.length + _ = _
    rw [hgauge, hmetrics, hpending, hlength]

end

end KernelGraph.Session
