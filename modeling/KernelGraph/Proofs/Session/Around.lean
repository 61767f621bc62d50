/-
  What can happen around the graphs.

  Workers take tasks and compile, files and compilers change, proxies are released, graphs are made
  and edited, platforms are cooked.  None of it touches the run-time state of a graph: each is a
  case of `Around`.
-/
import KernelGraph.Proofs.Session.Completion

namespace KernelGraph.Session

section
variable {s s' : Session}

theorem GraphAround.refl (x : GraphState) : GraphAround x x :=
  ⟨rfl, rfl, rfl, rfl, rfl, rfl, rfl⟩

theorem GraphAround.trans {x y z : GraphState} (h : GraphAround x y) (h' : GraphAround y z) :
    GraphAround x z where
  closed := h'.closed.trans h.closed
  locked := h'.locked.trans h.locked
  sets := h'.sets.trans h.sets
  pending := h'.pending.trans h.pending
  generation := h'.generation.trans h.generation
  published := h'.published.trans h.published
  proxy := h'.proxy.trans h.proxy

/-- Workers go on: tasks stay what they are, and pools do not get new ones. -/
theorem Around.work (hgraphs : s'.graphs = s.graphs) (hresources : s'.resources = s.resources)
    (hplatforms : s'.platforms = s.platforms) (hhooks : s'.hooks = s.hooks)
    (hproxies : s'.proxies = s.proxies)
    (hjobs : s'.tasks.map CompileTask.job = s.tasks.map CompileTask.job)
    (hpools : ∀ (p : Nat) (pool' : CompilePool), s'.pools[p]? = some pool' → ∀ id ∈ pool'.ids,
      ∃ pool : CompilePool, s.pools[p]? = some pool ∧ id ∈ pool.ids ∧
        (pool'.isOpen = true → pool.isOpen = true)) : s.Around s' := by
  have hcooked : ∀ r, s'.IsCooked r ↔ s.IsCooked r := by
    intro r
    rw [IsCooked, IsCooked]
    unfold platformResources
    rw [hplatforms]
  refine
    { size := Nat.le_of_eq (congrArg Array.size hgraphs).symm
      graph := fun g => by rw [Session.graph, Session.graph, hgraphs]; exact GraphAround.refl _
      options := fun g _ => by rw [Session.graph, Session.graph, hgraphs]
      hooks := Or.inl hhooks
      proxies := by rw [hproxies]
      resources := Nat.le_of_eq (congrArg Array.size hresources).symm
      kept := fun r _ _ => by rw [Session.resource, Session.resource, hresources]
      cooked := fun r => (hcooked r).2
      fresh := fun r hr => Or.inl ((hcooked r).1 hr)
      tasks := ?_
      jobs := fun id t' ht' => Or.inl ?_
      pools := fun p pool' hpool' id hid => Or.inl (hpools p pool' hpool' id hid) }
  · have := congrArg Array.size hjobs
    simp only [Array.size_map] at this
    omega
  · have hid := congrArg (fun a => a[id]?) hjobs
    simp only [Array.getElem?_map, ht', Option.map_some] at hid
    obtain ⟨t, ht, hjob⟩ := Option.map_eq_some_iff.1 hid.symm
    exact ⟨t, ht, hjob.symm⟩

/-- Nothing that matters has changed. -/
theorem Around.of_eq (hgraphs : s'.graphs = s.graphs) (hresources : s'.resources = s.resources)
    (hplatforms : s'.platforms = s.platforms) (hhooks : s'.hooks = s.hooks)
    (hproxies : s'.proxies = s.proxies) (htasks : s'.tasks = s.tasks)
    (hpools : s'.pools = s.pools) :
    s.Around s' := by
  refine Around.work hgraphs hresources hplatforms hhooks hproxies (by rw [htasks]) ?_
  intro p pool hpool id hid
  rw [hpools] at hpool
  exact ⟨pool, hpool, hid, fun h => h⟩

/-! ## Workers and events -/

/-- A change of one element is not seen by what stays the same of it. -/
theorem map_modify_of_eq {α β : Type} (a : Array α) (i : Nat) {f : α → α} {p : α → β}
    (hf : ∀ x, p (f x) = p x) : (a.modify i f).map p = a.map p := by
  apply Array.ext_getElem?
  intro k
  rw [Array.getElem?_map, Array.getElem?_map, Array.getElem?_modify]
  split
  · rw [Option.map_map]
    exact congrArg (fun q => Option.map q a[k]?) (funext hf)
  · rfl

theorem map_job_modify (tasks : Array CompileTask) (id : Nat) {f : CompileTask → CompileTask}
    (hf : ∀ t, (f t).job = t.job) :
    (tasks.modify id f).map CompileTask.job = tasks.map CompileTask.job :=
    map_modify_of_eq tasks id hf

theorem Around.modifyTask (s : Session) (id : Nat) {f : CompileTask → CompileTask}
    (hf : ∀ t, (f t).job = t.job) : s.Around (s.modifyTask id f) :=
  Around.work rfl rfl rfl rfl rfl (map_job_modify s.tasks id hf)
    fun _ pool hpool _ hid => ⟨pool, hpool, hid, fun h => h⟩

/-- A pool is changed; it gets no new task. -/
theorem Around.modifyPool {p : Nat} {f : CompilePool → CompilePool}
    (hf : ∀ pool, s.pools[p]? = some pool →
      (∀ id ∈ (f pool).ids, id ∈ pool.ids) ∧ ((f pool).isOpen = true → pool.isOpen = true)) :
    s.Around (s.modifyPool p f) := by
  refine Around.work rfl rfl rfl rfl rfl rfl fun i pool' hpool' id hid => ?_
  have hpool : (s.pools.modify p f)[i]? = some pool' := hpool'
  rw [Array.getElem?_modify] at hpool
  split at hpool
  · rename_i hi
    subst hi
    obtain ⟨pool, hold, rfl⟩ := Option.map_eq_some_iff.1 hpool
    exact ⟨pool, hold, (hf pool hold).1 id hid, (hf pool hold).2⟩
  · exact ⟨pool', hpool, hid, fun h => h⟩

/-- The first task of a queue is taken away. -/
theorem Around.dequeue {p id : Nat} {pool : CompilePool} {rest : List Nat}
    (hpool : s.pools[p]? = some pool) (hfree : pool.current = none)
    (hqueue : pool.queue = id :: rest) :
    s.Around (s.modifyPool p fun x => { x with queue := rest }) := by
  refine .modifyPool fun pool' hpool' => ⟨fun i hi => ?_, fun h => h⟩
  cases hpool.symm.trans hpool'
  rw [CompilePool.ids, hfree, hqueue]
  rw [CompilePool.ids, hfree] at hi
  exact List.mem_cons_of_mem id hi

/-- A free worker has taken the first task from its queue. -/
theorem Around.takeUp {p id : Nat} {pool : CompilePool} {rest : List Nat}
    (hpool : s.pools[p]? = some pool) (hfree : pool.current = none)
    (hqueue : pool.queue = id :: rest) (cache : ProgramCache Program ProgramError) :
    s.Around ({ s.modifyPool p fun x => { x with queue := rest } with cache }.modifyPool p fun x =>
      { x with current := some id }) := by
  refine .work rfl rfl rfl rfl rfl rfl fun i pool' hpool' x hx => ?_
  have hpool'' : ((s.pools.modify p fun x => { x with queue := rest }).modify p fun x =>
      { x with current := some id })[i]? = some pool' := hpool'
  rw [Array.getElem?_modify, Array.getElem?_modify] at hpool''
  split at hpool''
  · rename_i hi
    subst hi
    rw [hpool] at hpool''
    cases hpool''
    refine ⟨pool, hpool, ?_, fun h => h⟩
    rw [CompilePool.ids, hfree, hqueue]
    exact hx
  · exact ⟨pool', hpool'', hx, fun h => h⟩

theorem Around.openPool (s : Session) : s.Around { s with pools := s.pools.push {} } := by
  refine .work rfl rfl rfl rfl rfl rfl fun p pool' hpool' id hid => ?_
  have hpush : (s.pools.push {})[p]? = some pool' := hpool'
  rw [Array.getElem?_push] at hpush
  split at hpush
  · cases hpush
    cases hid
  · exact ⟨pool', hpush, hid, fun h => h⟩

theorem Around.countCalls (s : Session) (format : String) (n : Nat) :
    s.Around (s.countCalls format n) := by
  unfold Session.countCalls
  split
  · exact Around.of_eq rfl rfl rfl rfl rfl rfl rfl
  · exact Around.of_eq rfl rfl rfl rfl rfl rfl rfl

theorem Around.runQueue (s : Session) : s.Around s.runQueue.2 := by
  have hreleased : ∀ (commands : List Nat) (proxies : Array RenderProxy),
      (commands.foldl (fun ps p => ps.modify p fun x => { x with released := true })
        proxies).toList.map (fun x => { x with released := true }) =
          proxies.toList.map fun x => { x with released := true } := by
    intro commands
    induction commands with
    | nil => exact fun _ => rfl
    | cons p commands ih =>
      intro proxies
      rw [List.foldl_cons, ih]
      apply List.ext_getElem?
      intro i
      simp only [List.getElem?_map, Array.getElem?_toList, Array.getElem?_modify]
      split
      · rw [Option.map_map]
        rfl
      · rfl
  exact
    { size := Nat.le_refl _
      graph := fun _ => .refl _
      options := fun _ _ => rfl
      hooks := Or.inl rfl
      proxies := hreleased s.commands s.proxies
      resources := Nat.le_refl _
      kept := fun _ _ _ => rfl
      cooked := fun _ h => h
      fresh := fun _ h => Or.inl h
      tasks := Nat.le_refl _
      jobs := fun _ t ht => Or.inl ⟨t, ht, rfl⟩
      pools := fun _ pool hpool _ hid => Or.inl ⟨pool, hpool, hid, fun h => h⟩ }

theorem Around.takeEvents (s : Session) : s.Around s.takeEvents.2 where
  size := Nat.le_refl _
  graph _ := .refl _
  options _ _ := rfl
  hooks := Or.inr rfl
  proxies := rfl
  resources := Nat.le_refl _
  kept _ _ _ := rfl
  cooked _ h := h
  fresh _ h := Or.inl h
  tasks := Nat.le_refl _
  jobs _ t ht := Or.inl ⟨t, ht, rfl⟩
  pools _ pool hpool _ hid := Or.inl ⟨pool, hpool, hid, fun h => h⟩

/-! ## Graphs -/

/-- Graphs are edited, or their platform caches are listed. -/
theorem Around.withGraphs {graphs : Array GraphState} (hsize : s.graphs.size ≤ graphs.size)
    (hgraph : ∀ i, GraphAround (s.graph i) (graphs.getD i default))
    (hoptions : ∀ i < s.graphs.size, (graphs.getD i default).options = (s.graph i).options) :
    s.Around { s with graphs } where
  size := hsize
  graph := hgraph
  options := hoptions
  hooks := Or.inl rfl
  proxies := rfl
  resources := Nat.le_refl _
  kept _ _ _ := rfl
  cooked _ h := h
  fresh _ h := Or.inl h
  tasks := Nat.le_refl _
  jobs _ t ht := Or.inl ⟨t, ht, rfl⟩
  pools _ pool hpool _ hid := Or.inl ⟨pool, hpool, hid, fun h => h⟩

theorem Around.modifyGraph (s : Session) (g : Nat) {f : GraphState → GraphState}
    (hf : ∀ x, GraphAround x (f x) ∧ (f x).options = x.options) :
    s.Around (s.modifyGraph g f) := by
  have hgraph : ∀ i, GraphAround (s.graph i) ((s.modifyGraph g f).graph i) ∧
      ((s.modifyGraph g f).graph i).options = (s.graph i).options := by
    intro i
    rw [graph_modifyGraph]
    split
    · exact hf _
    · exact ⟨.refl _, rfl⟩
  exact .withGraphs (Nat.le_of_eq Array.size_modify.symm) (fun i => (hgraph i).1)
    fun i _ => (hgraph i).2

theorem Around.addGraph (s : Session) (definition : Graph) (options : GraphOptions) :
    s.Around (s.addGraph definition options) := by
  have hgraph : ∀ i, ((s.addGraph definition options).graph i = s.graph i) ∨
      (i = s.graphs.size ∧ s.graph i = default ∧
        (s.addGraph definition options).graph i = { definition, options }) := by
    intro i
    unfold Session.addGraph Session.graph
    rw [Array.getD_eq_getD_getElem?, Array.getD_eq_getD_getElem?, Array.getElem?_push]
    split
    · rename_i hi
      exact Or.inr ⟨hi, by rw [hi, Array.getElem?_size, Option.getD_none], rfl⟩
    · exact Or.inl rfl
  refine .withGraphs (by simp) (fun i => ?_) fun i hi => ?_
  · rcases hgraph i with h | ⟨_, hold, hnew⟩
    · show GraphAround _ ((s.addGraph definition options).graph i)
      rw [h]
      exact .refl _
    · show GraphAround _ ((s.addGraph definition options).graph i)
      rw [hold, hnew]
      exact ⟨rfl, rfl, rfl, rfl, rfl, rfl, rfl⟩
  · rcases hgraph i with h | ⟨hi', _, _⟩
    · exact congrArg GraphState.options h
    · omega

/-! ## Platforms -/

theorem resource_modifyResource (s : Session) (r : Nat) (f : Resource → Resource) (i : Nat) :
    (s.modifyResource r f).resource i =
      if r = i ∧ r < s.resources.size then f (s.resource i) else s.resource i := by
  unfold Session.modifyResource Session.resource
  rw [Array.getD_eq_getD_getElem?, Array.getD_eq_getD_getElem?, Array.getElem?_modify]
  by_cases hi : r = i
  · subst hi
    by_cases hr : r < s.resources.size
    · rw [if_pos rfl, if_pos ⟨rfl, hr⟩, Array.getElem?_eq_getElem hr]
      rfl
    · rw [if_pos rfl, if_neg (fun h => hr h.2), Array.getElem?_eq_none (by omega)]
      rfl
  · rw [if_neg hi, if_neg fun h => hi h.1]

/-- The entries of a platform after a change of one platform. -/
theorem platformResources_modify (s : Session) (platform : Nat) (f : CookPlatform → CookPlatform)
    (p : Nat) : platformResources { s with platforms := s.platforms.modify platform f } p =
      if platform = p ∧ platform < s.platforms.size then
        (f (s.platforms.getD p default)).entries.map Prod.snd
      else s.platformResources p := by
  unfold platformResources
  dsimp only
  rw [Array.getD_eq_getD_getElem?, Array.getD_eq_getD_getElem?, Array.getElem?_modify]
  by_cases hi : platform = p
  · subst hi
    by_cases hr : platform < s.platforms.size
    · rw [if_pos rfl, if_pos ⟨rfl, hr⟩, Array.getElem?_eq_getElem hr]
      rfl
    · rw [if_pos rfl, if_neg (fun h => hr h.2), Array.getElem?_eq_none (by omega)]
      rfl
  · rw [if_neg hi, if_neg fun h => hi h.1]

theorem Steady.isCooked_iff (h : s.Steady s') (r : Nat) : s'.IsCooked r ↔ s.IsCooked r := by
  rw [IsCooked, IsCooked, funext h.entries]

/-- Platform caches change, and resources that are theirs or new. -/
theorem Around.withPlatforms (resources : ResourceStore) (platforms : Array CookPlatform)
    (hsize : s.resources.size ≤ resources.size)
    (hkept : ∀ r < s.resources.size, ¬ s.IsCooked r → resources.getD r default = s.resource r)
    (hcooked : ∀ r, s.IsCooked r → IsCooked { s with platforms } r)
    (hfresh : ∀ r, IsCooked { s with platforms } r →
      s.IsCooked r ∨ s.resources.size ≤ r ∧ r < resources.size) :
    s.Around { s with resources, platforms } where
  size := Nat.le_refl _
  graph _ := .refl _
  options _ _ := rfl
  hooks := Or.inl rfl
  proxies := rfl
  resources := hsize
  kept := hkept
  cooked := hcooked
  fresh := hfresh
  tasks := Nat.le_refl _
  jobs _ t ht := Or.inl ⟨t, ht, rfl⟩
  pools _ pool hpool _ hid := Or.inl ⟨pool, hpool, hid, fun h => h⟩

/-- A platform's resource changes. -/
theorem Around.modifyResource {r : Nat} (hr : s.IsCooked r) (f : Resource → Resource) :
    s.Around (s.modifyResource r f) := by
  refine .withPlatforms (s.resources.modify r f) s.platforms ?_ (fun i _ hi => ?_) (fun _ h => h)
    fun _ h => Or.inl h
  · exact Nat.le_of_eq Array.size_modify.symm
  · show (s.modifyResource r f).resource i = s.resource i
    rw [resource_modifyResource, if_neg]
    rintro ⟨rfl, _⟩
    exact hi hr

theorem Around.announce (s : Session) (platform : Nat) : s.Around { s with
    platforms := s.platforms.modify platform fun x => { x with announced := true } } := by
  have hcooked : ∀ r, IsCooked { s with
      platforms := s.platforms.modify platform fun x => { x with announced := true } } r ↔
        s.IsCooked r := by
    intro r
    have hentries : ∀ p, platformResources { s with
        platforms := s.platforms.modify platform fun x => { x with announced := true } } p =
          s.platformResources p := by
      intro p
      rw [platformResources_modify]
      split
      · rfl
      · rfl
    rw [IsCooked, IsCooked, funext hentries]
  exact .withPlatforms s.resources _ (Nat.le_refl _) (fun _ _ _ => rfl)
    (fun r => (hcooked r).2) fun r h => Or.inl ((hcooked r).1 h)

/-- A platform without entries is opened. -/
theorem Around.openPlatform (s : Session) (platform : TargetPlatform) :
    s.Around { s with platforms := s.platforms.push { platform } } := by
  have hentries : ∀ p, platformResources { s with platforms := s.platforms.push { platform } } p =
      s.platformResources p := by
    intro p
    unfold platformResources
    dsimp only
    rw [Array.getD_eq_getD_getElem?, Array.getD_eq_getD_getElem?, Array.getElem?_push]
    split
    · rename_i hp
      rw [hp, Array.getElem?_size]
      rfl
    · rfl
  have hcooked : ∀ r, IsCooked { s with platforms := s.platforms.push { platform } } r ↔
      s.IsCooked r := by
    intro r
    rw [IsCooked, IsCooked, funext hentries]
  exact .withPlatforms s.resources _ (Nat.le_refl _) (fun _ _ _ => rfl)
    (fun r => (hcooked r).2) fun r h => Or.inl ((hcooked r).1 h)

/-- A resource is made for a platform, and something is done with it. -/
theorem Around.entry (s : Session) (platform k : Nat) (x : Resource) (f : Resource → Resource) :
    s.Around { s with
      resources := (s.resources.push x).modify s.resources.size f
      platforms := s.platforms.modify platform fun y =>
        { y with entries := y.entries ++ [(k, s.resources.size)] } } := by
  have hentries : ∀ p, platformResources { s with platforms := s.platforms.modify platform fun y =>
      { y with entries := y.entries ++ [(k, s.resources.size)] } } p =
        if platform = p ∧ platform < s.platforms.size then
          s.platformResources p ++ [s.resources.size] else s.platformResources p := by
    intro p
    rw [platformResources_modify, List.map_append]
    rfl
  refine .withPlatforms _ _ (by simp) (fun r hr _ => ?_) (fun r hr => ?_) fun r hr => ?_
  · rw [Array.getD_eq_getD_getElem?, Array.getElem?_modify, if_neg (by omega),
      Array.getElem?_push_lt hr, Session.resource, Array.getD_eq_getD_getElem?,
      Array.getElem?_eq_getElem hr]
  · obtain ⟨p, hp⟩ := hr
    refine ⟨p, ?_⟩
    rw [hentries]
    split
    · exact List.mem_append_left _ hp
    · exact hp
  · obtain ⟨p, hp⟩ := hr
    rw [hentries] at hp
    split at hp
    · rcases List.mem_append.1 hp with hp | hp
      · exact Or.inl ⟨p, hp⟩
      · have hr : r = s.resources.size := List.mem_singleton.1 hp
        exact Or.inr ⟨by omega, by simp; omega⟩
    · exact Or.inl ⟨p, hp⟩

/-- A platform's job is put into the queue of its graph's pool. -/
theorem Around.enqueue {j : Job} (hkind : ∃ p, j.kind = .cook p) (hcooked : s.IsCooked j.resource) :
    s.Around (s.enqueue j) where
  size := Nat.le_refl _
  graph _ := .refl _
  options _ _ := rfl
  hooks := Or.inl rfl
  proxies := rfl
  resources := Nat.le_refl _
  kept _ _ _ := rfl
  cooked _ h := h
  fresh _ h := Or.inl h
  tasks := by
    show s.tasks.size ≤ (s.tasks.push _).size
    simp
  jobs id t' ht' := by
    have hpush : (s.tasks.push { job := j })[id]? = some t' := ht'
    rw [Array.getElem?_push] at hpush
    split at hpush
    · rename_i hid
      cases hpush
      exact Or.inr ⟨Nat.le_of_eq hid.symm, hkind, hcooked⟩
    · exact Or.inl ⟨t', hpush, rfl⟩
  pools p pool' hpool' id hid := by
    have hmodify : (s.pools.modify (s.graph j.graph).options.pool fun x =>
        { x with queue := x.queue ++ [s.tasks.size] })[p]? = some pool' := hpool'
    have hsize : (s.enqueue j).tasks.size = s.tasks.size + 1 := by
      show (s.tasks.push _).size = _
      simp
    rw [Array.getElem?_modify] at hmodify
    split at hmodify
    · obtain ⟨pool, hpool, rfl⟩ := Option.map_eq_some_iff.1 hmodify
      rw [CompilePool.ids, ← List.append_assoc] at hid
      rcases List.mem_append.1 hid with hid | hid
      · exact Or.inl ⟨pool, hpool, hid, fun h => h⟩
      · rw [List.mem_singleton.1 hid, hsize]
        exact Or.inr ⟨Nat.le_refl _, Nat.lt_succ_self _⟩
    · exact Or.inl ⟨pool', hmodify, hid, fun h => h⟩

end

end KernelGraph.Session
