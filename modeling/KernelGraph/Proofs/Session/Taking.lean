/-
  Taking the compiles of a graph away.

  An update begins by taking the tasks of its graph's resources away and waiting until the workers
  are idle.  Every resource that waits for a job in a pool knows the job's task, so that none of the
  graph's resources is still waited for by anybody; and the update's number is new, so that no job
  of the graph is current.  Hence the jobs that come back in the meantime are all about other
  graphs.  `Spares` states this while the workers go on; `Cleared` is what the update finds then.
-/
import KernelGraph.Proofs.Session.Draining
import KernelGraph.Proofs.Session.Told

namespace KernelGraph

theorem Resource.takeTask_takeTask (x : Resource) : x.takeTask.2.takeTask.2 = x.takeTask.2 := by
  cases ht : x.task with
  | none => simp only [Resource.takeTask, ht]
  | some id => simp only [Resource.takeTask, ht]

/-- A resource that still waits after its task was taken away had none. -/
theorem Resource.takeTask_eq_self {x : Resource} (h : x.takeTask.2.state = .compiling) :
    x.takeTask.2 = x ∧ x.task = none := by
  cases ht : x.task with
  | none => simp only [Resource.takeTask, ht, and_self]
  | some id =>
    simp only [Resource.takeTask, ht] at h
    split at h
    · cases h
    · contradiction

namespace Session

section
variable {s s' b : Session} {g p : Nat}

/-! ## Steps of workers -/

/-- A worker adds no task to a pool. -/
theorem Advances.live_subset (hs : Advances s p s') {id : Nat} (h : id ∈ s'.live) :
    id ∈ s.live := by
  obtain ⟨pool', hpool', hid⟩ := mem_live.1 h
  obtain ⟨i, hi⟩ := Array.mem_iff_getElem?.1 hpool'
  obtain ⟨pool, hpool, _, hids⟩ := hs.pools hi
  exact mem_live.2 ⟨pool, Array.mem_of_getElem? hpool, hids id hid⟩

/-- A worker leaves the jobs alone. -/
theorem Advances.map_job (hs : Advances s p s') :
    s'.tasks.map CompileTask.job = s.tasks.map CompileTask.job := by
  cases hs with
  | dropped => rfl
  | @skipped _ id =>
    exact map_job_modify s.tasks id (f := fun t => { t with done := true }) fun _ => rfl
  | begun => rfl
  | @completed _ id t returned =>
    rw [(SameMachine.comes (completeJob_comes _ t.job returned)).tasks]
    exact map_job_modify s.tasks id (f := fun t => { t with done := true }) fun _ => rfl
  | @entered _ id t =>
    rw [tasks_countCalls]
    exact map_job_modify s.tasks id (f := fun t => { t with entered := true }) fun _ => rfl
  | @compiled _ id t =>
    obtain ⟨calls, log, heq⟩ := runCompile_eq s id t
    rw [heq]

/-- A worker opens no pool. -/
theorem Advances.size_pools (hs : Advances s p s') : s'.pools.size = s.pools.size := by
  cases hs with
  | dropped => exact Array.size_modify
  | skipped => exact Array.size_modify
  | begun => exact Array.size_modify
  | @completed _ id t returned =>
    rw [(SameMachine.comes (completeJob_comes _ t.job returned)).pools]
    exact Array.size_modify
  | entered =>
    unfold Session.countCalls
    split
    · rfl
    · rfl
  | @compiled _ id t =>
    obtain ⟨calls, log, heq⟩ := runCompile_eq s id t
    rw [heq]

theorem exists_task_of_map_job (h : s'.tasks.map CompileTask.job = s.tasks.map CompileTask.job)
    {id : Nat} {t' : CompileTask} (ht' : s'.tasks[id]? = some t') :
    ∃ t, s.tasks[id]? = some t ∧ t'.job = t.job := by
  have hjob := congrArg (·[id]?) h
  simp only [Array.getElem?_map, ht', Option.map_some] at hjob
  obtain ⟨t, ht, heq⟩ := Option.map_eq_some_iff.1 hjob.symm
  exact ⟨t, ht, heq.symm⟩

theorem size_of_map_job (h : s'.tasks.map CompileTask.job = s.tasks.map CompileTask.job) :
    s'.tasks.size = s.tasks.size := by
  have hsize := congrArg Array.size h
  simpa only [Array.size_map] using hsize

/-- A step of a worker that completes no job leaves the resources, the graphs, the proxies and the
    hook calls alone. -/
theorem Advances.fields (hs : Advances s p s') :
    (s'.resources = s.resources ∧ s'.graphs = s.graphs ∧ s'.proxies = s.proxies ∧
      s'.hooks = s.hooks) ∨
    ∃ (pool : CompilePool) (id : Nat) (t : CompileTask)
      (returned : Except (CallError ProgramError) (Program × Bool)) (s₁ : Session),
      s.pools[p]? = some pool ∧ pool.current = some id ∧ s.tasks[id]? = some t ∧
      s.cache.result? id = some returned ∧
      s₁ = { s with
        cache := s.cache.forget id
        tasks := s.tasks.modify id fun t => { t with done := true }
        pools := s.pools.modify p fun x => { x with current := none } } ∧
      Comes s₁ t.job returned s' := by
  cases hs with
  | dropped => exact Or.inl ⟨rfl, rfl, rfl, rfl⟩
  | skipped => exact Or.inl ⟨rfl, rfl, rfl, rfl⟩
  | begun => exact Or.inl ⟨rfl, rfl, rfl, rfl⟩
  | @completed pool id t returned hpool hcurrent htask hresult =>
    exact Or.inr ⟨pool, id, t, returned, _, hpool, hcurrent, htask, hresult, rfl,
      completeJob_comes _ t.job returned⟩
  | entered =>
    unfold Session.countCalls
    split
    · exact Or.inl ⟨rfl, rfl, rfl, rfl⟩
    · exact Or.inl ⟨rfl, rfl, rfl, rfl⟩
  | @compiled _ id t =>
    obtain ⟨calls, log, heq⟩ := runCompile_eq s id t
    rw [heq]
    exact Or.inl ⟨rfl, rfl, rfl, rfl⟩

/-- A job changes the graph that it is about, and only if it is current. -/
theorem Comes.graph_eq {j : Job} {returned : Except (CallError ProgramError) (Program × Bool)}
    (h : Comes s j returned s')
    (hj : j.graph = g → ∀ n plan, j.kind = .runtime n plan → n ≠ (s.graph g).generation) :
    s'.graph g = s.graph g := by
  cases h with
  | ignored _ hs =>
    obtain ⟨_, _, _, rfl⟩ := hs
    rfl
  | abandoned _ _ hs =>
    obtain ⟨_, _, _, rfl⟩ := hs
    rfl
  | cooked _ _ _ hs =>
    obtain ⟨_, _, _, rfl⟩ := hs
    rfl
  | stale _ _ _ hs =>
    obtain ⟨_, _, _, rfl⟩ := hs
    rfl
  | @current n plan program r t _ hkind hn _ ht hs =>
    have hne : g ≠ j.graph := by
      rintro rfl
      exact hj rfl n plan hkind hn
    have hsettle : (t.settle j.graph plan).graph g = t.graph g := by
      unfold Session.settle
      split
      · exact graph_publish_of_ne hne
      · rfl
    have hhooked : s'.graph g = (t.settle j.graph plan).graph g := by
      obtain ⟨_, _, _, rfl⟩ := hs
      rfl
    have hfiltered : t.graph g = ((s.modifyResource j.resource fun x =>
        (x.finish n program r).2).modifyGraph j.graph fun x =>
          { x with pending := x.pending.filter (· ≠ j.kernel) }).graph g := by
      obtain ⟨_, _, _, rfl⟩ := ht
      rfl
    rw [hhooked, hsettle, hfiltered, graph_modifyGraph, if_neg fun h => hne h.1.symm]
    rfl

/-- The generations of the proxies that a graph has published so far. -/
def publishedGenerations (s : Session) (g : Nat) : List Nat :=
  (s.publications.filter fun x => x.1 = g).map Prod.snd

theorem publishedGenerations_congr (h : s'.proxies = s.proxies) (g : Nat) :
    s'.publishedGenerations g = s.publishedGenerations g := by
  unfold publishedGenerations publications
  rw [h]

/-- A job publishes proxies of its graph, and only if it is current. -/
theorem Comes.publishedGenerations_eq {j : Job}
    {returned : Except (CallError ProgramError) (Program × Bool)} (h : Comes s j returned s')
    (hj : j.graph = g → ∀ n plan, j.kind = .runtime n plan → n ≠ (s.graph g).generation) :
    s'.publishedGenerations g = s.publishedGenerations g := by
  unfold publishedGenerations
  rcases h.quiet with hq | ⟨n, plan, t, hkind, hn, hq, _, hq', _⟩
  · rw [hq.publications]
  · rw [hq'.publications, ← hq.publications]
    by_cases hlt : (t.graph j.graph).published < plan.generation
    · have hne : j.graph ≠ g := by
        rintro rfl
        exact hj rfl n plan hkind hn
      rw [publications_publish_of_lt hlt, List.filter_append, List.filter_singleton,
        decide_eq_false hne]
      simp only [Bool.cond_false, List.append_nil]
    · rw [publish_of_le (Nat.not_lt.1 hlt)]

/-! ## Workers that spare a graph -/

/-- Since the session `b` the workers have left the graph and its resources alone, and no task in a
    pool is about them. -/
structure Spares (g : Nat) (b s : Session) : Prop where
  graph : s.graph g = b.graph g
  owned : ∀ {k r}, b.Owns g k r → s.resource r = b.resource r
  unawaited : ∀ id ∈ s.live, ∀ t, s.tasks[id]? = some t → ∀ k, b.Owns g k t.job.resource →
    ¬ s.Awaits t.job
  older : ∀ (id : Nat) (t : CompileTask), s.tasks[id]? = some t → t.job.graph = g →
    ∀ n plan, t.job.kind = .runtime n plan → n ≠ (b.graph g).generation
  hooks : ∃ calls, s.hooks = b.hooks ++ calls ∧ ∀ c ∈ calls, c.graph ≠ g
  shown : s.publishedGenerations g = b.publishedGenerations g
  jobs : s.tasks.map CompileTask.job = b.tasks.map CompileTask.job

theorem Spares.of_eq (h : Spares g b s) (hresources : s'.resources = s.resources)
    (hgraphs : s'.graphs = s.graphs) (hproxies : s'.proxies = s.proxies)
    (hhooks : s'.hooks = s.hooks)
    (hjobs : s'.tasks.map CompileTask.job = s.tasks.map CompileTask.job)
    (hlive : ∀ id ∈ s'.live, id ∈ s.live) : Spares g b s' where
  graph := by
    rw [← h.graph, Session.graph, Session.graph, hgraphs]
  owned ho := by
    rw [← h.owned ho, Session.resource, Session.resource, hresources]
  unawaited id hid t' ht' k ho := by
    obtain ⟨t, ht, hjob⟩ := exists_task_of_map_job hjobs ht'
    rw [hjob] at ho ⊢
    unfold Awaits Session.resource
    rw [hresources]
    exact h.unawaited id (hlive id hid) t ht k ho
  older id t' ht' := by
    obtain ⟨t, ht, hjob⟩ := exists_task_of_map_job hjobs ht'
    rw [hjob]
    exact h.older id t ht
  hooks := by
    rw [hhooks]
    exact h.hooks
  shown := (publishedGenerations_congr hproxies g).trans h.shown
  jobs := hjobs.trans h.jobs

/-- A job of another graph, or one that nobody waits for, comes back. -/
theorem Spares.comes (h : Spares g b s) {j : Job}
    {returned : Except (CallError ProgramError) (Program × Bool)}
    (hunawaited : ∀ k, b.Owns g k j.resource → ¬ s.Awaits j)
    (holder : j.graph = g → ∀ n plan, j.kind = .runtime n plan → n ≠ (b.graph g).generation)
    (hc : Comes s j returned s') : Spares g b s' := by
  have hsame := SameMachine.comes hc
  have hgraph : s'.graph g = s.graph g := by
    refine hc.graph_eq fun hj n plan hkind => ?_
    rw [h.graph]
    exact holder hj n plan hkind
  have howned : ∀ {k r}, b.Owns g k r → s'.resource r = s.resource r := by
    intro k r ho
    obtain ⟨⟨f, _, hresources⟩, _, _⟩ := hc.fields
    have hmodified : s'.resource r = (s.modifyResource j.resource f).resource r := by
      rw [Session.resource, hresources]
      rfl
    by_cases hr : j.resource = r
    · subst hr
      cases hc with
      | ignored _ hs =>
        obtain ⟨_, _, _, rfl⟩ := hs
        rfl
      | abandoned hawaits _ _ => exact absurd hawaits (hunawaited k ho)
      | cooked hawaits _ _ _ => exact absurd hawaits (hunawaited k ho)
      | stale hawaits _ _ _ => exact absurd hawaits (hunawaited k ho)
      | current hawaits _ _ _ _ _ => exact absurd hawaits (hunawaited k ho)
    · rw [hmodified, resource_modifyResource, if_neg fun h => hr h.1]
  have hshown : s'.publishedGenerations g = s.publishedGenerations g := by
    refine hc.publishedGenerations_eq fun hj n plan hkind => ?_
    rw [h.graph]
    exact holder hj n plan hkind
  refine ⟨hgraph.trans h.graph, fun ho => (howned ho).trans (h.owned ho), ?_, ?_, ?_,
    hshown.trans h.shown, ?_⟩
  · intro id hid t ht k ho
    rw [live, hsame.pools] at hid
    rw [hsame.tasks] at ht
    unfold Awaits
    rw [howned ho]
    exact h.unawaited id hid t ht k ho
  · rw [hsame.tasks]
    exact h.older
  · obtain ⟨calls, hcalls, hother⟩ := h.hooks
    rcases hc.hooks with heq | ⟨_, ⟨n, plan, hkind⟩, hcurrent, r, heq⟩
    · exact ⟨calls, heq.trans hcalls, hother⟩
    · refine ⟨calls ++ [⟨j.graph, j.kernel, r⟩], ?_, fun c hmem => ?_⟩
      · rw [heq, hcalls, List.append_assoc]
      · rcases List.mem_append.1 hmem with hmem | hmem
        · exact hother c hmem
        · cases List.mem_singleton.1 hmem
          rintro rfl
          rw [Job.generation, hkind, h.graph] at hcurrent
          exact holder rfl n plan hkind hcurrent
  · rw [hsame.tasks]
    exact h.jobs

/-- **A step of a worker** spares the graph. -/
theorem Spares.advance (h : Spares g b s) (hs : s.advance p = some s') : Spares g b s' := by
  have hstep := advance_advances hs
  rcases hstep.fields with ⟨hresources, hgraphs, hproxies, hhooks⟩ |
    ⟨pool, id, t, returned, s₁, hpool, hcurrent, ht, _, hs₁, hc⟩
  · exact h.of_eq hresources hgraphs hproxies hhooks hstep.map_job
      fun _ hid => hstep.live_subset hid
  · -- the worker is free again before the job comes back
    have hjobs : s₁.tasks.map CompileTask.job = s.tasks.map CompileTask.job := by
      rw [hs₁]
      exact map_job_modify s.tasks id (f := fun t => { t with done := true }) fun _ => rfl
    have hlive : ∀ i ∈ s₁.live, i ∈ s.live := by
      intro i hi
      obtain ⟨l, r, hold, hnew⟩ := exists_flatMap_modify hpool
        (fun x => { x with current := none }) CompilePool.ids
      have hsub : s₁.live.Sublist s.live := by
        rw [live, live, hold, hs₁, hnew, CompilePool.ids, CompilePool.ids]
        exact ((List.Sublist.refl l).append (List.sublist_append_right _ _)).append (.refl r)
      exact hsub.subset hi
    have h₁ : Spares g b s₁ :=
      h.of_eq (by rw [hs₁]) (by rw [hs₁]) (by rw [hs₁]) (by rw [hs₁]) hjobs hlive
    refine h₁.comes (fun k ho hawaits => ?_) (h.older id t ht) hc
    refine h.unawaited id (current_mem_live hpool hcurrent) t ht k ho ?_
    rw [hs₁] at hawaits
    exact hawaits

end

/-! ## Taking tasks away -/

section
variable {s s' : Session} {g : Nat}

/-- Tasks are cancelled, and resources give them up; everything else is as it was. -/
theorem foldl_takeTask_eq (rs : List Nat) (s : Session) : ∃ resources cache tasks,
    rs.foldl takeTask s = { s with resources, cache, tasks } ∧
      tasks.map CompileTask.job = s.tasks.map CompileTask.job := by
  refine List.foldlRecOn (motive := fun t : Session => ∃ resources cache tasks,
    t = { s with resources, cache, tasks } ∧
      tasks.map CompileTask.job = s.tasks.map CompileTask.job) rs _
    ⟨s.resources, s.cache, s.tasks, rfl, rfl⟩ ?_
  rintro _ ⟨resources, cache, tasks, rfl, hjobs⟩ r _
  unfold Session.takeTask
  split
  rename_i task resource _
  split
  · exact ⟨_, _, _, rfl, hjobs⟩
  · rename_i id _
    exact ⟨_, _, _, rfl, (map_job_modify tasks id (f := fun t => { t with cancelled := true })
      fun _ => rfl).trans hjobs⟩

theorem resource_foldl_takeTask (rs : List Nat) (s : Session) (i : Nat) :
    (rs.foldl takeTask s).resource i =
      if i ∈ rs then (s.resource i).takeTask.2 else s.resource i := by
  induction rs generalizing s with
  | nil => rfl
  | cons r rs ih =>
    have hnext := resource_takeTask s r i
    rw [resource_modifyResource] at hnext
    rw [List.foldl_cons, ih, hnext]
    by_cases hr : r = i
    · subst hr
      rw [if_pos (List.mem_cons_self ..)]
      by_cases hlt : r < s.resources.size
      · rw [if_pos (And.intro rfl hlt), Resource.takeTask_takeTask, ite_self]
      · -- there is no such resource
        have hdefault : s.resource r = default := by
          rw [Session.resource, Array.getD_eq_getD_getElem?, Array.getElem?_eq_none (by omega)]
          rfl
        rw [if_neg fun h : r = r ∧ r < s.resources.size => hlt h.2, hdefault]
        exact ite_self _
    · rw [if_neg fun h : r = i ∧ r < s.resources.size => hr h.1]
      have hmem : i ∈ r :: rs ↔ i ∈ rs := by
        rw [List.mem_cons]
        exact or_iff_right fun h => hr h.symm
      simp only [hmem]

theorem mem_graphResources {r : Nat} : r ∈ s.graphResources g ↔ ∃ k, s.Owns g k r := by
  unfold graphResources Owns
  simp only [List.mem_flatMap]
  constructor
  · rintro ⟨set, hset, hr⟩
    obtain ⟨k, hk⟩ := List.mem_iff_getElem?.1 hset
    cases set with
    | none => cases hr
    | some set => exact ⟨k, set, hk, hr⟩
  · rintro ⟨k, set, hk, hr⟩
    exact ⟨some set, List.mem_iff_getElem?.2 ⟨k, hk⟩, hr⟩

/-- The update of a graph has its number. -/
def begun (s : Session) (g : Nat) : Session :=
  s.modifyGraph g fun x => { x with generation := x.generation + 1 }

theorem graph_begun (hg : g < s.graphs.size) :
    (s.begun g).graph g = { s.graph g with generation := (s.graph g).generation + 1 } := by
  rw [begun, graph_modifyGraph, if_pos ⟨rfl, hg⟩]

theorem owns_begun {i k r : Nat} : (s.begun g).Owns i k r ↔ s.Owns i k r := by
  unfold Owns
  rw [begun, graph_modifyGraph]
  split
  · rfl
  · rfl

/-- The compiles of a graph were taken away for its next update. -/
def interrupt (s : Session) (g : Nat) : Session :=
  (s.begun g).takeTasks ((s.begun g).graphResources g)

/-- What an update finds when it has taken the compiles of its graph away: idle workers, and the
    graph's resources as they were, except for those that have lost their task. -/
structure Cleared (s : Session) (g : Nat) (t : Session) : Prop where
  holdings : t.Holdings
  tidy : t.Tidy
  live : t.live = []
  steady : (s.begun g).Steady t
  graph : t.graph g = { s.graph g with generation := (s.graph g).generation + 1 }
  owned : ∀ {k r}, s.Owns g k r → t.resource r = (s.resource r).takeTask.2
  hooks : ∃ calls, t.hooks = s.hooks ++ calls ∧ ∀ c ∈ calls, c.graph ≠ g
  shown : t.publishedGenerations g = s.publishedGenerations g
  jobs : t.tasks.map CompileTask.job = s.tasks.map CompileTask.job
  pools : t.pools.size = s.pools.size

theorem Run.holdings {H : List Started} (h : Run H s) : s.Holdings := by
  obtain ⟨_, hreachable⟩ := h.reachable
  exact hreachable.orderly.holdings

/-- After the tasks of a graph's resources were taken away, no task in a pool is about them. -/
theorem Run.spares {H : List Started} (h : Run H s) (hg : g < s.graphs.size)
    (hheld : s.held = false) :
    Spares g (((s.begun g).graphResources g).foldl takeTask (s.begun g))
      (((s.begun g).graphResources g).foldl takeTask (s.begun g)) := by
  obtain ⟨calls, hreachable⟩ := h.reachable
  have horders := hreachable.orderly.orders
  have hholdings := h.holdings
  have htold := hreachable.told
  have htidy := h.tidy
  let rs := (s.begun g).graphResources g
  obtain ⟨resources, cache, tasks, heq, hjobs⟩ := foldl_takeTask_eq rs (s.begun g)
  have hresource : ∀ {k r}, s.Owns g k r →
      Session.resource { s.begun g with resources, cache, tasks } r =
        (s.resource r).takeTask.2 := by
    intro k r ho
    rw [← heq, resource_foldl_takeTask, if_pos (mem_graphResources.2 ⟨k, owns_begun.2 ho⟩)]
    rfl
  -- tasks are those of the session before, for which the resources know what is to be known
  have htask : ∀ {id : Nat} {t' : CompileTask}, tasks[id]? = some t' →
      ∃ t, s.tasks[id]? = some t ∧ t'.job = t.job := by
    intro id t' ht'
    have htaken : Session.tasks { s.begun g with resources, cache, tasks } = tasks := rfl
    rw [← htaken] at ht' hjobs
    exact exists_task_of_map_job hjobs ht'
  rw [show ((s.begun g).graphResources g).foldl takeTask (s.begun g) =
    { s.begun g with resources, cache, tasks } from heq]
  refine ⟨rfl, fun _ => rfl, fun id hid t' ht' k ho hawaits => ?_,
    fun id t' ht' hgraph n plan hkind => ?_,
    ⟨[], (List.append_nil _).symm, fun c hc => by cases hc⟩, rfl, rfl⟩
  · obtain ⟨t, ht, hjob⟩ := htask ht'
    rw [hjob] at ho hawaits
    have ho' : s.Owns g k t.job.resource := owns_begun.1 ho
    unfold Awaits at hawaits
    rw [hresource ho'] at hawaits
    obtain ⟨hsame, hnone⟩ := Resource.takeTask_eq_self hawaits.2
    rw [hsame] at hawaits
    have hmem := Array.mem_of_getElem? ht
    have hruntime : t.job.IsRuntime := by
      cases hkind : t.job.kind with
      | runtime n plan => exact ⟨n, plan, hkind⟩
      | cook platform =>
        exact absurd (horders.cooked t hmem platform hkind) (hholdings.uncooked ho')
    -- the pool is open, since closed ones have no tasks
    obtain ⟨pool, hpool, hpid⟩ := mem_live.1 hid
    have hpool' : pool ∈ s.pools := hpool
    have hopen : pool.isOpen = true := by
      by_contra hclosed
      have hids := htidy.closed hheld pool hpool' (by simpa using hclosed)
      rw [hids] at hpid
      cases hpid
    obtain ⟨p, hp⟩ := Array.mem_iff_getElem?.1 hpool'
    rcases htold.told ht ⟨p, pool, hp, hopen, hpid⟩ hruntime ho' hawaits with
      htask | ⟨_, _, _, hphase⟩
    · rw [hnone] at htask
      cases htask
    · cases hphase
  · -- the number of the update is new
    obtain ⟨t, ht, hjob⟩ := htask ht'
    rw [hjob] at hgraph hkind
    have hle := (horders.fits t (Array.mem_of_getElem? ht) n plan hkind).le
    have hnew : (Session.graph { s.begun g with resources, cache, tasks } g).generation =
        (s.graph g).generation + 1 := congrArg GraphState.generation (graph_begun hg)
    rw [hgraph] at hle
    have hle' : n ≤ (s.graph g).generation := hle
    omega

/-- **Taking the compiles of a graph away** leaves idle workers and the graph's resources. -/
theorem Run.cleared {H : List Started} (h : Run H s) (hg : g < s.graphs.size)
    (haccepts : s.accepts g = true) (hheld : s.held = false) :
    Cleared s g (s.interrupt g) := by
  have htidy : (s.begun g).Tidy := h.tidy.same (.modifyGraph s g fun _ => rfl)
  have hfold : (((s.begun g).graphResources g).foldl takeTask (s.begun g)).Tidy :=
    keeps_foldl _ (fun _ h r => stable_tidy.takeTask h r) htidy
  have hholdings : ((s.begun g).takeTasks ((s.begun g).graphResources g)).Holdings := by
    obtain ⟨calls, files, scripts, limit, hsteps⟩ := h.reachable
    obtain ⟨calls', htaken⟩ :=
      brings_takeTasks (φ := fun _ => .idle) (c := fun _ => false) hg haccepts calls
    rw [Function.update_eq_self] at htaken
    have hreachable : World.Reachable _ := ⟨files, scripts, limit, hsteps.trans htaken⟩
    have horderly := hreachable.orderly.holdings
    dsimp only at horderly
    exact horderly
  unfold interrupt
  unfold takeTasks at hholdings ⊢
  have hspares := keeps_drain Spares.advance (h.spares hg hheld)
  obtain ⟨resources, cache, tasks, heq, hjobs⟩ :=
    foldl_takeTask_eq ((s.begun g).graphResources g) (s.begun g)
  refine ⟨hholdings, stable_tidy.drain hfold, hfold.drain_live ?_, .takeTasks _ _, ?_,
    fun {k r} ho => ?_, ?_, ?_, ?_, ?_⟩
  · rw [heq]
    exact hheld
  · rw [hspares.graph, heq]
    exact graph_begun hg
  · rw [hspares.owned (k := k)]
    · rw [resource_foldl_takeTask, if_pos (mem_graphResources.2 ⟨k, owns_begun.2 ho⟩)]
      rfl
    · rw [heq]
      exact owns_begun.2 ho
  · obtain ⟨calls, hcalls, hother⟩ := hspares.hooks
    refine ⟨calls, hcalls.trans ?_, hother⟩
    rw [heq]
    rfl
  · refine hspares.shown.trans ?_
    rw [heq]
    rfl
  · refine hspares.jobs.trans ?_
    rw [heq]
    exact hjobs
  · refine keeps_drain (I := fun x => x.pools.size = s.pools.size)
      (fun hsize hs => (advance_advances hs).size_pools.trans hsize) ?_
    rw [heq]
    rfl

end

end Session

end KernelGraph
