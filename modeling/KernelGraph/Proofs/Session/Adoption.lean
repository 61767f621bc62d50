/-
  Kernels that get the program of another one.

  Two kernels of a graph are `Rivals` if their builds have one key, but the first one fails to
  compile and the second one does not.  Keys leave out what a kernel's entry point is, so that there
  are such kernels.

  1. A worker that is alone serves the jobs of an update in order, since it never has more than one
     call of the program cache under way (`Queued.compile`, `Queued.cached`).

  2. So the first update leaves the first kernel failed and the second one compiled, and the program
     of the second one in the cache (`Rivals.first`).

  3. The next update finds that program under the key of the first kernel, and shows it there
     (`Rivals.adopts`).  So updates are not always idempotent (`not_update_again`).

  If the first of two kernels with one key compiles, the second one gets its program at once,
  whatever it would compile to itself (`Updated.shares`).
-/
import KernelGraph.Proofs.Session.Idempotence

namespace KernelGraph.Session

open ProgramCache (led)

/-! ## A queue that is served in order -/

/-- The jobs wait in the queue of a pool, whose worker is free and alone; nobody asks the program
    cache. -/
structure Queued (s : Session) (p : Nat) (jobs : List Job) : Prop where
  queue : ∃ ids, s.Alone p { queue := ids } ∧ ids.Nodup ∧
    ids.map (s.tasks[·]?) = jobs.map fun j => some { job := j }
  held : s.held = false
  idle : s.cache.Idle

/-- A worker has served a task, and the job of the task has come back. -/
def Served (s : Session) (j : Job)
    (returned : Except (CallError ProgramError) (Program × Bool)) (s' : Session) : Prop :=
  ∃ p id rest cache calls log, s' = (s.served p id rest cache calls log).completeJob j returned

section
variable {s s' B : Session} {j : Job} {jobs todo : List Job} {g p : Nat}
    {plan : Plan} {J : List Job}
  {returned : Except (CallError ProgramError) (Program × Bool)}

theorem Served.steady (h : s.Served j returned s') : s.Steady s' := by
  obtain ⟨p, id, rest, cache, calls, log, rfl⟩ := h
  have hserved : s.Steady (s.served p id rest cache calls log) := .of_eq rfl rfl rfl rfl rfl
  exact hserved.trans (.comes (completeJob_comes _ j returned))

/-- A job of a batch that its resource waits for is settled. -/
theorem Served.settled (h : s.Served j returned s') (hB : Batch B g plan J) (hj : j ∈ J)
    (hsteady : B.Steady s) (hsize : s.resources.size = B.resources.size) (ha : s.Awaits j)
    {program : Option Program} {r : CompileResult}
    (hresult : jobResult j (s.resource j.resource).level returned = some (program, r)) :
    Settled s j plan program r s' := by
  obtain ⟨p, id, rest, cache, calls, log, rfl⟩ := h
  have hgeneration : (s.graph j.graph).generation = plan.generation := by
    rw [hB.graph j hj]
    exact (hsteady.graph g).generation.trans hB.current
  have hsettled : Settled (s.served p id rest cache calls log) j plan program r _ :=
    (completeJob_comes _ j returned).settled ha (hB.kind j hj) hgeneration.symm hresult
      (by rw [hB.graph j hj]; exact hsteady.graphs ▸ hB.exists_graph)
      (hsize ▸ hB.resource j hj : j.resource < s.resources.size)
  exact hsettled.of_eq rfl rfl rfl rfl

/-- A job that is submitted is the last of the queue. -/
theorem Queued.submit (h : s.Queued p jobs) (hpool : (s.graph j.graph).options.pool = p)
    (ha : s.Awaits j) :
    (s.submit j).Queued p (jobs ++ [j]) ∧ (s.submit j).cache = s.cache ∧ s.Steady (s.submit j) ∧
      (s.submit j).resources.size = s.resources.size ∧
      ∀ i, ∃ task, (s.submit j).resource i = { s.resource i with task } := by
  obtain ⟨ids, halone, hnodup, htasks⟩ := h.queue
  have hqueue : (s.enqueue j).Alone p { queue := ids ++ [s.tasks.size] } := by
    refine halone.of_modify (fun x => { x with queue := x.queue ++ [s.tasks.size] }) ?_
    rw [← hpool]
    rfl
  have hopen : (s.enqueue j).hasClosedPool j.graph = false := by
    have hoptions : ((s.enqueue j).graph j.graph).options.pool = p := hpool
    unfold hasClosedPool
    rw [hoptions, Array.getD_eq_getD_getElem?, hqueue.getElem?]
    rfl
  have hsubmit : s.submit j = (s.enqueue j).register s.tasks.size j := by
    rw [submit_eq, hopen]
    rfl
  have hregister := register_of_awaits (s := s.enqueue j) ha s.tasks.size
  have hresource := exists_task_register (s.enqueue j) s.tasks.size j
  have hlt : ∀ id ∈ ids, id < s.tasks.size := by
    intro id hid
    have hmem : s.tasks[id]? ∈ jobs.map fun j => some ({ job := j } : CompileTask) :=
      htasks ▸ List.mem_map_of_mem hid
    obtain ⟨_, _, heq⟩ := List.mem_map.1 hmem
    exact (Array.getElem?_eq_some_iff.1 heq.symm).1
  have hsteady : s.Steady (s.enqueue j) := .of_eq rfl rfl rfl rfl rfl
  rw [hsubmit]
  refine ⟨⟨⟨ids ++ [s.tasks.size], ?_, ?_, ?_⟩, ?_, ?_⟩, ?_, hsteady.trans (.register _ _ _), ?_,
    hresource⟩
  · rw [hregister]
    exact hqueue.of_eq rfl
  · refine List.nodup_append.2 ⟨hnodup, List.nodup_singleton _, fun id hid i hi => ?_⟩
    rw [List.mem_singleton.1 hi]
    exact Nat.ne_of_lt (hlt id hid)
  · have hnew : ∀ i, ((s.enqueue j).register s.tasks.size j).tasks[i]? =
        if i = s.tasks.size then some { job := j } else s.tasks[i]? := by
      intro i
      rw [hregister]
      exact getElem?_enqueue j i
    rw [List.map_append, List.map_append, List.map_singleton, List.map_singleton, hnew, if_pos rfl,
      ← htasks]
    congr 1
    refine List.map_congr_left fun id hid => ?_
    rw [hnew, if_neg (Nat.ne_of_lt (hlt id hid))]
  · rw [hregister]
    exact h.held
  · rw [hregister]
    exact h.idle
  · rw [hregister]
    rfl
  · rw [hregister]
    exact Array.size_modify

/-- The first task of the queue. -/
theorem Queued.first (h : s.Queued p (j :: todo))
    (returned : Except (CallError ProgramError) (Program × Bool)) : ∃ id rest,
    s.Alone p { queue := id :: rest } ∧ s.tasks[id]? = some { job := j } ∧
      ∀ cache calls log s', s' = (s.served p id rest cache calls log).completeJob j returned →
        cache.Idle → s'.Queued p todo ∧ s'.cache = cache := by
  obtain ⟨ids, halone, hnodup, htasks⟩ := h.queue
  obtain ⟨id, rest, rfl, htask, hrest⟩ := List.map_eq_cons_iff.1 htasks
  obtain ⟨hid, hnodup⟩ := List.nodup_cons.1 hnodup
  refine ⟨id, rest, halone, htask, fun cache calls log s' hs' hidle => ?_⟩
  have hmachine : (s.served p id rest cache calls log).SameMachine s' := by
    rw [hs']
    exact .comes (completeJob_comes _ j returned)
  refine ⟨⟨⟨rest, hs' ▸ halone.served cache calls log, hnodup, ?_⟩, hmachine.held.trans h.held, ?_⟩,
    hmachine.cache⟩
  · rw [← hrest, hmachine.tasks]
    refine List.map_congr_left fun i hi => ?_
    dsimp only [served]
    rw [Array.getElem?_modify, if_neg fun heq : id = i => hid (heq ▸ hi)]
  · rw [hmachine.cache]
    exact hidle

/-- **The first job is compiled** if its program is not in the cache. -/
theorem Queued.compile (h : s.Queued p (j :: todo))
    (hmiss : s.cache.programs.value? (jobKey j) = none) {outcome : Except ProgramError Program}
    (hcompile : (s.compileJob j).1 = outcome) (fuel : Nat) :
    ∃ s', s.drainAux (fuel + 3) = s'.drainAux fuel ∧ s.Served j (led outcome) s' ∧
      s'.Queued p todo ∧
      s'.cache.programs.value? (jobKey j) = outcome.toOption := by
  obtain ⟨id, rest, halone, htask, hnext⟩ := h.first (led outcome)
  obtain ⟨cache, calls, log, hidle, hvalue, hdrain⟩ :=
    halone.compile htask h.held h.idle hmiss hcompile fuel
  obtain ⟨hqueued, hcache⟩ := hnext cache calls log _ rfl hidle
  refine ⟨_, hdrain, ⟨p, id, rest, cache, calls, log, rfl⟩, hqueued, ?_⟩
  rw [hcache]
  exact hvalue

/-- **The first job is not compiled** if its program is in the cache. -/
theorem Queued.cached (h : s.Queued p (j :: todo)) {program : Program}
    (hfound : s.cache.programs.value? (jobKey j) = some program) (fuel : Nat) :
    ∃ s', s.drainAux (fuel + 2) = s'.drainAux fuel ∧ s.Served j (.ok (program, true)) s' ∧
      s'.Queued p todo := by
  obtain ⟨id, rest, halone, htask, hnext⟩ := h.first (.ok (program, true))
  obtain ⟨cache, hidle, hdrain⟩ := halone.cached htask h.idle hfound fuel
  exact ⟨_, hdrain, ⟨p, id, rest, cache, s.calls, s.log, rfl⟩, (hnext _ _ _ _ rfl hidle).1⟩

theorem Queued.lt_size (h : s.Queued p jobs) : p < s.pools.size := by
  obtain ⟨_, halone, _⟩ := h.queue
  exact (Array.getElem?_eq_some_iff.1 halone.getElem?).1

/-- An empty queue leaves the worker nothing to do. -/
theorem Queued.done (h : s.Queued p []) (fuel : Nat) : s.drainAux fuel = s := by
  obtain ⟨ids, halone, _, htasks⟩ := h.queue
  obtain rfl := List.map_eq_nil_iff.1 htasks
  exact halone.done fuel

/-- The worker goes on for as long as two jobs need, if there is one. -/
theorem Queued.drain_eq (h : s.Queued p (j :: todo)) : ∃ fuel, s.drain = s.drainAux (fuel + 6) := by
  obtain ⟨id, _, _, htask, _⟩ := h.first (.error .cancelled)
  have hlt := (Array.getElem?_eq_some_iff.1 htask).1
  have hle : 2 * 2 ≤ (s.tasks.size + 1) * (s.tasks.size + 1) :=
    Nat.mul_le_mul (by omega) (by omega)
  refine ⟨4 * ((s.tasks.size + 1) * (s.tasks.size + 1)) - 6, ?_⟩
  rw [Nat.sub_add_cancel (by omega), Session.drain, Nat.mul_assoc]

end

/-! ## Updates on one worker -/

section
variable {s s' t B : Session} {g p : Nat} {q : Prepared} {others calls : List HookCall}
  {x : RenderProxy} {jobs todo : List Job} {H : List Started}

/-- A worker without jobs stays so, whatever happens to its tasks. -/
theorem Queued.of_eq (h : s.Queued p []) (hpools : s'.pools = s.pools) (hheld : s'.held = s.held)
    (hcache : s'.cache = s.cache) : s'.Queued p [] := by
  obtain ⟨ids, halone, hnodup, htasks⟩ := h.queue
  obtain rfl := List.map_eq_nil_iff.1 htasks
  exact ⟨⟨[], halone.of_eq hpools, hnodup, rfl⟩, hheld.trans h.held, hcache ▸ h.idle⟩

theorem Queued.takeTasks (h : s.Queued p []) (rs : List Nat) :
    (s.takeTasks rs).Queued p [] ∧ (s.takeTasks rs).cache.programs = s.cache.programs := by
  have hfold : (rs.foldl takeTask s).Queued p [] ∧
      (rs.foldl takeTask s).cache.programs = s.cache.programs := by
    refine List.foldlRecOn (motive := fun t : Session => t.Queued p [] ∧
      t.cache.programs = s.cache.programs) rs _ ⟨h, rfl⟩ fun t ⟨ht, hprograms⟩ r _ => ?_
    unfold Session.takeTask
    split
    split
    · exact ⟨ht, hprograms⟩
    · -- nobody asks the cache, so that it has no call to cancel
      obtain ⟨ids, halone, hnodup, htasks⟩ := ht.queue
      obtain rfl := List.map_eq_nil_iff.1 htasks
      refine ⟨⟨⟨[], halone.of_eq rfl, hnodup, rfl⟩, ht.held, ht.idle.flights, ?_,
        ht.idle.programs⟩, hprograms⟩
      exact List.map_eq_nil_iff.2 ht.idle.calls
  unfold Session.takeTasks Session.drain
  rw [hfold.1.done]
  exact hfold

/-- Jobs that are waited for are submitted. -/
theorem Queued.submitJobs (h : s.Queued p jobs)
    (hpool : ∀ j ∈ todo, (s.graph j.graph).options.pool = p) (ha : ∀ j ∈ todo, s.Awaits j) :
    (s.submitJobs true todo).Queued p (jobs ++ todo) ∧
      (s.submitJobs true todo).cache = s.cache ∧ s.Steady (s.submitJobs true todo) ∧
      (s.submitJobs true todo).resources.size = s.resources.size ∧
      ∀ i, ∃ task, (s.submitJobs true todo).resource i = { s.resource i with task } := by
  induction todo generalizing s jobs with
  | nil => exact ⟨(List.append_nil jobs).symm ▸ h, rfl, .refl s, rfl, fun i => ⟨_, rfl⟩⟩
  | cons j todo ih =>
    obtain ⟨hqueued, hcache, hsteady, hsize, hresource⟩ :=
      h.submit (hpool j (List.mem_cons_self ..)) (ha j (List.mem_cons_self ..))
    obtain ⟨hqueued', hcache', hsteady', hsize', hresource'⟩ := ih hqueued
      (fun i hi => by
        rw [(hsteady.graph i.graph).options]
        exact hpool i (List.mem_cons_of_mem _ hi))
      fun i hi => by
        obtain ⟨task, htask⟩ := hresource i.resource
        exact (awaits_congr (by rw [htask]) (by rw [htask])).2 (ha i (List.mem_cons_of_mem _ hi))
    have hsync :
        (if j.isDefault && !true then (s.submit j).drain else s.submit j) = s.submit j := by
      rw [Bool.not_true, Bool.and_false]
      rfl
    rw [Session.submitJobs, List.foldl_cons, hsync]
    rw [List.append_assoc] at hqueued'
    refine ⟨hqueued', hcache'.trans hcache, hsteady.trans hsteady', hsize'.trans hsize, fun i => ?_⟩
    obtain ⟨task, htask⟩ := hresource i
    obtain ⟨task', htask'⟩ := hresource' i
    exact ⟨task', htask'.trans (by rw [htask])⟩

/-- Keys say which programs are in the cache. -/
theorem exists_programs {c : ProgramCache Program ProgramError}
    (h : c.programs.Holds fun _ _ => True) :
    ∃ F : ProgramKey → Except ProgramError Program, c.programs.Holds fun k p => F k = .ok p := by
  refine ⟨fun k => match c.programs.value? k with
    | some p => .ok p
    | none => .error .negativeCount, h.of_value? fun k p hp => ?_⟩
  dsimp only
  rw [hp]

/-- What an update leaves to its worker, which is alone: `w` is the session in which it has
    submitted its jobs. -/
structure Submission (s : Session) (g : Nat) (q : Prepared) (s' w : Session) : Prop where
  batch : Batch (ready g q) g (preparedPlan g q) (updateJobs g q)
  format : ∀ j ∈ updateJobs g q, j.format = (s.graph g).options.format
  queued : w.Queued (s.graph g).options.pool (updateJobs g q)
  programs : w.cache.programs = s.cache.programs
  steady : (ready g q).Steady w
  size : w.resources.size = (ready g q).resources.size
  awaits : ∀ j ∈ updateJobs g q, w.Awaits j
  compiles : ∀ j, w.compileJob j = s.compileJob j
  update : s' = w.drain.finishUpdate g (preparedPlan g q)

/-- **An update submits its jobs** to a worker that is alone. -/
theorem Updated.submits (hu : Updated s g t q others calls s' x) (h : Run H s)
    (hg : g < s.graphs.size) (haccepts : s.accepts g = true)
    (hqueued : s.Queued (s.graph g).options.pool []) : ∃ w, Submission s g q s' w := by
  obtain ⟨_, hreachable⟩ := h.reachable
  have hbatch := hu.launches.batch hu.cleared hg haccepts hqueued.held
    (hreachable.orderly.shown.le g)
  obtain ⟨_, hpools, hcache, hheld⟩ := hu.launches.machine hu.cleared.holdings
  obtain ⟨ht, hprograms⟩ :
      t.Queued (s.graph g).options.pool [] ∧ t.cache.programs = s.cache.programs := by
    have hbegun : (s.begun g).Queued (s.graph g).options.pool [] := hqueued.of_eq rfl rfl rfl
    rw [← hu.found]
    exact hbegun.takeTasks _
  obtain ⟨sets, hgraph⟩ := hu.launches.graph hu.cleared
  have hoptions : ((ready g q).graph g).options = (s.graph g).options := by
    rw [((steady_ready g q).graph g).options, hgraph]
  have hpool : ∀ j ∈ updateJobs g q,
      ((ready g q).graph j.graph).options.pool = (s.graph g).options.pool := by
    intro j hj
    rw [hbatch.graph j hj, hoptions]
  obtain ⟨hw, hcache', hsteady, hsize, hresource⟩ :=
    (ht.of_eq hpools hheld hcache).submitJobs hpool hbatch.awaits
  refine ⟨_, hbatch, fun j hj => hoptions ▸ hbatch.format j hj, hw, ?_, hsteady, hsize,
    fun j hj => ?_, fun j => ?_, ?_⟩
  · rw [hcache', hcache, hprograms]
  · obtain ⟨task, htask⟩ := hresource j.resource
    exact (awaits_congr (by rw [htask]) (by rw [htask])).2 (hbatch.awaits j hj)
  · obtain ⟨F, hF⟩ := exists_programs hqueued.idle.programs
    exact (hsteady.compileJob j).trans ((h.accounts hF hu.makesReady).compiles j)
  · have hupdate := hu.update
    rw [update_eq_startGeneration haccepts, hu.found,
      startGeneration_of_prepared hu.prepared] at hupdate
    exact (congrArg Prod.snd hupdate).symm

end

/-! ## Kernels with one key -/

section
variable {s s' t : Session} {g k k' r r' : Nat} {q : Prepared} {others calls : List HookCall}
  {x : RenderProxy} {H : List Started} {b b' : KernelBuild} {p : Program} {j : Job}

/-- Kernels are begun in the order of the graph. -/
theorem Preparation.sublist {R : Session} {d : Dialect} {ks : List (Nat × Kernel × KernelSource)}
    {p : Prepared} (h : Preparation g R (ks.map Prod.fst) p)
    (hq : (Session.prepareKernels g d ks p).1 = .ok q) :
    List.Sublist (q.jobs.map Prod.fst) (p.jobs.map Prod.fst ++ ks.map Prod.fst) := by
  induction ks generalizing p with
  | nil =>
    cases hq
    rw [List.map_nil, List.append_nil]
  | cons y ks ih =>
    obtain ⟨k, kernel, source⟩ := y
    unfold Session.prepareKernels at hq
    split at hq
    · cases hq
    · rename_i p' s' heq
      have hp' : (Session.prepareKernel g d p k kernel source).1 = .ok p' := by rw [heq]
      obtain ⟨_, _, hnext⟩ := h.prepareKernel d kernel source
      have hjobs : p'.jobs.map Prod.fst = p.jobs.map Prod.fst ∨
          p'.jobs.map Prod.fst = p.jobs.map Prod.fst ++ [k] := by
        obtain ⟨r, s'', _, _, hprepares⟩ := h.provided d kernel source
        rw [heq] at hprepares
        generalize (p.session.buildOutcome g d k).result = built at hprepares
        cases hprepares with
        | failed => exact Or.inl rfl
        | reused => exact Or.inl rfl
        | begun => exact Or.inr (List.map_append ..)
      refine (ih (hnext p' hp').2 hq).trans ?_
      rcases hjobs with hsame | hnew
      · rw [hsame]
        exact List.Sublist.append_left (List.sublist_cons_self ..) _
      · rw [hnew, List.append_assoc]
        exact List.Sublist.refl _

theorem Updated.sublist (hu : Updated s g t q others calls s' x) (hg : g < s.graphs.size) :
    List.Sublist ((updateJobs g q).map Job.kernel) ((s.updateBuilds g).map Prod.fst) := by
  have hstart := Preparation.resizeSets hu.cleared.holdings (hu.cleared.lt_size hg)
  have hsub : List.Sublist (q.jobs.map Prod.fst) ([] ++ _) :=
    hstart.sublist (congrArg Prod.fst hu.prepared)
  have hdefinition : ((t.resizeSets g).graph g).definition = (s.graph g).definition := by
    rw [graph_resizeSets_eq hu.cleared.holdings, hu.cleared.graph]
  rw [List.nil_append, hdefinition] at hsub
  rw [map_kernel_updateJobs, map_fst_updateBuilds]
  exact hsub

theorem ne_of_updateBuilds (h : (s.updateBuilds g).map Prod.fst = [k, k']) : k ≠ k' := by
  have hnodup := Graph.nodup_compilable (s.graph g).definition
  rw [← map_fst_updateBuilds, h] at hnodup
  simpa using hnodup

/-- Two kernels of a graph are built with one key, but only the second one compiles. -/
structure Rivals (s : Session) (g k k' : Nat) (b b' : KernelBuild) (p : Program) : Prop where
  builds : s.updateBuilds g = [(k, .ok b), (k', .ok b')]
  key : b'.hashKey = b.hashKey
  fails : ∀ j : Job, j.graph = g → j.format = (s.graph g).options.format → j.build = b →
    ∃ e, (s.compileJob j).1 = .error e ∧ e.isCancelled = false
  compiles : ∀ j : Job, j.graph = g → j.format = (s.graph g).options.format → j.build = b' →
    (s.compileJob j).1 = .ok p

/-- **A kernel without the program of its build** is compiled. -/
theorem Updated.begins (hu : Updated s g t q others calls s' x) (hs : s.Holdings)
    (hg : g < s.graphs.size) (hmem : (k, .ok b) ∈ s.updateBuilds g) (hnot : ¬ s.Reuses g k b) :
    ∃ j ∈ updateJobs g q, j.kernel = k ∧ j.build = b ∧ s'.owned? g k = some j.resource ∧
      ∀ r, s.owned? g k = some r → j.resource = r := by
  have hk := Graph.lt_of_mem_compilable (mem_compilable_of_updateBuilds hmem)
  have hR := (hu.cleared.owned? hs hg hk).1
  cases hu.readied _ hmem with
  | failed hbuilt => cases hbuilt
  | @reused _ r hbuilt _ hslot hreuse =>
    cases hbuilt
    have hr := hR.symm.trans hslot
    exact absurd ⟨r, hr, (hu.cleared.isReusable hs hg hk hr b.hashKey).symm.trans hreuse⟩ hnot
  | begun hbuilt hslot hjob _ _ hkept =>
    cases hbuilt
    exact ⟨_, List.mem_map.2 ⟨_, hjob, rfl⟩, rfl, rfl, (hu.completed.slot k).trans hslot,
      fun r hr => (hkept r (hR.trans hr)).symm⟩

/-- A kernel that has the program of its build is not. -/
theorem Updated.spares (hu : Updated s g t q others calls s' x) (hs : s.Holdings)
    (hg : g < s.graphs.size) (hmem : (k, .ok b) ∈ s.updateBuilds g) (hreuses : s.Reuses g k b)
    (hj : j ∈ updateJobs g q) : j.kernel ≠ k := by
  obtain ⟨r, hr, hreuse⟩ := hreuses
  have hk := Graph.lt_of_mem_compilable (mem_compilable_of_updateBuilds hmem)
  have hR := (hu.cleared.owned? hs hg hk).1.trans hr
  cases hu.readied _ hmem with
  | failed hbuilt => cases hbuilt
  | reused _ _ _ _ _ _ hjobs =>
    rintro rfl
    refine hjobs ?_
    rw [← map_kernel_updateJobs g q]
    exact List.mem_map_of_mem hj
  | begun hbuilt _ _ hnot =>
    cases hbuilt
    have hfalse := hnot r hR
    rw [hu.cleared.isReusable hs hg hk hr, hreuse] at hfalse
    cases hfalse

/-- The jobs of an update that compiles the first of two kernels. -/
theorem Updated.jobs (hu : Updated s g t q others calls s' x) (hg : g < s.graphs.size)
    (hkernels : (s.updateBuilds g).map Prod.fst = [k, k']) (hj : j ∈ updateJobs g q)
    (hkernel : j.kernel = k) :
    updateJobs g q = [j] ∨ ∃ j', j'.kernel = k' ∧ updateJobs g q = [j, j'] := by
  have hsub := hu.sublist hg
  rw [hkernels] at hsub
  have hne := ne_of_updateBuilds hkernels
  generalize updateJobs g q = J at hj hsub
  -- the second kernel is another one
  have hsecond : ∀ {J : List Job}, List.Sublist (J.map Job.kernel) [k'] → j ∉ J := by
    intro J hJ hmem
    have hk := List.mem_singleton.1 (hJ.subset (List.mem_map_of_mem hmem))
    exact hne (hkernel.symm.trans hk)
  cases J with
  | nil => cases hj
  | cons i J =>
    rcases List.cons_sublist_cons'.1 hsub with hrest | ⟨_, hrest⟩
    · exact absurd hj (hsecond (J := i :: J) hrest)
    · obtain rfl := (List.mem_cons.1 hj).resolve_right (hsecond hrest)
      rcases List.sublist_singleton.1 hrest with hnil | hone
      · exact Or.inl (by rw [List.map_eq_nil_iff.1 hnil])
      · obtain ⟨j', rfl, hk'⟩ := List.map_eq_singleton_iff.1 hone
        exact Or.inr ⟨j', hk', rfl⟩

/-- The first update of a graph with two kernels has submitted a job for each of them, in their
    order. -/
structure Pair (s : Session) (g : Nat) (q : Prepared) (s' w : Session) (k k' : Nat)
    (b b' : KernelBuild) (j j' : Job) : Prop extends Submission s g q s' w where
  jobs : updateJobs g q = [j, j']
  ne : j' ≠ j
  build : j.build = b
  build' : j'.build = b'
  slot : s'.owned? g k = some j.resource
  slot' : s'.owned? g k' = some j'.resource

/-- **The first update of two kernels** submits two jobs. -/
theorem Updated.pair (hu : Updated s g t q others calls s' x) (hrun : Run H s)
    (hg : g < s.graphs.size) (haccepts : s.accepts g = true)
    (hqueued : s.Queued (s.graph g).options.pool [])
    (hbuilds : s.updateBuilds g = [(k, .ok b), (k', .ok b')])
    (hempty : s.owned? g k = none) (hempty' : s.owned? g k' = none) :
    ∃ w j j', Pair s g q s' w k k' b b' j j' := by
  obtain ⟨_, hreachable⟩ := hrun.reachable
  have hs := hreachable.orderly.holdings
  obtain ⟨w, hw⟩ := hu.submits hrun hg haccepts hqueued
  have hkernels : (s.updateBuilds g).map Prod.fst = [k, k'] := by
    rw [hbuilds]
    rfl
  have hnot : ∀ {i c}, s.owned? g i = none → ¬ s.Reuses g i c := by
    rintro i c hnone ⟨r, hr, _⟩
    rw [hnone] at hr
    cases hr
  obtain ⟨j, hj, hkernel, hbuild, hslot, _⟩ :=
    hu.begins hs hg (by rw [hbuilds]; exact List.mem_cons_self ..) (hnot hempty)
  obtain ⟨j', hj', hkernel', hbuild', hslot', _⟩ := hu.begins hs hg
    (by rw [hbuilds]; exact List.mem_cons_of_mem _ (List.mem_singleton_self _)) (hnot hempty')
  have hne : j' ≠ j := fun heq =>
    ne_of_updateBuilds hkernels (by rw [← hkernel, ← hkernel', heq])
  refine ⟨w, j, j', hw, ?_, hne, hbuild, hbuild', hslot, hslot'⟩
  rcases hu.jobs hg hkernels hj hkernel with hone | ⟨i, hi, htwo⟩
  · rw [hone] at hj'
    exact absurd (List.mem_singleton.1 hj') hne
  · have hmem : i ∈ updateJobs g q := by
      rw [htwo]
      exact List.mem_cons_of_mem _ (List.mem_singleton_self i)
    rw [htwo, hw.batch.eq_of_kernel hmem hj' (hi.trans hkernel'.symm)]

section
variable {j' : Job} {w u u' : Session} {program program' : Option Program} {r r' : CompileResult}
  {returned returned' : Except (CallError ProgramError) (Program × Bool)}

theorem Pair.mem (h : Pair s g q s' w k k' b b' j j') :
    j ∈ updateJobs g q ∧ j' ∈ updateJobs g q := by
  rw [h.jobs]
  exact ⟨List.mem_cons_self .., List.mem_cons_of_mem _ (List.mem_singleton_self _)⟩

theorem Pair.jobKey_eq (h : Pair s g q s' w k k' b b' j j') :
    jobKey j = ⟨(s.graph g).options.format, b.hashKey⟩ := by
  rw [jobKey, h.format j h.mem.1, h.build]

/-- The jobs have one key if their builds have. -/
theorem Pair.jobKey_eq_jobKey (h : Pair s g q s' w k k' b b' j j') (hkey : b'.hashKey = b.hashKey) :
    jobKey j' = jobKey j := by
  rw [h.jobKey_eq, jobKey, h.format j' h.mem.2, h.build', hkey]

/-- The jobs have come back one after the other. -/
theorem Pair.ends (h : Pair s g q s' w k k' b b' j j') {fuel : Nat}
    (hdrain : w.drain = u'.drainAux fuel) (hserved : w.Served j returned u)
    (hserved' : u.Served j' returned' u') (hdone : u'.Queued (s.graph g).options.pool [])
    (hresult : jobResult j (w.resource j.resource).level returned = some (program, r))
    (hresult' : jobResult j' (u.resource j'.resource).level returned' = some (program', r')) :
    s'.Queued (s.graph g).options.pool [] ∧ s'.cache = u'.cache ∧
      (s'.resource j.resource).state = (if r.success then .compiled else .failed) ∧
      (r.success = true → (s'.resource j.resource).program = program) ∧
      (s'.resource j'.resource).state = (if r'.success then .compiled else .failed) ∧
      (r'.success = true → (s'.resource j'.resource).program = program') := by
  obtain ⟨hj, hj'⟩ := h.mem
  have hsettled := hserved.settled h.batch hj h.steady h.size (h.awaits j hj) hresult
  have hsettled' := hserved'.settled h.batch hj' (h.steady.trans hserved.steady)
    (hsettled.size.trans h.size)
    ((h.batch.awaits_settled hsettled hj hj').2 ⟨h.awaits j' hj', h.ne⟩) hresult'
  have hend : s' = u'.finishUpdate g (preparedPlan g q) := by
    rw [h.update, hdrain, hdone.done]
  have hmachine := SameMachine.finishUpdate u' g (preparedPlan g q)
  have hresource : ∀ i, s'.resource i = u'.resource i := fun i => by
    rw [hend, Session.resource, Session.resource, (finishUpdate_fields u' g _).1]
  have hfirst : s'.resource j.resource = u.resource j.resource := by
    rw [hresource, hsettled'.others _ (h.batch.ne_resource hj' hj h.ne.symm)]
  rw [hfirst, hresource, hsettled.mine, hsettled'.mine]
  refine ⟨?_, by rw [hend, hmachine.cache], rfl, fun hsuccess => if_pos hsuccess, rfl,
    fun hsuccess => if_pos hsuccess⟩
  rw [hend]
  exact hdone.of_eq hmachine.pools hmachine.held hmachine.cache

end

/-- **After the first update** the first kernel has failed and the second one is compiled, and its
    program is in the cache. -/
theorem Rivals.first (h : Rivals s g k k' b b' p) (hu : Updated s g t q others calls s' x)
    (hrun : Run H s) (hg : g < s.graphs.size) (haccepts : s.accepts g = true)
    (hqueued : s.Queued (s.graph g).options.pool [])
    (hmiss : s.cache.programs.value? ⟨(s.graph g).options.format, b.hashKey⟩ = none)
    (hempty : s.owned? g k = none) (hempty' : s.owned? g k' = none) :
    s'.Queued (s.graph g).options.pool [] ∧
      s'.cache.programs.value? ⟨(s.graph g).options.format, b.hashKey⟩ = some p ∧
      (∃ r, s'.owned? g k = some r ∧ (s'.resource r).state = .failed) ∧
      ∃ r, s'.owned? g k' = some r ∧ (s'.resource r).state = .compiled := by
  obtain ⟨w, j, j', hw⟩ := hu.pair hrun hg haccepts hqueued h.builds hempty hempty'
  obtain ⟨hj, hj'⟩ := hw.mem
  have hkey := hw.jobKey_eq
  have hkey' := hw.jobKey_eq_jobKey h.key
  have hwaiting := hw.queued
  rw [hw.jobs] at hwaiting
  obtain ⟨fuel, hdrain⟩ := hwaiting.drain_eq
  -- the first job fails
  obtain ⟨e, hfails, hcancelled⟩ := h.fails j (hw.batch.graph j hj) (hw.format j hj) hw.build
  obtain ⟨u, hstep, hserved, hrest, hvalue⟩ := hwaiting.compile
    (by rw [hw.programs, hkey]; exact hmiss) ((congrArg Prod.fst (hw.compiles j)).trans hfails)
    (fuel + 3)
  obtain ⟨r, hresult, hfailure⟩ : ∃ r, jobResult j (w.resource j.resource).level (led (.error e)) =
      some (none, r) ∧ r.success = false := by
    simp only [jobResult, led, hcancelled, Bool.false_eq_true, if_false]
    exact ⟨_, rfl, rfl⟩
  -- and the second one does not
  have hcompiles : (u.compileJob j').1 = .ok p := by
    rw [hserved.steady.compileJob, hw.compiles]
    exact h.compiles j' (hw.batch.graph j' hj') (hw.format j' hj') hw.build'
  obtain ⟨u', hstep', hserved', hdone, hvalue'⟩ :=
    hrest.compile (by rw [hkey']; exact hvalue) hcompiles fuel
  obtain ⟨hqueued', hcache, hstate, _, hstate', _⟩ := hw.ends (hdrain.trans (hstep.trans hstep'))
    hserved hserved' hdone hresult rfl
  refine ⟨hqueued', ?_, ⟨_, hw.slot, ?_⟩, ⟨_, hw.slot', hstate'⟩⟩
  · rw [hcache, ← hkey, ← hkey']
    exact hvalue'
  · rw [hstate, hfailure]
    rfl

/-- **The second kernel is not compiled** if the first one has its key and is: it gets the program
    of the first one, and the proxy shows it for both. -/
theorem Updated.shares (hu : Updated s g t q others calls s' x) (hrun : Run H s)
    (hg : g < s.graphs.size) (haccepts : s.accepts g = true)
    (hlevel : (s.graph g).options.level.isValid = true)
    (hqueued : s.Queued (s.graph g).options.pool [])
    (hbuilds : s.updateBuilds g = [(k, .ok b), (k', .ok b')]) (hkey : b'.hashKey = b.hashKey)
    (hcompiles : ∀ j : Job, j.graph = g → j.format = (s.graph g).options.format → j.build = b →
      (s.compileJob j).1 = .ok p)
    (hmiss : s.cache.programs.value? ⟨(s.graph g).options.format, b.hashKey⟩ = none)
    (hempty : s.owned? g k = none) (hempty' : s.owned? g k' = none) :
    ∀ v ∈ x.invocations, v.program = some p := by
  obtain ⟨w, j, j', hw⟩ := hu.pair hrun hg haccepts hqueued hbuilds hempty hempty'
  obtain ⟨hj, _⟩ := hw.mem
  have hwaiting := hw.queued
  rw [hw.jobs] at hwaiting
  obtain ⟨fuel, hdrain⟩ := hwaiting.drain_eq
  obtain ⟨u, hstep, hserved, hrest, hvalue⟩ := hwaiting.compile
    (by rw [hw.programs, hw.jobKey_eq]; exact hmiss) ((congrArg Prod.fst (hw.compiles j)).trans
      (hcompiles j (hw.batch.graph j hj) (hw.format j hj) hw.build)) (fuel + 3)
  obtain ⟨u', hstep', hserved', hdone⟩ :=
    hrest.cached (by rw [hw.jobKey_eq_jobKey hkey]; exact hvalue) (fuel + 1)
  obtain ⟨_, _, _, hprogram, _, hprogram'⟩ := hw.ends (hdrain.trans (hstep.trans hstep')) hserved
    hserved' hdone rfl rfl
  intro v hv
  have hk : v.kernel ∈ [k, k'] := by
    have hmem : v.kernel ∈ (s.graph g).definition.compilable.map Prod.fst := by
      rw [← hu.map_kernel]
      exact List.mem_map_of_mem hv
    rwa [← map_fst_updateBuilds, hbuilds] at hmem
  rw [hu.program hrun hg haccepts hlevel hv, slotProgram]
  rcases List.mem_pair.1 hk with heq | heq
  · rw [heq, hw.slot]
    exact hprogram rfl
  · rw [heq, hw.slot']
    exact hprogram' rfl

/-- **The next update** shows the program of the second kernel for the first one. -/
theorem Rivals.adopts (h : Rivals s g k k' b b' p) (hrun : Run H s) (hg : g < s.graphs.size)
    (haccepts : s.accepts g = true) (hqueued : s.Queued (s.graph g).options.pool [])
    (hmiss : s.cache.programs.value? ⟨(s.graph g).options.format, b.hashKey⟩ = none)
    (hempty : s.owned? g k = none) (hempty' : s.owned? g k' = none) :
    ∃ s₁ s₂ r, s.update g true = (.ok (), s₁) ∧ s₁.update g true = (.ok (), s₂) ∧
      s₁.owned? g k = some r ∧ (s₁.resource r).state = .failed ∧
      (s₂.resource r).state = .compiled ∧ (s₂.resource r).program = some p := by
  have hkernels : (s.updateBuilds g).map Prod.fst = [k, k'] := by
    rw [h.builds]
    rfl
  have hmem : (k, .ok b) ∈ s.updateBuilds g := by
    rw [h.builds]
    exact List.mem_cons_self ..
  have hmem' : (k', .ok b') ∈ s.updateBuilds g := by
    rw [h.builds]
    exact List.mem_cons_of_mem _ (List.mem_singleton_self _)
  obtain ⟨t, q, others, calls, s₁, x, hu⟩ := hrun.updated hg haccepts hqueued.lt_size
    hqueued.held (fun i e hi => by
      rw [h.builds] at hi
      simp at hi)
  obtain ⟨hqueued₁, hfound, ⟨r, hr, hfailed⟩, ⟨r', hr', hcompiled⟩⟩ :=
    h.first hu hrun hg haccepts hqueued hmiss hempty hempty'
  -- the second update builds the same
  have hfree := free_of_accepts haccepts
  have he := hu.edited hfree
  have haccepts₁ := hu.accepts (hrun.serving hg hfree hu.update).free haccepts
  obtain ⟨H₁, hrun₁⟩ := (he.later₀ hg).run hrun
  obtain ⟨hg₁, hoptions, _⟩ := he.same_graph hrun hg
  obtain ⟨_, hreachable⟩ := hrun₁.reachable
  have hs₁ := hreachable.orderly.holdings
  have hbuilt : ∀ {i c}, (i, .ok c) ∈ s.updateBuilds g → (i, .ok c) ∈ s₁.updateBuilds g := by
    intro i c hi
    have hsource := Graph.isSome_source? (mem_compilable_of_updateBuilds hi)
    obtain ⟨_, built, _, hbuilt, _⟩ := he.builds hrun hg (.refl _ _ _) (.refl _ i) hsource
    have halike := he.alike hrun hg (.refl _ _ _) (.refl _ i) hsource hi hbuilt
    rwa [halike.symm.ok rfl] at hbuilt
  have hkernels₁ : (s₁.updateBuilds g).map Prod.fst = [k, k'] := by
    rw [map_fst_updateBuilds, hu.kept.1, ← map_fst_updateBuilds, hkernels]
  obtain ⟨t₂, q₂, others₂, calls₂, s₂, x₂, hu₂⟩ := hrun₁.updated hg₁ haccepts₁
    (by rw [hoptions]; exact hqueued₁.lt_size) hqueued₁.held (he.declared hrun hg (.refl _ _ _))
  obtain ⟨w, hw⟩ := hu₂.submits hrun₁ hg₁ haccepts₁ (by rw [hoptions]; exact hqueued₁)
  -- it compiles the first kernel again, but not the second one
  obtain ⟨j, hj, hkernel, hbuild, _, hsame⟩ := hu₂.begins hs₁ hg₁ (hbuilt hmem) (by
    rintro ⟨r₀, hr₀, hreuse⟩
    cases hr.symm.trans hr₀
    rw [(Resource.isReusable_iff.1 hreuse).1] at hfailed
    cases hfailed)
  obtain ⟨b₀, hb₀, hreuses⟩ :=
    hrun.reuses hg hfree he.update he.later he.generation hmem' hr' hcompiled
  cases hb₀
  have hjobs : updateJobs g q₂ = [j] := by
    rcases hu₂.jobs hg₁ hkernels₁ hj hkernel with hone | ⟨j', hkernel', htwo⟩
    · exact hone
    · refine absurd hkernel' (hu₂.spares hs₁ hg₁ (hbuilt hmem') hreuses ?_)
      rw [htwo]
      exact List.mem_cons_of_mem _ (List.mem_singleton_self j')
  -- the program of the second one is under its key
  have hkey : jobKey j = ⟨(s.graph g).options.format, b.hashKey⟩ := by
    rw [jobKey, hw.format j hj, hoptions, hbuild]
  have hwaiting := hw.queued
  rw [hjobs] at hwaiting
  obtain ⟨fuel, hdrain⟩ := hwaiting.drain_eq
  obtain ⟨u, hstep, hserved, hdone⟩ :=
    hwaiting.cached (by rw [hw.programs, hkey]; exact hfound) (fuel + 4)
  have hsettled := hserved.settled hw.batch hj hw.steady hw.size (hw.awaits j hj) rfl
  have hresource : s₂.resource r = u.resource j.resource := by
    rw [hw.update, hdrain, hstep, hdone.done, hsame r hr, Session.resource, Session.resource,
      (finishUpdate_fields u g _).1]
  refine ⟨s₁, s₂, r, hu.update, hu₂.update, hr, hfailed, ?_, ?_⟩
  · rw [hresource, hsettled.mine]
    rfl
  · rw [hresource, hsettled.mine]
    rfl

end

/-- Jobs of the graph with two kernels are compiled by the scripted compiler. -/
theorem compileJob_pairStart {a b : String} {failingEntries : List String} {j : Job}
    (hgraph : j.graph = 0) (hformat : j.format = "mock") :
    (pairStart a b failingEntries).compileJob j =
      Program.compile (Script.compiler { format := "mock", failingEntries }) false
        (j.build.request (wrapperFiles.resolver 0)) j.build.hashKey
          (some j.build.permutations) := by
  unfold Session.compileJob
  rw [hformat, hgraph]
  rfl

/-- Its kernels have one key, but the entry point of the first one fails. -/
theorem exists_rivals_pairStart : ∃ p, Rivals (pairStart "Other" "Main" ["Other"]) 0 0 1
    (pairBuild "Other" "Main" 0 (entrySource "Other"))
    (pairBuild "Other" "Main" 1 (entrySource "Main")) p := by
  have hunit : ((pairBuild "Other" "Main" 1 (entrySource "Main")).unit?
      (wrapperFiles.resolver 0) 0).isSome := by
    -- a graph with one kernel builds the same unit
    have hparts : KernelBuild.SameParts (pairBuild "Other" "Main" 1 (entrySource "Main"))
        (entryBuild "Main") := ⟨rfl, rfl, rfl, rfl, rfl⟩
    rw [(hparts.unit?_eq_iff rfl rfl).2 (Or.inl rfl) 0]
    exact isSome_unit?_entryBuild
  obtain ⟨p, hp⟩ := Script.exists_compile (c := { format := "mock", failingEntries := ["Other"] })
    rfl rfl rfl rfl rfl hunit
  refine ⟨p, updateBuilds_pairStart .., (hashKey_pairBuild ..).symm,
    fun j hgraph hformat hbuild => ?_, fun j hgraph hformat hbuild => ?_⟩
  · rw [compileJob_pairStart hgraph hformat, hbuild]
    exact Script.exists_failure rfl rfl rfl
  · rw [compileJob_pairStart hgraph hformat, hbuild, hp]

/-- **Synchronous updates are not always idempotent**: a kernel that has failed can be compiled by
    the next update, although nothing was edited. -/
theorem not_update_again : ¬ ∀ (H : List Started) (s s₁ : Session) (g : Nat), Run H s →
    g < s.graphs.size → s.accepts g = true → (s.graph g).options.pool < s.pools.size →
    s.held = false → s.update g true = (.ok (), s₁) → ∃ s₂, Repeats g s₁ s₁ s₂ := by
  intro h
  have hrun : Run [] (pairStart "Other" "Main" ["Other"]) :=
    .step (.addGraph (pairGraph "Other" "Main") entryOptions) .addGraph
      (.start reachable_wrapperFiles _ _)
  have haccepts : (pairStart "Other" "Main" ["Other"]).accepts 0 = true := by decide
  have hqueued : (pairStart "Other" "Main" ["Other"]).Queued 0 [] :=
    ⟨⟨[], alone_of_pools rfl, List.nodup_nil, rfl⟩, rfl, ProgramCache.idle_empty 0⟩
  have hmiss : ∀ key, (pairStart "Other" "Main" ["Other"]).cache.programs.value? key = none := by
    intro key
    rw [Lru.value?, Option.map_eq_none_iff]
    exact Std.HashMap.getElem?_empty
  obtain ⟨p, hrivals⟩ := exists_rivals_pairStart
  obtain ⟨s₁, s₂, r, hfirst, hsecond, hr, hfailed, hcompiled, _⟩ := hrivals.adopts hrun
    Nat.zero_lt_one haccepts hqueued (hmiss _) rfl rfl
  obtain ⟨s₃, hrepeats⟩ :=
    h [] _ s₁ 0 hrun Nat.zero_lt_one haccepts (by decide) rfl hfirst
  have hsame := hrepeats.update
  rw [hsecond] at hsame
  cases hsame
  obtain ⟨_, _, hstays⟩ := hrepeats.kernels
  have hstate := (hstays 0 r hr (by rw [hfailed]; simp)).state
  rw [hcompiled, hfailed] at hstate
  cases hstate

end KernelGraph.Session
