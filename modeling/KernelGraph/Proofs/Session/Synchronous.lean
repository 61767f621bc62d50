/-
  Synchronous updates.

  An update that waits for its compiles finds idle workers once it has taken the compiles of its
  graph away.  It prepares every kernel, reports those that could not be built and submits the
  others as one batch.  So it returns with nothing outstanding, it has published its plan, and every
  kernel was reused, has failed or was compiled: one of the three, and the hook was told of the last
  two once.
-/
import KernelGraph.Interface.Template
import KernelGraph.Proofs.Session.Batch

namespace KernelGraph

/-- Giving the task up does not change whether a program can be reused. -/
theorem Resource.isReusable_takeTask (x : Resource) (key : String) :
    x.takeTask.2.isReusable key = x.isReusable key := by
  cases ht : x.task with
  | none => simp only [Resource.takeTask, ht]
  | some id =>
    simp only [Resource.takeTask, ht, Resource.isReusable]
    cases hstate : x.state with
    | compiling => rfl
    | uncompiled => rfl
    | compiled => rfl
    | failed => rfl
    | invalidated => rfl

namespace Session

/-! ## Reporting failures -/

section
variable {s : Session} {g k r : Nat}

/-- The hook call that reports a kernel. -/
def failureCall (s : Session) (g k : Nat) : Option HookCall :=
  (s.resource? g k).map fun r => ⟨g, k, (s.resource r).result⟩

theorem reportFailure_eq (s : Session) (g k : Nat) : ∃ metrics log fatals,
    s.reportFailure g k =
      { s with metrics, log, fatals, hooks := s.hooks ++ (s.failureCall g k).toList } := by
  unfold Session.reportFailure failureCall
  dsimp only
  rw [← resource?_natCast]
  cases s.resource? g k with
  | none =>
    refine ⟨s.metrics, s.log, s.fatals, ?_⟩
    rw [Option.map_none, Option.toList_none, List.append_nil]
  | some r =>
    dsimp only
    unfold Session.compileFailed
    split
    · exact ⟨_, _, _, rfl⟩
    · exact ⟨_, _, _, rfl⟩

theorem filterMap_failureCall_cons (s : Session) (g i : Nat) (failed : List Nat) :
    (i :: failed).filterMap (s.failureCall g) =
      (s.failureCall g i).toList ++ failed.filterMap (s.failureCall g) := by
  rw [List.filterMap_cons]
  cases s.failureCall g i with
  | none => rfl
  | some c => rfl

/-- Kernels are reported one after the other. -/
theorem foldl_reportFailure_eq (g : Nat) (failed : List Nat) (s : Session) :
    ∃ metrics log fatals, failed.foldl (fun s k => s.reportFailure g k) s =
      { s with metrics, log, fatals, hooks := s.hooks ++ failed.filterMap (s.failureCall g) } := by
  induction failed generalizing s with
  | nil => exact ⟨s.metrics, s.log, s.fatals, by rw [List.filterMap_nil, List.append_nil]; rfl⟩
  | cons k failed ih =>
    obtain ⟨metrics, log, fatals, heq⟩ := reportFailure_eq s g k
    obtain ⟨metrics', log', fatals', hrest⟩ := ih (s.reportFailure g k)
    refine ⟨metrics', log', fatals', ?_⟩
    -- the slots and what they hold stay, so that the calls are those of the session before
    have hcalls : (s.reportFailure g k).failureCall g = s.failureCall g := by
      rw [heq]
      rfl
    rw [List.foldl_cons, hrest, hcalls, filterMap_failureCall_cons, ← List.append_assoc, heq]

theorem hookResults_toList_failureCall_of_ne {i : Nat} (h : i ≠ k) :
    hookResults (s.failureCall g i).toList g k = [] := by
  refine hookResults_eq_nil fun c hc _ => ?_
  obtain ⟨r, _, rfl⟩ := Option.map_eq_some_iff.1 (Option.mem_toList.1 hc)
  exact h

/-- The hook is not told of the kernels that have not failed to build, -/
theorem hookResults_failureCalls_of_not_mem {failed : List Nat} (hk : k ∉ failed) :
    hookResults (failed.filterMap (s.failureCall g)) g k = [] := by
  induction failed with
  | nil => rfl
  | cons i failed ih =>
    rw [List.mem_cons, not_or] at hk
    rw [filterMap_failureCall_cons, hookResults_append,
      hookResults_toList_failureCall_of_ne (Ne.symm hk.1), ih hk.2]
    rfl

/-- and once of each that has. -/
theorem hookResults_failureCalls {failed : List Nat} (hnodup : failed.Nodup) (hk : k ∈ failed)
    (hfound : s.resource? g k = some r) :
    hookResults (failed.filterMap (s.failureCall g)) g k = [(s.resource r).result] := by
  induction failed with
  | nil => cases hk
  | cons i failed ih =>
    obtain ⟨hi, hnodup⟩ := List.nodup_cons.1 hnodup
    rw [filterMap_failureCall_cons, hookResults_append]
    rcases List.mem_cons.1 hk with rfl | hk
    · rw [hookResults_failureCalls_of_not_mem hi, List.append_nil, failureCall, hfound]
      exact hookResults_self g k _
    · have hne : i ≠ k := fun heq => hi (heq ▸ hk)
      rw [hookResults_toList_failureCall_of_ne hne, ih hnodup hk]
      rfl

end

/-! ## Submitting what was prepared -/

section
variable {H : List Started} {s t : Session} {g : Nat} {d : Dialect} {q : Prepared}

/-- An update that has prepared its kernels has reported those that failed, and is about to submit
    the others. -/
def ready (g : Nat) (q : Prepared) : Session :=
  let notes := q.failed.flatMap fun (k : Nat) => (q.session.graph g).definition.layoutNotes k
  q.failed.foldl (fun s k => s.reportFailure g k)
    ((q.session.note notes).setPending g (q.jobs.map Prod.fst))

/-- The jobs that it submits. -/
def updateJobs (g : Nat) (q : Prepared) : List Job := preparedJobs g q (preparedPlan g q)

theorem map_kernel_updateJobs (g : Nat) (q : Prepared) :
    (updateJobs g q).map Job.kernel = q.jobs.map Prod.fst := by
  rw [updateJobs, preparedJobs, List.map_map]
  rfl

theorem ready_eq (g : Nat) (q : Prepared) : ∃ metrics log fatals, ready g q =
    { q.session.modifyGraph g fun x => { x with pending := q.jobs.map Prod.fst } with
      metrics, log, fatals
      hooks := q.session.hooks ++ q.failed.filterMap (q.session.failureCall g) } := by
  let notes := q.failed.flatMap fun (k : Nat) => (q.session.graph g).definition.layoutNotes k
  obtain ⟨metrics, log, fatals, heq⟩ := foldl_reportFailure_eq g q.failed
    ((q.session.note notes).setPending g (q.jobs.map Prod.fst))
  refine ⟨metrics, log, fatals, ?_⟩
  have hfound : ∀ k : Nat, ((q.session.note notes).setPending g
      (q.jobs.map Prod.fst)).resource? g k = q.session.resource? g k := by
    intro k
    have hsteady : GraphSteady (q.session.graph g)
        (((q.session.note notes).setPending g (q.jobs.map Prod.fst)).graph g) :=
      (Steady.modifyGraph q.session g (f := fun x => { x with pending := q.jobs.map Prod.fst })
        fun _ => ⟨rfl, rfl, rfl, rfl, rfl, rfl, rfl⟩).graph g
    rw [resource?_natCast, resource?_natCast, hsteady.sets, hsteady.options]
    rfl
  have hcalls : ((q.session.note notes).setPending g (q.jobs.map Prod.fst)).failureCall g =
      q.session.failureCall g := by
    funext k
    unfold failureCall
    rw [hfound]
    rfl
  rw [hcalls] at heq
  exact heq

theorem steady_ready (g : Nat) (q : Prepared) : q.session.Steady (ready g q) := by
  obtain ⟨_, _, _, heq⟩ := ready_eq g q
  rw [heq]
  exact (Steady.modifyGraph q.session g (f := fun x => { x with pending := q.jobs.map Prod.fst })
    fun _ => ⟨rfl, rfl, rfl, rfl, rfl, rfl, rfl⟩).trans (.of_eq rfl rfl rfl rfl rfl)

theorem Steady.submitJobs (s : Session) (sync : Bool) (jobs : List Job) :
    s.Steady (s.submitJobs sync jobs) :=
  keeps_foldl jobs (fun u hu j => keeps_ite ((hu.trans (.submit u j)).trans (.drain _))
    (hu.trans (.submit u j))) (.refl s)

/-- An update submits what it has prepared, waits if it is synchronous, and publishes. -/
theorem startGeneration_eq (sync : Bool)
    (hq : prepareKernels g d ((s.resizeSets g).graph g).definition.compilable
      { session := s.resizeSets g } = (.ok q, q.session)) :
    s.startGeneration g d sync = (.ok (), Session.finishUpdate
      (if sync then ((ready g q).submitJobs sync (updateJobs g q)).drain
        else (ready g q).submitJobs sync (updateJobs g q)) g (preparedPlan g q)) := by
  unfold Session.startGeneration
  extract_lets resized
  split
  · rename_i heq
    cases hq.symm.trans heq
  · rename_i heq
    cases hq.symm.trans heq
    rfl

theorem startGeneration_of_prepared
    (hq : prepareKernels g d ((s.resizeSets g).graph g).definition.compilable
      { session := s.resizeSets g } = (.ok q, q.session)) :
    s.startGeneration g d true =
      (.ok (), (((ready g q).submitJobs true (updateJobs g q)).drain).finishUpdate g
        (preparedPlan g q)) :=
  startGeneration_eq true hq

theorem startGeneration_of_error {sync : Bool} {e : GraphError} {s' : Session}
    (hq : prepareKernels g d ((s.resizeSets g).graph g).definition.compilable
      { session := s.resizeSets g } = (.error e, s')) :
    s.startGeneration g d sync = (.error e, s'.lock g) := by
  unfold Session.startGeneration
  dsimp only
  rw [hq]

/-- Matching the sets to the kernels changes only the resources of removed kernels. -/
theorem resizeSets_fields (hs : s.Holdings) (g : Nat) :
    s.Undisturbed (s.resizeSets g) ∧ (s.resizeSets g).files = s.files ∧
      (s.resizeSets g).graphs.size = s.graphs.size ∧ (s.resizeSets g).tasks = s.tasks ∧
      (s.resizeSets g).pools = s.pools ∧ (s.resizeSets g).hooks = s.hooks ∧
      (s.resizeSets g).proxies = s.proxies := by
  have hprogram : ∀ i, ((s.resizeSets g).resource i).program = (s.resource i).program := by
    intro i
    have hresource := resource_foldl_invalidate (s.removedResources g) s i
    rw [resizeSets_eq hs]
    refine (congrArg Resource.program hresource).trans ?_
    split
    · rfl
    · rfl
  rw [resizeSets_eq hs, foldl_invalidate] at hprogram ⊢
  exact ⟨⟨hprogram, rfl, rfl, rfl⟩, rfl, Array.size_modify, rfl, rfl, rfl, rfl⟩

/-- What the kernels of a graph are built as, one after the other. -/
def graphBuilds (s : Session) (g : Nat) (d : Dialect) :
    List (Nat × Except GraphError KernelBuild) :=
  let x := s.graph g
  x.definition.buildAll x.options.registry d x.options.format x.definition.compilable s.files

/-- What an update has prepared since the session `t`, in which it found its graph. -/
structure Launches (t : Session) (g : Nat) (d : Dialect) (q : Prepared) : Prop where
  preparation : Preparation g (t.resizeSets g) [] q
  begun : Begun g (t.resizeSets g) q
  built : ∀ x ∈ q.jobs, (x.1, .ok x.2.2.2.2) ∈ (t.resizeSets g).graphBuilds g d

theorem launches_of_prepared (ht : t.Holdings) (hg : g < t.graphs.size)
    (hq : prepareKernels g d ((t.resizeSets g).graph g).definition.compilable
      { session := t.resizeSets g } = (.ok q, q.session)) : Launches t g d q := by
  have hstart := Preparation.resizeSets ht hg
  obtain ⟨_, _, hprepared⟩ := hstart.prepareKernels (d := d)
  obtain ⟨_, hbegun⟩ := hstart.begunAll (d := d) (begun_start g _)
  refine ⟨(hprepared q (by rw [hq])).2, hbegun q (by rw [hq]), fun x hx => ?_⟩
  rcases hstart.mem_buildAll (by rw [hq]) hx with hmem | hmem
  · cases hmem
  · exact hmem

theorem Cleared.lt_size (ht : Cleared s g t) (hg : g < s.graphs.size) : g < t.graphs.size := by
  rw [ht.steady.graphs]
  exact Nat.lt_of_lt_of_eq hg Array.size_modify.symm

/-- The graph has a new number and new sets. -/
theorem Launches.graph (h : Launches t g d q) (ht : Cleared s g t) : ∃ sets, q.session.graph g =
    { s.graph g with generation := (s.graph g).generation + 1, sets } := by
  rw [h.preparation.renews.graph, graph_resizeSets_eq ht.holdings, ht.graph]
  exact ⟨_, rfl⟩

theorem Launches.options (h : Launches t g d q) (ht : Cleared s g t) :
    (q.session.graph g).options = (s.graph g).options := by
  obtain ⟨_, hgraph⟩ := h.graph ht
  rw [hgraph]

/-- While it prepared its kernels nobody was told anything about its graph. -/
theorem Launches.hooks (h : Launches t g d q) (ht : Cleared s g t) : ∃ others,
    q.session.hooks = s.hooks ++ others ∧ ∀ c ∈ others, c.graph ≠ g := by
  obtain ⟨others, hothers, helsewhere⟩ := ht.hooks
  obtain ⟨_, _, _, _, _, hresized, _⟩ := resizeSets_fields ht.holdings g
  refine ⟨others, ?_, helsewhere⟩
  rw [h.preparation.renews.hooks, hresized, hothers]

theorem Launches.graph_ready (h : Launches t g d q) (hg : g < t.graphs.size) (ht : t.Holdings) :
    (ready g q).graph g = { q.session.graph g with pending := q.jobs.map Prod.fst } := by
  obtain ⟨_, _, _, heq⟩ := ready_eq g q
  have hsize : g < q.session.graphs.size := by
    rw [h.preparation.renews.size, (resizeSets_fields ht g).2.2.1]
    exact hg
  have hgraph := graph_modifyGraph q.session g
    (fun x => { x with pending := q.jobs.map Prod.fst }) g
  rw [if_pos ⟨rfl, hsize⟩] at hgraph
  rw [heq]
  exact hgraph

/-- The workers have done nothing while the kernels were prepared. -/
theorem Launches.machine (h : Launches t g d q) (ht : t.Holdings) :
    (ready g q).tasks = t.tasks ∧ (ready g q).pools = t.pools ∧ (ready g q).cache = t.cache ∧
      (ready g q).held = t.held := by
  obtain ⟨hresized, _, _, htasks, hpools, _, _⟩ := resizeSets_fields ht g
  have hall := hresized.trans h.begun.toUndisturbed
  obtain ⟨_, _, _, heq⟩ := ready_eq g q
  rw [heq]
  exact ⟨h.preparation.renews.tasks.trans htasks, h.preparation.renews.pools.trans hpools,
    hall.cache, hall.held⟩

/-- **What an update submits** is a batch. -/
theorem Launches.batch (h : Launches t g d q) (ht : Cleared s g t) (hg : g < s.graphs.size)
    (haccepts : s.accepts g = true) (hheld : s.held = false)
    (hpublished : (s.graph g).published ≤ (s.graph g).generation) :
    Batch (ready g q) g (preparedPlan g q) (updateJobs g q) := by
  have hgt := ht.lt_size hg
  obtain ⟨sets, hgraph⟩ := h.graph ht
  have hready := h.graph_ready hgt ht.holdings
  obtain ⟨hresized, _, hsize, _⟩ := resizeSets_fields ht.holdings g
  have hall := hresized.trans h.begun.toUndisturbed
  obtain ⟨_, _, _, heq⟩ := ready_eq g q
  obtain ⟨htasks, hpools, hcache, hheld'⟩ := h.machine ht.holdings
  have hscripts : (ready g q).scripts = s.scripts := by
    rw [heq]
    exact hall.scripts.trans ht.steady.scripts
  have hmem : ∀ j ∈ updateJobs g q, ∃ x ∈ q.jobs, j =
      { graph := g, kernel := x.1, name := x.2.1, isDefault := x.2.2.1, resource := x.2.2.2.1
        build := x.2.2.2.2, format := (q.session.graph g).options.format
        kind := .runtime (q.session.graph g).generation (preparedPlan g q) } := by
    intro j hj
    obtain ⟨x, hx, rfl⟩ := List.mem_map.1 hj
    exact ⟨x, hx, rfl⟩
  have hkernels := map_kernel_updateJobs g q
  have howns : ∀ j ∈ updateJobs g q, q.session.Owns g j.kernel j.resource := by
    intro j hj
    obtain ⟨x, hx, rfl⟩ := hmem j hj
    exact h.preparation.owned x hx
  have hresource : ∀ r, (ready g q).resource r = q.session.resource r := fun r => by
    rw [heq]
    rfl
  have hnodup : (q.jobs.map Prod.fst).Nodup :=
    (List.nodup_append.1 (List.nodup_append.1 h.preparation.apart).1).2.1
  exact
    { exists_graph := by
        rw [heq]
        refine Nat.lt_of_lt_of_eq ?_ Array.size_modify.symm
        rw [h.preparation.renews.size, hsize]
        exact hgt
      graph := fun j hj => by
        obtain ⟨x, _, rfl⟩ := hmem j hj
        rfl
      kind := fun j hj => by
        obtain ⟨x, _, rfl⟩ := hmem j hj
        rfl
      format := fun j hj => by
        obtain ⟨x, _, rfl⟩ := hmem j hj
        rw [hready]
      compiler := by
        have hcompiler := compiler?_of_accepts haccepts
        rw [hready, hgraph]
        unfold Session.compiler? Session.script? at hcompiler ⊢
        rw [hscripts]
        exact hcompiler
      kernels := hkernels ▸ hnodup
      resource := fun j hj => by
        rw [heq]
        exact h.preparation.holdings.lt (howns j hj)
      apart := fun j hj j' hj' hr => by
        have ho := howns j hj
        rw [hr] at ho
        exact (h.preparation.holdings.apart ho (howns j' hj')).2
      awaits := fun j hj => by
        obtain ⟨x, hx, rfl⟩ := hmem j hj
        unfold Awaits
        rw [hresource]
        exact ⟨h.begun.generation x hx, h.begun.compiling x hx⟩
      current := by
        rw [hready]
        rfl
      pending := by
        rw [hready, hkernels]
      unpublished := by
        rw [hready, hgraph, preparedPlan, hgraph]
        exact Nat.lt_succ_of_le hpublished
      wired := ht.tidy.wired.of_eq htasks hpools hcache
      held := by
        rw [hheld', ht.steady.held]
        exact hheld
      live := by
        rw [← ht.live, live, live, hpools] }

/-! ## The end of an update -/

/-- An update has ended: all jobs have come back, and the plan is published. -/
structure Completed (g : Nat) (q : Prepared) (calls : List HookCall) (s' : Session)
    (x : RenderProxy) : Prop where
  pending : (s'.graph g).pending = []
  presents : s'.Presents g (preparedPlan g q) q.session.proxies x
  steady : q.session.Steady s'
  live : s'.live = []
  pools : q.session.pools.size ≤ s'.pools.size
  slot : ∀ k, s'.owned? g k = q.session.owned? g k
  hooks : s'.hooks = q.session.hooks ++ q.failed.filterMap (q.session.failureCall g) ++ calls
  kernels : ∀ c ∈ calls, c.kernel ∈ q.jobs.map Prod.fst
  other : ∀ r, (∀ j ∈ updateJobs g q, j.resource ≠ r) → s'.resource r = q.session.resource r
  finished : ∀ j ∈ updateJobs g q, ∃ result, hookResults calls g j.kernel = [result] ∧
    Finished q.session s' (updateJobs g q) j result
  tasks : ∀ id t, s'.tasks[id]? = some t → id < q.session.tasks.size ∨ t.job ∈ updateJobs g q
  programs : s'.cache.programs.Holds fun k p => Stems q.session (updateJobs g q) k (.ok p)

/-- **A batch on an existing pool is completed.** -/
theorem Launches.completed (h : Launches t g d q)
    (hB : Batch (ready g q) g (preparedPlan g q) (updateJobs g q))
    (hpool : (q.session.graph g).options.pool < q.session.pools.size) : ∃ calls x,
      Completed g q calls
        ((((ready g q).submitJobs true (updateJobs g q)).drain).finishUpdate g
          (preparedPlan g q)) x := by
  obtain ⟨metrics, log, fatals, heq⟩ := ready_eq g q
  obtain ⟨calls, hprogress, hlive⟩ := hB.drained
  generalize ((ready g q).submitJobs true (updateJobs g q)).drain = s at hprogress hlive
  have hresource : ∀ r, (ready g q).resource r = q.session.resource r := fun r => by
    rw [heq]
    rfl
  have hsteady := steady_ready g q
  have hcache : q.session.cache = (ready g q).cache := by rw [heq]; rfl
  have hcompiles : ∀ j, q.session.compileJob j = (ready g q).compileJob j :=
    fun j => (hsteady.compileJob j).symm
  have hall : ∀ j ∈ updateJobs g q, ¬ s.Awaits j := by
    intro j hj
    refine hprogress.not_awaits hlive ?_ hj List.not_mem_nil
    rw [(hsteady.graph g).options, heq]
    exact hpool
  have hnil := hprogress.pending_eq_nil_iff.2 hall
  obtain ⟨hresources, hhooks, htasks, hpools⟩ := finishUpdate_fields s g (preparedPlan g q)
  have hend : q.session.Steady (s.finishUpdate g (preparedPlan g q)) :=
    hsteady.trans (hprogress.steady.trans (.finishUpdate s g _))
  have hgraph := hend.graph g
  have hfinal : ∀ r, (s.finishUpdate g (preparedPlan g q)).resource r = s.resource r := fun r => by
    rw [Session.resource, Session.resource, hresources]
  obtain ⟨x, hx⟩ : ∃ x, (s.finishUpdate g (preparedPlan g q)).Presents g (preparedPlan g q)
      (ready g q).proxies x := by
    rcases hprogress.finishUpdate hB with ⟨hne, _⟩ | ⟨_, hpresents⟩
    · exact absurd hnil hne
    · exact hpresents
  refine ⟨calls, x, ?_, ?_, hend, ?_, ?_, fun k => ?_, ?_, ?_, fun r hr => ?_, fun j hj => ?_,
    fun id task htask => ?_, ?_⟩
  · rw [pending_finishUpdate (hprogress.steady.graphs ▸ hB.exists_graph)]
    exact hnil
  · rw [heq] at hx
    exact hx
  · rw [← hlive, Session.live, Session.live, hpools]
  · rw [hpools]
    rw [heq] at hprogress
    exact hprogress.pools
  · refine owned?_eq h.preparation.holdings (by rw [hgraph.sets]) hgraph.options (fun r ho => ?_)
      fun r _ => ?_
    · rw [hresources, hprogress.size, heq]
      exact h.preparation.holdings.lt ho
    · rw [hfinal, hprogress.level, hresource]
  · rw [hhooks, hprogress.hooks, heq]
  · intro c hc
    rw [← map_kernel_updateJobs g q]
    exact (hprogress.kernels c hc).2
  · rw [hfinal, hprogress.other r hr, hresource]
  · obtain ⟨result, hcalls, hfinished⟩ := hprogress.finished j hj (hall j hj)
    refine ⟨result, hcalls, ?_⟩
    cases hfinished with
    | compiled hsuccess hstate hprogram hkey hstems =>
      rw [← hfinal] at hstate hprogram
      exact .compiled hsuccess hstate hprogram hkey (hstems.congr hcache hcompiles)
    | failed hfailure hstate hprogram herror hnegative hstems =>
      rw [← hfinal] at hstate hprogram
      rw [hresource] at hprogram
      exact .failed hfailure hstate hprogram herror hnegative (hstems.congr hcache hcompiles)
  · rw [htasks] at htask
    refine (hprogress.fresh id task htask).imp_left fun hlt => ?_
    rw [heq] at hlt
    exact hlt
  · rw [(SameMachine.finishUpdate s g _).cache]
    exact hprogress.clean.programs.mono fun _ _ h => h.2.congr hcache hcompiles

/-! ## What becomes of the kernels -/

/-- What an update of a graph builds, kernel by kernel. -/
def updateBuilds (s : Session) (g : Nat) : List (Nat × Except GraphError KernelBuild) :=
  s.graphBuilds g (s.dialect g)

/-- The proxy that a graph shows. -/
def proxy? (s : Session) (g : Nat) : Option RenderProxy :=
  (s.graph g).proxy.bind fun i => s.proxies[i]?

theorem Presents.proxy?_eq {plan : Plan} {shown : Array RenderProxy} {x : RenderProxy}
    (h : s.Presents g plan shown x) : s.proxy? g = some x := by
  obtain ⟨i, hi, hx⟩ := h.proxy
  unfold proxy?
  rw [hi]
  exact hx

/-- The kernel has a program of the build already. -/
def Reuses (s : Session) (g k : Nat) (b : KernelBuild) : Prop :=
  ∃ r, s.owned? g k = some r ∧ (s.resource r).isReusable b.hashKey = true

/-- What may become of a kernel in an update. -/
inductive KernelOutcome
  | reused
  | failed
  | compiled
  deriving DecidableEq

/-- An update from `s` to `s'` has called the hook with `calls`, and left the resource `r` of a
    kernel alone: it had the program of the build and has it still, it was not compiled, and nobody
    was told. -/
structure Spared (s s' : Session) (g : Nat) (calls : List HookCall) (b : KernelBuild) (k r : Nat) :
    Prop where
  before : s.owned? g k = some r
  reusable : (s.resource r).isReusable b.hashKey = true
  after : s'.owned? g k = some r
  state : (s'.resource r).state = .compiled
  program : (s'.resource r).program = (s.resource r).program
  untold : hookResults calls g k = []
  unsubmitted : ∀ id t, s'.tasks[id]? = some t → s.tasks.size ≤ id → t.job.kernel ≠ k

/-- An update from `s` to `s'` has called the hook with `calls`.  What it means for a kernel that
    was built as `built` and is shown as `v`. -/
def KernelOutcome.Holds (s s' : Session) (g : Nat) (calls : List HookCall)
    (built : Except GraphError KernelBuild) (v : Invocation) : KernelOutcome → Prop
  /- Its resource had the program of the build.  It was not compiled, nobody was told, and it shows
     the same program. -/
  | .reused => ∃ b r, built = .ok b ∧ Spared s s' g calls b v.kernel r ∧
      v.program = (s.resource r).program
  /- It could not be built, or not be compiled.  It shows what its slot held before. -/
  | .failed => ∃ r result, s'.owned? g v.kernel = some r ∧ (s'.resource r).state = .failed ∧
      v.program = s.slotProgram g v.kernel ∧ hookResults calls g v.kernel = [result] ∧
      result.success = false ∧
      ((∃ e, built = .error e ∧ result.error = some (.build e)) ∨
        ∃ b e, built = .ok b ∧ ¬ s.Reuses g v.kernel b ∧ result.error = some (.program e) ∧
          e ≠ .negativeCount)
  /- It shows the program of the build. -/
  | .compiled => ∃ b r p result, built = .ok b ∧ ¬ s.Reuses g v.kernel b ∧
      s'.owned? g v.kernel = some r ∧ (s'.resource r).state = .compiled ∧ v.program = some p ∧
      p.hashKey = b.hashKey ∧ hookResults calls g v.kernel = [result] ∧ result.success = true

/-- No two outcomes hold: the hook tells them apart. -/
theorem KernelOutcome.Holds.unique {s s' : Session} {calls : List HookCall}
    {built : Except GraphError KernelBuild} {v : Invocation} {o o' : KernelOutcome}
    (h : o.Holds s s' g calls built v) (h' : o'.Holds s s' g calls built v) : o = o' := by
  -- what the hook was told
  have hhook : ∀ {o : KernelOutcome}, o.Holds s s' g calls built v →
      (hookResults calls g v.kernel).map CompileResult.success =
        match o with
        | .reused => []
        | .failed => [false]
        | .compiled => [true] := by
    intro o ho
    cases o with
    | reused =>
      obtain ⟨_, _, _, hspared, _⟩ := ho
      rw [hspared.untold]
      rfl
    | failed =>
      obtain ⟨_, _, _, _, _, hone, hfailure, _⟩ := ho
      rw [hone, List.map_singleton, hfailure]
    | compiled =>
      obtain ⟨_, _, _, _, _, _, _, _, _, _, hone, hsuccess⟩ := ho
      rw [hone, List.map_singleton, hsuccess]
  have heq := (hhook h).symm.trans (hhook h')
  cases o with
  | reused => cases o' with
    | reused => rfl
    | failed => cases heq
    | compiled => cases heq
  | failed => cases o' with
    | reused => cases heq
    | failed => rfl
    | compiled => cases heq
  | compiled => cases o' with
    | reused => cases heq
    | failed => cases heq
    | compiled => rfl

/-- The slots of the graph's kernels are as they were; their resources have lost their tasks. -/
theorem Cleared.owned? (ht : Cleared s g t) (hs : s.Holdings) (hg : g < s.graphs.size) {k : Nat}
    (hk : k < (s.graph g).definition.kernels.length) :
    (t.resizeSets g).owned? g k = s.owned? g k ∧
      ∀ r, s.owned? g k = some r → (t.resizeSets g).resource r = (s.resource r).takeTask.2 := by
  have hgt := ht.lt_size hg
  have hkt : k < (t.graph g).definition.kernels.length := by
    rw [ht.graph]
    exact hk
  have howns : ∀ {r}, s.Owns g k r → t.Owns g k r := by
    intro r ho
    unfold Owns
    rw [ht.graph]
    exact ho
  refine ⟨(owned?_resizeSets ht.holdings hgt hkt).trans ?_, fun r hr => ?_⟩
  · refine owned?_eq hs (by rw [ht.graph]) (by rw [ht.graph])
      (fun r ho => ht.holdings.lt (howns ho)) fun r ho => ?_
    rw [ht.owned ho]
    exact (Resource.Settles.takeTask _).level
  · have ho := owns_of_owned? hr
    rw [resource_resizeSets ht.holdings (howns ho) hkt, ht.owned ho]

theorem Cleared.slotProgram (ht : Cleared s g t) (hs : s.Holdings)
    (hg : g < s.graphs.size) {k : Nat}
    (hk : k < (s.graph g).definition.kernels.length) :
    (t.resizeSets g).slotProgram g k = s.slotProgram g k := by
  obtain ⟨hslot, hresource⟩ := ht.owned? hs hg hk
  unfold Session.slotProgram
  rw [hslot]
  cases hr : s.owned? g k with
  | none => rfl
  | some r =>
    rw [Option.bind_some, Option.bind_some, hresource r hr, Resource.program_takeTask]

theorem Launches.owns_job (hl : Launches t g d q) {j : Job} (hj : j ∈ updateJobs g q) :
    q.session.Owns g j.kernel j.resource := by
  obtain ⟨y, hy, rfl⟩ := List.mem_map.1 hj
  exact hl.preparation.owned y hy

/-- The workers have left a kernel without a job alone. -/
theorem Completed.of_not_mem {s' : Session} {calls : List HookCall} {x : RenderProxy} {k : Nat}
    (hc : Completed g q calls s' x) (hl : Launches t g d q) (hk : k ∉ q.jobs.map Prod.fst) :
    hookResults calls g k = [] ∧
      ∀ r, q.session.owned? g k = some r → s'.resource r = q.session.resource r := by
  refine ⟨hookResults_eq_nil fun c hmem _ heq => hk (heq ▸ hc.kernels c hmem), fun r hr => ?_⟩
  refine hc.other r fun j hj heq => hk ?_
  have howns := hl.owns_job hj
  rw [heq] at howns
  rw [← map_kernel_updateJobs g q, ← (hl.preparation.holdings.apart howns (owns_of_owned? hr)).2]
  exact List.mem_map.2 ⟨j, hj, rfl⟩

/-- What the hook was told of a kernel while the graph was updated. -/
theorem hookResults_update {others failures calls : List HookCall} (k : Nat)
    (hothers : ∀ c ∈ others, c.graph ≠ g) : hookResults (others ++ failures ++ calls) g k =
      hookResults failures g k ++ hookResults calls g k := by
  rw [hookResults_append, hookResults_append,
    hookResults_eq_nil fun c hc hgraph => absurd hgraph (hothers c hc), List.nil_append]

/-- Giving its task up leaves a resource as reusable as it was. -/
theorem Cleared.isReusable (ht : Cleared s g t) (hs : s.Holdings)
    (hg : g < s.graphs.size) {k r : Nat}
    (hk : k < (s.graph g).definition.kernels.length) (hr : s.owned? g k = some r) (key : String) :
    ((t.resizeSets g).resource r).isReusable key = (s.resource r).isReusable key := by
  rw [(ht.owned? hs hg hk).2 r hr, Resource.isReusable_takeTask]

/-- **A kernel that has neither failed nor been begun** is neither reported nor compiled. -/
theorem Completed.quiet {s' : Session} {calls others : List HookCall} {x : RenderProxy} {k : Nat}
    (hc : Completed g q calls s' x) (hl : Launches t g d q)
    (hsize : q.session.tasks.size = s.tasks.size) (hothers : ∀ c ∈ others, c.graph ≠ g)
    (hfailed : k ∉ q.failed) (hjobs : k ∉ q.jobs.map Prod.fst) :
    hookResults (others ++ q.failed.filterMap (q.session.failureCall g) ++ calls) g k = [] ∧
      ∀ id task, s'.tasks[id]? = some task → s.tasks.size ≤ id → task.job.kernel ≠ k := by
  refine ⟨?_, fun id task htask hle heq => ?_⟩
  · rw [hookResults_update _ hothers, hookResults_failureCalls_of_not_mem hfailed,
      (hc.of_not_mem hl hjobs).1]
    rfl
  · rcases hc.tasks id task htask with hlt | hmem
    · omega
    · refine hjobs ?_
      rw [← map_kernel_updateJobs g q, ← heq]
      exact List.mem_map.2 ⟨_, hmem, rfl⟩

/-- **A kernel whose program can be reused is spared.** -/
theorem Readied.spared {s' : Session} {b : KernelBuild} {calls others : List HookCall}
    {x : RenderProxy} {k r : Nat} (h : Readied (t.resizeSets g) g k (.ok b) q)
    (ht : Cleared s g t) (hs : s.Holdings) (hg : g < s.graphs.size)
    (hk : k < (s.graph g).definition.kernels.length) (hl : Launches t g d q)
    (hc : Completed g q calls s' x) (hsize : q.session.tasks.size = s.tasks.size)
    (hothers : ∀ c ∈ others, c.graph ≠ g) (hsr : s.owned? g k = some r)
    (hreuse : (s.resource r).isReusable b.hashKey = true) : Spared s s' g
      (others ++ q.failed.filterMap (q.session.failureCall g) ++ calls) b k r := by
  obtain ⟨hslot, hresource⟩ := ht.owned? hs hg hk
  have hR := hslot.trans hsr
  have hcan := (ht.isReusable hs hg hk hsr b.hashKey).trans hreuse
  cases h with
  | failed hbuilt => cases hbuilt
  | begun hbuilt _ _ hnot =>
    cases hbuilt
    cases hcan.symm.trans (hnot r hR)
  | @reused _ r' hbuilt hr hR' _ hp hfailed hjobs =>
    cases hbuilt
    cases hR.symm.trans hR'
    obtain ⟨hnil, hnone⟩ := hc.quiet hl hsize hothers hfailed hjobs
    have hleft := (hc.of_not_mem hl hjobs).2 r hr
    refine ⟨hsr, hreuse, (hc.slot _).trans hr, ?_, ?_, hnil, hnone⟩
    · rw [hleft, hp]
      exact (Resource.isReusable_iff.1 hcan).1
    · rw [hleft, hp, hresource r hsr, Resource.program_takeTask]

/-- What has become of a kernel since the session `R`, when the update is over that has called the
    hook with `calls`.  The kernel was built as `built` and is shown as `v`. -/
inductive Fate (R : Session) (g : Nat) (q : Prepared) (s' : Session) (calls : List HookCall)
    (v : Invocation) (built : Except GraphError KernelBuild) : Prop
  | failed {e : GraphError} {r : Nat} {result : CompileResult} (hbuilt : built = .error e)
      (hslot : s'.owned? g v.kernel = some r) (hstate : (s'.resource r).state = .failed)
      (hprogram : v.program = R.slotProgram g v.kernel)
      (hresult : hookResults calls g v.kernel = [result]) (hfailure : result.success = false)
      (herror : result.error = some (.build e))
  | reused {b : KernelBuild} {r : Nat} (hbuilt : built = .ok b)
    (hslot : R.owned? g v.kernel = some r)
      (hreuse : (R.resource r).isReusable b.hashKey = true)
  | finished {j : Job} {result : CompileResult} (hbuilt : built = .ok j.build)
      (hj : j ∈ updateJobs g q) (hformat : j.format = (q.session.graph g).options.format)
      (hslot : s'.owned? g v.kernel = some j.resource)
      (hnot : ∀ r, R.owned? g v.kernel = some r → (R.resource r).isReusable j.build.hashKey = false)
      (hresult : hookResults calls g v.kernel = [result])
      (hshown : v.program = (s'.resource j.resource).program)
      (hbefore : (q.session.resource j.resource).program = R.slotProgram g v.kernel)
      (hfinished : Finished q.session s' (updateJobs g q) j result)

/-- **A kernel that was readied** fails at once, is reused or has a job that comes back. -/
theorem Readied.fate {s' : Session} {built : Except GraphError KernelBuild}
    {calls others : List HookCall} {x : RenderProxy} {v : Invocation}
    (h : Readied (t.resizeSets g) g v.kernel built q) (hl : Launches t g d q)
    (hlevel : (q.session.graph g).options.level.isValid = true)
    (hc : Completed g q calls s' x) (hprogram : v.program = s'.slotProgram g v.kernel)
    (hothers : ∀ c ∈ others, c.graph ≠ g) : Fate (t.resizeSets g) g q s'
      (others ++ q.failed.filterMap (q.session.failureCall g) ++ calls) v built := by
  have hresults : hookResults (others ++ q.failed.filterMap (q.session.failureCall g) ++ calls) g
      v.kernel = _ := hookResults_update v.kernel hothers
  have hapart := List.nodup_append.1 (List.nodup_append.1 hl.preparation.apart).1
  have hshown : ∀ {r}, q.session.owned? g v.kernel = some r →
      v.program = (s'.resource r).program := by
    intro r hr
    rw [hprogram, Session.slotProgram, hc.slot, hr]
    rfl
  cases h with
  | @failed e r hbuilt hr hfailed hstate hfailure herror hp =>
    -- it was reported before the jobs were submitted
    have hjobs : v.kernel ∉ q.jobs.map Prod.fst :=
      fun hmem => hapart.2.2 _ hfailed _ hmem rfl
    obtain ⟨hnil, hleft⟩ := hc.of_not_mem hl hjobs
    refine .failed hbuilt ((hc.slot _).trans hr) ?_ ?_ ?_ hfailure herror
    · rw [hleft r hr]
      exact hstate
    · rw [hshown hr, hleft r hr, hp]
    · have hfound : q.session.resource? g v.kernel = some r := by
        rw [hl.preparation.holdings.resource?_eq_owned? _ hlevel, hr]
      rw [hresults, hookResults_failureCalls hapart.1 hfailed hfound, hnil]
      rfl
  | reused hbuilt _ hR hreuse => exact .reused hbuilt hR hreuse
  | @begun b r name isDefault hbuilt hr hjob hnot hp =>
    have hfailed : v.kernel ∉ q.failed :=
      fun hmem => hapart.2.2 _ hmem _ (List.mem_map.2 ⟨_, hjob, rfl⟩) rfl
    obtain ⟨j, hj, hkernel, rfl, rfl, hformat⟩ : ∃ j ∈ updateJobs g q, j.kernel = v.kernel ∧
        j.resource = r ∧ j.build = b ∧ j.format = (q.session.graph g).options.format :=
      ⟨_, List.mem_map.2 ⟨_, hjob, rfl⟩, rfl, rfl, rfl, rfl⟩
    obtain ⟨result, hone, hfinished⟩ := hc.finished j hj
    rw [hkernel] at hone
    refine .finished hbuilt hj hformat ((hc.slot _).trans hr) hnot ?_ (hshown hr) hp hfinished
    rw [hresults, hookResults_failureCalls_of_not_mem hfailed]
    exact hone

/-- **A kernel that was readied has one of the three outcomes.** -/
theorem Readied.outcome {s' : Session} {built : Except GraphError KernelBuild}
    {calls others : List HookCall} {x : RenderProxy} {v : Invocation}
    (h : Readied (t.resizeSets g) g v.kernel built q) (ht : Cleared s g t) (hs : s.Holdings)
    (hg : g < s.graphs.size) (hk : v.kernel < (s.graph g).definition.kernels.length)
    (hlevel : (s.graph g).options.level.isValid = true) (hl : Launches t g d q)
    (hc : Completed g q calls s' x) (hsize : q.session.tasks.size = s.tasks.size)
    (hprogram : v.program = s'.slotProgram g v.kernel) (hothers : ∀ c ∈ others, c.graph ≠ g)
    (hnegative : ¬ Negative (updateJobs g q)) :
    ∃ o : KernelOutcome, o.Holds s s' g
      (others ++ q.failed.filterMap (q.session.failureCall g) ++ calls) built v := by
  obtain ⟨hslot, _⟩ := ht.owned? hs hg hk
  have hsame := ht.slotProgram hs hg hk
  have hlevel' : (q.session.graph g).options.level.isValid = true := by
    rw [hl.options ht]
    exact hlevel
  cases h.fate hl hlevel' hc hprogram hothers with
  | @failed e r result hbuilt hr hstate hp hresult hfailure herror =>
    exact ⟨.failed, r, result, hr, hstate, hp.trans hsame, hresult, hfailure,
      Or.inl ⟨e, hbuilt, herror⟩⟩
  | @reused b r hbuilt hR hreuse =>
    have hsr : s.owned? g v.kernel = some r := hslot.symm.trans hR
    have hreuses := (ht.isReusable hs hg hk hsr b.hashKey).symm.trans hreuse
    subst hbuilt
    have hspared := h.spared ht hs hg hk hl hc hsize hothers hsr hreuses
    refine ⟨.reused, b, r, rfl, hspared, ?_⟩
    rw [hprogram, Session.slotProgram, hspared.after, Option.bind_some, hspared.program]
  | @finished j result hbuilt _ _ hr hreuse hresult hshown hbefore hfinished =>
    have hnot : ¬ s.Reuses g v.kernel j.build := by
      rintro ⟨r', hr', hreuse'⟩
      have hfalse := hreuse r' (hslot.trans hr')
      rw [ht.isReusable hs hg hk hr', hreuse'] at hfalse
      cases hfalse
    cases hfinished with
    | compiled hsuccess hstate hcompiled hkey _ =>
      exact ⟨.compiled, j.build, j.resource, _, result, hbuilt, hnot, hr, hstate,
        hshown.trans hcompiled, hkey, hresult, hsuccess⟩
    | @failed e hfailure hstate hkept herror hneg _ =>
      refine ⟨.failed, j.resource, result, hr, hstate, ?_, hresult, hfailure,
        Or.inr ⟨j.build, e, hbuilt, hnot, herror, fun heq => hnegative (hneg heq)⟩⟩
      rw [hshown, hkept, hbefore, hsame]

/-- An update that is not rejected interrupts the compiles of its graph and starts anew. -/
theorem update_eq_startGeneration (haccepts : s.accepts g = true) (sync : Bool) :
    s.update g sync = (s.interrupt g).startGeneration g (s.dialect g) sync := by
  obtain ⟨c, hc⟩ := Option.isSome_iff_exists.1 (compiler?_of_accepts haccepts)
  have hdialect : (s.graph g).options.dialect.getD c.dialect = s.dialect g := by
    unfold Session.dialect
    dsimp only
    rw [hc]
    cases (s.graph g).options.dialect with
    | none => rfl
    | some d => rfl
  rw [update_of_accepts (validate_of_accepts haccepts) hc (open_of_accepts haccepts) sync, hdialect]
  rfl

/-- Taking the compiles away does not change what is built. -/
theorem graphBuilds_resizeSets (ht : t.Holdings) (hsteady : (s.begun g).Steady t) (d : Dialect) :
    (t.resizeSets g).graphBuilds g d = s.graphBuilds g d := by
  have hfiles : (t.resizeSets g).files = s.files := by
    rw [(resizeSets_fields ht g).2.1, hsteady.files]
    rfl
  have hbegun : ((s.begun g).graph g).definition = (s.graph g).definition ∧
      ((s.begun g).graph g).options = (s.graph g).options := by
    rw [begun, graph_modifyGraph]
    split
    · exact ⟨rfl, rfl⟩
    · exact ⟨rfl, rfl⟩
  unfold Session.graphBuilds
  rw [graph_resizeSets_eq ht, hfiles]
  dsimp only
  rw [(hsteady.graph g).definition, (hsteady.graph g).options, hbegun.1, hbegun.2]

theorem Cleared.graphBuilds (ht : Cleared s g t) (d : Dialect) :
    (t.resizeSets g).graphBuilds g d = s.graphBuilds g d :=
  graphBuilds_resizeSets ht.holdings ht.steady d

/-- **All kernels are readied**, each according to its build. -/
theorem Cleared.readied (ht : Cleared s g t) (hg : g < s.graphs.size)
    (hdeclared : ∀ k e, (k, .error (.undeclared e)) ∉ s.updateBuilds g) :
    ∃ q, prepareKernels g (s.dialect g) ((t.resizeSets g).graph g).definition.compilable
        { session := t.resizeSets g } = (.ok q, q.session) ∧ Launches t g (s.dialect g) q ∧
      (∀ x ∈ s.updateBuilds g, Readied (t.resizeSets g) g x.1 x.2 q) ∧
      ∀ k ∉ (s.graph g).definition.compilable.map Prod.fst,
        Beside g k { session := t.resizeSets g } q := by
  have hgt := ht.lt_size hg
  have hstart := Preparation.resizeSets ht.holdings hgt
  unfold updateBuilds at hdeclared ⊢
  rw [← ht.graphBuilds] at hdeclared ⊢
  obtain ⟨q, hq, hreadied, hbeside⟩ := hstart.readiesAll (d := s.dialect g)
    (fun _ _ => ⟨rfl, fun _ _ => rfl⟩) hdeclared
  refine ⟨q, hq, launches_of_prepared ht.holdings hgt hq, hreadied, fun k hk => hbeside k ?_⟩
  rw [graph_resizeSets_eq ht.holdings, ht.graph]
  exact hk

/-- The builds of the jobs are those of the update. -/
theorem Launches.mem_updateBuilds (hl : Launches t g (s.dialect g) q) (ht : Cleared s g t) {j : Job}
    (hj : j ∈ updateJobs g q) : (j.kernel, .ok j.build) ∈ s.updateBuilds g := by
  obtain ⟨x, hx, rfl⟩ := List.mem_map.1 hj
  rw [updateBuilds, ← ht.graphBuilds]
  exact hl.built x hx

/-- A proxy shows what one finds. -/
theorem Presents.program {s' : Session} {plan : Plan} {shown : Array RenderProxy} {x : RenderProxy}
    {v : Invocation} (hx : s'.Presents g plan shown x)
    (hlevel : plan.level = (s'.graph g).options.level) (hv : v ∈ x.invocations) :
    v.program = s'.foundProgram g v.kernel := by
  rw [hx.invocations] at hv
  obtain ⟨v, _, rfl⟩ := List.mem_map.1 hv
  dsimp only
  rw [hlevel, currentProgram_eq]

theorem Completed.program {s' : Session} {calls : List HookCall} {x : RenderProxy} {v : Invocation}
    (hc : Completed g q calls s' x) (hv : v ∈ x.invocations) :
    v.program = s'.foundProgram g v.kernel := by
  refine hc.presents.program ?_ hv
  rw [(hc.steady.graph g).options]
  rfl

theorem map_fst_updateBuilds (s : Session) (g : Nat) : (s.updateBuilds g).map Prod.fst =
    (s.graph g).definition.compilable.map Prod.fst :=
  Graph.map_fst_buildAll ..

theorem mem_compilable_of_updateBuilds {k : Nat} {built : Except GraphError KernelBuild}
    (h : (k, built) ∈ s.updateBuilds g) : k ∈ (s.graph g).definition.compilable.map Prod.fst := by
  rw [← map_fst_updateBuilds]
  exact List.mem_map_of_mem h

/-- What a synchronous update that returns has done: `t` is the session in which it found its graph,
    `q` what it has prepared, and `others` and `calls` are the hook calls before and after it has
    reported the kernels that could not be built. -/
structure Updated (s : Session) (g : Nat) (t : Session) (q : Prepared)
    (others calls : List HookCall)
    (s' : Session) (x : RenderProxy) : Prop where
  update : s.update g true = (.ok (), s')
  found : s.interrupt g = t
  cleared : Cleared s g t
  prepared : prepareKernels g (s.dialect g) ((t.resizeSets g).graph g).definition.compilable
    { session := t.resizeSets g } = (.ok q, q.session)
  launches : Launches t g (s.dialect g) q
  readied : ∀ b ∈ s.updateBuilds g, Readied (t.resizeSets g) g b.1 b.2 q
  beside : ∀ k ∉ (s.graph g).definition.compilable.map Prod.fst,
    Beside g k { session := t.resizeSets g } q
  completed : Completed g q calls s' x
  elsewhere : ∀ c ∈ others, c.graph ≠ g
  hooks : s'.hooks = s.hooks ++ (others ++ q.failed.filterMap (q.session.failureCall g) ++ calls)

/-- **A synchronous update returns** if no interface asks for what it has not declared. -/
theorem Run.updated (h : Run H s) (hg : g < s.graphs.size) (haccepts : s.accepts g = true)
    (hpool : (s.graph g).options.pool < s.pools.size) (hheld : s.held = false)
    (hdeclared : ∀ k e, (k, .error (.undeclared e)) ∉ s.updateBuilds g) :
    ∃ t q others calls s' x, Updated s g t q others calls s' x := by
  obtain ⟨_, hreachable⟩ := h.reachable
  have ht := h.cleared hg haccepts hheld
  have hupdate := update_eq_startGeneration haccepts true
  generalize hfound : s.interrupt g = t at ht hupdate
  obtain ⟨q, hq, hl, hreadied, hbeside⟩ := ht.readied hg hdeclared
  obtain ⟨sets, hgraph⟩ := hl.graph ht
  have hB := hl.batch ht hg haccepts hheld (hreachable.orderly.shown.le g)
  obtain ⟨_, _, _, _, hpools, _, _⟩ := resizeSets_fields ht.holdings g
  have hpools' : q.session.pools.size = s.pools.size := by
    rw [hl.preparation.renews.pools, hpools, ht.pools]
  obtain ⟨calls, x, hc⟩ := hl.completed hB (by rw [hpools', hgraph]; exact hpool)
  obtain ⟨others, htold, hothers⟩ := hl.hooks ht
  rw [startGeneration_of_prepared hq] at hupdate
  refine ⟨t, q, others, calls, _, x, hupdate, hfound, ht, hq, hl, hreadied, hbeside, hc, hothers,
    ?_⟩
  rw [hc.hooks, htold]
  simp only [List.append_assoc]

section
variable {others calls : List HookCall} {s' : Session} {x : RenderProxy}

/-- No task is new when the kernels are prepared. -/
theorem Updated.size (h : Updated s g t q others calls s' x) :
    q.session.tasks.size = s.tasks.size := by
  obtain ⟨_, _, _, htasks, _⟩ := resizeSets_fields h.cleared.holdings g
  rw [h.launches.preparation.renews.tasks, htasks, size_of_map_job h.cleared.jobs]

theorem Updated.mem_proxies (h : Updated s g t q others calls s' x) : x ∈ s'.proxies := by
  obtain ⟨i, _, hx⟩ := h.completed.presents.proxy
  exact Array.mem_of_getElem? hx

/-- The kernels that are shown are those that have a source, under their names. -/
theorem Updated.map_name (h : Updated s g t q others calls s' x) :
    (x.invocations.map fun v => (v.kernel, v.name)) =
      (s.graph g).definition.compilable.map fun c => (c.1, c.2.1.name) := by
  obtain ⟨sets, hgraph⟩ := h.launches.graph h.cleared
  rw [h.completed.presents.invocations, planProxy, preparedPlan, hgraph]
  dsimp only [Graph.plan]
  rw [List.map_map, List.map_map]
  rfl

theorem Updated.map_kernel (h : Updated s g t q others calls s' x) :
    x.invocations.map Invocation.kernel = (s.graph g).definition.compilable.map Prod.fst := by
  have hnames := congrArg (List.map Prod.fst) h.map_name
  rw [List.map_map, List.map_map] at hnames
  exact hnames

end

/-- It leads to a session that a run leads to. -/
theorem Updated.run {others calls : List HookCall} {s' : Session} {x : RenderProxy}
    (hu : Updated s g t q others calls s' x) (h : Run H s) (hg : g < s.graphs.size)
    (haccepts : s.accepts g = true) : ∃ H', Run H' s' := by
  have hrun := h.step (.update g true) (.update hg (free_of_accepts haccepts))
  have hupdate : (Action.update g true).apply s = s' := congrArg Prod.snd hu.update
  rw [hupdate] at hrun
  exact ⟨_, hrun⟩

/-- At a level that is defined, a kernel shows what is in its slot. -/
theorem Updated.program {others calls : List HookCall} {s' : Session} {x : RenderProxy}
    {v : Invocation} (hu : Updated s g t q others calls s' x) (h : Run H s)
    (hg : g < s.graphs.size) (haccepts : s.accepts g = true)
    (hlevel : (s.graph g).options.level.isValid = true) (hv : v ∈ x.invocations) :
    v.program = s'.slotProgram g v.kernel := by
  obtain ⟨_, hrun⟩ := hu.run h hg haccepts
  rw [hu.completed.program hv]
  refine hrun.holdings.foundProgram_eq_slotProgram _ ?_
  rw [(hu.completed.steady.graph g).options, hu.launches.options hu.cleared]
  exact hlevel

/-- **A synchronous update is totally correct.**  It returns with nothing outstanding and has
    published its plan, and each kernel was reused, has failed or was compiled. -/
theorem Run.update_sync (h : Run H s) (hg : g < s.graphs.size) (haccepts : s.accepts g = true)
    (hlevel : (s.graph g).options.level.isValid = true)
    (hpool : (s.graph g).options.pool < s.pools.size) (hheld : s.held = false)
    (hdeclared : ∀ k e, (k, .error (.undeclared e)) ∉ s.updateBuilds g)
    (hcount : ∀ k b, (k, .ok b) ∈ s.updateBuilds g → 0 ≤ b.permutations.count) :
    ∃ s' x calls, s.update g true = (.ok (), s') ∧ (s'.graph g).pending = [] ∧
      s'.proxy? g = some x ∧ x.generation = (s.graph g).generation + 1 ∧
      x.invocations.map Invocation.kernel = (s.graph g).definition.compilable.map Prod.fst ∧
      s'.hooks = s.hooks ++ calls ∧
      ∀ v ∈ x.invocations, ∃ built, (v.kernel, built) ∈ s.updateBuilds g ∧
        ∃! o : KernelOutcome, o.Holds s s' g calls built v := by
  obtain ⟨t, q, others, calls, s', x, hu⟩ := h.updated hg haccepts hpool hheld hdeclared
  have hc := hu.completed
  obtain ⟨sets, hgraph⟩ := hu.launches.graph hu.cleared
  refine ⟨s', x, _, hu.update, hc.pending, hc.presents.proxy?_eq, ?_, hu.map_kernel, hu.hooks,
    fun v hv => ?_⟩
  · rw [hc.presents.generation, preparedPlan, hgraph]
    rfl
  · have hk : v.kernel ∈ (s.graph g).definition.compilable.map Prod.fst := by
      rw [← hu.map_kernel]
      exact List.mem_map_of_mem hv
    obtain ⟨built, hmem⟩ : ∃ built, (v.kernel, built) ∈ s.updateBuilds g := by
      rw [← map_fst_updateBuilds] at hk
      obtain ⟨⟨k, built⟩, hmem, rfl⟩ := List.mem_map.1 hk
      exact ⟨built, hmem⟩
    have hnegative : ¬ Negative (updateJobs g q) := by
      rintro ⟨j, hj, hlt⟩
      exact absurd (hcount _ _ (hu.launches.mem_updateBuilds hu.cleared hj)) (Int64.not_le.2 hlt)
    have hprogram := hu.program h hg haccepts hlevel hv
    obtain ⟨o, ho⟩ := (hu.readied _ hmem).outcome hu.cleared h.holdings hg
      (Graph.lt_of_mem_compilable hk) hlevel hu.launches hc hu.size hprogram hu.elsewhere hnegative
    exact ⟨built, hmem, o, ho, fun o' ho' => ho'.unique ho⟩

end

/-- What the first update of the graph with one kernel builds. -/
theorem updateBuilds_entryStart :
    entryStart.updateBuilds 0 = [(0, .ok (entryBuild "Main"))] := by
  have hresult := build_entryGraph current_wrapperFiles rfl "Main"
  have hbuilds : entryStart.updateBuilds 0 =
      [(0, ((entryGraph "Main").build wrapperFiles 0 0 .wgsl "mock").result)] := rfl
  rw [hbuilds, hresult]

/-- The kernel of that graph was reused, has failed or was compiled after the first update. -/
theorem update_sync_entryStart : ∃ s' x calls, entryStart.update 0 true = (.ok (), s') ∧
    (s'.graph 0).pending = [] ∧ s'.proxy? 0 = some x ∧ x.generation = 1 ∧
    x.invocations.map Invocation.kernel = [0] ∧ s'.hooks = calls ∧
    ∀ v ∈ x.invocations, ∃ built, (v.kernel, built) ∈ entryStart.updateBuilds 0 ∧
      ∃! o : KernelOutcome, o.Holds entryStart s' 0 calls built v := by
  have hrun : Run [] entryStart :=
    .step (.addGraph (entryGraph "Main") entryOptions) .addGraph
      (.start reachable_wrapperFiles _ _)
  refine hrun.update_sync (Nat.zero_lt_one) (by decide) (by decide) (by decide) rfl ?_ ?_
  · intro k e hmem
    rw [updateBuilds_entryStart] at hmem
    cases List.mem_singleton.1 hmem
  · intro k b hmem
    rw [updateBuilds_entryStart] at hmem
    cases List.mem_singleton.1 hmem
    decide

/-! ## An interface that asks for a parameter it has not declared -/

/-- The interface declares no parameters and asks for one. -/
def unboundInterface : DataInterface :=
  .custom (Template.interface
    { className := "X"
      inputs := [{ name := "Read", result := "u32" }]
      isExecution := true
      required := "Nope" })

/-- The source of a kernel that reads through it. -/
def unboundSource : KernelSource where
  entryPoint := "Main"
  inputs := [{ name := "Read", result := "u32" }]

/-- A graph with a kernel that the interface is bound to. -/
def unboundGraph : Graph where
  name := "G"
  kernels := [some ⟨"A", some unboundSource⟩]
  interfaces := [some unboundInterface]
  edges := [{ input := true }]
  groups := [0]

/-- The session with that graph. -/
def unboundStart : Session :=
  Session.addGraph { files := wrapperFiles, scripts := [{ format := "mock" }], cache := .empty 0 }
    unboundGraph entryOptions

theorem build_unboundGraph (files : FileStore) :
    (unboundGraph.build files 0 0 .wgsl "mock").result =
      .error (.undeclared ⟨"Nope", "DI0_X"⟩) := by
  exact Graph.build_of_undeclared (by decide) (by decide) rfl rfl

/-- The graph is at its first generation. -/
def unboundOpened : Session :=
  { unboundStart with
    graphs := #[{ definition := unboundGraph, options := entryOptions, generation := 1
                  sets := [some (.runtime "mock" none)] }] }

/-- The update ends with the error. -/
theorem update_unboundStart :
    (unboundStart.update 0 true).1 = .error (.undeclared ⟨"Nope", "DI0_X"⟩) := by
  have hupdate : unboundStart.update 0 true = unboundOpened.startGeneration 0 .wgsl true := rfl
  have hresize : unboundOpened.resizeSets 0 = unboundOpened := rfl
  have hcompilable : (unboundOpened.graph 0).definition.compilable =
      [(0, ⟨"A", some unboundSource⟩, unboundSource)] := rfl
  have hbuilt : ((unboundOpened.kernelResource 0 0).2.buildKernel 0 0 .wgsl
      (unboundOpened.graph 0).options.format).1 = .error (.undeclared ⟨"Nope", "DI0_X"⟩) :=
    build_unboundGraph wrapperFiles
  have hprepares := prepareKernel_prepares 0 .wgsl { session := unboundOpened } 0
    ⟨"A", some unboundSource⟩ unboundSource
  dsimp only at hprepares
  rw [Int.natCast_zero, hbuilt] at hprepares
  have hstopped : (prepareKernel 0 .wgsl { session := unboundOpened } 0
      ⟨"A", some unboundSource⟩ unboundSource).1 = .error (.undeclared ⟨"Nope", "DI0_X"⟩) := by
    generalize prepareKernel 0 .wgsl { session := unboundOpened } 0
      ⟨"A", some unboundSource⟩ unboundSource = out at hprepares
    cases hprepares with
    | stopped => rfl
    | failed he _ _ _ => exact absurd rfl (he _)
  obtain ⟨s', hall⟩ := prepareKernels_stopped hstopped
  rw [← hcompilable, ← hresize] at hall
  rw [hupdate, startGeneration_of_error hall]

/-- A synchronous update does not always return. -/
theorem not_update_sync : ¬ ∀ (H : List Started) (s : Session) (g : Nat), Run H s →
    g < s.graphs.size → s.accepts g = true → (s.graph g).options.level.isValid = true →
    (s.graph g).options.pool < s.pools.size → s.held = false →
    ∃ s', s.update g true = (.ok (), s') := by
  intro h
  have hrun : Run [] unboundStart :=
    .step (.addGraph unboundGraph entryOptions) .addGraph (.start reachable_wrapperFiles _ _)
  obtain ⟨s', hs'⟩ := h [] unboundStart 0 hrun Nat.zero_lt_one (by decide) (by decide)
    (by decide) rfl
  have herror := update_unboundStart
  rw [hs'] at herror
  cases herror

end Session

end KernelGraph
