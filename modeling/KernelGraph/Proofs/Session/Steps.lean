/-
  The steps of an update and of a worker, one by one.

  What becomes of a kernel that an update prepares, and what a worker does next, each under the
  condition that decides it.  An idle pool stays as it is.
-/
import KernelGraph.Proofs.ProgramCache
import KernelGraph.Session.Update

namespace KernelGraph

/-- When the program of a resource is reused. -/
theorem Resource.isReusable_iff {r : Resource} {key : String} :
    r.isReusable key = true ↔
      r.state = .compiled ∧ r.program.isSome ∧ ∃ b, r.build = some b ∧ b.hashKey = key := by
  rw [isReusable, Bool.and_eq_true, Bool.and_eq_true, decide_eq_true_eq, and_assoc]
  cases r.build with
  | none => simp
  | some b => simp

namespace Session

/-- An update that is not rejected: the compiles of the generation before are taken away, and the
    next one is started. -/
theorem update_of_accepts {s : Session} {g : Nat} {c : Compiler}
    (hvalid : (s.graph g).definition.validate = .ok ())
    (hcompiler : s.compiler? (s.graph g).options.format = some c)
    (hopen : (s.graph g).closed = false) (sync : Bool) :
    s.update g sync =
      let s' := s.modifyGraph g fun x => { x with generation := x.generation + 1 }
      (s'.takeTasks (s'.graphResources g)).startGeneration g
        ((s.graph g).options.dialect.getD c.dialect) sync := by
  unfold Session.update
  simp only [hvalid, hcompiler, hopen, Bool.false_eq_true, if_false]

/-! ## Preparing a kernel -/

section
variable {g k r : Nat} {d : Dialect} {q q' : Prepared} {kernel : Kernel} {source : KernelSource}
  {s₁ s₂ : Session} {b : KernelBuild}

/-- A kernel whose resource does not hold the program of its new build is to be compiled. -/
theorem prepareKernel_compile (hr : q.session.kernelResource g k = (r, s₁))
    (hb : s₁.buildKernel g k d (q.session.graph g).options.format = (.ok b, s₂))
    (hreuse : (s₂.resource r).isReusable b.hashKey = false) :
    (prepareKernel g d q k kernel source).1 =
      .ok { q with
        session := s₂.modifyResource r fun x => x.begin b (s₂.graph g).generation
        builds := q.builds ++ [(k, b)]
        jobs := q.jobs ++ [(k, kernel.name, source.isDefault, r, b)] } := by
  unfold prepareKernel
  simp only [hr, hb, hreuse]
  rfl

/-- A kernel whose resource holds a program of the same key is not compiled again. -/
theorem prepareKernel_reuse (hr : q.session.kernelResource g k = (r, s₁))
    (hb : s₁.buildKernel g k d (q.session.graph g).options.format = (.ok b, s₂))
    (hreuse : (s₂.resource r).isReusable b.hashKey = true) :
    ∃ records, (prepareKernel g d q k kernel source).1 =
      .ok { q with session := s₂.note records, builds := q.builds ++ [(k, b)] } := by
  unfold prepareKernel
  simp only [hr, hb, hreuse]
  exact ⟨_, rfl⟩

/-- A graph with a single kernel to compile. -/
theorem prepareKernels_single (hq : (prepareKernel g d q k kernel source).1 = .ok q') :
    prepareKernels g d [(k, kernel, source)] q = (.ok q', q'.session) := by
  unfold prepareKernels
  split
  · rename_i heq
    rw [heq] at hq
    cases hq
  · rename_i heq
    rw [heq] at hq
    cases hq
    rfl

/-- A graph whose only kernel ends the update. -/
theorem prepareKernels_stopped {e : GraphError}
    (hq : (prepareKernel g d q k kernel source).1 = .error e) :
    ∃ s', prepareKernels g d [(k, kernel, source)] q = (.error e, s') := by
  unfold prepareKernels
  split
  · rename_i heq
    rw [heq] at hq
    cases hq
    exact ⟨_, rfl⟩
  · rename_i heq
    rw [heq] at hq
    cases hq

end

/-! ## Workers -/

section
variable {s : Session} {p id : Nat} {pool : CompilePool} {t : CompileTask}

/-- A free worker takes the next task and asks the program cache. -/
theorem advance_begin {rest : List Nat} (hpool : s.pools[p]? = some pool)
    (hfree : pool.current = none) (hqueue : pool.queue = id :: rest)
    (htask : s.tasks[id]? = some t) (hc : t.cancelled = false) :
    s.advance p = some ({ (s.modifyPool p fun x => { x with queue := rest }) with
      cache := s.cache.begin id (jobKey t.job) }.modifyPool p fun x =>
        { x with current := some id }) := by
  have htaken : (s.modifyPool p fun x => { x with queue := rest }).tasks[id]? = some t := htask
  unfold Session.advance
  simp only [hpool, hfree, hqueue, htaken, hc]
  rfl

/-- A worker whose task leads a flight compiles. -/
theorem advance_compile (hpool : s.pools[p]? = some pool) (hcurrent : pool.current = some id)
    (htask : s.tasks[id]? = some t) (hresult : s.cache.result? id = none)
    (hleading : s.cache.isLeading id = true) (hheld : s.held = false) :
    s.advance p = some (s.runCompile id t) := by
  unfold Session.advance
  simp only [hpool, hcurrent, htask, hresult, hleading, waitsForRelease, hheld]
  rfl

/-- A worker whose task has a result completes its job. -/
theorem advance_complete {returned : Except (CallError ProgramError) (Program × Bool)}
    (hpool : s.pools[p]? = some pool) (hcurrent : pool.current = some id)
    (htask : s.tasks[id]? = some t) (hresult : s.cache.result? id = some returned) :
    s.advance p =
      some (({ s with cache := s.cache.forget id }.retire p id).completeJob t.job returned) := by
  unfold Session.advance
  simp only [hpool, hcurrent, htask, hresult]

end

/-- Only the worker of the pool `p`, which is `pool`, may have something to do. -/
structure Alone (s : Session) (p : Nat) (pool : CompilePool) : Prop where
  getElem? : s.pools[p]? = some pool
  others : ∀ i x, i ≠ p → s.pools[i]? = some x → x.queue = [] ∧ x.current = none

section
variable {s s' : Session} {p : Nat} {pool : CompilePool}

theorem alone_of_pools (h : s.pools = #[pool]) : s.Alone 0 pool := by
  refine ⟨by rw [h]; rfl, fun i x hi hx => ?_⟩
  rw [h, Array.getElem?_eq_some_iff] at hx
  obtain ⟨hlt, _⟩ := hx
  exact absurd (Nat.lt_one_iff.1 hlt) hi

/-- A worker without a task has nothing to do. -/
theorem advance_of_idle {i : Nat}
    (h : ∀ x, s.pools[i]? = some x → x.queue = [] ∧ x.current = none) : s.advance i = none := by
  unfold Session.advance
  cases hi : s.pools[i]? with
  | none => rfl
  | some x =>
    obtain ⟨hq, hc⟩ := h x hi
    simp [hq, hc]

/-- The worker goes on. -/
theorem Alone.drainAux_advance (h : s.Alone p pool) {fuel : Nat} (hstep : s.advance p = some s') :
    s.drainAux (fuel + 1) = s'.drainAux fuel := by
  obtain ⟨hlt, _⟩ := Array.getElem?_eq_some_iff.1 h.getElem?
  have hothers : ∀ i, i ≠ p → s.advance i = none := fun i hi =>
    advance_of_idle fun x => h.others i x hi
  have hfind : (List.range s.pools.size).findSome? s.advance = some s' := by
    cases hfound : (List.range s.pools.size).findSome? s.advance with
    | none =>
      have hnone := List.findSome?_eq_none_iff.1 hfound p (List.mem_range.2 hlt)
      rw [hstep] at hnone
      cases hnone
    | some t =>
      obtain ⟨i, _, hi⟩ := List.exists_of_findSome?_eq_some hfound
      by_cases heq : i = p
      · rw [← hi, heq, hstep]
      · rw [hothers i heq] at hi
        cases hi
  conv => lhs; unfold Session.drainAux
  rw [hfind]

theorem Alone.of_eq (h : s.Alone p pool) (hpools : s'.pools = s.pools) : s'.Alone p pool :=
  ⟨hpools ▸ h.getElem?, hpools ▸ h.others⟩

/-- What happens to the pool. -/
theorem Alone.of_modify (h : s.Alone p pool) (f : CompilePool → CompilePool)
    (hpools : s'.pools = s.pools.modify p f) : s'.Alone p (f pool) := by
  refine ⟨?_, fun i x hi hx => ?_⟩
  · rw [hpools, Array.getElem?_modify, if_pos rfl, h.getElem?]
    rfl
  · rw [hpools, Array.getElem?_modify, if_neg hi.symm] at hx
    exact h.others i x hi hx

end

section
variable {s : Session} (h : ∀ pool ∈ s.pools, pool.queue = [] ∧ pool.current = none)
include h

/-- Idle workers leave the session as it is. -/
theorem drainAux_idle (fuel : Nat) : s.drainAux fuel = s := by
  cases fuel with
  | zero => rfl
  | succ fuel =>
    have hnone : (List.range s.pools.size).findSome? s.advance = none := by
      rw [List.findSome?_eq_none_iff]
      intro p _
      exact advance_of_idle fun x hx => h x (Array.mem_of_getElem? hx)
    unfold Session.drainAux
    rw [hnone]

theorem drain_idle : s.drain = s := drainAux_idle h _

end

/-! ## Nothing to compile -/

theorem graph_setPending (s : Session) (g : Nat) :
    (s.setPending g []).graph g = { s.graph g with pending := [] } := by
  show (s.graphs.modify g _).getD g default = _
  rw [Session.graph, Array.getD_eq_getD_getElem?, Array.getD_eq_getD_getElem?,
    Array.getElem?_modify, if_pos rfl]
  cases s.graphs[g]? with
  | none => rfl
  | some x => rfl

/-- **An update that reuses every program** publishes its plan at once. -/
theorem startGeneration_reused {s s' : Session} {g : Nat} {d : Dialect} {q : Prepared}
    (hq : prepareKernels g d ((s.resizeSets g).graph g).definition.compilable
      { session := s.resizeSets g } = (.ok q, s'))
    (hjobs : q.jobs = []) (hfailed : q.failed = [])
    (hidle : ∀ pool ∈ q.session.pools, pool.queue = [] ∧ pool.current = none) :
    (s.startGeneration g d true).2 = ((q.session.note []).setPending g []).publish g
      ((q.session.graph g).definition.plan (q.session.graph g).generation
        (q.session.graph g).options.level q.builds) := by
  have hdrain : ((q.session.note []).setPending g []).drain =
      (q.session.note []).setPending g [] := drain_idle hidle
  unfold Session.startGeneration
  dsimp only
  rw [hq]
  dsimp only
  rw [hjobs, hfailed]
  simp only [List.flatMap_nil, List.map_nil, List.foldl_nil, submitJobs, if_true, hdrain,
    graph_setPending]
  rw [if_pos]
  rw [Bool.and_eq_true]
  exact ⟨rfl, decide_eq_true rfl⟩

/-! ## One kernel to compile -/

/-- **An update that compiles one kernel** submits its job, waits for it and then publishes its
    plan, unless the job has left the graph with other work or was overtaken. -/
theorem startGeneration_compiled {s s' : Session} {g k r : Nat} {d : Dialect} {q : Prepared}
    {name : String} {isDefault : Bool} {b : KernelBuild}
    (hq : prepareKernels g d ((s.resizeSets g).graph g).definition.compilable
      { session := s.resizeSets g } = (.ok q, s'))
    (hjobs : q.jobs = [(k, name, isDefault, r, b)]) (hfailed : q.failed = []) :
    (s.startGeneration g d true).2 =
      let x := q.session.graph g
      let plan := x.definition.plan x.generation x.options.level q.builds
      let done := (((q.session.note []).setPending g [k]).submit
        { graph := g, kernel := k, name, isDefault, resource := r, build := b
          format := x.options.format, kind := .runtime x.generation plan }).drain
      if (done.graph g).pending.isEmpty && (done.graph g).generation = x.generation then
        done.publish g plan
      else done := by
  unfold Session.startGeneration
  dsimp only
  rw [hq]
  dsimp only
  rw [hjobs, hfailed]
  simp only [List.flatMap_nil, List.map_nil, List.map_cons, List.foldl_nil, List.foldl_cons,
    submitJobs, Bool.not_true, Bool.and_false, Bool.false_eq_true, if_false, if_true]

/-! ## Completing a job leaves the pools alone -/

section
variable {s : Session}

theorem pools_publish (g : Nat) (plan : Plan) : (s.publish g plan).pools = s.pools := by
  unfold Session.publish Session.releaseProxy
  dsimp only
  split
  · rfl
  · split
    · rfl
    · split <;> rfl

theorem pools_compileFailed (g k : Nat) (name : String) (isDefault : Bool) (r : CompileResult) :
    (s.compileFailed g k name isDefault r).pools = s.pools := by
  unfold Session.compileFailed
  split <;> rfl

theorem pools_completeUpdate (j : Job) (n : Nat) (plan : Plan) (program : Option Program)
    (r : CompileResult) : (s.completeUpdate j n plan program r).pools = s.pools := by
  unfold Session.completeUpdate
  split
  split
  · rfl
  · extract_lets finished current waiting removed counted settled variants reported
    have hsettled : settled.pools = s.pools := by
      unfold settled
      split
      · rfl
      · split
        · exact pools_publish j.graph plan
        · rfl
    have hreported : reported.pools = s.pools := by
      unfold reported
      split
      · rw [pools_compileFailed, hsettled]
      · exact hsettled
    split
    · exact hreported
    · exact hreported

theorem pools_cookFailed (g k : Nat) (platform : String) (isDefault : Bool) (r : CompileResult) :
    (s.cookFailed g k platform isDefault r).pools = s.pools := by
  unfold Session.cookFailed
  dsimp only
  split <;> rfl

theorem pools_completeCook (j : Job) (platform : Nat) (program : Option Program)
    (r : CompileResult) : (s.completeCook j platform program r).pools = s.pools := by
  unfold Session.completeCook
  split
  split
  · rfl
  · extract_lets finished name failed
    have hfailed : failed.pools = s.pools := by
      unfold failed
      split
      · rfl
      · rw [pools_cookFailed]
        rfl
    rw [← hfailed]
    unfold Session.announceReady
    dsimp only
    split <;> rfl

theorem pools_completeJob (j : Job) (returned : Except (CallError ProgramError) (Program × Bool)) :
    (s.completeJob j returned).pools = s.pools := by
  unfold Session.completeJob
  split
  · rfl
  · extract_lets timed counted
    have hcounted : counted.pools = s.pools := by
      show timed.pools = s.pools
      unfold timed
      split <;> rfl
    split
    · rw [pools_completeUpdate, hcounted]
    · rw [pools_completeCook, hcounted]

end

end Session

end KernelGraph
