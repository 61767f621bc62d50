/-
  Graphs that are updated once.

  A caller that has the session for itself updates graphs one after the other and closes each of
  them. It finds the workers idle and leaves them idle (`Idle`).  So nothing is under way that could
  change a graph before its turn comes (`Handled`), and a graph that was never updated has no
  program that could be reused: each of its kernels is built, and what was built is compiled, or
  found in the program cache (`Verdict`).
-/
import KernelGraph.Proofs.Session.Idempotence

namespace KernelGraph.Session

/-! ## Sessions without compiles -/

/-- No compile is under way, and none would be held back. -/
structure Idle (s : Session) : Prop where
  live : s.live = []
  held : s.held = false

/-- Something was done with the graph `g`, which is over: the workers are idle, the other graphs are
    as they were, and jobs compile to what they compiled to before. -/
structure Handled (g : Nat) (s s' : Session) : Prop where
  idle : s'.Idle
  size : s'.graphs.size = s.graphs.size
  pools : s.pools.size ≤ s'.pools.size
  scripts : s'.scripts = s.scripts
  definition : (s'.graph g).definition = (s.graph g).definition
  options : (s'.graph g).options = (s.graph g).options
  closed : (s.graph g).closed = true → (s'.graph g).closed = true
  locked : (s'.graph g).locked = (s.graph g).locked
  other : ∀ i ≠ g, GraphSteady (s.graph i) (s'.graph i)
  compiles : ∀ j, s'.compileJob j = s.compileJob j
  answers : ∀ wrapper shown,
    Graph.Answers (s.graph g).options.registry (s.graph g).options.format wrapper shown s.files →
    Graph.Answers (s.graph g).options.registry (s.graph g).options.format wrapper shown s'.files

section
variable {s s' : Session} {g : Nat}

theorem Idle.drain (h : s.Idle) : s.drain = s := drain_idle (idle_of_live_eq_nil h.live)

theorem stable_compiles (s₀ : Session) : Stable fun s => ∀ j, s.compileJob j = s₀.compileJob j where
  same h hs j := (hs.compiles j).trans (h j)
  advance h hs j := ((Steady.advance hs).compileJob j).trans (h j)
  cancelTask h _ := h
  submit h i j := ((Steady.submit _ i).compileJob j).trans (h j)
  openPool h := h
  closePool h _ j := ((Steady.drain _).compileJob j).trans (h j)
  hold h := h
  release h j := ((Steady.drain _).compileJob j).trans (h j)
  programs h _ := h

/-! ### Closing a graph -/

theorem programs_foldl_takeTask (rs : List Nat) (s : Session) :
    (rs.foldl takeTask s).cache.programs = s.cache.programs := by
  refine List.foldlRecOn (motive := fun t : Session => t.cache.programs = s.cache.programs) rs _ rfl
    fun t ht r _ => ?_
  unfold Session.takeTask
  split
  split
  · exact ht
  · exact ht

/-- Idle workers have nothing to stop. -/
theorem Idle.takeTasks (h : s.Idle) (rs : List Nat) : ∃ resources cache tasks,
    s.takeTasks rs = { s with resources, cache, tasks } ∧ cache.programs = s.cache.programs := by
  obtain ⟨resources, cache, tasks, htaken, _⟩ := foldl_takeTask_eq rs s
  have hprograms := programs_foldl_takeTask rs s
  rw [htaken] at hprograms
  have hidle : Idle { s with resources, cache, tasks } := ⟨h.live, h.held⟩
  exact ⟨resources, cache, tasks, by rw [Session.takeTasks, htaken, hidle.drain], hprograms⟩

theorem Idle.closePool (h : s.Idle) (p : Nat) : ∃ pools, s.closePool p = { s with pools } ∧
    pools.size = s.pools.size ∧ Session.live { s with pools } = [] := by
  refine ⟨s.pools.modify p fun x => { x with isOpen := false }, ?_, Array.size_modify, ?_⟩
  · rw [Session.closePool, h.drain]
    rfl
  · exact (flatMap_modify_of_eq s.pools p (f := fun x => { x with isOpen := false })
      fun _ => rfl).trans h.live

/-- Closing changes graphs and resources, and releases the graph's proxy. -/
theorem finishClose_fields (s : Session) (g : Nat) :
    ∃ resources metrics platforms graphs commands proxies, s.finishClose g =
      { s with resources, metrics, platforms, graphs, commands, proxies } ∧
      graphs.size = s.graphs.size := by
  unfold Session.finishClose
  rw [foldl_invalidate]
  unfold Session.emptyGraph Session.releaseProxy
  dsimp only
  split
  · exact ⟨_, _, _, _, _, _, rfl, Array.size_modify.trans Array.size_modify⟩
  · split
    · exact ⟨_, _, _, _, _, _, rfl, Array.size_modify.trans Array.size_modify⟩
    · exact ⟨_, _, _, _, _, _, rfl, Array.size_modify.trans Array.size_modify⟩

/-- A graph of an idle session that is closed, but for its pool. -/
theorem Idle.emptied (h : s.Idle) (g : Nat) :
    ∃ resources cache tasks metrics platforms graphs commands proxies, s.emptied g =
      { s with resources, cache, tasks, metrics, platforms, graphs, commands, proxies } ∧
      cache.programs = s.cache.programs ∧ graphs.size = s.graphs.size := by
  have hclosing : (s.closing g).Idle := ⟨h.live, h.held⟩
  obtain ⟨resources, cache, tasks, htaken, hprograms⟩ :=
    hclosing.takeTasks ((s.closing g).allResources g)
  obtain ⟨resources', metrics, platforms, graphs, commands, proxies, hfinished, hsize⟩ :=
    finishClose_fields ((s.closing g).takeTasks ((s.closing g).allResources g)) g
  rw [htaken] at hfinished hsize
  refine ⟨resources', cache, tasks, metrics, platforms, graphs, commands, proxies, ?_, hprograms,
    hsize.trans Array.size_modify⟩
  rw [Session.emptied, htaken, hfinished]
  rfl

theorem Idle.graph_emptied (h : s.Idle) (hg : g < s.graphs.size) (i : Nat) : (s.emptied g).graph i =
    if g = i then { s.graph i with
      closed := true, generation := (s.graph i).generation + 1
      sets := [], pending := [], cook := [], proxy := none }
    else s.graph i := by
  have hclosing : (s.closing g).Idle := ⟨h.live, h.held⟩
  obtain ⟨resources, cache, tasks, htaken, _⟩ :=
    hclosing.takeTasks ((s.closing g).allResources g)
  have hclosed := graph_modifyGraph s g
    (fun x => { x with closed := true, generation := x.generation + 1 }) i
  have hsize : g < (s.closing g).graphs.size := Nat.lt_of_lt_of_eq hg Array.size_modify.symm
  rw [Session.emptied, graph_finishClose, htaken]
  change (if g = i ∧ g < (s.closing g).graphs.size then
    { (s.closing g).graph i with sets := [], pending := [], cook := [], proxy := none }
    else (s.closing g).graph i) = _
  rw [closing, hclosed]
  by_cases hi : g = i
  · rw [if_pos ⟨hi, hsize⟩, if_pos ⟨hi, hg⟩, if_pos hi]
  · rw [if_neg fun h => hi h.1, if_neg fun h => hi h.1, if_neg hi]

/-- **Closing a graph** of an idle session. -/
theorem Idle.close (h : s.Idle) (hg : g < s.graphs.size) (hopen : (s.graph g).closed = false) :
    Handled g s (s.close g) ∧ ((s.close g).graph g).closed = true ∧
      (s.close g).cache.programs = s.cache.programs := by
  have hcompiles := (stable_compiles s).close (fun _ => rfl) g
  have hgraph := h.graph_emptied hg
  obtain ⟨records, heq⟩ := close_eq hopen
  obtain ⟨resources, cache, tasks, metrics, platforms, graphs, commands, proxies, hemptied,
    hprograms, hsize⟩ := h.emptied g
  have hidle : (s.emptied g).Idle := by
    rw [hemptied]
    exact ⟨h.live, h.held⟩
  have hsame : (s.emptied g).pools.size = s.pools.size ∧ (s.emptied g).graphs.size = s.graphs.size ∧
      (s.emptied g).files = s.files ∧ (s.emptied g).scripts = s.scripts ∧
      (s.emptied g).cache.programs = s.cache.programs := by
    rw [hemptied]
    exact ⟨rfl, hsize, rfl, rfl, hprograms⟩
  generalize s.emptied g = t at heq hgraph hidle hsame
  -- the pool is the last thing to change
  obtain ⟨pools, hpooled, hpools, hlive⟩ : ∃ pools, s.close g =
      { t with pools, log := t.log ++ records } ∧ pools.size = t.pools.size ∧
        Session.live { t with pools } = [] := by
    rw [heq]
    split
    · obtain ⟨pools, hpooled, hpools, hlive⟩ := hidle.closePool (t.graph g).options.pool
      exact ⟨pools, by rw [hpooled]; rfl, hpools, hlive⟩
    · exact ⟨t.pools, rfl, rfl, hidle.live⟩
  obtain ⟨hsizePools, hsizeGraphs, hfiles, hscripts, hkept⟩ := hsame
  have hafter : ∀ i, (s.close g).graph i = t.graph i := fun i => by rw [hpooled]; rfl
  have hself := (hafter g).trans ((hgraph g).trans (if_pos rfl))
  refine ⟨⟨?_, ?_, ?_, ?_, ?_, ?_, fun _ => ?_, ?_, fun i hi => ?_, hcompiles,
    fun wrapper shown hw => ?_⟩, ?_, ?_⟩
  · rw [hpooled]
    exact ⟨hlive, hidle.held⟩
  · rw [hpooled]
    exact hsizeGraphs
  · rw [hpooled]
    exact Nat.le_of_eq (hpools.trans hsizePools).symm
  · rw [hpooled]
    exact hscripts
  · rw [hself]
  · rw [hself]
  · rw [hself]
  · rw [hself]
  · rw [hafter, hgraph, if_neg (Ne.symm hi)]
    exact .refl _
  · rw [hpooled]
    exact hfiles.symm ▸ hw
  · rw [hself]
  · rw [hpooled]
    exact hkept

end

/-! ## The first update of a graph -/

/-- What the kernel-compiled hook was told last of a kernel. -/
def lastResult? (s : Session) (g k : Nat) : Option CompileResult :=
  (s.hooks.reverse.find? fun c => c.graph = g && c.kernel = k).map HookCall.result

/-- What becomes of a kernel that was built as `built`, is shown as `v` and of which the hook was
    told `r`, where `R` are the programs and errors that keys may come to. -/
inductive Verdict (R : ProgramKey → Except ProgramError Program → Prop) (format : String)
    (built : Except GraphError KernelBuild) (v : Invocation) (r : CompileResult) : Prop
  | compiled {b : KernelBuild} {p : Program} (hbuilt : built = .ok b) (hsuccess : r.success = true)
      (hprogram : v.program = some p) (hcomes : R ⟨format, b.hashKey⟩ (.ok p))
  | failed {b : KernelBuild} {e : ProgramError} (hbuilt : built = .ok b)
      (hfailure : r.success = false) (hprogram : v.program = none)
      (hcomes : R ⟨format, b.hashKey⟩ (.error e))
  | unbuilt {e : GraphError} (hbuilt : built = .error e) (hfailure : r.success = false)
      (hprogram : v.program = none)

/-- It makes no difference how the kernel wrapper failed. -/
theorem Verdict.of_alike {R : ProgramKey → Except ProgramError Program → Prop} {format : String}
    {built built' : Except GraphError KernelBuild} {v : Invocation} {r : CompileResult}
    (h : Verdict R format built' v r) (halike : Graph.Alike built built') :
    Verdict R format built v r := by
  cases h with
  | compiled hbuilt hsuccess hprogram hcomes =>
    exact .compiled (halike.ok hbuilt) hsuccess hprogram hcomes
  | failed hbuilt hfailure hprogram hcomes =>
    exact .failed (halike.ok hbuilt) hfailure hprogram hcomes
  | unbuilt hbuilt hfailure hprogram =>
    cases halike with
    | same => exact .unbuilt hbuilt hfailure hprogram
    | wrapper => exact .unbuilt rfl hfailure hprogram

/-- The update that is the first of its graph has published the proxy `x`.  No kernel was reused. -/
structure First (R : ProgramKey → Except ProgramError Program → Prop) (s : Session) (g : Nat)
    (s' : Session) (x : RenderProxy) : Prop where
  update : s.update g true = (.ok (), s')
  handled : Handled g s s'
  closed : (s'.graph g).closed = (s.graph g).closed
  proxy : s'.proxy? g = some x
  generation : x.generation = 1
  names : (x.invocations.map fun v => (v.kernel, v.name)) =
    (s.graph g).definition.compilable.map fun c => (c.1, c.2.1.name)
  programs : s'.cache.programs.Holds fun k p => R k (.ok p)
  verdicts : ∀ v ∈ x.invocations, ∃ built r, (v.kernel, built) ∈ s.updateBuilds g ∧
    s'.lastResult? g v.kernel = some r ∧ Verdict R (s.graph g).options.format built v r

section
variable {R : ProgramKey → Except ProgramError Program → Prop} {H : List Started}
  {s s' t : Session} {g k : Nat} {q : Prepared} {others calls : List HookCall} {x : RenderProxy}
  {v : Invocation} {o : GraphOptions} {G : Graph}

/-- The hook was told of a kernel once since then. -/
theorem lastResult?_of_hooks {before after : List HookCall} {r : CompileResult}
    (hhooks : s.hooks = before ++ after) (hone : hookResults after g k = [r]) :
    s.lastResult? g k = some r := by
  have hlast : (after.reverse.find? fun c => c.graph = g && c.kernel = k).map HookCall.result =
      some r := by
    rw [← List.head?_filter, List.filter_reverse, List.head?_reverse, ← List.getLast?_map]
    exact (congrArg List.getLast? hone).trans rfl
  rw [lastResult?, hhooks, List.reverse_append, List.find?_append, Option.map_or, hlast]
  rfl

theorem owned?_of_sets_eq_nil (h : (s.graph g).sets = []) (k : Nat) : s.owned? g k = none := by
  unfold owned?
  rw [h]
  rfl

/-- An update of a graph without resources has nothing to interrupt. -/
theorem Idle.interrupt (h : s.Idle) (hg : g < s.graphs.size) (hsets : (s.graph g).sets = []) :
    s.interrupt g = s.begun g := by
  have hbegun : (s.begun g).Idle := ⟨h.live, h.held⟩
  have hnone : (s.begun g).graphResources g = [] := by
    rw [graphResources, graph_begun hg, hsets]
    rfl
  rw [Session.interrupt, hnone]
  exact hbegun.drain

/-- What the jobs of a first update may come to. -/
theorem Updated.stems (hu : Updated s g t q others calls s' x) (h : s.Idle) (hg : g < s.graphs.size)
    (hsets : (s.graph g).sets = []) {key : ProgramKey} {outcome : Except ProgramError Program}
    (hstems : Stems q.session (updateJobs g q) key outcome) :
    Stems s (updateJobs g q) key outcome := by
  obtain rfl := hu.found.symm.trans (h.interrupt hg hsets)
  have hstable := stable_compiles s
  refine hstems.congr ?_ fun j => ?_
  · obtain ⟨_, _, _, heq⟩ := ready_eq g q
    have hcache := (hu.launches.machine hu.cleared.holdings).2.2.1
    rw [heq] at hcache
    exact hcache.symm
  · have hbegun : ∀ j, (s.begun g).compileJob j = s.compileJob j :=
      (SameMachine.modifyGraph s g (f := fun x => { x with generation := x.generation + 1 })
        fun _ => rfl).compiles
    have hprepared := (hstable.prepareKernels (g := g)
      (p := { session := (s.begun g).resizeSets g }) (hstable.resizeSets hbegun g) (s.dialect g)
      (((s.begun g).resizeSets g).graph g).definition.compilable).1
    rw [hu.prepared] at hprepared
    exact (hprepared j).symm

/-- **A kernel is compiled or fails.** -/
theorem Updated.verdict (hu : Updated s g t q others calls s' x) (h : Run H s)
    (hg : g < s.graphs.size) (haccepts : s.accepts g = true)
    (hlevel : (s.graph g).options.level.isValid = true) (hsets : (s.graph g).sets = [])
    (hv : v ∈ x.invocations)
    (hR : ∀ {key outcome}, Stems q.session (updateJobs g q) key outcome → R key outcome) :
    ∃ built r, (v.kernel, built) ∈ s.updateBuilds g ∧ s'.lastResult? g v.kernel = some r ∧
      Verdict R (s.graph g).options.format built v r := by
  have hk : v.kernel ∈ (s.graph g).definition.compilable.map Prod.fst := by
    rw [← hu.map_kernel]
    exact List.mem_map_of_mem hv
  obtain ⟨⟨k, built⟩, hmem, hkernel⟩ := List.mem_map.1 (map_fst_updateBuilds s g ▸ hk)
  obtain rfl : k = v.kernel := hkernel
  have hlt := Graph.lt_of_mem_compilable hk
  have hempty : (t.resizeSets g).owned? g v.kernel = none :=
    (hu.cleared.owned? h.holdings hg hlt).1.trans (owned?_of_sets_eq_nil hsets v.kernel)
  have hnone : (t.resizeSets g).slotProgram g v.kernel = none := by
    rw [slotProgram, hempty]
    rfl
  have hlevel' : (q.session.graph g).options.level.isValid = true := by
    rw [hu.launches.options hu.cleared]
    exact hlevel
  cases (hu.readied _ hmem).fate hu.launches hlevel' hu.completed
    (hu.program h hg haccepts hlevel hv) hu.elsewhere with
  | failed hbuilt _ _ hprogram hresult hfailure =>
    exact ⟨_, _, hmem, lastResult?_of_hooks hu.hooks hresult,
      .unbuilt hbuilt hfailure (hprogram.trans hnone)⟩
  | reused _ hR => cases hempty.symm.trans hR
  | @finished j result hbuilt _ hformat _ _ hresult hshown hbefore hfinished =>
    obtain ⟨sets, hgraph⟩ := hu.launches.graph hu.cleared
    rw [hgraph] at hformat
    have hkey : jobKey j = ⟨(s.graph g).options.format, j.build.hashKey⟩ := by
      rw [jobKey, hformat]
    refine ⟨_, result, hmem, lastResult?_of_hooks hu.hooks hresult, ?_⟩
    cases hfinished with
    | compiled hsuccess _ hcompiled _ hstems =>
      exact .compiled hbuilt hsuccess (hshown.trans hcompiled) (hkey ▸ hR hstems)
    | failed hfailure _ hkept _ _ hstems =>
      refine .failed hbuilt hfailure ?_ (hkey ▸ hR hstems)
      rw [hshown, hkept, hbefore, hnone]

/-- **An update is over** when it returns. -/
theorem Updated.handled (hu : Updated s g t q others calls s' x) (h : Run H s) (hidle : s.Idle)
    (hg : g < s.graphs.size) (hfree : (s.graph g).locked = false) : Handled g s s' := by
  have hcompiles := (stable_compiles s).update (fun _ => rfl) g true
  rw [hu.update] at hcompiles
  obtain ⟨hdefinition, hoptions, hclosed⟩ := hu.kept
  have hserving := h.serving hg hfree hu.update
  obtain ⟨hresized, _, hsize, _, hpools, _⟩ := resizeSets_fields hu.cleared.holdings g
  have hundisturbed := hresized.trans hu.launches.begun.toUndisturbed
  have hsteady := hu.completed.steady
  refine ⟨⟨hu.completed.live, ?_⟩, ?_, ?_, ?_, hdefinition, hoptions, fun hc => hclosed.trans hc,
    hserving.free.trans hfree.symm, fun i hi => ?_, hcompiles, hserving.answers⟩
  · rw [hsteady.held, hundisturbed.held, hu.cleared.steady.held]
    exact hidle.held
  · rw [hsteady.graphs, hu.launches.preparation.renews.size, hsize, hu.cleared.steady.graphs]
    exact Array.size_modify
  · refine Nat.le_trans (Nat.le_of_eq ?_) hu.completed.pools
    rw [hu.launches.preparation.renews.pools, hpools, hu.cleared.pools]
  · rw [hsteady.scripts, hundisturbed.scripts, hu.cleared.steady.scripts]
    rfl
  · have hbegun : (s.begun g).graph i = s.graph i :=
      (graph_modifyGraph s g _ i).trans (if_neg fun h => hi h.1.symm)
    have hresized : (t.resizeSets g).graph i = t.graph i :=
      (graph_resizeSets hu.cleared.holdings g i).trans (if_neg fun h => hi h.1.symm)
    have hcleared := hu.cleared.steady.graph i
    have hend := hsteady.graph i
    rw [hbegun, ← hresized, ← hu.launches.preparation.renews.other i hi] at hcleared
    exact hcleared.trans hend

/-- **The first update of a graph** by idle workers returns, if no interface asks for what it has
    not declared. -/
theorem Run.first (h : Run H s) (hidle : s.Idle) (hg : g < s.graphs.size)
    (haccepts : s.accepts g = true) (hlevel : (s.graph g).options.level.isValid = true)
    (hpool : (s.graph g).options.pool < s.pools.size)
    (hfresh : GraphSteady { definition := G, options := o } (s.graph g))
    (hdeclared : ∀ k e, (k, .error (.undeclared e)) ∉ s.updateBuilds g)
    (hprograms : s.cache.programs.Holds fun k p => R k (.ok p))
    (hR : ∀ j : Job, j.graph = g → j.format = (s.graph g).options.format →
      (j.kernel, .ok j.build) ∈ s.updateBuilds g → R (jobKey j) (s.compileJob j).1) :
    ∃ s' x, First R s g s' x := by
  obtain ⟨t, q, others, calls, s', x, hu⟩ := h.updated hg haccepts hpool hidle.held hdeclared
  obtain ⟨sets, hgraph⟩ := hu.launches.graph hu.cleared
  have hstems : ∀ {key outcome}, Stems q.session (updateJobs g q) key outcome → R key outcome := by
    intro key outcome hstems
    cases hu.stems hidle hg hfresh.sets hstems with
    | cached hcached => exact hprograms.value? hcached
    | @compiled j hj =>
      obtain ⟨_, _, rfl⟩ := List.mem_map.1 hj
      refine hR _ rfl ?_ (hu.launches.mem_updateBuilds hu.cleared hj)
      dsimp only
      rw [hgraph]
  refine ⟨s', x, hu.update, hu.handled h hidle hg (free_of_accepts haccepts), hu.kept.2.2,
    hu.completed.presents.proxy?_eq, ?_, hu.map_name,
    hu.completed.programs.mono fun _ _ => hstems,
    fun v hv => hu.verdict h hg haccepts hlevel hfresh.sets hv hstems⟩
  rw [hu.completed.presents.generation, preparedPlan, hgraph]
  show (s.graph g).generation + 1 = 1
  rw [hfresh.generation]

end

end KernelGraph.Session
