/-
  When an invocation fits its program.

  A published invocation shows the signature of its kernel as the graph was when the update was
  started.  Its program is the one that the kernel's resource held when the proxy was published, and
  that may be an old one: it is kept if the kernel fails to compile, and it is reused if the build
  has the same hash key, which does not cover the entry point.

  `Run.published_signature_iff` says exactly when the two fit: for every run, an invocation shows
  the signature of the build that its program was compiled from if and only if the graph gave its
  kernel this signature when the update was started.  At the end stands a run in which they do not
  fit: a kernel gets another entry point between two updates.
-/
import KernelGraph.Proofs.Program
import KernelGraph.Proofs.Rebuild
import KernelGraph.Proofs.Session.Machine
import KernelGraph.Proofs.Session.Provenance
import KernelGraph.Proofs.Session.Steps

namespace KernelGraph.Session

/-- The program was compiled from the build, which is that of one of the session's tasks. -/
def Origin (s : Session) (p : Program) (b : KernelBuild) : Prop :=
  (∃ t ∈ s.tasks, t.job.build = b) ∧ p.CompiledFrom b

/-- The build that the proxy's own update has submitted for a kernel. -/
def Submitted (s : Session) (x : RenderProxy) (k : Nat) (b : KernelBuild) : Prop :=
  ∃ t ∈ s.tasks, ∃ plan, t.job.kind = .runtime x.generation plan ∧ t.job.graph = x.graph ∧
    t.job.kernel = k ∧ t.job.build = b

section
variable {H : List Started} {s : Session} {x : RenderProxy} {v : Invocation} {p : Program}

theorem Made.origin (h : Made s.tasks p) : ∃ b, s.Origin p b := by
  obtain ⟨t, ht, hp⟩ := h
  exact ⟨t.job.build, ⟨t, ht, rfl⟩, hp⟩

/-- A proxy comes from one update of the history, whose graph its invocations show. -/
theorem Run.published (h : Run H s) (hx : x ∈ s.proxies) :
    ∃ u ∈ H, u.Published s.tasks x ∧
      ∀ u' ∈ H, u'.graph = x.graph → u'.generation = x.generation → u' = u := by
  obtain ⟨D, hsound, hnumbered⟩ := h.sound
  obtain ⟨u, hu, hpublished⟩ := hsound.published x hx
  refine ⟨u, hu, hpublished, fun u' hu' hgraph hgeneration => ?_⟩
  exact hnumbered.unique u' hu' u hu (hgraph.trans hpublished.graph.symm)
    (hgeneration.trans hpublished.generation.symm)

/-- What an update has submitted has the signature that its graph gave the kernel. -/
theorem Run.submitted (h : Run H s) {u : Started}
    (hunique : ∀ u' ∈ H, u'.graph = x.graph → u'.generation = x.generation → u' = u) {k : Nat}
    {b : KernelBuild} (hb : s.Submitted x k b) : u.definition.signature? k = some b.signature := by
  obtain ⟨D, hsound, _⟩ := h.sound
  obtain ⟨t, ht, plan, hkind, hgraph, rfl, rfl⟩ := hb
  obtain ⟨u', hu', hplans, hn, hsignature⟩ := hsound.ordered t ht _ _ hkind
  have heq := hunique u' hu' (hplans.graph.trans hgraph) (hplans.generation.trans hn.symm)
  rwa [← heq]

/-- **When an invocation fits its program.**  In every run, a published invocation with a program
    belongs to one update of its graph, and the program was compiled from the build of some task.
    The invocation shows the signature of that build exactly if the graph gave its kernel this
    signature when the update was started; in particular it shows the signature of whatever the
    update itself has submitted for the kernel.  Where it does show the build's signature, and the
    build's interfaces have only added options to the permutation space, the program has a variant
    for every id that the invocation accepts exactly if the space is within the limit. -/
theorem Run.published_signature_iff (h : Run H s) (hx : x ∈ s.proxies) (hv : v ∈ x.invocations)
    (hp : v.program = some p) :
    ∃ u ∈ H, (u.graph = x.graph ∧ u.generation = x.generation) ∧
      (∀ u' ∈ H, u'.graph = x.graph → u'.generation = x.generation → u' = u) ∧
      (∃ b, s.Origin p b) ∧
      (∀ b, s.Origin p b →
        (v.signature? = some b.signature ↔ u.definition.signature? v.kernel = some b.signature) ∧
        (v.signature? = some b.signature → b.permutations.Reachable →
          ((∀ values id, PermutationVector.idOf? v.permutations values = .ok id →
              (p.variant? id).isSome) ↔ b.permutations.exactCount ≤ 64))) ∧
      ∀ b, s.Submitted x v.kernel b → v.signature? = some b.signature := by
  obtain ⟨u, hu, hpublished, hunique⟩ := h.published hx
  obtain ⟨σ, hgraph, hshown⟩ := hpublished.shown v hv
  refine ⟨u, hu, ⟨hpublished.graph, hpublished.generation⟩, hunique,
    (hpublished.made v hv p hp).origin, fun b hb => ⟨?_, fun hfits hreachable => ?_⟩,
    fun b hb => ?_⟩
  · rw [hshown, hgraph]
  · obtain ⟨_, c, files, hcompile⟩ := hb
    have hspace : v.permutations = some b.permutations :=
      (Invocation.signature?_eq_some.1 hfits).2.2
    rw [hspace]
    exact Program.covers_iff hreachable hcompile
  · rw [hshown, ← hgraph]
    exact h.submitted hunique hb

end

/-! ## A worker that is alone

A worker that is alone serves its queue in order.  A task for whose program nobody has asked before
takes it three steps: the program cache makes the task the leader of a flight, it is compiled, and
its job is completed.  A task whose program is in the cache takes two.  Either way nobody asks the
cache when the next task is begun. -/

section
open ProgramCache (led)

/-- The worker of a pool has served the first task of its queue, but for completing its job. -/
def served (s : Session) (p id : Nat) (rest : List Nat)
    (cache : ProgramCache Program ProgramError) (calls : List (String × Nat))
    (log : List Log.Record) : Session :=
  { s with
    cache, calls, log
    tasks := s.tasks.modify id fun t => { t with done := true }
    pools := s.pools.modify p fun x => { x with queue := rest, current := none } }

section
variable {s : Session} {p id : Nat} {rest : List Nat} {j : Job}
  {returned : Except (CallError ProgramError) (Program × Bool)}

/-- The worker takes the task and asks the program cache. -/
theorem Alone.begins (h : s.Alone p { queue := id :: rest })
    (htask : s.tasks[id]? = some { job := j }) :
    s.advance p = some { s with
      cache := s.cache.begin id (jobKey j)
      pools := s.pools.modify p fun x => { x with queue := rest, current := some id } } := by
  rw [advance_begin h.getElem? rfl rfl htask rfl]
  unfold Session.modifyPool
  rw [modify_modify]

/-- The worker is free again. -/
theorem retire_taken (s : Session) (p id : Nat) (rest : List Nat)
    (cache : ProgramCache Program ProgramError) (calls : List (String × Nat))
    (log : List Log.Record) :
    Session.retire { s with
      cache, calls, log
      pools := s.pools.modify p fun x => { x with queue := rest, current := some id } } p id =
      s.served p id rest cache calls log := by
  unfold Session.retire Session.modifyTask Session.modifyPool served
  rw [modify_modify]

/-- The next task of the queue is the first one. -/
theorem Alone.served (h : s.Alone p { queue := id :: rest })
    (cache : ProgramCache Program ProgramError) (calls : List (String × Nat))
    (log : List Log.Record) :
    ((s.served p id rest cache calls log).completeJob j returned).Alone p { queue := rest } :=
  h.of_modify (fun x => { x with queue := rest, current := none }) (pools_completeJob ..)

/-- **A task is compiled** if its program is not in the cache. -/
theorem Alone.compile {outcome : Except ProgramError Program}
    (h : s.Alone p { queue := id :: rest }) (htask : s.tasks[id]? = some { job := j })
    (hheld : s.held = false) (hidle : s.cache.Idle)
    (hmiss : s.cache.programs.value? (jobKey j) = none)
    (hcompile : (s.compileJob j).1 = outcome) (fuel : Nat) :
    ∃ cache calls log, cache.Idle ∧ cache.programs.value? (jobKey j) = outcome.toOption ∧
      s.drainAux (fuel + 3) =
        ((s.served p id rest cache calls log).completeJob j (led outcome)).drainAux fuel := by
  obtain ⟨hnone, hleading, hcompiled⟩ := hidle.leads hmiss id
  -- the worker asks the cache
  let asked : Session :=
    { s with
      cache := s.cache.begin id (jobKey j)
      pools := s.pools.modify p fun x => { x with queue := rest, current := some id } }
  have hasked : asked.Alone p { queue := rest, current := some id } :=
    h.of_modify (fun x => { x with queue := rest, current := some id }) rfl
  -- its task leads, so it compiles
  have hran : asked.advance p = some (asked.runCompile id { job := j }) :=
    advance_compile hasked.getElem? rfl htask hnone hleading hheld
  obtain ⟨calls, log, hrun⟩ := runCompile_eq asked id { job := j }
  have houtcome : asked.outcome { job := j } = outcome := hcompile
  rw [houtcome] at hrun
  rw [hrun] at hran
  -- the cache has the result
  obtain ⟨hresult, hforgotten, hvalue⟩ := hcompiled ProgramError.isCancelled outcome _ rfl
  let ran : Session :=
    { asked with calls, log, cache := asked.cache.compiled ProgramError.isCancelled id outcome }
  have halone : ran.Alone p { queue := rest, current := some id } :=
    h.of_modify (fun x => { x with queue := rest, current := some id }) rfl
  have hcompleted : ran.advance p = _ := advance_complete halone.getElem? rfl htask hresult
  refine ⟨_, calls, log, hforgotten, hvalue, ?_⟩
  rw [h.drainAux_advance (h.begins htask), hasked.drainAux_advance hran,
    halone.drainAux_advance hcompleted, ← retire_taken]

/-- **A task is not compiled** if its program is in the cache. -/
theorem Alone.cached {program : Program} (h : s.Alone p { queue := id :: rest })
    (htask : s.tasks[id]? = some { job := j }) (hidle : s.cache.Idle)
    (hfound : s.cache.programs.value? (jobKey j) = some program) (fuel : Nat) :
    ∃ cache, cache.Idle ∧ s.drainAux (fuel + 2) =
      ((s.served p id rest cache s.calls s.log).completeJob j (.ok (program, true))).drainAux
        fuel := by
  obtain ⟨hresult, hforgotten⟩ := hidle.finds hfound id
  let asked : Session :=
    { s with
      cache := s.cache.begin id (jobKey j)
      pools := s.pools.modify p fun x => { x with queue := rest, current := some id } }
  have hasked : asked.Alone p { queue := rest, current := some id } :=
    h.of_modify (fun x => { x with queue := rest, current := some id }) rfl
  have hcompleted : asked.advance p = _ := advance_complete hasked.getElem? rfl htask hresult
  refine ⟨_, hforgotten, ?_⟩
  rw [h.drainAux_advance (h.begins htask), hasked.drainAux_advance hcompleted, ← retire_taken]

/-- When its queue is empty the worker is done. -/
theorem Alone.done (h : s.Alone p {}) (fuel : Nat) : s.drainAux fuel = s := by
  refine drainAux_idle (fun pool hmem => ?_) fuel
  obtain ⟨i, hi⟩ := Array.mem_iff_getElem?.1 hmem
  by_cases heq : i = p
  · have hpool := h.getElem?
    rw [← heq, hi] at hpool
    cases hpool
    exact ⟨rfl, rfl⟩
  · exact h.others i pool heq hi

end

/-- **A single task** that asks for a program nobody has asked for before is compiled and
    completed. -/
theorem drain_single_task {s : Session} {j : Job} {program : Program} {m : Nat}
    (hpools : s.pools = #[{ queue := [0] }]) (htasks : s.tasks = #[{ job := j }])
    (hheld : s.held = false) (hidle : s.cache.Idle)
    (hmiss : s.cache.programs.value? (jobKey j) = none)
    (hcompile : s.compileJob j = (.ok program, m)) : ∃ cache calls log, s.drain =
      (s.served 0 0 [] cache calls log).completeJob j (.ok (program, false)) := by
  have halone : s.Alone 0 { queue := [0] } := alone_of_pools hpools
  obtain ⟨cache, calls, log, _, _, hdrain⟩ := halone.compile (by rw [htasks]; rfl) hheld hidle hmiss
    (congrArg Prod.fst hcompile) 13
  refine ⟨cache, calls, log, ?_⟩
  have hfuel : s.drain = s.drainAux 16 := by
    unfold Session.drain
    rw [htasks]
    rfl
  rw [hfuel, hdrain]
  exact (halone.served cache calls log).done _

end

/-! ## Compilers that follow a script -/

section
variable {c : Script} {b : KernelBuild} {files : Include.Resolver}

/-- A build without options is compiled if its unit expands. -/
theorem Script.exists_compile (hverdict : c.verdict = none)
    (hentry : c.failingEntries.contains b.entryPoint = false) (hids : c.failingPermutations = [])
    (hdialect : c.dialect = b.dialect) (hpermutations : b.permutations = .empty)
    (hunit : (b.unit? files 0).isSome) : ∃ p, Program.compile c.compiler false (b.request files)
      b.hashKey (some b.permutations) = (.ok p, 1) := by
  have hvalues : b.permutations.values 0 = .ok [] := by
    rw [hpermutations]
    rfl
  simp only [KernelBuild.unit?, hvalues, ← hdialect] at hunit
  cases hexpand : ((b.request files).variant [] 0).expand c.dialect with
  | error e =>
    rw [hexpand] at hunit
    cases hunit
  | ok text =>
    have hentry' : c.failingEntries.contains ((b.request files).variant [] 0).entryPoint = false :=
      hentry
    have hcompile : c.compiler.compile false ((b.request files).variant [] 0) =
        .ok { code := text, diagnostics := c.diagnostics } := by
      simp only [Script.compiler, hverdict, hentry', hids, hexpand,
        List.contains_nil, Bool.or_false,
        Bool.false_eq_true, if_false]
    rw [hpermutations]
    exact ⟨_, Program.compile_empty hcompile⟩

/-- It fails if its entry point is among those that do. -/
theorem Script.exists_failure (hverdict : c.verdict = none)
    (hentry : c.failingEntries.contains b.entryPoint = true)
    (hpermutations : b.permutations = .empty) :
    ∃ e, (Program.compile c.compiler false (b.request files) b.hashKey (some b.permutations)).1 =
      .error e ∧ e.isCancelled = false := by
  have hentry' : c.failingEntries.contains ((b.request files).variant [] 0).entryPoint = true :=
    hentry
  obtain ⟨r, hcompile⟩ : ∃ r, c.compiler.compile false ((b.request files).variant [] 0) =
      .error r := by
    simp only [Script.compiler, hverdict, hentry', Bool.true_or, if_true]
    exact ⟨_, rfl⟩
  rw [hpermutations, Program.compile_empty_error hcompile]
  exact ⟨_, rfl, rfl⟩

end

/-! ## A kernel whose entry point is changed between two updates -/

section
open VirtualPath (kernelWrapper)

/-- A store with one registry, which has the wrapper. -/
def wrapperFiles : FileStore :=
  ⟨#[{ sources := [(kernelWrapper, FileStore.bareWrapper)] }]⟩

theorem reachable_wrapperFiles : wrapperFiles.Reachable :=
  .single (by decide) FileStore.bareWrapper

theorem source?_wrapper : wrapperFiles.source? 0 kernelWrapper = some FileStore.bareWrapper :=
  FileStore.source?_of_lookup rfl

theorem current_wrapperFiles : wrapperFiles.Current 0 := Lru.holds_empty _

/-- A body with two functions, one of which is the entry point. -/
def entrySource (entry : String) : KernelSource where
  entryPoint := entry
  body := "fn Main() \x7b\x7d\nfn Other() \x7b\x7d\n"
  inputs := [{ name := "ReadNumThreads", result := "u32" }]

/-- The kernel with that source. -/
def entryKernel (entry : String) : Kernel := ⟨"A", some (entrySource entry)⟩

/-- A graph with that kernel. -/
def entryGraph (entry : String) : Graph where
  name := "G"
  kernels := [some (entryKernel entry)]
  interfaces := [some (.execution 64)]
  edges := [{ input := true }]
  groups := [0]

/-- The build of its kernel. -/
def entryBuild (entry : String) : KernelBuild :=
  ((entryGraph entry).assemble {} 0 (entrySource entry) .wgsl
    (FileStore.message "mock" FileStore.bareWrapper []).sum).toOption.getD default

/-- The kernel is built from any store that has the sources of the first one. -/
theorem build_entryGraph {files : FileStore} (hc : files.Current 0)
    (hs : files.source? 0 = wrapperFiles.source? 0) (entry : String) :
    ((entryGraph entry).build files 0 0 .wgsl "mock").result = .ok (entryBuild entry) := by
  have htext : files.source? 0 kernelWrapper = some FileStore.bareWrapper := by
    rw [hs]
    exact source?_wrapper
  exact Graph.build_eq_ok.2 ⟨entrySource entry, _, le_refl 0, Int.one_pos, rfl,
    hc.digest_eq_ok_iff.2 (FileStore.hasDigest_leaf htext FileStore.included_bareWrapper), rfl⟩

/-- The entry point is not covered by the key. -/
theorem hashKey_entryBuild (a b : String) : (entryBuild a).hashKey = (entryBuild b).hashKey := rfl

theorem compilable_entryGraph (entry : String) :
    (entryGraph entry).compilable = [(0, entryKernel entry, entrySource entry)] := rfl

/-! ### The first update -/

/-- The options of the graph. -/
def entryOptions : GraphOptions := { format := "mock", registry := 0 }

/-- The session at the start. -/
def entryStart : Session :=
  Session.addGraph { files := wrapperFiles, scripts := [{ format := "mock" }], cache := .empty 0 }
    (entryGraph "Main") entryOptions

/-- The graph is at its first generation. -/
def entryOpened : Session :=
  { entryStart with
    graphs := #[{ definition := entryGraph "Main", options := entryOptions, generation := 1
                  sets := [some (.runtime "mock" none)] }] }

/-- The kernel has a resource. -/
def entryResourced : Session :=
  { entryStart with
    graphs := #[{ definition := entryGraph "Main", options := entryOptions, generation := 1
                  sets := [some (.runtime "mock" (some 0))] }]
    resources := #[{ format := "mock", level := .sm5 }] }

/-- The kernel is built. -/
def entryBuilt : Session := (entryResourced.buildKernel 0 0 .wgsl "mock").2

theorem buildKernel_entryResourced :
    entryResourced.buildKernel 0 0 .wgsl "mock" = (.ok (entryBuild "Main"), entryBuilt) :=
  Prod.ext (build_entryGraph current_wrapperFiles rfl "Main") rfl

theorem files_entryBuilt :
    entryBuilt.files = (wrapperFiles.digest 0 kernelWrapper "mock").2 :=
  Graph.build_files (build_entryGraph current_wrapperFiles rfl "Main")

theorem source?_entryBuilt : entryBuilt.files.source? 0 = wrapperFiles.source? 0 := by
  rw [files_entryBuilt]
  exact congrFun (FileStore.source?_digest _ _) 0

theorem current_entryBuilt : entryBuilt.files.Current 0 := by
  rw [files_entryBuilt]
  exact current_wrapperFiles.digest _ _

/-- The plan of an update. -/
def entryPlan (entry : String) (generation : Nat) : Plan :=
  (entryGraph entry).plan generation .sm5 [(0, entryBuild entry)]

/-- The job that compiles the kernel. -/
def entryJob : Job where
  graph := 0
  kernel := 0
  name := "A"
  isDefault := false
  resource := 0
  build := entryBuild "Main"
  format := "mock"
  kind := .runtime 1 (entryPlan "Main" 1)

/-- The task of that job. -/
def entryTask : CompileTask := { job := entryJob, done := true }

/-- The job waits in the queue of the pool. -/
def entryWaiting : Session :=
  (((entryBuilt.modifyResource 0 fun x => x.begin (entryBuild "Main") 1).note []).setPending 0
    [0]).submit entryJob

/-- The update prepares the kernel, submits its job and drains the pool. -/
theorem update_entryStart :
    (entryStart.update 0 true).2 =
      let s := entryWaiting.drain
      if (s.graph 0).pending.isEmpty && (s.graph 0).generation = 1 then
        s.publish 0 (entryPlan "Main" 1)
      else s := by
  have hresource : entryOpened.kernelResource 0 0 = (0, entryResourced) := rfl
  have hresize : entryOpened.resizeSets 0 = entryOpened := rfl
  have hcompilable : (entryOpened.graph 0).definition.compilable =
      [(0, entryKernel "Main", entrySource "Main")] := compilable_entryGraph "Main"
  have hprepare : (prepareKernel 0 .wgsl { session := entryOpened } 0 (entryKernel "Main")
      (entrySource "Main")).1 = _ :=
    prepareKernel_compile hresource buildKernel_entryResourced rfl
  have hupdate : (entryStart.update 0 true).2 = (entryOpened.startGeneration 0 .wgsl true).2 := rfl
  have hall := prepareKernels_single hprepare
  rw [← hcompilable, ← hresize] at hall
  rw [hupdate, startGeneration_compiled hall rfl rfl]
  rfl

/-- The assembled source: what the interface contributes, the shim and the body. -/
theorem source_entryBuild : (entryBuild "Main").source =
    "@group(0) @binding(0) var<uniform> NumThreads_DI0_Execution: u32;\n" ++
      ("fn ReadNumThreads_DI0_Execution() -> u32 \x7b return NumThreads_DI0_Execution; \x7d\n" ++
        ("fn ReadNumThreads() -> u32 \x7b return ReadNumThreads_DI0_Execution(); \x7d\n" ++
          "fn Main() \x7b\x7d\nfn Other() \x7b\x7d\n")) := by
  decide +kernel

/-- The build has a unit. -/
theorem isSome_unit?_entryBuild :
    ((entryBuild "Main").unit? (wrapperFiles.resolver 0) 0).isSome := by
  have hbecomes : Include.Becomes
      (((entryBuild "Main").request (wrapperFiles.resolver 0)).variant [] 0).resolver
      [kernelWrapper, VirtualPath.generatedKernel] [] (entryBuild "Main").source
      (entryBuild "Main").source [] := by
    rw [source_entryBuild]
    exact .append (.ofList (by decide)) (.append (.ofList (by decide))
      (.append (.ofList (by decide)) (.ofList (by decide))))
  rw [KernelBuild.unit?_bare rfl (fun x hx => by cases hx) source?_wrapper rfl hbecomes]
  rfl

/-- The compile comes back with a program. -/
theorem compileJob_entryWaiting : ∃ p, entryWaiting.compileJob entryJob = (.ok p, 1) := by
  have hunit : ((entryBuild "Main").unit? (entryWaiting.files.resolver 0) 0).isSome := by
    have hs : (entryWaiting.files.resolver 0).source? = (wrapperFiles.resolver 0).source? :=
      source?_entryBuilt
    rw [Graph.unit?_congr hs 0]
    exact isSome_unit?_entryBuild
  exact Script.exists_compile (c := { format := "mock" }) rfl rfl rfl rfl rfl hunit

/-- A session in which the kernel is compiled; the other fields are those of `rest`. -/
def entryCompiled (rest : Session) (p : Program) (result : CompileResult) (entry : String)
    (generation : Nat) : Session :=
  { rest with
    scripts := [{ format := "mock" }]
    pools := #[{}]
    tasks := #[entryTask]
    graphs := #[{ definition := entryGraph entry, options := entryOptions, generation
                  sets := [some (.runtime "mock" (some 0))], published := 1, proxy := some 0 }]
    resources := #[{ format := "mock", level := .sm5, state := .compiled, generation := 1
                     build := some (entryBuild "Main"), program := some p, result }] }

theorem eq_entryCompiled {s : Session} {p : Program} {result : CompileResult} {entry : String}
    {generation : Nat} (hscripts : s.scripts = [{ format := "mock" }]) (hpools : s.pools = #[{}])
    (htasks : s.tasks = #[entryTask])
    (hgraphs : s.graphs = (entryCompiled s p result entry generation).graphs)
    (hresources : s.resources = (entryCompiled s p result entry generation).resources) :
    s = entryCompiled s p result entry generation := by
  cases s
  dsimp only [entryCompiled] at hscripts hpools htasks hgraphs hresources
  subst hscripts hpools htasks hgraphs hresources
  rfl

/-- After the first update the kernel is compiled. -/
theorem exists_entryCompiled : ∃ rest p result, rest.files = entryBuilt.files ∧
    (entryStart.update 0 true).2 = entryCompiled rest p result "Main" 1 := by
  obtain ⟨p, hcompile⟩ := compileJob_entryWaiting
  have hmiss : entryWaiting.cache.programs.value? (jobKey entryJob) = none := by
    rw [Lru.value?, Option.map_eq_none_iff]
    exact Std.HashMap.getElem?_empty
  obtain ⟨cache, calls, log, hdrain⟩ :=
    drain_single_task rfl rfl rfl (ProgramCache.idle_empty 0) hmiss hcompile
  obtain ⟨rest, result, hfiles, hcompiled⟩ : ∃ rest result, rest.files = entryBuilt.files ∧
      entryWaiting.drain = entryCompiled rest p result "Main" 1 := by
    rw [hdrain]
    refine ⟨_, _, ?_, eq_entryCompiled rfl rfl rfl rfl rfl⟩
    rfl
  refine ⟨rest, p, result, hfiles, ?_⟩
  -- the job has published the plan already
  rw [update_entryStart, hcompiled]
  rfl

/-! ### The second update -/

section
variable {rest : Session} (p : Program) (result : CompileResult)

/-- The program of the first update is reused, and the new plan is published. -/
theorem update_entryCompiled (hfiles : rest.files = entryBuilt.files) :
    ∃ rest', ((entryCompiled rest p result "Other" 1).update 0 true).2 =
      (entryCompiled rest' p result "Other" 2).publish 0 (entryPlan "Other" 2) := by
  have hok : ((entryCompiled rest p result "Other" 2).buildKernel 0 0 .wgsl "mock").1 =
      .ok (entryBuild "Other") := by
    have hc : rest.files.Current 0 := by rw [hfiles]; exact current_entryBuilt
    have hs : rest.files.source? 0 = wrapperFiles.source? 0 := by
      rw [hfiles]
      exact source?_entryBuilt
    exact build_entryGraph hc hs "Other"
  -- the build leaves its traces in the other fields only
  let out := (entryGraph "Other").build rest.files 0 0 .wgsl "mock"
  let built : Session :=
    { rest with
      files := out.files
      log := rest.log ++ out.notes
      metrics := { rest.metrics with mismatches := rest.metrics.mismatches + out.mismatches } }
  have hbuild : (entryCompiled rest p result "Other" 2).buildKernel 0 0 .wgsl "mock" =
      (.ok (entryBuild "Other"), entryCompiled built p result "Other" 2) := Prod.ext hok rfl
  have hresource : (entryCompiled rest p result "Other" 2).kernelResource 0 0 =
      (0, entryCompiled rest p result "Other" 2) := rfl
  -- the resource still holds the program of the first build, whose key is the new one's
  have hreuse : ((entryCompiled built p result "Other" 2).resource 0).isReusable
      (entryBuild "Other").hashKey = true :=
    Resource.isReusable_iff.2 ⟨rfl, rfl, entryBuild "Main", rfl, hashKey_entryBuild "Main" "Other"⟩
  obtain ⟨records, hprepare⟩ : ∃ records, (prepareKernel 0 .wgsl
      { session := entryCompiled rest p result "Other" 2 } 0 (entryKernel "Other")
      (entrySource "Other")).1 = _ := prepareKernel_reuse hresource hbuild hreuse
  have hupdate : (entryCompiled rest p result "Other" 1).update 0 true =
      (entryCompiled rest p result "Other" 2).startGeneration 0 .wgsl true := by
    have hcompiler : (entryCompiled rest p result "Other" 1).compiler? "mock" =
        some (Script.compiler { format := "mock" }) := rfl
    have hnext : ((entryCompiled rest p result "Other" 1).modifyGraph 0 fun x =>
        { x with generation := x.generation + 1 }) = entryCompiled rest p result "Other" 2 := rfl
    have htaken : (entryCompiled rest p result "Other" 2).takeTasks
        ((entryCompiled rest p result "Other" 2).graphResources 0) =
          entryCompiled rest p result "Other" 2 := rfl
    rw [update_of_accepts rfl hcompiler rfl true, hnext]
    dsimp only
    rw [htaken]
    rfl
  have hresize : (entryCompiled rest p result "Other" 2).resizeSets 0 =
      entryCompiled rest p result "Other" 2 := rfl
  have hcompilable : ((entryCompiled rest p result "Other" 2).graph 0).definition.compilable =
      [(0, entryKernel "Other", entrySource "Other")] := compilable_entryGraph "Other"
  have hidle : ∀ pool ∈ (#[{}] : Array CompilePool), pool.queue = [] ∧ pool.current = none := by
    intro pool hmem
    cases List.mem_singleton.1 (Array.mem_def.1 hmem)
    exact ⟨rfl, rfl⟩
  have hall := prepareKernels_single hprepare
  rw [← hcompilable, ← hresize] at hall
  rw [hupdate, startGeneration_reused hall rfl rfl hidle]
  exact ⟨_, congrArg (publish · 0 (entryPlan "Other" 2)) (eq_entryCompiled rfl rfl rfl rfl rfl)⟩

/-- The proxy pairs the new entry point with the old program. -/
theorem publish_entryCompiled (rest : Session) :
    ∃ x v, x ∈ ((entryCompiled rest p result "Other" 2).publish 0 (entryPlan "Other" 2)).proxies ∧
      v ∈ x.invocations ∧ v.program = some p ∧ v.entryPoint = "Other" := by
  let v : Invocation :=
    { (entryGraph "Other").invocation 0 (entryKernel "Other") (entrySource "Other")
        (some (entryBuild "Other")) with program := some p }
  let x : RenderProxy := { graph := 0, graphName := "G", generation := 2, invocations := [v] }
  have hproxies : ((entryCompiled rest p result "Other" 2).publish 0
      (entryPlan "Other" 2)).proxies = rest.proxies.push x := rfl
  refine ⟨x, v, ?_, List.mem_singleton_self _, rfl, rfl⟩
  rw [hproxies]
  exact Array.mem_push_self

end

/-- In this run the only task was made for the entry point "Main", and the invocation shows
    "Other". -/
theorem exists_run_entry : ∃ H s x v p, Run H s ∧ x ∈ s.proxies ∧ v ∈ x.invocations ∧
    v.program = some p ∧ v.entryPoint = "Other" ∧ s.tasks = #[entryTask] := by
  obtain ⟨rest, p, result, hfiles, hfirst⟩ := exists_entryCompiled
  obtain ⟨rest', hsecond⟩ := update_entryCompiled p result hfiles
  obtain ⟨x, v, hx, hv, hp, hentry⟩ := publish_entryCompiled p result rest'
  have hstart : Run _ entryStart :=
    .step (.addGraph (entryGraph "Main") entryOptions) .addGraph
      (.start reachable_wrapperFiles [{ format := "mock" }] 0)
  have hupdated : Run _ (entryStart.update 0 true).2 :=
    .step (.update 0 true) (.update Nat.one_pos rfl) hstart
  rw [hfirst] at hupdated
  have hexists : 0 < (entryCompiled rest p result "Main" 1).graphs.size := Nat.one_pos
  have hedited : Run _ (entryCompiled rest p result "Other" 1) :=
    .step (.edit 0 fun _ => entryGraph "Other") (.edit hexists) hupdated
  have hagain : Run _ ((entryCompiled rest p result "Other" 1).update 0 true).2 :=
    .step (.update 0 true) (.update Nat.one_pos rfl) hedited
  rw [hsecond] at hagain
  exact ⟨_, _, x, v, p, hagain, hx, hv, hp, hentry, rfl⟩

/-- No build of that task has the signature of that invocation. -/
theorem signature?_ne_of_entryTask {s : Session} {v : Invocation} {p : Program} {b : KernelBuild}
    (hentry : v.entryPoint = "Other") (htasks : s.tasks = #[entryTask]) (hb : s.Origin p b) :
    v.signature? ≠ some b.signature := by
  obtain ⟨⟨t, ht, rfl⟩, _⟩ := hb
  rw [htasks] at ht
  cases List.mem_singleton.1 (Array.mem_def.1 ht)
  intro hsignature
  have hmain : v.entryPoint = "Main" := (Invocation.signature?_eq_some.1 hsignature).1
  rw [hentry] at hmain
  exact absurd hmain (by decide)

/-- The graph gave the kernel another signature when the second update was started than the build
    has that the published program was compiled from, and so the two do not fit. -/
theorem exists_signature_ne_origin :
    ∃ H s x v p, Run H s ∧ x ∈ s.proxies ∧ v ∈ x.invocations ∧ v.program = some p ∧
      ∃ u ∈ H, (u.graph = x.graph ∧ u.generation = x.generation) ∧
        ∃ b, s.Origin p b ∧ u.definition.signature? v.kernel ≠ some b.signature ∧
          v.signature? ≠ some b.signature := by
  obtain ⟨H, s, x, v, p, hrun, hx, hv, hp, hentry, htasks⟩ := exists_run_entry
  obtain ⟨u, hu, hupdate, _, ⟨b, hb⟩, hfits, _⟩ := hrun.published_signature_iff hx hv hp
  have hne := signature?_ne_of_entryTask hentry htasks hb
  exact ⟨H, s, x, v, p, hrun, hx, hv, hp, u, hu, hupdate, b, hb,
    fun hgraph => hne ((hfits b hb).1.2 hgraph), hne⟩

/-- A published invocation does not always show the signature of the build that its program was
    compiled from. -/
theorem not_published_signature :
    ¬ ∀ (H : List Started) (s : Session) (x : RenderProxy) (v : Invocation) (p : Program)
      (b : KernelBuild), Run H s → x ∈ s.proxies → v ∈ x.invocations → v.program = some p →
      s.Origin p b → v.signature? = some b.signature := by
  intro h
  obtain ⟨H, s, x, v, p, hrun, hx, hv, hp, hentry, htasks⟩ := exists_run_entry
  obtain ⟨u, _, hpublished, _⟩ := hrun.published hx
  obtain ⟨b, hb⟩ := (hpublished.made v hv p hp).origin
  exact signature?_ne_of_entryTask hentry htasks hb (h H s x v p b hrun hx hv hp hb)

end

end KernelGraph.Session
