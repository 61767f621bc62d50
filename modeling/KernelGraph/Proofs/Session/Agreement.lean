/-
  Synchronous and asynchronous updates agree.

  `Course` collects what is known of an update that has prepared its kernels, if what keys compile
  to is known: its jobs are a batch, and `Reaches` is where it can be.  An update of the session
  goes to its end on that course whether it is synchronous or not (`Course.update`).  So all of them
  publish the same (`UniformRun.updates_agree`), unless an interface asks for a parameter that it
  has not declared: then every update of the graph ends there, and nothing is published
  (`Run.makesReady`).
-/
import KernelGraph.Proofs.Session.Asynchronous

namespace KernelGraph.Session

section
variable {F : ProgramKey → Except ProgramError Program} {H : List Started} {s t : Session} {g : Nat}
  {d : Dialect} {q : Prepared} {sync : Bool} {c c' : Stage × Session}

/-! ## Updates that have prepared their kernels -/

/-- **An update prepares its kernels** unless an interface asks for a parameter that it has not
    declared: then it ends, and has published nothing. -/
theorem Run.makesReady (h : Run H s) (hg : g < s.graphs.size) (haccepts : s.accepts g = true)
    (hheld : s.held = false) :
    (∃ k u s', (k, .error (.undeclared u)) ∈ s.updateBuilds g ∧
      (∀ sync, s.update g sync = (.error (.undeclared u), s')) ∧ s'.live = [] ∧
      s'.publishedGenerations g = s.publishedGenerations g) ∨
    ∃ q, s.MakesReady g q := by
  have ht := h.cleared hg haccepts hheld
  have hupdate := update_eq_startGeneration haccepts
  have hstart := Preparation.resizeSets ht.holdings (ht.lt_size hg)
  obtain ⟨_, hrenews, hprepared⟩ := hstart.prepareKernels (d := s.dialect g)
  unfold MakesReady
  generalize hq : prepareKernels g (s.dialect g)
    (((s.interrupt g).resizeSets g).graph g).definition.compilable
    { session := (s.interrupt g).resizeSets g } = out at hrenews hprepared
  obtain ⟨result, s'⟩ := out
  cases result with
  | error e =>
    obtain ⟨k, u, rfl, hmem⟩ := hstart.stops (congrArg Prod.fst hq)
    obtain ⟨_, _, _, _, hpools, _, hproxies⟩ := resizeSets_fields ht.holdings g
    refine Or.inl ⟨k, u, s'.lock g, ?_, fun sync => ?_, ?_, ?_⟩
    · rw [updateBuilds, ← ht.graphBuilds]
      exact hmem
    · rw [hupdate, startGeneration_of_error hq]
    · rw [← ht.live, live, live, ← hpools, ← hrenews.pools]
      rfl
    · rw [← ht.shown]
      exact publishedGenerations_congr (hrenews.proxies.trans hproxies) g
  | ok q =>
    obtain ⟨rfl, _⟩ := hprepared q rfl
    exact Or.inr ⟨q, rfl⟩

/-- Where an update can be that has prepared `q`. -/
abbrev Reaches (g : Nat) (q : Prepared) (sync : Bool) : Stage × Session → Prop :=
  GoesOn g (preparedPlan g q) (updateJobs g q) sync (.submitting (updateJobs g q), ready g q)

/-- The course of an update that has prepared `q`. -/
structure Course (F : ProgramKey → Except ProgramError Program) (s : Session)
    (g : Nat) (q : Prepared) :
    Prop where
  batch : Batch (ready g q) g (preparedPlan g q) (updateJobs g q)
  pool : ((ready g q).graph g).options.pool < (ready g q).pools.size
  compiles : ∀ j ∈ updateJobs g q, (ready g q).CompilesTo F j
  programs : (ready g q).cache.programs.Holds fun k p => F k = .ok p
  holdings : (ready g q).Holdings
  level : (preparedPlan g q).level = ((ready g q).graph g).options.level
  generation : (preparedPlan g q).generation = (s.graph g).generation + 1
  shown : (ready g q).publishedGenerations g = s.publishedGenerations g
  update : ∀ sync, s.update g sync = (.ok (), Session.finishUpdate
    (if sync then ((ready g q).submitJobs sync (updateJobs g q)).drain
      else (ready g q).submitJobs sync (updateJobs g q)) g (preparedPlan g q))

theorem Launches.holdings_ready (h : Launches t g d q) : (ready g q).Holdings := by
  obtain ⟨_, _, _, heq⟩ := ready_eq g q
  have hpending : (q.session.setPending g (q.jobs.map Prod.fst)).Holdings :=
    h.preparation.holdings.frame (.setPending q.session g _)
  rw [heq]
  exact hpending.of_eq rfl rfl rfl

/-- **The course of an update** is known when it is known what keys compile to. -/
theorem UniformRun.course (h : UniformRun F H s) (hu : s.Uniform F g) (hg : g < s.graphs.size)
    (haccepts : s.accepts g = true) (hpool : (s.graph g).options.pool < s.pools.size)
    (hheld : s.held = false) (hq : s.MakesReady g q) : Course F s g q := by
  obtain ⟨_, hreachable⟩ := h.run.reachable
  have ht := h.run.cleared hg haccepts hheld
  have hupdate := update_eq_startGeneration haccepts
  have haccounts := h.accounts hq
  have hprograms := h.programs_ready hu hq
  unfold MakesReady at hq
  generalize s.interrupt g = t at ht hupdate hq
  have hl := launches_of_prepared ht.holdings (ht.lt_size hg) hq
  have hB := hl.batch ht hg haccepts hheld (hreachable.orderly.shown.le g)
  obtain ⟨sets, hgraph⟩ := hl.graph ht
  obtain ⟨htasks, hpools, _⟩ := hl.machine ht.holdings
  obtain ⟨_, _, _, _, _, _, hproxies⟩ := resizeSets_fields ht.holdings g
  have hready : ((ready g q).graph g).options = (s.graph g).options := by
    rw [((steady_ready g q).graph g).options, hgraph]
  refine
    { batch := hB
      pool := by rw [hready, hpools, ht.pools]; exact hpool
      compiles := fun j hj => ?_
      programs := hprograms (by rw [htasks]; exact ht.jobs)
      holdings := hl.holdings_ready
      level := by rw [hready, preparedPlan, hgraph]; rfl
      generation := by rw [preparedPlan, hgraph]; rfl
      shown := ?_
      update := fun sync => by rw [hupdate, startGeneration_eq sync hq] }
  · refine (hu.builds j (hB.graph j hj) ?_ (hl.mem_updateBuilds ht hj)).of_eq (haccounts.compiles j)
    rw [hB.format j hj, hready]
  · obtain ⟨_, _, _, heq⟩ := ready_eq g q
    have hsame : (ready g q).proxies = q.session.proxies := by rw [heq]; rfl
    rw [publishedGenerations_congr (hsame.trans (hl.preparation.renews.proxies.trans hproxies)),
      ht.shown]

theorem Course.underway (hc : Course F s g q) (hsteps : Reaches g q sync c) :
    Underway F (ready g q) g (preparedPlan g q) (updateJobs g q) c :=
  (hc.batch.underway hc.programs).goesOn hc.batch hc.compiles hsteps

/-- An update of the session takes this course until it returns. -/
theorem Course.reaches_update (hc : Course F s g q) (sync : Bool) :
    Reaches g q sync (.returned, (s.update g sync).2) := by
  rw [hc.update sync]
  exact (hc.batch.underway hc.programs).goesOn_finish hc.batch hc.compiles hc.pool

theorem Course.returns (hc : Course F s g q) (sync : Bool) :
    s.update g sync = (.ok (), (s.update g sync).2) := by
  rw [hc.update sync]

/-- A synchronous update returns with nothing outstanding. -/
theorem Course.pending_update (hc : Course F s g q) :
    ((s.update g true).2.graph g).pending = [] := by
  have hstart := hc.batch.underway hc.programs
  have hsubmitted : Reaches g q true _ := hstart.goesOn_submitJobs hc.batch hc.compiles hc.pool
  have hdrained := hc.underway (hsubmitted.trans goesOn_drain)
  obtain ⟨calls, hprogress⟩ := hdrained.progress
  rw [hc.update true, if_pos rfl,
    pending_finishUpdate (hprogress.steady.graphs ▸ hc.batch.exists_graph)]
  exact (hc.underway hsubmitted).pending_drain hc.batch hc.compiles hc.pool rfl

/-- Nothing is published while a job is outstanding. -/
theorem Course.unpublished (hc : Course F s g q) (hsteps : Reaches g q sync c)
    (hpending : (c.2.graph g).pending ≠ []) :
    c.2.publishedGenerations g = s.publishedGenerations g :=
  (publishedGenerations_congr ((hc.underway hsteps).proxies hpending) g).trans hc.shown

/-- Two updates of a graph have come to the same: they have published as often, the proxies are
    equal, and so is what all resources show. -/
structure SameEnd (g : Nat) (s s' : Session) : Prop where
  publishedGenerations : s'.publishedGenerations g = s.publishedGenerations g
  proxy : ∃ x released, s.proxy? g = some x ∧ s'.proxy? g = some { x with released }
  resources : ∀ r, (s'.resource r).face = (s.resource r).face

/-- An update publishes its plan once when nothing is outstanding any more; where it has no jobs,
    when it returns. -/
theorem Course.published (hc : Course F s g q) (hsteps : Reaches g q sync c)
    (hreturned : updateJobs g q = [] → c.1 = .returned) (hnil : (c.2.graph g).pending = []) :
    ∃ x, c.2.Presents g (preparedPlan g q) (ready g q).proxies x ∧
      c.2.publishedGenerations g =
        s.publishedGenerations g ++ [(s.graph g).generation + 1] := by
  obtain ⟨x, hx⟩ := (hc.underway hsteps).presents hreturned hnil
  refine ⟨x, hx, ?_⟩
  rw [hx.publishedGenerations_eq, hc.shown, hc.generation]

/-- **All ways to the end** come to the same. -/
theorem Course.sameEnd {sync' : Bool} (hc : Course F s g q) (h : Reaches g q sync c)
    (h' : Reaches g q sync' c') (hreturned : updateJobs g q = [] → c.1 = .returned)
    (hreturned' : updateJobs g q = [] → c'.1 = .returned) (hnil : (c.2.graph g).pending = [])
    (hnil' : (c'.2.graph g).pending = []) : SameEnd g c.2 c'.2 := by
  obtain ⟨x, hx, hshown⟩ := hc.published h hreturned hnil
  obtain ⟨x', hx', hshown'⟩ := hc.published h' hreturned' hnil'
  have hu := hc.underway h
  have hu' := hc.underway h'
  have hsame := hu.agree hu' hc.holdings hc.level hnil hnil' hx hx'
  refine ⟨hshown'.trans hshown.symm, ⟨x, x'.released, hx.proxy?_eq, ?_⟩,
    hu.face_eq hu' hnil hnil'⟩
  rw [hx'.proxy?_eq, ← hsame]

/-- **Synchronous and asynchronous updates agree.**  If keys say what is compiled, both kinds of
    update end in the same way where an interface asks for a parameter that it has not declared.
    Otherwise the synchronous update returns and has published one proxy.  The asynchronous one
    returns as well; wherever it can be, with any number of workers that take the jobs in any order,
    it has published nothing while a job is outstanding, it has come to the same end when the last
    one comes back (or it returns, if it has no jobs), and there is a way to this end. -/
theorem UniformRun.updates_agree (h : UniformRun F H s) (hu : s.Uniform F g)
    (hg : g < s.graphs.size) (haccepts : s.accepts g = true)
    (hpool : (s.graph g).options.pool < s.pools.size) (hheld : s.held = false) :
    (∃ k u s', (k, .error (.undeclared u)) ∈ s.updateBuilds g ∧
      (∀ sync, s.update g sync = (.error (.undeclared u), s')) ∧ s'.live = [] ∧
      s'.publishedGenerations g = s.publishedGenerations g) ∨
    ∃ q s₁ s₂ x, s.MakesReady g q ∧ s.update g true = (.ok (), s₁) ∧
      (s₁.graph g).pending = [] ∧ s₁.proxy? g = some x ∧
      x.generation = (s.graph g).generation + 1 ∧
      s₁.publishedGenerations g = s.publishedGenerations g ++ [x.generation] ∧
      s.update g false = (.ok (), s₂) ∧ Reaches g q false (.returned, s₂) ∧
      ∀ stage s', Reaches g q false (stage, s') →
        ((s'.graph g).pending ≠ [] →
          s'.publishedGenerations g = s.publishedGenerations g) ∧
        ((s'.graph g).pending = [] → (updateJobs g q = [] → stage = .returned) →
          SameEnd g s₁ s') ∧
        ∃ s'', GoesOn g (preparedPlan g q) (updateJobs g q) false (stage, s') (.returned, s'') ∧
          (s''.graph g).pending = [] := by
  refine (h.run.makesReady hg haccepts hheld).imp_right ?_
  rintro ⟨q, hq⟩
  have hc := h.course hu hg haccepts hpool hheld hq
  have hsync := hc.reaches_update true
  have hnil := hc.pending_update
  obtain ⟨x, hx, hpublished⟩ := hc.published hsync (fun _ => rfl) hnil
  have hgeneration := hx.generation.trans hc.generation
  refine ⟨q, _, _, x, hq, hc.returns true, hnil, hx.proxy?_eq, hgeneration,
    hgeneration ▸ hpublished, hc.returns false, hc.reaches_update false,
    fun stage s' hsteps => ⟨hc.unpublished hsteps, fun hnil' hreturned => ?_,
      (hc.underway hsteps).ends hc.batch hc.compiles hc.pool⟩⟩
  exact hc.sameEnd hsync hsteps (fun _ => rfl) hreturned hnil hnil'

end

/-! ## Two kernels with one key -/

section
open VirtualPath (kernelWrapper)

/-- Two kernels on one interface that have the same body. -/
def pairGraph (a b : String) : Graph where
  name := "G"
  kernels := [some ⟨"A", some (entrySource a)⟩, some ⟨"B", some (entrySource b)⟩]
  interfaces := [some (.execution 64)]
  edges := [{ input := true }, { kernel := 1, input := true }]
  groups := [0]

/-- The build of one of the kernels. -/
def pairBuild (a b : String) (k : Nat) (source : KernelSource) : KernelBuild :=
  ((pairGraph a b).assemble {} k source .wgsl
    (FileStore.message "mock" FileStore.bareWrapper []).sum).toOption.getD default

/-- The kernels are built from any store that has the sources of the first one. -/
theorem build_pairGraph {a b : String} {files : FileStore} {k : Nat} {source : KernelSource}
    (hc : files.Current 0) (hs : files.source? 0 = wrapperFiles.source? 0) (hk : k < 2)
    (hsource : (pairGraph a b).source? k = some source)
    (hdigested : digested ((pairGraph a b).boundInterfaces k) files = files)
    (hassemble : (pairGraph a b).assemble files k source .wgsl
      (FileStore.message "mock" FileStore.bareWrapper []).sum = .ok (pairBuild a b k source)) :
    ((pairGraph a b).build files 0 k .wgsl "mock").result = .ok (pairBuild a b k source) := by
  have htext : files.source? 0 kernelWrapper = some FileStore.bareWrapper := by
    rw [hs]
    exact source?_wrapper
  refine Graph.build_eq_ok.2 ⟨source, _, Int.natCast_nonneg k, Int.ofNat_lt.2 hk, hsource, ?_,
    hassemble⟩
  rw [hdigested]
  exact hc.digest_eq_ok_iff.2 (FileStore.hasDigest_leaf htext FileStore.included_bareWrapper)

/-- The session with that graph, in which kernels with some entry points fail to compile. -/
def pairStart (a b : String) (failingEntries : List String) : Session :=
  Session.addGraph
    { files := wrapperFiles, scripts := [{ format := "mock", failingEntries }], cache := .empty 0 }
    (pairGraph a b) entryOptions

theorem buildAll_pairGraph {files : FileStore} (hc : files.Current 0)
    (hs : files.source? 0 = wrapperFiles.source? 0) (a b : String) :
    (pairGraph a b).buildAll 0 .wgsl "mock" (pairGraph a b).compilable files =
      [(0, .ok (pairBuild a b 0 (entrySource a))), (1, .ok (pairBuild a b 1 (entrySource b)))] := by
  have hfirst : ((pairGraph a b).build files 0 0 .wgsl "mock").result = _ :=
    build_pairGraph (k := 0) hc hs Nat.zero_lt_two rfl rfl rfl
  have hsecond : ((pairGraph a b).build (files.digest 0 kernelWrapper "mock").2 0 1 .wgsl
      "mock").result = _ :=
    build_pairGraph (k := 1) (hc.digest _ _)
      ((congrFun (FileStore.source?_digest _ _) 0).trans hs) Nat.one_lt_two rfl rfl rfl
  have hbuilds : (pairGraph a b).buildAll 0 .wgsl "mock" (pairGraph a b).compilable files =
      [(0, ((pairGraph a b).build files 0 0 .wgsl "mock").result),
        (1, ((pairGraph a b).build ((pairGraph a b).build files 0 0 .wgsl "mock").files 0 1 .wgsl
          "mock").result)] := rfl
  have hfiles : ((pairGraph a b).build files 0 0 .wgsl "mock").files =
      (files.digest 0 kernelWrapper "mock").2 := Graph.build_files hfirst
  rw [hbuilds, hfiles, hfirst, hsecond]

theorem updateBuilds_pairStart (a b : String) (failingEntries : List String) :
    (pairStart a b failingEntries).updateBuilds 0 =
      [(0, .ok (pairBuild a b 0 (entrySource a))), (1, .ok (pairBuild a b 1 (entrySource b)))] :=
  buildAll_pairGraph current_wrapperFiles rfl a b

/-- The two kernels have one key, whatever their entry points are. -/
theorem hashKey_pairBuild (a b : String) : (pairBuild a b 0 (entrySource a)).hashKey =
    (pairBuild a b 1 (entrySource b)).hashKey := rfl

theorem uniformRun_pairStart (F : ProgramKey → Except ProgramError Program) (a b : String)
    (failingEntries : List String) : UniformRun F [] (pairStart a b failingEntries) :=
  .step (.addGraph (pairGraph a b) entryOptions) .addGraph (fun h => by cases h)
    (.start reachable_wrapperFiles _ _)

/-- Keys say what two kernels with one entry point compile to. -/
theorem exists_uniform_pairStart (a : String) (failingEntries : List String) :
    ∃ F, (pairStart a a failingEntries).Uniform F 0 := by
  obtain ⟨F, hF⟩ := exists_compilesTo (P := fun s j => s = pairStart a a failingEntries ∧
    j.graph = 0 ∧ j.format = "mock" ∧ (j.build = pairBuild a a 0 (entrySource a) ∨
      j.build = pairBuild a a 1 (entrySource a))) (by
    rintro s j s' j' ⟨rfl, hgraph, hformat, hbuild⟩ ⟨rfl, hgraph', hformat', hbuild'⟩ _
    rw [hgraph, hgraph', hformat, hformat']
    refine ⟨rfl, ?_, ?_⟩
    · rcases hbuild with h | h <;> rcases hbuild' with h' | h' <;> rw [h, h'] <;> rfl
    · rcases hbuild with h | h <;> rcases hbuild' with h' | h' <;> rw [h, h'] <;> rfl)
  refine ⟨F, ⟨fun id hid => (by cases hid), fun j hgraph hformat hmem =>
    hF _ j ⟨rfl, hgraph, hformat, ?_⟩⟩⟩
  rw [updateBuilds_pairStart] at hmem
  simp only [List.mem_cons, Prod.mk.injEq, Except.ok.injEq, List.not_mem_nil, or_false] at hmem
  exact hmem.imp And.right And.right

/-- The updates of a graph with two kernels that share a program agree. -/
theorem updates_agree_pairStart :
    ∃ q s₁ s₂ x, (pairStart "Main" "Main" []).MakesReady 0 q ∧
      (pairStart "Main" "Main" []).update 0 true = (.ok (), s₁) ∧ (s₁.graph 0).pending = [] ∧
      s₁.proxy? 0 = some x ∧ x.generation = 1 ∧
      s₁.publishedGenerations 0 = [x.generation] ∧
      (pairStart "Main" "Main" []).update 0 false = (.ok (), s₂) ∧
      Reaches 0 q false (.returned, s₂) ∧
      ∀ stage s', Reaches 0 q false (stage, s') →
        ((s'.graph 0).pending ≠ [] → s'.publishedGenerations 0 = []) ∧
        ((s'.graph 0).pending = [] → (updateJobs 0 q = [] → stage = .returned) →
          SameEnd 0 s₁ s') ∧
        ∃ s'', GoesOn 0 (preparedPlan 0 q) (updateJobs 0 q) false (stage, s') (.returned, s'') ∧
          (s''.graph 0).pending = [] := by
  obtain ⟨F, hu⟩ := exists_uniform_pairStart "Main" []
  rcases (uniformRun_pairStart F "Main" "Main" []).updates_agree hu Nat.zero_lt_one
    (by decide) (by decide) rfl with ⟨k, u, _, hmem, _⟩ | hagree
  · rw [updateBuilds_pairStart] at hmem
    simp at hmem
  · exact hagree

end

/-- An update does not always publish. -/
theorem not_updates_agree :
    ¬ ∀ (F : ProgramKey → Except ProgramError Program) (H : List Started) (s : Session)
    (g : Nat), UniformRun F H s → s.Uniform F g → g < s.graphs.size → s.accepts g = true →
    (s.graph g).options.pool < s.pools.size → s.held = false →
    (s.update g false).2.drain.publishedGenerations g =
      s.publishedGenerations g ++ [(s.graph g).generation + 1] := by
  intro h
  have hrun : UniformRun (fun _ => .error .negativeCount) [] unboundStart :=
    .step (.addGraph unboundGraph entryOptions) .addGraph (fun h => by cases h)
      (.start reachable_wrapperFiles _ _)
  have haccepts : unboundStart.accepts 0 = true := by decide
  have hbuilds : unboundStart.updateBuilds 0 =
      [(0, (unboundGraph.build wrapperFiles 0 0 .wgsl "mock").result)] := rfl
  have huniform : unboundStart.Uniform (fun _ => .error .negativeCount) 0 := by
    refine ⟨fun id hid => (by cases hid), fun j _ _ hmem => ?_⟩
    rw [hbuilds, build_unboundGraph] at hmem
    simp at hmem
  have hpublishes := h _ [] unboundStart 0 hrun huniform Nat.zero_lt_one haccepts (by decide) rfl
  rcases hrun.run.makesReady Nat.zero_lt_one haccepts rfl with
    ⟨_, _, s', _, hupdate, hlive, hshown⟩ | ⟨q, hq⟩
  · rw [hupdate, drain_idle (idle_of_live_eq_nil hlive), hshown] at hpublishes
    simp at hpublishes
  · have herror := update_unboundStart
    rw [update_eq_startGeneration haccepts, startGeneration_eq true hq] at herror
    cases herror

end KernelGraph.Session
