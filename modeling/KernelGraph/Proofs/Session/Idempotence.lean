/-
  Updates that are repeated.

  An update has waited for its compiles, and another one does so later; in between the graph was not
  edited, and the registries still give the same answers.

  1. Both make the same plan, since the graph is built to the same (`Updated.plan`,
     `Edited.plan_eq`).

  2. A kernel that the first update has left compiled is reused.  One that has failed fails again:
     it could not be built, or its key cannot be compiled (`Updated.leaves`, `Updated.fails`).  One
     that has no source is left alone (`Updated.sourceless`).  So all resources stay (`Stays`).

  3. Hence the second proxy is the first one under another number (`UniformRun.update_again`).
-/
import KernelGraph.Proofs.Session.Reuse

namespace KernelGraph

open KernelGraph.Graph (Alike Answers SameAnswers)

/-! ## Plans -/

/-- Only kernels with a source are compiled. -/
theorem Graph.isSome_source? {G : Graph} {k : Nat} (hk : k ∈ G.compilable.map Prod.fst) :
    (G.source? k).isSome := by
  obtain ⟨⟨k, kernel, source⟩, hcompilable, rfl⟩ := List.mem_map.1 hk
  rw [Graph.source?_of_mem_compilable hcompilable]
  rfl

/-- The builds that have come to something. -/
def successes (builds : List (Nat × Except GraphError KernelBuild)) : List (Nat × KernelBuild) :=
  builds.filterMap fun x => x.2.toOption.map (x.1, ·)

theorem successes_cons (k : Nat) (built : Except GraphError KernelBuild)
    (builds : List (Nat × Except GraphError KernelBuild)) :
    successes ((k, built) :: builds) = (built.toOption.map (k, ·)).toList ++ successes builds := by
  cases built with
  | error e => rfl
  | ok b => rfl

theorem Graph.Alike.toOption {built built' : Except GraphError KernelBuild}
    (h : Alike built built') : built'.toOption = built.toOption := by
  cases h with
  | same => rfl
  | wrapper => rfl

/-- A graph that is built twice comes to the same. -/
theorem Graph.Answers.successes_buildAll {registry : Nat} {format : String}
    {wrapper : Option Digest}
    {shown : String → Option String} {files files' : FileStore}
    (h : Answers registry format wrapper shown files)
    (h' : Answers registry format wrapper shown files') (G : Graph) (d : Dialect)
    (ks : List (Nat × Kernel × KernelSource)) :
    successes (G.buildAll registry d format ks files') =
      successes (G.buildAll registry d format ks files) := by
  induction ks generalizing files files' with
  | nil => rfl
  | cons x ks ih =>
    rw [Graph.buildAll, Graph.buildAll, successes_cons, successes_cons,
      (Graph.build_alike h h' G x.1 d).toOption, ih (h.build G x.1 d) (h'.build G x.1 d)]

namespace Session

section
variable {R : Session} {g : Nat} {p q : Prepared} {d : Dialect}

/-- **A plan is made of the builds** that the graph comes to. -/
theorem Preparation.builds_eq {ks : List (Nat × Kernel × KernelSource)}
    (h : Preparation g R (ks.map Prod.fst) p) (hq : (Session.prepareKernels g d ks p).1 = .ok q) :
    q.builds = p.builds ++ successes ((R.graph g).definition.buildAll
      (R.graph g).options.registry d (R.graph g).options.format ks p.session.files) := by
  induction ks generalizing p with
  | nil =>
    cases hq
    exact (List.append_nil _).symm
  | cons y ks ih =>
    obtain ⟨k, kernel, source⟩ := y
    rw [Graph.buildAll, ← h.buildOutcome_eq d k, successes_cons]
    unfold Session.prepareKernels at hq
    split at hq
    · cases hq
    · rename_i p' s' heq
      have hp' : (Session.prepareKernel g d p k kernel source).1 = .ok p' := by rw [heq]
      obtain ⟨_, _, hnext⟩ := h.prepareKernel d kernel source
      have hbuilds : p'.builds = p.builds ++
          ((p.session.buildOutcome g d k).result.toOption.map (k, ·)).toList := by
        obtain ⟨r, s'', _, _, hprepares⟩ := h.provided d kernel source
        rw [heq] at hprepares
        generalize (p.session.buildOutcome g d k).result = built at hprepares
        cases hprepares with
        | failed => exact (List.append_nil _).symm
        | reused => rfl
        | begun => rfl
      rw [ih (hnext p' hp').2 hq, hbuilds, List.append_assoc,
        (Preparation.brings h d kernel source hp').1]

end

section
variable {F : ProgramKey → Except ProgramError Program} {H : List Started} {s s' t : Session}
  {g k r : Nat} {q : Prepared} {others calls : List HookCall} {x : RenderProxy}
  {built : Except GraphError KernelBuild}

theorem Updated.plan (hu : Updated s g t q others calls s' x) (hg : g < s.graphs.size) :
    preparedPlan g q = (s.graph g).definition.plan ((s.graph g).generation + 1)
      (s.graph g).options.level (successes (s.updateBuilds g)) := by
  obtain ⟨sets, hgraph⟩ := hu.launches.graph hu.cleared
  have hstart := Preparation.resizeSets hu.cleared.holdings (hu.cleared.lt_size hg)
  have hbuilds : q.builds = _ :=
    (hstart.builds_eq (congrArg Prod.fst hu.prepared)).trans (List.nil_append _)
  rw [updateBuilds, ← hu.cleared.graphBuilds, preparedPlan, hgraph, hbuilds]
  rfl

/-- The graph that an update leaves. -/
theorem Updated.kept (hu : Updated s g t q others calls s' x) :
    (s'.graph g).definition = (s.graph g).definition ∧
      (s'.graph g).options = (s.graph g).options ∧ (s'.graph g).closed = (s.graph g).closed := by
  obtain ⟨sets, hgraph⟩ := hu.launches.graph hu.cleared
  have hsteady := hu.completed.steady.graph g
  rw [hsteady.definition, hsteady.options, hsteady.closed, hgraph]
  exact ⟨rfl, rfl, rfl⟩

/-- Its proxy shows what one finds in the slots. -/
theorem Updated.currentProgram_plan (hu : Updated s g t q others calls s' x) :
    (fun v : Invocation => { v with
      program := s'.currentProgram g v.kernel (preparedPlan g q).level }) =
        fun v => { v with program := s'.foundProgram g v.kernel } := by
  funext v
  have hlevel : (preparedPlan g q).level = (s'.graph g).options.level := by
    rw [(hu.completed.steady.graph g).options]
    rfl
  rw [hlevel, currentProgram_eq]

theorem Updated.mem_compilable_of_plan (hu : Updated s g t q others calls s' x)
    (hg : g < s.graphs.size) {v : Invocation} (hv : v ∈ (preparedPlan g q).invocations) :
    v.kernel ∈ (s.graph g).definition.compilable.map Prod.fst := by
  rw [hu.plan hg] at hv
  obtain ⟨y, hy, rfl⟩ := List.mem_map.1 hv
  exact List.mem_map_of_mem hy

/-! ## What becomes of a kernel -/

/-- The kernel cannot be compiled: it was not built, or its key comes to an error. -/
def Hopeless (F : ProgramKey → Except ProgramError Program) (format : String)
    (built : Except GraphError KernelBuild) : Prop :=
  ∀ b, built = .ok b → ∃ e, F ⟨format, b.hashKey⟩ = .error e

theorem Hopeless.alike {format : String} {built' : Except GraphError KernelBuild}
    (h : Hopeless F format built) (halike : Alike built built') : Hopeless F format built' :=
  fun b hb => h b (halike.ok hb)

theorem Updated.makesReady (hu : Updated s g t q others calls s' x) : s.MakesReady g q := by
  obtain rfl := hu.found
  exact hu.prepared

/-- Where a job has come back its key has decided its resource. -/
theorem Course.decided (hc : Course F s g q) {j : Job} (hj : j ∈ updateJobs g q) :
    ((s.update g true).2.resource j.resource).face =
      ((ready g q).resource j.resource).decided j (F (jobKey j)) := by
  have hunderway := hc.underway (hc.reaches_update true)
  obtain ⟨calls, hprogress⟩ := hunderway.progress
  exact hunderway.decided.finished j hj (hprogress.pending_eq_nil_iff.1 hc.pending_update j hj)

/-- **The job of a kernel** that was begun. -/
theorem Updated.job (hu : Updated s g t q others calls s' x) (hc : Course F s g q) {name : String}
    {isDefault : Bool} {b : KernelBuild} (hjob : (k, name, isDefault, r, b) ∈ q.jobs) :
    ∃ j, (s'.resource r).face = (q.session.resource r).decided j
      (F ⟨(s.graph g).options.format, b.hashKey⟩) := by
  obtain ⟨j, hj, hresource, hbuild⟩ : ∃ j ∈ updateJobs g q, j.resource = r ∧ j.build = b :=
    ⟨_, List.mem_map.2 ⟨_, hjob, rfl⟩, rfl, rfl⟩
  obtain ⟨sets, hgraph⟩ := hu.launches.graph hu.cleared
  have hformat : j.format = (s.graph g).options.format := by
    rw [hc.batch.format j hj, ((steady_ready g q).graph g).options, hgraph]
  have hready : (ready g q).resource j.resource = q.session.resource j.resource := by
    obtain ⟨_, _, _, heq⟩ := ready_eq g q
    rw [heq]
    rfl
  have hdecided := hc.decided hj
  rw [hready, hu.update, hresource, jobKey, hformat, hbuild] at hdecided
  exact ⟨j, hdecided⟩

/-- **What an update leaves** in the slot of a kernel is compiled, or has failed and cannot be
    compiled. -/
theorem Updated.leaves (hu : Updated s g t q others calls s' x) (hc : Course F s g q)
    (hmem : (k, built) ∈ s.updateBuilds g) : ∃ r, s'.owned? g k = some r ∧
      ((s'.resource r).state = .compiled ∨ (s'.resource r).state = .failed ∧
        Hopeless F (s.graph g).options.format built) := by
  have hapart := List.nodup_append.1 (List.nodup_append.1 hu.launches.preparation.apart).1
  cases hu.readied _ hmem with
  | @failed e r hbuilt hslot hfailed hstate =>
    have hjobs : k ∉ q.jobs.map Prod.fst := fun hmem => hapart.2.2 _ hfailed _ hmem rfl
    refine ⟨r, (hu.completed.slot k).trans hslot, Or.inr ⟨?_, fun b hb => ?_⟩⟩
    · rw [(hu.completed.of_not_mem hu.launches hjobs).2 r hslot, hstate]
    · cases hbuilt.symm.trans hb
  | @reused b r hbuilt hslot _ hreuse hsame _ hjobs =>
    refine ⟨r, (hu.completed.slot k).trans hslot, Or.inl ?_⟩
    rw [(hu.completed.of_not_mem hu.launches hjobs).2 r hslot, hsame]
    exact (Resource.isReusable_iff.1 hreuse).1
  | @begun b r name isDefault hbuilt hslot hjob =>
    obtain ⟨j, hdecided⟩ := hu.job hc hjob
    refine ⟨r, (hu.completed.slot k).trans hslot, ?_⟩
    have hstate := congrArg Resource.state hdecided
    cases hF : F ⟨(s.graph g).options.format, b.hashKey⟩ with
    | ok p =>
      rw [hF] at hstate
      exact Or.inl hstate
    | error e =>
      rw [hF] at hstate
      refine Or.inr ⟨hstate, fun b' hb' => ?_⟩
      cases hbuilt.symm.trans hb'
      exact ⟨e, hF⟩

/-- **A kernel that cannot be compiled fails**, and keeps its program. -/
theorem Updated.fails (hu : Updated s g t q others calls s' x)
    (hc : Course F s g q) (hs : s.Holdings)
    (hg : g < s.graphs.size) (hmem : (k, built) ∈ s.updateBuilds g) (hr : s.owned? g k = some r)
    (hstate : (s.resource r).state ≠ .compiled)
    (hhopeless : Hopeless F (s.graph g).options.format built) :
    s'.owned? g k = some r ∧ (s'.resource r).state = .failed ∧
      (s'.resource r).program = (s.resource r).program := by
  have hk := Graph.lt_of_mem_compilable (mem_compilable_of_updateBuilds hmem)
  have hapart := List.nodup_append.1 (List.nodup_append.1 hu.launches.preparation.apart).1
  have hR := (hu.cleared.owned? hs hg hk).1.trans hr
  have hkept : (t.resizeSets g).slotProgram g k = (s.resource r).program := by
    rw [hu.cleared.slotProgram hs hg hk, slotProgram, hr, Option.bind_some]
  cases hu.readied _ hmem with
  | failed _ hslot hfailed hstate' _ _ hprogram hsame =>
    cases hsame r hR
    have hjobs : k ∉ q.jobs.map Prod.fst := fun hmem => hapart.2.2 _ hfailed _ hmem rfl
    rw [(hu.completed.of_not_mem hu.launches hjobs).2 r hslot, hprogram]
    exact ⟨(hu.completed.slot k).trans hslot, hstate', hkept⟩
  | @reused b _ _ _ hR' hreuse =>
    cases hR.symm.trans hR'
    rw [hu.cleared.isReusable hs hg hk hr] at hreuse
    exact absurd (Resource.isReusable_iff.1 hreuse).1 hstate
  | @begun b _ name isDefault hbuilt hslot hjob _ hprogram hsame =>
    cases hsame r hR
    obtain ⟨j, hdecided⟩ := hu.job hc hjob
    obtain ⟨e, he⟩ := hhopeless b hbuilt
    rw [he] at hdecided
    have hfailed := congrArg Resource.state hdecided
    have hsame := congrArg Resource.program hdecided
    exact ⟨(hu.completed.slot k).trans hslot, hfailed, hsame.trans (hprogram.trans hkept)⟩

/-- Only kernels that the graph has are in slots when an update has returned. -/
theorem Updated.lt_length (hu : Updated s g t q others calls s' x) (hg : g < s.graphs.size)
    (hr : s'.owned? g k = some r) : k < (s.graph g).definition.kernels.length := by
  by_cases hk : k ∈ (s.graph g).definition.compilable.map Prod.fst
  · exact Graph.lt_of_mem_compilable hk
  · rw [hu.completed.slot, (hu.beside k hk).slot] at hr
    obtain ⟨set, hset, _⟩ := owns_of_owned? hr
    rw [sets_resizeSets hu.cleared.holdings (hu.cleared.lt_size hg), getElem?_matchedSets,
      hu.cleared.graph] at hset
    by_contra hlt
    rw [if_neg hlt] at hset
    cases hset

/-- **A kernel without a source is left alone.** -/
theorem Updated.sourceless (hu : Updated s g t q others calls s' x) (hs : s.Holdings)
    (hg : g < s.graphs.size) (hk : k ∉ (s.graph g).definition.compilable.map Prod.fst)
    (hlt : k < (s.graph g).definition.kernels.length) (hr : s.owned? g k = some r) :
    s'.owned? g k = some r ∧ s'.resource r = (s.resource r).takeTask.2 ∧ k ∉ q.failed ∧
      k ∉ q.jobs.map Prod.fst := by
  have hbeside := hu.beside k hk
  obtain ⟨hslot, hresource⟩ := hu.cleared.owned? hs hg hlt
  have hR := hslot.trans hr
  have hfailed : k ∉ q.failed := fun hmem => by cases hbeside.failed.1 hmem
  have hjobs : k ∉ q.jobs.map Prod.fst := fun hmem => by
    obtain ⟨y, hy, heq⟩ := List.mem_map.1 hmem
    cases (hbeside.jobs y heq).1 hy
  have hq := hbeside.slot.trans hR
  refine ⟨(hu.completed.slot k).trans hq, ?_, hfailed, hjobs⟩
  rw [(hu.completed.of_not_mem hu.launches hjobs).2 r hq, hbeside.resource (owns_of_owned? hR),
    hresource r hr]

end

/-! ## Two updates -/

/-- A resource that was in a slot in `s₁` is there, as it was, when the update of `s₂` has led to
    `s₃` and called the hook with `calls`.  If it was compiled, it was left alone. -/
structure Stays (s₁ s₂ s₃ : Session) (g k r : Nat) (calls : List HookCall) : Prop where
  slot : s₃.owned? g k = some r
  state : (s₃.resource r).state = (s₁.resource r).state
  program : (s₃.resource r).program = (s₁.resource r).program
  quiet : (s₁.resource r).state = .compiled → hookResults calls g k = [] ∧
    ∀ id task, s₃.tasks[id]? = some task → s₂.tasks.size ≤ id → task.job.kernel ≠ k

section
variable {F : ProgramKey → Except ProgramError Program} {H H₂ : List Started}
  {s s₁ s₂ s₃ t t₂ : Session} {g k r : Nat} {q q₂ : Prepared}
  {others calls others₂ calls₂ : List HookCall} {x x₂ : RenderProxy} {G : Graph}

variable (h : Run H s) (hg : g < s.graphs.size)
  (hsame : SameAnswers (s.graph g).options.registry (s.graph g).options.format s₁.files s₂.files)
  (he : Edited G G s g true s₁ s₂) (hu : Updated s g t q others calls s₁ x) (hc : Course F s g q)
  (h₂ : Run H₂ s₂) (hu₂ : Updated s₂ g t₂ q₂ others₂ calls₂ s₃ x₂) (hc₂ : Course F s₂ g q₂)

include h hg in
/-- The graph has not got another number. -/
theorem Edited.same_graph (he : Edited G G s g true s₁ s₂) : g < s₂.graphs.size ∧
      (s₂.graph g).options = (s.graph g).options ∧
      (s₂.graph g).generation = (s.graph g).generation + 1 := by
  have honward := h.onward ((he.later₀ hg).trans he.later) g
  exact ⟨Nat.lt_of_lt_of_le hg honward.size, honward.options hg,
    he.generation.trans (h.serving hg he.free he.update).generation⟩

include h hg hsame he hu hu₂ in
/-- **The second plan** is the first one under the next number. -/
theorem Edited.plan_eq : preparedPlan g q₂ =
    { preparedPlan g q with generation := (preparedPlan g q).generation + 1 } := by
  obtain ⟨wrapper, shown, hanswers, hanswers₂⟩ := he.answers h hg hsame
  obtain ⟨hbuilds, hbuilds₂⟩ := he.updateBuilds h hg
  obtain ⟨hg₂, hoptions, hgeneration⟩ := he.same_graph h hg
  rw [hu₂.plan hg₂, hu.plan hg, hbuilds, hbuilds₂, hanswers.successes_buildAll hanswers₂, he.before,
    he.after, hoptions, hgeneration]
  rfl

include h hg hsame he hu hc h₂ hu₂ hc₂ in
/-- **Every resource stays.** -/
theorem Edited.stays (hr : s₁.owned? g k = some r) (hsettled : (s₁.resource r).state ≠ .compiling) :
    Stays s₁ s₂ s₃ g k r
      (others₂ ++ q₂.failed.filterMap (q₂.session.failureCall g) ++ calls₂) := by
  obtain ⟨H₁, hrun₁⟩ := (he.later₀ hg).run h
  obtain ⟨hr₂, hrests⟩ := hrun₁.rests he.later he.generation hr hsettled
  obtain ⟨hg₂, hoptions, _⟩ := he.same_graph h hg
  obtain ⟨_, hreachable⟩ := h₂.reachable
  have hs₂ := hreachable.orderly.holdings
  have hkept := Resource.face_program hrests.face
  by_cases hk : k ∈ G.compilable.map Prod.fst
  · obtain ⟨built, built', hbuilt, hbuilt', halike⟩ :=
      he.builds h hg hsame (.refl G k) (Graph.isSome_source? hk)
    obtain ⟨r', hr', hleft⟩ := hu.leaves hc hbuilt
    cases hr.symm.trans hr'
    rcases hleft with hcompiled | ⟨hfailed, hhopeless⟩
    · obtain ⟨b, rfl, hreuses⟩ := h.reuses hg he.free he.update he.later he.generation hbuilt hr₂
        (hrests.state.trans hcompiled)
      obtain rfl := halike.symm.ok rfl
      obtain ⟨r', hsr, hreuse⟩ := hreuses
      cases hr₂.symm.trans hsr
      have hspared := hu₂.spared h₂ hg₂ hbuilt' hr₂ hreuse
      exact ⟨hspared.after, hspared.state.trans hcompiled.symm, hspared.program.trans hkept,
        fun _ => ⟨hspared.untold, hspared.unsubmitted⟩⟩
    · have hnot : (s₂.resource r).state ≠ .compiled := by
        rw [hrests.state, hfailed]
        simp
      rw [← hoptions] at hhopeless
      obtain ⟨hslot, hstate, hprogram⟩ :=
        hu₂.fails hc₂ hs₂ hg₂ hbuilt' hr₂ hnot (hhopeless.alike halike)
      refine ⟨hslot, hstate.trans hfailed.symm, hprogram.trans hkept, fun hcompiled => ?_⟩
      cases hfailed.symm.trans hcompiled
  · have hlt := hu.lt_length hg hr
    rw [he.before] at hlt
    rw [← he.after] at hk hlt
    obtain ⟨hslot, hresource, hfailed, hjobs⟩ := hu₂.sourceless hs₂ hg₂ hk hlt hr₂
    have htaken := (Resource.lasting_rests 0 _).takeTask hrests
    rw [← hresource] at htaken
    exact ⟨hslot, htaken.state, Resource.face_program htaken.face, fun _ =>
      hu₂.completed.quiet hu₂.launches hu₂.size hu₂.elsewhere hfailed hjobs⟩

include h hg hsame he hu hc h₂ hu₂ hc₂ in
/-- So one finds the same programs for the kernels of the plan. -/
theorem Edited.foundProgram_eq (hk : k ∈ G.compilable.map Prod.fst) :
    s₃.foundProgram g k = s₁.foundProgram g k := by
  obtain ⟨built, _, hbuilt, _, _⟩ :=
    he.builds h hg hsame (.refl G k) (Graph.isSome_source? hk)
  obtain ⟨r, hr, _⟩ := hu.leaves hc hbuilt
  have hstays := he.stays h hg hsame hu hc h₂ hu₂ hc₂ hr (hu.settled hbuilt r hr)
  obtain ⟨hg₂, hoptions, _⟩ := he.same_graph h hg
  obtain ⟨_, hrun₁⟩ := (he.later₀ hg).run h
  obtain ⟨_, hrun₃⟩ := hu₂.run h₂ hg₂
    (accepts_of_update (he.free₂ h hg) (by rw [hu₂.update]))
  have hoptions₁ : (s₁.graph g).options = (s.graph g).options := hu.kept.2.1
  have hoptions₃ : (s₃.graph g).options = (s₁.graph g).options :=
    hu₂.kept.2.1.trans (hoptions.trans hoptions₁.symm)
  rw [hrun₃.holdings.foundProgram_eq, hrun₁.holdings.foundProgram_eq, seen_congr hoptions₃,
    slotProgram, slotProgram, hr, hstays.slot, Option.bind_some, Option.bind_some, hstays.program]

include h hg hsame he hu hc h₂ hu₂ hc₂ in
/-- **The second proxy** is the first one under the next number. -/
theorem Edited.proxy_eq :
    x₂ = { x with generation := x.generation + 1, released := x₂.released } := by
  have hx := hu.completed.presents
  have hx₂ := hu₂.completed.presents
  have hplan := he.plan_eq h hg hsame hu hu₂
  have hinvocations : x₂.invocations = x.invocations := by
    rw [hx₂.invocations, hx.invocations, planProxy, planProxy]
    dsimp only
    rw [hu₂.currentProgram_plan, hu.currentProgram_plan, hplan]
    refine List.map_congr_left fun v hv => ?_
    have hk := hu.mem_compilable_of_plan hg hv
    rw [he.before] at hk
    rw [he.foundProgram_eq h hg hsame hu hc h₂ hu₂ hc₂ hk]
  have hname : x₂.graphName = x.graphName := by
    rw [hx₂.name, hx.name, hu₂.kept.1, hu.kept.1, he.after, he.before]
  have hgeneration : x₂.generation = x.generation + 1 := by
    rw [hx₂.generation, hx.generation, hplan]
  obtain ⟨graph, name, generation, invocations, released⟩ := x
  obtain ⟨graph', name', generation', invocations', released'⟩ := x₂
  cases hinvocations
  cases hname
  cases hgeneration
  cases hx.graph.trans hx₂.graph.symm
  rfl

end

/-! ## Idempotence -/

/-- The update that leads from `s₂` to `s₃` repeats the one that has led to `s₁`: it returns and
    publishes one proxy, the one of that update under the next number, and all resources stay. -/
structure Repeats (g : Nat) (s₁ s₂ s₃ : Session) : Prop where
  update : s₂.update g true = (.ok (), s₃)
  published : s₃.publishedGenerations g =
    s₂.publishedGenerations g ++ [(s₁.graph g).generation + 1]
  proxy : ∃ x released, s₁.proxy? g = some x ∧ x.generation = (s₁.graph g).generation ∧
    s₃.proxy? g = some { x with generation := x.generation + 1, released }
  settled : ∀ k ∈ (s₁.graph g).definition.compilable.map Prod.fst,
    s₁.InSlot g k fun y => y.state ≠ .compiling
  kernels : ∃ calls, s₃.hooks = s₂.hooks ++ calls ∧ ∀ k r, s₁.owned? g k = some r →
    (s₁.resource r).state ≠ .compiling → Stays s₁ s₂ s₃ g k r calls

section
variable {F : ProgramKey → Except ProgramError Program} {H H₂ : List Started}
  {s s₁ s₂ t : Session} {g : Nat} {q : Prepared} {others calls : List HookCall} {x : RenderProxy}
  {G : Graph} {sync : Bool}

/-- If the first update has returned, no interface asks for what it has not declared. -/
theorem Edited.declared (he : Edited G G s g sync s₁ s₂) (h : Run H s) (hg : g < s.graphs.size)
    (hsame : SameAnswers (s.graph g).options.registry (s.graph g).options.format s₁.files s₂.files)
    (k : Nat) (e : UndeclaredParameter) : (k, .error (.undeclared e)) ∉ s₂.updateBuilds g := by
  intro hmem
  have hk := mem_compilable_of_updateBuilds hmem
  rw [he.after] at hk
  have hsource := Graph.isSome_source? hk
  obtain ⟨built, _, hbuilt, _, _⟩ := he.builds h hg hsame (.refl G k) hsource
  have halike := he.alike h hg hsame (.refl G k) hsource hbuilt hmem
  rw [halike.undeclared rfl] at hbuilt
  exact (h.serving hg he.free he.update).declared k e hbuilt

/-- **An update repeats the one before.** -/
theorem UniformRun.repeats (h : UniformRun F H s) (hg : g < s.graphs.size)
    (hsame : SameAnswers (s.graph g).options.registry (s.graph g).options.format s₁.files s₂.files)
    (hu : Updated s g t q others calls s₁ x) (hc : Course F s g q)
    (he : Edited G G s g true s₁ s₂) (h₂ : UniformRun F H₂ s₂) (hu₂ : s₂.Uniform F g)
    (haccepts : s₂.accepts g = true) (hpool : (s₂.graph g).options.pool < s₂.pools.size)
    (hheld : s₂.held = false) : ∃ s₃, Repeats g s₁ s₂ s₃ := by
  obtain ⟨hg₂, hoptions, hgeneration⟩ := he.same_graph h.run hg
  obtain ⟨t₂, q₂, others₂, calls₂, s₃, x₂, hup₂⟩ := h₂.run.updated hg₂ haccepts
    hpool hheld (he.declared h.run hg hsame)
  have hc₂ := h₂.course hu₂ hg₂ haccepts hpool hheld hup₂.makesReady
  have hgeneration₁ : x.generation = (s₁.graph g).generation := by
    rw [hu.completed.presents.generation, hu.plan hg, ← he.generation, hgeneration]
    rfl
  refine ⟨s₃, hup₂.update, ?_, ⟨x, x₂.released, hu.completed.presents.proxy?_eq, hgeneration₁, ?_⟩,
    fun k hk => ?_, ⟨_, hup₂.hooks, fun k r hr hsettled => ?_⟩⟩
  · have hsteps := hc₂.reaches_update true
    rw [hup₂.update] at hsteps
    obtain ⟨_, _, hshown⟩ := hc₂.published hsteps (fun _ => rfl) hup₂.completed.pending
    rw [hshown, he.generation]
  · have hproxy := he.proxy_eq h.run hg hsame hu hc h₂.run hup₂ hc₂
    rw [hup₂.completed.presents.proxy?_eq, hproxy]
  · rw [hu.kept.1, he.before] at hk
    obtain ⟨built, _, hbuilt, _, _⟩ :=
      he.builds h.run hg hsame (.refl G k) (Graph.isSome_source? hk)
    exact hu.settled hbuilt
  · exact he.stays h.run hg hsame hu hc h₂.run hup₂ hc₂ hr hsettled

/-- The compilers stay. -/
theorem Updated.surroundings (hu : Updated s g t q others calls s₁ x) :
    s₁.scripts = s.scripts ∧ s₁.held = s.held := by
  obtain ⟨hresized, _⟩ := resizeSets_fields hu.cleared.holdings g
  have hprepared := hresized.trans hu.launches.begun.toUndisturbed
  exact ⟨hu.completed.steady.scripts.trans (hprepared.scripts.trans hu.cleared.steady.scripts),
    hu.completed.steady.held.trans (hprepared.held.trans hu.cleared.steady.held)⟩

/-- Nothing happens after an update. -/
theorem Updated.edited (hu : Updated s g t q others calls s₁ x)
    (hfree : (s.graph g).locked = false) :
    Edited (s.graph g).definition (s.graph g).definition s g true s₁ s₁ where
  before := rfl
  free := hfree
  update := hu.update
  later := .refl
  generation := rfl
  after := hu.kept.1
  dialect := by
    unfold Session.dialect Session.compiler? Session.script?
    rw [hu.kept.2.1, hu.surroundings.1]

theorem Updated.accepts (hu : Updated s g t q others calls s₁ x)
    (hfree : (s₁.graph g).locked = false) (haccepts : s.accepts g = true) :
    s₁.accepts g = true := by
  obtain ⟨hdefinition, hoptions, hclosed⟩ := hu.kept
  have hfree₀ := free_of_accepts haccepts
  unfold Session.accepts Session.compiler? Session.script? at haccepts ⊢
  dsimp only at haccepts ⊢
  rw [hdefinition, hoptions, hclosed, hu.surroundings.1, hfree, ← hfree₀]
  exact haccepts

/-- **Keys decide what the next update compiles**, if they decide it for this one. -/
theorem UniformRun.next (h : UniformRun F H s) (hu : s.Uniform F g) (hg : g < s.graphs.size)
    (hfree : (s.graph g).locked = false) (hup : Updated s g t q others calls s₁ x)
    (hc : Course F s g q) :
    (∃ H₁, UniformRun F H₁ s₁) ∧ s₁.Uniform F g := by
  have haccounts := (stable_accounts F s).action (.refl h.run.tidy.wired h.programs)
    (.update g true) fun h => by cases h
  have happly : (Action.update g true).apply s = s₁ := congrArg Prod.snd hup.update
  rw [happly] at haccounts
  have hcompiles : AllCompileTo F s s₁ := by
    intro id task htask hid
    rcases hid with hlive | hnew
    · -- the task was there before, with the same job
      have hold := Array.getElem?_eq_getElem (h.run.tidy.wired.lt id hlive)
      obtain ⟨_, htask', hjob⟩ := haccounts.jobs id _ hold
      cases htask.symm.trans htask'
      rw [hjob]
      exact hu.live id hlive _ hold
    · rcases hup.completed.tasks id task htask with hlt | hmem
      · rw [hup.size] at hlt
        omega
      · exact (hc.compiles _ hmem).of_eq ((h.accounts hup.makesReady).compiles _).symm
  refine ⟨⟨_, happly ▸ h.step (.update g true) (.update hg hfree)
    fun _ => happly.symm ▸ hcompiles⟩, ?_, ?_⟩
  · intro id hid
    rw [hup.completed.live] at hid
    cases hid
  · intro j hgraph hformat hmem
    have he := hup.edited hfree
    have hk := mem_compilable_of_updateBuilds hmem
    rw [hup.kept.1] at hk
    have hsource := Graph.isSome_source? hk
    obtain ⟨built, _, hbuilt, _, _⟩ := he.builds h.run hg (.refl _ _ _) (.refl _ _) hsource
    have halike := he.alike h.run hg (.refl _ _ _) (.refl _ _) hsource hbuilt hmem
    rw [halike.ok rfl] at hbuilt
    rw [hup.kept.2.1] at hformat
    exact (hu.builds j hgraph hformat hbuilt).of_eq (haccounts.compiles j)

theorem Updated.pool (hu : Updated s g t q others calls s₁ x)
    (hpool : (s.graph g).options.pool < s.pools.size) :
    (s₁.graph g).options.pool < s₁.pools.size := by
  obtain ⟨_, _, _, _, hresized, _⟩ := resizeSets_fields hu.cleared.holdings g
  have hprepared : q.session.pools.size = s.pools.size := by
    rw [hu.launches.preparation.renews.pools, hresized, hu.cleared.pools]
  rw [hu.kept.2.1]
  exact Nat.lt_of_lt_of_le (hprepared ▸ hpool) hu.completed.pools

/-- **Synchronous updates are idempotent** where keys decide what is compiled.  An update returns,
    unless an interface asks for a parameter that it has not declared.  Another one that follows at
    once repeats it, and so does a later one if the graph was not edited and the registries still
    give the same answers, whatever else has happened: it publishes the same proxy under the next
    number, each resource is in the same state and holds the same program, and a kernel that was
    compiled is not compiled again and not reported. -/
theorem UniformRun.update_again (h : UniformRun F H s) (hu : s.Uniform F g) (hg : g < s.graphs.size)
    (haccepts : s.accepts g = true) (hpool : (s.graph g).options.pool < s.pools.size)
    (hheld : s.held = false) :
    (∃ k e, (k, .error (.undeclared e)) ∈ s.updateBuilds g ∧
      (s.update g true).1 = .error (.undeclared e)) ∨
    ∃ s₁, s.update g true = (.ok (), s₁) ∧ (∃ s₂, Repeats g s₁ s₁ s₂) ∧
      ∀ {G H₂ s₂}, Edited G G s g true s₁ s₂ →
        SameAnswers (s.graph g).options.registry (s.graph g).options.format s₁.files s₂.files →
        UniformRun F H₂ s₂ → s₂.Uniform F g → s₂.accepts g = true →
        (s₂.graph g).options.pool < s₂.pools.size → s₂.held = false →
          ∃ s₃, Repeats g s₁ s₂ s₃ := by
  have hfree := free_of_accepts haccepts
  rcases h.run.makesReady hg haccepts hheld with ⟨k, e, s', hmem, hupdate, _⟩ | ⟨q, hq⟩
  · exact Or.inl ⟨k, e, hmem, by rw [hupdate true]⟩
  · have hserving := h.run.serving hg hfree ((h.course hu hg haccepts hpool hheld hq).returns true)
    obtain ⟨t, q, others, calls, s₁, x, hup⟩ :=
      h.run.updated hg haccepts hpool hheld hserving.declared
    have hfree₁ := (h.run.serving hg hfree hup.update).free
    have hc := h.course hu hg haccepts hpool hheld hup.makesReady
    obtain ⟨⟨H₁, hrun₁⟩, huniform₁⟩ := h.next hu hg hfree hup hc
    refine Or.inr ⟨s₁, hup.update, ?_, fun he hsame h₂ hu₂ haccepts₂ hpool₂ hheld₂ => ?_⟩
    · exact h.repeats hg (.refl _ _ _) hup hc (hup.edited hfree) hrun₁ huniform₁
        (hup.accepts hfree₁ haccepts) (hup.pool hpool) (hup.surroundings.2.trans hheld)
    · exact h.repeats hg hsame hup hc he h₂ hu₂ haccepts₂ hpool₂ hheld₂

end

/-- The second update of the graph with two kernels repeats the first one. -/
theorem update_again_pairStart :
    ∃ s₁ s₂, (pairStart "Main" "Main" []).update 0 true = (.ok (), s₁) ∧
    Repeats 0 s₁ s₁ s₂ := by
  obtain ⟨F, hu⟩ := exists_uniform_pairStart "Main" []
  rcases (uniformRun_pairStart F "Main" "Main" []).update_again hu Nat.zero_lt_one
    (by decide) (by decide) rfl with
    ⟨k, e, hmem, _⟩ | ⟨s₁, hupdate, ⟨s₂, hrepeats⟩, _⟩
  · rw [updateBuilds_pairStart] at hmem
    simp at hmem
  · exact ⟨s₁, s₂, hupdate, hrepeats⟩

end Session

end KernelGraph
