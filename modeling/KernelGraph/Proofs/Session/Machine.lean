/-
  What operations do to the workers.

  Tasks, pools and the program cache make up the machine that compiles.  Operations on graphs touch
  it in a few ways only: workers take a step, a task is cancelled, a job is submitted, a pool is
  opened or closed, and compilers are held or released.  `Advances` says what a step of a worker can
  be, and `Stable` what an invariant of the machine has to survive; every such invariant holds of
  all sessions that runs lead to.  That the files are a store that a program can have is one of them
  (`Run.reachable_files`).
-/
import KernelGraph.Proofs.Build
import KernelGraph.Proofs.Flights
import KernelGraph.Proofs.Session.Completion

namespace KernelGraph.Session

/-! ## A step of a worker -/

/-- What the worker of a pool can do next. -/
inductive Advances (s : Session) (p : Nat) : Session → Prop
  /-- The next task in the queue does not exist. -/
  | dropped {pool : CompilePool} {id : Nat} {rest : List Nat} (hpool : s.pools[p]? = some pool)
      (hfree : pool.current = none) (hqueue : pool.queue = id :: rest)
      (hnone : s.tasks[id]? = none) :
      Advances s p { s with pools := s.pools.modify p fun x => { x with queue := rest } }
  /-- It was cancelled while it waited. -/
  | skipped {pool : CompilePool} {id : Nat} {rest : List Nat} {t : CompileTask}
      (hpool : s.pools[p]? = some pool) (hfree : pool.current = none)
      (hqueue : pool.queue = id :: rest) (htask : s.tasks[id]? = some t)
      (hcancelled : t.cancelled = true) :
      Advances s p { s with
        tasks := s.tasks.modify id fun t => { t with done := true }
        pools := s.pools.modify p fun x => { x with queue := rest, current := none } }
  /-- The program cache is asked for it. -/
  | begun {pool : CompilePool} {id : Nat} {rest : List Nat} {t : CompileTask}
      (hpool : s.pools[p]? = some pool) (hfree : pool.current = none)
      (hqueue : pool.queue = id :: rest) (htask : s.tasks[id]? = some t)
      (hcancelled : t.cancelled = false) :
      Advances s p { s with
        cache := s.cache.begin id (jobKey t.job)
        pools := s.pools.modify p fun x => { x with queue := rest, current := some id } }
  /-- The program cache has a result for the worker's task, which completes the job. -/
  | completed {pool : CompilePool} {id : Nat} {t : CompileTask}
      {returned : Except (CallError ProgramError) (Program × Bool)}
      (hpool : s.pools[p]? = some pool) (hcurrent : pool.current = some id)
      (htask : s.tasks[id]? = some t) (hresult : s.cache.result? id = some returned) :
      Advances s p (Session.completeJob { s with
        cache := s.cache.forget id
        tasks := s.tasks.modify id fun t => { t with done := true }
        pools := s.pools.modify p fun x => { x with current := none } } t.job returned)
  /-- The task has reached a held compiler. -/
  | entered {pool : CompilePool} {id : Nat} {t : CompileTask} (hpool : s.pools[p]? = some pool)
      (hcurrent : pool.current = some id) (htask : s.tasks[id]? = some t)
      (hleading : s.cache.isLeading id = true) (hwaits : s.waitsForRelease t = true) :
      Advances s p ((s.modifyTask id fun t => { t with entered := true }).countCalls
        t.job.format 1)
  /-- The task leads a flight and compiles. -/
  | compiled {pool : CompilePool} {id : Nat} {t : CompileTask} (hpool : s.pools[p]? = some pool)
      (hcurrent : pool.current = some id) (htask : s.tasks[id]? = some t)
      (hleading : s.cache.isLeading id = true) : Advances s p (s.runCompile id t)

theorem modify_modify {α : Type} (a : Array α) (i : Nat) (f f' : α → α) :
    (a.modify i f).modify i f' = a.modify i fun x => f' (f x) := by
  apply Array.ext_getElem?
  intro k
  rw [Array.getElem?_modify, Array.getElem?_modify, Array.getElem?_modify]
  split
  · rw [Option.map_map]
    rfl
  · rfl

section
variable {s s' : Session} {p : Nat}

/-- **A step of a worker** is one of these. -/
theorem advance_advances (h : s.advance p = some s') : Advances s p s' := by
  unfold Session.advance at h
  split at h
  · cases h
  · rename_i pool hpool
    split at h
    · rename_i hfree
      split at h
      · cases h
      · rename_i id rest hqueue
        dsimp only at h
        split at h
        · rename_i hnone
          cases h
          exact .dropped hpool hfree hqueue hnone
        · rename_i t htask
          split at h
          · rename_i hcancelled
            cases h
            have hstep := Advances.skipped hpool hfree hqueue htask hcancelled
            rw [← modify_modify s.pools p (fun x => { x with queue := rest })
              fun x => { x with current := none }] at hstep
            exact hstep
          · rename_i hcancelled
            cases h
            have hstep := Advances.begun hpool hfree hqueue htask (by simpa using hcancelled)
            rw [← modify_modify s.pools p (fun x => { x with queue := rest })
              fun x => { x with current := some id }] at hstep
            exact hstep
    · rename_i id hcurrent
      split at h
      · cases h
      · rename_i t htask
        split at h
        · rename_i returned hresult
          cases h
          exact .completed hpool hcurrent htask hresult
        · split at h
          · cases h
          · rename_i hleading
            split at h
            · rename_i hwaits
              split at h
              · cases h
              · cases h
                exact .entered hpool hcurrent htask (by simpa using hleading) hwaits
            · cases h
              exact .compiled hpool hcurrent htask (by simpa using hleading)

/-- What the compile of a task comes back with. -/
def outcome (s : Session) (t : CompileTask) : Except ProgramError Program :=
  if t.cancelled then .error (.cancelled t.job.build.friendlyName) else (s.compileJob t.job).1

/-- A compile touches the program cache, the log and the number of calls. -/
theorem runCompile_eq (s : Session) (id : Nat) (t : CompileTask) :
    ∃ calls log, s.runCompile id t = { s with
      calls, log, cache := s.cache.compiled ProgramError.isCancelled id (s.outcome t) } := by
  have hcount : ∀ n, ∃ calls, s.countCalls t.job.format n = { s with calls } := by
    intro n
    unfold Session.countCalls
    split
    · exact ⟨s.calls, rfl⟩
    · exact ⟨_, rfl⟩
  unfold Session.runCompile Session.outcome
  split
  · exact ⟨s.calls, s.log, rfl⟩
  · generalize s.compileJob t.job = out
    obtain ⟨result, n⟩ := out
    obtain ⟨calls, hcalls⟩ := hcount (if t.entered then n - 1 else n)
    dsimp only
    rw [hcalls]
    cases result with
    | error e => exact ⟨calls, s.log, rfl⟩
    | ok q => exact ⟨calls, _, rfl⟩

/-- What a job compiles to depends on the compilers, on what the registries see and on the options
    of its graph. -/
theorem compileJob_congr {j : Job} (hscripts : s'.scripts = s.scripts)
    (hfiles : s'.files.resolver = s.files.resolver)
    (hoptions : (s'.graph j.graph).options = (s.graph j.graph).options) :
    s'.compileJob j = s.compileJob j := by
  unfold Session.compileJob Session.compiler? Session.script?
  rw [hscripts, hfiles, hoptions]

theorem Steady.compileJob (h : s.Steady s') (j : Job) : s'.compileJob j = s.compileJob j :=
  compileJob_congr h.scripts (by rw [h.files]) (h.graph j.graph).options

/-- The tasks, the pools, the program cache and whether compilers are held are the same, jobs
    compile to the same, and nothing but digests becomes of the files. -/
structure SameMachine (s s' : Session) : Prop where
  tasks : s'.tasks = s.tasks
  pools : s'.pools = s.pools
  cache : s'.cache = s.cache
  held : s'.held = s.held
  compiles : ∀ j, s'.compileJob j = s.compileJob j
  files : s.files.Reachable → s'.files.Reachable

theorem SameMachine.refl (s : Session) : s.SameMachine s := ⟨rfl, rfl, rfl, rfl, fun _ => rfl, id⟩

theorem SameMachine.trans {s'' : Session} (h : s.SameMachine s') (h' : s'.SameMachine s'') :
    s.SameMachine s'' :=
  ⟨h'.tasks.trans h.tasks, h'.pools.trans h.pools, h'.cache.trans h.cache, h'.held.trans h.held,
    fun j => (h'.compiles j).trans (h.compiles j), fun hfiles => h'.files (h.files hfiles)⟩

/-- A graph is changed, but not how it is compiled. -/
theorem SameMachine.modifyGraph (s : Session) (g : Nat) {f : GraphState → GraphState}
    (hf : ∀ x, (f x).options = x.options) : s.SameMachine (s.modifyGraph g f) := by
  refine ⟨rfl, rfl, rfl, rfl, fun j => compileJob_congr rfl rfl ?_, id⟩
  rw [graph_modifyGraph]
  split
  · exact hf _
  · rfl

theorem SameMachine.setPending (s : Session) (g : Nat) (pending : List Nat) :
    s.SameMachine (s.setPending g pending) := by
  have hgraph : s.SameMachine (s.modifyGraph g fun x => { x with pending }) :=
    .modifyGraph s g fun _ => rfl
  exact hgraph.trans ⟨rfl, rfl, rfl, rfl, fun _ => rfl, id⟩

/-- Building a kernel leaves digests behind, but no other sources. -/
theorem SameMachine.buildKernel (s : Session) (g : Nat) (k : Int) (d : Dialect) (format : String) :
    s.SameMachine (s.buildKernel g k d format).2 :=
  ⟨rfl, rfl, rfl, rfl, fun _ => compileJob_congr rfl (Graph.resolver_build _ _ _ _ _ _) rfl,
    Graph.reachable_build _ _ _⟩

theorem SameMachine.of_books (h : s.Books s') : s.SameMachine s' := by
  obtain ⟨_, _, _, rfl⟩ := h
  exact ⟨rfl, rfl, rfl, rfl, fun _ => rfl, id⟩

/-- Counters and records come after another change. -/
theorem SameMachine.of_books_of {t : Session} (h : t.Books s') (ht : s.SameMachine t) :
    s.SameMachine s' :=
  ht.trans (.of_books h)

theorem SameMachine.publish (s : Session) (g : Nat) (plan : Plan) :
    s.SameMachine (s.publish g plan) := by
  by_cases h : plan.generation ≤ (s.graph g).published
  · rw [publish_of_le h]
    exact .refl s
  · have hcompiles := (Steady.publish s g plan).compileJob
    rw [publish_of_lt (Nat.not_le.1 h)] at hcompiles ⊢
    exact ⟨rfl, rfl, rfl, rfl, hcompiles, id⟩

theorem SameMachine.settle (s : Session) (g : Nat) (plan : Plan) :
    s.SameMachine (s.settle g plan) := by
  unfold Session.settle
  split
  · exact .publish s g plan
  · exact .refl s

theorem SameMachine.finishUpdate (s : Session) (g : Nat) (plan : Plan) :
    s.SameMachine (s.finishUpdate g plan) := by
  unfold Session.finishUpdate
  split
  · exact .publish s g plan
  · exact .refl s

/-- A job that comes back leaves the machine alone. -/
theorem SameMachine.comes {j : Job} {returned : Except (CallError ProgramError) (Program × Bool)}
    (h : Comes s j returned s') : s.SameMachine s' := by
  cases h with
  | ignored _ hs => exact .of_books hs
  | abandoned _ _ hs => exact .of_books_of hs ⟨rfl, rfl, rfl, rfl, fun _ => rfl, id⟩
  | cooked _ _ _ hs => exact .of_books_of hs ⟨rfl, rfl, rfl, rfl, fun _ => rfl, id⟩
  | stale _ _ _ hs => exact .of_books_of hs ⟨rfl, rfl, rfl, rfl, fun _ => rfl, id⟩
  | @current n plan program r t _ _ _ _ ht hs =>
    have hfinished : s.SameMachine (s.modifyResource j.resource fun x =>
        (x.finish n program r).2) := ⟨rfl, rfl, rfl, rfl, fun _ => rfl, id⟩
    have ht' : s.SameMachine t := .of_books_of ht (hfinished.trans
      (.modifyGraph _ j.graph (f := fun x => { x with pending := x.pending.filter (· ≠ j.kernel) })
        fun _ => rfl))
    have hhooked : t.SameMachine ((t.settle j.graph plan).hook j.graph j.kernel r) :=
      (SameMachine.settle t j.graph plan).trans ⟨rfl, rfl, rfl, rfl, fun _ => rfl, id⟩
    exact (ht'.trans hhooked).trans (.of_books hs)

theorem SameMachine.releaseProxy (s : Session) (g : Nat) (proxy : Option Nat) :
    s.SameMachine (s.releaseProxy g proxy) := by
  unfold Session.releaseProxy
  split
  · exact .refl s
  · split
    · exact ⟨rfl, rfl, rfl, rfl, fun _ => rfl, id⟩
    · exact ⟨rfl, rfl, rfl, rfl, fun _ => rfl, id⟩

theorem SameMachine.reportFailure (s : Session) (g k : Nat) :
    s.SameMachine (s.reportFailure g k) := by
  unfold Session.reportFailure
  dsimp only
  split
  · exact .refl s
  · unfold Session.compileFailed
    split
    · exact ⟨rfl, rfl, rfl, rfl, fun _ => rfl, id⟩
    · exact ⟨rfl, rfl, rfl, rfl, fun _ => rfl, id⟩

theorem SameMachine.invalidate (rs : List Nat) (s : Session) :
    s.SameMachine (rs.foldl (fun s r => s.modifyResource r Resource.invalidate) s) := by
  refine List.foldlRecOn (motive := fun t => s.SameMachine t) rs _ (.refl s) fun t ht r _ => ?_
  exact ht.trans ⟨rfl, rfl, rfl, rfl, fun _ => rfl, id⟩

theorem SameMachine.buildKernels {g : Nat} {d : Dialect} {format : String}
    (kernels : List (Nat × Kernel × KernelSource)) (s : Session) :
    s.SameMachine (Session.buildKernels g d format kernels s).2 := by
  induction kernels generalizing s with
  | nil => exact .refl s
  | cons x rest ih =>
    have hbuild : s.SameMachine (s.buildKernel g x.1 d format).2 := .buildKernel ..
    unfold Session.buildKernels
    split
    · rename_i e s' heq
      rw [heq] at hbuild
      exact hbuild
    · rename_i built s' _ heq
      rw [heq] at hbuild
      have hrest := hbuild.trans (ih s')
      split
      · rename_i e s'' heq'
        rw [heq'] at hrest
        exact hrest
      · rename_i builds s'' heq'
        rw [heq'] at hrest
        exact hrest

theorem SameMachine.buildFormats {g : Nat} {platform : String} (formats : List String)
    (s : Session) : s.SameMachine (Session.buildFormats g platform formats s).2 := by
  induction formats generalizing s with
  | nil => exact .refl s
  | cons format rest ih =>
    unfold Session.buildFormats
    extract_lets compiler built
    have hbuilt : s.SameMachine built.2 := by
      cases hc : s.compiler? format with
      | none =>
        simp only [built, compiler, hc]
        exact .of_books (.note s _)
      | some comp =>
        simp only [built, compiler, hc]
        exact .buildKernels _ s
    clear_value built
    obtain ⟨result, s'⟩ := built
    cases result with
    | error e => exact hbuilt
    | ok builds =>
      have hrest := hbuilt.trans (ih s')
      dsimp only
      split
      · rename_i e s'' heq
        rw [heq] at hrest
        exact hrest
      · rename_i fs s'' heq
        rw [heq] at hrest
        exact hrest

theorem SameMachine.makeEntry (g platform : Nat) (f : FormatBuilds) (state : Session × List Job)
    (k : Nat) (kernel : Kernel) (source : KernelSource) :
    state.1.SameMachine (Session.makeEntry g platform f state k kernel source).1 := by
  unfold Session.makeEntry
  extract_lets level
  split
  rename_i s jobs
  extract_lets r made failed
  have hfailed : ∀ e, s.SameMachine (failed e).1 := by
    intro e
    have hcounted : s.SameMachine ((made.modifyResource r fun x => x.fail none 0
        { format := f.format, level, error := some e, diagnostics := [e.message] }).countCompile
          { format := f.format, level, error := some e, diagnostics := [e.message] }) :=
      ⟨rfl, rfl, rfl, rfl, fun _ => rfl, id⟩
    exact hcounted.trans (.of_books (.cookFailed _ _ _ _ _ _))
  split
  · exact hfailed _
  · exact hfailed _
  · exact ⟨rfl, rfl, rfl, rfl, fun _ => rfl, id⟩
  · exact ⟨rfl, rfl, rfl, rfl, fun _ => rfl, id⟩

theorem SameMachine.announceReady (s : Session) (g platform : Nat) :
    s.SameMachine (s.announceReady g platform) := by
  unfold Session.announceReady
  dsimp only
  split
  · exact .refl s
  · exact ⟨rfl, rfl, rfl, rfl, fun _ => rfl, id⟩

end

/-! ## Invariants of the machine -/

/-- What an invariant of the machine has to survive. -/
structure Stable (I : Session → Prop) : Prop where
  same : ∀ {s s'}, I s → s.SameMachine s' → I s'
  advance : ∀ {s s' p}, I s → s.advance p = some s' → I s'
  cancelTask : ∀ {s}, I s → ∀ id, I (s.cancelTask id)
  submit : ∀ {s}, I s → ∀ j, I (s.submit j)
  openPool : ∀ {s}, I s → I { s with pools := s.pools.push {} }
  closePool : ∀ {s}, I s → ∀ p, I (s.closePool p)
  hold : ∀ {s}, I s → I s.hold
  release : ∀ {s}, I s → I s.release
  programs : ∀ {s programs}, I s →
    (∀ Q : ProgramKey → Program → Prop, s.cache.programs.Holds Q → programs.Holds Q) →
      I { s with cache := { s.cache with programs } }

section
variable {I : Session → Prop} {s : Session} {g : Nat}

theorem keeps_ite {b : Prop} [Decidable b] {s' : Session} (h : I s) (h' : I s') :
    I (if b then s else s') := by
  split
  · exact h
  · exact h'

theorem keeps_foldl {α : Type} {f : Session → α → Session} (xs : List α)
    (hf : ∀ s, I s → ∀ x, I (f s x)) (h : I s) : I (xs.foldl f s) :=
  List.foldlRecOn xs f h fun s hs x _ => hf s hs x

/-- What every step of a worker keeps, draining keeps. -/
theorem keeps_drain (hI : ∀ {s s' p}, I s → s.advance p = some s' → I s') (h : I s) :
    I s.drain := by
  have hfuel : ∀ (fuel : Nat) (s : Session), I s → I (s.drainAux fuel) := by
    intro fuel
    induction fuel with
    | zero => exact fun _ h => h
    | succ fuel ih =>
      intro s h
      unfold Session.drainAux
      split
      · exact h
      · rename_i s' hs
        obtain ⟨p, _, hp⟩ := List.exists_of_findSome?_eq_some hs
        exact ih s' (hI h hp)
  exact hfuel _ s h

variable (hI : Stable I)
include hI

theorem Stable.drain (h : I s) : I s.drain := keeps_drain hI.advance h

theorem Stable.takeTask (h : I s) (r : Nat) : I (s.takeTask r) := by
  unfold Session.takeTask
  split
  rename_i resource _
  split
  · exact h
  · rename_i t _
    have hgiven : I (s.modifyResource r fun _ => resource) :=
      hI.same h ⟨rfl, rfl, rfl, rfl, fun _ => rfl, id⟩
    exact hI.cancelTask hgiven t

theorem Stable.takeTasks (h : I s) (rs : List Nat) : I (s.takeTasks rs) :=
  hI.drain (keeps_foldl rs (fun _ h r => hI.takeTask h r) h)

/-! ### Updates -/

theorem Stable.resizeSets (h : I s) (g : Nat) : I (s.resizeSets g) := by
  unfold Session.resizeSets
  extract_lets x n removed invalidated kept format
  have hinvalidated : s.SameMachine invalidated := .invalidate removed s
  exact hI.same h (hinvalidated.trans (.modifyGraph invalidated g fun _ => rfl))

theorem Stable.kernelResource (h : I s) (g k : Nat) : I (s.kernelResource g k).2 := by
  unfold Session.kernelResource
  extract_lets x set
  split
  extract_lets made
  have hstored : ∀ resources, I { s with resources } :=
    fun _ => hI.same h ⟨rfl, rfl, rfl, rfl, fun _ => rfl, id⟩
  have hmade : I made := hI.same (hstored _) (.modifyGraph _ g fun _ => rfl)
  dsimp only
  split
  · exact hI.cancelTask hmade _
  · exact hmade

theorem Stable.prepareKernel {p : Prepared} (h : I p.session) (d : Dialect) (k : Nat)
    (kernel : Kernel) (source : KernelSource) :
    I (Session.prepareKernel g d p k kernel source).2 ∧
      ∀ q, (Session.prepareKernel g d p k kernel source).1 = .ok q →
        q.session = (Session.prepareKernel g d p k kernel source).2 := by
  unfold Session.prepareKernel
  extract_lets o
  have hresource := hI.kernelResource h g k
  split
  rename_i r s₁ heq
  rw [heq] at hresource
  have hbuilt : I (s₁.buildKernel g k d o.format).2 := 
    hI.same hresource (.buildKernel ..)
  split
  rename_i built s₂ heq'
  rw [heq'] at hbuilt
  split
  · exact ⟨hbuilt, fun q hq => by cases hq⟩
  · refine ⟨hI.same hbuilt ⟨rfl, rfl, rfl, rfl, fun _ => rfl, id⟩, fun q hq => ?_⟩
    cases hq
    rfl
  · dsimp only
    split
    · refine ⟨hI.same hbuilt ⟨rfl, rfl, rfl, rfl, fun _ => rfl, id⟩, fun q hq => ?_⟩
      cases hq
      rfl
    · refine ⟨hI.same hbuilt ⟨rfl, rfl, rfl, rfl, fun _ => rfl, id⟩, fun q hq => ?_⟩
      cases hq
      rfl

theorem Stable.prepareKernels {p : Prepared} (h : I p.session) (d : Dialect)
    (kernels : List (Nat × Kernel × KernelSource)) :
    I (Session.prepareKernels g d kernels p).2 ∧
      ∀ q, (Session.prepareKernels g d kernels p).1 = .ok q →
        q.session = (Session.prepareKernels g d kernels p).2 := by
  induction kernels generalizing p with
  | nil =>
    refine ⟨h, fun q hq => ?_⟩
    cases hq
    rfl
  | cons x rest ih =>
    obtain ⟨hs, hq⟩ := hI.prepareKernel h (g := g) d x.1 x.2.1 x.2.2
    unfold Session.prepareKernels
    split
    · rename_i e s' heq
      rw [heq] at hs
      exact ⟨hs, fun q hq => by cases hq⟩
    · rename_i p' s' heq
      rw [heq] at hs hq
      refine ih ?_
      rw [hq p' rfl]
      exact hs

theorem Stable.submitJobs (h : I s) (sync : Bool) (jobs : List Job) :
    I (s.submitJobs sync jobs) :=
  keeps_foldl jobs (fun _ h j => keeps_ite (hI.drain (hI.submit h j)) (hI.submit h j)) h

theorem Stable.startGeneration (h : I s) (d : Dialect) (sync : Bool) :
    I (s.startGeneration g d sync).2 := by
  unfold Session.startGeneration
  extract_lets resized
  obtain ⟨hs, hq⟩ := hI.prepareKernels (p := { session := resized }) (hI.resizeSets h g) (g := g) d
    (resized.graph g).definition.compilable
  split
  · rename_i e s' heq
    rw [heq] at hs
    exact hI.same hs (.modifyGraph s' g fun _ => rfl)
  · rename_i p s' heq
    rw [heq] at hs hq
    extract_lets x plan planNotes pending reported submitted drained y
    have hprepared : I p.session := by
      rw [hq p rfl]
      exact hs
    have hnoted : I (p.session.note planNotes) := hI.same hprepared (.of_books (.note _ _))
    have hpending : I pending := hI.same hnoted (.setPending _ g _)
    have hreported : I reported :=
      keeps_foldl p.failed (fun s hs k => hI.same hs (.reportFailure s g k)) hpending
    have hsubmitted : I submitted := hI.submitJobs hreported sync _
    have hdrained : I drained := keeps_ite (hI.drain hsubmitted) hsubmitted
    exact keeps_ite (hI.same hdrained (.publish drained g plan)) hdrained

theorem Stable.update (h : I s) (g : Nat) (sync : Bool) : I (s.update g sync).2 := by
  unfold Session.update
  extract_lets x started taken
  split
  · exact hI.same h ⟨rfl, rfl, rfl, rfl, fun _ => rfl, id⟩
  · split
    · exact h
    · split
      · exact h
      · have hstarted : I started := hI.same h (.modifyGraph s g fun _ => rfl)
        have htaken : I taken := hI.takeTasks hstarted (started.graphResources g)
        exact hI.startGeneration htaken _ sync

/-! ### Platforms and closing -/

theorem Stable.dropPlatform (h : I s) (platform : Nat) : I (s.dropPlatform platform) := by
  unfold Session.dropPlatform
  extract_lets taken announced
  have htaken : I taken := hI.takeTasks h _
  clear_value taken
  have hannounced : I announced := hI.same htaken ⟨rfl, rfl, rfl, rfl, fun _ => rfl, id⟩
  exact hI.same hannounced (.invalidate _ announced)

theorem Stable.clearPlatform (h : I s) (g : Nat) (name : String) : I (s.clearPlatform g name) := by
  unfold Session.clearPlatform
  split
  · exact h
  · have hforgotten : I (s.modifyGraph g fun x =>
        { x with cook := x.cook.filter fun e => e.1 ≠ name }) :=
      hI.same h (.modifyGraph s g fun _ => rfl)
    exact hI.dropPlatform hforgotten _

theorem Stable.clearPlatforms (h : I s) (g : Nat) : I (s.clearPlatforms g) := by
  unfold Session.clearPlatforms
  exact keeps_foldl _ (fun _ hs e => hI.dropPlatform hs e.2)
    (hI.same h (.modifyGraph s g fun _ => rfl))

theorem Stable.beginPlatform (h : I s) (g : Nat) (platform : TargetPlatform) :
    I (s.beginPlatform g platform).2 := by
  unfold Session.beginPlatform
  split
  · exact h
  · extract_lets cleared
    have hcleared : I cleared := hI.clearPlatform h g platform.name
    split
    · exact hcleared
    · have hbuilt : I (Session.buildFormats g platform.name platform.formats cleared).2 :=
        hI.same hcleared (.buildFormats _ _)
      split
      · rename_i e s' heq
        rw [heq] at hbuilt
        exact hbuilt
      · rename_i formats s' heq
        rw [heq] at hbuilt
        extract_lets id opened kernels
        split
        rename_i made jobs hmade
        have hentries : opened.SameMachine made := by
          have hfold : ∀ out, formats.foldl (fun state f =>
              kernels.foldl (fun state x =>
                Session.makeEntry g id f state x.1 x.2.1 x.2.2) state) (opened, []) = out →
                  opened.SameMachine out.1 := by
            rintro _ rfl
            refine List.foldlRecOn
              (motive := fun state : Session × List Job => opened.SameMachine state.1) formats _
                (.refl opened) fun state hstate f _ => ?_
            refine List.foldlRecOn
              (motive := fun state : Session × List Job => opened.SameMachine state.1) kernels _
                hstate fun state hstate x _ => ?_
            exact hstate.trans (.makeEntry g id f state x.1 x.2.1 x.2.2)
          exact hfold _ hmade
        extract_lets listed first second
        have hopened : I opened := hI.same hbuilt ⟨rfl, rfl, rfl, rfl, fun _ => rfl, fun h => h⟩
        have hlisted : I listed :=
          hI.same hopened (hentries.trans (.modifyGraph made g fun _ => rfl))
        have hfirst : I first := keeps_foldl _ (fun _ hs j => hI.drain (hI.submit hs j)) hlisted
        have hsecond : I second := keeps_foldl _ (fun _ hs j => hI.submit hs j) hfirst
        exact hI.same hsecond (.announceReady second g id)

theorem Stable.close (h : I s) (g : Nat) : I (s.close g) := by
  unfold Session.close
  split
  · exact h
  · extract_lets closed cook runtime cooked taken invalidated settled announced proxy emptied
      released o pooled
    have hclosed : I closed := hI.same h (.modifyGraph s g fun _ => rfl)
    have htaken : I taken := hI.takeTasks hclosed (runtime ++ cooked)
    have hinvalidated : I invalidated := hI.same htaken (.invalidate _ taken)
    clear_value invalidated
    have hsettled : I settled := hI.same hinvalidated (.setPending invalidated g [])
    clear_value settled
    have hannounced : I announced := hI.same hsettled ⟨rfl, rfl, rfl, rfl, fun _ => rfl, id⟩
    have hemptied : I emptied := hI.same hannounced (.modifyGraph announced g fun _ => rfl)
    have hreleased : I released := hI.same hemptied (.releaseProxy emptied g proxy)
    have hpooled : I pooled := keeps_ite (hI.closePool hreleased _) hreleased
    exact hI.same hpooled (.of_books (.note pooled _))

/-! ### Runs -/

/-- True for the actions after which jobs may compile to something else. -/
def Action.isSurroundings : Action → Bool
  | .addGraph .. | .files _ | .scripts _ => true
  | _ => false

/-- **Every action** keeps an invariant of the machine, if those do after which jobs may compile to
    something else. -/
theorem Stable.action (h : I s) (a : Action) (hsurroundings : a.isSurroundings = true →
    I (a.apply s)) :
    I (a.apply s) := by
  cases a with
  | addGraph definition options => exact hsurroundings rfl
  | edit g f => exact hI.same h (.modifyGraph s g fun _ => rfl)
  | update g sync => exact hI.update h g sync
  | close g => exact hI.close h g
  | build g k d format => exact hI.same h (.buildKernel s g k d format)
  | beginPlatform g platform => exact hI.beginPlatform h g platform
  | clearPlatform g name => exact hI.clearPlatform h g name
  | clearPlatforms g => exact hI.clearPlatforms h g
  | advance p =>
    rw [Action.apply]
    cases hs : s.advance p with
    | none => exact h
    | some s' => exact hI.advance h hs
  | openPool => exact hI.openPool h
  | closePool p => exact hI.closePool h p
  | hold => exact hI.hold h
  | release => exact hI.release h
  | runQueue => exact hI.same h ⟨rfl, rfl, rfl, rfl, fun _ => rfl, id⟩
  | lookup key => exact hI.programs h fun Q hQ => (hQ.get key).1
  | clearCache => exact hI.programs h fun Q hQ => hQ.clear Q
  | files f => exact hsurroundings rfl
  | scripts xs => exact hsurroundings rfl
  | takeEvents => exact hI.same h ⟨rfl, rfl, rfl, rfl, fun _ => rfl, id⟩

/-- **An invariant of the machine** holds in every run, if it does not depend on what jobs compile
    to. -/
theorem Stable.run {H : List Started} (h : Run H s)
    (hstart : ∀ files scripts limit, files.Reachable → I { files, scripts, cache := .empty limit })
    (hsurroundings : ∀ {s a}, I s → Action.Enabled a s → Action.isSurroundings a = true →
      I (a.apply s)) : I s := by
  induction h with
  | start hfiles scripts limit => exact hstart _ scripts limit hfiles
  | step a ha _ ih => exact hI.action ih a (hsurroundings ih ha)

end

theorem stable_files : Stable fun s => s.files.Reachable where
  same h hs := hs.files h
  advance h hs := by
    rw [(Steady.advance hs).files]
    exact h
  cancelTask h _ := h
  submit {s} h j := by
    rw [(Steady.submit s j).files]
    exact h
  openPool h := h
  closePool {s} h p := by
    show s.drain.files.Reachable
    rw [(Steady.drain s).files]
    exact h
  hold h := h
  release {s} h := by
    unfold Session.release
    rw [(Steady.drain _).files]
    exact h
  programs h _ := h

/-- **The files of every run** are a store that a program can have. -/
theorem Run.reachable_files {H : List Started} {s : Session} (h : Run H s) : s.files.Reachable :=
  stable_files.run h (fun _ _ _ hfiles => hfiles) fun {_ a} hfiles ha hsurroundings => by
    cases a with
    | addGraph definition options => exact hfiles
    | files f => exact ha.files f rfl
    | scripts xs => exact hfiles
    | _ => cases hsurroundings

end KernelGraph.Session
