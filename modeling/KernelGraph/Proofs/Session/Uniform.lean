/-
  Compiles that depend on nothing but the key.

  Programs are shared by format and hash key, so that what a job gets may have been compiled for
  another one, long before.  It makes no difference which one it was if the compilers are
  deterministic and builds of one key ask them for the same.

  1. A function says what keys compile to, `CompilesTo`: a program or an error.  There is one if
     builds of one key issue equal requests to one compiler (`exists_compilesTo`).

  2. `UniformRun` are the runs in which all jobs that may be compiled do so.

  3. Then the program cache never holds anything but what a compile would give
     (`UniformRun.programs`), whatever was evicted, cancelled or compiled anew on the way.
-/
import KernelGraph.Proofs.Session.Synchronous

namespace KernelGraph.Session

/-! ## What keys compile to -/

/-- The job compiles to the program of its key, or fails with the error of its key. -/
def CompilesTo (s : Session) (F : ProgramKey → Except ProgramError Program) (j : Job) : Prop :=
  (s.compileJob j).1 = F (jobKey j)

section
variable {F : ProgramKey → Except ProgramError Program} {s s' u u' : Session} {g : Nat} {j j' : Job}

/-- **Jobs that ask for the same** compile to the same. -/
theorem compileJob_eq_of_request (hcompiler : s'.compiler? j'.format = s.compiler? j.format)
    (hrequest : j'.build.request (s'.files.resolver (s'.graph j'.graph).options.registry) =
      j.build.request (s.files.resolver (s.graph j.graph).options.registry))
    (hpermutations : j'.build.permutations = j.build.permutations)
    (hkey : j'.build.hashKey = j.build.hashKey) : s'.compileJob j' = s.compileJob j := by
  have hname : j'.build.friendlyName = j.build.friendlyName :=
    congrArg Request.friendlyName hrequest
  unfold Session.compileJob
  rw [hcompiler, hpermutations, hkey, hname]
  dsimp only
  rw [hrequest]

theorem CompilesTo.of_eq (h : s.CompilesTo F j) (hs : s'.compileJob j = s.compileJob j) :
    s'.CompilesTo F j := by
  unfold CompilesTo
  rw [hs]
  exact h

/-- What a job compiles to depends on its graph, its format and its build. -/
theorem CompilesTo.job (h : s.CompilesTo F j) (hgraph : j'.graph = j.graph)
    (hformat : j'.format = j.format) (hbuild : j'.build = j.build) : s.CompilesTo F j' := by
  have hsame : s.compileJob j' = s.compileJob j := by
    unfold Session.compileJob
    rw [hgraph, hformat, hbuild]
  unfold CompilesTo jobKey
  rw [hsame, hformat, hbuild]
  exact h

/-- A task whose job compiles to `F` comes back with the program of its key. -/
theorem CompilesTo.outcome {t : CompileTask} {p : Program} (h : s.CompilesTo F t.job)
    (hp : s.outcome t = .ok p) : F (jobKey t.job) = .ok p := by
  unfold Session.outcome at hp
  split at hp
  · cases hp
  · unfold CompilesTo at h
    rw [← h, hp]

/-- **Where builds of one key issue equal requests** to one compiler, keys say what they compile
    to. -/
theorem exists_compilesTo {P : Session → Job → Prop}
    (hP : ∀ s j s' j', P s j → P s' j' → jobKey j' = jobKey j →
      s'.compiler? j'.format = s.compiler? j.format ∧
        j'.build.request (s'.files.resolver (s'.graph j'.graph).options.registry) =
          j.build.request (s.files.resolver (s.graph j.graph).options.registry) ∧
        j'.build.permutations = j.build.permutations) :
    ∃ F, ∀ s j, P s j → s.CompilesTo F j := by
  have hkey : ∀ key, ∃ p : Except ProgramError Program, ∀ s j, P s j → jobKey j = key →
      (s.compileJob j).1 = p := by
    intro key
    by_cases h : ∃ s j, P s j ∧ jobKey j = key
    · obtain ⟨s, j, hj, rfl⟩ := h
      refine ⟨(s.compileJob j).1, fun s' j' hj' hsame => ?_⟩
      obtain ⟨hcompiler, hrequest, hpermutations⟩ := hP s j s' j' hj hj' hsame
      rw [compileJob_eq_of_request hcompiler hrequest hpermutations
        (congrArg ProgramKey.hashKey hsame)]
    · exact ⟨.error .negativeCount, fun s j hj hsame => absurd ⟨s, j, hj, hsame⟩ h⟩
  choose F hF using hkey
  exact ⟨F, fun s j hj => hF _ s j hj rfl⟩

/-- The jobs that were in pools in `s`, and those that were submitted since, compile to `F`. -/
def AllCompileTo (F : ProgramKey → Except ProgramError Program) (s s' : Session) : Prop :=
  ∀ id t, s'.tasks[id]? = some t → id ∈ s.live ∨ s.tasks.size ≤ id → s.CompilesTo F t.job

/-- Tasks that are still there still have their jobs. -/
theorem AllCompileTo.mono (h : AllCompileTo F s u')
    (htasks : ∀ (id : Nat) (t : CompileTask), u.tasks[id]? = some t →
      ∃ t', u'.tasks[id]? = some t' ∧ t'.job = t.job) : AllCompileTo F s u := by
  intro id t ht hid
  obtain ⟨t', ht', hjob⟩ := htasks id t ht
  rw [← hjob]
  exact h id t' ht' hid

theorem AllCompileTo.of_map_job (h : AllCompileTo F s u')
    (hjobs : u'.tasks.map CompileTask.job = u.tasks.map CompileTask.job) :
    AllCompileTo F s u :=
  h.mono fun _ _ ht => (exists_task_of_map_job hjobs.symm ht).imp fun _ ⟨ht', heq⟩ =>
    ⟨ht', heq.symm⟩

end

/-! ## Between two sessions -/

/-- Since the session `s` jobs compile to what they compiled to, and as far as the jobs that may
    have been compiled meanwhile compile to `F`, so do the keys of the programs that are kept. -/
structure Accounts (F : ProgramKey → Except ProgramError Program) (s u : Session) : Prop where
  wired : u.Wired
  compiles : ∀ j, u.compileJob j = s.compileJob j
  live : ∀ id ∈ u.live, id ∈ s.live ∨ s.tasks.size ≤ id
  size : s.tasks.size ≤ u.tasks.size
  jobs : ∀ (id : Nat) (t : CompileTask), s.tasks[id]? = some t →
    ∃ t', u.tasks[id]? = some t' ∧ t'.job = t.job
  programs : AllCompileTo F s u → u.cache.programs.Holds fun k p => F k = .ok p

section
variable {F : ProgramKey → Except ProgramError Program} {s u u' : Session} {p : Nat}

theorem Accounts.refl (hwired : s.Wired)
    (hprograms : s.cache.programs.Holds fun k p => F k = .ok p) : Accounts F s s :=
  ⟨hwired, fun _ => rfl, fun _ => Or.inl, Nat.le_refl _, fun _ t ht => ⟨t, ht, rfl⟩,
    fun _ => hprograms⟩

/-- What leaves the jobs of the tasks alone and puts none into a pool. -/
theorem Accounts.next (h : Accounts F s u) (hwired : u'.Wired)
    (hcompiles : ∀ j, u'.compileJob j = u.compileJob j) (hlive : ∀ id ∈ u'.live, id ∈ u.live)
    (hjobs : u'.tasks.map CompileTask.job = u.tasks.map CompileTask.job)
    (hprograms : AllCompileTo F s u → u.cache.programs.Holds (fun k p => F k = .ok p) →
      u'.cache.programs.Holds fun k p => F k = .ok p) : Accounts F s u' where
  wired := hwired
  compiles j := (hcompiles j).trans (h.compiles j)
  live id hid := h.live id (hlive id hid)
  size := by
    rw [size_of_map_job hjobs]
    exact h.size
  jobs id t ht := by
    obtain ⟨t', ht', hsame⟩ := h.jobs id t ht
    obtain ⟨t'', ht'', hsame'⟩ := exists_task_of_map_job hjobs.symm ht'
    exact ⟨t'', ht'', hsame'.symm.trans hsame⟩
  programs hall := hprograms (hall.of_map_job hjobs) (h.programs (hall.of_map_job hjobs))

/-- **A step of a worker.** -/
theorem Accounts.advance (h : Accounts F s u) (hp : u.advance p = some u') : Accounts F s u' := by
  have hstep := advance_advances hp
  refine h.next (h.wired.advances hstep) (Steady.advance hp).compileJob
    (fun _ hid => hstep.live_subset hid) hstep.map_job fun hall hkept => ?_
  cases hstep with
  | dropped => exact hkept
  | skipped => exact hkept
  | begun => exact ProgramCache.holds_begin hkept _ _
  | @completed _ _ t returned =>
    rw [(SameMachine.comes (completeJob_comes _ t.job returned)).cache]
    exact hkept
  | entered =>
    unfold Session.countCalls
    split
    · exact hkept
    · exact hkept
  | @compiled pool id t hpool hcurrent htask hleading =>
    obtain ⟨call, hcall, _⟩ := ProgramCache.mem_of_isLeading hleading
    obtain ⟨hmem, rfl⟩ := ProgramCache.mem_of_call? hcall
    have hkey : call.key = jobKey t.job :=
      h.wired.keys call.label (List.mem_map.2 ⟨call, hmem, rfl⟩) t htask
    have hcompiles : u.CompilesTo F t.job :=
      (hall _ t htask (h.live _ (current_mem_live hpool hcurrent))).of_eq (h.compiles _)
    obtain ⟨_, _, heq⟩ := runCompile_eq u call.id t
    rw [heq]
    refine ProgramCache.holds_compiled hkept hcall fun q hq => ?_
    rw [hkey]
    exact hcompiles.outcome hq

theorem Accounts.drain (h : Accounts F s u) : Accounts F s u.drain :=
  keeps_drain Accounts.advance h

theorem Accounts.same (h : Accounts F s u) (hs : u.SameMachine u') : Accounts F s u' :=
  h.next (h.wired.same hs) hs.compiles
    (fun id hid => by rw [Session.live, hs.pools] at hid; exact hid) (by rw [hs.tasks])
    fun _ hkept => by rw [hs.cache]; exact hkept

theorem Accounts.cancelTask (h : Accounts F s u) (id : Nat) : Accounts F s (u.cancelTask id) :=
  h.next (h.wired.cancelTask id) (fun _ => rfl) (fun _ hid => hid)
    (map_job_modify u.tasks id (f := fun t => { t with cancelled := true }) fun _ => rfl)
    fun _ hkept => hkept

theorem Accounts.register (h : Accounts F s u) (id : Nat) (j : Job) :
    Accounts F s (u.register id j) := by
  unfold Session.register
  split
  rename_i held resource _
  have htold : Accounts F s (u.modifyResource j.resource fun _ => resource) :=
    h.same ⟨rfl, rfl, rfl, rfl, fun _ => rfl, fun h => h⟩
  dsimp only
  split
  · exact htold
  · exact htold.cancelTask id

/-- A new task is among those that were submitted since. -/
theorem Accounts.enqueue (h : Accounts F s u) (j : Job) : Accounts F s (u.enqueue j) := by
  have hold : ∀ {id : Nat} {t : CompileTask}, u.tasks[id]? = some t →
      (u.enqueue j).tasks[id]? = some t := by
    intro id t ht
    rw [getElem?_enqueue, if_neg (Nat.ne_of_lt (Array.getElem?_eq_some_iff.1 ht).1)]
    exact ht
  have hall : AllCompileTo F s (u.enqueue j) → AllCompileTo F s u :=
    fun hall => hall.mono fun id t ht => ⟨t, hold ht, rfl⟩
  refine ⟨h.wired.enqueue j, h.compiles, fun id hid => ?_, ?_, fun id t ht => ?_,
    fun hnew => h.programs (hall hnew)⟩
  · rcases (mem_live_enqueue j).1 hid with hid | ⟨rfl, _⟩
    · exact h.live id hid
    · exact Or.inr h.size
  · show s.tasks.size ≤ (u.tasks.push { job := j }).size
    rw [Array.size_push]
    exact Nat.le_succ_of_le h.size
  · obtain ⟨t', ht', hsame⟩ := h.jobs id t ht
    exact ⟨t', hold ht', hsame⟩

theorem stable_accounts (F : ProgramKey → Except ProgramError Program) (s : Session) :
    Stable (Accounts F s) where
  same := Accounts.same
  advance := Accounts.advance
  cancelTask := Accounts.cancelTask
  submit {u} h j := by
    rw [submit_eq]
    split
    · exact (h.enqueue j).drain
    · exact (h.enqueue j).register _ j
  openPool {u} h := h.next h.wired.openPool (fun _ => rfl)
    (fun id hid => by rw [live_openPool] at hid; exact hid) rfl fun _ hkept => hkept
  closePool {u} h p := by
    have hlive : (u.closePool p).live = u.drain.live :=
      flatMap_modify_of_eq u.drain.pools p fun _ => rfl
    exact h.drain.next (h.wired.drain.modifyPool p fun _ => ⟨rfl, rfl⟩) (fun _ => rfl)
      (fun id hid => hlive ▸ hid) rfl fun _ hkept => hkept
  hold h := h.next (h.wired.of_eq rfl rfl rfl) (fun _ => rfl) (fun _ hid => hid) rfl
    fun _ hkept => hkept
  release {u} h := by
    have hfree : Accounts F s { u with held := false } :=
      h.next (h.wired.of_eq rfl rfl rfl) (fun _ => rfl) (fun _ hid => hid) rfl fun _ hkept => hkept
    exact hfree.drain
  programs {u programs} h hQ := by
    have hwired : Wired { u with cache := { u.cache with programs } } :=
      ⟨h.wired.lt, h.wired.nodup, h.wired.calls,
        ⟨h.wired.flies.nodup, h.wired.flies.led, h.wired.flies.joined, h.wired.flies.waiting⟩,
        h.wired.keys, hQ _ h.wired.programs⟩
    exact h.next hwired (fun _ => rfl) (fun _ hid => hid) rfl fun _ hkept => hQ _ hkept

end

/-! ## Runs -/

/-- The runs in which every job that may be compiled compiles to `F`. -/
inductive UniformRun (F : ProgramKey → Except ProgramError Program) : List Started → Session → Prop
  | start {files : FileStore} (hfiles : files.Reachable) (scripts : List Script) (limit : Int) :
      UniformRun F [] { files, scripts, cache := .empty limit }
  | step {H : List Started} {s : Session} (a : Action) (ha : a.Enabled s)
      (hcompiles : a.isSurroundings = false → AllCompileTo F s (a.apply s)) :
      UniformRun F H s → UniformRun F (H ++ a.started s) (a.apply s)

section
variable {F : ProgramKey → Except ProgramError Program} {H : List Started} {s : Session} {g : Nat}

theorem UniformRun.run (h : UniformRun F H s) : Run H s := by
  induction h with
  | start hfiles scripts limit => exact .start hfiles scripts limit
  | step a ha _ _ ih => exact .step a ha ih

/-- **The program cache holds what keys compile to.** -/
theorem UniformRun.programs (h : UniformRun F H s) :
    s.cache.programs.Holds fun k p => F k = .ok p := by
  induction h with
  | start => exact Lru.holds_empty _
  | @step H s a ha hcompiles hrun ih =>
    have hstart : Accounts F s s := .refl hrun.run.tidy.wired ih
    cases hsurroundings : a.isSurroundings with
    | true =>
      -- nothing is compiled
      cases a with
      | addGraph definition options => exact ih
      | files f => exact ih
      | scripts xs => exact ih
      | _ => cases hsurroundings
    | false =>
      have hnext := (stable_accounts F s).action hstart a fun h => by
        rw [hsurroundings] at h
        cases h
      exact hnext.programs (hcompiles hsurroundings)

/-- What an update of a graph may compile, and what is in pools when it begins, compiles to `F`. -/
structure Uniform (F : ProgramKey → Except ProgramError Program) (s : Session) (g : Nat) :
    Prop where
  live : ∀ id ∈ s.live, ∀ t, s.tasks[id]? = some t → s.CompilesTo F t.job
  builds : ∀ j : Job, j.graph = g → j.format = (s.graph g).options.format →
    (j.kernel, .ok j.build) ∈ s.updateBuilds g → s.CompilesTo F j

/-- An update of the graph prepares its kernels as `q`. -/
def MakesReady (s : Session) (g : Nat) (q : Prepared) : Prop :=
  prepareKernels g (s.dialect g) (((s.interrupt g).resizeSets g).graph g).definition.compilable
    { session := (s.interrupt g).resizeSets g } = (.ok q, q.session)

theorem SameMachine.ready (g : Nat) (q : Prepared) : q.session.SameMachine (ready g q) :=
  keeps_foldl q.failed (fun s hs k => hs.trans (.reportFailure s g k))
    (SameMachine.trans (.of_books (.note _ _)) (.setPending _ g _))

/-- An update has not submitted anything when it has prepared its kernels. -/
theorem Run.accounts {q : Prepared} (h : Run H s)
    (hprograms : s.cache.programs.Holds fun k p => F k = .ok p) (hq : s.MakesReady g q) :
    Accounts F s (ready g q) := by
  have hstable := stable_accounts F s
  have hbegun : Accounts F s (s.begun g) :=
    (Accounts.refl h.tidy.wired hprograms).same (.modifyGraph s g fun _ => rfl)
  have hresized : Accounts F s ((s.interrupt g).resizeSets g) :=
    hstable.resizeSets (hstable.takeTasks hbegun _) g
  have hprepared := (hstable.prepareKernels (p := { session := (s.interrupt g).resizeSets g })
    hresized (g := g) (s.dialect g)
    (((s.interrupt g).resizeSets g).graph g).definition.compilable).1
  rw [show Session.prepareKernels g _ _ _ = _ from hq] at hprepared
  exact hprepared.same (.ready g q)

theorem UniformRun.accounts {q : Prepared} (h : UniformRun F H s) (hq : s.MakesReady g q) :
    Accounts F s (ready g q) := h.run.accounts h.programs hq

/-- Then the program cache still holds what keys compile to. -/
theorem UniformRun.programs_ready {q : Prepared} (h : UniformRun F H s) (hu : s.Uniform F g)
    (hq : s.MakesReady g q) (htasks : (ready g q).tasks.map CompileTask.job =
      s.tasks.map CompileTask.job) :
    (ready g q).cache.programs.Holds fun k p => F k = .ok p := by
  refine (h.accounts hq).programs fun id t htask hid => ?_
  obtain ⟨t', ht', hjob⟩ := exists_task_of_map_job htasks htask
  rw [hjob]
  -- no task is new
  refine hu.live id (hid.resolve_right fun hle => ?_) t' ht'
  exact absurd (Array.getElem?_eq_some_iff.1 ht').1 (Nat.not_lt.2 hle)

end

end KernelGraph.Session
