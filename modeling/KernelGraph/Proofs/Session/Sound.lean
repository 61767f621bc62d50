/-
  Where published programs and signatures come from.

  Every program in a session was compiled from the build of some task, and every invocation shows
  the signature that its kernel had when its update was started.  `Sound` states this of a whole
  session, for the cache, the resources, the tasks and the proxies; every operation keeps it.

  Programs and signatures come together only when a proxy is published, from different places: the
  programs from the resources as they are then, the signatures from the plan of the update.
-/
import KernelGraph.Proofs.ProgramCache
import KernelGraph.Proofs.Session.Run
import KernelGraph.Proofs.Build

namespace KernelGraph

/-- The program is what some compiler makes of the build. -/
def Program.CompiledFrom (p : Program) (b : KernelBuild) : Prop :=
  ∃ (c : Compiler) (files : Include.Resolver),
    (Program.compile c false (b.request files) b.hashKey (some b.permutations)).1 = .ok p

/-! ## What resources hold -/

namespace Resource

theorem program_takeTask (r : Resource) : r.takeTask.2.program = r.program := by
  rw [takeTask]
  split <;> rfl

theorem program_setTask (r : Resource) (task n : Nat) :
    (r.setTask task n).2.program = r.program := by
  rw [setTask]
  split <;> rfl

theorem program_abandon (r : Resource) (n : Nat) : (r.abandon n).program = r.program := by
  rw [abandon]
  split <;> rfl

/-- What a resource holds after a compile came back. -/
theorem program_finish {r : Resource} {n : Nat} {program : Option Program}
    {result : CompileResult} {p : Program} (hp : (r.finish n program result).2.program = some p) :
    r.program = some p ∨ program = some p := by
  rw [finish] at hp
  split at hp
  · dsimp only at hp
    split at hp
    · exact Or.inr hp
    · exact Or.inl hp
  · exact Or.inl hp

end Resource

namespace Session

/-! ## Elements of a changed array -/

section
variable {α : Type} {a : Array α} {i : Nat} {f : α → α} {x : α}

theorem mem_or_of_mem_modify (h : x ∈ a.modify i f) : x ∈ a ∨ ∃ y ∈ a, f y = x := by
  obtain ⟨j, hj⟩ := Array.mem_iff_getElem?.1 h
  rw [Array.getElem?_modify] at hj
  split at hj
  · obtain ⟨y, hy, hx⟩ := Option.map_eq_some_iff.1 hj
    exact Or.inr ⟨y, Array.mem_of_getElem? hy, hx⟩
  · exact Or.inl (Array.mem_of_getElem? hj)

theorem mem_modify_or_of_mem (i : Nat) (f : α → α) (h : x ∈ a) :
    x ∈ a.modify i f ∨ f x ∈ a.modify i f := by
  obtain ⟨j, hj⟩ := Array.mem_iff_getElem?.1 h
  by_cases hij : i = j
  · refine Or.inr (Array.mem_of_getElem? (i := j) ?_)
    rw [Array.getElem?_modify, if_pos hij, hj, Option.map_some]
  · refine Or.inl (Array.mem_of_getElem? (i := j) ?_)
    rw [Array.getElem?_modify, if_neg hij, hj]

end

/-! ## Sound sessions -/

/-- The program was compiled from the build of one of the tasks. -/
def Made (tasks : Array CompileTask) (p : Program) : Prop :=
  ∃ t ∈ tasks, p.CompiledFrom t.job.build

theorem Made.of_jobs {tasks tasks' : Array CompileTask} {p : Program} (h : Made tasks p)
    (hkept : ∀ t ∈ tasks, ∃ t' ∈ tasks', t'.job = t.job) : Made tasks' p := by
  obtain ⟨t, ht, hp⟩ := h
  obtain ⟨t', ht', hjob⟩ := hkept t ht
  exact ⟨t', ht', by rwa [hjob]⟩

theorem exists_job_modify {tasks : Array CompileTask} (id : Nat) {f : CompileTask → CompileTask}
    (hf : ∀ t, (f t).job = t.job) : ∀ t ∈ tasks, ∃ t' ∈ tasks.modify id f, t'.job = t.job := by
  intro t ht
  rcases mem_modify_or_of_mem id f ht with ht | ht
  · exact ⟨t, ht, rfl⟩
  · exact ⟨f t, ht, hf t⟩

/-- The invocation shows the signature that its kernel had when the update was started. -/
def Started.Shows (u : Started) (v : Invocation) : Prop :=
  ∃ σ, u.definition.signature? v.kernel = some σ ∧ v.signature? = some σ

/-- The plan is one of the update. -/
structure Started.Plans (u : Started) (g : Nat) (plan : Plan) : Prop where
  graph : u.graph = g
  generation : u.generation = plan.generation
  shown : ∀ v ∈ plan.invocations, u.Shows v

/-- A job of an update compiles a kernel of the graph as it was when the update was started, and
    brings the plan of that update. -/
def Ordered (H : List Started) (j : Job) : Prop :=
  ∀ n plan, j.kind = .runtime n plan → ∃ u ∈ H, u.Plans j.graph plan ∧ n = plan.generation ∧
    u.definition.signature? j.kernel = some j.build.signature

/-- The proxy was published for the update, with programs from the tasks. -/
structure Started.Published (u : Started) (tasks : Array CompileTask) (x : RenderProxy) : Prop where
  graph : u.graph = x.graph
  generation : u.generation = x.generation
  shown : ∀ v ∈ x.invocations, u.Shows v
  made : ∀ v ∈ x.invocations, ∀ p, v.program = some p → Made tasks p

/-- The parts of a sound session.  `D` gives the generation and the definition of every graph. -/
structure SoundParts (H : List Started) (D : Nat → Nat × Graph) (graphs : Array GraphState)
    (cache : ProgramCache Program ProgramError) (resources : ResourceStore)
    (tasks : Array CompileTask) (proxies : Array RenderProxy) : Prop where
  ledger : ∀ g, ((graphs.getD g default).generation, (graphs.getD g default).definition) = D g
  cached : cache.Yields (Made tasks)
  held : ∀ r ∈ resources, ∀ p, r.program = some p → Made tasks p
  ordered : ∀ t ∈ tasks, Ordered H t.job
  published : ∀ x ∈ proxies, ∃ u ∈ H, u.Published tasks x

/-- Every program of the session comes from one of its tasks, and every plan and every proxy from
    an update of the history. -/
def Sound (H : List Started) (D : Nat → Nat × Graph) (s : Session) : Prop :=
  SoundParts H D s.graphs s.cache s.resources s.tasks s.proxies

section
variable {H : List Started} {D : Nat → Nat × Graph} {s : Session}

theorem Sound.mono {H' : List Started} (h : Sound H D s) (hH : ∀ u ∈ H, u ∈ H') : Sound H' D s where
  ledger := h.ledger
  cached := h.cached
  held := h.held
  ordered t ht n plan hkind := by
    obtain ⟨u, hu, hordered⟩ := h.ordered t ht n plan hkind
    exact ⟨u, hH u hu, hordered⟩
  published x hx := by
    obtain ⟨u, hu, hpublished⟩ := h.published x hx
    exact ⟨u, hH u hu, hpublished⟩

theorem Sound.generation (h : Sound H D s) (g : Nat) : (s.graph g).generation = (D g).1 :=
  congrArg Prod.fst (h.ledger g)

theorem Sound.definition (h : Sound H D s) (g : Nat) : (s.graph g).definition = (D g).2 :=
  congrArg Prod.snd (h.ledger g)

/-- A program that a resource holds was made by a task. -/
theorem Sound.resource (h : Sound H D s) {r : Nat} {p : Program}
    (hp : (s.resource r).program = some p) : Made s.tasks p := by
  rw [Session.resource, Array.getD_eq_getD_getElem?] at hp
  cases hr : s.resources[r]? with
  | none => rw [hr] at hp; cases hp
  | some x =>
    rw [hr, Option.getD_some] at hp
    exact h.held x (Array.mem_of_getElem? hr) p hp

theorem Sound.ite {c : Prop} [Decidable c] {s s' : Session} (h : Sound H D s)
    (h' : Sound H D s') : Sound H D (if c then s else s') := by
  split
  · exact h
  · exact h'

/-! ### Changes of one part -/

theorem Sound.note (h : Sound H D s) (records : List Log.Record) : Sound H D (s.note records) := h

theorem Sound.withPlatforms (h : Sound H D s) (platforms : Array CookPlatform) :
    Sound H D { s with platforms } := h

theorem Sound.modifyGraph (h : Sound H D s) (g : Nat) {f : GraphState → GraphState}
    (hf : ∀ x, (f x).generation = x.generation ∧ (f x).definition = x.definition) :
    Sound H D (s.modifyGraph g f) where
  ledger i := by
    rw [← h.ledger i]
    simp only [Session.modifyGraph, Array.getD_eq_getD_getElem?, Array.getElem?_modify]
    split
    · cases s.graphs[i]? with
      | none => rfl
      | some x => simp [hf x]
    · rfl
  cached := h.cached
  held := h.held
  ordered := h.ordered
  published := h.published

theorem Sound.withResources (h : Sound H D s) {resources : ResourceStore}
    (hr : ∀ r ∈ resources, ∀ p, r.program = some p → Made s.tasks p) :
    Sound H D { s with resources } where
  ledger := h.ledger
  cached := h.cached
  held := hr
  ordered := h.ordered
  published := h.published

theorem Sound.modifyResource (h : Sound H D s) (r : Nat) {f : Resource → Resource}
    (hf : ∀ x p, (f x).program = some p → x.program = some p ∨ Made s.tasks p) :
    Sound H D (s.modifyResource r f) := by
  refine h.withResources fun x hx p hp => ?_
  rcases mem_or_of_mem_modify hx with hx | ⟨y, hy, rfl⟩
  · exact h.held x hx p hp
  · rcases hf y p hp with hp | hp
    · exact h.held y hy p hp
    · exact hp

theorem Sound.withCache (h : Sound H D s) {cache : ProgramCache Program ProgramError}
    (hc : cache.Yields (Made s.tasks)) : Sound H D { s with cache } where
  ledger := h.ledger
  cached := hc
  held := h.held
  ordered := h.ordered
  published := h.published

theorem Sound.withTasks (h : Sound H D s) {tasks : Array CompileTask}
    (hkept : ∀ t ∈ s.tasks, ∃ t' ∈ tasks, t'.job = t.job)
    (hordered : ∀ t ∈ tasks, Ordered H t.job) :
    Sound H D { s with tasks } := by
  have hmade : ∀ p, Made s.tasks p → Made tasks p := fun p hp => hp.of_jobs hkept
  refine ⟨h.ledger, h.cached.mono hmade, fun r hr p hp => hmade p (h.held r hr p hp), hordered,
    fun x hx => ?_⟩
  obtain ⟨u, hu, hpublished⟩ := h.published x hx
  exact ⟨u, hu, hpublished.graph, hpublished.generation, hpublished.shown,
    fun v hv p hp => hmade p (hpublished.made v hv p hp)⟩

theorem Sound.modifyTask (h : Sound H D s) (id : Nat) {f : CompileTask → CompileTask}
    (hf : ∀ t, (f t).job = t.job) : Sound H D (s.modifyTask id f) := by
  refine h.withTasks (exists_job_modify id hf) fun t ht => ?_
  rcases mem_or_of_mem_modify ht with ht | ⟨t', ht', rfl⟩
  · exact h.ordered t ht
  · rw [hf]
    exact h.ordered t' ht'

theorem Sound.pushTask (h : Sound H D s) {j : Job} (hj : Ordered H j) :
    Sound H D { s with tasks := s.tasks.push { job := j } } := by
  refine h.withTasks (fun t ht => ⟨t, Array.mem_push.2 (Or.inl ht), rfl⟩) fun t ht => ?_
  rcases Array.mem_push.1 ht with ht | rfl
  · exact h.ordered t ht
  · exact hj

theorem Sound.withProxies (h : Sound H D s) {proxies : Array RenderProxy}
    (hx : ∀ x ∈ proxies, ∃ u ∈ H, u.Published s.tasks x) : Sound H D { s with proxies } where
  ledger := h.ledger
  cached := h.cached
  held := h.held
  ordered := h.ordered
  published := hx

/-- Releasing a proxy changes nothing of what it shows. -/
theorem Sound.modifyProxy (h : Sound H D s) (i : Nat) :
    Sound H D { s with proxies := s.proxies.modify i fun x => { x with released := true } } := by
  refine h.withProxies fun x hx => ?_
  rcases mem_or_of_mem_modify hx with hx | ⟨y, hy, rfl⟩
  · exact h.published x hx
  · obtain ⟨u, hu, hpublished⟩ := h.published y hy
    exact ⟨u, hu, hpublished.graph, hpublished.generation, hpublished.shown, hpublished.made⟩

/-! ### Publishing -/

theorem Sound.releaseProxy (h : Sound H D s) (g : Nat) (proxy : Option Nat) :
    Sound H D (s.releaseProxy g proxy) := by
  unfold Session.releaseProxy
  split
  · exact h
  · rename_i p
    split
    · exact h
    · exact h.modifyProxy p

theorem Sound.runQueue (h : Sound H D s) : Sound H D s.runQueue.2 := by
  let released : Array RenderProxy :=
    s.commands.foldl (fun xs p => xs.modify p fun x => { x with released := true }) s.proxies
  have hreleased : Sound H D { s with proxies := released } := by
    refine List.foldlRecOn (motive := fun proxies => Sound H D { s with proxies }) s.commands _ h ?_
    intro proxies hproxies p _
    exact hproxies.modifyProxy p
  exact hreleased

theorem Sound.currentProgram (h : Sound H D s) {g k : Nat} {level : FeatureLevel} {p : Program}
    (hp : s.currentProgram g k level = some p) : Made s.tasks p := by
  rw [Session.currentProgram] at hp
  split at hp
  · cases hp
  · obtain ⟨r, _, hp⟩ := Option.bind_eq_some_iff.1 hp
    exact h.resource hp

/-- **Publishing a plan** of an update: the programs come from the resources, the rest from the
    plan. -/
theorem Sound.publish (h : Sound H D s) {g : Nat} {plan : Plan} {u : Started} (hu : u ∈ H)
    (hplan : u.Plans g plan) : Sound H D (s.publish g plan) := by
  rw [Session.publish]
  dsimp only
  split
  · exact h
  · apply Sound.releaseProxy
    refine Sound.modifyGraph (h.withProxies fun x hx => ?_) g (by intro x; exact ⟨rfl, rfl⟩)
    rcases Array.mem_push.1 hx with hx | rfl
    · exact h.published x hx
    · refine ⟨u, hu, hplan.graph, hplan.generation, fun v hv => ?_, fun v hv p hp => ?_⟩
      · obtain ⟨w, hw, rfl⟩ := List.mem_map.1 hv
        exact hplan.shown w hw
      · obtain ⟨w, hw, rfl⟩ := List.mem_map.1 hv
        exact h.currentProgram hp

theorem Sound.countCompile (h : Sound H D s) (r : CompileResult) : Sound H D (s.countCompile r) := h

theorem Sound.compileFailed (h : Sound H D s) (g k : Nat) (name : String) (isDefault : Bool)
    (r : CompileResult) : Sound H D (s.compileFailed g k name isDefault r) := by
  rw [Session.compileFailed]
  split <;> exact h

/-! ### Jobs that come back -/

/-- A resource takes over the result of a compile. -/
theorem Sound.finish (h : Sound H D s) {r n : Nat} {program : Option Program}
    {result : CompileResult} {accepted : Bool} {resource : Resource}
    (hprogram : ∀ p, program = some p → Made s.tasks p)
    (heq : (s.resource r).finish n program result = (accepted, resource)) :
    Sound H D (s.modifyResource r fun _ => resource) := by
  refine h.modifyResource r fun x p hp => Or.inr ?_
  have hp : ((s.resource r).finish n program result).2.program = some p := by rw [heq]; exact hp
  rcases Resource.program_finish hp with hp | hp
  · exact h.resource hp
  · exact hprogram p hp

/-- **A job of an update comes back** with a program that some task made. -/
theorem Sound.completeUpdate (h : Sound H D s) {j : Job} {n : Nat} {plan : Plan}
    {program : Option Program} {r : CompileResult} {u : Started} (hu : u ∈ H)
    (hplan : u.Plans j.graph plan) (hprogram : ∀ p, program = some p → Made s.tasks p) :
    Sound H D (s.completeUpdate j n plan program r) := by
  unfold Session.completeUpdate
  split
  rename_i accepted resource heq
  split
  · exact h
  · extract_lets finished current waiting removed counted settled variants reported
    have hfinished : Sound H D finished := h.finish hprogram heq
    have hremoved : Sound H D removed :=
      hfinished.modifyGraph j.graph (by intro x; exact ⟨rfl, rfl⟩)
    have hcounted : Sound H D counted := hremoved
    have hsettled : Sound H D settled :=
      Sound.ite hfinished (Sound.ite (hcounted.publish hu hplan) hcounted)
    have hreported : Sound H D reported :=
      Sound.ite (hsettled.compileFailed j.graph j.kernel j.name j.isDefault r) hsettled
    exact Sound.ite hreported hreported

theorem Sound.completeCook (h : Sound H D s) {j : Job} {platform : Nat} {program : Option Program}
    {r : CompileResult} (hprogram : ∀ p, program = some p → Made s.tasks p) :
    Sound H D (s.completeCook j platform program r) := by
  unfold Session.completeCook
  split
  rename_i accepted resource heq
  split
  · exact h
  · extract_lets finished name reported
    have hfinished : Sound H D finished := h.finish hprogram heq
    have hreported : Sound H D reported := by
      refine Sound.ite hfinished ?_
      rw [Session.cookFailed]
      exact Sound.ite hfinished hfinished
    exact Sound.ite hreported hreported

/-! ### Workers -/

/-- A job has a program only if the program cache returned it. -/
theorem jobResult_program {j : Job} {level : FeatureLevel}
    {returned : Except (CallError ProgramError) (Program × Bool)} {p : Program}
    {r : CompileResult} (h : jobResult j level returned = some (some p, r)) :
    ∃ hit, returned = .ok (p, hit) := by
  unfold jobResult at h
  split at h
  · cases h
  · split at h <;> cases h
  · rename_i q hit
    cases h
    exact ⟨hit, rfl⟩

theorem Sound.completeJob (h : Sound H D s) {j : Job} (hj : Ordered H j)
    {returned : Except (CallError ProgramError) (Program × Bool)}
    (hreturned : ∀ p hit, returned = .ok (p, hit) → Made s.tasks p) :
    Sound H D (s.completeJob j returned) := by
  unfold Session.completeJob
  split
  · refine Sound.modifyResource (s := s.count _) h j.resource fun x p hp => Or.inl ?_
    rwa [Resource.program_abandon] at hp
  · rename_i program r hresult
    extract_lets timed counted
    have htimed : Sound H D timed := Sound.ite h h
    have hcounted : Sound H D counted := htimed
    have htasks : counted.tasks = s.tasks := by
      show (if r.cached then s else s.count _).tasks = s.tasks
      split <;> rfl
    have hprogram : ∀ p, program = some p → Made counted.tasks p := by
      rintro p rfl
      obtain ⟨hit, hok⟩ := jobResult_program hresult
      rw [htasks]
      exact hreturned p hit hok
    split
    · rename_i n plan hkind
      obtain ⟨u, hu, hplan, _⟩ := hj n plan hkind
      exact hcounted.completeUpdate hu hplan hprogram
    · exact hcounted.completeCook hprogram

theorem Sound.retire (h : Sound H D s) (p id : Nat) : Sound H D (s.retire p id) := by
  have htask : Sound H D (s.modifyTask id fun t => { t with done := true }) :=
    h.modifyTask id fun _ => rfl
  exact htask

theorem Made.retire {q : Program} (h : Made s.tasks q) (p id : Nat) :
    Made (s.retire p id).tasks q := by
  have hjobs : ∀ t ∈ s.tasks, ∃ t' ∈ s.tasks.modify id fun t => { t with done := true },
      t'.job = t.job := exists_job_modify id fun _ => rfl
  exact h.of_jobs hjobs

theorem Sound.countCalls (h : Sound H D s) (format : String) (n : Nat) :
    Sound H D (s.countCalls format n) := by
  rw [Session.countCalls]
  exact Sound.ite h h

theorem tasks_countCalls (s : Session) (format : String) (n : Nat) :
    (s.countCalls format n).tasks = s.tasks := by
  rw [Session.countCalls]
  split <;> rfl

/-- What the compile of a job comes back with was compiled from its build. -/
theorem compileJob_ok {j : Job} {p : Program} (h : (s.compileJob j).1 = .ok p) :
    p.CompiledFrom j.build := by
  unfold Session.compileJob at h
  split at h
  · cases h
  · rename_i c _
    exact ⟨c, _, h⟩

theorem Sound.runCompile (h : Sound H D s) {id : Nat} {t : CompileTask} (ht : t ∈ s.tasks) :
    Sound H D (s.runCompile id t) := by
  unfold Session.runCompile
  split
  · exact h.withCache (h.cached.compiled _ id fun p hp => by cases hp)
  · split
    rename_i outcome calls hcompile
    extract_lets called noted
    have hnoted : Sound H D noted ∧ noted.tasks = s.tasks := by
      have hcalled : Sound H D called := h.countCalls _ _
      have htasks : called.tasks = s.tasks := tasks_countCalls s _ _
      unfold noted
      split
      · exact ⟨hcalled, htasks⟩
      · exact ⟨hcalled, htasks⟩
    obtain ⟨hnoted, htasks⟩ := hnoted
    refine hnoted.withCache (hnoted.cached.compiled _ id fun p hp => ?_)
    rw [htasks]
    have hok : (s.compileJob t.job).1 = .ok p := by rw [hcompile, hp]
    exact ⟨t, ht, compileJob_ok hok⟩

/-- **A step of a worker** keeps a session sound. -/
theorem Sound.advance (h : Sound H D s) {p : Nat} {s' : Session} (hs : s.advance p = some s') :
    Sound H D s' := by
  unfold Session.advance at hs
  split at hs
  · cases hs
  · rename_i pool _
    split at hs
    · -- a free worker takes the next task
      split at hs
      · cases hs
      · rename_i id rest _
        have htaken : Sound H D (s.modifyPool p fun x => { x with queue := rest }) := h
        dsimp only at hs
        split at hs
        · cases hs
          exact htaken
        · rename_i t _
          split at hs
          · cases hs
            exact htaken.retire p id
          · cases hs
            exact htaken.withCache (htaken.cached.begin id _)
    · -- a busy one goes on with its task
      rename_i id _
      split at hs
      · cases hs
      · rename_i t ht
        have hmem : t ∈ s.tasks := Array.mem_of_getElem? ht
        split at hs
        · rename_i returned hresult
          have hforgotten : Sound H D { s with cache := s.cache.forget id } :=
            h.withCache (h.cached.forget id)
          cases hs
          refine (hforgotten.retire p id).completeJob (h.ordered t hmem) ?_
          rintro q hit rfl
          exact Made.retire (h.cached.result? hresult) p id
        · split at hs
          · cases hs
          · split at hs
            · split at hs
              · cases hs
              · cases hs
                exact (h.modifyTask id (by intro t; rfl)).countCalls _ _
            · cases hs
              exact h.runCompile hmem

theorem Sound.drainAux (fuel : Nat) (h : Sound H D s) : Sound H D (s.drainAux fuel) := by
  induction fuel generalizing s with
  | zero => exact h
  | succ fuel ih =>
    unfold Session.drainAux
    split
    · exact h
    · rename_i s' hs
      obtain ⟨p, _, hp⟩ := List.exists_of_findSome?_eq_some hs
      exact ih (h.advance hp)

theorem Sound.drain (h : Sound H D s) : Sound H D s.drain := h.drainAux _

theorem Sound.cancelTask (h : Sound H D s) (id : Nat) : Sound H D (s.cancelTask id) := by
  have htask : Sound H D (s.modifyTask id fun t => { t with cancelled := true }) :=
    h.modifyTask id fun _ => rfl
  exact htask.withCache (htask.cached.cancel id)

theorem Sound.takeTask (h : Sound H D s) (r : Nat) : Sound H D (s.takeTask r) := by
  unfold Session.takeTask
  split
  rename_i task resource heq
  split
  · exact h
  · rename_i t
    refine Sound.cancelTask (h.modifyResource r fun x p hp => Or.inr (h.resource (r := r) ?_)) t
    rw [← hp, ← Resource.program_takeTask, heq]

theorem Sound.takeTasks (h : Sound H D s) (rs : List Nat) : Sound H D (s.takeTasks rs) := by
  have htaken : Sound H D (rs.foldl Session.takeTask s) :=
    List.foldlRecOn rs _ h fun _ ht r _ => ht.takeTask r
  exact htaken.drain

/-- **Submitting a job** of an update of the history, or of a platform. -/
theorem Sound.submit (h : Sound H D s) {j : Job} (hj : Ordered H j) : Sound H D (s.submit j) := by
  unfold Session.submit
  extract_lets p id queued generation
  have hqueued : Sound H D queued := h.pushTask hj
  split
  · exact hqueued.drain
  · split
    rename_i held resource heq
    extract_lets remembered
    have hremembered : Sound H D remembered := by
      refine hqueued.modifyResource j.resource fun x q hq =>
        Or.inr (hqueued.resource (r := j.resource) ?_)
      rw [← hq, ← Resource.program_setTask, heq]
    exact Sound.ite hremembered (hremembered.cancelTask id)

theorem Sound.closePool (h : Sound H D s) (p : Nat) : Sound H D (s.closePool p) := h.drain

end

end Session

end KernelGraph
