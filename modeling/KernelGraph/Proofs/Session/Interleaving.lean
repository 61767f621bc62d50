/-
  Interleavings: what callers and workers do to a session, one critical section after the other.

  An update takes its number, waits for the compiles that it has cancelled, prepares its kernels,
  reports those that could not be built, submits its jobs one by one and, if none is outstanding,
  publishes.  Closing takes two sections.  Between any two sections anything else may happen: jobs
  come back in any order and with any outcome, resources lose their tasks, other graphs are updated,
  platforms are cooked, and what lies around the graphs changes.

  An update that could not build a kernel of a graph that is closed and emptied meanwhile goes on
  here, where the program stops with an index that is out of range: every run of the program up to
  there is a run here, but not the other way round.

  A `World` is a session together with the places that its callers have reached and a record of the
  hook calls so far, each with the generation that it belongs to.
-/
import Mathlib.Logic.Function.Basic
import Mathlib.Logic.Relation
import KernelGraph.Proofs.Session.Run

namespace KernelGraph

/-- The tasks of a pool: the one that its worker has, and those that wait. -/
def CompilePool.ids (p : CompilePool) : List Nat := p.current.toList ++ p.queue

/-- The generation of a job; platforms have no generations. -/
def Job.generation (j : Job) : Nat :=
  match j.kind with
  | .runtime generation _ => generation
  | .cook _ => 0

namespace Session

/-! ## What lies around the graphs -/

/-- The resource belongs to a platform cache. -/
def IsCooked (s : Session) (r : Nat) : Prop := ∃ p, r ∈ s.platformResources p

/-- A graph may have been edited, and its platform caches may have changed. -/
structure GraphAround (x x' : GraphState) : Prop where
  closed : x'.closed = x.closed
  locked : x'.locked = x.locked
  sets : x'.sets = x.sets
  pending : x'.pending = x.pending
  generation : x'.generation = x.generation
  published : x'.published = x.published
  proxy : x'.proxy = x.proxy

/-- Everything around the run-time state of the graphs may have changed: files, compilers, the
    program cache, logs and counters, platform caches with their resources and jobs.  Tasks may have
    been cancelled or be over, but no task of an update was added, no old task went into a pool and
    no closed pool was opened.  Proxies may have been released, and events taken. -/
structure Around (s s' : Session) : Prop where
  size : s.graphs.size ≤ s'.graphs.size
  graph : ∀ g, GraphAround (s.graph g) (s'.graph g)
  options : ∀ g < s.graphs.size, (s'.graph g).options = (s.graph g).options
  hooks : s'.hooks = s.hooks ∨ s'.hooks = []
  proxies : s'.proxies.toList.map (fun x => { x with released := true }) =
    s.proxies.toList.map fun x => { x with released := true }
  resources : s.resources.size ≤ s'.resources.size
  kept : ∀ r < s.resources.size, ¬ s.IsCooked r → s'.resource r = s.resource r
  cooked : ∀ r, s.IsCooked r → s'.IsCooked r
  fresh : ∀ r, s'.IsCooked r → s.IsCooked r ∨ s.resources.size ≤ r ∧ r < s'.resources.size
  tasks : s.tasks.size ≤ s'.tasks.size
  jobs : ∀ (id : Nat) (t' : CompileTask), s'.tasks[id]? = some t' →
    (∃ t, s.tasks[id]? = some t ∧ t'.job = t.job) ∨
    s.tasks.size ≤ id ∧ (∃ platform, t'.job.kind = .cook platform) ∧ s'.IsCooked t'.job.resource
  pools : ∀ (p : Nat) (pool' : CompilePool), s'.pools[p]? = some pool' → ∀ id ∈ pool'.ids,
    (∃ pool : CompilePool, s.pools[p]? = some pool ∧ id ∈ pool.ids ∧
      (pool'.isOpen = true → pool.isOpen = true)) ∨
    s.tasks.size ≤ id ∧ id < s'.tasks.size

/-! ## The sections of an update and of closing -/

/-- A job is put into the queue of its graph's pool. -/
def enqueue (s : Session) (j : Job) : Session :=
  { s with tasks := s.tasks.push { job := j } }.modifyPool (s.graph j.graph).options.pool fun x =>
    { x with queue := x.queue ++ [s.tasks.size] }

/-- The resource of a submitted job is told its task, which is cancelled if the resource does not
    wait for it. -/
def register (s : Session) (id : Nat) (j : Job) : Session :=
  let (held, resource) := (s.resource j.resource).setTask id j.generation
  let s := s.modifyResource j.resource fun _ => resource
  if held then s else s.cancelTask id

/-- The pool of a graph takes no tasks. -/
def hasClosedPool (s : Session) (g : Nat) : Bool :=
  !(s.pools.getD (s.graph g).options.pool default).isOpen

/-- The jobs of what an update has prepared. -/
def preparedJobs (g : Nat) (p : Prepared) (plan : Plan) : List Job :=
  p.jobs.map fun (kernel, name, isDefault, resource, build) =>
    { graph := g, kernel, name, isDefault, resource, build
      format := (p.session.graph g).options.format
      kind := .runtime (p.session.graph g).generation plan }

/-- The plan of what an update has prepared. -/
def preparedPlan (g : Nat) (p : Prepared) : Plan :=
  let x := p.session.graph g
  x.definition.plan x.generation x.options.level p.builds

/-- An update publishes its plan unless compiles are outstanding or it was superseded. -/
def finishUpdate (s : Session) (g : Nat) (plan : Plan) : Session :=
  if (s.graph g).pending.isEmpty && (s.graph g).generation = plan.generation then s.publish g plan
  else s

/-- The resources of a graph, those of its platform caches included. -/
def allResources (s : Session) (g : Nat) : List Nat :=
  s.graphResources g ++ ((s.graph g).cook.map Prod.snd).flatMap s.platformResources

/-- A graph is left without resources, proxy and platform caches. -/
def emptyGraph (s : Session) (g : Nat) (cook : List Nat) : Session :=
  let s := s.setPending g []
  let s := { s with
    platforms := cook.foldl (fun ps p => ps.modify p fun x => { x with announced := true })
      s.platforms }
  let proxy := (s.graph g).proxy
  let s := s.modifyGraph g fun x => { x with sets := [], cook := [], proxy := none }
  s.releaseProxy g proxy

/-- The second section of closing a graph: nothing is left of its resources and of its proxy. -/
def finishClose (s : Session) (g : Nat) : Session :=
  ((s.allResources g).foldl (fun s r => s.modifyResource r Resource.invalidate) s).emptyGraph g
    ((s.graph g).cook.map Prod.snd)

end Session

/-! ## Worlds -/

/-- Where the caller that updates a graph stands. -/
inductive Phase
  | idle
  /-- The update has its number and waits for the compiles that it has cancelled. -/
  | waiting (number : Nat)
  /-- Kernels that could not be built are to be reported, then jobs to be submitted.  The last job
      may be submitted without its resource having been told. -/
  | submitting (plan : Plan) (failed : List Nat) (jobs : List Job) (untold : Option (Nat × Job))

/-- A call of the kernel-compiled hook, for an update. -/
structure HookMark where
  graph : Nat
  kernel : Nat
  generation : Nat
  deriving DecidableEq

/-- A session, its callers and the hook calls so far. -/
structure World where
  session : Session
  phase : Nat → Phase := fun _ => .idle
  /-- Graphs that are being closed. -/
  closing : Nat → Bool := fun _ => false
  calls : List HookMark := []

namespace World

open Session

/-- The next session; the hook calls that it has in addition are recorded for a generation. -/
def record (w : World) (generation : Nat) (s' : Session) : World :=
  { w with
    session := s'
    calls := w.calls ++ (s'.hooks.drop w.session.hooks.length).map fun x =>
      ⟨x.graph, x.kernel, generation⟩ }

/-- The caller that updates a graph goes on. -/
def enter (w : World) (g : Nat) (φ : Phase) : World :=
  { w with phase := Function.update w.phase g φ }

/-- One critical section. -/
inductive Step : World → World → Prop
  /-- Something around the graphs changes. -/
  | around {w : World} {s' : Session} (h : w.session.Around s') : Step w { w with session := s' }
  /-- A resource gives its task up, which is cancelled. -/
  | take {w : World} (r : Nat) : Step w { w with session := w.session.takeTask r }
  /-- A submitted job comes back, with any outcome. -/
  | comeBack {w : World} {t : CompileTask} (ht : t ∈ w.session.tasks)
      (returned : Except (CallError ProgramError) (Program × Bool)) :
      Step w (w.record t.job.generation (w.session.completeJob t.job returned))
  /-- An update that is not rejected gets its number. -/
  | begin {w : World} {g : Nat} (hg : g < w.session.graphs.size) (hidle : w.phase g = .idle)
      (haccepts : w.session.accepts g = true) :
      Step w ({ w with session := w.session.modifyGraph g fun x =>
        { x with generation := x.generation + 1 } }.enter g
          (.waiting ((w.session.graph g).generation + 1)))
  /-- The graph was closed while the update waited. -/
  | quit {w : World} {g n : Nat} (hwaiting : w.phase g = .waiting n)
      (hclosed : (w.session.graph g).closed = true) : Step w (w.enter g .idle)
  /-- The update prepares the kernels. -/
  | prepare {w : World} {g n : Nat} {d : Dialect} {p : Prepared} {s' : Session}
      (hwaiting : w.phase g = .waiting n) (hopen : (w.session.graph g).closed = false)
      (hp : prepareKernels g d ((w.session.resizeSets g).graph g).definition.compilable
        { session := w.session.resizeSets g } = (.ok p, s')) :
      Step w ({ w with session := p.session.setPending g (p.jobs.map Prod.fst) }.enter g
        (.submitting (preparedPlan g p) p.failed (preparedJobs g p (preparedPlan g p)) none))
  /-- An interface asks for an undeclared parameter, which ends the update.  It keeps the lock of
      the graph. -/
  | stop {w : World} {g n : Nat} {d : Dialect} {e : GraphError} {s' : Session}
      (hwaiting : w.phase g = .waiting n) (hopen : (w.session.graph g).closed = false)
      (hp : prepareKernels g d ((w.session.resizeSets g).graph g).definition.compilable
        { session := w.session.resizeSets g } = (.error e, s')) :
      Step w ({ w with session := s'.lock g }.enter g .idle)
  /-- The update reports a kernel that could not be built. -/
  | report {w : World} {g k : Nat} {plan : Plan} {failed : List Nat} {jobs : List Job}
      (hphase : w.phase g = .submitting plan (k :: failed) jobs none) :
      Step w ((w.record plan.generation (w.session.reportFailure g k)).enter g
        (.submitting plan failed jobs none))
  /-- The update submits a job. -/
  | enqueue {w : World} {g : Nat} {plan : Plan} {j : Job} {jobs : List Job}
      (hphase : w.phase g = .submitting plan [] (j :: jobs) none) :
      Step w ({ w with session := w.session.enqueue j }.enter g
        (.submitting plan [] jobs (some (w.session.tasks.size, j))))
  /-- The resource of the submitted job is told. -/
  | register {w : World} {g id : Nat} {plan : Plan} {j : Job} {jobs : List Job}
      (hphase : w.phase g = .submitting plan [] jobs (some (id, j))) :
      Step w ({ w with session := w.session.register id j }.enter g
        (.submitting plan [] jobs none))
  /-- A closed pool has run the job at once, so that nobody has to be told. -/
  | inline {w : World} {g id : Nat} {plan : Plan} {j : Job} {jobs : List Job}
      (hphase : w.phase g = .submitting plan [] jobs (some (id, j)))
      (hclosed : w.session.hasClosedPool g = true) :
      Step w (w.enter g (.submitting plan [] jobs none))
  /-- The update has submitted everything. -/
  | finish {w : World} {g : Nat} {plan : Plan}
      (hphase : w.phase g = .submitting plan [] [] none) :
      Step w ({ w with session := w.session.finishUpdate g plan }.enter g .idle)
  /-- A graph begins to be closed. -/
  | beginClose {w : World} {g : Nat} (hg : g < w.session.graphs.size)
      (hopen : (w.session.graph g).closed = false) (hfree : (w.session.graph g).locked = false) :
      Step w { w with
        session := w.session.modifyGraph g fun x =>
          { x with closed := true, generation := x.generation + 1 }
        closing := Function.update w.closing g true }
  /-- A graph is closed. -/
  | finishClose {w : World} {g : Nat} (hclosing : w.closing g = true) :
      Step w { w with
        session := w.session.finishClose g
        closing := Function.update w.closing g false }

/-- Any number of critical sections. -/
abbrev Steps : World → World → Prop := Relation.ReflTransGen Step

/-- The worlds that can be reached from an empty session. -/
def Reachable (w : World) : Prop :=
  ∃ files scripts limit, Steps { session := { files, scripts, cache := .empty limit } } w

end World

end KernelGraph
