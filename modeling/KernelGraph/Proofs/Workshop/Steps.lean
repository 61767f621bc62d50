/-
  Workshops: updates, platforms and closing side by side, one section after the other.

  A graph compiles its kernels for itself and for platforms.  Both go through the same pools, the
  same program cache and the same kind of resources, and the callers need not wait for each other:

      waiting ⟶ submitting ⟶ ⋯ ⟶ idle                            (an update)
      clearing ⟶ ⋯ ⟶ idle                                        (a platform is dropped)
      clearing ⟶ ⋯ ⟶ building ⟶ ⋯ ⟶ submitting ⟶ ⋯ ⟶ idle      (a platform is begun)
      closing ⟶ retracting ⟶ idle                                (a graph is closed)

  There are any number of callers, of one graph or of several.  Workers bring jobs back in any order
  and with any outcome.  Only if the compilers are honest does a compile that comes back cancelled
  belong to a task that was cancelled.  The render queue runs the commands that it has got at any
  time, in any order.

  Every section bears the name of its duty: whom it works for.  A graph is not edited while somebody
  works on it.

  An update that an interface stops never gives back the lock of its graph.  From then on nobody
  begins or ends an update of the graph, drops its platforms or closes it.  A job that comes back,
  and who has built for a platform, would wait for the lock too; here they may go on, so that more
  can happen than does.  (None of these jobs is current, so the graph has nothing to strike off.)
  In the same way a caller may go on when the graph was closed before it could report a kernel that
  could not be built, although there is no resource left to look at, and the program ends there.
-/
import KernelGraph.Proofs.Workshop.Sections

namespace KernelGraph

/-! ## Callers -/

/-- What jobs are submitted for. -/
inductive Errand
  | update (plan : Plan)
  | cook (platform : Nat)

/-- A job that came back, and how far that has been told. -/
inductive Landing
  /-- The resource has the result. -/
  | delivered (program : Option Program) (r : CompileResult)
  /-- The graph has struck the job off, if it was current. -/
  | struck (program : Option Program) (r : CompileResult) (current : Bool)

/-- Where a caller stands. -/
inductive Workshop.Caller
  | idle
  /-- Its update has a number, and waits for the compiles that it has cancelled. -/
  | waiting (graph number : Nat)
  /-- Kernels that could not be built are to be reported, then jobs to be submitted.  The last job
      may be submitted without its resource having been told. -/
  | submitting (graph : Nat) (errand : Errand) (failed : List Nat) (jobs : List Job)
      (untold : Option (Nat × Job))
  /-- Platform caches are dropped, perhaps before a platform is begun. -/
  | clearing (graph : Nat) (next : Option TargetPlatform) (chores : List Chore)
  /-- The kernels are built for the formats of a platform. -/
  | building (graph : Nat) (platform : TargetPlatform) (builds : List Session.FormatBuilds)
  /-- The graph is closed, and the cancelled compiles are waited for. -/
  | closing (graph : Nat)
  /-- The graph has been emptied, and has still its proxy. -/
  | retracting (graph : Nat)

namespace Workshop.Caller

/-- The graph that the caller works on. -/
def graph? : Workshop.Caller → Option Nat
  | idle => none
  | waiting g _ | submitting g _ _ _ _ | clearing g _ _ | building g _ _ | closing g
  | retracting g => some g

/-- The jobs that the caller has still to submit. -/
def jobs : Workshop.Caller → List Job
  | submitting _ _ _ jobs _ => jobs
  | _ => []

/-- The task that a resource is still to be told of, with its job. -/
def untold? : Workshop.Caller → Option (Nat × Job)
  | submitting _ _ _ _ untold => untold
  | _ => none

/-- What the caller has still to do about the caches that it drops. -/
def chores : Workshop.Caller → List Chore
  | clearing _ _ chores => chores
  | _ => []

/-- The caller closes the graph. -/
def Closes (g : Nat) : Workshop.Caller → Prop
  | closing i | retracting i => i = g
  | _ => False

/-- The caller that builds for the formats of a platform goes on, or is stopped. -/
def built (g : Nat) (platform : TargetPlatform) (builds : List Session.FormatBuilds) :
    Except GraphError (List Session.FormatBuilds) → Workshop.Caller
  | .ok fs => building g platform (builds ++ fs)
  | .error _ => idle

end Workshop.Caller

/-! ## Duties -/

/-- Whom a section works for. -/
inductive Duty
  /-- Nobody: it goes on around the graphs. -/
  | aside
  /-- Who takes the records and hook calls. -/
  | collect
  /-- The run-time resources of a graph, and its proxy. -/
  | runtime (graph : Nat)
  /-- A platform of a graph. -/
  | cook (graph : Nat) (platform : String)
  /-- A platform that is listed. -/
  | list (graph : Nat) (platform : String)
  /-- All platforms of a graph. -/
  | cookAll (graph : Nat)
  /-- Who closes a graph. -/
  | close (graph : Nat)
  deriving DecidableEq

namespace Session

/-- The name of a platform. -/
def platformName (s : Session) (platform : Nat) : String :=
  (s.platforms.getD platform default).platform.name

/-- Whom a job is done for. -/
def duty (s : Session) (j : Job) : Duty :=
  match j.kind with
  | .runtime _ _ => .runtime j.graph
  | .cook platform => .cook j.graph (s.platformName platform)

/-- The render queue runs a command that it has got. -/
def execute (s : Session) (p : Nat) : Session :=
  { s with
    commands := s.commands.erase p
    proxies := s.proxies.modify p fun x => { x with released := true } }

/-- The graph is closed, no update is the latest any more, and its compiles are cancelled. -/
def shutDown (s : Session) (g : Nat) : Session :=
  ((s.shut g).allResources g).foldl takeTask (s.shut g)

end Session

/-- What remains of a task while its worker goes on. -/
def CompileTask.mark (t : CompileTask) : Job × Bool × Bool := (t.job, t.cancelled, t.done)

/-! ## Workshops -/

/-- A session, its callers and what has been begun but is not over. -/
structure Workshop where
  session : Session
  callers : Nat → Workshop.Caller := fun _ => .idle
  /-- The jobs that a resource has got, but not everybody has been told of. -/
  landing : Nat → Option Landing := fun _ => none
  /-- Proxies that have lost their place and are to be handed to the render queue. -/
  outgoing : List Nat := []
  /-- Proxies that the render queue has got, in order. -/
  handed : List Nat := []
  /-- A compile is not cancelled unless its task is. -/
  honest : Bool := true

namespace Workshop

open Session

/-- The caller goes on. -/
def enter (W : Workshop) (c : Nat) (x : Caller) : Workshop :=
  { W with callers := Function.update W.callers c x }

/-- The proxy of a plan takes its place. -/
def present (W : Workshop) (g : Nat) (plan : Plan) : Workshop :=
  { W with
    session := W.session.present g plan
    outgoing := W.outgoing ++ (W.session.displaced g plan).toList }

/-- The proxy of a plan takes its place if nothing is outstanding. -/
def settle (W : Workshop) (g : Nat) (plan : Plan) : Workshop :=
  if (W.session.graph g).pending.isEmpty then W.present g plan else W

/-- A job of an update is struck off if it is current; then perhaps the proxy takes its place. -/
def strike (W : Workshop) (j : Job) (n : Nat) (plan : Plan) : Workshop :=
  if n = (W.session.graph j.graph).generation then
    { W with session := W.session.strike j }.settle j.graph plan
  else W

/-- The last section of an update. -/
def finish (W : Workshop) (g : Nat) (plan : Plan) : Workshop :=
  if (W.session.graph g).pending.isEmpty && (W.session.graph g).generation = plan.generation then
    W.present g plan
  else W

/-- Something changes around the graphs: files, compilers, the program cache, pools, records and
    counters.  Graphs are made, and edited unless somebody works on them. -/
structure Aside (W : Workshop) (s' : Session) : Prop extends Session.Around W.session s' where
  store : s'.resources = W.session.resources
  caches : s'.platforms = W.session.platforms
  listed : ∀ g, (s'.graph g).cook = (W.session.graph g).cook
  published : s'.proxies = W.session.proxies
  queued : s'.commands = W.session.commands
  told : s'.hooks = W.session.hooks
  marks : s'.tasks.map CompileTask.mark = W.session.tasks.map CompileTask.mark
  edited : ∀ c g, (W.callers c).graph? = some g →
    (s'.graph g).definition = (W.session.graph g).definition

/-- A caller goes on without a section. -/
inductive Turn (s : Session) : Caller → Caller → Prop
  /-- The graph was closed while the update waited, or a later update has begun. -/
  | quit {g n} (hfree : (s.graph g).locked = false)
    (h : (s.graph g).closed = true ∨ (s.graph g).generation ≠ n) :
    Turn s (.waiting g n) .idle
  /-- A closed pool has run the job at once, so that nobody has to be told. -/
  | inline {g errand jobs id j} (hclosed : s.hasClosedPool g = true) :
    Turn s (.submitting g errand [] jobs (some (id, j))) (.submitting g errand [] jobs none)
  /-- The caches have been dropped. -/
  | cleared {g} : Turn s (.clearing g none []) .idle
  /-- The caches have been dropped, and a platform is begun. -/
  | start {g platform} : Turn s (.clearing g (some platform) []) (.building g platform [])
  /-- The graph was closed before the platform was begun. -/
  | refuse {g platform builds} (hfree : (s.graph g).locked = false)
    (hclosed : (s.graph g).closed = true) :
    Turn s (.building g platform builds) .idle

/-- One section. -/
inductive Step : Duty → Workshop → Workshop → Prop
  | aside {W s'} (h : W.Aside s') : Step .aside W { W with session := s' }
  | collect {W} : Step .collect W { W with session := W.session.takeEvents.2 }
  | turn {W c x} (h : Turn W.session (W.callers c) x) : Step .aside W (W.enter c x)
  /-- The render queue runs a command. -/
  | execute {W p} (hp : p ∈ W.session.commands) :
    Step .aside W { W with session := W.session.execute p }
  /-- A proxy is handed to the render queue. -/
  | handOver {W p} (hp : p ∈ W.outgoing) :
    Step .aside W { W with
      session := W.session.releaseProxy (W.session.proxies.getD p default).graph (some p)
      outgoing := W.outgoing.erase p
      handed := W.handed ++ [p] }
  /-- A cancelled job is skipped, or comes back to a resource that does not wait for it. -/
  | drop {W id t} (ht : W.session.tasks[id]? = some t) (hlanding : W.landing id = none)
    (h : t.cancelled = true ∨ ¬ W.session.Awaits t.job) :
    Step (W.session.duty t.job) W { W with session := W.session.endTask id }
  /-- The compile of a job was cancelled. -/
  | abandon {W id t returned} (ht : W.session.tasks[id]? = some t)
    (hlanding : W.landing id = none) (hhonest : W.honest = true → t.cancelled = true)
    (hresult : jobResult t.job (W.session.resource t.job.resource).level returned = none) :
    Step (W.session.duty t.job) W { W with session := (W.session.modifyResource t.job.resource
      fun x => x.abandon t.job.generation).endTask id }
  /-- The resource of a job gets the result that it waits for. -/
  | deliver {W id t returned program r} (ht : W.session.tasks[id]? = some t)
    (hlanding : W.landing id = none) (hawaits : W.session.Awaits t.job)
    (hresult : jobResult t.job (W.session.resource t.job.resource).level returned =
      some (program, r)) :
    Step (W.session.duty t.job) W { W with
      session := (W.session.deliver t.job t.job.generation program r).endTask id
      landing := Function.update W.landing id (some (.delivered program r)) }
  /-- The graph strikes a job off. -/
  | strike {W id t n plan program r} (ht : W.session.tasks[id]? = some t)
    (hkind : t.job.kind = .runtime n plan) (hlanding : W.landing id = some (.delivered program r)) :
    Step (.runtime t.job.graph) W { W.strike t.job n plan with
      landing := Function.update W.landing id
        (some (.struck program r (n = (W.session.graph t.job.graph).generation))) }
  /-- An update's job is told. -/
  | tellUpdate {W id t n plan program r current} (ht : W.session.tasks[id]? = some t)
    (hkind : t.job.kind = .runtime n plan)
    (hlanding : W.landing id = some (.struck program r current)) :
    Step (.runtime t.job.graph) W { W with
      session := W.session.tellUpdate t.job program r current
      landing := Function.update W.landing id none }
  /-- A platform's job is told. -/
  | tellCook {W id t platform program r} (ht : W.session.tasks[id]? = some t)
    (hkind : t.job.kind = .cook platform)
    (hlanding : W.landing id = some (.delivered program r)) :
    Step (.cook t.job.graph (W.session.platformName platform)) W { W with
      session := W.session.tellCook t.job platform r
      landing := Function.update W.landing id none }
  /-- An update that is not rejected gets its number, and cancels the compiles before it. -/
  | begin {W c g} (hidle : W.callers c = .idle) (hg : g < W.session.graphs.size)
    (haccepts : W.session.accepts g = true) :
    Step (.runtime g) W ({ W with session := (W.session.begun g).takeAll g }.enter c
      (.waiting g ((W.session.graph g).generation + 1)))
  /-- The update prepares the kernels. -/
  | prepare {W c g n d p s'} (hwaiting : W.callers c = .waiting g n)
    (hfree : (W.session.graph g).locked = false) (hopen : (W.session.graph g).closed = false)
    (hn : (W.session.graph g).generation = n)
    (hp : prepareKernels g d ((W.session.resizeSets g).graph g).definition.compilable
      { session := W.session.resizeSets g } = (.ok p, s')) :
    Step (.runtime g) W ({ W with session := p.session.setPending g (p.jobs.map Prod.fst) }.enter c
      (.submitting g (.update (preparedPlan g p)) p.failed (preparedJobs g p (preparedPlan g p))
        none))
  /-- An interface asks for an undeclared parameter, which ends the update with the lock kept. -/
  | stop {W c g n d e s'} (hwaiting : W.callers c = .waiting g n)
    (hfree : (W.session.graph g).locked = false) (hopen : (W.session.graph g).closed = false)
    (hn : (W.session.graph g).generation = n)
    (hp : prepareKernels g d ((W.session.resizeSets g).graph g).definition.compilable
      { session := W.session.resizeSets g } = (.error e, s')) :
    Step (.runtime g) W ({ W with session := s'.lock g }.enter c .idle)
  /-- The update reports a kernel that could not be built. -/
  | report {W c g k plan failed jobs}
    (hcaller : W.callers c = .submitting g (.update plan) (k :: failed) jobs none) :
    Step (.runtime g) W ({ W with session := W.session.reportFailure g k }.enter c
      (.submitting g (.update plan) failed jobs none))
  /-- A job is submitted. -/
  | enqueue {W c g errand j jobs}
    (hcaller : W.callers c = .submitting g errand [] (j :: jobs) none) :
    Step (W.session.duty j) W ({ W with session := W.session.enqueue j }.enter c
      (.submitting g errand [] jobs (some (W.session.tasks.size, j))))
  /-- The resource of the submitted job is told. -/
  | register {W c g errand jobs id j}
    (hcaller : W.callers c = .submitting g errand [] jobs (some (id, j))) :
    Step (W.session.duty j) W ({ W with session := W.session.register id j }.enter c
      (.submitting g errand [] jobs none))
  /-- The update has submitted everything. -/
  | finishUpdate {W c g plan} (hcaller : W.callers c = .submitting g (.update plan) [] [] none)
    (hfree : (W.session.graph g).locked = false) :
    Step (.runtime g) W ((W.finish g plan).enter c .idle)
  /-- A platform is taken off the list to be dropped, perhaps to be begun again. -/
  | delist {W c g name next} (hidle : W.callers c = .idle) (hg : g < W.session.graphs.size)
    (hfree : (W.session.graph g).locked = false) (hnext : ∀ platform ∈ next, platform.name = name ∧
      (W.session.graph g).definition.validate = .ok ()) :
    Step (.cook g name) W ({ W with session := W.session.delist g name }.enter c (.clearing g next
      (((W.session.graph g).cook.lookup name).toList.flatMap W.session.chores)))
  /-- All platforms are taken off the list to be dropped. -/
  | delistAll {W c g} (hidle : W.callers c = .idle) (hg : g < W.session.graphs.size)
    (hfree : (W.session.graph g).locked = false) :
    Step (.cookAll g) W ({ W with session := W.session.delistAll g }.enter c (.clearing g none
      (((W.session.graph g).cook.map Prod.snd).flatMap W.session.chores)))
  /-- A cache is dropped further. -/
  | chore {W c g next x chores} (hcaller : W.callers c = .clearing g next (x :: chores)) :
    Step (.cook g (W.session.platformName x.platform)) W
      ({ W with session := x.apply W.session }.enter c (.clearing g next chores))
  /-- The kernels are built for the next format of a platform. -/
  | build {W c g platform builds format}
    (hcaller : W.callers c = .building g platform builds)
    (hopen : (W.session.graph g).closed = false)
    (hformat : platform.formats[builds.length]? = some format) :
    Step (.cook g platform.name) W
      ({ W with session := (buildFormats g platform.name [format] W.session).2 }.enter c
        (.built g platform builds (buildFormats g platform.name [format] W.session).1))
  /-- The entries of a platform are made and listed. -/
  | install {W c g platform builds} (hcaller : W.callers c = .building g platform builds)
    (hopen : (W.session.graph g).closed = false)
    (hbuilds : builds.length = platform.formats.length) :
    Step (.list g platform.name) W
      ({ W with session := (W.session.install g platform builds).1 }.enter c
        (.submitting g (.cook W.session.platforms.size) []
          (W.session.install g platform builds).2 none))
  /-- The platform's jobs are submitted. -/
  | finishCook {W c g platform}
    (hcaller : W.callers c = .submitting g (.cook platform) [] [] none) :
    Step (.cook g (W.session.platformName platform)) W
      ({ W with session := W.session.announceReady g platform }.enter c .idle)
  /-- A graph begins to be closed, and all its compiles are cancelled. -/
  | beginClose {W c g} (hidle : W.callers c = .idle) (hg : g < W.session.graphs.size)
    (hfree : (W.session.graph g).locked = false) (hopen : (W.session.graph g).closed = false) :
    Step (.close g) W ({ W with session := W.session.shutDown g }.enter c (.closing g))
  /-- The graph is left without resources and platform caches. -/
  | vacate {W c g} (hcaller : W.callers c = .closing g) :
    Step (.close g) W ({ W with session := W.session.vacate g }.enter c (.retracting g))
  /-- The graph publishes no proxy any more. -/
  | retract {W c g} (hcaller : W.callers c = .retracting g) :
    Step (.close g) W ({ W with
      session := W.session.retract g
      outgoing := W.outgoing ++ (W.session.graph g).proxy.toList }.enter c .idle)

/-- Any number of sections, of certain duties. -/
def Runs (duties : Duty → Prop) : Workshop → Workshop → Prop :=
  Relation.ReflTransGen fun W W' => ∃ d, duties d ∧ Step d W W'

/-- Any number of sections. -/
abbrev Steps : Workshop → Workshop → Prop := Runs fun _ => True

/-- A workshop with an empty session. -/
def start (files : FileStore) (scripts : List Script) (limit : Int) (honest : Bool) : Workshop :=
  { session := { files, scripts, cache := .empty limit }, honest }

/-- The workshops that can be reached from an empty session. -/
def Reachable (W : Workshop) : Prop :=
  ∃ files scripts limit honest, Steps (start files scripts limit honest) W

end Workshop

end KernelGraph
