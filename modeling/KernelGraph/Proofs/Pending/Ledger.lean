/-
  The books of outstanding compiles, one critical section after the other.

  A graph has a set of the kernels whose compiles are outstanding, a channel that its waiters wait
  on, and a share in the gauge of all graphs.  They are kept at different places: an update opens
  the account of its generation, jobs are struck off one by one as they come back, the next update
  or closing the graph drops what is left.

      waiting ⟶ submitting ⟶ ⋯ ⟶ idle          (a caller that updates a graph)
         ⟶ ⟶ ⟶ ⟶ ⟶ ⟶ ⟶ ⟶ ⟶ ⟶ ⟶ ⟶
      closing ⟶ idle                            (a caller that closes a graph)

  There are any number of callers, of one graph or of several.  An update that finds a later one has
  begun goes no further.  In between, workers bring jobs back, in any order.  It takes them two
  sections, too: the resource gets the result, and then the graph strikes the kernel off.

  A compile that comes back says that it was cancelled only if its task was.  Nobody is made to wait
  for others here: who waits is one who goes on later.  The definition of a graph is not edited
  while it is updated.  An update that panics while it prepares the kernels never gives the lock of
  its graph back; it is one that never comes to the end of its section.
-/
import KernelGraph.Proofs.Pending.Handing
import KernelGraph.Proofs.Session.Taking

namespace KernelGraph

namespace Session

/-! ## Coming back, in two sections -/

/-- The resource of a job gets the result. -/
def deliver (s : Session) (j : Job) (n : Nat) (program : Option Program) (r : CompileResult) :
    Session :=
  s.modifyResource j.resource fun x => (x.finish n program r).2

/-- The kernel of a job is not outstanding any more. -/
def strike (s : Session) (j : Job) : Session :=
  (s.modifyGraph j.graph fun x => { x with pending := x.pending.filter (· ≠ j.kernel) }).count
    fun m => { m with
      pending := m.pending - ((s.graph j.graph).pending.filter (· = j.kernel)).length }

/-- The graph of a job strikes the kernel off, if no later generation has begun, and tells. -/
def land (s : Session) (j : Job) (n : Nat) (plan : Plan) (program : Option Program)
    (r : CompileResult) : Session :=
  let current := n = (s.graph j.graph).generation
  let s := if !current then s else (s.strike j).settle j.graph plan
  let variants : Nat := (program.map fun p => p.variants.length).getD 0
  let s := if !r.success then s.compileFailed j.graph j.kernel j.name j.isDefault r
    else
      s.note [.of .debug "computegraph: kernel compiled"
        ((s.graph j.graph).definition.logAttributes j.kernel)
        [("format", r.format), ("cached", r.cached),
         ("variants", variants)]]
  if current then s.hook j.graph j.kernel r else s

/-- **A job comes back** in these two sections, unless its resource does not wait for it. -/
theorem completeUpdate_eq_land (s : Session) (j : Job) (n : Nat) (plan : Plan)
    (program : Option Program) (r : CompileResult) : s.completeUpdate j n plan program r =
      if (s.resource j.resource).generation = n ∧ (s.resource j.resource).state = .compiling then
        (s.deliver j n program r).land j n plan program r
      else s := by
  split
  · rename_i h
    unfold completeUpdate
    rw [finish_of_awaited program r h]
    dsimp only
    rw [modifyResource_const s j.resource fun x => (x.finish n program r).2]
    rfl
  · rename_i h
    exact completeUpdate_of_not_awaited plan program r h

/-- A task is over. -/
def endTask (s : Session) (id : Nat) : Session := s.modifyTask id fun t => { t with done := true }

/-- The resources of a graph give their tasks up, which are cancelled. -/
def takeAll (s : Session) (g : Nat) : Session := (s.graphResources g).foldl takeTask s

/-- The graph is closed, and no update is the latest any more. -/
def shut (s : Session) (g : Nat) : Session :=
  s.modifyGraph g fun x => { x with closed := true, generation := x.generation + 1 }

end Session

/-! ## Ledgers -/

/-- Where a caller stands. -/
inductive Ledger.Caller
  | idle
  /-- Its update has a number, and waits for the compiles that it has cancelled. -/
  | waiting (graph number : Nat)
  /-- Kernels that could not be built are to be reported, then jobs to be submitted.  The last job
      may be submitted without its resource having been told. -/
  | submitting (graph : Nat) (plan : Plan) (failed : List Nat) (jobs : List Job)
      (untold : Option (Nat × Job))
  | closing (graph : Nat)

/-- The graph that the caller updates, and the number of its update. -/
def Ledger.Caller.update? : Ledger.Caller → Option (Nat × Nat)
  | waiting g n => some (g, n)
  | submitting g plan _ _ _ => some (g, plan.generation)
  | _ => none

/-- The jobs that the caller has still to submit. -/
def Ledger.Caller.jobs : Ledger.Caller → List Job
  | submitting _ _ _ jobs _ => jobs
  | _ => []

/-- The task that a resource is still to be told of, with its job. -/
def Ledger.Caller.untold? : Ledger.Caller → Option (Nat × Job)
  | submitting _ _ _ _ untold => untold
  | _ => none

/-- A session, its callers and what they have not seen to yet. -/
structure Ledger where
  session : Session
  callers : Nat → Ledger.Caller := fun _ => .idle
  /-- The results of tasks that a resource has got, but no graph yet. -/
  landing : Nat → Option (Option Program × CompileResult) := fun _ => none
  /-- The channel of the graph is open, and who waits for its compiles waits. -/
  waits : Nat → Bool := fun _ => false

namespace Ledger

open Session

/-- The caller goes on. -/
def enter (L : Ledger) (c : Nat) (x : Caller) : Ledger :=
  { L with callers := Function.update L.callers c x }

theorem callers_enter_self (L : Ledger) (c : Nat) (x : Caller) : (L.enter c x).callers c = x :=
  Function.update_self ..

theorem callers_enter_of_ne (L : Ledger) {c c' : Nat} (h : c' ≠ c) (x : Caller) :
    (L.enter c x).callers c' = L.callers c' :=
  Function.update_of_ne h ..

/-- The channel of a graph is closed if nothing is outstanding, unless a later generation has
    begun. -/
def settle (L : Ledger) (g n : Nat) : Ledger :=
  if (L.session.graph g).pending.isEmpty && (L.session.graph g).generation = n then
    { L with waits := Function.update L.waits g false }
  else L

/-- Something around the graphs changes: neither the tasks of updates nor the gauge.  Graphs that
    are not being updated may have been edited. -/
structure Around (L : Ledger) (s' : Session) : Prop extends Session.Around L.session s' where
  same : ∀ (id : Nat) (t : CompileTask), L.session.tasks[id]? = some t → t.job.IsRuntime →
    ∃ t', s'.tasks[id]? = some t' ∧ t'.done = t.done ∧ t'.cancelled = t.cancelled
  gauge : s'.metrics.pending = L.session.metrics.pending
  edited : ∀ c g n, (L.callers c).update? = some (g, n) →
    (s'.graph g).definition = (L.session.graph g).definition

/-- One critical section. -/
inductive Step : Ledger → Ledger → Prop
  | around {L s'} (h : L.Around s') : Step L { L with session := s' }
  /-- A cancelled job is skipped, or comes back to a resource that does not wait for it. -/
  | drop {L id t} (ht : L.session.tasks[id]? = some t) (hruntime : t.job.IsRuntime)
    (hdone : t.done = false) (hlanding : L.landing id = none)
    (h : t.cancelled = true ∨ ¬ L.session.Awaits t.job) :
    Step L { L with session := L.session.endTask id }
  /-- The compile of a job was cancelled. -/
  | abandon {L id t returned} (ht : L.session.tasks[id]? = some t) (hruntime : t.job.IsRuntime)
    (hdone : t.done = false) (hlanding : L.landing id = none) (hcancelled : t.cancelled = true)
    (hresult : jobResult t.job (L.session.resource t.job.resource).level returned = none) :
    Step L { L with session := (L.session.modifyResource t.job.resource fun x =>
      x.abandon t.job.generation).endTask id }
  /-- The resource of a job gets the result that it waits for. -/
  | deliver {L id t n plan returned program r} (ht : L.session.tasks[id]? = some t)
    (hkind : t.job.kind = .runtime n plan) (hdone : t.done = false)
    (hlanding : L.landing id = none) (hawaits : L.session.Awaits t.job)
    (hresult : jobResult t.job (L.session.resource t.job.resource).level returned =
      some (program, r)) :
    Step L { L with
      session := L.session.deliver t.job n program r
      landing := Function.update L.landing id (some (program, r)) }
  /-- The graph strikes the kernel off. -/
  | land {L id t n plan program r} (ht : L.session.tasks[id]? = some t)
    (hkind : t.job.kind = .runtime n plan) (hlanding : L.landing id = some (program, r)) :
    Step L ({ L with
      session := (L.session.land t.job n plan program r).endTask id
      landing := Function.update L.landing id none }.settle t.job.graph n)
  /-- An update that is not rejected gets its number, and cancels the compiles before it. -/
  | begin {L c g} (hidle : L.callers c = .idle) (hg : g < L.session.graphs.size)
    (haccepts : L.session.accepts g = true) :
    Step L ({ L with session := (L.session.begun g).takeAll g }.enter c
      (.waiting g ((L.session.graph g).generation + 1)))
  /-- The graph was closed while the update waited, or a later update has begun. -/
  | quit {L c g n} (hwaiting : L.callers c = .waiting g n)
    (h : (L.session.graph g).closed = true ∨ (L.session.graph g).generation ≠ n) :
    Step L (L.enter c .idle)
  /-- The update prepares the kernels. -/
  | prepare {L c g n d p s'} (hwaiting : L.callers c = .waiting g n)
    (hopen : (L.session.graph g).closed = false) (hn : (L.session.graph g).generation = n)
    (hp : prepareKernels g d ((L.session.resizeSets g).graph g).definition.compilable
      { session := L.session.resizeSets g } = (.ok p, s')) :
    Step L ({ L with
      session := p.session.setPending g (p.jobs.map Prod.fst)
      waits := if p.jobs.isEmpty then L.waits else Function.update L.waits g true }.enter c
        (.submitting g (preparedPlan g p) p.failed (preparedJobs g p (preparedPlan g p)) none))
  /-- The update reports a kernel that could not be built.  (If the graph was closed and emptied
      meanwhile, the program stops here, and the caller may go on in the ledger.) -/
  | report {L c g k plan failed jobs}
    (hcaller : L.callers c = .submitting g plan (k :: failed) jobs none) :
    Step L ({ L with session := L.session.reportFailure g k }.enter c
      (.submitting g plan failed jobs none))
  /-- The update submits a job. -/
  | enqueue {L c g plan j jobs} (hcaller : L.callers c = .submitting g plan [] (j :: jobs) none) :
    Step L ({ L with session := L.session.enqueue j }.enter c
      (.submitting g plan [] jobs (some (L.session.tasks.size, j))))
  /-- The resource of the submitted job is told. -/
  | register {L c g plan jobs id j}
    (hcaller : L.callers c = .submitting g plan [] jobs (some (id, j))) :
    Step L ({ L with session := L.session.register id j }.enter c
      (.submitting g plan [] jobs none))
  /-- A closed pool has run the job at once, so that nobody has to be told. -/
  | inline {L c g plan jobs id j t}
    (hcaller : L.callers c = .submitting g plan [] jobs (some (id, j)))
    (hclosed : L.session.hasClosedPool g = true) (ht : L.session.tasks[id]? = some t)
    (hdone : t.done = true) : Step L (L.enter c (.submitting g plan [] jobs none))
  /-- The update has submitted everything. -/
  | finish {L c g plan} (hcaller : L.callers c = .submitting g plan [] [] none) :
    Step L (({ L with session := L.session.finishUpdate g plan }.settle g plan.generation).enter c
      .idle)
  /-- A graph begins to be closed, and its compiles are cancelled. -/
  | beginClose {L c g} (hidle : L.callers c = .idle) (hg : g < L.session.graphs.size)
    (hopen : (L.session.graph g).closed = false) :
    Step L ({ L with session := (L.session.shut g).takeAll g }.enter c (.closing g))
  /-- A graph is closed. -/
  | finishClose {L c g} (hcaller : L.callers c = .closing g) :
    Step L ({ L with
      session := L.session.finishClose g
      waits := Function.update L.waits g false }.enter c .idle)

/-- Any number of critical sections. -/
abbrev Steps : Ledger → Ledger → Prop := Relation.ReflTransGen Step

/-- The ledgers that can be reached from an empty session. -/
def Reachable (L : Ledger) : Prop :=
  ∃ files scripts limit, Steps { session := { files, scripts, cache := .empty limit } } L

end Ledger

end KernelGraph
