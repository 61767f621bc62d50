/-
  A pool of workers.

  Every worker has a queue of its own.  A task goes to the shortest queue; a worker takes from its
  queue, and after it has finished a task and finds its queue empty it steals from the others before
  it goes to sleep.  A sleeping worker is woken by its own queue only.

  The pool is a state machine over the events `submit`, `cancel`, `take`, `steal`, `finish` and
  `close`.  `settle` is a scheduler: it lets the workers go on until none of them can.
-/

namespace KernelGraph

/-- Why a task failed. -/
inductive TaskError
  /-- It was submitted to a closed pool. -/
  | poolClosed
  /-- It was cancelled before it ran, or it noticed the cancellation. -/
  | cancelled
  /-- Its own words. -/
  | failed (text : String)
  deriving DecidableEq, Repr

/-- The message of the error. -/
def TaskError.message : TaskError → String
  | poolClosed => "parallel: pool closed"
  | cancelled => "context canceled"
  | failed text => text

/-- Where a task stands; the result of a finished one is `none` for success. -/
inductive TaskStatus
  | queued
  | running
  | finished (error : Option TaskError)
  deriving DecidableEq, Repr

/-- A task, by number. -/
structure PoolTask where
  id : Nat
  cancelled : Bool := false
  status : TaskStatus := .queued
  deriving DecidableEq, Repr

/-- A worker: its queue, the task it runs and whether it sleeps. -/
structure PoolWorker where
  queue : List Nat := []
  current : Option Nat := none
  asleep : Bool := true
  deriving DecidableEq, Repr, Inhabited

/-- The workers and the tasks of a pool. -/
structure Pool where
  workers : List PoolWorker
  tasks : List PoolTask := []
  isOpen : Bool := true
  /-- Tasks in the order in which they began to run. -/
  ran : List Nat := []
  deriving DecidableEq, Repr

namespace Pool

/-- A pool with the given number of workers. -/
def ofWorkers (n : Nat) : Pool := { workers := List.replicate n {} }

/-- The task with a number. -/
def task? (p : Pool) (id : Nat) : Option PoolTask := p.tasks.find? fun t => t.id = id

/-- Changes the task with a number. -/
def modifyTask (p : Pool) (id : Nat) (f : PoolTask → PoolTask) : Pool :=
  { p with tasks := p.tasks.map fun t => if t.id = id then f t else t }

/-- Changes one worker. -/
def modifyWorker (p : Pool) (w : Nat) (f : PoolWorker → PoolWorker) : Pool :=
  { p with workers := p.workers.modify w f }

/-- The number of the first worker with the shortest queue. -/
def shortest (p : Pool) : Nat :=
  let least := p.workers.foldl (fun n w => min n w.queue.length)
    ((p.workers.head?.map fun w => w.queue.length).getD 0)
  (p.workers.findIdx? fun w => w.queue.length = least).getD 0

/-- Submits a task.  On a closed pool it is finished at once. -/
def submit (p : Pool) (id : Nat) (cancelled : Bool) : Pool :=
  if p.isOpen then
    { p.modifyWorker p.shortest fun w => { w with queue := w.queue ++ [id] } with
      tasks := p.tasks ++ [{ id, cancelled }] }
  else
    { p with tasks := p.tasks ++ [{ id, cancelled, status := .finished (some .poolClosed) }] }

/-- Asks a task to stop. -/
def cancel (p : Pool) (id : Nat) : Pool := p.modifyTask id fun t => { t with cancelled := true }

/-- Worker `w` begins to run a task; a cancelled one is skipped. -/
def run (p : Pool) (w id : Nat) : Pool :=
  match p.task? id with
  | none => p
  | some t =>
    if t.cancelled then
      (p.modifyTask id fun t => { t with status := .finished (some .cancelled) }).modifyWorker w
        fun w => { w with asleep := false }
    else
      { (p.modifyTask id fun t => { t with status := .running }).modifyWorker w
          fun w => { w with current := some id, asleep := false } with
        ran := p.ran ++ [id] }

/-- An idle worker takes the first task of the queue of worker `from`, its own or another's. -/
def takeFrom (p : Pool) (w source : Nat) : Pool :=
  match (p.workers[w]?.getD {}).current, (p.workers[source]?.getD {}).queue with
  | none, id :: rest => (p.modifyWorker source fun x => { x with queue := rest }).run w id
  | _, _ => p

/-- The task that worker `w` runs returns. -/
def finish (p : Pool) (w : Nat) (error : Option TaskError) : Pool :=
  match (p.workers[w]?.getD {}).current with
  | none => p
  | some id =>
    (p.modifyTask id fun t => { t with status := .finished error }).modifyWorker w
      fun x => { x with current := none, asleep := false }

/-- Stops accepting tasks; the workers still run what is queued. -/
def close (p : Pool) : Pool := { p with isOpen := false }

/-- The next thing that worker `w` can do, if any: its task returns when `verdict` says so, it takes
    from its queue, or, being awake, it steals. -/
def advance (verdict : PoolTask → Option (Option TaskError)) (p : Pool) (w : Nat) : Option Pool :=
  match p.workers[w]? with
  | none => none
  | some x =>
    match x.current with
    | some id => ((p.task? id).bind verdict).map fun e => p.finish w e
    | none =>
      if !x.queue.isEmpty then some (p.takeFrom w w)
      else if x.asleep then none
      else
        match (List.range p.workers.length).find? fun v =>
            v ≠ w && !(p.workers[v]?.getD {}).queue.isEmpty with
        | some v => some (p.takeFrom w v)
        | none => some (p.modifyWorker w fun x => { x with asleep := true })

/-- Lets the workers go on, at most `fuel` times, until none of them can. -/
def settleAux (verdict : PoolTask → Option (Option TaskError)) : (fuel : Nat) → Pool → Pool
  | 0, p => p
  | fuel + 1, p =>
    match (List.range p.workers.length).findSome? (advance verdict p) with
    | none => p
    | some p => settleAux verdict fuel p

/-- Lets the workers go on until none of them can.  A task is taken once and returns once, and a
    worker falls asleep at most once after each, so the fuel suffices. -/
def settle (verdict : PoolTask → Option (Option TaskError)) (p : Pool) : Pool :=
  settleAux verdict (4 * p.tasks.length + p.workers.length + 1) p

/-- The number of tasks in queues. -/
def queued (p : Pool) : Nat := p.workers.foldl (fun n w => n + w.queue.length) 0

end Pool

end KernelGraph
