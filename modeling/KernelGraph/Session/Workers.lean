/-
  Workers: running compile jobs.

  A worker takes the first task of its queue.  A task that was cancelled while it waited is skipped.
  Otherwise the program cache is asked; the task then has a result, waits for the flight of another
  task, or compiles.  `drain` lets the workers go on until none of them can.
-/
import KernelGraph.Session.Publish

namespace KernelGraph.Session

/-- The key of a job's program. -/
def jobKey (j : Job) : ProgramKey := ⟨j.format, j.build.hashKey⟩

/-- Compiles the build of a job with the compiler of its format. -/
def compileJob (s : Session) (j : Job) : Except ProgramError Program × Nat :=
  match s.compiler? j.format with
  | none => (.error (.cancelled j.build.friendlyName), 0)
  | some c =>
    let files := s.files.resolver (s.graph j.graph).options.registry
    Program.compile c false (j.build.request files) j.build.hashKey (some j.build.permutations)

/-- True when the compile of a job would reach its compiler. -/
def reachesCompiler (j : Job) : Bool :=
  0 < j.build.permutations.count && j.build.permutations.count ≤ maxPermutations

/-- True when the compile of a task waits for a held compiler. -/
def waitsForRelease (s : Session) (t : CompileTask) : Bool :=
  s.held && !t.cancelled && (s.script? t.job.format).isSome && reachesCompiler t.job

/-- Counts calls of a scripted compiler. -/
def countCalls (s : Session) (format : String) (n : Nat) : Session :=
  if (s.script? format).isNone then s
  else { s with calls := putAssoc format (((s.calls.lookup format).getD 0) + n) s.calls }

/-- The compile of a task runs and comes back to the program cache. -/
def runCompile (s : Session) (id : Nat) (t : CompileTask) : Session :=
  if t.cancelled then
    let error := ProgramError.cancelled t.job.build.friendlyName
    { s with cache := s.cache.compiled ProgramError.isCancelled id (.error error) }
  else
    let (outcome, calls) := s.compileJob t.job
    let s := s.countCalls t.job.format (if t.entered then calls - 1 else calls)
    let s := match outcome with
      | .error _ => s
      | .ok p =>
        s.note [{ level := .debug
                  message := "backend: program compiled"
                  attributes :=
                    [("kernel", t.job.build.friendlyName), ("format", p.format),
                     ("variants", p.variants.length), ("bytes", p.codeSize)] }]
    { s with cache := s.cache.compiled ProgramError.isCancelled id outcome }

/-- The result of a job from what the program cache returned; none for a cancelled compile. -/
def jobResult (j : Job) (level : FeatureLevel) :
    Except (CallError ProgramError) (Program × Bool) → Option (Option Program × CompileResult)
  | .error .cancelled => none
  | .error (.failed e) =>
    if e.isCancelled then none
    else
      let diagnostics := match e with
        | .compile c => if c.diagnostics.isEmpty then [e.message] else c.diagnostics
        | _ => [e.message]
      some (none,
        { format := j.format, level, hashKey := j.build.hashKey, diagnostics,
          error := some (.program e) })
  | .ok (p, hit) =>
    some (some p,
      { success := true, cached := hit, format := j.format, level, hashKey := j.build.hashKey,
        diagnostics := p.diagnostics })

/-- A job has its result, or was cancelled. -/
def completeJob (s : Session) (j : Job)
    (returned : Except (CallError ProgramError) (Program × Bool)) : Session :=
  match jobResult j (s.resource j.resource).level returned with
  | none =>
    let generation := match j.kind with
      | .runtime generation _ => generation
      | .cook _ => 0
    (s.count fun m => { m with compiles := m.compiles ++ [(j.format, "cancelled")] }).modifyResource
      j.resource fun r => r.abandon generation
  | some (program, r) =>
    let s := if r.cached then s
      else s.count fun m => { m with durations := m.durations ++ [j.format] }
    let s := s.countCompile r
    match j.kind with
    | .runtime generation plan => s.completeUpdate j generation plan program r
    | .cook platform => s.completeCook j platform program r

/-- A task is over and its worker is free. -/
def retire (s : Session) (p id : Nat) : Session :=
  ((s.modifyTask id fun t => { t with done := true }).modifyPool p fun x =>
    { x with current := none })

/-- The next thing that the worker of a pool can do, if any. -/
def advance (s : Session) (p : Nat) : Option Session :=
  match s.pools[p]? with
  | none => none
  | some pool =>
    match pool.current with
    | none =>
      match pool.queue with
      | [] => none
      | id :: rest =>
        let s := s.modifyPool p fun x => { x with queue := rest }
        match s.tasks[id]? with
        | none => some s
        | some t =>
          if t.cancelled then some (s.retire p id)
          else
            some ({ s with cache := s.cache.begin id (jobKey t.job) }.modifyPool p fun x =>
              { x with current := some id })
    | some id =>
      match s.tasks[id]? with
      | none => none
      | some t =>
        match s.cache.result? id with
        | some returned =>
          let s := { s with cache := s.cache.forget id }
          some ((s.retire p id).completeJob t.job returned)
        | none =>
          if !s.cache.isLeading id then none
          else if s.waitsForRelease t then
            if t.entered then none
            else
              some ((s.modifyTask id fun t => { t with entered := true }).countCalls
                t.job.format 1)
          else some (s.runCompile id t)

/-- Lets the workers go on, at most `fuel` times. -/
def drainAux : (fuel : Nat) → Session → Session
  | 0, s => s
  | fuel + 1, s =>
    match (List.range s.pools.size).findSome? s.advance with
    | none => s
    | some s => drainAux fuel s

/-- Lets the workers go on until none of them can.  A task is taken, entered, compiled and completed
    at most once, and compiled anew at most once for every other task that gives up. -/
def drain (s : Session) : Session := drainAux (4 * (s.tasks.size + 1) * (s.tasks.size + 1)) s

/-- Asks a task to stop. -/
def cancelTask (s : Session) (id : Nat) : Session :=
  { s.modifyTask id fun t => { t with cancelled := true } with cache := s.cache.cancel id }

/-- Takes the task of a resource away and cancels it. -/
def takeTask (s : Session) (r : Nat) : Session :=
  let (task, resource) := (s.resource r).takeTask
  match task with
  | none => s
  | some t => (s.modifyResource r fun _ => resource).cancelTask t

/-- Takes the tasks of resources away, cancels them and waits until they have stopped. -/
def takeTasks (s : Session) (rs : List Nat) : Session := (rs.foldl takeTask s).drain

/-- Submits a job to the graph's pool.  On a closed pool it runs at once. -/
def submit (s : Session) (j : Job) : Session :=
  let p := (s.graph j.graph).options.pool
  let id := s.tasks.size
  let s := { s with tasks := s.tasks.push { job := j } }.modifyPool p fun x =>
    { x with queue := x.queue ++ [id] }
  if !(s.pools.getD p default).isOpen then s.drain
  else
    let generation := match j.kind with
      | .runtime generation _ => generation
      | .cook _ => 0
    let (held, resource) := (s.resource j.resource).setTask id generation
    let s := s.modifyResource j.resource fun _ => resource
    if held then s else s.cancelTask id

/-- Closes a pool. -/
def closePool (s : Session) (p : Nat) : Session :=
  s.drain.modifyPool p fun x => { x with isOpen := false }

/-- Lets scripted compiles wait from now on. -/
def hold (s : Session) : Session := { s with held := true }

/-- Lets the waiting compiles go on. -/
def release (s : Session) : Session := { s with held := false }.drain

end KernelGraph.Session
