/-
  Updates: rebuilding and compiling every kernel of a graph.

  An update cancels the compiles of the one before.  A kernel whose build has the hash key of its
  resource's program is not compiled again.  The proxy is published when the last compile is over;
  a synchronous update waits for that.  The fallback kernel is always waited for.
-/
import KernelGraph.Session.Workers

namespace KernelGraph.Session

/-- What an update has prepared so far. -/
structure Prepared where
  session : Session
  builds : List (Nat × KernelBuild) := []
  /-- Kernels to compile: index, name, whether it is the fallback, resource, build. -/
  jobs : List (Nat × String × Bool × Nat × KernelBuild) := []
  failed : List Nat := []

/-- The resources of a graph. -/
def graphResources (s : Session) (g : Nat) : List Nat :=
  (s.graph g).sets.flatMap fun set => (set.map ResourceSet.toList).getD []

/-- Matches the resource sets to the kernels: those of removed kernels are invalidated, and a set of
    another format is replaced. -/
def resizeSets (s : Session) (g : Nat) : Session :=
  let x := s.graph g
  let n := x.definition.kernels.length
  let removed := (x.sets.drop n).flatMap fun set => (set.map ResourceSet.toList).getD []
  let s := removed.foldl (fun s r => s.modifyResource r Resource.invalidate) s
  let kept := x.sets.take n ++ List.replicate (n - x.sets.length) none
  let format := x.options.format
  s.modifyGraph g fun x =>
    { x with
      sets := kept.map fun set =>
        match set with
        | some set =>
          if set.hasFormat s.resources format then some set
          else some (.empty format x.options.editor)
        | none => some (.empty format x.options.editor) }

/-- The resource of a kernel for the graph's level, made if needed. -/
def kernelResource (s : Session) (g k : Nat) : Nat × Session :=
  let x := s.graph g
  let set := ((x.sets[k]?).join).getD (.empty x.options.format x.options.editor)
  let (r, task, set, resources) := set.resource s.resources x.options.level
  let s := { s with resources }.modifyGraph g fun x => { x with sets := x.sets.set k (some set) }
  (r, match task with
    | some t => s.cancelTask t
    | none => s)

/-- Builds a kernel and decides what becomes of it: it failed, its program is reused, or it is to be
    compiled.  An interface that asks for an undeclared parameter ends the update. -/
def prepareKernel (g : Nat) (d : Dialect) (p : Prepared) (k : Nat) (kernel : Kernel)
    (source : KernelSource) : Except GraphError Prepared × Session :=
  let o := (p.session.graph g).options
  let (r, s) := p.session.kernelResource g k
  let (built, s) := s.buildKernel g k d o.format
  let generation := (s.graph g).generation
  match built with
  | .error (.undeclared e) => (.error (.undeclared e), s)
  | .error e =>
    let result : CompileResult :=
      { format := o.format, level := o.level, error := some (.build e), diagnostics := [e.message] }
    let s := s.modifyResource r fun x => x.fail none generation result
    (.ok { p with session := s, failed := p.failed ++ [k] }, s)
  | .ok b =>
    let p := { p with builds := p.builds ++ [(k, b)] }
    if (s.resource r).isReusable b.hashKey then
      let s := s.note [{ level := .debug
                         message := "computegraph: kernel unchanged, reusing program"
                         attributes :=
                          [("graph", (s.graph g).definition.name), ("kernel", kernel.name),
                           ("hash_key", b.hashKey)] }]
      (.ok { p with session := s }, s)
    else
      let s := s.modifyResource r fun x => x.begin b generation
      (.ok { p with session := s, jobs := p.jobs ++ [(k, kernel.name, source.isDefault, r, b)] }, s)

/-- Prepares kernels one after the other. -/
def prepareKernels (g : Nat) (d : Dialect) :
    List (Nat × Kernel × KernelSource) → Prepared → Except GraphError Prepared × Session
  | [], p => (.ok p, p.session)
  | (k, kernel, source) :: rest, p =>
    match prepareKernel g d p k kernel source with
    | (.error e, s) => (.error e, s)
    | (.ok p, _) => prepareKernels g d rest p

/-- Replaces the set of outstanding kernels. -/
def setPending (s : Session) (g : Nat) (pending : List Nat) : Session :=
  let old := (s.graph g).pending.length
  (s.modifyGraph g fun x => { x with pending }).count fun m =>
    { m with pending := m.pending - old + pending.length }

/-- Reports a kernel whose build failed.  Nothing happens if there is no resource, which can be so
    only after somebody else has closed the graph meanwhile: the program indexes the resources
    without the lock, and stops there.  Here the update goes on, so that more can happen than
    does. -/
def reportFailure (s : Session) (g k : Nat) : Session :=
  let x := s.graph g
  match ((x.sets[k]?).join).bind fun set => set.lookup? s.resources x.options.level with
  | none => s
  | some r =>
    let result := (s.resource r).result
    let kernel := x.definition.kernel? k
    let isDefault := ((kernel.bind Kernel.source).map KernelSource.isDefault).getD false
    ((s.countCompile result).compileFailed g k ((kernel.map Kernel.name).getD "") isDefault
      result).hook g k result

/-- Submits the jobs of an update; one that has to be waited for is waited for. -/
def submitJobs (s : Session) (sync : Bool) (jobs : List Job) : Session :=
  jobs.foldl (fun s j =>
    let s := s.submit j
    if j.isDefault && !sync then s.drain else s) s

/-- The part of an update that follows when nothing of the generation before is left.  It holds the
    lock of the graph while kernels are prepared, and keeps it if an interface stops the update. -/
def startGeneration (s : Session) (g : Nat) (d : Dialect) (sync : Bool) :
    Except GraphError Unit × Session :=
  let s := s.resizeSets g
  match prepareKernels g d (s.graph g).definition.compilable { session := s } with
  | (.error e, s) => (.error e, s.lock g)
  | (.ok p, _) =>
    let x := p.session.graph g
    let plan := x.definition.plan x.generation x.options.level p.builds
    let planNotes := p.failed.flatMap fun (k : Nat) => x.definition.layoutNotes k
    let s := (p.session.note planNotes).setPending g (p.jobs.map fun j => j.1)
    let s := p.failed.foldl (fun s k => s.reportFailure g k) s
    let s := s.submitJobs sync (p.jobs.map fun (kernel, name, isDefault, resource, build) =>
      { graph := g, kernel, name, isDefault, resource, build, format := x.options.format,
        kind := .runtime x.generation plan })
    let s := if sync then s.drain else s
    let y := s.graph g
    (.ok (), if y.pending.isEmpty && y.generation = x.generation then s.publish g plan else s)

/-- Rebuilds and compiles every kernel of a graph. -/
def update (s : Session) (g : Nat) (sync : Bool) : Except GraphError Unit × Session :=
  let x := s.graph g
  match x.definition.validate with
  | .error e =>
    (.error (.invalid e),
      s.note [{ level := .warn
                message := "computegraph: graph failed validation, resources not updated"
                attributes := [("graph", x.definition.name), ("error", e.message)] }])
  | .ok () =>
    match s.compiler? x.options.format with
    | none => (.error (.runtimeFormat x.definition.name ⟨x.options.format⟩), s)
    | some c =>
      if x.closed then (.error .closed, s)
      else
        let s := s.modifyGraph g fun x => { x with generation := x.generation + 1 }
        let s := s.takeTasks (s.graphResources g)
        s.startGeneration g (x.options.dialect.getD c.dialect) sync

/-- Compiles a graph after it was loaded, unless that is deferred. -/
def postLoad (s : Session) (g : Nat) : Except GraphError Unit × Session :=
  if (s.graph g).options.deferred then (.ok (), s) else s.update g true

/-- The run-time resource of a kernel. -/
def resource? (s : Session) (g : Nat) (k : Int) : Option Nat :=
  ((elementAt? (s.graph g).sets k).join).bind fun set =>
    set.lookup? s.resources (s.graph g).options.level

end KernelGraph.Session
