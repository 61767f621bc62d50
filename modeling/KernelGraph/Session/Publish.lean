/-
  Publishing render proxies.

  A proxy is published when no compile of its generation is outstanding.  It takes the programs that
  the resources hold at that moment.  The proxy it replaces is handed to the render queue, which
  releases it.
-/
import KernelGraph.Session.Basic

namespace KernelGraph.Session

/-- Hands a proxy that is no longer published to the graph's render queue. -/
def releaseProxy (s : Session) (g : Nat) (proxy : Option Nat) : Session :=
  match proxy with
  | none => s
  | some p =>
    match (s.graph g).options.queue with
    | .manual => { s with commands := s.commands ++ [p] }
    | .immediate => { s with proxies := s.proxies.modify p fun x => { x with released := true } }

/-- Runs the commands that wait on the manual render queue and tells how many there were. -/
def runQueue (s : Session) : Nat × Session :=
  (s.commands.length,
    { s with
      commands := []
      proxies := s.commands.foldl (fun ps p => ps.modify p fun x => { x with released := true })
        s.proxies })

/-- The program that a kernel's resource holds for a level. -/
def currentProgram (s : Session) (g k : Nat) (level : FeatureLevel) : Option Program :=
  match ((s.graph g).sets[k]?).join with
  | none => none
  | some set => (set.lookup? s.resources level).bind fun r => (s.resource r).program

/-- Publishes the proxy of a plan, unless one of its generation or a later one is published. -/
def publish (s : Session) (g : Nat) (plan : Plan) : Session :=
  let x := s.graph g
  if plan.generation ≤ x.published then s
  else
    let proxy : RenderProxy :=
      { graph := g
        graphName := x.definition.name
        generation := plan.generation
        invocations := plan.invocations.map fun v =>
          { v with program := s.currentProgram g v.kernel plan.level } }
    let s := { s with proxies := s.proxies.push proxy }
    let s := s.modifyGraph g fun x =>
      { x with published := plan.generation, proxy := some (s.proxies.size - 1) }
    let s := s.releaseProxy g x.proxy
    (s.count fun m => { m with proxies := m.proxies + 1 }).note
      [{ level := .info
         message := "computegraph: render proxy published"
         attributes :=
          [("graph", x.definition.name), ("generation", plan.generation),
           ("invocations", proxy.invocations.length)] }]

/-- Counts the outcome of a compile. -/
def countCompile (s : Session) (r : CompileResult) : Session :=
  let outcome := if !r.success then "failure" else if r.cached then "cached" else "success"
  s.count fun m => { m with compiles := m.compiles ++ [(r.format, outcome)] }

/-- Calls the fatal handler. -/
def fatal (s : Session) (kernel : String) (r : CompileResult) : Session :=
  { s with fatals := s.fatals ++ [(kernel, (r.error.map ResultError.message).getD "")] }

/-- Reports that a kernel failed to compile in an update. -/
def compileFailed (s : Session) (g k : Nat) (name : String) (isDefault : Bool)
    (r : CompileResult) : Session :=
  if isDefault then s.fatal name r
  else
    s.note [.of .warn "computegraph: kernel failed to compile, keeping previous program"
      ((s.graph g).definition.logAttributes k)
      [("format", r.format), ("feature_level", r.level.name),
       ("error", (r.error.map ResultError.message).getD ""),
       ("diagnostics", r.diagnostics.length)]]

/-- Calls the kernel-compiled hook. -/
def hook (s : Session) (g k : Nat) (r : CompileResult) : Session :=
  { s with hooks := s.hooks ++ [⟨g, k, r⟩] }

/-- The compile of an update's job comes back.  A superseded one has no effect. -/
def completeUpdate (s : Session) (j : Job) (generation : Nat) (plan : Plan)
    (program : Option Program) (r : CompileResult) : Session :=
  let (accepted, resource) := (s.resource j.resource).finish generation program r
  if !accepted then s
  else
    let s := s.modifyResource j.resource fun _ => resource
    let current := generation = (s.graph j.graph).generation
    let s := if !current then s
      else
        let waiting := (s.graph j.graph).pending
        let s := s.modifyGraph j.graph fun x =>
          { x with pending := x.pending.filter (· ≠ j.kernel) }
        let s := s.count fun m =>
          { m with pending := m.pending - (waiting.filter (· = j.kernel)).length }
        if (s.graph j.graph).pending.isEmpty then s.publish j.graph plan else s
    let variants : Nat := (program.map fun p => p.variants.length).getD 0
    let s := if !r.success then s.compileFailed j.graph j.kernel j.name j.isDefault r
      else
        s.note [.of .debug "computegraph: kernel compiled"
          ((s.graph j.graph).definition.logAttributes j.kernel)
          [("format", r.format), ("cached", r.cached),
           ("variants", variants)]]
    if current then s.hook j.graph j.kernel r else s

/-- True when every entry of a platform cache is finished. -/
def isReady (s : Session) (platform : Nat) : Bool :=
  (s.platforms.getD platform default).entries.all fun (_, r) => (s.resource r).state.isFinished

/-- Tells once that a platform cache is ready. -/
def announceReady (s : Session) (g platform : Nat) : Session :=
  let p := s.platforms.getD platform default
  if p.announced || !s.isReady platform then s
  else
    { s with platforms := s.platforms.modify platform fun x => { x with announced := true } }.note
      [{ level := .info
         message := "computegraph: platform cache ready"
         attributes :=
          [("graph", (s.graph g).definition.name), ("platform", p.platform.name),
           ("entries", p.entries.length)] }]

/-- Reports that a kernel failed to compile for a platform. -/
def cookFailed (s : Session) (g k : Nat) (platform : String) (isDefault : Bool)
    (r : CompileResult) : Session :=
  let definition := (s.graph g).definition
  if isDefault then s.fatal (((definition.kernel? k).map Kernel.name).getD "") r
  else
    s.note [.of .warn "computegraph: kernel failed to cook" (definition.logAttributes k)
      [("platform", platform), ("format", r.format),
       ("error", (r.error.map ResultError.message).getD "")]]

/-- The compile of a platform's job comes back. -/
def completeCook (s : Session) (j : Job) (platform : Nat) (program : Option Program)
    (r : CompileResult) : Session :=
  let (accepted, resource) := (s.resource j.resource).finish 0 program r
  if !accepted then s
  else
    let s := s.modifyResource j.resource fun _ => resource
    let name := (s.platforms.getD platform default).platform.name
    let s := if r.success then s else s.cookFailed j.graph j.kernel name j.isDefault r
    s.announceReady j.graph platform

end KernelGraph.Session
