/-
  Sessions: graphs at work.

  A session holds graphs and what they share: the file registries, the program cache, the compile
  pools, the resources and the published proxies.  Every operation takes a session to the next one;
  what it has to tell (log records, calls of the kernel-compiled hook and of the fatal handler,
  counters) is collected in the session.

  Compiles run on pools with one worker each, in order of submission.  The compilers given by a
  script can be held: their compiles then wait until they are released or cancelled.
-/
import KernelGraph.Builtin
import KernelGraph.Compile.ProgramCache
import KernelGraph.Compile.ShaderModules
import KernelGraph.Graph.Validation
import KernelGraph.Resource

namespace KernelGraph

/-- Where released proxies go. -/
inductive RenderQueue
  /-- Commands wait until the queue is run; all graphs that use it share it. -/
  | manual
  /-- Commands run at once. -/
  | immediate
  deriving DecidableEq, Repr, Inhabited

/-- How a graph is compiled. -/
structure GraphOptions where
  /-- The output format of run-time resources. -/
  format : String := binaryFormat
  level : FeatureLevel := .sm5
  /-- Keep one resource per feature level. -/
  editor : Bool := false
  /-- Do not compile when the graph is loaded. -/
  deferred : Bool := false
  /-- The dialect of run-time builds; none for the compiler's. -/
  dialect : Option Dialect := none
  /-- The registry that includes are resolved in. -/
  registry : Nat := Builtin.registryId
  queue : RenderQueue := .manual
  /-- The pool that compiles run on. -/
  pool : Nat := 0
  /-- The pool is closed with the graph. -/
  ownsPool : Bool := false
  deriving Inhabited

/-- A snapshot of a compiled graph for the execution engine. -/
structure RenderProxy where
  graph : Nat
  graphName : String
  generation : Nat
  invocations : List Invocation
  released : Bool := false
  deriving Inhabited

/-- A build target and its output formats. -/
structure TargetPlatform where
  name : String
  formats : List String
  deriving DecidableEq, Inhabited

/-- The build-time cache of a platform: one resource per kernel and format. -/
structure CookPlatform where
  platform : TargetPlatform
  /-- Kernels with their resources. -/
  entries : List (Nat × Nat) := []
  /-- It has been told that every entry is finished, or nobody is to be told. -/
  announced : Bool := false
  deriving Inhabited

/-- A graph and its state. -/
structure GraphState where
  definition : Graph
  options : GraphOptions := {}
  closed : Bool := false
  sets : List (Option ResourceSet) := []
  /-- Kernels whose compile of the current generation is outstanding. -/
  pending : List Nat := []
  generation : Nat := 0
  /-- The generation of the published proxy. -/
  published : Nat := 0
  proxy : Option Nat := none
  /-- The platform caches by name. -/
  cook : List (String × Nat) := []
  /-- An update was stopped by an interface and never gave the graph's lock back.  Who needs the
      lock waits for ever: updates, platforms and closing. -/
  locked : Bool := false
  deriving Inhabited

/-- What a compile is for. -/
inductive JobKind
  /-- An update of the graph, with the generation and the plan to publish. -/
  | runtime (generation : Nat) (plan : Plan)
  /-- A platform cache. -/
  | cook (platform : Nat)

/-- A kernel to compile. -/
structure Job where
  graph : Nat
  kernel : Nat
  name : String
  isDefault : Bool
  resource : Nat
  build : KernelBuild
  format : String
  kind : JobKind

/-- A submitted job. -/
structure CompileTask where
  job : Job
  cancelled : Bool := false
  done : Bool := false
  /-- Its compile has reached a held compiler. -/
  entered : Bool := false

/-- A worker with its queue. -/
structure CompilePool where
  queue : List Nat := []
  current : Option Nat := none
  isOpen : Bool := true
  deriving Inhabited

/-- Counters. -/
structure Metrics where
  /-- Compiles by format and result. -/
  compiles : List (String × String) := []
  /-- Formats of compiles whose duration was observed. -/
  durations : List String := []
  mismatches : Nat := 0
  proxies : Nat := 0
  pending : Int := 0

namespace Metrics

/-- How often each text occurs, in order of first occurrence. -/
def tally (xs : List String) : List (String × Int) :=
  (Graph.distinct xs).map fun x => (x, (xs.filter (· = x)).length)

/-- The counters that are not zero, by name and labels. -/
def series (m : Metrics) : List (String × Int) :=
  (tally (m.compiles.map fun (format, outcome) =>
      "kernel_compiles_total/" ++ format ++ "/" ++ outcome) ++
    tally (m.durations.map fun format => "kernel_compile_duration_seconds/" ++ format) ++
    [("binding_mismatches_total", (m.mismatches : Int)), ("proxy_builds_total", (m.proxies : Int)),
     ("pending_compiles", m.pending)]).filter fun (_, n) => n ≠ 0

end Metrics

/-- A call of the kernel-compiled hook. -/
structure HookCall where
  graph : Nat
  kernel : Nat
  result : CompileResult

/-- Graphs and what they share. -/
structure Session where
  files : FileStore := Builtin.store
  scripts : List Script := []
  /-- How often each script was called. -/
  calls : List (String × Nat) := []
  /-- Scripted compiles wait. -/
  held : Bool := false
  cache : ProgramCache Program ProgramError := ProgramCache.empty 0
  resources : ResourceStore := #[]
  tasks : Array CompileTask := #[]
  pools : Array CompilePool := #[{}]
  proxies : Array RenderProxy := #[]
  /-- Proxies that wait on the manual render queue, which the graphs share, to be released. -/
  commands : List Nat := []
  platforms : Array CookPlatform := #[]
  graphs : Array GraphState := #[]
  metrics : Metrics := {}
  log : List Log.Record := []
  hooks : List HookCall := []
  fatals : List (String × String) := []

namespace Session

/-- The graph with a number. -/
def graph (s : Session) (g : Nat) : GraphState := s.graphs.getD g default

/-- Changes one graph. -/
def modifyGraph (s : Session) (g : Nat) (f : GraphState → GraphState) : Session :=
  { s with graphs := s.graphs.modify g f }

/-- Edits the definition of one graph. -/
def edit (s : Session) (g : Nat) (f : Graph → Graph) : Session :=
  s.modifyGraph g fun x => { x with definition := f x.definition }

/-- The lock of a graph is never given back. -/
def lock (s : Session) (g : Nat) : Session := s.modifyGraph g fun x => { x with locked := true }

/-- The resource with a number. -/
def resource (s : Session) (r : Nat) : Resource := s.resources.getD r default

/-- Changes one resource. -/
def modifyResource (s : Session) (r : Nat) (f : Resource → Resource) : Session :=
  { s with resources := s.resources.modify r f }

/-- Changes one task. -/
def modifyTask (s : Session) (t : Nat) (f : CompileTask → CompileTask) : Session :=
  { s with tasks := s.tasks.modify t f }

/-- Changes one pool. -/
def modifyPool (s : Session) (p : Nat) (f : CompilePool → CompilePool) : Session :=
  { s with pools := s.pools.modify p f }

/-- Adds log records. -/
def note (s : Session) (records : List Log.Record) : Session := { s with log := s.log ++ records }

/-- Changes the counters. -/
def count (s : Session) (f : Metrics → Metrics) : Session := { s with metrics := f s.metrics }

/-- The library's own compiler of a format.  That of the binary format has its code generator from
    elsewhere and is registered as a script (`Script.binary`). -/
def standardCompiler? (format : String) : Option Compiler :=
  if format = "wgsl" then some .wgsl
  else if format = "hlsl" then some .hlsl
  else none

/-- The script of a format; of two scripts the later counts. -/
def script? (s : Session) (format : String) : Option Script :=
  s.scripts.reverse.find? fun x => x.format = format

/-- The compiler of a format. -/
def compiler? (s : Session) (format : String) : Option Compiler :=
  match s.script? format with
  | some x => some x.compiler
  | none => standardCompiler? format

/-- Adds a graph; its groups, slots, kernels and edges come with the definition. -/
def addGraph (s : Session) (definition : Graph) (options : GraphOptions) : Session :=
  { s with graphs := s.graphs.push { definition, options } }

/-- Takes the records, hook calls and fatal calls that have been collected. -/
def takeEvents (s : Session) :
    (List Log.Record × List HookCall × List (String × String)) × Session :=
  ((s.log, s.hooks, s.fatals), { s with log := [], hooks := [], fatals := [] })

/-- Builds a kernel of a graph in the dialect and for the format given. -/
def buildKernel (s : Session) (g : Nat) (k : Int) (d : Dialect) (format : String) :
    Except GraphError KernelBuild × Session :=
  let x := s.graph g
  let out := x.definition.build s.files x.options.registry k d format
  (out.result,
    { (s.note out.notes).count fun m => { m with mismatches := m.mismatches + out.mismatches } with
      files := out.files })

/-- The dialect that a graph's builds are assembled in. -/
def dialect (s : Session) (g : Nat) : Dialect :=
  let o := (s.graph g).options
  match o.dialect, s.compiler? o.format with
  | some d, _ => d
  | none, some c => c.dialect
  | none, none => .wgsl

/-- Builds a kernel for the graph's own format. -/
def buildRuntime (s : Session) (g : Nat) (k : Int) : Except GraphError KernelBuild × Session :=
  s.buildKernel g k (s.dialect g) (s.graph g).options.format

end Session

end KernelGraph
