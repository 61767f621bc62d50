/-
  Errors of graph operations, and validation.

  In a valid graph every edge points inside the graph, and every kernel with a source has exactly
  one edge from an execution interface.  Edges from empty slots count for nothing.
-/
import KernelGraph.Compile.Compiler
import KernelGraph.Graph.Basic
import KernelGraph.Include.Expansion
import KernelGraph.Scope

namespace KernelGraph

/-! ## Errors -/

/-- Why a graph is not valid. -/
inductive InvalidGraph
  /-- An edge names a kernel that does not exist. -/
  | kernelIndex (edge : Nat) (index : Int)
  /-- An edge names a slot that does not exist. -/
  | interfaceIndex (edge : Nat) (index : Int)
  /-- A kernel with a source does not have exactly one edge from an execution interface. -/
  | executionEdges (kernel : String) (count : Nat)
  deriving DecidableEq

/-- The message of the error. -/
def InvalidGraph.message (e : InvalidGraph) : String :=
  "computegraph: invalid graph: " ++
    match e with
    | kernelIndex edge index =>
      "edge " ++ toString edge ++ ": kernel index " ++ toString index ++ " out of range"
    | interfaceIndex edge index =>
      "edge " ++ toString edge ++ ": data interface index " ++ toString index ++ " out of range"
    | executionEdges kernel count =>
      "kernel " ++ Text.quoted kernel ++ " has " ++ toString count ++ " execution edges, want 1"

/-- Why a graph operation fails. -/
inductive GraphError
  | invalid (e : InvalidGraph)
  | kernelIndex (k : Int)
  | noKernelSource (kernel : String)
  /-- The entry of the kernel is empty. -/
  | emptyKernel
  | undeclared (e : UndeclaredParameter)
  /-- The kernel wrapper cannot be hashed. -/
  | wrapper (friendlyName : String) (e : Include.Error)
  | bindingIndex (i : Int)
  | bindingObject (binding typeName : String)
  | providerCount (found wanted : Nat)
  | closed
  /-- The graph's output format has no compiler. -/
  | runtimeFormat (graph : String) (e : UnknownFormat)
  | cookVersion (version : Int)
  | cookDependency (path format : String) (e : Include.Error)
  deriving DecidableEq

namespace GraphError

/-- The message of the error. -/
def message : GraphError → String
  | invalid e => e.message
  | kernelIndex k => "computegraph: kernel index out of range: " ++ toString k
  | noKernelSource kernel => "computegraph: kernel has no source: " ++ kernel
  | emptyKernel => ""
  | undeclared e => e.message
  | wrapper friendlyName e => "computegraph: " ++ friendlyName ++ ": " ++ e.message
  | bindingIndex i => "computegraph: binding index out of range: " ++ toString i
  | bindingObject binding typeName =>
    "computegraph: binding object rejected: " ++ binding ++ " does not accept " ++ typeName
  | providerCount found wanted =>
    "computegraph: " ++ toString found ++ " providers for " ++ toString wanted ++ " data interfaces"
  | closed => "computegraph: graph closed"
  | runtimeFormat graph e => "computegraph: " ++ graph ++ ": " ++ e.message
  | cookVersion version =>
    "computegraph: unsupported cook dependency args version: " ++ toString version
  | cookDependency path format e =>
    "computegraph: cook dependency " ++ path ++ " (" ++ format ++ "): " ++ e.message

end GraphError

end KernelGraph

namespace KernelGraph.Graph

/-! ## Validation -/

/-- True for an edge from a slot that holds an execution interface. -/
def isExecutionEdge (g : Graph) (e : Edge) : Bool :=
  match g.interface? e.interface with
  | some d => d.interface.isExecution
  | none => false

/-- What is wrong with the indices of an edge. -/
def edgeFault? (g : Graph) (e : Edge) (position : Nat) : Option InvalidGraph :=
  if e.kernel < 0 || g.kernels.length ≤ e.kernel then some (.kernelIndex position e.kernel)
  else if e.interface < 0 || g.interfaces.length ≤ e.interface then
    some (.interfaceIndex position e.interface)
  else none

/-- The number of execution edges of a kernel. -/
def executionEdges (g : Graph) (k : Nat) : Nat :=
  (g.edges.filter fun e => e.kernel = (k : Int) && g.isExecutionEdge e).length

/-- What is wrong with the execution edges of the kernel `k`. -/
def kernelFault? (g : Graph) (k : Nat) : Option InvalidGraph :=
  match g.kernel? k with
  | some { name, source := some _ } =>
    let n := g.executionEdges k
    if n = 1 then none else some (.executionEdges name n)
  | _ => none

/-- The first violation: of the edges in order, then of the kernels in order. -/
def firstFault? (g : Graph) : Option InvalidGraph :=
  (g.edges.zipIdx.findSome? fun (e, i) => g.edgeFault? e i).or
    ((List.range g.kernels.length).findSome? g.kernelFault?)

/-- Accepts a graph without violation. -/
def validate (g : Graph) : Except InvalidGraph Unit :=
  match g.firstFault? with
  | some e => .error e
  | none => .ok ()

end KernelGraph.Graph
