/-
  Graphs of kernels and data interfaces.

  A graph is a definition: kernels, slots of data interfaces, edges that connect a function of a
  slot with a function of a kernel, and named groups that external objects are bound to.  Indices in
  edges are whole numbers and may point anywhere; what is out of range is found by validation or
  skipped when a kernel is built.
-/
import KernelGraph.Compile.Request
import KernelGraph.Interface.Builtin
import KernelGraph.Log
import KernelGraph.Source

namespace KernelGraph

/-- The element of a list at a whole number, if there is one. -/
def elementAt? {α : Type} (xs : List α) (i : Int) : Option α :=
  if i < 0 then none else xs[i.toNat]?

/-- The code and the functions of a kernel. -/
structure KernelSource where
  entryPoint : String := ""
  groupSize : GroupSize := {}
  body : String := ""
  /-- Functions that the kernel reads through. -/
  inputs : List Function := []
  /-- Functions that the kernel writes through. -/
  outputs : List Function := []
  definitions : Definitions := {}
  permutations : List PermutationOption := []
  /-- The pool that `sources` and dependencies are numbers of. -/
  pool : SourcePool := #[]
  /-- Sources that are included ahead of everything else. -/
  sources : List (Option Nat) := []
  /-- The fallback kernel is always compiled before an update returns, and its failure is fatal. -/
  isDefault : Bool := false
  deriving Inhabited

/-- A compute program of a graph.  Without a source it is skipped. -/
structure Kernel where
  name : String
  source : Option KernelSource := none
  deriving Inhabited

/-- A connection of function `interfaceFunction` of the slot `interface` with function
    `kernelFunction` of the kernel `kernel`. -/
structure Edge where
  interface : Int := 0
  interfaceFunction : Int := 0
  kernel : Int := 0
  kernelFunction : Int := 0
  /-- The kernel reads through the edge; otherwise it writes. -/
  input : Bool := false
  /-- Renames the generated function, if not empty. -/
  rename : String := ""
  /-- Qualifies the name of the generated function, if not empty. -/
  scope : String := ""
  deriving DecidableEq, Repr, Inhabited

/-- A named group of slots that an external object is bound to. -/
structure Binding where
  name : String
  /-- Which objects the group takes. -/
  accepts : BoundObject → Bool := fun _ => true
  deriving Inhabited

/-- A graph's definition.  A kernel or an interface that is `none` is an empty entry. -/
structure Graph where
  name : String
  kernels : List (Option Kernel) := []
  interfaces : List (Option DataInterface) := []
  edges : List Edge := []
  bindings : List Binding := []
  /-- The binding group of every slot. -/
  groups : List Int := []
  deriving Inhabited

namespace Graph

/-- The kernel at an index. -/
def kernel? (g : Graph) (k : Int) : Option Kernel := (elementAt? g.kernels k).join

/-- The source of the kernel at an index. -/
def source? (g : Graph) (k : Int) : Option KernelSource := (g.kernel? k).bind Kernel.source

/-- The interface at a slot. -/
def interface? (g : Graph) (i : Int) : Option DataInterface := (elementAt? g.interfaces i).join

/-- The binding group of a slot. -/
def group? (g : Graph) (i : Int) : Option Int := elementAt? g.groups i

/-- The edges of a kernel with their positions, in order. -/
def kernelEdges (g : Graph) (k : Int) : List (Edge × Nat) :=
  g.edges.zipIdx.filter fun (e, _) => e.kernel = k

/-- Keeps the first of equal elements. -/
def distinct {α : Type} [BEq α] (xs : List α) : List α :=
  xs.foldl (fun out x => if out.contains x then out else out ++ [x]) []

/-- The slots that the edges of a kernel name, each once, in order of the first edge. -/
def boundSlots (g : Graph) (k : Int) : List Int :=
  distinct ((g.kernelEdges k).map fun (e, _) => e.interface)

/-- The interfaces bound to a kernel with their slots; empty slots are left out. -/
def boundInterfaces (g : Graph) (k : Int) : List (Int × DataInterface) :=
  (g.boundSlots k).filterMap fun i => (g.interface? i).map fun d => (i, d)

/-- The name of a kernel in diagnostics: the graph and the entry point. -/
def friendlyName (g : Graph) (k : Int) : String :=
  match g.source? k with
  | some s => g.name ++ "/" ++ s.entryPoint
  | none => g.name

/-- The attributes of every log record about a kernel. -/
def logAttributes (g : Graph) (k : Int) : Log.Attributes :=
  [("graph", g.name),
   match g.kernel? k with
   | some kernel => ("kernel", kernel.name)
   | none => ("kernel_index", k)]

/-- Appends a binding group. -/
def addBinding (g : Graph) (b : Binding) : Graph := { g with bindings := g.bindings ++ [b] }

/-- Appends a slot in a binding group. -/
def addInterface (g : Graph) (d : Option DataInterface) (group : Int) : Graph :=
  { g with interfaces := g.interfaces ++ [d], groups := g.groups ++ [group] }

/-- Appends a kernel. -/
def addKernel (g : Graph) (k : Option Kernel) : Graph := { g with kernels := g.kernels ++ [k] }

/-- Appends an edge. -/
def connect (g : Graph) (e : Edge) : Graph := { g with edges := g.edges ++ [e] }

end Graph

end KernelGraph
