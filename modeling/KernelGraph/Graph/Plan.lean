/-
  Invocations: the execution-facing record of every kernel.

  A plan is the part of a render proxy that does not depend on compiled programs.  It is made when
  an update starts, so that later edits of the graph do not leak into it.
-/
import KernelGraph.Compile.Program
import KernelGraph.Graph.Build

namespace KernelGraph

/-- A slot bound to a kernel; primary ones share the kernel's binding group. -/
structure BoundSlot where
  index : Int
  primary : Bool
  deriving DecidableEq, Repr, Inhabited

/-- What is needed to run one kernel. -/
structure Invocation where
  kernel : Nat
  name : String
  entryPoint : String
  groupSize : GroupSize
  /-- The compiled program; none before the kernel first compiles. -/
  program : Option Program := none
  layout : Layout
  permutations : Option PermutationVector
  /-- The slot that drives the dispatch, -1 if there is none. -/
  executionSlot : Int := -1
  bindingGroup : Int := 0
  slots : List BoundSlot := []
  /-- One dispatch covers the data of every primary slot. -/
  unifiedDispatch : Bool := true
  readback : List Int := []
  preSubmit : List Int := []
  postSubmit : List Int := []
  deriving Inhabited

/-- The primary slots of an invocation. -/
def Invocation.primary (v : Invocation) : List Int :=
  (v.slots.filter BoundSlot.primary).map BoundSlot.index

/-- The invocations of an update. -/
structure Plan where
  generation : Nat
  level : FeatureLevel
  invocations : List Invocation
  deriving Inhabited

namespace Graph

/-- The slot of the first edge of a kernel that comes from an execution interface. -/
def executionSlot? (g : Graph) (k : Int) : Option Int :=
  ((g.kernelEdges k).find? fun (e, _) => isExecutionSlot g e.interface).map fun (e, _) =>
    e.interface
where
  /-- True for a slot that holds an execution interface. -/
  isExecutionSlot (g : Graph) (i : Int) : Bool :=
    match g.interface? i with
    | some d => d.interface.isExecution
    | none => false

/-- The slots of a kernel's output edges whose interface has a property, each once. -/
def outputSlots (g : Graph) (k : Int) (wanted : Interface → Bool) : List Int :=
  distinct ((g.kernelEdges k).filterMap fun (e, _) =>
    match g.interface? e.interface with
    | some d => if !e.input && wanted d.interface then some e.interface else none
    | none => none)

/-- The invocation of a kernel without its program. -/
def invocation (g : Graph) (k : Nat) (kernel : Kernel) (s : KernelSource)
    (build : Option KernelBuild) : Invocation :=
  let execution := g.executionSlot? k
  let group := (execution.bind g.group?).getD 0
  let isPrimary (i : Int) : Bool := execution.isSome && (g.group? i).getD 0 = group
  { kernel := k
    name := kernel.name
    entryPoint := s.entryPoint
    groupSize := s.groupSize
    layout := match build with
      | some b => b.layout
      | none => g.layout k
    permutations := match build with
      | some b => some b.permutations
      | none => g.permutationVector? k
    executionSlot := execution.getD (-1)
    bindingGroup := group
    slots := (g.boundInterfaces k).map fun (i, _) => ⟨i, isPrimary i⟩
    unifiedDispatch := (g.boundInterfaces k).all fun (i, d) =>
      !isPrimary i || d.interface.unified
    readback := g.outputSlots k Interface.readback
    preSubmit := g.outputSlots k Interface.preSubmit
    postSubmit := g.outputSlots k Interface.postSubmit }

/-- The kernels that have a source, with their indices. -/
def compilable (g : Graph) : List (Nat × Kernel × KernelSource) :=
  g.kernels.zipIdx.filterMap fun (kernel, k) =>
    kernel.bind fun x => x.source.map fun s => (k, x, s)

/-- The plan of an update; builds supply layouts and permutations where there are any. -/
def plan (g : Graph) (generation : Nat) (level : FeatureLevel)
    (builds : List (Nat × KernelBuild)) : Plan :=
  { generation
    level
    invocations := g.compilable.map fun (k, kernel, s) =>
      g.invocation k kernel s (builds.lookup k) }

end Graph

end KernelGraph
