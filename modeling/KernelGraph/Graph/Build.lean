/-
  Kernel builds: the assembled source of a kernel and its hash key.

  The source consists of the struct declarations, the includes of additional sources, the code of
  every bound interface, one shim per edge and the kernel's body.  An edge from an empty slot, or
  with a function index out of range, has no shim.

  The hash key identifies the effective source: it lists what the interfaces append to it, the
  definitions and the permutations, and the digests of the assembled content and of the kernel
  wrapper.  An interface may append digests of built-in files, as these are when it is added.
-/
import KernelGraph.FileStore
import KernelGraph.Graph.Layout
import KernelGraph.Graph.Validation

namespace KernelGraph

/-- The assembled source of a kernel and all that is needed to compile it. -/
structure KernelBuild where
  kernel : Nat
  friendlyName : String
  entryPoint : String
  groupSize : GroupSize
  /-- The source that stands at the generated kernel path. -/
  source : String
  hashKey : String
  /-- Interface sources that were generated, by virtual path. -/
  generated : List (String × String)
  additional : List Source
  definitions : Definitions
  permutations : PermutationVector
  layout : Layout
  dialect : Dialect
  deriving Inhabited

namespace KernelBuild

/-- Generated and additional sources by virtual path; a generated one hides an additional one. -/
def includes (b : KernelBuild) : List (String × String) :=
  b.generated.foldl (fun files (path, text) => putAssoc path text files)
    (b.additional.foldl (fun files s => putAssoc s.path s.text files) [])

/-- The request for compiling the build. -/
def request (b : KernelBuild) (files : Include.Resolver) : Request where
  friendlyName := b.friendlyName
  entryPoint := b.entryPoint
  groupSize := b.groupSize
  source := b.source
  includes := b.includes
  files := files
  definitions := b.definitions.toList

end KernelBuild

namespace Graph

/-- The functions that an edge connects, if both exist. -/
def edgeFunctions? (d : DataInterface) (s : KernelSource) (e : Edge) :
    Option (Function × Function) :=
  let (impls, wraps) := if e.input then (d.interface.inputs, s.inputs)
    else (d.interface.outputs, s.outputs)
  match elementAt? impls e.interfaceFunction, elementAt? wraps e.kernelFunction with
  | some impl, some wrap => some (impl, wrap)
  | _, _ => none

/-- The shim of an edge. -/
def edgeShim? (g : Graph) (s : KernelSource) (e : Edge) : Option Shim :=
  match g.interface? e.interface with
  | none => none
  | some d =>
    (edgeFunctions? d s e).map fun (impl, wrap) =>
      { impl, wrap, uid := d.uid e.interface, rename := e.rename, scope := e.scope }

/-- The shims of a kernel, in order of the edges. -/
def shims (g : Graph) (k : Int) (s : KernelSource) : List Shim :=
  (g.kernelEdges k).filterMap fun (e, _) => g.edgeShim? s e

/-- True for an edge from an interface that has a function index out of range. -/
def isMismatch (g : Graph) (s : KernelSource) (e : Edge) : Bool :=
  match g.interface? e.interface with
  | none => false
  | some d => (edgeFunctions? d s e).isNone

/-- The number of a kernel's edges that are skipped for an index out of range. -/
def mismatches (g : Graph) (k : Int) : Nat :=
  match g.source? k with
  | none => 0
  | some s => ((g.kernelEdges k).filter fun (e, _) => g.isMismatch s e).length

/-- The warning about an edge, if there is one. -/
def edgeNote? (g : Graph) (k : Int) (s : KernelSource) (e : Edge) (position : Nat) :
    Option Log.Record :=
  match g.interface? e.interface with
  | none => none
  | some d =>
    let note (message : String) (more : Log.Attributes) : Log.Record :=
      .of .warn message (g.logAttributes k)
        (("edge", .int position) :: ("data_interface", .text d.interface.className) ::
          ("data_interface_index", .int e.interface) :: more)
    match edgeFunctions? d s e with
    | none =>
      let (impls, wraps) := if e.input then (d.interface.inputs, s.inputs)
        else (d.interface.outputs, s.outputs)
      some (note "computegraph: edge binding index out of range, skipping"
        [("data_interface_binding", e.interfaceFunction),
         ("data_interface_functions", impls.length), ("kernel_binding", e.kernelFunction),
         ("kernel_functions", wraps.length), ("input", e.input)])
    | some (impl, wrap) =>
      if wrap.params.length < impl.params.length then
        some (note
          "computegraph: data interface function takes more parameters than the kernel provides"
          [("function", impl.signature), ("kernel_function", wrap.signature)])
      else none

/-- The warnings about a kernel's edges. -/
def edgeNotes (g : Graph) (k : Int) : List Log.Record :=
  match g.source? k with
  | none => []
  | some s => (g.kernelEdges k).filterMap fun (e, i) => g.edgeNote? k s e i

/-- The permutation options of a kernel and of the interfaces bound to it. -/
def allPermutations (s : KernelSource) (interfaces : List (Int × DataInterface)) :
    PermutationVector :=
  interfaces.foldl (fun v (_, d) => d.interface.permutations v)
    (PermutationVector.empty.addAll s.permutations)

/-- The permutation vector of a kernel; none without a source. -/
def permutationVector? (g : Graph) (k : Int) : Option PermutationVector :=
  (g.source? k).map fun s => allPermutations s (g.boundInterfaces k)

/-- The permutation vectors of all kernels, indexed like the kernels. -/
def permutationVectors (g : Graph) : List (Option PermutationVector) :=
  (List.range g.kernels.length).map fun k : Nat => g.permutationVector? k

/-- The parameter layout of the kernel at an index. -/
def metadata (g : Graph) (k : Int) : Except GraphError Layout :=
  if k < 0 || g.kernels.length ≤ k then .error (.kernelIndex k) else .ok (g.layout k)

/-- The record of a finished build. -/
def buildNote (g : Graph) (b : KernelBuild) : Log.Record where
  level := .debug
  message := "computegraph: kernel source built"
  attributes :=
    [("kernel", b.friendlyName), ("dialect", b.dialect.name),
     ("data_interfaces", (g.boundSlots b.kernel).length),
     ("edges", (g.kernelEdges b.kernel).length), ("hash_key", b.hashKey)]

end Graph

/-! ## Building -/

/-- What a build has put together so far. -/
structure Assembly where
  /-- Everything that follows the struct declarations. -/
  body : String := ""
  declarations : List String := []
  /-- The structs that have been declared. -/
  declared : List String := []
  generated : List (String × String) := []
  /-- The sources that stand in files of their own, to be hashed. -/
  content : Hasher := {}
  /-- The hash key as far as it is known. -/
  key : String := ""
  definitions : Definitions
  permutations : PermutationVector
  /-- The store with the digests that were taken. -/
  files : FileStore

namespace Assembly

/-- An additional source is included. -/
def addSource (d : Dialect) (a : Assembly) (x : Source) : Assembly :=
  { a with
    body := a.body ++ d.includeLine x.path
    content := a.content.write x.text }

/-- What stands in the source before the first interface. -/
def start (s : KernelSource) (d : Dialect) (files : FileStore) : Assembly :=
  (s.pool.gather s.sources).foldl (addSource d)
    { definitions := s.definitions
      permutations := PermutationVector.empty.addAll s.permutations
      files }

/-- The code of an interface stands inline, or in a file of its own if the interface has a path. -/
def addCode (d : Dialect) (uid : String) (a : Assembly) (i : Interface) (code : String) :
    Assembly :=
  if i.virtualPath = "" then { a with body := a.body ++ code }
  else
    let path := VirtualPath.generated uid i.virtualPath
    { a with
      body := a.body ++ d.includeLine path
      generated := a.generated ++ [(path, code)]
      content := a.content.write code }

/-- What an interface adds besides its code. -/
def addExtras (a : Assembly) (i : Interface) : Assembly :=
  let (declarations, declared) := i.structs a.declared
  let (fragment, files) := i.fragment a.files
  { a with
    declarations := a.declarations ++ declarations
    declared
    key := a.key ++ fragment
    definitions := i.defines a.definitions
    permutations := i.permutations a.permutations
    files }

/-- The interfaces bound to a kernel are added one after the other, up to one that asks for a
    parameter that it has not declared. -/
def addAll (layout : Layout) (d : Dialect) :
    List (Int × DataInterface) → Assembly → Except UndeclaredParameter Unit × Assembly
  | [], a => (.ok (), a)
  | (slot, x) :: rest, a =>
    let scope := layout.scope slot
    match x.interface.source scope with
    | .error e => (.error e, a)
    | .ok code =>
      addAll layout d rest ((a.addCode d scope.uid x.interface code).addExtras x.interface)

/-- The source: the struct declarations, what was put together, the shims and the kernel's body. -/
def source (a : Assembly) (shims : List String) (body : String) : String :=
  String.join (a.declarations.map (· ++ "\n")) ++ a.body ++ String.join shims ++ body

end Assembly

namespace Graph

/-- The build of a kernel whose interfaces have been added, given the digest of the kernel
    wrapper. -/
def finish (g : Graph) (k : Nat) (s : KernelSource) (d : Dialect) (a : Assembly)
    (wrapper : Digest) : KernelBuild :=
  let source := a.source ((g.shims k s).map d.shim) s.body
  { kernel := k
    friendlyName := g.friendlyName k
    entryPoint := s.entryPoint
    groupSize := s.groupSize
    source
    hashKey := a.key ++ a.definitions.listing ++ a.permutations.listing ++
      (a.content.write source).sum.toHex ++ wrapper.toHex
    generated := a.generated
    additional := s.pool.gather s.sources
    definitions := a.definitions
    permutations := a.permutations
    layout := g.layout k
    dialect := d }

/-- The outcome of building a kernel: the build or an error, the warnings on the way, the number of
    skipped edges, and the file store with the digests that were taken. -/
structure BuildOutcome where
  result : Except GraphError KernelBuild
  notes : List Log.Record := []
  mismatches : Nat := 0
  files : FileStore

/-- Builds the kernel at an index in a dialect.  The format selects the digest of the kernel wrapper
    that goes into the key. -/
def build (g : Graph) (files : FileStore) (registry : Nat) (k : Int) (d : Dialect)
    (format : String) : BuildOutcome :=
  if k < 0 || g.kernels.length ≤ k then { result := .error (.kernelIndex k), files }
  else
    match g.kernel? k with
    | none => { result := .error .emptyKernel, files }
    | some { name, source := none } => { result := .error (.noKernelSource name), files }
    | some { source := some s, .. } =>
      match Assembly.addAll (g.layout k) d (g.boundInterfaces k) (.start s d files) with
      | (.error e, a) =>
        { result := .error (.undeclared e), notes := g.layoutNotes k, files := a.files }
      | (.ok (), a) =>
        let notes := g.layoutNotes k ++ g.edgeNotes k
        let mismatches := g.mismatches k
        match a.files.digest registry VirtualPath.kernelWrapper format with
        | (.error e, files) =>
          { result := .error (.wrapper (g.friendlyName k) e), notes, mismatches, files }
        | (.ok wrapper, files) =>
          let b := g.finish k.toNat s d a wrapper
          { result := .ok b, notes := notes ++ [g.buildNote b], mismatches, files }

end Graph

end KernelGraph
