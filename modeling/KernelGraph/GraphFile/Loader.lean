/-
  Loading graphs from files.

  Names are resolved to positions: binding groups and data interfaces first, then additional
  sources, kernels and edges.  The first problem ends the loading and no graph is returned.  A graph
  without binding groups gets one.  Paths of host files are relative to the graph file.

  How a text declares graphs is up to a reader of declarations.  `declarations?` is one for files
  whose expressions are literals and integer arithmetic.
-/
import KernelGraph.GraphFile.Declaration
import KernelGraph.GraphFile.Parser
import KernelGraph.Graph.Basic
import KernelGraph.HostFile
import KernelGraph.Interface.Factory

namespace KernelGraph.GraphFile

/-! ## Problems -/

/-- A part of a graph file. -/
inductive Place
  | interface (name : String)
  | kernel (name : String)
  | function (name : String)
  | source (path : String)
  | edge (position : Nat)
  deriving DecidableEq, Repr

/-- The name of a part in messages. -/
def Place.text : Place → String
  | interface name => "data_interface " ++ Text.quoted name
  | kernel name => "kernel " ++ Text.quoted name
  | function name => "function " ++ Text.quoted name
  | source path => "include " ++ Text.quoted path
  | edge position => "edge " ++ toString position

/-- What a graph file refers to and does not declare. -/
inductive Unresolved
  | binding (interface binding : String)
  | dependency (path dependency : String)
  | interface (name : String)
  | kernel (name : String)
  | kernelFunction (kernel function : String)
  | interfaceFunction (interface : String) (input : Bool) (function : String)
  deriving DecidableEq, Repr

/-- The reference in words. -/
def Unresolved.text : Unresolved → String
  | binding i b => "data_interface " ++ Text.quoted i ++ ": binding " ++ Text.quoted b
  | dependency p d => "include " ++ Text.quoted p ++ " depends on " ++ Text.quoted d
  | interface name => "data_interface " ++ Text.quoted name
  | kernel name => "kernel " ++ Text.quoted name
  | kernelFunction k f => "kernel " ++ Text.quoted k ++ " has no function " ++ Text.quoted f
  | interfaceFunction i input f =>
    "data_interface " ++ Text.quoted i ++ " has no " ++ (if input then "input" else "output") ++
      " function " ++ Text.quoted f

/-- Why a graph cannot be loaded. -/
inductive Problem
  /-- An interface's attributes have no value, or it has nested blocks. -/
  | malformed
  | duplicate (kind name : String)
  /-- Two sources at one virtual path have different texts. -/
  | conflict (path : String)
  | unresolved (reference : Unresolved)
  /-- There is not exactly one of an inline text and a file. -/
  | ambiguousSource
  | unreadable (e : FileError)
  | dimensions (count : Nat)
  | unknownModifier (word : String)
  | malformedParameter (text : String)
  | factory (e : FactoryError)
  /-- A problem in a part of the graph. -/
  | within (place : Place) (p : Problem)
  deriving DecidableEq

namespace Problem

/-- The message of the problem. -/
def message : Problem → String
  | malformed => ""
  | duplicate kind name => "loader: duplicate name: " ++ kind ++ " " ++ Text.quoted name
  | conflict path =>
    "loader: duplicate name: include " ++ Text.quoted path ++ " declared with different text"
  | unresolved reference => "loader: unresolved reference: " ++ reference.text
  | ambiguousSource => "loader: kernel needs one of source or source_file"
  | unreadable e => "loader: " ++ e.message
  | dimensions count =>
    "loader: group_size has " ++ toString count ++ " dimensions, want at most 3"
  | unknownModifier word => "loader: unknown parameter modifier " ++ Text.quoted word
  | malformedParameter text => "loader: malformed parameter " ++ Text.quoted text
  | factory e => e.message
  | within place p => place.text ++ ": " ++ p.message

/-- The problem itself, without the parts that it is in. -/
def cause : Problem → Problem
  | within _ p => p.cause
  | p => p

end Problem

/-- Why a file cannot be loaded. -/
inductive LoadError
  /-- The file is not well formed, or a block is not as declared. -/
  | malformed
  /-- The graph file cannot be read. -/
  | unreadable (e : FileError)
  | graph (file name : String) (p : Problem)
  deriving DecidableEq

/-- The message of the error. -/
def LoadError.message : LoadError → String
  | malformed => ""
  | unreadable e => "loader: " ++ e.message
  | graph file name p =>
    "loader: " ++ file ++ ": graph " ++ Text.quoted name ++ ": " ++ p.message

/-! ## Resolving names -/

/-- Puts a place around the problem of a result. -/
def inside {α : Type} (place : Place) (r : Except Problem α) : Except Problem α :=
  r.mapError (.within place)

/-- The first element that occurs before in the list. -/
def firstRepeated? : (seen names : List String) → Option String
  | _, [] => none
  | seen, n :: ns => if seen.contains n then some n else firstRepeated? (n :: seen) ns

/-- Rejects names that are used twice. -/
def checkNames (kind : String) (names : List String) : Except Problem Unit :=
  match firstRepeated? [] names with
  | some n => .error (.duplicate kind n)
  | none => .ok ()

/-- The name of the binding group of a graph that declares none. -/
def defaultBinding : String := "Default"

/-- The inline text, or the text of a file relative to a directory. -/
def sourceText (files : String → HostFile) (dir inline file : String) : Except Problem String :=
  if inline ≠ "" && file ≠ "" then .error .ambiguousSource
  else if inline ≠ "" then .ok inline
  else if file ≠ "" then
    let path := if HostPath.isAbsolute file then file else HostPath.join dir file
    ((files path).read path).mapError .unreadable
  else .error .ambiguousSource

/-- Creates the interface of a declaration. -/
def createInterface (factories : Factories) (d : InterfaceDecl) :
    Except Problem DataInterface :=
  if d.hasBlocks then .error .malformed
  else
    match d.attributes.mapM fun (name, e) => e.eval.map fun v => (name, v) with
    | none => .error .malformed
    | some attributes => (factories.create d.type attributes).mapError .factory

/-- Creates an interface and finds its binding group. -/
def resolveInterface (factories : Factories) (bindings : List String) (d : InterfaceDecl) :
    Except Problem (DataInterface × Int) := do
  let i ← inside (.interface d.name) (createInterface factories d)
  if d.binding = "" then return (i, 0)
  match bindings.findIdx? (· = d.binding) with
  | some g => return (i, g)
  | none => .error (.unresolved (.binding d.name d.binding))

/-- Adds an additional source to the pool; a path may be declared again with the same text. -/
def addSource (files : String → HostFile) (dir : String) (pool : SourcePool) (d : IncludeDecl) :
    Except Problem SourcePool := do
  let text ← inside (.source d.path) (sourceText files dir d.source d.file)
  match pool.find? fun s => s.path = d.path with
  | some s => if s.text = text then return pool else .error (.conflict d.path)
  | none => return pool.push { path := d.path, text }

/-- Adds a dependency between two sources of the pool. -/
def addDependency (pool : SourcePool) (path dependency : String) : Except Problem SourcePool :=
  match pool.findIdx? fun s => s.path = dependency with
  | none => .error (.unresolved (.dependency path dependency))
  | some n =>
    .ok (pool.map fun s =>
      if s.path = path && !s.dependencies.contains (some n) then
        { s with dependencies := s.dependencies ++ [some n] }
      else s)

/-- The pool of the additional sources of all kernels. -/
def sourcePool (files : String → HostFile) (dir : String) (kernels : List KernelDecl) :
    Except Problem SourcePool := do
  let decls := kernels.flatMap KernelDecl.sources
  let pool ← decls.foldlM (addSource files dir) #[]
  let links := decls.flatMap fun d => d.dependencies.map fun x => (d.path, x)
  links.foldlM (fun pool (path, dependency) => addDependency pool path dependency) pool

/-- A parameter from its type, possibly after a modifier. -/
def readParameter (s : String) : Except Problem Param :=
  match Text.fields s with
  | [type] => .ok { type }
  | [word, type] =>
    match Modifier.parse? word with
    | some modifier => .ok { type, modifier }
    | none => .error (.unknownModifier word)
  | _ => .error (.malformedParameter s)

/-- A function with its parameters. -/
def readFunction (d : FunctionDecl) : Except Problem Function :=
  inside (.function d.name)
    ((d.params.mapM readParameter).map fun params => { name := d.name, result := d.result, params })

/-- The size of a work group; dimensions that are left out are 1. -/
def readGroupSize (sizes : List UInt32) : Except Problem GroupSize :=
  if 3 < sizes.length then .error (.dimensions sizes.length)
  else .ok ⟨sizes.getD 0 1, sizes.getD 1 1, sizes.getD 2 1⟩

/-- The least number of values of an option. -/
def leastValues : Int := 2

/-- The source of a kernel. -/
def resolveKernel (files : String → HostFile) (dir : String) (pool : SourcePool)
    (d : KernelDecl) : Except Problem KernelSource := do
  let body ← sourceText files dir d.source d.sourceFile
  let groupSize ← readGroupSize d.groupSize
  let inputs ← d.inputs.mapM readFunction
  let outputs ← d.outputs.mapM readFunction
  let defines := d.defines.mergeSort fun a b => decide (a.1 ≤ b.1)
  return {
    entryPoint := d.entryPoint
    groupSize
    body
    inputs
    outputs
    definitions := Definitions.empty.setAll (defines.map fun (name, value) => ⟨name, value⟩)
    permutations := d.options.map fun x => ⟨x.name, Int64.ofInt (max x.values leastValues)⟩
    pool
    sources := d.sources.map fun x => pool.findIdx? fun s => s.path = x.path
    isDefault := d.isDefault }

/-- The position of a function by name. -/
def functionIndex? (fs : List Function) (name : String) : Option Nat :=
  fs.findIdx? fun f => f.name = name

/-- The function of a kernel that an edge connects: an input or else an output. -/
def kernelFunction? (s : KernelSource) (name : String) : Option (Bool × Nat) :=
  match functionIndex? s.inputs name with
  | some i => some (true, i)
  | none => (functionIndex? s.outputs name).map fun i => (false, i)

/-- An edge by positions. -/
def resolveEdge (interfaces : List (String × DataInterface))
    (kernels : List (String × KernelSource)) (d : EdgeDecl) : Except Problem Edge :=
  let fail (reference : Unresolved) : Except Problem Edge := .error (.unresolved reference)
  match interfaces.zipIdx.find? fun x => x.1.1 = d.interface with
  | none => fail (.interface d.interface)
  | some ((_, interface), i) =>
    match kernels.zipIdx.find? fun x => x.1.1 = d.kernel with
    | none => fail (.kernel d.kernel)
    | some ((_, source), k) =>
      let name := if d.kernelFunction = "" then d.function else d.kernelFunction
      match kernelFunction? source name with
      | none => fail (.kernelFunction d.kernel name)
      | some (input, kernelFunction) =>
        let supported := if input then interface.interface.inputs else interface.interface.outputs
        match functionIndex? supported d.function with
        | none => fail (.interfaceFunction d.interface input d.function)
        | some interfaceFunction =>
          .ok { interface := i, interfaceFunction, kernel := k, kernelFunction, input
                rename := d.rename, scope := d.scope }

/-- The graph of a declaration, with the interfaces that the factories create. -/
def resolveGraph (factories : Factories) (files : String → HostFile) (dir : String)
    (d : GraphDecl) : Except Problem Graph := do
  checkNames "binding" d.bindings
  let bindings := if d.bindings.isEmpty then [defaultBinding] else d.bindings
  checkNames "data_interface" (d.interfaces.map InterfaceDecl.name)
  let slots ← d.interfaces.mapM (resolveInterface factories bindings)
  let pool ← sourcePool files dir d.kernels
  checkNames "kernel" (d.kernels.map KernelDecl.name)
  let kernels ← d.kernels.mapM fun k => inside (.kernel k.name) (resolveKernel files dir pool k)
  let named := (d.kernels.map KernelDecl.name).zip kernels
  let interfaces := (d.interfaces.map InterfaceDecl.name).zip (slots.map Prod.fst)
  let edges ← d.edges.zipIdx.mapM fun (e, n) => inside (.edge n) (resolveEdge interfaces named e)
  return {
    name := d.name
    bindings := bindings.map fun name => { name }
    interfaces := slots.map fun s => some s.1
    groups := slots.map Prod.snd
    kernels := named.map fun (name, s) => some { name, source := some s }
    edges }

/-- The declarations of a simple file; none if it is malformed. -/
def declarations? (text : String) : Option (List GraphDecl) := do
  let body ← parse? text
  guard (body.attributes.isEmpty && body.blocks.all fun b => b.type = "graph")
  body.blocks.mapM graphDecl?

/-- Resolves declarations one after the other: the graphs before the first problem, and the
    problem. -/
def resolveGraphs (files : String → HostFile) (file : String) :
    List GraphDecl → List Graph × Option LoadError
  | [] => ([], none)
  | d :: ds =>
    match resolveGraph Factory.standard files (HostPath.directory file) d with
    | .error p => ([], some (.graph file d.name p))
    | .ok g =>
      let (gs, failed) := resolveGraphs files file ds
      (g :: gs, failed)

/-- The graphs of a text that is read by `read?`, up to the first problem.  The file name anchors
    relative paths. -/
def graphsOfText (read? : String → Option (List GraphDecl)) (files : String → HostFile)
    (file text : String) : List Graph × Option LoadError :=
  match read? text with
  | none => ([], some .malformed)
  | some ds => resolveGraphs files file ds

/-- The graphs of a file, up to the first problem. -/
def loadedGraphs (read? : String → Option (List GraphDecl)) (files : String → HostFile)
    (file : String) : List Graph × Option LoadError :=
  match (files file).read file with
  | .error e => ([], some (.unreadable e))
  | .ok text => graphsOfText read? files file text

/-- All graphs, or the problem. -/
def complete (r : List Graph × Option LoadError) : Except LoadError (List Graph) :=
  match r with
  | (gs, none) => .ok gs
  | (_, some e) => .error e

/-- The graphs of a text. -/
def load (files : String → HostFile) (file text : String) : Except LoadError (List Graph) :=
  complete (graphsOfText declarations? files file text)

/-- The graphs of a file. -/
def loadFile (files : String → HostFile) (file : String) : Except LoadError (List Graph) :=
  complete (loadedGraphs declarations? files file)

/-- The host files that the graphs of a text refer to. -/
def filePaths (file text : String) : List String :=
  let names := (declarations? text).getD [] |>.flatMap fun d => d.kernels.flatMap fun k =>
    k.sourceFile :: k.sources.map IncludeDecl.file
  (names.filter (· ≠ "")).map fun name =>
    if HostPath.isAbsolute name then name else HostPath.join (HostPath.directory file) name

end KernelGraph.GraphFile
