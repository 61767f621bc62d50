/-
  Descriptions of graphs as data.

  Every part of a graph can be read from a record: functions, definitions, permutation options,
  sources, interfaces, kernels, edges and bindings.  So can compile requests and scripted compilers.
-/
import KernelGraph.Builtin
import KernelGraph.Compile.Compiler
import KernelGraph.Datum
import KernelGraph.Graph.Basic
import KernelGraph.Interface.Template

namespace KernelGraph.Datum

/-- A function with its result and parameters. -/
def toFunction (d : Datum) : Function where
  name := d.textAt "name"
  result := d.textAt "return"
  params := (d.listAt "params").map fun p =>
    { type := p.textAt "type"
      modifier := (Modifier.all.find? fun m => m.keyword = p.textAt "mod").getD .none }

/-- A list of names with values. -/
def definesAt (d : Datum) (name : String) : List Define :=
  (d.listAt name).map fun p =>
    match p.toList with
    | [a, b] => ⟨a.toText, b.toText⟩
    | _ => ⟨"", ""⟩

/-- A list of permutation options. -/
def optionsAt (d : Datum) (name : String) : List PermutationOption :=
  (d.listAt name).map fun p =>
    ⟨p.textAt "name", if p.flagAt "bool" then 2 else Int64.ofInt (p.intAt "count")⟩

/-- A position in a pool; a negative number is an empty entry. -/
def toPosition (d : Datum) : Option Nat := d.toInt.toNat?

/-- A pool of sources. -/
def poolAt (d : Datum) (name : String) : SourcePool :=
  ((d.listAt name).map fun s =>
    { path := s.textAt "path", text := s.textAt "text"
      dependencies := (s.listAt "deps").map toPosition : Source }).toArray

/-- Texts by path. -/
def filesAt (d : Datum) (name : String) : List (String × String) :=
  (d.fieldsAt name).map fun (path, file) => (path, file.toText)

/-- A feature level by its code. -/
def levelAt (d : Datum) (name : String) : FeatureLevel := ⟨(d.natAt name).toUInt8⟩

/-- The sizes of a work group. -/
def groupSizeAt (d : Datum) (name : String) : GroupSize :=
  let size (i : Nat) : UInt32 := ((d.listAt name).getD i null).toInt.toNat.toUInt32
  ⟨size 0, size 1, size 2⟩

/-- The files of a request: the built-in ones, or those given and possibly the built-in ones. -/
def toResolver (d : Datum) : Include.Resolver :=
  let builtin := Builtin.store.resolver Builtin.registryId
  if !d.has "files" then builtin
  else
    let own := Include.Resolver.ofList (d.filesAt "files")
    if d.flagAt "builtin" then own.orElse builtin else own

/-- A compile request. -/
def toRequest (d : Datum) : Request where
  friendlyName := d.textAt "name"
  entryPoint := d.textAt "entry"
  groupSize := d.groupSizeAt "group"
  source := d.textAt "source"
  includes := d.filesAt "includes"
  files := d.toResolver
  wrapperPath := d.textAt "wrapper"
  definitions := d.definesAt "definitions"

/-- A scripted compiler. -/
def toScript (d : Datum) : Script where
  format := d.textAt "format"
  dialect := (Dialect.parse? (d.textAt "dialect")).getD .wgsl
  level := d.levelAt "level"
  failingEntries := d.textsAt "fail"
  failingPermutations := (d.listAt "fail_permutations").map fun n => Int64.ofInt n.toInt
  silent := d.flagAt "no_output"
  diagnostics := d.textsAt "diagnostics"

/-- The kind of a parameter. -/
def toParameterKind (d : Datum) : ParameterKind :=
  if d.toText = "storage" then .storage
  else if d.toText = "read_only" then .readOnlyStorage
  else .uniform

/-- A parameter; only the size of a uniform one is known. -/
def toParameter (d : Datum) : ParameterDecl :=
  let kind := (d.field "kind").toParameterKind
  { name := d.textAt "name"
    type := d.textAt "type"
    kind
    size := if kind = .uniform then (d.natAt "size").toUInt64 else 0 }

/-- An interface described by a template. -/
def toTemplate (d : Datum) : Template where
  className := d.textAt "class"
  inputs := (d.listAt "inputs").map toFunction
  outputs := (d.listAt "outputs").map toFunction
  virtualPath := d.textAt "path"
  text := d.textAt "source"
  required := d.textAt "must_bind"
  structs := (d.definesAt "structs").map fun s => (s.name, s.value)
  defines := d.definesAt "defines"
  permutations := d.optionsAt "permutations"
  hashFragment := d.textAt "hash"
  parameters := (d.listAt "params").map toParameter
  isExecution := d.flagAt "exec"
  unified := d.flagAt "unified"
  readback := d.flagAt "readback"
  preSubmit := d.flagAt "pre_submit"
  postSubmit := d.flagAt "post_submit"
  provider :=
    if d.textAt "provider" = "nil" then .missing
    else if d.textAt "provider" = "error" then .failing "mock provider error"
    else .recording

/-- A data interface: a built-in one, one with only the defaults, or a template. -/
def toInterface (d : Datum) : DataInterface :=
  match d.textAt "kind" with
  | "base" => .custom { className := d.textAt "class" }
  | "execution" => .execution (d.natAt "threads").toUInt32
  | "buffer" =>
    .buffer
      { type := d.textAt "type", struct := d.textAt "struct", readback := d.flagAt "readback"
        preSubmit := d.flagAt "pre_submit", postSubmit := d.flagAt "post_submit"
        unified := d.flagAt "unified" }
  | "constant" => .constant { type := d.textAt "type", size := (d.natAt "size").toUInt64 }
  | _ => .custom d.toTemplate.interface

/-- A data interface, or none for an empty slot. -/
def toInterface? (d : Datum) : Option DataInterface :=
  if d.isNull || d.textAt "kind" = "nil" then none else some d.toInterface

/-- The source of a kernel. -/
def toKernelSource (d : Datum) : KernelSource where
  entryPoint := d.textAt "entry"
  groupSize := d.groupSizeAt "group"
  body := d.textAt "body"
  inputs := (d.listAt "inputs").map toFunction
  outputs := (d.listAt "outputs").map toFunction
  definitions := Definitions.empty.setAll (d.definesAt "definitions")
  permutations := d.optionsAt "permutations"
  pool := d.poolAt "source_pool"
  sources := (d.listAt "sources").map toPosition
  isDefault := d.flagAt "default"

/-- A kernel, or none for an empty entry. -/
def toKernel? (d : Datum) : Option Kernel :=
  if d.flagAt "nil" then none
  else
    some
      { name := d.textAt "name"
        source := if d.has "source" then some (d.field "source").toKernelSource else none }

/-- An edge. -/
def toEdge (d : Datum) : Edge where
  interface := d.intAt "di"
  interfaceFunction := d.intAt "di_fn"
  kernel := d.intAt "kernel"
  kernelFunction := d.intAt "kernel_fn"
  input := d.flagAt "input"
  rename := d.textAt "override"
  scope := d.textAt "namespace"

/-- A binding group. -/
def toBinding (d : Datum) : Binding where
  name := d.textAt "name"
  accepts :=
    match d.textAt "accepts" with
    | "string" => fun x => x.typeName = "string"
    | "int" => fun x => x.typeName = "int"
    | "none" => fun _ => false
    | _ => fun _ => true

/-- A graph. -/
def toGraph (d : Datum) : Graph where
  name := d.textAt "name"
  bindings := (d.listAt "bindings").map toBinding
  kernels := (d.listAt "kernels").map toKernel?
  interfaces := (d.listAt "data_interfaces").map toInterface?
  groups := (d.listAt "data_interfaces").map fun x => x.intAt "binding"
  edges := (d.listAt "edges").map toEdge

/-- An object that is bound to a graph.  One that knows how many threads to dispatch is described
    by that number, and its type has a name of the describing program. -/
def toObject? : Datum → Option BoundObject
  | null => none
  | text s => some (.text s)
  | bool b => some (.bool b)
  | int n => some (.int n)
  | d =>
    some
      { typeName := "main.threadCounter"
        value := .record [("threads", .int (d.natAt "threads").toUInt32.toNat)]
        threads := some (d.natAt "threads").toUInt32 }

end KernelGraph.Datum
