/-
  Reports: values of the library as data trees, for inspection.
-/
import KernelGraph.Datum
import KernelGraph.Session.Basic

namespace KernelGraph

/-- The sizes of a work group. -/
def GroupSize.report (g : GroupSize) : Datum := .ofInts [g.x.toNat, g.y.toNat, g.z.toNat]

/-- A list of names with values. -/
def Definitions.report (ds : List Define) : Datum := .list (ds.map fun d => .pair d.name d.value)

/-- A list of options with their counts. -/
def PermutationOption.report (os : List PermutationOption) : Datum :=
  .list (os.map fun x => .pair x.name x.count.toInt)

/-- A word is written as text. -/
def reportWord (n : UInt64) : Datum := toString n.toNat

/-- A program; its code is left out unless asked for. -/
def Program.report (code : Bool) (p : Program) : Datum :=
  let variant (v : Variant) : Datum :=
    (Datum.record
      [("id", v.permutation.toInt), ("size", v.code.utf8ByteSize),
       ("sha1", (Digest.ofText v.code).toHex)]).extend
      (if code then [("code", .text v.code)] else [])
  .record
    [("format", p.format), ("hash_key", p.hashKey), ("entry", p.entryPoint),
     ("variants", .list (p.variants.map variant)), ("size", p.codeSize),
     ("diagnostics", .ofTexts p.diagnostics)]

/-- The visibility of parameters: the compute stage. -/
def computeStage : Nat := 4

/-- A parameter layout with its bind group entries. -/
def Layout.report (x : Layout) : Datum :=
  let parameter (p : Parameter) : Datum := .record
    [("name", p.name), ("local", p.localName), ("kind", p.kind.name), ("type", p.type),
     ("size", reportWord p.size), ("binding", p.binding.toNat), ("di", p.slot)]
  let entry (p : Parameter) : Datum := .list
    [p.binding.toNat, computeStage, p.kind.bufferCode, reportWord p.size]
  .record
    [("name", x.name), ("group", x.group.toNat), ("parameters", .list (x.parameters.map parameter)),
     ("entries", .list (x.parameters.map entry)), ("string", x.listing)]

/-- The outcome of a compile. -/
def CompileResult.report (r : CompileResult) : Datum := .record
  [("success", r.success), ("cached", r.cached), ("format", r.format), ("level", r.level.name),
   ("hash_key", r.hashKey), ("diagnostics", .ofTexts r.diagnostics),
   ("err", .ofOption (fun e => .text (ResultError.message e)) r.error)]

/-- A resource with its program and its last result. -/
def Resource.report (r : Resource) : Datum := .record
  [("state", r.state.name), ("finished", r.state.isFinished), ("format", r.format),
   ("level", r.level.name), ("hash_key", r.hashKey), ("has_build", r.build.isSome),
   ("program", .ofOption (Program.report false) r.program), ("result", r.result.report)]

/-- An invocation. -/
def Invocation.report (code : Bool) (v : Invocation) : Datum := .record
  [("kernel", v.kernel), ("name", v.name), ("entry", v.entryPoint), ("group", v.groupSize.report),
   ("program", .ofOption (Program.report code) v.program), ("layout", v.layout.listing),
   ("permutations", (v.permutations.map PermutationVector.listing).getD ""),
   ("exec", v.executionSlot), ("binding_group", v.bindingGroup),
   ("data_interfaces", .list (v.slots.map fun s => .pair s.index s.primary)),
   ("primary", .ofInts v.primary), ("unified", v.unifiedDispatch),
   ("readback", .ofInts v.readback), ("pre_submit", .ofInts v.preSubmit),
   ("post_submit", .ofInts v.postSubmit)]

/-- A proxy with its invocations. -/
def RenderProxy.report (code : Bool) (p : RenderProxy) : Datum := .record
  [("name", p.graphName), ("generation", p.generation),
   ("invocations", .list (p.invocations.map (Invocation.report code)))]

/-- A kernel build. -/
def KernelBuild.report (b : KernelBuild) : Datum := .record
  [("kernel", b.kernel), ("name", b.friendlyName), ("entry", b.entryPoint),
   ("group", b.groupSize.report), ("source", b.source), ("hash_key", b.hashKey),
   ("generated", .list (b.generated.map fun (path, text) => .pair path text)),
   ("additional", .ofTexts (b.additional.map Source.path)),
   ("definitions", Definitions.report b.definitions.toList),
   ("permutations", b.permutations.listing), ("num_permutations", b.permutations.count.toInt),
   ("layout", b.layout.listing), ("dialect", b.dialect.name)]

/-- A source with its text and the paths that it depends on. -/
def KernelSource.reportSource (s : KernelSource) (root : Option Nat) : Datum :=
  .ofOption (fun (x : Source) => .list
    [x.path, x.text,
     .ofTexts (x.dependencies.filterMap fun d => (d.bind (s.pool[·]?)).map Source.path)])
    (root.bind (s.pool[·]?))

/-- The source of a kernel. -/
def KernelSource.report (s : KernelSource) : Datum := .record
  [("entry", s.entryPoint), ("group", s.groupSize.report), ("body", s.body),
   ("inputs", .ofTexts (s.inputs.map Function.signature)),
   ("outputs", .ofTexts (s.outputs.map Function.signature)),
   ("definitions", Definitions.report s.definitions.toList),
   ("permutations", PermutationOption.report s.permutations),
   ("sources", .list (s.sources.map s.reportSource)), ("default", s.isDefault)]

/-- The slot `i` with the settings of its interface. -/
def Graph.reportSlot (g : Graph) (i : Nat) (d : DataInterface) : Datum :=
  (Datum.record [("uid", d.uid i), ("binding", (g.group? i).getD 0)]).extend
    (match d with
    | .execution threads => [("threads", .int threads.toNat)]
    | .buffer b =>
      [("type", .text b.type), ("struct", .text b.struct), ("readback", .bool b.readback),
       ("pre_submit", .bool b.preSubmit), ("post_submit", .bool b.postSubmit),
       ("unified", .bool b.unified)]
    | .constant c => [("type", .text c.type), ("size", reportWord c.size)]
    | .custom _ => [])

/-- A kernel by name with its source. -/
def Kernel.report (k : Kernel) : Datum := .record
  [("name", k.name), ("source", .ofOption KernelSource.report k.source)]

/-- An edge. -/
def Edge.report (e : Edge) : Datum := .list
  [e.interface, e.interfaceFunction, e.kernel, e.kernelFunction, e.input, e.rename, e.scope]

/-- The definition of a graph. -/
def Graph.report (g : Graph) : Datum := .record
  [("name", g.name), ("bindings", .ofTexts (g.bindings.map Binding.name)),
   ("data_interfaces",
     .list (g.interfaces.zipIdx.map fun (d, i) => .ofOption (g.reportSlot i) d)),
   ("kernels", .list (g.kernels.map (.ofOption Kernel.report))),
   ("edges", .list (g.edges.map Edge.report))]

/-- A provider. -/
def Provider.report (p : Provider) : Datum :=
  let object (x : Option BoundObject) : Datum := .ofOption BoundObject.value x
  match p with
  | execution threads x =>
    .record [("type", "execution"), ("object", object x), ("threads", threads.toNat)]
  | buffer x inputs outputs => .record
    [("type", "buffer"), ("object", object x), ("in", reportWord inputs),
     ("out", reportWord outputs), ("reads", inputs != 0), ("writes", outputs != 0)]
  | constant x => .record [("type", "constant"), ("object", object x)]
  | recorder x inputs outputs count => .record
    [("type", "mock"), ("object", object x), ("in", reportWord inputs),
     ("out", reportWord outputs), ("inits", count)]

/-- What an interface contributes at slot `i` of a layout, given its code and its provider. -/
def DataInterface.report (d : DataInterface) (i : Nat) (layout : Layout) (source : String)
    (provider : Option Provider) : Datum :=
  let x := d.interface
  let (first, seen) := x.structs []
  let (again, seen) := x.structs seen
  .record
    [("class", x.className), ("uid", d.uid i),
     ("inputs", .ofTexts (x.inputs.map Function.signature)),
     ("outputs", .ofTexts (x.outputs.map Function.signature)), ("path", x.virtualPath),
     ("source", source), ("structs", .ofTexts first), ("structs_again", .ofTexts again),
     ("seen", .ofTexts seen), ("definitions", (x.defines {}).listing),
     ("permutations", (x.permutations {}).listing), ("hash", (x.fragment Builtin.store).1),
     ("layout", layout.report), ("exec", x.isExecution), ("unified", x.unified),
     ("readback", x.readback), ("pre_submit", x.preSubmit), ("post_submit", x.postSubmit),
     ("provider", .ofOption Provider.report provider)]

/-- A log record; attributes as texts. -/
def Log.Record.report (r : Log.Record) : Datum := .record
  [("attrs", .list (r.attributes.map fun (name, v) => .pair name v.toText)),
   ("level", r.level.name), ("msg", r.message)]

end KernelGraph
