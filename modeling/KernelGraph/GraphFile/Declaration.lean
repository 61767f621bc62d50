/-
  Declarations: the blocks of a graph file as records.

  A block has a fixed number of labels, knows its attributes and nested blocks, and may require some
  attributes.  Attribute values are converted to the type of their field; a value that cannot be
  converted, or a null where a primitive value is wanted, is not accepted.  The attributes of a data
  interface are kept as expressions, since only its factory knows them.
-/
import KernelGraph.GraphFile.Syntax
import KernelGraph.Number.Basic

namespace KernelGraph.GraphFile

namespace Block

/-- Accepts a block with this number of labels and only these attributes and nested blocks. -/
def check (b : Block) (labels : Nat) (attributes blocks : List String) : Option Unit :=
  if b.labels.length = labels && b.attributes.all (fun a => attributes.contains a.1) &&
      b.blocks.all (fun c => blocks.contains c.type) then some ()
  else none

/-- The label at a position. -/
def label (b : Block) (i : Nat) : String := b.labels.getD i ""

/-- An attribute of a type with a zero value: left out, or evaluated and converted. -/
def get? {α : Type} (b : Block) (name : String) (zero : α) (convert : Value → Option α) :
    Option α :=
  match b.attributes.lookup name with
  | none => some zero
  | some e => e.eval.bind convert

/-- A text. -/
def text? (b : Block) (name : String) : Option String := b.get? name "" Value.text?

/-- A text that has to be given. -/
def requiredText? (b : Block) (name : String) : Option String :=
  if (b.attributes.lookup name).isSome then b.text? name else none

/-- The nested blocks of a type, read in order. -/
def each? {α : Type} (b : Block) (type : String) (read : Block → Option α) : Option (List α) :=
  (b.blocks.filter fun c => c.type = type).mapM read

end Block

/-! ## Conversions -/

/-- A list whose elements are converted; null is the empty list. -/
def listOf? {α : Type} (convert : Value → Option α) : Value → Option (List α)
  | .tuple vs => vs.mapM convert
  | .texts vs => vs.mapM fun s => convert (.text s)
  | .null => some []
  | _ => none

/-- Named texts; null is the empty list. -/
def textsByName? : Value → Option (List (String × String))
  | .object fields => fields.mapM fun (name, v) => v.text?.map fun s => (name, s)
  | .null => some []
  | _ => none

/-- A word of 32 bits.  A fraction is cut off from a number that has no more than 64 significant
    binary digits; any other number has to be whole, and only zero is below one. -/
def word? (v : Value) : Option UInt32 :=
  match v.number? with
  | some (.finite negative m e) =>
    if m = 0 then some 0
    else if negative || 64 < Number.bitLength m then none
    else
      match (Number.finite negative m e).floorBelow? 32 with
      | some 0 | none => none
      | some n => some n.toUInt32
  | _ => none

/-- A whole number of 64 bits. -/
def whole? (v : Value) : Option Int :=
  (v.number?.bind fun n => n.whole? 64).filter Word.fits

/-! ## Declarations -/

/-- A data interface with the attributes for its factory. -/
structure InterfaceDecl where
  type : String
  name : String
  /-- The name of its binding group; empty for the first one. -/
  binding : String
  attributes : List (String × Expr)
  /-- It has nested blocks, which no factory accepts. -/
  hasBlocks : Bool

/-- A function of a kernel; a parameter is a type, possibly after a modifier. -/
structure FunctionDecl where
  name : String
  result : String
  params : List String
  deriving DecidableEq, Repr

/-- A permutation option. -/
structure OptionDecl where
  name : String
  values : Int
  deriving DecidableEq, Repr

/-- An additional source at a virtual path. -/
structure IncludeDecl where
  path : String
  source : String
  file : String
  dependencies : List String
  deriving DecidableEq, Repr

/-- A kernel. -/
structure KernelDecl where
  name : String
  entryPoint : String
  groupSize : List UInt32
  source : String
  sourceFile : String
  isDefault : Bool
  defines : List (String × String)
  inputs : List FunctionDecl
  outputs : List FunctionDecl
  options : List OptionDecl
  sources : List IncludeDecl
  deriving DecidableEq, Repr

/-- An edge by names. -/
structure EdgeDecl where
  interface : String
  function : String
  kernel : String
  /-- The kernel's function; empty for one of the same name. -/
  kernelFunction : String
  rename : String
  scope : String
  deriving DecidableEq, Repr

/-- A graph. -/
structure GraphDecl where
  name : String
  bindings : List String
  interfaces : List InterfaceDecl
  kernels : List KernelDecl
  edges : List EdgeDecl

/-! ## Reading declarations -/

/-- Reads a binding group. -/
def bindingDecl? (b : Block) : Option String := do
  b.check 1 [] []
  return b.label 0

/-- Reads a data interface.  Its labels are checked, its other contents are kept. -/
def interfaceDecl? (b : Block) : Option InterfaceDecl := do
  guard (b.labels.length = 2)
  let binding ← b.text? "binding"
  return {
    type := b.label 0
    name := b.label 1
    binding
    attributes := b.attributes.filter fun a => a.1 ≠ "binding"
    hasBlocks := !b.blocks.isEmpty }

/-- Reads a function. -/
def functionDecl? (b : Block) : Option FunctionDecl := do
  b.check 1 ["return", "params"] []
  let result ← b.text? "return"
  let params ← b.get? "params" [] (listOf? Value.text?)
  return { name := b.label 0, result, params }

/-- Reads a permutation option. -/
def optionDecl? (b : Block) : Option OptionDecl := do
  b.check 1 ["values"] []
  let values ← b.get? "values" 0 whole?
  return { name := b.label 0, values }

/-- Reads an additional source. -/
def includeDecl? (b : Block) : Option IncludeDecl := do
  b.check 1 ["source", "file", "depends_on"] []
  let source ← b.text? "source"
  let file ← b.text? "file"
  let dependencies ← b.get? "depends_on" [] (listOf? Value.text?)
  return { path := b.label 0, source, file, dependencies }

/-- Reads a kernel. -/
def kernelDecl? (b : Block) : Option KernelDecl := do
  b.check 1 ["entry_point", "group_size", "source", "source_file", "default", "defines"]
    ["input", "output", "permutation", "include"]
  let entryPoint ← b.requiredText? "entry_point"
  let groupSize ← b.get? "group_size" [] (listOf? word?)
  let source ← b.text? "source"
  let sourceFile ← b.text? "source_file"
  let isDefault ← b.get? "default" false Value.bool?
  let defines ← b.get? "defines" [] textsByName?
  let inputs ← b.each? "input" functionDecl?
  let outputs ← b.each? "output" functionDecl?
  let options ← b.each? "permutation" optionDecl?
  let sources ← b.each? "include" includeDecl?
  return { name := b.label 0, entryPoint, groupSize, source, sourceFile, isDefault, defines, inputs,
           outputs, options, sources }

/-- Reads an edge. -/
def edgeDecl? (b : Block) : Option EdgeDecl := do
  b.check 0
    ["data_interface", "function", "kernel", "kernel_function", "name_override", "namespace"] []
  let interface ← b.requiredText? "data_interface"
  let function ← b.requiredText? "function"
  let kernel ← b.requiredText? "kernel"
  let kernelFunction ← b.text? "kernel_function"
  let rename ← b.text? "name_override"
  let scope ← b.text? "namespace"
  return { interface, function, kernel, kernelFunction, rename, scope }

/-- Reads a graph. -/
def graphDecl? (b : Block) : Option GraphDecl := do
  b.check 1 [] ["binding", "data_interface", "kernel", "edge"]
  let bindings ← b.each? "binding" bindingDecl?
  let interfaces ← b.each? "data_interface" interfaceDecl?
  let kernels ← b.each? "kernel" kernelDecl?
  let edges ← b.each? "edge" edgeDecl?
  return { name := b.label 0, bindings, interfaces, kernels, edges }

end KernelGraph.GraphFile
