/-
  The built-in data interfaces.

  `execution` supplies the number of threads, `buffer` exposes a typed storage buffer and `constant`
  one uniform value.  `DataInterface` is the closed choice between these and any other interface;
  `DataInterface.interface` is what each of them contributes.
-/
import KernelGraph.Builtin
import KernelGraph.Interface.Basic

namespace KernelGraph

/-- A typed storage buffer. -/
structure BufferSpec where
  /-- The element type; empty means `f32`. -/
  type : String := ""
  /-- A declaration of the element type, emitted once per kernel. -/
  struct : String := ""
  readback : Bool := false
  preSubmit : Bool := false
  postSubmit : Bool := false
  unified : Bool := false
  deriving DecidableEq, Repr, Inhabited

/-- One uniform value. -/
structure ConstantSpec where
  /-- The type of the value; empty means `f32`. -/
  type : String := ""
  /-- The size of the type in bytes. -/
  size : UInt64 := 0
  deriving DecidableEq, Repr, Inhabited

/-- An element type, `f32` if it is left out. -/
def elementType (type : String) : String := if type = "" then "f32" else type

/-- The permutation option that checks the bounds of buffer accesses. -/
def boundsCheckOption : String := "BUFFER_BOUNDS_CHECK"

/-- The declaration of a parameter in code: its group, binding, address space, name and type. -/
def parameterDeclaration (group binding : UInt32) (space name type : String) : String :=
  "@group(" ++ toString group.toNat ++ ") @binding(" ++ toString binding.toNat ++ ") var<" ++
    space ++ "> " ++ name ++ ": " ++ type ++ ";"

/-- A uniform parameter and a function that reads it. -/
def uniformReader (scope : Scope) (parameter reader type : String) :
    Except UndeclaredParameter String :=
  (scope.requireBinding parameter).map fun binding =>
    parameterDeclaration scope.group binding "uniform" (scope.symbol parameter) type ++ "\nfn " ++
      scope.symbol reader ++ "() -> " ++ type ++ " \x7b return " ++ scope.symbol parameter ++
      "; \x7d\n"

/-- The interface that supplies the number of threads. -/
def executionInterface (threads : UInt32) : Interface where
  className := "Execution"
  inputs := [{ name := "ReadNumThreads", result := "u32" }]
  source scope := uniformReader scope "NumThreads" "ReadNumThreads" "u32"
  parameters _ := [⟨"NumThreads", "u32", .uniform, 4⟩]
  hashFragment := "Execution" ++ toString threads.toNat
  isExecution := true
  unified := true
  provider := .ok (some (.execution threads none))

/-- Fills the buffer template in. -/
def bufferSource (type : String) (scope : Scope) : Except UndeclaredParameter String :=
  match scope.requireBinding "NumValues", scope.requireBinding "Values" with
  | .error e, _ => .error e
  | .ok _, .error e => .error e
  | .ok numValues, .ok values =>
    .ok (Text.replaceEach
      [("\x7buid\x7d", scope.uid),
       ("\x7btype\x7d", type),
       ("\x7bgroup\x7d", toString scope.group.toNat),
       ("\x7bnum_values_binding\x7d", toString numValues.toNat),
       ("\x7bvalues_binding\x7d", toString values.toNat)]
      Builtin.bufferTemplateText)

/-- The interface of a typed storage buffer. -/
def bufferInterface (b : BufferSpec) : Interface :=
  let type := elementType b.type
  { className := "Buffer"
    inputs :=
      [{ name := "ReadNumValues", result := "u32" },
       { name := "ReadValue", result := type, params := [{ type := "u32" }] }]
    outputs := [{ name := "WriteValue", params := [{ type := "u32" }, { type }] }]
    virtualPath := VirtualPath.bufferTemplate
    source := bufferSource type
    structs := fun seen =>
      if b.struct = "" || seen.contains type then ([], seen) else ([b.struct], seen ++ [type])
    permutations := fun v => v.addBool boundsCheckOption
    hashedFiles := [⟨VirtualPath.bufferTemplate, "wgsl"⟩]
    hashFragment := b.struct
    parameters := fun _ =>
      [⟨"NumValues", "u32", .uniform, 4⟩, ⟨"Values", "array<" ++ type ++ ">", .storage, 0⟩]
    unified := b.unified
    readback := b.readback
    preSubmit := b.preSubmit
    postSubmit := b.postSubmit
    provider := .ok (some (.buffer none 0 0)) }

/-- The interface of one uniform value. -/
def constantInterface (c : ConstantSpec) : Interface :=
  let type := elementType c.type
  { className := "Constant"
    inputs := [{ name := "ReadConstant", result := type }]
    source := fun scope => uniformReader scope "Value" "ReadConstant" type
    parameters := fun _ => [⟨"Value", type, .uniform, c.size⟩]
    hashFragment := "Constant" ++ type
    unified := true
    provider := .ok (some (.constant none)) }

namespace Interface

/-- Appends the digest of a file of the built-in registry to a fragment; nothing if it has none. -/
def hashFile (out : String × FileStore) (key : DigestKey) : String × FileStore :=
  let (digest, files) := out.2.digest Builtin.registryId key.path key.format
  (out.1 ++ (digest.toOption.map Digest.toHex).getD "", files)

/-- What the interface appends to a hash key: the digests of its files as they are now, and its own
    fragment.  The store keeps the digests that were taken for it. -/
def fragment (i : Interface) (files : FileStore) : String × FileStore :=
  let (digests, files) := i.hashedFiles.foldl hashFile ("", files)
  (digests ++ i.hashFragment, files)

end Interface

/-- A built-in data interface or any other. -/
inductive DataInterface
  | execution (threads : UInt32)
  | buffer (b : BufferSpec)
  | constant (c : ConstantSpec)
  | custom (i : Interface)

namespace DataInterface

/-- What the interface contributes. -/
def interface : DataInterface → Interface
  | execution threads => executionInterface threads
  | buffer b => bufferInterface b
  | constant c => constantInterface c
  | custom i => i

/-- The unique name of the interface at a slot. -/
def uid (d : DataInterface) (index : Int) : String := uniqueName index d.interface.className

end DataInterface

/-- Binds a provider to an object.  An execution provider takes the thread count of its interface,
    and that of the object if the object has one. -/
def Provider.bind (p : Provider) (d : DataInterface) (object : Option BoundObject)
    (inputs outputs : UInt64) : Provider :=
  match p with
  | .execution threads _ =>
    let threads := match d with
      | .execution n => n
      | _ => threads
    .execution ((object.bind BoundObject.threads).getD threads) object
  | .buffer .. => .buffer object inputs outputs
  | .constant _ => .constant object
  | .recorder _ _ _ count => .recorder object inputs outputs (count + 1)

end KernelGraph
