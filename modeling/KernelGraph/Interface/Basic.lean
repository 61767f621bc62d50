/-
  Data interfaces.

  A data interface adapts an external data source to the kernels of a graph: it declares the
  functions that it can satisfy and contributes the code, definitions, permutations and parameters
  that these functions need.  `Interface` is the record of these contributions; an interface that
  leaves a field out has the default.

  A provider backs an interface for one bound object.
-/
import KernelGraph.Datum
import KernelGraph.Definitions
import KernelGraph.FileStore
import KernelGraph.Function
import KernelGraph.Permutations
import KernelGraph.Scope

namespace KernelGraph

/-- The binding type of a shader parameter. -/
inductive ParameterKind
  | uniform
  | readOnlyStorage
  | storage
  deriving DecidableEq, Repr, Inhabited

namespace ParameterKind

/-- The name of a kind. -/
def name : ParameterKind → String
  | uniform => "uniform"
  | readOnlyStorage => "read-only-storage"
  | storage => "storage"

/-- The kinds, in the order of their codes. -/
def all : List ParameterKind := [uniform, readOnlyStorage, storage]

/-- The name of the kind with a code, or the code in words. -/
def nameOfCode (code : Nat) : String :=
  match all[code]? with
  | some k => k.name
  | none => "ParameterKind(" ++ toString code ++ ")"

/-- The code of a kind's buffer in a bind group layout. -/
def bufferCode : ParameterKind → Nat
  | uniform => 1
  | storage => 2
  | readOnlyStorage => 3

end ParameterKind

/-- A parameter that an interface declares; the size is 0 if it is not known. -/
structure ParameterDecl where
  name : String
  type : String
  kind : ParameterKind
  size : UInt64 := 0
  deriving DecidableEq, Repr, Inhabited

/-- An external object that is bound to a graph. -/
structure BoundObject where
  /-- The name of the object's type in messages. -/
  typeName : String
  value : Datum := .null
  /-- How many threads to dispatch, if the object knows. -/
  threads : Option UInt32 := none

namespace BoundObject

/-- A text as an object. -/
def text (s : String) : BoundObject := { typeName := "string", value := s }

/-- A truth value as an object. -/
def bool (b : Bool) : BoundObject := { typeName := "bool", value := b }

/-- A number as an object. -/
def int (n : Int) : BoundObject := { typeName := "int", value := n }

end BoundObject

/-- What backs an interface for one bound object. -/
inductive Provider
  /-- Sizes the dispatch. -/
  | execution (threads : UInt32) (object : Option BoundObject)
  /-- Knows which functions of a buffer are connected. -/
  | buffer (object : Option BoundObject) (inputs outputs : UInt64)
  /-- The bound object is the value. -/
  | constant (object : Option BoundObject)
  /-- Records how it was initialised. -/
  | recorder (object : Option BoundObject) (inputs outputs : UInt64) (count : Nat)

/-- What an interface contributes to the kernels that it is bound to. -/
structure Interface where
  /-- The type of the interface; a part of every symbol that it emits. -/
  className : String
  /-- Functions that kernels may read through. -/
  inputs : List Function := []
  /-- Functions that kernels may write through. -/
  outputs : List Function := []
  /-- The path of the interface's own template; empty when its code is emitted inline. -/
  virtualPath : String := ""
  /-- The code, with every symbol and binding taken from the scope. -/
  source : Scope → Except UndeclaredParameter String := fun _ => .ok ""
  /-- The declarations of structs not yet seen, and all seen afterwards. -/
  structs : (seen : List String) → List String × List String := fun seen => ([], seen)
  defines : Definitions → Definitions := id
  permutations : PermutationVector → PermutationVector := id
  /-- The files of the built-in registry whose digests go into the hash key. -/
  hashedFiles : List DigestKey := []
  /-- What affects the compiled code besides and is not visible in the source. -/
  hashFragment : String := ""
  /-- The parameters, given the unique name of the interface. -/
  parameters : (uid : String) → List ParameterDecl := fun _ => []
  /-- The interface drives the dispatch of the kernels bound to it. -/
  isExecution : Bool := false
  /-- One dispatch can cover all of the interface's data. -/
  unified : Bool := false
  readback : Bool := false
  preSubmit : Bool := false
  postSubmit : Bool := false
  /-- Creates a provider; the error is the interface's own words. -/
  provider : Except String (Option Provider) := .ok none

/-- The unique name of the interface at a slot. -/
def uniqueName (index : Int) (className : String) : String :=
  "DI" ++ toString index ++ "_" ++ className

end KernelGraph
