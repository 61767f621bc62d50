/-
  Creating data interfaces from attributes.

  A factory knows its attributes; others are rejected.  Attributes are optional, a null value counts
  as left out, and values are not converted.  Factories are registered by the name of the type that
  they create; the library brings three along.
-/
import KernelGraph.Compile.Compiler
import KernelGraph.Interface.Builtin
import KernelGraph.Number.Basic
import KernelGraph.Value

namespace KernelGraph

/-- Why an interface cannot be created. -/
inductive FactoryError
  | unknownType (name : String)
  | unknownAttribute (kind name : String)
  | wrongType (name wanted found : String)
  | notUInt32 (name : String)
  deriving DecidableEq

namespace FactoryError

/-- The message of the error. -/
def message : FactoryError → String
  | unknownType name => "datainterface: unknown type " ++ Text.quoted name ++ " (forgotten import?)"
  | unknownAttribute kind name => invalid ++ kind ++ " has no attribute " ++ Text.quoted name
  | wrongType name wanted found =>
    invalid ++ name ++ " must be a " ++ wanted ++ ", got " ++ found
  | notUInt32 name => invalid ++ name ++ " must be a whole number in uint32 range"
where
  /-- How every rejection of an attribute begins. -/
  invalid : String := "datainterface: invalid attribute: "

end FactoryError

/-- Attributes by name. -/
abbrev Attributes := List (String × Value)

namespace Factory

/-- Rejects attributes that are not known. -/
def checkKnown (kind : String) (attrs : Attributes) (known : List String) :
    Except FactoryError Unit :=
  match attrs.find? fun (name, _) => !known.contains name with
  | some (name, _) => .error (.unknownAttribute kind name)
  | none => .ok ()

/-- The value of an attribute that is neither left out nor null. -/
def given? (attrs : Attributes) (name : String) : Option Value :=
  match attrs.lookup name with
  | none | some .null => none
  | some v => some v

/-- A text attribute. -/
def text (attrs : Attributes) (name default : String) : Except FactoryError String :=
  match given? attrs name with
  | none => .ok default
  | some (.text s) => .ok s
  | some v => .error (.wrongType name "string" v.typeName)

/-- A truth value, false if left out. -/
def bool (attrs : Attributes) (name : String) : Except FactoryError Bool :=
  match given? attrs name with
  | none => .ok false
  | some (.bool b) => .ok b
  | some v => .error (.wrongType name "bool" v.typeName)

/-- A whole number of 32 bits. -/
def uint32 (attrs : Attributes) (name : String) (default : UInt32) :
    Except FactoryError UInt32 :=
  match given? attrs name with
  | none => .ok default
  | some (.number n) =>
    match n.whole? 32 with
    | some k => if 0 ≤ k then .ok k.toNat.toUInt32 else .error (.notUInt32 name)
    | none => .error (.notUInt32 name)
  | some v => .error (.wrongType name "number" v.typeName)

/-- Creates an execution interface. -/
def execution (attrs : Attributes) : Except FactoryError DataInterface := do
  checkKnown "execution" attrs ["threads"]
  return .execution (← uint32 attrs "threads" 1)

/-- Creates a buffer. -/
def buffer (attrs : Attributes) : Except FactoryError DataInterface := do
  checkKnown "buffer" attrs ["type", "struct", "readback", "pre_submit", "post_submit", "unified"]
  let type ← text attrs "type" "f32"
  let struct ← text attrs "struct" ""
  let readback ← bool attrs "readback"
  let preSubmit ← bool attrs "pre_submit"
  let postSubmit ← bool attrs "post_submit"
  let unified ← bool attrs "unified"
  return .buffer { type, struct, readback, preSubmit, postSubmit, unified }

/-- Creates a constant. -/
def constant (attrs : Attributes) : Except FactoryError DataInterface := do
  checkKnown "constant" attrs ["type", "size"]
  let type ← text attrs "type" "f32"
  let size ← uint32 attrs "size" 4
  return .constant { type, size := size.toUInt64 }

end Factory

/-- Factories by type name. -/
abbrev Factories := Formats (Attributes → Except FactoryError DataInterface)

/-- Creates an interface of the named type. -/
def Factories.create (factories : Factories) (type : String) (attrs : Attributes) :
    Except FactoryError DataInterface :=
  match factories.entries.lookup type with
  | none => .error (.unknownType type)
  | some factory => factory attrs

namespace Factory

/-- The factories that the library brings along. -/
def standard : Factories :=
  ⟨[("execution", execution), ("buffer", buffer), ("constant", constant)]⟩

/-- Creates an interface of the named type with the standard factories. -/
def create (type : String) (attrs : Attributes) : Except FactoryError DataInterface :=
  Factories.create standard type attrs

end Factory

end KernelGraph
