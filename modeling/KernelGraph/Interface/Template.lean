/-
  Interfaces described by data.

  A template is an interface whose code is a text with placeholders: the unique name, the group and
  the binding of every declared parameter are filled in, in this order.
-/
import KernelGraph.Interface.Builtin

namespace KernelGraph

/-- How the provider of a template comes about. -/
inductive ProviderMode
  | recording
  | missing
  | failing (text : String)
  deriving DecidableEq

/-- An interface described by data. -/
structure Template where
  className : String
  inputs : List Function := []
  outputs : List Function := []
  virtualPath : String := ""
  text : String := ""
  /-- A parameter that has to be declared. -/
  required : String := ""
  /-- Struct declarations by name. -/
  structs : List (String × String) := []
  defines : List Define := []
  permutations : List PermutationOption := []
  hashFragment : String := ""
  parameters : List ParameterDecl := []
  isExecution : Bool := false
  unified : Bool := false
  readback : Bool := false
  preSubmit : Bool := false
  postSubmit : Bool := false
  provider : ProviderMode := .recording

namespace Template

/-- The placeholder for the unique name. -/
def uidMark : String := "\x7buid\x7d"

/-- The text with the unique name, the group and the bindings filled in. -/
def fill (t : Template) (scope : Scope) : String :=
  let text := Text.replaceAll t.text uidMark scope.uid
  let text := Text.replaceAll text "\x7bgroup\x7d" (toString scope.group.toNat)
  t.parameters.foldl (fun text p =>
    match scope.binding? p.name with
    | none => text
    | some b => Text.replaceAll text ("\x7bb:" ++ p.name ++ "\x7d") (toString b.toNat)) text

/-- Adds the declarations of structs that have not been seen. -/
def declareStructs (structs : List (String × String)) (seen : List String) :
    List String × List String :=
  structs.foldl (fun (out, seen) (name, declaration) =>
    if seen.contains name then (out, seen) else (out ++ [declaration], seen ++ [name])) ([], seen)

/-- The interface that a template describes. -/
def interface (t : Template) : Interface where
  className := t.className
  inputs := t.inputs
  outputs := t.outputs
  virtualPath := t.virtualPath
  source scope :=
    if t.required = "" then .ok (t.fill scope)
    else (scope.requireBinding t.required).map fun _ => t.fill scope
  structs := declareStructs t.structs
  defines ds := ds.setAll t.defines
  permutations v := v.addAll t.permutations
  hashFragment := t.hashFragment
  parameters uid := t.parameters.map fun p =>
    { p with type := Text.replaceAll p.type uidMark uid }
  isExecution := t.isExecution
  unified := t.unified
  readback := t.readback
  preSubmit := t.preSubmit
  postSubmit := t.postSubmit
  provider :=
    match t.provider with
    | .recording => .ok (some (.recorder none 0 0 0))
    | .missing => .ok none
    | .failing text => .error text

end Template

end KernelGraph
