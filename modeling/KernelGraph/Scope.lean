/-
  Scopes: the naming and binding context of one data interface inside a kernel.

  Every symbol that an interface emits is suffixed with the interface's unique name, so that one
  type of interface can be bound more than once.
-/

namespace KernelGraph

/-- A unique name, a bind group and the binding slots of the declared parameters. -/
structure Scope where
  uid : String := ""
  group : UInt32 := 0
  bindings : List (String × UInt32) := []
  deriving DecidableEq, Repr, Inhabited

/-- A parameter that was never declared. -/
structure UndeclaredParameter where
  parameter : String
  uid : String
  deriving DecidableEq

/-- The message of the error. -/
def UndeclaredParameter.message (e : UndeclaredParameter) : String :=
  "shader: parameter " ++ e.parameter ++ " not declared in scope " ++ e.uid

namespace Scope

/-- The symbol of a local name. -/
def symbol (s : Scope) (name : String) : String := name ++ "_" ++ s.uid

/-- The binding slot of a local parameter. -/
def binding? (s : Scope) (name : String) : Option UInt32 := s.bindings.lookup name

/-- The binding slot of a parameter that has to be declared. -/
def requireBinding (s : Scope) (name : String) : Except UndeclaredParameter UInt32 :=
  match s.binding? name with
  | some b => .ok b
  | none => .error ⟨name, s.uid⟩

end Scope

end KernelGraph
