/-
  Function signatures that kernels and data interfaces are connected through.
-/
import KernelGraph.Text.Lines
import KernelGraph.Text.Substring

namespace KernelGraph

/-- The direction of a parameter. -/
inductive Modifier
  | none
  | input
  | output
  | inout
  deriving DecidableEq, Repr, Inhabited

namespace Modifier

/-- The keyword of a direction, empty for a parameter passed by value. -/
def keyword : Modifier → String
  | none => ""
  | input => "in"
  | output => "out"
  | inout => "inout"

/-- The directions, in the order of their codes. -/
def all : List Modifier := [none, input, output, inout]

/-- The code of a direction. -/
def code : Modifier → Nat
  | none => 0
  | input => 1
  | output => 2
  | inout => 3

/-- Reads a direction: case and surrounding blanks do not matter, blank text is no direction. -/
def parse? (s : String) : Option Modifier :=
  let word := Text.lower (Text.trim s)
  all.find? fun m => m.keyword = word

end Modifier

/-- One typed parameter. -/
structure Param where
  type : String
  modifier : Modifier := .none
  deriving DecidableEq, Repr, Inhabited

/-- A typed function signature; an empty result type means that nothing is returned. -/
structure Function where
  name : String
  result : String := ""
  params : List Param := []
  deriving DecidableEq, Repr, Inhabited

namespace Function

/-- True when the function returns a value. -/
def hasResult (f : Function) : Bool := f.result ≠ ""

/-- The result type, `void` for none. -/
def resultText (f : Function) : String := if f.hasResult then f.result else "void"

/-- A direction's keyword and a blank, or nothing. -/
def modifierText (p : Param) : String :=
  if p.modifier.keyword = "" then "" else p.modifier.keyword ++ " "

/-- The signature for diagnostics, for instance `f32 ReadValue(u32)`. -/
def signature (f : Function) : String :=
  f.resultText ++ " " ++ f.name ++ "(" ++
    ", ".intercalate (f.params.map fun p => modifierText p ++ p.type) ++ ")"

/-- The name that a data interface's function has inside a kernel: its own name and the unique name
    of the interface. -/
def implName (f : Function) (uid : String) : String := f.name ++ "_" ++ uid

/-- The name of parameter `i` of a wrapper; the number 0 is left for the result. -/
def paramName (wrap : Function) (i : Nat) : String :=
  "P" ++ toString (if wrap.hasResult then i + 1 else i)

/-- The names of a wrapper's parameters. -/
def paramNames (wrap : Function) : List String :=
  (List.range wrap.params.length).map wrap.paramName

/-- How many leading parameters of the wrapper the implementation takes. -/
def forwardCount (impl wrap : Function) : Nat := min impl.params.length wrap.params.length

/-- The wrapper's parameters that are passed on to the implementation. -/
def forwarded (impl wrap : Function) : List String :=
  (List.range (forwardCount impl wrap)).map wrap.paramName

end Function

end KernelGraph
