/-
  Dialects: how the generated glue code is spelled in one family of shading languages.

  Glue is of three kinds: a shim (a wrapper with a kernel's signature that calls a data interface's
  function), an include line and a definition.  In HLSL a namespace is a block and directions are
  keywords; in WGSL a namespace becomes a part of the name and parameters that are written to become
  function-space pointers.
-/
import KernelGraph.Function
import KernelGraph.Text.Quoted

namespace KernelGraph

/-- A family of shading languages. -/
inductive Dialect
  | hlsl
  | wgsl
  deriving DecidableEq, Repr, Inhabited

/-- A wrapper function to generate: the signature `wrap`, whose body calls `impl` of the interface
    `uid`.  A non-empty `rename` replaces the wrapper's name, a non-empty `scope` qualifies it. -/
structure Shim where
  impl : Function
  wrap : Function
  uid : String
  rename : String := ""
  scope : String := ""
  deriving DecidableEq, Repr, Inhabited

namespace Shim

/-- The wrapper's name before it is qualified. -/
def name (s : Shim) : String := if s.rename = "" then s.wrap.name else s.rename

/-- The call in the wrapper's body, with `return ` in front iff the wrapper returns a value. -/
def call (s : Shim) : String :=
  (if s.wrap.hasResult then "return " else "") ++ s.impl.implName s.uid ++ "(" ++
    ", ".intercalate (Function.forwarded s.impl s.wrap) ++ ");"

/-- The wrapper's parameters with their names. -/
def namedParams (s : Shim) : List (Param × String) := s.wrap.params.zip s.wrap.paramNames

/-- The wrapper in HLSL. -/
def hlsl (s : Shim) : String :=
  let param : Param × String → String := fun (p, n) => Function.modifierText p ++ p.type ++ " " ++ n
  (if s.scope = "" then "" else "namespace " ++ s.scope ++ " \x7b ") ++
    s.wrap.resultText ++ " " ++ s.name ++ "(" ++ ", ".intercalate (s.namedParams.map param) ++
    ") \x7b " ++ s.call ++ (if s.scope = "" then "" else " \x7d") ++ " \x7d\n"

/-- The type of a parameter in WGSL. -/
def wgslType (p : Param) : String :=
  match p.modifier with
  | .output | .inout => "ptr<function, " ++ p.type ++ ">"
  | .none | .input => p.type

/-- The wrapper in WGSL. -/
def wgsl (s : Shim) : String :=
  let param : Param × String → String := fun (p, n) => n ++ ": " ++ wgslType p
  "fn " ++ (if s.scope = "" then "" else s.scope ++ "_") ++ s.name ++ "(" ++
    ", ".intercalate (s.namedParams.map param) ++ ")" ++
    (if s.wrap.hasResult then " -> " ++ s.wrap.result else "") ++ " \x7b " ++ s.call ++ " \x7d\n"

end Shim

namespace Dialect

/-- The name of a dialect. -/
def name : Dialect → String
  | hlsl => "hlsl"
  | wgsl => "wgsl"

/-- The dialects, sorted by name. -/
def all : List Dialect := [hlsl, wgsl]

/-- The dialect with the given name, whatever the case of its letters. -/
def parse? (s : String) : Option Dialect := all.find? fun d => d.name = Text.lower s

/-- The message for a name that no dialect has. -/
def unknownMessage (s : String) : String :=
  "shader: unknown dialect " ++ Text.quoted s ++ " (have " ++ ", ".intercalate (all.map name) ++ ")"

/-- The text of a shim. -/
def shim (d : Dialect) (s : Shim) : String :=
  match d with
  | hlsl => s.hlsl
  | wgsl => s.wgsl

/-- A line that pulls in the file at a virtual path; the same in every dialect. -/
def includeLine (_ : Dialect) (path : String) : String := "\n#include \"" ++ path ++ "\"\n"

/-- The declaration of a compile-time definition; a flag without a value is on. -/
def define (d : Dialect) (name value : String) : String :=
  match d with
  | hlsl => "#define " ++ name ++ (if value = "" then "" else " " ++ value) ++ "\n"
  | wgsl => "const " ++ name ++ " = " ++ (if value = "" then "true" else value) ++ ";\n"

end Dialect

end KernelGraph
