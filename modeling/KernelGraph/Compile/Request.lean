/-
  Compile requests.

  A request describes one permutation of a kernel.  Its compilation unit consists of the
  definitions, the constants of the group size and the kernel wrapper, in which the assembled kernel
  source and everything it includes is expanded.
-/
import KernelGraph.Definitions
import KernelGraph.Dialect
import KernelGraph.Include.Expansion

namespace KernelGraph

/-- The size of a dispatch group. -/
structure GroupSize where
  x : UInt32 := 0
  y : UInt32 := 0
  z : UInt32 := 0
  deriving DecidableEq, Repr, Inhabited

namespace GroupSize

/-- The size along each axis. -/
def axes (g : GroupSize) : List (String × UInt32) := [("X", g.x), ("Y", g.y), ("Z", g.z)]

/-- True when no size is given. -/
def isUnset (g : GroupSize) : Bool := g = {}

end GroupSize

/-- One permutation of a kernel to compile. -/
structure Request where
  /-- The kernel's name in diagnostics. -/
  friendlyName : String := ""
  entryPoint : String := ""
  groupSize : GroupSize := {}
  /-- The assembled kernel source. -/
  source : String := ""
  /-- Generated and additional sources by virtual path. -/
  includes : List (String × String) := []
  /-- Resolves every other include. -/
  files : Include.Resolver
  /-- Replaces the path of the kernel wrapper, if not empty. -/
  wrapperPath : String := ""
  definitions : List Define := []
  permutation : Int64 := 0

/-- A compilation unit that cannot be expanded. -/
structure ExpansionError where
  friendlyName : String
  cause : Include.Error
  deriving DecidableEq

/-- The message of the error. -/
def ExpansionError.message (e : ExpansionError) : String :=
  "backend: " ++ e.friendlyName ++ ": " ++ e.cause.message

namespace Request

/-- The sources that the request sees: its own, then its includes, then the registry's. -/
def resolver (r : Request) : Include.Resolver :=
  ((Include.Resolver.ofList [(VirtualPath.generatedKernel, r.source)]).orElse
    (Include.Resolver.ofList r.includes)).orElse r.files

/-- The wrapper's path. -/
def wrapper (r : Request) : String :=
  if r.wrapperPath = "" then VirtualPath.kernelWrapper else r.wrapperPath

/-- The constants of the group size; a zero along one axis counts as one. -/
def groupDefines (r : Request) : List Define :=
  if r.groupSize.isUnset then []
  else r.groupSize.axes.map fun (axis, n) =>
    ⟨"THREADGROUP_SIZE_" ++ axis, toString (max n 1).toNat⟩

/-- The compilation unit before includes are expanded. -/
def header (r : Request) (d : Dialect) : String :=
  String.join ((r.definitions ++ r.groupDefines).map fun x => d.define x.name x.value) ++
    d.includeLine r.wrapper

/-- The compilation unit of the request. -/
def expand (r : Request) (d : Dialect) : Except ExpansionError String :=
  (Include.expand r.resolver (r.header d)).mapError fun e => ⟨r.friendlyName, e⟩

end Request

end KernelGraph
