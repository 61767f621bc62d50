/-
  Virtual paths: the addresses of shader sources.

  Sources that are produced while a kernel is built live under one root, those of data interfaces
  under a folder of it that carries the interface's unique name.
-/
import KernelGraph.Text.Substring

namespace KernelGraph.VirtualPath

/-- Every path produced at build time begins with this. -/
def generatedRoot : String := "/ComputeGraph/Generated/"

/-- Paths of generated data interface sources begin with this. -/
def interfaceRoot : String := generatedRoot ++ "DataInterface/"

/-- Where the assembled source of a kernel stands while it is compiled. -/
def generatedKernel : String := generatedRoot ++ "ComputeKernel.wgsl"

/-- The shared wrapper that every kernel is compiled through. -/
def kernelWrapper : String := "/ComputeGraph/Private/ComputeKernel.wgsl"

/-- Where the built-in typed buffer's template stands. -/
def bufferTemplate : String := "/ComputeGraph/DataInterface/Buffer.wgsl"

/-- The path under which the source of the interface `uid` is compiled. -/
def generated (uid path : String) : String := interfaceRoot ++ uid ++ path

/-- True for a path under the root of generated sources. -/
def isGenerated (path : String) : Bool := Text.startsWith path generatedRoot

/-- The interface's own path behind a generated path. -/
def stripGenerated? (path : String) : Option String :=
  match Text.dropFront? interfaceRoot.toList path.toList with
  | none => none
  | some rest =>
    match rest.dropWhile (· ≠ '/') with
    | [] => none
    | own => some (String.ofList own)

/-- A path as it is shown to a reader: a generated interface path by the interface's own path. -/
def display (path : String) : String := (stripGenerated? path).getD path

end KernelGraph.VirtualPath
