/-
  The shader sources that come with the library: the wrapper that every kernel is compiled through,
  and the template of the typed buffer.
-/
import KernelGraph.FileStore

namespace KernelGraph.Builtin

/-- The lines of the kernel wrapper. -/
def kernelWrapperLines : List String := [
  "// Shared wrapper for compute graph kernels.\n",
  "//\n",
  "// The compiler back end emits the kernel definitions and permutation values\n",
  "// ahead of this file, then the assembled kernel source is pulled in below.\n",
  "// Kernels declare their own @compute entry point.\n",
  "\n",
  "#include \"/ComputeGraph/Generated/ComputeKernel.wgsl\"\n"]

/-- The kernel wrapper; it pulls in the assembled kernel source. -/
def kernelWrapperText : String := String.join kernelWrapperLines

/-- The lines of the typed buffer's template. -/
def bufferTemplateLines : List String := [
  "// Typed storage buffer. Every symbol is suffixed with the unique name of\n",
  "// the interface; the element type, group and binding slots come from the\n",
  "// kernel parameter layout. BUFFER_BOUNDS_CHECK is a permutation option.\n",
  "\n",
  "@group(\x7bgroup\x7d) @binding(\x7bnum_values_binding\x7d) " ++
    "var<uniform> NumValues_\x7buid\x7d: u32;\n",
  "@group(\x7bgroup\x7d) @binding(\x7bvalues_binding\x7d) " ++
    "var<storage, read_write> Values_\x7buid\x7d: array<\x7btype\x7d>;\n",
  "\n",
  "fn ReadNumValues_\x7buid\x7d() -> u32 \x7b\n",
  "    return NumValues_\x7buid\x7d;\n",
  "\x7d\n",
  "\n",
  "fn ReadValue_\x7buid\x7d(index: u32) -> \x7btype\x7d \x7b\n",
  "    if (BUFFER_BOUNDS_CHECK != 0) \x7b\n",
  "        return Values_\x7buid\x7d[min(index, max(NumValues_\x7buid\x7d, 1u) - 1u)];\n",
  "    \x7d\n",
  "    return Values_\x7buid\x7d[index];\n",
  "\x7d\n",
  "\n",
  "fn WriteValue_\x7buid\x7d(index: u32, value: \x7btype\x7d) \x7b\n",
  "    if (BUFFER_BOUNDS_CHECK != 0 && index >= NumValues_\x7buid\x7d) \x7b\n",
  "        return;\n",
  "    \x7d\n",
  "    Values_\x7buid\x7d[index] = value;\n",
  "\x7d\n"]

/-- The typed buffer's template.  The words in braces are filled in for every buffer. -/
def bufferTemplateText : String := String.join bufferTemplateLines

/-- The built-in sources by virtual path. -/
def sources : List (String × String) :=
  [(VirtualPath.kernelWrapper, kernelWrapperText), (VirtualPath.bufferTemplate, bufferTemplateText)]

/-- The number of the built-in registry in a store made by `store`. -/
def registryId : Nat := 0

/-- A store that holds the built-in registry. -/
def store : FileStore := ⟨#[{ sources }]⟩

end KernelGraph.Builtin
