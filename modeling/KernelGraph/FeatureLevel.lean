/-
  Feature levels: the capability tiers that a kernel program is compiled for.

  A level is a byte; three of the values are defined and have names.
-/
import KernelGraph.Text.Quoted
import KernelGraph.Text.Substring

namespace KernelGraph

/-- The capability tier of a compiled program. -/
structure FeatureLevel where
  code : UInt8
  deriving DecidableEq, Repr, Inhabited

namespace FeatureLevel

/-- Mobile-class compute. -/
def es31 : FeatureLevel := ⟨0⟩

/-- Shader model 5 class hardware. -/
def sm5 : FeatureLevel := ⟨1⟩

/-- Shader model 6 class hardware. -/
def sm6 : FeatureLevel := ⟨2⟩

/-- The names of the defined levels, in the order of their codes. -/
def names : List String := ["es31", "sm5", "sm6"]

/-- True for a defined level. -/
def isValid (l : FeatureLevel) : Bool := l.code.toNat < names.length

/-- The short name, or the code in words for a level that is not defined. -/
def name (l : FeatureLevel) : String :=
  match names[l.code.toNat]? with
  | some n => n
  | none => "FeatureLevel(" ++ toString l.code.toNat ++ ")"

/-- The level with the given name, whatever the case of its letters. -/
def parse? (s : String) : Option FeatureLevel :=
  (names.findIdx? (Text.equalFold s)).map fun i => ⟨i.toUInt8⟩

/-- The message for a name that no level has. -/
def unknownMessage (s : String) : String := "shader: unknown feature level " ++ Text.quoted s

end FeatureLevel

end KernelGraph
