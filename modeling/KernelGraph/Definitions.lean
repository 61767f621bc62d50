/-
  Compile-time definitions.

  A definition set is a list of named values.  The first insertion of a name fixes its place, a
  later one replaces its value, so the names stay distinct and in order of first insertion.
  `Definitions.listing` is the canonical text that goes into hash keys.
-/

namespace KernelGraph

/-- One compile-time definition; the value is empty for a flag. -/
structure Define where
  name : String
  value : String
  deriving DecidableEq, Repr, Inhabited

/-- An ordered set of definitions keyed by name. -/
structure Definitions where
  toList : List Define := []
  deriving DecidableEq, Repr, Inhabited

namespace Definitions

/-- The set without definitions. -/
def empty : Definitions := {}

/-- Replaces the value of `name` in place, or appends it. -/
def setList (name value : String) : List Define → List Define
  | [] => [⟨name, value⟩]
  | d :: ds => if d.name = name then ⟨name, value⟩ :: ds else d :: setList name value ds

/-- Adds or replaces the definition called `name`. -/
def set (s : Definitions) (name value : String) : Definitions := ⟨setList name value s.toList⟩

/-- Adds a list of definitions one after the other. -/
def setAll (s : Definitions) (ds : List Define) : Definitions :=
  ds.foldl (fun s d => s.set d.name d.value) s

/-- Copies every definition of `o` into `s`. -/
def merge (s o : Definitions) : Definitions := s.setAll o.toList

/-- The value of a name. -/
def lookup? (s : Definitions) (name : String) : Option String :=
  (s.toList.find? fun d => d.name = name).map Define.value

/-- The number of definitions. -/
def size (s : Definitions) : Nat := s.toList.length

/-- Every definition as `NAME=VALUE;`, in order. -/
def listing (s : Definitions) : String :=
  String.join (s.toList.map fun d => d.name ++ "=" ++ d.value ++ ";")

end Definitions

end KernelGraph
