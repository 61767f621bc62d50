/-
  Permutation spaces of a kernel.

  An option is one axis with at least two values.  The options of a vector, in order of insertion,
  are the digits of a mixed-radix number: the first option is the least significant digit, and the
  number is the id of the permutation.  Counts, strides and ids are 64-bit words and wrap.
-/
import KernelGraph.Definitions
import KernelGraph.Text.Quoted

namespace KernelGraph

/-- One axis of a permutation space. -/
structure PermutationOption where
  name : String
  count : Int64
  deriving DecidableEq, Inhabited

/-- Why values or an id do not fit a permutation vector. -/
inductive PermutationError
  | noOptions
  | unknownOption (name : String)
  | valueOutOfRange (name : String) (value count : Int64)
  | idOutOfRange (id count : Int64)
  deriving DecidableEq

namespace PermutationError

/-- The message of the error. -/
def message (e : PermutationError) : String :=
  "shader: invalid permutation: " ++
    match e with
    | noOptions => "vector has no options"
    | unknownOption name => "unknown option " ++ Text.quoted name
    | valueOutOfRange name value count =>
      "option " ++ Text.quoted name ++ " value " ++ toString value.toInt ++ " out of range [0," ++
        toString count.toInt ++ ")"
    | idOutOfRange id count =>
      "id " ++ toString id.toInt ++ " out of range [0," ++ toString count.toInt ++ ")"

end PermutationError

/-- The options of a permutation space in encoding order. -/
structure PermutationVector where
  options : List PermutationOption := []
  deriving DecidableEq, Inhabited

namespace PermutationVector

/-- The vector without options. -/
def empty : PermutationVector := {}

/-- Raises the count of the option `name` in place, or appends it. -/
def addList (name : String) (count : Int64) : List PermutationOption → List PermutationOption
  | [] => [⟨name, count⟩]
  | o :: os =>
    if o.name = name then ⟨name, max o.count count⟩ :: os else o :: addList name count os

/-- Adds an option.  Counts below two are raised to two; an option that exists keeps its place and
    takes the larger count. -/
def add (v : PermutationVector) (name : String) (count : Int64) : PermutationVector :=
  ⟨addList name (max count 2) v.options⟩

/-- Adds an option with two values. -/
def addBool (v : PermutationVector) (name : String) : PermutationVector := v.add name 2

/-- Adds every option of a list. -/
def addAll (v : PermutationVector) (os : List PermutationOption) : PermutationVector :=
  os.foldl (fun v o => v.add o.name o.count) v

/-- The size of the space as a word: the product of the counts, wrapped. -/
def count (v : PermutationVector) : Int64 :=
  v.options.foldl (fun n o => n * o.count) 1

/-- The size of the space without wrapping. -/
def exactCount (v : PermutationVector) : Int :=
  v.options.foldl (fun n o => n * o.count.toInt) 1

/-- The value selected for an option; options that are not named take 0. -/
def selected (values : List (String × Int64)) (name : String) : Int64 :=
  (values.lookup name).getD 0

/-- Sums the selected digits, each times the product of the counts before it. -/
def encode (values : List (String × Int64)) :
    List PermutationOption → Int64 → Int64 → Except PermutationError Int64
  | [], id, _ => .ok id
  | o :: os, id, stride =>
    let value := selected values o.name
    if value < 0 || o.count ≤ value then .error (.valueOutOfRange o.name value o.count)
    else encode values os (id + value * stride) (stride * o.count)

/-- The id of the permutation with the given option values. -/
def idOf (v : PermutationVector) (values : List (String × Int64)) :
    Except PermutationError Int64 :=
  match values.find? fun (name, _) => !v.options.any fun o => o.name = name with
  | some (name, _) => .error (.unknownOption name)
  | none => encode values v.options 0 1

/-- The digits of an id, as one definition per option. -/
def decode : List PermutationOption → Int64 → List Define
  | [], _ => []
  | o :: os, id => ⟨o.name, toString (id % o.count).toInt⟩ :: decode os (id / o.count)

/-- The option values of a permutation id. -/
def values (v : PermutationVector) (id : Int64) : Except PermutationError (List Define) :=
  if id < 0 || v.count ≤ id then .error (.idOutOfRange id v.count)
  else .ok (decode v.options id)

/-- Every option as `NAME:COUNT;`, in order. -/
def listing (v : PermutationVector) : String :=
  String.join (v.options.map fun o => o.name ++ ":" ++ toString o.count.toInt ++ ";")

/-! ## Absent vectors

A kernel without a source has no vector.  An absent vector has one permutation and no options. -/

/-- The options of a vector that may be absent. -/
def optionsOf (v : Option PermutationVector) : List PermutationOption :=
  (v.map options).getD []

/-- The id of the permutation with the given values in a vector that may be absent. -/
def idOf? (v : Option PermutationVector) (values : List (String × Int64)) :
    Except PermutationError Int64 :=
  match v with
  | some v => v.idOf values
  | none => if values.isEmpty then .ok 0 else .error .noOptions

/-- The option values of an id in a vector that may be absent. -/
def values? (v : Option PermutationVector) (id : Int64) : Except PermutationError (List Define) :=
  (v.getD empty).values id

end PermutationVector

end KernelGraph
