/-
  Data trees.

  A datum is null, a truth value, a whole number, a text, a list or a record of named fields.
  Descriptions of graphs are read from such trees and reports about them are written as such trees.
  A field that is left out reads as the zero value of its type.
-/

namespace KernelGraph

/-- A tree of plain data. -/
inductive Datum
  | null
  | bool (b : Bool)
  | int (n : Int)
  | text (s : String)
  | list (xs : List Datum)
  | record (fields : List (String × Datum))
  deriving Inhabited

instance : Coe String Datum := ⟨.text⟩
instance : Coe Int Datum := ⟨.int⟩
instance : Coe Nat Datum := ⟨fun n => .int n⟩
instance : Coe Bool Datum := ⟨.bool⟩

namespace Datum

/-- The text of a datum, empty for anything else. -/
def toText : Datum → String
  | text s => s
  | _ => ""

/-- The number of a datum, zero for anything else. -/
def toInt : Datum → Int
  | int n => n
  | _ => 0

/-- The elements of a list, none for anything else. -/
def toList : Datum → List Datum
  | list xs => xs
  | _ => []

/-- The fields of a record, none for anything else. -/
def toFields : Datum → List (String × Datum)
  | record fields => fields
  | _ => []

/-- True for null. -/
def isNull : Datum → Bool
  | null => true
  | _ => false

/-- True for the truth value true. -/
def isTrue : Datum → Bool
  | bool b => b
  | _ => false

/-- A field, null if it is left out. -/
def field (d : Datum) (name : String) : Datum := (d.toFields.lookup name).getD null

/-- True when a field is neither left out nor null. -/
def has (d : Datum) (name : String) : Bool := !(d.field name).isNull

/-- A field that is a text. -/
def textAt (d : Datum) (name : String) : String := (d.field name).toText

/-- A field that is a number. -/
def intAt (d : Datum) (name : String) : Int := (d.field name).toInt

/-- A field that is a natural number. -/
def natAt (d : Datum) (name : String) : Nat := (d.intAt name).toNat

/-- A field that is a truth value. -/
def flagAt (d : Datum) (name : String) : Bool := (d.field name).isTrue

/-- A field that is a list. -/
def listAt (d : Datum) (name : String) : List Datum := (d.field name).toList

/-- A field that is a list of texts. -/
def textsAt (d : Datum) (name : String) : List String := (d.listAt name).map toText

/-- A field that is a record. -/
def fieldsAt (d : Datum) (name : String) : List (String × Datum) := (d.field name).toFields

/-- A list of texts. -/
def ofTexts (xs : List String) : Datum := list (xs.map text)

/-- A list of numbers. -/
def ofInts (xs : List Int) : Datum := list (xs.map int)

/-- A list of two. -/
def pair (a b : Datum) : Datum := list [a, b]

/-- What a function makes of a value, null without one. -/
def ofOption {α : Type} (f : α → Datum) : Option α → Datum
  | some a => f a
  | none => null

/-- A record with more fields. -/
def extend (d : Datum) (more : List (String × Datum)) : Datum := record (d.toFields ++ more)

end Datum

end KernelGraph
