/-
  Attribute values of graph files.

  A text is kept in its composed normal form (`ofText`).  `text?`, `bool?` and `number?` are the
  conversions between primitive values that a declared attribute applies; `typeName` names a value's
  type in messages.
-/
import KernelGraph.Number.Decimal
import KernelGraph.Text.Normal

namespace KernelGraph

/-- An attribute's value. -/
inductive Value
  | null
  | bool (b : Bool)
  | number (n : Number)
  | text (s : String)
  | tuple (vs : List Value)
  | object (fields : List (String × Value))
  /-- A list whose elements are known to be texts. -/
  | texts (vs : List String)
  deriving Inhabited

namespace Value

/-- The value of a text. -/
def ofText (s : String) : Value := text (Text.normal s)

/-- The name of a value's type in messages. -/
def typeName : Value → String
  | null => "dynamic"
  | bool _ => "bool"
  | number _ => "number"
  | text _ => "string"
  | tuple _ => "tuple"
  | object _ => "object"
  | texts _ => "list of string"

/-- A primitive value as text. -/
def text? : Value → Option String
  | text s => some s
  | number n => some n.text
  | bool b => some (if b then "true" else "false")
  | _ => none

/-- A primitive value as a number. -/
def number? : Value → Option Number
  | number n => some n
  | text s => Number.ofText? s
  | _ => none

/-- A primitive value as a truth value. -/
def bool? : Value → Option Bool
  | bool b => some b
  | text s =>
    if s = "true" || s = "1" then some true
    else if s = "false" || s = "0" then some false
    else none
  | _ => none

end Value

end KernelGraph
