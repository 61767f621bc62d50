/-
  The syntax of graph files: expressions and blocks.

  An expression is evaluated without variables.  The name of an object's field stands for itself;
  everywhere else a name has no value.
-/
import KernelGraph.Value

namespace KernelGraph.GraphFile

/-- An arithmetic operator. -/
inductive Operator
  | add
  | sub
  | mul
  | div
  | mod
  deriving DecidableEq, Repr

/-- The result of an operator, if it has one.  The remainder has the sign of the first operand. -/
def Operator.result? (op : Operator) (a b : Number) : Option Number :=
  match op with
  | add => a.add? Number.precision b
  | sub => a.sub? Number.precision b
  | mul => a.mul? Number.precision b
  | div => a.div? Number.precision b
  | mod => a.mod? Number.precision b

/-- An expression. -/
inductive Expr
  | null
  | bool (b : Bool)
  | number (n : Number)
  | text (s : String)
  | name (s : String)
  /-- An expression in parentheses. -/
  | group (e : Expr)
  | negate (e : Expr)
  | binary (op : Operator) (a b : Expr)
  | tuple (items : List Expr)
  | object (items : List (Expr × Expr))

namespace Expr

/-- The field that a name stands for in an object. -/
def fieldName? : Expr → Option String
  | null => some "null"
  | bool b => some (if b then "true" else "false")
  | name s => some (Text.normal s)
  | _ => none

/-- Replaces or appends the value of a field. -/
def putField (name : String) (v : Value) : List (String × Value) → List (String × Value)
  | [] => [(name, v)]
  | (n, w) :: rest => if n = name then (n, v) :: rest else (n, w) :: putField name v rest

mutual

/-- The value of an expression, if it has one. -/
def eval : Expr → Option Value
  | null => some .null
  | bool b => some (.bool b)
  | number n => some (.number n)
  | text s => some (.ofText s)
  | name _ => none
  | group e => eval e
  | negate e =>
    match eval e with
    | none => none
    | some v => v.number?.map fun n => .number n.neg
  | binary op a b =>
    match eval a, eval b with
    | some v, some w =>
      match v.number?, w.number? with
      | some m, some n => (op.result? m n).map .number
      | _, _ => none
    | _, _ => none
  | tuple items => (evalAll items).map .tuple
  | object items => (evalFields items []).map .object

/-- The values of expressions. -/
def evalAll : List Expr → Option (List Value)
  | [] => some []
  | e :: rest =>
    match eval e, evalAll rest with
    | some v, some vs => some (v :: vs)
    | _, _ => none

/-- The fields of an object; of two fields with one name the later counts. -/
def evalFields : List (Expr × Expr) → List (String × Value) → Option (List (String × Value))
  | [], fields => some fields
  | (k, e) :: rest, fields =>
    let key := match fieldName? k with
      | some s => some s
      | none => (eval k).bind Value.text?
    match key, eval e with
    | some s, some v => evalFields rest (putField s v fields)
    | _, _ => none

end

end Expr

/-- A block: its type and labels, attributes and nested blocks in order. -/
structure Block where
  type : String
  labels : List String
  attributes : List (String × Expr)
  blocks : List Block

end KernelGraph.GraphFile
