/-
  Parsing graph files.

  A body is a sequence of attributes and blocks, each ended by the end of its line.  A block that
  begins and ends on one line holds at most one attribute and no block.  Inside parentheses and
  brackets the ends of lines do not count; between the fields of an object they separate like a
  comma.  An attribute is given at most once.
-/
import KernelGraph.GraphFile.Syntax
import KernelGraph.GraphFile.Token

namespace KernelGraph.GraphFile.Parser

/-- A reader of tokens: a value and the tokens after it. -/
abbrev Reader (α : Type) := List Token → Option (α × List Token)

/-- The tokens at the next one that counts; ends of lines count only where `ends` says so. -/
def peek (ends : Bool) (ts : List Token) : List Token :=
  if ends then ts else ts.dropWhile (· = .newline)

/-- The operators by level; those of a higher level bind closer. -/
def operator? (level : Nat) (c : Char) : Option Operator :=
  match level, c with
  | 0, '+' => some .add
  | 0, '-' => some .sub
  | 1, '*' => some .mul
  | 1, '/' => some .div
  | 1, '%' => some .mod
  | _, _ => none

/-- The number of operator levels. -/
def levels : Nat := 2

/-- The expression of an identifier. -/
def named (s : String) : Expr :=
  match s with
  | "true" => .bool true
  | "false" => .bool false
  | "null" => .null
  | _ => .name s

mutual

/-- An expression whose operators have at least the given level. -/
def expression : (fuel level : Nat) → (ends : Bool) → Reader Expr
  | 0, _, _, _ => none
  | fuel + 1, level, ends, ts =>
    if levels ≤ level then term fuel ends ts
    else
      match expression fuel (level + 1) ends ts with
      | none => none
      | some (e, ts) => operations fuel level ends e ts

/-- The operators and operands that follow a first operand. -/
def operations : (fuel level : Nat) → (ends : Bool) → Expr → Reader Expr
  | 0, _, _, _, _ => none
  | fuel + 1, level, ends, e, ts =>
    match peek ends ts with
    | .mark c :: rest =>
      match operator? level c with
      | none => some (e, ts)
      | some op =>
        match expression fuel (level + 1) ends rest with
        | none => none
        | some (e', ts) => operations fuel level ends (.binary op e e') ts
    | _ => some (e, ts)

/-- An operand. -/
def term : (fuel : Nat) → (ends : Bool) → Reader Expr
  | 0, _, _ => none
  | fuel + 1, ends, ts =>
    match peek ends ts with
    | .number n :: rest => some (.number n, rest)
    | .quoted s :: rest => some (.text s, rest)
    | .lines s :: rest => some (.text s, rest)
    | .ident s :: rest => some (named s, rest)
    | .mark '-' :: rest => (term fuel ends rest).map fun (e, ts) => (.negate e, ts)
    | .mark '(' :: rest =>
      match expression fuel 0 false rest with
      | none => none
      | some (e, ts) =>
        match peek false ts with
        | .mark ')' :: rest => some (.group e, rest)
        | _ => none
    | .mark '[' :: rest => (elements fuel rest).map fun (es, ts) => (.tuple es, ts)
    | .mark '\x7b' :: rest => (fields fuel rest).map fun (es, ts) => (.object es, ts)
    | _ => none

/-- The elements of a tuple, after its opening bracket. -/
def elements : (fuel : Nat) → Reader (List Expr)
  | 0, _ => none
  | fuel + 1, ts =>
    match peek false ts with
    | .mark ']' :: rest => some ([], rest)
    | ts =>
      match expression fuel 0 false ts with
      | none => none
      | some (e, ts) =>
        match peek false ts with
        | .mark ']' :: rest => some ([e], rest)
        | .mark ',' :: rest => (elements fuel rest).map fun (es, ts) => (e :: es, ts)
        | _ => none

/-- The fields of an object, after its opening brace. -/
def fields : (fuel : Nat) → Reader (List (Expr × Expr))
  | 0, _ => none
  | fuel + 1, ts =>
    match ts with
    | .newline :: rest => fields fuel rest
    | .mark '\x7d' :: rest => some ([], rest)
    | ts =>
      match field fuel ts with
      | none => none
      | some (f, ts) =>
        match ts with
        | .mark '\x7d' :: rest => some ([f], rest)
        | .mark ',' :: rest | .newline :: rest =>
          (fields fuel rest).map fun (fs, ts) => (f :: fs, ts)
        | _ => none

/-- One field of an object. -/
def field : (fuel : Nat) → Reader (Expr × Expr)
  | 0, _ => none
  | fuel + 1, ts =>
    match expression fuel 0 true ts with
    | some (k, .mark '=' :: rest) | some (k, .mark ':' :: rest) =>
      (expression fuel 0 true rest).map fun (e, ts) => ((k, e), ts)
    | _ => none

end

/-- The labels of a block up to its opening brace. -/
def labels : Reader (List String)
  | .mark '\x7b' :: rest => some ([], rest)
  | .ident s :: rest | .quoted s :: rest => (labels rest).map fun (ls, ts) => (s :: ls, ts)
  | _ => none

/-- True at the end of a line or of the file. -/
def atLineEnd : List Token → Bool
  | [] => true
  | t :: _ => t = .newline

/-- The attributes and blocks of a body. -/
structure Body where
  attributes : List (String × Expr) := []
  blocks : List Block := []

/-- The only attribute of a block that stands on one line. -/
def singleAttribute (fuel : Nat) : Reader Body
  | .ident name :: .mark '=' :: rest =>
    match expression fuel 0 true rest with
    | some (e, .mark '\x7d' :: ts) => some ({ attributes := [(name, e)] }, ts)
    | _ => none
  | _ => none

/-- Reads a body up to its closing brace, or up to the end of the file when it is not `nested`. -/
def body : (fuel : Nat) → (nested : Bool) → Body → Reader Body
  | 0, _, _, _ => none
  | fuel + 1, nested, b, ts =>
    match ts with
    | [] => if nested then none else some (b, [])
    | .newline :: rest => body fuel nested b rest
    | .mark '\x7d' :: rest => if nested then some (b, rest) else none
    | .ident name :: .mark '=' :: rest =>
      match expression fuel 0 true rest with
      | none => none
      | some (e, ts) =>
        if atLineEnd ts && !b.attributes.any (fun a => a.1 = name) then
          body fuel nested { b with attributes := b.attributes ++ [(name, e)] } ts
        else none
    | .ident type :: rest =>
      match labels rest with
      | none => none
      | some (labels, inner) =>
        let parsed := if atLineEnd inner || inner.head? = some (.mark '\x7d') then
            body fuel true {} inner
          else singleAttribute fuel inner
        match parsed with
        | none => none
        | some (c, ts) =>
          if atLineEnd ts then
            body fuel nested
              { b with blocks := b.blocks ++ [⟨type, labels, c.attributes, c.blocks⟩] } ts
          else none
    | _ => none

/-- How many nested calls a token can cause at most. -/
def callsPerToken : Nat := 6

/-- The body of a file; none if it is not well formed.  Between two tokens at most `callsPerToken`
    calls are nested, so the number of tokens bounds the depth. -/
def ofTokens? (ts : List Token) : Option Body :=
  (body (callsPerToken * (ts.length + 2)) false {} ts).map Prod.fst

end Parser

/-- Reads the body of a file. -/
def parse? (s : String) : Option Parser.Body := (Token.ofText? s).bind Parser.ofTokens?

end KernelGraph.GraphFile
