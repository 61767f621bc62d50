/-
  YAML nodes and how they are decoded.

  A node is a scalar, a sequence or a mapping.  A quoted scalar is a text; the meaning of a plain
  one comes from its spelling.
-/
import KernelGraph.Yaml.Meaning

namespace KernelGraph.Yaml

/-- A node. -/
inductive Node
  /-- A scalar with its tag, which is empty if none is given. -/
  | scalar (tag s : String) (isPlain : Bool)
  | sequence (items : List Node)
  | mapping (entries : List (Node × Node))
  deriving Inhabited

namespace Node

/-- The empty scalar, which stands where a node is left out. -/
def empty : Node := scalar "" "" true

/-- The text of a scalar and nothing for any other node. -/
def spelling : Node → String
  | scalar _ s _ => s
  | _ => ""

/-- True for two nodes that cannot both be keys of one mapping: nodes of one kind, scalars with the
    same text. -/
def clashes : Node → Node → Bool
  | scalar _ s _, scalar _ t _ => s = t
  | sequence _, sequence _ => true
  | mapping _, mapping _ => true
  | _, _ => false

/-- What a scalar means, if its tag fits. -/
def meaning? : Node → Option Meaning
  | scalar tag s isPlain =>
    if tag = "" || tag = "!" then some (if isPlain then .ofPlain s else .text s)
    else Meaning.ofTagged? tag s
  | _ => none

/-! ## Decoding

  A null leaves the value as it is.  `none` is a value of a wrong type. -/

end Node

/-- What a node gives for a field: nothing, or a value. -/
abbrev Decoded (α : Type) := Option (Option α)

namespace Node

/-- True for a null. -/
def isNull (n : Node) : Bool := n.meaning? = some .null

/-- A text; every scalar has one. -/
def text? (n : Node) : Decoded String :=
  n.meaning?.map fun m => match m with
    | .null => none
    | .text s => some s
    | _ => some n.spelling

/-- Cuts a number down to a word: towards zero.  One that is too small becomes the least word, and
    so does the one just above the largest. -/
def cut? (n : Number) : Option Int :=
  let least : Int := -(Word.bound : Int)
  match n with
  | .infinite negative => if negative then some least else none
  | .finite negative .. =>
    if (n.order (.ofNat Word.bound)).isGT then none
    else
      match n.truncate?.bind (Number.whole? 64) with
      | some k => some (if Word.fits k then k else least)
      | none => if negative then some least else none

/-- A whole number of 64 bits; fractions are cut off. -/
def int? (n : Node) : Decoded Int :=
  match n.meaning? with
  | some .null => some none
  | some (.int k) => if k < Word.bound then some (some k) else none
  | some (.float x) => (cut? x).map some
  | _ => none

/-- Words that count as truth values beside the usual spellings. -/
def boolWords : List (String × Bool) :=
  ["y", "Y", "yes", "on"].map (·, true) ++ ["n", "N", "no", "off"].map (·, false)

/-- A truth value. -/
def bool? (n : Node) : Decoded Bool :=
  match n.meaning? with
  | some .null => some none
  | some (.bool b) => some (some b)
  | some (.text s) => (boolWords.lookup s).map some
  | _ => none

/-- A list; elements that are null are left out. -/
def list? {α : Type} (element : Node → Decoded α) : Node → Decoded (List α)
  | sequence items => (List.mapM (m := Option) element items).map fun xs => some (xs.filterMap id)
  | n => if n.isNull then some (some []) else none

/-- True for the key of entries that are taken over from other mappings. -/
def isMerge : Node → Bool
  | scalar tag s isPlain => s = "<<" && ((tag = "" && isPlain) || tag = "!" || tag = "!!merge")
  | _ => false

/-- The mappings that a node stands for where entries are taken over. -/
def merged? : Node → Option (List Node)
  | mapping entries => some [mapping entries]
  | sequence items =>
    items.mapM fun n => match n with
      | mapping entries => some (mapping entries)
      | _ => none
  | _ => none

/-- True when no two keys clash. -/
def distinctKeys : List (Node × Node) → Bool
  | [] => true
  | (k, _) :: rest => !rest.any (fun e => k.clashes e.1) && distinctKeys rest

/-- Decodes the entries of a mapping into a record, except for the keys in `seen`, which have been
    given before.  An entry with a null key is left out. -/
def fields? {α : Type} (field : String → Option (α → Node → Option α)) :
    List (Node × Node) → (seen : List String) → α → Option (List String × α)
  | [], seen, r => some (seen, r)
  | (k, v) :: rest, seen, r =>
    if k.isMerge then fields? field rest seen r
    else
      match k.text? with
      | none => none
      | some none => fields? field rest seen r
      | some (some key) =>
        if seen.contains key then fields? field rest seen r
        else
          match (field key).bind fun set => set r v with
          | none => none
          | some r => fields? field rest (key :: seen) r

/-- Decodes mappings one after the other, and then those that they take over; of two values for one
    key the first counts. -/
def records? {α : Type} (field : String → Option (α → Node → Option α)) :
    (fuel : Nat) → List Node → (seen : List String) → α → Option (List String × α)
  | 0, _, _, _ => none
  | _, [], seen, r => some (seen, r)
  | fuel + 1, n :: rest, seen, r =>
    match n with
    | mapping entries =>
      if !distinctKeys entries then none
      else
        match fields? field entries seen r, entries.find? fun e => e.1.isMerge with
        | none, _ => none
        | some (seen, r), none => records? field fuel rest seen r
        | some (seen, r), some (_, v) =>
          match v.merged? with
          | none => none
          | some ms => records? field fuel (ms ++ rest) seen r
    | _ => none

/-- How deep entries are taken over at most. -/
def mergeLimit : Nat := 1000

/-- A record: every key is known and given once, and every value has its type. -/
def record? {α : Type} (zero : α) (field : String → Option (α → Node → Option α)) :
    Node → Decoded α
  | mapping entries => (records? field mergeLimit [mapping entries] [] zero).map fun x => some x.2
  | n => if n.isNull then some none else none

/-- Sets a field unless the value is null. -/
def put {α β : Type} (read : Node → Decoded β) (set : α → β → α) (r : α) (n : Node) : Option α :=
  (read n).map fun v => match v with
    | some v => set r v
    | none => r

end Node

end KernelGraph.Yaml
