/-
  Reading YAML.

  Tokens are put together to nodes.  Only the first document of a text is read, and of it only the
  root node and the one token behind it: whatever comes later does not matter.
-/
import KernelGraph.Yaml.Node
import KernelGraph.Yaml.Token

namespace KernelGraph.Yaml.Parser

/-- What a reader works on: the tokens and the nodes that have been given names. -/
structure State where
  tokens : TokenStream
  /-- The named nodes; none for one that has not ended. -/
  anchors : List (String × Option Node) := []
  /-- The handles of tags. -/
  handles : List (String × String) := Tag.handles
  deriving Inhabited

/-- A reader of tokens, which can fail. -/
abbrev Reader := StateT State Option

/-- Looks at the next token. -/
def peek : Reader Token := fun s =>
  s.tokens.peek?.map fun (x, tokens) => (x, { s with tokens })

/-- Goes on behind the next token. -/
def skip : Reader Unit := modify fun s => { s with tokens := s.tokens.drop }

/-- Looks at the token behind the next one, which is dropped. -/
def second : Reader Token := do
  let _ ← peek
  skip
  peek

/-- Names a node. -/
def define (name : Option String) (n : Node) : Reader Node := do
  match name with
  | none => return n
  | some name =>
    modify fun s => { s with anchors := (name, some n) :: s.anchors }
    return n

/-- Begins a collection, whose name cannot be used inside of it. -/
def enter (name : Option String) : Reader Unit :=
  modify fun s => { s with anchors := (name.toList.map fun x => (x, none)) ++ s.anchors }

/-- The tag of a handle and a suffix. -/
def resolve (handle suffix : String) : Reader String := do
  match Tag.resolve? (← get).handles handle suffix with
  | some tag => return tag
  | none => failure

/-- The anchor and the tag before a node, in either order, and the token behind them. -/
def properties : Reader (Option String × String × Token) := do
  match ← peek with
  | .anchor name =>
    match ← second with
    | .tag handle suffix =>
      let x ← second
      return (some name, ← resolve handle suffix, x)
    | x => return (some name, "", x)
  | .tag handle suffix =>
    match ← second with
    | .anchor name =>
      let x ← second
      return (some name, ← resolve handle suffix, x)
    | x => return (none, ← resolve handle suffix, x)
  | x => return (none, "", x)

/-- True for a token that begins no node in a block: it begins the next part of the block or ends
    it. -/
def endsBlockNode (x : Token) : Bool := x = .key || x = .value || x = .blockEnd

/-- True for a token that begins no node in a flow collection with the given end. -/
def endsFlowNode (close x : Token) : Bool := x = .comma || x = close

/-- A node that is left out behind an anchor or a tag. -/
def left (name : Option String) (tag : String) : Reader Node :=
  if name.isSome || tag ≠ "" then define name (.scalar tag "" (tag = "" || tag = "!")) else failure

/-- The token after the comma that separates it from the one before; the first one and the closing
    mark need none. -/
def separated (close : Token) (first : Bool) : Reader Token := do
  let x ← peek
  if x = close || first then return x
  else if x = .comma then second
  else failure

mutual

/-- A node.  A block node may be a block collection; where `indentless` says so, items of a sequence
    may stand at the indentation of the mapping around it. -/
def node : (fuel : Nat) → (block indentless : Bool) → Reader Node
  | 0, _, _ => failure
  | fuel + 1, block, indentless => do
    match ← peek with
    | .alias name =>
      skip
      let s ← get
      match s.anchors.lookup name with
      | some (some n) => return n
      | _ => failure
    | _ =>
      let (name, tag, x) ← properties
      match x with
      | .item =>
        if !indentless then left name tag
        else
          enter name
          define name (.sequence (← indentlessItems fuel))
      | .scalar s isPlain =>
        skip
        define name (.scalar tag s isPlain)
      | .flowSequence =>
        enter name
        skip
        define name (.sequence (← flowItems fuel true))
      | .flowMapping =>
        enter name
        skip
        define name (.mapping (← flowEntries fuel true))
      | .blockSequence =>
        if !block then left name tag
        else
          enter name
          skip
          define name (.sequence (← blockItems fuel))
      | .blockMapping =>
        if !block then left name tag
        else
          enter name
          skip
          define name (.mapping (← blockEntries fuel))
      | _ => left name tag

/-- The items of a block sequence. -/
def blockItems : (fuel : Nat) → Reader (List Node)
  | 0 => failure
  | fuel + 1 => do
    match ← peek with
    | .item =>
      let x ← second
      let n ← if x = .item || x = .blockEnd then pure Node.empty else node fuel true false
      return n :: (← blockItems fuel)
    | .blockEnd =>
      skip
      return []
    | _ => failure

/-- The items of a sequence at the indentation of the mapping around it. -/
def indentlessItems : (fuel : Nat) → Reader (List Node)
  | 0 => failure
  | fuel + 1 => do
    match ← peek with
    | .item =>
      let x ← second
      let n ← if x = .item || endsBlockNode x then pure Node.empty else node fuel true false
      return n :: (← indentlessItems fuel)
    | _ => return []

/-- The entries of a block mapping. -/
def blockEntries : (fuel : Nat) → Reader (List (Node × Node))
  | 0 => failure
  | fuel + 1 => do
    match ← peek with
    | .key =>
      let x ← second
      let k ← if endsBlockNode x then pure Node.empty else node fuel true true
      let v ← blockValue fuel
      return (k, v) :: (← blockEntries fuel)
    | .blockEnd =>
      skip
      return []
    | _ => failure

/-- The value of an entry of a block mapping. -/
def blockValue : (fuel : Nat) → Reader Node
  | 0 => failure
  | fuel + 1 => do
    match ← peek with
    | .value =>
      let x ← second
      if endsBlockNode x then return .empty else node fuel true true
    | _ => return .empty

/-- The items of a flow sequence; an item with a colon is a mapping with one entry. -/
def flowItems : (fuel : Nat) → (first : Bool) → Reader (List Node)
  | 0, _ => failure
  | fuel + 1, first => do
    let x ← separated .flowSequenceEnd first
    match x with
    | .flowSequenceEnd =>
      skip
      return []
    | .key =>
      let x ← second
      let k ← if x = .value || endsFlowNode .flowSequenceEnd x then do
          skip
          pure Node.empty
        else node fuel false false
      let v ← flowValue fuel .flowSequenceEnd
      return .mapping [(k, v)] :: (← flowItems fuel false)
    | _ =>
      let n ← node fuel false false
      return n :: (← flowItems fuel false)

/-- The entries of a flow mapping; a key alone has the value null. -/
def flowEntries : (fuel : Nat) → (first : Bool) → Reader (List (Node × Node))
  | 0, _ => failure
  | fuel + 1, first => do
    let x ← separated .flowMappingEnd first
    match x with
    | .flowMappingEnd =>
      skip
      return []
    | .key =>
      let x ← second
      let k ← if x = .value || endsFlowNode .flowMappingEnd x then pure Node.empty
        else node fuel false false
      let v ← flowValue fuel .flowMappingEnd
      return (k, v) :: (← flowEntries fuel false)
    | _ =>
      let k ← node fuel false false
      return (k, .empty) :: (← flowEntries fuel false)

/-- The value of an entry of a flow collection with the given end. -/
def flowValue : (fuel : Nat) → (close : Token) → Reader Node
  | 0, _ => failure
  | fuel + 1, close => do
    match ← peek with
    | .value =>
      let x ← second
      if endsFlowNode close x then return .empty else node fuel false false
    | _ => return .empty

end

/-- How many nested calls a character can cause at most. -/
def callsPerChar : Nat := 12

/-- The directives before a document: the version and handles of tags, each given once at most.
    Tells whether there are any, and the token behind them. -/
def directives : (fuel : Nat) → (version : Bool) → (given : List (String × String)) →
    Reader (Bool × Token)
  | 0, _, _ => failure
  | fuel + 1, version, given => do
    match ← peek with
    | .version =>
      if version then failure
      skip
      directives fuel true given
    | .handle name start =>
      if (given.lookup name).isSome then failure
      skip
      directives fuel version ((name, start) :: given)
    | x =>
      modify fun s => { s with handles := given ++ s.handles }
      return (version || !given.isEmpty, x)

/-- True for a token behind which a document that has begun is empty. -/
def endsDocument : Token → Bool
  | .version | .handle .. | .documentStart | .documentEnd | .streamEnd => true
  | _ => false

/-- The first document: none for a text without one.  The token behind its root has to be
    readable. -/
def document (fuel : Nat) : Reader (Option Node) := do
  let (directed, x) ← directives fuel false []
  if x = .streamEnd && !directed then return none
  if directed && x ≠ .documentStart then failure
  let n ← if x ≠ .documentStart then node fuel true false
    else do
      let x ← second
      if endsDocument x then pure Node.empty else node fuel true false
  let _ ← peek
  return some n

end Parser

/-- The first document of a text: `some none` if there is none, `none` if it is malformed. -/
def parse? (s : String) : Option (Option Node) :=
  if !s.toList.all isAllowed then none
  else
    ((Parser.document (Parser.callsPerChar * (s.length + 4))).run
      { tokens := .ofText s }).map Prod.fst

end KernelGraph.Yaml
