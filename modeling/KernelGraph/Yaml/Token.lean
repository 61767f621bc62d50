/-
  Tokens of a YAML text.

  Indentation and marks are turned into tokens that say where collections begin and end.  Whether a
  scalar or a flow collection is a key is known only when a colon follows it on the same line, not
  too far away; the tokens of the key are then put in before it.  For this reason tokens wait in a
  queue: the first one is handed out when three are there and it can no longer become a key.  What
  stands behind is not looked at before.
-/
import KernelGraph.Yaml.Scalar
import KernelGraph.Yaml.Tag

namespace KernelGraph.Yaml

/-- A token. -/
inductive Token
  | streamEnd
  /-- The version directive; the only version is 1.1. -/
  | version
  /-- The directive that gives a handle of tags. -/
  | handle (name start : String)
  | documentStart
  | documentEnd
  | blockSequence
  | blockMapping
  | blockEnd
  | flowSequence
  | flowSequenceEnd
  | flowMapping
  | flowMappingEnd
  /-- The mark of a block item. -/
  | item
  | comma
  | key
  | value
  | alias (name : String)
  | anchor (name : String)
  | tag (handle suffix : String)
  | scalar (s : String) (isPlain : Bool)
  deriving DecidableEq, Repr, Inhabited

/-- A place where a key may begin. -/
structure KeyPlace where
  /-- The number of the token that begins there. -/
  number : Nat
  index : Nat
  line : Nat
  column : Nat
  /-- A key has to begin there, since the place has the indentation of the block. -/
  required : Bool
  deriving DecidableEq, Inhabited

/-- Tokens that wait and what is known about the text behind them. -/
structure TokenStream where
  cursor : Cursor
  queue : List Token := []
  /-- The number of tokens that have been handed out. -/
  taken : Nat := 0
  /-- The depth of flow collections. -/
  flow : Nat := 0
  /-- The indentation of the current block, -1 outside of all blocks. -/
  indent : Int := -1
  /-- The indentations of the blocks around it. -/
  outer : List Int := []
  /-- The place of a possible key at every depth of flow collections, the innermost first. -/
  keys : List (Option KeyPlace) := [none]
  /-- A key may begin at the next token. -/
  keyAllowed : Bool := true
  deriving Inhabited

namespace TokenStream

/-! ## Keys -/

/-- The number of characters within which the colon of a key has to stand. -/
def keyReach : Nat := 1024

/-- True when a key that begins at a place can still end. -/
def isOpen (t : TokenStream) (k : KeyPlace) : Bool :=
  k.line = t.cursor.line && t.cursor.index ≤ k.index + keyReach

/-- Adds a token at the end of the queue. -/
def push (t : TokenStream) (x : Token) : TokenStream := { t with queue := t.queue ++ [x] }

/-- Puts a token before the one with a number. -/
def insert (t : TokenStream) (number : Nat) (x : Token) : TokenStream :=
  let at' := number - t.taken
  { t with queue := t.queue.take at' ++ x :: t.queue.drop at' }

/-- Gives the possible key of the current depth up; one that is required may not be missing. -/
def dropKey (t : TokenStream) : Option TokenStream :=
  match t.keys with
  | some k :: rest => if k.required then none else some { t with keys := none :: rest }
  | _ => some t

/-- Remembers that a key may begin here. -/
def saveKey (t : TokenStream) : Option TokenStream :=
  if !t.keyAllowed then some t
  else
    t.dropKey.map fun t =>
      let k : KeyPlace :=
        { number := t.taken + t.queue.length
          index := t.cursor.index
          line := t.cursor.line
          column := t.cursor.column
          required := t.flow = 0 && t.indent = t.cursor.column }
      { t with keys := some k :: t.keys.drop 1 }

/-! ## Indentation -/

/-- Ends the blocks that are indented more than a column. -/
def unroll (column : Int) : (fuel : Nat) → TokenStream → TokenStream
  | 0, t => t
  | fuel + 1, t =>
    if t.flow ≠ 0 || t.indent ≤ column then t
    else
      unroll column fuel
        { t.push .blockEnd with indent := t.outer.headD (-1), outer := t.outer.drop 1 }

/-- Ends all blocks that are indented more than a column. -/
def endBlocks (t : TokenStream) (column : Int) : TokenStream :=
  unroll column (t.outer.length + 1) t

/-- Begins a block at a column, unless it is the current one; its token is put before the one with
    the given number. -/
def beginBlock (t : TokenStream) (column number : Nat) (x : Token) : TokenStream :=
  if t.flow = 0 && t.indent < column then
    { t.insert number x with indent := column, outer := t.indent :: t.outer }
  else t

/-! ## Single tokens -/

/-- Adds a token that ends at a cursor, and says whether a key may begin behind it. -/
def add (t : TokenStream) (x : Token) (c : Cursor) (keyAllowed : Bool) : TokenStream :=
  { t.push x with cursor := c, keyAllowed }

/-- Adds a token of the given number of characters. -/
def take (t : TokenStream) (x : Token) (length : Nat) (keyAllowed : Bool) : TokenStream :=
  t.add x (t.cursor.advance length) keyAllowed

/-- The end of the text; it stands on a line of its own. -/
def fetchEnd (t : TokenStream) : Option TokenStream :=
  let c := t.cursor
  let c := if c.column = 0 then c else { c with column := 0, line := c.line + 1 }
  (t.endBlocks (-1)).dropKey.map fun t => t.add .streamEnd c false

/-- A line that begins or ends a document. -/
def fetchDocument (t : TokenStream) (x : Token) : Option TokenStream :=
  (t.endBlocks (-1)).dropKey.map fun t => t.take x 3 false

/-- The token of the version directive: major and minor number, of at most two digits each, have
    to be one. -/
def versionToken? (c : Cursor) : Option (Token × Cursor) := do
  let c := c.skipWhile isBlank
  let major := c.rest.takeWhile Char.isDigit
  let c := c.advance major.length
  guard (c.has 0 (· = '.'))
  let minor := c.next.rest.takeWhile Char.isDigit
  guard ([major, minor].all fun ds => ds = ['1'] || ds = ['0', '1'])
  return (.version, c.advance (minor.length + 1))

/-- A directive: the version or a handle of tags. -/
def fetchDirective (t : TokenStream) : Option TokenStream := do
  let t ← (t.endBlocks (-1)).dropKey
  let name := t.cursor.next.rest.takeWhile isNameChar
  let c := t.cursor.advance (name.length + 1)
  guard (c.whiteAt 0)
  let (x, c) ← match String.ofList name with
    | "YAML" => versionToken? c
    | "TAG" => (Tag.directive? c).map fun (handle, start, c) => (.handle handle start, c)
    | _ => none
  let c := c.skipWhile isBlank
  let c := if c.has 0 (· = '#') then c.skipLineRest else c
  guard c.atLineEnd
  return t.add x c.lineBreak.2 false

/-- The beginning of a flow collection. -/
def fetchFlow (t : TokenStream) (x : Token) : Option TokenStream :=
  t.saveKey.map fun t => { t.take x 1 true with flow := t.flow + 1, keys := none :: t.keys }

/-- The end of a flow collection. -/
def fetchFlowEnd (t : TokenStream) (x : Token) : Option TokenStream :=
  t.dropKey.map fun t =>
    let t := if t.flow = 0 then t else { t with flow := t.flow - 1, keys := t.keys.drop 1 }
    t.take x 1 false

/-- A comma. -/
def fetchComma (t : TokenStream) : Option TokenStream :=
  t.dropKey.map fun t => t.take .comma 1 true

/-- The mark of a block item. -/
def fetchItem (t : TokenStream) : Option TokenStream := do
  guard (t.flow ≠ 0 || t.keyAllowed)
  let t := t.beginBlock t.cursor.column (t.taken + t.queue.length) .blockSequence
  let t ← t.dropKey
  return t.take .item 1 true

/-- The mark of a key that is not told by its colon. -/
def fetchKey (t : TokenStream) : Option TokenStream := do
  guard (t.flow ≠ 0 || t.keyAllowed)
  let t := t.beginBlock t.cursor.column (t.taken + t.queue.length) .blockMapping
  let t ← t.dropKey
  return t.take .key 1 (t.flow = 0)

/-- A colon.  If a key can have begun before it, the tokens of the key are put in there. -/
def fetchValue (t : TokenStream) : Option TokenStream :=
  match t.keys.headD none with
  | some k =>
    if t.isOpen k then
      let t := (t.insert k.number .key).beginBlock k.column k.number .blockMapping
      some { t.take .value 1 false with keys := none :: t.keys.drop 1 }
    else if k.required then none
    else alone { t with keys := none :: t.keys.drop 1 }
  | none => alone t
where
  /-- A colon without a key before it on its line. -/
  alone (t : TokenStream) : Option TokenStream :=
    if t.flow = 0 && !t.keyAllowed then none
    else
      let t := t.beginBlock t.cursor.column (t.taken + t.queue.length) .blockMapping
      some (t.take .value 1 (t.flow = 0))

/-- Characters that may follow an anchor besides white space. -/
def afterName : List Char := Char.ofNat 96 :: "?:,]\x7d%@".toList

/-- An anchor or an alias. -/
def fetchName (t : TokenStream) (token : String → Token) : Option TokenStream := do
  let t ← t.saveKey
  let name := t.cursor.next.rest.takeWhile isNameChar
  let c := t.cursor.advance (name.length + 1)
  guard (!name.isEmpty && (c.whiteAt 0 || c.has 0 afterName.contains))
  return t.add (token (String.ofList name)) c false

/-- A tag. -/
def fetchTag (t : TokenStream) : Option TokenStream := do
  let t ← t.saveKey
  let (handle, suffix, c) ← Tag.tag? t.cursor
  return t.add (.tag handle suffix) c false

/-- A block of lines. -/
def fetchBlock (t : TokenStream) (literal : Bool) : Option TokenStream := do
  let t ← t.dropKey
  let (s, c) ← block? literal t.indent t.cursor
  return t.add (.scalar (String.ofList s) false) c true

/-- A quoted scalar. -/
def fetchQuoted (t : TokenStream) (single : Bool) : Option TokenStream := do
  let t ← t.saveKey
  let (s, c) ← quoted? single t.cursor
  return t.add (.scalar (String.ofList s) false) c false

/-- A plain scalar. -/
def fetchPlain (t : TokenStream) : Option TokenStream := do
  let t ← t.saveKey
  let (s, broken, c) ← plain? (t.flow ≠ 0) (t.indent + 1) t.cursor
  return t.add (.scalar (String.ofList s) true) c broken

/-! ## The next token -/

/-- Characters that no plain scalar begins with. -/
def reserved : List Char :=
  apostrophe :: Char.ofNat 96 :: "-?:,[]\x7b\x7d#&*!|>\"%@".toList

/-- True where a plain scalar begins. -/
def startsPlain (t : TokenStream) : Bool :=
  match t.cursor.head? with
  | none => false
  | some x =>
    (!isWhite x && !reserved.contains x) ||
      (x = '-' && !t.cursor.has 1 isBlank) ||
      (t.flow = 0 && (x = '?' || x = ':') && !t.cursor.whiteAt 1)

/-- Goes over white space and comments.  Where a key may begin in a block, no tab is skipped. -/
def skipToToken : (fuel : Nat) → TokenStream → TokenStream
  | 0, t => t
  | fuel + 1, t =>
    let c := t.cursor
    let c := if c.column = 0 && c.has 0 (· = byteOrderMark) then c.next else c
    let c := c.skipWhile fun x => x = ' ' || ((t.flow ≠ 0 || !t.keyAllowed) && x = '\t')
    let c := if c.has 0 (· = '#') then Cursor.skipComments c.left c else c
    if c.has 0 isBreak then
      skipToToken fuel
        { t with cursor := c.lineBreak.2, keyAllowed := t.keyAllowed || t.flow = 0 }
    else { t with cursor := c }

/-- Reads the token at the cursor, which is neither at the end nor at a line that begins or ends a
    document. -/
def fetchToken (t : TokenStream) : Option TokenStream :=
  let c := t.cursor
  let indicator := t.flow ≠ 0 || c.whiteAt 1
  match c.head? with
  | some '[' => t.fetchFlow .flowSequence
  | some '\x7b' => t.fetchFlow .flowMapping
  | some ']' => t.fetchFlowEnd .flowSequenceEnd
  | some '\x7d' => t.fetchFlowEnd .flowMappingEnd
  | some ',' => t.fetchComma
  | some '*' => t.fetchName .alias
  | some '&' => t.fetchName .anchor
  | some '!' => t.fetchTag
  | some '"' => t.fetchQuoted false
  | some x =>
    if x = '-' && c.whiteAt 1 then t.fetchItem
    else if x = '?' && indicator then t.fetchKey
    else if x = ':' && indicator then t.fetchValue
    else if (x = '|' || x = '>') && t.flow = 0 then t.fetchBlock (x = '|')
    else if x = apostrophe then t.fetchQuoted true
    else if t.startsPlain then t.fetchPlain
    else none
  | none => none

/-- Reads at least one more token; none if there is no token at the next place.  A comment on the
    token's line is skipped, except after the mark of an item. -/
def fetch (t : TokenStream) : Option TokenStream :=
  let t := skipToToken (t.cursor.left + 1) t
  let t := t.endBlocks t.cursor.column
  let c := t.cursor
  if c.atEnd then t.fetchEnd
  else if c.column = 0 && c.has 0 (· = '%') then t.fetchDirective
  else if c.atTriple '-' then t.fetchDocument .documentStart
  else if c.atTriple '.' then t.fetchDocument .documentEnd
  else
    t.fetchToken.map fun t =>
      if t.queue.getLast? = some .item then t
      else { t with cursor := t.cursor.skipLineComment }

/-! ## Handing out -/

/-- The number of tokens that are read ahead. -/
def lookahead : Nat := 3

/-- Reads tokens until the first one can be handed out. -/
def fill : (fuel : Nat) → TokenStream → Option TokenStream
  | 0, t => some t
  | fuel + 1, t =>
    if t.queue.length < lookahead then t.fetch.bind (fill fuel)
    else
      match (t.keys.filterMap id).find? fun k => k.number = t.taken with
      | none => some t
      | some k =>
        if t.isOpen k then t.fetch.bind (fill fuel)
        else if k.required then none
        else
          some { t with keys := t.keys.map fun x => if x = some k then none else x }

/-- The first token. -/
def peek? (t : TokenStream) : Option (Token × TokenStream) := do
  let t ← fill (t.cursor.left + lookahead + 1) t
  let x ← t.queue.head?
  return (x, t)

/-- Hands the first token out. -/
def drop (t : TokenStream) : TokenStream :=
  { t with queue := t.queue.drop 1, taken := t.taken + 1 }

/-- The tokens of a text. -/
def ofText (s : String) : TokenStream :=
  let cs := s.toList
  { cursor := .ofList (if cs.head? = some byteOrderMark then cs.drop 1 else cs) }

end TokenStream

end KernelGraph.Yaml
