/-
  Scalars of a YAML text.

  A scalar is plain, quoted or a block of lines.  In plain and quoted scalars the end of a line and
  the blanks around it become one space, and empty lines become line feeds.  A block keeps its lines
  or folds them, and it is told by its indentation where it ends.
-/
import KernelGraph.Text.Digits
import KernelGraph.Yaml.Cursor

namespace KernelGraph.Yaml

/-! ## White space inside scalars -/

/-- White space inside a scalar: the blanks before the first line end, and the texts of the line
    ends. -/
structure Gap where
  blanks : List Char := []
  breaks : List (List Char) := []
  deriving Inhabited

namespace Gap

/-- What the white space becomes: a single line feed is folded to a space. -/
def text (g : Gap) : List Char :=
  match g.breaks with
  | [] => g.blanks
  | first :: more =>
    if first ≠ ['\n'] then first ++ more.flatten
    else if more.isEmpty then [' ']
    else more.flatten

/-- Reads white space.  On a new line no tab may stand before column `indent`. -/
def scan (indent : Int) : (fuel : Nat) → Gap → Cursor → Option (Gap × Cursor)
  | 0, g, c => some (g, c)
  | fuel + 1, g, c =>
    if c.has 0 isBlank then
      if g.breaks.isEmpty then
        scan indent fuel { g with blanks := g.blanks ++ c.rest.take 1 } c.next
      else if (c.column : Int) < indent && c.has 0 (· = '\t') then none
      else scan indent fuel g c.next
    else if c.has 0 isBreak then
      let (s, d) := c.lineBreak
      scan indent fuel { g with breaks := g.breaks ++ [s] } d
    else some (g, c)

end Gap

/-! ## Plain scalars -/

/-- The characters that end a plain scalar in a flow collection. -/
def flowMarks : List Char := ",?[]\x7b\x7d".toList

/-- The characters of a plain scalar up to the next white space or the mark that ends it. -/
def plainRun (flow : Bool) : List Char → List Char
  | [] => []
  | x :: r =>
    if isWhite x || (x = ':' && r.head?.all isWhite) || (flow && flowMarks.contains x) then []
    else x :: plainRun flow r

/-- Reads a plain scalar; `s` and `g` are the parts of the text so far, the last one first, and the
    white space after it.  On later lines it is indented at least to column `indent`.  Tells also
    whether white space with a line end follows. -/
def plainFrom (flow : Bool) (indent : Int) :
    (fuel : Nat) → (s : List (List Char)) → (g : Gap) → Cursor →
    Option (List (List Char) × Bool × Cursor)
  | 0, s, g, c => some (s, !g.breaks.isEmpty, c)
  | fuel + 1, s, g, c =>
    if c.atDocumentMark || c.has 0 (· = '#') then some (s, !g.breaks.isEmpty, c)
    else
      let run := plainRun flow c.rest
      let s := if run.isEmpty then s else run :: g.text :: s
      let g := if run.isEmpty then g else {}
      let c := c.advance run.length
      if !c.has 0 isWhite then some (s, !g.breaks.isEmpty, c)
      else
        match g.scan indent c.left c with
        | none => none
        | some (g, c) =>
          if !flow && (c.column : Int) < indent then some (s, !g.breaks.isEmpty, c)
          else plainFrom flow indent fuel s g c

/-- Reads the plain scalar at a place. -/
def plain? (flow : Bool) (indent : Int) (c : Cursor) : Option (List Char × Bool × Cursor) :=
  (plainFrom flow indent (c.left + 1) [] {} c).map fun (s, x) => (s.reverse.flatten, x)

/-! ## Quoted scalars -/

/-- The escapes of one character. -/
def shortEscapes : List (Char × Nat) :=
  [('0', 0), ('a', 7), ('b', 8), ('t', 9), ('\t', 9), ('n', 10), ('v', 11), ('f', 12), ('r', 13),
   ('e', 27), (' ', 32), ('"', 34), (apostrophe, 39), ('/', 47), ('\\', 92), ('N', 0x85),
   ('_', 0xa0), ('L', 0x2028), ('P', 0x2029)]

/-- The character of an escape and the number of characters after the backslash. -/
def escape? (cs : List Char) : Option (Char × Nat) :=
  match cs with
  | 'x' :: r => (Text.hexChar? 2 r).map fun c => (c, 3)
  | 'u' :: r => (Text.hexChar? 4 r).map fun c => (c, 5)
  | 'U' :: r => (Text.hexChar? 8 r).map fun c => (c, 9)
  | c :: _ => (shortEscapes.lookup c).map fun n => (Char.ofNat n, 1)
  | [] => none

/-- Reads the characters of a quoted scalar up to white space, the closing quote or an escaped line
    end, and tells whether the latter was found and passed.  In `s` the last character is the
    first. -/
def quotedRun (single : Bool) :
    (fuel : Nat) → (s : List Char) → Cursor → Option (List Char × Bool × Cursor)
  | 0, s, c => some (s, false, c)
  | fuel + 1, s, c =>
    match c.rest with
    | [] => some (s, false, c)
    | x :: r =>
      if isWhite x then some (s, false, c)
      else if single then
        if x ≠ apostrophe then quotedRun single fuel (x :: s) c.next
        else if r.head? = some apostrophe then quotedRun single fuel (x :: s) (c.advance 2)
        else some (s, false, c)
      else if x = '"' then some (s, false, c)
      else if x ≠ '\\' then quotedRun single fuel (x :: s) c.next
      else if r.head?.any isBreak then some (s, true, c.next.lineBreak.2)
      else
        match escape? r with
        | none => none
        | some (e, used) => quotedRun single fuel (e :: s) (c.advance (used + 1))

/-- Reads the rest of a quoted scalar; in `s` the last character is the first. -/
def quotedFrom (single : Bool) :
    (fuel : Nat) → (s : List Char) → Cursor → Option (List Char × Cursor)
  | 0, _, _ => none
  | fuel + 1, s, c =>
    if c.atDocumentMark || c.atEnd then none
    else
      match quotedRun single c.left s c with
      | none => none
      | some (s, escaped, c) =>
        if c.has 0 (· = if single then apostrophe else '"') then some (s.reverse, c.next)
        else
          let g : Gap := if escaped then { breaks := [[]] } else {}
          match g.scan 0 c.left c with
          | none => none
          | some (g, c) => quotedFrom single fuel (g.text.reverse ++ s) c

/-- Reads the quoted scalar at a place. -/
def quoted? (single : Bool) (c : Cursor) : Option (List Char × Cursor) :=
  quotedFrom single (c.left + 1) [] c.next

/-! ## Blocks of lines -/

/-- What becomes of the line ends at the end of a block. -/
inductive Chomp
  | strip
  | clip
  | keep
  deriving DecidableEq, Repr

/-- How a chomping mark is read. -/
def chomp? (c : Cursor) : Option Chomp :=
  match c.head? with
  | some '+' => some .keep
  | some '-' => some .strip
  | _ => none

/-- The indentation mark: a digit other than zero. -/
def increment? (c : Cursor) : Option (Option Nat) :=
  match c.head? with
  | some '0' => none
  | some x => some (if x.isDigit then some (x.toNat - '0'.toNat) else none)
  | none => some none

/-- Reads the marks of a block, in either order. -/
def blockMarks? (c : Cursor) : Option (Chomp × Option Nat × Cursor) :=
  match chomp? c with
  | some chomp =>
    (increment? c.next).map fun n => (chomp, n, if n.isSome then c.next.next else c.next)
  | none =>
    (increment? c).map fun n =>
      let c := if n.isSome then c.next else c
      match n, chomp? c with
      | some _, some chomp => (chomp, n, c.next)
      | _, _ => (.clip, n, c)

/-- Reads indentation and empty lines.  Without a known indentation `deepest` is the column reached
    so far.  No tab may stand in the indentation. -/
def blockBreaks (indent : Option Nat) :
    (fuel deepest : Nat) → (breaks : List Char) → Cursor → Option (Nat × List Char × Cursor)
  | 0, deepest, breaks, c => some (deepest, breaks, c)
  | fuel + 1, deepest, breaks, c =>
    let inside (c : Cursor) : Bool := indent.all fun n => c.column < n
    let spaces := (c.rest.takeWhile (· = ' ')).length
    let c := c.advance (match indent with
      | none => spaces
      | some n => min spaces (n - c.column))
    let deepest := max deepest c.column
    if inside c && c.has 0 (· = '\t') then none
    else if !c.has 0 isBreak then some (deepest, breaks, c)
    else
      let (s, c) := c.lineBreak
      blockBreaks indent fuel deepest (breaks ++ s) c

/-- Reads the lines of a block.  `s` are the parts of the text so far, the last one first; `first`
    is the line end before the next line and `more` are the empty lines after it; `spaced` tells
    that the line before began with a blank. -/
def blockLines (literal : Bool) (indent : Nat) :
    (fuel : Nat) → (s : List (List Char)) → (first more : List Char) → (spaced : Bool) → Cursor →
    Option (List (List Char) × List Char × List Char × Cursor)
  | 0, s, first, more, _, c => some (s, first, more, c)
  | fuel + 1, s, first, more, spaced, c =>
    if c.column ≠ indent || c.atEnd then some (s, first, more, c)
    else
      let blank := c.has 0 isBlank
      let joint := if !literal && !spaced && !blank && first = ['\n'] then
          if more.isEmpty then [' '] else []
        else first
      let line := c.rest.takeWhile fun x => !isBreak x
      let (first, c') := (c.advance line.length).lineBreak
      match blockBreaks (some indent) c'.left 0 [] c' with
      | none => none
      | some (_, more', c') =>
        blockLines literal indent fuel (line :: more :: joint :: s) first more' blank c'

/-- Reads the block of lines at a place inside a block with indentation `parent`. -/
def block? (literal : Bool) (parent : Int) (c : Cursor) : Option (List Char × Cursor) := do
  let (chomp, increment, c) ← blockMarks? c.next
  let c := c.skipWhile isBlank
  let c := if c.has 0 (· = '#') then c.skipLineRest else c
  guard c.atLineEnd
  let c := c.lineBreak.2
  let indent := increment.map fun n => (max parent 0).toNat + n
  let (deepest, more, c) ← blockBreaks indent (c.left + 1) 0 [] c
  let indent := indent.getD (max deepest (max (parent + 1).toNat 1))
  let (s, first, more, c) ← blockLines literal indent (c.left + 1) [] [] more false c
  let last := if chomp = .strip then [] else first
  let empty := if chomp = .keep then more else []
  return (s.reverse.flatten ++ last ++ empty, c)

end KernelGraph.Yaml
