/-
  A place in a YAML text.

  A cursor holds the rest of the text and where it begins: the number of characters before it, its
  line and its column.  Indentation is a matter of columns, and the reach of a key one of lines and
  characters.
-/

namespace KernelGraph.Yaml

/-! ## Characters -/

/-- True for the characters that a text may consist of. -/
def isAllowed (c : Char) : Bool :=
  let n := c.toNat
  n = 0x09 || n = 0x0a || n = 0x0d || (0x20 ≤ n && n ≤ 0x7e) || n = 0x85 ||
    (0xa0 ≤ n && n ≤ 0xfffd) || 0x10000 ≤ n

/-- True for a space or a tab. -/
def isBlank (c : Char) : Bool := c = ' ' || c = '\t'

/-- True for a character that ends a line. -/
def isBreak (c : Char) : Bool :=
  let n := c.toNat
  n = 0x0a || n = 0x0d || n = 0x85 || n = 0x2028 || n = 0x2029

/-- True for a blank or the end of a line. -/
def isWhite (c : Char) : Bool := isBlank c || isBreak c

/-- The mark that may stand at the beginning of a text and of a line. -/
def byteOrderMark : Char := Char.ofNat 0xfeff

/-- The quote of single-quoted scalars. -/
def apostrophe : Char := Char.ofNat 39

/-! ## Cursors -/

/-- A place in a text. -/
structure Cursor where
  rest : List Char
  /-- The number of characters of the text. -/
  size : Nat
  index : Nat := 0
  line : Nat := 0
  column : Nat := 0
  /-- A line has ended since the last character that is not blank. -/
  broken : Bool := false
  deriving DecidableEq, Inhabited

namespace Cursor

/-- The number of characters of the rest. -/
def left (c : Cursor) : Nat := c.size - c.index

/-- The cursor at the beginning of a text. -/
def ofList (cs : List Char) : Cursor := { rest := cs, size := cs.length }

/-- The next character. -/
def head? (c : Cursor) : Option Char := c.rest.head?

/-- True when the character `i` places ahead exists and has a property. -/
def has (c : Cursor) (i : Nat) (p : Char → Bool) : Bool := (c.rest[i]?).any p

/-- True at the end of the text. -/
def atEnd (c : Cursor) : Bool := c.rest.isEmpty

/-- True at the end of a line or of the text. -/
def atLineEnd (c : Cursor) : Bool := c.atEnd || c.has 0 isBreak

/-- True when `i` places ahead stands a blank or the end of a line or of the text. -/
def whiteAt (c : Cursor) (i : Nat) : Bool := (c.rest[i]?).all isWhite

/-- Behind the next character. -/
def next (c : Cursor) : Cursor :=
  match c.rest with
  | [] => c
  | x :: rest =>
    { c with
      rest, index := c.index + 1, column := c.column + 1
      broken := c.broken && isBlank x }

/-- Behind the next `n` characters. -/
def advance (c : Cursor) (n : Nat) : Cursor := Nat.repeat next n c

/-- Behind all next characters with a property. -/
def skipWhile (c : Cursor) (p : Char → Bool) : Cursor := c.advance (c.rest.takeWhile p).length

/-- Behind the end of a line, and the text that it stands for: a line feed, except that the two
    separators beyond Latin stand for themselves. -/
def lineBreak (c : Cursor) : List Char × Cursor :=
  let after (used : Nat) : Cursor :=
    { c with
      rest := c.rest.drop used, index := c.index + used, line := c.line + 1, column := 0
      broken := true }
  match c.rest with
  | '\r' :: '\n' :: _ => (['\n'], after 2)
  | x :: _ =>
    if !isBreak x then ([], c)
    else (if x.toNat = 0x2028 || x.toNat = 0x2029 then [x] else ['\n'], after 1)
  | [] => ([], c)

/-- Behind the rest of the line, but not its end. -/
def skipLineRest (c : Cursor) : Cursor := c.skipWhile fun x => !isBreak x

/-- True at the beginning of a line that holds three times the character `x` and then nothing or a
    blank. -/
def atTriple (c : Cursor) (x : Char) : Bool :=
  c.column = 0 && c.has 0 (· = x) && c.has 1 (· = x) && c.has 2 (· = x) && c.whiteAt 3

/-- True at a line that begins or ends a document. -/
def atDocumentMark (c : Cursor) : Bool := c.atTriple '-' || c.atTriple '.'

/-- Behind a comment at the end of a line, with the blanks before it. -/
def skipLineComment (c : Cursor) : Cursor :=
  let d := c.skipWhile isBlank
  if !c.broken && d.has 0 (· = '#') then d.skipLineRest else c

/-- Behind spaces, tabs, line feeds and carriage returns; at most `fuel` steps. -/
def skipWhite : (fuel : Nat) → Cursor → Cursor
  | 0, c => c
  | fuel + 1, c =>
    if c.has 0 (fun x => x = '\n' || x = '\r') then skipWhite fuel c.lineBreak.2
    else if c.has 0 isBlank then skipWhite fuel c.next
    else c

/-- Behind a comment and all comments that follow it on lines of their own; at most `fuel` of
    them. -/
def skipComments : (fuel : Nat) → Cursor → Cursor
  | 0, c => c
  | fuel + 1, c =>
    let c := c.skipLineRest
    let d := skipWhite c.left c
    if d.has 0 (· = '#') then skipComments fuel d else c

end Cursor

end KernelGraph.Yaml
