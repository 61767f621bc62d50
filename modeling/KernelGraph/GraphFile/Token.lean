/-
  Tokens of graph files.

  A graph file is a text of identifiers, numbers, quoted texts, indented texts and marks.  Blanks
  and comments separate tokens.  The end of a line is a token, since it ends an attribute and a
  block; a comment that runs to the end of its line ends the line too.  A quoted or indented text
  that contains a template sequence is not accepted.
-/
import KernelGraph.Number.Decimal
import KernelGraph.Text.Cluster
import KernelGraph.Text.Digits
import KernelGraph.Text.Identifier
import KernelGraph.Text.Lines

namespace KernelGraph.GraphFile

/-- A token. -/
inductive Token
  | ident (name : String)
  | number (n : Number)
  /-- A quoted text, with escapes resolved. -/
  | quoted (s : String)
  /-- A text of whole lines up to a line that holds its marker only. -/
  | lines (s : String)
  | newline
  | mark (c : Char)
  deriving DecidableEq

namespace Token

/-- The marks. -/
def marks : List Char := "\x7b\x7d[]()=,:+-*/%".toList

/-- True for a character that an identifier can begin with. -/
def isIdentStart (c : Char) : Bool := c = '_' || Text.isIdentifierStart c

/-- True for a character that an identifier can go on with. -/
def isIdentRest (c : Char) : Bool := c = '-' || Text.isIdentifierRest c

/-- Splits off what belongs to a number after its first digit: digits, points and exponents in any
    order, except that the last one is no point. -/
def numberRest : List Char → List Char × List Char
  | [] => ([], [])
  | c :: cs =>
    let add (more : List Char × List Char) : List Char × List Char := (c :: more.1, more.2)
    if c.isDigit then add (numberRest cs)
    else if c = '.' then
      let more := numberRest cs
      if more.1.isEmpty then ([], c :: cs) else add more
    else if c = 'e' || c = 'E' then
      match cs with
      | [] => ([], c :: cs)
      | d :: r =>
        if d.isDigit then add (numberRest (d :: r))
        else if (d = '+' || d = '-') && r.head?.any Char.isDigit then
          let more := numberRest r
          (c :: d :: more.1, more.2)
        else ([], c :: cs)
    else ([], c :: cs)

/-- The character of an escape and the number of characters after the backslash. -/
def escape? (cs : List Char) : Option (Char × Nat) :=
  match cs with
  | 'n' :: _ => some ('\n', 1)
  | 'r' :: _ => some ('\r', 1)
  | 't' :: _ => some ('\t', 1)
  | '"' :: _ => some ('"', 1)
  | '\\' :: _ => some ('\\', 1)
  | 'u' :: r => (Text.hexChar? 4 r).map fun c => (c, 5)
  | 'U' :: r => (Text.hexChar? 8 r).map fun c => (c, 9)
  | _ => none

/-- True for a mark that begins a template sequence when a brace follows. -/
def isTemplateMark (c : Char) : Bool := c = '$' || c = '%'

/-- The number of characters to leave out after a character: one after a doubled template mark.  A
    template sequence is not accepted. -/
def templateSkip? (c : Char) (rest : List Char) : Option Nat :=
  if !isTemplateMark c then some 0
  else
    match rest with
    | '\x7b' :: _ => none
    | d :: '\x7b' :: _ => some (if d = c then 1 else 0)
    | _ => some 0

/-- Resolves doubled template marks.  `skip` counts characters that are left out. -/
def templateText : (skip : Nat) → List Char → Option (List Char)
  | _, [] => some []
  | skip + 1, _ :: r => templateText skip r
  | 0, c :: r =>
    match templateSkip? c r with
    | none => none
    | some skip => (templateText skip r).map (c :: ·)

/-- The characters of a quoted text up to the closing quote, and what follows it.  `skip` counts the
    characters of an escape that have been used or are left out. -/
def quotedChars : (skip : Nat) → List Char → Option (List Char × List Char)
  | _, [] => none
  | skip + 1, _ :: r => quotedChars skip r
  | 0, c :: r =>
    if c = '"' then some ([], r)
    else if c = '\n' || c = '\r' then none
    else if c = '\\' then
      match escape? r with
      | none => none
      | some (e, used) => (quotedChars used r).map fun (cs, rest) => (e :: cs, rest)
    else
      match templateSkip? c r with
      | none => none
      | some skip => (quotedChars skip r).map fun (cs, rest) => (c :: cs, rest)

/-- Splits lines off until one holds only the marker; that line has to be ended. -/
def linesUntil (marker : List Char) :
    List (List Char) → Option (List (List Char) × List (List Char))
  | [] => none
  | line :: rest =>
    if line.getLast? = some '\n' && Text.trimChars line = marker then some ([], rest)
    else (linesUntil marker rest).map fun (body, after) => (line :: body, after)

/-- The number of blanks that a line begins with, as a reader sees them; none for a blank line. -/
def indentation? (line : List Char) : Option Nat :=
  if line.all Text.isBlank then none else some (Text.clusterCount (line.takeWhile Text.isBlank))

/-- Removes the indentation that all lines have in common; blank lines do not count. -/
def removeIndentation (lines : List (List Char)) : List (List Char) :=
  let common := (lines.filterMap indentation?).min?.getD 0
  lines.map fun line =>
    if (indentation? line).isSome then Nat.repeat Text.dropCluster common line else line

/-- True for a line in which a carriage return stands only before the line feed. -/
def isPlainLine : List Char → Bool
  | [] => true
  | '\r' :: cs => cs = ['\n']
  | _ :: cs => isPlainLine cs

/-- Reads the part of a line text after its opening mark. -/
def lineText? (cs : List Char) : Option (Token × List Char) :=
  let (indented, cs) := match cs with
    | '-' :: r => (true, r)
    | _ => (false, cs)
  let marker := cs.takeWhile isIdentRest
  let rest := match cs.dropWhile isIdentRest with
    | '\r' :: r => r
    | r => r
  match marker, rest with
  | c :: _, '\n' :: body =>
    if !isIdentStart c then none
    else
      match linesUntil marker (Text.splitLines body) with
      | none => none
      | some (text, after) =>
        if !text.all isPlainLine then none
        else
          let text := if indented then removeIndentation text else text
          (templateText 0 text.flatten).map fun t =>
            (.lines (String.ofList t), '\n' :: after.flatten)
  | _, _ => none

/-- Drops a comment up to its closing mark. -/
def dropComment : List Char → Option (List Char)
  | [] => none
  | '*' :: '/' :: r => some r
  | _ :: r => dropComment r

/-- Drops a comment that runs to the end of its line; the line's end is kept. -/
def dropLine (cs : List Char) : List Char := cs.dropWhile (· ≠ '\n')

/-- Reads one token or skips a blank or a comment. -/
def next? (cs : List Char) : Option (Option Token × List Char) :=
  match cs with
  | [] => none
  | ' ' :: r | '\t' :: r => some (none, r)
  | '\n' :: r | '\r' :: '\n' :: r => some (some .newline, r)
  | '#' :: r | '/' :: '/' :: r => some (none, dropLine r)
  | '/' :: '*' :: r => (dropComment r).map fun r => (none, r)
  | '"' :: r =>
    (quotedChars 0 r).map fun (s, rest) => (some (.quoted (String.ofList s)), rest)
  | '<' :: '<' :: r => (lineText? r).map fun (t, rest) => (some t, rest)
  | c :: r =>
    if c.isDigit then
      let (more, rest) := numberRest r
      (Number.ofText? (String.ofList (c :: more))).map fun n => (some (.number n), rest)
    else if isIdentStart c then
      some (some (.ident (String.ofList (cs.takeWhile isIdentRest))), cs.dropWhile isIdentRest)
    else if marks.contains c then some (some (.mark c), r)
    else none

/-- Reads tokens, at most `fuel` times. -/
def scan : (fuel : Nat) → List Char → Option (List Token)
  | _, [] => some []
  | 0, _ :: _ => none
  | fuel + 1, cs =>
    match next? cs with
    | none => none
    | some (t, rest) => (scan fuel rest).map fun ts => t.toList ++ ts

/-- The mark that may stand at the very beginning of a file. -/
def byteOrderMark : Char := Char.ofNat 0xfeff

/-- The tokens of a file; none if a part of it is no token.  Every step uses up a character, so as
    many steps as characters suffice. -/
def ofText? (s : String) : Option (List Token) :=
  let cs := match s.toList with
    | c :: r => if c = byteOrderMark then r else c :: r
    | [] => []
  scan cs.length cs

end Token

end KernelGraph.GraphFile
