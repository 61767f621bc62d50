/-
  What the tool prints: labels, sizes, columns and log lines.

  A record is written as one line: in words, with colours if wanted, or as one object.  Without
  colours the names and the values of attributes lose their control sequences.
-/
import KernelGraph.Log
import KernelGraph.Text.Letter
import KernelGraph.Text.Substring

namespace KernelGraph.Tool

/-! ## Labels -/

/-- The character that begins a control sequence of a terminal. -/
def escape : Char := Char.ofNat 27

/-- A colour, by the parameters that switch it on and off on a terminal. -/
structure Colour where
  on : String
  off : String
  deriving DecidableEq, Repr

namespace Colour

/-- The colour of success. -/
def green : Colour := ⟨"32", "0"⟩

/-- The colour of failure. -/
def red : Colour := ⟨"31", "0"⟩

/-- The colour of warnings. -/
def yellow : Colour := ⟨"33", "0"⟩

/-- The colour of names. -/
def blue : Colour := ⟨"38;2;50;108;229", "0;22;0;0;0"⟩

/-- Faint, for what leads up to something else. -/
def faint : Colour := ⟨"2", "0"⟩

/-- A text between the sequences that switch a colour on and off. -/
def paint (c : Colour) (s : String) : String :=
  let lead := String.singleton escape ++ "["
  lead ++ c.on ++ "m" ++ s ++ lead ++ c.off ++ "m"

end Colour

/-- The label of a result. -/
def status (coloured ok : Bool) : String :=
  let label := if ok then "ok" else "FAIL"
  if !coloured then label
  else if ok then Colour.green.paint label
  else Colour.red.paint label

/-- A name in a result line. -/
def highlight (coloured : Bool) (name : String) : String :=
  if coloured then Colour.blue.paint name else name

/-! ## Columns -/

/-- Fills a text up on the right to a number of characters. -/
def padRight (width : Nat) (s : String) : String :=
  s ++ String.ofList (List.replicate (width - s.length) ' ')

/-- Fills a text up on the left to a number of characters. -/
def padLeft (width : Nat) (s : String) : String :=
  String.ofList (List.replicate (width - s.length) ' ') ++ s

/-! ## Sizes -/

/-- The units of sizes, each a thousand times the one before. -/
def units : List String := ["B", "kB", "MB", "GB", "TB", "PB", "EB"]

/-- How often a size can be divided by a thousand before it is below a thousand. -/
def unitIndex (size : Nat) : Nat :=
  ((List.range units.length).filter fun e => Nat.pow 1000 e ≤ size).length - 1

/-- Tenths rounded to a whole number; a half goes to the even neighbour. -/
def roundTenths (tenths : Nat) : Nat :=
  let whole := tenths / 10
  if tenths % 10 < 5 || (tenths % 10 = 5 && whole % 2 = 0) then whole else whole + 1

/-- A size in the largest unit that fits, with one decimal below ten. -/
def sizeText (size : Nat) : String :=
  if size < 10 then toString size ++ " B"
  else
    let e := unitIndex size
    let tenths := (20 * size + Nat.pow 1000 e) / (2 * Nat.pow 1000 e)
    let value := if tenths < 100 then toString (tenths / 10) ++ "." ++ toString (tenths % 10)
      else toString (roundTenths tenths)
    value ++ " " ++ units.getD e ""

/-! ## Durations -/

/-- Thousandths after a point, without zeros at the end. -/
def thousandths (n : Nat) : String :=
  if n = 0 then ""
  else
    let digits := (toString (1000 + n)).toList.drop 1
    "." ++ String.ofList (digits.reverse.dropWhile (· = '0')).reverse

/-- A number of milliseconds in hours, minutes and seconds. -/
def durationText (ms : Nat) : String :=
  if ms = 0 then "0s"
  else if ms < 1000 then toString ms ++ "ms"
  else
    let hours := ms / 3600000
    let minutes := ms / 60000 % 60
    (if hours = 0 then "" else toString hours ++ "h") ++
      (if hours = 0 && minutes = 0 then "" else toString minutes ++ "m") ++
      toString (ms / 1000 % 60) ++ thousandths (ms % 1000) ++ "s"

/-! ## Lines in words -/

/-- Takes control sequences out: each goes from its first character to the next letter.  `inside`
    tells that one has begun. -/
def withoutSequences : (inside : Bool) → List Char → List Char
  | _, [] => []
  | inside, c :: cs =>
    if c = escape then withoutSequences true cs
    else if inside then withoutSequences (!Text.isLetter c) cs
    else c :: withoutSequences false cs

/-- The character that stands for bytes which cannot be read. -/
def unreadable : Char := Char.ofNat 0xFFFD

/-- A text as far as it can be read, without control sequences. -/
def plainText (s : String) : String :=
  String.ofList (withoutSequences false (s.toList.takeWhile (· ≠ unreadable)))

/-- True for a text that is quoted in a log line. -/
def needsQuotes (s : String) : Bool :=
  s.isEmpty || s.toList.any fun c =>
    if c.toNat < 0x80 then c.toNat ≤ 0x20 || c = '"' || c = '='
    else c = unreadable || Text.isBlank c || !Text.isPrintable c

/-- A text of an attribute in a log line.  Where colours are allowed, control sequences keep their
    effect. -/
def logText (coloured : Bool) (s : String) : String :=
  if coloured then
    if needsQuotes s then Text.replaceAll (Text.quoted s) "\\x1b" (String.singleton escape) else s
  else
    let s := plainText s
    if needsQuotes s then Text.quoted s else s

/-- The name of a level, in its colour if it has one. -/
def levelText (coloured : Bool) (l : Log.Level) : String :=
  let paint (c : Colour) : String := if coloured then c.paint l.name else l.name
  if l = .info then paint .green
  else if l = .warn then paint .yellow
  else if l = .error then paint .red
  else l.name

/-- A record as a line: level, message and attributes. -/
def logLine (coloured : Bool) (r : Log.Record) : String :=
  let label (name : String) : String :=
    let text := logText coloured name ++ "="
    if coloured then Colour.faint.paint text else text
  " ".intercalate (levelText coloured r.level :: r.message ::
    r.attributes.map fun (name, v) => label name ++ logText coloured v.toText)

/-! ## Structured lines -/

/-- Escapes a character in a text of a structured log line. -/
def escapeText (c : Char) : List Char :=
  if c = '"' || c = '\\' then ['\\', c]
  else if c = '\n' then ['\\', 'n']
  else if c = '\r' then ['\\', 'r']
  else if c = '\t' then ['\\', 't']
  else if c.toNat < 0x20 then "\\u".toList ++ Text.hex 4 c.toNat
  else [c]

/-- A text between quotes. -/
def quotedText (s : String) : String :=
  "\"" ++ String.ofList (s.toList.flatMap escapeText) ++ "\""

/-- A record as a structured line: one object with the level, the message and the attributes. -/
def structuredLine (r : Log.Record) : String :=
  let field (name value : String) : String := quotedText name ++ ":" ++ value
  let value : Log.AttributeValue → String
    | .text s => quotedText s
    | .int n => toString n
    | .bool b => if b then "true" else "false"
  "\x7b" ++ ",".intercalate (field "level" (quotedText r.level.name) ::
    field "msg" (quotedText r.message) :: r.attributes.map fun (name, v) => field name (value v)) ++
    "\x7d"

/-- The records from a level on. -/
def atLeast (level : Log.Level) (records : List Log.Record) : List Log.Record :=
  records.filter fun r => level.value ≤ r.level.value

end KernelGraph.Tool
