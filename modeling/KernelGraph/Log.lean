/-
  Log records.

  The library does not write logs; operations yield records and the caller decides what becomes of
  them.  A level is a number, four of which have names; levels in between are shown by their
  distance to the next name below.
-/
import KernelGraph.Number.Basic
import KernelGraph.Text.Lines
import KernelGraph.Text.Quoted
import KernelGraph.Text.Substring

namespace KernelGraph.Log

/-- The severity of a record. -/
structure Level where
  value : Int64
  deriving DecidableEq, Inhabited

namespace Level

/-- Details of assembling and compiling. -/
def debug : Level := ⟨-4⟩

/-- Events in the life of a graph. -/
def info : Level := ⟨0⟩

/-- Things that were skipped or failed without harm. -/
def warn : Level := ⟨4⟩

/-- Failures. -/
def error : Level := ⟨8⟩

/-- The named levels from below. -/
def names : List (String × Level) :=
  [("DEBUG", debug), ("INFO", info), ("WARN", warn), ("ERROR", error)]

/-- A name and a signed distance. -/
def relative (name : String) (distance : Int64) : String :=
  if distance = 0 then name
  else name ++ (if distance < 0 then "" else "+") ++ toString distance.toInt

/-- The name of a level: that of the next named level below and the distance to it. -/
def name (l : Level) : String :=
  if l.value < info.value then relative "DEBUG" (l.value - debug.value)
  else if l.value < warn.value then relative "INFO" (l.value - info.value)
  else if l.value < error.value then relative "WARN" (l.value - warn.value)
  else relative "ERROR" (l.value - error.value)

/-- Why a text is no level. -/
inductive ParseError
  | unknownName (text : String)
  /-- The distance `number` is no decimal number. -/
  | badDistance (text number : String)
  /-- The distance `number` does not fit a word. -/
  | distanceRange (text number : String)
  deriving DecidableEq

/-- The message of the error. -/
def ParseError.message : ParseError → String
  | unknownName text => "slog: level string " ++ Text.quoted text ++ ": unknown name"
  | badDistance text number =>
    "slog: level string " ++ Text.quoted text ++ ": strconv.Atoi: parsing " ++ Text.quoted number ++
      ": invalid syntax"
  | distanceRange text number =>
    "slog: level string " ++ Text.quoted text ++ ": strconv.Atoi: parsing " ++ Text.quoted number ++
      ": value out of range"

/-- Reads a sign and digits. -/
def signedDigits? : List Char → Option Int
  | '-' :: cs => (unsigned cs).map fun n => -(n : Int)
  | '+' :: cs => (unsigned cs).map fun n => (n : Int)
  | cs => (unsigned cs).map fun n => (n : Int)
where
  /-- Reads at least one decimal digit and nothing else. -/
  unsigned (cs : List Char) : Option Nat :=
    if cs.isEmpty || !cs.all Char.isDigit then none
    else some (cs.foldl (fun n d => n * 10 + (d.toNat - '0'.toNat)) 0)

/-- Reads a level: a name in any case, and possibly a signed distance. -/
def parse (s : String) : Except ParseError Level :=
  let cs := s.toList
  let isSign (c : Char) : Bool := c = '+' || c = '-'
  let word := Text.upper (String.ofList (cs.takeWhile fun c => !isSign c))
  let rest := cs.dropWhile fun c => !isSign c
  let base : Except ParseError Level :=
    match names.lookup word with
    | some l => .ok l
    | none => .error (.unknownName s)
  if rest.isEmpty then base
  else
    match signedDigits? rest with
    | none => .error (.badDistance s (String.ofList rest))
    | some n =>
      if Word.fits n then base.map fun l => ⟨l.value + Int64.ofInt n⟩
      else .error (.distanceRange s (String.ofList rest))

end Level

/-- The value of a record's attribute. -/
inductive AttributeValue
  | text (s : String)
  | int (n : Int)
  | bool (b : Bool)
  deriving DecidableEq, Inhabited

instance : Coe String AttributeValue := ⟨.text⟩
instance : Coe Int AttributeValue := ⟨.int⟩
instance : Coe Nat AttributeValue := ⟨fun n => .int n⟩
instance : Coe Bool AttributeValue := ⟨.bool⟩

/-- An attribute's value in words. -/
def AttributeValue.toText : AttributeValue → String
  | text s => s
  | int n => toString n
  | bool b => if b then "true" else "false"

/-- Named values of a record. -/
abbrev Attributes := List (String × AttributeValue)

/-- A level, a message and named values. -/
structure Record where
  level : Level
  message : String
  attributes : Attributes := []
  deriving DecidableEq, Inhabited

/-- A record whose attributes come in two parts. -/
def Record.of (level : Level) (message : String) (first more : Attributes) : Record :=
  { level, message, attributes := first ++ more }

end KernelGraph.Log
