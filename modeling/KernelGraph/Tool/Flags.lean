/-
  Command line flags.

  A flag has a long name and possibly a letter.  Flags and arguments may be mixed; two dashes alone
  end the flags.  The value of a flag follows an equals sign, or is the next argument; a switch
  needs no value.  Letters of switches can be joined.

  A list is written as one record of fields with commas between them.  A field that begins with a
  quote ends with one: in between, commas and line ends stand for themselves and a quote is written
  twice.  Any other field holds no quote.  Lines without a character are passed over.

  A duration is a sign and a sequence of parts, each a decimal number and a unit; or it is zero.  It
  is a number of nanoseconds that fits a word.
-/
import KernelGraph.Number.Basic
import KernelGraph.Number.Decimal
import KernelGraph.Text.Quoted
import KernelGraph.Text.Substring

namespace KernelGraph.Fields

/-! ## Fields between commas -/

/-- A place in a text: its line and the byte in it, both counted from one. -/
structure Place where
  line : Nat := 1
  column : Nat := 1
  deriving DecidableEq, Repr

/-- Why a text has no first record. -/
inductive Error
  /-- A quote inside a field that does not begin with one. -/
  | bareQuote (start : Nat) (place : Place)
  /-- A quoted field that does not end with its quote. -/
  | openQuote (start : Nat) (place : Place)
  /-- There are empty lines only. -/
  | noRecord
  deriving DecidableEq, Repr

/-- Names a place, and the line of the record if it begins on another one. -/
def Place.message (start : Nat) (place : Place) : String :=
  (if start = place.line then "" else "record on line " ++ toString start ++ "; ") ++
    "parse error on line " ++ toString place.line ++ ", column " ++ toString place.column

/-- The message of the error. -/
def Error.message : Error → String
  | bareQuote start place => place.message start ++ ": bare \" in non-quoted-field"
  | openQuote start place => place.message start ++ ": extraneous or missing \" in quoted-field"
  | noRecord => "EOF"

/-- Where a reader is in a field. -/
inductive Mode
  | start
  | bare
  | quoted
  /-- Behind a quote in a quoted field: it ends the field or is the first of two. -/
  | closing
  deriving DecidableEq, Repr

/-- The place behind a character of a line. -/
def Place.after (p : Place) (c : Char) : Place := { p with column := p.column + c.utf8Size }

/-- The place behind a line end in a quoted field; without another line it is on the same one. -/
def Place.afterLine (p : Place) (rest : List Char) : Place :=
  if rest.isEmpty then p.after '\n' else { line := p.line + 1 }

/-- Reads the fields of a record that begins on line `first`.  `field` is the part of the field that
    has been read, its last character first. -/
def fields (first : Nat) : Mode → Place → (field : List Char) → List Char →
    Except Error (List String)
  | .quoted, p, _, [] => .error (.openQuote first p)
  | _, _, field, [] => .ok [String.ofList field.reverse]
  | .quoted, p, field, c :: rest =>
    if c = '"' then fields first .closing (p.after c) field rest
    else if c = '\n' then fields first .quoted (p.afterLine rest) (c :: field) rest
    else fields first .quoted (p.after c) (c :: field) rest
  | mode, p, field, c :: rest =>
    if c = '\n' then .ok [String.ofList field.reverse]
    else if c = ',' then
      (fields first .start (p.after c) [] rest).map fun fs => String.ofList field.reverse :: fs
    else if c = '"' then
      match mode with
      | .start => fields first .quoted (p.after c) [] rest
      | .closing => fields first .quoted (p.after c) (c :: field) rest
      | _ => .error (.bareQuote first p)
    else if mode = .closing then .error (.openQuote first { p with column := p.column - 1 })
    else fields first .bare (p.after c) (c :: field) rest

/-- Every line end as one character; a carriage return at the end of the text counts for nothing. -/
def plainLineEnds : List Char → List Char
  | [] => []
  | ['\r'] => []
  | '\r' :: '\n' :: cs => '\n' :: plainLineEnds cs
  | c :: cs => c :: plainLineEnds cs

/-- The fields of the first record. -/
def read (s : String) : Except Error (List String) :=
  let cs := plainLineEnds s.toList
  let rest := cs.dropWhile (· = '\n')
  let first := cs.length - rest.length + 1
  if rest.isEmpty then .error .noRecord else fields first .start { line := first } [] rest

end KernelGraph.Fields

namespace KernelGraph.Tool.Duration

/-! ## Durations -/

/-- Why a text is no duration. -/
inductive Error
  | malformed
  | unknownUnit (unit : String)
  | noUnit
  deriving DecidableEq, Repr

/-- The message of the error about a text. -/
def Error.message (text : String) : Error → String
  | malformed => "time: invalid duration " ++ Text.quotedBytes text
  | unknownUnit unit =>
    "time: unknown unit " ++ Text.quotedBytes unit ++ " in duration " ++ Text.quotedBytes text
  | noUnit => "time: missing unit in duration " ++ Text.quotedBytes text

/-- The units in nanoseconds. -/
def units : List (String × Nat) :=
  [("ns", 1), ("us", 1000), ("µs", 1000), ("μs", 1000), ("ms", 1000000), ("s", 1000000000),
   ("m", 60000000000), ("h", 3600000000000)]

/-- The significant binary digits with which fractions are calculated. -/
def fractionBits : Nat := 53

/-- The digits of a fraction that count: as long as their value fits a word. -/
def countedDigits : List Char → (value count : Nat) → Nat × Nat
  | [], value, count => (value, count)
  | d :: ds, value, count =>
    let next := value * 10 + (d.toNat - '0'.toNat)
    if (Word.bound - 1) / 10 < value || Word.bound < next then (value, count)
    else countedDigits ds next (count + 1)

/-- A fraction of a unit in whole nanoseconds. -/
def fraction (ds : List Char) (unit : Nat) : Nat :=
  let (value, count) := countedDigits ds 0 0
  let step := Number.divParts fractionBits false unit 0 (Nat.pow 10 count) 0
  let product := Number.mul? fractionBits (Number.ofParts fractionBits false value 0) step
  (product.bind (Number.floorBelow? 64)).getD 0

/-- The parts of a duration; `total` are the nanoseconds before, which are counted in an unsigned
    word. -/
def parts : (fuel total : Nat) → List Char → Except Error Nat
  | 0, total, _ => .ok total
  | fuel + 1, total, cs =>
    if cs.isEmpty then .ok total
    else
      let (whole, rest) := Number.spanDigits cs
      let (decimals, rest) := match rest with
        | '.' :: r => Number.spanDigits r
        | _ => ([], rest)
      let isUnit (c : Char) : Bool := c ≠ '.' && !c.isDigit
      let unit := String.ofList (rest.takeWhile isUnit)
      let count := Number.digitsValue whole
      if Word.bound < count || (whole.isEmpty && decimals.isEmpty) then .error .malformed
      else if unit = "" then .error .noUnit
      else
        match units.lookup unit with
        | none => .error (.unknownUnit unit)
        | some n =>
          let part := count * n + fraction decimals n
          let total := (total + part) % (2 * Word.bound)
          if Word.bound < part || Word.bound < total then .error .malformed
          else parts fuel total (rest.dropWhile isUnit)

/-- Reads a duration as a number of nanoseconds. -/
def read (s : String) : Except Error Int :=
  let (negative, cs) := Number.signed s.toList
  if cs = ['0'] then .ok 0
  else if cs.isEmpty then .error .malformed
  else
    match parts cs.length 0 cs with
    | .error e => .error e
    | .ok n =>
      let n : Int := if negative then -(n : Int) else n
      if Word.fits n then .ok n else .error .malformed

end KernelGraph.Tool.Duration

namespace KernelGraph.Tool

/-! ## Flags -/

/-- The type of a flag's value. -/
inductive FlagKind
  | text
  | switch
  /-- Texts between commas; values add up. -/
  | list
  | duration
  deriving DecidableEq, Repr

/-- The word for a value in descriptions of flags; a switch has none. -/
def FlagKind.word : FlagKind → String
  | text => "string"
  | switch => ""
  | list => "strings"
  | duration => "duration"

/-- A flag. -/
structure Flag where
  name : String
  letter : Option Char := none
  kind : FlagKind := .text
  /-- What the flag is for. -/
  summary : String := ""
  /-- The value of a flag that is not set, where it is worth telling. -/
  initial : String := ""
  deriving DecidableEq, Repr

/-- True for a flag that needs no value. -/
def Flag.isSwitch (f : Flag) : Bool := f.kind = .switch

/-! ## Values -/

/-- Why a value does not fit its flag. -/
inductive ValueError
  | notBool (value : String)
  | duration (value : String) (e : Duration.Error)
  | list (e : Fields.Error)
  deriving DecidableEq, Repr

/-- The message of the error. -/
def ValueError.message : ValueError → String
  | notBool value => "strconv.ParseBool: parsing " ++ Text.quoted value ++ ": invalid syntax"
  | duration value e => e.message value
  | list e => e.message

/-- Reads a truth value. -/
def boolValue? (s : String) : Option Bool :=
  if ["1", "t", "T", "TRUE", "true", "True"].contains s then some true
  else if ["0", "f", "F", "FALSE", "false", "False"].contains s then some false
  else none

/-- Reads a list: the fields of the first record. -/
def listValue (s : String) : Except Fields.Error (List String) :=
  if s = "" then .ok [] else Fields.read s

/-- Checks the value of a flag. -/
def FlagKind.check (k : FlagKind) (value : String) : Except ValueError Unit :=
  match k with
  | text => .ok ()
  | switch => if (boolValue? value).isSome then .ok () else .error (.notBool value)
  | list => ((listValue value).map fun _ => ()).mapError .list
  | duration => ((Duration.read value).map fun _ => ()).mapError (.duration value)

/-! ## Parsing -/

/-- Why a command line is not accepted. -/
inductive FlagError
  | badSyntax (text : String)
  | unknown (name : String)
  | unknownLetter (letter : Char) (letters : String)
  | needsValue (text : String)
  | letterNeedsValue (letter : Char) (letters : String)
  | invalidValue (value : String) (flag : Flag) (e : ValueError)
  deriving DecidableEq

/-- A character between single quotes. -/
def quotedChar (c : Char) : String :=
  let apostrophe := Char.ofNat 39
  let body := if c = apostrophe then ['\\', apostrophe] else if c = '"' then ['"']
    else Text.escapeChar c
  String.ofList (apostrophe :: body ++ [apostrophe])

/-- The character that stands for a letter in messages: the one whose code is its first byte. -/
def firstByte (c : Char) : Char :=
  ((String.singleton c).toUTF8.toList.head?.map fun b => Char.ofNat b.toNat).getD c

/-- A flag in messages. -/
def Flag.text (f : Flag) : String :=
  match f.letter with
  | some c => "-" ++ String.singleton c ++ ", --" ++ f.name
  | none => "--" ++ f.name

/-- The message of the error. -/
def FlagError.message : FlagError → String
  | badSyntax text => "bad flag syntax: " ++ text
  | unknown name => "unknown flag: --" ++ name
  | unknownLetter c letters =>
    "unknown shorthand flag: " ++ quotedChar (firstByte c) ++ " in -" ++ letters
  | needsValue text => "flag needs an argument: " ++ text
  | letterNeedsValue c letters =>
    "flag needs an argument: " ++ quotedChar c ++ " in -" ++ letters
  | invalidValue value flag e =>
    "invalid argument " ++ Text.quoted value ++ " for " ++ Text.quoted flag.text ++ " flag: " ++
      e.message

/-- A parsed command line: the flags that were set, in order, and the arguments. -/
structure Parsed where
  settings : List (String × String) := []
  arguments : List String := []
  deriving DecidableEq, Repr

namespace Parsed

/-- Sets a flag. -/
def set (p : Parsed) (f : Flag) (value : String) : Except FlagError Parsed :=
  match f.kind.check value with
  | .ok () => .ok { p with settings := p.settings ++ [(f.name, value)] }
  | .error e => .error (.invalidValue value f e)

/-- The values that a flag was set to. -/
def values (p : Parsed) (name : String) : List String :=
  (p.settings.filter fun s => s.1 = name).map Prod.snd

/-- The last value that a flag was set to. -/
def value? (p : Parsed) (name : String) : Option String := (p.values name).getLast?

/-- The text of a flag, empty if it was not set. -/
def text (p : Parsed) (name : String) : String := (p.value? name).getD ""

/-- True for a switch that is on. -/
def isOn (p : Parsed) (name : String) : Bool := ((p.value? name).bind boolValue?).getD false

/-- All texts of a list flag. -/
def list (p : Parsed) (name : String) : List String :=
  (p.values name).flatMap fun v => (listValue v).toOption.getD []

end Parsed

/-- The characters of a text after its first `n`. -/
def textAfter (n : Nat) (s : String) : String := String.ofList (s.toList.drop n)

/-- What letters begin with that are passed over. -/
def ignoredLetters : List Char := "test.".toList

/-- Parses joined letters.  The answer tells whether the last one takes the next argument. -/
def parseLetters (flags : List Flag) (next : Option String) :
    List Char → Parsed → Except FlagError (Parsed × Bool)
  | [], p => .ok (p, false)
  | c :: rest, p =>
    let letters := String.ofList (c :: rest)
    match (Text.dropFront? ignoredLetters (c :: rest)).isSome,
      flags.find? fun f => f.letter = some c with
    | true, _ => .ok (p, false)
    | false, none => .error (.unknownLetter c letters)
    | false, some f =>
      match rest with
      | '=' :: value :: more =>
        (p.set f (String.ofList (value :: more))).map fun p => (p, false)
      | _ =>
        if f.isSwitch then
          match p.set f "true" with
          | .error e => .error e
          | .ok p => parseLetters flags next rest p
        else if !rest.isEmpty then (p.set f (String.ofList rest)).map fun p => (p, false)
        else
          match next with
          | some value => (p.set f value).map fun p => (p, true)
          | none => .error (.letterNeedsValue c letters)

/-- Parses a long flag.  The answer tells whether it takes the next argument. -/
def parseLong (flags : List Flag) (next : Option String) (text : String) (p : Parsed) :
    Except FlagError (Parsed × Bool) :=
  let body := (textAfter 2 text).toList
  if body.isEmpty || body.head? = some '-' || body.head? = some '=' then .error (.badSyntax text)
  else
    let name := String.ofList (body.takeWhile (· ≠ '='))
    match flags.find? fun f => f.name = name with
    | none => .error (.unknown name)
    | some f =>
      match body.dropWhile (· ≠ '=') with
      | _ :: value => (p.set f (String.ofList value)).map fun p => (p, false)
      | [] =>
        if f.isSwitch then (p.set f "true").map fun p => (p, false)
        else
          match next with
          | some value => (p.set f value).map fun p => (p, true)
          | none => .error (.needsValue text)

/-- True for an argument that begins with a dash and is longer. -/
def isFlag (s : String) : Bool :=
  match s.toList with
  | '-' :: _ :: _ => true
  | _ => false

/-- Parses a command line; `taken` tells that the first argument was used as a value. -/
def parseFlags (flags : List Flag) : (taken : Bool) → List String → Parsed →
    Except FlagError Parsed
  | _, [], p => .ok p
  | true, _ :: rest, p => parseFlags flags false rest p
  | false, s :: rest, p =>
    if !isFlag s then parseFlags flags false rest { p with arguments := p.arguments ++ [s] }
    else if s = "--" then .ok { p with arguments := p.arguments ++ rest }
    else
      let parsed := if Text.startsWith s "--" then parseLong flags rest.head? s p
        else parseLetters flags rest.head? (s.toList.drop 1) p
      match parsed with
      | .error e => .error e
      | .ok (p, taken) => parseFlags flags taken rest p

end KernelGraph.Tool
