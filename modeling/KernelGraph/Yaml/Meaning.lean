/-
  The meaning of plain scalars.

  A plain scalar is null, a truth value, a number or a text, depending on how it is spelled.  A
  number with a fraction or an exponent has 53 significant binary digits; one that is too large for
  that format is a text.

  A timestamp is a date, or a date and a time of day.  Behind a `T` the time has a zone, behind a
  space it has none.
-/
import KernelGraph.Number.Basic
import KernelGraph.Number.Decimal
import KernelGraph.Text.Digits

namespace KernelGraph.Yaml.Timestamp

/-! ## Dates and times -/

/-- The rest of a text behind a number of one or two digits, and the number. -/
def short? : List Char → Option (Nat × List Char)
  | a :: b :: r =>
    if !a.isDigit then none
    else if b.isDigit then some (Number.digitsValue [a, b], r)
    else some (Number.digitsValue [a], b :: r)
  | [a] => if a.isDigit then some (Number.digitsValue [a], []) else none
  | [] => none

/-- The rest of a text behind a character. -/
def skip? (c : Char) : List Char → Option (List Char)
  | x :: r => if x = c then some r else none
  | [] => none

/-- The days of a month. -/
def daysIn (year month : Nat) : Nat :=
  if month = 2 then
    if year % 4 = 0 && (year % 100 ≠ 0 || year % 400 = 0) then 29 else 28
  else if [4, 6, 9, 11].contains month then 30
  else 31

/-- The rest behind a date: a year of four digits, a month and a day. -/
def date? (cs : List Char) : Option (List Char) := do
  let (year, r) := Number.spanDigits cs
  guard (year.length = 4)
  let (month, r) ← short? (← skip? '-' r)
  let (day, r) ← short? (← skip? '-' r)
  guard (1 ≤ month && month ≤ 12 && 1 ≤ day && day ≤ daysIn (Number.digitsValue year) month)
  return r

/-- The rest behind a fraction of a second, if there is one. -/
def afterFraction : List Char → List Char
  | c :: d :: r =>
    if (c = '.' || c = ',') && d.isDigit then r.dropWhile Char.isDigit else c :: d :: r
  | cs => cs

/-- The rest behind a time of day, which may have a fraction of a second. -/
def time? (cs : List Char) : Option (List Char) := do
  let (hour, r) ← short? cs
  let (minute, r) ← short? (← skip? ':' r)
  let (second, r) ← short? (← skip? ':' r)
  guard (hour < 24 && minute < 60 && second < 60)
  return afterFraction r

/-- The rest behind a zone: a `Z`, or a sign, hours and minutes. -/
def zone? : List Char → Option (List Char)
  | 'Z' :: r => some r
  | sign :: a :: b :: ':' :: c :: d :: r =>
    let hours := Number.digitsValue [a, b]
    let minutes := Number.digitsValue [c, d]
    if (sign = '+' || sign = '-') && [a, b, c, d].all Char.isDigit && hours ≤ 24 && minutes ≤ 60
    then some r else none
  | _ => none

/-- True for a timestamp. -/
def isTimestamp (s : String) : Bool :=
  let rest := match date? s.toList with
    | some [] => some []
    | some (' ' :: r) => time? r
    | some (c :: r) => if c = 'T' || c = 't' then (time? r).bind zone? else none
    | none => none
  rest = some []

end KernelGraph.Yaml.Timestamp

namespace KernelGraph.Yaml

/-! ## Meanings -/

/-- What a scalar means. -/
inductive Meaning
  | null
  | bool (b : Bool)
  | int (n : Int)
  | float (n : Number)
  /-- The result of a computation without a meaningful result. -/
  | notANumber
  | timestamp
  | text (s : String)
  deriving DecidableEq

namespace Meaning

/-! ## Words -/

/-- The spellings of null. -/
def nulls : List String := ["", "~", "null", "Null", "NULL"]

/-- The scalars that mean something other than a text by their spelling alone. -/
def words : List (String × Meaning) :=
  nulls.map (·, null) ++
    ["true", "True", "TRUE"].map (·, bool true) ++
    ["false", "False", "FALSE"].map (·, bool false) ++
    [".nan", ".NaN", ".NAN"].map (·, notANumber) ++
    [".inf", ".Inf", ".INF", "+.inf", "+.Inf", "+.INF"].map (·, float (.infinite false)) ++
    ["-.inf", "-.Inf", "-.INF"].map (·, float (.infinite true))

/-! ## Whole numbers -/

/-- Reads at least one digit of a base. -/
def digits? (base : Nat) (cs : List Char) : Option Nat :=
  if cs.isEmpty then none else Text.digitsValue? base cs

/-- A number with a sign: at least -2^63, and below 2^64. -/
def inRange? (negative : Bool) (n : Nat) : Option Int :=
  if negative then if n ≤ Word.bound then some (-n) else none
  else if n < 2 * Word.bound then some n else none

/-- Reads an unsigned whole number; a zero in front tells the base. -/
def unsigned? (cs : List Char) : Option Nat :=
  match cs with
  | '0' :: 'x' :: r | '0' :: 'X' :: r => digits? 16 r
  | '0' :: 'b' :: r | '0' :: 'B' :: r => digits? 2 r
  | '0' :: 'o' :: r | '0' :: 'O' :: r => digits? 8 r
  | '0' :: c :: r => digits? 8 (c :: r)
  | _ => digits? 10 cs

/-- Reads a whole number whose sign stands behind the mark of its base. -/
def signInside? (base : Nat) (cs : List Char) : Option Int :=
  let (negative, ds) := Number.signed cs
  (digits? base ds).bind (inRange? negative)

/-- Reads a whole number of 64 bits, with or without sign. -/
def int? (cs : List Char) : Option Int :=
  let (negative, r) := Number.signed cs
  match (unsigned? r).bind (inRange? negative), cs with
  | some n, _ => some n
  | none, '0' :: 'b' :: r => signInside? 2 r
  | none, '0' :: 'o' :: r => signInside? 8 r
  | none, _ => none

/-! ## Numbers with a fraction -/

/-- The significant binary digits. -/
def floatBits : Nat := 53

/-- The largest place of a leading binary digit. -/
def floatPlace : Int := 1024

/-- Decimal exponents beyond which a number is too large or as good as zero. -/
def exponentLimit : Int := 400

/-- The number `± m * 10 ^ e`, unless it is too large. -/
def scaled? (negative : Bool) (m : Nat) (e : Int) : Option Number :=
  let place := e + (Number.digits m).length
  if m = 0 || place < -exponentLimit then some (.zero negative)
  else if exponentLimit < place then none
  else
    let n := if 0 ≤ e then Number.ofParts floatBits negative (m * Nat.pow 10 e.toNat) 0
      else Number.divParts floatBits negative m 0 (Nat.pow 10 (-e).toNat) 0
    match n with
    | .finite _ k f => if f + Number.bitLength k ≤ floatPlace then some n else none
    | .infinite _ => none

/-- Reads a decimal number: digits with a point, of which a digit stands before or after, and an
    exponent. -/
def float? (cs : List Char) : Option Number :=
  let (negative, r) := Number.signed cs
  let (whole, r) := Number.spanDigits r
  let (fraction, r) := match r with
    | '.' :: r => Number.spanDigits r
    | _ => ([], r)
  let exponent : Option Int := match r with
    | [] => some 0
    | c :: r =>
      let (negative, ds) := Number.signed r
      if (c = 'e' || c = 'E') && !ds.isEmpty && ds.all Char.isDigit then
        some (if negative then -(Number.digitsValue ds : Int) else Number.digitsValue ds)
      else none
  if whole.isEmpty && fraction.isEmpty then none
  else
    exponent.bind fun e =>
      scaled? negative (Number.digitsValue (whole ++ fraction)) (e - fraction.length)

/-- True when every underscore stands between two digits; `digit` tells that one stands before. -/
def separates : (digit : Bool) → List Char → Bool
  | _, [] => true
  | digit, c :: r =>
    if c = '_' then digit && r.head?.any Char.isDigit && separates false r
    else separates c.isDigit r

/-! ## Scalars -/

/-- The meaning of a plain scalar.  Underscores in a number do not count; in one that begins with a
    point they have to separate digits. -/
def ofPlain (s : String) : Meaning :=
  match words.lookup s with
  | some m => m
  | none =>
    let cs := s.toList
    let digits := cs.filter (· ≠ '_')
    match cs with
    | '.' :: _ => if separates false cs then ((float? digits).map float).getD (text s) else text s
    | c :: _ =>
      if c.isDigit || c = '-' || c = '+' then
        match int? digits, float? digits with
        | some n, _ => int n
        | none, some n => float n
        | none, none => text s
      else text s
    | [] => null

/-- The meaning of a scalar with a tag, if it has one of that kind.  Every scalar is a text; it is
    one, too, if the tag is not known. -/
def ofTagged? (tag s : String) : Option Meaning :=
  match tag, ofPlain s with
  | "!!timestamp", _ => if Timestamp.isTimestamp s then some timestamp else none
  | "!!binary", _ => (Text.ofBase64? s).map text
  | "!!null", null => some null
  | "!!bool", bool b => some (bool b)
  | "!!int", int n => some (int n)
  | "!!float", float n => some (float n)
  | "!!float", notANumber => some notANumber
  | "!!float", int n =>
    if Word.fits n then
      some (float (.ofParts floatBits (n < 0) n.natAbs 0))
    else none
  | "!!null", _ | "!!bool", _ | "!!int", _ | "!!float", _ => none
  | _, _ => some (text s)

end Meaning

end KernelGraph.Yaml
