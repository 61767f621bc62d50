/-
  Decimal texts of numbers.

  A number is written in positional notation with the fewest digits that read back as the same
  number.  It is read from digits with a point and an exponent, of ten after `e` or of two after
  `p`; a power of five beyond the precision is itself rounded to a few digits more than the result.
-/
import KernelGraph.Number.Basic

namespace KernelGraph.Number

/-! ## Digits -/

/-- The value of decimal digits. -/
def digitsValue (ds : List Char) : Nat := ds.foldl (fun n d => n * 10 + (d.toNat - '0'.toNat)) 0

/-- Splits off the decimal digits at the front. -/
def spanDigits (cs : List Char) : List Char × List Char :=
  (cs.takeWhile Char.isDigit, cs.dropWhile Char.isDigit)

/-- The number of digits of a piece of a long number. -/
def pieceLength : Nat := 200

/-- The digits of a number below `10 ^ pieceLength`, filled up with zeros. -/
def pieceDigits (n : Nat) : List Char :=
  let ds := (toString n).toList
  List.replicate (pieceLength - ds.length) '0' ++ ds

/-- The decimal digits of a number, computed in pieces from the last one, in front of others. -/
def digitsBefore (n : Nat) (ds : List Char) : List Char :=
  if h : n < Nat.pow 10 pieceLength then (toString n).toList ++ ds
  else
    have : n / Nat.pow 10 pieceLength < n :=
      Nat.div_lt_self (Nat.lt_of_lt_of_le (Nat.pow_pos (by decide)) (Nat.not_lt.mp h))
        (Nat.one_lt_pow (by decide) (by decide))
    digitsBefore (n / Nat.pow 10 pieceLength) (pieceDigits (n % Nat.pow 10 pieceLength) ++ ds)
termination_by n

/-- The decimal digits of a number. -/
def digits (n : Nat) : List Char := digitsBefore n []

/-! ## Decimals -/

/-- The decimal `0.digits * 10 ^ point`; the last digit is not zero. -/
structure Decimal where
  digits : Array Char
  point : Int
  deriving DecidableEq, Inhabited

namespace Decimal

/-- Drops zeros at the end. -/
def trim (d : Decimal) : Decimal :=
  { d with digits := ((d.digits.toList.reverse.dropWhile (· = '0')).reverse).toArray }

/-- The decimal of `m * 2 ^ e`, exactly. -/
def ofParts (m : Nat) (e : Int) : Decimal :=
  if m = 0 then ⟨#[], 0⟩
  else
    let ds := Number.digits (if 0 ≤ e then shiftLeft m e.toNat else m * Nat.pow 5 (-e).toNat)
    trim ⟨ds.toArray, if 0 ≤ e then ds.length else ds.length + e⟩

/-- The digit at a position, zero outside. -/
def digit (d : Decimal) (i : Int) : Char := if i < 0 then '0' else d.digits.getD i.toNat '0'

/-- Keeps the first `n` digits. -/
def roundDown (d : Decimal) (n : Nat) : Decimal :=
  if d.digits.size ≤ n then d else trim { d with digits := d.digits.take n }

/-- The next decimal with `n` digits; nines at the end vanish. -/
def roundUp (d : Decimal) (n : Nat) : Decimal :=
  if d.digits.size ≤ n then d
  else
    match (d.digits.take n).toList.reverse.dropWhile (· = '9') with
    | [] => ⟨#['1'], d.point + 1⟩
    | c :: rest => { d with digits := (Char.ofNat (c.toNat + 1) :: rest).reverse.toArray }

/-- The nearest decimal with `n` digits, a tie to the one with an even last digit. -/
def round (d : Decimal) (n : Nat) : Decimal :=
  let next := d.digits.getD n '0'
  let up := if next = '5' && n + 1 = d.digits.size then
      n ≠ 0 && (d.digits.getD (n - 1) '0').toNat % 2 = 1
    else decide ('5' ≤ next)
  if up then d.roundUp n else d.roundDown n

/-- Positional notation. -/
def text (d : Decimal) : String :=
  let whole := if d.point ≤ 0 then ['0']
    else (List.range d.point.toNat).map fun (i : Nat) => d.digit i
  let places := (d.digits.size - d.point).toNat
  let fraction := (List.range places).map fun (i : Nat) => d.digit (d.point + i)
  String.ofList (if places = 0 then whole else whole ++ '.' :: fraction)

end Decimal

/-- The decimal with the fewest digits between two bounds around `d`, starting at digit `i`.  A
    bound itself counts if it is `inclusive`. -/
def shortestFrom (d lower upper : Decimal) (inclusive : Bool) : (fuel i : Nat) → Decimal
  | 0, _ => d
  | fuel + 1, i =>
    let m := d.digit i
    let l := lower.digit i
    let u := upper.digit i
    let down := l ≠ m || (inclusive && i + 1 = lower.digits.size)
    let up := m ≠ u && (inclusive || m.toNat + 1 < u.toNat || i + 1 < upper.digits.size)
    if down && up then d.round (i + 1)
    else if down then d.roundDown (i + 1)
    else if up then d.roundUp (i + 1)
    else shortestFrom d lower upper inclusive fuel (i + 1)

/-- The shortest decimal that rounds to `m * 2 ^ e` with the given number of binary digits.  The
    bounds are half a unit of the last place away; a tie goes to an even mantissa. -/
def shortest (bits m : Nat) (e : Int) : Decimal :=
  let d := Decimal.ofParts m e
  let scale := bits + 1 - bitLength m
  let wide := shiftLeft m scale
  let low := e - scale
  shortestFrom d (.ofParts (wide - 1) low) (.ofParts (wide + 1) low) (wide / 2 % 2 = 0)
    d.digits.size 0

/-- A number in positional notation with the fewest digits that read back. -/
def text : Number → String
  | infinite s => if s then "-Inf" else "+Inf"
  | finite s m e =>
    (if s then "-" else "") ++ (if m = 0 then "0" else (shortest precision m e).text)

/-! ## Reading -/

/-- Digits beyond the precision of the result that a power of five is computed with. -/
def guardBits : Nat := 64

/-- The largest power of five below `2 ^ 64`, as exponent. -/
def exactFives : Nat := 27

/-- The product of numbers of which none is zero. -/
def mulFinite (bits : Nat) (x y : Number) : Number := (mul? bits x y).getD (infinite false)

/-- Multiplies `z` by powers of five, given by the binary digits of `n`: `f` is the factor for the
    last of them. -/
def fivesFrom : (fuel n : Nat) → (z f : Number) → Number
  | 0, _, z, _ => z
  | fuel + 1, n, z, f =>
    if n = 0 then z
    else
      let z := if n % 2 = 1 then mulFinite (precision + guardBits) z f else z
      fivesFrom fuel (n / 2) z (mulFinite (precision + 2 * guardBits) f f)

/-- A power of five, with a few digits more than a result has. -/
def fives (n : Nat) : Number :=
  if n ≤ exactFives then ofNat (Nat.pow 5 n)
  else
    let rest := n - exactFives
    fivesFrom (bitLength rest) rest (ofNat (Nat.pow 5 exactFives)) (ofNat 5)

/-- The bound of exponents that are read. -/
def exponentBound : Nat := 9223372036854775808

/-- The sign at the front and the rest. -/
def signed (cs : List Char) : Bool × List Char :=
  match cs with
  | '-' :: r => (true, r)
  | '+' :: r => (false, r)
  | _ => (false, cs)

/-- Reads an exponent and tells whether it is one of two.  Nothing may follow. -/
def exponent? (cs : List Char) : Option (Bool × Int) :=
  match cs with
  | [] => some (false, 0)
  | c :: r =>
    let base := if c = 'e' || c = 'E' then some false
      else if c = 'p' || c = 'P' then some true
      else none
    let (negative, ds) := signed r
    let n := digitsValue ds
    match base with
    | none => none
    | some two =>
      if ds.isEmpty || !ds.all Char.isDigit then none
      else if negative then if n ≤ exponentBound then some (two, -n) else none
      else if n < exponentBound then some (two, n) else none

/-- The number `± m * 5 ^ fives * 2 ^ twos`; the place of the leading digit without the fives has to
    be a possible one. -/
def scaled? (negative : Bool) (m : Nat) (fiveExp twoExp : Int) : Option Number :=
  let place := twoExp + bitLength m
  if m = 0 then some (zero negative)
  else if place < minPlace || maxPlace < place then none
  else
    match fives fiveExp.natAbs with
    | infinite _ => some (if fiveExp < 0 then zero negative else infinite negative)
    | finite _ n f =>
      if fiveExp < 0 then some (divParts precision negative m twoExp n f)
      else some (ofParts precision negative (m * n) (twoExp + f))

/-- Reads digits with at most one point, at least one digit, and an exponent. -/
def unsigned? (negative : Bool) (cs : List Char) : Option Number :=
  let (whole, rest) := spanDigits cs
  let (fraction, rest) := match rest with
    | '.' :: r => spanDigits r
    | _ => ([], rest)
  if whole.isEmpty && fraction.isEmpty then none
  else
    match exponent? rest with
    | none => none
    | some (two, x) =>
      let places : Int := fraction.length
      scaled? negative (digitsValue (whole ++ fraction)) (if two then -places else x - places)
        (x - places)

/-- Reads a number from a whole text: a decimal number or an infinity, with or without sign. -/
def ofText? (s : String) : Option Number :=
  let (negative, cs) := signed s.toList
  if cs = ['I', 'n', 'f'] || cs = ['i', 'n', 'f'] then some (infinite negative)
  else unsigned? negative cs

end KernelGraph.Number
