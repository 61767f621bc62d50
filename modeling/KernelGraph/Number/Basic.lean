/-
  Binary floating-point numbers of a chosen precision.

  A number is a signed infinity or a signed multiple of a power of two; zero has a sign, too.  Every
  operation is exact up to one rounding: the result is rounded to a number of significant binary
  digits, a tie goes to the even neighbour.  A result that is too large becomes infinite, one that
  is too small becomes zero.  An operation without a meaningful result, such as zero times infinity,
  has none.

  Whole numbers are limited by the range of machine words instead.
-/

namespace KernelGraph.Word

/-! ## Words -/

/-- One more than the largest signed word of 64 bits. -/
def bound : Nat := 0x8000000000000000

/-- True for a number that a signed word of 64 bits holds. -/
def fits (n : Int) : Bool := -(bound : Int) ≤ n && n < bound

end KernelGraph.Word

namespace KernelGraph

/-! ## Binary numbers -/

/-- A number.  A finite number is `± mantissa * 2 ^ exponent`; its mantissa is odd, or zero with the
    exponent zero, so that equal numbers are the same value. -/
inductive Number
  | finite (negative : Bool) (mantissa : Nat) (exponent : Int)
  | infinite (negative : Bool)
  deriving DecidableEq, Repr, Inhabited

namespace Number

/-- The significant binary digits that numbers of graph files have. -/
def precision : Nat := 512

/-- The largest place of a leading binary digit, counted from the point. -/
def maxPlace : Int := 2147483647

/-- The smallest place of a leading binary digit. -/
def minPlace : Int := -2147483648

/-- The number of binary digits. -/
def bitLength (n : Nat) : Nat := if n = 0 then 0 else Nat.log2 n + 1

/-- `m * 2 ^ n`. -/
def shiftLeft (m n : Nat) : Nat := m * Nat.pow 2 n

/-- Zero. -/
def zero (negative : Bool) : Number := finite negative 0 0

/-! ## Rounding -/

/-- Removes binary zeros at the end of a mantissa. -/
def strip (m : Nat) (e : Int) : Nat × Int :=
  if h : m ≠ 0 ∧ m % 2 = 0 then
    have : m / 2 < m := Nat.div_lt_self (Nat.pos_of_ne_zero h.1) (by decide)
    strip (m / 2) (e + 1)
  else (m, e)
termination_by m

/-- The quotient by `2 ^ n` rounded to the nearest whole number, a tie to the even one. -/
def roundShift (m n : Nat) : Nat :=
  let q := m / Nat.pow 2 n
  let r := 2 * (m % Nat.pow 2 n)
  if r < Nat.pow 2 n then q else if Nat.pow 2 n < r then q + 1 else q + q % 2

/-- Rounds a mantissa to a number of binary digits. -/
def roundBits (bits m : Nat) (e : Int) : Nat × Int :=
  let excess := bitLength m - bits
  if excess = 0 then (m, e) else (roundShift m excess, e + excess)

/-- The number `± m * 2 ^ e` rounded to a number of binary digits. -/
def ofParts (bits : Nat) (negative : Bool) (m : Nat) (e : Int) : Number :=
  let (m, e) := roundBits bits m e
  let (m, e) := strip m e
  let place := e + bitLength m
  if m = 0 || place < minPlace then zero negative
  else if maxPlace < place then infinite negative
  else finite negative m e

/-- A whole number. -/
def ofNat (n : Nat) : Number := ofParts (max precision (bitLength n)) false n 0

/-! ## Signs -/

/-- True for a number with a minus sign, minus zero included. -/
def isNegative : Number → Bool
  | finite s _ _ => s
  | infinite s => s

/-- True for zero of either sign. -/
def isZero : Number → Bool
  | finite _ 0 _ => true
  | _ => false

/-- The number with the opposite sign. -/
def neg : Number → Number
  | finite s m e => finite (!s) m e
  | infinite s => infinite (!s)

/-! ## Arithmetic -/

/-- The least exponent that a summand is aligned to when the other one is `m * 2 ^ e`: digits far
    below the last place of the sum matter only by not being zero. -/
def farBelow (bits : Nat) (e : Int) : Int := e - bits - 4

/-- A summand that does not reach up to `limit`, replaced by the least one there. -/
def raise (limit : Int) (m : Nat) (e : Int) : Nat × Int :=
  if m ≠ 0 && e + bitLength m < limit then (1, limit) else (m, e)

/-- The signed sum of two multiples of powers of two, rounded. -/
def addParts (bits : Nat) (s : Bool) (m : Nat) (e : Int) (t : Bool) (n : Nat) (f : Int) : Number :=
  let (n, f) := raise (farBelow bits e) n f
  let (m, e) := raise (farBelow bits f) m e
  let low := min e f
  let a := shiftLeft m (e - low).toNat
  let b := shiftLeft n (f - low).toNat
  if s = t then ofParts bits s (a + b) low
  else if a = b then zero false
  else if b < a then ofParts bits s (a - b) low
  else ofParts bits t (b - a) low

/-- The sum; two opposite infinities have none. -/
def add? (bits : Nat) : Number → Number → Option Number
  | infinite s, infinite t => if s = t then some (infinite s) else none
  | infinite s, finite .. => some (infinite s)
  | finite .., infinite t => some (infinite t)
  | finite s m e, finite t n f =>
    if m = 0 && n = 0 then some (zero (s && t))
    else if n = 0 then some (finite s m e)
    else if m = 0 then some (finite t n f)
    else some (addParts bits s m e t n f)

/-- The difference. -/
def sub? (bits : Nat) (x y : Number) : Option Number := add? bits x y.neg

/-- The product; zero times infinity has none. -/
def mul? (bits : Nat) : Number → Number → Option Number
  | finite s m e, finite t n f => some (ofParts bits (s != t) (m * n) (e + f))
  | x, y =>
    if x.isZero || y.isZero then none else some (infinite (x.isNegative != y.isNegative))

/-- The quotient `± m * 2 ^ e / (n * 2 ^ f)`, rounded.  One digit more than needed is computed and
    the remainder is added as a last digit. -/
def divParts (bits : Nat) (negative : Bool) (m : Nat) (e : Int) (n : Nat) (f : Int) : Number :=
  let extra := bits + 2 + bitLength n - bitLength m
  let a := shiftLeft m extra
  let sticky := if a % n = 0 then 0 else 1
  ofParts bits negative (2 * (a / n) + sticky) (e - f - extra - 1)

/-- The quotient; zero by zero and infinity by infinity have none. -/
def div? (bits : Nat) : Number → Number → Option Number
  | infinite _, infinite _ => none
  | infinite s, finite t _ _ => some (infinite (s != t))
  | finite s _ _, infinite t => some (zero (s != t))
  | finite s m e, finite t n f =>
    if n = 0 then if m = 0 then none else some (infinite (s != t))
    else some (divParts bits (s != t) m e n f)

/-- The number without its fraction. -/
def truncate? : Number → Option Number
  | infinite _ => none
  | finite s m e =>
    if 0 ≤ e then some (finite s m e)
    else some (ofParts (bitLength m) s (m / Nat.pow 2 (-e).toNat) 0)

/-- The remainder of a division that is cut to a whole number; a number modulo zero is itself. -/
def mod? (bits : Nat) (x y : Number) : Option Number :=
  if y.isZero then some x
  else do
    let q ← (← div? bits x y).truncate?
    sub? bits x (← mul? bits y (if q.isZero then zero false else q))

/-! ## Order -/

/-- The number as a fraction of whole numbers, without its sign. -/
def compareParts (m : Nat) (e : Int) (n : Nat) (f : Int) : Ordering :=
  if m = 0 || n = 0 then compare m n
  else
    match compare (e + bitLength m) (f + bitLength n) with
    | .eq =>
      let low := min e f
      compare (shiftLeft m (e - low).toNat) (shiftLeft n (f - low).toNat)
    | o => o

/-- The order of two numbers; zeros of either sign are equal. -/
def order : Number → Number → Ordering
  | infinite s, infinite t => if s = t then .eq else if s then .lt else .gt
  | infinite s, finite .. => if s then .lt else .gt
  | finite .., infinite t => if t then .gt else .lt
  | finite s m e, finite t n f =>
    if m = 0 && n = 0 then .eq
    else if m = 0 then (if t then .gt else .lt)
    else if n = 0 then (if s then .lt else .gt)
    else if s ≠ t then (if s then .lt else .gt)
    else if s then compareParts n f m e
    else compareParts m e n f

/-! ## Whole numbers -/

/-- True for a whole number. -/
def isWhole : Number → Bool
  | finite _ _ e => 0 ≤ e
  | infinite _ => false

/-- The whole part of a number whose leading digit is at most at place `width`. -/
def floorBelow? (width : Nat) : Number → Option Nat
  | infinite _ => none
  | finite _ m e =>
    if (width : Int) < e + bitLength m then none
    else some (if 0 ≤ e then shiftLeft m e.toNat else m / Nat.pow 2 (-e).toNat)

/-- A whole number of at most `width` binary digits, with its sign. -/
def whole? (width : Nat) (x : Number) : Option Int :=
  if x.isWhole then
    (x.floorBelow? width).map fun n => if x.isNegative then -(n : Int) else n
  else none

end Number

end KernelGraph
