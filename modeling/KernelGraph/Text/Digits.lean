/-
  Digits: hexadecimal numbers, characters by code, and bytes in six-bit digits.

  Of six-bit digits four stand for three bytes.  At the end one or two digits may be replaced by
  equals signs and stand for fewer bytes.  Line ends do not count.
-/

namespace KernelGraph.Text

/-- The value of a hexadecimal digit. -/
def hexDigit? (c : Char) : Option Nat :=
  if c.isDigit then some (c.toNat - '0'.toNat)
  else if 'a' ≤ c && c ≤ 'f' then some (c.toNat - 'a'.toNat + 10)
  else if 'A' ≤ c && c ≤ 'F' then some (c.toNat - 'A'.toNat + 10)
  else none

/-- Reads digits of a base up to 16. -/
def digitsValue? (base : Nat) (cs : List Char) : Option Nat :=
  cs.foldl (fun n c =>
    match n, hexDigit? c with
    | some n, some d => if d < base then some (n * base + d) else none
    | _, _ => none) (some 0)

/-- The character with a code, if there is one. -/
def charOfCode? (n : Nat) : Option Char := if n.isValidChar then some (Char.ofNat n) else none

/-- The character whose code has `width` hexadecimal digits at the front of a text. -/
def hexChar? (width : Nat) (cs : List Char) : Option Char :=
  let ds := cs.take width
  if ds.length = width then (digitsValue? 16 ds).bind charOfCode? else none

/-! ## Bytes -/

/-- The value of a six-bit digit. -/
def sixBits? (c : Char) : Option Nat :=
  if c.isUpper then some (c.toNat - 'A'.toNat)
  else if c.isLower then some (c.toNat - 'a'.toNat + 26)
  else if c.isDigit then some (c.toNat - '0'.toNat + 52)
  else if c = '+' then some 62
  else if c = '/' then some 63
  else none

/-- The first `count` of the three bytes that four digits stand for. -/
def sixBitBytes? (count : Nat) (a b c d : Char) : Option (List UInt8) := do
  let n := (← sixBits? a) * 262144 + (← sixBits? b) * 4096 + (← sixBits? c) * 64 + (← sixBits? d)
  return [(n / 65536).toUInt8, (n / 256).toUInt8, n.toUInt8].take count

/-- The bytes that digits stand for. -/
def base64Bytes? : List Char → Option (List UInt8)
  | [] => some []
  | [a, b, '=', '='] => sixBitBytes? 1 a b 'A' 'A'
  | [a, b, c, '='] => sixBitBytes? 2 a b c 'A'
  | a :: b :: c :: d :: cs => do return (← sixBitBytes? 3 a b c d) ++ (← base64Bytes? cs)
  | _ => none

/-- The text that digits stand for. -/
def ofBase64? (s : String) : Option String := do
  let bytes ← base64Bytes? (s.toList.filter fun c => c ≠ '\r' && c ≠ '\n')
  String.fromUTF8? ⟨bytes.toArray⟩

end KernelGraph.Text
