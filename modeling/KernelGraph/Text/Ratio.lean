/-
  Quotients with six decimals.

  A quotient of two counts is first rounded to a binary number of 53 significant digits and then to
  six decimals; both times a tie goes to the even neighbour.
-/

namespace KernelGraph.Text

/-- The quotient rounded to the nearest whole number, a tie to the even one. -/
def roundDiv (num den : Nat) : Nat :=
  let q := num / den
  let r := 2 * (num % den)
  if r < den then q else if den < r then q + 1 else q + q % 2

/-- How far the quotient `num / den` (at most one) has to be shifted to have 53 binary digits. -/
def binaryShift (num den : Nat) : Nat := 53 + Nat.log2 den - Nat.log2 num

/-- The number `num / 10 ^ 6` with six decimals. -/
def sixDecimals (num : Nat) : String :=
  let rest := toString (num % 1000000)
  toString (num / 1000000) ++ "." ++ String.ofList (List.replicate (6 - rest.length) '0') ++ rest

/-- The part `part` of `total` with six decimals, zero if there is nothing. -/
def ratio (part total : Nat) : String :=
  if part = 0 || total = 0 then sixDecimals 0
  else
    let shift :=
      let s := binaryShift part total
      if Nat.pow 2 53 ≤ roundDiv (part * Nat.pow 2 s) total then s - 1 else s
    sixDecimals (roundDiv (roundDiv (part * Nat.pow 2 shift) total * 1000000) (Nat.pow 2 shift))

end KernelGraph.Text
