/-
  Quoted text for messages.

  A quoted text stands between double quotes.  Printable characters stand for themselves, the quote
  and the backslash are escaped, control characters have their short escapes, and every other
  character is written by its code point.
-/
import KernelGraph.Text.Printable

namespace KernelGraph.Text

/-- Lower-case hexadecimal digits of `n`, padded with zeros to `width`. -/
def hex (width n : Nat) : List Char :=
  let ds := Nat.toDigits 16 n
  List.replicate (width - ds.length) '0' ++ ds

/-- The spelling of one character inside a quoted text. -/
def escapeChar (c : Char) : List Char :=
  if c = '"' || c = '\\' then ['\\', c]
  else if isPrintable c then [c]
  else
    match c.toNat with
    | 0x07 => ['\\', 'a']
    | 0x08 => ['\\', 'b']
    | 0x0c => ['\\', 'f']
    | 0x0a => ['\\', 'n']
    | 0x0d => ['\\', 'r']
    | 0x09 => ['\\', 't']
    | 0x0b => ['\\', 'v']
    | n =>
      if n < 0x20 || n = 0x7f then '\\' :: 'x' :: hex 2 n
      else if n < 0x10000 then '\\' :: 'u' :: hex 4 n
      else '\\' :: 'U' :: hex 8 n

/-- The text between double quotes, with escapes. -/
def quoted (s : String) : String :=
  String.ofList ('"' :: s.toList.flatMap escapeChar ++ ['"'])

/-- The spelling of one character where everything outside ASCII and every control character is
    written by its bytes. -/
def escapeBytes (c : Char) : List Char :=
  if c.toNat < 0x20 || 0x80 ≤ c.toNat then
    (String.singleton c).toUTF8.toList.flatMap fun b => '\\' :: 'x' :: hex 2 b.toNat
  else if c = '"' || c = '\\' then ['\\', c]
  else [c]

/-- The text between double quotes, in ASCII. -/
def quotedBytes (s : String) : String :=
  String.ofList ('"' :: s.toList.flatMap escapeBytes ++ ['"'])

end KernelGraph.Text
