/-
  Content digests.

  `Digest.sha1` is the SHA-1 function on byte strings: the message is padded to whole blocks of 64
  bytes, every block is expanded to eighty words, and eighty rounds mix them into five 32-bit words.
  A digest is those five words; its text is the forty upper-case hexadecimal digits.

  `Hasher` collects the bytes that a digest is taken of.  Keeping the bytes, and not a running
  state, makes "two contents have the same digest" a statement about two byte strings.
-/

namespace KernelGraph

/-- Five 32-bit words, the value of SHA-1. -/
structure Digest where
  w0 : UInt32
  w1 : UInt32
  w2 : UInt32
  w3 : UInt32
  w4 : UInt32
  deriving DecidableEq, Inhabited

namespace Digest

/-- The digest whose words are all zero; it stands for "no digest". -/
def zero : Digest := ⟨0, 0, 0, 0, 0⟩

/-- True for the zero digest. -/
def isZero (d : Digest) : Bool := d = zero

/-- The words in order. -/
def words (d : Digest) : List UInt32 := [d.w0, d.w1, d.w2, d.w3, d.w4]

/-- The four bytes of a word, most significant first. -/
def wordBytes (w : UInt32) : List UInt8 :=
  [(w >>> 24).toUInt8, (w >>> 16).toUInt8, (w >>> 8).toUInt8, w.toUInt8]

/-- The twenty bytes of a digest. -/
def toBytes (d : Digest) : List UInt8 := d.words.flatMap wordBytes

/-- The word with the given bytes, most significant first; absent bytes are zero. -/
def wordOfBytes (bs : List UInt8) : UInt32 :=
  let byte (i : Nat) : UInt32 := (bs.getD i 0).toUInt32
  (byte 0 <<< 24) ||| (byte 1 <<< 16) ||| (byte 2 <<< 8) ||| byte 3

/-- The digest with the given bytes: a shorter string is padded with zeros, a longer one cut. -/
def ofBytes (bs : List UInt8) : Digest :=
  let word (i : Nat) := wordOfBytes ((bs.drop (4 * i)).take 4)
  ⟨word 0, word 1, word 2, word 3, word 4⟩

/-- The upper-case hexadecimal digit of a number below sixteen. -/
def hexDigit (n : Nat) : Char :=
  "0123456789ABCDEF".toList.getD n '0'

/-- The two upper-case hexadecimal digits of a byte. -/
def byteHex (b : UInt8) : List Char := [hexDigit (b.toNat / 16), hexDigit (b.toNat % 16)]

/-- Forty upper-case hexadecimal digits. -/
def toHex (d : Digest) : String := String.ofList (d.toBytes.flatMap byteHex)

/-! ## SHA-1 -/

/-- Rotation of a word to the left. -/
def rotate (w : UInt32) (n : UInt32) : UInt32 := (w <<< n) ||| (w >>> (32 - n))

/-- The message, the bit `1`, zeros up to eight bytes before a block's end, and the message's
    length in bits as eight bytes. -/
def pad (message : ByteArray) : ByteArray :=
  let zeros := (119 - message.size % 64) % 64
  let marked := Nat.fold zeros (fun _ _ out => out.push 0) (message.push 0x80)
  let bits := message.size * 8
  Nat.fold 8 (fun i _ out => out.push (bits >>> (8 * (7 - i))).toUInt8) marked

/-- The byte at a position, zero behind the end. -/
def byteAt (bytes : ByteArray) (i : Nat) : UInt8 := if h : i < bytes.size then bytes[i] else 0

/-- Word `i` of the block that starts at byte `start`. -/
def blockWord (bytes : ByteArray) (start i : Nat) : UInt32 :=
  let byte (k : Nat) : UInt32 := (byteAt bytes (start + 4 * i + k)).toUInt32
  (byte 0 <<< 24) ||| (byte 1 <<< 16) ||| (byte 2 <<< 8) ||| byte 3

/-- The eighty words that a block is expanded to. -/
def schedule (bytes : ByteArray) (start : Nat) : Array UInt32 :=
  let first := Nat.fold 16 (fun i _ out => out.push (blockWord bytes start i)) #[]
  Nat.fold 64 (fun i _ w =>
    w.push (rotate
      (w.getD (i + 13) 0 ^^^ w.getD (i + 8) 0 ^^^ w.getD (i + 2) 0 ^^^ w.getD i 0) 1)) first

/-- Round `t` on the five working words. -/
def round (t : Nat) (w : UInt32) (s : Digest) : Digest :=
  let (f, k) : UInt32 × UInt32 :=
    if t < 20 then ((s.w1 &&& s.w2) ||| (~~~s.w1 &&& s.w3), 0x5a827999)
    else if t < 40 then (s.w1 ^^^ s.w2 ^^^ s.w3, 0x6ed9eba1)
    else if t < 60 then ((s.w1 &&& s.w2) ||| (s.w1 &&& s.w3) ||| (s.w2 &&& s.w3), 0x8f1bbcdc)
    else (s.w1 ^^^ s.w2 ^^^ s.w3, 0xca62c1d6)
  ⟨rotate s.w0 5 + f + s.w4 + k + w, s.w0, rotate s.w1 30, s.w2, s.w3⟩

/-- Mixes one block into the state. -/
def compress (bytes : ByteArray) (s : Digest) (start : Nat) : Digest :=
  let w := schedule bytes start
  let r := Nat.fold 80 (fun t _ r => round t (w.getD t 0) r) s
  ⟨s.w0 + r.w0, s.w1 + r.w1, s.w2 + r.w2, s.w3 + r.w3, s.w4 + r.w4⟩

/-- SHA-1 of a byte string. -/
def sha1 (message : ByteArray) : Digest :=
  let bytes := pad message
  Nat.fold (bytes.size / 64) (fun i _ s => compress bytes s (64 * i))
    ⟨0x67452301, 0xefcdab89, 0x98badcfe, 0x10325476, 0xc3d2e1f0⟩

/-- SHA-1 of a text in UTF-8. -/
def ofText (s : String) : Digest := sha1 s.toUTF8

end Digest

/-- The content that a digest is to be taken of. -/
structure Hasher where
  content : ByteArray := .empty

namespace Hasher

/-- Adds a text. -/
def write (h : Hasher) (s : String) : Hasher := ⟨h.content ++ s.toUTF8⟩

/-- Adds the twenty bytes of a digest. -/
def writeDigest (h : Hasher) (d : Digest) : Hasher := ⟨h.content ++ ⟨d.toBytes.toArray⟩⟩

/-- The digest of everything written so far. -/
def sum (h : Hasher) : Digest := Digest.sha1 h.content

end Hasher

end KernelGraph
