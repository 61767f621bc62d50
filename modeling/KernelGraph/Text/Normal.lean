/-
  The composed normal form of a text.

  Two spellings of one text, with a letter and a mark or with one composed character, have the same
  normal form.  It is reached in three steps: every character is decomposed, the marks behind a
  character are put in the order of their classes, and characters are composed again as far as
  possible.  After thirty marks in a row a joiner is put in, so that a run of marks stays short.
-/
import KernelGraph.Text.Composition

namespace KernelGraph.Text

/-! ## Korean syllables

A syllable is a leading consonant, a vowel and possibly a tail; its code point is computed from
theirs. -/

/-- The first syllable. -/
def syllableBase : Nat := 0xac00

/-- The first leading consonant. -/
def leadBase : Nat := 0x1100

/-- The first vowel. -/
def vowelBase : Nat := 0x1161

/-- The place before the first tail; it stands for no tail. -/
def tailBase : Nat := 0x11a7

/-- The number of leading consonants. -/
def leadCount : Nat := 19

/-- The number of vowels. -/
def vowelCount : Nat := 21

/-- The number of tails, no tail included. -/
def tailCount : Nat := 28

/-- The number of syllables. -/
def syllableCount : Nat := leadCount * vowelCount * tailCount

/-- The decomposition of a syllable: without its tail, or without its vowel if it has no tail. -/
def syllableParts? (n : Nat) : Option (Nat × Nat) :=
  if n < syllableBase || syllableBase + syllableCount ≤ n then none
  else
    let i := n - syllableBase
    if i % tailCount ≠ 0 then some (n - i % tailCount, tailBase + i % tailCount)
    else
      some (leadBase + i / (vowelCount * tailCount),
        vowelBase + i % (vowelCount * tailCount) / tailCount)

/-- The syllable of a consonant and a vowel, or of a syllable without tail and a tail. -/
def syllable? (a b : Nat) : Option Nat :=
  if leadBase ≤ a && a < leadBase + leadCount && vowelBase ≤ b && b < vowelBase + vowelCount then
    some (syllableBase + ((a - leadBase) * vowelCount + (b - vowelBase)) * tailCount)
  else if syllableBase ≤ a && a < syllableBase + syllableCount &&
      (a - syllableBase) % tailCount = 0 && tailBase < b && b < tailBase + tailCount then
    some (a + (b - tailBase))
  else none

/-! ## Decomposing -/

/-- One step of the decomposition; a second code point 0 is none. -/
def decomposeStep? (n : Nat) : Option (Nat × Nat) :=
  if n < 0xc0 then none
  else
    match syllableParts? n with
    | some parts => some parts
    | none =>
      match decompositionEntry? composed n with
      | some parts => some parts
      | none => decompositionEntry? replaced n

/-- How many steps a decomposition has at most.  Only the first code point can go on. -/
def decompositionDepth : Nat := 4

/-- The decomposition of a code point, in at most `depth` steps. -/
def decompose : (depth n : Nat) → List Nat
  | 0, n => [n]
  | depth + 1, n =>
    match decomposeStep? n with
    | none => [n]
    | some (a, 0) => decompose depth a
    | some (a, b) => decompose depth a ++ [b]

/-! ## Long runs of marks -/

/-- Code points of class zero that compose with the one before, besides Korean vowels and tails. -/
def spacingMarks : List Nat := [
  0x9be, 0x9d7, 0xb3e, 0xb56, 0xb57, 0xbbe, 0xbd7, 0xcc2, 0xcd5, 0xcd6, 0xd3e, 0xd57, 0xdcf, 0xddf,
  0x102e, 0x1b35, 0x11127, 0x1133e, 0x11357, 0x114b0, 0x114ba, 0x114bd, 0x115af, 0x11930]

/-- True for a code point that can change or join the one before. -/
def joinsBackward (n : Nat) : Bool :=
  combiningClass n ≠ 0 || (vowelBase ≤ n && n < vowelBase + vowelCount) ||
    (tailBase < n && n < tailBase + tailCount) || spacingMarks.contains n

/-- The longest run of marks. -/
def longestRun : Nat := 30

/-- The joiner that separates runs of marks. -/
def joiner : Nat := 0x34f

/-- Decomposes code points, given the length of the run of marks before them. -/
def decomposeAll : (run : Nat) → List Nat → List Nat
  | _, [] => []
  | run, n :: rest =>
    let ds := decompose decompositionDepth n
    let leading := (ds.takeWhile joinsBackward).length
    if leading = 0 then
      ds ++ decomposeAll (ds.reverse.takeWhile joinsBackward).length rest
    else if longestRun < run + leading then joiner :: ds ++ decomposeAll leading rest
    else ds ++ decomposeAll (run + leading) rest

/-! ## Ordering marks -/

/-- Puts a mark behind the marks of its own or a lower class. -/
def insertMark (cls n : Nat) : List (Nat × Nat) → List (Nat × Nat)
  | [] => [(cls, n)]
  | (c, m) :: rest =>
    if c ≤ cls then (c, m) :: insertMark cls n rest else (cls, n) :: (c, m) :: rest

/-- Code points with their classes, the marks of every run in order; `run` holds the marks since the
    last character. -/
def orderMarks : (run : List (Nat × Nat)) → List Nat → List (Nat × Nat)
  | run, [] => run
  | run, n :: rest =>
    let cls := combiningClass n
    if cls = 0 then run ++ (0, n) :: orderMarks [] rest else orderMarks (insertMark cls n run) rest

/-! ## Composing -/

/-- The code point that two neighbours compose to. -/
def compose? (a b : Nat) : Option Nat :=
  match syllable? a b with
  | some n => some n
  | none => composite? a b

/-- Composes a character with what follows it.  `marks` are the marks behind it that stay apart,
    last first, and `last` is the class of the last one.  A code point is blocked by a mark of its
    own or a higher class in between. -/
def composeFrom (first : Nat) (marks : List Nat) (last : Nat) : List (Nat × Nat) → List Nat
  | [] => first :: marks.reverse
  | (cls, n) :: rest =>
    let merged := if !marks.isEmpty && cls ≤ last then none else compose? first n
    match merged with
    | some m => composeFrom m marks last rest
    | none =>
      if cls = 0 then first :: marks.reverse ++ composeFrom n [] 0 rest
      else composeFrom first (n :: marks) cls rest

/-- Composes a whole text. -/
def composeAll : List (Nat × Nat) → List Nat
  | [] => []
  | (_, n) :: rest => composeFrom n [] 0 rest

/-- The composed normal form of a text.  A text without marks and without characters beyond the
    common Latin letters is in normal form. -/
def normal (s : String) : String :=
  if s.toList.all fun c => c.toNat < 0x300 then s
  else
    let codes := s.toList.map Char.toNat
    String.ofList ((composeAll (orderMarks [] (decomposeAll 0 codes))).map Char.ofNat)

end KernelGraph.Text
