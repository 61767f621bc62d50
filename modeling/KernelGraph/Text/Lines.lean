/-
  Lines of a text, blanks and words.

  A line ends at a line feed and keeps it; the last line may lack one.  The lines of a text
  concatenate to the text (`flatten_splitLines`), so walking over lines loses nothing.

  A character is blank when Unicode gives it the property `White_Space`.  Trimming and word
  splitting work on the characters of a text; `trim` is the form for whole strings.
-/

namespace KernelGraph.Text

/-- Cuts a text after every line feed. -/
def splitLines : List Char → List (List Char)
  | [] => []
  | c :: cs =>
    if c = '\n' then [c] :: splitLines cs
    else
      match splitLines cs with
      | [] => [[c]]
      | l :: ls => (c :: l) :: ls

/-- The lines of a text, each with its line feed. -/
def lines (s : String) : List String := (splitLines s.toList).map String.ofList

theorem flatten_splitLines (cs : List Char) : (splitLines cs).flatten = cs := by
  induction cs with
  | nil => rfl
  | cons c cs ih =>
    rw [splitLines]
    split
    · simp [ih]
    · split <;> simp_all

/-- True when the text is empty or ends with a line feed. -/
def isTerminated (s : String) : Bool := s.isEmpty || s.toList.getLast? == some '\n'

/-! ## Blanks and words -/

/-- The characters with the Unicode property `White_Space`. -/
def isBlank (c : Char) : Bool :=
  let n := c.toNat
  (0x09 ≤ n && n ≤ 0x0d) || n == 0x20 || n == 0x85 || n == 0xa0 || n == 0x1680 ||
    (0x2000 ≤ n && n ≤ 0x200a) || n == 0x2028 || n == 0x2029 || n == 0x202f || n == 0x205f ||
    n == 0x3000

/-- Drops the blanks at both ends. -/
def trimChars (cs : List Char) : List Char :=
  ((cs.dropWhile isBlank).reverse.dropWhile isBlank).reverse

/-- Drops the blanks at both ends of a text. -/
def trim (s : String) : String := String.ofList (trimChars s.toList)

/-- The maximal runs of non-blank characters, in order. -/
def words : List Char → List (List Char)
  | [] => []
  | c :: cs =>
    if isBlank c then words cs
    else
      match cs with
      | [] => [[c]]
      | d :: _ =>
        if isBlank d then [c] :: words cs
        else
          match words cs with
          | [] => [[c]]
          | w :: ws => (c :: w) :: ws

/-- The words of a text. -/
def fields (s : String) : List String := (words s.toList).map String.ofList

end KernelGraph.Text
