/-
  Comparing with keywords, searching and replacing inside a text.

  Keywords of this library are ASCII.  To compare an arbitrary text with a keyword it is enough to
  map the characters whose case mapping is an ASCII letter; every other character is left alone and
  can match no keyword.  Besides the ASCII letters themselves these are: dotted capital I and the
  Kelvin sign (lower case), dotless i and long s (upper case), long s and the Kelvin sign (folding).

  All searches go from left to right and take the first place where the pattern stands; replacements
  do not overlap and are not searched again.
-/

namespace KernelGraph.Text

/-! ## Letter case -/

/-- Lower case of the characters whose lower case is ASCII. -/
def lowerChar (c : Char) : Char :=
  if c.toNat = 0x130 then 'i' else if c.toNat = 0x212a then 'k' else c.toLower

/-- Upper case of the characters whose upper case is ASCII. -/
def upperChar (c : Char) : Char :=
  if c.toNat = 0x131 then 'I' else if c.toNat = 0x17f then 'S' else c.toUpper

/-- The ASCII representative of a character under simple case folding. -/
def foldChar (c : Char) : Char :=
  if c.toNat = 0x17f then 's' else if c.toNat = 0x212a then 'k' else c.toLower

/-- Lower case of a text, for comparison with an ASCII keyword. -/
def lower (s : String) : String := String.ofList (s.toList.map lowerChar)

/-- Upper case of a text, for comparison with an ASCII keyword. -/
def upper (s : String) : String := String.ofList (s.toList.map upperChar)

/-- Equality of a text with an ASCII keyword up to simple case folding. -/
def equalFold (s keyword : String) : Bool :=
  s.toList.map foldChar == keyword.toList.map foldChar

/-! ## Searching and replacing -/

/-- The rest of `cs` after the pattern `p` at its front, if it stands there. -/
def dropFront? : List Char → List Char → Option (List Char)
  | [], cs => some cs
  | _ :: _, [] => none
  | p :: ps, c :: cs => if p = c then dropFront? ps cs else none

/-- True when `s` begins with `p`. -/
def startsWith (s p : String) : Bool := (dropFront? p.toList s.toList).isSome

/-- True when the pattern `p` stands somewhere in `cs`. -/
def hasInfix (p : List Char) : List Char → Bool
  | [] => p.isEmpty
  | c :: cs => (dropFront? p (c :: cs)).isSome || hasInfix p cs

/-- True when `s` contains `p`. -/
def contains (s p : String) : Bool := hasInfix p.toList s.toList

/-- The rest after the first pattern of the table that stands at the front, with its value. -/
def firstMatch? (table : List (List Char × List Char)) (cs : List Char) :
    Option (List Char × List Char) :=
  table.findSome? fun (p, value) =>
    match p, dropFront? p cs with
    | [], _ => none
    | _ :: _, some rest => some (value, rest)
    | _ :: _, none => none

theorem length_of_dropFront? {p cs rest : List Char} (h : dropFront? p cs = some rest) :
    rest.length + p.length = cs.length := by
  fun_induction dropFront? p cs with
  | case1 => cases h; rfl
  | case2 => cases h
  | case3 ps c cs ih =>
    have := ih h
    simp only [List.length_cons]
    omega
  | case4 => cases h

theorem length_of_firstMatch? {table : List (List Char × List Char)} {cs value rest : List Char}
    (h : firstMatch? table cs = some (value, rest)) : rest.length < cs.length := by
  rw [firstMatch?, List.findSome?_eq_some_iff] at h
  obtain ⟨_, ⟨p, v⟩, _, _, hm, _⟩ := h
  dsimp only at hm
  split at hm
  · simp at hm
  · rename_i hd
    have := length_of_dropFront? hd
    obtain ⟨_, rfl⟩ := Prod.mk.inj (Option.some.inj hm)
    simp only [List.length_cons] at this
    omega
  · simp at hm

/-- Replaces, from left to right, every pattern of the table by its value; of two patterns that
    stand at one place the earlier in the table wins.  Empty patterns are ignored. -/
def replaceEachChars (table : List (List Char × List Char)) (cs : List Char) : List Char :=
  match cs with
  | [] => []
  | c :: cs' =>
    match h : firstMatch? table (c :: cs') with
    | some (value, rest) =>
      have := length_of_firstMatch? h
      value ++ replaceEachChars table rest
    | none => c :: replaceEachChars table cs'
termination_by cs.length
decreasing_by
  · assumption
  · exact Nat.lt_succ_self _

/-- Replaces every pattern of the table in `s` by its value, in one pass. -/
def replaceEach (table : List (String × String)) (s : String) : String :=
  String.ofList (replaceEachChars (table.map fun (p, v) => (p.toList, v.toList)) s.toList)

/-- Replaces every occurrence of `p` in `s` by `value`. -/
def replaceAll (s p value : String) : String := replaceEach [(p, value)] s

end KernelGraph.Text
