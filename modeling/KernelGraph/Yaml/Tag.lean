/-
  Tags of YAML nodes.

  A tag is written out between angle brackets, or it is a handle and a suffix.  A handle stands for
  the beginning of tags; directives can name further handles.  A character of a tag can be written
  by its bytes, each as a percent sign and two hexadecimal digits.
-/
import KernelGraph.Text.Digits
import KernelGraph.Yaml.Cursor

namespace KernelGraph.Yaml

/-- True for a character of a name: of a handle or an anchor. -/
def isNameChar (c : Char) : Bool := c.isAlphanum || c = '_' || c = '-'

namespace Tag

/-- Characters of a tag besides those of names. -/
def marks : List Char := apostrophe :: ";/?:@&=+$,.!~*()[]%".toList

/-- The byte at the front of a text that is written with a percent sign. -/
def octet? : List Char → Option UInt8
  | '%' :: r => (Text.hexChar? 2 r).map fun c => c.toNat.toUInt8
  | _ => none

/-- The number of bytes of the character that begins with a byte. -/
def width (lead : UInt8) : Nat :=
  let n := lead.toNat
  if n < 0x80 then 1 else if n < 0xc0 then 0 else if n < 0xe0 then 2 else if n < 0xf0 then 3
  else if n < 0xf8 then 4 else 0

/-- The character at the front of a text that is written by its bytes, and the length of its
    spelling. -/
def escaped? (cs : List Char) : Option (Char × Nat) := do
  let lead ← octet? cs
  let bytes ← (List.range (width lead)).mapM fun i => octet? (cs.drop (3 * i))
  let s ← String.fromUTF8? ⟨bytes.toArray⟩
  return (← s.toList.head?, 3 * bytes.length)

/-- The characters of a tag at the front of a text, and the length of their spelling. -/
def uri? : (fuel : Nat) → List Char → Option (List Char × Nat)
  | 0, _ => some ([], 0)
  | fuel + 1, cs =>
    match cs with
    | [] => some ([], 0)
    | c :: r =>
      if c = '%' then do
        let (e, used) ← escaped? cs
        let (rest, length) ← uri? fuel (cs.drop used)
        return (e :: rest, used + length)
      else if isNameChar c || marks.contains c then do
        let (rest, length) ← uri? fuel r
        return (c :: rest, length + 1)
      else some ([], 0)

/-- Reads the characters of a tag at a place. -/
def read? (c : Cursor) : Option (List Char × Cursor) :=
  (uri? c.left c.rest).map fun (s, length) => (s, c.advance length)

/-- Reads a handle at a place: an exclamation mark, or a name between two of them.  Without the
    second one, it may be the beginning of a suffix. -/
def handle? (c : Cursor) : Option (List Char × Bool × Cursor) :=
  if !c.has 0 (· = '!') then none
  else
    let name := c.next.rest.takeWhile isNameChar
    let d := c.advance (name.length + 1)
    if d.has 0 (· = '!') then some ('!' :: name ++ ['!'], true, d.next)
    else some ('!' :: name, false, d)

/-- Reads the handle and the suffix of the tag at a place.  A tag that is written out has no handle,
    and neither has a lone exclamation mark. -/
def tag? (c : Cursor) : Option (String × String × Cursor) := do
  let (handle, suffix, c) ← do
    if c.has 1 (· = '<') then
      let (s, c) ← read? (c.advance 2)
      guard (!s.isEmpty && c.has 0 (· = '>'))
      pure ([], s, c.next)
    else
      let (handle, closed, c) ← handle? c
      let (s, c) ← read? c
      if closed then
        guard !s.isEmpty
        pure (handle, s, c)
      else if handle.length = 1 && s.isEmpty then pure ([], handle, c)
      else pure (['!'], handle.drop 1 ++ s, c)
  guard (c.whiteAt 0)
  return (String.ofList handle, String.ofList suffix, c)

/-- Reads the handle and the beginning of tags that a directive gives. -/
def directive? (c : Cursor) : Option (String × String × Cursor) := do
  let (handle, closed, c) ← handle? (c.skipWhile isBlank)
  guard ((closed || handle.length = 1) && c.has 0 isBlank)
  let (s, c) ← read? (c.skipWhile isBlank)
  guard (!s.isEmpty && c.whiteAt 0)
  return (String.ofList handle, String.ofList s, c)

/-- How the tags of the standard types begin. -/
def standard : String := "tag:yaml.org,2002:"

/-- The handles that are always known. -/
def handles : List (String × String) := [("!", "!"), ("!!", standard)]

/-- The short form of a tag. -/
def short (tag : String) : String :=
  if standard.toList.isPrefixOf tag.toList then
    "!!" ++ String.ofList (tag.toList.drop standard.length)
  else tag

/-- The tag of a handle and a suffix, in its short form, if the handle is known. -/
def resolve? (known : List (String × String)) (handle suffix : String) : Option String :=
  if handle = "" then some (short suffix)
  else (known.lookup handle).map fun start => short (start ++ suffix)

end Tag

end KernelGraph.Yaml
