/-
  The commands of the tool.

  The command is the first argument that is neither a flag nor the value of one.  An unknown command
  is answered with the names that come close to it.
-/
import KernelGraph.Text.Substring
import KernelGraph.Tool.Flags

namespace KernelGraph.Tool

/-- The name of the tool. -/
def toolName : String := "cgc"

/-- A command. -/
inductive Command
  | validate
  | source
  | compile
  | cook
  | cookHash
  deriving DecidableEq, Repr

namespace Command

/-- The name of a command. -/
def name : Command → String
  | validate => "validate"
  | source => "source"
  | compile => "compile"
  | cook => "cook"
  | cookHash => "cook-hash"

/-- All commands. -/
def all : List Command := [validate, source, compile, cook, cookHash]

/-- The command with a name. -/
def ofName? (s : String) : Option Command := all.find? fun c => c.name = s

/-- What a command does. -/
def summary : Command → String
  | validate => "Check that every kernel has exactly one execution edge"
  | source => "Print the assembled source of each kernel"
  | compile => "Compile every kernel for the runtime format"
  | cook => "Compile every kernel for each format of a target platform"
  | cookHash => "Print the hash of every shader file a platform cook depends on"

/-- The flags that name a target platform. -/
def platformFlags : List Flag :=
  [{ name := "platform", letter := some 'p'
     summary := "Target platform from the configuration file" },
   { name := "formats", kind := .list
     summary := "Shader formats, instead of a configured platform" }]

/-- The flags of a command beside those of all commands. -/
def ownFlags : Command → List Flag
  | validate => []
  | source =>
    [{ name := "kernel", letter := some 'k', summary := "Only print the named kernel" },
     { name := "expand", kind := .switch, summary := "Resolve include directives" },
     { name := "layout", kind := .switch, summary := "Print the parameter layout" }]
  | compile =>
    [{ name := "diagnostics", kind := .switch
       summary := "Print compiler diagnostics of successful kernels" }]
  | cook =>
    platformFlags ++
      [{ name := "timeout", kind := .duration, initial := "5m0s"
         summary := "Give up waiting for the platform cache after this long" }]
  | cookHash =>
    platformFlags ++
      [{ name := "verbose", letter := some 'v', kind := .switch
         summary := "List the dependency paths" }]

end Command

/-- The flags of all commands. -/
def globalFlags : List Flag :=
  [{ name := "config", letter := some 'c', summary := "Path to a cgc.yaml configuration file" },
   { name := "log-level", summary := "Log level: debug, info, warn or error" },
   { name := "log-format", summary := "Log format: text or json" },
   { name := "format", letter := some 'f'
     summary := "Runtime shader format, e.g. spirv or wgsl" },
   { name := "graph", letter := some 'g', summary := "Only process the named graph" }]

/-- The flag that asks for help about something. -/
def helpFlag (topic : String) : Flag where
  name := "help"
  letter := some 'h'
  kind := .switch
  summary := "help for " ++ topic

/-- True for an argument whose next one is its value: a flag alone that is not known as a switch.
    The letter of a flag is a single byte. -/
def takesNext (s : String) : Bool :=
  let cs := s.toList
  if cs.contains '=' then false
  else
    match cs with
    | ['-', '-'] => false
    | '-' :: '-' :: name =>
      !(globalFlags.any fun f => f.name = String.ofList name && f.isSwitch)
    | ['-', c] =>
      c.toNat < 0x80 && !(globalFlags.any fun f => f.letter = some c && f.isSwitch)
    | _ => false

/-- True for an argument that begins with a dash. -/
def isDashed (s : String) : Bool := s.toList.head? = some '-'

/-- The arguments that are neither flags nor values of flags; `skip` tells that the first is a
    value. -/
def words : (skip : Bool) → List String → List String
  | _, [] => []
  | true, _ :: rest => words false rest
  | false, s :: rest =>
    if s = "--" then []
    else if takesNext s then if rest.length ≤ 1 then [] else words true rest
    else if s ≠ "" && !isDashed s then s :: words false rest
    else words false rest

/-- Removes the first occurrence of a command's name that is not the value of a flag. -/
def withoutName (name : String) : (skip : Bool) → List String → List String
  | _, [] => []
  | true, s :: rest => s :: withoutName name false rest
  | false, s :: rest =>
    if s = "--" then s :: rest
    else if takesNext s then s :: withoutName name true rest
    else if s = name then rest
    else s :: withoutName name false rest

/-! ## Suggestions -/

/-- One row of the edit distances between a text and the beginnings of another. -/
def distanceRow (c : UInt8) (t : List UInt8) (row : List Nat) : List Nat :=
  let first := row.headD 0 + 1
  let steps := t.zip (row.zip (row.drop 1))
  (steps.foldl (fun (out, last) (d, diagonal, above) =>
    let here := min (min (last + 1) (above + 1)) (diagonal + if c = d then 0 else 1)
    (out ++ [here], here)) ([first], first)).1

/-- The least number of bytes to insert, delete and replace that turn one text into another, where
    the case of letters does not count. -/
def editDistance (s t : String) : Nat :=
  let s := (Text.lower s).toUTF8.toList
  let t := (Text.lower t).toUTF8.toList
  (s.foldl (fun row c => distanceRow c t row) (List.range (t.length + 1))).getLastD 0

/-- The largest edit distance of a suggestion. -/
def suggestionDistance : Nat := 2

/-- The commands that a text comes close to. -/
def suggestions (s : String) : List Command :=
  Command.all.filter fun c =>
    editDistance s c.name ≤ suggestionDistance ||
      Text.startsWith (Text.lower c.name) (Text.lower s)

/-- The message for an unknown command. -/
def unknownCommandMessage (s : String) : String :=
  let close := suggestions s
  "unknown command " ++ Text.quoted s ++ " for " ++ Text.quoted toolName ++
    if close.isEmpty then ""
    else "\n\nDid you mean this?\n" ++ String.join (close.map fun c => "\t" ++ c.name ++ "\n")

end KernelGraph.Tool
