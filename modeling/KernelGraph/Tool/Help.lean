/-
  Help about the tool and its commands.

  The help about a topic is a description and its usage: how it is called, the commands to choose
  from, and the flags in the order of their names.
-/
import KernelGraph.Tool.Command
import KernelGraph.Tool.View

namespace KernelGraph.Tool

/-! ## Flags -/

/-- A flag and the word for its value. -/
def Flag.label (f : Flag) : String :=
  (match f.letter with
    | some c => "  -" ++ String.singleton c ++ ", --" ++ f.name
    | none => "      --" ++ f.name) ++
    if f.kind.word = "" then "" else " " ++ f.kind.word

/-- Inserts a flag before the first one whose name is larger. -/
def insertFlag (f : Flag) : List Flag → List Flag
  | [] => [f]
  | g :: gs => if f.name < g.name then f :: g :: gs else g :: insertFlag f gs

/-- Flags in the order of their names. -/
def sortedFlags (flags : List Flag) : List Flag := flags.foldl (fun fs f => insertFlag f fs) []

/-- A section about flags, aligned. -/
def flagSection (title : String) (flags : List Flag) : String :=
  let width := flags.foldl (fun w f => max w f.label.length) 0
  let line (f : Flag) : String :=
    "\n" ++ padRight width f.label ++ "   " ++ f.summary ++
      if f.initial = "" then "" else " (default " ++ f.initial ++ ")"
  "\n\n" ++ title ++ ":" ++ String.join ((sortedFlags flags).map line)

/-! ## Topics -/

/-- What help can be about. -/
inductive Topic
  | tool
  | command (c : Command)
  /-- The command that prints help. -/
  | help
  deriving DecidableEq, Repr

/-- The name of the command that prints help. -/
def helpName : String := "help"

namespace Topic

/-- The topic with the name of a command. -/
def ofName? (s : String) : Option Topic :=
  if s = helpName then some help else (Command.ofName? s).map command

/-- The name of a topic. -/
def name : Topic → String
  | tool => toolName
  | command c => c.name
  | help => helpName

/-- What a topic does, in one line. -/
def summary : Topic → String
  | tool => "Validate, compile and cook computegraph graph files"
  | command c => c.summary
  | help => "Help about any command"

/-- What a topic does. -/
def description : Topic → String
  | help => "Help provides help for any command in the application.\nSimply type " ++ toolName ++
      " help [path to command] for full details."
  | t => t.summary

/-- The flags of a command; help can always be asked for. -/
def flags (t : Topic) : List Flag :=
  (match t with
    | command c => c.ownFlags
    | _ => []) ++ [helpFlag t.name]

/-- The commands in the order of their names. -/
def listed : List Topic :=
  [command .compile, command .cook, command .cookHash, help, command .source, command .validate]

/-- The width of the column of names. -/
def nameWidth : Nat := 11

/-- How the tool is called, with the given flags. -/
def toolUsage (flags : List Flag) : String :=
  "Usage:\n  " ++ toolName ++ " [command]\n\nAvailable Commands:" ++
    String.join (listed.map fun t => "\n  " ++ padRight nameWidth t.name ++ " " ++ t.summary) ++
    flagSection "Flags" flags ++ "\n\nUse \"" ++ toolName ++
    " [command] --help\" for more information about a command.\n"

/-- How a topic is called. -/
def usage (t : Topic) : String :=
  let commandUsage (argument : String) : String :=
    "Usage:\n  " ++ toolName ++ " " ++ t.name ++ " " ++ argument ++ " [flags]" ++
      flagSection "Flags" t.flags ++ flagSection "Global Flags" globalFlags ++ "\n"
  match t with
  | tool => toolUsage (globalFlags ++ t.flags)
  | command _ => commandUsage "<graph.hcl>"
  | help => commandUsage "[command]"

/-- The help about a topic. -/
def text (t : Topic) : String := t.description ++ "\n\n" ++ t.usage

end Topic

/-! ## Asking for help -/

/-- True for a text that can stand between backquotes. -/
def fitsBackquotes (s : String) : Bool :=
  s.toList.all fun c =>
    (0x20 ≤ c.toNat || c = '\t') && c ≠ Char.ofNat 0x60 && c ≠ Char.ofNat 0x7f &&
      c ≠ Char.ofNat 0xfeff

/-- A text between backquotes if it can be, and quoted otherwise. -/
def backquoted (s : String) : String :=
  let mark := String.singleton (Char.ofNat 0x60)
  if fitsBackquotes s then mark ++ s ++ mark else Text.quoted s

/-- The answer to a question about the command that arguments name. -/
def helpAbout (args : List String) : String :=
  match words false args with
  | [] => Topic.tool.text
  | word :: _ =>
    match Topic.ofName? word with
    | some t => t.text
    | none =>
      "Unknown help topic [" ++ " ".intercalate (args.map backquoted) ++ "]\n" ++
        Topic.toolUsage globalFlags

end KernelGraph.Tool
