/-
  Compilers.

  A compiler turns a request into code for one output format.  Here a compiler is a value: its
  format, the feature level it targets, the dialect it reads, and its verdict on a request.

  `Compiler.passThrough` yields the expanded source itself.  `Script` describes any other compiler:
  one whose code generator comes from elsewhere, or one whose verdicts are given beforehand, to try
  out how graphs react to them.

  A format has at most one compiler.  The registry of formats starts with the three that the library
  brings along.
-/
import KernelGraph.Compile.Request
import KernelGraph.FeatureLevel

namespace KernelGraph

/-- What compiling one permutation yields. -/
structure Output where
  code : String := ""
  diagnostics : List String := []
  deriving DecidableEq, Repr, Inhabited

/-- Why a compiler gives up. -/
inductive CompilerError
  /-- The caller lost interest. -/
  | cancelled
  | expansion (e : ExpansionError)
  | entryPointNotFound (entryPoint : String)
  /-- The compiler's own words. -/
  | reported (text : String)
  deriving DecidableEq

namespace CompilerError

/-- The message of the error. -/
def message : CompilerError → String
  | cancelled => "context canceled"
  | expansion e => e.message
  | entryPointNotFound entryPoint => "source: entry point not found: " ++ Text.quoted entryPoint
  | reported text => text

end CompilerError

/-- A failed compile, with the output that came along, if any. -/
structure Rejection where
  error : CompilerError
  output : Option Output := none
  deriving DecidableEq

/-- A compiler for one output format.  `compile` is told whether the caller has lost interest. -/
structure Compiler where
  format : String
  level : FeatureLevel
  dialect : Dialect
  compile : (cancelled : Bool) → Request → Except Rejection Output

namespace Compiler

/-- A compiler that yields the expanded source, provided that it mentions the entry point. -/
def passThrough (format : String) (level : FeatureLevel) (dialect : Dialect) : Compiler where
  format
  level
  dialect
  compile cancelled r :=
    if cancelled then .error { error := .cancelled }
    else
      match r.expand dialect with
      | .error e => .error ⟨.expansion e, some { diagnostics := [e.message] }⟩
      | .ok text =>
        if r.entryPoint ≠ "" && !Text.contains text r.entryPoint then
          let diagnostic :=
            r.friendlyName ++ ": entry point " ++ Text.quoted r.entryPoint ++ " not found"
          .error ⟨.entryPointNotFound r.entryPoint, some { diagnostics := [diagnostic] }⟩
        else .ok { code := text }

/-- The expanded source in WGSL. -/
def wgsl : Compiler := passThrough "wgsl" .es31 .wgsl

/-- The expanded source in HLSL. -/
def hlsl : Compiler := passThrough "hlsl" .sm5 .hlsl

end Compiler

/-- A compiler that is not the library's own, or whose verdicts are given beforehand. -/
structure Script where
  format : String
  dialect : Dialect := .wgsl
  level : FeatureLevel := .es31
  /-- Kernels with these entry points fail. -/
  failingEntries : List String := []
  /-- Permutations with these ids fail. -/
  failingPermutations : List Int64 := []
  /-- A failure comes without output. -/
  silent : Bool := false
  /-- Diagnostics of a success. -/
  diagnostics : List String := []
  /-- The verdict on every request; the lists above do not count then. -/
  verdict : Option (Request → Except Rejection Output) := none

namespace Script

/-- What a scripted failure reports. -/
def failureText : String := "mock compile error"

/-- The compiler that follows the script. -/
def compiler (s : Script) : Compiler where
  format := s.format
  level := s.level
  dialect := s.dialect
  compile _ r :=
    match s.verdict with
    | some verdict => verdict r
    | none =>
      if s.failingEntries.contains r.entryPoint || s.failingPermutations.contains r.permutation then
        let output := if s.silent then none else some { diagnostics := ["error: " ++ failureText] }
        .error ⟨.reported failureText, output⟩
      else
        match r.expand s.dialect with
        | .error e => .error { error := .expansion e }
        | .ok text => .ok { code := text, diagnostics := s.diagnostics }

end Script

/-! ## Formats -/

/-- What is known of a format without compiling: its feature level and its dialect. -/
structure FormatInfo where
  level : FeatureLevel
  dialect : Dialect
  deriving DecidableEq

/-- A format that has no compiler. -/
structure UnknownFormat where
  format : String
  deriving DecidableEq

/-- The message of the error. -/
def UnknownFormat.message (e : UnknownFormat) : String :=
  "backend: unknown format " ++ Text.quoted e.format ++ " (forgotten import?)"

/-- Why a format cannot be registered. -/
inductive RegistrationError
  | noFactory
  | registeredTwice (name : String)
  deriving DecidableEq

/-- The message of the error, for a registry called `owner`. -/
def RegistrationError.message (owner : String) : RegistrationError → String
  | noFactory => owner ++ ": Register factory is nil"
  | registeredTwice name => owner ++ ": Register called twice for " ++ name

/-- Formats with a value each, in order of registration. -/
structure Formats (α : Type) where
  entries : List (String × α)

namespace Formats

variable {α : Type}

/-- The names of the formats, sorted. -/
def names (f : Formats α) : List String :=
  (f.entries.map Prod.fst).mergeSort fun a b => decide (a ≤ b)

/-- Adds a format; `none` stands for a missing factory. -/
def register (f : Formats α) (name : String) (value : Option α) :
    Except RegistrationError (Formats α) :=
  match value with
  | none => .error .noFactory
  | some v =>
    if (f.entries.lookup name).isSome then .error (.registeredTwice name)
    else .ok ⟨f.entries ++ [(name, v)]⟩

/-- Removes a format; unknown ones are ignored. -/
def unregister (f : Formats α) (name : String) : Formats α :=
  ⟨f.entries.filter fun e => e.1 ≠ name⟩

/-- The value of a format. -/
def find (f : Formats α) (name : String) : Except UnknownFormat α :=
  match f.entries.lookup name with
  | some v => .ok v
  | none => .error ⟨name⟩

end Formats

/-- The formats that the library brings along. -/
def Formats.standard : Formats FormatInfo :=
  ⟨[("wgsl", ⟨.es31, .wgsl⟩), ("hlsl", ⟨.sm5, .hlsl⟩), ("spirv", ⟨.sm6, .wgsl⟩)]⟩

end KernelGraph
