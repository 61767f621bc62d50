/-
  Programs: all permutations of a kernel, compiled for one format.

  `Program.compile` compiles the permutations in order of their ids and stops at the first failure.
  It also tells how many times it called the compiler.
-/
import KernelGraph.Compile.Compiler
import KernelGraph.Permutations

namespace KernelGraph

/-- The compiled code of one permutation. -/
structure Variant where
  permutation : Int64
  code : String
  deriving DecidableEq, Inhabited

/-- All permutations of a kernel, compiled for one format. -/
structure Program where
  format : String
  hashKey : String
  entryPoint : String
  variants : List Variant := []
  diagnostics : List String := []
  deriving DecidableEq, Inhabited

namespace Program

/-- The variant with a permutation id. -/
def variant? (p : Program) (id : Int64) : Option Variant :=
  p.variants.find? fun v => v.permutation = id

/-- The size of all code in bytes. -/
def codeSize (p : Program) : Nat := p.variants.foldl (fun n v => n + v.code.utf8ByteSize) 0

end Program

/-- A permutation that failed to compile. -/
structure CompileError where
  format : String
  friendlyName : String
  permutation : Int64
  diagnostics : List String
  cause : CompilerError
  deriving DecidableEq

/-- The message of the error, with the compiler's diagnostics below. -/
def CompileError.message (e : CompileError) : String :=
  "backend: " ++ e.format ++ " compile of " ++ e.friendlyName ++ " (permutation " ++
    toString e.permutation.toInt ++ ") failed: " ++ e.cause.message ++
    (if e.diagnostics.isEmpty then "" else "\n" ++ "\n".intercalate e.diagnostics)

/-- Why a program cannot be compiled. -/
inductive ProgramError
  | tooManyPermutations (friendlyName : String) (count : Int64)
  /-- The wrapped number of permutations is below zero. -/
  | negativeCount
  | cancelled (friendlyName : String)
  | permutation (e : PermutationError)
  | compile (e : CompileError)
  deriving DecidableEq

/-- The largest number of permutations compiled for one kernel. -/
def maxPermutations : Int64 := 64

namespace ProgramError

/-- The message of the error. -/
def message : ProgramError → String
  | tooManyPermutations name count =>
    "backend: too many permutations: " ++ name ++ " has " ++ toString count.toInt ++ ", limit " ++
      toString maxPermutations.toInt
  | negativeCount => ""
  | cancelled name => "backend: compilation cancelled: " ++ name ++ ": context canceled"
  | permutation e => e.message
  | compile e => e.message

/-- True when the caller lost interest. -/
def isCancelled : ProgramError → Bool
  | cancelled _ => true
  | _ => false

end ProgramError

/-- The request for the permutation `id`, given the values of its options.  The definitions of the
    base request come before the values. -/
def Request.variant (base : Request) (values : List Define) (id : Int64) : Request :=
  { base with definitions := base.definitions ++ values, permutation := id }

namespace Program

/-- Compiles the permutation `id` of a base request. -/
def compileVariant (c : Compiler) (cancelled : Bool) (base : Request)
    (vector : Option PermutationVector) (id : Int64) : Except ProgramError Output :=
  match PermutationVector.values? vector id with
  | .error e => .error (.permutation e)
  | .ok values =>
    match c.compile cancelled (base.variant values id) with
    | .ok out => .ok out
    | .error r =>
      if cancelled then .error (.cancelled base.friendlyName)
      else
        .error (.compile
          { format := c.format
            friendlyName := base.friendlyName
            permutation := id
            diagnostics := (r.output.map Output.diagnostics).getD []
            cause := r.error })

/-- Compiles `count` permutations from `id` on and appends them to a program.  The number is that
    of calls of the compiler. -/
def compileFrom (c : Compiler) (cancelled : Bool) (base : Request)
    (vector : Option PermutationVector) :
    (count : Nat) → (id : Int64) → Program → Except ProgramError Program × Nat
  | 0, _, p => (.ok p, 0)
  | count + 1, id, p =>
    if cancelled then (.error (.cancelled base.friendlyName), 0)
    else
      match compileVariant c cancelled base vector id with
      | .error e => (.error e, 1)
      | .ok out =>
        let (result, calls) := compileFrom c cancelled base vector count (id + 1)
          { p with
            variants := p.variants ++ [⟨id, out.code⟩]
            diagnostics := p.diagnostics ++ out.diagnostics }
        (result, calls + 1)

/-- Compiles every permutation of a kernel. -/
def compile (c : Compiler) (cancelled : Bool) (base : Request) (hashKey : String)
    (vector : Option PermutationVector) : Except ProgramError Program × Nat :=
  let count := ((vector.map PermutationVector.count).getD 1)
  if maxPermutations < count then
    (.error (.tooManyPermutations base.friendlyName count), 0)
  else if count < 0 then (.error .negativeCount, 0)
  else
    compileFrom c cancelled base vector count.toInt.toNat 0
      { format := c.format, hashKey, entryPoint := base.entryPoint }

end Program

end KernelGraph
