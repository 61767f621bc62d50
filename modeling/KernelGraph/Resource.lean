/-
  Kernel resources: the compiled program of one kernel for one target, and its life.

  A resource is a state machine.  A compile begins with a build and a generation and comes back with
  a result for that generation; a result of another generation has no effect.  The program of the
  last success is kept through later failures.

  A resource set holds the resources of one kernel: one per feature level for an editor, a single
  one at run time.
-/
import KernelGraph.Graph.Plan

namespace KernelGraph

/-- Where a resource stands. -/
inductive ResourceState
  /-- It has never been submitted. -/
  | uncompiled
  /-- A compile is in flight. -/
  | compiling
  /-- It holds the program of its current build. -/
  | compiled
  /-- Its current build could not be compiled; the last program is kept. -/
  | failed
  /-- It was released or replaced. -/
  | invalidated
  deriving DecidableEq, Repr, Inhabited

namespace ResourceState

/-- The name of a state. -/
def name : ResourceState → String
  | uncompiled => "uncompiled"
  | compiling => "compiling"
  | compiled => "compiled"
  | failed => "failed"
  | invalidated => "invalidated"

/-- The states, in the order of their codes. -/
def all : List ResourceState := [uncompiled, compiling, compiled, failed, invalidated]

/-- The name of the state with a code, or the code in words. -/
def nameOfCode (code : Nat) : String :=
  match all[code]? with
  | some s => s.name
  | none => "ResourceState(" ++ toString code ++ ")"

/-- True when no compile is outstanding. -/
def isFinished : ResourceState → Bool
  | compiled | failed | invalidated => true
  | uncompiled | compiling => false

end ResourceState

/-- Why a kernel has no new program. -/
inductive ResultError
  /-- It could not be built. -/
  | build (e : GraphError)
  /-- It could not be compiled. -/
  | program (e : ProgramError)
  /-- Its format has no compiler. -/
  | format (e : UnknownFormat)
  deriving DecidableEq

/-- The message of the error. -/
def ResultError.message : ResultError → String
  | build e => e.message
  | program e => e.message
  | format e => e.message

/-- The outcome of a compile. -/
structure CompileResult where
  success : Bool := false
  /-- The program came from the program cache. -/
  cached : Bool := false
  format : String := ""
  level : FeatureLevel := .es31
  hashKey : String := ""
  diagnostics : List String := []
  error : Option ResultError := none
  deriving DecidableEq

/-- The compiled program of one kernel for one target. -/
structure Resource where
  format : String
  level : FeatureLevel
  state : ResourceState := .uncompiled
  generation : Nat := 0
  build : Option KernelBuild := none
  program : Option Program := none
  /-- The task that compiles it. -/
  task : Option Nat := none
  result : CompileResult := {}

namespace Resource

instance : Inhabited Resource := ⟨{ format := "", level := .es31 }⟩

/-- The hash key of the submitted build. -/
def hashKey (r : Resource) : String := (r.build.map KernelBuild.hashKey).getD ""

/-- True when the resource holds the program of a build with this hash key. -/
def isReusable (r : Resource) (key : String) : Bool :=
  r.state = .compiled && r.program.isSome &&
    match r.build with
    | some b => b.hashKey = key
    | none => false

/-- A compile of `build` begins. -/
def begin (r : Resource) (build : KernelBuild) (generation : Nat) : Resource :=
  { r with build := some build, generation, state := .compiling }

/-- Remembers the task of the compile; the answer is false when the compile is over or
    superseded. -/
def setTask (r : Resource) (task generation : Nat) : Bool × Resource :=
  if r.generation = generation && r.state = .compiling then (true, { r with task := some task })
  else (false, r)

/-- Gives the task up.  A compile that loses its task may never run, so the resource is
    invalidated. -/
def takeTask (r : Resource) : Option Nat × Resource :=
  match r.task with
  | none => (none, r)
  | some t =>
    (some t,
      { r with task := none, state := if r.state = .compiling then .invalidated else r.state })

/-- The compile of a generation was cancelled. -/
def abandon (r : Resource) (generation : Nat) : Resource :=
  if r.generation = generation && r.state = .compiling then
    { r with task := none, state := .invalidated }
  else r

/-- The compile of a generation comes back; the answer is false when it was superseded. -/
def finish (r : Resource) (generation : Nat) (program : Option Program) (result : CompileResult) :
    Bool × Resource :=
  if r.generation = generation && r.state = .compiling then
    (true,
      { r with
        task := none
        result
        program := if result.success then program else r.program
        state := if result.success then .compiled else .failed })
  else (false, r)

/-- A failure before a compile could begin. -/
def fail (r : Resource) (build : Option KernelBuild) (generation : Nat) (result : CompileResult) :
    Resource :=
  { r with build, generation, task := none, result, state := .failed }

/-- The resource is released or replaced. -/
def invalidate (r : Resource) : Resource := { r with state := .invalidated, task := none }

end Resource

/-- The resources of one kernel, by number in a store. -/
inductive ResourceSet
  /-- One per defined feature level. -/
  | editor (format : String) (table : List (Option Nat))
  /-- A single one. -/
  | runtime (format : String) (slot : Option Nat)
  deriving DecidableEq, Inhabited

/-- Resources by number. -/
abbrev ResourceStore := Array Resource

namespace ResourceSet

/-- An empty set. -/
def empty (format : String) (editor : Bool) : ResourceSet :=
  if editor then .editor format (FeatureLevel.names.map fun _ => none) else .runtime format none

/-- All resources of the set. -/
def toList : ResourceSet → List Nat
  | editor _ table => table.filterMap id
  | runtime _ slot => slot.toList

/-- The resource for a level, if there is one. -/
def lookup? (set : ResourceSet) (store : ResourceStore) (level : FeatureLevel) : Option Nat :=
  match set with
  | editor _ table => (table[level.code.toNat]?).join
  | runtime _ slot => slot.filter fun r => (store[r]?).map Resource.level = some level

/-- The resource for a level, made if needed.  A run-time set replaces the resource of another
    level; the replaced one is invalidated and the task it held is returned. -/
def resource (set : ResourceSet) (store : ResourceStore) (level : FeatureLevel) :
    Nat × Option Nat × ResourceSet × ResourceStore :=
  match set with
  | editor format table =>
    let level := if level.isValid then level else .sm5
    match (table[level.code.toNat]?).join with
    | some r => (r, none, set, store)
    | none =>
      (store.size, none, .editor format (table.set level.code.toNat (some store.size)),
        store.push { format, level })
  | runtime format slot =>
    match set.lookup? store level with
    | some r => (r, none, set, store)
    | none =>
      let old := slot.bind fun r => (store[r]?).bind fun x => x.takeTask.1
      let store := match slot with
        | some r => store.modify r fun x => x.takeTask.2.invalidate
        | none => store
      (store.size, old, .runtime format (some store.size), store.push { format, level })

/-- True when every resource of the set has the format. -/
def hasFormat (set : ResourceSet) (store : ResourceStore) (format : String) : Bool :=
  set.toList.all fun r => (store[r]?).map Resource.format = some format

end ResourceSet

end KernelGraph
