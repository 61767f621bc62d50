/-
  The program cache.

  Programs are shared by output format and hash key.  Callers that ask for one key at the same time
  share one compile, a flight: the first caller leads it and the others join.  Flights are known by
  the key's name.

  The cache is a state machine.  A call begins, its compile (if it leads one) comes back with an
  outcome, and a caller may lose interest at any time:

  * a caller that joined leaves at once;
  * a caller that leads waits until its compile comes back, and then reports that it was cancelled;
  * a caller that joined a flight which its leader cancelled asks again.

  Failed compiles are not stored.
-/
import KernelGraph.Lru

namespace KernelGraph

/-- What identifies a program: equal hash keys mean equal effective sources. -/
structure ProgramKey where
  format : String
  hashKey : String
  deriving DecidableEq, Hashable, Repr, Inhabited

/-- The name of a key, under which its flight is known. -/
def ProgramKey.name (k : ProgramKey) : String := k.format ++ "/" ++ k.hashKey

/-- Why a call yields no program. -/
inductive CallError (ε : Type)
  /-- The caller itself lost interest. -/
  | cancelled
  /-- The compile failed. -/
  | failed (e : ε)
  deriving DecidableEq

/-- Where a call stands. -/
inductive CallPhase (P ε : Type)
  /-- Its compile is running. -/
  | leading
  /-- It waits for the flight of another caller. -/
  | joined
  /-- It came back with a program, and whether it did so without compiling, or with an error. -/
  | returned (result : Except (CallError ε) (P × Bool))

/-- A caller of the cache. -/
structure Call (P ε : Type) where
  id : Nat
  key : ProgramKey
  cancelled : Bool := false
  /-- The caller's own compile has been started. -/
  ran : Bool := false
  phase : CallPhase P ε

/-- Compiled programs, running flights by name with their leaders, and the calls so far. -/
structure ProgramCache (P ε : Type) where
  programs : Lru ProgramKey P
  flights : List (String × Nat) := []
  calls : List (Call P ε) := []
  compiles : Nat := 0

namespace ProgramCache

variable {P ε : Type}

/-- The number of programs kept when no limit is given. -/
def defaultLimit : Int := 256

/-- An empty cache; a limit of zero or below means the default. -/
def empty (limit : Int) : ProgramCache P ε :=
  { programs := Lru.empty (if limit ≤ 0 then defaultLimit else limit) }

/-- The call with an id. -/
def call? (c : ProgramCache P ε) (id : Nat) : Option (Call P ε) := c.calls.find? fun x => x.id = id

/-- Changes the call with an id. -/
def modifyCall (c : ProgramCache P ε) (id : Nat) (f : Call P ε → Call P ε) : ProgramCache P ε :=
  { c with calls := c.calls.map fun x => if x.id = id then f x else x }

/-- Asks for a key on behalf of a call: the program is there, or a flight is joined or started.  A
    new flight looks once more before it compiles. -/
def ask (c : ProgramCache P ε) (call : Call P ε) : Call P ε × ProgramCache P ε :=
  match c.programs.get call.key with
  | (some p, programs) => ({ call with phase := .returned (.ok (p, true)) }, { c with programs })
  | (none, programs) =>
    if (c.flights.lookup call.key.name).isSome then
      ({ call with phase := .joined }, { c with programs })
    else
      match programs.get call.key with
      | (some p, programs) =>
        ({ call with phase := .returned (.ok (p, true)) }, { c with programs })
      | (none, programs) =>
        ({ call with phase := .leading, ran := true },
          { c with
            programs
            flights := c.flights ++ [(call.key.name, call.id)]
            compiles := c.compiles + 1 })

/-- Begins a call. -/
def begin (c : ProgramCache P ε) (id : Nat) (key : ProgramKey) : ProgramCache P ε :=
  let (call, c) := c.ask { id, key, phase := .joined }
  { c with calls := c.calls ++ [call] }

/-- Lets a call that waited for a flight have the flight's outcome.  A call whose flight was
    cancelled by its leader asks again. -/
def deliver (isCancelled : ε → Bool) (outcome : Except ε P) (c : ProgramCache P ε) (id : Nat) :
    ProgramCache P ε :=
  match c.call? id with
  | none => c
  | some call =>
    match outcome with
    | .ok p => c.modifyCall id fun x => { x with phase := .returned (.ok (p, true)) }
    | .error e =>
      if isCancelled e then
        let (call, c) := c.ask call
        c.modifyCall id fun _ => call
      else c.modifyCall id fun x => { x with phase := .returned (.error (.failed e)) }

/-- The calls that wait for the flight of a name. -/
def joiners (c : ProgramCache P ε) (name : String) : List Nat :=
  (c.calls.filter fun x =>
    x.key.name = name && match x.phase with
      | .joined => true
      | _ => false).map Call.id

/-- The compile of the call `id` comes back. -/
def compiled (isCancelled : ε → Bool) (c : ProgramCache P ε) (id : Nat) (outcome : Except ε P) :
    ProgramCache P ε :=
  match c.call? id with
  | none => c
  | some call =>
    let waiting := c.joiners call.key.name
    let programs := match outcome with
      | .ok p => c.programs.set call.key p
      | .error _ => c.programs
    let result : Except (CallError ε) (P × Bool) :=
      if call.cancelled then .error .cancelled
      else
        match outcome with
        | .ok p => .ok (p, false)
        | .error e => .error (.failed e)
    let c := { c with programs, flights := c.flights.filter fun f => f.1 ≠ call.key.name }
    let c := c.modifyCall id fun x => { x with phase := .returned result }
    waiting.foldl (deliver isCancelled outcome) c

/-- The caller of `id` loses interest. -/
def cancel (c : ProgramCache P ε) (id : Nat) : ProgramCache P ε :=
  c.modifyCall id fun x =>
    match x.phase with
    | .joined => { x with cancelled := true, phase := .returned (.error .cancelled) }
    | _ => { x with cancelled := true }

/-- The result of a call that has come back. -/
def result? (c : ProgramCache P ε) (id : Nat) : Option (Except (CallError ε) (P × Bool)) :=
  match (c.call? id).map Call.phase with
  | some (.returned r) => some r
  | _ => none

/-- True while the compile of the call runs. -/
def isLeading (c : ProgramCache P ε) (id : Nat) : Bool :=
  match (c.call? id).map Call.phase with
  | some .leading => true
  | _ => false

/-- Forgets a call that has come back. -/
def forget (c : ProgramCache P ε) (id : Nat) : ProgramCache P ε :=
  { c with calls := c.calls.filter fun x => x.id ≠ id }

/-- Looks a program up. -/
def lookup (c : ProgramCache P ε) (key : ProgramKey) : Option P × ProgramCache P ε :=
  let (p, programs) := c.programs.get key
  (p, { c with programs })

/-- Drops every program. -/
def clear (c : ProgramCache P ε) : ProgramCache P ε := { c with programs := c.programs.clear }

end ProgramCache

end KernelGraph
