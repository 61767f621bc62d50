/-
  Traffic at the program cache: any number of callers, one critical section after the other.

  A call looks for its program.  If the program is not there, the call joins the flight that is
  registered under the name of its key, or registers a flight of its own.  A flight looks for the
  program again, compiles it if need be, stores what it compiled, gives its name up and then sends
  its outcome to all who wait for it:

      boarding ⟶ compiling ⟶ compiled ⟶ settled ⟶ landed ⟶ arrived
               ⟶ ⟶ ⟶ ⟶ ⟶ ⟶ ⟶ ⟶ ⟶ ⟶ ⟶ ⟶ ⟶

  Between any two sections everybody else may go on: other calls begin, lose interest and come back,
  programs are looked up and dropped, and compiles come back with any outcome.

  Two registers are kept by name.  The group knows the flight of a name.  The set of names in flight
  is consulted to tell who leads: a call leads if its name was not in the set.  That the two agree
  is not built into the steps; it is proved of them.

  A flight is never forgotten here, so that the flights of a state are also its history.
-/
import Mathlib.Data.Finset.Basic
import Mathlib.Logic.Function.Basic
import Mathlib.Logic.Relation
import KernelGraph.Compile.ProgramCache

namespace KernelGraph

/-- How far a flight has come. -/
inductive Traffic.Stage (P ε : Type)
  /-- It is registered. -/
  | boarding
  /-- It has not found the program, and its compile is running. -/
  | compiling
  /-- Its compile has come back. -/
  | compiled (outcome : Except ε P)
  /-- It has found its program, or stored it. -/
  | settled (outcome : Except ε P)
  /-- It is no longer registered. -/
  | landed (outcome : Except ε P)
  /-- Its outcome can be received. -/
  | arrived (outcome : Except ε P)

/-- A flight: what is looked for, and the call that registered it, whose function it runs. -/
structure Traffic.Flight (P ε : Type) where
  key : ProgramKey
  leader : Nat
  /-- The compile function of the leader has been called. -/
  ran : Bool := false
  stage : Traffic.Stage P ε := .boarding

/-- The place that a call has reached. -/
inductive Traffic.Place (P ε : Type)
  /-- It is about to look for the program. -/
  | looking
  /-- It has not found the program. -/
  | missing
  /-- It waits for a flight, which it is told to lead or not, and which it has registered or not. -/
  | waiting (flight : Nat) (leads registered : Bool)
  /-- It has been cancelled, and waits for the flight that it leads. -/
  | draining (flight : Nat)
  /-- It came back with a program or an error, and with the flag that the program was there.  If it
      was given the outcome of a flight, the flight is noted. -/
  | returned (flight : Option Nat) (result : Except (CallError ε) P) (hit : Bool)

/-- A call of the cache. -/
structure Traffic.Caller (P ε : Type) where
  key : ProgramKey
  cancelled : Bool := false
  place : Traffic.Place P ε := .looking

/-- The cache, its registers, and the flights and calls so far. -/
structure Traffic (P ε : Type) where
  programs : Lru ProgramKey P
  compiles : Nat := 0
  inflight : Finset String := ∅
  group : String → Option Nat := fun _ => none
  flights : Nat → Option (Traffic.Flight P ε) := fun _ => none
  callers : Nat → Option (Traffic.Caller P ε) := fun _ => none

namespace Traffic

variable {P ε : Type}

/-! ## Flights and calls -/

/-- What the flight has come to. -/
def Stage.outcome? : Stage P ε → Option (Except ε P)
  | boarding | compiling => none
  | compiled o | settled o | landed o | arrived o => some o

/-- The flight is registered. -/
def Stage.IsAloft : Stage P ε → Prop
  | boarding | compiling | compiled _ | settled _ => True
  | landed _ | arrived _ => False

/-- The flight's outcome can be received. -/
def Stage.HasArrived : Stage P ε → Prop
  | arrived _ => True
  | _ => False

theorem Stage.HasArrived.not_isAloft {g : Stage P ε} (h : g.HasArrived) : ¬ g.IsAloft := by
  cases g with
  | arrived o => exact id
  | _ => exact h.elim

/-- The flight that a call waits for. -/
def Place.awaits? : Place P ε → Option Nat
  | waiting f _ _ => some f
  | draining f => some f
  | _ => none

/-- The call has come back. -/
def Place.HasReturned : Place P ε → Prop
  | returned _ _ _ => True
  | _ => False

theorem Place.HasReturned.awaits?_eq_none {p : Place P ε} (h : p.HasReturned) :
    p.awaits? = none := by
  cases p with
  | returned f r hit => rfl
  | _ => exact h.elim

/-- A call is given the outcome of a flight, which has called the call's own function or not.  If
    the flight was cancelled on behalf of another call, the call looks again. -/
def Caller.take (isCancelled : ε → Bool) (c : Caller P ε) (flight : Nat) (ran : Bool) :
    Except ε P → Caller P ε
  | .ok p => { c with place := .returned (some flight) (.ok p) (!ran) }
  | .error e =>
    if !ran && isCancelled e && !c.cancelled then { c with place := .looking }
    else { c with place := .returned (some flight) (.error (.failed e)) false }

@[simp] theorem Caller.take_key (isCancelled : ε → Bool) (c : Caller P ε) (f : Nat) (ran : Bool)
    (o : Except ε P) : (c.take isCancelled f ran o).key = c.key := by
  cases o with
  | ok p => rfl
  | error e =>
    unfold take
    dsimp only
    split <;> rfl

/-- A call that is given the outcome of a flight has not found its program on its own. -/
theorem Caller.take_place_ne (isCancelled : ε → Bool) (c : Caller P ε) (f : Nat) (ran : Bool)
    (o : Except ε P) (result : Except (CallError ε) P) (hit : Bool) :
    (c.take isCancelled f ran o).place ≠ .returned none result hit := by
  cases o with
  | ok p => exact nofun
  | error e =>
    unfold take
    dsimp only
    split
    · exact nofun
    · exact nofun

/-- A call comes back with the outcome that it is given, unless it looks again. -/
theorem Caller.take_eq_returned {isCancelled : ε → Bool} {c : Caller P ε} {ran : Bool}
    {o : Except ε P}
    (h : ∀ e, o = .error e → ran = true ∨ isCancelled e = false ∨ c.cancelled = true) (f : Nat) :
    c.take isCancelled f ran o =
      { c with place := .returned (some f) (o.mapError .failed) (o.toBool && !ran) } := by
  cases o with
  | ok p => rfl
  | error e => exact if_neg (by have := h e rfl; grind)

/-! ## Steps -/

/-- A call reaches another place. -/
def setCaller (s : Traffic P ε) (id : Nat) (c : Caller P ε) : Traffic P ε :=
  { s with callers := Function.update s.callers id (some c) }

/-- A flight goes on. -/
def setFlight (s : Traffic P ε) (f : Nat) (x : Flight P ε) : Traffic P ε :=
  { s with flights := Function.update s.flights f (some x) }

@[simp] theorem setCaller_programs (s : Traffic P ε) (id : Nat) (c : Caller P ε) :
    (s.setCaller id c).programs = s.programs := rfl

@[simp] theorem setCaller_compiles (s : Traffic P ε) (id : Nat) (c : Caller P ε) :
    (s.setCaller id c).compiles = s.compiles := rfl

@[simp] theorem setCaller_inflight (s : Traffic P ε) (id : Nat) (c : Caller P ε) :
    (s.setCaller id c).inflight = s.inflight := rfl

@[simp] theorem setCaller_group (s : Traffic P ε) (id : Nat) (c : Caller P ε) :
    (s.setCaller id c).group = s.group := rfl

@[simp] theorem setCaller_flights (s : Traffic P ε) (id : Nat) (c : Caller P ε) :
    (s.setCaller id c).flights = s.flights := rfl

@[simp] theorem setCaller_callers_self (s : Traffic P ε) (id : Nat) (c : Caller P ε) :
    (s.setCaller id c).callers id = some c := Function.update_self ..

theorem setCaller_callers_of_ne (s : Traffic P ε) {id id' : Nat} (c : Caller P ε) (h : id' ≠ id) :
    (s.setCaller id c).callers id' = s.callers id' := Function.update_of_ne h ..

theorem setCaller_callers_eq_some {s : Traffic P ε} {id id' : Nat} {c c' : Caller P ε} :
    (s.setCaller id c).callers id' = some c' ↔
      id' = id ∧ c' = c ∨ id' ≠ id ∧ s.callers id' = some c' := by
  by_cases h : id' = id
  · subst h
    simp [eq_comm]
  · simp [setCaller_callers_of_ne s c h, h]

/-- A call that begins leaves the other calls where they are. -/
theorem setCaller_callers_of_fresh {s : Traffic P ε} {id i : Nat} {d : Caller P ε}
    (hfresh : s.callers id = none) (hd : s.callers i = some d) (c : Caller P ε) :
    (s.setCaller id c).callers i = some d := by
  have hne : i ≠ id := by
    rintro rfl
    rw [hfresh] at hd
    cases hd
  rw [setCaller_callers_of_ne s c hne, hd]

@[simp] theorem setFlight_programs (s : Traffic P ε) (f : Nat) (x : Flight P ε) :
    (s.setFlight f x).programs = s.programs := rfl

@[simp] theorem setFlight_compiles (s : Traffic P ε) (f : Nat) (x : Flight P ε) :
    (s.setFlight f x).compiles = s.compiles := rfl

@[simp] theorem setFlight_inflight (s : Traffic P ε) (f : Nat) (x : Flight P ε) :
    (s.setFlight f x).inflight = s.inflight := rfl

@[simp] theorem setFlight_group (s : Traffic P ε) (f : Nat) (x : Flight P ε) :
    (s.setFlight f x).group = s.group := rfl

@[simp] theorem setFlight_callers (s : Traffic P ε) (f : Nat) (x : Flight P ε) :
    (s.setFlight f x).callers = s.callers := rfl

@[simp] theorem setFlight_flights_self (s : Traffic P ε) (f : Nat) (x : Flight P ε) :
    (s.setFlight f x).flights f = some x := Function.update_self ..

theorem setFlight_flights_of_ne (s : Traffic P ε) {f f' : Nat} (x : Flight P ε) (h : f' ≠ f) :
    (s.setFlight f x).flights f' = s.flights f' := Function.update_of_ne h ..

theorem setFlight_flights_eq_some {s : Traffic P ε} {f f' : Nat} {x x' : Flight P ε} :
    (s.setFlight f x).flights f' = some x' ↔
      f' = f ∧ x' = x ∨ f' ≠ f ∧ s.flights f' = some x' := by
  by_cases h : f' = f
  · subst h
    simp [eq_comm]
  · simp [setFlight_flights_of_ne s x h, h]

/-- A flight that is registered leaves the other flights where they are. -/
theorem setFlight_flights_of_fresh {s : Traffic P ε} {f g : Nat} {z : Flight P ε}
    (hfresh : s.flights f = none) (hz : s.flights g = some z) (x : Flight P ε) :
    (s.setFlight f x).flights g = some z := by
  have hne : g ≠ f := by
    rintro rfl
    rw [hfresh] at hz
    cases hz
  rw [setFlight_flights_of_ne s x hne, hz]

/-- An empty cache, at which nothing has happened yet. -/
def start (limit : Int) : Traffic P ε :=
  { programs := (ProgramCache.empty limit : ProgramCache P ε).programs }

/-- One critical section. -/
inductive Step (isCancelled : ε → Bool) : Traffic P ε → Traffic P ε → Prop
  /-- A program is looked up. -/
  | lookup {s : Traffic P ε} (key : ProgramKey) :
      Step isCancelled s { s with programs := (s.programs.get key).2 }
  /-- Every program is dropped. -/
  | clear {s : Traffic P ε} : Step isCancelled s { s with programs := s.programs.clear }
  /-- A call begins. -/
  | call {s : Traffic P ε} {id : Nat} (key : ProgramKey) (hfresh : s.callers id = none) :
      Step isCancelled s (s.setCaller id { key })
  /-- A caller loses interest. -/
  | cancel {s : Traffic P ε} {id : Nat} {c : Caller P ε} (hc : s.callers id = some c) :
      Step isCancelled s (s.setCaller id { c with cancelled := true })
  /-- A call finds its program. -/
  | hit {s : Traffic P ε} {id : Nat} {c : Caller P ε} {p : P} (hc : s.callers id = some c)
      (hplace : c.place = .looking) (hget : (s.programs.get c.key).1 = some p) :
      Step isCancelled s ({ s with programs := (s.programs.get c.key).2 }.setCaller id
        { c with place := .returned none (.ok p) true })
  /-- A call does not find its program. -/
  | miss {s : Traffic P ε} {id : Nat} {c : Caller P ε} (hc : s.callers id = some c)
      (hplace : c.place = .looking) (hget : (s.programs.get c.key).1 = none) :
      Step isCancelled s ({ s with programs := (s.programs.get c.key).2 }.setCaller id
        { c with place := .missing })
  /-- A call joins the flight that the group knows. -/
  | join {s : Traffic P ε} {id f : Nat} {c : Caller P ε} (hc : s.callers id = some c)
      (hplace : c.place = .missing) (hgroup : s.group c.key.name = some f) :
      Step isCancelled s ({ s with inflight := insert c.key.name s.inflight }.setCaller id
        { c with place := .waiting f (decide (c.key.name ∉ s.inflight)) false })
  /-- A call registers a flight. -/
  | depart {s : Traffic P ε} {id f : Nat} {c : Caller P ε} (hc : s.callers id = some c)
      (hplace : c.place = .missing) (hgroup : s.group c.key.name = none)
      (hfresh : s.flights f = none) :
      Step isCancelled s (({ s with
        inflight := insert c.key.name s.inflight
        group := Function.update s.group c.key.name (some f) }.setFlight f
          { key := c.key, leader := id }).setCaller id
        { c with place := .waiting f (decide (c.key.name ∉ s.inflight)) true })
  /-- A flight finds the program, which another one has stored in the meantime. -/
  | find {s : Traffic P ε} {f : Nat} {x : Flight P ε} {p : P} (hx : s.flights f = some x)
      (hstage : x.stage = .boarding) (hget : (s.programs.get x.key).1 = some p) :
      Step isCancelled s ({ s with programs := (s.programs.get x.key).2 }.setFlight f
        { x with stage := .settled (.ok p) })
  /-- A flight calls the compile function. -/
  | compile {s : Traffic P ε} {f : Nat} {x : Flight P ε} (hx : s.flights f = some x)
      (hstage : x.stage = .boarding) (hget : (s.programs.get x.key).1 = none) :
      Step isCancelled s ({ s with
        programs := (s.programs.get x.key).2
        compiles := s.compiles + 1 }.setFlight f { x with ran := true, stage := .compiling })
  /-- A compile comes back. -/
  | comeBack {s : Traffic P ε} {f : Nat} {x : Flight P ε} (hx : s.flights f = some x)
      (hstage : x.stage = .compiling) (o : Except ε P) :
      Step isCancelled s (s.setFlight f { x with stage := .compiled o })
  /-- A flight stores its program, if there is one. -/
  | settle {s : Traffic P ε} {f : Nat} {x : Flight P ε} {o : Except ε P}
      (hx : s.flights f = some x) (hstage : x.stage = .compiled o) :
      Step isCancelled s ({ s with
        programs := match o with
          | .ok p => s.programs.set x.key p
          | .error _ => s.programs }.setFlight f { x with stage := .settled o })
  /-- A flight gives its name up. -/
  | land {s : Traffic P ε} {f : Nat} {x : Flight P ε} {o : Except ε P}
      (hx : s.flights f = some x) (hstage : x.stage = .settled o) :
      Step isCancelled s ({ s with
        inflight := s.inflight.erase x.key.name
        group := Function.update s.group x.key.name none }.setFlight f
          { x with stage := .landed o })
  /-- A flight sends its outcome.  If it is still registered, it no longer is. -/
  | arrive {s : Traffic P ε} {f : Nat} {x : Flight P ε} {o : Except ε P}
      (hx : s.flights f = some x) (hstage : x.stage = .landed o) :
      Step isCancelled s ({ s with
        group := if s.group x.key.name = some f then Function.update s.group x.key.name none
          else s.group }.setFlight f { x with stage := .arrived o })
  /-- A call receives the outcome of the flight that it waits for. -/
  | receive {s : Traffic P ε} {id f : Nat} {c : Caller P ε} {x : Flight P ε} {o : Except ε P}
      {leads registered : Bool} (hc : s.callers id = some c)
      (hplace : c.place = .waiting f leads registered) (hx : s.flights f = some x)
      (hstage : x.stage = .arrived o) :
      Step isCancelled s (s.setCaller id (c.take isCancelled f (registered && x.ran) o))
  /-- A cancelled call that does not lead leaves. -/
  | leave {s : Traffic P ε} {id f : Nat} {c : Caller P ε} {registered : Bool}
      (hc : s.callers id = some c) (hplace : c.place = .waiting f false registered)
      (hcancelled : c.cancelled = true) :
      Step isCancelled s (s.setCaller id
        { c with place := .returned none (.error .cancelled) false })
  /-- A cancelled call that leads turns to waiting for its flight only. -/
  | drain {s : Traffic P ε} {id f : Nat} {c : Caller P ε} {registered : Bool}
      (hc : s.callers id = some c) (hplace : c.place = .waiting f true registered)
      (hcancelled : c.cancelled = true) :
      Step isCancelled s (s.setCaller id { c with place := .draining f })
  /-- A cancelled call that leads leaves when its flight has arrived. -/
  | drained {s : Traffic P ε} {id f : Nat} {c : Caller P ε} {x : Flight P ε} {o : Except ε P}
      (hc : s.callers id = some c) (hplace : c.place = .draining f) (hx : s.flights f = some x)
      (hstage : x.stage = .arrived o) :
      Step isCancelled s (s.setCaller id
        { c with place := .returned none (.error .cancelled) false })

/-- The states that are reached from the start. -/
def Reachable (isCancelled : ε → Bool) (limit : Int) (s : Traffic P ε) : Prop :=
  Relation.ReflTransGen (Step isCancelled) (start limit) s

end Traffic

end KernelGraph
