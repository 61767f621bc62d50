/-
  Traffic at a pool of workers: any number of tasks, and one step of somebody after the other.

  Whoever submits a task takes the lock of the submissions, sees that the pool is open, compares the
  lengths of the queues one by one, and puts the task into the queue that was the shortest, as soon
  as there is room; on a closed pool the task is finished at once.  Everybody else may go on in
  between: queues grow and shrink while they are compared.

      ahead ⟶ asked ⟶ scanning ⟶ ⋯ ⟶ sending ⟶ returned       (a submission)
                 ⟶ ⟶ ⟶ ⟶ ⟶ ⟶ ⟶ ⟶ ⟶ ⟶ ⟶ ⟶ ⟶

  A worker looks at its own queue, goes round the others to steal, and waits.  It checks the context
  of a task that it has got hold of, and skips the task or runs it.  On a closed pool it runs what
  is left in its own queue, and exits:

      looking ⟶ stealing ⟶ ⋯ ⟶ waiting ⟶ draining ⟶ exited    (a worker)
         holding ⟶ running ⟶ looking, or draining

  Whoever closes the pool waits for the submissions that hold the lock, and then for the workers: it
  comes back when all of them have exited.  A call that finds the pool closed already comes back at
  once, and waits for nobody.  (Submissions that ask for the lock after it wait for it in the
  program; here they may also go first.)

      asked ⟶ waiting ⟶ returned                                (a call that closes the pool)
         ⟶ ⟶ ⟶ ⟶ ⟶ ⟶ returned

  `Accounted`: a task that was accepted is with its submission, in a queue, with a worker or done,
  in one of these places, and once.  Every step keeps it so.
-/
import Mathlib.Algebra.BigOperators.Group.Finset.Piecewise
import Mathlib.Algebra.Order.BigOperators.Group.Finset
import Mathlib.Logic.Relation
import Mathlib.Order.WellFounded
import KernelGraph.Worker.Pool

namespace KernelGraph

/-- How far the submission of a task has come. -/
inductive PoolTraffic.Call
  /-- It has not begun. -/
  | ahead
  /-- There is a task, and the lock is still to be taken. -/
  | asked
  /-- The pool was open; the queues before `next` were compared, and `best` was the shortest. -/
  | scanning (next best least : Nat)
  /-- The queue is chosen. -/
  | sending (worker : Nat)
  | returned
  deriving DecidableEq, Repr

/-- A task, with what has happened to it. -/
structure PoolTraffic.Task where
  call : PoolTraffic.Call := .ahead
  /-- The pool was closed when the submission began. -/
  late : Bool := false
  /-- The submission found the pool open. -/
  accepted : Bool := false
  /-- Why its context is cancelled. -/
  context : Option TaskError := none
  /-- Whether its context was cancelled each time that a worker checked it. -/
  checks : List Bool := []
  /-- How often its function was called. -/
  runs : Nat := 0
  /-- What it was finished with, each time. -/
  results : List (Option TaskError) := []
  deriving DecidableEq, Repr

/-- Where a worker stands.  A task that it has got hold of was taken while it drained its queue, or
    was not. -/
inductive PoolTraffic.Place
  /-- It is about to look at its queue. -/
  | looking
  /-- It is about to look at the queue of the worker `next`. -/
  | stealing (next : Nat)
  /-- It waits for its queue. -/
  | waiting
  /-- It is about to check the context of the task. -/
  | holding (task : Nat) (drains : Bool)
  | running (task : Nat) (drains : Bool)
  /-- It runs what is left in its queue. -/
  | draining
  | exited
  deriving DecidableEq, Repr

/-- A worker and its queue. -/
structure PoolTraffic.Worker where
  queue : List Nat := []
  place : PoolTraffic.Place := .looking
  deriving DecidableEq, Repr

/-- How far a call that is to close the pool has come. -/
inductive PoolTraffic.Closing
  /-- The lock is still to be taken. -/
  | asked
  /-- It has closed the pool, and waits for the workers. -/
  | waiting
  /-- It has come back, and was the call that closed the pool, or was not. -/
  | returned (stopped : Bool)
  deriving DecidableEq, Repr

/-- The workers and the tasks of a pool. -/
structure PoolTraffic where
  workers : Nat → PoolTraffic.Worker := fun _ => {}
  tasks : Nat → PoolTraffic.Task := fun _ => {}
  /-- The number of submissions; they are numbered. -/
  submitted : Nat := 0
  isOpen : Bool := true
  /-- The calls that are to close the pool; several callers may close it at the same time. -/
  closings : List PoolTraffic.Closing := []

namespace PoolTraffic

/-! ## Steps -/

/-- The room in a queue, for a number of workers. -/
def capacity (n : Nat) : Nat := max (n * 4) 8

/-- A task is finished.  Its context is cancelled as well. -/
def Task.finish (t : Task) (error : Option TaskError) : Task :=
  { t with results := t.results ++ [error], context := t.context.or (some .cancelled) }

/-- The submission of a task goes on. -/
def Task.goOn (t : Task) (c : Call) : Task := { t with call := c }

@[simp] theorem Task.goOn_call (t : Task) (c : Call) : (t.goOn c).call = c := rfl

/-- The submission finds the pool open and looks at the first queue. -/
def Task.accept (t : Task) (least : Nat) : Task :=
  { t with accepted := true, call := .scanning 1 0 least }

/-- The submission finds the pool closed. -/
def Task.refuse (t : Task) : Task := (t.finish (some .poolClosed)).goOn .returned

/-- A worker skips the task. -/
def Task.skip (t : Task) (e : TaskError) : Task :=
  { t.finish (some e) with checks := t.checks ++ [true] }

/-- A worker runs the task. -/
def Task.run (t : Task) : Task := { t with checks := t.checks ++ [false], runs := t.runs + 1 }

/-- Somebody cancels the context of the task, unless it is cancelled already. -/
def Task.cancel (t : Task) (e : TaskError) : Task := { t with context := t.context.or (some e) }

/-- What a task has come to: nothing yet, or an error or none. -/
def Task.result? (t : Task) : Option (Option TaskError) := t.results.head?

/-- Where a worker goes on after a task. -/
def Place.after (drains : Bool) : Place := if drains then .draining else .looking

/-- Changes a task. -/
def setTask (s : PoolTraffic) (id : Nat) (t : Task) : PoolTraffic :=
  { s with tasks := Function.update s.tasks id t }

/-- Changes a worker. -/
def setWorker (s : PoolTraffic) (w : Nat) (x : Worker) : PoolTraffic :=
  { s with workers := Function.update s.workers w x }

/-- Moves a worker. -/
def setPlace (s : PoolTraffic) (w : Nat) (p : Place) : PoolTraffic :=
  s.setWorker w ⟨(s.workers w).queue, p⟩

/-- Changes the queue of a worker. -/
def setQueue (s : PoolTraffic) (w : Nat) (queue : List Nat) : PoolTraffic :=
  s.setWorker w ⟨queue, (s.workers w).place⟩

/-- A call that is to close the pool goes on. -/
def setClosing (s : PoolTraffic) (i : Nat) (c : Closing) : PoolTraffic :=
  { s with closings := s.closings.set i c }

/-- The submission holds the lock. -/
def Call.waits : Call → Nat
  | scanning _ _ _ | sending _ => 1
  | _ => 0

/-- The steps of `n` workers, and of those who have submitted a task or closed the pool. -/
inductive Proceeds (n : Nat) : PoolTraffic → PoolTraffic → Prop
  | accept {s k} (h : (s.tasks k).call = .asked) (hopen : s.isOpen = true) :
    Proceeds n s (s.setTask k ((s.tasks k).accept (s.workers 0).queue.length))
  | refuse {s k} (h : (s.tasks k).call = .asked) (hclosed : s.isOpen = false) :
    Proceeds n s (s.setTask k (s.tasks k).refuse)
  | compare {s k i best least} (h : (s.tasks k).call = .scanning i best least) (hi : i < n) :
    Proceeds n s (s.setTask k ((s.tasks k).goOn
      (if (s.workers i).queue.length < least then .scanning (i + 1) i (s.workers i).queue.length
      else .scanning (i + 1) best least)))
  | choose {s k i best least} (h : (s.tasks k).call = .scanning i best least) (hi : n ≤ i) :
    Proceeds n s (s.setTask k ((s.tasks k).goOn (.sending best)))
  | send {s k w} (h : (s.tasks k).call = .sending w)
    (hroom : (s.workers w).queue.length < capacity n) :
    Proceeds n s ((s.setQueue w ((s.workers w).queue ++ [k])).setTask k
      ((s.tasks k).goOn .returned))
  | take {s w k rest} (hw : w < n)
    (h : (s.workers w).place = .looking ∨ (s.workers w).place = .waiting)
    (hqueue : (s.workers w).queue = k :: rest) :
    Proceeds n s (s.setWorker w ⟨rest, .holding k false⟩)
  | drain {s w k rest} (hw : w < n) (h : (s.workers w).place = .draining)
    (hqueue : (s.workers w).queue = k :: rest) :
    Proceeds n s (s.setWorker w ⟨rest, .holding k true⟩)
  | prowl {s w} (hw : w < n) (h : (s.workers w).place = .looking)
    (hqueue : (s.workers w).queue = []) (hopen : s.isOpen = true) :
    Proceeds n s (s.setPlace w (.stealing 0))
  | pass {s w i} (hw : w < n) (h : (s.workers w).place = .stealing i) (hi : i < n)
    (hqueue : i = w ∨ (s.workers i).queue = []) :
    Proceeds n s (s.setPlace w (.stealing (i + 1)))
  | steal {s w i k rest} (hw : w < n) (h : (s.workers w).place = .stealing i) (hi : i < n)
    (hne : i ≠ w) (hqueue : (s.workers i).queue = k :: rest) :
    Proceeds n s ((s.setQueue i rest).setPlace w (.holding k false))
  | wait {s w i} (hw : w < n) (h : (s.workers w).place = .stealing i) (hi : n ≤ i) :
    Proceeds n s (s.setPlace w .waiting)
  | skip {s w k drains e} (hw : w < n) (h : (s.workers w).place = .holding k drains)
    (hcontext : (s.tasks k).context = some e) :
    Proceeds n s ((s.setPlace w (.after drains)).setTask k ((s.tasks k).skip e))
  | run {s w k drains} (hw : w < n) (h : (s.workers w).place = .holding k drains)
    (hcontext : (s.tasks k).context = none) :
    Proceeds n s ((s.setPlace w (.running k drains)).setTask k (s.tasks k).run)
  | finish {s w k drains} (hw : w < n) (h : (s.workers w).place = .running k drains)
    (error : Option TaskError) :
    Proceeds n s ((s.setPlace w (.after drains)).setTask k ((s.tasks k).finish error))
  | quit {s w} (hw : w < n)
    (h : (s.workers w).place = .looking ∨ (s.workers w).place = .waiting)
    (hclosed : s.isOpen = false) : Proceeds n s (s.setPlace w .draining)
  | exit {s w} (hw : w < n) (h : (s.workers w).place = .draining)
    (hqueue : (s.workers w).queue = []) : Proceeds n s (s.setPlace w .exited)
  | stop {s i} (h : s.closings[i]? = some .asked) (hopen : s.isOpen = true)
    (hlock : ∀ id, (s.tasks id).call.waits = 0) :
    Proceeds n s { s.setClosing i .waiting with isOpen := false }
  | leave {s i} (h : s.closings[i]? = some .asked) (hclosed : s.isOpen = false) :
    Proceeds n s (s.setClosing i (.returned false))
  | closed {s i} (h : s.closings[i]? = some .waiting)
    (hexited : ∀ w < n, (s.workers w).place = .exited) :
    Proceeds n s (s.setClosing i (.returned true))

/-- The task of the next submission. -/
def submit (s : PoolTraffic) (context : Option TaskError) : PoolTraffic :=
  { s.setTask s.submitted { call := .asked, late := !s.isOpen, context } with
    submitted := s.submitted + 1 }

/-- The context of a task is cancelled, unless it is already. -/
def cancel (s : PoolTraffic) (id : Nat) (e : TaskError) : PoolTraffic :=
  s.setTask id ((s.tasks id).cancel e)

/-- Steps of the traffic. -/
inductive Step (n : Nat) : PoolTraffic → PoolTraffic → Prop
  | proceed {s t} (h : Proceeds n s t) : Step n s t
  | submit {s} (context : Option TaskError) : Step n s (s.submit context)
  | cancel {s id} (h : id < s.submitted) (e : TaskError) : Step n s (s.cancel id e)
  | close {s} : Step n s { s with closings := s.closings ++ [.asked] }

/-- What the traffic at a new pool of `n` workers can come to. -/
def Reachable (n : Nat) (s : PoolTraffic) : Prop := Relation.ReflTransGen (Step n) {} s

/-! ## Where the tasks are -/

/-- The task that the worker is about to check. -/
def Place.held : Place → List Nat
  | holding id _ => [id]
  | _ => []

/-- The task that the worker runs. -/
def Place.run : Place → List Nat
  | running id _ => [id]
  | _ => []

/-- The worker has found the pool closed. -/
def Place.Leaves : Place → Prop
  | holding _ drains | running _ drains => drains = true
  | draining | exited => True
  | _ => False

/-- The tasks with a worker that no context was checked of. -/
def Worker.waiting (x : Worker) : List Nat := x.queue ++ x.place.held

/-- How often a task is in a queue, or in the hands of a worker who has not checked it. -/
def waiting (n : Nat) (s : PoolTraffic) (id : Nat) : Nat :=
  ∑ w ∈ Finset.range n, (s.workers w).waiting.count id

/-- How often a task is run at present. -/
def running (n : Nat) (s : PoolTraffic) (id : Nat) : Nat :=
  ∑ w ∈ Finset.range n, (s.workers w).place.run.count id

/-- The call is the one that has closed the pool. -/
def Closing.stops : Closing → Bool
  | waiting | returned true => true
  | _ => false

section
variable {n : Nat} {s t : PoolTraffic} {id w : Nat} {x : Worker}

@[simp] theorem setTask_tasks_self (s : PoolTraffic) (id : Nat) (t : Task) :
    (s.setTask id t).tasks id = t := Function.update_self ..

theorem setTask_tasks_of_ne (s : PoolTraffic) (t : Task) {j : Nat} (h : j ≠ id) :
    (s.setTask id t).tasks j = s.tasks j := Function.update_of_ne h ..

@[simp] theorem setWorker_workers_self (s : PoolTraffic) (w : Nat) (x : Worker) :
    (s.setWorker w x).workers w = x := Function.update_self ..

theorem setWorker_workers_of_ne (s : PoolTraffic) (x : Worker) {v : Nat} (h : v ≠ w) :
    (s.setWorker w x).workers v = s.workers v := Function.update_of_ne h ..

/-- A sum of which one summand has changed. -/
theorem sum_update {β : Type} (g : Nat → β) (f : β → Nat) {i m : Nat} (hi : i < m) (x : β) :
    ∑ v ∈ Finset.range m, f (Function.update g i x v) + f (g i) =
      ∑ v ∈ Finset.range m, f (g v) + f x := by
  have hmem := Finset.mem_range.2 hi
  have hcomp : (fun v => f (Function.update g i x v)) =
      Function.update (fun v => f (g v)) i (f x) := by
    funext v
    by_cases hv : v = i
    · rw [hv, Function.update_self, Function.update_self]
    · rw [Function.update_of_ne hv, Function.update_of_ne hv]
  rw [hcomp, Finset.sum_update_of_mem hmem, Finset.sdiff_singleton_eq_erase]
  have hsum := Finset.sum_erase_add (Finset.range m) (fun v => f (g v)) hmem
  omega

/-- How many entries of a list have a property, when one of them has changed. -/
theorem countP_set_add {β : Type} {l : List β} {i : Nat} {a : β} (p : β → Bool)
    (h : l[i]? = some a) (b : β) :
    (l.set i b).countP p + (if p a then 1 else 0) = l.countP p + if p b then 1 else 0 := by
  obtain ⟨hi, rfl⟩ := List.getElem?_eq_some_iff.1 h
  rw [List.countP_set hi]
  split
  · rename_i ha
    have hpos := List.countP_pos_iff.2 ⟨l[i], List.getElem_mem hi, ha⟩
    omega
  · omega

theorem waiting_setWorker (hw : w < n) (x : Worker) (j : Nat) :
    (s.setWorker w x).waiting n j + (s.workers w).waiting.count j =
      s.waiting n j + x.waiting.count j :=
  sum_update s.workers (fun x => x.waiting.count j) hw x

theorem running_setWorker (hw : w < n) (x : Worker) (j : Nat) :
    (s.setWorker w x).running n j + (s.workers w).place.run.count j =
      s.running n j + x.place.run.count j :=
  sum_update s.workers (fun x => x.place.run.count j) hw x

/-! ## Every task is in one place -/

/-- A queue that the submission will choose is there. -/
def Call.Within (n : Nat) : Call → Prop
  | scanning _ best _ => best < n
  | sending w => w < n
  | _ => True

/-- A task fits how often it waits with the workers and is run by them. -/
structure Task.Fits (t : Task) (n waiting running : Nat) (isOpen : Bool) : Prop where
  /-- An accepted task is with its submission, with the workers, or was checked. -/
  place : t.call.waits + waiting + t.checks.length = if t.accepted then 1 else 0
  /-- If it was checked it runs or is done. -/
  done : t.accepted = true → running + t.results.length = t.checks.length
  runs : t.runs = t.checks.count false
  /-- A task that was refused was finished by its submission. -/
  refused : t.accepted = false → running = 0 ∧
    t.results = if t.call = .returned then [some .poolClosed] else []
  late : t.late = true → t.accepted = false ∧ isOpen = false
  within : t.call.Within n
  /-- The lock is free once the pool is closed. -/
  lock : isOpen = false → t.call.waits = 0
  /-- It is accepted once its submission holds the lock. -/
  asked : t.call = .ahead ∨ t.call = .asked → t.accepted = false

/-- A worker knows that the pool is closed only if it is, and exits with an empty queue. -/
structure Worker.Fits (x : Worker) (isOpen : Bool) : Prop where
  leaves : x.place.Leaves → isOpen = false
  exited : x.place = .exited → x.queue = []

/-- If the pool is closed, one call has closed it; and that one comes back after the workers. -/
structure Stopped (n : Nat) (s : PoolTraffic) : Prop where
  once : s.closings.countP Closing.stops = if s.isOpen then 0 else 1
  exited : .returned true ∈ s.closings → ∀ w < n, (s.workers w).place = .exited
  left : .returned false ∈ s.closings → s.isOpen = false

/-- Every task is in one place. -/
structure Accounted (n : Nat) (s : PoolTraffic) : Prop where
  tasks : ∀ id, (s.tasks id).Fits n (s.waiting n id) (s.running n id) s.isOpen
  workers : ∀ w < n, (s.workers w).Fits s.isOpen
  ahead : ∀ id, s.submitted ≤ id → s.tasks id = {}
  begun : ∀ id < s.submitted, (s.tasks id).call ≠ .ahead
  closed : s.Stopped n

theorem accounted_new (n : Nat) : Accounted n {} where
  tasks _ := by
    refine ⟨?_, fun h => (by cases h), rfl, fun _ => ⟨?_, rfl⟩, fun h => (by cases h), trivial,
      fun h => (by cases h), fun _ => rfl⟩
    · simp [waiting, Worker.waiting, Place.held, Call.waits]
    · simp [running, Place.run]
  workers _ _ := ⟨fun h => h.elim, fun h => (by cases h)⟩
  ahead _ _ := rfl
  begun _ h := absurd h (Nat.not_lt_zero _)
  closed := ⟨rfl, fun h => (by cases h), fun h => (by cases h)⟩

theorem count_le_waiting (hw : w < n) (id : Nat) :
    (s.workers w).waiting.count id ≤ s.waiting n id :=
  Finset.single_le_sum (f := fun w => (s.workers w).waiting.count id) (fun _ _ => Nat.zero_le _)
    (Finset.mem_range.2 hw)

theorem count_le_running (hw : w < n) (id : Nat) :
    (s.workers w).place.run.count id ≤ s.running n id :=
  Finset.single_le_sum (f := fun w => (s.workers w).place.run.count id) (fun _ _ => Nat.zero_le _)
    (Finset.mem_range.2 hw)

/-- A task that a worker has not checked was accepted, and nobody else has it. -/
theorem Accounted.of_mem_waiting (h : Accounted n s) (hw : w < n)
    (hid : id ∈ (s.workers w).waiting) : (s.tasks id).accepted = true ∧ s.waiting n id = 1 ∧
      (s.tasks id).call.waits = 0 ∧ (s.tasks id).checks = [] := by
  have hpos := List.count_pos_iff.2 hid
  have hle := count_le_waiting (s := s) hw id
  have hplace := (h.tasks id).place
  split at hplace
  · rename_i haccepted
    exact ⟨haccepted, by omega, by omega, List.eq_nil_of_length_eq_zero (by omega)⟩
  · omega

/-- A task that a worker runs was accepted and checked, and nobody else has it. -/
theorem Accounted.of_mem_run (h : Accounted n s) (hw : w < n)
    (hid : id ∈ (s.workers w).place.run) : (s.tasks id).accepted = true ∧ s.waiting n id = 0 ∧
      (s.tasks id).call.waits = 0 ∧ (s.tasks id).checks.length = 1 ∧ s.running n id = 1 ∧
      (s.tasks id).results = [] := by
  have hpos := List.count_pos_iff.2 hid
  have hle := count_le_running (s := s) hw id
  have hplace := (h.tasks id).place
  have haccepted : (s.tasks id).accepted = true := by
    by_contra hnot
    have hrunning := ((h.tasks id).refused (Bool.eq_false_iff.2 hnot)).1
    omega
  have hdone := (h.tasks id).done haccepted
  rw [if_pos haccepted] at hplace
  exact ⟨haccepted, by omega, by omega, by omega, by omega,
    List.eq_nil_of_length_eq_zero (by omega)⟩

/-- What a worker holds or runs was accepted. -/
theorem Accounted.accepted_of_place (h : Accounted n s) (hw : w < n) {q : Place}
    (hq : (s.workers w).place = q) (hid : id ∈ q.held ∨ id ∈ q.run) :
    (s.tasks id).accepted = true := by
  subst hq
  rcases hid with hid | hid
  · exact (h.of_mem_waiting hw (List.mem_append_right _ hid)).1
  · exact (h.of_mem_run hw hid).1

theorem Accounted.lt_submitted (h : Accounted n s) (hne : s.tasks id ≠ {}) : id < s.submitted := by
  by_contra hge
  exact hne (h.ahead id (by omega))

/-- The pool is closed if a call has closed it. -/
theorem Stopped.isOpen_eq_false (h : s.Stopped n) {c : Closing} (hc : c ∈ s.closings)
    (hstops : c.stops = true) : s.isOpen = false := by
  have hpos := List.countP_pos_iff.2 ⟨c, hc, hstops⟩
  have honce := h.once
  by_contra hopen
  rw [if_pos (Bool.eq_true_of_not_eq_false hopen)] at honce
  omega

/-- Workers have gone on, and none that had exited. -/
theorem Stopped.of_workers (h : s.Stopped n) (hopen : t.isOpen = s.isOpen)
    (hclosings : t.closings = s.closings)
    (hexited : ∀ w < n, (s.workers w).place = .exited → (t.workers w).place = .exited) :
    t.Stopped n := by
  obtain ⟨honce, hall, hleft⟩ := h
  refine ⟨?_, fun hc w hw => hexited w hw (hall ?_ w hw), fun hc => ?_⟩
  · rw [hclosings, hopen]
    exact honce
  · rwa [hclosings] at hc
  · rw [hclosings] at hc
    rw [hopen]
    exact hleft hc

/-- A call that is to close the pool goes on, and is still the one that has closed it, or is not. -/
theorem Stopped.setClosing (h : s.Stopped n) {i : Nat} {c d : Closing}
    (hi : s.closings[i]? = some c) (hstops : d.stops = c.stops)
    (hexited : d = .returned true → ∀ w < n, (s.workers w).place = .exited)
    (hleft : d = .returned false → s.isOpen = false) : (s.setClosing i d).Stopped n := by
  refine ⟨?_, fun hmem => ?_, fun hmem => ?_⟩
  · have hcount := countP_set_add Closing.stops hi d
    rw [hstops] at hcount
    exact (Nat.add_right_cancel hcount).trans h.once
  · rcases List.mem_or_eq_of_mem_set hmem with hmem | hd
    · exact h.exited hmem
    · exact hexited hd.symm
  · rcases List.mem_or_eq_of_mem_set hmem with hmem | hd
    · exact h.left hmem
    · exact hleft hd.symm

/-- **No task has changed**, and none has changed hands but among the workers. -/
theorem Accounted.of_workers (h : Accounted n s) (htasks : t.tasks = s.tasks)
    (hcount : ∀ j, t.waiting n j = s.waiting n j ∧ t.running n j = s.running n j)
    (hworkers : ∀ w < n, (t.workers w).Fits s.isOpen)
    (hsubmitted : t.submitted = s.submitted) (hopen : t.isOpen = s.isOpen)
    (hclosings : t.closings = s.closings)
    (hexited : ∀ w < n, (s.workers w).place = .exited → (t.workers w).place = .exited) :
    Accounted n t where
  tasks j := by
    rw [hopen, htasks, (hcount j).1, (hcount j).2]
    exact h.tasks j
  workers w hw := by
    rw [hopen]
    exact hworkers w hw
  ahead j hj := by
    rw [hsubmitted] at hj
    rw [htasks]
    exact h.ahead j hj
  begun j hj := by
    rw [hsubmitted] at hj
    rw [htasks]
    exact h.begun j hj
  closed := h.closed.of_workers hopen hclosings hexited

/-- **Only one task has changed**, and some workers. -/
theorem Accounted.move (h : Accounted n s) (id : Nat)
    (htasks : ∀ j ≠ id, t.tasks j = s.tasks j)
    (hcount : ∀ j ≠ id, t.waiting n j = s.waiting n j ∧ t.running n j = s.running n j)
    (hid : (t.tasks id).Fits n (t.waiting n id) (t.running n id) s.isOpen)
    (hcall : (t.tasks id).call ≠ .ahead)
    (hworkers : ∀ w < n, (t.workers w).Fits s.isOpen)
    (hsubmitted : t.submitted = s.submitted) (hnew : id < s.submitted)
    (hopen : t.isOpen = s.isOpen) (hclosings : t.closings = s.closings)
    (hexited : ∀ w < n, (s.workers w).place = .exited → (t.workers w).place = .exited) :
    Accounted n t where
  tasks j := by
    rw [hopen]
    by_cases hj : j = id
    · rw [hj]
      exact hid
    · rw [htasks j hj, (hcount j hj).1, (hcount j hj).2]
      exact h.tasks j
  workers w hw := by
    rw [hopen]
    exact hworkers w hw
  ahead j hj := by
    rw [hsubmitted] at hj
    rw [htasks j (by omega)]
    exact h.ahead j hj
  begun j hj := by
    rw [hsubmitted] at hj
    by_cases hne : j = id
    · rw [hne]
      exact hcall
    · rw [htasks j hne]
      exact h.begun j hj
  closed := h.closed.of_workers hopen hclosings hexited

/-- A submission has gone on. -/
theorem Accounted.setTask (h : Accounted n s) (hne : s.tasks id ≠ {}) {t : Task}
    (ht : t.Fits n (s.waiting n id) (s.running n id) s.isOpen) (hcall : t.call ≠ .ahead) :
    Accounted n (s.setTask id t) :=
  h.move id (fun _ hj => setTask_tasks_of_ne s t hj) (fun _ _ => ⟨rfl, rfl⟩)
    (by rw [setTask_tasks_self]; exact ht) (by rw [setTask_tasks_self]; exact hcall) h.workers rfl
    (h.lt_submitted hne) rfl rfl
    fun _ _ hexited => hexited

/-- What holds of the workers holds if one has changed. -/
theorem forall_setWorker {P : Nat → Worker → Prop} (h : ∀ v < n, P v (s.workers v))
    (hx : P w x) : ∀ v < n, P v ((s.setWorker w x).workers v) := by
  intro v hv
  by_cases hvw : v = w
  · rw [hvw, setWorker_workers_self]
    exact hx
  · rw [setWorker_workers_of_ne s x hvw]
    exact h v hv

/-- Every worker fits if the one that has changed does. -/
theorem Accounted.fits_setWorker (h : Accounted n s) (hx : x.Fits s.isOpen) :
    ∀ v < n, ((s.setWorker w x).workers v).Fits s.isOpen :=
  forall_setWorker (P := fun _ y => y.Fits s.isOpen) h.workers hx

theorem exited_setWorker (hstays : (s.workers w).place = .exited → x.place = .exited) :
    ∀ v < n, (s.workers v).place = .exited → ((s.setWorker w x).workers v).place = .exited :=
  forall_setWorker (P := fun v y => (s.workers v).place = .exited → y.place = .exited)
    (fun _ _ hexited => hexited) hstays

/-- A worker has gone on with the tasks that it had. -/
theorem Accounted.setWorker (h : Accounted n s) (hw : w < n)
    (hwaiting : ∀ j, x.waiting.count j = (s.workers w).waiting.count j)
    (hrun : x.place.run = (s.workers w).place.run) (hx : x.Fits s.isOpen)
    (hstays : (s.workers w).place = .exited → x.place = .exited) :
    Accounted n (s.setWorker w x) := by
  refine h.of_workers rfl (fun j => ⟨?_, ?_⟩) (h.fits_setWorker hx) rfl rfl rfl
    (exited_setWorker hstays)
  · have hcount := waiting_setWorker (s := s) hw x j
    have hj := hwaiting j
    omega
  · have hcount := running_setWorker (s := s) hw x j
    rw [hrun] at hcount
    omega

/-- A worker who holds no task has moved. -/
theorem Accounted.setPlace (h : Accounted n s) (hw : w < n) {p q : Place}
    (hq : (s.workers w).place = q) (hheld : p.held = q.held) (hrun : p.run = q.run)
    (hleaves : p.Leaves → s.isOpen = false) (hexited : p = .exited → (s.workers w).queue = [])
    (hstays : q = .exited → p = .exited) : Accounted n (s.setPlace w p) := by
  subst hq
  exact h.setWorker hw (fun j => by rw [Worker.waiting, Worker.waiting, hheld]) hrun
    ⟨hleaves, hexited⟩ hstays

/-- A worker, or its queue, has got hold of a task or has let it go. -/
theorem Accounted.setBoth (h : Accounted n s) (hw : w < n) (hne : s.tasks id ≠ {}) {t : Task}
    (hcall : t.call ≠ .ahead)
    (hother : ∀ j ≠ id, x.waiting.count j = (s.workers w).waiting.count j ∧
      x.place.run.count j = (s.workers w).place.run.count j)
    (ht : ∀ a b, a + (s.workers w).waiting.count id = s.waiting n id + x.waiting.count id →
      b + (s.workers w).place.run.count id = s.running n id + x.place.run.count id →
      t.Fits n a b s.isOpen)
    (hx : x.Fits s.isOpen) (hstays : (s.workers w).place = .exited → x.place = .exited) :
    Accounted n ((s.setWorker w x).setTask id t) := by
  refine h.move id (fun _ hj => setTask_tasks_of_ne s t hj) (fun j hj => ⟨?_, ?_⟩) ?_
    (by rw [setTask_tasks_self]; exact hcall) (h.fits_setWorker hx) rfl (h.lt_submitted hne) rfl rfl
    (exited_setWorker hstays)
  · have hcount : ((s.setWorker w x).setTask id t).waiting n j + _ = _ :=
      waiting_setWorker (s := s) hw x j
    have hj := (hother j hj).1
    omega
  · have hcount : ((s.setWorker w x).setTask id t).running n j + _ = _ :=
      running_setWorker (s := s) hw x j
    have hj := (hother j hj).2
    omega
  · rw [setTask_tasks_self]
    exact ht _ _ (waiting_setWorker (s := s) hw x id) (running_setWorker (s := s) hw x id)

theorem ne_of_accepted (h : (s.tasks id).accepted = true) : s.tasks id ≠ {} := fun heq => by
  rw [heq] at h
  cases h

/-- A worker has checked a task, or is done with it. -/
theorem Accounted.serve (h : Accounted n s) (hw : w < n) {p q : Place}
    (hq : (s.workers w).place = q) (haccepted : (s.tasks id).accepted = true) {t : Task}
    (hcall : t.call = (s.tasks id).call)
    (hother : ∀ j ≠ id, p.held.count j = q.held.count j ∧ p.run.count j = q.run.count j)
    (ht : ∀ a b, a + q.held.count id = s.waiting n id + p.held.count id →
      b + q.run.count id = s.running n id + p.run.count id → t.Fits n a b s.isOpen)
    (hleaves : p.Leaves → q.Leaves) (hexited : p ≠ .exited) (hq' : q ≠ .exited) :
    Accounted n ((s.setPlace w p).setTask id t) := by
  subst hq
  have hahead : t.call ≠ .ahead := by
    rw [hcall]
    exact h.begun id (h.lt_submitted (ne_of_accepted haccepted))
  refine h.setBoth hw (ne_of_accepted haccepted) hahead (fun j hj => ⟨?_, (hother j hj).2⟩)
    (fun a b ha hb => ht a b ?_ hb) ⟨fun hp => (h.workers w hw).leaves (hleaves hp),
      fun hp => absurd hp hexited⟩ (fun hp => absurd hp hq')
  · rw [Worker.waiting, Worker.waiting, List.count_append, List.count_append, (hother j hj).1]
  · simp only [Worker.waiting, List.count_append] at ha
    omega

theorem ne_of_call {c : Call} (h : (s.tasks id).call = c) (hc : c ≠ .ahead) :
    s.tasks id ≠ {} := fun heq => hc (by rw [← h, heq])

@[simp] theorem held_after (drains : Bool) : (Place.after drains).held = [] := by
  cases drains <;> rfl

@[simp] theorem run_after (drains : Bool) : (Place.after drains).run = [] := by
  cases drains <;> rfl

theorem after_ne_exited (drains : Bool) : Place.after drains ≠ .exited := by
  cases drains <;> exact Place.noConfusion

theorem leaves_after {drains : Bool} : (Place.after drains).Leaves ↔ drains = true := by
  cases drains <;> simp [Place.after, Place.Leaves]

/-! ### One task -/

section
variable {t : Task} {waits runs : Nat} {isOpen : Bool}

/-- A task whose submission holds the lock was accepted, and is nowhere else. -/
theorem Task.Fits.of_waits (h : t.Fits n waits runs isOpen) (hcall : t.call.waits = 1) :
    t.accepted = true ∧ isOpen = true := by
  have hplace := h.place
  constructor
  · by_contra hnot
    rw [if_neg hnot] at hplace
    omega
  · by_contra hnot
    have hlock := h.lock (Bool.eq_false_iff.2 hnot)
    omega

theorem Task.Fits.accept (h : t.Fits n waits runs true) (hn : 0 < n) (hcall : t.call = .asked)
    (least : Nat) :
    (t.accept least).Fits n waits runs true := by
  have haccepted := h.asked (Or.inr hcall)
  obtain ⟨hruns, hresults⟩ := h.refused haccepted
  have hplace := h.place
  rw [hcall, haccepted] at hplace
  rw [hcall, if_neg (by simp)] at hresults
  simp only [Call.waits, Bool.false_eq_true, if_false] at hplace
  refine ⟨?_, fun _ => ?_, h.runs, fun h => (by cases h), fun hlate => ?_,
    hn, fun h => (by cases h),
    fun h => (by rcases h with h | h <;> cases h)⟩
  · simp only [Task.accept, Call.waits, if_true]
    omega
  · simp only [Task.accept, hresults, List.length_nil]
    omega
  · cases (h.late hlate).2

theorem Task.Fits.refuse (h : t.Fits n waits runs false) (hcall : t.call = .asked) :
    t.refuse.Fits n waits runs false := by
  have haccepted := h.asked (Or.inr hcall)
  obtain ⟨hruns, hresults⟩ := h.refused haccepted
  have hplace := h.place
  rw [hcall] at hplace
  rw [hcall, if_neg (by simp)] at hresults
  refine ⟨hplace, fun hyes => ?_, h.runs, fun _ => ⟨hruns, ?_⟩, h.late, trivial, fun _ => rfl,
    fun h => (by rcases h with h | h <;> cases h)⟩
  · exact absurd (haccepted.symm.trans hyes) Bool.noConfusion
  · simp only [Task.refuse, Task.goOn, Task.finish, hresults, List.nil_append, if_true]

/-- The submission goes on and keeps the lock. -/
theorem Task.Fits.goOn (h : t.Fits n waits runs isOpen) (hcall : t.call.waits = 1) {c : Call}
    (hc : c.waits = 1) (hwithin : c.Within n) :
    (t.goOn c).Fits n waits runs isOpen := by
  obtain ⟨haccepted, hopen⟩ := h.of_waits hcall
  refine ⟨?_, h.done, h.runs, fun hno => ?_, h.late, hwithin, fun hclosed => ?_, fun hno => ?_⟩
  · have hplace := h.place
    rw [hcall] at hplace
    show c.waits + waits + t.checks.length = _
    rw [hc]
    exact hplace
  · exact absurd (haccepted.symm.trans hno) Bool.noConfusion
  · exact absurd (hopen.symm.trans hclosed) Bool.noConfusion
  · rcases hno with hno | hno <;> cases hno <;> cases hc

/-- The submission lets the task go. -/
theorem Task.Fits.send (h : t.Fits n waits runs isOpen) (hcall : t.call.waits = 1) :
    (t.goOn .returned).Fits n (waits + 1) runs isOpen := by
  obtain ⟨haccepted, hopen⟩ := h.of_waits hcall
  have hplace := h.place
  refine ⟨?_, h.done, h.runs, fun hno => ?_, h.late, trivial, fun _ => rfl,
    fun h => (by rcases h with h | h <;> cases h)⟩
  · show 0 + (waits + 1) + t.checks.length = if t.accepted then 1 else 0
    omega
  · exact absurd (haccepted.symm.trans hno) Bool.noConfusion

/-- A cancelled task is skipped. -/
theorem Task.Fits.skip (h : t.Fits n (waits + 1) runs isOpen) (haccepted : t.accepted = true)
    (e : TaskError) : (t.skip e).Fits n waits runs isOpen := by
  have hplace := h.place
  have hdone := h.done haccepted
  refine ⟨?_, fun _ => ?_, ?_, fun hno => ?_, h.late, h.within, h.lock, h.asked⟩
  · show t.call.waits + waits + (t.checks ++ [true]).length = if t.accepted then 1 else 0
    rw [List.length_append, List.length_singleton]
    omega
  · simp only [Task.skip, Task.finish, List.length_append, List.length_singleton]
    omega
  · show t.runs = (t.checks ++ [true]).count false
    rw [List.count_append]
    exact h.runs
  · exact absurd (haccepted.symm.trans hno) Bool.noConfusion

/-- A task is run. -/
theorem Task.Fits.run (h : t.Fits n (waits + 1) runs isOpen) (haccepted : t.accepted = true) :
    t.run.Fits n waits (runs + 1) isOpen := by
  have hplace := h.place
  have hdone := h.done haccepted
  refine ⟨?_, fun _ => ?_, ?_, fun hno => ?_, h.late, h.within, h.lock, h.asked⟩
  · show t.call.waits + waits + (t.checks ++ [false]).length = if t.accepted then 1 else 0
    rw [List.length_append, List.length_singleton]
    omega
  · simp only [Task.run, List.length_append, List.length_singleton]
    omega
  · show t.runs + 1 = (t.checks ++ [false]).count false
    rw [List.count_append, h.runs]
    rfl
  · exact absurd (haccepted.symm.trans hno) Bool.noConfusion

/-- A task that was run is finished. -/
theorem Task.Fits.finish (h : t.Fits n waits (runs + 1) isOpen) (haccepted : t.accepted = true)
    (e : Option TaskError) : (t.finish e).Fits n waits runs isOpen := by
  have hdone := h.done haccepted
  refine ⟨h.place, fun _ => ?_, h.runs, fun hno => ?_, h.late, h.within, h.lock, h.asked⟩
  · simp only [Task.finish, List.length_append, List.length_singleton]
    omega
  · exact absurd (haccepted.symm.trans hno) Bool.noConfusion

end

/-- The pool is closed, while no submission holds the lock. -/
theorem Accounted.stop (h : Accounted n s) {i : Nat} (hi : s.closings[i]? = some .asked)
    (hopen : s.isOpen = true) (hlock : ∀ id, (s.tasks id).call.waits = 0) :
    Accounted n { s.setClosing i .waiting with isOpen := false } where
  tasks id := by
    obtain ⟨hplace, hdone, hruns, hrefused, hlate, hwithin, _, hasked⟩ := h.tasks id
    exact ⟨hplace, hdone, hruns, hrefused, fun h => ⟨(hlate h).1, rfl⟩, hwithin,
      fun _ => hlock id, hasked⟩
  workers w hw := ⟨fun _ => rfl, (h.workers w hw).exited⟩
  ahead := h.ahead
  begun := h.begun
  closed := by
    have honce := h.closed.once
    have hcount := countP_set_add Closing.stops hi .waiting
    rw [if_pos hopen] at honce
    refine ⟨?_, fun hmem => ?_, fun _ => rfl⟩
    · rw [honce] at hcount
      exact hcount
    · rcases List.mem_or_eq_of_mem_set hmem with hmem | hd
      · exact h.closed.exited hmem
      · cases hd

/-- A thief takes the first task from the queue of another worker. -/
theorem Accounted.steal (h : Accounted n s) {i : Nat} {rest : List Nat} (hw : w < n) (hi : i < n)
    (hplace : (s.workers w).place = .stealing i) (hne : i ≠ w)
    (hqueue : (s.workers i).queue = id :: rest) :
    Accounted n ((s.setQueue i rest).setPlace w (.holding id false)) := by
  have hthief : (s.setQueue i rest).workers w = s.workers w :=
    setWorker_workers_of_ne s _ hne.symm
  refine h.of_workers rfl (fun j => ⟨?_, ?_⟩) ?_ rfl rfl rfl fun v hv hexited => ?_
  · have hgives : (s.setQueue i rest).waiting n j + _ = _ :=
      waiting_setWorker hi ⟨rest, (s.workers i).place⟩ j
    have htakes : ((s.setQueue i rest).setPlace w (.holding id false)).waiting n j + _ = _ :=
      waiting_setWorker hw _ j
    rw [hthief] at htakes
    simp only [Worker.waiting, Place.held, hplace, hqueue, List.count_append, List.count_cons,
      List.count_nil] at hgives htakes
    omega
  · have hgives : (s.setQueue i rest).running n j + _ = _ :=
      running_setWorker hi ⟨rest, (s.workers i).place⟩ j
    have htakes : ((s.setQueue i rest).setPlace w (.holding id false)).running n j + _ = _ :=
      running_setWorker hw _ j
    rw [hthief, hplace] at htakes
    simp only [Place.run, List.count_nil] at hgives htakes
    omega
  · -- a worker that has exited has an empty queue, so that nothing is stolen from it
    have hgives := h.fits_setWorker (w := i) (x := ⟨rest, (s.workers i).place⟩)
      ⟨(h.workers i hi).leaves, fun hexited => by
        have hnil := (h.workers i hi).exited hexited
        rw [hqueue] at hnil
        cases hnil⟩
    exact forall_setWorker (P := fun _ y => y.Fits s.isOpen) hgives
      ⟨fun h => (by cases h), fun h => (by cases h)⟩
  · refine exited_setWorker (s := s.setQueue i rest) (fun hno => ?_) v hv
      (exited_setWorker (s := s) (w := i) (x := ⟨rest, (s.workers i).place⟩) (fun h => h) v hv
        hexited)
    rw [hthief, hplace] at hno
    cases hno

theorem Accounted.proceed (h : Accounted n s) (hn : 0 < n) (hstep : Proceeds n s t) :
    Accounted n t := by
  cases hstep with
  | @accept id hcall hopen =>
    have hfits := h.tasks id
    rw [hopen] at hfits
    refine h.setTask (ne_of_call hcall Call.noConfusion) ?_ Call.noConfusion
    rw [hopen]
    exact hfits.accept hn hcall _
  | @refuse id hcall hclosed =>
    have hfits := h.tasks id
    rw [hclosed] at hfits
    refine h.setTask (ne_of_call hcall Call.noConfusion) ?_ Call.noConfusion
    rw [hclosed]
    exact hfits.refuse hcall
  | @compare id i best least hcall hi =>
    have hwithin : best < n := by
      have hwithin := (h.tasks id).within
      rwa [hcall] at hwithin
    refine h.setTask (ne_of_call hcall Call.noConfusion)
      ((h.tasks id).goOn (by rw [hcall]; rfl) ?_ ?_) ?_
    · split <;> rfl
    · split
      · exact hi
      · exact hwithin
    · rw [Task.goOn]
      split <;> exact Call.noConfusion
  | @choose id i best least hcall hi =>
    have hwithin := (h.tasks id).within
    rw [hcall] at hwithin
    exact h.setTask (ne_of_call hcall Call.noConfusion)
      ((h.tasks id).goOn (by rw [hcall]; rfl) rfl hwithin) Call.noConfusion
  | @send id w hcall hroom =>
    have hwaits : (s.tasks id).call.waits = 1 := by rw [hcall]; rfl
    have hw : w < n := by
      have hwithin := (h.tasks id).within
      rwa [hcall] at hwithin
    have hopen := ((h.tasks id).of_waits hwaits).2
    have hold := h.workers w hw
    refine h.setBoth hw (ne_of_call hcall Call.noConfusion) Call.noConfusion (fun j hj => ⟨?_, rfl⟩)
      (fun a b ha hb => ?_) ⟨hold.leaves, fun hexited => ?_⟩ (fun h => h)
    · simp only [Worker.waiting, List.count_append]
      rw [List.count_singleton, if_neg (by simpa using Ne.symm hj), Nat.add_zero]
    · have hfits := (h.tasks id).send hwaits
      simp only [Worker.waiting, List.count_append, List.count_singleton_self] at ha
      dsimp only at hb
      rw [show a = s.waiting n id + 1 by omega, show b = s.running n id by omega]
      exact hfits
    · have hclosed := hold.leaves (by rw [show (s.workers w).place = .exited from hexited]; trivial)
      exact absurd (hopen.symm.trans hclosed) Bool.noConfusion
  | @take w id rest hw hplace hqueue =>
    have hheld : (s.workers w).place.held = [] ∧ (s.workers w).place.run = [] := by
      rcases hplace with hplace | hplace <;> rw [hplace] <;> exact ⟨rfl, rfl⟩
    refine h.setWorker hw (fun j => ?_) hheld.2.symm
      ⟨fun h => (by cases h), fun h => (by cases h)⟩ (fun hexited => ?_)
    · rw [Worker.waiting, Worker.waiting, hheld.1, hqueue]
      simp only [Place.held, List.count_append, List.count_cons, List.count_nil]
      omega
    · rcases hplace with hplace | hplace <;> rw [hplace] at hexited <;> cases hexited
  | @drain w id rest hw hplace hqueue =>
    refine h.setWorker hw (fun j => ?_) (by rw [hplace]; rfl)
      ⟨fun _ => (h.workers w hw).leaves (by rw [hplace]; trivial), fun h => (by cases h)⟩
      (fun hexited => ?_)
    · simp only [Worker.waiting, Place.held, hplace, hqueue, List.count_append, List.count_cons,
        List.count_nil]
      omega
    · rw [hplace] at hexited
      cases hexited
  | prowl hw hplace hqueue hopen =>
    exact h.setPlace hw hplace rfl rfl (fun h => h.elim) (fun h => (by cases h))
      (fun h => (by cases h))
  | pass hw hplace hi hqueue =>
    exact h.setPlace hw hplace rfl rfl (fun h => h.elim) (fun h => (by cases h))
      (fun h => (by cases h))
  | steal hw hplace hi hne hqueue => exact h.steal hw hi hplace hne hqueue
  | wait hw hplace hi =>
    exact h.setPlace hw hplace rfl rfl (fun h => h.elim) (fun h => (by cases h))
      (fun h => (by cases h))
  | @skip w id drains e hw hplace hcontext =>
    have haccepted := h.accepted_of_place hw hplace (Or.inl (List.mem_singleton_self id))
    refine h.serve hw hplace haccepted rfl (fun j hj => ?_) (fun a b ha hb => ?_)
      leaves_after.1 (after_ne_exited drains) Place.noConfusion
    · rw [held_after, run_after]
      simp [Place.held, Place.run, hj.symm]
    · rw [held_after] at ha
      rw [run_after] at hb
      simp only [Place.held, Place.run, List.count_nil, List.count_singleton_self] at ha hb
      have hfits := h.tasks id
      rw [show s.waiting n id = a + 1 by omega, show s.running n id = b by omega] at hfits
      exact hfits.skip haccepted e
  | @run w id drains hw hplace hcontext =>
    have haccepted := h.accepted_of_place hw hplace (Or.inl (List.mem_singleton_self id))
    refine h.serve hw hplace haccepted rfl (fun j hj => ?_) (fun a b ha hb => ?_)
      (fun h => h) Place.noConfusion Place.noConfusion
    · simp [Place.held, Place.run, hj.symm]
    · simp only [Place.held, Place.run, List.count_nil, List.count_singleton_self] at ha hb
      have hfits := h.tasks id
      rw [show s.waiting n id = a + 1 by omega] at hfits
      rw [show b = s.running n id + 1 by omega]
      exact hfits.run haccepted
  | @finish w id drains hw hplace error =>
    have haccepted := h.accepted_of_place hw hplace (Or.inr (List.mem_singleton_self id))
    refine h.serve hw hplace haccepted rfl (fun j hj => ?_) (fun a b ha hb => ?_)
      leaves_after.1 (after_ne_exited drains) Place.noConfusion
    · rw [held_after, run_after]
      simp [Place.held, Place.run, hj.symm]
    · rw [held_after] at ha
      rw [run_after] at hb
      simp only [Place.held, Place.run, List.count_nil, List.count_singleton_self] at ha hb
      have hfits := h.tasks id
      rw [show s.running n id = b + 1 by omega, show s.waiting n id = a by omega] at hfits
      exact hfits.finish haccepted error
  | quit hw hplace hclosed =>
    rcases hplace with hplace | hplace
    · exact h.setPlace hw hplace rfl rfl (fun _ => hclosed) (fun h => (by cases h))
        (fun h => (by cases h))
    · exact h.setPlace hw hplace rfl rfl (fun _ => hclosed) (fun h => (by cases h))
        (fun h => (by cases h))
  | exit hw hplace hqueue =>
    exact h.setPlace hw hplace rfl rfl
      (fun _ => (h.workers _ hw).leaves (by rw [hplace]; trivial)) (fun _ => hqueue)
      (fun h => (by cases h))
  | stop hi hopen hlock => exact h.stop hi hopen hlock
  | leave hi hclosed =>
    exact ⟨h.tasks, h.workers, h.ahead, h.begun,
      h.closed.setClosing hi rfl (fun h => (by cases h)) fun _ => hclosed⟩
  | closed hi hexited =>
    exact ⟨h.tasks, h.workers, h.ahead, h.begun,
      h.closed.setClosing hi rfl (fun _ => hexited) fun h => (by cases h)⟩

theorem Accounted.submit (h : Accounted n s) (context : Option TaskError) :
    Accounted n (s.submit context) where
  tasks j := by
    by_cases hj : j = s.submitted
    · have hold := h.tasks j
      rw [h.ahead j (Nat.le_of_eq hj.symm)] at hold
      subst hj
      show ((s.setTask s.submitted _).tasks s.submitted).Fits n (s.waiting n _) (s.running n _)
        s.isOpen
      rw [setTask_tasks_self]
      refine ⟨hold.place, fun h => (by cases h), rfl, hold.refused, fun hlate => ⟨rfl, ?_⟩, trivial,
        fun _ => rfl, fun _ => rfl⟩
      simpa using hlate
    · show ((s.setTask s.submitted _).tasks j).Fits n (s.waiting n j) (s.running n j) s.isOpen
      rw [setTask_tasks_of_ne s _ hj]
      exact h.tasks j
  workers := h.workers
  ahead j hj := by
    have hlt : s.submitted < j := hj
    show (s.setTask s.submitted _).tasks j = {}
    rw [setTask_tasks_of_ne s _ (by omega)]
    exact h.ahead j (by omega)
  begun j hj := by
    have hle : j < s.submitted + 1 := hj
    show ((s.setTask s.submitted _).tasks j).call ≠ .ahead
    by_cases hj : j = s.submitted
    · rw [hj, setTask_tasks_self]
      exact Call.noConfusion
    · rw [setTask_tasks_of_ne s _ hj]
      exact h.begun j (by omega)
  closed := h.closed.of_workers rfl rfl fun _ _ hexited => hexited

theorem Accounted.cancel (h : Accounted n s) (hid : id < s.submitted) (e : TaskError) :
    Accounted n (s.cancel id e) := by
  have hcall := h.begun id hid
  obtain ⟨hplace, hdone, hruns, hrefused, hlate, hwithin, hlock, hasked⟩ := h.tasks id
  exact h.setTask (ne_of_call rfl hcall)
    ⟨hplace, hdone, hruns, hrefused, hlate, hwithin, hlock, hasked⟩ hcall

theorem Accounted.close (h : Accounted n s) :
    Accounted n { s with closings := s.closings ++ [.asked] } where
  tasks := h.tasks
  workers := h.workers
  ahead := h.ahead
  begun := h.begun
  closed := by
    obtain ⟨honce, hexited, hleft⟩ := h.closed
    refine ⟨?_, fun hmem => hexited ?_, fun hmem => hleft ?_⟩
    · show (s.closings ++ [Closing.asked]).countP Closing.stops = if s.isOpen then 0 else 1
      rw [List.countP_append, honce]
      rfl
    · simpa using hmem
    · simpa using hmem

/-- **Whatever the traffic has come to**, every task is in one place. -/
theorem Reachable.accounted (hn : 0 < n) (h : Reachable n s) : Accounted n s := by
  induction h with
  | refl => exact accounted_new n
  | tail _ hstep ih =>
    cases hstep with
    | proceed h => exact ih.proceed hn h
    | submit context => exact ih.submit context
    | cancel h e => exact ih.cancel h e
    | close => exact ih.close

end

end PoolTraffic

end KernelGraph
