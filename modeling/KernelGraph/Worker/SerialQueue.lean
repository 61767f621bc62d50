/-
  A queue that runs commands one at a time, in order, on a single consumer.

  The queue is a state machine.  Commands are enqueued at any time, also from inside a running
  command; the consumer starts the first pending command and finishes it.  Once the queue is closed,
  the consumer runs what is pending, and a command that is enqueued runs at once on the side of the
  caller.
-/

namespace KernelGraph

/-- The commands still to run, the one running, and those started so far. -/
structure SerialQueue (α : Type) where
  pending : List α := []
  running : Option α := none
  closed : Bool := false
  /-- Commands in the order in which they were started. -/
  started : List α := []
  /-- The number of commands that have returned. -/
  executed : Nat := 0

namespace SerialQueue

variable {α : Type}

/-- Adds a command; on a closed queue it runs at once. -/
def enqueue (q : SerialQueue α) (command : α) : SerialQueue α :=
  if q.closed then
    { q with started := q.started ++ [command], executed := q.executed + 1 }
  else { q with pending := q.pending ++ [command] }

/-- Adds commands in order. -/
def enqueueAll (q : SerialQueue α) (commands : List α) : SerialQueue α :=
  commands.foldl enqueue q

/-- The consumer starts the first pending command. -/
def start (q : SerialQueue α) : SerialQueue α :=
  match q.running, q.pending with
  | none, c :: rest => { q with pending := rest, running := some c, started := q.started ++ [c] }
  | _, _ => q

/-- The running command returns. -/
def finish (q : SerialQueue α) : SerialQueue α :=
  match q.running with
  | some _ => { q with running := none, executed := q.executed + 1 }
  | none => q

/-- Runs at most `fuel` pending commands; `spawn` lists what a command enqueues itself. -/
def drain (spawn : α → List α) : (fuel : Nat) → SerialQueue α → SerialQueue α
  | 0, q => q
  | fuel + 1, q =>
    match q.pending with
    | [] => q
    | c :: _ => drain spawn fuel ((q.start.enqueueAll (spawn c)).finish)

/-- Stops accepting commands for the consumer. -/
def close (q : SerialQueue α) : SerialQueue α := { q with closed := true }

end SerialQueue

end KernelGraph
