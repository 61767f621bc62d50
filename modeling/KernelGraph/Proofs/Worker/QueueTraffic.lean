/-
  Traffic at a serial queue: one consumer, and any number of callers.

  A command is enqueued in one critical section.  While the queue is open it is put behind the
  others, and the consumer is woken later on.  Once the queue is closed the command is run by its
  caller, which is in no hurry either.  The consumer looks at the queue, sleeps, takes a command,
  runs it, and leaves when the queue is closed and empty:

      asleep ⟵ looking ⟶ holding ⟶ running ⟶ looking        (consumer)
                  ⟶ ⟶ ⟶ exited
                 aside ⟶ beside ⟶ done                       (callers of a closed queue)

  Between any two of these steps everybody else may go on.  In particular a command may be enqueued
  while another one is run, by that one or by somebody else, and the queue may be closed at any
  time.

  Commands are numbered in the order in which they took the lock.

  1. `Accounted`: every command is in one place, and the consumer sleeps only while there is nothing
     to do.  Every step keeps it so.

  2. `Once`: no command is run twice, and the traffic that is left alone comes to rest with every
     command done.
-/
import KernelGraph.Worker.SerialQueue
import Mathlib.Data.List.Perm.Basic
import Mathlib.Data.List.Nodup
import Mathlib.Logic.Relation
import Mathlib.Order.WellFounded

namespace KernelGraph

/-- Where the consumer stands. -/
inductive QueueTraffic.Consumer
  /-- It is about to look at the queue. -/
  | looking
  /-- It waits to be woken. -/
  | asleep
  /-- It has taken a command off the queue. -/
  | holding (command : Nat)
  | running (command : Nat)
  /-- It has found the queue closed and empty. -/
  | exited
  deriving DecidableEq, Repr

/-- What happens to commands. -/
inductive QueueTraffic.Event
  | began (command : Nat)
  | ended (command : Nat)
  /-- The call that has enqueued this command to wait for it returns. -/
  | flushed (command : Nat)
  deriving DecidableEq, Repr

/-- A queue, its consumer, its callers, and what has happened to the commands. -/
structure QueueTraffic (α : Type) where
  /-- The commands in the order in which they took the lock. -/
  commands : List α := []
  pending : List Nat := []
  isClosed : Bool := false
  /-- The number of callers that are about to wake the consumer. -/
  wakings : Nat := 0
  consumer : QueueTraffic.Consumer := .looking
  /-- The commands that are about to be run by their callers. -/
  aside : List Nat := []
  /-- The commands that are run by their callers. -/
  beside : List Nat := []
  /-- The commands that somebody waits for. -/
  awaited : List Nat := []
  history : List QueueTraffic.Event := []
  deriving Repr

namespace QueueTraffic

variable {α : Type}

/-! ## Steps -/

/-- The command that the consumer has not finished. -/
def Consumer.held : Consumer → List Nat
  | holding k | running k => [k]
  | _ => []

/-- The command that the consumer runs. -/
def Consumer.run : Consumer → List Nat
  | running k => [k]
  | _ => []

/-- A consumer that sleeps looks at the queue again. -/
def Consumer.woken : Consumer → Consumer
  | asleep => looking
  | c => c

/-- A command is enqueued, perhaps to wait for it. -/
def enqueue (s : QueueTraffic α) (command : α) (flush : Bool) : QueueTraffic α :=
  let k := s.commands.length
  let s := { s with
    commands := s.commands ++ [command]
    awaited := if flush then s.awaited ++ [k] else s.awaited }
  if s.isClosed then { s with aside := s.aside ++ [k] }
  else { s with pending := s.pending ++ [k], wakings := s.wakings + 1 }

/-- The queue is closed. -/
def close (s : QueueTraffic α) : QueueTraffic α :=
  { s with isClosed := true, wakings := s.wakings + 1 }

/-- The steps that need nobody from outside. -/
inductive Proceeds : QueueTraffic α → QueueTraffic α → Prop
  | wake {s n} (h : s.wakings = n + 1) :
    Proceeds s { s with wakings := n, consumer := s.consumer.woken }
  | sleep {s} (h : s.consumer = .looking) (hpending : s.pending = []) (hopen : s.isClosed = false) :
    Proceeds s { s with consumer := .asleep }
  | exit {s} (h : s.consumer = .looking) (hpending : s.pending = []) (hclosed : s.isClosed = true) :
    Proceeds s { s with consumer := .exited }
  | take {s k rest} (h : s.consumer = .looking) (hpending : s.pending = k :: rest) :
    Proceeds s { s with consumer := .holding k, pending := rest }
  | begin {s k} (h : s.consumer = .holding k) :
    Proceeds s { s with consumer := .running k, history := s.history ++ [.began k] }
  | finish {s k} (h : s.consumer = .running k) :
    Proceeds s { s with consumer := .looking, history := s.history ++ [.ended k] }
  | beginAside {s k} (h : k ∈ s.aside) :
    Proceeds s { s with
      aside := s.aside.erase k, beside := s.beside ++ [k], history := s.history ++ [.began k] }
  | finishAside {s k} (h : k ∈ s.beside) :
    Proceeds s { s with beside := s.beside.erase k, history := s.history ++ [.ended k] }
  /-- A call that flushes returns when its own command says so, which is once that runs. -/
  | return {s k} (h : k ∈ s.awaited) (hbegan : .began k ∈ s.history) :
    Proceeds s { s with awaited := s.awaited.erase k, history := s.history ++ [.flushed k] }

/-- A step of the traffic, if commands are enqueued in certain situations only. -/
inductive Step (admits : QueueTraffic α → Prop) : QueueTraffic α → QueueTraffic α → Prop
  | proceed {s t} (h : Proceeds s t) : Step admits s t
  | enqueue {s} (h : admits s) (command : α) (flush : Bool) :
    Step admits s (s.enqueue command flush)
  | close {s} : Step admits s s.close

/-- What the traffic at a new queue can come to. -/
def Reachable (admits : QueueTraffic α → Prop) (s : QueueTraffic α) : Prop :=
  Relation.ReflTransGen (Step admits) {} s

/-! ## What happened -/

/-- The command that began. -/
def Event.began? : Event → Option Nat
  | began k => some k
  | _ => none

/-- The command that ended. -/
def Event.ended? : Event → Option Nat
  | ended k => some k
  | _ => none

/-- The commands that have begun, in this order. -/
def begun (s : QueueTraffic α) : List Nat := s.history.filterMap Event.began?

/-- The commands that are done, in this order. -/
def done (s : QueueTraffic α) : List Nat := s.history.filterMap Event.ended?

/-- The commands that are not done, in the order in which it will be their turn. -/
def underway (s : QueueTraffic α) : List Nat :=
  s.consumer.held ++ s.pending ++ (s.aside ++ s.beside)

/-- The commands that run. -/
def running (s : QueueTraffic α) : List Nat := s.consumer.run ++ s.beside

section
variable {s : QueueTraffic α} {k : Nat}

theorem mem_begun : k ∈ s.begun ↔ .began k ∈ s.history := by
  rw [begun, List.mem_filterMap]
  constructor
  · rintro ⟨e, he, hk⟩
    cases e with
    | began j =>
      cases hk
      exact he
    | _ => cases hk
  · exact fun h => ⟨_, h, rfl⟩

theorem mem_done : k ∈ s.done ↔ .ended k ∈ s.history := by
  rw [done, List.mem_filterMap]
  constructor
  · rintro ⟨e, he, hk⟩
    cases e with
    | ended j =>
      cases hk
      exact he
    | _ => cases hk
  · exact fun h => ⟨_, h, rfl⟩

end

/-! ## No command is lost or run twice -/

/-- Every command is in one place, and the consumer sleeps only while there is nothing to do. -/
structure Accounted (s : QueueTraffic α) : Prop where
  /-- A command is under way or done, and not both. -/
  places : ∀ k, s.underway.count k + s.done.count k = if k < s.commands.length then 1 else 0
  /-- It has begun if it runs or is done. -/
  begun : ∀ k, s.begun.count k = s.running.count k + s.done.count k
  aside : s.aside ++ s.beside ≠ [] → s.isClosed = true
  asleep : s.consumer = .asleep → (s.pending ≠ [] ∨ s.isClosed = true) → 0 < s.wakings
  exited : s.consumer = .exited → s.isClosed = true ∧ s.pending = []
  awaited : ∀ k ∈ s.awaited, k < s.commands.length

theorem accounted_new : Accounted ({} : QueueTraffic α) where
  places _ := rfl
  begun _ := rfl
  aside h := absurd rfl h
  asleep h := by cases h
  exited h := by cases h
  awaited k h := by cases h

section
variable {s t : QueueTraffic α} {k : Nat}

/-- A command that is taken out of a list is missing there once. -/
theorem count_erase_add {l : List Nat} (h : k ∈ l) (j : Nat) :
    (l.erase k).count j + [k].count j = l.count j := by
  have hperm := (List.perm_cons_erase h).count_eq j
  rw [List.count_cons] at hperm
  rw [List.count_singleton, hperm]

/-- What an event adds to the commands that have begun. -/
theorem begun_snoc (h : List Event) (e : Event) :
    (h ++ [e]).filterMap Event.began? = h.filterMap Event.began? ++ e.began?.toList := by
  rw [List.filterMap_append]
  cases e <;> rfl

/-- What an event adds to the commands that are done. -/
theorem done_snoc (h : List Event) (e : Event) :
    (h ++ [e]).filterMap Event.ended? = h.filterMap Event.ended? ++ e.ended?.toList := by
  rw [List.filterMap_append]
  cases e <;> rfl

@[simp] theorem Consumer.held_woken (c : Consumer) : c.woken.held = c.held := by cases c <;> rfl

@[simp] theorem Consumer.run_woken (c : Consumer) : c.woken.run = c.run := by cases c <;> rfl

/-- What runs is under way. -/
theorem running_count_le (s : QueueTraffic α) (j : Nat) :
    s.running.count j ≤ s.underway.count j := by
  have hrun : s.consumer.run.count j ≤ s.consumer.held.count j := by
    cases s.consumer <;> simp [Consumer.run, Consumer.held]
  simp only [running, underway, List.count_append]
  omega

/-- **A step moves a command** at most: on from where it was, and if it begins or ends that is
    noted. -/
theorem Proceeds.count_eq (h : Proceeds s t) (j : Nat) :
    t.underway.count j + t.done.count j = s.underway.count j + s.done.count j ∧
      t.begun.count j + (s.running.count j + s.done.count j) =
        s.begun.count j + (t.running.count j + t.done.count j) := by
  cases h with
  | wake => simp only [underway, running, begun, done, Consumer.held_woken, Consumer.run_woken,
      and_self]
  | sleep hc | exit hc =>
    simp only [underway, running, begun, done, hc, Consumer.held, Consumer.run, and_self]
  | take hc hpending =>
    simp only [underway, running, begun, done, hc, hpending, Consumer.held, Consumer.run,
      List.nil_append, List.singleton_append, and_self]
  | begin hc | finish hc =>
    simp only [underway, running, begun, done, hc, begun_snoc, done_snoc,
      Consumer.held, Consumer.run,
      List.count_append, List.count_nil, Event.began?, Event.ended?, Option.toList_none,
      Option.toList_some]
    omega
  | beginAside hk | finishAside hk =>
    have hcount := count_erase_add hk j
    simp only [underway, running, begun, done, begun_snoc, done_snoc,
      List.count_append, List.count_nil,
      Event.began?, Event.ended?, Option.toList_none, Option.toList_some]
    omega
  | «return» hk hbegan =>
    simp only [underway, running, begun, done, begun_snoc, done_snoc, Event.began?,
      Event.ended?, Option.toList_none, List.append_nil, and_self]

theorem Accounted.proceed (h : Accounted s) (hstep : Proceeds s t) : Accounted t := by
  obtain ⟨hplaces, hbegun, haside, hasleep, hexited, hawaited⟩ := h
  have hcommands : t.commands = s.commands := by cases hstep <;> rfl
  have hcount := hstep.count_eq
  refine ⟨fun j => ?_, fun j => ?_, ?_, ?_, ?_, ?_⟩
  · rw [(hcount j).1, hplaces j, hcommands]
  · have := (hcount j).2
    have := hbegun j
    omega
  · cases hstep with
    | beginAside hk =>
      exact fun _ => haside (List.append_ne_nil_of_left_ne_nil (List.ne_nil_of_mem hk) _)
    | finishAside hk =>
      exact fun _ => haside (List.append_ne_nil_of_right_ne_nil _ (List.ne_nil_of_mem hk))
    | _ => exact haside
  · cases hstep with
    | wake hn =>
      intro hc
      dsimp only at hc
      cases hs : s.consumer <;> rw [hs] at hc <;> cases hc
    | sleep hc hpending hopen =>
      rintro - (hbusy | hbusy)
      · exact absurd hpending hbusy
      · exact absurd (hopen.symm.trans hbusy) Bool.false_ne_true
    | beginAside | finishAside | «return» => exact hasleep
    | _ => exact fun hc => by cases hc
  · cases hstep with
    | wake hn =>
      intro hc
      dsimp only at hc
      cases hs : s.consumer <;> rw [hs] at hc <;> first | exact hexited hs | cases hc
    | exit hc hpending hclosed => exact fun _ => ⟨hclosed, hpending⟩
    | beginAside | finishAside | «return» => exact hexited
    | _ => exact fun hc => by cases hc
  · rw [hcommands]
    cases hstep with
    | «return» => exact fun j hj => hawaited j (List.mem_of_mem_erase hj)
    | _ => exact hawaited

/-- One more number. -/
theorem count_range_succ (n j : Nat) :
    (if j < n then 1 else 0) + [n].count j = if j < n + 1 then 1 else 0 := by
  rw [List.count_singleton]
  rcases Nat.lt_trichotomy j n with hlt | rfl | hgt
  · rw [if_pos hlt, if_neg (by rw [beq_iff_eq]; omega), if_pos (by omega)]
  · rw [if_neg (Nat.lt_irrefl j), if_pos (beq_self_eq_true j), if_pos (Nat.lt_succ_self j)]
  · rw [if_neg (by omega), if_neg (by rw [beq_iff_eq]; omega), if_neg (by omega)]

/-- **Enqueueing** adds a command under a new number, which has not begun. -/
theorem enqueue_count_eq (s : QueueTraffic α) (command : α) (flush : Bool) (j : Nat) :
    (s.enqueue command flush).underway.count j =
        s.underway.count j + [s.commands.length].count j ∧
      (s.enqueue command flush).running = s.running ∧
      (s.enqueue command flush).history = s.history := by
  unfold QueueTraffic.enqueue
  dsimp only
  split
  · refine ⟨?_, rfl, rfl⟩
    simp only [underway, List.count_append]
    omega
  · refine ⟨?_, rfl, rfl⟩
    simp only [underway, List.count_append]
    omega

@[simp] theorem enqueue_commands (s : QueueTraffic α) (command : α) (flush : Bool) :
    (s.enqueue command flush).commands = s.commands ++ [command] := by
  unfold QueueTraffic.enqueue
  dsimp only
  split <;> rfl

theorem Accounted.enqueue (h : Accounted s) (command : α) (flush : Bool) :
    Accounted (s.enqueue command flush) := by
  have hcount := s.enqueue_count_eq command flush
  have hlength : (s.enqueue command flush).commands.length = s.commands.length + 1 := by
    rw [enqueue_commands, List.length_append, List.length_singleton]
  refine ⟨fun j => ?_, fun j => ?_, ?_, ?_, ?_, fun j hj => ?_⟩
  · obtain ⟨hunderway, _, hhistory⟩ := hcount j
    rw [hlength, ← count_range_succ, ← h.places j, hunderway, done, done, hhistory]
    omega
  · obtain ⟨_, hrunning, hhistory⟩ := hcount j
    rw [QueueTraffic.begun, done, hrunning, hhistory]
    exact h.begun j
  · unfold QueueTraffic.enqueue
    dsimp only
    split
    · rename_i hclosed
      exact fun _ => hclosed
    · exact h.aside
  · unfold QueueTraffic.enqueue
    dsimp only
    split
    · exact h.asleep
    · exact fun _ _ => Nat.succ_pos _
  · unfold QueueTraffic.enqueue
    dsimp only
    split
    · exact h.exited
    · rename_i hopen
      exact fun hc => absurd (h.exited hc).1 hopen
  · rw [hlength]
    have hj : j ∈ if flush then s.awaited ++ [s.commands.length] else s.awaited := by
      unfold QueueTraffic.enqueue at hj
      dsimp only at hj
      split at hj <;> exact hj
    split at hj
    · rcases List.mem_append.1 hj with hj | hj
      · exact Nat.lt_succ_of_lt (h.awaited j hj)
      · exact Nat.lt_succ_of_le (Nat.le_of_eq (List.mem_singleton.1 hj))
    · exact Nat.lt_succ_of_lt (h.awaited j hj)

theorem Accounted.close (h : Accounted s) : Accounted s.close :=
  ⟨h.places, h.begun, fun _ => rfl, fun _ _ => Nat.succ_pos _,
    fun hc => ⟨rfl, (h.exited hc).2⟩, h.awaited⟩

/-- **Whatever the traffic has come to**, every command is accounted for. -/
theorem Reachable.accounted {admits : QueueTraffic α → Prop} (h : Reachable admits s) :
    Accounted s := by
  induction h with
  | refl => exact accounted_new
  | tail _ hstep ih =>
    cases hstep with
    | proceed h => exact ih.proceed h
    | enqueue _ command flush => exact ih.enqueue command flush
    | close => exact ih.close

/-! ## Coming to rest -/

/-- Nothing goes on by itself. -/
def AtRest (s : QueueTraffic α) : Prop := ∀ t, ¬ Proceeds s t

/-- **Nobody is stuck**: a queue that is at rest has nothing left to do, and nobody waits for it. -/
theorem Accounted.eq_nil_of_atRest (h : Accounted s) (hrest : AtRest s) :
    s.underway = [] ∧ s.awaited = [] := by
  have haside : s.aside = [] := List.eq_nil_iff_forall_not_mem.2 fun k hk =>
    hrest _ (.beginAside hk)
  have hbeside : s.beside = [] := List.eq_nil_iff_forall_not_mem.2 fun k hk =>
    hrest _ (.finishAside hk)
  have hwakings : s.wakings = 0 := by
    cases hn : s.wakings with
    | zero => rfl
    | succ n => exact absurd (.wake hn) (hrest _)
  have hconsumer : s.consumer.held = [] ∧ s.pending = [] := by
    cases hc : s.consumer with
    | looking =>
      cases hpending : s.pending with
      | nil =>
        cases hclosed : s.isClosed with
        | false => exact absurd (.sleep hc hpending hclosed) (hrest _)
        | true => exact absurd (.exit hc hpending hclosed) (hrest _)
      | cons k rest => exact absurd (.take hc hpending) (hrest _)
    | asleep =>
      refine ⟨rfl, ?_⟩
      by_contra hpending
      have hpos := h.asleep hc (Or.inl hpending)
      omega
    | holding k => exact absurd (.begin hc) (hrest _)
    | running k => exact absurd (.finish hc) (hrest _)
    | exited => exact ⟨rfl, (h.exited hc).2⟩
  have hunderway : s.underway = [] := by
    rw [underway, hconsumer.1, hconsumer.2, haside, hbeside]
    rfl
  refine ⟨hunderway, List.eq_nil_iff_forall_not_mem.2 fun k hk => ?_⟩
  -- whoever waits for a command that is done returns
  have hbegun : 0 < s.begun.count k := by
    have hplaces := h.places k
    rw [hunderway, if_pos (h.awaited k hk), List.count_nil] at hplaces
    have hbegun := h.begun k
    omega
  exact hrest _ (.return hk (mem_begun.1 (List.count_pos_iff.1 hbegun)))

/-- What the consumer has still to do with its command. -/
def Consumer.work : Consumer → Nat
  | looking => 1
  | holding _ => 3
  | running _ => 2
  | asleep | exited => 0

/-- A bound for the steps that need nobody from outside. -/
def work (s : QueueTraffic α) : Nat :=
  3 * s.pending.length + s.consumer.work + 2 * s.aside.length + s.beside.length + 2 * s.wakings +
    s.awaited.length

theorem length_erase_add {l : List Nat} (h : k ∈ l) : (l.erase k).length + 1 = l.length := by
  have hpos := List.length_pos_of_mem h
  rw [List.length_erase_of_mem h]
  omega

theorem Proceeds.work_lt (h : Proceeds s t) : t.work < s.work := by
  cases h with
  | wake hn =>
    have hwoken : s.consumer.woken.work ≤ s.consumer.work + 1 := by
      cases s.consumer <;> simp [Consumer.woken, Consumer.work]
    simp only [work, hn]
    omega
  | sleep hc | exit hc | begin hc | finish hc =>
    simp only [work, hc, Consumer.work]
    omega
  | take hc hpending =>
    simp only [work, hc, hpending, Consumer.work, List.length_cons]
    omega
  | beginAside hk | finishAside hk | «return» hk =>
    have hlength := length_erase_add hk
    simp only [work, List.length_append, List.length_singleton]
    omega

theorem Proceeds.commands_eq (h : Proceeds s t) : t.commands = s.commands := by cases h <;> rfl

/-- Every command is run once. -/
structure Once (s : QueueTraffic α) : Prop where
  /-- No command begins twice or ends twice, and those that have begun were enqueued. -/
  begun : s.begun.Nodup
  done : s.done.Nodup
  enqueued : ∀ k ∈ s.begun, k < s.commands.length
  /-- Left alone, the traffic comes to rest. -/
  terminates : Acc (flip Proceeds) s
  /-- At rest, every command has begun and ended, and nobody waits. -/
  complete : ∀ t, Relation.ReflTransGen Proceeds s t → AtRest t →
    t.begun.Perm (List.range s.commands.length) ∧ t.done.Perm (List.range s.commands.length) ∧
      t.awaited = []

theorem count_range (n j : Nat) : (List.range n).count j = if j < n then 1 else 0 := by
  induction n with
  | zero => rfl
  | succ n ih => rw [List.range_succ, List.count_append, ih, count_range_succ]

/-- What the traffic does by itself, it does to commands that are accounted for. -/
theorem Accounted.proceeds (h : Accounted s) (hsteps : Relation.ReflTransGen Proceeds s t) :
    Accounted t ∧ t.commands = s.commands := by
  induction hsteps with
  | refl => exact ⟨h, rfl⟩
  | tail _ hstep ih => exact ⟨ih.1.proceed hstep, hstep.commands_eq.trans ih.2⟩

theorem Accounted.once (h : Accounted s) : Once s where
  begun := by
    rw [List.nodup_iff_count_le_one]
    intro j
    have hbegun := h.begun j
    have hplaces := h.places j
    have hle := s.running_count_le j
    split at hplaces <;> omega
  done := by
    rw [List.nodup_iff_count_le_one]
    intro j
    have hplaces := h.places j
    split at hplaces <;> omega
  enqueued k hk := by
    have hpos := List.count_pos_iff.2 hk
    have hbegun := h.begun k
    have hplaces := h.places k
    have hle := s.running_count_le k
    by_contra hk
    rw [if_neg hk] at hplaces
    omega
  terminates := (Subrelation.wf (fun h => Proceeds.work_lt h) (measure work).wf).apply s
  complete t hsteps hrest := by
    obtain ⟨ht, hcommands⟩ := h.proceeds hsteps
    obtain ⟨hunderway, hawaited⟩ := ht.eq_nil_of_atRest hrest
    have hdone : ∀ j, t.done.count j = (List.range s.commands.length).count j := by
      intro j
      have hplaces := ht.places j
      rwa [hunderway, List.count_nil, Nat.zero_add, hcommands, ← count_range] at hplaces
    refine ⟨List.perm_iff_count.2 fun j => ?_, List.perm_iff_count.2 hdone, hawaited⟩
    have hle := t.running_count_le j
    rw [hunderway, List.count_nil] at hle
    rw [ht.begun, Nat.le_zero.1 hle, Nat.zero_add]
    exact hdone j

end

end QueueTraffic

end KernelGraph
