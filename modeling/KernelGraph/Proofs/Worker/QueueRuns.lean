/-
  The operations of the serial queue are runs of its traffic.

  `SerialQueue` lets the consumer start a command and finish it in one go each, wakes it at once,
  and runs a command that is enqueued on a closed queue on the spot.  The traffic does the same step
  by step, with nobody coming in between:

      pending commands   ↦  their numbers
      running command    ↦  the consumer runs its number
      started commands   ↦  the numbers that have begun

  So what holds of all traffic holds of the operations.
-/
import KernelGraph.Proofs.Worker.QueueOrder

namespace KernelGraph

open Relation QueueTraffic

variable {α : Type}

namespace SerialQueue

/-- The runs of the operations: what was enqueued, and the queue. -/
inductive Run : List α → SerialQueue α → Prop
  | new : Run [] {}
  | enqueue {commands q} (h : Run commands q) (command : α) :
    Run (commands ++ [command]) (q.enqueue command)
  | start {commands q} (h : Run commands q) : Run commands q.start
  | finish {commands q} (h : Run commands q) : Run commands q.finish
  | close {commands q} (h : Run commands q) : Run commands q.close

/-- The numbers are those of the commands. -/
def Numbers (commands : List α) (l : List Nat) (l' : List α) : Prop :=
  List.Forall₂ (fun k c => commands[k]? = some c) l l'

/-- The traffic stands where the queue says. -/
structure Represents (q : SerialQueue α) (s : QueueTraffic α) : Prop where
  pending : Numbers s.commands s.pending q.pending
  started : Numbers s.commands s.begun q.started
  running : Numbers s.commands s.consumer.run q.running.toList
  held : s.consumer.held = s.consumer.run
  executed : s.done.length = q.executed
  closed : s.isClosed = q.closed
  aside : s.aside = []
  beside : s.beside = []
  wakings : s.wakings = 0

section
variable {q : SerialQueue α} {s t : QueueTraffic α} {commands : List α} {c : α} {k : Nat}

theorem Numbers.append_command {l : List Nat} {l' : List α} (h : Numbers commands l l') (c : α) :
    Numbers (commands ++ [c]) l l' := by
  refine h.imp fun k c hk => ?_
  rw [List.getElem?_append_left (List.getElem?_eq_some_iff.1 hk).1]
  exact hk

/-- The command that is enqueued next gets the next number. -/
theorem numbers_last (commands : List α) (c : α) :
    Numbers (commands ++ [c]) [commands.length] [c] :=
  .cons List.getElem?_concat_length .nil

theorem Numbers.snoc {l : List Nat} {l' : List α} (h : Numbers commands l l')
    (hk : commands[k]? = some c) : Numbers commands (l ++ [k]) (l' ++ [c]) :=
  List.rel_append h (.cons hk .nil)

/-- Looking the numbers up yields the commands. -/
theorem Numbers.filterMap_eq {l : List Nat} {l' : List α} (h : Numbers commands l l') :
    l.filterMap (commands[·]?) = l' := by
  induction h with
  | nil => rfl
  | cons hk _ ih => rw [List.filterMap_cons_some hk, ih]

theorem numbers_range (commands : List α) :
    Numbers commands (List.range commands.length) commands := by
  refine List.forall₂_iff_get.2 ⟨List.length_range, fun i _ hi => ?_⟩
  simp [List.getElem?_eq_getElem hi]

theorem represents_new : Represents ({} : SerialQueue α) {} :=
  ⟨.nil, .nil, .nil, rfl, rfl, rfl, rfl, rfl, rfl⟩

/-- **Enqueueing** on an open queue wakes the consumer; on a closed one the caller runs the
    command. -/
theorem Represents.enqueue (h : Represents q s) (c : α) :
    ∃ t, ReflTransGen (Step fun _ => True) s t ∧ t.commands = s.commands ++ [c] ∧
      Represents (q.enqueue c) t := by
  obtain ⟨hpending, hstarted, hrunning, hheld, hexecuted, hclosed, haside, hbeside, hwakings⟩ := h
  have hstep : Step (fun _ => True) s (s.enqueue c false) := .enqueue trivial c false
  have hlast := numbers_last s.commands c
  rw [SerialQueue.enqueue]
  cases hq : q.closed with
  | false =>
    have henqueue : s.enqueue c false = { s with
        commands := s.commands ++ [c], pending := s.pending ++ [s.commands.length],
        wakings := s.wakings + 1 } := by
      rw [QueueTraffic.enqueue, hclosed.trans hq]
      rfl
    rw [henqueue] at hstep
    refine ⟨_, .tail (.single hstep) (.proceed (.wake rfl)), rfl, ?_⟩
    refine ⟨List.rel_append (hpending.append_command c) hlast, hstarted.append_command c, ?_, ?_,
      hexecuted, hclosed.trans hq, haside, hbeside, hwakings⟩
    · rw [Consumer.run_woken]
      exact hrunning.append_command c
    · rw [Consumer.held_woken, Consumer.run_woken]
      exact hheld
  | true =>
    have henqueue : s.enqueue c false = { s with
        commands := s.commands ++ [c], aside := [s.commands.length] } := by
      rw [QueueTraffic.enqueue, hclosed.trans hq, haside]
      rfl
    rw [henqueue] at hstep
    have hself : s.commands.length ∈ [s.commands.length] := List.mem_singleton_self _
    have hbegins : Proceeds
        { s with commands := s.commands ++ [c], aside := [s.commands.length] }
        { s with
          commands := s.commands ++ [c], aside := [], beside := [s.commands.length],
          history := s.history ++ [.began s.commands.length] } := by
      simpa [hbeside] using Proceeds.beginAside (s := { s with
        commands := s.commands ++ [c], aside := [s.commands.length] }) hself
    have hends : Proceeds
        { s with
          commands := s.commands ++ [c], aside := [], beside := [s.commands.length],
          history := s.history ++ [.began s.commands.length] }
        { s with
          commands := s.commands ++ [c], aside := [], beside := [],
          history := s.history ++ [.began s.commands.length] ++ [.ended s.commands.length] } := by
      simpa using Proceeds.finishAside (s := { s with
        commands := s.commands ++ [c], aside := [], beside := [s.commands.length],
        history := s.history ++ [.began s.commands.length] }) hself
    refine ⟨_, .tail (.tail (.single hstep) (.proceed hbegins)) (.proceed hends), rfl, ?_⟩
    refine ⟨hpending.append_command c, ?_, hrunning.append_command c, hheld, ?_, hclosed.trans hq,
      rfl, rfl, hwakings⟩
    · have hmore :
          Numbers (s.commands ++ [c]) (s.begun ++ [s.commands.length]) (q.started ++ [c]) :=
        List.rel_append (hstarted.append_command c) hlast
      simpa [QueueTraffic.begun, Event.began?, List.filterMap_cons] using hmore
    · rw [if_pos rfl, ← hexecuted]
      simp [done, Event.ended?, List.filterMap_cons]

/-- **Starting** a command: the consumer takes it and begins. -/
theorem Represents.start (h : Represents q s) (ha : Accounted s) :
    ∃ t, ReflTransGen (Step fun _ => True) s t ∧ t.commands = s.commands ∧
      Represents q.start t := by
  obtain ⟨hpending, hstarted, hrunning, hheld, hexecuted, hclosed, haside,
    hbeside, hwakings⟩ := id h
  rw [SerialQueue.start]
  split
  · rename_i c rest hidle hfirst
    rw [hfirst] at hpending
    rw [hidle] at hrunning
    generalize hsp : s.pending = l at hpending
    cases hpending with
    | @cons k _ l _ hk hrest =>
    have hlooking : s.consumer = .looking := by
      have hrun : s.consumer.run = [] := List.forall₂_nil_right_iff.1 hrunning
      cases hc : s.consumer with
      | looking => rfl
      | asleep =>
        have hpos := ha.asleep hc (Or.inl (by rw [hsp]; exact List.cons_ne_nil k l))
        omega
      | holding j =>
        rw [hrun, hc] at hheld
        cases hheld
      | running j =>
        rw [hc] at hrun
        cases hrun
      | exited =>
        have hnil := (ha.exited hc).2
        rw [hsp] at hnil
        cases hnil
    have htake : Step (fun _ => True) s _ := .proceed (.take hlooking hsp)
    refine ⟨_, .tail (.single htake) (.proceed (.begin rfl)), rfl, ?_⟩
    refine ⟨hrest, ?_, .cons hk .nil, rfl, ?_, hclosed, haside, hbeside, hwakings⟩
    · show Numbers _ ((s.history ++ [Event.began k]).filterMap Event.began?) _
      rw [begun_snoc]
      exact hstarted.snoc hk
    · show ((s.history ++ [Event.began k]).filterMap Event.ended?).length = _
      rw [done_snoc, ← hexecuted]
      simp [done, Event.ended?]
  · exact ⟨s, .refl, rfl, h⟩

/-- **Finishing** a command. -/
theorem Represents.finish (h : Represents q s) :
    ∃ t, ReflTransGen (Step fun _ => True) s t ∧ t.commands = s.commands ∧
      Represents q.finish t := by
  obtain ⟨hpending, hstarted, hrunning, hheld, hexecuted, hclosed, haside,
    hbeside, hwakings⟩ := id h
  rw [SerialQueue.finish]
  split
  · rename_i c hc
    rw [hc] at hrunning
    obtain ⟨k, hk⟩ : ∃ k, s.consumer = .running k := by
      cases hs : s.consumer with
      | running k => exact ⟨k, rfl⟩
      | _ =>
        rw [hs] at hrunning
        cases hrunning
    refine ⟨_, .single (.proceed (.finish hk)), rfl, ?_⟩
    refine ⟨hpending, ?_, .nil, rfl, ?_, hclosed, haside, hbeside, hwakings⟩
    · show Numbers _ ((s.history ++ [Event.ended k]).filterMap Event.began?) _
      rw [begun_snoc]
      simpa [Event.began?, QueueTraffic.begun] using hstarted
    · show ((s.history ++ [Event.ended k]).filterMap Event.ended?).length = _
      rw [done_snoc, ← hexecuted]
      simp [done, Event.ended?]
  · exact ⟨s, .refl, rfl, h⟩

/-- **Closing** the queue wakes the consumer. -/
theorem Represents.close (h : Represents q s) :
    ∃ t, ReflTransGen (Step fun _ => True) s t ∧ t.commands = s.commands ∧
      Represents q.close t := by
  obtain ⟨hpending, hstarted, hrunning, hheld, hexecuted, hclosed, haside, hbeside, hwakings⟩ := h
  refine ⟨_, .tail (.single .close) (.proceed (.wake rfl)), rfl, ?_⟩
  refine ⟨hpending, hstarted, ?_, ?_, hexecuted, rfl, haside, hbeside, hwakings⟩
  · rw [Consumer.run_woken]
    exact hrunning
  · rw [Consumer.held_woken, Consumer.run_woken]
    exact hheld

/-- **Every run of the operations** is a run of the traffic. -/
theorem Run.exists_represents (h : Run commands q) :
    ∃ s, Reachable (fun _ => True) s ∧ s.commands = commands ∧ Represents q s := by
  induction h with
  | new => exact ⟨{}, .refl, rfl, represents_new⟩
  | enqueue _ c ih =>
    obtain ⟨s, hs, rfl, hq⟩ := ih
    obtain ⟨t, ht, hcommands, hq⟩ := hq.enqueue c
    exact ⟨t, hs.trans ht, hcommands, hq⟩
  | start _ ih =>
    obtain ⟨s, hs, rfl, hq⟩ := ih
    obtain ⟨t, ht, hcommands, hq⟩ := hq.start (Reachable.accounted hs)
    exact ⟨t, hs.trans ht, hcommands, hq⟩
  | finish _ ih =>
    obtain ⟨s, hs, rfl, hq⟩ := ih
    obtain ⟨t, ht, hcommands, hq⟩ := hq.finish
    exact ⟨t, hs.trans ht, hcommands, hq⟩
  | close _ ih =>
    obtain ⟨s, hs, rfl, hq⟩ := ih
    obtain ⟨t, ht, hcommands, hq⟩ := hq.close
    exact ⟨t, hs.trans ht, hcommands, hq⟩

/-- **Every command that was enqueued** has been started or is pending, and is so once. -/
theorem Run.perm (h : Run commands q) : (q.started ++ q.pending).Perm commands := by
  obtain ⟨s, hs, rfl, hq⟩ := h.exists_represents
  have ha := Reachable.accounted hs
  have hplaces : (s.begun ++ s.pending).Perm (List.range s.commands.length) := by
    refine List.perm_iff_count.2 fun k => ?_
    have hplaces := ha.places k
    have hbegun := ha.begun k
    simp only [underway, QueueTraffic.running, hq.held, hq.aside, hq.beside, List.append_nil,
      List.count_append] at hplaces hbegun
    rw [List.count_append, count_range]
    omega
  have hnumbers : Numbers s.commands (s.begun ++ s.pending) (q.started ++ q.pending) :=
    List.rel_append hq.started hq.pending
  rw [← hnumbers.filterMap_eq]
  exact (hplaces.filterMap _).trans (List.Perm.of_eq (numbers_range s.commands).filterMap_eq)

end

/-- Without anybody in between, the third command overtakes the second: the queue has been closed
    when the first one enqueues it. -/
example : ((((({} : SerialQueue Nat).enqueue 0).enqueue 2).close).drain
    (fun c => if c = 0 then [1] else []) 2).started = [0, 1, 2] := rfl

end SerialQueue

end KernelGraph
