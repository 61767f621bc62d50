/-
  One command after the other.

  1. `Serial`: commands are run one at a time and in the order in which they were enqueued, and
     flushing waits for those before.

  2. `Lined`: the commands that are done, and then the others, are all commands in their order.
     This is kept by every step but one: a command that is enqueued on a closed queue is not put
     behind the others.

  3. The traffic is serial exactly if nobody enqueues a command on a closed queue before all others
     are done.
-/
import KernelGraph.Proofs.Worker.QueueTraffic

namespace KernelGraph

namespace QueueTraffic

variable {α : Type}

section
variable {s t : QueueTraffic α} {k : Nat}

/-! ## One after the other -/

/-- How an event should follow on what has happened before: a command begins after those that were
    enqueued before it, and when those that have begun are done; and whoever waits for a command
    returns when those that were enqueued before it are done. -/
def Orderly (before : List Event) : Event → Prop
  | .began k => (∀ j < k, .began j ∈ before) ∧ ∀ j, .began j ∈ before → .ended j ∈ before
  | .ended k => .began k ∈ before
  | .flushed k => ∀ j < k, .ended j ∈ before

/-- The commands are run one at a time and in their order, and flushing waits for them. -/
def Serial (s : QueueTraffic α) : Prop :=
  ∀ before e after, s.history = before ++ e :: after → Orderly before e

/-- The commands stand in line. -/
structure Lined (s : QueueTraffic α) : Prop where
  /-- Those that are done come first, then the others, all in their order. -/
  line : s.done ++ s.underway = List.range s.commands.length
  /-- A command that is run by its caller is the only one. -/
  alone : s.aside ++ s.beside = [] ∨ s.underway.length = 1
  serial : Serial s

theorem serial_new : Serial ({} : QueueTraffic α) := fun before e after h =>
  absurd h.symm (List.append_ne_nil_of_right_ne_nil before (List.cons_ne_nil e after))

/-- One more event. -/
theorem Serial.snoc {e : Event} (h : Serial s) (he : Orderly s.history e)
    (ht : t.history = s.history ++ [e]) : Serial t := by
  intro before e' after heq
  rw [ht] at heq
  rcases List.eq_nil_or_concat' after with rfl | ⟨after, e'', rfl⟩
  · obtain ⟨rfl, hlast⟩ := List.append_inj' heq rfl
    cases hlast
    exact he
  · rw [← List.cons_append, ← List.append_assoc] at heq
    exact h before e' after (List.append_inj' heq rfl).1

theorem Serial.of_eq (h : Serial s) (ht : t.history = s.history) : Serial t := by
  unfold Serial
  rw [ht]
  exact h

/-- What stands before a number in line are the smaller numbers. -/
theorem eq_range_of_append {l l' : List Nat} {k n : Nat} (h : l ++ k :: l' = List.range n) :
    l = List.range k := by
  have hlength : l.length < n := by
    have := congrArg List.length h
    rw [List.length_append, List.length_cons, List.length_range] at this
    omega
  have hk : k = l.length := by
    have := congrArg (·[l.length]?) h
    simpa [List.getElem?_append, hlength] using this
  have hl := congrArg (List.take l.length) h
  rw [List.take_left, List.take_range, Nat.min_eq_left (Nat.le_of_lt hlength)] at hl
  rw [hk]
  exact hl

theorem Accounted.began_of_ended (h : Accounted s) (hk : .ended k ∈ s.history) :
    .began k ∈ s.history := by
  have hpos := List.count_pos_iff.2 (mem_done.2 hk)
  have hbegun := h.begun k
  exact mem_begun.1 (List.count_pos_iff.1 (by omega))

theorem Accounted.began_iff (h : Accounted s) :
    .began k ∈ s.history ↔ k ∈ s.running ∨ .ended k ∈ s.history := by
  have hbegun := h.begun k
  rw [← mem_begun, ← mem_done, ← List.count_pos_iff, ← List.count_pos_iff, ← List.count_pos_iff]
  omega

/-- **The head of the line may begin**, if nothing runs. -/
theorem Lined.orderly (h : Lined s) (ha : Accounted s) {rest : List Nat}
    (hhead : s.underway = k :: rest) (hrunning : s.running = []) :
    Orderly s.history (.began k) := by
  have hline := h.line
  rw [hhead] at hline
  have hdone := eq_range_of_append hline
  refine ⟨fun j hj => ha.began_of_ended (mem_done.1 ?_), fun j hj => ?_⟩
  · rw [hdone]
    exact List.mem_range.2 hj
  · rcases ha.began_iff.1 hj with hj | hj
    · rw [hrunning] at hj
      cases hj
    · exact hj

/-- Somebody who runs a command of their own is alone. -/
theorem Lined.eq_singleton (h : Lined s) (hk : k ∈ s.aside ++ s.beside) :
    s.aside ++ s.beside = [k] ∧ s.consumer.held = [] ∧ s.pending = [] := by
  have hlength : s.underway.length = 1 := h.alone.resolve_left (List.ne_nil_of_mem hk)
  have hpos := List.length_pos_of_mem hk
  rw [underway, List.length_append, List.length_append] at hlength
  obtain ⟨j, hj⟩ := List.length_eq_one_iff.1 (show (s.aside ++ s.beside).length = 1 by omega)
  rw [hj] at hk ⊢
  cases List.mem_singleton.1 hk
  exact ⟨rfl, List.length_eq_zero_iff.1 (by omega), List.length_eq_zero_iff.1 (by omega)⟩

/-- While the consumer holds a command, nobody else runs one. -/
theorem Lined.eq_nil_of_held (h : Lined s) {rest : List Nat}
    (hhead : s.underway = k :: (rest ++ (s.aside ++ s.beside))) : s.aside ++ s.beside = [] := by
  rcases h.alone with halone | halone
  · exact halone
  · rw [hhead, List.length_cons, Nat.add_eq_right, List.length_eq_zero_iff,
      List.append_eq_nil_iff] at halone
    exact halone.2

/-- **An event** keeps the line, if a command that ends is the first one that was under way. -/
theorem Lined.event {e : Event} (h : Lined s) (he : Orderly s.history e)
    (hhistory : t.history = s.history ++ [e]) (hcommands : t.commands = s.commands)
    (hunderway : s.underway = e.ended?.toList ++ t.underway)
    (halone : t.aside ++ t.beside = [] ∨ t.underway.length = 1) : Lined t where
  line := by
    rw [hcommands, ← h.line, hunderway, done, hhistory, done_snoc, List.append_assoc]
    rfl
  alone := halone
  serial := h.serial.snoc he hhistory

theorem Lined.proceed (h : Lined s) (ha : Accounted s) (hstep : Proceeds s t) : Lined t := by
  obtain ⟨hline, halone, hserial⟩ := id h
  cases hstep with
  | wake hn =>
    refine ⟨?_, ?_, hserial.of_eq rfl⟩
    · simpa only [done, underway, Consumer.held_woken] using hline
    · simpa only [underway, Consumer.held_woken] using halone
  | sleep hc | exit hc =>
    rw [underway, hc] at hline halone
    exact ⟨hline, halone, hserial.of_eq rfl⟩
  | take hc hpending =>
    rw [underway, hc, hpending] at hline halone
    exact ⟨hline, halone, hserial.of_eq rfl⟩
  | @begin k hc =>
    have hhead : s.underway = k :: (s.pending ++ (s.aside ++ s.beside)) := by
      rw [underway, hc]
      rfl
    have hnobody := h.eq_nil_of_held hhead
    have hrunning : s.running = [] := by
      rw [running, hc, (List.append_eq_nil_iff.1 hnobody).2]
      rfl
    exact h.event (h.orderly ha hhead hrunning) rfl rfl hhead (Or.inl hnobody)
  | @finish k hc =>
    have hhead : s.underway = k :: (s.pending ++ (s.aside ++ s.beside)) := by
      rw [underway, hc]
      rfl
    have hrunning : k ∈ s.running := by
      rw [running, hc]
      exact List.mem_cons_self ..
    exact h.event (e := .ended k) (ha.began_iff.2 (Or.inl hrunning)) rfl rfl hhead
      (Or.inl (h.eq_nil_of_held hhead))
  | @beginAside k hk =>
    obtain ⟨hboth, hheld, hpending⟩ := h.eq_singleton (List.mem_append_left s.beside hk)
    have hhead : s.underway = [k] := by rw [underway, hheld, hpending, hboth]; rfl
    obtain ⟨haside, hbeside⟩ : s.aside = [k] ∧ s.beside = [] := by
      rcases List.append_eq_singleton_iff.1 hboth with ⟨haside, _⟩ | hboth
      · rw [haside] at hk
        cases hk
      · exact hboth
    have hrunning : s.running = [] := by
      rw [running, hbeside, List.append_nil]
      cases hs : s.consumer with
      | running j =>
        rw [hs] at hheld
        cases hheld
      | _ => rfl
    have hmoved : s.consumer.held ++ s.pending ++ (s.aside.erase k ++ (s.beside ++ [k])) = [k] := by
      rw [hheld, hpending, haside, hbeside, List.erase_cons_head]
      rfl
    exact h.event (h.orderly ha hhead hrunning) rfl rfl (hhead.trans hmoved.symm)
      (Or.inr (congrArg List.length hmoved))
  | @finishAside k hk =>
    obtain ⟨hboth, hheld, hpending⟩ := h.eq_singleton (List.mem_append_right s.aside hk)
    have hhead : s.underway = [k] := by rw [underway, hheld, hpending, hboth]; rfl
    obtain ⟨haside, hbeside⟩ : s.aside = [] ∧ s.beside = [k] := by
      rcases List.append_eq_singleton_iff.1 hboth with hboth | ⟨_, hbeside⟩
      · exact hboth
      · rw [hbeside] at hk
        cases hk
    have hgone : s.aside ++ s.beside.erase k = [] := by
      rw [haside, hbeside, List.erase_cons_head]
      rfl
    have hrest : s.consumer.held ++ s.pending ++ (s.aside ++ s.beside.erase k) = [] := by
      rw [hheld, hpending, hgone]
      rfl
    exact h.event (e := .ended k) (ha.began_iff.2 (Or.inl (List.mem_append_right _ hk))) rfl rfl
      (hhead.trans (congrArg (k :: ·) hrest.symm)) (Or.inl hgone)
  | @«return» k hk hbegan =>
    refine h.event (e := .flushed k) (fun j hj => ?_) rfl rfl rfl halone
    obtain ⟨before, after, heq⟩ := List.append_of_mem hbegan
    obtain ⟨hearlier, hended⟩ := hserial before _ after heq
    rw [heq]
    exact List.mem_append_left _ (hended j (hearlier j hj))

/-- **Enqueueing** keeps the line, if a closed queue has nothing left to do. -/
theorem Lined.enqueue (h : Lined s) (ha : Accounted s)
    (hidle : s.isClosed = true → s.underway = []) (command : α) (flush : Bool) :
    Lined (s.enqueue command flush) := by
  obtain ⟨hline, halone, hserial⟩ := h
  have hhistory := (s.enqueue_count_eq command flush 0).2.2
  have hserial := hserial.of_eq hhistory
  have hlast : (s.enqueue command flush).underway = s.underway ++ [s.commands.length] ∧
      ((s.enqueue command flush).aside ++ (s.enqueue command flush).beside = [] ∨
        s.underway = []) := by
    unfold QueueTraffic.enqueue
    dsimp only
    split
    · rename_i hclosed
      have hnil := hidle hclosed
      rw [hnil]
      simp only [underway, List.append_eq_nil_iff] at hnil ⊢
      obtain ⟨⟨hheld, hpending⟩, haside, hbeside⟩ := hnil
      rw [hheld, hpending, haside, hbeside]
      exact ⟨rfl, Or.inr trivial⟩
    · rename_i hopen
      have hnobody : s.aside ++ s.beside = [] := by
        by_contra hne
        exact hopen (ha.aside hne)
      refine ⟨?_, Or.inl hnobody⟩
      simp only [underway]
      rw [hnobody, List.append_nil, List.append_nil, List.append_assoc]
  refine ⟨?_, ?_, hserial⟩
  · rw [enqueue_commands, List.length_append, List.length_singleton, List.range_succ, ← hline,
      hlast.1, done, hhistory, List.append_assoc]
    rfl
  · refine hlast.2.imp id fun hnil => ?_
    rw [hlast.1, hnil]
    rfl

theorem Lined.close (h : Lined s) : Lined s.close := ⟨h.line, h.alone, h.serial.of_eq rfl⟩

/-! ## Exactly then -/

/-- Nobody enqueues a command on a closed queue before all others are done. -/
def Patient (admits : QueueTraffic α → Prop) : Prop :=
  ∀ s, Reachable admits s → admits s → s.isClosed = true → s.underway = []

theorem lined_new : Lined ({} : QueueTraffic α) := ⟨rfl, Or.inl rfl, serial_new⟩

/-- **In patient traffic** the commands stand in line. -/
theorem Reachable.lined {admits : QueueTraffic α → Prop} (hpatient : Patient admits)
    (h : Reachable admits s) : Lined s := by
  induction h with
  | refl => exact lined_new
  | tail hs hstep ih =>
    have ha := Reachable.accounted hs
    cases hstep with
    | proceed h => exact ih.proceed ha h
    | enqueue h command flush => exact ih.enqueue ha (hpatient _ hs h) command flush
    | close => exact ih.close

theorem Accounted.lt_length (ha : Accounted s) (hk : k ∈ s.underway) : k < s.commands.length := by
  have hpos := List.count_pos_iff.2 hk
  have hplaces := ha.places k
  by_contra hge
  rw [if_neg hge] at hplaces
  omega

/-- **A command that is enqueued on a closed queue** may begin before those that are under way are
    done. -/
theorem Accounted.exists_not_serial (ha : Accounted s) (hclosed : s.isClosed = true)
    (hk : k ∈ s.underway) (command : α) :
    ∃ t, Proceeds (s.enqueue command false) t ∧ ¬ Serial t := by
  have haside : s.commands.length ∈ (s.enqueue command false).aside := by
    rw [QueueTraffic.enqueue]
    dsimp only
    rw [if_pos hclosed]
    exact List.mem_append_right _ (List.mem_singleton_self _)
  have hhistory := (s.enqueue_count_eq command false 0).2.2
  refine ⟨_, .beginAside haside, fun hserial => ?_⟩
  obtain ⟨hearlier, hended⟩ := hserial (s.enqueue command false).history _ [] rfl
  rw [hhistory] at hearlier hended
  -- the one that is under way has an earlier number, and has not ended
  have hpos := List.count_pos_iff.2 hk
  have hplaces := ha.places k
  have hdone := List.count_pos_iff.2 (mem_done.2 (hended k (hearlier k (ha.lt_length hk))))
  split at hplaces <;> omega

/-- **Every command is run once**, whatever happens, and **one after the other** in their order,
    with flushing waiting for those before, exactly if nobody enqueues a command on a closed queue
    before all others are done. -/
theorem once_and_serial_iff_patient (admits : QueueTraffic α → Prop) :
    (∀ s, Reachable admits s → Once s) ∧
      ((∀ s, Reachable admits s → Serial s) ↔ Patient admits) := by
  refine ⟨fun s hs => hs.accounted.once, fun h s hs hadmits hclosed => ?_,
    fun hpatient s hs => (hs.lined hpatient).serial⟩
  have ha := hs.accounted
  refine List.eq_nil_iff_forall_not_mem.2 fun k hk => ?_
  obtain ⟨command, _, _⟩ := List.exists_cons_of_length_pos (Nat.zero_lt_of_lt (ha.lt_length hk))
  obtain ⟨t, ht, hnot⟩ := ha.exists_not_serial hclosed hk command
  exact hnot (h t (.tail (.tail hs (.enqueue hadmits command false)) (.proceed ht)))

end

/-- Two commands are enqueued and the queue is closed; the first one begins, enqueues a third, and
    that begins at once. -/
def overtaking : QueueTraffic String where
  commands := ["a", "c", "b"]
  pending := [1]
  isClosed := true
  wakings := 3
  consumer := .running 0
  beside := [2]
  history := [.began 0, .began 2]

/-- Commands that are enqueued while a closed queue is drained overtake others. -/
theorem not_serial : ¬ ∀ s : QueueTraffic String, Reachable (fun _ => True) s → Serial s := by
  intro h
  have hclosed : Reachable (fun _ => True) ({
      commands := ["a", "c"], pending := [0, 1], isClosed := true, wakings := 3 } :
      QueueTraffic String) :=
    .tail (.tail (.tail .refl (.enqueue trivial "a" false)) (.enqueue trivial "c" false)) .close
  have hbegun : Reachable (fun _ => True) ({
      commands := ["a", "c"], pending := [1], isClosed := true, wakings := 3,
      consumer := .running 0, history := [.began 0] } : QueueTraffic String) :=
    .tail (.tail hclosed (.proceed (.take rfl rfl))) (.proceed (.begin rfl))
  have henqueued : Reachable (fun _ => True) ({
      commands := ["a", "c", "b"], pending := [1], isClosed := true, wakings := 3,
      consumer := .running 0, aside := [2], history := [.began 0] } : QueueTraffic String) :=
    .tail hbegun (.enqueue trivial "b" false)
  have hovertakes : Step (fun _ => True) ({
      commands := ["a", "c", "b"], pending := [1], isClosed := true, wakings := 3,
      consumer := .running 0, aside := [2], history := [.began 0] } : QueueTraffic String) _ :=
    .proceed (.beginAside (List.mem_singleton_self 2))
  have hreachable : Reachable (fun _ => True) overtaking := .tail henqueued hovertakes
  obtain ⟨_, hended⟩ := h overtaking hreachable [.began 0] (.began 2) [] rfl
  have := hended 0 (List.mem_singleton_self _)
  exact absurd this (by decide)

end QueueTraffic

end KernelGraph
