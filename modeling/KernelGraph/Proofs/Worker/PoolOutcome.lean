/-
  What becomes of the tasks of a pool.

  1. `Intact`: a task is finished once and keeps its error, its function is called once if it was
     accepted and not cancelled when a worker checked it, and never else; nothing is left behind by
     the call that has closed the pool.  A call that finds it closed waits for nobody, so that it
     may come back while tasks are run (`overtaken`).

  2. Nobody is stuck: as long as a task is not finished, or a call that closes the pool has not come
     back, a submission, a worker or such a call can go on; and as everybody comes nearer to their
     end with every step, all tasks are finished in the end.
-/
import KernelGraph.Proofs.Worker.PoolTraffic

namespace KernelGraph.PoolTraffic

section
variable {n : Nat} {s t : PoolTraffic} {id w : Nat}

/-! ## Results last -/

theorem results_prefix_of_update {x : Task} (htasks : t.tasks = Function.update s.tasks id x)
    (h : (s.tasks id).results <+: x.results) (j : Nat) :
    (s.tasks j).results <+: (t.tasks j).results := by
  rw [htasks]
  by_cases hj : j = id
  · rw [hj, Function.update_self]
    exact h
  · rw [Function.update_of_ne hj]

/-- Tasks keep their results. -/
theorem Proceeds.results_prefix (h : Proceeds n s t) (j : Nat) :
    (s.tasks j).results <+: (t.tasks j).results := by
  cases h with
  | accept | compare | choose | send | run =>
    refine results_prefix_of_update rfl ?_ j
    exact List.prefix_rfl
  | refuse | skip | finish => exact results_prefix_of_update rfl (List.prefix_append ..) j
  | _ => exact List.prefix_rfl

theorem Step.results_prefix (h : Step n s t) (ha : Accounted n s) (j : Nat) :
    (s.tasks j).results <+: (t.tasks j).results := by
  cases h with
  | proceed h => exact h.results_prefix j
  | submit context =>
    refine results_prefix_of_update rfl ?_ j
    rw [ha.ahead _ (Nat.le_refl _)]
  | cancel =>
    refine results_prefix_of_update rfl ?_ j
    exact List.prefix_rfl
  | close => exact List.prefix_rfl

/-- **An error never changes**. -/
theorem Reachable.result?_eq (hn : 0 < n) (h : Reachable n s)
    (hsteps : Relation.ReflTransGen (Step n) s t) {e : Option TaskError}
    (he : (s.tasks id).result? = some e) : (t.tasks id).result? = some e := by
  have hprefix : (s.tasks id).results <+: (t.tasks id).results := by
    induction hsteps with
    | refl => exact List.prefix_rfl
    | tail hsteps hstep ih =>
      exact ih.trans (hstep.results_prefix (Reachable.accounted hn (h.trans hsteps)) id)
  obtain ⟨more, hmore⟩ := hprefix
  rw [Task.result?] at he ⊢
  rw [← hmore, List.head?_append, he]
  rfl

/-- A call that has come back has come back for good. -/
theorem Step.returned_mem (h : Step n s t) {b : Bool} (hb : .returned b ∈ s.closings) :
    .returned b ∈ t.closings := by
  have hset : ∀ {i c d}, s.closings[i]? = some c → c ≠ .returned b →
      .returned b ∈ s.closings.set i d := fun {i c d} hi hne => by
    obtain ⟨j, hj⟩ := List.mem_iff_getElem?.1 hb
    have hij : i ≠ j := by
      rintro rfl
      exact hne (Option.some.inj (hi.symm.trans hj))
    exact List.mem_of_getElem? ((List.getElem?_set_ne hij).trans hj)
  cases h with
  | proceed h =>
    cases h with
    | stop hi | leave hi | closed hi => exact hset hi Closing.noConfusion
    | _ => exact hb
  | close => exact List.mem_append_left _ hb
  | _ => exact hb

theorem Reachable.returned_mem (hsteps : Relation.ReflTransGen (Step n) s t) {b : Bool}
    (hb : .returned b ∈ s.closings) : .returned b ∈ t.closings := by
  induction hsteps with
  | refl => exact hb
  | tail _ hstep ih => exact hstep.returned_mem ih

/-! ## Coming to rest -/

/-- Nobody can go on. -/
def AtRest (n : Nat) (s : PoolTraffic) : Prop := ∀ t, ¬ Proceeds n s t

/-- A worker that cannot go on has nothing to do. -/
theorem Accounted.worker_of_atRest (h : Accounted n s) (hrest : AtRest n s) (hw : w < n) :
    (s.workers w).waiting = [] ∧ (s.workers w).place.run = [] := by
  unfold Worker.waiting
  cases hplace : (s.workers w).place with
  | looking =>
    cases hqueue : (s.workers w).queue with
    | nil =>
      cases hopen : s.isOpen with
      | true => exact absurd (.prowl hw hplace hqueue hopen) (hrest _)
      | false => exact absurd (.quit hw (Or.inl hplace) hopen) (hrest _)
    | cons id rest => exact absurd (.take hw (Or.inl hplace) hqueue) (hrest _)
  | stealing i =>
    by_cases hi : i < n
    · by_cases hself : i = w
      · exact absurd (.pass hw hplace hi (Or.inl hself)) (hrest _)
      · cases hqueue : (s.workers i).queue with
        | nil => exact absurd (.pass hw hplace hi (Or.inr hqueue)) (hrest _)
        | cons id rest => exact absurd (.steal hw hplace hi hself hqueue) (hrest _)
    · exact absurd (.wait hw hplace (Nat.le_of_not_lt hi)) (hrest _)
  | waiting =>
    cases hqueue : (s.workers w).queue with
    | nil => exact ⟨rfl, rfl⟩
    | cons id rest => exact absurd (.take hw (Or.inr hplace) hqueue) (hrest _)
  | holding id drains =>
    cases hcontext : (s.tasks id).context with
    | none => exact absurd (.run hw hplace hcontext) (hrest _)
    | some e => exact absurd (.skip hw hplace hcontext) (hrest _)
  | running id drains => exact absurd (.finish hw hplace none) (hrest _)
  | draining =>
    cases hqueue : (s.workers w).queue with
    | nil => exact absurd (.exit hw hplace hqueue) (hrest _)
    | cons id rest => exact absurd (.drain hw hplace hqueue) (hrest _)
  | exited =>
    rw [(h.workers w hw).exited hplace]
    exact ⟨rfl, rfl⟩

/-- On a closed pool, a worker that cannot go on has exited. -/
theorem Accounted.exited_of_atRest (h : Accounted n s) (hrest : AtRest n s)
    (hclosed : s.isOpen = false) (hw : w < n) : (s.workers w).place = .exited := by
  obtain ⟨hwaiting, hrun⟩ := h.worker_of_atRest hrest hw
  cases hplace : (s.workers w).place with
  | looking => exact absurd (.quit hw (Or.inl hplace) hclosed) (hrest _)
  | waiting => exact absurd (.quit hw (Or.inr hplace) hclosed) (hrest _)
  | stealing i =>
    by_cases hi : i < n
    · have hqueue := (List.append_eq_nil_iff.1 (h.worker_of_atRest hrest hi).1).1
      exact absurd (.pass hw hplace hi (Or.inr hqueue)) (hrest _)
    · exact absurd (.wait hw hplace (Nat.le_of_not_lt hi)) (hrest _)
  | holding id drains =>
    rw [Worker.waiting, hplace] at hwaiting
    cases (List.append_eq_nil_iff.1 hwaiting).2
  | running id drains =>
    rw [hplace] at hrun
    cases hrun
  | draining =>
    exact absurd (.exit hw hplace (List.append_eq_nil_iff.1 hwaiting).1) (hrest _)
  | exited => rfl

/-- A submission that cannot go on has come back, or has not begun. -/
theorem Accounted.call_of_atRest (h : Accounted n s) (hrest : AtRest n s) (id : Nat) :
    (s.tasks id).call = .ahead ∨ (s.tasks id).call = .returned := by
  cases hcall : (s.tasks id).call with
  | ahead => exact Or.inl rfl
  | asked =>
    cases hopen : s.isOpen with
    | true => exact absurd (.accept hcall hopen) (hrest _)
    | false => exact absurd (.refuse hcall hopen) (hrest _)
  | scanning i best least =>
    by_cases hi : i < n
    · exact absurd (.compare hcall hi) (hrest _)
    · exact absurd (.choose hcall (Nat.le_of_not_lt hi)) (hrest _)
  | sending w =>
    have hw : w < n := by
      have hwithin := (h.tasks id).within
      rwa [hcall] at hwithin
    have hqueue := (List.append_eq_nil_iff.1 (h.worker_of_atRest hrest hw).1).1
    have hroom : (s.workers w).queue.length < capacity n := by
      rw [hqueue]
      exact Nat.lt_of_lt_of_le (by decide) (Nat.le_max_right (n * 4) 8)
    exact absurd (.send hcall hroom) (hrest _)
  | returned => exact Or.inr rfl

/-- A task that is nowhere else is finished. -/
theorem Accounted.result?_ne_none (h : Accounted n s) (hwaits : (s.tasks id).call.waits = 0)
    (hworkers : ∀ w < n, (s.workers w).waiting = [] ∧ (s.workers w).place.run = [])
    (haccepted : (s.tasks id).accepted = true) : (s.tasks id).result? ≠ none := by
  have hwaiting : s.waiting n id = 0 := Finset.sum_eq_zero fun w hw => by
    rw [(hworkers w (Finset.mem_range.1 hw)).1, List.count_nil]
  have hrunning : s.running n id = 0 := Finset.sum_eq_zero fun w hw => by
    rw [(hworkers w (Finset.mem_range.1 hw)).2, List.count_nil]
  have hplace := (h.tasks id).place
  have hdone := (h.tasks id).done haccepted
  rw [if_pos haccepted] at hplace
  rw [Task.result?, Ne, List.head?_eq_none_iff]
  intro hnil
  rw [hnil, List.length_nil] at hdone
  omega

/-- **Nobody is stuck**: at rest all submissions have come back, and all tasks are finished. -/
theorem Accounted.of_atRest (h : Accounted n s) (hrest : AtRest n s) (hid : id < s.submitted) :
    (s.tasks id).call = .returned ∧ (s.tasks id).result? ≠ none := by
  have hcall := (h.call_of_atRest hrest id).resolve_left (h.begun id hid)
  refine ⟨hcall, ?_⟩
  cases haccepted : (s.tasks id).accepted with
  | true =>
    exact h.result?_ne_none (by rw [hcall]; rfl) (fun w hw => h.worker_of_atRest hrest hw) haccepted
  | false =>
    rw [Task.result?, ((h.tasks id).refused haccepted).2, if_pos hcall]
    exact Option.some_ne_none _

/-- **Whoever closes the pool is not stuck** either: at rest all such calls have come back. -/
theorem Accounted.closings_of_atRest (h : Accounted n s) (hrest : AtRest n s) {c : Closing}
    (hc : c ∈ s.closings) : ∃ stopped, c = .returned stopped := by
  obtain ⟨i, hi⟩ := List.mem_iff_getElem?.1 hc
  cases c with
  | asked =>
    cases hopen : s.isOpen with
    | true =>
      refine absurd (.stop hi hopen fun id => ?_) (hrest _)
      rcases h.call_of_atRest hrest id with hcall | hcall <;> rw [hcall] <;> rfl
    | false => exact absurd (.leave hi hopen) (hrest _)
  | waiting =>
    have hclosed := h.closed.isOpen_eq_false hc rfl
    exact absurd (.closed hi fun w hw => h.exited_of_atRest hrest hclosed hw) (hrest _)
  | returned stopped => exact ⟨stopped, rfl⟩

/-- What a submission has still to do; and what a worker has. -/
def Call.work (n : Nat) : Call → Nat
  | ahead | returned => 0
  | asked => 2 * n + 9
  | scanning i _ _ => n + 8 + (n - i)
  | sending _ => n + 7

/-- What a worker has still to do. -/
def Place.work (n : Nat) : Place → Nat
  | exited => 0
  | draining => 1
  | waiting => 2
  | stealing i => 3 + (n - i)
  | looking => n + 4
  | running _ _ => n + 5
  | holding _ _ => n + 6

/-- What a worker has still to do, with what is in its queue. -/
def Worker.work (n : Nat) (x : Worker) : Nat := (n + 6) * x.queue.length + x.place.work n

/-- A bound for the steps that are left.  A call that is to close the pool has two steps to go, and
    one when it waits. -/
def work (n : Nat) (s : PoolTraffic) : Nat :=
  ∑ id ∈ Finset.range s.submitted, (s.tasks id).call.work n +
    ∑ w ∈ Finset.range n, (s.workers w).work n +
      (2 * s.closings.count .asked + s.closings.count .waiting)

theorem work_setTask (hid : id < s.submitted) (x : Task) :
    (s.setTask id x).work n + (s.tasks id).call.work n = s.work n + x.call.work n := by
  have hsum := sum_update s.tasks (fun t => t.call.work n) hid x
  dsimp only [work, setTask]
  omega

theorem work_setWorker (hw : w < n) (x : Worker) :
    (s.setWorker w x).work n + (s.workers w).work n = s.work n + x.work n := by
  have hsum := sum_update s.workers (fun x => x.work n) hw x
  dsimp only [work, setWorker]
  omega

theorem work_setPlace (hw : w < n) (p : Place) :
    (s.setPlace w p).work n + (s.workers w).place.work n = s.work n + p.work n := by
  have hsum : (s.setPlace w p).work n + _ = _ := work_setWorker hw ⟨(s.workers w).queue, p⟩
  simp only [Worker.work] at hsum
  omega

theorem work_setQueue (hw : w < n) (queue : List Nat) :
    (s.setQueue w queue).work n + (n + 6) * (s.workers w).queue.length =
      s.work n + (n + 6) * queue.length := by
  have hsum : (s.setQueue w queue).work n + _ = _ := work_setWorker hw ⟨queue, (s.workers w).place⟩
  simp only [Worker.work] at hsum
  omega

theorem work_setClosing_lt {i : Nat} {c d : Closing} (hi : s.closings[i]? = some c)
    (h : c = .asked ∧ d ≠ .asked ∨ c = .waiting ∧ ∃ stopped, d = .returned stopped) :
    (s.setClosing i d).work n < s.work n := by
  have hasked := countP_set_add (· == Closing.asked) hi d
  have hwaiting := countP_set_add (· == Closing.waiting) hi d
  dsimp only [work, PoolTraffic.setClosing, List.count]
  obtain ⟨rfl, hd⟩ | ⟨rfl, stopped, rfl⟩ := h
  · simp only [beq_iff_eq, hd, if_true, if_false, reduceCtorEq] at hasked hwaiting
    split at hwaiting <;> omega
  · simp only [beq_iff_eq, if_true, if_false, reduceCtorEq] at hasked hwaiting
    omega

theorem work_after_le (drains : Bool) : (Place.after drains).work n ≤ n + 4 := by
  cases drains with
  | false => exact Nat.le_refl _
  | true => exact Nat.le_add_left 1 (n + 3)

/-- What a worker does to a task that it has is left out of the account, but for the worker. -/
theorem Accounted.work_serve (h : Accounted n s) (hw : w < n) {p q : Place}
    (hq : (s.workers w).place = q) (hid : id ∈ q.held ∨ id ∈ q.run) {x : Task}
    (hcall : x.call = (s.tasks id).call) :
    ((s.setPlace w p).setTask id x).work n + q.work n = s.work n + p.work n := by
  subst hq
  have haccepted := h.accepted_of_place hw rfl hid
  have hmoves := work_setPlace (s := s) hw p
  have hwork := work_setTask (n := n) (s := s.setPlace w p)
    (h.lt_submitted (ne_of_accepted haccepted)) x
  rw [hcall, show (s.setPlace w p).tasks id = s.tasks id from rfl] at hwork
  omega

/-- **Everybody comes nearer to their end**. -/
theorem Proceeds.work_lt (hstep : Proceeds n s t) (h : Accounted n s) (hn : 0 < n) :
    t.work n < s.work n := by
  cases hstep with
  | @accept id hcall hopen =>
    have hwork := work_setTask (n := n) (h.lt_submitted (ne_of_call hcall Call.noConfusion))
      ((s.tasks id).accept (s.workers 0).queue.length)
    simp only [hcall, Task.accept, Call.work] at hwork ⊢
    omega
  | @refuse id hcall hclosed =>
    have hwork := work_setTask (n := n) (h.lt_submitted (ne_of_call hcall Call.noConfusion))
      (s.tasks id).refuse
    simp only [hcall, Task.refuse, Task.goOn, Call.work] at hwork ⊢
    omega
  | @compare id i best least hcall hi =>
    have hwork := work_setTask (n := n) (h.lt_submitted (ne_of_call hcall Call.noConfusion))
      ((s.tasks id).goOn (if (s.workers i).queue.length < least
        then .scanning (i + 1) i (s.workers i).queue.length else .scanning (i + 1) best least))
    have hnext : (if (s.workers i).queue.length < least
        then Call.scanning (i + 1) i (s.workers i).queue.length
        else .scanning (i + 1) best least).work n = n + 8 + (n - (i + 1)) := by split <;> rfl
    rw [Task.goOn_call, hnext, hcall] at hwork
    simp only [Call.work] at hwork
    omega
  | @choose id i best least hcall hi =>
    have hwork := work_setTask (n := n) (h.lt_submitted (ne_of_call hcall Call.noConfusion))
      ((s.tasks id).goOn (.sending best))
    simp only [hcall, Task.goOn, Call.work] at hwork ⊢
    omega
  | @send id w hcall hroom =>
    have hw : w < n := by
      have hwithin := (h.tasks id).within
      rwa [hcall] at hwithin
    have hqueue := work_setQueue (s := s) hw ((s.workers w).queue ++ [id])
    have hid : id < (s.setQueue w ((s.workers w).queue ++ [id])).submitted :=
      h.lt_submitted (ne_of_call hcall Call.noConfusion)
    have hwork := work_setTask (n := n) hid ((s.tasks id).goOn .returned)
    rw [show (s.setQueue w ((s.workers w).queue ++ [id])).tasks id = s.tasks id from rfl] at hwork
    simp only [hcall, Task.goOn, Call.work, List.length_append, List.length_singleton,
      Nat.mul_succ] at hwork hqueue ⊢
    omega
  | @take w id rest hw hplace hqueue =>
    have hwork := work_setWorker (s := s) hw ⟨rest, .holding id false⟩
    rcases hplace with hplace | hplace <;>
    · simp only [Worker.work, hqueue, hplace, Place.work, List.length_cons, Nat.mul_succ] at hwork
      omega
  | @drain w id rest hw hplace hqueue =>
    have hwork := work_setWorker (s := s) hw ⟨rest, .holding id true⟩
    simp only [Worker.work, hqueue, hplace, Place.work, List.length_cons, Nat.mul_succ] at hwork
    omega
  | prowl hw hplace hqueue hopen =>
    have hwork := work_setPlace (s := s) hw (.stealing 0)
    simp only [hplace, Place.work] at hwork
    omega
  | @pass w i hw hplace hi hqueue =>
    have hwork := work_setPlace (s := s) hw (.stealing (i + 1))
    simp only [hplace, Place.work] at hwork
    omega
  | @steal w i id rest hw hplace hi hne hqueue =>
    have hgives := work_setQueue (s := s) hi rest
    have htakes := work_setPlace (s := s.setQueue i rest) hw (.holding id false)
    rw [show (s.setQueue i rest).workers w = s.workers w from
      setWorker_workers_of_ne s _ hne.symm] at htakes
    simp only [hplace, hqueue, Place.work, List.length_cons, Nat.mul_succ] at hgives htakes
    omega
  | wait hw hplace hi =>
    have hwork := work_setPlace (s := s) hw .waiting
    simp only [hplace, Place.work] at hwork
    omega
  | @skip w id drains e hw hplace hcontext =>
    have hwork := h.work_serve hw (p := .after drains) hplace
      (Or.inl (List.mem_singleton_self id)) (x := (s.tasks id).skip e) rfl
    have hafter := work_after_le (n := n) drains
    rw [show (Place.holding id drains).work n = n + 6 from rfl] at hwork
    omega
  | @run w id drains hw hplace hcontext =>
    have hwork := h.work_serve hw (p := .running id drains) hplace
      (Or.inl (List.mem_singleton_self id)) (x := (s.tasks id).run) rfl
    simp only [Place.work] at hwork
    omega
  | @finish w id drains hw hplace error =>
    have hwork := h.work_serve hw (p := .after drains) hplace
      (Or.inr (List.mem_singleton_self id)) (x := (s.tasks id).finish error) rfl
    have hafter := work_after_le (n := n) drains
    rw [show (Place.running id drains).work n = n + 5 from rfl] at hwork
    omega
  | quit hw hplace hclosed =>
    have hwork := work_setPlace (s := s) hw .draining
    rcases hplace with hplace | hplace <;>
    · simp only [hplace, Place.work] at hwork
      omega
  | exit hw hplace hqueue =>
    have hwork := work_setPlace (s := s) hw .exited
    simp only [hplace, Place.work] at hwork
    omega
  | @stop i hi hopen hlock =>
    exact work_setClosing_lt (d := .waiting) hi (Or.inl ⟨rfl, Closing.noConfusion⟩)
  | leave hi hclosed => exact work_setClosing_lt hi (Or.inl ⟨rfl, Closing.noConfusion⟩)
  | closed hi hexited => exact work_setClosing_lt hi (Or.inr ⟨rfl, true, rfl⟩)

/-- What a pool does by itself, it does to tasks that are accounted for. -/
theorem Accounted.proceeds (h : Accounted n s) (hn : 0 < n)
    (hsteps : Relation.ReflTransGen (Proceeds n) s t) :
    Accounted n t ∧ t.submitted = s.submitted := by
  induction hsteps with
  | refl => exact ⟨h, rfl⟩
  | tail _ hstep ih =>
    obtain ⟨ht, hsubmitted⟩ := ih
    refine ⟨ht.proceed hn hstep, Eq.trans ?_ hsubmitted⟩
    cases hstep <;> rfl

/-- **Left alone**, the pool comes to rest. -/
theorem Accounted.acc (h : Accounted n s) (hn : 0 < n) : Acc (flip (Proceeds n)) s := by
  generalize hm : s.work n = m
  induction m using Nat.strong_induction_on generalizing s with
  | _ m ih =>
    subst hm
    exact Acc.intro s fun t ht => ih _ (Proceeds.work_lt ht h hn) (h.proceed hn ht) rfl

/-! ## What becomes of the tasks -/

/-- No task is lost, and none is duplicated. -/
structure Intact (n : Nat) (s : PoolTraffic) : Prop where
  /-- A task is finished at most once, and its error never changes afterwards. -/
  finishes_le : ∀ id, (s.tasks id).results.length ≤ 1
  lasts : ∀ t, Relation.ReflTransGen (Step n) s t → ∀ id e, (s.tasks id).result? = some e →
    (t.tasks id).result? = some e
  /-- Its function is called at most once: exactly if the task was accepted, and not yet cancelled
      when a worker checked its context.  If an accepted task is finished, it was checked once. -/
  runs_le : ∀ id, (s.tasks id).runs ≤ 1
  ran_iff : ∀ id,
    (s.tasks id).runs = 1 ↔ (s.tasks id).accepted = true ∧ (s.tasks id).checks = [false]
  checked : ∀ id, (s.tasks id).result? ≠ none → (s.tasks id).accepted = true →
    (s.tasks id).checks.length = 1
  /-- A task that was submitted to a closed pool is never run, and is finished with an error that
      says so once its submission has come back. -/
  late : ∀ id, (s.tasks id).late = true → (s.tasks id).accepted = false ∧ (s.tasks id).runs = 0 ∧
    ((s.tasks id).call = .returned → (s.tasks id).result? = some (some .poolClosed))
  /-- The pool is open until one call closes it, and no other call closes it again. -/
  once : s.closings.countP Closing.stops = if s.isOpen then 0 else 1
  /-- Any other call comes back only from a pool that is closed. -/
  left : .returned false ∈ s.closings → s.isOpen = false
  /-- When the call that has closed the pool comes back, and from then on, all tasks that were
      accepted are finished, and all queues are empty. -/
  closed : .returned true ∈ s.closings → ∀ t, Relation.ReflTransGen (Step n) s t →
    (∀ id, (t.tasks id).accepted = true → (t.tasks id).result? ≠ none) ∧
      ∀ w < n, (t.workers w).queue = []
  /-- Left alone, the pool comes to rest, and then all tasks are finished, and whoever is to close
      the pool has come back. -/
  terminates : Acc (flip (Proceeds n)) s
  complete : ∀ t, Relation.ReflTransGen (Proceeds n) s t → AtRest n t →
    (∀ id < s.submitted, (t.tasks id).call = .returned ∧ (t.tasks id).result? ≠ none) ∧
      ∀ c ∈ t.closings, ∃ stopped, c = .returned stopped

/-- A task is checked once, and finished once. -/
theorem Accounted.lengths_le (h : Accounted n s) (id : Nat) :
    (s.tasks id).checks.length ≤ 1 ∧ (s.tasks id).results.length ≤ 1 := by
  obtain ⟨hplace, hdone, _, hrefused, _⟩ := h.tasks id
  cases haccepted : (s.tasks id).accepted with
  | true =>
    have hdone := hdone haccepted
    rw [if_pos haccepted] at hplace
    omega
  | false =>
    rw [haccepted, if_neg Bool.false_ne_true] at hplace
    refine ⟨by omega, ?_⟩
    rw [(hrefused haccepted).2]
    split <;> simp

/-- A task is run exactly if it was accepted and found not to be cancelled. -/
theorem Accounted.ran_iff (h : Accounted n s) (id : Nat) :
    (s.tasks id).runs = 1 ↔ (s.tasks id).accepted = true ∧ (s.tasks id).checks = [false] := by
  have hplace := (h.tasks id).place
  rw [(h.tasks id).runs]
  obtain ⟨hle, _⟩ := h.lengths_le id
  constructor
  · intro hcount
    have hpos : 0 < (s.tasks id).checks.length :=
      Nat.lt_of_lt_of_le (by omega) (List.count_le_length (a := false))
    refine ⟨?_, ?_⟩
    · by_contra hnot
      rw [if_neg hnot] at hplace
      omega
    · obtain ⟨c, hc⟩ := List.length_eq_one_iff.1 (Nat.le_antisymm hle hpos)
      rw [hc] at hcount ⊢
      cases c with
      | false => rfl
      | true => cases hcount
  · rintro ⟨_, hchecks⟩
    rw [hchecks]
    rfl

/-- An accepted task that is finished was checked once. -/
theorem Accounted.checked (h : Accounted n s) (hresult : (s.tasks id).result? ≠ none)
    (haccepted : (s.tasks id).accepted = true) : (s.tasks id).checks.length = 1 := by
  have hdone := (h.tasks id).done haccepted
  have hle := (h.lengths_le id).1
  rw [Task.result?, Ne, List.head?_eq_none_iff] at hresult
  have hpos := List.length_pos_of_ne_nil hresult
  omega

/-- Nothing is left behind by the call that has closed the pool. -/
theorem Accounted.empty_of_closed (h : Accounted n s) (hclosed : .returned true ∈ s.closings) :
    (∀ id, (s.tasks id).accepted = true → (s.tasks id).result? ≠ none) ∧
      ∀ w < n, (s.workers w).queue = [] := by
  have hexited := h.closed.exited hclosed
  have hqueue : ∀ w < n, (s.workers w).queue = [] := fun w hw =>
    (h.workers w hw).exited (hexited w hw)
  have hopen := h.closed.isOpen_eq_false hclosed rfl
  refine ⟨fun id => h.result?_ne_none ((h.tasks id).lock hopen) fun w hw => ?_, hqueue⟩
  rw [Worker.waiting, hqueue w hw, hexited w hw]
  exact ⟨rfl, rfl⟩

/-- **The pool loses and duplicates no task.** -/
theorem Reachable.intact (hn : 0 < n) (h : Reachable n s) : Intact n s := by
  have ha := h.accounted hn
  have hruns_le : ∀ id, (s.tasks id).runs ≤ (s.tasks id).checks.length := fun id => by
    rw [(ha.tasks id).runs]
    exact List.count_le_length
  refine ⟨fun id => (ha.lengths_le id).2, fun t ht id e => h.result?_eq hn ht,
    fun id => (hruns_le id).trans (ha.lengths_le id).1, fun id => ha.ran_iff id,
    fun id => ha.checked, fun id hlate => ?_, ha.closed.once, ha.closed.left,
    fun hclosed t ht => ?_, ha.acc hn, fun t ht hrest => ?_⟩
  · have hnot := ((ha.tasks id).late hlate).1
    obtain ⟨_, hresults⟩ := (ha.tasks id).refused hnot
    have hplace := (ha.tasks id).place
    have hruns := hruns_le id
    rw [hnot, if_neg Bool.false_ne_true] at hplace
    refine ⟨hnot, by omega, fun hcall => ?_⟩
    rw [Task.result?, hresults, if_pos hcall]
    rfl
  · exact (Reachable.accounted hn (h.trans ht)).empty_of_closed (Reachable.returned_mem ht hclosed)
  · obtain ⟨hat, hsubmitted⟩ := ha.proceeds hn ht
    exact ⟨fun id hid => hat.of_atRest hrest (by rw [hsubmitted]; exact hid),
      fun c => hat.closings_of_atRest hrest⟩

end

/-- One worker: it is at the only task when the pool is closed, and a second caller who finds the
    pool closed has come back. -/
def overtaken : PoolTraffic :=
  let asked := ({} : PoolTraffic).submit none
  let scanning := asked.setTask 0 ((asked.tasks 0).accept 0)
  let sending := scanning.setTask 0 ((scanning.tasks 0).goOn (.sending 0))
  let sent := (sending.setQueue 0 [0]).setTask 0 ((sending.tasks 0).goOn .returned)
  let held := sent.setWorker 0 ⟨[], .holding 0 false⟩
  let run := (held.setPlace 0 (.running 0 false)).setTask 0 (held.tasks 0).run
  { run with isOpen := false, closings := [.waiting, .returned false] }

theorem reachable_overtaken : Reachable 1 overtaken := by
  have hasked : Reachable 1 (({} : PoolTraffic).submit none) := .single (.submit none)
  have hscanning := hasked.tail (.proceed (.accept (k := 0) rfl rfl))
  have hsending := hscanning.tail (.proceed (.choose (k := 0) rfl (Nat.le_refl 1)))
  have hsent := hsending.tail (.proceed (.send (k := 0) rfl (by decide)))
  have hheld := hsent.tail (.proceed (.take (w := 0) Nat.zero_lt_one (Or.inl rfl) rfl))
  have hrun := hheld.tail (.proceed (.run (w := 0) Nat.zero_lt_one rfl rfl))
  have hcalls := (hrun.tail .close).tail .close
  have hstopped := hcalls.tail (.proceed (.stop (i := 0) rfl rfl fun id => by cases id <;> rfl))
  exact hstopped.tail (.proceed (.leave (i := 1) rfl rfl))

/-- The task is finished, the worker exits, and the first caller comes back as well. -/
theorem Reachable.intact_served : ∃ s, Reachable 1 s ∧ Intact 1 s ∧
    s.closings = [.returned true, .returned false] ∧
    (s.tasks 0).runs = 1 ∧ (s.tasks 0).result? = some none := by
  have hdone := reachable_overtaken.tail (.proceed (.finish (w := 0) Nat.zero_lt_one rfl none))
  have hquit := hdone.tail (.proceed (.quit (w := 0) Nat.zero_lt_one (Or.inl rfl) rfl))
  have hexited := hquit.tail (.proceed (.exit (w := 0) Nat.zero_lt_one rfl rfl))
  have hclosed := hexited.tail (.proceed (.closed (i := 0) rfl fun w hw => by
    cases Nat.lt_one_iff.1 hw
    rfl))
  exact ⟨_, hclosed, Reachable.intact Nat.zero_lt_one hclosed, rfl, rfl, rfl⟩

/-- A call that has come back may leave tasks behind, unless it is the one that has closed the
    pool. -/
theorem not_closed_empty : ¬ ∀ n s, 0 < n → Reachable n s → ∀ stopped,
    .returned stopped ∈ s.closings →
      (∀ id, (s.tasks id).accepted = true → (s.tasks id).result? ≠ none) ∧
        ∀ w < n, (s.workers w).queue = [] := by
  intro hall
  have hleft : Closing.returned false ∈ overtaken.closings := List.mem_of_getElem? (i := 1) rfl
  exact (hall 1 overtaken Nat.zero_lt_one reachable_overtaken false hleft).1 0 rfl rfl

end KernelGraph.PoolTraffic
