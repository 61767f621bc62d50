/-
  The operations of the pool are runs of its traffic.

  `Pool` lets a submission choose its queue in one go, and a worker take a task and begin it, or
  steal one.  The traffic does the same step by step, with nobody coming in between:

      queued task     ↦  in the queue of the same worker, not checked
      running task    ↦  run by the same worker
      finished task   ↦  finished once, with the same error
      idle worker     ↦  looks at its queue

  So what holds of all traffic holds of the operations.  A submission that finds no room would have
  to wait, and a worker of a closed pool does not steal; the runs leave these out.
-/
import KernelGraph.Proofs.Worker.PoolOutcome

namespace KernelGraph

open Relation PoolTraffic

namespace Pool

/-- The length of the queue of a worker. -/
def load (p : Pool) (w : Nat) : Nat := (p.workers[w]?.getD {}).queue.length

/-- The runs of the operations of a pool of `n` workers; tasks are numbered as they are
    submitted. -/
inductive Run (n : Nat) : Pool → Prop
  | new : Run n (ofWorkers n)
  | submit {p} (h : Run n p) (cancelled : Bool)
    (hroom : p.isOpen = true → p.load p.shortest < capacity n) :
    Run n (p.submit p.tasks.length cancelled)
  | cancel {p} (h : Run n p) (id : Nat) : Run n (p.cancel id)
  | advance {p p'} (h : Run n p) (hopen : p.isOpen = true)
    {verdict : PoolTask → Option (Option TaskError)} {w : Nat}
    (hadvance : advance verdict p w = some p') : Run n p'
  | close {p} (h : Run n p) : Run n p.close

/-- The worker of the traffic does what the worker of the pool does. -/
structure Shows (x : PoolWorker) (y : PoolTraffic.Worker) : Prop where
  queue : y.queue = x.queue
  place : y.place = match x.current with
    | some id => .running id false
    | none => .looking

/-- The task of the traffic is where the task of the pool is. -/
structure Records (t : PoolTask) (u : PoolTraffic.Task) : Prop where
  call : u.call = .returned
  results : u.results = match t.status with
    | .finished e => [e]
    | _ => []
  context : u.results = [] → u.context = if t.cancelled then some .cancelled else none

/-- The traffic stands where the pool says. -/
structure Represents (n : Nat) (p : Pool) (s : PoolTraffic) : Prop where
  size : p.workers.length = n
  workers : ∀ (w : Nat) (x : PoolWorker), p.workers[w]? = some x → Shows x (s.workers w)
  ids : ∀ (id : Nat) (t : PoolTask), p.tasks[id]? = some t → t.id = id
  tasks : ∀ (id : Nat) (t : PoolTask), p.tasks[id]? = some t → Records t (s.tasks id)
  submitted : s.submitted = p.tasks.length
  isOpen : s.isOpen = p.isOpen
  ran : ∀ id, p.ran.count id = (s.tasks id).runs

section
variable {n : Nat} {p p' : Pool} {s t : PoolTraffic} {id w : Nat}

/-! ## Lists of workers and tasks -/

theorem getElem?_modifyWorker (p : Pool) (w : Nat) (f : PoolWorker → PoolWorker) (v : Nat) :
    (p.modifyWorker w f).workers[v]? =
      (p.workers[v]?).map fun x => if v = w then f x else x := by
  rw [modifyWorker, List.getElem?_modify]
  by_cases hv : w = v
  · simp [hv]
  · simp [hv, Ne.symm hv]

theorem Represents.task?_eq (h : Represents n p s) (id : Nat) : p.task? id = p.tasks[id]? := by
  rw [task?]
  cases ht : p.tasks[id]? with
  | none =>
    rw [List.find?_eq_none]
    intro t hmem
    obtain ⟨i, hi⟩ := List.getElem?_of_mem hmem
    rw [h.ids i t hi, decide_eq_true_eq]
    rintro rfl
    rw [hi] at ht
    cases ht
  | some t =>
    obtain ⟨hlt, heq⟩ := List.getElem?_eq_some_iff.1 ht
    refine List.find?_eq_some_iff_getElem.2 ⟨by simpa using h.ids id t ht, id, hlt, heq, ?_⟩
    intro j hj
    have hid := h.ids j _ (List.getElem?_eq_getElem (Nat.lt_trans hj hlt))
    simpa [hid] using Nat.ne_of_lt hj

theorem Represents.getElem?_modifyTask (h : Represents n p s) (id : Nat)
    (f : PoolTask → PoolTask) (j : Nat) :
    (p.modifyTask id f).tasks[j]? = (p.tasks[j]?).map fun t => if j = id then f t else t := by
  rw [modifyTask, List.getElem?_map]
  cases ht : p.tasks[j]? with
  | none => rfl
  | some t => rw [Option.map_some, Option.map_some, h.ids j t ht]

theorem represents_new (n : Nat) : Represents n (ofWorkers n) {} where
  size := List.length_replicate
  workers w x hx := by
    obtain rfl := List.eq_of_mem_replicate (List.mem_of_getElem? hx)
    exact ⟨rfl, rfl⟩
  ids id t ht := by simp [ofWorkers] at ht
  tasks id t ht := by simp [ofWorkers] at ht
  submitted := rfl
  isOpen := rfl
  ran _ := rfl

/-! ## What one change does to the pool -/

/-- A worker changes on both sides. -/
theorem Represents.modifyWorker (h : Represents n p s) (w : Nat) {f : PoolWorker → PoolWorker}
    {y : PoolTraffic.Worker} (hy : ∀ x, p.workers[w]? = some x → Shows (f x) y) :
    Represents n (p.modifyWorker w f) (s.setWorker w y) where
  size := by rw [Pool.modifyWorker, List.length_modify, h.size]
  workers v x hx := by
    rw [getElem?_modifyWorker] at hx
    obtain ⟨z, hz, rfl⟩ := Option.map_eq_some_iff.1 hx
    by_cases hv : v = w
    · subst hv
      rw [if_pos rfl, setWorker_workers_self]
      exact hy z hz
    · rw [if_neg hv, setWorker_workers_of_ne s y hv]
      exact h.workers v z hz
  ids := h.ids
  tasks := h.tasks
  submitted := h.submitted
  isOpen := h.isOpen
  ran := h.ran

/-- A task changes on both sides. -/
theorem Represents.modifyTask (h : Represents n p s) (id : Nat) {f : PoolTask → PoolTask}
    {u : PoolTraffic.Task} (hid : ∀ t, (f t).id = t.id)
    (hu : ∀ t, p.tasks[id]? = some t → Records (f t) u) {ran : List Nat}
    (hran : ∀ j, ran.count j = ((s.setTask id u).tasks j).runs) :
    Represents n { p.modifyTask id f with ran := ran } (s.setTask id u) where
  size := h.size
  workers := h.workers
  ids j t ht := by
    obtain ⟨z, hz, rfl⟩ := Option.map_eq_some_iff.1 ((h.getElem?_modifyTask id f j).symm.trans ht)
    rw [← h.ids j z hz]
    split
    · exact hid z
    · rfl
  tasks j t ht := by
    obtain ⟨z, hz, rfl⟩ := Option.map_eq_some_iff.1 ((h.getElem?_modifyTask id f j).symm.trans ht)
    by_cases hj : j = id
    · subst hj
      rw [if_pos rfl, setTask_tasks_self]
      exact hu z hz
    · rw [if_neg hj, setTask_tasks_of_ne s u hj]
      exact h.tasks j z hz
  submitted := by
    show s.submitted = (p.tasks.map _).length
    rw [List.length_map, h.submitted]
  isOpen := h.isOpen
  ran := hran

/-- A task that was not run changes. -/
theorem Represents.runs_setTask (h : Represents n p s) {u : PoolTraffic.Task}
    (hu : u.runs = (s.tasks id).runs) (j : Nat) :
    p.ran.count j = ((s.setTask id u).tasks j).runs := by
  by_cases hj : j = id
  · rw [hj, setTask_tasks_self, hu, h.ran]
  · rw [setTask_tasks_of_ne s u hj, h.ran]

/-- A task comes in on both sides. -/
theorem Represents.append (h : Represents n p s) {x : PoolTask} {u : PoolTraffic.Task}
    (hid : x.id = p.tasks.length) (hu : Records x u)
    (hruns : u.runs = (s.tasks s.submitted).runs) :
    Represents n { p with tasks := p.tasks ++ [x] }
      { s.setTask s.submitted u with submitted := s.submitted + 1 } where
  size := h.size
  workers := h.workers
  ids j t ht := by
    rw [List.getElem?_append] at ht
    split at ht
    · exact h.ids j t ht
    · obtain ⟨hlt, rfl⟩ := List.getElem?_eq_some_iff.1 ht
      rw [List.length_singleton] at hlt
      rw [List.getElem_singleton, hid]
      omega
  tasks j t ht := by
    rw [List.getElem?_append] at ht
    split at ht
    · rename_i hlt
      rw [← h.submitted] at hlt
      rw [setTask_tasks_of_ne s u (Nat.ne_of_lt hlt)]
      exact h.tasks j t ht
    · obtain ⟨hlt, rfl⟩ := List.getElem?_eq_some_iff.1 ht
      rw [List.length_singleton] at hlt
      obtain rfl : j = s.submitted := by
        rw [h.submitted]
        omega
      rw [setTask_tasks_self, List.getElem_singleton]
      exact hu
  submitted := by rw [List.length_append, List.length_singleton, h.submitted]
  isOpen := h.isOpen
  ran := h.runs_setTask hruns

/-! ## The operations -/

/-- A task that was finished has a result. -/
theorem finish_results_ne_nil (u : PoolTraffic.Task) (e : Option TaskError) :
    (u.finish e).results ≠ [] := List.append_ne_nil_of_right_ne_nil _ (List.cons_ne_nil _ _)

/-- A worker of the pool, and the worker of the traffic. -/
theorem Represents.exists_worker (h : Represents n p s) (hw : w < n) :
    ∃ x, p.workers[w]? = some x ∧ Shows x (s.workers w) := by
  rw [← h.size] at hw
  exact ⟨_, List.getElem?_eq_getElem hw, h.workers w _ (List.getElem?_eq_getElem hw)⟩

/-- The queue that the pool shows. -/
theorem Represents.queue_eq (h : Represents n p s) (hw : w < n) :
    (p.workers[w]?.getD {}).queue = (s.workers w).queue := by
  obtain ⟨x, hx, hshows⟩ := h.exists_worker hw
  rw [hx, Option.getD_some, hshows.queue]

/-- The length of the queue that the pool shows. -/
theorem Represents.load_eq (h : Represents n p s) (hw : w < n) :
    p.load w = (s.workers w).queue.length := by
  rw [load, h.queue_eq hw]

/-- **The task that a worker runs returns.** -/
theorem Represents.finish (h : Represents n p s) (ha : Accounted n s) (hw : w < n)
    (e : Option TaskError) :
    ∃ t, ReflTransGen (Step n) s t ∧ Represents n (p.finish w e) t := by
  obtain ⟨x, hx, hqueue, hplace⟩ := h.exists_worker hw
  rw [Pool.finish, hx, Option.getD_some]
  split
  · exact ⟨s, .refl, h⟩
  · rename_i id hcurrent
    rw [hcurrent] at hplace
    have hid : id ∈ (s.workers w).place.run := by
      rw [hplace]
      exact List.mem_singleton_self id
    have hnil : (s.tasks id).results = [] := (ha.of_mem_run hw hid).2.2.2.2.2
    refine ⟨_, .single (.proceed (.finish hw hplace e)), ?_⟩
    have htask := h.modifyTask id (f := fun t => { t with status := .finished e })
      (u := (s.tasks id).finish e) (fun _ => rfl) (fun t ht => ⟨(h.tasks id t ht).call, by
        rw [Task.finish, hnil]
        rfl, fun hresults => absurd hresults (finish_results_ne_nil _ e)⟩)
      (h.runs_setTask rfl)
    exact htask.modifyWorker w fun y hy => ⟨hqueue.trans (by cases hx.symm.trans hy; rfl), rfl⟩

/-- **An idle worker** with a task that was not checked skips it, or runs it. -/
theorem Represents.run (h : Represents n p s) (hw : w < n)
    (hidle : (p.workers[w]?.getD {}).current = none) {x : PoolTask} (hx : p.tasks[id]? = some x)
    (hnil : (s.tasks id).results = []) :
    ∃ t, ReflTransGen (Step n) (s.setPlace w (.holding id false)) t ∧
      Represents n (p.run w id) t := by
  obtain ⟨y, hy, hqueue, -⟩ := h.exists_worker hw
  rw [hy, Option.getD_some] at hidle
  obtain ⟨hcall, -, hcontext⟩ := h.tasks id x hx
  have hcontext := hcontext hnil
  have hplace : ((s.setPlace w (.holding id false)).workers w).place = .holding id false := by
    rw [setPlace, setWorker_workers_self]
  have hmoves : ∀ q, (s.setPlace w (.holding id false)).setPlace w q = s.setPlace w q := fun q => by
    simp only [setPlace, setWorker, Function.update_self, Function.update_idem]
  rw [Pool.run, h.task?_eq, hx]
  dsimp only
  split
  · rename_i hcancelled
    rw [if_pos hcancelled] at hcontext
    refine ⟨_, .single (.proceed (.skip hw hplace hcontext)), ?_⟩
    rw [hmoves]
    have htask := h.modifyTask id (f := fun t => { t with status := .finished (some .cancelled) })
      (u := (s.tasks id).skip .cancelled) (fun _ => rfl) (fun _ _ => ⟨hcall, by
        rw [Task.skip, Task.finish, hnil]
        rfl, fun hresults => absurd hresults (finish_results_ne_nil _ _)⟩)
      (h.runs_setTask rfl)
    exact htask.modifyWorker w fun z hz => by
      cases hy.symm.trans hz
      exact ⟨hqueue, by rw [hidle]; rfl⟩
  · rename_i hcancelled
    rw [if_neg hcancelled] at hcontext
    refine ⟨_, .single (.proceed (.run hw hplace hcontext)), ?_⟩
    rw [hmoves]
    have hran : ∀ j, (p.ran ++ [id]).count j =
        ((s.setTask id (s.tasks id).run).tasks j).runs := fun j => by
      rw [List.count_append, h.ran]
      by_cases hj : j = id
      · rw [hj, setTask_tasks_self, List.count_singleton_self]
        rfl
      · rw [setTask_tasks_of_ne s _ hj, List.count_singleton, beq_eq_false_iff_ne.2 (Ne.symm hj)]
        rfl
    have htask := h.modifyTask id (f := fun t => { t with status := .running })
      (u := (s.tasks id).run) (fun _ => rfl) (fun t ht => ⟨hcall, hnil, fun _ => by
        cases hx.symm.trans ht
        rw [if_neg hcancelled]
        exact hcontext⟩) hran
    exact htask.modifyWorker w fun z hz => by
      cases hy.symm.trans hz
      exact ⟨hqueue, rfl⟩

/-- **An idle worker takes** the first task of a queue, its own or another's. -/
theorem Represents.takeFrom (h : Represents n p s) (ha : Accounted n s) (hw : w < n) {v : Nat}
    (hv : v < n) (hidle : (p.workers[w]?.getD {}).current = none) {rest : List Nat}
    (hqueue : (p.workers[v]?.getD {}).queue = id :: rest) :
    ∃ t, ReflTransGen (Step n) ((s.setQueue v rest).setPlace w (.holding id false)) t ∧
      Represents n (p.takeFrom w v) t := by
  have hmem : id ∈ (s.workers v).waiting := by
    rw [Worker.waiting, ← h.queue_eq hv, hqueue]
    exact List.mem_append_left _ List.mem_cons_self
  obtain ⟨haccepted, -, -, hchecks⟩ := ha.of_mem_waiting hv hmem
  have hdone := (ha.tasks id).done haccepted
  rw [hchecks, List.length_nil] at hdone
  have hlt := ha.lt_submitted (ne_of_accepted haccepted)
  rw [h.submitted] at hlt
  rw [Pool.takeFrom, hidle, hqueue]
  dsimp only
  have htaken : Represents n (p.modifyWorker v fun x => { x with queue := rest })
      (s.setQueue v rest) := h.modifyWorker v fun x hx => ⟨rfl, (h.workers v x hx).place⟩
  have hnil : (s.tasks id).results = [] := List.eq_nil_of_length_eq_zero (by omega)
  refine htaken.run hw ?_ (List.getElem?_eq_getElem hlt) hnil
  obtain ⟨y, hy, -⟩ := h.exists_worker hw
  rw [hy, Option.getD_some] at hidle
  rw [getElem?_modifyWorker, hy, Option.map_some, Option.getD_some]
  split <;> exact hidle

/-- **A worker goes round** the others, as far as their queues are empty. -/
theorem exists_stealing {v : Nat} (hw : w < n) (hv : v ≤ n)
    (hplace : (s.workers w).place = .looking) (hqueue : (s.workers w).queue = [])
    (hopen : s.isOpen = true) (hempty : ∀ i < v, i = w ∨ (s.workers i).queue = []) :
    ReflTransGen (Step n) s (s.setPlace w (.stealing v)) := by
  induction v with
  | zero => exact .single (.proceed (.prowl hw hplace hqueue hopen))
  | succ v ih =>
    have hsteps := ih (by omega) fun i hi => hempty i (by omega)
    have hpass := Proceeds.pass (s := s.setPlace w (.stealing v)) (i := v) hw
      (by rw [setPlace, setWorker_workers_self]) hv (by
        by_cases hvw : v = w
        · exact Or.inl hvw
        · rw [setPlace, setWorker_workers_of_ne s _ hvw]
          exact hempty v (Nat.lt_succ_self v))
    refine hsteps.tail (.proceed ?_)
    have hmoves : (s.setPlace w (.stealing v)).setPlace w (.stealing (v + 1)) =
        s.setPlace w (.stealing (v + 1)) := by
      simp only [setPlace, setWorker, Function.update_self, Function.update_idem]
    rwa [hmoves] at hpass

/-- **Going on**: a worker finishes its task, takes one, steals one, or falls asleep. -/
theorem Represents.advance (h : Represents n p s) (ha : Accounted n s) (hopen : p.isOpen = true)
    {verdict : PoolTask → Option (Option TaskError)} (hadvance : advance verdict p w = some p') :
    ∃ t, ReflTransGen (Step n) s t ∧ Represents n p' t := by
  rw [Pool.advance] at hadvance
  split at hadvance
  · cases hadvance
  rename_i x hx
  have hw : w < n := by
    rw [← h.size]
    exact (List.getElem?_eq_some_iff.1 hx).1
  obtain ⟨hqueue, hplace⟩ := h.workers w x hx
  have hidle : x.current = none → (p.workers[w]?.getD {}).current = none := fun hcurrent => by
    rw [hx, Option.getD_some, hcurrent]
  split at hadvance
  · obtain ⟨e, -, rfl⟩ := Option.map_eq_some_iff.1 hadvance
    exact h.finish ha hw e
  rename_i hcurrent
  rw [hcurrent] at hplace
  split at hadvance
  · -- its own queue
    cases hadvance
    cases hx_queue : x.queue with
    | nil => simp_all
    | cons id rest =>
      have htake := Proceeds.take hw (Or.inl hplace) (hqueue.trans hx_queue)
      have hfirst : (p.workers[w]?.getD {}).queue = id :: rest := by
        rw [hx, Option.getD_some, hx_queue]
      obtain ⟨t, ht, hp⟩ := h.takeFrom ha hw hw (hidle hcurrent) hfirst
      have hmoves : (s.setQueue w rest).setPlace w (.holding id false) =
          s.setWorker w ⟨rest, .holding id false⟩ := by
        simp only [setPlace, setQueue, setWorker, Function.update_self, Function.update_idem]
      rw [hmoves] at ht
      exact ⟨t, .head (.proceed htake) ht, hp⟩
  rename_i hnonempty
  have hempty : (s.workers w).queue = [] := by
    rw [hqueue]
    simpa using hnonempty
  split at hadvance
  · cases hadvance
  split at hadvance
  · -- the queue of another
    rename_i v hfind
    cases hadvance
    obtain ⟨hfound, hmem, hbefore⟩ := List.find?_range_eq_some.1 hfind
    rw [List.mem_range, h.size] at hmem
    obtain ⟨hne, hfull⟩ : v ≠ w ∧ (s.workers v).queue ≠ [] := by
      simpa [h.queue_eq hmem] using hfound
    cases hv_queue : (s.workers v).queue with
    | nil => exact absurd hv_queue hfull
    | cons id rest =>
    have hround := exists_stealing hw hmem.le hplace hempty (h.isOpen.trans hopen) fun i hi => by
      have hpassed := hbefore i hi
      rw [h.queue_eq (hi.trans hmem)] at hpassed
      by_cases hiw : i = w
      · exact Or.inl hiw
      · exact Or.inr (by simpa [hiw] using hpassed)
    have hsteal := Proceeds.steal (s := s.setPlace w (.stealing v)) (i := v) hw
      (by rw [setPlace, setWorker_workers_self]) hmem hne
      (by rw [setPlace, setWorker_workers_of_ne s _ hne, hv_queue])
    have hmoves : ((s.setPlace w (.stealing v)).setQueue v rest).setPlace w (.holding id false) =
        (s.setQueue v rest).setPlace w (.holding id false) := by
      simp only [setPlace, setQueue, setWorker, Function.update_of_ne hne,
        Function.update_of_ne hne.symm, Function.update_self, Function.update_comm hne,
        Function.update_idem]
    rw [hmoves] at hsteal
    have hfirst : (p.workers[v]?.getD {}).queue = id :: rest := by
      rw [h.queue_eq hmem, hv_queue]
    obtain ⟨t, ht, hp⟩ := h.takeFrom ha hw hmem (hidle hcurrent) hfirst
    exact ⟨t, (hround.tail (.proceed hsteal)).trans ht, hp⟩
  · -- it falls asleep, and stands where it stood
    cases hadvance
    refine ⟨s, .refl, ?_⟩
    have hsame := h.modifyWorker w (f := fun x => { x with asleep := true }) (y := s.workers w)
      fun y hy => ⟨(h.workers w y hy).queue, (h.workers w y hy).place⟩
    rwa [setWorker, Function.update_eq_self] at hsame

/-- **Cancelling** a task. -/
theorem Represents.cancel (h : Represents n p s) (id : Nat) :
    ∃ t, ReflTransGen (Step n) s t ∧ Represents n (p.cancel id) t := by
  by_cases hid : id < s.submitted
  · refine ⟨_, .single (.cancel hid .cancelled), ?_⟩
    refine h.modifyTask id (f := fun t => { t with cancelled := true })
      (u := (s.tasks id).cancel .cancelled) (fun _ => rfl) (fun t ht => ?_) (h.runs_setTask rfl)
    obtain ⟨hcall, hresults, hcontext⟩ := h.tasks id t ht
    refine ⟨hcall, hresults, fun hnil => ?_⟩
    rw [Task.cancel, hcontext hnil]
    split <;> rfl
  · refine ⟨s, .refl, ?_⟩
    have hsame := h.modifyTask id (f := fun t => { t with cancelled := true }) (u := s.tasks id)
      (fun _ => rfl) (fun t ht => absurd (List.getElem?_eq_some_iff.1 ht).1 (h.submitted ▸ hid))
      (h.runs_setTask rfl)
    rwa [setTask, Function.update_eq_self] at hsame

/-- **Closing** the pool. -/
theorem Represents.close (h : Represents n p s) (ha : Accounted n s) :
    ∃ t, ReflTransGen (Step n) s t ∧ Represents n p.close t := by
  have hasked : (s.closings ++ [Closing.asked])[s.closings.length]? = some .asked := by simp
  cases hopen : s.isOpen with
  | false =>
    exact ⟨_, .tail (.single .close) (.proceed (.leave hasked hopen)), h.size, h.workers, h.ids,
      h.tasks, h.submitted, hopen, h.ran⟩
  | true =>
    refine ⟨_, .tail (.single .close) (.proceed (.stop hasked hopen fun id => ?_)),
      h.size, h.workers,
      h.ids, h.tasks, h.submitted, rfl, h.ran⟩
    by_cases hid : id < p.tasks.length
    · rw [(h.tasks id _ (List.getElem?_eq_getElem hid)).call]
      rfl
    · rw [ha.ahead id (by rw [h.submitted]; omega)]
      rfl

/-! ## The shortest queue -/

/-- The first of `n` queues that are not longer than any other. -/
structure IsShortest (load : Nat → Nat) (n w : Nat) : Prop where
  lt : w < n
  le : ∀ v < n, load w ≤ load v
  first : ∀ v < w, load w < load v

theorem IsShortest.eq {load : Nat → Nat} {v : Nat} (hw : IsShortest load n w)
    (hv : IsShortest load n v) : w = v := by
  rcases Nat.lt_trichotomy w v with hlt | heq | hlt
  · exact absurd (hv.first w hlt) (Nat.not_lt.2 (hw.le v hv.lt))
  · exact heq
  · exact absurd (hw.first v hlt) (Nat.not_lt.2 (hv.le w hw.lt))

theorem IsShortest.congr {load load' : Nat → Nat} (hw : IsShortest load n w)
    (heq : ∀ v < n, load v = load' v) : IsShortest load' n w where
  lt := hw.lt
  le v hv := by
    rw [← heq v hv, ← heq w hw.lt]
    exact hw.le v hv
  first v hv := by
    rw [← heq v (hv.trans hw.lt), ← heq w hw.lt]
    exact hw.first v hv

/-- The pool takes the shortest queue. -/
theorem isShortest_shortest (hn : 0 < p.workers.length) :
    IsShortest p.load p.workers.length p.shortest := by
  have hload : ∀ (v : Nat) (hv : v < p.workers.length),
      p.load v = p.workers[v].queue.length := fun v hv => by
    rw [load, List.getElem?_eq_getElem hv, Option.getD_some]
  rw [shortest]
  generalize hleast : p.workers.foldl _ _ = least
  obtain ⟨hmem, hle⟩ : least ∈ p.workers.map (fun x => x.queue.length) ∧
      ∀ m ∈ p.workers.map (fun x => x.queue.length), least ≤ m := by
    cases hworkers : p.workers with
    | nil => simp [hworkers] at hn
    | cons x rest =>
      rw [hworkers, List.head?_cons, Option.map_some, Option.getD_some, List.foldl_cons,
        Nat.min_self, ← List.foldl_map (f := fun x : PoolWorker => x.queue.length) (g := min)]
        at hleast
      exact List.min?_eq_some_iff.1 (List.min?_cons'.trans (congrArg some hleast))
  obtain ⟨x, hx, hlength⟩ := List.mem_map.1 hmem
  cases hfind : p.workers.findIdx? fun w => w.queue.length = least with
  | none => simpa [hlength] using List.findIdx?_eq_none_iff.1 hfind x hx
  | some w =>
    obtain ⟨hw, hfound, hbefore⟩ := List.findIdx?_eq_some_iff_getElem.1 hfind
    rw [Option.getD_some]
    have hfound : p.load w = least := (hload w hw).trans (of_decide_eq_true hfound)
    have hle : ∀ v < p.workers.length, least ≤ p.load v := fun v hv => by
      rw [hload v hv]
      exact hle _ (List.mem_map_of_mem (List.getElem_mem hv))
    refine ⟨hw, fun v hv => hfound.trans_le (hle v hv), fun v hv => ?_⟩
    have hne := hbefore v hv
    rw [decide_eq_true_eq, ← hload v (hv.trans hw)] at hne
    rw [hfound]
    exact Nat.lt_of_le_of_ne (hle v (hv.trans hw)) (Ne.symm hne)

/-- **A submission that compares** the queues chooses the shortest, if nobody comes in between. -/
theorem exists_sending {i best least : Nat} (hcall : (s.tasks id).call = .scanning i best least)
    (hi : i ≤ n) (hbest : IsShortest (fun w => (s.workers w).queue.length) i best)
    (hleast : least = (s.workers best).queue.length) :
    ∃ b, IsShortest (fun w => (s.workers w).queue.length) n b ∧
      ReflTransGen (Step n) s (s.setTask id ((s.tasks id).goOn (.sending b))) := by
  -- by the number of queues that are left; `best` is the shortest of those before
  obtain ⟨m, rfl⟩ := Nat.exists_eq_add_of_le hi
  clear hi
  induction m generalizing s i best least with
  | zero => exact ⟨best, hbest, .single (.proceed (.choose hcall (Nat.le_refl i)))⟩
  | succ m ih =>
    have hcompare := Proceeds.compare hcall (n := i + (m + 1)) (by omega)
    rw [hleast] at hcompare
    generalize hnext : (if (s.workers i).queue.length < (s.workers best).queue.length
      then Call.scanning (i + 1) i (s.workers i).queue.length
      else .scanning (i + 1) best (s.workers best).queue.length) = next at hcompare
    obtain ⟨b', rfl, hb'⟩ : ∃ b', next = .scanning (i + 1) b' (s.workers b').queue.length ∧
        IsShortest (fun w => (s.workers w).queue.length) (i + 1) b' := by
      by_cases hlt : (s.workers i).queue.length < (s.workers best).queue.length
      · rw [if_pos hlt] at hnext
        refine ⟨i, hnext.symm, Nat.lt_succ_self i, fun v hv => ?_, fun v hv => ?_⟩
        · rcases Nat.lt_succ_iff_lt_or_eq.1 hv with hv | rfl
          · exact hlt.le.trans (hbest.le v hv)
          · exact Nat.le_refl _
        · exact hlt.trans_le (hbest.le v hv)
      · rw [if_neg hlt] at hnext
        refine ⟨best, hnext.symm, hbest.lt.trans (Nat.lt_succ_self i), fun v hv => ?_, hbest.first⟩
        rcases Nat.lt_succ_iff_lt_or_eq.1 hv with hv | rfl
        · exact hbest.le v hv
        · exact Nat.not_lt.1 hlt
    obtain ⟨b, hb, hsteps⟩ := ih (s := s.setTask id ((s.tasks id).goOn
      (.scanning (i + 1) b' (s.workers b').queue.length)))
      (by rw [setTask_tasks_self, Task.goOn_call]; rfl) hb' rfl
    rw [show i + 1 + m = i + (m + 1) by omega] at hb hsteps
    refine ⟨b, hb, .head (.proceed hcompare) ?_⟩
    have hmoves : ∀ c c', (s.setTask id ((s.tasks id).goOn c)).setTask id
        (((s.setTask id ((s.tasks id).goOn c)).tasks id).goOn c') =
        s.setTask id ((s.tasks id).goOn c') := fun c c' => by
      simp only [setTask, Function.update_self, Function.update_idem, Task.goOn]
    rwa [hmoves] at hsteps

/-- **A task goes to the shortest queue**, if there is room and nobody comes in between. -/
theorem exists_enqueued (hn : 0 < n) (hopen : s.isOpen = true) (context : Option TaskError)
    (hw : IsShortest (fun w => (s.workers w).queue.length) n w)
    (hroom : (s.workers w).queue.length < capacity n) :
    ReflTransGen (Step n) s { (s.setQueue w ((s.workers w).queue ++ [s.submitted])).setTask
      s.submitted { call := .returned, accepted := true, context } with
      submitted := s.submitted + 1 } := by
  let s₀ := s.submit context
  have htask : s₀.tasks s.submitted = { call := .asked, late := !s.isOpen, context } :=
    setTask_tasks_self ..
  have hcall : (s₀.tasks s.submitted).call = .asked := by rw [htask]
  let s₁ := s₀.setTask s.submitted ((s₀.tasks s.submitted).accept (s₀.workers 0).queue.length)
  have hscanning : (s₁.tasks s.submitted).call = .scanning 1 0 (s₀.workers 0).queue.length := by
    rw [setTask_tasks_self]
    rfl
  obtain ⟨b, hb, hscan⟩ := exists_sending (n := n) hscanning hn
    ⟨Nat.zero_lt_one, fun v hv => by rw [Nat.lt_one_iff.1 hv], fun v hv => by omega⟩ rfl
  obtain rfl : b = w := hb.eq hw
  let s₂ := s₁.setTask s.submitted ((s₁.tasks s.submitted).goOn (.sending b))
  have hsend := Proceeds.send (n := n) (s := s₂) (k := s.submitted) (w := b)
    (by rw [setTask_tasks_self, Task.goOn_call]) hroom
  have hsteps := ((ReflTransGen.single (.submit context)).tail
    (.proceed (.accept (n := n) hcall hopen))).trans hscan |>.tail (.proceed hsend)
  convert hsteps using 1
  simp only [s₂, s₁, s₀, PoolTraffic.submit, setTask, setQueue, setWorker, Function.update_self,
    Function.update_idem, Task.goOn, Task.accept, hopen, Bool.not_true]

/-- **Submitting** a task. -/
theorem Represents.submit (hn : 0 < n) (h : Represents n p s)
    (ha : Accounted n s) (cancelled : Bool)
    (hroom : p.isOpen = true → p.load p.shortest < capacity n) :
    ∃ t, ReflTransGen (Step n) s t ∧ Represents n (p.submit p.tasks.length cancelled) t := by
  have hnew := ha.ahead s.submitted (Nat.le_refl _)
  let context : Option TaskError := if cancelled then some .cancelled else none
  rw [Pool.submit]
  split
  · rename_i hopen
    have hshortest := isShortest_shortest (p := p) (by rw [h.size]; exact hn)
    rw [h.size] at hshortest
    have hroom := hroom hopen
    rw [h.load_eq hshortest.lt] at hroom
    refine ⟨_, exists_enqueued hn (h.isOpen.trans hopen) context
      (hshortest.congr fun v hv => h.load_eq hv) hroom, ?_⟩
    have htaken := h.modifyWorker p.shortest
      (f := fun x => { x with queue := x.queue ++ [p.tasks.length] })
      (y := ⟨(s.workers p.shortest).queue ++ [s.submitted], (s.workers p.shortest).place⟩)
      fun x hx => by
        obtain ⟨hqueue, hplace⟩ := h.workers _ x hx
        exact ⟨by rw [hqueue, h.submitted], hplace⟩
    exact htaken.append (x := ⟨p.tasks.length, cancelled, .queued⟩)
      (u := { call := .returned, accepted := true, context }) rfl ⟨rfl, rfl, fun _ => rfl⟩
      (congrArg PoolTraffic.Task.runs hnew).symm
  · rename_i hclosed
    have hclosed : s.isOpen = false := by simpa [h.isOpen] using hclosed
    let s₀ := s.submit context
    have htask : s₀.tasks s.submitted = { call := .asked, late := !s.isOpen, context } :=
      setTask_tasks_self ..
    have hrefuse := Proceeds.refuse (n := n) (s := s₀) (k := s.submitted) (by rw [htask]) hclosed
    refine ⟨_, .head (.submit context) (.single (.proceed hrefuse)), ?_⟩
    have happend := h.append (x := ⟨p.tasks.length, cancelled, .finished (some .poolClosed)⟩)
      (u := (s₀.tasks s.submitted).refuse) rfl (by
        rw [htask]
        exact ⟨rfl, rfl, fun hnil => (by cases hnil)⟩) (by rw [htask, hnew]; rfl)
    convert happend using 1
    simp only [s₀, PoolTraffic.submit, setTask, Function.update_idem]

/-- **Every run of the operations** is a run of the traffic. -/
theorem Run.exists_represents (hn : 0 < n) (h : Run n p) :
    ∃ s, Reachable n s ∧ Represents n p s := by
  induction h with
  | new => exact ⟨{}, .refl, represents_new n⟩
  | submit _ cancelled hroom ih =>
    obtain ⟨s, hs, hp⟩ := ih
    obtain ⟨t, ht, hp⟩ := hp.submit hn (hs.accounted hn) cancelled hroom
    exact ⟨t, hs.trans ht, hp⟩
  | cancel _ id ih =>
    obtain ⟨s, hs, hp⟩ := ih
    obtain ⟨t, ht, hp⟩ := hp.cancel id
    exact ⟨t, hs.trans ht, hp⟩
  | advance _ hopen hadvance ih =>
    obtain ⟨s, hs, hp⟩ := ih
    obtain ⟨t, ht, hp⟩ := hp.advance (hs.accounted hn) hopen hadvance
    exact ⟨t, hs.trans ht, hp⟩
  | close _ ih =>
    obtain ⟨s, hs, hp⟩ := ih
    obtain ⟨t, ht, hp⟩ := hp.close (hs.accounted hn)
    exact ⟨t, hs.trans ht, hp⟩

/-- **No task is begun twice.** -/
theorem Run.nodup_ran (hn : 0 < n) (h : Run n p) : p.ran.Nodup := by
  obtain ⟨s, hs, hp⟩ := h.exists_represents hn
  refine List.nodup_iff_count_le_one.2 fun id => ?_
  rw [hp.ran]
  exact (hs.intact hn).runs_le id

end

end Pool

end KernelGraph
