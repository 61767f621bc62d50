/-
  Draining the pools.

  `Wired` says how the parts of the machine hang together: a task is in one pool at most, the calls
  of the program cache are those of the tasks that workers have taken, and each asks for the program
  of its task's job.  While compilers are not held, some worker can then go on as long as any pool
  has a task, and every step leaves less to do.  So draining ends with idle workers, and the fuel of
  `drain` suffices.
-/
import Mathlib.Data.List.Perm.Basic
import KernelGraph.Proofs.Program
import KernelGraph.Proofs.Session.Machine
import KernelGraph.Proofs.Session.Schedule
import KernelGraph.Proofs.Session.Steps

namespace KernelGraph.Session

/-! ## Tasks in pools -/

/-- The tasks that are in pools. -/
def live (s : Session) : List Nat := s.pools.toList.flatMap CompilePool.ids

/-- The tasks that workers have taken. -/
def taken (s : Session) : List Nat := s.pools.toList.flatMap fun x => x.current.toList

/-- The tasks that wait in queues. -/
def queued (s : Session) : List Nat := s.pools.toList.flatMap CompilePool.queue

/-- What changes when one pool does. -/
theorem exists_flatMap_modify {α β : Type} {xs : Array α} {i : Nat} {x : α} (h : xs[i]? = some x)
    (f : α → α) (m : α → List β) : ∃ l r, xs.toList.flatMap m = l ++ m x ++ r ∧
      (xs.modify i f).toList.flatMap m = l ++ m (f x) ++ r := by
  obtain ⟨hi, hx⟩ := Array.getElem?_eq_some_iff.1 h
  have hlt : i < xs.toList.length := hi
  have hget : xs.toList[i] = x := hx
  have hsplit : xs.toList = xs.toList.take i ++ x :: xs.toList.drop (i + 1) := by
    rw [← hget, List.getElem_cons_drop, List.take_append_drop]
  refine ⟨(xs.toList.take i).flatMap m, (xs.toList.drop (i + 1)).flatMap m, ?_, ?_⟩
  · conv_lhs => rw [hsplit]
    rw [List.flatMap_append, List.flatMap_cons, List.append_assoc]
  · rw [Array.toList_modify, List.modify_eq_take_cons_drop hlt, hget, List.flatMap_append,
      List.flatMap_cons, List.append_assoc]

theorem flatMap_modify_of_eq {α β : Type} (xs : Array α) (i : Nat) {f : α → α} {m : α → List β}
    (hf : ∀ x, m (f x) = m x) : (xs.modify i f).toList.flatMap m = xs.toList.flatMap m := by
  rw [List.flatMap_def, List.flatMap_def]
  congr 1
  apply List.ext_getElem?
  intro k
  simp only [List.getElem?_map, Array.getElem?_toList, Array.getElem?_modify]
  split
  · rw [Option.map_map]
    congr 1
    funext x
    exact hf x
  · rfl

theorem modify_of_none {α : Type} {xs : Array α} {i : Nat} (h : xs[i]? = none) (f : α → α) :
    xs.modify i f = xs := by
  apply Array.ext_getElem?
  intro k
  rw [Array.getElem?_modify]
  split
  · rename_i hk
    rw [← hk, h]
    rfl
  · rfl

section
variable {s s' : Session} {p id : Nat} {pool : CompilePool}

theorem taken_append_queued (s : Session) : (s.taken ++ s.queued).Perm s.live :=
  List.flatMap_append_perm _ _ _

theorem mem_live {id : Nat} : id ∈ s.live ↔ ∃ pool ∈ s.pools, id ∈ pool.ids := by
  unfold live
  simp only [List.mem_flatMap, Array.mem_toList_iff]

theorem mem_taken {id : Nat} : id ∈ s.taken ↔ ∃ pool ∈ s.pools, pool.current = some id := by
  unfold taken
  simp only [List.mem_flatMap, Array.mem_toList_iff, Option.mem_toList]

theorem taken_subset_live (h : id ∈ s.taken) : id ∈ s.live :=
  (taken_append_queued s).subset (List.mem_append_left _ h)

theorem current_mem_live (hpool : s.pools[p]? = some pool) (hcurrent : pool.current = some id) :
    id ∈ s.live := by
  refine mem_live.2 ⟨pool, Array.mem_of_getElem? hpool, ?_⟩
  rw [CompilePool.ids, hcurrent]
  exact List.mem_cons_self ..

theorem queue_mem_live {rest : List Nat} (hpool : s.pools[p]? = some pool)
    (hqueue : pool.queue = id :: rest) : id ∈ s.live := by
  refine mem_live.2 ⟨pool, Array.mem_of_getElem? hpool, ?_⟩
  rw [CompilePool.ids, hqueue]
  exact List.mem_append_right _ (List.mem_cons_self ..)

theorem ids_of_live_eq_nil (h : s.live = []) (hpool : pool ∈ s.pools) : pool.ids = [] := by
  rw [List.eq_nil_iff_forall_not_mem]
  intro id hid
  have hlive : id ∈ s.live := mem_live.2 ⟨pool, hpool, hid⟩
  rw [h] at hlive
  cases hlive

/-- Pools that hold no task are idle. -/
theorem idle_of_live_eq_nil (h : s.live = []) :
    ∀ pool ∈ s.pools, pool.queue = [] ∧ pool.current = none := by
  intro pool hpool
  have hids := ids_of_live_eq_nil h hpool
  rw [CompilePool.ids, List.append_eq_nil_iff] at hids
  exact ⟨hids.2, Option.toList_eq_nil_iff.1 hids.1⟩

/-- A task that a worker takes from its queue stays in the pool. -/
theorem live_begin {rest : List Nat} (hpool : s.pools[p]? = some pool)
    (hfree : pool.current = none) (hqueue : pool.queue = id :: rest) :
    (s.modifyPool p fun x => { x with queue := rest, current := some id }).live = s.live := by
  obtain ⟨l, r, hold, hnew⟩ := exists_flatMap_modify hpool
    (fun x => { x with queue := rest, current := some id }) CompilePool.ids
  rw [live, live, hold, CompilePool.ids, hfree, hqueue]
  exact hnew

/-- A worker that is free again has lost its task, and only that. -/
theorem mem_live_free (hnodup : s.live.Nodup) (hpool : s.pools[p]? = some pool)
    (hcurrent : pool.current = some id) {i : Nat} :
    i ∈ (s.modifyPool p fun x => { x with current := none }).live ↔ i ∈ s.live ∧ i ≠ id := by
  obtain ⟨l, r, hold, hnew⟩ := exists_flatMap_modify hpool
    (fun x => { x with current := none }) CompilePool.ids
  have hlive : s.live = l ++ id :: (pool.queue ++ r) := by
    rw [live, hold, CompilePool.ids, hcurrent]
    simp
  have hlive' : (s.modifyPool p fun x => { x with current := none }).live =
      l ++ (pool.queue ++ r) := by
    rw [← List.append_assoc]
    exact hnew
  rw [hlive] at hnodup ⊢
  rw [hlive']
  rw [List.nodup_middle, List.nodup_cons] at hnodup
  simp only [List.mem_append, List.mem_cons]
  constructor
  · intro hi
    refine ⟨by tauto, ?_⟩
    rintro rfl
    exact hnodup.1 (by simpa using hi)
  · tauto

/-! ## The machine in order -/

/-- The parts of the machine hang together. -/
structure Wired (s : Session) : Prop where
  lt : ∀ id ∈ s.live, id < s.tasks.size
  nodup : s.live.Nodup
  calls : (s.cache.calls.map Call.id).Perm s.taken
  flies : s.cache.Flies []
  keys : ∀ l ∈ s.cache.labels, ∀ t, s.tasks[l.1]? = some t → l.2 = jobKey t.job
  programs : s.cache.programs.Holds fun k q => q.hashKey = k.hashKey

theorem wired_start (files : FileStore) (scripts : List Script) (limit : Int) :
    Wired { files, scripts, cache := .empty limit } where
  lt id h := by cases h
  nodup := .nil
  calls := .nil
  flies := ⟨.nil, fun f hf => (by cases hf), fun x hx => (by cases hx), fun x hx => by cases hx⟩
  keys l hl := by cases hl
  programs := Lru.holds_empty _

theorem Wired.of_eq (h : s.Wired) (htasks : s'.tasks = s.tasks) (hpools : s'.pools = s.pools)
    (hcache : s'.cache = s.cache) : s'.Wired where
  lt id hid := by
    rw [live, hpools] at hid
    rw [htasks]
    exact h.lt id hid
  nodup := by
    rw [live, hpools]
    exact h.nodup
  calls := by
    rw [taken, hpools, hcache]
    exact h.calls
  flies := hcache ▸ h.flies
  keys l hl t ht := by
    rw [hcache] at hl
    rw [htasks] at ht
    exact h.keys l hl t ht
  programs := hcache ▸ h.programs

theorem Wired.same (h : s.Wired) (hs : s.SameMachine s') : s'.Wired :=
  h.of_eq hs.tasks hs.pools hs.cache

/-- Tasks are marked; their jobs stay. -/
theorem Wired.modifyTask (h : s.Wired) (id : Nat) {f : CompileTask → CompileTask}
    (hf : ∀ t, (f t).job = t.job) : (s.modifyTask id f).Wired where
  lt i hi := by
    show i < (s.tasks.modify id f).size
    rw [Array.size_modify]
    exact h.lt i hi
  nodup := h.nodup
  calls := h.calls
  flies := h.flies
  keys l hl t ht := by
    have hmodified : (s.tasks.modify id f)[l.1]? = some t := ht
    rw [Array.getElem?_modify] at hmodified
    split at hmodified
    · obtain ⟨t', ht', rfl⟩ := Option.map_eq_some_iff.1 hmodified
      rw [hf]
      exact h.keys l hl t' ht'
    · exact h.keys l hl t hmodified
  programs := h.programs

theorem Wired.task (h : s.Wired) (hid : id ∈ s.live) : ∃ t, s.tasks[id]? = some t :=
  ⟨_, Array.getElem?_eq_getElem (h.lt id hid)⟩

/-- A task that a worker has taken has a call. -/
theorem Wired.call (h : s.Wired) (hid : id ∈ s.taken) : ∃ x, s.cache.call? id = some x := by
  obtain ⟨x, hx, rfl⟩ := List.mem_map.1 (h.calls.mem_iff.2 hid)
  exact ProgramCache.exists_call? hx

/-- The program of a job has the key of its build. -/
theorem hashKey_of_compileJob {j : Job} {q : Program} (h : (s.compileJob j).1 = .ok q) :
    q.hashKey = j.build.hashKey := by
  unfold Session.compileJob at h
  split at h
  · cases h
  · exact (Program.compile_ok h).2.2.2.1

theorem hashKey_of_outcome {t : CompileTask} {q : Program} (h : s.outcome t = .ok q) :
    q.hashKey = t.job.build.hashKey := by
  unfold Session.outcome at h
  split at h
  · cases h
  · exact hashKey_of_compileJob h

/-! ### Steps of workers -/

/-- A task leaves a pool that no worker has taken. -/
theorem Wired.skip (h : s.Wired) {rest : List Nat} (hpool : s.pools[p]? = some pool)
    (hfree : pool.current = none) (hqueue : pool.queue = id :: rest) :
    (s.modifyPool p fun x => { x with queue := rest, current := none }).Wired := by
  obtain ⟨l, r, hold, hnew⟩ := exists_flatMap_modify hpool
    (fun x => { x with queue := rest, current := none }) CompilePool.ids
  obtain ⟨l', r', hold', hnew'⟩ := exists_flatMap_modify hpool
    (fun x => { x with queue := rest, current := none }) fun x => x.current.toList
  have hsub : (s.modifyPool p fun x => { x with queue := rest, current := none }).live.Sublist
      s.live := by
    rw [live, live, hold, CompilePool.ids, hfree, hqueue]
    show ((s.pools.modify p fun x => { x with queue := rest, current := none }).toList.flatMap
      CompilePool.ids).Sublist _
    rw [hnew]
    exact ((List.Sublist.refl l).append (List.sublist_cons_self id rest)).append (.refl r)
  refine ⟨fun i hi => h.lt i (hsub.subset hi), h.nodup.sublist hsub, h.calls.trans (.of_eq ?_),
    h.flies, h.keys, h.programs⟩
  rw [taken, hold', hfree]
  exact hnew'.symm

/-- A worker takes the next task of its queue and asks for its program. -/
theorem Wired.begin (h : s.Wired) {rest : List Nat} {t : CompileTask}
    (hpool : s.pools[p]? = some pool) (hfree : pool.current = none)
    (hqueue : pool.queue = id :: rest) (htask : s.tasks[id]? = some t) :
    Wired { s with
      cache := s.cache.begin id (jobKey t.job)
      pools := s.pools.modify p fun x => { x with queue := rest, current := some id } } := by
  obtain ⟨l', r', hold', hnew'⟩ := exists_flatMap_modify hpool
    (fun x => { x with queue := rest, current := some id }) fun x => x.current.toList
  have hlive : live { s with
      cache := s.cache.begin id (jobKey t.job)
      pools := s.pools.modify p fun x => { x with queue := rest, current := some id } } =
        s.live := live_begin hpool hfree hqueue
  -- the task waited in a queue, so it has no call
  have hfresh : id ∉ s.cache.calls.map Call.id := by
    intro hid
    have hnodup := (taken_append_queued s).nodup_iff.2 h.nodup
    have hqueued : id ∈ s.queued := List.mem_flatMap.2
      ⟨pool, Array.mem_toList_iff.2 (Array.mem_of_getElem? hpool), by rw [hqueue]; simp⟩
    exact (List.nodup_append.1 hnodup).2.2 id (h.calls.mem_iff.1 hid) id hqueued rfl
  refine ⟨fun i hi => h.lt i (hlive ▸ hi), hlive ▸ h.nodup, ?_, h.flies.begin hfresh _,
    fun x hx t' ht' => ?_, ProgramCache.holds_begin h.programs _ _⟩
  · have hids : (s.cache.begin id (jobKey t.job)).calls.map Call.id =
        s.cache.calls.map Call.id ++ [id] := by
      rw [ProgramCache.map_id_calls, ProgramCache.labels_begin, List.map_append,
        ← ProgramCache.map_id_calls]
      rfl
    have hsame : s.taken = l' ++ [] ++ r' := by rw [taken, hold', hfree]; rfl
    have hperm : (s.cache.calls.map Call.id ++ [id]).Perm (l' ++ [id] ++ r') := by
      refine (h.calls.append_right [id]).trans ?_
      rw [hsame, List.append_nil, List.append_assoc, List.append_assoc]
      exact List.perm_append_comm.append_left l'
    rw [← hids] at hperm
    exact hperm.trans (.of_eq hnew'.symm)
  · rw [ProgramCache.labels_begin] at hx
    rcases List.mem_append.1 hx with hx | hx
    · exact h.keys x hx t' ht'
    · cases List.mem_singleton.1 hx
      cases htask.symm.trans ht'
      rfl

/-- The worker of a task whose call has come back is free again, and the call is forgotten. -/
theorem Wired.forget (h : s.Wired) {r : Except (CallError ProgramError) (Program × Bool)}
    (hpool : s.pools[p]? = some pool) (hcurrent : pool.current = some id)
    (hresult : s.cache.result? id = some r) :
    Wired { s with
      cache := s.cache.forget id
      pools := s.pools.modify p fun x => { x with current := none } } := by
  obtain ⟨l, r, hold, hnew⟩ := exists_flatMap_modify hpool
    (fun x => { x with current := none }) CompilePool.ids
  obtain ⟨l', r', hold', hnew'⟩ := exists_flatMap_modify hpool
    (fun x => { x with current := none }) fun x => x.current.toList
  have hsub : (live { s with
      cache := s.cache.forget id
      pools := s.pools.modify p fun x => { x with current := none } }).Sublist s.live := by
    rw [live, live, hold, CompilePool.ids, hcurrent]
    show ((s.pools.modify p fun x => { x with current := none }).toList.flatMap
      CompilePool.ids).Sublist _
    rw [hnew]
    exact ((List.Sublist.refl l).append (List.sublist_cons_self id _)).append (.refl r)
  refine ⟨fun i hi => h.lt i (hsub.subset hi), h.nodup.sublist hsub, ?_, h.flies.forget hresult,
    fun x hx => ?_, h.programs⟩
  · -- no other task has this id
    have hids : (s.cache.forget id).calls.map Call.id =
        (s.cache.calls.map Call.id).filter fun i => i ≠ id := by
      rw [ProgramCache.map_id_calls, ProgramCache.map_id_calls, ProgramCache.labels_forget,
        List.filter_map]
      rfl
    have hsame : s.taken = l' ++ id :: r' := by
      rw [taken, hold', hcurrent, List.append_assoc]
      rfl
    have hnodup : (l' ++ id :: r').Nodup := by
      rw [← hsame, ← h.calls.nodup_iff]
      exact h.flies.nodup
    have hrest : (l' ++ id :: r').filter (fun i => decide (i ≠ id)) = l' ++ r' := by
      rw [List.nodup_middle, List.nodup_cons] at hnodup
      have hne : ∀ i ∈ l' ++ r', decide (i ≠ id) = true :=
        fun i hi => decide_eq_true fun heq => hnodup.1 (heq ▸ hi)
      have hall := List.filter_eq_self.2 hne
      rw [List.filter_append] at hall ⊢
      rw [List.filter_cons, if_neg (by simp), hall]
    have hperm := h.calls.filter fun i => decide (i ≠ id)
    rw [hsame, hrest, ← hids] at hperm
    refine hperm.trans (.of_eq ?_)
    rw [taken, hnew', List.append_assoc]
    rfl
  · rw [ProgramCache.labels_forget] at hx
    exact h.keys x (List.mem_of_mem_filter hx)

/-- The compile of a task comes back. -/
theorem Wired.compile (h : s.Wired) {t : CompileTask} (htask : s.tasks[id]? = some t)
    (hleading : s.cache.isLeading id = true) : (s.runCompile id t).Wired := by
  obtain ⟨call, hcall, hphase⟩ := ProgramCache.mem_of_isLeading hleading
  obtain ⟨calls, log, heq⟩ := runCompile_eq s id t
  rw [heq]
  obtain ⟨hflies, hlabels, _⟩ :=
    h.flies.compiled ProgramError.isCancelled (s.outcome t) hcall hphase
  refine ⟨h.lt, h.nodup, ?_, hflies, fun l hl => h.keys l (hlabels ▸ hl), ?_⟩
  · show ((s.cache.compiled _ id (s.outcome t)).calls.map Call.id).Perm _
    rw [ProgramCache.map_id_calls, hlabels, ← ProgramCache.map_id_calls]
    exact h.calls
  · refine ProgramCache.holds_compiled h.programs hcall fun q hq => ?_
    obtain ⟨hmem, rfl⟩ := ProgramCache.mem_of_call? hcall
    have hkey : call.key = jobKey t.job :=
      h.keys call.label (List.mem_map.2 ⟨call, hmem, rfl⟩) t htask
    rw [hkey]
    exact hashKey_of_outcome hq

/-- **A step of a worker** keeps the machine in order. -/
theorem Wired.advances (h : s.Wired) (hs : Advances s p s') : s'.Wired := by
  cases hs with
  | dropped hpool _ hqueue hnone =>
    obtain ⟨t, ht⟩ := h.task (queue_mem_live hpool hqueue)
    rw [hnone] at ht
    cases ht
  | @skipped pool id rest t hpool hfree hqueue _ _ =>
    exact (h.skip hpool hfree hqueue).modifyTask id fun _ => rfl
  | begun hpool hfree hqueue htask _ => exact h.begin hpool hfree hqueue htask
  | @completed pool id t returned hpool hcurrent _ hresult =>
    have hforgotten := (h.forget hpool hcurrent hresult).modifyTask id
      (f := fun t => { t with done := true }) fun _ => rfl
    exact hforgotten.same (.comes (completeJob_comes _ t.job returned))
  | @entered pool id t _ _ _ _ _ =>
    refine Wired.same (h.modifyTask id (f := fun t => { t with entered := true }) fun _ => rfl) ?_
    unfold Session.countCalls
    split
    · exact .refl _
    · exact ⟨rfl, rfl, rfl, rfl, fun _ => rfl, fun h => h⟩
  | compiled _ _ htask hleading => exact h.compile htask hleading

/-! ## Less and less to do -/

/-- What the workers have still to do. -/
def load (s : Session) : Nat := 3 * s.queued.length + s.cache.weight

theorem load_of_same (hs : s.SameMachine s') : s'.load = s.load := by
  rw [load, load, queued, queued, hs.pools, hs.cache]

/-- **A step of a worker** leaves less to do, while compilers are not held. -/
theorem Wired.load_lt (h : s.Wired) (hheld : s.held = false) (hs : Advances s p s') :
    s'.load < s.load := by
  have hqueued :
      ∀ {pool : CompilePool} {id : Nat} {rest : List Nat} (f : CompilePool → CompilePool),
      s.pools[p]? = some pool → pool.queue = id :: rest → (f pool).queue = rest →
      ((s.pools.modify p f).toList.flatMap CompilePool.queue).length + 1 = s.queued.length := by
    intro pool id rest f hpool hqueue hf
    obtain ⟨l, r, hold, hnew⟩ := exists_flatMap_modify hpool f CompilePool.queue
    rw [queued, hold, hnew, hf, hqueue]
    simp only [List.length_append, List.length_cons]
    omega
  cases hs with
  | dropped hpool _ hqueue _ =>
    have hlen := hqueued (fun x => { x with queue := _ }) hpool hqueue rfl
    unfold load queued at *
    dsimp only
    omega
  | skipped hpool _ hqueue _ _ =>
    have hlen := hqueued (fun x => { x with queue := _, current := none }) hpool hqueue rfl
    unfold load queued at *
    dsimp only
    omega
  | @begun pool id rest t hpool _ hqueue _ _ =>
    have hlen := hqueued (fun x => { x with queue := _, current := some id }) hpool hqueue rfl
    have hweight := ProgramCache.weight_begin_le s.cache id (jobKey t.job)
    unfold load queued at *
    dsimp only
    omega
  | @completed pool id t returned hpool hcurrent _ hresult =>
    rw [load_of_same (.comes (completeJob_comes _ t.job returned))]
    obtain ⟨l, r, hold, hnew⟩ := exists_flatMap_modify hpool
      (fun x => { x with current := none }) CompilePool.queue
    have hweight := ProgramCache.weight_forget_lt hresult
    unfold load queued
    rw [hold]
    dsimp only
    rw [hnew]
    exact Nat.add_lt_add_left hweight _
  | entered _ _ _ _ hwaits =>
    unfold Session.waitsForRelease at hwaits
    rw [hheld] at hwaits
    cases hwaits
  | @compiled pool id t _ _ _ hleading =>
    obtain ⟨call, hcall, hphase⟩ := ProgramCache.mem_of_isLeading hleading
    obtain ⟨calls, log, heq⟩ := runCompile_eq s id t
    obtain ⟨_, _, hweight⟩ :=
      h.flies.compiled ProgramError.isCancelled (s.outcome t) hcall hphase
    rw [heq]
    unfold load queued
    dsimp only
    omega

/-- There is less to do than three steps for every task. -/
theorem Wired.load_le (h : s.Wired) : s.load ≤ 3 * s.tasks.size := by
  have hlength : s.live.length ≤ s.tasks.size := by
    have hsub : s.live.Subperm (List.range s.tasks.size) :=
      List.subperm_of_subset h.nodup fun id hid => List.mem_range.2 (h.lt id hid)
    simpa using hsub.length_le
  have hsplit := (taken_append_queued s).length_eq
  rw [List.length_append] at hsplit
  have hcalls := h.calls.length_eq
  rw [List.length_map] at hcalls
  have hweight : s.cache.weight ≤ s.cache.calls.length * 2 := by
    have hle := List.sum_le_card_nsmul (s.cache.calls.map Call.weight) 2 (by simp [Call.weight_le])
    rw [List.length_map] at hle
    exact hle
  unfold load
  omega

/-! ## Draining -/

/-- **Someone can go on** as long as a pool has a task. -/
theorem Wired.live_eq_nil (h : s.Wired) (hheld : s.held = false)
    (hnone : ∀ p < s.pools.size, s.advance p = none) : s.live = [] := by
  have hpools : ∀ pool ∈ s.pools, ∃ p, s.pools[p]? = some pool ∧ s.advance p = none := by
    intro pool hpool
    obtain ⟨p, hp⟩ := Array.mem_iff_getElem?.1 hpool
    exact ⟨p, hp, hnone p (Array.getElem?_eq_some_iff.1 hp).1⟩
  -- a worker that has taken a task waits for the flight of another one
  have hjoined : ∀ x ∈ s.cache.calls, x.phase = .joined := by
    intro x hx
    have hid : x.id ∈ s.taken := h.calls.mem_iff.1 (List.mem_map.2 ⟨x, hx, rfl⟩)
    obtain ⟨pool, hpool, hcurrent⟩ := mem_taken.1 hid
    obtain ⟨p, hp, hstuck⟩ := hpools pool hpool
    obtain ⟨t, ht⟩ := h.task (taken_subset_live hid)
    obtain ⟨y, hy⟩ := ProgramCache.exists_call? hx
    obtain ⟨hmem, hyid⟩ := ProgramCache.mem_of_call? hy
    cases h.flies.eq_of_id hmem hx hyid
    refine ProgramCache.phase_eq_joined hy ?_ ?_
    · by_contra hresult
      obtain ⟨r, hr⟩ := Option.ne_none_iff_exists'.1 hresult
      rw [advance_complete hp hcurrent ht hr] at hstuck
      cases hstuck
    · by_contra hleading
      have hleading' : s.cache.isLeading x.id = true := by simpa using hleading
      have hresult : s.cache.result? x.id = none := by
        obtain ⟨z, hz, hphase⟩ := ProgramCache.mem_of_isLeading hleading'
        unfold ProgramCache.result?
        rw [hz, Option.map_some, hphase]
      rw [advance_compile hp hcurrent ht hresult hleading' hheld] at hstuck
      cases hstuck
  -- but the leader of that flight can go on
  have hcalls : s.cache.calls = [] := by
    rw [List.eq_nil_iff_forall_not_mem]
    intro x hx
    obtain ⟨f, hf, _⟩ := (h.flies.joined x hx (hjoined x hx)).resolve_left List.not_mem_nil
    obtain ⟨y, hy, _, _, hleading⟩ := h.flies.led f hf
    rw [hjoined y hy] at hleading
    cases hleading
  have htaken : s.taken = [] := by
    have hperm := h.calls
    rw [hcalls] at hperm
    exact hperm.nil_eq.symm
  rw [live, List.flatMap_eq_nil_iff]
  intro pool hpool
  obtain ⟨p, hp, hstuck⟩ := hpools pool (Array.mem_toList_iff.1 hpool)
  have hfree : pool.current = none := by
    cases hc : pool.current with
    | none => rfl
    | some id =>
      have hid : id ∈ s.taken := mem_taken.2 ⟨pool, Array.mem_of_getElem? hp, hc⟩
      rw [htaken] at hid
      cases hid
  cases hqueue : pool.queue with
  | nil => rw [CompilePool.ids, hfree, hqueue]; rfl
  | cons id rest =>
    obtain ⟨t, ht⟩ := h.task (queue_mem_live hp hqueue)
    unfold Session.advance at hstuck
    have ht' : (s.modifyPool p fun x => { x with queue := rest }).tasks[id]? = some t := ht
    simp only [hp, hfree, hqueue, ht'] at hstuck
    split at hstuck
    · cases hstuck
    · cases hstuck

theorem Wired.drainAux_live (h : s.Wired) (hheld : s.held = false) {fuel : Nat}
    (hfuel : s.load < fuel) : (s.drainAux fuel).live = [] := by
  induction fuel generalizing s with
  | zero => cases hfuel
  | succ fuel ih =>
    unfold Session.drainAux
    split
    · rename_i hnone
      refine h.live_eq_nil hheld fun p hp => ?_
      exact List.findSome?_eq_none_iff.1 hnone p (List.mem_range.2 hp)
    · rename_i s' hs
      obtain ⟨p, _, hp⟩ := List.exists_of_findSome?_eq_some hs
      have hstep := advance_advances hp
      have hlt := h.load_lt hheld hstep
      refine ih (h.advances hstep) ?_ (by omega)
      rw [(Steady.advance hp).held]
      exact hheld

/-- **Draining leaves no task in any pool**, while compilers are not held. -/
theorem Wired.drain_live (h : s.Wired) (hheld : s.held = false) : s.drain.live = [] := by
  refine h.drainAux_live hheld ?_
  have hle := h.load_le
  have hsquare : 4 * (s.tasks.size + 1) ≤ 4 * (s.tasks.size + 1) * (s.tasks.size + 1) :=
    Nat.le_mul_of_pos_right _ (Nat.succ_pos _)
  omega

/-- Where no task is in a pool, nobody calls the program cache. -/
theorem Wired.calls_eq_nil (h : s.Wired) (hlive : s.live = []) :
    s.cache.calls = [] ∧ s.cache.flights = [] := by
  have htaken : s.taken = [] := by
    rw [List.eq_nil_iff_forall_not_mem]
    intro id hid
    have hmem := taken_subset_live hid
    rw [hlive] at hmem
    cases hmem
  have hcalls : s.cache.calls = [] := by
    have hperm := h.calls
    rw [htaken] at hperm
    exact List.map_eq_nil_iff.1 hperm.eq_nil
  refine ⟨hcalls, ?_⟩
  rw [List.eq_nil_iff_forall_not_mem]
  intro f hf
  obtain ⟨x, hx, _⟩ := h.flies.led f hf
  rw [hcalls] at hx
  cases hx

/-! ## Tidy sessions -/

/-- The machine is in order, and a closed pool has no task unless compilers are held. -/
structure Tidy (s : Session) : Prop where
  wired : s.Wired
  closed : s.held = false → ∀ pool ∈ s.pools, pool.isOpen = false → pool.ids = []

/-- A worker puts no task into a pool, and opens or closes none. -/
theorem Advances.pools (hs : Advances s p s') {i : Nat} {pool' : CompilePool}
    (h : s'.pools[i]? = some pool') : ∃ pool, s.pools[i]? = some pool ∧
      pool'.isOpen = pool.isOpen ∧ ∀ id ∈ pool'.ids, id ∈ pool.ids := by
  have hmodify : ∀ {f : CompilePool → CompilePool} {pool : CompilePool},
      s.pools[p]? = some pool → (f pool).isOpen = pool.isOpen →
      (∀ id ∈ (f pool).ids, id ∈ pool.ids) → (s.pools.modify p f)[i]? = some pool' →
      ∃ pool, s.pools[i]? = some pool ∧ pool'.isOpen = pool.isOpen ∧
        ∀ id ∈ pool'.ids, id ∈ pool.ids := by
    intro f pool hpool hopen hids hi
    rw [Array.getElem?_modify] at hi
    split at hi
    · rename_i hp
      subst hp
      rw [hpool] at hi
      cases hi
      exact ⟨pool, hpool, hopen, hids⟩
    · exact ⟨pool', hi, rfl, fun _ hid => hid⟩
  cases hs with
  | dropped hpool hfree hqueue _ =>
    refine hmodify hpool rfl (fun id hid => ?_) h
    rw [CompilePool.ids, hfree] at hid ⊢
    rw [hqueue]
    exact List.mem_cons_of_mem _ hid
  | skipped hpool hfree hqueue _ _ =>
    refine hmodify hpool rfl (fun id hid => ?_) h
    rw [CompilePool.ids, hfree, hqueue]
    exact List.mem_cons_of_mem _ hid
  | begun hpool hfree hqueue _ _ =>
    refine hmodify hpool rfl (fun id hid => ?_) h
    rw [CompilePool.ids, hfree, hqueue]
    exact hid
  | @completed pool id t returned hpool _ _ _ =>
    rw [(SameMachine.comes (completeJob_comes _ t.job returned)).pools] at h
    refine hmodify hpool rfl (fun id hid => ?_) h
    exact List.mem_append_right _ hid
  | @entered _ _ t _ _ _ _ _ =>
    refine ⟨pool', ?_, rfl, fun _ hid => hid⟩
    unfold Session.countCalls at h
    split at h
    · exact h
    · exact h
  | @compiled _ id t _ _ _ _ =>
    obtain ⟨calls, log, heq⟩ := runCompile_eq s id t
    rw [heq] at h
    exact ⟨pool', h, rfl, fun _ hid => hid⟩

theorem Wired.cancelTask (h : s.Wired) (id : Nat) : (s.cancelTask id).Wired := by
  have hmarked := h.modifyTask id (f := fun t => { t with cancelled := true }) fun _ => rfl
  have hlabels := ProgramCache.labels_cancel s.cache id
  refine ⟨hmarked.lt, h.nodup, ?_, h.flies.cancel id, fun l hl => hmarked.keys l (hlabels ▸ hl),
    h.programs⟩
  show ((s.cache.cancel id).calls.map Call.id).Perm _
  rw [ProgramCache.map_id_calls, hlabels, ← ProgramCache.map_id_calls]
  exact h.calls

/-- A new task is in no pool. -/
theorem Wired.pushTask (h : s.Wired) (t : CompileTask) :
    Wired { s with tasks := s.tasks.push t } where
  lt id hid := by
    rw [Array.size_push]
    exact Nat.lt_succ_of_lt (h.lt id hid)
  nodup := h.nodup
  calls := h.calls
  flies := h.flies
  keys l hl t' ht' := by
    have hid : l.1 ∈ s.cache.calls.map Call.id := by
      rw [ProgramCache.map_id_calls]
      exact List.mem_map.2 ⟨l, hl, rfl⟩
    have hlt := h.lt l.1 (taken_subset_live (h.calls.mem_iff.1 hid))
    rw [Array.getElem?_push_lt hlt, ← Array.getElem?_eq_getElem hlt] at ht'
    exact h.keys l hl t' ht'
  programs := h.programs

/-- A task that is in no pool is put into a queue. -/
theorem Wired.putTask (h : s.Wired) (hlt : id < s.tasks.size) (hfresh : id ∉ s.live) (p : Nat) :
    (s.modifyPool p fun x => { x with queue := x.queue ++ [id] }).Wired := by
  cases hpool : s.pools[p]? with
  | none =>
    have hsame := modify_of_none hpool fun x => { x with queue := x.queue ++ [id] }
    exact h.of_eq rfl hsame rfl
  | some pool =>
    obtain ⟨l, r, hold, hnew⟩ := exists_flatMap_modify hpool
      (fun x => { x with queue := x.queue ++ [id] }) CompilePool.ids
    obtain ⟨l', r', hold', hnew'⟩ := exists_flatMap_modify hpool
      (fun x => { x with queue := x.queue ++ [id] }) fun x => x.current.toList
    have hperm : (s.modifyPool p fun x => { x with queue := x.queue ++ [id] }).live.Perm
        (id :: s.live) := by
      refine (List.Perm.of_eq hnew).trans ?_
      have hids : l ++ ({ pool with queue := pool.queue ++ [id] } : CompilePool).ids ++ r =
          (l ++ pool.ids) ++ id :: r := by
        rw [CompilePool.ids, CompilePool.ids]
        simp only [List.append_assoc, List.singleton_append]
      rw [hids, live, hold]
      exact List.perm_middle
    refine ⟨fun i hi => ?_, hperm.nodup_iff.2 (List.nodup_cons.2 ⟨hfresh, h.nodup⟩),
      h.calls.trans (.of_eq ?_), h.flies, h.keys, h.programs⟩
    · rcases List.mem_cons.1 (hperm.subset hi) with rfl | hi
      · exact hlt
      · exact h.lt i hi
    · rw [taken, hold']
      exact hnew'.symm

theorem Wired.enqueue (h : s.Wired) (j : Job) : (s.enqueue j).Wired := by
  have hlt : s.tasks.size < (s.tasks.push { job := j }).size := by
    rw [Array.size_push]
    exact Nat.lt_succ_self _
  exact (h.pushTask { job := j }).putTask hlt (fun hid => Nat.lt_irrefl _ (h.lt _ hid)) _

theorem Wired.drain (h : s.Wired) : s.drain.Wired :=
  keeps_drain (fun h hp => h.advances (advance_advances hp)) h

/-- A pool is opened or closed. -/
theorem Wired.modifyPool (h : s.Wired) (p : Nat) {f : CompilePool → CompilePool}
    (hf : ∀ x, (f x).queue = x.queue ∧ (f x).current = x.current) : (s.modifyPool p f).Wired := by
  have hlive : (s.modifyPool p f).live = s.live := flatMap_modify_of_eq s.pools p fun x => by
    rw [CompilePool.ids, CompilePool.ids, (hf x).1, (hf x).2]
  have htaken : (s.modifyPool p f).taken = s.taken := flatMap_modify_of_eq s.pools p fun x => by
    rw [(hf x).2]
  exact ⟨fun id hid => h.lt id (hlive ▸ hid), hlive ▸ h.nodup, htaken ▸ h.calls, h.flies, h.keys,
    h.programs⟩

theorem live_openPool (s : Session) : live { s with pools := s.pools.push {} } = s.live := by
  rw [live, live, Array.toList_push, List.flatMap_append]
  exact List.append_nil _

/-- A new pool has no tasks. -/
theorem Wired.openPool (h : s.Wired) : Wired { s with pools := s.pools.push {} } := by
  have hlive := live_openPool s
  have htaken : taken { s with pools := s.pools.push {} } = s.taken := by
    rw [taken, taken, Array.toList_push, List.flatMap_append]
    exact List.append_nil _
  exact ⟨fun id hid => h.lt id (hlive ▸ hid), hlive ▸ h.nodup, htaken ▸ h.calls, h.flies, h.keys,
    h.programs⟩

theorem Tidy.same (h : s.Tidy) (hs : s.SameMachine s') : s'.Tidy := by
  refine ⟨h.wired.same hs, fun hheld pool hpool => ?_⟩
  rw [hs.held] at hheld
  rw [hs.pools] at hpool
  exact h.closed hheld pool hpool

theorem Tidy.cancelTask (h : s.Tidy) (id : Nat) : (s.cancelTask id).Tidy :=
  ⟨h.wired.cancelTask id, h.closed⟩

/-- A pool without tasks may be closed or not. -/
theorem Wired.tidy (h : s.Wired) (hlive : s.held = false → s.live = []) : s.Tidy :=
  ⟨h, fun hheld _ hpool _ => ids_of_live_eq_nil (hlive hheld) hpool⟩

theorem Tidy.drain_live (h : s.Tidy) (hheld : s.held = false) : s.drain.live = [] :=
  h.wired.drain_live hheld

/-- A job is put into the queue of an open pool. -/
theorem Tidy.enqueue (h : s.Tidy) {j : Job}
    (hopen : (s.enqueue j).hasClosedPool j.graph = false) : (s.enqueue j).Tidy := by
  refine ⟨h.wired.enqueue j, fun hheld pool hpool hclosed => ?_⟩
  obtain ⟨i, hi⟩ := Array.mem_iff_getElem?.1 hpool
  have hi' : (s.pools.modify (s.graph j.graph).options.pool
      fun x => { x with queue := x.queue ++ [s.tasks.size] })[i]? = some pool := hi
  rw [Array.getElem?_modify] at hi'
  split at hi'
  · rename_i hp
    have hpools : (s.enqueue j).pools.getD (s.graph j.graph).options.pool default = pool := by
      rw [hp, Array.getD_eq_getD_getElem?, hi]
      rfl
    have hopen' : (!((s.enqueue j).pools.getD (s.graph j.graph).options.pool default).isOpen) =
        false := hopen
    rw [hpools, hclosed] at hopen'
    cases hopen'
  · exact h.closed hheld pool (Array.mem_of_getElem? hi') hclosed

theorem Tidy.register (h : s.Tidy) (id : Nat) (j : Job) : (s.register id j).Tidy := by
  unfold Session.register
  split
  rename_i held resource _
  have htold : (s.modifyResource j.resource fun _ => resource).Tidy :=
    h.same ⟨rfl, rfl, rfl, rfl, fun _ => rfl, fun h => h⟩
  dsimp only
  split
  · exact htold
  · exact htold.cancelTask id

/-- **The workers' steps and what callers ask of them** keep sessions tidy. -/
theorem stable_tidy : Stable Tidy where
  same := Tidy.same
  advance {s s' p} h hp := by
    refine ⟨h.wired.advances (advance_advances hp), fun hheld pool' hpool' hclosed => ?_⟩
    rw [(Steady.advance hp).held] at hheld
    obtain ⟨i, hi⟩ := Array.mem_iff_getElem?.1 hpool'
    obtain ⟨pool, hpool, hopen, hids⟩ := (advance_advances hp).pools hi
    have hold := h.closed hheld pool (Array.mem_of_getElem? hpool) (hopen ▸ hclosed)
    rw [List.eq_nil_iff_forall_not_mem]
    intro id hid
    have hmem := hids id hid
    rw [hold] at hmem
    cases hmem
  cancelTask := Tidy.cancelTask
  submit {s} h j := by
    rw [submit_eq]
    split
    · -- a closed pool runs the job at once
      have hqueued := h.wired.enqueue j
      refine hqueued.drain.tidy fun hheld => hqueued.drain_live ?_
      rw [← (Steady.drain (s.enqueue j)).held]
      exact hheld
    · rename_i hopen
      exact Tidy.register (h.enqueue (by simpa using hopen)) _ j
  openPool {s} h := by
    refine ⟨h.wired.openPool, fun hheld pool hpool hclosed => ?_⟩
    rcases Array.mem_push.1 hpool with hpool | rfl
    · exact h.closed hheld pool hpool hclosed
    · cases hclosed
  closePool {s} h p := by
    have hclosed : (s.drain.modifyPool p fun x => { x with isOpen := false }).Wired :=
      h.wired.drain.modifyPool p fun _ => ⟨rfl, rfl⟩
    refine hclosed.tidy fun hheld => ?_
    have hlive : s.drain.live = [] := by
      refine h.drain_live ?_
      rw [← (Steady.drain s).held]
      exact hheld
    rw [← hlive]
    exact flatMap_modify_of_eq s.drain.pools p fun _ => rfl
  hold h := ⟨h.wired.of_eq rfl rfl rfl, fun hheld => by cases hheld⟩
  release {s} h := by
    have hfree : Wired { s with held := false } := h.wired.of_eq rfl rfl rfl
    exact hfree.drain.tidy fun _ => hfree.drain_live rfl
  programs {s programs} h hQ := by
    refine ⟨⟨h.wired.lt, h.wired.nodup, h.wired.calls, ?_, h.wired.keys, hQ _ h.wired.programs⟩,
      h.closed⟩
    exact ⟨h.wired.flies.nodup, h.wired.flies.led, h.wired.flies.joined, h.wired.flies.waiting⟩

/-- **Every run** leads to a tidy session. -/
theorem Run.tidy {H : List Started} (h : Run H s) : s.Tidy :=
  stable_tidy.run h
    (fun files scripts limit _ => (wired_start files scripts limit).tidy fun _ => rfl)
    fun {_ a} h _ ha => by
      cases a with
      | addGraph definition options => exact ⟨h.wired.of_eq rfl rfl rfl, h.closed⟩
      | files f => exact ⟨h.wired.of_eq rfl rfl rfl, h.closed⟩
      | scripts xs => exact ⟨h.wired.of_eq rfl rfl rfl, h.closed⟩
      | _ => cases ha

end

end KernelGraph.Session
