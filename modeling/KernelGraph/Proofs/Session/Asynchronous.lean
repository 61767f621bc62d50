/-
  Asynchronous updates agree with synchronous ones.

  An update submits its jobs one after the other while workers take and compile them, and its caller
  may or may not wait.

  1. `Schedules` is what workers may do: there may be any number of them, and they take the queued
     tasks in any order.

  2. `Goes` is an update of either kind with such workers: between any two of its own steps they may
     do as much as they like.  `Underway` is its invariant: the batch makes progress, and what comes
     of it is decided by the keys (`Decided`).

  3. So all ways to the end show the same (`Underway.agree`).  The updates of the session are among
     them (`goes_update`).
-/
import KernelGraph.Proofs.Session.Verdicts

namespace KernelGraph.Session

/-! ## Workers -/

/-- What the workers may do: one of them goes on, or the queued tasks are dealt out to them anew. -/
inductive Schedules (s : Session) : Session → Prop
  | advance {p : Nat} {s' : Session} (hs : s.advance p = some s') : Schedules s s'
  | deal {pools : Array CompilePool} (htaken : (taken { s with pools }).Perm s.taken)
      (hqueued : (queued { s with pools }).Perm s.queued) (hsize : s.pools.size ≤ pools.size) :
      Schedules s { s with pools }

section
variable {F : ProgramKey → Except ProgramError Program} {B s s' : Session} {g : Nat} {plan : Plan}
  {J todo : List Job} {calls : List HookCall}

theorem Schedules.map_job (h : s.Schedules s') :
    s'.tasks.map CompileTask.job = s.tasks.map CompileTask.job := by
  cases h with
  | advance hs => exact (advance_advances hs).map_job
  | deal => rfl

/-- Tasks that are dealt out anew are in pools as before. -/
theorem live_deal {pools : Array CompilePool} (htaken : (taken { s with pools }).Perm s.taken)
    (hqueued : (queued { s with pools }).Perm s.queued) : (live { s with pools }).Perm s.live :=
  (taken_append_queued _).symm.trans ((htaken.append hqueued).trans (taken_append_queued s))

theorem Wired.deal (h : s.Wired) {pools : Array CompilePool}
    (htaken : (taken { s with pools }).Perm s.taken)
    (hqueued : (queued { s with pools }).Perm s.queued) : Wired { s with pools } := by
  have hlive := live_deal htaken hqueued
  exact ⟨fun id hid => h.lt id (hlive.mem_iff.1 hid), hlive.nodup_iff.2 h.nodup,
    h.calls.trans htaken.symm, h.flies, h.keys, h.programs⟩

/-- **Whatever workers do** brings a batch forward. -/
theorem Progress.schedules (hB : Batch B g plan J) (h : Progress B g plan J todo calls s)
    (hs : s.Schedules s') : ∃ calls', Progress B g plan J todo calls' s' := by
  cases hs with
  | advance hs => exact h.advance hB hs
  | deal htaken hqueued hsize =>
    refine ⟨calls, h.quiet (h.wired.deal htaken hqueued)
      (h.steady.trans (.of_eq rfl rfl rfl rfl rfl))
      h.clean rfl rfl rfl rfl (fun _ _ => rfl) rfl (fun id => ?_) hsize⟩
    exact (live_deal htaken hqueued).mem_iff

theorem Decided.schedules (hB : Batch B g plan J) (hF : ∀ j ∈ J, B.CompilesTo F j)
    (hp : Progress B g plan J todo calls s) (h : Decided F B J s) (hs : s.Schedules s') :
    Decided F B J s' := by
  cases hs with
  | advance hs => exact h.advance hB hF hp hs
  | deal => exact h.quiet h.clean rfl

/-- Where there are no jobs, workers have nothing to publish. -/
theorem Progress.presents_schedules {x : RenderProxy} (h : Progress B g plan [] todo calls s)
    (hx : s.Presents g plan B.proxies x) (hs : s.Schedules s') :
    s'.Presents g plan B.proxies x := by
  have hlive : s.live = [] := by
    rw [List.eq_nil_iff_forall_not_mem]
    intro id hid
    obtain ⟨t, _, _, hj, _⟩ := h.tasks id hid
    cases hj
  cases hs with
  | @advance p _ hs =>
    rw [advance_of_idle fun x hx => idle_of_live_eq_nil hlive x (Array.mem_of_getElem? hx)] at hs
    cases hs
  | deal => exact hx.congr rfl rfl rfl

/-! ## Jobs that come back before they are known -/

/-- A task that is in no pool is not known to the program cache. -/
theorem Wired.cancelTask_eq (h : s.Wired) {id : Nat} (hid : id ∉ s.live) : s.cancelTask id =
    { s with tasks := s.tasks.modify id fun t => { t with cancelled := true } } := by
  have hcalls : (s.cache.cancel id).calls = s.cache.calls := by
    refine (List.map_congr_left fun x hx => ?_).trans (List.map_id _)
    refine if_neg fun heq => hid ?_
    rw [← heq]
    exact taken_subset_live (h.calls.mem_iff.1 (List.mem_map_of_mem hx))
  have hcache : s.cache.cancel id = s.cache := by
    unfold ProgramCache.cancel ProgramCache.modifyCall at hcalls ⊢
    dsimp only at hcalls
    rw [hcalls]
  unfold Session.cancelTask
  rw [hcache]
  rfl

/-- The resource of a job that has come back already does not learn the task. -/
theorem register_of_not_awaits {j : Job} (hj : ¬ s.Awaits j) (id : Nat) :
    s.register id j = s.cancelTask id := by
  have hset : (s.resource j.resource).setTask id j.generation =
      (false, s.resource j.resource) := by
    rw [Resource.setTask, if_neg]
    simpa [Awaits] using hj
  have hsame : (s.modifyResource j.resource fun _ => s.resource j.resource) = s :=
    modifyResource_eq_self rfl
  unfold Session.register
  rw [hset]
  dsimp only
  rw [hsame]
  rfl

/-- **A job is registered**, whether it is still waited for or not. -/
theorem Progress.registers (h : Progress B g plan J todo calls s) {j : Job} (hj : j ∈ J) {id : Nat}
    (hid : ¬ s.Awaits j → id ∉ s.live) : Progress B g plan J todo calls (s.register id j) := by
  by_cases hawaits : s.Awaits j
  · exact h.register hj hawaits id
  · have hfree := hid hawaits
    have hwired := h.wired.cancelTask id
    rw [register_of_not_awaits hawaits]
    rw [h.wired.cancelTask_eq hfree] at hwired ⊢
    refine h.quiet hwired (h.steady.trans (.of_eq rfl rfl rfl rfl rfl)) h.clean rfl rfl rfl rfl
      (fun i hi => ?_) (map_job_modify s.tasks id (f := fun t => { t with cancelled := true })
        fun _ => rfl) (fun _ => Iff.rfl) (Nat.le_refl _)
    have hne : id ≠ i := fun heq => hfree (heq ▸ hi)
    dsimp only
    rw [Array.getElem?_modify, if_neg hne]

theorem Decided.registers (h : Decided F B J s) (hwired : s.Wired) {j : Job} {id : Nat}
    (hid : ¬ s.Awaits j → id ∉ s.live) : Decided F B J (s.register id j) := by
  refine h.congr ?_ (exists_task_register s id j)
  by_cases hawaits : s.Awaits j
  · rw [register_of_awaits hawaits]
    exact h.clean
  · rw [register_of_not_awaits hawaits, hwired.cancelTask_eq (hid hawaits)]
    exact h.clean

end

/-! ## Updates that are under way -/

/-- Where an update stands that has prepared its kernels. -/
inductive Stage
  /-- It is about to submit these jobs. -/
  | submitting (todo : List Job)
  /-- A job is in a queue, but its resource does not know the task yet. -/
  | queued (id : Nat) (j : Job) (todo : List Job)
  /-- It waits for a job before it submits the others. -/
  | waiting (j : Job) (todo : List Job)
  /-- It has returned. -/
  | returned

namespace Stage

/-- The jobs to come. -/
def todo : Stage → List Job
  | submitting todo | queued _ _ todo | waiting _ todo => todo
  | returned => []

/-- The job that it is dealing with. -/
def now : Stage → List Job
  | queued _ j _ | waiting j _ => [j]
  | _ => []

end Stage

/-- What an update of either kind does with its jobs `J`, and the workers in between.  A job on a
    closed pool is run at once, and the fallback kernel is waited for. -/
inductive Goes (g : Nat) (plan : Plan) (J : List Job) (sync : Bool) :
    Stage × Session → Stage × Session → Prop
  | work {stage : Stage} {s s' : Session} (hs : s.Schedules s') :
      Goes g plan J sync (stage, s) (stage, s')
  | enqueue {j : Job} {todo : List Job} {s : Session} :
      Goes g plan J sync (.submitting (j :: todo), s) (.queued s.tasks.size j todo, s.enqueue j)
  | inline {id : Nat} {j : Job} {todo : List Job} {s : Session}
      (hclosed : s.hasClosedPool j.graph = true) :
      Goes g plan J sync (.queued id j todo, s) (.waiting j todo, s)
  | register {id : Nat} {j : Job} {todo : List Job} {s : Session}
      (hopen : s.hasClosedPool j.graph = false) :
      Goes g plan J sync (.queued id j todo, s)
        (if j.isDefault && !sync then .waiting j todo else .submitting todo, s.register id j)
  | goOn {j : Job} {todo : List Job} {s : Session} (hover : ¬ s.Awaits j) :
      Goes g plan J sync (.waiting j todo, s) (.submitting todo, s)
  | finish {s : Session} (hwaited : sync = true → ∀ j ∈ J, ¬ s.Awaits j) :
      Goes g plan J sync (.submitting [], s) (.returned, s.finishUpdate g plan)

/-- Any number of steps. -/
abbrev GoesOn (g : Nat) (plan : Plan) (J : List Job) (sync : Bool) :
    Stage × Session → Stage × Session → Prop :=
  Relation.ReflTransGen (Goes g plan J sync)

/-- An update that is under way since the session `B`, in which it had prepared its kernels. -/
structure Underway (F : ProgramKey → Except ProgramError Program) (B : Session) (g : Nat)
    (plan : Plan)
    (J : List Job) (c : Stage × Session) : Prop where
  progress : ∃ calls, Progress B g plan J c.1.todo calls c.2
  decided : Decided F B J c.2
  nodup : (c.1.now ++ c.1.todo).Nodup
  now : ∀ j ∈ c.1.now, j ∈ J
  queued : ∀ id j todo, c.1 = .queued id j todo → ∃ t, c.2.tasks[id]? = some t ∧ t.job = j
  shown : c.1 = .returned → J = [] → ∃ x, c.2.Presents g plan B.proxies x

section
variable {F : ProgramKey → Except ProgramError Program} {B : Session} {g : Nat}
    {plan : Plan} {J : List Job}
  {sync : Bool} {c c' : Stage × Session}

theorem Batch.underway (hB : Batch B g plan J)
    (hprograms : B.cache.programs.Holds fun k p => F k = .ok p) :
    Underway F B g plan J (.submitting J, B) where
  progress := ⟨[], hB.progress⟩
  decided := hB.decided hprograms
  nodup := List.Nodup.of_map _ hB.kernels
  now j hj := by cases hj
  queued id j todo h := by cases h
  shown h := by cases h

/-- A task whose job is not waited for has left its pool. -/
theorem Underway.not_live {s : Session} {id : Nat} {j : Job} {todo : List Job}
    (h : Underway F B g plan J (.queued id j todo, s)) (hover : ¬ s.Awaits j) : id ∉ s.live := by
  intro hid
  obtain ⟨calls, hprogress⟩ := h.progress
  obtain ⟨t, ht, hjob⟩ := h.queued id j todo rfl
  obtain ⟨t', ht', _, _, _, hawaits⟩ := hprogress.tasks id hid
  cases ht.symm.trans ht'
  exact hover (hjob ▸ hawaits)

/-- **A step** of the update or of a worker. -/
theorem Underway.step (hB : Batch B g plan J) (hF : ∀ j ∈ J, B.CompilesTo F j)
    (h : Underway F B g plan J c) (hstep : Goes g plan J sync c c') :
    Underway F B g plan J c' := by
  obtain ⟨calls, hprogress⟩ := h.progress
  cases hstep with
  | work hs =>
    refine ⟨hprogress.schedules hB hs, h.decided.schedules hB hF hprogress hs, h.nodup, h.now,
      fun id j todo heq => ?_, fun hreturned hnil => ?_⟩
    · obtain ⟨t, ht, hjob⟩ := h.queued id j todo heq
      obtain ⟨t', ht', hsame⟩ := exists_task_of_map_job hs.map_job.symm ht
      exact ⟨t', ht', hsame.symm.trans hjob⟩
    · obtain ⟨x, hx⟩ := h.shown hreturned hnil
      subst hnil
      exact ⟨x, hprogress.presents_schedules hx hs⟩
  | @enqueue j todo s =>
    have hj := (hprogress.ahead j (List.mem_cons_self ..)).1
    have hnodup : (j :: todo).Nodup := h.nodup
    refine ⟨⟨calls, hprogress.enqueue hB (List.nodup_cons.1 hnodup).1⟩, h.decided.quiet ?_ rfl,
      hnodup, fun j' hj' => ?_, fun id j' todo' heq => ?_, fun heq => by cases heq⟩
    · exact h.decided.clean
    · cases List.mem_singleton.1 hj'
      exact hj
    · cases heq
      exact ⟨{ job := j }, by rw [getElem?_enqueue, if_pos rfl], rfl⟩
  | @inline id j todo s _ =>
    exact ⟨⟨calls, hprogress⟩, h.decided, h.nodup, h.now, fun id' j' todo' heq => (by cases heq),
      fun heq => by cases heq⟩
  | @register id j todo s _ =>
    have hj := h.now j (List.mem_singleton_self j)
    have hleft : ¬ s.Awaits j → id ∉ s.live := h.not_live
    have hregistered := hprogress.registers hj hleft
    have hdecided := h.decided.registers hprogress.wired hleft
    split
    · exact ⟨⟨calls, hregistered⟩, hdecided, h.nodup, h.now, fun id' j' todo' heq => (by cases heq),
        fun heq => by cases heq⟩
    · exact ⟨⟨calls, hregistered⟩, hdecided, (List.nodup_cons.1 h.nodup).2,
        fun j' hj' => (by cases hj'), fun id' j' todo' heq => (by cases heq),
        fun heq => by cases heq⟩
  | @goOn j todo s _ =>
    exact ⟨⟨calls, hprogress⟩, h.decided, (List.nodup_cons.1 h.nodup).2,
      fun j' hj' => (by cases hj'), fun id' j' todo' heq => (by cases heq), fun heq => by cases heq⟩
  | @finish s _ =>
    refine ⟨⟨calls, hprogress.finish hB⟩, h.decided.quiet ?_ (finishUpdate_fields s g plan).1,
      .nil, fun j' hj' => (by cases hj'), fun id' j' todo' heq => (by cases heq), fun _ hnil => ?_⟩
    · rw [(SameMachine.finishUpdate s g plan).cache]
      exact h.decided.clean
    · rcases hprogress.finishUpdate hB with ⟨hne, _⟩ | ⟨_, hx⟩
      · refine absurd (hprogress.pending_eq_nil_iff.2 fun j hj => ?_) hne
        rw [hnil] at hj
        cases hj
      · exact hx

theorem Underway.goesOn (hB : Batch B g plan J) (hF : ∀ j ∈ J, B.CompilesTo F j)
    (h : Underway F B g plan J c) (hsteps : GoesOn g plan J sync c c') :
    Underway F B g plan J c' := by
  induction hsteps with
  | refl => exact h
  | tail _ hstep ih => exact ih.step hB hF hstep

/-! ## The end -/

/-- **Nothing is published** while a job is outstanding. -/
theorem Underway.proxies (h : Underway F B g plan J c) (hpending : (c.2.graph g).pending ≠ []) :
    c.2.proxies = B.proxies := by
  obtain ⟨calls, hprogress⟩ := h.progress
  exact (hprogress.published.resolve_right fun hall =>
    hpending (hprogress.pending_eq_nil_iff.2 hall.1)).2.1

/-- **The plan is published** when nothing is outstanding any more; where there are no jobs, when
    the update returns. -/
theorem Underway.presents (h : Underway F B g plan J c) (hreturned : J = [] → c.1 = .returned)
    (hnil : (c.2.graph g).pending = []) : ∃ x, c.2.Presents g plan B.proxies x := by
  obtain ⟨calls, hprogress⟩ := h.progress
  rcases hprogress.published with ⟨_, _, hnone | ⟨j, hj, ha⟩⟩ | ⟨_, hx⟩
  · exact h.shown (hreturned hnone) hnone
  · exact absurd ha (hprogress.pending_eq_nil_iff.1 hnil j hj)
  · exact hx

theorem Progress.resource? {calls : List HookCall} {todo : List Job} {s : Session}
    (h : Progress B g plan J todo calls s) (hB : B.Holdings) (k : Nat) :
    s.resource? g (k : Int) = B.resource? g (k : Int) :=
  resource?_eq hB (by rw [(h.steady.graph g).sets]) (h.steady.graph g).options
    (fun _ ho => h.size.symm ▸ hB.lt ho) fun r _ => h.level r

/-- Resources show the same when nothing is outstanding any more. -/
theorem Underway.face_eq (h : Underway F B g plan J c) (h' : Underway F B g plan J c')
    (hnil : (c.2.graph g).pending = []) (hnil' : (c'.2.graph g).pending = []) (r : Nat) :
    (c'.2.resource r).face = (c.2.resource r).face := by
  obtain ⟨calls, hprogress⟩ := h.progress
  obtain ⟨calls', hprogress'⟩ := h'.progress
  by_cases hr : ∃ j ∈ J, j.resource = r
  · obtain ⟨j, hj, rfl⟩ := hr
    rw [h.decided.finished j hj (hprogress.pending_eq_nil_iff.1 hnil j hj),
      h'.decided.finished j hj (hprogress'.pending_eq_nil_iff.1 hnil' j hj)]
  · have hother : ∀ j ∈ J, j.resource ≠ r := fun j hj heq => hr ⟨j, hj, heq⟩
    rw [hprogress.other r hother, hprogress'.other r hother]

/-- **All ways to the end publish the same.** -/
theorem Underway.agree (h : Underway F B g plan J c) (h' : Underway F B g plan J c')
    (hB : B.Holdings) (hlevel : plan.level = (B.graph g).options.level)
    (hnil : (c.2.graph g).pending = []) (hnil' : (c'.2.graph g).pending = []) {x x' : RenderProxy}
    (hx : c.2.Presents g plan B.proxies x) (hx' : c'.2.Presents g plan B.proxies x') :
    x' = { x with released := x'.released } := by
  have hface := h.face_eq h' hnil hnil'
  obtain ⟨calls, hprogress⟩ := h.progress
  obtain ⟨calls', hprogress'⟩ := h'.progress
  have hprogram : ∀ k, c'.2.currentProgram g k plan.level = c.2.currentProgram g k plan.level := by
    intro k
    have hfound : c'.2.resource? g (k : Int) = c.2.resource? g (k : Int) :=
      (hprogress'.resource? hB k).trans (hprogress.resource? hB k).symm
    have heq := currentProgram_eq c.2 g k
    have heq' := currentProgram_eq c'.2 g k
    rw [(hprogress.steady.graph g).options, ← hlevel] at heq
    rw [(hprogress'.steady.graph g).options, ← hlevel] at heq'
    rw [heq, heq', foundProgram, foundProgram, hfound]
    exact congrArg _ (funext fun r => Resource.face_program (hface r))
  have hinvocations : x'.invocations = x.invocations := by
    rw [hx.invocations, hx'.invocations]
    exact List.map_congr_left fun v _ => by rw [hprogram]
  have hname : x'.graphName = x.graphName := by
    rw [hx.name, hx'.name, (hprogress.steady.graph g).definition,
      (hprogress'.steady.graph g).definition]
  obtain ⟨graph, name, generation, invocations, released⟩ := x
  obtain ⟨graph', name', generation', invocations', released'⟩ := x'
  cases hinvocations
  cases hname
  cases hx.graph.trans hx'.graph.symm
  cases hx.generation.trans hx'.generation.symm
  rfl

/-! ## Ways to the end -/

theorem goesOn_drain {stage : Stage} {s : Session} :
    GoesOn g plan J sync (stage, s) (stage, s.drain) :=
  keeps_drain (I := fun s' => GoesOn g plan J sync (stage, s) (stage, s'))
    (fun h hs => h.tail (.work (.advance hs))) .refl

theorem Underway.drain (hB : Batch B g plan J) (hF : ∀ j ∈ J, B.CompilesTo F j) {stage : Stage}
    {s : Session} (h : Underway F B g plan J (stage, s)) :
    Underway F B g plan J (stage, s.drain) := by
  have hsteps : GoesOn g plan J true (stage, s) (stage, s.drain) := goesOn_drain
  exact h.goesOn hB hF hsteps

/-- Workers that are left to themselves leave only the jobs to come. -/
theorem Underway.not_awaits_drain (hB : Batch B g plan J) (hF : ∀ j ∈ J, B.CompilesTo F j)
    (hpool : (B.graph g).options.pool < B.pools.size) {stage : Stage} {s : Session}
    (h : Underway F B g plan J (stage, s)) {j : Job} (hj : j ∈ J) (htodo : j ∉ stage.todo) :
    ¬ s.drain.Awaits j := by
  obtain ⟨calls, hprogress⟩ := h.progress
  obtain ⟨calls', hdrained⟩ := (h.drain hB hF).progress
  exact hdrained.not_awaits
    (hprogress.wired.drain_live (hprogress.steady.held.trans hB.held)) hpool hj htodo

/-- Where all jobs were submitted, nothing is left outstanding. -/
theorem Underway.pending_drain (hB : Batch B g plan J) (hF : ∀ j ∈ J, B.CompilesTo F j)
    (hpool : (B.graph g).options.pool < B.pools.size) {stage : Stage} {s : Session}
    (h : Underway F B g plan J (stage, s)) (htodo : stage.todo = []) :
    (s.drain.graph g).pending = [] := by
  obtain ⟨calls, hdrained⟩ := (h.drain hB hF).progress
  refine hdrained.pending_eq_nil_iff.2 fun j hj => h.not_awaits_drain hB hF hpool hj ?_
  rw [htodo]
  exact List.not_mem_nil

/-- A job that the update waits for comes back when the workers go on. -/
theorem Underway.goesOn_waiting (hB : Batch B g plan J) (hF : ∀ j ∈ J, B.CompilesTo F j)
    (hpool : (B.graph g).options.pool < B.pools.size) {j : Job} {todo : List Job} {s : Session}
    (h : Underway F B g plan J (.waiting j todo, s)) :
    GoesOn g plan J sync (.waiting j todo, s) (.submitting todo, s.drain) :=
  goesOn_drain.tail (.goOn (h.not_awaits_drain hB hF hpool (h.now j (List.mem_singleton_self j))
    (List.nodup_cons.1 h.nodup).1))

/-- **The next job is submitted.** -/
theorem Underway.goesOn_submit (hB : Batch B g plan J) (hF : ∀ j ∈ J, B.CompilesTo F j)
    (hpool : (B.graph g).options.pool < B.pools.size) {j : Job} {todo : List Job} {s : Session}
    (h : Underway F B g plan J (.submitting (j :: todo), s)) :
    GoesOn g plan J sync (.submitting (j :: todo), s)
      (.submitting todo, if j.isDefault && !sync then (s.submit j).drain else s.submit j) := by
  have hqueued : GoesOn g plan J sync (.submitting (j :: todo), s)
      (.queued s.tasks.size j todo, s.enqueue j) := .single .enqueue
  rw [submit_eq]
  cases hclosed : (s.enqueue j).hasClosedPool j.graph with
  | true =>
    have hinline := hqueued.tail (.inline hclosed)
    have hsubmitted := hinline.trans ((h.goesOn hB hF hinline).goesOn_waiting hB hF hpool)
    rw [if_pos rfl]
    split
    · exact hsubmitted.trans goesOn_drain
    · exact hsubmitted
  | false =>
    have hregistered := hqueued.tail (.register hclosed)
    rw [if_neg Bool.false_ne_true]
    split
    · rename_i hdefault
      rw [if_pos hdefault] at hregistered
      exact hregistered.trans ((h.goesOn hB hF hregistered).goesOn_waiting hB hF hpool)
    · rename_i hdefault
      rw [if_neg hdefault] at hregistered
      exact hregistered

theorem Underway.goesOn_submitJobs (hB : Batch B g plan J) (hF : ∀ j ∈ J, B.CompilesTo F j)
    (hpool : (B.graph g).options.pool < B.pools.size) {todo : List Job} {s : Session}
    (h : Underway F B g plan J (.submitting todo, s)) :
    GoesOn g plan J sync (.submitting todo, s) (.submitting [], s.submitJobs sync todo) := by
  induction todo generalizing s with
  | nil => exact .refl
  | cons j todo ih =>
    have hnext : GoesOn g plan J sync (.submitting (j :: todo), s) _ := h.goesOn_submit hB hF hpool
    have hrest := ih (h.goesOn hB hF hnext)
    rw [Session.submitJobs, List.foldl_cons]
    exact hnext.trans hrest

/-- **The update returns**, after it has waited for its jobs if it has to. -/
theorem Underway.goesOn_finish (hB : Batch B g plan J) (hF : ∀ j ∈ J, B.CompilesTo F j)
    (hpool : (B.graph g).options.pool < B.pools.size) {todo : List Job} {s : Session}
    (h : Underway F B g plan J (.submitting todo, s)) :
    GoesOn g plan J sync (.submitting todo, s) (.returned, Session.finishUpdate
      (if sync then (s.submitJobs sync todo).drain else s.submitJobs sync todo) g plan) := by
  have hsubmitted : GoesOn g plan J sync (.submitting todo, s) _ :=
    h.goesOn_submitJobs hB hF hpool
  cases sync with
  | true =>
    exact (hsubmitted.trans goesOn_drain).tail (.finish fun _ j hj =>
      (h.goesOn hB hF hsubmitted).not_awaits_drain hB hF hpool hj List.not_mem_nil)
  | false => exact hsubmitted.tail (.finish fun hwaits => by cases hwaits)

/-- **There is a way to the end** from everywhere. -/
theorem Underway.ends (hB : Batch B g plan J) (hF : ∀ j ∈ J, B.CompilesTo F j)
    (hpool : (B.graph g).options.pool < B.pools.size) (h : Underway F B g plan J c) :
    ∃ s, GoesOn g plan J sync c (.returned, s) ∧ (s.graph g).pending = [] := by
  -- the update returns, and the workers go on
  have hreturned : ∃ s, GoesOn g plan J sync c (.returned, s) := by
    have hsubmit : ∀ {todo s}, GoesOn g plan J sync c (.submitting todo, s) →
        ∃ s, GoesOn g plan J sync c (.returned, s) := fun hsteps =>
      ⟨_, hsteps.trans ((h.goesOn hB hF hsteps).goesOn_finish hB hF hpool)⟩
    have hwait : ∀ {j todo s}, GoesOn g plan J sync c (.waiting j todo, s) →
        ∃ s, GoesOn g plan J sync c (.returned, s) := fun hsteps =>
      hsubmit (hsteps.trans ((h.goesOn hB hF hsteps).goesOn_waiting hB hF hpool))
    obtain ⟨stage, s⟩ := c
    cases stage with
    | submitting todo => exact hsubmit .refl
    | queued id j todo =>
      cases hclosed : s.hasClosedPool j.graph with
      | true => exact hwait (.single (.inline hclosed))
      | false =>
        have hregistered : GoesOn g plan J sync (.queued id j todo, s) _ :=
          .single (.register hclosed)
        split at hregistered
        · exact hwait hregistered
        · exact hsubmit hregistered
    | waiting j todo => exact hwait .refl
    | returned => exact ⟨s, .refl⟩
  obtain ⟨s, hsteps⟩ := hreturned
  exact ⟨s.drain, hsteps.trans goesOn_drain,
    (h.goesOn hB hF hsteps).pending_drain hB hF hpool rfl⟩

end

end KernelGraph.Session
