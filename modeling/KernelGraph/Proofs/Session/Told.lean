/-
  Resources know their tasks.

  A job is put into a pool before its resource is told the task.  In between the caller is still at
  work.  So a resource that waits for a job in an open pool knows the job's task, unless the caller
  that has submitted the job is about to tell.  `Told` states this of a world; every section keeps
  it.
-/
import KernelGraph.Proofs.Session.Generations

namespace KernelGraph

namespace Session

section
variable {s s' : Session} {g : Nat}

/-- The task is in an open pool. -/
def InOpenPool (s : Session) (id : Nat) : Prop :=
  ∃ (p : Nat) (pool : CompilePool), s.pools[p]? = some pool ∧ pool.isOpen = true ∧ id ∈ pool.ids

/-- A frame in which the resources that still wait are as they were. -/
structure Calm (s s' : Session) : Prop extends Frame s s' where
  settled : ∀ r < s.resources.size, ¬ s.IsCooked r → (s.resource r).Settles (s'.resource r)

theorem Calm.of_resources (hf : s.Frame s') (h : s'.resources = s.resources) : s.Calm s' := by
  refine ⟨hf, fun r _ _ => ?_⟩
  rw [Session.resource, Session.resource, h]
  exact .refl _

theorem Calm.around (h : s.Around s') : s.Calm s' := by
  refine ⟨h.frame, fun r hr hcooked => ?_⟩
  rw [h.kept r hr hcooked]
  exact .refl _

/-- What a resource is after one has given its task up. -/
theorem resource_takeTask (s : Session) (r i : Nat) : (s.takeTask r).resource i =
    (s.modifyResource r fun x => x.takeTask.2).resource i := by
  rw [← modifyResource_const]
  cases ht : (s.resource r).task with
  | none =>
    have hsame :
        (s.resource r).takeTask = (none, s.resource r) := by simp only [Resource.takeTask, ht]
    rw [modifyResource_eq_self (by rw [hsame]), Session.takeTask, hsame]
  | some id =>
    have hgiven : (s.resource r).takeTask = (some id, (s.resource r).takeTask.2) := by
      simp only [Resource.takeTask, ht]
    rw [Session.takeTask, hgiven]
    rfl

theorem Calm.takeTask (s : Session) (r : Nat) : s.Calm (s.takeTask r) := by
  refine ⟨.takeTask s r, fun i _ _ => ?_⟩
  rw [resource_takeTask]
  exact settles_modifyResource s r Resource.Settles.takeTask i

theorem Calm.comes {j : Job} {returned : Except (CallError ProgramError) (Program × Bool)}
    (h : Comes s j returned s') : s.Calm s' := by
  obtain ⟨⟨f, hf, hresources⟩, _, _⟩ := h.fields
  refine ⟨h.frame, fun i _ _ => ?_⟩
  have hsame : s'.resource i = (s.modifyResource j.resource f).resource i := by
    rw [Session.resource, Session.resource, hresources]
    rfl
  rw [hsame]
  exact settles_modifyResource s j.resource hf i

theorem Calm.reportFailure (s : Session) (g k : Nat) : s.Calm (s.reportFailure g k) := by
  refine .of_resources (.reportFailure s g k) ?_
  unfold Session.reportFailure
  dsimp only
  split
  · rfl
  · unfold Session.compileFailed
    split
    · rfl
    · rfl

theorem Calm.finishUpdate (s : Session) (g : Nat) (plan : Plan) :
    s.Calm (s.finishUpdate g plan) := by
  refine .of_resources (.finishUpdate s g plan) ?_
  unfold Session.finishUpdate
  split
  · by_cases h : plan.generation ≤ (s.graph g).published
    · rw [publish_of_le h]
    · rw [publish_of_lt (Nat.not_le.1 h)]
  · rfl

theorem Calm.finishClose (s : Session) (g : Nat) : s.Calm (s.finishClose g) := by
  refine ⟨.finishClose s g, fun r _ _ => ?_⟩
  have hsettles := settles_foldl_invalidate (s.allResources g) s r
  unfold Session.resource at hsettles ⊢
  rw [(fields_finishClose s g).1]
  exact hsettles

theorem Calm.resizeSets (h : s.Holdings) (g : Nat) : s.Calm (s.resizeSets g) := by
  refine ⟨.resizeSets h g, fun r _ _ => ?_⟩
  have hsettles := settles_foldl_invalidate (s.removedResources g) s r
  rw [resizeSets_eq h]
  generalize (s.removedResources g).foldl _ s = s' at hsettles ⊢
  exact hsettles

/-- The task of an update's job that is in an open pool was in it before. -/
theorem Frame.inOpenPool (h : s.Frame s') {id : Nat} {t : CompileTask}
    (ht : s.tasks[id]? = some t) (hid : s'.InOpenPool id) : s.InOpenPool id := by
  obtain ⟨p, pool, hpool, hopen, hmem⟩ := hid
  rcases h.pools p pool hpool id hmem with ⟨pool', hpool', hmem', hopen'⟩ | ⟨hle, _⟩
  · exact ⟨p, pool', hpool', hopen' hopen, hmem'⟩
  · have hlt := (Array.getElem?_eq_some_iff.1 ht).1
    omega

/-- The tasks of updates' jobs are not new after a frame. -/
theorem Frame.old_task (h : s.Frame s') {id : Nat} {t' : CompileTask}
    (ht : s'.tasks[id]? = some t') (hruntime : t'.job.IsRuntime) :
    ∃ t, s.tasks[id]? = some t ∧ t'.job = t.job := by
  rcases h.jobs id t' ht with hold | ⟨_, ⟨platform, hcook⟩, _⟩
  · exact hold
  · obtain ⟨n, plan, hkind⟩ := hruntime
    rw [hkind] at hcook
    cases hcook

/-! ## Told resources -/

/-- A resource that waits for a job in an open pool knows the task, or the caller that has submitted
    the job is about to tell it. -/
structure Told (s : Session) (φ : Nat → Phase) : Prop where
  lt : ∀ (p : Nat) (pool : CompilePool), s.pools[p]? = some pool → ∀ id ∈ pool.ids,
    id < s.tasks.size
  told : ∀ {id g k : Nat} {t : CompileTask}, s.tasks[id]? = some t → s.InOpenPool id →
    t.job.IsRuntime → s.Owns g k t.job.resource → s.Awaits t.job →
      (s.resource t.job.resource).task = some id ∨
      ∃ plan failed jobs, φ g = .submitting plan failed jobs (some (id, t.job))
  untold : ∀ {g id : Nat} {plan : Plan} {failed : List Nat} {jobs : List Job} {j : Job},
    φ g = .submitting plan failed jobs (some (id, j)) → g < s.graphs.size ∧ j.IsRuntime ∧
      (∃ t, s.tasks[id]? = some t ∧ t.job = j) ∧
      ∀ (p : Nat) (pool : CompilePool), s.pools[p]? = some pool → id ∈ pool.ids →
        p = (s.graph g).options.pool

variable {φ : Nat → Phase}

theorem Told.lt_frame (h : s.Told φ) (hf : s.Frame s') (p : Nat) (pool : CompilePool)
    (hpool : s'.pools[p]? = some pool) (id : Nat) (hid : id ∈ pool.ids) : id < s'.tasks.size := by
  rcases hf.pools p pool hpool id hid with ⟨pool', hpool', hid', _⟩ | ⟨_, hlt⟩
  · exact Nat.lt_of_lt_of_le (h.lt p pool' hpool' id hid') hf.tasks
  · exact hlt

theorem Told.untold_frame (h : s.Told φ) (hf : s.Frame s') {id : Nat} {plan : Plan}
    {failed : List Nat} {jobs : List Job} {j : Job}
    (hphase : φ g = .submitting plan failed jobs (some (id, j))) :
    g < s'.graphs.size ∧ j.IsRuntime ∧ (∃ t, s'.tasks[id]? = some t ∧ t.job = j) ∧
      ∀ (p : Nat) (pool : CompilePool), s'.pools[p]? = some pool → id ∈ pool.ids →
        p = (s'.graph g).options.pool := by
  obtain ⟨hg, hruntime, ⟨t, ht, hjob⟩, hpool⟩ := h.untold hphase
  have hlt := (Array.getElem?_eq_some_iff.1 ht).1
  refine ⟨Nat.lt_of_lt_of_le hg hf.size, hruntime, ?_, fun p pool hp hid => ?_⟩
  · have hlt' := Nat.lt_of_lt_of_le hlt hf.tasks
    rcases hf.jobs id _ (Array.getElem?_eq_getElem hlt') with ⟨t₀, ht₀, hjob₀⟩ | ⟨hle, _⟩
    · rw [ht] at ht₀
      cases ht₀
      exact ⟨_, Array.getElem?_eq_getElem hlt', hjob₀.trans hjob⟩
    · omega
  · rw [hf.options g hg]
    rcases hf.pools p pool hp id hid with ⟨pool', hp', hid', _⟩ | ⟨hle, _⟩
    · exact hpool p pool' hp' hid'
    · omega

/-- The resources after one was told a task. -/
theorem resource_register (s : Session) (id : Nat) (j : Job) (i : Nat) :
    (s.register id j).resource i =
      (s.modifyResource j.resource fun x => (x.setTask id j.generation).2).resource i := by
  rw [← modifyResource_const]
  unfold Session.register
  dsimp only
  split
  · rfl
  · rfl

theorem task_register_of_awaits {j : Job} (hlt : j.resource < s.resources.size) (hj : s.Awaits j)
    (id : Nat) : ((s.register id j).resource j.resource).task = some id := by
  rw [resource_register, resource_modifyResource, if_pos ⟨rfl, hlt⟩, Resource.setTask,
    if_pos (by rw [hj.1, hj.2]; simp)]

theorem resource_register_of_not_awaits {j : Job} (hj : ¬ s.Awaits j) (id i : Nat) :
    (s.register id j).resource i = s.resource i := by
  rw [resource_register, modifyResource_eq_self]
  rw [Resource.setTask, if_neg]
  simpa [Awaits] using hj

/-- The caller of a graph goes on when it has told what was to be told. -/
theorem Told.enter (h : s.Told φ) (a : Phase)
    (ha : ∀ plan failed jobs id j, a ≠ .submitting plan failed jobs (some (id, j)))
    (hold : ∀ {id plan failed jobs j k}, φ g = .submitting plan failed jobs (some (id, j)) →
      s.InOpenPool id → s.Owns g k j.resource → s.Awaits j →
      (s.resource j.resource).task = some id) :
    s.Told (Function.update φ g a) where
  lt := h.lt
  told {id i k t} ht hid hruntime ho hawaits := by
    rcases h.told ht hid hruntime ho hawaits with htold | ⟨plan, failed, jobs, hphase⟩
    · exact Or.inl htold
    · by_cases hi : i = g
      · subst hi
        exact Or.inl (hold hphase hid ho hawaits)
      · refine Or.inr ⟨plan, failed, jobs, ?_⟩
        rw [Function.update_of_ne hi]
        exact hphase
  untold {i id plan failed jobs j} hphase := by
    by_cases hi : i = g
    · subst hi
      rw [Function.update_self] at hphase
      exact absurd hphase (ha plan failed jobs id j)
    · rw [Function.update_of_ne hi] at hphase
      exact h.untold hphase

end

end Session

namespace World

open Session

variable {w w' : World} {g : Nat}

theorem Orders.fits_of_get (h : w.Orders) {id : Nat} {t : CompileTask}
    (ht : w.session.tasks[id]? = some t) (hruntime : t.job.IsRuntime) :
    ∃ n plan, t.job.kind = .runtime n plan ∧ JobFits w.session t.job n plan := by
  obtain ⟨n, plan, hkind⟩ := hruntime
  exact ⟨n, plan, hkind, h.fits t (Array.mem_of_getElem? ht) n plan hkind⟩

/-- **Calm sections** leave resources told. -/
theorem told_calm (ho : w.Orders) (h : w.session.Told w.phase) {s' : Session}
    (hc : w.session.Calm s') : s'.Told w.phase where
  lt := h.lt_frame hc.toFrame
  told {id g k t'} ht' hid hruntime howns hawaits := by
    obtain ⟨t, ht, hjob⟩ := hc.old_task ht' hruntime
    rw [hjob] at hruntime howns hawaits ⊢
    obtain ⟨n, plan, -, hfits⟩ := ho.fits_of_get ht hruntime
    have hsame : s'.resource t.job.resource = w.session.resource t.job.resource :=
      (hc.settled _ hfits.resource hfits.uncooked).same hawaits.2
    rw [hsame]
    exact h.told ht (hc.inOpenPool ht hid) hruntime (hc.owns howns)
      (hfits.awaits hc.toFrame hawaits)
  untold := h.untold_frame hc.toFrame

/-- An update prepares: what it renews waits for jobs that are still to come. -/
theorem told_renews (ho : w.Orders) (h : w.session.Told w.phase) {s' : Session}
    (hr : Renews g w.session s') {n : Nat} (hphase : w.phase g = .waiting n)
    (hopen : (w.session.graph g).closed = false) : s'.Told w.phase where
  lt := by
    rw [hr.pools, hr.tasks]
    exact h.lt
  told {id i k t} ht hid hruntime howns hawaits := by
    rw [hr.tasks] at ht
    have hid' : w.session.InOpenPool id := by
      rw [InOpenPool, ← hr.pools]
      exact hid
    obtain ⟨m, plan, hkind, hfits⟩ := ho.fits_of_get ht hruntime
    have howns' : w.session.Owns i k t.job.resource := by
      rcases hr.fresh howns with howns' | hle
      · exact howns'
      · exact absurd hfits.resource (Nat.not_lt.2 hle)
    rw [Awaits] at hawaits
    rcases hr.kept _ hfits.resource with heq | ⟨⟨k', ho'⟩, hgeneration⟩
    · rw [heq] at hawaits ⊢
      exact h.told ht hid' hruntime howns' hawaits
    · -- the update's number is new, so no task bears it
      have hwaits : Waits w.session w.calls g n := by
        have hfits := ho.phases g
        rw [hphase] at hfits
        exact hfits
      have hlt := hwaits.unmarked t.job.mark
        (Or.inr ⟨t, Array.mem_of_getElem? ht, hruntime, rfl⟩) (hfits.owner g k' ho').1.symm
      have hmark : t.job.mark.generation = t.job.generation := rfl
      have hnumber := hwaits.number hopen
      have heq := hawaits.1
      omega
  untold {i id plan failed jobs j} hphase' := by
    obtain ⟨hg, hruntime, htask, hpool⟩ := h.untold hphase'
    have hoptions : (s'.graph i).options = (w.session.graph i).options := by
      by_cases hi : i = g
      · rw [hi, hr.graph]
      · rw [hr.other i hi]
    rw [hr.size, hr.tasks, hr.pools, hoptions]
    exact ⟨hg, hruntime, htask, hpool⟩

/-- **An update prepares the kernels.** -/
theorem told_prepare (hs : w.session.Holdings) (ho : w.Orders) (h : w.session.Told w.phase)
    {n : Nat} {d : Dialect} (hwaiting : w.phase g = .waiting n)
    (hopen : (w.session.graph g).closed = false) {prepared : Except GraphError Prepared}
    {s' : Session}
    (hout : prepareKernels g d ((w.session.resizeSets g).graph g).definition.compilable
      { session := w.session.resizeSets g } = (prepared, s')) :
    (s'.lock g).Told w.phase ∧
      ∀ p, prepared = .ok p → (p.session.setPending g (p.jobs.map Prod.fst)).Told w.phase := by
  have hg : g < w.session.graphs.size := by
    have hfits := ho.phases g
    rw [hwaiting] at hfits
    exact hfits.graph
  have hcalm : w.session.Calm (w.session.resizeSets g) := .resizeSets hs g
  have hresized : { w with session := w.session.resizeSets g }.Orders :=
    ho.frame hcalm.toFrame fun i _ _ _ => by rw [graph_resizeSets_eq hs]
  obtain ⟨_, hrenews, hall⟩ := (Preparation.resizeSets hs hg).prepareKernels (d := d)
  rw [hout] at hrenews hall
  have hopen' : ((w.session.resizeSets g).graph g).closed = false := by
    rw [graph_resizeSets_eq hs]
    exact hopen
  have hnext : s'.Told w.phase :=
    told_renews hresized (told_calm ho h hcalm) hrenews hwaiting hopen'
  have hprepared : { w with session := s' }.Orders := hresized.renews hrenews hwaiting hopen'
  refine ⟨told_calm hprepared hnext (.of_resources (.lock s' g) rfl), fun p hp => ?_⟩
  rw [(hall p hp).1]
  exact told_calm hprepared hnext (.of_resources (.setPending s' g _) rfl)

/-- **A job is submitted**: its caller is about to tell. -/
theorem told_enqueue (ho : w.Orders) (h : w.session.Told w.phase) {j : Job} {plan : Plan}
    {jobs : List Job} (hphase : w.phase g = .submitting plan [] (j :: jobs) none) :
    (w.session.enqueue j).Told (Function.update w.phase g
      (.submitting plan [] jobs (some (w.session.tasks.size, j)))) := by
  have hsubmits : Submits w.session w.calls g plan [] (j :: jobs) := by
    have hfits := ho.phases g
    rw [hphase] at hfits
    exact hfits
  obtain ⟨hgraph, hkind, hjob⟩ := hsubmits.jobs j (List.mem_cons_self ..)
  have hsize : (w.session.enqueue j).tasks.size = w.session.tasks.size + 1 := Array.size_push _
  have htask : ∀ {id : Nat} {t : CompileTask}, (w.session.enqueue j).tasks[id]? = some t →
      w.session.tasks[id]? = some t ∨ id = w.session.tasks.size ∧ t = { job := j } := by
    intro id t ht
    have hpush : (w.session.tasks.push { job := j })[id]? = some t := ht
    rw [Array.getElem?_push] at hpush
    split at hpush
    · rename_i hi
      exact Or.inr ⟨hi, (Option.some.inj hpush).symm⟩
    · exact Or.inl hpush
  have hkept : ∀ {id : Nat} {t : CompileTask}, w.session.tasks[id]? = some t →
      (w.session.enqueue j).tasks[id]? = some t := by
    intro id t ht
    show (w.session.tasks.push { job := j })[id]? = some t
    rw [Array.getElem?_push, if_neg (Nat.ne_of_lt (Array.getElem?_eq_some_iff.1 ht).1), ht]
  -- the new task is the only one that a pool has in addition
  have hpools : ∀ {p id : Nat} {pool : CompilePool}, (w.session.enqueue j).pools[p]? = some pool →
      id ∈ pool.ids → (∃ pool', w.session.pools[p]? = some pool' ∧ pool'.isOpen = pool.isOpen ∧
        id ∈ pool'.ids) ∨ id = w.session.tasks.size ∧ p = (w.session.graph g).options.pool := by
    intro p id pool hp hid
    have hmodify : (w.session.pools.modify (w.session.graph j.graph).options.pool fun x =>
        { x with queue := x.queue ++ [w.session.tasks.size] })[p]? = some pool := hp
    rw [Array.getElem?_modify] at hmodify
    split at hmodify
    · rename_i heq
      obtain ⟨pool', hp', rfl⟩ := Option.map_eq_some_iff.1 hmodify
      have hid' : id ∈ pool'.ids ++ [w.session.tasks.size] := by
        unfold CompilePool.ids at hid ⊢
        rw [List.append_assoc]
        exact hid
      rcases List.mem_append.1 hid' with hid' | hid'
      · exact Or.inl ⟨pool', hp', rfl, hid'⟩
      · exact Or.inr ⟨List.mem_singleton.1 hid', by rw [← heq, hgraph]⟩
    · exact Or.inl ⟨pool, hmodify, rfl, hid⟩
  refine ⟨fun p pool hp id hid => ?_, fun {id i k t} ht hid hruntime howns hawaits => ?_,
    fun {i id plan' failed jobs' j'} hphase' => ?_⟩
  · rw [hsize]
    rcases hpools hp hid with ⟨pool', hp', _, hid'⟩ | ⟨rfl, _⟩
    · exact Nat.lt_succ_of_lt (h.lt p pool' hp' id hid')
    · exact Nat.lt_succ_self _
  · rcases htask ht with ht | ⟨rfl, rfl⟩
    · obtain ⟨p, pool, hp, hopen, hid⟩ := hid
      have hid' : w.session.InOpenPool id := by
        rcases hpools hp hid with ⟨pool', hp', hopen', hid'⟩ | ⟨rfl, _⟩
        · exact ⟨p, pool', hp', hopen'.trans hopen, hid'⟩
        · exact absurd (Array.getElem?_eq_some_iff.1 ht).1 (Nat.lt_irrefl _)
      rcases h.told ht hid' hruntime howns hawaits with htold | ⟨plan', failed, jobs', hphase'⟩
      · exact Or.inl htold
      · refine Or.inr ⟨plan', failed, jobs', ?_⟩
        rw [Function.update_of_ne, hphase']
        rintro rfl
        rw [hphase] at hphase'
        cases hphase'
    · obtain ⟨rfl, _⟩ := hjob.owner i k howns
      refine Or.inr ⟨plan, [], jobs, ?_⟩
      rw [hgraph, Function.update_self]
  · by_cases hi : i = g
    · subst hi
      rw [Function.update_self] at hphase'
      cases hphase'
      refine ⟨hsubmits.graph, ⟨_, _, hkind⟩, ⟨{ job := j }, ?_, rfl⟩, fun p pool hp hid => ?_⟩
      · exact Array.getElem?_push_size
      · rcases hpools hp hid with ⟨pool', hp', _, hid'⟩ | ⟨_, hp'⟩
        · exact absurd (h.lt p pool' hp' _ hid') (Nat.lt_irrefl _)
        · exact hp'
    · rw [Function.update_of_ne hi] at hphase'
      obtain ⟨hg, hruntime, ⟨t, ht, hj'⟩, hpool⟩ := h.untold hphase'
      refine ⟨hg, hruntime, ⟨t, hkept ht, hj'⟩, fun p pool hp hid => ?_⟩
      rcases hpools hp hid with ⟨pool', hp', _, hid'⟩ | ⟨rfl, _⟩
      · exact hpool p pool' hp' hid'
      · exact absurd (Array.getElem?_eq_some_iff.1 ht).1 (Nat.lt_irrefl _)

/-- **The resource of a submitted job is told.** -/
theorem told_register (ho : w.Orders) (h : w.session.Told w.phase) {id : Nat} {j : Job}
    {plan : Plan} {jobs : List Job}
    (hphase : w.phase g = .submitting plan [] jobs (some (id, j))) :
    (w.session.register id j).Told (Function.update w.phase g (.submitting plan [] jobs none)) := by
  have hf : w.session.Frame (w.session.register id j) := .register w.session id j
  obtain ⟨_, hruntime, ⟨t, ht, rfl⟩, _⟩ := h.untold hphase
  obtain ⟨n, plan', hkind, hfits⟩ := ho.fits_of_get ht hruntime
  have htold : (w.session.register id t.job).Told w.phase := by
    refine ⟨h.lt_frame hf, fun {id' i k t₁} ht₁ hid hruntime' howns hawaits => ?_,
      h.untold_frame hf⟩
    obtain ⟨t', ht', hjob⟩ := hf.old_task ht₁ hruntime'
    rw [hjob] at hruntime' howns hawaits ⊢
    obtain ⟨n', plan'', hkind', hfits'⟩ := ho.fits_of_get ht' hruntime'
    have hawaits' := hfits'.awaits hf hawaits
    have howns' := hf.owns howns
    rcases h.told ht' (hf.inOpenPool ht' hid) hruntime' howns' hawaits' with hold | huntold
    · left
      by_cases hj : w.session.Awaits t.job
      · by_cases hr : t.job.resource = t'.job.resource
        · -- one resource waits for one job
          have hmark : t.job.mark = t'.job.mark := by
            obtain ⟨hg', hk'⟩ := hfits'.owner i k howns'
            rw [← hr] at howns'
            obtain ⟨hg, hk⟩ := hfits.owner i k howns'
            have hgeneration : t.job.generation = t'.job.generation := by
              rw [← hj.1, ← hawaits'.1, hr]
            rw [Job.mark, Job.mark, ← hg, ← hk, ← hg', ← hk', hgeneration]
          rw [← ho.unique ht ht' hruntime hruntime' hmark, ← hr]
          exact task_register_of_awaits hfits.resource hj id
        · rw [resource_register, resource_modifyResource, if_neg fun h => hr h.1]
          exact hold
      · rw [resource_register_of_not_awaits hj]
        exact hold
    · exact Or.inr huntold
  refine htold.enter _ (fun _ _ _ _ _ h => by cases h) fun hphase' _ _ hawaits => ?_
  rw [hphase] at hphase'
  cases hphase'
  exact task_register_of_awaits hfits.resource (hfits.awaits hf hawaits) id

/-- **Every section** leaves resources told. -/
theorem Orderly.told_step (ho : w.Orderly) (h : w.session.Told w.phase) (hstep : Step w w') :
    w'.session.Told w'.phase := by
  have horders := ho.orders
  -- a caller that has nothing to tell goes on
  have hnone : ∀ {s : Session} {g : Nat} {a : Phase}, s.Told w.phase →
      (∀ plan failed jobs id j, a ≠ .submitting plan failed jobs (some (id, j))) →
      (∀ plan failed jobs id j, w.phase g ≠ .submitting plan failed jobs (some (id, j))) →
      s.Told (Function.update w.phase g a) := by
    intro s g a htold ha hw
    exact htold.enter a ha fun hphase => absurd hphase (hw _ _ _ _ _)
  cases hstep with
  | around haround => exact told_calm horders h (.around haround)
  | take r => exact told_calm horders h (.takeTask w.session r)
  | @comeBack t _ returned =>
    exact told_calm horders h (.comes (completeJob_comes w.session t.job returned))
  | @begin g hg hidle _ =>
    refine hnone (told_calm horders h ?_) (by simp) (by simp [hidle])
    refine .of_resources ?_ rfl
    exact .modifyGraph w.session g fun x => ⟨rfl, Nat.le_succ _, fun h => h, Or.inl, Or.inl rfl⟩
  | quit hwaiting _ => exact hnone h (by simp) (by simp [hwaiting])
  | @prepare g n d p s' hwaiting hopen hp =>
    have htold := (told_prepare ho.holdings horders h hwaiting hopen hp).2 p rfl
    exact hnone htold (by simp) (by simp [hwaiting])
  | @stop g n d e s' hwaiting hopen hp =>
    have htold := (told_prepare ho.holdings horders h hwaiting hopen hp).1
    exact hnone htold (by simp) (by simp [hwaiting])
  | @report g k plan failed jobs hphase =>
    exact hnone (told_calm horders h (.reportFailure w.session g k)) (by simp) (by simp [hphase])
  | enqueue hphase => exact told_enqueue horders h hphase
  | register hphase => exact told_register horders h hphase
  | @inline g id plan j jobs hphase hclosed =>
    refine h.enter _ (by simp) fun hphase' hid _ _ => ?_
    rw [hphase] at hphase'
    cases hphase'
    -- an open pool is not closed
    obtain ⟨p, pool, hp, hpool, hmem⟩ := hid
    rw [(h.untold hphase).2.2.2 p pool hp hmem] at hp
    rw [hasClosedPool, Array.getD_eq_getD_getElem?, hp, Option.getD_some, hpool] at hclosed
    cases hclosed
  | @finish g plan hphase =>
    exact hnone (told_calm horders h (.finishUpdate w.session g plan)) (by simp) (by simp [hphase])
  | @beginClose g hg hopen =>
    refine told_calm horders h (.of_resources ?_ rfl)
    exact .modifyGraph w.session g fun x =>
      ⟨rfl, Nat.le_succ _, fun _ => rfl, fun _ => Or.inr (Nat.lt_succ_self _), Or.inl rfl⟩
  | @finishClose g _ =>
    dsimp only
    exact told_calm horders h (.finishClose w.session g)

/-- **In every world that can be reached**, resources know their tasks. -/
theorem Reachable.told (h : w.Reachable) : w.session.Told w.phase := by
  obtain ⟨files, scripts, limit, hsteps⟩ := h
  induction hsteps with
  | refl =>
    refine ⟨fun p pool hp id hid => ?_, fun ht => ?_, fun hphase => ?_⟩
    · -- the one pool that there is from the start has no tasks
      obtain ⟨hlt, rfl⟩ := Array.getElem?_eq_some_iff.1 hp
      obtain rfl : p = 0 := Nat.lt_one_iff.1 hlt
      cases hid
    · cases ht
    · cases hphase
  | tail hsteps hstep ih => exact (Reachable.orderly ⟨_, _, _, hsteps⟩).told_step ih hstep

end World

end KernelGraph
