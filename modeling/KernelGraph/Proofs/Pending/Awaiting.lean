/-
  Nobody waits in vain.

  A resource that waits for a compile waits for a job which is still to come back: a caller has it
  to submit, or it is underway, in a task that nobody has cancelled.  The resource knows the task,
  or the caller that has submitted the job is about to tell.

  So when an update takes the tasks of its resources away, those that still wait belong to callers
  that are at work, and their kernels have sources.
-/
import KernelGraph.Proofs.Pending.Sections
import KernelGraph.Proofs.Session.Asynchronous

namespace KernelGraph.Ledger

open Session

variable {L L' : Ledger} {c g k r id : Nat} {j : Job} {t : CompileTask}

/-- A task that is to bring the resource what it waits for. -/
def Underway (L : Ledger) (r id : Nat) : Prop := ∃ t, L.session.tasks[id]? = some t ∧
  t.job.IsRuntime ∧ t.job.resource = r ∧ t.job.generation = (L.session.resource r).generation ∧
  t.done = false ∧ t.cancelled = false ∧ L.landing id = none ∧
  ((L.session.resource r).task = some id ∨ ∃ c, (L.callers c).untold? = some (id, t.job))

/-- Every resource that waits waits for a job that is still to come back. -/
structure Awaited (L : Ledger) : Prop where
  landed : ∀ id, L.landing id ≠ none → id < L.session.tasks.size
  told : ∀ {g k r id : Nat}, L.session.Owns g k r → (L.session.resource r).task = some id →
    ∃ t, L.session.tasks[id]? = some t ∧ t.job.resource = r
  awaited : ∀ {g k r : Nat}, L.session.Owns g k r → (L.session.resource r).state = .compiling →
    (∃ c, ∃ j ∈ (L.callers c).jobs,
      j.resource = r ∧ j.generation = (L.session.resource r).generation) ∨ ∃ id, L.Underway r id
  cleared : L.Cleared

/-! ## Sections that begin no compile -/

/-- **A section** that begins no compile, submits none and ends none that a resource waits for. -/
theorem Awaited.next (h : L.Awaited) (hcalls : L.session.Calls L.callers) {s' : Session}
    {landing' : Nat → Option (Option Program × CompileResult)} {waits' : Nat → Bool}
    (hframe : L.session.Frame s')
    (hdefinition : ∀ {c g n}, (L.callers c).update? = some (g, n) →
      (s'.graph g).definition = (L.session.graph g).definition)
    (hlanded : ∀ id, landing' id ≠ none → id < s'.tasks.size)
    (htold : ∀ {g k r id : Nat}, L.session.Owns g k r → (s'.resource r).task = some id →
      ∃ t, s'.tasks[id]? = some t ∧ t.job.resource = r)
    (hunderway : ∀ {g k r id : Nat}, L.session.Owns g k r → (s'.resource r).state = .compiling →
      L.Underway r id → Underway ⟨s', L.callers, landing', waits'⟩ r id) :
    Awaited ⟨s', L.callers, landing', waits'⟩ where
  landed := hlanded
  told ho := htold (hframe.owns ho)
  awaited {g k r} ho hstate := by
    have hold := hframe.owns ho
    have hs := hcalls.holdings
    have heased := hframe.eased r (hs.lt hold) (hs.uncooked hold)
    rcases h.awaited hold (heased.compiling hstate) with ⟨c, j, hj, hr, hgeneration⟩ | ⟨id, hid⟩
    · exact Or.inl ⟨c, j, hj, hr, hgeneration.trans heased.generation.symm⟩
    · exact Or.inr ⟨id, hunderway hold hstate hid⟩
  cleared c g n hwaiting hn k r ho hstate := by
    have hwaiting' : L.callers c = .waiting g n := hwaiting
    have hupdate : (L.callers c).update? = some (g, n) := by
      rw [hwaiting']
      rfl
    have hold := hframe.owns ho
    have hs := hcalls.holdings
    have heased := hframe.eased r (hs.lt hold) (hs.uncooked hold)
    -- no later update has begun
    have hgeneration : (L.session.graph g).generation = n := by
      have hle := (hcalls.callers c).le hupdate
      have hle' := hframe.generation g
      dsimp only at hn
      omega
    have hcompiles := h.cleared c g n hwaiting' hgeneration hold (heased.compiling hstate)
    rw [Compiles]
    dsimp only
    rw [hdefinition hupdate]
    exact hcompiles

/-- **Resources lapse**, and tasks that a resource waits for stay underway. -/
theorem Awaited.lapse (h : L.Awaited) (hcalls : L.session.Calls L.callers) {s' : Session}
    {landing' : Nat → Option (Option Program × CompileResult)} {waits' : Nat → Bool}
    (hframe : L.session.Frame s')
    (hdefinition : ∀ {c g n}, (L.callers c).update? = some (g, n) →
      (s'.graph g).definition = (L.session.graph g).definition)
    (hlanded : ∀ id, landing' id ≠ none → id < s'.tasks.size)
    (hlapses : ∀ {g k r : Nat}, L.session.Owns g k r →
      (L.session.resource r).Lapses (s'.resource r))
    (htasks : ∀ {g k id : Nat} {t : CompileTask}, L.session.tasks[id]? = some t →
      t.job.IsRuntime → t.done = false → t.cancelled = false → L.landing id = none →
      L.session.Owns g k t.job.resource → L.session.Awaits t.job → s'.Awaits t.job →
      (∃ t', s'.tasks[id]? = some t' ∧ t'.job = t.job ∧ t'.done = false ∧ t'.cancelled = false) ∧
        landing' id = none) :
    Awaited ⟨s', L.callers, landing', waits'⟩ := by
  refine h.next hcalls hframe hdefinition hlanded (fun {g k r id} ho htask => ?_)
    fun {g k r id} ho hstate hid => ?_
  · rw [(hlapses ho).told htask] at htask
    obtain ⟨t, ht, hr⟩ := h.told ho htask
    obtain ⟨t', ht', hjob⟩ := hframe.elapses.kept ht
    exact ⟨t', ht', by rw [hjob]; exact hr⟩
  · have hsame := (hlapses ho).same hstate
    obtain ⟨t, ht, hruntime, rfl, hgeneration, hdone, hcancelled, hlanding, htold⟩ := hid
    have hawaits' : s'.Awaits t.job := ⟨by rw [hsame]; exact hgeneration.symm, hstate⟩
    have hawaits : L.session.Awaits t.job := ⟨hgeneration.symm, by rw [← hsame]; exact hstate⟩
    obtain ⟨⟨t', ht', hjob, hdone', hcancelled'⟩, hlanding'⟩ :=
      htasks ht hruntime hdone hcancelled hlanding ho hawaits hawaits'
    refine ⟨t', ht', ?_⟩
    dsimp only
    rw [hjob, hsame]
    exact ⟨hruntime, rfl, hgeneration, hdone', hcancelled', hlanding', htold⟩

/-- **A caller goes on** and keeps its jobs in view: what it was to tell is told, or nobody wants to
    know any more. -/
theorem Awaited.enter (h : L.Awaited) {x : Caller} (hjobs : ∀ j ∈ (L.callers c).jobs, j ∈ x.jobs)
    (huntold : ∀ {id j t}, (L.callers c).untold? = some (id, j) → L.session.tasks[id]? = some t →
      t.done = false → L.session.Awaits j → (L.session.resource j.resource).task = some id)
    (hcleared : ∀ {g n k r}, x = .waiting g n → (L.session.graph g).generation = n →
      L.session.Owns g k r → (L.session.resource r).state = .compiling → L.session.Compiles g k) :
    (L.enter c x).Awaited where
  landed := h.landed
  told := h.told
  awaited {g k r} ho hstate := by
    rcases h.awaited ho hstate with ⟨c', j, hj, hr⟩ | ⟨id, t, ht, hruntime, rfl, hgeneration, hdone,
      hcancelled, hlanding, htold⟩
    · refine Or.inl ⟨c', j, ?_, hr⟩
      by_cases hc : c' = c
      · rw [hc] at hj
        rw [hc, callers_enter_self]
        exact hjobs j hj
      · rw [callers_enter_of_ne L hc]
        exact hj
    · refine Or.inr ⟨id, t, ht, hruntime, rfl, hgeneration, hdone, hcancelled, hlanding, ?_⟩
      rcases htold with htold | ⟨c', hc'⟩
      · exact Or.inl htold
      · by_cases hc : c' = c
        · rw [hc] at hc'
          exact Or.inl (huntold hc' ht hdone ⟨hgeneration.symm, hstate⟩)
        · refine Or.inr ⟨c', ?_⟩
          rw [callers_enter_of_ne L hc]
          exact hc'
  cleared c' g n hwaiting hn k r ho hstate := by
    by_cases hc : c' = c
    · rw [hc, callers_enter_self] at hwaiting
      exact hcleared hwaiting hn ho hstate
    · rw [callers_enter_of_ne L hc] at hwaiting
      exact h.cleared c' g n hwaiting hn ho hstate

/-- **A section** that leaves resources and tasks. -/
theorem Awaited.same (h : L.Awaited) (hcalls : L.session.Calls L.callers) {s' : Session}
    {waits' : Nat → Bool} (hframe : L.session.Frame s')
    (hdefinition : ∀ {c g n}, (L.callers c).update? = some (g, n) →
      (s'.graph g).definition = (L.session.graph g).definition)
    (hresources : s'.resources = L.session.resources) (htasks : s'.tasks = L.session.tasks) :
    Awaited ⟨s', L.callers, L.landing, waits'⟩ := by
  refine h.lapse hcalls hframe hdefinition (fun id hid => ?_) (fun {g k r} _ => Or.inl ?_)
    fun {g k id t} ht _ hdone hcancelled hlanding _ _ _ =>
      ⟨⟨t, ?_, rfl, hdone, hcancelled⟩, hlanding⟩
  · rw [htasks]
    exact h.landed id hid
  · rw [Session.resource, Session.resource, hresources]
  · rw [htasks]
    exact ht

/-! ## Jobs of one resource -/

/-- The job of an update is one of the kernel that has its resource. -/
theorem mark_of_owns {n : Nat} (hserves : L.session.Serves g n j)
    {i : Nat} (ho : L.session.Owns i k j.resource) : j.mark = ⟨i, k, j.generation⟩ ∧ i = g := by
  obtain ⟨plan, -, hfits⟩ := hserves.job
  obtain ⟨rfl, rfl⟩ := hfits.owner i k ho
  exact ⟨rfl, hserves.graph⟩

theorem mark_of_task (hcalls : L.session.Calls L.callers) (ht : L.session.tasks[id]? = some t)
    (hruntime : t.job.IsRuntime) (ho : L.session.Owns g k t.job.resource) :
    t.job.mark = ⟨g, k, t.job.generation⟩ := by
  obtain ⟨n, plan, hkind⟩ := hruntime
  obtain ⟨rfl, rfl⟩ := (hcalls.fits ht hkind).owner g k ho
  rfl

/-- **The task of a resource that waits** is underway. -/
theorem Awaited.underway (h : L.Awaited) (hcalls : L.session.Calls L.callers)
    (ht : L.session.tasks[id]? = some t) (hruntime : t.job.IsRuntime)
    (ho : L.session.Owns g k t.job.resource) (hawaits : L.session.Awaits t.job) :
    L.Underway t.job.resource id := by
  have hmark := mark_of_task hcalls ht hruntime ho
  rcases h.awaited ho hawaits.2 with ⟨c, j, hj, hr, hgeneration⟩ | ⟨id', hid⟩
  · -- a job that has a task is nobody's to submit
    obtain ⟨i, n, -, hserves⟩ := (hcalls.callers c).jobs j hj
    rw [← hr] at ho
    have hmark' := (mark_of_owns hserves ho).1
    refine absurd ?_ ((hcalls.callers c).unsubmitted j hj id t ht hruntime)
    rw [hmark, hmark', hgeneration, hawaits.1]
  · have hid' := hid
    obtain ⟨t', ht', hruntime', hr, hgeneration, _⟩ := hid'
    have hmark' := mark_of_task hcalls ht' hruntime' (by rw [hr]; exact ho)
    have heq := hcalls.unique ht ht' hruntime hruntime'
      (by rw [hmark, hmark', hgeneration, hawaits.1])
    rw [heq]
    exact hid

/-- A task that was cancelled is none that its resource waits for. -/
theorem Awaited.not_awaits (h : L.Awaited) (hcalls : L.session.Calls L.callers)
    (ht : L.session.tasks[id]? = some t) (hruntime : t.job.IsRuntime)
    (hcancelled : t.cancelled = true) (ho : L.session.Owns g k t.job.resource) :
    ¬ L.session.Awaits t.job := by
  intro hawaits
  obtain ⟨t', ht', _, _, _, _, hnot, _⟩ := h.underway hcalls ht hruntime ho hawaits
  rw [ht] at ht'
  cases ht'
  rw [hcancelled] at hnot
  cases hnot

/-- A resource that waits, but knows no task, waits for a job of a caller. -/
theorem Awaited.compiles (h : L.Awaited) (hcalls : L.session.Calls L.callers)
    (ho : L.session.Owns g k r) (hstate : (L.session.resource r).state = .compiling)
    (htask : (L.session.resource r).task = none) : L.session.Compiles g k := by
  have hserved : ∀ {i n j}, L.session.Serves i n j → j.resource = r → L.session.Compiles g k := by
    rintro i n j hserves rfl
    obtain ⟨hmark, rfl⟩ := mark_of_owns hserves ho
    have hkernel : j.kernel = k := congrArg HookMark.kernel hmark
    rw [← hkernel]
    exact hserves.compiles
  rcases h.awaited ho hstate with ⟨c, j, hj, hr, _⟩ | ⟨id, t, ht, _, hr, _, _, _, _, htold⟩
  · obtain ⟨_, _, -, hserves⟩ := (hcalls.callers c).jobs j hj
    exact hserved hserves hr
  · rcases htold with htold | ⟨c, hc⟩
    · rw [htask] at htold
      cases htold
    · obtain ⟨-, _, _, -, hserves⟩ := (hcalls.callers c).untold hc
      exact hserved hserves hr

/-! ## Taking tasks away -/

theorem task_modifyTask_of_ne {s : Session} {id' : Nat} {f : CompileTask → CompileTask}
    (ht : s.tasks[id]? = some t) (hne : id' ≠ id) : (s.modifyTask id' f).tasks[id]? = some t := by
  show (s.tasks.modify id' f)[id]? = some t
  rw [Array.getElem?_modify, if_neg hne]
  exact ht

/-- A task that no resource gives up is as it was. -/
theorem task_foldl_takeTask (rs : List Nat) (s : Session) (ht : s.tasks[id]? = some t)
    (hrs : ∀ r ∈ rs, (s.resource r).task ≠ some id) :
    (rs.foldl takeTask s).tasks[id]? = some t := by
  induction rs generalizing s with
  | nil => exact ht
  | cons r rs ih =>
    rw [List.foldl_cons]
    refine ih _ ?_ fun i hi htask => hrs i (List.mem_cons_of_mem _ hi) ?_
    · have hne := hrs r (List.mem_cons_self ..)
      unfold Session.takeTask Resource.takeTask
      cases htask : (s.resource r).task with
      | none => exact ht
      | some id' =>
        rw [htask] at hne
        exact task_modifyTask_of_ne (s := s) ht fun heq => hne (by rw [heq])
    · rw [resource_takeTask, resource_modifyResource] at htask
      split at htask
      · rw [(Resource.Lapses.takeTask _).told htask] at htask
        exact htask
      · exact htask

theorem task_takeTask (x : Resource) : x.takeTask.2.task = none := by
  unfold Resource.takeTask
  split
  · assumption
  · rfl

theorem resource_takeAll {s : Session} (ho : s.Owns g k r) :
    (s.takeAll g).resource r = (s.resource r).takeTask.2 := by
  rw [takeAll, resource_foldl_takeTask, if_pos (mem_graphResources.2 ⟨k, ho⟩)]

/-- **A graph takes its tasks away**, and no resource waits for them. -/
theorem Awaited.takeAll (h : L.Awaited) (hcalls : L.session.Calls L.callers) (g : Nat) :
    Awaited { L with session := L.session.takeAll g } := by
  refine h.lapse hcalls (.takeAll L.session g) (fun _ => ((Steady.takeAll _ g).graph _).definition)
    (fun id hid => ?_) (fun {i k r} ho => ?_)
    fun {i k id t} ht _ hdone hcancelled hlanding ho _ hawaits =>
      ⟨⟨t, task_foldl_takeTask _ _ ht fun r hr htask => ?_, rfl, hdone, hcancelled⟩, hlanding⟩
  · exact Nat.lt_of_lt_of_le (h.landed id hid) (Frame.takeAll L.session g).tasks
  · rw [Session.takeAll, resource_foldl_takeTask]
    split
    · exact .takeTask _
    · exact Or.inl rfl
  · obtain ⟨k', ho'⟩ := mem_graphResources.1 hr
    obtain ⟨t', ht', rfl⟩ := h.told ho' htask
    rw [ht] at ht'
    cases ht'
    -- the resource that knows the task has given it up
    have htaken := resource_takeAll ho'
    have hsame := (Resource.Lapses.takeTask _).same (by rw [← htaken]; exact hawaits.2)
    rw [← hsame, task_takeTask] at htask
    cases htask

/-- A graph comes to its next generation and takes its tasks away. -/
theorem Awaited.modifyGraph (h : L.Awaited) (hcalls : L.session.Calls L.callers)
    {f : GraphState → GraphState} (hframe : L.session.Frame (L.session.modifyGraph g f))
    (hdefinition : ∀ x, (f x).definition = x.definition) :
    Awaited { L with session := (L.session.modifyGraph g f).takeAll g } ∧
      ((L.session.modifyGraph g f).takeAll g).Calls L.callers := by
  have hgraph : ∀ i, ((L.session.modifyGraph g f).graph i).definition =
      (L.session.graph i).definition := fun i => by
    rw [graph_modifyGraph]
    split
    · exact hdefinition _
    · rfl
  have hnext : Awaited { L with session := L.session.modifyGraph g f } :=
    h.same hcalls hframe (fun _ => hgraph _) rfl rfl
  have hcalls' :
      (L.session.modifyGraph g f).Calls L.callers := hcalls.frame hframe fun _ => hgraph _
  exact ⟨hnext.takeAll hcalls' g, hcalls'.steady (.takeAll _ g) (.takeAll _ g)⟩

/-- **An update begins**: what still waits belongs to callers. -/
theorem Awaited.begin (h : L.Awaited) (hcalls : L.session.Calls L.callers)
    (hidle : L.callers c = .idle) (n : Nat) :
    ({ L with session := (L.session.begun g).takeAll g }.enter c (.waiting g n)).Awaited := by
  obtain ⟨hnext, hcalls'⟩ := h.modifyGraph (g := g)
    (f := fun x => { x with generation := x.generation + 1 }) hcalls
    (.modifyGraph _ g fun x => ⟨rfl, Nat.le_succ _, fun h => h, Or.inl, Or.inl rfl⟩) fun _ => rfl
  refine hnext.enter (c := c) (fun j hj => ?_) (fun {id j t} huntold => ?_)
    fun {i m k r} hx hm ho hstate => ?_
  · dsimp only at hj
    rw [hidle] at hj
    cases hj
  · dsimp only at huntold
    rw [hidle] at huntold
    cases huntold
  · cases hx
    refine hnext.compiles hcalls' ho hstate ?_
    dsimp only
    rw [resource_takeAll ((Frame.takeAll _ g).owns ho), task_takeTask]

theorem Awaited.beginClose (h : L.Awaited) (hcalls : L.session.Calls L.callers)
    (hidle : L.callers c = .idle) :
    ({ L with session := (L.session.shut g).takeAll g }.enter c (.closing g)).Awaited := by
  obtain ⟨hnext, -⟩ := h.modifyGraph (g := g)
    (f := fun x => { x with closed := true, generation := x.generation + 1 }) hcalls
    (.modifyGraph _ g fun x =>
      ⟨rfl, Nat.le_succ _, fun _ => rfl, fun _ => Or.inr (Nat.lt_succ_self _), Or.inl rfl⟩)
    fun _ => rfl
  refine hnext.enter (c := c) (fun j hj => ?_) (fun {id j t} huntold => ?_) fun hx => by cases hx
  · dsimp only at hj
    rw [hidle] at hj
    cases hj
  · dsimp only at huntold
    rw [hidle] at huntold
    cases huntold

/-! ## Submitting -/

/-- **A job is submitted**, and its caller is about to tell. -/
theorem Awaited.enqueue (h : L.Awaited) (hcalls : L.session.Calls L.callers) {plan : Plan}
    {jobs : List Job} (hcaller : L.callers c = .submitting g plan [] (j :: jobs) none) :
    ({ L with session := L.session.enqueue j }.enter c
      (.submitting g plan [] jobs (some (L.session.tasks.size, j)))).Awaited where
  landed id hid := by
    have hlt := h.landed id hid
    exact Nat.lt_of_lt_of_eq (Nat.lt_succ_of_lt hlt) (Array.size_push _).symm
  told ho htask := by
    obtain ⟨t, ht, hr⟩ := h.told ho htask
    exact ⟨t, task_enqueue_of_get ht, hr⟩
  awaited {i k r} ho hstate := by
    have hfits := hcalls.callers c
    rw [hcaller] at hfits
    have hserves := hfits.serves (List.mem_cons_self ..)
    rcases h.awaited ho hstate with ⟨c', j', hj', hr, hgeneration⟩ | ⟨id, t, ht, hruntime, hr,
      hgeneration, hdone, hcancelled, hlanding, htold⟩
    · by_cases hc : c' = c
      · rw [hc, hcaller] at hj'
        rcases List.mem_cons.1 hj' with rfl | hj'
        · refine Or.inr ⟨L.session.tasks.size, _, task_enqueue_self, hserves.isRuntime, hr,
            hgeneration, rfl, rfl, ?_, Or.inr ⟨c, ?_⟩⟩
          · by_contra hlanding
            exact absurd (h.landed _ hlanding) (Nat.lt_irrefl _)
          · rw [callers_enter_self]
            rfl
        · refine Or.inl ⟨c, j', ?_, hr, hgeneration⟩
          rw [callers_enter_self]
          exact hj'
      · refine Or.inl ⟨c', j', ?_, hr, hgeneration⟩
        rw [callers_enter_of_ne _ hc]
        exact hj'
    · refine Or.inr ⟨id, t, task_enqueue_of_get ht, hruntime, hr, hgeneration, hdone, hcancelled,
        hlanding, htold.imp_right ?_⟩
      rintro ⟨c', hc'⟩
      refine ⟨c', ?_⟩
      rw [callers_enter_of_ne]
      · exact hc'
      · rintro rfl
        rw [hcaller] at hc'
        cases hc'
  cleared c' i n hwaiting hn k r ho hstate := by
    rw [callers_enter_of_ne] at hwaiting
    · exact h.cleared c' i n hwaiting hn ho hstate
    · rintro rfl
      rw [callers_enter_self] at hwaiting
      cases hwaiting

/-- A resource that waits for a task is told of it, and any other task is cancelled. -/
theorem Awaited.tell (h : L.Awaited) (hcalls : L.session.Calls L.callers)
    (ht : L.session.tasks[id]? = some t) (hruntime : t.job.IsRuntime) :
    Awaited { L with session := L.session.register id t.job } := by
  have hframe : L.session.Frame (L.session.register id t.job) := .register ..
  have hsteady : L.session.Steady (L.session.register id t.job) := .register ..
  have hlanded : ∀ id', L.landing id' ≠ none → id' < (L.session.register id t.job).tasks.size :=
    fun id' hid' => Nat.lt_of_lt_of_le (h.landed id' hid') hframe.tasks
  by_cases hawaits : L.session.Awaits t.job
  · rw [register_of_awaits hawaits] at hframe hsteady hlanded ⊢
    have hresource := resource_modifyResource L.session t.job.resource
      fun x => { x with task := some id }
    refine h.next hcalls hframe (fun _ => (hsteady.graph _).definition) hlanded
      (fun {i k r id'} ho htask => ?_) fun {i k r id'} ho hstate hid' => ?_
    · rw [hresource] at htask
      split at htask
      · rename_i hr
        cases htask
        exact ⟨t, ht, hr.1⟩
      · exact h.told ho htask
    · obtain ⟨t', ht', hruntime', hr, hgeneration, hdone, hcancelled, hlanding, htold⟩ := hid'
      refine ⟨t', ht', hruntime', hr, ?_, hdone, hcancelled, hlanding, ?_⟩
      · dsimp only
        rw [hresource]
        split
        · exact hgeneration
        · exact hgeneration
      · by_cases heq : t.job.resource = r
        · -- there is one task of the resource that it waits for
          have hlt := hcalls.holdings.lt ho
          have hmark := mark_of_task hcalls ht hruntime (by rw [heq]; exact ho)
          have hmark' := mark_of_task hcalls ht' hruntime' (by rw [hr]; exact ho)
          have hid := hcalls.unique ht ht' hruntime hruntime'
            (by rw [hmark, hmark', hgeneration, ← heq, hawaits.1])
          left
          dsimp only
          rw [hresource, if_pos ⟨heq, by rw [heq]; exact hlt⟩, hid]
        · dsimp only
          rw [hresource, if_neg fun h => heq h.1]
          exact htold
  · rw [register_of_not_awaits hawaits] at hframe hsteady hlanded ⊢
    refine h.lapse hcalls hframe (fun _ => (hsteady.graph _).definition) hlanded
      (fun _ => Or.inl rfl) fun {i k id' t'} ht' _ hdone hcancelled hlanding _ hawaits' _ =>
        ⟨⟨t', task_modifyTask_of_ne (s := L.session) ht' ?_, rfl, hdone, hcancelled⟩, hlanding⟩
    rintro rfl
    rw [ht] at ht'
    cases ht'
    exact hawaits hawaits'

/-- **The resource of a job is told.** -/
theorem Awaited.register (h : L.Awaited) (hcalls : L.session.Calls L.callers) {plan : Plan}
    {jobs : List Job} (hcaller : L.callers c = .submitting g plan [] jobs (some (id, j))) :
    ({ L with session := L.session.register id j }.enter c
      (.submitting g plan [] jobs none)).Awaited := by
  have hfits := hcalls.callers c
  rw [hcaller] at hfits
  obtain ⟨⟨t, ht, rfl⟩, i, n, -, hserves⟩ := hfits.untold rfl
  refine (h.tell hcalls ht hserves.isRuntime).enter (c := c) (fun j hj => ?_)
    (fun {id' j' t'} huntold _ _ hawaits => ?_) fun hx => by cases hx
  · dsimp only at hj
    rw [hcaller] at hj
    exact hj
  · dsimp only at huntold hawaits ⊢
    rw [hcaller] at huntold
    cases huntold
    obtain ⟨_, _, hjob⟩ := hserves.job
    refine task_register_of_awaits hjob.resource ?_ id
    by_contra hnot
    rw [Awaits, resource_register_of_not_awaits hnot] at hawaits
    exact hnot hawaits

/-! ## Preparing -/

/-- **An update opens its account**: the resources of its graph wait for its own jobs. -/
theorem Awaited.prepare (h : L.Awaited) (hcalls : L.session.Calls L.callers) {n : Nat}
    {s' : Session} {plan : Plan} {failed : List Nat} {jobs : List Job} {waits' : Nat → Bool}
    (hwaiting : L.callers c = .waiting g n) (hn : (L.session.graph g).generation = n)
    (hopened : Opened g L.session s' jobs) :
    ({ L with session := s', waits := waits' }.enter c
      (.submitting g plan failed jobs none)).Awaited := by
  -- the sets of other graphs are the same
  have hother : ∀ {i k r}, i ≠ g → s'.Owns i k r →
      L.session.Owns i k r ∧ s'.resource r = L.session.resource r := by
    intro i k r hi ho
    have hold : L.session.Owns i k r := by
      rw [Owns, hopened.other i hi] at ho
      exact ho
    exact ⟨hold, hopened.kept hi hold⟩
  refine ⟨fun id hid => ?_, fun {i k r id} ho htask => ?_, fun {i k r} ho hstate => ?_,
    fun c' i m hc' hm k r ho hstate => ?_⟩
  · dsimp only [Ledger.enter]
    rw [hopened.tasks]
    exact h.landed id hid
  · dsimp only [Ledger.enter] at ho htask ⊢
    rw [hopened.tasks]
    by_cases hi : i = g
    · subst hi
      obtain ⟨hold, htask'⟩ := hopened.told ho htask
      exact h.told hold htask'
    · obtain ⟨hold, hsame⟩ := hother hi ho
      rw [hsame] at htask
      exact h.told hold htask
  · dsimp only [Ledger.enter] at ho hstate
    by_cases hi : i = g
    · subst hi
      obtain ⟨j, hj, -, hr⟩ := hopened.waiting ho hstate
      refine Or.inl ⟨c, j, ?_, hr, ?_⟩
      · rw [callers_enter_self]
        exact hj
      · rw [← hr]
        exact (hopened.begun j hj).2.1.symm
    · obtain ⟨hold, hsame⟩ := hother hi ho
      rw [hsame] at hstate
      rcases h.awaited hold hstate with ⟨c', j, hj, hr⟩ | ⟨id, t, ht, hunderway⟩
      · refine Or.inl ⟨c', j, ?_, ?_⟩
        · rw [callers_enter_of_ne]
          · exact hj
          · rintro rfl
            rw [hwaiting] at hj
            cases hj
        · dsimp only [Ledger.enter]
          rw [hsame]
          exact hr
      · refine Or.inr ⟨id, t, ?_⟩
        dsimp only [Ledger.enter]
        rw [hopened.tasks, hsame]
        obtain ⟨hruntime, hr, hgeneration, hdone, hcancelled, hlanding, htold⟩ := hunderway
        refine ⟨ht, hruntime, hr, hgeneration, hdone, hcancelled, hlanding, htold.imp_right ?_⟩
        rintro ⟨c', hc'⟩
        refine ⟨c', ?_⟩
        rw [Function.update_of_ne]
        · exact hc'
        · rintro rfl
          rw [hwaiting] at hc'
          cases hc'
  · dsimp only [Ledger.enter] at hm ho hstate ⊢
    have hne : c' ≠ c := by
      rintro rfl
      rw [callers_enter_self] at hc'
      cases hc'
    rw [callers_enter_of_ne _ hne] at hc'
    dsimp only at hc'
    by_cases hi : i = g
    · -- the latest update of the graph is the one that prepares
      subst hi
      rw [hopened.graph] at hm
      refine absurd (hcalls.apart (g := i) (n := n) ?_ ?_) hne
      · rw [hc', ← hn, ← hm]
        rfl
      · rw [hwaiting]
        rfl
    · obtain ⟨hold, hsame⟩ := hother hi ho
      rw [hsame] at hstate
      rw [hopened.other i hi] at hm
      rw [Compiles, hopened.other i hi]
      exact h.cleared c' i m hc' hm hold hstate

/-! ## All sections -/

/-- A caller that has nothing to tell goes on. -/
theorem Awaited.resume (h : L.Awaited) {x : Caller} (hjobs : ∀ j ∈ (L.callers c).jobs, j ∈ x.jobs)
    (huntold : (L.callers c).untold? = none) (hx : ∀ g n, x ≠ .waiting g n) :
    (L.enter c x).Awaited :=
  h.enter hjobs (fun hc => by rw [huntold] at hc; cases hc) fun hx' => absurd hx' (hx _ _)

theorem awaited_settle {s' : Session} {landing' : Nat → Option (Option Program × CompileResult)}
    {g n : Nat} (h : ∀ waits', Awaited ⟨s', L.callers, landing', waits'⟩) :
    (Ledger.settle ⟨s', L.callers, landing', L.waits⟩ g n).Awaited := by
  unfold Ledger.settle
  split
  · exact h _
  · exact h _

/-- A compile that was cancelled comes back with nothing. -/
theorem Awaited.abandon (h : L.Awaited) (hcalls : L.session.Calls L.callers)
    (ht : L.session.tasks[id]? = some t) (hcancelled : t.cancelled = true) :
    Awaited { L with session := (L.session.modifyResource t.job.resource fun x =>
      x.abandon t.job.generation).endTask id } := by
  refine h.lapse hcalls (.trans (.modifyResource _ _ fun x => ?_) (.endTask _ _)) (fun _ => rfl)
    (fun id' hid => ?_) (fun {g k r} ho => ?_)
    fun {g k id' t'} ht' hruntime' hdone' hcancelled' hlanding' _ hawaits _ =>
      ⟨⟨t', task_modifyTask_of_ne ht' ?_, rfl, hdone', hcancelled'⟩, hlanding'⟩
  · exact (Resource.Settles.abandon x _).toEases
  · exact Nat.lt_of_lt_of_le (h.landed id' hid) (Frame.endTask _ _).tasks
  · have hresource := resource_modifyResource L.session t.job.resource
      (fun x => x.abandon t.job.generation) r
    refine Eq.subst (motive := fun x => (L.session.resource r).Lapses x) hresource.symm ?_
    split
    · exact .abandon _ _
    · exact Or.inl rfl
  · rintro rfl
    rw [ht] at ht'
    cases ht'
    rw [hcancelled] at hcancelled'
    cases hcancelled'

/-- **A result arrives**: its resource does not wait any more. -/
theorem Awaited.deliver (h : L.Awaited) (hcalls : L.session.Calls L.callers)
    (ht : L.session.tasks[id]? = some t) {n : Nat} {plan : Plan}
    (hkind : t.job.kind = .runtime n plan) (hawaits : L.session.Awaits t.job)
    (program : Option Program) (r : CompileResult) :
    Awaited { L with
      session := L.session.deliver t.job n program r
      landing := Function.update L.landing id (some (program, r)) } := by
  have hholdings := hcalls.holdings
  have hresource := resource_modifyResource L.session t.job.resource
    fun x => (x.finish n program r).2
  refine h.lapse hcalls (.modifyResource _ _ fun x => ?_) (fun _ => rfl) (fun id' hid => ?_)
    (fun {g k r'} ho => ?_) fun {g k id' t'} ht' hruntime' hdone'
      hcancelled' hlanding' ho _ hnext =>
      ⟨⟨t', ht', rfl, hdone', hcancelled'⟩, ?_⟩
  · exact (Resource.Settles.finish x _ _ _).toEases
  · by_cases hid' : id' = id
    · rw [hid']
      exact (Array.getElem?_eq_some_iff.1 ht).1
    · rw [Function.update_of_ne hid'] at hid
      exact h.landed id' hid
  · refine Eq.subst (motive := fun x => (L.session.resource r').Lapses x) (hresource r').symm ?_
    split
    · exact .finish _ _ _ _
    · exact Or.inl rfl
  · rw [Function.update_of_ne]
    · exact hlanding'
    · rintro rfl
      rw [ht] at ht'
      cases ht'
      -- the resource has what it has waited for
      have hstate := hnext.2
      rw [Session.deliver, hresource, if_pos ⟨rfl, hholdings.lt ho⟩, Resource.finish,
        if_pos (by rw [← Job.generation_eq hkind, hawaits.1, hawaits.2]; simp)] at hstate
      dsimp only at hstate
      split at hstate
      · cases hstate
      · cases hstate

/-- A job lands, for which nobody waits any more. -/
theorem Awaited.land (h : L.Awaited) (hcalls : L.session.Calls L.callers)
    {program : Option Program} {r : CompileResult} (hlanding : L.landing id = some (program, r))
    (n : Nat) (plan : Plan) :
    Awaited ({ L with
      session := (L.session.land t.job n plan program r).endTask id
      landing := Function.update L.landing id none }.settle t.job.graph n) := by
  have hframe : L.session.Frame ((L.session.land t.job n plan program r).endTask id) :=
    .trans (.land L.session t.job n plan program r) (.endTask _ _)
  have hsteady := Steady.land L.session t.job n plan program r
  have hfields : (L.session.land t.job n plan program r).resources = L.session.resources ∧
      (L.session.land t.job n plan program r).tasks = L.session.tasks := by
    have hposts := Posts.land L.session t.job n plan program r
    rw [hposts.resources, hposts.tasks]
    split
    · exact ⟨rfl, rfl⟩
    · exact ⟨rfl, rfl⟩
  refine awaited_settle fun waits' => ?_
  refine h.lapse hcalls hframe (fun _ => (hsteady.graph _).definition) (fun id' hid => ?_)
    (fun {g k r'} ho => Or.inl ?_)
    fun {g k id' t'} ht' hruntime' hdone' hcancelled' hlanding' _ _ _ =>
      ⟨⟨t', task_modifyTask_of_ne ?_ ?_, rfl, hdone', hcancelled'⟩, ?_⟩
  · by_cases hid' : id' = id
    · rw [hid', Function.update_self] at hid
      exact absurd rfl hid
    · rw [Function.update_of_ne hid'] at hid
      exact Nat.lt_of_lt_of_le (h.landed id' hid) hframe.tasks
  · show (L.session.land t.job n plan program r).resource r' = _
    rw [Session.resource, Session.resource, hfields.1]
  · rw [hfields.2]
    exact ht'
  · rintro rfl
    rw [hlanding] at hlanding'
    cases hlanding'
  · by_cases hid' : id' = id
    · rw [hid', Function.update_self]
    · rw [Function.update_of_ne hid']
      exact hlanding'

/-- A graph is closed, and all its resources are given up. -/
theorem Awaited.finishClose (h : L.Awaited) (hcalls : L.session.Calls L.callers)
    (hcaller : L.callers c = .closing g) :
    Awaited ({ L with
      session := L.session.finishClose g
      waits := Function.update L.waits g false }.enter c .idle) := by
  have hnext : Awaited { L with
      session := L.session.finishClose g, waits := Function.update L.waits g false } := by
    have hresources := (fields_finishClose L.session g).1
    have htasks := (gauge_finishClose L.session g).1
    refine h.lapse hcalls (.finishClose L.session g) (fun _ => ?_) (fun id hid => ?_)
      (fun {i k r} ho => ?_) fun {i k id t} ht _ hdone hcancelled hlanding _ _ _ =>
        ⟨⟨t, by rw [htasks]; exact ht, rfl, hdone, hcancelled⟩, hlanding⟩
    · rw [graph_finishClose]
      split
      · rfl
      · rfl
    · rw [htasks]
      exact h.landed id hid
    · have hresource := resource_foldl_invalidate (L.session.allResources g) L.session r
      have hsame : (L.session.finishClose g).resource r =
          ((L.session.allResources g).foldl (fun s r => s.modifyResource r Resource.invalidate)
            L.session).resource r := by
        rw [Session.resource, hresources]
        rfl
      rw [hsame, hresource]
      split
      · exact .invalidate _
      · exact Or.inl rfl
  refine hnext.resume (c := c) (fun j hj => ?_) ?_ fun _ _ hx => by cases hx
  · dsimp only at hj
    rw [hcaller] at hj
    cases hj
  · dsimp only
    rw [hcaller]
    rfl

/-- **Every section** leaves nobody waiting in vain. -/
theorem Awaited.step (h : L.Awaited) (hcalls : L.session.Calls L.callers) (hstep : Step L L') :
    L'.Awaited := by
  have hholdings := hcalls.holdings
  cases hstep with
  | @around s' haround =>
    refine h.lapse hcalls haround.frame (fun hc => haround.edited _ _ _ hc)
      (fun id hid => Nat.lt_of_lt_of_le (h.landed id hid) haround.frame.tasks)
      (fun {g k r} ho => Or.inl (haround.kept r (hholdings.lt ho) (hholdings.uncooked ho)))
      fun {g k id t} ht hruntime hdone hcancelled hlanding _ _ _ => ⟨?_, hlanding⟩
    obtain ⟨t', ht', hdone', hcancelled'⟩ := haround.same id t ht hruntime
    obtain ⟨t'', ht'', hjob⟩ := haround.frame.elapses.kept ht
    rw [ht'] at ht''
    cases ht''
    exact ⟨t', ht', hjob, hdone'.trans hdone, hcancelled'.trans hcancelled⟩
  | @drop id t ht hruntime hdone hlanding hskip =>
    refine h.lapse hcalls (.endTask _ _) (fun _ => rfl)
      (fun id' hid => Nat.lt_of_lt_of_le (h.landed id' hid) (Frame.endTask _ _).tasks)
      (fun _ => Or.inl rfl)
      fun {g k id' t'} ht' hruntime' hdone' hcancelled' hlanding' _ hawaits _ =>
        ⟨⟨t', task_modifyTask_of_ne ht' ?_, rfl, hdone', hcancelled'⟩, hlanding'⟩
    rintro rfl
    rw [ht] at ht'
    cases ht'
    rcases hskip with hskip | hskip
    · rw [hskip] at hcancelled'
      cases hcancelled'
    · exact hskip hawaits
  | abandon ht _ _ _ hcancelled _ => exact h.abandon hcalls ht hcancelled
  | deliver ht hkind _ _ hawaits _ => exact h.deliver hcalls ht hkind hawaits _ _
  | land _ _ hlanding => exact h.land hcalls hlanding _ _
  | @begin c g hidle hg haccepts => exact h.begin hcalls hidle _
  | @quit c g n hwaiting hquit =>
    refine h.resume (fun j hj => ?_) ?_ fun _ _ hx => by cases hx
    · rw [hwaiting] at hj
      cases hj
    · rw [hwaiting]
      rfl
  | @prepare c g n d p s' hwaiting hopen hn hp =>
    exact h.prepare hcalls hwaiting hn (h.cleared.opened hcalls hwaiting hopen hn hp)
  | @report c g k plan failed jobs hcaller =>
    have hposts := Posts.reportFailure L.session g k
    have hnext : Awaited { L with session := L.session.reportFailure g k } :=
      h.same hcalls (.reportFailure ..) (fun _ => (hposts.graph _).definition) hposts.resources
        hposts.tasks
    refine hnext.resume (c := c) (fun j hj => ?_) ?_ fun _ _ hx => by cases hx
    · dsimp only at hj
      rw [hcaller] at hj
      exact hj
    · dsimp only
      rw [hcaller]
      rfl
  | enqueue hcaller => exact h.enqueue hcalls hcaller
  | register hcaller => exact h.register hcalls hcaller
  | @inline c g plan jobs id j t hcaller hclosed ht hdone =>
    refine h.enter (fun j hj => ?_) (fun {id' j' t'} huntold ht' hdone' => ?_) fun hx => by cases hx
    · rw [hcaller] at hj
      exact hj
    · rw [hcaller] at huntold
      cases huntold
      rw [ht] at ht'
      cases ht'
      rw [hdone] at hdone'
      cases hdone'
  | @finish c g plan hcaller =>
    have hnext : (Ledger.settle { L with session := L.session.finishUpdate g plan } g
        plan.generation).Awaited := by
      have hposts := Posts.finishUpdate L.session g plan
      exact awaited_settle fun waits' => h.same hcalls (.finishUpdate ..)
        (fun _ => (hposts.graph _).definition) hposts.resources hposts.tasks
    refine hnext.resume (c := c) (fun j hj => ?_) ?_ fun _ _ hx => by cases hx
    · rw [callers_settle, hcaller] at hj
      cases hj
    · rw [callers_settle, hcaller]
      rfl
  | beginClose hidle hg hopen => exact h.beginClose hcalls hidle
  | finishClose hcaller => exact h.finishClose hcalls hcaller

end KernelGraph.Ledger
