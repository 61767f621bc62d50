/-
  The way of an entry through the workshop.

  The job of an entry stands in one place: with the caller that has still to submit it, then among
  the tasks, until it is over.

      queued by a caller ⟶ task ⟶ over

  While it is on its way the entry is compiling, and when it is over the entry is compiled or has
  failed.  Only a cache that is dropped, or whose graph is closed, has entries that are invalidated
  instead; their jobs may still be on the way.

  `Moves` says what a section may do to an entry: its job stays or goes to the next place, or it is
  over.
-/
import KernelGraph.Proofs.Pending.Awaiting
import KernelGraph.Proofs.Workshop.Builds

namespace KernelGraph

/-- The resource is as it was, but for its task, or it has been invalidated. -/
structure Resource.Stays (x x' : Resource) : Prop where
  format : x'.format = x.format
  level : x'.level = x.level
  generation : x'.generation = x.generation
  program : x'.program = x.program
  result : x'.result = x.result
  state : x'.state = x.state ∨ x'.state = .invalidated

namespace Resource.Stays

theorem refl (x : Resource) : x.Stays x := ⟨rfl, rfl, rfl, rfl, rfl, Or.inl rfl⟩

theorem of_eq {x x' : Resource} (h : x' = x) : x.Stays x' := h ▸ refl x

theorem takeTask (x : Resource) : x.Stays x.takeTask.2 := by
  unfold Resource.takeTask
  split
  · exact refl x
  · refine ⟨rfl, rfl, rfl, rfl, rfl, ?_⟩
    dsimp only
    split
    · exact Or.inr rfl
    · exact Or.inl rfl

theorem invalidate (x : Resource) : x.Stays x.invalidate := ⟨rfl, rfl, rfl, rfl, rfl, Or.inr rfl⟩

theorem setTask (x : Resource) (task generation : Nat) : x.Stays (x.setTask task generation).2 := by
  unfold Resource.setTask
  split
  · exact ⟨rfl, rfl, rfl, rfl, rfl, Or.inl rfl⟩
  · exact refl x

theorem trans {x x' x'' : Resource} (h : x.Stays x') (h' : x'.Stays x'') : x.Stays x'' where
  format := h'.format.trans h.format
  level := h'.level.trans h.level
  generation := h'.generation.trans h.generation
  program := h'.program.trans h.program
  result := h'.result.trans h.result
  state := by
    rcases h'.state with hs | hs
    · rw [hs]
      exact h.state
    · exact Or.inr hs

end Resource.Stays

/-- The resource is for the same format, and stays as it is once its compile is over. -/
structure Resource.Fares (x x' : Resource) : Prop where
  format : x'.format = x.format
  level : x'.level = x.level
  stays : x.state ≠ .compiling → x.Stays x'

theorem Resource.Fares.refl (x : Resource) : x.Fares x := ⟨rfl, rfl, fun _ => .refl x⟩

theorem Resource.Fares.trans {x x' x'' : Resource} (h : x.Fares x') (h' : x'.Fares x'') :
    x.Fares x'' where
  format := h'.format.trans h.format
  level := h'.level.trans h.level
  stays hstate := by
    have hfirst := h.stays hstate
    refine hfirst.trans (h'.stays fun hcompiling => ?_)
    rcases hfirst.state with hs | hs
    · exact hstate (hs ▸ hcompiling)
    · rw [hs] at hcompiling
      cases hcompiling

/-- What remains of a task while nobody but its worker can change it. -/
def CompileTask.work (t : CompileTask) : Job × Bool := (t.job, t.done)

namespace Session

/-- The resource is an entry of a cache that an open graph lists. -/
def Current (s : Session) (r : Nat) : Prop :=
  ∃ g name p, s.Lists g name p ∧ (s.graph g).closed = false ∧ r ∈ s.platformResources p

/-- A resource that has a task has one of its own jobs. -/
def Matched (s : Session) : Prop :=
  ∀ r id, (s.resource r).task = some id → ∃ t, s.tasks[id]? = some t ∧ t.job.resource = r

section
variable {s s' : Session} {r : Nat}

theorem Current.tends (hs : s.Tends s') (h : s'.Current r) : s.Current r := by
  obtain ⟨g, name, p, hl, hopen, hr⟩ := h
  refine ⟨g, name, p, hs.listed hl, ?_, ?_⟩
  · cases hclosed : (s.graph g).closed with
    | false => rfl
    | true =>
      rw [hs.toFrame.closed g hclosed] at hopen
      cases hopen
  · rwa [platformResources_of_mark (getD_mark_of_map hs.marks p)] at hr

/-- Resources keep their tasks or lose them. -/
theorem Matched.next (h : s.Matched)
    (hjobs : s'.tasks.map CompileTask.job = s.tasks.map CompileTask.job)
    (htask : ∀ {r id}, (s'.resource r).task = some id → (s.resource r).task = some id) :
    s'.Matched := by
  intro r id hid
  obtain ⟨t, ht, hr⟩ := h r id (htask hid)
  obtain ⟨t', ht', hjob⟩ := exists_task_of_map_job hjobs.symm ht
  exact ⟨t', ht', hjob ▸ hr⟩

theorem map_work_foldl_takeTask (rs : List Nat) (s : Session) :
    (rs.foldl takeTask s).tasks.map CompileTask.work = s.tasks.map CompileTask.work := by
  refine List.foldlRecOn (motive := fun t : Session =>
    t.tasks.map CompileTask.work = s.tasks.map CompileTask.work) rs _ rfl fun t ht r _ => ?_
  rw [← ht]
  unfold Session.takeTask
  split
  split
  · rfl
  · exact map_modify_of_eq t.tasks _ (f := fun t => { t with cancelled := true }) fun _ => rfl

theorem exists_task_of_map_work (h : s'.tasks.map CompileTask.work = s.tasks.map CompileTask.work)
    {id : Nat} {t' : CompileTask} (ht' : s'.tasks[id]? = some t') :
    ∃ t, s.tasks[id]? = some t ∧ t'.job = t.job ∧ t'.done = t.done := by
  have hwork := congrArg (·[id]?) h
  simp only [Array.getElem?_map, ht', Option.map_some] at hwork
  obtain ⟨t, ht, heq⟩ := Option.map_eq_some_iff.1 hwork.symm
  exact ⟨t, ht, (congrArg Prod.fst heq).symm, (congrArg Prod.snd heq).symm⟩

/-- A result tells of success with a program, or of a failure with an error. -/
theorem jobResult_program_or_error {j : Job} {level : FeatureLevel}
    {returned : Except (CallError ProgramError) (Program × Bool)} {program : Option Program}
    {result : CompileResult} (h : jobResult j level returned = some (program, result)) :
    (result.success = true → program.isSome) ∧ (result.success = false → result.error.isSome) := by
  unfold jobResult at h
  split at h
  · cases h
  · split at h
    · cases h
    · cases h
      exact ⟨nofun, fun _ => rfl⟩
  · cases h
    exact ⟨fun _ => rfl, nofun⟩

end

end Session

namespace Workshop

open Session

/-! ## Places -/

/-- Where a job stands. -/
inductive Station
  /-- A caller has still to submit it, after so many others. -/
  | queued (caller index : Nat)
  /-- It is submitted. -/
  | task (id : Nat)

namespace Station

/-- Where a job stands when the first one of a caller has become a task. -/
def next (c id : Nat) : Station → Station
  | queued c' 0 => if c' = c then task id else queued c' 0
  | queued c' (i + 1) => if c' = c then queued c i else queued c' (i + 1)
  | task i => task i

/-- Where a job has stood before the first one of a caller became a task. -/
def previous (c id : Nat) : Station → Station
  | queued c' i => if c' = c then queued c (i + 1) else queued c' i
  | task i => if i = id then queued c 0 else task i

theorem next_queued_of_ne {c c' : Nat} (h : c' ≠ c) (id i : Nat) :
    (queued c' i).next c id = queued c' i := by
  cases i with
  | zero => exact if_neg h
  | succ i => exact if_neg h

theorem next_previous (c id : Nat) (x : Station) : (x.previous c id).next c id = x := by
  cases x with
  | queued c' i =>
    by_cases hc : c' = c
    · subst hc
      simp only [previous, next, if_pos]
    · rw [previous, if_neg hc, next_queued_of_ne hc]
  | task i =>
    by_cases hi : i = id
    · simp only [previous, next, hi, if_pos]
    · rw [previous, if_neg hi, next]

end Station

/-- A job for the resource stands there, and is not over. -/
def At (W : Workshop) (r : Nat) : Station → Prop
  | .queued c i => ∃ j, (W.callers c).jobs[i]? = some j ∧ j.resource = r
  | .task id => ∃ t, W.session.tasks[id]? = some t ∧ t.job.resource = r ∧ t.done = false

theorem at_queued {W : Workshop} {r c i : Nat} :
    W.At r (.queued c i) ↔ ∃ j, (W.callers c).jobs[i]? = some j ∧ j.resource = r := Iff.rfl

theorem at_task {W : Workshop} {r id : Nat} : W.At r (.task id) ↔
    ∃ t, W.session.tasks[id]? = some t ∧ t.job.resource = r ∧ t.done = false := Iff.rfl

/-- A job for the resource is on its way: its compile is not over. -/
def Underway (W : Workshop) (r : Nat) : Prop := ∃ x, W.At r x

/-- **An entry and its job.** -/
structure Entry (W : Workshop) (r : Nat) : Prop where
  generation : (W.session.resource r).generation = 0
  begun : (W.session.resource r).state ≠ .uncompiled
  program : (W.session.resource r).state = .compiled → (W.session.resource r).program.isSome
  error : (W.session.resource r).state = .failed → (W.session.resource r).result.error.isSome
  valid : W.session.Current r → (W.session.resource r).state ≠ .invalidated
  alone : ∀ {x y}, W.At r x → W.At r y → x = y
  stopped : ∀ {id : Nat} {t : CompileTask}, W.session.tasks[id]? = some t → t.job.resource = r →
    t.cancelled = true ∨ t.done = true → (W.session.resource r).state ≠ .compiling
  awaited : (W.session.resource r).state = .compiling → W.Underway r
  outstanding : W.Underway r →
    (W.session.resource r).state = .compiling ∨ (W.session.resource r).state = .invalidated

/-- What a section does to an entry. -/
inductive Moves (W W' : Workshop) (r : Nat) : Prop
  /-- Its job stays or goes on, or the entry is invalidated, which is not listed then. -/
  | on (back forth : Station → Station)
    (hresource : (W.session.resource r).Stays (W'.session.resource r))
    (hcurrent : W'.session.Current r → W.session.Current r ∧
      (W'.session.resource r).state = (W.session.resource r).state)
    (hback : ∀ {x}, W'.At r x → W.At r (back x) ∧ forth (back x) = x)
    (hforth : ∀ {x}, (W'.session.resource r).state = .compiling → W.At r x → W'.At r (forth x))
    (hstopped : ∀ {id : Nat} {t' : CompileTask}, W'.session.tasks[id]? = some t' →
      t'.job.resource = r →
      t'.cancelled = true ∨ t'.done = true → (W'.session.resource r).state = .compiling →
        ∃ t, W.session.tasks[id]? = some t ∧ t.job.resource = r ∧
          (t.cancelled = true ∨ t.done = true))
  /-- Its job is over, and it has the result. -/
  | ended (program : Option Program) (result : CompileResult)
    (hcompiling : (W.session.resource r).state = .compiling)
    (hresource : W'.session.resource r = ((W.session.resource r).finish 0 program result).2)
    (hprogram : result.success = true → program.isSome)
    (herror : result.success = false → result.error.isSome)
    (hover : ¬ W'.Underway r)

section
variable {W W' : Workshop} {r : Nat}

/-- The result of a job that is awaited. -/
theorem finish_of_compiling {x : Resource} (hgeneration : x.generation = 0)
    (hstate : x.state = .compiling) (program : Option Program) (result : CompileResult) :
    (x.finish 0 program result).2 = { x with
      task := none
      result
      program := if result.success then program else x.program
      state := if result.success then .compiled else .failed } := by
  unfold Resource.finish
  rw [if_pos (by simp [hgeneration, hstate])]

/-- **What a section does to an entry** leaves it in order. -/
theorem Entry.moves (h : W.Entry r) (hm : Moves W W' r) : W'.Entry r := by
  cases hm with
  | on back forth hresource hcurrent hback hforth hstopped =>
    have hstate := hresource.state
    exact
      { generation := hresource.generation.trans h.generation
        begun := fun hstate' => by
          rcases hstate with hs | hs
          · exact h.begun (hs ▸ hstate')
          · rw [hs] at hstate'
            cases hstate'
        program := fun hstate' => by
          rw [hresource.program]
          rcases hstate with hs | hs
          · exact h.program (hs ▸ hstate')
          · rw [hs] at hstate'
            cases hstate'
        error := fun hstate' => by
          rw [hresource.result]
          rcases hstate with hs | hs
          · exact h.error (hs ▸ hstate')
          · rw [hs] at hstate'
            cases hstate'
        valid := fun hc => by
          obtain ⟨hold, hsame⟩ := hcurrent hc
          rw [hsame]
          exact h.valid hold
        alone := fun hx hy => by
          rw [← (hback hx).2, h.alone (hback hx).1 (hback hy).1]
          exact (hback hy).2
        stopped := fun ht' hr hover hcompiling => by
          obtain ⟨t, ht, hjob, hbefore⟩ := hstopped ht' hr hover hcompiling
          rcases hstate with hs | hs
          · exact h.stopped ht hjob hbefore (hs ▸ hcompiling)
          · rw [hs] at hcompiling
            cases hcompiling
        awaited := fun hcompiling => by
          rcases hstate with hs | hs
          · obtain ⟨x, hx⟩ := h.awaited (hs ▸ hcompiling)
            exact ⟨_, hforth hcompiling hx⟩
          · rw [hs] at hcompiling
            cases hcompiling
        outstanding := fun ⟨x, hx⟩ => by
          rcases hstate with hs | hs
          · rw [hs]
            exact h.outstanding ⟨_, (hback hx).1⟩
          · exact Or.inr hs }
  | ended program result hcompiling hresource hprogram herror hover =>
    rw [finish_of_compiling h.generation hcompiling] at hresource
    have hstate : (W'.session.resource r).state = if result.success then .compiled else .failed :=
      congrArg Resource.state hresource
    have hnot : (W'.session.resource r).state ≠ .compiling := by
      rw [hstate]
      split
      · nofun
      · nofun
    exact
      { generation := (congrArg Resource.generation hresource).trans h.generation
        begun := by
          rw [hstate]
          split
          · nofun
          · nofun
        program := fun hstate' => by
          rw [hresource]
          dsimp only
          cases hsuccess : result.success with
          | true => exact hprogram hsuccess
          | false =>
            rw [hstate, hsuccess] at hstate'
            cases hstate'
        error := fun hstate' => by
          rw [hresource]
          cases hsuccess : result.success with
          | true =>
            rw [hstate, hsuccess] at hstate'
            cases hstate'
          | false => exact herror hsuccess
        valid := fun _ => by
          rw [hstate]
          split
          · nofun
          · nofun
        alone := fun hx => absurd ⟨_, hx⟩ hover
        stopped := fun _ _ _ => hnot
        awaited := fun hcompiling' => absurd hcompiling' hnot
        outstanding := fun hunderway => absurd hunderway hover }

/-- **An entry whose compile is over** is not compiled again. -/
theorem Moves.fares (hm : Moves W W' r) (h : W.Entry r) :
    (W.session.resource r).Fares (W'.session.resource r) := by
  cases hm with
  | on _ _ hresource => exact ⟨hresource.format, hresource.level, fun _ => hresource⟩
  | ended program result hcompiling hresource =>
    rw [finish_of_compiling h.generation hcompiling] at hresource
    exact ⟨by rw [hresource], by rw [hresource], fun hstate => absurd hcompiling hstate⟩

/-! ## Staying -/

theorem at_of_work (hjobs : ∀ c, (W'.callers c).jobs = (W.callers c).jobs)
    (hwork : W'.session.tasks.map CompileTask.work = W.session.tasks.map CompileTask.work)
    {x : Station} (hx : W'.At r x) : W.At r x := by
  cases x with
  | queued c i =>
    obtain ⟨j, hj, hr⟩ := hx
    exact ⟨j, hjobs c ▸ hj, hr⟩
  | task id =>
    obtain ⟨t', ht', hr, hdone⟩ := hx
    obtain ⟨t, ht, hjob, hd⟩ := exists_task_of_map_work hwork ht'
    exact ⟨t, ht, hjob ▸ hr, hd ▸ hdone⟩

/-- All jobs stay where they are, and no job is over. -/
theorem Moves.still (hjobs : ∀ c, (W'.callers c).jobs = (W.callers c).jobs)
    (hwork : W'.session.tasks.map CompileTask.work = W.session.tasks.map CompileTask.work)
    (hresource : (W.session.resource r).Stays (W'.session.resource r))
    (hcurrent : W'.session.Current r → W.session.Current r ∧
      (W'.session.resource r).state = (W.session.resource r).state)
    (hcancelled : ∀ {id : Nat} {t t' : CompileTask}, W.session.tasks[id]? = some t →
      W'.session.tasks[id]? = some t' →
      t.job.resource = r → t'.cancelled = true → (W'.session.resource r).state = .compiling →
        t.cancelled = true) : Moves W W' r := by
  refine .on id id hresource hcurrent (fun hx => ⟨at_of_work hjobs hwork hx, rfl⟩)
    (fun _ => at_of_work (fun c => (hjobs c).symm) hwork.symm) fun {id t'} ht' hr hover hstate => ?_
  obtain ⟨t, ht, hjob, hdone⟩ := exists_task_of_map_work hwork ht'
  rw [hjob] at hr
  refine ⟨t, ht, hr, hover.imp (fun hc => ?_) fun hd => hdone ▸ hd⟩
  exact hcancelled ht ht' hr hc hstate

/-- Resources and tasks are as they were. -/
theorem Moves.same (hjobs : ∀ c, (W'.callers c).jobs = (W.callers c).jobs)
    (hresources : W'.session.resources = W.session.resources)
    (hmarks : W'.session.tasks.map CompileTask.mark = W.session.tasks.map CompileTask.mark)
    (hcurrent : W'.session.Current r → W.session.Current r) : Moves W W' r := by
  have hresource : W'.session.resource r = W.session.resource r := by
    rw [Session.resource, Session.resource, hresources]
  have hwork := congrArg (Array.map fun x : Job × Bool × Bool => (x.1, x.2.2)) hmarks
  simp only [Array.map_map] at hwork
  refine .still hjobs hwork (.of_eq hresource) (fun hc => ⟨hcurrent hc, by rw [hresource]⟩)
    fun {id t t'} ht ht' _ hc _ => ?_
  have hmark := congrArg (·[id]?) hmarks
  simp only [Array.getElem?_map, ht, ht', Option.map_some] at hmark
  rw [← hc]
  exact (congrArg (fun x : Job × Bool × Bool => x.2.1) (Option.some.inj hmark)).symm

/-- Tasks are taken away. -/
theorem Moves.takes {s₀ : Session} (rs : List Nat) (hmatched : s₀.Matched)
    (hjobs : ∀ c, (W'.callers c).jobs = (W.callers c).jobs)
    (hresources : s₀.resources = W.session.resources) (htasks : s₀.tasks = W.session.tasks)
    (hsession : W'.session = rs.foldl takeTask s₀)
    (hcurrent : W'.session.Current r → W.session.Current r ∧ r ∉ rs) : Moves W W' r := by
  have hbefore : s₀.resource r = W.session.resource r := by
    rw [Session.resource, Session.resource, hresources]
  have hresource : W'.session.resource r =
      if r ∈ rs then (W.session.resource r).takeTask.2 else W.session.resource r := by
    rw [hsession, resource_foldl_takeTask, hbefore]
  refine .still hjobs ?_ ?_ (fun hc => ?_) fun {id t t'} ht ht' hr hc hcompiling => ?_
  · rw [hsession, map_work_foldl_takeTask, htasks]
  · rw [hresource]
    split
    · exact .takeTask _
    · exact .refl _
  · obtain ⟨hold, hno⟩ := hcurrent hc
    exact ⟨hold, by rw [hresource, if_neg hno]⟩
  · -- a task that nobody gives up is as it was, and one that is given up belongs to the resource
    by_cases htaken : ∃ i ∈ rs, (s₀.resource i).task = some id
    · obtain ⟨i, hi, htask⟩ := htaken
      obtain ⟨t₀, ht₀, hri⟩ := hmatched i id htask
      rw [htasks, ht] at ht₀
      cases ht₀
      obtain rfl : r = i := hr.symm.trans hri
      rw [hresource, if_pos hi] at hcompiling
      rw [hbefore] at htask
      rw [(Resource.takeTask_eq_self hcompiling).2] at htask
      cases htask
    · rw [hsession, Ledger.task_foldl_takeTask rs s₀ (t := t) (by rw [htasks, ht]) fun i hi htask =>
        htaken ⟨i, hi, htask⟩] at ht'
      cases ht'
      exact hc

/-- Resources are invalidated. -/
theorem Moves.discards (rs : List Nat)
    (hjobs : ∀ c, (W'.callers c).jobs = (W.callers c).jobs)
    (hresource : W'.session.resource r =
      if r ∈ rs ∧ r < W.session.resources.size then (W.session.resource r).invalidate
      else W.session.resource r)
    (htasks : W'.session.tasks = W.session.tasks)
    (hcurrent : W'.session.Current r → W.session.Current r ∧ r ∉ rs) : Moves W W' r := by
  refine .still hjobs (by rw [htasks]) ?_ (fun hc => ?_) fun {id t t'} ht ht' _ hc _ => ?_
  · rw [hresource]
    split
    · exact .invalidate _
    · exact .refl _
  · obtain ⟨hold, hno⟩ := hcurrent hc
    exact ⟨hold, by rw [hresource, if_neg fun h => hno h.1]⟩
  · rw [htasks, ht] at ht'
    cases ht'
    exact hc

/-! ## Coming to an end -/

/-- A task is over that the resource does not wait for. -/
theorem Moves.ends (id : Nat) (hcallers : W'.callers = W.callers)
    (htasks : W'.session.tasks = W.session.tasks.modify id fun t => { t with done := true })
    (hresource : W'.session.resource r = W.session.resource r)
    (hcurrent : W'.session.Current r → W.session.Current r)
    (hover : ∀ {t : CompileTask}, W.session.tasks[id]? = some t → t.job.resource = r →
      (W.session.resource r).state ≠ .compiling) : Moves W W' r := by
  have hget : ∀ i, W'.session.tasks[i]? =
      if id = i then W.session.tasks[i]?.map fun t => { t with done := true }
      else W.session.tasks[i]? := fun i => by rw [htasks, Array.getElem?_modify]
  refine .on (fun x => x) (fun x => x) (.of_eq hresource)
    (fun hc => ⟨hcurrent hc, by rw [hresource]⟩) (fun {x} hx => ⟨?_, rfl⟩) (fun {x} hstate hx => ?_)
    fun {i t'} ht' hr hstop hstate => ?_
  · cases x with
    | queued c i =>
      obtain ⟨j, hj, hr⟩ := hx
      exact ⟨j, by rw [← hj, hcallers], hr⟩
    | task i =>
      obtain ⟨t', ht', hr, hdone⟩ := hx
      rw [hget] at ht'
      split at ht'
      · obtain ⟨t, _, rfl⟩ := Option.map_eq_some_iff.1 ht'
        cases hdone
      · exact ⟨t', ht', hr, hdone⟩
  · rw [hresource] at hstate
    cases x with
    | queued c i =>
      obtain ⟨j, hj, hr⟩ := hx
      exact ⟨j, by rw [← hj, hcallers], hr⟩
    | task i =>
      obtain ⟨t, ht, hr, hdone⟩ := hx
      refine ⟨t, ?_, hr, hdone⟩
      rw [hget, if_neg, ht]
      rintro rfl
      exact hover ht hr hstate
  · rw [hget] at ht'
    split at ht'
    · rename_i hi
      subst hi
      obtain ⟨t, ht, rfl⟩ := Option.map_eq_some_iff.1 ht'
      rw [hresource] at hstate
      exact absurd hstate (hover ht hr)
    · exact ⟨t', ht', hr, hstop⟩

/-- **The job of an entry is over**, and the entry has the result. -/
theorem Moves.delivers (h : W.Entry r) {id : Nat} {t : CompileTask}
    (hcallers : W'.callers = W.callers)
    (htasks : W'.session.tasks = W.session.tasks.modify id fun t => { t with done := true })
    (ht : W.session.tasks[id]? = some t) (hr : t.job.resource = r)
    {program : Option Program} {result : CompileResult}
    (hcompiling : (W.session.resource r).state = .compiling)
    (hresource : W'.session.resource r = ((W.session.resource r).finish 0 program result).2)
    (hresult : (result.success = true → program.isSome) ∧
      (result.success = false → result.error.isSome)) : Moves W W' r := by
  have hdone : t.done = false := by
    cases hd : t.done with
    | false => rfl
    | true => exact absurd hcompiling (h.stopped ht hr (Or.inr hd))
  have hat : W.At r (.task id) := ⟨t, ht, hr, hdone⟩
  have hnone : ¬ W'.At r (.task id) := by
    rintro ⟨t', ht', _, hdone'⟩
    rw [htasks, Array.getElem?_modify, if_pos rfl, ht] at ht'
    cases ht'
    cases hdone'
  refine .ended program result hcompiling hresource hresult.1 hresult.2 fun ⟨x, hx⟩ => ?_
  -- the job stands nowhere else
  have hbefore : W.At r x := by
    cases x with
    | queued c i =>
      obtain ⟨j, hj, hr⟩ := hx
      exact ⟨j, by rw [← hj, hcallers], hr⟩
    | task i =>
      obtain ⟨t', ht', hr', hdone'⟩ := hx
      by_cases hi : id = i
      · subst hi
        exact absurd ⟨t', ht', hr', hdone'⟩ hnone
      · rw [htasks, Array.getElem?_modify, if_neg hi] at ht'
        exact ⟨t', ht', hr', hdone'⟩
  rw [h.alone hbefore hat] at hx
  exact hnone hx

/-! ## Going on -/

/-- **A job is submitted**, and goes from its caller to the tasks. -/
theorem Moves.enqueue {c g : Nat} {errand : Errand} {j : Job} {jobs : List Job}
    (hcaller : W.callers c = .submitting g errand [] (j :: jobs) none) :
    Moves W ({ W with session := W.session.enqueue j }.enter c
      (.submitting g errand [] jobs (some (W.session.tasks.size, j)))) r := by
  have hjobs : (W.callers c).jobs = j :: jobs := by rw [hcaller]; rfl
  have hnew : ∀ c', (({ W with session := W.session.enqueue j }.enter c
      (.submitting g errand [] jobs (some (W.session.tasks.size, j)))).callers c').jobs =
        if c' = c then jobs else (W.callers c').jobs := fun c' => by
    split
    · rename_i hc
      rw [hc, callers_enter_self]
      rfl
    · rename_i hc
      rw [callers_enter_of_ne _ hc]
  have hsize : ∀ {t : CompileTask}, W.session.tasks[W.session.tasks.size]? = some t →
    False := fun ht =>
    absurd (Array.getElem?_eq_some_iff.1 ht).1 (Nat.lt_irrefl _)
  refine .on (.previous c W.session.tasks.size) (.next c W.session.tasks.size) (.refl _)
    (fun hc => ⟨hc, rfl⟩) (fun {x} hx => ⟨?_, x.next_previous _ _⟩) (fun {x} _ hx => ?_)
    fun {id t'} ht' hr hstop _ => ?_
  · cases x with
    | queued c' i =>
      obtain ⟨j', hj', hr⟩ := hx
      rw [hnew] at hj'
      rw [Station.previous]
      split
      · rename_i hc
        rw [if_pos hc] at hj'
        exact ⟨j', by rw [hjobs]; exact hj', hr⟩
      · rename_i hc
        rw [if_neg hc] at hj'
        exact ⟨j', hj', hr⟩
    | task id =>
      obtain ⟨t', ht', hr, hdone⟩ := hx
      rw [Station.previous]
      rcases task_enqueue ht' with ht | ⟨rfl, rfl⟩
      · rw [if_neg fun hid => hsize (hid ▸ ht)]
        exact ⟨t', ht, hr, hdone⟩
      · rw [if_pos rfl]
        exact ⟨j, by rw [hjobs]; rfl, hr⟩
  · cases x with
    | queued c' i =>
      obtain ⟨j', hj', hr⟩ := hx
      by_cases hc : c' = c
      · subst hc
        rw [hjobs] at hj'
        cases i with
        | zero =>
          cases hj'
          rw [Station.next, if_pos rfl]
          exact ⟨_, task_enqueue_self, hr, rfl⟩
        | succ i =>
          rw [Station.next, if_pos rfl]
          exact ⟨j', by rw [hnew, if_pos rfl]; exact hj', hr⟩
      · rw [Station.next_queued_of_ne hc]
        exact ⟨j', by rw [hnew, if_neg hc]; exact hj', hr⟩
    | task id =>
      obtain ⟨t, ht, hr, hdone⟩ := hx
      exact ⟨t, task_enqueue_of_get ht, hr, hdone⟩
  · rcases task_enqueue ht' with ht | ⟨rfl, rfl⟩
    · exact ⟨t', ht, hr, hstop⟩
    · rcases hstop with h | h
      · cases h
      · cases h

end

end Workshop

end KernelGraph
