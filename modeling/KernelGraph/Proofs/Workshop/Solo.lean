/-
  A workshop with one caller.

  Its session is what there is to tell of it, apart from where the caller stands and from the
  proxies that have been handed over: no job is half told, and no proxy is outgoing.  What a worker
  does is made of sections that lead from one such workshop to another.
-/
import KernelGraph.Proofs.Session.Schedule
import KernelGraph.Proofs.Workshop.Apart

namespace KernelGraph

namespace Workshop

open Session

/-! ## Around the graphs -/

section
variable {W : Workshop} {s' : Session}

/-- Workers go on, and tasks stay what they are. -/
theorem Aside.of_work (h : W.session.Around s') (hgraphs : s'.graphs = W.session.graphs)
    (hresources : s'.resources = W.session.resources)
    (hplatforms : s'.platforms = W.session.platforms) (hproxies : s'.proxies = W.session.proxies)
    (hcommands : s'.commands = W.session.commands) (hhooks : s'.hooks = W.session.hooks)
    (hmarks : s'.tasks.map CompileTask.mark = W.session.tasks.map CompileTask.mark) :
    W.Aside s' where
  toAround := h
  store := hresources
  caches := hplatforms
  listed g := by rw [Session.graph, Session.graph, hgraphs]
  published := hproxies
  queued := hcommands
  told := hhooks
  marks := hmarks
  edited c g _ := by rw [Session.graph, Session.graph, hgraphs]

/-- Nothing that matters has changed. -/
theorem Aside.of_eq (hgraphs : s'.graphs = W.session.graphs)
    (hresources : s'.resources = W.session.resources)
    (hplatforms : s'.platforms = W.session.platforms) (hproxies : s'.proxies = W.session.proxies)
    (hcommands : s'.commands = W.session.commands) (hhooks : s'.hooks = W.session.hooks)
    (htasks : s'.tasks = W.session.tasks) (hpools : s'.pools = W.session.pools) : W.Aside s' :=
  .of_work (.of_eq hgraphs hresources hplatforms hhooks hproxies htasks hpools) hgraphs hresources
    hplatforms hproxies hcommands hhooks (by rw [htasks])

end

/-! ## One caller -/

/-- A session with one caller, and nothing that was begun but is not over. -/
def solo (s : Session) (x : Caller) (handed : List Nat) : Workshop where
  session := s
  callers := Function.update (fun _ => .idle) 0 x
  handed := handed
  honest := false

/-- Sections lead from one session to another while the caller goes on. -/
def Brings (s : Session) (x : Caller) (s' : Session) (x' : Caller) : Prop :=
  ∀ handed, (solo s x handed).Reachable → ∃ handed', Steps (solo s x handed) (solo s' x' handed')

/-- Sections lead from one session to another while the caller waits. -/
def Leads (x : Caller) (s s' : Session) : Prop := Brings s x s' x

theorem enter_solo (s : Session) (x y : Caller) (handed : List Nat) :
    (solo s x handed).enter 0 y = solo s y handed := by
  unfold enter solo
  rw [Function.update_idem]

theorem callers_solo (s : Session) (x : Caller) (handed : List Nat) :
    (solo s x handed).callers 0 = x := rfl

theorem update_callers_solo (s : Session) (x y : Caller) (handed : List Nat) :
    Function.update (solo s x handed).callers 0 y = Function.update (fun _ => .idle) 0 y := by
  rw [solo, Function.update_idem]

theorem update_landing_solo (s : Session) (x : Caller) (handed : List Nat) (id : Nat) :
    Function.update (solo s x handed).landing id none = (solo s x handed).landing :=
  Function.update_eq_self id _

section
variable {s s' s'' : Session} {x x' x'' : Caller}

theorem Brings.trans (h : Brings s x s' x') (h' : Brings s' x' s'' x'') : Brings s x s'' x'' := by
  intro handed hreach
  obtain ⟨handed', hsteps⟩ := h handed hreach
  obtain ⟨handed'', hsteps'⟩ := h' handed' (hreach.runs hsteps)
  exact ⟨handed'', Relation.ReflTransGen.trans hsteps hsteps'⟩

/-- One section, in which the caller goes on. -/
theorem Brings.of_step (h : ∀ handed, ∃ d,
    Step d (solo s x handed) ((solo s' x handed).enter 0 x')) :
    Brings s x s' x' := by
  intro handed _
  obtain ⟨d, hstep⟩ := h handed
  rw [enter_solo] at hstep
  exact ⟨handed, .single ⟨d, trivial, hstep⟩⟩

/-- The caller goes on without a section. -/
theorem Brings.of_turn (h : Turn s x x') : Brings s x s x' := by
  refine .of_step fun handed => ⟨_, .turn (W := solo s x handed) ?_⟩
  rw [callers_solo]
  exact h

theorem Leads.refl (s : Session) : Leads x s s := fun handed _ => ⟨handed, .refl⟩

theorem Leads.trans (h : Leads x s s') (h' : Leads x s' s'') : Leads x s s'' := Brings.trans h h'

theorem Leads.aside (h : ∀ handed, (solo s x handed).Aside s') : Leads x s s' :=
  fun handed _ => ⟨handed, .single ⟨_, trivial, .aside (h handed)⟩⟩

theorem Leads.of_eq (hgraphs : s'.graphs = s.graphs) (hresources : s'.resources = s.resources)
    (hplatforms : s'.platforms = s.platforms) (hproxies : s'.proxies = s.proxies)
    (hcommands : s'.commands = s.commands) (hhooks : s'.hooks = s.hooks)
    (htasks : s'.tasks = s.tasks) (hpools : s'.pools = s.pools) : Leads x s s' :=
  .aside fun _ => .of_eq hgraphs hresources hplatforms hproxies hcommands hhooks htasks hpools

theorem Leads.note (s : Session) (records : List Log.Record) : Leads x s (s.note records) :=
  .of_eq rfl rfl rfl rfl rfl rfl rfl rfl

theorem Leads.countCalls (s : Session) (format : String) (n : Nat) :
    Leads x s (s.countCalls format n) := by
  unfold Session.countCalls
  split
  · exact .of_eq rfl rfl rfl rfl rfl rfl rfl rfl
  · exact .of_eq rfl rfl rfl rfl rfl rfl rfl rfl

/-- A pool is changed; it gets no new task. -/
theorem Leads.modifyPool {p : Nat} {f : CompilePool → CompilePool}
    (hf : ∀ pool, s.pools[p]? = some pool →
      (∀ id ∈ (f pool).ids, id ∈ pool.ids) ∧ ((f pool).isOpen = true → pool.isOpen = true)) :
    Leads x s (s.modifyPool p f) :=
  .aside fun _ => .of_work (.modifyPool hf) rfl rfl rfl rfl rfl rfl rfl

/-- A worker's compile has reached its compiler. -/
theorem Leads.enterTask (s : Session) (id : Nat) :
    Leads x s (s.modifyTask id fun t => { t with entered := true }) := by
  refine .aside fun _ => .of_work (.modifyTask s id fun _ => rfl) rfl rfl rfl rfl rfl rfl ?_
  exact map_modify_of_eq s.tasks id (f := fun t => { t with entered := true }) fun _ => rfl

theorem Leads.ite {b : Prop} [Decidable b] (h : Leads x s s') (h' : Leads x s s'') :
    Leads x s (if b then s' else s'') := by
  split
  · exact h
  · exact h'

end

/-! ## Publishing -/

section
variable {W : Workshop} {g : Nat} {plan : Plan}

/-- A proxy that has lost its place is handed over. -/
theorem steps_handOver {o : Option Nat} (hout : W.outgoing = o.toList)
    (hown : ∀ p ∈ o, (W.session.proxies.getD p default).graph = g) : ∃ handed', Steps W { W with
      session := W.session.releaseProxy g o
      outgoing := []
      handed := handed' } := by
  cases o with
  | none =>
    have hempty : W.outgoing = [] := hout
    refine ⟨W.handed, ?_⟩
    rw [← hempty]
    exact .refl
  | some p =>
    have hp : p ∈ W.outgoing := by
      rw [hout]
      exact List.mem_singleton_self p
    have hstep := Step.handOver hp
    rw [hown p rfl, hout, Option.toList_some, List.erase_cons_head] at hstep
    exact ⟨_, .single ⟨_, trivial, hstep⟩⟩

/-- The proxy that loses its place is one of the graph. -/
theorem Stocked.graph_displaced (h : W.Stocked) {p : Nat} (hp : p ∈ W.session.displaced g plan) :
    ((W.session.present g plan).proxies.getD p default).graph = g := by
  unfold displaced at hp
  split at hp
  · cases hp
  · rename_i hlt
    obtain ⟨hsize, hgraph⟩ := h.own hp
    obtain ⟨_, _, heq⟩ := present_of_lt (Nat.lt_of_not_le hlt)
    rw [heq, Array.getD_eq_getD_getElem?, Array.getElem?_push, if_neg (Nat.ne_of_lt hsize),
      ← Array.getD_eq_getD_getElem?]
    exact hgraph

/-- **Publishing**: the proxy takes its place, then the one before it is handed over. -/
theorem steps_present (h : W.Stocked) (hout : W.outgoing = []) (landing : Nat → Option Landing)
    (callers : Nat → Caller) : ∃ handed', Steps { W.present g plan with landing, callers }
      { W with session := W.session.publish g plan, landing, callers, handed := handed' } := by
  obtain ⟨handed', hsteps⟩ := steps_handOver (W := { W.present g plan with landing, callers })
    (g := g) (o := W.session.displaced g plan)
    (by rw [← List.nil_append (Option.toList _), ← hout]; rfl) fun p hp => h.graph_displaced hp
  refine ⟨handed', ?_⟩
  rw [publish_eq, hout]
  exact hsteps

theorem steps_settle (h : W.Stocked) (hout : W.outgoing = []) (landing : Nat → Option Landing) :
    ∃ handed', Steps { W.settle g plan with landing }
      { W with session := W.session.settle g plan, landing, handed := handed' } := by
  unfold Workshop.settle Session.settle
  split
  · exact steps_present h hout landing W.callers
  · exact ⟨W.handed, .refl⟩

theorem steps_finish (h : W.Stocked) (hout : W.outgoing = []) (callers : Nat → Caller) :
    ∃ handed', Steps { W.finish g plan with callers }
      { W with session := W.session.finishUpdate g plan, callers, handed := handed' } := by
  unfold Workshop.finish Session.finishUpdate
  split
  · exact steps_present h hout W.landing callers
  · exact ⟨W.handed, .refl⟩

/-! ## Coming back -/

/-- **A result that a resource has got** is struck off and told. -/
theorem steps_land (h : W.Stocked) (hout : W.outgoing = []) {id n : Nat} {t : CompileTask}
    {program : Option Program} {r : CompileResult} (ht : W.session.tasks[id]? = some t)
    (hkind : t.job.kind = .runtime n plan) (hlanding : W.landing id = some (.delivered program r)) :
    ∃ handed', Steps W { W with
      session := W.session.land t.job n plan program r
      landing := Function.update W.landing id none
      handed := handed' } := by
  let struck := Function.update W.landing id
    (some (.struck program r (n = (W.session.graph t.job.graph).generation)))
  have hsettled : ∃ handed', Steps { W.strike t.job n plan with landing := struck } { W with
      session := if n = (W.session.graph t.job.graph).generation then
        (W.session.strike t.job).settle t.job.graph plan else W.session
      landing := struck
      handed := handed' } := by
    unfold Workshop.strike
    split
    · exact steps_settle (W := { W with session := W.session.strike t.job })
        (h.same (.strike W.session t.job) rfl rfl fun _ _ hc => hc) hout struck
    · exact ⟨W.handed, .refl⟩
  obtain ⟨handed', hsteps⟩ := hsettled
  have htask : (if n = (W.session.graph t.job.graph).generation then
      (W.session.strike t.job).settle t.job.graph plan else W.session).tasks[id]? = some t := by
    split
    · obtain ⟨_, htasks, _⟩ := settle_fields (W.session.strike t.job) t.job.graph plan
      rw [htasks]
      exact ht
    · exact ht
  have htold := Step.tellUpdate (W := { W with
    session := if n = (W.session.graph t.job.graph).generation then
      (W.session.strike t.job).settle t.job.graph plan else W.session
    landing := struck
    handed := handed' }) htask hkind (Function.update_self ..)
  rw [Function.update_idem, ← land_eq_tellUpdate] at htold
  exact ⟨handed', .head ⟨_, trivial, .strike ht hkind hlanding⟩
    (hsteps.tail ⟨_, trivial, htold⟩)⟩

end

/-! ## Workers -/

section
variable {s s' : Session} {x : Caller} {id : Nat} {t : CompileTask}
  {returned : Except (CallError ProgramError) (Program × Bool)} {program : Option Program}
  {r : CompileResult}

theorem Leads.drop (ht : s.tasks[id]? = some t) (h : t.cancelled = true ∨ ¬ s.Awaits t.job) :
    Leads x s (s.endTask id) := fun handed _ =>
  ⟨handed, .single ⟨_, trivial, .drop (W := solo s x handed) ht rfl h⟩⟩

theorem Leads.abandon (ht : s.tasks[id]? = some t)
    (hresult : jobResult t.job (s.resource t.job.resource).level returned = none) :
    Leads x s ((s.modifyResource t.job.resource fun y => y.abandon t.job.generation).endTask id) :=
  fun handed _ =>
    ⟨handed, .single ⟨_, trivial, .abandon (W := solo s x handed) ht rfl nofun hresult⟩⟩

/-- The task of a delivered job, which is over. -/
theorem task_deliver (ht : s.tasks[id]? = some t) (n : Nat) (program : Option Program)
    (r : CompileResult) :
    ((s.deliver t.job n program r).endTask id).tasks[id]? = some { t with done := true } := by
  show (s.tasks.modify id fun t => { t with done := true })[id]? = _
  rw [Array.getElem?_modify, if_pos rfl, ht]
  rfl

/-- The job of an update comes back in sections. -/
theorem Leads.land {n : Nat} {plan : Plan} (ht : s.tasks[id]? = some t)
    (hkind : t.job.kind = .runtime n plan) (hawaits : s.Awaits t.job)
    (hresult : jobResult t.job (s.resource t.job.resource).level returned = some (program, r)) :
    Leads x s (((s.deliver t.job t.job.generation program r).endTask id).land t.job n plan program
      r) := by
  intro handed hreach
  have hdelivered := Step.deliver (W := solo s x handed) ht rfl hawaits hresult
  obtain ⟨handed', hsteps⟩ := steps_land (hreach.step hdelivered).stocked rfl
    (task_deliver ht t.job.generation program r) hkind (Function.update_self ..)
  rw [Function.update_idem, update_landing_solo] at hsteps
  exact ⟨handed', .head ⟨_, trivial, hdelivered⟩ hsteps⟩

/-- The job of a platform comes back in sections. -/
theorem Leads.tellCook {platform : Nat} (ht : s.tasks[id]? = some t)
    (hkind : t.job.kind = .cook platform) (hawaits : s.Awaits t.job)
    (hresult : jobResult t.job (s.resource t.job.resource).level returned = some (program, r)) :
    Leads x s (((s.deliver t.job t.job.generation program r).endTask id).tellCook t.job platform
      r) := by
  intro handed hreach
  have hdelivered := Step.deliver (W := solo s x handed) ht rfl hawaits hresult
  have htold := Step.tellCook (W := { solo s x handed with
    session := (s.deliver t.job t.job.generation program r).endTask id
    landing := Function.update (solo s x handed).landing id (some (.delivered program r)) })
    (task_deliver ht t.job.generation program r) hkind (Function.update_self ..)
  rw [Function.update_idem, update_landing_solo] at htold
  exact ⟨handed, .head ⟨_, trivial, hdelivered⟩ (.single ⟨_, trivial, htold⟩)⟩

/-- **A job comes back** in sections. -/
theorem Leads.comeBack (ht : s.tasks[id]? = some t)
    (returned : Except (CallError ProgramError) (Program × Bool)) :
    Leads x s ((s.endTask id).completeJob t.job returned) := by
  unfold completeJob
  split
  · rename_i hresult
    have hcounted : Leads x s (s.count fun m => { m with
        compiles := m.compiles ++ [(t.job.format, "cancelled")] }) :=
      .of_eq rfl rfl rfl rfl rfl rfl rfl rfl
    exact hcounted.trans (.abandon ht hresult)
  · rename_i program r hresult
    extract_lets timed counted
    obtain ⟨metrics, hmetrics⟩ : ∃ metrics, counted = { s with metrics }.endTask id := by
      refine ⟨counted.metrics, ?_⟩
      unfold counted timed
      split
      · rfl
      · rfl
    have hcounted : Leads x s { s with metrics } := .of_eq rfl rfl rfl rfl rfl rfl rfl rfl
    rw [hmetrics]
    refine hcounted.trans ?_
    split
    · rename_i n plan hkind
      have hgeneration : t.job.generation = n := by rw [Job.generation, hkind]
      subst hgeneration
      rw [completeUpdate_eq_land]
      split
      · rename_i hawaits
        exact .land ht hkind hawaits hresult
      · rename_i hawaits
        exact .drop ht (Or.inr hawaits)
    · rename_i platform hkind
      have hgeneration : t.job.generation = 0 := by rw [Job.generation, hkind]
      rw [completeCook_eq, ← hgeneration]
      split
      · rename_i hawaits
        exact .tellCook ht hkind hawaits hresult
      · rename_i hawaits
        exact .drop ht (Or.inr hawaits)

theorem Leads.runCompile (s : Session) (id : Nat) (t : CompileTask) :
    Leads x s (s.runCompile id t) := by
  unfold Session.runCompile
  split
  · exact .of_eq rfl rfl rfl rfl rfl rfl rfl rfl
  · split
    rename_i outcome calls _
    extract_lets called noted
    have hcalled : Leads x s called := .countCalls s _ _
    refine hcalled.trans ?_
    unfold noted
    cases outcome with
    | error e => exact .of_eq rfl rfl rfl rfl rfl rfl rfl rfl
    | ok q => exact .of_eq rfl rfl rfl rfl rfl rfl rfl rfl

/-- The worker of a pool is free. -/
theorem Leads.free (s : Session) (p : Nat) :
    Leads x s (s.modifyPool p fun y => { y with current := none }) :=
  .modifyPool fun _ _ => ⟨fun _ hid => List.mem_append_right _ hid, fun h => h⟩

theorem retire_eq (s : Session) (p id : Nat) :
    s.retire p id = (s.modifyPool p fun y => { y with current := none }).endTask id := rfl

/-- **A step of a worker** is made of sections. -/
theorem Leads.advance {p : Nat} (hs : s.advance p = some s') : Leads x s s' := by
  unfold Session.advance at hs
  split at hs
  · cases hs
  · rename_i pool hpool
    split at hs
    · rename_i hfree
      split at hs
      · cases hs
      · rename_i id rest hqueue
        have htaken : Leads x s (s.modifyPool p fun y => { y with queue := rest }) :=
          .aside fun _ => .of_work (.dequeue hpool hfree hqueue) rfl rfl rfl rfl rfl rfl rfl
        dsimp only at hs
        split at hs
        · cases hs
          exact htaken
        · rename_i t ht
          split at hs
          · rename_i hcancelled
            cases hs
            rw [retire_eq]
            exact (htaken.trans (.free _ p)).trans (.drop ht (Or.inl hcancelled))
          · cases hs
            exact .aside fun _ => .of_work (.takeUp hpool hfree hqueue _)
              rfl rfl rfl rfl rfl rfl rfl
    · rename_i id _
      split at hs
      · cases hs
      · rename_i t ht
        split at hs
        · rename_i returned _
          cases hs
          have hforgotten : Leads x s { s with cache := s.cache.forget id } :=
            .of_eq rfl rfl rfl rfl rfl rfl rfl rfl
          rw [retire_eq]
          refine (hforgotten.trans (.free _ p)).trans (.comeBack ?_ returned)
          exact ht
        · split at hs
          · cases hs
          · split at hs
            · split at hs
              · cases hs
              · cases hs
                exact (Leads.enterTask s id).trans (.countCalls _ _ _)
            · cases hs
              exact .runCompile s id t

theorem Leads.drainAux (fuel : Nat) (s : Session) : Leads x s (s.drainAux fuel) := by
  induction fuel generalizing s with
  | zero => exact .refl s
  | succ fuel ih =>
    unfold Session.drainAux
    split
    · exact .refl s
    · rename_i s' hs
      obtain ⟨p, _, hp⟩ := List.exists_of_findSome?_eq_some hs
      exact (Leads.advance hp).trans (ih s')

/-- **The workers go on** in sections, until none of them can. -/
theorem Leads.drain (s : Session) : Leads x s s.drain := .drainAux _ s

end

end Workshop

end KernelGraph
