/-
  Callers and their jobs.

  Updates of one graph may overlap, but have different numbers.  A job belongs to one update, which
  submits it once:

  1. `Elapses`: time goes by, and no job of an update is submitted.
  2. `CallerFits`: what a caller knows of its update and its jobs.
  3. `Calls`: no two callers have the same update, and no two tasks the same job.  Every section
     keeps it so.
-/
import KernelGraph.Proofs.Pending.Ledger

namespace KernelGraph

theorem Job.generation_eq {j : Job} {n : Nat} {plan : Plan} (h : j.kind = .runtime n plan) :
    j.generation = n := by
  rw [Job.generation, h]

/-- The resource is the same, or waits for nothing. -/
def Resource.Lapses (x x' : Resource) : Prop := x' = x ∨ x'.state ≠ .compiling ∧ x'.task = none

namespace Resource.Lapses

variable {x x' x'' : Resource}

theorem trans (h : x.Lapses x') (h' : x'.Lapses x'') : x.Lapses x'' := by
  rcases h' with rfl | h'
  · exact h
  · exact Or.inr h'

theorem same (h : x.Lapses x') (hx : x'.state = .compiling) : x' = x :=
  h.resolve_right fun hne => hne.1 hx

theorem told (h : x.Lapses x') {id : Nat} (hx : x'.task = some id) : x' = x :=
  h.resolve_right fun hne => by
    rw [hne.2] at hx
    cases hx

theorem takeTask (x : Resource) : x.Lapses x.takeTask.2 := by
  unfold Resource.takeTask
  split
  · exact Or.inl rfl
  · refine Or.inr ⟨fun h => ?_, rfl⟩
    dsimp only at h
    split at h
    · cases h
    · contradiction

theorem invalidate (x : Resource) : x.Lapses x.invalidate := Or.inr ⟨fun h => (by cases h), rfl⟩

theorem abandon (x : Resource) (n : Nat) : x.Lapses (x.abandon n) := by
  unfold Resource.abandon
  split
  · exact Or.inr ⟨fun h => (by cases h), rfl⟩
  · exact Or.inl rfl

theorem finish (x : Resource) (n : Nat) (program : Option Program) (r : CompileResult) :
    x.Lapses (x.finish n program r).2 := by
  unfold Resource.finish
  split
  · refine Or.inr ⟨fun h => ?_, rfl⟩
    dsimp only at h
    split at h
    · cases h
    · cases h
  · exact Or.inl rfl

end Resource.Lapses

namespace Session

/-! ## Time goes by -/

/-- No job of an update is submitted, and graphs come to later generations. -/
structure Elapses (s s' : Session) : Prop where
  size : s.graphs.size ≤ s'.graphs.size
  generation : ∀ g, (s.graph g).generation ≤ (s'.graph g).generation
  closed : ∀ g, (s.graph g).closed = true → (s'.graph g).closed = true
  opened : ∀ g, (s'.graph g).closed = true →
    (s.graph g).closed = true ∨ (s.graph g).generation < (s'.graph g).generation
  old : ∀ {id : Nat} {t' : CompileTask}, s'.tasks[id]? = some t' → t'.job.IsRuntime →
    ∃ t, s.tasks[id]? = some t ∧ t'.job = t.job
  kept : ∀ {id : Nat} {t : CompileTask}, s.tasks[id]? = some t →
    ∃ t', s'.tasks[id]? = some t' ∧ t'.job = t.job
  fits : ∀ {j n plan}, JobFits s j n plan → JobFits s' j n plan

section
variable {s s' : Session} {g k : Nat}

theorem Frame.elapses (h : s.Frame s') : s.Elapses s' where
  size := h.size
  generation := h.generation
  closed := h.closed
  opened := h.opened
  old ht' hruntime := h.old_task ht' hruntime
  kept {id t} ht := by
    have hlt := (Array.getElem?_eq_some_iff.1 ht).1
    have hlt' := Nat.lt_of_lt_of_le hlt h.tasks
    rcases h.jobs id _ (Array.getElem?_eq_getElem hlt') with ⟨t₀, ht₀, hjob⟩ | ⟨hle, _⟩
    · rw [ht] at ht₀
      cases ht₀
      exact ⟨_, Array.getElem?_eq_getElem hlt', hjob⟩
    · omega
  fits hj := hj.frame h

theorem Elapses.trans {s'' : Session} (h : s.Elapses s') (h' : s'.Elapses s'') : s.Elapses s'' where
  size := Nat.le_trans h.size h'.size
  generation g := Nat.le_trans (h.generation g) (h'.generation g)
  closed g hg := h'.closed g (h.closed g hg)
  opened g hg := by
    rcases h'.opened g hg with hg | hlt
    · exact (h.opened g hg).imp_right fun hlt => Nat.lt_of_lt_of_le hlt (h'.generation g)
    · exact Or.inr (Nat.lt_of_le_of_lt (h.generation g) hlt)
  old ht'' hruntime := by
    obtain ⟨t', ht', hjob'⟩ := h'.old ht'' hruntime
    obtain ⟨t, ht, hjob⟩ := h.old ht' (by rw [← hjob']; exact hruntime)
    exact ⟨t, ht, hjob'.trans hjob⟩
  kept ht := by
    obtain ⟨t', ht', hjob⟩ := h.kept ht
    obtain ⟨t'', ht'', hjob'⟩ := h'.kept ht'
    exact ⟨t'', ht'', hjob'.trans hjob⟩
  fits hj := h'.fits (h.fits hj)

theorem Renews.elapses (h : Renews g s s') : s.Elapses s' where
  size := Nat.le_of_eq h.size.symm
  generation i := Nat.le_of_eq (h.generation i).symm
  closed i hi := by rw [h.closed]; exact hi
  opened i hi := Or.inl (by rw [← h.closed]; exact hi)
  old {id t'} ht' _ := ⟨t', by rw [← h.tasks]; exact ht', rfl⟩
  kept {id t} ht := ⟨t, by rw [h.tasks]; exact ht, rfl⟩
  fits hj := hj.renews h

/-! ## What a caller knows -/

/-- The kernel of the graph has a source. -/
def Compiles (s : Session) (g k : Nat) : Prop :=
  k ∈ (s.graph g).definition.compilable.map Prod.fst

/-- The job is one of the update that has the number. -/
structure Serves (s : Session) (g n : Nat) (j : Job) : Prop where
  graph : j.graph = g
  job : ∃ plan, j.kind = .runtime n plan ∧ JobFits s j n plan
  compiles : s.Compiles g j.kernel

theorem Serves.isRuntime {n : Nat} {j : Job} (h : s.Serves g n j) : j.IsRuntime := by
  obtain ⟨plan, hkind, _⟩ := h.job
  exact ⟨n, plan, hkind⟩

theorem Serves.generation {n : Nat} {j : Job} (h : s.Serves g n j) : j.generation = n := by
  obtain ⟨plan, hkind, _⟩ := h.job
  exact Job.generation_eq hkind

/-- What a caller knows of its update and its jobs. -/
structure CallerFits (s : Session) (x : Ledger.Caller) : Prop where
  graph : ∀ {g n}, x.update? = some (g, n) → g < s.graphs.size
  le : ∀ {g n}, x.update? = some (g, n) → n ≤ (s.graph g).generation
  lt : ∀ {g n}, x.update? = some (g, n) → (s.graph g).closed = true → n < (s.graph g).generation
  jobs : ∀ j ∈ x.jobs, ∃ g n, x.update? = some (g, n) ∧ s.Serves g n j
  nodup : (x.jobs.map Job.kernel).Nodup
  unsubmitted : ∀ j ∈ x.jobs, ∀ (id : Nat) (t : CompileTask), s.tasks[id]? = some t →
    t.job.IsRuntime → t.job.mark ≠ j.mark
  fresh : ∀ {g n}, x = .waiting g n → ∀ (id : Nat) (t : CompileTask), s.tasks[id]? = some t →
    t.job.IsRuntime → t.job.graph = g → t.job.generation ≠ n
  untold : ∀ {id j}, x.untold? = some (id, j) → (∃ t, s.tasks[id]? = some t ∧ t.job = j) ∧
    ∃ g n, x.update? = some (g, n) ∧ s.Serves g n j
  closing : ∀ {g}, x = .closing g → (s.graph g).closed = true

theorem callerFits_idle (s : Session) : CallerFits s .idle where
  graph h := by cases h
  le h := by cases h
  lt h := by cases h
  jobs j hj := by cases hj
  nodup := .nil
  unsubmitted j hj := by cases hj
  fresh h := by cases h
  untold h := by cases h
  closing h := by cases h

theorem callerFits_closing (h : (s.graph g).closed = true) : CallerFits s (.closing g) where
  graph h := by cases h
  le h := by cases h
  lt h := by cases h
  jobs j hj := by cases hj
  nodup := .nil
  unsubmitted j hj := by cases hj
  fresh h := by cases h
  untold h := by cases h
  closing h' := by
    cases h'
    exact h

theorem Serves.elapses {n : Nat} {j : Job} (h : s.Serves g n j) (hs : s.Elapses s')
    (hdefinition : (s'.graph g).definition = (s.graph g).definition) : s'.Serves g n j where
  graph := h.graph
  job := by
    obtain ⟨plan, hkind, hfits⟩ := h.job
    exact ⟨plan, hkind, hs.fits hfits⟩
  compiles := by
    rw [Compiles, hdefinition]
    exact h.compiles

/-- **A caller's knowledge stays true** while its graph is not edited. -/
theorem CallerFits.elapses {x : Ledger.Caller} (h : CallerFits s x) (hs : s.Elapses s')
    (hdefinition : ∀ {g n}, x.update? = some (g, n) →
      (s'.graph g).definition = (s.graph g).definition) : CallerFits s' x where
  graph hx := Nat.lt_of_lt_of_le (h.graph hx) hs.size
  le hx := Nat.le_trans (h.le hx) (hs.generation _)
  lt hx hclosed := by
    rcases hs.opened _ hclosed with hc | hlt
    · exact Nat.lt_of_lt_of_le (h.lt hx hc) (hs.generation _)
    · exact Nat.lt_of_le_of_lt (h.le hx) hlt
  jobs j hj := by
    obtain ⟨g, n, hx, hserves⟩ := h.jobs j hj
    exact ⟨g, n, hx, hserves.elapses hs (hdefinition hx)⟩
  nodup := h.nodup
  unsubmitted j hj id t' ht' hruntime := by
    obtain ⟨t, ht, hjob⟩ := hs.old ht' hruntime
    rw [hjob] at hruntime ⊢
    exact h.unsubmitted j hj id t ht hruntime
  fresh hx id t' ht' hruntime := by
    obtain ⟨t, ht, hjob⟩ := hs.old ht' hruntime
    rw [hjob] at hruntime ⊢
    exact h.fresh hx id t ht hruntime
  untold hx := by
    obtain ⟨⟨t, ht, rfl⟩, g, n, hupdate, hserves⟩ := h.untold hx
    obtain ⟨t', ht', hjob⟩ := hs.kept ht
    exact ⟨⟨t', ht', hjob⟩, g, n, hupdate, hserves.elapses hs (hdefinition hupdate)⟩
  closing hx := hs.closed _ (h.closing hx)

/-- The caller goes on submitting. -/
theorem CallerFits.submitting {plan : Plan} {failed failed' : List Nat} {jobs : List Job}
    {untold untold' : Option (Nat × Job)} (h : CallerFits s (.submitting g plan failed jobs untold))
    (huntold : untold' = none ∨ untold' = untold) :
    CallerFits s (.submitting g plan failed' jobs untold') where
  graph hx := h.graph hx
  le hx := h.le hx
  lt hx := h.lt hx
  jobs := h.jobs
  nodup := h.nodup
  unsubmitted := h.unsubmitted
  fresh hx := by cases hx
  untold hx := by
    rcases huntold with rfl | rfl
    · cases hx
    · exact h.untold hx
  closing hx := by cases hx

/-! ## All callers -/

/-- No two callers have the same update, and no two tasks the same job. -/
structure Calls (s : Session) (φ : Nat → Ledger.Caller) : Prop where
  holdings : s.Holdings
  handing : s.Handing
  fits : ∀ {id : Nat} {t : CompileTask} {n : Nat} {plan : Plan}, s.tasks[id]? = some t →
    t.job.kind = .runtime n plan → JobFits s t.job n plan
  unique : ∀ {id id' : Nat} {t t' : CompileTask}, s.tasks[id]? = some t →
    s.tasks[id']? = some t' → t.job.IsRuntime → t'.job.IsRuntime →
      t.job.mark = t'.job.mark → id = id'
  callers : ∀ c, CallerFits s (φ c)
  apart : ∀ {c c' g n}, (φ c).update? = some (g, n) → (φ c').update? = some (g, n) → c = c'

variable {φ : Nat → Ledger.Caller} {c : Nat}

/-- **Time goes by** for all callers. -/
theorem Calls.elapses (h : s.Calls φ) (hs : s.Elapses s') (hholdings : s'.Holdings)
    (hhanding : s'.Handing) (hdefinition : ∀ {c g n}, (φ c).update? = some (g, n) →
      (s'.graph g).definition = (s.graph g).definition) : s'.Calls φ where
  holdings := hholdings
  handing := hhanding
  fits ht' hkind := by
    obtain ⟨t, ht, hjob⟩ := hs.old ht' ⟨_, _, hkind⟩
    rw [hjob] at hkind ⊢
    exact hs.fits (h.fits ht hkind)
  unique ht' hu' hruntime hruntime' hmark := by
    obtain ⟨t, ht, hjob⟩ := hs.old ht' hruntime
    obtain ⟨u, hu, hjob'⟩ := hs.old hu' hruntime'
    rw [hjob] at hruntime hmark
    rw [hjob'] at hruntime' hmark
    exact h.unique ht hu hruntime hruntime' hmark
  callers c := (h.callers c).elapses hs hdefinition
  apart := h.apart

theorem Calls.frame (h : s.Calls φ) (hf : s.Frame s')
    (hdefinition : ∀ {c g n}, (φ c).update? = some (g, n) →
      (s'.graph g).definition = (s.graph g).definition) : s'.Calls φ :=
  h.elapses hf.elapses (h.holdings.frame hf) (h.handing.frame h.holdings hf) hdefinition

/-- **A caller goes on.** -/
theorem Calls.enter (h : s.Calls φ) {x : Ledger.Caller} (hx : CallerFits s x)
    (hapart : ∀ {c' g n}, x.update? = some (g, n) → (φ c').update? = some (g, n) → c' = c) :
    s.Calls (Function.update φ c x) where
  holdings := h.holdings
  handing := h.handing
  fits := h.fits
  unique := h.unique
  callers c' := by
    by_cases hc : c' = c
    · rw [hc, Function.update_self]
      exact hx
    · rw [Function.update_of_ne hc]
      exact h.callers c'
  apart {c₁ c₂ g n} h₁ h₂ := by
    by_cases hc₁ : c₁ = c
    · by_cases hc₂ : c₂ = c
      · rw [hc₁, hc₂]
      · rw [hc₁, Function.update_self] at h₁
        rw [Function.update_of_ne hc₂] at h₂
        exact absurd (hapart h₁ h₂) hc₂
    · rw [Function.update_of_ne hc₁] at h₁
      by_cases hc₂ : c₂ = c
      · rw [hc₂, Function.update_self] at h₂
        exact absurd (hapart h₂ h₁) hc₁
      · rw [Function.update_of_ne hc₂] at h₂
        exact h.apart h₁ h₂

/-! ## Sections -/

theorem Frame.modifyResource (s : Session) (r : Nat) {f : Resource → Resource}
    (hf : ∀ x : Resource, x.Eases (f x)) : s.Frame (s.modifyResource r f) :=
  .of_steady (.modifyResource s r f) Array.size_modify (eases_modifyResource s r hf) rfl rfl

theorem Frame.endTask (s : Session) (id : Nat) : s.Frame (s.endTask id) :=
  (Around.modifyTask s id (f := fun t => { t with done := true }) fun _ => rfl).frame

theorem Frame.takeAll (s : Session) (g : Nat) : s.Frame (s.takeAll g) :=
  List.foldlRecOn (motive := fun t => s.Frame t) (s.graphResources g) _ (.of_eq rfl rfl rfl rfl rfl)
    fun t ht r _ => ht.trans (.takeTask t r)

theorem graph_takeAll (s : Session) (g i : Nat) : (s.takeAll g).graph i = s.graph i := by
  obtain ⟨_, _, _, heq, _⟩ := foldl_takeTask_eq (s.graphResources g) s
  rw [Session.takeAll, heq]
  rfl

theorem Steady.takeAll (s : Session) (g : Nat) : s.Steady (s.takeAll g) :=
  List.foldlRecOn (motive := fun t => s.Steady t) (s.graphResources g) _ (.refl s)
    fun t ht r _ => ht.trans (.takeTask t r)

/-- What a graph tells of a job leaves everything as it is but for the records. -/
theorem land_eq (s : Session) (j : Job) (n : Nat) (plan : Plan) (program : Option Program)
    (r : CompileResult) : ∃ log fatals hooks, s.land j n plan program r =
      { (if n = (s.graph j.graph).generation then (s.strike j).settle j.graph plan else s) with
        log, fatals, hooks } := by
  unfold land
  by_cases hn : n = (s.graph j.graph).generation
  · simp only [hn, decide_true, Bool.not_true, Bool.false_eq_true, if_false, if_true]
    split
    · unfold Session.compileFailed
      split
      · exact ⟨_, _, _, rfl⟩
      · exact ⟨_, _, _, rfl⟩
    · exact ⟨_, _, _, rfl⟩
  · simp only [hn, decide_false, Bool.not_false, if_true, if_false]
    split
    · unfold Session.compileFailed
      split
      · exact ⟨_, _, _, rfl⟩
      · exact ⟨_, _, _, rfl⟩
    · exact ⟨_, _, _, rfl⟩

theorem Frame.settle (s : Session) (g : Nat) (plan : Plan) : s.Frame (s.settle g plan) := by
  unfold Session.settle
  split
  · exact .publish s g plan
  · exact .of_eq rfl rfl rfl rfl rfl

theorem Frame.strike (s : Session) (j : Job) : s.Frame (s.strike j) := by
  have hgraph : s.Frame (s.modifyGraph j.graph fun x =>
      { x with pending := x.pending.filter (· ≠ j.kernel) }) :=
    .modifyGraph s j.graph fun x => ⟨rfl, Nat.le_refl _, fun h => h, Or.inl, Or.inl rfl⟩
  exact hgraph.trans (.of_eq rfl rfl rfl rfl rfl)

theorem Frame.land (s : Session) (j : Job) (n : Nat) (plan : Plan) (program : Option Program)
    (r : CompileResult) : s.Frame (s.land j n plan program r) := by
  obtain ⟨log, fatals, hooks, heq⟩ := land_eq s j n plan program r
  rw [heq]
  split
  · exact (Frame.strike s j).trans ((Frame.settle _ _ plan).trans (.of_eq rfl rfl rfl rfl rfl))
  · exact .of_eq rfl rfl rfl rfl rfl

theorem Steady.strike (s : Session) (j : Job) : s.Steady (s.strike j) := by
  have hgraph : s.Steady (s.modifyGraph j.graph fun x =>
      { x with pending := x.pending.filter (· ≠ j.kernel) }) :=
    .modifyGraph s j.graph fun x => ⟨rfl, rfl, rfl, rfl, rfl, rfl, rfl⟩
  exact hgraph.trans (.of_eq rfl rfl rfl rfl rfl)

/-! ## Telling and publishing -/

/-- Something is told or published.  Nothing else changes: no resource, no task, and nothing of what
    is outstanding. -/
structure Posts (s s' : Session) : Prop extends Steady s s' where
  resources : s'.resources = s.resources
  tasks : s'.tasks = s.tasks
  pending : ∀ g, (s'.graph g).pending = (s.graph g).pending
  gauge : s'.metrics.pending = s.metrics.pending

theorem Posts.of_eq (hsteady : s.Steady s') (hgraphs : s'.graphs = s.graphs)
    (hresources : s'.resources = s.resources) (htasks : s'.tasks = s.tasks)
    (hgauge : s'.metrics.pending = s.metrics.pending) : s.Posts s' where
  toSteady := hsteady
  resources := hresources
  tasks := htasks
  pending g := by rw [Session.graph, Session.graph, hgraphs]
  gauge := hgauge

theorem Posts.refl (s : Session) : s.Posts s := .of_eq (.refl s) rfl rfl rfl rfl

theorem Posts.trans {s'' : Session} (h : s.Posts s') (h' : s'.Posts s'') : s.Posts s'' where
  toSteady := h.toSteady.trans h'.toSteady
  resources := h'.resources.trans h.resources
  tasks := h'.tasks.trans h.tasks
  pending g := (h'.pending g).trans (h.pending g)
  gauge := h'.gauge.trans h.gauge

theorem Posts.publish (s : Session) (g : Nat) (plan : Plan) : s.Posts (s.publish g plan) := by
  by_cases h : plan.generation ≤ (s.graph g).published
  · rw [publish_of_le h]
    exact .refl s
  · have hlt := Nat.not_le.1 h
    refine ⟨.publish s g plan, by rw [publish_of_lt hlt], by rw [publish_of_lt hlt],
      fun i => ?_, ?_⟩
    · rw [publish_of_lt hlt]
      show ((s.modifyGraph g fun x =>
        { x with published := plan.generation, proxy := some s.proxies.size }).graph i).pending = _
      rw [graph_modifyGraph]
      split
      · rfl
      · rfl
    · unfold Session.publish Session.releaseProxy
      dsimp only
      rw [if_neg h]
      split
      · rfl
      · split
        · rfl
        · rfl

theorem Posts.settle (s : Session) (g : Nat) (plan : Plan) : s.Posts (s.settle g plan) := by
  unfold Session.settle
  split
  · exact .publish s g plan
  · exact .refl s

theorem Posts.finishUpdate (s : Session) (g : Nat) (plan : Plan) :
    s.Posts (s.finishUpdate g plan) := by
  unfold Session.finishUpdate
  split
  · exact .publish s g plan
  · exact .refl s

theorem Posts.reportFailure (s : Session) (g k : Nat) : s.Posts (s.reportFailure g k) := by
  unfold Session.reportFailure
  dsimp only
  split
  · exact .refl s
  · unfold Session.compileFailed
    split
    · exact .of_eq (.of_eq rfl rfl rfl rfl rfl) rfl rfl rfl rfl
    · exact .of_eq (.of_eq rfl rfl rfl rfl rfl) rfl rfl rfl rfl

/-- **The second section** of a job that comes back strikes it off, if it is current, and tells. -/
theorem Posts.land (s : Session) (j : Job) (n : Nat) (plan : Plan) (program : Option Program)
    (r : CompileResult) :
    Posts (if n = (s.graph j.graph).generation then s.strike j else s)
      (s.land j n plan program r) := by
  obtain ⟨log, fatals, hooks, heq⟩ := land_eq s j n plan program r
  rw [heq]
  split
  · exact (Posts.settle _ _ plan).trans (.of_eq (.of_eq rfl rfl rfl rfl rfl) rfl rfl rfl rfl)
  · exact .of_eq (.of_eq rfl rfl rfl rfl rfl) rfl rfl rfl rfl

theorem Steady.land (s : Session) (j : Job) (n : Nat) (plan : Plan) (program : Option Program)
    (r : CompileResult) : s.Steady (s.land j n plan program r) := by
  refine Steady.trans ?_ (Posts.land s j n plan program r).toSteady
  split
  · exact .strike s j
  · exact .refl s

/-- **Closing a graph** takes what is outstanding off the gauge. -/
theorem gauge_finishClose (s : Session) (g : Nat) : (s.finishClose g).tasks = s.tasks ∧
    (s.finishClose g).graphs.size = s.graphs.size ∧
    (s.finishClose g).metrics.pending = s.metrics.pending - (s.graph g).pending.length := by
  have hreleased : ∀ (s : Session) (proxy : Option Nat), (s.releaseProxy g proxy).tasks = s.tasks ∧
      (s.releaseProxy g proxy).graphs.size = s.graphs.size ∧
      (s.releaseProxy g proxy).metrics = s.metrics := by
    intro s proxy
    unfold Session.releaseProxy
    split
    · exact ⟨rfl, rfl, rfl⟩
    · split
      · exact ⟨rfl, rfl, rfl⟩
      · exact ⟨rfl, rfl, rfl⟩
  have hempty : ∀ (s : Session) (cook : List Nat), (s.emptyGraph g cook).tasks = s.tasks ∧
      (s.emptyGraph g cook).graphs.size = s.graphs.size ∧
      (s.emptyGraph g cook).metrics.pending = s.metrics.pending - (s.graph g).pending.length := by
    intro s cook
    unfold Session.emptyGraph
    extract_lets settled announced proxy emptied
    obtain ⟨htasks, hsize, hmetrics⟩ := hreleased emptied proxy
    rw [htasks, hsize, hmetrics]
    exact ⟨rfl, Array.size_modify.trans Array.size_modify, Int.add_zero _⟩
  unfold Session.finishClose
  obtain ⟨htasks, hsize, hpending⟩ := hempty
    ((s.allResources g).foldl (fun s r => s.modifyResource r Resource.invalidate) s)
    ((s.graph g).cook.map Prod.snd)
  rw [htasks, hsize, hpending, foldl_invalidate]
  exact ⟨rfl, rfl, rfl⟩

theorem Calls.steady (h : s.Calls φ) (hf : s.Frame s') (hsteady : s.Steady s') : s'.Calls φ :=
  h.frame hf fun _ => (hsteady.graph _).definition

end

end Session

end KernelGraph
