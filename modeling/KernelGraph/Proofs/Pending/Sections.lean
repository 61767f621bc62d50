/-
  Every section keeps callers and jobs in order.

  A new update has a number that no other one of its graph has had.  The jobs that it prepares are
  its own, and when it submits one, no task has it yet.
-/
import KernelGraph.Proofs.Pending.Opening

namespace KernelGraph

namespace Session

section
variable {s s' : Session} {φ : Nat → Ledger.Caller} {c g : Nat} {j : Job}

/-- A caller goes on with its own update, or with none. -/
theorem Calls.resume (h : s.Calls φ) {x : Ledger.Caller} (hx : CallerFits s x)
    (hupdate : ∀ {g n}, x.update? = some (g, n) → (φ c).update? = some (g, n)) :
    s.Calls (Function.update φ c x) :=
  h.enter hx fun hx' hc' => h.apart hc' (hupdate hx')

/-! ## Submitting -/

/-- A task is an old one, or that of the job that is submitted. -/
theorem task_enqueue {id : Nat} {t : CompileTask} (ht : (s.enqueue j).tasks[id]? = some t) :
    s.tasks[id]? = some t ∨ id = s.tasks.size ∧ t = { job := j } := by
  have hpush : (s.tasks.push { job := j })[id]? = some t := ht
  rw [Array.getElem?_push] at hpush
  split at hpush
  · rename_i hi
    exact Or.inr ⟨hi, (Option.some.inj hpush).symm⟩
  · exact Or.inl hpush

theorem task_enqueue_of_get {id : Nat} {t : CompileTask} (ht : s.tasks[id]? = some t) :
    (s.enqueue j).tasks[id]? = some t := by
  show (s.tasks.push { job := j })[id]? = some t
  rw [Array.getElem?_push, if_neg (Nat.ne_of_lt (Array.getElem?_eq_some_iff.1 ht).1), ht]

theorem task_enqueue_self : (s.enqueue j).tasks[s.tasks.size]? = some { job := j } :=
  Array.getElem?_push_size

theorem Serves.enqueue {j' : Job} {n : Nat} (h : s.Serves g n j') :
    (s.enqueue j).Serves g n j' where
  graph := h.graph
  job := by
    obtain ⟨plan, hkind, hfits⟩ := h.job
    exact ⟨plan, hkind, hfits.enqueue⟩
  compiles := h.compiles

/-- A job is submitted that is none of the caller's. -/
theorem CallerFits.enqueue {x : Ledger.Caller} (h : CallerFits s x)
    (hjobs : ∀ j' ∈ x.jobs, j.mark ≠ j'.mark)
    (hfresh : ∀ {g n}, x = .waiting g n → j.graph = g → j.generation ≠ n) :
    CallerFits (s.enqueue j) x where
  graph := h.graph
  le := h.le
  lt := h.lt
  jobs j' hj' := by
    obtain ⟨g, n, hx, hserves⟩ := h.jobs j' hj'
    exact ⟨g, n, hx, hserves.enqueue⟩
  nodup := h.nodup
  unsubmitted j' hj' id t ht hruntime := by
    rcases task_enqueue ht with ht | ⟨-, rfl⟩
    · exact h.unsubmitted j' hj' id t ht hruntime
    · exact hjobs j' hj'
  fresh hx id t ht hruntime hgraph := by
    rcases task_enqueue ht with ht | ⟨-, rfl⟩
    · exact h.fresh hx id t ht hruntime hgraph
    · exact hfresh hx hgraph
  untold hx := by
    obtain ⟨⟨t, ht, hjob⟩, g, n, hupdate, hserves⟩ := h.untold hx
    exact ⟨⟨t, task_enqueue_of_get ht, hjob⟩, g, n, hupdate, hserves.enqueue⟩
  closing := h.closing

/-- The first of the jobs serves the caller's update. -/
theorem CallerFits.serves {plan : Plan} {failed : List Nat} {jobs : List Job}
    {untold : Option (Nat × Job)} (h : CallerFits s (.submitting g plan failed jobs untold))
    (hj : j ∈ jobs) : s.Serves g plan.generation j := by
  obtain ⟨_, _, hupdate, hserves⟩ := h.jobs j hj
  cases hupdate
  exact hserves

/-- **A job is submitted.** -/
theorem Calls.enqueue (h : s.Calls φ) {plan : Plan} {jobs : List Job}
    (hcaller : φ c = .submitting g plan [] (j :: jobs) none) : (s.enqueue j).Calls
      (Function.update φ c (.submitting g plan [] jobs (some (s.tasks.size, j)))) := by
  have hfits := h.callers c
  rw [hcaller] at hfits
  have hserves := hfits.serves (List.mem_cons_self ..)
  have hnodup := hfits.nodup
  have hnot : j.kernel ∉ jobs.map Job.kernel := (List.nodup_cons.1 hnodup).1
  have hunsubmitted : ∀ (id : Nat) (t : CompileTask), s.tasks[id]? = some t → t.job.IsRuntime →
      t.job.mark ≠ j.mark := hfits.unsubmitted j (List.mem_cons_self ..)
  -- the other callers have other updates
  have hother : ∀ c' ≠ c, ∀ {i n}, (φ c').update? = some (i, n) →
      j.graph = i → j.generation ≠ n := by
    rintro c' hc' i n hupdate rfl rfl
    refine hc' (h.apart hupdate ?_)
    rw [hcaller, hserves.graph, hserves.generation]
    rfl
  have hentered :
      CallerFits (s.enqueue j) (.submitting g plan [] jobs (some (s.tasks.size, j))) := by
    have hrest : CallerFits s (.submitting g plan [] jobs none) := by
      refine ⟨hfits.graph, hfits.le, hfits.lt,
        fun j' hj' => hfits.jobs j' (List.mem_cons_of_mem _ hj'),
        (List.nodup_cons.1 hnodup).2,
        fun j' hj' => hfits.unsubmitted j' (List.mem_cons_of_mem _ hj'),
        fun hx => (by cases hx), fun hx => (by cases hx), fun hx => (by cases hx)⟩
    have hnext := hrest.enqueue (j := j) (fun j' hj' hmark => hnot ?_) fun hx => by cases hx
    · refine ⟨hnext.graph, hnext.le, hnext.lt, hnext.jobs, hnext.nodup, hnext.unsubmitted,
        fun hx => (by cases hx), fun hx => ?_, fun hx => (by cases hx)⟩
      cases hx
      exact ⟨⟨_, task_enqueue_self, rfl⟩, g, plan.generation, rfl, hserves.enqueue⟩
    · rw [show j.kernel = j'.kernel from congrArg HookMark.kernel hmark]
      exact List.mem_map_of_mem hj'
  refine ⟨h.holdings.of_eq rfl rfl rfl, fun i k set hset => h.handing i k set hset,
    fun {id t n plan} ht hkind => ?_, fun {id id' t t'} ht ht' hruntime hruntime' hmark => ?_,
    fun c' => ?_, fun {c₁ c₂ i n} h₁ h₂ => ?_⟩
  · rcases task_enqueue ht with ht | ⟨-, rfl⟩
    · exact (h.fits ht hkind).enqueue
    · obtain ⟨plan', hkind', hjob⟩ := hserves.job
      rw [hkind'] at hkind
      cases hkind
      exact hjob.enqueue
  · rcases task_enqueue ht with ht | ⟨rfl, rfl⟩
    · rcases task_enqueue ht' with ht' | ⟨rfl, rfl⟩
      · exact h.unique ht ht' hruntime hruntime' hmark
      · exact absurd hmark (hunsubmitted id t ht hruntime)
    · rcases task_enqueue ht' with ht' | ⟨rfl, rfl⟩
      · exact absurd hmark.symm (hunsubmitted id' t' ht' hruntime')
      · rfl
  · by_cases hc : c' = c
    · rw [hc, Function.update_self]
      exact hentered
    · rw [Function.update_of_ne hc]
      refine (h.callers c').enqueue (fun j' hj' hmark => ?_) fun hx =>
        hother c' hc (by rw [hx]; rfl)
      obtain ⟨i, n, hupdate, hserves'⟩ := (h.callers c').jobs j' hj'
      refine hother c' hc hupdate ?_ ?_
      · rw [show j.graph = j'.graph from congrArg HookMark.graph hmark, hserves'.graph]
      · rw [show j.generation = j'.generation from congrArg HookMark.generation hmark,
          hserves'.generation]
  · -- the updates are the same as before
    have hupdate : ∀ c', (Function.update φ c (Ledger.Caller.submitting g plan [] jobs
        (some (s.tasks.size, j))) c').update? = (φ c').update? := fun c' => by
      by_cases hc : c' = c
      · rw [hc, Function.update_self, hcaller]
        rfl
      · rw [Function.update_of_ne hc]
    rw [hupdate] at h₁ h₂
    exact h.apart h₁ h₂

/-! ## All sections -/

/-- The first section of an update. -/
theorem Calls.begin (h : s.Calls φ) (hg : g < s.graphs.size) (haccepts : s.accepts g = true) :
    ((s.begun g).takeAll g).Calls
      (Function.update φ c (.waiting g ((s.graph g).generation + 1))) := by
  have hopen := open_of_accepts haccepts
  have hbegun : s.Frame (s.begun g) :=
    .modifyGraph s g fun x => ⟨rfl, Nat.le_succ _, fun h => h, Or.inl, Or.inl rfl⟩
  have hframe := hbegun.trans (.takeAll (s.begun g) g)
  have hgraph := graph_takeAll (s.begun g) g
  have hself := (hgraph g).trans (graph_begun hg)
  have hcalls : ((s.begun g).takeAll g).Calls φ := h.frame hframe fun {c' i n} _ => by
    rw [hgraph, begun, graph_modifyGraph]
    split
    · rfl
    · rfl
  refine hcalls.enter ⟨fun hx => ?_, fun hx => ?_, fun hx hclosed => ?_,
    fun j hj => (by cases hj), .nil,
    fun j hj => (by cases hj), fun hx id t ht hruntime hgraph' => ?_, fun hx => (by cases hx),
    fun hx => (by cases hx)⟩ fun {c' i n} hx hc' => ?_
  · cases hx
    exact Nat.lt_of_lt_of_le hg hframe.size
  · cases hx
    exact Nat.le_of_eq (by rw [hself])
  · cases hx
    rw [hself] at hclosed
    rw [hopen] at hclosed
    cases hclosed
  · cases hx
    obtain ⟨t₀, ht₀, hjob⟩ := hframe.elapses.old ht hruntime
    obtain ⟨m, plan, hkind⟩ := hruntime
    rw [Job.generation_eq hkind]
    rw [hjob] at hkind hgraph'
    have hle := (h.fits ht₀ hkind).le
    rw [hgraph'] at hle
    omega
  · cases hx
    have hle := (h.callers c').le hc'
    omega

/-- The first section of closing. -/
theorem Calls.beginClose (h : s.Calls φ) (hg : g < s.graphs.size) :
    ((s.shut g).takeAll g).Calls (Function.update φ c (.closing g)) := by
  have hshut : s.Frame (s.shut g) := .modifyGraph s g fun x =>
    ⟨rfl, Nat.le_succ _, fun _ => rfl, fun _ => Or.inr (Nat.lt_succ_self _), Or.inl rfl⟩
  have hgraph := graph_takeAll (s.shut g) g
  refine Calls.resume (h.frame (hshut.trans (.takeAll _ g)) fun {c' i n} _ => ?_)
    (callerFits_closing ?_) fun hx => by cases hx
  · rw [hgraph, shut, graph_modifyGraph]
    split
    · rfl
    · rfl
  · rw [hgraph, shut, graph_modifyGraph, if_pos ⟨rfl, hg⟩]

end

end Session

namespace Ledger

open Session

variable {L L' : Ledger}

theorem session_settle (L : Ledger) (g n : Nat) : (L.settle g n).session = L.session := by
  unfold settle
  split
  · rfl
  · rfl

theorem callers_settle (L : Ledger) (g n : Nat) : (L.settle g n).callers = L.callers := by
  unfold settle
  split
  · rfl
  · rfl

/-- The resources that still wait when an update is to prepare belong to kernels with a source. -/
def Cleared (L : Ledger) : Prop := ∀ (c g n : Nat), L.callers c = .waiting g n →
  (L.session.graph g).generation = n → ∀ {k r : Nat}, L.session.Owns g k r →
    (L.session.resource r).state = .compiling → L.session.Compiles g k

theorem Cleared.opened (hcleared : L.Cleared) (h : L.session.Calls L.callers) {c g n : Nat}
    {d : Dialect} {p : Prepared} {s' : Session} (hwaiting : L.callers c = .waiting g n)
    (hopen : (L.session.graph g).closed = false) (hn : (L.session.graph g).generation = n)
    (hp : prepareKernels g d ((L.session.resizeSets g).graph g).definition.compilable
      { session := L.session.resizeSets g } = (.ok p, s')) :
    Opened g L.session (p.session.setPending g (p.jobs.map Prod.fst))
      (preparedJobs g p (preparedPlan g p)) :=
  h.prepare hwaiting hopen (hcleared c g n hwaiting hn) hp

/-- The plan of an update bears its number. -/
theorem generation_preparedPlan {s : Session} {g n : Nat} {p : Prepared} {jobs : List Job}
    (hopened : Opened g s (p.session.setPending g (p.jobs.map Prod.fst)) jobs)
    (hn : (s.graph g).generation = n) : (preparedPlan g p).generation = n := by
  have hgraph := congrArg GraphState.generation hopened.graph
  have hset : ((p.session.setPending g (p.jobs.map Prod.fst)).graph g).generation =
      (p.session.graph g).generation := by
    show ((p.session.modifyGraph g _).graph g).generation = _
    rw [graph_modifyGraph]
    split
    · rfl
    · rfl
  exact hset.symm.trans (hgraph.trans hn)

/-- **Every section** keeps callers and jobs in order. -/
theorem calls_step (h : L.session.Calls L.callers) (hcleared : L.Cleared) (hstep : Step L L') :
    L'.session.Calls L'.callers := by
  cases hstep with
  | around haround => exact h.frame haround.frame fun hc => haround.edited _ _ _ hc
  | drop ht hruntime hdone hlanding hskip => exact h.frame (.endTask _ _) fun _ => rfl
  | abandon ht hruntime hdone hlanding hcancelled hresult =>
    refine h.frame (.trans (.modifyResource _ _ fun x => ?_) (.endTask _ _)) fun _ => rfl
    exact (Resource.Settles.abandon x _).toEases
  | deliver ht hkind hdone hlanding hawaits hresult =>
    exact h.frame (.modifyResource _ _ fun x => (Resource.Settles.finish x _ _ _).toEases)
      fun _ => rfl
  | @land id t n plan program r ht hkind hlanding =>
    have hland := h.steady (.land L.session t.job n plan program r) (.land ..)
    rw [session_settle, callers_settle]
    exact hland.frame (.endTask _ _) fun _ => rfl
  | @begin c g hidle hg haccepts => exact h.begin hg haccepts
  | @quit c g n hwaiting hquit => exact h.resume (callerFits_idle _) fun hx => by cases hx
  | @prepare c g n d p s' hwaiting hopen hn hp =>
    have hopened := hcleared.opened h hwaiting hopen hn hp
    have hcalls : (p.session.setPending g (p.jobs.map Prod.fst)).Calls L.callers :=
      h.elapses hopened.elapses hopened.holdings hopened.handing fun {c' i n'} _ => by
        by_cases hi : i = g
        · rw [hi, hopened.graph]
        · rw [hopened.other i hi]
    have hplan := generation_preparedPlan hopened hn
    have hfits := hcalls.callers c
    rw [hwaiting] at hfits
    refine hcalls.resume ⟨fun hx => ?_, fun hx => ?_, fun hx hclosed => ?_, fun j hj => ?_,
      hopened.apart, fun j hj id t ht hruntime hmark => ?_, fun hx => (by cases hx),
      fun hx => (by cases hx), fun hx => (by cases hx)⟩ fun hx => ?_
    · cases hx
      exact hfits.graph rfl
    · cases hx
      rw [hplan]
      exact hfits.le rfl
    · cases hx
      rw [hplan]
      exact hfits.lt rfl hclosed
    · have hserves := hopened.serves j hj
      rw [hn] at hserves
      refine ⟨g, n, ?_, hserves⟩
      rw [← hplan]
      rfl
    · -- the number of the update is new
      have hserves := hopened.serves j hj
      refine hfits.fresh rfl id t ht hruntime ?_ ?_
      · rw [← hserves.graph]
        exact congrArg HookMark.graph hmark
      · rw [← hn, ← hserves.generation]
        exact congrArg HookMark.generation hmark
    · cases hx
      rw [hwaiting, hplan]
      rfl
  | @report c g k plan failed jobs hcaller =>
    have hcalls := h.steady (.reportFailure L.session g k) (Posts.reportFailure ..).toSteady
    have hfits := hcalls.callers c
    rw [hcaller] at hfits
    exact hcalls.resume (hfits.submitting (Or.inl rfl)) fun hx => by rw [hcaller]; exact hx
  | enqueue hcaller => exact h.enqueue hcaller
  | @register c g plan jobs id j hcaller =>
    have hcalls := h.steady (.register L.session id j) (.register ..)
    have hfits := hcalls.callers c
    rw [hcaller] at hfits
    exact hcalls.resume (hfits.submitting (Or.inl rfl)) fun hx => by rw [hcaller]; exact hx
  | @inline c g plan jobs id j t hcaller hclosed ht hdone =>
    have hfits := h.callers c
    rw [hcaller] at hfits
    exact h.resume (hfits.submitting (Or.inl rfl)) fun hx => by rw [hcaller]; exact hx
  | @finish c g plan hcaller =>
    have hcalls := h.steady (.finishUpdate L.session g plan) (.finishUpdate ..)
    rw [enter, session_settle, callers_settle]
    exact hcalls.resume (callerFits_idle _) fun hx => by cases hx
  | beginClose hidle hg hopen => exact h.beginClose hg
  | @finishClose c g hcaller =>
    have hcalls : (L.session.finishClose g).Calls L.callers := by
      refine h.frame (.finishClose L.session g) fun {c' i n} _ => ?_
      rw [graph_finishClose]
      split
      · rfl
      · rfl
    dsimp only [enter]
    exact hcalls.resume (callerFits_idle _) fun hx => by cases hx

end Ledger

end KernelGraph
