/-
  Updates that are underway, and updates that are over.

      waiting ⟶ started ⟶ ⋯ ⟶ over
                   plans

  An update that has started has prepared its kernels, or has given up.  From then on it has as many
  jobs as it will ever have, in the hands of its caller or in tasks; when all of them have come back
  it is over.  Neither is ever undone.

  The plan of an update stays with its caller and goes with its jobs.  It is for the level of the
  graph.
-/
import KernelGraph.Proofs.Pending.Programs

namespace KernelGraph

/-- The kernel has an invocation in the plan. -/
def Plan.Has (plan : Plan) (k : Nat) : Prop := ∃ v ∈ plan.invocations, v.kernel = k

theorem Graph.has_plan {g : Graph} {generation : Nat} {level : FeatureLevel}
    {builds : List (Nat × KernelBuild)} {k : Nat} (hk : k ∈ g.compilable.map Prod.fst) :
    (g.plan generation level builds).Has k := by
  obtain ⟨x, hx, rfl⟩ := List.mem_map.1 hk
  exact ⟨_, List.mem_map_of_mem hx, rfl⟩

namespace Ledger


open Session

variable {L L' : Ledger} {c g n id : Nat} {plan : Plan} {j : Job}

/-! ## Callers -/

/-- How a caller goes on in one section. -/
inductive Next (s : Session) : Caller → Caller → Prop
  | stop (x : Caller) : Next s x .idle
  | begin (x : Caller) (g : Nat) : Next s x (.waiting g ((s.graph g).generation + 1))
  | close (x : Caller) (g : Nat) : Next s x (.closing g)
  | prepare {g : Nat} {plan : Plan} {failed : List Nat} {jobs : List Job}
    (hlevel : plan.level = (s.graph g).options.level)
    (hjobs : ∀ j ∈ jobs, j.graph = g ∧ j.kind = .runtime plan.generation plan ∧ plan.Has j.kernel) :
    Next s (.waiting g plan.generation) (.submitting g plan failed jobs none)
  | submit {g : Nat} {plan : Plan} {failed failed' : List Nat} {jobs jobs' : List Job}
    {untold untold' : Option (Nat × Job)} (hjobs : ∀ j ∈ jobs', j ∈ jobs) :
    Next s (.submitting g plan failed jobs untold) (.submitting g plan failed' jobs' untold')

theorem next_update {s : Session} {φ : Nat → Caller} {x : Caller} (hx : Next s (φ c) x) (c' : Nat) :
    Function.update φ c x c' = φ c' ∨ Next s (φ c') (Function.update φ c x c') := by
  by_cases hc : c' = c
  · rw [hc, Function.update_self]
    exact Or.inr hx
  · exact Or.inl (Function.update_of_ne hc ..)

/-- A caller prepares the kernels of its graph. -/
structure Prepares (s : Session) (g : Nat) (plan : Plan) (x x' : Caller) : Prop where
  waiting : x = .waiting g plan.generation
  submitting : ∃ failed jobs, x' = .submitting g plan failed jobs none
  level : plan.level = (s.graph g).options.level

theorem fields_setPending (s : Session) (g : Nat) (ps : List Nat) :
    ((s.setPending g ps).graph g).options = (s.graph g).options ∧
      ((s.setPending g ps).graph g).definition = (s.graph g).definition := by
  have hgraph : (s.setPending g ps).graph g = if g = g ∧ g < s.graphs.size then
      { s.graph g with pending := ps } else s.graph g := graph_modifyGraph ..
  rw [hgraph]
  split
  · exact ⟨rfl, rfl⟩
  · exact ⟨rfl, rfl⟩

/-- **A caller** stays where it is in a section, or goes on. -/
theorem Books.caller (h : L.Books) (hstep : Step L L') (c' : Nat) :
    L'.callers c' = L.callers c' ∨ Next L.session (L.callers c') (L'.callers c') := by
  cases hstep with
  | around _ => exact Or.inl rfl
  | drop _ _ _ _ _ => exact Or.inl rfl
  | abandon _ _ _ _ _ _ => exact Or.inl rfl
  | deliver _ _ _ _ _ _ => exact Or.inl rfl
  | land _ _ _ =>
    rw [callers_settle]
    exact Or.inl rfl
  | begin _ _ _ => exact next_update (.begin _ _) c'
  | quit _ _ => exact next_update (.stop _) c'
  | @prepare c i n d p s' hwaiting hopen hn hp =>
    have hi : i < L.session.graphs.size := (h.calls.callers c).graph (by rw [hwaiting]; rfl)
    obtain ⟨hoverhauls, hplan, hjobs⟩ := jobFits_preparedJobs h.calls.holdings hi hopen hp
    obtain ⟨sets, pending, locked, hgraph⟩ := hoverhauls.graph
    obtain ⟨hoptions, hdefinition⟩ := fields_setPending p.session i (p.jobs.map Prod.fst)
    have hopened := h.awaited.cleared.opened h.calls hwaiting hopen hn hp
    rw [hgraph] at hoptions
    refine next_update ?_ c'
    rw [hwaiting, ← hn, ← hplan]
    refine .prepare (congrArg GraphOptions.level hoptions).symm fun j hj => ?_
    obtain ⟨hjob, hkind, -⟩ := hjobs j hj
    refine ⟨hjob, by rw [hplan]; exact hkind, Graph.has_plan ?_⟩
    rw [← hdefinition]
    exact (hopened.serves j hj).compiles
  | @report c i k' plan failed jobs hcaller =>
    refine next_update ?_ c'
    rw [hcaller]
    exact .submit fun _ hj => hj
  | @enqueue c i plan j jobs hcaller =>
    refine next_update ?_ c'
    rw [hcaller]
    exact .submit fun _ hj => List.mem_cons_of_mem _ hj
  | @register c i plan jobs id j hcaller =>
    refine next_update ?_ c'
    rw [hcaller]
    exact .submit fun _ hj => hj
  | @inline c i plan jobs id j t hcaller hclosed ht hdone =>
    refine next_update ?_ c'
    rw [hcaller]
    exact .submit fun _ hj => hj
  | finish _ =>
    rw [enter, callers_settle]
    exact next_update (.stop _) c'
  | beginClose _ _ _ => exact next_update (.close _ _) c'
  | finishClose _ => exact next_update (.stop _) c'

namespace Next

variable {s : Session} {x x' : Caller}

theorem waiting (h : Next s x x') (hx : x' = .waiting g n) : n = (s.graph g).generation + 1 := by
  cases h with
  | begin x i =>
    cases hx
    rfl
  | stop | close | prepare | submit => cases hx

/-- The plan of a caller that submits jobs was its plan before, or it has waited for its update. -/
theorem submitting {failed : List Nat} {jobs : List Job} {untold : Option (Nat × Job)}
    (h : Next s x x') (hx : x' = .submitting g plan failed jobs untold) :
    (∃ failed jobs untold, x = .submitting g plan failed jobs untold) ∨
      Prepares s g plan x x' := by
  cases h with
  | stop | begin | close => cases hx
  | prepare hlevel _ =>
    cases hx
    exact Or.inr ⟨rfl, ⟨_, _, rfl⟩, hlevel⟩
  | submit _ =>
    cases hx
    exact Or.inl ⟨_, _, _, rfl⟩

/-- A job that a caller has to submit is one that it had, or it has prepared it. -/
theorem jobs (h : Next s x x') (hj : j ∈ x'.jobs) : j ∈ x.jobs ∨ ∃ plan : Plan,
    Prepares s j.graph plan x x' ∧ j.kind = .runtime plan.generation plan ∧ plan.Has j.kernel := by
  cases h with
  | stop | begin | close => cases hj
  | prepare hlevel hjobs =>
    obtain ⟨rfl, hkind, hhas⟩ := hjobs j hj
    exact Or.inr ⟨_, ⟨rfl, ⟨_, _, rfl⟩, hlevel⟩, hkind, hhas⟩
  | submit hjobs => exact Or.inl (hjobs j hj)

end Next

/-! ## Tasks -/

/-- The task was there, and what is not over was not over. -/
def Lasts (s : Session) (id : Nat) (t' : CompileTask) : Prop :=
  ∃ t, s.tasks[id]? = some t ∧ t'.job = t.job ∧ (t'.done = false → t.done = false)

theorem lasts_of_eq {s s' : Session} {t' : CompileTask} (h : s'.tasks = s.tasks)
    (ht' : s'.tasks[id]? = some t') : Lasts s id t' := by
  rw [h] at ht'
  exact ⟨t', ht', rfl, fun hnot => hnot⟩

theorem lasts_endTask {s : Session} {i : Nat} {t' : CompileTask}
    (ht' : (s.endTask i).tasks[id]? = some t') (hruntime : t'.job.IsRuntime) : Lasts s id t' := by
  obtain ⟨t, ht, -⟩ := (Frame.endTask s i).elapses.old ht' hruntime
  obtain ⟨hjob, hsame, hdone⟩ := task_endTask ht ht'
  refine ⟨t, ht, hjob, fun hnot => ?_⟩
  by_cases hi : id = i
  · rw [hdone hi] at hnot
    cases hnot
  · rw [← hsame hi]
    exact hnot

theorem lasts_takeAll {s : Session} {i : Nat} {t' : CompileTask}
    (ht' : (s.takeAll i).tasks[id]? = some t') (hruntime : t'.job.IsRuntime) : Lasts s id t' := by
  obtain ⟨t, ht, hjob⟩ := (Frame.takeAll s i).elapses.old ht' hruntime
  exact ⟨t, ht, hjob, fun hnot => (done_foldl_takeTask _ s ht ht').symm.trans hnot⟩

/-- The task of an update was there, or is that of a job that a caller had to submit. -/
theorem Books.task (h : L.Books) (hstep : Step L L') {t' : CompileTask}
    (ht' : L'.session.tasks[id]? = some t') (hruntime : t'.job.IsRuntime) :
    Lasts L.session id t' ∨ ∃ c, t'.job ∈ (L.callers c).jobs := by
  cases hstep with
  | around haround =>
    obtain ⟨t, ht, hjob⟩ := haround.frame.elapses.old ht' hruntime
    obtain ⟨t'', ht'', hdone, -⟩ := haround.same id t ht (by rw [← hjob]; exact hruntime)
    rw [ht'] at ht''
    cases ht''
    exact Or.inl ⟨t, ht, hjob, fun hnot => hdone.symm.trans hnot⟩
  | drop _ _ _ _ _ => exact Or.inl (lasts_endTask ht' hruntime)
  | abandon _ _ _ _ _ _ => exact Or.inl (lasts_endTask ht' hruntime)
  | deliver _ _ _ _ _ _ => exact Or.inl (lasts_of_eq rfl ht')
  | @land i u n plan program r _ _ _ =>
    rw [session_settle] at ht'
    obtain ⟨t, ht, hkept⟩ := lasts_endTask ht' hruntime
    have htasks : (L.session.land u.job n plan program r).tasks = L.session.tasks := by
      rw [(Posts.land L.session u.job n plan program r).tasks]
      split
      · rfl
      · rfl
    rw [htasks] at ht
    exact Or.inl ⟨t, ht, hkept⟩
  | @begin c i _ _ _ => exact Or.inl (lasts_takeAll (s := L.session.begun i) ht' hruntime)
  | quit _ _ => exact Or.inl (lasts_of_eq rfl ht')
  | @prepare c i n d p s' hwaiting hopen hn hp =>
    have hopened := h.awaited.cleared.opened h.calls hwaiting hopen hn hp
    exact Or.inl (lasts_of_eq hopened.tasks ht')
  | @report c i k plan failed jobs hcaller =>
    exact Or.inl (lasts_of_eq (Posts.reportFailure L.session i k).tasks ht')
  | @enqueue c i plan j jobs hcaller =>
    rcases task_enqueue ht' with ht | ⟨-, rfl⟩
    · exact Or.inl ⟨t', ht, rfl, fun hnot => hnot⟩
    · refine Or.inr ⟨c, ?_⟩
      rw [hcaller]
      exact List.mem_cons_self ..
  | @register c i plan jobs i' j hcaller =>
    obtain ⟨t, ht, hjob⟩ := (Frame.register L.session i' j).elapses.old ht' hruntime
    exact Or.inl ⟨t, ht, hjob, fun hnot => (done_register ht ht').symm.trans hnot⟩
  | inline _ _ _ _ => exact Or.inl (lasts_of_eq rfl ht')
  | @finish c i plan hcaller =>
    rw [enter, session_settle] at ht'
    exact Or.inl (lasts_of_eq (Posts.finishUpdate L.session i plan).tasks ht')
  | @beginClose c i _ _ _ => exact Or.inl (lasts_takeAll (s := L.session.shut i) ht' hruntime)
  | @finishClose c i hcaller =>
    exact Or.inl (lasts_of_eq (gauge_finishClose L.session i).1 ht')

/-! ## Started -/

/-- The update of the graph with the number has prepared its kernels, or has given up. -/
structure Started (L : Ledger) (g n : Nat) : Prop where
  size : g < L.session.graphs.size
  le : n ≤ (L.session.graph g).generation
  lt : (L.session.graph g).closed = true → n < (L.session.graph g).generation
  waiting : ∀ c, L.callers c ≠ .waiting g n

theorem Started.step (hs : L.Started g n) (h : L.Books) (hstep : Step L L') : L'.Started g n := by
  have hendures := h.endures hstep
  refine ⟨Nat.lt_of_lt_of_le hs.size hendures.size, Nat.le_trans hs.le (hendures.generation g),
    fun hclosed => ?_, fun c hc => ?_⟩
  · rcases hendures.opened g hclosed with hc | hlt
    · exact Nat.lt_of_lt_of_le (hs.lt hc) (hendures.generation g)
    · exact Nat.lt_of_le_of_lt hs.le hlt
  · rcases h.caller hstep c with heq | hnext
    · exact hs.waiting c (heq.symm.trans hc)
    · have hnew := hnext.waiting hc
      have hle := hs.le
      omega

/-- While the latest update has started, nobody is about to replace what is outstanding. -/
theorem Started.settled (hs : L.Started g n) (h : L.Books)
    (hn : n = (L.session.graph g).generation) : L.Settled g := by
  refine fun c => ⟨fun hc => ?_, fun hc => ?_⟩
  · rw [← hn] at hc
    exact hs.waiting c hc
  · have hlt := hs.lt ((h.calls.callers c).closing hc)
    omega

/-- An update that has started and is the latest was so before. -/
theorem Started.latest (hs : L.Started g n) (h : L.Books) (hstep : Step L L')
    (hn : n = (L'.session.graph g).generation) : n = (L.session.graph g).generation :=
  Nat.le_antisymm hs.le (hn ▸ (h.endures hstep).generation g)

/-- A caller that does not wait any more has started. -/
theorem Books.started_of_update (h : L.Books) (hupdate : (L.callers c).update? = some (g, n))
    (hne : L.callers c ≠ .waiting g n) : L.Started g n := by
  have hfits := h.calls.callers c
  refine ⟨hfits.graph hupdate, hfits.le hupdate, hfits.lt hupdate, fun c' hc' => hne ?_⟩
  rw [h.calls.apart hupdate (show (L.callers c').update? = some (g, n) by rw [hc']; rfl)]
  exact hc'

/-- An update that has a task has started. -/
theorem Books.started_of_task (h : L.Books) {t : CompileTask}
    (ht : L.session.tasks[id]? = some t) (hkind : t.job.kind = .runtime n plan) :
    L.Started t.job.graph n := by
  have hfits := h.calls.fits ht hkind
  refine ⟨hfits.graph, hfits.le, hfits.lt, fun c hc => ?_⟩
  exact (h.calls.callers c).fresh hc id t ht ⟨n, plan, hkind⟩ rfl (Job.generation_eq hkind)

/-! ## Over -/

/-- All jobs of the update have come back. -/
structure Over (L : Ledger) (g n : Nat) : Prop extends Started L g n where
  jobs : ∀ j : Job, L.Outstanding j → j.graph = g → j.generation ≠ n

theorem Over.step (hs : L.Over g n) (h : L.Books) (hstep : Step L L') : L'.Over g n := by
  refine ⟨hs.toStarted.step h hstep, fun j ⟨hruntime, hj⟩ hgraph hn => ?_⟩
  have hold : ∀ c, j ∉ (L.callers c).jobs := fun c hj =>
    hs.jobs j ⟨hruntime, Or.inl ⟨c, hj⟩⟩ hgraph hn
  rcases hj with ⟨c, hj⟩ | ⟨id, t', ht', rfl, hdone⟩
  · rcases h.caller hstep c with heq | hnext
    · rw [heq] at hj
      exact hold c hj
    · rcases hnext.jobs hj with hj | ⟨plan, hprepares, hkind, -⟩
      · exact hold c hj
      · have hwaiting := hprepares.waiting
        rw [← Job.generation_eq hkind, hgraph, hn] at hwaiting
        exact hs.waiting c hwaiting
  · rcases h.task hstep ht' hruntime with ⟨t, ht, hjob, hnot⟩ | ⟨c, hj⟩
    · exact hs.jobs t'.job ⟨hruntime, Or.inr ⟨id, t, ht, hjob.symm, hnot hdone⟩⟩ hgraph hn
    · exact hold c hj

/-- **The latest update is over** when nothing is outstanding. -/
theorem Books.isOver (h : L.Books) (hs : L.Started g n) (hn : n = (L.session.graph g).generation)
    (hpending : (L.session.graph g).pending = []) : L.Over g n := by
  refine ⟨hs, fun j hj hgraph hgeneration => ?_⟩
  have hk := ((h.tally g (hs.settled h hn)).pending j.kernel).2
    ⟨j, ⟨hj, hgraph, hgeneration.trans hn⟩, rfl⟩
  rw [hpending] at hk
  cases hk

/-! ## Plans -/

/-- A caller has still to submit the job, or it has a task. -/
def Holds (L : Ledger) (j : Job) : Prop := (∃ c, j ∈ (L.callers c).jobs) ∨
  ∃ (id : Nat) (t : CompileTask), L.session.tasks[id]? = some t ∧ t.job = j

/-- The plan of an update that has still jobs to submit, or of one of its jobs. -/
inductive Plans (L : Ledger) (g : Nat) (plan : Plan) : Prop
  | caller {c : Nat} {failed : List Nat} {jobs : List Job} {untold : Option (Nat × Job)}
    (h : L.callers c = .submitting g plan failed jobs untold)
  | job {n : Nat} {j : Job} (hj : L.Holds j) (hgraph : j.graph = g)
    (hkind : j.kind = .runtime n plan)

theorem Books.started (h : L.Books) (hp : L.Plans g plan) : L.Started g plan.generation := by
  rcases hp with @⟨c, failed, jobs, untold, hc⟩ | @⟨n, j, ⟨c, hj⟩ | ⟨id, t, ht, rfl⟩, rfl, hkind⟩
  · refine h.started_of_update (c := c) (by rw [hc]; rfl) ?_
    rw [hc]
    exact fun hne => by cases hne
  · obtain ⟨i, m, hupdate, hserves⟩ := (h.calls.callers c).jobs j hj
    obtain ⟨plan', hkind', hfits⟩ := hserves.job
    rw [hkind'] at hkind
    cases hkind
    rw [hfits.plan, hserves.graph]
    refine h.started_of_update hupdate fun hwaiting => ?_
    rw [hwaiting] at hj
    cases hj
  · rw [(h.calls.fits ht hkind).plan]
    exact h.started_of_task ht hkind

/-- A job is an old one, or has just been prepared. -/
theorem Books.holds (h : L.Books) (hstep : Step L L') (hj : L'.Holds j) (hruntime : j.IsRuntime) :
    L.Holds j ∨ ∃ (c : Nat) (plan : Plan),
      Prepares L.session j.graph plan (L.callers c) (L'.callers c) ∧
        j.kind = .runtime plan.generation plan ∧ plan.Has j.kernel := by
  rcases hj with ⟨c, hj⟩ | ⟨id, t', ht', rfl⟩
  · rcases h.caller hstep c with heq | hnext
    · rw [heq] at hj
      exact Or.inl (Or.inl ⟨c, hj⟩)
    · rcases hnext.jobs hj with hj | ⟨plan, hprepares⟩
      · exact Or.inl (Or.inl ⟨c, hj⟩)
      · exact Or.inr ⟨c, plan, hprepares⟩
  · rcases h.task hstep ht' hruntime with ⟨t, ht, hjob, -⟩ | ⟨c, hj⟩
    · exact Or.inl (Or.inr ⟨id, t, ht, hjob.symm⟩)
    · exact Or.inl (Or.inl ⟨c, hj⟩)

/-- **A plan** is an old one, or has just been made. -/
theorem Books.plans (h : L.Books) (hstep : Step L L') (hp : L'.Plans g plan) : L.Plans g plan ∨
    ∃ c, Prepares L.session g plan (L.callers c) (L'.callers c) := by
  rcases hp with @⟨c, failed, jobs, untold, hc⟩ | @⟨n, j, hj, rfl, hkind⟩
  · rcases h.caller hstep c with heq | hnext
    · exact Or.inl (.caller (heq.symm.trans hc))
    · rcases hnext.submitting hc with ⟨_, _, _, hold⟩ | hprepares
      · exact Or.inl (.caller hold)
      · exact Or.inr ⟨c, hprepares⟩
  · rcases h.holds hstep hj ⟨n, plan, hkind⟩ with hold | ⟨c, plan', hprepares, hkind', -⟩
    · exact Or.inl (.job hold rfl hkind)
    · rw [hkind'] at hkind
      cases hkind
      exact Or.inr ⟨c, hprepares⟩

/-- A plan of an update that has started is an old one. -/
theorem Started.plans (hs : L.Started g n) (h : L.Books) (hstep : Step L L') (hp : L'.Plans g plan)
    (hn : plan.generation = n) : L.Plans g plan := by
  refine (h.plans hstep hp).resolve_right fun ⟨c, hprepares⟩ => hs.waiting c ?_
  rw [hprepares.waiting, hn]

/-- An update has one plan.  It is for the level of the graph, and has the kernels of its jobs. -/
structure Planned (L : Ledger) : Prop where
  level : ∀ {g plan}, L.Plans g plan → plan.level = (L.session.graph g).options.level
  unique : ∀ {g plan plan'}, L.Plans g plan → L.Plans g plan' →
    plan.generation = plan'.generation → plan = plan'
  has : ∀ {j n plan}, L.Holds j → j.kind = .runtime n plan → plan.Has j.kernel

theorem Planned.step (hp : L.Planned) (h : L.Books) (hstep : Step L L') : L'.Planned := by
  refine ⟨fun {g plan} hplan => ?_, fun {g plan plan'} hplan hplan' hn => ?_,
    fun {j n plan} hj hkind => ?_⟩
  · have hold : g < L.session.graphs.size ∧ plan.level = (L.session.graph g).options.level := by
      rcases h.plans hstep hplan with hold | ⟨c, hprepares⟩
      · exact ⟨(h.started hold).size, hp.level hold⟩
      · refine ⟨(h.calls.callers c).graph (n := plan.generation) ?_, hprepares.level⟩
        rw [hprepares.waiting]
        rfl
    rw [(h.endures hstep).options g hold.1]
    exact hold.2
  · rcases h.plans hstep hplan with hold | ⟨c, hprepares⟩
    · exact hp.unique hold ((h.started hold).plans h hstep hplan' hn.symm) hn
    · rcases h.plans hstep hplan' with hold | ⟨c', hprepares'⟩
      · exact hp.unique ((h.started hold).plans h hstep hplan hn) hold hn
      · -- both have been made just now, and so by one caller
        have hc : c = c' := h.calls.apart (g := g) (n := plan.generation)
          (by rw [hprepares.waiting]; rfl) (by rw [hprepares'.waiting, hn]; rfl)
        obtain ⟨_, _, heq⟩ := hprepares.submitting
        obtain ⟨_, _, heq'⟩ := hprepares'.submitting
        rw [← hc, heq] at heq'
        cases heq'
        rfl
  · rcases h.holds hstep hj ⟨n, plan, hkind⟩ with hold | ⟨c, plan', -, hkind', hhas⟩
    · exact hp.has hold hkind
    · rw [hkind'] at hkind
      cases hkind
      exact hhas

end Ledger

end KernelGraph
