/-
  Proxies show what was compiled.

  A proxy takes the programs that the kernels' resources hold when it is published, and keeps them.
  By then all jobs of its update have come back, so that no resource gets another program before the
  next update begins.

  1. `Exhibits`: what it means that a proxy shows a plan.  Only the latest update publishes, with
     its last job or, if it has none, at its end.

  2. `Displays`: while no later update begins, a proxy shows what the resources of its graph hold.

  3. `Achieved`: a program that a job of an update has brought is still there when the proxy of the
     update is published.

  One looks programs up by level.  An editor finds nothing at a level that is not defined, and so
  its proxies show no programs then, whatever was compiled.
-/
import KernelGraph.Proofs.LevelSwitches
import KernelGraph.Proofs.Pending.Balance
import KernelGraph.Proofs.Pending.Underway
import KernelGraph.Proofs.Workshop.Proxies

namespace KernelGraph

namespace Session

/-- The proxy was there, and may have been released. -/
def Had (s : Session) (x : RenderProxy) : Prop :=
  ∃ y ∈ s.proxies, x = { y with released := x.released }

/-- The proxy shows the programs of a plan, with nothing outstanding. -/
structure Exhibits (s : Session) (g : Nat) (plan : Plan) (x : RenderProxy) : Prop where
  graph : x.graph = g
  generation : x.generation = plan.generation
  pending : (s.graph g).pending = []
  invocations : x.invocations = (s.planProxy g plan).invocations

section
variable {s s' : Session} {g k r : Nat} {plan : Plan} {x : RenderProxy}

/-! ## Publishing -/

theorem had_of_eq (h : s'.proxies = s.proxies) (hx : x ∈ s'.proxies) : s.Had x := by
  rw [h] at hx
  exact ⟨x, hx, rfl⟩

theorem had_releaseProxy {proxy : Option Nat} (hx : x ∈ (s.releaseProxy g proxy).proxies) :
    s.Had x := by
  unfold Session.releaseProxy at hx
  split at hx
  · exact had_of_eq rfl hx
  · split at hx
    · exact had_of_eq rfl hx
    · obtain ⟨i, hi⟩ := Array.mem_iff_getElem?.1 hx
      dsimp only at hi
      rw [Array.getElem?_modify] at hi
      split at hi
      · obtain ⟨y, hy, rfl⟩ := Option.map_eq_some_iff.1 hi
        exact ⟨y, Array.mem_of_getElem? hy, rfl⟩
      · exact ⟨x, Array.mem_of_getElem? hi, rfl⟩

theorem had_around (h : s.Around s') (hx : x ∈ s'.proxies) : s.Had x := by
  have hmem : { x with released := true } ∈
      s.proxies.toList.map fun y => { y with released := true } := by
    rw [← h.proxies]
    exact List.mem_map_of_mem (Array.mem_toList_iff.2 hx)
  obtain ⟨y, hy, heq⟩ := List.mem_map.1 hmem
  refine ⟨y, Array.mem_toList_iff.1 hy, ?_⟩
  cases x
  cases y
  cases heq
  rfl

theorem had_finishClose (hx : x ∈ (s.finishClose g).proxies) : s.Had x := by
  have hempty : ∀ (s : Session) (cook : List Nat), x ∈ (s.emptyGraph g cook).proxies → s.Had x := by
    intro s cook hx
    unfold emptyGraph at hx
    extract_lets settled announced proxy emptied at hx
    obtain ⟨y, hy, heq⟩ := had_releaseProxy hx
    exact ⟨y, hy, heq⟩
  unfold finishClose at hx
  obtain ⟨y, hy, heq⟩ := hempty _ _ hx
  rw [foldl_invalidate] at hy
  exact ⟨y, hy, heq⟩

theorem Exhibits.of_eq (h : s.Exhibits g plan x) (hgraphs : s'.graphs = s.graphs)
    (hresources : s'.resources = s.resources) : s'.Exhibits g plan x := by
  have hgraph : s'.graph g = s.graph g := by rw [Session.graph, Session.graph, hgraphs]
  refine ⟨h.graph, h.generation, by rw [hgraph]; exact h.pending, h.invocations.trans ?_⟩
  refine List.map_congr_left fun v _ => ?_
  rw [currentProgram_congr (by rw [hgraph]) hresources]

theorem Exhibits.has (h : s.Exhibits g plan x) (hk : plan.Has k) :
    ∃ v ∈ x.invocations, v.kernel = k := by
  obtain ⟨v, hv, hkernel⟩ := hk
  rw [h.invocations]
  exact ⟨_, List.mem_map_of_mem hv, hkernel⟩

/-- A graph that publishes a plan with nothing outstanding has the old proxies and the new one. -/
theorem had_or_exhibits_publish (hg : g < s.graphs.size) (hpending : (s.graph g).pending = [])
    (hx : x ∈ (s.publish g plan).proxies) : s.Had x ∨ (s.publish g plan).Exhibits g plan x := by
  rcases Nat.lt_or_ge (s.graph g).published plan.generation with hlt | hle
  · obtain ⟨y, hy⟩ := presents_publish hg hlt
    rcases hy.others x hx with rfl | hold
    · refine Or.inr ⟨hy.graph, hy.generation, ?_, hy.invocations⟩
      rw [(Posts.publish s g plan).pending]
      exact hpending
    · exact Or.inl hold
  · rw [publish_of_le hle] at hx
    exact Or.inl (had_of_eq rfl hx)

theorem had_or_exhibits_settle (hg : g < s.graphs.size) (hx : x ∈ (s.settle g plan).proxies) :
    s.Had x ∨ (s.settle g plan).Exhibits g plan x := by
  unfold Session.settle at hx ⊢
  split
  · rename_i hempty
    rw [if_pos hempty] at hx
    exact had_or_exhibits_publish hg (List.isEmpty_iff.1 hempty) hx
  · rename_i hempty
    rw [if_neg hempty] at hx
    exact Or.inl (had_of_eq rfl hx)

/-- The end of an update publishes its plan if it is the latest. -/
theorem had_or_exhibits_finishUpdate (hg : g < s.graphs.size)
    (hx : x ∈ (s.finishUpdate g plan).proxies) : s.Had x ∨
      (s.graph g).generation = plan.generation ∧ (s.finishUpdate g plan).Exhibits g plan x := by
  unfold finishUpdate at hx ⊢
  split
  · rename_i hlast
    rw [if_pos hlast] at hx
    obtain ⟨hempty, hgeneration⟩ := Bool.and_eq_true_iff.1 hlast
    exact (had_or_exhibits_publish hg (List.isEmpty_iff.1 hempty) hx).imp_right
      fun h => ⟨of_decide_eq_true hgeneration, h⟩
  · rename_i hlast
    rw [if_neg hlast] at hx
    exact Or.inl (had_of_eq rfl hx)

/-- A job that comes back publishes the plan of its update if that is the latest. -/
theorem had_or_exhibits_land {j : Job} {n : Nat} {program : Option Program} {result : CompileResult}
    (hg : j.graph < s.graphs.size) (hx : x ∈ (s.land j n plan program result).proxies) :
    s.Had x ∨ n = (s.graph j.graph).generation ∧
      (s.land j n plan program result).Exhibits j.graph plan x := by
  obtain ⟨log, fatals, hooks, heq⟩ := land_eq s j n plan program result
  rw [heq] at hx ⊢
  by_cases hn : n = (s.graph j.graph).generation
  · simp only [if_pos hn] at hx ⊢
    have hsize : j.graph < (s.strike j).graphs.size := Nat.lt_of_lt_of_le hg (Frame.strike s j).size
    exact (had_or_exhibits_settle hsize hx).imp_right fun h => ⟨hn, h.of_eq rfl rfl⟩
  · simp only [if_neg hn] at hx ⊢
    exact Or.inl (had_of_eq rfl hx)

/-- **A proxy shows** for each kernel what is seen of the program of its resource. -/
theorem Exhibits.program (h : s.Exhibits g plan x) (hs : s.Holdings) (hhanding : s.Handing)
    (hlevel : plan.level = (s.graph g).options.level) {v : Invocation} (hv : v ∈ x.invocations)
    (ho : s.Owns g v.kernel r) : v.program = s.seen g (s.resource r).program := by
  rw [h.invocations] at hv
  obtain ⟨w, -, rfl⟩ := List.mem_map.1 hv
  dsimp only at ho ⊢
  rw [hlevel, currentProgram_eq, hs.foundProgram_eq, slotProgram, hhanding.owned?_eq ho]
  rfl

end

end Session

namespace Ledger

open Session

variable {L L' : Ledger} {g k n r : Nat} {x : RenderProxy} {p : Program}

/-- **A section** leaves the proxies, or publishes the plan of the latest update. -/
theorem Books.proxies (h : L.Books) (hstep : Step L L') (hx : x ∈ L'.session.proxies) :
    L.session.Had x ∨ ∃ plan, L.Plans x.graph plan ∧
      plan.generation = (L'.session.graph x.graph).generation ∧
      L'.session.Exhibits x.graph plan x := by
  cases hstep with
  | around haround => exact Or.inl (had_around haround.toAround hx)
  | drop _ _ _ _ _ => exact Or.inl (had_of_eq rfl hx)
  | abandon _ _ _ _ _ _ => exact Or.inl (had_of_eq rfl hx)
  | deliver _ _ _ _ _ _ => exact Or.inl (had_of_eq rfl hx)
  | @land id t n plan program result ht hkind hlanding =>
    rw [session_settle] at hx ⊢
    rcases had_or_exhibits_land (h.calls.fits ht hkind).graph hx with hold | ⟨hn, hshows⟩
    · exact Or.inl hold
    · have hplan : L.Plans t.job.graph plan := .job (Or.inr ⟨id, t, ht, rfl⟩) rfl hkind
      have hgeneration := ((Steady.land L.session t.job n plan program result).graph
        t.job.graph).generation
      rw [hshows.graph]
      exact Or.inr ⟨plan, hplan, ((h.calls.fits ht hkind).plan.trans hn).trans hgeneration.symm,
        hshows.graph, hshows.generation, hshows.pending, hshows.invocations⟩
  | @begin c i _ _ _ => exact Or.inl (had_of_eq (Shelves.begun L.session i).proxies hx)
  | quit _ _ => exact Or.inl (had_of_eq rfl hx)
  | @prepare c i n d q s' hwaiting hopen hn hp =>
    have hi : i < L.session.graphs.size := (h.calls.callers c).graph (by rw [hwaiting]; rfl)
    obtain ⟨hoverhauls, -, -⟩ := jobFits_preparedJobs h.calls.holdings hi hopen hp
    exact Or.inl (had_of_eq hoverhauls.proxies hx)
  | @report c i k plan failed jobs hcaller =>
    exact Or.inl (had_of_eq (Shelves.reportFailure L.session i k).proxies hx)
  | enqueue _ => exact Or.inl (had_of_eq rfl hx)
  | @register c i plan jobs id j hcaller =>
    exact Or.inl (had_of_eq (Shelves.register L.session id j).proxies hx)
  | inline _ _ _ _ => exact Or.inl (had_of_eq rfl hx)
  | @finish c i plan hcaller =>
    rw [enter, session_settle] at hx ⊢
    have hplan : L.Plans i plan := .caller hcaller
    rcases had_or_exhibits_finishUpdate (h.started hplan).size hx with hold | ⟨hn, hshows⟩
    · exact Or.inl hold
    · rw [hshows.graph]
      exact Or.inr ⟨plan, hplan, hn.symm.trans
        ((Steady.finishUpdate L.session i plan).graph i).generation.symm, hshows⟩
  | @beginClose c i _ _ _ =>
    exact Or.inl (had_of_eq (Shelves.foldl_takeTask _ (L.session.shut i)).proxies hx)
  | @finishClose c i hcaller => exact Or.inl (had_finishClose (s := L.session) (g := i) hx)

/-- No resource gets a program after the latest update of its graph is over. -/
theorem Over.not_delivers (ho : L.Over g n) (h : L.Books) (hn : n = (L.session.graph g).generation)
    (howns : L.session.Owns g k r) : ¬ L.Delivers L' r := by
  rintro ⟨⟨id, t, ht, hruntime, rfl, hdone, hnumber, hstate⟩, -⟩
  have hmark := mark_of_task h.calls ht hruntime howns
  have hbegun := (h.tally g (ho.settled h hn)).begun howns hstate
  refine ho.jobs t.job ⟨hruntime, Or.inr ⟨id, t, ht, rfl, hdone⟩⟩ (congrArg HookMark.graph hmark) ?_
  rw [hn, ← hbegun, hnumber]

/-! ## Proxies and resources -/

/-- Proxies agree with the resources of their graphs, while these have no later update. -/
structure Displays (L : Ledger) : Prop where
  planned : L.Planned
  filled : ∀ {g k r : Nat}, L.session.Owns g k r → (L.session.resource r).state = .compiled →
    (L.session.resource r).program.isSome
  past : ∀ x ∈ L.session.proxies, L.Over x.graph x.generation
  shown : ∀ x ∈ L.session.proxies, x.generation = (L.session.graph x.graph).generation →
    ∀ v ∈ x.invocations, ∀ r, L.session.Owns x.graph v.kernel r →
      v.program = L.session.seen x.graph (L.session.resource r).program

/-- The same can be seen of programs as before. -/
theorem seen_step (h : L.Books) (hstep : Step L L') (hg : g < L.session.graphs.size) :
    L'.session.seen g = L.session.seen g := by
  funext program
  rw [seen, seen, (h.endures hstep).options g hg]

/-- **Every section** leaves proxies in agreement. -/
theorem Displays.step (hd : L.Displays) (h : L.Books) (hstep : Step L L') : L'.Displays := by
  have hbooks := h.step hstep
  refine ⟨hd.planned.step h hstep, fun {g k r} howns hstate => ?_, fun x hx => ?_,
    fun x hx hn v hv r howns => ?_⟩
  · have hold := h.owns hstep howns hstate
    rcases h.preserves hstep hold with hdelivers | ⟨⟨hprogram, hcompiled⟩, -⟩
    · exact hdelivers.program
    · rw [hprogram]
      exact hd.filled hold (hcompiled hstate)
  · rcases h.proxies hstep hx with ⟨y, hy, heq⟩ | ⟨plan, hplan, hn, hshows⟩
    · rw [heq]
      exact (hd.past y hy).step h hstep
    · rw [hshows.generation]
      exact hbooks.isOver ((h.started hplan).step h hstep) hn hshows.pending
  · rcases h.proxies hstep hx with ⟨y, hy, heq⟩ | ⟨plan, hplan, -, hshows⟩
    · rw [heq] at hn hv howns ⊢
      dsimp only at hn hv howns ⊢
      -- no later update has begun, so that the graph has the same resources, with their programs
      have hover := hd.past y hy
      have hnumber := hover.latest h hstep hn
      have hold : L.session.Owns y.graph v.kernel r := by
        rw [Owns, h.sets hstep (hover.settled h hnumber)] at howns
        exact howns
      rcases h.preserves hstep hold with hdelivers | ⟨⟨hprogram, -⟩, -⟩
      · exact absurd hdelivers (hover.not_delivers h hnumber hold)
      · rw [hprogram, seen_step h hstep hover.size]
        exact hd.shown y hy hnumber v hv r hold
    · -- the plan that is published is one that jobs still know
      have hsize := (h.started hplan).size
      have hlevel := hd.planned.level hplan
      rw [← (h.endures hstep).options x.graph hsize] at hlevel
      exact hshows.program hbooks.calls.holdings hbooks.calls.handing hlevel hv howns

theorem displays_start (files : FileStore) (scripts : List Script) (limit : Int) :
    Displays { session := { files, scripts, cache := .empty limit } } where
  planned := by
    have hholds : ∀ j, ¬ Holds { session := { files, scripts, cache := .empty limit } } j := by
      rintro j (⟨c, hj⟩ | ⟨id, t, ht, -⟩)
      · cases hj
      · cases ht
    have hplans : ∀ g plan,
        ¬ Plans { session := { files, scripts, cache := .empty limit } } g plan := by
      rintro g plan (hc | ⟨hj, -, -⟩)
      · cases hc
      · exact hholds _ hj
    exact ⟨fun h => absurd h (hplans _ _), fun h => absurd h (hplans _ _),
      fun h => absurd h (hholds _)⟩
  filled := fun ⟨_, hset, _⟩ => by cases hset
  past x hx := by simp at hx
  shown x hx := by simp at hx

theorem Reachable.displays (h : L.Reachable) : L.Displays := by
  obtain ⟨files, scripts, limit, hsteps⟩ := h
  induction hsteps with
  | refl => exact displays_start files scripts limit
  | tail hsteps hstep ih => exact ih.step (Reachable.books ⟨files, scripts, limit, hsteps⟩) hstep

/-! ## From the compile to the proxy -/

/-- A job brings the program of a kernel, for the update with the number. -/
inductive Brings : Ledger → Ledger → (g k n : Nat) → Program → Prop
  | deliver {L : Ledger} {id n : Nat} {t : CompileTask} {plan : Plan} {p : Program}
    {result : CompileResult} {returned : Except (CallError ProgramError) (Program × Bool)}
    (ht : L.session.tasks[id]? = some t) (hkind : t.job.kind = .runtime n plan)
    (hdone : t.done = false) (hlanding : L.landing id = none) (hawaits : L.session.Awaits t.job)
    (hresult : jobResult t.job (L.session.resource t.job.resource).level returned =
      some (some p, result)) (hsuccess : result.success = true) :
    Brings L { L with
      session := L.session.deliver t.job n (some p) result
      landing := Function.update L.landing id (some (some p, result)) }
      t.job.graph t.job.kernel n p

theorem Brings.step (h : Brings L L' g k n p) : Step L L' := by
  cases h with
  | deliver ht hkind hdone hlanding hawaits hresult _ =>
    exact .deliver ht hkind hdone hlanding hawaits hresult

/-- The program that an update has brought is there, or the update is not the latest any more; and
    its proxies show what is seen of it. -/
structure Achieved (L : Ledger) (g k n r : Nat) (p : Program) : Prop extends Started L g n where
  has : ∀ plan, L.Plans g plan → plan.generation = n → plan.Has k
  holds : n = (L.session.graph g).generation → L.session.Owns g k r ∧
    (L.session.resource r).state = .compiled ∧ (L.session.resource r).program = some p
  shows : ∀ x ∈ L.session.proxies, x.graph = g → x.generation = n →
    (∃ v ∈ x.invocations, v.kernel = k) ∧
      ∀ v ∈ x.invocations, v.kernel = k → v.program = L.session.seen g (some p)

/-- **A job that brings a program** achieves it. -/
theorem Brings.achieved (hb : Brings L L' g k n p) (h : L.Books) (hd : L.Displays) :
    ∃ r, Achieved L' g k n r p := by
  have hstep := hb.step
  cases hb with
  | @deliver id n t plan p result returned ht hkind hdone hlanding hawaits hresult hsuccess =>
    have hstarted := h.started_of_task ht hkind
    have hruntime : t.job.IsRuntime := ⟨n, plan, hkind⟩
    have hnumber := Job.generation_eq hkind
    have hholds : L.Holds t.job := Or.inr ⟨id, t, ht, rfl⟩
    refine ⟨t.job.resource, hstarted.step h hstep, fun plan' hplan' hn => ?_, fun hn => ?_,
      fun x hx hgraph hn => ?_⟩
    · have hplan : L.Plans t.job.graph plan := .job hholds rfl hkind
      have hold := hstarted.plans h hstep hplan' hn
      rw [hd.planned.unique hold hplan (hn.trans (h.calls.fits ht hkind).plan.symm)]
      exact hd.planned.has hholds hkind
    · obtain ⟨howns, -⟩ := (h.tally t.job.graph (hstarted.settled h hn)).awaits h.calls ht hruntime
        hdone rfl (hnumber.trans hn) hlanding
      have hresource := resource_modifyResource L.session t.job.resource
        (fun y => (y.finish n (some p) result).2) t.job.resource
      rw [if_pos ⟨rfl, h.calls.holdings.lt howns⟩, Resource.finish,
        if_pos (by rw [← hnumber, hawaits.1, hawaits.2]; simp)] at hresource
      refine ⟨howns, ?_, ?_⟩
      · exact (congrArg Resource.state hresource).trans (by simp only [hsuccess, if_true])
      · exact (congrArg Resource.program hresource).trans (by simp only [hsuccess, if_true])
    · -- the update has not published yet, since its job is not over
      have hover := hd.past x hx
      rw [hgraph, hn] at hover
      exact absurd hnumber (hover.jobs t.job ⟨hruntime, Or.inr ⟨id, t, ht, rfl, hdone⟩⟩ rfl)

theorem Achieved.step (ha : Achieved L g k n r p) (h : L.Books) (hd : L.Displays)
    (hstep : Step L L') : Achieved L' g k n r p := by
  have hstarted := ha.toStarted
  have hholds : n = (L'.session.graph g).generation → L'.session.Owns g k r ∧
      (L'.session.resource r).state = .compiled ∧ (L'.session.resource r).program = some p := by
    intro hn
    have hnumber := hstarted.latest h hstep hn
    have hsettled := hstarted.settled h hnumber
    obtain ⟨howns, hstate, hprogram⟩ := ha.holds hnumber
    refine ⟨by rw [Owns, h.sets hstep hsettled]; exact howns, ?_⟩
    rcases h.preserves hstep howns with ⟨⟨id, t, -, -, hr, -, hawaits⟩, -⟩ | ⟨⟨hsame, -⟩, hcompiled⟩
    · -- what is compiled waits for nothing
      have hcompiling := hawaits.2
      rw [hr, hstate] at hcompiling
      cases hcompiling
    · exact ⟨hcompiled hsettled hstate, hsame.trans hprogram⟩
  refine ⟨hstarted.step h hstep,
    fun plan hplan hn => ha.has plan (hstarted.plans h hstep hplan hn) hn, hholds,
    fun x hx hgraph hn => ?_⟩
  rcases h.proxies hstep hx with ⟨y, hy, heq⟩ | ⟨plan, hplan, hlatest, hshows⟩
  · rw [heq] at hgraph hn ⊢
    rw [seen_step h hstep hstarted.size]
    exact ha.shows y hy hgraph hn
  · have hnumber := hshows.generation.symm.trans hn
    rw [hgraph] at hplan
    refine ⟨hshows.has (ha.has plan hplan hnumber), fun v hv hkernel => ?_⟩
    subst hgraph hkernel
    obtain ⟨howns, -, hprogram⟩ := hholds (hnumber.symm.trans hlatest)
    have hgeneration : x.generation = (L'.session.graph x.graph).generation :=
      hshows.generation.trans hlatest
    rw [(hd.step h hstep).shown x hx hgeneration v hv r howns, hprogram]

theorem Reachable.steps (h : L.Reachable) (hsteps : Steps L L') : L'.Reachable := by
  obtain ⟨files, scripts, limit, hstart⟩ := h
  exact ⟨files, scripts, limit, hstart.trans hsteps⟩

/-- **After all sections** that follow, what an update has brought is achieved. -/
theorem Achieved.steps (ha : Achieved L g k n r p) (h : L.Reachable) (hsteps : Steps L L') :
    Achieved L' g k n r p := by
  induction hsteps with
  | refl => exact ha
  | tail hsteps hstep ih =>
    have hreachable := h.steps hsteps
    exact ih.step hreachable.books hreachable.displays hstep

theorem Brings.shows (hb : Brings L L' g k n p) (h : L.Reachable) {L'' : Ledger}
    (hsteps : Steps L' L'') : ∀ x ∈ L''.session.proxies, x.graph = g → x.generation = n →
      (∃ v ∈ x.invocations, v.kernel = k) ∧
        ∀ v ∈ x.invocations, v.kernel = k → v.program = L''.session.seen g (some p) := by
  obtain ⟨r, ha⟩ := hb.achieved h.books h.displays
  exact (ha.steps (h.steps (.single hb.step)) hsteps).shows

/-- **Resources that were handed out are found, and programs that were compiled are shown**, but for
    an editor at a level that is not defined.

    However levels were switched before, a set that is asked for a level hands out one resource,
    which it lists once, hands out again and finds, if the level is visible to it.  An editor keeps
    what it has for other levels; at run time there is one resource, and one that is replaced is
    invalidated, and its task cancelled.

    However updates, jobs and closing follow upon each other, the proxy of the latest update shows
    what is seen of the program of every kernel that is compiled.  What a job has brought to a
    kernel is shown by the proxy of its update, which has the kernel, at all times. -/
theorem Reachable.found_and_shown {format : String} {editor : Bool} {set : ResourceSet}
    {store : ResourceStore} (hset : ResourceSet.Made format editor set store) (h : L.Reachable) :
    (∀ level r task set' store', set.resource store level = (r, task, set', store') →
      ResourceSet.Asked editor level set store r task set' store') ∧
    (∀ (s : Session) (g k r id : Nat) (set set' : ResourceSet) (store' : ResourceStore),
      (s.graph g).sets[k]? = some (some set) →
      set.resource s.resources (s.graph g).options.level = (r, some id, set', store') →
        (s.kernelResource g k).2.tasks = s.tasks.modify id fun t => { t with cancelled := true }) ∧
    (∀ x ∈ L.session.proxies, x.generation = (L.session.graph x.graph).generation →
      ∀ v ∈ x.invocations, ∀ r, L.session.owned? x.graph v.kernel = some r →
        (L.session.resource r).state = .compiled →
          ∃ p, (L.session.resource r).program = some p ∧
            v.program = L.session.seen x.graph (some p)) ∧
    ∀ (L₁ L₂ : Ledger) (g k n : Nat) (p : Program), Brings L L₁ g k n p → Steps L₁ L₂ →
      ∀ x ∈ L₂.session.proxies, x.graph = g → x.generation = n →
        (∃ v ∈ x.invocations, v.kernel = k) ∧
          ∀ v ∈ x.invocations, v.kernel = k → v.program = L₂.session.seen g (some p) := by
  refine ⟨fun level r task set' store' hout => (hset.orderly.asked hout).1,
    fun s g k r id set set' store' => tasks_kernelResource, fun x hx hn v hv r howned hstate => ?_,
    fun L₁ L₂ g k n p hbrings hsteps => hbrings.shows h hsteps⟩
  have howns := owns_of_owned? howned
  obtain ⟨p, hp⟩ := Option.isSome_iff_exists.1 (h.displays.filled howns hstate)
  refine ⟨p, hp, ?_⟩
  rw [h.displays.shown x hx hn v hv r howns, hp]

/-! ## Without the level -/

/-- The program that a compiler may return for the kernel. -/
def tableProgram : Program where
  format := "mock"
  hashKey := (entryBuild "Main").hashKey
  entryPoint := "Main"

/-- The result of the compile. -/
def tableResult : CompileResult where
  success := true
  format := "mock"
  level := .sm5
  hashKey := (entryBuild "Main").hashKey

/-- The kernel is compiled, and the update publishes its proxy. -/
theorem exists_tableShown : ∃ L L₁ L₂ : Ledger, L.Reachable ∧ Brings L L₁ 0 0 1 tableProgram ∧
    Steps L₁ L₂ ∧ (L₂.session.graph 0).generation = 1 ∧
    (∃ x ∈ L₂.session.proxies, x.graph = 0 ∧ x.generation = 1) ∧
    L₂.session.owned? 0 0 = some 0 ∧ (L₂.session.resource 0).state = .compiled ∧
    (L₂.session.graph 0).options = tableOptions := by
  obtain ⟨⟨session, callers, landing, waits⟩, hreachable, hrests, heq⟩ := exists_tableRested
  dsimp only at heq
  subst heq
  have htask : tableRested.tasks[0]? = some { job := tableJob } := rfl
  have hresult : jobResult tableJob (tableRested.resource 0).level (.ok (tableProgram, false)) =
      some (some tableProgram, tableResult) := rfl
  let L : Ledger := ⟨tableRested, callers, landing, waits⟩
  let L₁ : Ledger := { L with
    session := tableRested.deliver tableJob 1 (some tableProgram) tableResult
    landing := Function.update landing 0 (some (some tableProgram, tableResult)) }
  have hbrings : Brings L L₁ 0 0 1 tableProgram :=
    .deliver htask rfl rfl (hrests.2 0) ⟨rfl, rfl⟩ hresult rfl
  have hlanding : L₁.landing 0 = some (some tableProgram, tableResult) := by
    dsimp only [L₁]
    rw [Function.update_self]
  have hland := Step.land htask rfl hlanding
  refine ⟨_, _, _, hreachable, hbrings, .single hland, ?_, ?_, ?_, ?_, ?_⟩
  · rw [session_settle]
    rfl
  · rw [session_settle]
    refine ⟨_, Array.mem_of_getElem? (i := 0) rfl, rfl, rfl⟩
  · rw [session_settle]
    rfl
  · rw [session_settle]
    rfl
  · rw [session_settle]
    rfl

/-- Nothing is seen of the programs of the graph. -/
theorem seen_tableOptions {s : Session} (h : (s.graph 0).options = tableOptions)
    (program : Option Program) : s.seen 0 program = none := by
  rw [seen, h]
  exact if_neg (by decide)

/-- The kernel is compiled and the set has its resource, but neither is seen. -/
theorem found_and_shown_tableStart :
    ResourceSet.Made "mock" true (.empty "mock" true) #[] ∧
    (∃ r set store, (ResourceSet.empty "mock" true).resource #[] ⟨200⟩ = (r, none, set, store) ∧
      set.lookup? store ⟨200⟩ = none ∧ set.toList.count r = 1 ∧
        set.resource store ⟨200⟩ = (r, none, set, store)) ∧
    ∃ L L₁ L₂ : Ledger, L.Reachable ∧ Brings L L₁ 0 0 1 tableProgram ∧ Steps L₁ L₂ ∧
      ∃ x ∈ L₂.session.proxies, x.graph = 0 ∧ x.generation = 1 ∧
        ∃ v ∈ x.invocations, v.kernel = 0 ∧ v.program = none := by
  obtain ⟨L, L₁, L₂, hreachable, hbrings, hsteps, -, ⟨x, hx, hgraph, hn⟩, -, -, hoptions⟩ :=
    exists_tableShown
  have hempty : ResourceSet.Made "mock" true (.empty "mock" true) #[] := .empty #[]
  obtain ⟨hasked, -, -, hshown⟩ := Reachable.found_and_shown hempty hreachable
  have hout := hasked ⟨200⟩ _ _ _ _ rfl
  obtain ⟨⟨v, hv, hk⟩, hprogram⟩ := hshown L₁ L₂ 0 0 1 tableProgram hbrings hsteps x hx hgraph hn
  refine ⟨hempty, ⟨_, _, _, rfl, hout.lookup.trans (if_neg (by decide)), hout.listed, hout.again⟩,
    L, L₁, L₂, hreachable, hbrings, hsteps, x, hx, hgraph, hn, v, hv, hk, ?_⟩
  rw [hprogram v hv hk, seen_tableOptions hoptions]

/-- **Not every set** finds what it has handed out, and not every kernel that is compiled is shown
    with its program. -/
theorem not_found_and_not_shown :
    (¬ ∀ (format : String) (editor : Bool) (set : ResourceSet) (store : ResourceStore),
      ResourceSet.Made format editor set store → ∀ level r task set' store',
        set.resource store level = (r, task, set', store') → set'.lookup? store' level = some r) ∧
    ¬ ∀ L : Ledger, L.Reachable → ∀ x ∈ L.session.proxies,
      x.generation = (L.session.graph x.graph).generation → ∀ v ∈ x.invocations,
        ∀ r, L.session.owned? x.graph v.kernel = some r →
          (L.session.resource r).state = .compiled → v.program.isSome = true := by
  constructor
  · intro h
    have hfound := h "mock" true _ #[] (.empty #[]) ⟨200⟩ _ _ _ _ rfl
    revert hfound
    decide
  · intro h
    obtain ⟨L, L₁, L₂, hreachable, hbrings, hsteps, hlatest, ⟨x, hx, hgraph, hn⟩, howned, hstate,
      hoptions⟩ := exists_tableShown
    obtain ⟨⟨v, hv, hk⟩, hprogram⟩ := hbrings.shows hreachable hsteps x hx hgraph hn
    have hlast := (hreachable.steps (.single hbrings.step)).steps hsteps
    have hsome := h L₂ hlast x hx (by rw [hgraph, hn, hlatest]) v hv 0
      (by rw [hgraph, hk]; exact howned) hstate
    rw [hprogram v hv hk, seen_tableOptions hoptions] at hsome
    cases hsome

end Ledger

end KernelGraph
