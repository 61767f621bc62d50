/-
  Whose program a kernel shows.

  The resources of a graph belong to the positions in its list of kernels, and a kernel that fails
  keeps what its position holds.  So what a kernel shows was compiled at its position:

  1. `Edition` is an update with its builds and hook calls, and `EditRun` are the runs in which
     graphs are edited in any way and updated synchronously, while sources and compilers change.

  2. `Descends` says of a position that it was compiled with a key in some update and has been in
     the list ever since.  It holds of all programs in slots and in proxies (`Filled`), because one
     update either keeps what a slot holds or compiles the kernel that is there (`Succeeds`).

  3. So a kernel shows a program of its own if no other kernel has been at its position since.  At
     the end stands a run in which one was: the new kernel, which cannot be built, shows the program
     of the one it replaces.
-/
import KernelGraph.Proofs.Session.Published
import KernelGraph.Proofs.Session.Synchronous

namespace KernelGraph.Session

/-! ## Runs of edits -/

/-- An update, with what it has built and the calls of the hook during it. -/
structure Edition extends Started where
  builds : List (Nat × Except GraphError KernelBuild)
  calls : List HookCall

/-- The update of a graph. -/
def edition (s : Session) (g : Nat) (sync : Bool) : Edition where
  graph := g
  generation := (s.graph g).generation + 1
  definition := (s.graph g).definition
  builds := s.updateBuilds g
  calls := (s.update g sync).2.hooks.drop s.hooks.length

namespace Action

/-- True for the actions of an editor, who waits for every update. -/
def isEdit : Action → Bool
  | update _ sync => sync
  | close _ | beginPlatform .. | clearPlatform .. | clearPlatforms _ | advance _ | closePool _
  | hold | release => false
  | _ => true

/-- The update that an action starts, with what comes of it. -/
def editions (s : Session) : Action → List Edition
  | update g sync => if s.accepts g then [s.edition g sync] else []
  | _ => []

theorem editions_update {s : Session} {g : Nat} (h : s.accepts g = true) (sync : Bool) :
    (update g sync).editions s = [s.edition g sync] := by
  dsimp only [editions]
  rw [h, if_pos rfl]

theorem map_editions (s : Session) (a : Action) :
    (a.editions s).map Edition.toStarted = a.started s := by
  cases a with
  | update g sync =>
    dsimp only [editions, started]
    split
    · rfl
    · rfl
  | _ => rfl

end Action

/-- The sessions that runs of edits lead to, with the updates on the way. -/
inductive EditRun : List Edition → Session → Prop
  | start {files : FileStore} (hfiles : files.Reachable) (scripts : List Script) (limit : Int) :
      EditRun [] { files, scripts, cache := .empty limit }
  | step {H : List Edition} {s : Session} (a : Action) (hedit : a.isEdit = true)
      (ha : a.Enabled s) :
      EditRun H s → EditRun (H ++ a.editions s) (a.apply s)

theorem EditRun.run {H : List Edition} {s : Session} (h : EditRun H s) :
    Run (H.map Edition.toStarted) s := by
  induction h with
  | start hfiles scripts limit => exact .start hfiles scripts limit
  | step a _ ha _ ih =>
    rw [List.map_append, Action.map_editions]
    exact .step a ha ih

/-! ## Descent -/

section
variable {H : List Edition} {u : Edition} {g n n' k : Nat} {key : String}

/-- The update has built the kernel at a position with the key, and its compile succeeded. -/
def Edition.Compiled (u : Edition) (k : Nat) (key : String) : Prop :=
  (∃ b, (k, .ok b) ∈ u.builds ∧ b.hashKey = key) ∧
    ∃ result ∈ hookResults u.calls u.graph k, result.success = true

/-- From the update up to a generation of its graph, there was a kernel at the position. -/
def Edition.Lasts (H : List Edition) (u : Edition) (k n : Nat) : Prop :=
  u.generation ≤ n ∧ ∀ w ∈ H, w.graph = u.graph → u.generation ≤ w.generation →
    w.generation ≤ n → k < w.definition.kernels.length

/-- The position was compiled with the key, and has been in the list ever since. -/
def Descends (H : List Edition) (g n k : Nat) (key : String) : Prop :=
  ∃ u ∈ H, u.graph = g ∧ u.Lasts H k n ∧ u.Compiled k key

/-- One more update, in which the position is still there if it counts. -/
theorem Descends.extend (h : Descends H g n k key) (hle : n ≤ n')
    (hold : ∀ w ∈ H, w.graph = g → w.generation ≤ n' → w.generation ≤ n)
    (hu : u.graph = g → u.generation ≤ n' → k < u.definition.kernels.length) :
    Descends (H ++ [u]) g n' k key := by
  obtain ⟨e, he, rfl, ⟨hen, hlasts⟩, hcompiled⟩ := h
  refine ⟨e, List.mem_append_left _ he, rfl, ⟨Nat.le_trans hen hle, fun w hw hgraph hew hwn => ?_⟩,
    hcompiled⟩
  rcases List.mem_append.1 hw with hw | hw
  · exact hlasts w hw hgraph hew (hold w hw hgraph hwn)
  · cases List.mem_singleton.1 hw
    exact hu hgraph hwn

/-- The latest update has compiled the position. -/
theorem Descends.of_compiled (hold : ∀ w ∈ H, w.graph = u.graph → w.generation < u.generation)
    (hk : k < u.definition.kernels.length) (h : u.Compiled k key) :
    Descends (H ++ [u]) u.graph u.generation k key := by
  refine ⟨u, List.mem_append_right _ (List.mem_singleton_self u), rfl,
    ⟨Nat.le_refl _, fun w hw hgraph hle _ => ?_⟩, h⟩
  rcases List.mem_append.1 hw with hw | hw
  · exact absurd hle (Nat.not_le.2 (hold w hw hgraph))
  · cases List.mem_singleton.1 hw
    exact hk

end

/-! ## What slots and proxies hold -/

/-- Nobody is at work, and all programs descend from the positions where they are and were shown. -/
structure Filled (H : List Edition) (s : Session) : Prop where
  held : s.held = false
  live : s.live = []
  slots : ∀ {g k r p}, s.Owns g k r → (s.resource r).program = some p →
    Descends H g (s.graph g).generation k p.hashKey
  shown : ∀ x ∈ s.proxies, ∀ v ∈ x.invocations, ∀ p, v.program = some p →
    Descends H x.graph x.generation v.kernel p.hashKey

section
variable {H : List Edition} {s s' : Session} {g : Nat}

/-- What happens around the graphs does not change what their slots hold. -/
theorem Filled.around (h : Filled H s) (hs : s.Holdings) (ha : s.Around s')
    (hheld : s'.held = s.held) (hlive : s'.live = s.live) : Filled H s' where
  held := hheld.trans h.held
  live := hlive.trans h.live
  slots {g k r p} ho hp := by
    have ho' := ha.frame.owns ho
    rw [ha.kept r (hs.lt ho') (hs.uncooked ho')] at hp
    rw [(ha.graph g).generation]
    exact h.slots ho' hp
  shown x hx v hv p hp := by
    -- a proxy is one that was there, released or not
    have hmem : { x with released := true } ∈
        s.proxies.toList.map fun x => { x with released := true } := by
      rw [← ha.proxies]
      exact List.mem_map.2 ⟨x, Array.mem_toList_iff.2 hx, rfl⟩
    obtain ⟨y, hy, heq⟩ := List.mem_map.1 hmem
    injection heq with hgraph _ hgeneration hinvocations
    rw [← hgraph, ← hgeneration]
    exact h.shown y (Array.mem_toList_iff.1 hy) v (hinvocations ▸ hv) p hp

/-- What an edit other than an update does. -/
theorem Action.around {a : Action} (hedit : a.isEdit = true) (hne : ∀ g sync, a ≠ .update g sync)
    (s : Session) :
    s.Around (a.apply s) ∧ (a.apply s).held = s.held ∧ (a.apply s).live = s.live := by
  cases a with
  | addGraph definition options => exact ⟨.addGraph s definition options, rfl, rfl⟩
  | edit g f =>
    exact ⟨.modifyGraph s g fun x => ⟨⟨rfl, rfl, rfl, rfl, rfl, rfl, rfl⟩, rfl⟩, rfl, rfl⟩
  | update g sync => exact absurd rfl (hne g sync)
  | build g k d format => exact ⟨.of_eq rfl rfl rfl rfl rfl rfl rfl, rfl, rfl⟩
  | openPool => exact ⟨.openPool s, rfl, live_openPool s⟩
  | runQueue => exact ⟨.runQueue s, rfl, rfl⟩
  | lookup key => exact ⟨.of_eq rfl rfl rfl rfl rfl rfl rfl, rfl, rfl⟩
  | clearCache => exact ⟨.of_eq rfl rfl rfl rfl rfl rfl rfl, rfl, rfl⟩
  | files f => exact ⟨.of_eq rfl rfl rfl rfl rfl rfl rfl, rfl, rfl⟩
  | scripts xs => exact ⟨.of_eq rfl rfl rfl rfl rfl rfl rfl, rfl, rfl⟩
  | takeEvents => exact ⟨.takeEvents s, rfl, rfl⟩
  | _ => cases hedit

end

/-! ## One update -/

/-- The session `s'` after the update `u` of `s`: what a slot holds it has held before, or the
    update has compiled it, and the proxies are those before and the one that the update has
    published. -/
structure Succeeds (u : Edition) (s s' : Session) : Prop where
  held : s'.held = false
  live : s'.live = []
  generation : ∀ i, (s'.graph i).generation =
    (s.graph i).generation + if i = u.graph then 1 else 0
  slots : ∀ {i k r p}, s'.Owns i k r → (s'.resource r).program = some p →
    (i = u.graph → k < u.definition.kernels.length) ∧
      (s.Owns i k r ∧ (s.resource r).program = some p ∨ i = u.graph ∧ u.Compiled k p.hashKey)
  shown : ∀ y ∈ s'.proxies, (∃ z ∈ s.proxies, y = { z with released := y.released }) ∨
    y.graph = u.graph ∧ y.generation = u.generation ∧ ∀ v ∈ y.invocations, ∀ p,
      v.program = some p → ∃ r, s'.Owns u.graph v.kernel r ∧ (s'.resource r).program = some p

section
variable {H : List Edition} {s s' t : Session} {g : Nat} {u : Edition}

/-- The updates so far have smaller numbers than the next one. -/
theorem EditRun.generation_le (h : EditRun H s) {w : Edition} (hw : w ∈ H) :
    w.generation ≤ (s.graph w.graph).generation := by
  obtain ⟨D, hsound, hnumbered⟩ := h.run.sound
  rw [hsound.generation]
  exact hnumbered.le _ (List.mem_map_of_mem hw)

/-- **An update leaves programs where they descend from.** -/
theorem Filled.succeeds (hf : Filled H s) (h : EditRun H s)
    (hu : u.generation = (s.graph u.graph).generation + 1) (hs : Succeeds u s s') :
    Filled (H ++ [u]) s' := by
  have hslots : ∀ {g k r p}, s'.Owns g k r → (s'.resource r).program = some p →
      Descends (H ++ [u]) g (s'.graph g).generation k p.hashKey := by
    intro i k r p ho hp
    obtain ⟨hk, ⟨ho', hp'⟩ | ⟨rfl, hcompiled⟩⟩ := hs.slots ho hp
    · refine (hf.slots ho' hp').extend ?_ (fun w hw hgraph _ => hgraph ▸ h.generation_le hw)
        fun hgraph _ => hk hgraph.symm
      rw [hs.generation]
      exact Nat.le_add_right _ _
    · rw [hs.generation, if_pos rfl, ← hu]
      refine .of_compiled (fun w hw hgraph => ?_) (hk rfl) hcompiled
      rw [hu, ← hgraph]
      exact Nat.lt_succ_of_le (h.generation_le hw)
  refine ⟨hs.held, hs.live, hslots, fun y hy v hv p hp => ?_⟩
  rcases hs.shown y hy with ⟨z, hz, heq⟩ | ⟨hgraph, hgeneration, hprograms⟩
  · rw [heq] at hv ⊢
    refine (hf.shown z hz v hv p hp).extend (Nat.le_refl _) (fun _ _ _ hle => hle)
      fun hgraph hle => ?_
    -- the proxy is that of an earlier update
    obtain ⟨e, he, hpublished, _⟩ := h.run.published hz
    obtain ⟨w, hw, rfl⟩ := List.mem_map.1 he
    have hbefore := h.generation_le hw
    rw [hpublished.graph, hpublished.generation, ← hgraph] at hbefore
    dsimp only at hle
    omega
  · obtain ⟨r, ho, hr⟩ := hprograms v hv p hp
    have hdescends := hslots ho hr
    rw [hs.generation, if_pos rfl, ← hu] at hdescends
    rw [hgraph, hgeneration]
    exact hdescends

/-! ### What an update finds -/

/-- The sets and the programs that an update of `g` has left where they were when it has prepared
    its kernels, or some of them. -/
structure Enters (s : Session) (g : Nat) (s' : Session) : Prop where
  proxies : s'.proxies = s.proxies
  generation : ∀ i, (s'.graph i).generation = (s.graph i).generation + if i = g then 1 else 0
  slots : ∀ {i k r p}, s'.Owns i k r → (s'.resource r).program = some p →
    (i = g → k < (s.graph g).definition.kernels.length) ∧
      s.Owns i k r ∧ (s.resource r).program = some p

/-- Idle workers have nothing to do with the tasks that are taken away. -/
theorem interrupt_of_idle (hlive : s.live = []) (g : Nat) :
    s.interrupt g = ((s.begun g).graphResources g).foldl takeTask (s.begun g) := by
  obtain ⟨resources, cache, tasks, heq, _⟩ :=
    foldl_takeTask_eq ((s.begun g).graphResources g) (s.begun g)
  refine drain_idle fun pool hpool => ?_
  rw [heq] at hpool
  exact idle_of_live_eq_nil hlive pool hpool

theorem Cleared.owns {i k r : Nat} (ht : Cleared s g t) (ho : t.Owns i k r) : s.Owns i k r := by
  obtain ⟨set, hset, hr⟩ := ho
  refine ⟨set, ?_, hr⟩
  rw [(ht.steady.graph i).sets, begun, graph_modifyGraph] at hset
  split at hset
  · exact hset
  · exact hset

theorem Cleared.generation (ht : Cleared s g t) (i : Nat) : (t.graph i).generation =
    (s.graph i).generation + if i = g then 1 else 0 := by
  by_cases hi : i = g
  · rw [hi, if_pos rfl, ht.graph]
  · rw [if_neg hi, (ht.steady.graph i).generation, begun, graph_modifyGraph,
      if_neg fun h => hi h.1.symm]
    rfl

/-- **What an update has prepared** is what it has found. -/
theorem enters_of_renews (hlive : s.live = []) (hg : g < s.graphs.size)
    (ht : Cleared s g (s.interrupt g)) (hr : Renews g ((s.interrupt g).resizeSets g) s')
    (hu : ((s.interrupt g).resizeSets g).Undisturbed s') : Enters s g s' := by
  have hprogram : ∀ i, ((s.interrupt g).resource i).program = (s.resource i).program := by
    intro i
    rw [interrupt_of_idle hlive, resource_foldl_takeTask]
    split
    · exact Resource.program_takeTask _
    · rfl
  have hproxies : (s.interrupt g).proxies = s.proxies := by
    obtain ⟨resources, cache, tasks, heq, _⟩ :=
      foldl_takeTask_eq ((s.begun g).graphResources g) (s.begun g)
    rw [interrupt_of_idle hlive, heq]
    rfl
  have hgt := ht.lt_size hg
  generalize s.interrupt g = t at ht hr hu hprogram hproxies hgt
  obtain ⟨hresized, _, _, _, _, _, hshown⟩ := resizeSets_fields ht.holdings g
  refine ⟨hr.proxies.trans (hshown.trans hproxies), fun i => ?_, fun {i k r p} ho hp => ?_⟩
  · rw [hr.generation, graph_resizeSets_eq ht.holdings]
    exact ht.generation i
  · rw [hu.program] at hp
    rcases hr.fresh ho with ho | hsize
    · refine ⟨?_, ht.owns ((Frame.resizeSets ht.holdings g).owns ho), ?_⟩
      · rintro rfl
        obtain ⟨set, hset, _⟩ := ho
        rw [sets_resizeSets ht.holdings hgt, getElem?_matchedSets, ht.graph] at hset
        by_contra hk
        rw [if_neg hk] at hset
        cases hset
      · rw [← hprogram, ← hresized.program]
        exact hp
    · -- a resource that was made just now holds no program
      rw [Session.resource, Array.getD_eq_getD_getElem?, Array.getElem?_eq_none hsize] at hp
      cases hp

/-! ### What it leaves -/

/-- An update that stops has compiled nothing. -/
theorem Enters.succeeds (h : Enters s g s') (hheld : s'.held = false) (hlive : s'.live = []) :
    Succeeds (s.edition g true) s s' where
  held := hheld
  live := hlive
  generation := h.generation
  slots ho hp := (h.slots ho hp).imp_right Or.inl
  shown y hy := Or.inl ⟨y, h.proxies ▸ hy, rfl⟩

/-- The lock of the graph is never given back. -/
theorem Succeeds.lock {u : Edition} (h : Succeeds u s s') (g : Nat) : Succeeds u s (s'.lock g) where
  held := h.held
  live := h.live
  generation i := (generation_lock s' g i).trans (h.generation i)
  slots := by
    rintro i k r p ⟨set, hset, hr⟩ hp
    rw [sets_lock] at hset
    exact h.slots ⟨set, hset, hr⟩ hp
  shown y hy := by
    refine (h.shown y hy).imp_right fun ⟨hgraph, hgeneration, hshows⟩ =>
      ⟨hgraph, hgeneration, fun v hv p hp => ?_⟩
    obtain ⟨r, ⟨set, hset, hr⟩, hprogram⟩ := hshows v hv p hp
    exact ⟨r, ⟨set, by rw [sets_lock]; exact hset, hr⟩, hprogram⟩

/-- An update that has submitted its jobs is over.  Unlike `Completed` this does not take a pool to
    be there. -/
structure Ended (g : Nat) (q : Prepared) (calls : List HookCall) (s' : Session) : Prop where
  steady : q.session.Steady s'
  held : s'.held = false
  live : s'.live = []
  hooks : s'.hooks = q.session.hooks ++ q.failed.filterMap (q.session.failureCall g) ++ calls
  program : ∀ r, (s'.resource r).program = (q.session.resource r).program ∨
    ∃ j ∈ updateJobs g q, j.resource = r ∧ ∃ p result, (s'.resource r).program = some p ∧
      p.hashKey = j.build.hashKey ∧ hookResults calls g j.kernel = [result] ∧
      result.success = true
  shown : s'.proxies = q.session.proxies ∨
    ∃ x, s'.Presents g (preparedPlan g q) q.session.proxies x

theorem ended_of_batch {q : Prepared}
    (hB : Batch (ready g q) g (preparedPlan g q) (updateJobs g q)) : ∃ calls,
      Ended g q calls ((((ready g q).submitJobs true (updateJobs g q)).drain).finishUpdate g
        (preparedPlan g q)) := by
  obtain ⟨_, _, _, heq⟩ := ready_eq g q
  obtain ⟨calls, hprogress, hlive⟩ := hB.drained
  generalize ((ready g q).submitJobs true (updateJobs g q)).drain = D at hprogress hlive
  obtain ⟨hresources, hhooks, _, hpools⟩ := finishUpdate_fields D g (preparedPlan g q)
  have hproxies : (ready g q).proxies = q.session.proxies := by
    rw [heq]
    rfl
  refine ⟨calls, ?_, ?_, ?_, ?_, fun r => ?_, ?_⟩
  · exact (steady_ready g q).trans (hprogress.steady.trans (.finishUpdate D g _))
  · rw [(Steady.finishUpdate D g _).held, hprogress.steady.held]
    exact hB.held
  · rw [← hlive, live, live, hpools]
  · rw [hhooks, hprogress.hooks, heq]
  · have hold : ((ready g q).resource r).program = (q.session.resource r).program := by
      rw [heq]
      rfl
    rw [Session.resource, hresources, ← hold]
    exact hprogress.program r
  · rw [← hproxies]
    rcases hprogress.finishUpdate hB with ⟨_, hsame, hkept⟩ | ⟨_, hpresents⟩
    · exact Or.inl (by rw [hsame, hkept])
    · exact Or.inr hpresents

section
variable {q : Prepared} {calls : List HookCall}

theorem Ended.owns {i k r : Nat} (h : Ended g q calls s') (ho : s'.Owns i k r) :
    q.session.Owns i k r := by
  obtain ⟨set, hset, hr⟩ := ho
  rw [(h.steady.graph i).sets] at hset
  exact ⟨set, hset, hr⟩

/-- A job that has left its program was compiled in the update. -/
theorem Ended.compiled {j : Job} {result : CompileResult} (h : Ended g q calls (s.update g true).2)
    (hl : Launches t g (s.dialect g) q) (ht : Cleared s g t) (hj : j ∈ updateJobs g q)
    (hresult : hookResults calls g j.kernel = [result]) (hsuccess : result.success = true) :
    j.kernel < (s.graph g).definition.kernels.length ∧
      (s.edition g true).Compiled j.kernel j.build.hashKey := by
  have hbuilt := hl.mem_updateBuilds ht hj
  refine ⟨Graph.lt_of_mem_compilable (mem_compilable_of_updateBuilds hbuilt),
    ⟨j.build, hbuilt, rfl⟩, result, ?_, hsuccess⟩
  -- the calls of the update end with those about its jobs
  obtain ⟨others, hothers, _⟩ := hl.hooks ht
  have hcalls : (s.edition g true).calls =
      others ++ q.failed.filterMap (q.session.failureCall g) ++ calls := by
    show (s.update g true).2.hooks.drop s.hooks.length = _
    rw [h.hooks, hothers, List.append_assoc, List.append_assoc, List.drop_left, List.append_assoc]
  show result ∈ hookResults (s.edition g true).calls g j.kernel
  rw [hcalls, hookResults_append, hresult]
  exact List.mem_append_right _ (List.mem_singleton_self _)

/-- An update that was ended has left what it found, or compiled it. -/
theorem Ended.succeeds (h : Ended g q calls (s.update g true).2)
    (hl : Launches t g (s.dialect g) q) (ht : Cleared s g t) (he : Enters s g q.session) :
    Succeeds (s.edition g true) s (s.update g true).2 := by
  refine ⟨h.held, h.live, fun i => ?_, fun {i k r p} ho hp => ?_, fun y hy => ?_⟩
  · rw [(h.steady.graph i).generation]
    exact he.generation i
  · rcases h.program r with hsame | ⟨j, hj, rfl, p', result, hp', hkey, hresult, hsuccess⟩
    · rw [hsame] at hp
      exact (he.slots (h.owns ho) hp).imp_right Or.inl
    · -- the position is that of the job
      obtain ⟨rfl, rfl⟩ := hl.preparation.holdings.apart (h.owns ho) (hl.owns_job hj)
      cases hp.symm.trans hp'
      obtain ⟨hk, hcompiled⟩ := h.compiled hl ht hj hresult hsuccess
      rw [← hkey] at hcompiled
      exact ⟨fun _ => hk, Or.inr ⟨rfl, hcompiled⟩⟩
  · rw [← he.proxies]
    rcases h.shown with hproxies | ⟨x, hx⟩
    · rw [hproxies] at hy
      exact Or.inl ⟨y, hy, rfl⟩
    · refine (hx.others y hy).symm.imp_right ?_
      rintro rfl
      have hgeneration : (preparedPlan g q).generation = (s.graph g).generation + 1 := by
        show (q.session.graph g).generation = _
        rw [he.generation, if_pos rfl]
      refine ⟨hx.graph, hx.generation.trans hgeneration, fun v hv p hp => ?_⟩
      rw [hx.program (congrArg GraphOptions.level (h.steady.graph g).options).symm hv] at hp
      obtain ⟨r, hr, hp⟩ := Option.bind_eq_some_iff.1 hp
      exact ⟨r, owns_of_found hr, hp⟩

end

/-- **A synchronous update** of a session in which nobody is at work. -/
theorem Run.succeeds {H : List Started} (h : Run H s) (hlive : s.live = []) (hheld : s.held = false)
    (hg : g < s.graphs.size) (haccepts : s.accepts g = true) :
    Succeeds (s.edition g true) s (s.update g true).2 := by
  obtain ⟨_, hreachable⟩ := h.reachable
  have ht := h.cleared hg haccepts hheld
  have hupdate := update_eq_startGeneration haccepts true
  have hstart := Preparation.resizeSets ht.holdings (ht.lt_size hg)
  obtain ⟨_, hrenews, hprepared⟩ := hstart.prepareKernels (d := s.dialect g)
  obtain ⟨hundisturbed, _⟩ := hstart.begunAll (d := s.dialect g) (begun_start g _)
  have he := enters_of_renews hlive hg ht hrenews hundisturbed
  generalize hq : prepareKernels g (s.dialect g)
    (((s.interrupt g).resizeSets g).graph g).definition.compilable
    { session := (s.interrupt g).resizeSets g } = out at hrenews hprepared hundisturbed he
  obtain ⟨result, S⟩ := out
  cases result with
  | error e =>
    rw [startGeneration_of_error hq] at hupdate
    obtain ⟨hresized, _, _, _, hpools, _, _⟩ := resizeSets_fields ht.holdings g
    rw [hupdate]
    refine (he.succeeds ?_ ?_).lock g
    · rw [hundisturbed.held, hresized.held, ht.steady.held]
      exact hheld
    · rw [← ht.live, live, live, hrenews.pools, hpools]
  | ok q =>
    obtain ⟨rfl, _⟩ := hprepared q rfl
    have hl := launches_of_prepared ht.holdings (ht.lt_size hg) hq
    obtain ⟨calls, hended⟩ :=
      ended_of_batch (hl.batch ht hg haccepts hheld (hreachable.orderly.shown.le g))
    rw [startGeneration_of_prepared hq] at hupdate
    have hend : Ended g q calls (s.update g true).2 := by
      rw [hupdate]
      exact hended
    exact hend.succeeds hl ht he

end

/-! ## All runs of edits -/

section
variable {H : List Edition} {s : Session} {g : Nat} {x : RenderProxy} {v : Invocation} {p : Program}

/-- An update that is rejected leaves a record at most. -/
theorem books_update (hfree : (s.graph g).locked = false) (h : s.accepts g = false) (sync : Bool) :
    s.Books (s.update g sync).2 := by
  unfold Session.update
  extract_lets x started taken
  split
  · exact .note s _
  · rename_i hvalid
    split
    · exact .refl s
    · rename_i c hcompiler
      split
      · exact .refl s
      · rename_i hclosed
        have haccepts : s.accepts g = true := by
          show (x.definition.validate.toBool && (s.compiler? x.options.format).isSome &&
            !x.closed && !x.locked) = true
          rw [hvalid, hcompiler, Bool.eq_false_iff.2 hclosed, hfree]
          rfl
        rw [h] at haccepts
        cases haccepts

/-- **Every run of edits** leads to a session whose programs descend from where they are. -/
theorem EditRun.filled (h : EditRun H s) : Filled H s := by
  induction h with
  | start =>
    refine ⟨rfl, rfl, ?_, fun x hx => by cases Array.not_mem_empty x hx⟩
    rintro g k r p ⟨set, hset, _⟩ _
    cases hset
  | @step H s a hedit ha h ih =>
    have hholdings := h.run.holdings
    by_cases hupdate : ∃ g sync, a = .update g sync
    · obtain ⟨g, sync, rfl⟩ := hupdate
      cases hedit
      cases haccepts : s.accepts g with
      | false =>
        have heditions : (Action.update g true).editions s = [] := by
          dsimp only [Action.editions]
          rw [haccepts]
          rfl
        rw [heditions, List.append_nil]
        obtain ⟨_, _, _, heq⟩ := books_update (ha.free g rfl) haccepts true
        show Filled H (s.update g true).2
        rw [heq]
        exact ih.around hholdings (.of_eq rfl rfl rfl rfl rfl rfl rfl) rfl rfl
      | true =>
        rw [Action.editions_update haccepts]
        exact ih.succeeds h rfl (h.run.succeeds ih.live ih.held (ha.graph g rfl) haccepts)
    · have hne : ∀ g sync, a ≠ .update g sync := fun g sync heq => hupdate ⟨g, sync, heq⟩
      have heditions : a.editions s = [] := by
        cases a with
        | update g sync => exact absurd rfl (hne g sync)
        | _ => rfl
      obtain ⟨haround, hheld, hlive⟩ := Action.around hedit hne s
      rw [heditions, List.append_nil]
      exact ih.around hholdings haround hheld hlive

/-- The kernels that were built have been in the list. -/
theorem EditRun.exists_kernel (h : EditRun H s) {u : Edition} (hu : u ∈ H) {k : Nat}
    {built : Except GraphError KernelBuild} (hk : (k, built) ∈ u.builds) :
    ∃ kernel, u.definition.kernel? k = some kernel := by
  induction h with
  | start => cases hu
  | @step H s a _ _ _ ih =>
    rcases List.mem_append.1 hu with hu | hu
    · exact ih hu
    · cases a with
      | update g sync =>
        dsimp only [Action.editions] at hu
        split at hu
        · cases List.mem_singleton.1 hu
          obtain ⟨⟨_, _, source⟩, hcompilable, rfl⟩ :=
            List.mem_map.1 (mem_compilable_of_updateBuilds hk)
          obtain ⟨kernel, hkernel, _⟩ :=
            Option.bind_eq_some_iff.1 (Graph.source?_of_mem_compilable hcompilable)
          exact ⟨kernel, hkernel⟩
        · cases hu
      | _ => cases hu

/-- If there is a kernel at the position, it has this name. -/
def Edition.Names (u : Edition) (k : Nat) (name : String) : Prop :=
  ∀ kernel, u.definition.kernel? k = some kernel → kernel.name = name

/-- A kernel of this name was built with the key, and its compile succeeded. -/
def Edition.CompiledAs (u : Edition) (name key : String) : Prop :=
  ∃ k kernel, u.definition.kernel? (k : Nat) = some kernel ∧ kernel.name = name ∧ u.Compiled k key

/-- **Whose program a kernel shows.**  In every run of edits and synchronous updates, a program that
    was published with a kernel was compiled at its position: some update, this one or an earlier
    one, has built the kernel that was there with the program's key and compiled it, and the
    position has not left the list since.  If all kernels that have been there since had its name,
    then it was a kernel of its name. -/
theorem EditRun.lineage (h : EditRun H s) (hx : x ∈ s.proxies) (hv : v ∈ x.invocations)
    (hp : v.program = some p) :
    Descends H x.graph x.generation v.kernel p.hashKey ∧
      ((∀ w ∈ H, w.graph = x.graph → w.Lasts H v.kernel x.generation → w.Names v.kernel v.name) →
        ∃ u ∈ H, u.graph = x.graph ∧ u.generation ≤ x.generation ∧
          u.CompiledAs v.name p.hashKey) := by
  have hdescends := h.filled.shown x hx v hv p hp
  refine ⟨hdescends, fun hnames => ?_⟩
  obtain ⟨u, hu, hgraph, hlasts, hcompiled⟩ := hdescends
  obtain ⟨⟨b, hb, _⟩, _⟩ := id hcompiled
  obtain ⟨kernel, hkernel⟩ := h.exists_kernel hu hb
  exact ⟨u, hu, hgraph, hlasts.1, v.kernel, kernel, hkernel,
    hnames u hu hgraph hlasts kernel hkernel, hcompiled⟩

end

/-! ## A kernel that was never built -/

section
variable {s t s' : Session} {g : Nat} {q : Prepared} {others calls : List HookCall}
  {x : RenderProxy} {v : Invocation}

/-- A kernel that cannot be built shows what its position holds. -/
theorem Updated.program_of_error {H : List Started} (h : Updated s g t q others calls s' x)
    (hrun : Run H s) (hg : g < s.graphs.size) (haccepts : s.accepts g = true)
    (hlevel : (s.graph g).options.level.isValid = true) (hv : v ∈ x.invocations) {e : GraphError}
    (hbuilt : (v.kernel, .error e) ∈ s.updateBuilds g) : v.program = s.slotProgram g v.kernel := by
  have hk := mem_compilable_of_updateBuilds hbuilt
  have hapart := List.nodup_append.1 (List.nodup_append.1 h.launches.preparation.apart).1
  cases h.readied _ hbuilt with
  | @failed _ r _ hr hfailed _ _ _ hp =>
    obtain ⟨_, hleft⟩ := h.completed.of_not_mem h.launches
      fun hmem => hapart.2.2 _ hfailed _ hmem rfl
    rw [h.program hrun hg haccepts hlevel hv, slotProgram, h.completed.slot, hr, Option.bind_some,
      hleft r hr, hp, h.cleared.slotProgram hrun.holdings hg (Graph.lt_of_mem_compilable hk)]
  | reused hok => cases hok
  | begun hok => cases hok

end

/-- The graph with one kernel is updated for the first time. -/
def entryEdition : Edition := entryStart.edition 0 true

theorem editRun_entryStart : EditRun [entryEdition] (entryStart.update 0 true).2 := by
  have haccepts : entryStart.accepts 0 = true := by decide
  have hstart : EditRun [] entryStart :=
    .step (.addGraph (entryGraph "Main") entryOptions) rfl .addGraph
      (.start reachable_wrapperFiles _ _)
  have hg : 0 < entryStart.graphs.size := Nat.one_pos
  have hupdated := EditRun.step (.update 0 true) rfl (.update hg rfl) hstart
  rw [Action.editions_update haccepts] at hupdated
  exact hupdated

/-- The kernel shows its own program after the first update. -/
theorem lineage_entryStart : ∃ x ∈ (entryStart.update 0 true).2.proxies, ∃ v ∈ x.invocations,
    ∃ p, v.program = some p ∧ Descends [entryEdition] x.graph x.generation v.kernel p.hashKey ∧
      ∃ u ∈ [entryEdition], u.graph = x.graph ∧ u.generation ≤ x.generation ∧
        u.CompiledAs "A" p.hashKey := by
  have hrun : Run [] entryStart :=
    .step (.addGraph (entryGraph "Main") entryOptions) .addGraph
      (.start reachable_wrapperFiles _ _)
  obtain ⟨rest, p, result, _, hcompiled⟩ := exists_entryCompiled
  obtain ⟨t, q, others, calls, s', x, hu⟩ :=
    hrun.updated Nat.zero_lt_one (by decide) (by decide) rfl fun k e hmem => by
      rw [updateBuilds_entryStart] at hmem
      cases List.mem_singleton.1 hmem
  have hs' : (entryStart.update 0 true).2 = s' := congrArg Prod.snd hu.update
  obtain ⟨v, hinvocations, hv⟩ := List.map_eq_singleton_iff.1 hu.map_name
  obtain ⟨hkernel, hname⟩ := Prod.mk.inj hv
  have hmem : v ∈ x.invocations := hinvocations ▸ List.mem_singleton_self v
  have hp : v.program = some p := by
    rw [hu.completed.program hmem, hkernel, ← hs', hcompiled]
    rfl
  have hx : x ∈ (entryStart.update 0 true).2.proxies := hs' ▸ hu.mem_proxies
  obtain ⟨hdescends, hown⟩ := editRun_entryStart.lineage hx hmem hp
  refine ⟨x, hx, v, hmem, p, hp, hdescends, ?_⟩
  rw [hname] at hown
  refine hown fun w hw _ _ kernel hkernel' => ?_
  rw [List.mem_singleton.1 hw, hkernel] at hkernel'
  cases hkernel'
  rfl

/-- The kernel wrapper includes a file that is not there. -/
def brokenFiles : FileStore :=
  ⟨#[{ sources := [(VirtualPath.kernelWrapper, "#include \"/missing.wgsl\"\n")] }]⟩

theorem reachable_brokenFiles : brokenFiles.Reachable :=
  .single (by decide) "#include \"/missing.wgsl\"\n"

/-- Another kernel is at the position of the first one. -/
def replacedGraph : Graph :=
  { entryGraph "Main" with kernels := [some ⟨"B", some (entrySource "Other")⟩] }

theorem not_digest_brokenFiles {d : Digest} :
    (brokenFiles.digest 0 VirtualPath.kernelWrapper "mock").1 ≠ .ok d := by
  intro hdigest
  have hcurrent : brokenFiles.Current 0 := Lru.holds_empty _
  obtain ⟨text, ds, htext, hds, _⟩ :=
    FileStore.hasDigest_iff.1 (hcurrent.digest_eq_ok_iff.1 hdigest)
  have hsource : brokenFiles.source? 0 VirtualPath.kernelWrapper =
      some "#include \"/missing.wgsl\"\n" := FileStore.source?_of_lookup rfl
  cases htext.symm.trans hsource
  have hincluded : "/missing.wgsl" ∈ FileStore.included "#include \"/missing.wgsl\"\n" := by
    decide
  obtain ⟨_, hincluded⟩ := FileStore.forall₂_exists hds hincluded
  obtain ⟨_, _, hmissing, _⟩ := FileStore.hasDigest_iff.1 hincluded
  have hnone : brokenFiles.source? 0 "/missing.wgsl" = none := by
    rw [FileStore.source?]
    rfl
  cases hmissing.symm.trans hnone

/-- It cannot be built. -/
theorem build_replacedGraph : ∃ name e,
    (replacedGraph.build brokenFiles 0 0 .wgsl "mock").result = .error (.wrapper name e) := by
  cases hdigest : (brokenFiles.digest 0 VirtualPath.kernelWrapper "mock").1 with
  | error e =>
    exact ⟨_, e, Graph.build_of_digest_error (le_refl 0) Int.one_pos rfl rfl hdigest⟩
  | ok d => exact absurd hdigest not_digest_brokenFiles

section
variable (rest : Session) (p : Program) (result : CompileResult)

/-- The kernel was replaced after the first update, and the wrapper does not work any more. -/
def replacedCompiled : Session :=
  { (entryCompiled rest p result "Main" 1).edit 0 fun _ => replacedGraph with files := brokenFiles }

/-- The second update. -/
def replacedEdition : Edition := (replacedCompiled rest p result).edition 0 true

theorem builds_replacedEdition : ∃ name e,
    (replacedEdition rest p result).builds = [(0, .error (.wrapper name e))] := by
  obtain ⟨name, e, hbuild⟩ := build_replacedGraph
  have hbuilds : (replacedEdition rest p result).builds =
      [(0, (replacedGraph.build brokenFiles 0 0 .wgsl "mock").result)] := rfl
  rw [hbuilds, hbuild]
  exact ⟨name, e, rfl⟩

variable {rest p result}

/-- In the second update the new kernel keeps the program of the old one. -/
theorem exists_replaced (h : EditRun [entryEdition] (entryCompiled rest p result "Main" 1)) :
    ∃ s x v, EditRun [entryEdition, replacedEdition rest p result] s ∧ x ∈ s.proxies ∧
      v ∈ x.invocations ∧ v.program = some p ∧ v.name = "B" := by
  have hexists : 0 < (entryCompiled rest p result "Main" 1).graphs.size := Nat.one_pos
  have hreplaced : EditRun [entryEdition] (replacedCompiled rest p result) :=
    .step (.files fun _ => brokenFiles) rfl (.of_files reachable_brokenFiles)
      (.step (.edit 0 fun _ => replacedGraph) rfl (.edit hexists) h)
  have hg : 0 < (replacedCompiled rest p result).graphs.size := Nat.one_pos
  have haccepts : (replacedCompiled rest p result).accepts 0 = true := rfl
  have hslot : (replacedCompiled rest p result).slotProgram 0 0 = some p := rfl
  have hupdated := EditRun.step (.update 0 true) rfl (.update hg rfl) hreplaced
  rw [Action.editions_update haccepts] at hupdated
  obtain ⟨name, e, hbuilds⟩ : ∃ name e, (replacedCompiled rest p result).updateBuilds 0 =
      [(0, .error (.wrapper name e))] := builds_replacedEdition rest p result
  obtain ⟨t, q, others, calls, s', x, hu⟩ := hreplaced.run.updated hg haccepts Nat.one_pos
    hreplaced.filled.held fun k e' hmem => by
      rw [hbuilds] at hmem
      cases List.mem_singleton.1 hmem
  obtain ⟨v, hinvocations, hv⟩ := List.map_eq_singleton_iff.1 hu.map_name
  obtain ⟨hkernel, hname⟩ := Prod.mk.inj hv
  have hmem : v ∈ x.invocations := hinvocations ▸ List.mem_singleton_self v
  have hs' : (Action.update 0 true).apply (replacedCompiled rest p result) = s' :=
    congrArg Prod.snd hu.update
  rw [hs'] at hupdated
  refine ⟨s', x, v, hupdated, hu.mem_proxies, hmem, ?_, hname⟩
  rw [hu.program_of_error hreplaced.run hg haccepts rfl hmem
    (by rw [hkernel, hbuilds]; exact List.mem_singleton_self _), hkernel]
  exact hslot

end

/-- A published program does not always come from an update that has built the kernel that shows
    it. -/
theorem not_own_program : ¬ ∀ (H : List Edition) (s : Session) (x : RenderProxy) (v : Invocation)
    (p : Program), EditRun H s → x ∈ s.proxies → v ∈ x.invocations → v.program = some p →
    ∃ u ∈ H, u.graph = x.graph ∧ u.generation ≤ x.generation ∧ ∃ k kernel b,
      u.definition.kernel? (k : Nat) = some kernel ∧ kernel.name = v.name ∧
      (k, .ok b) ∈ u.builds ∧ b.hashKey = p.hashKey := by
  intro h
  obtain ⟨rest, p, result, _, hcompiled⟩ := exists_entryCompiled
  have hrun := editRun_entryStart
  rw [hcompiled] at hrun
  obtain ⟨s, x, v, hreplaced, hx, hv, hp, hname⟩ := exists_replaced hrun
  obtain ⟨u, hu, _, _, k, kernel, b, hkernel, hkernelName, hbuilt, _⟩ :=
    h _ s x v p hreplaced hx hv hp
  rcases List.mem_cons.1 hu with rfl | hu
  · -- the first update has built the kernel "A" only
    have hbuilds : entryEdition.builds = [(0, .ok (entryBuild "Main"))] := updateBuilds_entryStart
    rw [hbuilds] at hbuilt
    cases List.mem_singleton.1 hbuilt
    have hentry : entryEdition.definition.kernel? (0 : Nat) = some (entryKernel "Main") := rfl
    rw [hentry] at hkernel
    cases hkernel
    rw [hname] at hkernelName
    exact absurd hkernelName (by decide)
  · -- the second one has built nothing
    cases List.mem_singleton.1 hu
    obtain ⟨_, _, hbuilds⟩ := builds_replacedEdition rest p result
    rw [hbuilds] at hbuilt
    cases List.mem_singleton.1 hbuilt

end KernelGraph.Session
