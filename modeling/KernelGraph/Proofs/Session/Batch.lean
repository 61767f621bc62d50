/-
  Compiling the jobs of an update.

  The jobs of a synchronous update are the only ones that the workers have.  Nobody cancels them,
  and all of them ask for programs of one format, so that every job comes back with the program of
  its own build or with a failure.  `Progress` says where such a batch stands: the jobs to come and
  those in the pools are the ones that resources wait for, and every other one has called the hook
  once. The plan is published with the last one.  When the workers are idle nothing is left to wait
  for.
-/
import KernelGraph.Proofs.Session.Slots
import KernelGraph.Proofs.Session.Taking

namespace KernelGraph

namespace Session

/-! ## Hook calls -/

/-- What the hook was called with for a kernel. -/
def hookResults (calls : List HookCall) (g k : Nat) : List CompileResult :=
  (calls.filter fun c => c.graph = g && c.kernel = k).map HookCall.result

theorem hookResults_append (calls calls' : List HookCall) (g k : Nat) :
    hookResults (calls ++ calls') g k = hookResults calls g k ++ hookResults calls' g k := by
  unfold hookResults
  rw [List.filter_append, List.map_append]

theorem hookResults_self (g k : Nat) (r : CompileResult) : hookResults [⟨g, k, r⟩] g k = [r] := by
  simp [hookResults]

theorem hookResults_eq_nil {calls : List HookCall} {g k : Nat}
    (h : ∀ c ∈ calls, c.graph = g → c.kernel ≠ k) : hookResults calls g k = [] := by
  unfold hookResults
  rw [List.map_eq_nil_iff, List.filter_eq_nil_iff]
  intro c hc
  simpa using h c hc

/-! ## Published plans -/

section
variable {s s' : Session} {g : Nat} {plan : Plan} {shown : Array RenderProxy} {x : RenderProxy}

/-- The plan is published, and its proxy shows the programs that the slots hold.  The other proxies
    are those that were shown before, some of them released. -/
structure Presents (s : Session) (g : Nat) (plan : Plan) (shown : Array RenderProxy)
    (x : RenderProxy) : Prop where
  published : (s.graph g).published = plan.generation
  proxy : ∃ i, (s.graph g).proxy = some i ∧ s.proxies[i]? = some x
  graph : x.graph = g
  name : x.graphName = (s.graph g).definition.name
  generation : x.generation = plan.generation
  once : s.publications = (shown.toList.map fun y => (y.graph, y.generation)) ++
    [(g, plan.generation)]
  invocations : x.invocations = (s.planProxy g plan).invocations
  others : ∀ y ∈ s.proxies, y = x ∨ ∃ z ∈ shown, y = { z with released := y.released }

theorem currentProgram_congr (hsets : (s'.graph g).sets = (s.graph g).sets)
    (hresources : s'.resources = s.resources) (k : Nat) (level : FeatureLevel) :
    s'.currentProgram g k level = s.currentProgram g k level := by
  unfold Session.currentProgram Session.resource
  rw [hsets, hresources]

theorem Presents.congr (h : s.Presents g plan shown x) (hgraph : s'.graph g = s.graph g)
    (hproxies : s'.proxies = s.proxies) (hresources : s'.resources = s.resources) :
    s'.Presents g plan shown x where
  published := by
    rw [hgraph]
    exact h.published
  proxy := by
    rw [hgraph, hproxies]
    exact h.proxy
  graph := h.graph
  name := by
    rw [hgraph]
    exact h.name
  generation := h.generation
  once := by
    unfold publications
    rw [hproxies]
    exact h.once
  invocations := by
    rw [h.invocations, planProxy, planProxy]
    refine List.map_congr_left fun v _ => ?_
    rw [currentProgram_congr (by rw [hgraph]) hresources]
  others := by
    rw [hproxies]
    exact h.others

theorem Presents.publishedGenerations_eq {B : Session} (h : s.Presents g plan B.proxies x) :
    s.publishedGenerations g = B.publishedGenerations g ++ [plan.generation] := by
  unfold publishedGenerations
  rw [h.once, List.filter_append, List.map_append]
  simp [publications]

theorem graph_publish_of_lt (hg : g < s.graphs.size)
    (hlt : (s.graph g).published < plan.generation) : (s.publish g plan).graph g =
      { s.graph g with published := plan.generation, proxy := some s.proxies.size } := by
  rw [publish_of_lt hlt]
  have hgraph := graph_modifyGraph s g (fun x =>
    { x with published := plan.generation, proxy := some s.proxies.size }) g
  rw [if_pos ⟨rfl, hg⟩] at hgraph
  exact hgraph

theorem resources_publish (s : Session) (g : Nat) (plan : Plan) :
    (s.publish g plan).resources = s.resources := by
  by_cases hlt : (s.graph g).published < plan.generation
  · rw [publish_of_lt hlt]
  · rw [publish_of_le (Nat.not_lt.1 hlt)]

/-- The proxies after one was added to those that were shown, and one of them may have been
    released. -/
theorem exists_pushed {ps : Array RenderProxy} {a : RenderProxy}
    (h : ps = shown.push a ∨
      ∃ i : Nat, ps = (shown.push a).modify i fun x => { x with released := true }) :
    ∃ x, ps[shown.size]? = some x ∧ x = { a with released := x.released } ∧
      ∀ y ∈ ps, y = x ∨ ∃ z ∈ shown, y = { z with released := y.released } := by
  rcases h with rfl | ⟨i, rfl⟩
  · refine ⟨a, Array.getElem?_push_size, rfl, fun y hy => ?_⟩
    rcases Array.mem_push.1 hy with hy | hy
    · exact Or.inr ⟨y, hy, rfl⟩
    · exact Or.inl hy
  · have hlast : (((shown.push a).modify i fun x => { x with released := true })[shown.size]?) =
        some (if i = shown.size then { a with released := true } else a) := by
      rw [Array.getElem?_modify, Array.getElem?_push_size]
      split
      · rfl
      · rfl
    refine ⟨_, hlast, ?_, fun y hy => ?_⟩
    · split
      · rfl
      · rfl
    · obtain ⟨k, hk⟩ := Array.mem_iff_getElem?.1 hy
      by_cases hlt : k = shown.size
      · subst hlt
        rw [hlast] at hk
        exact Or.inl (Option.some.inj hk).symm
      · rw [Array.getElem?_modify, Array.getElem?_push, if_neg hlt] at hk
        split at hk
        · obtain ⟨z, hz, rfl⟩ := Option.map_eq_some_iff.1 hk
          exact Or.inr ⟨z, Array.mem_of_getElem? hz, rfl⟩
        · exact Or.inr ⟨y, Array.mem_of_getElem? hk, rfl⟩

/-- **Publishing** a plan presents it. -/
theorem presents_publish (hg : g < s.graphs.size)
    (hlt : (s.graph g).published < plan.generation) :
    ∃ x, (s.publish g plan).Presents g plan s.proxies x := by
  have hgraph := graph_publish_of_lt hg hlt
  obtain ⟨x, hx, hsame, hothers⟩ := exists_pushed
    ((proxies_publish_of_lt hlt).imp_right fun ⟨i, _, hi⟩ => ⟨i, hi⟩)
  refine ⟨x, by rw [hgraph], ⟨s.proxies.size, by rw [hgraph], hx⟩, by rw [hsame]; rfl,
    by rw [hsame, hgraph]; rfl, by rw [hsame]; rfl, publications_publish_of_lt hlt, ?_, hothers⟩
  rw [hsame, planProxy, planProxy]
  refine List.map_congr_left fun v _ => ?_
  rw [currentProgram_congr (s := s) (by rw [hgraph]) (resources_publish s g plan)]

end

/-! ## A job comes back -/

section
variable {s s' : Session} {g : Nat} {plan : Plan} {j : Job} {program : Option Program}
  {r : CompileResult}

/-- A current job has come back: its resource has finished, its kernel is not outstanding any more,
    the hook was called, and the plan is published with the last one. -/
structure Settled (s : Session) (j : Job) (plan : Plan) (program : Option Program)
    (r : CompileResult) (s' : Session) : Prop where
  mine : s'.resource j.resource = { s.resource j.resource with
    task := none
    result := r
    program := if r.success then program else (s.resource j.resource).program
    state := if r.success then .compiled else .failed }
  others : ∀ i ≠ j.resource, s'.resource i = s.resource i
  size : s'.resources.size = s.resources.size
  hooks : s'.hooks = s.hooks ++ [⟨j.graph, j.kernel, r⟩]
  pending : (s'.graph j.graph).pending = (s.graph j.graph).pending.filter (· ≠ j.kernel)
  kept : (s'.graph j.graph).pending ≠ [] →
    (s'.graph j.graph).published = (s.graph j.graph).published ∧ s'.proxies = s.proxies
  presents : (s'.graph j.graph).pending = [] → (s.graph j.graph).published < plan.generation →
    ∃ x, s'.Presents j.graph plan s.proxies x

/-- What settling a graph does to it. -/
theorem settle_cases (plan : Plan) (hg : g < s.graphs.size) :
    ((s.settle g plan).graph g).pending = (s.graph g).pending ∧
      ((s.graph g).pending ≠ [] → s.settle g plan = s) ∧
      ((s.graph g).pending = [] → (s.graph g).published < plan.generation →
        ∃ x, (s.settle g plan).Presents g plan s.proxies x) := by
  unfold Session.settle
  by_cases hempty : (s.graph g).pending.isEmpty = true
  · rw [if_pos hempty]
    refine ⟨?_, fun h => absurd (List.isEmpty_iff.1 hempty) h, fun _ hlt => presents_publish hg hlt⟩
    by_cases hlt : (s.graph g).published < plan.generation
    · rw [graph_publish_of_lt hg hlt]
    · rw [publish_of_le (Nat.not_lt.1 hlt)]
  · rw [if_neg hempty]
    exact ⟨rfl, fun _ => rfl, fun hnil => absurd (List.isEmpty_iff.2 hnil) hempty⟩

/-- **A job that its resource waits for comes back** while its update is the newest. -/
theorem Comes.settled {n : Nat} {returned : Except (CallError ProgramError) (Program × Bool)}
    (hc : Comes s j returned s') (hawaits : s.Awaits j) (hkind : j.kind = .runtime n plan)
    (hn : n = (s.graph j.graph).generation)
    (hresult : jobResult j (s.resource j.resource).level returned = some (program, r))
    (hg : j.graph < s.graphs.size) (hlt : j.resource < s.resources.size) :
    Settled s j plan program r s' := by
  cases hc with
  | ignored hnot _ => exact absurd hawaits hnot
  | abandoned _ hnone _ =>
    rw [hresult] at hnone
    cases hnone
  | cooked _ hcook _ _ =>
    rw [hkind] at hcook
    cases hcook
  | stale _ hkind' hne _ =>
    rw [hkind] at hkind'
    cases hkind'
    exact absurd hn hne
  | @current n' plan' program' r' t _ hkind' _ hresult' ht hs =>
    rw [hkind] at hkind'
    cases hkind'
    rw [hresult] at hresult'
    cases hresult'
    -- in `t` the resource has finished and the kernel is not outstanding any more
    have hgraph : t.graph j.graph = { s.graph j.graph with
        pending := (s.graph j.graph).pending.filter (· ≠ j.kernel) } := by
      have hmodified := graph_modifyGraph
        (s.modifyResource j.resource fun x => (x.finish n program r).2) j.graph
        (fun x => { x with pending := x.pending.filter (· ≠ j.kernel) }) j.graph
      rw [if_pos ⟨rfl, hg⟩] at hmodified
      obtain ⟨_, _, _, rfl⟩ := ht
      exact hmodified
    obtain ⟨hresource, hsize, hgraphs, hproxies, hhooks⟩ : (∀ i, t.resource i =
        (s.modifyResource j.resource fun x => (x.finish n program r).2).resource i) ∧
        t.resources.size = s.resources.size ∧ j.graph < t.graphs.size ∧
        t.proxies = s.proxies ∧ t.hooks = s.hooks := by
      obtain ⟨_, _, _, rfl⟩ := ht
      exact ⟨fun _ => rfl, Array.size_modify,
        Nat.lt_of_lt_of_eq hg Array.size_modify.symm, rfl, rfl⟩
    obtain ⟨hsettled, _, _, hsettledHooks⟩ := settle_fields t j.graph plan
    obtain ⟨hpending, hkept, hpresents⟩ := settle_cases plan hgraphs
    have hmark : j.generation = n := by rw [Job.generation, hkind]
    have hresource' : ∀ i, s'.resource i = t.resource i := fun i => by
      obtain ⟨_, _, _, rfl⟩ := hs
      rw [Session.resource, Session.resource, ← hsettled]
      rfl
    have hpending' : (s'.graph j.graph).pending = (t.graph j.graph).pending := by
      obtain ⟨_, _, _, rfl⟩ := hs
      exact hpending
    refine ⟨?_, fun i hi => ?_, ?_, ?_, ?_, fun h => ?_, fun hnil hlt => ?_⟩
    · rw [hresource', hresource, resource_modifyResource,
        if_pos ⟨rfl, hlt⟩, Resource.finish, if_pos]
      rw [Bool.and_eq_true]
      exact ⟨decide_eq_true (hawaits.1.trans hmark), decide_eq_true hawaits.2⟩
    · rw [hresource', hresource, resource_modifyResource, if_neg fun h => hi h.1.symm]
    · obtain ⟨_, _, _, rfl⟩ := hs
      exact (congrArg Array.size hsettled).trans hsize
    · obtain ⟨_, _, _, rfl⟩ := hs
      exact congrArg (· ++ _) (hsettledHooks.trans hhooks)
    · rw [hpending', hgraph]
    · rw [hpending'] at h
      have hsame := hkept h
      obtain ⟨_, _, _, rfl⟩ := hs
      refine ⟨?_, ?_⟩
      · show ((t.settle j.graph plan).graph j.graph).published = _
        rw [hsame, hgraph]
      · show (t.settle j.graph plan).proxies = _
        rw [hsame, hproxies]
    · rw [hpending'] at hnil
      have hlt' : (t.graph j.graph).published < plan.generation := by
        rw [hgraph]
        exact hlt
      obtain ⟨x, hx⟩ := hpresents hnil hlt'
      rw [hproxies] at hx
      obtain ⟨_, _, _, rfl⟩ := hs
      exact ⟨x, hx.congr rfl rfl rfl⟩

/-- Only resources, graphs, proxies and hook calls matter. -/
theorem Settled.of_eq {s₁ : Session} (h : Settled s₁ j plan program r s')
    (hresources : s₁.resources = s.resources) (hgraphs : s₁.graphs = s.graphs)
    (hproxies : s₁.proxies = s.proxies) (hhooks : s₁.hooks = s.hooks) :
    Settled s j plan program r s' := by
  have hresource : ∀ i, s₁.resource i = s.resource i := fun i => by
    rw [Session.resource, Session.resource, hresources]
  have hgraph :
      ∀ i, s₁.graph i = s.graph i := fun i => by rw [Session.graph, Session.graph, hgraphs]
  obtain ⟨hmine, hothers, hsize, hcalls, hpending, hkept, hpresents⟩ := h
  simp only [hresource, hgraph, hresources, hproxies, hhooks] at *
  exact ⟨hmine, hothers, hsize, hcalls, hpending, hkept, hpresents⟩

theorem Settled.level (h : Settled s j plan program r s') (i : Nat) :
    (s'.resource i).level = (s.resource i).level := by
  by_cases hi : i = j.resource
  · rw [hi, h.mine]
  · rw [h.others i hi]

/-- Its resource does not wait for the job any more. -/
theorem Settled.not_awaits (h : Settled s j plan program r s') : ¬ s'.Awaits j := by
  unfold Awaits
  rw [h.mine]
  rintro ⟨_, hstate⟩
  dsimp only at hstate
  split at hstate
  · cases hstate
  · cases hstate

end

/-! ## Batches -/

/-- The size of the permutation space of one of the builds is below zero. -/
def Negative (J : List Job) : Prop := ∃ j ∈ J, j.build.permutations.count < 0

/-- What a batch may come to for a key: a program that was cached when the batch began, or what one
    of its jobs compiles to. -/
inductive Stems (B : Session) (J : List Job) : ProgramKey → Except ProgramError Program → Prop
  | cached {key : ProgramKey} {p : Program} (h : B.cache.programs.value? key = some p) :
      Stems B J key (.ok p)
  | compiled {j : Job} (hj : j ∈ J) : Stems B J (jobKey j) (B.compileJob j).1

theorem Stems.congr {B B' : Session} {J : List Job} {key : ProgramKey}
    {outcome : Except ProgramError Program} (h : Stems B J key outcome)
    (hcache : B'.cache = B.cache) (hcompiles : ∀ j, B'.compileJob j = B.compileJob j) :
    Stems B' J key outcome := by
  cases h with
  | cached h => exact .cached (by rw [hcache]; exact h)
  | @compiled j hj => exact hcompiles j ▸ .compiled hj

/-- What the program cache returns for the jobs of a batch: a program with the key that was asked
    for, or a failure, which is not a cancellation. -/
def Delivered (B : Session) (J : List Job) (key : ProgramKey) :
    Except (CallError ProgramError) (Program × Bool) → Prop
  | .ok (p, _) => p.hashKey = key.hashKey ∧ Stems B J key (.ok p)
  | .error .cancelled => False
  | .error (.failed e) =>
    e.isCancelled = false ∧ (e = .negativeCount → Negative J) ∧ Stems B J key (.error e)

/-- What a job of a batch makes of it. -/
inductive Returns (B : Session) (J : List Job) (j : Job) (program : Option Program)
    (r : CompileResult) : Prop
  | compiled {p : Program} (hsuccess : r.success = true) (hprogram : program = some p)
      (hkey : p.hashKey = j.build.hashKey) (hstems : Stems B J (jobKey j) (.ok p))
  | failed {e : ProgramError} (hfailure : r.success = false) (herror : r.error = some (.program e))
      (hnegative : e = .negativeCount → Negative J) (hstems : Stems B J (jobKey j) (.error e))

/-- Jobs that an update is about to submit, to idle workers. -/
structure Batch (B : Session) (g : Nat) (plan : Plan) (J : List Job) : Prop where
  exists_graph : g < B.graphs.size
  graph : ∀ j ∈ J, j.graph = g
  kind : ∀ j ∈ J, j.kind = .runtime plan.generation plan
  format : ∀ j ∈ J, j.format = (B.graph g).options.format
  compiler : (B.compiler? (B.graph g).options.format).isSome = true
  kernels : (J.map Job.kernel).Nodup
  resource : ∀ j ∈ J, j.resource < B.resources.size
  apart : ∀ j ∈ J, ∀ j' ∈ J, j.resource = j'.resource → j.kernel = j'.kernel
  awaits : ∀ j ∈ J, B.Awaits j
  current : (B.graph g).generation = plan.generation
  pending : (B.graph g).pending = J.map Job.kernel
  unpublished : (B.graph g).published < plan.generation
  wired : B.Wired
  held : B.held = false
  live : B.live = []

/-- A job has come back with a result. -/
inductive Finished (B s : Session) (J : List Job) (j : Job) (result : CompileResult) : Prop
  | compiled {p : Program} (hsuccess : result.success = true)
      (hstate : (s.resource j.resource).state = .compiled)
      (hprogram : (s.resource j.resource).program = some p) (hkey : p.hashKey = j.build.hashKey)
      (hstems : Stems B J (jobKey j) (.ok p))
  | failed {e : ProgramError} (hfailure : result.success = false)
      (hstate : (s.resource j.resource).state = .failed)
      (hprogram : (s.resource j.resource).program = (B.resource j.resource).program)
      (herror : result.error = some (.program e)) (hnegative : e = .negativeCount → Negative J)
      (hstems : Stems B J (jobKey j) (.error e))

/-- Where the jobs of a batch are: `todo` are to come, and the others that resources wait for are in
    pools. -/
structure Placed (B : Session) (g : Nat) (J todo : List Job) (s : Session) : Prop where
  ahead : ∀ j ∈ todo, j ∈ J ∧ s.Awaits j
  tasks : ∀ id ∈ s.live, ∃ t, s.tasks[id]? = some t ∧ t.cancelled = false ∧ t.job ∈ J ∧
    t.job ∉ todo ∧ s.Awaits t.job
  unique : ∀ id ∈ s.live, ∀ id' ∈ s.live, ∀ t t', s.tasks[id]? = some t →
    s.tasks[id']? = some t' → t.job = t'.job → id = id'
  queued : (B.graph g).options.pool < B.pools.size → ∀ j ∈ J, s.Awaits j → j ∈ todo ∨
    ∃ id ∈ s.live, ∃ t, s.tasks[id]? = some t ∧ t.job = j

/-- What has become of the jobs of a batch; `calls` are the hook calls so far. -/
structure Outcomes (B : Session) (g : Nat) (plan : Plan) (J : List Job) (calls : List HookCall)
    (s : Session) : Prop where
  level : ∀ r, (s.resource r).level = (B.resource r).level
  other : ∀ r, (∀ j ∈ J, j.resource ≠ r) → s.resource r = B.resource r
  waiting : ∀ j ∈ J, s.Awaits j →
    (s.resource j.resource).program = (B.resource j.resource).program ∧
      hookResults calls g j.kernel = []
  finished : ∀ j ∈ J, ¬ s.Awaits j → ∃ result, hookResults calls g j.kernel = [result] ∧
    Finished B s J j result
  pending : ∀ k, k ∈ (s.graph g).pending ↔ ∃ j ∈ J, j.kernel = k ∧ s.Awaits j
  hooks : s.hooks = B.hooks ++ calls
  kernels : ∀ c ∈ calls, c.graph = g ∧ c.kernel ∈ J.map Job.kernel
  published : ((s.graph g).published < plan.generation ∧ s.proxies = B.proxies ∧
      (J = [] ∨ ∃ j ∈ J, s.Awaits j)) ∨
    (∀ j ∈ J, ¬ s.Awaits j) ∧ ∃ x, s.Presents g plan B.proxies x

/-- Where a batch stands. -/
structure Progress (B : Session) (g : Nat) (plan : Plan) (J todo : List Job)
    (calls : List HookCall) (s : Session) : Prop
    extends Placed B g J todo s, Outcomes B g plan J calls s where
  wired : s.Wired
  steady : B.Steady s
  size : s.resources.size = B.resources.size
  pools : B.pools.size ≤ s.pools.size
  fresh : ∀ id t, s.tasks[id]? = some t → id < B.tasks.size ∨ t.job ∈ J
  clean : s.cache.Clean (Delivered B J)

section
variable {B s s' : Session} {g p : Nat} {plan : Plan} {J todo : List Job} {calls : List HookCall}

theorem Batch.eq_of_kernel (hB : Batch B g plan J) {j j' : Job} (hj : j ∈ J) (hj' : j' ∈ J)
    (h : j.kernel = j'.kernel) : j = j' :=
  List.inj_on_of_nodup_map hB.kernels hj hj' h

theorem Batch.eq_of_resource (hB : Batch B g plan J) {j j' : Job} (hj : j ∈ J) (hj' : j' ∈ J)
    (h : j.resource = j'.resource) : j = j' :=
  hB.eq_of_kernel hj hj' (hB.apart j hj j' hj' h)

/-- At the start all jobs are to come. -/
theorem Batch.progress (hB : Batch B g plan J) : Progress B g plan J J [] B where
  ahead j hj := ⟨hj, hB.awaits j hj⟩
  tasks id hid := by
    rw [hB.live] at hid
    cases hid
  unique id hid := by
    rw [hB.live] at hid
    cases hid
  queued _ j hj _ := Or.inl hj
  level _ := rfl
  other _ _ := rfl
  waiting _ _ _ := ⟨rfl, rfl⟩
  finished j hj hnot := absurd (hB.awaits j hj) hnot
  pending k := by
    rw [hB.pending, List.mem_map]
    constructor
    · rintro ⟨j, hj, rfl⟩
      exact ⟨j, hj, rfl, hB.awaits j hj⟩
    · rintro ⟨j, hj, rfl, _⟩
      exact ⟨j, hj, rfl⟩
  hooks := (List.append_nil _).symm
  kernels c hc := by cases hc
  published := by
    refine Or.inl ⟨hB.unpublished, rfl, (em (J = [])).imp_right fun hne => ?_⟩
    obtain ⟨j, hj⟩ := List.exists_mem_of_ne_nil J hne
    exact ⟨j, hj, hB.awaits j hj⟩
  wired := hB.wired
  steady := .refl B
  size := rfl
  pools := Nat.le_refl _
  fresh id t ht := Or.inl (Array.getElem?_eq_some_iff.1 ht).1
  clean := by
    refine ⟨fun x hx => ?_, hB.wired.programs.of_value? fun k p hp =>
      ⟨hB.wired.programs.value? hp, .cached hp⟩⟩
    rw [(hB.wired.calls_eq_nil hB.live).1] at hx
    cases hx

/-- Nothing is outstanding when every job has come back. -/
theorem Outcomes.pending_eq_nil_iff (h : Outcomes B g plan J calls s) :
    (s.graph g).pending = [] ↔ ∀ j ∈ J, ¬ s.Awaits j := by
  rw [List.eq_nil_iff_forall_not_mem]
  constructor
  · exact fun hnone j hj ha => hnone j.kernel ((h.pending _).2 ⟨j, hj, rfl, ha⟩)
  · intro hover k hk
    obtain ⟨j, hj, _, ha⟩ := (h.pending k).1 hk
    exact hover j hj ha

/-! ### Nothing comes back -/

theorem awaits_congr {j : Job}
    (hstate : (s'.resource j.resource).state = (s.resource j.resource).state)
    (hgeneration : (s'.resource j.resource).generation = (s.resource j.resource).generation) :
    s'.Awaits j ↔ s.Awaits j := by
  unfold Awaits
  rw [hstate, hgeneration]

theorem Finished.congr {j : Job} {result : CompileResult} (h : Finished B s J j result)
    (hstate : (s'.resource j.resource).state = (s.resource j.resource).state)
    (hprogram : (s'.resource j.resource).program = (s.resource j.resource).program) :
    Finished B s' J j result := by
  cases h with
  | compiled hsuccess hcompiled hp hkey hstems =>
    exact .compiled hsuccess (hstate.trans hcompiled) (hprogram.trans hp) hkey hstems
  | failed hfailure hfailed hp herror hnegative hstems =>
    exact .failed hfailure (hstate.trans hfailed) (hprogram.trans hp) herror hnegative hstems

/-- The resources of the jobs may learn their tasks. -/
theorem Outcomes.congr (h : Outcomes B g plan J calls s)
    (hresource : ∀ j ∈ J, (s'.resource j.resource).state = (s.resource j.resource).state ∧
      (s'.resource j.resource).generation = (s.resource j.resource).generation ∧
      (s'.resource j.resource).program = (s.resource j.resource).program)
    (hlevel : ∀ r, (s'.resource r).level = (s.resource r).level)
    (hother : ∀ r, (∀ j ∈ J, j.resource ≠ r) → s'.resource r = s.resource r)
    (hgraph : s'.graph g = s.graph g) (hproxies : s'.proxies = s.proxies)
    (hhooks : s'.hooks = s.hooks)
    (hresources : (∀ j ∈ J, ¬ s.Awaits j) → s'.resources = s.resources) :
    Outcomes B g plan J calls s' := by
  have hawaits : ∀ j ∈ J, (s'.Awaits j ↔ s.Awaits j) := fun j hj =>
    awaits_congr (hresource j hj).1 (hresource j hj).2.1
  refine ⟨fun r => (hlevel r).trans (h.level r), fun r hr => (hother r hr).trans (h.other r hr),
    fun j hj ha => ?_, fun j hj ha => ?_, fun k => ?_, hhooks.trans h.hooks, h.kernels, ?_⟩
  · rw [(hresource j hj).2.2]
    exact h.waiting j hj ((hawaits j hj).1 ha)
  · obtain ⟨result, hcalls, hfinished⟩ := h.finished j hj fun h => ha ((hawaits j hj).2 h)
    exact ⟨result, hcalls, hfinished.congr (hresource j hj).1 (hresource j hj).2.2⟩
  · rw [hgraph, h.pending k]
    constructor
    · rintro ⟨j, hj, hk, ha⟩
      exact ⟨j, hj, hk, (hawaits j hj).2 ha⟩
    · rintro ⟨j, hj, hk, ha⟩
      exact ⟨j, hj, hk, (hawaits j hj).1 ha⟩
  · rw [hgraph, hproxies]
    rcases h.published with ⟨hlt, hsame, hsome⟩ | ⟨hall, x, hx⟩
    · refine Or.inl ⟨hlt, hsame, hsome.imp_right ?_⟩
      rintro ⟨j, hj, ha⟩
      exact ⟨j, hj, (hawaits j hj).2 ha⟩
    · refine Or.inr ?_
      exact ⟨fun j hj ha => hall j hj ((hawaits j hj).1 ha), x,
        hx.congr hgraph hproxies (hresources hall)⟩

theorem Outcomes.of_eq (h : Outcomes B g plan J calls s) (hresources : s'.resources = s.resources)
    (hgraphs : s'.graphs = s.graphs) (hproxies : s'.proxies = s.proxies)
    (hhooks : s'.hooks = s.hooks) : Outcomes B g plan J calls s' := by
  have hresource : ∀ r, s'.resource r = s.resource r := fun r => by
    rw [Session.resource, Session.resource, hresources]
  refine h.congr (fun j _ => ?_) (fun r => ?_) (fun r _ => hresource r) ?_ hproxies hhooks
    fun _ => hresources
  · rw [hresource]
    exact ⟨rfl, rfl, rfl⟩
  · rw [hresource]
  · rw [Session.graph, Session.graph, hgraphs]

/-- The pools hold the tasks that they held. -/
theorem Placed.congr (h : Placed B g J todo s) (hawaits : ∀ j, s'.Awaits j ↔ s.Awaits j)
    (htasks : ∀ id ∈ s.live, s'.tasks[id]? = s.tasks[id]?)
    (hlive : ∀ id, id ∈ s'.live ↔ id ∈ s.live) : Placed B g J todo s' where
  ahead := by
    simp only [hawaits]
    exact h.ahead
  tasks id hid := by
    rw [hlive] at hid
    rw [htasks id hid]
    simp only [hawaits]
    exact h.tasks id hid
  unique id hid id' hid' := by
    rw [hlive] at hid hid'
    rw [htasks id hid, htasks id' hid']
    exact h.unique id hid id' hid'
  queued hp j hj ha := by
    refine (h.queued hp j hj ((hawaits j).1 ha)).imp_right ?_
    rintro ⟨id, hid, t, ht, hjob⟩
    exact ⟨id, (hlive id).2 hid, t, (htasks id hid).trans ht, hjob⟩

/-- The workers go on without a job coming back. -/
theorem Progress.quiet (h : Progress B g plan J todo calls s) (hwired : s'.Wired)
    (hsteady : B.Steady s') (hclean : s'.cache.Clean (Delivered B J))
    (hresources : s'.resources = s.resources) (hgraphs : s'.graphs = s.graphs)
    (hproxies : s'.proxies = s.proxies) (hhooks : s'.hooks = s.hooks)
    (htasks : ∀ id ∈ s.live, s'.tasks[id]? = s.tasks[id]?)
    (hjobs : s'.tasks.map CompileTask.job = s.tasks.map CompileTask.job)
    (hlive : ∀ id, id ∈ s'.live ↔ id ∈ s.live) (hpools : s.pools.size ≤ s'.pools.size) :
    Progress B g plan J todo calls s' := by
  have hawaits : ∀ j, s'.Awaits j ↔ s.Awaits j := fun j => by
    unfold Awaits Session.resource
    rw [hresources]
  refine ⟨h.toPlaced.congr hawaits htasks hlive,
    h.toOutcomes.of_eq hresources hgraphs hproxies hhooks, hwired, hsteady,
    by rw [hresources]; exact h.size, Nat.le_trans h.pools hpools, fun id t' ht' => ?_, hclean⟩
  obtain ⟨t, ht, heq⟩ := exists_task_of_map_job hjobs ht'
  rw [heq]
  exact h.fresh id t ht

/-! ### What the program cache returns -/

/-- A caller of the program cache is a job of the batch. -/
theorem Progress.call (h : Progress B g plan J todo calls s) {x : Call Program ProgramError}
    (hx : x ∈ s.cache.calls) : ∃ t, s.tasks[x.id]? = some t ∧ t.cancelled = false ∧ t.job ∈ J ∧
      x.key = jobKey t.job := by
  have hid : x.id ∈ s.taken := h.wired.calls.mem_iff.1 (List.mem_map.2 ⟨x, hx, rfl⟩)
  obtain ⟨t, ht, hc, hj, _⟩ := h.tasks x.id (taken_subset_live hid)
  exact ⟨t, ht, hc, hj, h.wired.keys x.label (List.mem_map.2 ⟨x, hx, rfl⟩) t ht⟩

/-- A task that leads a flight asks for what all calls of the flight's name ask for: the batch has
    one format, so that the name tells the key. -/
theorem Progress.leads (hB : Batch B g plan J) (h : Progress B g plan J todo calls s) {id : Nat}
    {t : CompileTask} (htask : s.tasks[id]? = some t) (hleading : s.cache.isLeading id = true) :
    ∃ call, s.cache.call? id = some call ∧ t.cancelled = false ∧ t.job ∈ J ∧
      ∀ x ∈ s.cache.calls, x.key.name = call.key.name → x.key = jobKey t.job := by
  obtain ⟨call, hcall, _⟩ := ProgramCache.mem_of_isLeading hleading
  obtain ⟨hmem, rfl⟩ := ProgramCache.mem_of_call? hcall
  obtain ⟨t', ht', hcancelled, hj, hkey⟩ := h.call hmem
  rw [htask] at ht'
  cases ht'
  refine ⟨call, hcall, hcancelled, hj, fun x hx hname => ?_⟩
  obtain ⟨t', _, _, hj', hkey'⟩ := h.call hx
  have hformat : x.key.format = call.key.format := by
    rw [hkey', hkey]
    exact (hB.format _ hj').trans (hB.format _ hj).symm
  rw [← hkey]
  exact ProgramKey.eq_of_name hformat hname

/-- A job of the batch fails for a reason of its own. -/
theorem Progress.outcome_error (hB : Batch B g plan J) (h : Progress B g plan J todo calls s)
    {t : CompileTask} (hcancelled : t.cancelled = false) (hj : t.job ∈ J) {e : ProgramError}
    (he : s.outcome t = .error e) :
    (s.compileJob t.job).1 = .error e ∧ e.isCancelled = false ∧
      (e = .negativeCount → t.job.build.permutations.count < 0) := by
  obtain ⟨c, hc⟩ : ∃ c, s.compiler? t.job.format = some c := by
    have hscripts : s.compiler? t.job.format = B.compiler? t.job.format := by
      unfold Session.compiler? Session.script?
      rw [h.steady.scripts]
    rw [hscripts, hB.format _ hj]
    exact Option.isSome_iff_exists.1 hB.compiler
  rw [Session.outcome, hcancelled] at he
  have hcompile : (s.compileJob t.job).1 = .error e := he
  refine ⟨hcompile, ?_⟩
  unfold Session.compileJob at hcompile
  rw [hc] at hcompile
  exact Program.compile_error hcompile

/-- A compile comes back to the program cache with what the jobs may have. -/
theorem Progress.compile (hB : Batch B g plan J) (h : Progress B g plan J todo calls s) {id : Nat}
    {t : CompileTask} (htask : s.tasks[id]? = some t) (hleading : s.cache.isLeading id = true) :
    (s.cache.compiled ProgramError.isCancelled id (s.outcome t)).Clean (Delivered B J) := by
  obtain ⟨call, hcall, hcancelled, hj, hsame⟩ := h.leads hB htask hleading
  have hstems : Stems B J (jobKey t.job) (s.outcome t) := by
    rw [Session.outcome, hcancelled, h.steady.compileJob]
    exact .compiled hj
  refine h.clean.compiled h.wired.flies hcall (fun q hq x hx hname hit => ?_) fun e he => ?_
  · rw [hsame x hx hname]
    exact ⟨hashKey_of_outcome hq, hq ▸ hstems⟩
  · obtain ⟨_, hnot, hnegative⟩ := h.outcome_error hB hcancelled hj he
    refine ⟨hnot, fun x hx hname => ⟨hnot, fun heq => ⟨t.job, hj, hnegative heq⟩, ?_⟩⟩
    rw [hsame x hx hname]
    exact he ▸ hstems

/-- What a job makes of what was delivered. -/
theorem jobResult_of_delivered {j : Job}
    {returned : Except (CallError ProgramError) (Program × Bool)}
    (h : Delivered B J (jobKey j) returned) (level : FeatureLevel) :
    ∃ program r, jobResult j level returned = some (program, r) ∧ Returns B J j program r := by
  cases returned with
  | ok out =>
    obtain ⟨q, hit⟩ := out
    exact ⟨some q, _, rfl, .compiled rfl rfl h.1 h.2⟩
  | error e =>
    cases e with
    | cancelled => exact absurd h id
    | failed e =>
      obtain ⟨hcancelled, hnegative, hstems⟩ := h
      simp only [jobResult, hcancelled, Bool.false_eq_true, if_false]
      exact ⟨none, _, rfl, .failed rfl rfl hnegative hstems⟩

/-! ### A job comes back -/

section
variable {j : Job} {program : Option Program} {r : CompileResult}

theorem Batch.ne_resource (hB : Batch B g plan J) (hj : j ∈ J) {j' : Job} (hj' : j' ∈ J)
    (hne : j' ≠ j) : j'.resource ≠ j.resource := fun heq => hne (hB.eq_of_resource hj' hj heq)

/-- The other jobs are waited for as before. -/
theorem Batch.awaits_settled (hB : Batch B g plan J) (hs : Settled s j plan program r s')
    (hj : j ∈ J) {j' : Job} (hj' : j' ∈ J) : s'.Awaits j' ↔ s.Awaits j' ∧ j' ≠ j := by
  by_cases heq : j' = j
  · rw [heq]
    exact ⟨fun ha => absurd ha hs.not_awaits, fun ha => absurd rfl ha.2⟩
  · unfold Awaits
    rw [hs.others _ (hB.ne_resource hj hj' heq)]
    exact ⟨fun ha => ⟨ha, heq⟩, fun ha => ha.1⟩

/-- The job that has come back leaves its pool. -/
theorem Placed.leave (h : Placed B g J todo s) {id : Nat} {t : CompileTask} (hid : id ∈ s.live)
    (htask : s.tasks[id]? = some t) (htodo : t.job ∉ todo)
    (hawaits : ∀ j ∈ J, (s'.Awaits j ↔ s.Awaits j ∧ j ≠ t.job))
    (hlive : ∀ i, i ∈ s'.live ↔ i ∈ s.live ∧ i ≠ id)
    (htasks : ∀ i ≠ id, s'.tasks[i]? = s.tasks[i]?) : Placed B g J todo s' where
  ahead j hj := by
    obtain ⟨hmem, ha⟩ := h.ahead j hj
    exact ⟨hmem, (hawaits j hmem).2 ⟨ha, fun heq => htodo (heq ▸ hj)⟩⟩
  tasks i hi := by
    obtain ⟨hi, hne⟩ := (hlive i).1 hi
    obtain ⟨t', ht', hc, hmem, hn, ha⟩ := h.tasks i hi
    -- no other task in a pool has the same job
    have hunlike : t'.job ≠ t.job := fun heq => hne (h.unique i hi id hid t' t ht' htask heq)
    exact ⟨t', (htasks i hne).trans ht', hc, hmem, hn, (hawaits _ hmem).2 ⟨ha, hunlike⟩⟩
  unique i hi i' hi' t₁ t₂ ht₁ ht₂ := by
    obtain ⟨hi, hne⟩ := (hlive i).1 hi
    obtain ⟨hi', hne'⟩ := (hlive i').1 hi'
    rw [htasks i hne] at ht₁
    rw [htasks i' hne'] at ht₂
    exact h.unique i hi i' hi' t₁ t₂ ht₁ ht₂
  queued hp j hj ha := by
    obtain ⟨ha, hjne⟩ := (hawaits j hj).1 ha
    refine (h.queued hp j hj ha).imp_right ?_
    rintro ⟨i, hi, t', ht', rfl⟩
    have hne : i ≠ id := by
      rintro rfl
      rw [htask] at ht'
      cases ht'
      exact hjne rfl
    exact ⟨i, (hlive i).2 ⟨hi, hne⟩, t', (htasks i hne).trans ht', rfl⟩

theorem Batch.hookResults_of_ne (hB : Batch B g plan J) (hj : j ∈ J) {j' : Job} (hj' : j' ∈ J)
    (hne : j' ≠ j) (calls : List HookCall) :
    hookResults (calls ++ [⟨g, j.kernel, r⟩]) g j'.kernel = hookResults calls g j'.kernel := by
  have hnil : hookResults [⟨g, j.kernel, r⟩] g j'.kernel = [] := by
    refine hookResults_eq_nil fun c hc _ hk => ?_
    cases List.mem_singleton.1 hc
    exact hne (hB.eq_of_kernel hj' hj hk.symm)
  rw [hookResults_append, hnil, List.append_nil]

/-- A job that has come back was successful and has delivered its program, or it has failed. -/
theorem Settled.finished (hs : Settled s j plan program r s') (hreturns : Returns B J j program r)
    (hprogram : (s.resource j.resource).program = (B.resource j.resource).program) :
    Finished B s' J j r := by
  cases hreturns with
  | @compiled q hsuccess hq hkey hstems =>
    subst hq
    refine .compiled hsuccess ?_ ?_ hkey hstems
    · rw [hs.mine]
      exact if_pos hsuccess
    · rw [hs.mine]
      exact if_pos hsuccess
  | failed hfailure herror hnegative hstems =>
    refine .failed hfailure ?_ ?_ herror hnegative hstems
    · rw [hs.mine, hfailure]
      rfl
    · rw [hs.mine, hfailure, ← hprogram]
      rfl

/-- One more job has its outcome. -/
theorem Outcomes.settled (hB : Batch B g plan J) (h : Outcomes B g plan J calls s) (hj : j ∈ J)
    (hawaits : s.Awaits j) (hs : Settled s j plan program r s')
    (hreturns : Returns B J j program r) :
    Outcomes B g plan J (calls ++ [⟨g, j.kernel, r⟩]) s' := by
  have hgraph := hB.graph j hj
  have hawaits' : ∀ {j'}, j' ∈ J → (s'.Awaits j' ↔ s.Awaits j' ∧ j' ≠ j) := hB.awaits_settled hs hj
  have hothers : ∀ {j'}, j' ∈ J → j' ≠ j → s'.resource j'.resource = s.resource j'.resource :=
    fun hj' hne => hs.others _ (hB.ne_resource hj hj' hne)
  have hpending : ∀ k, k ∈ (s'.graph g).pending ↔ ∃ j' ∈ J, j'.kernel = k ∧ s'.Awaits j' := by
    intro k
    rw [← hgraph, hs.pending, List.mem_filter, hgraph, h.pending k]
    constructor
    · rintro ⟨⟨j', hj', rfl, ha⟩, hk⟩
      refine ⟨j', hj', rfl, (hawaits' hj').2 ⟨ha, ?_⟩⟩
      rintro rfl
      simp at hk
    · rintro ⟨j', hj', rfl, ha⟩
      obtain ⟨ha, hne⟩ := (hawaits' hj').1 ha
      exact ⟨⟨j', hj', rfl, ha⟩, by simpa using fun hk => hne (hB.eq_of_kernel hj' hj hk)⟩
  refine ⟨fun i => (hs.level i).trans (h.level i),
    fun i hi => (hs.others i (hi j hj).symm).trans (h.other i hi), fun j' hj' ha => ?_,
    fun j' hj' ha => ?_, hpending, ?_, fun c hc => ?_, ?_⟩
  · obtain ⟨ha, hne⟩ := (hawaits' hj').1 ha
    rw [hothers hj' hne, hB.hookResults_of_ne hj hj' hne]
    exact h.waiting j' hj' ha
  · by_cases heq : j' = j
    · subst heq
      obtain ⟨hprogram, hnil⟩ := h.waiting _ hj' hawaits
      rw [hookResults_append, hnil, hookResults_self]
      exact ⟨r, rfl, hs.finished hreturns hprogram⟩
    · have ha' : ¬ s.Awaits j' := fun h => ha ((hawaits' hj').2 ⟨h, heq⟩)
      obtain ⟨result, hcalls, hfinished⟩ := h.finished j' hj' ha'
      rw [hB.hookResults_of_ne hj hj' heq]
      refine ⟨result, hcalls, hfinished.congr ?_ ?_⟩
      · rw [hothers hj' heq]
      · rw [hothers hj' heq]
  · rw [hs.hooks, h.hooks, hgraph, List.append_assoc]
  · rcases List.mem_append.1 hc with hc | hc
    · exact h.kernels c hc
    · cases List.mem_singleton.1 hc
      exact ⟨rfl, List.mem_map.2 ⟨_, hj, rfl⟩⟩
  · -- the job was waited for, so the plan was not published yet
    obtain ⟨hlt, hproxies, _⟩ := h.published.resolve_right fun h => h.1 j hj hawaits
    have hkept := hs.kept
    have hpresents := hs.presents
    rw [hgraph] at hkept hpresents
    by_cases hnil : (s'.graph g).pending = []
    · rw [hproxies] at hpresents
      refine Or.inr ⟨fun j' hj' ha => ?_, hpresents hnil hlt⟩
      have hk := (hpending j'.kernel).2 ⟨j', hj', rfl, ha⟩
      rw [hnil] at hk
      cases hk
    · obtain ⟨hpublished, hsame⟩ := hkept hnil
      rw [hpublished, hsame]
      obtain ⟨k, hk⟩ := List.exists_mem_of_ne_nil _ hnil
      obtain ⟨j', hj', _, ha⟩ := (hpending k).1 hk
      exact Or.inl ⟨hlt, hproxies, Or.inr ⟨j', hj', ha⟩⟩

end

/-- What the program cache has for a task is what it has for the key of the task's job. -/
theorem Progress.returned {R : ProgramKey → Except (CallError ProgramError) (Program × Bool) → Prop}
    (h : Progress B g plan J todo calls s) (hclean : s.cache.Clean R) {id : Nat} {t : CompileTask}
    {returned : Except (CallError ProgramError) (Program × Bool)} (htask : s.tasks[id]? = some t)
    (hreturned : s.cache.result? id = some returned) : R (jobKey t.job) returned := by
  obtain ⟨x, hx, hxid, hR⟩ := hclean.result? hreturned
  obtain ⟨t', ht', _, _, hkey⟩ := h.call hx
  rw [hxid, htask] at ht'
  cases ht'
  rw [← hkey]
  exact hR

/-- A task of the batch is settled when it has its result. -/
theorem Progress.settles (hB : Batch B g plan J) (h : Progress B g plan J todo calls s) {id : Nat}
    {pool : CompilePool} {t : CompileTask} {s₁ : Session}
    {returned : Except (CallError ProgramError) (Program × Bool)}
    (hpool : s.pools[p]? = some pool) (hcurrent : pool.current = some id)
    (htask : s.tasks[id]? = some t)
    (hs₁ : s₁ = { s with
      cache := s.cache.forget id
      tasks := s.tasks.modify id fun t => { t with done := true }
      pools := s.pools.modify p fun x => { x with current := none } })
    (hc : Comes s₁ t.job returned s') {program : Option Program} {r : CompileResult}
    (hresult : jobResult t.job (s.resource t.job.resource).level returned = some (program, r)) :
    t.job ∈ J ∧ t.job ∉ todo ∧ s.Awaits t.job ∧ Settled s t.job plan program r s' := by
  have hid := current_mem_live hpool hcurrent
  obtain ⟨t', ht', _, hj, htodo, hawaits⟩ := h.tasks id hid
  rw [htask] at ht'
  cases ht'
  have hgraph := hB.graph _ hj
  have hgeneration : (s.graph g).generation = plan.generation :=
    (h.steady.graph g).generation.trans hB.current
  have hsettled₁ : Settled s₁ t.job plan program r s' := by
    refine hc.settled ?_ (hB.kind _ hj) ?_ ?_ ?_ ?_
    · rw [hs₁]
      exact hawaits
    · rw [hgraph, ← hgeneration, hs₁]
      rfl
    · rw [hs₁]
      exact hresult
    · rw [hgraph, hs₁]
      exact h.steady.graphs ▸ hB.exists_graph
    · rw [hs₁]
      exact h.size ▸ hB.resource _ hj
  exact ⟨hj, htodo, hawaits,
    hsettled₁.of_eq (by rw [hs₁]) (by rw [hs₁]) (by rw [hs₁]) (by rw [hs₁])⟩

/-- **A job of the batch comes back.** -/
theorem Progress.complete (hB : Batch B g plan J) (h : Progress B g plan J todo calls s) {id : Nat}
    {pool : CompilePool} {t : CompileTask} {s₁ : Session}
    {returned : Except (CallError ProgramError) (Program × Bool)}
    (hpool : s.pools[p]? = some pool) (hcurrent : pool.current = some id)
    (htask : s.tasks[id]? = some t) (hreturned : s.cache.result? id = some returned)
    (hwired : s'.Wired) (hsteady : B.Steady s')
    (hs₁ : s₁ = { s with
      cache := s.cache.forget id
      tasks := s.tasks.modify id fun t => { t with done := true }
      pools := s.pools.modify p fun x => { x with current := none } })
    (hc : Comes s₁ t.job returned s') : ∃ calls', Progress B g plan J todo calls' s' := by
  have hid := current_mem_live hpool hcurrent
  obtain ⟨program, r, hresult, hreturns⟩ := jobResult_of_delivered
    (h.returned h.clean htask hreturned) (s.resource t.job.resource).level
  obtain ⟨hj, htodo, hawaits, hsettled⟩ := h.settles hB hpool hcurrent htask hs₁ hc hresult
  have hmachine := SameMachine.comes hc
  have hlive : ∀ i, i ∈ s'.live ↔ i ∈ s.live ∧ i ≠ id := by
    intro i
    rw [← mem_live_free h.wired.nodup hpool hcurrent (i := i), live, hmachine.pools, hs₁]
    rfl
  have htasks : ∀ i ≠ id, s'.tasks[i]? = s.tasks[i]? := by
    intro i hi
    rw [hmachine.tasks, hs₁]
    dsimp only
    rw [Array.getElem?_modify, if_neg fun h => hi h.symm]
  have hpools : s'.pools.size = s.pools.size := by
    rw [hmachine.pools, hs₁]
    exact Array.size_modify
  refine ⟨calls ++ [⟨g, t.job.kernel, r⟩], ?_, h.toOutcomes.settled hB hj hawaits hsettled hreturns,
    hwired, hsteady, hsettled.size.trans h.size, hpools ▸ h.pools, fun i t' ht' => ?_, ?_⟩
  · exact h.toPlaced.leave hid htask htodo (fun j hj' => hB.awaits_settled hsettled hj hj') hlive
      htasks
  · have hjobs : s'.tasks.map CompileTask.job = s.tasks.map CompileTask.job := by
      rw [hmachine.tasks, hs₁]
      exact map_job_modify s.tasks id (f := fun t => { t with done := true }) fun _ => rfl
    obtain ⟨t'', ht'', heq⟩ := exists_task_of_map_job hjobs ht'
    rw [heq]
    exact h.fresh i t'' ht''
  · rw [hmachine.cache, hs₁]
    exact h.clean.forget id

/-! ### The workers go on -/

/-- **A step of a worker** brings the batch forward. -/
theorem Progress.advance (hB : Batch B g plan J) (h : Progress B g plan J todo calls s)
    (hs : s.advance p = some s') : ∃ calls', Progress B g plan J todo calls' s' := by
  have hstep := advance_advances hs
  have hwired := h.wired.advances hstep
  have hsteady := h.steady.trans (.advance hs)
  have hheld : s.held = false := h.steady.held.trans hB.held
  cases hstep with
  | dropped hpool _ hqueue hnone =>
    obtain ⟨t, ht⟩ := h.wired.task (queue_mem_live hpool hqueue)
    rw [hnone] at ht
    cases ht
  | skipped hpool _ hqueue htask hcancelled =>
    obtain ⟨t, ht, hc, _⟩ := h.tasks _ (queue_mem_live hpool hqueue)
    rw [htask] at ht
    cases ht
    rw [hcancelled] at hc
    cases hc
  | begun hpool hfree hqueue htask _ =>
    have hlive := live_begin hpool hfree hqueue
    exact ⟨calls, h.quiet hwired hsteady (h.clean.begin _ _) rfl rfl rfl rfl (fun _ _ => rfl) rfl
      (fun id => Iff.of_eq (congrArg (id ∈ ·) hlive)) (Nat.le_of_eq Array.size_modify.symm)⟩
  | @completed pool id t returned hpool hcurrent htask hresult =>
    exact h.complete hB hpool hcurrent htask hresult hwired hsteady rfl
      (completeJob_comes _ t.job returned)
  | entered _ _ _ _ hwaits =>
    unfold Session.waitsForRelease at hwaits
    rw [hheld] at hwaits
    cases hwaits
  | @compiled pool id t _ _ htask hleading =>
    have hclean := h.compile hB htask hleading
    obtain ⟨n, log, heq⟩ := runCompile_eq s id t
    rw [heq] at hwired hsteady ⊢
    exact ⟨calls, h.quiet hwired hsteady hclean rfl rfl rfl rfl (fun _ _ => rfl) rfl
      (fun _ => Iff.rfl) (Nat.le_refl _)⟩

theorem Progress.drain (hB : Batch B g plan J) (h : Progress B g plan J todo calls s) :
    ∃ calls', Progress B g plan J todo calls' s.drain :=
  keeps_drain (I := fun s => ∃ calls, Progress B g plan J todo calls s)
    (fun ⟨_, h⟩ hs => h.advance hB hs) ⟨calls, h⟩

/-! ### Jobs are submitted -/

/-- The tasks in pools after a job was put into a queue. -/
theorem mem_live_enqueue (j : Job) {i : Nat} : i ∈ (s.enqueue j).live ↔
    i ∈ s.live ∨ i = s.tasks.size ∧ (s.graph j.graph).options.pool < s.pools.size := by
  unfold Session.enqueue
  by_cases hlt : (s.graph j.graph).options.pool < s.pools.size
  · obtain ⟨l, r, hold, hnew⟩ := exists_flatMap_modify (Array.getElem?_eq_getElem hlt)
      (fun x => { x with queue := x.queue ++ [s.tasks.size] }) CompilePool.ids
    have hlive : (Session.modifyPool { s with tasks := s.tasks.push { job := j } }
        (s.graph j.graph).options.pool fun x =>
          { x with queue := x.queue ++ [s.tasks.size] }).live = _ := hnew
    rw [hlive, live, hold, CompilePool.ids, CompilePool.ids]
    simp only [List.mem_append, List.mem_singleton, hlt, and_true]
    tauto
  · rw [live, Session.modifyPool, modify_of_none (Array.getElem?_eq_none (Nat.le_of_not_lt hlt))]
    exact ⟨Or.inl, fun h => h.resolve_right fun h => hlt h.2⟩

/-- The tasks after a job was put into a queue. -/
theorem getElem?_enqueue (j : Job) (i : Nat) :
    (s.enqueue j).tasks[i]? = if i = s.tasks.size then some { job := j } else s.tasks[i]? := by
  show (s.tasks.push { job := j })[i]? = _
  rw [Array.getElem?_push]

/-- **The next job is put into a queue.** -/
theorem Progress.enqueue (hB : Batch B g plan J) {j : Job}
    (h : Progress B g plan J (j :: todo) calls s) (hfresh : j ∉ todo) :
    Progress B g plan J todo calls (s.enqueue j) := by
  obtain ⟨hj, hawaits⟩ := h.ahead j (List.mem_cons_self ..)
  have hold : ∀ {i}, i ∈ s.live → (s.enqueue j).tasks[i]? = s.tasks[i]? := fun hi => by
    rw [getElem?_enqueue, if_neg (Nat.ne_of_lt (h.wired.lt _ hi))]
  have hnew : (s.enqueue j).tasks[s.tasks.size]? = some { job := j } := by
    rw [getElem?_enqueue, if_pos rfl]
  have hpools : (s.enqueue j).pools.size = s.pools.size := Array.size_modify
  have hplaced : Placed B g J todo (s.enqueue j) := by
    refine ⟨fun j' hj' => h.ahead j' (List.mem_cons_of_mem _ hj'), fun i hi => ?_,
      fun i hi i' hi' t t' ht ht' heq => ?_, fun hp j' hj' ha => ?_⟩
    · rcases (mem_live_enqueue j).1 hi with hi | ⟨rfl, _⟩
      · obtain ⟨t, ht, hc, hmem, hn, ha⟩ := h.tasks i hi
        exact ⟨t, (hold hi).trans ht, hc, hmem, fun h => hn (List.mem_cons_of_mem _ h), ha⟩
      · exact ⟨_, hnew, rfl, hj, hfresh, hawaits⟩
    · -- the new job is in no pool yet
      have hunlike : ∀ {i t}, i ∈ s.live → (s.enqueue j).tasks[i]? = some t → t.job ≠ j := by
        intro i t hi ht heq
        obtain ⟨t', ht', _, _, hn, _⟩ := h.tasks i hi
        rw [hold hi, ht'] at ht
        cases ht
        exact hn (heq ▸ List.mem_cons_self ..)
      rcases (mem_live_enqueue j).1 hi with hi | ⟨rfl, _⟩
      · rcases (mem_live_enqueue j).1 hi' with hi' | ⟨rfl, _⟩
        · rw [hold hi] at ht
          rw [hold hi'] at ht'
          exact h.unique i hi i' hi' t t' ht ht' heq
        · rw [hnew] at ht'
          cases ht'
          exact absurd heq (hunlike hi ht)
      · rcases (mem_live_enqueue j).1 hi' with hi' | ⟨rfl, _⟩
        · rw [hnew] at ht
          cases ht
          exact absurd heq.symm (hunlike hi' ht')
        · rfl
    · rcases h.queued hp j' hj' ha with hmem | ⟨i, hi, t, ht, rfl⟩
      · rcases List.mem_cons.1 hmem with rfl | hmem
        · refine Or.inr ⟨s.tasks.size, (mem_live_enqueue j').2 (Or.inr ⟨rfl, ?_⟩), _, hnew, rfl⟩
          rw [hB.graph j' hj, (h.steady.graph g).options]
          exact Nat.lt_of_lt_of_le hp h.pools
        · exact Or.inl hmem
      · exact Or.inr ⟨i, (mem_live_enqueue j).2 (Or.inl hi), t, (hold hi).trans ht, rfl⟩
  refine ⟨hplaced, h.toOutcomes.of_eq rfl rfl rfl rfl, h.wired.enqueue j,
    h.steady.trans (.of_eq rfl rfl rfl rfl rfl), h.size, hpools ▸ h.pools, fun i t ht => ?_,
    h.clean⟩
  rw [getElem?_enqueue] at ht
  split at ht
  · cases ht
    exact Or.inr hj
  · exact h.fresh i t ht

/-- The resource of a job that it waits for learns the task. -/
theorem register_of_awaits {j : Job} (hj : s.Awaits j) (id : Nat) :
    s.register id j = s.modifyResource j.resource fun x => { x with task := some id } := by
  have hset : (s.resource j.resource).setTask id j.generation =
      (true, { s.resource j.resource with task := some id }) := by
    rw [Resource.setTask, if_pos (by rw [hj.1, hj.2]; simp)]
  unfold Session.register
  rw [hset, ← modifyResource_const]
  rfl

/-- Resources learn tasks, and nothing else. -/
theorem exists_task_register (s : Session) (id : Nat) (j : Job) (i : Nat) :
    ∃ task, (s.register id j).resource i = { s.resource i with task } := by
  rw [resource_register, resource_modifyResource]
  split
  · unfold Resource.setTask
    split
    · exact ⟨_, rfl⟩
    · exact ⟨_, rfl⟩
  · exact ⟨_, rfl⟩

theorem awaits_register (s : Session) (id : Nat) (j j' : Job) :
    (s.register id j).Awaits j' ↔ s.Awaits j' := by
  obtain ⟨task, htask⟩ := exists_task_register s id j j'.resource
  exact awaits_congr (by rw [htask]) (by rw [htask])

theorem Progress.register (h : Progress B g plan J todo calls s) {j : Job} (hj : j ∈ J)
    (hawaits : s.Awaits j) (id : Nat) : Progress B g plan J todo calls (s.register id j) := by
  have hresource := exists_task_register s id j
  have hawaits' := awaits_register s id j
  rw [register_of_awaits hawaits] at hresource hawaits' ⊢
  refine ⟨h.toPlaced.congr hawaits' (fun _ _ => rfl) fun _ => Iff.rfl, ?_,
    h.wired.of_eq rfl rfl rfl, h.steady.trans (.modifyResource s _ _),
    Array.size_modify.trans h.size, h.pools, h.fresh, h.clean⟩
  refine h.toOutcomes.congr (fun j' _ => ?_) (fun r => ?_) (fun r hr => ?_) rfl rfl rfl
    fun hall => absurd hawaits (hall j hj)
  · obtain ⟨task, htask⟩ := hresource j'.resource
    rw [htask]
    exact ⟨rfl, rfl, rfl⟩
  · obtain ⟨task, htask⟩ := hresource r
    rw [htask]
  · rw [resource_modifyResource, if_neg fun h => hr j hj h.1]

/-- **The next job is submitted.** -/
theorem Progress.submit (hB : Batch B g plan J) {j : Job}
    (h : Progress B g plan J (j :: todo) calls s) (hfresh : j ∉ todo) :
    ∃ calls', Progress B g plan J todo calls' (s.submit j) := by
  obtain ⟨hj, hawaits⟩ := h.ahead j (List.mem_cons_self ..)
  have hqueued := h.enqueue hB hfresh
  rw [submit_eq]
  split
  · exact hqueued.drain hB
  · exact ⟨calls, hqueued.register hj hawaits _⟩

theorem Progress.submitJobs (hB : Batch B g plan J) (h : Progress B g plan J todo calls s)
    (hnodup : todo.Nodup) : ∃ calls', Progress B g plan J [] calls' (s.submitJobs true todo) := by
  induction todo generalizing s calls with
  | nil => exact ⟨calls, h⟩
  | cons j todo ih =>
    obtain ⟨hfresh, hnodup⟩ := List.nodup_cons.1 hnodup
    obtain ⟨calls', hnext⟩ := h.submit hB hfresh
    have hsync :
        (if j.isDefault && !true then (s.submit j).drain else s.submit j) = s.submit j := by
      rw [Bool.not_true, Bool.and_false]
      rfl
    obtain ⟨calls'', hdone⟩ := ih hnext hnodup
    refine ⟨calls'', ?_⟩
    rw [Session.submitJobs, List.foldl_cons, hsync]
    exact hdone

/-! ### The end -/

/-- **A batch that was submitted and drained** leaves idle workers. -/
theorem Batch.drained (hB : Batch B g plan J) : ∃ calls,
    Progress B g plan J [] calls (B.submitJobs true J).drain ∧
      (B.submitJobs true J).drain.live = [] := by
  obtain ⟨_, hsubmitted⟩ := hB.progress.submitJobs hB (List.Nodup.of_map _ hB.kernels)
  obtain ⟨calls, hdrained⟩ := hsubmitted.drain hB
  refine ⟨calls, hdrained, hsubmitted.wired.drain_live ?_⟩
  rw [hsubmitted.steady.held, hB.held]

/-- Idle workers have left nothing to wait for, if the graph has a pool. -/
theorem Progress.not_awaits (h : Progress B g plan J todo calls s) (hlive : s.live = [])
    (hpool : (B.graph g).options.pool < B.pools.size) {j : Job} (hj : j ∈ J) (htodo : j ∉ todo) :
    ¬ s.Awaits j := by
  intro ha
  rcases h.queued hpool j hj ha with hmem | ⟨i, hi, _⟩
  · exact htodo hmem
  · rw [hlive] at hi
    cases hi

theorem finishUpdate_fields (s : Session) (g : Nat) (plan : Plan) :
    (s.finishUpdate g plan).resources = s.resources ∧ (s.finishUpdate g plan).hooks = s.hooks ∧
      (s.finishUpdate g plan).tasks = s.tasks ∧ (s.finishUpdate g plan).pools = s.pools := by
  have hmachine := SameMachine.finishUpdate s g plan
  refine ⟨?_, ?_, hmachine.tasks, hmachine.pools⟩
  · unfold Session.finishUpdate
    split
    · exact resources_publish s g plan
    · rfl
  · unfold Session.finishUpdate
    split
    · by_cases hlt : (s.graph g).published < plan.generation
      · rw [publish_of_lt hlt]
      · rw [publish_of_le (Nat.not_lt.1 hlt)]
    · rfl

theorem pending_finishUpdate (hg : g < s.graphs.size) (plan : Plan) :
    ((s.finishUpdate g plan).graph g).pending = (s.graph g).pending := by
  unfold Session.finishUpdate
  split
  · by_cases hlt : (s.graph g).published < plan.generation
    · rw [graph_publish_of_lt hg hlt]
    · rw [publish_of_le (Nat.not_lt.1 hlt)]
  · rfl

/-- **The update ends**: its plan is published unless jobs are still outstanding. -/
theorem Progress.finishUpdate (hB : Batch B g plan J) (h : Progress B g plan J todo calls s) :
    (s.graph g).pending ≠ [] ∧ s.finishUpdate g plan = s ∧ s.proxies = B.proxies ∨
      (s.graph g).pending = [] ∧ ∃ x, (s.finishUpdate g plan).Presents g plan B.proxies x := by
  unfold Session.finishUpdate
  by_cases hnil : (s.graph g).pending = []
  · have hgeneration : (s.graph g).generation = plan.generation :=
      (h.steady.graph g).generation.trans hB.current
    rw [if_pos (by rw [hnil, hgeneration]; simp)]
    refine Or.inr ⟨hnil, ?_⟩
    rcases h.published with ⟨hlt, hproxies, _⟩ | ⟨_, x, hx⟩
    · rw [← hproxies]
      exact presents_publish (h.steady.graphs ▸ hB.exists_graph) hlt
    · rw [publish_of_le (Nat.le_of_eq hx.published.symm)]
      exact ⟨x, hx⟩
  · rw [if_neg (by simp [hnil])]
    exact Or.inl ⟨hnil, rfl,
      (h.published.resolve_right fun hall => hnil (h.pending_eq_nil_iff.2 hall.1)).2.1⟩

/-- The batch stands where it stood. -/
theorem Progress.finish (hB : Batch B g plan J) (h : Progress B g plan J todo calls s) :
    Progress B g plan J todo calls (s.finishUpdate g plan) := by
  rcases h.finishUpdate hB with ⟨_, hsame, _⟩ | ⟨hnil, x, hx⟩
  · rw [hsame]
    exact h
  · obtain ⟨hresources, hhooks, htasks, hpools⟩ := finishUpdate_fields s g plan
    have hpending := pending_finishUpdate (h.steady.graphs ▸ hB.exists_graph) plan
    have hcache := (SameMachine.finishUpdate s g plan).cache
    have hsteady := Steady.finishUpdate s g plan
    generalize s.finishUpdate g plan = s'
      at hx hresources hhooks htasks hpools hpending hcache hsteady
    have hresource : ∀ r, s'.resource r = s.resource r := fun r => by
      rw [Session.resource, Session.resource, hresources]
    have hawaits : ∀ j, s'.Awaits j ↔ s.Awaits j := fun j => by
      unfold Awaits
      rw [hresource]
    have hplaced : Placed B g J todo s' :=
      h.toPlaced.congr hawaits (fun _ _ => by rw [htasks]) fun _ => by rw [live, live, hpools]
    have hover := h.pending_eq_nil_iff.1 hnil
    refine ⟨hplaced, ⟨?_, ?_, ?_, ?_, ?_, hhooks.trans h.hooks, h.kernels, ?_⟩,
      h.wired.of_eq htasks hpools hcache, h.steady.trans hsteady, by rw [hresources]; exact h.size,
      by rw [hpools]; exact h.pools, htasks ▸ h.fresh, hcache ▸ h.clean⟩
    · simp only [hresource]
      exact h.level
    · simp only [hresource]
      exact h.other
    · simp only [hresource, hawaits]
      exact h.waiting
    · intro j hj _
      obtain ⟨result, hcalls, hfinished⟩ := h.finished j hj (hover j hj)
      exact ⟨result, hcalls, hfinished.congr (by rw [hresource]) (by rw [hresource])⟩
    · simp only [hpending, hawaits]
      exact h.pending
    · exact Or.inr ⟨fun j hj ha => hover j hj ((hawaits j).1 ha), x, hx⟩

/-- Every resource holds the program that it held before, or the one of its job, and then the hook
    was told of the success. -/
theorem Outcomes.program (h : Outcomes B g plan J calls s) (r : Nat) :
    (s.resource r).program = (B.resource r).program ∨
      ∃ j ∈ J, j.resource = r ∧ ∃ q result, (s.resource r).program = some q ∧
        q.hashKey = j.build.hashKey ∧ hookResults calls g j.kernel = [result] ∧
        result.success = true := by
  by_cases hr : ∃ j ∈ J, j.resource = r
  · obtain ⟨j, hj, rfl⟩ := hr
    by_cases ha : s.Awaits j
    · exact Or.inl (h.waiting j hj ha).1
    · obtain ⟨result, hcalls, hfinished⟩ := h.finished j hj ha
      cases hfinished with
      | compiled hsuccess _ hprogram hkey _ =>
        exact Or.inr ⟨j, hj, rfl, _, result, hprogram, hkey, hcalls, hsuccess⟩
      | failed _ _ hprogram _ _ _ => exact Or.inl hprogram
  · rw [h.other r fun j hj heq => hr ⟨j, hj, heq⟩]
    exact Or.inl rfl

end

end Session

end KernelGraph
