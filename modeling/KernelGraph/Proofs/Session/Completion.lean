/-
  What a job can do when it comes back.

  A resource waits for one generation at a time.  The job of another generation changes nothing; an
  awaited one moves the resource on.  Only an awaited job of the graph's current generation has
  further effects: it leaves the set of outstanding kernels, the plan is published if it was the
  last, and the hook is called.  Counters and records are left aside: sessions that differ in
  nothing else have the same `Books`.
-/
import KernelGraph.Proofs.Session.Interleaving

namespace KernelGraph.Session

/-- The sessions differ in nothing but counters, log records and calls of the fatal handler. -/
def Books (s s' : Session) : Prop :=
  ∃ metrics log fatals, s' = { s with metrics, log, fatals }

/-- The resource of the job waits for it. -/
def Awaits (s : Session) (j : Job) : Prop :=
  (s.resource j.resource).generation = j.generation ∧ (s.resource j.resource).state = .compiling

instance (s : Session) (j : Job) : Decidable (s.Awaits j) := inferInstanceAs (Decidable (_ ∧ _))

section
variable {s s' s'' : Session}

theorem Books.refl (s : Session) : s.Books s := ⟨_, _, _, rfl⟩

theorem Books.trans (h : s.Books s') (h' : s'.Books s'') : s.Books s'' := by
  obtain ⟨_, _, _, rfl⟩ := h
  obtain ⟨_, _, _, rfl⟩ := h'
  exact ⟨_, _, _, rfl⟩

theorem Books.note (s : Session) (records : List Log.Record) : s.Books (s.note records) :=
  ⟨_, _, _, rfl⟩

theorem Books.count (s : Session) (f : Metrics → Metrics) : s.Books (s.count f) := ⟨_, _, _, rfl⟩

theorem Books.countCompile (s : Session) (r : CompileResult) : s.Books (s.countCompile r) :=
  ⟨_, _, _, rfl⟩

theorem Books.compileFailed (s : Session) (g k : Nat) (name : String) (isDefault : Bool)
    (r : CompileResult) : s.Books (s.compileFailed g k name isDefault r) := by
  unfold Session.compileFailed
  split
  · exact ⟨_, _, _, rfl⟩
  · exact ⟨_, _, _, rfl⟩

theorem Books.cookFailed (s : Session) (g k : Nat) (platform : String) (isDefault : Bool)
    (r : CompileResult) : s.Books (s.cookFailed g k platform isDefault r) := by
  unfold Session.cookFailed
  dsimp only
  split
  · exact ⟨_, _, _, rfl⟩
  · exact ⟨_, _, _, rfl⟩

theorem Books.modifyResource (h : s.Books s') (r : Nat) (f : Resource → Resource) :
    (s.modifyResource r f).Books (s'.modifyResource r f) := by
  obtain ⟨_, _, _, rfl⟩ := h
  exact ⟨_, _, _, rfl⟩

theorem Books.modifyGraph (h : s.Books s') (g : Nat) (f : GraphState → GraphState) :
    (s.modifyGraph g f).Books (s'.modifyGraph g f) := by
  obtain ⟨_, _, _, rfl⟩ := h
  exact ⟨_, _, _, rfl⟩

theorem Books.hook (h : s.Books s') (g k : Nat) (r : CompileResult) :
    (s.hook g k r).Books (s'.hook g k r) := by
  obtain ⟨_, _, _, rfl⟩ := h
  exact ⟨_, _, _, rfl⟩

end

/-! ## Publishing -/

/-- The proxy that a plan is published as. -/
def planProxy (s : Session) (g : Nat) (plan : Plan) : RenderProxy where
  graph := g
  graphName := (s.graph g).definition.name
  generation := plan.generation
  invocations := plan.invocations.map fun v =>
    { v with program := s.currentProgram g v.kernel plan.level }

section
variable {s : Session} {g : Nat} {plan : Plan}

theorem publish_of_le (h : plan.generation ≤ (s.graph g).published) : s.publish g plan = s := by
  unfold Session.publish
  exact if_pos h

/-- Publishing the plan of a later generation changes the graph, the proxies and what is kept
    about them. -/
theorem publish_of_lt (h : (s.graph g).published < plan.generation) :
    s.publish g plan = { s with
      graphs := s.graphs.modify g fun x =>
        { x with published := plan.generation, proxy := some s.proxies.size }
      proxies := (s.publish g plan).proxies
      commands := (s.publish g plan).commands
      metrics := (s.publish g plan).metrics
      log := (s.publish g plan).log } := by
  have hsize : (s.proxies.push (s.planProxy g plan)).size - 1 = s.proxies.size := by simp
  rw [← hsize]
  unfold Session.publish Session.releaseProxy
  dsimp only
  rw [if_neg (Nat.not_le.2 h)]
  cases (s.graph g).proxy with
  | none => rfl
  | some i =>
    dsimp only
    split
    · rfl
    · rfl

/-- Publishing adds the plan's proxy; the one before may be released at once. -/
theorem proxies_publish_of_lt (h : (s.graph g).published < plan.generation) :
    (s.publish g plan).proxies = s.proxies.push (s.planProxy g plan) ∨
      ∃ i, (s.graph g).proxy = some i ∧ (s.publish g plan).proxies =
        (s.proxies.push (s.planProxy g plan)).modify i fun x => { x with released := true } := by
  unfold Session.publish Session.releaseProxy
  dsimp only
  rw [if_neg (Nat.not_le.2 h)]
  cases (s.graph g).proxy with
  | none => exact Or.inl rfl
  | some i =>
    dsimp only
    split
    · exact Or.inl rfl
    · exact Or.inr ⟨i, rfl, rfl⟩

end

/-! ## Coming back -/

theorem modifyResource_const (s : Session) (r : Nat) (f : Resource → Resource) :
    s.modifyResource r (fun _ => f (s.resource r)) = s.modifyResource r f := by
  unfold Session.modifyResource Session.resource
  congr 1
  apply Array.ext_getElem?
  intro i
  rw [Array.getElem?_modify, Array.getElem?_modify]
  split
  · rename_i hi
    subst hi
    cases h : s.resources[r]? with
    | none => rfl
    | some x => rw [Array.getD_eq_getD_getElem?, h]; rfl
  · rfl

/-- The plan of a graph is published when nothing is outstanding. -/
def settle (s : Session) (g : Nat) (plan : Plan) : Session :=
  if (s.graph g).pending.isEmpty then s.publish g plan else s

section
variable {s : Session} {j : Job} {n : Nat} (plan : Plan) (program : Option Program)
  (r : CompileResult)

theorem completeUpdate_of_not_awaited
    (h : ¬ ((s.resource j.resource).generation = n ∧ (s.resource j.resource).state = .compiling)) :
    s.completeUpdate j n plan program r = s := by
  have hfinish : (s.resource j.resource).finish n program r = (false, s.resource j.resource) := by
    unfold Resource.finish
    rw [if_neg]
    simpa using h
  unfold Session.completeUpdate
  rw [hfinish]
  rfl

section
variable (h : (s.resource j.resource).generation = n ∧ (s.resource j.resource).state = .compiling)
include h

theorem finish_of_awaited : (s.resource j.resource).finish n program r =
    (true, ((s.resource j.resource).finish n program r).2) := by
  unfold Resource.finish
  rw [if_pos (by simpa using h)]

/-- An awaited job of an earlier generation moves its resource on. -/
theorem completeUpdate_of_stale (hn : n ≠ (s.graph j.graph).generation) :
    (s.modifyResource j.resource fun x => (x.finish n program r).2).Books
      (s.completeUpdate j n plan program r) := by
  unfold Session.completeUpdate
  rw [finish_of_awaited program r h]
  dsimp only
  rw [modifyResource_const s j.resource fun x => (x.finish n program r).2]
  have hcurrent : (n = ((s.modifyResource j.resource fun x =>
      (x.finish n program r).2).graph j.graph).generation) = False := eq_false hn
  simp only [hcurrent, decide_false, Bool.not_true, Bool.not_false, Bool.false_eq_true, if_false,
    if_true]
  split
  · exact .compileFailed _ _ _ _ _ _
  · exact .note _ _

/-- **An awaited job of the current generation** moves its resource on and leaves the outstanding
    kernels; the plan is published if it was the last, and the hook is called. -/
theorem completeUpdate_of_current (hn : n = (s.graph j.graph).generation) :
    ∃ f, (((((s.modifyResource j.resource fun x => (x.finish n program r).2).modifyGraph j.graph
      fun x => { x with pending := x.pending.filter (· ≠ j.kernel) }).count f).settle j.graph
        plan).hook j.graph j.kernel r).Books (s.completeUpdate j n plan program r) := by
  unfold Session.completeUpdate
  rw [finish_of_awaited program r h]
  dsimp only
  rw [modifyResource_const s j.resource fun x => (x.finish n program r).2]
  have hcurrent : (n = ((s.modifyResource j.resource fun x =>
      (x.finish n program r).2).graph j.graph).generation) = True := eq_true hn
  simp only [hcurrent, decide_true, Bool.not_true, Bool.false_eq_true, if_false, if_true]
  refine ⟨fun m => { m with pending := m.pending -
    (((s.modifyResource j.resource fun x => (x.finish n program r).2).graph j.graph).pending.filter
      (· = j.kernel)).length }, Books.hook ?_ _ _ _⟩
  split
  · exact .compileFailed _ _ _ _ _ _
  · exact .note _ _

end

/-- An awaited job of a platform moves its resource on, and the platform may be told. -/
theorem completeCook_of_awaited {platform : Nat}
    (h : (s.resource j.resource).generation = 0 ∧ (s.resource j.resource).state = .compiling) :
    ∃ f : CookPlatform → CookPlatform, (∀ x, (f x).entries = x.entries) ∧
      Books { (s.modifyResource j.resource fun x => (x.finish 0 program r).2) with
        platforms := s.platforms.modify platform f } (s.completeCook j platform program r) := by
  unfold Session.completeCook
  rw [finish_of_awaited program r h]
  dsimp only
  rw [modifyResource_const s j.resource fun x => (x.finish 0 program r).2]
  simp only [Bool.not_true, Bool.false_eq_true, if_false]
  generalize hreported : (if r.success = true then _ else _ : Session) = reported
  have hbooks : (s.modifyResource j.resource fun x => (x.finish 0 program r).2).Books reported := by
    rw [← hreported]
    split
    · exact .refl _
    · exact .cookFailed _ _ _ _ _ _
  obtain ⟨metrics, log, fatals, rfl⟩ := hbooks
  unfold Session.announceReady
  dsimp only
  split
  · refine ⟨fun x => x, fun _ => rfl, ?_⟩
    have hsame : s.platforms.modify platform (fun x => x) = s.platforms := by
      apply Array.ext_getElem?
      intro i
      rw [Array.getElem?_modify]
      split
      · rw [Option.map_id']
      · rfl
    rw [hsame]
    exact ⟨_, _, _, rfl⟩
  · exact ⟨fun x => { x with announced := true }, fun _ => rfl, ⟨_, _, _, rfl⟩⟩

theorem completeCook_of_not_awaited {platform : Nat}
    (h : ¬ ((s.resource j.resource).generation = 0 ∧ (s.resource j.resource).state = .compiling)) :
    s.completeCook j platform program r = s := by
  have hfinish : (s.resource j.resource).finish 0 program r = (false, s.resource j.resource) := by
    unfold Resource.finish
    rw [if_neg]
    simpa using h
  unfold Session.completeCook
  rw [hfinish]
  rfl

end

/-- What a job can do when it comes back. -/
inductive Comes (s : Session) (j : Job)
    (returned : Except (CallError ProgramError) (Program × Bool)) : Session → Prop
  /-- Its resource does not wait for it. -/
  | ignored {s' : Session} (h : ¬ s.Awaits j) (hs : s.Books s') : Comes s j returned s'
  /-- It was cancelled. -/
  | abandoned {s' : Session} (h : s.Awaits j)
      (hnone : jobResult j (s.resource j.resource).level returned = none)
      (hs : (s.modifyResource j.resource fun x => x.abandon j.generation).Books s') :
      Comes s j returned s'
  /-- It was for a platform. -/
  | cooked {s' : Session} {platform : Nat} {program : Option Program} {r : CompileResult}
      {f : CookPlatform → CookPlatform} (h : s.Awaits j) (hkind : j.kind = .cook platform)
      (hf : ∀ x, (f x).entries = x.entries)
      (hs : Books { (s.modifyResource j.resource fun x => (x.finish 0 program r).2) with
        platforms := s.platforms.modify platform f } s') : Comes s j returned s'
  /-- It was for an earlier generation. -/
  | stale {s' : Session} {n : Nat} {plan : Plan} {program : Option Program} {r : CompileResult}
      (h : s.Awaits j) (hkind : j.kind = .runtime n plan)
      (hn : n ≠ (s.graph j.graph).generation)
      (hs : (s.modifyResource j.resource fun x => (x.finish n program r).2).Books s') :
      Comes s j returned s'
  /-- It was for the current generation. -/
  | current {s' : Session} {n : Nat} {plan : Plan} {program : Option Program} {r : CompileResult}
      {t : Session} (h : s.Awaits j) (hkind : j.kind = .runtime n plan)
      (hn : n = (s.graph j.graph).generation)
      (hresult : jobResult j (s.resource j.resource).level returned = some (program, r))
      (ht : ((s.modifyResource j.resource fun x => (x.finish n program r).2).modifyGraph j.graph
        fun x => { x with pending := x.pending.filter (· ≠ j.kernel) }).Books t)
      (hs : ((t.settle j.graph plan).hook j.graph j.kernel r).Books s') : Comes s j returned s'

theorem modifyResource_eq_self {s : Session} {r : Nat} {f : Resource → Resource}
    (h : f (s.resource r) = s.resource r) : s.modifyResource r f = s := by
  have hconst := modifyResource_const s r f
  rw [h] at hconst
  rw [← hconst, modifyResource_const s r fun x => x]
  unfold Session.modifyResource
  congr 1
  apply Array.ext_getElem?
  intro i
  rw [Array.getElem?_modify]
  split
  · rw [Option.map_id']
  · rfl

/-- **A job that comes back** does one of these. -/
theorem completeJob_comes (s : Session) (j : Job)
    (returned : Except (CallError ProgramError) (Program × Bool)) :
    Comes s j returned (s.completeJob j returned) := by
  unfold Session.completeJob
  cases hresult : jobResult j (s.resource j.resource).level returned with
  | none =>
    dsimp only
    have hbooks : (s.modifyResource j.resource fun x => x.abandon j.generation).Books
        ((s.count fun m =>
          { m with compiles := m.compiles ++ [(j.format, "cancelled")] }).modifyResource
          j.resource fun x => x.abandon j.generation) := (Books.count s _).modifyResource _ _
    by_cases h : s.Awaits j
    · exact .abandoned h hresult hbooks
    · refine .ignored h ?_
      rwa [modifyResource_eq_self] at hbooks
      unfold Resource.abandon
      rw [if_neg]
      simpa [Awaits] using h
  | some result =>
    obtain ⟨program, r⟩ := result
    dsimp only
    generalize htimed : (if r.cached = true then s else s.count _) = timed
    have hbooks : s.Books (timed.countCompile r) := by
      refine Books.trans ?_ (.countCompile timed r)
      rw [← htimed]
      split
      · exact .refl s
      · exact .count s _
    generalize timed.countCompile r = counted at hbooks
    obtain ⟨metrics, log, fatals, rfl⟩ := hbooks
    cases hkind : j.kind with
    | runtime n plan =>
      dsimp only
      have hgeneration : j.generation = n := by rw [Job.generation, hkind]
      by_cases h : s.Awaits j
      · have h' := h
        rw [Awaits, hgeneration] at h'
        by_cases hn : n = (s.graph j.graph).generation
        · obtain ⟨f, hs⟩ := completeUpdate_of_current (s := { s with metrics, log, fatals })
            plan program r h' hn
          exact .current h hkind hn hresult ⟨_, _, _, rfl⟩ hs
        · have hs := completeUpdate_of_stale (s := { s with metrics, log, fatals })
            plan program r h' hn
          exact .stale h hkind hn (Books.trans ⟨_, _, _, rfl⟩ hs)
      · refine .ignored h ?_
        rw [completeUpdate_of_not_awaited]
        · exact ⟨_, _, _, rfl⟩
        · rwa [Awaits, hgeneration] at h
    | cook platform =>
      dsimp only
      have hgeneration : j.generation = 0 := by rw [Job.generation, hkind]
      by_cases h : s.Awaits j
      · have h' := h
        rw [Awaits, hgeneration] at h'
        obtain ⟨f, hf, hs⟩ := completeCook_of_awaited (s := { s with metrics, log, fatals })
          program r h'
        have hbooks : Books { (s.modifyResource j.resource fun x => (x.finish 0 program r).2) with
            platforms := s.platforms.modify platform f } _ := Books.trans ⟨_, _, _, rfl⟩ hs
        exact .cooked h hkind hf hbooks
      · refine .ignored h ?_
        rw [completeCook_of_not_awaited]
        · exact ⟨_, _, _, rfl⟩
        · rwa [Awaits, hgeneration] at h

/-! ## What workers leave alone -/

/-- What is still to come of a graph may have changed, and what is published; the rest is as it
    was. -/
structure GraphSteady (x x' : GraphState) : Prop where
  definition : x'.definition = x.definition
  options : x'.options = x.options
  closed : x'.closed = x.closed
  locked : x'.locked = x.locked
  sets : x'.sets = x.sets
  generation : x'.generation = x.generation
  cook : x'.cook = x.cook

/-- The sessions have the same surroundings, and the same graphs except for what is outstanding and
    what is published. -/
structure Steady (s s' : Session) : Prop where
  files : s'.files = s.files
  scripts : s'.scripts = s.scripts
  held : s'.held = s.held
  graphs : s'.graphs.size = s.graphs.size
  graph : ∀ g, GraphSteady (s.graph g) (s'.graph g)
  entries : ∀ p, s'.platformResources p = s.platformResources p

section
variable {s s' s'' : Session}

theorem GraphSteady.refl (x : GraphState) : GraphSteady x x := ⟨rfl, rfl, rfl, rfl, rfl, rfl, rfl⟩

theorem GraphSteady.trans {x x' x'' : GraphState} (h : GraphSteady x x') (h' : GraphSteady x' x'') :
    GraphSteady x x'' :=
  ⟨h'.definition.trans h.definition, h'.options.trans h.options, h'.closed.trans h.closed,
    h'.locked.trans h.locked, h'.sets.trans h.sets, h'.generation.trans h.generation,
    h'.cook.trans h.cook⟩

theorem Steady.trans (h : s.Steady s') (h' : s'.Steady s'') : s.Steady s'' :=
  ⟨h'.files.trans h.files, h'.scripts.trans h.scripts, h'.held.trans h.held,
    h'.graphs.trans h.graphs, fun g => (h.graph g).trans (h'.graph g),
    fun p => (h'.entries p).trans (h.entries p)⟩

theorem Steady.of_eq (hfiles : s'.files = s.files) (hscripts : s'.scripts = s.scripts)
    (hheld : s'.held = s.held) (hgraphs : s'.graphs = s.graphs)
    (hplatforms : s'.platforms = s.platforms) : s.Steady s' where
  files := hfiles
  scripts := hscripts
  held := hheld
  graphs := by rw [hgraphs]
  graph g := by
    rw [Session.graph, Session.graph, hgraphs]
    exact .refl _
  entries p := by rw [platformResources, platformResources, hplatforms]

theorem Steady.refl (s : Session) : s.Steady s := .of_eq rfl rfl rfl rfl rfl

theorem Steady.of_books (h : s.Books s') : s.Steady s' := by
  obtain ⟨_, _, _, rfl⟩ := h
  exact .of_eq rfl rfl rfl rfl rfl

/-- The graph after a change of one graph. -/
theorem graph_modifyGraph (s : Session) (g : Nat) (f : GraphState → GraphState) (i : Nat) :
    (s.modifyGraph g f).graph i =
      if g = i ∧ g < s.graphs.size then f (s.graph i) else s.graph i := by
  unfold Session.modifyGraph Session.graph
  rw [Array.getD_eq_getD_getElem?, Array.getD_eq_getD_getElem?, Array.getElem?_modify]
  by_cases hi : g = i
  · subst hi
    by_cases hg : g < s.graphs.size
    · rw [if_pos rfl, if_pos ⟨rfl, hg⟩, Array.getElem?_eq_getElem hg]
      rfl
    · rw [if_pos rfl, if_neg (fun h => hg h.2), Array.getElem?_eq_none (by omega)]
      rfl
  · rw [if_neg hi, if_neg fun h => hi h.1]

/-- Nothing but the lock changes when it is not given back. -/
theorem graph_lock (s : Session) (g i : Nat) : (s.lock g).graph i =
    { s.graph i with locked := ((s.lock g).graph i).locked } := by
  rw [lock, graph_modifyGraph]
  split
  · rfl
  · rfl

theorem closed_lock (s : Session) (g i : Nat) :
    ((s.lock g).graph i).closed = (s.graph i).closed := by rw [graph_lock]

theorem generation_lock (s : Session) (g i : Nat) :
    ((s.lock g).graph i).generation = (s.graph i).generation := by rw [graph_lock]

theorem sets_lock (s : Session) (g i : Nat) :
    ((s.lock g).graph i).sets = (s.graph i).sets := by rw [graph_lock]

theorem Steady.modifyGraph (s : Session) (g : Nat) {f : GraphState → GraphState}
    (hf : ∀ x, GraphSteady x (f x)) : s.Steady (s.modifyGraph g f) where
  files := rfl
  scripts := rfl
  held := rfl
  graphs := Array.size_modify
  graph i := by
    rw [graph_modifyGraph]
    split
    · exact hf _
    · exact .refl _
  entries _ := rfl

theorem Steady.modifyResource (s : Session) (r : Nat) (f : Resource → Resource) :
    s.Steady (s.modifyResource r f) := .of_eq rfl rfl rfl rfl rfl

theorem Steady.publish (s : Session) (g : Nat) (plan : Plan) : s.Steady (s.publish g plan) := by
  by_cases h : plan.generation ≤ (s.graph g).published
  · rw [publish_of_le h]
    exact .refl s
  · rw [publish_of_lt (Nat.not_le.1 h)]
    have hgraph : s.Steady (s.modifyGraph g fun x =>
        { x with published := plan.generation, proxy := some s.proxies.size }) :=
      .modifyGraph s g fun _ => ⟨rfl, rfl, rfl, rfl, rfl, rfl, rfl⟩
    exact hgraph.trans (.of_eq rfl rfl rfl rfl rfl)

theorem Steady.comes {j : Job} {returned : Except (CallError ProgramError) (Program × Bool)}
    (h : Comes s j returned s') : s.Steady s' := by
  cases h with
  | ignored _ hs => exact .of_books hs
  | abandoned _ _ hs =>
    exact (Steady.modifyResource s _ _).trans (.of_books hs)
  | stale _ _ _ hs => exact (Steady.modifyResource s _ _).trans (.of_books hs)
  | @cooked platform _ _ f _ _ hf hs =>
    refine Steady.trans ?_ (.of_books hs)
    refine ⟨rfl, rfl, rfl, rfl, fun g => .refl _, fun p => ?_⟩
    show ((s.platforms.modify platform f).getD p default).entries.map Prod.snd =
      (s.platforms.getD p default).entries.map Prod.snd
    rw [Array.getD_eq_getD_getElem?, Array.getD_eq_getD_getElem?, Array.getElem?_modify]
    split
    · cases s.platforms[p]? with
      | none => rfl
      | some x => simp [hf]
    · rfl
  | @current n plan program r t _ _ _ _ ht hs =>
    have hremoved := (Steady.modifyResource s j.resource fun x => (x.finish n program r).2).trans
      (.modifyGraph _ j.graph fun x =>
      (⟨rfl, rfl, rfl, rfl, rfl, rfl, rfl⟩ : GraphSteady x
        { x with pending := x.pending.filter (· ≠ j.kernel) }))
    have hsettled : t.Steady (t.settle j.graph plan) := by
      unfold settle
      split
      · exact .publish t j.graph plan
      · exact .refl t
    have hhooked : (t.settle j.graph plan).Steady
        ((t.settle j.graph plan).hook j.graph j.kernel r) := .of_eq rfl rfl rfl rfl rfl
    exact (hremoved.trans (.of_books ht)).trans ((hsettled.trans hhooked).trans (.of_books hs))

theorem Steady.countCalls (s : Session) (format : String) (n : Nat) :
    s.Steady (s.countCalls format n) := by
  unfold Session.countCalls
  split
  · exact .refl s
  · exact .of_eq rfl rfl rfl rfl rfl

theorem Steady.runCompile (s : Session) (id : Nat) (t : CompileTask) :
    s.Steady (s.runCompile id t) := by
  unfold Session.runCompile
  split
  · exact .of_eq rfl rfl rfl rfl rfl
  · split
    rename_i outcome calls _
    extract_lets called noted
    have hcalled : s.Steady called := .countCalls s _ _
    refine hcalled.trans ?_
    unfold noted
    cases outcome with
    | error e => exact .of_eq rfl rfl rfl rfl rfl
    | ok q => exact .of_eq rfl rfl rfl rfl rfl

/-- **A step of a worker** leaves the surroundings and the graphs alone. -/
theorem Steady.advance {p : Nat} (hs : s.advance p = some s') : s.Steady s' := by
  unfold Session.advance at hs
  split at hs
  · cases hs
  · split at hs
    · split at hs
      · cases hs
      · dsimp only at hs
        split at hs
        · cases hs
          exact .of_eq rfl rfl rfl rfl rfl
        · split at hs
          · cases hs
            exact .of_eq rfl rfl rfl rfl rfl
          · cases hs
            exact .of_eq rfl rfl rfl rfl rfl
    · split at hs
      · cases hs
      · split at hs
        · cases hs
          refine Steady.trans ?_ (.comes (completeJob_comes _ _ _))
          exact .of_eq rfl rfl rfl rfl rfl
        · split at hs
          · cases hs
          · split at hs
            · split at hs
              · cases hs
              · cases hs
                refine Steady.trans ?_ (.countCalls _ _ _)
                exact .of_eq rfl rfl rfl rfl rfl
            · cases hs
              exact .runCompile _ _ _

theorem Steady.drainAux (fuel : Nat) (s : Session) : s.Steady (s.drainAux fuel) := by
  induction fuel generalizing s with
  | zero => exact .refl s
  | succ fuel ih =>
    unfold Session.drainAux
    split
    · exact .refl s
    · rename_i s' hs
      obtain ⟨p, _, hp⟩ := List.exists_of_findSome?_eq_some hs
      exact (Steady.advance hp).trans (ih s')

theorem Steady.drain (s : Session) : s.Steady s.drain := .drainAux _ s

theorem Steady.takeTask (s : Session) (r : Nat) : s.Steady (s.takeTask r) := by
  unfold Session.takeTask
  split
  split
  · exact .refl s
  · exact .of_eq rfl rfl rfl rfl rfl

theorem Steady.takeTasks (s : Session) (rs : List Nat) : s.Steady (s.takeTasks rs) := by
  have htaken : s.Steady (rs.foldl Session.takeTask s) :=
    List.foldlRecOn rs _ (.refl s) fun s' hs' r _ => hs'.trans (.takeTask s' r)
  exact htaken.trans (.drain _)

theorem Steady.register (s : Session) (id : Nat) (j : Job) : s.Steady (s.register id j) := by
  unfold Session.register
  split
  dsimp only
  split
  · exact .of_eq rfl rfl rfl rfl rfl
  · exact .of_eq rfl rfl rfl rfl rfl

theorem submit_eq (s : Session) (j : Job) :
    s.submit j = if (s.enqueue j).hasClosedPool j.graph then (s.enqueue j).drain
      else (s.enqueue j).register s.tasks.size j := rfl

theorem Steady.submit (s : Session) (j : Job) : s.Steady (s.submit j) := by
  have hqueued : s.Steady (s.enqueue j) := .of_eq rfl rfl rfl rfl rfl
  rw [submit_eq]
  split
  · exact hqueued.trans (.drain _)
  · exact hqueued.trans (.register _ _ _)

end

end KernelGraph.Session
