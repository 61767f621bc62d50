/-
  What callers and jobs know.

  The job of an update moves a run-time resource of its own kernel; the job of a platform moves an
  entry of its own platform.  A platform cache is listed by one graph, under its own name, and an
  entry belongs to one platform.  A cache that is being dropped is not listed by anybody any more.

  `Passes` is what happens to a session while no job is submitted: new platforms may be listed, and
  old ones taken off the list.
-/
import KernelGraph.Proofs.Workshop.Effects
import KernelGraph.Proofs.Pending.Callers
import KernelGraph.Proofs.Pending.Gauge

namespace KernelGraph

namespace Session

/-- The graph lists a platform cache under the name. -/
def Lists (s : Session) (g : Nat) (name : String) (p : Nat) : Prop := (name, p) ∈ (s.graph g).cook

/-- Platform caches are listed by one graph each, under their names, and have no entries in
    common. -/
structure Listing (s : Session) : Prop where
  lt : ∀ {g name p}, s.Lists g name p → p < s.platforms.size
  name : ∀ {g name p}, s.Lists g name p → s.platformName p = name
  alone : ∀ {g name g' name' p}, s.Lists g name p → s.Lists g' name' p → g = g'
  apart : ∀ {p p' r}, r ∈ s.platformResources p → r ∈ s.platformResources p' → p = p'

/-- The cache belongs to the graph, if to any. -/
def IsOf (s : Session) (g p : Nat) : Prop :=
  p < s.platforms.size ∧ ∀ {i name}, s.Lists i name p → i = g

/-- A job of an update moves the resource of its own kernel only, a job of a platform an entry of
    its own platform only. -/
def JobKnown (s : Session) (j : Job) : Prop :=
  match j.kind with
  | .runtime n plan => JobFits s j n plan
  | .cook p => j.resource ∈ s.platformResources p ∧ s.IsOf j.graph p

/-- The cache is not listed any more, and the entry belongs to it. -/
structure ChoreFits (s : Session) (x : Chore) : Prop where
  lt : x.platform < s.platforms.size
  delisted : ∀ {g name}, ¬ s.Lists g name x.platform
  entry : ∀ r ∈ x.resource?, r ∈ s.platformResources x.platform

/-! ## Time goes by -/

/-- No job is submitted, and graphs come to later generations.  New caches are listed, old ones are
    taken off the list. -/
structure Passes (s s' : Session) : Prop extends Elapses s s' where
  jobs : s'.tasks.map CompileTask.job = s.tasks.map CompileTask.job
  platforms : s.platforms.size ≤ s'.platforms.size
  marks : ∀ p < s.platforms.size,
    (s'.platforms.getD p default).mark = (s.platforms.getD p default).mark
  listed : ∀ {g name p}, s'.Lists g name p → s.Lists g name p ∨ s.platforms.size ≤ p

section
variable {s s' s'' : Session} {g p r : Nat} {j : Job}

theorem Lists.lt_size {name : String} (h : s.Lists g name p) : g < s.graphs.size := by
  by_contra hle
  rw [Session.Lists, graph_of_le (Nat.le_of_not_lt hle)] at h
  cases h

theorem lists_of_lookup {name : String} (h : (s.graph g).cook.lookup name = some p) :
    s.Lists g name p := by
  obtain ⟨before, after, heq, _⟩ := List.lookup_eq_some_iff.1 h
  rw [Session.Lists, heq]
  exact List.mem_append_right _ (List.mem_cons_self ..)

theorem platformResources_of_le (h : s.platforms.size ≤ p) : s.platformResources p = [] := by
  rw [platformResources, Array.getD_eq_getD_getElem?, Array.getElem?_eq_none h]
  rfl

theorem lt_of_mem_platformResources (h : r ∈ s.platformResources p) : p < s.platforms.size := by
  by_contra hle
  rw [platformResources_of_le (Nat.le_of_not_lt hle)] at h
  cases h

theorem platformResources_of_mark
    (h : (s'.platforms.getD p default).mark = (s.platforms.getD p default).mark) :
    s'.platformResources p = s.platformResources p :=
  congrArg (fun x => x.2.map Prod.snd) h

theorem platformName_of_mark
    (h : (s'.platforms.getD p default).mark = (s.platforms.getD p default).mark) :
    s'.platformName p = s.platformName p :=
  congrArg (fun x => x.1.name) h

theorem getD_mark_of_map
    (h : s'.platforms.map CookPlatform.mark = s.platforms.map CookPlatform.mark) (p : Nat) :
    (s'.platforms.getD p default).mark = (s.platforms.getD p default).mark := by
  have hp := congrArg (fun a => (a[p]?).getD (default : CookPlatform).mark) h
  simp only [Array.getElem?_map] at hp
  rw [Array.getD_eq_getD_getElem?, Array.getD_eq_getD_getElem?]
  cases h₁ : s'.platforms[p]? with
  | none =>
    cases h₂ : s.platforms[p]? with
    | none => rfl
    | some y => simpa [h₁, h₂] using hp
  | some x =>
    cases h₂ : s.platforms[p]? with
    | none => simpa [h₁, h₂] using hp
    | some y => simpa [h₁, h₂] using hp

theorem Passes.entries (h : s.Passes s') (hp : p < s.platforms.size) :
    s'.platformResources p = s.platformResources p :=
  platformResources_of_mark (h.marks p hp)

theorem Passes.name (h : s.Passes s') (hp : p < s.platforms.size) :
    s'.platformName p = s.platformName p :=
  platformName_of_mark (h.marks p hp)

/-- The caches stay what they are, and no new one is listed. -/
theorem Passes.of_elapses (h : s.Elapses s')
    (hjobs : s'.tasks.map CompileTask.job = s.tasks.map CompileTask.job)
    (hmarks : s'.platforms.map CookPlatform.mark = s.platforms.map CookPlatform.mark)
    (hlisted : ∀ {g name p}, s'.Lists g name p → s.Lists g name p) : s.Passes s' where
  toElapses := h
  jobs := hjobs
  platforms := by
    have := congrArg Array.size hmarks
    simp only [Array.size_map] at this
    omega
  marks p _ := getD_mark_of_map hmarks p
  listed hl := Or.inl (hlisted hl)

theorem Passes.trans (h : s.Passes s') (h' : s'.Passes s'') : s.Passes s'' where
  toElapses := h.toElapses.trans h'.toElapses
  jobs := h'.jobs.trans h.jobs
  platforms := Nat.le_trans h.platforms h'.platforms
  marks p hp := (h'.marks p (Nat.lt_of_lt_of_le hp h.platforms)).trans (h.marks p hp)
  listed hl := by
    rcases h'.listed hl with hl | hle
    · exact h.listed hl
    · exact Or.inr (Nat.le_trans h.platforms hle)

theorem IsOf.passes (h : s.IsOf g p) (hs : s.Passes s') : s'.IsOf g p := by
  refine ⟨Nat.lt_of_lt_of_le h.1 hs.platforms, fun hl => ?_⟩
  rcases hs.listed hl with hl | hle
  · exact h.2 hl
  · exact absurd h.1 (Nat.not_lt.2 hle)

theorem JobKnown.passes (h : s.JobKnown j) (hs : s.Passes s') : s'.JobKnown j := by
  unfold JobKnown at h ⊢
  split at h
  · exact hs.fits h
  · rename_i p _
    rw [hs.entries h.2.1]
    exact ⟨h.1, h.2.passes hs⟩

theorem ChoreFits.passes {x : Chore} (h : s.ChoreFits x) (hs : s.Passes s') : s'.ChoreFits x where
  lt := Nat.lt_of_lt_of_le h.lt hs.platforms
  delisted hl := by
    rcases hs.listed hl with hl | hle
    · exact h.delisted hl
    · exact Nat.not_lt.2 hle h.lt
  entry r hr := by
    rw [hs.entries h.lt]
    exact h.entry r hr

/-- **The list stays in order** while no new cache is listed. -/
theorem Listing.of_marks (h : s.Listing)
    (hmarks : s'.platforms.map CookPlatform.mark = s.platforms.map CookPlatform.mark)
    (hlisted : ∀ {g name p}, s'.Lists g name p → s.Lists g name p) : s'.Listing where
  lt hl := by
    have := congrArg Array.size hmarks
    simp only [Array.size_map] at this
    rw [this]
    exact h.lt (hlisted hl)
  name hl := by
    rw [platformName_of_mark (getD_mark_of_map hmarks _)]
    exact h.name (hlisted hl)
  alone hl hl' := h.alone (hlisted hl) (hlisted hl')
  apart hr hr' := by
    rw [platformResources_of_mark (getD_mark_of_map hmarks _)] at hr hr'
    exact h.apart hr hr'

theorem isCooked_of_jobKnown (h : s.JobKnown j) (hkind : j.kind = .cook p) :
    j.resource ∈ s.platformResources p ∧ s.IsOf j.graph p := by
  rw [JobKnown, hkind] at h
  exact h

theorem jobFits_of_jobKnown {n : Nat} {plan : Plan} (h : s.JobKnown j)
    (hkind : j.kind = .runtime n plan) : JobFits s j n plan := by
  rw [JobKnown, hkind] at h
  exact h

theorem JobKnown.lt (h : s.JobKnown j) (hs : s.Holdings) : j.resource < s.resources.size := by
  unfold JobKnown at h
  split at h
  · exact h.resource
  · exact hs.cooked ⟨_, h.1⟩

end

end Session

/-! ## What a caller knows -/

namespace Workshop

open Session

/-- What a caller knows of its graph, its jobs and the caches that it drops. -/
structure Caller.Fits (s : Session) (x : Caller) : Prop where
  graph : ∀ {g}, x.graph? = some g → g < s.graphs.size
  jobs : ∀ j ∈ x.jobs, s.JobKnown j
  untold : ∀ {id j}, x.untold? = some (id, j) → ∃ t, s.tasks[id]? = some t ∧ t.job = j
  chores : ∀ y ∈ x.chores, s.ChoreFits y
  cook : ∀ {g p failed jobs untold}, x = .submitting g (.cook p) failed jobs untold → s.IsOf g p
  plan : ∀ {g plan failed jobs untold}, x = .submitting g (.update plan) failed jobs untold →
    plan.generation ≤ (s.graph g).generation ∧
      ((s.graph g).closed = true → plan.generation < (s.graph g).generation)
  closing : ∀ {g}, x.Closes g → (s.graph g).closed = true

/-- **Callers and jobs know what they work for.** -/
structure Fitting (W : Workshop) : Prop where
  holdings : W.session.Holdings
  listing : W.session.Listing
  tasks : ∀ {id : Nat} {t : CompileTask}, W.session.tasks[id]? = some t → W.session.JobKnown t.job
  callers : ∀ c, (W.callers c).Fits W.session

section
variable {s s' : Session} {x : Caller} {g : Nat}

/-- A caller that has nothing to submit and drops nothing. -/
theorem Caller.Fits.of_graph (hgraph : ∀ {g}, x.graph? = some g → g < s.graphs.size)
    (hjobs : x.jobs = []) (huntold : x.untold? = none) (hchores : x.chores = [])
    (hsubmitting : ∀ g errand failed jobs untold, x ≠ .submitting g errand failed jobs untold)
    (hclosing : ∀ {g}, x.Closes g → (s.graph g).closed = true) : x.Fits s where
  graph := hgraph
  jobs j hj := by
    rw [hjobs] at hj
    cases hj
  untold h := by
    rw [huntold] at h
    cases h
  chores y hy := by
    rw [hchores] at hy
    cases hy
  cook h := absurd h (hsubmitting _ _ _ _ _)
  plan h := absurd h (hsubmitting _ _ _ _ _)
  closing := hclosing

theorem Caller.fits_idle (s : Session) : Caller.idle.Fits s :=
  .of_graph (fun h => by cases h) rfl rfl rfl (fun _ _ _ _ _ h => by cases h) fun h => by cases h

/-- **What a caller knows stays true** while time goes by. -/
theorem Caller.Fits.passes (h : x.Fits s) (hs : s.Passes s') : x.Fits s' where
  graph hx := Nat.lt_of_lt_of_le (h.graph hx) hs.size
  jobs j hj := (h.jobs j hj).passes hs
  untold hx := by
    obtain ⟨t, ht, hjob⟩ := h.untold hx
    obtain ⟨t', ht', hjob'⟩ := hs.kept ht
    exact ⟨t', ht', hjob'.trans hjob⟩
  chores y hy := (h.chores y hy).passes hs
  cook hx := (h.cook hx).passes hs
  plan hx := by
    obtain ⟨hle, hlt⟩ := h.plan hx
    refine ⟨Nat.le_trans hle (hs.generation _), fun hclosed => ?_⟩
    rcases hs.opened _ hclosed with hc | hgen
    · exact Nat.lt_of_lt_of_le (hlt hc) (hs.generation _)
    · exact Nat.lt_of_le_of_lt hle hgen
  closing hx := hs.closed _ (h.closing hx)

/-- Time goes by for all callers. -/
theorem Fitting.passes {W W' : Workshop} (h : W.Fitting) (hcallers : W'.callers = W.callers)
    (hs : W.session.Passes W'.session) (hholdings : W'.session.Holdings)
    (hlisting : W'.session.Listing) : W'.Fitting where
  holdings := hholdings
  listing := hlisting
  tasks ht' := by
    obtain ⟨t, ht, hjob⟩ := exists_task_of_map_job hs.jobs ht'
    rw [hjob]
    exact (h.tasks ht).passes hs
  callers c := by
    rw [hcallers]
    exact (h.callers c).passes hs

/-- A caller goes on. -/
theorem Fitting.enter {W : Workshop} (h : W.Fitting) (c : Nat) (hx : x.Fits W.session) :
    (W.enter c x).Fitting where
  holdings := h.holdings
  listing := h.listing
  tasks := h.tasks
  callers c' := by
    unfold Workshop.enter
    dsimp only
    by_cases hc : c' = c
    · rw [hc, Function.update_self]
      exact hx
    · rw [Function.update_of_ne hc]
      exact h.callers c'

end

end Workshop

end KernelGraph
