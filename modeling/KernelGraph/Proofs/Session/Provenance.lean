/-
  Runs keep sessions sound.

  Updates, platform caches and the closing of a graph are made of the steps that `Sound` was shown
  to survive.  What an update adds is the link to the history: its plan and its jobs show the graph
  as it was when the update was started, because nothing edits a graph while it is being updated.
-/
import KernelGraph.Proofs.Session.Sound

namespace KernelGraph

/-- A resource that a set has made holds no program; the others hold what they held. -/
theorem ResourceSet.program_of_mem_resource {set : ResourceSet} {store : ResourceStore}
    {level : FeatureLevel} {x : Resource} (hx : x ∈ (set.resource store level).2.2.2) :
    x.program = none ∨ ∃ y ∈ store, x.program = y.program := by
  cases set with
  | editor format table =>
    simp only [resource] at hx
    split at hx
    · exact Or.inr ⟨x, hx, rfl⟩
    · rcases Array.mem_push.1 hx with hx | rfl
      · exact Or.inr ⟨x, hx, rfl⟩
      · exact Or.inl rfl
  | runtime format slot =>
    simp only [resource] at hx
    split at hx
    · exact Or.inr ⟨x, hx, rfl⟩
    · rcases Array.mem_push.1 hx with hx | rfl
      · split at hx
        · rcases Session.mem_or_of_mem_modify hx with hx | ⟨y, hy, rfl⟩
          · exact Or.inr ⟨x, hx, rfl⟩
          · exact Or.inr ⟨y, hy, Resource.program_takeTask y⟩
        · exact Or.inr ⟨x, hx, rfl⟩
      · exact Or.inl rfl

namespace Session

section
variable {H : List Started} {D : Nat → Nat × Graph} {s : Session}

/-! ## Updates -/

theorem Sound.invalidate (h : Sound H D s) (rs : List Nat) :
    Sound H D (rs.foldl (fun s r => s.modifyResource r Resource.invalidate) s) := by
  refine List.foldlRecOn rs _ h fun t ht r _ => ?_
  refine ht.modifyResource r ?_
  intro x p hp
  exact Or.inl hp

theorem Sound.resizeSets (h : Sound H D s) (g : Nat) : Sound H D (s.resizeSets g) := by
  unfold Session.resizeSets
  extract_lets x n removed invalidated kept format
  have hinvalidated : Sound H D invalidated := h.invalidate removed
  exact hinvalidated.modifyGraph g (by intro x; exact ⟨rfl, rfl⟩)

theorem Sound.kernelResource (h : Sound H D s) (g k : Nat) :
    Sound H D (s.kernelResource g k).2 := by
  unfold Session.kernelResource
  extract_lets x set
  split
  rename_i r task set' resources heq
  extract_lets made
  have hmade : Sound H D made := by
    refine Sound.modifyGraph (h.withResources fun y hy p hp => ?_) g (by intro x; exact ⟨rfl, rfl⟩)
    have hy : y ∈ (set.resource s.resources x.options.level).2.2.2 := by rw [heq]; exact hy
    rcases ResourceSet.program_of_mem_resource hy with hnone | ⟨z, hz, hprogram⟩
    · rw [hnone] at hp
      cases hp
    · exact h.held z hz p (by rw [← hprogram, hp])
  dsimp only
  split
  · exact hmade.cancelTask _
  · exact hmade

/-- **Building a kernel** leaves the session sound; a build has the kernel's signature. -/
theorem Sound.buildKernel (h : Sound H D s) (g : Nat) (k : Int) (d : Dialect) (format : String) :
    Sound H D (s.buildKernel g k d format).2 := h

theorem Sound.buildKernel_ok (h : Sound H D s) {g k : Nat} {d : Dialect} {format : String}
    {b : KernelBuild} (hb : (s.buildKernel g k d format).1 = .ok b) :
    (D g).2.signature? k = some b.signature := by
  rw [← h.definition g]
  exact Graph.build_signature hb

/-- What an update of graph `g` has prepared: all of it from the graph as it is. -/
structure SoundPrepared (H : List Started) (D : Nat → Nat × Graph) (g : Nat) (p : Prepared) :
    Prop where
  session : Sound H D p.session
  builds : ∀ k b, (k, b) ∈ p.builds → (D g).2.signature? k = some b.signature
  jobs : ∀ k name isDefault r b, (k, name, isDefault, r, b) ∈ p.jobs →
    (D g).2.signature? k = some b.signature

theorem SoundPrepared.prepareKernel {g : Nat} {p : Prepared} (h : SoundPrepared H D g p)
    (d : Dialect) (k : Nat) (kernel : Kernel) (source : KernelSource) :
    Sound H D (prepareKernel g d p k kernel source).2 ∧
      ∀ q, (prepareKernel g d p k kernel source).1 = .ok q → SoundPrepared H D g q := by
  unfold Session.prepareKernel
  extract_lets o
  split
  rename_i r s₁ hresource
  have hs₁ : Sound H D s₁ := by
    have := h.session.kernelResource g k
    rwa [hresource] at this
  split
  rename_i built s₂ hbuild
  have hs₂ : Sound H D s₂ := by
    have := hs₁.buildKernel g k d o.format
    rwa [hbuild] at this
  extract_lets generation
  split
  · exact ⟨hs₂, fun q hq => by cases hq⟩
  · rename_i e _
    extract_lets result failed
    have hfailed : Sound H D failed :=
      hs₂.modifyResource r (by intro x p hp; exact Or.inl hp)
    refine ⟨hfailed, fun q hq => ?_⟩
    cases hq
    exact ⟨hfailed, h.builds, h.jobs⟩
  · rename_i b
    have hok : (s₁.buildKernel g k d o.format).1 = .ok b := by rw [hbuild]
    have hb : (D g).2.signature? k = some b.signature := hs₁.buildKernel_ok hok
    have hbuilds : ∀ k' b', (k', b') ∈ p.builds ++ [(k, b)] →
        (D g).2.signature? k' = some b'.signature := by
      intro k' b' hmem
      rcases List.mem_append.1 hmem with hmem | hmem
      · exact h.builds k' b' hmem
      · cases List.mem_singleton.1 hmem
        exact hb
    extract_lets q reused begun
    -- a reused kernel has a build and no job, any other has both
    split
    · refine ⟨hs₂, fun q' hq' => ?_⟩
      cases hq'
      exact ⟨hs₂, hbuilds, h.jobs⟩
    · have hbegun : Sound H D begun :=
        hs₂.modifyResource r (by intro x p hp; exact Or.inl hp)
      refine ⟨hbegun, fun q' hq' => ?_⟩
      cases hq'
      refine ⟨hbegun, hbuilds, fun k' name isDefault r' b' hmem => ?_⟩
      rcases List.mem_append.1 hmem with hmem | hmem
      · exact h.jobs k' name isDefault r' b' hmem
      · cases List.mem_singleton.1 hmem
        exact hb

theorem SoundPrepared.prepareKernels {g : Nat} {p : Prepared} (h : SoundPrepared H D g p)
    (d : Dialect) (kernels : List (Nat × Kernel × KernelSource)) :
    Sound H D (prepareKernels g d kernels p).2 ∧
      ∀ q, (prepareKernels g d kernels p).1 = .ok q → SoundPrepared H D g q := by
  induction kernels generalizing p with
  | nil =>
    refine ⟨h.session, fun q hq => ?_⟩
    cases hq
    exact h
  | cons x rest ih =>
    obtain ⟨k, kernel, source⟩ := x
    obtain ⟨hs, hq⟩ := h.prepareKernel d k kernel source
    unfold Session.prepareKernels
    split
    · rename_i e s' heq
      rw [heq] at hs
      exact ⟨hs, fun q hq => by cases hq⟩
    · rename_i p' s' heq
      rw [heq] at hq
      exact ih (hq p' rfl)

theorem Sound.setPending (h : Sound H D s) (g : Nat) (pending : List Nat) :
    Sound H D (s.setPending g pending) := by
  have hgraph : Sound H D (s.modifyGraph g fun x => { x with pending }) :=
    h.modifyGraph g fun _ => ⟨rfl, rfl⟩
  exact hgraph

theorem Sound.reportFailure (h : Sound H D s) (g k : Nat) : Sound H D (s.reportFailure g k) := by
  unfold Session.reportFailure
  extract_lets x kernel isDefault
  split
  · exact h
  · rename_i r _
    extract_lets result
    exact (h.countCompile result).compileFailed g k _ isDefault result

/-- Jobs are submitted one after the other. -/
theorem Sound.submitJobs (h : Sound H D s) (sync : Bool) {jobs : List Job}
    (hjobs : ∀ j ∈ jobs, Ordered H j) : Sound H D (s.submitJobs sync jobs) := by
  refine List.foldlRecOn jobs _ h fun t ht j hj => ?_
  have hsubmitted : Sound H D (t.submit j) := ht.submit (hjobs j hj)
  exact Sound.ite hsubmitted.drain hsubmitted

/-- **A generation is started**: its plan and its jobs show the graph that the history has for
    it. -/
theorem Sound.startGeneration (h : Sound H D s) {g : Nat} (hg : ⟨g, (D g).1, (D g).2⟩ ∈ H)
    (d : Dialect) (sync : Bool) : Sound H D (s.startGeneration g d sync).2 := by
  unfold Session.startGeneration
  extract_lets resized
  have hresized : Sound H D resized := h.resizeSets g
  have hempty : SoundPrepared H D g { session := resized } :=
    ⟨hresized, fun _ _ hmem => absurd hmem List.not_mem_nil,
      fun _ _ _ _ _ hmem => absurd hmem List.not_mem_nil⟩
  obtain ⟨hfailed, hprepared⟩ :=
    hempty.prepareKernels d (resized.graph g).definition.compilable
  split
  · rename_i e s' heq
    rw [heq] at hfailed
    exact hfailed.modifyGraph g fun _ => ⟨rfl, rfl⟩
  · rename_i p s' heq
    have hp : SoundPrepared H D g p := hprepared p (by rw [heq])
    extract_lets x plan planNotes pending reported submitted drained y
    have hgeneration : x.generation = (D g).1 := hp.session.generation g
    have hdefinition : x.definition = (D g).2 := hp.session.definition g
    -- preparing has changed neither the generation nor the definition of the graph
    have hplan : Started.Plans ⟨g, (D g).1, (D g).2⟩ g plan := by
      refine ⟨rfl, hgeneration.symm, fun v hv => ?_⟩
      unfold plan at hv
      rw [hdefinition] at hv
      exact Graph.plan_signature? hp.builds hv
    have hpending : Sound H D pending := Sound.setPending hp.session g _
    have hreported : Sound H D reported :=
      List.foldlRecOn p.failed _ hpending fun t ht k _ => ht.reportFailure g k
    have hsubmitted : Sound H D submitted := by
      refine hreported.submitJobs sync fun j hj => ?_
      obtain ⟨⟨k, name, isDefault, r, b⟩, hmem, rfl⟩ := List.mem_map.1 hj
      intro n plan' hkind
      cases hkind
      exact ⟨_, hg, hplan, rfl, hp.jobs k name isDefault r b hmem⟩
    have hdrained : Sound H D drained := Sound.ite hsubmitted.drain hsubmitted
    exact Sound.ite (hdrained.publish hg hplan) hdrained

/-! ## Platform caches -/

theorem Sound.dropPlatform (h : Sound H D s) (platform : Nat) :
    Sound H D (s.dropPlatform platform) := by
  unfold Session.dropPlatform
  extract_lets taken announced
  have htaken : Sound H D taken := h.takeTasks _
  have hannounced : Sound H D announced := htaken.withPlatforms _
  exact hannounced.invalidate _

theorem Sound.clearPlatform (h : Sound H D s) (g : Nat) (name : String) :
    Sound H D (s.clearPlatform g name) := by
  unfold Session.clearPlatform
  split
  · exact h
  · exact Sound.dropPlatform (h.modifyGraph g (by intro x; exact ⟨rfl, rfl⟩)) _

theorem Sound.clearPlatforms (h : Sound H D s) (g : Nat) : Sound H D (s.clearPlatforms g) := by
  unfold Session.clearPlatforms
  extract_lets cook
  have hforgotten : Sound H D (s.modifyGraph g fun x => { x with cook := [] }) :=
    h.modifyGraph g fun _ => ⟨rfl, rfl⟩
  exact List.foldlRecOn cook _ hforgotten fun t ht e _ => ht.dropPlatform e.2

theorem Sound.buildKernels {g : Nat} {d : Dialect} {format : String}
    {kernels : List (Nat × Kernel × KernelSource)} (h : Sound H D s) :
    Sound H D (buildKernels g d format kernels s).2 := by
  induction kernels generalizing s with
  | nil => exact h
  | cons x rest ih =>
    have hbuild := h.buildKernel g x.1 d format
    unfold Session.buildKernels
    split
    · rename_i e s' heq
      rw [heq] at hbuild
      exact hbuild
    · rename_i built s' _ heq
      rw [heq] at hbuild
      have hrest := ih hbuild
      split
      · rename_i e s'' heq'
        rw [heq'] at hrest
        exact hrest
      · rename_i builds s'' heq'
        rw [heq'] at hrest
        exact hrest

theorem Sound.buildFormats {g : Nat} {platform : String} {formats : List String} (h : Sound H D s) :
    Sound H D (buildFormats g platform formats s).2 := by
  induction formats generalizing s with
  | nil => exact h
  | cons format rest ih =>
    unfold Session.buildFormats
    extract_lets compiler built
    have hbuilt : Sound H D built.2 := by
      cases hc : s.compiler? format with
      | none =>
        simp only [built, compiler, hc]
        exact h
      | some c =>
        simp only [built, compiler, hc]
        exact h.buildKernels
    clear_value built
    obtain ⟨result, s'⟩ := built
    cases result with
    | error e => exact hbuilt
    | ok builds =>
      have hrest := ih hbuilt
      dsimp only
      split
      · rename_i e s'' heq
        rw [heq] at hrest
        exact hrest
      · rename_i fs s'' heq
        rw [heq] at hrest
        exact hrest

/-- A sound session with the jobs of a platform, which bring no plans. -/
structure SoundEntries (H : List Started) (D : Nat → Nat × Graph) (state : Session × List Job) :
    Prop where
  session : Sound H D state.1
  jobs : ∀ j ∈ state.2, Ordered H j

theorem Sound.cookFailed (h : Sound H D s) (g k : Nat) (platform : String) (isDefault : Bool)
    (r : CompileResult) : Sound H D (s.cookFailed g k platform isDefault r) := by
  rw [Session.cookFailed]
  exact Sound.ite h h

theorem SoundEntries.makeEntry {state : Session × List Job} (h : SoundEntries H D state)
    (g platform : Nat) (f : FormatBuilds) (k : Nat) (kernel : Kernel) (source : KernelSource) :
    SoundEntries H D (makeEntry g platform f state k kernel source) := by
  unfold Session.makeEntry
  extract_lets level
  split
  rename_i s jobs
  extract_lets r made failed
  have hmade : Sound H D made := by
    refine Sound.withResources h.session fun x hx p hp => ?_
    rcases Array.mem_push.1 hx with hx | rfl
    · exact h.session.held x hx p hp
    · cases hp
  have hfailed : ∀ e, SoundEntries H D (failed e) := by
    intro e
    refine ⟨Sound.cookFailed (Sound.countCompile ?_ _) _ _ _ _ _, h.jobs⟩
    exact hmade.modifyResource r (by intro x p hp; exact Or.inl hp)
  split
  · exact hfailed _
  · exact hfailed _
  · rename_i b _
    refine ⟨hmade.modifyResource r (by intro x p hp; exact Or.inl hp), fun j hj => ?_⟩
    rcases List.mem_append.1 hj with hj | hj
    · exact h.jobs j hj
    · -- a platform's job is no update's
      cases List.mem_singleton.1 hj
      intro n plan hkind
      cases hkind
  · exact ⟨hmade, h.jobs⟩

theorem Sound.announceReady (h : Sound H D s) (g platform : Nat) :
    Sound H D (s.announceReady g platform) := by
  unfold Session.announceReady
  exact Sound.ite h h

theorem Sound.beginPlatform (h : Sound H D s) (g : Nat) (platform : TargetPlatform) :
    Sound H D (s.beginPlatform g platform).2 := by
  unfold Session.beginPlatform
  split
  · exact h
  · extract_lets cleared
    have hcleared : Sound H D cleared := h.clearPlatform g platform.name
    split
    · exact hcleared
    · have hbuilt : Sound H D (Session.buildFormats g platform.name platform.formats cleared).2 :=
        hcleared.buildFormats
      split
      · rename_i e s' heq
        rw [heq] at hbuilt
        exact hbuilt
      · rename_i formats s' heq
        rw [heq] at hbuilt
        extract_lets id opened kernels
        have hopened : SoundEntries H D (opened, []) :=
          ⟨hbuilt, fun j hj => absurd hj List.not_mem_nil⟩
        split
        rename_i made jobs hmade
        have hentries : SoundEntries H D (made, jobs) := by
          rw [← hmade]
          -- every format has an entry for every kernel
          refine List.foldlRecOn formats _ hopened fun state hstate f _ => ?_
          refine List.foldlRecOn kernels _ hstate fun state hstate x _ => ?_
          exact hstate.makeEntry g id f x.1 x.2.1 x.2.2
        extract_lets listed first second
        have hlisted : Sound H D listed :=
          hentries.session.modifyGraph g (by intro x; exact ⟨rfl, rfl⟩)
        -- default kernels are waited for, the others are only submitted
        have hfirst : Sound H D first :=
          List.foldlRecOn _ _ hlisted fun t ht j hj =>
            (ht.submit (hentries.jobs j (List.mem_of_mem_filter hj))).drain
        have hsecond : Sound H D second :=
          List.foldlRecOn _ _ hfirst fun t ht j hj =>
            ht.submit (hentries.jobs j (List.mem_of_mem_filter hj))
        exact hsecond.announceReady g id

/-! ## Closing -/

/-- A graph gets a new generation or another definition. -/
theorem Sound.changeGraph (h : Sound H D s) {g : Nat} (hg : g < s.graphs.size)
    (f : GraphState → GraphState) :
    Sound H (Function.update D g ((f (s.graph g)).generation, (f (s.graph g)).definition))
      (s.modifyGraph g f) where
  ledger i := by
    by_cases hi : i = g
    · subst hi
      simp [Session.modifyGraph, Session.graph, Array.getElem_modify, hg]
    · rw [Function.update_of_ne hi, ← h.ledger i]
      simp [Session.modifyGraph, Array.getElem?_modify, Ne.symm hi]
  cached := h.cached
  held := h.held
  ordered := h.ordered
  published := h.published

/-- **Closing a graph** leaves everything sound; the graph has a new generation. -/
theorem Sound.close (h : Sound H D s) {g : Nat} (hg : g < s.graphs.size) :
    ∃ n, (D g).1 ≤ n ∧ Sound H (Function.update D g (n, (D g).2)) (s.close g) := by
  unfold Session.close
  split
  · refine ⟨(D g).1, le_refl _, ?_⟩
    rw [Function.update_eq_self]
    exact h
  · refine ⟨(D g).1 + 1, Nat.le_succ _, ?_⟩
    extract_lets closed cook runtime cooked taken invalidated settled announced proxy emptied
      released o pooled
    have hclosed : Sound H (Function.update D g ((D g).1 + 1, (D g).2)) closed := by
      rw [← h.generation g, ← h.definition g]
      exact h.changeGraph hg fun x => { x with closed := true, generation := x.generation + 1 }
    have hinvalidated : Sound H _ invalidated :=
      (hclosed.takeTasks (runtime ++ cooked)).invalidate (runtime ++ cooked)
    have hsettled : Sound H _ settled := hinvalidated.setPending g []
    have hannounced : Sound H _ announced := hsettled.withPlatforms _
    have hemptied : Sound H _ emptied := hannounced.modifyGraph g (by intro x; exact ⟨rfl, rfl⟩)
    have hreleased : Sound H _ released := hemptied.releaseProxy g proxy
    have hpooled : Sound H _ pooled := Sound.ite (hreleased.closePool o.pool) hreleased
    exact hpooled.note _

/-! ## Runs -/

/-- An update that is rejected leaves the session sound; one that is accepted is started with a new
    generation and enters the history. -/
theorem Sound.update (h : Sound H D s) {g : Nat} (hg : g < s.graphs.size)
    (hfree : (s.graph g).locked = false) (sync : Bool) :
    (s.accepts g = false → Sound H D (s.update g sync).2) ∧
    (s.accepts g = true → Sound (H ++ [⟨g, (D g).1 + 1, (D g).2⟩])
      (Function.update D g ((D g).1 + 1, (D g).2)) (s.update g sync).2) := by
  unfold Session.update Session.accepts
  extract_lets x started taken
  split
  · rename_i e hvalidate
    rw [hvalidate]
    refine ⟨fun _ => h, fun haccepts => ?_⟩
    cases haccepts
  · rename_i hvalidate
    rw [hvalidate]
    split
    · rename_i hcompiler
      rw [hcompiler]
      refine ⟨fun _ => h, fun haccepts => ?_⟩
      cases haccepts
    · rename_i c hcompiler
      rw [hcompiler]
      split
      · rename_i hclosed
        rw [hclosed]
        refine ⟨fun _ => h, fun haccepts => ?_⟩
        cases haccepts
      · rename_i hclosed
        have hlocked : x.locked = false := hfree
        refine ⟨fun haccepts => absurd haccepts (by simp [hclosed, hlocked, Except.toBool]),
          fun _ => ?_⟩
        have hstarted : Sound H (Function.update D g ((D g).1 + 1, (D g).2)) started := by
          rw [← h.generation g, ← h.definition g]
          exact h.changeGraph hg fun x => { x with generation := x.generation + 1 }
        -- the update enters the history before any of its jobs is submitted
        have hentered : Sound (H ++ [⟨g, (D g).1 + 1, (D g).2⟩]) _ started :=
          hstarted.mono fun u hu => List.mem_append_left _ hu
        have htaken : Sound (H ++ [⟨g, (D g).1 + 1, (D g).2⟩]) _ taken := hentered.takeTasks _
        refine htaken.startGeneration ?_ _ sync
        rw [Function.update_self]
        exact List.mem_append_right _ (List.mem_singleton_self _)

/-- Updates are numbered: none has a number above its graph's generation, and no two updates of a
    graph have the same one. -/
structure Numbered (H : List Started) (D : Nat → Nat × Graph) : Prop where
  le : ∀ u ∈ H, u.generation ≤ (D u.graph).1
  unique : ∀ u ∈ H, ∀ u' ∈ H, u.graph = u'.graph → u.generation = u'.generation → u = u'

theorem Numbered.mono {D' : Nat → Nat × Graph} (h : Numbered H D)
    (hD : ∀ g, (D g).1 ≤ (D' g).1) : Numbered H D' where
  le u hu := Nat.le_trans (h.le u hu) (hD u.graph)
  unique := h.unique

theorem Numbered.snoc (h : Numbered H D) (g : Nat) (G : Graph) :
    Numbered (H ++ [⟨g, (D g).1 + 1, G⟩]) (Function.update D g ((D g).1 + 1, G)) := by
  have hfresh : ∀ u ∈ H, ¬ (u.graph = g ∧ u.generation = (D g).1 + 1) := by
    rintro u hu ⟨rfl, hgeneration⟩
    have := h.le u hu
    omega
  refine ⟨fun u hu => ?_, fun u hu u' hu' hgraph hgeneration => ?_⟩
  · rcases List.mem_append.1 hu with hu | hu
    · have := h.le u hu
      by_cases hg : u.graph = g
      · rw [hg, Function.update_self]
        rw [hg] at this
        exact Nat.le_succ_of_le this
      · rwa [Function.update_of_ne hg]
    · rw [List.mem_singleton.1 hu, Function.update_self]
  · rcases List.mem_append.1 hu with hu | hu <;> rcases List.mem_append.1 hu' with hu' | hu'
    · exact h.unique u hu u' hu' hgraph hgeneration
    · rw [List.mem_singleton.1 hu'] at hgraph hgeneration
      exact absurd ⟨hgraph, hgeneration⟩ (hfresh u hu)
    · rw [List.mem_singleton.1 hu] at hgraph hgeneration
      exact absurd ⟨hgraph.symm, hgeneration.symm⟩ (hfresh u' hu')
    · rw [List.mem_singleton.1 hu, List.mem_singleton.1 hu']

theorem Sound.addGraph (h : Sound H D s) (definition : Graph) (options : GraphOptions) :
    Sound H (Function.update D s.graphs.size ((D s.graphs.size).1, definition))
      (s.addGraph definition options) where
  ledger i := by
    have hsize := h.generation s.graphs.size
    rw [Session.graph, Array.getD_eq_getD_getElem?, Array.getElem?_size, Option.getD_none] at hsize
    by_cases hi : i = s.graphs.size
    · subst hi
      rw [Function.update_self, ← hsize]
      simp [Session.addGraph]
      rfl
    · rw [Function.update_of_ne hi, ← h.ledger i]
      simp [Session.addGraph, Array.getElem?_push, hi]
  cached := h.cached
  held := h.held
  ordered := h.ordered
  published := h.published

theorem le_update {g n : Nat} (D : Nat → Nat × Graph) (hle : (D g).1 ≤ n) (G : Graph) (i : Nat) :
    (D i).1 ≤ (Function.update D g (n, G) i).1 := by
  by_cases hi : i = g
  · rw [hi, Function.update_self]
    exact hle
  · rw [Function.update_of_ne hi]

/-- **One action** keeps a session sound and the updates numbered. -/
theorem Sound.step (h : Sound H D s) (hn : Numbered H D) (a : Action)
    (ha : a.Enabled s) :
    ∃ D', Sound (H ++ a.started s) D' (a.apply s) ∧ Numbered (H ++ a.started s) D' := by
  -- an action that starts no update may still change a definition or raise a generation
  have hother : ∀ D', a.started s = [] → (∀ g, (D g).1 ≤ (D' g).1) → Sound H D' (a.apply s) →
      ∃ D', Sound (H ++ a.started s) D' (a.apply s) ∧ Numbered (H ++ a.started s) D' := by
    intro D' hstarted hle hsound
    rw [hstarted, List.append_nil]
    exact ⟨D', hsound, hn.mono hle⟩
  have hquiet : a.started s = [] → Sound H D (a.apply s) →
      ∃ D', Sound (H ++ a.started s) D' (a.apply s) ∧ Numbered (H ++ a.started s) D' :=
    fun hstarted hsound => hother D hstarted (fun _ => Nat.le_refl _) hsound
  cases a with
  | addGraph definition options =>
    exact hother _ rfl (le_update D (Nat.le_refl _) definition) (h.addGraph definition options)
  | edit g f =>
    have hle : (D g).1 ≤ (s.graph g).generation := Nat.le_of_eq (h.generation g).symm
    exact hother _ rfl (le_update D hle _)
      (h.changeGraph (ha.graph g rfl) fun x => { x with definition := f x.definition })
  | update g sync =>
    obtain ⟨hrejected, haccepted⟩ := h.update (ha.graph g rfl) (ha.free g rfl) sync
    cases haccepts : s.accepts g with
    | false =>
      refine hquiet ?_ (hrejected haccepts)
      rw [Action.started, haccepts]
      rfl
    | true =>
      have hstarted : (Action.update g sync).started s = [⟨g, (D g).1 + 1, (D g).2⟩] := by
        rw [Action.started, haccepts, h.generation, h.definition]
        rfl
      rw [hstarted]
      exact ⟨_, haccepted haccepts, hn.snoc g (D g).2⟩
  | close g =>
    obtain ⟨n, hle, hclose⟩ := h.close (ha.graph g rfl)
    exact hother _ rfl (le_update D hle _) hclose
  | build g k d format => exact hquiet rfl (h.buildKernel g k d format)
  | beginPlatform g platform => exact hquiet rfl (h.beginPlatform g platform)
  | clearPlatform g name => exact hquiet rfl (h.clearPlatform g name)
  | clearPlatforms g => exact hquiet rfl (h.clearPlatforms g)
  | advance p =>
    refine hquiet rfl ?_
    rw [Action.apply]
    cases hs : s.advance p with
    | none => exact h
    | some s' => exact h.advance hs
  | openPool => exact hquiet rfl h
  | closePool p => exact hquiet rfl (h.closePool p)
  | hold => exact hquiet rfl h
  | release =>
    have hfree : Sound H D { s with held := false } := h
    exact hquiet rfl hfree.drain
  | runQueue => exact hquiet rfl h.runQueue
  | lookup key => exact hquiet rfl (h.withCache (h.cached.lookup key))
  | clearCache => exact hquiet rfl (h.withCache h.cached.clear)
  | files f => exact hquiet rfl h
  | scripts xs => exact hquiet rfl h
  | takeEvents => exact hquiet rfl h

/-- **Every run** leads to a sound session, with numbered updates. -/
theorem Run.sound (h : Run H s) : ∃ D, Sound H D s ∧ Numbered H D := by
  induction h with
  | start _ _ limit =>
    refine ⟨fun _ => (0, default), ⟨fun g => ?_, ProgramCache.yields_empty limit, ?_, ?_, ?_⟩, ?_,
      ?_⟩
    · simp only [Array.getD_eq_getD_getElem?, Array.getElem?_empty, Option.getD_none]
      rfl
    all_goals simp
  | step a ha _ ih =>
    obtain ⟨D, hsound, hnumbered⟩ := ih
    exact hsound.step hnumbered a ha

end

end Session

end KernelGraph
