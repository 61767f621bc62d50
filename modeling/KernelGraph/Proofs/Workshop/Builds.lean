/-
  The kernels that are built for a platform.

  The caller that begins a platform builds its kernels for one format after the other, and between
  two formats anything may happen but that the graph is edited.  So when the entries are made, there
  are builds for all formats that were asked for, in their order, and all of them are of the kernels
  that the graph has then.
-/
import KernelGraph.Proofs.Workshop.Keeping

namespace KernelGraph

namespace Session

/-- The builds of a format are those of the kernels of a definition, if the format had a compiler at
    that time; otherwise there are none. -/
def FormatBuilds.MadeFor (g : Nat) (G : Graph) (f : FormatBuilds) : Prop :=
  ∃ s : Session, (s.graph g).definition = G ∧ f.compiler = s.compiler? f.format ∧
    ∀ compiler, f.compiler = some compiler → ∀ x ∈ G.compilable,
      ∃ t, s.Reads t ∧ f.builds.lookup x.1 = some (t.buildKernel g x.1 compiler.dialect f.format).1

section
variable {s s' : Session} {g : Nat}

/-- Each kernel is built once, in a session in which only files have been read before. -/
theorem lookup_buildKernels {d : Dialect} {format : String}
    (kernels : List (Nat × Kernel × KernelSource)) {s : Session}
    {builds : List (Nat × Except GraphError KernelBuild)}
    (h : (buildKernels g d format kernels s).1 = .ok builds) :
    ∀ x ∈ kernels, ∃ t, s.Reads t ∧
      builds.lookup x.1 = some (t.buildKernel g x.1 d format).1 := by
  induction kernels generalizing s builds with
  | nil =>
    intro x hx
    cases hx
  | cons y rest ih =>
    obtain ⟨k, kernel⟩ := y
    have hbuilt : s.Reads (s.buildKernel g k d format).2 := ⟨_, _, _, rfl⟩
    unfold buildKernels at h
    split at h
    · cases h
    · rename_i built s₁ _ heq
      rw [heq] at hbuilt
      split at h
      · cases h
      · rename_i others s₂ hothers
        obtain rfl : (k, built) :: others = builds := Except.ok.inj h
        intro x hx
        by_cases hk : x.1 = k
        · refine ⟨s, .refl s, ?_⟩
          rw [List.lookup_cons, hk, beq_self_eq_true, heq]
        · have hrest : x ∈ rest := (List.mem_cons.1 hx).resolve_left fun hxy => hk (by rw [hxy])
          obtain ⟨t, ht, hlookup⟩ := ih (s := s₁) (by rw [hothers]) x hrest
          refine ⟨t, hbuilt.trans ht, ?_⟩
          rw [List.lookup_cons, beq_false_of_ne hk]
          exact hlookup

/-- **The kernels are built for a format**, with the compiler that it has. -/
theorem buildFormats_singleton {platform format : String} {fs : List FormatBuilds}
    (h : (buildFormats g platform [format] s).1 = .ok fs) :
    ∃ f, fs = [f] ∧ f.format = format ∧ f.MadeFor g (s.graph g).definition := by
  unfold buildFormats at h
  extract_lets compiler built at h
  generalize hout : built = out at h
  obtain ⟨result, s₁⟩ := out
  cases result with
  | error e => cases h
  | ok builds =>
    unfold buildFormats at h
    refine ⟨⟨format, compiler, builds⟩, (Except.ok.inj h).symm, rfl, s, rfl, rfl,
      fun c hc x hx => ?_⟩
    dsimp only at hc
    simp only [built, hc] at hout
    exact lookup_buildKernels _ (by rw [hout]) x hx

theorem length_buildFormats_singleton {platform format : String} {fs : List FormatBuilds}
    (h : (buildFormats g platform [format] s).1 = .ok fs) : fs.length = 1 := by
  obtain ⟨f, rfl, _⟩ := buildFormats_singleton h
  rfl

/-- The builds for several formats are those for the first and those for the others. -/
theorem buildFormats_cons (platform format : String) (rest : List String) (s : Session) :
    buildFormats g platform (format :: rest) s =
      match buildFormats g platform [format] s with
      | (.error e, s) => (.error e, s)
      | (.ok fs, s) =>
        match buildFormats g platform rest s with
        | (.error e, s) => (.error e, s)
        | (.ok fs', s) => (.ok (fs ++ fs'), s) := by
  rw [buildFormats.eq_2, buildFormats.eq_2]
  cases s.compiler? format with
  | none => rfl
  | some c =>
    dsimp only
    cases buildKernels g c.dialect format (s.graph g).definition.compilable s with
    | mk result s' =>
      cases result with
      | error e => rfl
      | ok builds => rfl

/-- Each format has its builds. -/
theorem length_buildFormats {platform : String} (formats : List String) {s : Session}
    {fs : List FormatBuilds} (h : (buildFormats g platform formats s).1 = .ok fs) :
    fs.length = formats.length := by
  induction formats generalizing s fs with
  | nil =>
    cases h
    rfl
  | cons format rest ih =>
    rw [buildFormats_cons] at h
    split at h
    · cases h
    · rename_i first s' hfirst
      split at h
      · cases h
      · rename_i others s'' hothers
        cases h
        rw [List.length_append, length_buildFormats_singleton (by rw [hfirst]),
          ih (by rw [hothers]), List.length_cons, Nat.add_comm]

namespace FormatBuilds

variable {f : FormatBuilds} {G : Graph}

/-- Every kernel has been built for a format with a compiler. -/
theorem MadeFor.lookup (h : f.MadeFor g G) {compiler : Compiler} (hc : f.compiler = some compiler)
    {x : Nat × Kernel × KernelSource} (hx : x ∈ G.compilable) :
    ∃ built, f.builds.lookup x.1 = some built := by
  obtain ⟨_, _, _, hbuilds⟩ := h
  obtain ⟨_, _, hlookup⟩ := hbuilds compiler hc x hx
  exact ⟨_, hlookup⟩

/-- **The entry of a kernel** fails at once, or its build is compiled. -/
theorem MadeFor.failure_or_build (h : f.MadeFor g G) {x : Nat × Kernel × KernelSource}
    (hx : x ∈ G.compilable) :
    (∃ e, f.failure? x.1 = some e) ∨ f.failure? x.1 = none ∧ ∃ b, f.build? x.1 = some b := by
  unfold failure? build?
  cases hc : f.compiler with
  | none => exact Or.inl ⟨_, rfl⟩
  | some compiler =>
    obtain ⟨built, hlookup⟩ := h.lookup hc hx
    rw [hlookup]
    cases built with
    | error e => exact Or.inl ⟨_, rfl⟩
    | ok b => exact Or.inr ⟨rfl, b, rfl⟩

end FormatBuilds

end

end Session

namespace Workshop

open Session

/-- The graph, the platform and the builds of a caller that builds. -/
def Caller.building? : Caller → Option (Nat × TargetPlatform × List FormatBuilds)
  | building g platform builds => some (g, platform, builds)
  | _ => none

/-- The caller has built for the formats that come first, for the kernels that the graph has. -/
def Caller.HasBuilt (s : Session) (x : Caller) : Prop :=
  ∀ {g platform builds}, x.building? = some (g, platform, builds) →
    builds.map FormatBuilds.format = platform.formats.take builds.length ∧
      ∀ f ∈ builds, f.MadeFor g (s.graph g).definition

section
variable {W W' : Workshop} {d : Duty} {c g : Nat}

theorem definition_of_overhauls {s s' : Session} {i : Nat} (h : Overhauls i s s') (g : Nat) :
    (s'.graph g).definition = (s.graph g).definition := by
  by_cases hg : g = i
  · obtain ⟨_, _, _, heq⟩ := h.graph
    rw [hg, heq]
  · rw [h.other g hg]

/-- **Nobody edits a graph** that somebody works on. -/
theorem Step.definition (hstep : Step d W W') (h : W.Fitting) (hg : (W.callers c).graph? = some g) :
    (W'.session.graph g).definition = (W.session.graph g).definition := by
  cases hstep with
  | aside haside => exact haside.edited c g hg
  | collect => rfl
  | turn _ => rfl
  | execute _ => rfl
  | handOver _ => exact (Tends.releaseProxy ..).definition g
  | drop _ _ _ => rfl
  | abandon _ _ _ _ => rfl
  | deliver _ _ _ _ => rfl
  | @strike _ id t n plan program r _ _ _ => exact (tends_strike W t.job n plan).definition g
  | tellUpdate _ _ _ => exact (Tends.tellUpdate ..).definition g
  | tellCook _ _ _ => exact (Tends.tellCook ..).definition g
  | begin _ _ _ => exact (Tends.begun ..).definition g
  | @prepare _ c' i n d p s' hwaiting _ hopen hn hp =>
    have hi : i < W.session.graphs.size := (h.callers c').graph (by rw [hwaiting]; rfl)
    have hoverhaul := (jobFits_preparedJobs h.holdings hi hopen hp).1
    exact definition_of_overhauls hoverhaul g
  | @stop _ c' i n d e s' hwaiting _ hopen hn hp =>
    have hi : i < W.session.graphs.size := (h.callers c').graph (by rw [hwaiting]; rfl)
    have hoverhaul := overhauls_stopped h.holdings hi hp
    exact definition_of_overhauls hoverhaul g
  | report _ => exact (Tends.reportFailure ..).definition g
  | enqueue _ => rfl
  | register _ => exact (Tends.register ..).definition g
  | @finishUpdate _ c' i plan _ _ => exact (tends_finish W i plan).definition g
  | delist _ _ _ _ => exact (Tends.delist ..).definition g
  | delistAll _ _ _ => exact (Tends.delistAll ..).definition g
  | chore _ => exact (Tends.chore ..).definition g
  | @build _ c' i platform builds format _ _ _ =>
    exact (Tends.of_reads (.buildFormats [format] W.session)).definition g
  | @install _ c' i platform builds _ _ _ =>
    dsimp only [enter]
    rw [graph_install]
    split
    · rfl
    · rfl
  | finishCook _ => exact (Tends.announceReady ..).definition g
  | beginClose _ _ _ _ => exact (Tends.shutDown ..).definition g
  | vacate _ => exact (Tends.vacate ..).definition g
  | retract _ => exact (Tends.retract ..).definition g

theorem Caller.hasBuilt_of_none {s : Session} {x : Caller} (h : x.building? = none) :
    x.HasBuilt s := by
  intro g platform builds hx
  rw [h] at hx
  cases hx

theorem Caller.graph?_of_building? {x : Caller} {platform : TargetPlatform}
    {builds : List FormatBuilds} (h : x.building? = some (g, platform, builds)) :
    x.graph? = some g := by
  cases x with
  | building _ _ _ =>
    cases h
    rfl
  | _ => cases h

/-- **Builds are up to date**: all callers have built for the kernels that their graphs have. -/
structure Built (W : Workshop) : Prop where
  callers : ∀ c, (W.callers c).HasBuilt W.session

theorem Built.next (h : W.Built) (hcallers : W'.callers = W.callers)
    (hdefinition : ∀ c g, (W.callers c).graph? = some g →
      (W'.session.graph g).definition = (W.session.graph g).definition) : W'.Built where
  callers c g platform builds hx := by
    rw [hcallers] at hx
    rw [hdefinition c g (Caller.graph?_of_building? hx)]
    exact h.callers c hx

theorem Built.enter (h : W.Built) (c : Nat) {x : Caller} (hx : x.HasBuilt W.session) :
    (W.enter c x).Built where
  callers c' := by
    by_cases hc : c' = c
    · rw [hc, callers_enter_self]
      exact hx
    · rw [callers_enter_of_ne W hc]
      exact h.callers c'

/-- A caller goes on to something else. -/
theorem Built.leave {c : Nat} {x : Caller} (h : W.Built) (hcallers : W'.callers = W.callers)
    (hdefinition : ∀ c g, (W.callers c).graph? = some g →
      (W'.session.graph g).definition = (W.session.graph g).definition)
    (hx : x.building? = none) : (W'.enter c x).Built :=
  (h.next hcallers hdefinition).enter c (Caller.hasBuilt_of_none hx)

/-- The kernels are built for the next format. -/
theorem Caller.HasBuilt.built {s s' : Session} {platform : TargetPlatform}
    {builds : List FormatBuilds}
    {format : String} (h : (Caller.building g platform builds).HasBuilt s)
    (hformat : platform.formats[builds.length]? = some format)
    (hdefinition : (s'.graph g).definition = (s.graph g).definition) :
    (Caller.built g platform builds (buildFormats g platform.name [format] s).1).HasBuilt s' := by
  obtain ⟨hformats, hmade⟩ := h rfl
  unfold Caller.built
  split
  · rename_i fs hfs
    obtain ⟨f, rfl, rfl, hf⟩ := buildFormats_singleton hfs
    intro g' platform' builds' hx
    cases hx
    rw [hdefinition]
    refine ⟨?_, fun f' hf' => ?_⟩
    · rw [List.map_append, hformats, List.length_append, List.length_singleton,
        List.take_add_one, hformat]
      rfl
    · rcases List.mem_append.1 hf' with hf' | hf'
      · exact hmade f' hf'
      · rw [List.mem_singleton.1 hf']
        exact hf
  · exact Caller.hasBuilt_of_none rfl

theorem Built.step (h : W.Built) (hfitting : W.Fitting) (hstep : Step d W W') : W'.Built := by
  have hdefinition : ∀ c g, (W.callers c).graph? = some g →
      (W'.session.graph g).definition = (W.session.graph g).definition :=
    fun _ _ hg => hstep.definition hfitting hg
  cases hstep with
  | aside _ => exact h.next rfl hdefinition
  | collect => exact h.next rfl hdefinition
  | @turn _ c x hturn =>
    generalize hy : W.callers c = y at hturn
    cases hturn with
    | quit _ _ => exact h.enter c (Caller.hasBuilt_of_none rfl)
    | inline _ => exact h.enter c (Caller.hasBuilt_of_none rfl)
    | cleared => exact h.enter c (Caller.hasBuilt_of_none rfl)
    | start =>
      refine h.enter c fun hx => ?_
      cases hx
      exact ⟨rfl, fun f hf => by cases hf⟩
    | refuse _ _ => exact h.enter c (Caller.hasBuilt_of_none rfl)
  | execute _ => exact h.next rfl hdefinition
  | handOver _ => exact h.next rfl hdefinition
  | drop _ _ _ => exact h.next rfl hdefinition
  | abandon _ _ _ _ => exact h.next rfl hdefinition
  | deliver _ _ _ _ => exact h.next rfl hdefinition
  | strike _ _ _ => exact h.next (callers_strike ..) hdefinition
  | tellUpdate _ _ _ => exact h.next rfl hdefinition
  | tellCook _ _ _ => exact h.next rfl hdefinition
  | begin _ _ _ => exact h.leave rfl hdefinition rfl
  | prepare _ _ _ _ _ => exact h.leave rfl hdefinition rfl
  | stop _ _ _ _ _ => exact h.leave rfl hdefinition rfl
  | report _ => exact h.leave rfl hdefinition rfl
  | enqueue _ => exact h.leave rfl hdefinition rfl
  | register _ => exact h.leave rfl hdefinition rfl
  | finishUpdate _ _ => exact h.leave (callers_finish ..) hdefinition rfl
  | delist _ _ _ _ => exact h.leave rfl hdefinition rfl
  | delistAll _ _ _ => exact h.leave rfl hdefinition rfl
  | chore _ => exact h.leave rfl hdefinition rfl
  | @build _ c g platform builds format hcaller _ hformat =>
    have hnext : Built { W with session := (buildFormats g platform.name [format] W.session).2 } :=
      h.next rfl hdefinition
    refine hnext.enter c (Caller.HasBuilt.built ?_ hformat
      (hdefinition c g (by rw [hcaller]; rfl)))
    rw [← hcaller]
    exact h.callers c
  | install _ _ _ => exact h.leave rfl hdefinition rfl
  | finishCook _ => exact h.leave rfl hdefinition rfl
  | beginClose _ _ _ _ => exact h.leave rfl hdefinition rfl
  | vacate _ => exact h.leave rfl hdefinition rfl
  | retract _ => exact h.leave rfl hdefinition rfl

/-- **Builds are up to date** in all workshops. -/
theorem Reachable.built (h : W.Reachable) : W.Built :=
  (h.induct (motive := Built) (fun _ _ _ _ => ⟨fun _ => Caller.hasBuilt_of_none rfl⟩)
    fun hfitting hbuilt hstep => hbuilt.step hfitting hstep).2

end

end Workshop

end KernelGraph
