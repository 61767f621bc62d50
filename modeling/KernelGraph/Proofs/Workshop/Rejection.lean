/-
  Calls that are rejected.

  An update or the beginning of a platform returns an error when the graph is not valid, when its
  format is not known or when it is closed.  An update finds all of that out before it changes
  anything.  The beginning of a platform drops the cache of that platform before it looks whether
  the graph is closed.  A graph that is closed lists no platform any more, unless whoever closes it
  is still waiting for the compiles that he has cancelled: then there is a cache to be dropped, and
  the call that drops it is rejected.

  An update waits for the compiles before it, and a platform is built for, outside the lock.  If the
  graph is closed meanwhile, the call is turned away after it has begun.

  An interface that asks for an undeclared parameter ends a call without letting it return, with the
  graph as it is at that moment.
-/
import KernelGraph.Proofs.Workshop.Schedule

namespace KernelGraph

/-- The error of a call that is rejected. -/
inductive GraphError.Rejects : GraphError → Prop
  | invalid (e : InvalidGraph) : Rejects (.invalid e)
  | runtimeFormat (graph : String) (e : UnknownFormat) : Rejects (.runtimeFormat graph e)
  | closed : Rejects .closed

/-- The error of a call that does not return. -/
def GraphError.Aborts (e : GraphError) : Prop := ∃ u, e = .undeclared u

namespace Session

section
variable {s s' : Session} {g : Nat} {e : GraphError}

/-! ## Errors -/

/-- **The preparation of an update** does not return an error. -/
theorem aborts_prepareKernels {d : Dialect} (ks : List (Nat × Kernel × KernelSource)) {p : Prepared}
    (h : (prepareKernels g d ks p).1 = .error e) : e.Aborts := by
  induction ks generalizing p with
  | nil => cases h
  | cons x ks ih =>
    obtain ⟨k, kernel, source⟩ := x
    unfold prepareKernels at h
    split at h
    · rename_i e' s' heq
      cases h
      have hprepares := prepareKernel_prepares g d p k kernel source
      rw [heq] at hprepares
      generalize Session.buildKernel _ g k d _ = out at hprepares
      obtain ⟨built, s₁⟩ := out
      cases hprepares with
      | stopped => exact ⟨_, rfl⟩
    · exact ih h

theorem aborts_startGeneration {d : Dialect} {sync : Bool}
    (h : (s.startGeneration g d sync).1 = .error e) : e.Aborts := by
  unfold Session.startGeneration at h
  extract_lets resized at h
  split at h
  · rename_i e' s' heq
    cases h
    exact aborts_prepareKernels _ (by rw [heq])
  · cases h

/-- **An update that returns an error** has at most made a record of it. -/
theorem update_error {sync : Bool} (h : s.update g sync = (.error e, s')) :
    e.Aborts ∨ e.Rejects ∧ ∃ records, s' = s.note records := by
  unfold Session.update at h
  extract_lets x started taken at h
  split at h
  · cases h
    exact Or.inr ⟨.invalid _, _, rfl⟩
  · split at h
    · cases h
      exact Or.inr ⟨.runtimeFormat _ _, [], by rw [note, List.append_nil]⟩
    · split at h
      · cases h
        exact Or.inr ⟨.closed, [], by rw [note, List.append_nil]⟩
      · exact Or.inl (aborts_startGeneration (congrArg Prod.fst h))

theorem aborts_buildKernels {d : Dialect} {format : String}
    (kernels : List (Nat × Kernel × KernelSource)) {s : Session}
    (h : (buildKernels g d format kernels s).1 = .error e) : e.Aborts := by
  induction kernels generalizing s with
  | nil => cases h
  | cons x kernels ih =>
    obtain ⟨k, kernel⟩ := x
    unfold buildKernels at h
    split at h
    · cases h
      exact ⟨_, rfl⟩
    · rename_i built s₁ _ _
      split at h
      · rename_i e' s₂ heq
        cases h
        exact ih (by rw [heq])
      · cases h

/-- **Building for a platform** does not return an error. -/
theorem aborts_buildFormats {platform : String} (formats : List String) {s : Session}
    (h : (buildFormats g platform formats s).1 = .error e) : e.Aborts := by
  induction formats generalizing s with
  | nil => cases h
  | cons format formats ih =>
    unfold buildFormats at h
    extract_lets compiler built at h
    have hbuilt : ∀ e', built.1 = .error e' → e'.Aborts := by
      intro e' he'
      cases hc : s.compiler? format with
      | none =>
        simp only [built, compiler, hc] at he'
        cases he'
      | some c =>
        simp only [built, compiler, hc] at he'
        exact aborts_buildKernels _ he'
    clear_value built
    obtain ⟨result, s₁⟩ := built
    cases result with
    | error e' =>
      cases h
      exact hbuilt _ rfl
    | ok builds =>
      dsimp only at h
      split at h
      · rename_i e' s₂ heq
        cases h
        exact ih (by rw [heq])
      · cases h

/-- **The beginning of a platform that returns an error** has changed nothing, or it has dropped the
    platform of a graph that is closed. -/
theorem beginPlatform_error {platform : TargetPlatform}
    (h : s.beginPlatform g platform = (.error e, s')) : e.Aborts ∨ e.Rejects ∧
      (s' = s ∨ (s.graph g).closed = true ∧ s' = s.clearPlatform g platform.name) := by
  unfold Session.beginPlatform at h
  split at h
  · cases h
    exact Or.inr ⟨.invalid _, Or.inl rfl⟩
  · dsimp only at h
    split at h
    · rename_i hclosed
      obtain ⟨he, rfl⟩ := Prod.mk.inj h
      cases he
      rw [closed_clearPlatform] at hclosed
      exact Or.inr ⟨.closed, Or.inr ⟨hclosed, rfl⟩⟩
    · split at h
      · rename_i e' s₁ heq
        cases h
        exact Or.inl (aborts_buildFormats platform.formats (by rw [heq]))
      · cases h

end

end Session

namespace Workshop

open Session

/-! ## Graphs that are closed -/

/-- A graph that is closed lists no platform, unless somebody has still to empty it. -/
structure Emptied (W : Workshop) : Prop where
  closing : ∀ {g p name}, (W.session.graph g).closed = true → W.session.Lists g name p →
    ∃ c, W.callers c = .closing g

section
variable {W W' : Workshop} {d : Duty}

/-- No graph is closed, no platform listed, and who empties a graph goes on to do so. -/
theorem Emptied.next (h : W.Emptied)
    (hopened : ∀ g, (W'.session.graph g).closed = true → (W.session.graph g).closed = true)
    (hlisted : ∀ {g p name}, W'.session.Lists g name p → W.session.Lists g name p)
    (hcallers : ∀ c g, W.callers c = .closing g → W'.callers c = .closing g) : W'.Emptied where
  closing hclosed hl := by
    obtain ⟨c, hc⟩ := h.closing (hopened _ hclosed) (hlisted hl)
    exact ⟨c, hcallers c _ hc⟩

theorem closing_enter {c : Nat} {x : Caller} (hx : ∀ g, W.callers c = .closing g → x = .closing g)
    (c' g : Nat) (h : W.callers c' = .closing g) : (W.enter c x).callers c' = .closing g := by
  by_cases hc : c' = c
  · rw [hc, callers_enter_self]
    exact hx g (hc ▸ h)
  · rw [callers_enter_of_ne W hc]
    exact h

/-- A proxy that takes its place closes no graph. -/
theorem closed_present (s : Session) (g : Nat) (plan : Plan) (i : Nat) :
    ((s.present g plan).graph i).closed = (s.graph i).closed := by
  rcases Nat.lt_or_ge (s.graph g).published plan.generation with hlt | hle
  · obtain ⟨_, _, heq⟩ := present_of_lt hlt
    rw [heq]
    show ((s.modifyGraph g _).graph i).closed = _
    rw [graph_modifyGraph]
    split
    · rfl
    · rfl
  · rw [present_of_le hle]

theorem closed_settle (W : Workshop) (g : Nat) (plan : Plan) (i : Nat) :
    ((W.settle g plan).session.graph i).closed = (W.session.graph i).closed := by
  unfold settle
  split
  · exact closed_present W.session g plan i
  · rfl

theorem closed_strike (W : Workshop) (j : Job) (n : Nat) (plan : Plan) (i : Nat) :
    ((W.strike j n plan).session.graph i).closed = (W.session.graph i).closed := by
  unfold strike
  split
  · rw [closed_settle]
    exact ((Steady.strike W.session j).graph i).closed
  · rfl

theorem closed_finish (W : Workshop) (g : Nat) (plan : Plan) (i : Nat) :
    ((W.finish g plan).session.graph i).closed = (W.session.graph i).closed := by
  unfold finish
  split
  · exact closed_present W.session g plan i
  · rfl

theorem closed_releaseProxy (s : Session) (g : Nat) (proxy : Option Nat) (i : Nat) :
    ((s.releaseProxy g proxy).graph i).closed = (s.graph i).closed := by
  unfold Session.releaseProxy
  split
  · rfl
  · split
    · rfl
    · rfl

theorem closed_retract (s : Session) (g i : Nat) :
    ((s.retract g).graph i).closed = (s.graph i).closed := by
  rw [Session.retract, graph_modifyGraph]
  split
  · rfl
  · rfl

theorem duty_ne_close (s : Session) (j : Job) (i : Nat) : s.duty j ≠ .close i := by
  unfold Session.duty
  split
  · nofun
  · nofun

/-- **Only who closes a graph** leaves it closed that was open. -/
theorem Step.opened (hstep : Step d W W') (hfitting : W.Fitting) {i : Nat} (hd : d ≠ .close i)
    (hclosed : (W'.session.graph i).closed = true) : (W.session.graph i).closed = true := by
  cases hstep with
  | aside haside =>
    rw [← (haside.graph i).closed]
    exact hclosed
  | handOver _ => exact (closed_releaseProxy ..).symm.trans hclosed
  | @strike _ id t n plan program r _ _ _ =>
    exact (closed_strike W t.job n plan i).symm.trans hclosed
  | tellUpdate _ _ _ => exact (Shelves.tellUpdate ..).opened i hclosed
  | tellCook _ _ _ => exact (Shelves.tellCook ..).opened i hclosed
  | begin _ _ _ => exact (Shelves.begun ..).opened i hclosed
  | @prepare _ c g n d p s' hwaiting _ hopen _ hp =>
    have hg : g < W.session.graphs.size := (hfitting.callers c).graph (by rw [hwaiting]; rfl)
    have hoverhaul := (jobFits_preparedJobs hfitting.holdings hg hopen hp).1
    exact (Shelves.overhauls hoverhaul).opened i hclosed
  | @stop _ c g n d e s' hwaiting _ _ _ hp =>
    have hg : g < W.session.graphs.size := (hfitting.callers c).graph (by rw [hwaiting]; rfl)
    exact (Shelves.overhauls (overhauls_stopped hfitting.holdings hg hp)).opened i hclosed
  | report _ => exact (Shelves.reportFailure ..).opened i hclosed
  | register _ => exact (Shelves.register ..).opened i hclosed
  | @finishUpdate _ c g plan _ _ => exact (closed_finish W g plan i).symm.trans hclosed
  | @delist _ c g name next _ _ _ _ =>
    have hs : W.session.Shelves (W.session.delist g name) := .modifyGraph _ _ fun _ => ⟨rfl, rfl⟩
    exact hs.opened i hclosed
  | @delistAll _ c g _ _ _ =>
    have hs : W.session.Shelves (W.session.delistAll g) := .modifyGraph _ _ fun _ => ⟨rfl, rfl⟩
    exact hs.opened i hclosed
  | chore _ => exact (Shelves.chore ..).opened i hclosed
  | @build _ c g platform builds format _ _ _ =>
    exact (Shelves.of_reads (.buildFormats [format] W.session)).opened i hclosed
  | install _ _ _ => exact (Shelves.install ..).opened i hclosed
  | finishCook _ => exact (Shelves.announceReady ..).opened i hclosed
  | @beginClose _ c g _ _ _ _ =>
    have hgraph := graph_shutDown W.session g i
    rw [if_neg fun hi => hd (congrArg Duty.close hi.1)] at hgraph
    rw [← hgraph]
    exact hclosed
  | vacate _ => exact (Shelves.vacate ..).opened i hclosed
  | retract _ => exact (closed_retract ..).symm.trans hclosed
  -- nothing else touches a graph
  | collect | turn _ | execute _ | drop _ _ _ | abandon _ _ _ _ | deliver _ _ _ _ | enqueue _ =>
    exact hclosed

/-- **A graph that is open stays open** while nobody begins to close it. -/
theorem Runs.opened {duties : Duty → Prop} (hruns : Runs duties W W') (h : W.Reachable)
    {g : Nat} (hd : ¬ duties (.close g)) (hopen : (W.session.graph g).closed = false) :
    (W'.session.graph g).closed = false := by
  induction hruns with
  | refl => exact hopen
  | @tail V V' hruns hsection ih =>
    obtain ⟨d, hduty, hstep⟩ := hsection
    rw [Bool.eq_false_iff] at ih ⊢
    have hsteps : Steps W V :=
      hruns.lift id fun _ _ ⟨d, _, hstep⟩ => ⟨d, trivial, hstep⟩
    exact fun hclosed =>
      ih (hstep.opened (h.runs hsteps).fitting (fun hd' => hd (hd' ▸ hduty)) hclosed)

/-- The graph that is emptied lists nothing any more. -/
theorem not_lists_vacate (s : Session) (g : Nat) (name : String) (p : Nat) :
    ¬ (s.vacate g).Lists g name p := by
  intro hl
  have hg : g < s.graphs.size := ((Tends.vacate s g).listed hl).lt_size
  obtain ⟨_, _, _, _, heq⟩ := vacate_eq s g
  have hgraph := graph_modifyGraph s g (fun x => { x with pending := [], sets := [], cook := [] }) g
  rw [if_pos ⟨rfl, hg⟩] at hgraph
  have hcook : ((s.vacate g).graph g).cook = [] := by
    rw [heq]
    exact congrArg GraphState.cook hgraph
  rw [Session.Lists, hcook] at hl
  cases hl

/-- Who closes a graph is to empty it. -/
theorem Emptied.beginClose (h : W.Emptied) {c g : Nat} (hidle : W.callers c = .idle) :
    Emptied ({ W with session := W.session.shutDown g }.enter c (.closing g)) where
  closing {i p name} hclosed hl := by
    by_cases hi : i = g
    · refine ⟨c, ?_⟩
      rw [callers_enter_self, hi]
    · have hwas : (W.session.graph i).closed = true := by
        have hgraph := graph_shutDown W.session g i
        rw [if_neg fun hgi => hi hgi.1.symm] at hgraph
        rw [← hgraph]
        exact hclosed
      obtain ⟨c', hc'⟩ := h.closing hwas ((Tends.shutDown W.session g).listed hl)
      exact ⟨c', closing_enter (fun j hj => by cases hidle.symm.trans hj) c' i hc'⟩

/-- A graph that is emptied has no platforms, and the others have still who empties them. -/
theorem Emptied.vacate (h : W.Emptied) {c g : Nat} (hcaller : W.callers c = .closing g) :
    Emptied ({ W with session := W.session.vacate g }.enter c (.retracting g)) where
  closing {i p name} hclosed hl := by
    by_cases hi : i = g
    · subst hi
      exact absurd hl (not_lists_vacate W.session i name p)
    · obtain ⟨c', hc'⟩ := h.closing ((Shelves.vacate W.session g).opened i hclosed)
        ((Tends.vacate W.session g).listed hl)
      have hne : c' ≠ c := by
        rintro rfl
        cases hcaller.symm.trans hc'
        exact hi rfl
      exact ⟨c', (callers_enter_of_ne _ hne _).trans hc'⟩

/-- **Every section** leaves the graphs that are closed without platforms. -/
theorem Emptied.step (h : W.Emptied) (hfitting : W.Fitting) (hstep : Step d W W') : W'.Emptied := by
  -- callers that do not empty graphs go on to do whatever they like
  have hnone : ∀ {c : Nat} {x y : Caller}, W.callers c = y → (∀ g, y ≠ .closing g) →
      ∀ g, W.callers c = .closing g → x = .closing g :=
    fun hy hno g hc => absurd (hy.symm.trans hc) (hno g)
  have hsame : ∀ c g, W.callers c = .closing g → W.callers c = .closing g := fun _ _ hc => hc
  have hopened := fun i => hstep.opened hfitting (i := i)
  have hlists : ∀ {i p name}, d ≠ .list i name → W'.session.Lists i name p →
      W.session.Lists i name p := fun hd hl => hstep.lists hfitting hd hl
  cases hstep with
  | aside _ => exact h.next (hopened · nofun) (hlists nofun) hsame
  | collect => exact h.next (hopened · nofun) (fun hl => hl) hsame
  | @turn _ c x hturn =>
    refine h.next (hopened · nofun) (fun hl => hl) (closing_enter fun g hc => ?_)
    rw [hc] at hturn
    cases hturn
  | execute _ => exact h.next (hopened · nofun) (fun hl => hl) hsame
  | handOver _ => exact h.next (hopened · nofun) (hlists nofun) hsame
  | drop _ _ _ => exact h.next (fun _ hg => hg) (fun hl => hl) hsame
  | abandon _ _ _ _ => exact h.next (fun _ hg => hg) (fun hl => hl) hsame
  | deliver _ _ _ _ => exact h.next (fun _ hg => hg) (fun hl => hl) hsame
  | @strike _ id t n plan program r _ _ _ =>
    exact h.next (hopened · nofun) (hlists nofun)
      fun c g hc => (congrFun (callers_strike W t.job n plan) c).trans hc
  | tellUpdate _ _ _ => exact h.next (hopened · nofun) (hlists nofun) hsame
  | tellCook _ _ _ => exact h.next (hopened · nofun) (hlists nofun) hsame
  | begin hidle _ _ =>
    exact h.next (hopened · nofun) (hlists nofun) (closing_enter (hnone hidle nofun))
  | prepare hwaiting _ _ _ _ =>
    exact h.next (hopened · nofun) (hlists nofun) (closing_enter (hnone hwaiting nofun))
  | stop hwaiting _ _ _ _ =>
    exact h.next (hopened · nofun) (hlists nofun) (closing_enter (hnone hwaiting nofun))
  | report hcaller =>
    exact h.next (hopened · nofun) (hlists nofun)
      (closing_enter (hnone hcaller nofun))
  | enqueue hcaller =>
    exact h.next (fun _ hg => hg) (fun hl => hl) (closing_enter (hnone hcaller nofun))
  | register hcaller =>
    exact h.next (Shelves.register ..).opened (Tends.register ..).listed
      (closing_enter (hnone hcaller nofun))
  | @finishUpdate _ c g plan hcaller _ =>
    exact h.next (hopened · nofun) (hlists nofun) (by
      unfold enter
      rw [callers_finish]
      exact closing_enter (hnone hcaller nofun))
  | delist hidle _ _ _ =>
    exact h.next (hopened · nofun) (hlists nofun) (closing_enter (hnone hidle nofun))
  | delistAll hidle _ _ =>
    exact h.next (hopened · nofun) (hlists nofun) (closing_enter (hnone hidle nofun))
  | chore hcaller =>
    exact h.next (hopened · nofun) (hlists nofun) (closing_enter (hnone hcaller nofun))
  | build hcaller _ _ =>
    exact h.next (hopened · nofun) (hlists nofun) (closing_enter (hnone hcaller nofun))
  | @install _ c g platform builds hcaller hopen hbuilds =>
    refine ⟨fun {i p name} hclosed hl => ?_⟩
    have hwas := hopened i nofun hclosed
    rcases lists_install _ _ _ hl with hl | ⟨rfl, _, _⟩
    · obtain ⟨c', hc'⟩ := h.closing hwas hl
      exact ⟨c', closing_enter (hnone hcaller nofun) c' i hc'⟩
    · rw [hopen] at hwas
      cases hwas
  | finishCook hcaller =>
    exact h.next (hopened · nofun) (hlists nofun)
      (closing_enter (hnone hcaller nofun))
  | beginClose hidle _ _ _ => exact h.beginClose hidle
  | vacate hcaller => exact h.vacate hcaller
  | @retract _ c g hcaller =>
    exact h.next (fun i hg => (closed_retract W.session g i).symm.trans hg) (hlists nofun)
      (closing_enter (hnone hcaller nofun))

theorem emptied_start (files : FileStore) (scripts : List Script) (limit : Int) (honest : Bool) :
    (start files scripts limit honest).Emptied := ⟨fun hclosed => by cases hclosed⟩

/-- **A graph that is closed lists no platform**, unless somebody has still to empty it. -/
theorem Reachable.emptied (h : W.Reachable) : W.Emptied :=
  (h.induct emptied_start fun hfitting hemptied hstep => hemptied.step hfitting hstep).2

theorem Reachable.lookup_eq_none (h : W.Reachable) {g : Nat} (hidle : ∀ c, W.callers c ≠ .closing g)
    (hclosed : (W.session.graph g).closed = true) (name : String) :
    (W.session.graph g).cook.lookup name = none :=
  lookup_eq_none_iff_lists.2 fun _ hl =>
    let ⟨c, hc⟩ := h.emptied.closing hclosed hl
    hidle c hc

end

end Workshop

/-! ## Rejected calls -/

theorem GraphError.Rejects.not_aborts {e : GraphError} (h : e.Rejects) : ¬ e.Aborts := by
  rintro ⟨u, rfl⟩
  cases h

namespace Session

/-- **The calls on a graph that are rejected** leave the session as it is; an update has at most
    made a record. -/
structure KeepsRejected (s : Session) (g : Nat) : Prop where
  /-- An update is rejected exactly if the graph is not valid, its format not known, or it is
      closed. -/
  rejectsUpdate : (s.graph g).locked = false →
    ∀ sync, (∃ e, e.Rejects ∧ (s.update g sync).1 = .error e) ↔ s.accepts g = false
  update : ∀ {sync e s'}, s.update g sync = (.error e, s') →
    e.Aborts ∨ e.Rejects ∧ ∃ records, s' = s.note records
  /-- The beginning of a platform is rejected exactly if the graph is not valid, or closed. -/
  rejectsPlatform : (s.graph g).locked = false →
    ∀ platform, (∃ e, e.Rejects ∧ (s.beginPlatform g platform).1 = .error e) ↔
      (s.graph g).definition.validate ≠ .ok () ∨ (s.graph g).closed = true
  platform : ∀ {platform e s'}, s.beginPlatform g platform = (.error e, s') →
    e.Aborts ∨ e.Rejects ∧ s' = s

/-- **The calls on a graph that is being closed**: they are rejected, but the beginning of a
    platform drops the cache of that platform before it is. -/
structure DropsRejected (s : Session) (g : Nat) : Prop where
  update : ∀ {sync e s'}, s.update g sync = (.error e, s') →
    e.Aborts ∨ e.Rejects ∧ ∃ records, s' = s.note records
  platform : ∀ {platform e s'}, s.beginPlatform g platform = (.error e, s') →
    e.Aborts ∨ e.Rejects ∧ (s' = s ∨ s' = s.clearPlatform g platform.name)

section
variable {s : Session} {g : Nat} {e : GraphError}

/-- An update that the graph accepts is not rejected. -/
theorem accepts_eq_false_of_rejects {sync : Bool} (he : e.Rejects)
    (h : (s.update g sync).1 = .error e) : s.accepts g = false := by
  by_contra haccepts
  rw [Bool.not_eq_false] at haccepts
  rw [update_eq_startGeneration haccepts] at h
  exact he.not_aborts (aborts_startGeneration h)

theorem update_rejects (hfree : (s.graph g).locked = false) (h : s.accepts g = false)
    (sync : Bool) : ∃ e, e.Rejects ∧ (s.update g sync).1 = .error e := by
  unfold Session.update
  extract_lets x started taken
  replace h : (x.definition.validate.toBool && (s.compiler? x.options.format).isSome &&
      !x.closed && !x.locked) = false := h
  rw [show x.locked = false from hfree] at h
  split
  · exact ⟨_, .invalid _, rfl⟩
  · rename_i hvalid
    split
    · exact ⟨_, .runtimeFormat _ _, rfl⟩
    · rename_i hcompiler
      rw [hvalid, hcompiler] at h
      have hclosed : x.closed = true := by simpa [Except.toBool] using h
      rw [if_pos hclosed]
      exact ⟨_, .closed, rfl⟩

/-- The platform of a graph that is valid and open is not rejected. -/
theorem invalid_or_closed_of_rejects {platform : TargetPlatform} (he : e.Rejects)
    (h : (s.beginPlatform g platform).1 = .error e) :
    (s.graph g).definition.validate ≠ .ok () ∨ (s.graph g).closed = true := by
  unfold Session.beginPlatform at h
  split at h
  · rename_i hinvalid
    refine Or.inl fun hvalid => ?_
    cases hvalid.symm.trans hinvalid
  · dsimp only at h
    split at h
    · rename_i hclosed
      rw [closed_clearPlatform] at hclosed
      exact Or.inr hclosed
    · split at h
      · rename_i e' s₁ heq
        cases h
        exact absurd (aborts_buildFormats platform.formats (by rw [heq])) he.not_aborts
      · cases h

/-- A platform of a valid graph that is closed is dropped, and not begun. -/
theorem beginPlatform_of_closed {platform : TargetPlatform}
    (hvalid : (s.graph g).definition.validate = .ok ()) (hclosed : (s.graph g).closed = true) :
    s.beginPlatform g platform = (.error .closed, s.clearPlatform g platform.name) := by
  unfold Session.beginPlatform
  rw [hvalid]
  dsimp only
  rw [closed_clearPlatform, if_pos hclosed]

theorem beginPlatform_rejects (platform : TargetPlatform)
    (h : (s.graph g).definition.validate ≠ .ok () ∨ (s.graph g).closed = true) :
    ∃ e, e.Rejects ∧ (s.beginPlatform g platform).1 = .error e := by
  by_cases hvalid : (s.graph g).definition.validate = .ok ()
  · rw [beginPlatform_of_closed hvalid (h.resolve_left fun hinvalid => hinvalid hvalid)]
    exact ⟨_, .closed, rfl⟩
  · unfold Session.beginPlatform
    split
    · exact ⟨_, .invalid _, rfl⟩
    · rename_i hvalid'
      exact absurd hvalid' hvalid

/-- If no graph that is closed lists a platform, rejected calls leave everything as it is. -/
theorem keepsRejected (hunlisted : ∀ name, (s.graph g).closed = true →
    (s.graph g).cook.lookup name = none) : s.KeepsRejected g where
  rejectsUpdate hfree sync := ⟨fun ⟨_, he, h⟩ => accepts_eq_false_of_rejects he h,
    fun h => update_rejects hfree h sync⟩
  update h := update_error h
  rejectsPlatform _ platform := ⟨fun ⟨_, he, h⟩ => invalid_or_closed_of_rejects he h,
    beginPlatform_rejects platform⟩
  platform {platform e s'} h := by
    obtain haborts | ⟨he, rfl | ⟨hclosed, rfl⟩⟩ := beginPlatform_error h
    · exact Or.inl haborts
    · exact Or.inr ⟨he, rfl⟩
    · refine Or.inr ⟨he, ?_⟩
      rw [clearPlatform_eq, hunlisted platform.name hclosed]

theorem dropsRejected (s : Session) (g : Nat) : s.DropsRejected g where
  update h := update_error h
  platform h := (beginPlatform_error h).imp_right fun ⟨he, hs⟩ => ⟨he, hs.imp_right And.right⟩

/-- **A call that returns an error leaves the graph as it was**, and calls neither the hook nor the
    fatal handler: after any run, whatever compiles are in flight; and also while other callers are
    anywhere in their sections, unless one of them has closed the graph and not emptied it yet.  In
    that case a platform's beginning drops its cache, and nothing else is changed.  A call that has
    found the graph open is turned away later only if somebody begins to close it in between. -/
theorem rejected_calls (g : Nat) : (∀ H s, Run H s → s.KeepsRejected g) ∧
    (∀ W : Workshop, W.Reachable → (∀ c, W.callers c ≠ .closing g) → W.session.KeepsRejected g) ∧
    (∀ W : Workshop, W.Reachable → W.session.DropsRejected g) ∧
    ∀ W W' : Workshop, W.Reachable → Workshop.Runs (fun d => d ≠ .close g) W W' →
      (W.session.graph g).closed = false → (W'.session.graph g).closed = false := by
  have hworkshop : ∀ W : Workshop, W.Reachable → (∀ c, W.callers c ≠ .closing g) →
      W.session.KeepsRejected g := fun W h hidle =>
    keepsRejected fun name hclosed => h.lookup_eq_none hidle hclosed name
  refine ⟨fun H s hrun => ?_, hworkshop, fun W _ => dropsRejected W.session g,
    fun W W' h hruns hopen => hruns.opened h (fun hd => hd rfl) hopen⟩
  obtain ⟨handed, hreach⟩ := Workshop.exists_reachable hrun
  refine hworkshop _ hreach fun c hc => ?_
  rw [Workshop.callers_solo_idle] at hc
  cases hc

/-- A graph that was closed takes neither an update nor a platform. -/
theorem rejected_calls_closed : ∃ H s, Run H s ∧ (s.graph 0).closed = true ∧
    (∃ records, s.update 0 false = (.error .closed, s.note records)) ∧
    s.beginPlatform 0 Workshop.oddPlatform = (.error .closed, s) := by
  have hstart : Run _ entryStart :=
    .step (.addGraph (entryGraph "Main") entryOptions) .addGraph
      (.start reachable_wrapperFiles [{ format := "mock" }] 0)
  have hclosed : Run _ (entryStart.close 0) :=
    .step (.close 0) (.close Nat.one_pos rfl) hstart
  refine ⟨_, _, hclosed, rfl, ?_, ?_⟩
  · have hupdate : (entryStart.close 0).update 0 false =
        (.error .closed, ((entryStart.close 0).update 0 false).2) := rfl
    obtain ⟨u, hu⟩ | ⟨-, records, hs⟩ := ((rejected_calls 0).1 _ _ hclosed).update hupdate
    · cases hu
    · exact ⟨records, hs ▸ hupdate⟩
  · have hbegin : (entryStart.close 0).beginPlatform 0 Workshop.oddPlatform =
        (.error .closed, ((entryStart.close 0).beginPlatform 0 Workshop.oddPlatform).2) := rfl
    obtain ⟨u, hu⟩ | ⟨-, hs⟩ := ((rejected_calls 0).1 _ _ hclosed).platform hbegin
    · cases hu
    · exact hbegin.trans (by rw [hs])

/-- While a graph is being closed, its platforms are still listed with their entries. -/
theorem cookedResources?_shutDown (s : Session) (g i : Nat) (name : String) :
    (s.shutDown g).cookedResources? i name = s.cookedResources? i name := by
  have hcook : ((s.shutDown g).graph i).cook = (s.graph i).cook := by
    rw [graph_shutDown]
    split
    · rfl
    · rfl
  obtain ⟨_, _, _, heq, _⟩ := shutDown_eq s g
  have hentries : (s.shutDown g).platformResources = s.platformResources := by
    rw [heq]
    rfl
  rw [cookedResources?, cookedResources?, hcook, hentries]

theorem cookedResources?_clearPlatform (s : Session) (g : Nat) (name : String) :
    (s.clearPlatform g name).cookedResources? g name = none := by
  rw [cookedResources?, lookup_clearPlatform, Option.map_none]

/-- Who begins a platform then is rejected, and the platform is dropped. -/
theorem beginPlatform_shutDown (hg : g < s.graphs.size)
    (hvalid : (s.graph g).definition.validate = .ok ()) (platform : TargetPlatform) :
    (s.shutDown g).beginPlatform g platform =
      (.error .closed, (s.shutDown g).clearPlatform g platform.name) := by
  have hgraph := graph_shutDown s g g
  rw [if_pos ⟨rfl, hg⟩] at hgraph
  refine beginPlatform_of_closed ?_ ?_
  · rw [hgraph]
    exact hvalid
  · rw [hgraph]

/-- Somebody begins to close a graph. -/
theorem exists_closing {W : Workshop} (h : W.Reachable) {c : Nat} (hidle : W.callers c = .idle)
    (hg : g < W.session.graphs.size) (hfree : (W.session.graph g).locked = false)
    (hopen : (W.session.graph g).closed = false) : ∃ W' : Workshop, W'.Reachable ∧
      W'.callers c = .closing g ∧ W'.session = W.session.shutDown g :=
  ⟨_, h.step (.beginClose hidle hg hfree hopen), Workshop.callers_enter_self .., rfl⟩

end

/-- Somebody closes a graph that lists a platform, and waits.  Who begins the platform now is
    rejected, and the cache of the platform is gone. -/
theorem not_rejected_calls : ∃ (W : Workshop) (s' : Session), W.Reachable ∧
    W.callers 1 = .closing 0 ∧
    W.session.beginPlatform 0 Workshop.oddPlatform = (.error .closed, s') ∧
    W.session.cookedResources? 0 "p" = some [0] ∧ s'.cookedResources? 0 "p" = none := by
  obtain ⟨log, hbuilt⟩ := Workshop.exists_oddBuilt
  have hlisted := hbuilt.step (.install (c := 0) rfl rfl rfl)
  obtain ⟨W, hclosing, hcaller, hsession⟩ :=
    exists_closing hlisted (c := 1) (g := 0) rfl Nat.one_pos rfl rfl
  refine ⟨W, W.session.clearPlatform 0 "p", hclosing, hcaller, ?_, ?_,
    cookedResources?_clearPlatform ..⟩
  · rw [hsession]
    exact beginPlatform_shutDown Nat.one_pos rfl Workshop.oddPlatform
  · rw [hsession, cookedResources?_shutDown]
    rfl

end Session

end KernelGraph
