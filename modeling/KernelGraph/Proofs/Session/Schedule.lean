/-
  Every run is an interleaving.

  What callers and workers do as a whole is made of critical sections: an update and the closing of
  a graph of those that `World.Step` names, with the workers' steps in between, and everything else
  of what happens around the graphs.
-/
import KernelGraph.Proofs.Session.Around
import KernelGraph.Proofs.Session.Sound

namespace KernelGraph.Session

/-! ## Sessions that a world leads to -/

/-- Steps lead from one session to another while no caller goes on. -/
def Leads (φ : Nat → Phase) (c : Nat → Bool) (s s' : Session) : Prop :=
  ∀ calls, ∃ calls', World.Steps ⟨s, φ, c, calls⟩ ⟨s', φ, c, calls'⟩

section
variable {φ : Nat → Phase} {c : Nat → Bool} {s s' s'' : Session}

theorem Leads.refl (s : Session) : Leads φ c s s := fun calls => ⟨calls, .refl⟩

theorem Leads.trans (h : Leads φ c s s') (h' : Leads φ c s' s'') : Leads φ c s s'' := by
  intro calls
  obtain ⟨calls', hsteps⟩ := h calls
  obtain ⟨calls'', hsteps'⟩ := h' calls'
  exact ⟨calls'', hsteps.trans hsteps'⟩

theorem Leads.around (h : s.Around s') : Leads φ c s s' :=
  fun calls => ⟨calls, .single (.around h)⟩

theorem Leads.of_books (h : s.Books s') : Leads φ c s s' := by
  obtain ⟨_, _, _, rfl⟩ := h
  exact .around (.of_eq rfl rfl rfl rfl rfl rfl rfl)

theorem Leads.comeBack {t : CompileTask} (ht : t ∈ s.tasks)
    (returned : Except (CallError ProgramError) (Program × Bool)) :
    Leads φ c s (s.completeJob t.job returned) :=
  fun _ => ⟨_, .single (.comeBack ht returned)⟩

theorem Leads.takeTask (s : Session) (r : Nat) : Leads φ c s (s.takeTask r) :=
  fun calls => ⟨calls, .single (.take r)⟩

theorem Leads.cancelTask (s : Session) (id : Nat) : Leads φ c s (s.cancelTask id) := by
  have htask : s.Around (s.modifyTask id fun t => { t with cancelled := true }) :=
    .modifyTask s id fun _ => rfl
  exact (Leads.around htask).trans (.around (.of_eq rfl rfl rfl rfl rfl rfl rfl))

theorem Leads.foldl {α : Type} (f : Session → α → Session) (xs : List α)
    (h : ∀ s, ∀ x ∈ xs, Leads φ c s (f s x)) (s : Session) : Leads φ c s (xs.foldl f s) :=
  List.foldlRecOn xs f (.refl s) fun s' hs' x hx => hs'.trans (h s' x hx)

theorem Leads.ite {b : Prop} [Decidable b] (h : Leads φ c s s') (h' : Leads φ c s s'') :
    Leads φ c s (if b then s' else s'') := by
  split
  · exact h
  · exact h'

/-! ### Workers -/

theorem Leads.retire (s : Session) (p id : Nat) : Leads φ c s (s.retire p id) := by
  have htask : s.Around (s.modifyTask id fun t => { t with done := true }) :=
    .modifyTask s id fun _ => rfl
  refine (Leads.around htask).trans (Leads.around (Around.modifyPool fun pool _ => ⟨?_, ?_⟩))
  · intro id hid
    exact List.mem_append_right _ hid
  · exact fun h => h

theorem Leads.runCompile (s : Session) (id : Nat) (t : CompileTask) :
    Leads φ c s (s.runCompile id t) := by
  unfold Session.runCompile
  split
  · exact .around (.of_eq rfl rfl rfl rfl rfl rfl rfl)
  · split
    rename_i outcome calls _
    extract_lets called noted
    have hcalled : Leads φ c s called := .around (.countCalls s _ _)
    refine hcalled.trans (.around ?_)
    unfold noted
    cases outcome with
    | error e => exact .of_eq rfl rfl rfl rfl rfl rfl rfl
    | ok q => exact .of_eq rfl rfl rfl rfl rfl rfl rfl

/-- **A step of a worker** is made of critical sections. -/
theorem Leads.advance {p : Nat} (hs : s.advance p = some s') : Leads φ c s s' := by
  unfold Session.advance at hs
  split at hs
  · cases hs
  · rename_i pool hpool
    split at hs
    · rename_i hfree
      split at hs
      · cases hs
      · rename_i id rest hqueue
        have htaken : Leads φ c s (s.modifyPool p fun x => { x with queue := rest }) :=
          .around (.dequeue hpool hfree hqueue)
        dsimp only at hs
        split at hs
        · cases hs
          exact htaken
        · rename_i t _
          split at hs
          · cases hs
            exact htaken.trans (.retire _ p id)
          · cases hs
            exact .around (.takeUp hpool hfree hqueue _)
    · rename_i id _
      split at hs
      · cases hs
      · rename_i t ht
        split at hs
        · rename_i returned _
          cases hs
          have hforgotten : Leads φ c s { s with cache := s.cache.forget id } :=
            .around (.of_eq rfl rfl rfl rfl rfl rfl rfl)
          have hretired : Leads φ c s ({ s with cache := s.cache.forget id }.retire p id) :=
            hforgotten.trans (.retire _ p id)
          obtain ⟨t', ht', hjob⟩ := exists_job_modify id
            (f := fun t => { t with done := true }) (fun _ => rfl) t (Array.mem_of_getElem? ht)
          rw [← hjob]
          exact hretired.trans (.comeBack ht' returned)
        · split at hs
          · cases hs
          · split at hs
            · split at hs
              · cases hs
              · cases hs
                have hentered : s.Around (s.modifyTask id fun t => { t with entered := true }) :=
                  .modifyTask s id fun _ => rfl
                exact (Leads.around hentered).trans (.around (.countCalls _ _ _))
            · cases hs
              exact .runCompile s id t

theorem Leads.drainAux (fuel : Nat) (s : Session) : Leads φ c s (s.drainAux fuel) := by
  induction fuel generalizing s with
  | zero => exact .refl s
  | succ fuel ih =>
    unfold Session.drainAux
    split
    · exact .refl s
    · rename_i s' hs
      obtain ⟨p, _, hp⟩ := List.exists_of_findSome?_eq_some hs
      exact (Leads.advance hp).trans (ih s')

theorem Leads.drain (s : Session) : Leads φ c s s.drain := .drainAux _ s

theorem Leads.takeTasks (s : Session) (rs : List Nat) : Leads φ c s (s.takeTasks rs) :=
  (Leads.foldl _ rs (fun s r _ => .takeTask s r) s).trans (.drain _)

theorem Leads.closePool (s : Session) (p : Nat) : Leads φ c s (s.closePool p) := by
  refine (Leads.drain s).trans (.around (.modifyPool fun pool _ => ⟨fun _ hid => hid, fun h => ?_⟩))
  cases h

end

/-! ## Updates -/

section
variable {φ : Nat → Phase} {c : Nat → Bool} {s s' : Session} {g : Nat}

/-- Steps lead from one session to another while the caller of a graph goes on. -/
def Brings (φ : Nat → Phase) (c : Nat → Bool) (g : Nat) (s : Session) (a : Phase) (s' : Session)
    (b : Phase) : Prop :=
  ∀ calls, ∃ calls', World.Steps ⟨s, Function.update φ g a, c, calls⟩
    ⟨s', Function.update φ g b, c, calls'⟩

theorem Brings.trans {s'' : Session} {a₁ a₂ a₃ : Phase} (h : Brings φ c g s a₁ s' a₂)
    (h' : Brings φ c g s' a₂ s'' a₃) : Brings φ c g s a₁ s'' a₃ := by
  intro calls
  obtain ⟨calls', hsteps⟩ := h calls
  obtain ⟨calls'', hsteps'⟩ := h' calls'
  exact ⟨calls'', hsteps.trans hsteps'⟩

theorem Brings.of_leads {a : Phase} (h : Leads (Function.update φ g a) c s s') :
    Brings φ c g s a s' a := h

theorem Brings.of_step {a b : Phase}
    (h : ∀ calls, ∃ calls', World.Step ⟨s, Function.update φ g a, c, calls⟩
      ⟨s', Function.update (Function.update φ g a) g b, c, calls'⟩) : Brings φ c g s a s' b := by
  intro calls
  obtain ⟨calls', hstep⟩ := h calls
  rw [Function.update_idem] at hstep
  exact ⟨calls', .single hstep⟩

theorem brings_report (plan : Plan) (jobs : List Job) (failed : List Nat) (s : Session) :
    Brings φ c g s (.submitting plan failed jobs none)
      (failed.foldl (fun s k => s.reportFailure g k) s) (.submitting plan [] jobs none) := by
  induction failed generalizing s with
  | nil => exact .of_leads (.refl s)
  | cons k failed ih =>
    refine Brings.trans (.of_step fun calls => ⟨_, .report ?_⟩) (ih (s.reportFailure g k))
    exact Function.update_self ..

/-- A job is submitted. -/
theorem brings_submit (plan : Plan) {j : Job} (hj : j.graph = g) (jobs : List Job) (s : Session) :
    Brings φ c g s (.submitting plan [] (j :: jobs) none) (s.submit j)
      (.submitting plan [] jobs none) := by
  subst hj
  have hqueued : Brings φ c j.graph s (.submitting plan [] (j :: jobs) none) (s.enqueue j)
      (.submitting plan [] jobs (some (s.tasks.size, j))) :=
    .of_step fun calls => ⟨_, .enqueue (Function.update_self ..)⟩
  rw [submit_eq]
  split
  · rename_i hclosed
    refine (hqueued.trans
      (.of_step fun calls => ⟨_, .inline (Function.update_self ..) hclosed⟩)).trans
      (.of_leads (.drain _))
  · exact hqueued.trans (.of_step fun calls => ⟨_, .register (Function.update_self ..)⟩)

theorem brings_submitJobs (plan : Plan) (sync : Bool) (jobs : List Job)
    (hjobs : ∀ j ∈ jobs, j.graph = g) (s : Session) :
    Brings φ c g s (.submitting plan [] jobs none) (s.submitJobs sync jobs)
      (.submitting plan [] [] none) := by
  induction jobs generalizing s with
  | nil => exact .of_leads (.refl s)
  | cons j jobs ih =>
    have hsubmit : Brings φ c g s _ _ _ :=
      brings_submit plan (hjobs j (List.mem_cons_self ..)) jobs s
    refine hsubmit.trans (Brings.trans (.of_leads ?_)
      (ih (fun j' hj' => hjobs j' (List.mem_cons_of_mem j hj')) _))
    exact .ite (.drain _) (.refl _)

/-- What an update does after it has prepared its kernels is made of critical sections. -/
theorem brings_prepared {d : Dialect} {p : Prepared} {s' : Session}
    (hp : prepareKernels g d ((s.resizeSets g).graph g).definition.compilable
      { session := s.resizeSets g } = (.ok p, s')) (sync : Bool) :
    Brings φ c g (p.session.setPending g (p.jobs.map Prod.fst))
      (.submitting (preparedPlan g p) p.failed (preparedJobs g p (preparedPlan g p)) none)
      (s.startGeneration g d sync).2 .idle := by
  have hjobs : ∀ j ∈ preparedJobs g p (preparedPlan g p), j.graph = g := by
    intro j hj
    obtain ⟨_, _, rfl⟩ := List.mem_map.1 hj
    rfl
  unfold Session.startGeneration
  extract_lets resized
  split
  · rename_i heq
    cases hp.symm.trans heq
  · rename_i heq
    cases hp.symm.trans heq
    extract_lets x plan planNotes pending reported submitted drained y
    have hpending : Brings φ c g (p.session.setPending g (p.jobs.map Prod.fst)) _ pending
        (.submitting plan p.failed (preparedJobs g p plan) none) :=
      .of_leads (.around (.of_eq rfl rfl rfl rfl rfl rfl rfl))
    have hreported := hpending.trans (brings_report plan _ p.failed pending)
    have hsubmitted := hreported.trans (brings_submitJobs plan sync _ hjobs reported)
    have hdrained : Brings φ c g (p.session.setPending g (p.jobs.map Prod.fst)) _ drained
        (.submitting plan [] [] none) := hsubmitted.trans (.of_leads (.ite (.drain _) (.refl _)))
    have hfinish : drained.finishUpdate g plan =
        if y.pending.isEmpty && y.generation = x.generation then drained.publish g plan
        else drained := rfl
    dsimp only
    rw [← hfinish]
    exact hdrained.trans (.of_step fun calls => ⟨_, .finish (Function.update_self ..)⟩)

/-- **The part of an update after it has waited** is made of critical sections. -/
theorem brings_startGeneration (hopen : (s.graph g).closed = false) (n : Nat) (d : Dialect)
    (sync : Bool) :
    Brings φ c g s (.waiting n) (s.startGeneration g d sync).2 .idle := by
  cases hp : prepareKernels g d ((s.resizeSets g).graph g).definition.compilable
    { session := s.resizeSets g } with
  | mk result s' =>
    cases result with
    | error e =>
      have hstopped : (s.startGeneration g d sync).2 = s'.lock g := by
        unfold Session.startGeneration
        dsimp only
        rw [hp]
      rw [hstopped]
      exact .of_step fun calls => ⟨calls, .stop (Function.update_self ..) hopen hp⟩
    | ok p =>
      refine Brings.trans (.of_step fun calls => ⟨calls, ?_⟩) (brings_prepared hp sync)
      exact .prepare (Function.update_self ..) hopen hp

/-- An update that is not rejected takes the compiles of its graph away and waits. -/
theorem brings_takeTasks (hg : g < s.graphs.size) (haccepts : s.accepts g = true) :
    let started := s.modifyGraph g fun x => { x with generation := x.generation + 1 }
    Brings φ c g s .idle (started.takeTasks (started.graphResources g))
      (.waiting ((s.graph g).generation + 1)) := by
  intro started
  have hstarted : Brings φ c g s .idle started (.waiting ((s.graph g).generation + 1)) := by
    refine .of_step fun calls => ⟨calls, ?_⟩
    exact .begin hg (Function.update_self ..) haccepts
  exact hstarted.trans (.of_leads (.takeTasks _ _))

/-- **An update** is made of critical sections. -/
theorem Leads.update (hg : g < s.graphs.size) (hfree : (s.graph g).locked = false)
    (hidle : φ g = .idle) (sync : Bool) :
    Leads φ c s (s.update g sync).2 := by
  unfold Session.update
  extract_lets x started taken
  split
  · exact .around (.of_eq rfl rfl rfl rfl rfl rfl rfl)
  · rename_i hvalid
    split
    · exact .refl s
    · rename_i comp hcompiler
      split
      · exact .refl s
      · rename_i hclosed
        have hopen : (s.graph g).closed = false := by simpa using hclosed
        have haccepts : s.accepts g = true := by
          show (x.definition.validate.toBool && (s.compiler? x.options.format).isSome &&
            !x.closed && !x.locked) = true
          rw [hvalid, hcompiler, show x.closed = false from hopen, show x.locked = false from hfree]
          rfl
        have hself : Function.update φ g Phase.idle = φ := by rw [← hidle, Function.update_eq_self]
        have htaken : Brings φ c g s .idle taken (.waiting ((s.graph g).generation + 1)) :=
          brings_takeTasks hg haccepts
        have hopen' : (taken.graph g).closed = false := by
          rw [((Steady.takeTasks started _).graph g).closed, graph_modifyGraph]
          split
          · exact hopen
          · exact hopen
        have hall := htaken.trans
          (brings_startGeneration hopen' _ (x.options.dialect.getD comp.dialect) sync)
        rw [Brings, hself] at hall
        exact hall

/-! ## Closing -/

theorem allResources_of_steady (h : s.Steady s') (g : Nat) :
    s'.allResources g = s.allResources g := by
  have hentries : s'.platformResources = s.platformResources := funext h.entries
  rw [allResources, allResources, graphResources, graphResources, (h.graph g).sets,
    (h.graph g).cook, hentries]

theorem steps_finishClose (s : Session) (hclosing : c g = true) (calls : List HookMark) :
    World.Steps ⟨s, φ, c, calls⟩ ⟨s.finishClose g, φ, Function.update c g false, calls⟩ :=
  .single (.finishClose hclosing)

/-- The graph is not open any more. -/
def closing (s : Session) (g : Nat) : Session :=
  s.modifyGraph g fun x => { x with closed := true, generation := x.generation + 1 }

/-- The graph has been closed, but for its pool. -/
def emptied (s : Session) (g : Nat) : Session :=
  ((s.closing g).takeTasks ((s.closing g).allResources g)).finishClose g

/-- Closing a graph takes its compiles and its resources away, and the last thing is its pool. -/
theorem close_eq (hopen : (s.graph g).closed = false) : ∃ records, s.close g =
    (if ((s.emptied g).graph g).options.ownsPool then
      (s.emptied g).closePool ((s.emptied g).graph g).options.pool
    else s.emptied g).note records := by
  unfold Session.close
  rw [if_neg (by rw [hopen]; exact Bool.false_ne_true)]
  extract_lets closed cook runtime cooked taken invalidated settled announced proxy cleared
    released o pooled
  -- the resources at the end are those that were listed at the beginning
  have hsteady : closed.Steady taken := .takeTasks closed _
  have hall : taken.allResources g = runtime ++ cooked := allResources_of_steady hsteady g
  have hcook : (taken.graph g).cook.map Prod.snd = cook := by rw [(hsteady.graph g).cook]
  have hreleased : s.emptied g = released := by
    unfold Session.emptied Session.finishClose
    rw [show (s.closing g).takeTasks ((s.closing g).allResources g) = taken from rfl, hall, hcook]
    rfl
  rw [hreleased]
  exact ⟨_, rfl⟩

/-- **Closing a graph** is made of critical sections. -/
theorem Leads.close (hg : g < s.graphs.size) (hfree : (s.graph g).locked = false)
    (hclosing : c g = false) : Leads φ c s (s.close g) := by
  by_cases hclosed : (s.graph g).closed = true
  · unfold Session.close
    rw [if_pos hclosed]
    exact .refl s
  · have hopen : (s.graph g).closed = false := Bool.not_eq_true _ ▸ hclosed
    obtain ⟨records, heq⟩ := close_eq hopen
    have htaken : Leads φ (Function.update c g true) (s.closing g)
      ((s.closing g).takeTasks ((s.closing g).allResources g)) := .takeTasks _ _
    have hsteps : Leads φ c s (s.emptied g) := by
      intro calls
      obtain ⟨calls', htaken⟩ := htaken calls
      have hbegin :
          World.Steps ⟨s, φ, c, calls⟩ ⟨s.closing g, φ, Function.update c g true, calls⟩ :=
        .single (.beginClose hg hopen hfree)
      have hend := steps_finishClose (φ := φ)
        ((s.closing g).takeTasks ((s.closing g).allResources g))
        (show Function.update c g true g = true from Function.update_self ..) calls'
      rw [Function.update_idem, ← hclosing, Function.update_eq_self] at hend
      exact ⟨calls', (hbegin.trans htaken).trans hend⟩
    rw [heq]
    exact (hsteps.trans (.ite (.closePool _ _) (.refl _))).trans (.of_books (.note _ records))

end

/-! ## Platforms -/

section
variable {φ : Nat → Phase} {c : Nat → Bool} {s s' : Session} {g : Nat}

theorem Leads.invalidate {rs : List Nat} (hrs : ∀ r ∈ rs, s.IsCooked r) :
    Leads φ c s (rs.foldl (fun s r => s.modifyResource r Resource.invalidate) s) := by
  have hall : Leads φ c s (rs.foldl (fun s r => s.modifyResource r Resource.invalidate) s) ∧
      s.Steady (rs.foldl (fun s r => s.modifyResource r Resource.invalidate) s) := by
    refine List.foldlRecOn (motive := fun t => Leads φ c s t ∧ s.Steady t) rs _
      ⟨.refl s, .refl s⟩ fun s' hs' r hr => ⟨?_, ?_⟩
    · exact hs'.1.trans (.around (.modifyResource ((hs'.2.isCooked_iff r).2 (hrs r hr)) _))
    · exact hs'.2.trans (.modifyResource s' r _)
  exact hall.1

theorem Leads.dropPlatform (s : Session) (platform : Nat) :
    Leads φ c s (s.dropPlatform platform) := by
  unfold Session.dropPlatform
  extract_lets taken announced
  have htaken : Leads φ c s taken := .takeTasks s _
  have hannounced : Leads φ c taken announced := .around (.announce taken platform)
  have hcooked : ∀ r ∈ announced.platformResources platform, announced.IsCooked r :=
    fun r hr => ⟨platform, hr⟩
  exact (htaken.trans hannounced).trans (.invalidate hcooked)

theorem Leads.clearPlatform (s : Session) (g : Nat) (name : String) :
    Leads φ c s (s.clearPlatform g name) := by
  unfold Session.clearPlatform
  split
  · exact .refl s
  · refine Leads.trans (.around (.modifyGraph s g ?_)) (.dropPlatform _ _)
    intro x
    exact ⟨⟨rfl, rfl, rfl, rfl, rfl, rfl, rfl⟩, rfl⟩

theorem Leads.clearPlatforms (s : Session) (g : Nat) : Leads φ c s (s.clearPlatforms g) := by
  unfold Session.clearPlatforms
  extract_lets cook
  have hforgotten : s.Around (s.modifyGraph g fun x => { x with cook := [] }) :=
    .modifyGraph s g fun _ => ⟨⟨rfl, rfl, rfl, rfl, rfl, rfl, rfl⟩, rfl⟩
  exact (Leads.around hforgotten).trans (.foldl _ cook (fun s e _ => .dropPlatform s e.2) _)

theorem Leads.buildKernel (s : Session) (g : Nat) (k : Int) (d : Dialect) (format : String) :
    Leads φ c s (s.buildKernel g k d format).2 :=
  .around (.of_eq rfl rfl rfl rfl rfl rfl rfl)

theorem Leads.buildKernels {d : Dialect} {format : String}
    (kernels : List (Nat × Kernel × KernelSource)) (s : Session) :
    Leads φ c s (Session.buildKernels g d format kernels s).2 := by
  induction kernels generalizing s with
  | nil => exact .refl s
  | cons x rest ih =>
    have hbuild : Leads φ c s (s.buildKernel g x.1 d format).2 := .buildKernel s g x.1 d format
    unfold Session.buildKernels
    split
    · rename_i e s' heq
      rw [heq] at hbuild
      exact hbuild
    · rename_i built s' _ heq
      rw [heq] at hbuild
      have hrest := hbuild.trans (ih s')
      split
      · rename_i e s'' heq'
        rw [heq'] at hrest
        exact hrest
      · rename_i builds s'' heq'
        rw [heq'] at hrest
        exact hrest

theorem Leads.buildFormats {platform : String} (formats : List String) (s : Session) :
    Leads φ c s (Session.buildFormats g platform formats s).2 := by
  induction formats generalizing s with
  | nil => exact .refl s
  | cons format rest ih =>
    unfold Session.buildFormats
    extract_lets compiler built
    have hbuilt : Leads φ c s built.2 := by
      cases hc : s.compiler? format with
      | none =>
        simp only [built, compiler, hc]
        exact .of_books (.note s _)
      | some comp =>
        simp only [built, compiler, hc]
        exact .buildKernels _ s
    clear_value built
    obtain ⟨result, s'⟩ := built
    cases result with
    | error e => exact hbuilt
    | ok builds =>
      have hrest := hbuilt.trans (ih s')
      dsimp only
      split
      · rename_i e s'' heq
        rw [heq] at hrest
        exact hrest
      · rename_i fs s'' heq
        rw [heq] at hrest
        exact hrest

/-! ### Entries -/

/-- A session that entries of a platform were made in, with their jobs. -/
structure Entered (φ : Nat → Phase) (c : Nat → Bool) (s : Session) (platform : Nat)
    (state : Session × List Job) : Prop where
  leads : Leads φ c s state.1
  exists_platform : platform < state.1.platforms.size
  jobs : ∀ j ∈ state.2, (∃ p, j.kind = .cook p) ∧ state.1.IsCooked j.resource

theorem Entered.makeEntry {platform : Nat} {state : Session × List Job}
    (h : Entered φ c s platform state) (g : Nat) (f : FormatBuilds) (k : Nat) (kernel : Kernel)
    (source : KernelSource) :
    Entered φ c s platform (makeEntry g platform f state k kernel source) := by
  unfold Session.makeEntry
  extract_lets level
  split
  rename_i s₁ jobs
  extract_lets r made failed
  have hmade : ∀ f : Resource → Resource, s₁.Around (made.modifyResource r f) :=
    fun f => Around.entry s₁ platform k { format := _, level } f
  have hplatforms : platform < made.platforms.size := by
    rw [show made.platforms.size = s₁.platforms.size from Array.size_modify]
    exact h.exists_platform
  have hcooked : ∀ i, s₁.IsCooked i → made.IsCooked i :=
    fun i hi => (hmade fun x => x).cooked i hi
  have hjobs : ∀ j ∈ jobs, (∃ p, j.kind = .cook p) ∧ made.IsCooked j.resource :=
    fun j hj => ⟨(h.jobs j hj).1, hcooked _ (h.jobs j hj).2⟩
  have hentered : ∀ (f : Resource → Resource) (s' : Session) (js : List Job),
      (made.modifyResource r f).Books s' →
      (∀ j ∈ js, (∃ p, j.kind = .cook p) ∧ made.IsCooked j.resource) →
      Entered φ c s platform (s', js) := by
    intro f s' js hs' hjs
    have hleads := h.leads.trans (.around (hmade f))
    obtain ⟨_, _, _, rfl⟩ := hs'
    exact ⟨hleads.trans (.of_books ⟨_, _, _, rfl⟩), hplatforms, hjs⟩
  have hfailed : ∀ e, Entered φ c s platform (failed e) := by
    intro e
    exact hentered _ _ _ ((Books.countCompile _ _).trans (.cookFailed _ _ _ _ _ _)) hjobs
  split
  · exact hfailed _
  · exact hfailed _
  · rename_i b _
    refine hentered _ _ _ (.refl _) fun j hj => ?_
    rcases List.mem_append.1 hj with hj | hj
    · exact hjobs j hj
    · cases List.mem_singleton.1 hj
      refine ⟨⟨platform, rfl⟩, platform, ?_⟩
      -- the new entry is the last one
      show r ∈ platformResources { s₁ with platforms := s₁.platforms.modify platform fun y =>
        { y with entries := y.entries ++ [(k, r)] } } platform
      rw [platformResources_modify, if_pos ⟨rfl, h.exists_platform⟩, List.map_append]
      exact List.mem_append_right _ (List.mem_singleton_self _)
  · have hsame : made.modifyResource r (fun x => x) = made := modifyResource_eq_self rfl
    exact hentered (fun x => x) _ _ (by rw [hsame]; exact .refl _) hjobs

theorem Leads.announceReady (s : Session) (g platform : Nat) :
    Leads φ c s (s.announceReady g platform) := by
  unfold Session.announceReady
  dsimp only
  split
  · exact .refl s
  · exact (Leads.around (.announce s platform)).trans (.of_books (.note _ _))

theorem Leads.register {j : Job} (hcooked : s.IsCooked j.resource) (id : Nat) :
    Leads φ c s (s.register id j) := by
  unfold Session.register
  split
  rename_i held resource _
  have htold : Leads φ c s (s.modifyResource j.resource fun _ => resource) :=
    .around (.modifyResource hcooked _)
  exact .ite htold (htold.trans (.cancelTask _ _))

/-- A platform's job is submitted. -/
theorem Leads.submit {j : Job} (hkind : ∃ p, j.kind = .cook p) (hcooked : s.IsCooked j.resource) :
    Leads φ c s (s.submit j) := by
  have hqueued : Leads φ c s (s.enqueue j) := .around (.enqueue hkind hcooked)
  have hcooked' : (s.enqueue j).IsCooked j.resource := hcooked
  rw [submit_eq]
  exact .ite (hqueued.trans (.drain _)) (hqueued.trans (.register hcooked' _))

/-- The jobs of a platform are submitted one after the other, and may be waited for. -/
theorem Leads.submitAll {jobs : List Job}
    (hjobs : ∀ j ∈ jobs, (∃ p, j.kind = .cook p) ∧ s.IsCooked j.resource)
    {f : Session → Job → Session} (hf : ∀ s j, f s j = s.submit j ∨ f s j = (s.submit j).drain) :
    Leads φ c s (jobs.foldl f s) ∧ s.Steady (jobs.foldl f s) := by
  refine List.foldlRecOn (motive := fun t => Leads φ c s t ∧ s.Steady t) jobs f
    ⟨.refl s, .refl s⟩ fun t ht j hj => ?_
  have hcooked : t.IsCooked j.resource := (ht.2.isCooked_iff _).2 (hjobs j hj).2
  have hleads : Leads φ c s (t.submit j) := ht.1.trans (.submit (hjobs j hj).1 hcooked)
  have hsteady : s.Steady (t.submit j) := ht.2.trans (.submit t j)
  rcases hf t j with h | h
  · rw [h]
    exact ⟨hleads, hsteady⟩
  · rw [h]
    exact ⟨hleads.trans (.drain _), hsteady.trans (.drain _)⟩

theorem Leads.beginPlatform (s : Session) (g : Nat) (platform : TargetPlatform) :
    Leads φ c s (s.beginPlatform g platform).2 := by
  unfold Session.beginPlatform
  split
  · exact .refl s
  · extract_lets cleared
    have hcleared : Leads φ c s cleared := .clearPlatform s g platform.name
    split
    · exact hcleared
    · have hbuilt : Leads φ c s (Session.buildFormats g platform.name platform.formats cleared).2 :=
        hcleared.trans (.buildFormats _ _)
      split
      · rename_i e s' heq
        rw [heq] at hbuilt
        exact hbuilt
      · rename_i formats s' heq
        rw [heq] at hbuilt
        extract_lets id opened kernels
        have hopened : Entered φ c s id (opened, []) := by
          refine ⟨hbuilt.trans (.around (.openPlatform s' platform)), ?_,
            fun j hj => absurd hj List.not_mem_nil⟩
          show id < (s'.platforms.push _).size
          simp [id]
        split
        rename_i made jobs hmade
        have hentries : Entered φ c s id (made, jobs) := by
          rw [← hmade]
          -- every format has an entry for every kernel
          refine List.foldlRecOn formats _ hopened fun state hstate f _ => ?_
          refine List.foldlRecOn kernels _ hstate fun state hstate x _ => ?_
          exact hstate.makeEntry g f x.1 x.2.1 x.2.2
        extract_lets listed first second
        have hlisted : Leads φ c s listed := by
          refine hentries.leads.trans (.around (.modifyGraph made g ?_))
          intro x
          exact ⟨⟨rfl, rfl, rfl, rfl, rfl, rfl, rfl⟩, rfl⟩
        have hjobs : ∀ j ∈ jobs, (∃ p, j.kind = .cook p) ∧ listed.IsCooked j.resource :=
          hentries.jobs
        -- default kernels are waited for, the others are only submitted
        obtain ⟨hfirst, hsteady⟩ : Leads φ c listed first ∧ listed.Steady first :=
          Leads.submitAll (fun j hj => hjobs j (List.mem_of_mem_filter hj)) fun _ _ => Or.inr rfl
        obtain ⟨hsecond, _⟩ : Leads φ c first second ∧ first.Steady second :=
          Leads.submitAll (fun j hj => ⟨(hjobs j (List.mem_of_mem_filter hj)).1,
            (hsteady.isCooked_iff _).2 (hjobs j (List.mem_of_mem_filter hj)).2⟩)
              fun _ _ => Or.inl rfl
        exact ((hlisted.trans hfirst).trans hsecond).trans (.announceReady _ _ _)

end

/-! ## Runs -/

/-- **Every action** is made of critical sections, at whose end no caller is at work. -/
theorem Leads.action {s : Session} (a : Action) (ha : a.Enabled s) :
    Leads (fun _ => .idle) (fun _ => false) s (a.apply s) := by
  cases a with
  | addGraph definition options => exact .around (.addGraph s definition options)
  | edit g f =>
    refine .around (.modifyGraph s g ?_)
    intro x
    exact ⟨⟨rfl, rfl, rfl, rfl, rfl, rfl, rfl⟩, rfl⟩
  | update g sync => exact .update (ha.graph g rfl) (ha.free g rfl) rfl sync
  | close g => exact .close (ha.graph g rfl) (ha.free g rfl) rfl
  | build g k d format => exact .buildKernel s g k d format
  | beginPlatform g platform => exact .beginPlatform s g platform
  | clearPlatform g name => exact .clearPlatform s g name
  | clearPlatforms g => exact .clearPlatforms s g
  | advance p =>
    rw [Action.apply]
    cases hs : s.advance p with
    | none => exact .refl s
    | some s' => exact .advance hs
  | openPool => exact .around (.openPool s)
  | closePool p => exact .closePool s p
  | hold => exact .around (.of_eq rfl rfl rfl rfl rfl rfl rfl)
  | release =>
    have hfree : s.Around { s with held := false } := .of_eq rfl rfl rfl rfl rfl rfl rfl
    exact (Leads.around hfree).trans (.drain _)
  | runQueue => exact .around (.runQueue s)
  | lookup key => exact .around (.of_eq rfl rfl rfl rfl rfl rfl rfl)
  | clearCache => exact .around (.of_eq rfl rfl rfl rfl rfl rfl rfl)
  | files f => exact .around (.of_eq rfl rfl rfl rfl rfl rfl rfl)
  | scripts xs => exact .around (.of_eq rfl rfl rfl rfl rfl rfl rfl)
  | takeEvents => exact .around (.takeEvents s)

/-- **Every run is an interleaving** in which no caller is left at work. -/
theorem Run.reachable {H : List Started} {s : Session} (h : Run H s) :
    ∃ calls, World.Reachable { session := s, calls } := by
  induction h with
  | @start files _ scripts limit => exact ⟨[], files, scripts, limit, .refl⟩
  | step a ha _ ih =>
    obtain ⟨calls, files, scripts, limit, hsteps⟩ := ih
    obtain ⟨calls', haction⟩ := Leads.action a ha calls
    exact ⟨calls', files, scripts, limit, hsteps.trans haction⟩
end KernelGraph.Session
