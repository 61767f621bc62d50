/-
  What an update leaves in the slots of its graph.

  When an update has prepared its kernels, the resource in the slot of each kernel has failed, holds
  a program of the kernel's build, or waits for one (`Readied.serves`).  That is a lasting property,
  `Resource.Serves`.  So until the next update of the graph a resource that is compiled holds a
  program of the key that the kernel was built with (`Run.reuses`), whatever happens meanwhile.
-/
import KernelGraph.Proofs.DigestTwice
import KernelGraph.Proofs.Session.Lasting
import KernelGraph.Proofs.Session.Verdicts

namespace KernelGraph

/-! ## Resources -/

namespace Resource

/-- The resource has failed or was given up, holds a program of the key that was built, or waits in
    the generation `n` for a compile of it. -/
structure Serves (n : Nat) (built : Except GraphError KernelBuild) (x : Resource) : Prop where
  compiled : x.state = .compiled → ∃ b, built = .ok b ∧ x.isReusable b.hashKey = true
  waiting : x.state = .compiling → x.generation = n ∧
    ∃ b b', built = .ok b ∧ x.build = some b' ∧ b'.hashKey = b.hashKey

section
variable {n m : Nat} {built : Except GraphError KernelBuild} {x : Resource} {p : Program}

theorem Serves.of_settled (hcompiled : x.state ≠ .compiled) (hwaiting : x.state ≠ .compiling) :
    x.Serves n built := ⟨fun h => absurd h hcompiled, fun h => absurd h hwaiting⟩

/-- A resource serves until it is begun anew. -/
theorem lasting_serves (n : Nat) (built : Except GraphError KernelBuild) :
    Lasting n (Serves n built) where
  awaited h hstate := (h.waiting hstate).1
  setTask {x} task m h := by
    unfold Resource.setTask
    split
    · exact ⟨h.compiled, h.waiting⟩
    · exact h
  takeTask {x} h := by
    have hsettles := Settles.takeTask x
    refine ⟨fun hstate => ?_, fun hstate => ?_⟩
    · have hold : x.state = .compiled := by
        unfold Resource.takeTask at hstate
        split at hstate
        · exact hstate
        · dsimp only at hstate
          split at hstate
          · cases hstate
          · exact hstate
      obtain ⟨b, hb, hreuse⟩ := h.compiled hold
      exact ⟨b, hb, (isReusable_takeTask x _).trans hreuse⟩
    · have hsame := hsettles.same hstate
      rw [hsame] at hstate ⊢
      exact h.waiting hstate
  abandon {x} m h := by
    unfold Resource.abandon
    split
    · exact .of_settled (by simp) (by simp)
    · exact h
  finish {x program result} hprogram h := by
    unfold Resource.finish
    split
    · rename_i hawaited
      rw [Bool.and_eq_true, decide_eq_true_eq, decide_eq_true_eq] at hawaited
      obtain ⟨_, b, b', hbuilt, hbuild, hkey⟩ := h.waiting hawaited.2
      refine ⟨fun hstate => ⟨b, hbuilt, isReusable_iff.2 ⟨hstate, ?_, b', hbuild, hkey⟩⟩,
        fun hstate => ?_⟩
      · dsimp only at hstate ⊢
        split at hstate
        · rename_i hsuccess
          rw [if_pos hsuccess]
          exact hprogram hsuccess
        · cases hstate
      · dsimp only at hstate
        split at hstate
        · cases hstate
        · cases hstate
    · exact h

/-- The resource waits for no compile and shows what `x₀` shows. -/
structure Rests (x₀ x : Resource) : Prop where
  face : x.face = x₀.face
  settled : x.state ≠ .compiling

theorem Rests.refl (h : x.state ≠ .compiling) : x.Rests x := ⟨rfl, h⟩

theorem Rests.state {x₀ : Resource} (h : x₀.Rests x) : x.state = x₀.state := by
  have hstate := congrArg Resource.state h.face
  exact hstate

/-- A resource rests until it is begun anew. -/
theorem lasting_rests (n : Nat) (x₀ : Resource) : Lasting n (Rests x₀) where
  awaited h hstate := absurd hstate h.settled
  setTask {x} task m h := by
    unfold Resource.setTask
    rw [if_neg (by simp [h.settled])]
    exact h
  takeTask {x} h := by
    unfold Resource.takeTask
    split
    · exact h
    · dsimp only
      rw [if_neg h.settled]
      exact ⟨h.face, h.settled⟩
  abandon {x} m h := by
    unfold Resource.abandon
    rw [if_neg (by simp [h.settled])]
    exact h
  finish {x program result} _ h := by
    unfold Resource.finish
    rw [if_neg (by simp [h.settled])]
    exact h

end

end Resource

/-! ## What is built -/

section
variable {G : Graph} {registry k : Nat} {d : Dialect} {format : String} {wrapper : Option Digest}
  {shown : String → Option String} {built : Except GraphError KernelBuild}

/-- Kernels that are built one after the other are built while the registry gives one answer. -/
theorem Graph.Answers.of_mem_buildAll {ks : List (Nat × Kernel × KernelSource)} {files : FileStore}
    (h : Graph.Answers registry format wrapper shown files)
    (hmem : (k, built) ∈ G.buildAll registry d format ks files) :
    ∃ files', Graph.Answers registry format wrapper shown files' ∧
      built = (G.build files' registry k d format).result := by
  induction ks generalizing files with
  | nil => cases hmem
  | cons x ks ih =>
    rw [Graph.buildAll] at hmem
    rcases List.mem_cons.1 hmem with heq | hmem
    · cases heq
      exact ⟨files, h, rfl⟩
    · exact ih (h.build G _ d) hmem

end

namespace Session

section
variable {R : Session} {g k : Nat} {p q : Prepared} {d : Dialect}

/-- The resources of the jobs hold their builds. -/
def HoldsBuilds (p : Prepared) : Prop :=
  ∀ x ∈ p.jobs, (p.session.resource x.2.2.2.1).build = some x.2.2.2.2

theorem Preparation.holdsBuilds_step {rest : List Nat} (h : Preparation g R (k :: rest) p)
    (kernel : Kernel) (source : KernelSource) (hp : HoldsBuilds p)
    (hq : (Session.prepareKernel g d p k kernel source).1 = .ok q) : HoldsBuilds q := by
  obtain ⟨r, s', hprovided, _, hprepares⟩ := h.provided d kernel source
  have hmodified := hprovided.resource_modifyResource
  -- the jobs so far are those of other kernels
  have hold : ∀ x ∈ p.jobs, (q.session.resource x.2.2.2.1).build = some x.2.2.2.2 := by
    intro x hx
    have hne : x.1 ≠ k := fun hk => by
      have hapart := List.nodup_append.1 h.apart
      exact hapart.2.2 k (List.mem_append_right _ (List.mem_map.2 ⟨x, hx, hk⟩)) k
        (List.mem_cons_self ..) rfl
    rw [(h.beside d kernel source hq hne).resource (h.owned x hx)]
    exact hp x hx
  generalize Session.prepareKernel g d p k kernel source = out at hprepares hq
  generalize (p.session.buildOutcome g d k).result = built at hprepares
  cases hprepares with
  | stopped => cases hq
  | failed =>
    cases hq
    exact hold
  | reused =>
    cases hq
    exact hold
  | begun _ hs'' =>
    cases hq
    intro x hx
    rcases List.mem_append.1 hx with hx | hx
    · exact hold x hx
    · cases List.mem_singleton.1 hx
      dsimp only
      rw [hs'', hmodified]
      rfl

/-- What is known of all kernels that an update has prepared. -/
structure Preparation.Result (g : Nat) (R : Session) (d : Dialect)
    (ks : List (Nat × Kernel × KernelSource)) (p q : Prepared) : Prop where
  builds : HoldsBuilds p → HoldsBuilds q
  declared : ∀ k e, (k, .error (.undeclared e)) ∉ (R.graph g).definition.buildAll
    (R.graph g).options.registry d (R.graph g).options.format ks p.session.files
  answers : ∀ wrapper shown,
    Graph.Answers (R.graph g).options.registry (R.graph g).options.format wrapper shown
      p.session.files →
    Graph.Answers (R.graph g).options.registry (R.graph g).options.format wrapper shown
      q.session.files

/-- **Preparations that come to an end.** -/
theorem Preparation.result {ks : List (Nat × Kernel × KernelSource)}
    (h : Preparation g R (ks.map Prod.fst) p)
    (hq : (Session.prepareKernels g d ks p).1 = .ok q) : Preparation.Result g R d ks p q := by
  induction ks generalizing p with
  | nil =>
    cases hq
    exact ⟨fun h => h, fun _ _ h => (by cases h), fun _ _ h => h⟩
  | cons y ks ih =>
    obtain ⟨k, kernel, source⟩ := y
    unfold Session.prepareKernels at hq
    split at hq
    · cases hq
    · rename_i p' s' heq
      have hp' : (Session.prepareKernel g d p k kernel source).1 = .ok p' := by rw [heq]
      obtain ⟨_, _, hnext⟩ := h.prepareKernel d kernel source
      obtain ⟨hbuilds, hdeclared, hanswers⟩ := ih (hnext p' hp').2 hq
      have hfiles := (Preparation.brings h d kernel source hp').1
      rw [hfiles] at hdeclared hanswers
      refine ⟨fun hp => hbuilds (h.holdsBuilds_step kernel source hp hp'), fun i e hmem => ?_,
        fun wrapper shown hw => hanswers wrapper shown ?_⟩
      · rw [Graph.buildAll, ← h.buildOutcome_eq d k] at hmem
        rcases List.mem_cons.1 hmem with hhead | hmem
        · -- the update would have stopped here
          obtain ⟨r, s'', _, _, hprepares⟩ := h.provided d kernel source
          have hbuilt : .error (.undeclared e) = (p.session.buildOutcome g d k).result :=
            congrArg Prod.snd hhead
          dsimp only at hprepares
          rw [heq, ← hbuilt] at hprepares
          cases hprepares with
          | failed he => exact he e rfl
        · exact hdeclared i e hmem
      · rw [h.buildOutcome_eq d k]
        exact hw.build _ k d

/-- **What the slot of a kernel holds** when its update has prepared it. -/
theorem Readied.serves {built : Except GraphError KernelBuild} {n : Nat}
    (h : Readied R g k built q) (hbegun : Begun g R q) (hbuilds : HoldsBuilds q)
    (hn : (q.session.graph g).generation = n) : q.session.InSlot g k (Resource.Serves n built) := by
  intro r hr
  cases h with
  | failed _ hslot _ hstate =>
    cases hr.symm.trans hslot
    exact .of_settled (by simp [hstate]) (by simp [hstate])
  | @reused b _ hbuilt hslot _ hreuse hsame =>
    cases hr.symm.trans hslot
    rw [hsame]
    refine ⟨fun _ => ⟨b, hbuilt, hreuse⟩, fun hstate => ?_⟩
    rw [(Resource.isReusable_iff.1 hreuse).1] at hstate
    cases hstate
  | @begun b _ name isDefault hbuilt hslot hjob =>
    cases hr.symm.trans hslot
    have hcompiling := hbegun.compiling _ hjob
    refine ⟨fun hstate => ?_, fun _ => ⟨?_, b, b, hbuilt, hbuilds _ hjob, rfl⟩⟩
    · cases hcompiling.symm.trans hstate
    · exact (hbegun.generation _ hjob).trans hn

end

/-! ## What an update leaves -/

section
variable {H : List Started} {s s₁ s₂ t : Session} {g k : Nat} {d : Dialect} {q : Prepared}
  {sync : Bool} {P : Resource → Prop}

/-- An update that returns was not rejected. -/
theorem accepts_of_update (hfree : (s.graph g).locked = false)
    (h : (s.update g sync).1 = .ok ()) : s.accepts g = true := by
  unfold Session.update at h
  dsimp only at h
  split at h
  · cases h
  · rename_i hvalid
    split at h
    · cases h
    · rename_i c hc
      split at h
      · cases h
      · rename_i hopen
        unfold Session.accepts
        dsimp only
        rw [hvalid, hc, Bool.not_eq_true] at *
        rw [hopen, hfree]
        rfl

/-- When an update has prepared its kernels, it leaves the graphs and the files alone. -/
theorem steady_startGeneration (sync : Bool)
    (hq : prepareKernels g d ((t.resizeSets g).graph g).definition.compilable
      { session := t.resizeSets g } = (.ok q, q.session)) :
    q.session.Steady (t.startGeneration g d sync).2 := by
  have hsubmitted : q.session.Steady ((ready g q).submitJobs sync (updateJobs g q)) :=
    (steady_ready g q).trans (.submitJobs _ _ _)
  rw [startGeneration_eq sync hq]
  exact (keeps_ite (hsubmitted.trans (.drain _)) hsubmitted).trans (.finishUpdate _ g _)

/-- What an update of the graph that has returned leaves: in the slots of its kernels what serves
    their builds, and registries that keep to their answers.  No interface has asked for a parameter
    that it has not declared, so the graph's lock was given back. -/
structure Serving (s : Session) (g : Nat) (s₁ : Session) : Prop where
  declared : ∀ k e, (k, .error (.undeclared e)) ∉ s.updateBuilds g
  free : (s₁.graph g).locked = false
  generation : (s₁.graph g).generation = (s.graph g).generation + 1
  serves : ∀ x ∈ s.updateBuilds g,
    s₁.InSlot g x.1 (Resource.Serves ((s.graph g).generation + 1) x.2)
  answers : ∀ wrapper shown,
    Graph.Answers (s.graph g).options.registry (s.graph g).options.format wrapper shown s.files →
    Graph.Answers (s.graph g).options.registry (s.graph g).options.format wrapper shown s₁.files

/-- The slots of the kernels that an update has prepared. -/
theorem serves_of_prepared (ht : t.Holdings) (hg : g < t.graphs.size)
    (hq : prepareKernels g d ((t.resizeSets g).graph g).definition.compilable
      { session := t.resizeSets g } = (.ok q, q.session)) :
    ∀ x ∈ (t.resizeSets g).graphBuilds g d,
      q.session.InSlot g x.1 (Resource.Serves (t.graph g).generation x.2) := by
  have hstart := Preparation.resizeSets ht hg
  have hresult := hstart.result (congrArg Prod.fst hq)
  have hl := launches_of_prepared ht hg hq
  obtain ⟨q', hq', hreadied, _⟩ :=
    hstart.readiesAll (fun _ _ => ⟨rfl, fun _ _ => rfl⟩) hresult.declared
  cases hq.symm.trans hq'
  have hgeneration : (q.session.graph g).generation = (t.graph g).generation := by
    rw [hl.preparation.renews.generation, graph_resizeSets_eq ht]
  exact fun x hx => (hreadied x hx).serves hl.begun
    (hresult.builds fun x hx => by cases hx) hgeneration

/-- The world in which an accepted update has taken the compiles of its graph away. -/
theorem Run.interrupted (h : Run H s) (hg : g < s.graphs.size) (haccepts : s.accepts g = true) :
    ∃ calls, World.Orderly ⟨s.interrupt g,
      Function.update (fun _ => .idle) g (.waiting ((s.graph g).generation + 1)), fun _ => false,
      calls⟩ := by
  obtain ⟨calls, hreachable⟩ := h.reachable
  have hwaits : Brings (fun _ => .idle) (fun _ => false) g s .idle (s.interrupt g) _ :=
    brings_takeTasks hg haccepts
  obtain ⟨calls', hsteps⟩ := hwaits calls
  rw [Function.update_eq_self] at hsteps
  exact ⟨calls', hreachable.orderly.steps hsteps⟩

/-- **What an update has prepared lasts** until it returns. -/
theorem inSlot_startGeneration {φ : Nat → Phase} {c : Nat → Bool}
    {calls : List HookMark} {m n : Nat}
    (ho : World.Orderly ⟨t, Function.update φ g (.waiting m), c, calls⟩) (hc : c g = false)
    (hopen : (t.graph g).closed = false)
    (hq : prepareKernels g d ((t.resizeSets g).graph g).definition.compilable
      { session := t.resizeSets g } = (.ok q, q.session)) (hP : Resource.Lasting n P)
    (hn : (q.session.graph g).generation = n) (hslot : q.session.InSlot g k P) :
    (t.startGeneration g d sync).2.InSlot g k P := by
  have hwaiting : Function.update φ g (.waiting m) g = .waiting m := Function.update_self ..
  have hprepare := ho.step (.prepare (w := ⟨t, _, c, calls⟩) hwaiting hopen hq)
  obtain ⟨calls', hsteps⟩ :=
    brings_prepared (φ := Function.update φ g (.waiting m)) (c := c) hq sync calls
  have hholdings := (launches_of_prepared ho.holdings (ho.waits hwaiting).graph
    hq).preparation.holdings
  have hframe : q.session.Frame (q.session.setPending g (q.jobs.map Prod.fst)) :=
    .setPending q.session g _
  have hpending := (hframe.keeps_of_resources (P := P) hholdings
    ((Steady.setPending q.session g _).graph g).kept rfl).inSlot hslot
  have hn' := ((Steady.setPending q.session g (q.jobs.map Prod.fst)).graph g).generation.trans hn
  have hend := ((steady_startGeneration sync hq).graph g).generation.trans hn
  unfold World.enter at hprepare
  dsimp only at hprepare
  generalize (t.startGeneration g d sync).2 = s₁ at hsteps hend ⊢
  generalize q.session.setPending g (q.jobs.map Prod.fst) = opened at hprepare hsteps hpending hn'
  refine (hprepare.keeps hP hsteps hn' hend ⟨fun m' => ?_, hc⟩).1.inSlot hpending
  dsimp only
  rw [Function.update_self]
  simp

/-- **An update that returns** leaves what serves its builds. -/
theorem Run.serving (h : Run H s) (hg : g < s.graphs.size) (hfree : (s.graph g).locked = false)
    (hupdate : s.update g sync = (.ok (), s₁)) : Serving s g s₁ := by
  have haccepts := accepts_of_update hfree (by rw [hupdate])
  obtain ⟨calls, ho⟩ := h.interrupted hg haccepts
  have ht := ho.holdings
  have hsteady : (s.begun g).Steady (s.interrupt g) := .takeTasks _ _
  rw [update_eq_startGeneration haccepts sync] at hupdate
  generalize s.interrupt g = t at ho ht hsteady hupdate
  have hwaiting :
      Function.update (fun _ => Phase.idle) g (.waiting ((s.graph g).generation + 1)) g =
      .waiting ((s.graph g).generation + 1) := Function.update_self ..
  have hgt : g < t.graphs.size := (ho.waits hwaiting).graph
  have hgraph := hsteady.graph g
  rw [graph_begun hg] at hgraph
  have hstart := Preparation.resizeSets ht hgt
  cases hp : prepareKernels g (s.dialect g) ((t.resizeSets g).graph g).definition.compilable
    { session := t.resizeSets g } with
  | mk result s' =>
    cases result with
    | error e =>
      rw [startGeneration_of_error hp] at hupdate
      cases hupdate
    | ok q =>
      obtain ⟨_, hrenews, hprepared⟩ := hstart.prepareKernels (d := s.dialect g)
      have hsession := (hprepared q (by rw [hp])).1
      rw [hp] at hsession hrenews
      dsimp only at hsession hrenews
      subst hsession
      have hgeneration : (q.session.graph g).generation = (t.graph g).generation := by
        rw [hrenews.generation, graph_resizeSets_eq ht]
      have hserves := serves_of_prepared ht hgt hp
      have hresult := hstart.result (congrArg Prod.fst hp)
      have hend := steady_startGeneration sync hp
      have hopen : (t.graph g).closed = false := hgraph.closed.trans (open_of_accepts haccepts)
      have hs₁ : s₁ = (t.startGeneration g (s.dialect g) sync).2 := by rw [hupdate]
      rw [hs₁]
      have hbuilds := graphBuilds_resizeSets ht hsteady (s.dialect g)
      refine ⟨fun k e hmem => ?_, ?_, ?_, fun x hx => ?_, fun wrapper shown hanswers => ?_⟩
      · rw [updateBuilds, ← hbuilds] at hmem
        exact hresult.declared k e hmem
      · rw [(hend.graph g).locked, hrenews.graph, graph_resizeSets_eq ht]
        exact hgraph.locked.trans hfree
      · rw [(hend.graph g).generation, hgeneration, hgraph.generation]
      · rw [updateBuilds, ← hbuilds] at hx
        have hslot := hserves x hx
        rw [hgraph.generation] at hgeneration hslot
        exact inSlot_startGeneration ho rfl hopen hp (Resource.lasting_serves _ x.2)
          hgeneration hslot
      · have hoptions : ((t.resizeSets g).graph g).options = (s.graph g).options := by
          rw [graph_resizeSets_eq ht]
          exact hgraph.options
        have hfiles : (t.resizeSets g).files = s.files :=
          (resizeSets_fields ht g).2.1.trans hsteady.files
        have hkept := hresult.answers wrapper shown
        dsimp only at hkept
        rw [hoptions, hfiles] at hkept
        rw [hend.files]
        exact hkept hanswers

/-- Until the next update of the graph a kernel that is compiled has **a program that can be
    reused** for its build. -/
theorem Run.reuses {built : Except GraphError KernelBuild} {r : Nat} (h : Run H s)
    (hg : g < s.graphs.size) (hfree : (s.graph g).locked = false)
    (hupdate : s.update g sync = (.ok (), s₁)) (hlater : s₁.Later s₂)
    (hn : (s₂.graph g).generation = (s₁.graph g).generation)
    (hbuilt : (k, built) ∈ s.updateBuilds g) (hr : s₂.owned? g k = some r)
    (hcompiled : (s₂.resource r).state = .compiled) :
    ∃ b, built = .ok b ∧ s₂.Reuses g k b := by
  have hserving := h.serving hg hfree hupdate
  have hrun : Run _ (s.update g sync).2 := h.step (.update g sync) (.update hg hfree)
  rw [hupdate] at hrun
  have hslot := (hrun.keeps hlater (Resource.lasting_serves _ built) hserving.generation
    (hn.trans hserving.generation)).inSlot (hserving.serves _ hbuilt)
  obtain ⟨b, hb, hreuse⟩ := (hslot r hr).compiled hcompiled
  exact ⟨b, hb, r, hr, hreuse⟩

end

end Session

end KernelGraph
