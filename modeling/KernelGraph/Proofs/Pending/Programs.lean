/-
  What sections do to the programs of kernels.

  A resource comes to hold a program in one way: a job brings it what it waits for.  Every other
  section leaves its program, and makes no resource compiled that was not.  While a graph is at one
  generation and nobody is about to replace what is outstanding of it, its kernels keep their
  resources, too, and a compiled one stays compiled.
-/
import KernelGraph.Proofs.Pending.Books
import KernelGraph.Proofs.Workshop.Stations

namespace KernelGraph

/-- The resource has the program that it had, and is not compiled unless it was. -/
def Resource.Abides (x x' : Resource) : Prop :=
  x'.program = x.program ∧ (x'.state = .compiled → x.state = .compiled)

namespace Resource.Abides

variable {x x' x'' : Resource}

theorem refl (x : Resource) : x.Abides x := ⟨rfl, fun h => h⟩

theorem trans (h : x.Abides x') (h' : x'.Abides x'') : x.Abides x'' :=
  ⟨h'.1.trans h.1, fun hx => h.2 (h'.2 hx)⟩

theorem takeTask (x : Resource) :
    x.Abides x.takeTask.2 ∧ (x.state = .compiled → x.takeTask.2.state = .compiled) := by
  unfold Resource.takeTask
  split
  · exact ⟨.refl x, fun h => h⟩
  · refine ⟨⟨rfl, fun h => ?_⟩, fun h => ?_⟩
    · dsimp only at h
      split at h
      · cases h
      · exact h
    · dsimp only
      rw [if_neg]
      · exact h
      · rw [h]
        exact fun h => by cases h

theorem abandon (x : Resource) (n : Nat) :
    x.Abides (x.abandon n) ∧ (x.state = .compiled → (x.abandon n).state = .compiled) := by
  unfold Resource.abandon
  split
  · rename_i hcompiling
    simp only [Bool.and_eq_true, decide_eq_true_eq] at hcompiling
    refine ⟨⟨rfl, fun h => by cases h⟩, fun h => ?_⟩
    rw [hcompiling.2] at h
    cases h
  · exact ⟨.refl x, fun h => h⟩

theorem invalidate (x : Resource) : x.Abides x.invalidate := ⟨rfl, fun h => by cases h⟩

end Resource.Abides

namespace Session

section
variable {s s' R : Session} {g k r : Nat} {p q : Prepared}

/-! ## Preparing -/

/-- Preparing a kernel makes no resource compiled. -/
theorem Preparation.compiled {rest : List Nat} (h : Preparation g R (k :: rest) p) (d : Dialect)
    (kernel : Kernel) (source : KernelSource)
    (hq : (Session.prepareKernel g d p k kernel source).1 = .ok q) {i : Nat}
    (hi : (q.session.resource i).state = .compiled) : (p.session.resource i).state = .compiled := by
  obtain ⟨set, hset⟩ := h.sets k (List.mem_cons_self ..)
  have hresource := resource_kernelResource h.holdings hset i
  have hprepares := prepareKernel_prepares g d p k kernel source
  generalize (p.session.kernelResource g k).1 = r at hprepares
  generalize (p.session.kernelResource g k).2 = m at hprepares hresource
  have hprovided : (m.resource i).state = .compiled → (p.session.resource i).state = .compiled := by
    intro hm
    rcases hresource with heq | ⟨-, hstate, -⟩
    · rw [← heq]
      exact hm
    · rw [hstate] at hm
      cases hm
  have hbuilt : ∀ i, (m.buildKernel g k d (p.session.graph g).options.format).2.resource i =
      m.resource i := fun _ => rfl
  generalize m.buildKernel g k d (p.session.graph g).options.format = built at hprepares hbuilt
  obtain ⟨result, m'⟩ := built
  dsimp only at hprepares hbuilt
  -- a compile that is begun, or has failed, leaves its resource in another state
  have hmodified : ∀ {f : Resource → Resource}, (∀ x, (f x).state ≠ .compiled) →
      ((m'.modifyResource r f).resource i).state = .compiled →
        (m.resource i).state = .compiled := by
    intro f hf hstate
    rw [resource_modifyResource] at hstate
    split at hstate
    · exact absurd hstate (hf _)
    · rw [← hbuilt]
      exact hstate
  generalize Session.prepareKernel g d p k kernel source = out at hprepares hq
  cases hprepares with
  | stopped => cases hq
  | failed _ _ hs' _ =>
    cases hq
    subst hs'
    exact hprovided (hmodified (fun _ h => by cases h) hi)
  | reused _ hs' =>
    cases hq
    obtain ⟨_, _, _, rfl⟩ := hs'
    refine hprovided ?_
    rw [← hbuilt]
    exact hi
  | begun _ hs' =>
    cases hq
    subst hs'
    exact hprovided (hmodified (fun _ h => by cases h) hi)

theorem Preparation.compiledAll {d : Dialect} {ks : List (Nat × Kernel × KernelSource)}
    (h : Preparation g R (ks.map Prod.fst) p)
    (hq : (Session.prepareKernels g d ks p).1 = .ok q) {i : Nat}
    (hi : (q.session.resource i).state = .compiled) : (p.session.resource i).state = .compiled := by
  induction ks generalizing p with
  | nil =>
    cases hq
    exact hi
  | cons x ks ih =>
    obtain ⟨k, kernel, source⟩ := x
    unfold Session.prepareKernels at hq
    split at hq
    · cases hq
    · rename_i p' _ heq
      have hp' : (Session.prepareKernel g d p k kernel source).1 = .ok p' := by rw [heq]
      obtain ⟨_, _, hnext⟩ := h.prepareKernel d kernel source
      exact h.compiled d kernel source hp' (ih (hnext p' hp').2 hq)

/-- **An update that prepares its kernels** leaves all programs. -/
theorem Holdings.abides_prepare (hs : s.Holdings) (hg : g < s.graphs.size)
    {d : Dialect} {m : Session}
    (hp : Session.prepareKernels g d ((s.resizeSets g).graph g).definition.compilable
      { session := s.resizeSets g } = (.ok p, m)) (i : Nat) :
    (s.resource i).Abides (p.session.resource i) := by
  have hstart := Preparation.resizeSets hs hg
  have hresized := resizeSets_fields hs g
  obtain ⟨hbegun⟩ := ((hstart.begunAll (d := d) (begun_start g _)).2 p (by rw [hp])).toUndisturbed
  refine ⟨(hbegun i).trans (hresized.1.program i), fun hi => ?_⟩
  have hold := hstart.compiledAll (d := d) (q := p) (by rw [hp]) hi
  have hresource := resource_foldl_invalidate (s.removedResources g) s i
  have hsame : (s.resizeSets g).resource i = ((s.removedResources g).foldl
      (fun s r => s.modifyResource r Resource.invalidate) s).resource i := by
    rw [resizeSets_eq hs]
    rfl
  rw [hsame, hresource] at hold
  split at hold
  · cases hold
  · exact hold

/-- What a graph has after it has prepared its kernels it had before, or it is not compiled. -/
theorem Holdings.owns_prepare (hs : s.Holdings) (hg : g < s.graphs.size) {d : Dialect} {m : Session}
    (hp : Session.prepareKernels g d ((s.resizeSets g).graph g).definition.compilable
      { session := s.resizeSets g } = (.ok p, m)) (ho : p.session.Owns g k r)
    (hr : (p.session.resource r).state = .compiled) : s.Owns g k r := by
  have hstart := Preparation.resizeSets hs hg
  obtain ⟨_, hrenews, hnext⟩ := hstart.prepareKernels (d := d)
  have hsession := (hnext p (by rw [hp])).1
  rw [← hsession] at hrenews
  rcases hrenews.fresh ho with hold | hle
  · exact (Frame.resizeSets hs g).owns hold
  · -- a new resource has no program yet
    have hcompiled := (hs.abides_prepare hg hp r).2 hr
    have hsize := (Frame.resizeSets hs g).resources
    rw [resource_of_le (Nat.le_trans hsize hle)] at hcompiled
    cases hcompiled

end

end Session

namespace Ledger

open Session

variable {L L' : Ledger} {g k r : Nat}

/-! ## Sections -/

/-- The resource gets a program that it has waited for. -/
structure Delivers (L L' : Ledger) (r : Nat) : Prop where
  task : ∃ (id : Nat) (t : CompileTask), L.session.tasks[id]? = some t ∧ t.job.IsRuntime ∧
    t.job.resource = r ∧ t.done = false ∧ L.session.Awaits t.job
  program : (L'.session.resource r).program.isSome

/-- The resource keeps its program, and stays compiled unless it is about to be replaced. -/
def Preserves (L L' : Ledger) (g r : Nat) : Prop :=
  (L.session.resource r).Abides (L'.session.resource r) ∧
    (L.Settled g → (L.session.resource r).state = .compiled →
      (L'.session.resource r).state = .compiled)

theorem preserves_of {x : Resource} (h : L'.session.resource r = x)
    (habides : (L.session.resource r).Abides x)
    (hcompiled : L.Settled g → (L.session.resource r).state = .compiled → x.state = .compiled) :
    L.Preserves L' g r := by
  rw [Preserves, h]
  exact ⟨habides, hcompiled⟩

theorem preserves_of_eq (h : L'.session.resource r = L.session.resource r) : L.Preserves L' g r :=
  preserves_of h (.refl _) fun _ hstate => hstate

/-- A graph takes its tasks away; no program is lost. -/
theorem preserves_takeAll {s : Session} {i : Nat} (hs : s.resources = L.session.resources)
    (hL' : L'.session = s.takeAll i) : L.Preserves L' g r := by
  have hsame : s.resource r = L.session.resource r := by rw [Session.resource, Session.resource, hs]
  have htaken := resource_foldl_takeTask (s.graphResources i) s r
  rw [hsame] at htaken
  refine preserves_of ((congrArg (fun s => s.resource r) hL').trans htaken) ?_ fun _ hstate => ?_
  · split
    · exact (Resource.Abides.takeTask _).1
    · exact .refl _
  · split
    · exact (Resource.Abides.takeTask _).2 hstate
    · exact hstate

/-- A result arrives: it brings a program, or the resource was waiting and has failed. -/
theorem delivers_or_preserves (hholdings : L.session.Holdings) (ho : L.session.Owns g k r)
    {id n : Nat} {t : CompileTask} {plan : Plan} {program : Option Program} {result : CompileResult}
    {returned : Except (CallError ProgramError) (Program × Bool)}
    {landing : Nat → Option (Option Program × CompileResult)}
    (ht : L.session.tasks[id]? = some t) (hkind : t.job.kind = .runtime n plan)
    (hdone : t.done = false) (hawaits : L.session.Awaits t.job)
    (hresult : jobResult t.job (L.session.resource t.job.resource).level returned =
      some (program, result)) :
    L.Delivers { L with session := L.session.deliver t.job n program result, landing } r ∨
      L.Preserves { L with session := L.session.deliver t.job n program result, landing } g r := by
  have hresource := resource_modifyResource L.session t.job.resource
    (fun x => (x.finish n program result).2) r
  by_cases hr : t.job.resource = r
  · subst hr
    rw [if_pos ⟨rfl, hholdings.lt ho⟩, Resource.finish,
      if_pos (by rw [← Job.generation_eq hkind, hawaits.1, hawaits.2]; simp)] at hresource
    cases hsuccess : result.success with
    | true =>
      refine Or.inl ⟨⟨id, t, ht, ⟨n, plan, hkind⟩, rfl, hdone, hawaits⟩, ?_⟩
      have hprogram := congrArg Resource.program hresource
      dsimp only at hprogram
      rw [hsuccess, if_pos rfl] at hprogram
      exact (congrArg Option.isSome hprogram).trans
        ((jobResult_program_or_error hresult).1 hsuccess)
    | false =>
      refine Or.inr (preserves_of hresource ⟨?_, fun hstate => ?_⟩ fun _ hstate => ?_)
      · dsimp only
        rw [hsuccess]
        rfl
      · dsimp only at hstate
        rw [hsuccess] at hstate
        cases hstate
      · rw [hawaits.2] at hstate
        cases hstate
  · rw [if_neg fun h => hr h.1] at hresource
    exact Or.inr (preserves_of_eq hresource)

/-- **A section** leaves the program of a resource and whether it is compiled, or brings what it has
    waited for. -/
theorem Books.preserves (h : L.Books) (hstep : Step L L') (ho : L.session.Owns g k r) :
    L.Delivers L' r ∨ L.Preserves L' g r := by
  have hholdings := h.calls.holdings
  cases hstep with
  | around haround =>
    exact Or.inr (preserves_of_eq (haround.kept r (hholdings.lt ho) (hholdings.uncooked ho)))
  | drop _ _ _ _ _ => exact Or.inr (preserves_of_eq rfl)
  | @abandon id t returned ht hruntime hdone hlanding hcancelled hresult =>
    refine Or.inr (preserves_of (resource_modifyResource L.session t.job.resource
      (fun x => x.abandon t.job.generation) r) ?_ fun _ hstate => ?_)
    · split
      · exact (Resource.Abides.abandon _ _).1
      · exact .refl _
    · split
      · exact (Resource.Abides.abandon _ _).2 hstate
      · exact hstate
  | deliver ht hkind hdone hlanding hawaits hresult =>
    exact delivers_or_preserves hholdings ho ht hkind hdone hawaits hresult
  | @land id t n plan program result ht hkind hlanding =>
    have hposts := Posts.land L.session t.job n plan program result
    have hresources : (L.session.land t.job n plan program result).resources =
        L.session.resources := by
      rw [hposts.resources]
      split
      · rfl
      · rfl
    refine Or.inr (preserves_of_eq ?_)
    rw [session_settle]
    exact congrArg (fun store : ResourceStore => store.getD r default) hresources
  | @begin c i hidle hi haccepts =>
    exact Or.inr (preserves_takeAll (s := L.session.begun i) rfl rfl)
  | quit _ _ => exact Or.inr (preserves_of_eq rfl)
  | @prepare c i n d p s' hwaiting hopen hn hp =>
    have hi : i < L.session.graphs.size := (h.calls.callers c).graph (by rw [hwaiting]; rfl)
    refine Or.inr ⟨hholdings.abides_prepare hi hp r, fun hsettled hstate => ?_⟩
    have hne : g ≠ i := by
      rintro rfl
      refine (hsettled c).1 ?_
      rw [hwaiting, hn]
    have hopened := h.awaited.cleared.opened h.calls hwaiting hopen hn hp
    exact (congrArg Resource.state (hopened.kept hne ho)).trans hstate
  | @report c i k' plan failed jobs hcaller =>
    exact Or.inr (preserves_of_eq (congrArg (fun store : ResourceStore => store.getD r default)
      (Posts.reportFailure L.session i k').resources))
  | enqueue _ => exact Or.inr (preserves_of_eq rfl)
  | @register c i plan jobs id j hcaller =>
    obtain ⟨task, heq⟩ := exists_task_register L.session id j r
    exact Or.inr (preserves_of heq ⟨rfl, fun hstate => hstate⟩ fun _ hstate => hstate)
  | inline _ _ _ _ => exact Or.inr (preserves_of_eq rfl)
  | @finish c i plan hcaller =>
    refine Or.inr (preserves_of_eq ?_)
    rw [enter, session_settle]
    exact congrArg (fun store : ResourceStore => store.getD r default)
      (Posts.finishUpdate L.session i plan).resources
  | @beginClose c i hidle hi hopen =>
    exact Or.inr (preserves_takeAll (s := L.session.shut i) rfl rfl)
  | @finishClose c i hcaller =>
    have hresource := (congrArg (fun store : ResourceStore => store.getD r default)
      (fields_finishClose L.session i).1).trans
        (resource_foldl_invalidate (L.session.allResources i) L.session r)
    refine Or.inr (preserves_of hresource ?_ fun hsettled hstate => ?_)
    · split
      · exact .invalidate _
      · exact .refl _
    · rw [if_neg]
      · exact hstate
      · -- the resource is none of the graph that is closed
        rintro ⟨hr, -⟩
        rcases List.mem_append.1 hr with hr | hr
        · obtain ⟨k', ho'⟩ := mem_graphResources.1 hr
          rw [(hholdings.apart ho ho').1] at hsettled
          exact (hsettled c).2 hcaller
        · obtain ⟨p, -, hp⟩ := List.mem_flatMap.1 hr
          exact hholdings.uncooked ho ⟨p, hp⟩

/-! ## Graphs and their sets -/

/-- Most sections leave a frame; but jobs are submitted, and kernels are prepared. -/
theorem Step.sorts (hstep : Step L L') : L.session.Frame L'.session ∨
    (∃ j, L'.session = L.session.enqueue j) ∨
    ∃ c i n d p s', L.callers c = .waiting i n ∧ (L.session.graph i).closed = false ∧
      (L.session.graph i).generation = n ∧
      prepareKernels i d ((L.session.resizeSets i).graph i).definition.compilable
        { session := L.session.resizeSets i } = (.ok p, s') ∧
      L'.session = p.session.setPending i (p.jobs.map Prod.fst) := by
  cases hstep with
  | around haround => exact Or.inl haround.frame
  | @drop id t _ _ _ _ _ => exact Or.inl (.endTask L.session id)
  | abandon _ _ _ _ _ _ =>
    exact Or.inl (.trans (.modifyResource _ _ fun x => (Resource.Settles.abandon x _).toEases)
      (.endTask _ _))
  | deliver _ _ _ _ _ _ =>
    exact Or.inl (.modifyResource _ _ fun x => (Resource.Settles.finish x _ _ _).toEases)
  | land _ _ _ =>
    rw [session_settle]
    exact Or.inl (.trans (.land ..) (.endTask _ _))
  | @begin c i hidle hi haccepts =>
    have hbegun : L.session.Frame (L.session.begun i) := .modifyGraph _ i fun x =>
      ⟨rfl, Nat.le_succ _, fun h => h, Or.inl, Or.inl rfl⟩
    exact Or.inl (hbegun.trans (.takeAll _ i))
  | quit _ _ => exact Or.inl (.of_eq rfl rfl rfl rfl rfl)
  | prepare hwaiting hopen hn hp =>
    exact Or.inr (Or.inr ⟨_, _, _, _, _, _, hwaiting, hopen, hn, hp, rfl⟩)
  | @report c i k plan failed jobs hcaller => exact Or.inl (.reportFailure L.session i k)
  | @enqueue c i plan j jobs hcaller => exact Or.inr (Or.inl ⟨j, rfl⟩)
  | @register c i plan jobs id j hcaller => exact Or.inl (.register L.session id j)
  | inline _ _ _ _ => exact Or.inl (.of_eq rfl rfl rfl rfl rfl)
  | finish _ =>
    rw [enter, session_settle]
    exact Or.inl (.finishUpdate ..)
  | @beginClose c i hidle hi hopen =>
    have hshut : L.session.Frame (L.session.shut i) := .modifyGraph _ i fun x =>
      ⟨rfl, Nat.le_succ _, fun _ => rfl, fun _ => Or.inr (Nat.lt_succ_self _), Or.inl rfl⟩
    exact Or.inl (hshut.trans (.takeAll _ i))
  | @finishClose c i hcaller =>
    dsimp only [enter]
    exact Or.inl (.finishClose L.session i)

/-- Graphs stay, with their options, and come to later generations. -/
structure Endures (s s' : Session) : Prop where
  size : s.graphs.size ≤ s'.graphs.size
  options : ∀ g < s.graphs.size, (s'.graph g).options = (s.graph g).options
  generation : ∀ g, (s.graph g).generation ≤ (s'.graph g).generation
  opened : ∀ g, (s'.graph g).closed = true →
    (s.graph g).closed = true ∨ (s.graph g).generation < (s'.graph g).generation

theorem Books.endures (h : L.Books) (hstep : Step L L') : Endures L.session L'.session := by
  rcases hstep.sorts with hframe | ⟨j, heq⟩ | ⟨c, i, n, d, p, s', hwaiting, hopen, hn, hp, heq⟩
  · exact ⟨hframe.size, hframe.options, hframe.generation, hframe.opened⟩
  · rw [heq]
    exact ⟨Nat.le_refl _, fun _ _ => rfl, fun _ => Nat.le_refl _, fun _ => Or.inl⟩
  · have hopened := h.awaited.cleared.opened h.calls hwaiting hopen hn hp
    rw [heq]
    refine ⟨hopened.elapses.size, fun g _ => ?_, hopened.elapses.generation, hopened.elapses.opened⟩
    by_cases hg : g = i
    · rw [hg, hopened.graph]
    · rw [hopened.other g hg]

/-- **What is compiled** of a graph it had before. -/
theorem Books.owns (h : L.Books) (hstep : Step L L') (ho : L'.session.Owns g k r)
    (hr : (L'.session.resource r).state = .compiled) : L.session.Owns g k r := by
  rcases hstep.sorts with hframe | ⟨j, heq⟩ | ⟨c, i, n, d, p, s', hwaiting, hopen, hn, hp, heq⟩
  · exact hframe.owns ho
  · rw [heq] at ho
    exact ho
  · have hopened := h.awaited.cleared.opened h.calls hwaiting hopen hn hp
    have hi : i < L.session.graphs.size := (h.calls.callers c).graph (by rw [hwaiting]; rfl)
    rw [heq] at ho hr
    by_cases hg : g = i
    · subst hg
      have hframe : p.session.Frame (p.session.setPending g (p.jobs.map Prod.fst)) :=
        .setPending p.session g _
      exact h.calls.holdings.owns_prepare hi hp (hframe.owns ho) hr
    · rw [Owns, hopened.other g hg] at ho
      exact ho

/-- **A graph keeps its sets** while nobody is about to replace what is outstanding. -/
theorem Books.sets (h : L.Books) (hstep : Step L L') (hsettled : L.Settled g) :
    (L'.session.graph g).sets = (L.session.graph g).sets := by
  cases hstep with
  | around haround => exact (haround.graph g).sets
  | drop _ _ _ _ _ => rfl
  | abandon _ _ _ _ _ _ => rfl
  | deliver _ _ _ _ _ _ => rfl
  | @land id t n plan program result ht hkind hlanding =>
    rw [session_settle]
    exact ((Steady.land L.session t.job n plan program result).graph g).sets
  | @begin c i hidle hi haccepts =>
    have hgraph := (graph_takeAll (L.session.begun i) i g).trans (graph_modifyGraph L.session i _ g)
    refine (congrArg GraphState.sets hgraph).trans ?_
    split
    · rfl
    · rfl
  | quit _ _ => rfl
  | @prepare c i n d p s' hwaiting hopen hn hp =>
    have hopened := h.awaited.cleared.opened h.calls hwaiting hopen hn hp
    refine congrArg GraphState.sets (hopened.other g ?_)
    rintro rfl
    refine (hsettled c).1 ?_
    rw [hwaiting, hn]
  | @report c i k' plan failed jobs hcaller =>
    exact ((Posts.reportFailure L.session i k').graph g).sets
  | enqueue _ => rfl
  | @register c i plan jobs id j hcaller =>
    exact ((Steady.register L.session id j).graph g).sets
  | inline _ _ _ _ => rfl
  | @finish c i plan hcaller =>
    rw [enter, session_settle]
    exact ((Steady.finishUpdate L.session i plan).graph g).sets
  | @beginClose c i hidle hi hopen =>
    have hgraph := (graph_takeAll (L.session.shut i) i g).trans (graph_modifyGraph L.session i _ g)
    refine (congrArg GraphState.sets hgraph).trans ?_
    split
    · rfl
    · rfl
  | @finishClose c i hcaller =>
    have hi : ¬ (i = g ∧ i < L.session.graphs.size) := by
      rintro ⟨rfl, -⟩
      exact (hsettled c).2 hcaller
    dsimp only [enter]
    rw [graph_finishClose, if_neg hi]

end Ledger

end KernelGraph
