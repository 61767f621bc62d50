/-
  What lasts until the next update of a graph.

  Between two updates of a graph anything may happen: workers bring jobs to an end, other graphs are
  updated and closed, platforms are cooked, programs are evicted and definitions are edited.  Still
  a resource in one of the graph's slots goes few ways.

  1. `Resource.Lasting` says of a property of resources that it is kept on all of them: the resource
     may learn its task or lose it, and its compile may be given up or brought to an end.

  2. Sections lead a graph on to later numbers only (`World.Orderly.onward`).

  3. Every section `Keeps` the slots and such a property in them (`World.Orderly.keeps_step`), and
     so do any number of them (`World.Orderly.keeps`), as long as the graph gets no new number, no
     update is about to prepare its kernels and it is not being closed.  Between two actions of a
     run none is (`Run.keeps`).
-/
import KernelGraph.Proofs.Session.Synchronous
import KernelGraph.Proofs.Session.Told

namespace KernelGraph

/-! ## Resources -/

/-- The property stays with a resource until it is begun anew, provided that the resource waits for
    no other generation than `n`. -/
structure Resource.Lasting (n : Nat) (P : Resource → Prop) : Prop where
  awaited : ∀ {x : Resource}, P x → x.state = .compiling → x.generation = n
  setTask : ∀ {x : Resource} (task m : Nat), P x → P (x.setTask task m).2
  takeTask : ∀ {x : Resource}, P x → P x.takeTask.2
  abandon : ∀ {x : Resource} (m : Nat), P x → P (x.abandon m)
  finish : ∀ {x : Resource} {program : Option Program} {result : CompileResult},
    (result.success = true → program.isSome = true) → P x → P (x.finish n program result).2

namespace Session

/-- A job that succeeds brings a program. -/
theorem isSome_of_jobResult {j : Job} {level : FeatureLevel}
    {returned : Except (CallError ProgramError) (Program × Bool)} {program : Option Program}
    {result : CompileResult} (h : jobResult j level returned = some (program, result))
    (hsuccess : result.success = true) : program.isSome = true := by
  unfold jobResult at h
  split at h
  · cases h
  · split at h
    · cases h
    · cases h
      cases hsuccess
  · cases h
    rfl

/-! ## Slots -/

/-- The resource in the slot of a kernel has the property, if there is one. -/
def InSlot (s : Session) (g k : Nat) (P : Resource → Prop) : Prop :=
  ∀ r, s.owned? g k = some r → P (s.resource r)

/-- The sets of a graph are the same ones, and its lock was neither kept nor given back. -/
structure GraphKept (x x' : GraphState) : Prop where
  sets : x'.sets = x.sets
  locked : x'.locked = x.locked

theorem GraphSteady.kept {x x' : GraphState} (h : GraphSteady x x') : GraphKept x x' :=
  ⟨h.sets, h.locked⟩

theorem GraphAround.kept {x x' : GraphState} (h : GraphAround x x') : GraphKept x x' :=
  ⟨h.sets, h.locked⟩

theorem GraphKept.of_eq {x x' : GraphState} (h : x' = x) : GraphKept x x' := by
  rw [h]
  exact ⟨rfl, rfl⟩

/-- The slots of a graph are where they were, the property lasts in them, and the graph's lock is as
    it was. -/
structure Keeps (g : Nat) (P : Resource → Prop) (s s' : Session) : Prop where
  slot : ∀ k, s'.owned? g k = s.owned? g k
  locked : (s'.graph g).locked = (s.graph g).locked
  holds : ∀ {k r}, s.owned? g k = some r → P (s.resource r) → P (s'.resource r)

section
variable {s s' s'' : Session} {g k n : Nat} {P : Resource → Prop}

theorem Keeps.refl (g : Nat) (P : Resource → Prop) (s : Session) : Keeps g P s s :=
  ⟨fun _ => rfl, rfl, fun _ h => h⟩

theorem Keeps.trans (h : Keeps g P s s') (h' : Keeps g P s' s'') : Keeps g P s s'' :=
  ⟨fun k => (h'.slot k).trans (h.slot k), h'.locked.trans h.locked,
    fun hr hP => h'.holds ((h.slot _).trans hr) (h.holds hr hP)⟩

theorem Keeps.inSlot (h : Keeps g P s s') (hP : s.InSlot g k P) : s'.InSlot g k P := by
  intro r hr
  rw [h.slot] at hr
  exact h.holds hr (hP r hr)

/-- **No slot is filled** while no update prepares the kernels of the graph. -/
theorem Frame.keeps (hf : s.Frame s') (hs : s.Holdings)
    (hgraph : GraphKept (s.graph g) (s'.graph g))
    (hP : ∀ {k r}, s.Owns g k r → P (s.resource r) → P (s'.resource r)) : Keeps g P s s' := by
  have hsets := hgraph.sets
  refine ⟨fun k => ?_, hgraph.locked, fun hr => hP (owns_of_owned? hr)⟩
  by_cases hg : g < s.graphs.size
  · refine owned?_eq hs (by rw [hsets]) (hf.options g hg) (fun r ho => ?_) fun r ho => ?_
    · exact Nat.lt_of_lt_of_le (hs.lt ho) hf.resources
    · exact (hf.eased r (hs.lt ho) (hs.uncooked ho)).level
  · have hnil : (s.graph g).sets = [] := by
      rw [Session.graph, Array.getD_eq_getD_getElem?, Array.getElem?_eq_none (Nat.le_of_not_lt hg)]
      rfl
    unfold Session.owned?
    rw [hsets, hnil]
    rfl

theorem Frame.keeps_of_resources (hf : s.Frame s') (hs : s.Holdings)
    (hgraph : GraphKept (s.graph g) (s'.graph g)) (hresources : s'.resources = s.resources) :
    Keeps g P s s' := by
  refine hf.keeps hs hgraph fun _ hr => ?_
  rw [Session.resource, hresources]
  exact hr

/-- A resource changes in a way that keeps the property. -/
theorem keeps_modifyResource {f : Resource → Resource} (hf : ∀ {x}, P x → P (f x)) (i r : Nat)
    (h : P (s.resource r)) : P ((s.modifyResource i f).resource r) := by
  rw [resource_modifyResource]
  split
  · exact hf h
  · exact h

/-- Kernels of another graph are prepared. -/
theorem Renews.keeps {i : Nat} (hr : Renews i s s') (hs : s.Holdings) (hi : g ≠ i) :
    Keeps g P s s' := by
  have hkept : ∀ {k r}, s.Owns g k r → s'.resource r = s.resource r := by
    intro k r ho
    refine (hr.kept r (hs.lt ho)).resolve_right ?_
    rintro ⟨⟨k', ho'⟩, _⟩
    exact hi (hs.apart ho ho').1
  refine ⟨fun k => owned?_eq hs (by rw [hr.other g hi]) (by rw [hr.other g hi]) (fun r ho => ?_)
    fun r ho => ?_, by rw [hr.other g hi], fun hr' h => ?_⟩
  · exact Nat.lt_of_lt_of_le (hs.lt ho) hr.resources
  · rw [hkept ho]
  · rw [hkept (owns_of_owned? hr')]
    exact h

/-- Resources of other graphs and of platforms are invalidated. -/
theorem Frame.keeps_invalidate (hf : s.Frame s') (hs : s.Holdings)
    (hgraph : GraphKept (s.graph g) (s'.graph g)) (rs : List Nat)
    (hresources : s'.resources =
      (rs.foldl (fun s r => s.modifyResource r Resource.invalidate) s).resources)
    (hrs : ∀ {k r}, s.Owns g k r → r ∉ rs) : Keeps g P s s' := by
  refine hf.keeps hs hgraph fun {k r} ho hr => ?_
  have hresource := resource_foldl_invalidate rs s r
  rw [if_neg fun h => hrs ho h.1] at hresource
  rw [Session.resource, hresources, ← Session.resource, hresource]
  exact hr

theorem keeps_resizeSets (hs : s.Holdings) {i : Nat} (hi : g ≠ i) :
    Keeps g P s (s.resizeSets i) := by
  refine (Frame.resizeSets hs i).keeps_invalidate hs ?_ (s.removedResources i) ?_
    fun {k r} ho hmem => ?_
  · exact .of_eq (by rw [graph_resizeSets hs, if_neg fun h => hi h.1.symm])
  · rw [resizeSets_eq hs]
    rfl
  · obtain ⟨set, hset, hr⟩ := List.mem_flatMap.1 hmem
    cases set with
    | none => cases hr
    | some set =>
      obtain ⟨j, hj⟩ := List.mem_iff_getElem?.1 hset
      rw [List.getElem?_drop] at hj
      exact hi (hs.apart ho ⟨set, hj, hr⟩).1

theorem keeps_finishClose (hs : s.Holdings) {i : Nat} (hi : g ≠ i) :
    Keeps g P s (s.finishClose i) := by
  refine (Frame.finishClose s i).keeps_invalidate hs ?_ (s.allResources i)
    (fields_finishClose s i).1 fun {k r} ho hmem => ?_
  · exact .of_eq (by rw [graph_finishClose, if_neg fun h => hi h.1.symm])
  · rcases List.mem_append.1 hmem with hmem | hmem
    · obtain ⟨k', ho'⟩ := mem_graphResources.1 hmem
      exact hi (hs.apart ho ho').1
    · obtain ⟨p, _, hr⟩ := List.mem_flatMap.1 hmem
      exact hs.uncooked ho ⟨p, hr⟩

variable (hP : Resource.Lasting n P)
include hP

/-- **A job that comes back** keeps a lasting property: the resource in the slot waits for no other
    job than one of its graph's current generation. -/
theorem Comes.keeps {j : Job} {returned : Except (CallError ProgramError) (Program × Bool)}
    (hc : Comes s j returned s') (hs : s.Holdings) (hn : (s.graph g).generation = n)
    (howner : ∀ {k} m plan, j.kind = .runtime m plan → s.Owns g k j.resource → j.graph = g)
    (hcooked : ∀ p, j.kind = .cook p → s.IsCooked j.resource) : Keeps g P s s' := by
  have hframe := hc.frame
  refine hframe.keeps hs ((Steady.comes hc).graph g).kept fun {k r} ho hr => ?_
  cases hc with
  | ignored _ hbooks =>
    obtain ⟨_, _, _, rfl⟩ := hbooks
    exact hr
  | abandoned _ _ hbooks =>
    obtain ⟨_, _, _, rfl⟩ := hbooks
    exact keeps_modifyResource (s := s) (hP.abandon j.generation) j.resource r hr
  | @cooked platform program result _ _ hkind _ hbooks =>
    obtain ⟨_, _, _, rfl⟩ := hbooks
    show P ((s.modifyResource j.resource fun x => (x.finish 0 program result).2).resource r)
    rw [resource_modifyResource, if_neg]
    · exact hr
    · rintro ⟨rfl, _⟩
      exact hs.uncooked ho (hcooked platform hkind)
  | @stale m plan program result hawaits hkind hm hbooks =>
    obtain ⟨_, _, _, rfl⟩ := hbooks
    show P ((s.modifyResource j.resource fun x => (x.finish m program result).2).resource r)
    rw [resource_modifyResource, if_neg]
    · exact hr
    · -- the resource would wait for the job of an earlier generation
      rintro ⟨rfl, _⟩
      refine hm ?_
      have hgeneration := hawaits.1.symm.trans (hP.awaited hr hawaits.2)
      rw [Job.generation, hkind] at hgeneration
      rw [howner m plan hkind ho, hn]
      exact hgeneration
  | @current m plan program result t hawaits hkind hm hresult ht hbooks =>
    obtain ⟨hresources, _⟩ := settle_fields t j.graph plan
    obtain ⟨_, _, _, rfl⟩ := hbooks
    obtain ⟨_, _, _, rfl⟩ := ht
    have hsame : ∀ i, ((settle _ j.graph plan).hook j.graph j.kernel result).resource i =
        (s.modifyResource j.resource fun x => (x.finish m program result).2).resource i :=
          fun i => by
      show (settle _ j.graph plan).resources.getD i default = _
      rw [hresources]
      rfl
    refine (hsame r).symm ▸ ?_
    rw [resource_modifyResource]
    split
    · rename_i heq
      rw [howner m plan hkind (heq.1 ▸ ho), hn] at hm
      rw [hm]
      exact hP.finish (isSome_of_jobResult hresult) hr
    · exact hr

end

/-! ## Graphs -/

theorem Steady.setPending (s : Session) (g : Nat) (pending : List Nat) :
    s.Steady (s.setPending g pending) := by
  have hgraph : s.Steady (s.modifyGraph g fun x => { x with pending }) :=
    .modifyGraph s g fun _ => ⟨rfl, rfl, rfl, rfl, rfl, rfl, rfl⟩
  exact hgraph.trans (.of_eq rfl rfl rfl rfl rfl)

/-- A graph has gone on to later numbers. -/
structure Onward (g : Nat) (s s' : Session) : Prop where
  size : s.graphs.size ≤ s'.graphs.size
  generation : (s.graph g).generation ≤ (s'.graph g).generation
  options : g < s.graphs.size → (s'.graph g).options = (s.graph g).options

section
variable {s s' s'' : Session}

theorem Onward.of_graphs (g : Nat) (hgraphs : s'.graphs = s.graphs) : Onward g s s' := by
  have hgraph : s'.graph g = s.graph g := by rw [Session.graph, Session.graph, hgraphs]
  exact ⟨Nat.le_of_eq (by rw [hgraphs]), Nat.le_of_eq (by rw [hgraph]), fun _ => by rw [hgraph]⟩

theorem Onward.refl (g : Nat) (s : Session) : Onward g s s := .of_graphs g rfl

theorem Onward.trans {g : Nat} (h : Onward g s s') (h' : Onward g s' s'') : Onward g s s'' where
  size := Nat.le_trans h.size h'.size
  generation := Nat.le_trans h.generation h'.generation
  options hg := (h'.options (Nat.lt_of_lt_of_le hg h.size)).trans (h.options hg)

theorem Frame.onward (h : s.Frame s') (g : Nat) : Onward g s s' :=
  ⟨h.size, h.generation g, h.options g⟩

theorem Renews.onward {i : Nat} (h : Renews i s s') (g : Nat) : Onward g s s' where
  size := Nat.le_of_eq h.size.symm
  generation := Nat.le_of_eq (h.generation g).symm
  options _ := by
    by_cases hi : g = i
    · rw [hi, h.graph]
    · rw [h.other g hi]

end

end Session

/-! ## Sections -/

namespace World

open Session

variable {w w' : World} {g n : Nat} {P : Resource → Prop}

/-- No caller is about to prepare the kernels of the graph, and none is closing it. -/
structure Settled (w : World) (g : Nat) : Prop where
  phase : ∀ m, w.phase g ≠ .waiting m
  closing : w.closing g = false

theorem Settled.enter (h : w.Settled g) (i : Nat) {φ : Phase} (hφ : ∀ m, φ ≠ .waiting m) :
    (w.enter i φ).Settled g := by
  refine ⟨fun m => ?_, h.closing⟩
  unfold World.enter Function.update
  dsimp only
  split
  · rename_i heq
    subst heq
    exact hφ m
  · exact h.phase m

theorem Settled.of_session (h : w.Settled g) (s' : Session) :
    Settled { w with session := s' } g := ⟨h.phase, h.closing⟩

/-- **A lasting property lasts over every section** while its graph gets no new number. -/
theorem Orderly.keeps_step (ho : w.Orderly) (hP : Resource.Lasting n P) (hstep : Step w w')
    (hn : (w.session.graph g).generation = n) (hn' : (w'.session.graph g).generation = n)
    (hw : w.Settled g) : Keeps g P w.session w'.session ∧ w'.Settled g := by
  have hs := ho.holdings
  -- a graph that gets a number is another one
  have hother : ∀ {i : Nat} {f : GraphState → GraphState}, i < w.session.graphs.size →
      ((w.session.modifyGraph i f).graph g).generation = n →
      (∀ x, (f x).generation = x.generation + 1) → g ≠ i := by
    rintro i f hi hnext hf rfl
    rw [graph_modifyGraph, if_pos ⟨rfl, hi⟩, hf, hn] at hnext
    omega
  cases hstep with
  | around haround =>
    refine ⟨haround.frame.keeps hs (haround.graph g).kept fun howns hr => ?_, hw.of_session _⟩
    rw [haround.kept _ (hs.lt howns) (hs.uncooked howns)]
    exact hr
  | take i =>
    refine ⟨(Frame.takeTask w.session i).keeps hs ((Steady.takeTask w.session i).graph g).kept
      fun {k r} _ hr => ?_, hw.of_session _⟩
    rw [resource_takeTask]
    exact keeps_modifyResource hP.takeTask i r hr
  | @comeBack t ht returned =>
    refine ⟨?_, hw.phase, hw.closing⟩
    exact (completeJob_comes w.session t.job returned).keeps hP hs hn
      (fun {k} m plan hkind howns => ((ho.orders.fits t ht m plan hkind).owner g k howns).1.symm)
      fun p hkind => ho.orders.cooked t ht p hkind
  | @begin i hi hidle haccepts =>
    have hne := hother hi hn' fun _ => rfl
    refine ⟨Frame.keeps_of_resources ?_ hs ?_ rfl, fun m => ?_, hw.closing⟩
    · exact .modifyGraph _ _ fun x => ⟨rfl, Nat.le_succ _, fun h => h, Or.inl, Or.inl rfl⟩
    · dsimp only [World.enter]
      exact .of_eq (by rw [graph_modifyGraph, if_neg fun h => hne h.1.symm])
    · unfold World.enter
      dsimp only
      rw [Function.update_of_ne hne]
      exact hw.phase m
  | @quit i m _ _ => exact ⟨.refl g P _, hw.enter i (by simp)⟩
  | @prepare i m d p s' hwaiting hopen hp =>
    have hne : g ≠ i := fun heq => hw.phase m (heq ▸ hwaiting)
    have hstart := Preparation.resizeSets hs (ho.waits hwaiting).graph
    obtain ⟨hholdings, hrenews, hall⟩ := hstart.prepareKernels (d := d)
    have hsession := (hall p (by rw [hp])).1
    rw [← hsession] at hholdings hrenews
    have hprepared := (keeps_resizeSets hs hne).trans (hrenews.keeps (P := P) hstart.holdings hne)
    have hpending : p.session.Frame (p.session.setPending i (p.jobs.map Prod.fst)) :=
      .setPending p.session i _
    refine ⟨hprepared.trans (hpending.keeps_of_resources hholdings ?_ rfl),
      (hw.of_session _).enter i (by simp)⟩
    exact ((Steady.setPending p.session i _).graph g).kept
  | @stop i m d e s' hwaiting hopen hp =>
    have hne : g ≠ i := fun heq => hw.phase m (heq ▸ hwaiting)
    have hstart := Preparation.resizeSets hs (ho.waits hwaiting).graph
    obtain ⟨hholdings, hrenews, _⟩ := hstart.prepareKernels (d := d)
    rw [hp] at hholdings hrenews
    refine ⟨((keeps_resizeSets hs hne).trans (hrenews.keeps hstart.holdings hne)).trans
      ((Frame.lock s' i).keeps_of_resources hholdings (.of_eq ?_) rfl),
      (hw.of_session _).enter i (by simp)⟩
    show (s'.modifyGraph i _).graph g = s'.graph g
    rw [graph_modifyGraph, if_neg fun h => hne h.1.symm]
  | @report i j plan failed jobs _ =>
    have hrecorded : (w.record plan.generation (w.session.reportFailure i j)).Settled g :=
      ⟨hw.phase, hw.closing⟩
    refine ⟨(Frame.reportFailure w.session i j).keeps_of_resources hs ?_ ?_,
      hrecorded.enter i (by simp)⟩
    · exact .of_eq (graph_reportFailure w.session i j g)
    · obtain ⟨_, _, _, heq⟩ := reportFailure_eq w.session i j
      rw [heq]
  | @enqueue i plan j jobs _ =>
    exact ⟨⟨fun _ => rfl, rfl, fun _ hr => hr⟩, (hw.of_session _).enter i (by simp)⟩
  | @register i id plan j jobs _ =>
    refine ⟨(Frame.register w.session id j).keeps hs ((Steady.register w.session id j).graph g).kept
      fun {k r} _ hr => ?_, (hw.of_session _).enter i (by simp)⟩
    rw [resource_register]
    exact keeps_modifyResource (hP.setTask id j.generation) j.resource r hr
  | @inline i id plan j jobs _ _ => exact ⟨.refl g P _, hw.enter i (by simp)⟩
  | @finish i plan _ =>
    refine ⟨?_, (hw.of_session _).enter i (by simp)⟩
    dsimp only [World.enter]
    exact (Frame.finishUpdate w.session i plan).keeps_of_resources hs
      ((Steady.finishUpdate w.session i plan).graph g).kept
      (finishUpdate_fields w.session i plan).1
  | @beginClose i hi hopen =>
    have hne := hother hi hn' fun _ => rfl
    refine ⟨Frame.keeps_of_resources ?_ hs ?_ rfl, hw.phase, ?_⟩
    · exact .modifyGraph _ _ fun x =>
        ⟨rfl, Nat.le_succ _, fun _ => rfl, fun _ => Or.inr (Nat.lt_succ_self _), Or.inl rfl⟩
    · dsimp only
      exact .of_eq (by rw [graph_modifyGraph, if_neg fun h => hne h.1.symm])
    · dsimp only
      rw [Function.update_of_ne hne]
      exact hw.closing
  | @finishClose i hclosing =>
    have hne : g ≠ i := by
      rintro rfl
      rw [hw.closing] at hclosing
      cases hclosing
    refine ⟨?_, hw.phase, ?_⟩
    · dsimp only
      exact keeps_finishClose hs hne
    · dsimp only
      rw [Function.update_of_ne hne]
      exact hw.closing

/-- Sections lead a graph on to later numbers and leave its options alone. -/
theorem Orderly.onward_step (ho : w.Orderly) (hstep : Step w w') (g : Nat) :
    Onward g w.session w'.session := by
  have hs := ho.holdings
  -- what kernels are prepared in
  have hprepared : ∀ {i m d}, w.phase i = .waiting m →
      Onward g w.session (prepareKernels i d
        ((w.session.resizeSets i).graph i).definition.compilable
          { session := w.session.resizeSets i }).2 := by
    intro i m d hwaiting
    obtain ⟨_, hrenews, _⟩ :=
      (Preparation.resizeSets hs (ho.waits hwaiting).graph).prepareKernels (d := d)
    exact ((Frame.resizeSets hs i).onward g).trans (hrenews.onward g)
  cases hstep with
  | around haround => exact haround.frame.onward g
  | take r => exact (Frame.takeTask w.session r).onward g
  | @comeBack t ht returned =>
    exact (completeJob_comes w.session t.job returned).frame.onward g
  | @begin i hi hidle haccepts =>
    have hframe : w.session.Frame (w.session.modifyGraph i fun x =>
        { x with generation := x.generation + 1 }) :=
      .modifyGraph _ _ fun x => ⟨rfl, Nat.le_succ _, fun h => h, Or.inl, Or.inl rfl⟩
    exact hframe.onward g
  | quit _ _ => exact .refl g _
  | @prepare i m d p s' hwaiting hopen hp =>
    obtain ⟨_, _, hall⟩ :=
      (Preparation.resizeSets hs (ho.waits hwaiting).graph).prepareKernels (d := d)
    have hframe : p.session.Frame (p.session.setPending i (p.jobs.map Prod.fst)) :=
      .setPending p.session i _
    have hsession := (hall p (by rw [hp])).1
    exact Onward.trans (hsession ▸ hprepared hwaiting) (hframe.onward g)
  | @stop i m d e s' hwaiting hopen hp =>
    have hsame := hprepared (d := d) hwaiting
    rw [hp] at hsame
    exact hsame.trans ((Frame.lock s' i).onward g)
  | @report i j plan failed jobs _ => exact (Frame.reportFailure w.session i j).onward g
  | enqueue _ => exact .of_graphs g rfl
  | @register i id plan j jobs _ => exact (Frame.register w.session id j).onward g
  | inline _ _ => exact .refl g _
  | @finish i plan _ =>
    dsimp only [World.enter]
    exact (Frame.finishUpdate w.session i plan).onward g
  | @beginClose i hi hopen =>
    have hframe : w.session.Frame (w.session.modifyGraph i fun x =>
        { x with closed := true, generation := x.generation + 1 }) :=
      .modifyGraph _ _ fun x =>
        ⟨rfl, Nat.le_succ _, fun _ => rfl, fun _ => Or.inr (Nat.lt_succ_self _), Or.inl rfl⟩
    exact hframe.onward g
  | @finishClose i _ =>
    dsimp only
    exact (Frame.finishClose w.session i).onward g

theorem Orderly.onward (ho : w.Orderly) (hsteps : Steps w w') (g : Nat) :
    Onward g w.session w'.session := by
  induction hsteps with
  | refl => exact .refl g _
  | tail hfirst hstep ih => exact ih.trans ((ho.steps hfirst).onward_step hstep g)

/-- **A lasting property lasts** as long as its graph gets no new number. -/
theorem Orderly.keeps (ho : w.Orderly) (hP : Resource.Lasting n P) (hsteps : Steps w w')
    (hn : (w.session.graph g).generation = n) (hn' : (w'.session.graph g).generation = n)
    (hw : w.Settled g) : Keeps g P w.session w'.session ∧ w'.Settled g := by
  induction hsteps with
  | refl => exact ⟨.refl g P _, hw⟩
  | @tail u u' hfirst hstep ih =>
    have hu := ho.steps hfirst
    have hmid : (u.session.graph g).generation = n :=
      Nat.le_antisymm (hn' ▸ (hu.onward_step hstep g).generation)
        (hn ▸ (ho.onward hfirst g).generation)
    obtain ⟨hkeeps, hsettled⟩ := ih hmid
    obtain ⟨hnext, hsettled'⟩ := hu.keeps_step hP hstep hmid hn' hsettled
    exact ⟨hkeeps.trans hnext, hsettled'⟩

end World

/-! ## Runs -/

namespace Session

variable {H : List Started} {s s' : Session} {g n : Nat} {P : Resource → Prop}

/-- The session after any number of actions. -/
inductive Later (s : Session) : Session → Prop
  | refl : Later s s
  | step {s' : Session} (a : Action) (ha : a.Enabled s') :
      Later s s' → Later s (a.apply s')

theorem Later.trans {s'' : Session} (h : s.Later s') (h' : s'.Later s'') : s.Later s'' := by
  induction h' with
  | refl => exact h
  | step a ha _ ih => exact ih.step a ha

theorem Later.run (h : Run H s) (hlater : s.Later s') : ∃ H', Run H' s' := by
  induction hlater with
  | refl => exact ⟨H, h⟩
  | step a ha _ ih =>
    obtain ⟨H', hrun⟩ := ih
    exact ⟨_, hrun.step a ha⟩

theorem Later.leads (h : s.Later s') : Leads (fun _ => .idle) (fun _ => false) s s' := by
  induction h with
  | refl => exact .refl s
  | step a ha _ ih => exact ih.trans (.action a ha)

theorem Run.onward (h : Run H s) (hlater : s.Later s') (g : Nat) : Onward g s s' := by
  obtain ⟨calls, hreachable⟩ := h.reachable
  obtain ⟨calls', hsteps⟩ := hlater.leads calls
  exact hreachable.orderly.onward hsteps g

/-- **Slots and lasting properties last until the next update** of the graph. -/
theorem Run.keeps (h : Run H s) (hlater : s.Later s') (hP : Resource.Lasting n P)
    (hn : (s.graph g).generation = n) (hn' : (s'.graph g).generation = n) : Keeps g P s s' := by
  obtain ⟨calls, hreachable⟩ := h.reachable
  obtain ⟨calls', hsteps⟩ := hlater.leads calls
  have hsettled : World.Settled { session := s, calls } g :=
    ⟨fun _ hwaiting => (by cases hwaiting), rfl⟩
  exact (hreachable.orderly.keeps hP hsteps hn hn' hsettled).1

end Session

end KernelGraph
