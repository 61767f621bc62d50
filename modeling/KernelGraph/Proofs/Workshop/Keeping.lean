/-
  Everybody goes on knowing what they work for.

  1. `Tends`: no job is submitted, no resource is begun anew and no cache is listed.  All sections
     are such but three: the preparations of an update, the submission of a job and the listing of a
     platform.

  2. So what callers and jobs know stays true, whatever section comes next, and holds of all
     workshops that can be reached.
-/
import KernelGraph.Proofs.Workshop.Overhaul
import KernelGraph.Proofs.Pending.Sections

namespace KernelGraph

namespace Session

/-- No job is submitted, no resource begun anew and no cache listed. -/
structure Tends (s s' : Session) : Prop extends Frame s s' where
  work : s'.tasks.map CompileTask.job = s.tasks.map CompileTask.job
  marks : s'.platforms.map CookPlatform.mark = s.platforms.map CookPlatform.mark
  listed : ∀ {g name p}, s'.Lists g name p → s.Lists g name p
  definition : ∀ g, (s'.graph g).definition = (s.graph g).definition

section
variable {s s' s'' : Session} {g : Nat}

namespace Tends

theorem passes (h : s.Tends s') : s.Passes s' := .of_elapses h.elapses h.work h.marks h.listed

theorem trans (h : s.Tends s') (h' : s'.Tends s'') : s.Tends s'' where
  toFrame := h.toFrame.trans h'.toFrame
  work := h'.work.trans h.work
  marks := h'.marks.trans h.marks
  listed hl := h.listed (h'.listed hl)
  definition g := (h'.definition g).trans (h.definition g)

theorem of_eq (hgraphs : s'.graphs = s.graphs) (hresources : s'.resources = s.resources)
    (hplatforms : s'.platforms = s.platforms) (htasks : s'.tasks = s.tasks)
    (hpools : s'.pools = s.pools) : s.Tends s' where
  toFrame := .of_eq hgraphs hresources hplatforms htasks hpools
  work := by rw [htasks]
  marks := by rw [hplatforms]
  listed hl := by
    rw [Session.Lists, Session.graph, hgraphs] at hl
    exact hl
  definition g := by rw [Session.graph, Session.graph, hgraphs]

theorem refl (s : Session) : s.Tends s := .of_eq rfl rfl rfl rfl rfl

/-- Graphs stay what they are, and so do caches and jobs; resources ease. -/
theorem of_steady (h : s.Steady s') (hsize : s'.resources.size = s.resources.size)
    (heased : ∀ r, (s.resource r).Eases (s'.resource r))
    (hjobs : s'.tasks.map CompileTask.job = s.tasks.map CompileTask.job)
    (hmarks : s'.platforms.map CookPlatform.mark = s.platforms.map CookPlatform.mark)
    (hpools : s'.pools = s.pools) : s.Tends s' where
  toFrame := .of_steady h hsize heased hjobs hpools
  work := hjobs
  marks := hmarks
  listed hl := by
    rw [Session.Lists, (h.graph _).cook] at hl
    exact hl
  definition g := (h.graph g).definition

/-- A graph changes as in a frame, and may take caches off its list. -/
theorem modifyGraph (s : Session) (g : Nat) {f : GraphState → GraphState}
    (hf : ∀ x, (f x).options = x.options ∧ x.generation ≤ (f x).generation ∧
      (x.closed = true → (f x).closed = true) ∧
      ((f x).closed = true → x.closed = true ∨ x.generation < (f x).generation) ∧
      ((f x).sets = x.sets ∨ (f x).sets = []))
    (hdefinition : ∀ x, (f x).definition = x.definition)
    (hcook : ∀ x, ∀ e ∈ (f x).cook, e ∈ x.cook) : s.Tends (s.modifyGraph g f) where
  toFrame := .modifyGraph s g hf
  work := rfl
  marks := rfl
  listed hl := by
    rw [Session.Lists, graph_modifyGraph] at hl
    split at hl
    · exact hcook _ _ hl
    · exact hl
  definition i := by
    rw [graph_modifyGraph]
    split
    · exact hdefinition _
    · rfl

theorem modifyResource (s : Session) (r : Nat) {f : Resource → Resource}
    (hf : ∀ x : Resource, x.Eases (f x)) : s.Tends (s.modifyResource r f) :=
  of_steady (.modifyResource s r f) Array.size_modify (eases_modifyResource s r hf) rfl rfl rfl

/-- A cache changes, but is the same cache, and it is told. -/
theorem modifyPlatform (s : Session) (p : Nat) {f : CookPlatform → CookPlatform}
    (hf : ∀ x, (f x).mark = x.mark) {metrics : Metrics} {log : List Log.Record}
    {fatals : List (String × String)} :
    s.Tends { s with platforms := s.platforms.modify p f, metrics, log, fatals } := by
  have hmarks : (s.platforms.modify p f).map CookPlatform.mark =
      s.platforms.map CookPlatform.mark := map_modify_of_eq s.platforms p hf
  refine .of_steady ⟨rfl, rfl, rfl, rfl, fun _ => .refl _, fun q => ?_⟩ rfl (fun _ => .refl _) rfl
    hmarks rfl
  exact platformResources_of_mark (getD_mark_of_map hmarks q)

theorem endTask (s : Session) (id : Nat) : s.Tends (s.endTask id) where
  toFrame := .endTask s id
  work := map_job_modify s.tasks id (f := fun t => { t with done := true }) fun _ => rfl
  marks := rfl
  listed hl := hl
  definition _ := rfl

theorem foldl_takeTask (rs : List Nat) (s : Session) : s.Tends (rs.foldl Session.takeTask s) where
  toFrame := List.foldlRecOn (motive := fun t => s.Frame t) rs _ (.of_eq rfl rfl rfl rfl rfl)
    fun t ht r _ => ht.trans (.takeTask t r)
  work := by
    obtain ⟨_, _, _, heq, hjobs⟩ := foldl_takeTask_eq rs s
    rw [heq]
    exact hjobs
  marks := by
    obtain ⟨_, _, _, heq, _⟩ := foldl_takeTask_eq rs s
    rw [heq]
  listed hl := by
    obtain ⟨_, _, _, heq, _⟩ := foldl_takeTask_eq rs s
    rw [heq] at hl
    exact hl
  definition g := by
    obtain ⟨_, _, _, heq, _⟩ := foldl_takeTask_eq rs s
    rw [heq]
    rfl

theorem foldl_invalidate (rs : List Nat) (s : Session) :
    s.Tends (rs.foldl (fun s r => s.modifyResource r Resource.invalidate) s) :=
  List.foldlRecOn (motive := fun t => s.Tends t) rs _ (.refl s)
    fun t ht r _ => ht.trans (.modifyResource t r fun x => (Resource.Settles.invalidate x).toEases)

theorem register (s : Session) (id : Nat) (j : Job) : s.Tends (s.register id j) where
  toFrame := .register s id j
  work := by
    unfold Session.register
    split
    dsimp only
    split
    · rfl
    · exact map_job_cancelTask _ _
  marks := by
    unfold Session.register
    split
    dsimp only
    split
    · rfl
    · rfl
  listed hl := by
    rw [Session.Lists, ((Steady.register s id j).graph _).cook] at hl
    exact hl
  definition g := ((Steady.register s id j).graph g).definition

theorem releaseProxy (s : Session) (g : Nat) (proxy : Option Nat) :
    s.Tends (s.releaseProxy g proxy) := by
  unfold Session.releaseProxy
  split
  · exact .refl s
  · split
    · exact .of_eq rfl rfl rfl rfl rfl
    · exact .of_eq rfl rfl rfl rfl rfl

theorem present (s : Session) (g : Nat) (plan : Plan) : s.Tends (s.present g plan) := by
  rcases Nat.lt_or_ge (s.graph g).published plan.generation with hlt | hle
  · obtain ⟨metrics, log, heq⟩ := present_of_lt hlt
    have hgraph : s.Tends (s.modifyGraph g fun x =>
        { x with published := plan.generation, proxy := some s.proxies.size }) :=
      .modifyGraph s g (fun x => ⟨rfl, Nat.le_refl _, fun h => h, Or.inl, Or.inl rfl⟩)
        (fun _ => rfl)
        fun _ _ h => h
    rw [heq]
    exact hgraph.trans (.of_eq rfl rfl rfl rfl rfl)
  · rw [present_of_le hle]
    exact .refl s

theorem strike (s : Session) (j : Job) : s.Tends (s.strike j) := by
  have hgraph : s.Tends (s.modifyGraph j.graph fun x =>
      { x with pending := x.pending.filter (· ≠ j.kernel) }) :=
    .modifyGraph s j.graph (fun x => ⟨rfl, Nat.le_refl _, fun h => h, Or.inl, Or.inl rfl⟩)
      (fun _ => rfl) fun _ _ h => h
  exact hgraph.trans (.of_eq rfl rfl rfl rfl rfl)

theorem tellUpdate (s : Session) (j : Job) (program : Option Program) (r : CompileResult)
    (current : Bool) : s.Tends (s.tellUpdate j program r current) := by
  obtain ⟨_, _, _, _, _, heq⟩ := tellUpdate_eq s j program r current
  rw [heq]
  exact .of_eq rfl rfl rfl rfl rfl

theorem tellCook (s : Session) (j : Job) (p : Nat) (r : CompileResult) :
    s.Tends (s.tellCook j p r) := by
  obtain ⟨f, _, _, _, hf, heq⟩ := tellCook_eq s j p r
  rw [heq]
  exact .modifyPlatform s p hf

theorem announceReady (s : Session) (g p : Nat) : s.Tends (s.announceReady g p) := by
  obtain ⟨f, _, hf, heq⟩ := announceReady_eq s g p
  rw [heq]
  exact .modifyPlatform s p hf

theorem reportFailure (s : Session) (g k : Nat) : s.Tends (s.reportFailure g k) := by
  obtain ⟨_, _, _, _, _, heq⟩ := reportFailure_tells s g k
  rw [heq]
  exact .of_eq rfl rfl rfl rfl rfl

theorem of_reads (h : s.Reads s') : s.Tends s' := by
  obtain ⟨_, _, _, rfl⟩ := h
  exact .of_eq rfl rfl rfl rfl rfl

theorem delist (s : Session) (g : Nat) (name : String) : s.Tends (s.delist g name) :=
  .modifyGraph s g (fun _ => ⟨rfl, Nat.le_refl _, fun h => h, Or.inl, Or.inl rfl⟩)
    (fun _ => rfl) fun _ _ he => List.mem_of_mem_filter he

theorem delistAll (s : Session) (g : Nat) : s.Tends (s.delistAll g) :=
  .modifyGraph s g (fun _ => ⟨rfl, Nat.le_refl _, fun h => h, Or.inl, Or.inl rfl⟩)
    (fun _ => rfl) fun _ _ he => by cases he

theorem chore (s : Session) (x : Chore) : s.Tends (x.apply s) := by
  cases x with
  | cancel p r => exact .foldl_takeTask [r] s
  | silence p => exact .modifyPlatform s p (f := fun x => { x with announced := true }) fun _ => rfl
  | discard p r => exact .modifyResource s r fun x => (Resource.Settles.invalidate x).toEases

theorem begun (s : Session) (g : Nat) : s.Tends ((s.begun g).takeAll g) := by
  have hbegun : s.Tends (s.begun g) :=
    .modifyGraph s g (fun _ => ⟨rfl, Nat.le_succ _, fun h => h, Or.inl, Or.inl rfl⟩) (fun _ => rfl)
        fun _ _ h => h
  exact hbegun.trans (.foldl_takeTask _ _)

theorem shut (s : Session) (g : Nat) : s.Tends (s.shut g) :=
  .modifyGraph s g (fun _ =>
    ⟨rfl, Nat.le_succ _, fun _ => rfl, fun _ => Or.inr (Nat.lt_succ_self _), Or.inl rfl⟩)
    (fun _ => rfl) fun _ _ h => h

theorem shutDown (s : Session) (g : Nat) : s.Tends (s.shutDown g) :=
  (shut s g).trans (.foldl_takeTask _ _)

theorem retract (s : Session) (g : Nat) : s.Tends (s.retract g) :=
  .modifyGraph s g (fun _ => ⟨rfl, Nat.le_refl _, fun h => h, Or.inl, Or.inl rfl⟩) (fun _ => rfl)
        fun _ _ h => h

theorem vacate (s : Session) (g : Nat) : s.Tends (s.vacate g) := by
  obtain ⟨platforms, metrics, hmarks, -, heq⟩ := vacate_eq s g
  have hinvalidated := foldl_invalidate (s.allResources g) s
  rw [Session.foldl_invalidate] at hinvalidated
  refine hinvalidated.trans (Tends.trans (.modifyGraph _ g (f := fun x =>
    { x with pending := [], sets := [], cook := [] })
    (fun _ => ⟨rfl, Nat.le_refl _, fun h => h, Or.inl, Or.inr rfl⟩) (fun _ => rfl)
    fun _ _ he => by cases he) ?_)
  rw [heq]
  refine .of_steady ⟨rfl, rfl, rfl, rfl, fun _ => .refl _, fun q => ?_⟩ rfl (fun _ => .refl _) rfl
    hmarks rfl
  exact platformResources_of_mark (getD_mark_of_map hmarks q)

end Tends

/-! ## Submitting and listing -/

theorem JobKnown.enqueue {j j' : Job} (h : s.JobKnown j') : (s.enqueue j).JobKnown j' := by
  unfold JobKnown at h ⊢
  split at h
  · exact JobFits.enqueue h
  · exact h

section
variable (g : Nat) (platform : TargetPlatform) (formats : List FormatBuilds)

/-- A cache that is listed then was listed before, or is the new one. -/
theorem lists_install {i p : Nat} {name : String}
    (h : (s.install g platform formats).1.Lists i name p) :
    s.Lists i name p ∨ i = g ∧ name = platform.name ∧ p = s.platforms.size := by
  rw [Session.Lists, graph_install] at h
  split at h
  · rename_i hi
    rcases List.mem_append.1 h with h | h
    · exact Or.inl (List.mem_of_mem_filter h)
    · cases List.mem_singleton.1 h
      exact Or.inr ⟨hi.1.symm, rfl, rfl⟩
  · exact Or.inl h

theorem isCooked_install {r : Nat} (h : (s.install g platform formats).1.IsCooked r) :
    s.IsCooked r ∨ s.resources.size ≤ r ∧ r < s.resources.size + (s.items g formats).length := by
  obtain ⟨p, hr⟩ := h
  rcases Nat.lt_or_ge p s.platforms.size with hp | hp
  · rw [platformResources_install_of_lt _ _ _ hp] at hr
    exact Or.inl ⟨p, hr⟩
  · have hlt := lt_of_mem_platformResources hr
    rw [size_platforms_install] at hlt
    obtain rfl : p = s.platforms.size := by omega
    rw [platformResources_install, List.mem_range'_1] at hr
    exact Or.inr hr

theorem Frame.install (s : Session) : s.Frame (s.install g platform formats).1 where
  size := by
    obtain ⟨_, _, _, heq⟩ := install_eq s g platform formats
    rw [heq]
    exact Nat.le_of_eq Array.size_modify.symm
  sets i k set hset := by
    rw [graph_install] at hset
    split at hset
    · exact Or.inl hset
    · exact Or.inl hset
  options i _ := by
    rw [graph_install]
    split
    · rfl
    · rfl
  generation i := by
    rw [graph_install]
    split
    · exact Nat.le_refl _
    · exact Nat.le_refl _
  closed i hi := by
    rw [graph_install]
    split
    · exact hi
    · exact hi
  opened i hi := by
    rw [graph_install] at hi
    split at hi
    · exact Or.inl hi
    · exact Or.inl hi
  resources := by
    rw [size_resources_install]
    exact Nat.le_add_right _ _
  eased r hr _ := by
    rw [resource_install_of_lt _ _ _ hr]
    exact .refl _
  cooked r hr := by
    obtain ⟨p, hr⟩ := hr
    exact ⟨p, by rwa [platformResources_install_of_lt _ _ _ (lt_of_mem_platformResources hr)]⟩
  fresh r hr := by
    rw [size_resources_install]
    exact isCooked_install _ _ _ hr
  tasks := by rw [tasks_install]
  jobs id t ht := by
    rw [tasks_install] at ht
    exact Or.inl ⟨t, ht, rfl⟩
  pools p pool hpool id hid := by
    rw [pools_install] at hpool
    exact Or.inl ⟨pool, hpool, hid, fun h => h⟩

theorem Passes.install (s : Session) : s.Passes (s.install g platform formats).1 where
  toElapses := (Frame.install g platform formats s).elapses
  jobs := by rw [tasks_install]
  platforms := by
    rw [size_platforms_install]
    exact Nat.le_succ _
  marks p hp := by rw [platform_install_of_lt _ _ _ hp]
  listed hl := (lists_install _ _ _ hl).imp_right fun h => Nat.le_of_eq h.2.2.symm

/-- The caches are still in order when a platform is listed. -/
theorem Listing.install (h : s.Listing) (hs : s.Holdings) :
    (s.install g platform formats).1.Listing := by
  have hpasses := Passes.install g platform formats s
  have hname := congrArg (fun x => x.platform.name) (platform_install s g platform formats)
  have hfresh : ∀ {p r}, r ∈ s.platformResources p → ¬ s.resources.size ≤ r := fun hr =>
    Nat.not_le.2 (hs.cooked ⟨_, hr⟩)
  refine ⟨fun {i name p} hl => ?_, fun {i name p} hl => ?_, fun {i name i' name' p} hl hl' => ?_,
    fun {p p' r} hr hr' => ?_⟩
  · rw [size_platforms_install]
    rcases lists_install _ _ _ hl with hold | ⟨_, _, rfl⟩
    · exact Nat.lt_succ_of_lt (h.lt hold)
    · exact Nat.lt_succ_self _
  · rcases lists_install _ _ _ hl with hold | ⟨_, rfl, rfl⟩
    · rw [hpasses.name (h.lt hold), h.name hold]
    · exact hname
  · rcases lists_install _ _ _ hl with hold | ⟨hi, _, hp⟩
    · rcases lists_install _ _ _ hl' with hold' | ⟨_, _, hp⟩
      · exact h.alone hold hold'
      · exact absurd (h.lt hold) (by omega)
    · rcases lists_install _ _ _ hl' with hold' | ⟨hi', _, _⟩
      · exact absurd (h.lt hold') (by omega)
      · exact hi.trans hi'.symm
  · -- old entries are old resources, new ones new
    have hcases : ∀ {p}, r ∈ (s.install g platform formats).1.platformResources p →
        p < s.platforms.size ∧ r ∈ s.platformResources p ∨
          p = s.platforms.size ∧ s.resources.size ≤ r := fun {p} hr => by
      rcases Nat.lt_or_ge p s.platforms.size with hp | hp
      · rw [platformResources_install_of_lt _ _ _ hp] at hr
        exact Or.inl ⟨hp, hr⟩
      · have hlt := lt_of_mem_platformResources hr
        rw [size_platforms_install] at hlt
        obtain rfl : p = s.platforms.size := by omega
        rw [platformResources_install, List.mem_range'_1] at hr
        exact Or.inr ⟨rfl, hr.1⟩
    rcases hcases hr with ⟨_, hr⟩ | ⟨rfl, hle⟩
    · rcases hcases hr' with ⟨_, hr'⟩ | ⟨_, hle⟩
      · exact h.apart hr hr'
      · exact absurd hle (hfresh hr)
    · rcases hcases hr' with ⟨_, hr'⟩ | ⟨rfl, _⟩
      · exact absurd hle (hfresh hr')
      · rfl

/-- The new cache belongs to the graph. -/
theorem isOf_install (h : s.Listing) :
    (s.install g platform formats).1.IsOf g s.platforms.size := by
  refine ⟨by rw [size_platforms_install]; exact Nat.lt_succ_self _, fun hl => ?_⟩
  rcases lists_install _ _ _ hl with hold | ⟨hi, _⟩
  · exact absurd (h.lt hold) (Nat.lt_irrefl _)
  · exact hi

/-- The new jobs move entries of the new cache. -/
theorem jobKnown_install (h : s.Listing) {j : Job} (hj : j ∈ (s.install g platform formats).2) :
    j.graph = g ∧ j.kind = .cook s.platforms.size ∧
      (s.install g platform formats).1.JobKnown j := by
  obtain ⟨i, x, hx, hjob⟩ := exists_of_mem_install hj
  obtain ⟨build, _, rfl⟩ := FormatBuilds.job?_eq_some hjob
  refine ⟨rfl, rfl, ?_, isOf_install g platform formats h⟩
  rw [platformResources_install, List.mem_range'_1]
  exact ⟨Nat.le_add_right _ _, Nat.add_lt_add_left (List.getElem?_eq_some_iff.1 hx).1 _⟩

end

end

end Session

namespace Workshop

open Session

section
variable {W W' : Workshop} {d : Duty}

/-! ## Every section -/

theorem callers_enter_self (W : Workshop) (c : Nat) (x : Caller) : (W.enter c x).callers c = x :=
  Function.update_self ..

theorem callers_enter_of_ne (W : Workshop) {c c' : Nat} (h : c' ≠ c) (x : Caller) :
    (W.enter c x).callers c' = W.callers c' :=
  Function.update_of_ne h ..

theorem enter_enter (W : Workshop) (c : Nat) (x y : Caller) :
    (W.enter c x).enter c y = W.enter c y := by
  unfold enter
  rw [Function.update_idem]

theorem enter_self {c : Nat} {x : Caller} (h : W.callers c = x) : W.enter c x = W := by
  unfold enter
  rw [← h, Function.update_eq_self]

/-- Nobody goes on in these sections. -/
theorem Fitting.tends (h : W.Fitting) (hcallers : W'.callers = W.callers)
    (hs : W.session.Tends W'.session) : W'.Fitting :=
  h.passes hcallers hs.passes (h.holdings.frame hs.toFrame) (h.listing.of_marks hs.marks hs.listed)

theorem callers_settle (W : Workshop) (g : Nat) (plan : Plan) :
    (W.settle g plan).callers = W.callers := by
  unfold settle
  split
  · rfl
  · rfl

theorem tends_settle (W : Workshop) (g : Nat) (plan : Plan) :
    W.session.Tends (W.settle g plan).session := by
  unfold settle
  split
  · exact .present W.session g plan
  · exact .refl _

theorem callers_strike (W : Workshop) (j : Job) (n : Nat) (plan : Plan) :
    (W.strike j n plan).callers = W.callers := by
  unfold strike
  split
  · exact callers_settle _ _ _
  · rfl

theorem tends_strike (W : Workshop) (j : Job) (n : Nat) (plan : Plan) :
    W.session.Tends (W.strike j n plan).session := by
  unfold strike
  split
  · exact (Tends.strike W.session j).trans
      (tends_settle { W with session := W.session.strike j } _ _)
  · exact .refl _

theorem callers_finish (W : Workshop) (g : Nat) (plan : Plan) :
    (W.finish g plan).callers = W.callers := by
  unfold finish
  split
  · rfl
  · rfl

theorem tends_finish (W : Workshop) (g : Nat) (plan : Plan) :
    W.session.Tends (W.finish g plan).session := by
  unfold finish
  split
  · exact .present W.session g plan
  · exact .refl _

theorem Aside.lists {s' : Session} (h : W.Aside s') {g p : Nat} {name : String} :
    s'.Lists g name p ↔ W.session.Lists g name p := by
  rw [Session.Lists, Session.Lists, h.listed]

theorem Aside.map_job {s' : Session} (h : W.Aside s') :
    s'.tasks.map CompileTask.job = W.session.tasks.map CompileTask.job := by
  have hmarks := congrArg (fun a => a.map Prod.fst) h.marks
  simp only [Array.map_map] at hmarks
  exact hmarks

/-- A graph is added. -/
theorem Aside.addGraph (W : Workshop) (definition : Graph) (options : GraphOptions)
    (hidle : ∀ c, W.callers c = .idle) : W.Aside (W.session.addGraph definition options) where
  toAround := .addGraph W.session definition options
  store := rfl
  caches := rfl
  listed g := by
    unfold Session.addGraph Session.graph
    rw [Array.getD_eq_getD_getElem?, Array.getD_eq_getD_getElem?, Array.getElem?_push]
    split
    · rename_i hg
      rw [hg, Array.getElem?_size]
      rfl
    · rfl
  published := rfl
  queued := rfl
  told := rfl
  marks := rfl
  edited c g hc := by
    rw [hidle c] at hc
    cases hc

/-- A caller that has less to do knows as much. -/
theorem Caller.Fits.submitting {s : Session} {g : Nat} {errand : Errand} {failed failed' : List Nat}
    {jobs jobs' : List Job} {untold : Option (Nat × Job)}
    (h : (Caller.submitting g errand failed jobs untold).Fits s) (hjobs : ∀ j ∈ jobs', j ∈ jobs) :
    (Caller.submitting g errand failed' jobs' none).Fits s where
  graph hx := h.graph hx
  jobs j hj := h.jobs j (hjobs j hj)
  untold hx := by cases hx
  chores y hy := by cases hy
  cook hx := by
    cases hx
    exact h.cook rfl
  plan hx := by
    cases hx
    exact h.plan rfl
  closing hx := hx.elim

/-- A caller that drops caches and has nothing else to do. -/
theorem Caller.Fits.clearing {s : Session} {g : Nat} {next : Option TargetPlatform}
    {chores : List Chore} (hg : g < s.graphs.size) (h : ∀ x ∈ chores, s.ChoreFits x) :
    (Caller.clearing g next chores).Fits s where
  graph hx := by
    cases hx
    exact hg
  jobs j hj := by cases hj
  untold hx := by cases hx
  chores := h
  cook hx := by cases hx
  plan hx := by cases hx
  closing hx := hx.elim

/-- A job is submitted. -/
theorem Caller.Fits.enqueue {s : Session} {x : Caller} {j : Job} (h : x.Fits s) :
    x.Fits (s.enqueue j) where
  graph hx := h.graph hx
  jobs j' hj' := (h.jobs j' hj').enqueue
  untold hx := by
    obtain ⟨t, ht, hjob⟩ := h.untold hx
    exact ⟨t, task_enqueue_of_get ht, hjob⟩
  chores y hy := ⟨(h.chores y hy).lt, (h.chores y hy).delisted, (h.chores y hy).entry⟩
  cook hx := h.cook hx
  plan hx := h.plan hx
  closing hx := h.closing hx

theorem Fitting.enqueue (h : W.Fitting) {j : Job} (hj : W.session.JobKnown j) :
    Fitting { W with session := W.session.enqueue j } where
  holdings := h.holdings.of_eq rfl rfl rfl
  listing := ⟨h.listing.lt, h.listing.name, h.listing.alone, h.listing.apart⟩
  tasks ht := by
    rcases task_enqueue ht with ht | ⟨-, rfl⟩
    · exact (h.tasks ht).enqueue
    · exact hj.enqueue
  callers c := (h.callers c).enqueue

/-- What there is to do about a cache that was taken off its list. -/
theorem choreFits_of_delisted {s s' : Session} (hs : s.Tends s') {p : Nat}
    (hp : p < s.platforms.size) (hdelisted : ∀ {g name}, ¬ s'.Lists g name p) :
    ∀ x ∈ s.chores p, s'.ChoreFits x := by
  intro x hx
  have hentries := hs.passes.entries hp
  have hlt := Nat.lt_of_lt_of_le hp hs.passes.platforms
  rw [chores, List.mem_append, List.mem_cons, List.mem_map, List.mem_map] at hx
  rcases hx with ⟨r, hr, rfl⟩ | rfl | ⟨r, hr, rfl⟩
  · refine ⟨hlt, hdelisted, fun r' hr' => ?_⟩
    cases hr'
    exact hentries.symm ▸ hr
  · exact ⟨hlt, hdelisted, fun r' hr' => by cases hr'⟩
  · refine ⟨hlt, hdelisted, fun r' hr' => ?_⟩
    cases hr'
    exact hentries.symm ▸ hr

/-- A cache that was listed under the name is listed by nobody any more. -/
theorem choreFits_delist (h : W.session.Listing) {g : Nat} {name : String} :
    ∀ x ∈ ((W.session.graph g).cook.lookup name).toList.flatMap W.session.chores,
      (W.session.delist g name).ChoreFits x := by
  intro x hx
  obtain ⟨p, hp, hx⟩ := List.mem_flatMap.1 hx
  have hlists : W.session.Lists g name p := lists_of_lookup (by simpa using hp)
  have hg : g < W.session.graphs.size := hlists.lt_size
  refine choreFits_of_delisted (.delist W.session g name) (h.lt hlists)
    (fun {i name'} hl => ?_) x hx
  have hold := (Tends.delist W.session g name).listed hl
  obtain rfl := h.alone hlists hold
  obtain rfl := (h.name hlists).symm.trans (h.name hold)
  rw [Session.Lists, delist, graph_modifyGraph, if_pos ⟨rfl, hg⟩] at hl
  simpa using (List.mem_filter.1 hl).2

theorem choreFits_delistAll (h : W.session.Listing) {g : Nat} :
    ∀ x ∈ ((W.session.graph g).cook.map Prod.snd).flatMap W.session.chores,
      (W.session.delistAll g).ChoreFits x := by
  intro x hx
  obtain ⟨p, hp, hx⟩ := List.mem_flatMap.1 hx
  obtain ⟨⟨name, _⟩, hlists, rfl⟩ := List.mem_map.1 hp
  have hg : g < W.session.graphs.size := Session.Lists.lt_size hlists
  refine choreFits_of_delisted (.delistAll W.session g) (h.lt hlists) (fun {i name'} hl => ?_) x hx
  obtain rfl := h.alone hlists ((Tends.delistAll W.session g).listed hl)
  rw [Session.Lists, delistAll, graph_modifyGraph, if_pos ⟨rfl, hg⟩] at hl
  cases hl

/-- **Every section** leaves callers and jobs knowing what they work for. -/
theorem Fitting.step (h : W.Fitting) (hstep : Step d W W') : W'.Fitting := by
  cases hstep with
  | aside haside =>
    refine h.passes rfl ?_ (h.holdings.frame haside.toAround.frame) ?_
    · exact .of_elapses haside.toAround.frame.elapses haside.map_job (by rw [haside.caches])
        haside.lists.1
    · exact h.listing.of_marks (by rw [haside.caches]) haside.lists.1
  | collect => exact h.tends rfl (.of_eq rfl rfl rfl rfl rfl)
  | @turn _ c x hturn =>
    have hfits := h.callers c
    generalize W.callers c = y at hturn hfits
    cases hturn with
    | quit _ _ => exact h.enter c (Caller.fits_idle _)
    | inline _ => exact h.enter c (hfits.submitting fun _ h => h)
    | cleared => exact h.enter c (Caller.fits_idle _)
    | start =>
      exact h.enter c (.of_graph (fun hx => hfits.graph hx) rfl rfl rfl
        (fun _ _ _ _ _ h => by cases h) fun h => h.elim)
    | refuse _ _ => exact h.enter c (Caller.fits_idle _)
  | execute _ => exact h.tends rfl (.of_eq rfl rfl rfl rfl rfl)
  | @handOver _ p _ =>
    exact h.tends rfl (.releaseProxy W.session (W.session.proxies.getD p default).graph (some p))
  | drop _ _ _ => exact h.tends rfl (.endTask ..)
  | abandon _ _ _ _ =>
    exact h.tends rfl (Tends.trans (.modifyResource _ _ fun x =>
      (Resource.Settles.abandon x _).toEases) (.endTask ..))
  | deliver _ _ _ _ =>
    exact h.tends rfl (Tends.trans (.modifyResource _ _ fun x =>
      (Resource.Settles.finish x _ _ _).toEases) (.endTask ..))
  | @strike _ id t n plan program r _ _ _ =>
    exact h.tends (callers_strike W t.job n plan) (tends_strike W t.job n plan)
  | tellUpdate _ _ _ => exact h.tends rfl (.tellUpdate ..)
  | tellCook _ _ _ => exact h.tends rfl (.tellCook ..)
  | @begin _ c g hidle hg haccepts =>
    have hbegun := Tends.begun W.session g
    refine Fitting.enter (W := { W with session := (W.session.begun g).takeAll g })
      (h.tends rfl hbegun) c (.of_graph (fun hx => ?_) rfl rfl rfl (fun _ _ _ _ _ h => by cases h)
        fun h => h.elim)
    cases hx
    exact Nat.lt_of_lt_of_le hg hbegun.size
  | @prepare _ c g n d p s' hwaiting _ hopen hn hp =>
    have hg : g < W.session.graphs.size := (h.callers c).graph (by rw [hwaiting]; rfl)
    obtain ⟨hoverhaul, hplan, hjobs⟩ := jobFits_preparedJobs h.holdings hg hopen hp
    refine Fitting.enter (W := { W with session := p.session.setPending g (p.jobs.map Prod.fst) })
      (h.passes rfl hoverhaul.passes hoverhaul.holdings (hoverhaul.listing h.listing)) c ?_
    refine ⟨fun hx => ?_, fun j hj => ?_, fun hx => (by cases hx), fun y hy => (by cases hy),
      fun hx => (by cases hx), fun hx => ?_, fun hx => hx.elim⟩
    · cases hx
      exact Nat.lt_of_lt_of_le hg hoverhaul.passes.size
    · obtain ⟨_, hkind, hfits⟩ := hjobs j hj
      rw [JobKnown, hkind]
      exact hfits
    · cases hx
      obtain ⟨sets, pending, _, hgraph⟩ := hoverhaul.graph
      dsimp only
      rw [hplan, hgraph]
      refine ⟨Nat.le_refl _, fun hclosed => ?_⟩
      rw [hopen] at hclosed
      cases hclosed
  | @stop _ c g n d e s' hwaiting _ _ _ hp =>
    have hg : g < W.session.graphs.size := (h.callers c).graph (by rw [hwaiting]; rfl)
    have hoverhaul := overhauls_stopped h.holdings hg hp
    exact Fitting.enter (W := { W with session := s'.lock g })
      (h.passes rfl hoverhaul.passes hoverhaul.holdings (hoverhaul.listing h.listing)) c
      (Caller.fits_idle _)
  | @report _ c g k plan failed jobs hcaller =>
    have hnext : Fitting { W with session := W.session.reportFailure g k } :=
      h.tends rfl (.reportFailure ..)
    have hfits := hnext.callers c
    rw [hcaller] at hfits
    exact hnext.enter c (hfits.submitting fun _ h => h)
  | @enqueue _ c g errand j jobs hcaller =>
    have hfits := h.callers c
    rw [hcaller] at hfits
    have hnext := h.enqueue (hfits.jobs j (List.mem_cons_self ..))
    have hleft : (Caller.submitting g errand [] jobs none).Fits W.session :=
      hfits.submitting fun _ hj => List.mem_cons_of_mem _ hj
    have hrest := hleft.enqueue (j := j)
    refine hnext.enter c ⟨hrest.graph, hrest.jobs, fun hx => ?_, hrest.chores, fun hx => ?_,
      fun hx => ?_, fun hx => hx.elim⟩
    · cases hx
      exact ⟨_, task_enqueue_self, rfl⟩
    · cases hx
      exact hrest.cook rfl
    · cases hx
      exact hrest.plan rfl
  | @register _ c g errand jobs id j hcaller =>
    have hnext : Fitting { W with session := W.session.register id j } :=
      h.tends rfl (.register ..)
    have hfits := hnext.callers c
    rw [hcaller] at hfits
    exact hnext.enter c (hfits.submitting fun _ h => h)
  | @finishUpdate _ c g plan _ _ =>
    exact Fitting.enter (h.tends (callers_finish W g plan) (tends_finish W g plan)) c
      (Caller.fits_idle _)
  | @delist _ c g name next _ hg _ _ =>
    have hdelist := Tends.delist W.session g name
    exact Fitting.enter (W := { W with session := W.session.delist g name }) (h.tends rfl hdelist) c
      (.clearing (Nat.lt_of_lt_of_le hg hdelist.size) (choreFits_delist h.listing))
  | @delistAll _ c g _ hg _ =>
    have hdelist := Tends.delistAll W.session g
    exact Fitting.enter (W := { W with session := W.session.delistAll g }) (h.tends rfl hdelist) c
      (.clearing (Nat.lt_of_lt_of_le hg hdelist.size) (choreFits_delistAll h.listing))
  | @chore _ c g next x chores hcaller =>
    have hnext : Fitting { W with session := x.apply W.session } := h.tends rfl (.chore ..)
    have hfits := hnext.callers c
    rw [hcaller] at hfits
    exact hnext.enter c (.clearing (hfits.graph rfl) fun y hy =>
      hfits.chores y (List.mem_cons_of_mem _ hy))
  | @build _ c g platform builds format hcaller hopen hformat =>
    have hnext : Fitting { W with
        session := (buildFormats g platform.name [format] W.session).2 } :=
      h.tends rfl (.of_reads (.buildFormats [format] W.session))
    have hfits := hnext.callers c
    rw [hcaller] at hfits
    refine hnext.enter c ?_
    unfold Caller.built
    split
    · exact .of_graph (fun hx => hfits.graph hx) rfl rfl rfl (fun _ _ _ _ _ h => by cases h)
        fun h => h.elim
    · exact Caller.fits_idle _
  | @install _ c g platform builds hcaller hopen hbuilds =>
    have hg : g < W.session.graphs.size := (h.callers c).graph (by rw [hcaller]; rfl)
    have hpasses := Passes.install g platform builds W.session
    refine Fitting.enter (W := { W with session := (W.session.install g platform builds).1 })
      (h.passes rfl hpasses (h.holdings.frame (.install g platform builds W.session))
        (.install g platform builds h.listing h.holdings)) c ?_
    refine ⟨fun hx => ?_, fun j hj => (jobKnown_install g platform builds h.listing hj).2.2,
      fun hx => (by cases hx), fun y hy => (by cases hy), fun hx => ?_, fun hx => (by cases hx),
      fun hx => hx.elim⟩
    · cases hx
      exact Nat.lt_of_lt_of_le hg hpasses.size
    · cases hx
      exact isOf_install g platform builds h.listing
  | @finishCook _ c g platform _ =>
    exact Fitting.enter (W := { W with session := W.session.announceReady g platform })
      (h.tends rfl (.announceReady ..)) c (Caller.fits_idle _)
  | @beginClose _ c g _ hg _ _ =>
    have hshut := Tends.shutDown W.session g
    refine Fitting.enter (W := { W with session := W.session.shutDown g }) (h.tends rfl hshut) c
      (.of_graph (fun hx => ?_) rfl rfl rfl (fun _ _ _ _ _ h => by cases h) fun hx => ?_)
    · cases hx
      exact Nat.lt_of_lt_of_le hg hshut.size
    · cases hx
      rw [graph_shutDown, if_pos ⟨rfl, hg⟩]
  | @vacate _ c g hcaller =>
    have hnext : Fitting { W with session := W.session.vacate g } := h.tends rfl (.vacate ..)
    have hfits := hnext.callers c
    rw [hcaller] at hfits
    exact hnext.enter c (.of_graph (fun hx => hfits.graph hx) rfl rfl rfl
      (fun _ _ _ _ _ h => by cases h) fun hx => hfits.closing hx)
  | @retract _ c g _ =>
    exact Fitting.enter (W := { W with
      session := W.session.retract g
      outgoing := W.outgoing ++ (W.session.graph g).proxy.toList })
      (h.tends rfl (.retract W.session g)) c (Caller.fits_idle _)

theorem fitting_start (files : FileStore) (scripts : List Script) (limit : Int) (honest : Bool) :
    (start files scripts limit honest).Fitting where
  holdings := (World.orderly_start files scripts limit).holdings
  listing := ⟨fun hl => (by cases hl), fun hl => (by cases hl), fun hl => (by cases hl),
    fun hr => (by cases hr)⟩
  tasks ht := by cases ht
  callers c := Caller.fits_idle _

/-- Whatever holds at the start, and is kept by every section while callers and jobs know what they
    work for, holds of all workshops. -/
theorem Reachable.induct {motive : Workshop → Prop} (h : W.Reachable)
    (hstart : ∀ files scripts limit honest, motive (start files scripts limit honest))
    (hstep : ∀ {d W W'}, W.Fitting → motive W → Step d W W' → motive W') :
    W.Fitting ∧ motive W := by
  obtain ⟨files, scripts, limit, honest, hsteps⟩ := h
  induction hsteps with
  | refl => exact ⟨fitting_start files scripts limit honest, hstart files scripts limit honest⟩
  | tail _ hsection ih =>
    obtain ⟨_, _, hsection⟩ := hsection
    exact ⟨ih.1.step hsection, hstep ih.1 ih.2 hsection⟩

/-- **Callers and jobs know what they work for** in all workshops. -/
theorem Reachable.fitting (h : W.Reachable) : W.Fitting :=
  (h.induct (motive := fun _ => True) (fun _ _ _ _ => trivial) fun _ _ _ => trivial).1

theorem Reachable.step (h : W.Reachable) (hstep : Step d W W') : W'.Reachable := by
  obtain ⟨files, scripts, limit, honest, hsteps⟩ := h
  exact ⟨files, scripts, limit, honest, hsteps.tail ⟨d, trivial, hstep⟩⟩

end

end Workshop

end KernelGraph
