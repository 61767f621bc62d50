/-
  Every run is a row of sections.

  Each operation of a caller that does one thing after the other, and waits for the workers where it
  has to, is made of the sections that `Workshop.Step` names, with those of the workers in between.
  At its end nothing is left to do.
-/
import KernelGraph.Proofs.Workshop.Readiness
import KernelGraph.Proofs.Workshop.Solo

namespace KernelGraph

namespace Session

section
variable {s : Session} {g : Nat}

/-! ## Platforms that are not listed -/

theorem filter_of_unlisted {name : String} (h : (s.graph g).cook.lookup name = none) :
    (s.graph g).cook.filter (fun e => e.1 ≠ name) = (s.graph g).cook :=
  List.filter_eq_self.2 fun e he => decide_eq_true fun hname =>
    lookup_eq_none_iff_lists.1 h e.2 (hname ▸ he)

theorem delist_of_unlisted {name : String} (h : (s.graph g).cook.lookup name = none) :
    s.delist g name = s := by
  refine modifyGraph_eq_self ?_
  rw [filter_of_unlisted h]

/-- Dropping a cache leaves the graphs and their lists as they are. -/
theorem Steady.chore (s : Session) (x : Chore) : s.Steady (x.apply s) := by
  cases x with
  | cancel _ r => exact .takeTask s r
  | silence p => exact ⟨rfl, rfl, rfl, rfl, fun _ => .refl _, platformResources_silence s p⟩
  | discard _ r => exact .modifyResource s r _

theorem Steady.dropPlatform (s : Session) (platform : Nat) :
    s.Steady (s.dropPlatform platform) := by
  have hchores : ∀ (chores : List Chore) (s : Session), s.Steady (chores.foldl Chore.apply s) :=
    fun chores s => List.foldlRecOn (motive := fun t : Session => s.Steady t) chores _ (.refl s)
      fun t ht y _ => ht.trans (.chore t y)
  rw [dropPlatform_eq]
  exact ((hchores _ s).trans (.drain _)).trans (hchores _ _)

theorem lookup_clearPlatform (s : Session) (g : Nat) (name : String) :
    ((s.clearPlatform g name).graph g).cook.lookup name = none := by
  rw [clearPlatform_eq]
  split
  · assumption
  · rw [((Steady.dropPlatform _ _).graph g).cook]
    exact lookup_delist s g name

/-- A graph whose platform is dropped keeps all but its list of platforms. -/
theorem graph_delist (s : Session) (g : Nat) (name : String) : ∃ cook,
    (s.delist g name).graph g = { s.graph g with cook } := by
  rw [delist, graph_modifyGraph]
  split
  · exact ⟨_, rfl⟩
  · exact ⟨_, rfl⟩

theorem closed_clearPlatform (s : Session) (g : Nat) (name : String) :
    ((s.clearPlatform g name).graph g).closed = (s.graph g).closed := by
  rw [clearPlatform_eq]
  split
  · rfl
  · obtain ⟨_, hgraph⟩ := graph_delist s g name
    rw [((Steady.dropPlatform _ _).graph g).closed, hgraph]

theorem locked_clearPlatform (s : Session) (g : Nat) (name : String) :
    ((s.clearPlatform g name).graph g).locked = (s.graph g).locked := by
  rw [clearPlatform_eq]
  split
  · rfl
  · obtain ⟨_, hgraph⟩ := graph_delist s g name
    rw [((Steady.dropPlatform _ _).graph g).locked, hgraph]

/-- A platform that is not listed yet is listed behind the others. -/
theorem install_of_unlisted {platform : TargetPlatform} {formats : List FormatBuilds}
    (h : (s.graph g).cook.lookup platform.name = none) {made : Session} {jobs : List Job}
    (hmade : formats.foldl (fun state f =>
      (s.graph g).definition.compilable.foldl (fun state (k, kernel, source) =>
        makeEntry g s.platforms.size f state k kernel source) state)
          ({ s with platforms := s.platforms.push { platform } }, []) = (made, jobs)) :
    s.install g platform formats = (made.modifyGraph g fun x =>
        { x with cook := x.cook ++ [(platform.name, s.platforms.size)] },
      jobs.filter Job.isDefault ++ jobs.filter fun j => !j.isDefault) := by
  have hgraph : made.graph g = s.graph g := by
    obtain ⟨_, _, _, heq⟩ := foldl_formats g s.platforms.size formats
      (s.graph g).definition.compilable ({ s with platforms := s.platforms.push { platform } }, [])
    rw [heq] at hmade
    cases hmade
    rfl
  have hfilter : (made.graph g).cook.filter (fun e => e.1 ≠ platform.name) =
      (made.graph g).cook := by
    rw [hgraph]
    exact filter_of_unlisted h
  unfold install
  extract_lets id opened kernels
  split
  rename_i heq
  cases hmade.symm.trans heq
  refine Prod.ext (modifyGraph_congr ?_) rfl
  rw [hfilter]

end

end Session

namespace Workshop

open Session

/-! ## Updates -/

section
variable {s : Session} {g : Nat}

theorem brings_report (plan : Plan) (jobs : List Job) (failed : List Nat) (s : Session) :
    Brings s (.submitting g (.update plan) failed jobs none)
      (failed.foldl (fun s k => s.reportFailure g k) s)
      (.submitting g (.update plan) [] jobs none) := by
  induction failed generalizing s with
  | nil => exact Leads.refl s
  | cons k failed ih =>
    have hreported : Brings s (.submitting g (.update plan) (k :: failed) jobs none)
        (s.reportFailure g k) (.submitting g (.update plan) failed jobs none) :=
      .of_step fun handed => ⟨_, .report (W := solo s _ handed) (callers_solo ..)⟩
    exact hreported.trans (ih (s.reportFailure g k))

/-- A job is submitted. -/
theorem brings_submit (errand : Errand) {j : Job} (hj : j.graph = g) (jobs : List Job)
    (s : Session) : Brings s (.submitting g errand [] (j :: jobs) none) (s.submit j)
      (.submitting g errand [] jobs none) := by
  subst hj
  have hqueued : Brings s (.submitting j.graph errand [] (j :: jobs) none) (s.enqueue j)
      (.submitting j.graph errand [] jobs (some (s.tasks.size, j))) :=
    .of_step fun handed => ⟨_, .enqueue (W := solo s _ handed) (callers_solo ..)⟩
  rw [submit_eq]
  split
  · rename_i hclosed
    exact (hqueued.trans (.of_turn (.inline hclosed))).trans (Leads.drain _)
  · exact hqueued.trans (.of_step fun handed =>
      ⟨_, .register (W := solo (s.enqueue j) _ handed) (callers_solo ..)⟩)

/-- Jobs are submitted one after the other, and may be waited for. -/
theorem brings_submitAll (errand : Errand) {f : Session → Job → Session}
    (hf : ∀ s j, f s j = s.submit j ∨ f s j = (s.submit j).drain) (jobs rest : List Job)
    (hjobs : ∀ j ∈ jobs, j.graph = g) (s : Session) :
    Brings s (.submitting g errand [] (jobs ++ rest) none) (jobs.foldl f s)
      (.submitting g errand [] rest none) := by
  induction jobs generalizing s with
  | nil => exact Leads.refl s
  | cons j jobs ih =>
    have hsubmitted := brings_submit errand (hjobs j (List.mem_cons_self ..)) (jobs ++ rest) s
    have hstep : Brings s (.submitting g errand [] (j :: (jobs ++ rest)) none) (f s j)
        (.submitting g errand [] (jobs ++ rest) none) := by
      rcases hf s j with h | h
      · rw [h]
        exact hsubmitted
      · rw [h]
        exact hsubmitted.trans (Leads.drain _)
    exact hstep.trans (ih (fun j' hj' => hjobs j' (List.mem_cons_of_mem j hj')) _)

/-- The last section of an update publishes its plan, if nothing is outstanding. -/
theorem brings_finishUpdate (plan : Plan) (s : Session) (hfree : (s.graph g).locked = false) :
    Brings s (.submitting g (.update plan) [] [] none) (s.finishUpdate g plan) .idle := by
  intro handed hreach
  have hfinish := Step.finishUpdate (W := solo s _ handed)
    (callers_solo s (.submitting g (.update plan) [] [] none) handed) hfree
  obtain ⟨handed', hsteps⟩ := steps_finish (g := g) hreach.stocked rfl
    (Function.update (fun _ => .idle) 0 .idle)
  unfold enter at hfinish
  rw [callers_finish, update_callers_solo] at hfinish
  exact ⟨handed', .head ⟨_, trivial, hfinish⟩ hsteps⟩

/-- What an update does after it has prepared its kernels is made of sections. -/
theorem brings_prepared {d : Dialect} {p : Prepared} {s' : Session}
    (hp : prepareKernels g d ((s.resizeSets g).graph g).definition.compilable
      { session := s.resizeSets g } = (.ok p, s')) (sync : Bool)
    (hfree : (p.session.graph g).locked = false) :
    Brings (p.session.setPending g (p.jobs.map Prod.fst))
      (.submitting g (.update (preparedPlan g p)) p.failed
        (preparedJobs g p (preparedPlan g p)) none)
      (s.startGeneration g d sync).2 .idle := by
  have hjobs : ∀ j ∈ preparedJobs g p (preparedPlan g p), j.graph = g := by
    intro j hj
    obtain ⟨_, _, rfl⟩ := List.mem_map.1 hj
    rfl
  unfold Session.startGeneration
  extract_lets resized
  split
  · rename_i heq
    cases hp.symm.trans heq
  · rename_i heq
    cases hp.symm.trans heq
    extract_lets x plan planNotes pending reported submitted drained y
    have hpending : Brings (p.session.setPending g (p.jobs.map Prod.fst)) _ pending
        (.submitting g (.update plan) p.failed (preparedJobs g p plan) none) :=
      Leads.of_eq rfl rfl rfl rfl rfl rfl rfl rfl
    have hreported := hpending.trans (brings_report plan _ p.failed pending)
    have hsubmitted : Brings reported (.submitting g (.update plan) [] (preparedJobs g p plan) none)
        submitted (.submitting g (.update plan) [] [] none) := by
      have hall := brings_submitAll (.update plan) (f := fun s j =>
        let s := s.submit j
        if j.isDefault && !sync then s.drain else s) ?_ (preparedJobs g p plan) [] hjobs reported
      · rw [List.append_nil] at hall
        exact hall
      · intro s j
        dsimp only
        split
        · exact Or.inr rfl
        · exact Or.inl rfl
    have hdrained : Brings submitted _ drained (.submitting g (.update plan) [] [] none) :=
      Leads.ite (.drain _) (.refl _)
    have hsubmits : p.session.Steady submitted :=
      (steady_ready g p).trans (.submitJobs (ready g p) sync (updateJobs g p))
    have hsteady : p.session.Steady drained := keeps_ite (hsubmits.trans (.drain _)) hsubmits
    have hfree' : (drained.graph g).locked = false := by
      rw [(hsteady.graph g).locked, hfree]
    exact ((hreported.trans hsubmitted).trans hdrained).trans
      (brings_finishUpdate plan drained hfree')

/-- **The part of an update after it has waited** is made of sections. -/
theorem brings_startGeneration (hg : g < s.graphs.size) (hopen : (s.graph g).closed = false)
    (hfree : (s.graph g).locked = false) (d : Dialect) (sync : Bool) :
    Brings s (.waiting g (s.graph g).generation) (s.startGeneration g d sync).2 .idle := by
  intro handed hreach
  have hs : s.Holdings := hreach.fitting.holdings
  cases hp : prepareKernels g d ((s.resizeSets g).graph g).definition.compilable
    { session := s.resizeSets g } with
  | mk result s' =>
    cases result with
    | error e =>
      rw [startGeneration_of_error hp]
      exact Brings.of_step (fun handed =>
        ⟨_, .stop (W := solo s _ handed) (callers_solo ..) hfree hopen rfl hp⟩) handed hreach
    | ok p =>
      have hprepared := (Preparation.resizeSets hs hg).prepareKernels (d := d)
      rw [hp] at hprepared
      obtain ⟨-, hrenews, hresult⟩ := hprepared
      have hfree' : (p.session.graph g).locked = false := by
        rw [(hresult p rfl).1, hrenews.graph, graph_resizeSets_eq hs]
        exact hfree
      exact Brings.trans (.of_step fun handed =>
        ⟨_, .prepare (W := solo s _ handed) (callers_solo ..) hfree hopen rfl hp⟩)
        (brings_prepared hp sync hfree') handed hreach

/-- **An update** is made of sections. -/
theorem Leads.update (hg : g < s.graphs.size) (hfree : (s.graph g).locked = false) (sync : Bool) :
    Leads .idle s (s.update g sync).2 := by
  unfold Session.update
  extract_lets x started taken
  split
  · exact .of_eq rfl rfl rfl rfl rfl rfl rfl rfl
  · rename_i hvalid
    split
    · exact .refl s
    · rename_i comp hcompiler
      split
      · exact .refl s
      · rename_i hclosed
        have hopen : (s.graph g).closed = false := by simpa using hclosed
        have haccepts : s.accepts g = true := by
          show (x.definition.validate.toBool && (s.compiler? x.options.format).isSome &&
            !x.closed && !x.locked) = true
          rw [hvalid, hcompiler, show x.closed = false from hopen, show x.locked = false from hfree]
          rfl
        have hbegun : Brings s .idle ((s.begun g).takeAll g)
            (.waiting g ((s.graph g).generation + 1)) :=
          .of_step fun handed =>
            ⟨_, .begin (W := solo s .idle handed) (callers_solo ..) hg haccepts⟩
        have htaken : Brings s .idle taken (.waiting g ((s.graph g).generation + 1)) :=
          hbegun.trans (Leads.drain _)
        -- the generation that has begun is still the latest when the workers are done
        have hsteady : (s.begun g).Steady taken := .takeTasks _ _
        have hg' : g < taken.graphs.size := by
          rw [hsteady.graphs, begun, Session.modifyGraph, Array.size_modify]
          exact hg
        have hopen' : (taken.graph g).closed = false := by
          rw [(hsteady.graph g).closed, graph_begun hg]
          exact hopen
        have hfree' : (taken.graph g).locked = false := by
          rw [(hsteady.graph g).locked, graph_begun hg]
          exact hfree
        have hgeneration : (taken.graph g).generation = (s.graph g).generation + 1 := by
          rw [(hsteady.graph g).generation, graph_begun hg]
        have hstart := brings_startGeneration hg' hopen' hfree'
          (x.options.dialect.getD comp.dialect) sync
        rw [hgeneration] at hstart
        exact htaken.trans hstart

/-! ## Closing -/

theorem Leads.closePool {x : Caller} (s : Session) (p : Nat) : Leads x s (s.closePool p) := by
  refine (Leads.drain s).trans (.modifyPool fun pool _ => ⟨fun _ hid => hid, fun h => ?_⟩)
  cases h

/-- The proxy of a graph is taken away and handed over. -/
theorem brings_retract (s : Session) (g : Nat) : Brings s (.retracting g)
    ((s.retract g).releaseProxy g (s.graph g).proxy) .idle := by
  intro handed hreach
  have hretracted := Step.retract (W := solo s (.retracting g) handed) (callers_solo ..)
  unfold enter at hretracted
  dsimp only at hretracted
  rw [update_callers_solo] at hretracted
  obtain ⟨handed', hsteps⟩ := steps_handOver (W := { solo (s.retract g) .idle handed with
    outgoing := (s.graph g).proxy.toList }) (g := g) rfl fun p hp => (hreach.stocked.own hp).2
  exact ⟨handed', .head ⟨_, trivial, hretracted⟩ hsteps⟩

/-- The last part of closing a graph is made of sections. -/
theorem brings_finishClose (s : Session) (g : Nat) :
    Brings s (.closing g) (s.finishClose g) .idle := by
  have hvacated : Brings s (.closing g) (s.vacate g) (.retracting g) :=
    .of_step fun handed => ⟨_, .vacate (W := solo s _ handed) (callers_solo ..)⟩
  rw [finishClose_eq, ← (Shelves.vacate s g).proxy g]
  exact hvacated.trans (brings_retract (s.vacate g) g)

/-- **Closing a graph** is made of sections. -/
theorem Leads.close (hg : g < s.graphs.size) (hfree : (s.graph g).locked = false) :
    Leads .idle s (s.close g) := by
  unfold Session.close
  split
  · exact .refl s
  · rename_i hclosed
    have hopen : (s.graph g).closed = false := by simpa using hclosed
    extract_lets closed cook runtime cooked taken invalidated settled announced proxy emptied
      released o pooled
    -- the resources at the end are those that were listed at the beginning
    have hsteady : closed.Steady taken := .takeTasks closed _
    have hall : taken.allResources g = runtime ++ cooked := allResources_of_steady hsteady g
    have hcook : (taken.graph g).cook.map Prod.snd = cook := by rw [(hsteady.graph g).cook]
    have hreleased : released = taken.finishClose g := by
      unfold Session.finishClose
      rw [hall, hcook]
      rfl
    have hbegun : Brings s .idle (s.shutDown g) (.closing g) :=
      .of_step fun handed =>
        ⟨_, .beginClose (W := solo s .idle handed) (callers_solo ..) hg hfree hopen⟩
    have htaken : Brings s .idle taken (.closing g) := hbegun.trans (Leads.drain _)
    have hfinished : Leads .idle s released := by
      rw [hreleased]
      exact htaken.trans (brings_finishClose taken g)
    have hpooled : Leads .idle released pooled := .ite (.closePool _ _) (.refl _)
    exact (hfinished.trans hpooled).trans (.note pooled _)

/-! ## Dropping platform caches -/

theorem brings_chores (next : Option TargetPlatform) (chores rest : List Chore) (s : Session) :
    Brings s (.clearing g next (chores ++ rest)) (chores.foldl Chore.apply s)
      (.clearing g next rest) := by
  induction chores generalizing s with
  | nil => exact Leads.refl s
  | cons y chores ih =>
    have hdone : Brings s (.clearing g next (y :: (chores ++ rest))) (y.apply s)
        (.clearing g next (chores ++ rest)) :=
      .of_step fun handed => ⟨_, .chore (W := solo s _ handed) (callers_solo ..)⟩
    exact hdone.trans (ih (y.apply s))

/-- A platform cache is dropped; in between the workers go on. -/
theorem brings_dropPlatform (next : Option TargetPlatform) (platform : Nat) (rest : List Chore)
    (s : Session) : Brings s (.clearing g next (s.chores platform ++ rest))
    (s.dropPlatform platform)
      (.clearing g next rest) := by
  rw [dropPlatform_eq, chores, List.append_assoc, List.cons_append]
  have hcancelled := brings_chores (g := g) next
    ((s.platformResources platform).map (Chore.cancel platform))
    (.silence platform :: (s.platformResources platform).map (.discard platform) ++ rest) s
  exact (hcancelled.trans (Leads.drain _)).trans (brings_chores next _ rest _)

/-- The cache of one platform is dropped, perhaps before the platform is begun. -/
theorem brings_clearPlatform (hg : g < s.graphs.size) (hfree : (s.graph g).locked = false)
    {name : String} {next : Option TargetPlatform}
    (hnext : ∀ platform ∈ next, platform.name = name ∧
      (s.graph g).definition.validate = .ok ()) :
    Brings s .idle (s.clearPlatform g name) (.clearing g next []) := by
  have hdelisted : Brings s .idle (s.delist g name) (.clearing g next
      (((s.graph g).cook.lookup name).toList.flatMap s.chores)) :=
    .of_step fun handed => ⟨_, .delist (W := solo s .idle handed) (callers_solo ..) hg hfree hnext⟩
  rw [clearPlatform_eq]
  split
  · rename_i h
    rw [h, delist_of_unlisted h] at hdelisted
    exact hdelisted
  · rename_i p h
    rw [h, Option.toList_some, List.flatMap_cons, List.flatMap_nil] at hdelisted
    exact hdelisted.trans (brings_dropPlatform next p [] (s.delist g name))

/-- The caches of several platforms are dropped, whose entries are known before. -/
theorem brings_dropPlatforms (cook : List (String × Nat)) {s₀ : Session} (s : Session)
    (h : ∀ p, s.platformResources p = s₀.platformResources p) :
    Brings s (.clearing g none ((cook.map Prod.snd).flatMap s₀.chores))
      (cook.foldl (fun s e => s.dropPlatform e.2) s) (.clearing g none []) := by
  induction cook generalizing s with
  | nil => exact Leads.refl s
  | cons e cook ih =>
    have hchores : s₀.chores e.2 = s.chores e.2 := by rw [chores, chores, h]
    rw [List.map_cons, List.flatMap_cons, hchores, List.foldl_cons]
    refine (brings_dropPlatform none e.2 _ s).trans (ih (s.dropPlatform e.2) fun p => ?_)
    rw [(Steady.dropPlatform s e.2).entries, h]

theorem Leads.clearPlatform (hg : g < s.graphs.size) (hfree : (s.graph g).locked = false)
    (name : String) : Leads .idle s (s.clearPlatform g name) :=
  Brings.trans (brings_clearPlatform hg hfree fun _ h => by cases h) (.of_turn .cleared)

theorem Leads.clearPlatforms (hg : g < s.graphs.size) (hfree : (s.graph g).locked = false) :
    Leads .idle s (s.clearPlatforms g) := by
  have hdelisted : Brings s .idle (s.delistAll g) (.clearing g none
      (((s.graph g).cook.map Prod.snd).flatMap s.chores)) :=
    .of_step fun handed => ⟨_, .delistAll (W := solo s .idle handed) (callers_solo ..) hg hfree⟩
  rw [clearPlatforms_eq]
  exact (hdelisted.trans (brings_dropPlatforms _ _ fun _ => rfl)).trans (.of_turn .cleared)

/-! ## Beginning a platform -/

/-- The kernels are built for the formats that are left. -/
theorem brings_buildFormats (platform : TargetPlatform) (rest : List String)
    (builds : List FormatBuilds) (hrest : platform.formats.drop builds.length = rest) (s : Session)
    (hopen : (s.graph g).closed = false) :
    Brings s (.building g platform builds) (buildFormats g platform.name rest s).2
      (.built g platform builds (buildFormats g platform.name rest s).1) := by
  induction rest generalizing builds s with
  | nil =>
    rw [show Caller.built g platform builds (buildFormats g platform.name [] s).1 =
      .building g platform (builds ++ []) from rfl, List.append_nil]
    exact Leads.refl s
  | cons format rest ih =>
    have hformat : platform.formats[builds.length]? = some format := by
      have hhead := congrArg (fun xs => xs[0]?) hrest
      rwa [List.getElem?_drop] at hhead
    have hbuilt : Brings s (.building g platform builds) (buildFormats g platform.name [format] s).2
        (.built g platform builds (buildFormats g platform.name [format] s).1) :=
      .of_step fun handed => ⟨_, .build (W := solo s _ handed) (callers_solo ..) hopen hformat⟩
    have hreads : s.Reads (buildFormats g platform.name [format] s).2 := .buildFormats [format] s
    have hone : ∀ fs, (buildFormats g platform.name [format] s).1 = .ok fs → fs.length = 1 :=
      fun _ => length_buildFormats_singleton
    rw [buildFormats_cons]
    generalize buildFormats g platform.name [format] s = out at hbuilt hreads hone
    obtain ⟨result, s'⟩ := out
    cases result with
    | error e => exact hbuilt
    | ok fs =>
      have hlength : platform.formats.drop (builds ++ fs).length = rest := by
        rw [List.length_append, hone fs rfl, ← List.drop_drop, hrest, List.drop_succ_cons,
          List.drop_zero]
      have hopen' : (s'.graph g).closed = false := by
        obtain ⟨_, _, _, heq⟩ := hreads
        rw [show s' = _ from heq]
        exact hopen
      have hothers := ih (builds ++ fs) hlength s' hopen'
      refine Brings.trans hbuilt ?_
      dsimp only
      generalize buildFormats g platform.name rest s' = out at hothers
      obtain ⟨result, s''⟩ := out
      cases result with
      | error e => exact hothers
      | ok fs' =>
        rw [Caller.built, List.append_assoc] at hothers
        exact hothers

/-- **Beginning a platform** is made of sections. -/
theorem Leads.beginPlatform (hg : g < s.graphs.size) (hfree : (s.graph g).locked = false)
    (platform : TargetPlatform) : Leads .idle s (s.beginPlatform g platform).2 := by
  unfold Session.beginPlatform
  split
  · exact .refl s
  · rename_i hvalid
    extract_lets cleared
    have hcleared : Brings s .idle cleared (.building g platform []) :=
      (brings_clearPlatform hg hfree fun _ h => by
        cases h
        exact ⟨rfl, hvalid⟩).trans (.of_turn .start)
    split
    · rename_i hclosed
      have hfree' : (cleared.graph g).locked = false := by
        rw [locked_clearPlatform, hfree]
      exact hcleared.trans (.of_turn (.refuse hfree' hclosed))
    · rename_i hclosed
      have hopen : (cleared.graph g).closed = false := by simpa using hclosed
      have hbuilt := hcleared.trans
        (brings_buildFormats platform platform.formats [] rfl cleared hopen)
      have hreads : cleared.Reads (buildFormats g platform.name platform.formats cleared).2 :=
        .buildFormats platform.formats cleared
      split
      · rename_i e s' heq
        rw [heq] at hbuilt
        exact hbuilt
      · rename_i formats s' heq
        rw [heq, Caller.built, List.nil_append] at hbuilt
        rw [heq] at hreads
        have hlength : formats.length = platform.formats.length :=
          length_buildFormats platform.formats (by rw [heq])
        have hgraph : s'.graph g = cleared.graph g := by
          obtain ⟨_, _, _, hs'⟩ := hreads
          rw [show s' = _ from hs']
          rfl
        have hunlisted : (s'.graph g).cook.lookup platform.name = none := by
          rw [hgraph]
          exact lookup_clearPlatform s g platform.name
        have hopen' : (s'.graph g).closed = false := by
          rw [hgraph]
          exact hopen
        have hinstalled : Brings s' (.building g platform formats) (s'.install g platform formats).1
            (.submitting g (.cook s'.platforms.size) [] (s'.install g platform formats).2 none) :=
          .of_step fun handed =>
            ⟨_, .install (W := solo s' _ handed) (callers_solo ..) hopen' hlength⟩
        have hjobs : ∀ j ∈ (s'.install g platform formats).2, j.graph = g := by
          intro j hj
          obtain ⟨_, _, _, hjob⟩ := exists_of_mem_install hj
          obtain ⟨_, _, rfl⟩ := FormatBuilds.job?_eq_some hjob
          rfl
        extract_lets id opened kernels
        split
        rename_i made jobs hmade
        extract_lets listed first second
        rw [install_of_unlisted hunlisted hmade] at hinstalled hjobs
        -- default kernels are waited for, the others are only submitted
        have hfirst := brings_submitAll (g := g) (.cook id) (f := fun s j => (s.submit j).drain)
          (fun _ _ => Or.inr rfl) (jobs.filter Job.isDefault) (jobs.filter fun j => !j.isDefault)
          (fun j hj => hjobs j (List.mem_append_left _ hj)) listed
        have hsecond := brings_submitAll (g := g) (.cook id) (f := submit)
          (fun _ _ => Or.inl rfl) (jobs.filter fun j => !j.isDefault) []
          (fun j hj => hjobs j (List.mem_append_right _ hj)) first
        have hfinished : Brings second (.submitting g (.cook id) [] [] none)
            (second.announceReady g id) .idle :=
          .of_step fun handed => ⟨_, .finishCook (W := solo second _ handed) (callers_solo ..)⟩
        rw [List.append_nil] at hsecond
        exact (((hbuilt.trans hinstalled).trans hfirst).trans hsecond).trans hfinished

/-! ## Runs -/

theorem Leads.execute {x : Caller} {p : Nat} (hp : p ∈ s.commands) : Leads x s (s.execute p) :=
  fun handed _ => ⟨handed, .single ⟨_, trivial, .execute (W := solo s x handed) hp⟩⟩

/-- The commands on the render queue are run one after the other. -/
theorem Leads.runQueue {x : Caller} (s : Session) : Leads x s s.runQueue.2 := by
  have hall : ∀ (commands : List Nat) (proxies : Array RenderProxy),
      Leads x { s with commands, proxies } { s with
        commands := []
        proxies := commands.foldl (fun ps p => ps.modify p fun y => { y with released := true })
          proxies } := by
    intro commands
    induction commands with
    | nil => exact fun _ => .refl _
    | cons p commands ih =>
      intro proxies
      have hexecuted : Session.execute { s with commands := p :: commands, proxies } p = { s with
          commands
          proxies := proxies.modify p fun y => { y with released := true } } := by
        rw [Session.execute, List.erase_cons_head]
      have hfirst : Leads x { s with commands := p :: commands, proxies } _ :=
        .execute (List.mem_cons_self ..)
      rw [hexecuted] at hfirst
      exact hfirst.trans (ih _)
  exact hall s.commands s.proxies

/-- Nobody is at work, so that a graph may be edited. -/
theorem callers_solo_idle (s : Session) (handed : List Nat) (c : Nat) :
    (solo s .idle handed).callers c = .idle := by
  rw [solo, Function.update_eq_self_iff.2 rfl]

theorem Leads.edit (s : Session) (g : Nat) (f : Graph → Graph) : Leads .idle s (s.edit g f) := by
  have hgraph : ∀ i, ((s.edit g f).graph i).cook = (s.graph i).cook := by
    intro i
    rw [Session.edit, graph_modifyGraph]
    split
    · rfl
    · rfl
  exact .aside fun handed =>
    { toAround := .modifyGraph s g fun _ => ⟨⟨rfl, rfl, rfl, rfl, rfl, rfl, rfl⟩, rfl⟩
      store := rfl
      caches := rfl
      listed := hgraph
      published := rfl
      queued := rfl
      told := rfl
      marks := rfl
      edited := fun c i hi => by
        rw [callers_solo_idle] at hi
        cases hi }

/-- **Every action** is made of sections, and nothing is left to do at its end. -/
theorem Leads.action (a : Action) (ha : a.Enabled s) :
    Leads .idle s (a.apply s) := by
  cases a with
  | addGraph definition options =>
    exact .aside fun handed => .addGraph _ definition options (callers_solo_idle s handed)
  | edit g f => exact .edit s g f
  | update g sync => exact .update (ha.graph g rfl) (ha.free g rfl) sync
  | close g => exact .close (ha.graph g rfl) (ha.free g rfl)
  | build g k d format => exact .of_eq rfl rfl rfl rfl rfl rfl rfl rfl
  | beginPlatform g platform => exact .beginPlatform (ha.graph g rfl) (ha.free g rfl) platform
  | clearPlatform g name => exact .clearPlatform (ha.graph g rfl) (ha.free g rfl) name
  | clearPlatforms g => exact .clearPlatforms (ha.graph g rfl) (ha.free g rfl)
  | advance p =>
    rw [Action.apply]
    cases hs : s.advance p with
    | none => exact .refl s
    | some s' => exact .advance hs
  | openPool =>
    exact .aside fun _ => .of_work (.openPool s) rfl rfl rfl rfl rfl rfl rfl
  | closePool p => exact .closePool s p
  | hold => exact .of_eq rfl rfl rfl rfl rfl rfl rfl rfl
  | release =>
    have hfree : Leads .idle s { s with held := false } := .of_eq rfl rfl rfl rfl rfl rfl rfl rfl
    exact hfree.trans (.drain _)
  | runQueue => exact .runQueue s
  | lookup key => exact .of_eq rfl rfl rfl rfl rfl rfl rfl rfl
  | clearCache => exact .of_eq rfl rfl rfl rfl rfl rfl rfl rfl
  | files f => exact .of_eq rfl rfl rfl rfl rfl rfl rfl rfl
  | scripts xs => exact .of_eq rfl rfl rfl rfl rfl rfl rfl rfl
  | takeEvents => exact fun handed _ => ⟨handed, .single ⟨_, trivial, .collect⟩⟩

/-- **Every run is a row of sections** that leads to its session, with no caller at work, no job
    half told and no proxy outgoing. -/
theorem exists_reachable {H : List Started} (h : Run H s) :
    ∃ handed, (solo s .idle handed).Reachable := by
  induction h with
  | @start files _ scripts limit =>
    refine ⟨[], files, scripts, limit, false, ?_⟩
    rw [solo, Function.update_eq_self_iff.2 rfl]
    exact .refl
  | step a ha _ ih =>
    obtain ⟨handed, hreach⟩ := ih
    obtain ⟨handed', hsteps⟩ := Leads.action a ha handed hreach
    exact ⟨handed', hreach.runs hsteps⟩

end

/-! ### A platform of a graph that is compiled already -/

section
variable {rest : Session} {p : Program} {result : CompileResult}

/-- A platform with the format that the graph is compiled for at run time. -/
def entryPlatform : TargetPlatform := ⟨"p", ["mock"]⟩

/-- What is built for its format. -/
def entryBuilds : FormatBuilds where
  format := "mock"
  compiler := some (Script.compiler { format := "mock" })
  builds := [(0, .ok (entryBuild "Main"))]

/-- The kernel is built a second time. -/
theorem buildFormats_entryCompiled (hfiles : rest.files = entryBuilt.files) : ∃ rest',
    buildFormats 0 "p" ["mock"] (entryCompiled rest p result "Main" 1) =
      (.ok [entryBuilds], entryCompiled rest' p result "Main" 1) := by
  have hok : ((entryCompiled rest p result "Main" 1).buildKernel 0 0 .wgsl "mock").1 =
      .ok (entryBuild "Main") := by
    have hcurrent : rest.files.Current 0 := by rw [hfiles]; exact current_entryBuilt
    have hsources : rest.files.source? 0 = wrapperFiles.source? 0 := by
      rw [hfiles]
      exact source?_entryBuilt
    exact build_entryGraph hcurrent hsources "Main"
  obtain ⟨rest', hbuild⟩ : ∃ rest', (entryCompiled rest p result "Main" 1).buildKernel 0 0 .wgsl
      "mock" = (.ok (entryBuild "Main"), entryCompiled rest' p result "Main" 1) :=
    ⟨_, Prod.ext hok (eq_entryCompiled rfl rfl rfl rfl rfl)⟩
  have hcompilable : ((entryCompiled rest p result "Main" 1).graph 0).definition.compilable =
      [(0, entryKernel "Main", entrySource "Main")] := compilable_entryGraph "Main"
  have hkernels : buildKernels 0 .wgsl "mock" [(0, entryKernel "Main", entrySource "Main")]
      (entryCompiled rest p result "Main" 1) =
        (.ok [(0, .ok (entryBuild "Main"))], entryCompiled rest' p result "Main" 1) := by
    rw [buildKernels, Nat.cast_zero, hbuild]
    rfl
  rw [← hcompilable] at hkernels
  refine ⟨rest', ?_⟩
  have hcompiler : (entryCompiled rest p result "Main" 1).compiler? "mock" =
      some (Script.compiler { format := "mock" }) := rfl
  rw [buildFormats, hcompiler]
  dsimp only
  rw [show (Script.compiler { format := "mock" }).dialect = .wgsl from rfl, hkernels]
  rfl

/-- The job that compiles it. -/
def entryCookJob (platform : Nat) : Job where
  graph := 0
  kernel := 0
  name := "A"
  isDefault := false
  resource := 1
  build := entryBuild "Main"
  format := "mock"
  kind := .cook platform

/-- Somebody begins the platform: he finds nothing to drop, builds, lists the cache, and submits the
    job. -/
theorem runs_entryCooked (hfiles : rest.files = entryBuilt.files) (handed : List Nat) :
    ∃ W' : Workshop, Runs (fun d => d ≠ .runtime 0 ∧ d ≠ .close 0)
        (solo (entryCompiled rest p result "Main" 1) .idle handed) W' ∧
      ∃ platform, (W'.session.graph 0).cook.lookup "p" = some platform ∧
        W'.session.platformResources platform = [1] ∧
        W'.session.tasks[1]? = some { job := entryCookJob platform } := by
  obtain ⟨rest', hbuilt⟩ := @buildFormats_entryCompiled rest p result hfiles
  let s := entryCompiled rest p result "Main" 1
  let s' := entryCompiled rest' p result "Main" 1
  have hdelisted : Step (.cook 0 "p") (solo s .idle handed)
      ((solo s .idle handed).enter 0 (.clearing 0 (some entryPlatform) [])) :=
    .delist (c := 0) (g := 0) rfl Nat.one_pos rfl fun _ h => by cases h; exact ⟨rfl, rfl⟩
  rw [enter_solo] at hdelisted
  have hstarted : Step .aside (solo s (.clearing 0 (some entryPlatform) []) handed)
      ((solo s (.clearing 0 (some entryPlatform) []) handed).enter 0
        (.building 0 entryPlatform [])) := .turn .start
  rw [enter_solo] at hstarted
  have hmade : Step (.cook 0 "p") (solo s (.building 0 entryPlatform []) handed)
      ((solo s' (.building 0 entryPlatform []) handed).enter 0
        (.building 0 entryPlatform [entryBuilds])) := by
    have hstep := @Step.build (solo s (.building 0 entryPlatform []) handed) 0 0 entryPlatform []
      "mock" rfl rfl rfl
    rw [show buildFormats 0 entryPlatform.name ["mock"] (solo s (.building 0 entryPlatform [])
      handed).session = _ from hbuilt] at hstep
    exact hstep
  rw [enter_solo] at hmade
  have hlisted : Step (.list 0 "p") (solo s' (.building 0 entryPlatform [entryBuilds]) handed)
      ((solo (s'.install 0 entryPlatform [entryBuilds]).1
        (.building 0 entryPlatform [entryBuilds]) handed).enter 0
          (.submitting 0 (.cook rest'.platforms.size) [] [entryCookJob rest'.platforms.size]
            none)) :=
    @Step.install _ 0 0 entryPlatform [entryBuilds] rfl rfl rfl
  rw [enter_solo] at hlisted
  have hqueued := @Step.enqueue (solo (s'.install 0 entryPlatform [entryBuilds]).1
    (.submitting 0 (.cook rest'.platforms.size) [] [entryCookJob rest'.platforms.size] none)
    handed) 0 0 (.cook rest'.platforms.size) (entryCookJob rest'.platforms.size) [] rfl
  have hentries : platformResources { s' with
      platforms := (rest'.platforms.push { platform := entryPlatform }).modify
        rest'.platforms.size fun x => { x with entries := x.entries ++ [(0, 1)] } }
      rest'.platforms.size = [1] := by
    rw [platformResources, Array.getD_eq_getD_getElem?, Array.getElem?_modify, if_pos rfl,
      Array.getElem?_push_size]
    rfl
  -- no section works for the run-time side, and none closes the graph
  have haside : Duty.aside ≠ .runtime 0 ∧ Duty.aside ≠ .close 0 := by simp
  have hcook : ∀ name, Duty.cook 0 name ≠ .runtime 0 ∧ Duty.cook 0 name ≠ .close 0 := by simp
  have hlist : Duty.list 0 "p" ≠ .runtime 0 ∧ Duty.list 0 "p" ≠ .close 0 := by simp
  have hcleared : Runs (fun d => d ≠ .runtime 0 ∧ d ≠ .close 0) _ _ :=
    .tail (.single ⟨_, hcook "p", hdelisted⟩) ⟨_, haside, hstarted⟩
  have hinstalled := (hcleared.tail ⟨_, hcook "p", hmade⟩).tail ⟨_, hlist, hlisted⟩
  exact ⟨_, hinstalled.tail ⟨_, hcook _, hqueued⟩, rest'.platforms.size, rfl, hentries, rfl⟩

/-- While the kernel is compiled for the platform, the run-time side stays as it is. -/
theorem sides_apart_entryCooked : ∃ W W' : Workshop, W.Reachable ∧
    Runs (fun d => d ≠ .runtime 0 ∧ d ≠ .close 0) W W' ∧
    ((W.session.graph 0).proxy = some 0 ∧ W.session.Owns 0 0 0 ∧
      (W.session.resource 0).state = .compiled) ∧
    (∃ platform, (W'.session.graph 0).cook.lookup "p" = some platform ∧
      W'.session.platformResources platform = [1] ∧
      W'.session.tasks[1]? = some { job := entryCookJob platform }) ∧
    RuntimeKept 0 W.session W'.session := by
  obtain ⟨rest, p, result, hfiles, hfirst⟩ := exists_entryCompiled
  have hrun : Run _ (entryStart.update 0 true).2 :=
    .step (.update 0 true) (.update Nat.one_pos rfl)
      (.step (.addGraph (entryGraph "Main") entryOptions) .addGraph
        (.start reachable_wrapperFiles [{ format := "mock" }] 0))
  rw [hfirst] at hrun
  obtain ⟨handed, hreach⟩ := exists_reachable hrun
  obtain ⟨W', hruns, hcooked⟩ := @runs_entryCooked rest p result hfiles handed
  refine ⟨_, W', hreach, hruns, ⟨rfl, ⟨.runtime "mock" (some 0), rfl, ?_⟩, rfl⟩, hcooked,
    (Reachable.sides_apart hreach 0).1 _ hruns⟩
  exact List.mem_singleton_self 0

end

end Workshop

end KernelGraph
