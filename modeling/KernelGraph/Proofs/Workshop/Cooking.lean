/-
  Every section keeps the entries of all platforms in order.

  1. `Rests`: most sections touch neither a resource nor a task, so that all entries stay what they
     are and all jobs stay where they are.

  2. The others take tasks away, invalidate resources, end tasks, submit a job, prepare an update
     or list a platform.  What each of them does to an entry is one of `Moves`.

  3. So in all workshops whose compilers are honest, each entry is in order: its job is in one
     place, or it is over and the entry has its program or its error.
-/
import KernelGraph.Proofs.Workshop.Apart
import KernelGraph.Proofs.Workshop.Stations

namespace KernelGraph

namespace Session

/-! ## Sections that touch no resource -/

/-- No resource and no task is touched. -/
structure Rests (s s' : Session) : Prop extends Tends s s' where
  store : s'.resources = s.resources
  taken : s'.tasks = s.tasks

section
variable {s s' s'' : Session}

namespace Rests

theorem trans (h : s.Rests s') (h' : s'.Rests s'') : s.Rests s'' where
  toTends := h.toTends.trans h'.toTends
  store := h'.store.trans h.store
  taken := h'.taken.trans h.taken

theorem of_eq (hgraphs : s'.graphs = s.graphs) (hresources : s'.resources = s.resources)
    (hplatforms : s'.platforms = s.platforms) (htasks : s'.tasks = s.tasks)
    (hpools : s'.pools = s.pools) : s.Rests s' :=
  ⟨.of_eq hgraphs hresources hplatforms htasks hpools, hresources, htasks⟩

theorem refl (s : Session) : s.Rests s := .of_eq rfl rfl rfl rfl rfl

theorem releaseProxy (s : Session) (g : Nat) (proxy : Option Nat) :
    s.Rests (s.releaseProxy g proxy) := by
  unfold Session.releaseProxy
  split
  · exact .refl s
  · split
    · exact .of_eq rfl rfl rfl rfl rfl
    · exact .of_eq rfl rfl rfl rfl rfl

theorem present (s : Session) (g : Nat) (plan : Plan) : s.Rests (s.present g plan) := by
  refine ⟨.present s g plan, ?_, ?_⟩
  · unfold Session.present
    split
    · rfl
    · rfl
  · unfold Session.present
    split
    · rfl
    · rfl

theorem strike (s : Session) (j : Job) : s.Rests (s.strike j) := ⟨.strike s j, rfl, rfl⟩

theorem tellUpdate (s : Session) (j : Job) (program : Option Program) (r : CompileResult)
    (current : Bool) : s.Rests (s.tellUpdate j program r current) := by
  obtain ⟨_, _, _, _, _, heq⟩ := tellUpdate_eq s j program r current
  rw [heq]
  exact .of_eq rfl rfl rfl rfl rfl

theorem tellCook (s : Session) (j : Job) (p : Nat) (r : CompileResult) :
    s.Rests (s.tellCook j p r) := by
  refine ⟨.tellCook s j p r, ?_, ?_⟩
  · obtain ⟨_, _, _, _, _, heq⟩ := tellCook_eq s j p r
    rw [heq]
  · obtain ⟨_, _, _, _, _, heq⟩ := tellCook_eq s j p r
    rw [heq]

theorem announceReady (s : Session) (g p : Nat) : s.Rests (s.announceReady g p) := by
  refine ⟨.announceReady s g p, ?_, ?_⟩
  · obtain ⟨_, _, _, heq⟩ := announceReady_eq s g p
    rw [heq]
  · obtain ⟨_, _, _, heq⟩ := announceReady_eq s g p
    rw [heq]

theorem reportFailure (s : Session) (g k : Nat) : s.Rests (s.reportFailure g k) := by
  obtain ⟨_, _, _, _, _, heq⟩ := reportFailure_tells s g k
  rw [heq]
  exact .of_eq rfl rfl rfl rfl rfl

theorem of_reads (h : s.Reads s') : s.Rests s' := by
  obtain ⟨_, _, _, rfl⟩ := h
  exact .of_eq rfl rfl rfl rfl rfl

end Rests

theorem Tends.isCooked (h : s.Tends s') {r : Nat} (hr : s'.IsCooked r) : s.IsCooked r := by
  obtain ⟨p, hr⟩ := hr
  exact ⟨p, by rwa [platformResources_of_mark (getD_mark_of_map h.marks p)] at hr⟩

/-- The resources of a graph that is closed are not entries that an open graph lists. -/
theorem Current.not_mem_allResources {g r : Nat} (hs : s.Holdings) (hl : s.Listing)
    (hclosed : (s.graph g).closed = true) (h : s.Current r) : r ∉ s.allResources g := by
  obtain ⟨i, name, p, hlists, hopen, hr⟩ := h
  intro hmem
  rcases List.mem_append.1 hmem with hmem | hmem
  · obtain ⟨k, ho⟩ := mem_graphResources.1 hmem
    exact hs.uncooked ho ⟨p, hr⟩
  · obtain ⟨p', hp', hmem⟩ := List.mem_flatMap.1 hmem
    obtain ⟨⟨name', _⟩, hlists', rfl⟩ := List.mem_map.1 hp'
    obtain rfl := hl.apart hr hmem
    obtain rfl := hl.alone hlists hlists'
    rw [hclosed] at hopen
    cases hopen

/-- A cache that is being dropped has no entries that a graph lists. -/
theorem ChoreFits.not_current {x : Chore} (h : s.ChoreFits x) (hl : s.Listing) {r : Nat}
    (hx : x.resource? = some r) : ¬ s.Current r := by
  rintro ⟨i, name, p, hlists, _, hr⟩
  obtain rfl := hl.apart (h.entry r hx) hr
  exact h.delisted hlists

end

end Session

namespace Workshop

open Session

/-! ## What a section does to all entries -/

/-- **Entries are in order**, and resources have tasks of their own jobs. -/
structure Cooks (W : Workshop) : Prop where
  matched : W.session.Matched
  entry : ∀ {r}, W.session.IsCooked r → W.Entry r

/-- Old entries are moved, and new ones are in order. -/
structure Minds (W W' : Workshop) : Prop where
  size : W.session.platforms.size ≤ W'.session.platforms.size
  marks : ∀ p < W.session.platforms.size, (W'.session.platforms.getD p default).mark =
    (W.session.platforms.getD p default).mark
  matched : W'.session.Matched
  moves : ∀ {r}, W.session.IsCooked r → Moves W W' r
  fresh : ∀ {r}, W'.session.IsCooked r → W.session.IsCooked r ∨ W'.Entry r

theorem Minds.isCooked {W W' : Workshop} (hm : Minds W W') {r : Nat} (hr : W.session.IsCooked r) :
    W'.session.IsCooked r := by
  obtain ⟨p, hr⟩ := hr
  refine ⟨p, ?_⟩
  rwa [platformResources_of_mark (hm.marks p (lt_of_mem_platformResources hr))]

theorem Cooks.minds {W W' : Workshop} (h : W.Cooks) (hm : Minds W W') : W'.Cooks where
  matched := hm.matched
  entry hr := by
    rcases hm.fresh hr with hold | hnew
    · exact (h.entry hold).moves (hm.moves hold)
    · exact hnew

section
variable {W W' : Workshop} {d : Duty}

/-- A caller goes on and has as many jobs as before. -/
theorem jobs_enter {c : Nat} {x : Caller} (hcallers : W'.callers = W.callers)
    (hx : x.jobs = (W.callers c).jobs) :
    ∀ c', ((W'.enter c x).callers c').jobs = (W.callers c').jobs := by
  intro c'
  by_cases hc : c' = c
  · rw [hc, callers_enter_self, hx]
  · rw [callers_enter_of_ne W' hc, hcallers]

theorem Minds.rests (h : W.Cooks) (hs : W.session.Rests W'.session)
    (hjobs : ∀ c, (W'.callers c).jobs = (W.callers c).jobs) : Minds W W' where
  size := hs.passes.platforms
  marks := hs.passes.marks
  matched := h.matched.next hs.work fun {r id} hid => by
    rw [Session.resource, hs.store] at hid
    exact hid
  moves _ := .same hjobs hs.store (by rw [hs.taken]) fun hc => hc.tends hs.toTends
  fresh hr := Or.inl (hs.toTends.isCooked hr)

theorem Minds.aside {s' : Session} (h : W.Cooks) (ha : W.Aside s') :
    Minds W { W with session := s' } where
  size := by rw [ha.caches]
  marks p _ := by rw [ha.caches]
  matched := h.matched.next ha.map_job fun {r id} hid => by
    rw [Session.resource, ha.store] at hid
    exact hid
  moves _ := by
    refine .same (fun _ => rfl) ha.store ha.marks fun hc => ?_
    obtain ⟨g, name, p, hl, hopen, hr⟩ := hc
    refine ⟨g, name, p, ha.lists.1 hl, (ha.graph g).closed ▸ hopen, ?_⟩
    rwa [platformResources, ha.caches] at hr
  fresh hr := by
    obtain ⟨p, hr⟩ := hr
    rw [platformResources, ha.caches] at hr
    exact Or.inl ⟨p, hr⟩

/-- Tasks are taken away from resources that no open graph lists. -/
theorem Minds.takes (s₀ : Session) (rs : List Nat) (h : W.Cooks)
    (hresources : s₀.resources = W.session.resources) (htasks : s₀.tasks = W.session.tasks)
    (hsession : W'.session = rs.foldl takeTask s₀) (hs : W.session.Tends W'.session)
    (hjobs : ∀ c, (W'.callers c).jobs = (W.callers c).jobs)
    (hrs : ∀ {r}, W.session.IsCooked r → W'.session.Current r → r ∉ rs) : Minds W W' := by
  have hbefore : ∀ r, s₀.resource r = W.session.resource r := fun r => by
    rw [Session.resource, Session.resource, hresources]
  have hmatched : s₀.Matched := by
    intro r id hid
    rw [htasks]
    exact h.matched r id (hbefore r ▸ hid)
  refine ⟨hs.passes.platforms, hs.passes.marks,
    h.matched.next hs.work fun {r id} hid => ?_, fun hr =>
    .takes rs hmatched hjobs hresources htasks hsession fun hc => ⟨hc.tends hs, hrs hr hc⟩,
    fun hr => Or.inl (hs.isCooked hr)⟩
  rw [hsession, resource_foldl_takeTask, hbefore] at hid
  split at hid
  · rw [Ledger.task_takeTask] at hid
    cases hid
  · exact hid

/-- Resources are invalidated that no open graph lists. -/
theorem Minds.discards (rs : List Nat) (h : W.Cooks)
    (hresource : ∀ r, W'.session.resource r =
      if r ∈ rs ∧ r < W.session.resources.size then (W.session.resource r).invalidate
      else W.session.resource r)
    (htasks : W'.session.tasks = W.session.tasks) (hs : W.session.Tends W'.session)
    (hjobs : ∀ c, (W'.callers c).jobs = (W.callers c).jobs)
    (hrs : ∀ {r}, W'.session.Current r → r ∉ rs) : Minds W W' where
  size := hs.passes.platforms
  marks := hs.passes.marks
  matched := h.matched.next hs.work fun {r id} hid => by
    rw [hresource] at hid
    split at hid
    · cases hid
    · exact hid
  moves _ := .discards rs hjobs (hresource _) htasks fun hc => ⟨hc.tends hs, hrs hc⟩
  fresh hr := Or.inl (hs.isCooked hr)

/-- A task is over that nobody waits for. -/
theorem Minds.ends {id : Nat} {t : CompileTask} (h : W.Cooks)
    (ht : W.session.tasks[id]? = some t)
    (hcallers : W'.callers = W.callers) (hs : W.session.Tends W'.session)
    (htasks : W'.session.tasks = W.session.tasks.modify id fun t => { t with done := true })
    (htold : ∀ {r id}, (W'.session.resource r).task = some id →
      (W.session.resource r).task = some id)
    (hresource : ∀ r, W.session.IsCooked r → W'.session.resource r = W.session.resource r)
    (hover : W.session.IsCooked t.job.resource →
      (W.session.resource t.job.resource).state ≠ .compiling) : Minds W W' where
  size := hs.passes.platforms
  marks := hs.passes.marks
  matched := h.matched.next hs.work htold
  moves {r} hr := .ends id hcallers htasks (hresource r hr) (fun hc => hc.tends hs) fun ht' hj => by
    rw [ht] at ht'
    cases ht'
    subst hj
    exact hover hr
  fresh hr := Or.inl (hs.isCooked hr)

theorem Minds.enqueue (h : W.Cooks) {c g : Nat} {errand : Errand} {j : Job} {jobs : List Job}
    (hcaller : W.callers c = .submitting g errand [] (j :: jobs) none) :
    Minds W ({ W with session := W.session.enqueue j }.enter c
      (.submitting g errand [] jobs (some (W.session.tasks.size, j)))) where
  size := Nat.le_refl _
  marks _ _ := rfl
  matched r id hid := by
    obtain ⟨t, ht, hr⟩ := h.matched r id hid
    exact ⟨t, task_enqueue_of_get ht, hr⟩
  moves _ := .enqueue hcaller
  fresh hr := Or.inl hr

/-- The task of a job that is not awaited is cancelled when the resource is told. -/
theorem tasks_register (s : Session) (id : Nat) (j : Job) : (s.register id j).tasks =
    if s.Awaits j then s.tasks else s.tasks.modify id fun t => { t with cancelled := true } := by
  unfold Session.register Resource.setTask
  by_cases h : s.Awaits j
  · rw [if_pos h, if_pos (by simpa [Awaits] using h)]
    rfl
  · rw [if_neg h, if_neg (by simpa [Awaits] using h)]
    rfl

/-- The job of an entry has no generation. -/
theorem generation_of_isCooked {s : Session} {j : Job} (h : s.JobKnown j)
    (hr : s.IsCooked j.resource) : j.generation = 0 := by
  unfold JobKnown at h
  unfold Job.generation
  cases hkind : j.kind with
  | runtime n plan =>
    rw [hkind] at h
    exact absurd hr h.uncooked
  | cook p => rfl

theorem Minds.register (h : W.Cooks) (hfitting : W.Fitting) {c g id : Nat}
    {errand : Errand} {j : Job}
    {jobs : List Job} (hcaller : W.callers c = .submitting g errand [] jobs (some (id, j))) :
    Minds W ({ W with session := W.session.register id j }.enter c
      (.submitting g errand [] jobs none)) := by
  obtain ⟨t₀, ht₀, hjob⟩ := (hfitting.callers c).untold (by rw [hcaller]; rfl)
  have hs : W.session.Tends (W.session.register id j) := .register ..
  have hresource : ∀ r, (W.session.register id j).resource r =
      if j.resource = r ∧ j.resource < W.session.resources.size then
        ((W.session.resource r).setTask id j.generation).2 else W.session.resource r := fun r => by
    rw [resource_register, resource_modifyResource]
  have hstate : ∀ r, ((W.session.register id j).resource r).state = (W.session.resource r).state :=
    fun r => by
    rw [hresource]
    split
    · unfold Resource.setTask
      split
      · rfl
      · rfl
    · rfl
  refine ⟨hs.passes.platforms, hs.passes.marks, fun r i hid => ?_, fun {r} hr => ?_,
    fun hr => Or.inl (hs.isCooked hr)⟩
  · -- the task that is told is that of the job
    have hold : ∀ {t}, W.session.tasks[i]? = some t → t.job.resource = r →
        ∃ t', (W.session.register id j).tasks[i]? = some t' ∧ t'.job.resource = r := fun ht hr => by
      obtain ⟨t', ht', hj⟩ := exists_task_of_map_job hs.work.symm ht
      exact ⟨t', ht', hj ▸ hr⟩
    have hid' : ((W.session.register id j).resource r).task = some i := hid
    rw [hresource] at hid'
    split at hid'
    · rename_i hr
      unfold Resource.setTask at hid'
      split at hid'
      · cases hid'
        exact hold ht₀ (hjob ▸ hr.1)
      · obtain ⟨t, ht, hj⟩ := h.matched r i hid'
        exact hold ht hj
    · obtain ⟨t, ht, hj⟩ := h.matched r i hid'
      exact hold ht hj
  · refine .still (jobs_enter rfl (by rw [hcaller]; rfl)) ?_ ?_ (fun hc => ⟨hc.tends hs, hstate r⟩)
      fun {i t t'} ht ht' hj hc hcompiling => ?_
    · show (W.session.register id j).tasks.map CompileTask.work = _
      rw [tasks_register]
      split
      · rfl
      · exact map_modify_of_eq _ _ fun _ => rfl
    · show (W.session.resource r).Stays ((W.session.register id j).resource r)
      rw [hresource]
      split
      · exact .setTask ..
      · exact .refl _
    · have ht'' : (W.session.register id j).tasks[i]? = some t' := ht'
      rw [tasks_register] at ht''
      split at ht''
      · rw [ht] at ht''
        cases ht''
        exact hc
      · rename_i hnot
        rw [Array.getElem?_modify] at ht''
        split at ht''
        · -- the task is cancelled, because the resource does not wait for it
          rename_i hi
          subst hi
          rw [ht] at ht₀
          cases ht₀
          subst hjob
          subst hj
          have hknown := hfitting.tasks ht
          refine absurd ⟨?_, (hstate _).symm.trans hcompiling⟩ hnot
          rw [(h.entry hr).generation, generation_of_isCooked hknown hr]
        · rw [ht] at ht''
          cases ht''
          exact hc

/-- An update prepares its kernels, which are none of the entries. -/
theorem Minds.overhauls (h : W.Cooks) (hs : W.session.Holdings) {g : Nat}
    (ho : Overhauls g W.session W'.session)
    (hjobs : ∀ {c i : Nat} {j : Job}, W'.session.IsCooked j.resource →
      ((W'.callers c).jobs[i]? = some j ↔ (W.callers c).jobs[i]? = some j)) : Minds W W' := by
  have hentries : ∀ p, W'.session.platformResources p = W.session.platformResources p := fun p => by
    rw [platformResources, ho.platforms]
    rfl
  have hcooked : ∀ {r}, W'.session.IsCooked r ↔ W.session.IsCooked r := fun {r} => by
    rw [IsCooked, IsCooked, funext hentries]
  have hgraph : ∀ i, (W'.session.graph i).cook = (W.session.graph i).cook ∧
      (W'.session.graph i).closed = (W.session.graph i).closed := fun i => by
    by_cases hi : i = g
    · obtain ⟨_, _, _, heq⟩ := ho.graph
      rw [hi, heq]
      exact ⟨rfl, rfl⟩
    · rw [ho.other i hi]
      exact ⟨rfl, rfl⟩
  refine ⟨by rw [ho.platforms], fun p _ => by rw [ho.platforms], fun r id hid => ?_,
    fun {r} hr => ?_, fun hr => Or.inl (hcooked.1 hr)⟩
  · rw [ho.tasks]
    exact h.matched r id (ho.told hid)
  · have hresource := ho.kept r (hs.cooked hr) fun k howns => hs.uncooked howns hr
    have hat : ∀ {x}, W'.At r x ↔ W.At r x := fun {x} => by
      cases x with
      | queued c i =>
        refine exists_congr fun j => and_congr_left fun hj => hjobs ?_
        rw [hj]
        exact hcooked.2 hr
      | task id =>
        rw [at_task, at_task, ho.tasks]
    refine .on id id (.of_eq hresource) (fun hc => ⟨?_, by rw [hresource]⟩)
      (fun hx => ⟨hat.1 hx, rfl⟩) (fun _ hx => hat.2 hx) fun {id t'} ht' hj hstop _ => ?_
    · obtain ⟨i, name, p, hl, hopen, hr⟩ := hc
      refine ⟨i, name, p, ?_, (hgraph i).2 ▸ hopen, hentries p ▸ hr⟩
      rw [Session.Lists, ← (hgraph i).1]
      exact hl
    · rw [ho.tasks] at ht'
      exact ⟨t', ht', hj, hstop⟩

section
variable {c g : Nat} {platform : TargetPlatform} {builds : List FormatBuilds}

/-- The workshop in which the platform is listed. -/
def listed (W : Workshop) (c g : Nat) (platform : TargetPlatform) (builds : List FormatBuilds) :
    Workshop :=
  { W with session := (W.session.install g platform builds).1 }.enter c
    (.submitting g (.cook W.session.platforms.size) [] (W.session.install g platform builds).2 none)

theorem jobs_listed (c' : Nat) : ((W.listed c g platform builds).callers c').jobs =
    if c' = c then (W.session.install g platform builds).2 else (W.callers c').jobs := by
  split
  · rename_i hc
    rw [hc, listed, callers_enter_self]
    rfl
  · rename_i hc
    rw [listed, callers_enter_of_ne _ hc]

/-- The job of a new entry stands with the caller that lists the platform. -/
theorem at_listed (hfitting : W.Fitting) {i : Nat} {x : Station}
    (hx : (W.listed c g platform builds).At (W.session.resources.size + i) x) :
    ∃ n j, x = .queued c n ∧ (W.session.install g platform builds).2[n]? = some j ∧
      j.resource = W.session.resources.size + i := by
  have hold : ∀ {j : Job}, W.session.JobKnown j → j.resource ≠ W.session.resources.size + i :=
    fun hj heq => by
      have hlt := hj.lt hfitting.holdings
      omega
  cases x with
  | queued c' n =>
    obtain ⟨j, hj, hr⟩ := hx
    rw [jobs_listed] at hj
    split at hj
    · rename_i hc
      exact ⟨n, j, by rw [hc], hj, hr⟩
    · exact absurd hr (hold ((hfitting.callers c').jobs j (List.mem_of_getElem? hj)))
  | task id =>
    obtain ⟨t, ht, hr, _⟩ := hx
    have ht' : (W.session.install g platform builds).1.tasks[id]? = some t := ht
    rw [tasks_install] at ht'
    exact absurd hr (hold (hfitting.tasks ht'))

/-- **A platform is listed**: its entries have failed, or wait for one job each. -/
theorem Entry.listed (hfitting : W.Fitting)
    (hmade : ∀ f ∈ builds, f.MadeFor g (W.session.graph g).definition) {i : Nat}
    (hi : i < (W.session.items g builds).length) :
    (W.listed c g platform builds).Entry (W.session.resources.size + i) := by
  obtain ⟨x, hx⟩ : ∃ x, (W.session.items g builds)[i]? = some x :=
    ⟨_, List.getElem?_eq_getElem hi⟩
  have hresource : (W.listed c g platform builds).session.resource (W.session.resources.size + i) =
      x.1.entry x.2.1 := resource_install g platform builds hx
  obtain ⟨hf, hk⟩ := mem_entryItems (List.mem_of_getElem? hx)
  -- a job of the entry is that of its build
  have hjob : ∀ {n : Nat} {j : Job}, (W.session.install g platform builds).2[n]? = some j →
      j.resource = W.session.resources.size + i → ∃ b, x.1.build? x.2.1 = some b := fun hj hr => by
    obtain ⟨i', x', hx', hj'⟩ := exists_of_mem_install (List.mem_of_getElem? hj)
    obtain ⟨b, hb, rfl⟩ := FormatBuilds.job?_eq_some hj'
    obtain rfl : i' = i := Nat.add_left_cancel hr
    rw [hx] at hx'
    cases hx'
    exact ⟨b, hb⟩
  have hstopped : ∀ {id : Nat} {t : CompileTask},
      (W.listed c g platform builds).session.tasks[id]? = some t →
      t.job.resource ≠ W.session.resources.size + i := fun {id t} ht hr => by
    have ht' : (W.session.install g platform builds).1.tasks[id]? = some t := ht
    rw [tasks_install] at ht'
    have hlt := (hfitting.tasks ht').lt hfitting.holdings
    omega
  have halone : ∀ {y z}, (W.listed c g platform builds).At (W.session.resources.size + i) y →
      (W.listed c g platform builds).At (W.session.resources.size + i) z → y = z := fun hy hz => by
    obtain ⟨n, j, rfl, hj, hr⟩ := at_listed hfitting hy
    obtain ⟨n', j', rfl, hj', hr'⟩ := at_listed hfitting hz
    have hn : ((W.session.install g platform builds).2.map Job.resource)[n]? =
        ((W.session.install g platform builds).2.map Job.resource)[n']? := by
      rw [List.getElem?_map, List.getElem?_map, hj, hj', Option.map_some, Option.map_some, hr, hr']
    rw [(List.getElem?_inj (by
      rw [List.length_map]
      exact (List.getElem?_eq_some_iff.1 hj).1) nodup_install).1 hn]
  rcases (hmade x.1 hf).failure_or_build hk with ⟨e, he⟩ | ⟨_, b, hb⟩
  · obtain ⟨hstate, herror⟩ := FormatBuilds.entry_of_failure he
    have hnone : ¬ (W.listed c g platform builds).Underway (W.session.resources.size + i) := by
      rintro ⟨y, hy⟩
      obtain ⟨n, j, rfl, hj, hr⟩ := at_listed hfitting hy
      obtain ⟨b, hb⟩ := hjob hj hr
      rw [FormatBuilds.failure?_of_build hb] at he
      cases he
    exact
      { generation := by rw [hresource, FormatBuilds.generation_entry]
        begun := by rw [hresource, hstate]; nofun
        program := by rw [hresource, hstate]; nofun
        error := fun _ => by rw [hresource, herror]; rfl
        valid := fun _ => by rw [hresource, hstate]; nofun
        alone := halone
        stopped := fun ht hr => absurd hr (hstopped ht)
        awaited := by rw [hresource, hstate]; nofun
        outstanding := fun hunderway => absurd hunderway hnone }
  · have hstate := FormatBuilds.entry_of_build hb
    obtain ⟨n, hn⟩ : ∃ n : Nat, (W.session.install g platform builds).2[n]? = some _ :=
      List.mem_iff_getElem?.1 (mem_install hx (congrArg (Option.map _) hb))
    have hunderway : (W.listed c g platform builds).Underway (W.session.resources.size + i) :=
      ⟨.queued c n, _, by rw [jobs_listed, if_pos rfl]; exact hn, rfl⟩
    exact
      { generation := by rw [hresource, FormatBuilds.generation_entry]
        begun := by rw [hresource, hstate]; nofun
        program := by rw [hresource, hstate]; nofun
        error := by rw [hresource, hstate]; nofun
        valid := fun _ => by rw [hresource, hstate]; nofun
        alone := halone
        stopped := fun ht hr => absurd hr (hstopped ht)
        awaited := fun _ => hunderway
        outstanding := fun _ => Or.inl (by rw [hresource, hstate]) }

/-- **The entries of a platform are listed**; the old ones are as they were. -/
theorem Minds.listed (h : W.Cooks) (hfitting : W.Fitting)
    (hmade : ∀ f ∈ builds, f.MadeFor g (W.session.graph g).definition)
    (hcaller : W.callers c = .building g platform builds) :
    Minds W (W.listed c g platform builds) := by
  have hs := hfitting.holdings
  have htasks : (W.listed c g platform builds).session.tasks = W.session.tasks :=
    tasks_install W.session g platform builds
  have hresource : ∀ {r}, r < W.session.resources.size →
      (W.listed c g platform builds).session.resource r = W.session.resource r :=
    resource_install_of_lt g platform builds
  refine ⟨(Passes.install g platform builds W.session).platforms,
    (Passes.install g platform builds W.session).marks, fun r id hid => ?_, fun {r} hr => ?_,
    fun {r} hr => ?_⟩
  · rw [htasks]
    rcases Nat.lt_or_ge r W.session.resources.size with hlt | hle
    · rw [hresource hlt] at hid
      exact h.matched r id hid
    · -- a new resource has no task
      by_cases hi : r - W.session.resources.size < (W.session.items g builds).length
      · obtain ⟨i, rfl⟩ := Nat.exists_eq_add_of_le hle
        rw [Nat.add_sub_cancel_left] at hi
        have hid' : ((W.session.install g platform builds).1.resource
            (W.session.resources.size + i)).task = some id := hid
        rw [resource_install g platform builds (List.getElem?_eq_getElem hi),
          FormatBuilds.task_entry] at hid'
        cases hid'
      · have hsize : (W.session.install g platform builds).1.resources.size ≤ r := by
          rw [size_resources_install]
          omega
        have hid' : ((W.session.install g platform builds).1.resource r).task = some id := hid
        rw [Session.resource, Array.getD_eq_getD_getElem?, Array.getElem?_eq_none hsize] at hid'
        cases hid'
  · have hlt := hs.cooked hr
    have hat : ∀ {x}, (W.listed c g platform builds).At r x ↔ W.At r x := fun {x} => by
      cases x with
      | queued c' n =>
        rw [at_queued, at_queued, jobs_listed]
        split
        · -- the caller has had no jobs, and gets those of new entries
          rename_i hc
          rw [hc, hcaller]
          constructor
          · rintro ⟨j, hj, hjr⟩
            obtain ⟨i, x, hx, hjob⟩ := exists_of_mem_install (List.mem_of_getElem? hj)
            obtain ⟨_, _, rfl⟩ := FormatBuilds.job?_eq_some hjob
            have hjr' : W.session.resources.size + i = r := hjr
            omega
          · rintro ⟨j, hj, _⟩
            cases hj
        · exact Iff.rfl
      | task id =>
        rw [at_task, at_task, htasks]
    refine .on id id (.of_eq (hresource hlt)) (fun hc => ⟨?_, by rw [hresource hlt]⟩)
      (fun hx => ⟨hat.1 hx, rfl⟩) (fun _ hx => hat.2 hx) fun {id t'} ht' hj hstop _ => ?_
    · obtain ⟨i, name, p, hl, hopen, hmem⟩ := hc
      rcases lists_install _ _ _ hl with hl | ⟨_, _, rfl⟩
      · refine ⟨i, name, p, hl, ?_, ?_⟩
        · have hgraph := graph_install W.session g platform builds i
          have hopen' : ((W.session.install g platform builds).1.graph i).closed = false := hopen
          rw [hgraph] at hopen'
          split at hopen'
          · exact hopen'
          · exact hopen'
        · rwa [← platformResources_install_of_lt g platform builds (hfitting.listing.lt hl)]
      · have hmem' : r ∈ (W.session.install g platform builds).1.platformResources
            W.session.platforms.size := hmem
        rw [platformResources_install, List.mem_range'_1] at hmem'
        omega
    · rw [htasks] at ht'
      exact ⟨t', ht', hj, hstop⟩
  · rcases isCooked_install _ _ _ hr with hold | ⟨hle, hlt⟩
    · exact Or.inl hold
    · obtain ⟨i, rfl⟩ := Nat.exists_eq_add_of_le hle
      exact Or.inr (.listed hfitting hmade (by omega))

end

/-! ## Every section -/

theorem rests_settle (W : Workshop) (g : Nat) (plan : Plan) :
    W.session.Rests (W.settle g plan).session := by
  unfold settle
  split
  · exact .present W.session g plan
  · exact .refl _

theorem rests_strike (W : Workshop) (j : Job) (n : Nat) (plan : Plan) :
    W.session.Rests (W.strike j n plan).session := by
  unfold strike
  split
  · exact (Rests.strike W.session j).trans
      (rests_settle { W with session := W.session.strike j } _ _)
  · exact .refl _

theorem rests_finish (W : Workshop) (g : Nat) (plan : Plan) :
    W.session.Rests (W.finish g plan).session := by
  unfold finish
  split
  · exact .present W.session g plan
  · exact .refl _

/-- **What every section does to entries**, if compilers are honest. -/
theorem Step.minds (hstep : Step d W W') (hfitting : W.Fitting) (hbuilt : W.Built)
    (hhonest : W.honest = true) (h : W.Cooks) : Minds W W' := by
  have hs := hfitting.holdings
  have hl := hfitting.listing
  cases hstep with
  | aside haside => exact .aside h haside
  | collect => exact .rests h (.of_eq rfl rfl rfl rfl rfl) fun _ => rfl
  | @turn _ c x hturn =>
    refine .rests h (.refl _) (jobs_enter rfl ?_)
    generalize W.callers c = y at hturn
    cases hturn with
    | quit _ _ => rfl
    | inline _ => rfl
    | cleared => rfl
    | start => rfl
    | refuse _ _ => rfl
  | execute _ => exact .rests h (.of_eq rfl rfl rfl rfl rfl) fun _ => rfl
  | @handOver _ p _ =>
    exact .rests h (.releaseProxy W.session (W.session.proxies.getD p default).graph (some p))
      fun _ => rfl
  | @drop _ id t ht hlanding hdrop =>
    refine .ends h ht rfl (.endTask ..) rfl (fun hid => hid) (fun _ _ => rfl)
      fun hr hcompiling => ?_
    rcases hdrop with hcancelled | hnot
    · exact (h.entry hr).stopped ht rfl (Or.inl hcancelled) hcompiling
    · refine hnot ⟨?_, hcompiling⟩
      rw [(h.entry hr).generation, generation_of_isCooked (hfitting.tasks ht) hr]
  | @abandon _ id t returned ht hlanding hcancelled hresult =>
    have hresource : ∀ r, ((W.session.modifyResource t.job.resource fun x =>
        x.abandon t.job.generation).endTask id).resource r =
          if t.job.resource = r ∧ t.job.resource < W.session.resources.size then
            (W.session.resource r).abandon t.job.generation else W.session.resource r :=
      fun r => resource_modifyResource ..
    have hnot : W.session.IsCooked t.job.resource →
        (W.session.resource t.job.resource).state ≠ .compiling := fun hr =>
      (h.entry hr).stopped ht rfl (Or.inl (hcancelled hhonest))
    refine .ends h ht rfl (Tends.trans (.modifyResource _ _ fun x =>
      (Resource.Settles.abandon x _).toEases) (.endTask ..)) rfl (fun {r i} hid => ?_)
      (fun r hr => ?_) hnot
    · have hid' := hid
      dsimp only at hid'
      rw [hresource] at hid'
      split at hid'
      · rw [(Resource.Lapses.abandon _ _).told hid'] at hid'
        exact hid'
      · exact hid'
    · dsimp only
      rw [hresource]
      split
      · rename_i hr'
        rw [hr'.1] at hnot
        rw [Resource.abandon, if_neg fun hc => hnot hr (by simp_all)]
      · rfl
  | @deliver _ id t returned program result ht hlanding hawaits hresult =>
    have hs' :
        W.session.Tends ((W.session.deliver t.job t.job.generation program result).endTask id) :=
      Tends.trans (.modifyResource _ _ fun x => (Resource.Settles.finish x _ _ _).toEases)
        (.endTask ..)
    have hresource : ∀ r, ((W.session.deliver t.job t.job.generation program result).endTask
        id).resource r = if t.job.resource = r ∧ t.job.resource < W.session.resources.size then
          ((W.session.resource r).finish t.job.generation program result).2
          else W.session.resource r := fun r => resource_modifyResource ..
    refine ⟨hs'.passes.platforms, hs'.passes.marks, h.matched.next hs'.work fun {r i} hid => ?_,
      fun {r} hr => ?_, fun hr => Or.inl (hs'.isCooked hr)⟩
    · have hid' := hid
      dsimp only at hid'
      rw [hresource] at hid'
      split at hid'
      · rw [(Resource.Lapses.finish _ _ _ _).told hid'] at hid'
        exact hid'
      · exact hid'
    · by_cases hj : t.job.resource = r
      · subst hj
        refine .delivers (h.entry hr) rfl rfl ht rfl hawaits.2 ?_
          (jobResult_program_or_error hresult)
        dsimp only
        rw [hresource, if_pos ⟨rfl, hs.cooked hr⟩,
          generation_of_isCooked (hfitting.tasks ht) hr]
      · refine .ends id rfl rfl ?_ (fun hc => hc.tends hs') fun ht' hj' => ?_
        · dsimp only
          rw [hresource, if_neg fun hj' => hj hj'.1]
        · rw [ht] at ht'
          cases ht'
          exact absurd hj' hj
  | @strike _ id t n plan program r _ _ _ =>
    refine .rests h (rests_strike W t.job n plan) fun c => ?_
    exact congrArg (fun f => (f c).jobs) (callers_strike W t.job n plan)
  | tellUpdate _ _ _ => exact .rests h (.tellUpdate ..) fun _ => rfl
  | tellCook _ _ _ => exact .rests h (.tellCook ..) fun _ => rfl
  | @begin _ c g hidle hg haccepts =>
    refine .takes (W.session.begun g) ((W.session.begun g).graphResources g) h rfl rfl rfl
      (.begun ..) (jobs_enter rfl (by rw [hidle]; rfl)) fun {r} hr _ hmem => ?_
    obtain ⟨k, ho⟩ := mem_graphResources.1 hmem
    exact hs.uncooked (owns_begun.1 ho) hr
  | @prepare _ c g n d p s' hwaiting _ hopen hn hp =>
    have hg : g < W.session.graphs.size := (hfitting.callers c).graph (by rw [hwaiting]; rfl)
    obtain ⟨ho, _, hjobs⟩ := jobFits_preparedJobs hs hg hopen hp
    refine .overhauls h hs ho fun {c' i j} hr => ?_
    by_cases hc : c' = c
    · rw [hc, callers_enter_self, hwaiting]
      refine ⟨fun hj => ?_, fun hj => by cases hj⟩
      exact absurd hr (hjobs j (List.mem_of_getElem? hj)).2.2.uncooked
    · rw [callers_enter_of_ne _ hc]
  | @stop _ c g n d e s' hwaiting _ hopen hn hp =>
    have hg : g < W.session.graphs.size := (hfitting.callers c).graph (by rw [hwaiting]; rfl)
    have ho := overhauls_stopped hs hg hp
    refine .overhauls h hs ho fun {c' i j} _ => ?_
    rw [jobs_enter rfl (by rw [hwaiting]; rfl)]
  | report hcaller => exact .rests h (.reportFailure ..) (jobs_enter rfl (by rw [hcaller]; rfl))
  | enqueue hcaller => exact .enqueue h hcaller
  | register hcaller => exact .register h hfitting hcaller
  | @finishUpdate _ c g plan hcaller _ =>
    exact .rests h (rests_finish W g plan) (jobs_enter (callers_finish W g plan)
      (by rw [hcaller]; rfl))
  | delist hidle _ _ _ =>
    exact .rests h ⟨.delist .., rfl, rfl⟩ (jobs_enter rfl (by rw [hidle]; rfl))
  | delistAll hidle _ _ =>
    exact .rests h ⟨.delistAll .., rfl, rfl⟩ (jobs_enter rfl (by rw [hidle]; rfl))
  | @chore _ c g next x chores hcaller =>
    have hx := (hfitting.callers c).chores x (by rw [hcaller]; exact List.mem_cons_self ..)
    have hjobs : ∀ c', ((Workshop.enter { W with session := x.apply W.session } c
        (.clearing g next chores)).callers c').jobs = (W.callers c').jobs :=
      jobs_enter rfl (by rw [hcaller]; rfl)
    have hs' := Tends.chore W.session x
    cases x with
    | cancel p i =>
      refine .takes W.session [i] h rfl rfl rfl hs' hjobs fun _ hc hmem => ?_
      cases List.mem_singleton.1 hmem
      exact hx.not_current hl rfl (hc.tends hs')
    | silence p => exact .rests h ⟨hs', rfl, rfl⟩ hjobs
    | discard p i =>
      refine .discards [i] h (fun r => ?_) rfl hs' hjobs fun hc hmem => ?_
      · exact resource_foldl_invalidate [i] W.session r
      · cases List.mem_singleton.1 hmem
        exact hx.not_current hl rfl (hc.tends hs')
  | @build _ c g platform builds format hcaller _ _ =>
    refine .rests h (.of_reads (.buildFormats [format] W.session)) (jobs_enter rfl ?_)
    rw [hcaller]
    unfold Caller.built
    split
    · rfl
    · rfl
  | @install _ c g platform builds hcaller _ _ =>
    exact .listed h hfitting (hbuilt.callers c (by rw [hcaller]; rfl)).2 hcaller
  | finishCook hcaller =>
    exact .rests h (.announceReady ..) (jobs_enter rfl (by rw [hcaller]; rfl))
  | @beginClose _ c g hidle hg _ hopen =>
    have hshut := Tends.shut W.session g
    refine .takes (W.session.shut g) ((W.session.shut g).allResources g) h rfl rfl rfl
      (.shutDown ..) (jobs_enter rfl (by rw [hidle]; rfl)) fun _ hc => ?_
    refine Current.not_mem_allResources (hs.frame hshut.toFrame)
      (hl.of_marks hshut.marks hshut.listed)
      ?_ (hc.tends (.foldl_takeTask ..))
    rw [shut, graph_modifyGraph, if_pos ⟨rfl, hg⟩]
  | @vacate _ c g hcaller =>
    have hs' := Tends.vacate W.session g
    refine .discards (W.session.allResources g) h (fun r => ?_) ?_ hs'
      (jobs_enter rfl (by rw [hcaller]; rfl)) fun hc => ?_
    · have hresource := resource_foldl_invalidate (W.session.allResources g) W.session r
      obtain ⟨_, _, _, _, heq⟩ := vacate_eq W.session g
      dsimp only [enter]
      rw [heq]
      rw [foldl_invalidate] at hresource
      exact hresource
    · obtain ⟨_, _, _, _, heq⟩ := vacate_eq W.session g
      dsimp only [enter]
      rw [heq]
    · refine (hc.tends hs').not_mem_allResources hs hl ((hfitting.callers c).closing ?_)
      rw [hcaller]
      rfl
  | retract hcaller =>
    exact .rests h ⟨.retract .., rfl, rfl⟩ (jobs_enter rfl (by rw [hcaller]; rfl))

theorem Step.honest (hstep : Step d W W') : W'.honest = W.honest := by
  cases hstep with
  | @strike _ id t n plan program r _ _ _ =>
    dsimp only
    unfold Workshop.strike settle
    split
    · split
      · rfl
      · rfl
    · rfl
  | @finishUpdate _ c g plan _ _ =>
    unfold finish
    dsimp only [enter]
    split
    · rfl
    · rfl
  | _ => rfl

theorem cooks_start (files : FileStore) (scripts : List Script) (limit : Int) (honest : Bool) :
    (start files scripts limit honest).Cooks where
  matched r id hid := by cases hid
  entry hr := by
    obtain ⟨p, hr⟩ := hr
    cases hr

/-- **Entries are in order** in all workshops whose compilers are honest. -/
theorem Reachable.cooks (h : W.Reachable) (hhonest : W.honest = true) : W.Cooks := by
  refine (h.induct (motive := fun W => W.Built ∧ (W.honest = true → W.Cooks))
    (fun files scripts limit honest => ⟨⟨fun _ => Caller.hasBuilt_of_none rfl⟩,
      fun _ => cooks_start files scripts limit honest⟩)
    fun hfitting ⟨hbuilt, hcooks⟩ hstep => ⟨hbuilt.step hfitting hstep,
      fun hhonest => ?_⟩).2.2 hhonest
  rw [hstep.honest] at hhonest
  exact (hcooks hhonest).minds (hstep.minds hfitting hbuilt hhonest (hcooks hhonest))

end

end Workshop

end KernelGraph
