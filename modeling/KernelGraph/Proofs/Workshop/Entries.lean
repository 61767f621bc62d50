/-
  The entries of a platform cache.

  For each format, each kernel with a source gets an entry with a resource of its own.  The entry of
  a format without a compiler, or of a kernel that could not be built for the format, has failed at
  once; that of any other kernel waits for a job.
-/
import KernelGraph.Proofs.Workshop.Sections

namespace KernelGraph.Session

namespace FormatBuilds

/-- The level of the format's entries. -/
def level (f : FormatBuilds) : FeatureLevel := (f.compiler.map Compiler.level).getD .sm5

/-- Why the entry of a kernel fails before anything is compiled, if it does. -/
def failure? (f : FormatBuilds) (k : Nat) : Option ResultError :=
  match f.compiler, f.builds.lookup k with
  | none, _ => some (.format ⟨f.format⟩)
  | some _, some (.error e) => some (.build e)
  | some _, _ => none

/-- The build that is compiled for the entry of a kernel, if there is one. -/
def build? (f : FormatBuilds) (k : Nat) : Option KernelBuild :=
  match f.compiler, f.builds.lookup k with
  | some _, some (.ok b) => some b
  | _, _ => none

/-- The resource of an entry when the entry is made. -/
def entry (f : FormatBuilds) (k : Nat) : Resource :=
  match f.failure? k, f.build? k with
  | some e, _ => { format := f.format, level := f.level : Resource }.fail none 0
      { format := f.format, level := f.level, error := some e, diagnostics := [e.message] }
  | none, some b => { format := f.format, level := f.level : Resource }.begin b 0
  | none, none => { format := f.format, level := f.level }

/-- The job of an entry, if it waits for one. -/
def job? (g platform : Nat) (f : FormatBuilds) (x : Nat × Kernel × KernelSource) (r : Nat) :
    Option Job :=
  (f.build? x.1).map fun build =>
    { graph := g, kernel := x.1, name := x.2.1.name, isDefault := x.2.2.isDefault, resource := r
      build, format := f.format, kind := .cook platform }

section
variable {f : FormatBuilds} {k : Nat}

theorem generation_entry (f : FormatBuilds) (k : Nat) : (f.entry k).generation = 0 := by
  unfold entry
  split
  · rfl
  · rfl
  · rfl

theorem format_entry (f : FormatBuilds) (k : Nat) : (f.entry k).format = f.format := by
  unfold entry
  split
  · rfl
  · rfl
  · rfl

theorem task_entry (f : FormatBuilds) (k : Nat) : (f.entry k).task = none := by
  unfold entry
  split
  · rfl
  · rfl
  · rfl

/-- The entry fails with the reason. -/
theorem entry_of_failure {e : ResultError} (h : f.failure? k = some e) :
    (f.entry k).state = .failed ∧ (f.entry k).result.error = some e := by
  unfold entry
  rw [h]
  exact ⟨rfl, rfl⟩

theorem failure?_of_build {b : KernelBuild} (h : f.build? k = some b) : f.failure? k = none := by
  unfold build? at h
  unfold failure?
  split at h
  · rename_i hc hb
    rw [hc, hb]
  · cases h

/-- The entry waits for its compile. -/
theorem entry_of_build {b : KernelBuild} (h : f.build? k = some b) :
    (f.entry k).state = .compiling := by
  unfold entry
  rw [failure?_of_build h, h]
  rfl

end

end FormatBuilds

/-- The formats with the kernels: what a platform has an entry for. -/
def entryItems (formats : List FormatBuilds) (kernels : List (Nat × Kernel × KernelSource)) :
    List (FormatBuilds × Nat × Kernel × KernelSource) :=
  formats.flatMap fun f => kernels.map fun x => (f, x)

theorem mem_entryItems {formats : List FormatBuilds} {kernels : List (Nat × Kernel × KernelSource)}
    {x : FormatBuilds × Nat × Kernel × KernelSource} (h : x ∈ entryItems formats kernels) :
    x.1 ∈ formats ∧ x.2 ∈ kernels := by
  obtain ⟨f, hf, hx⟩ := List.mem_flatMap.1 h
  obtain ⟨y, hy, rfl⟩ := List.mem_map.1 hx
  exact ⟨hf, hy⟩

/-- The kernels with resources that begin with a number. -/
def platformEntries (n : Nat) (items : List (FormatBuilds × Nat × Kernel × KernelSource)) :
    List (Nat × Nat) :=
  (items.zipIdx n).map fun x => (x.1.2.1, x.2)

/-- The jobs of entries whose resources begin with a number. -/
def entryJobs (g platform n : Nat) (items : List (FormatBuilds × Nat × Kernel × KernelSource)) :
    List Job :=
  (items.zipIdx n).filterMap fun x => x.1.1.job? g platform x.1.2 x.2

/-- The resources of the entries are numbered one after the other. -/
theorem map_snd_platformEntries (n : Nat)
    (items : List (FormatBuilds × Nat × Kernel × KernelSource)) :
    (platformEntries n items).map Prod.snd = List.range' n items.length := by
  rw [platformEntries, List.map_map, ← List.zipIdx_map_snd n items]
  rfl

/-- A job is that of an entry. -/
theorem exists_of_mem_entryJobs {g platform n : Nat}
    {items : List (FormatBuilds × Nat × Kernel × KernelSource)} {j : Job}
    (h : j ∈ entryJobs g platform n items) :
    ∃ (i : Nat) (x : FormatBuilds × Nat × Kernel × KernelSource),
      items[i]? = some x ∧ x.1.job? g platform x.2 (n + i) = some j := by
  obtain ⟨⟨x, r⟩, hx, hj⟩ := List.mem_filterMap.1 h
  obtain ⟨hle, hget⟩ := List.mk_mem_zipIdx_iff_le_and_getElem?_sub.1 hx
  refine ⟨r - n, x, hget, ?_⟩
  rw [Nat.add_sub_cancel' hle]
  exact hj

theorem FormatBuilds.job?_eq_some {f : FormatBuilds} {g platform r : Nat}
    {x : Nat × Kernel × KernelSource} {j : Job} (h : f.job? g platform x r = some j) :
    ∃ build, f.build? x.1 = some build ∧ j =
      { graph := g, kernel := x.1, name := x.2.1.name, isDefault := x.2.2.isDefault, resource := r
        build, format := f.format, kind := .cook platform } := by
  obtain ⟨build, hbuild, hj⟩ := Option.map_eq_some_iff.1 h
  exact ⟨build, hbuild, hj.symm⟩

theorem push_modify_size {α : Type} (a : Array α) (x : α) (f : α → α) (i : Nat) (h : i = a.size) :
    (a.push x).modify i f = a.push (f x) := by
  subst h
  apply Array.ext_getElem?
  intro j
  rw [Array.getElem?_modify, Array.getElem?_push, Array.getElem?_push]
  by_cases hj : a.size = j
  · rw [if_pos hj, if_pos hj.symm, if_pos hj.symm]
    rfl
  · rw [if_neg hj, if_neg (Ne.symm hj), if_neg (Ne.symm hj)]

theorem modify_eq_self {α : Type} (a : Array α) (i : Nat) {f : α → α} (h : ∀ x, f x = x) :
    a.modify i f = a := by
  obtain rfl : f = fun x => x := funext h
  apply Array.ext_getElem?
  intro j
  rw [Array.getElem?_modify]
  split
  · rw [Option.map_id']
  · rfl

/-- An entry is made with its resource, and perhaps with a job. -/
theorem makeEntry_eq (g platform : Nat) (f : FormatBuilds) (state : Session × List Job) (k : Nat)
    (kernel : Kernel) (source : KernelSource) : ∃ metrics log fatals,
      makeEntry g platform f state k kernel source =
        ({ state.1 with
            resources := state.1.resources.push (f.entry k)
            platforms := state.1.platforms.modify platform fun y =>
              { y with entries := y.entries ++ [(k, state.1.resources.size)] }
            metrics, log, fatals },
          state.2 ++ (f.job? g platform (k, kernel, source) state.1.resources.size).toList) := by
  unfold makeEntry
  extract_lets level
  split
  rename_i s jobs _
  extract_lets r made failed
  -- whatever happens to the new resource happens to the one that was pushed last
  have hlast : ∀ h : Resource → Resource, made.modifyResource r h = { made with
      resources := s.resources.push (h { format := f.format, level }) } := fun h => by
    unfold modifyResource
    rw [push_modify_size _ _ _ _ rfl]
  have hfailed : ∀ e, f.failure? k = some e → f.build? k = none → ∃ metrics log fatals,
      failed e = ({ made with resources := s.resources.push (f.entry k), metrics, log, fatals },
        jobs) := by
    intro e he hb
    have hbooks : (made.modifyResource r fun x => x.fail none 0
        { format := f.format, level, error := some e, diagnostics := [e.message] }).Books
          (failed e).1 := (Books.countCompile _ _).trans (.cookFailed _ _ _ _ _ _)
    rw [hlast] at hbooks
    obtain ⟨metrics, log, fatals, heq⟩ := hbooks
    refine ⟨metrics, log, fatals, Prod.ext (heq.trans ?_) rfl⟩
    simp only [FormatBuilds.entry, he]
    rfl
  split
  · rename_i hc
    obtain ⟨metrics, log, fatals, heq⟩ := hfailed (.format ⟨f.format⟩)
      (by simp only [FormatBuilds.failure?, hc]) (by simp only [FormatBuilds.build?, hc])
    refine ⟨metrics, log, fatals, heq.trans ?_⟩
    simp only [FormatBuilds.job?, FormatBuilds.build?, hc, Option.map_none, Option.toList_none,
      List.append_nil]
    rfl
  · rename_i c e hc hb
    obtain ⟨metrics, log, fatals, heq⟩ := hfailed (.build e)
      (by simp only [FormatBuilds.failure?, hc, hb]) (by simp only [FormatBuilds.build?, hc, hb])
    refine ⟨metrics, log, fatals, heq.trans ?_⟩
    simp only [FormatBuilds.job?, FormatBuilds.build?, hc, hb, Option.map_none, Option.toList_none,
      List.append_nil]
    rfl
  · rename_i c b hc hb
    refine ⟨s.metrics, s.log, s.fatals, ?_⟩
    rw [hlast]
    simp only [FormatBuilds.entry, FormatBuilds.failure?,
      FormatBuilds.job?, FormatBuilds.build?, hc,
      hb, Option.map_some, Option.toList_some]
    rfl
  · rename_i c hc hb
    refine ⟨s.metrics, s.log, s.fatals, ?_⟩
    simp only [FormatBuilds.entry, FormatBuilds.failure?,
      FormatBuilds.job?, FormatBuilds.build?, hc,
      hb, Option.map_none, Option.toList_none, List.append_nil]
    rfl

theorem entryJobs_cons (g platform n : Nat) (x : FormatBuilds × Nat × Kernel × KernelSource)
    (items : List (FormatBuilds × Nat × Kernel × KernelSource)) :
    entryJobs g platform n (x :: items) =
      (x.1.job? g platform x.2 n).toList ++ entryJobs g platform (n + 1) items := by
  unfold entryJobs
  rw [List.zipIdx_cons, List.filterMap_cons]
  cases x.1.job? g platform x.2 n with
  | none => rfl
  | some j => rfl

/-- The jobs are those of different entries, in the order of these. -/
theorem map_resource_entryJobs (g platform n : Nat)
    (items : List (FormatBuilds × Nat × Kernel × KernelSource)) :
    ((entryJobs g platform n items).map Job.resource).Sublist (List.range' n items.length) := by
  induction items generalizing n with
  | nil => exact .refl _
  | cons x items ih =>
    rw [entryJobs_cons, List.map_append, List.length_cons, List.range'_succ]
    cases hj : x.1.job? g platform x.2 n with
    | none => exact (ih (n + 1)).cons n
    | some j =>
      obtain ⟨_, _, rfl⟩ := FormatBuilds.job?_eq_some hj
      exact (ih (n + 1)).cons_cons n

/-- The entries of all formats are made. -/
theorem foldl_makeEntry (g platform : Nat)
    (items : List (FormatBuilds × Nat × Kernel × KernelSource)) (state : Session × List Job) :
    ∃ metrics log fatals, items.foldl (fun state x =>
        makeEntry g platform x.1 state x.2.1 x.2.2.1 x.2.2.2) state =
      ({ state.1 with
          resources := state.1.resources ++ (items.map fun x => x.1.entry x.2.1).toArray
          platforms := state.1.platforms.modify platform fun y => { y with
            entries := y.entries ++ platformEntries state.1.resources.size items }
          metrics, log, fatals },
        state.2 ++ entryJobs g platform state.1.resources.size items) := by
  induction items generalizing state with
  | nil =>
    refine ⟨state.1.metrics, state.1.log, state.1.fatals, ?_⟩
    simp [entryJobs, platformEntries, modify_eq_self]
  | cons x items ih =>
    obtain ⟨f, k, kernel, source⟩ := x
    obtain ⟨metrics, log, fatals, heq⟩ := makeEntry_eq g platform f state k kernel source
    obtain ⟨metrics', log', fatals', hrest⟩ := ih (makeEntry g platform f state k kernel source)
    refine ⟨metrics', log', fatals', ?_⟩
    rw [List.foldl_cons, hrest, heq, entryJobs_cons]
    simp [platformEntries, modify_modify]

/-- The entries are made format by format, and for each of them kernel by kernel. -/
theorem foldl_formats (g platform : Nat) (formats : List FormatBuilds)
    (kernels : List (Nat × Kernel × KernelSource)) (state : Session × List Job) :
    ∃ metrics log fatals, formats.foldl (fun state f => kernels.foldl
        (fun state (k, kernel, source) => makeEntry g platform f state k kernel source) state)
        state =
      ({ state.1 with
          resources := state.1.resources ++
            ((entryItems formats kernels).map fun x => x.1.entry x.2.1).toArray
          platforms := state.1.platforms.modify platform fun y => { y with
            entries := y.entries ++
              platformEntries state.1.resources.size (entryItems formats kernels) }
          metrics, log, fatals },
        state.2 ++ entryJobs g platform state.1.resources.size (entryItems formats kernels)) := by
  obtain ⟨metrics, log, fatals, heq⟩ := foldl_makeEntry g platform
    (entryItems formats kernels) state
  refine ⟨metrics, log, fatals, Eq.trans ?_ heq⟩
  rw [entryItems, List.foldl_flatMap]
  simp only [List.foldl_map]

/-- **A platform is listed** with its entries and their jobs.  The jobs of the fallback kernel come
    first. -/
theorem install_eq (s : Session) (g : Nat) (platform : TargetPlatform)
    (formats : List FormatBuilds) : ∃ metrics log fatals, s.install g platform formats =
      ({ s with
          resources := s.resources ++ ((entryItems formats
            (s.graph g).definition.compilable).map fun x => x.1.entry x.2.1).toArray
          platforms := s.platforms.push
            { platform
              entries := platformEntries s.resources.size
                (entryItems formats (s.graph g).definition.compilable) }
          graphs := s.graphs.modify g fun x => { x with
            cook := x.cook.filter (fun e => e.1 ≠ platform.name) ++
              [(platform.name, s.platforms.size)] }
          metrics, log, fatals },
        (entryJobs g s.platforms.size s.resources.size
            (entryItems formats (s.graph g).definition.compilable)).filter Job.isDefault ++
          (entryJobs g s.platforms.size s.resources.size
            (entryItems formats (s.graph g).definition.compilable)).filter fun j =>
              !j.isDefault) := by
  obtain ⟨metrics, log, fatals, heq⟩ := foldl_formats g s.platforms.size formats
    ({ s with platforms := s.platforms.push { platform } }.graph g).definition.compilable
    ({ s with platforms := s.platforms.push { platform } }, [])
  refine ⟨metrics, log, fatals, ?_⟩
  unfold install
  dsimp only
  rw [heq]
  simp only [push_modify_size _ _ _ _ rfl, List.nil_append]
  rfl

/-! ## What listing a platform does -/

section
variable (s : Session) (g : Nat) (platform : TargetPlatform) (formats : List FormatBuilds)

/-- What the platform has entries for. -/
def items : List (FormatBuilds × Nat × Kernel × KernelSource) :=
  entryItems formats (s.graph g).definition.compilable

theorem tasks_install : (s.install g platform formats).1.tasks = s.tasks := by
  obtain ⟨_, _, _, heq⟩ := install_eq s g platform formats
  rw [heq]

theorem pools_install : (s.install g platform formats).1.pools = s.pools := by
  obtain ⟨_, _, _, heq⟩ := install_eq s g platform formats
  rw [heq]

theorem proxies_install : (s.install g platform formats).1.proxies = s.proxies := by
  obtain ⟨_, _, _, heq⟩ := install_eq s g platform formats
  rw [heq]

theorem commands_install : (s.install g platform formats).1.commands = s.commands := by
  obtain ⟨_, _, _, heq⟩ := install_eq s g platform formats
  rw [heq]

theorem hooks_install : (s.install g platform formats).1.hooks = s.hooks := by
  obtain ⟨_, _, _, heq⟩ := install_eq s g platform formats
  rw [heq]

theorem size_resources_install : (s.install g platform formats).1.resources.size =
    s.resources.size + (s.items g formats).length := by
  obtain ⟨_, _, _, heq⟩ := install_eq s g platform formats
  rw [heq]
  simp [items]

theorem size_platforms_install : (s.install g platform formats).1.platforms.size =
    s.platforms.size + 1 := by
  obtain ⟨_, _, _, heq⟩ := install_eq s g platform formats
  rw [heq]
  exact Array.size_push _

theorem graph_install (i : Nat) : (s.install g platform formats).1.graph i =
    if g = i ∧ g < s.graphs.size then
      { s.graph i with cook := (s.graph i).cook.filter (fun e => e.1 ≠ platform.name) ++
        [(platform.name, s.platforms.size)] }
    else s.graph i := by
  obtain ⟨_, _, _, heq⟩ := install_eq s g platform formats
  rw [heq]
  exact graph_modifyGraph s g (fun x => { x with
    cook := x.cook.filter (fun e => e.1 ≠ platform.name) ++ [(platform.name, s.platforms.size)] }) i

variable {s}

theorem resource_install_of_lt {r : Nat} (h : r < s.resources.size) :
    (s.install g platform formats).1.resource r = s.resource r := by
  obtain ⟨_, _, _, heq⟩ := install_eq s g platform formats
  rw [heq, Session.resource, Session.resource, Array.getD_eq_getD_getElem?,
    Array.getD_eq_getD_getElem?]
  dsimp only
  rw [Array.getElem?_append_left h]

/-- The resource of a new entry. -/
theorem resource_install {i : Nat} {x : FormatBuilds × Nat × Kernel × KernelSource}
    (h : (s.items g formats)[i]? = some x) :
    (s.install g platform formats).1.resource (s.resources.size + i) = x.1.entry x.2.1 := by
  obtain ⟨_, _, _, heq⟩ := install_eq s g platform formats
  rw [heq, Session.resource, Array.getD_eq_getD_getElem?]
  dsimp only
  rw [Array.getElem?_append_right (Nat.le_add_right _ _), Nat.add_sub_cancel_left,
    List.getElem?_toArray, List.getElem?_map]
  unfold items at h
  rw [h]
  rfl

theorem platform_install_of_lt {p : Nat} (h : p < s.platforms.size) :
    (s.install g platform formats).1.platforms.getD p default = s.platforms.getD p default := by
  obtain ⟨_, _, _, heq⟩ := install_eq s g platform formats
  rw [heq, Array.getD_eq_getD_getElem?, Array.getD_eq_getD_getElem?]
  dsimp only
  rw [Array.getElem?_push, if_neg (Nat.ne_of_lt h)]

theorem platformResources_install_of_lt {p : Nat} (h : p < s.platforms.size) :
    (s.install g platform formats).1.platformResources p = s.platformResources p := by
  rw [platformResources, platformResources, platform_install_of_lt _ _ _ h]

variable (s)

theorem platform_install :
    (s.install g platform formats).1.platforms.getD s.platforms.size default =
    { platform, entries := platformEntries s.resources.size (s.items g formats) } := by
  obtain ⟨_, _, _, heq⟩ := install_eq s g platform formats
  rw [heq, Array.getD_eq_getD_getElem?]
  dsimp only
  rw [Array.getElem?_push_size]
  rfl

theorem platformResources_install :
    (s.install g platform formats).1.platformResources s.platforms.size =
      List.range' s.resources.size (s.items g formats).length := by
  rw [platformResources, platform_install]
  exact map_snd_platformEntries _ _

variable {s g platform formats}

/-- Each job is that of an entry, of the same format and kernel. -/
theorem exists_of_mem_install {j : Job} (h : j ∈ (s.install g platform formats).2) :
    ∃ (i : Nat) (x : FormatBuilds × Nat × Kernel × KernelSource),
      (s.items g formats)[i]? = some x ∧
        x.1.job? g s.platforms.size x.2 (s.resources.size + i) = some j := by
  obtain ⟨_, _, _, heq⟩ := install_eq s g platform formats
  rw [heq] at h
  rcases List.mem_append.1 h with h | h
  · exact exists_of_mem_entryJobs (List.mem_of_mem_filter h)
  · exact exists_of_mem_entryJobs (List.mem_of_mem_filter h)

/-- An entry that waits for a job has one. -/
theorem mem_install {i : Nat} {x : FormatBuilds × Nat × Kernel × KernelSource} {j : Job}
    (hx : (s.items g formats)[i]? = some x)
    (hj : x.1.job? g s.platforms.size x.2 (s.resources.size + i) = some j) :
    j ∈ (s.install g platform formats).2 := by
  obtain ⟨_, _, _, heq⟩ := install_eq s g platform formats
  have hmem : j ∈ entryJobs g s.platforms.size s.resources.size (s.items g formats) := by
    refine List.mem_filterMap.2 ⟨(x, s.resources.size + i), ?_, hj⟩
    exact List.mk_mem_zipIdx_iff_le_and_getElem?_sub.2
      ⟨Nat.le_add_right _ _, by rw [Nat.add_sub_cancel_left, hx]⟩
  rw [heq, List.mem_append, List.mem_filter, List.mem_filter]
  cases hdefault : j.isDefault with
  | true => exact Or.inl ⟨hmem, rfl⟩
  | false => exact Or.inr ⟨hmem, rfl⟩

/-- No entry has two jobs. -/
theorem nodup_install : ((s.install g platform formats).2.map Job.resource).Nodup := by
  obtain ⟨_, _, _, heq⟩ := install_eq s g platform formats
  rw [heq]
  refine (List.Perm.nodup_iff (List.Perm.map Job.resource
    (List.filter_append_perm Job.isDefault _))).2 ?_
  exact (map_resource_entryJobs ..).nodup List.nodup_range'

end

end KernelGraph.Session
