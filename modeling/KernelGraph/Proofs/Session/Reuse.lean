/-
  Edits elsewhere in a graph.

  An update has left a kernel compiled, and since then the rest of its graph was edited:

  1. The kernel is built alike, since the graphs are the `SameAt` it, if the registry gives the same
     digest of the kernel wrapper (`Edited.builds`).  It need not do so when sources are not edited:
     a registry may remember the digest of a file that its parent has replaced
     (`not_result_build_elsewhere`).

  2. Its resource still has a program that can be reused for this build (`Run.reuses`).  So the next
     synchronous update leaves the program alone (`Updated.spared`).

  3. It is the program that the first update left (`Run.slotProgram_later`), and, where that update
     waited for its compiles, the one that it published (`Updated.settled`).
-/
import KernelGraph.Proofs.Confinement
import KernelGraph.Proofs.KeyEdits
import KernelGraph.Proofs.Session.Agreement
import KernelGraph.Proofs.Session.Lineage
import KernelGraph.Proofs.Session.Serving

namespace KernelGraph

/-! ## Builds -/

namespace Graph

variable {g : Graph} {registry : Nat} {d : Dialect} {format : String} {wrapper : Option Digest}
  {shown : String → Option String} {files files' : FileStore} {k : Nat}

theorem mem_compilable_of_source? (h : (g.source? k).isSome) :
    k ∈ g.compilable.map Prod.fst := by
  obtain ⟨s, hs⟩ := Option.isSome_iff_exists.1 h
  obtain ⟨kernel, hkernel, hsource⟩ := Option.bind_eq_some_iff.1 hs
  have helement := Option.join_eq_some_iff.1 hkernel
  rw [elementAt?_natCast] at helement
  refine List.mem_map.2 ⟨(k, kernel, s), List.mem_filterMap.2 ⟨(some kernel, k), ?_, ?_⟩, rfl⟩
  · exact List.mem_zipIdx_iff_getElem?.2 helement
  · dsimp only
    rw [Option.bind_some, hsource, Option.map_some]

/-- A kernel with a source is among those that are built. -/
theorem exists_mem_buildAll (h : (g.source? k).isSome) : ∃ built,
    (k, built) ∈ g.buildAll registry d format g.compilable files := by
  have hmem := mem_compilable_of_source? h
  rw [← g.map_fst_buildAll registry d format g.compilable files] at hmem
  obtain ⟨⟨k, built⟩, hbuilt, rfl⟩ := List.mem_map.1 hmem
  exact ⟨built, hbuilt⟩

/-- In both stores the registry gives the same digest of the kernel wrapper, or none, and the
    built-in registry shows the same sources. -/
structure SameAnswers (registry : Nat) (format : String) (files files' : FileStore) : Prop where
  digest : (files'.digest registry VirtualPath.kernelWrapper format).1.toOption =
    (files.digest registry VirtualPath.kernelWrapper format).1.toOption
  builtin : files'.source? Builtin.registryId = files.source? Builtin.registryId

theorem SameAnswers.refl (registry : Nat) (format : String) (files : FileStore) :
    SameAnswers registry format files files := ⟨rfl, rfl⟩

/-- That is so where the contents of the registries are the same. -/
theorem SameAnswers.of_sameContents (h : files.SameContents registry files' registry)
    (hbuiltin : files'.source? Builtin.registryId = files.source? Builtin.registryId) :
    SameAnswers registry format files files' :=
  ⟨h.toOption_digest _ _, hbuiltin⟩

theorem SameAnswers.answers (h : SameAnswers registry format files files')
    (hfiles' : files'.Reachable) (hanswers : Answers registry format wrapper shown files) :
    Answers registry format wrapper shown files' where
  holds := hfiles'.holds registry
  wrapper := h.digest.trans hanswers.wrapper
  shows := ⟨hfiles'.current_builtin, h.builtin.trans hanswers.shows.source⟩

end Graph

namespace Session

open KernelGraph.Graph (Alike Answers SameAnswers)
open KernelGraph.VirtualPath (kernelWrapper)

section
variable {H : List Started} {s s' s₁ s₂ s₃ t : Session} {g k r : Nat} {q : Prepared}
  {others calls : List HookCall} {x : RenderProxy} {built : Except GraphError KernelBuild}
  {G G' : Graph} {sync : Bool}

/-! ## Since an update -/

/-- An update of the graph `g` has returned when it was `G`.  Since then it was edited to `G'`, and
    anything else may have happened, except that it was updated or closed. -/
structure Edited (G G' : Graph) (s : Session) (g : Nat) (sync : Bool) (s₁ s₂ : Session) : Prop where
  before : (s.graph g).definition = G
  free : (s.graph g).locked = false
  update : s.update g sync = (.ok (), s₁)
  later : s₁.Later s₂
  generation : (s₂.graph g).generation = (s₁.graph g).generation
  after : (s₂.graph g).definition = G'
  dialect : s₂.dialect g = s.dialect g

theorem Later.update {out : Except GraphError Unit} (hg : g < s.graphs.size)
    (hfree : (s.graph g).locked = false) (hupdate : s.update g sync = (out, s')) : s.Later s' := by
  have hlater : s.Later (s.update g sync).2 := Later.refl.step (.update g sync) (.update hg hfree)
  rw [hupdate] at hlater
  exact hlater

theorem Edited.later₀ (he : Edited G G' s g sync s₁ s₂) (hg : g < s.graphs.size) :
    s.Later s₁ := .update hg he.free he.update

/-- It can be updated again. -/
theorem Edited.free₂ (he : Edited G G' s g sync s₁ s₂) (h : Run H s) (hg : g < s.graphs.size) :
    (s₂.graph g).locked = false := by
  obtain ⟨_, hrun₁⟩ := (he.later₀ hg).run h
  have hkept := hrun₁.keeps he.later (Resource.lasting_rests _ default) rfl he.generation
  exact hkept.locked.trans (h.serving hg he.free he.update).free

/-- What the registries **answer** to both updates, if they answer the same since the first one. -/
theorem Edited.answers (he : Edited G G' s g sync s₁ s₂) (h : Run H s) (hg : g < s.graphs.size)
    (hsame : SameAnswers (s.graph g).options.registry
      (s.graph g).options.format s₁.files s₂.files) :
    ∃ wrapper shown,
      Answers (s.graph g).options.registry (s.graph g).options.format wrapper shown s.files ∧
      Answers (s.graph g).options.registry (s.graph g).options.format wrapper shown s₂.files := by
  have hfiles := h.reachable_files
  have hanswers : Answers (s.graph g).options.registry (s.graph g).options.format _ _ s.files :=
    ⟨hfiles.holds _, rfl, hfiles.shows⟩
  obtain ⟨_, hrun₂⟩ := ((he.later₀ hg).trans he.later).run h
  exact ⟨_, _, hanswers, hsame.answers hrun₂.reachable_files
    ((h.serving hg he.free he.update).answers _ _ hanswers)⟩

/-- The builds of both updates are those of the graph before and after the edits. -/
theorem Edited.updateBuilds (he : Edited G G' s g sync s₁ s₂) (h : Run H s)
    (hg : g < s.graphs.size) :
    s.updateBuilds g = G.buildAll (s.graph g).options.registry (s.dialect g)
        (s.graph g).options.format G.compilable s.files ∧
      s₂.updateBuilds g = G'.buildAll (s.graph g).options.registry (s.dialect g)
        (s.graph g).options.format G'.compilable s₂.files := by
  unfold Session.updateBuilds graphBuilds
  dsimp only
  rw [he.before, he.after, he.dialect, (h.onward ((he.later₀ hg).trans he.later) g).options hg]
  exact ⟨rfl, rfl⟩

/-- **The kernel is built alike** when the graph is updated again. -/
theorem Edited.alike (he : Edited G G' s g sync s₁ s₂) (h : Run H s) (hg : g < s.graphs.size)
    (hsame : SameAnswers (s.graph g).options.registry (s.graph g).options.format s₁.files s₂.files)
    (hat : G.SameAt G' k) (hsource : (G.source? k).isSome)
    {built' : Except GraphError KernelBuild} (hbuilt : (k, built) ∈ s.updateBuilds g)
    (hbuilt' : (k, built') ∈ s₂.updateBuilds g) : Alike built built' := by
  obtain ⟨wrapper, shown, hanswers, hanswers₂⟩ := he.answers h hg hsame
  obtain ⟨hbuilds, hbuilds₂⟩ := he.updateBuilds h hg
  rw [hbuilds] at hbuilt
  rw [hbuilds₂] at hbuilt'
  obtain ⟨files, hfiles, rfl⟩ := hanswers.of_mem_buildAll hbuilt
  obtain ⟨files', hfiles', rfl⟩ := hanswers₂.of_mem_buildAll hbuilt'
  exact hat.alike_of_digest hsource hfiles.shows hfiles'.shows
    (hfiles'.wrapper.trans hfiles.wrapper.symm)

theorem Edited.builds (he : Edited G G' s g sync s₁ s₂) (h : Run H s) (hg : g < s.graphs.size)
    (hsame : SameAnswers (s.graph g).options.registry (s.graph g).options.format s₁.files s₂.files)
    (hat : G.SameAt G' k) (hsource : (G.source? k).isSome) :
    ∃ built built', (k, built) ∈ s.updateBuilds g ∧ (k, built') ∈ s₂.updateBuilds g ∧
      Alike built built' := by
  obtain ⟨hbuilds, hbuilds₂⟩ := he.updateBuilds h hg
  obtain ⟨built, hbuilt⟩ : ∃ built, (k, built) ∈ s.updateBuilds g := by
    rw [hbuilds]
    exact Graph.exists_mem_buildAll hsource
  obtain ⟨built', hbuilt'⟩ : ∃ built', (k, built') ∈ s₂.updateBuilds g := by
    rw [hbuilds₂]
    exact Graph.exists_mem_buildAll (by rw [hat.source]; exact hsource)
  exact ⟨built, built', hbuilt, hbuilt',
    he.alike h hg hsame hat hsource hbuilt hbuilt'⟩

/-- A resource that was not waiting for a compile when an update returned **rests in its slot**
    until the next one. -/
theorem Run.rests (h : Run H s₁) (hlater : s₁.Later s₂)
    (hn : (s₂.graph g).generation = (s₁.graph g).generation) (hr : s₁.owned? g k = some r)
    (hsettled : (s₁.resource r).state ≠ .compiling) :
    s₂.owned? g k = some r ∧ (s₁.resource r).Rests (s₂.resource r) := by
  have hkeeps := h.keeps hlater (Resource.lasting_rests _ (s₁.resource r)) rfl hn
  exact ⟨(hkeeps.slot k).trans hr, hkeeps.holds hr (.refl hsettled)⟩

/-- Its kernel **keeps the program** that it held then. -/
theorem Run.slotProgram_later (h : Run H s₁) (hlater : s₁.Later s₂)
    (hn : (s₂.graph g).generation = (s₁.graph g).generation)
    (hsettled : s₁.InSlot g k fun y => y.state ≠ .compiling) :
    s₂.slotProgram g k = s₁.slotProgram g k := by
  cases hr : s₁.owned? g k with
  | none =>
    have hslot := (h.keeps hlater (Resource.lasting_rests _ default) rfl hn).slot k
    rw [slotProgram, slotProgram, hslot, hr]
    rfl
  | some r =>
    obtain ⟨hslot, hrests⟩ := h.rests hlater hn hr (hsettled r hr)
    rw [slotProgram, slotProgram, hslot, hr, Option.bind_some, Option.bind_some,
      Resource.face_program hrests.face]

/-! ## What a synchronous update does with a kernel -/

/-- A kernel that is built is shown. -/
theorem Updated.exists_invocation (hu : Updated s g t q others calls s' x)
    (hmem : (k, built) ∈ s.updateBuilds g) : ∃ v ∈ x.invocations, v.kernel = k := by
  have hk := mem_compilable_of_updateBuilds hmem
  rw [← hu.map_kernel] at hk
  exact List.mem_map.1 hk

/-- **A kernel whose program can be reused is spared.** -/
theorem Updated.spared (hu : Updated s g t q others calls s' x) (h : Run H s)
    (hg : g < s.graphs.size) {b : KernelBuild} (hmem : (k, .ok b) ∈ s.updateBuilds g)
    (hr : s.owned? g k = some r) (hreuse : (s.resource r).isReusable b.hashKey = true) :
    Spared s s' g (others ++ q.failed.filterMap (q.session.failureCall g) ++ calls) b k r :=
  (hu.readied _ hmem).spared hu.cleared h.holdings hg
    (Graph.lt_of_mem_compilable (mem_compilable_of_updateBuilds hmem)) hu.launches hu.completed
    hu.size hu.elsewhere hr hreuse

/-- A kernel **shows what is seen** of the program in its slot. -/
theorem Updated.program_eq_seen {v : Invocation} (hu : Updated s g t q others calls s' x)
    (h : Run H s) (hg : g < s.graphs.size) (haccepts : s.accepts g = true)
    (hv : v ∈ x.invocations) : v.program = s'.seen g (s'.slotProgram g v.kernel) := by
  obtain ⟨_, hrun⟩ := hu.run h hg haccepts
  rw [hu.completed.program hv, hrun.holdings.foundProgram_eq]

theorem seen_congr (hoptions : (s'.graph g).options = (s.graph g).options)
    (program : Option Program) : s'.seen g program = s.seen g program := by
  rw [seen, seen, hoptions]

/-- When it returns, **no resource is waiting**. -/
theorem Updated.settled (hu : Updated s g t q others calls s' x)
    (hmem : (k, built) ∈ s.updateBuilds g) : s'.InSlot g k fun y => y.state ≠ .compiling := by
  intro r hr
  rw [hu.completed.slot] at hr
  have hapart := List.nodup_append.1 (List.nodup_append.1 hu.launches.preparation.apart).1
  have hready := hu.readied _ hmem
  cases hready with
  | failed _ hslot hfailed hstate =>
    cases hr.symm.trans hslot
    have hjobs : k ∉ q.jobs.map Prod.fst := fun hmem => hapart.2.2 _ hfailed _ hmem rfl
    rw [(hu.completed.of_not_mem hu.launches hjobs).2 _ hr, hstate]
    simp
  | reused _ hslot _ hreuse hsame _ hjobs =>
    cases hr.symm.trans hslot
    rw [(hu.completed.of_not_mem hu.launches hjobs).2 _ hr, hsame,
      (Resource.isReusable_iff.1 hreuse).1]
    simp
  | @begun b _ name isDefault _ hslot hjob =>
    cases hr.symm.trans hslot
    obtain ⟨result, _, hfinished⟩ := hu.completed.finished _ (List.mem_map.2 ⟨_, hjob, rfl⟩)
    cases hfinished with
    | compiled _ hstate =>
      dsimp only at hstate
      rw [hstate]
      simp
    | failed _ hstate =>
      dsimp only at hstate
      rw [hstate]
      simp

/-- **A kernel's build depends on what is bound to it.**  Two graphs of one name that have the same
    source at a kernel, the same edges of it and the same interfaces at the slots that these name
    build it alike exactly if their registries give the same digest of the kernel wrapper, where the
    built-in registry shows the same sources.  What they build differs in the hash key at most, and
    it does so exactly if the registries give different digests.

    So when an update of the one has left the kernel compiled, the next synchronous update, after it
    was edited to the other, leaves the program alone, provided the registry still gives that
    digest. It submits no job for the kernel, does not tell the hook of it, and publishes the
    program that the resource held, which is the one of the first update.  (In either case nothing
    is seen of a program at a level that an editor's lookup refuses.) -/
theorem Run.update_elsewhere (hat : G.SameAt G' k) (hsource : (G.source? k).isSome) :
    (∀ (files files' : FileStore) (id id' : Nat) (d : Dialect) (format : String),
      files.Reachable → files'.Reachable →
      files'.source? Builtin.registryId = files.source? Builtin.registryId →
        (Alike (G.build files id k d format).result (G'.build files' id' k d format).result ↔
          (∃ u, (G.build files id k d format).result = .error (.undeclared u)) ∨
            (files'.digest id' kernelWrapper format).1.toOption =
              (files.digest id kernelWrapper format).1.toOption) ∧
        ∀ b b', (G.build files id k d format).result = .ok b →
          (G'.build files' id' k d format).result = .ok b' →
            b' = { b with hashKey := b'.hashKey } ∧
              (b'.hashKey = b.hashKey ↔ (files'.digest id' kernelWrapper format).1 =
                (files.digest id kernelWrapper format).1)) ∧
    ∀ {H s s₁ s₂ s₃ g r sync}, Run H s → g < s.graphs.size → Edited G G' s g sync s₁ s₂ →
      SameAnswers (s.graph g).options.registry (s.graph g).options.format s₁.files s₂.files →
      s₂.owned? g k = some r → (s₂.resource r).state = .compiled →
      (s₂.graph g).options.pool < s₂.pools.size → s₂.held = false →
      s₂.update g true = (.ok (), s₃) →
      ∃ b p x v calls, (k, .ok b) ∈ s.updateBuilds g ∧ (k, .ok b) ∈ s₂.updateBuilds g ∧
        (s₂.resource r).program = some p ∧ s₃.proxy? g = some x ∧ v ∈ x.invocations ∧
        v.kernel = k ∧ v.program = s₃.seen g (some p) ∧ s₃.hooks = s₂.hooks ++ calls ∧
        Spared s₂ s₃ g calls b k r ∧
        (s₁.InSlot g k (fun y => y.state ≠ .compiling) → s₁.slotProgram g k = some p) ∧
        (sync = true → s.held = false → (s.graph g).options.pool < s.pools.size →
          ∃ x₁ v₁, s₁.proxy? g = some x₁ ∧ v₁ ∈ x₁.invocations ∧ v₁.kernel = k ∧
            v₁.program = v.program) := by
  refine ⟨fun files files' id id' d format hfiles hfiles' hbuiltin => ?_, ?_⟩
  · have hshows := hfiles.shows
    have hshows' := hfiles'.shows
    rw [hbuiltin] at hshows'
    exact ⟨hat.alike_iff hsource hshows hshows', fun b b' => hat.build_eq_iff hshows hshows'⟩
  intro H s s₁ s₂ s₃ g r sync h hg he hsame hr hcompiled hpool hheld hupdate
  obtain ⟨built, built', hbuilt, hbuilt', halike⟩ := he.builds h hg hsame hat hsource
  obtain ⟨b, rfl, r', hr', hreuse⟩ :=
    h.reuses hg he.free he.update he.later he.generation hbuilt hr hcompiled
  cases hr.symm.trans hr'
  obtain rfl := halike.symm.ok rfl
  have honward := h.onward ((he.later₀ hg).trans he.later) g
  obtain ⟨H₁, hrun₁⟩ := (he.later₀ hg).run h
  obtain ⟨H₂, hrun₂⟩ := he.later.run hrun₁
  have hg₂ : g < s₂.graphs.size := Nat.lt_of_lt_of_le hg honward.size
  have hfree₂ := he.free₂ h hg
  have haccepts₂ : s₂.accepts g = true := accepts_of_update hfree₂ (by rw [hupdate])
  obtain ⟨t, q, others, calls, s', x, hu⟩ := hrun₂.updated hg₂ haccepts₂ hpool hheld
    (hrun₂.serving hg₂ hfree₂ hupdate).declared
  cases hupdate.symm.trans hu.update
  obtain ⟨v, hv, rfl⟩ := hu.exists_invocation hbuilt'
  have hspared := hu.spared hrun₂ hg₂ hbuilt' hr hreuse
  obtain ⟨p, hp⟩ := Option.isSome_iff_exists.1 (Resource.isReusable_iff.1 hreuse).2.1
  have hprogram : v.program = s₃.seen g (some p) := by
    rw [hu.program_eq_seen hrun₂ hg₂ haccepts₂ hv, slotProgram, hspared.after, Option.bind_some,
      hspared.program, hp]
  have hkept : s₁.InSlot g v.kernel (fun y => y.state ≠ .compiling) →
      s₁.slotProgram g v.kernel = some p := fun hsettled => by
    rw [← hrun₁.slotProgram_later he.later he.generation hsettled, slotProgram, hr,
      Option.bind_some, hp]
  refine ⟨b, p, x, v, _, hbuilt, hbuilt', hp, hu.completed.presents.proxy?_eq, hv, rfl, hprogram,
    hu.hooks, hspared, hkept, ?_⟩
  rintro rfl hheld₁ hpool₁
  have haccepts : s.accepts g = true := accepts_of_update he.free (by rw [he.update])
  obtain ⟨t₁, q₁, others₁, calls₁, s₁', x₁, hu₁⟩ := h.updated hg haccepts hpool₁ hheld₁
    (h.serving hg he.free he.update).declared
  cases he.update.symm.trans hu₁.update
  obtain ⟨v₁, hv₁, hk⟩ := hu₁.exists_invocation hbuilt
  refine ⟨x₁, v₁, hu₁.completed.presents.proxy?_eq, hv₁, hk, ?_⟩
  have hlater : s₁.Later s₃ := he.later.trans (.update hg₂ hfree₂ hupdate)
  have hg₁ : g < s₁.graphs.size := Nat.lt_of_lt_of_le hg (h.onward (he.later₀ hg) g).size
  rw [hu₁.program_eq_seen h hg haccepts hv₁, hk, hkept (hu₁.settled hbuilt), hprogram,
    seen_congr ((hrun₁.onward hlater g).options hg₁)]

end

end Session

/-! ### A registry that remembers another digest -/

namespace Graph

open KernelGraph.FileStore (message bareWrapper)
open KernelGraph.VirtualPath (kernelWrapper)

/-- A registry that remembers the digest of a wrapper that its parent has replaced, and another one
    that shows the same sources and remembers nothing. -/
def twinFiles : FileStore := (staleFiles.create [0]).2

theorem reachable_twin : twinFiles.Reachable := .create [0] reachable_stale

theorem registry_twin : twinFiles.registry 0 = staleFiles.registry 0 ∧
    twinFiles.registry 1 = staleFiles.registry 1 ∧ twinFiles.registry 2 = { parents := [0] } := by
  have hregistry := FileStore.registry_create staleFiles [0]
  rw [size_stale] at hregistry
  exact ⟨hregistry 0, hregistry 1, hregistry 2⟩

theorem source?_twin : twinFiles.source? 2 = twinFiles.source? 1 := by
  obtain ⟨_, hfirst, hsecond⟩ := registry_twin
  have hfields : (twinFiles.registry 1).sources = [] ∧ (twinFiles.registry 1).parents = [0] := by
    rw [hfirst]
    exact fields_stale
  funext path
  rw [FileStore.source?_of_parent (by rw [hsecond]; rfl) (by rw [hsecond]) Nat.zero_lt_two,
    FileStore.source?_of_parent (by rw [hfields.1]; rfl) hfields.2 Nat.zero_lt_one]

theorem digest_twin_stale : (twinFiles.digest 1 kernelWrapper "wgsl").1 =
    .ok (message "wgsl" bareWrapper []).sum := by
  have hsize : 1 < twinFiles.registries.size := by
    rw [twinFiles, FileStore.create, Array.size_push, size_stale]
    decide
  refine (FileStore.digest_of_remembered? hsize ?_).1
  rw [FileStore.remembered?, registry_twin.2.1]
  exact remembered?_stale

theorem digest_twin_fresh : (twinFiles.digest 2 kernelWrapper "wgsl").1 =
    .ok (message "wgsl" notedWrapper []).sum := by
  obtain ⟨hparent, _, hregistry⟩ := registry_twin
  have hcurrent : twinFiles.Current 2 := by
    rw [FileStore.Current, hregistry]
    exact Lru.holds_empty _
  have hsources : twinFiles.source? 0 = staleFiles.source? 0 :=
    FileStore.source?_builtin_congr (by rw [Builtin.registryId, hparent])
  refine hcurrent.digest_eq_ok_iff.2 (FileStore.hasDigest_leaf ?_ included_notedWrapper)
  rw [FileStore.source?_of_parent (by rw [hregistry]; rfl) (by rw [hregistry]) Nat.zero_lt_two,
    hsources]
  exact source?_stale_parent

/-- One graph is built under two hash keys with two registries that show the same sources. -/
theorem not_result_build_elsewhere :
    ¬ ∀ (G G' : Graph) (files files' : FileStore) (id id' k : Nat) (d : Dialect) (format : String),
      G.SameAt G' k → (G.source? k).isSome → files.Reachable → files'.Reachable →
      files'.source? id' = files.source? id →
      files'.source? Builtin.registryId = files.source? Builtin.registryId →
      (G'.build files' id' k d format).result = (G.build files id k d format).result := by
  intro h
  have hsame := h libraryGraph libraryGraph twinFiles twinFiles 1 2 0 .wgsl "wgsl" (.refl _ _)
    (by decide) reachable_twin reachable_twin source?_twin rfl
  obtain ⟨b, hb⟩ := exists_build_library digest_twin_stale
  have hkeys := ((SameAt.refl libraryGraph 0).build_eq_iff reachable_twin.shows reachable_twin.shows
    hb (hsame.trans hb)).2.1 rfl
  rw [digest_twin_stale, digest_twin_fresh] at hkeys
  -- the wrappers would collide
  have hnoted : (message "wgsl" notedWrapper []).content ∈ libraryStrings := by
    simp [libraryStrings]
  have hbare : (message "wgsl" bareWrapper []).content ∈ libraryStrings := by
    simp [libraryStrings]
  exact not_collide_libraryStrings hnoted hbare ⟨by decide, Except.ok.inj hkeys⟩

end Graph

namespace Session

open KernelGraph.Graph (Alike)

/-! ### A kernel that is put beside another one -/

/-- The kernel of the graph with one kernel is the first one of the graph with two. -/
theorem sameAt_pairGraph : (entryGraph "Main").SameAt (pairGraph "Main" "Main") 0 where
  name := rfl
  source := rfl
  edges := rfl
  interfaces e he _ := by
    cases List.mem_singleton.1 he
    rfl

/-- The kernel was compiled, a second kernel was put beside it, and the next update reuses its
    program. -/
theorem update_elsewhere_pairGraph : ∃ s₁ s₂ s₃ b p x v calls,
    Edited (entryGraph "Main") (pairGraph "Main" "Main") entryStart 0 true s₁ s₂ ∧
    s₂.update 0 true = (.ok (), s₃) ∧ s₃.proxy? 0 = some x ∧ v ∈ x.invocations ∧ v.kernel = 0 ∧
    v.program = some p ∧ s₃.hooks = s₂.hooks ++ calls ∧ Spared s₂ s₃ 0 calls b 0 0 ∧
    (∃ x₁ v₁, s₁.proxy? 0 = some x₁ ∧ v₁ ∈ x₁.invocations ∧ v₁.kernel = 0 ∧
      v₁.program = v.program) ∧
    Alike ((entryGraph "Main").build wrapperFiles 0 0 .wgsl "mock").result
      ((pairGraph "Main" "Main").build wrapperFiles 0 0 .wgsl "mock").result := by
  have hrun : Run [] entryStart :=
    .step (.addGraph (entryGraph "Main") entryOptions) .addGraph (.start reachable_wrapperFiles _ _)
  have hgraphs : 0 < entryStart.graphs.size := Nat.zero_lt_one
  obtain ⟨_, _, _, _, s₁, _, hu⟩ := hrun.updated hgraphs (by decide) (by decide) rfl
    fun k e hmem => by
      rw [updateBuilds_entryStart] at hmem
      cases List.mem_singleton.1 hmem
  have hheld := editRun_entryStart.filled.held
  obtain ⟨rest, p, result, hfiles, hcompiled⟩ := exists_entryCompiled
  rw [hu.update] at hcompiled hheld
  dsimp only at hcompiled hheld
  subst hcompiled
  -- the second kernel is put beside the first one
  have hedited : (entryCompiled rest p result "Main" 1).Later
      ((entryCompiled rest p result "Main" 1).edit 0 fun _ => pairGraph "Main" "Main") :=
    Later.refl.step (.edit 0 fun _ => pairGraph "Main" "Main")
      (.edit Nat.zero_lt_one)
  have he : Edited (entryGraph "Main") (pairGraph "Main" "Main") entryStart 0 true
      (entryCompiled rest p result "Main" 1)
      ((entryCompiled rest p result "Main" 1).edit 0 fun _ => pairGraph "Main" "Main") :=
    ⟨rfl, rfl, hu.update, hedited, rfl, rfl, rfl⟩
  obtain ⟨H₁, hrun₁⟩ := (he.later₀ hgraphs).run hrun
  obtain ⟨H₂, hrun₂⟩ := hedited.run hrun₁
  have hvalid : (pairGraph "Main" "Main").validate.toBool = true := by decide
  have haccepts : ((entryCompiled rest p result "Main" 1).edit 0
      fun _ => pairGraph "Main" "Main").accepts 0 = true := by
    show ((pairGraph "Main" "Main").validate.toBool && true && true && true) = true
    rw [hvalid]
    rfl
  have hcurrent : rest.files.Current 0 := hfiles ▸ current_entryBuilt
  have hsource : rest.files.source? 0 = wrapperFiles.source? 0 := hfiles ▸ source?_entryBuilt
  have hbuilds : ((entryCompiled rest p result "Main" 1).edit 0
      fun _ => pairGraph "Main" "Main").updateBuilds 0 = _ :=
    buildAll_pairGraph hcurrent hsource "Main" "Main"
  obtain ⟨_, _, _, _, s₃, _, hu₂⟩ := hrun₂.updated (g := 0) Nat.zero_lt_one haccepts
    Nat.zero_lt_one hheld fun k e hmem => by
      rw [hbuilds] at hmem
      simp at hmem
  obtain ⟨hbuild, hreuse⟩ := Run.update_elsewhere sameAt_pairGraph (by decide)
  obtain ⟨b, p', x, v, calls, _, _, _, hx, hv, hk, hp, hcalls, hspared, _, hsync⟩ :=
    hreuse hrun hgraphs he (.refl _ _ _) (r := 0) rfl rfl Nat.zero_lt_one hheld hu₂.update
  obtain ⟨halike, _⟩ := hbuild wrapperFiles wrapperFiles 0 0 .wgsl "mock" reachable_wrapperFiles
    reachable_wrapperFiles rfl
  have hlevel : s₃.seen 0 (some p') = some p' := by
    have hg₂ : 0 < ((entryCompiled rest p result "Main" 1).edit 0
        fun _ => pairGraph "Main" "Main").graphs.size := Nat.zero_lt_one
    have hlater := Later.update hg₂ rfl hu₂.update
    rw [seen_congr ((hrun₂.onward hlater 0).options Nat.zero_lt_one)]
    rfl
  exact ⟨_, _, s₃, b, p', x, v, calls, he, hu₂.update, hx, hv, hk, hp.trans hlevel, hcalls, hspared,
    hsync rfl rfl (by decide), halike.2 (Or.inr rfl)⟩

end Session

end KernelGraph
