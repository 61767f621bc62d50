/-
  When a platform is ready.

  A platform that is listed has one new entry for each of its formats and each kernel with a source.
  From then on, as long as the graph is open and lists that cache, the platform is ready exactly
  when no job of an entry is on its way, whatever else happens in the workshop and in whatever order
  the jobs come back.
-/
import KernelGraph.Proofs.Workshop.Cooking

namespace KernelGraph

namespace Session

section
variable {s : Session} {g p : Nat} {name : String}

theorem cookedResources?_of_lookup (h : (s.graph g).cook.lookup name = some p) :
    s.cookedResources? g name = some (s.platformResources p) := by
  rw [cookedResources?, h]
  rfl

/-- A platform that is listed is ready when all its entries are finished. -/
theorem isPlatformReady_iff (h : (s.graph g).cook.lookup name = some p) :
    s.isPlatformReady g name = true ↔
      ∀ r ∈ s.platformResources p, (s.resource r).state.isFinished = true := by
  rw [isPlatformReady, h]
  dsimp only
  rw [isReady, List.all_eq_true, platformResources, List.forall_mem_map]

theorem isPlatformReady_of_lookup_none (h : (s.graph g).cook.lookup name = none) :
    s.cookedResources? g name = none ∧ s.isPlatformReady g name = false := by
  rw [cookedResources?, isPlatformReady, h]
  exact ⟨rfl, rfl⟩

theorem lookup_filter_self {α : Type} (xs : List (String × α)) (name : String) :
    (xs.filter fun e => e.1 ≠ name).lookup name = none := by
  refine List.lookup_eq_none_iff.2 fun e he => ?_
  obtain ⟨_, hne⟩ := List.mem_filter.1 he
  rw [decide_eq_true_eq] at hne
  exact bne_iff_ne.2 hne.symm

theorem lookup_eq_none_iff_lists :
    (s.graph g).cook.lookup name = none ↔ ∀ p, ¬ s.Lists g name p := by
  rw [List.lookup_eq_none_iff]
  refine ⟨fun h p hl => ?_, fun h e he => ?_⟩
  · exact bne_iff_ne.1 (h _ hl) rfl
  · rw [bne_iff_ne]
    rintro rfl
    exact h e.2 he

/-- **A platform that is cleared** is not listed. -/
theorem lookup_delist (s : Session) (g : Nat) (name : String) :
    ((s.delist g name).graph g).cook.lookup name = none := by
  rw [delist, graph_modifyGraph]
  split
  · exact lookup_filter_self _ _
  · rename_i hg
    rw [graph_of_le (Nat.le_of_not_lt fun hlt => hg ⟨rfl, hlt⟩)]
    rfl

theorem lookup_delistAll (s : Session) (g : Nat) :
    ((s.delistAll g).graph g).cook.lookup name = none := by
  rw [delistAll, graph_modifyGraph]
  split
  · rfl
  · rename_i hg
    rw [graph_of_le (Nat.le_of_not_lt fun hlt => hg ⟨rfl, hlt⟩)]
    rfl

/-- **A platform that is begun** is listed. -/
theorem lookup_install (hg : g < s.graphs.size) (platform : TargetPlatform)
    (formats : List FormatBuilds) :
    ((s.install g platform formats).1.graph g).cook.lookup platform.name =
    some s.platforms.size := by
  rw [graph_install, if_pos ⟨rfl, hg⟩, List.lookup_append, lookup_filter_self, Option.none_or,
    List.lookup_cons, beq_self_eq_true]

end

end Session

namespace Workshop

open Session

section
variable {W W' : Workshop} {duties : Duty → Prop}

/-! ## Runs -/

theorem Runs.honest (hruns : Runs duties W W') : W'.honest = W.honest := by
  induction hruns with
  | refl => rfl
  | tail _ hsection ih =>
    obtain ⟨_, _, hstep⟩ := hsection
    exact hstep.honest.trans ih

/-- Entries remain entries, and fare on. -/
theorem Runs.fares (h : W.Reachable) (hhonest : W.honest = true)
    (hruns : Runs duties W W') {r : Nat}
    (hr : W.session.IsCooked r) :
    W'.session.IsCooked r ∧ (W.session.resource r).Fares (W'.session.resource r) := by
  induction hruns with
  | refl => exact ⟨hr, .refl _⟩
  | tail hruns hsection ih =>
    obtain ⟨_, _, hstep⟩ := hsection
    have hbefore := h.runs hruns
    have hcooks := hbefore.cooks ((Runs.honest hruns).trans hhonest)
    have hminds := hstep.minds hbefore.fitting hbefore.built
      ((Runs.honest hruns).trans hhonest) hcooks
    exact ⟨hminds.isCooked ih.1, ih.2.trans ((hminds.moves ih.1).fares (hcooks.entry ih.1))⟩

/-- Caches keep their entries. -/
theorem Runs.marks (h : W.Reachable) (hhonest : W.honest = true)
    (hruns : Runs duties W W') {p : Nat}
    (hp : p < W.session.platforms.size) : p < W'.session.platforms.size ∧
      (W'.session.platforms.getD p default).mark = (W.session.platforms.getD p default).mark := by
  induction hruns with
  | refl => exact ⟨hp, rfl⟩
  | tail hruns hsection ih =>
    obtain ⟨_, _, hstep⟩ := hsection
    have hbefore := h.runs hruns
    have hminds := hstep.minds hbefore.fitting hbefore.built
      ((Runs.honest hruns).trans hhonest)
      (hbefore.cooks ((Runs.honest hruns).trans hhonest))
    exact ⟨Nat.lt_of_lt_of_le ih.1 hminds.size, (hminds.marks _ ih.1).trans ih.2⟩

/-- A cache is listed only when its platform is begun. -/
theorem Step.lists {d : Duty} {g p : Nat} {name : String} (hstep : Step d W W') (h : W.Fitting)
    (hd : d ≠ .list g name) (hl : W'.session.Lists g name p) : W.session.Lists g name p := by
  have hoverhaul : ∀ {i s'}, Overhauls i W.session s' → s'.Lists g name p →
      W.session.Lists g name p := fun {i s'} ho hl => by
    rw [Session.Lists] at hl ⊢
    by_cases hi : g = i
    · obtain ⟨_, _, _, heq⟩ := ho.graph
      rw [hi, heq] at hl
      rw [hi]
      exact hl
    · rwa [ho.other g hi] at hl
  cases hstep with
  | aside haside => exact haside.lists.1 hl
  | collect => exact hl
  | turn _ => exact hl
  | execute _ => exact hl
  | handOver _ => exact (Tends.releaseProxy ..).listed hl
  | drop _ _ _ => exact hl
  | abandon _ _ _ _ => exact hl
  | deliver _ _ _ _ => exact hl
  | @strike _ id t n plan program r _ _ _ => exact (tends_strike W t.job n plan).listed hl
  | tellUpdate _ _ _ => exact (Tends.tellUpdate ..).listed hl
  | tellCook _ _ _ => exact (Tends.tellCook ..).listed hl
  | begin _ _ _ => exact (Tends.begun ..).listed hl
  | @prepare _ c i n d p s' hwaiting _ hopen hn hp =>
    have hi : i < W.session.graphs.size := (h.callers c).graph (by rw [hwaiting]; rfl)
    exact hoverhaul (jobFits_preparedJobs h.holdings hi hopen hp).1 hl
  | @stop _ c i n d e s' hwaiting _ hopen hn hp =>
    have hi : i < W.session.graphs.size := (h.callers c).graph (by rw [hwaiting]; rfl)
    have ho := overhauls_stopped h.holdings hi hp
    exact hoverhaul ho hl
  | report _ => exact (Tends.reportFailure ..).listed hl
  | enqueue _ => exact hl
  | register _ => exact (Tends.register ..).listed hl
  | @finishUpdate _ c i plan _ _ => exact (tends_finish W i plan).listed hl
  | delist _ _ _ _ => exact (Tends.delist ..).listed hl
  | delistAll _ _ _ => exact (Tends.delistAll ..).listed hl
  | chore _ => exact (Tends.chore ..).listed hl
  | @build _ c i platform builds format _ _ _ =>
    exact (Tends.of_reads (.buildFormats [format] W.session)).listed hl
  | @install _ c i platform builds _ _ _ =>
    rcases lists_install _ _ _ hl with hl | ⟨rfl, rfl, _⟩
    · exact hl
    · exact absurd rfl hd
  | finishCook _ => exact (Tends.announceReady ..).listed hl
  | beginClose _ _ _ _ => exact (Tends.shutDown ..).listed hl
  | vacate _ => exact (Tends.vacate ..).listed hl
  | retract _ => exact (Tends.retract ..).listed hl

/-- **A platform that is not listed** is not listed until it is begun. -/
theorem Runs.lookup_none {g : Nat} {name : String} (h : W.Reachable)
    (hruns : Runs (fun d => d ≠ .list g name) W W')
    (hnone : (W.session.graph g).cook.lookup name = none) :
    (W'.session.graph g).cook.lookup name = none := by
  induction hruns with
  | refl => exact hnone
  | tail hruns hsection ih =>
    obtain ⟨d, hd, hstep⟩ := hsection
    rw [lookup_eq_none_iff_lists] at ih ⊢
    exact fun p hl => ih p (hstep.lists (h.runs hruns).fitting hd hl)

/-! ## Ready platforms -/

/-- **The cache of a platform**: its entries are numbered from a resource on, one for each format
    and kernel, and it is ready when no job of them is on its way. -/
structure Cached (W : Workshop) (g : Nat) (name : String) (n : Nat)
    (items : List (FormatBuilds × Nat × Kernel × KernelSource)) : Prop where
  listed : W.session.cookedResources? g name = some (List.range' n items.length)
  kernels : ∀ p, (W.session.graph g).cook.lookup name = some p →
    (W.session.platforms.getD p default).entries = platformEntries n items
  format : ∀ {i x}, items[i]? = some x → (W.session.resource (n + i)).format = x.1.format
  failed : ∀ {i x e}, items[i]? = some x → x.1.failure? x.2.1 = some e →
    (W.session.resource (n + i)).state = .failed ∧
      (W.session.resource (n + i)).result.error = some e
  ready : W.session.isPlatformReady g name = true ↔ ∀ i < items.length, ¬ W.Underway (n + i)
  ended : ∀ i < items.length, ¬ W.Underway (n + i) →
    (W.session.resource (n + i)).state = .compiled ∧ (W.session.resource (n + i)).program.isSome ∨
      (W.session.resource (n + i)).state = .failed ∧
        (W.session.resource (n + i)).result.error.isSome

/-- An entry that an open graph lists is finished when its job is over. -/
theorem Entry.isFinished_iff {r : Nat} (h : W.Entry r) (hr : W.session.Current r) :
    (W.session.resource r).state.isFinished = true ↔ ¬ W.Underway r := by
  have hbegun := h.begun
  have hvalid := h.valid hr
  have hawaited := h.awaited
  have houtstanding := h.outstanding
  cases hstate : (W.session.resource r).state with
  | uncompiled => exact absurd hstate hbegun
  | compiling => exact ⟨nofun, fun hnot => absurd (hawaited hstate) hnot⟩
  | compiled =>
    rw [hstate] at houtstanding
    exact ⟨fun _ hunderway => by simpa using houtstanding hunderway, fun _ => rfl⟩
  | failed =>
    rw [hstate] at houtstanding
    exact ⟨fun _ hunderway => by simpa using houtstanding hunderway, fun _ => rfl⟩
  | invalidated => exact absurd hstate hvalid

/-- It has its program or its error then. -/
theorem Entry.ended {r : Nat} (h : W.Entry r) (hr : W.session.Current r) (hover : ¬ W.Underway r) :
    (W.session.resource r).state = .compiled ∧ (W.session.resource r).program.isSome ∨
      (W.session.resource r).state = .failed ∧ (W.session.resource r).result.error.isSome := by
  have hfinished := (h.isFinished_iff hr).2 hover
  cases hstate : (W.session.resource r).state with
  | compiled => exact Or.inl ⟨rfl, h.program hstate⟩
  | failed => exact Or.inr ⟨rfl, h.error hstate⟩
  | invalidated => exact absurd hstate (h.valid hr)
  | _ =>
    rw [hstate] at hfinished
    cases hfinished

section
variable {c g : Nat} {platform : TargetPlatform} {builds : List FormatBuilds}

/-- **The cache of a platform that was begun**, as long as the graph is open and lists it. -/
theorem Reachable.cached (h : W.Reachable) (hhonest : W.honest = true)
    (hcaller : W.callers c = .building g platform builds)
    (hopen : (W.session.graph g).closed = false) (hbuilds : builds.length = platform.formats.length)
    (hruns : Runs duties (W.listed c g platform builds) W')
    (hopen' : (W'.session.graph g).closed = false)
    (hlisted : (W'.session.graph g).cook.lookup platform.name = some W.session.platforms.size) :
    W'.Cached g platform.name W.session.resources.size (W.session.items g builds) := by
  have hfirst : (W.listed c g platform builds).Reachable := h.step (.install hcaller hopen hbuilds)
  have hcooks := (hfirst.runs hruns).cooks (hruns.honest.trans hhonest)
  have hmark := ((hruns.marks hfirst hhonest (p := W.session.platforms.size) (by
    show _ < (W.session.install g platform builds).1.platforms.size
    rw [size_platforms_install]
    exact Nat.lt_succ_self _)).2).trans
      (congrArg CookPlatform.mark (platform_install W.session g platform builds))
  have hentries : (W'.session.platforms.getD W.session.platforms.size default).entries =
      platformEntries W.session.resources.size (W.session.items g builds) := congrArg Prod.snd hmark
  have hresources : W'.session.platformResources W.session.platforms.size =
      List.range' W.session.resources.size (W.session.items g builds).length := by
    rw [platformResources, hentries, map_snd_platformEntries]
  have hmem : ∀ {i}, i < (W.session.items g builds).length →
      W.session.resources.size + i ∈ W'.session.platformResources W.session.platforms.size :=
    fun hi => by
      rw [hresources, List.mem_range'_1]
      omega
  have hcurrent : ∀ {i}, i < (W.session.items g builds).length →
      W'.session.Current (W.session.resources.size + i) := fun hi =>
    ⟨g, platform.name, _, lists_of_lookup hlisted, hopen', hmem hi⟩
  have hentry : ∀ {i}, i < (W.session.items g builds).length →
      W'.Entry (W.session.resources.size + i) := fun hi => hcooks.entry ⟨_, hmem hi⟩
  have hfares : ∀ {i : Nat} {x : FormatBuilds × Nat × Kernel × KernelSource},
    (W.session.items g builds)[i]? = some x →
      (x.1.entry x.2.1).Fares (W'.session.resource (W.session.resources.size + i)) :=
    fun {i x} hx => by
      have hcooked : (W.session.install g platform builds).1.IsCooked
          (W.session.resources.size + i) := by
        refine ⟨W.session.platforms.size, ?_⟩
        rw [platformResources_install, List.mem_range'_1]
        have hlt := (List.getElem?_eq_some_iff.1 hx).1
        omega
      rw [← resource_install g platform builds hx]
      exact (hruns.fares hfirst hhonest hcooked).2
  refine ⟨?_, fun p hp => ?_, fun {i x} hx => ?_, fun {i x e} hx he => ?_, ?_, fun i hi hover => ?_⟩
  · rw [cookedResources?_of_lookup hlisted, hresources]
  · rw [hlisted] at hp
    cases hp
    exact hentries
  · rw [(hfares hx).format, FormatBuilds.format_entry]
  · have hi := (List.getElem?_eq_some_iff.1 hx).1
    obtain ⟨hstate, herror⟩ := FormatBuilds.entry_of_failure he
    have hstays := (hfares hx).stays (by rw [hstate]; decide)
    refine ⟨?_, by rw [hstays.result, herror]⟩
    rcases hstays.state with hs | hs
    · rw [hs, hstate]
    · exact absurd hs ((hentry hi).valid (hcurrent hi))
  · rw [isPlatformReady_iff hlisted, hresources]
    refine ⟨fun hall i hi => ((hentry hi).isFinished_iff (hcurrent hi)).1 (hall _ ?_),
      fun hall r hr => ?_⟩
    · rw [List.mem_range'_1]
      omega
    · obtain ⟨hle, hlt⟩ := List.mem_range'_1.1 hr
      obtain ⟨i, rfl⟩ := Nat.exists_eq_add_of_le hle
      have hi : i < (W.session.items g builds).length := by omega
      exact ((hentry hi).isFinished_iff (hcurrent hi)).2 (hall i hi)
  · exact (hentry hi).ended (hcurrent hi) hover

end

/-- **The cache of a platform is complete and its readiness exact.**

    1. When a platform is begun there are builds for its formats, in their order, of all kernels
       that the graph has.  The cache that is listed then has a new entry for each of them.  As long
       as the graph is open and lists it, whatever happens, entries without a compiler or a build
       have failed, and the platform is ready exactly when no job of an entry is on its way; each
       entry has its program or an error then.

    2. A platform that was never begun, or was cleared and not begun again, is not ready. -/
theorem Reachable.cache_complete (h : W.Reachable) (hhonest : W.honest = true) (g : Nat) :
    (∀ c platform builds, W.callers c = .building g platform builds →
      (W.session.graph g).closed = false → builds.length = platform.formats.length →
        builds.map FormatBuilds.format = platform.formats ∧
        (∀ f ∈ builds, f.MadeFor g (W.session.graph g).definition) ∧
        ((W.listed c g platform builds).session.graph g).cook.lookup platform.name =
          some W.session.platforms.size ∧
        (platform.formats = [] →
          (W.listed c g platform builds).session.isPlatformReady g platform.name = true) ∧
        ∀ W', Steps (W.listed c g platform builds) W' → (W'.session.graph g).closed = false →
          (W'.session.graph g).cook.lookup platform.name = some W.session.platforms.size →
            W'.Cached g platform.name W.session.resources.size (W.session.items g builds)) ∧
    ∀ name,
      ((W.session.graph g).cook.lookup name = none → ∀ W', Runs (fun d => d ≠ .list g name) W W' →
        W'.session.cookedResources? g name = none ∧ W'.session.isPlatformReady g name = false) ∧
      (W.session.delist g name).isPlatformReady g name = false ∧
      (W.session.delistAll g).isPlatformReady g name = false := by
  refine ⟨fun c platform builds hcaller hopen hbuilds => ?_, fun name => ⟨fun hnone W' hruns => ?_,
    (isPlatformReady_of_lookup_none (lookup_delist ..)).2,
    (isPlatformReady_of_lookup_none (lookup_delistAll ..)).2⟩⟩
  · obtain ⟨hformats, hmade⟩ := h.built.callers c (by rw [hcaller]; rfl)
    have hg : g < W.session.graphs.size := (h.fitting.callers c).graph (by rw [hcaller]; rfl)
    have hlisted : ((W.listed c g platform builds).session.graph g).cook.lookup platform.name =
        some W.session.platforms.size := lookup_install hg platform builds
    have hopen' : ((W.listed c g platform builds).session.graph g).closed = false := by
      show ((W.session.install g platform builds).1.graph g).closed = false
      rw [graph_install, if_pos ⟨rfl, hg⟩]
      exact hopen
    refine ⟨by rw [hformats, hbuilds, List.take_length], hmade, hlisted, fun hnone => ?_,
      fun W' hruns => h.cached hhonest hcaller hopen hbuilds hruns⟩
    have hstays : Steps (W.listed c g platform builds) (W.listed c g platform builds) := .refl
    have hcached := h.cached hhonest hcaller hopen hbuilds hstays hopen' hlisted
    refine hcached.ready.2 fun i hi => ?_
    rw [hnone, List.length_nil, List.length_eq_zero_iff] at hbuilds
    rw [hbuilds] at hi
    cases hi
  · exact isPlatformReady_of_lookup_none (Runs.lookup_none h hruns hnone)

end

/-! ### A platform whose format has no compiler -/

/-- A platform with a format that nobody knows. -/
def oddPlatform : TargetPlatform := ⟨"p", ["odd"]⟩

/-- What is built for its format. -/
def oddBuilds : FormatBuilds := { format := "odd", compiler := none }

/-- The caller has built for the format, and the platform is about to be listed. -/
def oddBuilt (log : List Log.Record) : Workshop :=
  enter { session := { entryStart with log } } 0 (.building 0 oddPlatform [oddBuilds])

theorem exists_oddBuilt : ∃ log, (oddBuilt log).Reachable := by
  have hempty : (start wrapperFiles [{ format := "mock" }] 0 true).Reachable := ⟨_, _, _, _, .refl⟩
  have hadded : Reachable { session := entryStart } :=
    hempty.step (.aside (.addGraph _ (entryGraph "Main") entryOptions fun _ => rfl))
  have hdelisted :
      Reachable (enter { session := entryStart } 0 (.clearing 0 (some oddPlatform) [])) :=
    hadded.step (.delist (c := 0) (g := 0) rfl (Nat.lt_succ_self 0) rfl
      fun _ h => by cases h; exact ⟨rfl, rfl⟩)
  have hstarted : Reachable (enter (enter { session := entryStart } 0
      (.clearing 0 (some oddPlatform) [])) 0 (.building 0 oddPlatform [])) :=
    hdelisted.step (.turn .start)
  rw [enter_enter] at hstarted
  have hbuilt : ∃ log, Reachable (enter (enter { session := { entryStart with log } } 0
      (.building 0 oddPlatform [])) 0 (.building 0 oddPlatform [oddBuilds])) :=
    ⟨_, hstarted.step (@Step.build _ 0 0 oddPlatform [] "odd" rfl rfl rfl)⟩
  obtain ⟨log, hbuilt⟩ := hbuilt
  rw [enter_enter] at hbuilt
  exact ⟨log, hbuilt⟩

/-- The entry of its kernel has failed, and the platform is ready at once. -/
theorem cache_complete_oddBuilt : ∃ W W' : Workshop, W.Reachable ∧ Steps W W' ∧
    W'.session.cookedResources? 0 "p" = some [0] ∧ (W'.session.resource 0).state = .failed ∧
    (W'.session.resource 0).result.error = some (.format ⟨"odd"⟩) ∧
    W'.session.isPlatformReady 0 "p" = true := by
  obtain ⟨log, hbuilt⟩ := exists_oddBuilt
  obtain ⟨hbegun, -⟩ := Reachable.cache_complete hbuilt rfl 0
  obtain ⟨-, -, hlookup, -, hcached⟩ := hbegun 0 oddPlatform [oddBuilds] rfl rfl rfl
  have hcache := hcached _ .refl rfl hlookup
  obtain ⟨hstate, herror⟩ := hcache.failed (i := 0) rfl rfl
  refine ⟨_, _, hbuilt, .tail .refl ⟨_, trivial, .install rfl rfl rfl⟩,
    hcache.listed, hstate, herror,
    hcache.ready.2 fun i hi hunderway => ?_⟩
  obtain rfl : i = 0 := Nat.lt_one_iff.1 hi
  obtain ⟨n, j, -, hj, -⟩ := at_listed hbuilt.fitting hunderway.choose_spec
  cases hj

end Workshop

end KernelGraph
