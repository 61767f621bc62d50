/-
  The slots of kernels.

  The slot of a kernel is the resource that its set has for the graph's level.  One finds it by
  looking the level up, unless the set is an editor's and the level is not defined.  An update finds
  the slots as they were, and provides every kernel that has none with a new one.  `Readied` says
  what becomes of a kernel that is prepared: it is failed, its program is reused, or its compile is
  begun; preparing other kernels changes nothing about that.
-/
import KernelGraph.Proofs.Session.Generations

namespace KernelGraph

/-- The builds of kernels one after the other; each finds the digests that those before it have
    left. -/
def Graph.buildAll (G : Graph) (registry : Nat) (d : Dialect) (format : String) :
    List (Nat × Kernel × KernelSource) → FileStore → List (Nat × Except GraphError KernelBuild)
  | [], _ => []
  | (k, _, _) :: rest, files =>
    let out := G.build files registry k d format
    (k, out.result) :: G.buildAll registry d format rest out.files

theorem Graph.map_fst_buildAll (G : Graph) (registry : Nat) (d : Dialect) (format : String)
    (ks : List (Nat × Kernel × KernelSource)) (files : FileStore) :
    (G.buildAll registry d format ks files).map Prod.fst = ks.map Prod.fst := by
  induction ks generalizing files with
  | nil => rfl
  | cons x ks ih =>
    rw [Graph.buildAll, List.map_cons, List.map_cons, ih]

namespace Session

section
variable {s s' : Session} {g k r : Nat}

/-- The resource of a kernel: the one that an update compiles it for. -/
def owned? (s : Session) (g k : Nat) : Option Nat :=
  (((s.graph g).sets[k]?).join).bind fun set => set.owned? s.resources (s.graph g).options.level

/-- The program that the slot of a kernel holds. -/
def slotProgram (s : Session) (g k : Nat) : Option Program :=
  (s.owned? g k).bind fun r => (s.resource r).program

/-- What is seen of a program of the graph by those who look it up. -/
def seen (s : Session) (g : Nat) (program : Option Program) : Option Program :=
  if ResourceSet.Visible (s.graph g).options.editor (s.graph g).options.level then program else none

/-- The program that one finds by looking a kernel up. -/
def foundProgram (s : Session) (g k : Nat) : Option Program :=
  (s.resource? g k).bind fun r => (s.resource r).program

theorem resource?_natCast (s : Session) (g k : Nat) : s.resource? g (k : Int) =
    (((s.graph g).sets[k]?).join).bind fun set =>
      set.lookup? s.resources (s.graph g).options.level := by
  unfold Session.resource?
  rw [elementAt?_natCast]

/-- **One finds what is in the slot**, if it is visible. -/
theorem Holdings.resource?_eq (hs : s.Holdings) (g k : Nat) : s.resource? g (k : Int) =
    if ResourceSet.Visible (s.graph g).options.editor (s.graph g).options.level then s.owned? g k
      else none := by
  rw [resource?_natCast, owned?]
  cases hset : ((s.graph g).sets[k]?).join with
  | none =>
    rw [Option.bind_none, Option.bind_none]
    split
    · rfl
    · rfl
  | some set => exact (hs.fits (Option.join_eq_some_iff.1 hset)).lookup?_eq

theorem Holdings.foundProgram_eq (hs : s.Holdings) (g k : Nat) :
    s.foundProgram g k = s.seen g (s.slotProgram g k) := by
  rw [foundProgram, hs.resource?_eq, slotProgram, seen]
  split
  · rfl
  · rfl

/-- At a level that is defined, one finds what is in the slot. -/
theorem Holdings.resource?_eq_owned? (hs : s.Holdings) (k : Nat)
    (hlevel : (s.graph g).options.level.isValid = true) :
    s.resource? g (k : Int) = s.owned? g k := by
  have hvisible : ResourceSet.Visible (s.graph g).options.editor (s.graph g).options.level :=
    Or.inr hlevel
  rw [hs.resource?_eq, if_pos hvisible]

theorem Holdings.foundProgram_eq_slotProgram (hs : s.Holdings) (k : Nat)
    (hlevel : (s.graph g).options.level.isValid = true) :
    s.foundProgram g k = s.slotProgram g k := by
  rw [foundProgram, hs.resource?_eq_owned? k hlevel, slotProgram]

/-- The program that is shown is the one that is found. -/
theorem currentProgram_eq (s : Session) (g k : Nat) :
    s.currentProgram g k (s.graph g).options.level = s.foundProgram g k := by
  rw [foundProgram, resource?_natCast]
  unfold Session.currentProgram
  split
  · rename_i hnone
    rw [hnone]
    rfl
  · rename_i set hset
    rw [hset]
    rfl

theorem owned?_of_set {set : ResourceSet} (hset : (s.graph g).sets[k]? = some (some set)) :
    s.owned? g k = set.owned? s.resources (s.graph g).options.level := by
  unfold owned?
  rw [hset]
  rfl

/-- A kernel owns its slot. -/
theorem owns_of_owned? (h : s.owned? g k = some r) : s.Owns g k r := by
  obtain ⟨set, hset, howned⟩ := Option.bind_eq_some_iff.1 h
  exact ⟨set, Option.join_eq_some_iff.1 hset, ResourceSet.mem_of_owned? howned⟩

theorem owns_of_found (h : s.resource? g (k : Int) = some r) : s.Owns g k r := by
  rw [resource?_natCast] at h
  obtain ⟨set, hset, hlookup⟩ := Option.bind_eq_some_iff.1 h
  exact ⟨set, Option.join_eq_some_iff.1 hset, ResourceSet.mem_of_lookup? hlookup⟩

theorem level_getElem? {r : Nat} (h : r < s.resources.size) :
    (s.resources[r]?).map Resource.level = some (s.resource r).level := by
  rw [Session.resource, Array.getD_eq_getD_getElem?, Array.getElem?_eq_getElem h]
  rfl

/-- The levels of a set's resources stay. -/
theorem level_of_mem {set : ResourceSet} (hset : (s.graph g).sets[k]? = some (some set))
    (hs : s.Holdings) (hlt : ∀ r, s.Owns g k r → r < s'.resources.size)
    (hlevel : ∀ r, s.Owns g k r → (s'.resource r).level = (s.resource r).level) (r : Nat)
    (hr : r ∈ set.toList) :
    (s'.resources[r]?).map Resource.level = (s.resources[r]?).map Resource.level := by
  have ho : s.Owns g k r := ⟨set, hset, hr⟩
  rw [level_getElem? (hs.lt ho), level_getElem? (hlt r ho), hlevel r ho]

/-- **Slots stay** while sets, options and levels do. -/
theorem owned?_eq (hs : s.Holdings) (hsets : (s'.graph g).sets[k]? = (s.graph g).sets[k]?)
    (hoptions : (s'.graph g).options = (s.graph g).options)
    (hlt : ∀ r, s.Owns g k r → r < s'.resources.size)
    (hlevel : ∀ r, s.Owns g k r → (s'.resource r).level = (s.resource r).level) :
    s'.owned? g k = s.owned? g k := by
  unfold owned?
  rw [hsets, hoptions]
  cases hset : (s.graph g).sets[k]? with
  | none => rfl
  | some set =>
    cases set with
    | none => rfl
    | some set => exact ResourceSet.owned?_congr (level_of_mem hset hs hlt hlevel)

/-- So does what one finds. -/
theorem resource?_eq (hs : s.Holdings) (hsets : (s'.graph g).sets[k]? = (s.graph g).sets[k]?)
    (hoptions : (s'.graph g).options = (s.graph g).options)
    (hlt : ∀ r, s.Owns g k r → r < s'.resources.size)
    (hlevel : ∀ r, s.Owns g k r → (s'.resource r).level = (s.resource r).level) :
    s'.resource? g (k : Int) = s.resource? g (k : Int) := by
  rw [resource?_natCast, resource?_natCast, hsets, hoptions]
  cases hset : (s.graph g).sets[k]? with
  | none => rfl
  | some set =>
    cases set with
    | none => rfl
    | some set => exact ResourceSet.lookup?_congr (level_of_mem hset hs hlt hlevel)

/-! ## Resizing -/

/-- The resources of the kernels that a graph has are left alone. -/
theorem resource_resizeSets (hs : s.Holdings) (ho : s.Owns g k r)
    (hk : k < (s.graph g).definition.kernels.length) :
    (s.resizeSets g).resource r = s.resource r := by
  have hkept : r ∉ s.removedResources g := by
    intro hr
    unfold removedResources at hr
    obtain ⟨set, hset, hmem⟩ := List.mem_flatMap.1 hr
    obtain ⟨i, hi⟩ := List.mem_iff_getElem?.1 hset
    rw [List.getElem?_drop] at hi
    cases set with
    | none => cases hmem
    | some set =>
      have heq := (hs.apart ho ⟨set, hi, hmem⟩).2
      omega
  have hresource := resource_foldl_invalidate (s.removedResources g) s r
  rw [if_neg fun h => hkept h.1] at hresource
  rw [resizeSets_eq hs]
  exact hresource

theorem owned?_resizeSets (hs : s.Holdings) (hg : g < s.graphs.size)
    (hk : k < (s.graph g).definition.kernels.length) :
    (s.resizeSets g).owned? g k = s.owned? g k := by
  have hsets : ((s.resizeSets g).graph g).sets[k]? = some (some ((((s.graph g).sets[k]?).join).getD
      (.empty (s.graph g).options.format (s.graph g).options.editor))) := by
    rw [sets_resizeSets hs hg, getElem?_matchedSets, if_pos hk]
  have hoptions : ((s.resizeSets g).graph g).options = (s.graph g).options := by
    rw [graph_resizeSets_eq hs]
  rw [owned?_of_set hsets, hoptions]
  cases hjoin : ((s.graph g).sets[k]?).join with
  | none =>
    rw [Option.getD_none, ResourceSet.owned?_empty, owned?, hjoin]
    rfl
  | some set =>
    have hset : (s.graph g).sets[k]? = some (some set) := Option.join_eq_some_iff.1 hjoin
    rw [Option.getD_some, owned?_of_set hset]
    refine ResourceSet.owned?_congr (level_of_mem hset hs (fun r ho => ?_) fun r ho => ?_)
    · exact Nat.lt_of_lt_of_le (hs.lt ho) (Frame.resizeSets hs g).resources
    · rw [resource_resizeSets hs ho hk]

/-! ## Providing resources -/

/-- Resources hold the programs that they held, and the compilers and the program cache are as they
    were. -/
structure Undisturbed (s s' : Session) : Prop where
  program : ∀ i, (s'.resource i).program = (s.resource i).program
  scripts : s'.scripts = s.scripts
  held : s'.held = s.held
  cache : s'.cache = s.cache

theorem Undisturbed.refl (s : Session) : s.Undisturbed s := ⟨fun _ => rfl, rfl, rfl, rfl⟩

theorem Undisturbed.trans {s'' : Session} (h : s.Undisturbed s') (h' : s'.Undisturbed s'') :
    s.Undisturbed s'' :=
  ⟨fun i => (h'.program i).trans (h.program i), h'.scripts.trans h.scripts, h'.held.trans h.held,
    h'.cache.trans h.cache⟩

theorem Undisturbed.modifyResource (s : Session) (r : Nat) {f : Resource → Resource}
    (hf : ∀ x, (f x).program = x.program) : s.Undisturbed (s.modifyResource r f) := by
  refine ⟨fun i => ?_, rfl, rfl, rfl⟩
  rw [resource_modifyResource]
  split
  · exact hf _
  · rfl

theorem Undisturbed.of_books (h : s.Books s') : s.Undisturbed s' := by
  obtain ⟨_, _, _, rfl⟩ := h
  exact ⟨fun _ => rfl, rfl, rfl, rfl⟩

/-- A kernel was provided with the resource `r`, and nothing else has changed but books and
    files. -/
structure Provided (g k : Nat) (s : Session) (r : Nat) (s' : Session) : Prop
    extends Undisturbed s s' where
  holdings : s'.Holdings
  renews : Renews g s s'
  owns : s'.Owns g k r
  kept : ∀ i < s.resources.size, s'.resource i = s.resource i
  slot : ∀ i ≠ k, s'.owned? g i = s.owned? g i
  filled : s'.owned? g k = some r
  /-- The resource was in the kernel's slot already, unless that was empty. -/
  found : s.owned? g k = some r ∨ s.owned? g k = none ∧ (s.resource r).program = none

theorem Holdings.provided (hs : s.Holdings) (hset : s.HasSet g k) :
    Provided g k s (s.kernelResource g k).1 (s.kernelResource g k).2 := by
  obtain ⟨set, hset⟩ := hset
  obtain ⟨hholdings, hrenews, howns⟩ := hs.kernelResource hset
  have hprovides := kernelResource_provides hs hset
  generalize s.kernelResource g k = out at hholdings hrenews howns hprovides
  cases hprovides with
  | old _ howned =>
    have hslot := (owned?_of_set hset).trans howned
    exact ⟨.refl s, hholdings, hrenews, howns, fun _ _ => rfl, fun _ _ => rfl, hslot, Or.inl hslot⟩
  | @new set' level _ _ _ hempty howned =>
    have hkept : ∀ r < s.resources.size,
        (s.addResource g k set' level).resource r = s.resource r := fun r hr => by
      rw [resource_addResource, if_neg (Nat.ne_of_lt hr)]
    -- there is no resource yet where the new one will be
    have hnone : (s.resource s.resources.size).program = none := by
      rw [Session.resource, Array.getD_eq_getD_getElem?, Array.getElem?_eq_none (Nat.le_refl _)]
      rfl
    refine ⟨⟨fun i => ?_, rfl, rfl, rfl⟩, hholdings, hrenews, howns, hkept, fun i hi => ?_, ?_,
      Or.inr ⟨(owned?_of_set hset).trans hempty, hnone⟩⟩
    · dsimp only
      rw [resource_addResource]
      split
      · rename_i hi
        rw [hi, hnone]
      · rfl
    · refine owned?_eq hs ?_ (options_addResource g).1 (fun r ho => ?_) fun r ho => ?_
      · exact sets_addResource_of_ne fun h => hi h.2
      · dsimp only
        rw [size_addResource]
        exact Nat.lt_succ_of_lt (hs.lt ho)
      · rw [hkept r (hs.lt ho)]
    · rw [owned?_of_set (sets_addResource_self hset), (options_addResource g).1]
      exact howned

theorem files_kernelResource (s : Session) (g k : Nat) :
    (s.kernelResource g k).2.files = s.files := by
  unfold Session.kernelResource
  extract_lets x set
  split
  dsimp only
  split
  · rfl
  · rfl

end

/-! ## Preparing kernels -/

section
variable {R : Session} {g k : Nat} {p q : Prepared} {built : Except GraphError KernelBuild}

/-- What has become of a kernel since the session `R`, given its build. -/
inductive Readied (R : Session) (g k : Nat) (built : Except GraphError KernelBuild)
    (p : Prepared) : Prop
  /-- It could not be built. -/
  | failed {e : GraphError} {r : Nat} (hbuilt : built = .error e)
      (hslot : p.session.owned? g k = some r) (hfailed : k ∈ p.failed)
      (hstate : (p.session.resource r).state = .failed)
      (hresult : (p.session.resource r).result.success = false)
      (herror : (p.session.resource r).result.error = some (.build e))
      (hprogram : (p.session.resource r).program = R.slotProgram g k)
      (hkept : ∀ r', R.owned? g k = some r' → r' = r) : Readied R g k built p
  /-- Its resource has the program of the build. -/
  | reused {b : KernelBuild} {r : Nat} (hbuilt : built = .ok b)
      (hslot : p.session.owned? g k = some r) (hR : R.owned? g k = some r)
      (hreuse : (R.resource r).isReusable b.hashKey = true)
      (hsame : p.session.resource r = R.resource r)
      (hfailed : k ∉ p.failed) (hjobs : k ∉ p.jobs.map Prod.fst) : Readied R g k built p
  /-- It is to be compiled. -/
  | begun {b : KernelBuild} {r : Nat} {name : String} {isDefault : Bool} (hbuilt : built = .ok b)
      (hslot : p.session.owned? g k = some r) (hjob : (k, name, isDefault, r, b) ∈ p.jobs)
      (hreuse : ∀ r', R.owned? g k = some r' → (R.resource r').isReusable b.hashKey = false)
      (hprogram : (p.session.resource r).program = R.slotProgram g k)
      (hkept : ∀ r', R.owned? g k = some r' → r' = r) : Readied R g k built p

/-- Other kernels than `k` were prepared. -/
structure Beside (g k : Nat) (p q : Prepared) : Prop where
  slot : q.session.owned? g k = p.session.owned? g k
  resource : ∀ {r}, p.session.Owns g k r → q.session.resource r = p.session.resource r
  owns : ∀ {r}, p.session.Owns g k r → q.session.Owns g k r
  generation : (q.session.graph g).generation = (p.session.graph g).generation
  failed : k ∈ q.failed ↔ k ∈ p.failed
  jobs : ∀ x : Nat × String × Bool × Nat × KernelBuild, x.1 = k → (x ∈ q.jobs ↔ x ∈ p.jobs)

theorem Beside.refl (g k : Nat) (p : Prepared) : Beside g k p p :=
  ⟨rfl, fun _ => rfl, fun h => h, rfl, Iff.rfl, fun _ _ => Iff.rfl⟩

theorem Beside.trans {q' : Prepared} (h : Beside g k p q) (h' : Beside g k q q') :
    Beside g k p q' where
  slot := h'.slot.trans h.slot
  resource ho := (h'.resource (h.owns ho)).trans (h.resource ho)
  owns ho := h'.owns (h.owns ho)
  generation := h'.generation.trans h.generation
  failed := h'.failed.trans h.failed
  jobs x hx := (h'.jobs x hx).trans (h.jobs x hx)

/-- What has become of a kernel stays while others are prepared. -/
theorem Readied.beside (h : Readied R g k built p) (hpq : Beside g k p q) :
    Readied R g k built q := by
  have hsame : ∀ {r}, p.session.owned? g k = some r →
      q.session.resource r = p.session.resource r := fun hslot =>
        hpq.resource (owns_of_owned? hslot)
  cases h with
  | failed hbuilt hslot hfailed hstate hresult herror hprogram hkept =>
    rw [← hsame hslot] at hstate hresult herror hprogram
    exact .failed hbuilt (hpq.slot.trans hslot) (hpq.failed.2 hfailed)
      hstate hresult herror hprogram
      hkept
  | reused hbuilt hslot hR hreuse hp hfailed hjobs =>
    refine .reused hbuilt (hpq.slot.trans hslot) hR hreuse ((hsame hslot).trans hp)
      (fun h => hfailed (hpq.failed.1 h)) fun h => hjobs ?_
    obtain ⟨x, hx, hk⟩ := List.mem_map.1 h
    exact List.mem_map.2 ⟨x, (hpq.jobs x hk).1 hx, hk⟩
  | begun hbuilt hslot hjob hreuse hprogram hkept =>
    rw [← hsame hslot] at hprogram
    exact .begun hbuilt (hpq.slot.trans hslot) ((hpq.jobs _ rfl).2 hjob) hreuse hprogram hkept

/-! ### One kernel -/

theorem isReusable_of_program_eq_none {x : Resource} (h : x.program = none) (key : String) :
    x.isReusable key = false := by
  unfold Resource.isReusable
  rw [h]
  simp

/-- A resource changes, but not its level: slots stay. -/
theorem owned?_modifyResource {s : Session} (hs : s.Holdings) (r : Nat) {f : Resource → Resource}
    (hf : ∀ x, (f x).level = x.level) (g k : Nat) :
    (s.modifyResource r f).owned? g k = s.owned? g k := by
  refine owned?_eq hs rfl rfl (fun i ho => Nat.lt_of_lt_of_eq (hs.lt ho) Array.size_modify.symm)
    fun i _ => ?_
  rw [resource_modifyResource]
  split
  · exact hf _
  · rfl

/-- What an update builds for a kernel. -/
def buildOutcome (s : Session) (g : Nat) (d : Dialect) (k : Nat) : Graph.BuildOutcome :=
  (s.graph g).definition.build s.files (s.graph g).options.registry k d (s.graph g).options.format

/-- A kernel gets its resource and is built, and then it is decided what becomes of it. -/
theorem Preparation.provided {R : Session} {rest : List Nat} (h : Preparation g R (k :: rest) p)
    (d : Dialect) (kernel : Kernel) (source : KernelSource) : ∃ r s',
      Provided g k p.session r s' ∧ s'.files = (p.session.buildOutcome g d k).files ∧
      Prepares g k kernel source p r s' (p.session.buildOutcome g d k).result
        (Session.prepareKernel g d p k kernel source) := by
  have hprovided := h.holdings.provided (h.sets k (List.mem_cons_self ..))
  have hprepares := prepareKernel_prepares g d p k kernel source
  have hfiles := files_kernelResource p.session g k
  generalize (p.session.kernelResource g k).1 = r at hprovided hprepares
  generalize (p.session.kernelResource g k).2 = s₁ at hprovided hprepares hfiles
  -- the build is that of the graph as it is
  have hbuild : (s₁.graph g).definition.build s₁.files (s₁.graph g).options.registry k d
      (p.session.graph g).options.format = p.session.buildOutcome g d k := by
    rw [buildOutcome, hprovided.renews.graph, hfiles]
  have hresult : (s₁.buildKernel g k d (p.session.graph g).options.format).1 =
      (p.session.buildOutcome g d k).result := congrArg Graph.BuildOutcome.result hbuild
  rw [hresult] at hprepares
  refine ⟨r, _, ?_, congrArg Graph.BuildOutcome.files hbuild, hprepares⟩
  exact ⟨hprovided.toUndisturbed.trans ⟨fun _ => rfl, rfl, rfl, rfl⟩,
    hprovided.holdings.of_eq rfl rfl rfl,
    hprovided.renews.trans (.of_eq rfl rfl rfl rfl rfl rfl rfl), hprovided.owns, hprovided.kept,
    hprovided.slot, hprovided.filled, hprovided.found⟩

section
variable {s' : Session} {r : Nat}

/-- Only the kernel's own resource is touched after it was provided. -/
theorem Provided.beside (h : Provided g k p.session r s') (hp : p.session.Holdings)
    {f : Resource → Resource} (hf : ∀ x, (f x).level = x.level)
    (hq : (s'.modifyResource r f).Books q.session)
    (hfailed : ∀ i ≠ k, (i ∈ q.failed ↔ i ∈ p.failed))
    (hjobs : ∀ x : Nat × String × Bool × Nat × KernelBuild, x.1 ≠ k → (x ∈ q.jobs ↔ x ∈ p.jobs))
    {i : Nat} (hi : i ≠ k) : Beside g i p q := by
  obtain ⟨session, builds, jobs, failed⟩ := q
  dsimp only at hq hfailed hjobs
  obtain ⟨_, _, _, rfl⟩ := hq
  refine ⟨?_, fun {r'} ho => ?_, fun {r'} ho => h.renews.owns ho, ?_, hfailed i hi,
    fun x hx => hjobs x (by rw [hx]; exact hi)⟩
  · exact (owned?_modifyResource h.holdings r hf g i).trans (h.slot i hi)
  · have hne : r ≠ r' := by
      rintro rfl
      exact hi (h.holdings.apart (h.renews.owns ho) h.owns).2
    show (s'.modifyResource r f).resource r' = _
    rw [resource_modifyResource, if_neg fun h => hne h.1, h.kept r' (hp.lt ho)]
  · exact h.renews.generation g

theorem Provided.resource_modifyResource (h : Provided g k p.session r s')
    (f : Resource → Resource) : (s'.modifyResource r f).resource r = f (s'.resource r) := by
  rw [Session.resource_modifyResource, if_pos ⟨rfl, h.holdings.lt h.owns⟩]

end

/-- **One kernel is prepared**; the others are left alone. -/
theorem Preparation.beside {R : Session} {rest : List Nat} (h : Preparation g R (k :: rest) p)
    (d : Dialect) (kernel : Kernel) (source : KernelSource)
    (hq : (Session.prepareKernel g d p k kernel source).1 = .ok q) {i : Nat} (hi : i ≠ k) :
    Beside g i p q := by
  obtain ⟨r, s', hprovided, _, hprepares⟩ := h.provided d kernel source
  generalize Session.prepareKernel g d p k kernel source = out at hprepares hq
  generalize (p.session.buildOutcome g d k).result = built at hprepares
  cases hprepares with
  | stopped => cases hq
  | @failed e result s'' _ _ hs'' _ =>
    cases hq
    refine hprovided.beside h.holdings (q := { p with session := s'', failed := p.failed ++ [k] })
      (f := fun x => x.fail none (s'.graph g).generation result) (fun _ => rfl) ?_ (fun j hj => ?_)
      (fun _ _ => Iff.rfl) hi
    · rw [hs'']
      exact .refl _
    · rw [List.mem_append, List.mem_singleton]
      exact or_iff_left hj
  | @reused b s'' _ hs'' =>
    cases hq
    have hself : s'.modifyResource r (fun x => x) = s' := modifyResource_eq_self rfl
    refine hprovided.beside h.holdings
      (q := { p with session := s'', builds := p.builds ++ [(k, b)] })
      (f := fun x => x) (fun _ => rfl) ?_ (fun _ _ => Iff.rfl) (fun _ _ => Iff.rfl) hi
    rw [hself]
    exact hs''
  | @begun b s'' _ hs'' =>
    cases hq
    refine hprovided.beside h.holdings
      (q := { p with
        session := s''
        builds := p.builds ++ [(k, b)]
        jobs := p.jobs ++ [(k, kernel.name, source.isDefault, r, b)] })
      (f := fun x => x.begin b (s'.graph g).generation) (fun _ => rfl) ?_ (fun _ _ => Iff.rfl)
      (fun x hx => ?_) hi
    · rw [hs'']
      exact .refl _
    · rw [List.mem_append, List.mem_singleton]
      refine or_iff_left ?_
      rintro rfl
      exact hx rfl

/-- The kernel itself is readied according to its build. -/
theorem Preparation.readies {R₀ : Session} {rest : List Nat} (h : Preparation g R₀ (k :: rest) p)
    (d : Dialect) (kernel : Kernel) (source : KernelSource)
    (hslot : p.session.owned? g k = R.owned? g k)
    (hsame : ∀ r, R.owned? g k = some r → p.session.resource r = R.resource r)
    (hdeclared : ∀ e, (p.session.buildOutcome g d k).result ≠ .error (.undeclared e)) :
    ∃ q, (Session.prepareKernel g d p k kernel source).1 = .ok q ∧
      q.session.files = (p.session.buildOutcome g d k).files ∧
      Readied R g k (p.session.buildOutcome g d k).result q := by
  obtain ⟨r, s', hprovided, hfiles, hprepares⟩ := h.provided d kernel source
  have hslot' := hprovided.filled
  have hfilled := hprovided.found
  rw [hslot] at hfilled
  have hmodified := hprovided.resource_modifyResource
  have hslots : ∀ {f : Resource → Resource}, (∀ x, (f x).level = x.level) →
      (s'.modifyResource r f).owned? g k = some r := fun hf =>
    (owned?_modifyResource hprovided.holdings r hf g k).trans hslot'
  -- what the slot held is what it holds
  have hprogram : (s'.resource r).program = R.slotProgram g k := by
    rw [hprovided.program, slotProgram]
    rcases hfilled with hr | ⟨hnone, hr⟩
    · rw [hr, hsame r hr]
      rfl
    · rw [hnone, hr]
      rfl
  have hold : ∀ {r'}, R.owned? g k = some r' → r' = r ∧ s'.resource r = R.resource r := by
    intro r' hr'
    rcases hfilled with hr | ⟨hnone, _⟩
    · rw [hr] at hr'
      cases hr'
      refine ⟨rfl, ?_⟩
      rw [hprovided.kept r (h.holdings.lt (owns_of_owned? (hslot.trans hr))), hsame r hr]
    · rw [hnone] at hr'
      cases hr'
  generalize Session.prepareKernel g d p k kernel source = out at hprepares
  generalize (p.session.buildOutcome g d k).result = built at hprepares hdeclared
  cases hprepares with
  | stopped => exact absurd rfl (hdeclared _)
  | @failed e result s'' _ hresult hs'' herror =>
    subst hs''
    refine ⟨_, rfl, hfiles, .failed (r := r) rfl (hslots (by intro x; rfl))
      (List.mem_append_right _ (List.mem_singleton_self k)) ?_ ?_ ?_ ?_ fun _ hr' => (hold hr').1⟩
    · dsimp only
      rw [hmodified]
      rfl
    · dsimp only
      rw [hmodified]
      exact hresult
    · dsimp only
      rw [hmodified]
      exact herror
    · dsimp only
      rw [hmodified]
      exact hprogram
  | @reused b s'' hreuse hs'' =>
    -- a resource that can be reused was there before
    have hR : R.owned? g k = some r := by
      rcases hfilled with hr | ⟨_, hr⟩
      · exact hr
      · rw [isReusable_of_program_eq_none ((hprovided.program r).trans hr)] at hreuse
        cases hreuse
    obtain ⟨_, heq⟩ := hold hR
    have hapart := List.nodup_append.1 h.apart
    have hfresh : k ∉ p.failed ++ p.jobs.map Prod.fst :=
      fun hk => hapart.2.2 k hk k (List.mem_cons_self ..) rfl
    rw [heq] at hreuse
    obtain ⟨_, _, _, rfl⟩ := hs''
    exact ⟨_, rfl, hfiles, .reused rfl hslot' hR hreuse heq
      (fun hk => hfresh (List.mem_append_left _ hk))
      fun hk => hfresh (List.mem_append_right _ hk)⟩
  | @begun b s'' hreuse hs'' =>
    subst hs''
    refine ⟨_, rfl, hfiles, .begun (r := r) rfl (hslots (by intro x; rfl))
      (List.mem_append_right _ (List.mem_singleton_self _)) (fun r' hr' => ?_) ?_
      fun _ hr' => (hold hr').1⟩
    · obtain ⟨rfl, heq⟩ := hold hr'
      rw [← heq]
      exact hreuse
    · dsimp only
      rw [hmodified]
      exact hprogram

/-! ### All kernels -/

/-- The graph while its kernels are prepared. -/
theorem Preparation.graph {rest : List Nat} (h : Preparation g R rest p) :
    (p.session.graph g).definition = (R.graph g).definition ∧
      (p.session.graph g).options = (R.graph g).options := by
  rw [h.renews.graph]
  exact ⟨rfl, rfl⟩

theorem Preparation.buildOutcome_eq {rest : List Nat} (h : Preparation g R rest p) (d : Dialect)
    (k : Nat) : p.session.buildOutcome g d k = (R.graph g).definition.build p.session.files
      (R.graph g).options.registry k d (R.graph g).options.format := by
  rw [buildOutcome, h.graph.1, h.graph.2]

/-- **All kernels are prepared**: each is readied according to its build. -/
theorem Preparation.readiesAll {d : Dialect} {ks : List (Nat × Kernel × KernelSource)}
    (h : Preparation g R (ks.map Prod.fst) p)
    (huntouched : ∀ k ∈ ks.map Prod.fst, p.session.owned? g k = R.owned? g k ∧
      ∀ r, R.owned? g k = some r → p.session.resource r = R.resource r)
    (hdeclared : ∀ k e, (k, .error (.undeclared e)) ∉ (R.graph g).definition.buildAll
      (R.graph g).options.registry d (R.graph g).options.format ks p.session.files) :
    ∃ q, Session.prepareKernels g d ks p = (.ok q, q.session) ∧
      (∀ x ∈ (R.graph g).definition.buildAll (R.graph g).options.registry d
        (R.graph g).options.format ks p.session.files, Readied R g x.1 x.2 q) ∧
      ∀ i ∉ ks.map Prod.fst, Beside g i p q := by
  induction ks generalizing p with
  | nil => exact ⟨p, rfl, fun x hx => (by cases hx), fun i _ => .refl g i p⟩
  | cons x ks ih =>
    obtain ⟨k, kernel, source⟩ := x
    have hmem : k ∈ ((k, kernel, source) :: ks).map Prod.fst := List.mem_cons_self ..
    obtain ⟨hslot, hsame⟩ := huntouched k hmem
    rw [Graph.buildAll] at hdeclared ⊢
    rw [← h.buildOutcome_eq d k] at hdeclared ⊢
    obtain ⟨q, hq, hfiles, hreadied⟩ := Preparation.readies h d kernel source hslot hsame
      fun e he => hdeclared k e (List.mem_cons.2 (Or.inl (by rw [he])))
    have hbeside : ∀ i ≠ k, Beside g i p q := fun i hi => h.beside d kernel source hq hi
    obtain ⟨_, _, hnext⟩ := h.prepareKernel d kernel source
    obtain ⟨hsession, hpreparation⟩ := hnext q hq
    have hnodup : k ∉ ks.map Prod.fst := by
      have hapart := (List.nodup_append.1 h.apart).2.1
      exact (List.nodup_cons.1 hapart).1
    rw [← hfiles] at hdeclared ⊢
    -- the kernels to come have been left alone
    have huntouched' : ∀ i ∈ ks.map Prod.fst, q.session.owned? g i = R.owned? g i ∧
        ∀ r, R.owned? g i = some r → q.session.resource r = R.resource r := by
      intro i hi
      obtain ⟨hsloti, hsamei⟩ := huntouched i (List.mem_cons_of_mem _ hi)
      have hbesidei := hbeside i fun heq : i = k => hnodup (heq ▸ hi)
      refine ⟨hbesidei.slot.trans hsloti, fun r hr => ?_⟩
      rw [hbesidei.resource (owns_of_owned? (hsloti.trans hr)), hsamei r hr]
    obtain ⟨q', hq', hall, hrest⟩ := ih hpreparation huntouched'
      fun i e he => hdeclared i e (List.mem_cons_of_mem _ he)
    refine ⟨q', ?_, fun x hx => ?_, fun i hi => ?_⟩
    · have hstep : Session.prepareKernel g d p k kernel source = (.ok q, q.session) :=
        Prod.ext hq hsession.symm
      unfold Session.prepareKernels
      rw [hstep]
      exact hq'
    · rcases List.mem_cons.1 hx with rfl | hx
      · exact hreadied.beside (hrest k hnodup)
      · exact hall x hx
    · rw [List.map_cons, List.mem_cons, not_or] at hi
      exact (hbeside i hi.1).trans (hrest i hi.2)

/-! ### Compiles that are begun -/

/-- The resources of the jobs wait for them, and resources hold the programs that they held in the
    session `R`. -/
structure Begun (g : Nat) (R : Session) (p : Prepared) : Prop
    extends Undisturbed R p.session where
  compiling : ∀ x ∈ p.jobs, (p.session.resource x.2.2.2.1).state = .compiling
  generation : ∀ x ∈ p.jobs,
    (p.session.resource x.2.2.2.1).generation = (p.session.graph g).generation

theorem begun_start (g : Nat) (R : Session) : Begun g R { session := R } :=
  ⟨.refl R, fun x hx => (by cases hx), fun x hx => (by cases hx)⟩

theorem Preparation.begun {rest : List Nat} (h : Preparation g R (k :: rest) p) (d : Dialect)
    (kernel : Kernel) (source : KernelSource) (hp : Begun g R p) :
    R.Undisturbed (Session.prepareKernel g d p k kernel source).2 ∧
    ∀ q, (Session.prepareKernel g d p k kernel source).1 = .ok q → Begun g R q := by
  obtain ⟨r, s', hprovided, _, hprepares⟩ := h.provided d kernel source
  have hmodified := hprovided.resource_modifyResource
  have hs' : R.Undisturbed s' := hp.toUndisturbed.trans hprovided.toUndisturbed
  -- the jobs so far are those of other kernels
  have hother : ∀ x ∈ p.jobs, x.1 ≠ k := by
    intro x hx hk
    have hapart := List.nodup_append.1 h.apart
    refine hapart.2.2 k (List.mem_append_right _ ?_) k (List.mem_cons_self ..) rfl
    exact List.mem_map.2 ⟨x, hx, hk⟩
  have hold : ∀ {q : Prepared}, (∀ i ≠ k, Beside g i p q) → ∀ x ∈ p.jobs,
      (q.session.resource x.2.2.2.1).state = .compiling ∧
      (q.session.resource x.2.2.2.1).generation = (q.session.graph g).generation := by
    intro q hbeside x hx
    have hx' := hbeside x.1 (hother x hx)
    rw [hx'.resource (h.owned x hx), hx'.generation]
    exact ⟨hp.compiling x hx, hp.generation x hx⟩
  have hbeside : ∀ q, (Session.prepareKernel g d p k kernel source).1 = .ok q →
      ∀ i ≠ k, Beside g i p q := fun q hq i hi => h.beside d kernel source hq hi
  generalize Session.prepareKernel g d p k kernel source = out at hprepares hbeside
  generalize (p.session.buildOutcome g d k).result = built at hprepares
  cases hprepares with
  | stopped => exact ⟨hs', fun q hq => by cases hq⟩
  | @failed e result s'' _ _ hs'' _ =>
    have hfail : R.Undisturbed s'' := by
      rw [hs'']
      refine hs'.trans (.modifyResource s' r fun _ => ?_)
      rfl
    refine ⟨hfail, fun q hq => ?_⟩
    have hjobs := hold (hbeside q hq)
    cases hq
    exact ⟨hfail, fun x hx => (hjobs x hx).1, fun x hx => (hjobs x hx).2⟩
  | @reused b s'' _ hs'' =>
    have hsame : R.Undisturbed s'' := hs'.trans (.of_books hs'')
    refine ⟨hsame, fun q hq => ?_⟩
    have hjobs := hold (hbeside q hq)
    cases hq
    exact ⟨hsame, fun x hx => (hjobs x hx).1, fun x hx => (hjobs x hx).2⟩
  | @begun b s'' _ hs'' =>
    subst hs''
    have hbegin : R.Undisturbed
        (s'.modifyResource r fun x => x.begin b (s'.graph g).generation) := by
      refine hs'.trans (.modifyResource s' r fun _ => ?_)
      rfl
    refine ⟨hbegin, fun q hq => ?_⟩
    have hjobs := hold (hbeside q hq)
    cases hq
    refine ⟨hbegin, fun x hx => ?_, fun x hx => ?_⟩
    · rcases List.mem_append.1 hx with hx | hx
      · exact (hjobs x hx).1
      · cases List.mem_singleton.1 hx
        dsimp only
        rw [hmodified]
        rfl
    · rcases List.mem_append.1 hx with hx | hx
      · exact (hjobs x hx).2
      · cases List.mem_singleton.1 hx
        dsimp only
        rw [hmodified]
        rfl

theorem Preparation.begunAll {d : Dialect} {ks : List (Nat × Kernel × KernelSource)}
    (h : Preparation g R (ks.map Prod.fst) p) (hp : Begun g R p) :
    R.Undisturbed (Session.prepareKernels g d ks p).2 ∧
    ∀ q, (Session.prepareKernels g d ks p).1 = .ok q → Begun g R q := by
  induction ks generalizing p with
  | nil =>
    refine ⟨hp.toUndisturbed, fun q hq => ?_⟩
    cases hq
    exact hp
  | cons x ks ih =>
    obtain ⟨k, kernel, source⟩ := x
    obtain ⟨hundisturbed, hbegun⟩ := Preparation.begun h d kernel source hp
    obtain ⟨_, _, hnext⟩ := h.prepareKernel d kernel source
    unfold Session.prepareKernels
    split
    · rename_i e s' heq
      rw [heq] at hundisturbed
      exact ⟨hundisturbed, fun q hq => by cases hq⟩
    · rename_i p' s' heq
      exact ih (hnext p' (by rw [heq])).2 (hbegun p' (by rw [heq]))

/-! ### What is built -/

/-- A kernel that is prepared leaves the digests of its build, and its job brings the build. -/
theorem Preparation.brings {rest : List Nat} (h : Preparation g R (k :: rest) p) (d : Dialect)
    (kernel : Kernel) (source : KernelSource)
    (hq : (Session.prepareKernel g d p k kernel source).1 = .ok q) :
    q.session.files = (p.session.buildOutcome g d k).files ∧ ∀ x ∈ q.jobs, x ∈ p.jobs ∨
      x.1 = k ∧ (p.session.buildOutcome g d k).result = .ok x.2.2.2.2 := by
  obtain ⟨r, s', _, hfiles, hprepares⟩ := h.provided d kernel source
  generalize Session.prepareKernel g d p k kernel source = out at hprepares hq
  generalize (p.session.buildOutcome g d k).result = built at hprepares
  cases hprepares with
  | stopped => cases hq
  | failed _ _ hs'' _ =>
    cases hq
    subst hs''
    exact ⟨hfiles, fun x hx => Or.inl hx⟩
  | reused _ hs'' =>
    cases hq
    obtain ⟨_, _, _, rfl⟩ := hs''
    exact ⟨hfiles, fun x hx => Or.inl hx⟩
  | begun _ hs'' =>
    cases hq
    subst hs''
    refine ⟨hfiles, fun x hx => (List.mem_append.1 hx).imp_right fun hx => ?_⟩
    cases List.mem_singleton.1 hx
    exact ⟨rfl, rfl⟩

/-- **The jobs bring the builds of the graph.** -/
theorem Preparation.mem_buildAll {d : Dialect} {ks : List (Nat × Kernel × KernelSource)}
    (h : Preparation g R (ks.map Prod.fst) p) (hq : (Session.prepareKernels g d ks p).1 = .ok q)
    {x : Nat × String × Bool × Nat × KernelBuild} (hx : x ∈ q.jobs) :
    x ∈ p.jobs ∨ (x.1, .ok x.2.2.2.2) ∈ (R.graph g).definition.buildAll
      (R.graph g).options.registry d (R.graph g).options.format ks p.session.files := by
  induction ks generalizing p with
  | nil =>
    cases hq
    exact Or.inl hx
  | cons y ks ih =>
    obtain ⟨k, kernel, source⟩ := y
    rw [Graph.buildAll, ← h.buildOutcome_eq d k]
    unfold Session.prepareKernels at hq
    split at hq
    · cases hq
    · rename_i p' s' heq
      have hp' : (Session.prepareKernel g d p k kernel source).1 = .ok p' := by rw [heq]
      obtain ⟨_, _, hnext⟩ := h.prepareKernel d kernel source
      obtain ⟨hfiles, hjobs⟩ := Preparation.brings h d kernel source hp'
      rcases ih (hnext p' hp').2 hq with hmem | hmem
      · refine (hjobs x hmem).imp_right fun ⟨hk, hbuilt⟩ => ?_
        rw [hk, hbuilt]
        exact List.mem_cons_self ..
      · rw [hfiles] at hmem
        exact Or.inr (List.mem_cons_of_mem _ hmem)

/-- **The preparation stops** only at an interface that asks for what it has not declared. -/
theorem Preparation.stops {d : Dialect} {ks : List (Nat × Kernel × KernelSource)} {e : GraphError}
    (h : Preparation g R (ks.map Prod.fst) p)
    (he : (Session.prepareKernels g d ks p).1 = .error e) :
    ∃ k u, e = .undeclared u ∧ (k, .error (.undeclared u)) ∈ (R.graph g).definition.buildAll
      (R.graph g).options.registry d (R.graph g).options.format ks p.session.files := by
  induction ks generalizing p with
  | nil => cases he
  | cons y ks ih =>
    obtain ⟨k, kernel, source⟩ := y
    rw [Graph.buildAll, ← h.buildOutcome_eq d k]
    unfold Session.prepareKernels at he
    split at he
    · rename_i e' s' heq
      cases he
      obtain ⟨r, s'', _, _, hprepares⟩ := h.provided d kernel source
      rw [heq] at hprepares
      generalize (p.session.buildOutcome g d k).result = built at hprepares
      cases hprepares with
      | stopped => exact ⟨k, _, rfl, List.mem_cons_self ..⟩
    · rename_i p' s' heq
      have hp' : (Session.prepareKernel g d p k kernel source).1 = .ok p' := by rw [heq]
      obtain ⟨_, _, hnext⟩ := h.prepareKernel d kernel source
      obtain ⟨k', u, hu, hmem⟩ := ih (hnext p' hp').2 he
      rw [(Preparation.brings h d kernel source hp').1] at hmem
      exact ⟨k', u, hu, List.mem_cons_of_mem _ hmem⟩

end

end Session

end KernelGraph
