/-
  Who owns which resource.

  The resource sets of a graph hold resources that belong to one kernel each; platform caches have
  resources of their own, and a resource is never handed on.  So the job of an update can only ever
  move the resource of its own kernel.  `Holdings` states this of a session.

  Whatever happens between the preparations of updates leaves a `Frame`: sets stay, are dropped or
  are made without resources, generations grow, and no resource is begun anew.
-/
import KernelGraph.Proofs.Session.Around

namespace KernelGraph

/-! ## Resources that are not begun anew -/

namespace Resource

/-- No compile has begun: the resource waits for the one that it has waited for, or for none. -/
structure Eases (x x' : Resource) : Prop where
  format : x'.format = x.format
  level : x'.level = x.level
  generation : x'.generation = x.generation
  compiling : x'.state = .compiling → x.state = .compiling
  invalidated : x.state = .invalidated → x'.state = .invalidated

/-- The resource is the same, or does not wait for a compile. -/
structure Settles (x x' : Resource) : Prop extends Eases x x' where
  same : x'.state = .compiling → x' = x

theorem Eases.refl (x : Resource) : x.Eases x := ⟨rfl, rfl, rfl, fun h => h, fun h => h⟩

theorem Eases.trans {x x' x'' : Resource} (h : x.Eases x') (h' : x'.Eases x'') : x.Eases x'' where
  format := h'.format.trans h.format
  level := h'.level.trans h.level
  generation := h'.generation.trans h.generation
  compiling hx := h.compiling (h'.compiling hx)
  invalidated hx := h'.invalidated (h.invalidated hx)

theorem Settles.refl (x : Resource) : x.Settles x := ⟨.refl x, fun _ => rfl⟩

/-- A resource that does not wait afterwards settles. -/
theorem Settles.of_ne {x x' : Resource} (hformat : x'.format = x.format)
    (hlevel : x'.level = x.level)
    (hgeneration : x'.generation = x.generation) (hne : x'.state ≠ .compiling)
    (hinvalidated : x.state = .invalidated → x'.state = .invalidated) : x.Settles x' :=
  ⟨⟨hformat, hlevel, hgeneration, fun h => absurd h hne, hinvalidated⟩, fun h => absurd h hne⟩

theorem Eases.setTask (x : Resource) (task n : Nat) : x.Eases (x.setTask task n).2 := by
  unfold Resource.setTask
  split
  · exact ⟨rfl, rfl, rfl, fun h => h, fun h => h⟩
  · exact .refl x

theorem Settles.takeTask (x : Resource) : x.Settles x.takeTask.2 := by
  unfold Resource.takeTask
  split
  · exact .refl x
  · refine .of_ne rfl rfl rfl (fun h => ?_) fun h => ?_
    · dsimp only at h
      split at h
      · cases h
      · contradiction
    · dsimp only
      rw [h]
      rfl

theorem Settles.invalidate (x : Resource) : x.Settles x.invalidate :=
  .of_ne rfl rfl rfl (fun h => (by cases h)) fun _ => rfl

theorem Settles.abandon (x : Resource) (n : Nat) : x.Settles (x.abandon n) := by
  unfold Resource.abandon
  split
  · exact .of_ne rfl rfl rfl (fun h => (by cases h)) fun _ => rfl
  · exact .refl x

theorem Settles.finish (x : Resource) (n : Nat) (program : Option Program) (r : CompileResult) :
    x.Settles (x.finish n program r).2 := by
  unfold Resource.finish
  split
  · rename_i h
    refine .of_ne rfl rfl rfl (fun hx => ?_) fun hx => ?_
    · dsimp only at hx
      split at hx
      · cases hx
      · cases hx
    · simp [hx] at h
  · exact .refl x

end Resource

/-- The set is one that a graph with these options makes. -/
def ResourceSet.Fits (o : GraphOptions) : ResourceSet → Prop
  | .editor format table =>
    o.editor = true ∧ format = o.format ∧ table.length = FeatureLevel.names.length
  | .runtime format _ => o.editor = false ∧ format = o.format

namespace Session

/-- The resource is in the set of a kernel of a graph. -/
def Owns (s : Session) (g k r : Nat) : Prop :=
  ∃ set, (s.graph g).sets[k]? = some (some set) ∧ r ∈ set.toList

/-- Sets are those that their graphs make, and a resource has one owner at most. -/
structure Holdings (s : Session) : Prop where
  fits : ∀ {g k : Nat} {set : ResourceSet}, (s.graph g).sets[k]? = some (some set) →
    set.Fits (s.graph g).options
  lt : ∀ {g k r}, s.Owns g k r → r < s.resources.size
  uncooked : ∀ {g k r}, s.Owns g k r → ¬ s.IsCooked r
  format : ∀ {g k r}, s.Owns g k r → (s.resource r).format = (s.graph g).options.format
  level : ∀ {g k r}, s.Owns g k r → (s.graph g).options.editor = false →
    (s.resource r).level = (s.graph g).options.level
  generation : ∀ {g k r}, s.Owns g k r → (s.resource r).generation ≤ (s.graph g).generation
  apart : ∀ {g k g' k' r}, s.Owns g k r → s.Owns g' k' r → g = g' ∧ k = k'
  cooked : ∀ {r}, s.IsCooked r → r < s.resources.size

/-- The job of an update moves the resource of its own kernel only, and brings the plan of its
    generation, which is not a later one than its graph's and an earlier one once the graph is
    closed. -/
structure JobFits (s : Session) (j : Job) (n : Nat) (plan : Plan) : Prop where
  graph : j.graph < s.graphs.size
  plan : plan.generation = n
  le : n ≤ (s.graph j.graph).generation
  lt : (s.graph j.graph).closed = true → n < (s.graph j.graph).generation
  resource : j.resource < s.resources.size
  uncooked : ¬ s.IsCooked j.resource
  owner : ∀ g k, s.Owns g k j.resource → g = j.graph ∧ k = j.kernel

/-! ## Frames -/

/-- What happens to sessions while no update prepares its kernels and none submits a job. -/
structure Frame (s s' : Session) : Prop where
  size : s.graphs.size ≤ s'.graphs.size
  sets : ∀ (g k : Nat) (set : ResourceSet), (s'.graph g).sets[k]? = some (some set) →
    (s.graph g).sets[k]? = some (some set) ∨ set.toList = [] ∧ set.Fits (s'.graph g).options
  options : ∀ g < s.graphs.size, (s'.graph g).options = (s.graph g).options
  generation : ∀ g, (s.graph g).generation ≤ (s'.graph g).generation
  closed : ∀ g, (s.graph g).closed = true → (s'.graph g).closed = true
  opened : ∀ g, (s'.graph g).closed = true →
    (s.graph g).closed = true ∨ (s.graph g).generation < (s'.graph g).generation
  resources : s.resources.size ≤ s'.resources.size
  eased : ∀ r < s.resources.size, ¬ s.IsCooked r → (s.resource r).Eases (s'.resource r)
  cooked : ∀ r, s.IsCooked r → s'.IsCooked r
  fresh : ∀ r, s'.IsCooked r → s.IsCooked r ∨ s.resources.size ≤ r ∧ r < s'.resources.size
  tasks : s.tasks.size ≤ s'.tasks.size
  jobs : ∀ (id : Nat) (t' : CompileTask), s'.tasks[id]? = some t' →
    (∃ t, s.tasks[id]? = some t ∧ t'.job = t.job) ∨
    s.tasks.size ≤ id ∧ (∃ platform, t'.job.kind = .cook platform) ∧ s'.IsCooked t'.job.resource
  pools : ∀ (p : Nat) (pool' : CompilePool), s'.pools[p]? = some pool' → ∀ id ∈ pool'.ids,
    (∃ pool : CompilePool, s.pools[p]? = some pool ∧ id ∈ pool.ids ∧
      (pool'.isOpen = true → pool.isOpen = true)) ∨
    s.tasks.size ≤ id ∧ id < s'.tasks.size

section
variable {s s' : Session}

theorem Around.frame (h : s.Around s') : s.Frame s' where
  size := h.size
  sets g _ _ hset := Or.inl (by rw [← (h.graph g).sets]; exact hset)
  options := h.options
  generation g := Nat.le_of_eq (h.graph g).generation.symm
  closed g hg := by rw [(h.graph g).closed]; exact hg
  opened g hg := Or.inl (by rw [← (h.graph g).closed]; exact hg)
  resources := h.resources
  eased r hr hc := by rw [h.kept r hr hc]; exact .refl _
  cooked := h.cooked
  fresh := h.fresh
  tasks := h.tasks
  jobs := h.jobs
  pools := h.pools

/-- Resources ease while nothing else of interest changes. -/
theorem Frame.of_steady (h : s.Steady s') (hsize : s'.resources.size = s.resources.size)
    (heased : ∀ r, (s.resource r).Eases (s'.resource r))
    (hjobs : s'.tasks.map CompileTask.job = s.tasks.map CompileTask.job)
    (hpools : s'.pools = s.pools) : s.Frame s' where
  size := Nat.le_of_eq h.graphs.symm
  sets g _ _ hset := Or.inl (by rw [← (h.graph g).sets]; exact hset)
  options g _ := (h.graph g).options
  generation g := Nat.le_of_eq (h.graph g).generation.symm
  closed g hg := by rw [(h.graph g).closed]; exact hg
  opened g hg := Or.inl (by rw [← (h.graph g).closed]; exact hg)
  resources := Nat.le_of_eq hsize.symm
  eased r _ _ := heased r
  cooked r hr := (h.isCooked_iff r).2 hr
  fresh r hr := Or.inl ((h.isCooked_iff r).1 hr)
  tasks := by
    have := congrArg Array.size hjobs
    simp only [Array.size_map] at this
    omega
  jobs id t' ht' := by
    have hid := congrArg (fun a => a[id]?) hjobs
    simp only [Array.getElem?_map, ht', Option.map_some] at hid
    obtain ⟨t, ht, hjob⟩ := Option.map_eq_some_iff.1 hid.symm
    exact Or.inl ⟨t, ht, hjob.symm⟩
  pools p pool hpool id hid := by
    rw [hpools] at hpool
    exact Or.inl ⟨pool, hpool, hid, fun h => h⟩

theorem eases_modifyResource (s : Session) (r : Nat) {f : Resource → Resource}
    (hf : ∀ x : Resource, x.Eases (f x)) (i : Nat) :
    (s.resource i).Eases ((s.modifyResource r f).resource i) := by
  rw [resource_modifyResource]
  split
  · exact hf _
  · exact .refl _

theorem settles_modifyResource (s : Session) (r : Nat) {f : Resource → Resource}
    (hf : ∀ x : Resource, x.Settles (f x)) (i : Nat) :
    (s.resource i).Settles ((s.modifyResource r f).resource i) := by
  rw [resource_modifyResource]
  split
  · exact hf _
  · exact .refl _

theorem map_job_cancelTask (s : Session) (id : Nat) :
    (s.cancelTask id).tasks.map CompileTask.job = s.tasks.map CompileTask.job :=
  map_job_modify s.tasks id (f := fun t => { t with cancelled := true }) fun _ => rfl

theorem Frame.takeTask (s : Session) (r : Nat) : s.Frame (s.takeTask r) := by
  have hconst := modifyResource_const s r fun x => x.takeTask.2
  refine .of_steady (.takeTask s r) ?_ (fun i => ?_) ?_ ?_
  all_goals
    unfold Session.takeTask
    split
    rename_i task resource heq
    rw [heq] at hconst
    split
  · rfl
  · exact Array.size_modify
  · exact .refl _
  · have hease := eases_modifyResource s r (fun x => (Resource.Settles.takeTask x).toEases) i
    rw [← hconst] at hease
    exact hease
  · rfl
  · exact map_job_cancelTask _ _
  · rfl
  · rfl

/-! ## Jobs that come back -/

section
variable {j : Job} {returned : Except (CallError ProgramError) (Program × Bool)}

theorem settle_fields (s : Session) (g : Nat) (plan : Plan) :
    (s.settle g plan).resources = s.resources ∧ (s.settle g plan).tasks = s.tasks ∧
      (s.settle g plan).pools = s.pools ∧ (s.settle g plan).hooks = s.hooks := by
  unfold settle
  split
  · by_cases h : plan.generation ≤ (s.graph g).published
    · rw [publish_of_le h]
      exact ⟨rfl, rfl, rfl, rfl⟩
    · rw [publish_of_lt (Nat.not_le.1 h)]
      exact ⟨rfl, rfl, rfl, rfl⟩
  · exact ⟨rfl, rfl, rfl, rfl⟩

/-- The resource of a job that comes back settles; other resources, tasks and pools are as they
    were. -/
theorem Comes.fields (h : Comes s j returned s') :
    (∃ f : Resource → Resource, (∀ x : Resource, x.Settles (f x)) ∧
      s'.resources = s.resources.modify j.resource f) ∧
    s'.tasks = s.tasks ∧ s'.pools = s.pools := by
  cases h with
  | ignored _ hs =>
    obtain ⟨_, _, _, rfl⟩ := hs
    refine ⟨⟨fun x => x, .refl, ?_⟩, rfl, rfl⟩
    exact (congrArg Session.resources
      (modifyResource_eq_self (s := s) (r := j.resource) (f := fun x => x) rfl)).symm
  | abandoned _ _ hs =>
    obtain ⟨_, _, _, rfl⟩ := hs
    exact ⟨⟨_, fun x => .abandon x _, rfl⟩, rfl, rfl⟩
  | cooked _ _ _ hs =>
    obtain ⟨_, _, _, rfl⟩ := hs
    exact ⟨⟨_, fun x => .finish x _ _ _, rfl⟩, rfl, rfl⟩
  | stale _ _ _ hs =>
    obtain ⟨_, _, _, rfl⟩ := hs
    exact ⟨⟨_, fun x => .finish x _ _ _, rfl⟩, rfl, rfl⟩
  | @current n plan program r t _ _ _ _ ht hs =>
    obtain ⟨hresources, htasks, hpools, _⟩ := settle_fields t j.graph plan
    obtain ⟨_, _, _, rfl⟩ := hs
    obtain ⟨_, _, _, rfl⟩ := ht
    exact ⟨⟨_, fun x => .finish x _ _ _, hresources⟩, htasks, hpools⟩

theorem Comes.frame (h : Comes s j returned s') : s.Frame s' := by
  obtain ⟨⟨f, hf, hresources⟩, htasks, hpools⟩ := h.fields
  refine .of_steady (.comes h) (by rw [hresources, Array.size_modify]) (fun r => ?_)
    (by rw [htasks]) hpools
  have hease := eases_modifyResource s j.resource (fun x => (hf x).toEases) r
  show (s.resource r).Eases (s'.resources.getD r default)
  rw [hresources]
  exact hease

end

/-! ## What frames preserve -/

theorem sets_eq_nil_of_le {g : Nat} (h : s.graphs.size ≤ g) : (s.graph g).sets = [] := by
  rw [Session.graph, Array.getD_eq_getD_getElem?, Array.getElem?_eq_none h]
  rfl

theorem lt_size_of_set {g k : Nat} {set : Option ResourceSet}
    (h : (s.graph g).sets[k]? = some set) : g < s.graphs.size := by
  by_contra hle
  rw [sets_eq_nil_of_le (Nat.le_of_not_lt hle)] at h
  cases h

theorem Owns.lt_size {g k r : Nat} (h : s.Owns g k r) : g < s.graphs.size := by
  obtain ⟨set, hset, _⟩ := h
  exact lt_size_of_set hset

theorem Frame.owns {g k r : Nat} (h : s.Frame s') (ho : s'.Owns g k r) : s.Owns g k r := by
  obtain ⟨set, hset, hr⟩ := ho
  rcases h.sets g k set hset with hold | ⟨hnil, _⟩
  · exact ⟨set, hold, hr⟩
  · rw [hnil] at hr
    cases hr

/-- **Holdings are kept** while no resource is begun anew. -/
theorem Holdings.frame (h : s.Holdings) (hf : s.Frame s') : s'.Holdings where
  fits {g k set} hset := by
    rcases hf.sets g k set hset with hold | ⟨_, hfits⟩
    · rw [hf.options g (lt_size_of_set hold)]
      exact h.fits hold
    · exact hfits
  lt ho := Nat.lt_of_lt_of_le (h.lt (hf.owns ho)) hf.resources
  uncooked ho hc := by
    have hold := hf.owns ho
    rcases hf.fresh _ hc with hc | ⟨hle, _⟩
    · exact h.uncooked hold hc
    · exact Nat.not_lt.2 hle (h.lt hold)
  format ho := by
    have hold := hf.owns ho
    rw [(hf.eased _ (h.lt hold) (h.uncooked hold)).format, hf.options _ hold.lt_size]
    exact h.format hold
  level ho heditor := by
    have hold := hf.owns ho
    rw [hf.options _ hold.lt_size] at heditor ⊢
    rw [(hf.eased _ (h.lt hold) (h.uncooked hold)).level]
    exact h.level hold heditor
  generation ho := by
    have hold := hf.owns ho
    rw [(hf.eased _ (h.lt hold) (h.uncooked hold)).generation]
    exact Nat.le_trans (h.generation hold) (hf.generation _)
  apart ho ho' := h.apart (hf.owns ho) (hf.owns ho')
  cooked hc := by
    rcases hf.fresh _ hc with hc | ⟨_, hlt⟩
    · exact Nat.lt_of_lt_of_le (h.cooked hc) hf.resources
    · exact hlt

theorem JobFits.frame {j : Job} {n : Nat} {plan : Plan} (h : JobFits s j n plan)
    (hf : s.Frame s') : JobFits s' j n plan where
  graph := Nat.lt_of_lt_of_le h.graph hf.size
  plan := h.plan
  le := Nat.le_trans h.le (hf.generation _)
  lt hclosed := by
    rcases hf.opened _ hclosed with hc | hlt
    · exact Nat.lt_of_lt_of_le (h.lt hc) (hf.generation _)
    · exact Nat.lt_of_le_of_lt h.le hlt
  resource := Nat.lt_of_lt_of_le h.resource hf.resources
  uncooked hc := by
    rcases hf.fresh _ hc with hc | ⟨hle, _⟩
    · exact h.uncooked hc
    · exact Nat.not_lt.2 hle h.resource
  owner g k ho := h.owner g k (hf.owns ho)

/-- A job that is awaited after a frame was awaited before. -/
theorem JobFits.awaits {j : Job} {n : Nat} {plan : Plan} (h : JobFits s j n plan)
    (hf : s.Frame s') (hj : s'.Awaits j) : s.Awaits j := by
  have hease := hf.eased _ h.resource h.uncooked
  exact ⟨hease.generation.symm.trans hj.1, hease.compiling hj.2⟩

end

end Session

end KernelGraph
