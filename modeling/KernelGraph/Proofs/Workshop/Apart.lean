/-
  Cooking and run-time compilation keep apart.

  A graph has several sides: its run-time state, and a cache for each platform.  All of them use the
  same workers, the same kind of resources and the same hooks for coming back.  `Duty.Concerns`
  tells the sides that a section works for, and `Attends` says that it leaves the others alone:

  1. Who holds a resource is clear: a kernel of a graph, or an entry of a cache.  So a job moves a
     resource of the side that it is done for.

  2. Every section attends to its own sides.  A cache that is being dropped is on
     no side any more.

  3. So a side stays as it is as long as nobody works for it, whatever happens on the others.
-/
import KernelGraph.Proofs.Workshop.Proxies

namespace KernelGraph

/-- A side of a graph. -/
inductive Side
  /-- Its run-time resources and its proxy. -/
  | runtime
  /-- The cache of a platform. -/
  | cache (platform : String)

/-- The section works for a side of the graph. -/
def Duty.Concerns (d : Duty) (g : Nat) : Side → Prop
  | .runtime => d = .runtime g ∨ d = .close g
  | .cache name => d = .cook g name ∨ d = .list g name ∨ d = .cookAll g ∨ d = .close g

namespace Session

/-- The resource belongs to a side of the graph. -/
def Holds (s : Session) (g : Nat) : Side → Nat → Prop
  | .runtime, r => ∃ k, s.Owns g k r
  | .cache name, r => ∃ p, (s.graph g).cook.lookup name = some p ∧ r ∈ s.platformResources p

/-- The calls of the hook for a graph. -/
def callsOf (s : Session) (g : Nat) : List HookCall := s.hooks.filter fun x => x.graph = g

/-- The sides that a duty does not concern are as they were. -/
structure Attends (d : Duty) (s s' : Session) : Prop where
  graph : ∀ i, ¬ d.Concerns i .runtime → GraphAround (s.graph i) (s'.graph i)
  shown : ∀ i p, ¬ d.Concerns i .runtime → (s.graph i).proxy = some p →
    s'.proxies.getD p default = s.proxies.getD p default
  listed : ∀ i name, ¬ d.Concerns i (.cache name) →
    (s'.graph i).cook.lookup name = (s.graph i).cook.lookup name
  platform : ∀ i name p, ¬ d.Concerns i (.cache name) → (s.graph i).cook.lookup name = some p →
    s'.platforms.getD p default = s.platforms.getD p default
  resource : ∀ i side r, ¬ d.Concerns i side → s.Holds i side r → s'.resource r = s.resource r
  hooks : ∀ i, d ≠ .runtime i → d ≠ .collect → s'.callsOf i = s.callsOf i

section
variable {s s' s'' : Session} {d : Duty} {g p : Nat} {name : String} {j : Job}

/-! ## Sides -/

theorem concerns_runtime (g : Nat) : (Duty.runtime g).Concerns g .runtime := Or.inl rfl

theorem concerns_cook (g : Nat) (name : String) : (Duty.cook g name).Concerns g (.cache name) :=
  Or.inl rfl

theorem concerns_close (g : Nat) (side : Side) : (Duty.close g).Concerns g side := by
  cases side with
  | runtime => exact Or.inr rfl
  | cache name => exact Or.inr (Or.inr (Or.inr rfl))

/-- A cache that belongs to a graph is on the side of its platform, if on any. -/
theorem IsOf.concerns (h : s.IsOf g p) (hl : s.Listing) {i : Nat} {name : String}
    (hp : (s.graph i).cook.lookup name = some p) :
    (Duty.cook g (s.platformName p)).Concerns i (.cache name) := by
  have hlists := lists_of_lookup hp
  rw [hl.name hlists, h.2 hlists]
  exact concerns_cook g name

/-- **A job moves a resource of the side that it is done for.** -/
theorem JobKnown.concerns (h : s.JobKnown j) (hs : s.Holdings)
    (hl : s.Listing) {i : Nat} {side : Side}
    (hr : s.Holds i side j.resource) : (s.duty j).Concerns i side := by
  unfold JobKnown at h
  unfold duty
  cases hkind : j.kind with
  | runtime n plan =>
    rw [hkind] at h
    cases side with
    | runtime =>
      obtain ⟨k, ho⟩ := hr
      rw [(h.owner i k ho).1]
      exact concerns_runtime _
    | cache name =>
      obtain ⟨p, _, hr⟩ := hr
      exact absurd ⟨p, hr⟩ h.uncooked
  | cook p =>
    rw [hkind] at h
    cases side with
    | runtime =>
      obtain ⟨k, ho⟩ := hr
      exact absurd ⟨p, h.1⟩ (hs.uncooked ho)
    | cache name =>
      obtain ⟨p', hp', hr⟩ := hr
      obtain rfl := hl.apart h.1 hr
      exact h.2.concerns hl hp'

/-- An entry of a cache that nobody lists is on no side. -/
theorem ChoreFits.not_holds {x : Chore} (h : s.ChoreFits x) (hs : s.Holdings) (hl : s.Listing)
    {i r : Nat} {side : Side} (hx : x.resource? = some r) : ¬ s.Holds i side r := by
  have hentry := h.entry r hx
  intro hr
  cases side with
  | runtime =>
    obtain ⟨k, ho⟩ := hr
    exact hs.uncooked ho ⟨_, hentry⟩
  | cache name =>
    obtain ⟨p, hp, hr⟩ := hr
    obtain rfl := hl.apart hentry hr
    exact h.delisted (lists_of_lookup hp)

theorem Holds.lt (hs : s.Holdings) {i r : Nat} {side : Side} (hr : s.Holds i side r) :
    r < s.resources.size := by
  cases side with
  | runtime =>
    obtain ⟨k, ho⟩ := hr
    exact hs.lt ho
  | cache name =>
    obtain ⟨p, _, hr⟩ := hr
    exact hs.cooked ⟨p, hr⟩

/-- A resource of a kernel is on the run-time side of its graph only. -/
theorem Owns.concerns {k r : Nat} (ho : s.Owns g k r) (hs : s.Holdings) {i : Nat} {side : Side}
    (hr : s.Holds i side r) : i = g ∧ side = .runtime := by
  cases side with
  | runtime =>
    obtain ⟨k', ho'⟩ := hr
    exact ⟨(hs.apart ho' ho).1, rfl⟩
  | cache name =>
    obtain ⟨p, _, hr⟩ := hr
    exact absurd ⟨p, hr⟩ (hs.uncooked ho)

theorem lookup_filter_ne {α : Type} (xs : List (String × α)) {name name' : String}
    (h : name' ≠ name) :
    (xs.filter fun e => e.1 ≠ name).lookup name' = xs.lookup name' := by
  induction xs with
  | nil => rfl
  | cons e xs ih =>
    obtain ⟨key, value⟩ := e
    by_cases hkey : key = name
    · subst hkey
      rw [List.filter_cons_of_neg (by simp), ih, List.lookup_cons, beq_false_of_ne h]
    · rw [List.filter_cons_of_pos (by simpa using hkey), List.lookup_cons, List.lookup_cons, ih]

/-- All resources of a graph are on its sides. -/
theorem graph_of_mem_allResources (hs : s.Holdings) (hl : s.Listing) {i r : Nat} {side : Side}
    (hmem : r ∈ s.allResources g) (hr : s.Holds i side r) : i = g := by
  rcases List.mem_append.1 hmem with hmem | hmem
  · obtain ⟨k, ho⟩ := mem_graphResources.1 hmem
    exact (ho.concerns hs hr).1
  · obtain ⟨p, hp, hmem⟩ := List.mem_flatMap.1 hmem
    obtain ⟨⟨name, _⟩, hlists, rfl⟩ := List.mem_map.1 hp
    cases side with
    | runtime =>
      obtain ⟨k, ho⟩ := hr
      exact absurd ⟨_, hmem⟩ (hs.uncooked ho)
    | cache name' =>
      obtain ⟨p', hp', hr⟩ := hr
      obtain rfl := hl.apart hmem hr
      exact (hl.alone (lists_of_lookup hp') hlists)

/-! ## Attending -/

namespace Attends

/-- Who holds a resource of another side holds it afterwards. -/
theorem holds (h : Attends d s s') {i r : Nat} {side : Side} (hd : ¬ d.Concerns i side)
    (hr : s.Holds i side r) : s'.Holds i side r := by
  cases side with
  | runtime =>
    obtain ⟨k, set, hset, hmem⟩ := hr
    refine ⟨k, set, ?_, hmem⟩
    rw [(h.graph i hd).sets]
    exact hset
  | cache name =>
    obtain ⟨p, hp, hmem⟩ := hr
    refine ⟨p, (h.listed i name hd).trans hp, ?_⟩
    rw [platformResources, h.platform i name p hd hp]
    exact hmem

theorem trans (h : Attends d s s') (h' : Attends d s' s'') : Attends d s s'' where
  graph i hd := (h.graph i hd).trans (h'.graph i hd)
  shown i p hd hp :=
    (h'.shown i p hd ((h.graph i hd).proxy.trans hp)).trans (h.shown i p hd hp)
  listed i name hd := (h'.listed i name hd).trans (h.listed i name hd)
  platform i name p hd hp :=
    (h'.platform i name p hd ((h.listed i name hd).trans hp)).trans (h.platform i name p hd hp)
  resource i side r hd hr := (h'.resource i side r hd (h.holds hd hr)).trans
    (h.resource i side r hd hr)
  hooks i hd hc := (h'.hooks i hd hc).trans (h.hooks i hd hc)

/-- Graphs, caches, proxies and calls stay, and so do the resources of other sides. -/
theorem of_resources (hgraphs : s'.graphs = s.graphs) (hplatforms : s'.platforms = s.platforms)
    (hproxies : s'.proxies = s.proxies) (hhooks : s'.hooks = s.hooks)
    (hresource : ∀ i side r, ¬ d.Concerns i side → s.Holds i side r →
      s'.resource r = s.resource r) :
    Attends d s s' where
  graph i _ := by
    rw [Session.graph, Session.graph, hgraphs]
    exact .refl _
  shown i p _ _ := by rw [hproxies]
  listed i name _ := by rw [Session.graph, Session.graph, hgraphs]
  platform i name p _ _ := by rw [hplatforms]
  resource := hresource
  hooks i _ _ := by rw [callsOf, callsOf, hhooks]

theorem of_eq (hgraphs : s'.graphs = s.graphs) (hplatforms : s'.platforms = s.platforms)
    (hproxies : s'.proxies = s.proxies) (hhooks : s'.hooks = s.hooks)
    (hresources : s'.resources = s.resources) : Attends d s s' :=
  of_resources hgraphs hplatforms hproxies hhooks fun _ _ r _ _ => by
    rw [Session.resource, Session.resource, hresources]

theorem refl (d : Duty) (s : Session) : Attends d s s := of_eq rfl rfl rfl rfl rfl

/-- A resource changes that is on no side, or on one that the duty concerns. -/
theorem modifyResource (s : Session) (r : Nat) (f : Resource → Resource)
    (hr : ∀ i side, s.Holds i side r → d.Concerns i side) : Attends d s (s.modifyResource r f) :=
  of_resources rfl rfl rfl rfl fun i side r' hd hr' => by
    rw [resource_modifyResource, if_neg]
    rintro ⟨rfl, _⟩
    exact hd (hr i side hr')

/-- A job comes back to such a resource. -/
theorem comeBack (s : Session) (r : Nat) (f : Resource → Resource) (id : Nat)
    (hr : ∀ i side, s.Holds i side r → d.Concerns i side) :
    Attends d s ((s.modifyResource r f).endTask id) :=
  (modifyResource s r f hr).trans (of_eq rfl rfl rfl rfl rfl)

theorem foldl_takeTask (rs : List Nat) (s : Session)
    (hrs : ∀ i side, ∀ r ∈ rs, s.Holds i side r → d.Concerns i side) :
    Attends d s (rs.foldl Session.takeTask s) := by
  have hresource := resource_foldl_takeTask rs s
  obtain ⟨resources, cache, tasks, heq, _⟩ := foldl_takeTask_eq rs s
  rw [heq] at hresource ⊢
  refine of_resources rfl rfl rfl rfl fun i side r hd hr => ?_
  rw [hresource, if_neg]
  exact fun hmem => hd (hrs i side r hmem hr)

/-- A graph changes on sides that the duty concerns. -/
theorem modifyGraph (s : Session) (g : Nat) {f : GraphState → GraphState}
    (hruntime : ¬ d.Concerns g .runtime → ∀ x, GraphAround x (f x))
    (hcook : ∀ name, ¬ d.Concerns g (.cache name) →
      ∀ x, (f x).cook.lookup name = x.cook.lookup name) : Attends d s (s.modifyGraph g f) := by
  have hgraph := graph_modifyGraph s g f
  refine ⟨fun i hd => ?_, fun _ _ _ _ => rfl, fun i name hd => ?_, fun _ _ _ _ _ => rfl,
    fun _ _ _ _ _ => rfl, fun _ _ _ => rfl⟩
  · rw [hgraph]
    split
    · rename_i hi
      exact hruntime (hi.1 ▸ hd) _
    · exact .refl _
  · rw [hgraph]
    split
    · rename_i hi
      exact hcook name (hi.1 ▸ hd) _
    · rfl

/-- The run-time state of a graph changes. -/
theorem modifyRuntime (s : Session) (g : Nat) {f : GraphState → GraphState}
    (hcook : ∀ x, (f x).cook = x.cook) : Attends (.runtime g) s (s.modifyGraph g f) :=
  modifyGraph s g (fun hd => absurd (concerns_runtime g) hd) fun _ _ x => by rw [hcook]

/-- A cache changes that is on no side, or on one that the duty concerns. -/
theorem modifyPlatform (s : Session) (p : Nat) (f : CookPlatform → CookPlatform) {metrics : Metrics}
    {log : List Log.Record} {fatals : List (String × String)}
    (hp : ∀ i name, (s.graph i).cook.lookup name = some p → d.Concerns i (.cache name)) :
    Attends d s { s with platforms := s.platforms.modify p f, metrics, log, fatals } := by
  refine ⟨fun i _ => .refl _, fun _ _ _ _ => rfl, fun _ _ _ => rfl, fun i name q hd hq => ?_,
    fun _ _ _ _ _ => rfl, fun _ _ _ => rfl⟩
  rw [Array.getD_eq_getD_getElem?, Array.getD_eq_getD_getElem?, Array.getElem?_modify, if_neg]
  rintro rfl
  exact hd (hp i name hq)

/-- The hook is called for a graph that the duty concerns. -/
theorem tell {metrics : Metrics} {log : List Log.Record} {fatals : List (String × String)}
    {calls : List HookCall} (s : Session) (g : Nat) (hcalls : ∀ x ∈ calls, x.graph = g) :
    Attends (.runtime g) s { s with metrics, log, fatals, hooks := s.hooks ++ calls } := by
  refine ⟨fun i _ => .refl _, fun _ _ _ _ => rfl, fun _ _ _ => rfl, fun _ _ _ _ _ => rfl,
    fun _ _ _ _ _ => rfl, fun i hd _ => ?_⟩
  have hnone : calls.filter (fun x => x.graph = i) = [] :=
    List.filter_eq_nil_iff.2 fun x hx => by
      rw [hcalls x hx, decide_eq_true_eq]
      exact fun hgi => hd (hgi ▸ rfl)
  unfold callsOf
  dsimp only
  rw [List.filter_append, hnone, List.append_nil]

theorem strike (s : Session) (j : Job) : Attends (.runtime j.graph) s (s.strike j) := by
  have hgraph : Attends (.runtime j.graph) s (s.modifyGraph j.graph fun x =>
      { x with pending := x.pending.filter (· ≠ j.kernel) }) := modifyRuntime s j.graph fun _ => rfl
  exact hgraph.trans (of_eq rfl rfl rfl rfl rfl)

/-- A new proxy leaves the old ones alone. -/
theorem present (s : Session) (hown : ∀ {i p}, (s.graph i).proxy = some p → p < s.proxies.size)
    (g : Nat) (plan : Plan) : Attends (.runtime g) s (s.present g plan) := by
  rcases Nat.lt_or_ge (s.graph g).published plan.generation with hlt | hle
  · obtain ⟨metrics, log, heq⟩ := present_of_lt hlt
    have hgraph : Attends (.runtime g) s (s.modifyGraph g fun x =>
        { x with published := plan.generation, proxy := some s.proxies.size }) :=
      modifyRuntime s g fun _ => rfl
    rw [heq]
    refine ⟨hgraph.graph, fun i p _ hp => ?_, hgraph.listed, hgraph.platform, hgraph.resource,
      hgraph.hooks⟩
    dsimp only
    rw [Array.getD_eq_getD_getElem?, Array.getD_eq_getD_getElem?, Array.getElem?_push,
      if_neg (Nat.ne_of_lt (hown hp))]
  · rw [present_of_le hle]
    exact .refl _ s

theorem tellUpdate (s : Session) (j : Job) (program : Option Program) (r : CompileResult)
    (current : Bool) : Attends (.runtime j.graph) s (s.tellUpdate j program r current) := by
  obtain ⟨_, _, _, _, hcalls, heq⟩ := tellUpdate_eq s j program r current
  rw [heq]
  exact .tell s j.graph hcalls

theorem reportFailure (s : Session) (g k : Nat) : Attends (.runtime g) s (s.reportFailure g k) := by
  obtain ⟨_, _, _, _, hcalls, heq⟩ := reportFailure_tells s g k
  rw [heq]
  exact .tell s g hcalls

theorem tellCook (s : Session) (hl : s.Listing) (hp : s.IsOf j.graph p) (r : CompileResult) :
    Attends (.cook j.graph (s.platformName p)) s (s.tellCook j p r) := by
  obtain ⟨f, _, _, _, _, heq⟩ := tellCook_eq s j p r
  rw [heq]
  exact .modifyPlatform s p f fun i name => hp.concerns hl

theorem announceReady (s : Session) (hl : s.Listing) (hp : s.IsOf g p) :
    Attends (.cook g (s.platformName p)) s (s.announceReady g p) := by
  obtain ⟨f, _, _, heq⟩ := announceReady_eq s g p
  rw [heq]
  exact .modifyPlatform s p f fun i name => hp.concerns hl

/-- A proxy is released that no graph publishes. -/
theorem release (s : Session) (hp : ∀ i, (s.graph i).proxy ≠ some p) {commands : List Nat} :
    Attends d s { s with
      proxies := s.proxies.modify p fun x => { x with released := true }, commands } := by
  refine ⟨fun i _ => .refl _, fun i q _ hq => ?_, fun _ _ _ => rfl, fun _ _ _ _ _ => rfl,
    fun _ _ _ _ _ => rfl, fun _ _ _ => rfl⟩
  dsimp only
  rw [Array.getD_eq_getD_getElem?, Array.getD_eq_getD_getElem?, Array.getElem?_modify, if_neg]
  rintro rfl
  exact hp i hq

theorem releaseProxy (s : Session) (hp : ∀ i, (s.graph i).proxy ≠ some p) (g : Nat) :
    Attends d s (s.releaseProxy g (some p)) := by
  cases hqueue : (s.graph g).options.queue with
  | manual =>
    rw [releaseProxy_of_manual hqueue]
    exact of_eq rfl rfl rfl rfl rfl
  | immediate =>
    rw [releaseProxy_of_immediate hqueue]
    exact release s hp

theorem register (s : Session) (id : Nat) (j : Job)
    (hr : ∀ i side, s.Holds i side j.resource → d.Concerns i side) :
    Attends d s (s.register id j) := by
  have hconst := modifyResource_const s j.resource fun x => (x.setTask id j.generation).2
  unfold Session.register
  split
  rename_i held resource heq
  rw [heq] at hconst
  dsimp only at hconst ⊢
  have htold : Attends d s (s.modifyResource j.resource fun _ => resource) :=
    modifyResource s j.resource _ hr
  split
  · exact htold
  · exact htold.trans (of_eq rfl rfl rfl rfl rfl)

theorem of_reads (h : s.Reads s') : Attends d s s' := by
  obtain ⟨_, _, _, rfl⟩ := h
  exact of_eq rfl rfl rfl rfl rfl

theorem begun (s : Session) (hs : s.Holdings) (g : Nat) :
    Attends (.runtime g) s ((s.begun g).takeAll g) := by
  have hbegun : Attends (.runtime g) s (s.begun g) := modifyRuntime s g fun _ => rfl
  have hholdings : (s.begun g).Holdings := hs.frame
    (.modifyGraph s g fun _ => ⟨rfl, Nat.le_succ _, fun h => h, Or.inl, Or.inl rfl⟩)
  refine hbegun.trans (foldl_takeTask _ _ fun i side r hr hheld => ?_)
  obtain ⟨k, ho⟩ := mem_graphResources.1 hr
  obtain ⟨rfl, rfl⟩ := ho.concerns hholdings hheld
  exact concerns_runtime i

theorem overhauls (hs : s.Holdings) (h : Overhauls g s s') : Attends (.runtime g) s s' where
  graph i hd := by
    rw [h.other i fun hi => hd (hi ▸ concerns_runtime g)]
    exact .refl _
  shown i p _ _ := by rw [h.proxies]
  listed i name _ := by
    by_cases hi : i = g
    · obtain ⟨_, _, _, heq⟩ := h.graph
      rw [hi, heq]
    · rw [h.other i hi]
  platform i name p _ _ := by rw [h.platforms]
  resource i side r hd hr := by
    refine h.kept r (hr.lt hs) fun k ho => hd ?_
    obtain ⟨rfl, rfl⟩ := ho.concerns hs hr
    exact concerns_runtime i
  hooks i _ _ := by rw [callsOf, callsOf, h.hooks]

theorem delist (s : Session) (g : Nat) (name : String) :
    Attends (.cook g name) s (s.delist g name) :=
  modifyGraph s g (fun _ _ => ⟨rfl, rfl, rfl, rfl, rfl, rfl, rfl⟩) fun _ hd x =>
    lookup_filter_ne x.cook fun hname => hd (hname ▸ concerns_cook g name)

theorem delistAll (s : Session) (g : Nat) : Attends (.cookAll g) s (s.delistAll g) :=
  modifyGraph s g (fun _ _ => ⟨rfl, rfl, rfl, rfl, rfl, rfl, rfl⟩) fun _ hd _ =>
    absurd (Or.inr (Or.inr (Or.inl rfl))) hd

theorem chore (hs : s.Holdings) (hl : s.Listing) {x : Chore} (hx : s.ChoreFits x) :
    Attends d s (x.apply s) := by
  cases x with
  | cancel p r =>
    refine foldl_takeTask [r] s fun i side r' hr' hheld => ?_
    cases List.mem_singleton.1 hr'
    exact absurd hheld (hx.not_holds hs hl rfl)
  | silence p =>
    exact .modifyPlatform s p (fun x => { x with announced := true }) fun i name hp =>
      absurd (lists_of_lookup hp) hx.delisted
  | discard p r =>
    exact .modifyResource s r _ fun i side hheld => absurd hheld (hx.not_holds hs hl rfl)

theorem install (s : Session) (hs : s.Holdings) (hl : s.Listing) (g : Nat)
    (platform : TargetPlatform) (formats : List FormatBuilds) :
    Attends (.list g platform.name) s (s.install g platform formats).1 where
  graph i _ := by
    rw [graph_install]
    split
    · exact ⟨rfl, rfl, rfl, rfl, rfl, rfl, rfl⟩
    · exact .refl _
  shown i p _ _ := by rw [proxies_install]
  listed i name hd := by
    rw [graph_install]
    split
    · rename_i hi
      have hne : name ≠ platform.name := fun hname => hd (by
        rw [hname, ← hi.1]
        exact Or.inr (Or.inl rfl))
      rw [List.lookup_append, lookup_filter_ne _ hne, List.lookup_cons, beq_false_of_ne hne,
        List.lookup_nil, Option.or_none]
    · rfl
  platform i name p _ hp := platform_install_of_lt _ _ _ (hl.lt (lists_of_lookup hp))
  resource i side r _ hr := resource_install_of_lt _ _ _ (hr.lt hs)
  hooks i _ _ := by rw [callsOf, callsOf, hooks_install]

theorem shutDown (s : Session) (hs : s.Holdings) (hl : s.Listing) (g : Nat) :
    Attends (.close g) s (s.shutDown g) := by
  have hshut := Tends.shut s g
  have hattends : Attends (.close g) s (s.shut g) :=
    modifyGraph s g (fun hd => absurd (concerns_close g _) hd) fun _ hd =>
      absurd (concerns_close g _) hd
  refine hattends.trans (foldl_takeTask _ _ fun i side r hr hheld => ?_)
  rw [graph_of_mem_allResources (hs.frame hshut.toFrame)
    (hl.of_marks hshut.marks hshut.listed) hr hheld]
  exact concerns_close g side

theorem vacate (s : Session) (hs : s.Holdings) (hl : s.Listing) (g : Nat) :
    Attends (.close g) s (s.vacate g) := by
  have hinvalidated : Attends (.close g) s
      ((s.allResources g).foldl (fun s r => s.modifyResource r Resource.invalidate) s) := by
    have hresource := resource_foldl_invalidate (s.allResources g) s
    rw [foldl_invalidate] at hresource ⊢
    refine of_resources rfl rfl rfl rfl fun i side r hd hr => ?_
    rw [hresource, if_neg]
    rintro ⟨hmem, _⟩
    rw [graph_of_mem_allResources hs hl hmem hr] at hd
    exact hd (concerns_close g side)
  obtain ⟨platforms, metrics, _, hothers, heq⟩ := vacate_eq s g
  rw [foldl_invalidate] at hinvalidated
  have hemptied := hinvalidated.trans (modifyGraph _ g (f := fun x =>
    { x with pending := [], sets := [], cook := [] })
    (fun hd => absurd (concerns_close g _) hd) fun _ hd => absurd (concerns_close g _) hd)
  rw [heq]
  refine ⟨hemptied.graph, hemptied.shown, hemptied.listed, fun i name p hd hp => ?_,
    hemptied.resource, hemptied.hooks⟩
  rw [Array.getD_eq_getD_getElem?, Array.getD_eq_getD_getElem?, hothers p]
  rintro ⟨name', _⟩ hlists rfl
  rw [hl.alone (lists_of_lookup hp) hlists] at hd
  exact hd (concerns_close g _)

theorem retract (s : Session) (g : Nat) : Attends (.close g) s (s.retract g) :=
  modifyGraph s g (fun hd => absurd (concerns_close g _) hd) fun _ hd =>
    absurd (concerns_close g _) hd

end Attends

/-! ## What is kept -/

/-- The run-time side of the graph is as it was: what is outstanding, the generation, the published
    proxy, and its resources with their states. -/
structure RuntimeKept (g : Nat) (s s' : Session) : Prop where
  graph : GraphAround (s.graph g) (s'.graph g)
  shown : ∀ p, (s.graph g).proxy = some p → s'.proxies.getD p default = s.proxies.getD p default
  resources : ∀ k r, s.Owns g k r → s'.resource r = s.resource r

/-- The cache of a platform is as it was, with its entries. -/
structure CacheKept (g : Nat) (name : String) (s s' : Session) : Prop where
  listed : (s'.graph g).cook.lookup name = (s.graph g).cook.lookup name
  cache : ∀ p, (s.graph g).cook.lookup name = some p →
    s'.platforms.getD p default = s.platforms.getD p default
  entries : ∀ p, (s.graph g).cook.lookup name = some p →
    ∀ r ∈ s.platformResources p, s'.resource r = s.resource r

theorem RuntimeKept.refl (g : Nat) (s : Session) : RuntimeKept g s s :=
  ⟨.refl _, fun _ _ => rfl, fun _ _ _ => rfl⟩

theorem RuntimeKept.owns (h : RuntimeKept g s s') {k r : Nat} (ho : s.Owns g k r) :
    s'.Owns g k r := by
  obtain ⟨set, hset, hr⟩ := ho
  exact ⟨set, by rw [h.graph.sets, hset], hr⟩

theorem RuntimeKept.trans (h : RuntimeKept g s s') (h' : RuntimeKept g s' s'') :
    RuntimeKept g s s'' where
  graph := h.graph.trans h'.graph
  shown p hp := (h'.shown p (h.graph.proxy.trans hp)).trans (h.shown p hp)
  resources k r ho := (h'.resources k r (h.owns ho)).trans (h.resources k r ho)

theorem CacheKept.refl (g : Nat) (name : String) (s : Session) : CacheKept g name s s :=
  ⟨rfl, fun _ _ => rfl, fun _ _ _ _ => rfl⟩

theorem CacheKept.trans (h : CacheKept g name s s') (h' : CacheKept g name s' s'') :
    CacheKept g name s s'' where
  listed := h'.listed.trans h.listed
  cache p hp := (h'.cache p (h.listed.trans hp)).trans (h.cache p hp)
  entries p hp r hr := by
    refine (h'.entries p (h.listed.trans hp) r ?_).trans (h.entries p hp r hr)
    rw [platformResources, h.cache p hp]
    exact hr

theorem Attends.runtimeKept (h : Attends d s s') (hd : ¬ d.Concerns g .runtime) :
    RuntimeKept g s s' :=
  ⟨h.graph g hd, fun p hp => h.shown g p hd hp, fun k r ho => h.resource g .runtime r hd ⟨k, ho⟩⟩

theorem Attends.cacheKept (h : Attends d s s') (hd : ¬ d.Concerns g (.cache name)) :
    CacheKept g name s s' :=
  ⟨h.listed g name hd, fun p hp => h.platform g name p hd hp,
    fun p hp r hr => h.resource g (.cache name) r hd ⟨p, hp, hr⟩⟩

end

end Session

namespace Workshop

open Session

section
variable {W W' : Workshop} {d : Duty}

/-! ## Every section -/

theorem attends_settle (h : W.Stocked) (g : Nat) (plan : Plan) :
    Attends (.runtime g) W.session (W.settle g plan).session := by
  unfold settle
  split
  · exact .present W.session (fun hp => (h.own hp).1) g plan
  · exact .refl _ _

theorem attends_strike (h : W.Stocked) (j : Job) (n : Nat) (plan : Plan) :
    Attends (.runtime j.graph) W.session (W.strike j n plan).session := by
  unfold strike
  split
  · have hstruck : Stocked { W with session := W.session.strike j } :=
      h.same (.strike W.session j) rfl rfl fun _ _ hc => hc
    exact (Attends.strike W.session j).trans (attends_settle hstruck _ _)
  · exact .refl _ _

theorem attends_finish (h : W.Stocked) (g : Nat) (plan : Plan) :
    Attends (.runtime g) W.session (W.finish g plan).session := by
  unfold finish
  split
  · exact .present W.session (fun hp => (h.own hp).1) g plan
  · exact .refl _ _

/-- The render queue has got only proxies that nobody publishes. -/
theorem Stocked.not_published_of_command (h : W.Stocked) {p : Nat} (hp : p ∈ W.session.commands)
    (g : Nat) : (W.session.graph g).proxy ≠ some p := by
  refine h.not_published (Or.inr (List.count_pos_iff.1 ?_)) g
  have hcount := List.count_pos_iff.2 hp
  have hqueue := h.queue p
  omega

/-- **Every section attends to its own sides.** -/
theorem Step.attends (hstep : Step d W W') (h : W.Fitting) (hstocked : W.Stocked) :
    Attends d W.session W'.session := by
  have hs := h.holdings
  have hl := h.listing
  cases hstep with
  | aside haside =>
    exact
      { graph := fun i _ => haside.graph i
        shown := fun i p _ _ => by rw [haside.published]
        listed := fun i name _ => by rw [haside.listed]
        platform := fun i name p _ _ => by rw [haside.caches]
        resource := fun i side r _ _ => by rw [Session.resource, Session.resource, haside.store]
        hooks := fun i _ _ => by rw [callsOf, callsOf, haside.told] }
  | collect =>
    exact
      { graph := fun i _ => .refl _
        shown := fun i p _ _ => rfl
        listed := fun i name _ => rfl
        platform := fun i name p _ _ => rfl
        resource := fun i side r _ _ => rfl
        hooks := fun i _ hd => absurd rfl hd }
  | turn _ => exact .refl _ _
  | execute hp => exact .release W.session (hstocked.not_published_of_command hp)
  | handOver hp => exact .releaseProxy W.session (hstocked.not_published (Or.inl hp)) _
  | drop _ _ _ => exact .of_eq rfl rfl rfl rfl rfl
  | abandon ht _ _ _ =>
    exact .comeBack _ _ _ _ fun i side => (h.tasks ht).concerns hs hl
  | deliver ht _ _ _ =>
    exact .comeBack _ _ _ _ fun i side => (h.tasks ht).concerns hs hl
  | @strike _ id t n plan program r _ _ _ => exact attends_strike hstocked t.job n plan
  | tellUpdate _ _ _ => exact .tellUpdate ..
  | tellCook ht hkind _ =>
    exact .tellCook _ hl (isCooked_of_jobKnown (h.tasks ht) hkind).2 _
  | begin _ _ _ => exact .begun _ hs _
  | @prepare _ c g n d p s' hwaiting _ hopen hn hp =>
    have hg : g < W.session.graphs.size := (h.callers c).graph (by rw [hwaiting]; rfl)
    exact .overhauls hs (jobFits_preparedJobs hs hg hopen hp).1
  | @stop _ c g n d e s' hwaiting _ hopen hn hp =>
    have hg : g < W.session.graphs.size := (h.callers c).graph (by rw [hwaiting]; rfl)
    have hoverhaul := overhauls_stopped hs hg hp
    exact .overhauls hs hoverhaul
  | report _ => exact .reportFailure ..
  | enqueue _ => exact .of_eq rfl rfl rfl rfl rfl
  | @register _ c g errand jobs id j hcaller =>
    obtain ⟨t, ht, rfl⟩ := (h.callers c).untold (by rw [hcaller]; rfl)
    exact .register _ _ _ fun i side => (h.tasks ht).concerns hs hl
  | @finishUpdate _ c g plan _ _ => exact attends_finish hstocked g plan
  | delist _ _ _ _ => exact .delist ..
  | delistAll _ _ _ => exact .delistAll ..
  | @chore _ c g next x chores hcaller =>
    exact .chore hs hl ((h.callers c).chores x (by rw [hcaller]; exact List.mem_cons_self ..))
  | @build _ c g platform builds format _ _ _ => exact .of_reads (.buildFormats [format] W.session)
  | install _ _ _ => exact .install _ hs hl ..
  | @finishCook _ c g platform hcaller => exact .announceReady _ hl ((h.callers c).cook hcaller)
  | beginClose _ _ _ _ => exact .shutDown _ hs hl _
  | vacate _ => exact .vacate _ hs hl _
  | retract _ => exact .retract ..

/-! ## Runs -/

theorem Reachable.runs (h : W.Reachable) {duties : Duty → Prop} (hruns : Runs duties W W') :
    W'.Reachable := by
  induction hruns with
  | refl => exact h
  | tail _ hstep ih =>
    obtain ⟨_, _, hstep⟩ := hstep
    exact ih.step hstep

/-- What sections of some duties leave as it is, a run of such sections leaves as it is. -/
theorem Runs.keeps (kept : Session → Session → Prop) {duties : Duty → Prop} (h : W.Reachable)
    (hruns : Runs duties W W') (hrefl : ∀ s, kept s s)
    (htrans : ∀ {s s' s''}, kept s s' → kept s' s'' → kept s s'')
    (hstep : ∀ {d s s'}, duties d → Attends d s s' → kept s s') : kept W.session W'.session := by
  induction hruns with
  | refl => exact hrefl _
  | tail hruns hsection ih =>
    obtain ⟨d, hd, hsection⟩ := hsection
    have hbefore := h.runs hruns
    exact htrans ih (hstep hd (hsection.attends hbefore.fitting hbefore.stocked))

/-- **Cooking and run-time compilation do not interfere**, whatever comes in between.

    1. As long as nobody updates or closes a graph and no job of an update of it comes back, its
       run-time side stays as it is.
    2. As long as no update of it is under way and none of its jobs comes back, the hook is not
       called for it.
    3. As long as nobody begins or clears a platform of the graph, clears all its platforms or
       closes it, and no job of the platform comes back, the cache of the platform stays as it
       is. -/
theorem Reachable.sides_apart (h : W.Reachable) (g : Nat) :
    (∀ W', Runs (fun d => d ≠ .runtime g ∧ d ≠ .close g) W W' →
      RuntimeKept g W.session W'.session) ∧
    (∀ W', Runs (fun d => d ≠ .runtime g ∧ d ≠ .collect) W W' →
      W'.session.callsOf g = W.session.callsOf g) ∧
    ∀ name W', Runs (fun d => d ≠ .cook g name ∧ d ≠ .list g name ∧ d ≠ .cookAll g ∧ d ≠ .close g)
      W W' → CacheKept g name W.session W'.session := by
  refine ⟨fun W' hruns => ?_, fun W' hruns => ?_, fun name W' hruns => ?_⟩
  · refine Runs.keeps (RuntimeKept g) h hruns (.refl g) .trans fun hd hattends =>
      hattends.runtimeKept ?_
    rintro (heq | heq)
    · exact hd.1 heq
    · exact hd.2 heq
  · exact Runs.keeps (fun s s' => s'.callsOf g = s.callsOf g) h hruns (fun _ => rfl)
      (fun h h' => h'.trans h) fun hd hattends => hattends.hooks g hd.1 hd.2
  · refine Runs.keeps (CacheKept g name) h hruns (.refl g name) .trans fun hd hattends =>
      hattends.cacheKept ?_
    rintro (heq | heq | heq | heq)
    · exact hd.1 heq
    · exact hd.2.1 heq
    · exact hd.2.2.1 heq
    · exact hd.2.2.2 heq

end

end Workshop

end KernelGraph
