/-
  Generations: superseded work has no effect.

  Updates of a graph and its closing number the generations.  The proxies that are published bear
  growing numbers; a job of an earlier generation moves no resource but one that still waits for it;
  the hook is called at most once for a kernel and a generation; and nothing is left of a graph that
  was closed.  All of this holds of every interleaving of the sections of updates and of closing
  with jobs that come back in any order and with any outcome.
-/
import KernelGraph.Proofs.Session.Orders
import KernelGraph.Proofs.Session.Published

namespace KernelGraph

namespace Session

/-! ## What has been published -/

/-- The proxies so far, by graph and generation, in the order in which they were published. -/
def publications (s : Session) : List (Nat × Nat) :=
  s.proxies.toList.map fun x => (x.graph, x.generation)

/-- The proxies of a graph bear growing generations, up to its latest one. -/
structure Shown (s : Session) : Prop where
  growing : s.publications.Pairwise fun x y => x.1 = y.1 → x.2 < y.2
  published : ∀ x ∈ s.publications, x.2 ≤ (s.graph x.1).published
  le : ∀ g, (s.graph g).published ≤ (s.graph g).generation

/-- Nothing is left of the graph. -/
def Spent (x : GraphState) : Prop := x.sets = [] ∧ x.pending = [] ∧ x.proxy = none

/-- No proxy is published, and a graph of which nothing is left stays so once it is closed. -/
structure Quiet (s s' : Session) : Prop where
  publications : s'.publications = s.publications
  published : ∀ g, (s'.graph g).published = (s.graph g).published
  generation : ∀ g, (s.graph g).generation ≤ (s'.graph g).generation
  spent : ∀ g, (s.graph g).closed = true → Spent (s.graph g) → Spent (s'.graph g)

section
variable {s s' s'' : Session} {g : Nat} {plan : Plan}

theorem Quiet.trans (h : s.Quiet s') (h' : s'.Quiet s'')
    (hclosed : ∀ g, (s.graph g).closed = true → (s'.graph g).closed = true) : s.Quiet s'' where
  publications := h'.publications.trans h.publications
  published g := (h'.published g).trans (h.published g)
  generation g := Nat.le_trans (h.generation g) (h'.generation g)
  spent g hg hspent := h'.spent g (hclosed g hg) (h.spent g hg hspent)

theorem Quiet.of_graph (hproxies : s'.proxies = s.proxies)
    (hgraph : ∀ g, s'.graph g = s.graph g) : s.Quiet s' where
  publications := by unfold Session.publications; rw [hproxies]
  published g := by rw [hgraph]
  generation g := Nat.le_of_eq (by rw [hgraph])
  spent g _ hspent := by rw [hgraph]; exact hspent

theorem Quiet.of_graphs (hproxies : s'.proxies = s.proxies) (hgraphs : s'.graphs = s.graphs) :
    s.Quiet s' :=
  .of_graph hproxies fun g => by rw [Session.graph, Session.graph, hgraphs]

theorem Quiet.around (h : s.Around s') : s.Quiet s' where
  publications := by
    have hmap := congrArg (List.map fun x : RenderProxy => (x.graph, x.generation)) h.proxies
    rw [List.map_map, List.map_map] at hmap
    exact hmap
  published g := (h.graph g).published
  generation g := Nat.le_of_eq (h.graph g).generation.symm
  spent g _ hspent := by
    rw [Spent, (h.graph g).sets, (h.graph g).pending, (h.graph g).proxy]
    exact hspent

/-- A graph changes that is open, or of which nothing is left afterwards. -/
theorem Quiet.modifyGraph (s : Session) (g : Nat) {f : GraphState → GraphState}
    (hf : ∀ x, (f x).published = x.published ∧ x.generation ≤ (f x).generation)
    (hspent : (s.graph g).closed = true → Spent (s.graph g) → Spent (f (s.graph g))) :
    s.Quiet (s.modifyGraph g f) where
  publications := rfl
  published i := by
    rw [graph_modifyGraph]
    split
    · exact (hf _).1
    · rfl
  generation i := by
    rw [graph_modifyGraph]
    split
    · exact (hf _).2
    · exact Nat.le_refl _
  spent i hi hspent' := by
    rw [graph_modifyGraph]
    split
    · rename_i hg
      rw [← hg.1] at hi hspent' ⊢
      exact hspent hi hspent'
    · exact hspent'

theorem Quiet.lock (s : Session) (g : Nat) : s.Quiet (s.lock g) :=
  .modifyGraph s g (fun _ => ⟨rfl, Nat.le_refl _⟩) fun _ h => h

theorem Shown.quiet (h : s.Shown) (hq : s.Quiet s') : s'.Shown where
  growing := by
    rw [hq.publications]
    exact h.growing
  published x hx := by
    rw [hq.publications] at hx
    rw [hq.published]
    exact h.published x hx
  le g := by
    rw [hq.published]
    exact Nat.le_trans (h.le g) (hq.generation g)

/-- Releasing a proxy leaves what has been published. -/
theorem publications_release (ps : Array RenderProxy) (i : Nat) :
    (ps.modify i fun x => { x with released := true }).toList.map
      (fun x => (x.graph, x.generation)) = ps.toList.map fun x => (x.graph, x.generation) := by
  apply List.ext_getElem?
  intro k
  simp only [List.getElem?_map, Array.getElem?_toList, Array.getElem?_modify]
  split
  · rw [Option.map_map]
    rfl
  · rfl

theorem publications_publish_of_lt (h : (s.graph g).published < plan.generation) :
    (s.publish g plan).publications = s.publications ++ [(g, plan.generation)] := by
  unfold publications
  rcases proxies_publish_of_lt h with hproxies | ⟨i, _, hproxies⟩
  · rw [hproxies, Array.toList_push, List.map_append]
    rfl
  · rw [hproxies, publications_release, Array.toList_push, List.map_append]
    rfl

/-- **Publishing** a plan that is not from a later generation keeps the order. -/
theorem Shown.publish (h : s.Shown) (hg : g < s.graphs.size)
    (hle : plan.generation ≤ (s.graph g).generation) : (s.publish g plan).Shown := by
  by_cases hlt : plan.generation ≤ (s.graph g).published
  · rw [publish_of_le hlt]
    exact h
  · have hlt' := Nat.not_le.1 hlt
    have hgraph : ∀ i, (s.publish g plan).graph i = if g = i ∧ g < s.graphs.size then
        { s.graph i with published := plan.generation, proxy := some s.proxies.size }
        else s.graph i := by
      intro i
      rw [publish_of_lt hlt']
      exact graph_modifyGraph s g _ i
    have hpublished : ∀ i, (s.graph i).published ≤ ((s.publish g plan).graph i).published := by
      intro i
      rw [hgraph]
      split
      · rename_i hi
        rw [← hi.1]
        exact Nat.le_of_lt hlt'
      · exact Nat.le_refl _
    refine ⟨?_, fun x hx => ?_, fun i => ?_⟩
    · rw [publications_publish_of_lt hlt', List.pairwise_append]
      refine ⟨h.growing, List.pairwise_singleton _ _, fun x hx y hy hxy => ?_⟩
      cases List.mem_singleton.1 hy
      have hx' := h.published x hx
      rw [hxy] at hx'
      exact Nat.lt_of_le_of_lt hx' hlt'
    · rw [publications_publish_of_lt hlt'] at hx
      rcases List.mem_append.1 hx with hx | hx
      · exact Nat.le_trans (h.published x hx) (hpublished x.1)
      · cases List.mem_singleton.1 hx
        exact Nat.le_of_eq (by rw [hgraph, if_pos ⟨rfl, hg⟩])
    · rw [hgraph]
      split
      · rename_i hi
        rw [← hi.1]
        exact hle
      · exact h.le i

theorem graph_publish_of_ne {i : Nat} (hi : i ≠ g) : (s.publish g plan).graph i = s.graph i := by
  by_cases hlt : plan.generation ≤ (s.graph g).published
  · rw [publish_of_le hlt]
  · rw [publish_of_lt (Nat.not_le.1 hlt)]
    have hgraph := graph_modifyGraph s g (fun x =>
      { x with published := plan.generation, proxy := some s.proxies.size }) i
    rw [if_neg fun h => hi h.1.symm] at hgraph
    exact hgraph

/-- **A job that comes back** publishes nothing, or it is of the current generation and its plan is
    published after it has left the outstanding kernels. -/
theorem Comes.quiet {j : Job} {returned : Except (CallError ProgramError) (Program × Bool)}
    (h : Comes s j returned s') : s.Quiet s' ∨
      ∃ n plan t, j.kind = .runtime n plan ∧ n = (s.graph j.graph).generation ∧ s.Quiet t ∧
        s.Steady t ∧ (t.publish j.graph plan).Quiet s' ∧
        ∀ i, s'.graph i = (t.publish j.graph plan).graph i := by
  cases h with
  | ignored _ hs =>
    obtain ⟨_, _, _, rfl⟩ := hs
    exact Or.inl (.of_graphs rfl rfl)
  | abandoned _ _ hs =>
    obtain ⟨_, _, _, rfl⟩ := hs
    exact Or.inl (.of_graphs rfl rfl)
  | cooked _ _ _ hs =>
    obtain ⟨_, _, _, rfl⟩ := hs
    exact Or.inl (.of_graphs rfl rfl)
  | stale _ _ _ hs =>
    obtain ⟨_, _, _, rfl⟩ := hs
    exact Or.inl (.of_graphs rfl rfl)
  | @current n plan program r t _ hkind hn _ ht hs =>
    have hremoved : (s.modifyResource j.resource fun x => (x.finish n program r).2).Quiet
        ((s.modifyResource j.resource fun x => (x.finish n program r).2).modifyGraph j.graph
          fun x => { x with pending := x.pending.filter (· ≠ j.kernel) }) := by
      refine .modifyGraph _ _ (fun x => ⟨rfl, Nat.le_refl _⟩) fun _ hspent => ?_
      refine ⟨hspent.1, ?_, hspent.2.2⟩
      rw [hspent.2.1]
      rfl
    have hsteady : s.Steady t :=
      (((Steady.modifyResource s j.resource fun x => (x.finish n program r).2).trans
        (.modifyGraph _ j.graph
          (f := fun x => { x with pending := x.pending.filter (· ≠ j.kernel) })
          fun x => ⟨rfl, rfl, rfl, rfl, rfl, rfl, rfl⟩))).trans (.of_books ht)
    have hquiet : s.Quiet t := by
      obtain ⟨_, _, _, rfl⟩ := ht
      exact ⟨hremoved.publications, hremoved.published, hremoved.generation, hremoved.spent⟩
    obtain ⟨_, _, _, rfl⟩ := hs
    unfold settle
    split
    · exact Or.inr ⟨n, plan, t, hkind, hn, hquiet, hsteady, .of_graphs rfl rfl, fun _ => rfl⟩
    · exact Or.inl ⟨hquiet.publications, hquiet.published, hquiet.generation, hquiet.spent⟩

/-- Preparing the kernels of an open graph publishes nothing. -/
theorem Quiet.resizeSets (hs : s.Holdings) (hopen : (s.graph g).closed = false) :
    s.Quiet (s.resizeSets g) where
  publications := by
    unfold Session.publications
    rw [resizeSets_eq hs, foldl_invalidate]
    rfl
  published i := by rw [graph_resizeSets_eq hs]
  generation i := Nat.le_of_eq (by rw [graph_resizeSets_eq hs])
  spent i hi hspent := by
    rw [graph_resizeSets hs, if_neg]
    · exact hspent
    · intro h
      rw [← h.1, hopen] at hi
      cases hi

theorem Quiet.renews (hr : Renews g s s') (hopen : (s.graph g).closed = false) : s.Quiet s' where
  publications := by unfold Session.publications; rw [hr.proxies]
  published i := by
    by_cases hi : i = g
    · rw [hi, hr.graph]
    · rw [hr.other i hi]
  generation i := Nat.le_of_eq (hr.generation i).symm
  spent i hi hspent := by
    have hne : i ≠ g := fun heq => by
      rw [heq, hopen] at hi
      cases hi
    rw [hr.other i hne]
    exact hspent

theorem Quiet.setPending (hopen : (s.graph g).closed = false) (pending : List Nat) :
    s.Quiet (s.setPending g pending) := by
  have hquiet : s.Quiet (s.modifyGraph g fun x => { x with pending }) :=
    .modifyGraph s g (fun x => ⟨rfl, Nat.le_refl _⟩) fun hclosed => by
      rw [hopen] at hclosed
      cases hclosed
  exact ⟨hquiet.publications, hquiet.published, hquiet.generation, hquiet.spent⟩

/-! ## Resources that are kept or invalidated -/

/-- The resource is one of the graph's, or is invalidated for good. -/
structure Retained (s : Session) (g r : Nat) : Prop where
  lt : r < s.resources.size
  uncooked : ¬ s.IsCooked r
  owner : ∀ i k, s.Owns i k r → i = g
  held : (∃ k, s.Owns g k r) ∨ (s.resource r).state = .invalidated

theorem Holdings.retained {k r : Nat} (h : s.Holdings) (ho : s.Owns g k r) : s.Retained g r :=
  ⟨h.lt ho, h.uncooked ho, fun _ _ ho' => (h.apart ho' ho).1, Or.inl ⟨k, ho⟩⟩

theorem Retained.frame {r : Nat} (h : s.Retained g r) (hf : s.Frame s')
    (hheld : ∀ k, s.Owns g k r → (∃ k, s'.Owns g k r) ∨ (s'.resource r).state = .invalidated) :
    s'.Retained g r where
  lt := Nat.lt_of_lt_of_le h.lt hf.resources
  uncooked hc := by
    rcases hf.fresh r hc with hc | ⟨hle, _⟩
    · exact h.uncooked hc
    · exact absurd h.lt (Nat.not_lt.2 hle)
  owner i k ho := h.owner i k (hf.owns ho)
  held := by
    rcases h.held with ⟨k, ho⟩ | hinvalidated
    · exact hheld k ho
    · exact Or.inr ((hf.eased r h.lt h.uncooked).invalidated hinvalidated)

/-- A frame that leaves the sets of the graph. -/
theorem Retained.of_sets {r : Nat} (h : s.Retained g r) (hf : s.Frame s')
    (hsets : (s'.graph g).sets = (s.graph g).sets) : s'.Retained g r :=
  h.frame hf fun k ho => Or.inl ⟨k, by rw [Owns, hsets]; exact ho⟩

theorem Retained.renews {i r : Nat} (h : s.Retained g r) (hr : Renews i s s') :
    s'.Retained g r where
  lt := Nat.lt_of_lt_of_le h.lt hr.resources
  uncooked hc := h.uncooked ((hr.isCooked_iff r).1 hc)
  owner j k ho := by
    rcases hr.fresh ho with ho | hle
    · exact h.owner j k ho
    · exact absurd h.lt (Nat.not_lt.2 hle)
  held := by
    rcases h.held with ⟨k, ho⟩ | hinvalidated
    · exact Or.inl ⟨k, hr.owns ho⟩
    · rcases hr.kept r h.lt with heq | ⟨⟨k, ho⟩, _⟩
      · exact Or.inr (by rw [heq]; exact hinvalidated)
      · rw [h.owner i k ho] at ho
        exact Or.inl ⟨k, hr.owns ho⟩

/-- The resources of removed kernels are invalidated. -/
theorem Retained.resizeSets {i r : Nat} (h : s.Retained g r) (hs : s.Holdings) :
    (s.resizeSets i).Retained g r := by
  refine h.frame (.resizeSets hs i) fun k ho => ?_
  have hgraph := graph_resizeSets hs i g
  by_cases hi : i = g ∧ i < s.graphs.size
  · rw [if_pos hi] at hgraph
    obtain ⟨set, hset, hr⟩ := ho
    by_cases hk : k < (s.graph i).definition.kernels.length
    · refine Or.inl ⟨k, set, ?_, hr⟩
      rw [hgraph, getElem?_matchedSets, if_pos hk, hi.1, hset]
      rfl
    · -- the kernel was removed
      have hremoved : r ∈ s.removedResources i := by
        refine List.mem_flatMap.2 ⟨some set, ?_, hr⟩
        refine List.mem_of_getElem? (i := k - (s.graph i).definition.kernels.length) ?_
        rw [List.getElem?_drop, Nat.add_sub_cancel' (Nat.le_of_not_lt hk), hi.1]
        exact hset
      refine Or.inr ?_
      have hresource := resource_foldl_invalidate (s.removedResources i) s r
      rw [if_pos ⟨hremoved, h.lt⟩] at hresource
      have hsame : (s.resizeSets i).resource r = (s.resource r).invalidate := by
        rw [resizeSets_eq hs, ← hresource]
        rfl
      rw [hsame]
      rfl
  · rw [if_neg hi] at hgraph
    exact Or.inl ⟨k, by rw [Owns, hgraph]; exact ho⟩

theorem fields_releaseProxy (s : Session) (g : Nat) (proxy : Option Nat) :
    (s.releaseProxy g proxy).resources = s.resources ∧
      (s.releaseProxy g proxy).publications = s.publications := by
  unfold Session.releaseProxy
  split
  · exact ⟨rfl, rfl⟩
  · split
    · exact ⟨rfl, rfl⟩
    · exact ⟨rfl, publications_release _ _⟩

/-- Closing invalidates the resources, and publishes nothing. -/
theorem fields_finishClose (s : Session) (g : Nat) : (s.finishClose g).resources =
    ((s.allResources g).foldl (fun s r => s.modifyResource r Resource.invalidate) s).resources ∧
      (s.finishClose g).publications = s.publications := by
  have hempty : ∀ (s : Session) (cook : List Nat),
      (s.emptyGraph g cook).resources = s.resources ∧
        (s.emptyGraph g cook).publications = s.publications := by
    intro s cook
    unfold Session.emptyGraph
    extract_lets settled announced proxy emptied
    exact fields_releaseProxy emptied g proxy
  unfold Session.finishClose
  refine ⟨(hempty _ _).1, (hempty _ _).2.trans ?_⟩
  rw [foldl_invalidate]
  rfl

/-- The resources of a graph are invalidated when it is closed. -/
theorem Retained.finishClose {i r : Nat} (h : s.Retained g r) : (s.finishClose i).Retained g r := by
  refine h.frame (.finishClose s i) fun k ho => ?_
  have hgraph := graph_finishClose s i g
  by_cases hi : i = g ∧ i < s.graphs.size
  · obtain ⟨set, hset, hr⟩ := ho
    have hlisted : r ∈ s.allResources i := by
      refine List.mem_append_left _ (List.mem_flatMap.2 ⟨some set, ?_, hr⟩)
      rw [hi.1]
      exact List.mem_of_getElem? hset
    have hresource := resource_foldl_invalidate (s.allResources i) s r
    rw [if_pos ⟨hlisted, h.lt⟩] at hresource
    have hsame : (s.finishClose i).resource r = (s.resource r).invalidate := by
      rw [← hresource, Session.resource, (fields_finishClose s i).1]
      rfl
    exact Or.inr (by rw [hsame]; rfl)
  · rw [if_neg hi] at hgraph
    exact Or.inl ⟨k, by rw [Owns, hgraph]; exact ho⟩

end

end Session

/-! ## Every section -/

namespace World

open Session

variable {w w' : World} {g : Nat}

/-- The world is in order: resources have one owner, hook calls are made once, proxies have growing
    generations, and nothing is left of closed graphs. -/
structure Orderly (w : World) : Prop where
  holdings : w.session.Holdings
  orders : w.Orders
  shown : w.session.Shown
  spent : ∀ g, (w.session.graph g).closed = true → w.closing g = false → Spent (w.session.graph g)

theorem orderly_start (files : FileStore) (scripts : List Script) (limit : Int) :
    Orderly { session := { files, scripts, cache := .empty limit } } := by
  have hnot : ∀ g k r, ¬ Session.Owns { files, scripts, cache := .empty limit } g k r := by
    rintro g k r ⟨set, hset, _⟩
    cases hset
  have hcooked : ∀ r, ¬ Session.IsCooked { files, scripts, cache := .empty limit } r := by
    rintro r ⟨p, hp⟩
    cases hp
  exact
    { holdings :=
        { fits := fun hset => by cases hset
          lt := fun ho => absurd ho (hnot _ _ _)
          uncooked := fun ho => absurd ho (hnot _ _ _)
          format := fun ho => absurd ho (hnot _ _ _)
          level := fun ho => absurd ho (hnot _ _ _)
          generation := fun ho => absurd ho (hnot _ _ _)
          apart := fun ho => absurd ho (hnot _ _ _)
          cooked := fun hc => absurd hc (hcooked _) }
      orders :=
        { fits := fun t ht => absurd ht (Array.not_mem_empty t)
          cooked := fun t ht => absurd ht (Array.not_mem_empty t)
          unique := fun ht => by cases ht
          calls := .nil
          le := fun m hm => by cases hm
          past := fun t ht => absurd ht (Array.not_mem_empty t)
          phases := fun _ => trivial }
      shown :=
        { growing := .nil
          published := fun x hx => by cases hx
          le := fun _ => Nat.le_refl _ }
      spent := fun g hclosed => by cases hclosed }

/-- Where nothing is published, what is shown stays in order. -/
theorem Orderly.quiet {s' : Session} (h : w.Orderly) (hq : w.session.Quiet s')
    (hclosed : ∀ g, (s'.graph g).closed = true → (w.session.graph g).closed = true) :
    s'.Shown ∧ ∀ g, (s'.graph g).closed = true → w.closing g = false → Spent (s'.graph g) :=
  ⟨h.shown.quiet hq, fun g hg hopen => hq.spent g (hclosed g hg) (h.spent g (hclosed g hg) hopen)⟩

/-- A graph that is not closed publishes a plan. -/
theorem shown_publish {s s' : Session} {closing : Nat → Bool} {plan : Plan} (hs : s.Shown)
    (hspent : ∀ g, (s.graph g).closed = true → closing g = false → Spent (s.graph g))
    (hg : g < s.graphs.size) (hopen : (s.graph g).closed = false)
    (hle : plan.generation ≤ (s.graph g).generation) (hq : (s.publish g plan).Quiet s')
    (hgraph : ∀ i, s'.graph i = (s.publish g plan).graph i) :
    s'.Shown ∧ ∀ g, (s'.graph g).closed = true → closing g = false → Spent (s'.graph g) := by
  refine ⟨(hs.publish hg hle).quiet hq, fun i hi hclosing => ?_⟩
  have hclosed := ((Steady.publish s g plan).graph i).closed
  rw [hgraph, hclosed] at hi
  have hne : i ≠ g := fun heq => by
    rw [heq, hopen] at hi
    cases hi
  rw [hgraph, graph_publish_of_ne hne]
  exact hspent i hi hclosing

theorem Orderly.waits (h : w.Orderly) {n : Nat} (hwaiting : w.phase g = .waiting n) :
    Waits w.session w.calls g n := by
  have hfits := h.orders.phases g
  rw [hwaiting] at hfits
  exact hfits

/-- Preparing publishes nothing and closes no graph. -/
theorem Orderly.prepare_quiet (h : w.Orderly) {n : Nat} {d : Dialect}
    (hwaiting : w.phase g = .waiting n) (hopen : (w.session.graph g).closed = false) :
    let out := prepareKernels g d ((w.session.resizeSets g).graph g).definition.compilable
      { session := w.session.resizeSets g }
    w.session.Quiet out.2 ∧ ∀ i, (out.2.graph i).closed = (w.session.graph i).closed := by
  intro out
  obtain ⟨_, hrenews, _⟩ :=
    (Preparation.resizeSets h.holdings (h.waits hwaiting).graph).prepareKernels (d := d)
  have hclosed : ∀ i, ((w.session.resizeSets g).graph i).closed =
      (w.session.graph i).closed := fun i => by rw [graph_resizeSets_eq h.holdings]
  refine ⟨(Quiet.resizeSets h.holdings hopen).trans (.renews hrenews ?_) fun i hi => ?_,
    fun i => ?_⟩
  · rw [hclosed]
    exact hopen
  · rw [hclosed]
    exact hi
  · exact (hrenews.closed i).trans (hclosed i)

/-- **Every section** keeps what is shown in order. -/
theorem Orderly.shown_step (h : w.Orderly) (hstep : Step w w') : w'.session.Shown ∧
    ∀ g, (w'.session.graph g).closed = true → w'.closing g = false →
      Spent (w'.session.graph g) := by
  cases hstep with
  | around haround =>
    exact h.quiet (.around haround) fun g hg => by rw [← (haround.graph g).closed]; exact hg
  | take r =>
    have hgraphs : (w.session.takeTask r).graphs = w.session.graphs ∧
        (w.session.takeTask r).proxies = w.session.proxies := by
      unfold Session.takeTask
      split
      split
      · exact ⟨rfl, rfl⟩
      · exact ⟨rfl, rfl⟩
    refine h.quiet (.of_graphs hgraphs.2 hgraphs.1) fun g hg => ?_
    rw [← ((Steady.takeTask w.session r).graph g).closed]
    exact hg
  | @comeBack t ht returned =>
    have hcomes := completeJob_comes w.session t.job returned
    have hsteady : w.session.Steady _ := .comes hcomes
    rcases hcomes.quiet with hq | ⟨n, plan, u, hkind, hn, hq, hsteady', hq', hgraph⟩
    · exact h.quiet hq fun g hg => by rw [← (hsteady.graph g).closed]; exact hg
    · have hfits := h.orders.fits t ht n plan hkind
      obtain ⟨hshown, hspent⟩ := h.quiet hq fun g hg => by
        rw [← (hsteady'.graph g).closed]
        exact hg
      refine shown_publish hshown hspent ?_ ?_ ?_ hq' hgraph
      · rw [hsteady'.graphs]
        exact hfits.graph
      · rw [(hsteady'.graph _).closed]
        by_contra hc
        have hlt := hfits.lt (by simpa using hc)
        omega
      · rw [(hsteady'.graph _).generation, hfits.plan]
        exact hfits.le
  | @begin g hg hidle haccepts =>
    refine h.quiet (.modifyGraph _ _ (fun x => ⟨rfl, Nat.le_succ _⟩) fun _ h => h) fun i hi => ?_
    have hgraph := graph_modifyGraph w.session g
      (fun x => { x with generation := x.generation + 1 }) i
    rw [World.enter, hgraph] at hi
    split at hi
    · exact hi
    · exact hi
  | quit _ _ => exact ⟨h.shown, h.spent⟩
  | @prepare g n d p s' hwaiting hopen hp =>
    obtain ⟨hquiet, hclosed⟩ := h.prepare_quiet (d := d) hwaiting hopen
    rw [hp] at hquiet hclosed
    have hsession : p.session = s' := by
      obtain ⟨_, _, hall⟩ :=
        (Preparation.resizeSets h.holdings (h.waits hwaiting).graph).prepareKernels (d := d)
      have hsession := (hall p (by rw [hp])).1
      rw [hp] at hsession
      exact hsession
    have hopen' : (p.session.graph g).closed = false := by
      rw [hsession, hclosed]
      exact hopen
    have hpending : ∀ i, ((p.session.setPending g (p.jobs.map Prod.fst)).graph i).closed =
        (p.session.graph i).closed := fun i => by
      show ((p.session.modifyGraph g _).graph i).closed = _
      rw [graph_modifyGraph]
      split
      · rfl
      · rfl
    rw [← hsession] at hquiet hclosed
    refine h.quiet (hquiet.trans (.setPending hopen' _) fun i hi => by rw [hclosed]; exact hi)
      fun i hi => ?_
    rw [← hclosed, ← hpending]
    exact hi
  | @stop g n d e s' hwaiting hopen hp =>
    obtain ⟨hquiet, hclosed⟩ := h.prepare_quiet (d := d) hwaiting hopen
    rw [hp] at hquiet hclosed
    refine h.quiet (hquiet.trans (.lock s' g) fun i hi => by rw [hclosed]; exact hi) fun i hi => ?_
    rw [← hclosed, ← closed_lock s' g]
    exact hi
  | @report g k plan failed jobs hphase =>
    have hproxies : (w.session.reportFailure g k).proxies = w.session.proxies := by
      unfold Session.reportFailure Session.compileFailed
      dsimp only
      split
      · rfl
      · split
        · rfl
        · rfl
    refine h.quiet (.of_graph hproxies (graph_reportFailure w.session g k)) fun i hi => ?_
    rw [← graph_reportFailure w.session g k]
    exact hi
  | enqueue hphase => exact ⟨h.shown.quiet (.of_graphs rfl rfl), h.spent⟩
  | @register g id plan j jobs hphase =>
    have hfields : (w.session.register id j).graphs = w.session.graphs ∧
        (w.session.register id j).proxies = w.session.proxies := by
      unfold Session.register
      split
      dsimp only
      split
      · exact ⟨rfl, rfl⟩
      · exact ⟨rfl, rfl⟩
    refine h.quiet (.of_graphs hfields.2 hfields.1) fun i hi => ?_
    rw [← ((Steady.register w.session id j).graph i).closed]
    exact hi
  | @inline g id plan j jobs hphase _ => exact ⟨h.shown, h.spent⟩
  | @finish g plan hphase =>
    have hsubmits : Submits w.session w.calls g plan [] [] := by
      have hfits := h.orders.phases g
      rw [hphase] at hfits
      exact hfits
    show (w.session.finishUpdate g plan).Shown ∧
      ∀ i, ((w.session.finishUpdate g plan).graph i).closed = true → w.closing i = false →
        Spent ((w.session.finishUpdate g plan).graph i)
    unfold Session.finishUpdate
    split
    · rename_i hready
      rw [Bool.and_eq_true, decide_eq_true_eq] at hready
      refine shown_publish h.shown h.spent hsubmits.graph ?_ hsubmits.le (.of_graphs rfl rfl)
        fun _ => rfl
      by_contra hc
      have hlt := hsubmits.lt (by simpa using hc)
      omega
    · exact ⟨h.shown, h.spent⟩
  | @beginClose g hg hopen =>
    have hgraph := graph_modifyGraph w.session g fun x =>
      { x with closed := true, generation := x.generation + 1 }
    refine ⟨h.shown.quiet (.modifyGraph _ _ (fun x => ⟨rfl, Nat.le_succ _⟩) fun _ h => h), ?_⟩
    intro i hi hclosing
    dsimp only at hi hclosing ⊢
    have hne : i ≠ g := fun heq => by
      rw [heq, Function.update_self] at hclosing
      cases hclosing
    rw [Function.update_of_ne hne] at hclosing
    rw [hgraph, if_neg fun h => hne h.1.symm] at hi ⊢
    exact h.spent i hi hclosing
  | @finishClose g _ =>
    have hgraph := graph_finishClose w.session g
    have hquiet : w.session.Quiet (w.session.finishClose g) :=
      { publications := (fields_finishClose w.session g).2
        published := fun i => by
          rw [hgraph]
          split
          · rfl
          · rfl
        generation := fun i => by
          rw [hgraph]
          split
          · exact Nat.le_refl _
          · exact Nat.le_refl _
        spent := fun i _ hspent => by
          rw [hgraph]
          split
          · exact ⟨rfl, rfl, rfl⟩
          · exact hspent }
    dsimp only
    refine ⟨h.shown.quiet hquiet, fun i hi hclosing => ?_⟩
    rw [hgraph] at hi ⊢
    split
    · exact ⟨rfl, rfl, rfl⟩
    · rename_i hne
      rw [if_neg hne] at hi
      have hi' : i ≠ g := fun heq => hne ⟨heq.symm, by
        by_contra hle
        rw [heq, Session.graph, Array.getD_eq_getD_getElem?,
          Array.getElem?_eq_none (Nat.le_of_not_lt hle)] at hi
        cases hi⟩
      rw [Function.update_of_ne hi'] at hclosing
      exact h.spent i hi hclosing

theorem Orderly.step (h : w.Orderly) (hstep : Step w w') : w'.Orderly := by
  obtain ⟨hholdings, horders⟩ := h.orders.step h.holdings hstep
  obtain ⟨hshown, hspent⟩ := h.shown_step hstep
  exact ⟨hholdings, horders, hshown, hspent⟩

theorem Orderly.steps (h : w.Orderly) (hsteps : Steps w w') : w'.Orderly := by
  induction hsteps with
  | refl => exact h
  | tail _ hstep ih => exact ih.step hstep

/-- **Every world that can be reached** is in order. -/
theorem Reachable.orderly (h : w.Reachable) : w.Orderly := by
  obtain ⟨files, scripts, limit, hsteps⟩ := h
  exact (orderly_start files scripts limit).steps hsteps

/-! ## Two worlds -/

theorem sets_modifyGraph (s : Session) (i : Nat) {f : GraphState → GraphState}
    (hf : ∀ x, (f x).sets = x.sets) :
    ((s.modifyGraph i f).graph g).sets = (s.graph g).sets := by
  rw [graph_modifyGraph]
  split
  · exact hf _
  · rfl

/-- A resource of a graph stays with it until it is invalidated for good. -/
theorem Orderly.retained_step (h : w.Orderly) {r : Nat} (hr : w.session.Retained g r)
    (hstep : Step w w') : w'.session.Retained g r := by
  cases hstep with
  | around haround => exact hr.of_sets haround.frame (haround.graph g).sets
  | take i =>
    exact hr.of_sets (.takeTask w.session i) ((Steady.takeTask w.session i).graph g).sets
  | @comeBack t ht returned =>
    have hcomes := completeJob_comes w.session t.job returned
    exact hr.of_sets hcomes.frame ((Steady.comes hcomes).graph g).sets
  | @begin i hg hidle haccepts =>
    refine hr.of_sets (.modifyGraph _ _ fun x =>
      ⟨rfl, Nat.le_succ _, fun h => h, Or.inl, Or.inl rfl⟩) ?_
    exact sets_modifyGraph w.session i fun _ => rfl
  | quit _ _ => exact hr
  | @prepare i n d p s' hwaiting hopen hp =>
    have hresized := hr.resizeSets (i := i) h.holdings
    obtain ⟨_, hrenews, hall⟩ :=
      (Preparation.resizeSets h.holdings (h.waits hwaiting).graph).prepareKernels (d := d)
    have hsession := (hall p (by rw [hp])).1
    rw [← hsession] at hrenews
    refine (hresized.renews hrenews).of_sets (.setPending p.session i _) ?_
    exact sets_modifyGraph p.session i fun _ => rfl
  | @stop i n d e s' hwaiting hopen hp =>
    have hresized := hr.resizeSets (i := i) h.holdings
    obtain ⟨_, hrenews, _⟩ :=
      (Preparation.resizeSets h.holdings (h.waits hwaiting).graph).prepareKernels (d := d)
    rw [hp] at hrenews
    exact (hresized.renews hrenews).of_sets (.lock s' i) (sets_lock s' i g)
  | @report i k plan failed jobs _ =>
    exact hr.of_sets (.reportFailure w.session i k)
      (congrArg GraphState.sets (graph_reportFailure w.session i k g))
  | enqueue _ => exact ⟨hr.lt, hr.uncooked, hr.owner, hr.held⟩
  | @register i id plan j jobs _ =>
    exact hr.of_sets (.register w.session id j) ((Steady.register w.session id j).graph g).sets
  | inline _ _ => exact hr
  | @finish i plan _ =>
    exact hr.of_sets (.finishUpdate w.session i plan)
      ((Steady.finishUpdate w.session i plan).graph g).sets
  | @beginClose i hg hopen =>
    refine hr.of_sets (.modifyGraph _ _ fun x =>
      ⟨rfl, Nat.le_succ _, fun _ => rfl, fun _ => Or.inr (Nat.lt_succ_self _), Or.inl rfl⟩) ?_
    exact sets_modifyGraph w.session i fun _ => rfl
  | @finishClose i _ =>
    dsimp only
    exact hr.finishClose

theorem Orderly.retained (h : w.Orderly) {r : Nat} (hr : w.session.Retained g r)
    (hsteps : Steps w w') : w'.session.Retained g r := by
  induction hsteps with
  | refl => exact hr
  | tail hfirst hstep ih => exact (h.steps hfirst).retained_step ih hstep

/-- The graph has been closed, and its closing is over. -/
def IsClosed (w : World) (g : Nat) : Prop :=
  (w.session.graph g).closed = true ∧ w.closing g = false

/-- A graph that is closed stays closed. -/
theorem Orderly.isClosed_step (h : w.Orderly) (hc : w.IsClosed g) (hstep : Step w w') :
    w'.IsClosed g := by
  obtain ⟨hclosed, hclosing⟩ := hc
  cases hstep with
  | around haround => exact ⟨haround.frame.closed g hclosed, hclosing⟩
  | take r => exact ⟨(Frame.takeTask w.session r).closed g hclosed, hclosing⟩
  | @comeBack t ht returned =>
    exact ⟨(completeJob_comes w.session t.job returned).frame.closed g hclosed, hclosing⟩
  | @begin i hg hidle haccepts =>
    have hframe : w.session.Frame (w.session.modifyGraph i fun x =>
        { x with generation := x.generation + 1 }) :=
      .modifyGraph _ _ fun x => ⟨rfl, Nat.le_succ _, fun h => h, Or.inl, Or.inl rfl⟩
    exact ⟨hframe.closed g hclosed, hclosing⟩
  | quit _ _ => exact ⟨hclosed, hclosing⟩
  | @prepare i n d p s' hwaiting hopen hp =>
    obtain ⟨_, hclosed'⟩ := h.prepare_quiet (d := d) hwaiting hopen
    obtain ⟨_, _, hall⟩ :=
      (Preparation.resizeSets h.holdings (h.waits hwaiting).graph).prepareKernels (d := d)
    have hsession := (hall p (by rw [hp])).1
    rw [← hsession] at hclosed'
    have hframe : p.session.Frame (p.session.setPending i (p.jobs.map Prod.fst)) :=
      .setPending p.session i _
    exact ⟨hframe.closed g (by rw [hclosed']; exact hclosed), hclosing⟩
  | @stop i n d e s' hwaiting hopen hp =>
    obtain ⟨_, hclosed'⟩ := h.prepare_quiet (d := d) hwaiting hopen
    rw [hp] at hclosed'
    exact ⟨(closed_lock s' i g).trans ((hclosed' g).trans hclosed), hclosing⟩
  | @report i k plan failed jobs _ =>
    exact ⟨(Frame.reportFailure w.session i k).closed g hclosed, hclosing⟩
  | enqueue _ => exact ⟨hclosed, hclosing⟩
  | @register i id plan j jobs _ =>
    exact ⟨(Frame.register w.session id j).closed g hclosed, hclosing⟩
  | inline _ _ => exact ⟨hclosed, hclosing⟩
  | @finish i plan _ =>
    exact ⟨(Frame.finishUpdate w.session i plan).closed g hclosed, hclosing⟩
  | @beginClose i hg hopen =>
    have hne : g ≠ i := fun heq => by
      rw [heq, hopen] at hclosed
      cases hclosed
    have hframe : w.session.Frame (w.session.modifyGraph i fun x =>
        { x with closed := true, generation := x.generation + 1 }) :=
      .modifyGraph _ _ fun x =>
        ⟨rfl, Nat.le_succ _, fun _ => rfl, fun _ => Or.inr (Nat.lt_succ_self _), Or.inl rfl⟩
    exact ⟨hframe.closed g hclosed, (Function.update_of_ne hne _ _).trans hclosing⟩
  | @finishClose i _ =>
    unfold IsClosed
    dsimp only
    refine ⟨(Frame.finishClose w.session i).closed g hclosed, ?_⟩
    by_cases hi : g = i
    · rw [hi, Function.update_self]
    · rw [Function.update_of_ne hi]
      exact hclosing

theorem Orderly.isClosed (h : w.Orderly) (hc : w.IsClosed g) (hsteps : Steps w w') :
    w'.IsClosed g := by
  induction hsteps with
  | refl => exact hc
  | tail hfirst hstep ih => exact (h.steps hfirst).isClosed_step ih hstep

theorem owns_of_resource? {s : Session} {k : Int} {r : Nat} (h : s.resource? g k = some r) :
    ∃ k, s.Owns g k r := by
  obtain ⟨set, hset, hlookup⟩ := Option.bind_eq_some_iff.1 h
  have hget := Option.join_eq_some_iff.1 hset
  unfold elementAt? at hget
  split at hget
  · cases hget
  · exact ⟨k.toNat, set, hget, ResourceSet.mem_of_lookup? hlookup⟩

/-- **Superseded work has no effect.**  A job of an earlier generation that comes back leaves the
    graphs, the proxies and the hook alone, and every resource but its own, and that one too unless
    it still waits for this generation. -/
theorem superseded_comeBack {s s' : Session} {j : Job} {n : Nat} {plan : Plan}
    {returned : Except (CallError ProgramError) (Program × Bool)} (h : Comes s j returned s')
    (hkind : j.kind = .runtime n plan) (hn : n ≠ (s.graph j.graph).generation) :
    s'.graphs = s.graphs ∧ s'.proxies = s.proxies ∧ s'.hooks = s.hooks ∧
      ∀ r, r ≠ j.resource ∨ (s.resource r).generation ≠ n → s'.resource r = s.resource r := by
  have hgeneration : j.generation = n := by rw [Job.generation, hkind]
  -- a resource that is moved waits for the job
  have hresource : ∀ f : Resource → Resource, s.Awaits j → ∀ r,
      r ≠ j.resource ∨ (s.resource r).generation ≠ n →
        (s.modifyResource j.resource f).resource r = s.resource r := by
    intro f hj r hr
    rw [resource_modifyResource, if_neg]
    rintro ⟨rfl, _⟩
    rcases hr with hr | hr
    · exact hr rfl
    · exact hr (hj.1.trans hgeneration)
  cases h with
  | ignored _ hs =>
    obtain ⟨_, _, _, rfl⟩ := hs
    exact ⟨rfl, rfl, rfl, fun _ _ => rfl⟩
  | abandoned hj _ hs =>
    obtain ⟨_, _, _, rfl⟩ := hs
    exact ⟨rfl, rfl, rfl, hresource _ hj⟩
  | cooked _ hcook _ _ =>
    rw [hkind] at hcook
    cases hcook
  | stale hj _ _ hs =>
    obtain ⟨_, _, _, rfl⟩ := hs
    exact ⟨rfl, rfl, rfl, hresource _ hj⟩
  | current _ hcurrent hn' _ _ _ =>
    rw [hkind] at hcurrent
    cases hcurrent
    exact absurd hn' hn

/-- **Generations never go backwards, and superseded work has no effect.**  Let `w'` be a world that
    can be reached, from an earlier world `w`.

    * The proxies of a graph were published with growing generations, none later than the graph's.
    * A job of an update may come back with any outcome after a newer update or the closing of its
      graph has begun.  Then no graph changes (neither what is outstanding nor the published proxy),
      no proxy is published, the hook is not called, and no resource changes but the job's own, and
      that one only if it was not begun since.
    * The hook was called at most once for each kernel and generation.
    * A graph that has been closed has no proxy and nothing outstanding, now and in all worlds to
      come; every resource that it held in the earlier world is invalidated; and an update of a
      valid definition with a known format is answered with `closed`. -/
theorem Reachable.generations (h : w.Reachable) (hsteps : Steps w w') :
    (∀ (i i' : Nat) (x x' : RenderProxy), i < i' → w'.session.proxies[i]? = some x →
      w'.session.proxies[i']? = some x' → x.graph = x'.graph → x.generation < x'.generation) ∧
    (∀ x ∈ w'.session.proxies, x.generation ≤ (w'.session.graph x.graph).generation) ∧
    (∀ t ∈ w'.session.tasks, ∀ n plan, t.job.kind = .runtime n plan →
      n < (w'.session.graph t.job.graph).generation ∨
        (w'.session.graph t.job.graph).closed = true →
      ∀ returned, let s' := w'.session.completeJob t.job returned
        s'.graphs = w'.session.graphs ∧ s'.proxies = w'.session.proxies ∧
        s'.hooks = w'.session.hooks ∧
        ∀ r, r ≠ t.job.resource ∨ (w'.session.resource r).generation ≠ n →
          s'.resource r = w'.session.resource r) ∧
    w'.calls.Nodup ∧
    ∀ g, w'.IsClosed g → ∀ w'', Steps w' w'' →
      (w''.session.graph g).proxy = none ∧ (w''.session.graph g).pending = [] ∧
      (∀ k r, w.session.resource? g k = some r →
        (w''.session.resource r).state = .invalidated) ∧
      ((w''.session.graph g).definition.validate = .ok () →
        (w''.session.compiler? (w''.session.graph g).options.format).isSome = true →
        ∀ sync, w''.session.update g sync = (.error .closed, w''.session)) := by
  have hbefore := h.orderly
  have hafter := hbefore.steps hsteps
  refine ⟨?_, ?_, ?_, hafter.orders.calls, ?_⟩
  · intro i i' x x' hi hx hx' hgraph
    have hpublication : ∀ {i : Nat} {x : RenderProxy}, w'.session.proxies[i]? = some x →
        w'.session.publications[i]? = some (x.graph, x.generation) := by
      intro i x hx
      unfold publications
      rw [List.getElem?_map, Array.getElem?_toList, hx]
      rfl
    have hall := List.pairwise_iff_getElem.1 hafter.shown.growing
    obtain ⟨hlt, hxi⟩ := List.getElem?_eq_some_iff.1 (hpublication hx)
    obtain ⟨hlt', hxi'⟩ := List.getElem?_eq_some_iff.1 (hpublication hx')
    have hordered := hall i i' hlt hlt' hi
    rw [hxi, hxi'] at hordered
    exact hordered hgraph
  · intro x hx
    have hmem : (x.graph, x.generation) ∈ w'.session.publications :=
      List.mem_map.2 ⟨x, Array.mem_def.1 hx, rfl⟩
    exact Nat.le_trans (hafter.shown.published _ hmem) (hafter.shown.le _)
  · intro t ht n plan hkind hsuperseded returned
    have hfits := hafter.orders.fits t ht n plan hkind
    refine superseded_comeBack (completeJob_comes w'.session t.job returned) hkind ?_
    rcases hsuperseded with hlt | hclosed
    · exact Nat.ne_of_lt hlt
    · exact Nat.ne_of_lt (hfits.lt hclosed)
  · intro g hc w'' hsteps'
    have hlater := hafter.steps hsteps'
    obtain ⟨hclosed, hclosing⟩ := hafter.isClosed hc hsteps'
    obtain ⟨hsets, hpending, hproxy⟩ := hlater.spent g hclosed hclosing
    refine ⟨hproxy, hpending, fun k r hr => ?_, fun hvalid hcompiler sync => ?_⟩
    · obtain ⟨k, ho⟩ := owns_of_resource? hr
      have hretained := hbefore.retained (hbefore.holdings.retained ho) (hsteps.trans hsteps')
      rcases hretained.held with ⟨k, set, hset, _⟩ | hinvalidated
      · rw [hsets] at hset
        cases hset
      · exact hinvalidated
    · obtain ⟨comp, hcomp⟩ := Option.isSome_iff_exists.1 hcompiler
      unfold Session.update
      simp only [hvalid, hcomp, hclosed, if_true]

/-! ### A superseded job -/

/-- What the first update has prepared. -/
def entryPrepared : Prepared where
  session := entryBuilt.modifyResource 0 fun x => x.begin (entryBuild "Main") 1
  builds := [(0, entryBuild "Main")]
  jobs := [(0, "A", false, 0, entryBuild "Main")]

theorem prepareKernels_entryStart :
    let s := entryStart.modifyGraph 0 fun x => { x with generation := x.generation + 1 }
    prepareKernels 0 .wgsl ((s.resizeSets 0).graph 0).definition.compilable
      { session := s.resizeSets 0 } = (.ok entryPrepared, entryPrepared.session) := by
  intro s
  have hresize : s.resizeSets 0 = entryOpened := rfl
  have hresource : entryOpened.kernelResource 0 0 = (0, entryResourced) := rfl
  have hcompilable : (entryOpened.graph 0).definition.compilable =
      [(0, entryKernel "Main", entrySource "Main")] := compilable_entryGraph "Main"
  have hprepare : (prepareKernel 0 .wgsl { session := entryOpened } 0 (entryKernel "Main")
      (entrySource "Main")).1 = .ok entryPrepared :=
    prepareKernel_compile hresource buildKernel_entryResourced rfl
  rw [hresize, hcompilable]
  exact prepareKernels_single hprepare

/-- An update submits a job, another one begins, and then the graph is closed; the job has not come
    back. -/
theorem exists_entryClosed : ∃ w w' : World, w.Reachable ∧ Steps w w' ∧
    w.session.resource? 0 0 = some 0 ∧ w'.IsClosed 0 ∧
    ∃ t ∈ w'.session.tasks, t.job = entryJob ∧ (w'.session.graph 0).closed = true := by
  let empty : Session :=
    { files := wrapperFiles, scripts := [{ format := "mock" }], cache := .empty 0 }
  have hadded : Steps { session := empty } { session := entryStart } :=
    .single (.around (.addGraph empty (entryGraph "Main") entryOptions))
  have hbegun := hadded.tail (.begin (g := 0) (Nat.lt_succ_self 0) rfl rfl)
  have hprepared := hbegun.tail
    (.prepare (Function.update_self ..) rfl prepareKernels_entryStart)
  have hqueued := hprepared.tail (.enqueue (Function.update_self ..))
  have htold := hqueued.tail (.register (Function.update_self ..))
  have hfinished := htold.tail (.finish (Function.update_self ..))
  obtain ⟨w, hw, hidle, hworld⟩ : ∃ w, Steps { session := empty } w ∧ w.phase 0 = .idle ∧
      w = _ := ⟨_, hfinished, rfl, rfl⟩
  have hagain : Steps w _ := .single (.begin (g := 0) (by rw [hworld]; exact Nat.lt_succ_self 0)
    hidle (by rw [hworld]; rfl))
  subst hworld
  have hclosing := hagain.tail (.beginClose (g := 0) (Nat.lt_succ_self 0) rfl rfl)
  have hclosed := hclosing.tail (.finishClose (g := 0) rfl)
  refine ⟨_, _, ⟨_, _, _, hw⟩, hclosed, rfl, ⟨rfl, rfl⟩, ?_⟩
  exact ⟨_, Array.mem_push_self, rfl, rfl⟩

/-- The job of the first update comes back after the graph was closed. -/
theorem generations_entryClosed : ∃ w w' : World, w.Reachable ∧ Steps w w' ∧ w'.IsClosed 0 ∧
    (∃ t ∈ w'.session.tasks, t.job = entryJob ∧
      (w'.session.completeJob t.job (.error .cancelled)).graphs = w'.session.graphs) ∧
    w.session.resource? 0 0 = some 0 ∧ (w'.session.resource 0).state = .invalidated := by
  obtain ⟨w, w', hw, hsteps, hresource, hc, t, ht, hjob, hclosed⟩ := exists_entryClosed
  obtain ⟨_, _, hsuperseded, _, hall⟩ := Reachable.generations hw hsteps
  obtain ⟨_, _, hinvalidated, _⟩ := hall 0 hc w' .refl
  refine ⟨w, w', hw, hsteps, hc, ⟨t, ht, hjob, ?_⟩, hresource, hinvalidated 0 0 hresource⟩
  refine (hsuperseded t ht 1 (entryPlan "Main" 1) (by rw [hjob]; rfl) (Or.inr ?_) _).1
  rw [hjob]
  exact hclosed

end World

end KernelGraph
