/-
  Where proxies are.

      published ⟶ outgoing ⟶ handed over ⟶ released

  A proxy is published when it is made.  It loses its place to the proxy of a later generation, or
  to none when its graph is closed, and is then handed over to the render queue, which releases it.
  `Stocked` counts: every proxy that was made is at one place, and the queue has released what it
  has got, or is still to do so.
-/
import KernelGraph.Proofs.Workshop.Keeping

namespace KernelGraph

namespace Session

/-- The proxy is the one that its graph publishes. -/
def Shows (s : Session) (p : Nat) : Prop :=
  (s.graph (s.proxies.getD p default).graph).proxy = some p

instance (s : Session) (p : Nat) : Decidable (s.Shows p) := by
  unfold Shows
  exact inferInstance

/-- The proxy was released. -/
def Released (s : Session) (p : Nat) : Prop := (s.proxies.getD p default).released = true

instance (s : Session) (p : Nat) : Decidable (s.Released p) := by
  unfold Released
  exact inferInstance

/-- Proxies are where they were, and no graph is closed. -/
structure Shelves (s s' : Session) : Prop where
  proxies : s'.proxies = s.proxies
  commands : s'.commands = s.commands
  proxy : ∀ g, (s'.graph g).proxy = (s.graph g).proxy
  opened : ∀ g, (s'.graph g).closed = true → (s.graph g).closed = true

section
variable {s s' s'' : Session} {g : Nat}

/-- If graphs publish proxies of their own, a proxy that is published shows. -/
theorem shows_iff {p : Nat}
    (h : ∀ {g p}, (s.graph g).proxy = some p → (s.proxies.getD p default).graph = g) :
    s.Shows p ↔ ∃ g, (s.graph g).proxy = some p := by
  refine ⟨fun hp => ⟨_, hp⟩, fun ⟨g, hp⟩ => ?_⟩
  rw [Shows, h hp]
  exact hp

/-- A released proxy is that of the same graph. -/
theorem graph_release (proxies : Array RenderProxy) (p q : Nat) :
    ((proxies.modify p fun x => { x with released := true }).getD q default).graph =
      (proxies.getD q default).graph := by
  rw [Array.getD_eq_getD_getElem?, Array.getD_eq_getD_getElem?, Array.getElem?_modify]
  split
  · cases proxies[q]? with
    | none => rfl
    | some x => rfl
  · rfl

theorem released_release (s : Session) (p q : Nat) :
    Released { s with proxies := s.proxies.modify p fun x => { x with released := true } } q ↔
      s.Released q ∨ q = p ∧ p < s.proxies.size := by
  rw [Released, Released, Array.getD_eq_getD_getElem?, Array.getD_eq_getD_getElem?,
    Array.getElem?_modify]
  by_cases hq : p = q
  · subst hq
    rw [if_pos rfl]
    rcases Nat.lt_or_ge p s.proxies.size with hlt | hle
    · rw [Array.getElem?_eq_getElem hlt]
      simp [hlt]
    · rw [Array.getElem?_eq_none hle]
      simp [Nat.not_lt.2 hle]
  · rw [if_neg hq]
    simp [Ne.symm hq]

theorem released_execute (s : Session) (p q : Nat) :
    (s.execute p).Released q ↔ s.Released q ∨ q = p ∧ p < s.proxies.size := released_release s p q

namespace Shelves

theorem refl (s : Session) : s.Shelves s := ⟨rfl, rfl, fun _ => rfl, fun _ h => h⟩

theorem trans (h : s.Shelves s') (h' : s'.Shelves s'') : s.Shelves s'' where
  proxies := h'.proxies.trans h.proxies
  commands := h'.commands.trans h.commands
  proxy g := (h'.proxy g).trans (h.proxy g)
  opened g hg := h.opened g (h'.opened g hg)

theorem of_eq (hgraphs : s'.graphs = s.graphs) (hproxies : s'.proxies = s.proxies)
    (hcommands : s'.commands = s.commands) : s.Shelves s' where
  proxies := hproxies
  commands := hcommands
  proxy g := by rw [Session.graph, Session.graph, hgraphs]
  opened g hg := by
    rw [Session.graph, hgraphs] at hg
    exact hg

theorem modifyGraph (s : Session) (g : Nat) {f : GraphState → GraphState}
    (hf : ∀ x, (f x).proxy = x.proxy ∧ (f x).closed = x.closed) :
    s.Shelves (s.modifyGraph g f) where
  proxies := rfl
  commands := rfl
  proxy i := by
    rw [graph_modifyGraph]
    split
    · exact (hf _).1
    · rfl
  opened i hi := by
    rw [graph_modifyGraph] at hi
    split at hi
    · exact (hf _).2.symm.trans hi
    · exact hi

theorem foldl_takeTask (rs : List Nat) (s : Session) : s.Shelves (rs.foldl Session.takeTask s) := by
  obtain ⟨_, _, _, heq, _⟩ := foldl_takeTask_eq rs s
  rw [heq]
  exact .of_eq rfl rfl rfl

theorem register (s : Session) (id : Nat) (j : Job) : s.Shelves (s.register id j) := by
  unfold Session.register
  split
  dsimp only
  split
  · exact .of_eq rfl rfl rfl
  · exact .of_eq rfl rfl rfl

theorem overhauls (h : Overhauls g s s') : s.Shelves s' where
  proxies := h.proxies
  commands := h.commands
  proxy i := by
    by_cases hi : i = g
    · obtain ⟨_, _, _, heq⟩ := h.graph
      rw [hi, heq]
    · rw [h.other i hi]
  opened i hi := by
    by_cases hg : i = g
    · obtain ⟨_, _, _, heq⟩ := h.graph
      rw [hg, heq] at hi
      rw [hg]
      exact hi
    · rw [h.other i hg] at hi
      exact hi

theorem strike (s : Session) (j : Job) : s.Shelves (s.strike j) := by
  have hgraph : s.Shelves (s.modifyGraph j.graph fun x =>
      { x with pending := x.pending.filter (· ≠ j.kernel) }) :=
        .modifyGraph s j.graph fun _ => ⟨rfl, rfl⟩
  exact hgraph.trans (.of_eq rfl rfl rfl)

theorem tellUpdate (s : Session) (j : Job) (program : Option Program) (r : CompileResult)
    (current : Bool) : s.Shelves (s.tellUpdate j program r current) := by
  obtain ⟨_, _, _, _, _, heq⟩ := tellUpdate_eq s j program r current
  rw [heq]
  exact .of_eq rfl rfl rfl

theorem tellCook (s : Session) (j : Job) (p : Nat) (r : CompileResult) :
    s.Shelves (s.tellCook j p r) := by
  obtain ⟨_, _, _, _, _, heq⟩ := tellCook_eq s j p r
  rw [heq]
  exact .of_eq rfl rfl rfl

theorem announceReady (s : Session) (g p : Nat) : s.Shelves (s.announceReady g p) := by
  obtain ⟨_, _, _, heq⟩ := announceReady_eq s g p
  rw [heq]
  exact .of_eq rfl rfl rfl

theorem reportFailure (s : Session) (g k : Nat) : s.Shelves (s.reportFailure g k) := by
  obtain ⟨_, _, _, _, _, heq⟩ := reportFailure_tells s g k
  rw [heq]
  exact .of_eq rfl rfl rfl

theorem of_reads (h : s.Reads s') : s.Shelves s' := by
  obtain ⟨_, _, _, rfl⟩ := h
  exact .of_eq rfl rfl rfl

theorem chore (s : Session) (x : Chore) : s.Shelves (x.apply s) := by
  cases x with
  | cancel _ r => exact .foldl_takeTask [r] s
  | silence _ => exact .of_eq rfl rfl rfl
  | discard _ _ => exact .of_eq rfl rfl rfl

theorem install (s : Session) (g : Nat) (platform : TargetPlatform) (formats : List FormatBuilds) :
    s.Shelves (s.install g platform formats).1 where
  proxies := proxies_install ..
  commands := commands_install ..
  proxy i := by
    rw [graph_install]
    split
    · rfl
    · rfl
  opened i hi := by
    rw [graph_install] at hi
    split at hi
    · exact hi
    · exact hi

theorem begun (s : Session) (g : Nat) : s.Shelves ((s.begun g).takeAll g) := by
  have hbegun : s.Shelves (s.begun g) := .modifyGraph s g fun _ => ⟨rfl, rfl⟩
  exact hbegun.trans (.foldl_takeTask _ _)

theorem vacate (s : Session) (g : Nat) : s.Shelves (s.vacate g) := by
  obtain ⟨_, _, _, _, heq⟩ := vacate_eq s g
  have hgraph : s.Shelves (s.modifyGraph g fun x =>
      { x with pending := [], sets := [], cook := [] }) := .modifyGraph s g fun _ => ⟨rfl, rfl⟩
  rw [heq]
  exact hgraph.trans (.of_eq rfl rfl rfl)

theorem shows (h : s.Shelves s') (p : Nat) : s'.Shows p ↔ s.Shows p := by
  rw [Shows, Shows, h.proxies, h.proxy]

theorem released (h : s.Shelves s') (p : Nat) : s'.Released p ↔ s.Released p := by
  rw [Released, Released, h.proxies]

end Shelves

end

end Session

namespace Workshop

open Session

/-! ## The stock of proxies -/

/-- Every proxy that was made is at one place: it is published, or outgoing, or was handed over.
    The render queue has released what it has got, or is still to do so. -/
structure Stocked (W : Workshop) : Prop where
  own : ∀ {g p}, (W.session.graph g).proxy = some p →
    p < W.session.proxies.size ∧ (W.session.proxies.getD p default).graph = g
  place : ∀ p, (if W.session.Shows p then 1 else 0) + W.outgoing.count p + W.handed.count p =
    if p < W.session.proxies.size then 1 else 0
  queue : ∀ p, W.session.commands.count p + (if W.session.Released p then 1 else 0) =
    W.handed.count p
  retired : ∀ g, (W.session.graph g).closed = true →
    (∃ c, (W.callers c).Closes g) ∨ (W.session.graph g).proxy = none

section
variable {W W' : Workshop} {d : Duty} {p : Nat}

theorem Stocked.lt_of_outgoing (h : W.Stocked) (hp : p ∈ W.outgoing) :
    p < W.session.proxies.size := by
  by_contra hle
  have hplace := h.place p
  have hcount := List.count_pos_iff.2 hp
  rw [if_neg hle] at hplace
  omega

/-- Proxies are where they were. -/
theorem Stocked.same (h : W.Stocked) (hs : W.session.Shelves W'.session)
    (houtgoing : W'.outgoing = W.outgoing) (hhanded : W'.handed = W.handed)
    (hcloses : ∀ g c, (W.callers c).Closes g → (W'.callers c).Closes g) : W'.Stocked where
  own hp := by
    rw [hs.proxies]
    rw [hs.proxy] at hp
    exact h.own hp
  place p := by
    simp only [hs.shows, hs.proxies, houtgoing, hhanded]
    exact h.place p
  queue p := by
    simp only [hs.released, hs.commands, hhanded]
    exact h.queue p
  retired g hg := by
    rw [hs.proxy]
    exact (h.retired g (hs.opened g hg)).imp_left fun ⟨c, hc⟩ => ⟨c, hcloses g c hc⟩

theorem closes_enter {c : Nat} {x : Caller} (hx : ∀ g, (W.callers c).Closes g → x.Closes g)
    (g c' : Nat) (h : (W.callers c').Closes g) : ((W.enter c x).callers c').Closes g := by
  unfold enter
  dsimp only
  by_cases hc : c' = c
  · rw [hc, Function.update_self]
    exact hx g (hc ▸ h)
  · rw [Function.update_of_ne hc]
    exact h

theorem Stocked.enter (h : W.Stocked) {c : Nat} {x : Caller}
    (hx : ∀ g, (W.callers c).Closes g → x.Closes g) : (W.enter c x).Stocked :=
  h.same (.refl _) rfl rfl (closes_enter hx)

theorem Stocked.shows_iff (h : W.Stocked) (p : Nat) :
    W.session.Shows p ↔ ∃ g, (W.session.graph g).proxy = some p :=
  Session.shows_iff fun hp => (h.own hp).2

/-- The proxy that a graph publishes may be outgoing instead. -/
theorem Stocked.leaves (h : W.Stocked) (g q : Nat) :
    (if W.session.Shows q ∧ (W.session.graph g).proxy ≠ some q then 1 else 0) +
      (W.outgoing ++ (W.session.graph g).proxy.toList).count q + W.handed.count q =
        if q < W.session.proxies.size then 1 else 0 := by
  rw [← h.place q, List.count_append]
  by_cases hq : (W.session.graph g).proxy = some q
  · have hshown : W.session.Shows q := (h.shows_iff q).2 ⟨g, hq⟩
    have hcount : (some q).toList.count q = 1 := by simp
    rw [if_neg fun hq' => hq'.2 hq, if_pos hshown, hq, hcount]
    omega
  · have hcount : (W.session.graph g).proxy.toList.count q = 0 :=
      List.count_eq_zero.2 fun hmem => hq (Option.mem_toList.1 hmem)
    simp only [hcount, ne_eq, hq, not_false_eq_true, and_true]
    omega

/-- **A proxy is published**: it is a new one, and the one before it is outgoing. -/
theorem Stocked.present (h : W.Stocked) {g : Nat} {plan : Plan} (hg : g < W.session.graphs.size)
    (hopen : (W.session.graph g).closed = false) : (W.present g plan).Stocked := by
  unfold Workshop.present displaced
  split
  · rename_i hle
    rw [present_of_le hle, Option.toList_none, List.append_nil]
    exact h.same (.refl _) rfl rfl fun _ _ hc => hc
  · rename_i hlt
    obtain ⟨metrics, log, heq⟩ := present_of_lt (s := W.session) (g := g) (Nat.lt_of_not_le hlt)
    generalize hs' : W.session.present g plan = s' at heq
    have hproxies : s'.proxies = W.session.proxies.push (W.session.planProxy g plan) := by rw [heq]
    have hcommands : s'.commands = W.session.commands := by rw [heq]
    have hgraph : ∀ i, s'.graph i = if g = i ∧ g < W.session.graphs.size then
        { W.session.graph i with
          published := plan.generation, proxy := some W.session.proxies.size }
        else W.session.graph i := fun i => by
      rw [heq]
      exact graph_modifyGraph W.session g _ i
    have hold : ∀ q < W.session.proxies.size,
        s'.proxies.getD q default = W.session.proxies.getD q default := fun q hq => by
      rw [hproxies, Array.getD_eq_getD_getElem?, Array.getD_eq_getD_getElem?, Array.getElem?_push,
        if_neg (Nat.ne_of_lt hq)]
    have hnew : s'.proxies.getD W.session.proxies.size default = W.session.planProxy g plan := by
      rw [hproxies, Array.getD_eq_getD_getElem?, Array.getElem?_push_size]
      rfl
    have hsize : s'.proxies.size = W.session.proxies.size + 1 := by
      rw [hproxies]
      exact Array.size_push _
    have hself :
        (s'.graph g).proxy = some W.session.proxies.size := by rw [hgraph, if_pos ⟨rfl, hg⟩]
    have hother : ∀ i ≠ g, (s'.graph i).proxy = (W.session.graph i).proxy := fun i hi => by
      rw [hgraph, if_neg fun hi' => hi hi'.1.symm]
    have hown : ∀ {i q}, (s'.graph i).proxy = some q →
        q < s'.proxies.size ∧ (s'.proxies.getD q default).graph = i := fun {i q} hq => by
      by_cases hi : i = g
      · rw [hi, hself] at hq
        cases hq
        rw [hsize, hnew, hi]
        exact ⟨Nat.lt_succ_self _, rfl⟩
      · rw [hother i hi] at hq
        obtain ⟨hlt, hgraph⟩ := h.own hq
        rw [hsize, hold q hlt]
        exact ⟨Nat.lt_succ_of_lt hlt, hgraph⟩
    have hshows : ∀ q, s'.Shows q ↔
        q = W.session.proxies.size ∨ W.session.Shows q ∧
          (W.session.graph g).proxy ≠ some q := fun q => by
      rw [Session.shows_iff fun hq => (hown hq).2, h.shows_iff]
      constructor
      · rintro ⟨i, hq⟩
        by_cases hi : i = g
        · rw [hi, hself] at hq
          exact Or.inl (Option.some.inj hq).symm
        · rw [hother i hi] at hq
          exact Or.inr ⟨⟨i, hq⟩, fun hq' => hi ((h.own hq).2.symm.trans (h.own hq').2)⟩
      · rintro (rfl | ⟨⟨i, hq⟩, hne⟩)
        · exact ⟨g, hself⟩
        · refine ⟨i, ?_⟩
          rw [hother i fun hi => hne (hi ▸ hq)]
          exact hq
    refine ⟨hown, fun q => ?_, fun q => ?_, fun i hi => ?_⟩
    · have hleaves := h.leaves g q
      simp only [hshows, hsize]
      rcases Nat.lt_trichotomy q W.session.proxies.size with hlt | rfl | hgt
      · rw [if_pos hlt] at hleaves
        simp only [Nat.ne_of_lt hlt, false_or, Nat.lt_succ_of_lt hlt, if_true]
        exact hleaves
      · rw [if_neg (Nat.lt_irrefl _)] at hleaves
        rw [if_pos (Or.inl rfl), if_pos (Nat.lt_succ_self _)]
        omega
      · rw [if_neg (Nat.lt_asymm hgt)] at hleaves
        simp only [Nat.ne_of_gt hgt, false_or, Nat.not_lt.2 hgt, if_false]
        exact hleaves
    · have hqueue := h.queue q
      have hreleased : s'.Released q ↔ W.session.Released q := by
        rw [Released, Released, hproxies]
        rcases Nat.lt_trichotomy q W.session.proxies.size with hlt | rfl | hgt
        · rw [← hproxies, hold q hlt]
        · rw [← hproxies, hnew, Array.getD_eq_getD_getElem?,
            Array.getElem?_eq_none (Nat.le_refl _)]
          exact Iff.rfl
        · rw [Array.getD_eq_getD_getElem?, Array.getD_eq_getD_getElem?,
            Array.getElem?_eq_none (Nat.le_of_lt hgt),
            Array.getElem?_eq_none (by rw [Array.size_push]; omega)]
      simp only [hreleased, hcommands]
      exact hqueue
    · by_cases hig : i = g
      · have hclosed : (s'.graph g).closed = (W.session.graph g).closed := by
          rw [hgraph, if_pos ⟨rfl, hg⟩]
        rw [hig, hclosed, hopen] at hi
        cases hi
      · rw [hother i hig]
        have hclosed : (s'.graph i).closed = (W.session.graph i).closed := by
          rw [hgraph, if_neg fun hi' => hig hi'.1.symm]
        exact h.retired i (hclosed.symm.trans hi)

/-- **A graph publishes no proxy any more**: the one that it had is outgoing. -/
theorem Stocked.retract (h : W.Stocked) {c g : Nat} (hg : g < W.session.graphs.size)
    (hcaller : W.callers c = .retracting g) :
    Stocked ({ W with
      session := W.session.retract g
      outgoing := W.outgoing ++ (W.session.graph g).proxy.toList }.enter c .idle) := by
  have hself : ((W.session.retract g).graph g).proxy = none := by
    rw [Session.retract, graph_modifyGraph, if_pos ⟨rfl, hg⟩]
  have hother : ∀ i ≠ g, (W.session.retract g).graph i = W.session.graph i := fun i hi => by
    rw [Session.retract, graph_modifyGraph, if_neg fun hi' => hi hi'.1.symm]
  have hown : ∀ {i q}, ((W.session.retract g).graph i).proxy = some q →
      (W.session.graph i).proxy = some q ∧ i ≠ g := fun {i q} hq => by
    by_cases hi : i = g
    · rw [hi, hself] at hq
      cases hq
    · rw [hother i hi] at hq
      exact ⟨hq, hi⟩
  have hshows : ∀ q, (W.session.retract g).Shows q ↔
      W.session.Shows q ∧ (W.session.graph g).proxy ≠ some q := fun q => by
    rw [Session.shows_iff fun hq => (h.own (hown hq).1).2, h.shows_iff]
    constructor
    · rintro ⟨i, hq⟩
      obtain ⟨hq, hi⟩ := hown hq
      exact ⟨⟨i, hq⟩, fun hq' => hi ((h.own hq).2.symm.trans (h.own hq').2)⟩
    · rintro ⟨⟨i, hq⟩, hne⟩
      refine ⟨i, ?_⟩
      rw [hother i fun hi => hne (hi ▸ hq)]
      exact hq
  refine ⟨fun hq => h.own (hown hq).1, fun q => ?_, h.queue, fun i hi => ?_⟩
  · show (if (W.session.retract g).Shows q then 1 else 0) + _ + _ = _
    simp only [hshows]
    exact h.leaves g q
  · by_cases hig : i = g
    · exact Or.inr (hig ▸ hself)
    · have hclosed : (W.session.graph i).closed = true := by
        rw [← hother i hig]
        exact hi
      show _ ∨ ((W.session.retract g).graph i).proxy = none
      rw [hother i hig]
      refine (h.retired i hclosed).imp_left fun ⟨c', hc'⟩ => ⟨c', ?_⟩
      have hne : c' ≠ c := fun hc => by
        rw [hc, hcaller] at hc'
        exact hig hc'.symm
      show (Function.update W.callers c .idle c').Closes i
      rw [Function.update_of_ne hne]
      exact hc'

/-- Proxies are handed over or released; none is published. -/
theorem Stocked.moves (h : W.Stocked) (hcallers : W'.callers = W.callers)
    (hgraphs : W'.session.graphs = W.session.graphs)
    (hsize : W'.session.proxies.size = W.session.proxies.size)
    (hgraph : ∀ q, (W'.session.proxies.getD q default).graph =
      (W.session.proxies.getD q default).graph)
    (hplace : ∀ q, W'.outgoing.count q + W'.handed.count q = W.outgoing.count q + W.handed.count q)
    (hqueue : ∀ q, W'.session.commands.count q + (if W'.session.Released q then 1 else 0) =
      W'.handed.count q) : W'.Stocked := by
  have hsame : ∀ i, W'.session.graph i = W.session.graph i := fun i => by
    rw [Session.graph, Session.graph, hgraphs]
  have hshows : ∀ q, W'.session.Shows q ↔ W.session.Shows q := fun q => by
    rw [Shows, Shows, hgraph, hsame]
  refine ⟨fun hq => ?_, fun q => ?_, hqueue, fun i hi => ?_⟩
  · rw [hsame] at hq
    rw [hsize, hgraph]
    exact h.own hq
  · simp only [hshows, hsize]
    rw [Nat.add_assoc, hplace, ← Nat.add_assoc]
    exact h.place q
  · rw [hsame] at hi ⊢
    rw [hcallers]
    exact h.retired i hi

/-- A proxy on its way has not been handed over. -/
theorem Stocked.not_handed (h : W.Stocked) (hp : p ∈ W.outgoing) : W.handed.count p = 0 := by
  have hplace := h.place p
  have hcount := List.count_pos_iff.2 hp
  rw [if_pos (h.lt_of_outgoing hp)] at hplace
  omega

/-- **A proxy is handed over**: the queue is to release it, or does so at once. -/
theorem Stocked.handOver (h : W.Stocked) (hp : p ∈ W.outgoing) (g : Nat) :
    Stocked { W with
      session := W.session.releaseProxy g (some p)
      outgoing := W.outgoing.erase p
      handed := W.handed ++ [p] } := by
  have hlt := h.lt_of_outgoing hp
  have hcount := List.count_pos_iff.2 hp
  have hplace : ∀ q, (W.outgoing.erase p).count q + (W.handed ++ [p]).count q =
      W.outgoing.count q + W.handed.count q := fun q => by
    rw [List.count_append, List.count_erase, List.count_singleton]
    by_cases hq : p = q
    · subst hq
      simp only [beq_self_eq_true, if_true]
      omega
    · simp [hq]
  cases hmode : (W.session.graph g).options.queue with
  | manual =>
    rw [releaseProxy_of_manual hmode]
    refine h.moves rfl rfl rfl (fun _ => rfl) hplace fun q => ?_
    have hqueue := h.queue q
    show (W.session.commands ++ [p]).count q + (if W.session.Released q then 1 else 0) =
      (W.handed ++ [p]).count q
    rw [List.count_append, List.count_append]
    omega
  | immediate =>
    rw [releaseProxy_of_immediate hmode]
    refine h.moves rfl rfl Array.size_modify (graph_release _ _) hplace fun q => ?_
    have hqueue := h.queue q
    have hnot := h.not_handed hp
    show W.session.commands.count q + _ = (W.handed ++ [p]).count q
    rw [List.count_append, List.count_singleton]
    simp only [released_release]
    by_cases hq : p = q
    · subst hq
      rw [if_pos (Or.inr ⟨rfl, hlt⟩)]
      simp only [beq_self_eq_true, if_true]
      omega
    · simp only [Ne.symm hq, false_and, or_false, beq_iff_eq, hq, if_false]
      exact hqueue

/-- **The render queue releases** a proxy that it has got. -/
theorem Stocked.execute (h : W.Stocked) (hp : p ∈ W.session.commands) :
    Stocked { W with session := W.session.execute p } := by
  refine h.moves rfl rfl Array.size_modify (graph_release _ _) (fun _ => rfl) fun q => ?_
  have hqueue := h.queue q
  have hplace := h.place q
  show (W.session.commands.erase p).count q + (if (W.session.execute p).Released q then 1 else 0) =
    W.handed.count q
  rw [List.count_erase]
  simp only [released_execute]
  by_cases hq : p = q
  · subst hq
    have hcount := List.count_pos_iff.2 hp
    -- it has been handed over once, so it is not released yet
    have hlt : p < W.session.proxies.size := by
      by_contra hle
      rw [if_neg hle] at hplace
      omega
    rw [if_pos hlt] at hplace
    rw [if_pos (Or.inr ⟨rfl, hlt⟩)]
    simp only [beq_self_eq_true, if_true]
    split at hqueue
    · omega
    · omega
  · simp only [Ne.symm hq, false_and, or_false, beq_iff_eq, hq, if_false]
    exact hqueue

/-! ## Every section -/

theorem Stocked.settle (h : W.Stocked) {g : Nat} {plan : Plan} (hg : g < W.session.graphs.size)
    (hopen : (W.session.graph g).closed = false) : (W.settle g plan).Stocked := by
  unfold Workshop.settle
  split
  · exact h.present hg hopen
  · exact h

/-- A graph that is closed has no job of its generation. -/
theorem open_of_fits {s : Session} {j : Job} {n : Nat} {plan : Plan} (h : JobFits s j n plan)
    (hn : n = (s.graph j.graph).generation) : (s.graph j.graph).closed = false := by
  by_contra hclosed
  have hlt := h.lt (Bool.eq_true_of_not_eq_false hclosed)
  omega

theorem Stocked.strike (h : W.Stocked) {j : Job} {n : Nat} {plan : Plan}
    (hj : JobFits W.session j n plan) : (W.strike j n plan).Stocked := by
  unfold Workshop.strike
  split
  · rename_i hn
    have hs := Shelves.strike W.session j
    have hstruck : Stocked { W with session := W.session.strike j } :=
      h.same hs rfl rfl fun _ _ hc => hc
    refine hstruck.settle (Nat.lt_of_lt_of_le hj.graph (Frame.strike W.session j).size) ?_
    by_contra hclosed
    have hwas := hs.opened _ (Bool.eq_true_of_not_eq_false hclosed)
    rw [open_of_fits hj hn] at hwas
    cases hwas
  · exact h

theorem Stocked.finish (h : W.Stocked) {c g : Nat} {plan : Plan} {failed : List Nat}
    {jobs : List Job} {untold : Option (Nat × Job)} (hfits : (W.callers c).Fits W.session)
    (hcaller : W.callers c = .submitting g (.update plan) failed jobs untold) :
    (W.finish g plan).Stocked := by
  unfold Workshop.finish
  split
  · rename_i hsettled
    simp only [Bool.and_eq_true, decide_eq_true_eq] at hsettled
    refine h.present (hfits.graph (by rw [hcaller]; rfl)) ?_
    by_contra hclosed
    have hlt := (hfits.plan hcaller).2 (Bool.eq_true_of_not_eq_false hclosed)
    omega
  · exact h

/-- Who closes a graph is to see to its proxy. -/
theorem Stocked.beginClose (h : W.Stocked) {c g : Nat} (hidle : W.callers c = .idle) :
    Stocked ({ W with session := W.session.shutDown g }.enter c (.closing g)) := by
  have hproxy :
      ∀ i, ((W.session.shutDown g).graph i).proxy = (W.session.graph i).proxy := fun i => by
    rw [graph_shutDown]
    split
    · rfl
    · rfl
  have hclosed : ∀ i ≠ g, ((W.session.shutDown g).graph i).closed = (W.session.graph i).closed :=
    fun i hi => by rw [graph_shutDown, if_neg fun hgi => hi hgi.1.symm]
  have hfields : (W.session.shutDown g).proxies = W.session.proxies ∧
      (W.session.shutDown g).commands = W.session.commands := by
    obtain ⟨_, _, _, heq, _⟩ := shutDown_eq W.session g
    rw [heq]
    exact ⟨rfl, rfl⟩
  generalize W.session.shutDown g = s' at hproxy hclosed hfields
  obtain ⟨hproxies, hcommands⟩ := hfields
  have hshows : ∀ q, s'.Shows q ↔ W.session.Shows q := fun q => by
    rw [Shows, Shows, hproxies, hproxy]
  have hreleased : ∀ q, s'.Released q ↔ W.session.Released q := fun q => by
    rw [Released, Released, hproxies]
  refine ⟨fun {i q} hq => ?_, fun q => ?_, fun q => ?_, fun i hi => ?_⟩
  · show q < s'.proxies.size ∧ (s'.proxies.getD q default).graph = i
    rw [hproxies]
    exact h.own ((hproxy i).symm.trans hq)
  · show (if s'.Shows q then 1 else 0) + _ + _ = if q < s'.proxies.size then 1 else 0
    simp only [hshows, hproxies]
    exact h.place q
  · show s'.commands.count q + (if s'.Released q then 1 else 0) = _
    simp only [hreleased, hcommands]
    exact h.queue q
  · by_cases hig : i = g
    · refine Or.inl ⟨c, ?_⟩
      rw [callers_enter_self]
      exact hig.symm
    · show _ ∨ (s'.graph i).proxy = none
      rw [hproxy]
      refine (h.retired i ((hclosed i hig).symm.trans hi)).imp_left fun ⟨c', hc'⟩ => ⟨c', ?_⟩
      exact closes_enter (fun j hj => by rw [hidle] at hj; exact hj.elim) i c' hc'

/-- **Every section** keeps the stock. -/
theorem Stocked.step (h : W.Stocked) (hfitting : W.Fitting) (hstep : Step d W W') : W'.Stocked := by
  -- callers that do not close graphs go on to do whatever they like
  have hnone : ∀ {c : Nat} {x y : Caller}, W.callers c = y → (∀ g, ¬ y.Closes g) →
      ∀ g, (W.callers c).Closes g → x.Closes g := fun hy hno g hc => absurd (hy ▸ hc) (hno g)
  cases hstep with
  | aside haside =>
    refine h.same ⟨haside.published, haside.queued, fun g => (haside.graph g).proxy, fun g hg => ?_⟩
      rfl rfl fun _ _ hc => hc
    rw [← (haside.graph g).closed]
    exact hg
  | collect => exact h.same (.of_eq rfl rfl rfl) rfl rfl fun _ _ hc => hc
  | @turn _ c x hturn =>
    refine h.enter fun g hc => ?_
    generalize W.callers c = y at hturn hc
    cases hturn with
    | quit _ _ => exact hc.elim
    | inline _ => exact hc.elim
    | cleared => exact hc.elim
    | start => exact hc.elim
    | refuse _ _ => exact hc.elim
  | execute hp => exact h.execute hp
  | handOver hp => exact h.handOver hp _
  | drop _ _ _ => exact h.same (.of_eq rfl rfl rfl) rfl rfl fun _ _ hc => hc
  | abandon _ _ _ _ => exact h.same (.of_eq rfl rfl rfl) rfl rfl fun _ _ hc => hc
  | deliver _ _ _ _ => exact h.same (.of_eq rfl rfl rfl) rfl rfl fun _ _ hc => hc
  | strike ht hkind _ =>
    exact (h.strike (jobFits_of_jobKnown (hfitting.tasks ht) hkind)).same (.refl _) rfl rfl
      fun _ _ hc => hc
  | tellUpdate _ _ _ => exact h.same (.tellUpdate ..) rfl rfl fun _ _ hc => hc
  | tellCook _ _ _ => exact h.same (.tellCook ..) rfl rfl fun _ _ hc => hc
  | begin hidle _ _ => exact h.same (.begun ..) rfl rfl (closes_enter (hnone hidle fun _ => id))
  | @prepare _ c g n d p s' hwaiting _ hopen hn hp =>
    have hg : g < W.session.graphs.size := (hfitting.callers c).graph (by rw [hwaiting]; rfl)
    exact h.same (.overhauls (jobFits_preparedJobs hfitting.holdings hg hopen hp).1) rfl rfl
      (closes_enter (hnone hwaiting fun _ => id))
  | @stop _ c g n d e s' hwaiting _ hopen hn hp =>
    have hg : g < W.session.graphs.size := (hfitting.callers c).graph (by rw [hwaiting]; rfl)
    have hoverhaul := overhauls_stopped hfitting.holdings hg hp
    exact h.same (.overhauls hoverhaul) rfl rfl (closes_enter (hnone hwaiting fun _ => id))
  | report hcaller =>
    exact h.same (.reportFailure ..) rfl rfl (closes_enter (hnone hcaller fun _ => id))
  | enqueue hcaller =>
    exact h.same (.of_eq rfl rfl rfl) rfl rfl (closes_enter (hnone hcaller fun _ => id))
  | register hcaller =>
    exact h.same (.register ..) rfl rfl (closes_enter (hnone hcaller fun _ => id))
  | @finishUpdate _ c g plan hcaller _ =>
    refine (h.finish (hfitting.callers c) hcaller).enter fun i hc => ?_
    rw [callers_finish, hcaller] at hc
    exact hc.elim
  | delist hidle _ _ _ =>
    exact h.same (.modifyGraph _ _ fun _ => ⟨rfl, rfl⟩) rfl rfl
      (closes_enter (hnone hidle fun _ => id))
  | delistAll hidle _ _ =>
    exact h.same (.modifyGraph _ _ fun _ => ⟨rfl, rfl⟩) rfl rfl
      (closes_enter (hnone hidle fun _ => id))
  | chore hcaller => exact h.same (.chore ..) rfl rfl (closes_enter (hnone hcaller fun _ => id))
  | @build _ c g platform builds format hcaller _ _ =>
    exact h.same (.of_reads (.buildFormats [format] W.session)) rfl rfl
      (closes_enter (hnone hcaller fun _ => id))
  | install hcaller _ _ =>
    exact h.same (.install ..) rfl rfl (closes_enter (hnone hcaller fun _ => id))
  | finishCook hcaller =>
    exact h.same (.announceReady ..) rfl rfl (closes_enter (hnone hcaller fun _ => id))
  | @beginClose _ c g hidle hg _ hopen => exact h.beginClose hidle
  | @vacate _ c g hcaller =>
    refine h.same (.vacate ..) rfl rfl (closes_enter fun i hc => ?_)
    rw [hcaller] at hc
    exact hc
  | @retract _ c g hcaller =>
    exact h.retract ((hfitting.callers c).graph (by rw [hcaller]; rfl)) hcaller

theorem stocked_start (files : FileStore) (scripts : List Script) (limit : Int) (honest : Bool) :
    (start files scripts limit honest).Stocked where
  own hp := by cases hp
  place p := by
    have hshows : ¬ (start files scripts limit honest).session.Shows p := fun hp => by cases hp
    have hsize : ¬ p < (start files scripts limit honest).session.proxies.size := Nat.not_lt_zero p
    rw [if_neg hshows, if_neg hsize]
    rfl
  queue p := by
    have hreleased :
        ¬ (start files scripts limit honest).session.Released p := fun hp => by cases hp
    rw [if_neg hreleased]
    rfl
  retired g hg := by cases hg

theorem Reachable.stocked (h : W.Reachable) : W.Stocked :=
  (h.induct stocked_start fun hfitting h hstep => h.step hfitting hstep).2

/-! ## Released once -/

theorem handed_settle (W : Workshop) (g : Nat) (plan : Plan) :
    (W.settle g plan).handed = W.handed := by
  unfold settle
  split
  · rfl
  · rfl

/-- A proxy is handed over only if it is outgoing. -/
theorem handed_step (hstep : Step d W W') :
    W'.handed = W.handed ∨ ∃ p ∈ W.outgoing, W'.handed = W.handed ++ [p] := by
  cases hstep with
  | @handOver _ p hp => exact Or.inr ⟨p, hp, rfl⟩
  | @strike _ id t n plan program r _ _ _ =>
    refine Or.inl ?_
    show (W.strike t.job n plan).handed = W.handed
    unfold strike
    split
    · exact handed_settle _ _ _
    · rfl
  | @finishUpdate _ c g plan _ _ =>
    refine Or.inl ?_
    show (W.finish g plan).handed = W.handed
    unfold finish
    split
    · rfl
    · rfl
  | _ => exact Or.inl rfl

/-- A proxy that is on its way or was handed over is published by nobody. -/
theorem Stocked.not_published (h : W.Stocked) (hp : p ∈ W.outgoing ∨ p ∈ W.handed) (g : Nat) :
    (W.session.graph g).proxy ≠ some p := by
  intro hg
  have hplace := h.place p
  rw [if_pos ((h.shows_iff p).2 ⟨g, hg⟩), if_pos (h.own hg).1] at hplace
  rcases hp with hp | hp
  · have hcount := List.count_pos_iff.2 hp
    omega
  · have hcount := List.count_pos_iff.2 hp
    omega

/-- **A proxy is released exactly once, and never while it is published.**

    1. The proxy that a graph publishes is not released, and the render queue has not got it.
    2. The queue gets a proxy once at most, and has released what it has got or is still to do so.
    3. When it gets a proxy, no graph publishes it.
    4. Once a graph was closed and nothing of it is on its way, the queue has got each of its
       proxies exactly once. -/
theorem Reachable.proxies_released_once (h : W.Reachable) :
    (∀ g p, (W.session.graph g).proxy = some p → p < W.session.proxies.size ∧
      (W.session.proxies.getD p default).graph = g ∧ ¬ W.session.Released p ∧
      p ∉ W.session.commands ∧ p ∉ W.handed) ∧
    (∀ p, W.handed.count p ≤ 1 ∧
      W.session.commands.count p + (if W.session.Released p then 1 else 0) = W.handed.count p) ∧
    (∀ {d W'}, Step d W W' → ∀ p, W.handed.count p < W'.handed.count p →
      p < W.session.proxies.size ∧ W'.handed = W.handed ++ [p] ∧
        ∀ g, (W.session.graph g).proxy ≠ some p) ∧
    ∀ g, (W.session.graph g).closed = true → (∀ c, ¬ (W.callers c).Closes g) →
      (∀ p ∈ W.outgoing, (W.session.proxies.getD p default).graph ≠ g) →
      ∀ p < W.session.proxies.size, (W.session.proxies.getD p default).graph = g →
        W.handed.count p = 1 := by
  have hstocked := h.stocked
  refine ⟨fun g p hp => ?_, fun p => ⟨?_, hstocked.queue p⟩, fun {d W'} hstep p hlt => ?_,
    fun g hclosed hclosing hnone p hlt hgraph => ?_⟩
  · obtain ⟨hlt, hgraph⟩ := hstocked.own hp
    have hhanded : p ∉ W.handed := fun hmem => hstocked.not_published (Or.inr hmem) g hp
    have hqueue := hstocked.queue p
    rw [List.count_eq_zero.2 hhanded] at hqueue
    refine ⟨hlt, hgraph, fun hreleased => ?_, fun hmem => ?_, hhanded⟩
    · rw [if_pos hreleased] at hqueue
      omega
    · have hcount := List.count_pos_iff.2 hmem
      omega
  · have hplace := hstocked.place p
    split at hplace
    · split at hplace
      · omega
      · omega
    · split at hplace
      · omega
      · omega
  · rcases handed_step hstep with heq | ⟨q, hq, heq⟩
    · rw [heq] at hlt
      exact absurd hlt (Nat.lt_irrefl _)
    · obtain rfl : q = p := by
        by_contra hne
        rw [heq, List.count_append, List.count_singleton] at hlt
        simp [hne] at hlt
      exact ⟨hstocked.lt_of_outgoing hq, heq, hstocked.not_published (Or.inl hq)⟩
  · have hnone' : (W.session.graph g).proxy = none :=
      (hstocked.retired g hclosed).resolve_left fun ⟨c, hc⟩ => hclosing c hc
    have hshows : ¬ W.session.Shows p := fun hp => by
      rw [Shows, hgraph, hnone'] at hp
      cases hp
    have hplace := hstocked.place p
    rw [if_neg hshows, if_pos hlt,
      List.count_eq_zero.2 fun hmem => hnone p hmem hgraph] at hplace
    omega

end

/-! ### A graph without kernels is closed -/

/-- A graph that has no kernels. -/
def bareGraph : Graph := { name := "G" }

/-- Its options. -/
def bareOptions : GraphOptions := { format := "wgsl" }

/-- The graph when it was opened. -/
def bareOpened : GraphState := { definition := bareGraph, options := bareOptions }

/-- Its proxy. -/
def bareProxy : RenderProxy := { graph := 0, graphName := "G", generation := 1, invocations := [] }

/-- A session with the graph. -/
def bareSession (x : GraphState) : Session := { cache := .empty 0, graphs := #[x] }

/-- The graph publishes its proxy. -/
def bareShown (log : List Log.Record) : Session :=
  { bareSession { bareOpened with generation := 1, published := 1, proxy := some 0 } with
    proxies := #[bareProxy], metrics := { proxies := 1 }, log }

/-- The graph is closed, and has still the proxy or none. -/
def bareShut (proxy : Option Nat) (log : List Log.Record) : Session :=
  { bareShown log with
    graphs := #[{ bareOpened with generation := 2, published := 1, closed := true, proxy }] }

theorem exists_bareShown : ∃ log, Reachable { session := bareShown log } := by
  have hempty : (start Builtin.store [] 0 true).Reachable := ⟨_, _, _, _, .refl⟩
  have hadded : Reachable { session := bareSession bareOpened } :=
    hempty.step (.aside (.addGraph _ bareGraph bareOptions fun _ => rfl))
  have hbegun : Reachable (enter
      { session := bareSession { bareOpened with generation := 1 } } 0 (.waiting 0 1)) :=
    hadded.step (.begin (c := 0) (g := 0) rfl (Nat.lt_succ_self 0) rfl)
  have hprepared : Reachable (enter (enter
      { session := bareSession { bareOpened with generation := 1 } } 0 (.waiting 0 1)) 0
        (.submitting 0 (.update ⟨1, .sm5, []⟩) [] [] none)) :=
    hbegun.step (.prepare (c := 0) (g := 0) (n := 1) (d := .wgsl)
      (p := { session := bareSession { bareOpened with generation := 1 } }) rfl rfl rfl
      rfl rfl)
  rw [enter_enter] at hprepared
  have hfinished : ∃ log, Reachable (enter (enter { session := bareShown log } 0
      (.submitting 0 (.update ⟨1, .sm5, []⟩) [] [] none)) 0 .idle) :=
    ⟨_, hprepared.step (.finishUpdate (callers_enter_self ..) rfl)⟩
  obtain ⟨log, hshown⟩ := hfinished
  rw [enter_enter, enter_self rfl] at hshown
  exact ⟨log, hshown⟩

theorem vacate_bareShut (proxy : Option Nat) (log : List Log.Record) :
    (bareShut proxy log).vacate 0 = bareShut proxy log := by
  unfold Session.vacate
  dsimp only [bareShut, bareShown, bareSession]
  rfl

theorem exists_bareClosed : ∃ log, Reachable
    { session := { bareShut none log with commands := [0] }, handed := [0] } := by
  obtain ⟨log, hshown⟩ := exists_bareShown
  refine ⟨log, ?_⟩
  have hshut : Reachable (enter { session := bareShut (some 0) log } 0 (.closing 0)) :=
    hshown.step (.beginClose (c := 0) (g := 0) rfl (Nat.lt_succ_self 0) rfl rfl)
  have hvacated : Reachable (enter (enter
      { session := (bareShut (some 0) log).vacate 0 } 0 (.closing 0)) 0 (.retracting 0)) :=
    hshut.step (.vacate (c := 0) (g := 0) rfl)
  rw [vacate_bareShut, enter_enter] at hvacated
  have hretracted : Reachable (enter (enter
      { session := bareShut none log, outgoing := [0] } 0 (.retracting 0)) 0 .idle) :=
    hvacated.step (.retract (c := 0) (g := 0) rfl)
  rw [enter_enter, enter_self rfl] at hretracted
  exact hretracted.step (.handOver (p := 0) (List.mem_singleton_self 0))

/-- The proxy of a graph that was closed was handed over, once. -/
theorem released_once_bareClosed : ∃ W : Workshop, W.Reachable ∧ (W.session.graph 0).closed = true ∧
    W.session.commands = [0] ∧ W.handed.count 0 = 1 := by
  obtain ⟨log, hclosed⟩ := exists_bareClosed
  obtain ⟨-, -, -, hend⟩ := Reachable.proxies_released_once hclosed
  exact ⟨_, hclosed, rfl, rfl, hend 0 rfl (fun _ => id) (fun _ hp => by cases hp) 0
    (Nat.lt_succ_self 0) rfl⟩

end Workshop

end KernelGraph
