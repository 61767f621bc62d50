/-
  The account of a graph.

  From the moment when an update has prepared its kernels until the next one begins, or the graph
  begins to be closed, the kernels that are outstanding are those of the jobs of the latest
  generation that are still to come back.  Their resources wait, or have got the result just now,
  and no other resource of the graph waits.  Whoever waits for the graph waits while there is
  something outstanding.

  A section changes the account of one graph at most.  `Stays` is what is left of the accounts of
  all the others.
-/
import KernelGraph.Proofs.Pending.Gauge

namespace KernelGraph.Ledger

open Session

variable {L L' : Ledger} {c g k r id n : Nat} {j : Job} {t : CompileTask}

/-! ## Accounts -/

/-- A job of an update that is still to come back. -/
def Outstanding (L : Ledger) (j : Job) : Prop := j.IsRuntime ∧
  ((∃ c, j ∈ (L.callers c).jobs) ∨
    ∃ (id : Nat) (t : CompileTask), L.session.tasks[id]? = some t ∧ t.job = j ∧ t.done = false)

/-- A job of the latest generation of a graph that is still to come back. -/
def Current (L : Ledger) (g : Nat) (j : Job) : Prop :=
  L.Outstanding j ∧ j.graph = g ∧ j.generation = (L.session.graph g).generation

/-- The resource of the job has the result, but the graph does not know yet. -/
def Lands (L : Ledger) (j : Job) : Prop :=
  ∃ (id : Nat) (t : CompileTask),
    L.session.tasks[id]? = some t ∧ t.job = j ∧ L.landing id ≠ none

/-- Nobody is about to replace what is outstanding of the graph. -/
def Settled (L : Ledger) (g : Nat) : Prop :=
  ∀ c, L.callers c ≠ .waiting g (L.session.graph g).generation ∧ L.callers c ≠ .closing g

/-- The account of a graph: what is outstanding, who waits for it, and who waits for all of it. -/
structure Tally (L : Ledger) (g : Nat) : Prop where
  begun : ∀ {k r : Nat}, L.session.Owns g k r → (L.session.resource r).state = .compiling →
    (L.session.resource r).generation = (L.session.graph g).generation
  current : ∀ {j : Job}, L.Current g j →
    L.session.Owns g j.kernel j.resource ∧ (L.session.Awaits j ∨ L.Lands j)
  pending : ∀ k, k ∈ (L.session.graph g).pending ↔ ∃ j, L.Current g j ∧ j.kernel = k
  opened : (L.session.graph g).pending ≠ [] → L.waits g = true

/-- Who waits for the graph does so for something outstanding, or for an update that is not over. -/
def Shuts (L : Ledger) (g : Nat) : Prop := L.waits g = true →
  (L.session.graph g).pending ≠ [] ∨
    ∃ c, (L.callers c).update? = some (g, (L.session.graph g).generation)

/-! ## Jobs and their tasks -/

/-- A job that bears the mark of a task's job is that job. -/
theorem Outstanding.eq_of_mark (h : L.Outstanding j) (hcalls : L.session.Calls L.callers)
    (ht : L.session.tasks[id]? = some t) (hruntime : t.job.IsRuntime)
    (hmark : j.mark = t.job.mark) :
    t.job = j ∧ t.done = false := by
  obtain ⟨hruntime', ⟨c, hj⟩ | ⟨id', t', ht', rfl, hdone⟩⟩ := h
  · exact absurd hmark.symm ((hcalls.callers c).unsubmitted j hj id t ht hruntime)
  · have hid := hcalls.unique ht' ht hruntime' hruntime hmark
    rw [hid, ht] at ht'
    cases ht'
    exact ⟨rfl, hdone⟩

/-- A current job's task is waited for, unless it lands. -/
theorem Tally.awaits (h : L.Tally g) (hcalls : L.session.Calls L.callers)
    (ht : L.session.tasks[id]? = some t) (hruntime : t.job.IsRuntime) (hdone : t.done = false)
    (hgraph : t.job.graph = g) (hgeneration : t.job.generation = (L.session.graph g).generation)
    (hlanding : L.landing id = none) :
    L.session.Owns g t.job.kernel t.job.resource ∧ L.session.Awaits t.job := by
  obtain ⟨ho, hawaits | ⟨id', t', ht', hjob, hlands⟩⟩ :=
    h.current ⟨⟨hruntime, Or.inr ⟨id, t, ht, rfl, hdone⟩⟩, hgraph, hgeneration⟩
  · exact ⟨ho, hawaits⟩
  · have hid := hcalls.unique ht' ht (by rw [hjob]; exact hruntime) hruntime (by rw [hjob])
    rw [hid] at hlands
    exact absurd hlanding hlands

/-- A job of a graph that is closed is none of its latest generation. -/
theorem not_current_of_closed (hcalls : L.session.Calls L.callers)
    (hclosed : (L.session.graph g).closed = true) : ¬ L.Current g j := by
  rintro ⟨⟨hruntime, hj⟩, rfl, hgeneration⟩
  have hfits : ∃ n plan, j.kind = .runtime n plan ∧ JobFits L.session j n plan := by
    rcases hj with ⟨c, hj⟩ | ⟨id, t, ht, rfl, -⟩
    · obtain ⟨_, n, -, hserves⟩ := (hcalls.callers c).jobs j hj
      obtain ⟨plan, hkind, hfits⟩ := hserves.job
      exact ⟨n, plan, hkind, hfits⟩
    · obtain ⟨n, plan, hkind⟩ := hruntime
      exact ⟨n, plan, hkind, hcalls.fits ht hkind⟩
  obtain ⟨n, plan, hkind, hfits⟩ := hfits
  have hlt := hfits.lt hclosed
  rw [Job.generation_eq hkind] at hgeneration
  omega

/-! ## What a section leaves of an account -/

/-- The account of a graph is the same. -/
structure Stays (L L' : Ledger) (g : Nat) : Prop where
  settled : L'.Settled g → L.Settled g
  generation : (L'.session.graph g).generation = (L.session.graph g).generation
  pending : (L'.session.graph g).pending = (L.session.graph g).pending
  owns : ∀ {k r : Nat}, L'.session.Owns g k r ↔ L.session.Owns g k r
  resource : ∀ {k r : Nat}, L.session.Owns g k r →
    (L'.session.resource r).state = (L.session.resource r).state ∧
      (L'.session.resource r).generation = (L.session.resource r).generation
  current : ∀ {j : Job}, L'.Current g j ↔ L.Current g j
  lands : ∀ {j : Job}, L.Current g j → L.Lands j → L'.Lands j
  waits : L'.waits g = L.waits g
  updates : L.waits g = true → (L.session.graph g).pending = [] →
    (∃ c, (L.callers c).update? = some (g, (L.session.graph g).generation)) →
      ∃ c, (L'.callers c).update? = some (g, (L.session.graph g).generation)

theorem Stays.tally (hs : Stays L L' g) (h : L.Tally g) : L'.Tally g where
  begun ho hstate := by
    have hold := hs.owns.1 ho
    obtain ⟨hstate', hgeneration⟩ := hs.resource hold
    rw [hstate'] at hstate
    rw [hgeneration, hs.generation]
    exact h.begun hold hstate
  current hj := by
    have hold := hs.current.1 hj
    obtain ⟨ho, hawaits | hlands⟩ := h.current hold
    · obtain ⟨hstate, hgeneration⟩ := hs.resource ho
      exact ⟨hs.owns.2 ho, Or.inl ⟨hgeneration.trans hawaits.1, hstate.trans hawaits.2⟩⟩
    · exact ⟨hs.owns.2 ho, Or.inr (hs.lands hold hlands)⟩
  pending k := by
    rw [hs.pending, h.pending k]
    simp only [hs.current]
  opened hpending := by
    rw [hs.pending] at hpending
    rw [hs.waits]
    exact h.opened hpending

theorem Stays.shuts (hs : Stays L L' g) (h : L.Shuts g) : L'.Shuts g := by
  intro hwaits
  rw [hs.waits] at hwaits
  rw [hs.pending, hs.generation]
  by_cases hpending : (L.session.graph g).pending = []
  · exact Or.inr (hs.updates hwaits hpending ((h hwaits).resolve_left fun hne => hne hpending))
  · exact Or.inl hpending

theorem Stays.trans {L'' : Ledger} (h : Stays L L' g) (h' : Stays L' L'' g) : Stays L L'' g where
  settled hs := h.settled (h'.settled hs)
  generation := h'.generation.trans h.generation
  pending := h'.pending.trans h.pending
  owns := h'.owns.trans h.owns
  resource ho := by
    obtain ⟨hstate, hgeneration⟩ := h.resource ho
    obtain ⟨hstate', hgeneration'⟩ := h'.resource (h.owns.2 ho)
    exact ⟨hstate'.trans hstate, hgeneration'.trans hgeneration⟩
  current := h'.current.trans h.current
  lands hj hlands := h'.lands (h.current.2 hj) (h.lands hj hlands)
  waits := h'.waits.trans h.waits
  updates hwaits hpending hupdate := by
    have hnext := h'.updates (by rw [h.waits]; exact hwaits) (by rw [h.pending]; exact hpending)
    rw [h.generation] at hnext
    exact hnext (h.updates hwaits hpending hupdate)

/-- **A section** that leaves the graph, the resources that it has, and the tasks of its latest
    generation. -/
theorem stays_session {s' : Session} {landing' : Nat → Option (Option Program × CompileResult)}
    {waits' : Nat → Bool} (hs : L.session.Elapses s')
    (hgeneration : (s'.graph g).generation = (L.session.graph g).generation)
    (hpending : (s'.graph g).pending = (L.session.graph g).pending)
    (hsets : (s'.graph g).sets = (L.session.graph g).sets)
    (hresource : ∀ {k r : Nat}, L.session.Owns g k r →
      (s'.resource r).state = (L.session.resource r).state ∧
        (s'.resource r).generation = (L.session.resource r).generation)
    (htask : ∀ {id : Nat} {t t' : CompileTask}, L.session.tasks[id]? = some t → t.job.IsRuntime →
      t.job.graph = g → t.job.generation = (L.session.graph g).generation →
      s'.tasks[id]? = some t' → t'.done = t.done ∧ (L.landing id ≠ none → landing' id ≠ none))
    (hwaits : waits' g = L.waits g) : Stays L ⟨s', L.callers, landing', waits'⟩ g where
  settled h c := by
    have hc := h c
    dsimp only at hc
    rw [hgeneration] at hc
    exact hc
  generation := hgeneration
  pending := hpending
  owns := by
    intro k r
    rw [Owns, Owns]
    dsimp only
    rw [hsets]
  resource := hresource
  current := by
    intro j
    constructor
    · rintro ⟨⟨hruntime, hj⟩, hgraph, hnumber⟩
      have hnumber' := hnumber.trans hgeneration
      refine ⟨⟨hruntime, hj.imp_right ?_⟩, hgraph, hnumber'⟩
      rintro ⟨id, t', ht', rfl, hdone⟩
      obtain ⟨t, ht, hjob⟩ := hs.old ht' hruntime
      rw [hjob] at hruntime hgraph hnumber'
      exact ⟨id, t, ht, hjob.symm, (htask ht hruntime hgraph hnumber' ht').1.symm.trans hdone⟩
    · rintro ⟨⟨hruntime, hj⟩, hgraph, hnumber⟩
      refine ⟨⟨hruntime, hj.imp_right ?_⟩, hgraph, hnumber.trans hgeneration.symm⟩
      rintro ⟨id, t, ht, rfl, hdone⟩
      obtain ⟨t', ht', hjob⟩ := hs.kept ht
      exact ⟨id, t', ht', hjob, (htask ht hruntime hgraph hnumber ht').1.trans hdone⟩
  lands := by
    rintro j ⟨⟨hruntime, -⟩, hgraph, hnumber⟩ ⟨id, t, ht, rfl, hlanding⟩
    obtain ⟨t', ht', hjob⟩ := hs.kept ht
    exact ⟨id, t', ht', hjob, (htask ht hruntime hgraph hnumber ht').2 hlanding⟩
  waits := hwaits
  updates _ _ h := h

/-- **A caller goes on** that is about to replace nothing of the graph. -/
theorem stays_enter {x : Caller}
    (hjobs : ∀ j : Job, j.graph = g → (j ∈ x.jobs ↔ j ∈ (L.callers c).jobs))
    (hsettled : L.callers c ≠ .waiting g (L.session.graph g).generation ∧ L.callers c ≠ .closing g)
    (hupdate : L.waits g = true → (L.session.graph g).pending = [] →
      (L.callers c).update? = some (g, (L.session.graph g).generation) →
        x.update? = some (g, (L.session.graph g).generation)) : Stays L (L.enter c x) g where
  settled h c' := by
    by_cases hc : c' = c
    · rw [hc]
      exact hsettled
    · have hc' := h c'
      rw [callers_enter_of_ne L hc] at hc'
      exact hc'
  generation := rfl
  pending := rfl
  owns := Iff.rfl
  resource _ := ⟨rfl, rfl⟩
  current := by
    intro j
    have hcallers : j.graph = g → ((∃ c', j ∈ ((L.enter c x).callers c').jobs) ↔
        ∃ c', j ∈ (L.callers c').jobs) := by
      intro hgraph
      constructor
      · rintro ⟨c', hj⟩
        refine ⟨c', ?_⟩
        by_cases hc : c' = c
        · rw [hc, callers_enter_self] at hj
          rw [hc]
          exact (hjobs j hgraph).1 hj
        · rw [callers_enter_of_ne L hc] at hj
          exact hj
      · rintro ⟨c', hj⟩
        refine ⟨c', ?_⟩
        by_cases hc : c' = c
        · rw [hc] at hj
          rw [hc, callers_enter_self]
          exact (hjobs j hgraph).2 hj
        · rw [callers_enter_of_ne L hc]
          exact hj
    constructor
    · rintro ⟨⟨hruntime, hj⟩, hgraph, hnumber⟩
      exact ⟨⟨hruntime, hj.imp_left (hcallers hgraph).1⟩, hgraph, hnumber⟩
    · rintro ⟨⟨hruntime, hj⟩, hgraph, hnumber⟩
      exact ⟨⟨hruntime, hj.imp_left (hcallers hgraph).2⟩, hgraph, hnumber⟩
  lands _ h := h
  waits := rfl
  updates hwaits hpending := by
    rintro ⟨c', hc'⟩
    refine ⟨c', ?_⟩
    by_cases hc : c' = c
    · rw [hc] at hc'
      rw [hc, callers_enter_self]
      exact hupdate hwaits hpending hc'
    · rw [callers_enter_of_ne L hc]
      exact hc'

/-- A caller that was idle has no jobs yet. -/
theorem stays_start {x : Caller} (hidle : L.callers c = .idle) (hjobs : x.jobs = []) (g : Nat) :
    Stays L (L.enter c x) g := by
  refine stays_enter (fun j _ => ?_) ?_ fun _ _ hupdate => ?_
  · rw [hidle, hjobs]
    exact Iff.rfl
  · rw [hidle]
    exact ⟨fun h => (by cases h), fun h => (by cases h)⟩
  · rw [hidle] at hupdate
    cases hupdate

/-- A caller goes on submitting the same jobs. -/
theorem stays_submitting {plan : Plan} {failed failed' : List Nat} {jobs : List Job}
    {untold untold' : Option (Nat × Job)}
    (hcaller : L.callers c = .submitting k plan failed jobs untold) (g : Nat) :
    Stays L (L.enter c (.submitting k plan failed' jobs untold')) g := by
  refine stays_enter (fun j _ => ?_) ?_ fun _ _ hupdate => ?_
  · rw [hcaller]
    exact Iff.rfl
  · rw [hcaller]
    exact ⟨fun h => (by cases h), fun h => (by cases h)⟩
  · rw [hcaller] at hupdate
    exact hupdate

/-- Something is told or published. -/
theorem stays_posts {s' : Session} (hframe : L.session.Frame s') (hposts : L.session.Posts s')
    (g : Nat) : Stays L { L with session := s' } g := by
  refine stays_session hframe.elapses (hposts.graph g).generation (hposts.pending g)
    (hposts.graph g).sets (fun {k r} _ => ?_) (fun ht _ _ _ ht' => ?_) rfl
  · rw [Session.resource, hposts.resources]
    exact ⟨rfl, rfl⟩
  · rw [hposts.tasks, ht] at ht'
    cases ht'
    exact ⟨rfl, fun h => h⟩

/-! ## Closing the channel -/

theorem waits_settle (hwaits : (L.settle g n).waits k = true) : L.waits k = true := by
  unfold Ledger.settle at hwaits
  split at hwaits
  · dsimp only at hwaits
    by_cases hk : k = g
    · subst hk
      rw [Function.update_self] at hwaits
      cases hwaits
    · rw [Function.update_of_ne hk] at hwaits
      exact hwaits
  · exact hwaits

/-- Who waits after the channel could have been closed waits for something outstanding. -/
theorem pending_of_waits_settle (hn : (L.session.graph g).generation = n)
    (hwaits : (L.settle g n).waits g = true) : (L.session.graph g).pending ≠ [] := by
  intro hpending
  unfold Ledger.settle at hwaits
  rw [if_pos (by rw [hpending, hn]; simp)] at hwaits
  dsimp only at hwaits
  rw [Function.update_self] at hwaits
  cases hwaits

theorem Tally.settle (h : L.Tally k) (g n : Nat) : (L.settle g n).Tally k := by
  have hopened : (L.session.graph k).pending ≠ [] → (L.settle g n).waits k = true := by
    intro hpending
    unfold Ledger.settle
    split
    · rename_i hempty
      have hne : k ≠ g := by
        rintro rfl
        rw [Bool.and_eq_true, List.isEmpty_iff] at hempty
        exact hpending hempty.1
      dsimp only
      rw [Function.update_of_ne hne]
      exact h.opened hpending
    · exact h.opened hpending
  have hfields : ∃ waits', L.settle g n = { L with waits := waits' } := by
    unfold Ledger.settle
    split
    · exact ⟨_, rfl⟩
    · exact ⟨_, rfl⟩
  obtain ⟨waits', heq⟩ := hfields
  rw [heq] at hopened ⊢
  exact ⟨h.begun, h.current, h.pending, hopened⟩

theorem Shuts.settle (h : L.Shuts k) (g n : Nat) : (L.settle g n).Shuts k := by
  intro hwaits
  rw [session_settle, callers_settle]
  exact h (waits_settle hwaits)

end KernelGraph.Ledger
