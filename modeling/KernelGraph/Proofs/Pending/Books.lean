/-
  The books are in order.

  Every section leaves the accounts of all graphs but one as they were, and brings that one up to
  date:

      opened by an update when it prepares, closed by the next one or by closing the graph
      a result arrives: its resource does not wait any more, its job lands
      a job has landed: its kernel is struck off
-/
import KernelGraph.Proofs.Pending.Tallies

namespace KernelGraph.Ledger

open Session

variable {L L' : Ledger} {c g i k r id n : Nat} {j : Job} {t : CompileTask}

/-! ## Coming back -/

/-- **A result arrives**: what has waited for it lands. -/
theorem Tally.deliver (h : L.Tally g) (hcalls : L.session.Calls L.callers)
    (ht : L.session.tasks[id]? = some t) {plan : Plan} (hkind : t.job.kind = .runtime n plan)
    (hawaits : L.session.Awaits t.job) (program : Option Program) (r : CompileResult) :
    Tally { L with
      session := L.session.deliver t.job n program r
      landing := Function.update L.landing id (some (program, r)) } g := by
  have hresource := resource_modifyResource L.session t.job.resource
    fun x => (x.finish n program r).2
  have hlapses : ∀ i, (L.session.resource i).Lapses
      ((L.session.deliver t.job n program r).resource i) := fun i => by
    rw [Session.deliver, hresource]
    split
    · exact .finish _ _ _ _
    · exact Or.inl rfl
  refine ⟨fun {k i} ho hstate => ?_, fun {j} hj => ?_, h.pending, h.opened⟩
  · have hsame := (hlapses i).same hstate
    dsimp only at hstate ⊢
    rw [hsame] at hstate ⊢
    exact h.begun ho hstate
  · have hold : L.Current g j := hj
    obtain ⟨ho, hor⟩ := h.current hold
    refine ⟨ho, ?_⟩
    rcases hor with hj' | ⟨id', t', ht', hjob, hlanding⟩
    · by_cases hr : t.job.resource = j.resource
      · -- it is the job that the result is of
        have hmark := mark_of_task hcalls ht ⟨n, plan, hkind⟩ (by rw [hr]; exact ho)
        have hsame : j.mark = t.job.mark := by
          rw [hmark, ← hawaits.1, hr, hj'.1, ← hold.2.1]
          rfl
        refine Or.inr ⟨id, t, ht, (hold.1.eq_of_mark hcalls ht ⟨n, plan, hkind⟩ hsame).1, ?_⟩
        dsimp only
        rw [Function.update_self]
        exact Option.some_ne_none _
      · refine Or.inl ?_
        rw [Awaits, Session.deliver, hresource, if_neg fun h => hr h.1]
        exact hj'
    · refine Or.inr ⟨id', t', ht', hjob, ?_⟩
      dsimp only
      by_cases hid : id' = id
      · rw [hid, Function.update_self]
        exact Option.some_ne_none _
      · rw [Function.update_of_ne hid]
        exact hlanding

/-- What becomes of the tasks when one is over. -/
theorem task_endTask {s : Session} {t' : CompileTask} (ht : s.tasks[i]? = some t)
    (ht' : (s.endTask id).tasks[i]? = some t') :
    t'.job = t.job ∧ (i ≠ id → t' = t) ∧ (i = id → t'.done = true) := by
  have hmodify : (s.tasks.modify id fun t => { t with done := true })[i]? = some t' := ht'
  rw [Array.getElem?_modify] at hmodify
  split at hmodify
  · rename_i hi
    rw [ht] at hmodify
    cases hmodify
    exact ⟨rfl, fun hne => absurd hi.symm hne, fun _ => rfl⟩
  · rename_i hi
    rw [ht] at hmodify
    cases hmodify
    exact ⟨rfl, fun _ => rfl, fun heq => absurd heq.symm hi⟩

/-- **A current job has landed**: its kernel is struck off. -/
theorem Tally.land (h : L.Tally t.job.graph) (hcalls : L.session.Calls L.callers)
    (ht : L.session.tasks[id]? = some t) {plan : Plan} (hkind : t.job.kind = .runtime n plan)
    (hn : n = (L.session.graph t.job.graph).generation) (program : Option Program)
    (r : CompileResult) :
    Tally { L with
      session := (L.session.land t.job n plan program r).endTask id
      landing := Function.update L.landing id none } t.job.graph := by
  have hruntime : t.job.IsRuntime := ⟨n, plan, hkind⟩
  have hg := (hcalls.fits ht hkind).graph
  have hposts := Posts.land L.session t.job n plan program r
  rw [if_pos hn] at hposts
  have hframe := (Frame.land L.session t.job n plan program r).trans (.endTask _ id)
  generalize L.session.land t.job n plan program r = s' at hposts hframe ⊢
  have hstrike : (L.session.strike t.job).graph t.job.graph = { L.session.graph t.job.graph with
      pending := (L.session.graph t.job.graph).pending.filter (· ≠ t.job.kernel) } :=
    (graph_modifyGraph L.session t.job.graph _ _).trans (if_pos ⟨rfl, hg⟩)
  have hpending : ((s'.endTask id).graph t.job.graph).pending =
      (L.session.graph t.job.graph).pending.filter (· ≠ t.job.kernel) := by
    refine (hposts.pending t.job.graph).trans ?_
    rw [hstrike]
  have hgeneration : ((s'.endTask id).graph t.job.graph).generation =
      (L.session.graph t.job.graph).generation := by
    refine (hposts.graph t.job.graph).generation.trans ?_
    rw [hstrike]
  have hsets : ((s'.endTask id).graph t.job.graph).sets = (L.session.graph t.job.graph).sets := by
    refine (hposts.graph t.job.graph).sets.trans ?_
    rw [hstrike]
  have howns : ∀ {k r}, (s'.endTask id).Owns t.job.graph k r ↔ L.session.Owns t.job.graph k r := by
    intro k r
    rw [Owns, Owns, hsets]
  have hresource : ∀ r, (s'.endTask id).resource r = L.session.resource r := fun r => by
    show s'.resource r = _
    rw [Session.resource, hposts.resources]
    rfl
  have htasks : s'.tasks = L.session.tasks := hposts.tasks
  -- the jobs that are still to come back are those of the other kernels
  have hcurrent : ∀ {j}, Current { L with
      session := s'.endTask id, landing := Function.update L.landing id none } t.job.graph j ↔
        L.Current t.job.graph j ∧ j.kernel ≠ t.job.kernel := by
    intro j
    constructor
    · rintro ⟨⟨hruntime', hj⟩, hgraph, hnumber⟩
      have hnumber' := hnumber.trans hgeneration
      have hold : L.Current t.job.graph j := by
        refine ⟨⟨hruntime', hj.imp_right ?_⟩, hgraph, hnumber'⟩
        rintro ⟨id', t', ht', rfl, hdone⟩
        obtain ⟨t₀, ht₀, hjob⟩ := hframe.elapses.old ht' hruntime'
        refine ⟨id', t₀, ht₀, hjob.symm, ?_⟩
        rw [← htasks] at ht₀
        obtain ⟨-, hne, heq⟩ := task_endTask ht₀ ht'
        by_cases hid : id' = id
        · rw [heq hid] at hdone
          cases hdone
        · rw [← hne hid]
          exact hdone
      refine ⟨hold, fun hkernel => ?_⟩
      have hmark : j.mark = t.job.mark := by
        have hjob : t.job.generation = j.generation := by
          rw [hnumber', Job.generation_eq hkind, hn]
        rw [Job.mark, Job.mark, hgraph, hkernel, hjob]
      rcases hj with ⟨c, hj⟩ | ⟨id', t', ht', rfl, hdone⟩
      · exact (hcalls.callers c).unsubmitted j hj id t ht hruntime hmark.symm
      · obtain ⟨t₀, ht₀, hjob⟩ := hframe.elapses.old ht' hruntime'
        have hid := hcalls.unique ht₀ ht (by rw [← hjob]; exact hruntime') hruntime
          (by rw [← hjob]; exact hmark)
        rw [← htasks] at ht₀
        rw [(task_endTask ht₀ ht').2.2 hid] at hdone
        cases hdone
    · rintro ⟨⟨⟨hruntime', hj⟩, hgraph, hnumber⟩, hkernel⟩
      refine ⟨⟨hruntime', hj.imp_right ?_⟩, hgraph, hnumber.trans hgeneration.symm⟩
      rintro ⟨id', t', ht', rfl, hdone⟩
      refine ⟨id', t', task_modifyTask_of_ne ?_ ?_, rfl, hdone⟩
      · rw [htasks]
        exact ht'
      · rintro rfl
        rw [ht] at ht'
        cases ht'
        exact hkernel rfl
  refine ⟨fun {k r} ho hstate => ?_, fun {j} hj => ?_, fun k => ?_, fun hne => ?_⟩
  · dsimp only at ho hstate ⊢
    rw [hresource] at hstate ⊢
    rw [hgeneration]
    exact h.begun (howns.1 ho) hstate
  · obtain ⟨hold, hkernel⟩ := hcurrent.1 hj
    obtain ⟨ho, hor⟩ := h.current hold
    refine ⟨howns.2 ho, ?_⟩
    rcases hor with hawaits | ⟨id', t', ht', rfl, hlanding⟩
    · refine Or.inl ?_
      rw [Awaits]
      dsimp only
      rw [hresource]
      exact hawaits
    · have hid : id ≠ id' := by
        rintro rfl
        rw [ht] at ht'
        cases ht'
        exact hkernel rfl
      refine Or.inr ⟨id', t', task_modifyTask_of_ne (by rw [htasks]; exact ht') hid, rfl, ?_⟩
      dsimp only
      rw [Function.update_of_ne hid.symm]
      exact hlanding
  · dsimp only
    rw [hpending, List.mem_filter, h.pending k]
    simp only [hcurrent, decide_eq_true_eq]
    constructor
    · rintro ⟨⟨j, hj, rfl⟩, hkernel⟩
      exact ⟨j, ⟨hj, hkernel⟩, rfl⟩
    · rintro ⟨j, ⟨hj, hkernel⟩, rfl⟩
      exact ⟨⟨j, hj, rfl⟩, hkernel⟩
  · refine h.opened fun hnil => hne ?_
    dsimp only
    rw [hpending, hnil]
    rfl

/-! ## Opening -/

/-- **An update opens the account** of its graph, with its own jobs. -/
theorem tally_opened (hcalls : L.session.Calls L.callers) {s' : Session} {plan : Plan}
    {failed : List Nat} {jobs : List Job} {waits' : Nat → Bool}
    (hwaiting : L.callers c = .waiting g n) (hn : (L.session.graph g).generation = n)
    (hopened : Opened g L.session s' jobs) (hwaits : jobs ≠ [] → waits' g = true) :
    ({ L with session := s', waits := waits' }.enter c
      (.submitting g plan failed jobs none)).Tally g := by
  have hupdate : (L.callers c).update? = some (g, n) := by
    rw [hwaiting]
    rfl
  have hgeneration : (s'.graph g).generation = n := by
    rw [hopened.graph]
    exact hn
  have hpending : (s'.graph g).pending = jobs.map Job.kernel := by rw [hopened.graph]
  have hcurrent : ∀ {j}, ({ L with session := s', waits := waits' }.enter c
      (.submitting g plan failed jobs none)).Current g j ↔ j ∈ jobs := by
    intro j
    constructor
    · rintro ⟨⟨hruntime, hj⟩, hgraph, hnumber⟩
      have hnumber' : j.generation = n := hnumber.trans hgeneration
      rcases hj with ⟨c', hj⟩ | ⟨id, t, ht, rfl, -⟩
      · by_cases hc : c' = c
        · rw [hc, callers_enter_self] at hj
          exact hj
        · -- no other caller has the same update
          rw [callers_enter_of_ne _ hc] at hj
          obtain ⟨i, m, hupdate', hserves⟩ := (hcalls.callers c').jobs j hj
          rw [← hserves.graph, hgraph, ← hserves.generation, hnumber'] at hupdate'
          exact absurd (hcalls.apart hupdate' hupdate) hc
      · have hfits := hcalls.callers c
        rw [hwaiting] at hfits
        dsimp only [enter] at ht
        rw [hopened.tasks] at ht
        exact absurd hnumber' (hfits.fresh rfl id t ht hruntime hgraph)
    · intro hj
      have hserves := hopened.serves j hj
      refine ⟨⟨hserves.isRuntime, Or.inl ⟨c, ?_⟩⟩, hserves.graph, ?_⟩
      · rw [callers_enter_self]
        exact hj
      · exact (hserves.generation.trans hn).trans hgeneration.symm
  refine ⟨fun {k r} ho hstate => ?_, fun {j} hj => ?_, fun k => ?_,
    fun hne => hwaits fun hnil => hne ?_⟩
  · obtain ⟨j, hj, -, rfl⟩ := hopened.waiting ho hstate
    refine (hopened.begun j hj).2.1.trans ?_
    exact ((hopened.serves j hj).generation.trans hn).trans hgeneration.symm
  · obtain ⟨ho, hawaits⟩ := hopened.begun j (hcurrent.1 hj)
    exact ⟨ho, Or.inl hawaits⟩
  · dsimp only [enter]
    rw [hpending]
    simp only [List.mem_map]
    constructor
    · rintro ⟨j, hj, hk⟩
      exact ⟨j, hcurrent.2 hj, hk⟩
    · rintro ⟨j, hj, hk⟩
      exact ⟨j, hcurrent.1 hj, hk⟩
  · dsimp only [enter]
    rw [hpending, hnil]
    rfl

theorem stays_opened {s' : Session} {plan : Plan} {failed : List Nat} {jobs : List Job}
    {waits' : Nat → Bool}
    (hwaiting : L.callers c = .waiting g n) (hopened : Opened g L.session s' jobs) (hi : i ≠ g)
    (hwaits : waits' i = L.waits i) :
    Stays L ({ L with session := s', waits := waits' }.enter c
      (.submitting g plan failed jobs none)) i := by
  have hgraph := hopened.other i hi
  have hsession : Stays L { L with session := s', waits := waits' } i := by
    refine stays_session hopened.elapses (by rw [hgraph]) (by rw [hgraph]) (by rw [hgraph])
      (fun ho => by rw [hopened.kept hi ho]; exact ⟨rfl, rfl⟩) (fun ht _ _ _ ht' => ?_) hwaits
    rw [hopened.tasks, ht] at ht'
    cases ht'
    exact ⟨rfl, fun h => h⟩
  refine hsession.trans (stays_enter (fun j hj => ?_) ?_ fun _ _ hupdate => ?_)
  · dsimp only
    rw [hwaiting]
    constructor
    · intro hmem
      exact absurd (hj.symm.trans (hopened.serves j hmem).graph) hi
    · intro hmem
      cases hmem
  · dsimp only
    rw [hwaiting]
    exact ⟨fun h => (by cases h; exact hi rfl), fun h => (by cases h)⟩
  · dsimp only at hupdate
    rw [hwaiting] at hupdate
    cases hupdate
    exact absurd rfl hi

/-! ## Submitting -/

theorem stays_enqueue (hcalls : L.session.Calls L.callers) {plan : Plan} {jobs : List Job}
    (hcaller : L.callers c = .submitting g plan [] (j :: jobs) none) (i : Nat) :
    Stays L ({ L with session := L.session.enqueue j }.enter c
      (.submitting g plan [] jobs (some (L.session.tasks.size, j)))) i := by
  have hfits := hcalls.callers c
  rw [hcaller] at hfits
  have hserves := hfits.serves (List.mem_cons_self ..)
  have houtstanding : ∀ {j'}, ({ L with session := L.session.enqueue j }.enter c
      (.submitting g plan [] jobs (some (L.session.tasks.size, j)))).Outstanding j' ↔
        L.Outstanding j' := by
    intro j'
    refine and_congr_right fun _ => ?_
    constructor
    · rintro (⟨c', hj⟩ | ⟨id, t, ht, rfl, hdone⟩)
      · by_cases hc : c' = c
        · rw [hc, callers_enter_self] at hj
          refine Or.inl ⟨c, ?_⟩
          rw [hcaller]
          exact List.mem_cons_of_mem _ hj
        · rw [callers_enter_of_ne _ hc] at hj
          exact Or.inl ⟨c', hj⟩
      · rcases task_enqueue ht with ht | ⟨-, rfl⟩
        · exact Or.inr ⟨id, t, ht, rfl, hdone⟩
        · refine Or.inl ⟨c, ?_⟩
          rw [hcaller]
          exact List.mem_cons_self ..
    · rintro (⟨c', hj⟩ | ⟨id, t, ht, rfl, hdone⟩)
      · by_cases hc : c' = c
        · rw [hc, hcaller] at hj
          rcases List.mem_cons.1 hj with rfl | hj
          · exact Or.inr ⟨L.session.tasks.size, _, task_enqueue_self, rfl, rfl⟩
          · refine Or.inl ⟨c, ?_⟩
            rw [callers_enter_self]
            exact hj
        · refine Or.inl ⟨c', ?_⟩
          rw [callers_enter_of_ne _ hc]
          exact hj
      · exact Or.inr ⟨id, t, task_enqueue_of_get ht, rfl, hdone⟩
  refine
    { settled := fun h c' => ?_
      generation := rfl
      pending := rfl
      owns := Iff.rfl
      resource := fun _ => ⟨rfl, rfl⟩
      current := fun {j'} => and_congr_left' houtstanding
      lands := fun {j'} _ ⟨id, t, ht, hjob, hlanding⟩ =>
        ⟨id, t, task_enqueue_of_get ht, hjob, hlanding⟩
      waits := rfl
      updates := fun _ _ ⟨c', hc'⟩ => ⟨c', ?_⟩ }
  · by_cases hc : c' = c
    · rw [hc, hcaller]
      exact ⟨fun h => (by cases h), fun h => (by cases h)⟩
    · have hc' := h c'
      rw [callers_enter_of_ne _ hc] at hc'
      exact hc'
  · by_cases hc : c' = c
    · rw [hc, hcaller] at hc'
      rw [hc, callers_enter_self]
      exact hc'
    · rw [callers_enter_of_ne _ hc]
      exact hc'

theorem done_register {s : Session} {t' : CompileTask} (ht : s.tasks[i]? = some t)
    (ht' : (s.register id j).tasks[i]? = some t') : t'.done = t.done := by
  unfold Session.register at ht'
  dsimp only at ht'
  split at ht'
  · rw [show s.tasks[i]? = some t' from ht'] at ht
    cases ht
    rfl
  · have hmodify : (s.tasks.modify id fun t => { t with cancelled := true })[i]? = some t' := ht'
    rw [Array.getElem?_modify, ht] at hmodify
    split at hmodify
    · cases hmodify
      rfl
    · cases hmodify
      rfl

theorem stays_register (id : Nat) (j : Job) (i : Nat) :
    Stays L { L with session := L.session.register id j } i := by
  have hgraph : ∀ i, (L.session.register id j).graph i = L.session.graph i := fun i => by
    unfold Session.register
    dsimp only
    split
    · rfl
    · rfl
  refine stays_session (Frame.register ..).elapses (by rw [hgraph])
    (by rw [hgraph]) (by rw [hgraph])
    (fun {k r} _ => ?_) (fun ht _ _ _ ht' => ⟨done_register ht ht', fun h => h⟩) rfl
  obtain ⟨task, heq⟩ := exists_task_register L.session id j r
  rw [heq]
  exact ⟨rfl, rfl⟩

/-! ## Cancelling -/

theorem done_foldl_takeTask (rs : List Nat) (s : Session) {t' : CompileTask}
    (ht : s.tasks[i]? = some t) (ht' : (rs.foldl takeTask s).tasks[i]? = some t') :
    t'.done = t.done := by
  induction rs generalizing s t with
  | nil =>
    rw [show s.tasks[i]? = some t' from ht'] at ht
    cases ht
    rfl
  | cons r rs ih =>
    have hnext : ∃ t₁, (s.takeTask r).tasks[i]? = some t₁ ∧ t₁.done = t.done := by
      unfold Session.takeTask Resource.takeTask
      cases (s.resource r).task with
      | none => exact ⟨t, ht, rfl⟩
      | some id =>
        show ∃ t₁, (s.tasks.modify id fun t => { t with cancelled := true })[i]? = some t₁ ∧ _
        rw [Array.getElem?_modify, ht]
        split
        · exact ⟨_, rfl, rfl⟩
        · exact ⟨_, rfl, rfl⟩
    obtain ⟨t₁, ht₁, hdone⟩ := hnext
    exact (ih _ ht₁ ht').trans hdone

/-- A graph takes its tasks away, which is of no concern to the others. -/
theorem stays_modifyGraph (hholdings : L.session.Holdings) {f : GraphState → GraphState}
    (hframe : L.session.Frame (L.session.modifyGraph g f)) (hi : i ≠ g) :
    Stays L { L with session := (L.session.modifyGraph g f).takeAll g } i := by
  have hgraph : ((L.session.modifyGraph g f).takeAll g).graph i = L.session.graph i := by
    rw [graph_takeAll, graph_modifyGraph, if_neg fun h => hi h.1.symm]
  refine stays_session (hframe.trans (.takeAll _ g)).elapses (by rw [hgraph]) (by rw [hgraph])
    (by rw [hgraph]) (fun {k r} ho => ?_)
    (fun ht _ _ _ ht' => ⟨done_foldl_takeTask ((L.session.modifyGraph g f).graphResources g)
      (L.session.modifyGraph g f) ht ht', fun h => h⟩) rfl
  -- the resource is none of those that give their tasks up
  have hnot : r ∉ (L.session.modifyGraph g f).graphResources g := by
    intro hr
    obtain ⟨k', ho'⟩ := mem_graphResources.1 hr
    exact hi (hholdings.apart ho (hframe.owns ho')).1
  rw [takeAll, resource_foldl_takeTask, if_neg hnot]
  exact ⟨rfl, rfl⟩

/-! ## Closing -/

theorem finishClose_empty (s : Session) (g : Nat) :
    ((s.finishClose g).graph g).sets = [] ∧ ((s.finishClose g).graph g).pending = [] := by
  rw [graph_finishClose]
  split
  · exact ⟨rfl, rfl⟩
  · rename_i hg
    rw [graph_of_le (by omega)]
    exact ⟨rfl, rfl⟩

/-- **A graph that is closed** has nothing outstanding. -/
theorem tally_finishClose (hcalls : L'.session.Calls L'.callers)
    (hclosed : (L'.session.graph g).closed = true) (hsets : (L'.session.graph g).sets = [])
    (hpending : (L'.session.graph g).pending = []) : L'.Tally g where
  begun ho := by
    obtain ⟨set, hset, -⟩ := ho
    rw [hsets] at hset
    cases hset
  current hj := absurd hj (not_current_of_closed hcalls hclosed)
  pending k := by
    rw [hpending]
    constructor
    · intro hk
      cases hk
    · rintro ⟨j, hj, -⟩
      exact absurd hj (not_current_of_closed hcalls hclosed)
  opened hne := absurd hpending hne

theorem stays_finishClose (hholdings : L.session.Holdings) {waits' : Nat → Bool} (hi : i ≠ g)
    (hwaits : waits' i = L.waits i) :
    Stays L { L with session := L.session.finishClose g, waits := waits' } i := by
  have hgraph : (L.session.finishClose g).graph i = L.session.graph i := by
    rw [graph_finishClose, if_neg fun h => hi h.1.symm]
  refine stays_session (Frame.finishClose L.session g).elapses (by rw [hgraph]) (by rw [hgraph])
    (by rw [hgraph]) (fun {k r} ho => ?_) (fun ht _ _ _ ht' => ?_) hwaits
  · have hnot : r ∉ L.session.allResources g := by
      intro hr
      rcases List.mem_append.1 hr with hr | hr
      · obtain ⟨k', ho'⟩ := mem_graphResources.1 hr
        exact hi (hholdings.apart ho ho').1
      · obtain ⟨p, -, hp⟩ := List.mem_flatMap.1 hr
        exact hholdings.uncooked ho ⟨p, hp⟩
    have hsame : (L.session.finishClose g).resource r = L.session.resource r := by
      have hresource := resource_foldl_invalidate (L.session.allResources g) L.session r
      rw [if_neg fun h => hnot h.1] at hresource
      rw [Session.resource, (fields_finishClose L.session g).1]
      exact hresource
    rw [hsame]
    exact ⟨rfl, rfl⟩
  · rw [(gauge_finishClose L.session g).1, ht] at ht'
    cases ht'
    exact ⟨rfl, fun h => h⟩

/-! ## All sections -/

/-- The books of a ledger are in order. -/
structure Books (L : Ledger) : Prop where
  calls : L.session.Calls L.callers
  awaited : L.Awaited
  gauged : L.session.Gauged
  tally : ∀ g, L.Settled g → L.Tally g
  shuts : ∀ g, L.Settled g → L.Shuts g

/-- The account of a graph is up to date, unless somebody is about to replace what is outstanding
    of it. -/
def UpToDate (L : Ledger) (g : Nat) : Prop := L.Settled g → L.Tally g ∧ L.Shuts g

theorem Books.stays (h : L.Books) (hs : Stays L L' g) : L'.UpToDate g := fun hsettled =>
  ⟨hs.tally (h.tally g (hs.settled hsettled)), hs.shuts (h.shuts g (hs.settled hsettled))⟩

theorem settled_settle : (L.settle g n).Settled k ↔ L.Settled k := by
  rw [Settled, Settled, session_settle, callers_settle]

/-- The task of a job that is skipped, or was cancelled, is none of the latest generation. -/
theorem Books.skips (h : L.Books) (hsettled : L.Settled g) (ht : L.session.tasks[id]? = some t)
    (hruntime : t.job.IsRuntime) (hdone : t.done = false) (hlanding : L.landing id = none)
    (hskip : t.cancelled = true ∨ ¬ L.session.Awaits t.job) (hgraph : t.job.graph = g) :
    t.job.generation ≠ (L.session.graph g).generation := by
  intro hgeneration
  obtain ⟨ho, hawaits⟩ :=
    (h.tally g hsettled).awaits h.calls ht hruntime hdone hgraph hgeneration hlanding
  rcases hskip with hcancelled | hnot
  · exact h.awaited.not_awaits h.calls ht hruntime hcancelled ho hawaits
  · exact hnot hawaits

/-- A compile that was cancelled comes back with nothing. -/
theorem Books.abandon (h : L.Books) (ht : L.session.tasks[id]? = some t)
    (hruntime : t.job.IsRuntime) (hdone : t.done = false) (hlanding : L.landing id = none)
    (hcancelled : t.cancelled = true) :
    UpToDate { L with session := (L.session.modifyResource t.job.resource fun x =>
      x.abandon t.job.generation).endTask id } i := by
  intro hsettled
  have hframe : L.session.Frame ((L.session.modifyResource t.job.resource fun x =>
      x.abandon t.job.generation).endTask id) :=
    .trans (.modifyResource _ _ fun x => (Resource.Settles.abandon x _).toEases) (.endTask _ _)
  refine h.stays (stays_session hframe.elapses rfl rfl rfl (fun {k r} ho => ?_)
    (fun {id' t₀ t'} ht₀ _ hgraph hnumber ht' => ⟨?_, fun h => h⟩) rfl) hsettled
  · have hresource : ((L.session.modifyResource t.job.resource fun x =>
        x.abandon t.job.generation).endTask id).resource r = L.session.resource r := by
      refine (resource_modifyResource L.session t.job.resource _ r).trans ?_
      split
      · rename_i hr
        rw [← hr.1] at ho ⊢
        have hnot := h.awaited.not_awaits h.calls ht hruntime hcancelled ho
        rw [Resource.abandon, if_neg]
        simpa [Awaits] using hnot
      · rfl
    rw [hresource]
    exact ⟨rfl, rfl⟩
  · have ht₀' : (L.session.modifyResource t.job.resource fun x =>
        x.abandon t.job.generation).tasks[id']? = some t₀ := ht₀
    obtain ⟨-, hne, -⟩ := task_endTask ht₀' ht'
    rw [hne]
    rintro rfl
    rw [ht] at ht₀
    cases ht₀
    exact h.skips hsettled ht hruntime hdone hlanding (Or.inl hcancelled) hgraph hnumber

/-- **A job lands**: its graph strikes the kernel off, and the other graphs take no notice. -/
theorem Books.land (h : L.Books) (ht : L.session.tasks[id]? = some t) {plan : Plan}
    (hkind : t.job.kind = .runtime n plan) {program : Option Program} {r : CompileResult} :
    UpToDate ({ L with
      session := (L.session.land t.job n plan program r).endTask id
      landing := Function.update L.landing id none }.settle t.job.graph n) i := by
  intro hsettled
  rw [settled_settle] at hsettled
  have hg := (h.calls.fits ht hkind).graph
  have hposts := Posts.land L.session t.job n plan program r
  have hframe := (Frame.land L.session t.job n plan program r).trans (.endTask _ id)
  have hgeneration :
      ∀ i, (((L.session.land t.job n plan program r).endTask id).graph i).generation =
      (L.session.graph i).generation := fun i =>
    ((Steady.land L.session t.job n plan program r).graph i).generation
  have hold : L.Settled i := fun c => by
    have hc := hsettled c
    dsimp only at hc
    rw [hgeneration] at hc
    exact hc
  by_cases hcurrent : i = t.job.graph ∧ n = (L.session.graph t.job.graph).generation
  · obtain ⟨rfl, hn⟩ := hcurrent
    refine ⟨((h.tally _ hold).land h.calls ht hkind hn program r).settle _ _, fun hwaits => ?_⟩
    refine Or.inl ?_
    rw [session_settle]
    exact pending_of_waits_settle ((hgeneration _).trans hn.symm) hwaits
  · have hstays : Stays L { L with
        session := (L.session.land t.job n plan program r).endTask id
        landing := Function.update L.landing id none } i := by
      refine stays_session hframe.elapses (hgeneration i) ((hposts.pending i).trans ?_)
        ((Steady.land L.session t.job n plan program r).graph i).sets (fun {k r'} _ => ?_)
        (fun {id' t₀ t'} ht₀ _ hgraph hnumber ht' => ?_) rfl
      · split
        · rename_i hn
          have hi : t.job.graph ≠ i := fun h => hcurrent ⟨h.symm, hn⟩
          refine congrArg GraphState.pending
            ((graph_modifyGraph L.session t.job.graph _ i).trans ?_)
          exact if_neg fun h => hi h.1
        · rfl
      · have hresource : ((L.session.land t.job n plan program r).endTask id).resource r' =
            L.session.resource r' := by
          show (L.session.land t.job n plan program r).resource r' = _
          rw [Session.resource, hposts.resources]
          split
          · rfl
          · rfl
        rw [hresource]
        exact ⟨rfl, rfl⟩
      · -- the task that is over is none of the latest generation
        have hid : id' ≠ id := by
          rintro rfl
          rw [ht] at ht₀
          cases ht₀
          refine hcurrent ⟨hgraph.symm, ?_⟩
          rw [hgraph, ← hnumber, Job.generation_eq hkind]
        have htasks : (L.session.land t.job n plan program r).tasks[id']? = some t₀ := by
          rw [hposts.tasks]
          split
          · exact ht₀
          · exact ht₀
        obtain ⟨-, hne, -⟩ := task_endTask htasks ht'
        rw [hne hid]
        refine ⟨rfl, fun hlands => ?_⟩
        rw [Function.update_of_ne hid]
        exact hlands
    obtain ⟨htally, hshuts⟩ := h.stays hstays hsettled
    exact ⟨htally.settle _ _, hshuts.settle _ _⟩

/-- An update has submitted everything. -/
theorem Books.finish (h : L.Books) {plan : Plan}
    (hcaller : L.callers c = .submitting g plan [] [] none) :
    UpToDate (({ L with
      session := L.session.finishUpdate g plan }.settle g plan.generation).enter c .idle) i := by
  intro hsettled
  have hposted := stays_posts (L := L) (.finishUpdate L.session g plan) (.finishUpdate ..) i
  generalize hL₁ :
    ({ L with session := L.session.finishUpdate g plan } : Ledger) = L₁ at hposted hsettled ⊢
  have hcaller₁ : L₁.callers c = .submitting g plan [] [] none := by
    rw [← hL₁]
    exact hcaller
  have hentered : Stays (L₁.settle g plan.generation)
      ((L₁.settle g plan.generation).enter c .idle) i := by
    refine stays_enter (fun j _ => ?_) ?_ fun hwaits hpending hupdate => ?_
    · rw [callers_settle, hcaller₁]
      exact Iff.rfl
    · rw [callers_settle, hcaller₁]
      exact ⟨fun h => (by cases h), fun h => (by cases h)⟩
    · -- nobody waits any more, since nothing is outstanding
      rw [callers_settle, hcaller₁, session_settle] at hupdate
      rw [session_settle] at hpending
      obtain ⟨rfl, hn⟩ := Prod.mk.inj (Option.some.inj hupdate)
      exact absurd hpending (pending_of_waits_settle hn.symm hwaits)
  obtain ⟨htally, hshuts⟩ := h.stays hposted (settled_settle.1 (hentered.settled hsettled))
  exact ⟨hentered.tally (htally.settle _ _), hentered.shuts (hshuts.settle _ _)⟩

/-- A graph is closed: nothing of it is outstanding any more. -/
theorem Books.finishClose (h : L.Books) (hcaller : L.callers c = .closing g)
    (hcalls' : (L.session.finishClose g).Calls (L.enter c .idle).callers) :
    UpToDate ({ L with
      session := L.session.finishClose g
      waits := Function.update L.waits g false }.enter c .idle) i := by
  intro hsettled
  have hholdings := h.calls.holdings
  by_cases hi : i = g
  · subst hi
    obtain ⟨hsets, hpending⟩ := finishClose_empty L.session i
    have hclosed : ((L.session.finishClose i).graph i).closed = true := by
      have hclosing := (h.calls.callers c).closing hcaller
      rw [graph_finishClose]
      split
      · exact hclosing
      · exact hclosing
    -- nothing else of the session matters
    generalize L.session.finishClose i = s' at hcalls' hclosed hsets hpending ⊢
    refine ⟨tally_finishClose hcalls' hclosed hsets hpending, fun hwaits => ?_⟩
    dsimp only [enter] at hwaits
    rw [Function.update_self] at hwaits
    cases hwaits
  · refine h.stays ((stays_finishClose hholdings hi (Function.update_of_ne hi _ _)).trans
      (stays_enter (c := c) (fun j _ => ?_) ?_ fun _ _ hupdate => ?_)) hsettled
    · dsimp only
      rw [hcaller]
      exact Iff.rfl
    · dsimp only
      rw [hcaller]
      exact ⟨fun h => (by cases h), fun h => (by cases h; exact hi rfl)⟩
    · dsimp only at hupdate
      rw [hcaller] at hupdate
      cases hupdate

/-- **A section** brings all accounts up to date. -/
theorem Books.accounts (h : L.Books) (hstep : Step L L') (hcalls' : L'.session.Calls L'.callers)
    (i : Nat) : L'.UpToDate i := by
  intro hsettled
  have hholdings := h.calls.holdings
  cases hstep with
  | @around s' haround =>
    refine h.stays (stays_session haround.frame.elapses (haround.graph i).generation
      (haround.graph i).pending (haround.graph i).sets (fun ho => ?_)
      (fun ht hruntime _ _ ht' => ?_) rfl) hsettled
    · rw [haround.kept _ (hholdings.lt ho) (hholdings.uncooked ho)]
      exact ⟨rfl, rfl⟩
    · obtain ⟨t'', ht'', hdone, -⟩ := haround.same _ _ ht hruntime
      rw [ht'] at ht''
      cases ht''
      exact ⟨hdone, fun h => h⟩
  | @drop id t ht hruntime hdone hlanding hskip =>
    refine h.stays (stays_session (Frame.endTask L.session id).elapses rfl rfl rfl
      (fun _ => ⟨rfl, rfl⟩) (fun {id' t₀ t'} ht₀ _ hgraph hnumber ht' => ⟨?_, fun h => h⟩) rfl)
      hsettled
    obtain ⟨-, hne, -⟩ := task_endTask ht₀ ht'
    rw [hne]
    rintro rfl
    rw [ht] at ht₀
    cases ht₀
    exact h.skips hsettled ht hruntime hdone hlanding hskip hgraph hnumber
  | abandon ht hruntime hdone hlanding hcancelled _ =>
    exact h.abandon ht hruntime hdone hlanding hcancelled hsettled
  | deliver ht hkind hdone hlanding hawaits hresult =>
    exact ⟨(h.tally i hsettled).deliver h.calls ht hkind hawaits _ _, h.shuts i hsettled⟩
  | land ht hkind _ => exact h.land ht hkind hsettled
  | @begin c g hidle hg haccepts =>
    by_cases hi : i = g
    · -- the update is about to replace what is outstanding
      subst hi
      refine absurd ?_ (hsettled c).1
      rw [callers_enter_self]
      dsimp only [enter]
      rw [graph_takeAll, graph_begun hg]
    · exact h.stays (Stays.trans (stays_modifyGraph (f := fun x =>
        { x with generation := x.generation + 1 }) hholdings
        (.modifyGraph _ g fun x => ⟨rfl, Nat.le_succ _, fun h => h, Or.inl, Or.inl rfl⟩) hi)
        (stays_start (c := c) (by exact hidle) rfl i)) hsettled
  | @quit c g n hwaiting hquit =>
    have hne : (L.session.graph g).generation ≠ n := by
      rcases hquit with hclosed | hne
      · have hlt := (h.calls.callers c).lt (g := g) (n := n) (by rw [hwaiting]; rfl) hclosed
        omega
      · exact hne
    refine h.stays (stays_enter (fun j _ => ?_) ?_ fun _ _ hupdate => ?_) hsettled
    · rw [hwaiting]
      exact Iff.rfl
    · rw [hwaiting]
      exact ⟨fun h => (by cases h; exact hne rfl), fun h => (by cases h)⟩
    · rw [hwaiting] at hupdate
      cases hupdate
      exact absurd rfl hne
  | @prepare c g n d p s' hwaiting hopen hn hp =>
    have hopened := h.awaited.cleared.opened h.calls hwaiting hopen hn hp
    have hplan := generation_preparedPlan hopened hn
    by_cases hi : i = g
    · subst hi
      refine ⟨tally_opened h.calls hwaiting hn hopened fun hne => ?_, fun _ => Or.inr ⟨c, ?_⟩⟩
      · have hjobs : p.jobs ≠ [] := by
          rintro hnil
          refine hne ?_
          unfold preparedJobs
          rw [hnil]
          rfl
        rw [if_neg (by simpa using hjobs), Function.update_self]
      · rw [callers_enter_self]
        have hgeneration :
            ((p.session.setPending i (p.jobs.map Prod.fst)).graph i).generation = n := by
          rw [hopened.graph]
          exact hn
        exact congrArg (fun m => some (i, m)) (hplan.trans hgeneration.symm)
    · refine h.stays (stays_opened hwaiting hopened hi ?_) hsettled
      split
      · rfl
      · rw [Function.update_of_ne hi]
  | @report c g k plan failed jobs hcaller =>
    exact h.stays ((stays_posts (.reportFailure L.session g k) (.reportFailure ..) i).trans
      (stays_submitting (c := c) (by exact hcaller) i)) hsettled
  | enqueue hcaller => exact h.stays (stays_enqueue h.calls hcaller i) hsettled
  | @register c g plan jobs id j hcaller =>
    exact h.stays ((stays_register id j i).trans (stays_submitting (c := c) (by exact hcaller) i))
      hsettled
  | inline hcaller hclosed ht hdone => exact h.stays (stays_submitting hcaller i) hsettled
  | finish hcaller => exact h.finish hcaller hsettled
  | @beginClose c g hidle hg hopen =>
    by_cases hi : i = g
    · subst hi
      refine absurd ?_ (hsettled c).2
      rw [callers_enter_self]
    · exact h.stays (Stays.trans (stays_modifyGraph (f := fun x =>
        { x with closed := true, generation := x.generation + 1 }) hholdings
        (.modifyGraph _ g fun x =>
          ⟨rfl, Nat.le_succ _, fun _ => rfl, fun _ => Or.inr (Nat.lt_succ_self _), Or.inl rfl⟩) hi)
        (stays_start (c := c) (by exact hidle) rfl i)) hsettled
  | finishClose hcaller => exact h.finishClose hcaller hcalls' hsettled

end KernelGraph.Ledger
