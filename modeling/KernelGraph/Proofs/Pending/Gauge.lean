/-
  The gauge of all graphs.

  Whoever changes what is outstanding of a graph brings the gauge up to date.  So the gauge shows
  how many kernels of all graphs are outstanding, after every section.
-/
import Mathlib.Algebra.BigOperators.Group.Finset.Basic
import Mathlib.Algebra.BigOperators.Ring.Finset
import KernelGraph.Proofs.Pending.Awaiting

namespace KernelGraph

namespace Session

/-- The gauge shows how many kernels are outstanding, and each is counted once. -/
structure Gauged (s : Session) : Prop where
  nodup : ∀ g, (s.graph g).pending.Nodup
  gauge : s.metrics.pending = ∑ g ∈ Finset.range s.graphs.size, ((s.graph g).pending.length : Int)

section
variable {s s' : Session} {g : Nat}

theorem graph_of_le (h : s.graphs.size ≤ g) : s.graph g = default := by
  rw [Session.graph, Array.getD_eq_getD_getElem?, Array.getElem?_eq_none h]
  rfl

/-- Graphs may have been added, of which nothing is outstanding. -/
theorem Gauged.same (h : s.Gauged) (hsize : s.graphs.size ≤ s'.graphs.size)
    (hpending : ∀ g, (s'.graph g).pending = (s.graph g).pending)
    (hgauge : s'.metrics.pending = s.metrics.pending) : s'.Gauged where
  nodup g := by
    rw [hpending]
    exact h.nodup g
  gauge := by
    rw [hgauge, h.gauge]
    simp only [hpending]
    refine Finset.sum_subset (Finset.range_mono hsize) fun i _ hi => ?_
    rw [graph_of_le (Nat.not_lt.1 fun hlt => hi (Finset.mem_range.2 hlt))]
    rfl

/-- **What is outstanding of one graph changes**, and the gauge with it. -/
theorem Gauged.change (h : s.Gauged) (hg : g < s.graphs.size)
    (hsize : s'.graphs.size = s.graphs.size)
    (hother : ∀ i ≠ g, (s'.graph i).pending = (s.graph i).pending)
    (hnodup : (s'.graph g).pending.Nodup)
    (hgauge : s'.metrics.pending =
      s.metrics.pending - (s.graph g).pending.length + (s'.graph g).pending.length) :
    s'.Gauged where
  nodup i := by
    by_cases hi : i = g
    · rw [hi]
      exact hnodup
    · rw [hother i hi]
      exact h.nodup i
  gauge := by
    have hmem := Finset.mem_range.2 hg
    have hrest : ∑ i ∈ (Finset.range s.graphs.size).erase g, ((s'.graph i).pending.length : Int) =
        ∑ i ∈ (Finset.range s.graphs.size).erase g, ((s.graph i).pending.length : Int) :=
      Finset.sum_congr rfl fun i hi => by rw [hother i (Finset.ne_of_mem_erase hi)]
    have hold := h.gauge
    rw [← Finset.add_sum_erase _ _ hmem] at hold
    rw [hgauge, hold, hsize, ← Finset.add_sum_erase _ _ hmem, hrest]
    omega

theorem Gauged.posts (h : s.Gauged) (hp : s.Posts s') : s'.Gauged :=
  h.same (Nat.le_of_eq hp.graphs.symm) hp.pending hp.gauge

theorem Gauged.modifyGraph (h : s.Gauged) {f : GraphState → GraphState}
    (hf : ∀ x, (f x).pending = x.pending) : (s.modifyGraph g f).Gauged := by
  refine h.same (Nat.le_of_eq Array.size_modify.symm) (fun i => ?_) rfl
  rw [graph_modifyGraph]
  split
  · exact hf _
  · rfl

theorem Gauged.takeAll (h : s.Gauged) (g : Nat) : (s.takeAll g).Gauged := by
  obtain ⟨_, _, _, heq, _⟩ := foldl_takeTask_eq (s.graphResources g) s
  rw [Session.takeAll, heq]
  exact h.same (Nat.le_refl _) (fun _ => rfl) rfl

/-- **A kernel is struck off.** -/
theorem Gauged.strike (h : s.Gauged) (j : Job) (hg : j.graph < s.graphs.size) :
    (s.strike j).Gauged := by
  have hgraph : ∀ i, (s.strike j).graph i = if j.graph = i ∧ j.graph < s.graphs.size then
      { s.graph i with pending := (s.graph i).pending.filter (· ≠ j.kernel) } else s.graph i :=
    fun i => graph_modifyGraph s j.graph _ i
  have hself : ((s.strike j).graph j.graph).pending =
      (s.graph j.graph).pending.filter (· ≠ j.kernel) := by
    rw [hgraph, if_pos ⟨rfl, hg⟩]
  refine h.change hg Array.size_modify (fun i hi => ?_) ?_ ?_
  · rw [hgraph, if_neg fun h => hi h.1.symm]
  · rw [hself]
    exact (h.nodup j.graph).filter _
  · have hlength := List.length_eq_length_filter_add (l := (s.graph j.graph).pending)
      (fun k => decide (k = j.kernel))
    have hnot : (s.graph j.graph).pending.filter (fun k => !decide (k = j.kernel)) =
        (s.graph j.graph).pending.filter (· ≠ j.kernel) :=
      List.filter_congr fun k _ => (decide_not ..).symm
    rw [hnot] at hlength
    rw [hself]
    show s.metrics.pending - ((s.graph j.graph).pending.filter (· = j.kernel)).length = _
    omega

theorem Gauged.register (h : s.Gauged) (id : Nat) (j : Job) : (s.register id j).Gauged := by
  unfold Session.register
  dsimp only
  split
  · exact h.same (Nat.le_refl _) (fun _ => rfl) rfl
  · exact h.same (Nat.le_refl _) (fun _ => rfl) rfl

/-- **An update opens its account.** -/
theorem Gauged.opened (h : s.Gauged) (hg : g < s.graphs.size) {jobs : List Job}
    (hopened : Opened g s s' jobs) : s'.Gauged := by
  have hpending : (s'.graph g).pending = jobs.map Job.kernel := by rw [hopened.graph]
  refine h.change hg hopened.size (fun i hi => by rw [hopened.other i hi]) ?_ ?_
  · rw [hpending]
    exact hopened.apart
  · rw [hpending, List.length_map]
    exact hopened.gauge

/-- **A graph is closed.** -/
theorem Gauged.finishClose (h : s.Gauged) (g : Nat) : (s.finishClose g).Gauged := by
  obtain ⟨-, hsize, hgauge⟩ := gauge_finishClose s g
  by_cases hg : g < s.graphs.size
  · have hself : ((s.finishClose g).graph g).pending = [] := by
      rw [graph_finishClose, if_pos ⟨rfl, hg⟩]
    refine h.change hg hsize (fun i hi => ?_) ?_ ?_
    · rw [graph_finishClose, if_neg fun h => hi h.1.symm]
    · rw [hself]
      exact .nil
    · rw [hself, hgauge]
      exact (Int.add_zero _).symm
  · rw [graph_of_le (Nat.not_lt.1 hg)] at hgauge
    refine h.same (Nat.le_of_eq hsize.symm) (fun i => ?_) (hgauge.trans (Int.sub_zero _))
    rw [graph_finishClose, if_neg fun h => hg h.2]

end

end Session

namespace Ledger

open Session

variable {L L' : Ledger}

/-- **Every section** keeps the gauge up to date. -/
theorem gauged_step (h : L.session.Gauged) (hcalls : L.session.Calls L.callers)
    (hawaited : L.Awaited)
    (hstep : Step L L') : L'.session.Gauged := by
  cases hstep with
  | around haround => exact h.same haround.size (fun g => (haround.graph g).pending) haround.gauge
  | drop ht hruntime hdone hlanding hskip => exact h.same (Nat.le_refl _) (fun _ => rfl) rfl
  | abandon ht hruntime hdone hlanding hcancelled hresult =>
    exact h.same (Nat.le_refl _) (fun _ => rfl) rfl
  | deliver ht hkind hdone hlanding hawaits hresult =>
    exact h.same (Nat.le_refl _) (fun _ => rfl) rfl
  | @land id t n plan program r ht hkind hlanding =>
    have hposts := Posts.land L.session t.job n plan program r
    have hstruck : (if n = (L.session.graph t.job.graph).generation then L.session.strike t.job
        else L.session).Gauged := by
      split
      · exact h.strike t.job (hcalls.fits ht hkind).graph
      · exact h
    rw [session_settle]
    exact (hstruck.posts hposts).same (Nat.le_refl _) (fun _ => rfl) rfl
  | begin hidle hg haccepts =>
    exact (h.modifyGraph (f := fun x => { x with generation := x.generation + 1 })
      fun _ => rfl).takeAll _
  | quit hwaiting hquit => exact h
  | @prepare c g n d p s' hwaiting hopen hn hp =>
    have hopened := hawaited.cleared.opened hcalls hwaiting hopen hn hp
    have hg : g < L.session.graphs.size := (hcalls.callers c).graph (by rw [hwaiting]; rfl)
    have hnext : (p.session.setPending g (p.jobs.map Prod.fst)).Gauged := h.opened hg hopened
    exact hnext
  | report hcaller => exact h.posts (.reportFailure ..)
  | enqueue hcaller => exact h.same (Nat.le_refl _) (fun _ => rfl) rfl
  | register hcaller => exact h.register ..
  | inline hcaller hclosed ht hdone => exact h
  | finish hcaller =>
    rw [enter, session_settle]
    exact h.posts (.finishUpdate ..)
  | beginClose hidle hg hopen =>
    exact (h.modifyGraph (f := fun x => { x with closed := true, generation := x.generation + 1 })
      fun _ => rfl).takeAll _
  | @finishClose c g hcaller =>
    dsimp only [enter]
    exact h.finishClose g

end Ledger

end KernelGraph
