/-
  Jobs and hook calls in order.

  An update marks each of its kernels once: the kernel either gets a job, or has failed to build.
  So two jobs never bear the same mark, and since a resource stops waiting for a job when it comes
  back, the hook is called at most once for a mark.  `Orders` states this of a world, with what it
  needs to know of the jobs and of the callers; every section keeps it.
-/
import KernelGraph.Proofs.Session.Frames
import KernelGraph.Proofs.Session.Preparing

namespace KernelGraph

/-- The mark of a hook call for the job. -/
def Job.mark (j : Job) : HookMark := ⟨j.graph, j.kernel, j.generation⟩

/-- The job is one of an update. -/
def Job.IsRuntime (j : Job) : Prop := ∃ n plan, j.kind = .runtime n plan

namespace Session

section
variable {s s' : Session} {g : Nat}

/-! ## Jobs that come back -/

section
variable {j : Job} {returned : Except (CallError ProgramError) (Program × Bool)}

/-- A job that comes back is not awaited any more. -/
theorem Comes.past (h : Comes s j returned s') (hj : s.Awaits j)
    (hlt : j.resource < s.resources.size) :
    ¬ s'.Awaits j := by
  have hpast : ∀ {f : Resource → Resource}, s'.resources = s.resources.modify j.resource f →
      ((f (s.resource j.resource)).state ≠ .compiling) → ¬ s'.Awaits j := by
    intro f hf hne hj'
    have hresource : s'.resource j.resource = f (s.resource j.resource) := by
      have hmodified := resource_modifyResource s j.resource f j.resource
      rw [if_pos ⟨rfl, hlt⟩] at hmodified
      rw [← hmodified]
      show s'.resources.getD j.resource default = _
      rw [hf]
      rfl
    exact hne (by rw [← hresource]; exact hj'.2)
  have hfinish : ∀ {n : Nat} (program : Option Program) (r : CompileResult), j.generation = n →
      ((s.resource j.resource).finish n program r).2.state ≠ .compiling := by
    rintro _ program r rfl
    unfold Resource.finish
    rw [if_pos (by rw [Bool.and_eq_true]; exact ⟨decide_eq_true hj.1, decide_eq_true hj.2⟩)]
    dsimp only
    split
    · exact fun h => by cases h
    · exact fun h => by cases h
  cases h with
  | ignored hnot _ => exact absurd hj hnot
  | abandoned _ _ hs =>
    obtain ⟨_, _, _, rfl⟩ := hs
    refine hpast (f := fun x => x.abandon j.generation) rfl ?_
    unfold Resource.abandon
    rw [if_pos (by rw [Bool.and_eq_true]; exact ⟨decide_eq_true hj.1, decide_eq_true hj.2⟩)]
    exact fun h => by cases h
  | @cooked _ program r _ _ hkind _ hs =>
    obtain ⟨_, _, _, rfl⟩ := hs
    have hn : j.generation = 0 := by rw [Job.generation, hkind]
    exact hpast (f := fun x => (x.finish 0 program r).2) rfl (hfinish program r hn)
  | @stale n plan program r _ hkind _ hs =>
    obtain ⟨_, _, _, rfl⟩ := hs
    have hn : j.generation = n := by rw [Job.generation, hkind]
    exact hpast (f := fun x => (x.finish n program r).2) rfl (hfinish program r hn)
  | @current n plan program r t _ hkind _ _ ht hs =>
    obtain ⟨hresources, _⟩ := settle_fields t j.graph plan
    obtain ⟨_, _, _, rfl⟩ := hs
    obtain ⟨_, _, _, rfl⟩ := ht
    have hn : j.generation = n := by rw [Job.generation, hkind]
    exact hpast (f := fun x => (x.finish n program r).2) hresources (hfinish program r hn)

/-- Only an awaited job of the current generation calls the hook. -/
theorem Comes.hooks (h : Comes s j returned s') : s'.hooks = s.hooks ∨
    s.Awaits j ∧ j.IsRuntime ∧ j.generation = (s.graph j.graph).generation ∧
      ∃ r, s'.hooks = s.hooks ++ [⟨j.graph, j.kernel, r⟩] := by
  cases h with
  | ignored _ hs =>
    obtain ⟨_, _, _, rfl⟩ := hs
    exact Or.inl rfl
  | abandoned _ _ hs =>
    obtain ⟨_, _, _, rfl⟩ := hs
    exact Or.inl rfl
  | cooked _ _ _ hs =>
    obtain ⟨_, _, _, rfl⟩ := hs
    exact Or.inl rfl
  | stale _ _ _ hs =>
    obtain ⟨_, _, _, rfl⟩ := hs
    exact Or.inl rfl
  | @current n plan program r t hj hkind hn _ ht hs =>
    obtain ⟨_, _, _, hhooks⟩ := settle_fields t j.graph plan
    obtain ⟨_, _, _, rfl⟩ := hs
    obtain ⟨_, _, _, rfl⟩ := ht
    refine Or.inr ⟨hj, ⟨n, plan, hkind⟩, ?_, r, congrArg (· ++ _) hhooks⟩
    rw [Job.generation, hkind]
    exact hn

end

end

/-! ## Orders -/

section
variable {s s' : Session} {calls : List HookMark} {g : Nat} {m : HookMark}

/-- The hook was called for the mark, or a job of an update bears it. -/
def Marked (s : Session) (calls : List HookMark) (m : HookMark) : Prop :=
  m ∈ calls ∨ ∃ t ∈ s.tasks, t.job.IsRuntime ∧ t.job.mark = m

/-- An update that waits has the latest number, unless its graph was closed. -/
structure Waits (s : Session) (calls : List HookMark) (g n : Nat) : Prop where
  graph : g < s.graphs.size
  le : n ≤ (s.graph g).generation
  lt : (s.graph g).closed = true → n < (s.graph g).generation
  number : (s.graph g).closed = false → (s.graph g).generation = n
  unmarked : ∀ m, Marked s calls m → m.graph = g → m.generation < n

/-- The kernels that an update has still to report or to submit are not marked. -/
structure Submits (s : Session) (calls : List HookMark) (g : Nat) (plan : Plan)
    (failed : List Nat) (jobs : List Job) : Prop where
  graph : g < s.graphs.size
  le : plan.generation ≤ (s.graph g).generation
  lt : (s.graph g).closed = true → plan.generation < (s.graph g).generation
  apart : (failed ++ jobs.map Job.kernel).Nodup
  unmarked : ∀ k ∈ failed ++ jobs.map Job.kernel, ¬ Marked s calls ⟨g, k, plan.generation⟩
  jobs : ∀ j ∈ jobs, j.graph = g ∧ j.kind = .runtime plan.generation plan ∧
    JobFits s j plan.generation plan

/-- The caller that updates a graph is in order. -/
def PhaseFits (s : Session) (calls : List HookMark) (g : Nat) : Phase → Prop
  | .idle => True
  | .waiting n => Waits s calls g n
  | .submitting plan failed jobs _ => Submits s calls g plan failed jobs

section
variable (hf : s.Frame s')
include hf

theorem Marked.frame (hm : Marked s' calls m) : Marked s calls m := by
  rcases hm with hm | ⟨t', ht', hruntime, rfl⟩
  · exact Or.inl hm
  · obtain ⟨i, hi⟩ := Array.mem_iff_getElem?.1 ht'
    rcases hf.jobs i t' hi with ⟨t, ht, hjob⟩ | ⟨_, ⟨p, hkind⟩, _⟩
    · rw [hjob] at hruntime ⊢
      exact Or.inr ⟨t, Array.mem_of_getElem? ht, hruntime, rfl⟩
    · obtain ⟨n, plan, hkind'⟩ := hruntime
      rw [hkind] at hkind'
      cases hkind'

theorem Submits.frame {plan : Plan} {failed : List Nat} {jobs : List Job}
    (h : Submits s calls g plan failed jobs) : Submits s' calls g plan failed jobs where
  graph := Nat.lt_of_lt_of_le h.graph hf.size
  le := Nat.le_trans h.le (hf.generation g)
  lt hclosed := by
    rcases hf.opened g hclosed with hc | hlt
    · exact Nat.lt_of_lt_of_le (h.lt hc) (hf.generation g)
    · exact Nat.lt_of_le_of_lt h.le hlt
  apart := h.apart
  unmarked k hk hm := h.unmarked k hk (hm.frame hf)
  jobs j hj := ⟨(h.jobs j hj).1, (h.jobs j hj).2.1, (h.jobs j hj).2.2.frame hf⟩

theorem Waits.frame {n : Nat} (h : Waits s calls g n)
    (hnumber : (s'.graph g).closed = false →
      (s'.graph g).generation = (s.graph g).generation) : Waits s' calls g n where
  graph := Nat.lt_of_lt_of_le h.graph hf.size
  le := Nat.le_trans h.le (hf.generation g)
  lt hclosed := by
    rcases hf.opened g hclosed with hc | hlt
    · exact Nat.lt_of_lt_of_le (h.lt hc) (hf.generation g)
    · exact Nat.lt_of_le_of_lt h.le hlt
  number hopen := by
    have hold : (s.graph g).closed = false := by
      by_contra hc
      have hclosed := hf.closed g (by simpa using hc)
      rw [hclosed] at hopen
      cases hopen
    exact (hnumber hopen).trans (h.number hold)
  unmarked m hm := h.unmarked m (hm.frame hf)

end

/-- A caller stays in order while no kernel of its graph is marked. -/
theorem PhaseFits.mono {calls' : List HookMark} {φ : Phase} (h : PhaseFits s calls g φ)
    (hm : ∀ m, m.graph = g → Marked s calls' m → Marked s calls m) : PhaseFits s calls' g φ := by
  cases φ with
  | idle => trivial
  | waiting n =>
    exact ⟨h.graph, h.le, h.lt, h.number, fun m hmarked hg => h.unmarked m (hm m hg hmarked) hg⟩
  | submitting plan failed jobs _ =>
    exact ⟨h.graph, h.le, h.lt, h.apart, fun k hk hmarked => h.unmarked k hk (hm _ rfl hmarked),
      h.jobs⟩

/-! ### Submitting -/

theorem JobFits.enqueue {j j' : Job} {n : Nat} {plan : Plan} (h : JobFits s j n plan) :
    JobFits (s.enqueue j') j n plan :=
  ⟨h.graph, h.plan, h.le, h.lt, h.resource, h.uncooked, h.owner⟩

theorem Marked.enqueue {j : Job} (hm : Marked (s.enqueue j) calls m) :
    Marked s calls m ∨ m = j.mark := by
  rcases hm with hm | ⟨t, ht, hruntime, rfl⟩
  · exact Or.inl (Or.inl hm)
  · rcases Array.mem_push.1 ht with ht | rfl
    · exact Or.inl (Or.inr ⟨t, ht, hruntime, rfl⟩)
    · exact Or.inr rfl

theorem Submits.enqueue {j : Job} {plan : Plan} {failed : List Nat} {jobs : List Job}
    (h : Submits s calls g plan failed jobs)
    (hj : ∀ k ∈ failed ++ jobs.map Job.kernel, j.mark ≠ ⟨g, k, plan.generation⟩) :
    Submits (s.enqueue j) calls g plan failed jobs where
  graph := h.graph
  le := h.le
  lt := h.lt
  apart := h.apart
  unmarked k hk hm := by
    rcases hm.enqueue with hm | hm
    · exact h.unmarked k hk hm
    · exact hj k hk hm.symm
  jobs j hj := ⟨(h.jobs j hj).1, (h.jobs j hj).2.1, (h.jobs j hj).2.2.enqueue⟩

/-- The job of one graph is of no concern to the callers of others. -/
theorem PhaseFits.enqueue {j : Job} {φ : Phase} (h : PhaseFits s calls g φ) (hj : j.graph ≠ g) :
    PhaseFits (s.enqueue j) calls g φ := by
  have hmark : ∀ m : HookMark, m.graph = g → j.mark ≠ m := fun m hm heq =>
    hj (by rw [← hm, ← heq]; rfl)
  cases φ with
  | idle => trivial
  | waiting n =>
    refine ⟨h.graph, h.le, h.lt, h.number, fun m hm hg => ?_⟩
    rcases hm.enqueue with hm | hm
    · exact h.unmarked m hm hg
    · exact absurd hm.symm (hmark m hg)
  | submitting plan failed jobs _ => exact Submits.enqueue h fun k _ => hmark _ rfl

/-! ### Preparing -/

section
variable (hr : Renews g s s')
include hr

theorem Renews.isCooked_iff (r : Nat) : s'.IsCooked r ↔ s.IsCooked r := by
  rw [IsCooked, IsCooked]
  unfold platformResources
  rw [hr.entries]

theorem Renews.closed (i : Nat) : (s'.graph i).closed = (s.graph i).closed := by
  by_cases hi : i = g
  · rw [hi, hr.graph]
  · rw [hr.other i hi]

theorem Renews.marked (hm : Marked s' calls m) : Marked s calls m := by
  rw [Marked, hr.tasks] at hm
  exact hm

theorem JobFits.renews {j : Job} {n : Nat} {plan : Plan} (h : JobFits s j n plan) :
    JobFits s' j n plan where
  graph := by rw [hr.size]; exact h.graph
  plan := h.plan
  le := by rw [hr.generation]; exact h.le
  lt hclosed := by
    rw [hr.closed] at hclosed
    rw [hr.generation]
    exact h.lt hclosed
  resource := Nat.lt_of_lt_of_le h.resource hr.resources
  uncooked hc := h.uncooked ((hr.isCooked_iff _).1 hc)
  owner g k ho := by
    rcases hr.fresh ho with ho | hle
    · exact h.owner g k ho
    · exact absurd h.resource (Nat.not_lt.2 hle)

theorem PhaseFits.renews {i : Nat} {φ : Phase} (h : PhaseFits s calls i φ) :
    PhaseFits s' calls i φ := by
  cases φ with
  | idle => trivial
  | waiting n =>
    exact
      { graph := by rw [hr.size]; exact h.graph
        le := by rw [hr.generation]; exact h.le
        lt := fun hclosed => by
          rw [hr.closed] at hclosed
          rw [hr.generation]
          exact h.lt hclosed
        number := fun hopen => by
          rw [hr.closed] at hopen
          rw [hr.generation]
          exact h.number hopen
        unmarked := fun m hm => h.unmarked m (hr.marked hm) }
  | submitting plan failed jobs _ =>
    exact
      { graph := by rw [hr.size]; exact h.graph
        le := by rw [hr.generation]; exact h.le
        lt := fun hclosed => by
          rw [hr.closed] at hclosed
          rw [hr.generation]
          exact h.lt hclosed
        apart := h.apart
        unmarked := fun k hk hm => h.unmarked k hk (hr.marked hm)
        jobs := fun j hj => ⟨(h.jobs j hj).1, (h.jobs j hj).2.1, (h.jobs j hj).2.2.renews hr⟩ }

end

end

end Session

namespace World

open Session

variable {w w' : World} {g : Nat} {m : HookMark}

/-- Jobs and hook calls are in order. -/
structure Orders (w : World) : Prop where
  fits : ∀ t ∈ w.session.tasks, ∀ n plan, t.job.kind = .runtime n plan →
    JobFits w.session t.job n plan
  cooked : ∀ t ∈ w.session.tasks, ∀ p, t.job.kind = .cook p → w.session.IsCooked t.job.resource
  unique : ∀ {i i' : Nat} {t t' : CompileTask}, w.session.tasks[i]? = some t →
    w.session.tasks[i']? = some t' → t.job.IsRuntime → t'.job.IsRuntime →
      t.job.mark = t'.job.mark → i = i'
  calls : w.calls.Nodup
  le : ∀ m ∈ w.calls, m.generation ≤ (w.session.graph m.graph).generation
  past : ∀ t ∈ w.session.tasks, t.job.IsRuntime → t.job.mark ∈ w.calls → ¬ w.session.Awaits t.job
  phases : ∀ g, PhaseFits w.session w.calls g (w.phase g)

theorem Orders.marked_le (h : w.Orders) (hm : Marked w.session w.calls m) :
    m.generation ≤ (w.session.graph m.graph).generation := by
  rcases hm with hm | ⟨t, ht, ⟨n, plan, hkind⟩, rfl⟩
  · exact h.le m hm
  · have hn : t.job.generation = n := by rw [Job.generation, hkind]
    show t.job.generation ≤ _
    rw [hn]
    exact (h.fits t ht n plan hkind).le

/-- The caller that updates a graph goes on. -/
theorem Orders.enter (h : w.Orders) (φ : Phase) (hφ : PhaseFits w.session w.calls g φ) :
    (w.enter g φ).Orders where
  fits := h.fits
  cooked := h.cooked
  unique := h.unique
  calls := h.calls
  le := h.le
  past := h.past
  phases i := by
    show PhaseFits w.session w.calls i (Function.update w.phase g φ i)
    by_cases hi : i = g
    · subst hi
      rw [Function.update_self]
      exact hφ
    · rw [Function.update_of_ne hi]
      exact h.phases i

theorem Orders.withClosing {s' : Session} (h : { w with session := s' }.Orders)
    (closing : Nat → Bool) : { w with session := s', closing }.Orders :=
  ⟨h.fits, h.cooked, h.unique, h.calls, h.le, h.past, h.phases⟩

/-- **Frames keep jobs and hook calls in order**, if updates that wait keep their number. -/
theorem Orders.frame {s' : Session} (h : w.Orders) (hf : w.session.Frame s')
    (hnumber : ∀ g n, w.phase g = .waiting n → (s'.graph g).closed = false →
      (s'.graph g).generation = (w.session.graph g).generation) :
    { w with session := s' }.Orders := by
  have hback : ∀ {i : Nat} {t : CompileTask}, s'.tasks[i]? = some t → t.job.IsRuntime →
      ∃ t₀, w.session.tasks[i]? = some t₀ ∧ t.job = t₀.job := by
    rintro i t ht ⟨n, plan, hkind⟩
    rcases hf.jobs i t ht with hold | ⟨_, ⟨p, hkind'⟩, _⟩
    · exact hold
    · rw [hkind] at hkind'
      cases hkind'
  have hold : ∀ t' ∈ s'.tasks, t'.job.IsRuntime → ∃ t ∈ w.session.tasks, t'.job = t.job := by
    intro t' ht' hruntime
    obtain ⟨i, hi⟩ := Array.mem_iff_getElem?.1 ht'
    obtain ⟨t, ht, hjob⟩ := hback hi hruntime
    exact ⟨t, Array.mem_of_getElem? ht, hjob⟩
  exact
    { fits := fun t' ht' n plan hkind => by
        obtain ⟨t, ht, hjob⟩ := hold t' ht' ⟨n, plan, hkind⟩
        rw [hjob] at hkind ⊢
        exact (h.fits t ht n plan hkind).frame hf
      cooked := fun t' ht' p hkind => by
        obtain ⟨i, hi⟩ := Array.mem_iff_getElem?.1 ht'
        rcases hf.jobs i t' hi with ⟨t, ht, hjob⟩ | ⟨_, _, hcooked⟩
        · rw [hjob] at hkind ⊢
          exact hf.cooked _ (h.cooked t (Array.mem_of_getElem? ht) p hkind)
        · exact hcooked
      unique := fun {i i' t t'} ht ht' hruntime hruntime' hmark => by
        obtain ⟨t₀, ht₀, hjob⟩ := hback ht hruntime
        obtain ⟨t₀', ht₀', hjob'⟩ := hback ht' hruntime'
        rw [hjob] at hruntime hmark
        rw [hjob'] at hruntime' hmark
        exact h.unique ht₀ ht₀' hruntime hruntime' hmark
      calls := h.calls
      le := fun m hm => Nat.le_trans (h.le m hm) (hf.generation _)
      past := fun t' ht' hruntime hmark hawaits => by
        obtain ⟨t, ht, hjob⟩ := hold t' ht' hruntime
        rw [hjob] at hruntime hmark hawaits
        obtain ⟨n, plan, hkind⟩ := hruntime
        exact h.past t ht ⟨n, plan, hkind⟩ hmark ((h.fits t ht n plan hkind).awaits hf hawaits)
      phases := fun g => by
        have hphase := h.phases g
        show PhaseFits s' w.calls g (w.phase g)
        cases heq : w.phase g with
        | idle => trivial
        | waiting n =>
          rw [heq] at hphase
          exact Waits.frame hf hphase (hnumber g n heq)
        | submitting plan failed jobs untold =>
          rw [heq] at hphase
          exact Submits.frame hf hphase }

/-! ### The sections one by one -/

/-- The hook is called for a new mark, which no awaited job bears. -/
theorem Orders.call (h : w.Orders) (hnew : m ∉ w.calls)
    (hle : m.generation ≤ (w.session.graph m.graph).generation)
    (hpast : ∀ t ∈ w.session.tasks, t.job.IsRuntime → t.job.mark = m → ¬ w.session.Awaits t.job)
    (hphases : ∀ g, PhaseFits w.session (w.calls ++ [m]) g (w.phase g)) :
    { w with calls := w.calls ++ [m] }.Orders where
  fits := h.fits
  cooked := h.cooked
  unique := h.unique
  calls := List.nodup_append.2 ⟨h.calls, List.pairwise_singleton _ m, fun a ha b hb hab => by
    cases List.mem_singleton.1 hb
    exact hnew (hab ▸ ha)⟩
  le m' hm' := by
    rcases List.mem_append.1 hm' with hm' | hm'
    · exact h.le m' hm'
    · cases List.mem_singleton.1 hm'
      exact hle
  past t ht hruntime hm' := by
    rcases List.mem_append.1 hm' with hm' | hm'
    · exact h.past t ht hruntime hm'
    · exact hpast t ht hruntime (List.mem_singleton.1 hm')
  phases := hphases

/-- What is recorded when the hook was not called. -/
theorem record_of_eq {s' : Session} (hhooks : s'.hooks = w.session.hooks) (n : Nat) :
    w.record n s' = { w with session := s' } := by
  unfold World.record
  rw [hhooks, List.drop_length, List.map_nil, List.append_nil]

theorem record_of_append {s' : Session} {g k : Nat} {r : CompileResult}
    (hhooks : s'.hooks = w.session.hooks ++ [⟨g, k, r⟩]) (n : Nat) :
    w.record n s' = { w with session := s', calls := w.calls ++ [⟨g, k, n⟩] } := by
  unfold World.record
  rw [hhooks, List.drop_left, List.map_singleton]

/-- **A job comes back.** -/
theorem Orders.comeBack (h : w.Orders) {t : CompileTask} (ht : t ∈ w.session.tasks)
    {returned : Except (CallError ProgramError) (Program × Bool)} {s' : Session}
    (hcomes : Comes w.session t.job returned s') : (w.record t.job.generation s').Orders := by
  have hsteady : w.session.Steady s' := .comes hcomes
  have hframe : w.session.Frame s' := hcomes.frame
  have hnext : { w with session := s' }.Orders :=
    h.frame hframe fun g n _ _ => (hsteady.graph g).generation
  rcases hcomes.hooks with hhooks | ⟨hawaits, hruntime, hcurrent, r, hhooks⟩
  · rw [record_of_eq hhooks]
    exact hnext
  · rw [record_of_append hhooks]
    obtain ⟨_, htasks, _⟩ := hcomes.fields
    have hmarked : Marked w.session w.calls t.job.mark := Or.inr ⟨t, ht, hruntime, rfl⟩
    refine hnext.call (fun hm => ?_) ?_ (fun t' ht' hruntime' hmark hawaits' => ?_) fun g => ?_
    · exact h.past t ht hruntime hm hawaits
    · rw [(hsteady.graph _).generation]
      exact h.marked_le hmarked
    · -- no other job bears the mark, and this one has come back
      have ht'' : t' ∈ w.session.tasks := by rw [← htasks]; exact ht'
      obtain ⟨i, hi⟩ := Array.mem_iff_getElem?.1 ht
      obtain ⟨i', hi'⟩ := Array.mem_iff_getElem?.1 ht''
      cases h.unique hi hi' hruntime hruntime' hmark.symm
      cases hi.symm.trans hi'
      obtain ⟨n, plan, hkind⟩ := hruntime
      exact hcomes.past hawaits (h.fits t ht n plan hkind).resource hawaits'
    · refine (hnext.phases g).mono fun m _ hm => ?_
      rcases hm with hm | hm
      · rcases List.mem_append.1 hm with hm | hm
        · exact Or.inl hm
        · cases List.mem_singleton.1 hm
          exact Or.inr ⟨t, by rw [htasks]; exact ht, hruntime, rfl⟩
      · exact Or.inr hm

/-- What reporting a kernel does to the hook calls. -/
theorem hooks_reportFailure (s : Session) (g k : Nat) :
    (s.reportFailure g k).hooks = s.hooks ∨
      ∃ r, (s.reportFailure g k).hooks = s.hooks ++ [⟨g, k, r⟩] := by
  unfold Session.reportFailure
  dsimp only
  split
  · exact Or.inl rfl
  · rename_i i _
    refine Or.inr ⟨(s.resource i).result, ?_⟩
    unfold Session.compileFailed
    split
    · rfl
    · rfl

theorem graph_reportFailure (s : Session) (g k i : Nat) :
    (s.reportFailure g k).graph i = s.graph i := by
  unfold Session.reportFailure
  dsimp only
  split
  · rfl
  · unfold Session.compileFailed
    split
    · rfl
    · rfl

/-- **A kernel that could not be built is reported.** -/
theorem Orders.report (h : w.Orders) {k : Nat} {plan : Plan} {failed : List Nat} {jobs : List Job}
    (hphase : w.phase g = .submitting plan (k :: failed) jobs none) :
    ((w.record plan.generation (w.session.reportFailure g k)).enter g
      (.submitting plan failed jobs none)).Orders := by
  have hsubmits : Submits w.session w.calls g plan (k :: failed) jobs := by
    have hfits := h.phases g
    rw [hphase] at hfits
    exact hfits
  have hunmarked := hsubmits.unmarked k (List.mem_cons_self ..)
  have hrest : Submits w.session w.calls g plan failed jobs :=
    { hsubmits with
      apart := (List.nodup_cons.1 hsubmits.apart).2
      unmarked := fun i hi => hsubmits.unmarked i (List.mem_cons_of_mem k hi) }
  have hframe : w.session.Frame (w.session.reportFailure g k) := .reportFailure w.session g k
  have hnext : { w.enter g (.submitting plan failed jobs none) with
      session := w.session.reportFailure g k }.Orders :=
    (h.enter (.submitting plan failed jobs none) hrest).frame hframe fun i _ _ _ => by
      rw [graph_reportFailure]
      rfl
  rcases hooks_reportFailure w.session g k with hhooks | ⟨r, hhooks⟩
  · rw [record_of_eq hhooks]
    exact hnext
  · rw [record_of_append hhooks]
    refine hnext.call (m := ⟨g, k, plan.generation⟩) (fun hm => hunmarked (Or.inl hm)) ?_
      (fun t ht hruntime hmark _ => ?_) fun i => ?_
    · rw [graph_reportFailure]
      exact hsubmits.le
    · exact hunmarked (Marked.frame hframe (Or.inr ⟨t, ht, hruntime, hmark⟩))
    · have hfits := hnext.phases i
      by_cases hi : i = g
      · subst hi
        have hself : (w.enter i (.submitting plan failed jobs none)).phase i =
            .submitting plan failed jobs none := Function.update_self ..
        show PhaseFits _ _ i ((w.enter i (.submitting plan failed jobs none)).phase i)
        rw [hself] at hfits ⊢
        refine { hfits with unmarked := fun k' hk' hm => ?_ }
        rcases hm with hm | hm
        · rcases List.mem_append.1 hm with hm | hm
          · exact hfits.unmarked k' hk' (Or.inl hm)
          · cases List.mem_singleton.1 hm
            exact (List.nodup_cons.1 hsubmits.apart).1 hk'
        · exact hfits.unmarked k' hk' (Or.inr hm)
      · refine hfits.mono fun m hm hmarked => ?_
        rcases hmarked with hm' | hm'
        · rcases List.mem_append.1 hm' with hm' | hm'
          · exact Or.inl hm'
          · cases List.mem_singleton.1 hm'
            exact absurd hm.symm hi
        · exact Or.inr hm'

/-- **A job is submitted.** -/
theorem Orders.enqueue (h : w.Orders) {j : Job} {plan : Plan} {jobs : List Job}
    {untold : Option (Nat × Job)} (hphase : w.phase g = .submitting plan [] (j :: jobs) none) :
    ({ w with session := w.session.enqueue j }.enter g
      (.submitting plan [] jobs untold)).Orders := by
  have hsubmits : Submits w.session w.calls g plan [] (j :: jobs) := by
    have hfits := h.phases g
    rw [hphase] at hfits
    exact hfits
  obtain ⟨hgraph, hkind, hjob⟩ := hsubmits.jobs j (List.mem_cons_self ..)
  have hruntime : j.IsRuntime := ⟨_, _, hkind⟩
  have hgeneration : j.generation = plan.generation := by rw [Job.generation, hkind]
  have hmark : j.mark = ⟨g, j.kernel, plan.generation⟩ := by rw [Job.mark, hgraph, hgeneration]
  have hunmarked : ¬ Marked w.session w.calls j.mark := by
    rw [hmark]
    exact hsubmits.unmarked j.kernel (List.mem_cons_self ..)
  have hnew : ∀ {i : Nat} {t : CompileTask}, (w.session.enqueue j).tasks[i]? = some t →
      w.session.tasks[i]? = some t ∨ i = w.session.tasks.size ∧ t = { job := j } := by
    intro i t ht
    have hpush : (w.session.tasks.push { job := j })[i]? = some t := ht
    rw [Array.getElem?_push] at hpush
    split at hpush
    · rename_i hi
      exact Or.inr ⟨hi, (Option.some.inj hpush).symm⟩
    · exact Or.inl hpush
  have hmem : ∀ t ∈ (w.session.enqueue j).tasks, t ∈ w.session.tasks ∨ t = { job := j } := by
    intro t ht
    exact Array.mem_push.1 ht
  have hrest : Submits w.session w.calls g plan [] jobs :=
    { hsubmits with
      apart := (List.nodup_cons.1 hsubmits.apart).2
      unmarked := fun k hk => hsubmits.unmarked k (List.mem_cons_of_mem j.kernel hk)
      jobs := fun j' hj' => hsubmits.jobs j' (List.mem_cons_of_mem j hj') }
  have hentered : (w.enter g (.submitting plan [] jobs untold)).Orders :=
    h.enter (.submitting plan [] jobs untold) hrest
  exact
    { fits := fun t ht n plan' hkind' => by
        rcases hmem t ht with ht | rfl
        · exact (h.fits t ht n plan' hkind').enqueue
        · rw [hkind] at hkind'
          cases hkind'
          exact hjob.enqueue
      cooked := fun t ht p hkind' => by
        rcases hmem t ht with ht | rfl
        · exact h.cooked t ht p hkind'
        · rw [hkind] at hkind'
          cases hkind'
      unique := fun {i i' t t'} ht ht' hruntime' hruntime'' hmark' => by
        rcases hnew ht with ht | ⟨hi, rfl⟩
        · rcases hnew ht' with ht' | ⟨_, rfl⟩
          · exact h.unique ht ht' hruntime' hruntime'' hmark'
          · exact absurd (Or.inr ⟨t, Array.mem_of_getElem? ht, hruntime', hmark'⟩) hunmarked
        · rcases hnew ht' with ht' | ⟨hi', _⟩
          · exact absurd (Or.inr ⟨t', Array.mem_of_getElem? ht', hruntime'', hmark'.symm⟩) hunmarked
          · rw [hi, hi']
      calls := h.calls
      le := h.le
      past := fun t ht hruntime' hm => by
        rcases hmem t ht with ht | rfl
        · exact h.past t ht hruntime' hm
        · exact absurd (Or.inl hm) hunmarked
      phases := fun i => by
        have hfits := hentered.phases i
        show PhaseFits (w.session.enqueue j) w.calls i
          ((w.enter g (.submitting plan [] jobs untold)).phase i)
        by_cases hi : i = g
        · subst hi
          have hself : (w.enter i (.submitting plan [] jobs untold)).phase i =
              .submitting plan [] jobs untold := Function.update_self ..
          rw [hself] at hfits ⊢
          refine Submits.enqueue hfits fun k hk heq => ?_
          rw [hmark] at heq
          injection heq with _ heq
          exact (List.nodup_cons.1 hsubmits.apart).1 (by rw [heq]; exact hk)
        · exact hfits.enqueue fun hj => hi (by rw [← hj, hgraph]) }

/-- Marks stay while an update prepares, and its resources wait for no job yet. -/
theorem Orders.renews (h : w.Orders) {s' : Session} (hr : Renews g w.session s') {n : Nat}
    (hphase : w.phase g = .waiting n) (hopen : (w.session.graph g).closed = false) :
    { w with session := s' }.Orders where
  fits t ht n plan hkind := by
    have ht' : t ∈ w.session.tasks := by rw [← hr.tasks]; exact ht
    exact (h.fits t ht' n plan hkind).renews hr
  cooked t ht p hkind := by
    have ht' : t ∈ w.session.tasks := by rw [← hr.tasks]; exact ht
    exact (hr.isCooked_iff _).2 (h.cooked t ht' p hkind)
  unique {i i' t t'} ht ht' := by
    have hold : ∀ {i : Nat} {t : CompileTask}, s'.tasks[i]? = some t →
        w.session.tasks[i]? = some t := fun ht => by rw [← hr.tasks]; exact ht
    exact h.unique (hold ht) (hold ht')
  calls := h.calls
  le m hm := by
    show _ ≤ (s'.graph m.graph).generation
    rw [hr.generation]
    exact h.le m hm
  past t ht hruntime hm hawaits := by
    have ht' : t ∈ w.session.tasks := by rw [← hr.tasks]; exact ht
    have hwaits : Waits w.session w.calls g n := by
      have hfits := h.phases g
      rw [hphase] at hfits
      exact hfits
    obtain ⟨n', plan, hkind⟩ := hruntime
    have hfits := h.fits t ht' n' plan hkind
    have hawaits' : s'.Awaits t.job := hawaits
    rw [Awaits] at hawaits'
    rcases hr.kept _ hfits.resource with heq | ⟨⟨k, ho⟩, hgeneration⟩
    · rw [heq] at hawaits'
      exact h.past t ht' ⟨n', plan, hkind⟩ hm hawaits'
    · -- the update's number is new
      have hlt := hwaits.unmarked t.job.mark (Or.inl hm) (hfits.owner g k ho).1.symm
      have hmark : t.job.mark.generation = t.job.generation := rfl
      have hnumber := hwaits.number hopen
      have heq := hawaits'.1
      omega
  phases i := (h.phases i).renews hr

theorem Orders.begin (h : w.Orders) (hg : g < w.session.graphs.size) (hidle : w.phase g = .idle)
    (hopen : (w.session.graph g).closed = false) :
    ({ w with session := w.session.modifyGraph g fun x =>
      { x with generation := x.generation + 1 } }.enter g
        (.waiting ((w.session.graph g).generation + 1))).Orders := by
  have hframe : w.session.Frame (w.session.modifyGraph g fun x =>
      { x with generation := x.generation + 1 }) :=
    .modifyGraph w.session g fun x => ⟨rfl, Nat.le_succ _, fun h => h, Or.inl, Or.inl rfl⟩
  have hgraph := graph_modifyGraph w.session g (fun x => { x with generation := x.generation + 1 })
  have hnext := h.frame hframe fun i n hwaiting _ => by
    have hi : g ≠ i := fun hi => by
      rw [← hi, hidle] at hwaiting
      cases hwaiting
    rw [hgraph, if_neg fun hi' => hi hi'.1]
  refine hnext.enter _ ?_
  have hself := hgraph g
  rw [if_pos ⟨rfl, hg⟩] at hself
  exact
    { graph := Nat.lt_of_lt_of_le hg hframe.size
      le := Nat.le_of_eq (by rw [hself])
      lt := fun hclosed => by
        rw [hself] at hclosed
        dsimp only at hclosed
        rw [hopen] at hclosed
        cases hclosed
      number := fun _ => by rw [hself]
      unmarked := fun m hm hmg => by
        have hle := h.marked_le (Marked.frame hframe hm)
        rw [hmg] at hle
        exact Nat.lt_succ_of_le hle }

/-- **An update prepares the kernels**: those to be compiled and those that could not be built bear
    marks that are new. -/
theorem Orders.prepare (hs : w.session.Holdings) (h : w.Orders) {n : Nat} {d : Dialect}
    (hwaiting : w.phase g = .waiting n) (hopen : (w.session.graph g).closed = false) :
    let out := prepareKernels g d ((w.session.resizeSets g).graph g).definition.compilable
      { session := w.session.resizeSets g }
    out.2.Holdings ∧ { w with session := out.2 }.Orders ∧
      ∀ p, out.1 = .ok p → (p.session.setPending g (p.jobs.map Prod.fst)).Holdings ∧
        ({ w with session := p.session.setPending g (p.jobs.map Prod.fst) }.enter g
          (.submitting (preparedPlan g p) p.failed (preparedJobs g p (preparedPlan g p))
            none)).Orders := by
  intro out
  have hwaits : Waits w.session w.calls g n := by
    have hfits := h.phases g
    rw [hwaiting] at hfits
    exact hfits
  have hresized : { w with session := w.session.resizeSets g }.Orders :=
    h.frame (.resizeSets hs g) fun i _ _ _ => by rw [graph_resizeSets_eq hs]
  have hopen' : ((w.session.resizeSets g).graph g).closed = false := by
    rw [graph_resizeSets_eq hs]
    exact hopen
  obtain ⟨hholdings, hrenews, hall⟩ :=
    (Preparation.resizeSets hs hwaits.graph).prepareKernels (d := d)
  have hnext : { w with session := out.2 }.Orders := hresized.renews hrenews hwaiting hopen'
  refine ⟨hholdings, hnext, fun p hp => ?_⟩
  obtain ⟨hsession, hprepared⟩ := hall p hp
  have hframe : p.session.Frame (p.session.setPending g (p.jobs.map Prod.fst)) :=
    .setPending p.session g _
  have hnext' : { w with session := p.session }.Orders := by
    rw [hsession]
    exact hnext
  refine ⟨hprepared.holdings.frame hframe, (hnext'.frame hframe ?_).enter _ ?_⟩
  · intro i _ _ _
    show ((p.session.modifyGraph g fun x => { x with pending := _ }).graph i).generation = _
    rw [graph_modifyGraph]
    split
    · rfl
    · rfl
  · have hfits : Waits p.session w.calls g n := by
      have hfits := hnext'.phases g
      rw [show ({ w with session := p.session } : World).phase g =
        .waiting n from hwaiting] at hfits
      exact hfits
    have hopen'' : (p.session.graph g).closed = false := by
      rw [hsession, hrenews.closed]
      exact hopen'
    have hkernels : (preparedJobs g p (preparedPlan g p)).map Job.kernel = p.jobs.map Prod.fst := by
      unfold preparedJobs
      rw [List.map_map]
      rfl
    have hsubmits : Submits p.session w.calls g (preparedPlan g p) p.failed
        (preparedJobs g p (preparedPlan g p)) :=
      { graph := hfits.graph
        le := Nat.le_refl _
        lt := fun hclosed => by
          rw [hopen''] at hclosed
          cases hclosed
        apart := by
          have happart := hprepared.apart
          rw [List.append_nil] at happart
          rw [hkernels]
          exact happart
        unmarked := fun k _ hm => by
          have hlt := hfits.unmarked _ hm rfl
          have hnumber := hfits.number hopen''
          have hplan : (preparedPlan g p).generation = (p.session.graph g).generation := rfl
          dsimp only at hlt
          omega
        jobs := fun j hj => by
          obtain ⟨x, hx, rfl⟩ := List.mem_map.1 hj
          have ho := hprepared.owned x hx
          have hh := hprepared.holdings
          refine ⟨rfl, rfl, hfits.graph, rfl, Nat.le_refl _, fun hclosed => ?_, hh.lt ho,
            hh.uncooked ho, fun g' k' ho' => hh.apart ho' ho⟩
          have hclosed' : (p.session.graph g).closed = true := hclosed
          rw [hopen''] at hclosed'
          cases hclosed' }
    exact hsubmits.frame hframe

/-- **Every section** keeps the holdings, and jobs and hook calls in order. -/
theorem Orders.step (hs : w.session.Holdings) (h : w.Orders) (hstep : Step w w') :
    w'.session.Holdings ∧ w'.Orders := by
  cases hstep with
  | around haround =>
    exact ⟨hs.frame haround.frame,
      h.frame haround.frame fun g _ _ _ => (haround.graph g).generation⟩
  | take r =>
    have hframe : w.session.Frame (w.session.takeTask r) := .takeTask w.session r
    refine ⟨hs.frame hframe, h.frame hframe fun g _ _ _ => ?_⟩
    exact ((Steady.takeTask w.session r).graph g).generation
  | @comeBack t ht returned =>
    have hcomes := completeJob_comes w.session t.job returned
    exact ⟨hs.frame hcomes.frame, h.comeBack ht hcomes⟩
  | @begin g hg hidle haccepts =>
    refine ⟨hs.frame ?_, h.begin hg hidle (open_of_accepts haccepts)⟩
    exact .modifyGraph w.session g fun x => ⟨rfl, Nat.le_succ _, fun h => h, Or.inl, Or.inl rfl⟩
  | quit _ _ => exact ⟨hs, h.enter _ trivial⟩
  | prepare hwaiting hopen hp =>
    obtain ⟨_, _, hall⟩ := h.prepare hs hwaiting hopen
    exact hall _ (by rw [hp])
  | @stop g n d e s' hwaiting hopen hp =>
    obtain ⟨hholdings, hnext, _⟩ := h.prepare hs hwaiting hopen
    rw [hp] at hholdings hnext
    have hframe : s'.Frame (s'.lock g) := .lock s' g
    refine ⟨hholdings.frame hframe, (hnext.frame hframe fun i _ _ _ => ?_).enter _ trivial⟩
    exact generation_lock s' g i
  | @report g k plan failed jobs hphase =>
    exact ⟨hs.frame (.reportFailure w.session g k), h.report hphase⟩
  | enqueue hphase => exact ⟨hs.of_eq rfl rfl rfl, h.enqueue hphase⟩
  | @register g id plan j jobs hphase =>
    have hfits := h.phases g
    rw [hphase] at hfits
    have hframe : w.session.Frame (w.session.register id j) := .register w.session id j
    refine ⟨hs.frame hframe, (h.frame hframe fun i _ _ _ => ?_).enter _
      (Submits.frame hframe hfits)⟩
    exact ((Steady.register w.session id j).graph i).generation
  | @inline g id plan j jobs hphase _ =>
    have hfits := h.phases g
    rw [hphase] at hfits
    exact ⟨hs, h.enter _ hfits⟩
  | @finish g plan hphase =>
    have hframe : w.session.Frame (w.session.finishUpdate g plan) := .finishUpdate w.session g plan
    refine ⟨hs.frame hframe, (h.frame hframe fun i _ _ _ => ?_).enter _ trivial⟩
    exact ((Steady.finishUpdate w.session g plan).graph i).generation
  | @beginClose g hg hopen =>
    have hframe : w.session.Frame (w.session.modifyGraph g fun x =>
        { x with closed := true, generation := x.generation + 1 }) :=
      .modifyGraph w.session g fun x =>
        ⟨rfl, Nat.le_succ _, fun _ => rfl, fun _ => Or.inr (Nat.lt_succ_self _), Or.inl rfl⟩
    refine ⟨hs.frame hframe, (h.frame hframe fun i _ _ hopen' => ?_).withClosing _⟩
    rw [graph_modifyGraph] at hopen' ⊢
    split at hopen'
    · cases hopen'
    · rename_i hi
      rw [if_neg hi]
  | @finishClose g _ =>
    have hframe : w.session.Frame (w.session.finishClose g) := .finishClose w.session g
    have hnext : { w with session := w.session.finishClose g }.Orders := by
      refine h.frame hframe fun i _ _ _ => ?_
      rw [graph_finishClose]
      split
      · rfl
      · rfl
    dsimp only
    exact ⟨hs.frame hframe, hnext.withClosing _⟩

end World

end KernelGraph
