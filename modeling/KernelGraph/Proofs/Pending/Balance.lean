/-
  What is outstanding, while nobody is at work.

  Graphs may have been updated any number of times, and superseded or closed in the middle of it,
  and jobs may have come back in any order.  When all callers have gone and no result is on its way
  into a graph, the books balance: the kernels that a graph lists are those whose jobs of the latest
  generation have not come back, those whose resources wait, and those that its waiters wait for;
  and the gauge counts them all.

  There is one place from which it looks different.  An editor that is asked for the resource of a
  kernel looks the level up in its table as it is.  If the level is not defined, it finds nothing
  there, and so no resource that waits, although the update has put one into the place of another
  level.
-/
import KernelGraph.Proofs.Pending.Books

namespace KernelGraph

namespace Session

/-- The kernels of a graph that are outstanding, in order. -/
def pendingKernels (s : Session) (g : Nat) : List Nat := (s.graph g).pending.mergeSort (· ≤ ·)

section
variable {s : Session} {g k : Nat}

theorem mem_pendingKernels : k ∈ s.pendingKernels g ↔ k ∈ (s.graph g).pending := List.mem_mergeSort

theorem length_pendingKernels : (s.pendingKernels g).length = (s.graph g).pending.length :=
  List.length_mergeSort _

theorem pendingKernels_eq_nil_iff : s.pendingKernels g = [] ↔ (s.graph g).pending = [] := by
  rw [← List.length_eq_zero_iff, length_pendingKernels, List.length_eq_zero_iff]

/-- Kernels are listed in order, and once. -/
theorem Gauged.sorted (h : s.Gauged) (g : Nat) : (s.pendingKernels g).Pairwise (· < ·) := by
  have hle : (s.pendingKernels g).Pairwise fun a b => decide (a ≤ b) = true :=
    List.pairwise_mergeSort
      (fun a b c hab hbc => by simp only [decide_eq_true_eq] at *; omega)
      (fun a b => by simp only [Bool.or_eq_true, decide_eq_true_eq]; omega) _
  have hne : (s.pendingKernels g).Nodup := ((List.mergeSort_perm _ _).nodup_iff).2 (h.nodup g)
  exact hle.imp₂ (fun a b hab hne => Nat.lt_of_le_of_ne (of_decide_eq_true hab) hne) hne

end

end Session

namespace Ledger

open Session

variable {L L' : Ledger} {g k : Nat}

/-! ## All runs -/

theorem books_start (files : FileStore) (scripts : List Script) (limit : Int) :
    Books { session := { files, scripts, cache := .empty limit } } where
  calls :=
    { holdings := (World.orderly_start files scripts limit).holdings
      handing := fun _ _ _ hset => by cases hset
      fits := fun ht => by cases ht
      unique := fun ht => by cases ht
      callers := fun _ => callerFits_idle _
      apart := fun h => by cases h }
  awaited :=
    { landed := fun _ h => absurd rfl h
      told := fun ⟨_, hset, _⟩ => by cases hset
      awaited := fun ⟨_, hset, _⟩ => by cases hset
      cleared := fun _ _ _ h => by cases h }
  gauged := ⟨fun _ => .nil, rfl⟩
  tally g _ :=
    { begun := fun ⟨_, hset, _⟩ => by cases hset
      current := by
        rintro j ⟨⟨-, ⟨c, hj⟩ | ⟨id, t, ht, -⟩⟩, -⟩
        · cases hj
        · cases ht
      pending := fun k => by
        constructor
        · intro hk
          cases hk
        · rintro ⟨j, ⟨⟨-, ⟨c, hj⟩ | ⟨id, t, ht, -⟩⟩, -⟩, -⟩
          · cases hj
          · cases ht
      opened := fun h => absurd rfl h }
  shuts _ _ h := by cases h

/-- **Every section** leaves the books in order. -/
theorem Books.step (h : L.Books) (hstep : Step L L') : L'.Books :=
  have hcalls := calls_step h.calls h.awaited.cleared hstep
  ⟨hcalls, h.awaited.step h.calls hstep, gauged_step h.gauged h.calls h.awaited hstep,
    fun g hg => (h.accounts hstep hcalls g hg).1, fun g hg => (h.accounts hstep hcalls g hg).2⟩

theorem Reachable.books (h : L.Reachable) : L.Books := by
  obtain ⟨files, scripts, limit, hsteps⟩ := h
  induction hsteps with
  | refl => exact books_start files scripts limit
  | tail _ hstep ih => exact ih.step hstep

/-! ## At rest -/

/-- All callers have gone, and no result is on its way into a graph. -/
def Rests (L : Ledger) : Prop := (∀ c, L.callers c = .idle) ∧ ∀ id, L.landing id = none

/-- The job of the kernel in the latest generation of its graph has not come back. -/
def Unfinished (L : Ledger) (g k : Nat) : Prop :=
  ∃ (id : Nat) (t : CompileTask), L.session.tasks[id]? = some t ∧ t.job.IsRuntime ∧
    t.job.mark = ⟨g, k, (L.session.graph g).generation⟩ ∧ t.done = false

/-- What a graph shows to be outstanding agrees with its jobs, its resources and its channel. -/
structure Balanced (L : Ledger) (g : Nat) : Prop where
  sorted : (L.session.pendingKernels g).Pairwise (· < ·)
  unfinished : ∀ k, k ∈ L.session.pendingKernels g ↔ L.Unfinished g k
  compiling : ∀ k, k ∈ L.session.pendingKernels g ↔
    ∃ r, L.session.owned? g k = some r ∧ (L.session.resource r).state = .compiling
  waits : L.waits g = false ↔ L.session.pendingKernels g = []

theorem Rests.settled (h : L.Rests) (g : Nat) : L.Settled g := fun c => by
  rw [h.1 c]
  exact ⟨fun h => (by cases h), fun h => (by cases h)⟩

/-- A current job is in a task, while no caller is at work. -/
theorem Rests.current_iff (h : L.Rests) :
    (∃ j, L.Current g j ∧ j.kernel = k) ↔ L.Unfinished g k := by
  constructor
  · rintro ⟨j, ⟨⟨hruntime, ⟨c, hj⟩ | ⟨id, t, ht, rfl, hdone⟩⟩, rfl, hnumber⟩, rfl⟩
    · rw [h.1 c] at hj
      cases hj
    · refine ⟨id, t, ht, hruntime, ?_, hdone⟩
      rw [← hnumber]
      rfl
  · rintro ⟨id, t, ht, hruntime, hmark, hdone⟩
    exact ⟨t.job, ⟨⟨hruntime, Or.inr ⟨id, t, ht, rfl, hdone⟩⟩, congrArg HookMark.graph hmark,
      congrArg HookMark.generation hmark⟩, congrArg HookMark.kernel hmark⟩

/-- **The books balance** while nobody is at work. -/
theorem Books.balanced (h : L.Books) (hrests : L.Rests) (g : Nat) : L.Balanced g := by
  have htally := h.tally g (hrests.settled g)
  refine ⟨h.gauged.sorted g, fun k => ?_, fun k => ?_, ?_⟩
  · rw [mem_pendingKernels, htally.pending k, hrests.current_iff]
  · rw [mem_pendingKernels, htally.pending k]
    constructor
    · rintro ⟨j, hj, rfl⟩
      obtain ⟨ho, hawaits | ⟨id, t, -, -, hlanding⟩⟩ := htally.current hj
      · exact ⟨j.resource, h.calls.handing.owned?_eq ho, hawaits.2⟩
      · exact absurd (hrests.2 id) hlanding
    · rintro ⟨r, howned, hstate⟩
      have ho := owns_of_owned? howned
      have hnumber := htally.begun ho hstate
      -- the resource waits for a task, since no caller has a job
      rcases h.awaited.awaited ho hstate with ⟨c, j, hj, -⟩ | ⟨id, t, ht,
        hruntime, rfl, hgeneration,
        hdone, -⟩
      · rw [hrests.1 c] at hj
        cases hj
      · have hmark := mark_of_task h.calls ht hruntime ho
        refine hrests.current_iff.2 ⟨id, t, ht, hruntime, ?_, hdone⟩
        rw [hmark, hgeneration, hnumber]
  · rw [pendingKernels_eq_nil_iff]
    constructor
    · intro hwaits
      by_contra hpending
      rw [htally.opened hpending] at hwaits
      cases hwaits
    · intro hpending
      by_contra hwaits
      rcases h.shuts g (hrests.settled g) (by simpa using hwaits) with hne | ⟨c, hc⟩
      · exact hne hpending
      · rw [hrests.1 c] at hc
        cases hc

/-- What one finds by asking the graph is what has been handed out, unless an editor is asked for a
    level that is not defined. -/
theorem Books.resource?_iff (h : L.Books) (hrests : L.Rests) (g : Nat) :
    (∀ k : Nat, k ∈ L.session.pendingKernels g ↔
      ∃ r, L.session.resource? g k = some r ∧ (L.session.resource r).state = .compiling) ↔
    (L.session.graph g).options.level.isValid = true ∨
      (L.session.graph g).options.editor = false ∨ L.session.pendingKernels g = [] := by
  have hbalanced := h.balanced hrests g
  have hs := h.calls.holdings
  by_cases hfinds : (L.session.graph g).options.level.isValid = true ∨
      (L.session.graph g).options.editor = false
  · refine iff_of_true (fun k => (hbalanced.compiling k).trans ?_) (hfinds.imp_right Or.inl)
    constructor
    · rintro ⟨r, howned, hstate⟩
      exact ⟨r, h.calls.handing.resource?_eq hs (owns_of_owned? howned) hfinds, hstate⟩
    · rintro ⟨r, hr, hstate⟩
      exact ⟨r, h.calls.handing.owned?_eq (owns_of_found hr), hstate⟩
  · obtain ⟨hlevel, heditor⟩ := not_or.1 hfinds
    have hnone : ∀ k : Nat, L.session.resource? g k = none := fun k =>
      hs.resource?_eq_none (by simpa using heditor) (by simpa using hlevel)
    constructor
    · intro hall
      refine Or.inr (Or.inr (List.eq_nil_iff_forall_not_mem.2 fun k hk => ?_))
      obtain ⟨r, hr, -⟩ := (hall k).1 hk
      rw [hnone] at hr
      cases hr
    · rintro (hvalid | hruntime | hnil)
      · exact absurd hvalid hlevel
      · exact absurd hruntime heditor
      · intro k
        rw [hnil, hnone]
        constructor
        · intro hk
          cases hk
        · rintro ⟨r, hr, -⟩
          cases hr

/-- **What is outstanding never drifts.**  However updates, jobs and closing have followed upon each
    other, while nobody is at work every graph lists, in order, the kernels whose jobs of the latest
    generation have not come back.  They are those whose resources wait for a compile; nobody has to
    wait exactly if there are none; and the gauge is the number of them in all graphs.

    One who looks the resources up finds the same, unless an editor is asked for a level that is not
    defined: it shows no resource that waits. -/
theorem Reachable.pending_balanced (h : L.Reachable) (hrests : L.Rests) :
    (∀ g, L.Balanced g) ∧
    L.session.metrics.pending =
      ∑ g ∈ Finset.range L.session.graphs.size, ((L.session.pendingKernels g).length : Int) ∧
    ∀ g, ((∀ k : Nat, k ∈ L.session.pendingKernels g ↔
        ∃ r, L.session.resource? g k = some r ∧ (L.session.resource r).state = .compiling) ↔
      (L.session.graph g).options.level.isValid = true ∨
        (L.session.graph g).options.editor = false ∨ L.session.pendingKernels g = []) := by
  have hbooks := h.books
  refine ⟨hbooks.balanced hrests, ?_, hbooks.resource?_iff hrests⟩
  simp only [length_pendingKernels]
  exact hbooks.gauged.gauge

/-! ### An editor without the level -/

/-- Options of an editor, with a level that is not defined. -/
def tableOptions : GraphOptions :=
  { format := "mock", registry := 0, editor := true, level := ⟨200⟩ }

/-- The session at the start. -/
def tableStart : Session :=
  Session.addGraph { files := wrapperFiles, scripts := [{ format := "mock" }], cache := .empty 0 }
    (entryGraph "Main") tableOptions

/-- The graph is at its first generation, and its kernel has an empty table. -/
def tableOpened : Session :=
  { tableStart with
    graphs := #[{ definition := entryGraph "Main", options := tableOptions, generation := 1
                  sets := [some (.editor "mock" [none, none, none])] }] }

/-- The kernel has a resource, in the place of another level. -/
def tableResourced : Session :=
  { tableStart with
    graphs := #[{ definition := entryGraph "Main", options := tableOptions, generation := 1
                  sets := [some (.editor "mock" [none, some 0, none])] }]
    resources := #[{ format := "mock", level := .sm5 }] }

/-- The kernel is built. -/
def tableBuilt : Session := (tableResourced.buildKernel 0 0 .wgsl "mock").2

/-- What the update has prepared. -/
def tablePrepared : Prepared where
  session := tableBuilt.modifyResource 0 fun x => x.begin (entryBuild "Main") 1
  builds := [(0, entryBuild "Main")]
  jobs := [(0, "A", false, 0, entryBuild "Main")]

theorem prepareKernels_tableStart :
    let s := (tableStart.begun 0).takeAll 0
    prepareKernels 0 .wgsl ((s.resizeSets 0).graph 0).definition.compilable
      { session := s.resizeSets 0 } = (.ok tablePrepared, tablePrepared.session) := by
  intro s
  have hresize : s.resizeSets 0 = tableOpened := rfl
  have hresource : tableOpened.kernelResource 0 0 = (0, tableResourced) := rfl
  have hcompilable : (tableOpened.graph 0).definition.compilable =
      [(0, entryKernel "Main", entrySource "Main")] := compilable_entryGraph "Main"
  have hbuild : tableResourced.buildKernel 0 0 .wgsl "mock" =
      (.ok (entryBuild "Main"), tableBuilt) :=
    Prod.ext (build_entryGraph current_wrapperFiles rfl "Main") rfl
  have hprepare : (prepareKernel 0 .wgsl { session := tableOpened } 0 (entryKernel "Main")
      (entrySource "Main")).1 = .ok tablePrepared := prepareKernel_compile hresource hbuild rfl
  rw [hresize, hcompilable]
  exact prepareKernels_single hprepare

/-- The plan of the update. -/
def tablePlan : Plan := preparedPlan 0 tablePrepared

/-- The job of its kernel. -/
def tableJob : Job where
  graph := 0
  kernel := 0
  name := "A"
  isDefault := false
  resource := 0
  build := entryBuild "Main"
  format := "mock"
  kind := .runtime 1 tablePlan

/-- The update has submitted the job, and is at its end. -/
def tableRested : Session :=
  (((tablePrepared.session.setPending 0 [0]).enqueue tableJob).register 0 tableJob).finishUpdate 0
    tablePlan

/-- Nobody is at work after the update. -/
theorem exists_tableRested : ∃ L : Ledger, L.Reachable ∧ L.Rests ∧ L.session = tableRested := by
  let empty : Session :=
    { files := wrapperFiles, scripts := [{ format := "mock" }], cache := .empty 0 }
  have haround : Around { session := empty } tableStart :=
    { toAround := .addGraph empty (entryGraph "Main") tableOptions
      same := fun _ _ ht => by cases ht
      gauge := rfl
      edited := fun _ _ _ h => by cases h }
  have hadded : Steps { session := empty } { session := tableStart } := .single (.around haround)
  have hbegun := hadded.tail (.begin (c := 0) (g := 0) rfl (Nat.lt_succ_self 0) rfl)
  have hprepared := hbegun.tail
    (.prepare (Function.update_self ..) rfl rfl prepareKernels_tableStart)
  have hqueued := hprepared.tail (.enqueue (Function.update_self ..))
  have htold := hqueued.tail (.register (Function.update_self ..))
  have hfinished := htold.tail (.finish (Function.update_self ..))
  refine ⟨_, ⟨_, _, _, hfinished⟩, ⟨fun c => ?_, fun _ => rfl⟩, rfl⟩
  by_cases hc : c = 0
  · rw [hc]
    rfl
  · simp only [callers_enter_of_ne _ hc, callers_settle]

/-- The kernel is outstanding after the update. -/
theorem exists_tableRests : ∃ L : Ledger, L.Reachable ∧ L.Rests ∧
    L.session.pendingKernels 0 = [0] ∧ L.session.graphs.size = 1 ∧
    L.session.resource? 0 0 = none := by
  obtain ⟨L, hreachable, hrests, heq⟩ := exists_tableRested
  refine ⟨L, hreachable, hrests, ?_, ?_, ?_⟩
  · rw [heq]
    exact List.mergeSort_singleton 0
  · rw [heq]
    rfl
  · rw [heq]
    rfl

/-- The books balance although nobody finds the resource that waits. -/
theorem pending_balanced_tableStart : ∃ L : Ledger, L.Reachable ∧ L.Rests ∧
    L.session.pendingKernels 0 = [0] ∧ L.Unfinished 0 0 ∧
    (∃ r, L.session.owned? 0 0 = some r ∧ (L.session.resource r).state = .compiling) ∧
    L.waits 0 = true ∧ L.session.metrics.pending = 1 ∧ L.session.resource? 0 0 = none := by
  obtain ⟨L, hreachable, hrests, hpending, hsize, hnone⟩ := exists_tableRests
  obtain ⟨hbalanced, hgauge, -⟩ := Reachable.pending_balanced hreachable hrests
  have hmem : 0 ∈ L.session.pendingKernels 0 := by
    rw [hpending]
    exact List.mem_singleton_self 0
  refine ⟨L, hreachable, hrests, hpending, ((hbalanced 0).unfinished 0).1 hmem,
    ((hbalanced 0).compiling 0).1 hmem, ?_, ?_, hnone⟩
  · by_contra hwaits
    have hnil := (hbalanced 0).waits.1 (by simpa using hwaits)
    rw [hnil] at hmem
    cases hmem
  · rw [hgauge, hsize, Finset.sum_range_one, hpending]
    rfl

/-- **Not every kernel that is outstanding** has a resource that one finds to wait. -/
theorem not_pending_iff_compiling : ¬ ∀ L : Ledger, L.Reachable → L.Rests → ∀ g k : Nat,
    (k ∈ L.session.pendingKernels g ↔
      ∃ r, L.session.resource? g k = some r ∧ (L.session.resource r).state = .compiling) := by
  intro h
  obtain ⟨L, hreachable, hrests, hpending, -, hnone⟩ := exists_tableRests
  have hmem : 0 ∈ L.session.pendingKernels 0 := by
    rw [hpending]
    exact List.mem_singleton_self 0
  obtain ⟨r, hr, -⟩ := (h L hreachable hrests 0 0).1 hmem
  have hnone' : L.session.resource? 0 ((0 : Nat) : Int) = none := hnone
  rw [hnone'] at hr
  cases hr

end Ledger

end KernelGraph
