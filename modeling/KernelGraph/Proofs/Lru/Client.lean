/-
  Programs that work on a cache.

  1. `CacheClient`: any sequence of operations, each chosen by the answers to those before.  The
     entry that is missing is created by a client of the same cache, which may ask for the same key
     again, and may fail.  `run` is its result and the cache that it leaves, `trace` is what it and
     its creators ask and what they are answered.

  2. `Simulates`: two caches that answer alike and stay alike.  Every client of the one is a client
     of the other, with the same answers.

  3. What every answer of a list says of the list, and what a section of the list reports.

  4. The linked cache: every client sees the list, and the links are in order whenever nobody is at
     work on them.
-/
import KernelGraph.Proofs.Lru.Refinement

namespace KernelGraph

/-! ## Clients -/

/-- The operations of a cache whose states are of type `C`. -/
structure CacheOperations (ε K V C : Type) where
  get : C → K → Option V × C
  set : C → K → V → C
  getOrCreate : C → K → (C → Except ε V × C) → Except ε V × C
  delete : C → K → Bool × C
  clear : C → C
  watch : C → Bool → C
  stats : C → CacheStats

/-- The operations of the linked cache. -/
def Lru.operations (ε K V : Type) [BEq K] [Hashable K] : CacheOperations ε K V (Lru K V) where
  get := Lru.get
  set := Lru.set
  getOrCreate := Lru.getOrCreate
  delete := Lru.delete
  clear := Lru.clear
  watch := Lru.watch
  stats := Lru.stats

/-- The operations of the list. -/
def Recency.operations (ε K V : Type) [BEq K] : CacheOperations ε K V (Recency K V) where
  get := Recency.get
  set := Recency.set
  getOrCreate := Recency.getOrCreate
  delete := Recency.delete
  clear := Recency.clear
  watch := Recency.watch
  stats := Recency.stats

/-- A program that works on a cache.  What it does next depends on what it is answered, and so does
    the entry that it creates or fails to create. -/
inductive CacheClient (ε K V : Type) : Type where
  | done (result : Except ε V)
  | get (key : K) (next : Option V → CacheClient ε K V)
  | set (key : K) (value : V) (next : CacheClient ε K V)
  | getOrCreate (key : K) (create : CacheClient ε K V) (next : Except ε V → CacheClient ε K V)
  | delete (key : K) (next : Bool → CacheClient ε K V)
  | clear (next : CacheClient ε K V)
  | watch (on : Bool) (next : CacheClient ε K V)
  | stats (next : CacheStats → CacheClient ε K V)

/-- What is asked of a cache.  An entry that is asked for and may be created is looked up first, and
    returned or stored later. -/
inductive CacheRequest (K V : Type) where
  | get (key : K)
  | set (key : K) (value : V)
  | create (key : K)
  | delete (key : K)
  | clear
  | watch (on : Bool)
  | stats
  deriving DecidableEq, Repr

/-- What a cache answers. -/
inductive CacheAnswer (ε V : Type) where
  | done
  | found (value : Option V)
  | created (result : Except ε V)
  | deleted (present : Bool)
  | counted (stats : CacheStats)

/-- What was asked and answered, and the cache before and afterwards. -/
structure Exchange (ε K V C : Type) where
  request : CacheRequest K V
  answer : CacheAnswer ε V
  before : C
  after : C

namespace CacheClient

variable {ε K V C C' : Type}

/-- The result of a client, and the cache that it leaves. -/
def run (o : CacheOperations ε K V C) : CacheClient ε K V → C → Except ε V × C
  | done result, c => (result, c)
  | get key next, c => (next (o.get c key).1).run o (o.get c key).2
  | set key value next, c => next.run o (o.set c key value)
  | getOrCreate key create next, c =>
    (next (o.getOrCreate c key (create.run o)).1).run o (o.getOrCreate c key (create.run o)).2
  | delete key next, c => (next (o.delete c key).1).run o (o.delete c key).2
  | clear next, c => next.run o (o.clear c)
  | watch on next, c => next.run o (o.watch c on)
  | stats next, c => (next (o.stats c)).run o c

/-- What a client asks and is answered. -/
def trace (o : CacheOperations ε K V C) : CacheClient ε K V → C → List (Exchange ε K V C)
  | done _, _ => []
  | get key next, c =>
    let out := o.get c key
    ⟨.get key, .found out.1, c, out.2⟩ :: (next out.1).trace o out.2
  | set key value next, c =>
    let c' := o.set c key value
    ⟨.set key value, .done, c, c'⟩ :: next.trace o c'
  | getOrCreate key create next, c =>
    let found := o.get c key
    let out := o.getOrCreate c key (create.run o)
    -- the creator works on the cache between the two sections
    let creation := match found.1 with
      | some _ => ([], found.2)
      | none => (create.trace o found.2, (create.run o found.2).2)
    ⟨.get key, .found found.1, c, found.2⟩ :: (creation.1 ++
      ⟨.create key, .created out.1, creation.2, out.2⟩ :: (next out.1).trace o out.2)
  | delete key next, c =>
    let out := o.delete c key
    ⟨.delete key, .deleted out.1, c, out.2⟩ :: (next out.1).trace o out.2
  | clear next, c =>
    let c' := o.clear c
    ⟨.clear, .done, c, c'⟩ :: next.trace o c'
  | watch on next, c =>
    let c' := o.watch c on
    ⟨.watch on, .done, c, c'⟩ :: next.trace o c'
  | stats next, c =>
    let answer := o.stats c
    ⟨.stats, .counted answer, c, c⟩ :: (next answer).trace o c

end CacheClient

/-! ## Caches that answer alike -/

section
variable {ε K V C C' : Type}

/-- Whatever is asked, both answer the same and are related afterwards. -/
structure Simulates (o : CacheOperations ε K V C) (o' : CacheOperations ε K V C')
    (R : C → C' → Prop) : Prop where
  get : ∀ c c' key, R c c' →
    (o.get c key).1 = (o'.get c' key).1 ∧ R (o.get c key).2 (o'.get c' key).2
  set : ∀ c c' key value, R c c' → R (o.set c key value) (o'.set c' key value)
  getOrCreate : ∀ c c' key create create', R c c' →
    (∀ c c', R c c' → (create c).1 = (create' c').1 ∧ R (create c).2 (create' c').2) →
    (o.getOrCreate c key create).1 = (o'.getOrCreate c' key create').1 ∧
      R (o.getOrCreate c key create).2 (o'.getOrCreate c' key create').2
  delete : ∀ c c' key, R c c' →
    (o.delete c key).1 = (o'.delete c' key).1 ∧ R (o.delete c key).2 (o'.delete c' key).2
  clear : ∀ c c', R c c' → R (o.clear c) (o'.clear c')
  watch : ∀ c c' on, R c c' → R (o.watch c on) (o'.watch c' on)
  stats : ∀ c c', R c c' → o.stats c = o'.stats c'

/-- Two exchanges with the same words, of related caches. -/
structure Exchange.Alike (R : C → C' → Prop) (e : Exchange ε K V C) (e' : Exchange ε K V C') :
    Prop where
  request : e.request = e'.request
  answer : e.answer = e'.answer
  before : R e.before e'.before
  after : R e.after e'.after

variable {o : CacheOperations ε K V C} {o' : CacheOperations ε K V C'} {R : C → C' → Prop}

/-- **Every client** has the same result. -/
theorem Simulates.run (h : Simulates o o' R) (client : CacheClient ε K V) {c : C} {c' : C'}
    (hR : R c c') : (client.run o c).1 = (client.run o' c').1 ∧
      R (client.run o c).2 (client.run o' c').2 := by
  induction client generalizing c c' with
  | done result => exact ⟨rfl, hR⟩
  | get key next ih =>
    obtain ⟨hanswer, hafter⟩ := h.get c c' key hR
    rw [CacheClient.run, CacheClient.run, hanswer]
    exact ih _ hafter
  | set key value next ih => exact ih (h.set c c' key value hR)
  | getOrCreate key create next ihcreate ih =>
    obtain ⟨hanswer, hafter⟩ := h.getOrCreate c c' key _ _ hR fun _ _ => ihcreate
    rw [CacheClient.run, CacheClient.run, hanswer]
    exact ih _ hafter
  | delete key next ih =>
    obtain ⟨hanswer, hafter⟩ := h.delete c c' key hR
    rw [CacheClient.run, CacheClient.run, hanswer]
    exact ih _ hafter
  | clear next ih => exact ih (h.clear c c' hR)
  | watch on next ih => exact ih (h.watch c c' on hR)
  | stats next ih =>
    rw [CacheClient.run, CacheClient.run, h.stats c c' hR]
    exact ih _ hR

/-- **Every client** asks and is answered the same. -/
theorem Simulates.trace (h : Simulates o o' R) (client : CacheClient ε K V) {c : C} {c' : C'}
    (hR : R c c') :
    List.Forall₂ (Exchange.Alike R) (client.trace o c) (client.trace o' c') := by
  induction client generalizing c c' with
  | done result => exact .nil
  | get key next ih =>
    obtain ⟨hanswer, hafter⟩ := h.get c c' key hR
    rw [CacheClient.trace, CacheClient.trace, hanswer]
    exact .cons ⟨rfl, rfl, hR, hafter⟩ (ih _ hafter)
  | set key value next ih =>
    have hafter := h.set c c' key value hR
    exact .cons ⟨rfl, rfl, hR, hafter⟩ (ih hafter)
  | getOrCreate key create next ihcreate ih =>
    obtain ⟨hfound, hget⟩ := h.get c c' key hR
    obtain ⟨hanswer, hafter⟩ := h.getOrCreate c c' key _ _ hR fun _ _ => h.run create
    rw [CacheClient.trace, CacheClient.trace, hanswer, hfound]
    refine .cons ⟨rfl, rfl, hR, hget⟩ ?_
    cases (o'.get c' key).1 with
    | some v => exact .cons ⟨rfl, rfl, hget, hafter⟩ (ih _ hafter)
    | none =>
      exact List.rel_append (ihcreate hget) (.cons ⟨rfl, rfl, (h.run create hget).2, hafter⟩
        (ih _ hafter))
  | delete key next ih =>
    obtain ⟨hanswer, hafter⟩ := h.delete c c' key hR
    rw [CacheClient.trace, CacheClient.trace, hanswer]
    exact .cons ⟨rfl, rfl, hR, hafter⟩ (ih _ hafter)
  | clear next ih =>
    have hafter := h.clear c c' hR
    exact .cons ⟨rfl, rfl, hR, hafter⟩ (ih hafter)
  | watch on next ih =>
    have hafter := h.watch c c' on hR
    exact .cons ⟨rfl, rfl, hR, hafter⟩ (ih hafter)
  | stats next ih =>
    rw [CacheClient.trace, CacheClient.trace, h.stats c c' hR]
    exact .cons ⟨rfl, rfl, hR, hR⟩ (ih _ hR)

end

/-! ## What a list answers and reports -/

/-- A value that was returned or stored is there afterwards, and one that was deleted is not. -/
def Stores {ε K V : Type} (stored : K → Option V) : CacheRequest K V → CacheAnswer ε V → Prop
  | .get key, .found answer => ∀ v, answer = some v → stored key = some v
  | .set key v, _ => stored key = some v
  | .create key, .created answer => ∀ v, answer = .ok v → stored key = some v
  | .delete key, _ => stored key = none
  | _, _ => True

namespace Recency

variable {ε K V : Type} [BEq K] {m : Recency K V} {key : K}
  {create : Recency K V → Except ε V × Recency K V}

theorem getOrCreate_of_found {v : V} (h : (m.get key).1 = some v) :
    m.getOrCreate key create = (.ok v, (m.get key).2) := by
  rw [getOrCreate]
  generalize m.get key = out at h ⊢
  obtain ⟨found, m'⟩ := out
  cases h
  rfl

theorem getOrCreate_of_missing (h : (m.get key).1 = none) :
    m.getOrCreate key create = match create (m.get key).2 with
      | (.error e, m) => (.error e, m)
      | (.ok v, m) => (.ok (m.keep key v).1, (m.keep key v).2) := by
  rw [getOrCreate]
  generalize m.get key = out at h ⊢
  obtain ⟨found, m'⟩ := out
  cases h
  dsimp only
  cases create m' with
  | mk result m'' => cases result <;> rfl

variable [LawfulBEq K]

theorem Reports.refl (m : Recency K V) : m.Reports m := reports_of_subset (fun _ h => h) rfl

theorem value?_set (m : Recency K V) (key : K) (v : V) : (m.set key v).value? key = some v := by
  unfold Recency.set
  split
  · exact value?_cons_self rfl
  · exact value?_insert m key v

theorem value?_delete (m : Recency K V) (key : K) : (m.delete key).2.value? key = none := by
  unfold Recency.delete
  split
  · exact value?_eq_none_iff.2 (notMem_keysOf_without key m.entries)
  · assumption

/-- **Returning what is created**: it is stored, or the failure is not. -/
theorem Tidy.getOrCreate_of_missing (h : (m.get key).1 = none)
    (hm : (create (m.get key).2).2.Tidy) : (m.getOrCreate key create).2.Tidy ∧
      (create (m.get key).2).2.Reports (m.getOrCreate key create).2 ∧
      ∀ v, (m.getOrCreate key create).1 = .ok v →
        (m.getOrCreate key create).2.value? key = some v := by
  rw [Recency.getOrCreate_of_missing h]
  generalize create (m.get key).2 = made at hm ⊢
  obtain ⟨result, m'⟩ := made
  cases result with
  | error e => exact ⟨hm, Reports.refl m', fun v hv => by cases hv⟩
  | ok v =>
    refine ⟨hm.keep key v, hm.reports_keep key v, fun w hw => ?_⟩
    cases hw
    exact value?_keep m' key v

/-- **A client of a list** leaves it tidy, what leaves the list is reported, and what is returned or
    stored is there. -/
theorem Tidy.client (hm : m.Tidy) (client : CacheClient ε K V) :
    (client.run (operations ε K V) m).2.Tidy ∧
      ∀ e ∈ client.trace (operations ε K V) m, e.before.Reports e.after ∧
        Stores e.after.value? e.request e.answer := by
  induction client generalizing m with
  | done result => exact ⟨hm, fun e he => by cases he⟩
  | get key next ih =>
    obtain ⟨htidy, hrest⟩ := ih _ (hm.get key)
    exact ⟨htidy, List.forall_mem_cons.2
      ⟨⟨reports_get m key, fun v hv => value?_get hv⟩, hrest⟩⟩
  | set key value next ih =>
    obtain ⟨htidy, hrest⟩ := ih (hm.set key value)
    exact ⟨htidy, List.forall_mem_cons.2
      ⟨⟨hm.reports_set key value, value?_set m key value⟩, hrest⟩⟩
  | getOrCreate key create next ihcreate ih =>
    have hget := hm.get key
    rw [CacheClient.run, CacheClient.trace]
    dsimp only [operations] at ih ihcreate ⊢
    cases hfound : (m.get key).1 with
    | some v =>
      rw [getOrCreate_of_found hfound]
      obtain ⟨htidy, hrest⟩ := ih (.ok v) hget
      refine ⟨htidy, List.forall_mem_cons.2 ⟨⟨reports_get m key, fun w hw => ?_⟩,
        List.forall_mem_cons.2 ⟨⟨Reports.refl _, fun w hw => ?_⟩, hrest⟩⟩⟩
      · exact value?_get (hfound.trans hw)
      · cases hw
        exact value?_get hfound
    | none =>
      obtain ⟨hcreated, hcreation⟩ := ihcreate hget
      obtain ⟨hkept, hreports, hstores⟩ := Tidy.getOrCreate_of_missing hfound hcreated
      obtain ⟨htidy, hrest⟩ := ih _ hkept
      exact ⟨htidy, List.forall_mem_cons.2 ⟨⟨reports_get m key, fun v hv => by cases hv⟩,
        List.forall_mem_append.2 ⟨hcreation,
          List.forall_mem_cons.2 ⟨⟨hreports, hstores⟩, hrest⟩⟩⟩⟩
  | delete key next ih =>
    obtain ⟨htidy, hrest⟩ := ih _ (hm.delete key)
    exact ⟨htidy, List.forall_mem_cons.2
      ⟨⟨hm.reports_delete key, value?_delete m key⟩, hrest⟩⟩
  | clear next ih =>
    obtain ⟨htidy, hrest⟩ := ih hm.clear
    exact ⟨htidy, List.forall_mem_cons.2 ⟨⟨reports_clear m, trivial⟩, hrest⟩⟩
  | watch on next ih =>
    have hwatch : (m.watch on).Tidy := hm.congr rfl rfl
    obtain ⟨htidy, hrest⟩ := ih hwatch
    exact ⟨htidy, List.forall_mem_cons.2
      ⟨⟨reports_of_subset (fun _ h => h) rfl, trivial⟩, hrest⟩⟩
  | stats next ih =>
    obtain ⟨htidy, hrest⟩ := ih _ hm
    exact ⟨htidy, List.forall_mem_cons.2 ⟨⟨Reports.refl m, trivial⟩, hrest⟩⟩

end Recency

namespace Lru

variable {ε K V : Type} [BEq K] [Hashable K] [LawfulBEq K] [LawfulHashable K]

/-! ## The linked cache -/

/-- Every operation refines the operation of the same name. -/
theorem simulates_recency :
    Simulates (operations ε K V) (Recency.operations ε K V) StandsFor where
  get _ _ key h := h.get key
  set _ _ key value h := h.set key value
  getOrCreate _ _ key _ _ h hcreate := h.getOrCreate key hcreate
  delete _ _ key h := h.delete key
  clear _ _ h := h.clear
  watch _ _ on h := h.watch on
  stats _ _ h := h.stats_eq

omit [LawfulHashable K] in
theorem StandsFor.stored_eq {c : Lru K V} {m : Recency K V} (h : StandsFor c m) :
    m.value? = c.value? :=
  funext h.value?_eq

/-- **The linked cache refines the list.**  Every client has the same result with both, and asks and
    is answered the same.  Whenever nobody is at work on the links they are well formed, and the
    cache stands for the list: the same entries in the same order, the same counters and the same
    reports.  What leaves the cache is reported once, with its latest value; and what is returned or
    stored is there. -/
theorem refines_recency (limit : Int) (client : CacheClient ε K V) :
    (client.run (operations ε K V) (empty limit)).1 =
        (client.run (Recency.operations ε K V) (Recency.empty limit)).1 ∧
      (client.run (operations ε K V) (empty limit)).2.recency =
        (client.run (Recency.operations ε K V) (Recency.empty limit)).2 ∧
      (client.run (operations ε K V) (empty limit)).2.WellFormed ∧
      List.Forall₂ (Exchange.Alike fun c m => c.WellFormed ∧ c.recency = m)
        (client.trace (operations ε K V) (empty limit))
        (client.trace (Recency.operations ε K V) (Recency.empty limit)) ∧
      ∀ e ∈ client.trace (operations ε K V) (empty limit),
        e.before.recency.Reports e.after.recency ∧ Stores e.after.value? e.request e.answer := by
  have hempty : StandsFor (empty limit : Lru K V) (Recency.empty limit) := standsFor_empty limit
  obtain ⟨hresult, hafter⟩ := simulates_recency.run client hempty
  have htrace := simulates_recency.trace client hempty
  refine ⟨hresult, hafter.recency_eq, hafter.wellFormed, htrace.imp fun e e' h => ?_, ?_⟩
  · exact ⟨h.request, h.answer, ⟨h.before.wellFormed, h.before.recency_eq⟩,
      ⟨h.after.wellFormed, h.after.recency_eq⟩⟩
  · have hlist := ((Recency.tidy_empty limit).client client).2
    have hboth := (List.forall₂_and_left _ _).2 ⟨hlist, htrace.flip⟩
    have hback : List.Forall₂ (fun e _ => (e.before.recency.Reports e.after.recency ∧
        Stores e.after.value? e.request e.answer) ∧ True)
        (client.trace (operations ε K V) (empty limit))
        (client.trace (Recency.operations ε K V) (Recency.empty limit)) := by
      refine (hboth.imp fun e' e h => ?_).flip
      obtain ⟨⟨hreports, hstores⟩, halike⟩ := h
      rw [← halike.request, ← halike.answer, halike.after.stored_eq] at hstores
      rw [← halike.before.recency_eq, ← halike.after.recency_eq] at hreports
      exact ⟨⟨hreports, hstores⟩, trivial⟩
    exact ((List.forall₂_and_left _ _).1 hback).1

/-- A client whose creator stores another entry and the one that it was called for, then one whose
    creator fails. -/
def creators : CacheClient String Nat Int :=
  .watch true <| .getOrCreate 1
    (.set 2 20 <| .getOrCreate 1 (.done (.ok 10)) fun _ => .done (.ok 11))
    fun first => .getOrCreate 3 (.done (.error "out of order")) fun _ =>
      .set 4 40 <| .delete 1 fun _ => .clear <| .done first

/-- The value that was stored first is returned, and every entry is reported. -/
theorem refines_recency_creators :
    (creators.run (operations String Nat Int) (empty 2)).1 = .ok 10 ∧
      (creators.run (operations String Nat Int) (empty 2)).2.recency.dropped =
        [(2, 20), (1, 10), (4, 40)] := by
  obtain ⟨hresult, hafter, _⟩ := refines_recency 2 creators
  rw [hresult, hafter]
  exact ⟨rfl, rfl⟩

end Lru

end KernelGraph
