/-
  Sets of resources through switches of the feature level.

  A set is asked for levels one after the other, defined ones and others, while its resources go on
  to live and other sets add theirs to the store.

      editor:    [es31, sm5, sm6]      each level has its place, an undefined one that of sm5
      run time:  [one]                 another level takes the place of the one before

  1. `Orderly` is what all sets have in common that come about so: the place of a resource in a
     table is that of its level.  It carries the rest: no resource is listed twice, and what a set
     has handed out it hands out again.
  2. `Asked` says what one more request comes to.  There is one case in which what has been handed
     out cannot be looked up: a table files an undefined level under another one, but looks it up
     as it is.
-/
import KernelGraph.Proofs.Pending.Handing

namespace KernelGraph

namespace ResourceSet

/-- Sets that come of asking an empty one for levels.  Meanwhile resources may change, and others
    may be made, but none gets another level. -/
inductive Made (format : String) (editor : Bool) : ResourceSet → ResourceStore → Prop
  | empty (store : ResourceStore) : Made format editor (.empty format editor) store
  | ask {set : ResourceSet} {store : ResourceStore} (h : Made format editor set store)
    (level : FeatureLevel) :
    Made format editor (set.resource store level).2.2.1 (set.resource store level).2.2.2
  | pass {set : ResourceSet} {store store' : ResourceStore} (h : Made format editor set store)
    (hlevel : ∀ r < store.size, (store'[r]?).map Resource.level = (store[r]?).map Resource.level) :
    Made format editor set store'

/-- The level that an editor files a resource under. -/
def filed (level : FeatureLevel) : FeatureLevel := if level.isValid then level else .sm5

/-- The resources of the set are in the store, those of a table in the places of their levels. -/
def Orderly (editor : Bool) (store : ResourceStore) : ResourceSet → Prop
  | .editor _ table => editor = true ∧ table.length = FeatureLevel.names.length ∧
    ∀ i r : Nat, table[i]? = some (some r) →
      ∃ x : Resource, store[r]? = some x ∧ x.level.code.toNat = i
  | .runtime _ slot => editor = false ∧ ∀ r, slot = some r → r < store.size

/-- What it comes to that a set is asked for a level: it yields the resource `r` and hands a task
    over, and is `set'` afterwards. -/
structure Asked (editor : Bool) (level : FeatureLevel) (set : ResourceSet) (store : ResourceStore)
    (r : Nat) (task : Option Nat) (set' : ResourceSet) (store' : ResourceStore) : Prop where
  /-- It can be looked up, unless an editor has been asked for an undefined level. -/
  lookup : set'.lookup? store' level = if Visible editor level then some r else none
  listed : set'.toList.count r = 1
  again : set'.resource store' level = (r, none, set', store')
  /-- An editor has all the others as they were, and finds them as before. -/
  others : editor = true → task = none ∧ (∀ i ∈ set.toList, i ∈ set'.toList) ∧
    (∀ i < store.size, store'[i]? = store[i]?) ∧
    ∀ l i, set.lookup? store l = some i → set'.lookup? store' l = some i
  /-- At run time there is no other one. -/
  only : editor = false → set'.toList = [r]
  /-- At run time, another one that was there is invalidated, and its task is handed over. -/
  replaced : editor = false → ∀ i ∈ set.toList, i ≠ r → ∃ x, store[i]? = some x ∧ task = x.task ∧
    store'[i]? = some { x with state := .invalidated, task := none }
  /-- No resource changes but one that is replaced. -/
  kept : ∀ i < store.size, i ∉ set.toList ∨ i = r → store'[i]? = store[i]?
  spared : (∀ i ∈ set.toList, i = r) → task = none

section
variable {format : String} {editor : Bool} {set set' : ResourceSet} {store store' : ResourceStore}
  {level : FeatureLevel} {table : List (Option Nat)} {slot : Option Nat} {r : Nat}

/-! ## Order -/

theorem orderly_empty (format : String) (editor : Bool) (store : ResourceStore) :
    Orderly editor store (.empty format editor) := by
  cases editor with
  | false => exact ⟨rfl, fun r h => by cases h⟩
  | true =>
    refine ⟨rfl, rfl, fun i r h => ?_⟩
    rw [List.getElem?_map] at h
    obtain ⟨name, -, hnone⟩ := Option.map_eq_some_iff.1 h
    cases hnone

theorem Orderly.lt (h : set.Orderly editor store) (hr : r ∈ set.toList) : r < store.size := by
  cases set with
  | editor format table =>
    obtain ⟨entry, hentry, rfl⟩ := List.mem_filterMap.1 hr
    obtain ⟨i, hi⟩ := List.mem_iff_getElem?.1 hentry
    obtain ⟨x, hx, -⟩ := h.2.2 i r hi
    exact (Array.getElem?_eq_some_iff.1 hx).1
  | runtime format slot => exact h.2 r (Option.mem_toList.1 hr)

/-- **No resource is listed twice**, since its level tells its place. -/
theorem Orderly.nodup (h : set.Orderly editor store) : set.toList.Nodup := by
  cases set with
  | editor format table =>
    refine List.pairwise_filterMap.2 (List.pairwise_iff_getElem.2 ?_)
    rintro i j hi hj hij r hr r' hr' rfl
    obtain ⟨x, hx, hplace⟩ := h.2.2 i r (List.getElem?_eq_some_iff.2 ⟨hi, hr⟩)
    obtain ⟨y, hy, hplace'⟩ := h.2.2 j r (List.getElem?_eq_some_iff.2 ⟨hj, hr'⟩)
    rw [hx] at hy
    cases hy
    omega
  | runtime format slot =>
    cases slot with
    | none => exact .nil
    | some r => exact List.nodup_singleton r

/-- Order is kept while the resources of the store keep their levels. -/
theorem Orderly.pass (h : set.Orderly editor store)
    (hlevel : ∀ r < store.size, (store'[r]?).map Resource.level = (store[r]?).map Resource.level) :
    set.Orderly editor store' := by
  have hkept : ∀ (r : Nat) (x : Resource), store[r]? = some x →
      ∃ y, store'[r]? = some y ∧ y.level = x.level := fun r x hx => by
    have hmap := hlevel r (Array.getElem?_eq_some_iff.1 hx).1
    rw [hx, Option.map_some] at hmap
    exact Option.map_eq_some_iff.1 hmap
  cases set with
  | editor format table =>
    refine ⟨h.1, h.2.1, fun i r hr => ?_⟩
    obtain ⟨x, hx, rfl⟩ := h.2.2 i r hr
    obtain ⟨y, hy, hxy⟩ := hkept r x hx
    exact ⟨y, hy, by rw [hxy]⟩
  | runtime format slot =>
    refine ⟨h.1, fun r hr => ?_⟩
    obtain ⟨y, hy, -⟩ := hkept r _ (Array.getElem?_eq_getElem (h.2 r hr))
    exact (Array.getElem?_eq_some_iff.1 hy).1

theorem Orderly.exists_runtime (h : set.Orderly false store) :
    ∃ format slot, set = .runtime format slot := by
  cases set with
  | editor format table => cases h.1
  | runtime format slot => exact ⟨format, slot, rfl⟩

/-! ## Requests -/

/-- What a set has is what one finds by looking it up, if it is visible. -/
theorem Orderly.lookup?_eq (h : set.Orderly editor store) : set.lookup? store level =
    if Visible editor level then set.owned? store level else none := by
  split
  · rename_i hvisible
    refine lookup?_eq_owned? (hvisible.symm.imp_right fun heditor => ?_)
    rw [heditor] at h
    exact h.exists_runtime
  · rename_i hhidden
    obtain ⟨heditor, hlevel⟩ := not_or.1 hhidden
    cases set with
    | editor format table => exact lookup?_of_not_valid h.2.1 (by simpa using hlevel)
    | runtime format slot => exact absurd h.1 heditor

/-- **A set that has a resource** yields it, and nothing changes. -/
theorem Orderly.asked_of_owned? (h : set.Orderly editor store)
    (howned : set.owned? store level = some r) : Asked editor level set store r none set store where
  lookup := by rw [h.lookup?_eq, howned]
  listed := List.count_eq_one_of_mem h.nodup (mem_of_owned? howned)
  again := resource_of_owned? howned
  others _ := ⟨rfl, fun _ hi => hi, fun _ _ => rfl, fun _ _ hl => hl⟩
  only heditor := by
    rw [heditor] at h
    obtain ⟨format, slot, rfl⟩ := h.exists_runtime
    rw [show slot = some r from (Option.filter_eq_some_iff.1 howned).1]
    rfl
  replaced heditor i hi hne := by
    rw [heditor] at h
    obtain ⟨format, slot, rfl⟩ := h.exists_runtime
    have hslot : slot = some r := (Option.filter_eq_some_iff.1 howned).1
    rw [hslot] at hi
    exact absurd (List.mem_singleton.1 hi) hne
  kept _ _ _ := rfl
  spared _ := rfl

/-! ### New resources -/

/-- A new resource is put into its place in the table. -/
theorem orderly_set (h : Orderly editor store (.editor format table)) (new : Resource) :
    Orderly editor (store.push new)
      (.editor format (table.set new.level.code.toNat (some store.size))) := by
  obtain ⟨heditor, hlength, hplaces⟩ := h
  refine ⟨heditor, List.length_set.trans hlength, fun i r hr => ?_⟩
  rw [List.getElem?_set] at hr
  split at hr
  · rename_i hi
    split at hr
    · cases hr
      exact ⟨new, Array.getElem?_push_size, hi⟩
    · cases hr
  · obtain ⟨x, hx, hi⟩ := hplaces i r hr
    refine ⟨x, ?_, hi⟩
    rw [Array.getElem?_push, if_neg (Nat.ne_of_lt (Array.getElem?_eq_some_iff.1 hx).1)]
    exact hx

/-- **A table that has no resource** for the level gets one, in a place that was free. -/
theorem Orderly.asked_of_free (h : Orderly editor store (.editor format table))
    (hfree : (table[(filed level).code.toNat]?).join = none) :
    Asked editor level (.editor format table) store store.size none
      (.editor format (table.set (filed level).code.toNat (some store.size)))
      (store.push { format, level := filed level }) := by
  have hlt : (filed level).code.toNat < table.length := by
    rw [h.2.1]
    exact place_lt level
  have hset := orderly_set h { format, level := filed level }
  have howned : (ResourceSet.editor format
      (table.set (filed level).code.toNat (some store.size))).owned?
        (store.push { format, level := filed level }) level = some store.size := by
    show ((table.set (filed level).code.toNat
      (some store.size))[(filed level).code.toNat]?).join = _
    rw [List.getElem?_set_self hlt, Option.join_some]
  -- the other places are as they were
  have hother : ∀ (i r : Nat), (table[i]?).join = some r →
      ((table.set (filed level).code.toNat (some store.size))[i]?).join = some r := by
    intro i r hr
    rw [List.getElem?_set_ne]
    · exact hr
    · rintro rfl
      rw [hfree] at hr
      cases hr
  have hkept : ∀ i < store.size,
      (store.push { format, level := filed level })[i]? = store[i]? := fun i hi => by
    rw [Array.getElem?_push, if_neg (Nat.ne_of_lt hi)]
  have hasked := hset.asked_of_owned? howned
  refine ⟨hasked.lookup, hasked.listed, hasked.again, fun _ => ⟨rfl, fun r hr => ?_, hkept, ?_⟩,
    hasked.only, fun heditor => ?_, fun i hi _ => hkept i hi, fun _ => rfl⟩
  · obtain ⟨entry, hentry, rfl⟩ := List.mem_filterMap.1 hr
    obtain ⟨i, hi⟩ := List.mem_iff_getElem?.1 hentry
    have hnew := hother i r (by rw [hi]; rfl)
    exact List.mem_filterMap.2 ⟨some r, List.mem_of_getElem? (Option.join_eq_some_iff.1 hnew), rfl⟩
  · exact fun l i hl => hother l.code.toNat i hl
  · rw [h.1] at heditor
    cases heditor

/-- A resource that gives its task up and is invalidated. -/
theorem invalidate_takeTask (x : Resource) :
    x.takeTask.2.invalidate = { x with state := .invalidated, task := none } := by
  unfold Resource.takeTask
  split
  · rfl
  · rfl

theorem fst_takeTask (x : Resource) : x.takeTask.1 = x.task := by
  unfold Resource.takeTask
  split
  · rename_i hnone
    rw [hnone]
  · rename_i id hid
    rw [hid]

/-- A new resource is put into a run-time set. -/
theorem orderly_push (format : String) (store : ResourceStore) (new : Resource) :
    Orderly false (store.push new) (.runtime format (some store.size)) := by
  refine ⟨rfl, fun r hr => ?_⟩
  cases hr
  rw [Array.size_push]
  exact Nat.lt_succ_self _

theorem lookup?_push (format : String) (store : ResourceStore) (level : FeatureLevel) :
    (ResourceSet.runtime format (some store.size)).lookup? (store.push { format, level }) level =
      some store.size := by
  simp only [lookup?, Option.filter_some, Array.getElem?_push_size, Option.map_some, decide_true,
    if_true]

/-- **An empty run-time set** gets a resource. -/
theorem asked_of_nil (format : String) (store : ResourceStore) (level : FeatureLevel) :
    Asked false level (.runtime format none) store store.size none
      (.runtime format (some store.size)) (store.push { format, level }) := by
  have hasked := (orderly_push format store { format, level }).asked_of_owned?
    (lookup?_push format store level)
  refine ⟨hasked.lookup, hasked.listed, hasked.again, fun heditor => ?_, hasked.only,
    fun _ i hi => ?_, fun i hi _ => ?_, fun _ => rfl⟩
  · cases heditor
  · cases hi
  · rw [Array.getElem?_push, if_neg (Nat.ne_of_lt hi)]

/-- **A run-time set that has another resource** replaces it. -/
theorem asked_of_other (format : String) {i : Nat} (hi : i < store.size) (level : FeatureLevel) :
    Asked false level (.runtime format (some i)) store store.size store[i].task
      (.runtime format (some store.size))
      ((store.modify i fun x => x.takeTask.2.invalidate).push { format, level }) := by
  have hsize : (store.modify i fun x => x.takeTask.2.invalidate).size = store.size :=
    Array.size_modify
  have hold : ∀ n < store.size,
      ((store.modify i fun x => x.takeTask.2.invalidate).push { format, level })[n]? =
        (store.modify i fun x => x.takeTask.2.invalidate)[n]? := fun n hn => by
    rw [Array.getElem?_push, hsize, if_neg (Nat.ne_of_lt hn)]
  generalize hstore : (store.modify i fun x => x.takeTask.2.invalidate) = store₁ at hsize hold ⊢
  rw [← hsize]
  have hasked := (orderly_push format store₁ { format, level }).asked_of_owned?
    (lookup?_push format store₁ level)
  refine ⟨hasked.lookup, hasked.listed, hasked.again, fun heditor => ?_, hasked.only,
    fun _ n hn _ => ⟨store[i], ?_, rfl, ?_⟩, fun n hn hor => ?_, fun hsame => ?_⟩
  · cases heditor
  · rw [List.mem_singleton.1 hn, Array.getElem?_eq_getElem hi]
  · rw [List.mem_singleton.1 hn, hold i hi, ← hstore, Array.getElem?_modify, if_pos rfl,
      Array.getElem?_eq_getElem hi, Option.map_some, invalidate_takeTask]
  · rw [hold n hn, ← hstore, Array.getElem?_modify, if_neg]
    rintro rfl
    rcases hor with hnot | heq
    · exact hnot (List.mem_singleton_self i)
    · omega
  · have heq := hsame i (List.mem_singleton_self i)
    omega

/-- **A set is asked** for a level. -/
theorem Orderly.asked (h : set.Orderly editor store) {task : Option Nat}
    (hout : set.resource store level = (r, task, set', store')) :
    Asked editor level set store r task set' store' ∧ set'.Orderly editor store' := by
  cases howned : set.owned? store level with
  | some i =>
    rw [resource_of_owned? howned] at hout
    cases hout
    exact ⟨h.asked_of_owned? howned, h⟩
  | none =>
    cases set with
    | editor format table =>
      simp only [owned?] at howned
      simp only [resource, howned] at hout
      cases hout
      exact ⟨h.asked_of_free howned, orderly_set h { format, level := filed level }⟩
    | runtime format slot =>
      obtain ⟨rfl, hlt⟩ := h
      simp only [owned?] at howned
      simp only [resource, howned] at hout
      cases slot with
      | none =>
        cases hout
        exact ⟨asked_of_nil format store level, orderly_push format store { format, level }⟩
      | some i =>
        have hi := hlt i rfl
        rw [Option.bind_some, Array.getElem?_eq_getElem hi, Option.bind_some, fst_takeTask,
          Array.size_modify] at hout
        cases hout
        refine ⟨asked_of_other format hi level, ?_⟩
        have hpush := orderly_push format (store.modify i fun x => x.takeTask.2.invalidate)
          { format, level }
        rw [Array.size_modify] at hpush
        exact hpush

/-! ## All sequences of requests -/

theorem Made.orderly (h : Made format editor set store) : set.Orderly editor store := by
  induction h with
  | empty store => exact orderly_empty format editor store
  | @ask set store _ level ih => exact (ih.asked (rfl : set.resource store level = _)).2
  | pass _ hlevel ih => exact ih.pass hlevel

end

end ResourceSet

/-- **The task that a set hands over** is cancelled by the graph. -/
theorem Session.tasks_kernelResource {s : Session} {g k r id : Nat} {set set' : ResourceSet}
    {store' : ResourceStore} (hset : (s.graph g).sets[k]? = some (some set))
    (hout : set.resource s.resources (s.graph g).options.level = (r, some id, set', store')) :
    (s.kernelResource g k).2.tasks = s.tasks.modify id fun t => { t with cancelled := true } := by
  unfold Session.kernelResource
  dsimp only
  rw [hset, Option.join_some, Option.getD_some, hout]
  rfl

end KernelGraph
