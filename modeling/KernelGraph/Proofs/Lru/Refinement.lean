/-
  The linked cache does what the list does.

  1. `recency`: the list that a cache stands for, with its counters and what it has dropped.  Of a
     linked cache it is the list that is linked.

  2. `WellFormed`: the links lead from the newest to the oldest entry, forwards and backwards, past
     every entry of the map once.

  3. `Sound`: linked, and within the limit.  Every operation keeps a cache sound, and its list is
     what the operation of the same name makes of the list before.
-/
import KernelGraph.Proofs.Lru.Recency

namespace KernelGraph.Lru

variable {K V : Type} [BEq K] [Hashable K]

/-! ## The list of a cache -/

/-- The counters of a cache and what it has dropped, with a list for its entries. -/
def view (c : Lru K V) (l : List (K × V)) : Recency K V :=
  ⟨c.limit, l, c.hits, c.misses, c.evictions, c.watched, c.dropped⟩

/-- The list that a cache stands for. -/
def recency (c : Lru K V) : Recency K V := c.view c.toList

section
variable {c : Lru K V} {l : List (K × V)} {key : K}

/-- Walking along a segment that ends yields the segment. -/
theorem walk_segment {newer : Option K} {fuel : Nat} (h : Segment c.entries newer l none)
    (hfuel : l.length ≤ fuel) : c.walk fuel (firstKey l) = l := by
  induction l generalizing newer fuel with
  | nil => cases fuel <;> rfl
  | cons e l ih =>
    obtain ⟨k, v⟩ := e
    cases fuel with
    | zero => cases hfuel
    | succ fuel =>
      obtain ⟨hentry, hrest⟩ := h
      rw [Option.or_none] at hentry
      rw [firstKey_cons, walk, hentry]
      exact congrArg _ (ih hrest (Nat.le_of_succ_le_succ hfuel))

/-- Taking a key out of the order of use changes no counter, and neither does putting it in. -/
theorem view_unlink (c : Lru K V) (key : K) (l : List (K × V)) :
    (c.unlink key).view l = c.view l := by
  rw [unlink]
  split
  · rfl
  · split <;> split <;> rfl

theorem view_pushFront (c : Lru K V) (key : K) (v : V) (l : List (K × V)) :
    (c.pushFront key v).view l = c.view l := by
  rw [pushFront]
  split <;> rfl

theorem view_use (c : Lru K V) (key : K) (v : V) (l : List (K × V)) :
    (c.use key v).view l = c.view l := by
  rw [use, view_pushFront, view_unlink]

/-- An entry that is removed is dropped. -/
theorem view_remove {e : Entry K V} (h : c.entries[key]? = some e) (l : List (K × V)) :
    (c.remove key).view l = (c.view l).drop [(key, e.value)] l := by
  have hunlink := view_unlink c key l
  rw [remove, h]
  simp only [view, Recency.mk.injEq] at hunlink
  obtain ⟨hlimit, _, hhits, hmisses, hevictions, hwatched, hdropped⟩ := hunlink
  dsimp only [view, Recency.drop]
  rw [hlimit, hhits, hmisses, hevictions, hwatched, hdropped]

/-- Only the entries and the ends matter for the order. -/
theorem Linked.congr {c' : Lru K V} (h : Linked c l) (hentries : c'.entries = c.entries)
    (hnewest : c'.newest = c.newest) (holdest : c'.oldest = c.oldest) : Linked c' l := by
  refine ⟨h.nodup, ?_, hnewest.trans h.newest, holdest.trans h.oldest, ?_⟩
  · rw [hentries]
    exact h.segment
  · rw [hentries]
    exact h.absent

/-- An entry is linked with its neighbours in the list. -/
theorem Linked.getElem?_eq {pre post : List (K × V)} {v : V} (h : Linked c l)
    (hl : l = pre ++ (key, v) :: post) :
    c.entries[key]? = some ⟨v, lastKey pre, firstKey post⟩ := by
  have hsegment := h.segment
  rw [hl] at hsegment
  have hentry := (segment_append.1 hsegment).2.1
  rwa [Option.or_none, Option.or_none] at hentry

/-- What is found under a key stands somewhere in the list. -/
theorem Linked.exists_split {e : Entry K V} (h : Linked c l) (he : c.entries[key]? = some e) :
    ∃ pre post, l = pre ++ (key, e.value) :: post ∧ e.newer = lastKey pre ∧
      e.older = firstKey post := by
  obtain ⟨pre, post, hl⟩ := List.append_of_mem (h.mem_of_getElem? he)
  have heq := h.getElem?_eq hl
  rw [he, Option.some.injEq] at heq
  exact ⟨pre, post, hl, congrArg Entry.newer heq, congrArg Entry.older heq⟩

/-- The oldest entry is dropped, if there is one. -/
theorem Linked.view_removeOldest (h : Linked c l) (l' : List (K × V)) :
    c.removeOldest.view l' = (c.view l').drop l.getLast?.toList l' := by
  rw [Lru.removeOldest, h.oldest]
  rcases List.eq_nil_or_concat' l with rfl | ⟨l, ⟨k, v⟩, rfl⟩
  · rw [lastKey_nil, List.getLast?_nil, Option.toList_none, Recency.drop, List.append_nil, ite_self]
    rfl
  · obtain ⟨e, he, rfl⟩ := h.segment.getElem? (List.mem_append_right _ (List.mem_singleton_self _))
    rw [lastKey_snoc, List.getLast?_concat]
    exact view_remove he l'

variable [LawfulBEq K] [LawfulHashable K]

theorem Linked.toList_eq (h : Linked c l) : c.toList = l := by
  rw [toList, h.newest]
  exact walk_segment h.segment (Nat.le_of_eq h.size_eq.symm)

theorem Linked.recency_eq (h : Linked c l) : c.recency = c.view l := by
  rw [recency, h.toList_eq]

end

/-! ## Well-formed links -/

/-- The links lead from the newest to the oldest entry, forwards and backwards, past every entry of
    the map once, and a positive limit is kept. -/
structure WellFormed (c : Lru K V) : Prop where
  /-- The entries that the links lead to, from the newest on, are different ones. -/
  nodup : (keysOf c.toList).Nodup
  /-- They are the entries of the map. -/
  mem_toList : ∀ k v, (k, v) ∈ c.toList ↔ c.value? k = some v
  /-- The links come to an end. -/
  walk_eq : ∀ n, c.walk (c.size + n) c.newest = c.toList
  /-- The first entry is the one that has no newer neighbour. -/
  newest : ∀ k : K, c.newest = some k ↔ (c.entries[k]?).map Entry.newer = some none
  /-- The last entry that the links lead to is the one that has no older neighbour. -/
  oldest : ∀ k : K, c.oldest = some k ↔ (c.entries[k]?).map Entry.older = some none
  last : c.oldest = lastKey c.toList
  /-- An entry is the newer neighbour of its older neighbour, and the other way round. -/
  inverse : ∀ k k' : K, (c.entries[k]?).map Entry.older = some (some k') ↔
    (c.entries[k']?).map Entry.newer = some (some k)
  /-- A positive limit is kept. -/
  size_le : 0 < c.limit → (c.size : Int) ≤ c.limit

section
variable {c : Lru K V} {l : List (K × V)} {k k' : K}

/-- The newer neighbour of an entry is the one before it. -/
theorem Linked.newer_eq_iff (h : Linked c l) (newer : Option K) :
    (c.entries[k]?).map Entry.newer = some newer ↔
      ∃ pre v post, l = pre ++ (k, v) :: post ∧ lastKey pre = newer := by
  rw [Option.map_eq_some_iff]
  constructor
  · rintro ⟨e, he, rfl⟩
    obtain ⟨pre, post, hl, hnewer, _⟩ := h.exists_split he
    exact ⟨pre, e.value, post, hl, hnewer.symm⟩
  · rintro ⟨pre, v, post, hl, rfl⟩
    exact ⟨_, h.getElem?_eq hl, rfl⟩

/-- The older neighbour of an entry is the one after it. -/
theorem Linked.older_eq_iff (h : Linked c l) (older : Option K) :
    (c.entries[k]?).map Entry.older = some older ↔
      ∃ pre v post, l = pre ++ (k, v) :: post ∧ firstKey post = older := by
  rw [Option.map_eq_some_iff]
  constructor
  · rintro ⟨e, he, rfl⟩
    obtain ⟨pre, post, hl, _, holder⟩ := h.exists_split he
    exact ⟨pre, e.value, post, hl, holder.symm⟩
  · rintro ⟨pre, v, post, hl, rfl⟩
    exact ⟨_, h.getElem?_eq hl, rfl⟩

theorem Linked.newest_iff (h : Linked c l) :
    c.newest = some k ↔ (c.entries[k]?).map Entry.newer = some none := by
  rw [h.newest, h.newer_eq_iff]
  constructor
  · intro hfirst
    obtain ⟨⟨_, v⟩, l, rfl⟩ := List.exists_cons_of_ne_nil (l := l) (by rintro rfl; cases hfirst)
    cases hfirst
    exact ⟨[], v, l, rfl, rfl⟩
  · rintro ⟨pre, v, post, rfl, hpre⟩
    rw [lastKey, Option.map_eq_none_iff, List.getLast?_eq_none_iff] at hpre
    rw [hpre]
    rfl

theorem Linked.oldest_iff (h : Linked c l) :
    c.oldest = some k ↔ (c.entries[k]?).map Entry.older = some none := by
  rw [h.oldest, h.older_eq_iff]
  constructor
  · intro hlast
    rcases List.eq_nil_or_concat' l with rfl | ⟨l, ⟨_, v⟩, rfl⟩
    · cases hlast
    · rw [lastKey_snoc] at hlast
      cases hlast
      exact ⟨l, v, [], rfl, rfl⟩
  · rintro ⟨pre, v, post, rfl, hpost⟩
    rw [firstKey, Option.map_eq_none_iff, List.head?_eq_none_iff] at hpost
    rw [hpost, lastKey_snoc]

/-- Both neighbours say that the one comes right before the other. -/
theorem Linked.inverse (h : Linked c l) : (c.entries[k]?).map Entry.older = some (some k') ↔
    (c.entries[k']?).map Entry.newer = some (some k) := by
  rw [h.older_eq_iff, h.newer_eq_iff]
  constructor
  · rintro ⟨pre, v, post, rfl, hpost⟩
    obtain ⟨⟨_, v'⟩, post, rfl⟩ := List.exists_cons_of_ne_nil (l := post)
      (by rintro rfl; cases hpost)
    cases hpost
    exact ⟨pre ++ [(k, v)], v', post, (List.append_cons ..), lastKey_snoc ..⟩
  · rintro ⟨pre, v', post, rfl, hpre⟩
    rcases List.eq_nil_or_concat' pre with rfl | ⟨pre, ⟨_, v⟩, rfl⟩
    · cases hpre
    · rw [lastKey_snoc] at hpre
      cases hpre
      exact ⟨pre, v, (k', v') :: post, (List.append_cons ..).symm, rfl⟩

variable [LawfulBEq K] [LawfulHashable K]

/-- **A linked cache within its limit** is well formed. -/
theorem Linked.wellFormed (h : Linked c l) (hlimit : 0 < c.limit → (l.length : Int) ≤ c.limit) :
    WellFormed c where
  nodup := by
    rw [h.toList_eq]
    exact h.nodup
  mem_toList k v := by
    rw [h.toList_eq]
    exact h.value?_eq_some.symm
  walk_eq n := by
    rw [h.toList_eq, h.newest, h.size_eq]
    exact walk_segment h.segment (Nat.le_add_right _ n)
  newest _ := h.newest_iff
  oldest _ := h.oldest_iff
  last := by
    rw [h.toList_eq]
    exact h.oldest
  inverse _ _ := h.inverse
  size_le := by
    rw [h.size_eq]
    exact hlimit

end

/-! ## Operations -/

/-- A linked cache stands for a tidy list. -/
structure StandsFor (c : Lru K V) (m : Recency K V) : Prop where
  linked : Linked c m.entries
  view : c.view m.entries = m
  tidy : m.Tidy

section
variable {c : Lru K V} {m : Recency K V} {key : K} {v : V}

theorem standsFor_empty (limit : Int) :
    StandsFor (empty limit : Lru K V) (Recency.empty limit) :=
  ⟨linked_empty limit, rfl, Recency.tidy_empty limit⟩

theorem StandsFor.view_eq (h : StandsFor c m) (l : List (K × V)) :
    c.view l = { m with entries := l } :=
  congrArg (fun m : Recency K V => { m with entries := l }) h.view

theorem StandsFor.limit (h : StandsFor c m) : c.limit = m.limit :=
  congrArg Recency.limit h.view

variable [LawfulBEq K] [LawfulHashable K]

theorem StandsFor.recency_eq (h : StandsFor c m) : c.recency = m := by
  rw [h.linked.recency_eq, h.view]

theorem StandsFor.wellFormed (h : StandsFor c m) : WellFormed c := by
  refine h.linked.wellFormed ?_
  rw [h.limit]
  exact h.tidy.length_le

theorem StandsFor.stats_eq (h : StandsFor c m) : c.stats = m.stats := by
  rw [Lru.stats, h.linked.size_eq]
  exact congrArg Recency.stats h.view

omit [LawfulHashable K] in
/-- Both find the same value. -/
theorem StandsFor.value?_eq (h : StandsFor c m) (key : K) : m.value? key = c.value? key := by
  cases hv : c.value? key with
  | none =>
    rw [Recency.value?_eq_none_iff, ← h.linked.getElem?_isSome]
    rw [Lru.value?, Option.map_eq_none_iff] at hv
    rw [hv]
    exact Bool.false_ne_true
  | some v => exact h.tidy.value?_eq_some.2 (h.linked.value?_eq_some.1 hv)

theorem StandsFor.use (h : StandsFor c m) (hv : m.value? key = some v) (w : V) :
    StandsFor (c.use key w) (m.use key w) :=
  ⟨h.linked.use key w, (view_use c key w _).trans (h.view_eq _), h.tidy.use hv w⟩

omit [LawfulBEq K] [LawfulHashable K] in
theorem shrink_of_not_isOver (h : c.isOver = false) (fuel : Nat) : Lru.shrink fuel c = c := by
  cases fuel with
  | zero => rfl
  | succ fuel => rw [Lru.shrink, if_neg (by rw [h]; exact Bool.false_ne_true)]

theorem Linked.isOver_iff {l : List (K × V)} (h : Linked c l) :
    c.isOver = true ↔ 0 < c.limit ∧ c.limit < (l.length : Int) := by
  rw [Lru.isOver, h.size_eq, Bool.and_eq_true, decide_eq_true_eq, decide_eq_true_eq]

/-- **Storing under a new key**: when there was room for all entries before, one is evicted at
    most. -/
theorem StandsFor.insert (h : StandsFor c m) (hnone : m.value? key = none) (w : V) :
    StandsFor (Lru.shrink (c.pushFront key w).size (c.pushFront key w)) (m.insert key w) := by
  have hpushed := (h.linked.unlinked (Recency.value?_eq_none_iff.1 hnone)).pushFront w
  have hview : (c.pushFront key w).view ((key, w) :: m.entries) =
      { m with entries := (key, w) :: m.entries } := (view_pushFront c key w _).trans (h.view_eq _)
  have htidy := h.tidy.insert hnone w
  unfold Recency.insert at htidy ⊢
  generalize c.pushFront key w = c at hpushed hview
  generalize hl : (key, w) :: m.entries = l at hpushed hview htidy ⊢
  have hlength : l.length = m.entries.length + 1 := by rw [← hl, List.length_cons]
  have hlimit : c.limit = m.limit := congrArg Recency.limit hview
  have hisOver := hpushed.isOver_iff
  rw [hlimit] at hisOver
  dsimp only at htidy ⊢
  split
  · rename_i hover
    rw [if_pos hover] at htidy
    rw [hpushed.size_eq, hlength, Lru.shrink, if_pos (hisOver.2 hover)]
    have hremoved : c.removeOldest.view l.dropLast =
        Recency.drop { m with entries := l } l.getLast?.toList l.dropLast := by
      rw [hpushed.view_removeOldest, ← hview]
      rfl
    have hlinked : Linked { c.removeOldest with evictions := c.removeOldest.evictions + 1 }
        l.dropLast := hpushed.removeOldest.congr rfl rfl rfl
    have hcount := congrArg (fun m => { m with evictions := m.evictions + 1 }) hremoved
    -- with one entry less the cache is within its limit
    rw [shrink_of_not_isOver]
    · exact ⟨hlinked, hcount, htidy⟩
    · rw [Bool.eq_false_iff, Ne, hlinked.isOver_iff, List.length_dropLast]
      have hlimit' : c.removeOldest.limit = m.limit := congrArg Recency.limit hremoved
      have hle := h.tidy.length_le
      dsimp only
      omega
  · rename_i hroom
    rw [if_neg hroom] at htidy
    rw [shrink_of_not_isOver (Bool.eq_false_iff.2 fun hover => hroom (hisOver.1 hover))]
    exact ⟨hpushed, hview, htidy⟩

/-- **Storing** refines storing. -/
theorem StandsFor.set (h : StandsFor c m) (key : K) (w : V) :
    StandsFor (c.set key w) (m.set key w) := by
  have hvalue := h.value?_eq key
  have hcontains : c.entries.contains key = (m.value? key).isSome := by
    rw [hvalue, Lru.value?, Option.isSome_map, Std.HashMap.contains_eq_isSome_getElem?]
  rw [Lru.set, Recency.set, hcontains]
  cases hv : m.value? key with
  | some v => exact h.use hv w
  | none => exact h.insert hv w

/-- **Looking up** refines looking up. -/
theorem StandsFor.get (h : StandsFor c m) (key : K) :
    (c.get key).1 = (m.get key).1 ∧ StandsFor (c.get key).2 (m.get key).2 := by
  have hvalue := h.value?_eq key
  unfold Lru.get Recency.get
  rw [hvalue, Lru.value?]
  cases he : c.entries[key]? with
  | none =>
    refine ⟨rfl, h.linked.congr rfl rfl rfl, ?_, h.tidy.congr rfl rfl⟩
    exact congrArg (fun m : Recency K V => { m with misses := m.misses + 1 }) h.view
  | some e =>
    have hv : m.value? key = some e.value := by
      rw [hvalue, Lru.value?, he]
      rfl
    have hused := h.use hv e.value
    have hhits : c.hits = m.hits := congrArg Recency.hits h.view
    refine ⟨rfl, hused.linked.congr rfl rfl rfl, ?_, hused.tidy.congr rfl rfl⟩
    show { (c.use key e.value).view (m.use key e.value).entries with hits := c.hits + 1 } =
      { m.use key e.value with hits := m.hits + 1 }
    rw [hused.view, hhits]

/-- **Deleting** refines deleting. -/
theorem StandsFor.delete (h : StandsFor c m) (key : K) :
    (c.delete key).1 = (m.delete key).1 ∧ StandsFor (c.delete key).2 (m.delete key).2 := by
  have hvalue := h.value?_eq key
  have hremoved := h.linked.remove key
  unfold Lru.delete Recency.delete
  rw [hvalue, Lru.value?, Std.HashMap.contains_eq_isSome_getElem?]
  cases he : c.entries[key]? with
  | none =>
    have hsame : c.remove key = c := by rw [Lru.remove, he]
    dsimp only [Option.map_none]
    rw [hsame]
    exact ⟨rfl, h⟩
  | some e =>
    have hview := view_remove he (without key m.entries)
    rw [h.view_eq] at hview
    exact ⟨rfl, hremoved, hview, h.tidy.drop _ (Recency.without_sublist key m.entries)⟩

/-- Clearing drops the entries from the last one on. -/
theorem Linked.view_clearAux {fuel : Nat} {l : List (K × V)} (h : Linked c l)
    (hfuel : l.length ≤ fuel) : (Lru.clearAux fuel c).view [] = (c.view l).drop l.reverse [] := by
  induction fuel generalizing c l with
  | zero =>
    rw [List.length_eq_zero_iff.1 (Nat.le_zero.1 hfuel), List.reverse_nil, Recency.drop_nil]
    rfl
  | succ fuel ih =>
    rw [Lru.clearAux, ih h.removeOldest (by rw [List.length_dropLast]; omega),
      h.view_removeOldest, Recency.drop_drop]
    rcases List.eq_nil_or_concat' l with rfl | ⟨l, e, rfl⟩
    · rfl
    · rw [List.getLast?_concat, List.dropLast_concat, List.reverse_append]
      rfl

/-- **Clearing** refines clearing. -/
theorem StandsFor.clear (h : StandsFor c m) : StandsFor c.clear m.clear := by
  refine ⟨h.linked.clear, ?_, h.tidy.clear⟩
  have hview := h.linked.view_clearAux (Nat.le_of_eq h.linked.size_eq.symm)
  exact hview.trans (congrArg (fun m' => Recency.drop m' m.entries.reverse []) h.view)

omit [LawfulBEq K] [LawfulHashable K] in
theorem StandsFor.watch (h : StandsFor c m) (on : Bool) : StandsFor (c.watch on) (m.watch on) :=
  ⟨h.linked.congr rfl rfl rfl,
    congrArg (fun m' : Recency K V => m'.watch on) h.view, h.tidy.congr rfl rfl⟩

/-- **Creating what is missing** refines creating what is missing, if the creators refine one
    another. -/
theorem StandsFor.getOrCreate {ε : Type} {create : Lru K V → Except ε V × Lru K V}
    {create' : Recency K V → Except ε V × Recency K V} (h : StandsFor c m) (key : K)
    (hcreate : ∀ c m, StandsFor c m →
      (create c).1 = (create' m).1 ∧ StandsFor (create c).2 (create' m).2) :
    (c.getOrCreate key create).1 = (m.getOrCreate key create').1 ∧
      StandsFor (c.getOrCreate key create).2 (m.getOrCreate key create').2 := by
  obtain ⟨hfound, hget⟩ := h.get key
  unfold Lru.getOrCreate Recency.getOrCreate
  generalize c.get key = out at hfound hget
  generalize m.get key = out' at hfound hget
  obtain ⟨found, c⟩ := out
  obtain ⟨found', m⟩ := out'
  cases hfound
  cases found with
  | some v => exact ⟨rfl, hget⟩
  | none =>
    obtain ⟨hmade, hafter⟩ := hcreate c m hget
    dsimp only
    generalize create c = made at hmade hafter
    generalize create' m = made' at hmade hafter
    obtain ⟨result, c⟩ := made
    obtain ⟨result', m⟩ := made'
    cases hmade
    cases result with
    | error e => exact ⟨rfl, hafter⟩
    | ok v =>
      have hvalue := hafter.value?_eq key
      dsimp only [Recency.keep]
      rw [hvalue, Lru.value?]
      cases he : c.entries[key]? with
      | some e =>
        rw [Lru.value?, he] at hvalue
        exact ⟨rfl, hafter.use hvalue e.value⟩
      | none =>
        rw [Lru.value?, he] at hvalue
        have hset := hafter.set key v
        rw [Recency.set, hvalue] at hset
        exact ⟨rfl, hset⟩

end

end KernelGraph.Lru
