/-
  The linked order of a cache represents a list.

  1. `Segment`: a stretch of entries in a map, each linked with its neighbours, between two outer
     links.  Segments are cut and joined like lists, and changing an outer link changes one entry.
  2. `Linked`: the whole map is one segment, and the cache knows both of its ends.  Every operation
     keeps the cache linked, and what it does to the order of use is said on the list.
  3. `Holds`: every entry has a property.  No operation makes up entries, so a property of what is
     stored is a property of what is found.
  4. `Keeps`: entries are lost to evictions only, and these are counted; what was returned last is
     stored.
-/
import KernelGraph.Lru
import Mathlib.Data.List.Nodup

namespace KernelGraph.Lru

variable {K V : Type}

/-- The first key of a list of entries. -/
def firstKey (l : List (K × V)) : Option K := l.head?.map Prod.fst

/-- The last key of a list of entries. -/
def lastKey (l : List (K × V)) : Option K := l.getLast?.map Prod.fst

/-- The keys of a list of entries. -/
def keysOf (l : List (K × V)) : List K := l.map Prod.fst

@[simp] theorem firstKey_nil : firstKey ([] : List (K × V)) = none := rfl

@[simp] theorem firstKey_cons (e : K × V) (l : List (K × V)) : firstKey (e :: l) = some e.1 := rfl

@[simp] theorem lastKey_nil : lastKey ([] : List (K × V)) = none := rfl

@[simp] theorem lastKey_snoc (l : List (K × V)) (e : K × V) : lastKey (l ++ [e]) = some e.1 := by
  simp [lastKey]

@[simp] theorem keysOf_nil : keysOf ([] : List (K × V)) = [] := rfl

@[simp] theorem keysOf_cons (e : K × V) (l : List (K × V)) :
    keysOf (e :: l) = e.1 :: keysOf l := rfl

@[simp] theorem keysOf_append (l l' : List (K × V)) : keysOf (l ++ l') = keysOf l ++ keysOf l' :=
  List.map_append

theorem firstKey_append (l l' : List (K × V)) :
    firstKey (l ++ l') = (firstKey l).or (firstKey l') := by
  cases l with
  | nil => rfl
  | cons e l => rfl

theorem lastKey_append (l l' : List (K × V)) :
    lastKey (l ++ l') = (lastKey l').or (lastKey l) := by
  rw [lastKey, List.getLast?_append]
  cases h : l'.getLast? with
  | none => simp [lastKey, h]
  | some e => simp [lastKey, h]

theorem firstKey_mem {l : List (K × V)} {k : K} (h : firstKey l = some k) : k ∈ keysOf l := by
  cases l with
  | nil => cases h
  | cons e l =>
    cases h
    exact List.mem_cons_self ..

theorem lastKey_mem {l : List (K × V)} {k : K} (h : lastKey l = some k) : k ∈ keysOf l := by
  obtain ⟨e, he, rfl⟩ := Option.map_eq_some_iff.1 h
  exact List.mem_map_of_mem (List.mem_of_getLast? he)

section
variable [BEq K] [LawfulBEq K] {l : List (K × V)}

/-- The entries other than that of a key. -/
def without (key : K) (l : List (K × V)) : List (K × V) := l.filter fun e => e.1 != key

theorem without_of_notMem {key : K} (h : key ∉ keysOf l) : without key l = l := by
  rw [without, List.filter_eq_self]
  intro e he
  rw [bne_iff_ne]
  rintro rfl
  exact h (List.mem_map_of_mem he)

theorem without_split {key : K} {v : V} {pre post : List (K × V)}
    (h : (keysOf (pre ++ (key, v) :: post)).Nodup) :
    without key (pre ++ (key, v) :: post) = pre ++ post := by
  rw [keysOf_append, keysOf_cons, List.nodup_middle, List.nodup_cons, List.mem_append, not_or] at h
  rw [without, List.filter_append, List.filter_cons_of_neg (by simp)]
  exact congrArg₂ (· ++ ·) (without_of_notMem h.1.1) (without_of_notMem h.1.2)

end

variable [BEq K] [Hashable K]

/-! ## Segments -/

/-- The entries of a list are in the map, each linked with its neighbours.  The first is linked with
    `newer`, the last with `older`. -/
def Segment (m : Std.HashMap K (Entry K V)) : Option K → List (K × V) → Option K → Prop
  | _, [], _ => True
  | newer, (k, v) :: l, older =>
    m[k]? = some ⟨v, newer, (firstKey l).or older⟩ ∧ Segment m (some k) l older

section
variable {m m' : Std.HashMap K (Entry K V)} {newer older : Option K} {l l' : List (K × V)}

theorem segment_append : Segment m newer (l ++ l') older ↔
    Segment m newer l ((firstKey l').or older) ∧ Segment m ((lastKey l).or newer) l' older := by
  induction l generalizing newer with
  | nil => simp [Segment]
  | cons e l ih =>
    obtain ⟨k, v⟩ := e
    have hlast : (lastKey ((k, v) :: l)).or newer = (lastKey l).or (some k) := by
      rw [show (k, v) :: l = [(k, v)] ++ l from rfl, lastKey_append]
      cases lastKey l <;> rfl
    rw [List.cons_append, Segment, Segment, ih, firstKey_append, hlast, Option.or_assoc, and_assoc]

/-- The last entry of a segment carries the outer link. -/
theorem segment_snoc {k : K} {v : V} : Segment m newer (l ++ [(k, v)]) older ↔
    Segment m newer l (some k) ∧ m[k]? = some ⟨v, (lastKey l).or newer, older⟩ := by
  rw [segment_append]
  simp [Segment]

/-- A segment depends on the entries of its keys only. -/
theorem Segment.congr (h : Segment m newer l older) (hm : ∀ k ∈ keysOf l, m'[k]? = m[k]?) :
    Segment m' newer l older := by
  induction l generalizing newer with
  | nil => trivial
  | cons e l ih =>
    obtain ⟨k, v⟩ := e
    exact ⟨(hm k (List.mem_cons_self ..)).trans h.1,
      ih h.2 fun k' hk' => hm k' (List.mem_cons_of_mem k hk')⟩

/-- A key of a segment has an entry with its value. -/
theorem Segment.getElem? {k : K} {v : V} (h : Segment m newer l older) (hmem : (k, v) ∈ l) :
    ∃ e, m[k]? = some e ∧ e.value = v := by
  obtain ⟨l₁, l₂, rfl⟩ := List.append_of_mem hmem
  exact ⟨_, (segment_append.1 h).2.1, rfl⟩

/-- Links an entry with another newer one. -/
def setNewer (m : Std.HashMap K (Entry K V)) (key newer : Option K) : Std.HashMap K (Entry K V) :=
  match key with
  | some k => m.modify k fun x => { x with newer := newer }
  | none => m

/-- Links an entry with another older one. -/
def setOlder (m : Std.HashMap K (Entry K V)) (key older : Option K) : Std.HashMap K (Entry K V) :=
  match key with
  | some k => m.modify k fun x => { x with older := older }
  | none => m

/-- What unlinking an entry does to the map and to the ends. -/
theorem unlink_eq {c : Lru K V} {key : K} {e : Entry K V} (h : c.entries[key]? = some e) :
    (c.unlink key).entries = setNewer (setOlder c.entries e.newer e.older) e.older e.newer ∧
      (c.unlink key).newest = (if e.newer.isNone then e.older else c.newest) ∧
      (c.unlink key).oldest = (if e.older.isNone then e.newer else c.oldest) := by
  rw [unlink, h]
  obtain ⟨v, newer, older⟩ := e
  cases newer with
  | none =>
    cases older with
    | none => exact ⟨rfl, rfl, rfl⟩
    | some o => exact ⟨rfl, rfl, rfl⟩
  | some n =>
    cases older with
    | none => exact ⟨rfl, rfl, rfl⟩
    | some o => exact ⟨rfl, rfl, rfl⟩

/-- What linking an entry does to the map and to the ends. -/
theorem pushFront_eq (c : Lru K V) (key : K) (value : V) :
    (c.pushFront key value).entries =
        (setNewer c.entries c.newest (some key)).insert key ⟨value, none, c.newest⟩ ∧
      (c.pushFront key value).oldest = (if c.newest.isNone then some key else c.oldest) := by
  obtain ⟨limit, entries, newest, oldest, hits, misses, evictions, watched, dropped⟩ := c
  cases newest with
  | none => exact ⟨rfl, rfl⟩
  | some n => exact ⟨rfl, rfl⟩

variable [LawfulBEq K] [LawfulHashable K]

theorem getElem?_modify_of_ne {k k' : K} {f : Entry K V → Entry K V} (h : k ≠ k') :
    (m.modify k f)[k']? = m[k']? := by
  rw [Std.HashMap.getElem?_modify, if_neg (by simpa using h)]

/-- Only an entry of the segment changes. -/
theorem getElem?_setNewer {k : K} (newer' : Option K) (hk : k ∉ keysOf l) :
    (setNewer m (firstKey l) newer')[k]? = m[k]? := by
  unfold setNewer
  split
  · rename_i k' hk'
    refine getElem?_modify_of_ne ?_
    rintro rfl
    exact hk (firstKey_mem hk')
  · rfl

theorem getElem?_setOlder {k : K} (older' : Option K) (hk : k ∉ keysOf l) :
    (setOlder m (lastKey l) older')[k]? = m[k]? := by
  unfold setOlder
  split
  · rename_i k' hk'
    refine getElem?_modify_of_ne ?_
    rintro rfl
    exact hk (lastKey_mem hk')
  · rfl

/-- Changing the outer link at the front of a segment. -/
theorem Segment.setNewer (newer' : Option K) (h : Segment m newer l older)
    (hnodup : (keysOf l).Nodup) : Segment (setNewer m (firstKey l) newer') newer' l older := by
  cases l with
  | nil => trivial
  | cons e l =>
    obtain ⟨k, v⟩ := e
    refine ⟨?_, h.2.congr fun i hi => getElem?_modify_of_ne ?_⟩
    · show (m.modify k _)[k]? = _
      rw [Std.HashMap.getElem?_modify_self, h.1]
      rfl
    · rintro rfl
      exact (List.nodup_cons.1 hnodup).1 hi

/-- Changing the outer link at the end of a segment. -/
theorem Segment.setOlder (older' : Option K) (h : Segment m newer l older)
    (hnodup : (keysOf l).Nodup) : Segment (setOlder m (lastKey l) older') newer l older' := by
  rcases List.eq_nil_or_concat' l with rfl | ⟨l, ⟨k, v⟩, rfl⟩
  · trivial
  · rw [lastKey_snoc]
    rw [segment_snoc] at h ⊢
    refine ⟨h.1.congr fun i hi => getElem?_modify_of_ne ?_, ?_⟩
    · rintro rfl
      rw [keysOf_append] at hnodup
      exact (List.nodup_append.1 hnodup).2.2 _ hi _ (List.mem_singleton_self _) rfl
    · show (m.modify k _)[k]? = _
      rw [Std.HashMap.getElem?_modify_self, h.2]
      rfl

end

/-! ## Linked caches -/

/-- The cache represents the list: its entries are those of the list, linked in order, and no
    others. -/
structure Linked (c : Lru K V) (l : List (K × V)) : Prop where
  nodup : (keysOf l).Nodup
  segment : Segment c.entries none l none
  newest : c.newest = firstKey l
  oldest : c.oldest = lastKey l
  absent : ∀ k, k ∉ keysOf l → c.entries[k]? = none

/-- The cache represents the list, but for an entry of `key` that may be there and is not linked. -/
structure Unlinked (c : Lru K V) (key : K) (l : List (K × V)) : Prop where
  nodup : (keysOf l).Nodup
  notMem : key ∉ keysOf l
  segment : Segment c.entries none l none
  newest : c.newest = firstKey l
  oldest : c.oldest = lastKey l
  absent : ∀ k, k ≠ key → k ∉ keysOf l → c.entries[k]? = none

section
variable {c : Lru K V} {l : List (K × V)}

theorem linked_empty (limit : Int) : Linked (empty limit : Lru K V) [] where
  nodup := List.nodup_nil
  segment := trivial
  newest := rfl
  oldest := rfl
  absent _ _ := Std.HashMap.getElem?_empty

theorem Linked.unlinked {key : K} (h : Linked c l) (hkey : key ∉ keysOf l) : Unlinked c key l where
  nodup := h.nodup
  notMem := hkey
  segment := h.segment
  newest := h.newest
  oldest := h.oldest
  absent k _ := h.absent k

theorem Linked.getElem?_isSome {k : K} (h : Linked c l) :
    (c.entries[k]?).isSome ↔ k ∈ keysOf l := by
  constructor
  · intro hsome
    by_contra hk
    rw [h.absent k hk] at hsome
    cases hsome
  · intro hk
    obtain ⟨⟨k', v⟩, hmem, rfl⟩ := List.mem_map.1 hk
    obtain ⟨e, he, _⟩ := h.segment.getElem? hmem
    rw [he]
    rfl

/-- What is found under a key stands in the list. -/
theorem Linked.mem_of_getElem? {k : K} {e : Entry K V} (h : Linked c l)
    (he : c.entries[k]? = some e) : (k, e.value) ∈ l := by
  have hk : k ∈ keysOf l := h.getElem?_isSome.1 (by rw [he]; rfl)
  obtain ⟨⟨k', v⟩, hmem, rfl⟩ := List.mem_map.1 hk
  obtain ⟨e', he', rfl⟩ := h.segment.getElem? hmem
  rw [he] at he'
  cases he'
  exact hmem

variable [LawfulBEq K] [LawfulHashable K]

/-- The map has as many entries as the list. -/
theorem Linked.size_eq (h : Linked c l) : c.size = l.length := by
  have hperm : c.entries.keys.Perm (keysOf l) := by
    rw [List.perm_ext_iff_of_nodup Std.HashMap.nodup_keys h.nodup]
    intro k
    rw [Std.HashMap.mem_keys, Std.HashMap.mem_iff_isSome_getElem?, h.getElem?_isSome]
  have hlen := hperm.length_eq
  rw [Std.HashMap.length_keys, keysOf, List.length_map] at hlen
  exact hlen

/-! ### Unlinking and linking one key -/

/-- **Unlinking a key** closes the gap that it leaves. -/
theorem Linked.unlink (h : Linked c l) (key : K) : Unlinked (c.unlink key) key (without key l) := by
  by_cases hkey : key ∈ keysOf l
  · obtain ⟨⟨k', v⟩, hmem, rfl⟩ := List.mem_map.1 hkey
    obtain ⟨pre, post, rfl⟩ := List.append_of_mem hmem
    rw [without_split h.nodup]
    obtain ⟨hpre, hentry, hpost⟩ := segment_append.1 h.segment
    rw [Option.or_none, Option.or_none] at hentry
    obtain ⟨hentries, hnewest, holdest⟩ := unlink_eq hentry
    have hnodup := h.nodup
    rw [keysOf_append, keysOf_cons, List.nodup_middle, List.nodup_cons] at hnodup
    obtain ⟨hprenodup, hpostnodup, hdisjoint⟩ := List.nodup_append.1 hnodup.2
    have hnotpre : ∀ k ∈ keysOf post, k ∉ keysOf pre := fun k hk hk' => hdisjoint k hk' k hk rfl
    have hnotpost : ∀ k ∈ keysOf pre, k ∉ keysOf post := fun k hk hk' => hdisjoint k hk k hk' rfl
    refine ⟨by rw [keysOf_append]; exact hnodup.2, by rw [keysOf_append]; exact hnodup.1,
      ?_, ?_, ?_, fun k hne hk => ?_⟩
    · -- both parts keep their entries but for the links at the gap
      rw [hentries, segment_append, Option.or_none, Option.or_none]
      exact ⟨(hpre.setOlder _ hprenodup).congr fun k hk => getElem?_setNewer _ (hnotpost k hk),
        (hpost.congr fun k hk => getElem?_setOlder _ (hnotpre k hk)).setNewer _ hpostnodup⟩
    · -- the newest key is another one only if nothing was newer than `key`
      rw [hnewest, h.newest, firstKey_append, firstKey_append]
      cases pre with
      | nil => rfl
      | cons e pre =>
        rw [if_neg (by simp [lastKey])]
        rfl
    · -- and likewise for the oldest
      rw [holdest, h.oldest, lastKey_append, lastKey_append]
      cases post with
      | nil => rfl
      | cons e post =>
        have hlast : (lastKey ((k', v) :: e :: post)) = lastKey (e :: post) := by
          rw [lastKey, List.getLast?_cons_cons, lastKey]
        rw [if_neg (by simp), hlast]
    · rw [keysOf_append, List.mem_append, not_or] at hk
      rw [hentries, getElem?_setNewer _ hk.2, getElem?_setOlder _ hk.1]
      refine h.absent k ?_
      rw [keysOf_append, keysOf_cons, List.mem_append, List.mem_cons]
      rintro (hk' | rfl | hk')
      · exact hk.1 hk'
      · exact hne rfl
      · exact hk.2 hk'
  · rw [without_of_notMem hkey, Lru.unlink, h.absent key hkey]
    exact h.unlinked hkey

/-- **Linking a key** puts it in front. -/
theorem Unlinked.pushFront {key : K} (h : Unlinked c key l) (value : V) :
    Linked (c.pushFront key value) ((key, value) :: l) := by
  obtain ⟨hentries, holdest⟩ := pushFront_eq c key value
  have hother : ∀ k, k ≠ key →
      (c.pushFront key value).entries[k]? = (setNewer c.entries c.newest (some key))[k]? := by
    intro k hk
    rw [hentries, Std.HashMap.getElem?_insert, if_neg (by simpa using hk.symm)]
  refine ⟨List.nodup_cons.2 ⟨h.notMem, h.nodup⟩, ⟨?_, ?_⟩, rfl, ?_, fun k hk => ?_⟩
  · rw [hentries, Std.HashMap.getElem?_insert_self, h.newest, Option.or_none]
  · refine (h.segment.setNewer (some key) h.nodup).congr fun k hk => ?_
    rw [hother k (by rintro rfl; exact h.notMem hk), h.newest]
  · rw [holdest, h.newest, h.oldest]
    cases l with
    | nil => rfl
    | cons e l => rw [if_neg (by simp), lastKey, lastKey, List.getLast?_cons_cons]
  · obtain ⟨hne, hk⟩ := not_or.1 fun h' => hk (List.mem_cons.2 h')
    rw [hother k hne, h.newest, getElem?_setNewer _ hk]
    exact h.absent k hne hk

theorem Linked.use (h : Linked c l) (key : K) (value : V) :
    Linked (c.use key value) ((key, value) :: without key l) :=
  (h.unlink key).pushFront value

theorem Linked.remove (h : Linked c l) (key : K) : Linked (c.remove key) (without key l) := by
  rw [Lru.remove]
  split
  · rename_i hnone
    have hkey : key ∉ keysOf l := by
      rw [← h.getElem?_isSome, hnone]
      exact Bool.false_ne_true
    rwa [without_of_notMem hkey]
  · have hu := h.unlink key
    have hother : ∀ k, k ≠ key →
        ((c.unlink key).entries.erase key)[k]? = (c.unlink key).entries[k]? := by
      intro k hk
      rw [Std.HashMap.getElem?_erase, if_neg (by simpa using hk.symm)]
    refine ⟨hu.nodup, hu.segment.congr fun k hk => hother k ?_, hu.newest, hu.oldest,
      fun k hk => ?_⟩
    · rintro rfl
      exact hu.notMem hk
    · by_cases hne : k = key
      · rw [hne]
        exact Std.HashMap.getElem?_erase_self
      · exact (hother k hne).trans (hu.absent k hne hk)

/-! ### Dropping from the end -/

theorem Linked.removeOldest (h : Linked c l) : Linked c.removeOldest l.dropLast := by
  rw [Lru.removeOldest, h.oldest]
  rcases List.eq_nil_or_concat' l with rfl | ⟨l, ⟨key, v⟩, rfl⟩
  · exact h
  · rw [lastKey_snoc, List.dropLast_concat]
    have hwithout : without key (l ++ [(key, v)]) = l := by
      rw [without_split h.nodup, List.append_nil]
    exact hwithout ▸ h.remove key

theorem Linked.clearAux {fuel : Nat} (h : Linked c l) (hfuel : l.length ≤ fuel) :
    Linked (clearAux fuel c) [] := by
  induction fuel generalizing c l with
  | zero => rwa [List.length_eq_zero_iff.1 (Nat.le_zero.1 hfuel)] at h
  | succ fuel ih => exact ih h.removeOldest (by rw [List.length_dropLast]; omega)

/-- **Clearing** leaves nothing behind. -/
theorem Linked.clear (h : Linked c l) : Linked c.clear [] :=
  h.clearAux (Nat.le_of_eq h.size_eq.symm)

/-- Shrinking drops entries from the end. -/
theorem Linked.shrink {fuel : Nat} (h : Linked c l) :
    ∃ l', Linked (shrink fuel c) l' ∧ l' <+: l := by
  induction fuel generalizing c l with
  | zero => exact ⟨l, h, List.prefix_rfl⟩
  | succ fuel ih =>
    rw [Lru.shrink]
    split
    · have hr := h.removeOldest
      obtain ⟨l', hl', hfront⟩ := ih (c := { c.removeOldest with
        evictions := c.removeOldest.evictions + 1 })
        ⟨hr.nodup, hr.segment, hr.newest, hr.oldest, hr.absent⟩
      have hlast := List.dropLast_prefix l
      exact ⟨l', hl', hfront.trans hlast⟩
    · exact ⟨l, h, List.prefix_rfl⟩

/-! ### Storing and looking up -/

theorem Linked.set (h : Linked c l) (key : K) (value : V) :
    ∃ l', Linked (c.set key value) l' ∧ l' <+: (key, value) :: without key l := by
  rw [Lru.set]
  split
  · exact ⟨_, h.use key value, List.prefix_rfl⟩
  · rename_i hcontains
    have hkey : key ∉ keysOf l := by
      rwa [← h.getElem?_isSome, ← Std.HashMap.contains_eq_isSome_getElem?]
    rw [without_of_notMem hkey]
    exact ((h.unlinked hkey).pushFront value).shrink

end

/-! ## Properties of all entries -/

/-- The cache is linked and all its entries have a property. -/
def Holds (P : K → V → Prop) (c : Lru K V) : Prop :=
  ∃ l, Linked c l ∧ ∀ k v, (k, v) ∈ l → P k v

section
variable {P : K → V → Prop} {c : Lru K V}

theorem holds_empty (limit : Int) : Holds P (empty limit) :=
  ⟨[], linked_empty limit, fun _ _ h => by cases h⟩

theorem Holds.mono {Q : K → V → Prop} (h : Holds P c) (hQ : ∀ k v, P k v → Q k v) : Holds Q c := by
  obtain ⟨l, hl, hP⟩ := h
  exact ⟨l, hl, fun k v hmem => hQ k v (hP k v hmem)⟩

theorem Holds.of_getElem? {k : K} {e : Entry K V} (h : Holds P c) (he : c.entries[k]? = some e) :
    P k e.value := by
  obtain ⟨l, hl, hP⟩ := h
  exact hP k e.value (hl.mem_of_getElem? he)

variable [LawfulBEq K] [LawfulHashable K]

theorem Holds.clear (h : Holds P c) (Q : K → V → Prop) : Holds Q c.clear := by
  obtain ⟨l, hl, _⟩ := h
  exact ⟨[], hl.clear, fun _ _ h => by cases h⟩

theorem Holds.set {key : K} {value : V} (h : Holds P c) (hvalue : P key value) :
    Holds P (c.set key value) := by
  obtain ⟨l, hl, hP⟩ := h
  obtain ⟨l', hl', hfront⟩ := hl.set key value
  refine ⟨l', hl', fun k v hmem => ?_⟩
  rcases List.mem_cons.1 (hfront.subset hmem) with heq | hmem
  · cases heq
    exact hvalue
  · exact hP k v (List.mem_of_mem_filter hmem)

theorem Holds.use {key : K} {value : V} (h : Holds P c) (hvalue : P key value) :
    Holds P (c.use key value) := by
  obtain ⟨l, hl, hP⟩ := h
  refine ⟨_, hl.use key value, fun k v hmem => ?_⟩
  rcases List.mem_cons.1 hmem with heq | hmem
  · cases heq
    exact hvalue
  · exact hP k v (List.mem_of_mem_filter hmem)

/-- A look-up finds an entry with the property and keeps it for all entries. -/
theorem Holds.get (h : Holds P c) (key : K) :
    Holds P (c.get key).2 ∧ ∀ v, (c.get key).1 = some v → P key v := by
  rw [Lru.get]
  split
  · obtain ⟨l, hl, hP⟩ := h
    exact ⟨⟨l, ⟨hl.nodup, hl.segment, hl.newest, hl.oldest, hl.absent⟩, hP⟩,
      fun v hv => by cases hv⟩
  · rename_i e he
    have hvalue := h.of_getElem? he
    obtain ⟨l, hl, hP⟩ := h.use hvalue
    refine ⟨⟨l, ⟨hl.nodup, hl.segment, hl.newest, hl.oldest, hl.absent⟩, hP⟩, fun v hv => ?_⟩
    cases hv
    exact hvalue

/-- **Creating what is missing**: if the creator keeps the property and yields values that have it,
    so does the cache; and where the creator never fails, nothing fails. -/
theorem Holds.getOrCreate {ε : Type} {create : Lru K V → Except ε V × Lru K V}
    (h : Holds P c) (key : K) (hkeep : ∀ c, Holds P c → Holds P (create c).2)
    (hvalue : ∀ c v, Holds P c → (create c).1 = .ok v → P key v) :
    Holds P (c.getOrCreate key create).2 ∧
      (∀ v, (c.getOrCreate key create).1 = .ok v → P key v) ∧
      ∀ e, (c.getOrCreate key create).1 = .error e → ∃ c, Holds P c ∧ (create c).1 = .error e := by
  obtain ⟨hget, hfound⟩ := h.get key
  rw [Lru.getOrCreate]
  split
  · rename_i v c' heq
    rw [heq] at hget hfound
    refine ⟨hget, fun w hw => ?_, fun e he => by cases he⟩
    cases hw
    exact hfound v rfl
  · rename_i c' heq
    rw [heq] at hget
    have hkept := hkeep c' hget
    split
    · rename_i e c'' hcreate
      rw [hcreate] at hkept
      refine ⟨hkept, fun w hw => ?_, fun e' he' => ⟨c', hget, ?_⟩⟩
      · cases hw
      · rw [hcreate]
        exact he'
    · rename_i v c'' hcreate
      rw [hcreate] at hkept
      have hv : P key v := hvalue c' v hget (by rw [hcreate])
      split
      · rename_i e he
        have hstored := hkept.of_getElem? he
        refine ⟨hkept.use hstored, fun w hw => ?_, fun e he => by cases he⟩
        cases hw
        exact hstored
      · refine ⟨hkept.set hv, fun w hw => ?_, fun e he => by cases he⟩
        cases hw
        exact hv

end

/-! ## What is lost, and what is stored -/

/-- The value that is stored under a key. -/
def value? (c : Lru K V) (key : K) : Option V := (c.entries[key]?).map Entry.value

/-- From `c` to `c'` entries are lost to evictions only. -/
structure Keeps (c c' : Lru K V) : Prop where
  evictions : c.evictions ≤ c'.evictions
  value? : c'.evictions = c.evictions → ∀ k v, c.value? k = some v → c'.value? k = some v

section
variable {c c' c'' : Lru K V} {l : List (K × V)} {key : K}

theorem Keeps.refl (c : Lru K V) : Keeps c c := ⟨Nat.le_refl _, fun _ _ _ h => h⟩

theorem Keeps.trans (h : Keeps c c') (h' : Keeps c' c'') : Keeps c c'' := by
  refine ⟨Nat.le_trans h.evictions h'.evictions, fun heq k v hv => ?_⟩
  have hle := h.evictions
  have hle' := h'.evictions
  exact h'.value? (by omega) k v (h.value? (by omega) k v hv)

theorem Linked.value?_eq_some {v : V} (h : Linked c l) : c.value? key = some v ↔ (key, v) ∈ l := by
  rw [Lru.value?, Option.map_eq_some_iff]
  constructor
  · rintro ⟨e, he, rfl⟩
    exact h.mem_of_getElem? he
  · intro hmem
    obtain ⟨e, he, hv⟩ := h.segment.getElem? hmem
    exact ⟨e, he, hv⟩

/-- What a look-up finds is what is stored. -/
theorem get_fst (c : Lru K V) (key : K) : (c.get key).1 = c.value? key := by
  unfold Lru.get value?
  cases c.entries[key]? with
  | none => rfl
  | some e => rfl

/-- Looking twice for what is not there. -/
theorem get_get_of_none (h : (c.get key).1 = none) : ((c.get key).2.get key).1 = none := by
  unfold Lru.get at h ⊢
  cases hentry : c.entries[key]? with
  | none => simp [hentry]
  | some e => rw [hentry] at h; cases h

/-- A cache holds what is found in it. -/
theorem Holds.found {P : K → V → Prop} (h : Holds P c) :
    Holds (fun key v => (c.get key).1 = some v) c := by
  obtain ⟨l, hl, _⟩ := h
  exact ⟨l, hl, fun k v hmem => (get_fst c k).trans (hl.value?_eq_some.2 hmem)⟩

/-- What holds of the values that are stored holds of the cache. -/
theorem Holds.of_value? {P Q : K → V → Prop} (h : Holds P c)
    (hQ : ∀ k v, c.value? k = some v → Q k v) : Holds Q c := by
  obtain ⟨l, hl, _⟩ := h
  exact ⟨l, hl, fun k v hmem => hQ k v (hl.value?_eq_some.2 hmem)⟩

theorem Holds.value? {P : K → V → Prop} (h : Holds P c) {k : K} {v : V}
    (hv : c.value? k = some v) : P k v := by
  obtain ⟨e, he, rfl⟩ := Option.map_eq_some_iff.1 hv
  exact h.of_getElem? he

/-- A failure comes from the creator, which was called because nothing was stored. -/
theorem getOrCreate_eq_error {ε : Type} {create : Lru K V → Except ε V × Lru K V} {e : ε}
    (h : (c.getOrCreate key create).1 = .error e) :
    c.value? key = none ∧ create (c.get key).2 = (.error e, (c.getOrCreate key create).2) := by
  have hget := get_fst c key
  rw [Lru.getOrCreate] at h ⊢
  generalize c.get key = out at h hget
  obtain ⟨found, c₁⟩ := out
  cases found with
  | some v => cases h
  | none =>
    refine ⟨hget.symm, ?_⟩
    dsimp only at h ⊢
    generalize create c₁ = made at h
    obtain ⟨result, c₂⟩ := made
    cases result with
    | error e' =>
      cases h
      rfl
    | ok v =>
      dsimp only at h
      split at h
      · cases h
      · cases h

omit [Hashable K] in
theorem mem_without [LawfulBEq K] {k : K} {v : V} :
    (k, v) ∈ without key l ↔ (k, v) ∈ l ∧ k ≠ key := by
  rw [without, List.mem_filter]
  simp

theorem evictions_unlink (c : Lru K V) (key : K) : (c.unlink key).evictions = c.evictions := by
  rw [unlink]
  split
  · rfl
  · dsimp only
    split <;> split <;> rfl

theorem evictions_pushFront (c : Lru K V) (key : K) (v : V) :
    (c.pushFront key v).evictions = c.evictions := by
  rw [pushFront]
  dsimp only
  split <;> rfl

theorem evictions_use (c : Lru K V) (key : K) (v : V) : (c.use key v).evictions = c.evictions := by
  rw [use, evictions_pushFront, evictions_unlink]

/-- A stored value is returned, and nothing is evicted for it. -/
theorem getOrCreate_of_value? {ε : Type} {create : Lru K V → Except ε V × Lru K V} {v : V}
    (h : c.value? key = some v) : (c.getOrCreate key create).1 = .ok v ∧
      (c.getOrCreate key create).2.evictions = c.evictions := by
  obtain ⟨e, he, rfl⟩ := Option.map_eq_some_iff.1 h
  have hget : c.get key = (some e.value, { c.use key e.value with hits := c.hits + 1 }) := by
    rw [Lru.get, he]
  rw [Lru.getOrCreate, hget]
  exact ⟨rfl, evictions_use c key e.value⟩

theorem evictions_removeOldest (c : Lru K V) : c.removeOldest.evictions = c.evictions := by
  rw [removeOldest]
  split
  · rfl
  · rw [remove]
    split
    · rfl
    · exact evictions_unlink c _

/-- Shrinking counts what it drops. -/
theorem evictions_shrink (fuel : Nat) (c : Lru K V) :
    c.evictions ≤ (shrink fuel c).evictions ∧
      ((shrink fuel c).evictions = c.evictions → shrink fuel c = c) := by
  induction fuel generalizing c with
  | zero => exact ⟨Nat.le_refl _, fun _ => rfl⟩
  | succ fuel ih =>
    rw [shrink]
    split
    · obtain ⟨hle, _⟩ := ih { c.removeOldest with evictions := c.removeOldest.evictions + 1 }
      have hsame := evictions_removeOldest c
      dsimp only at hle ⊢
      exact ⟨by omega, fun heq => by omega⟩
    · exact ⟨Nat.le_refl _, fun _ => rfl⟩

theorem evictions_le_set (c : Lru K V) (key : K) (v : V) :
    c.evictions ≤ (c.set key v).evictions := by
  rw [set]
  split
  · exact Nat.le_of_eq (evictions_use c key v).symm
  · have hle := (evictions_shrink (c.pushFront key v).size (c.pushFront key v)).1
    rwa [evictions_pushFront] at hle

variable [LawfulBEq K] [LawfulHashable K]

/-- Using a stored entry keeps all. -/
theorem Linked.keeps_use {v : V} (h : Linked c l) (hv : c.value? key = some v) :
    Keeps c (c.use key v) := by
  refine ⟨Nat.le_of_eq (evictions_use c key v).symm, fun _ k w hw => ?_⟩
  rw [(h.use key v).value?_eq_some, List.mem_cons, mem_without]
  by_cases hk : k = key
  · subst hk
    rw [hv] at hw
    cases hw
    exact Or.inl rfl
  · exact Or.inr ⟨h.value?_eq_some.1 hw, hk⟩

/-- Storing under a new key keeps what it does not evict. -/
theorem Linked.keeps_set {v : V} (h : Linked c l) (hnone : c.value? key = none) :
    Keeps c (c.set key v) := by
  have habsent : c.entries[key]? = none := by simpa [Lru.value?] using hnone
  have hkey : key ∉ keysOf l := by
    rw [← h.getElem?_isSome, habsent]
    exact Bool.false_ne_true
  have hset : c.set key v = Lru.shrink (c.pushFront key v).size (c.pushFront key v) := by
    rw [Lru.set, if_neg]
    rw [Std.HashMap.contains_eq_isSome_getElem?, habsent]
    exact Bool.false_ne_true
  obtain ⟨hle, hsame⟩ := evictions_shrink (c.pushFront key v).size (c.pushFront key v)
  have hpush := evictions_pushFront c key v
  refine ⟨by rw [hset]; omega, fun heq k w hw => ?_⟩
  rw [hset] at heq ⊢
  rw [hsame (by omega), ((h.unlinked hkey).pushFront v).value?_eq_some]
  exact List.mem_cons_of_mem _ (h.value?_eq_some.1 hw)

/-- Looking up keeps all. -/
theorem Linked.keeps_get (h : Linked c l) (key : K) : Keeps c (c.get key).2 := by
  rw [Lru.get]
  split
  · exact ⟨Nat.le_refl _, fun _ _ _ hv => hv⟩
  · rename_i e he
    have hvalue : c.value? key = some e.value := by rw [Lru.value?, he]; rfl
    obtain ⟨hle, hkept⟩ := h.keeps_use hvalue
    exact ⟨hle, hkept⟩

/-- **Creating what is missing** keeps what is not evicted, if the creator does. -/
theorem Holds.keeps_getOrCreate {ε : Type} {P : K → V → Prop}
    {create : Lru K V → Except ε V × Lru K V} (h : Holds P c) (key : K)
    (hcreate : ∀ c, Holds P c → Holds P (create c).2 ∧ Keeps c (create c).2) :
    Keeps c (c.getOrCreate key create).2 := by
  have hgot := (h.get key).1
  have hget : Keeps c (c.get key).2 := by
    obtain ⟨l, hl, _⟩ := h
    exact hl.keeps_get key
  rw [Lru.getOrCreate]
  split
  · rename_i heq
    rw [heq] at hget
    exact hget
  · rename_i c' heq
    rw [heq] at hget hgot
    obtain ⟨hholds, hkeeps⟩ := hcreate c' hgot
    split
    · rename_i hmade
      rw [hmade] at hkeeps
      exact hget.trans hkeeps
    · rename_i v c'' hmade
      rw [hmade] at hkeeps hholds
      obtain ⟨l, hl, _⟩ := hholds
      split
      · rename_i e he
        exact (hget.trans hkeeps).trans (hl.keeps_use (by rw [Lru.value?, he]; rfl))
      · rename_i hnone
        exact (hget.trans hkeeps).trans (hl.keeps_set (by rw [Lru.value?, hnone]; rfl))

/-- **Creating what is missing without an eviction**: the creator is called only for a key that is
    not stored, and with all entries in place. -/
theorem Holds.getOrCreate_of_quiet {ε : Type} {P : K → V → Prop}
    {create : Lru K V → Except ε V × Lru K V} (h : Holds P c) (key : K)
    (hkeeps : ∀ c, Holds P c → Keeps c (create c).2)
    (hcreate : ∀ c', Holds P c' → (∀ k v, c.value? k = some v → c'.value? k = some v) →
      c.value? key = none → (create c').2.evictions = c'.evictions →
      Holds P (create c').2 ∧ ∀ v, (create c').1 = .ok v → P key v)
    (hquiet : (c.getOrCreate key create).2.evictions = c.evictions) :
    Holds P (c.getOrCreate key create).2 ∧
      ∀ v, (c.getOrCreate key create).1 = .ok v → P key v := by
  obtain ⟨hgot, hfound⟩ := h.get key
  have hget : Keeps c (c.get key).2 := by
    obtain ⟨l, hl, _⟩ := h
    exact hl.keeps_get key
  rw [Lru.getOrCreate] at hquiet ⊢
  cases hlook : c.get key with
  | mk found c₁ =>
    rw [hlook] at hgot hfound hget hquiet
    cases found with
    | some v =>
      refine ⟨hgot, fun w hw => ?_⟩
      cases hw
      exact hfound v rfl
    | none =>
      have hnone : c.value? key = none := by
        rw [Lru.get] at hlook
        split at hlook
        · rename_i hnone
          rw [Lru.value?, hnone]
          rfl
        · cases hlook
      have hcreated := hkeeps c₁ hgot
      have hspec := hcreate c₁ hgot
      dsimp only at hget hquiet hcreated ⊢
      cases hmade : create c₁ with
      | mk result c₂ =>
        rw [hmade] at hquiet hcreated hspec
        have hle := hget.evictions
        have hle' := hcreated.evictions
        cases result with
        | error e =>
          dsimp only at hquiet hle' ⊢
          obtain ⟨hholds, _⟩ :=
            hspec (hget.value? (by omega)) hnone (by dsimp only; omega)
          exact ⟨hholds, fun v hv => by cases hv⟩
        | ok v =>
          dsimp only at hquiet hle' ⊢
          cases hstored : c₂.entries[key]? with
          | some e =>
            rw [hstored] at hquiet
            dsimp only at hquiet
            rw [evictions_use] at hquiet
            obtain ⟨hholds, _⟩ :=
              hspec (hget.value? (by omega)) hnone (by dsimp only; omega)
            have hvalue := hholds.of_getElem? hstored
            refine ⟨hholds.use hvalue, fun w hw => ?_⟩
            cases hw
            exact hvalue
          | none =>
            rw [hstored] at hquiet
            dsimp only at hquiet
            have hle'' := evictions_le_set c₂ key v
            obtain ⟨hholds, hvalue⟩ :=
              hspec (hget.value? (by omega)) hnone (by dsimp only; omega)
            refine ⟨hholds.set (hvalue v rfl), fun w hw => ?_⟩
            cases hw
            exact hvalue v rfl

/-- Shrinking never drops the newest entry. -/
theorem Linked.shrink_cons {fuel : Nat} {e : K × V} (h : Linked c (e :: l)) :
    ∃ l', Linked (Lru.shrink fuel c) (e :: l') := by
  induction fuel generalizing c l with
  | zero => exact ⟨l, h⟩
  | succ fuel ih =>
    rw [Lru.shrink]
    split
    · rename_i hover
      -- over a limit of one or more there are two entries at least
      have hsize := h.size_eq
      cases l with
      | nil =>
        simp only [isOver, hsize, Bool.and_eq_true, decide_eq_true_eq] at hover
        simp at hover
        omega
      | cons e' l =>
        have hr := h.removeOldest
        rw [List.dropLast_cons_cons] at hr
        exact ih (c := { c.removeOldest with evictions := c.removeOldest.evictions + 1 })
          ⟨hr.nodup, hr.segment, hr.newest, hr.oldest, hr.absent⟩
    · exact ⟨l, h⟩

theorem Linked.value?_set (h : Linked c l) (key : K) (v : V) :
    (c.set key v).value? key = some v := by
  rw [Lru.set]
  split
  · exact (h.use key v).value?_eq_some.2 (List.mem_cons_self ..)
  · rename_i hcontains
    have hkey : key ∉ keysOf l := by
      rwa [← h.getElem?_isSome, ← Std.HashMap.contains_eq_isSome_getElem?]
    obtain ⟨l', hl'⟩ := ((h.unlinked hkey).pushFront v).shrink_cons
    exact hl'.value?_eq_some.2 (List.mem_cons_self ..)

/-- What is returned for a key is stored under it. -/
theorem Holds.value?_getOrCreate {ε : Type} {P : K → V → Prop}
    {create : Lru K V → Except ε V × Lru K V} {v : V} (h : Holds P c) (key : K)
    (hcreate : ∀ c, Holds P c → Holds P (create c).2)
    (hok : (c.getOrCreate key create).1 = .ok v) :
    (c.getOrCreate key create).2.value? key = some v := by
  have hgot := (h.get key).1
  rw [Lru.getOrCreate] at hok ⊢
  split at hok
  · rename_i w c' heq
    cases hok
    rw [Lru.get] at heq
    split at heq
    · cases heq
    · rename_i e he
      cases heq
      obtain ⟨l, hl, _⟩ := h
      have := (hl.use key e.value).value?_eq_some.2 (List.mem_cons_self ..)
      exact this
  · rename_i c' heq
    rw [heq] at hgot
    have hholds := hcreate c' hgot
    split at hok
    · cases hok
    · rename_i w c'' hmade
      rw [hmade] at hholds
      obtain ⟨l, hl, _⟩ := hholds
      split at hok
      · rename_i e he
        cases hok
        exact (hl.use key e.value).value?_eq_some.2 (List.mem_cons_self ..)
      · cases hok
        exact hl.value?_set key v

end

end KernelGraph.Lru
