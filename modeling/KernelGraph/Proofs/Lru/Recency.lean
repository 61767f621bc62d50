/-
  A cache as a plain list.

  The entries are pairs of a key and a value, in the order of their last use.  Looking an entry up
  and storing a value move the pair to the front; storing under a new key beyond the limit drops the
  last pair.  Nothing is linked and nothing is hashed: this is what a cache that forgets the least
  recently used entry is meant to do.

  1. `Tidy`: no key occurs twice, and a positive limit is kept.  Every operation keeps it so.

  2. `Reports`: a watched list reports the entries that leave it, each once and with the value that
     it had, least recently used first, and nothing else.
-/
import KernelGraph.Proofs.Lru

namespace KernelGraph

open Lru (keysOf without)

/-- A cache as a list, most recently used first. -/
structure Recency (K V : Type) where
  limit : Int
  entries : List (K × V) := []
  hits : Nat := 0
  misses : Nat := 0
  evictions : Nat := 0
  watched : Bool := false
  dropped : List (K × V) := []
  deriving DecidableEq, Repr

namespace Recency

variable {K V : Type} [BEq K]

/-- The empty list with the given limit. -/
def empty (limit : Int) : Recency K V := { limit }

/-- The value of a key. -/
def value? (m : Recency K V) (key : K) : Option V := m.entries.lookup key

/-- The list is left with some of its entries; the others are reported, if somebody watches. -/
def drop (m : Recency K V) (lost kept : List (K × V)) : Recency K V :=
  { m with
    entries := kept
    dropped := if m.watched then m.dropped ++ lost else m.dropped }

omit [BEq K] in
theorem drop_nil (m : Recency K V) (kept : List (K × V)) :
    m.drop [] kept = { m with entries := kept } := by
  rw [drop, List.append_nil, ite_self]

omit [BEq K] in
theorem drop_drop (m : Recency K V) (lost lost' kept kept' : List (K × V)) :
    (m.drop lost kept).drop lost' kept' = m.drop (lost ++ lost') kept' := by
  unfold drop
  cases m.watched with
  | false => rfl
  | true =>
    dsimp only
    rw [if_pos rfl, if_pos rfl, if_pos rfl, List.append_assoc]

/-- Puts a pair in front, in place of the one that the key had. -/
def use (m : Recency K V) (key : K) (value : V) : Recency K V :=
  { m with entries := (key, value) :: without key m.entries }

/-- Puts a pair of a new key in front; beyond the limit the last pair is dropped. -/
def insert (m : Recency K V) (key : K) (value : V) : Recency K V :=
  let m := { m with entries := (key, value) :: m.entries }
  if 0 < m.limit ∧ m.limit < m.entries.length then
    { m.drop m.entries.getLast?.toList m.entries.dropLast with evictions := m.evictions + 1 }
  else m

/-- Stores a value. -/
def set (m : Recency K V) (key : K) (value : V) : Recency K V :=
  match m.value? key with
  | some _ => m.use key value
  | none => m.insert key value

/-- Looks a key up. -/
def get (m : Recency K V) (key : K) : Option V × Recency K V :=
  match m.value? key with
  | none => (none, { m with misses := m.misses + 1 })
  | some v => (some v, { m.use key v with hits := m.hits + 1 })

/-- Keeps the value of a key, or stores one. -/
def keep (m : Recency K V) (key : K) (value : V) : V × Recency K V :=
  match m.value? key with
  | some v => (v, m.use key v)
  | none => (value, m.insert key value)

/-- Returns the value of a key, or keeps what `create` yields; a failure is not stored. -/
def getOrCreate {ε : Type} (m : Recency K V) (key : K)
    (create : Recency K V → Except ε V × Recency K V) : Except ε V × Recency K V :=
  match m.get key with
  | (some v, m) => (.ok v, m)
  | (none, m) =>
    match create m with
    | (.error e, m) => (.error e, m)
    | (.ok v, m) => (.ok (m.keep key v).1, (m.keep key v).2)

/-- Drops an entry and tells whether it was there. -/
def delete (m : Recency K V) (key : K) : Bool × Recency K V :=
  match m.value? key with
  | some v => (true, m.drop [(key, v)] (without key m.entries))
  | none => (false, m)

/-- Drops every entry, the last one first. -/
def clear (m : Recency K V) : Recency K V := m.drop m.entries.reverse []

/-- Somebody watches from now on, or nobody. -/
def watch (m : Recency K V) (on : Bool) : Recency K V := { m with watched := on }

/-- The statistics of a list. -/
def stats (m : Recency K V) : CacheStats :=
  .of m.entries.length m.limit m.hits m.misses m.evictions

/-! ## Look-ups -/

section
variable [LawfulBEq K] {m : Recency K V} {key : K} {v : V}

theorem value?_eq_none_iff : m.value? key = none ↔ key ∉ keysOf m.entries := by
  rw [value?, List.lookup_eq_none_iff]
  constructor
  · intro h hmem
    obtain ⟨e, he, rfl⟩ := List.mem_map.1 hmem
    simpa using h e he
  · intro h e he
    rw [bne_iff_ne]
    rintro rfl
    exact h (List.mem_map_of_mem he)

/-- A value that is found stands between two parts of the list, of which the first has not the
    key. -/
theorem exists_split_of_value? (h : m.value? key = some v) :
    ∃ pre post, m.entries = pre ++ (key, v) :: post := by
  obtain ⟨pre, post, heq, _⟩ := List.lookup_eq_some_iff.1 h
  exact ⟨pre, post, heq⟩

omit [LawfulBEq K] in
theorem value?_cons_self [ReflBEq K] {l : List (K × V)} (h : m.entries = (key, v) :: l) :
    m.value? key = some v := by
  rw [value?, h, List.lookup_cons_self]

end

/-! ## The list stays tidy -/

/-- No key occurs twice, and a positive limit is kept. -/
structure Tidy (m : Recency K V) : Prop where
  nodup : (keysOf m.entries).Nodup
  length_le : 0 < m.limit → (m.entries.length : Int) ≤ m.limit

section
variable {m m' : Recency K V} {key : K} {v : V}

omit [BEq K] in
theorem tidy_empty (limit : Int) : (empty limit : Recency K V).Tidy :=
  ⟨List.nodup_nil, fun h => Int.le_of_lt h⟩

omit [BEq K] in
theorem Tidy.congr (h : m.Tidy) (hentries : m'.entries = m.entries) (hlimit : m'.limit = m.limit) :
    m'.Tidy := by
  refine ⟨?_, ?_⟩
  · rw [hentries]
    exact h.nodup
  · rw [hentries, hlimit]
    exact h.length_le

omit [BEq K] in
/-- Entries that leave do no harm. -/
theorem Tidy.drop (h : m.Tidy) (lost : List (K × V)) {kept : List (K × V)}
    (hkept : kept.Sublist m.entries) : (m.drop lost kept).Tidy := by
  refine ⟨h.nodup.sublist (hkept.map Prod.fst), fun hlimit => ?_⟩
  have hlength := hkept.length_le
  have hle := h.length_le hlimit
  show (kept.length : Int) ≤ m.limit
  omega

theorem without_sublist (key : K) (l : List (K × V)) : (without key l).Sublist l :=
  List.filter_sublist

variable [LawfulBEq K]

theorem notMem_keysOf_without (key : K) (l : List (K × V)) : key ∉ keysOf (without key l) := by
  intro h
  obtain ⟨⟨k, v⟩, hmem, rfl⟩ := List.mem_map.1 h
  exact (Lru.mem_without.1 hmem).2 rfl

/-- A pair in the list is shorter by one without its key. -/
theorem length_without (hm : m.Tidy) (h : m.value? key = some v) :
    (without key m.entries).length + 1 = m.entries.length := by
  obtain ⟨pre, post, heq⟩ := exists_split_of_value? h
  have hnodup := hm.nodup
  rw [heq] at hnodup ⊢
  rw [Lru.without_split hnodup, List.length_append, List.length_append, List.length_cons]
  omega

/-- What is found is what stands in the list. -/
theorem Tidy.value?_eq_some (hm : m.Tidy) : m.value? key = some v ↔ (key, v) ∈ m.entries := by
  constructor
  · intro h
    obtain ⟨pre, post, heq⟩ := exists_split_of_value? h
    rw [heq]
    exact List.mem_append_right _ (List.mem_cons_self ..)
  · intro h
    obtain ⟨pre, post, heq⟩ := List.append_of_mem h
    have hnodup := hm.nodup
    rw [heq, Lru.keysOf_append, Lru.keysOf_cons, List.nodup_middle, List.nodup_cons,
      List.mem_append, not_or] at hnodup
    refine List.lookup_eq_some_iff.2 ⟨pre, post, heq, fun e he => ?_⟩
    rw [bne_iff_ne]
    rintro rfl
    exact hnodup.1.1 (List.mem_map.2 ⟨e, he, rfl⟩)

theorem Tidy.use (hm : m.Tidy) (h : m.value? key = some v) (w : V) : (m.use key w).Tidy := by
  refine ⟨List.nodup_cons.2 ⟨notMem_keysOf_without key m.entries,
    hm.nodup.sublist ((without_sublist key m.entries).map Prod.fst)⟩, fun hlimit => ?_⟩
  have hlength := length_without hm h
  have hle := hm.length_le hlimit
  show (((without key m.entries).length + 1 : Nat) : Int) ≤ m.limit
  omega

omit [BEq K] [LawfulBEq K] in
@[simp] theorem limit_insert (m : Recency K V) (key : K) (w : V) :
    (m.insert key w).limit = m.limit := by
  unfold Recency.insert
  dsimp only
  split <;> rfl

omit [BEq K] [LawfulBEq K] in
/-- What is put in stands in front of what stays, which is all unless the list was full. -/
theorem Tidy.entries_insert (hm : m.Tidy) (key : K) (w : V) :
    ((m.insert key w).entries = (key, w) :: m.entries ∧
        (0 < m.limit → (m.entries.length : Int) < m.limit)) ∨
      ((m.insert key w).entries = ((key, w) :: m.entries).dropLast ∧
        0 < m.limit ∧ (m.entries.length : Int) = m.limit) := by
  have hle := hm.length_le
  unfold Recency.insert
  dsimp only
  split
  · rename_i hover
    rw [List.length_cons] at hover
    exact Or.inr ⟨rfl, hover.1, by omega⟩
  · rename_i hfits
    rw [List.length_cons] at hfits
    exact Or.inl ⟨rfl, fun hpos => by omega⟩

theorem Tidy.insert (hm : m.Tidy) (h : m.value? key = none) (w : V) : (m.insert key w).Tidy := by
  have hnodup : (keysOf ((key, w) :: m.entries)).Nodup :=
    List.nodup_cons.2 ⟨value?_eq_none_iff.1 h, hm.nodup⟩
  obtain ⟨heq, hfree⟩ | ⟨heq, _, hfull⟩ := hm.entries_insert key w
  · refine ⟨?_, fun hlimit => ?_⟩
    · rw [heq]
      exact hnodup
    · rw [limit_insert] at hlimit ⊢
      have hlt := hfree hlimit
      rw [heq, List.length_cons]
      omega
  · -- one pair too many was put in, and one leaves
    refine ⟨?_, fun _ => ?_⟩
    · rw [heq]
      exact hnodup.sublist ((List.dropLast_sublist _).map Prod.fst)
    · rw [limit_insert, heq, List.length_dropLast, List.length_cons]
      omega

theorem Tidy.set (hm : m.Tidy) (key : K) (w : V) : (m.set key w).Tidy := by
  unfold Recency.set
  split
  · rename_i v h
    exact hm.use h w
  · rename_i h
    exact hm.insert h w

theorem Tidy.get (hm : m.Tidy) (key : K) : (m.get key).2.Tidy := by
  unfold Recency.get
  split
  · exact hm.congr rfl rfl
  · rename_i v h
    exact (hm.use h v).congr rfl rfl

theorem Tidy.keep (hm : m.Tidy) (key : K) (w : V) : (m.keep key w).2.Tidy := by
  unfold Recency.keep
  split
  · rename_i v h
    exact hm.use h v
  · rename_i h
    exact hm.insert h w

omit [LawfulBEq K] in
theorem Tidy.delete (hm : m.Tidy) (key : K) : (m.delete key).2.Tidy := by
  unfold Recency.delete
  split
  · exact hm.drop _ (without_sublist key m.entries)
  · exact hm

omit [BEq K] [LawfulBEq K] in
theorem Tidy.clear (hm : m.Tidy) : m.clear.Tidy := hm.drop _ (List.nil_sublist _)

end

/-! ## What leaves is reported -/

/-- The entries that are in the first list and not in the second, the last one first. -/
def lost (m m' : Recency K V) : List (K × V) :=
  (m.entries.filter fun e => !(keysOf m'.entries).contains e.1).reverse

/-- What leaves the list is reported, if somebody watches, and nothing else is. -/
def Reports (m m' : Recency K V) : Prop :=
  m'.dropped = if m.watched then m.dropped ++ lost m m' else m.dropped

section
variable [LawfulBEq K] {m m' : Recency K V} {key : K} {v : V}

theorem reports_of_subset (hkeys : keysOf m.entries ⊆ keysOf m'.entries)
    (hdropped : m'.dropped = m.dropped) : m.Reports m' := by
  have hlost : lost m m' = [] := by
    rw [lost, List.reverse_eq_nil_iff, List.filter_eq_nil_iff]
    intro e he
    simpa using hkeys (List.mem_map_of_mem he)
  rw [Reports, hlost, List.append_nil, hdropped, ite_self]

omit [LawfulBEq K] in
theorem reports_drop {gone kept : List (K × V)}
    (hlost : lost m (m.drop gone kept) = gone) : m.Reports (m.drop gone kept) := by
  rw [Reports, hlost]
  rfl

/-- A pair that leaves from between two parts of the list is the one that is lost. -/
theorem lost_of_split {pre post : List (K × V)} {e : K × V} (hm : m.Tidy)
    (hm' : keysOf m'.entries = keysOf (pre ++ post) ∨ ∃ k ∉ keysOf m.entries,
      keysOf m'.entries = k :: keysOf (pre ++ post))
    (h : m.entries = pre ++ e :: post) : lost m m' = [e] := by
  have hnodup := hm.nodup
  rw [h, Lru.keysOf_append, Lru.keysOf_cons, List.nodup_middle, List.nodup_cons,
    ← Lru.keysOf_append] at hnodup
  have hstays : ∀ x ∈ pre ++ post, x.1 ∈ keysOf m'.entries := by
    intro x hx
    rcases hm' with heq | ⟨k, _, heq⟩
    · rw [heq]
      exact List.mem_map_of_mem hx
    · rw [heq]
      exact List.mem_cons_of_mem _ (List.mem_map_of_mem hx)
  have hleaves : e.1 ∉ keysOf m'.entries := by
    rcases hm' with heq | ⟨k, hk, heq⟩
    · rw [heq]
      exact hnodup.1
    · rw [heq, List.mem_cons, not_or]
      refine ⟨fun hne => hk ?_, hnodup.1⟩
      rw [← hne, h]
      exact List.mem_map_of_mem (List.mem_append_right _ (List.mem_cons_self ..))
  have hpre : pre.filter (fun x => !(keysOf m'.entries).contains x.1) = [] :=
    List.filter_eq_nil_iff.2 fun x hx => by
      simpa using hstays x (List.mem_append_left _ hx)
  have hpost : post.filter (fun x => !(keysOf m'.entries).contains x.1) = [] :=
    List.filter_eq_nil_iff.2 fun x hx => by
      simpa using hstays x (List.mem_append_right _ hx)
  rw [lost, h, List.filter_append, hpre, List.filter_cons_of_pos (by simpa using hleaves), hpost]
  rfl

/-- Using a pair loses none. -/
theorem keysOf_subset_use (m : Recency K V) (key : K) (w : V) :
    keysOf m.entries ⊆ keysOf (m.use key w).entries := by
  intro k hk
  obtain ⟨⟨k', u⟩, hmem, rfl⟩ := List.mem_map.1 hk
  by_cases heq : k' = key
  · exact List.mem_cons.2 (Or.inl heq)
  · exact List.mem_cons_of_mem _ (List.mem_map_of_mem (Lru.mem_without.2 ⟨hmem, heq⟩))

theorem reports_insert (hm : m.Tidy) (h : m.value? key = none) (w : V) :
    m.Reports (m.insert key w) := by
  have hkey := value?_eq_none_iff.1 h
  unfold Recency.insert
  dsimp only
  split
  · rename_i hover
    -- beyond a limit of one or more there was a pair already
    rcases List.eq_nil_or_concat' m.entries with hnil | ⟨l, e, heq⟩
    · rw [hnil] at hover
      simp only [List.length_cons, List.length_nil] at hover
      omega
    · have hlast : ((key, w) :: m.entries).getLast?.toList = [e] := by
        rw [heq, ← List.cons_append, List.getLast?_concat]
        rfl
      have hfront : ((key, w) :: m.entries).dropLast = (key, w) :: l := by
        rw [heq, ← List.cons_append, List.dropLast_concat]
      rw [hlast, hfront]
      have hlost : lost m { ({ m with entries := (key, w) :: m.entries } : Recency K V).drop [e]
          ((key, w) :: l) with evictions := m.evictions + 1 } = [e] := by
        have hkeys : keysOf ((key, w) :: l) = key :: keysOf (l ++ []) := by
          rw [List.append_nil]
          rfl
        exact lost_of_split hm (Or.inr ⟨key, hkey, hkeys⟩) heq
      rw [Reports, hlost]
      rfl
  · exact reports_of_subset (fun k hk => List.mem_cons_of_mem _ hk) rfl

/-- **Looking up** loses nothing. -/
theorem reports_get (m : Recency K V) (key : K) : m.Reports (m.get key).2 := by
  unfold Recency.get
  split
  · exact reports_of_subset (fun _ hk => hk) rfl
  · rename_i v h
    exact reports_of_subset (keysOf_subset_use m key v) rfl

/-- **Storing** loses the last pair, if there are too many. -/
theorem Tidy.reports_set (hm : m.Tidy) (key : K) (w : V) : m.Reports (m.set key w) := by
  unfold Recency.set
  split
  · exact reports_of_subset (keysOf_subset_use m key w) rfl
  · rename_i h
    exact reports_insert hm h w

theorem Tidy.reports_keep (hm : m.Tidy) (key : K) (w : V) : m.Reports (m.keep key w).2 := by
  unfold Recency.keep
  split
  · rename_i v h
    exact reports_of_subset (keysOf_subset_use m key v) rfl
  · rename_i h
    exact reports_insert hm h w

/-- **Deleting** loses the pair of the key. -/
theorem Tidy.reports_delete (hm : m.Tidy) (key : K) : m.Reports (m.delete key).2 := by
  unfold Recency.delete
  split
  · rename_i v h
    obtain ⟨pre, post, heq⟩ := exists_split_of_value? h
    refine reports_drop (lost_of_split hm (Or.inl ?_) heq)
    have hnodup := hm.nodup
    rw [heq] at hnodup
    show keysOf (without key m.entries) = _
    rw [heq, Lru.without_split hnodup]
  · exact reports_of_subset (fun _ hk => hk) rfl

omit [LawfulBEq K] in
/-- **Clearing** loses everything. -/
theorem reports_clear (m : Recency K V) : m.Reports m.clear := by
  have hall : m.entries.filter (fun e => !(keysOf m.clear.entries).contains e.1) = m.entries :=
    List.filter_eq_self.2 fun _ _ => rfl
  exact reports_drop (congrArg List.reverse hall)

/-! ## What is stored -/

theorem value?_insert (m : Recency K V) (key : K) (w : V) :
    (m.insert key w).value? key = some w := by
  unfold Recency.insert
  dsimp only
  split
  · rename_i hover
    cases hentries : m.entries with
    | nil =>
      rw [hentries] at hover
      simp only [List.length_cons, List.length_nil] at hover
      omega
    | cons e l => exact value?_cons_self (l := (e :: l).dropLast) rfl
  · exact value?_cons_self rfl

/-- What a look-up finds is stored afterwards. -/
theorem value?_get {w : V} (h : (m.get key).1 = some w) : (m.get key).2.value? key = some w := by
  unfold Recency.get at h ⊢
  split at h
  · cases h
  · rename_i v _
    cases h
    exact value?_cons_self rfl

/-- What is kept is stored. -/
theorem value?_keep (m : Recency K V) (key : K) (w : V) :
    (m.keep key w).2.value? key = some (m.keep key w).1 := by
  unfold Recency.keep
  split
  · exact value?_cons_self rfl
  · exact value?_insert m key w

end

end Recency

end KernelGraph
