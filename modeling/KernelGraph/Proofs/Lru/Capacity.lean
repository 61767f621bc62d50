/-
  Caches of different limits.

  Two caches are asked the same.  The larger one answers at least as well:

  1. `CacheCall`: what a program asks that does not look at the answers.  `after` is what a sequence
     of calls makes of a cache.

  2. `FitsIn`: the entries of one list stand in the other one in the same order, and the other one
     has at most as many more as its limit is larger.  The count is what makes the inclusion last:
     when the larger list has to drop an entry, the smaller one is full and drops its last entry
     too.  Entries that only the larger list has come from evictions of the smaller one, so there
     are never more of them than places.

  3. Raising the limit never turns a hit into a miss.
-/
import KernelGraph.Proofs.Lru.Refinement

namespace KernelGraph

open Lru (keysOf without)

/-! ## Calls -/

/-- What can be asked of a cache. -/
inductive CacheCall (K V : Type) where
  | get (key : K)
  | set (key : K) (value : V)
  | delete (key : K)
  | clear
  deriving DecidableEq, Repr

variable {K V : Type}

/-- The cache after a call. -/
def Lru.perform [BEq K] [Hashable K] (c : Lru K V) : CacheCall K V → Lru K V
  | .get key => (c.get key).2
  | .set key value => c.set key value
  | .delete key => (c.delete key).2
  | .clear => c.clear

/-- The cache after a sequence of calls. -/
def Lru.after [BEq K] [Hashable K] (c : Lru K V) (calls : List (CacheCall K V)) : Lru K V :=
  calls.foldl Lru.perform c

namespace Recency

/-- The list after a call. -/
def perform [BEq K] (m : Recency K V) : CacheCall K V → Recency K V
  | .get key => (m.get key).2
  | .set key value => m.set key value
  | .delete key => (m.delete key).2
  | .clear => m.clear

/-- The list after a sequence of calls. -/
def after [BEq K] (m : Recency K V) (calls : List (CacheCall K V)) : Recency K V :=
  calls.foldl perform m

/-! ## The smaller list fits in the larger one -/

/-- The entries of the first list stand in the second one, in the same order, and the places that
    the second one has more are enough for the others. -/
structure FitsIn (m m' : Recency K V) : Prop where
  tidy : m.Tidy
  tidy' : m'.Tidy
  limit_pos : 0 < m.limit
  entries : m.entries.Sublist m'.entries
  /-- Without a limit of its own the second list has room for everything. -/
  room : 0 < m'.limit →
    (m'.entries.length : Int) + m.limit ≤ m.entries.length + m'.limit

section
variable {m m' : Recency K V} {key : K} {v : V}

theorem fitsIn_empty {limit limit' : Int} (hpos : 0 < limit)
    (hle : limit ≤ limit' ∨ limit' ≤ 0) :
    FitsIn (empty limit : Recency K V) (empty limit') := by
  refine ⟨tidy_empty limit, tidy_empty limit', hpos, List.Sublist.refl [], fun hpos' => ?_⟩
  have hpos' : 0 < limit' := hpos'
  show ((0 : Nat) : Int) + limit ≤ (0 : Nat) + limit'
  omega

/-- Counting misses changes nothing. -/
theorem FitsIn.congr {n n' : Recency K V} (h : FitsIn m m') (hn : n.entries = m.entries)
    (hlimit : n.limit = m.limit) (hn' : n'.entries = m'.entries) (hlimit' : n'.limit = m'.limit) :
    FitsIn n n' := by
  refine ⟨h.tidy.congr hn hlimit, h.tidy'.congr hn' hlimit', ?_, ?_, ?_⟩
  · rw [hlimit]
    exact h.limit_pos
  · rw [hn, hn']
    exact h.entries
  · rw [hn, hn', hlimit, hlimit']
    exact h.room

theorem dropLast_sublist_dropLast {α : Type} {l l' : List α} (h : l.Sublist l') :
    l.dropLast.Sublist l'.dropLast := by
  rw [← List.reverse_sublist, ← List.tail_reverse, ← List.tail_reverse]
  exact (List.reverse_sublist.2 h).tail

/-! ### What is found -/

variable [BEq K]

/-- Without the entry of a key the lists are included as before. -/
theorem FitsIn.without_sublist_without (h : FitsIn m m') (key : K) :
    (without key m.entries).Sublist (without key m'.entries) :=
  h.entries.filter _

variable [LawfulBEq K]

/-- What the smaller list finds, the larger one finds. -/
theorem FitsIn.value? (h : FitsIn m m') (hv : m.value? key = some v) :
    m'.value? key = some v :=
  h.tidy'.value?_eq_some.2 (h.entries.subset (h.tidy.value?_eq_some.1 hv))

theorem FitsIn.value?_eq_none (h : FitsIn m m') (hv : m'.value? key = none) :
    m.value? key = none := by
  cases hm : m.value? key with
  | none => rfl
  | some v =>
    rw [h.value? hm] at hv
    cases hv

/-- An entry that only the larger list has is none of the smaller one's. -/
theorem FitsIn.sublist_without (h : FitsIn m m') (hnone : m.value? key = none) :
    m.entries.Sublist (without key m'.entries) := by
  have hsub := h.without_sublist_without key
  rwa [Lru.without_of_notMem (value?_eq_none_iff.1 hnone)] at hsub

/-! ### Using an entry -/

/-- Both lists have the entry and use it. -/
theorem FitsIn.use_use {v' : V} (h : FitsIn m m') (hv : m.value? key = some v)
    (hv' : m'.value? key = some v') (w : V) : FitsIn (m.use key w) (m'.use key w) := by
  have hlength := length_without h.tidy hv
  have hlength' := length_without h.tidy' hv'
  refine ⟨h.tidy.use hv w, h.tidy'.use hv' w, h.limit_pos,
    (h.without_sublist_without key).cons_cons _, fun hpos => ?_⟩
  have hroom := h.room hpos
  show (((without key m'.entries).length + 1 : Nat) : Int) + m.limit ≤
    ((without key m.entries).length + 1 : Nat) + m'.limit
  omega

/-- Only the larger list has the entry and uses it. -/
theorem FitsIn.use_right {v' : V} (h : FitsIn m m') (hnone : m.value? key = none)
    (hv' : m'.value? key = some v') (w : V) : FitsIn m (m'.use key w) := by
  have hlength' := length_without h.tidy' hv'
  refine ⟨h.tidy, h.tidy'.use hv' w, h.limit_pos, (h.sublist_without hnone).cons _,
    fun hpos => ?_⟩
  have hroom := h.room hpos
  show (((without key m'.entries).length + 1 : Nat) : Int) + m.limit ≤
    m.entries.length + m'.limit
  omega

/-! ### Storing under a new key -/

/-- Only the larger list has the entry and uses it; the smaller one makes room for it. -/
theorem FitsIn.insert_use {v' : V} (h : FitsIn m m') (hnone : m.value? key = none)
    (hv' : m'.value? key = some v') (w : V) : FitsIn (m.insert key w) (m'.use key w) := by
  have hsub : ((key, w) :: m.entries).Sublist (m'.use key w).entries :=
    (h.sublist_without hnone).cons_cons _
  have hused : (m'.use key w).entries.length = m'.entries.length := length_without h.tidy' hv'
  have hlimit' : (m'.use key w).limit = m'.limit := rfl
  have htidy := h.tidy.insert hnone w
  have htidy' := h.tidy'.use hv' w
  have hpos := h.limit_pos
  have hroom := h.room
  obtain ⟨heq, _⟩ | ⟨heq, _⟩ := h.tidy.entries_insert key w
  · refine ⟨htidy, htidy', by rwa [limit_insert], by rwa [heq], fun hpos' => ?_⟩
    rw [limit_insert, hlimit', hused, heq, List.length_cons]
    omega
  · refine ⟨htidy, htidy', by rwa [limit_insert], ?_, fun hpos' => ?_⟩
    · rw [heq]
      exact (List.dropLast_sublist _).trans hsub
    · rw [limit_insert, hlimit', hused, heq, List.length_dropLast, List.length_cons]
      omega

/-- Neither list has the entry.  When the larger one is full, so is the smaller one. -/
theorem FitsIn.insert_insert (h : FitsIn m m') (hnone' : m'.value? key = none) (w : V) :
    FitsIn (m.insert key w) (m'.insert key w) := by
  have hpos := h.limit_pos
  have hsub : ((key, w) :: m.entries).Sublist ((key, w) :: m'.entries) := h.entries.cons_cons _
  have hroom := h.room
  have hle := h.tidy.length_le hpos
  have htidy := h.tidy.insert (h.value?_eq_none hnone') w
  have htidy' := h.tidy'.insert hnone' w
  obtain ⟨heq, hfree⟩ | ⟨heq, _, hfull⟩ := h.tidy.entries_insert key w
  · obtain ⟨heq', hfree'⟩ | ⟨heq', hpos', hfull'⟩ := h.tidy'.entries_insert key w
    · refine ⟨htidy, htidy', by rwa [limit_insert], by rw [heq, heq']; exact hsub, ?_⟩
      rw [limit_insert, limit_insert, heq, heq', List.length_cons, List.length_cons]
      omega
    · -- the smaller list has a place free, and so has the larger one
      have := hroom hpos'
      have := hfree hpos
      omega
  · obtain ⟨heq', hfree'⟩ | ⟨heq', hpos', hfull'⟩ := h.tidy'.entries_insert key w
    · refine ⟨htidy, htidy', by rwa [limit_insert], ?_, ?_⟩
      · rw [heq, heq']
        exact (List.dropLast_sublist _).trans hsub
      · rw [limit_insert, limit_insert, heq, heq', List.length_dropLast, List.length_cons,
          List.length_cons]
        omega
    · refine ⟨htidy, htidy', by rwa [limit_insert], ?_, ?_⟩
      · rw [heq, heq']
        exact dropLast_sublist_dropLast hsub
      · rw [limit_insert, limit_insert, heq, heq', List.length_dropLast, List.length_dropLast,
          List.length_cons, List.length_cons]
        omega

/-! ### Calls -/

/-- **Storing** keeps the inclusion. -/
theorem FitsIn.set (h : FitsIn m m') (key : K) (w : V) : FitsIn (m.set key w) (m'.set key w) := by
  unfold Recency.set
  cases hv : m.value? key with
  | some v =>
    rw [h.value? hv]
    exact h.use_use hv (h.value? hv) w
  | none =>
    cases hv' : m'.value? key with
    | some v' => exact h.insert_use hv hv' w
    | none => exact h.insert_insert hv' w

/-- **Looking up** keeps the inclusion. -/
theorem FitsIn.get (h : FitsIn m m') (key : K) : FitsIn (m.get key).2 (m'.get key).2 := by
  unfold Recency.get
  cases hv : m.value? key with
  | some v =>
    rw [h.value? hv]
    exact (h.use_use hv (h.value? hv) v).congr rfl rfl rfl rfl
  | none =>
    cases hv' : m'.value? key with
    | some v' => exact (h.use_right hv hv' v').congr rfl rfl rfl rfl
    | none => exact h.congr rfl rfl rfl rfl

/-- **Deleting** keeps the inclusion. -/
theorem FitsIn.delete (h : FitsIn m m') (key : K) :
    FitsIn (m.delete key).2 (m'.delete key).2 := by
  have htidy := h.tidy.delete key
  have htidy' := h.tidy'.delete key
  unfold Recency.delete at htidy htidy' ⊢
  cases hv : m.value? key with
  | some v =>
    rw [hv] at htidy
    rw [h.value? hv] at htidy' ⊢
    have hlength := length_without h.tidy hv
    have hlength' := length_without h.tidy' (h.value? hv)
    refine ⟨htidy, htidy', h.limit_pos, h.without_sublist_without key, fun hpos => ?_⟩
    have hroom := h.room hpos
    show ((without key m'.entries).length : Int) + m.limit ≤
      (without key m.entries).length + m'.limit
    omega
  | none =>
    cases hv' : m'.value? key with
    | some v' =>
      rw [hv'] at htidy'
      have hlength' := length_without h.tidy' hv'
      refine ⟨h.tidy, htidy', h.limit_pos, h.sublist_without hv, fun hpos => ?_⟩
      have hroom := h.room hpos
      show ((without key m'.entries).length : Int) + m.limit ≤ m.entries.length + m'.limit
      omega
    | none => exact h

omit [BEq K] [LawfulBEq K] in
/-- **Clearing** keeps the inclusion: all places are free again. -/
theorem FitsIn.clear (h : FitsIn m m') : FitsIn m.clear m'.clear := by
  refine ⟨h.tidy.clear, h.tidy'.clear, h.limit_pos, List.Sublist.refl [], fun hpos => ?_⟩
  have hroom := h.room hpos
  have hlength := h.entries.length_le
  show ((0 : Nat) : Int) + m.limit ≤ (0 : Nat) + m'.limit
  omega

/-- **One call** keeps the inclusion. -/
theorem FitsIn.perform (h : FitsIn m m') (call : CacheCall K V) :
    FitsIn (m.perform call) (m'.perform call) := by
  cases call with
  | get key => exact h.get key
  | set key value => exact h.set key value
  | delete key => exact h.delete key
  | clear => exact h.clear

/-- **Any sequence of calls** keeps the inclusion. -/
theorem FitsIn.after (h : FitsIn m m') (calls : List (CacheCall K V)) :
    FitsIn (m.after calls) (m'.after calls) := by
  induction calls generalizing m m' with
  | nil => exact h
  | cons call calls ih => exact ih (h.perform call)

end

end Recency

/-! ## The linked caches -/

namespace Lru

variable [BEq K] [Hashable K] [LawfulBEq K] [LawfulHashable K]

/-- Calls refine calls. -/
theorem StandsFor.after {c : Lru K V} {m : Recency K V} (h : StandsFor c m)
    (calls : List (CacheCall K V)) : StandsFor (c.after calls) (m.after calls) := by
  induction calls generalizing c m with
  | nil => exact h
  | cons call calls ih =>
    cases call with
    | get key => exact ih (h.get key).2
    | set key value => exact ih (h.set key value)
    | delete key => exact ih (h.delete key).2
    | clear => exact ih h.clear

/-- **Raising the limit never turns a hit into a miss.**  After the same calls the links of both
    caches are well formed, so each holds every entry that it lists once and no other; the entries
    of the cache with the lower limit are entries of the other one, with the same values and in the
    same order of use; and what is found in the first is found in the second. -/
theorem raised_limit (limit limit' : Int) (hpos : 0 < limit) (hle : limit ≤ limit' ∨ limit' ≤ 0)
    (calls : List (CacheCall K V)) :
    ((empty limit).after calls).WellFormed ∧ ((empty limit').after calls).WellFormed ∧
      ((empty limit).after calls).toList.Sublist ((empty limit').after calls).toList ∧
      ∀ key v, (((empty limit).after calls).get key).1 = some v →
        (((empty limit').after calls).get key).1 = some v := by
  have hsmall :
      StandsFor ((empty limit : Lru K V).after calls) ((Recency.empty limit).after calls) :=
    (standsFor_empty limit).after calls
  have hlarge : StandsFor ((empty limit' : Lru K V).after calls)
      ((Recency.empty limit').after calls) := (standsFor_empty limit').after calls
  have hfits := (Recency.fitsIn_empty (K := K) (V := V) hpos hle).after calls
  refine ⟨hsmall.wellFormed, hlarge.wellFormed, ?_, fun key v hv => ?_⟩
  · rw [hsmall.linked.toList_eq, hlarge.linked.toList_eq]
    exact hfits.entries
  · rw [get_fst, ← hsmall.value?_eq] at hv
    rw [get_fst, ← hlarge.value?_eq]
    exact hfits.value? hv

/-- Only a cache with three places finds the first entry again, and what is deleted was in both. -/
def lookups : List (CacheCall Nat Int) :=
  [.set 1 10, .set 2 20, .set 3 30, .get 1, .delete 3, .set 4 40]

/-- With two places the first entry is gone, and the others are found alike. -/
theorem raised_limit_lookups :
    ((empty 2).after lookups).toList = [(4, 40), (2, 20)] ∧
      ((empty 3).after lookups).toList = [(4, 40), (1, 10), (2, 20)] ∧
      (((empty 2).after lookups).get 2).1 = some 20 ∧
      (((empty 3).after lookups).get 2).1 = some 20 := by
  have hsmall := (standsFor_empty (K := Nat) (V := Int) 2).after lookups
  have hlarge := (standsFor_empty (K := Nat) (V := Int) 3).after lookups
  have hfound : (((empty 2 : Lru Nat Int).after lookups).get 2).1 = some 20 := by
    rw [get_fst, ← hsmall.value?_eq]
    rfl
  obtain ⟨_, _, _, hraised⟩ := raised_limit 2 3 (by decide) (Or.inl (by decide)) lookups
  refine ⟨?_, ?_, hfound, hraised 2 20 hfound⟩
  · rw [hsmall.linked.toList_eq]
    rfl
  · rw [hlarge.linked.toList_eq]
    rfl

end Lru

end KernelGraph
