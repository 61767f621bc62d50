/-
  The size of a permutation space, exact and wrapped.

  A vector that options are added to, one after the other, has counts of at least two, so its exact
  size is positive.  The size that programs are compiled by is a 64-bit word: it is the exact size
  reduced to the range of words (`toInt_count`), and equals it while the exact size fits.

  The id that option values are encoded to is below the exact size (`idOf_range`), as long as that
  size is the number of a word.
-/
import KernelGraph.Permutations
import Mathlib.Algebra.BigOperators.Group.List.Basic
import Mathlib.Algebra.Ring.Int.Defs
import Mathlib.Tactic.Linarith

namespace KernelGraph.PermutationVector

/-- The vectors that adding options leads to.  A copy of a vector is the vector itself. -/
inductive Reachable : PermutationVector → Prop
  | empty : Reachable empty
  | add {v : PermutationVector} (name : String) (count : Int64) :
      Reachable v → Reachable (v.add name count)
  | addBool {v : PermutationVector} (name : String) : Reachable v → Reachable (v.addBool name)
  | addAll {v : PermutationVector} (os : List PermutationOption) :
      Reachable v → Reachable (v.addAll os)

/-! ## Counts stay at least two -/

/-- Every option has at least two values. -/
def Proper (v : PermutationVector) : Prop := ∀ o ∈ v.options, 2 ≤ o.count.toInt

theorem toInt_max (a b : Int64) : (max a b).toInt = max a.toInt b.toInt := by
  show (if a ≤ b then b else a).toInt = _
  split
  · rename_i h
    rw [max_eq_right (Int64.le_iff_toInt_le.1 h)]
  · rename_i h
    rw [max_eq_left (Int.le_of_lt (Int64.lt_iff_toInt_lt.1 (Int64.not_le.1 h)))]

/-- An option of the list after an addition was there before, or has at least the added count. -/
theorem mem_addList {name : String} {count : Int64} {o : PermutationOption} :
    ∀ {os : List PermutationOption}, o ∈ addList name count os →
      o ∈ os ∨ count.toInt ≤ o.count.toInt := by
  intro os
  induction os with
  | nil =>
    intro h
    rw [addList, List.mem_singleton] at h
    subst h
    exact Or.inr (Int.le_refl _)
  | cons p ps ih =>
    intro h
    rw [addList] at h
    split at h
    · rcases List.mem_cons.1 h with rfl | h
      · exact Or.inr (by rw [toInt_max]; exact le_max_right _ _)
      · exact Or.inl (List.mem_cons_of_mem p h)
    · rcases List.mem_cons.1 h with rfl | h
      · exact Or.inl (List.mem_cons_self ..)
      · exact (ih h).imp_left (List.mem_cons_of_mem p)

theorem Proper.add {v : PermutationVector} (hv : v.Proper) (name : String) (count : Int64) :
    (v.add name count).Proper := by
  intro o ho
  rcases mem_addList ho with h | h
  · exact hv o h
  · rw [toInt_max] at h
    exact Int.le_trans (le_max_right _ _) h

theorem Proper.addAll {v : PermutationVector} (hv : v.Proper) (os : List PermutationOption) :
    (v.addAll os).Proper := by
  induction os generalizing v with
  | nil => exact hv
  | cons o os ih => exact ih (hv.add o.name o.count)

theorem Reachable.proper {v : PermutationVector} (h : Reachable v) : v.Proper := by
  induction h with
  | empty => intro o ho; cases ho
  | add name count _ ih => exact ih.add name count
  | addBool name _ ih => exact ih.add name 2
  | addAll os _ ih => exact ih.addAll os

/-! ## The exact size and the wrapped one -/

/-- Multiplying the counts onto `n`: the running products of both sizes. -/
theorem foldl_count_eq (os : List PermutationOption) (n : Int) :
    os.foldl (fun n o => n * o.count.toInt) n = n * (os.map fun o => o.count.toInt).prod := by
  induction os generalizing n with
  | nil => simp
  | cons o os ih =>
    rw [List.foldl_cons, ih, List.map_cons, List.prod_cons, mul_assoc]

theorem exactCount_eq_prod (v : PermutationVector) :
    v.exactCount = (v.options.map fun o => o.count.toInt).prod := by
  rw [exactCount, foldl_count_eq, one_mul]

theorem one_le_prod {os : List PermutationOption} (h : ∀ o ∈ os, 1 ≤ o.count.toInt) :
    1 ≤ (os.map fun o => o.count.toInt).prod := by
  induction os with
  | nil => simp
  | cons o os ih =>
    rw [List.map_cons, List.prod_cons]
    have ho := h o (List.mem_cons_self ..)
    have hos := ih fun p hp => h p (List.mem_cons_of_mem o hp)
    nlinarith

/-- A space of options with at least two values each is not empty. -/
theorem Proper.one_le_exactCount {v : PermutationVector} (hv : v.Proper) : 1 ≤ v.exactCount := by
  rw [exactCount_eq_prod]
  exact one_le_prod fun o ho => Int.le_trans (by decide) (hv o ho)

/-- **The wrapped size is the exact size modulo 2^64**, read as a signed word. -/
theorem toInt_count (v : PermutationVector) : v.count.toInt = v.exactCount.bmod (2 ^ 64) := by
  -- both folds at once: the word stays the running product, reduced
  have aux : ∀ (os : List PermutationOption) (w : Int64) (n : Int), w.toInt = n.bmod (2 ^ 64) →
      (os.foldl (fun n o => n * o.count) w).toInt =
        (os.foldl (fun n o => n * o.count.toInt) n).bmod (2 ^ 64) := by
    intro os
    induction os with
    | nil => intro w n h; exact h
    | cons o os ih =>
      intro w n h
      refine ih _ _ ?_
      rw [Int64.toInt_mul, h, Int.bmod_mul_bmod]
  exact aux v.options 1 1 (by decide)

/-- A size in the range of words is not wrapped. -/
theorem toInt_count_of_lt {v : PermutationVector} (h0 : 0 ≤ v.exactCount)
    (h : v.exactCount < 2 ^ 63) : v.count.toInt = v.exactCount := by
  rw [toInt_count]
  exact Int.bmod_eq_of_le (by omega) (by omega)

/-! ## Ids are below the size -/

/-- Only options with a positive count accept a value. -/
theorem one_le_of_encode {values : List (String × Int64)} {id : Int64} :
    ∀ {os : List PermutationOption} {start stride : Int64},
      encode values os start stride = .ok id → ∀ o ∈ os, 1 ≤ o.count.toInt := by
  intro os
  induction os with
  | nil => intro _ _ _ o ho; cases ho
  | cons p ps ih =>
    intro start stride h o ho
    simp only [encode] at h
    split at h
    · cases h
    · rename_i hr
      rw [Bool.or_eq_true, decide_eq_true_eq, decide_eq_true_eq, not_or, Int64.not_lt,
        Int64.not_le, Int64.le_iff_toInt_le, Int64.lt_iff_toInt_lt] at hr
      rcases List.mem_cons.1 ho with rfl | ho
      · have h0 : (0 : Int64).toInt = 0 := rfl
        omega
      · exact ih h o ho

/-- The encoding loop without wrapping: below the stride before, below the product after. -/
theorem encode_range {values : List (String × Int64)} {id : Int64} :
    ∀ {os : List PermutationOption} {start stride : Int64},
      encode values os start stride = .ok id → 0 ≤ start.toInt → start.toInt < stride.toInt →
      stride.toInt * (os.map fun o => o.count.toInt).prod < 2 ^ 63 →
      0 ≤ id.toInt ∧ id.toInt < stride.toInt * (os.map fun o => o.count.toInt).prod := by
  intro os
  induction os with
  | nil =>
    intro start stride h h0 hlt _
    cases h
    simpa using ⟨h0, hlt⟩
  | cons o os ih =>
    intro start stride h h0 hlt hprod
    have hos : 1 ≤ (os.map fun o => o.count.toInt).prod :=
      one_le_prod fun p hp => one_le_of_encode h p (List.mem_cons_of_mem o hp)
    rw [List.map_cons, List.prod_cons, ← mul_assoc] at hprod ⊢
    simp only [encode] at h
    split at h
    · cases h
    · rename_i hr
      rw [Bool.or_eq_true, decide_eq_true_eq, decide_eq_true_eq, not_or, Int64.not_lt,
        Int64.not_le, Int64.le_iff_toInt_le, Int64.lt_iff_toInt_lt] at hr
      obtain ⟨hv0, hv⟩ := hr
      have hzero : (0 : Int64).toInt = 0 := rfl
      rw [hzero] at hv0
      -- the new stride and the new start stay below the final product, so nothing wraps
      have hstride : stride.toInt * o.count.toInt < 2 ^ 63 := by nlinarith
      have hdigit : (selected values o.name).toInt * stride.toInt + stride.toInt ≤
          stride.toInt * o.count.toInt := by nlinarith
      have hdigit0 : 0 ≤ (selected values o.name).toInt * stride.toInt :=
        mul_nonneg hv0 (by omega)
      have hmul : (stride * o.count).toInt = stride.toInt * o.count.toInt := by
        rw [Int64.toInt_mul]
        exact Int.bmod_eq_of_le (by omega) (by omega)
      have hval : (selected values o.name * stride).toInt =
          (selected values o.name).toInt * stride.toInt := by
        rw [Int64.toInt_mul]
        exact Int.bmod_eq_of_le (by omega) (by omega)
      have hadd : (start + selected values o.name * stride).toInt =
          start.toInt + (selected values o.name).toInt * stride.toInt := by
        rw [Int64.toInt_add, hval]
        exact Int.bmod_eq_of_le (by omega) (by omega)
      have := ih h (by omega) (by omega) (by rw [hmul]; exact hprod)
      rwa [hmul] at this

/-- An accepted assignment has an id below the size of the space. -/
theorem idOf_range {v : PermutationVector} {values : List (String × Int64)} {id : Int64}
    (h : v.idOf values = .ok id) (hsize : v.exactCount < 2 ^ 63) :
    0 ≤ id.toInt ∧ id.toInt < v.exactCount := by
  rw [idOf] at h
  split at h
  · cases h
  · rw [exactCount_eq_prod] at hsize ⊢
    have := encode_range h (by decide) (by decide) (by simpa using hsize)
    simpa using this

/-! ## Ids at or above the limit -/

/-- The names of the options. -/
def names (os : List PermutationOption) : List String := os.map PermutationOption.name

/-- The names after an addition: the old ones, and the new one behind them if it is new. -/
theorem names_addList (name : String) (count : Int64) (os : List PermutationOption) :
    names (addList name count os) = if name ∈ names os then names os else names os ++ [name] := by
  induction os with
  | nil => rfl
  | cons o os ih =>
    rw [addList]
    by_cases h : o.name = name
    · simp [names, h]
    · rw [if_neg h, names, List.map_cons, ← names, ih]
      by_cases hmem : name ∈ names os
      · have hcons : name ∈ names (o :: os) := List.mem_cons_of_mem _ hmem
        rw [if_pos hmem, if_pos hcons]
        rfl
      · have hcons : name ∉ names (o :: os) := fun hcons =>
          (List.mem_cons.1 hcons).elim (fun heq => h heq.symm) hmem
        rw [if_neg hmem, if_neg hcons]
        rfl

theorem nodup_addAll {v : PermutationVector} (h : (names v.options).Nodup)
    (os : List PermutationOption) : (names (v.addAll os).options).Nodup := by
  have hadd : ∀ {v : PermutationVector} (name : String) (count : Int64),
      (names v.options).Nodup → (names (v.add name count).options).Nodup := by
    intro v name count h
    rw [add, names_addList]
    split
    · exact h
    · rename_i hname
      rw [List.nodup_append]
      refine ⟨h, by simp, fun a ha b hb hab => hname ?_⟩
      rwa [← List.mem_singleton.1 hb, ← hab]
  induction os generalizing v with
  | nil => exact h
  | cons o os ih => exact ih (hadd o.name o.count h)

theorem Reachable.nodup {v : PermutationVector} (h : Reachable v) : (names v.options).Nodup := by
  induction h with
  | empty => exact List.nodup_nil
  | add name count _ ih => exact nodup_addAll ih [⟨name, count⟩]
  | addBool name _ ih => exact nodup_addAll ih [⟨name, 2⟩]
  | addAll os _ ih => exact nodup_addAll ih os

/-- Digits of zero add nothing. -/
theorem encode_zero {values : List (String × Int64)} {os : List PermutationOption}
    (h : ∀ o ∈ os, selected values o.name = 0 ∧ 1 ≤ o.count.toInt) (start stride : Int64) :
    encode values os start stride = .ok start := by
  induction os generalizing stride with
  | nil => rfl
  | cons o os ih =>
    obtain ⟨hzero, hcount⟩ := h o (List.mem_cons_self ..)
    have haccept : (decide ((0 : Int64) < 0) || decide (o.count ≤ 0)) = false := by
      have hpos : ¬ o.count ≤ 0 := by
        rw [Int64.le_iff_toInt_le]
        have : (0 : Int64).toInt = 0 := rfl
        omega
      simp [hpos]
    simp only [encode, hzero, haccept]
    rw [Int64.zero_mul, Int64.add_zero]
    exact ih (fun p hp => h p (List.mem_cons_of_mem o hp)) _

/-- A value for an option is not read for options of other names. -/
theorem encode_cons_of_notMem {name : String} {value : Int64} {values : List (String × Int64)}
    {os : List PermutationOption} (h : name ∉ names os) (start stride : Int64) :
    encode ((name, value) :: values) os start stride = encode values os start stride := by
  induction os generalizing start stride with
  | nil => rfl
  | cons o os ih =>
    have hne : o.name ≠ name := fun heq => h (by simp [names, heq])
    have hselected : selected ((name, value) :: values) o.name = selected values o.name := by
      rw [selected, List.lookup_cons, beq_false_of_ne hne]
      rfl
    have hrest : name ∉ names os := fun hmem => h (List.mem_cons_of_mem _ hmem)
    simp only [encode, hselected]
    split
    · rfl
    · exact ih hrest _ _

/-- The first digit is taken, and the others follow. -/
theorem encode_cons_of_mem {o : PermutationOption} {value : Int64} {values : List (String × Int64)}
    {os : List PermutationOption} (h : o.name ∉ names os) (h0 : 0 ≤ value.toInt)
    (hlt : value.toInt < o.count.toInt) (start stride : Int64) :
    encode ((o.name, value) :: values) (o :: os) start stride =
      encode values os (start + value * stride) (stride * o.count) := by
  have hselected : selected ((o.name, value) :: values) o.name = value := by
    rw [selected, List.lookup_cons, beq_self_eq_true]
    rfl
  have haccept : (decide (value < 0) || decide (o.count ≤ value)) = false := by
    have h1 : ¬ value < 0 := by
      rw [Int64.lt_iff_toInt_lt]
      exact Int.not_lt.2 h0
    have h2 : ¬ o.count ≤ value := by
      rw [Int64.le_iff_toInt_le]
      exact Int.not_le.2 hlt
    simp [h1, h2]
  simp only [encode, hselected, haccept]
  exact encode_cons_of_notMem h _ _

/-- A digit of at most 64 at a stride of at most 64 wraps nothing. -/
theorem toInt_add_mul {start value stride : Int64} (h0 : 0 ≤ value.toInt)
    (hvalue : value.toInt ≤ 64) (hone : 1 ≤ stride.toInt) (hstride : stride.toInt ≤ 64)
    (hstart : start.toInt = stride.toInt - 1) :
    (start + value * stride).toInt = (value.toInt + 1) * stride.toInt - 1 := by
  have hbound : value.toInt * stride.toInt ≤ 64 * 64 := by nlinarith
  have hnonneg : 0 ≤ value.toInt * stride.toInt := by nlinarith
  have hmul : (value * stride).toInt = value.toInt * stride.toInt := by
    rw [Int64.toInt_mul]
    exact Int.bmod_eq_of_le (by omega) (by omega)
  rw [Int64.toInt_add, hmul, hstart, Int.bmod_eq_of_le (by omega) (by omega), Int.add_mul]
  omega

/-- **Some assignment has an id of 64 or more**, if more than 64 permutations are left from a stride
    of at most 64 on. -/
theorem exists_encode_ge : ∀ {os : List PermutationOption}, (∀ o ∈ os, 2 ≤ o.count.toInt) →
    (names os).Nodup → ∀ {start stride : Int64}, 1 ≤ stride.toInt → stride.toInt ≤ 64 →
    start.toInt = stride.toInt - 1 → 64 < stride.toInt * (os.map fun o => o.count.toInt).prod →
    ∃ values id, (∀ e ∈ values, e.1 ∈ names os) ∧ encode values os start stride = .ok id ∧
      64 ≤ id.toInt := by
  intro os
  induction os with
  | nil =>
    intro _ _ start stride _ hle _ hlt
    rw [List.map_nil, List.prod_nil] at hlt
    omega
  | cons o os ih =>
    intro hcounts hnodup start stride hone hle hstart hlt
    have hcount := hcounts o (List.mem_cons_self ..)
    have hrest : ∀ p ∈ os, 2 ≤ p.count.toInt := fun p hp => hcounts p (List.mem_cons_of_mem o hp)
    obtain ⟨hname, hnodup⟩ := List.nodup_cons.1 hnodup
    rw [List.map_cons, List.prod_cons, ← mul_assoc] at hlt
    have hlargest : (o.count - 1).toInt = o.count.toInt - 1 := by
      have hmax := o.count.toInt_lt
      have h1 : (1 : Int64).toInt = 1 := rfl
      rw [Int64.toInt_sub, h1]
      exact Int.bmod_eq_of_le (by omega) (by omega)
    -- a single digit of this option, the others zero
    have hsingle : ∀ value : Int64, 0 ≤ value.toInt → value.toInt < o.count.toInt →
        encode [(o.name, value)] (o :: os) start stride = .ok (start + value * stride) := by
      intro value h0 hvalue
      rw [encode_cons_of_mem hname h0 hvalue]
      exact encode_zero (fun p hp => ⟨rfl, by have := hrest p hp; omega⟩) _ _
    rcases Int.lt_or_le 64 (o.count.toInt - 1) with hwide | hnarrow
    · -- the option alone has an id of 64, which no digit before it can wrap
      have h64 : (64 : Int64).toInt = 64 := rfl
      refine ⟨[(o.name, 64)], _, by simp [names], hsingle 64 (by omega) (by omega), ?_⟩
      rw [toInt_add_mul (by omega) (by omega) hone hle hstart, h64]
      nlinarith
    · have hid : (start + (o.count - 1) * stride).toInt = o.count.toInt * stride.toInt - 1 := by
        rw [toInt_add_mul (by omega) (by omega) hone hle hstart, hlargest, Int.sub_add_cancel]
      rcases Int.lt_or_le 64 (o.count.toInt * stride.toInt) with hbig | hsmall
      · refine ⟨[(o.name, o.count - 1)], _, by simp [names], hsingle _ (by omega) (by omega), ?_⟩
        omega
      · -- the largest digit, and the rest from the options that follow
        have hpos : 1 ≤ o.count.toInt * stride.toInt := by nlinarith
        have hstride : (stride * o.count).toInt = o.count.toInt * stride.toInt := by
          rw [Int64.toInt_mul, mul_comm]
          exact Int.bmod_eq_of_le (by omega) (by omega)
        rw [mul_comm stride.toInt, ← hstride] at hlt
        obtain ⟨values, id, hnames, hencode, h64⟩ := ih hrest hnodup
          (by omega) (by omega) (by rw [hid, hstride]) hlt
        refine ⟨(o.name, o.count - 1) :: values, id, ?_, ?_, h64⟩
        · intro e he
          rcases List.mem_cons.1 he with rfl | he
          · exact List.mem_cons_self ..
          · exact List.mem_cons_of_mem _ (hnames e he)
        · rw [encode_cons_of_mem hname (by omega) (by omega)]
          exact hencode

/-- A space of more than 64 permutations accepts values whose id is 64 or more. -/
theorem Reachable.exists_idOf_ge {v : PermutationVector} (hv : v.Reachable)
    (hsize : 64 < v.exactCount) : ∃ values id, v.idOf values = .ok id ∧ 64 ≤ id.toInt := by
  have hprod : 64 < (1 : Int64).toInt * (v.options.map fun o => o.count.toInt).prod := by
    rwa [exactCount_eq_prod, ← one_mul (List.prod _)] at hsize
  have hzero : (0 : Int64).toInt = (1 : Int64).toInt - 1 := rfl
  obtain ⟨values, id, hnames, hencode, hid⟩ :=
    exists_encode_ge hv.proper hv.nodup (by decide) (by decide) hzero hprod
  refine ⟨values, id, ?_, hid⟩
  have hknown : (values.find? fun e => !v.options.any fun o => o.name = e.1) = none := by
    rw [List.find?_eq_none]
    intro e hmem
    obtain ⟨o, ho, hname⟩ := List.mem_map.1 (hnames _ hmem)
    simpa using ⟨o, ho, hname⟩
  rw [idOf]
  split
  · rename_i hfound
    cases hknown.symm.trans hfound
  · exact hencode

end KernelGraph.PermutationVector
