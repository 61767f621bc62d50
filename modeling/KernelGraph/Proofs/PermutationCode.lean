/-
  Permutation ids as a code.

  The option values of a permutation are the digits of its id.  Reading the digits of an id and
  encoding them again gives the id back (`encode_digits`), also in a space whose size is wrapped:
  an id that is accepted is below the wrapped size, and so below the exact one.  The other way
  round, an accepted assignment is read off its id (`decode_total`) as long as the exact size is the
  number of a word.
-/
import KernelGraph.Proofs.Permutations
import Mathlib

namespace KernelGraph

/-- The name of a definition with the word that its value is the decimal text of, if it is one. -/
def Define.word? (d : Define) : Option (String × Int64) :=
  d.value.toInt?.bind fun n =>
    if (Int64.ofInt n).toInt = n then some (d.name, Int64.ofInt n) else none

/-- The decimal text of a word is read as that word. -/
theorem Define.word?_toString (name : String) (w : Int64) :
    Define.word? ⟨name, toString w.toInt⟩ = some (name, w) := by
  have hread : (toString w.toInt).toInt? = some w.toInt := Int.toInt?_repr w.toInt
  rw [word?, hread, Option.bind_some, Int64.ofInt_toInt, if_pos rfl]

namespace PermutationVector

/-! ## Quotients and remainders of words -/

section
variable {x c : Int64} (hx : 0 ≤ x.toInt) (hc : 1 ≤ c.toInt)
include hx

theorem toInt_mod_of_nonneg : (x % c).toInt = x.toInt % c.toInt := by
  rw [Int64.toInt_mod, Int.tmod_eq_emod_of_nonneg hx]

include hc

theorem toInt_div_of_nonneg : (x / c).toInt = x.toInt / c.toInt := by
  have hle : x.toInt / c.toInt ≤ x.toInt := Int.ediv_le_self _ hx
  have h0 : 0 ≤ x.toInt / c.toInt := Int.ediv_nonneg hx (by omega)
  have hlt := x.toInt_lt
  rw [Int64.toInt_div, Int.tdiv_eq_ediv_of_nonneg hx]
  exact Int.bmod_eq_of_le (by omega) (by omega)

/-- A word is its last digit and the quotient times the radix. -/
theorem mod_add_div_mul : x % c + x / c * c = x := by
  have hexact : (x % c).toInt + (x / c).toInt * c.toInt = x.toInt := by
    rw [toInt_mod_of_nonneg hx, toInt_div_of_nonneg hx hc, mul_comm]
    exact Int.emod_add_mul_ediv ..
  apply Int64.toInt_inj.1
  rw [Int64.toInt_add, Int64.toInt_mul, Int.add_bmod_bmod, hexact]
  exact Int64.toInt_bmod x

end

/-! ## From an id to its digits and back -/

/-- The digits of an id by the name of their option. -/
def digits : List PermutationOption → Int64 → List (String × Int64)
  | [], _ => []
  | o :: os, id => (o.name, id % o.count) :: digits os (id / o.count)

theorem map_fst_digits (os : List PermutationOption) (id : Int64) :
    (digits os id).map Prod.fst = names os := by
  induction os generalizing id with
  | nil => rfl
  | cons o os ih =>
    rw [digits, List.map_cons, ih]
    rfl

/-- The definitions of an id are read back as its digits. -/
theorem mapM_word?_decode (os : List PermutationOption) (id : Int64) :
    (decode os id).mapM Define.word? = some (digits os id) := by
  induction os generalizing id with
  | nil => rfl
  | cons o os ih =>
    rw [decode, List.mapM_cons, Define.word?_toString, ih]
    rfl

/-- **The digits of an id encode to the id**, in words that may wrap: only the id itself has to be
    below the product of the counts. -/
theorem encode_digits : ∀ {os : List PermutationOption} {id : Int64},
    (∀ o ∈ os, 2 ≤ o.count.toInt) → (names os).Nodup → 0 ≤ id.toInt →
    id.toInt < (os.map fun o => o.count.toInt).prod → ∀ start stride : Int64,
    encode (digits os id) os start stride = .ok (start + id * stride) := by
  intro os
  induction os with
  | nil =>
    intro id _ _ h0 hlt start stride
    have hzero : id = 0 := by
      apply Int64.toInt_inj.1
      rw [List.map_nil, List.prod_nil] at hlt
      have : (0 : Int64).toInt = 0 := rfl
      omega
    rw [digits, encode, hzero, Int64.zero_mul, Int64.add_zero]
  | cons o os ih =>
    intro id hcounts hnodup h0 hlt start stride
    obtain ⟨hname, hnodup⟩ := List.nodup_cons.1 hnodup
    have hcount : 1 ≤ o.count.toInt := by
      have := hcounts o (List.mem_cons_self ..)
      omega
    have hmod := toInt_mod_of_nonneg (c := o.count) h0
    have hdiv := toInt_div_of_nonneg h0 hcount
    -- the first digit is below its count, and the quotient below the product of the others
    have hdigit0 : 0 ≤ (id % o.count).toInt := by
      rw [hmod]
      exact Int.emod_nonneg _ (by omega)
    have hdigit : (id % o.count).toInt < o.count.toInt := by
      rw [hmod]
      exact Int.emod_lt_of_pos _ (by omega)
    have hquotient0 : 0 ≤ (id / o.count).toInt := by
      rw [hdiv]
      exact Int.ediv_nonneg h0 (by omega)
    have hquotient : (id / o.count).toInt < (os.map fun o => o.count.toInt).prod := by
      rw [hdiv]
      rw [List.map_cons, List.prod_cons, mul_comm] at hlt
      exact Int.ediv_lt_of_lt_mul (by omega) hlt
    rw [digits, encode_cons_of_mem hname hdigit0 hdigit,
      ih (fun p hp => hcounts p (List.mem_cons_of_mem o hp)) hnodup hquotient0 hquotient]
    have hid := mod_add_div_mul h0 hcount
    congr 1
    grind

/-! ## From an assignment to its id and back -/

/-- The number that the selected digits stand for, without wrapping. -/
def total (values : List (String × Int64)) : List PermutationOption → Int
  | [] => 0
  | o :: os => (selected values o.name).toInt + total values os * o.count.toInt

section
variable {values : List (String × Int64)}

/-- What an accepted encoding is made of. -/
theorem encode_eq_ok : ∀ {os : List PermutationOption} {start stride id : Int64},
    encode values os start stride = .ok id →
    (∀ o ∈ os, 0 ≤ (selected values o.name).toInt ∧
      (selected values o.name).toInt < o.count.toInt) ∧
    id = start + Int64.ofInt (total values os) * stride := by
  intro os
  induction os with
  | nil =>
    intro start stride id h
    cases h
    refine ⟨fun o ho => absurd ho List.not_mem_nil, ?_⟩
    show start = start + 0 * stride
    rw [Int64.zero_mul, Int64.add_zero]
  | cons o os ih =>
    intro start stride id h
    simp only [encode] at h
    split at h
    · cases h
    · rename_i hr
      rw [Bool.or_eq_true, decide_eq_true_eq, decide_eq_true_eq, not_or, Int64.not_lt,
        Int64.not_le, Int64.le_iff_toInt_le, Int64.lt_iff_toInt_lt] at hr
      obtain ⟨hrest, hid⟩ := ih h
      refine ⟨fun p hp => ?_, ?_⟩
      · rcases List.mem_cons.1 hp with rfl | hp
        · exact hr
        · exact hrest p hp
      · have htotal : Int64.ofInt (total values (o :: os)) =
            selected values o.name + Int64.ofInt (total values os) * o.count := by
          rw [total, Int64.ofInt_add, Int64.ofInt_mul, Int64.ofInt_toInt, Int64.ofInt_toInt]
        rw [hid, htotal]
        grind

variable {os : List PermutationOption}
  (h : ∀ o ∈ os, 0 ≤ (selected values o.name).toInt ∧
    (selected values o.name).toInt < o.count.toInt)
include h

/-- Digits below their counts stand for a number below the product of the counts. -/
theorem total_range : 0 ≤ total values os ∧
    total values os < (os.map fun o => o.count.toInt).prod := by
  induction os with
  | nil => simp [total]
  | cons o os ih =>
    obtain ⟨h0, hlt⟩ := h o (List.mem_cons_self ..)
    obtain ⟨ih0, ihlt⟩ := ih fun p hp => h p (List.mem_cons_of_mem o hp)
    rw [total, List.map_cons, List.prod_cons]
    constructor
    · have := mul_nonneg ih0 (show 0 ≤ o.count.toInt by omega)
      omega
    · nlinarith

/-- **The digits are read off the number** that they stand for, if it is the number of a word. -/
theorem decode_total (hsize : (os.map fun o => o.count.toInt).prod < 2 ^ 63) :
    decode os (Int64.ofInt (total values os)) =
      os.map fun o => ⟨o.name, toString (selected values o.name).toInt⟩ := by
  induction os with
  | nil => rfl
  | cons o os ih =>
    have hrest : ∀ p ∈ os, 0 ≤ (selected values p.name).toInt ∧
        (selected values p.name).toInt < p.count.toInt :=
      fun p hp => h p (List.mem_cons_of_mem o hp)
    obtain ⟨h0, hlt⟩ := h o (List.mem_cons_self ..)
    obtain ⟨htotal0, htotal⟩ := total_range h
    obtain ⟨hothers0, hothers⟩ := total_range hrest
    have hcount : 1 ≤ o.count.toInt := by omega
    have hprod : (os.map fun o => o.count.toInt).prod < 2 ^ 63 := by
      rw [List.map_cons, List.prod_cons] at hsize
      nlinarith
    -- nothing wraps, neither the number nor its quotient
    have hword : (Int64.ofInt (total values (o :: os))).toInt = total values (o :: os) :=
      Int64.toInt_ofInt_of_le (by omega) (by omega)
    have hquotient : (Int64.ofInt (total values os)).toInt = total values os :=
      Int64.toInt_ofInt_of_le (by omega) (by omega)
    have hword0 : 0 ≤ (Int64.ofInt (total values (o :: os))).toInt := by rwa [hword]
    have hmod : Int64.ofInt (total values (o :: os)) % o.count = selected values o.name := by
      apply Int64.toInt_inj.1
      rw [toInt_mod_of_nonneg hword0, hword, total, Int.add_mul_emod_self_right,
        Int.emod_eq_of_lt h0 hlt]
    have hdiv : Int64.ofInt (total values (o :: os)) / o.count =
        Int64.ofInt (total values os) := by
      apply Int64.toInt_inj.1
      rw [toInt_div_of_nonneg hword0 hcount, hword, hquotient, total,
        Int.add_mul_ediv_right _ _ (by omega), Int.ediv_eq_zero_of_lt h0 hlt, Int.zero_add]
    rw [decode, hmod, hdiv, ih hrest hprod, List.map_cons]

end

/-! ## Ids and assignments -/

/-- An assignment is accepted if it names options only and its digits can be encoded. -/
theorem idOf_eq_ok {v : PermutationVector} {values : List (String × Int64)} {id : Int64} :
    v.idOf values = .ok id ↔
      (∀ e ∈ values, e.1 ∈ names v.options) ∧ encode values v.options 0 1 = .ok id := by
  have hknown : (values.find? fun e => !v.options.any fun o => o.name = e.1) = none ↔
      ∀ e ∈ values, e.1 ∈ names v.options := by
    rw [List.find?_eq_none]
    simp [names]
  rw [idOf]
  constructor
  · intro h
    split at h
    · cases h
    · exact ⟨hknown.1 (by assumption), h⟩
  · rintro ⟨hnames, hencode⟩
    split
    · rename_i hfound
      cases (hknown.2 hnames).symm.trans hfound
    · exact hencode

/-- A name that is not an option has no value in an accepted assignment. -/
theorem selected_of_notMem {v : PermutationVector} {values : List (String × Int64)} {name : String}
    (h : ∀ e ∈ values, e.1 ∈ names v.options) (hname : name ∉ names v.options) :
    selected values name = 0 := by
  have hnone : values.lookup name = none := by
    rw [List.lookup_eq_none_iff]
    intro e he
    rw [bne_iff_ne]
    rintro rfl
    exact hname (h e he)
  rw [selected, hnone]
  rfl

/-- Two lists that give every name the same value are one assignment. -/
theorem idOf_congr {v : PermutationVector} {values values' : List (String × Int64)} {id : Int64}
    (hsame : ∀ name, values'.lookup name = values.lookup name) (h : v.idOf values = .ok id) :
    v.idOf values' = .ok id := by
  have hselected : ∀ name, selected values' name = selected values name := by
    intro name
    rw [selected, selected, hsame]
  have hencode : ∀ (os : List PermutationOption) (start stride : Int64),
      encode values' os start stride = encode values os start stride := by
    intro os
    induction os with
    | nil => intro start stride; rfl
    | cons o os ih =>
      intro start stride
      simp only [encode, hselected, ih]
  obtain ⟨hnames, hok⟩ := idOf_eq_ok.1 h
  refine idOf_eq_ok.2 ⟨fun e he => ?_, by rw [hencode]; exact hok⟩
  -- a name in the one list is a name in the other
  by_contra hname
  have hnone : values.lookup e.1 = none := by
    rw [List.lookup_eq_none_iff]
    intro e' he'
    rw [bne_iff_ne]
    intro heq
    exact hname (heq ▸ hnames e' he')
  rw [← hsame, List.lookup_eq_none_iff] at hnone
  exact absurd rfl (bne_iff_ne.1 (hnone e he))

/-- An id that is accepted is below the exact size. -/
theorem Reachable.lt_exactCount {v : PermutationVector} (hv : v.Reachable) {id : Int64}
    (hlt : id.toInt < v.count.toInt) : id.toInt < v.exactCount := by
  have hone := hv.proper.one_le_exactCount
  have hword : v.count.toInt ≤ v.exactCount := by
    rw [toInt_count, Int.bmod_eq_emod]
    split <;> omega
  omega

/-- Which ids have option values. -/
theorem values_eq_ok {v : PermutationVector} {id : Int64} {ds : List Define} :
    v.values id = .ok ds ↔
      (0 ≤ id.toInt ∧ id.toInt < v.count.toInt) ∧ ds = decode v.options id := by
  have hzero : (0 : Int64).toInt = 0 := rfl
  have hrange : (decide (id < 0) || decide (v.count ≤ id)) = true ↔
      ¬ (0 ≤ id.toInt ∧ id.toInt < v.count.toInt) := by
    rw [Bool.or_eq_true, decide_eq_true_eq, decide_eq_true_eq, Int64.lt_iff_toInt_lt,
      Int64.le_iff_toInt_le, hzero]
    omega
  rw [values]
  split
  · rename_i h
    constructor
    · intro hok; cases hok
    · rintro ⟨hid, _⟩
      exact absurd hid (hrange.1 h)
  · rename_i h
    have hid := Decidable.not_not.1 fun hid => h (hrange.2 hid)
    constructor
    · intro hok; cases hok
      exact ⟨hid, rfl⟩
    · rintro ⟨_, rfl⟩
      rfl

/-- The digits of an accepted id are an assignment with that id. -/
theorem Reachable.idOf_digits {v : PermutationVector} (hv : v.Reachable) {id : Int64}
    (h0 : 0 ≤ id.toInt) (hlt : id.toInt < v.count.toInt) :
    v.idOf (digits v.options id) = .ok id := by
  have hexact := hv.lt_exactCount hlt
  rw [exactCount_eq_prod] at hexact
  have hencode := encode_digits hv.proper hv.nodup h0 hexact 0 1
  rw [Int64.mul_one, Int64.zero_add] at hencode
  refine idOf_eq_ok.2 ⟨fun e he => ?_, hencode⟩
  rw [← map_fst_digits v.options id]
  exact List.mem_map_of_mem he

/-- The id of an assignment stands for the assignment's digits. -/
theorem values_of_idOf {v : PermutationVector} {values : List (String × Int64)} {id : Int64}
    (h : v.idOf values = .ok id) (hsize : v.exactCount < 2 ^ 63) :
    (0 ≤ id ∧ id < v.count) ∧
      v.values id = .ok (v.options.map fun o =>
        ⟨o.name, toString (selected values o.name).toInt⟩) := by
  obtain ⟨h0, hlt⟩ := idOf_range h hsize
  have hcount := toInt_count_of_lt (by omega) hsize
  obtain ⟨_, hencode⟩ := idOf_eq_ok.1 h
  obtain ⟨hdigits, hid⟩ := encode_eq_ok hencode
  rw [Int64.zero_add, Int64.mul_one] at hid
  rw [exactCount_eq_prod] at hsize
  have hdecode := decode_total hdigits hsize
  rw [← hid] at hdecode
  refine ⟨⟨Int64.le_iff_toInt_le.2 h0, Int64.lt_iff_toInt_lt.2 (by omega)⟩, ?_⟩
  exact values_eq_ok.2 ⟨⟨h0, by omega⟩, hdecode.symm⟩

/-- **Ids and assignments are inverse codings.**  The definitions of every accepted id, read as
    numbers, are an assignment with that id, in whatever order it lists them; this holds of wrapped
    spaces too.  While the exact size is below 2^63, the id of every accepted assignment is below
    the size and has the assigned values, options that are not named having 0, so that two
    assignments with one id give every name the same value. -/
theorem Reachable.values_idOf_inverse {v : PermutationVector} (hv : v.Reachable) :
    (∀ id ds, v.values id = .ok ds →
      ∃ values, ds.mapM Define.word? = some values ∧
        ∀ values', (∀ name, values'.lookup name = values.lookup name) →
          v.idOf values' = .ok id) ∧
    (v.exactCount < 2 ^ 63 → ∀ values id, v.idOf values = .ok id →
      (0 ≤ id ∧ id < v.count) ∧
      v.values id = .ok (v.options.map fun o =>
        ⟨o.name, toString (selected values o.name).toInt⟩) ∧
      ∀ values', v.idOf values' = .ok id →
        ∀ name, selected values' name = selected values name) := by
  constructor
  · intro id ds h
    obtain ⟨⟨h0, hlt⟩, rfl⟩ := values_eq_ok.1 h
    exact ⟨digits v.options id, mapM_word?_decode v.options id,
      fun values' hsame => idOf_congr hsame (hv.idOf_digits h0 hlt)⟩
  · intro hsize values id h
    obtain ⟨hrange, hvalues⟩ := values_of_idOf h hsize
    refine ⟨hrange, hvalues, fun values' h' name => ?_⟩
    have hvalues' := (values_of_idOf h' hsize).2
    rw [hvalues] at hvalues'
    by_cases hname : name ∈ names v.options
    · -- both assignments are read off the same definitions
      obtain ⟨o, ho, rfl⟩ := List.mem_map.1 hname
      have htext := List.map_inj_left.1 (Except.ok.inj hvalues') o ho
      have hword := congrArg Define.word? htext
      rw [Define.word?_toString, Define.word?_toString] at hword
      exact (congrArg Prod.snd (Option.some.inj hword)).symm
    · rw [selected_of_notMem (idOf_eq_ok.1 h).1 hname, selected_of_notMem (idOf_eq_ok.1 h').1 hname]

/-- Three values and as many as a word can count: the size wraps to 2^63 - 3. -/
def wrappedSpace : PermutationVector := (empty.add "A" 3).add "B" 9223372036854775807

/-- Two, three and four values. -/
def smallSpace : PermutationVector := ((empty.addBool "SKINNED").add "MODE" 3).add "LOD" 4

/-- The largest id of the wrapped space is that of its digits, and in the small space an assignment
    that leaves an option out is read off its id. -/
theorem values_idOf_inverse_spaces :
    (wrappedSpace.Reachable ∧ 2 ^ 64 < wrappedSpace.exactCount ∧
      ∃ ds values, wrappedSpace.values 9223372036854775804 = .ok ds ∧
        ds.mapM Define.word? = some values ∧
        wrappedSpace.idOf values = .ok 9223372036854775804) ∧
    (smallSpace.Reachable ∧ smallSpace.exactCount < 2 ^ 63 ∧
      smallSpace.idOf [("LOD", 3), ("SKINNED", 1)] = .ok 19 ∧
      smallSpace.values 19 = .ok [⟨"SKINNED", "1"⟩, ⟨"MODE", "0"⟩, ⟨"LOD", "3"⟩]) := by
  have hwrapped : wrappedSpace.Reachable := .add _ _ (.add _ _ .empty)
  have hsmall : smallSpace.Reachable := .add _ _ (.add _ _ (.addBool _ .empty))
  have hsize : smallSpace.exactCount < 2 ^ 63 := by decide
  have hvalues : wrappedSpace.values 9223372036854775804 = .ok _ :=
    values_eq_ok.2 ⟨by decide, rfl⟩
  have hid : smallSpace.idOf [("LOD", 3), ("SKINNED", 1)] = .ok 19 := by decide
  obtain ⟨values, hread, hback⟩ := hwrapped.values_idOf_inverse.1 _ _ hvalues
  refine ⟨⟨hwrapped, by decide, _, values, hvalues, hread, hback values fun _ => rfl⟩,
    hsmall, hsize,
    hid, ?_⟩
  exact (hsmall.values_idOf_inverse.2 hsize _ _ hid).2.1

end PermutationVector

end KernelGraph
