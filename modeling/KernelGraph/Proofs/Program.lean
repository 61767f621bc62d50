/-
  What compiling all permutations of a kernel yields, and when the limit on their number holds.

  A program has one variant for every number below the wrapped size of its space, in order
  (`compile_ok`).  The guard against too many permutations looks at the wrapped size as well, so it
  can be passed by a space that is far too large: `compile_respectsLimit_iff` says for which spaces
  the limit holds, and what becomes of the others.
-/
import KernelGraph.Compile.Program
import KernelGraph.Proofs.Permutations

namespace KernelGraph.Program

/-- The permutation ids of a program's variants, in order. -/
def ids (p : Program) : List Int64 := p.variants.map Variant.permutation

/-- `n` consecutive ids. -/
def idsFrom (id : Int64) (n : Nat) : List Int64 := (List.range n).map fun i => id + Int64.ofNat i

theorem idsFrom_succ (id : Int64) (n : Nat) : idsFrom id (n + 1) = id :: idsFrom (id + 1) n := by
  rw [idsFrom, List.range_succ_eq_map, List.map_cons, List.map_map]
  have hhead : id + Int64.ofNat 0 = id := Int64.add_zero id
  have htail : ((fun i => id + Int64.ofNat i) ∘ Nat.succ) =
      fun i => id + 1 + Int64.ofNat i := by
    funext i
    show id + Int64.ofNat (i + 1) = id + 1 + Int64.ofNat i
    rw [Int64.ofNat_add, Int64.add_comm (Int64.ofNat i), Int64.add_assoc]
    rfl
  rw [hhead, htail, idsFrom]

section
variable {c : Compiler} {cancelled : Bool} {base : Request} {vector : Option PermutationVector}

/-! ## The compile loop -/

/-- **The compile loop, on success**: one variant for each id, behind those that were there, and
    nothing else of the program changes but its diagnostics. -/
theorem compileFrom_ok : ∀ {n : Nat} {id : Int64} {p q : Program},
    (compileFrom c cancelled base vector n id p).1 = .ok q →
    q.ids = p.ids ++ idsFrom id n ∧ q.format = p.format ∧ q.hashKey = p.hashKey ∧
      q.entryPoint = p.entryPoint := by
  intro n
  induction n with
  | zero =>
    intro id p q h
    cases h
    exact ⟨by simp [idsFrom], rfl, rfl, rfl⟩
  | succ n ih =>
    intro id p q h
    rw [compileFrom] at h
    split at h
    · cases h
    · split at h
      · cases h
      · obtain ⟨hids, hformat, hkey, hentry⟩ := ih h
        refine ⟨?_, hformat, hkey, hentry⟩
        rw [hids, idsFrom_succ]
        simp [ids]

/-- The loop itself never complains about the number of permutations. -/
theorem compileFrom_ne_tooMany : ∀ {n : Nat} {id : Int64} {p : Program} {name : String}
    {count : Int64},
    (compileFrom c cancelled base vector n id p).1 ≠ .error (.tooManyPermutations name count) := by
  intro n
  induction n with
  | zero => intro id p name count h; cases h
  | succ n ih =>
    intro id p name count h
    rw [compileFrom] at h
    split at h
    · cases h
    · split at h
      · rename_i e he
        cases h
        rw [compileVariant] at he
        split at he
        · cases he
        · split at he
          · cases he
          · split at he <;> cases he
      · exact ih h

/-- A compile that nobody cancels fails with an error of a permutation or of the compiler. -/
theorem compileFrom_error : ∀ {n : Nat} {id : Int64} {p : Program} {e : ProgramError},
    (compileFrom c false base vector n id p).1 = .error e →
    e.isCancelled = false ∧ e ≠ .negativeCount := by
  intro n
  induction n with
  | zero => intro id p e h; cases h
  | succ n ih =>
    intro id p e h
    rw [compileFrom, if_neg Bool.false_ne_true] at h
    split at h
    · rename_i e' he
      cases h
      rw [compileVariant] at he
      split at he
      · cases he
        exact ⟨rfl, fun h => by cases h⟩
      · split at he
        · cases he
        · rw [if_neg Bool.false_ne_true] at he
          cases he
          exact ⟨rfl, fun h => by cases h⟩
    · exact ih h

end

/-! ## Compiling by the wrapped size -/

section
variable (c : Compiler) (cancelled : Bool) (base : Request) (key : String) (v : PermutationVector)

/-- Too large a word is rejected before the compiler is called. -/
theorem compile_of_lt (h : 64 < v.count.toInt) :
    compile c cancelled base key (some v) =
      (.error (.tooManyPermutations base.friendlyName v.count), 0) := by
  have hlt : maxPermutations < v.count := Int64.lt_iff_toInt_lt.2 h
  simp only [compile, Option.map_some, Option.getD_some]
  rw [if_pos hlt]

/-- A word below zero ends the compile before the compiler is called. -/
theorem compile_of_neg (h : v.count.toInt < 0) :
    compile c cancelled base key (some v) = (.error .negativeCount, 0) := by
  have hle : ¬ maxPermutations < v.count := by
    rw [Int64.lt_iff_toInt_lt]
    have : maxPermutations.toInt = 64 := rfl
    omega
  have hneg : v.count < 0 := Int64.lt_iff_toInt_lt.2 h
  simp only [compile, Option.map_some, Option.getD_some]
  rw [if_neg hle, if_pos hneg]

/-- Any other word is the number of rounds of the loop. -/
theorem compile_of_le (h0 : 0 ≤ v.count.toInt) (h : v.count.toInt ≤ 64) :
    compile c cancelled base key (some v) =
      compileFrom c cancelled base (some v) v.count.toInt.toNat 0
        { format := c.format, hashKey := key, entryPoint := base.entryPoint } := by
  have hle : ¬ maxPermutations < v.count := by
    rw [Int64.lt_iff_toInt_lt]
    exact Int.not_lt.2 h
  have hneg : ¬ v.count < 0 := by
    rw [Int64.lt_iff_toInt_lt]
    exact Int.not_lt.2 h0
  simp only [compile, Option.map_some, Option.getD_some]
  rw [if_neg hle, if_neg hneg]

variable {c cancelled base key v}

/-- A compile that nobody cancels is not reported as cancelled, and the number of permutations is
    refused as negative only if it is. -/
theorem compile_error {e : ProgramError} (h : (compile c false base key (some v)).1 = .error e) :
    e.isCancelled = false ∧ (e = .negativeCount → v.count < 0) := by
  unfold compile at h
  rw [Option.map_some, Option.getD_some] at h
  dsimp only at h
  split at h
  · cases h
    exact ⟨rfl, fun h => by cases h⟩
  · split at h
    · rename_i hneg
      cases h
      exact ⟨rfl, fun _ => hneg⟩
    · obtain ⟨hcancelled, hne⟩ := compileFrom_error h
      exact ⟨hcancelled, fun he => absurd he hne⟩

/-- A kernel without options has one variant. -/
theorem compile_empty {out : Output} (h : c.compile false (base.variant [] 0) = .ok out) :
    compile c false base key (some .empty) =
      (.ok { format := c.format, hashKey := key, entryPoint := base.entryPoint,
             variants := [⟨0, out.code⟩], diagnostics := out.diagnostics }, 1) := by
  have hvalues : PermutationVector.values? (some .empty) 0 = .ok [] := rfl
  rw [compile_of_le _ _ _ _ _ (by decide) (by decide)]
  show compileFrom c false base (some .empty) 1 0 _ = _
  simp only [compileFrom, compileVariant, hvalues, h]
  rfl

theorem compile_empty_error {r : Rejection} (h : c.compile false (base.variant [] 0) = .error r) :
    compile c false base key (some .empty) =
      (.error (.compile
        { format := c.format, friendlyName := base.friendlyName, permutation := 0
          diagnostics := (r.output.map Output.diagnostics).getD [], cause := r.error }), 1) := by
  have hvalues : PermutationVector.values? (some .empty) 0 = .ok [] := rfl
  rw [compile_of_le _ _ _ _ _ (by decide) (by decide)]
  show compileFrom c false base (some .empty) 1 0 _ = _
  simp only [compileFrom, compileVariant, hvalues, h]
  rfl

/-- **A compiled program** has the key and entry point it was asked for, and the ids below the
    wrapped size, which then is at most the limit. -/
theorem compile_ok {p : Program} (h : (compile c cancelled base key (some v)).1 = .ok p) :
    (0 ≤ v.count.toInt ∧ v.count.toInt ≤ 64) ∧ p.ids = idsFrom 0 v.count.toInt.toNat ∧
      p.format = c.format ∧ p.hashKey = key ∧ p.entryPoint = base.entryPoint := by
  rcases Int.lt_or_le 64 v.count.toInt with hbig | hle
  · rw [compile_of_lt c cancelled base key v hbig] at h
    cases h
  · rcases Int.lt_or_le v.count.toInt 0 with hneg | h0
    · rw [compile_of_neg c cancelled base key v hneg] at h
      cases h
    · rw [compile_of_le c cancelled base key v h0 hle] at h
      exact ⟨⟨h0, hle⟩, compileFrom_ok h⟩

/-- A compiled program has as many variants as the wrapped size says. -/
theorem length_variants {p : Program} (h : (compile c cancelled base key (some v)).1 = .ok p) :
    (p.variants.length : Int) = v.count.toInt := by
  obtain ⟨⟨h0, _⟩, hids, _⟩ := compile_ok h
  have hlen : p.ids.length = v.count.toInt.toNat := by rw [hids]; simp [idsFrom]
  rw [ids, List.length_map] at hlen
  omega

end

/-! ## Which ids have a variant -/

theorem mem_idsFrom_zero {id : Int64} {n : Nat} (hn : n ≤ 64) :
    id ∈ idsFrom 0 n ↔ 0 ≤ id.toInt ∧ id.toInt < n := by
  have hsmall : ∀ i < n, (0 + Int64.ofNat i).toInt = i := by
    intro i hi
    rw [Int64.zero_add, Int64.toInt_ofNat_of_lt (by omega)]
  rw [idsFrom, List.mem_map]
  constructor
  · rintro ⟨i, hi, rfl⟩
    rw [hsmall i (List.mem_range.1 hi)]
    have := List.mem_range.1 hi
    omega
  · rintro ⟨h0, hlt⟩
    refine ⟨id.toInt.toNat, List.mem_range.2 (by omega), Int64.toInt_inj.1 ?_⟩
    rw [hsmall _ (by omega), Int.toNat_of_nonneg h0]

/-- **An id has a variant** exactly if it is below the wrapped size. -/
theorem variant?_isSome_iff {c : Compiler} {cancelled : Bool} {base : Request} {key : String}
    {v : PermutationVector} {p : Program}
    (h : (compile c cancelled base key (some v)).1 = .ok p) (id : Int64) :
    (p.variant? id).isSome ↔ 0 ≤ id.toInt ∧ id.toInt < v.count.toInt := by
  obtain ⟨⟨h0, hle⟩, hids, _⟩ := compile_ok h
  have hmem : (p.variant? id).isSome ↔ id ∈ p.ids := by
    simp [variant?, ids]
  rw [hmem, hids, mem_idsFrom_zero (by omega), Int.toNat_of_nonneg h0]

/-- **A program has a variant for every id that its space accepts** exactly if the space is within
    the limit. -/
theorem covers_iff {c : Compiler} {cancelled : Bool} {base : Request} {key : String}
    {v : PermutationVector} {p : Program} (hv : v.Reachable)
    (h : (compile c cancelled base key (some v)).1 = .ok p) :
    (∀ values id, v.idOf values = .ok id → (p.variant? id).isSome) ↔ v.exactCount ≤ 64 := by
  have hword := (compile_ok h).1
  constructor
  · intro hcovers
    by_contra hsize
    obtain ⟨values, id, hid, hge⟩ := hv.exists_idOf_ge (Int.not_le.1 hsize)
    have := (variant?_isSome_iff h id).1 (hcovers values id hid)
    omega
  · intro hsize values id hid
    have hone := hv.proper.one_le_exactCount
    have hrange := PermutationVector.idOf_range hid (by omega)
    rw [variant?_isSome_iff h id, v.toInt_count_of_lt (by omega) (by omega)]
    exact hrange

/-! ## The limit on the number of permutations -/

/-- The limit holds for a compile of the space `v`: too large a space is reported as such, without a
    call of the compiler, and a success covers the whole space. -/
structure RespectsLimit (v : PermutationVector) (result : Except ProgramError Program × Nat) :
    Prop where
  rejected : 64 < v.exactCount →
    ∃ name count, result = (.error (.tooManyPermutations name count), 0)
  covered : ∀ p, result.1 = .ok p →
    (p.variants.length : Int) = v.exactCount ∧ 1 ≤ p.variants.length

/-- **When the limit holds.**  It holds exactly if the space has at most 64 permutations or if its
    size is still above 64 once it is wrapped to a signed word.  Of the other spaces, one whose size
    wraps below zero crashes the compile, one whose size wraps to zero yields a program without
    variants, and one whose size wraps to a small number yields that many variants. -/
theorem compile_respectsLimit_iff {v : PermutationVector} (hv : v.Reachable) (c : Compiler)
    (cancelled : Bool) (base : Request) (key : String) :
    (RespectsLimit v (compile c cancelled base key (some v)) ↔
      v.exactCount ≤ 64 ∨ 64 < v.exactCount.bmod (2 ^ 64)) ∧
    (v.exactCount.bmod (2 ^ 64) < 0 →
      compile c cancelled base key (some v) = (.error .negativeCount, 0)) ∧
    (v.exactCount.bmod (2 ^ 64) = 0 →
      ∃ p, compile c cancelled base key (some v) = (.ok p, 0) ∧ p.variants = []) ∧
    (∀ p, (compile c cancelled base key (some v)).1 = .ok p →
      (p.variants.length : Int) = v.exactCount.bmod (2 ^ 64)) := by
  rw [← v.toInt_count]
  refine ⟨⟨fun h => ?_, fun h => ⟨fun hbig => ?_, fun p hp => ?_⟩⟩, ?_, fun hzero => ?_,
    fun p hp => length_variants hp⟩
  · -- a space that is too large and passes the guard is not reported
    by_contra hnot
    obtain ⟨hexact, hword⟩ := not_or.1 hnot
    obtain ⟨name, count, hr⟩ := h.rejected (Int.not_le.1 hexact)
    rcases Int.lt_or_le v.count.toInt 0 with hneg | h0
    · rw [compile_of_neg c cancelled base key v hneg] at hr
      cases hr
    · rw [compile_of_le c cancelled base key v h0 (Int.not_lt.1 hword)] at hr
      exact compileFrom_ne_tooMany (congrArg Prod.fst hr)
  · rcases h with h | h
    · omega
    · exact ⟨_, _, compile_of_lt c cancelled base key v h⟩
  · have hone := hv.proper.one_le_exactCount
    have hlen := length_variants hp
    have hword := (compile_ok hp).1
    rcases h with h | h
    · rw [v.toInt_count_of_lt (by omega) (by omega)] at hlen
      omega
    · omega
  · exact compile_of_neg c cancelled base key v
  · rw [compile_of_le c cancelled base key v (by omega) (by omega), hzero]
    exact ⟨_, rfl, rfl⟩

/-- Two options of 2^32 values each. -/
def wideSpace : PermutationVector :=
  (PermutationVector.empty.add "A" 4294967296).add "B" 4294967296

theorem wideSpace_reachable : wideSpace.Reachable := .add _ _ (.add _ _ .empty)

/-- A request for a kernel with one line of source. -/
def plainRequest : Request :=
  { friendlyName := "G/Main", entryPoint := "Main", source := "fn Main() \x7b\x7d\n",
    files := .ofList [] }

/-- 2^64 permutations pass the guard and yield a program without variants. -/
theorem compile_wideSpace :
    wideSpace.Reachable ∧ wideSpace.exactCount = 2 ^ 64 ∧
      ∃ p, compile .wgsl false plainRequest "K" (some wideSpace) = (.ok p, 0) ∧ p.variants = [] :=
  ⟨wideSpace_reachable, by decide,
    (compile_respectsLimit_iff wideSpace_reachable .wgsl false plainRequest "K").2.2.1 (by decide)⟩

/-- The limit does not hold for 2^64 permutations. -/
theorem not_respectsLimit_wideSpace :
    ¬ RespectsLimit wideSpace (compile .wgsl false plainRequest "K" (some wideSpace)) := by
  intro h
  obtain ⟨name, count, hr⟩ := h.rejected (by decide)
  have hok : (compile .wgsl false plainRequest "K" (some wideSpace)).1.toBool = true := by decide
  rw [hr] at hok
  cases hok

end KernelGraph.Program
