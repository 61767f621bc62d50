/-
  Which variant belongs to which option values.

  The permutations of a kernel are compiled one after the other, in order of their ids, each from
  the base request with the values of its options behind the base definitions.  Either all of them
  compile, and the variant that is looked up by the id of an assignment was compiled for that
  assignment, or the loop ends at the first one that fails, which the error names.
-/
import KernelGraph.Proofs.PermutationCode
import KernelGraph.Proofs.Program

namespace KernelGraph

/-- The request for the permutation `id` of a space: its option values follow the base's
    definitions. -/
def Request.permuted (base : Request) (v : PermutationVector) (id : Int64) : Request :=
  base.variant (PermutationVector.decode v.options id) id

/-- The request for an assignment of option values: each option's selected value, in order, behind
    the base's definitions. -/
def Request.selecting (base : Request) (v : PermutationVector) (values : List (String × Int64))
    (id : Int64) : Request :=
  base.variant (v.options.map fun o =>
    ⟨o.name, toString (PermutationVector.selected values o.name).toInt⟩) id

namespace Program

/-- The error of a permutation that the compiler rejects. -/
def rejection (c : Compiler) (base : Request) (id : Int64) (r : Rejection) : ProgramError :=
  .compile
    { format := c.format
      friendlyName := base.friendlyName
      permutation := id
      diagnostics := (r.output.map Output.diagnostics).getD []
      cause := r.error }

section
variable {c : Compiler} {base : Request} {v : PermutationVector}

/-! ## One permutation -/

theorem compileVariant_ok {id : Int64} {out : Output}
    (hid : 0 ≤ id.toInt ∧ id.toInt < v.count.toInt)
    (h : c.compile false (base.permuted v id) = .ok out) :
    compileVariant c false base (some v) id = .ok out := by
  have hvalues : PermutationVector.values? (some v) id =
      .ok (PermutationVector.decode v.options id) :=
    PermutationVector.values_eq_ok.2 ⟨hid, rfl⟩
  rw [Request.permuted] at h
  simp only [compileVariant, hvalues, h]

theorem compileVariant_error {id : Int64} {r : Rejection}
    (hid : 0 ≤ id.toInt ∧ id.toInt < v.count.toInt)
    (h : c.compile false (base.permuted v id) = .error r) :
    compileVariant c false base (some v) id = .error (rejection c base id r) := by
  have hvalues : PermutationVector.values? (some v) id =
      .ok (PermutationVector.decode v.options id) :=
    PermutationVector.values_eq_ok.2 ⟨hid, rfl⟩
  rw [Request.permuted] at h
  simp only [compileVariant, hvalues, h]
  rfl

/-! ## The loop -/

/-- **All permutations compile**: their variants and diagnostics are appended in order. -/
theorem compileFrom_of_ok {outs : Int64 → Output} : ∀ {n : Nat} {id : Int64} {p : Program},
    (∀ x ∈ idsFrom id n, (0 ≤ x.toInt ∧ x.toInt < v.count.toInt) ∧
      c.compile false (base.permuted v x) = .ok (outs x)) →
    compileFrom c false base (some v) n id p =
      (.ok { p with
        variants := p.variants ++ (idsFrom id n).map fun x => ⟨x, (outs x).code⟩
        diagnostics := p.diagnostics ++ (idsFrom id n).flatMap fun x => (outs x).diagnostics },
        n) := by
  intro n
  induction n with
  | zero =>
    intro id p _
    simp [compileFrom, idsFrom]
  | succ n ih =>
    intro id p h
    rw [idsFrom_succ] at h ⊢
    obtain ⟨hid, hout⟩ := h id (List.mem_cons_self ..)
    rw [compileFrom, if_neg Bool.false_ne_true, compileVariant_ok hid hout]
    dsimp only
    rw [ih fun x hx => h x (List.mem_cons_of_mem id hx)]
    simp

/-- **A permutation fails** after those before it have compiled: the loop ends there. -/
theorem compileFrom_of_error : ∀ {before after : List Int64} {x : Int64} {r : Rejection} {n : Nat}
    {id : Int64} {p : Program}, idsFrom id n = before ++ x :: after →
    (∀ y ∈ before, (0 ≤ y.toInt ∧ y.toInt < v.count.toInt) ∧
      ∃ out, c.compile false (base.permuted v y) = .ok out) →
    0 ≤ x.toInt ∧ x.toInt < v.count.toInt → c.compile false (base.permuted v x) = .error r →
    compileFrom c false base (some v) n id p =
      (.error (rejection c base x r), before.length + 1) := by
  intro before
  induction before with
  | nil =>
    intro after x r n id p hids _ hx hr
    cases n with
    | zero => cases hids
    | succ n =>
      rw [idsFrom_succ] at hids
      cases hids
      rw [compileFrom, if_neg Bool.false_ne_true, compileVariant_error hx hr]
      rfl
  | cons y before ih =>
    intro after x r n id p hids hbefore hx hr
    cases n with
    | zero => cases hids
    | succ n =>
      rw [idsFrom_succ] at hids
      injection hids with hy hids
      subst hy
      obtain ⟨hid, out, hout⟩ := hbefore id (List.mem_cons_self ..)
      rw [compileFrom, if_neg Bool.false_ne_true, compileVariant_ok hid hout]
      dsimp only
      rw [ih hids (fun z hz => hbefore z (List.mem_cons_of_mem id hz)) hx hr]
      rfl

end

/-! ## The whole space -/

/-- The ids before an id in the list of all ids are the smaller ones. -/
theorem idsFrom_zero_split {n : Nat} (hn : n ≤ 64) {id : Int64} (h0 : 0 ≤ id.toInt)
    (hlt : id.toInt < n) : ∃ after, idsFrom 0 n = idsFrom 0 id.toInt.toNat ++ id :: after := by
  have hcut : n = id.toInt.toNat + (1 + (n - id.toInt.toNat - 1)) := by omega
  have hid : 0 + Int64.ofNat id.toInt.toNat = id := by
    apply Int64.toInt_inj.1
    rw [Int64.zero_add, Int64.toInt_ofNat_of_lt (by omega), Int.toNat_of_nonneg h0]
  refine ⟨((List.range (n - id.toInt.toNat - 1)).map fun i =>
    0 + Int64.ofNat (id.toInt.toNat + (1 + i))), ?_⟩
  conv => lhs; rw [idsFrom, hcut, List.range_add, List.range_add]
  simp only [List.map_append, List.map_map, List.range_one, List.map_cons, List.map_nil,
    Nat.add_zero, hid]
  rfl

section
variable {v : PermutationVector} (hv : v.Reachable) (hsize : v.exactCount ≤ 64) (c : Compiler)
  (base : Request) (key : String)
include hv hsize

/-- A space within the limit is compiled id by id. -/
theorem compile_of_exactCount_le :
    v.count.toInt = v.exactCount ∧
      compile c false base key (some v) = compileFrom c false base (some v) v.exactCount.toNat 0
        { format := c.format, hashKey := key, entryPoint := base.entryPoint } := by
  have hone := hv.proper.one_le_exactCount
  have hcount := v.toInt_count_of_lt (by omega) (by omega)
  refine ⟨hcount, ?_⟩
  rw [compile_of_le c false base key v (by omega) (by omega), hcount]

theorem mem_idsFrom_exactCount {x : Int64} :
    x ∈ idsFrom 0 v.exactCount.toNat ↔ 0 ≤ x.toInt ∧ x.toInt < v.exactCount := by
  have hone := hv.proper.one_le_exactCount
  rw [mem_idsFrom_zero (by omega), Int.toNat_of_nonneg (by omega)]

/-- All permutations compile. -/
theorem compile_of_forall_ok {outs : Int64 → Output}
    (h : ∀ x : Int64, 0 ≤ x.toInt → x.toInt < v.exactCount →
      c.compile false (base.permuted v x) = .ok (outs x)) :
    compile c false base key (some v) =
      (.ok { format := c.format, hashKey := key, entryPoint := base.entryPoint
             variants := (idsFrom 0 v.exactCount.toNat).map fun x => ⟨x, (outs x).code⟩
             diagnostics :=
              (idsFrom 0 v.exactCount.toNat).flatMap fun x => (outs x).diagnostics },
        v.exactCount.toNat) := by
  obtain ⟨hcount, hcompile⟩ := compile_of_exactCount_le hv hsize c base key
  have hids : ∀ x ∈ idsFrom 0 v.exactCount.toNat, (0 ≤ x.toInt ∧ x.toInt < v.count.toInt) ∧
      c.compile false (base.permuted v x) = .ok (outs x) := by
    intro x hx
    obtain ⟨h0, hlt⟩ := (mem_idsFrom_exactCount hv hsize).1 hx
    exact ⟨⟨h0, by omega⟩, h x h0 hlt⟩
  rw [hcompile, compileFrom_of_ok hids]
  simp

/-- The first permutation that fails ends the compile. -/
theorem compile_of_first_error {id : Int64} {r : Rejection} (h0 : 0 ≤ id.toInt)
    (hlt : id.toInt < v.exactCount)
    (hbefore : ∀ x : Int64, 0 ≤ x.toInt → x.toInt < id.toInt →
      ∃ out, c.compile false (base.permuted v x) = .ok out)
    (hr : c.compile false (base.permuted v id) = .error r) :
    compile c false base key (some v) = (.error (rejection c base id r), id.toInt.toNat + 1) := by
  obtain ⟨hcount, hcompile⟩ := compile_of_exactCount_le hv hsize c base key
  obtain ⟨after, hids⟩ := idsFrom_zero_split (n := v.exactCount.toNat) (by omega) h0 (by omega)
  rw [hcompile, compileFrom_of_error hids (fun x hx => ?_) ⟨h0, by omega⟩ hr]
  · simp [idsFrom]
  · obtain ⟨hx0, hxlt⟩ := (mem_idsFrom_zero (by omega)).1 hx
    exact ⟨⟨hx0, by omega⟩, hbefore x hx0 (by omega)⟩

omit hv hsize in
/-- Either all permutations compile, or there is a first one that does not. -/
theorem forall_ok_or_first_error :
    (∃ outs : Int64 → Output, ∀ x : Int64, 0 ≤ x.toInt → x.toInt < v.exactCount →
      c.compile false (base.permuted v x) = .ok (outs x)) ∨
    ∃ (id : Int64) (r : Rejection), (0 ≤ id.toInt ∧ id.toInt < v.exactCount) ∧
      (∀ x : Int64, 0 ≤ x.toInt → x.toInt < id.toInt →
        ∃ out, c.compile false (base.permuted v x) = .ok out) ∧
      c.compile false (base.permuted v id) = .error r := by
  let fails (n : Nat) : Prop := ∃ id : Int64, id.toInt = n ∧ id.toInt < v.exactCount ∧
    ∃ r, c.compile false (base.permuted v id) = .error r
  -- whatever is below the least failing number compiles
  have hok : ∀ x : Int64, 0 ≤ x.toInt → x.toInt < v.exactCount → ¬ fails x.toInt.toNat →
      ∃ out, c.compile false (base.permuted v x) = .ok out := by
    intro x h0 hlt hnot
    cases hx : c.compile false (base.permuted v x) with
    | ok out => exact ⟨out, rfl⟩
    | error r => exact absurd ⟨x, (Int.toNat_of_nonneg h0).symm, hlt, r, hx⟩ hnot
  by_cases hfails : ∃ n, fails n
  · classical
    obtain ⟨id, hid, hlt, r, hr⟩ := Nat.find_spec hfails
    refine Or.inr ⟨id, r, ⟨by omega, hlt⟩, fun x h0 hx => ?_, hr⟩
    exact hok x h0 (by omega) (Nat.find_min hfails (by omega))
  · have hall : ∀ x : Int64, ∃ out, 0 ≤ x.toInt → x.toInt < v.exactCount →
        c.compile false (base.permuted v x) = .ok out := by
      intro x
      by_cases hx : 0 ≤ x.toInt ∧ x.toInt < v.exactCount
      · obtain ⟨out, hout⟩ := hok x hx.1 hx.2 fun h => hfails ⟨_, h⟩
        exact ⟨out, fun _ _ => hout⟩
      · exact ⟨default, fun h0 hlt => absurd ⟨h0, hlt⟩ hx⟩
    choose outs houts using hall
    exact Or.inl ⟨outs, houts⟩

/-- The variant of an accepted assignment, if all permutations compile. -/
theorem variant?_of_idOf {outs : Int64 → Output}
    (h : ∀ x : Int64, 0 ≤ x.toInt → x.toInt < v.exactCount →
      c.compile false (base.permuted v x) = .ok (outs x))
    {values : List (String × Int64)} {id : Int64} (hid : v.idOf values = .ok id) {p : Program}
    (hvariants : p.variants =
      (idsFrom 0 v.exactCount.toNat).map fun x => ⟨x, (outs x).code⟩) :
    p.variant? id = some ⟨id, (outs id).code⟩ ∧
      c.compile false (base.selecting v values id) = .ok (outs id) := by
  obtain ⟨h0, hlt⟩ := PermutationVector.idOf_range hid (by omega)
  constructor
  · have hfind : (idsFrom 0 v.exactCount.toNat).find? (fun x => decide (x = id)) = some id := by
      cases hx : (idsFrom 0 v.exactCount.toNat).find? (fun x => decide (x = id)) with
      | some x =>
        have heq : x = id := by simpa using List.find?_some hx
        rw [heq]
      | none =>
        have hmem := (mem_idsFrom_exactCount hv hsize).2 ⟨h0, hlt⟩
        exact absurd (decide_eq_true rfl) (List.find?_eq_none.1 hx id hmem)
    rw [variant?, hvariants, List.find?_map]
    show Option.map _ ((idsFrom 0 v.exactCount.toNat).find? fun x => decide (x = id)) = _
    rw [hfind]
    rfl
  · -- the digits of the id are the selected values
    have hvalues := (PermutationVector.values_of_idOf hid (by omega)).2
    have hdecode := (PermutationVector.values_eq_ok.1 hvalues).2
    rw [Request.selecting, hdecode]
    exact h id h0 hlt

end

/-- **Selecting by option values yields the variant compiled for them.**  A space of at most 64
    permutations compiles exactly if every one of its permutations does.  Then the variants are
    those of all ids in order, and the id of an accepted assignment has the code that the compiler
    makes of the base request with the assigned values behind its definitions.  Otherwise the error
    names the smallest id that fails, with the diagnostics that came along, and the compiler was
    called up to that id only: what it would say of the later ones makes no difference. -/
theorem compile_variants {v : PermutationVector} (hv : v.Reachable) (hsize : v.exactCount ≤ 64)
    (c : Compiler) (base : Request) (key : String) :
    ((∃ p, (compile c false base key (some v)).1 = .ok p) ↔
      ∀ id : Int64, 0 ≤ id.toInt → id.toInt < v.exactCount →
        ∃ out, c.compile false (base.permuted v id) = .ok out) ∧
    (∀ p, (compile c false base key (some v)).1 = .ok p →
      p.ids = idsFrom 0 v.exactCount.toNat ∧
      ∀ values id, v.idOf values = .ok id →
        ∃ x out, p.variant? id = some x ∧ x.code = out.code ∧
          c.compile false (base.selecting v values id) = .ok out) ∧
    (∀ e, (compile c false base key (some v)).1 = .error e →
      ∃ (id : Int64) (r : Rejection), (0 ≤ id.toInt ∧ id.toInt < v.exactCount) ∧
        (∀ x : Int64, 0 ≤ x.toInt → x.toInt < id.toInt →
          ∃ out, c.compile false (base.permuted v x) = .ok out) ∧
        c.compile false (base.permuted v id) = .error r ∧
        e = .compile
          { format := c.format, friendlyName := base.friendlyName, permutation := id
            diagnostics := (r.output.map Output.diagnostics).getD [], cause := r.error } ∧
        (compile c false base key (some v)).2 = id.toInt.toNat + 1 ∧
        ∀ c' : Compiler, c'.format = c.format →
          (∀ x : Int64, 0 ≤ x.toInt → x.toInt ≤ id.toInt →
            c'.compile false (base.permuted v x) = c.compile false (base.permuted v x)) →
          compile c' false base key (some v) = compile c false base key (some v)) := by
  rcases forall_ok_or_first_error (v := v) c base with
    ⟨outs, houts⟩ | ⟨id, r, ⟨h0, hlt⟩, hbefore, hr⟩
  · have hcompile := compile_of_forall_ok hv hsize c base key houts
    refine ⟨⟨fun _ x hx0 hxlt => ⟨outs x, houts x hx0 hxlt⟩, fun _ => ⟨_, by rw [hcompile]⟩⟩,
      fun p hp => ?_, fun e he => ?_⟩
    · have hvariants : p.variants =
          (idsFrom 0 v.exactCount.toNat).map fun x => ⟨x, (outs x).code⟩ := by
        rw [hcompile] at hp
        cases hp
        rfl
      refine ⟨by simp [ids, hvariants, Function.comp_def], fun values x hx => ?_⟩
      obtain ⟨hvariant, hout⟩ := variant?_of_idOf hv hsize c base houts hx hvariants
      exact ⟨_, _, hvariant, rfl, hout⟩
    · rw [hcompile] at he
      cases he
  · have hcompile := compile_of_first_error hv hsize c base key h0 hlt hbefore hr
    refine ⟨⟨fun hok => ?_, fun hall => ?_⟩, fun p hp => ?_, fun e he => ?_⟩
    · obtain ⟨p, hp⟩ := hok
      rw [hcompile] at hp
      cases hp
    · obtain ⟨out, hout⟩ := hall id h0 hlt
      rw [hr] at hout
      cases hout
    · rw [hcompile] at hp
      cases hp
    · rw [hcompile] at he
      cases he
      refine ⟨id, r, ⟨h0, hlt⟩, hbefore, hr, rfl, by rw [hcompile], fun c' hformat hagree => ?_⟩
      -- the other compiler fails at the same id with the same words
      have hcompile' := compile_of_first_error hv hsize c' base key h0 hlt
        (fun x hx0 hx => by rw [hagree x hx0 (by omega)]; exact hbefore x hx0 hx)
        (by rw [hagree id h0 (by omega)]; exact hr)
      rw [hcompile', hcompile, rejection, rejection, hformat]

/-- A compiler that yields the values it is given, and rejects one permutation without output. -/
def picky (rejected : Int64) : Compiler where
  format := "mock"
  level := .sm5
  dialect := .wgsl
  compile _ r :=
    if r.permutation = rejected then .error ⟨.reported "rejected", none⟩
    else .ok { code := String.join (r.definitions.map fun d => d.name ++ "=" ++ d.value ++ ";") }

/-- Two, three and four values: with id 19 the values of `SKINNED` and `LOD` go into the code, and
    when 7 is rejected the error is about 7. -/
theorem compile_variants_smallSpace :
    (PermutationVector.smallSpace.Reachable ∧ PermutationVector.smallSpace.exactCount ≤ 64) ∧
    (∃ p x, (compile (picky 24) false plainRequest "K" (some .smallSpace)).1 = .ok p ∧
      PermutationVector.smallSpace.idOf [("LOD", 3), ("SKINNED", 1)] = .ok 19 ∧
      p.variant? 19 = some x ∧ x.code = "SKINNED=1;MODE=0;LOD=3;") ∧
    (∃ e, (compile (picky 7) false plainRequest "K" (some .smallSpace)).1 = .error e ∧
      (compile (picky 7) false plainRequest "K" (some .smallSpace)).2 = 8) := by
  have hsmall : PermutationVector.smallSpace.Reachable :=
    .add _ _ (.add _ _ (.addBool _ .empty))
  have hsize : PermutationVector.smallSpace.exactCount ≤ 64 := by decide
  have hid : PermutationVector.smallSpace.idOf [("LOD", 3), ("SKINNED", 1)] = .ok 19 := by
    decide
  obtain ⟨hiff, hsuccess, _⟩ := compile_variants hsmall hsize (picky 24) plainRequest "K"
  obtain ⟨hiff', _, hfailure⟩ := compile_variants hsmall hsize (picky 7) plainRequest "K"
  have hexact : PermutationVector.smallSpace.exactCount = 24 := by decide
  -- 24 is above every id
  obtain ⟨p, hp⟩ := hiff.2 fun id _ hlt => by
    refine ⟨_, if_neg fun heq => ?_⟩
    have : id.toInt = 24 := congrArg Int64.toInt heq
    omega
  obtain ⟨x, out, hx, hcode, hout⟩ := (hsuccess p hp).2 _ _ hid
  refine ⟨⟨hsmall, hsize⟩, ⟨p, x, hp, hid, hx, ?_⟩, ?_⟩
  · rw [hcode]
    have hcomputed : (picky 24).compile false
        (plainRequest.selecting .smallSpace [("LOD", 3), ("SKINNED", 1)] 19) =
          .ok { code := "SKINNED=1;MODE=0;LOD=3;" } := by decide
    rw [hcomputed] at hout
    cases hout
    rfl
  · cases hcompile : (compile (picky 7) false plainRequest "K" (some .smallSpace)).1 with
    | ok p =>
      obtain ⟨out, hout⟩ := hiff'.1 ⟨p, hcompile⟩ 7 (by decide) (by decide)
      cases hout
    | error e =>
      obtain ⟨id, r, _, hbefore, hr, _, hcalls, _⟩ := hfailure e hcompile
      refine ⟨e, rfl, ?_⟩
      have hseven : id = 7 := by
        by_contra hne
        have hok : (picky 7).compile false (plainRequest.permuted .smallSpace id) = .ok _ :=
          if_neg hne
        rw [hok] at hr
        cases hr
      rw [hcalls, hseven]
      rfl

end Program

end KernelGraph
