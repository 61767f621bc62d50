/-
  The symbols of a kernel's parameters.

  A symbol is a local name, an underscore and the unique name of the slot:

      Values_DI1_Buffer    =    Values ++ _ ++ DI1_Buffer

  The unique name keeps interfaces of one class apart.  Between classes nothing says where the local
  name ends, for an identifier may have underscores and may look like a unique name itself:

  1. `symbol_cases`: equal symbols are of one slot and one name, or the class of one slot ends with
     the unique name of the other (`ClassEndsWith`).

  2. `Ambiguous` says that there are such slots.  So without them all symbols are distinct; and with
     them there are two identifiers that get the same symbol (`exists_same_symbol`).

  3. Two slots that are ambiguous have different classes (`not_ambiguous_of_same_class`).
-/
import KernelGraph.Proofs.GeneratedPaths

namespace KernelGraph

/-! ## Identifiers -/

/-- Letters, digits and underscores, and no digit in front. -/
def IsIdentifier (s : String) : Prop :=
  s ≠ "" ∧ (∀ c ∈ s.toList, c.isAlphanum = true ∨ c = '_') ∧
    s.toList.head?.all (fun c => !c.isDigit) = true

instance (s : String) : Decidable (IsIdentifier s) :=
  -- along the list, rather than over all characters
  letI : Decidable (∀ c ∈ s.toList, c.isAlphanum = true ∨ c = '_') := List.decidableBAll _ _
  inferInstanceAs (Decidable (_ ∧ _ ∧ _))

/-- An identifier that goes on with more of such characters is one. -/
theorem isIdentifier_ofList {c : Char} {cs : List Char} (hc : c.isAlpha = true)
    (hcs : ∀ d ∈ cs, d.isAlphanum = true ∨ d = '_') : IsIdentifier (String.ofList (c :: cs)) := by
  have hdigit : c.isDigit = false := by
    have hletter : (decide (c.val ≥ 65 ∧ c.val ≤ 90) || c.val ≥ 97 && c.val ≤ 122) = true := hc
    show (c.val ≥ 48 && c.val ≤ 57) = false
    simp only [Bool.or_eq_true, Bool.and_eq_true, decide_eq_true_eq, ge_iff_le,
      Bool.and_eq_false_iff, decide_eq_false_iff_not, UInt32.le_iff_toNat_le] at hletter ⊢
    rcases hletter with h | h <;> grind
  refine ⟨fun h => ?_, fun d hd => ?_, ?_⟩
  · have hlist := congrArg String.toList h
    rw [String.toList_ofList] at hlist
    cases hlist
  · rw [String.toList_ofList] at hd
    rcases List.mem_cons.1 hd with rfl | hd
    · exact .inl (by rw [Char.isAlphanum, hc, Bool.true_or])
    · exact hcs d hd
  · rw [String.toList_ofList, List.head?_cons, Option.all_some, hdigit]
    rfl

/-! ## Equal symbols -/

/-- The name of a class ends with an underscore and the text `uid`, or is this text. -/
def ClassEndsWith (d : DataInterface) (uid : String) : Prop :=
  '_' :: uid.toList <:+ '_' :: d.interface.className.toList

instance (d : DataInterface) (uid : String) : Decidable (ClassEndsWith d uid) :=
  inferInstanceAs (Decidable (_ <:+ _))

/-- An end of a unique name that begins at an underscore is an end of the class. -/
theorem suffix_of_uniqueName {i : Int} {name : String} {z u : List Char}
    (h : '_' :: (uniqueName i name).toList = z ++ '_' :: u) :
    z = [] ∨ '_' :: u <:+ '_' :: name.toList := by
  cases z with
  | nil => exact .inl rfl
  | cons c z =>
    right
    have htail := (List.cons.inj h).2
    rw [toList_uniqueName, ← List.cons_append, ← List.cons_append] at htail
    rcases List.append_eq_append_iff.1 htail with ⟨a, _, ha⟩ | ⟨a, hslot, ha⟩
    · exact ⟨a, ha.symm⟩
    · cases a with
      | nil => exact ⟨[], ha⟩
      | cons c a =>
        -- this underscore would be one of the slot's digits
        cases (List.cons.inj ha).1
        have hmem : '_' ∈ 'D' :: 'I' :: (toString i).toList := by
          rw [hslot]
          exact List.mem_append_right _ (List.mem_cons_self ..)
        refine absurd hmem ?_
        simp only [List.mem_cons, not_or]
        exact ⟨by decide, by decide, underscore_notMem_slot i⟩

section
variable {d e : DataInterface} {i j : Int}

theorem toList_symbol (name uid : String) :
    (name ++ "_" ++ uid).toList = name.toList ++ '_' :: uid.toList := by
  simp

/-- The longer of two local names goes on where the other one ends. -/
theorem symbol_cases_of_longer {l m : String} {z : List Char} (hname : m.toList = l.toList ++ z)
    (huid : '_' :: (d.uid i).toList = z ++ '_' :: (e.uid j).toList) :
    (i = j ∧ l = m) ∨ ClassEndsWith d (e.uid j) := by
  rcases suffix_of_uniqueName huid with rfl | hend
  · have hslot : d.uid i = e.uid j := String.toList_injective (List.cons.inj huid).2
    rw [List.append_nil] at hname
    exact .inl ⟨uniqueName_inj hslot, String.toList_injective hname.symm⟩
  · exact .inr hend

/-- **Equal symbols** are of one slot and one local name, unless a class ends with the unique name
    of the other slot. -/
theorem symbol_cases {l m : String} (h : l ++ "_" ++ d.uid i = m ++ "_" ++ e.uid j) :
    (i = j ∧ l = m) ∨ ClassEndsWith d (e.uid j) ∨ ClassEndsWith e (d.uid i) := by
  have hlist := congrArg String.toList h
  rw [toList_symbol, toList_symbol] at hlist
  rcases List.append_eq_append_iff.1 hlist with ⟨z, hname, huid⟩ | ⟨z, hname, huid⟩
  · exact (symbol_cases_of_longer hname huid).imp_right .inl
  · rcases symbol_cases_of_longer hname huid with ⟨hslot, hname⟩ | hend
    · exact .inl ⟨hslot.symm, hname.symm⟩
    · exact .inr (.inr hend)

/-- A class does not end with a unique name of its own. -/
theorem not_classEndsWith_of_same_class (h : d.interface.className = e.interface.className) :
    ¬ ClassEndsWith d (e.uid j) := by
  intro hend
  have hlength := hend.length_le
  rw [DataInterface.uid, toList_uniqueName, h] at hlength
  simp only [List.length_cons, List.length_append] at hlength
  omega

theorem isDigit_of_mem_index (hi : 0 ≤ i) {c : Char} (h : c ∈ (toString i).toList) :
    c.isDigit = true := by
  obtain ⟨n, rfl⟩ := Int.eq_ofNat_of_zero_le hi
  have hdigits : c ∈ n.repr.toList := h
  rw [Nat.toList_repr] at hdigits
  exact Nat.isDigit_of_mem_toDigits (by decide) (by decide) hdigits

/-- **Two identifiers that get the same symbol**, where a class ends with a unique name. -/
theorem exists_same_symbol (hi : 0 ≤ i) (hclass : IsIdentifier d.interface.className)
    (hend : ClassEndsWith d (e.uid j)) : ∃ l m, IsIdentifier l ∧ IsIdentifier m ∧ l ≠ m ∧
      l ++ "_" ++ d.uid i = m ++ "_" ++ e.uid j := by
  obtain ⟨y, hy⟩ := hend
  have hrest : ∀ c ∈ '_' :: ("DI" ++ toString i).toList ++ y, c.isAlphanum = true ∨ c = '_' := by
    intro c hc
    rw [String.toList_append, List.mem_append, List.mem_cons, List.mem_append] at hc
    rcases hc with (rfl | hc | hc) | hc
    · exact .inr rfl
    · have hletters : "DI".toList.all Char.isAlphanum = true := by decide
      exact .inl (List.all_eq_true.1 hletters c hc)
    · exact .inl (by rw [Char.isAlphanum, isDigit_of_mem_index hi hc, Bool.or_true])
    · have hc' : c ∈ '_' :: d.interface.className.toList := by
        rw [← hy]
        exact List.mem_append_left _ hc
      rcases List.mem_cons.1 hc' with rfl | hc'
      · exact .inr rfl
      · exact hclass.2.1 c hc'
  refine ⟨"x", String.ofList ('x' :: ('_' :: ("DI" ++ toString i).toList ++ y)), by decide,
    isIdentifier_ofList (by decide) hrest, fun h => ?_, ?_⟩
  · have hlist := congrArg String.toList h
    rw [String.toList_ofList, String.toList_ofList] at hlist
    cases (List.cons.inj hlist).2
  · refine String.toList_injective ?_
    rw [toList_symbol, toList_symbol, String.toList_ofList, DataInterface.uid, toList_uniqueName]
    calc "x".toList ++ '_' :: 'D' :: 'I' :: ((toString i).toList ++
            '_' :: d.interface.className.toList)
        = 'x' :: '_' :: 'D' :: 'I' :: ((toString i).toList ++
            (y ++ '_' :: (e.uid j).toList)) := by rw [hy]; rfl
      _ = _ := by simp

end

/-! ## The symbols of a kernel -/

namespace Graph

section
variable {g : Graph} {k : Int}

/-- The class of one bound slot ends with the unique name of another. -/
def Ambiguous (g : Graph) (k : Int) : Prop :=
  ∃ p ∈ g.boundInterfaces k, ∃ q ∈ g.boundInterfaces k, ClassEndsWith p.2 (q.2.uid q.1)

instance (g : Graph) (k : Int) : Decidable (g.Ambiguous k) :=
  inferInstanceAs (Decidable (∃ p ∈ g.boundInterfaces k, ∃ q ∈ g.boundInterfaces k,
    ClassEndsWith p.2 (q.2.uid q.1)))

/-- **Slots of one class are not ambiguous.** -/
theorem not_ambiguous_of_same_class
    (h : ∀ p ∈ g.boundInterfaces k, ∀ q ∈ g.boundInterfaces k,
      p.2.interface.className = q.2.interface.className) : ¬ g.Ambiguous k := by
  rintro ⟨p, hp, q, hq, hend⟩
  exact not_classEndsWith_of_same_class (h p hp q hq) hend

theorem nonneg_of_mem_boundInterfaces {p : Int × DataInterface}
    (h : p ∈ g.boundInterfaces k) : 0 ≤ p.1 := by
  have hslot := interface?_of_mem h
  rw [interface?, elementAt?] at hslot
  by_contra hneg
  rw [if_pos (Int.not_le.1 hneg)] at hslot
  cases hslot

/-- A symbol tells its slot and its local name, for the slots that are bound to a kernel and all
    local names that are identifiers. -/
def SymbolsTell (g : Graph) (k : Int) : Prop :=
  ∀ i j, g.Binds k i → g.Binds k j → ∀ l m, IsIdentifier l → IsIdentifier m →
    ((g.layout k).scope i).symbol l = ((g.layout k).scope j).symbol m → i = j ∧ l = m

theorem symbolsTell_of_not_ambiguous (h : ¬ g.Ambiguous k) : g.SymbolsTell k := by
  intro i j hi hj l m _ _ heq
  obtain ⟨d, hd⟩ := binds_iff.1 hi
  obtain ⟨e, he⟩ := binds_iff.1 hj
  rw [Scope.symbol, Scope.symbol, uid_scope_layout hd, uid_scope_layout he] at heq
  rcases symbol_cases heq with hsame | hend | hend
  · exact hsame
  · exact absurd ⟨_, hd, _, he, hend⟩ h
  · exact absurd ⟨_, he, _, hd, hend⟩ h

/-- The names of a layout are the symbols of its parameters, and so they are distinct. -/
theorem nodup_names_of_not_ambiguous (h : ¬ g.Ambiguous k) :
    ((g.layout k).parameters.map Parameter.name).Nodup := by
  have hassigned := g.assigned_layout k
  refine List.Nodup.map_on (fun p hp q hq hname => ?_) (List.Nodup.of_map _ hassigned.nodup)
  obtain ⟨d, hd, x, _, hp'⟩ := hassigned.declared p hp
  obtain ⟨e, he, y, _, hq'⟩ := hassigned.declared q hq
  rw [hp', hq'] at hname
  refine List.inj_on_of_nodup_map hassigned.nodup hp hq ?_
  rcases symbol_cases hname with ⟨hslot, hlocal⟩ | hend | hend
  · rw [hp', hq']
    exact Prod.ext hslot hlocal
  · exact absurd ⟨_, hd, _, he, hend⟩ h
  · exact absurd ⟨_, he, _, hd, hend⟩ h

theorem not_ambiguous_of_symbolsTell
    (hclass : ∀ p ∈ g.boundInterfaces k, IsIdentifier p.2.interface.className)
    (h : g.SymbolsTell k) : ¬ g.Ambiguous k := by
  rintro ⟨⟨i, d⟩, hp, ⟨j, e⟩, hq, hend⟩
  obtain ⟨l, m, hl, hm, hne, heq⟩ :=
    exists_same_symbol (nonneg_of_mem_boundInterfaces hp) (hclass _ hp) hend
  refine hne (h i j (binds_iff.2 ⟨d, hp⟩) (binds_iff.2 ⟨e, hq⟩) l m hl hm ?_).2
  rw [Scope.symbol, Scope.symbol, uid_scope_layout hp, uid_scope_layout hq]
  exact heq

/-- **Symbols tell slots and local names exactly where no class ends with the unique name of a
    bound slot**; then the names of the kernel's parameters are distinct.  Where all classes are the
    same this is so. -/
theorem symbolsTell_iff (g : Graph) (k : Int)
    (hclass : ∀ p ∈ g.boundInterfaces k, IsIdentifier p.2.interface.className) :
    (g.SymbolsTell k ↔ ¬ g.Ambiguous k) ∧
      (¬ g.Ambiguous k → ((g.layout k).parameters.map Parameter.name).Nodup) ∧
      ((∀ p ∈ g.boundInterfaces k, ∀ q ∈ g.boundInterfaces k,
        p.2.interface.className = q.2.interface.className) → ¬ g.Ambiguous k) :=
  ⟨⟨not_ambiguous_of_symbolsTell hclass, symbolsTell_of_not_ambiguous⟩,
    nodup_names_of_not_ambiguous, not_ambiguous_of_same_class⟩

end

/-- A kernel that reads from two interfaces, of given classes, with a parameter each. -/
def twoClasses (class₀ local₀ class₁ local₁ : String) : Graph where
  name := "G"
  interfaces :=
    [some (.custom { className := class₀, parameters := fun _ => [⟨local₀, "u32", .uniform, 4⟩] }),
      some (.custom { className := class₁, parameters := fun _ => [⟨local₁, "u32", .uniform, 4⟩] })]
  edges := [{ interface := 0 }, { interface := 1 }]

/-- The class of the first slot ends with the unique name of the second. -/
theorem symbolsTell_iff_twoClasses : (twoClasses "X_DI1_B" "A" "B" "A_DI0_X").Ambiguous 0 ∧
    ¬ (twoClasses "X_DI1_B" "A" "B" "A_DI0_X").SymbolsTell 0 ∧
    (twoClasses "X_DI1_B" "A" "C" "A_DI0_X").SymbolsTell 0 :=
  ⟨by decide,
    fun h => (symbolsTell_iff (twoClasses "X_DI1_B" "A" "B" "A_DI0_X") 0
      (by decide)).1.1 h (by decide),
    (symbolsTell_iff (twoClasses "X_DI1_B" "A" "C" "A_DI0_X") 0
      (by decide)).1.2 (by decide)⟩

/-- **Identifiers alone do not make symbols distinct.** -/
theorem names_collide : ¬ ∀ (g : Graph) (k : Int),
    (∀ p ∈ g.boundInterfaces k, IsIdentifier p.2.interface.className ∧
      ∀ x ∈ p.2.interface.parameters (p.2.uid p.1), IsIdentifier x.name) →
    ((g.layout k).parameters.map Parameter.name).Nodup := fun h =>
  absurd (h (twoClasses "X_DI1_B" "A" "B" "A_DI0_X") 0 (by decide)) (by decide)

end Graph

end KernelGraph
