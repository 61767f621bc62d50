/-
  The files that a kernel build brings along, and their paths.

  1. The unique name of a slot tells the slot, and so does a generated path, as long as classes are
     named without slashes and the interfaces' own paths begin with one.
  2. The interface's own path is found behind a generated path, and shown in its place.
  3. The sources that a kernel needs are gathered with each path once.
  4. So no path is taken twice, and the build's files are found under their own paths.
-/
import KernelGraph.Graph.Build
import KernelGraph.Proofs.CompilationUnit
import KernelGraph.Proofs.FileDigest
import KernelGraph.Proofs.Layout
import Std.Data.String.ToInt

namespace KernelGraph

/-! ## Unique names -/

theorem toList_uniqueName (i : Int) (name : String) : (uniqueName i name).toList =
    'D' :: 'I' :: ((toString i).toList ++ '_' :: name.toList) := by
  simp [uniqueName]

/-- Slots are written in digits, after a sign. -/
theorem isDigit_of_mem_slot {i : Int} {c : Char} (h : c ∈ (toString i).toList) :
    c = '-' ∨ c.isDigit = true := by
  have hdigits : ∀ {n : Nat}, c ∈ n.repr.toList → c.isDigit = true := by
    intro n hc
    rw [Nat.toList_repr] at hc
    exact Nat.isDigit_of_mem_toDigits (by decide) (by decide) hc
  cases i with
  | ofNat n => exact .inr (hdigits h)
  | negSucc n =>
    have h : c ∈ ("-" ++ n.succ.repr).toList := h
    rw [String.toList_append] at h
    rcases List.mem_append.1 h with h | h
    · exact .inl (List.mem_singleton.1 h)
    · exact .inr (hdigits h)

/-- What is no part of a class's name, and neither digit nor mark, is no part of its unique
    names. -/
theorem notMem_uniqueName {c : Char} {name : String} (h : c ∉ name.toList) (i : Int)
    (hdigit : c.isDigit = false) (hmark : c ∉ ['D', 'I', '-', '_']) :
    c ∉ (uniqueName i name).toList := by
  rw [toList_uniqueName]
  simp only [List.mem_cons, List.mem_append, not_or, List.not_mem_nil, not_false_eq_true,
    and_true] at hmark ⊢
  refine ⟨hmark.1, hmark.2.1, fun hslot => ?_, hmark.2.2.2, h⟩
  rcases isDigit_of_mem_slot hslot with rfl | hc
  · exact hmark.2.2.1 rfl
  · rw [hdigit] at hc
    cases hc

/-- Two texts that end at the first mark of their kind are cut there. -/
theorem append_inj_of_notMem {c : Char} {a b x y : List Char} (ha : c ∉ a) (hb : c ∉ b)
    (h : a ++ c :: x = b ++ c :: y) : a = b ∧ x = y := by
  have hcut : ∀ {a : List Char} (x : List Char), c ∉ a →
      (a ++ c :: x).takeWhile (· ≠ c) = a := by
    intro a x ha
    have hall : ∀ d ∈ a, decide (d ≠ c) = true := by
      rintro d hd
      refine decide_eq_true ?_
      rintro rfl
      exact ha hd
    rw [List.takeWhile_append_of_pos hall]
    simp
  have hab : a = b := by rw [← hcut x ha, h, hcut y hb]
  subst hab
  exact ⟨rfl, (List.cons.inj (List.append_cancel_left h)).2⟩

theorem underscore_notMem_slot (i : Int) : '_' ∉ (toString i).toList := by
  intro hmem
  rcases isDigit_of_mem_slot hmem with h | h
  · exact absurd h (by decide)
  · exact absurd h (by decide)

/-- **A unique name tells the slot.** -/
theorem uniqueName_inj {i j : Int} {name name' : String}
    (h : uniqueName i name = uniqueName j name') : i = j := by
  have hlist := congrArg String.toList h
  rw [toList_uniqueName, toList_uniqueName] at hlist
  obtain ⟨hslot, _⟩ := append_inj_of_notMem (underscore_notMem_slot i)
    (underscore_notMem_slot j) (List.cons.inj (List.cons.inj hlist).2).2
  exact Int.repr_injective (String.toList_injective hslot)

/-! ## Generated paths -/

namespace VirtualPath

theorem toList_generated (uid path : String) : (generated uid path).toList =
    interfaceRoot.toList ++ (uid.toList ++ path.toList) := by
  simp [generated]

/-- **A generated path tells the unique name**, and so the slot. -/
theorem generated_inj {uid uid' path path' : String} (huid : '/' ∉ uid.toList)
    (huid' : '/' ∉ uid'.toList) (hpath : Text.startsWith path "/")
    (hpath' : Text.startsWith path' "/")
    (h : generated uid path = generated uid' path') : uid = uid' := by
  have hcut : ∀ {path : String}, Text.startsWith path "/" → ∃ rest, path.toList = '/' :: rest := by
    intro path hpath
    obtain ⟨rest, hrest⟩ := Option.isSome_iff_exists.1 hpath
    exact ⟨rest, Text.dropFront?_eq_some.1 hrest⟩
  obtain ⟨rest, hrest⟩ := hcut hpath
  obtain ⟨rest', hrest'⟩ := hcut hpath'
  have hlist := congrArg String.toList h
  rw [toList_generated, toList_generated, hrest, hrest'] at hlist
  exact String.toList_injective
    (append_inj_of_notMem huid huid' (List.append_cancel_left hlist)).1

/-- Generated paths lie under the root. -/
theorem isGenerated_generated (uid path : String) : isGenerated (generated uid path) = true := by
  have hroot : Text.dropFront? generatedRoot.toList (generated uid path).toList =
      some ("DataInterface/".toList ++ (uid.toList ++ path.toList)) := by
    rw [Text.dropFront?_eq_some, toList_generated, interfaceRoot, String.toList_append,
      List.append_assoc]
  rw [isGenerated, Text.startsWith, hroot]
  rfl

/-- **The interface's own path is found behind a generated path.** -/
theorem stripGenerated?_generated {uid path : String} (huid : '/' ∉ uid.toList)
    (hpath : Text.startsWith path "/") : stripGenerated? (generated uid path) = some path := by
  obtain ⟨rest, hrest⟩ := Option.isSome_iff_exists.1 hpath
  have hlist := Text.dropFront?_eq_some.1 hrest
  have hdrop : (uid.toList ++ path.toList).dropWhile (· ≠ '/') = path.toList := by
    have hall : ∀ c ∈ uid.toList, decide (c ≠ '/') = true := by
      rintro c hc
      refine decide_eq_true ?_
      rintro rfl
      exact huid hc
    rw [List.dropWhile_append_of_pos hall, hlist]
    rfl
  have hroot : Text.dropFront? interfaceRoot.toList (generated uid path).toList =
      some (uid.toList ++ path.toList) := Text.dropFront?_eq_some.2 (toList_generated uid path)
  rw [stripGenerated?, hroot]
  dsimp only
  rw [hdrop, hlist]
  show some (String.ofList _ : String) = some path
  rw [← hlist, String.ofList_toList]

/-- A generated path is shown as the interface's own path. -/
theorem display_generated {uid path : String} (huid : '/' ∉ uid.toList)
    (hpath : Text.startsWith path "/") : display (generated uid path) = path := by
  rw [display, stripGenerated?_generated huid hpath]
  rfl

/-- No generated path is that of the assembled source or of the wrapper. -/
theorem generated_ne (uid path : String) :
    generated uid path ≠ generatedKernel ∧ generated uid path ≠ kernelWrapper := by
  -- they differ in the characters of the root
  have hroot : ∀ {other : String}, generated uid path = other →
      interfaceRoot.toList = other.toList.take interfaceRoot.toList.length := by
    rintro _ rfl
    rw [toList_generated, List.take_left]
  exact ⟨fun h => absurd (hroot h) (by decide), fun h => absurd (hroot h) (by decide)⟩

end VirtualPath

/-- **Every interface with a path of its own has another generated path**, as long as classes are
    named without slashes and own paths begin with one. -/
theorem Graph.nodup_generatedPaths {g : Graph} {k : Int}
    (hclass : ∀ p ∈ g.boundInterfaces k, '/' ∉ p.2.interface.className.toList)
    (hpath : ∀ p ∈ g.boundInterfaces k, p.2.interface.virtualPath ≠ "" →
      Text.startsWith p.2.interface.virtualPath "/") :
    ((g.boundInterfaces k).filterMap fun p => if p.2.interface.virtualPath = "" then none
      else some (VirtualPath.generated (p.2.uid p.1) p.2.interface.virtualPath)).Nodup := by
  have huid : ∀ p ∈ g.boundInterfaces k, '/' ∉ (p.2.uid p.1).toList := fun p hp =>
    notMem_uniqueName (hclass p hp) p.1 (by decide) (by decide)
  rw [List.Nodup, List.pairwise_filterMap]
  refine (g.nodup_boundInterfaces k).imp_of_mem fun {p q} hp hq hne path hgen path' hgen' => ?_
  split at hgen
  · cases hgen
  · rename_i hown
    split at hgen'
    · cases hgen'
    · rename_i hown'
      cases hgen
      cases hgen'
      -- the path tells the slot, and the slot the interface
      intro heq
      have hslot : p.1 = q.1 := uniqueName_inj
        (VirtualPath.generated_inj (huid p hp) (huid q hq) (hpath p hp hown) (hpath q hq hown') heq)
      have hsame := (interface?_of_mem hp).symm.trans (hslot ▸ interface?_of_mem hq)
      exact hne (Prod.ext hslot (Option.some.inj hsame))

/-! ## Gathered sources -/

namespace SourcePool

/-- Sources were added, with new paths, each once. -/
def Gathered.Grows (g g' : Gathered) : Prop :=
  ∃ new, g'.sources = g.sources ++ new ∧ (new.map Source.path).Nodup ∧
    (∀ s ∈ new, s.path ∉ g.seen ∧ s.path ∈ g'.seen) ∧ ∀ p ∈ g.seen, p ∈ g'.seen

theorem Gathered.Grows.refl (g : Gathered) : g.Grows g :=
  ⟨[], (List.append_nil _).symm, List.nodup_nil, fun _ h => absurd h List.not_mem_nil,
    fun _ h => h⟩

theorem Gathered.Grows.trans {g g' g'' : Gathered} (h : g.Grows g') (h' : g'.Grows g'') :
    g.Grows g'' := by
  obtain ⟨new, hsources, hnodup, hnew, hseen⟩ := h
  obtain ⟨new', hsources', hnodup', hnew', hseen'⟩ := h'
  refine ⟨new ++ new', by rw [hsources', hsources, List.append_assoc], ?_, fun s hs => ?_,
    fun p hp => hseen' p (hseen p hp)⟩
  · rw [List.map_append, List.nodup_append]
    refine ⟨hnodup, hnodup', ?_⟩
    rintro _ hp _ hq rfl
    obtain ⟨s, hs, hpath⟩ := List.mem_map.1 hp
    obtain ⟨s', hs', hpath'⟩ := List.mem_map.1 hq
    exact (hnew' s' hs').1 (hpath' ▸ hpath ▸ (hnew s hs).2)
  · rcases List.mem_append.1 hs with hs | hs
    · exact ⟨(hnew s hs).1, hseen' _ (hnew s hs).2⟩
    · exact ⟨fun hp => (hnew' s hs).1 (hseen _ hp), (hnew' s hs).2⟩

/-- **Gathering adds new paths only**, each once. -/
theorem gatherAux_grows (pool : SourcePool) : ∀ (depth : Nat) (roots : List (Option Nat))
    (g : Gathered), g.Grows (gatherAux pool depth roots g)
  | 0, _, g => .refl g
  | depth + 1, roots, g => by
    rw [gatherAux]
    induction roots generalizing g with
    | nil => exact .refl g
    | cons root roots ih =>
      rw [List.foldl_cons]
      refine .trans ?_ (ih _)
      split
      · exact .refl g
      · rename_i s _
        split
        · exact .refl g
        · -- the source itself comes after all that it depends on
          rename_i hnew
          obtain ⟨new, hsources, hnodup, hadded, hseen⟩ :=
            gatherAux_grows pool depth s.dependencies { g with seen := s.path :: g.seen }
          refine ⟨new ++ [s], ?_, ?_, fun x hx => ?_,
            fun p hp => hseen p (List.mem_cons_of_mem _ hp)⟩
          · show (gatherAux pool depth s.dependencies _).sources ++ [s] = _
            rw [hsources, List.append_assoc]
          · rw [List.map_append, List.nodup_append]
            refine ⟨hnodup, List.nodup_singleton _, ?_⟩
            rintro _ hp _ hq rfl
            obtain ⟨x, hx, hpath⟩ := List.mem_map.1 hp
            rw [List.mem_singleton.1 hq] at hpath
            exact (hadded x hx).1 (hpath ▸ List.mem_cons_self ..)
          · rcases List.mem_append.1 hx with hx | hx
            · exact ⟨fun hp => (hadded x hx).1 (List.mem_cons_of_mem _ hp), (hadded x hx).2⟩
            · rw [List.mem_singleton.1 hx]
              exact ⟨hnew, hseen _ (List.mem_cons_self ..)⟩

/-- **Every path is gathered once.** -/
theorem nodup_gather (pool : SourcePool) (roots : List (Option Nat)) :
    ((pool.gather roots).map Source.path).Nodup := by
  obtain ⟨new, hsources, hnodup, _⟩ := gatherAux_grows pool (pool.size + 1) roots {}
  rw [gather, hsources]
  exact hnodup

end SourcePool

/-! ## Files by their paths -/

/-- Files with different paths are found where they were put, and hide what was there. -/
theorem lookup_foldl_putAssoc {files base : List (String × String)}
    (hnodup : (files.map Prod.fst).Nodup) (path : String) :
    (files.foldl (fun files x => putAssoc x.1 x.2 files) base).lookup path =
      (files.lookup path).or (base.lookup path) := by
  induction files generalizing base with
  | nil => rfl
  | cons f files ih =>
    obtain ⟨hnew, hnodup⟩ := List.nodup_cons.1 hnodup
    rw [List.foldl_cons, ih hnodup, List.lookup_cons]
    by_cases hf : path = f.1
    · subst hf
      have hnone : files.lookup f.1 = none := List.lookup_eq_none_iff.2 fun x hx =>
        bne_iff_ne.2 fun h => hnew (h ▸ List.mem_map_of_mem hx)
      rw [hnone, beq_self_eq_true, FileStore.lookup_putAssoc_self]
      rfl
    · rw [beq_false_of_ne hf, FileStore.lookup_putAssoc_of_ne _ hf]

namespace KernelBuild

/-- **A generated file is found under its path**, and hides an additional one. -/
theorem lookup_generated {b : KernelBuild} (hnodup : (b.generated.map Prod.fst).Nodup)
    {path text : String} (h : (path, text) ∈ b.generated) :
    b.includes.lookup path = some text := by
  rw [includes_eq]
  refine (lookup_foldl_putAssoc hnodup path).trans ?_
  rw [lookup_of_mem hnodup h]
  rfl

/-- **A build's files are found under their paths**, if no path is taken twice. -/
theorem lookup_includes {b : KernelBuild}
    (hnodup : (b.additional.map Source.path ++ b.generated.map Prod.fst).Nodup) :
    (∀ s ∈ b.additional, b.includes.lookup s.path = some s.text) ∧
      (∀ path text, (path, text) ∈ b.generated → b.includes.lookup path = some text) ∧
      ∀ path, path ∉ b.additional.map Source.path → path ∉ b.generated.map Prod.fst →
        b.includes.lookup path = none := by
  rw [List.nodup_append] at hnodup
  obtain ⟨hadditional, hgenerated, hapart⟩ := hnodup
  have hpairs : ((b.additional.map fun s => (s.path, s.text)).map Prod.fst).Nodup := by
    rw [List.map_map]
    exact hadditional
  have hlookup : ∀ path, b.includes.lookup path = (b.generated.lookup path).or
      ((b.additional.map fun s => (s.path, s.text)).lookup path) := by
    intro path
    rw [includes_eq]
    refine (lookup_foldl_putAssoc hgenerated path).trans ?_
    rw [lookup_foldl_putAssoc hpairs, List.lookup_nil, Option.or_none]
  have hnone : ∀ {files : List (String × String)} {path : String}, path ∉ files.map Prod.fst →
      files.lookup path = none := fun hpath => List.lookup_eq_none_iff.2 fun x hx =>
    bne_iff_ne.2 fun h => hpath (h ▸ List.mem_map_of_mem hx)
  refine ⟨fun s hs => ?_, fun _ _ h => lookup_generated hgenerated h, fun path hpath hpath' => ?_⟩
  · have hother : s.path ∉ b.generated.map Prod.fst := fun h =>
      hapart _ (List.mem_map_of_mem hs) _ h rfl
    rw [hlookup, hnone hother, Option.none_or]
    exact lookup_of_mem hpairs (List.mem_map.2 ⟨s, hs, rfl⟩)
  · rw [hlookup, hnone hpath', Option.none_or]
    refine hnone ?_
    rw [List.map_map]
    exact hpath

end KernelBuild

end KernelGraph
