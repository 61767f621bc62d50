/-
  The translation unit of a kernel is put together from its fragments, each once and in order.

      definitions
      group size constants
      ── wrapper ─────────────────────────────────────────
        the wrapper's own lines
        ── generated kernel ──────────────────────────────
          struct declarations
          ── additional source ──  ...   in gather order
          ── interface ──  or its code   in order of the first edge
          shims                          in order of the edges
          body

  A rule draws the two markers of a path.  What the fragments are is read off the graph; that they
  are one after the other in the unit is `Becomes`, applied to the way the source was assembled.

  The files among the fragments have paths of their own, which lead back to the interfaces
  (`Graph.generated_unambiguous`).
-/
import KernelGraph.Proofs.Build
import KernelGraph.Proofs.Fragments
import KernelGraph.Proofs.GeneratedPaths
import KernelGraph.Proofs.Layout

namespace KernelGraph

open Include

/-! ## Shims are lines -/

/-- Nothing that a shim prints contains a line feed. -/
structure Shim.OneLine (s : Shim) : Prop where
  impl : '\n' ∉ s.impl.name.toList
  wrap : '\n' ∉ s.wrap.name.toList
  result : '\n' ∉ s.wrap.result.toList
  params : ∀ p ∈ s.wrap.params, '\n' ∉ p.type.toList
  uid : '\n' ∉ s.uid.toList
  rename : '\n' ∉ s.rename.toList
  scope : '\n' ∉ s.scope.toList

theorem notMem_append {c : Char} {a b : String} :
    c ∉ (a ++ b).toList ↔ c ∉ a.toList ∧ c ∉ b.toList := by
  rw [String.toList_append, List.mem_append, not_or]

theorem notMem_intercalate {c : Char} {sep : String} {texts : List String} (hsep : c ∉ sep.toList)
    (h : ∀ t ∈ texts, c ∉ t.toList) : c ∉ (sep.intercalate texts).toList := by
  rw [String.toList_intercalate]
  induction texts with
  | nil => exact List.not_mem_nil
  | cons t ts ih =>
    have ht := h t (List.mem_cons_self ..)
    have hts := ih fun t' ht' => h t' (List.mem_cons_of_mem t ht')
    cases ts with
    | nil => simpa [List.intercalate] using ht
    | cons u us =>
      rw [List.map_cons, List.map_cons, List.intercalate_cons_cons, ← List.map_cons]
      simp only [List.mem_append, not_or]
      exact ⟨⟨ht, hsep⟩, hts⟩

theorem newline_notMem_paramName (f : Function) (i : Nat) : '\n' ∉ (f.paramName i).toList := by
  rw [Function.paramName, String.toList_append, List.mem_append, not_or]
  refine ⟨by decide, fun h => ?_⟩
  have hdigit := Nat.isDigit_of_mem_toDigits (by decide) (by decide) (Nat.toList_repr ▸ h)
  exact absurd hdigit (by decide)

theorem newline_notMem_keyword (m : Modifier) : '\n' ∉ m.keyword.toList := by
  cases m <;> decide

namespace Shim.OneLine

variable {s : Shim}

theorem name (h : s.OneLine) : '\n' ∉ s.name.toList := by
  rw [Shim.name]
  split
  · exact h.wrap
  · exact h.rename

theorem call (h : s.OneLine) : '\n' ∉ s.call.toList := by
  have hargs : '\n' ∉ (", ".intercalate (Function.forwarded s.impl s.wrap)).toList := by
    refine notMem_intercalate (by decide) fun t ht => ?_
    obtain ⟨i, _, rfl⟩ := List.mem_map.1 ht
    exact newline_notMem_paramName s.wrap i
  have himpl := h.impl
  have huid := h.uid
  rw [Shim.call, Function.implName]
  simp only [notMem_append]
  refine ⟨⟨⟨⟨?_, ⟨himpl, by decide⟩, huid⟩, by decide⟩, hargs⟩, by decide⟩
  split <;> decide

/-- The parameters in one of the dialects. -/
theorem params_text (h : s.OneLine) {print : Param × String → String}
    (hprint : ∀ p n, '\n' ∉ p.type.toList → '\n' ∉ n.toList → '\n' ∉ (print (p, n)).toList) :
    '\n' ∉ (", ".intercalate (s.namedParams.map print)).toList := by
  refine notMem_intercalate (by decide) fun t ht => ?_
  obtain ⟨⟨p, n⟩, hp, rfl⟩ := List.mem_map.1 ht
  obtain ⟨hparam, hname⟩ := List.of_mem_zip hp
  obtain ⟨i, _, rfl⟩ := List.mem_map.1 hname
  exact hprint p _ (h.params p hparam) (newline_notMem_paramName s.wrap i)

/-- **A shim is one line.** -/
theorem exists_line (h : s.OneLine) (d : Dialect) :
    ∃ line, d.shim s = line ++ "\n" ∧ '\n' ∉ line.toList := by
  have hname := h.name
  have hcall := h.call
  have hscope := h.scope
  have hresult := h.result
  cases d with
  | hlsl =>
    have hparams : '\n' ∉ (", ".intercalate (s.namedParams.map fun p =>
        Function.modifierText p.1 ++ p.1.type ++ " " ++ p.2)).toList := by
      refine h.params_text fun p n hp hn => ?_
      simp only [notMem_append]
      refine ⟨⟨⟨?_, hp⟩, by decide⟩, hn⟩
      rw [Function.modifierText]
      split
      · decide
      · exact notMem_append.2 ⟨newline_notMem_keyword _, by decide⟩
    refine ⟨(if s.scope = "" then "" else "namespace " ++ s.scope ++ " \x7b ") ++
      s.wrap.resultText ++ " " ++ s.name ++ "(" ++ ", ".intercalate (s.namedParams.map fun p =>
        Function.modifierText p.1 ++ p.1.type ++ " " ++ p.2) ++ ") \x7b " ++ s.call ++
      (if s.scope = "" then "" else " \x7d") ++ " \x7d", ?_, ?_⟩
    · have hend : (" \x7d\n" : String) = " \x7d" ++ "\n" := by decide
      show s.hlsl = _
      unfold Shim.hlsl
      rw [hend, ← String.append_assoc]
    · simp only [notMem_append]
      refine ⟨⟨⟨⟨⟨⟨⟨⟨⟨?_, ?_⟩, by decide⟩, hname⟩, by decide⟩, hparams⟩, by decide⟩, hcall⟩, ?_⟩,
        by decide⟩
      · split
        · decide
        · exact notMem_append.2 ⟨notMem_append.2 ⟨by decide, hscope⟩, by decide⟩
      · rw [Function.resultText]
        split
        · exact hresult
        · decide
      · split <;> decide
  | wgsl =>
    have hparams : '\n' ∉ (", ".intercalate (s.namedParams.map fun p =>
        p.2 ++ ": " ++ Shim.wgslType p.1)).toList := by
      refine h.params_text fun p n hp hn => ?_
      simp only [notMem_append]
      refine ⟨⟨hn, by decide⟩, ?_⟩
      rw [Shim.wgslType]
      split
      · simp only [notMem_append]
        exact ⟨⟨by decide, hp⟩, by decide⟩
      · simp only [notMem_append]
        exact ⟨⟨by decide, hp⟩, by decide⟩
      · exact hp
      · exact hp
    refine ⟨"fn " ++ (if s.scope = "" then "" else s.scope ++ "_") ++ s.name ++ "(" ++
      ", ".intercalate (s.namedParams.map fun p => p.2 ++ ": " ++ Shim.wgslType p.1) ++ ")" ++
      (if s.wrap.hasResult then " -> " ++ s.wrap.result else "") ++ " \x7b " ++ s.call ++ " \x7d",
      ?_, ?_⟩
    · have hend : (" \x7d\n" : String) = " \x7d" ++ "\n" := by decide
      show s.wgsl = _
      unfold Shim.wgsl
      rw [hend, ← String.append_assoc]
    · simp only [notMem_append]
      refine ⟨⟨⟨⟨⟨⟨⟨⟨⟨by decide, ?_⟩, hname⟩, by decide⟩, hparams⟩, by decide⟩, ?_⟩, by decide⟩,
        hcall⟩, by decide⟩
      · split
        · decide
        · exact notMem_append.2 ⟨hscope, by decide⟩
      · split
        · exact notMem_append.2 ⟨by decide, hresult⟩
        · decide

end Shim.OneLine

/-! ## What the interfaces contribute -/

namespace Graph

section
variable {g : Graph} {k : Int} {i : Int} {x : DataInterface}

/-- What the interface at a slot contributes: its code, and the generated path if it has an own
    one. -/
def Contributes (g : Graph) (k : Int) (p : Int × DataInterface) (c : Contribution) : Prop :=
  p.2.interface.source ((g.layout k).scope p.1) = .ok c.code ∧
    c.path = if p.2.interface.virtualPath = "" then none
      else some (VirtualPath.generated (p.2.uid p.1) p.2.interface.virtualPath)

/-- **Every bound interface contributes once**, in the order of the slots. -/
theorem contributes_of_contributions {files : FileStore} {cs : List Contribution}
    (h : contributions (g.layout k) (g.boundInterfaces k) files = .ok cs) :
    List.Forall₂ (g.Contributes k) (g.boundInterfaces k) cs := by
  have hall : ∀ (is : List (Int × DataInterface)), (∀ p ∈ is, p ∈ g.boundInterfaces k) →
      ∀ files cs, contributions (g.layout k) is files = .ok cs →
        List.Forall₂ (g.Contributes k) is cs := by
    intro is
    induction is with
    | nil =>
      intro _ files cs h
      cases h
      exact .nil
    | cons p is ih =>
      obtain ⟨i, d⟩ := p
      intro hbound files cs h
      have hrest := fun q hq => hbound q (List.mem_cons_of_mem _ hq)
      simp only [contributions] at h
      cases hcode : d.interface.source ((g.layout k).scope i) with
      | error e =>
        simp only [hcode] at h
        cases h
      | ok code =>
        simp only [hcode] at h
        cases hcs : contributions (g.layout k) is (d.interface.fragment files).2 with
        | error e =>
          rw [hcs] at h
          cases h
        | ok cs =>
          rw [hcs] at h
          cases h
          refine .cons ⟨hcode, ?_⟩ (ih hrest _ cs hcs)
          rw [uid_scope_layout (hbound (i, d) (List.mem_cons_self ..))]
  exact hall _ (fun _ h => h) files cs h

/-- The paths of the interfaces' files. -/
theorem filterMap_path {is : List (Int × DataInterface)} {cs : List Contribution}
    (h : List.Forall₂ (g.Contributes k) is cs) :
    cs.filterMap Contribution.path = is.filterMap fun p =>
      if p.2.interface.virtualPath = "" then none
      else some (VirtualPath.generated (p.2.uid p.1) p.2.interface.virtualPath) := by
  induction h with
  | nil => rfl
  | cons hp _ ih => rw [List.filterMap_cons, List.filterMap_cons, hp.2, ih]

theorem mem_of_interface? {i : Int} {x : DataInterface} (h : g.interface? i = some x) :
    some x ∈ g.interfaces := by
  rw [interface?, elementAt?, Option.join_eq_some_iff] at h
  split at h
  · cases h
  · exact List.mem_of_getElem? h

/-- The files of the interfaces stand at these paths. -/
theorem map_fst_files (cs : List Contribution) :
    (cs.filterMap fun c => c.path.map fun p => (p, c.code)).map Prod.fst =
      cs.filterMap Contribution.path := by
  rw [List.map_filterMap]
  congr 1
  funext c
  cases c.path <;> rfl

theorem exists_of_forall₂ {α β : Type} {R : α → β → Prop} {as : List α} {bs : List β}
    (h : List.Forall₂ R as bs) {b : β} (hb : b ∈ bs) : ∃ a ∈ as, R a b := by
  induction h with
  | nil => cases hb
  | cons hab _ ih =>
    rcases List.mem_cons.1 hb with rfl | hb
    · exact ⟨_, List.mem_cons_self .., hab⟩
    · obtain ⟨a, hmem, ha⟩ := ih hb
      exact ⟨a, List.mem_cons_of_mem _ hmem, ha⟩

theorem generated_ne_of_contributes {p : Int × DataInterface} {c : Contribution}
    (h : g.Contributes k p c) {path : String} (hpath : c.path = some path) :
    path ≠ VirtualPath.generatedKernel ∧ path ≠ VirtualPath.kernelWrapper := by
  rw [h.2] at hpath
  split at hpath
  · cases hpath
  · cases hpath
    exact VirtualPath.generated_ne _ _

/-- A shim belongs to a bound slot. -/
theorem uid_of_mem_shims {s : KernelSource} {f : Shim} (h : f ∈ g.shims k s) :
    ∃ p ∈ g.boundInterfaces k, f.uid = p.2.uid p.1 := by
  obtain ⟨⟨e, n⟩, he, hshim⟩ := List.mem_filterMap.1 h
  dsimp only at hshim
  rw [edgeShim?] at hshim
  cases hd : g.interface? e.interface with
  | none =>
    rw [hd] at hshim
    cases hshim
  | some d =>
    rw [hd] at hshim
    obtain ⟨_, _, rfl⟩ := Option.map_eq_some_iff.1 hshim
    refine ⟨(e.interface, d), List.mem_filterMap.2 ⟨e.interface, mem_distinct.2 ?_, ?_⟩, rfl⟩
    · exact List.mem_map.2 ⟨(e, n), he, rfl⟩
    · rw [hd]
      rfl

/-! ## What the fragments have to be like -/

/-- The fragments of a kernel can be put one after the other: texts that are pulled in or copied
    have no include lines of their own and end with a line feed, what is printed in a line has no
    line feed, and no path is taken twice. -/
structure Legible (g : Graph) (k : Int) (s : KernelSource) (d : Dialect) : Prop where
  structs : ∀ t ∈ structDeclarations (g.boundInterfaces k), Plain t
  code : ∀ p ∈ g.boundInterfaces k, ∀ text,
    p.2.interface.source ((g.layout k).scope p.1) = .ok text → Text.isTerminated text ∧ Plain text
  sources : ∀ x ∈ s.pool.gather s.sources, Text.isTerminated x.text ∧ Plain x.text
  body : Text.isTerminated s.body ∧ Plain s.body
  definitions : ∀ x ∈ (allDefinitions s (g.boundInterfaces k)).toList,
    '\n' ∉ x.name.toList ∧ '\n' ∉ x.value.toList
  /-- Classes are named by identifiers; it matters only that these marks are none of their
      characters. -/
  classNames : ∀ p ∈ g.boundInterfaces k, ∀ c ∈ ['/', '"', '\n'],
    c ∉ p.2.interface.className.toList
  /-- What the shims print besides the unique names. -/
  names : ∀ x ∈ g.shims k s, '\n' ∉ x.impl.name.toList ∧ '\n' ∉ x.wrap.name.toList ∧
    '\n' ∉ x.wrap.result.toList ∧ (∀ p ∈ x.wrap.params, '\n' ∉ p.type.toList) ∧
    '\n' ∉ x.rename.toList ∧ '\n' ∉ x.scope.toList
  shims : ∀ x ∈ g.shims k s, path? (d.shim x) = none
  interfacePaths : ∀ p ∈ g.boundInterfaces k, p.2.interface.virtualPath ≠ "" →
    Text.startsWith p.2.interface.virtualPath "/" ∧ '"' ∉ p.2.interface.virtualPath.toList ∧
      '\n' ∉ p.2.interface.virtualPath.toList
  sourcePaths : ∀ x ∈ s.pool.gather s.sources, '"' ∉ x.path.toList ∧ '\n' ∉ x.path.toList ∧
    x.path ≠ VirtualPath.kernelWrapper ∧ x.path ≠ VirtualPath.generatedKernel ∧
    ∀ p ∈ g.boundInterfaces k, p.2.interface.virtualPath ≠ "" →
      x.path ≠ VirtualPath.generated (p.2.uid p.1) p.2.interface.virtualPath

section
variable {s : KernelSource} {d : Dialect} {cs : List Contribution}

namespace Legible

variable (h : g.Legible k s d)
include h

theorem notMem_uid {p : Int × DataInterface} (hp : p ∈ g.boundInterfaces k) {c : Char}
    (hc : c ∈ ['/', '"', '\n']) : c ∉ (p.2.uid p.1).toList := by
  have hname := h.classNames p hp c hc
  simp only [List.mem_cons, List.not_mem_nil, or_false] at hc
  rcases hc with rfl | rfl | rfl
  · exact notMem_uniqueName hname p.1 (by decide) (by decide)
  · exact notMem_uniqueName hname p.1 (by decide) (by decide)
  · exact notMem_uniqueName hname p.1 (by decide) (by decide)

/-- What the interfaces contribute is plain, and its paths are those of include lines. -/
theorem contribution {p : Int × DataInterface} (hp : p ∈ g.boundInterfaces k) {c : Contribution}
    (hc : g.Contributes k p c) : (Text.isTerminated c.code ∧ Plain c.code) ∧
      ∀ path, c.path = some path → '"' ∉ path.toList ∧ '\n' ∉ path.toList := by
  refine ⟨h.code p hp _ hc.1, fun path hpath => ?_⟩
  rw [hc.2] at hpath
  split at hpath
  · cases hpath
  · rename_i hown
    cases hpath
    obtain ⟨_, hquote, hline⟩ := h.interfacePaths p hp hown
    rw [VirtualPath.toList_generated]
    simp only [List.mem_append, not_or]
    exact ⟨⟨by decide, h.notMem_uid hp (by decide), hquote⟩,
      ⟨by decide, h.notMem_uid hp (by decide), hline⟩⟩

theorem shim {x : Shim} (hx : x ∈ g.shims k s) :
    Text.isTerminated (d.shim x) ∧ Plain (d.shim x) := by
  obtain ⟨himpl, hwrap, hresult, hparams, hrename, hscope⟩ := h.names x hx
  obtain ⟨p, hp, huid⟩ := uid_of_mem_shims hx
  have hone : x.OneLine := ⟨himpl, hwrap, hresult, hparams, huid ▸ h.notMem_uid hp (by decide),
    hrename, hscope⟩
  obtain ⟨text, htext, hline⟩ := hone.exists_line d
  have hpath := h.shims x hx
  rw [htext] at hpath ⊢
  refine ⟨Text.isTerminated_append_newline _, fun line hmem => ?_⟩
  rw [Text.lines_single hline] at hmem
  rwa [List.mem_singleton.1 hmem]

/-- **No path is taken twice.** -/
theorem nodup_paths (hcs : List.Forall₂ (g.Contributes k) (g.boundInterfaces k) cs) :
    ((s.pool.gather s.sources).map Source.path ++ cs.filterMap Contribution.path).Nodup := by
  rw [filterMap_path hcs, List.nodup_append]
  refine ⟨SourcePool.nodup_gather _ _, nodup_generatedPaths
    (fun p hp => h.classNames p hp _ (by decide))
    (fun p hp hown => (h.interfacePaths p hp hown).1), ?_⟩
  rintro _ hp _ hq rfl
  obtain ⟨x, hx, hpath⟩ := List.mem_map.1 hp
  obtain ⟨p, hp, hpath'⟩ := List.mem_filterMap.1 hq
  split at hpath'
  · cases hpath'
  · rename_i hown
    exact (h.sourcePaths x hx).2.2.2.2 p hp hown (hpath.trans (Option.some.inj hpath').symm)

end Legible

/-! ## The unit -/

/-- What a build takes over from the graph, and from what its interfaces contribute. -/
theorem assemble_parts {b : KernelBuild} {files : FileStore} {k : Nat} {w : Digest}
    (h : g.assemble files k s d w = .ok b) : ∃ cs,
    contributions (g.layout k) (g.boundInterfaces k) files = .ok cs ∧
      b.additional = s.pool.gather s.sources ∧
      b.generated = cs.filterMap (fun c => c.path.map fun p => (p, c.code)) ∧
      b.definitions = allDefinitions s (g.boundInterfaces k) ∧ b.groupSize = s.groupSize ∧
      b.source = String.join ((structDeclarations (g.boundInterfaces k)).map (· ++ "\n")) ++
        String.join ((s.pool.gather s.sources).map fun x => d.includeLine x.path) ++
        String.join (cs.map fun c => c.text d) ++
        String.join ((g.shims k s).map d.shim) ++ s.body := by
  simp only [assemble] at h
  cases hcs : contributions (g.layout k) (g.boundInterfaces k) files with
  | error e =>
    rw [hcs] at h
    cases h
  | ok cs =>
    rw [hcs] at h
    cases h
    exact ⟨cs, rfl, rfl, rfl, rfl, rfl, rfl⟩

/-- The fragments that are files or may be, in order: the gathered sources, then what the interfaces
    contribute. -/
def parts (s : KernelSource) (cs : List Contribution) : List (Option String × String) :=
  (s.pool.gather s.sources).map (fun x => (some x.path, x.text)) ++
    cs.map fun c => (c.path, c.code)

theorem filterMap_parts (s : KernelSource) (cs : List Contribution) :
    (parts s cs).filterMap Prod.fst =
      (s.pool.gather s.sources).map Source.path ++ cs.filterMap Contribution.path := by
  rw [parts, List.filterMap_append, List.filterMap_map, List.filterMap_map]
  congr 1
  exact congrFun (List.filterMap_eq_map' (f := Source.path)) _

/-- The assembled source with its files unfolded: the struct declarations, the gathered sources and
    the code of the interfaces, each file between its markers, the shims and the body. -/
def unfolded (g : Graph) (k : Int) (s : KernelSource) (d : Dialect) (cs : List Contribution) :
    String :=
  String.join ((structDeclarations (g.boundInterfaces k)).map (· ++ "\n")) ++
    String.join ((parts s cs).map shown) ++ String.join ((g.shims k s).map d.shim) ++ s.body

/-- **The assembled source becomes its fragments**, if the files are found. -/
theorem Legible.becomes (h : g.Legible k s d)
    (hcs : List.Forall₂ (g.Contributes k) (g.boundInterfaces k) cs) {r : Resolver}
    (hfound : ∀ path text, (some path, text) ∈ parts s cs → r.source? path = some text) :
    ∃ done, Becomes r [VirtualPath.kernelWrapper, VirtualPath.generatedKernel] []
      (String.join ((structDeclarations (g.boundInterfaces k)).map (· ++ "\n")) ++
        String.join ((parts s cs).map (standing d)) ++ String.join ((g.shims k s).map d.shim) ++
        s.body) (g.unfolded k s d cs) done := by
  have hfile : ∀ path text, (some path, text) ∈ parts s cs → '"' ∉ path.toList ∧
      '\n' ∉ path.toList ∧ path ∉ [VirtualPath.kernelWrapper, VirtualPath.generatedKernel] ∧
      path ∉ ([] : List String) ∧ r.source? path = some text := by
    intro path text hpart
    have hsource := hfound path text hpart
    rcases List.mem_append.1 hpart with hpart | hpart
    · obtain ⟨x, hx, heq⟩ := List.mem_map.1 hpart
      cases heq
      obtain ⟨hquote, hline, hwrapper, hkernel, _⟩ := h.sourcePaths x hx
      exact ⟨hquote, hline, by simp [hwrapper, hkernel], List.not_mem_nil, hsource⟩
    · obtain ⟨c, hc, heq⟩ := List.mem_map.1 hpart
      obtain ⟨hpath, rfl⟩ := Prod.mk.inj heq
      obtain ⟨p, hp, hpc⟩ := exists_of_forall₂ hcs hc
      obtain ⟨hquote, hline⟩ := (h.contribution hp hpc).2 path hpath
      obtain ⟨hkernel, hwrapper⟩ := generated_ne_of_contributes hpc hpath
      exact ⟨hquote, hline, by simp [hwrapper, hkernel], List.not_mem_nil, hsource⟩
  have htext : ∀ p ∈ parts s cs, Text.isTerminated p.2 ∧ Plain p.2 := by
    intro p hp
    rcases List.mem_append.1 hp with hp | hp
    · obtain ⟨x, hx, rfl⟩ := List.mem_map.1 hp
      exact h.sources x hx
    · obtain ⟨c, hc, rfl⟩ := List.mem_map.1 hp
      obtain ⟨p, hp, hpc⟩ := exists_of_forall₂ hcs hc
      exact (h.contribution hp hpc).1
  have hstructs : ∀ t ∈ (structDeclarations (g.boundInterfaces k)).map (· ++ "\n"),
      Text.isTerminated t ∧ Plain t := by
    intro t ht
    obtain ⟨decl, hdecl, rfl⟩ := List.mem_map.1 ht
    exact ⟨Text.isTerminated_append_newline decl, plain_newline (h.structs decl hdecl)⟩
  have hshims : ∀ t ∈ (g.shims k s).map d.shim, Text.isTerminated t ∧ Plain t := by
    intro t ht
    obtain ⟨x, hx, rfl⟩ := List.mem_map.1 ht
    exact h.shim hx
  have hnodup : ((parts s cs).filterMap Prod.fst).Nodup := by
    rw [filterMap_parts]
    exact h.nodup_paths hcs
  exact ⟨_, (((Becomes.joined hstructs).append (.row d htext hfile hnodup)).append
    (.joined hshims)).append (.plain h.body.1 h.body.2)⟩

/-- The wrapper is its own lines and the include line of the assembled source. -/
theorem kernelWrapperText_eq : Builtin.kernelWrapperText =
    String.join Builtin.kernelWrapperLines.dropLast ++
      ("#include \"" ++ VirtualPath.generatedKernel ++ "\"\n") := by
  have hlast : "#include \"/ComputeGraph/Generated/ComputeKernel.wgsl\"\n" =
      "#include \"" ++ VirtualPath.generatedKernel ++ "\"\n" := by decide
  have hlines : Builtin.kernelWrapperLines = Builtin.kernelWrapperLines.dropLast ++
      ["#include \"" ++ VirtualPath.generatedKernel ++ "\"\n"] := by
    rw [← hlast]
    rfl
  rw [Builtin.kernelWrapperText, hlines, String.join_append, List.dropLast_concat]
  simp [String.join_cons]

/-- The wrapper's own lines are no include lines. -/
theorem plain_wrapper : ∀ line ∈ Builtin.kernelWrapperLines.dropLast,
    Text.isTerminated line ∧ Plain line := by
  simp only [Builtin.kernelWrapperLines, List.dropLast, List.forall_mem_cons]
  exact ⟨lines_ofList (by decide), lines_ofList (by decide), lines_ofList (by decide),
    lines_ofList (by decide), lines_ofList (by decide), lines_ofList (by decide),
    fun line hline => absurd hline List.not_mem_nil⟩

/-- **The request finds every file**: the wrapper in the registry, the assembled source, and the
    fragments that are files under their own paths. -/
theorem Legible.finds {b : KernelBuild} {r : Resolver} (h : g.Legible k s d)
    (hcs : List.Forall₂ (g.Contributes k) (g.boundInterfaces k) cs)
    (hadditional : b.additional = s.pool.gather s.sources)
    (hgenerated : b.generated = cs.filterMap fun c => c.path.map fun p => (p, c.code)) :
    (b.request r).resolver.source? VirtualPath.generatedKernel = some b.source ∧
      (b.request r).resolver.source? VirtualPath.kernelWrapper =
        r.source? VirtualPath.kernelWrapper ∧
      ∀ path text, (some path, text) ∈ parts s cs →
        (b.request r).resolver.source? path = some text := by
  have hown : b.additional.map Source.path ++ b.generated.map Prod.fst =
      (parts s cs).filterMap Prod.fst := by
    rw [filterMap_parts, hadditional, hgenerated, map_fst_files]
  have hnodup : (b.additional.map Source.path ++ b.generated.map Prod.fst).Nodup := by
    rw [hown, filterMap_parts]
    exact h.nodup_paths hcs
  obtain ⟨hsource, hcode, hmissing⟩ := KernelBuild.lookup_includes hnodup
  -- the request looks at the assembled source, then at its own files, then at the registry
  have hlookup : ∀ path, (b.request r).resolver.source? path =
      (([(VirtualPath.generatedKernel, b.source)].lookup path).or (b.includes.lookup path)).or
        (r.source? path) := fun _ => rfl
  have hother : ∀ path, path ≠ VirtualPath.generatedKernel →
      (b.request r).resolver.source? path = (b.includes.lookup path).or (r.source? path) := by
    intro path hpath
    rw [hlookup, List.lookup_cons, beq_false_of_ne hpath, List.lookup_nil, Option.none_or]
  refine ⟨?_, ?_, fun path text hpart => ?_⟩
  · rw [hlookup, List.lookup_cons, beq_self_eq_true]
    rfl
  · have hapart : VirtualPath.kernelWrapper ∉ (parts s cs).filterMap Prod.fst := by
      intro hmem
      obtain ⟨⟨path, text⟩, hpart, rfl⟩ := List.mem_filterMap.1 hmem
      rcases List.mem_append.1 hpart with hpart | hpart
      · obtain ⟨x, hx, heq⟩ := List.mem_map.1 hpart
        exact (h.sourcePaths x hx).2.2.1 (Option.some.inj (Prod.mk.inj heq).1)
      · obtain ⟨c, hc, heq⟩ := List.mem_map.1 hpart
        obtain ⟨p, _, hpc⟩ := exists_of_forall₂ hcs hc
        exact (generated_ne_of_contributes hpc (Prod.mk.inj heq).1).2 rfl
    rw [← hown, List.mem_append, not_or] at hapart
    rw [hother _ (by decide), hmissing _ hapart.1 hapart.2, Option.none_or]
  · rcases List.mem_append.1 hpart with hpart | hpart
    · obtain ⟨x, hx, heq⟩ := List.mem_map.1 hpart
      cases heq
      rw [hother _ (h.sourcePaths x hx).2.2.2.1, hsource x (hadditional ▸ hx)]
      rfl
    · obtain ⟨c, hc, heq⟩ := List.mem_map.1 hpart
      obtain ⟨hpath, rfl⟩ := Prod.mk.inj heq
      obtain ⟨p, _, hpc⟩ := exists_of_forall₂ hcs hc
      have hpair : (path, c.code) ∈ b.generated := by
        rw [hgenerated]
        exact List.mem_filterMap.2 ⟨c, hc, by rw [hpath]; rfl⟩
      rw [hother _ (generated_ne_of_contributes hpc hpath).1, hcode _ _ hpair]
      rfl

/-- The fragments as they stand in the assembled source. -/
theorem join_standing (s : KernelSource) (d : Dialect) (cs : List Contribution) :
    String.join ((parts s cs).map (standing d)) =
      String.join ((s.pool.gather s.sources).map fun x => d.includeLine x.path) ++
        String.join (cs.map fun c => c.text d) := by
  rw [parts, List.map_append, String.join_append, List.map_map, List.map_map]
  congr 2
  refine List.map_congr_left fun c _ => ?_
  unfold Contribution.text
  cases hpath : c.path <;> simp [standing, hpath]

/-- **The translation unit is exactly its fragments, each once and in order.**  If a build succeeds,
    and the built-in wrapper stands at the wrapper's path, the request of the build expands to its
    definitions, the constants of its group size and, within the markers of the wrapper, the
    wrapper's own lines and, within the markers of the generated kernel, the unfolded source.  The
    contributions in it are those of the bound interfaces in order of their first edge; the markers
    of an interface that has an own path show this path. -/
theorem expand_build_eq {files : FileStore} {registry : Nat} {format : String} {b : KernelBuild}
    {r : Resolver} (hbuild : (g.build files registry k d format).result = .ok b)
    (hs : g.source? k = some s) (h : g.Legible k s d)
    (hwrapper : r.source? VirtualPath.kernelWrapper = some Builtin.kernelWrapperText) :
    b.definitions = allDefinitions s (g.boundInterfaces k) ∧ b.groupSize = s.groupSize ∧
      (∀ p ∈ g.boundInterfaces k, p.2.interface.virtualPath ≠ "" → VirtualPath.display
        (VirtualPath.generated (p.2.uid p.1) p.2.interface.virtualPath) =
          p.2.interface.virtualPath) ∧
      ∃ cs, List.Forall₂ (g.Contributes k) (g.boundInterfaces k) cs ∧
        (b.request r).expand d = .ok
          ((b.request r).definitionText d ++ ((b.request r).groupText d ++
          ("\n" ++ framed VirtualPath.kernelWrapper
            (String.join Builtin.kernelWrapperLines.dropLast ++
              framed VirtualPath.generatedKernel (g.unfolded k s d cs))))) := by
  obtain ⟨s', w, h0, _, hs', _, hassemble⟩ := build_eq_ok.1 hbuild
  cases hs.symm.trans hs'
  obtain ⟨cs, hcontributions, hadditional, hgenerated, hdefinitions, hgroup, hsource⟩ :=
    assemble_parts hassemble
  rw [Int.toNat_of_nonneg h0] at hcontributions hdefinitions hsource
  have hcs := contributes_of_contributions hcontributions
  obtain ⟨hkernel, hfile, hfound⟩ := h.finds (r := r) hcs hadditional hgenerated
  obtain ⟨done, hbecomes⟩ := h.becomes hcs hfound
  rw [join_standing, ← String.append_assoc, ← hsource] at hbecomes
  obtain ⟨_, hheader⟩ := Request.header_becomes rfl
    (fun x hx => h.definitions x (hdefinitions ▸ hx))
    plain_wrapper (hfile.trans (hwrapper.trans (congrArg some kernelWrapperText_eq)))
      hkernel hbecomes
  refine ⟨hdefinitions, hgroup, fun p hp hown => VirtualPath.display_generated
    (h.notMem_uid hp (by decide)) (h.interfacePaths p hp hown).1, cs, hcs, ?_⟩
  rw [Request.expand, hheader.expand_eq]
  rfl

end

end

/-! ## A kernel with fragments of every kind -/

/-- An interface with a struct, and with a file of its own if the path is not empty. -/
def reader (className path : String) : Interface where
  className
  inputs := [{ name := "Get", result := "u32" }]
  virtualPath := path
  source scope := .ok ("fn Get_" ++ scope.uid ++ "() -> u32 \x7b return 1; \x7d\n")
  structs seen := if seen.contains "S" then ([], seen) else (["struct S \x7b\x7d"], seen ++ ["S"])

/-- A kernel that reads twice, and needs a library. -/
def readingSource : KernelSource where
  entryPoint := "Main"
  groupSize := ⟨8, 1, 1⟩
  body := "fn Main() \x7b\x7d\n"
  inputs := [{ name := "First", result := "u32" }, { name := "Second", result := "u32" }]
  definitions := ⟨[⟨"DEBUG", ""⟩]⟩
  pool := #[{ path := "/a.wgsl", text := "const A = 1;\n" }]
  sources := [some 0]

/-- The interface at slot 1 has a file, and comes first. -/
def readingGraph : Graph where
  name := "G"
  kernels := [some ⟨"A", some readingSource⟩]
  interfaces := [some (.custom (reader "X" "")), some (.custom (reader "Y" "/y.wgsl"))]
  edges := [{ interface := 1, input := true },
    { interface := 0, kernelFunction := 1, input := true }]

theorem boundInterfaces_reading : readingGraph.boundInterfaces 0 =
    [(1, .custom (reader "Y" "/y.wgsl")), (0, .custom (reader "X" ""))] := rfl

/-- The two bound slots, one after the other. -/
theorem forall_reading {P : Int × DataInterface → Prop}
    (hfile : P (1, .custom (reader "Y" "/y.wgsl"))) (hinline : P (0, .custom (reader "X" ""))) :
    ∀ p ∈ readingGraph.boundInterfaces 0, P p := by
  rw [boundInterfaces_reading]
  intro p hp
  rcases List.mem_cons.1 hp with rfl | hp
  · exact hfile
  · rw [List.mem_singleton.1 hp]
    exact hinline

theorem legible_reading : readingGraph.Legible 0 readingSource .wgsl where
  structs := by decide
  code := by
    refine forall_reading (fun text h => ?_) (fun text h => ?_)
    · cases h
      decide
    · cases h
      decide
  sources := by decide
  body := by decide
  definitions := by decide
  classNames := by
    simp only [List.forall_mem_cons, List.not_mem_nil, false_implies, implies_true, and_true]
    exact forall_reading (by decide) (by decide)
  names := by decide
  shims := by decide
  interfacePaths := forall_reading (fun _ => by decide) (fun h => absurd rfl h)
  sourcePaths := by
    intro x hx
    rw [List.mem_singleton.1 (show x ∈ [Source.mk "/a.wgsl" "const A = 1;\n" []] from hx)]
    refine ⟨by decide, by decide, by decide, by decide, ?_⟩
    exact forall_reading (fun _ => by decide) (fun h => absurd rfl h)

/-- The build of the kernel. -/
def readingBuild : KernelBuild :=
  (readingGraph.assemble Builtin.store 0 readingSource .wgsl
    (FileStore.message "wgsl" Builtin.kernelWrapperText []).sum).toOption.getD default

theorem shows_builtin : Builtin.store.Shows (Builtin.store.source? Builtin.registryId) :=
  ⟨Lru.holds_empty _, rfl⟩

theorem source?_wrapper_builtin :
    Builtin.store.source? Builtin.registryId VirtualPath.kernelWrapper =
      some Builtin.kernelWrapperText :=
  FileStore.source?_of_lookup rfl

/-- Besides the assembled source, the wrapper includes nothing. -/
theorem included_wrapper : FileStore.included Builtin.kernelWrapperText = [] := by
  obtain ⟨hlines, hpath⟩ := lines_include (by decide)
    (by decide : '\n' ∉ VirtualPath.generatedKernel.toList)
  have hown : (Text.lines (String.join Builtin.kernelWrapperLines.dropLast)).filterMap path? = [] :=
    List.filterMap_eq_nil_iff.2 (plain_join plain_wrapper)
  rw [FileStore.included, paths, kernelWrapperText_eq,
    Text.lines_append (Text.isTerminated_join fun t ht => (plain_wrapper t ht).1), hlines,
    List.filterMap_append, hown, List.filterMap_cons, hpath]
  decide

/-- With the built-in sources alone, a kernel that can be assembled is built. -/
theorem build_builtin {g : Graph} {s : KernelSource} {b : KernelBuild} {k : Nat}
    (hk : k < g.kernels.length) (hs : g.source? k = some s)
    (hb : g.assemble Builtin.store k s .wgsl
      (FileStore.message "wgsl" Builtin.kernelWrapperText []).sum = .ok b) :
    (g.build Builtin.store Builtin.registryId k .wgsl "wgsl").result = .ok b :=
  (build_eq_ok_of_shows shows_builtin).2 ⟨s, _, Int.natCast_nonneg k, Int.ofNat_lt.2 hk, hs,
    shows_builtin.current.digest_eq_ok_iff.2
      (FileStore.hasDigest_leaf source?_wrapper_builtin included_wrapper), hb⟩

theorem build_reading :
    (readingGraph.build Builtin.store Builtin.registryId 0 .wgsl "wgsl").result =
      .ok readingBuild :=
  build_builtin (k := 0) (by decide) rfl rfl

/-- The unit of this kernel. -/
theorem expand_build_reading :
    (readingBuild.request (Builtin.store.resolver Builtin.registryId)).expand .wgsl =
      .ok ("const DEBUG = true;\n" ++ ("const THREADGROUP_SIZE_X = 8;\n" ++
        "const THREADGROUP_SIZE_Y = 1;\n" ++ "const THREADGROUP_SIZE_Z = 1;\n" ++ ("\n" ++
        framed VirtualPath.kernelWrapper (String.join Builtin.kernelWrapperLines.dropLast ++
        framed VirtualPath.generatedKernel (
          "struct S \x7b\x7d\n" ++
          ("\n// begin include \"/a.wgsl\"\n" ++
            "const A = 1;\n" ++
            "// end include \"/a.wgsl\"\n" ++
            "\n// begin include \"/y.wgsl\"\n" ++
            "fn Get_DI1_Y() -> u32 \x7b return 1; \x7d\n" ++
            "// end include \"/y.wgsl\"\n" ++
            "fn Get_DI0_X() -> u32 \x7b return 1; \x7d\n") ++
          ("fn First() -> u32 \x7b return Get_DI1_Y(); \x7d\n" ++
            "fn Second() -> u32 \x7b return Get_DI0_X(); \x7d\n") ++
          "fn Main() \x7b\x7d\n"))))) := by
  obtain ⟨_, _, _, cs, hcs, hexpand⟩ := expand_build_eq build_reading rfl legible_reading
    (r := Builtin.store.resolver Builtin.registryId) source?_wrapper_builtin
  rw [boundInterfaces_reading] at hcs
  have hparts : String.join ((parts readingSource cs).map shown) =
      "\n// begin include \"/a.wgsl\"\n" ++ "const A = 1;\n" ++ "// end include \"/a.wgsl\"\n" ++
        "\n// begin include \"/y.wgsl\"\n" ++ "fn Get_DI1_Y() -> u32 \x7b return 1; \x7d\n" ++
        "// end include \"/y.wgsl\"\n" ++ "fn Get_DI0_X() -> u32 \x7b return 1; \x7d\n" := by
    -- the contributions are known up to their hash fragments, which are not part of the unit
    rcases hcs with _ | ⟨⟨hcode, hpath⟩, _ | ⟨⟨hcode', hpath'⟩, _ | _⟩⟩
    rename_i c c'
    obtain ⟨path, code, fragment⟩ := c
    obtain ⟨path', code', fragment'⟩ := c'
    cases hcode
    cases hcode'
    cases hpath
    cases hpath'
    have hfile : shown (some "/a.wgsl", "const A = 1;\n") = "\n// begin include \"/a.wgsl\"\n" ++
        "const A = 1;\n" ++ "// end include \"/a.wgsl\"\n" := by decide
    have hinterface : shown (some (VirtualPath.generated "DI1_Y" "/y.wgsl"),
        "fn Get_DI1_Y() -> u32 \x7b return 1; \x7d\n") = "\n// begin include \"/y.wgsl\"\n" ++
        "fn Get_DI1_Y() -> u32 \x7b return 1; \x7d\n" ++ "// end include \"/y.wgsl\"\n" := by decide
    have hall : ∀ {cs : List Contribution}, cs.map (fun c => (c.path, c.code)) =
        [(some (VirtualPath.generated "DI1_Y" "/y.wgsl"),
          "fn Get_DI1_Y() -> u32 \x7b return 1; \x7d\n"),
          (none, "fn Get_DI0_X() -> u32 \x7b return 1; \x7d\n")] →
        (parts readingSource cs).map shown = [shown (some "/a.wgsl", "const A = 1;\n"),
          shown (some (VirtualPath.generated "DI1_Y" "/y.wgsl"),
            "fn Get_DI1_Y() -> u32 \x7b return 1; \x7d\n"),
          "fn Get_DI0_X() -> u32 \x7b return 1; \x7d\n"] := fun h => by
      rw [parts, h]
      rfl
    rw [hall rfl, hfile, hinterface]
    simp only [String.join_cons, String.join_nil, String.append_assoc, String.append_empty]
  have hdefinitions :
      (readingBuild.request (Builtin.store.resolver Builtin.registryId)).definitionText
      .wgsl = "const DEBUG = true;\n" := by decide
  have hgroup : (readingBuild.request (Builtin.store.resolver Builtin.registryId)).groupText .wgsl =
      "const THREADGROUP_SIZE_X = 8;\n" ++ "const THREADGROUP_SIZE_Y = 1;\n" ++
        "const THREADGROUP_SIZE_Z = 1;\n" := by decide
  have hstructs :
      String.join ((structDeclarations (readingGraph.boundInterfaces 0)).map (· ++ "\n")) =
      "struct S \x7b\x7d\n" := by decide
  have hshims : String.join ((readingGraph.shims 0 readingSource).map Dialect.wgsl.shim) =
      "fn First() -> u32 \x7b return Get_DI1_Y(); \x7d\n" ++
        "fn Second() -> u32 \x7b return Get_DI0_X(); \x7d\n" := by decide
  rw [hexpand, unfolded, hdefinitions, hgroup, hstructs, hparts, hshims]
  rfl

/-! ## The generated files -/

section
variable {g : Graph} {k : Int}

/-- The file of the interface at a slot: its path and its code. -/
def IsFileOf (g : Graph) (k : Int) (p : Int × DataInterface) (file : String × String) : Prop :=
  file.1 = VirtualPath.generated (p.2.uid p.1) p.2.interface.virtualPath ∧
    p.2.interface.source ((g.layout k).scope p.1) = .ok file.2

/-- **The files are those of the interfaces with a path of their own**, in their order. -/
theorem files_of_contributes {is : List (Int × DataInterface)} {cs : List Contribution}
    (h : List.Forall₂ (g.Contributes k) is cs) :
    List.Forall₂ (g.IsFileOf k) (is.filter fun p => p.2.interface.virtualPath ≠ "")
      (cs.filterMap fun c => c.path.map fun p => (p, c.code)) := by
  induction h with
  | nil => exact .nil
  | @cons p c is cs hp _ ih =>
    obtain ⟨hcode, hpath⟩ := hp
    rw [List.filter_cons, List.filterMap_cons, hpath]
    by_cases hown : p.2.interface.virtualPath = ""
    · simpa [hown] using ih
    · have hfile : g.IsFileOf k p
          (VirtualPath.generated (p.2.uid p.1) p.2.interface.virtualPath, c.code) := ⟨rfl, hcode⟩
      simpa [hown] using And.intro hfile ih

/-- **Generated paths are unambiguous.**  If classes are named without slashes and own paths begin
    with one, the files that a build generates are those of the bound interfaces with a path of
    their own, one for each of them and at different paths.  Every one lies under the root of
    generated sources, its path leads back to the interface's own path, and what is found there is
    the code of this interface, whatever the kernel's additional sources are called. -/
theorem generated_unambiguous {files : FileStore} {registry : Nat} {d : Dialect} {format : String}
    {b : KernelBuild} (hclass : ∀ x, some x ∈ g.interfaces → '/' ∉ x.interface.className.toList)
    (hpath : ∀ x, some x ∈ g.interfaces → x.interface.virtualPath ≠ "" →
      Text.startsWith x.interface.virtualPath "/")
    (hbuild : (g.build files registry k d format).result = .ok b) :
    (b.generated.map Prod.fst).Nodup ∧
      List.Forall₂ (fun p file =>
          file.1 = VirtualPath.generated (p.2.uid p.1) p.2.interface.virtualPath ∧
            VirtualPath.isGenerated file.1 = true ∧
            VirtualPath.stripGenerated? file.1 = some p.2.interface.virtualPath ∧
            p.2.interface.source (b.layout.scope p.1) = .ok file.2 ∧
            b.includes.lookup file.1 = some file.2)
        ((g.boundInterfaces k).filter fun p => p.2.interface.virtualPath ≠ "") b.generated := by
  obtain ⟨s, w, h0, _, _, _, hassemble⟩ := build_eq_ok.1 hbuild
  obtain ⟨cs, hcontributions, _, hgenerated, _⟩ := assemble_parts hassemble
  have hlayout := (assemble_fields hassemble).2.2.1
  rw [Int.toNat_of_nonneg h0] at hcontributions hlayout
  have hcs := contributes_of_contributions hcontributions
  have hmem : ∀ p ∈ g.boundInterfaces k, some p.2 ∈ g.interfaces := fun p hp =>
    mem_of_interface? (interface?_of_mem hp)
  have hnodup : (b.generated.map Prod.fst).Nodup := by
    rw [hgenerated, map_fst_files, filterMap_path hcs]
    exact nodup_generatedPaths (fun p hp => hclass p.2 (hmem p hp))
      fun p hp => hpath p.2 (hmem p hp)
  have hfiles := files_of_contributes hcs
  rw [← hgenerated, List.forall₂_iff_zip] at hfiles
  refine ⟨hnodup, List.forall₂_iff_zip.2 ⟨hfiles.1, fun {p file} hzip => ?_⟩⟩
  obtain ⟨hp, hfile⟩ := List.of_mem_zip hzip
  obtain ⟨hbound, hown⟩ := List.mem_filter.1 hp
  obtain ⟨hat, hcode⟩ := hfiles.2 hzip
  have huid : '/' ∉ (p.2.uid p.1).toList :=
    notMem_uniqueName (hclass p.2 (hmem p hbound)) p.1 (by decide) (by decide)
  refine ⟨hat, hat ▸ VirtualPath.isGenerated_generated .., ?_, hlayout ▸ hcode,
    b.lookup_generated hnodup hfile⟩
  rw [hat]
  exact VirtualPath.stripGenerated?_generated huid
    (hpath p.2 (hmem p hbound) (of_decide_eq_true hown))

end

/-- The kernel of `readingGraph` with an additional source at the path of the generated file. -/
def shadedSource : KernelSource :=
  { readingSource with
    pool := #[{ path := VirtualPath.generated "DI1_Y" "/y.wgsl", text := "fn Get() \x7b\x7d\n" }] }

/-- The graph of this kernel. -/
def shadedGraph : Graph := { readingGraph with kernels := [some ⟨"A", some shadedSource⟩] }

/-- The generated file hides the additional one. -/
theorem generated_unambiguous_shaded : ∃ b,
    (shadedGraph.build Builtin.store Builtin.registryId 0 .wgsl "wgsl").result = .ok b ∧
      b.additional.map Source.path = b.generated.map Prod.fst ∧ (b.generated.map Prod.fst).Nodup ∧
      ∀ file ∈ b.generated, VirtualPath.stripGenerated? file.1 = some "/y.wgsl" ∧
        b.includes.lookup file.1 = some "fn Get_DI1_Y() -> u32 \x7b return 1; \x7d\n" := by
  obtain ⟨b, hassemble⟩ : ∃ b, shadedGraph.assemble Builtin.store 0 shadedSource .wgsl
      (FileStore.message "wgsl" Builtin.kernelWrapperText []).sum = .ok b := ⟨_, rfl⟩
  have hbuild := build_builtin (g := shadedGraph) (k := 0) (by decide) rfl hassemble
  have hinterfaces : ∀ {P : DataInterface → Prop}, P (.custom (reader "X" "")) →
      P (.custom (reader "Y" "/y.wgsl")) → ∀ x, some x ∈ shadedGraph.interfaces → P x := by
    intro P hx hy x hmem
    rcases List.mem_cons.1 hmem with heq | hmem
    · exact Option.some.inj heq ▸ hx
    · exact Option.some.inj (List.mem_singleton.1 hmem) ▸ hy
  obtain ⟨hnodup, hfiles⟩ := generated_unambiguous
    (hinterfaces (by decide) (by decide)) (hinterfaces (absurd rfl) fun _ => by decide) hbuild
  have hbound : (shadedGraph.boundInterfaces 0).filter (fun p => p.2.interface.virtualPath ≠ "") =
      [(1, .custom (reader "Y" "/y.wgsl"))] := rfl
  rw [Int.natCast_zero, hbound, List.forall₂_cons_left_iff] at hfiles
  obtain ⟨file, rest, ⟨hat, _, hown, hcode, hfound⟩, hrest, hgenerated⟩ := hfiles
  rw [List.forall₂_nil_left_iff.1 hrest] at hgenerated
  obtain ⟨_, _, hadditional, _⟩ := assemble_parts hassemble
  refine ⟨b, hbuild, ?_, hnodup, fun file' hmem => ?_⟩
  · rw [hadditional, hgenerated, List.map_cons, hat]
    decide
  · rw [hgenerated] at hmem
    rw [List.mem_singleton.1 hmem]
    refine ⟨hown, hfound.trans (congrArg some (Except.ok.inj (hcode.symm.trans ?_)))⟩
    rw [(assemble_fields hassemble).2.2.1]
    rfl

end Graph

end KernelGraph
