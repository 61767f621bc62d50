/-
  The built-in interfaces declare what the layout promises.

  A layout is made from the declared parameters of an interface, and the code by another function,
  which asks the scope for their bindings.  They agree, parameter by parameter:

      layout      binding 3, uniform, NumValues_DI1_Buffer, u32
      code        @group(0) @binding(3) var<uniform> NumValues_DI1_Buffer: u32;

  1. The code of the buffer comes from a template.  All its placeholders are filled in at once, so
     that what is filled in is never searched again, whatever the element type is
     (`Text.replaceEach_marks`).

  2. A scope that binds the declared parameters of a built-in interface is all that its code asks
     for, and the code has their declarations (`DataInterface.declares`).

  3. The scopes of a layout do so; and a build emits the code of every slot, inline or as a file of
     its own (`Graph.slot_declares`, `Graph.emits_of_mem`).
-/
import KernelGraph.Proofs.TranslationUnit

namespace KernelGraph

/-! ## Templates -/

namespace Text

section
variable {table : List (List Char × List Char)}

/-- Where no placeholder begins, a text stays as it is. -/
theorem replaceEachChars_literal (htable : ∀ p ∈ table, p.1.head? = some '\x7b')
    {literal : List Char} (h : '\x7b' ∉ literal) (rest : List Char) :
    replaceEachChars table (literal ++ rest) = literal ++ replaceEachChars table rest := by
  induction literal with
  | nil => rfl
  | cons c cs ih =>
    obtain ⟨hc, hcs⟩ := List.ne_and_not_mem_of_not_mem_cons h
    have hmiss : firstMatch? table (c :: (cs ++ rest)) = none := by
      rw [firstMatch?, List.findSome?_eq_none_iff]
      rintro ⟨p, value⟩ hp
      have hhead := htable _ hp
      cases p with
      | nil => cases hhead
      | cons d p =>
        cases Option.some.inj hhead
        simp only [dropFront?, if_neg hc]
    rw [List.cons_append, List.cons_append, ← ih hcs, replaceEachChars]
    split
    · rename_i hmatch
      rw [hmiss] at hmatch
      cases hmatch
    · rfl

/-- A placeholder is replaced by its value. -/
theorem replaceEachChars_mark {cs value rest : List Char}
    (h : firstMatch? table cs = some (value, rest)) :
    replaceEachChars table cs = value ++ replaceEachChars table rest := by
  cases cs with
  | nil => exact absurd (length_of_firstMatch? h) (Nat.not_lt_zero _)
  | cons c cs =>
    rw [replaceEachChars]
    split
    · rename_i hmatch
      cases h.symm.trans hmatch
      rfl
    · rename_i hmiss
      rw [h] at hmiss
      cases hmiss

end

section
variable {table : List (String × String)}

theorem replaceEach_literal (htable : ∀ p ∈ table, p.1.toList.head? = some '\x7b') {a : String}
    (h : '\x7b' ∉ a.toList) (b : String) :
    replaceEach table (a ++ b) = a ++ replaceEach table b := by
  refine String.toList_injective ?_
  rw [String.toList_append, replaceEach, replaceEach, String.toList_ofList, String.toList_ofList,
    String.toList_append]
  exact replaceEachChars_literal (List.forall_mem_map.2 htable) h _

/-- A placeholder is filled in with its value in the table, wherever it stands. -/
def Fills (table : List (String × String)) (mark : String) : Prop :=
  ∀ rest, firstMatch? (table.map fun (p, v) => (p.toList, v.toList)) (mark.toList ++ rest) =
    some (((table.lookup mark).getD "").toList, rest)

/-- Literal texts, each with the value of a placeholder behind it. -/
def filled (table marks : List (String × String)) : String :=
  String.join (marks.map fun x => x.1 ++ (table.lookup x.2).getD "")

/-- **All placeholders are filled in**, and the literal texts in front of them stay. -/
theorem replaceEach_marks (htable : ∀ p ∈ table, p.1.toList.head? = some '\x7b')
    {marks : List (String × String)} (h : ∀ x ∈ marks, '\x7b' ∉ x.1.toList ∧ Fills table x.2)
    (b : String) : replaceEach table (String.join (marks.map fun x => x.1 ++ x.2) ++ b) =
      filled table marks ++ replaceEach table b := by
  induction marks with
  | nil => simp [filled, String.join_nil]
  | cons x xs ih =>
    obtain ⟨hliteral, hmark⟩ := h x (List.mem_cons_self ..)
    have hrest := ih fun y hy => h y (List.mem_cons_of_mem x hy)
    rw [filled] at hrest ⊢
    rw [List.map_cons, List.map_cons, String.join_cons, String.join_cons, String.append_assoc,
      String.append_assoc, replaceEach_literal htable hliteral, String.append_assoc,
      String.append_assoc, ← hrest]
    refine congrArg (x.1 ++ ·) (String.toList_injective ?_)
    rw [String.toList_append, replaceEach, replaceEach, String.toList_ofList, String.toList_ofList,
      String.toList_append]
    exact replaceEachChars_mark (hmark _)

end

end Text

/-! ## Declarations in code -/

/-- The address space of a parameter, if the built-in interfaces declare parameters of its kind. -/
def ParameterKind.space? : ParameterKind → Option String
  | uniform => some "uniform"
  | storage => some "storage, read_write"
  | readOnlyStorage => none

theorem parameterDeclaration_eq (group binding : UInt32) (space name type : String) :
    parameterDeclaration group binding space name type = "@group(" ++ toString group.toNat ++
      ") @binding(" ++ toString binding.toNat ++ ") var<" ++ space ++ "> " ++ name ++ ": " ++
      type ++ ";" :=
  rfl

/-- The code declares a parameter with its group, binding, kind, symbol and type. -/
def Parameter.DeclaredIn (p : Parameter) (group : UInt32) (code : String) : Prop :=
  ∃ space, p.kind.space? = some space ∧
    (parameterDeclaration group p.binding space p.name p.type).toList <:+: code.toList

theorem Scope.requireBinding_eq_ok {scope : Scope} {name : String} {b : UInt32}
    (h : scope.binding? name = some b) : scope.requireBinding name = .ok b := by
  rw [requireBinding, h]

/-- The code of an interface with one uniform parameter declares it. -/
theorem uniformReader_declares {scope : Scope} {x : ParameterDecl} (hkind : x.kind = .uniform)
    (hbound : ∃ b, scope.binding? x.name = some b) (reader : String) :
    ∃ code, uniformReader scope x.name reader x.type = .ok code ∧
      ∀ y ∈ [x], ∀ b slot, scope.binding? y.name = some b →
        (Layout.ofDecl slot scope.uid b y).DeclaredIn scope.group code := by
  obtain ⟨b, hb⟩ := hbound
  rw [uniformReader, Scope.requireBinding_eq_ok hb]
  refine ⟨_, rfl, fun y hy b' slot hb' => ?_⟩
  cases List.mem_singleton.1 hy
  cases hb.symm.trans hb'
  refine ⟨"uniform", by rw [Layout.ofDecl, hkind]; rfl, List.IsPrefix.isInfix ?_⟩
  simp only [String.toList_append, List.append_assoc]
  exact List.prefix_append ..

/-- The declarations of the buffer template, up to the end of the element type: literal texts, each
    with the placeholder behind it. -/
def bufferMarks : List (String × String) :=
  [("@group(", "\x7bgroup\x7d"),
    (") @binding(", "\x7bnum_values_binding\x7d"),
    (") var<uniform> NumValues_", "\x7buid\x7d"),
    (": u32;\n@group(", "\x7bgroup\x7d"),
    (") @binding(", "\x7bvalues_binding\x7d"),
    (") var<storage, read_write> Values_", "\x7buid\x7d"),
    (": array<", "\x7btype\x7d")]

theorem bufferTemplateText_eq : Builtin.bufferTemplateText =
    String.join (Builtin.bufferTemplateLines.take 4) ++
      (String.join (bufferMarks.map fun x => x.1 ++ x.2) ++
        (">;" ++ ("\n" ++ String.join (Builtin.bufferTemplateLines.drop 6)))) := by
  have hlines : Builtin.bufferTemplateLines = Builtin.bufferTemplateLines.take 4 ++
      ((Builtin.bufferTemplateLines.drop 4).take 2 ++ Builtin.bufferTemplateLines.drop 6) := rfl
  have hdeclarations : String.join ((Builtin.bufferTemplateLines.drop 4).take 2) =
      String.join (bufferMarks.map fun x => x.1 ++ x.2) ++ (">;" ++ "\n") := by decide +kernel
  rw [Builtin.bufferTemplateText]
  nth_rewrite 1 [hlines]
  rw [String.join_append, String.join_append, hdeclarations]
  simp only [String.append_assoc]

/-- No placeholder stands in front of the declarations. -/
theorem brace_notMem_take :
    '\x7b' ∉ (String.join (Builtin.bufferTemplateLines.take 4)).toList := by
  simp only [Builtin.bufferTemplateLines, List.take, String.join_cons, String.join_nil,
    String.toList_append, List.mem_append, not_or]
  refine ⟨?_, ?_, ?_, ?_, ?_⟩ <;> (rw [String.toList_ofList]; decide)

/-- What the buffer template is filled in with. -/
def bufferTable (type : String) (scope : Scope) (numValues values : UInt32) :
    List (String × String) :=
  [("\x7buid\x7d", scope.uid), ("\x7btype\x7d", type),
    ("\x7bgroup\x7d", toString scope.group.toNat),
    ("\x7bnum_values_binding\x7d", toString numValues.toNat),
    ("\x7bvalues_binding\x7d", toString values.toNat)]

section
variable {scope : Scope} {type : String} {numValues values : UInt32}

/-- Two texts with a separator between them both stand in the whole. -/
theorem infix_of_pair (front a sep b rest : String) :
    a.toList <:+: (front ++ (a ++ sep ++ b ++ rest)).toList ∧
      b.toList <:+: (front ++ (a ++ sep ++ b ++ rest)).toList := by
  simp only [String.toList_append]
  exact ⟨⟨front.toList, sep.toList ++ b.toList ++ rest.toList, by simp only [List.append_assoc]⟩,
    ⟨front.toList ++ a.toList ++ sep.toList, rest.toList, by simp only [List.append_assoc]⟩⟩

theorem bufferMarks_filled : Text.filled (bufferTable type scope numValues values) bufferMarks ++
    ">;" = parameterDeclaration scope.group numValues "uniform" (scope.symbol "NumValues") "u32" ++
      "\n" ++ parameterDeclaration scope.group values "storage, read_write" (scope.symbol "Values")
        ("array<" ++ type ++ ">") := by
  -- the literal texts of the template are those of the declarations, put together
  have hnumValues :
      ") var<uniform> NumValues_" = ") var<" ++ "uniform" ++ "> " ++ "NumValues" ++ "_" := by
    decide
  have hu32 : ": u32;\n@group(" = ": " ++ "u32" ++ ";" ++ "\n" ++ "@group(" := by decide
  have hvalues : ") var<storage, read_write> Values_" =
      ") var<" ++ "storage, read_write" ++ "> " ++ "Values" ++ "_" := by decide
  have harray : ": array<" = ": " ++ "array<" := by decide
  have hend : ">;" = ">" ++ ";" := by decide
  rw [Text.filled, bufferMarks, hnumValues, hu32, hvalues, harray, hend]
  simp only [List.map_cons, List.map_nil, String.join_cons,
    String.join_nil, parameterDeclaration_eq,
    Scope.symbol, String.append_assoc, String.empty_append]
  rfl

/-- The code of a buffer declares both parameters. -/
theorem bufferSource_declares (hn : scope.binding? "NumValues" = some numValues)
    (hv : scope.binding? "Values" = some values) :
    ∃ code, bufferSource type scope = .ok code ∧
      (parameterDeclaration scope.group numValues "uniform" (scope.symbol "NumValues")
        "u32").toList <:+: code.toList ∧
      (parameterDeclaration scope.group values "storage, read_write" (scope.symbol "Values")
        ("array<" ++ type ++ ">")).toList <:+: code.toList := by
  have hmarks : ∀ p ∈ bufferTable type scope numValues values, p.1.toList.head? = some '\x7b' := by
    simp only [bufferTable, List.forall_mem_cons]
    exact ⟨rfl, rfl, rfl, rfl, rfl, fun _ h => absurd h List.not_mem_nil⟩
  have hvalues : ∀ x ∈ bufferMarks, '\x7b' ∉ x.1.toList ∧
      Text.Fills (bufferTable type scope numValues values) x.2 := by
    simp only [bufferMarks, List.forall_mem_cons]
    exact ⟨⟨by decide, fun _ => rfl⟩, ⟨by decide, fun _ => rfl⟩, ⟨by decide, fun _ => rfl⟩,
      ⟨by decide, fun _ => rfl⟩, ⟨by decide, fun _ => rfl⟩, ⟨by decide, fun _ => rfl⟩,
      ⟨by decide, fun _ => rfl⟩, fun _ h => absurd h List.not_mem_nil⟩
  rw [bufferSource, Scope.requireBinding_eq_ok hn, Scope.requireBinding_eq_ok hv]
  change ∃ code, Except.ok (Text.replaceEach (bufferTable type scope numValues values) _) = _ ∧ _
  rw [bufferTemplateText_eq, Text.replaceEach_literal hmarks brace_notMem_take,
    Text.replaceEach_marks hmarks hvalues, Text.replaceEach_literal hmarks (by decide),
    ← @String.append_assoc (Text.filled ..), bufferMarks_filled]
  exact ⟨_, rfl, infix_of_pair ..⟩

end

/-! ## Built-in interfaces -/

namespace DataInterface

/-- The interface is an execution, a buffer or a constant. -/
def IsBuiltin : DataInterface → Prop
  | custom _ => False
  | _ => True

/-- **The code of a built-in interface declares its parameters**, in any scope that binds them. -/
theorem declares {d : DataInterface} (hd : d.IsBuiltin) {scope : Scope} {uid : String}
    (hbound : ∀ x ∈ d.interface.parameters uid, ∃ b, scope.binding? x.name = some b) :
    ∃ code, d.interface.source scope = .ok code ∧ ∀ x ∈ d.interface.parameters uid, ∀ b slot,
      scope.binding? x.name = some b →
        (Layout.ofDecl slot scope.uid b x).DeclaredIn scope.group code := by
  cases d with
  | execution threads =>
    exact uniformReader_declares rfl (hbound _ (List.mem_singleton_self _)) "ReadNumThreads"
  | constant c =>
    exact uniformReader_declares rfl (hbound _ (List.mem_singleton_self _)) "ReadConstant"
  | buffer spec =>
    obtain ⟨n, hn⟩ := hbound _ (List.mem_cons_self ..)
    obtain ⟨v, hv⟩ := hbound _ (List.mem_cons_of_mem _ (List.mem_singleton_self _))
    obtain ⟨code, hcode, hdecl, hdecl'⟩ :
      ∃ code, bufferSource (elementType spec.type) scope = .ok code ∧
        _ := bufferSource_declares hn hv
    refine ⟨_, hcode, fun x hx b slot hb => ?_⟩
    rcases List.mem_cons.1 hx with rfl | hx
    · cases hn.symm.trans hb
      exact ⟨"uniform", rfl, hdecl⟩
    · cases List.mem_singleton.1 hx
      cases hv.symm.trans hb
      exact ⟨"storage, read_write", rfl, hdecl'⟩
  | custom i => exact hd.elim

/-- Built-in classes are named without slashes. -/
theorem IsBuiltin.slash_notMem {d : DataInterface} (hd : d.IsBuiltin) :
    '/' ∉ d.interface.className.toList := by
  cases d with
  | execution threads => exact (by decide : '/' ∉ "Execution".toList)
  | constant c => exact (by decide : '/' ∉ "Constant".toList)
  | buffer spec => exact (by decide : '/' ∉ "Buffer".toList)
  | custom i => exact hd.elim

/-- The path of the buffer template begins with a slash; the others have none. -/
theorem IsBuiltin.startsWith {d : DataInterface} (hd : d.IsBuiltin)
    (hown : d.interface.virtualPath ≠ "") : Text.startsWith d.interface.virtualPath "/" := by
  cases d with
  | execution threads => exact absurd rfl hown
  | constant c => exact absurd rfl hown
  | buffer spec => exact (by decide : Text.startsWith VirtualPath.bufferTemplate "/")
  | custom i => exact hd.elim

end DataInterface

/-! ## The code of a kernel -/

/-- The code of the interface at a slot stands in the build: inline, or as a file that the source
    includes. -/
def KernelBuild.Emits (b : KernelBuild) (slot : Int) (x : DataInterface) (code : String) : Prop :=
  if x.interface.virtualPath = "" then code.toList <:+: b.source.toList
  else
    b.includes.lookup (VirtualPath.generated (x.uid slot) x.interface.virtualPath) = some code ∧
      (b.dialect.includeLine (VirtualPath.generated (x.uid slot)
        x.interface.virtualPath)).toList <:+: b.source.toList

namespace Graph

section
variable {g : Graph} {k : Int}

/-- A scope binds all that its interface declares. -/
theorem exists_binding? {i : Int} {x : DataInterface} (h : (i, x) ∈ g.boundInterfaces k) :
    ∀ y ∈ x.interface.parameters (x.uid i),
      ∃ b, ((g.layout k).scope i).binding? y.name = some b := by
  intro y hy
  obtain ⟨p, hp, hslot, hname⟩ := (g.assigned_layout k).complete i x h y hy
  exact ⟨p.binding, binding?_scope_layout.2 ⟨p, hp, hslot, hname, rfl⟩⟩

/-- **A built-in interface finds its bindings**, and declares the parameters of its slot. -/
theorem slot_declares {i : Int} {x : DataInterface} (h : (i, x) ∈ g.boundInterfaces k)
    (hx : x.IsBuiltin) : ∃ code, x.interface.source ((g.layout k).scope i) = .ok code ∧
      ∀ p ∈ (g.layout k).parameters, p.slot = i → p.DeclaredIn (g.layout k).group code := by
  obtain ⟨code, hcode, hdeclared⟩ := x.declares hx (exists_binding? h)
  refine ⟨code, hcode, fun p hp hslot => ?_⟩
  subst hslot
  obtain ⟨x', hx', y, hy, hp'⟩ := (g.assigned_layout k).declared p hp
  cases (interface?_of_mem h).symm.trans (interface?_of_mem hx')
  have hname : p.localName = y.name := congrArg Parameter.localName hp'
  have hdecl := hdeclared y hy p.binding p.slot
    (binding?_scope_layout.2 ⟨p, hp, rfl, hname, rfl⟩)
  rwa [uid_scope_layout h, ← hp', group_scope_layout h] at hdecl

theorem contributions_eq_ok {layout : Layout} {is : List (Int × DataInterface)}
    (h : ∀ p ∈ is, ∃ code, p.2.interface.source (layout.scope p.1) = .ok code)
    (files : FileStore) : ∃ cs, contributions layout is files = .ok cs := by
  induction is generalizing files with
  | nil => exact ⟨[], rfl⟩
  | cons p is ih =>
    obtain ⟨code, hcode⟩ := h p (List.mem_cons_self ..)
    obtain ⟨cs, hcs⟩ := ih (fun q hq => h q (List.mem_cons_of_mem p hq))
      (p.2.interface.fragment files).2
    simp only [contributions, hcode, hcs]
    exact ⟨_, rfl⟩

/-- Built-in interfaces do not fail. -/
theorem exists_contributions (hbuiltin : ∀ p ∈ g.boundInterfaces k, p.2.IsBuiltin)
    (files : FileStore) :
    ∃ cs, contributions (g.layout k) (g.boundInterfaces k) files = .ok cs :=
  contributions_eq_ok (fun p hp => by
    obtain ⟨code, hcode, _⟩ := slot_declares hp (hbuiltin p hp)
    exact ⟨code, hcode⟩) files

/-- **A kernel with built-in interfaces can be assembled.** -/
theorem exists_assemble (hbuiltin : ∀ p ∈ g.boundInterfaces k, p.2.IsBuiltin) (h0 : 0 ≤ k)
    (files : FileStore) (s : KernelSource) (d : Dialect) (w : Digest) :
    ∃ b, g.assemble files k.toNat s d w = .ok b := by
  obtain ⟨cs, hcs⟩ := exists_contributions hbuiltin files
  exact assemble_of_contributions h0 hcs s d w

/-- A build of a kernel whose interfaces do not fail does not ask for undeclared parameters. -/
theorem build_ne_undeclared {files : FileStore} {registry : Nat} {d : Dialect} {format : String}
    {cs : List Contribution}
    (h : contributions (g.layout k) (g.boundInterfaces k) files = .ok cs)
    (e : UndeclaredParameter) :
    (g.build files registry k d format).result ≠ .error (.undeclared e) := by
  rw [build]
  split
  · exact fun h => by cases h
  · split
    · exact fun h => by cases h
    · exact fun h => by cases h
    · rw [Assembly.addAll_of_ok (by rw [Assembly.files_start]; exact h)]
      dsimp only
      split
      · exact fun h => by cases h
      · exact fun h => by cases h

theorem infix_join {t : String} {texts : List String} (h : t ∈ texts) :
    t.toList <:+: (String.join texts).toList := by
  obtain ⟨before, behind, rfl⟩ := List.append_of_mem h
  rw [String.join_append, String.join_cons, String.toList_append, String.toList_append]
  exact List.infix_append' ..

/-- **A build emits the code of every slot**, where classes are named without slashes and own paths
    begin with one. -/
theorem emits_of_mem {files : FileStore} {s : KernelSource} {d : Dialect} {w : Digest}
    {b : KernelBuild} {k : Nat} (hb : g.assemble files k s d w = .ok b)
    (hclass : ∀ p ∈ g.boundInterfaces k, '/' ∉ p.2.interface.className.toList)
    (hpath : ∀ p ∈ g.boundInterfaces k, p.2.interface.virtualPath ≠ "" →
      Text.startsWith p.2.interface.virtualPath "/")
    {i : Int} {x : DataInterface} (hx : (i, x) ∈ g.boundInterfaces k) {code : String}
    (hcode : x.interface.source ((g.layout k).scope i) = .ok code) : b.Emits i x code := by
  obtain ⟨cs, hcontributions, _, hgenerated, _, _, hsource⟩ := assemble_parts hb
  obtain ⟨_, _, _, hdialect⟩ := assemble_fields hb
  have hcs := contributes_of_contributions hcontributions
  obtain ⟨c, hc, hcontent, hcpath⟩ := exists_of_forall₂ hcs.flip hx
  cases hcode.symm.trans hcontent
  have hjoin : (c.text d).toList <:+: (String.join (cs.map fun c => c.text d)).toList :=
    infix_join (List.mem_map.2 ⟨c, hc, rfl⟩)
  have htext : (c.text d).toList <:+: b.source.toList := by
    rw [hsource]
    simp only [String.toList_append]
    rw [List.append_assoc _ _ s.body.toList, List.append_assoc (_ ++ _)]
    exact hjoin.trans (List.infix_append' ..)
  rw [KernelBuild.Emits]
  split
  · rename_i hinline
    rw [if_pos hinline] at hcpath
    rwa [Contribution.text, hcpath] at htext
  · rename_i hown
    rw [if_neg hown] at hcpath
    rw [Contribution.text, hcpath] at htext
    refine ⟨b.lookup_generated ?_ ?_, hdialect ▸ htext⟩
    · rw [hgenerated, map_fst_files, filterMap_path hcs]
      exact nodup_generatedPaths hclass hpath
    · rw [hgenerated]
      exact List.mem_filterMap.2 ⟨c, hc, by rw [hcpath]; rfl⟩

/-- **Built-in interfaces declare what the layout promises.**  If all interfaces of a graph are
    built-in ones, no build of a kernel asks for a binding that its layout does not have, and a
    kernel with a source is built wherever the wrapper has a digest, once those of the interfaces'
    files have been taken.  The build emits, for every parameter of its layout, code of the
    parameter's slot that declares it. -/
theorem build_declares (g : Graph) (hbuiltin : ∀ x, some x ∈ g.interfaces → x.IsBuiltin)
    (files : FileStore) (registry : Nat) (k : Int) (d : Dialect) (format : String) :
    (∀ e, (g.build files registry k d format).result ≠ .error (.undeclared e)) ∧
      (∀ s w, 0 ≤ k → k < g.kernels.length → g.source? k = some s →
        ((digested (g.boundInterfaces k) files).digest registry VirtualPath.kernelWrapper
          format).1 = .ok w →
        ∃ b, (g.build files registry k d format).result = .ok b) ∧
      ∀ b, (g.build files registry k d format).result = .ok b → b.layout = g.layout k ∧
        ∀ p ∈ b.layout.parameters, ∃ x code, g.interface? p.slot = some x ∧
          b.Emits p.slot x code ∧ p.DeclaredIn b.layout.group code := by
  have hbound : ∀ p ∈ g.boundInterfaces k, p.2.IsBuiltin := fun p hp =>
    hbuiltin p.2 (mem_of_interface? (interface?_of_mem hp))
  obtain ⟨cs, hcs⟩ := exists_contributions hbound files
  refine ⟨build_ne_undeclared hcs, fun s w h0 hlt hs hw => ?_, fun b hb => ?_⟩
  · obtain ⟨b, hb⟩ := exists_assemble hbound h0 files s d w
    exact ⟨b, build_eq_ok.2 ⟨s, w, h0, hlt, hs, hw, hb⟩⟩
  · obtain ⟨s, w, h0, _, _, _, hb⟩ := build_eq_ok.1 hb
    have hlayout := (assemble_fields hb).2.2.1
    rw [Int.toNat_of_nonneg h0] at hlayout
    refine ⟨hlayout, ?_⟩
    rw [hlayout]
    intro p hp
    obtain ⟨x, hx, _⟩ := (g.assigned_layout k).declared p hp
    obtain ⟨code, hcode, hdeclared⟩ := slot_declares hx (hbound _ hx)
    refine ⟨x, code, interface?_of_mem hx, ?_, hdeclared p hp rfl⟩
    rw [← Int.toNat_of_nonneg h0] at hx hcode hbound
    exact emits_of_mem hb (fun q hq => (hbound q hq).slash_notMem)
      (fun q hq => (hbound q hq).startsWith) hx hcode

end

/-! ## A kernel with interfaces of every kind -/

/-- A kernel that is bound to all kinds of interfaces, and to an empty slot.  The element type of
    one buffer looks like a placeholder. -/
def builtinGraph : Graph where
  name := "G"
  kernels := [some { name := "K", source := some { entryPoint := "Main" } }]
  interfaces :=
    [some (.execution 64), some (.buffer {}), none, some (.constant { type := "vec4<f32>" }),
      some (.buffer { type := "\x7buid\x7d" })]
  edges := [{ interface := 4 }, { interface := 0 }, { interface := 2 }, { interface := 3 },
    { interface := 1 }]

theorem parameters_builtin : (builtinGraph.layout 0).parameters.map (fun p =>
    (p.binding, p.kind, p.name, p.type)) =
      [(0, .uniform, "NumValues_DI4_Buffer", "u32"),
        (1, .storage, "Values_DI4_Buffer", "array<\x7buid\x7d>"),
        (2, .uniform, "NumThreads_DI0_Execution", "u32"),
        (3, .uniform, "Value_DI3_Constant", "vec4<f32>"),
        (4, .uniform, "NumValues_DI1_Buffer", "u32"),
        (5, .storage, "Values_DI1_Buffer", "array<f32>")] := by
  decide

/-- It is built, and its six parameters are declared. -/
theorem build_declares_builtin : ∃ b,
    (builtinGraph.build Builtin.store Builtin.registryId 0 .wgsl "wgsl").result = .ok b ∧
      b.layout.parameters.length = 6 ∧ ∀ p ∈ b.layout.parameters, ∃ x code,
        builtinGraph.interface? p.slot = some x ∧ b.Emits p.slot x code ∧
          p.DeclaredIn b.layout.group code := by
  have hbuiltin : ∀ x, some x ∈ builtinGraph.interfaces → x.IsBuiltin := by
    intro x hx
    simp only [builtinGraph, List.mem_cons, Option.some.injEq, List.not_mem_nil, or_false] at hx
    rcases hx with rfl | rfl | hx | rfl | rfl
    · trivial
    · trivial
    · cases hx
    · trivial
    · trivial
  obtain ⟨_, hbuilds, hdeclares⟩ := build_declares builtinGraph hbuiltin Builtin.store
    Builtin.registryId 0 .wgsl "wgsl"
  have hshows := shows_builtin.digested (builtinGraph.boundInterfaces 0)
  have hwrapper : FileStore.HasDigest _ "wgsl" VirtualPath.kernelWrapper _ :=
    FileStore.hasDigest_leaf source?_wrapper_builtin included_wrapper
  rw [← hshows.source] at hwrapper
  obtain ⟨b, hb⟩ := hbuilds _ _ (by decide) (by decide) rfl
    (hshows.current.digest_eq_ok_iff.2 hwrapper)
  obtain ⟨hlayout, hall⟩ := hdeclares b hb
  refine ⟨b, hb, ?_, hall⟩
  rw [hlayout]
  exact List.length_map _ ▸ congrArg List.length parameters_builtin

end Graph

end KernelGraph
