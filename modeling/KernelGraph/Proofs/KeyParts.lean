/-
  The parts of a hash key.

  What a kernel is assembled of reaches its key in three ways.  The fragments of the interfaces, the
  definitions and the permutations stand in the key itself.  The sources, the code of the
  interfaces, the struct declarations, the shims and the body are hashed as one text.  The wrapper
  has a digest of its own, at the end.

  Nothing stands between the parts, so a text may read as different parts.  Two kernels that differ
  in exactly one part (`KernelParts.Edit`) cannot be taken for each other all the same: the others
  stay where they are, so the key or the hashed text is another one (`Edit.differs`).  A new name
  for the graph or for a kernel is no edit: the build is the same but for the name
  (`Graph.build_renamed`).
-/
import KernelGraph.Proofs.DigestTwice
import KernelGraph.Proofs.HashKey

namespace KernelGraph

/-! ## One element replaced -/

/-- One element of a list is replaced by another one, and the others stay. -/
inductive Replaced {α : Type} (R : α → α → Prop) : List α → List α → Prop
  | here {a b : α} (rest : List α) (h : R a b) : Replaced R (a :: rest) (b :: rest)
  | there {as bs : List α} (c : α) (h : Replaced R as bs) : Replaced R (c :: as) (c :: bs)

section
variable {α β : Type} {R : α → α → Prop} {as bs : List α}

theorem Replaced.map_eq {f : α → β} (h : Replaced R as bs) (hf : ∀ a b, R a b → f a = f b) :
    as.map f = bs.map f := by
  induction h with
  | here rest h => rw [List.map_cons, List.map_cons, hf _ _ h]
  | there c _ ih => rw [List.map_cons, List.map_cons, ih]

theorem Replaced.imp {S : α → α → Prop} (h : Replaced R as bs) (hRS : ∀ a b, R a b → S a b) :
    Replaced S as bs := by
  induction h with
  | here rest h => exact .here rest (hRS _ _ h)
  | there c _ ih => exact .there c ih

/-- There is only one replaced element, so which of two ways it is replaced in can be told. -/
theorem Replaced.or {S : α → α → Prop} (h : Replaced (fun a b => R a b ∨ S a b) as bs) :
    Replaced R as bs ∨ Replaced S as bs := by
  induction h with
  | here rest h => exact h.imp (.here rest) (.here rest)
  | there c _ ih => exact ih.imp (.there c) (.there c)

/-- **A replaced text changes the concatenation**: what stands before it and behind it stays. -/
theorem Replaced.join_ne {f : α → String} (h : Replaced R as bs) (hf : ∀ a b, R a b → f a ≠ f b) :
    String.join (as.map f) ≠ String.join (bs.map f) := by
  induction h with
  | here rest h =>
    rw [List.map_cons, List.map_cons, String.join_cons, String.join_cons, ne_eq,
      String.append_left_inj]
    exact hf _ _ h
  | there c _ ih =>
    rw [List.map_cons, List.map_cons, String.join_cons, String.join_cons, ne_eq,
      String.append_right_inj]
    exact ih

end

/-! ## Parts -/

/-- What a kernel is assembled of. -/
structure KernelParts where
  /-- What the bound interfaces contribute. -/
  contributions : List Contribution
  declarations : List String
  /-- The additional sources. -/
  sources : List Source
  /-- The shim of each edge, empty for an edge that has none. -/
  shims : List String
  body : String
  definitions : Definitions
  permutations : PermutationVector

/-- The code that stands in a file of its own. -/
def Contribution.filed (c : Contribution) : String := if c.path.isSome then c.code else ""

namespace KernelParts

/-- The assembled source. -/
def source (p : KernelParts) (d : Dialect) : String :=
  String.join (p.declarations.map (· ++ "\n")) ++
    String.join (p.sources.map fun s => d.includeLine s.path) ++
    String.join (p.contributions.map fun c => c.text d) ++ String.join p.shims ++ p.body

/-- What is hashed for the key. -/
def content (p : KernelParts) (d : Dialect) : String :=
  String.join (p.sources.map Source.text) ++ String.join (p.contributions.map Contribution.filed) ++
    p.source d

/-- What stands in the key as it is. -/
def listing (p : KernelParts) : String :=
  String.join (p.contributions.map Contribution.hashFragment) ++ p.definitions.listing ++
    p.permutations.listing

/-- The hash key, given the digest of the wrapper. -/
def key (p : KernelParts) (d : Dialect) (wrapper : Digest) : String :=
  p.listing ++ (Digest.sha1 (p.content d).toByteArray).toHex ++ wrapper.toHex

section
variable {p q : KernelParts} {d : Dialect}

/-- **What equal keys have in common**: what is listed, the digest of the wrapper, and what is
    hashed, unless it collides. -/
theorem eq_of_key_eq {v w : Digest} (h : p.key d v = q.key d w) :
    p.listing = q.listing ∧ v = w ∧
      (Digest.Collide (p.content d).toByteArray (q.content d).toByteArray ∨
        p.content d = q.content d) := by
  obtain ⟨hrest, hwrapper⟩ := Digest.append_toHex_inj h
  obtain ⟨hlisting, hdigest⟩ := Digest.append_toHex_inj hrest
  exact ⟨hlisting, hwrapper, (Digest.collide_or_eq hdigest).imp_right String.toByteArray_inj.1⟩

/-- Exactly one part is replaced by another one. -/
inductive Edit (p : KernelParts) : KernelParts → Prop
  | body {body : String} (h : p.body ≠ body) : Edit p { p with body }
  | text {sources : List Source}
      (h : Replaced (fun s t => s.path = t.path ∧ s.text ≠ t.text) p.sources sources) :
      Edit p { p with sources }
  | code {contributions : List Contribution}
      (h : Replaced (fun c c' => c.path = c'.path ∧ c.hashFragment = c'.hashFragment ∧
        c.code ≠ c'.code) p.contributions contributions) : Edit p { p with contributions }
  | fragment {contributions : List Contribution}
      (h : Replaced (fun c c' => c.path = c'.path ∧ c.code = c'.code ∧
        c.hashFragment ≠ c'.hashFragment) p.contributions contributions) :
      Edit p { p with contributions }
  | declaration {declarations : List String} (h : Replaced (· ≠ ·) p.declarations declarations) :
      Edit p { p with declarations }
  | shim {shims : List String} (h : Replaced (· ≠ ·) p.shims shims) : Edit p { p with shims }
  | definition {definitions : Definitions}
      (h : Replaced (fun a b => a.name = b.name ∧ a.value ≠ b.value) p.definitions.toList
        definitions.toList) : Edit p { p with definitions }
  | permutation {permutations : PermutationVector}
      (h : Replaced (fun o o' => o.name = o'.name ∧ o.count ≠ o'.count) p.permutations.options
        permutations.options) : Edit p { p with permutations }

/-- Code that is replaced changes what is filed, if it is filed, and otherwise what is inline. -/
theorem content_ne_of_code {contributions : List Contribution}
    (h : Replaced (fun c c' => c.path = c'.path ∧ c.hashFragment = c'.hashFragment ∧
      c.code ≠ c'.code) p.contributions contributions) :
    p.content d ≠ { p with contributions }.content d := by
  have hplaces : Replaced (fun c c' => (c.filed ≠ c'.filed ∧ c.text d = c'.text d) ∨
      (c.filed = c'.filed ∧ c.text d ≠ c'.text d)) p.contributions contributions := by
    refine h.imp ?_
    rintro ⟨path, code, _⟩ ⟨_, code', _⟩ ⟨rfl, _, hcode⟩
    cases path with
    | some path => exact Or.inl ⟨hcode, rfl⟩
    | none => exact Or.inr ⟨rfl, hcode⟩
  rw [content, content, source, source]
  rcases hplaces.or with hfiled | hinline
  · rw [hfiled.map_eq fun _ _ h => h.2, ne_eq, String.append_left_inj, String.append_right_inj]
    exact hfiled.join_ne fun _ _ h => h.1
  · rw [hinline.map_eq fun _ _ h => h.1, ne_eq, String.append_right_inj, String.append_left_inj,
      String.append_left_inj, String.append_right_inj]
    exact hinline.join_ne fun _ _ h => h.2

/-- **An edit is not masked**: what is listed or what is hashed is another text. -/
theorem Edit.differs (h : p.Edit q) (d : Dialect) :
    p.listing ≠ q.listing ∨ p.content d ≠ q.content d := by
  cases h with
  | body h =>
    refine Or.inr ?_
    rw [content, content, source, source, ne_eq, String.append_right_inj, String.append_right_inj]
    exact h
  | text h =>
    refine Or.inr ?_
    have hlines := h.map_eq (f := fun s => d.includeLine s.path) fun _ _ h => by rw [h.1]
    rw [content, content, source, source, hlines, ne_eq, String.append_left_inj,
      String.append_left_inj]
    exact h.join_ne fun _ _ h => h.2
  | code h => exact Or.inr (content_ne_of_code h)
  | fragment h =>
    refine Or.inl ?_
    rw [listing, listing, ne_eq, String.append_left_inj, String.append_left_inj]
    exact h.join_ne fun _ _ h => h.2.2
  | declaration h =>
    refine Or.inr ?_
    rw [content, content, source, source, ne_eq, String.append_right_inj, String.append_left_inj,
      String.append_left_inj, String.append_left_inj, String.append_left_inj]
    exact h.join_ne fun _ _ h heq => h ((String.append_left_inj _).1 heq)
  | shim h =>
    refine Or.inr ?_
    have hjoin := h.join_ne (f := id) fun _ _ h => h
    rw [List.map_id, List.map_id] at hjoin
    rw [content, content, source, source, ne_eq, String.append_right_inj, String.append_left_inj,
      String.append_right_inj]
    exact hjoin
  | definition h =>
    refine Or.inl ?_
    rw [listing, listing, ne_eq, String.append_left_inj, String.append_right_inj]
    refine h.join_ne fun a b h heq => h.2 ?_
    rwa [h.1, String.append_left_inj, String.append_right_inj] at heq
  | permutation h =>
    refine Or.inl ?_
    rw [listing, listing, ne_eq, String.append_right_inj]
    refine h.join_ne fun o o' h heq => h.2 (Int64.toInt_inj.1 (Int.repr_injective ?_))
    rwa [h.1, String.append_left_inj, String.append_right_inj] at heq

end

end KernelParts

/-! ## The parts of a build -/

/-- Leaving texts out of a concatenation, or putting empty ones in their place. -/
theorem join_filterMap {α : Type} (f : α → Option String) (as : List α) :
    String.join (as.filterMap f) = String.join (as.map fun a => (f a).getD "") := by
  induction as with
  | nil => rfl
  | cons a as ih =>
    rw [List.filterMap_cons, List.map_cons, String.join_cons, ← ih]
    cases f a with
    | none => exact (String.empty_append).symm
    | some text => exact String.join_cons

namespace Graph

/-- The parts of a kernel with the files of this store, if it has a source and no interface
    fails. -/
def parts? (g : Graph) (files : FileStore) (k : Int) (d : Dialect) : Option KernelParts :=
  (g.source? k).bind fun s =>
    (contributions (g.layout k) (g.boundInterfaces k) files).toOption.map fun contributions =>
      { contributions
        declarations := structDeclarations (g.boundInterfaces k)
        sources := s.pool.gather s.sources
        shims := (g.kernelEdges k).map fun (e, _) => ((g.edgeShim? s e).map d.shim).getD ""
        body := s.body
        definitions := allDefinitions s (g.boundInterfaces k)
        permutations := allPermutations s (g.boundInterfaces k) }

section
variable {g : Graph} {files : FileStore} {registry : Nat} {k : Int} {d : Dialect}
  {format : String} {a b : KernelBuild}

/-- The code in files of its own, listed or with nothing in the place of the rest. -/
theorem join_generated (cs : List Contribution) :
    String.join ((cs.filterMap Contribution.generated?).map Prod.snd) =
      String.join (cs.map Contribution.filed) := by
  have hfiled : ∀ c : Contribution, (c.generated?.map Prod.snd).getD "" = c.filed := by
    rintro ⟨path, code, _⟩
    cases path <;> rfl
  rw [List.map_filterMap, join_filterMap, funext hfiled]

theorem join_shims (g : Graph) (k : Int) (s : KernelSource) (d : Dialect) :
    String.join ((g.shims k s).map d.shim) = String.join ((g.kernelEdges k).map fun (e, _) =>
      ((g.edgeShim? s e).map d.shim).getD "") := by
  rw [shims, List.map_filterMap, join_filterMap]

/-- An assembled kernel has the key of its parts, and what is hashed for it is theirs. -/
theorem assemble_key {k : Nat} {s : KernelSource} {w : Digest} (hs : g.source? k = some s)
    (h : g.assemble files k s d w = .ok b) :
    ∃ p, g.parts? files k d = some p ∧ b.hashed = p.content d ∧ b.hashKey = p.key d w := by
  simp only [assemble] at h
  cases hcs : contributions (g.layout k) (g.boundInterfaces k) files with
  | error e =>
    rw [hcs] at h
    cases h
  | ok cs =>
    rw [hcs] at h
    cases h
    refine ⟨_, by rw [parts?, hs, Option.bind_some, hcs]; rfl, ?_, ?_⟩
    · simp only [KernelBuild.hashed, KernelParts.content, KernelParts.source, String.join_append,
        join_generated, join_shims]
    · simp only [KernelParts.key, KernelParts.listing, KernelParts.content, KernelParts.source,
        Hasher.sum_texts, String.join_append, join_generated, join_shims]

/-- **A build has the key of its parts**, with the digest of the wrapper that it was given. -/
theorem build_key (h : (g.build files registry k d format).result = .ok b) :
    ∃ p w, g.parts? files k d = some p ∧
      ((digested (g.boundInterfaces k) files).digest registry VirtualPath.kernelWrapper
        format).1 = .ok w ∧
      b.hashed = p.content d ∧ b.hashKey = p.key d w := by
  obtain ⟨s, w, h0, _, hs, hw, hassemble⟩ := build_eq_ok.1 h
  obtain ⟨n, rfl⟩ := Int.eq_ofNat_of_zero_le h0
  obtain ⟨p, hp, hhashed, hkey⟩ := assemble_key hs hassemble
  exact ⟨p, w, hp, hw, hhashed, hkey⟩

/-- **An edit changes the key**, unless what is hashed collides. -/
theorem hashKey_ne_of_edit {g' : Graph} {files' : FileStore} {registry' : Nat} {k' : Int}
    {format' : String} {p q : KernelParts}
    (ha : (g.build files registry k d format).result = .ok a)
    (hb : (g'.build files' registry' k' d format').result = .ok b)
    (hp : g.parts? files k d = some p) (hq : g'.parts? files' k' d = some q) (hedit : p.Edit q) :
    b.hashKey ≠ a.hashKey ∨ Digest.Collide a.hashed.toByteArray b.hashed.toByteArray := by
  obtain ⟨p', v, hp', _, hahashed, hakey⟩ := build_key ha
  obtain ⟨q', w, hq', _, hbhashed, hbkey⟩ := build_key hb
  cases hp.symm.trans hp'
  cases hq.symm.trans hq'
  by_cases heq : b.hashKey = a.hashKey
  · refine Or.inr ?_
    rw [hakey, hbkey] at heq
    obtain ⟨hlisting, _, hcontent⟩ := KernelParts.eq_of_key_eq heq.symm
    rw [hahashed, hbhashed]
    rcases hcontent with hcollide | hcontent
    · exact hcollide
    · rcases hedit.differs d with hne | hne
      · exact absurd hlisting hne
      · exact absurd hcontent hne
  · exact Or.inl heq

end

end Graph

/-! ## New names -/

/-- The layout under another name. -/
def Layout.rename (l : Layout) (name : String) : Layout := { l with name }

/-- The build of a kernel whose graph has another name. -/
def KernelBuild.rename (b : KernelBuild) (name : String) : KernelBuild :=
  { b with friendlyName := name, layout := b.layout.rename name }

namespace Layout

theorem addParameter_rename (i : Int) (l : Layout) (name : String) (scope : Scope)
    (p : ParameterDecl) : addParameter i (l.rename name, scope) p =
      ((addParameter i (l, scope) p).1.rename name, (addParameter i (l, scope) p).2) := by
  rw [addParameter, addParameter]
  split <;> rfl

theorem foldl_addParameter_rename (i : Int) (l : Layout) (name : String) (scope : Scope)
    (ps : List ParameterDecl) : ps.foldl (addParameter i) (l.rename name, scope) =
      ((ps.foldl (addParameter i) (l, scope)).1.rename name,
        (ps.foldl (addParameter i) (l, scope)).2) := by
  induction ps generalizing l scope with
  | nil => rfl
  | cons p ps ih =>
    rw [List.foldl_cons, List.foldl_cons, addParameter_rename]
    exact ih _ _

theorem addSlot_rename (l : Layout) (name : String) (i : Int) (d : DataInterface) :
    (l.rename name).addSlot i d = (l.addSlot i d).rename name := by
  rw [addSlot, addSlot, foldl_addParameter_rename]
  rfl

theorem foldl_addSlot_rename (l : Layout) (name : String) (is : List (Int × DataInterface)) :
    is.foldl (fun l (i, d) => l.addSlot i d) (l.rename name) =
      (is.foldl (fun l (i, d) => l.addSlot i d) l).rename name := by
  induction is generalizing l with
  | nil => rfl
  | cons x is ih =>
    rw [List.foldl_cons, List.foldl_cons]
    dsimp only
    rw [addSlot_rename, ih]

end Layout

namespace Graph

/-- The graphs differ in names only: that of the graph and those of its kernels. -/
structure Renamed (g g' : Graph) : Prop where
  kernels : g'.kernels.map (Option.map Kernel.source) = g.kernels.map (Option.map Kernel.source)
  interfaces : g'.interfaces = g.interfaces
  edges : g'.edges = g.edges

section
variable {g g' : Graph} {k : Int}

/-- The source of a kernel does not depend on the kernel's name. -/
theorem source?_eq (g : Graph) (k : Int) : g.source? k =
    (elementAt? (g.kernels.map (Option.map Kernel.source)) k).join.join := by
  rw [source?, kernel?, elementAt?, elementAt?]
  split
  · rfl
  · rw [List.getElem?_map]
    rcases g.kernels[k.toNat]? with _ | _ | kernel <;> rfl

theorem Renamed.boundInterfaces_eq (h : Renamed g g') (k : Int) :
    g'.boundInterfaces k = g.boundInterfaces k := by
  simp only [boundInterfaces, boundSlots, kernelEdges, interface?, h.interfaces, h.edges]

theorem Renamed.shims_eq (h : Renamed g g') (k : Int) (s : KernelSource) :
    g'.shims k s = g.shims k s := by
  simp only [shims, edgeShim?, kernelEdges, interface?, h.interfaces, h.edges]

theorem Renamed.layout_eq (h : Renamed g g') (k : Int) :
    g'.layout k = (g.layout k).rename (g'.friendlyName k) := by
  rw [layout, layout, h.boundInterfaces_eq, ← Layout.foldl_addSlot_rename]
  rfl

theorem contributions_rename (l : Layout) (name : String) (is : List (Int × DataInterface))
    (files : FileStore) : contributions (l.rename name) is files = contributions l is files := by
  induction is generalizing files with
  | nil => rfl
  | cons x is ih =>
    simp only [contributions, ih]
    rfl

variable {files : FileStore} {registry : Nat} {d : Dialect} {format : String} {b : KernelBuild}

theorem Renamed.assemble {k : Nat} {s : KernelSource} {w : Digest} (h : Renamed g g')
    (hb : g.assemble files k s d w = .ok b) :
    g'.assemble files k s d w = .ok (b.rename (g'.friendlyName k)) := by
  simp only [Graph.assemble] at hb ⊢
  rw [h.boundInterfaces_eq, h.shims_eq, h.layout_eq, contributions_rename]
  cases hcs : contributions (g.layout k) (g.boundInterfaces k) files with
  | error e =>
    rw [hcs] at hb
    cases hb
  | ok cs =>
    rw [hcs] at hb
    cases hb
    rfl

/-- **A new name changes nothing but the name**: the kernel is built as before, with the same
    key. -/
theorem build_renamed (h : Renamed g g')
    (hb : (g.build files registry k d format).result = .ok b) :
    (g'.build files registry k d format).result = .ok (b.rename (g'.friendlyName k)) := by
  obtain ⟨s, w, h0, hlt, hs, hw, hassemble⟩ := build_eq_ok.1 hb
  have hlength : g'.kernels.length = g.kernels.length := by
    have := congrArg List.length h.kernels
    rwa [List.length_map, List.length_map] at this
  have hnew := h.assemble hassemble
  rw [Int.toNat_of_nonneg h0] at hnew
  refine build_eq_ok.2 ⟨s, w, h0, ?_, ?_, by rwa [h.boundInterfaces_eq], hnew⟩
  · rwa [hlength]
  · rwa [source?_eq, h.kernels, ← source?_eq]

end

end Graph

end KernelGraph
