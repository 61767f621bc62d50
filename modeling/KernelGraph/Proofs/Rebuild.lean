/-
  Rebuilding a kernel after a source was edited.

  The hash key covers the assembled source and, through their digests, the files that the includes
  of the kernel wrapper lead to, and those of the built-in files that an interface adds to the key.
  It does not cover the files that are included from anywhere else: the kernel's body, its
  additional sources or the code of its interfaces.  Hence `rebuild_hashKey_ne_iff`: an edit that
  changes a unit changes the key exactly if one of the files of the key leads to the edited path,
  and otherwise the rebuilt kernel has its old key.
-/
import KernelGraph.Proofs.Build
import KernelGraph.Proofs.CompilationUnit
import KernelGraph.Proofs.KeyFragments

namespace KernelGraph.Graph

open FileStore (Current HasDigest Message Reaches)
open Include (Becomes framed framed_inj)
open KernelBuild (unit?_bare)

section
variable {g : Graph} {files edited : FileStore} {registry : Nat} {k : Int} {d : Dialect}
  {format : String} {b : KernelBuild} {source? source?' : String → Option String}

/-- The units of a build are the same under two stores that show the same texts. -/
theorem unit?_congr {r r' : Include.Resolver} (h : r.source? = r'.source?) (id : Int64) :
    b.unit? r id = b.unit? r' id := by
  have hparts : KernelBuild.SameParts b b := ⟨rfl, rfl, rfl, rfl, rfl⟩
  exact (hparts.unit?_eq_iff rfl h).2 (Or.inl rfl) id

theorem keyStem_append_toHex_inj {f f' : String} {w w' : Digest} :
    b.keyStem f ++ w.toHex = b.keyStem f' ++ w'.toHex ↔ f = f' ∧ w = w' := by
  refine ⟨fun h => ?_, fun ⟨hf, hw⟩ => by rw [hf, hw]⟩
  obtain ⟨hstem, hw⟩ := Digest.append_toHex_inj h
  simp only [KernelBuild.keyStem, String.append_left_inj] at hstem
  exact ⟨hstem, hw⟩

/-- **Builds of one kernel with two stores** differ in the digests that their keys hold only. -/
theorem rebuild_eq_ok (hfiles : files.Reachable) (hedited : edited.Reachable)
    (hbuild : (g.build files registry k d format).result = .ok b) :
    ∃ w, (files.digest registry VirtualPath.kernelWrapper format).1 = .ok w ∧
      b.hashKey = b.keyStem (keyFragments (g.boundInterfaces k) files) ++ w.toHex ∧
      ∀ b', (g.build edited registry k d format).result = .ok b' ↔
        ∃ w', (edited.digest registry VirtualPath.kernelWrapper format).1 = .ok w' ∧
          b' = { b with
            hashKey := b.keyStem (keyFragments (g.boundInterfaces k) edited) ++ w'.toHex } := by
  obtain ⟨s, w, h0, hlt, hs, hw, hassemble⟩ := (build_eq_ok_of_shows hfiles.shows).1 hbuild
  obtain ⟨hkey, hwith⟩ := assemble_with hassemble
  rw [Int.toNat_of_nonneg h0] at hkey hwith
  refine ⟨w, hw, hkey, fun b' => ?_⟩
  rw [build_eq_ok_of_shows hedited.shows]
  constructor
  · rintro ⟨s', w', _, _, hs', hw', hassemble'⟩
    rw [hs] at hs'
    cases hs'
    rw [hwith edited w'] at hassemble'
    exact ⟨w', hw', (Except.ok.inj hassemble').symm⟩
  · rintro ⟨w', hw', rfl⟩
    exact ⟨s, w', h0, hlt, hs, hw', hwith edited w'⟩

section
variable {path text : String}

/-- A registered source changes the text at its path, in the registries that see it there. -/
theorem source?_of_edit
    (hedit : (g.build files registry k d format).files.register registry path text = .ok edited)
    {p : String} (hp : p ≠ path) (id : Nat) : edited.source? id p = files.source? id p := by
  rw [FileStore.source?_register hedit hp]
  have hresolver := congrFun (resolver_build g files registry k d format) id
  exact congrFun (congrArg Include.Resolver.source? hresolver) p

/-- The first registry sees its own sources only. -/
theorem source?_builtin_of_edit (hregistry : registry ≠ Builtin.registryId)
    (hedit : (g.build files registry k d format).files.register registry path text = .ok edited) :
    edited.source? Builtin.registryId = files.source? Builtin.registryId := by
  have hresolver := congrFun (resolver_build g files registry k d format) Builtin.registryId
  have hsource := congrArg Include.Resolver.source? hresolver
  dsimp only [FileStore.resolver] at hsource
  rw [← hsource]
  refine FileStore.source?_builtin_congr ?_
  rw [FileStore.register] at hedit
  split at hedit
  · cases hedit
    rw [FileStore.registry_modify, if_neg fun h => hregistry h.1.symm]
  · cases hedit

/-- The key of a rebuilt kernel is another one exactly if one of the digests in it is. -/
theorem rebuild_hashKey_ne_iff_digest_ne {w : Digest} (hfiles : files.Reachable)
    (hbuild : (g.build files registry k d format).result = .ok b)
    (hedit : (g.build files registry k d format).files.register registry path text = .ok edited)
    (hw : (files.digest registry VirtualPath.kernelWrapper format).1 = .ok w) :
    (∃ b', (g.build edited registry k d format).result = .ok b' ∧ b'.hashKey ≠ b.hashKey) ↔
      ∃ w', HasDigest (edited.source? registry) format VirtualPath.kernelWrapper w' ∧
        (w' ≠ w ∨ ∃ key ∈ g.hashedKeys k,
          edited.builtinDigest? key ≠ files.builtinDigest? key) := by
  have hbuilt : (g.build files registry k d format).files.Reachable := reachable_build g k d hfiles
  have hcurrent :
      edited.Current registry := FileStore.current_register (hbuilt.holds registry) hedit
  obtain ⟨v, hv, hkey, hrebuild⟩ := rebuild_eq_ok hfiles (hbuilt.register hedit) hbuild
  rw [hw] at hv
  cases hv
  have hfragments := keyFragments_eq_iff (g := g) (k := k) hfiles.shows
    (hbuilt.register hedit).shows fun p hp => source?_of_edit hedit hp Builtin.registryId
  have hkeys : ∀ w' : Digest,
      b.keyStem (keyFragments (g.boundInterfaces k) edited) ++ w'.toHex ≠ b.hashKey ↔
        (w' ≠ w ∨ ∃ key ∈ g.hashedKeys k,
          edited.builtinDigest? key ≠ files.builtinDigest? key) := fun w' => by
    rw [hkey, Ne, keyStem_append_toHex_inj, hfragments, not_and_or, or_comm]
    simp only [not_forall, exists_prop, Ne]
  constructor
  · rintro ⟨b', hb', hne⟩
    obtain ⟨w', hw', rfl⟩ := (hrebuild b').1 hb'
    exact ⟨w', hcurrent.digest_eq_ok_iff.1 hw', (hkeys w').1 hne⟩
  · rintro ⟨w', hw', hne⟩
    exact ⟨_, (hrebuild _).2 ⟨w', hcurrent.digest_eq_ok_iff.2 hw', rfl⟩, (hkeys w').2 hne⟩

end

/-- The files whose digests the key of a kernel holds, with the registries that are asked for them:
    those of its interfaces and the wrapper. -/
def keyFiles (g : Graph) (registry : Nat) (k : Int) (format : String) : List (Nat × DigestKey) :=
  (g.hashedKeys k).map (fun key => (Builtin.registryId, key)) ++
    [(registry, ⟨VirtualPath.kernelWrapper, format⟩)]

/-- Such a file has the digest that it had, or none as before. -/
def KeepsDigest (files edited : FileStore) (x : Nat × DigestKey) : Prop :=
  ∀ e, HasDigest (edited.source? x.1) x.2.format x.2.path e ↔
    HasDigest (files.source? x.1) x.2.format x.2.path e

/-- Two different messages with one digest, hashed for such files with two stores. -/
def KeyFilesCollide (g : Graph) (registry : Nat) (k : Int) (format : String)
    (files edited : FileStore) : Prop :=
  ∃ x ∈ g.keyFiles registry k format, ∃ m m',
    Message (files.source? x.1) x.2.format x.2.path m ∧
      Message (edited.source? x.1) x.2.format x.2.path m' ∧ Digest.Collide m m'

/-- Such a file leads to the edited one, and it has a digest before the edit or after it. -/
def KeyReaches (g : Graph) (registry : Nat) (k : Int) (format : String) (files edited : FileStore)
    (path : String) : Prop :=
  ∃ x ∈ g.keyFiles registry k format, x.1 = registry ∧
    Reaches (files.source? registry) x.2.path path ∧
    ∃ e, HasDigest (files.source? registry) x.2.format x.2.path e ∨
      HasDigest (edited.source? registry) x.2.format x.2.path e

/-- The digests of such files are what makes keys of one kernel different. -/
theorem digest_ne_iff_exists_keyFile {w w' : Digest} (hfiles : files.Shows source?)
    (hedited : edited.Shows source?')
    (hw : HasDigest (files.source? registry) format VirtualPath.kernelWrapper w)
    (hw' : HasDigest (edited.source? registry) format VirtualPath.kernelWrapper w') :
    (w' ≠ w ∨ ∃ key ∈ g.hashedKeys k, edited.builtinDigest? key ≠ files.builtinDigest? key) ↔
      ∃ x ∈ g.keyFiles registry k format, ¬ KeepsDigest files edited x := by
  have hwrapper : w' ≠ w ↔
      ¬ KeepsDigest files edited (registry, ⟨VirtualPath.kernelWrapper, format⟩) := by
    refine not_congr ⟨?_, fun hkeeps => hw'.unique ((hkeeps w).2 hw)⟩
    rintro rfl e
    exact ⟨fun he => he.unique hw' ▸ hw, fun he => he.unique hw ▸ hw'⟩
  have hkey : ∀ key, edited.builtinDigest? key ≠ files.builtinDigest? key ↔
      ¬ KeepsDigest files edited (Builtin.registryId, key) := fun key => by
    rw [Ne, Option.ext_iff]
    simp only [hfiles.builtinDigest?_eq_some_iff, hedited.builtinDigest?_eq_some_iff, KeepsDigest,
      hfiles.source, hedited.source]
  simp only [hwrapper, hkey, keyFiles, List.mem_append, List.mem_map, List.mem_singleton]
  constructor
  · rintro (h | ⟨key, hmem, h⟩)
    · exact ⟨_, Or.inr rfl, h⟩
    · exact ⟨_, Or.inl ⟨key, hmem, rfl⟩, h⟩
  · rintro ⟨_, ⟨key, hmem, rfl⟩ | rfl, h⟩
    · exact Or.inr ⟨key, hmem, h⟩
    · exact Or.inl h

section
variable {path text : String}

/-- **Which digests an edit changes**, if no messages collide: those of the files that lead to the
    edited one, as far as they have any. -/
theorem keepsDigest_iff
    (hedit : (g.build files registry k d format).files.register registry path text = .ok edited)
    (hchanged : files.source? registry path ≠ edited.source? registry path)
    (hcollide : ¬ g.KeyFilesCollide registry k format files edited) {x : Nat × DigestKey}
    (hx : x ∈ g.keyFiles registry k format) : ¬ KeepsDigest files edited x ↔
      x.1 = registry ∧ Reaches (files.source? registry) x.2.path path ∧
        ∃ e, HasDigest (files.source? registry) x.2.format x.2.path e ∨
          HasDigest (edited.source? registry) x.2.format x.2.path e := by
  obtain ⟨id, key⟩ := x
  constructor
  · intro hne
    have hid : id = registry := by
      by_contra hid
      -- another registry can only be the first one, which does not see the edited source
      have hbuiltin : id = Builtin.registryId := by
        rcases List.mem_append.1 hx with h | h
        · obtain ⟨_, _, heq⟩ := List.mem_map.1 h
          exact (Prod.mk.inj heq).1.symm
        · exact absurd (Prod.mk.inj (List.mem_singleton.1 h)).1 hid
      subst hbuiltin
      have hsource := source?_builtin_of_edit (Ne.symm hid) hedit
      refine hne fun e => ?_
      show HasDigest (edited.source? Builtin.registryId) _ _ e ↔ _
      rw [hsource]
    subst hid
    by_contra hnone
    refine hne fun e => ?_
    by_cases hreach : Reaches (files.source? id) key.path path
    · exact ⟨fun he => absurd ⟨rfl, hreach, e, Or.inr he⟩ hnone,
        fun he => absurd ⟨rfl, hreach, e, Or.inl he⟩ hnone⟩
    · exact FileStore.hasDigest_iff_of_not_reaches (fun p hp => source?_of_edit hedit hp id) hreach
  · rintro ⟨rfl, hreach, e, he⟩ hkeeps
    have hbefore := (or_iff_left_of_imp (hkeeps e).1).1 he
    rcases FileStore.source?_eq_of_digest_eq hbefore ((hkeeps e).2 hbefore) hreach with hc | heq
    · exact hcollide ⟨_, hx, hc⟩
    · exact hchanged heq

/-- A unit that is another one after an edit shows that the edited source is another one. -/
theorem source?_ne_of_unit?_ne
    (hedit : (g.build files registry k d format).files.register registry path text = .ok edited)
    (hunit : ∃ id, b.unit? (files.resolver registry) id ≠ b.unit? (edited.resolver registry) id) :
    files.source? registry path ≠ edited.source? registry path := by
  intro heq
  obtain ⟨id, hid⟩ := hunit
  refine hid (unit?_congr (funext fun p => ?_) id)
  by_cases hp : p = path
  · rw [hp]
    exact heq
  · exact (source?_of_edit hedit hp registry).symm

/-- **When an edit reaches the hash key.**  A kernel was built; then a source was registered with
    the registry of its graph, and that changed the unit of some permutation.  Rebuilding yields a
    different key exactly if the wrapper still has a digest, and it or a file that an interface
    adds to the key has another digest than the first build was given.

    Let the digest of the wrapper have been current, and let no two messages collide that were
    hashed for the files of the key.  Then rebuilding yields a different key exactly if the wrapper
    still has a digest and the includes of one of these files lead to the edited path in the graph's
    registry; and if none of them leads there, it yields the old key. -/
theorem rebuild_hashKey_ne_iff (hfiles : files.Reachable)
    (hbuild : (g.build files registry k d format).result = .ok b)
    (hedit : (g.build files registry k d format).files.register registry path text = .ok edited)
    (hunit : ∃ id, b.unit? (files.resolver registry) id ≠ b.unit? (edited.resolver registry) id) :
    ∃ w, (files.digest registry VirtualPath.kernelWrapper format).1 = .ok w ∧
      ((∃ b', (g.build edited registry k d format).result = .ok b' ∧ b'.hashKey ≠ b.hashKey) ↔
        ∃ w', HasDigest (edited.source? registry) format VirtualPath.kernelWrapper w' ∧
          (w' ≠ w ∨ ∃ key ∈ g.hashedKeys k,
            edited.builtinDigest? key ≠ files.builtinDigest? key)) ∧
      (HasDigest (files.source? registry) format VirtualPath.kernelWrapper w →
        g.KeyFilesCollide registry k format files edited ∨
        (((∃ b', (g.build edited registry k d format).result = .ok b' ∧ b'.hashKey ≠ b.hashKey) ↔
            (∃ w', HasDigest (edited.source? registry) format VirtualPath.kernelWrapper w') ∧
              g.KeyReaches registry k format files edited path) ∧
          ((∀ x ∈ g.keyFiles registry k format, x.1 = registry →
              ¬ Reaches (files.source? registry) x.2.path path) →
            ∃ b', (g.build edited registry k d format).result = .ok b' ∧
              b'.hashKey = b.hashKey))) := by
  have hbuilt : (g.build files registry k d format).files.Reachable := reachable_build g k d hfiles
  have hedited := hbuilt.register hedit
  obtain ⟨w, hgiven, hkey, hrebuild⟩ := rebuild_eq_ok hfiles hedited hbuild
  have hne := rebuild_hashKey_ne_iff_digest_ne hfiles hbuild hedit hgiven
  refine ⟨w, hgiven, hne, fun hw => ?_⟩
  by_cases hcollide : g.KeyFilesCollide registry k format files edited
  · exact Or.inl hcollide
  have hchanged := source?_ne_of_unit?_ne hedit hunit
  have hkeeps : ∀ x ∈ g.keyFiles registry k format, _ := fun x hx =>
    keepsDigest_iff hedit hchanged hcollide hx
  have hiff : (∃ b', (g.build edited registry k d format).result = .ok b' ∧
      b'.hashKey ≠ b.hashKey) ↔
      (∃ w', HasDigest (edited.source? registry) format VirtualPath.kernelWrapper w') ∧
        g.KeyReaches registry k format files edited path := by
    rw [hne, KeyReaches, ← exists_and_right]
    refine exists_congr fun w' => and_congr_right fun hw' => ?_
    rw [digest_ne_iff_exists_keyFile hfiles.shows hedited.shows hw hw']
    exact exists_congr fun x => and_congr_right fun hx => hkeeps x hx
  refine Or.inr ⟨hiff, fun hnone => ?_⟩
  -- the wrapper keeps its digest, and so does every other file of the key
  have hwrapper : HasDigest (edited.source? registry) format VirtualPath.kernelWrapper w :=
    (FileStore.hasDigest_iff_of_not_reaches (fun p hp => source?_of_edit hedit hp registry)
      (hnone (registry, ⟨VirtualPath.kernelWrapper, format⟩)
        (List.mem_append_right _ (List.mem_singleton_self _)) rfl)).2 hw
  have hcurrent : edited.Current registry :=
    FileStore.current_register (hbuilt.holds registry) hedit
  have hsome := (hrebuild _).2 ⟨w, hcurrent.digest_eq_ok_iff.2 hwrapper, rfl⟩
  refine ⟨_, hsome, by_contra fun hother => ?_⟩
  obtain ⟨_, x, hx, hid, hreach, _⟩ := hiff.1 ⟨_, hsome, hother⟩
  exact hnone x hx hid hreach

end

end

/-! ## An edit that the key misses -/

/-- A store with one registry, which has the wrapper and a library. -/
def libraryFiles : FileStore :=
  ⟨#[{ sources := [(VirtualPath.kernelWrapper, FileStore.bareWrapper),
      ("/lib.wgsl", "const A = 1;\n")] }]⟩

/-- A kernel whose body includes the library. -/
def librarySource : KernelSource := { entryPoint := "Main", body := "#include \"/lib.wgsl\"\n" }

/-- The graph of that kernel. -/
def libraryGraph : Graph := { name := "G", kernels := [some ⟨"A", some librarySource⟩] }

/-- Its build. -/
def libraryBuild : KernelBuild :=
  (libraryGraph.assemble {} 0 librarySource .wgsl
    (FileStore.message "wgsl" FileStore.bareWrapper []).sum).toOption.getD default

/-- A store after another library was registered. -/
def withLibrary (files : FileStore) : FileStore :=
  (files.register 0 "/lib.wgsl" "const A = 2;\n").toOption.getD {}

/-- The store after the build and that edit. -/
def editedFiles : FileStore := withLibrary (libraryGraph.build libraryFiles 0 0 .wgsl "wgsl").files

theorem register_library (files : FileStore) :
    files.register 0 "/lib.wgsl" "const A = 2;\n" = .ok (withLibrary files) := by
  have hpath : Text.startsWith "/lib.wgsl" "/" = true := by decide
  rw [withLibrary, FileStore.register, if_pos hpath]
  rfl

theorem source?_library :
    libraryFiles.source? 0 VirtualPath.kernelWrapper = some FileStore.bareWrapper :=
  FileStore.source?_of_lookup rfl

theorem source?_oldLibrary : libraryFiles.source? 0 "/lib.wgsl" = some "const A = 1;\n" :=
  FileStore.source?_of_lookup rfl

theorem reachable_library : libraryFiles.Reachable := by
  have hlibrary : FileStore.register
      ⟨#[{ sources := [(VirtualPath.kernelWrapper, FileStore.bareWrapper)] }]⟩ 0 "/lib.wgsl"
        "const A = 1;\n" = .ok libraryFiles := by
    rw [FileStore.register, if_pos (by decide)]
    rfl
  exact .register (.single (by decide) FileStore.bareWrapper) hlibrary

theorem current_library : libraryFiles.Current 0 := Lru.holds_empty _

theorem build_library :
    (libraryGraph.build libraryFiles 0 0 .wgsl "wgsl").result = .ok libraryBuild :=
  build_eq_ok.2 ⟨librarySource, _, by decide, by decide, rfl, current_library.digest_eq_ok_iff.2
    (FileStore.hasDigest_leaf source?_library FileStore.included_bareWrapper), rfl⟩

/-- The edited store shows what it would show without the build in between. -/
theorem source?_edited : editedFiles.source? 0 = (withLibrary libraryFiles).source? 0 := by
  have hedit := register_library (libraryGraph.build libraryFiles 0 0 .wgsl "wgsl").files
  rw [editedFiles, build_files build_library] at *
  funext p
  by_cases hp : p = "/lib.wgsl"
  · subst hp
    have hsize :
        0 < (libraryFiles.digest 0 VirtualPath.kernelWrapper "wgsl").2.registries.size := by
      show 0 < (Array.modify _ _ _).size
      rw [Array.size_modify]
      decide
    rw [FileStore.source?_register_self hedit hsize,
      FileStore.source?_register_self (register_library libraryFiles) (by decide)]
  · rw [FileStore.source?_register hedit hp, FileStore.source?_digest,
      FileStore.source?_register (register_library libraryFiles) hp]
    rfl

/-- The only message that is hashed for the wrapper, before the edit and after it. -/
theorem message_library {files : FileStore} {m : ByteArray}
    (htext : files.source? 0 VirtualPath.kernelWrapper = some FileStore.bareWrapper)
    (h : Message (files.source? 0) "wgsl" VirtualPath.kernelWrapper m) :
    m = (FileStore.message "wgsl" FileStore.bareWrapper []).content := by
  obtain ⟨path, hreach, text, ds, hpath, hds, rfl⟩ := h
  rw [FileStore.reaches_leaf htext FileStore.included_bareWrapper hreach, htext] at hpath
  cases hpath
  rw [FileStore.included_bareWrapper] at hds
  cases hds
  rfl

theorem source?_wrapper_edited :
    editedFiles.source? 0 VirtualPath.kernelWrapper = some FileStore.bareWrapper := by
  rw [source?_edited, FileStore.source?_register (register_library libraryFiles) (by decide)]
  exact source?_library

/-- The unit of the build shows the library's text. -/
theorem unit?_library {files : Include.Resolver} {text : String}
    (hwrapper : files.source? VirtualPath.kernelWrapper = some FileStore.bareWrapper)
    (hlibrary : files.source? "/lib.wgsl" = some text) (hterm : Text.isTerminated text)
    (hplain : Include.Plain text) : libraryBuild.unit? files 0 =
      some ("\n" ++ framed VirtualPath.kernelWrapper (framed VirtualPath.generatedKernel
        (framed "/lib.wgsl" text))) := by
  have hsource : libraryBuild.source = "#include \"" ++ "/lib.wgsl" ++ "\"\n" := by decide
  have hbecomes : Becomes ((libraryBuild.request files).variant [] 0).resolver
      [VirtualPath.kernelWrapper, VirtualPath.generatedKernel] [] libraryBuild.source
      (framed "/lib.wgsl" text) ["/lib.wgsl"] := by
    rw [hsource]
    exact .directive (by decide) (by decide) (by decide) List.not_mem_nil hlibrary
      (.plain hterm hplain)
  rw [unit?_bare rfl (fun x hx => by cases hx) hwrapper rfl hbecomes]
  rfl

theorem unit?_edited_ne :
    libraryBuild.unit? (libraryFiles.resolver 0) 0 ≠
      libraryBuild.unit? (editedFiles.resolver 0) 0 := by
  have hedited : editedFiles.source? 0 "/lib.wgsl" = some "const A = 2;\n" := by
    rw [source?_edited]
    exact FileStore.source?_register_self (register_library libraryFiles) (by decide)
  rw [unit?_library source?_library source?_oldLibrary (by decide) (by decide),
    unit?_library source?_wrapper_edited hedited (by decide) (by decide), Ne, Option.some.injEq,
    String.append_right_inj, framed_inj, framed_inj, framed_inj]
  decide

/-- The wrapper is the only file whose digest is in the key. -/
theorem keyFiles_library : libraryGraph.keyFiles 0 0 "wgsl" =
    [(0, ⟨VirtualPath.kernelWrapper, "wgsl"⟩)] := rfl

theorem not_collide_library :
    ¬ libraryGraph.KeyFilesCollide 0 0 "wgsl" libraryFiles editedFiles := by
  rintro ⟨x, hx, m, m', h, h', hcollide⟩
  rw [keyFiles_library, List.mem_singleton] at hx
  subst hx
  rw [message_library source?_library h, message_library source?_wrapper_edited h'] at hcollide
  exact hcollide.1 rfl

/-- A new library changes the kernel's unit, and the kernel has its old key. -/
theorem rebuild_library :
    libraryFiles.Reachable ∧
      (libraryGraph.build libraryFiles 0 0 .wgsl "wgsl").result = .ok libraryBuild ∧
      (libraryGraph.build libraryFiles 0 0 .wgsl "wgsl").files.register 0 "/lib.wgsl"
        "const A = 2;\n" = .ok editedFiles ∧
      (∃ id, libraryBuild.unit? (libraryFiles.resolver 0) id ≠
        libraryBuild.unit? (editedFiles.resolver 0) id) ∧
      ∃ b, (libraryGraph.build editedFiles 0 0 .wgsl "wgsl").result = .ok b ∧
        b.hashKey = libraryBuild.hashKey := by
  refine ⟨reachable_library, build_library, register_library _, ⟨0, unit?_edited_ne⟩, ?_⟩
  obtain ⟨w, hw, _, hcases⟩ := rebuild_hashKey_ne_iff reachable_library build_library
    (register_library _) ⟨0, unit?_edited_ne⟩
  rcases hcases (current_library.digest_eq_ok_iff.1 hw) with hcollide | ⟨_, hstale⟩
  · exact absurd hcollide not_collide_library
  · refine hstale fun x hx _ hreach => ?_
    rw [keyFiles_library, List.mem_singleton] at hx
    subst hx
    exact absurd (FileStore.reaches_leaf source?_library FileStore.included_bareWrapper hreach)
      (by decide)

/-- An edit that changes a unit does not always change the key, collisions aside. -/
theorem not_rebuild_hashKey_ne :
    ¬ ∀ (g : Graph) (files edited : FileStore) (registry : Nat) (k : Int) (d : Dialect)
      (format path text : String) (b : KernelBuild), files.Reachable →
      (g.build files registry k d format).result = .ok b →
      (g.build files registry k d format).files.register registry path text = .ok edited →
      (∃ id, b.unit? (files.resolver registry) id ≠ b.unit? (edited.resolver registry) id) →
      g.KeyFilesCollide registry k format files edited ∨
      ∃ b', (g.build edited registry k d format).result = .ok b' ∧ b'.hashKey ≠ b.hashKey := by
  intro h
  rcases h libraryGraph libraryFiles editedFiles 0 0 .wgsl "wgsl" "/lib.wgsl" "const A = 2;\n"
    libraryBuild reachable_library build_library (register_library _) ⟨0, unit?_edited_ne⟩ with
    hcollide | hne
  · exact not_collide_library hcollide
  · -- the wrapper still has the digest that the first build was given
    have hgiven : (libraryFiles.digest 0 VirtualPath.kernelWrapper "wgsl").1 = .ok _ :=
      current_library.digest_eq_ok_iff.2
        (FileStore.hasDigest_leaf source?_library FileStore.included_bareWrapper)
    obtain ⟨w, hw, hwne | ⟨key, hkey, _⟩⟩ :=
      (rebuild_hashKey_ne_iff_digest_ne reachable_library build_library (register_library _)
        hgiven).1 hne
    · exact hwne (hw.unique
        (FileStore.hasDigest_leaf source?_wrapper_edited FileStore.included_bareWrapper))
    · cases hkey

end KernelGraph.Graph
