/-
  Edits and hash keys.

  Whatever single part of a kernel is edited, its hash key is another one afterwards, collisions
  aside, and so it is after the wrapper was registered anew with the graph's registry.  The wrapper
  has one exception.  A registry remembers digests, and keeps them when one of its parents is
  edited; so the digest that a build is given may be that of an old text.  If just this text is
  registered, the text that the registry sees changes and the key does not.

  1. `TakenOf` says which text the digest that a registry gives was taken of.  It is the text that
     the registry sees if that is its own, if no digest of it is remembered, or if what is
     remembered is current (`Fresh`).

  2. After a text was registered, the digest is taken of that text.  So a kernel keeps its key
     exactly if text and includes are those that the old digest was taken of, collisions aside
     (`Graph.rebuild_hashKey_eq_iff`).
-/
import KernelGraph.Proofs.KeyParts
import KernelGraph.Proofs.Rebuild

namespace KernelGraph

namespace FileStore

/-! ## The text that a digest was taken of -/

/-- The digest that a registry gives for a file was taken of this text, with these digests of its
    includes. -/
structure TakenOf (fs : FileStore) (id : Nat) (path format text : String) (ds : List Digest) :
    Prop where
  given : (fs.digest id path format).1 = .ok (message format text ds).sum
  length : ds.length = (included text).length

/-- The registry has a text of its own for the file, remembers no digest of it, or remembers none
    that are out of date. -/
inductive Fresh (fs : FileStore) (id : Nat) (path format : String) : Prop
  | own {text : String} (h : (fs.registry id).sources.lookup path = some text)
  | absent (h : fs.remembered? id ⟨path, format⟩ = none)
  | current (h : fs.Current id)

/-- The digest was taken of the text. -/
def Covers (format text : String) (d : Digest) : Prop :=
  ∃ ds : List Digest, ds.length = (included text).length ∧ d = (message format text ds).sum

section
variable {fs fs' : FileStore} {id : Nat} {path format text : String}

/-- The remembered digests were taken of texts; where the registry has a text of its own, of that
    one. -/
def CoversOwn (r : Registry) (key : DigestKey) (d : Digest) : Prop :=
  ∃ text, Covers key.format text d ∧ ∀ own, r.sources.lookup key.path = some own → own = text

theorem inherited_coversOwn (fs : FileStore) (id : Nat) :
    Inherited (fs.source? id) (CoversOwn (fs.registry id)) := by
  intro format path text ds htext hds
  refine ⟨text, ⟨ds, hds.length_eq.symm, rfl⟩, fun own hown => ?_⟩
  exact Option.some.inj ((source?_of_lookup hown).symm.trans htext)

/-- **A registry's own texts**: it forgets its digests when they change, and what its parents get
    meanwhile it does not see. -/
theorem Reachable.coversOwn (h : Reachable fs) (id : Nat) :
    (fs.registry id).digests.Holds (CoversOwn (fs.registry id)) := by
  induction h generalizing id with
  | empty => exact Lru.holds_empty _
  | create parents _ ih =>
    rw [registry_create]
    split
    · exact Lru.holds_empty _
    · exact ih id
  | @register fs _ i path text _ hregister ih =>
    rw [FileStore.register] at hregister
    split at hregister
    · cases hregister
      rw [registry_modify]
      split
      · exact (ih id).clear _
      · exact ih id
    · cases hregister
  | @digest fs i path format _ ih =>
    have hkept := (digestFile_holds (inherited_coversOwn fs i) format (fs.known.length + 2) [] path
      _ (ih i)).1
    show ((fs.modify i _).registry id).digests.Holds (CoversOwn ((fs.modify i _).registry id))
    rw [registry_modify]
    split
    · rename_i hi
      rw [hi.1]
      exact hkept
    · exact ih id

/-- A digest of the file at `path` was taken of the text that the registry sees there. -/
def CoversSeen (source? : String → Option String) (path format : String) (key : DigestKey)
    (d : Digest) : Prop :=
  key = ⟨path, format⟩ → ∃ text, source? path = some text ∧ Covers format text d

theorem inherited_coversSeen (source? : String → Option String) (path format : String) :
    Inherited source? (CoversSeen source? path format) := by
  rintro _ _ text ds htext hds ⟨⟩
  exact ⟨text, htext, ds, hds.length_eq.symm, rfl⟩

theorem Fresh.coversSeen (h : fs.Fresh id path format) (hfs : fs.Reachable) :
    (fs.registry id).digests.Holds (CoversSeen (fs.source? id) path format) := by
  cases h with
  | own hown =>
    refine (hfs.coversOwn id).mono ?_
    rintro _ d ⟨text, hcovers, hsame⟩ rfl
    rw [← hsame _ hown] at hcovers
    exact ⟨_, source?_of_lookup hown, hcovers⟩
  | absent hnone =>
    refine (hfs.holds id).of_value? ?_
    rintro _ d hd rfl
    cases hnone.symm.trans hd
  | current hcurrent =>
    refine Lru.Holds.mono hcurrent ?_
    rintro _ d hd rfl
    obtain ⟨text, ds, htext, hds, rfl⟩ := hasDigest_iff.1 hd
    exact ⟨text, htext, ds, hds.length_eq.symm, rfl⟩

/-- **What a given digest was taken of**: some text, and if the registry is fresh, the one that it
    sees. -/
theorem Reachable.exists_takenOf (h : Reachable fs) {d : Digest}
    (hd : (fs.digest id path format).1 = .ok d) :
    ∃ text ds, fs.TakenOf id path format text ds ∧
      (fs.Fresh id path format → fs.source? id path = some text) := by
  rw [digest_fst] at hd
  by_cases hfresh : fs.Fresh id path format
  · obtain ⟨text, htext, ds, hlength, rfl⟩ := (digestFile_holds
      (inherited_coversSeen (fs.source? id) path format) format _ [] path _
      (hfresh.coversSeen h)).2 d hd rfl
    exact ⟨text, ds, ⟨hd, hlength⟩, fun _ => htext⟩
  · obtain ⟨text, ⟨ds, hlength, rfl⟩, _⟩ :=
      (digestFile_holds (inherited_coversOwn fs id) format _ [] path _ (h.coversOwn id)).2 d hd
    exact ⟨text, ds, ⟨hd, hlength⟩, fun h => absurd h hfresh⟩

/-- A registry that sees something exists. -/
theorem lt_size_of_source? (h : fs.source? id path = some text) : id < fs.registries.size := by
  by_contra hle
  have hnone : fs.registry id = {} := by
    rw [registry, Array.getD_eq_getD_getElem?, Array.getElem?_eq_none (Nat.not_lt.1 hle)]
    rfl
  rw [source?, hnone] at h
  cases h

/-- The digest of a text that was just registered. -/
theorem hasDigest_register {d : Digest} (hregister : fs.register id path text = .ok fs')
    (h : HasDigest (fs'.source? id) format path d) :
    ∃ ds, List.Forall₂ (HasDigest (fs'.source? id) format) (included text) ds ∧
      d = (message format text ds).sum := by
  obtain ⟨text', ds, htext', hds, rfl⟩ := hasDigest_iff.1 h
  have hid : id < fs.registries.size := by
    rw [← size_register hregister]
    exact lt_size_of_source? htext'
  cases (source?_register_self hregister hid).symm.trans htext'
  exact ⟨ds, hds, rfl⟩

end

end FileStore

namespace Graph

open FileStore (HasDigest Reaches HashedFrom Given included message bareWrapper)
open VirtualPath (kernelWrapper)

section
variable {g : Graph} {files edited : FileStore} {registry : Nat} {k : Int} {d : Dialect}
  {format : String} {a b : KernelBuild}

/-! ## Another wrapper -/

/-- Registering a text that the built-in registry had, or anything with another registry, leaves
    the fragments of the interfaces as they were. -/
theorem keyFragments_of_edit {path text : String} (hfiles : files.Reachable)
    (hedit : (g.build files registry k d format).files.register registry path text = .ok edited)
    (hsame : registry = Builtin.registryId → files.source? registry path = some text) :
    keyFragments (g.boundInterfaces k) edited = keyFragments (g.boundInterfaces k) files := by
  have hedited : edited.Reachable := .register (reachable_build g k d hfiles) hedit
  have hsource : edited.source? Builtin.registryId = files.source? Builtin.registryId := by
    by_cases hregistry : registry = Builtin.registryId
    · subst hregistry
      funext p
      by_cases hp : p = path
      · subst hp
        have hsome := hsame rfl
        have hsize : Builtin.registryId <
            (g.build files Builtin.registryId k d format).files.registries.size := by
          have hresolver := congrFun (resolver_build g files Builtin.registryId k d format)
            Builtin.registryId
          have hfound := (congrFun (congrArg Include.Resolver.source? hresolver) p).trans hsome
          exact FileStore.lt_size_of_source? hfound
        rw [FileStore.source?_register_self hedit hsize, hsome]
      · exact source?_of_edit hedit hp _
    · exact source?_builtin_of_edit hregistry hedit
  have hshows : edited.Shows (files.source? Builtin.registryId) :=
    ⟨hedited.current_builtin, hsource⟩
  rw [hfiles.shows.fragments_eq, hshows.fragments_eq, hfiles.shows.builtinDigest?_eq hshows]

/-- **A wrapper is registered with the graph's registry, and the kernel is rebuilt.**  It keeps its
    key exactly if text and includes are those that the first build's digest was taken of, unless
    the two messages collide. -/
theorem rebuild_hashKey_eq_iff {text old : String} {ds : List Digest} (hfiles : files.Reachable)
    (ha : (g.build files registry k d format).result = .ok a)
    (hold : files.TakenOf registry kernelWrapper format old ds)
    (hfresh : files.Fresh registry kernelWrapper format →
      files.source? registry kernelWrapper = some old)
    (hedit : (g.build files registry k d format).files.register registry kernelWrapper text =
      .ok edited)
    (hb : (g.build edited registry k d format).result = .ok b) :
    ∃ ds', List.Forall₂ (HasDigest (edited.source? registry) format) (included text) ds' ∧
      (Digest.Collide (message format old ds).content (message format text ds').content ∨
        (b.hashKey = a.hashKey ↔ text = old ∧ ds' = ds)) := by
  have hbuilt : (g.build files registry k d format).files.Reachable := reachable_build g k d hfiles
  have hcurrent : edited.Current registry :=
    FileStore.current_register (hbuilt.holds registry) hedit
  obtain ⟨w, hw, hkey, hrebuild⟩ := rebuild_eq_ok hfiles (hbuilt.register hedit) ha
  cases hw.symm.trans hold.given
  obtain ⟨w', hw', rfl⟩ := (hrebuild b).1 hb
  rw [hcurrent.digest_eq_ok_iff] at hw'
  obtain ⟨ds', hds', rfl⟩ := FileStore.hasDigest_register hedit hw'
  refine ⟨ds', hds', ?_⟩
  rw [hkey, keyStem_append_toHex_inj]
  by_cases hcollide :
      Digest.Collide (message format old ds).content (message format text ds').content
  · exact Or.inl hcollide
  · refine Or.inr ⟨fun ⟨_, hsame⟩ => ?_, ?_⟩
    · have hcontent := (Digest.collide_or_eq hsame.symm).resolve_left hcollide
      obtain ⟨rfl, rfl⟩ := FileStore.message_injective hold.length hds'.length_eq.symm hcontent
      exact ⟨rfl, rfl⟩
    · rintro ⟨rfl, rfl⟩
      refine ⟨keyFragments_of_edit hfiles hedit fun hregistry => ?_, rfl⟩
      subst hregistry
      exact hfresh (.current hfiles.current_builtin)

/-! ## Every edit -/

/-- **Edits and the hash key.**  A kernel was built.

    1. Let any kernel be built in the same dialect whose parts differ in exactly one.  Its key is
       another one, unless the contents collide.

    2. The digest of the wrapper was taken of some text, and if the registry is fresh, of the text
       that it sees.  Let a wrapper be registered with this registry and the kernel be rebuilt.  Its
       key is another one exactly if text and includes are not those that the digest was taken of,
       unless the two messages collide.

    3. Under new names for the graph and its kernels the kernel is built with the same key. -/
theorem hashKey_edits (hfiles : files.Reachable)
    (ha : (g.build files registry k d format).result = .ok a) :
    (∃ p, g.parts? files k d = some p ∧
      ∀ (g' : Graph) (files' : FileStore) (registry' : Nat) (k' : Int) (format' : String)
        (b : KernelBuild) (q : KernelParts),
        (g'.build files' registry' k' d format').result = .ok b → g'.parts? files' k' d = some q →
        p.Edit q →
        b.hashKey ≠ a.hashKey ∨ Digest.Collide a.hashed.toByteArray b.hashed.toByteArray) ∧
    (∃ old ds, files.TakenOf registry kernelWrapper format old ds ∧
      (files.Fresh registry kernelWrapper format →
        files.source? registry kernelWrapper = some old) ∧
      ∀ (text : String) (edited : FileStore) (b : KernelBuild),
        (g.build files registry k d format).files.register registry kernelWrapper text =
          .ok edited →
        (g.build edited registry k d format).result = .ok b →
        ∃ ds', List.Forall₂ (HasDigest (edited.source? registry) format) (included text) ds' ∧
          (Digest.Collide (message format old ds).content (message format text ds').content ∨
            (b.hashKey ≠ a.hashKey ↔ ¬ (text = old ∧ ds' = ds)))) ∧
    ∀ g' : Graph, Renamed g g' → ∃ b,
      (g'.build (g.build files registry k d format).files registry k d format).result = .ok b ∧
        b.hashKey = a.hashKey := by
  obtain ⟨p, _, hp, -, -, -⟩ := build_key ha
  obtain ⟨w, hw, -, -⟩ := rebuild_eq_ok hfiles hfiles ha
  obtain ⟨old, ds, htaken, hfresh⟩ := hfiles.exists_takenOf hw
  refine ⟨⟨p, hp, ?_⟩, ⟨old, ds, htaken, hfresh, ?_⟩, ?_⟩
  · intro g' files' registry' k' format' b q hb hq hedit
    exact hashKey_ne_of_edit ha hb hp hq hedit
  · intro text edited b hedit hb
    obtain ⟨ds', hds', hkey⟩ := rebuild_hashKey_eq_iff hfiles ha htaken hfresh hedit hb
    exact ⟨ds', hds', hkey.imp_right not_congr⟩
  · intro g' hrenamed
    -- the registry keeps to the digest that it gave for the first build
    have hanswers : Answers registry format (some w) (files.source? Builtin.registryId) files :=
      ⟨hfiles.holds registry, by rw [hw]; rfl, hfiles.shows⟩
    have hagain := (build_alike (hanswers.build g k d) hanswers g k d).ok ha
    exact ⟨_, build_renamed hrenamed hagain, rfl⟩

end

/-! ### Edits of the library's kernel -/

/-- A wrapper with a comment. -/
def notedWrapper : String := "// v2\n" ++ bareWrapper

theorem included_notedWrapper : included notedWrapper = [] := by decide

/-- The library's kernel without its body. -/
def bodilessSource : KernelSource := { librarySource with body := "" }

/-- The graph of that kernel. -/
def bodilessGraph : Graph := { name := "G", kernels := [some ⟨"A", some bodilessSource⟩] }

/-- Its build. -/
def bodilessBuild : KernelBuild :=
  (bodilessGraph.assemble {} 0 bodilessSource .wgsl
    (message "wgsl" bareWrapper []).sum).toOption.getD
    default

theorem build_bodiless :
    (bodilessGraph.build libraryFiles 0 0 .wgsl "wgsl").result = .ok bodilessBuild :=
  build_eq_ok.2 ⟨bodilessSource, _, by decide, by decide, rfl, current_library.digest_eq_ok_iff.2
    (FileStore.hasDigest_leaf source?_library FileStore.included_bareWrapper), rfl⟩

/-- The contents of the two kernels and the messages of the two wrappers. -/
def libraryStrings : List ByteArray :=
  [libraryBuild.hashed.toByteArray, bodilessBuild.hashed.toByteArray,
    (message "wgsl" bareWrapper []).content, (message "wgsl" notedWrapper []).content]

theorem nodup_libraryStrings : (libraryStrings.map Digest.sha1).Nodup :=
  Digest.nodup_sha1 (by decide +kernel)

theorem not_collide_libraryStrings {m m' : ByteArray} (hm : m ∈ libraryStrings)
    (hm' : m' ∈ libraryStrings) : ¬ Digest.Collide m m' :=
  fun ⟨hne, hsame⟩ => hne (List.inj_on_of_nodup_map nodup_libraryStrings hm hm' hsame)

/-- The store after another wrapper was registered. -/
def withWrapper (files : FileStore) (registry : Nat) (text : String) : FileStore :=
  (files.register registry kernelWrapper text).toOption.getD {}

section
variable {files : FileStore} {registry : Nat} {text : String}

theorem register_wrapper (files : FileStore) (registry : Nat) (text : String) :
    files.register registry kernelWrapper text = .ok (withWrapper files registry text) := by
  rw [withWrapper, FileStore.register, if_pos (by decide)]
  rfl

theorem source?_withWrapper (hregistry : registry < files.registries.size) :
    (withWrapper files registry text).source? registry kernelWrapper = some text :=
  FileStore.source?_register_self (register_wrapper files registry text) hregistry

/-- A registry gives the digest of a wrapper that was registered with it. -/
theorem digest_withWrapper (hfiles : files.Reachable) (hregistry : registry < files.registries.size)
    (hnone : included text = []) :
    ((withWrapper files registry text).digest registry kernelWrapper "wgsl").1 =
      .ok (message "wgsl" text []).sum := by
  have hcurrent : (withWrapper files registry text).Current registry :=
    FileStore.current_register (hfiles.holds registry) (register_wrapper files registry text)
  exact hcurrent.digest_eq_ok_iff.2
    (FileStore.hasDigest_leaf (source?_withWrapper hregistry) hnone)

/-- The library's kernel is built with any registry that gives a digest of the wrapper. -/
theorem exists_build_library {w : Digest}
    (hw : (files.digest registry kernelWrapper "wgsl").1 = .ok w) :
    ∃ b, (libraryGraph.build files registry 0 .wgsl "wgsl").result = .ok b :=
  ⟨_, build_eq_ok.2 ⟨librarySource, w, by decide, by decide, rfl, hw, rfl⟩⟩

end

/-- Without its body, and with another wrapper, the kernel has another key. -/
theorem hashKey_edits_library :
    libraryFiles.Reachable ∧
      (libraryGraph.build libraryFiles 0 0 .wgsl "wgsl").result = .ok libraryBuild ∧
      ((bodilessGraph.build libraryFiles 0 0 .wgsl "wgsl").result = .ok bodilessBuild ∧
        bodilessBuild.hashKey ≠ libraryBuild.hashKey) ∧
      ∃ edited b,
        (libraryGraph.build libraryFiles 0 0 .wgsl "wgsl").files.register 0 kernelWrapper
          notedWrapper = .ok edited ∧
        (libraryGraph.build edited 0 0 .wgsl "wgsl").result = .ok b ∧
        b.hashKey ≠ libraryBuild.hashKey := by
  obtain ⟨⟨p, hp, hparts⟩, ⟨old, ds, htaken, hfresh, hwrapper⟩, _⟩ :=
    hashKey_edits reachable_library build_library
  have hbody : bodilessBuild.hashKey ≠ libraryBuild.hashKey := by
    have hlibrary : libraryGraph.parts? libraryFiles 0 .wgsl = some _ := rfl
    cases hlibrary.symm.trans hp
    have hkey := hparts bodilessGraph libraryFiles 0 0 "wgsl" bodilessBuild _ build_bodiless rfl
      (.body (by decide))
    exact hkey.resolve_right
      (not_collide_libraryStrings (List.mem_cons_self ..) (by simp [libraryStrings]))
  refine ⟨reachable_library, build_library, ⟨build_bodiless, hbody⟩, ?_⟩
  have hold := hfresh (.current current_library)
  rw [source?_library] at hold
  cases hold
  have hfiles : (libraryGraph.build libraryFiles 0 0 .wgsl "wgsl").files.Reachable :=
    reachable_build _ _ _ reachable_library
  have hregistry :
      0 < (libraryGraph.build libraryFiles 0 0 .wgsl "wgsl").files.registries.size := by
    rw [build_files build_library, FileStore.size_digest]
    decide
  obtain ⟨b, hb⟩ :=
    exists_build_library (digest_withWrapper hfiles hregistry included_notedWrapper)
  obtain ⟨ds', hds', hkey⟩ := hwrapper notedWrapper _ b (register_wrapper _ 0 notedWrapper) hb
  -- neither wrapper includes anything
  have hds := htaken.length
  rw [FileStore.included_bareWrapper, List.length_nil, List.length_eq_zero_iff] at hds
  subst hds
  rw [included_notedWrapper] at hds'
  cases hds'
  refine ⟨_, b, register_wrapper _ 0 notedWrapper, hb, ?_⟩
  have hiff := hkey.resolve_left
    (not_collide_libraryStrings (by simp [libraryStrings]) (by simp [libraryStrings]))
  exact hiff.2 fun h => absurd h.1 (by decide)

/-! ### An edit that the key misses -/

/-- A registry that has the wrapper, and one that falls back to it. -/
def inheritedFiles : FileStore :=
  ⟨#[{ sources := [(kernelWrapper, bareWrapper)] }, { parents := [0] }]⟩

/-- The store after the second registry gave the digest of the wrapper, and the first one got
    another wrapper. -/
def staleFiles : FileStore :=
  withWrapper (inheritedFiles.digest 1 kernelWrapper "wgsl").2 0 notedWrapper

/-- The store after a build, and after the second registry got the first wrapper. -/
def restoredFiles : FileStore :=
  withWrapper (libraryGraph.build staleFiles 1 0 .wgsl "wgsl").files 1 bareWrapper

theorem reachable_inherited : inheritedFiles.Reachable :=
  .create [0] (.single (by decide) bareWrapper)

theorem reachable_stale : staleFiles.Reachable :=
  .register (reachable_inherited.digest _ _ _) (register_wrapper _ _ _)

theorem size_stale : staleFiles.registries.size = 2 := by
  rw [staleFiles, FileStore.size_register (register_wrapper _ 0 notedWrapper),
    FileStore.size_digest]
  rfl

/-- The second registry is not edited. -/
theorem registry_stale :
    staleFiles.registry 1 = (inheritedFiles.digest 1 kernelWrapper "wgsl").2.registry 1 :=
  (FileStore.registry_register (register_wrapper _ 0 notedWrapper) 1).2 (by decide)

theorem fields_stale : (staleFiles.registry 1).sources = [] ∧
    (staleFiles.registry 1).parents = [0] := by
  rw [registry_stale]
  exact FileStore.registry_digest kernelWrapper "wgsl" 1

/-- It still remembers the digest of the first wrapper, -/
theorem remembered?_stale : staleFiles.remembered? 1 ⟨kernelWrapper, "wgsl"⟩ =
    some (message "wgsl" bareWrapper []).sum := by
  have htext : inheritedFiles.source? 1 kernelWrapper = some bareWrapper :=
    (FileStore.source?_of_parent rfl rfl Nat.one_pos).trans (FileStore.source?_of_lookup rfl)
  have hcurrent : inheritedFiles.Current 1 := Lru.holds_empty _
  have hgiven : (inheritedFiles.digest 1 kernelWrapper "wgsl").1 =
      .ok (message "wgsl" bareWrapper []).sum :=
    hcurrent.digest_eq_ok_iff.2 (FileStore.hasDigest_leaf htext FileStore.included_bareWrapper)
  rw [FileStore.remembered?, registry_stale]
  exact FileStore.remembered?_digest (by decide) hcurrent hgiven

theorem digest_stale : (staleFiles.digest 1 kernelWrapper "wgsl").1 =
    .ok (message "wgsl" bareWrapper []).sum :=
  (FileStore.digest_of_remembered? (by rw [size_stale]; decide) remembered?_stale).1

/-- and sees the other one, as its parent does. -/
theorem source?_stale_parent : staleFiles.source? 0 kernelWrapper = some notedWrapper :=
  source?_withWrapper (by rw [FileStore.size_digest]; decide)

theorem source?_stale : staleFiles.source? 1 kernelWrapper = some notedWrapper := by
  rw [FileStore.source?_of_parent (by rw [fields_stale.1]; rfl) fields_stale.2 Nat.zero_lt_one]
  exact source?_stale_parent

theorem build_stale :
    (libraryGraph.build staleFiles 1 0 .wgsl "wgsl").result = .ok libraryBuild :=
  build_eq_ok.2 ⟨librarySource, _, by decide, by decide, rfl, digest_stale, rfl⟩

theorem reachable_rebuilt : (libraryGraph.build staleFiles 1 0 .wgsl "wgsl").files.Reachable :=
  reachable_build _ _ _ reachable_stale

theorem lt_size_rebuilt :
    1 < (libraryGraph.build staleFiles 1 0 .wgsl "wgsl").files.registries.size := by
  rw [build_files build_stale, FileStore.size_digest]
  exact size_stale ▸ Nat.one_lt_two

theorem build_restored :
    (libraryGraph.build restoredFiles 1 0 .wgsl "wgsl").result = .ok libraryBuild :=
  build_eq_ok.2 ⟨librarySource, _, by decide, by decide, rfl,
    digest_withWrapper reachable_rebuilt lt_size_rebuilt FileStore.included_bareWrapper, rfl⟩

/-- A string that a build hashes: the content of the kernel, or what is hashed for a file behind the
    wrapper. -/
def HashedIn (files : FileStore) (registry : Nat) (format : String) (b : KernelBuild)
    (m : ByteArray) : Prop :=
  m = b.hashed.toByteArray ∨ ∃ p, Reaches (files.source? registry) kernelWrapper p ∧
    HashedFrom (files.source? registry)
      (Given (files.remembered? registry) (files.source? registry) format) format p m

theorem hashedIn_library {files : FileStore} {text : String} {m : ByteArray}
    (htext : files.source? 1 kernelWrapper = some text) (hnone : included text = [])
    (hmem : (message "wgsl" text []).content ∈ libraryStrings)
    (h : HashedIn files 1 "wgsl" libraryBuild m) : m ∈ libraryStrings := by
  rcases h with rfl | ⟨p, hreach, hm⟩
  · exact List.mem_cons_self ..
  · rw [FileStore.reaches_leaf htext hnone hreach] at hm
    rwa [Session.hashedFrom_leaf htext hnone hm]

/-- Registering another wrapper with the graph's registry does not always change the key, collisions
    aside. -/
theorem not_hashKey_ne_of_wrapper :
    ¬ ∀ (g : Graph) (files edited : FileStore) (registry : Nat) (k : Int) (d : Dialect)
      (format text : String) (a b : KernelBuild), files.Reachable →
      (g.build files registry k d format).result = .ok a →
      (g.build files registry k d format).files.register registry kernelWrapper text = .ok edited →
      files.source? registry kernelWrapper ≠ some text →
      (g.build edited registry k d format).result = .ok b →
      (∃ m m', (HashedIn files registry format a m ∨ HashedIn edited registry format b m) ∧
        (HashedIn files registry format a m' ∨ HashedIn edited registry format b m') ∧
        Digest.Collide m m') ∨ b.hashKey ≠ a.hashKey := by
  intro h
  have hchanged : staleFiles.source? 1 kernelWrapper ≠ some bareWrapper := by
    rw [source?_stale]
    decide
  have hstrings : ∀ m, HashedIn staleFiles 1 "wgsl" libraryBuild m ∨
      HashedIn restoredFiles 1 "wgsl" libraryBuild m → m ∈ libraryStrings := by
    rintro m (hm | hm)
    · exact hashedIn_library source?_stale included_notedWrapper (by simp [libraryStrings]) hm
    · exact hashedIn_library (source?_withWrapper lt_size_rebuilt) FileStore.included_bareWrapper
        (by simp [libraryStrings]) hm
  rcases h libraryGraph staleFiles restoredFiles 1 0 .wgsl "wgsl" bareWrapper _ _ reachable_stale
    build_stale (register_wrapper _ 1 bareWrapper) hchanged build_restored with
    ⟨m, m', hm, hm', hcollide⟩ | hne
  · exact not_collide_libraryStrings (hstrings m hm) (hstrings m' hm') hcollide
  · exact hne rfl

end Graph

end KernelGraph
