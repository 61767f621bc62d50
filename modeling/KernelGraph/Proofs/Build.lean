/-
  What a kernel build consists of.

  A successful build is an assembly with the digest of the kernel wrapper (`Graph.build_eq_ok`).
  The hash key begins with the fragments of the interfaces and ends with that digest, and neither
  stands anywhere else in a build: `Graph.assemble_with` says what the assembly with other digests
  is.

  An interface may append digests of built-in files to the key.  The built-in registry has no
  parents, so what it remembers is current; and then it does not matter which digests were taken
  before (`FileStore.Shows.fragments_eq`, `Graph.build_eq_ok_of_shows`).

  The signature of a program is what the execution engine has to know of it: the entry point, the
  layout and the permutation space.  A build takes its signature over from the graph
  (`Graph.build_signature`), and so does every invocation of a plan (`Graph.plan_signature?`),
  whether or not the kernel's build is at hand.
-/
import KernelGraph.Graph.Plan
import KernelGraph.Proofs.Assembly
import KernelGraph.Proofs.Digest
import KernelGraph.Proofs.FileDigest

namespace KernelGraph

/-- Texts that are hashed one after the other have the digest of their concatenation. -/
theorem Hasher.sum_texts (texts : List String) (source : String) :
    ((texts.foldl Hasher.write {}).write source).sum =
      Digest.sha1 (String.join texts ++ source).toByteArray := by
  rw [sum, content_write, content_foldl_write, String.toByteArray_append]
  show Digest.sha1 (ByteArray.empty ++ _ ++ _) = _
  rw [ByteArray.empty_append]

namespace KernelBuild

/-- The text whose digest goes into the hash key: the additional sources, the generated ones and
    the assembled source, without anything between them. -/
def hashed (b : KernelBuild) : String :=
  String.join (b.additional.map Source.text ++ b.generated.map Prod.snd) ++ b.source

/-- The hash key up to the digest of the wrapper; `fragments` is what the interfaces add. -/
def keyStem (b : KernelBuild) (fragments : String) : String :=
  fragments ++ b.definitions.listing ++ b.permutations.listing ++
    (Digest.sha1 b.hashed.toByteArray).toHex

end KernelBuild

/-! ## Fragments -/

/-- What an interface appends to a hash key if built-in files have these digests. -/
def Interface.fragmentOf (i : Interface) (digest? : DigestKey → Option Digest) : String :=
  String.join (i.hashedFiles.map fun key => ((digest? key).map Digest.toHex).getD "") ++
    i.hashFragment

/-- What interfaces append to a hash key, one after the other. -/
def keyFragments : List (Int × DataInterface) → FileStore → String
  | [], _ => ""
  | (_, x) :: is, files =>
    (x.interface.fragment files).1 ++ keyFragments is (x.interface.fragment files).2

namespace FileStore

section
variable {files : FileStore} {shown : String → Option String}

theorem Shows.foldl_hashFile (h : files.Shows shown) (keys : List DigestKey) (out : String) :
    (keys.foldl Interface.hashFile (out, files)).1 = out ++
      String.join (keys.map fun key => ((files.builtinDigest? key).map Digest.toHex).getD "") := by
  induction keys generalizing out files with
  | nil => simp
  | cons key keys ih =>
    have hnext := h.digest Builtin.registryId key.path key.format
    show (keys.foldl Interface.hashFile
      (out ++ ((files.builtinDigest? key).map Digest.toHex).getD "",
      (files.digest Builtin.registryId key.path key.format).2)).1 = _
    rw [ih hnext, h.builtinDigest?_eq hnext, List.map_cons, String.join_cons, String.append_assoc]

/-- An interface appends the digests that its files have. -/
theorem Shows.fragment_eq (h : files.Shows shown) (i : Interface) :
    (i.fragment files).1 = i.fragmentOf files.builtinDigest? := by
  have hfold := h.foldl_hashFile i.hashedFiles ""
  rw [String.empty_append] at hfold
  rw [Interface.fragmentOf, ← hfold]
  rfl

theorem Shows.fragment (h : files.Shows shown) (i : Interface) :
    (i.fragment files).2.Shows shown :=
  i.fragment_kept (P := fun fs => fs.Shows shown) (fun _ _ _ h => h.digest _ _ _) h

/-- **Fragments do not depend on what was digested before**: each interface appends what it would
    append alone. -/
theorem Shows.fragments_eq (h : files.Shows shown) (is : List (Int × DataInterface)) :
    keyFragments is files =
      String.join (is.map fun x => x.2.interface.fragmentOf files.builtinDigest?) := by
  induction is generalizing files with
  | nil => rfl
  | cons x is ih =>
    have hnext := h.fragment x.2.interface
    rw [keyFragments, ih hnext, h.builtinDigest?_eq hnext, h.fragment_eq, List.map_cons,
      String.join_cons]

theorem Shows.digested (h : files.Shows shown) (is : List (Int × DataInterface)) :
    (digested is files).Shows shown :=
  digested_kept is (P := fun fs => fs.Shows shown) (fun _ _ _ h => h.digest _ _ _) h

/-- While interfaces append their fragments, registries see the same sources. -/
theorem resolver_digested (is : List (Int × DataInterface)) (files : FileStore) :
    (KernelGraph.digested is files).resolver = files.resolver :=
  digested_kept is (P := fun fs => fs.resolver = files.resolver)
    (fun _ _ _ h => (resolver_digest _ _).trans h) rfl

/-- Where the digests of the built-in registry are current, taking one does not change what another
    registry gives, -/
theorem Shows.toOption_digest_digest (h : files.Shows shown) (builtin builtinFormat : String)
    (id : Nat) (path format : String) :
    ((files.digest Builtin.registryId builtin builtinFormat).2.digest id path format).1.toOption =
      (files.digest id path format).1.toOption := by
  by_cases hid : id = Builtin.registryId
  · subst hid
    exact congrFun (h.builtinDigest?_eq (h.digest Builtin.registryId builtin builtinFormat))
      ⟨path, format⟩
  · have hregistry : (files.digest Builtin.registryId builtin builtinFormat).2.registry id =
        files.registry id := by
      show (files.modify Builtin.registryId _).registry id = _
      rw [registry_modify, if_neg fun h => hid h.1]
    have hresolver : (files.digest Builtin.registryId builtin builtinFormat).2.resolver id =
        files.resolver id := congrFun (resolver_digest builtin builtinFormat) id
    have hsource := congrArg Include.Resolver.source? hresolver
    have hknown := congrArg Include.Resolver.known hresolver
    dsimp only [resolver] at hsource hknown
    generalize (files.digest Builtin.registryId builtin builtinFormat).2 = files' at *
    unfold FileStore.digest
    dsimp only
    rw [hsource, hknown, hregistry]

/-- nor do the fragments of interfaces. -/
theorem Shows.toOption_digest_digested (h : files.Shows shown) (is : List (Int × DataInterface))
    (id : Nat) (path format : String) :
    ((KernelGraph.digested is files).digest id path format).1.toOption =
      (files.digest id path format).1.toOption :=
  (digested_kept is (P := fun fs => fs.Shows shown ∧ (fs.digest id path format).1.toOption =
      (files.digest id path format).1.toOption)
    (fun _ _ _ h => ⟨h.1.digest _ _ _, (h.1.toOption_digest_digest _ _ _ _ _).trans h.2⟩)
    ⟨h, rfl⟩).2

/-- What interfaces contribute depends on the sources of the built-in registry only. -/
theorem Shows.contributions_eq {files' : FileStore} (h : files.Shows shown)
    (h' : files'.Shows shown) (layout : Layout) (is : List (Int × DataInterface)) :
    Graph.contributions layout is files' = Graph.contributions layout is files := by
  induction is generalizing files files' with
  | nil => rfl
  | cons x is ih =>
    obtain ⟨slot, x⟩ := x
    simp only [Graph.contributions]
    rw [ih (h.fragment x.interface) (h'.fragment x.interface), h.fragment_eq, h'.fragment_eq,
      h.builtinDigest?_eq h']

end

end FileStore

namespace Graph

section
variable {g : Graph} {s : KernelSource} {d : Dialect} {b : KernelBuild} {files : FileStore}
  {layout : Layout} {is : List (Int × DataInterface)} {cs : List Contribution}

theorem fragments_of_contributions (h : contributions layout is files = .ok cs) :
    String.join (cs.map Contribution.hashFragment) = keyFragments is files := by
  induction is generalizing files cs with
  | nil =>
    cases h
    rfl
  | cons x is ih =>
    obtain ⟨slot, x⟩ := x
    simp only [contributions] at h
    split at h
    · cases h
    · cases hrest : contributions layout is (x.interface.fragment files).2 with
      | error e =>
        rw [hrest] at h
        cases h
      | ok rest =>
        rw [hrest] at h
        cases h
        rw [List.map_cons, String.join_cons, ih hrest]
        rfl

/-- With another store only the fragments are other ones. -/
theorem contributions_with (h : contributions layout is files = .ok cs) (files' : FileStore) :
    ∃ cs', contributions layout is files' = .ok cs' ∧
      cs'.map (fun c => (c.path, c.code)) = cs.map fun c => (c.path, c.code) := by
  induction is generalizing files files' cs with
  | nil =>
    cases h
    exact ⟨[], rfl, rfl⟩
  | cons x is ih =>
    obtain ⟨slot, x⟩ := x
    simp only [contributions] at h ⊢
    split at h
    · cases h
    · cases hrest : contributions layout is (x.interface.fragment files).2 with
      | error e =>
        rw [hrest] at h
        cases h
      | ok rest =>
        rw [hrest] at h
        cases h
        obtain ⟨cs', hcs', hsame⟩ := ih hrest (x.interface.fragment files').2
        rw [hcs']
        exact ⟨_, rfl, by rw [List.map_cons, List.map_cons, hsame]⟩

/-- **The fragments begin the hash key and the digest of the wrapper ends it**; they stand nowhere
    else in a build. -/
theorem assemble_with {k : Nat} {w : Digest} (h : g.assemble files k s d w = .ok b) :
    b.hashKey = b.keyStem (keyFragments (g.boundInterfaces k) files) ++ w.toHex ∧
      ∀ files' w', g.assemble files' k s d w' = .ok { b with
        hashKey := b.keyStem (keyFragments (g.boundInterfaces k) files') ++ w'.toHex } := by
  simp only [assemble] at h
  cases hcs : contributions (g.layout k) (g.boundInterfaces k) files with
  | error e =>
    rw [hcs] at h
    cases h
  | ok cs =>
    rw [hcs] at h
    cases h
    refine ⟨?_, fun files' w' => ?_⟩
    · rw [← fragments_of_contributions hcs]
      simp only [KernelBuild.keyStem, Hasher.sum_texts]
      rfl
    · obtain ⟨cs', hcs', hsame⟩ := contributions_with hcs files'
      -- what is put together reads the paths and the codes only
      have htexts : (cs'.map fun c => c.text d) = cs.map fun c => c.text d := by
        have hmap := congrArg (List.map fun x : Option String × String =>
          (⟨x.1, x.2, ""⟩ : Contribution).text d) hsame
        rw [List.map_map, List.map_map] at hmap
        exact hmap
      have hgenerated : cs'.filterMap Contribution.generated? =
          cs.filterMap Contribution.generated? := by
        have hmap := congrArg (List.filterMap fun x : Option String × String =>
          (⟨x.1, x.2, ""⟩ : Contribution).generated?) hsame
        rw [List.filterMap_map, List.filterMap_map] at hmap
        exact hmap
      simp only [assemble, hcs', htexts, hgenerated, KernelBuild.keyStem, Hasher.sum_texts,
        fragments_of_contributions hcs']
      rfl

/-- What a build takes over from the graph. -/
theorem assemble_fields {k : Nat} {w : Digest} (h : g.assemble files k s d w = .ok b) :
    b.entryPoint = s.entryPoint ∧ b.permutations = allPermutations s (g.boundInterfaces k) ∧
      b.layout = g.layout k ∧ b.dialect = d := by
  simp only [assemble] at h
  cases hcs : contributions (g.layout k) (g.boundInterfaces k) files with
  | error e =>
    rw [hcs] at h
    cases h
  | ok cs =>
    rw [hcs] at h
    cases h
    exact ⟨rfl, rfl, rfl, rfl⟩

variable {registry : Nat} {k : Int} {format : String}

/-- What is assembled fails only if the contributions do. -/
theorem assemble_of_contributions {cs : List Contribution} (h0 : 0 ≤ k)
    (hcs : contributions (g.layout k) (g.boundInterfaces k) files = .ok cs) (s : KernelSource)
    (d : Dialect) (w : Digest) : ∃ b, g.assemble files k.toNat s d w = .ok b := by
  rw [assemble, Int.toNat_of_nonneg h0, hcs]
  exact ⟨_, rfl⟩

/-- **A build succeeds** exactly if the kernel has a source, the assembly succeeds and the wrapper
    has a digest when the interfaces have appended their fragments. -/
theorem build_eq_ok : (g.build files registry k d format).result = .ok b ↔
    ∃ s w, 0 ≤ k ∧ k < g.kernels.length ∧ g.source? k = some s ∧
      ((digested (g.boundInterfaces k) files).digest registry VirtualPath.kernelWrapper
        format).1 = .ok w ∧
      g.assemble files k.toNat s d w = .ok b := by
  rw [build]
  split
  · -- the index is out of range
    rename_i hrange
    constructor
    · intro h
      cases h
    · rintro ⟨_, _, h0, hlt, _⟩
      rw [Bool.or_eq_true, decide_eq_true_eq, decide_eq_true_eq] at hrange
      omega
  · rename_i hrange
    rw [Bool.or_eq_true, decide_eq_true_eq, decide_eq_true_eq] at hrange
    obtain ⟨h0, hlt⟩ : 0 ≤ k ∧ k < g.kernels.length := by omega
    rw [source?]
    split
    · rename_i hk
      simp [hk]
    · rename_i name hk
      simp [hk]
    · rename_i name s hk
      simp only [hk, Option.bind_some, Option.some.injEq, h0, hlt, true_and, assemble_eq,
        Int.toNat_of_nonneg h0]
      cases hcs : contributions (g.layout k) (g.boundInterfaces k) files with
      | error e =>
        have hfails := Assembly.addAll_of_error (d := d) (a := .start s d files)
          (by rw [Assembly.files_start]; exact hcs)
        generalize Assembly.addAll (g.layout k) d (g.boundInterfaces k) (.start s d files) = out
          at hfails ⊢
        obtain ⟨_, a⟩ := out
        cases hfails
        simp [Except.map]
      | ok cs =>
        rw [Assembly.addAll_of_ok (d := d) (a := .start s d files)
          (by rw [Assembly.files_start]; exact hcs)]
        simp only [Assembly.extend, Assembly.files_start, Except.map, Except.ok.injEq]
        cases (digested (g.boundInterfaces k) files).digest registry VirtualPath.kernelWrapper
          format with
        | mk digest hashed =>
          cases digest with
          | error e => simp
          | ok w => simp

/-- Where the built-in digests are current, the digest of the wrapper may as well be taken before
    the interfaces append their fragments. -/
theorem build_eq_ok_of_shows {shown : String → Option String} (hshows : files.Shows shown) :
    (g.build files registry k d format).result = .ok b ↔
    ∃ s w, 0 ≤ k ∧ k < g.kernels.length ∧ g.source? k = some s ∧
      (files.digest registry VirtualPath.kernelWrapper format).1 = .ok w ∧
      g.assemble files k.toNat s d w = .ok b := by
  rw [build_eq_ok]
  simp only [← toOption_eq_some_iff, hshows.toOption_digest_digested]

/-- Whether it fails or not, a build takes digests of built-in files and of the wrapper only, and
    keeps what these keep. -/
theorem files_build_kept {P : FileStore → Prop} (g : Graph) (k : Int) (d : Dialect)
    (hbuiltin : ∀ fs path format, P fs → P (fs.digest Builtin.registryId path format).2)
    (hwrapper : ∀ fs, P fs → P (fs.digest registry VirtualPath.kernelWrapper format).2)
    (h : P files) : P (g.build files registry k d format).files := by
  rw [build]
  split
  · exact h
  · split
    · exact h
    · exact h
    · rename_i s _
      have hkept := Assembly.files_addAll_kept hbuiltin (g.layout k) d (g.boundInterfaces k)
        (a := .start s d files) (by rw [Assembly.files_start]; exact h)
      split
      · rename_i hadded
        rw [hadded] at hkept
        exact hkept
      · rename_i hadded
        rw [hadded] at hkept
        have hdigest := hwrapper _ hkept
        dsimp only
        split
        · rename_i hout
          rw [hout] at hdigest
          exact hdigest
        · rename_i hout
          rw [hout] at hdigest
          exact hdigest

/-- Whether it fails or not, registries see the same sources afterwards. -/
theorem resolver_build (g : Graph) (files : FileStore) (registry : Nat) (k : Int) (d : Dialect)
    (format : String) : (g.build files registry k d format).files.resolver = files.resolver :=
  files_build_kept g k d (P := fun fs => fs.resolver = files.resolver)
    (fun _ _ _ h => (FileStore.resolver_digest _ _).trans h)
    (fun _ h => (FileStore.resolver_digest _ _).trans h) rfl

/-- A build leads from one store that a program can have to another. -/
theorem reachable_build (g : Graph) (k : Int) (d : Dialect) (h : files.Reachable) :
    (g.build files registry k d format).files.Reachable :=
  files_build_kept g k d (P := FileStore.Reachable) (fun _ _ _ h => h.digest _ _ _)
    (fun _ h => h.digest _ _ _) h

/-- A kernel in range that has a source is built. -/
theorem build_of_source (h0 : 0 ≤ k) (hk : k < g.kernels.length) (hs : g.source? k = some s) :
    g.build files registry k d format =
      match Assembly.addAll (g.layout k) d (g.boundInterfaces k) (.start s d files) with
      | (.error e, a) =>
        { result := .error (.undeclared e), notes := g.layoutNotes k, files := a.files }
      | (.ok (), a) =>
        let notes := g.layoutNotes k ++ g.edgeNotes k
        let mismatches := g.mismatches k
        match a.files.digest registry VirtualPath.kernelWrapper format with
        | (.error e, files) =>
          { result := .error (.wrapper (g.friendlyName k) e), notes, mismatches, files }
        | (.ok wrapper, files) =>
          let b := g.finish k.toNat s d a wrapper
          { result := .ok b, notes := notes ++ [g.buildNote b], mismatches, files } := by
  obtain ⟨⟨name, source⟩, hkernel, hsource⟩ := Option.bind_eq_some_iff.1 hs
  dsimp only at hsource
  subst hsource
  have hrange : ¬ (decide (k < 0) || decide (g.kernels.length ≤ k)) = true := by
    rw [Bool.or_eq_true, decide_eq_true_eq, decide_eq_true_eq]
    omega
  rw [build, if_neg hrange]
  generalize g.kernel? k = x at hkernel ⊢
  subst hkernel
  rfl

/-- **A build fails** if an interface asks for a parameter that it has not declared, -/
theorem build_of_undeclared {e : UndeclaredParameter} (h0 : 0 ≤ k) (hk : k < g.kernels.length)
    (hs : g.source? k = some s)
    (hcs : contributions (g.layout k) (g.boundInterfaces k) files = .error e) :
    (g.build files registry k d format).result = .error (.undeclared e) := by
  have hfails := Assembly.addAll_of_error (d := d) (a := .start s d files)
    (by rw [Assembly.files_start]; exact hcs)
  rw [build_of_source h0 hk hs]
  generalize Assembly.addAll (g.layout k) d (g.boundInterfaces k) (.start s d files) = out
    at hfails ⊢
  obtain ⟨_, a⟩ := out
  cases hfails
  rfl

/-- or if the wrapper has no digest, -/
theorem build_of_digest_error {e : Include.Error} (h0 : 0 ≤ k) (hk : k < g.kernels.length)
    (hs : g.source? k = some s)
    (hcs : contributions (g.layout k) (g.boundInterfaces k) files = .ok cs)
    (hdigest : ((digested (g.boundInterfaces k) files).digest registry VirtualPath.kernelWrapper
      format).1 = .error e) :
    (g.build files registry k d format).result = .error (.wrapper (g.friendlyName k) e) := by
  rw [build_of_source h0 hk hs, Assembly.addAll_of_ok (by rw [Assembly.files_start]; exact hcs)]
  simp only [Assembly.extend, Assembly.files_start]
  generalize (digested (g.boundInterfaces k) files).digest registry VirtualPath.kernelWrapper
    format = out at hdigest ⊢
  obtain ⟨_, hashed⟩ := out
  cases hdigest
  rfl

/-- and leaves the store with the digests that were taken for it if it succeeds. -/
theorem build_files (h : (g.build files registry k d format).result = .ok b) :
    (g.build files registry k d format).files = ((digested (g.boundInterfaces k) files).digest
      registry VirtualPath.kernelWrapper format).2 := by
  obtain ⟨s, w, h0, hk, hs, hw, hassemble⟩ := build_eq_ok.1 h
  rw [assemble_eq, Int.toNat_of_nonneg h0] at hassemble
  cases hcs : contributions (g.layout k) (g.boundInterfaces k) files with
  | error e =>
    rw [hcs] at hassemble
    cases hassemble
  | ok cs =>
    rw [build_of_source h0 hk hs, Assembly.addAll_of_ok (by rw [Assembly.files_start]; exact hcs)]
    simp only [Assembly.extend, Assembly.files_start]
    generalize (digested (g.boundInterfaces k) files).digest registry VirtualPath.kernelWrapper
      format = out at hw ⊢
    obtain ⟨_, hashed⟩ := out
    cases hw
    rfl

end

end Graph

/-! ## Signatures -/

/-- At an index that is not negative stands the element of the list. -/
theorem elementAt?_natCast {α : Type} (xs : List α) (i : Nat) : elementAt? xs i = xs[i]? := by
  rw [elementAt?, if_neg (by omega), Int.toNat_natCast]

/-- What has to be known of a program to run it. -/
structure Signature where
  entryPoint : String
  layout : Layout
  permutations : PermutationVector

/-- The signature that a build was made with. -/
def KernelBuild.signature (b : KernelBuild) : Signature := ⟨b.entryPoint, b.layout, b.permutations⟩

/-- The signature that an invocation shows. -/
def Invocation.signature? (v : Invocation) : Option Signature :=
  v.permutations.map fun space => ⟨v.entryPoint, v.layout, space⟩

/-- An invocation shows the signature of a build exactly if it has the build's entry point, layout
    and permutations. -/
theorem Invocation.signature?_eq_some {v : Invocation} {b : KernelBuild} :
    v.signature? = some b.signature ↔
      v.entryPoint = b.entryPoint ∧ v.layout = b.layout ∧ v.permutations = some b.permutations := by
  rw [signature?, Option.map_eq_some_iff]
  constructor
  · rintro ⟨space, hspace, heq⟩
    injection heq with hentry hlayout hpermutations
    exact ⟨hentry, hlayout, by rw [hspace, hpermutations]⟩
  · rintro ⟨hentry, hlayout, hspace⟩
    exact ⟨b.permutations, hspace, by rw [KernelBuild.signature, hentry, hlayout]⟩

namespace Graph

/-- The signature of a kernel; none without a source. -/
def signature? (g : Graph) (k : Nat) : Option Signature :=
  (g.source? k).map fun s => ⟨s.entryPoint, g.layout k, allPermutations s (g.boundInterfaces k)⟩

variable {g : Graph}

/-- **A build has the signature of its kernel.** -/
theorem build_signature {files : FileStore} {registry k : Nat} {d : Dialect} {format : String}
    {b : KernelBuild} (h : (g.build files registry k d format).result = .ok b) :
    g.signature? k = some b.signature := by
  obtain ⟨s, w, _, _, hs, _, hassemble⟩ := build_eq_ok.1 h
  obtain ⟨hentry, hpermutations, hlayout, _⟩ := assemble_fields hassemble
  rw [Int.toNat_natCast] at hpermutations hlayout
  rw [signature?, hs, Option.map_some, KernelBuild.signature, hentry, hpermutations, hlayout]

/-- The kernels to be compiled are those with a source. -/
theorem mem_compilable {k : Nat} {kernel : Kernel} {s : KernelSource} :
    (k, kernel, s) ∈ g.compilable ↔ g.kernel? k = some kernel ∧ kernel.source = some s := by
  rw [compilable, List.mem_filterMap, kernel?, elementAt?_natCast, Option.join_eq_some_iff]
  constructor
  · rintro ⟨⟨x, i⟩, hmem, hx⟩
    obtain ⟨y, rfl, hy⟩ := Option.bind_eq_some_iff.1 hx
    obtain ⟨source, hsource, heq⟩ := Option.map_eq_some_iff.1 hy
    cases heq
    exact ⟨List.mem_zipIdx_iff_getElem?.1 hmem, hsource⟩
  · rintro ⟨hkernel, hsource⟩
    refine ⟨(some kernel, k), List.mem_zipIdx_iff_getElem?.2 hkernel, ?_⟩
    show kernel.source.map _ = _
    rw [hsource, Option.map_some]

/-- A kernel that is to be compiled has its source in the graph. -/
theorem source?_of_mem_compilable {k : Nat} {kernel : Kernel} {s : KernelSource}
    (h : (k, kernel, s) ∈ g.compilable) : g.source? k = some s :=
  Option.bind_eq_some_iff.2 ⟨kernel, mem_compilable.1 h⟩

/-- **Every invocation of a plan shows the signature of its kernel**, provided that the builds given
    have the signatures of theirs. -/
theorem plan_signature? {generation : Nat} {level : FeatureLevel}
    {builds : List (Nat × KernelBuild)}
    (hbuilds : ∀ k b, (k, b) ∈ builds → g.signature? k = some b.signature) {v : Invocation}
    (hv : v ∈ (g.plan generation level builds).invocations) :
    ∃ σ, g.signature? v.kernel = some σ ∧ v.signature? = some σ := by
  obtain ⟨⟨k, kernel, s⟩, hmem, rfl⟩ := List.mem_map.1 hv
  have hs := source?_of_mem_compilable hmem
  have hsignature : g.signature? k =
      some ⟨s.entryPoint, g.layout k, allPermutations s (g.boundInterfaces k)⟩ := by
    rw [signature?, hs, Option.map_some]
  refine ⟨_, hsignature, ?_⟩
  cases hlookup : builds.lookup k with
  | none => simp [Invocation.signature?, invocation, permutationVector?, hs, hlookup]
  | some b =>
    obtain ⟨before, after, hsplit, _⟩ := List.lookup_eq_some_iff.1 hlookup
    have hb := hbuilds k b (by rw [hsplit]; simp)
    rw [hsignature] at hb
    injection hb with hb
    injection hb with hentry hlayout hpermutations
    simp [Invocation.signature?, invocation, hlayout, hpermutations, hlookup]

end Graph

end KernelGraph
