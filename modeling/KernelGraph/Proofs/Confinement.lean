/-
  A kernel's build depends on what is bound to it.

  Graphs hold their kernels, edges and interfaces in shared lists, and a build folds over those.
  Still it sees of them only the kernel's source, the kernel's edges and the interfaces that these
  name:

  1. `SameConnections` says that two graphs have in common what a build reads.  Then the layouts are
     the same (`SameConnections.layout`), and so is what is assembled (`SameConnections.assemble`).
     Graphs that agree on the kernel's edges and their slots are like that
     (`SameAt.sameConnections`).

  2. Apart from the graph a build depends on the digest of the kernel wrapper, and on the sources of
     the built-in registry.  Registries with the same contents give the same digest
     (`SameContents.toOption_digest`), so the kernel is built alike with both (`SameAt.alike`): the
     builds are equal, or it fails with both.  In general kernels are built alike exactly if the
     registries give the same digest (`SameAt.alike_iff`), and builds differ in their keys at most
     (`SameAt.build_eq_iff`).
-/
import KernelGraph.Proofs.DigestTwice
import KernelGraph.Proofs.Layout

namespace KernelGraph

/-! ## Registries -/

namespace FileStore

section
variable {source? : String → Option String} {format : String} {known : List String}

/-- A digest does not depend on how deep the recursion may go, as long as chains of registered paths
    are no longer. -/
theorem digestFile_add (hknown : ∀ path text, source? path = some text → path ∈ known) (m : Nat)
    {depth : Nat} {chain : List String} (hnodup : chain.Nodup) (hchain : ∀ p ∈ chain, p ∈ known)
    (hdepth : known.length + 2 ≤ depth + chain.length) :
    digestFile source? format (depth + m) chain = digestFile source? format depth chain := by
  induction depth generalizing chain with
  | zero =>
    have hle := (hnodup.subperm hchain).length_le
    omega
  | succ depth ih =>
    -- files that are not on the chain yet make it longer
    have hcompute : ∀ path ∉ chain, compute source? format (depth + m) chain path =
        compute source? format depth chain path := by
      intro path hpath
      funext c
      rw [compute, compute]
      cases htext : source? path with
      | none => rfl
      | some text =>
        have hlonger : (chain ++ [path]).Nodup := List.nodup_append.2 ⟨hnodup,
          List.nodup_singleton _, fun a ha b hb => by
            cases List.mem_singleton.1 hb
            exact fun heq => hpath (heq ▸ ha)⟩
        rw [ih hlonger]
        · intro p hp
          rcases List.mem_append.1 hp with hp | hp
          · exact hchain p hp
          · cases List.mem_singleton.1 hp
            exact hknown path text htext
        · rw [List.length_append, List.length_singleton]
          omega
    funext path c
    rw [Nat.add_right_comm, digestFile_succ, digestFile_succ]
    split
    · rfl
    · rename_i hpath
      rw [hcompute path hpath]

end

/-- Two registries have the same contents: they show the same sources, and they remember the same
    digests, or no digest that is not that of a file any more. -/
structure SameContents (files : FileStore) (id : Nat) (files' : FileStore) (id' : Nat) : Prop where
  source : files'.source? id' = files.source? id
  digests : (files'.registry id').digests = (files.registry id).digests ∨
    files.Current id ∧ files'.Current id'

theorem SameContents.refl (files : FileStore) (id : Nat) : SameContents files id files id :=
  ⟨rfl, Or.inl rfl⟩

/-- Registries that remember the same digests give the same answer. -/
theorem digest_fst_congr {files files' : FileStore} {id id' : Nat}
    (hsource : files'.source? id' = files.source? id)
    (hdigests : (files'.registry id').digests = (files.registry id).digests)
    (path format : String) :
    (files'.digest id' path format).1 = (files.digest id path format).1 := by
  have hknown : ∀ path text, files.source? id path = some text → path ∈ files'.known := by
    rw [← hsource]
    exact files'.mem_known id'
  have hdeep : digestFile (files.source? id) format
      (files'.known.length + 2 + files.known.length) [] = _ :=
    digestFile_add hknown _ List.nodup_nil (fun _ h => by cases h) (Nat.le_refl _)
  have hdeep' : digestFile (files.source? id) format
      (files.known.length + 2 + files'.known.length) [] = _ :=
    digestFile_add (files.mem_known id) _ List.nodup_nil (fun _ h => by cases h) (Nat.le_refl _)
  have hdepth : files'.known.length + 2 + files.known.length =
      files.known.length + 2 + files'.known.length := by omega
  rw [digest_fst, digest_fst, hsource, hdigests, ← hdeep, ← hdeep', hdepth]

/-- Registries with the same contents give the same digests, or none. -/
theorem SameContents.toOption_digest {files files' : FileStore} {id id' : Nat}
    (h : SameContents files id files' id') (path format : String) :
    (files'.digest id' path format).1.toOption = (files.digest id path format).1.toOption := by
  rcases h.digests with hdigests | ⟨hcurrent, hcurrent'⟩
  · rw [digest_fst_congr h.source hdigests]
  · have hok : ∀ d, (files'.digest id' path format).1 = .ok d ↔
        (files.digest id path format).1 = .ok d := fun d => by
      rw [hcurrent'.digest_eq_ok_iff, hcurrent.digest_eq_ok_iff, h.source]
    refine Option.ext fun d => ?_
    rw [toOption_eq_some_iff, toOption_eq_some_iff]
    exact hok d

end FileStore

namespace Graph

open VirtualPath (kernelWrapper)

/-! ## Kernels that have a source -/

section
variable {g : Graph} {k : Int} {s : KernelSource} {files : FileStore} {registry : Nat} {d : Dialect}
  {format : String}

theorem range_of_source? (h : g.source? k = some s) : 0 ≤ k ∧ k < g.kernels.length := by
  obtain ⟨kernel, hkernel, _⟩ := Option.bind_eq_some_iff.1 h
  have helement := Option.join_eq_some_iff.1 hkernel
  unfold elementAt? at helement
  split at helement
  · cases helement
  · obtain ⟨hlt, _⟩ := List.getElem?_eq_some_iff.1 helement
    omega

/-- The build of a kernel with a source is assembled, and then the kernel wrapper has to have a
    digest. -/
theorem result_of_source? (h : g.source? k = some s) :
    (g.build files registry k d format).result =
      match contributions (g.layout k) (g.boundInterfaces k) files with
      | .error e => .error (.undeclared e)
      | .ok _ =>
        match ((digested (g.boundInterfaces k) files).digest registry kernelWrapper format).1 with
        | .error e => .error (.wrapper (g.friendlyName k) e)
        | .ok w => (g.assemble files k.toNat s d w).mapError .undeclared := by
  obtain ⟨h0, hlt⟩ := range_of_source? h
  cases hcs : contributions (g.layout k) (g.boundInterfaces k) files with
  | error e => exact build_of_undeclared h0 hlt h hcs
  | ok cs =>
    dsimp only
    cases hdigest : ((digested (g.boundInterfaces k) files).digest registry kernelWrapper
      format).1 with
    | error e => exact build_of_digest_error h0 hlt h hcs hdigest
    | ok w =>
      obtain ⟨b, hb⟩ := assemble_of_contributions h0 hcs s d w
      rw [build_eq_ok.2 ⟨s, w, h0, hlt, h, hdigest, hb⟩]
      dsimp only
      rw [hb]
      rfl

/-- An undeclared parameter is one that a contribution asks for. -/
theorem contributions_of_undeclared {u : UndeclaredParameter} (hs : g.source? k = some s)
    (hu : (g.build files registry k d format).result = .error (.undeclared u)) :
    contributions (g.layout k) (g.boundInterfaces k) files = .error u := by
  rw [result_of_source? hs] at hu
  split at hu
  · rename_i hcs
    cases hu
    exact hcs
  · rename_i cs hcs
    split at hu
    · cases hu
    · rename_i w _
      obtain ⟨b, hb⟩ := assemble_of_contributions (range_of_source? hs).1 hcs s d w
      rw [hb] at hu
      cases hu

/-- A kernel that has a source and all its parameters is not built only because the kernel wrapper
    has no digest. -/
theorem toOption_digest_of_error {shown : String → Option String} {e : GraphError}
    (hs : g.source? k = some s) (hfiles : files.Shows shown)
    (he : (g.build files registry k d format).result = .error e) (hne : ∀ u, e ≠ .undeclared u) :
    (files.digest registry kernelWrapper format).1.toOption = none := by
  rw [← hfiles.toOption_digest_digested (g.boundInterfaces k)]
  rw [result_of_source? hs] at he
  split at he
  · rename_i u _
    cases he
    exact absurd rfl (hne u)
  · rename_i cs hcs
    split at he
    · rename_i hdigest
      rw [hdigest]
      rfl
    · rename_i w _
      obtain ⟨b, hb⟩ := assemble_of_contributions (range_of_source? hs).1 hcs s d w
      rw [hb] at he
      cases he

end

/-! ## What is built of a kernel -/

/-- Two graphs of one name have the same source at a kernel, the same interfaces bound to it and the
    same shims between them.  This is all that a build reads. -/
structure SameConnections (g g' : Graph) (k : Int) : Prop where
  name : g'.name = g.name
  source : g'.source? k = g.source? k
  boundInterfaces : g'.boundInterfaces k = g.boundInterfaces k
  shims : ∀ s, g.source? k = some s → g'.shims k s = g.shims k s

namespace SameConnections

variable {g g' : Graph} {k : Int} {s : KernelSource} {files files' : FileStore}
  {shown : String → Option String}

theorem friendlyName (h : SameConnections g g' k) : g'.friendlyName k = g.friendlyName k := by
  rw [Graph.friendlyName, Graph.friendlyName, h.source, h.name]

/-- **The layout** of the kernel is the same. -/
theorem layout (h : SameConnections g g' k) : g'.layout k = g.layout k := by
  rw [Graph.layout, Graph.layout, h.boundInterfaces, h.friendlyName]

/-- What its interfaces **contribute** is the same. -/
theorem contributions (h : SameConnections g g' k) (hfiles : files.Shows shown)
    (hfiles' : files'.Shows shown) :
    Graph.contributions (g'.layout k) (g'.boundInterfaces k) files' =
      Graph.contributions (g.layout k) (g.boundInterfaces k) files := by
  rw [h.layout, h.boundInterfaces]
  exact hfiles.contributions_eq hfiles' _ _

/-- **What is assembled** for the kernel is the same. -/
theorem assemble (h : SameConnections g g' k) (hs : g.source? k = some s)
    (hfiles : files.Shows shown) (hfiles' : files'.Shows shown) (d : Dialect) (w : Digest) :
    g'.assemble files' k.toNat s d w = g.assemble files k.toNat s d w := by
  have hcs := h.contributions hfiles hfiles'
  obtain ⟨n, rfl⟩ := Int.eq_ofNat_of_zero_le (range_of_source? hs).1
  show g'.assemble files' n s d w = g.assemble files n s d w
  rw [Graph.assemble, Graph.assemble, hcs, h.boundInterfaces, h.layout,
    h.shims s hs, h.friendlyName]

/-- **The kernel is built alike**, errors included, with one store. -/
theorem result_build {id : Nat} {d : Dialect} {format : String} (h : SameConnections g g' k)
    (hsource : (g.source? k).isSome) :
    (g'.build files id k d format).result = (g.build files id k d format).result := by
  obtain ⟨s, hs⟩ := Option.isSome_iff_exists.1 hsource
  obtain ⟨n, rfl⟩ := Int.eq_ofNat_of_zero_le (range_of_source? hs).1
  have hassemble : ∀ w, g'.assemble files n s d w = g.assemble files n s d w := fun w => by
    rw [Graph.assemble, Graph.assemble, h.boundInterfaces, h.layout, h.shims s hs, h.friendlyName]
  rw [result_of_source? hs, result_of_source? (h.source.trans hs), h.layout, h.boundInterfaces,
    h.friendlyName]
  simp only [Int.toNat_natCast, hassemble]

end SameConnections

/-! ## What is bound to a kernel -/

/-- Two graphs of one name have the same source at a kernel, the same edges of the kernel in the
    same order, and the same interfaces at the slots that those name. -/
structure SameAt (g g' : Graph) (k : Int) : Prop where
  name : g'.name = g.name
  source : g'.source? k = g.source? k
  edges : (g'.edges.filter fun e => e.kernel = k) = g.edges.filter fun e => e.kernel = k
  interfaces : ∀ e ∈ g.edges, e.kernel = k → g'.interface? e.interface = g.interface? e.interface

/-- The shims are those of the kernel's edges. -/
theorem shims_eq (g : Graph) (k : Int) (s : KernelSource) :
    g.shims k s = (g.edges.filter fun e => e.kernel = k).filterMap (g.edgeShim? s) := by
  rw [shims, ← map_fst_kernelEdges, List.filterMap_map]
  rfl

namespace SameAt

variable {g g' : Graph} {k : Int}

theorem refl (g : Graph) (k : Int) : SameAt g g k := ⟨rfl, rfl, rfl, fun _ _ _ => rfl⟩

theorem boundSlots (h : SameAt g g' k) : g'.boundSlots k = g.boundSlots k := by
  rw [boundSlots_eq, boundSlots_eq, h.edges]

theorem boundInterfaces (h : SameAt g g' k) : g'.boundInterfaces k = g.boundInterfaces k := by
  rw [Graph.boundInterfaces, Graph.boundInterfaces, h.boundSlots]
  refine List.filterMap_congr fun i hi => ?_
  obtain ⟨e, he, hk, rfl⟩ := mem_boundSlots.1 hi
  rw [h.interfaces e he hk]

theorem shims (h : SameAt g g' k) (s : KernelSource) : g'.shims k s = g.shims k s := by
  rw [shims_eq, shims_eq, h.edges]
  refine List.filterMap_congr fun e he => ?_
  obtain ⟨he, hk⟩ := List.mem_filter.1 he
  rw [edgeShim?, edgeShim?, h.interfaces e he (of_decide_eq_true hk)]

/-- **Graphs that agree at a kernel** build it from the same parts. -/
theorem sameConnections (h : SameAt g g' k) : SameConnections g g' k :=
  ⟨h.name, h.source, h.boundInterfaces, fun s _ => h.shims s⟩

variable {files files' : FileStore} {id id' : Nat} {d : Dialect} {format : String}
  {shown : String → Option String}

/-- **The kernel is built alike** in both graphs, from one digest of the kernel wrapper. -/
theorem alike_of_digest (h : SameAt g g' k) (hsource : (g.source? k).isSome)
    (hfiles : files.Shows shown) (hfiles' : files'.Shows shown)
    (hdigest : (files'.digest id' kernelWrapper format).1.toOption =
      (files.digest id kernelWrapper format).1.toOption) :
    Alike (g.build files id k d format).result (g'.build files' id' k d format).result := by
  obtain ⟨s, hs⟩ := Option.isSome_iff_exists.1 hsource
  have hconnections := h.sameConnections
  rw [← hfiles.toOption_digest_digested (g.boundInterfaces k),
    ← hfiles'.toOption_digest_digested (g.boundInterfaces k)] at hdigest
  rw [result_of_source? hs, result_of_source? (h.source.trans hs),
    hconnections.contributions hfiles hfiles', hconnections.boundInterfaces,
    hconnections.friendlyName]
  simp only [hconnections.assemble hs hfiles hfiles']
  generalize ((digested (g.boundInterfaces k) files).digest id kernelWrapper format).1 = digest
    at hdigest
  generalize ((digested (g.boundInterfaces k) files').digest id' kernelWrapper format).1 = digest'
    at hdigest
  cases contributions (g.layout k) (g.boundInterfaces k) files with
  | error e => exact .same _
  | ok cs =>
    cases digest with
    | error e => cases digest' with
      | error e' => exact .wrapper _ e e'
      | ok w' => cases hdigest
    | ok w => cases digest' with
      | error e' => cases hdigest
      | ok w' =>
        cases hdigest
        exact .same _

/-- **The kernel is built alike** with registries of the same contents. -/
theorem alike (h : SameAt g g' k) (hsource : (g.source? k).isSome) (hshows : files.Shows shown)
    (hshows' : files'.Shows shown) (hfiles : files.SameContents id files' id') :
    Alike (g.build files id k d format).result (g'.build files' id' k d format).result :=
  h.alike_of_digest hsource hshows hshows' (hfiles.toOption_digest _ _)

/-- **Builds of the kernel** differ in their keys at most, and they do so exactly if the kernel
    wrapper has different digests. -/
theorem build_eq_iff (h : SameAt g g' k) (hfiles : files.Shows shown) (hfiles' : files'.Shows shown)
    {b b' : KernelBuild} (hb : (g.build files id k d format).result = .ok b)
    (hb' : (g'.build files' id' k d format).result = .ok b') :
    b' = { b with hashKey := b'.hashKey } ∧
      (b'.hashKey = b.hashKey ↔ (files'.digest id' kernelWrapper format).1 =
        (files.digest id kernelWrapper format).1) := by
  obtain ⟨s, w, h0, _, hs, hw, hassemble⟩ := (build_eq_ok_of_shows hfiles).1 hb
  obtain ⟨s', w', _, _, hs', hw', hassemble'⟩ := (build_eq_ok_of_shows hfiles').1 hb'
  rw [h.source.trans hs] at hs'
  cases hs'
  rw [h.sameConnections.assemble hs hfiles hfiles'] at hassemble'
  obtain ⟨hkey, hwith⟩ := assemble_with hassemble
  rw [hwith files w'] at hassemble'
  cases hassemble'
  refine ⟨rfl, ?_⟩
  rw [hw, hw', hkey, Except.ok.injEq]
  exact ⟨fun heq => (Digest.append_toHex_inj heq).2, fun heq => by rw [heq]⟩

/-- **The kernel is built alike** in both graphs exactly if the kernel wrapper has the same digest,
    or has none, with both registries.  A kernel whose interfaces ask for what they have not
    declared is built with none. -/
theorem alike_iff (h : SameAt g g' k) (hsource : (g.source? k).isSome) (hfiles : files.Shows shown)
    (hfiles' : files'.Shows shown) :
    Alike (g.build files id k d format).result (g'.build files' id' k d format).result ↔
      (∃ u, (g.build files id k d format).result = .error (.undeclared u)) ∨
        (files'.digest id' kernelWrapper format).1.toOption =
          (files.digest id kernelWrapper format).1.toOption := by
  obtain ⟨s, hs⟩ := Option.isSome_iff_exists.1 hsource
  constructor
  · intro halike
    cases hbuilt : (g.build files id k d format).result with
    | ok b =>
      have hbuilt' := halike.symm.ok hbuilt
      exact Or.inr
        (congrArg Except.toOption ((h.build_eq_iff hfiles hfiles' hbuilt hbuilt').2.1 rfl))
    | error e =>
      by_cases hu : ∃ u, e = .undeclared u
      · obtain ⟨u, rfl⟩ := hu
        exact Or.inl ⟨u, rfl⟩
      · have hne : ∀ u, e ≠ .undeclared u := fun u he => hu ⟨u, he⟩
        have hnone := toOption_digest_of_error hs hfiles hbuilt hne
        obtain ⟨e', hbuilt', hne'⟩ : ∃ e', (g'.build files' id' k d format).result = .error e' ∧
            ∀ u, e' ≠ .undeclared u := by
          generalize (g'.build files' id' k d format).result = built' at halike
          rw [hbuilt] at halike
          cases halike with
          | same => exact ⟨e, rfl, hne⟩
          | wrapper name _ e' => exact ⟨_, rfl, nofun⟩
        have hnone' := toOption_digest_of_error (h.source.trans hs) hfiles' hbuilt' hne'
        exact Or.inr (hnone'.trans hnone.symm)
  · rintro (⟨u, hu⟩ | hdigest)
    · have hcs' := (h.sameConnections.contributions hfiles hfiles').trans
        (contributions_of_undeclared hs hu)
      rw [hu, result_of_source? (h.source.trans hs), hcs']
      exact .same _
    · exact h.alike_of_digest hsource hfiles hfiles' hdigest

end SameAt

end Graph

end KernelGraph
