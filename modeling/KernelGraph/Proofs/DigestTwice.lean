/-
  Asking for a digest again.

  A registry whose parents were edited may remember digests that are not those of the files any
  more, and what it answers depends on what it remembers.  Still it gives the same answer twice:

  1. A digest that was given is remembered, and given again (`remembered?_digest`).

  2. Behind a failure some files are `Stuck`: none of their digests is remembered, and each of them
     includes one of them.  So no digest can be taken of any (`Stuck.error`), whatever else is
     remembered by then, and the file that was asked for is among them (`digestFile_stuck`).

  3. Hence a kernel that was built is built again, and one that was not is not
     (`Graph.build_alike`); only the error of the kernel wrapper may be another one.
-/
import KernelGraph.Proofs.Build
import KernelGraph.Proofs.CookDigest
import KernelGraph.Proofs.DigestRecursion

namespace KernelGraph

namespace FileStore

section
variable {source? : String → Option String} {format : String} {S : String → Prop}
  {c : DigestCache}

/-! ## Files whose digest cannot be taken -/

/-- The files in `S`, those on the chain aside, have no digest in the cache and include others in
    `S`. -/
structure Stuck (source? : String → Option String) (format : String) (chain : List String)
    (S : String → Prop) (c : DigestCache) : Prop where
  absent : c.Holds fun key _ => key.format = format → S key.path → key.path ∈ chain
  blocked : ∀ path, S path → path ∉ chain → ∀ text, source? path = some text →
    ∃ p ∈ included text, S p

/-- **Stuck files fail.**  That a file is not stuck is inherited from its includes, so a digest that
    is taken is never that of a stuck file. -/
theorem Stuck.error (h : Stuck source? format [] S c) {path : String} (hpath : S path)
    (depth : Nat) (chain : List String) :
    ∃ e, (digestFile source? format depth chain path c).1 = .error e := by
  have hD : Inherited source? fun key _ => key.format = format → ¬ S key.path := by
    rintro format' path text ds htext hds rfl hS
    obtain ⟨p, hp, hSp⟩ := h.blocked path hS List.not_mem_nil text htext
    obtain ⟨_, hnot⟩ := forall₂_exists hds hp
    exact hnot rfl hSp
  have hc : c.Holds fun key _ => key.format = format → ¬ S key.path :=
    h.absent.mono fun key _ habsent hformat hS => List.not_mem_nil (habsent hformat hS)
  cases hout : (digestFile source? format depth chain path c).1 with
  | error e => exact ⟨e, rfl⟩
  | ok d => exact absurd hpath ((digestFile_holds hD format depth chain path c hc).2 d hout rfl)

/-- No digest of a file on the chain is remembered meanwhile. -/
theorem digestFile_spares {path : String} (depth : Nat) (chain : List String) (p : String)
    (hpath : path ∈ chain) (hc : c.Holds fun key _ => key ≠ ⟨path, format⟩) :
    (digestFile source? format depth chain p c).2.Holds fun key _ => key ≠ ⟨path, format⟩ := by
  induction depth generalizing chain p c with
  | zero => exact hc
  | succ depth ih =>
    rw [digestFile_succ]
    split
    · exact hc
    · rename_i hp
      have hne : (⟨p, format⟩ : DigestKey) ≠ ⟨path, format⟩ := fun heq => by
        cases heq
        exact hp hpath
      have hkept : ∀ c : DigestCache, (c.Holds fun key _ => key ≠ ⟨path, format⟩) →
          (compute source? format depth chain p c).2.Holds fun key _ => key ≠ ⟨path, format⟩ :=
        fun c hc => compute_kept p
          (fun q c hc => ih (c := c) (chain ++ [p]) q (List.mem_append_left _ hpath) hc) hc
      exact (hc.getOrCreate _ hkept fun _ _ _ _ => hne).1

/-- A file that fails leaves one of its includes behind that has failed, or it has no text. -/
theorem compute_error {depth : Nat} {chain : List String} {path : String} {e : Include.Error}
    {c' : DigestCache} (hc : c.Holds fun key _ => key ≠ ⟨path, format⟩)
    (h : compute source? format depth chain path c = (.error e, c')) :
    source? path = none ∨ ∃ text, source? path = some text ∧ ∃ p ∈ included text,
      ∃ c₁ : DigestCache, (c₁.Holds fun key _ => key ≠ ⟨path, format⟩) ∧
        digestFile source? format depth (chain ++ [path]) p c₁ = (.error e, c') := by
  rw [compute] at h
  split at h
  · rename_i hnone
    exact Or.inl hnone
  · rename_i text htext
    split at h
    · rename_i heq
      cases h
      have hspares : ∀ p (c : DigestCache), (c.Holds fun key _ => key ≠ ⟨path, format⟩) →
          (digestFile source? format depth (chain ++ [path]) p c).2.Holds
            fun key _ => key ≠ ⟨path, format⟩ := fun p _ hc =>
        digestFile_spares depth (chain ++ [path]) p
          (List.mem_append_right _ (List.mem_singleton_self path)) hc
      obtain ⟨before, p, rest, hsplit, _, c₁, hc₁, hp⟩ := writeDigests_error hspares hc
        (congrArg Prod.fst heq)
      rw [heq] at hp
      refine Or.inr ⟨text, htext, p, ?_, c₁, hc₁, hp⟩
      rw [hsplit]
      exact List.mem_append_right _ (List.mem_cons_self ..)
    · cases h

/-- **A failure leaves stuck files behind**, and the one that was asked for is among them. -/
theorem digestFile_stuck {known : List String}
    (hknown : ∀ path text, source? path = some text → path ∈ known) {depth : Nat}
    {chain : List String} {path : String} {e : Include.Error} (hnodup : chain.Nodup)
    (hmem : ∀ q ∈ chain, q ∈ known) (hdepth : known.length + 2 ≤ depth + chain.length)
    (hc : c.Holds fun _ _ => True)
    (herror : (digestFile source? format depth chain path c).1 = .error e) :
    ∃ S : String → Prop, S path ∧
      Stuck source? format chain S (digestFile source? format depth chain path c).2 := by
  induction depth generalizing chain path c e with
  | zero =>
    have := Include.length_chain_le hnodup hmem
    omega
  | succ depth ih =>
    rw [digestFile_succ] at herror ⊢
    split at herror
    · rename_i hagain
      rw [if_pos hagain]
      refine ⟨(· = path), rfl, hc.mono fun key _ _ _ heq => heq ▸ hagain, fun p hp hnot => ?_⟩
      exact absurd (hp ▸ hagain) hnot
    · rename_i hfresh
      rw [if_neg hfresh]
      obtain ⟨hnone, hcreate⟩ := Lru.getOrCreate_eq_error herror
      -- the digest of the file itself is not remembered, neither before nor afterwards
      have hne : c.Holds fun key _ => key ≠ ⟨path, format⟩ := hc.of_value? fun key d hd heq => by
        rw [heq, hnone] at hd
        cases hd
      generalize (c.getOrCreate ⟨path, format⟩ (compute source? format depth chain path)).2 = c'
        at hcreate ⊢
      have hgot := (hne.get ⟨path, format⟩).1
      have hne' : c'.Holds fun key _ => key ≠ ⟨path, format⟩ := by
        have hspares : ∀ q (c : DigestCache), (c.Holds fun key _ => key ≠ ⟨path, format⟩) →
            (digestFile source? format depth (chain ++ [path]) q c).2.Holds
              fun key _ => key ≠ ⟨path, format⟩ := fun q _ hc =>
          digestFile_spares depth (chain ++ [path]) q
            (List.mem_append_right _ (List.mem_singleton_self path)) hc
        have hkept := compute_kept path hspares hgot
        rw [hcreate] at hkept
        exact hkept
      rcases compute_error hgot hcreate with htext | ⟨text, htext, q, hq, c₁, hc₁, hfail⟩
      · refine ⟨(· = path), rfl, hne'.mono fun key _ hkey hformat hpath => ?_,
          fun p hp _ text htext' => ?_⟩
        · exact absurd (by rw [← hformat, ← hpath]) hkey
        · rw [hp, htext] at htext'
          cases htext'
      · obtain ⟨S, hSq, hstuck⟩ := ih (Include.nodup_snoc hnodup hfresh)
          (Include.forall_mem_snoc hmem (hknown path text htext))
          (by rw [List.length_append, List.length_singleton]; omega)
          (hc₁.mono fun _ _ _ => trivial) (congrArg Prod.fst hfail)
        rw [hfail] at hstuck
        refine ⟨fun p => p = path ∨ S p, Or.inl rfl, ?_, ?_⟩
        · refine hne'.of_value? fun key d hd hformat hp => ?_
          have hkey : key.path ≠ path := fun hpath => hne'.value? hd (by rw [← hformat, ← hpath])
          have habsent := hstuck.absent.value? hd hformat (hp.resolve_left hkey)
          exact (List.mem_append.1 habsent).resolve_right fun h => hkey (List.mem_singleton.1 h)
        · intro p hp hnot text' htext'
          by_cases hpath : p = path
          · subst hpath
            cases htext.symm.trans htext'
            exact ⟨q, hq, Or.inr hSq⟩
          · obtain ⟨q', hq', hS⟩ := hstuck.blocked p (hp.resolve_left hpath) (fun hin =>
              (List.mem_append.1 hin).elim hnot fun h => hpath
                (List.mem_singleton.1 h)) text' htext'
            exact ⟨q', hq', Or.inr hS⟩

end

/-! ## Asking twice -/

section
variable {fs : FileStore} {id : Nat}

theorem digest_fst (fs : FileStore) (id : Nat) (path format : String) :
    (fs.digest id path format).1 = (digestFile (fs.source? id) format (fs.known.length + 2) [] path
      (fs.registry id).digests).1 := rfl

theorem holds_digest (hc : (fs.registry id).digests.Holds fun _ _ => True) (i : Nat)
    (path format : String) :
    ((fs.digest i path format).2.registry id).digests.Holds fun _ _ => True := by
  by_cases hid : id = i ∧ i < fs.registries.size
  · obtain ⟨rfl, hid⟩ := hid
    exact (digest_holds inherited_true hid hc path format).1
  · show ((fs.modify i _).registry id).digests.Holds _
    rw [registry_modify, if_neg hid]
    exact hc

/-- **A registry that is asked again** gives the same digest, or fails again. -/
theorem toOption_digest_digest (hc : (fs.registry id).digests.Holds fun _ _ => True)
    (path format : String) :
    ((fs.digest id path format).2.digest id path format).1.toOption =
      (fs.digest id path format).1.toOption := by
  by_cases hid : id < fs.registries.size
  · have hid' := Nat.lt_of_lt_of_eq hid (size_digest fs id path format).symm
    cases hout : (fs.digest id path format).1 with
    | ok d => rw [(digest_of_remembered? hid' (remembered?_digest hid hc hout)).1]
    | error e =>
      rw [digest_fst] at hout
      obtain ⟨S, hS, hstuck⟩ := digestFile_stuck (fs.mem_known id) List.nodup_nil
        (fun q hq => by cases hq) (Nat.le_refl _) hc hout
      have hsource : (fs.digest id path format).2.source? = fs.source? := source?_digest path format
      rw [← digests_digest hid, ← hsource] at hstuck
      obtain ⟨e', he'⟩ := hstuck.error hS ((fs.digest id path format).2.known.length + 2) []
      rw [digest_fst, he']
      rfl
  · -- there is no such registry, so nothing is remembered
    have hsame : (fs.digest id path format).2 = fs := by
      refine congrArg FileStore.mk (Array.ext_getElem? fun i => ?_)
      rw [Array.getElem?_modify]
      split
      · rename_i hi
        rw [← hi, Array.getElem?_eq_none (Nat.not_lt.1 hid)]
        rfl
      · rfl
    rw [hsame]

end

end FileStore

/-! ## Building twice -/

namespace Graph

open VirtualPath (kernelWrapper)

/-- Two attempts at a kernel have come to the same.  Where the kernel wrapper has no digest, the
    reason may be another one. -/
inductive Alike : Except GraphError KernelBuild → Except GraphError KernelBuild → Prop
  | same (built : Except GraphError KernelBuild) : Alike built built
  | wrapper (name : String) (e e' : Include.Error) :
      Alike (.error (.wrapper name e)) (.error (.wrapper name e'))

/-- The registry answers with this digest of the kernel wrapper, or fails if it is none, and the
    built-in registry shows these sources. -/
structure Answers (registry : Nat) (format : String) (wrapper : Option Digest)
    (shown : String → Option String) (files : FileStore) : Prop where
  holds : (files.registry registry).digests.Holds fun _ _ => True
  wrapper : (files.digest registry kernelWrapper format).1.toOption = wrapper
  shows : files.Shows shown

section
variable {built built' : Except GraphError KernelBuild} {registry : Nat} {format : String}
  {wrapper : Option Digest} {shown : String → Option String} {files files' : FileStore}

theorem Alike.symm (h : Alike built built') : Alike built' built := by
  cases h with
  | same => exact .same _
  | wrapper name e e' => exact .wrapper name e' e

theorem Alike.ok {b : KernelBuild} (h : Alike built built') (hb : built' = .ok b) :
    built = .ok b := by
  cases h with
  | same => exact hb
  | wrapper => cases hb

theorem Alike.undeclared {u : UndeclaredParameter} (h : Alike built built')
    (hu : built' = .error (.undeclared u)) : built = .error (.undeclared u) := by
  cases h with
  | same => exact hu
  | wrapper => cases hu

/-- A registry keeps to its answer while kernels are built. -/
theorem Answers.build (h : Answers registry format wrapper shown files) (g : Graph) (k : Int)
    (d : Dialect) :
    Answers registry format wrapper shown (g.build files registry k d format).files := by
  refine files_build_kept g k d (P := Answers registry format wrapper shown)
    (fun fs _ _ h => ?_) (fun fs h => ?_) h
  · exact ⟨FileStore.holds_digest h.holds _ _ _,
      (h.shows.toOption_digest_digest _ _ _ _ _).trans h.wrapper, h.shows.digest _ _ _⟩
  · exact ⟨FileStore.holds_digest h.holds _ _ _,
      (FileStore.toOption_digest_digest h.holds _ _).trans h.wrapper, h.shows.digest _ _ _⟩

/-- **A kernel is built alike** as long as the registry keeps to its answer. -/
theorem build_alike (h : Answers registry format wrapper shown files)
    (h' : Answers registry format wrapper shown files') (g : Graph) (k : Int) (d : Dialect) :
    Alike (g.build files registry k d format).result
      (g.build files' registry k d format).result := by
  by_cases hbuilt : ∃ s, 0 ≤ k ∧ k < g.kernels.length ∧ g.source? k = some s
  · obtain ⟨s, h0, hlt, hs⟩ := hbuilt
    have hcs := h.shows.contributions_eq h'.shows (g.layout k) (g.boundInterfaces k)
    have hdigest := h.shows.toOption_digest_digested (g.boundInterfaces k) registry kernelWrapper
      format
    have hdigest' := h'.shows.toOption_digest_digested (g.boundInterfaces k) registry kernelWrapper
      format
    rw [h.wrapper] at hdigest
    rw [h'.wrapper] at hdigest'
    cases hcontributions : contributions (g.layout k) (g.boundInterfaces k) files with
    | error e =>
      rw [build_of_undeclared h0 hlt hs hcontributions,
        build_of_undeclared h0 hlt hs (hcs.trans hcontributions)]
      exact .same _
    | ok cs =>
      cases wrapper with
      | none =>
        obtain ⟨e, he⟩ := toOption_eq_none_iff.1 hdigest
        obtain ⟨e', he'⟩ := toOption_eq_none_iff.1 hdigest'
        rw [build_of_digest_error h0 hlt hs hcontributions he,
          build_of_digest_error h0 hlt hs (hcs.trans hcontributions) he']
        exact .wrapper _ e e'
      | some w =>
        rw [toOption_eq_some_iff] at hdigest hdigest'
        obtain ⟨b, hb⟩ := assemble_of_contributions h0 hcontributions s d w
        have hb' : g.assemble files' k.toNat s d w = .ok b := by
          rw [← hb, assemble, assemble, Int.toNat_of_nonneg h0, hcs]
        rw [build_eq_ok.2 ⟨s, w, h0, hlt, hs, hdigest, hb⟩,
          build_eq_ok.2 ⟨s, w, h0, hlt, hs, hdigest', hb'⟩]
        exact .same _
  · -- no store matters
    rw [Graph.build, Graph.build]
    split
    · exact .same _
    · rename_i hrange
      rw [Bool.or_eq_true, decide_eq_true_eq, decide_eq_true_eq] at hrange
      split
      · exact .same _
      · exact .same _
      · rename_i name s hk
        exact absurd ⟨s, by omega, by omega, by rw [source?, hk]; rfl⟩ hbuilt

end

end Graph

end KernelGraph
