/-
  Digests with and without the cache.

  A digest is taken by a recursion over the includes that shares one bounded cache between all
  nested calls; the chain of files above a call is no part of the cache's keys.  The law, for a
  registry whose ancestors are not edited once it has been asked for a digest:

      digest fs f path format  =  what the recursion without a cache comes to, errors included

  1. `Hashes` is the recursion without a cache and without a depth.  It has one outcome at most.
  2. A file that has a digest lies on no circle.  So a digest that is found in a sound cache is what
     the recursion comes to, whatever chain led to the file (`HasDigest.hashes`).
  3. An error comes from the first include that fails, and nothing that fails is cached; what was
     evicted before is computed again, to the same end (`digestFile_hashes`).
  4. `History` are the stores in question; in all of them the registry's digests are current.
-/
import KernelGraph.Proofs.Merkle

namespace KernelGraph.FileStore

open Relation

/-! ## The recursion without a cache -/

/-- **The recursion itself**: the file at `path`, which the last file of the chain includes, comes
    to a digest or an error.  There is neither a cache nor a depth. -/
inductive Hashes (source? : String → Option String) (format : String) :
    (chain : List String) → (path : String) → (out : Except Include.Error Digest) → Prop
  | cycle {chain : List String} {path : String} (again : path ∈ chain) :
      Hashes source? format chain path (.error (.cycle chain path))
  | missing {chain : List String} {path : String} (fresh : path ∉ chain)
      (source : source? path = none) :
      Hashes source? format chain path (.error (.notFound path none))
  | failed {chain before rest : List String} {path text p : String} {e : Include.Error}
      (fresh : path ∉ chain) (source : source? path = some text)
      (split : included text = before ++ p :: rest) (d : String → Digest)
      (earlier : ∀ q ∈ before, Hashes source? format (chain ++ [path]) q (.ok (d q)))
      (failure : Hashes source? format (chain ++ [path]) p (.error e)) :
      Hashes source? format chain path (.error e)
  | hashed {chain : List String} {path text : String} (fresh : path ∉ chain)
      (source : source? path = some text) (d : String → Digest)
      (beneath : ∀ q ∈ included text, Hashes source? format (chain ++ [path]) q (.ok (d q))) :
      Hashes source? format chain path (.ok (message format text ((included text).map d)).sum)

section
variable {source? : String → Option String} {format : String}

/-- The recursion has one outcome at most. -/
theorem Hashes.unique {chain : List String} {path : String} {a b : Except Include.Error Digest}
    (ha : Hashes source? format chain path a) (hb : Hashes source? format chain path b) :
    a = b := by
  induction ha generalizing b with
  | cycle again => cases hb <;> first | rfl | contradiction
  | missing fresh source => cases hb <;> simp_all
  | failed fresh source split d earlier failure ihearlier ihfailure =>
    cases hb with
    | cycle again => contradiction
    | missing _ source' => simp_all
    | failed _ source' split' d' earlier' failure' =>
      obtain rfl : _ = _ := Option.some.inj (source.symm.trans source')
      -- the earlier one of the two failures lies before the other, where nothing fails
      rcases List.append_eq_append_iff.1 (split.symm.trans split') with
        ⟨between, rfl, hrest⟩ | ⟨between, rfl, hrest⟩
      · cases between with
        | nil =>
          obtain ⟨rfl, _⟩ := List.cons.inj hrest
          exact ihfailure failure'
        | cons q between =>
          obtain ⟨rfl, _⟩ := List.cons.inj hrest
          cases ihfailure (earlier' _ (by simp))
      · cases between with
        | nil =>
          obtain ⟨rfl, _⟩ := List.cons.inj hrest
          exact ihfailure failure'
        | cons q between =>
          obtain ⟨rfl, _⟩ := List.cons.inj hrest
          cases ihearlier _ (by simp) failure'
    | hashed _ source' d' beneath' =>
      obtain rfl : _ = _ := Option.some.inj (source.symm.trans source')
      cases ihfailure (beneath' _ (by rw [split]; simp))
  | hashed fresh source d beneath ih =>
    cases hb with
    | cycle again => contradiction
    | missing _ source' => simp_all
    | failed _ source' split' d' earlier' failure' =>
      obtain rfl : _ = _ := Option.some.inj (source.symm.trans source')
      cases ih _ (by rw [split']; simp) failure'
    | hashed _ source' d' beneath' =>
      obtain rfl : _ = _ := Option.some.inj (source.symm.trans source')
      have hmap : (included _).map d = (included _).map d' :=
        List.map_congr_left fun q hq => Except.ok.inj (ih q hq (beneath' q hq))
      rw [hmap]

/-- A file has a digest if all its includes have one. -/
theorem hashes_of_forall {chain : List String} {path text : String} (fresh : path ∉ chain)
    (source : source? path = some text)
    (h : ∀ q ∈ included text, ∃ d, Hashes source? format (chain ++ [path]) q (.ok d)) :
    ∃ d, Hashes source? format chain path (.ok d) := by
  classical
  refine ⟨_, .hashed fresh source
    (fun q => if hq : q ∈ included text then (h q hq).choose else default) fun q hq => ?_⟩
  rw [dif_pos hq]
  exact (h q hq).choose_spec

/-- A file fails with the first of its includes that fails. -/
theorem hashes_of_first {chain before rest : List String} {path text p : String} {e : Include.Error}
    (fresh : path ∉ chain) (source : source? path = some text)
    (split : included text = before ++ p :: rest)
    (earlier : ∀ q ∈ before, ∃ d, Hashes source? format (chain ++ [path]) q (.ok d))
    (failure : Hashes source? format (chain ++ [path]) p (.error e)) :
    Hashes source? format chain path (.error e) := by
  classical
  refine .failed fresh source split
    (fun q => if hq : q ∈ before then (earlier q hq).choose else default) (fun q hq => ?_) failure
  rw [dif_pos hq]
  exact (earlier q hq).choose_spec

/-! ## A digest, found or computed -/

theorem DigestWithin.acyclic {n : Nat} {path : String} {d : Digest}
    (h : DigestWithin source? format n path d) : ¬ TransGen (Includes source?) path path := by
  induction n generalizing path d with
  | zero => exact h.elim
  | succ n ih =>
    obtain ⟨text, ds, htext, hds, _⟩ := h
    intro hback
    obtain ⟨q, hq, hqp⟩ := TransGen.head'_iff.1 hback
    obtain ⟨text', htext', hmem⟩ := id hq
    rw [htext] at htext'
    cases htext'
    obtain ⟨e, he⟩ := forall₂_exists hds hmem
    -- the same circle, begun one file further on
    exact ih he (TransGen.tail' hqp hq)

/-- Digests that a list of paths has are the values of one function. -/
theorem exists_map_of_forall₂ {n : Nat} {paths : List String} {ds : List Digest}
    (h : List.Forall₂ (DigestWithin source? format n) paths ds) :
    ∃ d : String → Digest, ds = paths.map d ∧
      ∀ q ∈ paths, DigestWithin source? format n q (d q) := by
  classical
  let d : String → Digest := fun q =>
    if hq : ∃ e, DigestWithin source? format n q e then hq.choose else default
  have hd : ∀ q e, DigestWithin source? format n q e → d q = e := by
    intro q e he
    have hex : ∃ e, DigestWithin source? format n q e := ⟨e, he⟩
    rw [show d q = hex.choose from dif_pos hex]
    exact hex.choose_spec.unique he
  refine ⟨d, ?_, fun q hq => ?_⟩
  · induction h with
    | nil => rfl
    | cons he _ ih => rw [List.map_cons, hd _ _ he, ← ih]
  · obtain ⟨e, he⟩ := forall₂_exists h hq
    rw [hd q e he]
    exact he

/-- **A digest is an outcome of the recursion**, whatever chain of files leads to its file: none of
    them can be met again. -/
theorem DigestWithin.hashes {n : Nat} {chain : List String} {path : String} {d : Digest}
    (h : DigestWithin source? format n path d)
    (hchain : ∀ q ∈ chain, TransGen (Includes source?) q path) :
    Hashes source? format chain path (.ok d) := by
  induction n generalizing chain path d with
  | zero => exact h.elim
  | succ n ih =>
    have hfresh : path ∉ chain := fun hmem => h.acyclic (hchain path hmem)
    obtain ⟨text, ds, htext, hds, rfl⟩ := h
    obtain ⟨f, rfl, hf⟩ := exists_map_of_forall₂ hds
    refine .hashed hfresh htext f fun q hq => ih (hf q hq) ?_
    have hstep : Includes source? path q := ⟨text, htext, hq⟩
    exact Include.forall_mem_snoc (fun p hp => (hchain p hp).tail hstep) (.single hstep)

/-- Writing the digests of a list fails at the first path that fails. -/
theorem writeDigests_error {digest : String → DigestCache →
    Except Include.Error Digest × DigestCache}
    {P : DigestCache → Prop} (hstep : ∀ p c, P c → P (digest p c).2) {ps : List String}
    {h : Hasher} {c : DigestCache} {e : Include.Error} (hc : P c)
    (herror : (writeDigests digest ps h c).1 = .error e) :
    ∃ before p rest, ps = before ++ p :: rest ∧
      (∀ q ∈ before, ∃ c d, P c ∧ (digest q c).1 = .ok d) ∧
      ∃ c', P c' ∧ digest p c' = (.error e, (writeDigests digest ps h c).2) := by
  induction ps generalizing h c with
  | nil => cases herror
  | cons p ps ih =>
    have hkept := hstep p c hc
    rw [writeDigests] at herror ⊢
    split at herror
    · rename_i e' c' heq
      cases herror
      exact ⟨[], p, ps, rfl, fun q hq => (List.not_mem_nil hq).elim, c, hc, heq⟩
    · rename_i d c' heq
      rw [heq] at hkept
      obtain ⟨before, q, rest, rfl, hbefore, hfail⟩ := ih hkept herror
      refine ⟨p :: before, q, rest, rfl, fun x hx => ?_, hfail⟩
      rcases List.mem_cons.1 hx with rfl | hx
      · exact ⟨c, d, hc, by rw [heq]⟩
      · exact hbefore x hx

/-- A file that fails, not being on the chain, fails as the recursion does, if its includes do. -/
theorem compute_hashes {depth : Nat} {chain : List String} {path : String} {c : DigestCache}
    {e : Include.Error} (hfresh : path ∉ chain) (hc : Sound source? c)
    (hinner : ∀ text, source? path = some text → ∀ q ∈ included text, ∀ c, Sound source? c →
      Hashes source? format (chain ++ [path]) q
        (digestFile source? format depth (chain ++ [path]) q c).1)
    (herror : (compute source? format depth chain path c).1 = .error e) :
    Hashes source? format chain path (.error e) := by
  cases htext : source? path with
  | none =>
    rw [compute, htext] at herror
    cases herror
    exact .missing hfresh htext
  | some text =>
    have hwrite : (writeDigests (digestFile source? format depth (chain ++ [path]))
        (included text) ((Hasher.write {} format).write text) c).1 = .error e := by
      rw [compute, htext] at herror
      dsimp only at herror
      split at herror
      · rename_i heq
        cases herror
        rw [heq]
      · cases herror
    obtain ⟨before, p, rest, hsplit, hbefore, c', hc', hp⟩ := writeDigests_error
      (fun p c hc => (digestFile_sound source? format depth (chain ++ [path]) p c hc).1) hc hwrite
    have hokay : ∀ q ∈ before, ∃ d, Hashes source? format (chain ++ [path]) q (.ok d) := by
      intro q hq
      obtain ⟨c₁, d, hc₁, hd⟩ := hbefore q hq
      have hrun := hinner text htext q (by rw [hsplit]; simp [hq]) c₁ hc₁
      rw [hd] at hrun
      exact ⟨d, hrun⟩
    have hfailure := hinner text htext p (by rw [hsplit]; simp) c' hc'
    rw [hp] at hfailure
    exact hashes_of_first hfresh htext hsplit hokay hfailure

/-- **The cache does not show**: from a sound cache, whatever it still holds, the cached recursion
    comes to what the recursion without it comes to. -/
theorem digestFile_hashes {known : List String}
    (hknown : ∀ path text, source? path = some text → path ∈ known) :
    ∀ (depth : Nat) (chain : List String) (path : String) (c : DigestCache),
      chain.Nodup → (∀ q ∈ chain, q ∈ known) → known.length + 2 ≤ depth + chain.length →
      (∀ q ∈ chain, TransGen (Includes source?) q path) → Sound source? c →
      Hashes source? format chain path (digestFile source? format depth chain path c).1 := by
  intro depth
  induction depth with
  | zero =>
    intro chain path c hnodup hmem hdepth
    have := Include.length_chain_le hnodup hmem
    omega
  | succ depth ih =>
    intro chain path c hnodup hmem hdepth hchain hc
    cases hout : (digestFile source? format (depth + 1) chain path c).1 with
    | ok d =>
      -- found or computed, it is the file's digest
      obtain ⟨n, hn⟩ := (digestFile_sound source? format (depth + 1) chain path c hc).2 d hout
      exact hn.hashes hchain
    | error e =>
      rw [digestFile_succ] at hout
      split at hout
      · rename_i hagain
        cases hout
        exact .cycle hagain
      · rename_i hfresh
        have hcompute := compute_holds inherited_hasDigest
          (digestFile_sound source? format depth (chain ++ [path])) rfl
        obtain ⟨_, _, hfail⟩ := Lru.Holds.getOrCreate hc (⟨path, format⟩ : DigestKey)
          (fun c hc => (hcompute c hc).1) fun c d hc => (hcompute c hc).2 d
        obtain ⟨c', hc', he⟩ := hfail e hout
        refine compute_hashes hfresh hc' (fun text htext q hq c hc => ?_) he
        have hedge : Includes source? path q := ⟨text, htext, hq⟩
        exact ih (chain ++ [path]) q c (Include.nodup_snoc hnodup hfresh)
          (Include.forall_mem_snoc hmem (hknown path text htext))
          (by rw [List.length_append, List.length_singleton]; omega)
          (Include.forall_mem_snoc (fun p hp => (hchain p hp).tail hedge) (.single hedge)) hc

end

/-! ## Which registries a text depends on -/

section
variable {fs fs' : FileStore} {id f : Nat}

/-- The registry falls back to the other one, directly or through others. -/
def FallsBackTo (fs : FileStore) : Nat → Nat → Prop :=
  TransGen fun child parent => parent ∈ (fs.registry child).parents ∧ parent < child

/-- What a registry sees depends on its own sources and on those that it falls back to. -/
theorem source?_eq_of_registries (hself : (fs'.registry f).sources = (fs.registry f).sources ∧
      (fs'.registry f).parents = (fs.registry f).parents)
    (habove : ∀ g, FallsBackTo fs f g → (fs'.registry g).sources = (fs.registry g).sources ∧
      (fs'.registry g).parents = (fs.registry g).parents) :
    fs'.source? f = fs.source? f := by
  funext path
  induction f using Nat.strongRecOn with
  | ind f ih =>
    rw [source?, source?, hself.1, hself.2]
    cases (fs.registry f).sources.lookup path with
    | some text => rfl
    | none =>
      dsimp only
      rw [← List.head?_filterMap, ← List.head?_filterMap]
      congr 1
      refine List.filterMap_congr fun p hp => ?_
      split
      · rename_i hlt
        have hback : FallsBackTo fs f p := .single ⟨hp, hlt⟩
        exact ih p hlt (habove p hback) fun g hg => habove g (hback.trans hg)
      · rfl

/-- A registry does not fall back to itself or to a younger one. -/
theorem FallsBackTo.lt {g : Nat} (h : FallsBackTo fs f g) : g < f := by
  induction h with
  | single hstep => exact hstep.2
  | tail _ hstep ih => exact hstep.2.trans ih

theorem registry_register {path text : String} (h : fs.register id path text = .ok fs') (i : Nat) :
    (fs'.registry i).parents = (fs.registry i).parents ∧
      (i ≠ id → fs'.registry i = fs.registry i) := by
  rw [register] at h
  split at h
  · cases h
    rw [registry_modify]
    split
    · rename_i hi
      exact ⟨rfl, fun hne => absurd hi.1 hne⟩
    · exact ⟨rfl, fun _ => rfl⟩
  · cases h

theorem registry_digest_of_ne (path format : String) {i : Nat} (h : i ≠ id) :
    (fs.digest id path format).2.registry i = fs.registry i := by
  show (fs.modify id _).registry i = _
  rw [registry_modify, if_neg fun hi => h hi.1]

/-- Registering elsewhere changes nothing for a registry that does not fall back to that place. -/
theorem Current.register {path text : String} (h : Current fs f)
    (hregister : fs.register id path text = .ok fs') (hself : id ≠ f)
    (habove : ¬ FallsBackTo fs f id) : Current fs' f := by
  have hsame := (registry_register hregister f).2 (Ne.symm hself)
  have hsource : fs'.source? f = fs.source? f := by
    refine source?_eq_of_registries (by rw [hsame]; exact ⟨rfl, rfl⟩) fun g hg => ?_
    rw [(registry_register hregister g).2 fun heq => habove (heq ▸ hg)]
    exact ⟨rfl, rfl⟩
  rw [Current, hsource, hsame]
  exact h

/-- A new registry changes nothing for the others, and remembers nothing itself. -/
theorem Current.create (h : Current fs f) (parents : List Nat) :
    Current (fs.create parents).2 f := by
  by_cases hnew : f = fs.registries.size
  · rw [Current, registry_create, if_pos hnew]
    exact Lru.holds_empty _
  · have hsame : (fs.create parents).2.registry f = fs.registry f := by
      rw [registry_create, if_neg hnew]
    have hsource : (fs.create parents).2.source? f = fs.source? f := by
      refine source?_eq_of_registries (by rw [hsame]; exact ⟨rfl, rfl⟩) fun g hg => ?_
      rw [registry_create, if_neg]
      · exact ⟨rfl, rfl⟩
      · -- a registry that does not exist yet falls back to none
        intro hg'
        have hlt := hg.lt
        obtain ⟨p, hp, _⟩ := TransGen.head'_iff.1 hg
        rw [registry, Array.getD_eq_getD_getElem?, Array.getElem?_eq_none (by omega)] at hp
        exact (List.not_mem_nil hp.1).elim
    rw [Current, hsource, hsame]
    exact h

/-! ## Histories in which no ancestor changes after the first digest -/

/-- The stores that creating registries, registering sources and taking digests lead to, in any
    registries and any order, as long as nothing that `f` falls back to is registered to once `f`
    has been asked for a digest.  The flag tells whether it has. -/
inductive History (f : Nat) : (asked : Bool) → FileStore → Prop
  | empty : History f false {}
  | create {asked : Bool} {fs : FileStore} (parents : List Nat) :
      History f asked fs → History f asked (fs.create parents).2
  | register {asked : Bool} {fs fs' : FileStore} {id : Nat} {path text : String} :
      History f asked fs → fs.register id path text = .ok fs' →
      (asked = true → ¬ FallsBackTo fs f id) → History f asked fs'
  | digest {asked : Bool} {fs : FileStore} (id : Nat) (path format : String) :
      History f asked fs → History f (asked || id == f) (fs.digest id path format).2

theorem History.reachable {asked : Bool} (h : History f asked fs) : Reachable fs := by
  induction h with
  | empty => exact .empty
  | create parents _ ih => exact .create parents ih
  | register _ hregister _ ih => exact .register ih hregister
  | digest id path format _ ih => exact .digest id path format ih

/-- What a registry remembers before it is asked: nothing. -/
theorem History.nothing {asked : Bool} (h : History f asked fs) (hasked : asked = false) :
    (fs.registry f).digests.Holds fun _ _ => False := by
  induction h with
  | empty => exact Lru.holds_empty _
  | create parents _ ih =>
    rw [registry_create]
    split
    · exact Lru.holds_empty _
    · exact ih hasked
  | @register _ fs fs' id path text _ hregister _ ih =>
    rw [FileStore.register] at hregister
    split at hregister
    · cases hregister
      rw [registry_modify]
      split
      · exact (ih hasked).clear _
      · exact ih hasked
    · cases hregister
  | @digest asked fs id path format _ ih =>
    obtain ⟨hbefore, hother⟩ : asked = false ∧ id ≠ f := by simpa using hasked
    rw [registry_digest_of_ne path format (Ne.symm hother)]
    exact ih hbefore

/-- **In such a store the registry's digests are current.** -/
theorem History.current {asked : Bool} (h : History f asked fs) : Current fs f := by
  induction h with
  | empty => exact Lru.holds_empty _
  | create parents _ ih => exact ih.create parents
  | @register asked fs fs' id path text hbefore hregister hquiet ih =>
    by_cases hself : id = f
    · subst hself
      exact current_register ih hregister
    · cases asked with
      | true => exact ih.register hregister hself (hquiet rfl)
      | false =>
        -- an ancestor may change here, but nothing is remembered yet
        have hempty := hbefore.nothing rfl
        rw [Current, (registry_register hregister f).2 (Ne.symm hself)]
        exact hempty.mono fun _ _ hfalse => hfalse.elim
  | @digest asked fs id path format hbefore ih =>
    by_cases hself : id = f
    · subst hself
      exact ih.digest path format
    · rw [Current, registry_digest_of_ne path format (Ne.symm hself), source?_digest]
      exact ih

/-- **Digests are cache-transparent.**  In every store that such a history leads to, asking the
    registry for the digest of a file gives what the recursion without a cache comes to over the
    sources that the registry sees now: a digest or an error, and the same one.  The recursion has
    exactly one outcome, so it ends. -/
theorem History.digest_eq_hashes {asked : Bool} (h : History f asked fs) (path format : String) :
    ∃ out, Hashes (fs.source? f) format [] path out ∧
      (∀ out', Hashes (fs.source? f) format [] path out' → out' = out) ∧
      (fs.digest f path format).1 = out := by
  have hrun : Hashes (fs.source? f) format [] path (fs.digest f path format).1 :=
    digestFile_hashes (fs.mem_known f) (fs.known.length + 2) [] path _ List.nodup_nil (by simp)
      (by simp) (by simp) h.current
  exact ⟨_, hrun, fun out' h' => h'.unique hrun, rfl⟩

end

/-- A registry with one file, and one that falls back to it. -/
def sharedFiles : FileStore := ⟨#[{ sources := [("/a.wgsl", "1")] }, { parents := [0] }]⟩

theorem history_shared : History 1 false sharedFiles := by
  have hfile : FileStore.register ⟨#[{}]⟩ 0 "/a.wgsl" "1" =
      .ok ⟨#[{ sources := [("/a.wgsl", "1")] }]⟩ := by
    rw [FileStore.register, if_pos (by decide)]
    rfl
  exact .create [0] (.register (.create [] .empty) hfile (by simp))

theorem source?_shared : sharedFiles.source? 1 "/a.wgsl" = some "1" :=
  (source?_of_parent rfl rfl Nat.one_pos).trans (source?_of_lookup rfl)

/-- Asked a second time, the registry answers from its cache what the recursion comes to. -/
theorem digest_eq_hashes_shared :
    ((sharedFiles.digest 1 "/a.wgsl" "wgsl").2.digest 1 "/a.wgsl" "wgsl").1 =
      .ok (message "wgsl" "1" []).sum := by
  have hasked : History 1 true (sharedFiles.digest 1 "/a.wgsl" "wgsl").2 :=
    .digest 1 "/a.wgsl" "wgsl" history_shared
  have hrun : Hashes ((sharedFiles.digest 1 "/a.wgsl" "wgsl").2.source? 1) "wgsl" [] "/a.wgsl"
      (.ok (message "wgsl" "1" ((included "1").map default)).sum) := by
    rw [source?_digest]
    refine .hashed (by simp) source?_shared default fun q hq => ?_
    have hleaf : included "1" = [] := by decide
    rw [hleaf] at hq
    cases hq
  obtain ⟨out, _, hunique, hdigest⟩ := hasked.digest_eq_hashes "/a.wgsl" "wgsl"
  rw [hdigest, ← hunique _ hrun]
  rfl

end KernelGraph.FileStore
