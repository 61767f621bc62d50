/-
  The digest of what cooking depends on, after an edit in a parent registry.

  A registry that is edited forgets its digests; a registry that falls back to it does not.  So the
  digest of the dependencies, taken through a child registry before and after an edit in a parent,
  follows the edit only as far as the child has forgotten.  The law, for a child whose digests were
  current at the first call and for an edit that changes a text that it sees:

      the two digests differ  ↔  the includes of an asked file lead to the edited one, and on the
                                 way there is no file whose digest the child remembers

  from right to left unless two hashed strings collide, from left to right unless the second call
  evicts a digest.

  1. `Given`: what a call gives for a file is remembered, or computed from what is given for its
     includes.  Along a way without remembered digests everything is computed, so equal digests mean
     equal texts (`text_eq_of_exposed`).
  2. While nothing is evicted, only what is not remembered is computed.  So files from which no such
     way leads to the edited one keep their old digests (`cookDigest_eq_of_not_exposed`).
-/
import KernelGraph.Proofs.DigestRecursion
import KernelGraph.Session.Cook

namespace KernelGraph

/-- What is asked for, in order: formats and paths. -/
def CookArgs.asked (args : CookArgs) : List (String × String) :=
  args.formats.flatMap fun f => args.paths.map fun p => (f, p)

namespace FileStore

open Relation

/-- The digest that a registry remembers. -/
def remembered? (fs : FileStore) (f : Nat) (key : DigestKey) : Option Digest :=
  (fs.registry f).digests.value? key

/-! ## What a call gives -/

/-- A digest that may be given for a file, when a call begins with the remembered ones: one of
    these, or one computed from what is given for the includes. -/
inductive Given (remembered? : DigestKey → Option Digest) (source? : String → Option String)
    (format : String) : String → Digest → Prop
  | remembered {path : String} {d : Digest} (stored : remembered? ⟨path, format⟩ = some d) :
      Given remembered? source? format path d
  | computed {path text : String} {ds : List Digest} (source : source? path = some text)
      (beneath : List.Forall₂ (Given remembered? source? format) (included text) ds) :
      Given remembered? source? format path (message format text ds).sum

theorem inherited_given (remembered? : DigestKey → Option Digest)
    (source? : String → Option String) :
    Inherited source? fun key d => Given remembered? source? key.format key.path d :=
  fun _ _ _ _ htext hds => .computed htext hds

/-- A registry that falls back to another one exists. -/
theorem FallsBackTo.lt_size {fs : FileStore} {f g : Nat} (h : fs.FallsBackTo f g) :
    f < fs.registries.size := by
  by_contra hle
  obtain ⟨p, hp, _⟩ := TransGen.head'_iff.1 h
  rw [registry, Array.getD_eq_getD_getElem?, Array.getElem?_eq_none (Nat.not_lt.1 hle)] at hp
  exact (List.not_mem_nil hp.1).elim

theorem size_register {fs fs' : FileStore} {id : Nat} {path text : String}
    (h : fs.register id path text = .ok fs') : fs'.registries.size = fs.registries.size := by
  rw [register] at h
  split at h
  · cases h
    exact Array.size_modify
  · cases h

/-- A way over includes from one file to another, with no remembered digest on it. -/
def Exposed (remembered? : DigestKey → Option Digest) (source? : String → Option String)
    (format path path' : String) : Prop :=
  ReflTransGen (fun p q => remembered? ⟨p, format⟩ = none ∧ Includes source? p q) path path' ∧
    remembered? ⟨path', format⟩ = none

/-- A string that is hashed for the file at `path`, from digests that its includes are given. -/
def HashedFrom (source? : String → Option String) (G : String → Digest → Prop)
    (format path : String) (m : ByteArray) : Prop :=
  ∃ text ds, source? path = some text ∧ List.Forall₂ G (included text) ds ∧
    m = (message format text ds).content

section
variable {source? source?' : String → Option String} {remembered? : DigestKey → Option Digest}
  {format : String}

/-- One file that has a digest before, and is given the same one without its being remembered. -/
theorem text_eq_of_given {path : String} {d : Digest} (h : HasDigest source? format path d)
    (h' : Given remembered? source?' format path d) (hnone : remembered? ⟨path, format⟩ = none) :
    (∃ m m', HashedFrom source? (HasDigest source? format) format path m ∧
      HashedFrom source?' (Given remembered? source?' format) format path m' ∧
      Digest.Collide m m') ∨
    ∃ text, source? path = some text ∧ source?' path = some text ∧ ∀ p ∈ included text,
      ∃ e, HasDigest source? format p e ∧ Given remembered? source?' format p e := by
  obtain ⟨text, ds, htext, hds, rfl⟩ := hasDigest_iff.1 h
  generalize hsum : (message format text ds).sum = d at h'
  cases h' with
  | remembered hstored =>
    rw [hnone] at hstored
    cases hstored
  | @computed _ text' ds' htext' hds' =>
    rcases Digest.collide_or_eq hsum with hcollide | hsame
    · exact Or.inl ⟨_, _, ⟨text, ds, htext, hds, rfl⟩, ⟨text', ds', htext', hds', rfl⟩, hcollide⟩
    · right
      obtain ⟨rfl, rfl⟩ := message_injective hds.length_eq.symm hds'.length_eq.symm hsame
      refine ⟨text, htext, htext', fun p hp => ?_⟩
      obtain ⟨i, hi, rfl⟩ := List.getElem_of_mem hp
      have hi' : i < ds.length := hds.length_eq ▸ hi
      exact ⟨ds[i], hds.get hi hi', hds'.get hi hi'⟩

/-- **Equal digests along a way without remembered ones** mean equal texts, unless two strings that
    are hashed for one file on the way collide. -/
theorem text_eq_of_exposed {path path' : String} {d : Digest}
    (h : HasDigest source? format path d) (h' : Given remembered? source?' format path d)
    (hexposed : Exposed remembered? source?' format path path') :
    (∃ p m m', Reaches source? path p ∧ Reaches source?' path p ∧
      HashedFrom source? (HasDigest source? format) format p m ∧
      HashedFrom source?' (Given remembered? source?' format) format p m' ∧
      Digest.Collide m m') ∨ source? path' = source?' path' := by
  obtain ⟨hway, hend⟩ := hexposed
  induction hway using ReflTransGen.head_induction_on generalizing d with
  | refl =>
    rcases text_eq_of_given h h' hend with ⟨m, m', hm, hm', hcollide⟩ | ⟨text, ht, ht', _⟩
    · exact Or.inl ⟨path', m, m', .refl, .refl, hm, hm', hcollide⟩
    · exact Or.inr (ht.trans ht'.symm)
  | @head b c hstep _ ih =>
    obtain ⟨hnone, text₀, htext₀, hmem⟩ := hstep
    rcases text_eq_of_given h h' hnone with ⟨m, m', hm, hm', hcollide⟩ | ⟨text, ht, ht', hall⟩
    · exact Or.inl ⟨b, m, m', .refl, .refl, hm, hm', hcollide⟩
    · obtain rfl : text = text₀ := Option.some.inj (ht'.symm.trans htext₀)
      obtain ⟨e, he, he'⟩ := hall c hmem
      rcases ih he he' with ⟨p, m, m', hp, hp', hclash⟩ | hsame
      · exact Or.inl ⟨p, m, m', .head ⟨text, ht, hmem⟩ hp, .head ⟨text, ht', hmem⟩ hp', hclash⟩
      · exact Or.inr hsame

end

/-! ## Digests without evictions -/

/-- The cache still has everything that was remembered. -/
def Retains (remembered? : DigestKey → Option Digest) (c : DigestCache) : Prop :=
  ∀ key d, remembered? key = some d → c.value? key = some d

theorem Retains.keeps {remembered? : DigestKey → Option Digest} {c c' : DigestCache}
    (h : Retains remembered? c) (hkeeps : c.Keeps c') (hquiet : c'.evictions = c.evictions) :
    Retains remembered? c' :=
  fun key d hd => hkeeps.value? hquiet key d (h key d hd)

/-- A property that a digest has if the digests of the includes have it, for files whose digest is
    not remembered. -/
def InheritedPast (remembered? : DigestKey → Option Digest) (source? : String → Option String)
    (D : DigestKey → Digest → Prop) : Prop :=
  ∀ format path text ds, remembered? ⟨path, format⟩ = none → source? path = some text →
    List.Forall₂ (fun p => D ⟨p, format⟩) (included text) ds →
    D ⟨path, format⟩ (message format text ds).sum

section
variable {source? : String → Option String} {remembered? : DigestKey → Option Digest}
  {format : String} {D : DigestKey → Digest → Prop}

theorem holds_true {c : DigestCache} (h : c.Holds D) : c.Holds fun _ _ => True :=
  h.mono fun _ _ _ => trivial

theorem inherited_true : Inherited source? fun _ _ => True := fun _ _ _ _ _ _ => trivial

theorem writeDigests_keeps
    {digest : String → DigestCache → Except Include.Error Digest × DigestCache}
    (hstep : ∀ p c, c.Holds (fun _ _ => True) →
      (digest p c).2.Holds (fun _ _ => True) ∧ c.Keeps (digest p c).2)
    (ps : List String) (h : Hasher) (c : DigestCache) (hc : c.Holds fun _ _ => True) :
    c.Keeps (writeDigests digest ps h c).2 :=
  (writeDigests_kept (P := fun c' => c'.Holds (fun _ _ => True) ∧ c.Keeps c')
    (fun p c' hc' => ⟨(hstep p c' hc'.1).1, hc'.2.trans (hstep p c' hc'.1).2⟩) ps h
    ⟨hc, .refl c⟩).2

theorem compute_keeps {depth : Nat} {chain : List String} (path : String)
    (hstep : ∀ p c, c.Holds (fun _ _ => True) →
      (digestFile source? format depth (chain ++ [path]) p c).2.Holds (fun _ _ => True) ∧
        c.Keeps (digestFile source? format depth (chain ++ [path]) p c).2)
    (c : DigestCache) (hc : c.Holds fun _ _ => True) :
    c.Keeps (compute source? format depth chain path c).2 :=
  (compute_kept (P := fun c' => c'.Holds (fun _ _ => True) ∧ c.Keeps c') path
    (fun p c' hc' => ⟨(hstep p c' hc'.1).1, hc'.2.trans (hstep p c' hc'.1).2⟩) ⟨hc, .refl c⟩).2

/-- Taking a digest loses others to evictions only. -/
theorem digestFile_keeps (source? : String → Option String) (format : String) (depth : Nat)
    (chain : List String) (path : String) (c : DigestCache) (hc : c.Holds fun _ _ => True) :
    (digestFile source? format depth chain path c).2.Holds (fun _ _ => True) ∧
      c.Keeps (digestFile source? format depth chain path c).2 := by
  have hholds := fun d chain p => digestFile_holds (@inherited_true source?) format d chain p
  refine ⟨(hholds depth chain path c hc).1, ?_⟩
  induction depth generalizing chain path c with
  | zero => exact .refl c
  | succ depth ih =>
    rw [digestFile_succ]
    split
    · exact .refl c
    · refine hc.keeps_getOrCreate _ fun c hc => ?_
      have hstep := hholds depth (chain ++ [path])
      exact ⟨(compute_holds inherited_true hstep rfl c hc).1,
        compute_keeps path (fun p c hc => ⟨(hstep p c hc).1, ih (chain ++ [path]) p c hc⟩) c hc⟩

theorem writeDigests_of_quiet
    {digest : String → DigestCache → Except Include.Error Digest × DigestCache}
    (hkeeps : ∀ p c, c.Holds (fun _ _ => True) →
      (digest p c).2.Holds (fun _ _ => True) ∧ c.Keeps (digest p c).2)
    (hstep : ∀ p c, Retains remembered? c → c.Holds D → (digest p c).2.evictions = c.evictions →
      (digest p c).2.Holds D ∧ ∀ d, (digest p c).1 = .ok d → D ⟨p, format⟩ d)
    (ps : List String) (h : Hasher) (c : DigestCache) (hr : Retains remembered? c) (hc : c.Holds D)
    (hquiet : (writeDigests digest ps h c).2.evictions = c.evictions) :
    (writeDigests digest ps h c).2.Holds D ∧
      ∀ h', (writeDigests digest ps h c).1 = .ok h' →
        ∃ ds, List.Forall₂ (fun p => D ⟨p, format⟩) ps ds ∧ h' = ds.foldl Hasher.writeDigest h := by
  induction ps generalizing h c with
  | nil =>
    refine ⟨hc, fun h' heq => ⟨[], .nil, ?_⟩⟩
    cases heq
    rfl
  | cons p ps ih =>
    obtain ⟨htrue, hfirst⟩ := hkeeps p c (holds_true hc)
    have hspec := hstep p c hr hc
    rw [writeDigests] at hquiet ⊢
    split at hquiet
    · rename_i e c' heq
      rw [heq] at hspec
      exact ⟨(hspec hquiet).1, fun h' heq => by cases heq⟩
    · rename_i d c' heq
      rw [heq] at hspec htrue hfirst
      -- neither the first digest nor the rest evict
      have hrest := writeDigests_keeps hkeeps ps (h.writeDigest d) c' htrue
      have hle := hfirst.evictions
      have hle' := hrest.evictions
      have hsame : c'.evictions = c.evictions := by dsimp only at hle; omega
      obtain ⟨hholds, hdigest⟩ := hspec hsame
      obtain ⟨hholds', hds⟩ := ih (h.writeDigest d) c' (hr.keeps hfirst hsame) hholds (by omega)
      refine ⟨hholds', fun h' heq' => ?_⟩
      obtain ⟨ds, hforall, hfold⟩ := hds h' heq'
      exact ⟨d :: ds, .cons (hdigest d rfl) hforall, hfold⟩

theorem compute_of_quiet (hD : InheritedPast remembered? source? D) {depth : Nat}
    {chain : List String} (path : String) (hnew : remembered? ⟨path, format⟩ = none)
    (hstep : ∀ p c, Retains remembered? c → c.Holds D →
      (digestFile source? format depth (chain ++ [path]) p c).2.evictions = c.evictions →
      (digestFile source? format depth (chain ++ [path]) p c).2.Holds D ∧
        ∀ d, (digestFile source? format depth (chain ++ [path]) p c).1 = .ok d → D ⟨p, format⟩ d)
    {c : DigestCache} (hr : Retains remembered? c) (hc : c.Holds D)
    (hquiet : (compute source? format depth chain path c).2.evictions = c.evictions) :
    (compute source? format depth chain path c).2.Holds D ∧
      ∀ d, (compute source? format depth chain path c).1 = .ok d → D ⟨path, format⟩ d := by
  rw [compute] at hquiet ⊢
  cases htext : source? path with
  | none => exact ⟨hc, fun d h => by cases h⟩
  | some text =>
    rw [htext] at hquiet
    have hwrite := writeDigests_of_quiet
      (digestFile_keeps source? format depth (chain ++ [path])) hstep (included text)
      ((Hasher.write {} format).write text) c hr hc
    dsimp only at hquiet ⊢
    split at hquiet
    · rename_i e c' heq
      rw [heq] at hwrite
      exact ⟨(hwrite hquiet).1, fun d h => by cases h⟩
    · rename_i h c' heq
      rw [heq] at hwrite
      obtain ⟨hholds, hds⟩ := hwrite hquiet
      refine ⟨hholds, fun d hd => ?_⟩
      cases hd
      obtain ⟨ds, hforall, rfl⟩ := hds h rfl
      exact hD format path text ds hnew htext hforall

/-- **What is inherited past the remembered digests is kept** while nothing is evicted. -/
theorem digestFile_of_quiet (hD : InheritedPast remembered? source? D) (format : String)
    (depth : Nat) (chain : List String) (path : String) (c : DigestCache)
    (hr : Retains remembered? c) (hc : c.Holds D)
    (hquiet : (digestFile source? format depth chain path c).2.evictions = c.evictions) :
    (digestFile source? format depth chain path c).2.Holds D ∧
      ∀ d, (digestFile source? format depth chain path c).1 = .ok d → D ⟨path, format⟩ d := by
  induction depth generalizing chain path c with
  | zero => exact ⟨hc, fun d h => by cases h⟩
  | succ depth ih =>
    rw [digestFile_succ] at hquiet ⊢
    split
    · exact ⟨hc, fun d h => by cases h⟩
    · rename_i hfresh
      rw [if_neg hfresh] at hquiet
      have hkeeps := digestFile_keeps source? format depth (chain ++ [path])
      refine hc.getOrCreate_of_quiet _ (fun c hc => compute_keeps path hkeeps c (holds_true hc)) ?_
        hquiet
      intro c' hc' hkept hnone hquiet'
      have hr' : Retains remembered? c' := fun key d hd => hkept key d (hr key d hd)
      have hnew : remembered? ⟨path, format⟩ = none := by
        cases hstored : remembered? ⟨path, format⟩ with
        | none => rfl
        | some d =>
          rw [hr _ d hstored] at hnone
          cases hnone
      exact compute_of_quiet hD path hnew (ih (chain ++ [path])) hr' hc' hquiet'

end

/-! ## The digests of a store -/

section
variable {fs : FileStore} {f : Nat} {D : DigestKey → Digest → Prop}

theorem size_digest (fs : FileStore) (f : Nat) (path format : String) :
    (fs.digest f path format).2.registries.size = fs.registries.size := Array.size_modify

theorem digests_digest (hf : f < fs.registries.size) (path format : String) :
    ((fs.digest f path format).2.registry f).digests =
      (digestFile (fs.source? f) format (fs.known.length + 2) [] path
        (fs.registry f).digests).2 := by
  show ((fs.modify f _).registry f).digests = _
  rw [registry_modify, if_pos ⟨rfl, hf⟩]
  rfl

/-- What is inherited holds of the digests that a registry gives and remembers. -/
theorem digest_holds (hD : Inherited (fs.source? f) D) (hf : f < fs.registries.size)
    (hc : (fs.registry f).digests.Holds D) (path format : String) :
    ((fs.digest f path format).2.registry f).digests.Holds D ∧
      ∀ d, (fs.digest f path format).1 = .ok d → D ⟨path, format⟩ d := by
  rw [digests_digest hf]
  exact digestFile_holds hD format (fs.known.length + 2) [] path _ hc

/-- A digest that was given is remembered. -/
theorem remembered?_digest (hf : f < fs.registries.size) (hc : (fs.registry f).digests.Holds D)
    {path format : String} {d : Digest} (hok : (fs.digest f path format).1 = .ok d) :
    (fs.digest f path format).2.remembered? f ⟨path, format⟩ = some d := by
  rw [remembered?, digests_digest hf]
  have hok' : (digestFile (fs.source? f) format (fs.known.length + 2) [] path
      (fs.registry f).digests).1 = .ok d := hok
  rw [digestFile_succ, if_neg (by simp)] at hok' ⊢
  have hstep := digestFile_holds (@inherited_true (fs.source? f)) format (fs.known.length + 1)
    ([] ++ [path])
  exact (holds_true hc).value?_getOrCreate _
    (fun c hc => (compute_holds inherited_true hstep rfl c hc).1) hok'

/-- A digest that is remembered is given, and nothing is evicted for it. -/
theorem digest_of_remembered? {path format : String} {d : Digest} (hf : f < fs.registries.size)
    (h : fs.remembered? f ⟨path, format⟩ = some d) : (fs.digest f path format).1 = .ok d ∧
      ((fs.digest f path format).2.registry f).digests.evictions =
        (fs.registry f).digests.evictions := by
  rw [digests_digest hf]
  show (digestFile (fs.source? f) format (fs.known.length + 1 + 1) [] path
    (fs.registry f).digests).1 = .ok d ∧ _
  rw [digestFile_succ, if_neg (by simp)]
  exact Lru.getOrCreate_of_value? h

/-- Without evictions, what is inherited past the remembered digests holds of those given. -/
theorem digest_of_quiet {remembered? : DigestKey → Option Digest}
    (hD : InheritedPast remembered? (fs.source? f) D) (hf : f < fs.registries.size)
    (hr : Retains remembered? (fs.registry f).digests) (hc : (fs.registry f).digests.Holds D)
    {path format : String} (hquiet : ((fs.digest f path format).2.registry f).digests.evictions =
      (fs.registry f).digests.evictions) :
    Retains remembered? ((fs.digest f path format).2.registry f).digests ∧
      ((fs.digest f path format).2.registry f).digests.Holds D ∧
      ∀ d, (fs.digest f path format).1 = .ok d → D ⟨path, format⟩ d := by
  rw [digests_digest hf] at hquiet ⊢
  have hkeeps := (digestFile_keeps (fs.source? f) format (fs.known.length + 2) [] path _
    (holds_true hc)).2
  exact ⟨hr.keeps hkeeps hquiet,
    digestFile_of_quiet hD format (fs.known.length + 2) [] path _ hr hc hquiet⟩

end

end FileStore

namespace Session

open FileStore

section
variable {fs : FileStore} {f : Nat} {D : DigestKey → Digest → Prop}

theorem size_digestPaths (asked : List (String × String)) (h : Hasher) (fs : FileStore) :
    (digestPaths f asked h fs).2.registries.size = fs.registries.size := by
  induction asked generalizing h fs with
  | nil => rfl
  | cons k rest ih =>
    obtain ⟨format, path⟩ := k
    have hsize := size_digest fs f path format
    rw [digestPaths]
    split
    · rename_i heq
      rw [heq] at hsize
      exact hsize
    · rename_i heq
      rw [heq] at hsize
      exact (ih _ _).trans hsize

/-- Digesting a list of files: sources stay as they are, what is inherited is kept, and the hasher
    gets one digest for each file. -/
theorem digestPaths_holds (asked : List (String × String)) (h : Hasher)
    (hD : Inherited (fs.source? f) D) (hf : f < fs.registries.size)
    (hc : (fs.registry f).digests.Holds D) :
    (digestPaths f asked h fs).2.source? = fs.source? ∧
      ((digestPaths f asked h fs).2.registry f).digests.Holds D ∧
      ∀ h', (digestPaths f asked h fs).1 = .ok h' →
        ∃ ds, List.Forall₂ (fun k => D ⟨k.2, k.1⟩) asked ds ∧
          h' = ds.foldl Hasher.writeDigest h := by
  induction asked generalizing h fs with
  | nil =>
    refine ⟨rfl, hc, fun h' hok => ⟨[], .nil, ?_⟩⟩
    cases hok
    rfl
  | cons k rest ih =>
    obtain ⟨format, path⟩ := k
    obtain ⟨hholds, hdigest⟩ := digest_holds hD hf hc path format
    have hsource := @source?_digest fs f path format
    have hsize := size_digest fs f path format
    rw [digestPaths]
    split
    · rename_i heq
      rw [heq] at hholds hsource
      exact ⟨hsource, hholds, fun h' hok => by cases hok⟩
    · rename_i d fs' heq
      rw [heq] at hholds hdigest hsource hsize
      dsimp only at hholds hsource hsize
      obtain ⟨hsource', hholds', hds⟩ := ih (h.writeDigest d) (by rw [hsource]; exact hD)
        (by rw [hsize]; exact hf) hholds
      refine ⟨hsource'.trans hsource, hholds', fun h' hok => ?_⟩
      obtain ⟨ds, hforall, hfold⟩ := hds h' hok
      exact ⟨d :: ds, .cons (hdigest d rfl) hforall, hfold⟩

theorem evictions_digestPaths (asked : List (String × String)) (h : Hasher)
    (hf : f < fs.registries.size) (hc : (fs.registry f).digests.Holds fun _ _ => True) :
    (fs.registry f).digests.evictions ≤
      ((digestPaths f asked h fs).2.registry f).digests.evictions := by
  induction asked generalizing h fs with
  | nil => exact Nat.le_refl _
  | cons k rest ih =>
    obtain ⟨format, path⟩ := k
    obtain ⟨hholds, hkeeps⟩ :=
      digestFile_keeps (fs.source? f) format (fs.known.length + 2) [] path _ hc
    have hsize := size_digest fs f path format
    rw [← digests_digest hf] at hholds hkeeps
    rw [digestPaths]
    split
    · rename_i heq
      rw [heq] at hkeeps
      exact hkeeps.evictions
    · rename_i d fs' heq
      rw [heq] at hkeeps hholds hsize
      exact Nat.le_trans hkeeps.evictions (ih _ (by rw [hsize]; exact hf) hholds)

/-- Without evictions, every digest has what is inherited past the remembered ones. -/
theorem digestPaths_of_quiet {remembered? : DigestKey → Option Digest}
    (asked : List (String × String)) (h : Hasher)
    (hD : InheritedPast remembered? (fs.source? f) D) (hf : f < fs.registries.size)
    (hr : Retains remembered? (fs.registry f).digests) (hc : (fs.registry f).digests.Holds D)
    (hquiet : ((digestPaths f asked h fs).2.registry f).digests.evictions =
      (fs.registry f).digests.evictions) {h' : Hasher}
    (hok : (digestPaths f asked h fs).1 = .ok h') :
    ∃ ds, List.Forall₂ (fun k => D ⟨k.2, k.1⟩) asked ds ∧ h' = ds.foldl Hasher.writeDigest h := by
  induction asked generalizing h fs with
  | nil =>
    cases hok
    exact ⟨[], .nil, rfl⟩
  | cons k rest ih =>
    obtain ⟨format, path⟩ := k
    obtain ⟨htrue, hkeeps⟩ :=
      digestFile_keeps (fs.source? f) format (fs.known.length + 2) [] path _ (holds_true hc)
    have hspec := @digest_of_quiet fs f D remembered? hD hf hr hc path format
    have hsource := @source?_digest fs f path format
    have hsize := size_digest fs f path format
    rw [← digests_digest hf] at htrue hkeeps
    rw [digestPaths] at hquiet hok
    split at hok
    · cases hok
    · rename_i d fs' heq
      rw [heq] at hquiet hkeeps htrue hspec hsource hsize
      dsimp only at hquiet hkeeps htrue hspec hsource hsize
      have hf' : f < fs'.registries.size := by rw [hsize]; exact hf
      -- neither this digest nor the rest evict
      have hle := hkeeps.evictions
      have hle' := evictions_digestPaths rest (h.writeDigest d) hf' htrue
      obtain ⟨hr', hc', hdigest⟩ := hspec (by omega)
      obtain ⟨ds, hforall, hfold⟩ := ih (h.writeDigest d) (by rw [hsource]; exact hD) hf' hr' hc'
        (by omega) hok
      exact ⟨d :: ds, .cons (hdigest d rfl) hforall, hfold⟩

/-! ## Before and after an edit -/

theorem cookDigest_eq_ok {args : CookArgs} {v : Digest} {fs' : FileStore}
    (h : cookDigest fs f args = (.ok v, fs')) :
    fs' = (digestPaths f args.asked {} fs).2 ∧
      ∃ hasher, (digestPaths f args.asked {} fs).1 = .ok hasher ∧ v = hasher.sum := by
  rw [cookDigest] at h
  split at h
  · cases h
  · obtain ⟨hmap, hfs⟩ := Prod.mk.inj h
    refine ⟨hfs.symm, ?_⟩
    change Except.map Hasher.sum (digestPaths f args.asked {} fs).1 = .ok v at hmap
    cases hasher : (digestPaths f args.asked {} fs).1 with
    | error e =>
      rw [hasher] at hmap
      cases hmap
    | ok x =>
      rw [hasher] at hmap
      cases hmap
      exact ⟨x, rfl, rfl⟩

/-- A string that is hashed for the digest of the dependencies: the digests of the files, or what is
    hashed for a file that the asked ones lead to. -/
def HashedForCook (source? : String → Option String) (G : String → String → Digest → Prop)
    (args : CookArgs) (m : ByteArray) : Prop :=
  (∃ ds, List.Forall₂ (fun k => G k.1 k.2) args.asked ds ∧
    m = (ds.foldl Hasher.writeDigest {}).content) ∨
  ∃ k ∈ args.asked, ∃ p, Reaches source? k.2 p ∧ HashedFrom source? (G k.1) k.1 p m

end

section
variable {fs fs₁ fs₂ fs₃ : FileStore} {f g : Nat} {args : CookArgs} {path text : String}
  {v v' : Digest}

/-- What the first call leaves: the sources, current digests, and one digest for each file. -/
theorem cookDigest_current (hf : f < fs.registries.size) (hcurrent : fs.Current f)
    (hfirst : cookDigest fs f args = (.ok v, fs₁)) :
    fs₁.source? = fs.source? ∧ fs₁.Current f ∧
      ∃ ds, List.Forall₂ (fun k => HasDigest (fs₁.source? f) k.1 k.2) args.asked ds ∧
        v = (ds.foldl Hasher.writeDigest {}).sum := by
  obtain ⟨rfl, hasher, hok, rfl⟩ := cookDigest_eq_ok hfirst
  obtain ⟨hsource, hholds, hds⟩ :=
    digestPaths_holds args.asked {} inherited_hasDigest hf hcurrent
  obtain ⟨ds, hforall, rfl⟩ := hds hasher hok
  rw [Current, hsource]
  exact ⟨rfl, hholds, ds, hforall, rfl⟩

/-- Digests of the same files that are hashed to the same value are the same, or collide. -/
theorem eq_of_sum_eq {ds es : List Digest}
    (h : (ds.foldl Hasher.writeDigest {}).sum = (es.foldl Hasher.writeDigest {}).sum) :
    Digest.Collide (ds.foldl Hasher.writeDigest {}).content
      (es.foldl Hasher.writeDigest {}).content ∨ ds = es := by
  rcases Digest.collide_or_eq h with hcollide | hsame
  · exact Or.inl hcollide
  · right
    have hbytes := congrArg (fun b => b.data.toList) hsame
    rw [Hasher.bytes_foldl_writeDigest, Hasher.bytes_foldl_writeDigest, List.append_right_inj]
      at hbytes
    exact Digest.flatMap_toBytes_injective hbytes

/-- **An edit shows where nothing is remembered.** -/
theorem cookDigest_ne_of_exposed (hf : f < fs₂.registries.size)
    (hholds : (fs₂.registry f).digests.Holds fun _ _ => True) {ds : List Digest}
    (hds : List.Forall₂ (fun k => HasDigest (fs₁.source? f) k.1 k.2) args.asked ds)
    (hv : v = (ds.foldl Hasher.writeDigest {}).sum)
    (hseen : fs₂.source? f path ≠ fs₁.source? f path)
    (hsecond : cookDigest fs₂ f args = (.ok v', fs₃))
    (hexposed : ∃ k ∈ args.asked, Exposed (fs₂.remembered? f) (fs₂.source? f) k.1 k.2 path) :
    (∃ m m', HashedForCook (fs₁.source? f) (HasDigest (fs₁.source? f)) args m ∧
      HashedForCook (fs₂.source? f) (Given (fs₂.remembered? f) (fs₂.source? f)) args m' ∧
      Digest.Collide m m') ∨ v' ≠ v := by
  obtain ⟨_, hasher, hok, rfl⟩ := cookDigest_eq_ok hsecond
  have hgiven : (fs₂.registry f).digests.Holds
      fun key d => Given (fs₂.remembered? f) (fs₂.source? f) key.format key.path d := by
    obtain ⟨l, hl, _⟩ := hholds
    exact ⟨l, hl, fun key d hmem => .remembered (hl.value?_eq_some.2 hmem)⟩
  obtain ⟨_, _, hgives⟩ := digestPaths_holds args.asked {} (inherited_given _ _) hf hgiven
  obtain ⟨ds', hds', rfl⟩ := hgives hasher hok
  by_cases hne : (ds'.foldl Hasher.writeDigest {}).sum = v
  · left
    rw [hv] at hne
    rcases eq_of_sum_eq hne.symm with hcollide | rfl
    · exact ⟨_, _, Or.inl ⟨ds, hds, rfl⟩, Or.inl ⟨ds', hds', rfl⟩, hcollide⟩
    · obtain ⟨k, hk, hway⟩ := hexposed
      obtain ⟨i, hi, rfl⟩ := List.getElem_of_mem hk
      have hi' : i < ds.length := hds.length_eq ▸ hi
      rcases text_eq_of_exposed (hds.get hi hi') (hds'.get hi hi') hway with
        ⟨p, m, m', hp, hp', hm, hm', hcollide⟩ | hsame
      · exact ⟨m, m', Or.inr ⟨_, hk, p, hp, hm⟩, Or.inr ⟨_, hk, p, hp', hm'⟩, hcollide⟩
      · exact absurd hsame.symm hseen
  · exact Or.inr hne

/-- **An edit does not show behind what is remembered**, unless that is evicted. -/
theorem cookDigest_eq_of_not_exposed (hf : f < fs₂.registries.size)
    (hholds : (fs₂.registry f).digests.Holds
      fun key d => HasDigest (fs₁.source? f) key.format key.path d)
    (hother : ∀ p ≠ path, fs₂.source? f p = fs₁.source? f p) {ds : List Digest}
    (hds : List.Forall₂ (fun k => HasDigest (fs₁.source? f) k.1 k.2) args.asked ds)
    (hv : v = (ds.foldl Hasher.writeDigest {}).sum)
    (hsecond : cookDigest fs₂ f args = (.ok v', fs₃))
    (hquiet : (fs₃.registry f).digests.evictions = (fs₂.registry f).digests.evictions)
    (hcovered : ¬ ∃ k ∈ args.asked,
      Exposed (fs₂.remembered? f) (fs₂.source? f) k.1 k.2 path) : v' = v := by
  obtain ⟨rfl, hasher, hok, rfl⟩ := cookDigest_eq_ok hsecond
  -- a file from which no such way leads to the edited one has its old digest
  let D : DigestKey → Digest → Prop := fun key d =>
    ¬ Exposed (fs₂.remembered? f) (fs₂.source? f) key.format key.path path →
      HasDigest (fs₁.source? f) key.format key.path d
  have hD : InheritedPast (fs₂.remembered? f) (fs₂.source? f) D := by
    intro format p text ds hnew htext hforall hcovered
    have hp : p ≠ path := by
      rintro rfl
      exact hcovered ⟨.refl, hnew⟩
    refine hasDigest_iff.2 ⟨text, ds, (hother p hp).symm.trans htext, ?_, rfl⟩
    refine List.forall₂_iff_get.2 ⟨hforall.length_eq, fun i hi hi' => ?_⟩
    refine hforall.get hi hi' fun hexposed =>
      hcovered ⟨.head ⟨hnew, text, htext, ?_⟩ hexposed.1, hexposed.2⟩
    exact List.getElem_mem hi
  have hr : Retains (fs₂.remembered? f) (fs₂.registry f).digests := fun _ _ h => h
  obtain ⟨ds', hds', rfl⟩ := digestPaths_of_quiet args.asked {} hD hf hr
    (hholds.mono fun _ _ h _ => h) hquiet hok
  have hsame : ds' = ds := by
    have hold : List.Forall₂ (fun k => HasDigest (fs₁.source? f) k.1 k.2) args.asked ds' := by
      refine List.forall₂_iff_get.2 ⟨hds'.length_eq,
        fun i hi hi' => hds'.get hi hi' fun hexposed => ?_⟩
      exact hcovered ⟨_, List.getElem_mem hi, hexposed⟩
    have hunique : Relator.RightUnique fun (k : String × String) =>
        HasDigest (fs₁.source? f) k.1 k.2 := fun _ _ _ h h' => h.unique h'
    exact List.right_unique_forall₂' hunique hold hds
  rw [hv, hsame]

/-- **When an edit in a parent registry shows** in the digest of the dependencies.  The registry's
    digests were current at the first call; the edit, in a registry that it falls back to, changes a
    text that it sees; both calls succeed.  The digests differ, collisions aside, if the includes of
    an asked file lead to the edited one past every remembered digest; and if the second call evicts
    nothing, they differ only then. -/
theorem cookDigest_ne_iff_exposed (hcurrent : fs.Current f)
    (hfirst : cookDigest fs f args = (.ok v, fs₁))
    (hedit : fs₁.register g path text = .ok fs₂) (habove : fs₁.FallsBackTo f g)
    (hseen : fs₂.source? f path ≠ fs₁.source? f path)
    (hsecond : cookDigest fs₂ f args = (.ok v', fs₃)) :
    ((∃ k ∈ args.asked, Exposed (fs₂.remembered? f) (fs₂.source? f) k.1 k.2 path) →
      (∃ m m', HashedForCook (fs₁.source? f) (HasDigest (fs₁.source? f)) args m ∧
        HashedForCook (fs₂.source? f) (Given (fs₂.remembered? f) (fs₂.source? f)) args m' ∧
        Digest.Collide m m') ∨ v' ≠ v) ∧
    (v' ≠ v → (fs₃.registry f).digests.evictions = (fs₂.registry f).digests.evictions →
      ∃ k ∈ args.asked, Exposed (fs₂.remembered? f) (fs₂.source? f) k.1 k.2 path) := by
  have hf₁ : f < fs₁.registries.size := habove.lt_size
  have hf : f < fs.registries.size := by
    rw [(cookDigest_eq_ok hfirst).1, size_digestPaths] at hf₁
    exact hf₁
  have hf₂ : f < fs₂.registries.size := by rwa [size_register hedit]
  obtain ⟨_, hcurrent₁, ds, hds, hv⟩ := cookDigest_current hf hcurrent hfirst
  -- the edit leaves the registry's own digests alone
  have hkept : fs₂.registry f = fs₁.registry f :=
    (registry_register hedit f).2 (Nat.ne_of_gt habove.lt)
  have hholds : (fs₂.registry f).digests.Holds
      fun key d => HasDigest (fs₁.source? f) key.format key.path d := by
    rw [hkept]
    exact hcurrent₁
  constructor
  · exact cookDigest_ne_of_exposed hf₂ (holds_true hholds) hds hv hseen hsecond
  · intro hne hquiet
    by_contra hcovered
    exact hne (cookDigest_eq_of_not_exposed hf₂ hholds
      (fun p hp => source?_register hedit hp f) hds hv hsecond hquiet hcovered)

end

/-! ## An edit that does not show -/

/-- The file, for one format. -/
def sharedArgs : CookArgs := { version := cookVersion, formats := ["wgsl"], paths := ["/a.wgsl"] }

/-- The digest of the file before the edit, and what it is after it. -/
def sharedDigest (text : String) : Digest := (message "wgsl" text []).sum

/-- The store after the first call. -/
def sharedAsked : FileStore := (sharedFiles.digest 1 "/a.wgsl" "wgsl").2

/-- The store after the edit in the first registry. -/
def sharedEdited : FileStore := sharedAsked.modify 0 fun r =>
  { r with sources := putAssoc "/a.wgsl" "2" r.sources, digests := r.digests.clear }

theorem register_shared : sharedAsked.register 0 "/a.wgsl" "2" = .ok sharedEdited := by
  rw [FileStore.register, if_pos (by decide)]
  rfl

theorem source?_sharedAsked : sharedAsked.source? 1 = sharedFiles.source? 1 := by
  rw [sharedAsked, source?_digest]

theorem registry_sharedEdited : sharedEdited.registry 1 = sharedAsked.registry 1 :=
  (registry_register register_shared 1).2 (by decide)

theorem registry_sharedAsked : (sharedAsked.registry 1).sources = [] ∧
    (sharedAsked.registry 1).parents = [0] := registry_digest "/a.wgsl" "wgsl" 1

theorem source?_sharedEdited : sharedEdited.source? 1 "/a.wgsl" = some "2" := by
  obtain ⟨hsources, hparents⟩ := registry_sharedAsked
  have hsize : 0 < sharedAsked.registries.size := by
    rw [sharedAsked, size_digest]
    decide
  rw [← registry_sharedEdited] at hsources hparents
  rw [source?_of_parent (by rw [hsources]; rfl) hparents Nat.zero_lt_one]
  exact source?_register_self register_shared hsize

theorem fallsBackTo_shared : sharedAsked.FallsBackTo 1 0 := by
  refine .single ⟨?_, Nat.zero_lt_one⟩
  rw [registry_sharedAsked.2]
  exact List.mem_singleton_self 0

theorem digest_shared : (sharedFiles.digest 1 "/a.wgsl" "wgsl").1 = .ok (sharedDigest "1") :=
  history_shared.current.digest_eq_ok_iff.2 (hasDigest_leaf source?_shared (by decide))

/-- The second registry remembers the digest from the first call. -/
theorem remembered?_shared :
    sharedEdited.remembered? 1 ⟨"/a.wgsl", "wgsl"⟩ = some (sharedDigest "1") := by
  rw [remembered?, registry_sharedEdited]
  exact remembered?_digest (by decide) history_shared.current digest_shared

theorem cookDigest_single {fs fs' : FileStore} {d : Digest}
    (h : fs.digest 1 "/a.wgsl" "wgsl" = (.ok d, fs')) :
    cookDigest fs 1 sharedArgs = (.ok (Hasher.writeDigest {} d).sum, fs') := by
  rw [cookDigest, if_neg (by decide)]
  show (Except.map Hasher.sum (digestPaths 1 [("wgsl", "/a.wgsl")] {} fs).1,
    (digestPaths 1 [("wgsl", "/a.wgsl")] {} fs).2) = _
  rw [digestPaths, h]
  rfl

theorem cookDigest_shared :
    cookDigest sharedFiles 1 sharedArgs =
      (.ok (Hasher.writeDigest {} (sharedDigest "1")).sum, sharedAsked) :=
  cookDigest_single (Prod.ext digest_shared rfl)

theorem size_sharedEdited : 1 < sharedEdited.registries.size := by
  rw [size_register register_shared, sharedAsked, size_digest]
  decide

theorem cookDigest_sharedEdited :
    cookDigest sharedEdited 1 sharedArgs =
      (.ok (Hasher.writeDigest {} (sharedDigest "1")).sum,
        (sharedEdited.digest 1 "/a.wgsl" "wgsl").2) :=
  cookDigest_single (Prod.ext (digest_of_remembered? size_sharedEdited remembered?_shared).1 rfl)

theorem source?_sharedEdited_ne :
    sharedEdited.source? 1 "/a.wgsl" ≠ sharedAsked.source? 1 "/a.wgsl" := by
  rw [source?_sharedEdited, source?_sharedAsked, source?_shared]
  decide

/-- The remembered digest hides the edit. -/
theorem not_exposed_shared : ¬ ∃ k ∈ sharedArgs.asked,
    Exposed (sharedEdited.remembered? 1) (sharedEdited.source? 1) k.1 k.2 "/a.wgsl" := by
  rintro ⟨k, hk, hway⟩
  obtain rfl : k = ("wgsl", "/a.wgsl") := List.mem_singleton.1 hk
  have hend := hway.2
  rw [remembered?_shared] at hend
  cases hend

/-- A parent registry gets a new text for a file, and the digest through the child stays. -/
theorem cookDigest_unchanged_shared :
    ∃ v fs₃, cookDigest sharedFiles 1 sharedArgs = (.ok v, sharedAsked) ∧
      sharedAsked.register 0 "/a.wgsl" "2" = .ok sharedEdited ∧
      sharedEdited.source? 1 "/a.wgsl" ≠ sharedAsked.source? 1 "/a.wgsl" ∧
      cookDigest sharedEdited 1 sharedArgs = (.ok v, fs₃) := by
  obtain ⟨v', fs₃, hsecond⟩ : ∃ v' fs₃, cookDigest sharedEdited 1 sharedArgs = (.ok v', fs₃) :=
    ⟨_, _, cookDigest_sharedEdited⟩
  have hquiet :
      (fs₃.registry 1).digests.evictions = (sharedEdited.registry 1).digests.evictions := by
    obtain rfl : (sharedEdited.digest 1 "/a.wgsl" "wgsl").2 = fs₃ :=
      (Prod.mk.inj (cookDigest_sharedEdited.symm.trans hsecond)).2
    exact (digest_of_remembered? size_sharedEdited remembered?_shared).2
  have honly := (cookDigest_ne_iff_exposed history_shared.current cookDigest_shared register_shared
    fallsBackTo_shared source?_sharedEdited_ne hsecond).2
  have hsame : v' = (Hasher.writeDigest {} (sharedDigest "1")).sum := by
    by_contra hne
    exact not_exposed_shared (honly hne hquiet)
  exact ⟨v', fs₃, by rw [hsame]; exact cookDigest_shared, register_shared,
    source?_sharedEdited_ne, hsecond⟩

/-! ### The strings that are hashed around that edit -/

/-- The strings that either call hashes, or would hash for the file as it is now. -/
def sharedStrings : List ByteArray :=
  [(message "wgsl" "1" []).content, (message "wgsl" "2" []).content,
    (Hasher.writeDigest {} (sharedDigest "1")).content,
    (Hasher.writeDigest {} (sharedDigest "2")).content]

theorem sharedDigest_one :
    sharedDigest "1" = ⟨1606161789, 3195382276, 1149268896, 1222876272, 1443225827⟩ :=
  Digest.sha1_eq (by decide +kernel)

theorem sharedDigest_two :
    sharedDigest "2" = ⟨3459374337, 1477533979, 2074255642, 3888502088, 3803352935⟩ :=
  Digest.sha1_eq (by decide +kernel)

theorem nodup_sharedStrings : (sharedStrings.map Digest.sha1).Nodup := by
  rw [sharedStrings, sharedDigest_one, sharedDigest_two]
  exact Digest.nodup_sha1 (by decide +kernel)

theorem hashedFrom_leaf {source? : String → Option String} {G : String → Digest → Prop}
    {format path text : String} {m : ByteArray} (htext : source? path = some text)
    (hnone : included text = []) (h : HashedFrom source? G format path m) :
    m = (message format text []).content := by
  obtain ⟨text', ds, htext', hds, rfl⟩ := h
  rw [htext] at htext'
  cases htext'
  rw [hnone] at hds
  cases hds
  rfl

theorem forall₂_singleton {α β : Type} {R : α → β → Prop} {a : α} {bs : List β}
    (h : List.Forall₂ R [a] bs) : ∃ b, R a b ∧ bs = [b] := by
  cases h with
  | cons hb hnil =>
    cases hnil
    exact ⟨_, hb, rfl⟩

theorem hashed_shared {m : ByteArray}
    (h : HashedForCook (sharedAsked.source? 1) (HasDigest (sharedAsked.source? 1)) sharedArgs m ∨
      HashedForCook (sharedEdited.source? 1)
        (Given (sharedEdited.remembered? 1) (sharedEdited.source? 1)) sharedArgs m) :
    m ∈ sharedStrings := by
  have hleaf : included "1" = [] ∧ included "2" = [] := by decide
  have hcook : ∀ d, d = sharedDigest "1" ∨ d = sharedDigest "2" →
      (Hasher.writeDigest {} d).content ∈ sharedStrings := by
    rintro d (rfl | rfl)
    · exact List.mem_cons_of_mem _ (List.mem_cons_of_mem _ (List.mem_cons_self ..))
    · exact List.mem_cons_of_mem _ (List.mem_cons_of_mem _ (List.mem_cons_of_mem _
        (List.mem_cons_self ..)))
  rw [source?_sharedAsked] at h
  rcases h with (⟨ds, hds, rfl⟩ | ⟨k, hk, p, hp, hm⟩) | (⟨ds, hds, rfl⟩ | ⟨k, hk, p, hp, hm⟩)
  · obtain ⟨d, hd, rfl⟩ := forall₂_singleton hds
    exact hcook d (Or.inl (hd.unique (hasDigest_leaf source?_shared hleaf.1)))
  · obtain rfl : k = ("wgsl", "/a.wgsl") := List.mem_singleton.1 hk
    rw [reaches_leaf source?_shared hleaf.1 hp] at hm
    rw [hashedFrom_leaf source?_shared hleaf.1 hm]
    exact List.mem_cons_self ..
  · obtain ⟨d, hd, rfl⟩ := forall₂_singleton hds
    cases hd with
    | remembered hstored =>
      rw [remembered?_shared] at hstored
      exact hcook d (Or.inl (Option.some.inj hstored).symm)
    | computed hsource hbeneath =>
      rw [source?_sharedEdited] at hsource
      cases hsource
      rw [hleaf.2] at hbeneath
      cases hbeneath
      exact hcook _ (Or.inr rfl)
  · obtain rfl : k = ("wgsl", "/a.wgsl") := List.mem_singleton.1 hk
    rw [reaches_leaf source?_sharedEdited hleaf.2 hp] at hm
    rw [hashedFrom_leaf source?_sharedEdited hleaf.2 hm]
    exact List.mem_cons_of_mem _ (List.mem_cons_self ..)

/-- An edit in a parent registry that changes a file behind the arguments does not always change the
    digest of the dependencies, collisions aside. -/
theorem not_cookDigest_ne :
    ¬ ∀ (fs fs₁ fs₂ fs₃ : FileStore) (f g : Nat) (args : CookArgs) (path text : String)
      (v v' : Digest), fs.Reachable → args.formats ≠ [] →
      cookDigest fs f args = (.ok v, fs₁) → fs₁.register g path text = .ok fs₂ →
      fs₁.FallsBackTo f g → fs₂.source? f path ≠ fs₁.source? f path →
      (∃ a ∈ args.paths, Reaches (fs₁.source? f) a path) →
      cookDigest fs₂ f args = (.ok v', fs₃) →
      (∃ m m', (HashedForCook (fs₁.source? f) (HasDigest (fs₁.source? f)) args m ∨
          HashedForCook (fs₂.source? f) (Given (fs₂.remembered? f) (fs₂.source? f)) args m) ∧
        (HashedForCook (fs₁.source? f) (HasDigest (fs₁.source? f)) args m' ∨
          HashedForCook (fs₂.source? f) (Given (fs₂.remembered? f) (fs₂.source? f)) args m') ∧
        Digest.Collide m m') ∨ v' ≠ v := by
  intro h
  rcases h sharedFiles sharedAsked sharedEdited _ 1 0 sharedArgs "/a.wgsl" "2" _
    _ history_shared.reachable
    (by decide) cookDigest_shared register_shared fallsBackTo_shared source?_sharedEdited_ne
    ⟨"/a.wgsl", List.mem_singleton_self _, .refl⟩ cookDigest_sharedEdited with
    ⟨m, m', hm, hm', hdiffer, hsame⟩ | hne
  · exact hdiffer (List.inj_on_of_nodup_map nodup_sharedStrings (hashed_shared hm)
      (hashed_shared hm') hsame)
  · exact hne rfl

end Session

end KernelGraph
