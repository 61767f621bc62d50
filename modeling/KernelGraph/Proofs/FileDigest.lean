/-
  Digests of files: what the cached recursion returns.

  1. `HasDigest` says what the digest of a file is without any cache: the digest of the format, the
     text and the digests of the files that it includes.  A file has at most one digest, and none if
     an included file is missing or the includes run in a circle.
  2. A registry whose cached digests are current returns exactly these digests
     (`digest_eq_ok_iff`).  Taking digests keeps the cache current, and registering a source makes
     it so, because that empties the cache (`current_register`).
-/
import KernelGraph.Builtin
import KernelGraph.Proofs.Include
import KernelGraph.Proofs.Lru
import Mathlib.Data.List.Forall2

namespace KernelGraph

theorem toOption_eq_some_iff {ε α : Type} {x : Except ε α} {a : α} :
    x.toOption = some a ↔ x = .ok a := by
  cases x with
  | error e => simp [Except.toOption]
  | ok b => simp [Except.toOption]

theorem toOption_eq_none_iff {ε α : Type} {x : Except ε α} :
    x.toOption = none ↔ ∃ e, x = .error e := by
  cases x with
  | error e => simp [Except.toOption]
  | ok b => simp [Except.toOption]

namespace FileStore

/-- The files that a text includes, generated ones left out. -/
def included (text : String) : List String :=
  (Include.paths text).filter fun p => !VirtualPath.isGenerated p

/-- What is hashed for a file, given the digests of the files that it includes. -/
def message (format text : String) (ds : List Digest) : Hasher :=
  ds.foldl Hasher.writeDigest ((Hasher.write {} format).write text)

/-! ## Digests without a cache -/

/-- The digest of a file whose includes are nested at most `n` deep. -/
def DigestWithin (source? : String → Option String) (format : String) :
    (n : Nat) → String → Digest → Prop
  | 0, _, _ => False
  | n + 1, path, d => ∃ text ds, source? path = some text ∧
      List.Forall₂ (DigestWithin source? format n) (included text) ds ∧
      d = (message format text ds).sum

/-- The digest of a file. -/
def HasDigest (source? : String → Option String) (format path : String) (d : Digest) : Prop :=
  ∃ n, DigestWithin source? format n path d

section
variable {source? : String → Option String} {format : String}

theorem DigestWithin.mono {m n : Nat} {path : String} {d : Digest} (hmn : m ≤ n)
    (h : DigestWithin source? format m path d) : DigestWithin source? format n path d := by
  induction m generalizing n path d with
  | zero => exact h.elim
  | succ m ih =>
    obtain ⟨n, rfl⟩ : ∃ k, n = k + 1 := ⟨n - 1, by omega⟩
    obtain ⟨text, ds, htext, hds, rfl⟩ := h
    exact ⟨text, ds, htext, hds.imp fun _ _ h => ih (by omega) h, rfl⟩

theorem DigestWithin.unique {n : Nat} {path : String} {d d' : Digest}
    (h : DigestWithin source? format n path d) (h' : DigestWithin source? format n path d') :
    d = d' := by
  induction n generalizing path d d' with
  | zero => exact h.elim
  | succ n ih =>
    obtain ⟨text, ds, htext, hds, rfl⟩ := h
    obtain ⟨text', ds', htext', hds', rfl⟩ := h'
    rw [htext] at htext'
    cases htext'
    have hunique : Relator.RightUnique (DigestWithin source? format n) := fun _ _ _ h h' => ih h h'
    rw [List.right_unique_forall₂' hunique hds hds']

/-- A file has at most one digest. -/
theorem HasDigest.unique {path : String} {d d' : Digest} (h : HasDigest source? format path d)
    (h' : HasDigest source? format path d') : d = d' := by
  obtain ⟨m, h⟩ := h
  obtain ⟨n, h'⟩ := h'
  exact (h.mono (Nat.le_max_left m n)).unique (h'.mono (Nat.le_max_right m n))

/-- Finitely many digests are nested within a common depth. -/
theorem exists_digestWithin {paths : List String} {ds : List Digest}
    (h : List.Forall₂ (HasDigest source? format) paths ds) :
    ∃ n, List.Forall₂ (DigestWithin source? format n) paths ds := by
  induction h with
  | nil => exact ⟨0, .nil⟩
  | cons hd _ ih =>
    obtain ⟨m, hm⟩ := hd
    obtain ⟨n, hn⟩ := ih
    exact ⟨max m n, .cons (hm.mono (Nat.le_max_left m n))
      (hn.imp fun _ _ h => h.mono (Nat.le_max_right m n))⟩

/-- **The digest of a file** is that of the format, the text and the digests of its includes. -/
theorem hasDigest_iff {path : String} {d : Digest} : HasDigest source? format path d ↔
    ∃ text ds, source? path = some text ∧
      List.Forall₂ (HasDigest source? format) (included text) ds ∧
      d = (message format text ds).sum := by
  constructor
  · rintro ⟨n, h⟩
    cases n with
    | zero => exact h.elim
    | succ n =>
      obtain ⟨text, ds, htext, hds, rfl⟩ := h
      exact ⟨text, ds, htext, hds.imp fun _ _ h => ⟨n, h⟩, rfl⟩
  · rintro ⟨text, ds, htext, hds, rfl⟩
    obtain ⟨n, hn⟩ := exists_digestWithin hds
    exact ⟨n + 1, text, ds, htext, hn, rfl⟩

/-- A file that includes none but generated ones. -/
theorem hasDigest_leaf {path text : String} (htext : source? path = some text)
    (hnone : included text = []) :
    HasDigest source? format path (message format text []).sum :=
  hasDigest_iff.2 ⟨text, [], htext, by rw [hnone]; exact .nil, rfl⟩

/-- A kernel wrapper that includes the kernel and nothing else. -/
def bareWrapper : String := "#include \"/ComputeGraph/Generated/ComputeKernel.wgsl\"\n"

theorem included_bareWrapper : included bareWrapper = [] := by decide

theorem forall₂_exists {α β : Type} {R : α → β → Prop} {as : List α} {bs : List β}
    (h : List.Forall₂ R as bs) {a : α} (ha : a ∈ as) : ∃ b, R a b := by
  obtain ⟨i, hi, rfl⟩ := List.getElem_of_mem ha
  exact ⟨_, h.get hi (h.length_eq ▸ hi)⟩

/-! ## Digests with a cache -/

/-- A property that the digest of a file has if the digests of the files that it includes have
    it. -/
def Inherited (source? : String → Option String) (D : DigestKey → Digest → Prop) : Prop :=
  ∀ format path text ds, source? path = some text →
    List.Forall₂ (fun p => D ⟨p, format⟩) (included text) ds →
    D ⟨path, format⟩ (message format text ds).sum

/-- The cached digests are those of the files, each for the format of its key. -/
def Sound (source? : String → Option String) (c : DigestCache) : Prop :=
  c.Holds fun key d => HasDigest source? key.format key.path d

theorem inherited_hasDigest :
    Inherited source? fun key d => HasDigest source? key.format key.path d :=
  fun _ _ text ds htext hds => hasDigest_iff.2 ⟨text, ds, htext, hds, rfl⟩

section
variable {D : DigestKey → Digest → Prop}

/-- Writing the digests of a list of paths: what holds of every single digest holds of the list. -/
theorem writeDigests_holds
    {digest : String → DigestCache → Except Include.Error Digest × DigestCache}
    (hstep : ∀ p c, c.Holds D → (digest p c).2.Holds D ∧
      ∀ d, (digest p c).1 = .ok d → D ⟨p, format⟩ d)
    (ps : List String) (h : Hasher) (c : DigestCache) (hc : c.Holds D) :
    (writeDigests digest ps h c).2.Holds D ∧
      ∀ h', (writeDigests digest ps h c).1 = .ok h' →
        ∃ ds, List.Forall₂ (fun p => D ⟨p, format⟩) ps ds ∧
          h' = ds.foldl Hasher.writeDigest h := by
  induction ps generalizing h c with
  | nil =>
    refine ⟨hc, fun h' heq => ⟨[], .nil, ?_⟩⟩
    cases heq
    rfl
  | cons p ps ih =>
    obtain ⟨hholds, hdigest⟩ := hstep p c hc
    rw [writeDigests]
    split
    · rename_i e c' heq
      rw [heq] at hholds
      exact ⟨hholds, fun h' heq => by cases heq⟩
    · rename_i d c' heq
      rw [heq] at hholds hdigest
      obtain ⟨hrest, hds⟩ := ih (h.writeDigest d) c' hholds
      refine ⟨hrest, fun h' heq' => ?_⟩
      obtain ⟨ds, hforall, hfold⟩ := hds h' heq'
      exact ⟨d :: ds, .cons (hdigest d rfl) hforall, hfold⟩

/-- If no single digest fails, writing the list does not fail. -/
theorem writeDigests_ok {digest : String → DigestCache → Except Include.Error Digest × DigestCache}
    {ps : List String} (hstep : ∀ p c, c.Holds D → (digest p c).2.Holds D)
    (hok : ∀ p ∈ ps, ∀ c, c.Holds D → ∃ d, (digest p c).1 = .ok d)
    (h : Hasher) (c : DigestCache) (hc : c.Holds D) :
    ∃ h', (writeDigests digest ps h c).1 = .ok h' := by
  induction ps generalizing h c with
  | nil => exact ⟨h, rfl⟩
  | cons p ps ih =>
    have hholds := hstep p c hc
    obtain ⟨d, hd⟩ := hok p (List.mem_cons_self ..) c hc
    rw [writeDigests]
    split
    · rename_i e c' heq
      rw [heq] at hd
      cases hd
    · rename_i d' c' heq
      rw [heq] at hholds
      exact ih (fun q hq => hok q (List.mem_cons_of_mem p hq)) _ c' hholds

/-- The digest of a file that is not in the cache. -/
def compute (source? : String → Option String) (format : String) (depth : Nat)
    (chain : List String) (path : String) (c : DigestCache) :
    Except Include.Error Digest × DigestCache :=
  match source? path with
  | none => (.error (.notFound path none), c)
  | some text =>
    match writeDigests (digestFile source? format depth (chain ++ [path])) (included text)
      ((Hasher.write {} format).write text) c with
    | (.error e, c) => (.error e, c)
    | (.ok h, c) => (.ok h.sum, c)

/-- What single digests keep, a list of them keeps, -/
theorem writeDigests_kept {P : DigestCache → Prop}
    {digest : String → DigestCache → Except Include.Error Digest × DigestCache}
    (hstep : ∀ p c, P c → P (digest p c).2) (ps : List String) (h : Hasher) {c : DigestCache}
    (hc : P c) : P (writeDigests digest ps h c).2 := by
  induction ps generalizing h c with
  | nil => exact hc
  | cons p ps ih =>
    have hkept := hstep p c hc
    rw [writeDigests]
    split
    · rename_i heq
      rw [heq] at hkept
      exact hkept
    · rename_i heq
      rw [heq] at hkept
      exact ih _ hkept

/-- and so does the digest of the file that includes them. -/
theorem compute_kept {P : DigestCache → Prop} {depth : Nat} {chain : List String} (path : String)
    (hstep : ∀ p c, P c → P (digestFile source? format depth (chain ++ [path]) p c).2)
    {c : DigestCache} (hc : P c) : P (compute source? format depth chain path c).2 := by
  rw [compute]
  split
  · exact hc
  · rename_i text _
    have hkept := writeDigests_kept hstep (included text) ((Hasher.write {} format).write text) hc
    split
    · rename_i heq
      rw [heq] at hkept
      exact hkept
    · rename_i heq
      rw [heq] at hkept
      exact hkept

theorem digestFile_succ (depth : Nat) (chain : List String) (path : String) (c : DigestCache) :
    digestFile source? format (depth + 1) chain path c =
      if path ∈ chain then (.error (.cycle chain path), c)
      else c.getOrCreate ⟨path, format⟩ (compute source? format depth chain path) := rfl

theorem compute_holds (hD : Inherited source? D) {depth : Nat} {chain : List String}
    (hstep : ∀ p c, c.Holds D → (digestFile source? format depth chain p c).2.Holds D ∧
      ∀ d, (digestFile source? format depth chain p c).1 = .ok d → D ⟨p, format⟩ d)
    {chain₀ : List String} {path : String} (hchain : chain = chain₀ ++ [path]) (c : DigestCache)
    (hc : c.Holds D) :
    (compute source? format depth chain₀ path c).2.Holds D ∧
      ∀ d, (compute source? format depth chain₀ path c).1 = .ok d → D ⟨path, format⟩ d := by
  subst hchain
  rw [compute]
  split
  · exact ⟨hc, fun d h => by cases h⟩
  · rename_i text htext
    obtain ⟨hholds, hds⟩ := writeDigests_holds hstep (included text)
      ((Hasher.write {} format).write text) c hc
    split
    · rename_i e c' heq
      rw [heq] at hholds
      exact ⟨hholds, fun d h => by cases h⟩
    · rename_i h c' heq
      rw [heq] at hholds hds
      refine ⟨hholds, fun d hd => ?_⟩
      cases hd
      obtain ⟨ds, hforall, rfl⟩ := hds h rfl
      exact hD format path text ds htext hforall

/-- **What is inherited is kept**: taking a digest with a cache whose digests have such a property
    yields a digest that has it, and leaves a cache of the same kind. -/
theorem digestFile_holds (hD : Inherited source? D) (format : String) (depth : Nat)
    (chain : List String) (path : String) (c : DigestCache) (hc : c.Holds D) :
    (digestFile source? format depth chain path c).2.Holds D ∧
      ∀ d, (digestFile source? format depth chain path c).1 = .ok d → D ⟨path, format⟩ d := by
  induction depth generalizing chain path c with
  | zero => exact ⟨hc, fun d h => by cases h⟩
  | succ depth ih =>
    rw [digestFile_succ]
    split
    · exact ⟨hc, fun d h => by cases h⟩
    · have hcompute := compute_holds hD (ih (chain ++ [path])) rfl
      obtain ⟨hkeep, hvalue, _⟩ := Lru.Holds.getOrCreate hc (⟨path, format⟩ : DigestKey)
        (fun c hc => (hcompute c hc).1) fun c d hc => (hcompute c hc).2 d
      exact ⟨hkeep, hvalue⟩

end

/-- **A digest from a sound cache is the file's**, and the cache stays sound. -/
theorem digestFile_sound (source? : String → Option String) (format : String) (depth : Nat)
    (chain : List String) (path : String) (c : DigestCache) (hc : Sound source? c) :
    Sound source? (digestFile source? format depth chain path c).2 ∧
      ∀ d, (digestFile source? format depth chain path c).1 = .ok d →
        HasDigest source? format path d :=
  digestFile_holds inherited_hasDigest format depth chain path c hc

/-- Where no included file fails, the file does not fail. -/
theorem compute_ok {depth : Nat} {chain : List String} {path text : String}
    (htext : source? path = some text)
    (hchild : ∀ p ∈ included text, ∀ c, Sound source? c →
      ∃ d, (digestFile source? format depth (chain ++ [path]) p c).1 = .ok d)
    (c : DigestCache) (hc : Sound source? c) :
    ∃ d, (compute source? format depth chain path c).1 = .ok d := by
  have hstep : ∀ p c, Sound source? c →
      Sound source? (digestFile source? format depth (chain ++ [path]) p c).2 :=
    fun p c hc => (digestFile_sound source? format depth _ p c hc).1
  obtain ⟨h, hh⟩ := writeDigests_ok hstep hchild ((Hasher.write {} format).write text) c hc
  rw [compute, htext]
  dsimp only
  split
  · rename_i e c' heq
    rw [heq] at hh
    cases hh
  · exact ⟨_, rfl⟩

/-- **A file that has a digest gets it.**  The induction is on the depth of nesting; no file of the
    chain has a digest within that depth, so the file is not on the chain. -/
theorem digestFile_ok {known : List String}
    (hknown : ∀ path text, source? path = some text → path ∈ known) :
    ∀ (n depth : Nat) (chain : List String) (path : String) (d : Digest) (c : DigestCache),
      DigestWithin source? format n path d →
      (∀ q ∈ chain, ∀ d', ¬ DigestWithin source? format n q d') →
      chain.Nodup → (∀ q ∈ chain, q ∈ known) → known.length + 2 ≤ depth + chain.length →
      Sound source? c → ∃ d', (digestFile source? format depth chain path c).1 = .ok d' := by
  intro n
  induction n with
  | zero =>
    intro depth chain path d c h
    exact h.elim
  | succ n ih =>
    intro depth chain path d c h hchain hnodup hmem hdepth hc
    -- a smaller depth of nesting does, or this one is the least
    by_cases hless : ∃ d', DigestWithin source? format n path d'
    · obtain ⟨d', hd'⟩ := hless
      exact ih depth chain path d' c hd'
        (fun q hq d' hd' => hchain q hq d' (hd'.mono (Nat.le_succ n))) hnodup hmem hdepth hc
    · have hnot : path ∉ chain := fun hin => hchain path hin d h
      have hlen := Include.length_chain_le hnodup hmem
      obtain ⟨depth, rfl⟩ : ∃ k, depth = k + 1 := ⟨depth - 1, by omega⟩
      obtain ⟨text, ds, htext, hds, rfl⟩ := h
      have hnodup' := Include.nodup_snoc hnodup hnot
      have hmem' := Include.forall_mem_snoc hmem (hknown path text htext)
      have hchain' : ∀ q ∈ chain ++ [path], ∀ d', ¬ DigestWithin source? format n q d' :=
        Include.forall_mem_snoc
          (fun q hq d' hd' => hchain q hq d' (hd'.mono (Nat.le_succ n)))
          (fun d' hd' => hless ⟨d', hd'⟩)
      have hchild : ∀ p ∈ included text, ∀ c, Sound source? c →
          ∃ d', (digestFile source? format depth (chain ++ [path]) p c).1 = .ok d' := by
        intro p hp c hc
        obtain ⟨d', hd'⟩ := forall₂_exists hds hp
        exact ih depth (chain ++ [path]) p d' c hd' hchain' hnodup' hmem'
          (by rw [List.length_append, List.length_singleton]; omega) hc
      have hcompute := compute_holds inherited_hasDigest
        (digestFile_sound source? format depth (chain ++ [path])) rfl
      obtain ⟨_, _, hfail⟩ := Lru.Holds.getOrCreate hc (⟨path, format⟩ : DigestKey)
        (fun c hc => (hcompute c hc).1) fun c d hc => (hcompute c hc).2 d
      rw [digestFile_succ, if_neg hnot]
      cases hresult : (c.getOrCreate (⟨path, format⟩ : DigestKey)
        (compute source? format depth chain path)).1 with
      | ok d' => exact ⟨d', rfl⟩
      | error e =>
        obtain ⟨c', hc', he⟩ := hfail e hresult
        obtain ⟨d', hd'⟩ := compute_ok htext hchild c' hc'
        rw [hd'] at he
        cases he

end

/-! ## Registries with current digests -/

section
variable {fs fs' : FileStore} {id : Nat}

/-- The digests that a registry remembers are those of the files that it sees now. -/
def Current (fs : FileStore) (id : Nat) : Prop := Sound (fs.source? id) (fs.registry id).digests

theorem registry_modify (fs : FileStore) (id i : Nat) (f : Registry → Registry) :
    (fs.modify id f).registry i =
      if i = id ∧ id < fs.registries.size then f (fs.registry i) else fs.registry i := by
  rw [registry, registry, modify, Array.getD_eq_getD_getElem?, Array.getD_eq_getD_getElem?,
    Array.getElem?_modify]
  by_cases hi : i = id
  · subst hi
    by_cases hlt : i < fs.registries.size
    · rw [if_pos rfl, if_pos ⟨rfl, hlt⟩, Array.getElem?_eq_getElem hlt]
      rfl
    · rw [if_pos rfl, if_neg fun h => hlt h.2, Array.getElem?_eq_none (Nat.not_lt.1 hlt)]
      rfl
  · rw [if_neg (Ne.symm hi), if_neg fun h => hi h.1]

/-- The text at a path depends on what the registries have at that path. -/
theorem source?_congr {path : String} (h : ∀ i,
    (fs'.registry i).sources.lookup path = (fs.registry i).sources.lookup path ∧
      (fs'.registry i).parents = (fs.registry i).parents) :
    fs'.source? id path = fs.source? id path := by
  induction id using Nat.strongRecOn with
  | ind id ih =>
    rw [source?, source?, (h id).1, (h id).2]
    cases (fs.registry id).sources.lookup path with
    | some text => rfl
    | none =>
      dsimp only
      congr 1
      funext p
      split
      · exact ih p (by assumption)
      · rfl

/-- A registry sees its own texts. -/
theorem source?_of_lookup {path text : String}
    (h : (fs.registry id).sources.lookup path = some text) : fs.source? id path = some text := by
  rw [source?, h]

/-- A registry that has no text of its own sees that of its only parent. -/
theorem source?_of_parent {p : Nat} {path : String}
    (hown : (fs.registry id).sources.lookup path = none)
    (hparents : (fs.registry id).parents = [p]) (hlt : p < id) :
    fs.source? id path = fs.source? p path := by
  rw [source?, hown, hparents]
  dsimp only
  rw [List.findSome?_cons, dif_pos hlt, List.findSome?_nil]
  cases fs.source? p path <;> rfl

/-- Taking a digest changes neither the sources of a registry nor its parents. -/
theorem registry_digest (path format : String) (i : Nat) :
    ((fs.digest id path format).2.registry i).sources = (fs.registry i).sources ∧
      ((fs.digest id path format).2.registry i).parents = (fs.registry i).parents := by
  show ((fs.modify id _).registry i).sources = _ ∧ ((fs.modify id _).registry i).parents = _
  rw [registry_modify]
  split <;> exact ⟨rfl, rfl⟩

/-- Taking a digest changes no source. -/
theorem source?_digest (path format : String) :
    (fs.digest id path format).2.source? = fs.source? := by
  funext i p
  refine source?_congr fun j => ?_
  exact (registry_digest path format j).imp_left fun hsources => by rw [hsources]

/-- A registry sees the same sources after a digest was taken. -/
theorem resolver_digest (path format : String) :
    (fs.digest id path format).2.resolver = fs.resolver := by
  have hknown : (fs.digest id path format).2.known = fs.known := by
    have hpaths : ∀ f : Registry → Registry, (∀ r, (f r).sources = r.sources) →
        (fs.modify id f).known = fs.known := by
      intro f hf
      unfold known FileStore.modify
      rw [List.flatMap_def, List.flatMap_def]
      congr 1
      apply List.ext_getElem?
      intro k
      simp only [List.getElem?_map, Array.getElem?_toList, Array.getElem?_modify]
      split
      · rw [Option.map_map]
        simp only [Function.comp_def, hf]
      · rfl
    exact hpaths _ fun _ => rfl
  funext i
  unfold resolver
  simp only [source?_digest, hknown]

theorem lookup_putAssoc_of_ne {α : Type} {key key' : String} (value : α) (h : key' ≠ key)
    (es : List (String × α)) : (putAssoc key value es).lookup key' = es.lookup key' := by
  have hbeq : (key' == key) = false := beq_false_of_ne h
  induction es with
  | nil => rw [putAssoc, List.lookup_cons, List.lookup_nil, hbeq]
  | cons e es ih =>
    rw [putAssoc]
    split
    · rename_i heq
      rw [List.lookup_cons, List.lookup_cons, heq, hbeq]
    · rw [List.lookup_cons, List.lookup_cons, ih]

theorem lookup_putAssoc_self {α : Type} (key : String) (value : α) (es : List (String × α)) :
    (putAssoc key value es).lookup key = some value := by
  induction es with
  | nil => rw [putAssoc, List.lookup_cons, beq_self_eq_true]
  | cons e es ih =>
    rw [putAssoc]
    split
    · rw [List.lookup_cons, beq_self_eq_true]
    · rename_i hne
      rw [List.lookup_cons, beq_false_of_ne (Ne.symm hne), ih]

/-- Registering a source changes the text at its path only. -/
theorem source?_register {path text : String} (h : fs.register id path text = .ok fs')
    {p : String} (hp : p ≠ path) (i : Nat) : fs'.source? i p = fs.source? i p := by
  rw [register] at h
  split at h
  · cases h
    refine source?_congr fun j => ?_
    rw [registry_modify]
    split
    · exact ⟨lookup_putAssoc_of_ne text hp _, rfl⟩
    · exact ⟨rfl, rfl⟩
  · cases h

/-- A registered source is seen by its registry. -/
theorem source?_register_self {path text : String} (h : fs.register id path text = .ok fs')
    (hid : id < fs.registries.size) : fs'.source? id path = some text := by
  rw [register] at h
  split at h
  · cases h
    rw [source?, registry_modify, if_pos ⟨rfl, hid⟩, lookup_putAssoc_self]
  · cases h

/-- Taking digests keeps the remembered ones current. -/
theorem Current.digest (h : Current fs id) (path format : String) :
    Current (fs.digest id path format).2 id := by
  have hsound := (digestFile_sound (fs.source? id) format (fs.known.length + 2) [] path _ h).1
  rw [Current, source?_digest]
  show Sound _ ((fs.modify id _).registry id).digests
  rw [registry_modify]
  split
  · exact hsound
  · exact h

/-- Registering a source leaves no digest behind, so what is remembered is current. -/
theorem current_register {path text : String} {D : DigestKey → Digest → Prop}
    (h : (fs.registry id).digests.Holds D) (hregister : fs.register id path text = .ok fs') :
    Current fs' id := by
  rw [register] at hregister
  split at hregister
  · cases hregister
    rw [Current, registry_modify]
    split
    · exact h.clear _
    · -- there is no such registry, so nothing is remembered
      rename_i hnone
      rw [registry, Array.getD_eq_getD_getElem?,
        Array.getElem?_eq_none (Nat.not_lt.1 fun hlt => hnone ⟨rfl, hlt⟩)]
      exact Lru.holds_empty _
  · cases hregister

/-- The stores that creating registries, registering sources and taking digests lead to.  The
    digests that a registry remembers need not be current in them: they are kept when a source is
    registered with a parent. -/
inductive Reachable : FileStore → Prop
  | empty : Reachable {}
  | create {fs : FileStore} (parents : List Nat) : Reachable fs → Reachable (fs.create parents).2
  | register {fs fs' : FileStore} {id : Nat} {path text : String} :
      Reachable fs → fs.register id path text = .ok fs' → Reachable fs'
  | digest {fs : FileStore} (id : Nat) (path format : String) :
      Reachable fs → Reachable (fs.digest id path format).2

/-- The store with one registry, which has one source. -/
theorem Reachable.single {path : String} (hpath : Text.startsWith path "/") (text : String) :
    Reachable ⟨#[{ sources := [(path, text)] }]⟩ := by
  have hcreated : Reachable ⟨#[{}]⟩ := .create [] .empty
  have hregister :
      FileStore.register ⟨#[{}]⟩ 0 path text = .ok ⟨#[{ sources := [(path, text)] }]⟩ := by
    rw [FileStore.register, if_pos hpath]
    rfl
  exact .register hcreated hregister

/-- The store with the built-in registry. -/
theorem reachable_builtin : Reachable Builtin.store := by
  have hwrapper := Reachable.single
    (by decide : Text.startsWith VirtualPath.kernelWrapper "/") Builtin.kernelWrapperText
  have hregister : FileStore.register
      ⟨#[{ sources := [(VirtualPath.kernelWrapper, Builtin.kernelWrapperText)] }]⟩
      Builtin.registryId VirtualPath.bufferTemplate Builtin.bufferTemplateText =
        .ok Builtin.store := by
    rw [FileStore.register, if_pos (by decide)]
    rfl
  exact .register hwrapper hregister

theorem registry_create (fs : FileStore) (parents : List Nat) (i : Nat) :
    (fs.create parents).2.registry i =
      if i = fs.registries.size then { parents } else fs.registry i := by
  rw [registry, registry, create, Array.getD_eq_getD_getElem?, Array.getD_eq_getD_getElem?,
    Array.getElem?_push]
  split <;> rfl

/-- Every registry of such a store remembers its digests in a cache that is in order. -/
theorem Reachable.holds (h : Reachable fs) (id : Nat) :
    (fs.registry id).digests.Holds fun _ _ => True := by
  induction h generalizing id with
  | empty => exact Lru.holds_empty _
  | create parents _ ih =>
    rw [registry_create]
    split
    · exact Lru.holds_empty _
    · exact ih id
  | @register fs _ i path text _ hregister ih =>
    rw [FileStore.register] at hregister
    split at hregister
    · cases hregister
      rw [registry_modify]
      split
      · exact (ih id).clear _
      · exact ih id
    · cases hregister
  | @digest fs i path format _ ih =>
    -- nothing is asked of the digests, so it is inherited
    have htrue : Inherited (fs.source? i) fun _ _ => True := fun _ _ _ _ _ _ => trivial
    have hkept := (digestFile_holds htrue format (fs.known.length + 2) [] path _ (ih i)).1
    show ((fs.modify i _).registry id).digests.Holds _
    rw [registry_modify]
    split
    · exact hkept
    · exact ih id

/-- **A current registry returns the digests of the files.** -/
theorem Current.digest_eq_ok_iff (h : Current fs id) {path format : String} {d : Digest} :
    (fs.digest id path format).1 = .ok d ↔ HasDigest (fs.source? id) format path d := by
  have hsound := (digestFile_sound (fs.source? id) format (fs.known.length + 2) [] path _ h).2
  constructor
  · exact hsound d
  · intro hd
    obtain ⟨n, hn⟩ := hd
    obtain ⟨d', hd'⟩ := digestFile_ok (fs.mem_known id) n (fs.known.length + 2) [] path d _ hn
      (fun q hq => by cases hq) List.nodup_nil (fun q hq => by cases hq) (by simp) h
    have hsame : d' = d := (hsound d' hd').unique ⟨n, hn⟩
    rw [hsame] at hd'
    exact hd'

/-! ## The built-in registry -/

/-- The first registry has nothing to fall back to. -/
theorem source?_builtin (fs : FileStore) (path : String) :
    fs.source? Builtin.registryId path = (fs.registry Builtin.registryId).sources.lookup path := by
  rw [source?]
  cases (fs.registry Builtin.registryId).sources.lookup path with
  | some text => rfl
  | none => exact List.findSome?_eq_none_iff.2 fun p _ => dif_neg (Nat.not_lt_zero p)

theorem source?_builtin_congr (h : (fs'.registry Builtin.registryId).sources =
    (fs.registry Builtin.registryId).sources) :
    fs'.source? Builtin.registryId = fs.source? Builtin.registryId := by
  funext path
  rw [source?_builtin, source?_builtin, h]

/-- The built-in registry is left alone. -/
theorem Current.of_registry_eq (h : Current fs Builtin.registryId)
    (heq : fs'.registry Builtin.registryId = fs.registry Builtin.registryId) :
    Current fs' Builtin.registryId := by
  have hsource : fs'.source? Builtin.registryId = fs.source? Builtin.registryId :=
    source?_builtin_congr (by rw [heq])
  rw [Current, heq, hsource]
  exact h

/-- **The digests of the built-in registry are current**: it has no parents that could be edited. -/
theorem Reachable.current_builtin (h : Reachable fs) : Current fs Builtin.registryId := by
  induction h with
  | empty => exact Lru.holds_empty _
  | @create fs parents _ ih =>
    have hregistry := registry_create fs parents Builtin.registryId
    split at hregistry
    · rw [Current, hregistry]
      exact Lru.holds_empty _
    · exact ih.of_registry_eq hregistry
  | @register fs fs' id path text hfs hregister ih =>
    by_cases hid : Builtin.registryId = id
    · subst hid
      exact current_register (hfs.holds _) hregister
    · refine ih.of_registry_eq ?_
      rw [FileStore.register] at hregister
      split at hregister
      · cases hregister
        rw [registry_modify, if_neg fun h => hid h.1]
      · cases hregister
  | @digest fs id path format _ ih =>
    by_cases hid : Builtin.registryId = id
    · subst hid
      exact ih.digest path format
    · refine ih.of_registry_eq ?_
      show (fs.modify id _).registry _ = _
      rw [registry_modify, if_neg fun h => hid h.1]

/-- The built-in registry shows these sources, and the digests that it remembers are current. -/
structure Shows (fs : FileStore) (shown : String → Option String) : Prop where
  current : Current fs Builtin.registryId
  source : fs.source? Builtin.registryId = shown

theorem Reachable.shows (h : Reachable fs) : Shows fs (fs.source? Builtin.registryId) :=
  ⟨h.current_builtin, rfl⟩

/-- It does so as long as digests are taken, of whatever registry. -/
theorem Shows.digest {shown : String → Option String} (h : Shows fs shown) (id : Nat)
    (path format : String) : Shows (fs.digest id path format).2 shown := by
  refine ⟨?_, by rw [source?_digest, h.source]⟩
  by_cases hid : Builtin.registryId = id
  · subst hid
    exact h.current.digest path format
  · refine h.current.of_registry_eq ?_
    show (fs.modify id _).registry _ = _
    rw [registry_modify, if_neg fun h => hid h.1]

/-- The digest of a built-in file, if it has one. -/
def builtinDigest? (fs : FileStore) (key : DigestKey) : Option Digest :=
  (fs.digest Builtin.registryId key.path key.format).1.toOption

theorem Shows.builtinDigest?_eq_some_iff {shown : String → Option String} (h : Shows fs shown)
    {key : DigestKey} {d : Digest} :
    fs.builtinDigest? key = some d ↔ HasDigest shown key.format key.path d := by
  rw [builtinDigest?, toOption_eq_some_iff, h.current.digest_eq_ok_iff, h.source]

/-- The digests of built-in files depend on the built-in sources. -/
theorem Shows.builtinDigest?_eq {shown : String → Option String} (h : Shows fs shown)
    (h' : Shows fs' shown) : fs'.builtinDigest? = fs.builtinDigest? := by
  funext key
  refine Option.ext fun d => ?_
  rw [h.builtinDigest?_eq_some_iff, h'.builtinDigest?_eq_some_iff]

end

end FileStore

end KernelGraph
