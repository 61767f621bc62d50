/-
  The digests of built-in files in hash keys.

  The interfaces of a kernel append digests of built-in files to its key, one behind the other and
  with nothing in the place of a file that has none.  So one file that loses its digest could make
  up for another one that gets one.  It does not: an edit of one source either takes no digest away
  or brings none (`FileStore.builtinDigest?_mono_or`).  Hence the fragments are other ones exactly
  if one of these files has another digest (`Graph.keyFragments_eq_iff`).
-/
import KernelGraph.Proofs.Build
import KernelGraph.Proofs.Merkle

namespace KernelGraph

/-! ## Pieces of texts -/

theorem length_join_le {ps qs : List String}
    (h : List.Forall₂ (fun p q => p.length ≤ q.length) ps qs) :
    (String.join ps).length ≤ (String.join qs).length := by
  induction h with
  | nil => exact Nat.le_refl _
  | cons h _ ih =>
    rw [String.join_cons, String.join_cons, String.length_append, String.length_append]
    exact Nat.add_le_add h ih

/-- Texts of one length whose pieces are no longer than those of the other have the same pieces. -/
theorem eq_of_join_eq {ps qs : List String}
    (h : List.Forall₂ (fun p q => p.length ≤ q.length) ps qs)
    (hjoin : String.join ps = String.join qs) : ps = qs := by
  induction h with
  | nil => rfl
  | @cons p q ps qs h hrest ih =>
    rw [String.join_cons, String.join_cons] at hjoin
    have hlengths := congrArg String.length hjoin
    rw [String.length_append, String.length_append] at hlengths
    have hle := length_join_le hrest
    obtain ⟨rfl, htail⟩ := Text.append_inj hjoin (by omega)
    rw [ih htail]

/-! ## What an edit does to digests -/

namespace FileStore

section
variable {source? source?' : String → Option String} {format : String} {path : String}

/-- Whether a file has a digest does not depend on the format. -/
theorem HasDigest.exists_format {p : String} {d : Digest} (h : HasDigest source? format p d)
    (format' : String) : ∃ d', HasDigest source? format' p d' := by
  obtain ⟨n, h⟩ := h
  induction n generalizing p d with
  | zero => exact h.elim
  | succ n ih =>
    obtain ⟨text, ds, htext, hds, rfl⟩ := h
    have hincluded : ∀ q ∈ included text, ∃ d', HasDigest source? format' q d' := fun q hq => by
      obtain ⟨i, hi, rfl⟩ := List.getElem_of_mem hq
      exact ih (hds.get hi (hds.length_eq ▸ hi))
    obtain ⟨ds', hds'⟩ := exists_forall₂ hincluded
    exact ⟨_, hasDigest_iff.2 ⟨text, ds', htext, hds', rfl⟩⟩

/-- **Where the edited file has a digest** nothing loses its own. -/
theorem HasDigest.survives (hsame : ∀ p, p ≠ path → source?' p = source? p)
    (hpath : ∃ d, HasDigest source?' format path d) {p : String} {d : Digest}
    (h : HasDigest source? format p d) : ∃ d', HasDigest source?' format p d' := by
  obtain ⟨n, h⟩ := h
  induction n generalizing p d with
  | zero => exact h.elim
  | succ n ih =>
    by_cases hp : p = path
    · rw [hp]
      exact hpath
    · obtain ⟨text, ds, htext, hds, rfl⟩ := h
      have hincluded : ∀ q ∈ included text, ∃ d', HasDigest source?' format q d' := fun q hq => by
        obtain ⟨i, hi, rfl⟩ := List.getElem_of_mem hq
        exact ih (hds.get hi (hds.length_eq ▸ hi))
      obtain ⟨ds', hds'⟩ := exists_forall₂ hincluded
      exact ⟨_, hasDigest_iff.2 ⟨text, ds', (hsame p hp).trans htext, hds', rfl⟩⟩

/-- **Where it has none** nothing gets one. -/
theorem HasDigest.precedes (hsame : ∀ p, p ≠ path → source?' p = source? p)
    (hpath : ∀ d, ¬ HasDigest source?' format path d) {p : String} {d : Digest}
    (h : HasDigest source?' format p d) : HasDigest source? format p d := by
  obtain ⟨n, h⟩ := h
  refine ⟨n, ?_⟩
  induction n generalizing p d with
  | zero => exact h
  | succ n ih =>
    have hp : p ≠ path := fun hp => hpath d (hp ▸ ⟨_, h⟩)
    obtain ⟨text, ds, htext, hds, rfl⟩ := h
    exact ⟨text, ds, (hsame p hp).symm.trans htext, hds.imp fun _ _ h => ih h, rfl⟩

/-- **A file that does not lead to the edited one** has the digest that it had, or none as
    before. -/
theorem hasDigest_iff_of_not_reaches (hsame : ∀ p, p ≠ path → source?' p = source? p) {p : String}
    (hreach : ¬ Reaches source? p path) {d : Digest} :
    HasDigest source?' format p d ↔ HasDigest source? format p d := by
  -- the files that it leads to are the same
  have hback : ∀ q, Reaches source?' p q → Reaches source? p q := by
    intro q hq
    induction hq with
    | refl => exact .refl
    | @tail q q' _ hstep ih =>
      obtain ⟨text, htext, hmem⟩ := hstep
      refine ih.tail ⟨text, ?_, hmem⟩
      rw [← hsame q fun heq => hreach (heq ▸ ih)]
      exact htext
  refine ⟨fun h => h.congr fun q hq => ?_, fun h => h.congr fun q hq => ?_⟩
  · exact (hsame q fun heq => hreach (heq ▸ hback q hq)).symm
  · exact hsame q fun heq => hreach (heq ▸ hq)

variable {files edited : FileStore}

/-- **An edit of one built-in source** takes no digest away, or it brings none. -/
theorem builtinDigest?_mono_or (hfiles : files.Shows source?) (hedited : edited.Shows source?')
    (hsame : ∀ p, p ≠ path → source?' p = source? p) :
    (∀ key, (files.builtinDigest? key).isSome → (edited.builtinDigest? key).isSome) ∨
      ∀ key, (edited.builtinDigest? key).isSome → (files.builtinDigest? key).isSome := by
  simp only [Option.isSome_iff_exists, hfiles.builtinDigest?_eq_some_iff,
    hedited.builtinDigest?_eq_some_iff]
  by_cases hpath : ∃ format d, HasDigest source?' format path d
  · obtain ⟨_, _, hpath⟩ := hpath
    exact Or.inl fun key ⟨_, h⟩ => h.survives hsame (hpath.exists_format key.format)
  · exact Or.inr fun key ⟨d, h⟩ => ⟨d, h.precedes hsame fun d' h' => hpath ⟨_, _, h'⟩⟩

end

end FileStore

/-! ## Fragments -/

/-- The text that a digest has in a fragment. -/
def digestPiece (digest : Option Digest) : String := (digest.map Digest.toHex).getD ""

theorem digestPiece_injective {a b : Option Digest} (h : digestPiece a = digestPiece b) :
    a = b := by
  have hlength := congrArg String.length h
  cases a with
  | none =>
    cases b with
    | none => rfl
    | some b => simp [digestPiece, Digest.length_toHex] at hlength
  | some a =>
    cases b with
    | none => simp [digestPiece, Digest.length_toHex] at hlength
    | some b => exact congrArg some (Digest.toHex_injective h)

theorem length_digestPiece_le {a b : Option Digest} (h : a.isSome → b.isSome) :
    (digestPiece a).length ≤ (digestPiece b).length := by
  cases a with
  | none => exact Nat.zero_le _
  | some a =>
    obtain ⟨b, rfl⟩ := Option.isSome_iff_exists.1 (h rfl)
    simp [digestPiece, Digest.length_toHex]

/-- The pieces of the fragments that interfaces append. -/
def fragmentPieces (is : List (Int × DataInterface)) (digest? : DigestKey → Option Digest) :
    List String :=
  is.flatMap fun x => x.2.interface.hashedFiles.map (fun key => digestPiece (digest? key)) ++
    [x.2.interface.hashFragment]

theorem join_fragmentPieces (is : List (Int × DataInterface))
    (digest? : DigestKey → Option Digest) : String.join (fragmentPieces is digest?) =
      String.join (is.map fun x => x.2.interface.fragmentOf digest?) := by
  induction is with
  | nil => rfl
  | cons x is ih =>
    rw [fragmentPieces, List.flatMap_cons, String.join_append, List.map_cons, String.join_cons,
      ← ih, Interface.fragmentOf, String.join_append, String.join_cons, String.join_nil,
      String.append_empty]
    rfl

section
variable {is : List (Int × DataInterface)} {digest? digest?' : DigestKey → Option Digest}

theorem forall₂_fragmentPieces (h : ∀ key, (digest? key).isSome → (digest?' key).isSome) :
    List.Forall₂ (fun p q => p.length ≤ q.length) (fragmentPieces is digest?)
      (fragmentPieces is digest?') := by
  induction is with
  | nil => exact .nil
  | cons x is ih =>
    have hhead : List.Forall₂ (fun p q : String => p.length ≤ q.length)
        (x.2.interface.hashedFiles.map fun key => digestPiece (digest? key))
        (x.2.interface.hashedFiles.map fun key => digestPiece (digest?' key)) := by
      rw [List.forall₂_map_left_iff, List.forall₂_map_right_iff, List.forall₂_same]
      exact fun key _ => length_digestPiece_le (h key)
    rw [fragmentPieces, fragmentPieces, List.flatMap_cons, List.flatMap_cons]
    exact List.rel_append (List.rel_append hhead (.cons (Nat.le_refl _) .nil)) ih

theorem fragmentPieces_eq_iff : fragmentPieces is digest?' = fragmentPieces is digest? ↔
    ∀ key ∈ is.flatMap fun x => x.2.interface.hashedFiles, digest?' key = digest? key := by
  induction is with
  | nil => simp [fragmentPieces]
  | cons x is ih =>
    rw [fragmentPieces, fragmentPieces, List.flatMap_cons, List.flatMap_cons, List.flatMap_cons,
      List.append_assoc, List.append_assoc]
    constructor
    · intro h
      obtain ⟨hhead, htail⟩ := List.append_inj h (by rw [List.length_map, List.length_map])
      rw [List.map_inj_left] at hhead
      intro key hkey
      rcases List.mem_append.1 hkey with hkey | hkey
      · exact digestPiece_injective (hhead key hkey)
      · exact ih.1 (List.cons.inj htail).2 key hkey
    · intro h
      have hhead : ∀ key ∈ x.2.interface.hashedFiles,
          digestPiece (digest?' key) = digestPiece (digest? key) := fun key hkey => by
        rw [h key (List.mem_append_left _ hkey)]
      have htail := ih.2 fun key hkey => h key (List.mem_append_right _ hkey)
      rw [List.map_congr_left hhead]
      exact congrArg (fun pieces => _ ++ ([x.2.interface.hashFragment] ++ pieces)) htail

end

namespace Graph

/-- The built-in files whose digests the interfaces of a kernel append to its key. -/
def hashedKeys (g : Graph) (k : Int) : List DigestKey :=
  (g.boundInterfaces k).flatMap fun x => x.2.interface.hashedFiles

/-- **When fragments change.**  After an edit of one built-in source the interfaces of a kernel
    append other fragments exactly if one of their files has another digest. -/
theorem keyFragments_eq_iff {g : Graph} {k : Int} {files edited : FileStore} {path : String}
    {source? source?' : String → Option String} (hfiles : files.Shows source?)
    (hedited : edited.Shows source?') (hsame : ∀ p, p ≠ path → source?' p = source? p) :
    keyFragments (g.boundInterfaces k) edited = keyFragments (g.boundInterfaces k) files ↔
      ∀ key ∈ g.hashedKeys k, edited.builtinDigest? key = files.builtinDigest? key := by
  rw [hfiles.fragments_eq, hedited.fragments_eq, ← join_fragmentPieces, ← join_fragmentPieces,
    hashedKeys, ← fragmentPieces_eq_iff]
  refine ⟨fun h => ?_, fun h => by rw [h]⟩
  rcases FileStore.builtinDigest?_mono_or hfiles hedited hsame with hmono | hmono
  · exact (eq_of_join_eq (forall₂_fragmentPieces hmono) h.symm).symm
  · exact eq_of_join_eq (forall₂_fragmentPieces hmono) h

end Graph

end KernelGraph
