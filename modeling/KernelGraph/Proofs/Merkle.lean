/-
  What the digest of a file tells about the files behind it.

  The digest covers a text and the digests of its includes without anything between them.  It still
  tells where the text ends: the longer of two such texts begins with the shorter one, so it has at
  least the includes of that one (`message_injective`).  Hence, unless two of the messages that are
  hashed collide, equal digests mean equal texts in every file that the includes lead to.

  A file unfolds to a tree: its text, and the trees of the files that it includes, in the order of
  the directives, generated files left out.  The law, for two registries without stale digests, two
  paths and one format:

      the digests are equal  ↔  the files unfold to the same tree

  where the direction from left to right fails only if messages collide.  One level of the tree is
  `text_eq_of_digest_eq`, and the whole tree is an induction on the depth of nesting.
-/
import KernelGraph.Proofs.Digest
import KernelGraph.Proofs.FileDigest
import Mathlib.Logic.Relation

namespace KernelGraph.FileStore

/-! ## Messages -/

theorem included_append (text more : String) : included text <+: included (text ++ more) :=
  (Include.paths_append text more).filter _

theorem bytes_message (format text : String) (ds : List Digest) :
    (message format text ds).content.data.toList =
      format.toByteArray.data.toList ++
        (text.toByteArray.data.toList ++ ds.flatMap Digest.toBytes) := by
  have hwrite : ((Hasher.write {} format).write text).content.data.toList =
      format.toByteArray.data.toList ++ text.toByteArray.data.toList := by
    show (ByteArray.empty ++ format.toByteArray ++ text.toByteArray).data.toList = _
    rw [ByteArray.empty_append]
    exact ByteArray.toList_data_append
  rw [message, Hasher.bytes_foldl_writeDigest, hwrite, List.append_assoc]

/-- A text whose bytes begin another text begins it. -/
theorem eq_append_of_bytes {s t : String} {rest : List UInt8}
    (h : t.toByteArray.data.toList = s.toByteArray.data.toList ++ rest) :
    ∃ more, t = s ++ more := by
  have hbytes : s.toList.utf8Encode ++ ⟨rest.toArray⟩ = t.toList.utf8Encode := by
    rw [String.utf8Encode_toList, String.utf8Encode_toList]
    apply ByteArray.ext
    apply Array.toList_inj.1
    rw [h]
    exact ByteArray.toList_data_append
  obtain ⟨more, hmore⟩ := List.isPrefix_of_utf8Encode_append_eq_utf8Encode _ hbytes
  refine ⟨String.ofList more, ?_⟩
  apply String.toList_injective
  rw [String.toList_append, String.toList_ofList, hmore]

/-- If the bytes of one message's text begin those of the other's, nothing comes between. -/
theorem message_injective_aux {s t : String} {ds es : List Digest} {rest : List UInt8}
    (hds : ds.length = (included s).length) (hes : es.length = (included t).length)
    (htext : t.toByteArray.data.toList = s.toByteArray.data.toList ++ rest)
    (hdigests : ds.flatMap Digest.toBytes = rest ++ es.flatMap Digest.toBytes) :
    s = t ∧ ds = es := by
  obtain ⟨more, rfl⟩ := eq_append_of_bytes htext
  have hcount := (included_append s more).length_le
  have hbytes := congrArg List.length hdigests
  rw [List.length_append, Digest.length_flatMap_toBytes, Digest.length_flatMap_toBytes] at hbytes
  have hnil : rest = [] := List.length_eq_zero_iff.1 (by omega)
  subst hnil
  rw [List.nil_append] at hdigests
  rw [List.append_nil] at htext
  have hsame : (s ++ more).toByteArray = s.toByteArray :=
    ByteArray.ext (Array.toList_inj.1 htext)
  exact ⟨(String.toByteArray_inj.1 hsame).symm, Digest.flatMap_toBytes_injective hdigests⟩

/-- **A message tells the text and the digests** that it was made of. -/
theorem message_injective {format s t : String} {ds es : List Digest}
    (hds : ds.length = (included s).length) (hes : es.length = (included t).length)
    (h : (message format s ds).content = (message format t es).content) : s = t ∧ ds = es := by
  have hbytes := congrArg (fun b => b.data.toList) h
  rw [bytes_message, bytes_message, List.append_right_inj] at hbytes
  rcases List.append_eq_append_iff.1 hbytes with ⟨rest, htext, hdigests⟩ | ⟨rest, htext, hdigests⟩
  · exact message_injective_aux hds hes htext hdigests
  · obtain ⟨hst, hde⟩ := message_injective_aux hes hds htext hdigests
    exact ⟨hst.symm, hde.symm⟩

/-! ## Equal digests -/

/-- The file at `path` is hashed as the message `m`. -/
def HashedAs (source? : String → Option String) (format path : String) (m : ByteArray) : Prop :=
  ∃ text ds, source? path = some text ∧
    List.Forall₂ (HasDigest source? format) (included text) ds ∧
    m = (message format text ds).content

/-- One file includes another. -/
def Includes (source? : String → Option String) (path path' : String) : Prop :=
  ∃ text, source? path = some text ∧ path' ∈ included text

/-- The includes of a file lead to another, or it is that file. -/
def Reaches (source? : String → Option String) : String → String → Prop :=
  Relation.ReflTransGen (Includes source?)

/-- A message that is hashed for the digest of the file at `path`. -/
def Message (source? : String → Option String) (format path : String) (m : ByteArray) : Prop :=
  ∃ path', Reaches source? path path' ∧ HashedAs source? format path' m

section
variable {source? source?' : String → Option String} {format : String}

theorem hasDigest_iff_hashedAs {path : String} {d : Digest} : HasDigest source? format path d ↔
    ∃ m, HashedAs source? format path m ∧ d = Digest.sha1 m := by
  rw [hasDigest_iff]
  constructor
  · rintro ⟨text, ds, htext, hds, rfl⟩
    exact ⟨_, ⟨text, ds, htext, hds, rfl⟩, rfl⟩
  · rintro ⟨_, ⟨text, ds, htext, hds, rfl⟩, rfl⟩
    exact ⟨text, ds, htext, hds, rfl⟩

/-- A file that includes none but generated ones leads nowhere. -/
theorem reaches_leaf {path path' text : String} (htext : source? path = some text)
    (hnone : included text = []) (h : Reaches source? path path') : path' = path := by
  rcases Relation.ReflTransGen.cases_head h with rfl | ⟨next, ⟨text', htext', hmem⟩, _⟩
  · rfl
  · rw [htext] at htext'
    cases htext'
    rw [hnone] at hmem
    cases hmem

/-- **Files with equal digests**, in two tables of sources: their messages collide, or they have the
    same text, and what they include has equal digests. -/
theorem text_eq_of_digest_eq {path path' : String} {d : Digest}
    (h : HasDigest source? format path d) (h' : HasDigest source?' format path' d) :
    (∃ m m', HashedAs source? format path m ∧ HashedAs source?' format path' m' ∧
      Digest.Collide m m') ∨
    ∃ text, source? path = some text ∧ source?' path' = some text ∧
      ∀ p ∈ included text, ∃ e, HasDigest source? format p e ∧ HasDigest source?' format p e := by
  obtain ⟨m, hm, rfl⟩ := hasDigest_iff_hashedAs.1 h
  obtain ⟨m', hm', heq⟩ := hasDigest_iff_hashedAs.1 h'
  rcases Digest.collide_or_eq heq with hcollide | hsame
  · exact Or.inl ⟨m, m', hm, hm', hcollide⟩
  · right
    obtain ⟨text, ds, htext, hds, rfl⟩ := hm
    obtain ⟨text', ds', htext', hds', rfl⟩ := hm'
    obtain ⟨rfl, rfl⟩ := message_injective hds.length_eq.symm hds'.length_eq.symm hsame
    refine ⟨text, htext, htext', fun p hp => ?_⟩
    obtain ⟨i, hi, rfl⟩ := List.getElem_of_mem hp
    have hi' : i < ds.length := hds.length_eq ▸ hi
    exact ⟨ds[i], hds.get hi hi', hds'.get hi hi'⟩

/-- Following the includes of a file with one digest in both tables. -/
theorem digest_eq_of_reaches {path path' : String} {d : Digest}
    (h : HasDigest source? format path d)
    (h' : HasDigest source?' format path d) (hreach : Reaches source? path path') :
    (∃ m m', Message source? format path m ∧ Message source?' format path m' ∧
      Digest.Collide m m') ∨
    (Reaches source?' path path' ∧
      ∃ e, HasDigest source? format path' e ∧ HasDigest source?' format path' e) := by
  induction hreach with
  | refl => exact Or.inr ⟨.refl, d, h, h'⟩
  | tail hb hc ih =>
    rename_i b c
    rcases ih with hcollide | ⟨hreach', e, he, he'⟩
    · exact Or.inl hcollide
    · rcases text_eq_of_digest_eq he he' with
        ⟨m, m', hm, hm', hcollide⟩ | ⟨text, ht, ht', hincluded⟩
      · exact Or.inl ⟨m, m', ⟨b, hb, hm⟩, ⟨b, hreach', hm'⟩, hcollide⟩
      · obtain ⟨text₀, ht₀, hmem⟩ := hc
        rw [ht] at ht₀
        cases ht₀
        exact Or.inr ⟨hreach'.tail ⟨text, ht', hmem⟩, hincluded c hmem⟩

/-- **Equal digests mean equal texts** in every file that the includes lead to, unless two messages
    collide. -/
theorem source?_eq_of_digest_eq {path path' : String} {d : Digest}
    (h : HasDigest source? format path d) (h' : HasDigest source?' format path d)
    (hreach : Reaches source? path path') :
    (∃ m m', Message source? format path m ∧ Message source?' format path m' ∧
      Digest.Collide m m') ∨ source? path' = source?' path' := by
  rcases digest_eq_of_reaches h h' hreach with hcollide | ⟨hreach', e, he, he'⟩
  · exact Or.inl hcollide
  · rcases text_eq_of_digest_eq he he' with ⟨m, m', hm, hm', hcollide⟩ | ⟨text, ht, ht', _⟩
    · exact Or.inl ⟨m, m', ⟨path', hreach, hm⟩, ⟨path', hreach', hm'⟩, hcollide⟩
    · exact Or.inr (ht.trans ht'.symm)

/-- **A digest depends on nothing else**: files that the includes do not lead to have no part in
    it. -/
theorem HasDigest.congr {path : String} {d : Digest} (h : HasDigest source? format path d)
    (hsame : ∀ path', Reaches source? path path' → source?' path' = source? path') :
    HasDigest source?' format path d := by
  obtain ⟨n, h⟩ := h
  refine ⟨n, ?_⟩
  induction n generalizing path d with
  | zero => exact h
  | succ n ih =>
    obtain ⟨text, ds, htext, hds, rfl⟩ := h
    refine ⟨text, ds, (hsame path .refl).trans htext, ?_, rfl⟩
    refine List.forall₂_iff_get.2 ⟨hds.length_eq, fun i hi hi' => ?_⟩
    have hmem : (included text)[i] ∈ included text := List.getElem_mem hi
    refine ih (fun path' hreach => hsame path' ?_) (hds.get hi hi')
    exact Relation.ReflTransGen.head ⟨text, htext, hmem⟩ hreach

end

/-! ## Trees -/

/-- A text and the trees of the files that it includes, in order. -/
inductive IncludeTree
  | node (text : String) (includes : List IncludeTree)

/-- The file at `path` and what it includes, recursively, have the texts of the tree. -/
inductive Unfolds (source? : String → Option String) : String → IncludeTree → Prop
  | node {path text : String} {trees : List IncludeTree} (source : source? path = some text)
      (includes : List.Forall₂ (Unfolds source?) (included text) trees) :
      Unfolds source? path (.node text trees)

section
variable {source? source?' : String → Option String} {format : String}

theorem exists_forall₂ {α β : Type} {R : α → β → Prop} {as : List α} (h : ∀ a ∈ as, ∃ b, R a b) :
    ∃ bs, List.Forall₂ R as bs := by
  induction as with
  | nil => exact ⟨[], .nil⟩
  | cons a as ih =>
    obtain ⟨b, hb⟩ := h a (List.mem_cons_self ..)
    obtain ⟨bs, hbs⟩ := ih fun a' ha' => h a' (List.mem_cons_of_mem a ha')
    exact ⟨b :: bs, .cons hb hbs⟩

/-- A message for an included file is one for the file that includes it. -/
theorem Message.head {path p text : String} {m : ByteArray} (htext : source? path = some text)
    (hp : p ∈ included text) (h : Message source? format p m) : Message source? format path m := by
  obtain ⟨path', hreach, hm⟩ := h
  exact ⟨path', .head ⟨text, htext, hp⟩ hreach, hm⟩

/-- **Equal digests, equal trees**, unless two messages collide. -/
theorem unfolds_of_digest_eq {n : Nat} {path path' : String} {d : Digest}
    (h : DigestWithin source? format n path d) (h' : HasDigest source?' format path' d) :
    (∃ m m', Message source? format path m ∧ Message source?' format path' m' ∧
      Digest.Collide m m') ∨
    ∃ tree, Unfolds source? path tree ∧ Unfolds source?' path' tree := by
  induction n generalizing path path' d with
  | zero => exact h.elim
  | succ n ih =>
    rcases text_eq_of_digest_eq ⟨n + 1, h⟩ h' with
      ⟨m, m', hm, hm', hcollide⟩ | ⟨text, htext, htext', hincluded⟩
    · exact Or.inl ⟨m, m', ⟨path, .refl, hm⟩, ⟨path', .refl, hm'⟩, hcollide⟩
    · obtain ⟨text₀, ds, htext₀, hds, _⟩ := h
      rw [htext] at htext₀
      cases htext₀
      by_cases hcollides : ∃ m m', Message source? format path m ∧
          Message source?' format path' m' ∧ Digest.Collide m m'
      · exact Or.inl hcollides
      · right
        -- every included file has one digest in both tables, so it unfolds to one tree
        have htrees : ∀ p ∈ included text, ∃ tree,
            Unfolds source? p tree ∧ Unfolds source?' p tree := by
          intro p hp
          obtain ⟨e, he⟩ := forall₂_exists hds hp
          obtain ⟨e', hpe, hpe'⟩ := hincluded p hp
          rw [hpe.unique ⟨n, he⟩] at hpe'
          rcases ih he hpe' with ⟨m, m', hm, hm', hcollide⟩ | htree
          · exact absurd ⟨m, m', hm.head htext hp, hm'.head htext' hp, hcollide⟩ hcollides
          · exact htree
        obtain ⟨trees, hboth⟩ := exists_forall₂ htrees
        exact ⟨.node text trees, .node htext (hboth.imp fun _ _ h => h.1),
          .node htext' (hboth.imp fun _ _ h => h.2)⟩

/-- **Equal trees, equal digests.** -/
theorem DigestWithin.of_unfolds {n : Nat} {path path' : String} {d : Digest} {tree : IncludeTree}
    (h : DigestWithin source? format n path d) (htree : Unfolds source? path tree)
    (htree' : Unfolds source?' path' tree) : DigestWithin source?' format n path' d := by
  induction n generalizing path path' d tree with
  | zero => exact h.elim
  | succ n ih =>
    obtain ⟨text, ds, htext, hds, rfl⟩ := h
    obtain ⟨source, includes⟩ := htree
    obtain ⟨source', includes'⟩ := htree'
    rw [source] at htext
    cases htext
    refine ⟨_, ds, source', List.forall₂_iff_get.2 ⟨hds.length_eq, fun i hi hi' => ?_⟩, rfl⟩
    have hi'' : i < _ := includes.length_eq ▸ hi
    exact ih (hds.get hi hi') (includes.get hi hi'') (includes'.get hi hi'')

end

/-! ## Digests of two registries -/

section
variable {fs fs' : FileStore} {id id' : Nat} {path path' format : String} {d d' : Digest}

/-- **A digest is faithful to the whole include tree.**  Two registries without stale digests are
    asked for the digests of two files for one format.  If the digests are equal, the files unfold
    to the same tree, unless two messages collide, one hashed for each file; and files that unfold
    to the same tree have equal digests.  So, for one path, a file that the includes lead to and
    that has another text in the other registry makes the digests differ, collisions apart. -/
theorem Current.digest_eq_iff_unfolds (h : Current fs id) (h' : Current fs' id')
    (hd : (fs.digest id path format).1 = .ok d) (hd' : (fs'.digest id' path' format).1 = .ok d') :
    (d = d' → (∃ m m', Message (fs.source? id) format path m ∧
        Message (fs'.source? id') format path' m' ∧ Digest.Collide m m') ∨
      ∃ tree, Unfolds (fs.source? id) path tree ∧ Unfolds (fs'.source? id') path' tree) ∧
    ((∃ tree, Unfolds (fs.source? id) path tree ∧ Unfolds (fs'.source? id') path' tree) → d = d') ∧
    (path = path' → ∀ q, Reaches (fs.source? id) path q → fs.source? id q ≠ fs'.source? id' q →
      d ≠ d' ∨ ∃ m m', Message (fs.source? id) format path m ∧
        Message (fs'.source? id') format path' m' ∧ Digest.Collide m m') := by
  have hdigest := h.digest_eq_ok_iff.1 hd
  have hdigest' := h'.digest_eq_ok_iff.1 hd'
  refine ⟨?_, ?_, ?_⟩
  · rintro rfl
    obtain ⟨n, hn⟩ := hdigest
    exact unfolds_of_digest_eq hn hdigest'
  · rintro ⟨tree, htree, htree'⟩
    obtain ⟨n, hn⟩ := hdigest
    exact HasDigest.unique ⟨n, hn.of_unfolds htree htree'⟩ hdigest'
  · rintro rfl q hreach hchanged
    by_cases hsame : d = d'
    · subst hsame
      rcases source?_eq_of_digest_eq hdigest hdigest' hreach with hcollide | heq
      · exact Or.inr hcollide
      · exact absurd heq hchanged
    · exact Or.inl hsame

end

/-! ## A library that is edited -/

/-- A file that includes another one, which has the given text. -/
def librarySources (text : String) : FileStore :=
  ⟨#[{ sources := [("/main.wgsl", "#include \"/lib.wgsl\"\n"), ("/lib.wgsl", text)] }]⟩

theorem current_librarySources (text : String) :
    Current (librarySources text) 0 := Lru.holds_empty _

theorem source?_librarySources (text : String) :
    (librarySources text).source? 0 "/main.wgsl" = some "#include \"/lib.wgsl\"\n" ∧
      (librarySources text).source? 0 "/lib.wgsl" = some text := by
  constructor
  · rw [source?]
    rfl
  · rw [source?]
    rfl

theorem digest_librarySources (text : String) (hleaf : included text = []) :
    ∃ d, ((librarySources text).digest 0 "/main.wgsl" "wgsl").1 = .ok d := by
  obtain ⟨hmain, hlib⟩ := source?_librarySources text
  have hincluded : included "#include \"/lib.wgsl\"\n" = ["/lib.wgsl"] := by decide
  refine ⟨_, (current_librarySources text).digest_eq_ok_iff.2 (hasDigest_iff.2
    ⟨_, [(message "wgsl" text []).sum], hmain, ?_, rfl⟩)⟩
  rw [hincluded]
  exact .cons (hasDigest_leaf hlib hleaf) .nil

/-- The includer of an edited library gets another digest, unless two messages collide. -/
theorem digest_ne_librarySources : ∃ d d',
    ((librarySources "1").digest 0 "/main.wgsl" "wgsl").1 = .ok d ∧
    ((librarySources "2").digest 0 "/main.wgsl" "wgsl").1 = .ok d' ∧
    (d ≠ d' ∨ ∃ m m', Message ((librarySources "1").source? 0) "wgsl" "/main.wgsl" m ∧
      Message ((librarySources "2").source? 0) "wgsl" "/main.wgsl" m' ∧ Digest.Collide m m') := by
  obtain ⟨d, hd⟩ := digest_librarySources "1" (by decide)
  obtain ⟨d', hd'⟩ := digest_librarySources "2" (by decide)
  obtain ⟨hmain, hlib⟩ := source?_librarySources "1"
  obtain ⟨_, hlib'⟩ := source?_librarySources "2"
  refine ⟨d, d', hd, hd', ?_⟩
  refine ((current_librarySources "1").digest_eq_iff_unfolds (current_librarySources "2") hd
    hd').2.2 rfl "/lib.wgsl" (.single ⟨_, hmain, by decide⟩) ?_
  rw [hlib, hlib']
  decide

end KernelGraph.FileStore
