/-
  What the hash key of a kernel tells about its compilation units.

  A hash key is a concatenation without separators, so equal keys alone do not say which text is
  which.  If the parts of two builds are cut at the same places (`SameCuts`), equal keys mean equal
  parts, unless two different contents have one digest.  The size of the group is no part of the
  key, though it is a part of every unit; `unit?_eq_iff_of_hashKey_eq` says what is left of the rule
  that equal keys mean equal units.
-/
import KernelGraph.Proofs.Build
import KernelGraph.Proofs.CompilationUnit
import KernelGraph.Proofs.FileDigest
import Mathlib.Algebra.GroupWithZero.Nat
import Std.Data.String.ToInt

namespace KernelGraph

/-! ## Listings -/

/-- Names and values with a separator between them and a semicolon behind. -/
def entryList (separator : String) (entries : List (String × String)) : String :=
  String.join (entries.map fun e => e.1 ++ separator ++ e.2 ++ ";")

theorem length_entryList (separator : String) (entries : List (String × String)) :
    (entryList separator entries).length =
      ((entries.map fun e => (e.1.length, e.2.length)).map
        fun n => n.1 + separator.length + n.2 + 1).sum := by
  rw [entryList, String.length_join, List.map_map, List.map_map]
  congr 1
  apply List.map_congr_left
  intro e _
  show (e.1 ++ separator ++ e.2 ++ ";").length = e.1.length + separator.length + e.2.length + 1
  rw [String.length_append, String.length_append, String.length_append]
  rfl

/-- Once it is known how long names and values are, the text tells them. -/
theorem entryList_injective {separator : String} : ∀ {as bs : List (String × String)},
    (as.map fun e => (e.1.length, e.2.length)) = (bs.map fun e => (e.1.length, e.2.length)) →
    entryList separator as = entryList separator bs → as = bs := by
  intro as
  induction as with
  | nil =>
    intro bs hcuts _
    exact (List.map_eq_nil_iff.1 hcuts.symm).symm
  | cons x xs ih =>
    intro bs hcuts h
    cases bs with
    | nil => cases hcuts
    | cons y ys =>
      simp only [List.map_cons, List.cons.injEq, Prod.mk.injEq] at hcuts
      obtain ⟨⟨hname, hvalue⟩, hrest⟩ := hcuts
      simp only [entryList, List.map_cons, String.join_cons] at h
      obtain ⟨hentry, htail⟩ := Text.append_inj h (by simp [hname, hvalue])
      rw [String.append_left_inj] at hentry
      obtain ⟨hhead, hv⟩ := Text.append_inj hentry (by simp [hname])
      rw [String.append_left_inj] at hhead
      rw [ih hrest htail, Prod.ext hhead hv]

/-- Without the lengths it does not: one definition may read like two. -/
example : entryList "=" [("A", "1;B=2")] = entryList "=" [("A", "1"), ("B", "2")] := by decide

/-- The definitions as names and values. -/
def Definitions.entries (s : Definitions) : List (String × String) :=
  s.toList.map fun d => (d.name, d.value)

theorem Definitions.entries_injective {a b : Definitions} (h : a.entries = b.entries) : a = b := by
  obtain ⟨as⟩ := a
  obtain ⟨bs⟩ := b
  have hinj : Function.Injective fun d : Define => (d.name, d.value) := by
    rintro ⟨m, v⟩ ⟨n, w⟩ h
    cases h
    rfl
  exact congrArg Definitions.mk (hinj.list_map h)

theorem Definitions.listing_eq (s : Definitions) : s.listing = entryList "=" s.entries := by
  rw [listing, entryList, entries, List.map_map]
  rfl

/-- The options as names and counts. -/
def PermutationVector.entries (v : PermutationVector) : List (String × String) :=
  v.options.map fun o => (o.name, toString o.count.toInt)

theorem PermutationVector.entries_injective {a b : PermutationVector} (h : a.entries = b.entries) :
    a = b := by
  obtain ⟨as⟩ := a
  obtain ⟨bs⟩ := b
  have hinj : Function.Injective fun o : PermutationOption => (o.name, toString o.count.toInt) := by
    rintro ⟨m, i⟩ ⟨n, j⟩ h
    obtain ⟨hname, hcount⟩ := Prod.mk.inj h
    rw [PermutationOption.mk.injEq]
    exact ⟨hname, Int64.toInt_inj.1 (Int.repr_injective hcount)⟩
  exact congrArg PermutationVector.mk (hinj.list_map h)

theorem PermutationVector.listing_eq (v : PermutationVector) :
    v.listing = entryList ":" v.entries := by
  rw [listing, entryList, entries, List.map_map]
  rfl

namespace KernelBuild

/-! ## Equal keys, cut at the same places -/

/-- Two builds whose parts are cut at the same places: the names and values that the keys list have
    the same lengths, and so have the sources at the same paths. -/
structure SameCuts (a b : KernelBuild) : Prop where
  definitions : (a.definitions.entries.map fun e => (e.1.length, e.2.length)) =
    b.definitions.entries.map fun e => (e.1.length, e.2.length)
  permutations : (a.permutations.entries.map fun e => (e.1.length, e.2.length)) =
    b.permutations.entries.map fun e => (e.1.length, e.2.length)
  additional : (a.additional.map fun s => (s.path, s.text.length)) =
    b.additional.map fun s => (s.path, s.text.length)
  generated : (a.generated.map fun e => (e.1, e.2.length)) =
    b.generated.map fun e => (e.1, e.2.length)

theorem SameParts.sameCuts {a b : KernelBuild} (h : SameParts a b) : SameCuts a b where
  definitions := by rw [h.definitions]
  permutations := by rw [h.permutations]
  additional := by
    have := congrArg (List.map fun e : String × String => (e.1, e.2.length)) h.additional
    rwa [List.map_map, List.map_map] at this
  generated := by rw [h.generated]

/-- Paths and texts are equal if the paths, and separately the texts, are. -/
theorem eq_of_fst_snd {as bs : List (String × String)} (hfst : as.map Prod.fst = bs.map Prod.fst)
    (hsnd : as.map Prod.snd = bs.map Prod.snd) : as = bs := by
  rw [← List.zip_unzip as, ← List.zip_unzip bs, List.unzip_fst, List.unzip_snd, List.unzip_fst,
    List.unzip_snd, hfst, hsnd]

/-- Sources at the same paths, with texts of the same lengths, in two equal contents. -/
theorem SameCuts.texts {a b : KernelBuild} (h : SameCuts a b) (hhashed : a.hashed = b.hashed) :
    a.source = b.source ∧ a.additional.map Source.text = b.additional.map Source.text ∧
      a.generated.map Prod.snd = b.generated.map Prod.snd := by
  have hadditional : (a.additional.map Source.text).map String.length =
      (b.additional.map Source.text).map String.length := by
    have := congrArg (List.map Prod.snd) h.additional
    rwa [List.map_map, List.map_map] at this ⊢
  have hgenerated : (a.generated.map Prod.snd).map String.length =
      (b.generated.map Prod.snd).map String.length := by
    have := congrArg (List.map Prod.snd) h.generated
    rwa [List.map_map, List.map_map] at this ⊢
  have hlengths : (a.additional.map Source.text ++ a.generated.map Prod.snd).map String.length =
      (b.additional.map Source.text ++ b.generated.map Prod.snd).map String.length := by
    rw [List.map_append, List.map_append, hadditional, hgenerated]
  rw [hashed, hashed] at hhashed
  obtain ⟨hjoin, hsource⟩ := Text.append_inj hhashed (by
    rw [String.length_join, String.length_join, hlengths])
  have hlist := Text.join_injective hlengths hjoin
  obtain ⟨ha, hg⟩ := List.append_inj hlist (by simpa using congrArg List.length hadditional)
  exact ⟨hsource, ha, hg⟩

/-- **Equal keys, cut at the same places, have equal parts**, given that the contents are equal. -/
theorem SameCuts.sameParts {a b : KernelBuild} (h : SameCuts a b) {fragments fragments' : String}
    (hlisting : fragments ++ a.definitions.listing ++ a.permutations.listing =
      fragments' ++ b.definitions.listing ++ b.permutations.listing)
    (hhashed : a.hashed = b.hashed) : SameParts a b := by
  rw [Definitions.listing_eq, Definitions.listing_eq, PermutationVector.listing_eq,
    PermutationVector.listing_eq] at hlisting
  obtain ⟨hrest, hpermutations⟩ := Text.append_inj' hlisting (by
    rw [length_entryList, length_entryList, h.permutations])
  obtain ⟨_, hdefinitions⟩ := Text.append_inj' hrest (by
    rw [length_entryList, length_entryList, h.definitions])
  obtain ⟨hsource, hadditional, hgenerated⟩ := h.texts hhashed
  refine ⟨hsource, eq_of_fst_snd ?_ ?_, eq_of_fst_snd ?_ hgenerated,
    Definitions.entries_injective (entryList_injective h.definitions hdefinitions),
    PermutationVector.entries_injective (entryList_injective h.permutations hpermutations)⟩
  · have := congrArg (List.map Prod.fst) h.additional
    rwa [List.map_map, List.map_map] at this ⊢
  · rwa [List.map_map, List.map_map]
  · have := congrArg (List.map Prod.fst) h.generated
    rwa [List.map_map, List.map_map] at this

/-! ## Equal keys and equal units -/

/-- **What equal hash keys mean.**  For builds of any two kernels in one dialect and for one format,
    made with registries that give the same texts, whose hash keys are equal: either the contents
    collide; or the builds have the same parts exactly if these are cut at the same places, and in
    that case they have the same permutations, and the same units exactly if their groups have the
    same constants or no permutation has a unit. -/
theorem unit?_eq_iff_of_hashKey_eq {g g' : Graph} {files files' : FileStore}
    {registry registry' : Nat} {k k' : Int} {d : Dialect} {format : String} {a b : KernelBuild}
    (ha : (g.build files registry k d format).result = .ok a)
    (hb : (g'.build files' registry' k' d format).result = .ok b)
    (hfiles : ∀ path, files.source? registry path = files'.source? registry' path)
    (hkey : a.hashKey = b.hashKey) :
    Digest.Collide a.hashed.toByteArray b.hashed.toByteArray ∨
      ((SameParts a b ↔ SameCuts a b) ∧
        (SameCuts a b → a.permutations = b.permutations ∧
          ((∀ id, a.unit? (files.resolver registry) id = b.unit? (files'.resolver registry') id) ↔
            a.groupSize.constants = b.groupSize.constants ∨
              ∀ id, a.unit? (files.resolver registry) id = none))) := by
  obtain ⟨s, w, _, _, _, _, hassemble⟩ := Graph.build_eq_ok.1 ha
  obtain ⟨s', w', _, _, _, _, hassemble'⟩ := Graph.build_eq_ok.1 hb
  obtain ⟨hstem, _⟩ := Graph.assemble_with hassemble
  obtain ⟨hstem', _⟩ := Graph.assemble_with hassemble'
  obtain ⟨_, _, _, hdialect⟩ := Graph.assemble_fields hassemble
  obtain ⟨_, _, _, hdialect'⟩ := Graph.assemble_fields hassemble'
  -- cut off the two digests
  rw [hstem, hstem'] at hkey
  obtain ⟨hkey, _⟩ := Digest.append_toHex_inj hkey
  obtain ⟨hlisting, hdigest⟩ := Digest.append_toHex_inj hkey
  rcases Digest.collide_or_eq hdigest with hcollide | hbytes
  · exact Or.inl hcollide
  · have hhashed : a.hashed = b.hashed := String.toByteArray_inj.1 hbytes
    refine Or.inr ⟨⟨SameParts.sameCuts, fun h => h.sameParts hlisting hhashed⟩, fun h => ?_⟩
    have hparts := h.sameParts hlisting hhashed
    exact ⟨hparts.permutations,
      hparts.unit?_eq_iff (hdialect.trans hdialect'.symm) (funext hfiles)⟩

/-! ## Two kernels with one key -/

/-- A store with one registry, which has the wrapper only. -/
def bareFiles : FileStore :=
  ⟨#[{ sources := [(VirtualPath.kernelWrapper, FileStore.bareWrapper)] }]⟩

theorem source?_bareFiles :
    bareFiles.source? 0 VirtualPath.kernelWrapper = some FileStore.bareWrapper :=
  FileStore.source?_of_lookup rfl

/-- A kernel that runs in groups of the given size. -/
def groupSource (size : GroupSize) : KernelSource :=
  { entryPoint := "Main", groupSize := size, body := "fn Main() \x7b\x7d\n" }

/-- Two kernels that differ in the size of their groups. -/
def twoGroups : Graph where
  name := "G"
  kernels := [some ⟨"A", some (groupSource ⟨8, 8, 1⟩)⟩, some ⟨"B", some (groupSource ⟨64, 1, 1⟩)⟩]

/-- The build of a kernel of that graph. -/
def groupBuild (k : Nat) (size : GroupSize) : KernelBuild :=
  (twoGroups.assemble {} k (groupSource size) .wgsl
    (FileStore.message "wgsl" FileStore.bareWrapper []).sum).toOption.getD default

theorem build_twoGroups {k : Int} {size : GroupSize} (h0 : 0 ≤ k) (hk : k < 2)
    (hs : twoGroups.source? k = some (groupSource size)) :
    (twoGroups.build bareFiles 0 k .wgsl "wgsl").result = .ok (groupBuild k.toNat size) := by
  have hcurrent : bareFiles.Current 0 := Lru.holds_empty _
  exact Graph.build_eq_ok.2 ⟨groupSource size, _, h0, hk, hs, hcurrent.digest_eq_ok_iff.2
    (FileStore.hasDigest_leaf source?_bareFiles FileStore.included_bareWrapper), rfl⟩

theorem unit?_groupBuild : (groupBuild 0 ⟨8, 8, 1⟩).unit? (bareFiles.resolver 0) 0 ≠ none := by
  have hbecomes : Include.Becomes
      (((groupBuild 0 ⟨8, 8, 1⟩).request (bareFiles.resolver 0)).variant [] 0).resolver
      [VirtualPath.kernelWrapper, VirtualPath.generatedKernel] [] (groupBuild 0 ⟨8, 8, 1⟩).source
      (groupBuild 0 ⟨8, 8, 1⟩).source [] := .plain rfl (by decide)
  rw [unit?_bare rfl (fun x hx => by cases hx) source?_bareFiles rfl hbecomes]
  exact Option.some_ne_none _

/-- The two kernels have one hash key, and different units. -/
theorem unit?_ne_of_twoGroups :
    (twoGroups.build bareFiles 0 0 .wgsl "wgsl").result = .ok (groupBuild 0 ⟨8, 8, 1⟩) ∧
      (twoGroups.build bareFiles 0 1 .wgsl "wgsl").result = .ok (groupBuild 1 ⟨64, 1, 1⟩) ∧
      (groupBuild 0 ⟨8, 8, 1⟩).hashKey = (groupBuild 1 ⟨64, 1, 1⟩).hashKey ∧
      ¬ ∀ id, (groupBuild 0 ⟨8, 8, 1⟩).unit? (bareFiles.resolver 0) id =
        (groupBuild 1 ⟨64, 1, 1⟩).unit? (bareFiles.resolver 0) id := by
  have ha := build_twoGroups (k := 0) (by decide) (by decide) rfl
  have hb := build_twoGroups (k := 1) (by decide) (by decide) rfl
  refine ⟨ha, hb, rfl, fun heq => ?_⟩
  rcases unit?_eq_iff_of_hashKey_eq ha hb (fun _ => rfl) rfl with hcollide | ⟨hparts, hunits⟩
  · exact hcollide.1 rfl
  · rcases (hunits (hparts.1 ⟨rfl, rfl, rfl, rfl, rfl⟩)).2.1 heq with hsame | hnone
    · exact absurd hsame (by decide)
    · exact unit?_groupBuild (hnone 0)

/-- Equal keys do not mean equal units, collisions aside. -/
theorem not_unit?_eq_of_hashKey_eq :
    ¬ ∀ (g g' : Graph) (files : FileStore) (registry : Nat) (k k' : Int) (d : Dialect)
      (format : String) (a b : KernelBuild),
      (g.build files registry k d format).result = .ok a →
      (g'.build files registry k' d format).result = .ok b → a.hashKey = b.hashKey →
      Digest.Collide a.hashed.toByteArray b.hashed.toByteArray ∨
        (a.permutations = b.permutations ∧
          ∀ id, a.unit? (files.resolver registry) id = b.unit? (files.resolver registry) id) := by
  intro h
  have ha := build_twoGroups (k := 0) (by decide) (by decide) rfl
  have hb := build_twoGroups (k := 1) (by decide) (by decide) rfl
  rcases h twoGroups twoGroups bareFiles 0 0 1 .wgsl "wgsl" _ _ ha hb rfl with hcollide | ⟨_, heq⟩
  · exact hcollide.1 rfl
  · have hparts : SameParts (groupBuild 0 ⟨8, 8, 1⟩) (groupBuild 1 ⟨64, 1, 1⟩) :=
      ⟨rfl, rfl, rfl, rfl, rfl⟩
    rcases (hparts.unit?_eq_iff rfl rfl).1 heq with hsame | hnone
    · exact absurd hsame (by decide)
    · exact unit?_groupBuild (hnone 0)

end KernelBuild

end KernelGraph
