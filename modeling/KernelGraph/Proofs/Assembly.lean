/-
  A build is put together from what its interfaces contribute.

  A build adds the interfaces of a kernel one after the other, and keeps everything that grows in
  one place.  Here the same is said in two steps: `Graph.contributions` collects what each interface
  has to add, and `Graph.assemble` puts it together.  The two agree for every kernel
  (`Assembly.addAll_of_ok`, `Assembly.addAll_of_error`), so that what holds of the collected
  contributions holds of builds.
-/
import KernelGraph.Graph.Build

namespace KernelGraph

/-! ## Fragments of the hash key -/

section
variable {P : FileStore → Prop} {files : FileStore}

theorem foldl_hashFile_kept
    (hP : ∀ fs path format, P fs → P (fs.digest Builtin.registryId path format).2)
    (keys : List DigestKey) {out : String × FileStore} (h : P out.2) :
    P (keys.foldl Interface.hashFile out).2 := by
  induction keys generalizing out with
  | nil => exact h
  | cons key keys ih => exact ih (hP _ _ _ h)

/-- What taking digests of built-in files keeps is kept while an interface appends its fragment. -/
theorem Interface.fragment_kept (i : Interface)
    (hP : ∀ fs path format, P fs → P (fs.digest Builtin.registryId path format).2) (h : P files) :
    P (i.fragment files).2 :=
  foldl_hashFile_kept hP i.hashedFiles h

/-- The store when interfaces have appended their fragments. -/
def digested (is : List (Int × DataInterface)) (files : FileStore) : FileStore :=
  is.foldl (fun files (_, x) => (x.interface.fragment files).2) files

theorem digested_kept (is : List (Int × DataInterface))
    (hP : ∀ fs path format, P fs → P (fs.digest Builtin.registryId path format).2) (h : P files) :
    P (digested is files) := by
  induction is generalizing files with
  | nil => exact h
  | cons x is ih => exact ih (x.2.interface.fragment_kept hP h)

end

/-! ## Contributions -/

/-- What an interface contributes to one kernel. -/
structure Contribution where
  /-- Where the code stands, if not inline. -/
  path : Option String
  code : String
  hashFragment : String
  deriving DecidableEq, Inhabited

namespace Contribution

/-- The text that stands in the kernel's source: the code or its include line. -/
def text (c : Contribution) (d : Dialect) : String :=
  match c.path with
  | some path => d.includeLine path
  | none => c.code

/-- The source in a file of its own, with its path. -/
def generated? (c : Contribution) : Option (String × String) := c.path.map fun p => (p, c.code)

end Contribution

namespace Graph

/-- What the interfaces bound to a kernel contribute, in order.  Each finds the digests that those
    before it have taken. -/
def contributions (layout : Layout) :
    List (Int × DataInterface) → FileStore → Except UndeclaredParameter (List Contribution)
  | [], _ => .ok []
  | (i, d) :: rest, files =>
    let scope := layout.scope i
    match d.interface.source scope with
    | .error e => .error e
    | .ok code =>
      let path := if d.interface.virtualPath = "" then none
        else some (VirtualPath.generated scope.uid d.interface.virtualPath)
      let (fragment, files) := d.interface.fragment files
      (contributions layout rest files).map fun cs => ⟨path, code, fragment⟩ :: cs

/-- The struct declarations of interfaces and the structs declared, after those before them. -/
def declare (interfaces : List (Int × DataInterface)) (before : List String × List String) :
    List String × List String :=
  interfaces.foldl (fun (out, seen) (_, d) =>
    let (new, seen) := d.interface.structs seen
    (out ++ new, seen)) before

/-- The struct declarations of the interfaces, each struct once. -/
def structDeclarations (interfaces : List (Int × DataInterface)) : List String :=
  (declare interfaces ([], [])).1

/-- The definitions of a kernel and of the interfaces bound to it. -/
def allDefinitions (s : KernelSource) (interfaces : List (Int × DataInterface)) : Definitions :=
  interfaces.foldl (fun ds (_, d) => d.interface.defines ds) s.definitions

/-- Assembles the kernel `k` in a dialect, given the store before the build and the digest of the
    kernel wrapper. -/
def assemble (g : Graph) (files : FileStore) (k : Nat) (s : KernelSource) (d : Dialect)
    (wrapper : Digest) : Except UndeclaredParameter KernelBuild :=
  let interfaces := g.boundInterfaces k
  let layout := g.layout k
  match contributions layout interfaces files with
  | .error e => .error e
  | .ok cs =>
    let additional := s.pool.gather s.sources
    let source :=
      String.join ((structDeclarations interfaces).map (· ++ "\n")) ++
        String.join (additional.map fun x => d.includeLine x.path) ++
        String.join (cs.map fun c => c.text d) ++
        String.join ((g.shims k s).map d.shim) ++ s.body
    let definitions := allDefinitions s interfaces
    let permutations := allPermutations s interfaces
    let generated := cs.filterMap Contribution.generated?
    let content := ((additional.map Source.text ++ generated.map Prod.snd).foldl Hasher.write
      {}).write source
    .ok
      { kernel := k
        friendlyName := g.friendlyName k
        entryPoint := s.entryPoint
        groupSize := s.groupSize
        source
        hashKey := String.join (cs.map Contribution.hashFragment) ++ definitions.listing ++
          permutations.listing ++ content.sum.toHex ++ wrapper.toHex
        generated
        additional
        definitions
        permutations
        layout
        dialect := d }

end Graph

/-! ## Adding one interface after the other -/

namespace Assembly

open Graph (contributions declare structDeclarations allDefinitions allPermutations)

/-- The assembly with all that interfaces contribute. -/
def extend (a : Assembly) (d : Dialect) (is : List (Int × DataInterface))
    (cs : List Contribution) : Assembly where
  body := a.body ++ String.join (cs.map fun c => c.text d)
  declarations := (declare is (a.declarations, a.declared)).1
  declared := (declare is (a.declarations, a.declared)).2
  generated := a.generated ++ cs.filterMap Contribution.generated?
  content := ((cs.filterMap Contribution.generated?).map Prod.snd).foldl Hasher.write a.content
  key := a.key ++ String.join (cs.map Contribution.hashFragment)
  definitions := is.foldl (fun ds (_, x) => x.interface.defines ds) a.definitions
  permutations := is.foldl (fun v (_, x) => x.interface.permutations v) a.permutations
  files := digested is a.files

section
variable {a : Assembly} {d : Dialect} {layout : Layout} {is : List (Int × DataInterface)}
  {cs : List Contribution}

theorem extend_nil (a : Assembly) (d : Dialect) : a.extend d [] [] = a := by
  simp [extend, declare, digested]

/-- One interface more. -/
theorem extend_cons (a : Assembly) (d : Dialect) (x : Int × DataInterface)
    (is : List (Int × DataInterface)) (c : Contribution) (cs : List Contribution) :
    a.extend d (x :: is) (c :: cs) = (a.extend d [x] [c]).extend d is cs := by
  cases h : c.generated? with
  | none => simp [extend, declare, digested, String.append_assoc, h]
  | some p => simp [extend, declare, digested, String.append_assoc, h]

/-- The code of an interface and what it adds besides. -/
theorem addExtras_addCode (a : Assembly) (d : Dialect) (scope : Scope) (slot : Int)
    (x : DataInterface) (code : String) :
    (a.addCode d scope.uid x.interface code).addExtras x.interface =
      a.extend d [(slot, x)] [⟨if x.interface.virtualPath = "" then none
        else some (VirtualPath.generated scope.uid x.interface.virtualPath), code,
          (x.interface.fragment a.files).1⟩] := by
  by_cases h : x.interface.virtualPath = ""
  · simp [addExtras, addCode, extend, declare, digested, h, Contribution.text,
      Contribution.generated?, List.filterMap_cons]
  · simp [addExtras, addCode, extend, declare, digested, h, Contribution.text,
      Contribution.generated?]

/-- **Interfaces that do not fail** add what they contribute, -/
theorem addAll_of_ok (h : contributions layout is a.files = .ok cs) :
    addAll layout d is a = (.ok (), a.extend d is cs) := by
  induction is generalizing a cs with
  | nil =>
    cases h
    rw [addAll, extend_nil]
  | cons x is ih =>
    obtain ⟨slot, x⟩ := x
    simp only [contributions] at h
    rw [addAll]
    cases hcode : x.interface.source (layout.scope slot) with
    | error e =>
      rw [hcode] at h
      cases h
    | ok code =>
      rw [hcode] at h
      dsimp only at h ⊢
      cases hrest : contributions layout is (x.interface.fragment a.files).2 with
      | error e =>
        rw [hrest] at h
        cases h
      | ok rest =>
        rw [hrest] at h
        cases h
        rw [addExtras_addCode a d _ slot, ih hrest, ← extend_cons]

/-- and one that fails ends the build. -/
theorem addAll_of_error {e : UndeclaredParameter} (h : contributions layout is a.files = .error e) :
    (addAll layout d is a).1 = .error e := by
  induction is generalizing a with
  | nil => cases h
  | cons x is ih =>
    obtain ⟨slot, x⟩ := x
    simp only [contributions] at h
    rw [addAll]
    cases hcode : x.interface.source (layout.scope slot) with
    | error e' =>
      rw [hcode] at h
      cases h
      rfl
    | ok code =>
      rw [hcode] at h
      dsimp only at h ⊢
      rw [addExtras_addCode a d _ slot]
      cases hrest : contributions layout is (x.interface.fragment a.files).2 with
      | error e' =>
        rw [hrest] at h
        cases h
        exact ih hrest
      | ok rest =>
        rw [hrest] at h
        cases h

/-- Whether an interface fails or not, the store has only got digests of built-in files. -/
theorem files_addAll_kept {P : FileStore → Prop}
    (hP : ∀ fs path format, P fs → P (fs.digest Builtin.registryId path format).2)
    (layout : Layout) (d : Dialect) (is : List (Int × DataInterface)) {a : Assembly}
    (h : P a.files) : P (addAll layout d is a).2.files := by
  induction is generalizing a with
  | nil => exact h
  | cons x is ih =>
    obtain ⟨slot, x⟩ := x
    rw [addAll]
    cases x.interface.source (layout.scope slot) with
    | error e => exact h
    | ok code =>
      dsimp only
      rw [addExtras_addCode a d _ slot]
      exact ih (x.interface.fragment_kept hP h)

/-- The additional sources stand before everything else. -/
theorem start_eq (s : KernelSource) (d : Dialect) (files : FileStore) : start s d files =
    { body := String.join ((s.pool.gather s.sources).map fun x => d.includeLine x.path)
      content := ((s.pool.gather s.sources).map Source.text).foldl Hasher.write {}
      definitions := s.definitions
      permutations := PermutationVector.empty.addAll s.permutations
      files } := by
  have hfold : ∀ (xs : List Source) (a : Assembly), xs.foldl (addSource d) a =
      { a with
        body := a.body ++ String.join (xs.map fun x => d.includeLine x.path)
        content := (xs.map Source.text).foldl Hasher.write a.content } := by
    intro xs
    induction xs with
    | nil => intro a; simp
    | cons x xs ih => intro a; rw [List.foldl_cons, ih]; simp [addSource, String.append_assoc]
  rw [start, hfold]
  simp

@[simp] theorem files_start (s : KernelSource) (d : Dialect) (files : FileStore) :
    (start s d files).files = files := by
  rw [start_eq]

end

end Assembly

namespace Graph

/-- **The assembly of a kernel** is what adding its interfaces comes to. -/
theorem assemble_eq (g : Graph) (files : FileStore) (k : Nat) (s : KernelSource) (d : Dialect)
    (wrapper : Digest) : g.assemble files k s d wrapper =
      (contributions (g.layout k) (g.boundInterfaces k) files).map fun cs =>
        g.finish k s d ((Assembly.start s d files).extend d (g.boundInterfaces k) cs) wrapper := by
  rw [assemble]
  cases contributions (g.layout k) (g.boundInterfaces k) files with
  | error e => rfl
  | ok cs =>
    simp [Except.map, finish, Assembly.start_eq, Assembly.extend, Assembly.source,
      structDeclarations, allDefinitions, allPermutations, String.append_assoc, List.foldl_append]

end Graph

end KernelGraph
