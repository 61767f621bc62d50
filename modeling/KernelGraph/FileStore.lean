/-
  Registries of shader sources.

  A registry holds sources by virtual path and falls back to its parents in order.  Registries are
  created one after the other and a parent is older than its children, so a store numbers them and
  looking a path up goes down in number.

  The digest of a file, for one output format, covers the format's name, the file's text and the
  digests of the files it includes; includes of generated paths are left out, because whoever
  generates them hashes their content.  Digests are cached per registry until the registry is
  edited.
-/
import KernelGraph.Digest
import KernelGraph.Include.Expansion
import KernelGraph.Lru
import KernelGraph.VirtualPath

namespace KernelGraph

/-- The path and the format that a digest was taken for. -/
structure DigestKey where
  path : String
  format : String
  deriving DecidableEq, Hashable

/-- The digests that a registry remembers. -/
abbrev DigestCache := Lru DigestKey Digest

/-- The number of digests that a registry remembers. -/
def digestLimit : Int := 1024

/-- A registry of sources. -/
structure Registry where
  sources : List (String × String) := []
  parents : List Nat := []
  digests : DigestCache := Lru.empty digestLimit

/-- Replaces the value of a key in place, or appends it. -/
def putAssoc {α : Type} (key : String) (value : α) : List (String × α) → List (String × α)
  | [] => [(key, value)]
  | e :: es => if e.1 = key then (key, value) :: es else e :: putAssoc key value es

namespace Registry

/-- The paths registered here, sorted. -/
def paths (r : Registry) : List String :=
  (r.sources.map Prod.fst).mergeSort fun a b => decide (a ≤ b)

end Registry

/-- The registries of a program, numbered in order of creation. -/
structure FileStore where
  registries : Array Registry := #[]

/-- Why a source cannot be registered. -/
structure PathNotAbsolute where
  path : String
  deriving DecidableEq

/-- The message of the error. -/
def PathNotAbsolute.message (e : PathNotAbsolute) : String :=
  "shader: virtual path must start with '/': " ++ Text.quoted e.path

namespace FileStore

/-- The registry with a number; an empty one if there is none. -/
def registry (fs : FileStore) (id : Nat) : Registry := fs.registries.getD id {}

/-- Adds an empty registry that falls back to the given ones, and returns its number. -/
def create (fs : FileStore) (parents : List Nat) : Nat × FileStore :=
  (fs.registries.size, ⟨fs.registries.push { parents }⟩)

/-- Changes one registry. -/
def modify (fs : FileStore) (id : Nat) (f : Registry → Registry) : FileStore :=
  ⟨fs.registries.modify id f⟩

/-- Stores a source, replacing what stood at the path, and forgets the registry's digests. -/
def register (fs : FileStore) (id : Nat) (path text : String) :
    Except PathNotAbsolute FileStore :=
  if Text.startsWith path "/" then
    .ok (fs.modify id fun r =>
      { r with sources := putAssoc path text r.sources, digests := r.digests.clear })
  else .error ⟨path⟩

/-- The text at a path: the registry's own, or that of the first parent that has one. -/
def source? (fs : FileStore) (id : Nat) (path : String) : Option String :=
  match (fs.registry id).sources.lookup path with
  | some text => some text
  | none =>
    (fs.registry id).parents.findSome? fun p =>
      if _h : p < id then source? fs p path else none
termination_by id

/-- All paths of all registries. -/
def known (fs : FileStore) : List String :=
  fs.registries.toList.flatMap fun r => r.sources.map Prod.fst

theorem mem_known (fs : FileStore) (id : Nat) (path text : String)
    (h : fs.source? id path = some text) : path ∈ fs.known := by
  induction id using Nat.strongRecOn with
  | ind id ih =>
    rw [source?] at h
    split at h
    · rename_i t hl
      have hm := Include.Resolver.mem_keys_of_lookup hl
      rw [known, List.mem_flatMap]
      refine ⟨fs.registry id, ?_, hm⟩
      rw [registry, Array.getD_eq_getD_getElem?] at *
      cases hr : fs.registries[id]? with
      | none => simp [hr] at hl
      | some r =>
        simp only [Option.getD_some]
        exact Array.mem_toList_iff.2 (Array.mem_of_getElem? hr)
    · obtain ⟨p, _, hp⟩ := List.exists_of_findSome?_eq_some h
      split at hp
      · exact ih p (by assumption) hp
      · simp at hp

/-- The sources that a registry sees. -/
def resolver (fs : FileStore) (id : Nat) : Include.Resolver where
  source? := fs.source? id
  known := fs.known
  mem_known := fs.mem_known id

/-- Adds the digests that `digest` gives for a list of paths to a hasher, with a running cache. -/
def writeDigests (digest : String → DigestCache → Except Include.Error Digest × DigestCache) :
    List String → Hasher → DigestCache → Except Include.Error Hasher × DigestCache
  | [], h, c => (.ok h, c)
  | p :: ps, h, c =>
    match digest p c with
    | (.error e, c) => (.error e, c)
    | (.ok d, c) => writeDigests digest ps (h.writeDigest d) c

/-- The digest of the file at `path`, which the last file of the chain includes.  The depth bounds
    the length of chains, see `digest`. -/
def digestFile (source? : String → Option String) (format : String) :
    (depth : Nat) → (chain : List String) → (path : String) → DigestCache →
    Except Include.Error Digest × DigestCache
  | 0, chain, path, c => (.error (.cycle chain path), c)
  | depth + 1, chain, path, c =>
    if path ∈ chain then (.error (.cycle chain path), c)
    else
      c.getOrCreate ⟨path, format⟩ fun c =>
        match source? path with
        | none => (.error (.notFound path none), c)
        | some text =>
          let included := (Include.paths text).filter fun p => !VirtualPath.isGenerated p
          let h := (Hasher.write {} format).write text
          match writeDigests (digestFile source? format depth (chain ++ [path])) included h c with
          | (.error e, c) => (.error e, c)
          | (.ok h, c) => (.ok h.sum, c)

/-- The digest of the file at `path` as compiled for `format`.  A chain of distinct registered
    paths and one more is no longer than the depth, so the depth is never used up. -/
def digest (fs : FileStore) (id : Nat) (path format : String) :
    Except Include.Error Digest × FileStore :=
  let (d, c) := digestFile (fs.source? id) format (fs.known.length + 2) [] path
    (fs.registry id).digests
  (d, fs.modify id fun r => { r with digests := c })

end FileStore

end KernelGraph
