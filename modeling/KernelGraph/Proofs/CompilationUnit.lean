/-
  Compilation units: the texts that a kernel build hands to the compiler.

  The unit of a permutation is the expansion of its definitions, the constants of the group size and
  the kernel wrapper.  The constants are lines of their own that are no directives, so they stand in
  the unit as they are.  Hence two builds that agree in everything else have the same units exactly
  if they have the same constants, or if nothing can be expanded at all (`unit?_eq_iff`).

  Where the wrapper ends with the include line of the assembled source, the unit is what the source
  becomes, between the markers of both (`header_becomes`).
-/
import KernelGraph.Compile.Program
import KernelGraph.Graph.Build
import KernelGraph.Proofs.FileDigest
import KernelGraph.Proofs.Fragments
import Std.Data.String.ToNat

namespace KernelGraph

/-! ## Definitions as lines -/

namespace Dialect

/-- The declaration of a definition without its line feed. -/
def declaration (d : Dialect) (name value : String) : String :=
  match d with
  | hlsl => "#define " ++ name ++ (if value = "" then "" else " " ++ value)
  | wgsl => "const " ++ name ++ " = " ++ (if value = "" then "true" else value) ++ ";"

theorem define_eq (d : Dialect) (name value : String) :
    d.define name value = d.declaration name value ++ "\n" := by
  cases d with
  | hlsl => rfl
  | wgsl =>
    have hend : (";\n" : String) = ";" ++ "\n" := by decide
    simp only [define, declaration, hend, String.append_assoc]

theorem isTerminated_define (d : Dialect) (name value : String) :
    Text.isTerminated (d.define name value) := by
  rw [define_eq]
  exact Text.isTerminated_append_newline _

/-- Without line feeds in it, a definition is one line. -/
theorem lines_define (d : Dialect) {name value : String} (hname : '\n' ∉ name.toList)
    (hvalue : '\n' ∉ value.toList) : Text.lines (d.define name value) = [d.define name value] := by
  rw [define_eq]
  apply Text.lines_single
  cases d with
  | hlsl =>
    rw [declaration]
    split <;> simp [hname, hvalue]
  | wgsl =>
    rw [declaration]
    split <;> simp [hname, hvalue]

/-- A definition is no include directive. -/
theorem path?_define (d : Dialect) (name value : String) :
    Include.path? (d.define name value) = none := by
  rw [Include.path?, Option.map_eq_none_iff]
  cases d with
  | hlsl =>
    have h : (define hlsl name value).toList = '#' :: 'd' :: ("efine ".toList ++ name.toList ++
        (if value = "" then "" else " " ++ value).toList ++ ['\n']) := by
      simp [define]
    rw [h]
    exact Include.pathChars?_eq_none (by decide) rfl
  | wgsl =>
    have h : (define wgsl name value).toList = 'c' :: ("onst ".toList ++ name.toList ++
        " = ".toList ++ (if value = "" then "true" else value).toList ++ [';', '\n']) := by
      simp [define]
    rw [h]
    exact Include.pathChars?_eq_none (by decide) rfl

theorem define_injective (d : Dialect) {name v w : String} (hv : v ≠ "") (hw : w ≠ "")
    (h : d.define name v = d.define name w) : v = w := by
  rw [define_eq, define_eq, String.append_left_inj] at h
  cases d with
  | hlsl =>
    simp only [declaration] at h
    rw [if_neg hv, if_neg hw] at h
    rwa [String.append_right_inj, String.append_right_inj] at h
  | wgsl =>
    simp only [declaration] at h
    rw [if_neg hv, if_neg hw] at h
    rwa [String.append_left_inj, String.append_right_inj] at h

end Dialect

/-! ## The constants of the group size -/

namespace GroupSize

/-- The sizes that the constants give, if there are constants; a zero along one axis counts as
    one. -/
def constants (g : GroupSize) : Option (UInt32 × UInt32 × UInt32) :=
  if g.isUnset then none else some (max g.x 1, max g.y 1, max g.z 1)

end GroupSize

namespace Request

/-- The constants of the group size as text. -/
def groupText (r : Request) (d : Dialect) : String :=
  String.join (r.groupDefines.map fun x => d.define x.name x.value)

/-- The definitions as text. -/
def definitionText (r : Request) (d : Dialect) : String :=
  String.join (r.definitions.map fun x => d.define x.name x.value)

/-- A unit begins with the definitions, the constants and the line that includes the wrapper. -/
theorem header_eq (r : Request) (d : Dialect) :
    r.header d = r.definitionText d ++ (r.groupText d ++ d.includeLine r.wrapper) := by
  rw [header, List.map_append, String.join_append, definitionText, groupText, String.append_assoc]

theorem isTerminated_definitionText (r : Request) (d : Dialect) :
    Text.isTerminated (r.definitionText d) := by
  apply Text.isTerminated_join
  intro s hs
  obtain ⟨x, _, rfl⟩ := List.mem_map.1 hs
  exact d.isTerminated_define x.name x.value

theorem isTerminated_groupText (r : Request) (d : Dialect) :
    Text.isTerminated (r.groupText d) := by
  apply Text.isTerminated_join
  intro s hs
  obtain ⟨x, _, rfl⟩ := List.mem_map.1 hs
  exact d.isTerminated_define x.name x.value

/-- No line feed occurs in a constant. -/
theorem newline_notMem_groupDefines {r : Request} {x : Define} (h : x ∈ r.groupDefines) :
    '\n' ∉ x.name.toList ∧ '\n' ∉ x.value.toList := by
  rw [groupDefines] at h
  split at h
  · cases h
  · obtain ⟨⟨axis, n⟩, hmem, rfl⟩ := List.mem_map.1 h
    refine ⟨?_, fun hdigit => ?_⟩
    · show '\n' ∉ ("THREADGROUP_SIZE_" ++ axis).toList
      simp only [GroupSize.axes, List.mem_cons, Prod.mk.injEq, List.not_mem_nil, or_false] at hmem
      rcases hmem with ⟨rfl, _⟩ | ⟨rfl, _⟩ | ⟨rfl, _⟩ <;> decide
    · have hrepr : (toString (max n 1).toNat).toList = Nat.toDigits 10 (max n 1).toNat :=
        Nat.toList_repr
      rw [hrepr] at hdigit
      exact absurd (Nat.isDigit_of_mem_toDigits (by decide) (by decide) hdigit) (by decide)

/-- Every constant is one line. -/
theorem lines_groupText (r : Request) (d : Dialect) :
    Text.lines (r.groupText d) = r.groupDefines.map fun x => d.define x.name x.value := by
  apply Text.lines_join
  intro s hs
  obtain ⟨x, hx, rfl⟩ := List.mem_map.1 hs
  obtain ⟨hname, hvalue⟩ := newline_notMem_groupDefines hx
  exact ⟨d.isTerminated_define x.name x.value, d.lines_define hname hvalue⟩

theorem plain_groupText (r : Request) (d : Dialect) : Include.Plain (r.groupText d) := by
  intro line hline
  rw [lines_groupText] at hline
  obtain ⟨x, _, rfl⟩ := List.mem_map.1 hline
  exact d.path?_define x.name x.value

/-- The text of the constants tells the sizes. -/
theorem groupText_eq_iff {r s : Request} {d : Dialect} :
    r.groupText d = s.groupText d ↔ r.groupSize.constants = s.groupSize.constants := by
  have hdefines : ∀ t : Request, t.groupDefines = match t.groupSize.constants with
      | none => []
      | some (x, y, z) => [⟨"THREADGROUP_SIZE_X", toString x.toNat⟩,
          ⟨"THREADGROUP_SIZE_Y", toString y.toNat⟩, ⟨"THREADGROUP_SIZE_Z", toString z.toNat⟩] := by
    intro t
    rw [groupDefines, GroupSize.constants]
    split <;> rfl
  constructor
  · intro h
    have hlines := congrArg Text.lines h
    rw [lines_groupText, lines_groupText, hdefines, hdefines] at hlines
    have hvalue : ∀ {name : String} {m n : UInt32},
        d.define name (toString m.toNat) = d.define name (toString n.toNat) → m = n := by
      intro name m n h
      have hne : ∀ k : Nat, toString k ≠ "" := fun k => Nat.repr_ne_empty
      exact UInt32.toNat_inj.1 (Nat.repr_injective (d.define_injective (hne _) (hne _) h))
    cases hr : r.groupSize.constants with
    | none =>
      cases hs : s.groupSize.constants with
      | none => rfl
      | some c =>
        rw [hr, hs] at hlines
        cases hlines
    | some c =>
      cases hs : s.groupSize.constants with
      | none =>
        rw [hr, hs] at hlines
        cases hlines
      | some c' =>
        obtain ⟨x, y, z⟩ := c
        obtain ⟨x', y', z'⟩ := c'
        rw [hr, hs] at hlines
        simp only [List.map_cons, List.map_nil, List.cons.injEq, and_true] at hlines
        obtain ⟨hx, hy, hz⟩ := hlines
        rw [hvalue hx, hvalue hy, hvalue hz]
  · intro h
    rw [groupText, groupText, hdefines, hdefines, h]

/-- Definitions without line feeds are lines, and no directives. -/
theorem plain_definitionText {r : Request} {d : Dialect}
    (h : ∀ x ∈ r.definitions, '\n' ∉ x.name.toList ∧ '\n' ∉ x.value.toList) :
    Include.Plain (r.definitionText d) := by
  refine Include.plain_join fun t ht => ?_
  obtain ⟨x, hx, rfl⟩ := List.mem_map.1 ht
  obtain ⟨hname, hvalue⟩ := h x hx
  refine ⟨d.isTerminated_define x.name x.value, fun line hline => ?_⟩
  rw [d.lines_define hname hvalue] at hline
  rw [List.mem_singleton.1 hline]
  exact d.path?_define x.name x.value

open Include (Becomes framed)

/-- A request whose wrapper has lines of its own and then includes the assembled source. -/
theorem header_becomes {r : Request} {d : Dialect} {own : List String} {unfolded : String}
    {done : List String} (hwrapper : r.wrapper = VirtualPath.kernelWrapper)
    (hdefinitions : ∀ x ∈ r.definitions, '\n' ∉ x.name.toList ∧ '\n' ∉ x.value.toList)
    (hown : ∀ t ∈ own, Text.isTerminated t ∧ Include.Plain t)
    (hfile : r.resolver.source? VirtualPath.kernelWrapper =
      some (String.join own ++ ("#include \"" ++ VirtualPath.generatedKernel ++ "\"\n")))
    (hkernel : r.resolver.source? VirtualPath.generatedKernel = some r.source)
    (hsource : Becomes r.resolver [VirtualPath.kernelWrapper, VirtualPath.generatedKernel] []
      r.source unfolded done) :
    ∃ done', Becomes r.resolver [] [] (r.header d)
      (r.definitionText d ++ (r.groupText d ++ ("\n" ++ framed VirtualPath.kernelWrapper
        (String.join own ++ framed VirtualPath.generatedKernel unfolded)))) done' := by
  have hinner : Becomes r.resolver [VirtualPath.kernelWrapper] []
      (String.join own ++ ("#include \"" ++ VirtualPath.generatedKernel ++ "\"\n"))
      (String.join own ++ framed VirtualPath.generatedKernel unfolded)
      (VirtualPath.generatedKernel :: done) :=
    (Becomes.joined hown).append
      (.directive (by decide) (by decide) (by decide) List.not_mem_nil hkernel hsource)
  rw [header_eq, hwrapper]
  exact ⟨_, (Becomes.plain (r.isTerminated_definitionText d)
    (plain_definitionText hdefinitions)).append
      ((Becomes.plain (r.isTerminated_groupText d) (r.plain_groupText d)).append
        (.includeLine d (by decide) (by decide) List.not_mem_nil List.not_mem_nil hfile hinner))⟩

end Request

/-! ## The units of a build -/

namespace KernelBuild

/-- The compilation unit of a permutation: what the request for it expands to. -/
def unit? (b : KernelBuild) (files : Include.Resolver) (id : Int64) : Option String :=
  match b.permutations.values id with
  | .error _ => none
  | .ok values => (((b.request files).variant values id).expand b.dialect).toOption

/-- Two builds that agree in everything their units are made of, except for the group size. -/
structure SameParts (a b : KernelBuild) : Prop where
  source : a.source = b.source
  additional : a.additional.map (fun s => (s.path, s.text)) =
    b.additional.map fun s => (s.path, s.text)
  generated : a.generated = b.generated
  definitions : a.definitions = b.definitions
  permutations : a.permutations = b.permutations

theorem includes_eq (b : KernelBuild) :
    b.includes = b.generated.foldl (fun files (path, text) => putAssoc path text files)
      ((b.additional.map fun s => (s.path, s.text)).foldl
        (fun files x => putAssoc x.1 x.2 files) []) := by
  rw [includes, List.foldl_map]

section
variable {a b : KernelBuild} {files files' : Include.Resolver}

/-- The resolvers of the requests of two such builds give the same texts. -/
theorem SameParts.source?_eq (h : SameParts a b) (hfiles : files.source? = files'.source?)
    (values : List Define) (id : Int64) :
    ((a.request files).variant values id).resolver.source? =
      ((b.request files').variant values id).resolver.source? := by
  have hincludes : a.includes = b.includes := by
    rw [includes_eq, includes_eq, h.additional, h.generated]
  funext path
  show (((Include.Resolver.ofList [(_, a.source)]).source? path).or
      ((Include.Resolver.ofList a.includes).source? path)).or (files.source? path) = _
  rw [h.source, hincludes, hfiles]
  rfl

/-- Two such builds have a unit for the same permutations, and the units differ in the constants
    of the group size only. -/
theorem SameParts.unit?_cases (h : SameParts a b) (hdialect : a.dialect = b.dialect)
    (hfiles : files.source? = files'.source?) (id : Int64) :
    (a.unit? files id = none ∧ b.unit? files' id = none) ∨
      ∃ x y, a.unit? files id = some (x ++ (a.request files).groupText b.dialect ++ y) ∧
        b.unit? files' id = some (x ++ (b.request files').groupText b.dialect ++ y) := by
  rw [unit?, unit?, h.permutations, hdialect]
  cases b.permutations.values id with
  | error e => exact Or.inl ⟨rfl, rfl⟩
  | ok values =>
    dsimp only
    -- the resolver, the definitions and the last line are those of `b` for both
    let r := ((b.request files').variant values id).resolver
    let line := b.dialect.includeLine VirtualPath.kernelWrapper
    let ds := ((b.request files').variant values id).definitionText b.dialect
    have hterm := ((b.request files').variant values id).isTerminated_definitionText b.dialect
    have hb : ((b.request files').variant values id).expand b.dialect =
        (Include.expand r (ds ++ ((b.request files').groupText b.dialect ++ line))).mapError
          fun e => ⟨b.friendlyName, e⟩ := by
      rw [Request.expand, Request.header_eq]
      rfl
    have ha : ((a.request files).variant values id).expand b.dialect =
        (Include.expand r (ds ++ ((a.request files).groupText b.dialect ++ line))).mapError
          fun e => ⟨a.friendlyName, e⟩ := by
      rw [Request.expand, Request.header_eq, Include.expand_congr (h.source?_eq hfiles values id)]
      have hds : ((a.request files).variant values id).definitionText b.dialect = ds := by
        show String.join ((a.definitions.toList ++ values).map _) = _
        rw [h.definitions]
        rfl
      rw [hds]
      rfl
    rw [ha, hb]
    -- the two headers differ in lines that are no directives
    rcases Include.expand_plain r hterm line with ⟨e, he⟩ | ⟨x, y, hxy⟩
    · left
      rw [he _ (Request.isTerminated_groupText _ _) (Request.plain_groupText _ _),
        he _ (Request.isTerminated_groupText _ _) (Request.plain_groupText _ _)]
      exact ⟨rfl, rfl⟩
    · right
      refine ⟨x, y, ?_⟩
      rw [hxy _ (Request.isTerminated_groupText _ _) (Request.plain_groupText _ _),
        hxy _ (Request.isTerminated_groupText _ _) (Request.plain_groupText _ _)]
      exact ⟨rfl, rfl⟩

/-- **When two such builds have the same units**: if their groups have the same constants, or if
    no permutation has a unit. -/
theorem SameParts.unit?_eq_iff (h : SameParts a b) (hdialect : a.dialect = b.dialect)
    (hfiles : files.source? = files'.source?) :
    (∀ id, a.unit? files id = b.unit? files' id) ↔
      a.groupSize.constants = b.groupSize.constants ∨ ∀ id, a.unit? files id = none := by
  constructor
  · intro heq
    by_cases hnone : ∀ id, a.unit? files id = none
    · exact Or.inr hnone
    · obtain ⟨id, hid⟩ := not_forall.1 hnone
      rcases h.unit?_cases hdialect hfiles id with ⟨ha, _⟩ | ⟨x, y, ha, hb⟩
      · exact absurd ha hid
      · have htext := heq id
        rw [ha, hb, Option.some.injEq, String.append_left_inj, String.append_right_inj] at htext
        exact Or.inl (Request.groupText_eq_iff.1 htext)
  · intro hor id
    rcases h.unit?_cases hdialect hfiles id with ⟨ha, hb⟩ | ⟨x, y, ha, hb⟩
    · rw [ha, hb]
    · rcases hor with hconst | hnone
      · have htext : (a.request files).groupText b.dialect =
            (b.request files').groupText b.dialect := Request.groupText_eq_iff.2 hconst
        rw [ha, hb, htext]
      · rw [hnone id] at ha
        cases ha

end

/-! ### With a wrapper that only includes the source -/

open Include (Becomes framed)

/-- Where the wrapper has lines of its own and then includes the assembled source, the unit is what
    the source becomes, between the markers of the wrapper and the source. -/
theorem unit?_wrapped {b : KernelBuild} {files : Include.Resolver} {values : List Define}
    {id : Int64}
    {own : List String} {unfolded : String} {done : List String}
    (hvalues : b.permutations.values id = .ok values)
    (hdefinitions : ∀ x ∈ b.definitions.toList ++ values,
      '\n' ∉ x.name.toList ∧ '\n' ∉ x.value.toList)
    (hown : ∀ t ∈ own, Text.isTerminated t ∧ Include.Plain t)
    (hfile : files.source? VirtualPath.kernelWrapper =
      some (String.join own ++ ("#include \"" ++ VirtualPath.generatedKernel ++ "\"\n")))
    (hincludes : b.includes.lookup VirtualPath.kernelWrapper = none)
    (hsource : Becomes ((b.request files).variant values id).resolver
      [VirtualPath.kernelWrapper, VirtualPath.generatedKernel] [] b.source unfolded done) :
    b.unit? files id = some (((b.request files).variant values id).definitionText b.dialect ++
      ((b.request files).groupText b.dialect ++ ("\n" ++ framed VirtualPath.kernelWrapper
        (String.join own ++ framed VirtualPath.generatedKernel unfolded)))) := by
  let r := (b.request files).variant values id
  have hnone : (Include.Resolver.ofList b.includes).source? VirtualPath.kernelWrapper = none :=
    hincludes
  have hwrapper : r.resolver.source? VirtualPath.kernelWrapper =
      files.source? VirtualPath.kernelWrapper := by
    show (((Include.Resolver.ofList [(VirtualPath.generatedKernel, b.source)]).source?
      VirtualPath.kernelWrapper).or ((Include.Resolver.ofList b.includes).source?
        VirtualPath.kernelWrapper)).or (files.source? VirtualPath.kernelWrapper) = _
    rw [hnone]
    rfl
  obtain ⟨_, hheader⟩ := Request.header_becomes (d := b.dialect) (r := r) rfl hdefinitions hown
    (hwrapper.trans hfile) rfl hsource
  rw [unit?, hvalues]
  dsimp only
  rw [Request.expand, hheader.expand_eq]
  rfl

/-- The bare wrapper has no lines of its own. -/
theorem bareWrapper_eq : FileStore.bareWrapper =
    String.join [] ++ ("#include \"" ++ VirtualPath.generatedKernel ++ "\"\n") := by
  decide

/-- The unit with the bare wrapper. -/
theorem unit?_bare {b : KernelBuild} {files : Include.Resolver} {values : List Define} {id : Int64}
    {unfolded : String} {done : List String} (hvalues : b.permutations.values id = .ok values)
    (hdefinitions : ∀ x ∈ b.definitions.toList ++ values,
      '\n' ∉ x.name.toList ∧ '\n' ∉ x.value.toList)
    (hfile : files.source? VirtualPath.kernelWrapper = some FileStore.bareWrapper)
    (hincludes : b.includes.lookup VirtualPath.kernelWrapper = none)
    (hsource : Becomes ((b.request files).variant values id).resolver
      [VirtualPath.kernelWrapper, VirtualPath.generatedKernel] [] b.source unfolded done) :
    b.unit? files id = some (((b.request files).variant values id).definitionText b.dialect ++
      ((b.request files).groupText b.dialect ++ ("\n" ++ framed VirtualPath.kernelWrapper
        (String.join [] ++ framed VirtualPath.generatedKernel unfolded)))) :=
  unit?_wrapped hvalues hdefinitions (fun t ht => by cases ht)
    (hfile.trans (congrArg some bareWrapper_eq)) hincludes hsource

end KernelBuild

end KernelGraph
