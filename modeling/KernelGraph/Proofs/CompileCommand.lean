/-
  The verdict of the compile command.

  The command opens a session with the graphs of a file, closes those that it was not asked for, and
  compiles the others one after the other, each of which it closes before it goes on.

  1. Every graph is closed once (`closed_tour`), whatever is done with it.

  2. Until a graph has its turn it is as it was opened (`Touring`).  So its update is the first one,
     in an idle session, and the command prints a report of it (`Reports`): why it was not updated,
     or a row for each kernel with a source.

  3. What is said of a kernel is true of some kernel that has its hash key, among the graphs that
     were asked for (`Yields`).  Where hash keys decide what compiles (`KeysDecide`), it is true of
     the kernel itself, and the command fails exactly if it should (`compile_verdict_exact`).

  4. Where they do not, a kernel that cannot be compiled may pass for one that is, by the program of
     another kernel (`failure_shared`), so that the command does not always fail when it should
     (`not_compile_verdict`).

  All of this holds in every environment, whatever its readers make of the texts of files and
  whatever its code generator makes of sources.
-/
import KernelGraph.Proofs.Loading
import KernelGraph.Proofs.Session.Adoption
import KernelGraph.Proofs.Session.FirstUpdate
import KernelGraph.Proofs.TranslationUnit
import KernelGraph.Tool.Run

namespace KernelGraph

/-- A level that has a name is a defined one. -/
theorem FeatureLevel.isValid_of_parse? {text : String} {l : FeatureLevel}
    (h : FeatureLevel.parse? text = some l) : l.isValid = true := by
  obtain ⟨i, hi, rfl⟩ := Option.map_eq_some_iff.1 h
  have hlt : i < 3 := (List.findIdx?_eq_some_iff_getElem.1 hi).1
  match i, hlt with
  | 0, _ => rfl
  | 1, _ => rfl
  | 2, _ => rfl

theorem Config.isValid_feature (c : Config) : c.feature.isValid = true := by
  unfold Config.feature
  cases h : FeatureLevel.parse? c.featureLevel with
  | none => rfl
  | some l => exact FeatureLevel.isValid_of_parse? h

namespace Compiler

/-- A compiler that passes sources through accepts a kernel without permutations exactly if its unit
    mentions the entry point. -/
theorem toBool_compile_passThrough {format : String} {level : FeatureLevel} {b : KernelBuild}
    {files : Include.Resolver} {unit : String} (hpermutations : b.permutations = .empty)
    (hunit : b.unit? files 0 = some unit) :
    (Program.compile (passThrough format level b.dialect) false (b.request files) b.hashKey
      (some b.permutations)).1.toBool = (b.entryPoint = "" || Text.contains unit b.entryPoint) := by
  have hvalues : b.permutations.values 0 = .ok [] := by
    rw [hpermutations]
    rfl
  have hexpand : ((b.request files).variant [] 0).expand b.dialect = .ok unit := by
    simp only [KernelBuild.unit?, hvalues] at hunit
    cases hexpand : ((b.request files).variant [] 0).expand b.dialect with
    | error e =>
      rw [hexpand] at hunit
      cases hunit
    | ok text =>
      rw [hexpand] at hunit
      cases hunit
      rfl
  have hentry : ((b.request files).variant [] 0).entryPoint = b.entryPoint := rfl
  rw [hpermutations]
  by_cases hmentioned : (b.entryPoint = "" || Text.contains unit b.entryPoint) = true
  · have hcompile : (passThrough format level b.dialect).compile false
        ((b.request files).variant [] 0) = .ok { code := unit } := by
      simp only [passThrough, hexpand, hentry]
      rw [if_neg Bool.false_ne_true, if_neg]
      simpa [or_iff_not_imp_left] using hmentioned
    rw [Program.compile_empty hcompile, hmentioned]
    rfl
  · obtain ⟨r, hcompile⟩ : ∃ r, (passThrough format level b.dialect).compile false
        ((b.request files).variant [] 0) = .error r := by
      simp only [passThrough, hexpand, hentry]
      rw [if_neg Bool.false_ne_true, if_pos]
      · exact ⟨_, rfl⟩
      · simpa using hmentioned
    rw [Program.compile_empty_error hcompile, Bool.eq_false_of_not_eq_true hmentioned]
    rfl

end Compiler

/-- A character of a text that is written out. -/
theorem notMem_ofList {c : Char} {cs : List Char} (h : c ∉ cs) : c ∉ (String.ofList cs).toList := by
  rwa [String.toList_ofList]

namespace Tool

open GraphFile (GraphDecl KernelDecl)
open Include (framed)
open Session (Handled GraphSteady Idle First Verdict)
open KernelGraph.Graph (Answers Alike)

/-! ## What kernels come to -/

/-- The compiler of the run-time format. -/
def runtimeCompiler? (env : Environment) (config : Config) : Option Compiler :=
  (openSession env config.graphOptions []).compiler? config.runtimeFormat

/-- The dialect that kernels are assembled in. -/
def runtimeDialect (env : Environment) (config : Config) : Dialect :=
  match runtimeCompiler? env config with
  | some c => c.dialect
  | none => .wgsl

/-- What a kernel is built as when the graph is compiled. -/
def runtimeBuild (env : Environment) (config : Config) (G : Graph) (k : Nat) :
    Except GraphError KernelBuild :=
  (G.build Builtin.store Builtin.registryId k (runtimeDialect env config)
    config.runtimeFormat).result

/-- What a build is compiled to. -/
def runtimeProgram (env : Environment) (config : Config) (b : KernelBuild) :
    Except ProgramError Program :=
  match runtimeCompiler? env config with
  | none => .error (.cancelled b.friendlyName)
  | some c =>
    (Program.compile c false (b.request (Builtin.store.resolver Builtin.registryId)) b.hashKey
      (some b.permutations)).1

/-- A kernel of one of the graphs has the key and is compiled to the program or error. -/
def Yields (env : Environment) (config : Config) (graphs : List Graph) (key : ProgramKey)
    (outcome : Except ProgramError Program) : Prop :=
  ∃ G ∈ graphs, ∃ c ∈ G.compilable, ∃ b, runtimeBuild env config G c.1 = .ok b ∧
    key = ⟨config.runtimeFormat, b.hashKey⟩ ∧ runtimeProgram env config b = outcome

/-- Kernels of the graphs that have one hash key can all be compiled, or none of them can. -/
def KeysDecide (env : Environment) (config : Config) (graphs : List Graph) : Prop :=
  ∀ key outcome outcome', Yields env config graphs key outcome →
    Yields env config graphs key outcome' →
    outcome'.toBool = outcome.toBool

/-- The graph is valid, its format is known, and every kernel with a source is built and
    compiles. -/
structure Compiles (env : Environment) (config : Config) (G : Graph) : Prop where
  valid : G.validate = .ok ()
  format : (runtimeCompiler? env config).isSome
  kernels : ∀ c ∈ G.compilable, ∃ b p, runtimeBuild env config G c.1 = .ok b ∧
    runtimeProgram env config b = .ok p

/-- What the command prints about a graph, and why the graph fails if it does.  A row says of a
    kernel what is true of a kernel of `graphs` with the same key. -/
inductive Reports (env : Environment) (config : Config) (graphs : List Graph)
    (diagnostics : Bool) (G : Graph) :
    String → Option Failure → Prop
  | invalid {e : InvalidGraph} (he : G.validate = .error e) :
      Reports env config graphs diagnostics G "" (some (.graph (.invalid e)))
  | unknownFormat (hvalid : G.validate = .ok ())
      (hnone : runtimeCompiler? env config = none) :
      Reports env config graphs diagnostics G ""
        (some (.graph (.runtimeFormat G.name ⟨config.runtimeFormat⟩)))
  | updated {rows : List (Invocation × CompileResult)} (hvalid : G.validate = .ok ())
      (hformat : (runtimeCompiler? env config).isSome)
      (hnames : (rows.map fun x => (x.1.kernel, x.1.name)) =
        G.compilable.map fun c => (c.1, c.2.1.name))
      (hrows : ∀ x ∈ rows, Verdict (Yields env config graphs) config.runtimeFormat
        (runtimeBuild env config G x.1.kernel) x.1 x.2) :
      Reports env config graphs diagnostics G
        (highlight false G.name ++ " (generation 1)\n" ++
          String.join (rows.map fun x => invocationLines diagnostics x.1 x.2))
        (if (rows.filter fun x => !x.2.success).length = 0 then none
          else some (.compile (rows.filter fun x => !x.2.success).length rows.length))

section
variable {env : Environment} {config : Config} {graphs : List Graph} {G : Graph} {output : String}
  {failure : Option Failure} {diagnostics : Bool}

/-- **A row is right about its kernel** where hash keys decide what compiles. -/
theorem success_iff (hdecide : KeysDecide env config graphs) (hG : G ∈ graphs)
    {c : Nat × Kernel × KernelSource} (hc : c ∈ G.compilable) {v : Invocation} {r : CompileResult}
    (h : Verdict (Yields env config graphs) config.runtimeFormat
      (runtimeBuild env config G c.1) v r) :
    r.success = true ↔ ∃ b p, runtimeBuild env config G c.1 = .ok b ∧
      runtimeProgram env config b = .ok p := by
  have hyields : ∀ {b}, runtimeBuild env config G c.1 = .ok b →
      Yields env config graphs ⟨config.runtimeFormat, b.hashKey⟩ (runtimeProgram env config b) :=
    fun hb => ⟨G, hG, c, hc, _, hb, rfl, rfl⟩
  cases h with
  | @compiled b _ hbuilt hsuccess _ hcomes =>
    refine ⟨fun _ => ?_, fun _ => hsuccess⟩
    have hsame := hdecide _ _ _ hcomes (hyields hbuilt)
    cases hp : runtimeProgram env config b with
    | ok p => exact ⟨b, p, hbuilt, hp⟩
    | error e =>
      rw [hp] at hsame
      cases hsame
  | @failed b _ hbuilt hfailure _ hcomes =>
    refine ⟨fun h => absurd (hfailure.symm.trans h) Bool.false_ne_true, ?_⟩
    rintro ⟨b', p, hbuilt', hp⟩
    cases hbuilt.symm.trans hbuilt'
    have hsame := hdecide _ _ _ hcomes (hyields hbuilt)
    rw [hp] at hsame
    cases hsame
  | unbuilt hbuilt hfailure _ =>
    refine ⟨fun h => absurd (hfailure.symm.trans h) Bool.false_ne_true, ?_⟩
    rintro ⟨b, p, hbuilt', _⟩
    cases hbuilt.symm.trans hbuilt'

/-- **A graph does not fail** exactly if it compiles. -/
theorem Reports.failure_eq_none_iff (hdecide : KeysDecide env config graphs) (hG : G ∈ graphs)
    (h : Reports env config graphs diagnostics G output failure) :
    failure = none ↔ Compiles env config G := by
  cases h with
  | invalid he =>
    refine ⟨fun h => (by cases h), fun h => ?_⟩
    cases he.symm.trans h.valid
  | unknownFormat _ hnone =>
    refine ⟨fun h => (by cases h), fun h => ?_⟩
    have hformat := h.format
    rw [hnone] at hformat
    cases hformat
  | @updated rows hvalid hformat hnames hrows =>
    have hrow : ∀ x ∈ rows, ∃ c ∈ G.compilable, c.1 = x.1.kernel := by
      intro x hx
      have hmem := List.mem_map_of_mem (f := fun x => (x.1.kernel, x.1.name)) hx
      rw [hnames] at hmem
      obtain ⟨c, hc, heq⟩ := List.mem_map.1 hmem
      exact ⟨c, hc, congrArg Prod.fst heq⟩
    have hkernel : ∀ c ∈ G.compilable, ∃ x ∈ rows, x.1.kernel = c.1 := by
      intro c hc
      have hmem := List.mem_map_of_mem (f := fun c => (c.1, c.2.1.name)) hc
      rw [← hnames] at hmem
      obtain ⟨x, hx, heq⟩ := List.mem_map.1 hmem
      exact ⟨x, hx, congrArg Prod.fst heq⟩
    have hall : (rows.filter fun x => !x.2.success).length = 0 ↔
        ∀ x ∈ rows, x.2.success = true := by
      rw [List.length_eq_zero_iff, List.filter_eq_nil_iff]
      simp
    rw [ite_eq_left_iff]
    simp only [reduceCtorEq, imp_false, not_not]
    rw [hall]
    constructor
    · refine fun h => ⟨hvalid, hformat, fun c hc => ?_⟩
      obtain ⟨x, hx, heq⟩ := hkernel c hc
      exact (success_iff hdecide hG hc (heq ▸ hrows x hx)).1 (h x hx)
    · intro h x hx
      obtain ⟨c, hc, heq⟩ := hrow x hx
      exact (success_iff hdecide hG hc (heq ▸ hrows x hx)).2 (h.kernels c hc)

/-- What the command prints about graphs, one after the other, and the failures by name. -/
inductive Reported (env : Environment) (config : Config)
    (graphs : List Graph) (diagnostics : Bool) :
    List Graph → String → List (String × Failure) → Prop
  | nil : Reported env config graphs diagnostics [] "" []
  | cons {G : Graph} {output rest : String} {failure : Option Failure} {Gs : List Graph}
      {failures : List (String × Failure)}
        (h : Reports env config graphs diagnostics G output failure)
      (hrest : Reported env config graphs diagnostics Gs rest failures) :
      Reported env config graphs diagnostics (G :: Gs) (output ++ rest)
        ((failure.toList.map fun f => (G.name, f)) ++ failures)

/-- **No graph fails** exactly if all of them compile. -/
theorem Reported.failures_eq_nil_iff {Gs : List Graph} {failures : List (String × Failure)}
    (hdecide : KeysDecide env config graphs)
    (h : Reported env config graphs diagnostics Gs output failures) (hGs : Gs ⊆ graphs) :
    failures = [] ↔ ∀ G ∈ Gs, Compiles env config G := by
  induction h with
  | nil => exact ⟨fun _ _ hG => (nomatch hG), fun _ => rfl⟩
  | @cons G output rest failure Gs failures h _ ih =>
    obtain ⟨hG, hGs⟩ := List.cons_subset.1 hGs
    rw [List.append_eq_nil_iff, List.map_eq_nil_iff, Option.toList_eq_nil_iff, ih hGs,
      h.failure_eq_none_iff hdecide hG, List.forall_mem_cons]

end

/-! ## Closing -/

section
variable (env : Environment) (visit : Session → Nat → Visit)

theorem session_close (t : Tour) (g : Nat) : (t.close g).session = t.session.close g := rfl

theorem session_visit (t : Tour) (g : Nat) :
    (t.visit visit g).session = (visit t.session g).session := rfl

/-- Closing graphs prints nothing and fails none. -/
theorem foldl_close_eq (gs : List Nat) (t : Tour) : gs.foldl Tour.close t =
    { t with session := gs.foldl Session.close t.session, closed := t.closed ++ gs } := by
  induction gs generalizing t with
  | nil => rw [List.append_nil]; rfl
  | cons g gs ih =>
    rw [List.foldl_cons, ih, Tour.close, List.append_assoc]
    rfl

theorem closed_foldl_visit (gs : List Nat) (t : Tour) :
    (gs.foldl (fun t g => (t.visit visit g).close g) t).closed = t.closed ++ gs := by
  induction gs generalizing t with
  | nil => exact (List.append_nil _).symm
  | cons g gs ih =>
    rw [List.foldl_cons, ih, Tour.close, List.append_assoc]
    rfl

/-- A tour closes the graphs that it was given, in this order. -/
theorem closed_tour (s : Session) (unwanted wanted : List Nat) :
    (tour visit s unwanted wanted).closed = unwanted ++ wanted := by
  rw [tour, closed_foldl_visit, foldl_close_eq]
  rfl

/-- **Every graph of a file is closed once**, whether it is visited or not, and also if the file
    cannot be loaded. -/
theorem closed_tourFile (files : String → HostFile) (config : Config) (path name : String) :
    (tourFile env files config path name visit).closed.Perm
      (List.range (GraphFile.loadedGraphs env.declarations? files path).1.length) := by
  unfold tourFile
  dsimp only
  rw [closed_tour]
  refine List.perm_append_comm.trans ?_
  exact List.filter_append_perm _ _

end

/-! ## Opening -/

/-- The graphs are in the session, each as it was added, with a pool of its own. -/
structure Opened (env : Environment) (options : GraphOptions) (graphs : List Graph) (s : Session) :
    Prop where
  run : ∃ H, Session.Run H s
  idle : s.Idle
  files : s.files = Builtin.store
  programs : ∀ P, s.cache.programs.Holds P
  size : s.graphs.size = graphs.length
  pools : s.pools.size = graphs.length + 1
  scripts : s.scripts = [.binary env.lower]
  graph : ∀ g (G : Graph), graphs[g]? = some G → s.graph g =
    { definition := G
      options := { options with queue := .immediate, pool := g + 1, ownsPool := true } }

/-- One more graph. -/
theorem Opened.add {env : Environment} {options : GraphOptions} {graphs : List Graph} {s : Session}
    (h : Opened env options graphs s) (G : Graph) : Opened env options (graphs ++ [G])
      ({ s with pools := s.pools.push {} }.addGraph G
        { options with queue := .immediate, pool := s.pools.size, ownsPool := true }) := by
  obtain ⟨H, hrun⟩ := h.run
  have hopened := hrun.step .openPool ⟨nofun, nofun, nofun⟩
  have hadded := hopened.step
    (.addGraph G { options with queue := .immediate, pool := s.pools.size, ownsPool := true })
    .addGraph
  refine ⟨⟨_, hadded⟩, ⟨?_, h.idle.held⟩, h.files, h.programs, ?_, ?_, h.scripts,
    fun g G' hg => ?_⟩
  · exact (Session.live_openPool s).trans h.idle.live
  · rw [List.length_append, ← h.size]
    exact Array.size_push _
  · rw [List.length_append]
    exact (Array.size_push _).trans (congrArg (· + 1) h.pools)
  · unfold Session.addGraph Session.graph
    rw [Array.getD_eq_getD_getElem?, Array.getElem?_push, h.size]
    by_cases hlast : g = graphs.length
    · subst hlast
      rw [List.getElem?_concat_length] at hg
      cases hg
      rw [if_pos rfl, h.pools]
      rfl
    · rw [if_neg hlast]
      have hlt := (List.getElem?_eq_some_iff.1 hg).1
      rw [List.length_append, List.length_singleton] at hlt
      rw [List.getElem?_append_left (by omega)] at hg
      have hold := h.graph g G' hg
      rw [Session.graph, Array.getD_eq_getD_getElem?] at hold
      exact hold

theorem opened_openSession (env : Environment) (options : GraphOptions) (graphs : List Graph) :
    Opened env options graphs (openSession env options graphs) := by
  induction graphs using List.reverseRecOn with
  | nil =>
    exact ⟨⟨_, .start FileStore.reachable_builtin _ ProgramCache.defaultLimit⟩, ⟨rfl, rfl⟩, rfl,
      fun _ => Lru.holds_empty _, rfl, rfl, rfl, fun g G hg => by cases hg⟩
  | append_singleton graphs G ih =>
    unfold openSession at ih ⊢
    rw [List.foldl_append]
    exact ih.add G

/-! ## Going on -/

/-- Where the command stands that has begun in `s₀`: the graphs in `todo` are as they were, and
    those in `closed` are closed.  The programs that are cached are what `R` allows. -/
structure Touring (R : ProgramKey → Except ProgramError Program → Prop) (config : Config)
    (s₀ : Session) (todo closed : List Nat) (s : Session) : Prop where
  run : ∃ H, Session.Run H s
  idle : s.Idle
  size : s.graphs.size = s₀.graphs.size
  pools : s₀.pools.size ≤ s.pools.size
  scripts : s.scripts = s₀.scripts
  kept : ∀ g, (s.graph g).definition = (s₀.graph g).definition ∧
    (s.graph g).options = (s₀.graph g).options
  free : ∀ g, (s.graph g).locked = (s₀.graph g).locked
  fresh : ∀ g ∈ todo, GraphSteady (s₀.graph g) (s.graph g)
  compiles : ∀ j, s.compileJob j = s₀.compileJob j
  answers : ∀ wrapper shown,
    Answers Builtin.registryId config.runtimeFormat wrapper shown s₀.files →
    Answers Builtin.registryId config.runtimeFormat wrapper shown s.files
  programs : s.cache.programs.Holds fun k p => R k (.ok p)
  closed : ∀ g ∈ closed, (s.graph g).closed = true

section
variable {R : ProgramKey → Except ProgramError Program → Prop} {env : Environment} {config : Config}
  {graphs : List Graph} {s₀ s s' : Session} {g : Nat} {todo closed : List Nat}

theorem Opened.touring (h : Opened env config.graphOptions graphs s₀) (todo : List Nat) :
    Touring R config s₀ todo [] s₀ where
  run := h.run
  idle := h.idle
  size := rfl
  pools := Nat.le_refl _
  scripts := rfl
  kept _ := ⟨rfl, rfl⟩
  free _ := rfl
  fresh _ _ := .refl _
  compiles _ := rfl
  answers _ _ hw := hw
  programs := h.programs _
  closed _ hg := by cases hg

/-- Something was done with a graph that had its turn. -/
theorem Touring.handled (h : Touring R config s₀ todo closed s) (hg : g ∉ todo)
    (hregistry : (s₀.graph g).options.registry = Builtin.registryId)
    (hformat : (s₀.graph g).options.format = config.runtimeFormat) (hp : Handled g s s')
    (hrun : ∃ H, Session.Run H s') (hprograms : s'.cache.programs.Holds fun k p => R k (.ok p)) :
    Touring R config s₀ todo closed s' := by
  have hother : ∀ i ≠ g, GraphSteady (s.graph i) (s'.graph i) := hp.other
  refine ⟨hrun, hp.idle, hp.size.trans h.size, Nat.le_trans h.pools hp.pools,
    hp.scripts.trans h.scripts, fun i => ?_, fun i => ?_, fun i hi => ?_,
    fun j => (hp.compiles j).trans (h.compiles j), fun wrapper shown hw => ?_, hprograms,
    fun i hi => ?_⟩
  · by_cases heq : i = g
    · rw [heq]
      exact ⟨hp.definition.trans (h.kept g).1, hp.options.trans (h.kept g).2⟩
    · exact ⟨(hother i heq).definition.trans (h.kept i).1,
        (hother i heq).options.trans (h.kept i).2⟩
  · by_cases heq : i = g
    · rw [heq]
      exact hp.locked.trans (h.free g)
    · exact (hother i heq).locked.trans (h.free i)
  · have heq : i ≠ g := fun heq => hg (heq ▸ hi)
    exact (h.fresh i hi).trans (hother i heq)
  · have hanswers := hp.answers wrapper shown
    rw [(h.kept g).2, hregistry, hformat] at hanswers
    exact hanswers (h.answers wrapper shown hw)
  · by_cases heq : i = g
    · rw [heq]
      exact hp.closed (heq ▸ h.closed i hi)
    · rw [(hother i heq).closed]
      exact h.closed i hi

theorem Touring.of_subset {todo' : List Nat} (h : Touring R config s₀ todo' closed s)
    (hsub : todo ⊆ todo') : Touring R config s₀ todo closed s :=
  { h with fresh := fun g hg => h.fresh g (hsub hg) }

/-- **A graph is closed.** -/
theorem Touring.close (hopened : Opened env config.graphOptions graphs s₀)
    (h : Touring R config s₀ todo closed s) (hg : g ∉ todo) (hlt : g < graphs.length)
    (hopen : (s.graph g).closed = false) :
    Touring R config s₀ todo (closed ++ [g]) (s.close g) := by
  obtain ⟨H, hrun⟩ := h.run
  have hsize : g < s.graphs.size := by
    rw [h.size, hopened.size]
    exact hlt
  have hgraph := hopened.graph g _ (List.getElem?_eq_getElem hlt)
  have hfree : (s.graph g).locked = false := by rw [h.free, hgraph]
  obtain ⟨hp, hclosed, hprograms⟩ := h.idle.close hsize hopen
  have hnext : Touring R config s₀ todo closed (s.close g) := by
    refine h.handled hg ?_ ?_ hp ⟨_, hrun.step (.close g) (.close hsize hfree)⟩
      (hprograms ▸ h.programs)
    · rw [hgraph]
      rfl
    · rw [hgraph]
      rfl
  refine { hnext with closed := fun i hi => ?_ }
  rcases List.mem_append.1 hi with hi | hi
  · exact hnext.closed i hi
  · cases List.mem_singleton.1 hi
    exact hclosed

/-- The session compiles the run-time format as it did when it was opened. -/
theorem Touring.compiler?_eq (hopened : Opened env config.graphOptions graphs s₀)
    (h : Touring R config s₀ todo closed s) :
    s.compiler? config.runtimeFormat = runtimeCompiler? env config := by
  rw [runtimeCompiler?, Session.compiler?, Session.script?, h.scripts, hopened.scripts]
  rfl

/-- What is built in the session is what is built of the graph alone. -/
theorem Touring.runtimeBuild_alike (hopened : Opened env config.graphOptions graphs s₀)
    (h : Touring R config s₀ todo closed s) {G : Graph} (hG : graphs[g]? = some G) {k : Nat}
    {built : Except GraphError KernelBuild} (hmem : (k, built) ∈ s.updateBuilds g) :
    Alike (runtimeBuild env config G k) built := by
  have hgraph := hopened.graph g G hG
  obtain ⟨hdefinition, hoptions⟩ := h.kept g
  have hdialect : s.dialect g = runtimeDialect env config := by
    have hformat : config.graphOptions.format = config.runtimeFormat := rfl
    rw [Session.dialect, hoptions, hgraph]
    dsimp only
    rw [hformat, h.compiler?_eq hopened, runtimeDialect]
    cases runtimeCompiler? env config with
    | none => rfl
    | some c => rfl
  obtain ⟨wrapper, shown, hstart⟩ : ∃ wrapper shown,
      Answers Builtin.registryId config.runtimeFormat wrapper shown Builtin.store :=
    ⟨_, _, FileStore.reachable_builtin.holds _, rfl, FileStore.reachable_builtin.shows⟩
  have hanswers := h.answers wrapper shown (by rw [hopened.files]; exact hstart)
  rw [Session.updateBuilds, Session.graphBuilds, hdialect, hdefinition, hoptions, hgraph] at hmem
  obtain ⟨files, hfiles, rfl⟩ := hanswers.of_mem_buildAll hmem
  exact Graph.build_alike hstart hfiles G k _

/-- What is compiled in the session is what is compiled of the build alone. -/
theorem Touring.compileJob_eq (hopened : Opened env config.graphOptions graphs s₀)
    (h : Touring R config s₀ todo closed s) (hlt : g < graphs.length) {j : Job} (hj : j.graph = g)
    (hformat : j.format = config.runtimeFormat) :
    (s.compileJob j).1 = runtimeProgram env config j.build := by
  have hgraph := hopened.graph g _ (List.getElem?_eq_getElem hlt)
  rw [h.compiles j, Session.compileJob, hformat,
    (hopened.touring (R := R) []).compiler?_eq hopened, hj,
    hgraph, hopened.files, runtimeProgram]
  cases runtimeCompiler? env config with
  | none => rfl
  | some c => rfl

/-- Its interfaces are built in, so that they declare what they ask for. -/
theorem Touring.declared (hopened : Opened env config.graphOptions graphs s₀)
    (h : Touring R config s₀ todo closed s) {G : Graph} (hG : graphs[g]? = some G)
    (hbuiltin : ∀ x, some x ∈ G.interfaces → x.IsBuiltin) (k : Nat) (e : UndeclaredParameter) :
    (k, .error (.undeclared e)) ∉ s.updateBuilds g := by
  intro hmem
  have hsame : runtimeBuild env config G k = .error (.undeclared e) :=
    (h.runtimeBuild_alike hopened hG hmem).undeclared rfl
  obtain ⟨x, hx, hcustom⟩ := Graph.exists_custom_of_undeclared hsame
  exact hcustom (hbuiltin x hx)

/-- **A graph is updated** when it has its turn. -/
theorem Touring.first {asked : List Graph} (hopened : Opened env config.graphOptions graphs s₀)
    (h : Touring (Yields env config asked) config s₀ (g :: todo) closed s)
    (hg : g ∉ todo) {G : Graph}
    (hG : graphs[g]? = some G) (hbuiltin : ∀ x, some x ∈ G.interfaces → x.IsBuiltin)
    (hasked : G ∈ asked) (haccepts : s.accepts g = true) :
    ∃ s' x, First (Yields env config asked) s g s' x ∧
      Touring (Yields env config asked) config s₀ todo closed s' := by
  obtain ⟨H, hrun⟩ := h.run
  have hlt := (List.getElem?_eq_some_iff.1 hG).1
  have hsize : g < s.graphs.size := by
    rw [h.size, hopened.size]
    exact hlt
  have hgraph := hopened.graph g G hG
  obtain ⟨hdefinition, hoptions⟩ := h.kept g
  rw [hgraph] at hdefinition hoptions
  have hfresh := h.fresh g (List.mem_cons_self ..)
  rw [hgraph] at hfresh
  obtain ⟨s', x, hfirst⟩ := hrun.first (R := Yields env config asked) h.idle hsize haccepts
    (by rw [hoptions]; exact config.isValid_feature) (by
      rw [hoptions]
      refine Nat.lt_of_lt_of_le ?_ h.pools
      rw [hopened.pools]
      exact Nat.succ_lt_succ hlt) hfresh (h.declared hopened hG hbuiltin) h.programs
    fun j hj hformat hmem => by
      rw [hoptions] at hformat
      have hbuilt : runtimeBuild env config G j.kernel = .ok j.build :=
        (h.runtimeBuild_alike hopened hG hmem).ok rfl
      have hk := Session.mem_compilable_of_updateBuilds hmem
      rw [hdefinition] at hk
      obtain ⟨c, hc, hkernel⟩ := List.mem_map.1 hk
      refine ⟨G, hasked, c, hc, j.build, hkernel ▸ hbuilt, ?_,
        (h.compileJob_eq hopened hlt hj hformat).symm⟩
      rw [Session.jobKey, hformat]
      rfl
  have hfree : (s.graph g).locked = false := by rw [h.free, hgraph]
  have hrun' := hrun.step (.update g true) (.update hsize hfree)
  have hsession : (Session.Action.update g true).apply s = s' := congrArg Prod.snd hfirst.update
  rw [hsession] at hrun'
  refine ⟨s', x, hfirst, (h.of_subset (List.subset_cons_self ..)).handled hg ?_ ?_ hfirst.handled
    ⟨_, hrun'⟩ hfirst.programs⟩
  · rw [hgraph]
    rfl
  · rw [hgraph]
    rfl

/-! ### Visiting a graph -/

/-- A session goes on that has only written to its log. -/
theorem Idle.handled_note (h : s.Idle) (g : Nat) (records : List Log.Record) :
    Handled g s (s.note records) where
  idle := ⟨h.live, h.held⟩
  size := rfl
  pools := Nat.le_refl _
  scripts := rfl
  definition := rfl
  options := rfl
  closed hc := hc
  locked := rfl
  other _ _ := .refl _
  compiles _ := rfl
  answers _ _ hw := hw

theorem reported_eq {v : Invocation} {r : CompileResult} (h : s.lastResult? g v.kernel = some r) :
    reported s g v = r := by
  obtain ⟨c, hc, rfl⟩ := Option.map_eq_some_iff.1 h
  unfold reported
  rw [hc]

section
variable {asked : List Graph} {G : Graph} {x : RenderProxy} (flags : Parsed)

/-- A graph that is not valid is not updated. -/
theorem visitCompile_of_invalid {e : InvalidGraph} (hdefinition : (s.graph g).definition = G)
    (he : G.validate = .error e) :
    ∃ records, s.update g true = (.error (.invalid e), s.note records) ∧
      visitCompile flags s g =
        { session := s.note records, failure := some (.graph (.invalid e)) } := by
  obtain ⟨records, hupdate⟩ : ∃ records, s.update g true =
      (.error (.invalid e), s.note records) := by
    unfold Session.update
    dsimp only
    rw [hdefinition, he]
    exact ⟨_, rfl⟩
  refine ⟨records, hupdate, ?_⟩
  unfold visitCompile
  rw [hupdate]

/-- A graph is not updated for a format that no compiler has. -/
theorem visitCompile_of_unknownFormat (hdefinition : (s.graph g).definition = G)
    (hvalid : G.validate = .ok ()) (hformat : (s.graph g).options.format = config.runtimeFormat)
    (hnone : s.compiler? config.runtimeFormat = none) : visitCompile flags s g =
      { session := s,
        failure := some (.graph (.runtimeFormat G.name ⟨config.runtimeFormat⟩)) } := by
  have hupdate : s.update g true =
      (.error (.runtimeFormat G.name ⟨config.runtimeFormat⟩), s) := by
    unfold Session.update
    dsimp only
    rw [hdefinition, hvalid, hformat, hnone]
  unfold visitCompile
  rw [hupdate]

/-- What is printed about a graph that is updated for the first time. -/
theorem visitCompile_of_first (hfirst : First (Yields env config asked) s g s' x)
    (hdefinition : (s.graph g).definition = G)
    (hformat : (s.graph g).options.format = config.runtimeFormat) (hvalid : G.validate = .ok ())
    (hknown : (runtimeCompiler? env config).isSome)
    (halike : ∀ k built, (k, built) ∈ s.updateBuilds g →
      Alike (runtimeBuild env config G k) built) :
    (visitCompile flags s g).session = s' ∧
      Reports env config asked (flags.isOn "diagnostics") G (visitCompile flags s g).output
        (visitCompile flags s g).failure := by
  have hproxy : (s'.graph g).proxy.bind (s'.proxies[·]?) = some x := hfirst.proxy
  have htitle : highlight false G.name ++ " (generation " ++ toString 1 ++ ")\n" =
      highlight false G.name ++ " (generation 1)\n" := by
    rw [String.append_assoc, String.append_assoc]
    rfl
  unfold visitCompile
  rw [hfirst.update]
  dsimp only
  rw [hproxy, hfirst.handled.definition, hdefinition]
  dsimp only
  rw [hfirst.generation, htitle]
  refine ⟨rfl, .updated hvalid hknown ?_ fun y hy => ?_⟩
  · rw [List.map_map]
    exact hfirst.names.trans (by rw [hdefinition])
  · obtain ⟨v, hv, rfl⟩ := List.mem_map.1 hy
    obtain ⟨built, r, hmem, hlast, hverdict⟩ := hfirst.verdicts v hv
    rw [reported_eq hlast]
    rw [hformat] at hverdict
    exact hverdict.of_alike (halike _ _ hmem)

/-- The graph that had its turn was reported about and is still to be closed. -/
structure Visited (env : Environment) (config : Config) (asked : List Graph)
    (diagnostics : Bool) (s₀ : Session)
    (todo closed : List Nat) (g : Nat) (G : Graph) (v : Visit) : Prop where
  touring : Touring (Yields env config asked) config s₀ todo closed v.session
  isOpen : (v.session.graph g).closed = false
  definition : (v.session.graph g).definition = G
  reports : Reports env config asked diagnostics G v.output v.failure

/-- **A graph is compiled** when it has its turn. -/
theorem Touring.visited (hopened : Opened env config.graphOptions graphs s₀)
    (h : Touring (Yields env config asked) config s₀ (g :: todo) closed s) (hg : g ∉ todo)
    (hG : graphs[g]? = some G) (hbuiltin : ∀ x, some x ∈ G.interfaces → x.IsBuiltin)
    (hasked : G ∈ asked) :
    Visited env config asked (flags.isOn "diagnostics") s₀ todo closed g G
      (visitCompile flags s g) := by
  have hgraph := hopened.graph g G hG
  have hdefinition : (s.graph g).definition = G := by rw [(h.kept g).1, hgraph]
  have hformat : (s.graph g).options.format = config.runtimeFormat := by
    rw [(h.kept g).2, hgraph]
    rfl
  have hisOpen : (s.graph g).closed = false := by
    rw [(h.fresh g (List.mem_cons_self ..)).closed, hgraph]
  have hfree : (s.graph g).locked = false := by rw [h.free, hgraph]
  have hcompiler := h.compiler?_eq hopened
  have hrest := h.of_subset (List.subset_cons_self g todo)
  cases hvalid : G.validate with
  | error e =>
    obtain ⟨records, hupdate, hvisit⟩ := visitCompile_of_invalid flags hdefinition hvalid
    obtain ⟨H, hrun⟩ := h.run
    have hsize : g < s.graphs.size := by
      rw [h.size, hopened.size]
      exact (List.getElem?_eq_some_iff.1 hG).1
    have hrun' := hrun.step (.update g true) (.update hsize hfree)
    have hsession : (Session.Action.update g true).apply s = s.note records :=
      congrArg Prod.snd hupdate
    rw [hsession] at hrun'
    rw [hvisit]
    refine ⟨hrest.handled hg ?_ ?_ (Idle.handled_note h.idle g records) ⟨_, hrun'⟩ h.programs,
      hisOpen, hdefinition, .invalid hvalid⟩
    · rw [hgraph]
      rfl
    · rw [hgraph]
      rfl
  | ok =>
    cases hstandard : runtimeCompiler? env config with
    | none =>
      rw [visitCompile_of_unknownFormat flags hdefinition hvalid hformat
        (hcompiler.trans hstandard)]
      exact ⟨hrest, hisOpen, hdefinition, .unknownFormat hvalid hstandard⟩
    | some c =>
      have haccepts : s.accepts g = true := by
        rw [Session.accepts, hdefinition, hvalid, hformat, hcompiler, hstandard, hisOpen, hfree]
        rfl
      obtain ⟨s', x, hfirst, htouring⟩ := h.first hopened hg hG hbuiltin hasked haccepts
      obtain ⟨hsession, hreports⟩ := visitCompile_of_first flags hfirst hdefinition hformat
        hvalid (by rw [hstandard]; rfl) fun k built hmem => h.runtimeBuild_alike hopened hG hmem
      refine ⟨?_, ?_, ?_, hreports⟩
      · rw [hsession]
        exact htouring
      · rw [hsession]
        exact hfirst.closed.trans hisOpen
      · rw [hsession]
        exact hfirst.handled.definition.trans hdefinition

/-! ### All graphs -/

/-- The graphs that are not asked for are closed. -/
theorem Touring.closeAll {gs : List Nat} (hopened : Opened env config.graphOptions graphs s₀)
    (h : Touring R config s₀ (gs ++ todo) closed s) (hnodup : (gs ++ todo).Nodup)
    (hlt : ∀ g ∈ gs, g < graphs.length) :
    Touring R config s₀ todo (closed ++ gs) (gs.foldl Session.close s) := by
  induction gs generalizing s closed with
  | nil =>
    rw [List.append_nil]
    exact h
  | cons g gs ih =>
    obtain ⟨hg, hnodup⟩ := List.nodup_cons.1 hnodup
    have hltg := hlt g (List.mem_cons_self ..)
    have hisOpen : (s.graph g).closed = false := by
      rw [(h.fresh g (List.mem_cons_self ..)).closed,
        hopened.graph g _ (List.getElem?_eq_getElem hltg)]
    have hclosed := (h.of_subset (List.subset_cons_self g (gs ++ todo))).close hopened hg
      hltg hisOpen
    have hrest := ih hclosed hnodup fun i hi => hlt i (List.mem_cons_of_mem _ hi)
    rw [List.append_assoc] at hrest
    exact hrest

/-- **The graphs that are asked for are compiled and closed**, whether those before them failed or
    not. -/
theorem Touring.visitAll {gs : List Nat} {Gs : List Graph} {t : Tour}
    (hopened : Opened env config.graphOptions graphs s₀)
    (hbuiltin : ∀ G ∈ graphs, ∀ x, some x ∈ G.interfaces → x.IsBuiltin)
    (h : Touring (Yields env config asked) config s₀ gs closed t.session) (hnodup : gs.Nodup)
    (hgs : List.Forall₂ (fun g G => graphs[g]? = some G) gs Gs) (hasked : Gs ⊆ asked) :
    ∃ output failures t', gs.foldl (fun t g => (t.visit (visitCompile flags) g).close g) t = t' ∧
      Reported env config asked (flags.isOn "diagnostics") Gs output failures ∧
      t'.output = t.output ++ output ∧ t'.failures = t.failures ++ failures ∧
      Touring (Yields env config asked) config s₀ [] (closed ++ gs) t'.session := by
  induction hgs generalizing t closed with
  | nil =>
    refine ⟨"", [], t, rfl, .nil, String.append_empty.symm, (List.append_nil _).symm, ?_⟩
    rw [List.append_nil]
    exact h
  | @cons g G gs Gs hG _ ih =>
    obtain ⟨hg, hnodup⟩ := List.nodup_cons.1 hnodup
    obtain ⟨hGasked, hasked⟩ := List.cons_subset.1 hasked
    have hv := h.visited flags hopened hg hG
      (hbuiltin G (List.mem_of_getElem? hG)) hGasked
    have hclosed := hv.touring.close hopened hg (List.getElem?_eq_some_iff.1 hG).1 hv.isOpen
    rw [← session_visit, ← session_close] at hclosed
    obtain ⟨output, failures, t', ht', hreported, houtput, hfailures, htouring⟩ :=
      ih hclosed hnodup hasked
    refine ⟨_, _, t', ht', .cons hv.reports hreported, ?_, ?_, ?_⟩
    · rw [houtput, ← String.append_assoc]
      rfl
    · rw [hfailures, ← List.append_assoc]
      dsimp only [Tour.close, Tour.visit]
      rw [hv.definition]
    · rw [List.append_assoc] at htouring
      exact htouring

end

end

/-! ## The run -/

section
variable {env : Environment} {config : Config} {graphs : List Graph}

theorem forall₂_range (graphs : List Graph) :
    List.Forall₂ (fun g G => graphs[g]? = some G) (List.range graphs.length) graphs := by
  rw [List.forall₂_iff_get]
  refine ⟨List.length_range, fun i _ hi => ?_⟩
  simp [hi]

/-- The positions of the graphs that are asked for, one for each of them. -/
theorem forall₂_filter (keep : Graph → Bool) {wanted : Nat → Bool}
    (hwanted : ∀ g G, graphs[g]? = some G → wanted g = keep G) :
    List.Forall₂ (fun g G => graphs[g]? = some G) ((List.range graphs.length).filter wanted)
      (graphs.filter keep) :=
  List.rel_filter (fun g G hG => iff_of_eq (congrArg (· = true) (hwanted g G hG)))
    (forall₂_range graphs)

/-- **A tour compiles the graphs that are asked for** and closes all graphs. -/
theorem tour_visitCompile (env : Environment) (config : Config)
    (flags : Parsed) (wanted : Nat → Bool)
    {asked : List Graph}
    (hbuiltin : ∀ G ∈ graphs, ∀ x, some x ∈ G.interfaces → x.IsBuiltin)
    (hasked : List.Forall₂ (fun g G => graphs[g]? = some G)
      ((List.range graphs.length).filter wanted) asked) :
    ∃ t, tour (visitCompile flags) (openSession env config.graphOptions graphs)
        ((List.range graphs.length).filter fun g => !wanted g)
        ((List.range graphs.length).filter wanted) = t ∧
      Reported env config asked (flags.isOn "diagnostics") asked t.output t.failures ∧
      ∀ g < graphs.length, (t.session.graph g).closed = true := by
  have hopened := opened_openSession env config.graphOptions graphs
  have hperm : ((List.range graphs.length).filter (fun g => !wanted g) ++
      (List.range graphs.length).filter wanted).Perm (List.range graphs.length) :=
    List.perm_append_comm.trans (List.filter_append_perm _ _)
  have hnodup := hperm.nodup_iff.2 List.nodup_range
  have hclosed := (hopened.touring (R := Yields env config asked) _).closeAll
    hopened hnodup fun g hg =>
    List.mem_range.1 (List.mem_of_mem_filter hg)
  rw [tour, foldl_close_eq]
  obtain ⟨output, failures, t, ht, hreported, houtput, hfailures, htouring⟩ :=
    Touring.visitAll flags (t := { session := _, closed := _ }) hopened hbuiltin hclosed
      (List.nodup_append.1 hnodup).2.1 hasked (List.Subset.refl _)
  refine ⟨t, ht, ?_, fun g hg => htouring.closed g ?_⟩
  · rw [houtput, hfailures, String.empty_append, List.nil_append]
    exact hreported
  · rw [List.nil_append]
    exact hperm.mem_iff.2 (List.mem_range.2 hg)

/-- A kernel that has a number of permutations is not refused for a negative one. -/
theorem Yields.ne_negativeCount {e : ProgramError} {key : ProgramKey}
    (hcounts : ∀ G ∈ graphs, ∀ (k : Int) v, G.permutationVector? k = some v → 0 ≤ v.count)
    (h : Yields env config graphs key (.error e)) : e ≠ .negativeCount := by
  obtain ⟨G, hG, c, -, b, hbuild, -, hprogram⟩ := h
  rintro rfl
  obtain ⟨source, _, _, _, hs, _, hassemble⟩ := Graph.build_eq_ok.1 hbuild
  obtain ⟨_, hpermutations, _, _⟩ := Graph.assemble_fields hassemble
  have hcount := hcounts G hG c.1 b.permutations (by
    rw [Graph.permutationVector?, hs, hpermutations]
    rfl)
  unfold runtimeProgram at hprogram
  split at hprogram
  · cases hprogram
  · have hneg := (Program.compile_error hprogram).2 rfl
    exact absurd hcount (Int64.not_le.2 hneg)

end

/-- What comes of a run, by the tour of the graphs. -/
theorem run_compile (elapsed : String) {flags : Parsed} {path name : String}
    {files : String → HostFile} {config : Config} {graphs : List Graph}
    {failed : Option GraphFile.LoadError} {t : Tour}
    {out : Outcome} (hname : flags.text "graph" = name)
    (hconfig : configured env flags files = .ok config)
    (hload : GraphFile.loadedGraphs env.declarations? files path = (graphs, failed))
    (ht : tourFile env files config path name (visitCompile flags) = t)
    (hout : Call.run env ⟨.compile, flags, path⟩ elapsed files = out) :
    out.records = atLeast (config.level.toOption.getD .info)
        ((if failed.isNone then [loadedRecord path graphs.length] else []) ++
          sessionRecords t.session) ∧
      (failed = none →
        if name ≠ "" ∧ (graphs.filter fun G => name = "" || G.name = name) = [] then
          out.output = "" ∧ out.error = some (.noGraph name path)
        else out.output = t.output ∧
          out.error = if t.failures = [] then none else some (.failures t.failures)) := by
  have hall : ((name ≠ "" && graphs.all fun G => G.name ≠ name) = true) ↔
      name ≠ "" ∧ (graphs.filter fun G => name = "" || G.name = name) = [] := by
    rw [Bool.and_eq_true, decide_eq_true_eq, List.filter_eq_nil_iff, List.all_eq_true]
    refine and_congr_right fun hname => forall₂_congr fun G _ => ?_
    simp [hname]
  rw [Call.run, hconfig] at hout
  dsimp only [Call.perform] at hout
  rw [hname, eachGraph, hload] at hout
  dsimp only at hout
  rw [ht] at hout
  cases failed with
  | some e =>
    dsimp only at hout
    rw [Option.isNone_some, if_neg Bool.false_ne_true, List.nil_append, ← hout]
    exact ⟨rfl, fun h => by cases h⟩
  | none =>
    dsimp only at hout
    rw [Option.isNone_none, if_pos rfl, List.singleton_append]
    by_cases hnone : (name ≠ "" && graphs.all fun G => G.name ≠ name) = true
    · rw [if_pos hnone] at hout
      rw [← hout, if_pos (hall.1 hnone)]
      dsimp only
      exact ⟨rfl, fun _ => ⟨rfl, rfl⟩⟩
    · rw [if_neg hnone] at hout
      rw [← hout, if_neg fun h => hnone (hall.2 h)]
      simp only [List.isEmpty_iff, true_and, implies_true]

/-- What is printed, and what the run fails with, fit the reports of the graphs asked for. -/
theorem exists_reported {name path : String} {asked : List Graph} {config : Config}
    {diagnostics : Bool} {out : Outcome} {t : Tour}
    (h : Reported env config asked diagnostics asked t.output t.failures)
    (hout : if name ≠ "" ∧ asked = [] then
        out.output = "" ∧ out.error = some (.noGraph name path)
      else out.output = t.output ∧
        out.error = if t.failures = [] then none else some (.failures t.failures)) :
    ∃ failures, Reported env config asked diagnostics asked out.output failures ∧
      out.error =
        if name ≠ "" ∧ asked = [] then some (.noGraph name path)
        else if failures = [] then none
        else some (.failures failures) := by
  by_cases hnone : name ≠ "" ∧ asked = []
  · rw [if_pos hnone] at hout
    refine ⟨[], ?_, by rw [if_pos hnone]; exact hout.2⟩
    rw [hout.1, hnone.2]
    exact .nil
  · rw [if_neg hnone] at hout
    refine ⟨t.failures, ?_, by rw [if_neg hnone]; exact hout.2⟩
    rw [hout.1]
    exact h

/-- A run that is not asked for a graph that is missing fails if a graph does. -/
theorem error_eq_none_iff {name path : String} {asked : List Graph}
    {failures : List (String × Failure)} {error : Option ToolError}
    (h : error = if name ≠ "" ∧ asked = [] then some (.noGraph name path)
      else if failures = [] then none
      else some (.failures failures)) :
    error = none ↔ (name = "" ∨ asked ≠ []) ∧ failures = [] := by
  rw [h]
  by_cases hnone : name ≠ "" ∧ asked = []
  · rw [if_pos hnone]
    simp [hnone.1, hnone.2]
  · have hsome : name = "" ∨ asked ≠ [] := by
      rwa [not_and_or, not_not] at hnone
    rw [if_neg hnone]
    by_cases hfail : failures = []
    · simp [hfail, hsome]
    · simp [hfail]

/-- **The compile command.**  In every environment, for every configuration and every file:

    1. every graph of the file is closed once, and is closed in the end, also if the file cannot be
       loaded, if a graph fails or if no graph has the name that was asked for.

    If the file is loaded:

    2. a report of each graph that was asked for is printed, in the order of the file and whatever
       the reports before it say, and the error names the graphs that fail;
    3. where hash keys decide what compiles, there is no error exactly if a graph was asked for that
       the file has, or all are, and each of them is valid, has a format that is known, and all its
       kernels with a source are built and compile;
    4. no compile is refused for a negative number of permutations if no kernel has one. -/
theorem compile_verdict_exact (env : Environment) (flags : Parsed) (path elapsed : String)
    (files : String → HostFile)
    (config : Config) (graphs : List Graph) (failed : Option GraphFile.LoadError)
    (hconfig : configured env flags files = .ok config)
    (hload : GraphFile.loadedGraphs env.declarations? files path = (graphs, failed)) :
    let name := flags.text "graph"
    let asked := graphs.filter fun G => name = "" || G.name = name
    let out := Call.run env ⟨.compile, flags, path⟩ elapsed files
    let t := tourFile env files config path name (visitCompile flags)
    (out.records = atLeast (config.level.toOption.getD .info)
        ((if failed.isNone then [loadedRecord path graphs.length] else []) ++
          sessionRecords t.session) ∧
      t.closed.Perm (List.range graphs.length) ∧
      ∀ g < graphs.length, (t.session.graph g).closed = true) ∧
    (failed = none →
      (∃ failures, Reported env config asked (flags.isOn "diagnostics") asked out.output failures ∧
        out.error =
          if name ≠ "" ∧ asked = [] then some (.noGraph name path)
          else if failures = [] then none
          else some (.failures failures)) ∧
      (KeysDecide env config asked → (out.error = none ↔
        (name = "" ∨ asked ≠ []) ∧ ∀ G ∈ asked, Compiles env config G)) ∧
      ((∀ G ∈ asked, ∀ (k : Int) v, G.permutationVector? k = some v → 0 ≤ v.count) →
        ∀ key e, Yields env config asked key (.error e) → e ≠ .negativeCount)) := by
  intro name asked out t
  obtain ⟨hrecords, hout⟩ := run_compile elapsed rfl hconfig hload rfl rfl
  have hbuiltin : ∀ G ∈ graphs, ∀ x, some x ∈ G.interfaces → x.IsBuiltin := fun G hG x hx =>
    GraphFile.isBuiltin_of_loadedGraphs (by rw [hload]; exact hG) hx
  have hopened := opened_openSession env config.graphOptions graphs
  let keep : Graph → Bool := fun G => failed.isNone && (name = "" || G.name = name)
  obtain ⟨t', ht', hreported, hclosed⟩ := tour_visitCompile env config flags
    (fun g => keep ((openSession env config.graphOptions graphs).graph g).definition) hbuiltin
    (forall₂_filter keep fun g G hG => by rw [hopened.graph g G hG])
  have ht : t = t' := by
    unfold t tourFile
    rw [hload]
    exact ht'
  refine ⟨⟨hrecords, ?_, ?_⟩, ?_⟩
  · have hperm := closed_tourFile env (visitCompile flags) files config path name
    rw [hload] at hperm
    exact hperm
  · rw [ht]
    exact hclosed
  · rintro rfl
    replace hout := hout rfl
    have hfailures := exists_reported (ht ▸ hreported) hout
    refine ⟨hfailures, fun hdecide => ?_, fun hcounts key e h => h.ne_negativeCount hcounts⟩
    obtain ⟨failures, hreports, herror⟩ := hfailures
    rw [error_eq_none_iff herror, hreports.failures_eq_nil_iff hdecide (List.Subset.refl _)]

/-! ### Files with two kernels that have one key

    The kernels have one source and may differ in their entry points only, which the hash key does
    not cover. -/

/-- A kernel with the function `Main` in it, and its edge, as a file has them. -/
def twinKernelText (name entryPoint : String) : String :=
  "kernel \"" ++ name ++ "\" \x7b\n" ++ "entry_point = \"" ++ entryPoint ++ "\"\n" ++
  "source = \"fn Main() \x7b\x7d\\n\"\n" ++ "input \"ReadNumThreads\" \x7b\n" ++
  "return = \"u32\"\n" ++ "\x7d\n" ++ "\x7d\n" ++ "edge \x7b\n" ++ "data_interface = \"exec\"\n" ++
  "function = \"ReadNumThreads\"\n" ++ "kernel = \"" ++ name ++ "\"\n" ++ "\x7d\n"

/-- A file with one graph of two such kernels. -/
def twinText (entryPoint : String) : String :=
  "graph \"G\" \x7b\n" ++ "data_interface \"execution\" \"exec\" \x7b\n" ++ "\x7d\n" ++
  twinKernelText "A" "Main" ++ twinKernelText "B" entryPoint ++ "\x7d\n"

/-- What such a kernel declares. -/
def twinKernel (name entryPoint : String) : KernelDecl where
  name
  entryPoint
  groupSize := []
  source := "fn Main() \x7b\x7d\n"
  sourceFile := ""
  isDefault := false
  defines := []
  inputs := [⟨"ReadNumThreads", "u32", []⟩]
  outputs := []
  options := []
  sources := []

/-- What the file declares. -/
def twinDecl (entryPoint : String) : GraphDecl where
  name := "G"
  bindings := []
  interfaces := [⟨"execution", "exec", "", [], false⟩]
  kernels := [twinKernel "A" "Main", twinKernel "B" entryPoint]
  edges :=
    [⟨"exec", "ReadNumThreads", "A", "", "", ""⟩, ⟨"exec", "ReadNumThreads", "B", "", "", ""⟩]

/-- The source of such a kernel. -/
def twinSource (entryPoint : String) : KernelSource where
  entryPoint
  groupSize := ⟨1, 1, 1⟩
  body := "fn Main() \x7b\x7d\n"
  inputs := [{ name := "ReadNumThreads", result := "u32" }]

/-- The graph of the file. -/
def twinGraph (entryPoint : String) : Graph where
  name := "G"
  bindings := [{ name := GraphFile.defaultBinding }]
  interfaces := [some (.execution 1)]
  groups := [0]
  kernels := [some ⟨"A", some (twinSource "Main")⟩, some ⟨"B", some (twinSource entryPoint)⟩]
  edges := [{ input := true }, { kernel := 1, input := true }]

/-- An environment whose reader knows one text. -/
def Environment.ofText (text : String) (declared : List GraphDecl) : Environment :=
  { Environment.plain with
    declarations? := fun t => if t = text then some declared else none }

def twinEnvironment (entryPoint : String) : Environment :=
  .ofText (twinText entryPoint) [twinDecl entryPoint]

/-- Files of which one has a text. -/
def fileNamed (name text path : String) : HostFile :=
  if path = name then .text text else .missing

def twinFiles (entryPoint : String) : String → HostFile := fileNamed "g.hcl" (twinText entryPoint)

/-- The flags that ask for sources in WGSL. -/
def twinFlags : Parsed := { settings := [("format", "wgsl")] }

def twinConfig : Config := { Config.default with runtimeFormat := "wgsl" }

theorem configured_twin (env : Environment) (files : String → HostFile) :
    configured env twinFlags files = .ok twinConfig := rfl

theorem runtimeCompiler?_twin (env : Environment) :
    runtimeCompiler? env twinConfig = some .wgsl := rfl

theorem resolveGraphs_twin (files : String → HostFile) (path entryPoint : String) :
    GraphFile.resolveGraphs files path [twinDecl entryPoint] = ([twinGraph entryPoint], none) := by
  have hresolved : GraphFile.resolveGraph Factory.standard files (HostPath.directory path)
      (twinDecl entryPoint) = .ok (twinGraph entryPoint) := by
    rw [GraphFile.resolveGraph]
    simp only [twinDecl, List.mapM_cons, List.mapM_nil, GraphFile.resolveKernel, twinKernel,
      List.mergeSort_nil]
    rfl
  rw [GraphFile.resolveGraphs, hresolved]
  rfl

theorem loadedGraphs_ofText (name text : String) (declared : List GraphDecl) :
    GraphFile.loadedGraphs (Environment.ofText text declared).declarations? (fileNamed name text)
      name = GraphFile.resolveGraphs (fileNamed name text) name declared := by
  have hdeclared : (Environment.ofText text declared).declarations? text = some declared :=
    if_pos rfl
  have hfile : fileNamed name text name = .text text := if_pos rfl
  rw [GraphFile.loadedGraphs, hfile, HostFile.read]
  dsimp only
  rw [GraphFile.graphsOfText, hdeclared]

theorem loadedGraphs_twin (entryPoint : String) :
    GraphFile.loadedGraphs (twinEnvironment entryPoint).declarations? (twinFiles entryPoint)
      "g.hcl" = ([twinGraph entryPoint], none) :=
  (loadedGraphs_ofText _ _ _).trans (resolveGraphs_twin _ _ entryPoint)

/-- The build of one of the kernels. -/
def twinBuild (k : Nat) (entryPoint : String) : KernelBuild :=
  ((twinGraph entryPoint).assemble Builtin.store k
    (twinSource (if k = 0 then "Main" else entryPoint)) .wgsl
    (FileStore.message "wgsl" Builtin.kernelWrapperText []).sum).toOption.getD default

section
variable (entryPoint : String)

theorem runtimeBuild_twin (env : Environment) :
    runtimeBuild env twinConfig (twinGraph entryPoint) 0 = .ok (twinBuild 0 entryPoint) ∧
      runtimeBuild env twinConfig (twinGraph entryPoint) 1 = .ok (twinBuild 1 entryPoint) :=
  ⟨Graph.build_builtin (k := 0) Nat.zero_lt_two rfl rfl,
    Graph.build_builtin (k := 1) Nat.one_lt_two rfl rfl⟩

theorem hashKey_twinBuild :
    (twinBuild 1 entryPoint).hashKey = (twinBuild 0 entryPoint).hashKey := rfl

theorem fields_twinBuild : ∀ k < 2, (twinBuild k entryPoint).permutations = .empty ∧
    (twinBuild k entryPoint).dialect = .wgsl ∧
      (twinBuild k entryPoint).entryPoint = if k = 0 then "Main" else entryPoint
  | 0, _ => ⟨rfl, rfl, rfl⟩
  | 1, _ => ⟨rfl, rfl, rfl⟩

/-- Units are made of the same parts. -/
theorem sameParts_twinBuild : ∀ k < 2,
    (twinBuild k entryPoint).SameParts (twinBuild 0 "Main") ∧
      (twinBuild k entryPoint).groupSize = (twinBuild 0 "Main").groupSize
  | 0, _ => ⟨⟨rfl, rfl, rfl, rfl, rfl⟩, rfl⟩
  | 1, _ => ⟨⟨rfl, rfl, rfl, rfl, rfl⟩, rfl⟩

/-- The unit of a kernel. -/
def twinUnit : String :=
  ((twinBuild 0 "Main").request (Builtin.store.resolver Builtin.registryId)).groupText .wgsl ++
    ("\n" ++ framed VirtualPath.kernelWrapper
      (String.join Builtin.kernelWrapperLines.dropLast ++
        framed VirtualPath.generatedKernel (twinBuild 0 "Main").source))

theorem source_twinBuild : (twinBuild 0 "Main").source =
    "@group(0) @binding(0) var<uniform> NumThreads_DI0_Execution: u32;\n" ++
      ("fn ReadNumThreads_DI0_Execution() -> u32 \x7b return NumThreads_DI0_Execution; \x7d\n" ++
        ("fn ReadNumThreads() -> u32 \x7b return ReadNumThreads_DI0_Execution(); \x7d\n" ++
          "fn Main() \x7b\x7d\n")) := by
  decide +kernel

theorem unit?_twinBuild : ∀ k < 2,
    (twinBuild k entryPoint).unit? (Builtin.store.resolver Builtin.registryId) 0 =
      some twinUnit := by
  intro k hk
  obtain ⟨hparts, hgroup⟩ := sameParts_twinBuild entryPoint k hk
  have hdialect := (fields_twinBuild entryPoint k hk).2.1.trans
    (fields_twinBuild "Main" 0 Nat.zero_lt_two).2.1.symm
  have hbecomes : Include.Becomes
      (((twinBuild 0 "Main").request
        (Builtin.store.resolver Builtin.registryId)).variant [] 0).resolver
      [VirtualPath.kernelWrapper, VirtualPath.generatedKernel] [] (twinBuild 0 "Main").source
      (twinBuild 0 "Main").source [] := by
    rw [source_twinBuild]
    exact .append (.ofList (by decide)) (.append (.ofList (by decide))
      (.append (.ofList (by decide)) (.ofList (by decide))))
  rw [(hparts.unit?_eq_iff hdialect rfl).2 (Or.inl (by rw [hgroup])) 0]
  exact KernelBuild.unit?_wrapped rfl (fun x hx => by cases hx) Graph.plain_wrapper
    (Graph.source?_wrapper_builtin.trans (congrArg some Graph.kernelWrapperText_eq)) rfl hbecomes

/-- A kernel compiles if its unit mentions its entry point. -/
theorem toBool_runtimeProgram_twin (env : Environment) {k : Nat} (hk : k < 2) :
    (runtimeProgram env twinConfig (twinBuild k entryPoint)).toBool =
      ((twinBuild k entryPoint).entryPoint = "" ||
        Text.contains twinUnit (twinBuild k entryPoint).entryPoint) := by
  obtain ⟨hpermutations, hdialect, -⟩ := fields_twinBuild entryPoint k hk
  rw [runtimeProgram, runtimeCompiler?_twin, Compiler.wgsl, ← hdialect]
  exact Compiler.toBool_compile_passThrough hpermutations (unit?_twinBuild entryPoint k hk)

end

theorem contains_twinUnit : Text.contains twinUnit "Main" = true := by
  have hmain : Text.contains "fn Main() \x7b\x7d\n" "Main" = true := by decide
  have hsource : Text.contains (twinBuild 0 "Main").source "Main" = true := by
    rw [source_twinBuild]
    exact Text.contains_append_left _ (Text.contains_append_left _
      (Text.contains_append_left _ hmain))
  have hframed : ∀ {path text : String}, Text.contains text "Main" = true →
      Text.contains (framed path text) "Main" = true := fun h =>
    Text.contains_append_right _ (Text.contains_append_left _ h)
  exact Text.contains_append_left _ (Text.contains_append_left _
    (hframed (Text.contains_append_left _ (hframed hsource))))

theorem groupText_twinBuild :
    ((twinBuild 0 "Main").request (Builtin.store.resolver Builtin.registryId)).groupText .wgsl =
      "const THREADGROUP_SIZE_X = 1;\n" ++ ("const THREADGROUP_SIZE_Y = 1;\n" ++
        "const THREADGROUP_SIZE_Z = 1;\n") := by
  decide

/-- A letter that the unit does not have. -/
theorem notMem_twinUnit : 'Q' ∉ twinUnit.toList := by
  have hopen : 'Q' ∉ "// begin include \"".toList := notMem_ofList (by decide)
  have hclose : 'Q' ∉ "// end include \"".toList := notMem_ofList (by decide)
  have hend : 'Q' ∉ "\"\n".toList := notMem_ofList (by decide)
  have hframed : ∀ {path text : String}, 'Q' ∉ (VirtualPath.display path).toList →
      'Q' ∉ text.toList → 'Q' ∉ (framed path text).toList := by
    intro path text hpath htext
    rw [framed, notMem_append, notMem_append]
    exact ⟨⟨notMem_append.2 ⟨notMem_append.2 ⟨hopen, hpath⟩, hend⟩, htext⟩,
      notMem_append.2 ⟨notMem_append.2 ⟨hclose, hpath⟩, hend⟩⟩
  have hown : 'Q' ∉ (String.join Builtin.kernelWrapperLines.dropLast).toList := by
    simp only [Builtin.kernelWrapperLines, List.dropLast, String.join_cons, String.join_nil,
      notMem_append]
    exact ⟨notMem_ofList (by decide), notMem_ofList (by decide), notMem_ofList (by decide),
      notMem_ofList (by decide), notMem_ofList (by decide), notMem_ofList (by decide),
      notMem_ofList (by decide)⟩
  have hsource : 'Q' ∉ (twinBuild 0 "Main").source.toList := by
    rw [source_twinBuild, notMem_append, notMem_append, notMem_append]
    exact ⟨notMem_ofList (by decide), notMem_ofList (by decide), notMem_ofList (by decide),
      notMem_ofList (by decide)⟩
  rw [twinUnit, groupText_twinBuild, notMem_append, notMem_append, notMem_append, notMem_append]
  exact ⟨⟨notMem_ofList (by decide), notMem_ofList (by decide), notMem_ofList (by decide)⟩,
    notMem_ofList (by decide),
    hframed (by decide) (notMem_append.2 ⟨hown, hframed (by decide) hsource⟩)⟩

section
variable (env : Environment)

/-- Both kernels compile if the second one enters the function that there is. -/
theorem compiles_twin : Compiles env twinConfig (twinGraph "Main") := by
  obtain ⟨hbuild, hbuild'⟩ := runtimeBuild_twin "Main" env
  have hmain : ∀ k < 2, ∃ p, runtimeProgram env twinConfig (twinBuild k "Main") = .ok p := by
    intro k hk
    have hentry : (twinBuild k "Main").entryPoint = "Main" :=
      (fields_twinBuild "Main" k hk).2.2.trans (ite_self _)
    have hbool := toBool_runtimeProgram_twin "Main" env hk
    rw [hentry, contains_twinUnit, Bool.or_true] at hbool
    cases hp : runtimeProgram env twinConfig (twinBuild k "Main") with
    | ok p => exact ⟨p, rfl⟩
    | error e =>
      rw [hp] at hbool
      cases hbool
  obtain ⟨p, hp⟩ := hmain 0 Nat.zero_lt_two
  obtain ⟨p', hp'⟩ := hmain 1 Nat.one_lt_two
  refine ⟨rfl, rfl, ?_⟩
  rw [show (twinGraph "Main").compilable = [(0, ⟨"A", some (twinSource "Main")⟩, twinSource "Main"),
    (1, ⟨"B", some (twinSource "Main")⟩, twinSource "Main")] from rfl, List.forall_mem_cons,
    List.forall_mem_singleton]
  exact ⟨⟨_, p, hbuild, hp⟩, ⟨_, p', hbuild', hp'⟩⟩

/-- Where all kernels compile, hash keys decide what compiles. -/
theorem keysDecide_of_compiles {config : Config} {graphs : List Graph}
    (h : ∀ G ∈ graphs, Compiles env config G) : KeysDecide env config graphs := by
  have hok : ∀ key outcome, Yields env config graphs key outcome → outcome.toBool = true := by
    rintro key outcome ⟨G, hG, c, hc, b, hbuilt, -, rfl⟩
    obtain ⟨b', p, hbuilt', hp⟩ := (h G hG).kernels c hc
    cases hbuilt.symm.trans hbuilt'
    rw [hp]
    rfl
  exact fun key outcome outcome' hy hy' => (hok _ _ hy').trans (hok _ _ hy).symm

/-- The command finds no failure in a file of two kernels that both compile. -/
theorem compile_verdict_twin :
    (Call.run (twinEnvironment "Main") ⟨.compile, twinFlags, "g.hcl"⟩ "" (twinFiles "Main")).error =
        none ∧
      (tourFile (twinEnvironment "Main") (twinFiles "Main") twinConfig "g.hcl" ""
        (visitCompile twinFlags)).closed.Perm [0] := by
  have hcompiles : ∀ G ∈ [twinGraph "Main"], Compiles (twinEnvironment "Main") twinConfig G := by
    rintro G hG
    rw [List.mem_singleton.1 hG]
    exact compiles_twin _
  obtain ⟨⟨-, hclosed, -⟩, hall⟩ := compile_verdict_exact (twinEnvironment "Main") twinFlags "g.hcl"
    "" (twinFiles "Main") twinConfig [twinGraph "Main"] none (configured_twin _ _)
    (loadedGraphs_twin "Main")
  obtain ⟨-, hverdict, -⟩ := hall rfl
  exact ⟨(hverdict (keysDecide_of_compiles _ hcompiles)).2 ⟨.inl rfl, hcompiles⟩, hclosed⟩

/-- The second kernel does not compile if it enters a function that there is not. -/
theorem not_compiles_twin : ¬ Compiles env twinConfig (twinGraph "Query") := by
  intro h
  obtain ⟨b, p, hbuilt, hp⟩ := h.kernels (1, ⟨"B", some (twinSource "Query")⟩, twinSource "Query")
    (List.mem_cons_of_mem _ (List.mem_singleton_self _))
  cases hbuilt.symm.trans (runtimeBuild_twin "Query" env).2
  have hbool := toBool_runtimeProgram_twin "Query" env Nat.one_lt_two
  have hentry : (twinBuild 1 "Query").entryPoint = "Query" := rfl
  rw [hp, hentry, Text.contains_of_notMem (c := 'Q') (by decide) notMem_twinUnit] at hbool
  cases hbool

end

/-! ### A kernel that does not compile and is not found to fail -/

section
variable {env : Environment} {config : Config} {G : Graph} {k k' : Nat} {b b' : KernelBuild}
  {p : Program}

theorem queued_openSession (env : Environment) (options : GraphOptions) (G : Graph) :
    (openSession env options [G]).Queued 1 [] := by
  refine ⟨⟨[], ⟨rfl, fun i x hi hx => ?_⟩, List.nodup_nil, rfl⟩, rfl, ProgramCache.idle_empty _⟩
  match i, hi with
  | 0, _ =>
    cases hx
    exact ⟨rfl, rfl⟩
  | 1, hi => exact absurd rfl hi
  | i + 2, _ => cases hx

/-- No failure is found where every kernel shows a program. -/
theorem failure_visitCompile {R : ProgramKey → Except ProgramError Program → Prop} {s s' : Session}
    {g : Nat} {x : RenderProxy} (flags : Parsed) (hfirst : First R s g s' x)
    (hall : ∀ v ∈ x.invocations, v.program = some p) : (visitCompile flags s g).failure = none := by
  have hproxy : (s'.graph g).proxy.bind (s'.proxies[·]?) = some x := hfirst.proxy
  have hnone : (x.invocations.map fun v => (v, reported s' g v)).filter (fun y => !y.2.success) =
      [] := by
    rw [List.filter_eq_nil_iff]
    intro y hy
    obtain ⟨v, hv, rfl⟩ := List.mem_map.1 hy
    obtain ⟨_, r, _, hlast, hverdict⟩ := hfirst.verdicts v hv
    rw [reported_eq hlast]
    cases hverdict with
    | compiled _ hsuccess => simp [hsuccess]
    | failed _ _ hprogram => cases hprogram.symm.trans (hall v hv)
    | unbuilt _ _ hprogram => cases hprogram.symm.trans (hall v hv)
  unfold visitCompile
  rw [hfirst.update]
  dsimp only
  rw [hproxy]
  dsimp only
  rw [hnone]
  rfl

/-- **No failure is found in a graph with two kernels of one key** if the first one compiles: the
    second one is never compiled. -/
theorem failure_shared (flags : Parsed) (hbuiltin : ∀ x, some x ∈ G.interfaces → x.IsBuiltin)
    (hvalid : G.validate = .ok ()) (hknown : (runtimeCompiler? env config).isSome)
    (hkernels : G.compilable.map Prod.fst = [k, k']) (hb : runtimeBuild env config G k = .ok b)
    (hb' : runtimeBuild env config G k' = .ok b') (hkey : b'.hashKey = b.hashKey)
    (hp : runtimeProgram env config b = .ok p) :
    (visitCompile flags (openSession env config.graphOptions [G]) 0).failure = none := by
  have hopened := opened_openSession env config.graphOptions [G]
  have hqueued := queued_openSession env config.graphOptions G
  have hempty : ∀ k, (openSession env config.graphOptions [G]).owned? 0 k = none := fun _ => rfl
  have hG : [G][0]? = some G := rfl
  have hgraph := hopened.graph 0 G hG
  generalize openSession env config.graphOptions [G] = s at hopened hqueued hempty hgraph
  have htouring : Touring (Yields env config [G]) config s [0] [] s := hopened.touring [0]
  obtain ⟨H, hrun⟩ := hopened.run
  have hsize : 0 < s.graphs.size := by
    rw [hopened.size]
    exact Nat.one_pos
  have hformat : (s.graph 0).options.format = config.runtimeFormat := by rw [hgraph]; rfl
  have hpool : (s.graph 0).options.pool = 1 := by rw [hgraph]
  have hlevel : (s.graph 0).options.level.isValid = true := by
    rw [hgraph]
    exact config.isValid_feature
  have haccepts : s.accepts 0 = true := by
    rw [Session.accepts, hformat, htouring.compiler?_eq hopened, hknown, hgraph]
    dsimp only
    rw [hvalid]
    rfl
  -- the update that the command begins with
  obtain ⟨s', x, hfirst, -⟩ :=
    htouring.first hopened List.not_mem_nil hG hbuiltin (List.mem_singleton_self G) haccepts
  obtain ⟨t, q, others, calls, s'', x', hu⟩ := hrun.updated hsize haccepts
    (by rw [hpool, hopened.pools]; exact Nat.one_lt_two) hopened.idle.held
    (htouring.declared hopened hG hbuiltin)
  obtain rfl : s' = s'' := congrArg Prod.snd (hfirst.update.symm.trans hu.update)
  obtain rfl : x = x' :=
    Option.some.inj (hfirst.proxy.symm.trans hu.completed.presents.proxy?_eq)
  have hbuilt : ∀ {k built b}, (k, built) ∈ s.updateBuilds 0 →
      runtimeBuild env config G k = .ok b → built = .ok b := fun hmem hb =>
    (htouring.runtimeBuild_alike hopened hG hmem).symm.ok hb
  have hbuilds : s.updateBuilds 0 = [(k, .ok b), (k', .ok b')] := by
    have hfst := Session.map_fst_updateBuilds s 0
    rw [hgraph] at hfst
    obtain ⟨⟨_, built⟩, _, hall, rfl, hrest⟩ := List.map_eq_cons_iff.1 (hfst.trans hkernels)
    obtain ⟨⟨_, built'⟩, _, rfl, rfl, hnil⟩ := List.map_eq_cons_iff.1 hrest
    obtain rfl := List.map_eq_nil_iff.1 hnil
    have hfirst : built = .ok b := hbuilt (hall ▸ List.mem_cons_self ..) hb
    have hsecond : built' = .ok b' :=
      hbuilt (hall ▸ List.mem_cons_of_mem _ (List.mem_singleton_self _)) hb'
    rw [hall, hfirst, hsecond]
  have hmiss : s.cache.programs.value? ⟨(s.graph 0).options.format, b.hashKey⟩ = none := by
    cases hvalue : s.cache.programs.value? ⟨(s.graph 0).options.format, b.hashKey⟩ with
    | none => rfl
    | some p => exact ((hopened.programs fun _ _ => False).value? hvalue).elim
  refine failure_visitCompile flags hfirst (p := p) fun v hv => ?_
  refine hu.shares hrun hsize haccepts hlevel (by rw [hpool]; exact hqueued) hbuilds hkey
    (fun j hj hjob hbuild => ?_) hmiss (hempty k) (hempty k') v hv
  rw [htouring.compileJob_eq hopened Nat.one_pos hj (hjob.trans hformat), hbuild, hp]

/-- A file with one graph has the failure of this graph, if any. -/
theorem failures_tourFile {files : String → HostFile} {path : String}
    (visit : Session → Nat → Visit)
    (hload : GraphFile.loadedGraphs env.declarations? files path = ([G], none))
    (hnone : (visit (openSession env config.graphOptions [G]) 0).failure = none) :
    (tourFile env files config path "" visit).failures = [] := by
  have hfailures : (tourFile env files config path "" visit).failures =
      (visit (openSession env config.graphOptions [G]) 0).failure.toList.map fun f =>
        (((visit (openSession env config.graphOptions [G]) 0).session.graph 0).definition.name,
          f) := by
    unfold tourFile
    rw [hload]
    rfl
  rw [hfailures, hnone]
  rfl

end

/-- The command may find no failure although a kernel does not compile. -/
theorem not_compile_verdict :
    ¬ ∀ (env : Environment) (flags : Parsed) (path elapsed : String) (files : String → HostFile)
      (config : Config) (graphs : List Graph), configured env flags files = .ok config →
      GraphFile.loadedGraphs env.declarations? files path = (graphs, none) →
      ((Call.run env ⟨.compile, flags, path⟩ elapsed files).error = none ↔
        (flags.text "graph" = "" ∨
          (graphs.filter fun G => flags.text "graph" = "" || G.name = flags.text "graph") ≠ []) ∧
        ∀ G ∈ graphs.filter fun G => flags.text "graph" = "" || G.name = flags.text "graph",
          Compiles env config G) := by
  intro h
  have hload := loadedGraphs_twin "Query"
  generalize twinEnvironment "Query" = env at hload
  -- the first kernel is the one of the file without a failure
  obtain ⟨b, p, hbuilt, hp⟩ := (compiles_twin env).kernels (0, _) (List.mem_cons_self ..)
  cases hbuilt.symm.trans (runtimeBuild_twin "Main" env).1
  obtain ⟨hbuild, hbuild'⟩ := runtimeBuild_twin "Query" env
  have hfirst : runtimeProgram env twinConfig (twinBuild 0 "Query") = .ok p := hp
  have hnone := failure_shared twinFlags (fun x hx => by
    obtain rfl := Option.some.inj (List.mem_singleton.1 hx)
    trivial) rfl rfl rfl hbuild hbuild' (hashKey_twinBuild "Query") hfirst
  have herror : (Call.run env ⟨.compile, twinFlags, "g.hcl"⟩ "" (twinFiles "Query")).error =
      none := by
    have hname : twinFlags.text "graph" = "" := rfl
    obtain ⟨-, hout⟩ := run_compile "" hname (configured_twin env _) hload rfl rfl
    replace hout := hout rfl
    rw [if_neg fun h => h.1 rfl] at hout
    rw [hout.2, if_pos (failures_tourFile _ hload hnone)]
  have hall := (h env twinFlags "g.hcl" "" (twinFiles "Query") twinConfig [twinGraph "Query"]
    (configured_twin env _) hload).1 herror
  exact not_compiles_twin env (hall.2 _ (List.mem_singleton_self _))

end Tool

end KernelGraph
