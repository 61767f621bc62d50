/-
  Cooking: compiling every kernel for the formats of a target platform, into a cache apart from the
  run-time resources.  Closing a graph ends both.
-/
import KernelGraph.Session.Update

namespace KernelGraph

/-- What the digest of a platform's dependencies is taken of. -/
structure CookArgs where
  version : Int
  formats : List String
  paths : List String
  deriving DecidableEq, Repr, Inhabited

/-- The version of the arguments that the library writes. -/
def cookVersion : Int := 1

namespace Session

/-- The resources of a platform cache. -/
def platformResources (s : Session) (platform : Nat) : List Nat :=
  (s.platforms.getD platform default).entries.map Prod.snd

/-- Cancels a platform cache and invalidates its entries. -/
def dropPlatform (s : Session) (platform : Nat) : Session :=
  let s := s.takeTasks (s.platformResources platform)
  let s := { s with
    platforms := s.platforms.modify platform fun x => { x with announced := true } }
  (s.platformResources platform).foldl (fun s r => s.modifyResource r Resource.invalidate) s

/-- Drops the cache of one platform. -/
def clearPlatform (s : Session) (g : Nat) (name : String) : Session :=
  match (s.graph g).cook.lookup name with
  | none => s
  | some p =>
    (s.modifyGraph g fun x => { x with cook := x.cook.filter fun e => e.1 ≠ name }).dropPlatform p

/-- Drops the caches of all platforms. -/
def clearPlatforms (s : Session) (g : Nat) : Session :=
  let cook := (s.graph g).cook
  cook.foldl (fun s e => s.dropPlatform e.2) (s.modifyGraph g fun x => { x with cook := [] })

/-- The builds of all kernels for one format. -/
structure FormatBuilds where
  format : String
  /-- The compiler's level and dialect; none without a compiler. -/
  compiler : Option Compiler
  builds : List (Nat × Except GraphError KernelBuild) := []

/-- Builds kernels for a format. -/
def buildKernels (g : Nat) (d : Dialect) (format : String) :
    List (Nat × Kernel × KernelSource) → Session →
    Except GraphError (List (Nat × Except GraphError KernelBuild)) × Session
  | [], s => (.ok [], s)
  | (k, _) :: rest, s =>
    match s.buildKernel g k d format with
    | (.error (.undeclared e), s) => (.error (.undeclared e), s)
    | (built, s) =>
      match buildKernels g d format rest s with
      | (.error e, s) => (.error e, s)
      | (.ok builds, s) => (.ok ((k, built) :: builds), s)

/-- Builds all kernels for every format of a platform. -/
def buildFormats (g : Nat) (platform : String) :
    List String → Session → Except GraphError (List FormatBuilds) × Session
  | [], s => (.ok [], s)
  | format :: rest, s =>
    let compiler := s.compiler? format
    let built : Except GraphError (List (Nat × Except GraphError KernelBuild)) × Session :=
      match compiler with
      | none =>
        (.ok [],
          s.note [{ level := .warn
                    message := "computegraph: no compiler for cook format"
                    attributes :=
                      [("graph", (s.graph g).definition.name), ("platform", platform),
                       ("format", format), ("error", (UnknownFormat.mk format).message)] }])
      | some c => buildKernels g c.dialect format (s.graph g).definition.compilable s
    match built with
    | (.error e, s) => (.error e, s)
    | (.ok builds, s) =>
      match buildFormats g platform rest s with
      | (.error e, s) => (.error e, s)
      | (.ok fs, s) => (.ok (⟨format, compiler, builds⟩ :: fs), s)

/-- Makes the entry of one kernel and format: failed at once, or with a job to submit. -/
def makeEntry (g platform : Nat) (f : FormatBuilds) (state : Session × List Job)
    (k : Nat) (kernel : Kernel) (source : KernelSource) : Session × List Job :=
  let (s, jobs) := state
  let level := (f.compiler.map Compiler.level).getD .sm5
  let r := s.resources.size
  let s := { s with
    resources := s.resources.push { format := f.format, level }
    platforms := s.platforms.modify platform fun x => { x with entries := x.entries ++ [(k, r)] } }
  let failed (e : ResultError) : Session × List Job :=
    let result : CompileResult :=
      { format := f.format, level, error := some e, diagnostics := [e.message] }
    let s := (s.modifyResource r fun x => x.fail none 0 result).countCompile result
    let name := (s.platforms.getD platform default).platform.name
    (s.cookFailed g k name (source.isDefault && f.compiler.isSome) result, jobs)
  match f.compiler, f.builds.lookup k with
  | none, _ => failed (.format ⟨f.format⟩)
  | some _, some (.error e) => failed (.build e)
  | some _, some (.ok b) =>
    (s.modifyResource r fun x => x.begin b 0,
      jobs ++ [{ graph := g, kernel := k, name := kernel.name, isDefault := source.isDefault,
                 resource := r, build := b, format := f.format, kind := .cook platform }])
  | some _, none => (s, jobs)

/-- Compiles every kernel for each format of a platform.  The fallback kernel is compiled before the
    call returns.  An earlier cache of the platform is dropped. -/
def beginPlatform (s : Session) (g : Nat) (platform : TargetPlatform) :
    Except GraphError Unit × Session :=
  match (s.graph g).definition.validate with
  | .error e => (.error (.invalid e), s)
  | .ok () =>
    let s := s.clearPlatform g platform.name
    if (s.graph g).closed then (.error .closed, s)
    else
      match buildFormats g platform.name platform.formats s with
      | (.error e, s) => (.error e, s)
      | (.ok formats, s) =>
        let id := s.platforms.size
        let s := { s with platforms := s.platforms.push { platform } }
        let kernels := (s.graph g).definition.compilable
        let (s, jobs) := formats.foldl (fun state f =>
          kernels.foldl (fun state (k, kernel, source) =>
            makeEntry g id f state k kernel source) state) (s, [])
        let s := s.modifyGraph g fun x => { x with cook := x.cook ++ [(platform.name, id)] }
        let s := (jobs.filter Job.isDefault).foldl (fun s j => (s.submit j).drain) s
        let s := (jobs.filter fun j => !j.isDefault).foldl submit s
        (.ok (), s.announceReady g id)

/-- True when every compile of a platform's cache is over; false for a platform never begun. -/
def isPlatformReady (s : Session) (g : Nat) (name : String) : Bool :=
  match (s.graph g).cook.lookup name with
  | none => false
  | some p => s.isReady p

/-- The entries of a platform's cache, by format and then by kernel. -/
def cookedResources? (s : Session) (g : Nat) (name : String) : Option (List Nat) :=
  ((s.graph g).cook.lookup name).map s.platformResources

/-- Closes a graph: outstanding compiles are cancelled, resources invalidated and the proxy
    released. -/
def close (s : Session) (g : Nat) : Session :=
  if (s.graph g).closed then s
  else
    let s := s.modifyGraph g fun x => { x with closed := true, generation := x.generation + 1 }
    let cook := (s.graph g).cook.map Prod.snd
    let runtime := s.graphResources g
    let cooked := cook.flatMap s.platformResources
    let s := s.takeTasks (runtime ++ cooked)
    let s := (runtime ++ cooked).foldl (fun s r => s.modifyResource r Resource.invalidate) s
    let s := s.setPending g []
    let s := { s with
      platforms := cook.foldl (fun ps p => ps.modify p fun x => { x with announced := true })
        s.platforms }
    let proxy := (s.graph g).proxy
    let s := s.modifyGraph g fun x => { x with sets := [], cook := [], proxy := none }
    let s := s.releaseProxy g proxy
    let o := (s.graph g).options
    let s := if o.ownsPool then s.closePool o.pool else s
    s.note [{ level := .debug
              message := "computegraph: graph closed"
              attributes := [("graph", (s.graph g).definition.name)] }]

/-- Digests the files of the paths for every format, one after the other. -/
def digestPaths (registry : Nat) : List (String × String) → Hasher → FileStore →
    Except GraphError Hasher × FileStore
  | [], h, fs => (.ok h, fs)
  | (format, path) :: rest, h, fs =>
    match fs.digest registry path format with
    | (.error e, fs) => (.error (.cookDependency path format e), fs)
    | (.ok d, fs) => digestPaths registry rest (h.writeDigest d) fs

/-- The digest of everything that cooking depends on. -/
def cookDigest (fs : FileStore) (registry : Nat) (args : CookArgs) :
    Except GraphError Digest × FileStore :=
  if args.version ≠ cookVersion then (.error (.cookVersion args.version), fs)
  else
    let pairs := args.formats.flatMap fun f => args.paths.map fun p => (f, p)
    let (h, fs) := digestPaths registry pairs {} fs
    (h.map Hasher.sum, fs)

end Session

/-- The dependencies of a graph on a platform: the kernel wrapper, then the template of every
    interface that has one. -/
def Graph.cookArgs (g : Graph) (formats : List String) : CookArgs where
  version := cookVersion
  formats := formats
  paths := VirtualPath.kernelWrapper :: (g.interfaces.filterMap id).filterMap fun d =>
    if d.interface.virtualPath = "" then none else some d.interface.virtualPath

end KernelGraph
