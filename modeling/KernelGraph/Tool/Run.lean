/-
  Running the tool.

  A command line is parsed to a call, the call is carried out on the files that it names, and the
  outcome is what was printed, the log records and the error if there is one.  Every graph of a file
  is visited, and the failures of all of them make up the error.

  The tool is given readers of graph files and of configurations, and the code generator of the
  binary format (`Environment`).  `Environment.plain` tries the tool out with simple ones.
-/
import KernelGraph.Config
import KernelGraph.GraphFile.Loader
import KernelGraph.Session.Cook
import KernelGraph.Tool.Help
import KernelGraph.Tool.View

namespace KernelGraph.Tool

/-! ## Environments -/

/-- What the tool has from elsewhere. -/
structure Environment where
  /-- The declarations in the text of a graph file; none if it is malformed. -/
  declarations? : String → Option (List GraphFile.GraphDecl)
  /-- What the text of a configuration sets, nothing if it is empty; none if it is malformed. -/
  settings? : String → Option (Option Config)
  /-- The binary code of a source, or the message of its rejection. -/
  lower : String → Except String String

/-- Readers for simple files, and a code generator that gives sources back. -/
def Environment.plain : Environment where
  declarations? := GraphFile.declarations?
  settings? := Config.settings?
  lower := .ok

/-! ## Errors -/

/-- Why a command fails for a graph. -/
inductive Failure
  | invalid
  | graph (e : GraphError)
  | expansion (e : ExpansionError)
  | noKernel (name : String)
  | noProxy
  | compile (failed total : Nat)
  | cook (failed total : Nat)
  /-- The compiles of a platform did not end. -/
  | unfinished (platform : String)
  deriving DecidableEq

/-- The message of the failure. -/
def Failure.message : Failure → String
  | invalid => "graph is invalid"
  | graph e => e.message
  | expansion e => e.message
  | noKernel name => "no kernel " ++ Text.quoted name
  | noProxy => "no render proxy published"
  | compile failed total =>
    "kernels failed to compile: " ++ toString failed ++ " of " ++ toString total
  | cook failed total => "kernels failed to cook: " ++ toString failed ++ " of " ++ toString total
  | unfinished platform => "platform " ++ platform ++ ": context deadline exceeded"

/-- Why the tool fails. -/
inductive ToolError
  | flags (e : FlagError)
  | unknownCommand (name : String)
  | argumentCount (count : Nat)
  | config (e : ConfigError)
  | load (e : GraphFile.LoadError)
  | noGraph (name path : String)
  | noPlatform (name : String)
  | platformRequired
  /-- The failures of graphs, by name. -/
  | failures (fs : List (String × Failure))
  deriving DecidableEq

/-- The message of the error. -/
def ToolError.message : ToolError → String
  | flags e => e.message
  | unknownCommand name => unknownCommandMessage name
  | argumentCount count => "requires exactly 1 argument(s), got " ++ toString count
  | config e => e.message
  | load e => e.message
  | noGraph name path => "no graph " ++ Text.quoted name ++ " in " ++ path
  | noPlatform name => "platform " ++ Text.quoted name ++ " is not configured"
  | platformRequired => "one of --platform or --formats is required"
  | failures fs => "\n".intercalate (fs.map fun (name, f) => name ++ ": " ++ f.message)

/-- What came of a run. -/
structure Outcome where
  output : String := ""
  error : Option ToolError := none
  /-- The records from the configured level on. -/
  records : List Log.Record := []
  /-- Records are written as structured lines. -/
  structured : Bool := false

/-! ## Calls -/

/-- A command with its flags and its graph file. -/
structure Call where
  command : Command
  flags : Parsed
  path : String

/-- What a command line asks for. -/
inductive CommandLine
  | call (c : Call)
  /-- Help, before anything else is done. -/
  | help (topic : Topic)
  /-- The command that prints help. -/
  | helpCall (flags : Parsed)
  /-- The command line is not accepted; what is printed about it comes first. -/
  | rejected (output : String) (e : ToolError)

/-- Reads the command line of a known command or of the tool alone. -/
def CommandLine.ofTopic (topic : Topic) (args : List String) : CommandLine :=
  match parseFlags (topic.flags ++ globalFlags) false args {} with
  | .error e => .rejected "" (.flags e)
  | .ok flags =>
    if flags.isOn helpName then .help topic
    else
      match topic with
      | .tool => .help topic
      | .help => .helpCall flags
      | .command c =>
        match flags.arguments with
        | [path] => .call ⟨c, flags, path⟩
        | _ => .rejected topic.usage (.argumentCount flags.arguments.length)

/-- Reads a command line. -/
def CommandLine.read (args : List String) : CommandLine :=
  match words false args with
  | [] => ofTopic .tool args
  | word :: _ =>
    match Topic.ofName? word with
    | none => .rejected "" (.unknownCommand word)
    | some topic => ofTopic topic (withoutName word false args)

/-- The configuration with the flags that override it. -/
def configured (env : Environment) (flags : Parsed) (files : String → HostFile) :
    Except ToolError Config := do
  let config ← (Config.load env.settings? files (flags.text "config")).mapError .config
  let config := { config with
    logLevel := (flags.value? "log-level").getD config.logLevel
    logFormat := (flags.value? "log-format").getD config.logFormat
    runtimeFormat := (flags.value? "format").getD config.runtimeFormat }
  match config.validate with
  | .error e => .error (.config (.invalid e))
  | .ok () => .ok config

/-- The target platform that the flags name. -/
def Call.platform (c : Call) (config : Config) : Except ToolError TargetPlatform :=
  let formats := c.flags.list "formats"
  let name := c.flags.text "platform"
  if !formats.isEmpty then .ok ⟨if name = "" then "cli" else name, formats⟩
  else if name = "" then .error .platformRequired
  else
    match config.platform? name with
    | some p => .ok p
    | none => .error (.noPlatform name)

/-- True when no time is given to wait for. -/
def Call.isSpent (c : Call) : Bool :=
  ((c.flags.value? "timeout").bind fun s => (Duration.read s).toOption).any (· ≤ 0)

/-! ## Commands on one graph -/

/-- What a command did with a graph: what it printed and why it failed. -/
structure Visit where
  session : Session
  output : String := ""
  failure : Option Failure := none

/-- Checks a graph. -/
def visitValidate (s : Session) (g : Nat) : Visit :=
  let d := (s.graph g).definition
  let result := d.validate
  let line := padRight 4 (status false result.toBool) ++ " " ++ highlight false d.name ++ " (" ++
    toString d.kernels.length ++ " kernels, " ++ toString d.interfaces.length ++
    " data interfaces, " ++ toString d.edges.length ++ " edges)\n"
  match result with
  | .ok () => { session := s, output := line }
  | .error e =>
    { session := s, output := line ++ "     " ++ e.message ++ "\n", failure := some .invalid }

/-- The text of a build that is printed, with includes resolved if asked for. -/
def sourceText (expand : Bool) (b : KernelBuild) : Except ExpansionError String :=
  if !expand then .ok b.source
  else
    let request : Request :=
      { source := b.source, includes := b.includes
        files := Builtin.store.resolver Builtin.registryId }
    request.expand b.dialect

/-- Prints the sources of kernels until one fails. -/
def printSources (g : Nat) (expand layout : Bool) : List Nat → Visit → Visit
  | [], v => v
  | k :: rest, v =>
    match v.session.buildRuntime g k with
    | (.error e, s) => { v with session := s, failure := some (.graph e) }
    | (.ok b, s) =>
      match sourceText expand b with
      | .error e => { v with session := s, failure := some (.expansion e) }
      | .ok text =>
        let header := "// " ++ b.friendlyName ++ " (" ++ b.dialect.name ++ ") hash " ++
          (Digest.ofText b.hashKey).toHex ++ "\n"
        let parameters := if layout then "/*\n" ++ b.layout.listing ++ "*/\n" else ""
        printSources g expand layout rest
          { v with session := s, output := v.output ++ header ++ parameters ++ text ++ "\n" }

/-- Prints the sources of all kernels or of the named one. -/
def visitSource (flags : Parsed) (s : Session) (g : Nat) : Visit :=
  let name := flags.text "kernel"
  let wanted := ((s.graph g).definition.compilable.filter fun (_, kernel, _) =>
    name = "" || kernel.name = name).map fun x => x.1
  let v := printSources g (flags.isOn "expand") (flags.isOn "layout") wanted { session := s }
  if name ≠ "" && wanted.isEmpty then { v with failure := some (.noKernel name) } else v

/-- The line about a kernel of a proxy, and the diagnostics if wanted. -/
def invocationLines (diagnostics : Bool) (v : Invocation) (r : CompileResult) : String :=
  let variants := (v.program.map fun p => p.variants.length).getD 0
  let size := (v.program.map Program.codeSize).getD 0
  let line := "  " ++ padRight 4 (status false r.success) ++ " " ++ padRight 24 v.name ++ " " ++
    padLeft 2 (toString variants) ++ " variants " ++ padLeft 10 (sizeText size) ++
    (if r.cached then " (cached)" else "") ++ "\n"
  let details := if !r.success || diagnostics then r.diagnostics else []
  line ++ String.join (details.map fun d => "       " ++ d ++ "\n")

/-- What was reported last of a kernel of a proxy; it is reused if there is no report. -/
def reported (s : Session) (g : Nat) (v : Invocation) : CompileResult :=
  match s.hooks.reverse.find? fun h => h.graph = g && h.kernel = v.kernel with
  | some h => h.result
  | none => { success := v.program.isSome, cached := true }

/-- Compiles a graph for the run-time format. -/
def visitCompile (flags : Parsed) (s : Session) (g : Nat) : Visit :=
  match s.update g true with
  | (.error e, s) => { session := s, failure := some (.graph e) }
  | (.ok (), s) =>
    match (s.graph g).proxy.bind (s.proxies[·]?) with
    | none => { session := s, failure := some .noProxy }
    | some proxy =>
      let results := proxy.invocations.map fun v => (v, reported s g v)
      let failed := (results.filter fun (_, r) => !r.success).length
      let output := highlight false (s.graph g).definition.name ++ " (generation " ++
        toString proxy.generation ++ ")\n" ++
        String.join (results.map fun (v, r) => invocationLines (flags.isOn "diagnostics") v r)
      { session := s, output
        failure := if failed = 0 then none else some (.compile failed results.length) }

/-- The lines about an entry of a platform cache. -/
def entryLines (r : Resource) : String :=
  let ok := r.state = .compiled
  let name := (r.build.map KernelBuild.friendlyName).getD "?"
  let size := (r.program.map Program.codeSize).getD 0
  "  " ++ padRight 4 (status false ok) ++ " " ++ padRight 8 r.format ++ " " ++ padRight 24 name ++
    " " ++ padLeft 10 (sizeText size) ++ "\n" ++
    match r.result.error with
    | some e => if ok then "" else "       " ++ e.message ++ "\n"
    | none => ""

/-- Compiles a graph for a platform; `elapsed` tells how long that takes.  If the time is `spent`
    from the start, nothing is waited for. -/
def visitCook (elapsed : String) (spent : Bool) (platform : TargetPlatform) (s : Session)
    (g : Nat) : Visit :=
  match s.beginPlatform g platform with
  | (.error e, s) => { session := s, failure := some (.graph e) }
  | (.ok (), begun) =>
    let s := begun.drain
    if !(if spent then begun else s).isPlatformReady g platform.name then
      { session := s, failure := some (.unfinished platform.name) }
    else
      let entries := ((s.cookedResources? g platform.name).getD []).map s.resource
      let failed := (entries.filter fun r => r.state ≠ .compiled).length
      { session := s
        output := highlight false (s.graph g).definition.name ++ " for " ++ platform.name ++
          " in " ++ elapsed ++ "\n" ++ String.join (entries.map entryLines)
        failure := if failed = 0 then none else some (.cook failed entries.length) }

/-- Prints the digest of what cooking a graph depends on. -/
def visitCookHash (platform : TargetPlatform) (verbose : Bool) (s : Session) (g : Nat) : Visit :=
  let d := (s.graph g).definition
  let args := d.cookArgs platform.formats
  match Session.cookDigest s.files Builtin.registryId args with
  | (.error e, files) => { session := { s with files }, failure := some (.graph e) }
  | (.ok digest, files) =>
    { session := { s with files }
      output := digest.toHex ++ "  " ++ d.name ++ "\n" ++
        if verbose then String.join (args.paths.map fun p => "    " ++ p ++ "\n") else "" }

/-! ## Running -/

/-- A session with graphs, each on a pool of its own. -/
def openSession (env : Environment) (options : GraphOptions) (graphs : List Graph) : Session :=
  graphs.foldl (fun s g =>
    { s with pools := s.pools.push {} }.addGraph g
      { options with queue := .immediate, pool := s.pools.size, ownsPool := true })
    { scripts := [.binary env.lower], cache := ProgramCache.empty ProgramCache.defaultLimit }

/-- What has come of visiting graphs and closing them. -/
structure Tour where
  session : Session
  output : String := ""
  /-- The failures of graphs, by name. -/
  failures : List (String × Failure) := []
  /-- The graphs that were closed, one after the other. -/
  closed : List Nat := []

/-- Closes a graph. -/
def Tour.close (t : Tour) (g : Nat) : Tour :=
  { t with session := t.session.close g, closed := t.closed ++ [g] }

/-- Visits a graph. -/
def Tour.visit (visit : Session → Nat → Visit) (t : Tour) (g : Nat) : Tour :=
  let v := visit t.session g
  let name := (v.session.graph g).definition.name
  { t with
    session := v.session
    output := t.output ++ v.output
    failures := t.failures ++ v.failure.toList.map fun f => (name, f) }

/-- Closes graphs that are not asked for, then visits the others and closes each of them. -/
def tour (visit : Session → Nat → Visit) (s : Session) (unwanted wanted : List Nat) : Tour :=
  wanted.foldl (fun t g => (t.visit visit g).close g) (unwanted.foldl Tour.close { session := s })

/-- The records of a session; failures of fallback kernels are errors. -/
def sessionRecords (s : Session) : List Log.Record :=
  s.log ++ s.fatals.map fun (kernel, text) =>
    { level := .error, message := "default kernel failed to compile"
      attributes := [("kernel", kernel), ("error", text)] }

/-- The record about a file whose graphs are loaded. -/
def loadedRecord (path : String) (count : Nat) : Log.Record where
  level := .debug
  message := "loader: graphs loaded"
  attributes := [("file", path), ("graphs", count)]

/-- Visits the graphs of a file, or the named ones only.  If the file cannot be loaded, the graphs
    that were made of it are closed. -/
def tourFile (env : Environment) (files : String → HostFile) (config : Config)
    (path name : String) (visit : Session → Nat → Visit) : Tour :=
  let (graphs, failed) := GraphFile.loadedGraphs env.declarations? files path
  let s := openSession env config.graphOptions graphs
  let all := List.range graphs.length
  let wanted (g : Nat) : Bool :=
    failed.isNone && (name = "" || (s.graph g).definition.name = name)
  tour visit s (all.filter fun g => !wanted g) (all.filter wanted)

/-- Visits the graphs of a file, or the named ones only, and tells what came of it. -/
def eachGraph (env : Environment) (files : String → HostFile) (config : Config)
    (path name : String) (visit : Session → Nat → Visit) : Outcome :=
  let (graphs, failed) := GraphFile.loadedGraphs env.declarations? files path
  let t := tourFile env files config path name visit
  match failed with
  | some e => { error := some (.load e), records := sessionRecords t.session }
  | none =>
    let records := loadedRecord path graphs.length :: sessionRecords t.session
    if name ≠ "" && graphs.all (fun g => g.name ≠ name) then
      { error := some (.noGraph name path), records }
    else
      { output := t.output
        error := if t.failures.isEmpty then none else some (.failures t.failures)
        records }

/-- Carries a call out with a configuration. -/
def Call.perform (env : Environment) (c : Call) (elapsed : String) (files : String → HostFile)
    (config : Config) : Outcome :=
  let each := eachGraph env files config c.path (c.flags.text "graph")
  let onPlatform (visit : TargetPlatform → Session → Nat → Visit) : Outcome :=
    match c.platform config with
    | .error e => { error := some e }
    | .ok p => each (visit p)
  match c.command with
  | .validate => each visitValidate
  | .source => each (visitSource c.flags)
  | .compile => each (visitCompile c.flags)
  | .cook => onPlatform (visitCook elapsed c.isSpent)
  | .cookHash => onPlatform fun p => visitCookHash p (c.flags.isOn "verbose")

/-- Carries a call out. -/
def Call.run (env : Environment) (c : Call) (elapsed : String) (files : String → HostFile) :
    Outcome :=
  match configured env c.flags files with
  | .error e => { error := some e }
  | .ok config =>
    let out := c.perform env elapsed files config
    { out with
      records := atLeast (config.level.toOption.getD .info) out.records
      structured := config.logFormat = "json" }

/-- Runs the tool on a command line; `elapsed` stands for the time that cooking takes. -/
def runIn (env : Environment) (elapsed : String) (files : String → HostFile)
    (args : List String) : Outcome :=
  match CommandLine.read args with
  | .rejected output e => { output, error := some e }
  | .help topic => { output := topic.text }
  | .helpCall flags =>
    match configured env flags files with
    | .error e => { error := some e }
    | .ok _ => { output := helpAbout flags.arguments }
  | .call c => c.run env elapsed files

/-- Runs the tool in the plain environment. -/
def run (elapsed : String) (files : String → HostFile) (args : List String) : Outcome :=
  runIn .plain elapsed files args

end KernelGraph.Tool
