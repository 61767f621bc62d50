/-
  The configuration of the command line tool.

  A configuration is read from a YAML mapping whose keys are all known.  Texts that are left out or
  empty get their defaults; then the fields are checked one after the other.  The reader of the
  mapping is a parameter; `Config.settings?` reads block mappings, sequences and scalars.
-/
import KernelGraph.HostFile
import KernelGraph.Log
import KernelGraph.Session.Basic
import KernelGraph.Yaml.Parser

namespace KernelGraph

/-- A target platform of the configuration. -/
structure PlatformConfig where
  name : String := ""
  formats : List String := []
  deriving DecidableEq, Repr, Inhabited

/-- The settings of the tool. -/
structure Config where
  runtimeFormat : String := ""
  featureLevel : String := ""
  workers : Int := 0
  editorData : Bool := false
  deferredCompilation : Bool := false
  platforms : List PlatformConfig := []
  logLevel : String := ""
  logFormat : String := ""
  deriving DecidableEq, Repr, Inhabited

/-- What is wrong with a configuration. -/
inductive InvalidConfig
  | featureLevel (text : String)
  | workers (n : Int)
  | logLevel (e : Log.Level.ParseError)
  | logFormat (text : String)
  | platformName (position : Nat)
  | platformTwice (name : String)
  | emptyFormat (platform : String)
  deriving DecidableEq

/-- The message of the error. -/
def InvalidConfig.message (e : InvalidConfig) : String :=
  "config: invalid configuration: " ++
    match e with
    | featureLevel text => "feature_level: " ++ FeatureLevel.unknownMessage text
    | workers n => "workers must not be negative, got " ++ toString n
    | logLevel e => "log.level: " ++ e.message
    | logFormat text => "log.format must be text or json, got " ++ Text.quoted text
    | platformName position => "platforms[" ++ toString position ++ "] has no name"
    | platformTwice name => "platform " ++ Text.quoted name ++ " declared twice"
    | emptyFormat platform => "platform " ++ Text.quoted platform ++ " has an empty format"

/-- Why there is no configuration. -/
inductive ConfigError
  /-- The text is no YAML, or not of the expected shape. -/
  | malformed
  | invalid (e : InvalidConfig)
  | unreadable (e : FileError)
  /-- An error in the file at a path. -/
  | inFile (path : String) (e : ConfigError)
  deriving DecidableEq

namespace ConfigError

/-- The message of the error. -/
def message : ConfigError → String
  | malformed => ""
  | invalid e => e.message
  | unreadable e => "config: " ++ e.message
  | inFile path e => "config: " ++ path ++ ": " ++ e.message

/-- The error itself, without the file that it is in. -/
def cause : ConfigError → ConfigError
  | inFile _ e => e.cause
  | e => e

end ConfigError

namespace Config

/-! ## Decoding -/

open Yaml.Node in
/-- Reads a platform. -/
def readPlatform? : Yaml.Node → Yaml.Decoded PlatformConfig :=
  record? {} fun key =>
    match key with
    | "name" => some (put text? fun p name => { p with name })
    | "formats" => some (put (list? text?) fun p formats => { p with formats })
    | _ => none

open Yaml.Node in
/-- Reads the log settings into a configuration. -/
def logSettings? (c : Config) : Yaml.Node → Yaml.Decoded Config :=
  record? c fun key =>
    match key with
    | "level" => some (put text? fun c logLevel => { c with logLevel })
    | "format" => some (put text? fun c logFormat => { c with logFormat })
    | _ => none

open Yaml.Node in
/-- Reads a configuration as it is written. -/
def ofNode? : Yaml.Node → Yaml.Decoded Config :=
  record? {} fun key =>
    match key with
    | "runtime_format" => some (put text? fun c runtimeFormat => { c with runtimeFormat })
    | "feature_level" => some (put text? fun c featureLevel => { c with featureLevel })
    | "workers" => some (put int? fun c workers => { c with workers })
    | "editor_data" => some (put bool? fun c editorData => { c with editorData })
    | "deferred_compilation" =>
      some (put bool? fun c deferredCompilation => { c with deferredCompilation })
    | "platforms" => some (put (list? readPlatform?) fun c platforms => { c with platforms })
    | "log" => some fun c n => put (logSettings? c) (fun _ d => d) c n
    | _ => none

/-- A text, or the default for an empty one. -/
def orDefault (s default : String) : String := if s = "" then default else s

/-- Fills the defaults in. -/
def withDefaults (c : Config) : Config :=
  { c with
    runtimeFormat := orDefault c.runtimeFormat binaryFormat
    featureLevel := orDefault c.featureLevel FeatureLevel.sm5.name
    logLevel := orDefault c.logLevel "info"
    logFormat := orDefault c.logFormat "text" }

/-- The configuration without a file. -/
def default : Config := withDefaults {}

/-! ## Checking -/

/-- The severity from which records are logged. -/
def level (c : Config) : Except Log.Level.ParseError Log.Level :=
  Log.Level.parse (Text.trim c.logLevel)

/-- Checks the platforms from position `i` on; `seen` are the names before. -/
def checkPlatforms : (i : Nat) → (seen : List String) → List PlatformConfig →
    Except InvalidConfig Unit
  | _, _, [] => .ok ()
  | i, seen, p :: ps =>
    if p.name = "" then .error (.platformName i)
    else if seen.contains p.name then .error (.platformTwice p.name)
    else if p.formats.contains "" then .error (.emptyFormat p.name)
    else checkPlatforms (i + 1) (p.name :: seen) ps

/-- Checks every field. -/
def validate (c : Config) : Except InvalidConfig Unit :=
  if (FeatureLevel.parse? c.featureLevel).isNone then .error (.featureLevel c.featureLevel)
  else if c.workers < 0 then .error (.workers c.workers)
  else
    match c.level with
    | .error e => .error (.logLevel e)
    | .ok _ =>
      if c.logFormat ≠ "text" && c.logFormat ≠ "json" then .error (.logFormat c.logFormat)
      else checkPlatforms 0 [] c.platforms

/-- What a text of plain YAML sets, nothing if the document is empty; none if it is malformed. -/
def settings? (s : String) : Option (Option Config) :=
  (Yaml.parse? s).bind fun document =>
    match document with
    | none => some none
    | some n => ofNode? n

/-- Reads a configuration with a reader of settings; an empty document gives the defaults. -/
def parseWith (read? : String → Option (Option Config)) (s : String) : Except ConfigError Config :=
  match read? s with
  | none => .error .malformed
  | some c =>
    let c := (c.getD {}).withDefaults
    match c.validate with
    | .error e => .error (.invalid e)
    | .ok () => .ok c

/-- Reads a configuration of plain YAML. -/
def parse (s : String) : Except ConfigError Config := parseWith settings? s

/-- Reads the configuration at a path; the defaults for an empty path. -/
def load (read? : String → Option (Option Config)) (files : String → HostFile) (path : String) :
    Except ConfigError Config :=
  if path = "" then .ok default
  else
    match (files path).read path with
    | .error e => .error (.unreadable e)
    | .ok s => (parseWith read? s).mapError (.inFile path)

/-! ## Use -/

/-- The feature level; the default where it is not valid. -/
def feature (c : Config) : FeatureLevel := (FeatureLevel.parse? c.featureLevel).getD .sm5

/-- The target platform with a name. -/
def platform? (c : Config) (name : String) : Option TargetPlatform :=
  (c.platforms.find? fun p => p.name = name).map fun p => ⟨p.name, p.formats⟩

/-- The options of graphs. -/
def graphOptions (c : Config) : GraphOptions :=
  { format := c.runtimeFormat, level := c.feature, editor := c.editorData
    deferred := c.deferredCompilation }

end Config

end KernelGraph
