/-
  Runs of a session.

  A run starts with an empty session and takes one action after the other: what callers do to the
  graphs, what becomes of the files and scripts around them, and the steps of the workers, in any
  order.  Its history are the updates that were started, each with the number it was given and the
  graph as it was then.
-/
import KernelGraph.Proofs.FileDigest
import KernelGraph.Session.Cook

namespace KernelGraph.Session

/-- Something that happens to a session. -/
inductive Action
  /-- A graph is made. -/
  | addGraph (definition : Graph) (options : GraphOptions)
  /-- The definition of a graph is edited, in any way. -/
  | edit (g : Nat) (f : Graph → Graph)
  /-- A graph is updated; a synchronous update waits for its compiles. -/
  | update (g : Nat) (sync : Bool)
  | close (g : Nat)
  /-- A kernel is built for the caller. -/
  | build (g : Nat) (k : Int) (d : Dialect) (format : String)
  | beginPlatform (g : Nat) (platform : TargetPlatform)
  | clearPlatform (g : Nat) (name : String)
  | clearPlatforms (g : Nat)
  /-- The worker of a pool does the next thing that it can do. -/
  | advance (p : Nat)
  | openPool
  | closePool (p : Nat)
  | hold
  | release
  /-- The commands on the render queue are run. -/
  | runQueue
  /-- A program is looked up in the program cache. -/
  | lookup (key : ProgramKey)
  | clearCache
  /-- Sources are registered or digested. -/
  | files (f : FileStore → FileStore)
  /-- The compilers behave differently from now on. -/
  | scripts (xs : List Script)
  | takeEvents

/-- An update that was started. -/
structure Started where
  graph : Nat
  generation : Nat
  definition : Graph

/-- True when an update of the graph is not rejected, and does not wait for ever. -/
def accepts (s : Session) (g : Nat) : Bool :=
  let x := s.graph g
  x.definition.validate.toBool && (s.compiler? x.options.format).isSome && !x.closed && !x.locked

theorem validate_of_accepts {s : Session} {g : Nat} (h : s.accepts g = true) :
    (s.graph g).definition.validate = .ok () := by
  simp only [accepts, Bool.and_eq_true] at h
  obtain ⟨⟨⟨hvalid, _⟩, _⟩, _⟩ := h
  cases hresult : (s.graph g).definition.validate with
  | ok u => rfl
  | error e =>
    rw [hresult] at hvalid
    cases hvalid

theorem compiler?_of_accepts {s : Session} {g : Nat} (h : s.accepts g = true) :
    (s.compiler? (s.graph g).options.format).isSome = true := by
  simp only [accepts, Bool.and_eq_true] at h
  exact h.1.1.2

theorem open_of_accepts {s : Session} {g : Nat} (h : s.accepts g = true) :
    (s.graph g).closed = false := by
  simp only [accepts, Bool.and_eq_true, Bool.not_eq_true'] at h
  exact h.1.2

theorem free_of_accepts {s : Session} {g : Nat} (h : s.accepts g = true) :
    (s.graph g).locked = false := by
  simp only [accepts, Bool.and_eq_true, Bool.not_eq_true'] at h
  exact h.2

namespace Action

/-- The graph that an action is about. -/
def graph? : Action → Option Nat
  | edit g _ | update g _ | close g | build g .. | beginPlatform g _ | clearPlatform g _
  | clearPlatforms g => some g
  | _ => none

/-- The graph whose lock an action takes. -/
def lock? : Action → Option Nat
  | update g _ | close g | beginPlatform g _ | clearPlatform g _ | clearPlatforms g => some g
  | _ => none

/-- The action can happen: its graph exists, the lock that it takes is given back, and what becomes
    of the files is what creating registries, registering sources and taking digests leads to. -/
structure Enabled (a : Action) (s : Session) : Prop where
  graph : ∀ g ∈ a.graph?, g < s.graphs.size
  free : ∀ g ∈ a.lock?, (s.graph g).locked = false
  files : ∀ f, a = .files f → (f s.files).Reachable

theorem Enabled.addGraph {s : Session} {definition : Graph} {options : GraphOptions} :
    (Action.addGraph definition options).Enabled s :=
  ⟨nofun, nofun, nofun⟩

theorem Enabled.edit {s : Session} {g : Nat} {f : Graph → Graph} (hg : g < s.graphs.size) :
    (Action.edit g f).Enabled s :=
  ⟨by rintro _ ⟨⟩; exact hg, nofun, nofun⟩

theorem Enabled.update {s : Session} {g : Nat} {sync : Bool} (hg : g < s.graphs.size)
    (hfree : (s.graph g).locked = false) : (Action.update g sync).Enabled s :=
  ⟨by rintro _ ⟨⟩; exact hg, by rintro _ ⟨⟩; exact hfree, nofun⟩

theorem Enabled.close {s : Session} {g : Nat} (hg : g < s.graphs.size)
    (hfree : (s.graph g).locked = false) : (Action.close g).Enabled s :=
  ⟨by rintro _ ⟨⟩; exact hg, by rintro _ ⟨⟩; exact hfree, nofun⟩

theorem Enabled.of_files {s : Session} {f : FileStore → FileStore} (h : (f s.files).Reachable) :
    (Action.files f).Enabled s :=
  ⟨nofun, nofun, by rintro _ ⟨⟩; exact h⟩

/-- The session after an action. -/
def apply (s : Session) : Action → Session
  | addGraph definition options => s.addGraph definition options
  | edit g f => s.edit g f
  | update g sync => (s.update g sync).2
  | close g => s.close g
  | build g k d format => (s.buildKernel g k d format).2
  | beginPlatform g platform => (s.beginPlatform g platform).2
  | clearPlatform g name => s.clearPlatform g name
  | clearPlatforms g => s.clearPlatforms g
  | advance p => (s.advance p).getD s
  | openPool => { s with pools := s.pools.push {} }
  | closePool p => s.closePool p
  | hold => s.hold
  | release => s.release
  | runQueue => s.runQueue.2
  | lookup key => { s with cache := (s.cache.lookup key).2 }
  | clearCache => { s with cache := s.cache.clear }
  | files f => { s with files := f s.files }
  | scripts xs => { s with scripts := xs }
  | takeEvents => s.takeEvents.2

/-- The update that an action starts. -/
def started (s : Session) : Action → List Started
  | update g _ =>
    if s.accepts g then [⟨g, (s.graph g).generation + 1, (s.graph g).definition⟩] else []
  | _ => []

end Action

/-- The sessions that runs lead to, with their histories. -/
inductive Run : List Started → Session → Prop
  | start {files : FileStore} (hfiles : files.Reachable) (scripts : List Script) (limit : Int) :
      Run [] { files, scripts, cache := .empty limit }
  | step {H : List Started} {s : Session} (a : Action) (ha : a.Enabled s) :
      Run H s → Run (H ++ a.started s) (a.apply s)

end KernelGraph.Session
