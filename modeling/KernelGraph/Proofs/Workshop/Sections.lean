/-
  The sections of publishing, cooking and closing.

  An operation that takes a lock several times is a row of sections, between which others go on:

  * A job that comes back moves its resource, is struck off by its graph, and is then told.
  * Publishing puts a proxy in the place of another one, which is handed to the render queue after
    that.
  * A platform cache is taken off the list of its graph before it is dropped, entry by entry.
  * A platform is compiled by building its kernels for one format after the other, listing the
    entries, and submitting their jobs.
  * Closing empties the graph, then takes its proxy away, then hands the proxy over.

  Each of the operations is shown to be the row of its sections.
-/
import KernelGraph.Proofs.Pending.Ledger

namespace KernelGraph

namespace Session

/-! ## Publishing -/

/-- The proxy of a plan takes the place of the one that is published, unless that is of its
    generation or a later one. -/
def present (s : Session) (g : Nat) (plan : Plan) : Session :=
  if plan.generation ≤ (s.graph g).published then s
  else
    (({ s with proxies := s.proxies.push (s.planProxy g plan) }.modifyGraph g fun x =>
      { x with published := plan.generation, proxy := some s.proxies.size }).count fun m =>
        { m with proxies := m.proxies + 1 }).note
      [{ level := .info
         message := "computegraph: render proxy published"
         attributes :=
          [("graph", (s.graph g).definition.name), ("generation", plan.generation),
           ("invocations", (s.planProxy g plan).invocations.length)] }]

/-- The proxy that loses its place to that of a plan. -/
def displaced (s : Session) (g : Nat) (plan : Plan) : Option Nat :=
  if plan.generation ≤ (s.graph g).published then none else (s.graph g).proxy

theorem releaseProxy_of_manual {s : Session} {g p : Nat}
    (h : (s.graph g).options.queue = .manual) :
    s.releaseProxy g (some p) = { s with commands := s.commands ++ [p] } := by
  simp only [releaseProxy, h]

theorem releaseProxy_of_immediate {s : Session} {g p : Nat}
    (h : (s.graph g).options.queue = .immediate) : s.releaseProxy g (some p) =
      { s with proxies := s.proxies.modify p fun x => { x with released := true } } := by
  simp only [releaseProxy, h]

/-- **Publishing** puts the proxy of a plan in its place, and then hands the displaced one over. -/
theorem publish_eq (s : Session) (g : Nat) (plan : Plan) :
    s.publish g plan = (s.present g plan).releaseProxy g (s.displaced g plan) := by
  unfold present displaced
  by_cases h : plan.generation ≤ (s.graph g).published
  · rw [publish_of_le h, if_pos h, if_pos h]
    rfl
  · rw [if_neg h, if_neg h]
    have hsize : (s.proxies.push (s.planProxy g plan)).size - 1 = s.proxies.size := by simp
    unfold publish
    dsimp only
    rw [if_neg h]
    cases (s.graph g).proxy with
    | none =>
      rw [← hsize]
      rfl
    | some p =>
      -- handing over reads nothing that the rest of publishing changes
      have hqueue : ∀ i, ((s.modifyGraph g fun x =>
          { x with published := plan.generation, proxy := i }).graph g).options.queue =
            (s.graph g).options.queue := by
        intro i
        rw [graph_modifyGraph]
        split
        · rfl
        · rfl
      cases hq : (s.graph g).options.queue with
      | manual =>
        rw [releaseProxy_of_manual, releaseProxy_of_manual, ← hsize]
        · rfl
        · exact (hqueue _).trans hq
        · exact (hqueue _).trans hq
      | immediate =>
        rw [releaseProxy_of_immediate, releaseProxy_of_immediate, ← hsize]
        · rfl
        · exact (hqueue _).trans hq
        · exact (hqueue _).trans hq

/-! ## Coming back -/

/-- An update's job is told: a failure is reported, and the hook is called if the job is of the
    current generation. -/
def tellUpdate (s : Session) (j : Job) (program : Option Program) (r : CompileResult)
    (current : Bool) : Session :=
  let variants : Nat := (program.map fun p => p.variants.length).getD 0
  let s := if !r.success then s.compileFailed j.graph j.kernel j.name j.isDefault r
    else
      s.note [.of .debug "computegraph: kernel compiled"
        ((s.graph j.graph).definition.logAttributes j.kernel)
        [("format", r.format), ("cached", r.cached),
         ("variants", variants)]]
  if current then s.hook j.graph j.kernel r else s

/-- A job of the current generation is struck off and perhaps publishes its plan; then it is
    told. -/
theorem land_eq_tellUpdate (s : Session) (j : Job) (n : Nat) (plan : Plan)
    (program : Option Program) (r : CompileResult) : s.land j n plan program r =
      (if n = (s.graph j.graph).generation then (s.strike j).settle j.graph plan else s).tellUpdate
        j
        program r (n = (s.graph j.graph).generation) := by
  unfold land tellUpdate
  by_cases h : n = (s.graph j.graph).generation
  · simp [h]
  · simp [h]

/-- A platform's job is told: a failure is reported, and perhaps the platform is ready. -/
def tellCook (s : Session) (j : Job) (platform : Nat) (r : CompileResult) : Session :=
  let name := (s.platforms.getD platform default).platform.name
  let s := if r.success then s else s.cookFailed j.graph j.kernel name j.isDefault r
  s.announceReady j.graph platform

/-- **A platform's job comes back** in two sections, unless its resource does not wait for it. -/
theorem completeCook_eq (s : Session) (j : Job) (platform : Nat) (program : Option Program)
    (r : CompileResult) : s.completeCook j platform program r =
      if (s.resource j.resource).generation = 0 ∧ (s.resource j.resource).state = .compiling then
        (s.deliver j 0 program r).tellCook j platform r
      else s := by
  split
  · rename_i h
    unfold completeCook
    rw [finish_of_awaited program r h]
    dsimp only
    rw [modifyResource_const s j.resource fun x => (x.finish 0 program r).2]
    rfl
  · rename_i h
    exact completeCook_of_not_awaited program r h

end Session

/-! ## Dropping a platform cache -/

/-- A step of dropping a platform cache. -/
inductive Chore
  /-- An entry gives its task up, which is cancelled. -/
  | cancel (platform resource : Nat)
  /-- Nobody is to be told any more that the cache is ready. -/
  | silence (platform : Nat)
  /-- An entry is invalidated. -/
  | discard (platform resource : Nat)

namespace Chore

/-- The platform cache that is dropped. -/
def platform : Chore → Nat
  | cancel p _ | silence p | discard p _ => p

/-- The entry that a step is about. -/
def resource? : Chore → Option Nat
  | cancel _ r | discard _ r => some r
  | silence _ => none

/-- The session after a step. -/
def apply (s : Session) : Chore → Session
  | cancel _ r => s.takeTask r
  | silence p => { s with platforms := s.platforms.modify p fun x => { x with announced := true } }
  | discard _ r => s.modifyResource r Resource.invalidate

end Chore

namespace Session

/-- What there is to do when a platform cache is dropped. -/
def chores (s : Session) (platform : Nat) : List Chore :=
  (s.platformResources platform).map (.cancel platform) ++
    .silence platform :: (s.platformResources platform).map (.discard platform)

theorem platformResources_silence (s : Session) (p q : Nat) :
    ((Chore.silence p).apply s).platformResources q = s.platformResources q := by
  show platformResources { s with platforms := s.platforms.modify p _ } q = _
  rw [platformResources_modify]
  split
  · rfl
  · rfl

/-- **Dropping a platform cache** is doing what there is to do; in between one waits for the
    cancelled compiles. -/
theorem dropPlatform_eq (s : Session) (platform : Nat) : s.dropPlatform platform =
    (.silence platform :: (s.platformResources platform).map (Chore.discard platform)).foldl
      Chore.apply
      (((s.platformResources platform).map (Chore.cancel platform)).foldl Chore.apply s).drain := by
  have hentries := (platformResources_silence (s.takeTasks (s.platformResources platform)) platform
    platform).trans ((Steady.takeTasks s (s.platformResources platform)).entries platform)
  rw [List.foldl_cons, List.foldl_map, List.foldl_map]
  exact congrArg (fun rs => rs.foldl (fun s r => s.modifyResource r Resource.invalidate)
    ((Chore.silence platform).apply (s.takeTasks (s.platformResources platform)))) hentries

/-- A platform is no longer listed. -/
def delist (s : Session) (g : Nat) (name : String) : Session :=
  s.modifyGraph g fun x => { x with cook := x.cook.filter fun e => e.1 ≠ name }

/-- **Dropping the cache of one platform**: it is taken off the list, then dropped. -/
theorem clearPlatform_eq (s : Session) (g : Nat) (name : String) : s.clearPlatform g name =
    match (s.graph g).cook.lookup name with
    | none => s
    | some p => (s.delist g name).dropPlatform p := rfl

/-- No platform is listed. -/
def delistAll (s : Session) (g : Nat) : Session :=
  s.modifyGraph g fun x => { x with cook := [] }

/-- **Dropping the caches of all platforms**: they are taken off the list, then dropped. -/
theorem clearPlatforms_eq (s : Session) (g : Nat) : s.clearPlatforms g =
    (s.graph g).cook.foldl (fun s e => s.dropPlatform e.2) (s.delistAll g) := rfl

/-! ## Compiling for a platform -/

/-- The entries of a platform are made, and listed in the place of those that were there before. -/
def install (s : Session) (g : Nat) (platform : TargetPlatform) (formats : List FormatBuilds) :
    Session × List Job :=
  let id := s.platforms.size
  let s := { s with platforms := s.platforms.push { platform } }
  let kernels := (s.graph g).definition.compilable
  let (s, jobs) := formats.foldl (fun state f =>
    kernels.foldl (fun state (k, kernel, source) =>
      makeEntry g id f state k kernel source) state) (s, [])
  (s.modifyGraph g fun x =>
      { x with cook := x.cook.filter (fun e => e.1 ≠ platform.name) ++ [(platform.name, id)] },
    jobs.filter Job.isDefault ++ jobs.filter fun j => !j.isDefault)

/-! ## Closing -/

/-- A graph is left without resources and platform caches. -/
def vacate (s : Session) (g : Nat) : Session :=
  let cook := (s.graph g).cook.map Prod.snd
  let s := (s.allResources g).foldl (fun s r => s.modifyResource r Resource.invalidate) s
  let s := s.setPending g []
  { s with
    platforms := cook.foldl (fun ps p => ps.modify p fun x => { x with announced := true })
      s.platforms }.modifyGraph g fun x => { x with sets := [], cook := [] }

/-- A graph publishes no proxy any more. -/
def retract (s : Session) (g : Nat) : Session :=
  s.modifyGraph g fun x => { x with proxy := none }

theorem modifyGraph_modifyGraph (s : Session) (g : Nat) (f f' : GraphState → GraphState) :
    (s.modifyGraph g f).modifyGraph g f' = s.modifyGraph g fun x => f' (f x) := by
  unfold modifyGraph
  rw [modify_modify]

/-- **Closing a graph** empties it, takes its proxy away and hands the proxy over. -/
theorem finishClose_eq (s : Session) (g : Nat) :
    s.finishClose g = ((s.vacate g).retract g).releaseProxy g (s.graph g).proxy := by
  unfold finishClose emptyGraph vacate retract
  extract_lets settled announced proxy emptied cook
  rw [modifyGraph_modifyGraph]
  have hsettled : (settled.graph g).proxy = (s.graph g).proxy := by
    unfold settled
    rw [graph_setPending, foldl_invalidate]
    rfl
  have hproxy : proxy = (s.graph g).proxy := by
    clear_value settled
    exact hsettled
  rw [hproxy]

end Session

end KernelGraph
