/-
  What becomes of the jobs of an update, whatever the order.

  When keys say what they compile to, the order in which jobs come back matters no more:

  1. The program cache has for a job the program of its key, or the key's error (`Meant`): a hit, a
     flight that was joined and a compile of its own come to the same.

  2. So a job that has come back leaves its resource as `Resource.decided` says, which is a function
     of the resource and of the key.  Who compiled the program is left aside: `Resource.face` is
     what remains.

  3. `Decided` says of a batch that its resources are as they were, or decided; every step of a
     worker keeps it.
-/
import KernelGraph.Proofs.Session.Uniform

namespace KernelGraph

/-! ## What a resource shows -/

/-- What is reported of a failed compile. -/
def ProgramError.report (e : ProgramError) : List String :=
  match e with
  | .compile c => if c.diagnostics.isEmpty then [e.message] else c.diagnostics
  | _ => [e.message]

namespace Resource

/-- A resource without its task, and without the note whether its program came from the program
    cache. -/
def face (x : Resource) : Resource :=
  { x with task := none, result := { x.result with cached := false } }

theorem face_program {x y : Resource} (h : x.face = y.face) : x.program = y.program := by
  have hprogram := congrArg program h
  exact hprogram

/-- What a resource shows after its job has come back with a program or has failed. -/
def decided (x : Resource) (j : Job) : Except ProgramError Program → Resource
  | .ok p =>
    { x with
      task := none
      result :=
        { success := true, format := j.format, level := x.level, hashKey := j.build.hashKey
          diagnostics := p.diagnostics }
      program := some p
      state := .compiled }
  | .error e =>
    { x with
      task := none
      result :=
        { format := j.format, level := x.level, hashKey := j.build.hashKey, diagnostics := e.report
          error := some (.program e) }
      state := .failed }

end Resource

namespace Session

/-! ## What the program cache returns -/

/-- A job is returned the program of its key, or its error, which is not a cancellation. -/
def Meant (F : ProgramKey → Except ProgramError Program) (key : ProgramKey) :
    Except (CallError ProgramError) (Program × Bool) → Prop
  | .ok (p, _) => F key = .ok p
  | .error .cancelled => False
  | .error (.failed e) => e.isCancelled = false ∧ F key = .error e

/-- What a resource shows when its job has come back. -/
theorem jobResult_of_meant {F : ProgramKey → Except ProgramError Program} {j : Job}
    {returned : Except (CallError ProgramError) (Program × Bool)}
    (h : Meant F (jobKey j) returned) (x : Resource) :
    ∃ program r, jobResult j x.level returned = some (program, r) ∧
      Resource.face { x with
        task := none
        result := r
        program := if r.success then program else x.program
        state := if r.success then .compiled else .failed } = x.decided j (F (jobKey j)) := by
  cases returned with
  | ok out =>
    obtain ⟨p, hit⟩ := out
    have hp : F (jobKey j) = .ok p := h
    rw [hp]
    exact ⟨some p, _, rfl, rfl⟩
  | error e =>
    cases e with
    | cancelled => exact absurd h id
    | failed e =>
      obtain ⟨hcancelled, he⟩ := h
      rw [he]
      simp only [jobResult, hcancelled, Bool.false_eq_true, if_false]
      exact ⟨none, _, rfl, rfl⟩

/-! ## Batches whose outcome is decided -/

/-- The resources of the jobs wait as they did, or show what their keys decide. -/
structure Decided (F : ProgramKey → Except ProgramError Program) (B : Session)
    (J : List Job) (s : Session) :
    Prop where
  clean : s.cache.Clean (Meant F)
  waiting : ∀ j ∈ J, s.Awaits j →
    ∃ task, s.resource j.resource = { B.resource j.resource with task }
  finished : ∀ j ∈ J, ¬ s.Awaits j →
    (s.resource j.resource).face = (B.resource j.resource).decided j (F (jobKey j))

section
variable {F : ProgramKey → Except ProgramError Program} {B s s' : Session} {g p : Nat} {plan : Plan}
  {J todo : List Job} {calls : List HookCall}

theorem Batch.decided (hB : Batch B g plan J)
    (hprograms : B.cache.programs.Holds fun k p => F k = .ok p) : Decided F B J B where
  clean := by
    refine ⟨fun x hx => ?_, hprograms⟩
    rw [(hB.wired.calls_eq_nil hB.live).1] at hx
    cases hx
  waiting j hj _ := ⟨(B.resource j.resource).task, rfl⟩
  finished j hj hnot := absurd (hB.awaits j hj) hnot

/-- Nothing comes back, but resources may learn their tasks. -/
theorem Decided.congr (h : Decided F B J s) (hclean : s'.cache.Clean (Meant F))
    (hresource : ∀ r, ∃ task, s'.resource r = { s.resource r with task }) : Decided F B J s' := by
  have hawaits : ∀ j, s'.Awaits j ↔ s.Awaits j := fun j => by
    obtain ⟨task, htask⟩ := hresource j.resource
    exact awaits_congr (by rw [htask]) (by rw [htask])
  refine ⟨hclean, fun j hj ha => ?_, fun j hj ha => ?_⟩
  · obtain ⟨task, htask⟩ := hresource j.resource
    obtain ⟨_, hwaiting⟩ := h.waiting j hj ((hawaits j).1 ha)
    exact ⟨task, by rw [htask, hwaiting]⟩
  · obtain ⟨task, htask⟩ := hresource j.resource
    rw [htask]
    exact h.finished j hj fun h => ha ((hawaits j).2 h)

theorem Decided.quiet (h : Decided F B J s) (hclean : s'.cache.Clean (Meant F))
    (hresources : s'.resources = s.resources) : Decided F B J s' :=
  h.congr hclean fun r => ⟨(s.resource r).task, by rw [Session.resource, hresources]; rfl⟩

/-- **A compile comes back** to the program cache with what its key says. -/
theorem Decided.compile (hB : Batch B g plan J) (hF : ∀ j ∈ J, B.CompilesTo F j)
    (hp : Progress B g plan J todo calls s) (h : Decided F B J s) {id : Nat} {t : CompileTask}
    (htask : s.tasks[id]? = some t) (hleading : s.cache.isLeading id = true) :
    (s.cache.compiled ProgramError.isCancelled id (s.outcome t)).Clean (Meant F) := by
  obtain ⟨call, hcall, hcancelled, hj, hsame⟩ := hp.leads hB htask hleading
  have hcompiles : s.CompilesTo F t.job := (hF _ hj).of_eq (hp.steady.compileJob _)
  refine h.clean.compiled hp.wired.flies hcall (fun q hq x hx hname hit => ?_) fun e he => ?_
  · show F x.key = .ok q
    rw [hsame x hx hname]
    exact hcompiles.outcome hq
  · obtain ⟨hfailed, hnot, _⟩ := hp.outcome_error hB hcancelled hj he
    refine ⟨hnot, fun x hx hname => ⟨hnot, ?_⟩⟩
    rw [hsame x hx hname, ← hcompiles, hfailed]

/-- **A job comes back** and decides its resource. -/
theorem Decided.settled (hB : Batch B g plan J) (h : Decided F B J s) {j : Job} (hj : j ∈ J)
    (hawaits : s.Awaits j) {program : Option Program} {r : CompileResult}
    (hs : Settled s j plan program r s') (hclean : s'.cache.Clean (Meant F))
    (hface : ∀ task, Resource.face
      { { B.resource j.resource with task } with
        task := none
        result := r
        program := if r.success then program else (B.resource j.resource).program
        state := if r.success then .compiled else .failed } =
          (B.resource j.resource).decided j (F (jobKey j))) : Decided F B J s' := by
  have hothers : ∀ {j'}, j' ∈ J → j' ≠ j → s'.resource j'.resource = s.resource j'.resource :=
    fun hj' hne => hs.others _ (hB.ne_resource hj hj' hne)
  refine ⟨hclean, fun j' hj' ha => ?_, fun j' hj' ha => ?_⟩
  · obtain ⟨ha, hne⟩ := (hB.awaits_settled hs hj hj').1 ha
    rw [hothers hj' hne]
    exact h.waiting j' hj' ha
  · by_cases heq : j' = j
    · subst heq
      obtain ⟨task, hwaiting⟩ := h.waiting _ hj' hawaits
      rw [hs.mine, hwaiting]
      exact hface task
    · rw [hothers hj' heq]
      exact h.finished j' hj' fun ha' => ha ((hB.awaits_settled hs hj hj').2 ⟨ha', heq⟩)

/-- **A step of a worker** leaves decided what was decided. -/
theorem Decided.advance (hB : Batch B g plan J) (hF : ∀ j ∈ J, B.CompilesTo F j)
    (hp : Progress B g plan J todo calls s) (h : Decided F B J s) (hs : s.advance p = some s') :
    Decided F B J s' := by
  have hstep := advance_advances hs
  cases hstep with
  | dropped => exact h.quiet h.clean rfl
  | skipped => exact h.quiet h.clean rfl
  | begun => exact h.quiet (h.clean.begin _ _) rfl
  | @completed pool id t returned hpool hcurrent htask hreturned =>
    have hmeant := hp.returned h.clean htask hreturned
    obtain ⟨program, r, hresult, hface⟩ := jobResult_of_meant hmeant (s.resource t.job.resource)
    have hc := completeJob_comes { s with
      cache := s.cache.forget id
      tasks := s.tasks.modify id fun t => { t with done := true }
      pools := s.pools.modify p fun x => { x with current := none } } t.job returned
    obtain ⟨hj, _, hawaits, hsettled⟩ := hp.settles hB hpool hcurrent htask rfl hc hresult
    refine h.settled hB hj hawaits hsettled ?_ fun task => ?_
    · rw [(SameMachine.comes hc).cache]
      exact h.clean.forget id
    · obtain ⟨task', hwaiting⟩ := h.waiting _ hj hawaits
      rw [hwaiting] at hface
      exact hface
  | entered =>
    unfold Session.countCalls
    split
    · exact h.quiet h.clean rfl
    · exact h.quiet h.clean rfl
  | @compiled pool id t _ _ htask hleading =>
    have hclean := h.compile hB hF hp htask hleading
    obtain ⟨n, log, heq⟩ := runCompile_eq s id t
    rw [heq]
    exact h.quiet hclean rfl

end

end Session

end KernelGraph
