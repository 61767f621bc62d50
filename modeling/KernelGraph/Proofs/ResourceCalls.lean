/-
  What a resource promises under every order of calls.

  A resource is called from two sides: an editor begins compiles, remembers their tasks and gives
  them up, while workers come back with results, perhaps late and for a compile that was long
  superseded.  Nobody orders these calls, so what a resource promises has to hold after any of them:

  1. `Stands` says what is true of a resource in view of the calls that it has seen: who may hold a
     task, which compile is in flight, and whose program it holds.  Each call keeps it, one lemma
     per call (`Stands.begin` to `Stands.invalidate`), and so do all of them (`Stands.after`).

  2. The program needs no invariant.  It is a fold of what the calls land (`program_after`).
-/
import KernelGraph.Resource
import Mathlib.Data.List.Induction

namespace KernelGraph.Resource

/-! ## Calls -/

/-- A call of a resource. -/
inductive Call
  | begin (build : KernelBuild) (generation : Nat)
  | setTask (task generation : Nat)
  | takeTask
  | finish (generation : Nat) (program : Option Program) (result : CompileResult)
  | fail (build : Option KernelBuild) (generation : Nat) (result : CompileResult)
  | abandon (generation : Nat)
  | invalidate

/-- The resource after a call. -/
def call (r : Resource) : Call → Resource
  | .begin build generation => r.begin build generation
  | .setTask task generation => (r.setTask task generation).2
  | .takeTask => r.takeTask.2
  | .finish generation program result => (r.finish generation program result).2
  | .fail build generation result => r.fail build generation result
  | .abandon generation => r.abandon generation
  | .invalidate => r.invalidate

/-- The resource after some calls. -/
def after (r : Resource) (calls : List Call) : Resource := calls.foldl call r

/-- The program that a call lands: what a success brings, if the resource accepts it. -/
def landing? (r : Resource) : Call → Option (Option Program)
  | .finish generation program result =>
    if (r.finish generation program result).1 && result.success then some program else none
  | _ => none

/-- The programs that calls land, in the order in which they come. -/
def landings (r : Resource) : List Call → List (Option Program)
  | [] => []
  | c :: calls => (r.landing? c).toList ++ (r.call c).landings calls

/-- Every success brings the program of the build that was begun with its generation.  `made` tells
    which programs are of which builds. -/
def Faithful (made : KernelBuild → Program → Prop) (calls : List Call) : Prop :=
  ∀ past n program result, past ++ [.finish n program result] <+: calls → result.success = true →
    ∀ b, .begin b n ∈ past → ∃ p, program = some p ∧ made b p

@[simp]
theorem after_nil (r : Resource) : r.after [] = r := rfl

@[simp]
theorem after_snoc (r : Resource) (calls : List Call) (c : Call) :
    r.after (calls ++ [c]) = (r.after calls).call c :=
  List.foldl_append

theorem Faithful.of_snoc {made : KernelBuild → Program → Prop} {calls : List Call} {c : Call}
    (h : Faithful made (calls ++ [c])) : Faithful made calls :=
  fun past n program result hpast =>
    h past n program result (hpast.trans (List.prefix_append calls [c]))

/-! ## The program -/

theorem landings_snoc (r : Resource) (calls : List Call) (c : Call) :
    r.landings (calls ++ [c]) = r.landings calls ++ ((r.after calls).landing? c).toList := by
  induction calls generalizing r with
  | nil => exact List.append_nil _
  | cons d calls ih =>
    show (r.landing? d).toList ++ (r.call d).landings (calls ++ [c]) = _
    rw [ih, ← List.append_assoc]
    rfl

/-- A call changes the program only by landing one. -/
theorem program_call (r : Resource) (c : Call) :
    (r.call c).program = (r.landing? c).getD r.program := by
  cases c with
  | setTask task n =>
    show (r.setTask task n).2.program = r.program
    rw [setTask]
    split <;> rfl
  | takeTask =>
    show r.takeTask.2.program = r.program
    rw [takeTask]
    split <;> rfl
  | abandon n =>
    show (r.abandon n).program = r.program
    rw [abandon]
    split <;> rfl
  | finish n program result =>
    show (r.finish n program result).2.program =
      (if (r.finish n program result).1 &&
        result.success then some program else none).getD r.program
    rw [finish]
    split
    · cases result.success <;> rfl
    · rfl
  | _ => rfl

/-- A resource holds the program that landed last. -/
theorem program_after (r : Resource) (calls : List Call) :
    (r.after calls).program = (r.landings calls).getLast?.getD r.program := by
  induction calls using List.reverseRecOn with
  | nil => rfl
  | append_singleton calls c ih =>
    rw [after_snoc, program_call, landings_snoc]
    cases (r.after calls).landing? c with
    | none =>
      rw [Option.toList_none, List.append_nil]
      exact ih
    | some program =>
      rw [Option.toList_some, List.getLast?_concat, Option.getD_some, Option.getD_some]

/-! ## Superseded results -/

/-- Only the compile in flight can finish. -/
theorem finish_fst_iff (r : Resource) (n : Nat) (program : Option Program)
    (result : CompileResult) :
    (r.finish n program result).1 = true ↔ r.state = .compiling ∧ r.generation = n := by
  rw [finish]
  split
  next h =>
    rw [Bool.and_eq_true, decide_eq_true_iff, decide_eq_true_iff] at h
    exact ⟨fun _ => ⟨h.2, h.1⟩, fun _ => rfl⟩
  next h =>
    rw [Bool.and_eq_true, decide_eq_true_iff, decide_eq_true_iff] at h
    exact ⟨nofun, fun hr => absurd ⟨hr.2, hr.1⟩ h⟩

theorem finish_of_not_fst {r : Resource} {n : Nat} {program : Option Program}
    {result : CompileResult} (h : (r.finish n program result).1 = false) :
    (r.finish n program result).2 = r := by
  rw [finish] at h ⊢
  split at h
  · cases h
  next hr => rw [if_neg hr]

/-! ## What calls keep -/

/-- What is true of a resource that has seen some calls. -/
structure Stands (made : KernelBuild → Program → Prop) (past : List Call) (r : Resource) :
    Prop where
  /-- A task is held only while a compile is in flight. -/
  task : r.task.isSome → r.state = .compiling
  /-- The compile in flight was begun with the build and the generation of the resource. -/
  compiling : r.state = .compiling → ∃ b, r.build = some b ∧ .begin b r.generation ∈ past
  /-- A compiled resource has the program of its build. -/
  compiled : r.state = .compiled →
    r.result.success = true ∧ ∃ b p, r.build = some b ∧ r.program = some p ∧ made b p

namespace Stands
variable {made : KernelBuild → Program → Prop} {past : List Call} {r : Resource}

/-- A resource that is neither compiling nor compiled need only be without a task. -/
theorem of_idle (htask : r.task = none) (hcompiling : r.state ≠ .compiling)
    (hcompiled : r.state ≠ .compiled) : Stands made past r where
  task h := by
    rw [htask] at h
    cases h
  compiling h := absurd h hcompiling
  compiled h := absurd h hcompiled

/-- Further calls take nothing away. -/
theorem mono (h : Stands made past r) (c : Call) : Stands made (past ++ [c]) r where
  task := h.task
  compiling hr := by
    obtain ⟨b, hb, hpast⟩ := h.compiling hr
    exact ⟨b, hb, List.mem_append_left _ hpast⟩
  compiled := h.compiled

theorem begin (b : KernelBuild) (n : Nat) : Stands made (past ++ [.begin b n]) (r.begin b n) where
  task _ := rfl
  compiling _ := ⟨b, rfl, List.mem_append_right _ (List.mem_singleton.2 rfl)⟩
  compiled h := nomatch h

theorem setTask (h : Stands made past r) (task n : Nat) :
    Stands made past (r.setTask task n).2 := by
  rw [Resource.setTask]
  split
  next hr =>
    rw [Bool.and_eq_true, decide_eq_true_iff, decide_eq_true_iff] at hr
    exact { task := fun _ => hr.2, compiling := h.compiling, compiled := h.compiled }
  next => exact h

/-- A task that is taken leaves the resource invalidated, for a task is held only while
    compiling. -/
theorem takeTask (h : Stands made past r) : Stands made past r.takeTask.2 := by
  rw [Resource.takeTask]
  cases htask : r.task with
  | none => exact h
  | some t =>
    have hr : r.state = .compiling := h.task (by rw [htask]; rfl)
    dsimp only
    rw [if_pos hr]
    exact of_idle rfl nofun nofun

/-- A success is of the build in flight, since its generation is. -/
theorem finish (h : Stands made past r) {n : Nat} {program : Option Program}
    {result : CompileResult}
    (hmade : result.success = true → ∀ b, .begin b n ∈ past → ∃ p, program = some p ∧ made b p) :
    Stands made past (r.finish n program result).2 := by
  rw [Resource.finish]
  split
  next hr =>
    rw [Bool.and_eq_true, decide_eq_true_iff, decide_eq_true_iff] at hr
    obtain ⟨hn, hstate⟩ := hr
    subst hn
    cases hsuccess : result.success with
    | false => exact of_idle rfl nofun nofun
    | true =>
      obtain ⟨b, hb, hpast⟩ := h.compiling hstate
      obtain ⟨p, hp, hbp⟩ := hmade hsuccess b hpast
      exact ⟨nofun, nofun, fun _ => ⟨hsuccess, b, p, hb, hp, hbp⟩⟩
  next => exact h

theorem fail (b : Option KernelBuild) (n : Nat) (result : CompileResult) :
    Stands made past (r.fail b n result) :=
  of_idle rfl nofun nofun

theorem abandon (h : Stands made past r) (n : Nat) : Stands made past (r.abandon n) := by
  rw [Resource.abandon]
  split
  · exact of_idle rfl nofun nofun
  · exact h

theorem invalidate : Stands made past r.invalidate := of_idle rfl nofun nofun

/-- Every call keeps what is true of a resource. -/
theorem call (h : Stands made past r) {c : Call}
    (hmade : ∀ n program result, c = .finish n program result → result.success = true →
      ∀ b, .begin b n ∈ past → ∃ p, program = some p ∧ made b p) :
    Stands made (past ++ [c]) (r.call c) := by
  cases c with
  | begin b n => exact begin b n
  | setTask task n => exact (h.setTask task n).mono _
  | takeTask => exact h.takeTask.mono _
  | finish n program result => exact (h.finish (hmade n program result rfl)).mono _
  | fail b n result => exact fail b n result
  | abandon n => exact (h.abandon n).mono _
  | invalidate => exact invalidate

/-- So does a run of calls, when its successes are faithful. -/
theorem after (h : Stands made [] r) {calls : List Call} (hcalls : Faithful made calls) :
    Stands made calls (r.after calls) := by
  induction calls using List.reverseRecOn with
  | nil => exact h
  | append_singleton calls c ih =>
    rw [after_snoc]
    refine (ih hcalls.of_snoc).call ?_
    rintro n program result rfl
    exact hcalls calls n program result List.prefix_rfl

end Stands

/-- Only `begin` and `fail` give an invalidated resource a new life. -/
theorem begin_or_fail_of_call {r : Resource} {c : Call} (hr : r.state = .invalidated)
    (hc : (r.call c).state ≠ .invalidated) :
    (∃ b n, c = .begin b n) ∨ ∃ b n result, c = .fail b n result := by
  -- the guards of the other calls ask for a compile in flight
  have hidle : r.state ≠ .compiling := by
    rw [hr]
    nofun
  cases c with
  | begin b n => exact Or.inl ⟨b, n, rfl⟩
  | fail b n result => exact Or.inr ⟨b, n, result, rfl⟩
  | invalidate => exact absurd rfl hc
  | setTask task n =>
    refine absurd ?_ hc
    show (r.setTask task n).2.state = .invalidated
    rw [setTask, if_neg (by simp [hidle]), hr]
  | takeTask =>
    refine absurd ?_ hc
    show r.takeTask.2.state = .invalidated
    rw [takeTask]
    split
    · exact hr
    · exact (if_neg hidle).trans hr
  | finish n program result =>
    refine absurd ?_ hc
    show (r.finish n program result).2.state = .invalidated
    rw [finish, if_neg (by simp [hidle]), hr]
  | abandon n =>
    refine absurd ?_ hc
    show (r.abandon n).state = .invalidated
    rw [abandon, if_neg (by simp [hidle]), hr]

/-- **A resource keeps its promises under every order of calls.**  Whatever is done to a fresh
    resource, as long as successes bring the program of the build that was begun with their
    generation:

    1. it holds a task only while it is compiling;
    2. its program is the one that landed last, and a call changes it only by landing one;
    3. when it is compiled, its last result is a success and it holds the program of its build;
    4. a result is accepted exactly when a compile of its generation is in flight, and changes
       nothing otherwise;
    5. only `begin` and `fail` make it leave the invalidated state.

    Generations need not be distinct for this.  If two builds are begun with one, `Faithful` asks a
    success to be of both. -/
theorem promises_kept (made : KernelBuild → Program → Prop) (format : String) (level : FeatureLevel)
    (calls : List Call) (hcalls : Faithful made calls) :
    let fresh : Resource := { format, level }
    let r := fresh.after calls
    (r.task.isSome → r.state = .compiling) ∧
    (r.program = (fresh.landings calls).getLast?.join ∧
      ∀ c, (r.call c).program = (r.landing? c).getD r.program) ∧
    (r.state = .compiled →
      r.result.success = true ∧ ∃ b p, r.build = some b ∧ r.program = some p ∧ made b p) ∧
    (∀ n program result,
      ((r.finish n program result).1 = true ↔ r.state = .compiling ∧ r.generation = n) ∧
      ((r.finish n program result).1 = false → (r.finish n program result).2 = r)) ∧
    ∀ c, r.state = .invalidated → (r.call c).state ≠ .invalidated →
      (∃ b n, c = .begin b n) ∨ ∃ b n result, c = .fail b n result := by
  intro fresh r
  have hfresh : Stands made [] fresh := Stands.of_idle rfl nofun nofun
  have hr : Stands made calls r := hfresh.after hcalls
  have hprogram : r.program = (fresh.landings calls).getLast?.join := by
    rw [show r.program = _ from program_after fresh calls]
    cases (fresh.landings calls).getLast? <;> rfl
  refine ⟨hr.task, ⟨hprogram, program_call r⟩, hr.compiled, fun n program result => ?_,
    fun c => begin_or_fail_of_call⟩
  constructor
  · exact finish_fst_iff r n program result
  · exact finish_of_not_fst

/-- Two builds are begun, and the result of the first one comes when it is superseded. -/
def lateCalls : List Call :=
  let build key : KernelBuild := { (default : KernelBuild) with hashKey := key }
  let program key : Program := { format := "mock", hashKey := key, entryPoint := "main" }
  [.begin (build "a") 1, .setTask 7 1, .begin (build "b") 2,
    .finish 1 (some (program "a")) { success := true },
    .finish 2 (some (program "b")) { success := true }]

theorem faithful_lateCalls : Faithful (fun b p => p.hashKey = b.hashKey) lateCalls := by
  rintro past n program result ⟨rest, hrest⟩ - b hb
  rw [List.append_assoc] at hrest
  match past, hrest with
  | [_, _, _], hrest =>
    cases hrest
    refine ⟨_, rfl, ?_⟩
    simp at hb
    rw [hb]
  | [_, _, _, _], hrest =>
    cases hrest
    refine ⟨_, rfl, ?_⟩
    simp at hb
    rw [hb]
  | _ :: _ :: _ :: _ :: _ :: past, hrest => simp [lateCalls] at hrest

/-- The late result is dropped, and the resource holds the program of the second build. -/
theorem promises_kept_lateCalls :
    let fresh : Resource := { format := "mock", level := .es31 }
    let r := fresh.after lateCalls
    Faithful (fun b p => p.hashKey = b.hashKey) lateCalls ∧
    r.state = .compiled ∧ r.program.map Program.hashKey = some "b" ∧ r.task = none ∧
    ∃ b p, r.build = some b ∧ r.program = some p ∧ p.hashKey = b.hashKey := by
  intro fresh r
  have hstate : r.state = .compiled := rfl
  have h := promises_kept (fun b p => p.hashKey = b.hashKey) "mock" .es31 lateCalls
    faithful_lateCalls
  refine ⟨faithful_lateCalls, hstate, ?_, rfl, (h.2.2.1 hstate).2⟩
  rw [show r.program = _ from h.2.1.1]
  rfl

end KernelGraph.Resource
