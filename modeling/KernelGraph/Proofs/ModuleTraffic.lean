/-
  Traffic at the binary compiler: any number of compiles and closes, one critical section after the
  other.

  A compile lowers its request and creates a module on the device, and nobody else knows of the
  module then.  It hands the module to the compiler in a critical section; if it finds the compiler
  closed there, it destroys the module itself.  A close takes all modules in a critical section and
  destroys them one by one:

      compiling ⟶ holding ⟶ compiled               closing ⟶ destroying ⟶ ⋯ ⟶ closed
                    ⟶ refused ⟶ compiled

  Between any two of these steps everybody else may go on.  A compile may be cancelled before it
  lowers its request, the lowering may reject it, and the device may fail at one module and create
  the next; it never creates a module twice.

  1. `compile_runs`, `close_runs`: a call that nobody comes between does what `compile` or `close`
     does.

  2. `Accounted`: every module is in one place.  Every step keeps it so.

  3. `Kept`: no module is lost or destroyed twice, and a compile that comes too late is told so.
-/
import KernelGraph.Compile.ShaderModules
import Mathlib.Algebra.GroupWithZero.Nat
import Mathlib.Data.List.Perm.Basic
import Mathlib.Data.List.Nodup
import Mathlib.Logic.Relation
import Mathlib.Order.WellFounded

namespace KernelGraph

/-- Where a call has come to. -/
inductive ModuleTraffic.Call (M : Type)
  /-- A compile that has yet to lower its request. -/
  | compiling (r : Request)
  /-- It has created a module that nobody else knows of. -/
  | holding (m : M)
  /-- It has found the compiler closed, and is about to destroy its module. -/
  | refused (m : M)
  /-- It has returned, with a module if there is a device. -/
  | compiled (answer : Except BinaryError (Option M))
  /-- A close that has yet to take the modules. -/
  | closing
  /-- It has taken the modules, and is left with these. -/
  | destroying (modules : List M)
  /-- It has returned. -/
  | closed

/-- A binary compiler, and the calls of it, which are known by their place in the list. -/
structure ModuleTraffic (M : Type) where
  compiler : BinaryCompiler M := {}
  calls : List (ModuleTraffic.Call M) := []

namespace ModuleTraffic

open BinaryCompiler (lowered label)
open Relation

variable {M : Type}

/-! ## Steps -/

/-- A new call stands at `x`, and leaves the compiler as `c`. -/
def enter (s : ModuleTraffic M) (c : BinaryCompiler M) (x : Call M) : ModuleTraffic M :=
  { compiler := c, calls := s.calls ++ [x] }

/-- Call `i` comes to another place, and leaves the compiler as `c`. -/
def move (s : ModuleTraffic M) (c : BinaryCompiler M) (i : Nat) (x : Call M) : ModuleTraffic M :=
  { compiler := c, calls := s.calls.set i x }

/-- What the calls do, one step of one of them at a time. -/
inductive Proceeds (lower : String → Except String Unit) : ModuleTraffic M → ModuleTraffic M → Prop
  /-- The request cannot be expanded, the caller has lost interest, or the lowering says no. -/
  | reject {s i r cancelled e} (h : s.calls[i]? = some (.compiling r))
      (hlowered : lowered lower cancelled r = .error e) :
    Proceeds lower s (s.move s.compiler i (.compiled (.error e)))
  | plain {s i r cancelled} (h : s.calls[i]? = some (.compiling r))
      (hlowered : lowered lower cancelled r = .ok ()) (hdevice : s.compiler.device = none) :
    Proceeds lower s (s.move s.compiler i (.compiled (.ok none)))
  /-- The device fails. -/
  | lose {s i r cancelled} (h : s.calls[i]? = some (.compiling r))
      (hlowered : lowered lower cancelled r = .ok ()) (hdevice : s.compiler.device.isSome) :
    Proceeds lower s (s.move s.compiler i (.compiled (.error (.moduleCreation r.friendlyName))))
  /-- The device creates a module, which is a new one. -/
  | create {s i r cancelled m} (h : s.calls[i]? = some (.compiling r))
      (hlowered : lowered lower cancelled r = .ok ()) (hdevice : s.compiler.device = some .working)
      (hfresh : m ∉ s.compiler.created) :
    Proceeds lower s (s.move (s.compiler.create m) i (.holding m))
  | adopt {s i m} (h : s.calls[i]? = some (.holding m)) (hopen : s.compiler.closed = false) :
    Proceeds lower s (s.move (s.compiler.adopt m).2 i (.compiled (.ok (some m))))
  | refuse {s i m} (h : s.calls[i]? = some (.holding m)) (hclosed : s.compiler.closed = true) :
    Proceeds lower s (s.move s.compiler i (.refused m))
  | discard {s i m} (h : s.calls[i]? = some (.refused m)) :
    Proceeds lower s (s.move (s.compiler.destroy [m]) i (.compiled (.error .closed)))
  | take {s i} (h : s.calls[i]? = some .closing) :
    Proceeds lower s (s.move s.compiler.takeModules.2 i (.destroying s.compiler.takeModules.1))
  | destroy {s i m rest} (h : s.calls[i]? = some (.destroying (m :: rest))) :
    Proceeds lower s (s.move (s.compiler.destroy [m]) i (.destroying rest))
  | return {s i} (h : s.calls[i]? = some (.destroying [])) :
    Proceeds lower s (s.move s.compiler i .closed)

/-- A step of the traffic. -/
inductive Step (lower : String → Except String Unit) : ModuleTraffic M → ModuleTraffic M → Prop
  | proceed {s t} (h : Proceeds lower s t) : Step lower s t
  | compile {s} (r : Request) : Step lower s (s.enter s.compiler (.compiling r))
  | close {s} : Step lower s (s.enter s.compiler .closing)

/-- What the traffic at a new compiler can come to. -/
def Reachable (lower : String → Except String Unit) (s : ModuleTraffic M) : Prop :=
  ∃ device level, ReflTransGen (Step lower) { compiler := { device, level } } s

/-! ## Calls that nobody comes between -/

section
variable {lower : String → Except String Unit} {s : ModuleTraffic M} {c c' : BinaryCompiler M}
  {x y : Call M}

theorem getElem?_enter : (s.enter c x).calls[s.calls.length]? = some x :=
  List.getElem?_concat_length

theorem step_enter
    (h : Proceeds lower (s.enter c x) ((s.enter c x).move c' s.calls.length y)) :
    Step lower (s.enter c x) (s.enter c' y) := by
  have hmove : (s.enter c x).move c' s.calls.length y = s.enter c' y := by simp [move, enter]
  exact .proceed (hmove ▸ h)

theorem adopt_of_open {m : M} (h : c.closed = false) :
    c.adopt m = (true, { c with modules := c.modules ++ [m] }) := by
  rw [BinaryCompiler.adopt, h]
  rfl

/-- To be adopted by a closed compiler is to be refused and discarded. -/
theorem adopt_of_closed {m : M} (h : c.closed = true) : c.adopt m = (false, c.destroy [m]) := by
  rw [BinaryCompiler.adopt, if_pos h, BinaryCompiler.destroy]

/-- A close destroys the modules that it has taken. -/
theorem destroys (modules : List M) :
    ReflTransGen (Step lower) (s.enter c (.destroying modules))
      (s.enter (c.destroy modules) .closed) := by
  induction modules generalizing c with
  | nil =>
    have hnone : c.destroy [] = c := by simp [BinaryCompiler.destroy]
    rw [hnone]
    exact .single (step_enter (.return getElem?_enter))
  | cons m rest ih =>
    have hrest : (c.destroy [m]).destroy rest = c.destroy (m :: rest) := by
      simp [BinaryCompiler.destroy]
    exact .head (step_enter (.destroy getElem?_enter)) (hrest ▸ ih)

/-- **A close that nobody comes between** does what `close` does. -/
theorem close_runs : ReflTransGen (Step lower) s (s.enter s.compiler.close .closed) :=
  .head .close (.head (step_enter (.take getElem?_enter)) (destroys _))

/-- **A compile that nobody comes between** does what `compile` does, if the label of its module is
    a new one. -/
theorem compile_runs (s : ModuleTraffic String) (cancelled : Bool) (r : Request)
    (hfresh : label r ∉ s.compiler.created) :
    ∃ answer, answer.map Option.isSome = (s.compiler.compile lower cancelled r).1 ∧
      ReflTransGen (Step lower) s
        (s.enter (s.compiler.compile lower cancelled r).2 (.compiled answer)) := by
  rw [BinaryCompiler.compile]
  cases hlowered : lowered lower cancelled r with
  | error e =>
    exact ⟨.error e, rfl,
      .head (.compile r) (.single (step_enter (.reject getElem?_enter hlowered)))⟩
  | ok =>
    cases hdevice : s.compiler.device with
    | none =>
      exact ⟨.ok none, rfl,
        .head (.compile r) (.single (step_enter (.plain getElem?_enter hlowered hdevice)))⟩
    | some device =>
      cases device with
      | lost =>
        have hsome : s.compiler.device.isSome := by rw [hdevice]; rfl
        exact ⟨.error (.moduleCreation r.friendlyName), rfl,
          .head (.compile r) (.single (step_enter (.lose getElem?_enter hlowered hsome)))⟩
      | working =>
        -- the module is created, and then adopted, or refused and discarded
        have hheld : ReflTransGen (Step lower) s
            (s.enter (s.compiler.create (label r)) (.holding (label r))) :=
          .head (.compile r)
            (.single (step_enter (.create getElem?_enter hlowered hdevice hfresh)))
        cases hclosed : (s.compiler.create (label r)).closed with
        | false =>
          have hadopt : Step lower (s.enter (s.compiler.create (label r)) (.holding (label r)))
              (s.enter ((s.compiler.create (label r)).adopt (label r)).2
                (.compiled (.ok (some (label r))))) :=
            step_enter (.adopt getElem?_enter hclosed)
          rw [adopt_of_open hclosed] at hadopt ⊢
          exact ⟨.ok (some (label r)), rfl, hheld.tail hadopt⟩
        | true =>
          rw [adopt_of_closed hclosed]
          exact ⟨.error .closed, rfl,
            (hheld.tail (step_enter (.refuse getElem?_enter hclosed))).tail
            (step_enter (.discard getElem?_enter))⟩

end

/-! ## Where the modules are -/

/-- The modules that a compile in progress holds. -/
def Call.held : Call M → List M
  | holding m | refused m => [m]
  | _ => []

/-- The modules that a close in progress has taken. -/
def Call.taken : Call M → List M
  | destroying modules => modules
  | _ => []

/-- True for a close that has been in its critical section. -/
def Call.HasTaken : Call M → Prop
  | destroying _ | closed => True
  | _ => False

/-- True for a call that has returned. -/
def Call.HasReturned : Call M → Prop
  | compiled _ | closed => True
  | _ => False

/-- The modules in all places: with a compile in progress, with the compiler, with a close in
    progress, and among those destroyed. -/
def places (s : ModuleTraffic M) : List M :=
  s.calls.flatMap Call.held ++ s.compiler.modules ++ s.calls.flatMap Call.taken ++
    s.compiler.destroyed

/-- Every module is in one place.  A compiler that a close has been at is closed, and a closed
    compiler has no modules. -/
structure Accounted (s : ModuleTraffic M) : Prop where
  nodup : s.compiler.created.Nodup
  places : s.places.Perm s.compiler.created
  emptied : s.compiler.closed = true → s.compiler.modules = []
  shut : ∀ x ∈ s.calls, x.HasTaken → s.compiler.closed = true

section
variable {lower : String → Except String Unit} {s t : ModuleTraffic M} {c c' : BinaryCompiler M}
  {i : Nat} {x y : Call M}

theorem accounted_new (device : Option Device) (level : FeatureLevel) :
    Accounted ({ compiler := { device, level } } : ModuleTraffic M) where
  nodup := .nil
  places := .nil
  emptied _ := rfl
  shut _ hx := nomatch hx

/-- A call stands between others, and moves without them. -/
theorem exists_split (h : s.calls[i]? = some x) :
    ∃ before after, s.calls = before ++ x :: after ∧
      ∀ c y, s.move c i y = { compiler := c, calls := before ++ y :: after } := by
  obtain ⟨hi, rfl⟩ := List.getElem?_eq_some_iff.1 h
  refine ⟨s.calls.take i, s.calls.drop (i + 1), ?_, fun c y => ?_⟩
  · rw [List.getElem_cons_drop, List.take_append_drop]
  · rw [move, List.set_eq_take_append_cons_drop, if_pos hi]

/-- A call that moves keeps the accounts, if what it gains and loses is what the compiler loses and
    gains. -/
theorem Accounted.move [DecidableEq M] (h : Accounted s) (hi : s.calls[i]? = some x)
    (hnodup : c.created.Nodup)
    (hplaces : ∀ m, (y.held ++ y.taken ++ c.modules ++ c.destroyed).count m +
        s.compiler.created.count m =
      (x.held ++ x.taken ++ s.compiler.modules ++ s.compiler.destroyed).count m +
        c.created.count m)
    (hemptied : c.closed = true → c.modules = [])
    (hshut : s.compiler.closed = true ∨ y.HasTaken → c.closed = true) :
    Accounted (s.move c i y) := by
  obtain ⟨before, after, hcalls, hmove⟩ := exists_split hi
  have hold := h.places
  rw [hmove]
  refine ⟨hnodup, ?_, hemptied, fun z hz hz' => ?_⟩
  · rw [List.perm_iff_count] at hold ⊢
    intro m
    have hold := hold m
    have hplaces := hplaces m
    simp only [ModuleTraffic.places, hcalls, List.flatMap_append, List.flatMap_cons,
      List.count_append] at hold hplaces ⊢
    omega
  · rcases List.mem_append.1 hz with hz | hz
    · exact hshut (.inl (h.shut z (by simp [hcalls, hz]) hz'))
    · rcases List.mem_cons.1 hz with rfl | hz
      · exact hshut (.inr hz')
      · exact hshut (.inl (h.shut z (by simp [hcalls, hz]) hz'))

/-- A new call has no module. -/
theorem Accounted.enter (h : Accounted s) (hheld : x.held = []) (htaken : x.taken = [])
    (hx : ¬ x.HasTaken) : Accounted (s.enter s.compiler x) where
  nodup := h.nodup
  places := by
    have hplaces := h.places
    simpa [ModuleTraffic.places, ModuleTraffic.enter, hheld, htaken] using hplaces
  emptied := h.emptied
  shut z hz hz' := by
    rcases List.mem_append.1 hz with hz | hz
    · exact h.shut z hz hz'
    · rw [List.mem_singleton.1 hz] at hz'
      exact absurd hz' hx

theorem Accounted.proceed (h : Accounted s) (hstep : Proceeds lower s t) : Accounted t := by
  classical
  cases hstep with
  | reject hi | plain hi | lose hi =>
    exact h.move hi h.nodup (fun _ => rfl) h.emptied fun hc => hc.resolve_right id
  | create hi _ _ hfresh =>
    refine h.move hi (List.nodup_append.2 ⟨h.nodup, by simp, ?_⟩) (fun m => ?_) h.emptied
      fun hc => hc.resolve_right id
    · rintro a ha b hb rfl
      exact hfresh (List.mem_singleton.1 hb ▸ ha)
    · simp only [BinaryCompiler.create, Call.held, Call.taken, List.count_append, List.count_nil]
      omega
  | adopt hi hopen =>
    rw [adopt_of_open hopen]
    refine h.move hi h.nodup (fun m => ?_) (fun hc => ?_) fun hc => hc.resolve_right id
    · simp only [Call.held, Call.taken, List.count_append, List.count_nil]
      omega
    · rw [hopen] at hc
      cases hc
  | refuse hi hclosed => exact h.move hi h.nodup (fun _ => rfl) h.emptied fun _ => hclosed
  | discard hi =>
    refine h.move hi h.nodup (fun m => ?_) h.emptied fun hc => hc.resolve_right id
    simp only [BinaryCompiler.destroy, Call.held, Call.taken, List.count_append, List.count_nil]
    omega
  | take hi =>
    refine h.move hi h.nodup (fun m => ?_) (fun _ => rfl) fun _ => rfl
    simp only [BinaryCompiler.takeModules, Call.held, Call.taken, List.count_append, List.count_nil]
    omega
  | @destroy i m rest hi =>
    refine h.move hi h.nodup (fun a => ?_) h.emptied fun hc => hc.elim id fun _ => ?_
    · have hcons : (m :: rest).count a = [m].count a + rest.count a := by
        rw [← List.count_append, List.singleton_append]
      simp only [BinaryCompiler.destroy, Call.held, Call.taken,
        List.count_append, List.count_nil, hcons]
      omega
    · exact h.shut _ (List.mem_of_getElem? hi) trivial
  | «return» hi =>
    refine h.move hi h.nodup (fun _ => rfl) h.emptied fun hc => hc.elim id fun _ => ?_
    exact h.shut _ (List.mem_of_getElem? hi) trivial

theorem Accounted.step (h : Accounted s) (hstep : Step lower s t) : Accounted t := by
  cases hstep with
  | proceed hstep => exact h.proceed hstep
  | compile r => exact h.enter rfl rfl id
  | close => exact h.enter rfl rfl id

/-- **Every module stays in one place.** -/
theorem Reachable.accounted (h : Reachable lower s) : Accounted s := by
  obtain ⟨device, level, hrun⟩ := h
  induction hrun with
  | refl => exact accounted_new device level
  | tail _ hstep ih => exact ih.step hstep

/-! ## Coming to rest -/

/-- Nothing can happen unless somebody calls. -/
def AtRest (lower : String → Except String Unit) (s : ModuleTraffic M) : Prop :=
  ∀ t, ¬ Proceeds lower s t

/-- Nobody waits for anybody: a call that has not returned can go on. -/
theorem AtRest.hasReturned (h : AtRest lower s) (hx : x ∈ s.calls) : x.HasReturned := by
  obtain ⟨i, hi⟩ := List.getElem?_of_mem hx
  cases x with
  | compiling r =>
    cases hlowered : lowered lower false r with
    | error e => exact absurd (.reject hi hlowered) (h _)
    | ok =>
      cases hdevice : s.compiler.device with
      | none => exact absurd (.plain hi hlowered hdevice) (h _)
      | some device => exact absurd (.lose hi hlowered (by rw [hdevice]; rfl)) (h _)
  | holding m =>
    cases hclosed : s.compiler.closed with
    | false => exact absurd (.adopt hi hclosed) (h _)
    | true => exact absurd (.refuse hi hclosed) (h _)
  | refused m => exact absurd (.discard hi) (h _)
  | closing => exact absurd (.take hi) (h _)
  | destroying modules =>
    cases modules with
    | nil => exact absurd (.return hi) (h _)
    | cons m rest => exact absurd (.destroy hi) (h _)
  | compiled | closed => trivial

/-- What a call has still to do. -/
def Call.work : Call M → Nat
  | compiling _ => 3
  | holding _ | closing => 2
  | refused _ => 1
  | destroying modules => modules.length + 1
  | compiled _ | closed => 0

/-- A bound for the steps that need no new call.  A module of the compiler is one more step for the
    close that takes it. -/
def work (s : ModuleTraffic M) : Nat := (s.calls.map Call.work).sum + s.compiler.modules.length

theorem work_move_lt (hi : s.calls[i]? = some x)
    (h : y.work + c.modules.length < x.work + s.compiler.modules.length) :
    (s.move c i y).work < s.work := by
  obtain ⟨before, after, hcalls, hmove⟩ := exists_split hi
  simp only [work, hmove, hcalls, List.map_append, List.map_cons, List.sum_append, List.sum_cons]
  omega

theorem Proceeds.work_lt (h : Proceeds lower s t) : t.work < s.work := by
  cases h with
  | reject hi | plain hi | lose hi | refuse hi | discard hi | «return» hi =>
    exact work_move_lt hi (by simp [Call.work, BinaryCompiler.destroy])
  | create hi => exact work_move_lt hi (by simp [Call.work, BinaryCompiler.create])
  | adopt hi hopen =>
    rw [adopt_of_open hopen]
    refine work_move_lt hi ?_
    simp only [Call.work, List.length_append, List.length_singleton]
    omega
  | take hi =>
    refine work_move_lt hi ?_
    simp only [Call.work, BinaryCompiler.takeModules, List.length_nil]
    omega
  | destroy hi => exact work_move_lt hi (by simp [Call.work, BinaryCompiler.destroy])

/-! ## Compiles that come too late -/

/-- Where a compile with a module can be once the compiler is closed: in front of the critical
    section, behind it, or back with an error and its module destroyed. -/
def Call.IsLate (c : BinaryCompiler M) (m : M) (x : Call M) : Prop :=
  x = holding m ∨ x = refused m ∨ x = compiled (.error .closed) ∧ m ∈ c.destroyed

theorem Call.IsLate.mono {m : M} (h : x.IsLate c m) (hsub : c.destroyed ⊆ c'.destroyed) :
    x.IsLate c' m :=
  h.imp_right fun h => h.imp_right fun h => ⟨h.1, hsub h.2⟩

theorem Step.closed (h : Step lower s t) (hclosed : s.compiler.closed = true) :
    t.compiler.closed = true := by
  cases h with
  | proceed h =>
    cases h with
    | adopt _ hopen =>
      rw [hopen] at hclosed
      cases hclosed
    | take => rfl
    | _ => exact hclosed
  | compile => exact hclosed
  | close => exact hclosed

theorem getElem?_move (hi : s.calls[i]? = some x) (c : BinaryCompiler M) (y : Call M) (j : Nat) :
    (s.move c i y).calls[j]? = if i = j then some y else s.calls[j]? := by
  have hlt : i < s.calls.length := (List.getElem?_eq_some_iff.1 hi).1
  rw [move, List.getElem?_set]
  simp only [hlt, if_true]

/-- What the calls do is to move one of them.  A destroyed module stays destroyed, and at a closed
    compiler a late compile moves on to its error. -/
theorem Proceeds.moves (h : Proceeds lower s t) : ∃ i x y c, s.calls[i]? = some x ∧
    t = s.move c i y ∧ s.compiler.destroyed ⊆ c.destroyed ∧
      ∀ m, s.compiler.closed = true → x.IsLate s.compiler m → y.IsLate c m := by
  cases h with
  | adopt hi hopen =>
    rw [adopt_of_open hopen]
    refine ⟨_, _, _, _, hi, rfl, List.Subset.refl _, fun m hclosed => ?_⟩
    rw [hopen] at hclosed
    cases hclosed
  | refuse hi =>
    refine ⟨_, _, _, _, hi, rfl, List.Subset.refl _, fun m _ hlate => ?_⟩
    rcases hlate with hlate | hlate | ⟨hlate, -⟩ <;> cases hlate
    exact .inr (.inl rfl)
  | discard hi =>
    refine ⟨_, _, _, _, hi, rfl, List.subset_append_left .., fun m _ hlate => ?_⟩
    rcases hlate with hlate | hlate | ⟨hlate, -⟩ <;> cases hlate
    exact .inr (.inr ⟨rfl, List.mem_append_right _ (List.mem_singleton_self _)⟩)
  | reject hi | plain hi | lose hi | create hi | take hi | «return» hi =>
    refine ⟨_, _, _, _, hi, rfl, List.Subset.refl _, fun m _ hlate => ?_⟩
    rcases hlate with hlate | hlate | ⟨hlate, -⟩ <;> cases hlate
  | destroy hi =>
    refine ⟨_, _, _, _, hi, rfl, List.subset_append_left .., fun m _ hlate => ?_⟩
    rcases hlate with hlate | hlate | ⟨hlate, -⟩ <;> cases hlate

/-- A late compile comes to nothing but its error. -/
theorem Step.late {m : M} {j : Nat} (h : Step lower s t) (hclosed : s.compiler.closed = true)
    (hj : ∃ x, s.calls[j]? = some x ∧ x.IsLate s.compiler m) :
    ∃ x, t.calls[j]? = some x ∧ x.IsLate t.compiler m := by
  obtain ⟨x, hx, hlate⟩ := hj
  have hlt : j < s.calls.length := (List.getElem?_eq_some_iff.1 hx).1
  cases h with
  | compile | close =>
    refine ⟨x, ?_, hlate⟩
    rw [enter, List.getElem?_append_left hlt]
    exact hx
  | proceed h =>
    obtain ⟨i, z, y, c, hi, rfl, hdestroyed, hmoves⟩ := h.moves
    rw [getElem?_move hi]
    by_cases hij : i = j
    · rw [hij, hx] at hi
      cases hi
      exact ⟨y, if_pos hij, hmoves m hclosed hlate⟩
    · exact ⟨x, (if_neg hij).trans hx, hlate.mono hdestroyed⟩

/-- A compile that comes with a module to a closed compiler is late from then on. -/
theorem run_late {m : M} {j : Nat} (h : ReflTransGen (Step lower) s t)
    (hclosed : s.compiler.closed = true) (hj : s.calls[j]? = some (.holding m)) :
    t.compiler.closed = true ∧ ∃ x, t.calls[j]? = some x ∧ x.IsLate t.compiler m := by
  induction h with
  | refl => exact ⟨hclosed, _, hj, .inl rfl⟩
  | tail _ hstep ih => exact ⟨hstep.closed ih.1, hstep.late ih.1 ih.2⟩

/-! ## What is kept -/

/-- The modules of a compiler are neither lost nor destroyed twice, whatever happens next. -/
structure Kept (lower : String → Except String Unit) (s : ModuleTraffic M) : Prop where
  /-- Every module that was created is in one of the four places, and there once. -/
  owned : s.places.Perm s.compiler.created
  once : s.places.Nodup
  /-- Once a close has returned and nobody is at work, every module has been destroyed. -/
  finished : .closed ∈ s.calls → (∀ x ∈ s.calls, x.HasReturned) →
    s.compiler.modules.length = 0 ∧ s.compiler.destroyed.Perm s.compiler.created
  /-- A compile that reaches its critical section, with a module, after a close has been in its own
      returns an error if it returns at all.  The module is destroyed then, and never handed
      over. -/
  late : ∀ (i : Nat) (m : M) (t : ModuleTraffic M), (∃ x ∈ s.calls, x.HasTaken) →
    s.calls[i]? = some (.holding m) → ReflTransGen (Step lower) s t →
      m ∉ t.compiler.modules ∧ ∃ x, t.calls[i]? = some x ∧ x.IsLate t.compiler m
  /-- Left alone, the calls come to rest, and all of them have returned then. -/
  terminates : Acc (flip (Proceeds lower)) s
  complete : ∀ t, ReflTransGen (Proceeds lower) s t → AtRest lower t →
    ∀ x ∈ t.calls, x.HasReturned

theorem Call.HasReturned.held_eq (h : x.HasReturned) : x.held = [] := by cases x <;> trivial

theorem Call.HasReturned.taken_eq (h : x.HasReturned) : x.taken = [] := by
  cases x with
  | destroying => exact h.elim
  | _ => rfl

theorem Accounted.finished (h : Accounted s) (hclosed : .closed ∈ s.calls)
    (hreturned : ∀ x ∈ s.calls, x.HasReturned) :
    s.compiler.modules = [] ∧ s.compiler.destroyed.Perm s.compiler.created := by
  have hmodules : s.compiler.modules = [] := h.emptied (h.shut _ hclosed trivial)
  have hheld : s.calls.flatMap Call.held = [] :=
    List.flatMap_eq_nil_iff.2 fun x hx => (hreturned x hx).held_eq
  have htaken : s.calls.flatMap Call.taken = [] :=
    List.flatMap_eq_nil_iff.2 fun x hx => (hreturned x hx).taken_eq
  have hplaces := h.places
  rw [ModuleTraffic.places, hheld, hmodules, htaken] at hplaces
  exact ⟨hmodules, hplaces⟩

/-- **Modules are neither lost nor destroyed twice**, whatever the lowering, the device and the
    order of the calls. -/
theorem Reachable.modules_kept (h : Reachable lower s) : Kept lower s where
  owned := h.accounted.places
  once := h.accounted.places.nodup_iff.2 h.accounted.nodup
  finished hclosed hreturned :=
    (h.accounted.finished hclosed hreturned).imp_left fun h => by rw [h, List.length_nil]
  late i m t htaken hi hrun := by
    obtain ⟨x, hx, hxtaken⟩ := htaken
    obtain ⟨hclosed, hlate⟩ := run_late hrun (h.accounted.shut x hx hxtaken) hi
    obtain ⟨device, level, hstart⟩ := h
    have ht : Reachable lower t := ⟨device, level, hstart.trans hrun⟩
    exact ⟨by simp [ht.accounted.emptied hclosed], hlate⟩
  terminates := (Subrelation.wf (fun h => Proceeds.work_lt h) (measure work).wf).apply s
  complete _ _ hrest _ hx := hrest.hasReturned hx

end

/-! ## A compile that is overtaken by a close -/

/-- Nobody has called yet. -/
def unused : ModuleTraffic Nat := { compiler := { device := some .working } }

/-- A compile has created a module, and then a close has returned. -/
def overtaken : ModuleTraffic Nat where
  compiler := { device := some .working, closed := true, created := [0] }
  calls := [.holding 0, .closed]

/-- A request for an empty kernel wrapper. -/
def emptyRequest : Request := { files := .ofList [(VirtualPath.kernelWrapper, "")] }

theorem reachable_overtaken : Reachable (fun _ => .ok ()) overtaken := by
  have hlowered : lowered (fun _ => .ok ()) false emptyRequest = .ok () := by decide
  have hfresh : 0 ∉ unused.compiler.created := List.not_mem_nil
  have hcreate : Step (fun _ => .ok ()) (unused.enter unused.compiler (.compiling emptyRequest))
      (unused.enter (unused.compiler.create 0) (.holding 0)) :=
    step_enter (.create getElem?_enter hlowered rfl hfresh)
  exact ⟨some .working, .sm6, .head (.compile emptyRequest) (.head hcreate close_runs)⟩

/-- Whatever happens next, that compile comes to an error. -/
theorem modules_kept_overtaken :
    Reachable (fun _ => .ok ()) overtaken ∧ Kept (fun _ => .ok ()) overtaken ∧
      (∃ x ∈ overtaken.calls, x.HasTaken) ∧ overtaken.calls[0]? = some (.holding 0) :=
  ⟨reachable_overtaken, reachable_overtaken.modules_kept,
    ⟨.closed, by simp [overtaken], trivial⟩, rfl⟩

end ModuleTraffic

end KernelGraph
