/-
  The operations of the cache are runs of critical sections.

  `ProgramCache` takes a call from its beginning to where it waits in one go, and gives everybody
  who waits for a flight its outcome as soon as the compile comes back.  The traffic at the cache
  does the same step by step; in between, others might come in, but need not.  So every run of the
  operations is a run of the traffic, one in which nobody comes in between, and what holds of all
  traffic holds of the operations:

      leading call   ↦  waits for the flight that it leads, whose compile is running
      joined call    ↦  waits for the flight that the group knows by its name
      returned call  ↦  came back with the same result

  A call that is `Owed` an outcome is in between: its flight has arrived, and it was not told yet.
-/
import KernelGraph.Proofs.Cache.Origins
import KernelGraph.Proofs.Flights

namespace KernelGraph

open Relation Traffic

variable {P ε : Type}

namespace ProgramCache

/-- The runs of the cache's operations: who has asked for what, what compiles have come back with
    for which key, and the cache. -/
inductive Run (isCancelled : ε → Bool) (limit : Int) :
    List (Nat × ProgramKey) → List (ProgramKey × P) → ProgramCache P ε → Prop
  | start : Run isCancelled limit [] [] (empty limit)
  /-- A call begins under a new id. -/
  | begin {asked made} {c : ProgramCache P ε} (h : Run isCancelled limit asked made c) (id : Nat)
      (hid : id ∉ asked.map Prod.fst) (key : ProgramKey) :
      Run isCancelled limit (asked ++ [(id, key)]) made (c.begin id key)
  /-- The compile of a call that leads comes back. -/
  | compiled {asked made} {c : ProgramCache P ε} {id : Nat} {x : Call P ε}
      (h : Run isCancelled limit asked made c) (hx : c.call? id = some x)
      (hleading : x.phase = .leading) (o : Except ε P) :
      Run isCancelled limit asked (made ++ (o.toOption.map fun p => (x.key, p)).toList)
        (c.compiled isCancelled id o)
  | cancel {asked made} {c : ProgramCache P ε} (h : Run isCancelled limit asked made c) (id : Nat) :
      Run isCancelled limit asked made (c.cancel id)
  | forget {asked made} {c : ProgramCache P ε} (h : Run isCancelled limit asked made c) (id : Nat) :
      Run isCancelled limit asked made (c.forget id)
  | lookup {asked made} {c : ProgramCache P ε} (h : Run isCancelled limit asked made c)
      (key : ProgramKey) : Run isCancelled limit asked made (c.lookup key).2
  | clear {asked made} {c : ProgramCache P ε} (h : Run isCancelled limit asked made c) :
      Run isCancelled limit asked made c.clear

/-! ## Standing where the cache says -/

/-- A result says that the program was there. -/
def isHit : Except (CallError ε) (P × Bool) → Bool
  | .ok (_, hit) => hit
  | .error _ => false

/-- The call waits, or has come back, as the cache says. -/
def Stands (s : Traffic P ε) (x : Call P ε) : Prop :=
  ∃ y, s.callers x.id = some y ∧ y.key = x.key ∧ y.cancelled = x.cancelled ∧
    match x.phase with
    | .leading => ∃ f z, y.place = .waiting f true true ∧ s.flights f = some z ∧
        z.stage = .compiling
    | .joined => x.cancelled = false ∧
        ∃ f, y.place = .waiting f false false ∧ s.group x.key.name = some f
    | .returned r => ∃ f, y.place = .returned f (r.map Prod.fst) (isHit r)

/-- The call has joined a flight that has arrived. -/
def Owed (s : Traffic P ε) (o : Except ε P) (x : Call P ε) : Prop :=
  x.phase = .joined ∧ x.cancelled = false ∧ ∃ y f z, s.callers x.id = some y ∧ y.key = x.key ∧
    y.cancelled = false ∧ y.place = .waiting f false false ∧ s.flights f = some z ∧
    z.stage = .arrived o

/-- The cache and the traffic agree on everything but the calls. -/
structure Agrees (asked : List (Nat × ProgramKey)) (made : List (ProgramKey × P))
    (c : ProgramCache P ε) (s : Traffic P ε) : Prop where
  programs : s.programs = c.programs
  compiles : s.compiles = c.compiles
  group : ∀ name, s.group name ≠ none ↔ ∃ l ∈ c.flights, l.1 = name
  flights : ∀ f z, s.flights f = some z → z.stage = .compiling ∨
    ∃ o, z.stage = .arrived o ∧ ∀ p, o = .ok p → z.ran = true → (z.key, p) ∈ made
  room : ∃ n, ∀ f, n ≤ f → s.flights f = none
  callers : ∀ id y, s.callers id = some y → (id, y.key) ∈ asked

/-- The traffic stands where the cache says. -/
structure Represents (asked : List (Nat × ProgramKey)) (made : List (ProgramKey × P))
    (c : ProgramCache P ε) (s : Traffic P ε) : Prop extends Agrees asked made c s where
  nodup : (c.calls.map Call.id).Nodup
  stands : ∀ x ∈ c.calls, Stands s x

/-- The traffic stands where the cache says, but for some calls that are owed an outcome. -/
structure Indebted (asked : List (Nat × ProgramKey)) (made : List (ProgramKey × P))
    (o : Except ε P) (W : List Nat) (c : ProgramCache P ε) (s : Traffic P ε) : Prop
    extends Agrees asked made c s where
  nodup : (c.calls.map Call.id).Nodup
  owed : ∀ x ∈ c.calls, x.id ∈ W → Owed s o x
  stands : ∀ x ∈ c.calls, x.id ∉ W → Stands s x

/-- Only one call has moved; flights that were there are there, and registered ones still known. -/
structure Beside (id : Nat) (s t : Traffic P ε) : Prop where
  callers : ∀ i, i ≠ id → t.callers i = s.callers i
  flights : ∀ f z, s.flights f = some z → t.flights f = some z
  group : ∀ name f, s.group name = some f → t.group name = some f

section
variable {c c' : ProgramCache P ε} {s t : Traffic P ε} {x y : Call P ε} {id : Nat}
  {asked : List (Nat × ProgramKey)} {made : List (ProgramKey × P)}

theorem Stands.beside (h : Stands s x) (hb : Beside id s t) (hid : x.id ≠ id) : Stands t x := by
  obtain ⟨y, hy, hkey, hcancelled, hphase⟩ := h
  refine ⟨y, (hb.callers x.id hid).trans hy, hkey, hcancelled, ?_⟩
  split at hphase
  · obtain ⟨f, z, hplace, hz, hstage⟩ := hphase
    exact ⟨f, z, hplace, hb.flights f z hz, hstage⟩
  · obtain ⟨hactive, f, hplace, hf⟩ := hphase
    exact ⟨hactive, f, hplace, hb.group _ f hf⟩
  · exact hphase

theorem Owed.beside {o : Except ε P} (h : Owed s o x) (hb : Beside id s t) (hid : x.id ≠ id) :
    Owed t o x := by
  obtain ⟨hphase, hactive, y, f, z, hy, hkey, hcancelled, hplace, hz, hstage⟩ := h
  exact ⟨hphase, hactive, y, f, z, (hb.callers x.id hid).trans hy, hkey, hcancelled, hplace,
    hb.flights f z hz, hstage⟩

theorem Beside.trans {u : Traffic P ε} (h : Beside id s t) (h' : Beside id t u) :
    Beside id s u where
  callers i hi := (h'.callers i hi).trans (h.callers i hi)
  flights f z hz := h'.flights f z (h.flights f z hz)
  group name f hf := h'.group name f (h.group name f hf)

theorem beside_setCaller (s : Traffic P ε) (id : Nat) (y : Caller P ε) :
    Beside id s (s.setCaller id y) where
  callers _ hi := setCaller_callers_of_ne s y hi
  flights _ _ hz := hz
  group _ _ hf := hf

theorem Agrees.of_programs (h : Agrees asked made c s) (programs : Lru ProgramKey P) :
    Agrees asked made { c with programs } { s with programs } :=
  ⟨rfl, h.compiles, h.group, h.flights, h.room, h.callers⟩

theorem Agrees.of_inflight (h : Agrees asked made c s) (inflight : Finset String) :
    Agrees asked made c { s with inflight } :=
  ⟨h.programs, h.compiles, h.group, h.flights, h.room, h.callers⟩

theorem Agrees.modifyCall (h : Agrees asked made c s) (id : Nat) (g : Call P ε → Call P ε) :
    Agrees asked made (c.modifyCall id g) s :=
  ⟨h.programs, h.compiles, h.group, h.flights, h.room, h.callers⟩

theorem Agrees.setCaller (h : Agrees asked made c s) {y : Caller P ε} (hy : s.callers id = some y)
    (y' : Caller P ε) (hkey : y'.key = y.key) : Agrees asked made c (s.setCaller id y') where
  programs := h.programs
  compiles := h.compiles
  group := h.group
  flights := h.flights
  room := h.room
  callers i z hz := by
    rcases setCaller_callers_eq_some.1 hz with ⟨rfl, rfl⟩ | ⟨_, hz⟩
    · rw [hkey]
      exact h.callers i y hy
    · exact h.callers i z hz

/-! ## Asking -/

theorem ask_of_hit {p : P} (h : (c.programs.get x.key).1 = some p) :
    c.ask x = ({ x with phase := .returned (.ok (p, true)) },
      { c with programs := (c.programs.get x.key).2 }) := by
  unfold ask
  cases hget : c.programs.get x.key with
  | mk found programs =>
    rw [hget] at h
    cases h
    rfl

theorem ask_of_flight (h : (c.programs.get x.key).1 = none)
    (hflight : ∃ l ∈ c.flights, l.1 = x.key.name) :
    c.ask x = ({ x with phase := .joined }, { c with programs := (c.programs.get x.key).2 }) := by
  have hknown : (c.flights.lookup x.key.name).isSome = true := by
    obtain ⟨l, hl, hname⟩ := hflight
    rw [← Option.ne_none_iff_isSome, Ne, List.lookup_eq_none_iff]
    intro hnone
    exact absurd (hnone l hl) (by simp [hname])
  unfold ask
  cases hget : c.programs.get x.key with
  | mk found programs =>
    rw [hget] at h
    cases h
    simp only [hknown, if_true]

theorem ask_of_miss (h : (c.programs.get x.key).1 = none)
    (hflight : ¬ ∃ l ∈ c.flights, l.1 = x.key.name) :
    c.ask x = ({ x with phase := .leading, ran := true },
      { c with
        programs := ((c.programs.get x.key).2.get x.key).2
        flights := c.flights ++ [(x.key.name, x.id)]
        compiles := c.compiles + 1 }) := by
  have hunknown : (c.flights.lookup x.key.name).isSome = false := by
    rw [Option.isSome_eq_false_iff, Option.isNone_iff_eq_none, List.lookup_eq_none_iff]
    exact fun l hl => bne_iff_ne.2 fun hname => hflight ⟨l, hl, hname.symm⟩
  have hagain := Lru.get_get_of_none h
  unfold ask
  cases hget : c.programs.get x.key with
  | mk found programs =>
    rw [hget] at h hagain
    cases h
    dsimp only at hagain
    cases hget' : programs.get x.key with
    | mk found' programs' =>
      rw [hget'] at hagain
      cases hagain
      simp [hunknown, hget']

/-- A call registers a flight, and the flight calls the compile function. -/
theorem departs (isCancelled : ε → Bool) {y : Caller P ε} {f : Nat}
    (hy : s.callers id = some y) (hplace : y.place = .missing)
    (hgroup : s.group y.key.name = none) (hunknown : y.key.name ∉ s.inflight)
    (hfresh : s.flights f = none) (hmiss : (s.programs.get y.key).1 = none) :
    ReflTransGen (Step isCancelled) s (({ s with
      programs := (s.programs.get y.key).2
      compiles := s.compiles + 1
      inflight := insert y.key.name s.inflight
      group := Function.update s.group y.key.name (some f) }.setFlight f
        { key := y.key, leader := id, ran := true, stage := .compiling }).setCaller id
      { y with place := .waiting f true true }) := by
  let x : Flight P ε := { key := y.key, leader := id }
  have hdepart : Step isCancelled s _ := .depart hy hplace hgroup hfresh
  have hcompile : Step isCancelled _ _ := .compile (s := (({ s with
    inflight := insert y.key.name s.inflight
    group := Function.update s.group y.key.name (some f) }.setFlight f x).setCaller id
      { y with place := .waiting f (decide (y.key.name ∉ s.inflight)) true }))
    (x := x) (setFlight_flights_self _ f x) rfl hmiss
  refine .tail (.single hdepart) ?_
  convert hcompile using 2
  simp [setCaller, setFlight, x, hunknown]

theorem Agrees.lead (h : Agrees asked made c s) (y : Caller P ε) (f id : Nat)
    (programs : Lru ProgramKey P) (inflight : Finset String) :
    Agrees asked made
      { c with
        programs
        flights := c.flights ++ [(y.key.name, id)]
        compiles := c.compiles + 1 }
      ({ s with
        programs
        compiles := s.compiles + 1
        inflight
        group := Function.update s.group y.key.name (some f) }.setFlight f
          { key := y.key, leader := id, ran := true, stage := .compiling }) where
  programs := rfl
  compiles := congrArg (· + 1) h.compiles
  group name := by
    show Function.update s.group y.key.name (some f) name ≠ none ↔ _
    rw [Function.update_apply]
    split
    · simp [*]
    · rename_i hother
      simp [h.group, Ne.symm hother]
  flights g z hz := by
    rcases setFlight_flights_eq_some.1 hz with ⟨rfl, rfl⟩ | ⟨_, hz⟩
    · exact .inl rfl
    · exact h.flights g z hz
  room := by
    obtain ⟨n, hn⟩ := h.room
    refine ⟨max n (f + 1), fun g hg => ?_⟩
    have hne : g ≠ f := by omega
    exact (setFlight_flights_of_ne _ _ hne).trans (hn g (by omega))
  callers := h.callers

/-- **Asking is a run of critical sections**, in which only the asking call moves. -/
theorem Agrees.ask (isCancelled : ε → Bool) (h : Agrees asked made c s) (hr : s.Routed)
    {y : Caller P ε} (hy : s.callers x.id = some y) (hkey : y.key = x.key)
    (hcancelled : y.cancelled = x.cancelled)
    (hactive : x.cancelled = false) (hplace : y.place = .looking) :
    ∃ t, ReflTransGen (Step isCancelled) s t ∧ Agrees asked made (c.ask x).2 t ∧
      Stands t (c.ask x).1 ∧ Beside x.id s t := by
  have hget : c.programs.get x.key = s.programs.get y.key := by rw [h.programs, hkey]
  cases hfound : (s.programs.get y.key).1 with
  | some p =>
    rw [ask_of_hit (by rw [hget, hfound]), hget]
    refine ⟨_, .single (.hit hy hplace hfound), ?_, ?_, ?_⟩
    · exact (h.of_programs (s.programs.get y.key).2).setCaller hy
        { y with place := .returned none (.ok p) true } rfl
    · exact ⟨_, setCaller_callers_self .., hkey, hcancelled, none, rfl⟩
    · exact ⟨fun i hi => setCaller_callers_of_ne _ _ hi, fun f z hz => hz, fun name f hf => hf⟩
  | none =>
    have hmiss : Step isCancelled s _ := .miss hy hplace hfound
    have hmissed := (h.of_programs (s.programs.get y.key).2).setCaller hy
      { y with place := .missing } rfl
    by_cases hflight : ∃ l ∈ c.flights, l.1 = x.key.name
    · rw [ask_of_flight (by rw [hget, hfound]) hflight, hget]
      obtain ⟨f, hf⟩ := Option.ne_none_iff_exists'.1 ((h.group _).2 hflight)
      have hknown : y.key.name ∈ s.inflight := (hr.inflight _).2 (by rw [hkey, hf]; simp)
      refine ⟨_, .tail (.single hmiss) (.join (setCaller_callers_self ..) rfl
        (by rw [hkey]; exact hf)), ?_, ?_, ?_⟩
      · exact (hmissed.of_inflight (insert y.key.name s.inflight)).setCaller
          (setCaller_callers_self ..)
          { y with place := .waiting f (decide (y.key.name ∉ s.inflight)) false } rfl
      · refine ⟨_, setCaller_callers_self .., hkey, hcancelled, hactive, f, ?_, hf⟩
        simp [hknown]
      · refine ⟨fun i hi => ?_, fun f z hz => hz, fun name f hf => hf⟩
        exact (setCaller_callers_of_ne _ _ hi).trans (setCaller_callers_of_ne _ _ hi)
    · rw [ask_of_miss (by rw [hget, hfound]) hflight, hget, ← hkey]
      have hgroup : s.group y.key.name = none := by
        rw [hkey]
        exact not_not.1 fun hne => hflight ((h.group _).1 hne)
      have hunknown : y.key.name ∉ s.inflight := fun hmem => (hr.inflight _).1 hmem hgroup
      obtain ⟨n, hn⟩ := h.room
      refine ⟨_, .trans (.single hmiss) (departs isCancelled (setCaller_callers_self ..) rfl hgroup
        hunknown (hn n (Nat.le_refl n)) (Lru.get_get_of_none hfound)), ?_, ?_, ?_⟩
      · exact (hmissed.lead y n x.id ((s.programs.get y.key).2.get y.key).2
          (insert y.key.name s.inflight)).setCaller (setCaller_callers_self ..)
          { y with place := .waiting n true true } rfl
      · exact ⟨_, setCaller_callers_self .., rfl, hcancelled, n, _, rfl, setFlight_flights_self ..,
          rfl⟩
      · refine ⟨fun i hi => ?_, fun g z hz => ?_, fun name g hg => ?_⟩
        · exact (setCaller_callers_of_ne _ _ hi).trans (setCaller_callers_of_ne _ _ hi)
        · exact setFlight_flights_of_fresh (hn n (Nat.le_refl n)) hz _
        · refine (Function.update_of_ne ?_ ..).trans hg
          rintro rfl
          rw [hgroup] at hg
          cases hg

/-! ## Giving outcomes -/

/-- Another call in the place of the one with the same id. -/
theorem nodup_replaced (h : (c.calls.map Call.id).Nodup)
    (hcalls : c'.calls = c.calls.map fun z => if z.id = id then x else z) (hx : x.id = id) :
    (c'.calls.map Call.id).Nodup := by
  have hids : c'.calls.map Call.id = c.calls.map Call.id := by
    rw [hcalls, List.map_map]
    refine List.map_congr_left fun z _ => ?_
    dsimp only [Function.comp]
    split
    · rename_i hz
      rw [hx, hz]
    · rfl
  rw [hids]
  exact h

theorem mem_replaced {z : Call P ε}
    (hcalls : c'.calls = c.calls.map fun z => if z.id = id then x else z) (hz : z ∈ c'.calls) :
    z = x ∨ z ∈ c.calls ∧ z.id ≠ id := by
  rw [hcalls] at hz
  obtain ⟨w, hw, rfl⟩ := List.mem_map.1 hz
  by_cases hwid : w.id = id
  · exact .inl (if_pos hwid)
  · rw [if_neg hwid]
    exact .inr ⟨hw, hwid⟩

/-- A change of the call with an id is a change of one call. -/
theorem map_calls_eq (h : (c.calls.map Call.id).Nodup) (hx : x ∈ c.calls)
    (g : Call P ε → Call P ε) :
    (c.calls.map fun w => if w.id = x.id then g w else w) =
      c.calls.map fun w => if w.id = x.id then g x else w := by
  refine List.map_congr_left fun w hw => ?_
  split
  · rename_i hwid
    rw [List.inj_on_of_nodup_map h hw hx hwid]
  · rfl

/-- A call has moved, and stands where the cache says. -/
theorem Represents.modifyCall (h : Represents asked made c s) (hx : x ∈ c.calls)
    (g : Call P ε → Call P ε) (hg : (g x).id = x.id) (hagrees : Agrees asked made c t)
    (hb : Beside x.id s t) (hstands : Stands t (g x)) :
    Represents asked made (c.modifyCall x.id g) t where
  toAgrees := hagrees.modifyCall x.id g
  nodup := nodup_replaced h.nodup (map_calls_eq h.nodup hx g) hg
  stands z hz := by
    rcases mem_replaced (map_calls_eq h.nodup hx g) hz with rfl | ⟨hz, hid⟩
    · exact hstands
    · exact (h.stands z hz).beside hb hid

/-- A call has been told its outcome, and stands again. -/
theorem Indebted.settle {o : Except ε P} {W : List Nat} (h : Indebted asked made o (id :: W) c s)
    (hid : id ∉ W) (hagrees : Agrees asked made c' t) (hb : Beside id s t)
    (hcalls : c'.calls = c.calls.map fun z => if z.id = id then x else z) (hx : x.id = id)
    (hstands : Stands t x) : Indebted asked made o W c' t where
  toAgrees := hagrees
  nodup := nodup_replaced h.nodup hcalls hx
  owed z hz hmem := by
    rcases mem_replaced hcalls hz with rfl | ⟨hz, hzid⟩
    · exact absurd (hx ▸ hmem) hid
    · exact (h.owed z hz (List.mem_cons_of_mem _ hmem)).beside hb hzid
  stands z hz hmem := by
    rcases mem_replaced hcalls hz with rfl | ⟨hz, hzid⟩
    · exact hstands
    · exact (h.stands z hz fun hin => (List.mem_cons.1 hin).elim hzid hmem).beside hb hzid

/-- **A call is told its outcome** in a run of critical sections. -/
theorem Indebted.deliver (isCancelled : ε → Bool) {o : Except ε P} {W : List Nat}
    (h : Indebted asked made o (id :: W) c s) (hr : s.Routed) (hid : id ∉ W) :
    ∃ t, ReflTransGen (Step isCancelled) s t ∧
      Indebted asked made o W (c.deliver isCancelled o id) t := by
  cases hcall : c.call? id with
  | none =>
    have hnone : c.deliver isCancelled o id = c := by rw [ProgramCache.deliver, hcall]
    rw [hnone]
    refine ⟨s, .refl, h.toAgrees, h.nodup,
      fun x hx hmem => h.owed x hx (List.mem_cons_of_mem _ hmem),
        fun x hx hmem => h.stands x hx fun hin => ?_⟩
    rcases List.mem_cons.1 hin with rfl | hin
    · obtain ⟨z, hz⟩ := exists_call? hx
      rw [hcall] at hz
      cases hz
    · exact hmem hin
  | some x =>
    obtain ⟨hx, rfl⟩ := mem_of_call? hcall
    obtain ⟨_, hactive, y, f, z, hy, hkey, hcancelled, hplace, hz, hstage⟩ :=
      h.owed x hx (List.mem_cons_self ..)
    have hreceive : Step isCancelled s _ := .receive hy hplace hz hstage
    have hcancelled' : y.cancelled = x.cancelled := hcancelled.trans hactive.symm
    rw [ProgramCache.deliver, hcall]
    cases o with
    | ok p =>
      refine ⟨_, .single hreceive, h.settle hid
        ((h.toAgrees.setCaller hy { y with place := .returned (some f) (.ok p) true }
          rfl).modifyCall _ _) (beside_setCaller ..) (map_calls_eq h.nodup hx _) rfl ?_⟩
      exact ⟨_, setCaller_callers_self .., hkey, hcancelled', some f, rfl⟩
    | error e =>
      dsimp only
      cases he : isCancelled e with
      | false =>
        rw [Caller.take_eq_returned (by rintro _ ⟨⟩; exact .inr (.inl he))] at hreceive
        refine ⟨_, .single hreceive, h.settle hid
          ((h.toAgrees.setCaller hy
            { y with place := .returned (some f) (.error (.failed e)) false }
            rfl).modifyCall _ _) (beside_setCaller ..) (map_calls_eq h.nodup hx _) rfl ?_⟩
        exact ⟨_, setCaller_callers_self .., hkey, hcancelled', some f, rfl⟩
      | true =>
        have htake : y.take isCancelled f (false && z.ran) (.error e) =
            { y with place := .looking } := by
          simp [Caller.take, he, hcancelled]
        rw [htake] at hreceive
        obtain ⟨t, hrun, hagrees, hstands, hb⟩ :=
          (h.toAgrees.setCaller hy { y with place := .looking } rfl).ask isCancelled
            (hr.step hreceive) (setCaller_callers_self ..) hkey hcancelled' hactive rfl
        have hfields := (ask_asks c x).fields
        refine ⟨t, .head hreceive hrun, h.settle hid (hagrees.modifyCall _ _)
          ((beside_setCaller ..).trans hb) ?_ (congrArg Prod.fst hfields.2.1) hstands⟩
        rw [← hfields.1]
        rfl

/-- All calls are told their outcome. -/
theorem Indebted.settled (isCancelled : ε → Bool) {o : Except ε P} {W : List Nat}
    (h : Indebted asked made o W c s) (hr : s.Routed) (hW : W.Nodup) :
    ∃ t, ReflTransGen (Step isCancelled) s t ∧
      Represents asked made (W.foldl (ProgramCache.deliver isCancelled o) c) t := by
  induction W generalizing c s with
  | nil => exact ⟨s, .refl, h.toAgrees, h.nodup, fun x hx => h.stands x hx (List.not_mem_nil)⟩
  | cons id W ih =>
    obtain ⟨hid, hW⟩ := List.nodup_cons.1 hW
    obtain ⟨t, hrun, ht⟩ := h.deliver isCancelled hr hid
    obtain ⟨u, hrun', hu⟩ := ih ht (hr.run hrun) hW
    exact ⟨u, hrun.trans hrun', hu⟩

/-! ## A compile comes back -/

/-- A flight has stored its program, given its name up and arrived. -/
def landed (s : Traffic P ε) (f : Nat) (z : Flight P ε) (o : Except ε P) : Traffic P ε :=
  { s with
    programs := match o with
      | .ok p => s.programs.set z.key p
      | .error _ => s.programs
    inflight := s.inflight.erase z.key.name
    group := Function.update s.group z.key.name none }.setFlight f { z with stage := .arrived o }

/-- A flight whose compile comes back lands. -/
theorem lands (isCancelled : ε → Bool) {f : Nat} {z : Flight P ε} (hz : s.flights f = some z)
    (hstage : z.stage = .compiling) (o : Except ε P) :
    ReflTransGen (Step isCancelled) s (landed s f z o) := by
  let s₁ := s.setFlight f { z with stage := .compiled o }
  let s₂ := { s₁ with
    programs := match o with
      | .ok p => s.programs.set z.key p
      | .error _ => s.programs }.setFlight f { z with stage := .settled o }
  let s₃ := { s₂ with
    inflight := s.inflight.erase z.key.name
    group := Function.update s.group z.key.name none }.setFlight f { z with stage := .landed o }
  have hback : Step isCancelled s s₁ := .comeBack hz hstage o
  have hsettle : Step isCancelled s₁ s₂ :=
    .settle (x := { z with stage := .compiled o }) (setFlight_flights_self ..) rfl
  have hland : Step isCancelled s₂ s₃ :=
    .land (x := { z with stage := .settled o }) (setFlight_flights_self ..) rfl
  have harrive : Step isCancelled s₃ _ :=
    .arrive (x := { z with stage := .landed o }) (setFlight_flights_self ..) rfl
  convert (ReflTransGen.single hback).tail hsettle |>.tail hland |>.tail harrive using 1
  simp [s₁, s₂, s₃, landed, setFlight]

/-- What a call that leads comes back with. -/
def ledResult (cancelled : Bool) (o : Except ε P) : Except (CallError ε) (P × Bool) :=
  if cancelled then .error .cancelled
  else
    match o with
    | .ok p => .ok (p, false)
    | .error e => .error (.failed e)

/-- A compile has come back, and nobody but the call that leads has been told. -/
def land (c : ProgramCache P ε) (x : Call P ε) (o : Except ε P) : ProgramCache P ε :=
  { c with
    programs := match o with
      | .ok p => c.programs.set x.key p
      | .error _ => c.programs
    flights := c.flights.filter fun l => l.1 ≠ x.key.name }.modifyCall x.id fun w =>
      { w with phase := .returned (ledResult x.cancelled o) }

theorem compiled_eq_foldl (isCancelled : ε → Bool) (hcall : c.call? x.id = some x)
    (o : Except ε P) : c.compiled isCancelled x.id o =
      (c.joiners x.key.name).foldl (deliver isCancelled o) (c.land x o) := by
  unfold compiled
  rw [hcall]
  rfl

theorem mem_joiners {name : String} {i : Nat} :
    i ∈ c.joiners name ↔ ∃ u ∈ c.calls, u.phase = .joined ∧ u.key.name = name ∧ u.id = i := by
  unfold joiners
  rw [List.mem_map]
  refine exists_congr fun u => ?_
  rw [List.mem_filter]
  cases hphase : u.phase with
  | joined => simp [and_assoc]
  | leading => simp
  | returned r => simp

/-- The call that leads a flight which has arrived comes back. -/
theorem leaves (isCancelled : ε → Bool) {f : Nat} {y : Caller P ε} {z : Flight P ε}
    {o : Except ε P} (hy : s.callers id = some y) (hplace : y.place = .waiting f true true)
    (hz : s.flights f = some z) (hran : z.ran = true) (hstage : z.stage = .arrived o) :
    ∃ y', ReflTransGen (Step isCancelled) s (s.setCaller id y') ∧ y'.key = y.key ∧
      y'.cancelled = y.cancelled ∧
      ∃ g, y'.place = .returned g ((ledResult y.cancelled o).map Prod.fst)
        (isHit (ledResult y.cancelled o)) := by
  unfold ledResult
  cases hcancelled : y.cancelled with
  | true =>
    have hdrain : Step isCancelled s _ := .drain hy hplace hcancelled
    have hdrained : Step isCancelled (s.setCaller id { y with place := .draining f }) _ :=
      .drained (c := { y with place := .draining f }) (setCaller_callers_self ..) rfl hz hstage
    refine ⟨{ y with place := .returned none (.error .cancelled) false }, ?_, rfl, hcancelled, none,
      rfl⟩
    convert (ReflTransGen.single hdrain).tail hdrained using 1
    simp [setCaller]
  | false =>
    have hreceive : Step isCancelled s _ := .receive hy hplace hz hstage
    rw [hran, Bool.true_and, Caller.take_eq_returned fun _ _ => .inl rfl] at hreceive
    refine ⟨_, .single hreceive, rfl, hcancelled, some f, ?_⟩
    cases o with
    | ok p => rfl
    | error e => rfl

/-- A call that leads waits for a flight of its key whose compile is running. -/
theorem Represents.leading (h : Represents asked made c s) (hr : s.Routed) (hx : x ∈ c.calls)
    (hleading : x.phase = .leading) : ∃ y f z, s.callers x.id = some y ∧ y.key = x.key ∧
      y.cancelled = x.cancelled ∧ y.place = .waiting f true true ∧ s.flights f = some z ∧
      z.stage = .compiling ∧ z.leader = x.id ∧ z.key = x.key := by
  obtain ⟨y, hy, hkey, hcancelled, hphase⟩ := h.stands x hx
  rw [hleading] at hphase
  obtain ⟨f, z, hplace, hz, hstage⟩ := hphase
  obtain ⟨_, z', hz', _, hled⟩ := hr.waiting hy hplace
  rw [hz] at hz'
  cases hz'
  have hleader : z.leader = x.id := hled.1 rfl
  have hkey' : y.key = z.key := hr.key_leader hz (by rw [hleader, hy])
  exact ⟨y, f, z, hy, hkey, hcancelled, hplace, hz, hstage, hleader, hkey'.symm.trans hkey⟩

theorem Agrees.land (h : Agrees asked made c s) {f : Nat} {z : Flight P ε}
    (hz : s.flights f = some z) (hkey : z.key = x.key) (o : Except ε P) :
    Agrees asked (made ++ (o.toOption.map fun p => (x.key, p)).toList) (c.land x o)
      (landed s f z o) where
  programs := by
    cases o with
    | ok p =>
      show s.programs.set z.key p = c.programs.set x.key p
      rw [h.programs, hkey]
    | error e => exact h.programs
  compiles := h.compiles
  group name := by
    show Function.update s.group z.key.name none name ≠ none ↔
      ∃ l ∈ c.flights.filter fun l => l.1 ≠ x.key.name, l.1 = name
    rw [Function.update_apply, hkey]
    split
    · rename_i hname
      subst hname
      simp
    · rename_i hname
      rw [h.group]
      refine exists_congr fun l => ?_
      rw [List.mem_filter, decide_eq_true_iff]
      exact ⟨fun ⟨hl, hl'⟩ => ⟨⟨hl, hl' ▸ hname⟩, hl'⟩, fun ⟨⟨hl, _⟩, hl'⟩ => ⟨hl, hl'⟩⟩
  flights i w hw := by
    rcases setFlight_flights_eq_some.1 hw with ⟨rfl, rfl⟩ | ⟨_, hw⟩
    · refine .inr ⟨o, rfl, fun p hp _ => List.mem_append_right _ ?_⟩
      rw [hp, hkey]
      exact List.mem_singleton_self _
    · rcases h.flights i w hw with hstage | ⟨o', hstage, hmade⟩
      · exact .inl hstage
      · exact .inr ⟨o', hstage, fun p hp hran => List.mem_append_left _ (hmade p hp hran)⟩
  room := by
    obtain ⟨n, hn⟩ := h.room
    refine ⟨n, fun i hi => ?_⟩
    have hne : i ≠ f := by
      rintro rfl
      rw [hn i hi] at hz
      cases hz
    exact (setFlight_flights_of_ne _ _ hne).trans (hn i hi)
  callers := h.callers

/-- A call that neither led the flight nor had joined it stands where it stood. -/
theorem Stands.land {w : Call P ε} (h : Stands s w) (hr : s.Routed) {f : Nat} {z : Flight P ε}
    (hz : s.flights f = some z) (hleader : z.leader ≠ w.id)
    (hjoined : w.phase = .joined → w.key.name ≠ z.key.name) (o : Except ε P) :
    Stands (landed s f z o) w := by
  obtain ⟨y, hy, hkey, hcancelled, hphase⟩ := h
  refine ⟨y, hy, hkey, hcancelled, ?_⟩
  cases hw : w.phase with
  | leading =>
    rw [hw] at hphase
    obtain ⟨g, z', hplace, hz', hstage⟩ := hphase
    refine ⟨g, z', hplace, setFlight_flights_eq_some.2 (.inr ⟨?_, hz'⟩), hstage⟩
    -- a call leads one flight at a time
    rintro rfl
    obtain ⟨_, z'', hz'', _, hled⟩ := hr.waiting hy hplace
    rw [hz] at hz''
    cases hz''
    exact hleader (hled.1 rfl)
  | joined =>
    rw [hw] at hphase
    obtain ⟨hactive, g, hplace, hg⟩ := hphase
    exact ⟨hactive, g, hplace, (Function.update_of_ne (hjoined hw) ..).trans hg⟩
  | returned r =>
    rw [hw] at hphase
    exact hphase

/-- A call that had joined the flight is owed its outcome. -/
theorem Stands.owed {w : Call P ε} (h : Stands s w) (hw : w.phase = .joined) {f : Nat}
    {z : Flight P ε} (hknown : s.group w.key.name = some f) (o : Except ε P) :
    Owed (landed s f z o) o w := by
  obtain ⟨y, hy, hkey, hcancelled, hphase⟩ := h
  rw [hw] at hphase
  obtain ⟨hactive, g, hplace, hg⟩ := hphase
  rw [hknown] at hg
  cases hg
  exact ⟨hw, hactive, y, f, _, hy, hkey, hcancelled.trans hactive, hplace,
    setFlight_flights_self .., rfl⟩

/-- **A compile comes back** in a run of critical sections. -/
theorem Represents.compiled (isCancelled : ε → Bool) (h : Represents asked made c s)
    (hr : s.Routed) (hcall : c.call? id = some x) (hleading : x.phase = .leading)
    (o : Except ε P) : ∃ t, ReflTransGen (Step isCancelled) s t ∧
      Represents asked (made ++ (o.toOption.map fun p => (x.key, p)).toList)
        (c.compiled isCancelled id o) t := by
  obtain ⟨hx, rfl⟩ := mem_of_call? hcall
  obtain ⟨y, f, z, hy, hkey, hcancelled, hplace, hz, hstage, hleader, hzkey⟩ :=
    h.leading hr hx hleading
  have hran : z.ran = true := hr.allows_of_eq hz hstage
  have hknown : s.group x.key.name = some f := by
    rw [← hzkey]
    exact hr.aloft f z hz (by rw [hstage]; trivial)
  have hself : ∀ w ∈ c.calls, w.id = x.id → w = x := fun w hw =>
    List.inj_on_of_nodup_map h.nodup hw hx
  obtain ⟨y', hleaves, hkey', hcancelled', hplace'⟩ := leaves isCancelled (s := landed s f z o)
    (z := { z with stage := .arrived o }) hy hplace (setFlight_flights_self ..) hran rfl
  have hrun := (lands isCancelled hz hstage o).trans hleaves
  have hb := beside_setCaller (landed s f z o) x.id y'
  -- the flight has landed and its leader has come back; the others are owed the outcome
  have howed : Indebted asked (made ++ (o.toOption.map fun p => (x.key, p)).toList) o
      (c.joiners x.key.name) (c.land x o) ((landed s f z o).setCaller x.id y') := by
    refine ⟨(h.toAgrees.land hz hzkey o).setCaller hy y' hkey', ?_, fun w hw hmem => ?_,
      fun w hw hmem => ?_⟩
    · exact nodup_replaced h.nodup (map_calls_eq h.nodup hx _) rfl
    · obtain ⟨u, hu, hjoined, hname, huid⟩ := mem_joiners.1 hmem
      have hne : u.id ≠ x.id := fun heq => by
        rw [hself u hu heq, hleading] at hjoined
        cases hjoined
      rcases mem_replaced (map_calls_eq h.nodup hx _) hw with rfl | ⟨hw, _⟩
      · exact absurd huid hne
      · rw [← List.inj_on_of_nodup_map h.nodup hu hw huid]
        exact ((h.stands u hu).owed hjoined (hname ▸ hknown) o).beside hb hne
    · rcases mem_replaced (map_calls_eq h.nodup hx _) hw with rfl | ⟨hw, hwid⟩
      · exact ⟨y', setCaller_callers_self .., hkey'.trans hkey, hcancelled'.trans hcancelled,
          hcancelled ▸ hplace'⟩
      · have hne : z.leader ≠ w.id := fun heq => hwid (heq.symm.trans hleader)
        refine ((h.stands w hw).land hr hz hne ?_ o).beside hb hwid
        exact fun hjoined hname =>
          hmem (mem_joiners.2 ⟨w, hw, hjoined, hname.trans (by rw [hzkey]), rfl⟩)
  obtain ⟨t, hrun', ht⟩ := howed.settled isCancelled (hr.run hrun)
    (h.nodup.sublist (List.filter_sublist.map Call.id))
  rw [compiled_eq_foldl isCancelled hcall]
  exact ⟨t, hrun.trans hrun', ht⟩

/-! ## Runs -/

theorem represents_empty (limit : Int) :
    Represents [] [] (empty limit : ProgramCache P ε) (start limit) where
  programs := rfl
  compiles := rfl
  group name := by simp [start, empty]
  flights f z hz := by cases hz
  room := ⟨0, fun _ _ => rfl⟩
  callers id y hy := by cases hy
  nodup := List.nodup_nil
  stands x hx := by cases hx

/-- **A call begins** in a run of critical sections. -/
theorem Represents.begin (isCancelled : ε → Bool) (h : Represents asked made c s) (hr : s.Routed)
    (hid : id ∉ asked.map Prod.fst) (key : ProgramKey) :
    ∃ t, ReflTransGen (Step isCancelled) s t ∧
      Represents (asked ++ [(id, key)]) made (c.begin id key) t := by
  have hfresh : s.callers id = none := by
    by_contra hne
    obtain ⟨y, hy⟩ := Option.ne_none_iff_exists'.1 hne
    exact hid (List.mem_map_of_mem (h.callers id y hy))
  have hcall : Step isCancelled s (s.setCaller id { key }) := .call key hfresh
  have hagrees : Agrees (asked ++ [(id, key)]) made c (s.setCaller id { key }) := by
    refine ⟨h.programs, h.compiles, h.group, h.flights, h.room, fun i y hy => ?_⟩
    rcases setCaller_callers_eq_some.1 hy with ⟨rfl, rfl⟩ | ⟨_, hy⟩
    · exact List.mem_append_right _ (List.mem_singleton_self _)
    · exact List.mem_append_left _ (h.callers i y hy)
  let x : Call P ε := { id, key, phase := .joined }
  obtain ⟨t, hrun, hagrees', hstands, hb⟩ := hagrees.ask (x := x) isCancelled (hr.step hcall)
    (setCaller_callers_self ..) rfl rfl rfl rfl
  obtain ⟨hcalls, hlabel, _⟩ := (ask_asks c x).fields
  have hne : ∀ z ∈ c.calls, z.id ≠ id := by
    rintro z hz rfl
    obtain ⟨y, hy, _⟩ := h.stands z hz
    rw [hfresh] at hy
    cases hy
  refine ⟨t, .head hcall hrun, ⟨hagrees'.programs, hagrees'.compiles, hagrees'.group,
    hagrees'.flights, hagrees'.room, hagrees'.callers⟩, ?_, fun z hz => ?_⟩
  · show (((c.ask x).2.calls ++ [(c.ask x).1]).map Call.id).Nodup
    rw [List.map_append, hcalls, List.map_singleton, List.nodup_append]
    refine ⟨h.nodup, List.nodup_singleton _, fun i hi j hj => ?_⟩
    obtain ⟨z, hz, rfl⟩ := List.mem_map.1 hi
    rw [List.mem_singleton.1 hj, show (c.ask x).1.id = id from congrArg Prod.fst hlabel]
    exact hne z hz
  · have hz : z ∈ (c.ask x).2.calls ++ [(c.ask x).1] := hz
    rcases List.mem_append.1 hz with hz | hz
    · rw [hcalls] at hz
      exact ((h.stands z hz).beside (beside_setCaller ..) (hne z hz)).beside hb (hne z hz)
    · rw [List.mem_singleton.1 hz]
      exact hstands

theorem modifyCall_of_none (h : c.call? id = none) (g : Call P ε → Call P ε) :
    c.modifyCall id g = c := by
  have hcalls : (c.calls.map fun x => if x.id = id then g x else x) = c.calls.map fun x => x := by
    refine List.map_congr_left fun x hx => if_neg ?_
    rintro rfl
    obtain ⟨z, hz⟩ := exists_call? hx
    rw [h] at hz
    cases hz
  rw [List.map_id'] at hcalls
  unfold modifyCall
  rw [hcalls]

/-- **A caller loses interest** in a run of critical sections. -/
theorem Represents.cancel (isCancelled : ε → Bool) (h : Represents asked made c s) (id : Nat) :
    ∃ t, ReflTransGen (Step isCancelled) s t ∧ Represents asked made (c.cancel id) t := by
  cases hcall : c.call? id with
  | none =>
    have hsame : c.cancel id = c := modifyCall_of_none hcall _
    rw [hsame]
    exact ⟨s, .refl, h⟩
  | some x =>
    obtain ⟨hx, rfl⟩ := mem_of_call? hcall
    obtain ⟨y, hy, hkey, hcancelled, hphase⟩ := h.stands x hx
    have hcancel : Step isCancelled s (s.setCaller x.id { y with cancelled := true }) := .cancel hy
    have hagrees := h.toAgrees.setCaller hy { y with cancelled := true } rfl
    have hb := beside_setCaller s x.id { y with cancelled := true }
    obtain ⟨i, key, cancelled, ran, phase⟩ := x
    cases phase with
    | joined =>
      obtain ⟨_, f, hplace, _⟩ := hphase
      have hleave : Step isCancelled (s.setCaller i { y with cancelled := true }) _ :=
        .leave (c := { y with cancelled := true }) (setCaller_callers_self ..) hplace rfl
      refine ⟨_, .tail (.single hcancel) hleave, h.modifyCall hx _ rfl
        (hagrees.setCaller (setCaller_callers_self ..)
          { y with cancelled := true, place := .returned none (.error .cancelled) false } rfl)
        (hb.trans (beside_setCaller ..)) ?_⟩
      exact ⟨_, setCaller_callers_self .., hkey, rfl, none, rfl⟩
    | leading =>
      refine ⟨_, .single hcancel, h.modifyCall hx _ rfl hagrees hb ?_⟩
      exact ⟨_, setCaller_callers_self .., hkey, rfl, hphase⟩
    | returned r =>
      refine ⟨_, .single hcancel, h.modifyCall hx _ rfl hagrees hb ?_⟩
      exact ⟨_, setCaller_callers_self .., hkey, rfl, hphase⟩

theorem Represents.forget (h : Represents asked made c s) (id : Nat) :
    Represents asked made (c.forget id) s where
  toAgrees := ⟨h.programs, h.compiles, h.group, h.flights, h.room, h.callers⟩
  nodup := h.nodup.sublist (List.filter_sublist.map Call.id)
  stands x hx := h.stands x (List.mem_of_mem_filter hx)

theorem Represents.of_programs (h : Represents asked made c s) (programs : Lru ProgramKey P) :
    Represents asked made { c with programs } { s with programs } where
  toAgrees := h.toAgrees.of_programs programs
  nodup := h.nodup
  stands := h.stands

/-- **Every run of the operations is a run of critical sections**, and ends where the cache says. -/
theorem Run.represented {isCancelled : ε → Bool} {limit : Int}
    (h : Run isCancelled limit asked made c) :
    ∃ s, Reachable isCancelled limit s ∧ Represents asked made c s := by
  induction h with
  | start => exact ⟨_, .refl, represents_empty limit⟩
  | begin _ id hid key ih =>
    obtain ⟨s, hs, hrep⟩ := ih
    obtain ⟨t, hrun, ht⟩ := hrep.begin isCancelled hs.routed hid key
    exact ⟨t, hs.trans hrun, ht⟩
  | compiled _ hx hleading o ih =>
    obtain ⟨s, hs, hrep⟩ := ih
    obtain ⟨t, hrun, ht⟩ := hrep.compiled isCancelled hs.routed hx hleading o
    exact ⟨t, hs.trans hrun, ht⟩
  | cancel _ id ih =>
    obtain ⟨s, hs, hrep⟩ := ih
    obtain ⟨t, hrun, ht⟩ := hrep.cancel isCancelled id
    exact ⟨t, hs.trans hrun, ht⟩
  | forget _ id ih =>
    obtain ⟨s, hs, hrep⟩ := ih
    exact ⟨s, hs, hrep.forget id⟩
  | lookup _ key ih =>
    obtain ⟨s, hs, hrep⟩ := ih
    refine ⟨_, hs.tail (.lookup key), ?_⟩
    rw [hrep.programs]
    exact hrep.of_programs _
  | clear _ ih =>
    obtain ⟨s, hs, hrep⟩ := ih
    refine ⟨_, hs.tail .clear, ?_⟩
    rw [hrep.programs]
    exact hrep.of_programs _

/-- What was compiled in the traffic was made by the operations. -/
theorem Agrees.mem_made (h : Agrees asked made c s) {key : ProgramKey} {p : P} (hr : s.Routed)
    (hp : s.Compiled key p) : (key, p) ∈ made := by
  obtain ⟨id, y, f, x, hy, hkey, hx, hleader, hran, hout⟩ := hp
  have hkey' : y.key = x.key := hr.key_leader hx (by rw [hleader, hy])
  rcases h.flights f x hx with hstage | ⟨o, hstage, hmade⟩
  · rw [hstage] at hout
    cases hout
  · rw [hstage] at hout
    cases hout
    rw [← hkey, hkey']
    exact hmade p rfl hran

/-- Two calls for keys of one name: the first leads, and the second joins its flight. -/
theorem exists_run_joined (isCancelled : ε → Bool) (limit : Int) {k k' : ProgramKey}
    (hname : k.name = k'.name) : ∃ c : ProgramCache P ε,
      Run isCancelled limit [(0, k), (1, k')] [] c ∧
      c.calls = [{ id := 0, key := k, ran := true, phase := .leading },
        { id := 1, key := k', phase := .joined }] := by
  have hempty : (empty limit : ProgramCache P ε).programs.entries[k]? = none := by
    simp [empty, Lru.empty]
  obtain ⟨programs, hleads⟩ := begin_miss hempty rfl 0
  have hfirst : Run isCancelled limit _ [] ((empty limit : ProgramCache P ε).begin 0 k) :=
    Run.start.begin 0 List.not_mem_nil k
  have hvacant : ((empty limit : ProgramCache P ε).begin 0 k).programs.Holds fun _ _ => False :=
    holds_begin (Lru.holds_empty _) 0 k
  rw [hleads] at hfirst hvacant
  -- nothing was stored, so that the second call does not find its program
  have hmiss : (programs.get k').1 = none :=
    Option.eq_none_iff_forall_ne_some.2 fun q hq => (hvacant.get k').2 q hq
  have hsecond := hfirst.begin 1 (by simp) k'
  rw [begin, ask_of_flight hmiss ⟨(k.name, 0), List.mem_singleton_self _, hname⟩] at hsecond
  exact ⟨_, hsecond, rfl⟩

end

end ProgramCache

end KernelGraph
