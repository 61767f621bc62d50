/-
  One caller's cancellation does not reach another.

  A flight runs the compile function of the call that registered it, with that call's context, so
  the compile may come back cancelled although the calls that joined it never were.

  1. A step moves a call in one of few ways (`Turn`), and never takes a cancellation back.
  2. A call that was not cancelled comes back with a cancellation only if its own function was
     called and came back with it (`Guarded`).
  3. A call that was not cancelled, and joined a flight that was, asks again.  It finds its program,
     or joins a flight that is registered by then, or registers one of its own.
  4. So it never comes back with the outcome of that flight, however many flights it joins
     afterwards.

  What counts is what the compile has come back with.  If the caller that leads has lost interest,
  and its compile fails for another reason, the calls that joined come back with this failure.
-/
import Mathlib.Data.Set.Finite.Lattice
import KernelGraph.Proofs.Cache.Collapse

namespace KernelGraph

variable {P ε : Type}

/-- The call yields no program because somebody lost interest. -/
def CallError.IsCancellation (isCancelled : ε → Bool) : CallError ε → Prop
  | cancelled => True
  | failed e => isCancelled e = true

namespace Traffic

/-! ## How a call moves -/

/-- What one critical section does to a call. -/
inductive Turn (isCancelled : ε → Bool) (s t : Traffic P ε) (id : Nat) (c : Caller P ε) :
    Caller P ε → Prop
  | stay : Turn isCancelled s t id c c
  | cancel : Turn isCancelled s t id c { c with cancelled := true }
  | hit {p : P} (hplace : c.place = .looking) (hget : (s.programs.get c.key).1 = some p) :
      Turn isCancelled s t id c { c with place := .returned none (.ok p) true }
  | miss (hplace : c.place = .looking) (hget : (s.programs.get c.key).1 = none) :
      Turn isCancelled s t id c { c with place := .missing }
  | join {f : Nat} {leads : Bool} (hplace : c.place = .missing)
      (hgroup : s.group c.key.name = some f) :
      Turn isCancelled s t id c { c with place := .waiting f leads false }
  | depart {f : Nat} {leads : Bool} (hplace : c.place = .missing)
      (hgroup : s.group c.key.name = none) (hfresh : s.flights f = none)
      (hx : t.flights f = some { key := c.key, leader := id }) :
      Turn isCancelled s t id c { c with place := .waiting f leads true }
  | receive {f : Nat} {x : Flight P ε} {o : Except ε P} {leads registered : Bool}
      (hplace : c.place = .waiting f leads registered) (hx : s.flights f = some x)
      (hstage : x.stage = .arrived o) :
      Turn isCancelled s t id c (c.take isCancelled f (registered && x.ran) o)
  | leave (hcancelled : c.cancelled = true) (hplace : c.place.awaits? ≠ none) :
      Turn isCancelled s t id c { c with place := .returned none (.error .cancelled) false }
  | drain {f : Nat} (hcancelled : c.cancelled = true) (hplace : c.place.awaits? = some f) :
      Turn isCancelled s t id c { c with place := .draining f }
  | drained {f : Nat} (hplace : c.place = .draining f) :
      Turn isCancelled s t id c { c with place := .returned none (.error .cancelled) false }

section
variable {isCancelled : ε → Bool} {s t : Traffic P ε} {id f : Nat} {c c' : Caller P ε}
  {x : Flight P ε}

/-- A call that has moved, and one that has not. -/
theorem turn_setCaller {d : Caller P ε} {i : Nat} {u : Traffic P ε}
    (hcallers : u.callers = s.callers)
    (hd : s.callers i = some d) {d' : Caller P ε} (hturn : Turn isCancelled s t i d d')
    (hc' : (u.setCaller i d').callers id = some c') :
    ∃ c, s.callers id = some c ∧ Turn isCancelled s t id c c' := by
  rcases setCaller_callers_eq_some.1 hc' with ⟨rfl, rfl⟩ | ⟨_, hc'⟩
  · exact ⟨d, hd, hturn⟩
  · exact ⟨c', hcallers ▸ hc', .stay⟩

/-- **A step moves a call** in one of these ways, if the call was there. -/
theorem Step.turn (h : Step isCancelled s t) (hc' : t.callers id = some c') :
    (s.callers id = none ∧ ∃ key, c' = { key }) ∨
      ∃ c, s.callers id = some c ∧ Turn isCancelled s t id c c' := by
  cases h with
  | call key hfresh =>
    rcases setCaller_callers_eq_some.1 hc' with ⟨rfl, rfl⟩ | ⟨_, hc'⟩
    · exact .inl ⟨hfresh, key, rfl⟩
    · exact .inr ⟨c', hc', .stay⟩
  | cancel hc => exact .inr (turn_setCaller rfl hc .cancel hc')
  | hit hc hplace hget => exact .inr (turn_setCaller rfl hc (.hit hplace hget) hc')
  | miss hc hplace hget => exact .inr (turn_setCaller rfl hc (.miss hplace hget) hc')
  | join hc hplace hgroup => exact .inr (turn_setCaller rfl hc (.join hplace hgroup) hc')
  | depart hc hplace hgroup hfresh =>
    exact .inr (turn_setCaller rfl hc
      (.depart hplace hgroup hfresh (setFlight_flights_self ..)) hc')
  | receive hc hplace hx hstage =>
    exact .inr (turn_setCaller rfl hc (.receive hplace hx hstage) hc')
  | leave hc hplace hcancelled =>
    exact .inr (turn_setCaller rfl hc (.leave hcancelled (by rw [hplace]; exact nofun)) hc')
  | drain hc hplace hcancelled =>
    exact .inr (turn_setCaller rfl hc (.drain hcancelled (by rw [hplace]; rfl)) hc')
  | drained hc hplace hx hstage => exact .inr (turn_setCaller rfl hc (.drained hplace) hc')
  | lookup _ | clear | find _ _ _ | compile _ _ _ | comeBack _ _ _ | settle _ _ | land _ _
  | arrive _ _ => exact .inr ⟨c', hc', .stay⟩

/-- A step that a call sees is one of its turns. -/
theorem Step.turn_of_eq_some (h : Step isCancelled s t) (hc : s.callers id = some c)
    (hc' : t.callers id = some c') : Turn isCancelled s t id c c' := by
  rcases h.turn hc' with ⟨hnone, _⟩ | ⟨d, hd, hturn⟩
  · rw [hc] at hnone
    cases hnone
  · rw [hc] at hd
    cases hd
    exact hturn

/-- A cancellation is not taken back. -/
theorem Turn.cancelled_of_cancelled (h : Turn isCancelled s t id c c') (hc : c.cancelled = true) :
    c'.cancelled = true := by
  cases h with
  | cancel => rfl
  | receive hplace hx hstage =>
    rename_i f x o leads registered
    rw [Caller.take_eq_returned fun _ _ => .inr (.inr hc)]
    exact hc
  | _ => exact hc

/-- A call that is not cancelled now was not cancelled before. -/
theorem Turn.active (h : Turn isCancelled s t id c c') (hactive : c'.cancelled = false) :
    c.cancelled = false := by
  by_contra hcancelled
  rw [Bool.not_eq_false] at hcancelled
  rw [h.cancelled_of_cancelled hcancelled] at hactive
  cases hactive

/-! ## Flights are kept -/

/-- What a step keeps of a flight: its leader, that its function was called, and its outcome once it
    has arrived. -/
structure Flight.Kept (x y : Flight P ε) : Prop where
  leader : y.leader = x.leader
  ran : x.ran = true → y.ran = true
  arrived : ∀ o, x.stage = .arrived o → y.stage = .arrived o

theorem Flight.Kept.refl (x : Flight P ε) : x.Kept x := ⟨rfl, id, fun _ => id⟩

theorem Flight.Kept.trans {x y z : Flight P ε} (h : x.Kept y) (h' : y.Kept z) : x.Kept z :=
  ⟨h'.leader.trans h.leader, h'.ran ∘ h.ran, fun o => h'.arrived o ∘ h.arrived o⟩

/-- A flight that has not arrived goes on. -/
theorem kept_setFlight {u : Traffic P ε} (hu : u.flights = s.flights) (hx : s.flights f = some x)
    (hfar : ¬ x.stage.HasArrived) {ran : Bool} (hran : x.ran = true → ran = true)
    (stage : Stage P ε) {g : Nat} {z : Flight P ε} (hz : s.flights g = some z) :
    ∃ z', (u.setFlight f { x with ran, stage }).flights g = some z' ∧ z.Kept z' := by
  by_cases hg : g = f
  · subst hg
    rw [hx] at hz
    cases hz
    exact ⟨_, setFlight_flights_self .., rfl, hran, fun o ho => absurd (ho ▸ trivial) hfar⟩
  · exact ⟨z, by rw [setFlight_flights_of_ne u _ hg, hu, hz], .refl z⟩

/-- A step keeps the flights. -/
theorem Step.kept (h : Step isCancelled s t) (hx : s.flights f = some x) :
    ∃ y, t.flights f = some y ∧ x.Kept y := by
  cases h with
  | depart hc hplace hgroup hfresh =>
    exact ⟨x, setFlight_flights_of_fresh hfresh hx _, .refl x⟩
  | compile hz hstage _ =>
    exact kept_setFlight rfl hz (by rw [hstage]; exact not_false) (fun _ => rfl) _ hx
  | find hz hstage _ | comeBack hz hstage _ | settle hz hstage | land hz hstage
  | arrive hz hstage => exact kept_setFlight rfl hz (by rw [hstage]; exact not_false) id _ hx
  | _ => exact ⟨x, hx, .refl x⟩

/-- A run keeps the flights. -/
theorem kept_of_run (h : Relation.ReflTransGen (Step isCancelled) s t) (hx : s.flights f = some x) :
    ∃ y, t.flights f = some y ∧ x.Kept y := by
  induction h with
  | refl => exact ⟨x, hx, .refl x⟩
  | tail _ hstep ih =>
    obtain ⟨y, hy, hkept⟩ := ih
    obtain ⟨z, hz, hkept'⟩ := hstep.kept hy
    exact ⟨z, hz, hkept.trans hkept'⟩

/-- A step registers one flight at most. -/
theorem Step.finite_flights (h : Step isCancelled s t) (hs : {f | s.flights f ≠ none}.Finite) :
    {f | t.flights f ≠ none}.Finite := by
  have hset : ∀ (u : Traffic P ε) (g : Nat) (z : Flight P ε), u.flights = s.flights →
      {f | (u.setFlight g z).flights f ≠ none}.Finite := by
    intro u g z hu
    refine (hs.insert g).subset fun f hf => ?_
    by_cases hg : f = g
    · exact .inl hg
    · exact .inr (by rwa [Set.mem_ofPred_eq, setFlight_flights_of_ne u z hg, hu] at hf)
  cases h with
  | depart _ _ _ _ | find _ _ _ | compile _ _ _ | comeBack _ _ _ | settle _ _ | land _ _
  | arrive _ _ => exact hset _ _ _ rfl
  | _ => exact hs

/-! ## No cancellation from elsewhere -/

/-- A call that was not cancelled is not at a place for cancelled calls, and did not come back with
    a cancellation, unless it leads the flight that has called its function. -/
def Place.Guarded (isCancelled : ε → Bool) (flights : Nat → Option (Flight P ε)) (id : Nat) :
    Place P ε → Prop
  | draining _ => False
  | returned _ (.error .cancelled) _ => False
  | returned flight (.error (.failed e)) _ => isCancelled e = true →
      ∃ f x, flight = some f ∧ flights f = some x ∧ x.leader = id ∧ x.ran = true
  | _ => True

/-- Calls that were not cancelled are guarded. -/
def Guarded (isCancelled : ε → Bool) (s : Traffic P ε) : Prop :=
  ∀ id c, s.callers id = some c → c.cancelled = false → c.place.Guarded isCancelled s.flights id

theorem Place.Guarded.mono {flights flights' : Nat → Option (Flight P ε)} {place : Place P ε}
    (h : place.Guarded isCancelled flights id)
    (hkept : ∀ f x, flights f = some x → ∃ y, flights' f = some y ∧ x.Kept y) :
    place.Guarded isCancelled flights' id := by
  unfold Guarded at h ⊢
  split at h
  · exact h
  · exact h
  · intro he
    obtain ⟨f, x, hf, hx, hleader, hran⟩ := h he
    obtain ⟨y, hy, hxy⟩ := hkept f x hx
    exact ⟨f, y, hf, hy, hxy.leader.trans hleader, hxy.ran hran⟩
  · trivial

/-- **A call that is given an outcome** looks again if it was cancelled elsewhere. -/
theorem Place.Guarded.take {leads registered : Bool} {o : Except ε P} (hr : s.Routed)
    (hc : s.callers id = some c) (hactive : c.cancelled = false)
    (hplace : c.place = .waiting f leads registered) (hx : s.flights f = some x) :
    (c.take isCancelled f (registered && x.ran) o).place.Guarded isCancelled s.flights id := by
  obtain ⟨_, x', hx', _, hled⟩ := hr.waiting hc hplace
  rw [hx] at hx'
  cases hx'
  cases o with
  | ok p => trivial
  | error e =>
    unfold Caller.take
    dsimp only
    split
    · trivial
    · rename_i hown
      intro he
      have hran : (registered && x.ran) = true := by simpa [he, hactive] using hown
      obtain ⟨hregistered, hran⟩ := Bool.and_eq_true_iff.1 hran
      exact ⟨f, x, rfl, hx, hled.1 hregistered, hran⟩

/-- A turn of a guarded call leads to a guarded place. -/
theorem Turn.guarded (h : Turn isCancelled s t id c c') (hr : s.Routed) (hc : s.callers id = some c)
    (hactive : c'.cancelled = false)
    (hguarded : c.cancelled = false → c.place.Guarded isCancelled s.flights id) :
    c'.place.Guarded isCancelled s.flights id := by
  have hbefore := h.active hactive
  cases h with
  | stay => exact hguarded hbefore
  | cancel => cases hactive
  | hit _ _ | miss _ _ | join _ _ | depart _ _ _ _ => trivial
  | receive hplace hx hstage => exact .take hr hc hbefore hplace hx
  | leave hcancelled _ | drain hcancelled _ =>
    rw [hbefore] at hcancelled
    cases hcancelled
  | drained hplace =>
    have hfalse := hguarded hbefore
    rw [hplace] at hfalse
    exact hfalse.elim

theorem Guarded.step (h : s.Guarded isCancelled) (hr : s.Routed) (hstep : Step isCancelled s t) :
    t.Guarded isCancelled := by
  intro id c' hc' hactive
  rcases hstep.turn hc' with ⟨_, key, rfl⟩ | ⟨c, hc, hturn⟩
  · trivial
  · exact (hturn.guarded hr hc hactive (h id c hc)).mono fun f x hx => hstep.kept hx

/-- **Every reachable state is guarded.** -/
theorem Reachable.guarded {limit : Int} (h : Reachable isCancelled limit s) :
    s.Guarded isCancelled := by
  induction h with
  | refl => exact fun id c hc => by cases hc
  | tail hrun hstep ih => exact ih.step (Reachable.routed hrun) hstep

/-- A call that was not cancelled and came back with a cancellation has called its own function,
    which came back with it. -/
theorem Guarded.own (h : s.Guarded isCancelled) (hr : s.Routed) (hc : s.callers id = some c)
    (hactive : c.cancelled = false) {flight : Option Nat} {e : CallError ε} {hit : Bool}
    (hplace : c.place = .returned flight (.error e) hit) (he : e.IsCancellation isCancelled) :
    ∃ f x e', flight = some f ∧ s.flights f = some x ∧ x.leader = id ∧ x.key = c.key ∧
      x.ran = true ∧ x.stage = .arrived (.error e') ∧ e = .failed e' := by
  have hguarded := h id c hc hactive
  rw [hplace] at hguarded
  cases e with
  | cancelled => exact hguarded.elim
  | failed e =>
    obtain ⟨f, x, rfl, hx, rfl, hran⟩ := hguarded he
    obtain ⟨x', o, hx', hstage, _, hresult, _⟩ := hr.returned hc hplace
    rw [hx] at hx'
    cases hx'
    refine ⟨f, x, e, rfl, hx, rfl, (hr.key_leader hx hc).symm, hran, ?_, rfl⟩
    cases o with
    | ok p => cases hresult
    | error e' =>
      cases hresult
      exact hstage

/-! ## Asking again -/

/-- **A call that joined a flight which comes back cancelled** looks again. -/
theorem Routed.take_of_cancelled (hr : s.Routed) (hc : s.callers id = some c)
    (hactive : c.cancelled = false) {leads registered : Bool}
    (hplace : c.place = .waiting f leads registered) (hx : s.flights f = some x)
    (hother : x.leader ≠ id) {e : ε} (he : isCancelled e = true) :
    c.take isCancelled f (registered && x.ran) (.error e) = { c with place := .looking } := by
  obtain ⟨_, x', hx', _, hled⟩ := hr.waiting hc hplace
  rw [hx] at hx'
  cases hx'
  have hjoined : registered = false := Bool.eq_false_iff.2 fun hled' => hother (hled.1 hled')
  exact if_pos (by simp [hjoined, he, hactive])

/-- Nothing else happens to it, as long as it is not cancelled. -/
theorem Turn.again (h : Turn isCancelled s t id c c') (hr : s.Routed) (hc : s.callers id = some c)
    (hactive : c'.cancelled = false) {leads registered : Bool}
    (hplace : c.place = .waiting f leads registered) (hx : s.flights f = some x)
    (hother : x.leader ≠ id) {e : ε} (hstage : x.stage = .arrived (.error e))
    (he : isCancelled e = true) : c' = c ∨ c' = { c with place := .looking } := by
  have hbefore := h.active hactive
  cases h with
  | stay => exact .inl rfl
  | cancel => cases hactive
  | hit hplace' _ | miss hplace' _ | join hplace' _ | depart hplace' _ _ _ | drained hplace' =>
    rw [hplace] at hplace'
    cases hplace'
  | receive hplace' hx' hstage' =>
    rw [hplace] at hplace'
    cases hplace'
    rw [hx] at hx'
    cases hx'
    rw [hstage] at hstage'
    cases hstage'
    exact .inr (hr.take_of_cancelled hc hbefore hplace hx hother he)
  | leave hcancelled _ | drain hcancelled _ =>
    rw [hbefore] at hcancelled
    cases hcancelled

/-- A call that looks finds its program or misses it. -/
theorem Turn.looks (h : Turn isCancelled s t id c c') (hactive : c'.cancelled = false)
    (hplace : c.place = .looking) : c' = c ∨
      (∃ p, (s.programs.get c.key).1 = some p ∧
        c' = { c with place := .returned none (.ok p) true }) ∨
      (s.programs.get c.key).1 = none ∧ c' = { c with place := .missing } := by
  cases h with
  | stay => exact .inl rfl
  | cancel => cases hactive
  | hit _ hget => exact .inr (.inl ⟨_, hget, rfl⟩)
  | miss _ hget => exact .inr (.inr ⟨hget, rfl⟩)
  | join hplace' _ | depart hplace' _ _ _ | receive hplace' _ _ | drained hplace' =>
    rw [hplace] at hplace'
    cases hplace'
  | leave _ hawaits => exact absurd (by rw [hplace]; rfl) hawaits
  | drain _ hawaits =>
    rw [hplace] at hawaits
    cases hawaits

/-- A call that has missed its program joins the flight of its name that is registered, or registers
    one for its own key and with its own function. -/
theorem Turn.misses (h : Turn isCancelled s t id c c') (hactive : c'.cancelled = false)
    (hplace : c.place = .missing) : c' = c ∨ ∃ f leads,
      (s.group c.key.name = some f ∧ c' = { c with place := .waiting f leads false }) ∨
      s.group c.key.name = none ∧ s.flights f = none ∧
        t.flights f = some { key := c.key, leader := id } ∧
        c' = { c with place := .waiting f leads true } := by
  cases h with
  | stay => exact .inl rfl
  | cancel => cases hactive
  | join _ hgroup => exact .inr ⟨_, _, .inl ⟨hgroup, rfl⟩⟩
  | depart _ hgroup hfresh hx => exact .inr ⟨_, _, .inr ⟨hgroup, hfresh, hx, rfl⟩⟩
  | hit hplace' _ | miss hplace' _ | receive hplace' _ _ | drained hplace' =>
    rw [hplace] at hplace'
    cases hplace'
  | leave _ hawaits => exact absurd (by rw [hplace]; rfl) hawaits
  | drain _ hawaits =>
    rw [hplace] at hawaits
    cases hawaits

/-- There is always room for another flight. -/
theorem Reachable.room {limit : Int} (h : Reachable isCancelled limit s) :
    {f | s.flights f ≠ none}.Finite := by
  induction h with
  | refl => simp [start]
  | tail _ hstep ih => exact hstep.finite_flights ih

/-- The call has asked, and was not disturbed: its program was there; or it waits for the flight
    that was registered; or it has registered a flight, and its own function is running. -/
inductive Asked (s t : Traffic P ε) (id : Nat) (c : Caller P ε) : Prop
  | found {p : P} (hget : (s.programs.get c.key).1 = some p)
      (hc : t.callers id = some { c with place := .returned none (.ok p) true })
  | joined {f : Nat} {x : Flight P ε} (hget : (s.programs.get c.key).1 = none)
      (hgroup : s.group c.key.name = some f) (hx : t.flights f = some x) (hup : x.stage.IsAloft)
      (hc : t.callers id = some { c with place := .waiting f false false })
  | departed {f : Nat} (hget : (s.programs.get c.key).1 = none) (hgroup : s.group c.key.name = none)
      (hx : t.flights f = some { key := c.key, leader := id, ran := true, stage := .compiling })
      (hc : t.callers id = some { c with place := .waiting f true true })

/-- **A call that looks can ask**, whatever the others have done. -/
theorem Reachable.asks {limit : Int} (h : Reachable isCancelled limit s)
    (hc : s.callers id = some c) (hplace : c.place = .looking) :
    ∃ t, Relation.ReflTransGen (Step isCancelled) s t ∧ Asked s t id c := by
  have hr := h.routed
  cases hget : (s.programs.get c.key).1 with
  | some p => exact ⟨_, .single (.hit hc hplace hget), .found hget (setCaller_callers_self ..)⟩
  | none =>
    have hmiss : Step isCancelled s _ := .miss hc hplace hget
    have hr' := hr.step hmiss
    cases hgroup : s.group c.key.name with
    | some f =>
      have hknown : c.key.name ∈ s.inflight := (hr.inflight _).2 (by rw [hgroup]; simp)
      obtain ⟨x, hx, _, hup⟩ := hr.group _ f hgroup
      refine ⟨_, .tail (.single hmiss) (.join (setCaller_callers_self ..) rfl hgroup),
        .joined hget hgroup hx hup ?_⟩
      rw [setCaller_callers_self]
      simp [hknown]
    | none =>
      obtain ⟨f, hf⟩ := h.room.exists_notMem
      have hunknown : c.key.name ∉ s.inflight := fun hmem => (hr.inflight _).1 hmem hgroup
      refine ⟨_, .trans (.single hmiss) (ProgramCache.departs isCancelled
        (setCaller_callers_self ..) rfl hgroup hunknown (not_not.1 hf) (Lru.get_get_of_none hget)),
        .departed hget hgroup (setFlight_flights_self ..) (setCaller_callers_self ..)⟩

/-- **What a call that was not cancelled comes back with**: a program that it found, or the outcome
    of a flight that was not cancelled, or that has called the call's own function. -/
theorem Guarded.returned (h : s.Guarded isCancelled) (hr : s.Routed) (hs : s.Sound)
    (hc : s.callers id = some c) (hactive : c.cancelled = false) {flight : Option Nat}
    {result : Except (CallError ε) P} {hit : Bool}
    (hplace : c.place = .returned flight result hit) :
    (flight = none ∧ ∃ p, result = .ok p ∧ s.Compiled c.key p) ∨
      ∃ g y o, flight = some g ∧ s.flights g = some y ∧ y.key.name = c.key.name ∧
        y.stage = .arrived o ∧ result = o.mapError .failed ∧
        (y.leader = id ∧ y.ran = true ∨ ∀ e, o = .error e → isCancelled e = false) := by
  cases flight with
  | none =>
    have hfits := hr.fits id c hc
    rw [hplace] at hfits
    rcases hfits with ⟨_, p, rfl⟩ | ⟨_, rfl⟩
    · exact .inl ⟨rfl, p, rfl, hs.callers id c p hit hc hplace⟩
    · have hfalse := h id c hc hactive
      rw [hplace] at hfalse
      exact hfalse.elim
  | some g =>
    obtain ⟨y, o, hy, hstage, hname, hresult, _⟩ := hr.returned hc hplace
    refine .inr ⟨g, y, o, rfl, hy, hname, hstage, hresult, ?_⟩
    by_cases hcancelled : ∃ e, o = .error e ∧ isCancelled e = true
    · obtain ⟨e, rfl, he⟩ := hcancelled
      subst hresult
      obtain ⟨g', y', _, hg, hy', hleader, _, hran, _⟩ := h.own hr hc hactive hplace he
      cases hg
      rw [hy] at hy'
      cases hy'
      exact .inl ⟨hleader, hran⟩
    · exact .inr fun e he => Bool.eq_false_iff.2 fun hce => hcancelled ⟨e, he, hce⟩

/-! ## A caller that leads loses interest -/

/-- A compile comes back with an error after the call that leads was cancelled; another call, which
    was not, has joined the flight. -/
theorem exists_reachable_failed (isCancelled : ε → Bool) (limit : Int) (e : ε) :
    ∃ (s : Traffic P ε) (f : Nat) (x : Flight P ε) (c d : Caller P ε),
      Reachable isCancelled limit s ∧ s.flights f = some x ∧ x.leader = 0 ∧
      x.stage = .arrived (.error e) ∧ s.callers 0 = some c ∧ c.cancelled = true ∧
      s.callers 1 = some d ∧ d.cancelled = false ∧ d.place = .waiting f false false ∧
      s.group d.key.name = none ∧ (s.programs.get d.key).1 = none := by
  obtain ⟨s, f, x, c, d, hs, hx, hstage, _, hc, hplace, hd, hplace', hactive, hempty⟩ :=
    exists_reachable_waiting (P := P) isCancelled limit
  obtain ⟨_, x', hx', _, hled⟩ := hs.routed.waiting hc hplace
  obtain ⟨_, y, hy, hname, _⟩ := hs.routed.waiting hd hplace'
  rw [hx] at hx' hy
  cases hx'
  cases hy
  let s₁ := s.setCaller 0 { c with cancelled := true }
  have hlost : Step isCancelled s s₁ := .cancel hc
  have hc₁ : s₁.callers 0 = some { c with cancelled := true } := setCaller_callers_self ..
  have hd₁ : s₁.callers 1 = some d := (setCaller_callers_of_ne s _ Nat.one_ne_zero).trans hd
  let s₂ := ProgramCache.landed s₁ f x (.error e)
  have hlands : Relation.ReflTransGen (Step isCancelled) s₁ s₂ :=
    ProgramCache.lands isCancelled (s := s₁) hx hstage (.error e)
  refine ⟨s₂, f, _, _, d, (hs.tail hlost).trans hlands, setFlight_flights_self .., hled.1 rfl, rfl,
    hc₁, rfl, hd₁, hactive, hplace', ?_, hempty _⟩
  exact hname ▸ Function.update_self ..

/-! ## The law -/

/-- The call waits for a flight of another call, whose compile has come back cancelled. -/
structure LetDown (isCancelled : ε → Bool) (s : Traffic P ε) (id f : Nat) (c : Caller P ε) :
    Prop where
  caller : s.callers id = some c
  waits : ∃ leads registered, c.place = .waiting f leads registered
  flight : ∃ x e, s.flights f = some x ∧ x.leader ≠ id ∧ x.stage = .arrived (.error e) ∧
    isCancelled e = true

/-- **Nobody comes back with somebody else's cancellation.**  In every reachable state:

    * a call that was not cancelled and came back with a cancellation leads a flight for its key
      that has called its function, and the function came back with this cancellation;
    * a call that was not cancelled, and waits for a flight of another call that came back
      cancelled, can look again and, as long as it is not cancelled, can do nothing else;
    * from there it finds its program, or waits for the flight that was registered, or registers a
      flight with its own key and function; it can do so without the help of others, and in any case
      it does nothing else;
    * however long it takes, it never comes back with the outcome of the flight that let it down,
      but with a program that it found, or with the outcome of another flight, which was not
      cancelled or has called the call's own function.

    Every run of the operations ends in such a state. -/
theorem contains_cancellation (isCancelled : ε → Bool) (limit : Int) :
    (∀ s : Traffic P ε, Reachable isCancelled limit s →
      (∀ id c flight e hit, s.callers id = some c → c.cancelled = false →
        c.place = .returned flight (.error e) hit → e.IsCancellation isCancelled →
        ∃ f x e', flight = some f ∧ s.flights f = some x ∧ x.leader = id ∧ x.key = c.key ∧
          x.ran = true ∧ x.stage = .arrived (.error e') ∧ e = .failed e') ∧
      (∀ id f c, s.LetDown isCancelled id f c → c.cancelled = false →
        Step isCancelled s (s.setCaller id { c with place := .looking }) ∧
        (∀ t c', Step isCancelled s t → t.callers id = some c' → c'.cancelled = false →
          c' = c ∨ c' = { c with place := .looking }) ∧
        ∀ t c' flight result hit, Relation.ReflTransGen (Step isCancelled) s t →
          t.callers id = some c' → c'.cancelled = false → c'.place = .returned flight result hit →
          (flight = none ∧ ∃ p, result = .ok p ∧ t.Compiled c'.key p) ∨
            ∃ g y o, flight = some g ∧ g ≠ f ∧ t.flights g = some y ∧ y.key.name = c'.key.name ∧
              y.stage = .arrived o ∧ result = o.mapError .failed ∧
              (y.leader = id ∧ y.ran = true ∨ ∀ e, o = .error e → isCancelled e = false)) ∧
      (∀ id c, s.callers id = some c → c.place = .looking →
        (∃ t, Relation.ReflTransGen (Step isCancelled) s t ∧ Asked s t id c) ∧
        ∀ t c', Step isCancelled s t → t.callers id = some c' → c'.cancelled = false →
          c' = c ∨ (∃ p, (s.programs.get c.key).1 = some p ∧
            c' = { c with place := .returned none (.ok p) true }) ∨
          (s.programs.get c.key).1 = none ∧ c' = { c with place := .missing }) ∧
      ∀ id c, s.callers id = some c → c.place = .missing →
        ∀ t c', Step isCancelled s t → t.callers id = some c' → c'.cancelled = false →
          c' = c ∨ ∃ f leads,
            (s.group c.key.name = some f ∧ c' = { c with place := .waiting f leads false }) ∨
            s.group c.key.name = none ∧ s.flights f = none ∧
              t.flights f = some { key := c.key, leader := id } ∧
              c' = { c with place := .waiting f leads true }) ∧
    ∀ asked made (c : ProgramCache P ε), ProgramCache.Run isCancelled limit asked made c →
      ∃ s, Reachable isCancelled limit s ∧ ProgramCache.Represents asked made c s ∧
        ∀ x ∈ c.calls, ∀ e, x.cancelled = false → x.phase = .returned (.error e) →
          e.IsCancellation isCancelled → ∃ f y e', s.flights f = some y ∧ y.leader = x.id ∧
            y.key = x.key ∧ y.ran = true ∧ y.stage = .arrived (.error e') ∧ e = .failed e' := by
  refine ⟨fun s h => ⟨fun id c flight e hit hc hactive hplace he =>
      h.guarded.own h.routed hc hactive hplace he,
    fun id f c hlet hactive => ?_,
    fun id c hc hplace => ⟨h.asks hc hplace, fun t c' hstep hc' hactive =>
      (hstep.turn_of_eq_some hc hc').looks hactive hplace⟩,
    fun id c hc hplace t c' hstep hc' hactive =>
      (hstep.turn_of_eq_some hc hc').misses hactive hplace⟩, fun asked made c hrun => ?_⟩
  · obtain ⟨hc, ⟨leads, registered, hplace⟩, x, e, hx, hother, hstage, he⟩ := hlet
    have hr := h.routed
    refine ⟨?_, fun t c' hstep hc' hactive' => (hstep.turn_of_eq_some hc hc').again hr hc hactive'
      hplace hx hother hstage he, fun t c' flight result hit hrun hc' hactive' hplace' => ?_⟩
    · have hreceive : Step isCancelled s _ := .receive hc hplace hx hstage
      rwa [hr.take_of_cancelled hc hactive hplace hx hother he] at hreceive
    · have ht : Reachable isCancelled limit t := h.trans hrun
      rcases ht.guarded.returned ht.routed ht.sound hc' hactive' hplace' with hfound | hshared
      · exact .inl hfound
      · obtain ⟨g, y, o, hflight, hy, hname, hstage', hresult, hown⟩ := hshared
        refine .inr ⟨g, y, o, hflight, ?_, hy, hname, hstage', hresult, hown⟩
        -- a flight keeps its leader and, once it has arrived, its outcome
        rintro rfl
        obtain ⟨z, hz, hkept⟩ := kept_of_run hrun hx
        rw [hy] at hz
        cases hz
        rw [hkept.arrived _ hstage] at hstage'
        cases hstage'
        rcases hown with ⟨hown, _⟩ | hcalm
        · exact hother (hkept.leader.symm.trans hown)
        · exact absurd he (by rw [hcalm e rfl]; exact Bool.false_ne_true)
  · obtain ⟨s, h, hrep⟩ := hrun.represented
    refine ⟨s, h, hrep, fun x hx e hactive hphase he => ?_⟩
    obtain ⟨y, hy, hkey, hcancelled, hstands⟩ := hrep.stands x hx
    rw [hphase] at hstands
    obtain ⟨flight, hplace⟩ := hstands
    obtain ⟨f, z, e', _, hz, hleader, hkey', hran, hstage, hfailed⟩ :=
      h.guarded.own h.routed hy (hcancelled.trans hactive) hplace he
    exact ⟨f, z, e', hz, hleader, hkey'.trans hkey, hran, hstage, hfailed⟩

/-- A call that is let down looks again, and its own function runs. -/
theorem contains_cancellation_letDown : ∃ (s t : Traffic String Bool) (f g : Nat)
    (d : Caller String Bool), Reachable (fun e => e) 0 s ∧ s.LetDown (fun e => e) 1 f d ∧
      d.cancelled = false ∧ Relation.ReflTransGen (Step fun e => e) s t ∧
      t.callers 1 = some { d with place := .waiting g true true } ∧
      t.flights g = some { key := d.key, leader := 1, ran := true, stage := .compiling } := by
  obtain ⟨s, f, x, c, d, hs, hx, hleader, hstage, _, _, hd, hactive, hplace, hgroup, hmiss⟩ :=
    exists_reachable_failed (P := String) (fun e : Bool => e) 0 true
  have hlet : s.LetDown (fun e => e) 1 f d :=
    ⟨hd, ⟨_, _, hplace⟩, x, true, hx, by rw [hleader]; exact Nat.zero_ne_one, hstage, rfl⟩
  have hlaw := contains_cancellation (P := String) (fun e : Bool => e) 0
  obtain ⟨hlook, _, _⟩ := (hlaw.1 s hs).2.1 1 f d hlet hactive
  obtain ⟨⟨t, hrun, hasked⟩, _⟩ := (hlaw.1 _ (hs.tail hlook)).2.2.1 1 { d with place := .looking }
    (setCaller_callers_self ..) rfl
  cases hasked with
  | found hget _ =>
    rw [setCaller_programs, hmiss] at hget
    cases hget
  | joined _ hgroup' _ _ _ =>
    rw [setCaller_group, hgroup] at hgroup'
    cases hgroup'
  | departed _ _ hg hcaller =>
    exact ⟨s, t, f, _, d, hs, hlet, hactive, .head hlook hrun, hcaller, hg⟩

/-- The call that leads has lost interest, but its compile comes back with another error.  The call
    that has joined comes back with this error. -/
theorem not_asks_again_of_cancelled_leader : ¬ ∀ s : Traffic String Bool,
    Reachable (fun e => e) 0 s → ∀ id c f x d result hit, s.callers id = some c →
      c.cancelled = false → c.place = .returned (some f) result hit → s.flights f = some x →
      x.leader ≠ id → s.callers x.leader = some d → d.cancelled = true →
      ∃ p, result = .ok p := by
  intro h
  obtain ⟨s, f, x, c, d, hs, hx, hleader, hstage, hc, hlost, hd, hactive, hplace, _, _⟩ :=
    exists_reachable_failed (P := String) (fun e : Bool => e) 0 false
  have hreceive : Step (fun e => e) s (s.setCaller 1 (d.take (fun e => e) f (false && x.ran) _)) :=
    .receive hd hplace hx hstage
  rw [Caller.take_eq_returned fun e he => by cases he; exact .inr (.inl rfl)] at hreceive
  obtain ⟨p, hp⟩ := h _ (hs.tail hreceive) 1 _ f x c _ _ (setCaller_callers_self ..) hactive rfl hx
    (by rw [hleader]; exact Nat.zero_ne_one)
    (by rw [hleader, setCaller_callers_of_ne s _ Nat.zero_ne_one, hc]) hlost
  cases hp

end

end Traffic

end KernelGraph
