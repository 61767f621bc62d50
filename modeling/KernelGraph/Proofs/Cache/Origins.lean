/-
  Where the programs of a cache come from.

  A call has compiled a program for its key if it registered a flight whose function was called and
  came back with the program (`Compiled`).  Since no flight and no call is forgotten, and none
  changes its key, what was compiled stays compiled (`Later`).  Hence one invariant:

  * what is stored under a key was compiled for this key;
  * what a flight has come to was compiled for the flight's key;
  * what a call found in the cache was compiled for the call's key.

  A call that was given the outcome of a flight is not on the list.  Flights are known by the names
  of keys, so the flight's key has the name of the call's key, and this is all that can be said.
-/
import KernelGraph.Proofs.Cache.Routes
import KernelGraph.Proofs.Lru

namespace KernelGraph.Traffic

variable {P ε : Type}

/-- A call for the key has compiled the program. -/
def Compiled (s : Traffic P ε) (key : ProgramKey) (p : P) : Prop :=
  ∃ id c f x, s.callers id = some c ∧ c.key = key ∧ s.flights f = some x ∧ x.leader = id ∧
    x.ran = true ∧ x.stage.outcome? = some (.ok p)

/-! ## What is never forgotten -/

/-- Calls and flights are still there, with their keys, and so is what the flights have come to. -/
structure Later (s t : Traffic P ε) : Prop where
  callers : ∀ id c, s.callers id = some c → ∃ c', t.callers id = some c' ∧ c'.key = c.key
  flights : ∀ f x, s.flights f = some x → ∃ y, t.flights f = some y ∧ y.key = x.key ∧
    y.leader = x.leader ∧ (x.ran = true → y.ran = true) ∧
    ∀ o, x.stage.outcome? = some o → y.stage.outcome? = some o

section
variable {s t : Traffic P ε} {id f : Nat} {c : Caller P ε} {x y : Flight P ε} {key : ProgramKey}
  {p : P}

theorem later_setCaller {c' : Caller P ε} (hc : s.callers id = some c) (hkey : c'.key = c.key) :
    Later s (s.setCaller id c') where
  callers id' c₀ hc₀ := by
    by_cases hid : id' = id
    · subst hid
      rw [hc] at hc₀
      cases hc₀
      exact ⟨c', setCaller_callers_self .., hkey⟩
    · exact ⟨c₀, setCaller_callers_eq_some.2 (.inr ⟨hid, hc₀⟩), rfl⟩
  flights f x hx := ⟨x, hx, rfl, rfl, fun h => h, fun _ h => h⟩

theorem later_setCaller_of_fresh (hfresh : s.callers id = none) (c : Caller P ε) :
    Later s (s.setCaller id c) where
  callers _ c₀ hc₀ := ⟨c₀, setCaller_callers_of_fresh hfresh hc₀ c, rfl⟩
  flights _ x hx := ⟨x, hx, rfl, rfl, fun h => h, fun _ h => h⟩

theorem later_setFlight (hx : s.flights f = some x) (hkey : y.key = x.key)
    (hleader : y.leader = x.leader) (hran : x.ran = true → y.ran = true)
    (hout : ∀ o, x.stage.outcome? = some o → y.stage.outcome? = some o) :
    Later s (s.setFlight f y) where
  callers id c hc := ⟨c, hc, rfl⟩
  flights g z hz := by
    by_cases hg : g = f
    · subst hg
      rw [hx] at hz
      cases hz
      exact ⟨y, setFlight_flights_self .., hkey, hleader, hran, hout⟩
    · exact ⟨z, setFlight_flights_eq_some.2 (.inr ⟨hg, hz⟩), rfl, rfl, fun h => h, fun _ h => h⟩

theorem later_setFlight_of_fresh (hfresh : s.flights f = none) (x : Flight P ε) :
    Later s (s.setFlight f x) where
  callers _ c hc := ⟨c, hc, rfl⟩
  flights _ z hz :=
    ⟨z, setFlight_flights_of_fresh hfresh hz x, rfl, rfl, fun h => h, fun _ h => h⟩

theorem Compiled.later (h : s.Compiled key p) (hlater : Later s t) : t.Compiled key p := by
  obtain ⟨id, c, f, x, hc, hkey, hx, hleader, hran, hout⟩ := h
  obtain ⟨c', hc', hkey'⟩ := hlater.callers id c hc
  obtain ⟨y, hy, _, hleader', hran', hout'⟩ := hlater.flights f x hx
  exact ⟨id, c', f, y, hc', hkey'.trans hkey, hy, hleader'.trans hleader, hran' hran, hout' _ hout⟩

/-- A flight whose function came back with a program has compiled it for its key. -/
theorem Routed.compiled (h : s.Routed) (hx : s.flights f = some x) (hran : x.ran = true)
    (hout : x.stage.outcome? = some (.ok p)) : s.Compiled x.key p := by
  obtain ⟨c, hc, hkey, _⟩ := h.led f x hx
  exact ⟨x.leader, c, f, x, hc, hkey, hx, rfl, hran, hout⟩

/-! ## What is stored and found -/

/-- What is stored, what flights have come to and what was found was compiled for its key. -/
structure Sound (s : Traffic P ε) : Prop where
  programs : s.programs.Holds s.Compiled
  flights : ∀ f x p, s.flights f = some x → x.stage.outcome? = some (.ok p) → s.Compiled x.key p
  callers : ∀ id c p hit, s.callers id = some c → c.place = .returned none (.ok p) hit →
    s.Compiled c.key p

theorem sound_start (limit : Int) : (start limit : Traffic P ε).Sound where
  programs := Lru.holds_empty _
  flights f x p h := by cases h
  callers id c p hit h := by cases h

/-- The programs of the cache, and the registers, change. -/
theorem Sound.of_programs (h : s.Sound) {programs : Lru ProgramKey P}
    (hprograms : programs.Holds s.Compiled) (compiles : Nat) (inflight : Finset String)
    (group : String → Option Nat) : { s with programs, compiles, inflight, group }.Sound :=
  ⟨hprograms, h.flights, h.callers⟩

/-- A call moves to a place where it has found nothing, or what was compiled for its key. -/
theorem Sound.setCaller (h : s.Sound) {c' : Caller P ε} (hlater : Later s (s.setCaller id c'))
    (hplace : ∀ p hit, c'.place = .returned none (.ok p) hit → s.Compiled c'.key p) :
    (s.setCaller id c').Sound where
  programs := h.programs.mono fun _ _ hp => hp.later hlater
  flights f x p hx hout := (h.flights f x p hx hout).later hlater
  callers id' c p hit hc hreturned := by
    rcases setCaller_callers_eq_some.1 hc with ⟨rfl, rfl⟩ | ⟨_, hc⟩
    · exact (hplace p hit hreturned).later hlater
    · exact (h.callers id' c p hit hc hreturned).later hlater

/-- A flight goes on to a stage where it has come to nothing, or to what was compiled for its
    key. -/
theorem Sound.setFlight (h : s.Sound) (hlater : Later s (s.setFlight f y))
    (hout : ∀ p, y.stage.outcome? = some (.ok p) → (s.setFlight f y).Compiled y.key p) :
    (s.setFlight f y).Sound where
  programs := h.programs.mono fun _ _ hp => hp.later hlater
  flights g x p hx hp := by
    rcases setFlight_flights_eq_some.1 hx with ⟨rfl, rfl⟩ | ⟨_, hx⟩
    · exact hout p hp
    · exact (h.flights g x p hx hp).later hlater
  callers id c p hit hc hreturned := (h.callers id c p hit hc hreturned).later hlater

/-- What a flight came to stays what it came to. -/
theorem Sound.setStage (h : s.Sound) (hx : s.flights f = some x) (stage : Stage P ε)
    (hout : x.stage.outcome? = stage.outcome?) : (s.setFlight f { x with stage }).Sound := by
  have hlater : Later s (s.setFlight f { x with stage }) :=
    later_setFlight hx rfl rfl (fun h => h) fun o ho => hout ▸ ho
  exact h.setFlight hlater fun p hp => (h.flights f x p hx (hout.trans hp)).later hlater

/-- **Every step keeps the cache sound.** -/
theorem Sound.step {isCancelled : ε → Bool} (h : s.Sound) (hr : s.Routed)
    (hstep : Step isCancelled s t) : t.Sound := by
  -- a call or a flight moves first, and then the cache and the registers change
  cases hstep with
  | lookup key => exact h.of_programs (h.programs.get key).1 _ _ _
  | clear => exact h.of_programs (h.programs.clear _) _ _ _
  | call key hfresh =>
    exact h.setCaller (later_setCaller_of_fresh hfresh _) fun p hit hplace => by cases hplace
  | cancel hc =>
    rename_i id c
    exact h.setCaller (later_setCaller hc rfl) fun p hit hplace => h.callers id c p hit hc hplace
  | hit hc hplace hfound =>
    rename_i id c p
    have hnext : (s.setCaller id { c with place := .returned none (.ok p) true }).Sound :=
      h.setCaller (later_setCaller hc rfl) fun q hit hq => by
        cases hq
        exact (h.programs.get c.key).2 p hfound
    exact hnext.of_programs (hnext.programs.get c.key).1 _ _ _
  | miss hc hplace hmiss =>
    rename_i id c
    have hnext : (s.setCaller id { c with place := .missing }).Sound :=
      h.setCaller (later_setCaller hc rfl) fun p hit hplace => by cases hplace
    exact hnext.of_programs (hnext.programs.get c.key).1 _ _ _
  | join hc hplace hgroup =>
    rename_i id f c
    have hnext : (s.setCaller id
        { c with place := .waiting f (decide (c.key.name ∉ s.inflight)) false }).Sound :=
      h.setCaller (later_setCaller hc rfl) fun p hit hplace => by cases hplace
    exact hnext.of_programs hnext.programs _ _ _
  | depart hc hplace hgroup hfresh =>
    rename_i id f c
    have hflown : (s.setFlight f { key := c.key, leader := id }).Sound :=
      h.setFlight (later_setFlight_of_fresh hfresh _) fun p hp => by cases hp
    have hnext : ((s.setFlight f { key := c.key, leader := id }).setCaller id
        { c with place := .waiting f (decide (c.key.name ∉ s.inflight)) true }).Sound :=
      hflown.setCaller (later_setCaller hc rfl) fun p hit hplace => by cases hplace
    exact hnext.of_programs hnext.programs _ _ _
  | find hx hstage hfound =>
    rename_i f x p
    have hlater : Later s (s.setFlight f { x with stage := .settled (.ok p) }) :=
      later_setFlight hx rfl rfl (fun h => h) fun o ho => by rw [hstage] at ho; cases ho
    have hnext : (s.setFlight f { x with stage := .settled (.ok p) }).Sound :=
      h.setFlight hlater fun q hq => by
        cases hq
        exact ((h.programs.get x.key).2 p hfound).later hlater
    exact hnext.of_programs (hnext.programs.get x.key).1 _ _ _
  | compile hx hstage hmiss =>
    rename_i f x
    have hnext : (s.setFlight f { x with ran := true, stage := .compiling }).Sound :=
      h.setFlight (later_setFlight hx rfl rfl (fun _ => rfl)
        fun o ho => by rw [hstage] at ho; cases ho) fun p hp => by cases hp
    exact hnext.of_programs (hnext.programs.get x.key).1 _ _ _
  | comeBack hx hstage o =>
    -- this is where programs come from
    have hnext := hr.step (.comeBack hx hstage o : Step isCancelled s _)
    have hran := hr.allows_of_eq hx hstage
    exact h.setFlight (later_setFlight hx rfl rfl (fun h => h)
      fun o ho => by rw [hstage] at ho; cases ho) fun p hp =>
        hnext.compiled (setFlight_flights_self ..) hran hp
  | settle hx hstage =>
    rename_i f x o
    have hout : x.stage.outcome? = some o := by rw [hstage]; rfl
    have hnext : (s.setFlight f { x with stage := .settled o }).Sound := h.setStage hx _ hout
    refine hnext.of_programs ?_ _ _ _
    cases o with
    | ok p => exact hnext.programs.set (hnext.flights f { x with stage := .settled (.ok p) } p
        (setFlight_flights_self ..) rfl)
    | error e => exact hnext.programs
  | land hx hstage =>
    have hnext := h.setStage hx (.landed _) (by rw [hstage]; rfl)
    exact hnext.of_programs hnext.programs _ _ _
  | arrive hx hstage =>
    have hnext := h.setStage hx (.arrived _) (by rw [hstage]; rfl)
    exact hnext.of_programs hnext.programs _ _ _
  | receive hc hplace hx hstage =>
    exact h.setCaller (later_setCaller hc (Caller.take_key ..)) fun p hit hreturned =>
      (Caller.take_place_ne isCancelled _ _ _ _ _ _ hreturned).elim
  | leave hc hplace hcancelled =>
    exact h.setCaller (later_setCaller hc rfl) fun p hit hplace => by cases hplace
  | drain hc hplace hcancelled =>
    exact h.setCaller (later_setCaller hc rfl) fun p hit hplace => by cases hplace
  | drained hc hplace hx hstage =>
    exact h.setCaller (later_setCaller hc rfl) fun p hit hplace => by cases hplace

/-- Every reachable cache is sound. -/
theorem Reachable.sound {isCancelled : ε → Bool} {limit : Int}
    (h : Reachable isCancelled limit s) : s.Sound := by
  induction h with
  | refl => exact sound_start limit
  | tail hrun hstep ih => exact ih.step (Reachable.routed hrun) hstep

/-! ## What comes out -/

/-- What is looked up was compiled for the key. -/
theorem Sound.lookup (h : s.Sound) (hp : (s.programs.get key).1 = some p) : s.Compiled key p :=
  (h.programs.get key).2 p hp

/-- **What a call comes back with** was compiled for a key of the same name; for the call's own key,
    unless it was given the outcome of a flight of another key. -/
theorem Sound.returned (h : s.Sound) (hr : s.Routed) {flight : Option Nat} {hit : Bool}
    (hc : s.callers id = some c) (hplace : c.place = .returned flight (.ok p) hit) :
    s.Compiled c.key p ∨ ∃ f x, flight = some f ∧ s.flights f = some x ∧ x.leader ≠ id ∧
      x.key.name = c.key.name ∧ s.Compiled x.key p := by
  cases flight with
  | none => exact .inl (h.callers id c p hit hc hplace)
  | some f =>
    obtain ⟨x, o, hx, hstage, hname, hresult, _⟩ := hr.returned hc hplace
    have hp : s.Compiled x.key p := by
      refine h.flights f x p hx ?_
      cases o with
      | ok q => cases hresult; rw [hstage]; rfl
      | error e => cases hresult
    by_cases hleader : x.leader = id
    · rw [hr.key_leader hx (by rw [hleader, hc])]
      exact .inl hp
    · exact .inr ⟨f, x, rfl, hx, hleader, hname, hp⟩

end

end KernelGraph.Traffic
