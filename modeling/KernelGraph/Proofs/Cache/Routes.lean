/-
  Which flight a call waits for, and who leads it.

  1. A name is in flight exactly if the group knows a flight of it; this flight is registered, and
     every registered flight is known (`Registered`).
  2. A flight has a leader, a call for the same key, which waits until the flight has arrived.
  3. A call waits for flights of its name only.  It leads the flights that it has registered and no
     others: what the set of names in flight tells a call is what the group tells it.
  4. A call that came back with the outcome of a flight says that it was not a hit if the outcome is
     an error, or if it led the flight and its function was called; and only then (`Manned`).

  What a call reports depends on who it thinks it is, and this on the registers; so the parts are
  one invariant, `Routed`.  A step moves a call, or lets a flight go on, or moves a name in or out
  of the registers, and there is one lemma for each of these.
-/
import KernelGraph.Proofs.Cache.Traffic

namespace KernelGraph.Traffic

variable {P ε : Type}

/-- What the stage of a flight says of its function: that it was not called yet, that it was called,
    or that it was called unless the flight has a program. -/
def Stage.Allows (ran : Bool) : Stage P ε → Prop
  | boarding => ran = false
  | compiling | compiled _ => ran = true
  | settled o | landed o | arrived o => ran = false → ∃ p, o = .ok p

/-- The place of a call for a key fits the flights. -/
def Place.Fits (flights : Nat → Option (Flight P ε)) (id : Nat) (key : ProgramKey) :
    Place P ε → Prop
  | looking | missing => True
  | waiting f leads registered => leads = registered ∧
      ∃ x, flights f = some x ∧ x.key.name = key.name ∧ (registered = true ↔ x.leader = id)
  | draining f => ∃ x, flights f = some x ∧ x.leader = id
  | returned none result hit => (hit = true ∧ ∃ p, result = .ok p) ∨
      hit = false ∧ result = .error .cancelled
  | returned (some f) result hit => ∃ x o, flights f = some x ∧ x.stage = .arrived o ∧
      x.key.name = key.name ∧ result = o.mapError .failed ∧
      (hit = false ↔ (∃ e, o = .error e) ∨ x.leader = id ∧ x.ran = true)

/-- Both registers know the registered flights, and nothing else. -/
structure Registered (s : Traffic P ε) : Prop where
  inflight : ∀ name, name ∈ s.inflight ↔ s.group name ≠ none
  group : ∀ name f, s.group name = some f →
    ∃ x, s.flights f = some x ∧ x.key.name = name ∧ x.stage.IsAloft
  aloft : ∀ f x, s.flights f = some x → x.stage.IsAloft → s.group x.key.name = some f

/-- Flights have leaders, and calls are where their flights let them be. -/
structure Manned (s : Traffic P ε) : Prop where
  allows : ∀ f x, s.flights f = some x → x.stage.Allows x.ran
  led : ∀ f x, s.flights f = some x → ∃ c, s.callers x.leader = some c ∧ c.key = x.key ∧
    (¬ x.stage.HasArrived → c.place.awaits? = some f)
  fits : ∀ id c, s.callers id = some c → c.place.Fits s.flights id c.key

/-- The registers agree with the flights, and the calls with both. -/
structure Routed (s : Traffic P ε) : Prop extends Registered s, Manned s

section
variable {s : Traffic P ε} {id f : Nat} {c : Caller P ε} {x y : Flight P ε} {o : Except ε P}

theorem routed_start (limit : Int) : (start limit : Traffic P ε).Routed where
  inflight name := by simp [start]
  group name f h := by cases h
  aloft f x h := by cases h
  allows f x h := by cases h
  led f x h := by cases h
  fits id c h := by cases h

/-- What is in the cache, and how often was compiled, is of no concern to the registers. -/
theorem Routed.of_programs (h : s.Routed) (programs : Lru ProgramKey P) (compiles : Nat) :
    { s with programs, compiles }.Routed :=
  ⟨⟨h.inflight, h.group, h.aloft⟩, ⟨h.allows, h.led, h.fits⟩⟩

/-! ## What the parts say -/

theorem Manned.allows_of_eq (h : s.Manned) (hx : s.flights f = some x) {stage : Stage P ε}
    (hstage : x.stage = stage) : stage.Allows x.ran := hstage ▸ h.allows f x hx

/-- A flight and its leader have one key. -/
theorem Manned.key_leader (h : s.Manned) (hx : s.flights f = some x)
    (hc : s.callers x.leader = some c) : c.key = x.key := by
  obtain ⟨c', hc', hkey, _⟩ := h.led f x hx
  rw [hc] at hc'
  cases hc'
  exact hkey

/-- A call that waits for a flight is told to lead it exactly if it does. -/
theorem Manned.waiting (h : s.Manned) {leads registered : Bool} (hc : s.callers id = some c)
    (hplace : c.place = .waiting f leads registered) : leads = registered ∧
      ∃ x, s.flights f = some x ∧ x.key.name = c.key.name ∧
        (registered = true ↔ x.leader = id) := by
  have hfits := h.fits id c hc
  rw [hplace] at hfits
  exact hfits

/-- A call that came back with the outcome of a flight. -/
theorem Manned.returned (h : s.Manned) {result : Except (CallError ε) P} {hit : Bool}
    (hc : s.callers id = some c) (hplace : c.place = .returned (some f) result hit) :
    ∃ x o, s.flights f = some x ∧ x.stage = .arrived o ∧ x.key.name = c.key.name ∧
      result = o.mapError .failed ∧
      (hit = false ↔ (∃ e, o = .error e) ∨ x.leader = id ∧ x.ran = true) := by
  have hfits := h.fits id c hc
  rw [hplace] at hfits
  exact hfits

/-- The leader of a flight that has not arrived waits for it. -/
theorem Manned.awaits (h : s.Manned) (hc : s.callers id = some c) (hx : s.flights f = some x)
    (hleader : x.leader = id) (hfar : ¬ x.stage.HasArrived) : c.place.awaits? = some f := by
  obtain ⟨c', hc', _, hawaits⟩ := h.led f x hx
  rw [hleader, hc] at hc'
  cases hc'
  exact hawaits hfar

/-! ## A call moves -/

theorem Registered.setCaller (h : s.Registered) (id : Nat) (c : Caller P ε) :
    (s.setCaller id c).Registered := ⟨h.inflight, h.group, h.aloft⟩

/-- A call moves to another place.  If it has left a flight that it leads, the flight has
    arrived. -/
theorem Routed.setCaller (h : s.Routed) {c' : Caller P ε} (hc : s.callers id = some c)
    (hkey : c'.key = c.key) (hfits : c'.place.Fits s.flights id c'.key)
    (hstays : ∀ f x, s.flights f = some x → x.leader = id → c.place.awaits? = some f →
      ¬ x.stage.HasArrived → c'.place.awaits? = some f) : (s.setCaller id c').Routed where
  toRegistered := h.toRegistered.setCaller id c'
  allows := h.allows
  led f x hx := by
    by_cases hleader : x.leader = id
    · exact ⟨c', by rw [hleader, setCaller_callers_self],
        hkey.trans (h.key_leader hx (by rw [hleader, hc])),
        fun hfar => hstays f x hx hleader (h.awaits hc hx hleader hfar) hfar⟩
    · rw [setCaller_callers_of_ne s c' hleader]
      exact h.led f x hx
  fits id' c₀ hc₀ := by
    rcases setCaller_callers_eq_some.1 hc₀ with ⟨rfl, rfl⟩ | ⟨_, hc₀⟩
    · exact hfits
    · exact h.fits id' c₀ hc₀

/-- A call that waits for no flight moves anywhere. -/
theorem Routed.setCaller_of_idle (h : s.Routed) {c' : Caller P ε} (hc : s.callers id = some c)
    (hkey : c'.key = c.key) (hfits : c'.place.Fits s.flights id c'.key)
    (hidle : c.place.awaits? = none) : (s.setCaller id c').Routed :=
  h.setCaller hc hkey hfits fun f x _ _ hawaits => by rw [hidle] at hawaits; cases hawaits

/-- A call whose flight has arrived moves anywhere. -/
theorem Routed.setCaller_of_arrived (h : s.Routed) {c' : Caller P ε} (hc : s.callers id = some c)
    (hkey : c'.key = c.key) (hfits : c'.place.Fits s.flights id c'.key)
    (hawaits : c.place.awaits? = some f) (hx : s.flights f = some x)
    (harrived : x.stage = .arrived o) : (s.setCaller id c').Routed :=
  h.setCaller hc hkey hfits fun g y hy _ hg hfar => by
    rw [hawaits] at hg
    cases hg
    rw [hx] at hy
    cases hy
    exact absurd (harrived ▸ trivial) hfar

/-- A call begins. -/
theorem Routed.call (h : s.Routed) (hfresh : s.callers id = none) (key : ProgramKey) :
    (s.setCaller id { key }).Routed where
  toRegistered := h.toRegistered.setCaller id _
  allows := h.allows
  led f x hx := by
    obtain ⟨c, hc, hled⟩ := h.led f x hx
    exact ⟨c, setCaller_callers_of_fresh hfresh hc _, hled⟩
  fits id' c hc := by
    rcases setCaller_callers_eq_some.1 hc with ⟨rfl, rfl⟩ | ⟨_, hc⟩
    · trivial
    · exact h.fits id' c hc

/-- **A call is given the outcome of its flight**, and fits. -/
theorem Place.Fits.take (isCancelled : ε → Bool) {leads registered : Bool}
    (h : (Place.waiting f leads registered : Place P ε).Fits s.flights id c.key)
    (hx : s.flights f = some x) (hstage : x.stage = .arrived o) :
    (c.take isCancelled f (registered && x.ran) o).place.Fits s.flights id
      (c.take isCancelled f (registered && x.ran) o).key := by
  obtain ⟨_, x', hx', hname, hled⟩ := h
  rw [hx] at hx'
  cases hx'
  cases o with
  | ok p =>
    refine ⟨x, .ok p, hx, hstage, hname, rfl, ?_⟩
    simp [hled]
  | error e =>
    unfold Caller.take
    dsimp only
    split
    · trivial
    · exact ⟨x, .error e, hx, hstage, hname, rfl, by simp⟩

/-! ## A flight goes on -/

/-- A place fits as long as every flight is there, and those that have arrived are unchanged. -/
theorem Place.Fits.mono {flights flights' : Nat → Option (Flight P ε)} {key : ProgramKey}
    {place : Place P ε} (h : place.Fits flights id key)
    (hkept : ∀ g z, flights g = some z → ∃ z', flights' g = some z' ∧ z'.key = z.key ∧
      z'.leader = z.leader ∧ (z.stage.HasArrived → z' = z)) : place.Fits flights' id key := by
  unfold Fits at h ⊢
  split at h
  · trivial
  · trivial
  · obtain ⟨hleads, z, hz, hname, hled⟩ := h
    obtain ⟨z', hz', hk, hl, _⟩ := hkept _ z hz
    exact ⟨hleads, z', hz', by rw [hk, hname], by rw [hl, hled]⟩
  · obtain ⟨z, hz, hled⟩ := h
    obtain ⟨z', hz', _, hl, _⟩ := hkept _ z hz
    exact ⟨z', hz', hl.trans hled⟩
  · exact h
  · obtain ⟨z, o, hz, hstage, hrest⟩ := h
    obtain ⟨z', hz', _, _, hsame⟩ := hkept _ z hz
    cases hsame (by rw [hstage]; trivial)
    exact ⟨z, o, hz', hstage, hrest⟩

/-- A flight goes on, under its leader. -/
theorem Manned.setFlight (h : s.Manned) (hx : s.flights f = some x) (hkey : y.key = x.key)
    (hleader : y.leader = x.leader) (hallows : y.stage.Allows y.ran) (hfar : ¬ x.stage.HasArrived) :
    (s.setFlight f y).Manned where
  allows g z hz := by
    rcases setFlight_flights_eq_some.1 hz with ⟨rfl, rfl⟩ | ⟨_, hz⟩
    · exact hallows
    · exact h.allows g z hz
  led g z hz := by
    rcases setFlight_flights_eq_some.1 hz with ⟨rfl, rfl⟩ | ⟨_, hz⟩
    · obtain ⟨c, hc, hk, hawaits⟩ := h.led g x hx
      exact ⟨c, by rw [hleader]; exact hc, hk.trans hkey.symm, fun _ => hawaits hfar⟩
    · exact h.led g z hz
  fits id c hc := by
    refine (h.fits id c hc).mono fun g z hz => ?_
    by_cases hgf : g = f
    · subst hgf
      rw [hx] at hz
      cases hz
      exact ⟨y, setFlight_flights_self .., hkey, hleader, fun harrived => absurd harrived hfar⟩
    · exact ⟨z, by rw [setFlight_flights_of_ne s y hgf, hz], rfl, rfl, fun _ => rfl⟩

/-- A flight goes on, and stays in the registers or out of them. -/
theorem Registered.setFlight (h : s.Registered) (hx : s.flights f = some x) (hkey : y.key = x.key)
    (haloft : y.stage.IsAloft ↔ x.stage.IsAloft) : (s.setFlight f y).Registered where
  inflight := h.inflight
  group name g hg := by
    obtain ⟨z, hz, hname, hup⟩ := h.group name g hg
    by_cases hgf : g = f
    · subst hgf
      rw [hx] at hz
      cases hz
      exact ⟨y, setFlight_flights_self .., by rw [hkey, hname], haloft.2 hup⟩
    · exact ⟨z, by rw [setFlight_flights_of_ne s y hgf, hz], hname, hup⟩
  aloft g z hz hup := by
    rcases setFlight_flights_eq_some.1 hz with ⟨rfl, rfl⟩ | ⟨_, hz⟩
    · rw [hkey]
      exact h.aloft g x hx (haloft.1 hup)
    · exact h.aloft g z hz hup

/-- A registered flight goes on and stays registered. -/
theorem Routed.setFlight (h : s.Routed) (hx : s.flights f = some x) (hkey : y.key = x.key)
    (hleader : y.leader = x.leader) (hallows : y.stage.Allows y.ran) (haloft : x.stage.IsAloft)
    (haloft' : y.stage.IsAloft) : (s.setFlight f y).Routed where
  toRegistered := h.toRegistered.setFlight hx hkey (iff_of_true haloft' haloft)
  toManned := h.toManned.setFlight hx hkey hleader hallows fun harrived =>
    harrived.not_isAloft haloft

/-! ## The registers -/

/-- A call joins the flight of its name, which another call leads. -/
theorem Routed.join (h : s.Routed) (hc : s.callers id = some c) (hplace : c.place = .missing)
    (hgroup : s.group c.key.name = some f) :
    ({ s with inflight := insert c.key.name s.inflight }.setCaller id
      { c with place := .waiting f (decide (c.key.name ∉ s.inflight)) false }).Routed := by
  have hmem : c.key.name ∈ s.inflight :=
    (h.inflight _).2 (by rw [hgroup]; exact Option.some_ne_none f)
  obtain ⟨x, hx, hname, hup⟩ := h.group _ f hgroup
  rw [Finset.insert_eq_of_mem hmem]
  refine h.setCaller_of_idle hc rfl ⟨by simpa using hmem, x, hx, hname, ?_⟩ (by rw [hplace]; rfl)
  refine iff_of_false Bool.false_ne_true fun hleader => ?_
  have hawaits := h.awaits hc hx hleader fun harrived => harrived.not_isAloft hup
  rw [hplace] at hawaits
  cases hawaits

/-- A call registers a flight, which it leads. -/
theorem Routed.depart (h : s.Routed) (hc : s.callers id = some c) (hplace : c.place = .missing)
    (hgroup : s.group c.key.name = none) (hfresh : s.flights f = none) :
    (({ s with
      inflight := insert c.key.name s.inflight
      group := Function.update s.group c.key.name (some f) }.setFlight f
        { key := c.key, leader := id }).setCaller id
      { c with place := .waiting f (decide (c.key.name ∉ s.inflight)) true }).Routed := by
  have hmem : c.key.name ∉ s.inflight := fun hmem => (h.inflight _).1 hmem hgroup
  refine ⟨⟨fun name => ?_, fun name g hg => ?_, fun g z hz hup => ?_⟩, ⟨fun g z hz => ?_,
    fun g z hz => ?_, fun id' c' hc' => ?_⟩⟩
  · show name ∈ insert c.key.name s.inflight ↔
      Function.update s.group c.key.name (some f) name ≠ none
    rw [Finset.mem_insert, Function.update_apply]
    split
    · simp [*]
    · simp [*, h.inflight]
  · replace hg : Function.update s.group c.key.name (some f) name = some g := hg
    rw [Function.update_apply] at hg
    split at hg
    · cases hg
      exact ⟨_, setFlight_flights_self .., by simp [*], trivial⟩
    · obtain ⟨z, hz, hname, hup⟩ := h.group name g hg
      exact ⟨z, setFlight_flights_of_fresh hfresh hz _, hname, hup⟩
  · show Function.update s.group c.key.name (some f) z.key.name = some g
    rcases setFlight_flights_eq_some.1 hz with ⟨rfl, rfl⟩ | ⟨_, hz⟩
    · exact Function.update_self ..
    · -- the name of a registered flight is taken
      have hother := h.aloft g z hz hup
      rw [Function.update_of_ne, hother]
      intro heq
      rw [heq, hgroup] at hother
      cases hother
  · rcases setFlight_flights_eq_some.1 hz with ⟨rfl, rfl⟩ | ⟨_, hz⟩
    · rfl
    · exact h.allows g z hz
  · rcases setFlight_flights_eq_some.1 hz with ⟨rfl, rfl⟩ | ⟨_, hz⟩
    · exact ⟨_, setCaller_callers_self .., rfl, fun _ => rfl⟩
    · obtain ⟨c₀, hc₀, hkey, hawaits⟩ := h.led g z hz
      by_cases hleader : z.leader = id
      · -- the call waited for nothing, so that its earlier flights have arrived
        rw [hleader, hc] at hc₀
        cases hc₀
        rw [hleader]
        refine ⟨_, setCaller_callers_self .., ?_⟩
        refine ⟨hkey, fun hfar => ?_⟩
        have := hawaits hfar
        rw [hplace] at this
        cases this
      · exact ⟨c₀, setCaller_callers_eq_some.2 (.inr ⟨hleader, hc₀⟩), hkey, hawaits⟩
  · rcases setCaller_callers_eq_some.1 hc' with ⟨rfl, rfl⟩ | ⟨_, hc'⟩
    · exact ⟨by simpa using hmem, _, setFlight_flights_self .., rfl, by simp⟩
    · exact (h.fits id' c' hc').mono fun g z hz =>
        ⟨z, setFlight_flights_of_fresh hfresh hz _, rfl, rfl, fun _ => rfl⟩

/-- A flight gives its name up. -/
theorem Routed.land (h : s.Routed) (hx : s.flights f = some x) (hstage : x.stage = .settled o) :
    ({ s with
      inflight := s.inflight.erase x.key.name
      group := Function.update s.group x.key.name none }.setFlight f
        { x with stage := .landed o }).Routed := by
  have hknown : s.group x.key.name = some f := h.aloft f x hx (by rw [hstage]; trivial)
  have hallows := h.allows_of_eq hx hstage
  have hmanned : (s.setFlight f { x with stage := .landed o }).Manned :=
    h.toManned.setFlight hx rfl rfl hallows (by rw [hstage]; exact id)
  refine ⟨⟨fun name => ?_, fun name g hg => ?_, fun g z hz hup => ?_⟩, hmanned.1, hmanned.2,
    hmanned.3⟩
  · show name ∈ s.inflight.erase x.key.name ↔ Function.update s.group x.key.name none name ≠ none
    rw [Finset.mem_erase, Function.update_apply, h.inflight]
    split
    · simp [*]
    · simp [*]
  · replace hg : Function.update s.group x.key.name none name = some g := hg
    rw [Function.update_apply] at hg
    split at hg
    · cases hg
    · rename_i hother
      obtain ⟨z, hz, hname, hup⟩ := h.group name g hg
      have hgf : g ≠ f := by
        rintro rfl
        rw [hx] at hz
        cases hz
        exact hother hname.symm
      exact ⟨z, setFlight_flights_eq_some.2 (.inr ⟨hgf, hz⟩), hname, hup⟩
  · show Function.update s.group x.key.name none z.key.name = some g
    rcases setFlight_flights_eq_some.1 hz with ⟨rfl, rfl⟩ | ⟨hgf, hz⟩
    · exact hup.elim
    · have hother := h.aloft g z hz hup
      rw [Function.update_of_ne, hother]
      intro heq
      rw [heq, hknown] at hother
      exact hgf (Option.some.inj hother).symm

/-- A flight sends its outcome; it was not registered any more. -/
theorem Routed.arrive (h : s.Routed) (hx : s.flights f = some x) (hstage : x.stage = .landed o) :
    ({ s with
      group := if s.group x.key.name = some f then Function.update s.group x.key.name none
        else s.group }.setFlight f { x with stage := .arrived o }).Routed := by
  have hgone : s.group x.key.name ≠ some f := by
    intro hknown
    obtain ⟨z, hz, _, hup⟩ := h.group _ f hknown
    rw [hx] at hz
    cases hz
    rw [hstage] at hup
    exact hup
  have hallows := h.allows_of_eq hx hstage
  rw [if_neg hgone]
  exact ⟨h.toRegistered.setFlight hx rfl (by rw [hstage]; exact Iff.rfl),
    h.toManned.setFlight hx rfl rfl hallows (by rw [hstage]; exact id)⟩

/-! ## Steps and runs -/

/-- **Every step keeps the routes.** -/
theorem Routed.step {isCancelled : ε → Bool} {t : Traffic P ε} (h : s.Routed)
    (hstep : Step isCancelled s t) : t.Routed := by
  cases hstep with
  | lookup key => exact h.of_programs _ _
  | clear => exact h.of_programs _ _
  | call key hfresh => exact h.call hfresh key
  | cancel hc =>
    rename_i id c
    exact h.setCaller hc rfl (h.fits id c hc) fun f x _ _ hawaits _ => hawaits
  | hit hc hplace hget =>
    exact (h.of_programs _ _).setCaller_of_idle hc rfl (Or.inl ⟨rfl, _, rfl⟩) (by rw [hplace]; rfl)
  | miss hc hplace hget =>
    exact (h.of_programs _ _).setCaller_of_idle hc rfl trivial (by rw [hplace]; rfl)
  | join hc hplace hgroup => exact h.join hc hplace hgroup
  | depart hc hplace hgroup hfresh => exact h.depart hc hplace hgroup hfresh
  | find hx hstage hget =>
    exact (h.of_programs _ _).setFlight hx rfl rfl (fun _ => ⟨_, rfl⟩) (by rw [hstage]; trivial)
      trivial
  | compile hx hstage hget =>
    exact (h.of_programs _ _).setFlight hx rfl rfl rfl (by rw [hstage]; trivial) trivial
  | comeBack hx hstage o =>
    rename_i f x
    have hran : x.ran = true := h.allows_of_eq hx hstage
    exact h.setFlight hx rfl rfl hran (by rw [hstage]; trivial) trivial
  | settle hx hstage =>
    rename_i f x o
    have hran : x.ran = true := h.allows_of_eq hx hstage
    exact (h.of_programs _ _).setFlight hx rfl rfl
      (fun hnot => absurd (hran.symm.trans hnot) (by simp)) (by rw [hstage]; trivial) trivial
  | land hx hstage => exact h.land hx hstage
  | arrive hx hstage => exact h.arrive hx hstage
  | receive hc hplace hx hstage =>
    rename_i id f c x o leads registered
    exact h.setCaller_of_arrived hc (Caller.take_key ..)
      (Place.Fits.take isCancelled (hplace ▸ h.fits id c hc) hx hstage) (by rw [hplace]; rfl) hx
      hstage
  | leave hc hplace hcancelled =>
    rename_i id f c registered
    -- a call that is told not to lead has not registered the flight, and does not lead it
    refine h.setCaller hc rfl (Or.inr ⟨rfl, rfl⟩) fun g z hz hleader hawaits _ => ?_
    obtain ⟨rfl, x, hx, _, hled⟩ := h.waiting hc hplace
    rw [hplace] at hawaits
    cases hawaits
    rw [hz] at hx
    cases hx
    exact absurd (hled.2 hleader) Bool.false_ne_true
  | drain hc hplace hcancelled =>
    rename_i id f c registered
    obtain ⟨rfl, x, hx, _, hled⟩ := h.waiting hc hplace
    refine h.setCaller hc rfl ⟨x, hx, hled.1 rfl⟩ fun g z _ _ hawaits _ => ?_
    rw [hplace] at hawaits
    exact hawaits
  | drained hc hplace hx hstage =>
    exact h.setCaller_of_arrived hc rfl (Or.inr ⟨rfl, rfl⟩) (by rw [hplace]; rfl) hx hstage

/-- The routes are kept in every run. -/
theorem Routed.run {isCancelled : ε → Bool} {t : Traffic P ε} (h : s.Routed)
    (hrun : Relation.ReflTransGen (Step isCancelled) s t) : t.Routed := by
  induction hrun with
  | refl => exact h
  | tail _ hstep ih => exact ih.step hstep

theorem Reachable.routed {isCancelled : ε → Bool} {limit : Int}
    (h : Reachable isCancelled limit s) :
    s.Routed := (routed_start limit).run h

end

end KernelGraph.Traffic
