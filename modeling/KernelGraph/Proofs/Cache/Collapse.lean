/-
  Concurrent calls for one key share a compile, and no compile outlives the call that started it.

  1. The names in flight are the names of the registered flights.
  2. At most one compile is running for a name, and so for a key.
  3. A call that has started a compile is still there while the compile is running: it waits, also
     if it was cancelled.
  4. A program enters the cache when a flight whose compile has come back with it settles, under the
     flight's key, and in no other way.
  5. A call that came back with the outcome of a flight says that it was a hit exactly if the
     outcome is a program that the call has not compiled.

  So of those that share a compile which succeeds, one at most says that it was not a hit: the call
  that has compiled.  Of those that share a compile which fails, everybody says so.

  The operations of the cache are runs of this traffic, and inherit the law.
-/
import KernelGraph.Proofs.Cache.Represents

namespace KernelGraph

variable {P ε : Type}

namespace Traffic

/-- The call came back with the outcome of the flight, and says whether it was a hit. -/
def Reports (s : Traffic P ε) (f id : Nat) (hit : Bool) : Prop :=
  ∃ c result, s.callers id = some c ∧ c.place = .returned (some f) result hit

section
variable {s t : Traffic P ε} {f g id : Nat} {x y : Flight P ε} {c : Caller P ε}

/-! ## One flight for a name -/

theorem Registered.eq_of_isAloft (h : s.Registered) (hx : s.flights f = some x)
    (hy : s.flights g = some y) (hup : x.stage.IsAloft) (hup' : y.stage.IsAloft)
    (hname : x.key.name = y.key.name) : f = g := by
  have hf := h.aloft f x hx hup
  rw [hname, h.aloft g y hy hup'] at hf
  exact (Option.some.inj hf).symm

/-- The leader of a flight that has not arrived has not come back. -/
theorem Manned.not_hasReturned (h : s.Manned) (hx : s.flights f = some x)
    (hfar : ¬ x.stage.HasArrived) (hc : s.callers x.leader = some c) : ¬ c.place.HasReturned := by
  intro hreturned
  have hawaits := h.awaits hc hx rfl hfar
  rw [hreturned.awaits?_eq_none] at hawaits
  cases hawaits

/-! ## How programs enter -/

/-- **A program enters the cache** when the flight that has compiled it settles. -/
theorem Step.entered {isCancelled : ε → Bool} (h : Step isCancelled s t) (hs : s.Sound)
    {key : ProgramKey} {p : P} (hp : (t.programs.get key).1 = some p) :
    (s.programs.get key).1 = some p ∨ ∃ f x, s.flights f = some x ∧ x.key = key ∧
      x.stage = .compiled (.ok p) ∧ t.flights f = some { x with stage := .settled (.ok p) } := by
  have hfound := hs.programs.found
  -- looking a program up stores none
  have hget : ∀ k, ((s.programs.get k).2.get key).1 = some p → (s.programs.get key).1 = some p :=
    fun k => ((hfound.get k).1.get key).2 p
  cases h with
  | lookup k => exact .inl (hget k hp)
  | clear => exact (((hs.programs.clear fun _ _ => False).get key).2 p hp).elim
  | call k hfresh => exact .inl hp
  | cancel hc => exact .inl hp
  | hit hc hplace hhit => exact .inl (hget _ hp)
  | miss hc hplace hmiss => exact .inl (hget _ hp)
  | join hc hplace hgroup => exact .inl hp
  | depart hc hplace hgroup hfresh => exact .inl hp
  | find hx hstage hhit => exact .inl (hget _ hp)
  | compile hx hstage hmiss => exact .inl (hget _ hp)
  | comeBack hx hstage o => exact .inl hp
  | settle hx hstage =>
    rename_i f x o
    cases o with
    | error e => exact .inl hp
    | ok q =>
      have hset : (s.programs.set x.key q).Holds fun k v =>
          (s.programs.get k).1 = some v ∨ k = x.key ∧ v = q :=
        (hfound.mono fun _ _ => .inl).set (.inr ⟨rfl, rfl⟩)
      rcases (hset.get key).2 p hp with hp | ⟨rfl, rfl⟩
      · exact .inl hp
      · exact .inr ⟨f, x, hx, rfl, hstage, setFlight_flights_self ..⟩
  | land hx hstage => exact .inl hp
  | arrive hx hstage => exact .inl hp
  | receive hc hplace hx hstage => exact .inl hp
  | leave hc hplace hcancelled => exact .inl hp
  | drain hc hplace hcancelled => exact .inl hp
  | drained hc hplace hx hstage => exact .inl hp

/-! ## What calls report -/

/-- **What a call says of its flight**: it was a hit exactly if the flight has a program that the
    call has not compiled. -/
theorem Manned.reports (h : s.Manned) {hit : Bool} (hreports : s.Reports f id hit) :
    ∃ x o, s.flights f = some x ∧ x.stage = .arrived o ∧
      (hit = false ↔ (∃ e, o = .error e) ∨ x.leader = id ∧ x.ran = true) := by
  obtain ⟨c, r, hc, hplace⟩ := hreports
  obtain ⟨x, o, hx, hstage, _, _, hhit⟩ := h.returned hc hplace
  exact ⟨x, o, hx, hstage, hhit⟩

/-- Of the calls that were given the outcome of a flight, one at most says that it was not a hit,
    exactly if the flight has a program or there is only one such call. -/
theorem Manned.reports_once_iff (h : s.Manned) (hx : s.flights f = some x) :
    (∀ i j, s.Reports f i false → s.Reports f j false → i = j) ↔
      (∃ p, x.stage.outcome? = some (.ok p)) ∨
        ∀ i j a b, s.Reports f i a → s.Reports f j b → i = j := by
  constructor
  · intro honce
    by_cases hok : ∃ p, x.stage.outcome? = some (.ok p)
    · exact .inl hok
    · -- the flight has failed, so that nobody says that it was a hit
      have hmiss : ∀ i a, s.Reports f i a → s.Reports f i false := by
        intro i a hi
        obtain ⟨x', o, hx', hstage, hhit⟩ := h.reports hi
        rw [hx] at hx'
        cases hx'
        cases o with
        | ok p => exact absurd ⟨p, by rw [hstage]; rfl⟩ hok
        | error e => exact hhit.2 (.inl ⟨e, rfl⟩) ▸ hi
      exact .inr fun i j a b hi hj => honce i j (hmiss i a hi) (hmiss j b hj)
  · rintro (⟨p, hp⟩ | hsingle) i j hi hj
    · -- the leader alone says that it was not a hit
      have hled : ∀ i, s.Reports f i false → x.leader = i := by
        intro i hi
        obtain ⟨x', o, hx', hstage, hhit⟩ := h.reports hi
        rw [hx] at hx'
        cases hx'
        rw [hstage] at hp
        cases hp
        rcases hhit.1 rfl with ⟨e, he⟩ | ⟨hleader, _⟩
        · cases he
        · exact hleader
      exact (hled i hi).symm.trans (hled j hj)
    · exact hsingle i j false false hi hj

/-! ## Two calls for one key -/

/-- Two calls wait for a flight whose compile is running, one of which leads it, and the cache is
    empty. -/
theorem exists_reachable_waiting (isCancelled : ε → Bool) (limit : Int) :
    ∃ (s : Traffic P ε) (f : Nat) (x : Flight P ε) (c d : Caller P ε),
      Reachable isCancelled limit s ∧ s.flights f = some x ∧ x.stage = .compiling ∧ x.ran = true ∧
      s.callers 0 = some c ∧ c.place = .waiting f true true ∧
      s.callers 1 = some d ∧ d.place = .waiting f false false ∧ d.cancelled = false ∧
      ∀ key, (s.programs.get key).1 = none := by
  let key : ProgramKey := ⟨"", ""⟩
  obtain ⟨cache, hrun, hcalls⟩ :=
    ProgramCache.exists_run_joined (P := P) isCancelled limit (rfl : key.name = key.name)
  obtain ⟨s, hs, hrep⟩ := hrun.represented
  have hr := hs.routed
  obtain ⟨c, f, x, hc, _, _, hplace, hx, hstage, _, hkey⟩ :=
    hrep.leading hr (by rw [hcalls]; exact List.mem_cons_self ..) rfl
  obtain ⟨d, hd, _, hcancelled, hactive, g, hplace', hg⟩ :=
    hrep.stands { id := 1, key, phase := .joined } (by simp [hcalls])
  -- both wait for the flight that the group knows
  have hf := hr.aloft f x hx (by rw [hstage]; trivial)
  rw [hkey] at hf
  cases hf.symm.trans hg
  have hran : x.ran = true := hr.allows_of_eq hx hstage
  refine ⟨s, f, x, c, d, hs, hx, hstage, hran, hc, hplace, hd, hplace', hcancelled.trans hactive,
    fun key' => ?_⟩
  by_contra hfound
  obtain ⟨p, hp⟩ := Option.ne_none_iff_exists'.1 hfound
  exact List.not_mem_nil (hrep.mem_made hr (hs.sound.lookup hp))

/-- A call that is given an outcome, and does not look again, says whether it was a hit. -/
theorem reports_take {isCancelled : ε → Bool} {ran : Bool} {o : Except ε P}
    (h : ∀ e, o = .error e → ran = true ∨ isCancelled e = false ∨ c.cancelled = true)
    (s : Traffic P ε) (id f : Nat) :
    (s.setCaller id (c.take isCancelled f ran o)).Reports f id (o.toBool && !ran) :=
  ⟨_, o.mapError .failed, setCaller_callers_self .., by rw [Caller.take_eq_returned h]⟩

theorem Reports.setCaller {hit : Bool} (h : s.Reports f id hit) {i : Nat} (hne : id ≠ i)
    (c : Caller P ε) : (s.setCaller i c).Reports f id hit := by
  obtain ⟨d, result, hd, hplace⟩ := h
  exact ⟨d, result, (setCaller_callers_of_ne s c hne).trans hd, hplace⟩

/-- Two calls share a flight, and both are given its outcome.  The one that leads says that it was
    not a hit, and so does the other one if the compile has failed. -/
theorem exists_reachable_shared (isCancelled : ε → Bool) (limit : Int) (o : Except ε P)
    (ho : ∀ e, o = .error e → isCancelled e = false) :
    ∃ (s : Traffic P ε) (f : Nat) (x : Flight P ε), Reachable isCancelled limit s ∧
      s.flights f = some x ∧ x.ran = true ∧ x.stage = .arrived o ∧ s.Reports f 0 false ∧
      s.Reports f 1 o.toBool := by
  obtain ⟨s, f, x, c, d, hs, hx, hstage, hran, hc, hplace, hd, hplace', hactive, _⟩ :=
    exists_reachable_waiting (P := P) isCancelled limit
  let s₁ := ProgramCache.landed s f x o
  let z : Flight P ε := { x with stage := .arrived o }
  have hz : s₁.flights f = some z := setFlight_flights_self ..
  -- the call that leads receives the outcome first
  let s₂ := s₁.setCaller 0 (c.take isCancelled f (true && z.ran) o)
  have hd₂ : s₂.callers 1 = some d := (setCaller_callers_of_ne s₁ _ Nat.one_ne_zero).trans hd
  have hfirst : Step isCancelled s₁ s₂ := .receive (s := s₁) hc hplace hz rfl
  let s₃ := s₂.setCaller 1 (d.take isCancelled f (false && z.ran) o)
  have hsecond : Step isCancelled s₂ s₃ := .receive (s := s₂) hd₂ hplace' hz rfl
  have hrun := (hs.trans (ProgramCache.lands isCancelled hx hstage o)).tail hfirst |>.tail hsecond
  have hleads : s₂.Reports f 0 (o.toBool && !(true && z.ran)) :=
    reports_take (fun _ _ => .inl hran) s₁ 0 f
  have hjoins : s₃.Reports f 1 (o.toBool && !(false && z.ran)) :=
    reports_take (fun e he => .inr (.inl (ho e he))) s₂ 1 f
  refine ⟨s₃, f, z, hrun, hz, hran, rfl, ?_, ?_⟩
  · simpa [z, hran] using hleads.setCaller Nat.zero_ne_one _
  · simpa using hjoins

end

end Traffic

/-! ## The operations -/

namespace ProgramCache

open Traffic

/-- Of the calls for keys of one name, one at most leads. -/
theorem Represents.leading_unique {asked : List (Nat × ProgramKey)} {made : List (ProgramKey × P)}
    {c : ProgramCache P ε} {s : Traffic P ε} (h : Represents asked made c s) (hr : s.Routed)
    {x y : Call P ε} (hx : x ∈ c.calls) (hy : y ∈ c.calls) (hleads : x.phase = .leading)
    (hleads' : y.phase = .leading) (hname : x.key.name = y.key.name) : x = y := by
  obtain ⟨_, f, z, _, _, _, _, hz, hstage, hleader, hkey⟩ := h.leading hr hx hleads
  obtain ⟨_, g, w, _, _, _, _, hw, hstage', hleader', hkey'⟩ := h.leading hr hy hleads'
  have hsame : f = g := hr.eq_of_isAloft hz hw (by rw [hstage]; trivial) (by rw [hstage']; trivial)
    (by rw [hkey, hkey', hname])
  subst hsame
  rw [hz] at hw
  cases hw
  exact List.inj_on_of_nodup_map h.nodup hx hy (hleader.symm.trans hleader')

end ProgramCache

/-! ## The law -/

namespace Traffic

/-- **Concurrent compiles collapse, and do not outlive their callers.**  In every reachable state:

    * the names in flight are those of the flights that the group knows;
    * one compile at most is running for a key;
    * the call that has registered a flight has not come back before the flight has arrived, so not
      while its compile is running;
    * a program that the next step brings into the cache is the one that the compile of a flight of
      its key has come back with;
    * of the calls that were given the outcome of a flight, one at most says that it was not a hit,
      exactly if the flight has a program or there is only one such call.

    Every run of the operations ends in such a state: one call at most leads for a key, and what is
    found was made for its key. -/
theorem collapses (isCancelled : ε → Bool) (limit : Int) :
    (∀ s : Traffic P ε, Reachable isCancelled limit s →
      (∀ name, name ∈ s.inflight ↔ ∃ f, s.group name = some f) ∧
      (∀ f g x y, s.flights f = some x → s.flights g = some y → x.stage = .compiling →
        y.stage = .compiling → x.key = y.key → f = g) ∧
      (∀ f x, s.flights f = some x → ¬ x.stage.HasArrived →
        ∃ c, s.callers x.leader = some c ∧ c.key = x.key ∧ ¬ c.place.HasReturned) ∧
      (∀ t key p, Step isCancelled s t → (t.programs.get key).1 = some p →
        (s.programs.get key).1 = some p ∨ ∃ f x, s.flights f = some x ∧ x.key = key ∧
          x.ran = true ∧ x.stage = .compiled (.ok p) ∧
          t.flights f = some { x with stage := .settled (.ok p) }) ∧
      ∀ f x, s.flights f = some x →
        ((∀ i j, s.Reports f i false → s.Reports f j false → i = j) ↔
          (∃ p, x.stage.outcome? = some (.ok p)) ∨
            ∀ i j a b, s.Reports f i a → s.Reports f j b → i = j)) ∧
    ∀ asked made (c : ProgramCache P ε), ProgramCache.Run isCancelled limit asked made c →
      (∃ s, Reachable isCancelled limit s ∧ ProgramCache.Represents asked made c s) ∧
      (∀ x ∈ c.calls, ∀ y ∈ c.calls, x.phase = .leading → y.phase = .leading →
        x.key = y.key → x = y) ∧
      ∀ key p, (c.programs.get key).1 = some p → (key, p) ∈ made := by
  refine ⟨fun s h => ?_, fun asked made c hrun => ?_⟩
  · have hr := h.routed
    refine ⟨fun name => ?_, fun f g x y hx hy hcompiling hcompiling' hkey => ?_,
      fun f x hx hfar => ?_, fun t key p hstep hp => ?_, fun f x hx => hr.reports_once_iff hx⟩
    · rw [hr.inflight, Option.ne_none_iff_exists']
    · exact hr.eq_of_isAloft hx hy (by rw [hcompiling]; trivial) (by rw [hcompiling']; trivial)
        (congrArg ProgramKey.name hkey)
    · obtain ⟨c, hc, hkey, _⟩ := hr.led f x hx
      exact ⟨c, hc, hkey, hr.not_hasReturned hx hfar hc⟩
    · rcases hstep.entered h.sound hp with hp | ⟨f, x, hx, hkey, hstage, ht⟩
      · exact .inl hp
      · have hran : x.ran = true := hr.allows_of_eq hx hstage
        exact .inr ⟨f, x, hx, hkey, hran, hstage, ht⟩
  · obtain ⟨s, hs, hrep⟩ := hrun.represented
    refine ⟨⟨s, hs, hrep⟩, fun x hx y hy hleads hleads' hkey => ?_, fun key p hp => ?_⟩
    · exact hrep.leading_unique hs.routed hx hy hleads hleads' (congrArg ProgramKey.name hkey)
    · rw [← hrep.programs] at hp
      exact hrep.mem_made hs.routed (hs.sound.lookup hp)

/-- Two calls for one key share a compile that has failed: both say that it was not a hit. -/
theorem not_reported_once : ¬ ∀ s : Traffic String Unit, Reachable (fun _ => false) 0 s →
    ∀ f x, s.flights f = some x → x.ran = true →
      ∀ i j, s.Reports f i false → s.Reports f j false → i = j := by
  intro h
  obtain ⟨s, f, x, hs, hx, hran, _, hfirst, hsecond⟩ :=
    exists_reachable_shared (fun _ : Unit => false) 0 (.error () : Except Unit String)
      fun _ _ => rfl
  exact Nat.zero_ne_one (h s hs f x hx hran 0 1 hfirst hsecond)

end Traffic

end KernelGraph
