/-
  Which keys the programs that a cache hands out belong to.

  The cache is asked for keys and stores programs under keys, but its flights are known by the names
  of keys, `format/hashKey`, and a name does not tell where the format ends.  A call that joins a
  flight of its name is given the flight's program, whatever key it was compiled for:

      every program handed out was compiled for its key  ↔  different keys have different names

  where the keys are those that the cache is asked for.  The law holds of all traffic and of the
  runs of the operations alike: the first is stronger, and a run of three operations shows that the
  second is not weaker.
-/
import KernelGraph.Proofs.Cache.Represents

namespace KernelGraph

variable {P ε : Type}

/-! ## Names -/

/-- Formats without a slash can be read off a name. -/
theorem ProgramKey.injOn_name : Set.InjOn ProgramKey.name {key | '/' ∉ key.format.toList} := by
  have htake : ∀ k : ProgramKey, '/' ∉ k.format.toList →
      k.name.toList.takeWhile (fun c => c != '/') = k.format.toList := by
    intro k hk
    have hall : ∀ c ∈ k.format.toList, (c != '/') = true := fun c hc =>
      bne_iff_ne.2 fun heq => hk (heq ▸ hc)
    simp [ProgramKey.name, List.takeWhile_append_of_pos hall]
  intro k hk k' hk' hname
  have hformat : k.format = k'.format := by
    rw [← String.toList_inj, ← htake k hk, ← htake k' hk', hname]
  exact ProgramKey.eq_of_name hformat hname

/-! ## Handing out -/

namespace Traffic

/-- Every program that a call came back with was compiled for its key. -/
def HandsOutOwn (s : Traffic P ε) : Prop :=
  ∀ id c f p hit, s.callers id = some c → c.place = .returned f (.ok p) hit → s.Compiled c.key p

/-- The cache is asked for certain keys only. -/
def AskedFor (K : Set ProgramKey) (s : Traffic P ε) : Prop :=
  ∀ id c, s.callers id = some c → c.key ∈ K

/-- Different names keep programs apart. -/
theorem Reachable.handsOutOwn {isCancelled : ε → Bool} {limit : Int} {s : Traffic P ε}
    {K : Set ProgramKey} (h : Reachable isCancelled limit s) (hK : K.InjOn ProgramKey.name)
    (hasked : s.AskedFor K) : s.HandsOutOwn := by
  intro id c flight p hit hc hplace
  rcases h.sound.returned h.routed hc hplace with hp | ⟨f, x, _, hx, _, hname, hp⟩
  · exact hp
  · obtain ⟨c', hc', hkey, _⟩ := h.routed.led f x hx
    have hmem : x.key ∈ K := hkey ▸ hasked _ c' hc'
    rwa [hK hmem (hasked id c hc) hname] at hp

end Traffic

namespace ProgramCache

open Traffic

/-- Every program that a call came back with was made for its key. -/
def HandsOutOwn (made : List (ProgramKey × P)) (c : ProgramCache P ε) : Prop :=
  ∀ x ∈ c.calls, ∀ p hit, x.phase = .returned (.ok (p, hit)) → (x.key, p) ∈ made

section
variable {isCancelled : ε → Bool} {limit : Int} {asked : List (Nat × ProgramKey)}
  {made : List (ProgramKey × P)} {c : ProgramCache P ε} {s : Traffic P ε}

/-- What holds of all traffic holds of the operations. -/
theorem Run.handsOutOwn (h : Run isCancelled limit asked made c) {K : Set ProgramKey}
    (hK : ∀ s : Traffic P ε, Reachable isCancelled limit s → s.AskedFor K → s.HandsOutOwn)
    (hasked : ∀ a ∈ asked, a.2 ∈ K) : c.HandsOutOwn made := by
  obtain ⟨s, hs, hrep⟩ := h.represented
  intro x hx p hit hphase
  obtain ⟨y, hy, hkey, _, hshown⟩ := hrep.stands x hx
  rw [hphase] at hshown
  obtain ⟨f, hplace⟩ := hshown
  have hown := hK s hs (fun id y hy => hasked _ (hrep.callers id y hy)) x.id y f p hit hy hplace
  rw [← hkey]
  exact hrep.mem_made hs.routed hown

/-- **Two keys of one name**: the second call joins the flight of the first, and comes back with the
    program that was made for the first key. -/
theorem exists_run_shared (isCancelled : ε → Bool) (limit : Int) {k k' : ProgramKey}
    (hname : k.name = k'.name) (p : P) :
    ∃ c : ProgramCache P ε, Run isCancelled limit [(0, k), (1, k')] [(k, p)] c ∧
      ∃ x ∈ c.calls, x.key = k' ∧ x.phase = .returned (.ok (p, true)) := by
  obtain ⟨c, hrun, hcalls⟩ := exists_run_joined (P := P) isCancelled limit hname
  have hleader : c.call? 0 = some { id := 0, key := k, ran := true, phase := .leading } := by
    simp [call?, hcalls]
  have hback : (c.compiled isCancelled 0 (.ok p)).calls =
      [{ id := 0, key := k, ran := true, phase := .returned (.ok (p, false)) },
        { id := 1, key := k', phase := .returned (.ok (p, true)) }] := by
    simp [compiled, call?, hcalls, joiners, deliver, modifyCall, hname]
  refine ⟨_, hrun.compiled hleader rfl (.ok p), ?_⟩
  rw [hback]
  exact ⟨_, List.mem_cons_of_mem _ (List.mem_singleton_self _), rfl, rfl⟩

/-- A cache that hands out what was made for its keys tells the keys apart by their names. -/
theorem injOn_name_of_run [Inhabited P] {K : Set ProgramKey}
    (h : ∀ asked made (c : ProgramCache P ε), Run isCancelled limit asked made c →
      (∀ a ∈ asked, a.2 ∈ K) → c.HandsOutOwn made) : K.InjOn ProgramKey.name := by
  intro k hk k' hk' hname
  obtain ⟨c, hrun, x, hx, rfl, hphase⟩ :=
    exists_run_shared (P := P) (ε := ε) isCancelled limit hname default
  have hasked : ∀ a ∈ [((0 : Nat), k), (1, x.key)], a.2 ∈ K := by
    simpa using ⟨hk, hk'⟩
  have hmade := h _ _ c hrun hasked x hx default true hphase
  exact (congrArg Prod.fst (List.mem_singleton.1 hmade)).symm

end

end ProgramCache

/-! ## The law -/

section
open ProgramCache

/-- **What a cache hands out.**  A program that is looked up was compiled for its key, and one that
    a call came back with was compiled for a key of the same name.  It was compiled for the call's
    own key, in any traffic of calls for certain keys, exactly if these keys have different names;
    and exactly then in the runs of the operations.  Keys whose formats have no slash have different
    names. -/
theorem Traffic.handsOutOwn_iff_injOn_name [Inhabited P] (isCancelled : ε → Bool) (limit : Int)
    (K : Set ProgramKey) :
    (∀ s : Traffic P ε, Traffic.Reachable isCancelled limit s →
      (∀ key p, (s.programs.get key).1 = some p → s.Compiled key p) ∧
      ∀ id c f p hit, s.callers id = some c → c.place = .returned f (.ok p) hit →
        ∃ key, key.name = c.key.name ∧ s.Compiled key p) ∧
    ((∀ s : Traffic P ε, Traffic.Reachable isCancelled limit s → s.AskedFor K → s.HandsOutOwn) ↔
      K.InjOn ProgramKey.name) ∧
    ((∀ asked made (c : ProgramCache P ε), Run isCancelled limit asked made c →
      (∀ a ∈ asked, a.2 ∈ K) → c.HandsOutOwn made) ↔ K.InjOn ProgramKey.name) ∧
    Set.InjOn ProgramKey.name {key | '/' ∉ key.format.toList} := by
  have htraffic : K.InjOn ProgramKey.name → ∀ s : Traffic P ε,
      Traffic.Reachable isCancelled limit s → s.AskedFor K → s.HandsOutOwn :=
    fun hK s hs hasked => hs.handsOutOwn hK hasked
  have hruns : (∀ s : Traffic P ε, Traffic.Reachable isCancelled limit s → s.AskedFor K →
      s.HandsOutOwn) → ∀ asked made (c : ProgramCache P ε), Run isCancelled limit asked made c →
        (∀ a ∈ asked, a.2 ∈ K) → c.HandsOutOwn made :=
    fun h asked made c hrun hasked => hrun.handsOutOwn h hasked
  refine ⟨fun s hs => ⟨fun key p hp => hs.sound.lookup hp, fun id c f p hit hc hplace => ?_⟩,
    ⟨fun h => injOn_name_of_run (hruns h), htraffic⟩,
    ⟨injOn_name_of_run, fun hK => hruns (htraffic hK)⟩, ProgramKey.injOn_name⟩
  rcases hs.sound.returned hs.routed hc hplace with hp | ⟨f, x, _, _, _, hname, hp⟩
  · exact ⟨c.key, rfl, hp⟩
  · exact ⟨x.key, hname, hp⟩

/-- The keys `a` with `b/c`, and `a/b` with `c`, have one name: the call for the second comes back
    with the program that was made for the first. -/
theorem ProgramCache.not_handsOutOwn : ¬ ∀ asked made (c : ProgramCache String Unit),
    Run (fun _ => false) 0 asked made c → c.HandsOutOwn made := by
  intro h
  have hname : (⟨"a", "b/c"⟩ : ProgramKey).name = (⟨"a/b", "c"⟩ : ProgramKey).name := by decide
  obtain ⟨c, hrun, x, hx, hkey, hphase⟩ := exists_run_shared (ε := Unit)
    (fun _ => false) 0 hname "x"
  have hmade := h _ _ c hrun x hx "x" true hphase
  rw [hkey] at hmade
  revert hmade
  decide

end

end KernelGraph
