/-
  Which programs a program cache can hand out.

  A program is in the cache, or in the result of a call, only after a compile came back with it.  So
  a property of all programs that compiles come back with is one of all programs that ever come out:
  every operation keeps `Yields`.
-/
import KernelGraph.Compile.ProgramCache
import KernelGraph.Proofs.Lru

namespace KernelGraph

variable {P ε : Type}

/-- Keys of one format are told apart by their names. -/
theorem ProgramKey.eq_of_name {k k' : ProgramKey} (hformat : k.format = k'.format)
    (hname : k.name = k'.name) : k = k' := by
  cases k with | mk format key =>
  cases k' with | mk format' key' =>
  cases hformat
  have hlist := congrArg String.toList hname
  simp only [ProgramKey.name, String.toList_append] at hlist
  cases String.toList_injective (List.append_cancel_left hlist)
  rfl

/-- A program that the call came back with has the property. -/
def Call.Yields (Q : P → Prop) (x : Call P ε) : Prop :=
  ∀ p hit, x.phase = .returned (.ok (p, hit)) → Q p

namespace ProgramCache

/-- Every program of the cache and of its calls has the property. -/
structure Yields (Q : P → Prop) (c : ProgramCache P ε) : Prop where
  programs : c.programs.Holds fun _ p => Q p
  calls : ∀ x ∈ c.calls, x.Yields Q

section
variable {Q : P → Prop} {c : ProgramCache P ε}

theorem yields_empty (limit : Int) : Yields Q (empty limit : ProgramCache P ε) where
  programs := Lru.holds_empty _
  calls _ h := by cases h

theorem Yields.mono {Q' : P → Prop} (h : c.Yields Q) (hQ : ∀ p, Q p → Q' p) : c.Yields Q' where
  programs := h.programs.mono fun _ p => hQ p
  calls x hx p hit hphase := hQ p (h.calls x hx p hit hphase)

/-- What a call came back with has the property. -/
theorem Yields.result? (h : c.Yields Q) {id : Nat} {p : P} {hit : Bool}
    (hr : c.result? id = some (.ok (p, hit))) : Q p := by
  rw [ProgramCache.result?] at hr
  cases hcall : c.call? id with
  | none => rw [hcall] at hr; cases hr
  | some x =>
    rw [hcall, Option.map_some] at hr
    refine h.calls x (List.mem_of_find?_eq_some hcall) p hit ?_
    cases hphase : x.phase with
    | leading => rw [hphase] at hr; cases hr
    | joined => rw [hphase] at hr; cases hr
    | returned r =>
      rw [hphase] at hr
      cases hr
      rfl

/-! ## Asking -/

/-- Asking for a key yields a program of the cache or none. -/
theorem Yields.ask (h : c.Yields Q) (call : Call P ε) :
    (c.ask call).2.Yields Q ∧ (c.ask call).1.Yields Q := by
  obtain ⟨hget, hfound⟩ := h.programs.get call.key
  rw [ProgramCache.ask]
  split
  · rename_i p programs heq
    rw [heq] at hget hfound
    refine ⟨⟨hget, h.calls⟩, fun q hit hphase => ?_⟩
    cases hphase
    exact hfound p rfl
  · rename_i programs heq
    rw [heq] at hget
    split
    · exact ⟨⟨hget, h.calls⟩, fun q hit hphase => by cases hphase⟩
    · -- a leader looks once more before it compiles
      obtain ⟨hget', hfound'⟩ := hget.get call.key
      split
      · rename_i p programs' heq'
        rw [heq'] at hget' hfound'
        refine ⟨⟨hget', h.calls⟩, fun q hit hphase => ?_⟩
        cases hphase
        exact hfound' p rfl
      · rename_i programs' heq'
        rw [heq'] at hget'
        exact ⟨⟨hget', h.calls⟩, fun q hit hphase => by cases hphase⟩

theorem Yields.begin (h : c.Yields Q) (id : Nat) (key : ProgramKey) :
    (c.begin id key).Yields Q := by
  obtain ⟨hc, hcall⟩ := h.ask { id, key, phase := .joined }
  refine ⟨hc.programs, fun x hx => ?_⟩
  rcases List.mem_append.1 hx with hx | hx
  · exact hc.calls x hx
  · rw [List.mem_singleton.1 hx]
    exact hcall

/-! ## Changing calls -/

theorem Yields.modifyCall (h : c.Yields Q) (id : Nat) {f : Call P ε → Call P ε}
    (hf : ∀ x, x.Yields Q → (f x).Yields Q) : (c.modifyCall id f).Yields Q := by
  refine ⟨h.programs, fun x hx => ?_⟩
  obtain ⟨y, hy, rfl⟩ := List.mem_map.1 hx
  split
  · exact hf y (h.calls y hy)
  · exact h.calls y hy

theorem Yields.deliver (h : c.Yields Q) (isCancelled : ε → Bool) {outcome : Except ε P}
    (houtcome : ∀ p, outcome = .ok p → Q p) (id : Nat) :
    (c.deliver isCancelled outcome id).Yields Q := by
  rw [ProgramCache.deliver]
  split
  · exact h
  · rename_i call hcall
    split
    · rename_i p
      refine h.modifyCall id fun x _ q hit hphase => ?_
      cases hphase
      exact houtcome p rfl
    · split
      · obtain ⟨hc, hcall⟩ := h.ask call
        exact hc.modifyCall id fun _ _ => hcall
      · exact h.modifyCall id fun x _ q hit hphase => by cases hphase

/-- **A compile comes back**: if its program has the property, all programs still have it. -/
theorem Yields.compiled (h : c.Yields Q) (isCancelled : ε → Bool) (id : Nat)
    {outcome : Except ε P} (houtcome : ∀ p, outcome = .ok p → Q p) :
    (c.compiled isCancelled id outcome).Yields Q := by
  unfold ProgramCache.compiled
  split
  · exact h
  · rename_i call hcall
    -- the followers are given the outcome after the leader has stored it
    refine List.foldlRecOn _ _ ?_ fun c hc joiner _ => hc.deliver isCancelled houtcome joiner
    apply Yields.modifyCall
    · refine ⟨?_, h.calls⟩
      cases outcome with
      | ok p => exact h.programs.set (houtcome p rfl)
      | error e => exact h.programs
    · intro x _ q hit hphase
      injection hphase with hphase
      split at hphase
      · cases hphase
      · cases outcome with
        | ok p =>
          cases hphase
          exact houtcome q rfl
        | error e => cases hphase

theorem Yields.cancel (h : c.Yields Q) (id : Nat) : (c.cancel id).Yields Q := by
  refine h.modifyCall id fun x hx p hit hphase => ?_
  split at hphase
  · cases hphase
  · exact hx p hit hphase

theorem Yields.forget (h : c.Yields Q) (id : Nat) : (c.forget id).Yields Q :=
  ⟨h.programs, fun x hx => h.calls x (List.mem_of_mem_filter hx)⟩

theorem Yields.lookup (h : c.Yields Q) (key : ProgramKey) : (c.lookup key).2.Yields Q :=
  ⟨(h.programs.get key).1, h.calls⟩

theorem Yields.clear (h : c.Yields Q) : c.clear.Yields Q := ⟨h.programs.clear _, h.calls⟩

end

/-! ## A single caller -/

/-- A first call for a key that is not there leads. -/
theorem begin_miss {c : ProgramCache P ε} {key : ProgramKey}
    (hmiss : c.programs.entries[key]? = none)
    (hflight : c.flights.lookup key.name = none) (id : Nat) :
    ∃ programs, c.begin id key =
      { programs
        flights := c.flights ++ [(key.name, id)]
        compiles := c.compiles + 1
        calls := c.calls ++ [{ id, key, ran := true, phase := .leading }] } := by
  have hget : ∀ n, ({ c.programs with misses := n } : Lru ProgramKey P).get key =
      (none, { c.programs with misses := n + 1 }) := by
    intro n
    simp only [Lru.get, hmiss]
  refine ⟨{ c.programs with misses := c.programs.misses + 1 + 1 }, ?_⟩
  have hfirst := hget c.programs.misses
  unfold begin ask
  simp only [hfirst, hget, hflight]
  rfl

/-- What a call returns that has led a flight and was not cancelled. -/
def led (outcome : Except ε P) : Except (CallError ε) (P × Bool) :=
  match outcome with
  | .ok p => .ok (p, false)
  | .error e => .error (.failed e)

/-- **The compile of the only call** comes back. -/
theorem compiled_alone {isCancelled : ε → Bool} {c : ProgramCache P ε} {id : Nat} {key : ProgramKey}
    (hflights : c.flights = [(key.name, id)])
    (hcalls : c.calls = [{ id, key, ran := true, phase := .leading }]) (outcome : Except ε P) :
    c.compiled isCancelled id outcome = { c with
      programs := match outcome with
        | .ok p => c.programs.set key p
        | .error _ => c.programs
      flights := []
      calls := [{ id, key, ran := true, phase := .returned (led outcome) }] } := by
  cases outcome with
  | ok p => simp [compiled, call?, joiners, hflights, hcalls, modifyCall, led]
  | error e => simp [compiled, call?, joiners, hflights, hcalls, modifyCall, led]

end ProgramCache

end KernelGraph
