/-
  Flights: calls of the program cache that wait for one another.

  A call that waits has joined a flight, and a flight has a caller that leads it and whose compile
  is running.  `Flies` states this, and every operation keeps it: when a compile comes back, its
  flight ends, and each caller that had joined it is given the outcome or asks again.  So calls
  never wait in a circle.  With every compile that comes back, and with every call that is
  forgotten, less is left to do; `weight` measures it.
-/
import Mathlib.Algebra.Order.BigOperators.Group.List
import Mathlib.Algebra.Order.Ring.Nat
import KernelGraph.Proofs.ProgramCache

namespace KernelGraph

variable {P ε : Type}

/-- What a call is known by. -/
def Call.label (x : Call P ε) : Nat × ProgramKey := (x.id, x.key)

/-- What a call has still to do: to wait and to be forgotten, or only to be forgotten. -/
def Call.weight (x : Call P ε) : Nat :=
  match x.phase with
  | .returned _ => 1
  | _ => 2

theorem Call.weight_le (x : Call P ε) : x.weight ≤ 2 := by
  unfold Call.weight
  split
  · exact Nat.le_succ 1
  · exact Nat.le_refl 2

theorem Call.weight_pos (x : Call P ε) : 0 < x.weight := by
  unfold Call.weight
  split
  · exact Nat.one_pos
  · exact Nat.two_pos

namespace ProgramCache

/-- The labels of the calls. -/
def labels (c : ProgramCache P ε) : List (Nat × ProgramKey) := c.calls.map Call.label

/-- What all calls have still to do. -/
def weight (c : ProgramCache P ε) : Nat := (c.calls.map Call.weight).sum

/-- Every flight has a leader, and every call that has joined a flight finds it, except for those
    that are about to be given an outcome. -/
structure Flies (c : ProgramCache P ε) (waiting : List Nat) : Prop where
  nodup : (c.calls.map Call.id).Nodup
  led : ∀ f ∈ c.flights, ∃ x ∈ c.calls, x.id = f.2 ∧ x.key.name = f.1 ∧ x.phase = .leading
  joined : ∀ x ∈ c.calls, x.phase = .joined →
    x.id ∈ waiting ∨ ∃ f ∈ c.flights, f.1 = x.key.name
  waiting : ∀ x ∈ c.calls, x.id ∈ waiting → x.phase = .joined

section
variable {c c' : ProgramCache P ε} {id : Nat} {call : Call P ε} {W : List Nat}

theorem map_id_calls (c : ProgramCache P ε) : c.calls.map Call.id = c.labels.map Prod.fst := by
  unfold labels
  rw [List.map_map]
  rfl

/-- Calls have different ids. -/
theorem Flies.eq_of_id (h : c.Flies W) {x y : Call P ε} (hx : x ∈ c.calls) (hy : y ∈ c.calls)
    (hid : x.id = y.id) : x = y :=
  List.inj_on_of_nodup_map h.nodup hx hy hid

theorem mem_of_call? (h : c.call? id = some call) : call ∈ c.calls ∧ call.id = id :=
  ⟨List.mem_of_find?_eq_some h, by simpa using List.find?_some h⟩

theorem exists_call? {x : Call P ε} (hx : x ∈ c.calls) : ∃ y, c.call? x.id = some y := by
  rw [← Option.isSome_iff_exists]
  unfold call?
  rw [List.find?_isSome]
  exact ⟨x, hx, decide_eq_true rfl⟩

theorem mem_of_result? {r : Except (CallError ε) (P × Bool)} (h : c.result? id = some r) :
    ∃ x ∈ c.calls, x.id = id ∧ x.phase = .returned r := by
  unfold result? at h
  cases hcall : c.call? id with
  | none => rw [hcall] at h; cases h
  | some x =>
    rw [hcall, Option.map_some] at h
    obtain ⟨hx, hid⟩ := mem_of_call? hcall
    refine ⟨x, hx, hid, ?_⟩
    cases hphase : x.phase with
    | returned r' => rw [hphase] at h; cases h; rfl
    | leading => rw [hphase] at h; cases h
    | joined => rw [hphase] at h; cases h

theorem mem_of_isLeading (h : c.isLeading id = true) :
    ∃ x, c.call? id = some x ∧ x.phase = .leading := by
  unfold isLeading at h
  cases hcall : c.call? id with
  | none => rw [hcall] at h; cases h
  | some x =>
    rw [hcall, Option.map_some] at h
    refine ⟨x, rfl, ?_⟩
    cases hphase : x.phase with
    | leading => rfl
    | returned r => rw [hphase] at h; cases h
    | joined => rw [hphase] at h; cases h

/-- A call that has neither come back nor leads has joined a flight. -/
theorem phase_eq_joined (hcall : c.call? id = some call) (hresult : c.result? id = none)
    (hleading : c.isLeading id = false) : call.phase = .joined := by
  unfold result? at hresult
  unfold isLeading at hleading
  rw [hcall, Option.map_some] at hresult hleading
  cases hphase : call.phase with
  | joined => rfl
  | leading => rw [hphase] at hleading; cases hleading
  | returned r => rw [hphase] at hresult; cases hresult

/-! ## Asking -/

/-- What asking for a key can come to. -/
inductive Asks (c : ProgramCache P ε) (call : Call P ε) : Call P ε × ProgramCache P ε → Prop
  /-- The program is there. -/
  | finds {p : P} {programs : Lru ProgramKey P}
      (hp : ∀ Q : ProgramKey → P → Prop, c.programs.Holds Q → Q call.key p ∧ programs.Holds Q) :
      Asks c call ({ call with phase := .returned (.ok (p, true)) }, { c with programs })
  /-- A flight is joined. -/
  | joins {programs : Lru ProgramKey P} (hflight : ∃ f ∈ c.flights, f.1 = call.key.name)
      (hp : ∀ Q : ProgramKey → P → Prop, c.programs.Holds Q → programs.Holds Q) :
      Asks c call ({ call with phase := .joined }, { c with programs })
  /-- A flight is started. -/
  | leads {programs : Lru ProgramKey P}
      (hp : ∀ Q : ProgramKey → P → Prop, c.programs.Holds Q → programs.Holds Q) :
      Asks c call ({ call with phase := .leading, ran := true },
        { c with
          programs
          flights := c.flights ++ [(call.key.name, call.id)]
          compiles := c.compiles + 1 })

theorem ask_asks (c : ProgramCache P ε) (call : Call P ε) : Asks c call (c.ask call) := by
  unfold ask
  split
  · rename_i p programs heq
    refine .finds fun Q hQ => ?_
    have hget := hQ.get call.key
    rw [heq] at hget
    exact ⟨hget.2 p rfl, hget.1⟩
  · rename_i programs heq
    have hfirst : ∀ Q : ProgramKey → P → Prop, c.programs.Holds Q → programs.Holds Q := by
      intro Q hQ
      have hget := (hQ.get call.key).1
      rw [heq] at hget
      exact hget
    split
    · rename_i hflight
      refine .joins ?_ hfirst
      obtain ⟨leader, hleader⟩ := Option.isSome_iff_exists.1 hflight
      obtain ⟨l, r, hlist, _⟩ := List.lookup_eq_some_iff.1 hleader
      exact ⟨(call.key.name, leader), by rw [hlist]; simp, rfl⟩
    · split
      · rename_i p programs' heq'
        refine .finds fun Q hQ => ?_
        have hget := (hfirst Q hQ).get call.key
        rw [heq'] at hget
        exact ⟨hget.2 p rfl, hget.1⟩
      · rename_i programs' heq'
        refine .leads fun Q hQ => ?_
        have hget := ((hfirst Q hQ).get call.key).1
        rw [heq'] at hget
        exact hget

/-- A new call has another id than those before. -/
theorem Flies.begin (h : c.Flies []) (hid : id ∉ c.calls.map Call.id) (key : ProgramKey) :
    (c.begin id key).Flies [] := by
  unfold ProgramCache.begin
  have hasks := ask_asks c { id, key, phase := .joined }
  generalize c.ask { id, key, phase := .joined } = out at hasks
  obtain ⟨x, c'⟩ := out
  dsimp only
  -- the calls so far are as they were, and so are their flights
  obtain ⟨hcalls, hx, hold, hnew, hjoined⟩ : c'.calls = c.calls ∧ x.id = id ∧
      (∀ f ∈ c.flights, f ∈ c'.flights) ∧
      (∀ f ∈ c'.flights, f ∈ c.flights ∨ f = (x.key.name, id) ∧ x.phase = .leading) ∧
      (x.phase = .joined → ∃ f ∈ c'.flights, f.1 = x.key.name) := by
    cases hasks with
    | finds _ => exact ⟨rfl, rfl, fun f hf => hf, fun f hf => Or.inl hf, fun hx => by cases hx⟩
    | joins hflight _ => exact ⟨rfl, rfl, fun f hf => hf, fun f hf => Or.inl hf, fun _ => hflight⟩
    | leads _ =>
      refine ⟨rfl, rfl, fun f hf => List.mem_append_left _ hf,
        fun f hf => ?_, fun hx => by cases hx⟩
      rcases List.mem_append.1 hf with hf | hf
      · exact Or.inl hf
      · exact Or.inr ⟨List.mem_singleton.1 hf, rfl⟩
  refine ⟨?_, fun f hf => ?_, fun y hy hphase => Or.inr ?_, fun y _ hy => by cases hy⟩
  · rw [List.map_append, hcalls, List.map_singleton, hx, List.nodup_append]
    refine ⟨h.nodup, List.pairwise_singleton _ _, fun a ha b hb hab => ?_⟩
    rw [List.mem_singleton.1 hb] at hab
    exact hid (hab ▸ ha)
  · rcases hnew f hf with hf | ⟨rfl, hleading⟩
    · obtain ⟨y, hy, hrest⟩ := h.led f hf
      exact ⟨y, List.mem_append_left _ (by rw [hcalls]; exact hy), hrest⟩
    · exact ⟨x, List.mem_append_right _ (List.mem_singleton_self x), hx, rfl, hleading⟩
  · rcases List.mem_append.1 hy with hy | hy
    · rw [hcalls] at hy
      rcases h.joined y hy hphase with hwaiting | ⟨f, hf, hname⟩
      · cases hwaiting
      · exact ⟨f, hold f hf, hname⟩
    · cases List.mem_singleton.1 hy
      exact hjoined hphase

theorem labels_begin (c : ProgramCache P ε) (id : Nat) (key : ProgramKey) :
    (c.begin id key).labels = c.labels ++ [(id, key)] := by
  unfold ProgramCache.begin
  have hasks := ask_asks c { id, key, phase := .joined }
  generalize c.ask { id, key, phase := .joined } = out at hasks
  cases hasks with
  | finds _ => exact List.map_append
  | joins _ _ => exact List.map_append
  | leads _ => exact List.map_append

theorem holds_begin {Q : ProgramKey → P → Prop} (h : c.programs.Holds Q) (id : Nat)
    (key : ProgramKey) : (c.begin id key).programs.Holds Q := by
  unfold ProgramCache.begin
  have hasks := ask_asks c { id, key, phase := .joined }
  generalize c.ask { id, key, phase := .joined } = out at hasks
  cases hasks with
  | finds hp => exact (hp Q h).2
  | joins _ hp => exact hp Q h
  | leads hp => exact hp Q h

theorem weight_begin_le (c : ProgramCache P ε) (id : Nat) (key : ProgramKey) :
    (c.begin id key).weight ≤ c.weight + 2 := by
  unfold ProgramCache.begin
  have hasks := ask_asks c { id, key, phase := .joined }
  generalize c.ask { id, key, phase := .joined } = out at hasks
  obtain ⟨x, c'⟩ := out
  have hcalls : c'.calls = c.calls := by
    cases hasks with
    | finds _ => rfl
    | joins _ _ => rfl
    | leads _ => rfl
  unfold weight
  rw [List.map_append, List.sum_append, hcalls, List.map_singleton, List.sum_singleton]
  exact Nat.add_le_add_left x.weight_le _

/-! ## Giving outcomes -/

/-- The call with an id is changed.  It was waiting for an outcome, and either it comes back or it
    finds a flight or leads one. -/
theorem Flies.settle {f : Call P ε → Call P ε} (h : c.Flies (id :: W)) (hid : id ∉ W)
    (hcalls : c'.calls = c.calls.map fun x => if x.id = id then f x else x)
    (hlabel : ∀ x ∈ c.calls, x.id = id → (f x).label = x.label)
    (hold : ∀ l ∈ c.flights, l ∈ c'.flights)
    (hnew : ∀ l ∈ c'.flights, l ∈ c.flights ∨
      ∃ x ∈ c.calls, x.id = id ∧ l = (x.key.name, id) ∧ (f x).phase = .leading)
    (hjoined : ∀ x ∈ c.calls, x.id = id → (f x).phase = .joined →
      ∃ l ∈ c'.flights, l.1 = x.key.name) : c'.Flies W := by
  have hids : c'.calls.map Call.id = c.calls.map Call.id := by
    rw [hcalls, List.map_map]
    refine List.map_congr_left fun x hx => ?_
    dsimp only [Function.comp]
    split
    · rename_i hx'
      exact congrArg Prod.fst (hlabel x hx hx')
    · rfl
  refine ⟨by rw [hids]; exact h.nodup, fun l hl => ?_, fun x hx hphase => ?_,
    fun x hx hwaiting => ?_⟩
  · rcases hnew l hl with hl | ⟨x, hx, hx', rfl, hleading⟩
    · obtain ⟨x, hx, hx', hname, hleading⟩ := h.led l hl
      refine ⟨x, ?_, hx', hname, hleading⟩
      rw [hcalls]
      refine List.mem_map.2 ⟨x, hx, if_neg fun heq => ?_⟩
      -- a leader does not wait
      have hwaits := h.waiting x hx (by rw [heq]; exact List.mem_cons_self ..)
      rw [hleading] at hwaits
      cases hwaits
    · refine ⟨f x, ?_, ?_, ?_, hleading⟩
      · rw [hcalls]
        exact List.mem_map.2 ⟨x, hx, if_pos hx'⟩
      · exact (congrArg Prod.fst (hlabel x hx hx')).trans hx'
      · exact congrArg (fun l => l.2.name) (hlabel x hx hx')
  · rw [hcalls] at hx
    obtain ⟨y, hy, rfl⟩ := List.mem_map.1 hx
    by_cases hy' : y.id = id
    · rw [if_pos hy'] at hphase ⊢
      obtain ⟨l, hl, hname⟩ := hjoined y hy hy' hphase
      refine Or.inr ⟨l, hl, hname.trans ?_⟩
      exact congrArg (fun l => l.2.name) (hlabel y hy hy').symm
    · rw [if_neg hy'] at hphase ⊢
      rcases h.joined y hy hphase with hwaiting | ⟨l, hl, hname⟩
      · exact Or.inl ((List.mem_cons.1 hwaiting).resolve_left hy')
      · exact Or.inr ⟨l, hold l hl, hname⟩
  · rw [hcalls] at hx
    obtain ⟨y, hy, rfl⟩ := List.mem_map.1 hx
    by_cases hy' : y.id = id
    · rw [if_pos hy', show (f y).id = id from (congrArg Prod.fst (hlabel y hy hy')).trans hy']
        at hwaiting
      exact absurd hwaiting hid
    · rw [if_neg hy'] at hwaiting ⊢
      exact h.waiting y hy (List.mem_cons_of_mem _ hwaiting)

/-- What is done to a call that waits for an outcome: it is given a result, or it asks again. -/
inductive Delivers (isCancelled : ε → Bool) (outcome : Except ε P) (c : ProgramCache P ε)
    (call : Call P ε) : ProgramCache P ε → Prop
  | succeeds {p : P} (hp : outcome = .ok p) : Delivers isCancelled outcome c call
      (c.modifyCall call.id fun x => { x with phase := .returned (.ok (p, true)) })
  | fails {e : ε} (he : outcome = .error e) (hcancelled : isCancelled e = false) :
      Delivers isCancelled outcome c call
        (c.modifyCall call.id fun x => { x with phase := .returned (.error (.failed e)) })
  | again {e : ε} {out : Call P ε × ProgramCache P ε} (he : outcome = .error e)
      (hcancelled : isCancelled e = true) (hout : Asks c call out) :
      Delivers isCancelled outcome c call (out.2.modifyCall call.id fun _ => out.1)

section
variable {isCancelled : ε → Bool} {outcome : Except ε P}

theorem deliver_delivers (hcall : c.call? id = some call) :
    Delivers isCancelled outcome c call (c.deliver isCancelled outcome id) := by
  obtain ⟨_, rfl⟩ := mem_of_call? hcall
  unfold deliver
  rw [hcall]
  dsimp only
  cases outcome with
  | ok p => exact .succeeds rfl
  | error e =>
    dsimp only
    split
    · rename_i hcancelled
      exact .again rfl hcancelled (ask_asks c call)
    · rename_i hcancelled
      exact .fails rfl (by simpa using hcancelled)

theorem Asks.fields {out : Call P ε × ProgramCache P ε} (h : Asks c call out) :
    out.2.calls = c.calls ∧ out.1.label = call.label ∧ out.1.cancelled = call.cancelled := by
  cases h with
  | finds _ => exact ⟨rfl, rfl, rfl⟩
  | joins _ _ => exact ⟨rfl, rfl, rfl⟩
  | leads _ => exact ⟨rfl, rfl, rfl⟩

theorem Delivers.holds {Q : ProgramKey → P → Prop} (h : c.programs.Holds Q)
    (hd : Delivers isCancelled outcome c call c') : c'.programs.Holds Q := by
  cases hd with
  | succeeds _ => exact h
  | fails _ _ => exact h
  | again _ _ hout =>
    cases hout with
    | finds hp => exact (hp Q h).2
    | joins _ hp => exact hp Q h
    | leads hp => exact hp Q h

theorem Flies.delivers (h : c.Flies (call.id :: W)) (hmem : call ∈ c.calls) (hid : call.id ∉ W)
    (hd : Delivers isCancelled outcome c call c') : c'.Flies W := by
  cases hd with
  | succeeds _ =>
    exact h.settle hid rfl (fun _ _ _ => rfl) (fun _ hl => hl) (fun _ hl => Or.inl hl)
      fun _ _ _ hphase => by cases hphase
  | fails _ _ =>
    exact h.settle hid rfl (fun _ _ _ => rfl) (fun _ hl => hl) (fun _ hl => Or.inl hl)
      fun _ _ _ hphase => by cases hphase
  | @again e out _ _ hout =>
    have hself : ∀ x ∈ c.calls, x.id = call.id → x = call := fun x hx => h.eq_of_id hx hmem
    have hlabel : ∀ x ∈ c.calls, x.id = call.id → out.1.label = x.label := fun x hx hx' => by
      rw [hself x hx hx', hout.fields.2.1]
    have hcalls : (out.2.modifyCall call.id fun _ => out.1).calls =
        c.calls.map fun x => if x.id = call.id then out.1 else x := by
      rw [← hout.fields.1]
      rfl
    cases hout with
    | finds _ =>
      exact h.settle (f := fun _ => { call with phase := .returned (.ok (_, true)) }) hid hcalls
        hlabel (fun _ hl => hl) (fun _ hl => Or.inl hl) fun _ _ _ hphase => by cases hphase
    | joins hflight _ =>
      refine h.settle (f := fun _ => { call with phase := .joined }) hid hcalls hlabel
        (fun _ hl => hl) (fun _ hl => Or.inl hl) fun x hx hx' _ => ?_
      rw [hself x hx hx']
      exact hflight
    | leads _ =>
      refine h.settle (f := fun _ => { call with phase := .leading, ran := true }) hid hcalls hlabel
        (fun l hl => List.mem_append_left _ hl) (fun l hl => ?_) fun _ _ _ hphase => by cases hphase
      rcases List.mem_append.1 hl with hl | hl
      · exact Or.inl hl
      · exact Or.inr ⟨call, hmem, rfl, List.mem_singleton.1 hl, rfl⟩

theorem labels_modifyCall {f : Call P ε → Call P ε}
    (hf : ∀ x ∈ c.calls, x.id = id → (f x).label = x.label) :
    (c.modifyCall id f).labels = c.labels := by
  unfold labels modifyCall
  rw [List.map_map]
  refine List.map_congr_left fun x hx => ?_
  dsimp only [Function.comp]
  split
  · rename_i hid
    exact hf x hx hid
  · rfl

theorem weight_modifyCall_le {f : Call P ε → Call P ε}
    (hf : ∀ x ∈ c.calls, x.id = id → (f x).weight ≤ x.weight) :
    (c.modifyCall id f).weight ≤ c.weight := by
  unfold weight modifyCall
  rw [List.map_map]
  refine List.sum_le_sum fun x hx => ?_
  dsimp only [Function.comp]
  split
  · rename_i hid
    exact hf x hx hid
  · exact Nat.le_refl _

theorem Delivers.labels (h : c.Flies W) (hmem : call ∈ c.calls)
    (hd : Delivers isCancelled outcome c call c') : c'.labels = c.labels := by
  cases hd with
  | succeeds _ => exact labels_modifyCall fun _ _ _ => rfl
  | fails _ _ => exact labels_modifyCall fun _ _ _ => rfl
  | @again e out _ _ hout =>
    obtain ⟨hcalls, hlabel, _⟩ := hout.fields
    have hsame : out.2.labels = c.labels := congrArg (List.map Call.label) hcalls
    rw [← hsame]
    refine labels_modifyCall fun x hx hx' => ?_
    rw [hcalls] at hx
    rw [hlabel, h.eq_of_id hx hmem hx']

/-- A call that was waiting has not more to do. -/
theorem Delivers.weight_le (h : c.Flies (call.id :: W))
    (hd : Delivers isCancelled outcome c call c') : c'.weight ≤ c.weight := by
  have hwaits : ∀ x ∈ c.calls, x.id = call.id → x.weight = 2 := by
    intro x hx hx'
    unfold Call.weight
    rw [h.waiting x hx (by rw [hx']; exact List.mem_cons_self ..)]
  have hle : ∀ (f : Call P ε → Call P ε), ∀ x ∈ c.calls, x.id = call.id →
      (f x).weight ≤ x.weight := fun f x hx hx' => by
    rw [hwaits x hx hx']
    exact (f x).weight_le
  cases hd with
  | succeeds _ => exact weight_modifyCall_le (hle _)
  | fails _ _ => exact weight_modifyCall_le (hle _)
  | @again e out _ _ hout =>
    have hcalls := hout.fields.1
    have hsame : out.2.weight = c.weight := congrArg (fun xs => (xs.map Call.weight).sum) hcalls
    rw [← hsame]
    refine weight_modifyCall_le fun x hx => ?_
    rw [hcalls] at hx
    exact hle (fun _ => out.1) x hx

variable (isCancelled outcome) in
/-- All calls that were waiting for a flight are given its outcome. -/
theorem Flies.deliverAll (h : c.Flies W) (hW : W.Nodup) :
    (W.foldl (deliver isCancelled outcome) c).Flies [] ∧
      (W.foldl (deliver isCancelled outcome) c).labels = c.labels ∧
      (W.foldl (deliver isCancelled outcome) c).weight ≤ c.weight := by
  induction W generalizing c with
  | nil => exact ⟨h, rfl, Nat.le_refl _⟩
  | cons id W ih =>
    obtain ⟨hid, hrest⟩ := List.nodup_cons.1 hW
    rw [List.foldl_cons]
    cases hcall : c.call? id with
    | none =>
      -- nobody has this id
      have hnone : c.deliver isCancelled outcome id = c := by
        unfold deliver
        rw [hcall]
      rw [hnone]
      refine ih ⟨h.nodup, h.led, fun x hx hphase => ?_, fun x hx hx' =>
        h.waiting x hx (List.mem_cons_of_mem _ hx')⟩ hrest
      rcases h.joined x hx hphase with hwaiting | hflight
      · rcases List.mem_cons.1 hwaiting with hx' | hwaiting
        · obtain ⟨y, hy⟩ := exists_call? hx
          rw [hx', hcall] at hy
          cases hy
        · exact Or.inl hwaiting
      · exact Or.inr hflight
    | some call =>
      obtain ⟨hmem, rfl⟩ := mem_of_call? hcall
      have hd : Delivers isCancelled outcome c call (c.deliver isCancelled outcome call.id) :=
        deliver_delivers hcall
      obtain ⟨hflies, hlabels, hweight⟩ := ih (h.delivers hmem hid hd) hrest
      exact ⟨hflies, hlabels.trans (hd.labels h hmem), Nat.le_trans hweight (hd.weight_le h)⟩

/-! ## Compiles that come back -/

theorem nodup_joiners (h : c.Flies W) (name : String) : (c.joiners name).Nodup :=
  h.nodup.sublist (List.filter_sublist.map Call.id)

/-- The flight of a leader ends; those who had joined it wait for the outcome. -/
theorem Flies.land (h : c.Flies []) (hmem : call ∈ c.calls) (hleading : call.phase = .leading)
    (programs : Lru ProgramKey P) (r : Except (CallError ε) (P × Bool)) :
    ({ c with programs, flights := c.flights.filter fun f => f.1 ≠ call.key.name }.modifyCall
      call.id fun x => { x with phase := .returned r }).Flies (c.joiners call.key.name) := by
  have hother : ∀ x ∈ c.calls, x.phase = .joined → x.id ≠ call.id := by
    intro x hx hphase heq
    rw [h.eq_of_id hx hmem heq, hleading] at hphase
    cases hphase
  refine ⟨?_, fun f hf => ?_, fun x hx hphase => ?_, fun x hx hwaiting => ?_⟩
  · rw [map_id_calls, labels_modifyCall (by intro x _ _; rfl)]
    exact (map_id_calls c).symm ▸ h.nodup
  · obtain ⟨hf, hne⟩ := List.mem_filter.1 hf
    obtain ⟨x, hx, hid, hname, hphase⟩ := h.led f hf
    refine ⟨x, List.mem_map.2 ⟨x, hx, if_neg fun heq => ?_⟩, hid, hname, hphase⟩
    rw [h.eq_of_id hx hmem heq] at hname
    rw [← hname] at hne
    exact absurd rfl (of_decide_eq_true hne)
  · obtain ⟨y, hy, rfl⟩ := List.mem_map.1 hx
    split at hphase
    · cases hphase
    · rename_i hid
      rw [if_neg hid]
      rcases h.joined y hy hphase with hwaiting | ⟨f, hf, hname⟩
      · cases hwaiting
      · by_cases hsame : y.key.name = call.key.name
        · refine Or.inl (List.mem_map.2 ⟨y, List.mem_filter.2 ⟨hy, ?_⟩, rfl⟩)
          rw [hphase]
          simpa using hsame
        · refine Or.inr ⟨f, List.mem_filter.2 ⟨hf, ?_⟩, hname⟩
          rw [hname]
          exact decide_eq_true hsame
  · obtain ⟨y, hy, rfl⟩ := List.mem_map.1 hx
    obtain ⟨z, hz, hzid⟩ := List.mem_map.1 hwaiting
    obtain ⟨hz, hjoined⟩ := List.mem_filter.1 hz
    have hphase : z.phase = .joined := by
      rw [Bool.and_eq_true] at hjoined
      have hmatch := hjoined.2
      split at hmatch
      · assumption
      · cases hmatch
    have hne : y.id ≠ call.id := by
      intro heq
      rw [if_pos heq] at hzid
      exact hother z hz hphase (hzid.trans heq)
    rw [if_neg hne] at hzid ⊢
    rw [← h.eq_of_id hz hy hzid]
    exact hphase

variable (isCancelled outcome) in
/-- The compile of a leader comes back: its flight ends, the leader has its result, and then those
    who had joined are given the outcome. -/
theorem compiled_eq (hcall : c.call? id = some call) : ∃ programs r,
    c.compiled isCancelled id outcome = (c.joiners call.key.name).foldl
      (deliver isCancelled outcome)
      ({ c with programs, flights := c.flights.filter fun f => f.1 ≠ call.key.name }.modifyCall
        call.id fun x => { x with phase := .returned r }) ∧
    (∀ Q : ProgramKey → P → Prop, c.programs.Holds Q →
      (∀ p, outcome = .ok p → Q call.key p) → programs.Holds Q) ∧
    (call.cancelled = false → (∀ p, outcome = .ok p → r = .ok (p, false)) ∧
      ∀ e, outcome = .error e → r = .error (.failed e)) := by
  obtain ⟨_, rfl⟩ := mem_of_call? hcall
  unfold ProgramCache.compiled
  rw [hcall]
  refine ⟨_, _, rfl, fun Q hQ hp => ?_, fun hcancelled => ?_⟩
  · cases outcome with
    | ok p => exact hQ.set (hp p rfl)
    | error e => exact hQ
  · rw [hcancelled]
    cases outcome with
    | ok p => exact ⟨fun _ hp => by cases hp; rfl, fun _ he => by cases he⟩
    | error e => exact ⟨fun _ hp => (by cases hp), fun _ he => by cases he; rfl⟩

/-- The programs that are kept have a property that the program of every compile has. -/
theorem holds_compiled {Q : ProgramKey → P → Prop} (h : c.programs.Holds Q)
    (hcall : c.call? id = some call) (hp : ∀ p, outcome = .ok p → Q call.key p) :
    (c.compiled isCancelled id outcome).programs.Holds Q := by
  obtain ⟨programs, r, heq, hprograms, _⟩ := compiled_eq isCancelled outcome hcall
  rw [heq]
  refine List.foldlRecOn (motive := fun c' : ProgramCache P ε => c'.programs.Holds Q) _ _
    (hprograms Q h hp) ?_
  intro c' hc' i _
  cases hi : c'.call? i with
  | none =>
    unfold deliver
    rw [hi]
    exact hc'
  | some call' => exact (deliver_delivers hi).holds hc'

variable (isCancelled outcome) in
/-- **A compile comes back**: its flight ends, all calls stay, and less is left to do. -/
theorem Flies.compiled (h : c.Flies []) (hcall : c.call? id = some call)
    (hleading : call.phase = .leading) :
    (c.compiled isCancelled id outcome).Flies [] ∧
      (c.compiled isCancelled id outcome).labels = c.labels ∧
      (c.compiled isCancelled id outcome).weight < c.weight := by
  have hmem := (mem_of_call? hcall).1
  obtain ⟨programs, r, heq, _⟩ := compiled_eq isCancelled outcome hcall
  rw [heq]
  obtain ⟨hflies, hlabels, hweight⟩ :=
    (h.land hmem hleading programs r).deliverAll isCancelled outcome (nodup_joiners h call.key.name)
  refine ⟨hflies, hlabels.trans (labels_modifyCall (by intro x _ _; rfl)),
    Nat.lt_of_le_of_lt hweight ?_⟩
  unfold weight modifyCall
  rw [List.map_map]
  refine List.sum_lt_sum _ _ (fun x hx => ?_) ⟨call, hmem, ?_⟩
  · dsimp only [Function.comp]
    split
    · exact x.weight_pos
    · exact Nat.le_refl _
  · dsimp only [Function.comp]
    rw [if_pos rfl]
    unfold Call.weight
    rw [hleading]
    exact Nat.one_lt_two

/-! ## Losing interest and forgetting -/

theorem Flies.cancel (h : c.Flies []) (id : Nat) : (c.cancel id).Flies [] := by
  refine ⟨?_, fun f hf => ?_, fun x hx hphase => Or.inr ?_, fun x _ hx => by cases hx⟩
  · rw [map_id_calls, ProgramCache.cancel, labels_modifyCall, ← map_id_calls]
    · exact h.nodup
    · intro x _ _
      split
      · rfl
      · rfl
  · obtain ⟨x, hx, hid, hname, hphase⟩ := h.led f hf
    by_cases heq : x.id = id
    · refine ⟨{ x with cancelled := true }, List.mem_map.2 ⟨x, hx, ?_⟩, hid, hname, hphase⟩
      rw [if_pos heq]
      dsimp only
      rw [hphase]
    · exact ⟨x, List.mem_map.2 ⟨x, hx, if_neg heq⟩, hid, hname, hphase⟩
  · obtain ⟨y, hy, rfl⟩ := List.mem_map.1 hx
    by_cases heq : y.id = id
    · rw [if_pos heq] at hphase
      dsimp only at hphase
      split at hphase
      · cases hphase
      · rename_i hne
        exact absurd hphase hne
    · rw [if_neg heq] at hphase ⊢
      exact (h.joined y hy hphase).resolve_left List.not_mem_nil

theorem labels_cancel (c : ProgramCache P ε) (id : Nat) : (c.cancel id).labels = c.labels := by
  refine labels_modifyCall fun x _ _ => ?_
  split
  · rfl
  · rfl

/-- A call that has come back is forgotten. -/
theorem Flies.forget (h : c.Flies []) {r : Except (CallError ε) (P × Bool)}
    (hr : c.result? id = some r) : (c.forget id).Flies [] := by
  obtain ⟨y, hy, hyid, hreturned⟩ := mem_of_result? hr
  refine ⟨h.nodup.sublist (List.filter_sublist.map Call.id), fun f hf => ?_,
    fun x hx => h.joined x (List.mem_of_mem_filter hx), fun x _ hx => by cases hx⟩
  obtain ⟨x, hx, hid, hname, hphase⟩ := h.led f hf
  refine ⟨x, List.mem_filter.2 ⟨hx, decide_eq_true fun heq => ?_⟩, hid, hname, hphase⟩
  rw [h.eq_of_id hx hy (heq.trans hyid.symm), hreturned] at hphase
  cases hphase

theorem labels_forget (c : ProgramCache P ε) (id : Nat) :
    (c.forget id).labels = c.labels.filter fun l => l.1 ≠ id := by
  unfold labels ProgramCache.forget
  rw [List.filter_map]
  rfl

theorem weight_forget_lt {r : Except (CallError ε) (P × Bool)} (hr : c.result? id = some r) :
    (c.forget id).weight < c.weight := by
  obtain ⟨x, hx, hid, _⟩ := mem_of_result? hr
  have hsplit := (List.filter_append_perm (fun y : Call P ε => decide (y.id ≠ id)) c.calls).map
    Call.weight
  have hsum := hsplit.sum_eq
  rw [List.map_append, List.sum_append] at hsum
  have hpos : 0 < ((c.calls.filter fun y => !decide (y.id ≠ id)).map Call.weight).sum := by
    have hmem : x.weight ∈ (c.calls.filter fun y => !decide (y.id ≠ id)).map Call.weight :=
      List.mem_map.2 ⟨x, List.mem_filter.2 ⟨hx, by simpa using hid⟩, rfl⟩
    exact Nat.lt_of_lt_of_le x.weight_pos (List.single_le_sum (fun _ _ => Nat.zero_le _) _ hmem)
  show ((c.calls.filter fun y => decide (y.id ≠ id)).map Call.weight).sum < _
  unfold weight
  omega

/-! ## Results that nobody has given up -/

/-- Nobody has lost interest, and what calls have come back with, or would come back with from the
    programs that are kept, has the property. -/
structure Clean (R : ProgramKey → Except (CallError ε) (P × Bool) → Prop)
    (c : ProgramCache P ε) : Prop where
  calls : ∀ x ∈ c.calls, x.cancelled = false ∧ ∀ r, x.phase = .returned r → R x.key r
  programs : c.programs.Holds fun k p => R k (.ok (p, true))

section
variable {R : ProgramKey → Except (CallError ε) (P × Bool) → Prop}

theorem Clean.result? (h : c.Clean R) {r : Except (CallError ε) (P × Bool)}
    (hr : c.result? id = some r) : ∃ x ∈ c.calls, x.id = id ∧ R x.key r := by
  obtain ⟨x, hx, hid, hphase⟩ := mem_of_result? hr
  exact ⟨x, hx, hid, (h.calls x hx).2 r hphase⟩

theorem Clean.begin (h : c.Clean R) (id : Nat) (key : ProgramKey) : (c.begin id key).Clean R := by
  unfold ProgramCache.begin
  have hasks := ask_asks c { id, key, phase := .joined }
  generalize c.ask { id, key, phase := .joined } = out at hasks
  have hcalls : ∀ {x : Call P ε} {xs : List (Call P ε)}, xs = c.calls → x.cancelled = false →
      (∀ r, x.phase = .returned r → R x.key r) →
      ∀ y ∈ xs ++ [x], y.cancelled = false ∧ ∀ r, y.phase = .returned r → R y.key r := by
    rintro x _ rfl hx hr y hy
    rcases List.mem_append.1 hy with hy | hy
    · exact h.calls y hy
    · cases List.mem_singleton.1 hy
      exact ⟨hx, hr⟩
  cases hasks with
  | finds hp =>
    obtain ⟨hfound, hprograms⟩ := hp _ h.programs
    refine ⟨hcalls rfl rfl fun r hr => ?_, hprograms⟩
    cases hr
    exact hfound
  | joins _ hp => exact ⟨hcalls rfl rfl fun r hr => (by cases hr), hp _ h.programs⟩
  | leads hp => exact ⟨hcalls rfl rfl fun r hr => (by cases hr), hp _ h.programs⟩

theorem Clean.forget (h : c.Clean R) (id : Nat) : (c.forget id).Clean R :=
  ⟨fun x hx => h.calls x (List.mem_of_mem_filter hx), h.programs⟩

/-- The call with an id is given a result that has the property. -/
theorem Clean.modifyCall (h : c.Clean R) {r : Except (CallError ε) (P × Bool)}
    (hr : ∀ x ∈ c.calls, x.id = id → R x.key r) :
    (c.modifyCall id fun x => { x with phase := .returned r }).Clean R := by
  refine ⟨fun x hx => ?_, h.programs⟩
  obtain ⟨y, hy, rfl⟩ := List.mem_map.1 hx
  split
  · rename_i hid
    refine ⟨(h.calls y hy).1, fun r' hphase => ?_⟩
    cases hphase
    exact hr y hy hid
  · exact h.calls y hy

/-- All calls that were waiting for a flight are given its outcome, which is not a cancellation. -/
theorem Clean.deliverAll (h : c.Clean R) (ids : List Nat)
    (hok : ∀ p, outcome = .ok p → ∀ l ∈ c.labels, l.1 ∈ ids → R l.2 (.ok (p, true)))
    (herror : ∀ e, outcome = .error e → isCancelled e = false ∧
      ∀ l ∈ c.labels, l.1 ∈ ids → R l.2 (.error (.failed e))) :
    (ids.foldl (deliver isCancelled outcome) c).Clean R := by
  induction ids generalizing c with
  | nil => exact h
  | cons i ids ih =>
    rw [List.foldl_cons]
    have hnext : ∀ {c' : ProgramCache P ε}, c'.Clean R → c'.labels = c.labels →
        (ids.foldl (deliver isCancelled outcome) c').Clean R := by
      intro c' hc' hlabels
      refine ih hc' (fun p hp l hl hi => ?_) fun e he => ⟨(herror e he).1, fun l hl hi => ?_⟩
      · exact hok p hp l (hlabels ▸ hl) (List.mem_cons_of_mem _ hi)
      · exact (herror e he).2 l (hlabels ▸ hl) (List.mem_cons_of_mem _ hi)
    -- the label of the call that is given the outcome
    have hlabel : ∀ x ∈ c.calls, x.id = i → x.label ∈ c.labels ∧ x.label.1 ∈ i :: ids :=
      fun x hx hid => ⟨List.mem_map.2 ⟨x, hx, rfl⟩, List.mem_cons.2 (Or.inl hid)⟩
    cases hcall : c.call? i with
    | none =>
      have hnone : c.deliver isCancelled outcome i = c := by
        unfold deliver
        rw [hcall]
      rw [hnone]
      exact hnext h rfl
    | some call =>
      obtain ⟨_, rfl⟩ := mem_of_call? hcall
      have hd : Delivers isCancelled outcome c call (c.deliver isCancelled outcome call.id) :=
        deliver_delivers hcall
      generalize c.deliver isCancelled outcome call.id = c' at hd
      cases hd with
      | succeeds hp =>
        refine hnext (h.modifyCall fun x hx hid => ?_) (labels_modifyCall (by intro x _ _; rfl))
        exact hok _ hp x.label (hlabel x hx hid).1 (hlabel x hx hid).2
      | fails he _ =>
        refine hnext (h.modifyCall fun x hx hid => ?_) (labels_modifyCall (by intro x _ _; rfl))
        exact (herror _ he).2 x.label (hlabel x hx hid).1 (hlabel x hx hid).2
      | again he hcancelled _ =>
        rw [(herror _ he).1] at hcancelled
        cases hcancelled

/-- **A compile that was not cancelled comes back** to its leader and to those who had joined its
    flight. -/
theorem Clean.compiled (h : c.Clean R) (hf : c.Flies []) (hcall : c.call? id = some call)
    (hok : ∀ p, outcome = .ok p → ∀ x ∈ c.calls, x.key.name = call.key.name →
      ∀ hit, R x.key (.ok (p, hit)))
    (herror : ∀ e, outcome = .error e → isCancelled e = false ∧
      ∀ x ∈ c.calls, x.key.name = call.key.name → R x.key (.error (.failed e))) :
    (c.compiled isCancelled id outcome).Clean R := by
  have hmem := (mem_of_call? hcall).1
  obtain ⟨programs, r, heq, hprograms, hr⟩ := compiled_eq isCancelled outcome hcall
  obtain ⟨hrok, hrerror⟩ := hr (h.calls call hmem).1
  let landed : ProgramCache P ε :=
    { c with programs, flights := c.flights.filter fun f => f.1 ≠ call.key.name }
  have hlanded : landed.Clean R :=
    ⟨h.calls, hprograms _ h.programs fun p hp => hok p hp call hmem rfl true⟩
  have hreturned :
      (landed.modifyCall call.id fun x => { x with phase := .returned r }).Clean R := by
    refine hlanded.modifyCall fun x hx hid => ?_
    rw [hf.eq_of_id hx hmem hid]
    cases outcome with
    | ok p =>
      rw [hrok p rfl]
      exact hok p rfl call hmem rfl false
    | error e =>
      rw [hrerror e rfl]
      exact (herror e rfl).2 call hmem rfl
  have hlabels : (landed.modifyCall call.id fun x => { x with phase := .returned r }).labels =
      c.labels := labels_modifyCall (by intro x _ _; rfl)
  -- the calls that are given the outcome have joined the leader's flight
  have hwaiting : ∀ l ∈ c.labels, l.1 ∈ c.joiners call.key.name →
      ∃ x ∈ c.calls, x.label = l ∧ x.key.name = call.key.name := by
    intro l hl hid
    obtain ⟨x, hx, rfl⟩ := List.mem_map.1 hl
    obtain ⟨y, hy, hyid⟩ := List.mem_map.1 hid
    obtain ⟨hy, hname⟩ := List.mem_filter.1 hy
    rw [hf.eq_of_id hy hx hyid, Bool.and_eq_true] at hname
    exact ⟨x, hx, rfl, of_decide_eq_true hname.1⟩
  rw [heq]
  refine hreturned.deliverAll _ (fun p hp l hl hid => ?_) fun e he =>
    ⟨(herror e he).1, fun l hl hid => ?_⟩
  · obtain ⟨x, hx, rfl, hname⟩ := hwaiting l (hlabels ▸ hl) hid
    exact hok p hp x hx hname true
  · obtain ⟨x, hx, rfl, hname⟩ := hwaiting l (hlabels ▸ hl) hid
    exact (herror e he).2 x hx hname

end

end

end

/-! ## One call at a time -/

/-- Nobody asks the cache. -/
structure Idle (c : ProgramCache P ε) : Prop where
  flights : c.flights = []
  calls : c.calls = []
  programs : c.programs.Holds fun _ _ => True

theorem idle_empty (limit : Int) : (empty limit : ProgramCache P ε).Idle :=
  ⟨rfl, rfl, Lru.holds_empty _⟩

section
variable {c : ProgramCache P ε} {key : ProgramKey}

/-- **A call for what is not there** leads.  It returns what its compile comes back with, and the
    program is there if there is one. -/
theorem Idle.leads (h : c.Idle) (hmiss : c.programs.value? key = none) (id : Nat) :
    (c.begin id key).result? id = none ∧ (c.begin id key).isLeading id = true ∧
      ∀ (isCancelled : ε → Bool) (outcome : Except ε P) (c' : ProgramCache P ε),
        c' = (c.begin id key).compiled isCancelled id outcome →
          c'.result? id = some (led outcome) ∧ (c'.forget id).Idle ∧
            c'.programs.value? key = outcome.toOption := by
  have hentry : c.programs.entries[key]? = none := by
    rw [Lru.value?, Option.map_eq_none_iff] at hmiss
    exact hmiss
  obtain ⟨programs, hbegin⟩ := begin_miss hentry (by rw [h.flights]; rfl) id
  have hkept : programs.Holds fun k _ => k ≠ key := by
    have hothers : c.programs.Holds fun k _ => k ≠ key :=
      h.programs.of_value? fun k v hv hk => by rw [hk, hmiss] at hv; cases hv
    have hbegun := holds_begin hothers id key
    rwa [hbegin] at hbegun
  rw [h.flights, h.calls, List.nil_append, List.nil_append] at hbegin
  rw [hbegin]
  refine ⟨by simp [result?, call?], by simp [isLeading, call?],
    fun isCancelled outcome c' hc' => ?_⟩
  rw [compiled_alone rfl rfl] at hc'
  subst hc'
  obtain ⟨l, hl, hne⟩ := hkept
  refine ⟨by simp [result?, call?], ⟨rfl, by simp [forget], ?_⟩, ?_⟩
  · cases outcome with
    | ok p => exact Lru.Holds.set ⟨l, hl, fun _ _ _ => trivial⟩ trivial
    | error e => exact ⟨l, hl, fun _ _ _ => trivial⟩
  · cases outcome with
    | ok p => exact hl.value?_set key p
    | error e =>
      exact Option.eq_none_iff_forall_ne_some.2 fun v hv =>
        hne key v (hl.value?_eq_some.1 hv) rfl

/-- **A call for what is there** returns it at once. -/
theorem Idle.finds (h : c.Idle) {p : P} (hfound : c.programs.value? key = some p) (id : Nat) :
    (c.begin id key).result? id = some (.ok (p, true)) ∧ ((c.begin id key).forget id).Idle := by
  have hget : c.programs.get key = (some p, (c.programs.get key).2) :=
    Prod.ext ((Lru.get_fst _ _).trans hfound) rfl
  have hbegin : c.begin id key = { c with
      programs := (c.programs.get key).2
      calls := [{ id, key, phase := .returned (.ok (p, true)) }] } := by
    have hcalls := h.calls
    unfold ProgramCache.begin ask
    rw [hget]
    simp [hcalls]
  rw [hbegin]
  exact ⟨by simp [result?, call?], h.flights, by simp [forget], (h.programs.get key).1⟩

end

end ProgramCache

end KernelGraph
