/-
  What sections leave alone.

  Most sections change a few fields of a session: records and counters, one resource, one graph.
  The others are the preparations of an update, of which `Renews` tells, and the listing of a
  platform, whose entries are all new.
-/
import KernelGraph.Proofs.Session.Synchronous
import KernelGraph.Proofs.Workshop.Entries
import KernelGraph.Proofs.Workshop.Steps

namespace KernelGraph

/-- What does not change of a platform cache once it is listed. -/
def CookPlatform.mark (x : CookPlatform) : TargetPlatform × List (Nat × Nat) :=
  (x.platform, x.entries)

namespace Session

section
variable {s s' : Session} {g p : Nat}

/-! ## Publishing -/

theorem present_of_le {plan : Plan} (h : plan.generation ≤ (s.graph g).published) :
    s.present g plan = s := if_pos h

theorem present_of_lt {plan : Plan} (h : (s.graph g).published < plan.generation) :
    ∃ metrics log, s.present g plan = { s with
      proxies := s.proxies.push (s.planProxy g plan)
      graphs := s.graphs.modify g fun x =>
        { x with published := plan.generation, proxy := some s.proxies.size }
      metrics, log } := by
  unfold present
  rw [if_neg (Nat.not_le.2 h)]
  exact ⟨_, _, rfl⟩

/-! ## Telling -/

theorem tellUpdate_eq (s : Session) (j : Job) (program : Option Program) (r : CompileResult)
    (current : Bool) : ∃ metrics log fatals calls, (∀ x ∈ calls, x.graph = j.graph) ∧
      s.tellUpdate j program r current =
        { s with metrics, log, fatals, hooks := s.hooks ++ calls } := by
  unfold tellUpdate
  extract_lets variants told
  have hbooks : s.Books told := by
    unfold told
    split
    · exact .compileFailed _ _ _ _ _ _
    · exact .note _ _
  obtain ⟨metrics, log, fatals, heq⟩ := hbooks
  rw [heq]
  split
  · exact ⟨metrics, log, fatals, [⟨j.graph, j.kernel, r⟩], by simp, rfl⟩
  · exact ⟨metrics, log, fatals, [], by simp, by rw [List.append_nil]⟩

/-- A platform is announced at most. -/
theorem announceReady_eq (s : Session) (g p : Nat) : ∃ (f : CookPlatform → CookPlatform) (log : _),
    (∀ x, (f x).mark = x.mark) ∧
      s.announceReady g p = { s with platforms := s.platforms.modify p f, log } := by
  unfold announceReady
  dsimp only
  split
  · refine ⟨fun x => x, s.log, fun _ => rfl, ?_⟩
    rw [modify_eq_self _ _ fun _ => rfl]
  · exact ⟨fun x => { x with announced := true }, _, fun _ => rfl, rfl⟩

theorem tellCook_eq (s : Session) (j : Job) (p : Nat) (r : CompileResult) :
    ∃ (f : CookPlatform → CookPlatform) (metrics : _) (log : _) (fatals : _),
      (∀ x, (f x).mark = x.mark) ∧
        s.tellCook j p r =
          { s with platforms := s.platforms.modify p f, metrics, log, fatals } := by
  unfold tellCook
  extract_lets name told
  have hbooks : s.Books told := by
    unfold told
    split
    · exact .refl s
    · exact .cookFailed _ _ _ _ _ _
  obtain ⟨metrics, log, fatals, heq⟩ := hbooks
  obtain ⟨f, log', hf, hready⟩ := announceReady_eq told j.graph p
  refine ⟨f, metrics, log', fatals, hf, ?_⟩
  rw [hready, heq]

theorem reportFailure_tells (s : Session) (g k : Nat) : ∃ metrics log fatals calls,
    (∀ x ∈ calls, x.graph = g) ∧
      s.reportFailure g k = { s with metrics, log, fatals, hooks := s.hooks ++ calls } := by
  obtain ⟨metrics, log, fatals, heq⟩ := reportFailure_eq s g k
  refine ⟨metrics, log, fatals, (s.failureCall g k).toList, fun x hx => ?_, heq⟩
  obtain ⟨r, _, rfl⟩ := Option.map_eq_some_iff.1 (Option.mem_toList.1 hx)
  rfl

/-! ## Building for a platform -/

/-- Files have been read, and records and counters kept. -/
def Reads (s s' : Session) : Prop := ∃ files metrics log, s' = { s with files, metrics, log }

theorem Reads.refl (s : Session) : s.Reads s := ⟨_, _, _, rfl⟩

theorem Reads.trans {s'' : Session} (h : s.Reads s') (h' : s'.Reads s'') : s.Reads s'' := by
  obtain ⟨_, _, _, rfl⟩ := h
  obtain ⟨_, _, _, rfl⟩ := h'
  exact ⟨_, _, _, rfl⟩

theorem Reads.buildKernels {d : Dialect} {format : String}
    (kernels : List (Nat × Kernel × KernelSource)) (s : Session) :
    s.Reads (Session.buildKernels g d format kernels s).2 := by
  induction kernels generalizing s with
  | nil => exact .refl s
  | cons x rest ih =>
    have hbuild : s.Reads (s.buildKernel g x.1 d format).2 := ⟨_, _, _, rfl⟩
    unfold Session.buildKernels
    split
    · rename_i e s' heq
      rw [heq] at hbuild
      exact hbuild
    · rename_i built s' _ heq
      rw [heq] at hbuild
      have hrest := hbuild.trans (ih s')
      split
      · rename_i e s'' heq'
        rw [heq'] at hrest
        exact hrest
      · rename_i builds s'' heq'
        rw [heq'] at hrest
        exact hrest

/-- **Building for a platform** reads. -/
theorem Reads.buildFormats {platform : String} (formats : List String) (s : Session) :
    s.Reads (Session.buildFormats g platform formats s).2 := by
  induction formats generalizing s with
  | nil => exact .refl s
  | cons format rest ih =>
    unfold Session.buildFormats
    extract_lets compiler built
    have hbuilt : s.Reads built.2 := by
      cases hc : s.compiler? format with
      | none =>
        simp only [built, compiler, hc]
        exact ⟨_, _, _, rfl⟩
      | some c =>
        simp only [built, compiler, hc]
        exact .buildKernels _ s
    clear_value built
    obtain ⟨result, s'⟩ := built
    cases result with
    | error e => exact hbuilt
    | ok builds =>
      have hrest := hbuilt.trans (ih s')
      dsimp only
      split
      · rename_i e s'' heq
        rw [heq] at hrest
        exact hrest
      · rename_i fs s'' heq
        rw [heq] at hrest
        exact hrest

/-! ## Closing -/

theorem shutDown_eq (s : Session) (g : Nat) : ∃ resources cache tasks,
    s.shutDown g = { s.shut g with resources, cache, tasks } ∧
      tasks.map CompileTask.job = s.tasks.map CompileTask.job :=
  foldl_takeTask_eq _ _

theorem graph_shutDown (s : Session) (g i : Nat) : (s.shutDown g).graph i =
    if g = i ∧ g < s.graphs.size then
      { s.graph i with closed := true, generation := (s.graph i).generation + 1 }
    else s.graph i := by
  obtain ⟨_, _, _, heq, _⟩ := shutDown_eq s g
  rw [heq]
  exact graph_modifyGraph s g _ i

/-- The platforms are announced, so that nobody is told later. -/
theorem map_mark_foldl (ps : List Nat) (platforms : Array CookPlatform) :
    (ps.foldl (fun a p => a.modify p fun x => { x with announced := true }) platforms).map
      CookPlatform.mark = platforms.map CookPlatform.mark := by
  refine List.foldlRecOn (motive := fun a : Array CookPlatform =>
    a.map CookPlatform.mark = platforms.map CookPlatform.mark) ps _ rfl fun a ha p _ => ?_
  rw [← ha]
  exact map_modify_of_eq a p fun _ => rfl

theorem getElem?_foldl_announce {ps : List Nat} (platforms : Array CookPlatform) (h : p ∉ ps) :
    (ps.foldl (fun a p => a.modify p fun x => { x with announced := true }) platforms)[p]? =
      platforms[p]? := by
  refine List.foldlRecOn (motive := fun a : Array CookPlatform => a[p]? = platforms[p]?) ps _ rfl
    fun a ha q hq => ?_
  rw [← ha, Array.getElem?_modify, if_neg]
  rintro rfl
  exact h hq

theorem vacate_eq (s : Session) (g : Nat) : ∃ platforms metrics,
    platforms.map CookPlatform.mark = s.platforms.map CookPlatform.mark ∧
      (∀ p, (∀ e ∈ (s.graph g).cook, e.2 ≠ p) → platforms[p]? = s.platforms[p]?) ∧
      s.vacate g = { s with
        resources := (s.allResources g).foldl
          (fun a r => a.modify r Resource.invalidate) s.resources
        graphs := s.graphs.modify g fun x => { x with pending := [], sets := [], cook := [] }
        platforms, metrics } := by
  unfold vacate
  extract_lets cook invalidated settled
  have hinvalidated : invalidated = { s with
      resources := List.foldl (fun a r => a.modify r Resource.invalidate) s.resources
        (s.allResources g) } := foldl_invalidate _ _
  have hpending : ∀ t : Session, (t.setPending g []).platforms = t.platforms := fun _ => rfl
  have hplatforms : settled.platforms = s.platforms :=
    (hpending invalidated).trans (by rw [hinvalidated])
  refine ⟨_, settled.metrics, (map_mark_foldl cook settled.platforms).trans (congrArg _ hplatforms),
    fun p hp => ?_, ?_⟩
  · refine (getElem?_foldl_announce _ fun hmem => ?_).trans (congrArg (·[p]?) hplatforms)
    obtain ⟨e, he, rfl⟩ := List.mem_map.1 hmem
    exact hp e he rfl
  · rw [modifyGraph]
    dsimp only
    unfold settled setPending
    rw [hinvalidated]
    unfold modifyGraph count
    dsimp only
    rw [modify_modify]

end

end Session

end KernelGraph
