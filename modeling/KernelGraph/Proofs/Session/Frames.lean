/-
  Sections that leave a frame.

  Of all that callers and workers do, only the preparations of an update and the submission of its
  jobs bring new work.  Everything else leaves a `Frame`.
-/
import KernelGraph.Proofs.Session.Sets

namespace KernelGraph.Session

section
variable {s s' : Session} {g : Nat}

/-- Graphs are changed in what is outstanding, published or announced, or get a later number. -/
theorem Frame.modifyGraph (s : Session) (g : Nat) {f : GraphState → GraphState}
    (hf : ∀ x, (f x).options = x.options ∧ x.generation ≤ (f x).generation ∧
      (x.closed = true → (f x).closed = true) ∧
      ((f x).closed = true → x.closed = true ∨ x.generation < (f x).generation) ∧
      ((f x).sets = x.sets ∨ (f x).sets = [])) :
    s.Frame (s.modifyGraph g f) := by
  have hgraph : ∀ i, (s.modifyGraph g f).graph i = s.graph i ∨
      (s.modifyGraph g f).graph i = f (s.graph i) := by
    intro i
    rw [graph_modifyGraph]
    split
    · exact Or.inr rfl
    · exact Or.inl rfl
  exact
    { size := Nat.le_of_eq Array.size_modify.symm
      sets := fun i k set hset => by
        rcases hgraph i with h | h
        · exact Or.inl (by rw [← h]; exact hset)
        · rcases (hf (s.graph i)).2.2.2.2 with hsets | hsets
          · exact Or.inl (by rw [← hsets, ← h]; exact hset)
          · rw [h, hsets] at hset
            cases hset
      options := fun i _ => by
        rcases hgraph i with h | h
        · rw [h]
        · rw [h, (hf _).1]
      generation := fun i => by
        rcases hgraph i with h | h
        · exact Nat.le_of_eq (by rw [h])
        · rw [h]
          exact (hf _).2.1
      closed := fun i hi => by
        rcases hgraph i with h | h
        · rw [h]
          exact hi
        · rw [h]
          exact (hf _).2.2.1 hi
      opened := fun i hi => by
        rcases hgraph i with h | h
        · rw [h] at hi ⊢
          exact Or.inl hi
        · rw [h] at hi ⊢
          exact (hf _).2.2.2.1 hi
      resources := Nat.le_refl _
      eased := fun _ _ _ => .refl _
      cooked := fun _ h => h
      fresh := fun _ h => Or.inl h
      tasks := Nat.le_refl _
      jobs := fun _ t ht => Or.inl ⟨t, ht, rfl⟩
      pools := fun _ pool hpool _ hid => Or.inl ⟨pool, hpool, hid, fun h => h⟩ }

theorem Frame.lock (s : Session) (g : Nat) : s.Frame (s.lock g) :=
  .modifyGraph s g fun _ => ⟨rfl, Nat.le_refl _, fun h => h, Or.inl, Or.inl rfl⟩

theorem Frame.trans {s'' : Session} (h : s.Frame s') (h' : s'.Frame s'') : s.Frame s'' where
  size := Nat.le_trans h.size h'.size
  sets g k set hset := by
    rcases h'.sets g k set hset with hold | hnew
    · rcases h.sets g k set hold with hold' | ⟨hnil, hfits⟩
      · exact Or.inl hold'
      · rw [h'.options g (lt_size_of_set hold)]
        exact Or.inr ⟨hnil, hfits⟩
    · exact Or.inr hnew
  options g hg := (h'.options g (Nat.lt_of_lt_of_le hg h.size)).trans (h.options g hg)
  generation g := Nat.le_trans (h.generation g) (h'.generation g)
  closed g hg := h'.closed g (h.closed g hg)
  opened g hg := by
    rcases h'.opened g hg with hc | hlt
    · rcases h.opened g hc with hc | hlt
      · exact Or.inl hc
      · exact Or.inr (Nat.lt_of_lt_of_le hlt (h'.generation g))
    · exact Or.inr (Nat.lt_of_le_of_lt (h.generation g) hlt)
  resources := Nat.le_trans h.resources h'.resources
  eased r hr hc := by
    have hc' : ¬ s'.IsCooked r := fun hcooked => by
      rcases h.fresh r hcooked with hcooked | ⟨hle, _⟩
      · exact hc hcooked
      · omega
    exact (h.eased r hr hc).trans (h'.eased r (Nat.lt_of_lt_of_le hr h.resources) hc')
  cooked r hr := h'.cooked r (h.cooked r hr)
  fresh r hr := by
    have hsize := h.resources
    have hsize' := h'.resources
    rcases h'.fresh r hr with hr | hr
    · rcases h.fresh r hr with hr | hr
      · exact Or.inl hr
      · exact Or.inr (by omega)
    · exact Or.inr (by omega)
  tasks := Nat.le_trans h.tasks h'.tasks
  jobs id t'' ht'' := by
    have hsize := h.tasks
    rcases h'.jobs id t'' ht'' with ⟨t', ht', hjob'⟩ | ⟨hle, hkind, hcooked⟩
    · rcases h.jobs id t' ht' with ⟨t, ht, hjob⟩ | ⟨hle, hkind, hcooked⟩
      · exact Or.inl ⟨t, ht, hjob'.trans hjob⟩
      · rw [hjob']
        exact Or.inr ⟨hle, hkind, h'.cooked _ hcooked⟩
    · exact Or.inr ⟨by omega, hkind, hcooked⟩
  pools p pool'' hpool'' id hid := by
    have hsize := h.tasks
    have hsize' := h'.tasks
    rcases h'.pools p pool'' hpool'' id hid with ⟨pool', hpool', hid', hopen'⟩ | hnew
    · rcases h.pools p pool' hpool' id hid' with ⟨pool, hpool, hid, hopen⟩ | hnew
      · exact Or.inl ⟨pool, hpool, hid, fun h => hopen (hopen' h)⟩
      · exact Or.inr (by omega)
    · exact Or.inr (by omega)

/-- Nothing of interest has changed. -/
theorem Frame.of_eq (hgraphs : s'.graphs = s.graphs) (hresources : s'.resources = s.resources)
    (hplatforms : s'.platforms = s.platforms) (htasks : s'.tasks = s.tasks)
    (hpools : s'.pools = s.pools) : s.Frame s' := by
  cases s
  cases s'
  dsimp only at hgraphs hresources hplatforms htasks hpools
  subst hgraphs hresources hplatforms htasks hpools
  exact
    { size := Nat.le_refl _
      sets := fun _ _ _ hset => Or.inl hset
      options := fun _ _ => rfl
      generation := fun _ => Nat.le_refl _
      closed := fun _ h => h
      opened := fun _ h => Or.inl h
      resources := Nat.le_refl _
      eased := fun _ _ _ => .refl _
      cooked := fun _ h => h
      fresh := fun _ h => Or.inl h
      tasks := Nat.le_refl _
      jobs := fun _ t ht => Or.inl ⟨t, ht, rfl⟩
      pools := fun _ pool hpool _ hid => Or.inl ⟨pool, hpool, hid, fun h => h⟩ }

theorem Frame.reportFailure (s : Session) (g k : Nat) : s.Frame (s.reportFailure g k) := by
  unfold Session.reportFailure
  dsimp only
  split
  · exact .of_eq rfl rfl rfl rfl rfl
  · unfold Session.compileFailed
    split
    · exact .of_eq rfl rfl rfl rfl rfl
    · exact .of_eq rfl rfl rfl rfl rfl

theorem Frame.publish (s : Session) (g : Nat) (plan : Plan) : s.Frame (s.publish g plan) := by
  by_cases h : plan.generation ≤ (s.graph g).published
  · rw [publish_of_le h]
    exact .of_eq rfl rfl rfl rfl rfl
  · rw [publish_of_lt (Nat.not_le.1 h)]
    have hgraph : s.Frame (s.modifyGraph g fun x =>
        { x with published := plan.generation, proxy := some s.proxies.size }) :=
      .modifyGraph s g fun x => ⟨rfl, Nat.le_refl _, fun h => h, Or.inl, Or.inl rfl⟩
    exact hgraph.trans (.of_eq rfl rfl rfl rfl rfl)

theorem Frame.finishUpdate (s : Session) (g : Nat) (plan : Plan) :
    s.Frame (s.finishUpdate g plan) := by
  unfold Session.finishUpdate
  split
  · exact .publish s g plan
  · exact .of_eq rfl rfl rfl rfl rfl

theorem Frame.register (s : Session) (id : Nat) (j : Job) : s.Frame (s.register id j) := by
  unfold Session.register
  have hconst := modifyResource_const s j.resource fun x => (x.setTask id j.generation).2
  split
  rename_i held resource heq
  rw [heq] at hconst
  have htold : s.Frame (s.modifyResource j.resource fun _ => resource) := by
    rw [hconst]
    exact .of_steady (.of_eq rfl rfl rfl rfl rfl) Array.size_modify
      (eases_modifyResource s j.resource fun x => .setTask x id j.generation) rfl rfl
  have hcancelled : ∀ s : Session, s.Frame (s.cancelTask id) := fun s =>
    .of_steady (.of_eq rfl rfl rfl rfl rfl) rfl (fun _ => .refl _) (map_job_cancelTask s id) rfl
  dsimp only
  split
  · exact htold
  · exact htold.trans (hcancelled _)

theorem Frame.setPending (s : Session) (g : Nat) (pending : List Nat) :
    s.Frame (s.setPending g pending) := by
  have hgraph : s.Frame (s.modifyGraph g fun x => { x with pending }) :=
    .modifyGraph s g fun x => ⟨rfl, Nat.le_refl _, fun h => h, Or.inl, Or.inl rfl⟩
  exact hgraph.trans (.of_eq rfl rfl rfl rfl rfl)

theorem Frame.releaseProxy (s : Session) (g : Nat) (proxy : Option Nat) :
    s.Frame (s.releaseProxy g proxy) := by
  unfold Session.releaseProxy
  split
  · exact .of_eq rfl rfl rfl rfl rfl
  · split
    · exact .of_eq rfl rfl rfl rfl rfl
    · exact .of_eq rfl rfl rfl rfl rfl

theorem Frame.emptyGraph (s : Session) (g : Nat) (cook : List Nat) :
    s.Frame (s.emptyGraph g cook) := by
  unfold Session.emptyGraph
  extract_lets settled announced proxy emptied
  have hannounced : settled.Frame announced := by
    refine List.foldlRecOn (motive := fun ps => settled.Frame { settled with platforms := ps })
      cook _ (.of_eq rfl rfl rfl rfl rfl) fun ps hps p _ => ?_
    exact hps.trans (Around.announce { settled with platforms := ps } p).frame
  have hemptied : announced.Frame emptied :=
    .modifyGraph announced g fun x => ⟨rfl, Nat.le_refl _, fun h => h, Or.inl, Or.inr rfl⟩
  exact ((Frame.trans (.setPending s g []) hannounced).trans hemptied).trans
    (.releaseProxy emptied g proxy)

theorem Frame.finishClose (s : Session) (g : Nat) : s.Frame (s.finishClose g) := by
  refine Frame.trans ?_ (.emptyGraph _ g _)
  refine .of_steady ?_ ?_ (fun r => (settles_foldl_invalidate _ s r).toEases) ?_ ?_
  all_goals rw [foldl_invalidate]
  · exact .of_eq rfl rfl rfl rfl rfl
  · exact size_foldl_invalidate _ _

theorem Steady.finishUpdate (s : Session) (g : Nat) (plan : Plan) :
    s.Steady (s.finishUpdate g plan) := by
  unfold Session.finishUpdate
  split
  · exact .publish s g plan
  · exact .refl s

/-- A graph that was closed has neither resources nor a proxy, and nothing is outstanding. -/
theorem graph_finishClose (s : Session) (g i : Nat) : (s.finishClose g).graph i =
    if g = i ∧ g < s.graphs.size then
      { s.graph i with sets := [], pending := [], cook := [], proxy := none }
    else s.graph i := by
  have hreleased : ∀ (s : Session) (proxy : Option Nat),
      (s.releaseProxy g proxy).graph i = s.graph i := by
    intro s proxy
    unfold Session.releaseProxy
    split
    · rfl
    · split
      · rfl
      · rfl
  have hempty : ∀ (s : Session) (cook : List Nat), (s.emptyGraph g cook).graph i =
      (s.modifyGraph g fun x =>
        { x with sets := [], pending := [], cook := [], proxy := none }).graph i := by
    intro s cook
    unfold Session.emptyGraph
    dsimp only
    rw [hreleased, graph_modifyGraph, graph_modifyGraph]
    have hpending : ∀ i, (s.setPending g []).graph i =
        if g = i ∧ g < s.graphs.size then { s.graph i with pending := [] } else s.graph i :=
      graph_modifyGraph s g _
    have hsize : (s.setPending g []).graphs.size = s.graphs.size := Array.size_modify
    show (if g = i ∧ g < (s.setPending g []).graphs.size then
      { (s.setPending g []).graph i with sets := [], cook := [], proxy := none }
      else (s.setPending g []).graph i) = _
    rw [hpending, hsize]
    split
    · rfl
    · rfl
  unfold Session.finishClose
  rw [hempty, graph_modifyGraph, foldl_invalidate]
  rfl

end

end KernelGraph.Session
