/-
  Gathering lists what the roots need, and dependencies first.

  `gather` searches depth first.  It marks a path when it opens a source and lists the source when
  it is done with the dependencies, so that sources which are opened and not listed yet are marked
  as well: the ones that led to where the search is.  A dependency that is marked but not listed is
  therefore one that the source is reached from.

  1. `Visits` is the search with nothing to bound it, one rule for each thing that can happen to a
     root.  A search that is bounded by the number of sources does the same (`visits_gatherAux`),
     since there are no more levels than paths to be marked (`card_unseen_lt`).

  2. `Adds` says what a search adds to a list, seen from the outside: all that it marks is listed
     when it is over.  It is proved along the rules (`Visits.adds`).  There is no need to speak of
     the opened sources: the search below a source is told apart by the one path that it finds
     marked.
-/
import KernelGraph.Proofs.GeneratedPaths
import Mathlib.Data.Finset.Card
import Mathlib.Logic.Relation

namespace KernelGraph.SourcePool

/-! ## Dependencies -/

/-- One of the entries names the source. -/
def Names (pool : SourcePool) (entries : List (Option Nat)) (s : Source) : Prop :=
  ∃ i, some i ∈ entries ∧ pool[i]? = some s

/-- A source depends on those that its entries name. -/
def DependsOn (pool : SourcePool) (s d : Source) : Prop := pool.Names s.dependencies d

/-- A chain of dependencies leads from one source to the other. -/
def Reaches (pool : SourcePool) : Source → Source → Prop := Relation.ReflTransGen pool.DependsOn

/-- A source is needed when it is reached from a root. -/
def Needs (pool : SourcePool) (roots : List (Option Nat)) (s : Source) : Prop :=
  ∃ t, pool.Names roots t ∧ pool.Reaches t s

/-- No path is taken by two sources. -/
def OnePerPath (pool : SourcePool) : Prop := ∀ s ∈ pool, ∀ t ∈ pool, s.path = t.path → s = t

section
variable {pool : SourcePool} {root : Option Nat} {roots : List (Option Nat)} {s t d : Source}

theorem names_nil : ¬ pool.Names [] s := by
  rintro ⟨i, hi, -⟩
  exact List.not_mem_nil hi

theorem names_cons :
    pool.Names (root :: roots) s ↔ root.bind (pool[·]?) = some s ∨ pool.Names roots s := by
  constructor
  · rintro ⟨i, hi, hs⟩
    rcases List.mem_cons.1 hi with rfl | hi
    · exact Or.inl hs
    · exact Or.inr ⟨i, hi, hs⟩
  · rintro (h | ⟨i, hi, hs⟩)
    · obtain ⟨i, rfl, hs⟩ := Option.bind_eq_some_iff.1 h
      exact ⟨i, List.mem_cons_self .., hs⟩
    · exact ⟨i, List.mem_cons_of_mem _ hi, hs⟩

theorem Names.mem (h : pool.Names roots s) : s ∈ pool := by
  obtain ⟨i, -, hs⟩ := h
  exact Array.mem_of_getElem? hs

theorem Names.needs (h : pool.Names roots s) : pool.Needs roots s := ⟨s, h, .refl⟩

theorem Needs.cons (h : pool.Needs roots s) : pool.Needs (root :: roots) s := by
  obtain ⟨t, ht, hs⟩ := h
  exact ⟨t, names_cons.2 (Or.inr ht), hs⟩

/-- What the dependencies of a source need is reached from the source. -/
theorem Needs.reaches (h : pool.Needs s.dependencies d) : pool.Reaches s d := by
  obtain ⟨t, ht, hd⟩ := h
  exact .head ht hd

theorem Needs.mem (h : pool.Needs roots s) : s ∈ pool := by
  obtain ⟨t, ht, hs⟩ := h
  rcases Relation.ReflTransGen.cases_tail hs with rfl | ⟨u, -, hu⟩
  · exact ht.mem
  · exact Names.mem hu

end

/-! ## The search without a bound -/

/-- The search goes through some roots and comes from one state to another. -/
inductive Visits (pool : SourcePool) : List (Option Nat) → Gathered → Gathered → Prop
  /-- No roots are left. -/
  | nil (g : Gathered) : Visits pool [] g g
  /-- An empty entry is skipped. -/
  | skip {root : Option Nat} {roots : List (Option Nat)} {g g' : Gathered}
      (hroot : root.bind (pool[·]?) = none) (hroots : Visits pool roots g g') :
      Visits pool (root :: roots) g g'
  /-- A source whose path is marked is skipped. -/
  | seen {root : Option Nat} {roots : List (Option Nat)} {s : Source} {g g' : Gathered}
      (hroot : root.bind (pool[·]?) = some s) (hs : s.path ∈ g.seen)
      (hroots : Visits pool roots g g') : Visits pool (root :: roots) g g'
  /-- Another source is marked, its dependencies are searched, and it is listed. -/
  | visit {root : Option Nat} {roots : List (Option Nat)} {s : Source} {g inner g' : Gathered}
      (hroot : root.bind (pool[·]?) = some s) (hs : s.path ∉ g.seen)
      (hinner : Visits pool s.dependencies { g with seen := s.path :: g.seen } inner)
      (hroots : Visits pool roots { inner with sources := inner.sources ++ [s] } g') :
      Visits pool (root :: roots) g g'

/-- A search has one end. -/
theorem Visits.unique {pool : SourcePool} {roots : List (Option Nat)} {g a b : Gathered}
    (ha : Visits pool roots g a) (hb : Visits pool roots g b) : a = b := by
  induction ha generalizing b with
  | nil g =>
    cases hb
    rfl
  | skip hroot _ ih =>
    cases hb with
    | skip _ hb => exact ih hb
    | seen hroot' _ _ => cases hroot.symm.trans hroot'
    | visit hroot' _ _ _ => cases hroot.symm.trans hroot'
  | seen hroot hs _ ih =>
    cases hb with
    | skip hroot' _ => cases hroot.symm.trans hroot'
    | seen _ _ hb => exact ih hb
    | visit hroot' hs' _ _ =>
      cases hroot.symm.trans hroot'
      exact absurd hs hs'
  | visit hroot hs _ _ ihinner ihroots =>
    cases hb with
    | skip hroot' _ => cases hroot.symm.trans hroot'
    | seen hroot' hs' _ =>
      cases hroot.symm.trans hroot'
      exact absurd hs' hs
    | visit hroot' _ hinner' hb =>
      cases hroot.symm.trans hroot'
      cases ihinner hinner'
      exact ihroots hb

/-- The paths of the pool that are not marked yet. -/
def unseen (pool : SourcePool) (g : Gathered) : Finset String :=
  (pool.toList.map Source.path).toFinset \ g.seen.toFinset

theorem card_unseen_le_size (pool : SourcePool) (g : Gathered) :
    (pool.unseen g).card ≤ pool.size := by
  calc (pool.unseen g).card
      ≤ (pool.toList.map Source.path).toFinset.card := Finset.card_le_card Finset.sdiff_subset
    _ ≤ (pool.toList.map Source.path).length := List.toFinset_card_le _
    _ = pool.size := by rw [List.length_map, Array.length_toList]

theorem card_unseen_le {pool : SourcePool} {g g' : Gathered} (h : ∀ p ∈ g.seen, p ∈ g'.seen) :
    (pool.unseen g').card ≤ (pool.unseen g).card := by
  apply Finset.card_le_card
  apply Finset.sdiff_subset_sdiff (Finset.Subset.refl _)
  intro p hp
  exact List.mem_toFinset.2 (h p (List.mem_toFinset.1 hp))

/-- Marking a path of the pool leaves fewer to be marked. -/
theorem card_unseen_lt {pool : SourcePool} {g : Gathered} {s : Source} (hmem : s ∈ pool)
    (hs : s.path ∉ g.seen) :
    (pool.unseen { g with seen := s.path :: g.seen }).card < (pool.unseen g).card := by
  apply Finset.card_lt_card
  refine Finset.ssubset_iff_of_subset ?_ |>.2 ⟨s.path, ?_, ?_⟩
  · apply Finset.sdiff_subset_sdiff (Finset.Subset.refl _)
    intro p hp
    exact List.mem_toFinset.2 (List.mem_cons_of_mem _ (List.mem_toFinset.1 hp))
  · rw [unseen, Finset.mem_sdiff, List.mem_toFinset, List.mem_toFinset]
    exact ⟨List.mem_map_of_mem hmem.val, hs⟩
  · rw [unseen, Finset.mem_sdiff, List.mem_toFinset, List.mem_toFinset]
    exact fun h => h.2 (List.mem_cons_self ..)

/-- **The bound is never met**: with more levels than paths to be marked, the bounded search is the
    search. -/
theorem visits_gatherAux (pool : SourcePool) : ∀ (depth : Nat) (roots : List (Option Nat))
    (g : Gathered), (pool.unseen g).card < depth →
    Visits pool roots g (gatherAux pool depth roots g)
  | 0, _, _, h => absurd h (Nat.not_lt_zero _)
  | depth + 1, roots, g, h => by
    rw [gatherAux]
    induction roots generalizing g with
    | nil => exact .nil g
    | cons root roots ih =>
      rw [List.foldl_cons]
      split
      next hroot => exact .skip hroot (ih g h)
      next s hroot =>
        split
        next hs => exact .seen hroot hs (ih g h)
        next hs =>
          have hmem : s ∈ pool := (names_cons.2 (Or.inl hroot) : pool.Names [root] s).mem
          have hlt := card_unseen_lt hmem hs
          refine .visit hroot hs (visits_gatherAux pool depth s.dependencies _ (by omega)) (ih _ ?_)
          obtain ⟨_, _, _, _, hseen⟩ :=
            gatherAux_grows pool depth s.dependencies { g with seen := s.path :: g.seen }
          refine Nat.lt_of_le_of_lt (card_unseen_le fun p hp => ?_) h
          exact hseen p (List.mem_cons_of_mem _ hp)

/-! ## What a search adds -/

/-- A search through some roots adds sources to the list. -/
structure Adds (pool : SourcePool) (roots : List (Option Nat)) (g g' : Gathered)
    (new : List Source) : Prop where
  sources : g'.sources = g.sources ++ new
  /-- What was marked on the way is listed now. -/
  seen : ∀ p, p ∈ g'.seen ↔ p ∈ g.seen ∨ p ∈ new.map Source.path
  /-- No root is missing. -/
  named : ∀ s, pool.Names roots s → s.path ∈ g'.seen
  needed : ∀ s ∈ new, pool.Needs roots s
  /-- No dependency is missing. -/
  closed : ∀ s ∈ new, ∀ d, pool.DependsOn s d → d.path ∈ g'.seen
  /-- A dependency was marked before the search, or it is listed first, or the source is reached
      from it. -/
  ordered : ∀ s ∈ new, ∀ d, pool.DependsOn s d →
    d.path ∈ g.seen ∨ [d, s].Sublist new ∨ pool.Reaches d s

namespace Adds
variable {pool : SourcePool} {root : Option Nat} {roots : List (Option Nat)} {s : Source}
variable {g inner g' : Gathered} {new new' : List Source}

/-- A root that was skipped, and was marked if it names a source. -/
theorem skip (h : Adds pool roots g g' new)
    (hroot : ∀ s, root.bind (pool[·]?) = some s → s.path ∈ g.seen) :
    Adds pool (root :: roots) g g' new where
  sources := h.sources
  seen := h.seen
  named s hs := by
    rcases names_cons.1 hs with hs | hs
    · exact (h.seen _).2 (Or.inl (hroot s hs))
    · exact h.named s hs
  needed s hs := (h.needed s hs).cons
  closed := h.closed
  ordered := h.ordered

/-- A root that was opened: first come the sources below it, then the root, then those of the other
    roots. -/
theorem visit (hpool : pool.OnePerPath) (hroot : root.bind (pool[·]?) = some s)
    (hinner : Adds pool s.dependencies { g with seen := s.path :: g.seen } inner new)
    (h : Adds pool roots { inner with sources := inner.sources ++ [s] } g' new') :
    Adds pool (root :: roots) g g' (new ++ [s] ++ new') := by
  have hs : pool.Needs (root :: roots) s := Names.needs (names_cons.2 (Or.inl hroot))
  have hneeded : ∀ x ∈ new, pool.Needs (root :: roots) x := by
    intro x hx
    obtain ⟨t, ht, hreach⟩ := hs
    exact ⟨t, ht, hreach.trans (hinner.needed x hx).reaches⟩
  -- a path that is marked when the root is listed was marked before, or its source is listed
  have hmarked : ∀ d ∈ pool, d.path ∈ inner.seen → d.path ∈ g.seen ∨ d ∈ new ++ [s] := by
    intro d hd hp
    rcases (hinner.seen _).1 hp with hp | hp
    · rcases List.mem_cons.1 hp with hp | hp
      · exact Or.inr (List.mem_append_right _ (List.mem_singleton.2 (hpool d hd s hs.mem hp)))
      · exact Or.inl hp
    · obtain ⟨x, hx, hpath⟩ := List.mem_map.1 hp
      cases hpool x (hinner.needed x hx).mem d hd hpath
      exact Or.inr (List.mem_append_left _ hx)
  have hinner_seen : ∀ p, p ∈ inner.seen ↔ p ∈ g.seen ∨ p ∈ (new ++ [s]).map Source.path := by
    intro p
    rw [hinner.seen p, List.map_append, List.mem_append, List.mem_cons, List.map_singleton,
      List.mem_singleton]
    tauto
  have hlater : ∀ p ∈ inner.seen, p ∈ g'.seen := fun p hp => (h.seen p).2 (Or.inl hp)
  constructor
  case sources =>
    rw [h.sources]
    show inner.sources ++ [s] ++ new' = _
    rw [hinner.sources, List.append_assoc, List.append_assoc, List.append_assoc]
  case seen =>
    intro p
    rw [h.seen p, List.map_append, List.mem_append, ← or_assoc]
    exact or_congr_left (hinner_seen p)
  case named =>
    intro x hx
    rcases names_cons.1 hx with hx | hx
    · cases hroot.symm.trans hx
      exact hlater _ ((hinner.seen _).2 (Or.inl (List.mem_cons_self ..)))
    · exact h.named x hx
  case needed =>
    intro x hx
    rcases List.mem_append.1 hx with hx | hx
    · rcases List.mem_append.1 hx with hx | hx
      · exact hneeded x hx
      · cases List.mem_singleton.1 hx
        exact hs
    · exact (h.needed x hx).cons
  case closed =>
    intro x hx d hd
    rcases List.mem_append.1 hx with hx | hx
    · rcases List.mem_append.1 hx with hx | hx
      · exact hlater _ (hinner.closed x hx d hd)
      · cases List.mem_singleton.1 hx
        exact hlater _ (hinner.named d hd)
    · exact h.closed x hx d hd
  case ordered =>
    intro x hx d hd
    rcases List.mem_append.1 hx with hx | hx
    · rcases List.mem_append.1 hx with hx | hx
      · -- below the root only the root's own path is marked in addition
        rcases hinner.ordered x hx d hd with hp | hbefore | hreach
        · rcases List.mem_cons.1 hp with hp | hp
          · cases hpool d (Names.mem hd) s hs.mem hp
            exact Or.inr (Or.inr (hinner.needed x hx).reaches)
          · exact Or.inl hp
        · refine Or.inr (Or.inl (hbefore.trans ?_))
          rw [List.append_assoc]
          exact List.sublist_append_left new ([s] ++ new')
        · exact Or.inr (Or.inr hreach)
      · cases List.mem_singleton.1 hx
        rcases hmarked d (Names.mem hd) (hinner.named d hd) with hp | hmem
        · exact Or.inl hp
        · rcases List.mem_append.1 hmem with hmem | hmem
          · refine Or.inr (Or.inl (List.Sublist.trans ?_ (List.sublist_append_left _ new')))
            exact (List.singleton_sublist.2 hmem).append (List.Sublist.refl [s])
          · cases List.mem_singleton.1 hmem
            exact Or.inr (Or.inr .refl)
    · rcases h.ordered x hx d hd with hp | hbefore | hreach
      · rcases hmarked d (Names.mem hd) hp with hp | hmem
        · exact Or.inl hp
        · refine Or.inr (Or.inl ?_)
          exact (List.singleton_sublist.2 hmem).append (List.singleton_sublist.2 hx)
      · exact Or.inr (Or.inl (hbefore.trans (List.sublist_append_right _ new')))
      · exact Or.inr (Or.inr hreach)

end Adds

theorem Visits.adds {pool : SourcePool} (hpool : pool.OnePerPath) {roots : List (Option Nat)}
    {g g' : Gathered} (h : Visits pool roots g g') : ∃ new, Adds pool roots g g' new := by
  induction h with
  | nil g =>
    refine ⟨[], (List.append_nil _).symm, fun p => ?_, fun s hs => absurd hs names_nil, ?_, ?_, ?_⟩
    · exact (or_iff_left List.not_mem_nil).symm
    all_goals exact fun _ hs => absurd hs List.not_mem_nil
  | skip hroot _ ih =>
    obtain ⟨new, h⟩ := ih
    refine ⟨new, h.skip fun s hs => ?_⟩
    cases hroot.symm.trans hs
  | seen hroot hseen _ ih =>
    obtain ⟨new, h⟩ := ih
    refine ⟨new, h.skip fun s hs => ?_⟩
    cases hroot.symm.trans hs
    exact hseen
  | visit hroot _ _ _ ihinner ihroots =>
    obtain ⟨new, hinner⟩ := ihinner
    obtain ⟨new', h⟩ := ihroots
    exact ⟨_, hinner.visit hpool hroot h⟩

/-- What a search from the beginning lists. -/
theorem Adds.mem_iff {pool : SourcePool} (hpool : pool.OnePerPath) {roots : List (Option Nat)}
    {g : Gathered} {new : List Source} (h : Adds pool roots {} g new) (s : Source) :
    s ∈ new ↔ pool.Needs roots s := by
  -- a source of the pool is listed when its path is marked
  have hlisted : ∀ d ∈ pool, d.path ∈ g.seen → d ∈ new := by
    intro d hd hp
    rcases (h.seen _).1 hp with hp | hp
    · exact absurd hp List.not_mem_nil
    · obtain ⟨x, hx, hpath⟩ := List.mem_map.1 hp
      cases hpool x (h.needed x hx).mem d hd hpath
      exact hx
  constructor
  · exact h.needed s
  · rintro ⟨t, ht, hs⟩
    induction hs with
    | refl => exact hlisted t ht.mem (h.named t ht)
    | tail _ hd ih => exact hlisted _ (Names.mem hd) (h.closed _ ih _ hd)

/-- **Gathering flattens the dependencies.**  For every pool of sources, whatever their
    dependencies, and all roots:

    1. the search ends, and the gathered sources are those that it lists;
    2. their paths are distinct;
    3. if no path is taken by two sources, they are exactly those that are reached from a root, and
       a source comes after each of its dependencies, except those that it is itself reached
       from. -/
theorem gather_flattens (pool : SourcePool) (roots : List (Option Nat)) :
    (∃ g, Visits pool roots {} g ∧ g.sources = pool.gather roots ∧
      ∀ g', Visits pool roots {} g' → g' = g) ∧
    ((pool.gather roots).map Source.path).Nodup ∧
    (pool.OnePerPath →
      (∀ s, s ∈ pool.gather roots ↔ pool.Needs roots s) ∧
      ∀ s ∈ pool.gather roots, ∀ d, pool.DependsOn s d →
        [d, s].Sublist (pool.gather roots) ∨ pool.Reaches d s) := by
  have hvisits : Visits pool roots {} (gatherAux pool (pool.size + 1) roots {}) :=
    visits_gatherAux pool _ roots {} (Nat.lt_succ_of_le (card_unseen_le_size pool {}))
  refine ⟨⟨_, hvisits, rfl, fun g' hg' => hg'.unique hvisits⟩, nodup_gather pool roots,
    fun hpool => ?_⟩
  obtain ⟨new, h⟩ := hvisits.adds hpool
  have hnew : pool.gather roots = new := h.sources
  rw [hnew]
  constructor
  · exact h.mem_iff hpool
  · intro s hs d hd
    rcases h.ordered s hs d hd with hp | hbefore | hreach
    · exact absurd hp List.not_mem_nil
    · exact Or.inl hbefore
    · exact Or.inr hreach

/-- The second and the third source include each other, and the first one includes itself. -/
def loopPool : SourcePool :=
  #[{ path := "/a", text := "", dependencies := [some 1, none, some 0] },
    { path := "/b", text := "", dependencies := [some 2] },
    { path := "/c", text := "", dependencies := [some 1] },
    { path := "/d", text := "", dependencies := [some 0] }]

/-- The loop is cut where it is entered, and nothing that the roots do not need is gathered. -/
theorem gather_flattens_loopPool :
    loopPool.OnePerPath ∧
    (loopPool.gather [some 0, none]).map Source.path = ["/c", "/b", "/a"] ∧
    ∀ s, s ∈ loopPool.gather [some 0, none] ↔ loopPool.Needs [some 0, none] s := by
  have hpool : loopPool.OnePerPath := by
    show ∀ s ∈ loopPool, ∀ t ∈ loopPool, s.path = t.path → s = t
    decide
  refine ⟨hpool, by decide, ?_⟩
  exact ((gather_flattens loopPool [some 0, none]).2.2 hpool).1

end KernelGraph.SourcePool
