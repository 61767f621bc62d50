/-
  Sets hand out what they hold.

  A graph asks the sets of its kernels for its own level only.  So a set comes to hold one resource
  at most, and hands that one out from then on:

  1. `owned?` is the resource that a set has for a level.  A set that has one hands it out.
  2. `Keeps`: a set holds nothing else.  Asking it for the level leaves it so.
  3. `Handing`: all sets of a session keep to the levels of their graphs.
  4. What one finds by looking the level up is the same, but for the table of an editor: it finds
     nothing at a level that is not defined, even if it has handed a resource out for it.
-/
import KernelGraph.Proofs.Session.Slots
import KernelGraph.Proofs.Session.Told

namespace KernelGraph

namespace ResourceSet

/-- The set holds nothing but what it has for the level. -/
def Keeps (set : ResourceSet) (store : ResourceStore) (level : FeatureLevel) : Prop :=
  ∀ r ∈ set.toList, set.owned? store level = some r

section
variable {o : GraphOptions} {set : ResourceSet} {store store' : ResourceStore}
  {level : FeatureLevel} {r : Nat}

theorem keeps_of_toList_eq_nil (h : set.toList = []) : set.Keeps store level := by
  intro r hr
  rw [h] at hr
  cases hr

/-- **A set that is asked** for the level keeps to it. -/
theorem Keeps.resource (h : set.Keeps store o.level) (hfits : set.Fits o) :
    (set.resource store o.level).2.2.1.Keeps (set.resource store o.level).2.2.2 o.level := by
  cases howned : set.owned? store o.level with
  | some r =>
    rw [resource_of_owned? howned]
    exact h
  | none =>
    have hempty : ∀ r, r ∉ set.toList := fun r hr => by
      rw [h r hr] at howned
      cases howned
    cases set with
    | editor format table =>
      obtain ⟨-, -, hlength⟩ := hfits
      have hlt := place_lt o.level
      rw [← hlength] at hlt
      simp only [owned?] at howned
      simp only [ResourceSet.resource, howned]
      intro r hr
      obtain ⟨x, hx, rfl⟩ := List.mem_filterMap.1 hr
      rcases List.mem_or_eq_of_mem_set hx with hx | hx
      · exact absurd (show r ∈ (editor format table).toList from
          List.mem_filterMap.2 ⟨some r, hx, rfl⟩) (hempty r)
      · cases hx
        simp only [owned?]
        rw [List.getElem?_set_self hlt, Option.join_some]
    | runtime format slot =>
      simp only [owned?] at howned
      simp only [ResourceSet.resource, howned]
      intro r hr
      cases List.mem_singleton.1 hr
      simp [owned?, lookup?]

end

end ResourceSet

namespace Session

/-- Every set keeps to the level of its graph. -/
def Handing (s : Session) : Prop := ∀ (g k : Nat) (set : ResourceSet),
  (s.graph g).sets[k]? = some (some set) → set.Keeps s.resources (s.graph g).options.level

section
variable {s s' : Session} {g k r r' : Nat}

theorem Handing.owned?_eq (h : s.Handing) (ho : s.Owns g k r) : s.owned? g k = some r := by
  obtain ⟨set, hset, hr⟩ := ho
  rw [owned?, hset]
  exact h g k set hset r hr

/-- **A kernel has one resource**. -/
theorem Handing.unique (h : s.Handing) (ho : s.Owns g k r) (ho' : s.Owns g k r') : r = r' :=
  Option.some.inj ((h.owned?_eq ho).symm.trans (h.owned?_eq ho'))

/-- **Handing is kept** while levels are and no set gets a resource. -/
theorem Handing.frame (h : s.Handing) (hs : s.Holdings) (hf : s.Frame s') : s'.Handing := by
  intro g k set hset
  rcases hf.sets g k set hset with hold | ⟨hnil, _⟩
  · rw [hf.options g (lt_size_of_set hold)]
    have hlevel : ∀ r ∈ set.toList,
        (s'.resources[r]?).map Resource.level = (s.resources[r]?).map Resource.level :=
          fun r hr => by
      have ho : s.Owns g k r := ⟨set, hold, hr⟩
      rw [level_getElem? (hs.lt ho), level_getElem? (Nat.lt_of_lt_of_le (hs.lt ho) hf.resources),
        (hf.eased r (hs.lt ho) (hs.uncooked ho)).level]
    intro r hr
    rw [ResourceSet.owned?_congr hlevel]
    exact h g k set hold r hr
  · exact ResourceSet.keeps_of_toList_eq_nil hnil

/-- A resource changes, but not its level. -/
theorem Handing.modifyResource (h : s.Handing) (hs : s.Holdings) (r : Nat)
    {f : Resource → Resource} (hf : ∀ x, (f x).level = x.level) :
    (s.modifyResource r f).Handing := by
  intro g k set hset
  have hold : (s.graph g).sets[k]? = some (some set) := hset
  intro i hi
  have hlevel : ∀ i ∈ set.toList, ((s.modifyResource r f).resources[i]?).map Resource.level =
      (s.resources[i]?).map Resource.level := fun i hi => by
    have hlt := hs.lt ⟨set, hold, hi⟩
    rw [level_getElem? hlt, level_getElem? (Nat.lt_of_lt_of_eq hlt Array.size_modify.symm),
      resource_modifyResource]
    split
    · rw [hf]
    · rfl
  rw [ResourceSet.owned?_congr hlevel]
  exact h g k set hold i hi

/-- What becomes of the resources and of the kernel's set when the kernel asks for its resource. -/
theorem fields_kernelResource {set : ResourceSet}
    (hset : (s.graph g).sets[k]? = some (some set)) :
    (s.kernelResource g k).2.resources =
        (set.resource s.resources (s.graph g).options.level).2.2.2 ∧
      ((s.kernelResource g k).2.graph g).sets[k]? =
        some (some (set.resource s.resources (s.graph g).options.level).2.2.1) := by
  have hjoin : ((s.graph g).sets[k]?).join = some set := by rw [hset]; rfl
  unfold Session.kernelResource
  simp only [hjoin, Option.getD_some]
  generalize set.resource s.resources (s.graph g).options.level = out
  obtain ⟨r, task, set', resources⟩ := out
  have hsets : ((modifyGraph { s with resources } g fun x =>
      { x with sets := x.sets.set k (some set') }).graph g).sets[k]? = some (some set') := by
    rw [graph_modifyGraph, if_pos ⟨rfl, lt_size_of_set hset⟩]
    exact List.getElem?_set_self (List.getElem?_eq_some_iff.1 hset).1
  cases task with
  | none => exact ⟨rfl, hsets⟩
  | some id => exact ⟨rfl, hsets⟩

/-- A resource that is added does not change the level of another one. -/
theorem level_addResource {set : ResourceSet} {level : FeatureLevel} (hlt : r < s.resources.size) :
    ((s.addResource g k set level).resources[r]?).map Resource.level =
      (s.resources[r]?).map Resource.level := by
  rw [level_getElem? hlt, level_getElem? (by rw [size_addResource]; omega), resource_addResource,
    if_neg (Nat.ne_of_lt hlt)]

/-- **A kernel that asks** for its resource keeps to it. -/
theorem Handing.kernelResource (h : s.Handing) (hs : s.Holdings) {set : ResourceSet}
    (hset : (s.graph g).sets[k]? = some (some set)) : (s.kernelResource g k).2.Handing := by
  obtain ⟨hresources, hsets⟩ := fields_kernelResource hset
  have hkeeps := (h g k set hset).resource (hs.fits hset)
  have hprovides := kernelResource_provides hs hset
  generalize s.kernelResource g k = out at hresources hsets hprovides
  cases hprovides with
  | old _ _ => exact h
  | @new set' level _ _ _ _ =>
    rw [← hresources] at hkeeps
    rw [sets_addResource_self hset] at hsets
    cases hsets
    intro i j set hset' r hr
    rw [(options_addResource i).1]
    by_cases hi : i = g ∧ j = k
    · obtain ⟨rfl, rfl⟩ := hi
      rw [sets_addResource_self hset] at hset'
      cases hset'
      exact hkeeps r hr
    · rw [sets_addResource_of_ne hi] at hset'
      rw [ResourceSet.owned?_congr fun r hr => level_addResource (hs.lt ⟨set, hset', hr⟩)]
      exact h i j set hset' r hr

/-- What one finds is the kernel's resource, at a level that is defined and at run time. -/
theorem Handing.resource?_eq (h : s.Handing) (hs : s.Holdings) (ho : s.Owns g k r)
    (hlevel : (s.graph g).options.level.isValid = true ∨ (s.graph g).options.editor = false) :
    s.resource? g k = some r := by
  have hvisible : ResourceSet.Visible (s.graph g).options.editor (s.graph g).options.level :=
    hlevel.symm
  rw [hs.resource?_eq, if_pos hvisible]
  exact h.owned?_eq ho

/-- **An editor finds no resource** at a level that is not defined. -/
theorem Holdings.resource?_eq_none (hs : s.Holdings) (heditor : (s.graph g).options.editor = true)
    (hlevel : (s.graph g).options.level.isValid = false) : s.resource? g k = none := by
  have hhidden : ¬ ResourceSet.Visible (s.graph g).options.editor (s.graph g).options.level := by
    rintro (h | h)
    · cases heditor.symm.trans h
    · cases hlevel.symm.trans h
  rw [hs.resource?_eq, if_neg hhidden]

end

end Session

end KernelGraph
