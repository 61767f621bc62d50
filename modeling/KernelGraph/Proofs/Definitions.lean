/-
  Sets of definitions are ordered, and the last write wins.

  1. The two things that tell a set: the order of its names and the value of each name
     (`eq_of_names_of_lookup?`).  The order is fixed by the first write of a name and the value by
     the last, so every law is proved for the one and for the other.

  2. `Records`: what a set knows of the writes that made it.  Whatever sequence of single writes and
     merges a set comes from, it records the writes of the sequence.

  3. Merging sets is associative and idempotent, and the empty set is neutral.
-/
import KernelGraph.Proofs.Layout

namespace KernelGraph.Definitions

open KernelGraph.Graph (distinct)

/-- The names of a set, in order. -/
def names (s : Definitions) : List String := s.toList.map Define.name

variable {s a b c : Definitions} {n v : String}

/-! ## One write -/

theorem names_set (s : Definitions) (n v : String) :
    (s.set n v).names = if n ∈ s.names then s.names else s.names ++ [n] := by
  obtain ⟨ds⟩ := s
  show (setList n v ds).map Define.name =
    if n ∈ ds.map Define.name then ds.map Define.name else ds.map Define.name ++ [n]
  induction ds with
  | nil => rfl
  | cons d ds ih =>
    rw [setList]
    by_cases hd : d.name = n
    · subst hd
      simp
    · have hiff : n ∈ (d :: ds).map Define.name ↔ n ∈ ds.map Define.name := by simp [Ne.symm hd]
      rw [if_neg hd, List.map_cons, ih]
      simp only [hiff]
      split <;> rfl

/-- A write is seen under its name and nowhere else. -/
theorem lookup?_set (s : Definitions) (n v m : String) :
    (s.set n v).lookup? m = if n = m then some v else s.lookup? m := by
  obtain ⟨ds⟩ := s
  show ((setList n v ds).find? fun d => d.name = m).map Define.value =
    if n = m then some v else (ds.find? fun d => d.name = m).map Define.value
  induction ds with
  | nil => by_cases h : n = m <;> simp [setList, h]
  | cons d ds ih =>
    rw [setList]
    by_cases hd : d.name = n
    · subst hd
      by_cases h : d.name = m <;> simp [h]
    · rw [if_neg hd]
      by_cases hm : d.name = m
      · subst hm
        simp [Ne.symm hd]
      · rw [List.find?_cons_of_neg (by simpa using hm), List.find?_cons_of_neg (by simpa using hm)]
        exact ih

/-! ## Many writes -/

theorem setAll_nil (s : Definitions) : s.setAll [] = s := rfl

theorem setAll_append (s : Definitions) (ws us : List Define) :
    s.setAll (ws ++ us) = (s.setAll ws).setAll us := List.foldl_append

theorem setAll_concat (s : Definitions) (ws : List Define) (d : Define) :
    s.setAll (ws ++ [d]) = (s.setAll ws).set d.name d.value := setAll_append s ws [d]

/-- **The first write of a name fixes its place.** -/
theorem names_setAll_empty (ws : List Define) :
    (empty.setAll ws).names = distinct (ws.map Define.name) := by
  induction ws using List.reverseRecOn with
  | nil => rfl
  | append_singleton ws d ih =>
    rw [setAll_concat, names_set, ih, List.map_append, List.map_singleton, Graph.distinct_concat]
    simp only [List.contains_iff_mem]

/-- The value of the last write of a name. -/
def lastWrite? (ws : List Define) (n : String) : Option String :=
  (ws.reverse.find? fun d => d.name = n).map Define.value

theorem lastWrite?_concat (ws : List Define) (d : Define) (n : String) :
    lastWrite? (ws ++ [d]) n = if d.name = n then some d.value else lastWrite? ws n := by
  rw [lastWrite?, List.reverse_concat, List.find?_cons]
  by_cases h : d.name = n <;> simp [h, lastWrite?]

/-- **The last write of a name fixes its value.** -/
theorem lookup?_setAll (s : Definitions) (ws : List Define) (n : String) :
    (s.setAll ws).lookup? n = (lastWrite? ws n).or (s.lookup? n) := by
  induction ws using List.reverseRecOn with
  | nil => rfl
  | append_singleton ws d ih =>
    rw [setAll_concat, lookup?_set, lastWrite?_concat, ih]
    split <;> rfl

/-- Writes of different names put those names behind that are new. -/
theorem names_setAll (s : Definitions) {ws : List Define} (hws : (ws.map Define.name).Nodup) :
    (s.setAll ws).names = s.names ++ (ws.map Define.name).filter fun n => n ∉ s.names := by
  induction ws using List.reverseRecOn with
  | nil => rw [setAll_nil, List.map_nil, List.filter_nil, List.append_nil]
  | append_singleton ws d ih =>
    rw [List.map_append, List.map_singleton, List.nodup_append] at hws
    obtain ⟨hws, _, hnew⟩ := hws
    have hd : d.name ∉ ws.map Define.name := fun h => hnew _ h _ (List.mem_singleton_self _) rfl
    rw [setAll_concat, names_set, ih hws, List.map_append, List.map_singleton, List.filter_append,
      ← List.append_assoc]
    by_cases hold : d.name ∈ s.names
    · simp [hold]
    · simp [hold, hd]

/-! ## What tells a set -/

theorem lookup?_isSome : (s.lookup? n).isSome ↔ n ∈ s.names := by
  rw [lookup?, Option.isSome_map, List.find?_isSome, names, List.mem_map]
  simp

/-- Where no name stands twice, what is found is what stands in the list. -/
theorem lookup?_eq_some (h : s.names.Nodup) : s.lookup? n = some v ↔ ⟨n, v⟩ ∈ s.toList := by
  obtain ⟨ds⟩ := s
  change (ds.map Define.name).Nodup at h
  show (ds.find? fun d => d.name = n).map Define.value = some v ↔ ⟨n, v⟩ ∈ ds
  induction ds with
  | nil => simp
  | cons d ds ih =>
    obtain ⟨hd, hds⟩ := List.nodup_cons.1 h
    by_cases hn : d.name = n
    · subst hn
      have hother : ⟨d.name, v⟩ ∉ ds := fun hmem => hd (List.mem_map.2 ⟨_, hmem, rfl⟩)
      obtain ⟨n, u⟩ := d
      simp [hother, eq_comm]
    · have hhead : (⟨n, v⟩ : Define) ≠ d := by
        rintro rfl
        exact hn rfl
      rw [List.find?_cons_of_neg (by simpa using hn), ih hds, List.mem_cons]
      simp [hhead]

/-- A set in which no name stands twice can be read off its names and what is found under them. -/
theorem toList_eq (h : s.names.Nodup) :
    s.toList = s.names.map fun n => ⟨n, (s.lookup? n).getD ""⟩ := by
  rw [names, List.map_map]
  refine (List.map_id _).symm.trans (List.map_congr_left fun d hd => ?_)
  rw [Function.comp, (lookup?_eq_some h).2 hd]
  rfl

/-- **The order of its names and their values tell a set** in which no name stands twice. -/
theorem eq_of_names_of_lookup? (ha : a.names.Nodup) (hnames : a.names = b.names)
    (hlookup : ∀ n, a.lookup? n = b.lookup? n) : a = b := by
  have hlists : a.toList = b.toList := by
    rw [toList_eq ha, toList_eq (hnames ▸ ha), hnames]
    simp only [hlookup]
  cases a
  cases b
  exact congrArg _ hlists

/-! ## Merging -/

/-- The last write of a name is the only one, if no name is written twice. -/
theorem lastWrite?_toList (h : s.names.Nodup) (n : String) :
    lastWrite? s.toList n = s.lookup? n := by
  have hreverse : (Definitions.mk s.toList.reverse).names.Nodup := by
    rw [names, List.map_reverse]
    exact List.nodup_reverse.2 h
  refine Option.ext fun v => ?_
  rw [lookup?_eq_some h, ← List.mem_reverse]
  exact lookup?_eq_some hreverse

/-- **Merging** puts the new names behind the old ones. -/
theorem names_merge (a : Definitions) (hb : b.names.Nodup) :
    (a.merge b).names = a.names ++ b.names.filter fun n => n ∉ a.names := names_setAll a hb

/-- **Merging** finds what the second set says, and what the first one says otherwise. -/
theorem lookup?_merge (a : Definitions) (hb : b.names.Nodup) (n : String) :
    (a.merge b).lookup? n = (b.lookup? n).or (a.lookup? n) := by
  rw [merge, lookup?_setAll, lastWrite?_toList hb]

theorem nodup_merge (ha : a.names.Nodup) (hb : b.names.Nodup) : (a.merge b).names.Nodup := by
  rw [names_merge a hb]
  refine List.Nodup.append ha (hb.filter _) fun n hn hn' => ?_
  simp only [List.mem_filter, decide_eq_true_eq] at hn'
  exact hn'.2 hn

theorem merge_assoc (ha : a.names.Nodup) (hb : b.names.Nodup) (hc : c.names.Nodup) :
    (a.merge b).merge c = a.merge (b.merge c) := by
  have hbc := nodup_merge hb hc
  refine eq_of_names_of_lookup? (nodup_merge (nodup_merge ha hb) hc) ?_ fun n => ?_
  · rw [names_merge _ hc, names_merge _ hb, names_merge _ hbc, names_merge _ hc,
      List.filter_append, List.filter_filter, List.append_assoc]
    congr 2
    -- a name of the third set is new to both exactly if it is new to each
    refine List.filter_congr fun n _ => ?_
    by_cases hna : n ∈ a.names <;> simp [hna]
  · rw [lookup?_merge _ hc, lookup?_merge _ hb, lookup?_merge _ hbc, lookup?_merge _ hc,
      Option.or_assoc]

theorem merge_empty (a : Definitions) : a.merge empty = a := rfl

theorem empty_merge (ha : a.names.Nodup) : empty.merge a = a := by
  have hempty : empty.names.Nodup := List.nodup_nil
  refine eq_of_names_of_lookup? (nodup_merge hempty ha) ?_ fun n => ?_
  · rw [names_merge _ ha]
    simp [names, empty]
  · rw [lookup?_merge _ ha]
    exact Option.or_none

theorem merge_merge_self (ha : a.names.Nodup) (hb : b.names.Nodup) :
    (a.merge b).merge b = a.merge b := by
  have hab := nodup_merge ha hb
  refine eq_of_names_of_lookup? (nodup_merge hab hb) ?_ fun n => ?_
  · -- no name of the second set is new a second time
    have hnone : (b.names.filter fun n => n ∉ (a.merge b).names) = [] := by
      rw [List.filter_eq_nil_iff]
      intro n hn
      rw [← lookup?_isSome] at hn
      rw [decide_eq_true_eq, not_not, ← lookup?_isSome, lookup?_merge _ hb, Option.isSome_or, hn]
      rfl
    rw [names_merge _ hb, hnone, List.append_nil]
  · rw [lookup?_merge _ hb, lookup?_merge _ hb, ← Option.or_assoc, Option.or_self]

/-! ## Sequences of writes -/

/-- A call that writes definitions. -/
inductive Call where
  | set (name value : String)
  | merge (other : Definitions)

/-- What a call writes, one after the other. -/
def Call.writes : Call → List Define
  | set name value => [⟨name, value⟩]
  | merge other => other.toList

/-- The set after a call. -/
def perform (s : Definitions) : Call → Definitions
  | .set name value => s.set name value
  | .merge other => s.merge other

/-- The set that a sequence of calls makes of the empty one. -/
def made (calls : List Call) : Definitions := calls.foldl perform empty

/-- A sequence of calls makes its writes. -/
theorem made_eq (calls : List Call) : made calls = empty.setAll (calls.flatMap Call.writes) := by
  induction calls using List.reverseRecOn with
  | nil => rfl
  | append_singleton calls call ih =>
    rw [made, List.foldl_concat, ← made, ih, List.flatMap_append, List.flatMap_singleton,
      setAll_append]
    cases call with
    | set name value => rfl
    | merge other => rfl

/-- What a set knows of the writes that made it: each name once, in the order of their first writes,
    with the value of its last one. -/
structure Records (s : Definitions) (ws : List Define) : Prop where
  nodup : s.names.Nodup
  mem_names : ∀ n, n ∈ s.names ↔ ∃ d ∈ ws, d.name = n
  order : s.names.Pairwise fun m n =>
    (ws.findIdx fun d => d.name = m) < ws.findIdx fun d => d.name = n
  lookup? : ∀ n, s.lookup? n = lastWrite? ws n

theorem records_setAll (ws : List Define) : Records (empty.setAll ws) ws where
  nodup := by
    rw [names_setAll_empty]
    exact Graph.nodup_distinct _
  mem_names n := by
    rw [names_setAll_empty, Graph.mem_distinct, List.mem_map]
  order := by
    rw [names_setAll_empty]
    simpa using Graph.pairwise_distinct (fun _ => true) Define.name ws
  lookup? n := by
    rw [lookup?_setAll]
    exact Option.or_none

theorem nodup_made (calls : List Call) : (made calls).names.Nodup := by
  rw [made_eq]
  exact (records_setAll _).nodup

/-- **Sets of definitions are ordered, and the last write wins.**

    1. A set that is made from the empty one by writes and merges has each name once, in the order
       of the first writes, and under each name the value of the last one.

    2. Sets that are made so form a monoid under merging in which merging twice is merging once, and
       a merged set says what the second one says, or else what the first one says. -/
theorem last_write_wins :
    (∀ calls, (made calls).Records (calls.flatMap Call.writes)) ∧
      ∀ as bs cs : List Call,
        ((made as).merge (made bs)).merge (made cs) = (made as).merge ((made bs).merge (made cs)) ∧
        (made as).merge empty = made as ∧ empty.merge (made as) = made as ∧
        ((made as).merge (made bs)).merge (made bs) = (made as).merge (made bs) ∧
        ∀ n, ((made as).merge (made bs)).lookup? n =
          ((made bs).lookup? n).or ((made as).lookup? n) := by
  refine ⟨fun calls => ?_, fun as bs cs => ?_⟩
  · rw [made_eq]
    exact records_setAll _
  · have ha := nodup_made as
    have hb := nodup_made bs
    have hc := nodup_made cs
    exact ⟨merge_assoc ha hb hc, merge_empty _, empty_merge ha, merge_merge_self ha hb,
      lookup?_merge _ hb⟩

/-- A name that is written twice keeps its place and takes the second value. -/
example : (made [.set "A" "1", .set "B" "", .merge (made [.set "C" "2", .set "A" "3"])]).toList =
    [⟨"A", "3"⟩, ⟨"B", ""⟩, ⟨"C", "2"⟩] := by decide

end KernelGraph.Definitions
