/-
  What the listings in a hash key tell.

  A listing writes every name and every value with a mark behind it.  A mark that is a part of a
  name or of a value is written as it is, so two lists may have one listing.

  1. Two texts that go on behind a mark are cut at the same place, or one of them has a mark inside
     (`append_mark`).
  2. So two lists with one listing are equal, or where they differ first, one entry blurs the other:
     a mark that ends a part of one stands inside the other (`entryList_first`).
  3. A count is written in digits.  So an option blurs another one only if its name begins with all
     of the other one, and such a name has a colon and a semicolon.

  `listings_tell` puts this together.
-/
import KernelGraph.Proofs.GeneratedPaths
import KernelGraph.Proofs.HashKey
import KernelGraph.Proofs.Permutations
import Mathlib.Data.Set.Function

namespace KernelGraph

/-! ## Texts behind marks -/

/-- Two lists that go on behind a mark are cut at the same place, or one of them contains the mark
    that ends the other one. -/
theorem append_cons_cases {α : Type} {m n : α} {as bs xs ys : List α}
    (h : as ++ m :: xs = bs ++ n :: ys) :
    (as = bs ∧ m = n ∧ xs = ys) ∨ (∃ rest, bs = as ++ m :: rest ∧ xs = rest ++ n :: ys) ∨
      ∃ rest, as = bs ++ n :: rest ∧ ys = rest ++ m :: xs := by
  rcases List.append_eq_append_iff.1 h with ⟨cs, hbs, hxs⟩ | ⟨cs, has, hys⟩
  · cases cs with
    | nil =>
      rw [List.append_nil] at hbs
      obtain ⟨hmark, hrest⟩ := List.cons.inj hxs
      exact .inl ⟨hbs.symm, hmark, hrest⟩
    | cons c rest =>
      obtain ⟨rfl, hrest⟩ := List.cons.inj hxs
      exact .inr (.inl ⟨rest, hbs, hrest⟩)
  · cases cs with
    | nil =>
      rw [List.append_nil] at has
      obtain ⟨hmark, hrest⟩ := List.cons.inj hys
      exact .inl ⟨has, hmark.symm, hrest.symm⟩
    | cons c rest =>
      obtain ⟨rfl, hrest⟩ := List.cons.inj hys
      exact .inr (.inr ⟨rest, has, hrest⟩)

namespace Text

section
variable {mark mark' s t x y : String} {m n : Char}

/-- The same for texts and marks of one character. -/
theorem append_mark (hm : mark.toList = [m]) (hn : mark'.toList = [n])
    (h : s ++ mark ++ x = t ++ mark' ++ y) :
    (s = t ∧ mark = mark' ∧ x = y) ∨ (∃ rest, t = s ++ mark ++ rest ∧ x = rest ++ mark' ++ y) ∨
      ∃ rest, s = t ++ mark' ++ rest ∧ y = rest ++ mark ++ x := by
  have hlist : s.toList ++ m :: x.toList = t.toList ++ n :: y.toList := by
    have hchars := congrArg String.toList h
    simp only [String.toList_append, hm, hn, List.append_assoc, List.singleton_append] at hchars
    exact hchars
  have hback : ∀ {mark a b : String} {c : Char} {cs : List Char}, mark.toList = [c] →
      a.toList = b.toList ++ c :: cs → a = b ++ mark ++ String.ofList cs := by
    intro mark a b c cs hc ha
    apply String.toList_injective
    simp only [String.toList_append, hc, String.toList_ofList, List.append_assoc,
      List.singleton_append, ha]
  have hrest : ∀ {mark a b : String} {c : Char} {cs : List Char}, mark.toList = [c] →
      a.toList = cs ++ c :: b.toList → a = String.ofList cs ++ mark ++ b := by
    intro mark a b c cs hc ha
    apply String.toList_injective
    simp only [String.toList_append, hc, String.toList_ofList, List.append_assoc,
      List.singleton_append, ha]
  rcases append_cons_cases hlist with ⟨hst, hmark, hxy⟩ | ⟨cs, ht, hx⟩ | ⟨cs, hs, hy⟩
  · refine .inl ⟨String.toList_injective hst, String.toList_injective ?_,
      String.toList_injective hxy⟩
    rw [hm, hn, hmark]
  · exact .inr (.inl ⟨_, hback hm ht, hrest hn hx⟩)
  · exact .inr (.inr ⟨_, hback hn hs, hrest hm hy⟩)

theorem mem_of_eq_append_mark (hm : mark.toList = [m]) (h : s = t ++ mark ++ x) :
    m ∈ s.toList := by
  rw [h, String.toList_append, String.toList_append, hm]
  simp

end

end Text

/-! ## The first difference -/

/-- The lists agree up to two elements that are related. -/
inductive FirstAt {α : Type} (R : α → α → Prop) : List α → List α → Prop
  | here {x y : α} {xs ys : List α} (h : R x y) : FirstAt R (x :: xs) (y :: ys)
  | there {xs ys : List α} (x : α) (h : FirstAt R xs ys) : FirstAt R (x :: xs) (x :: ys)

section
variable {α : Type} {R : α → α → Prop} {xs ys : List α}

theorem FirstAt.exists_mem (h : FirstAt R xs ys) : ∃ x ∈ xs, ∃ y ∈ ys, R x y := by
  induction h with
  | here h => exact ⟨_, List.mem_cons_self .., _, List.mem_cons_self .., h⟩
  | there _ _ ih =>
    obtain ⟨x, hx, y, hy, hR⟩ := ih
    exact ⟨x, List.mem_cons_of_mem _ hx, y, List.mem_cons_of_mem _ hy, hR⟩

theorem FirstAt.ne (h : FirstAt R xs ys) (hR : ∀ x, ¬ R x x) : xs ≠ ys := by
  induction h with
  | here h =>
    intro heq
    cases heq
    exact hR _ h
  | there _ _ ih => exact fun heq => ih (List.cons.inj heq).2

end

/-! ## Entries that blur each other -/

/-- A mark that ends a part of the entry `x` stands inside the entry `y`, which otherwise begins
    like `x`. -/
inductive Blurs (separator : String) (x y : String × String) : Prop
  /-- The name of `y` begins with all of `x`. -/
  | whole {rest : String} (h : y.1 = x.1 ++ separator ++ (x.2 ++ ";" ++ rest)) : Blurs separator x y
  /-- The name of `y` ends inside the value of `x`. -/
  | name {front rest : String} (hname : y.1 = x.1 ++ separator ++ front)
      (hvalue : x.2 = front ++ separator ++ rest) : Blurs separator x y
  /-- The names are the same, and the value of `y` goes on behind that of `x`. -/
  | value {rest : String} (hname : x.1 = y.1) (hvalue : y.2 = x.2 ++ ";" ++ rest) :
      Blurs separator x y

/-- One of the entries blurs the other. -/
def Blurred (separator : String) (x y : String × String) : Prop :=
  Blurs separator x y ∨ Blurs separator y x

section
variable {separator : String} {c : Char} {x y : String × String}

theorem ne_append_mark {mark s t : String} {m : Char} (hm : mark.toList = [m]) :
    s ≠ s ++ mark ++ t := by
  intro h
  have hlength := congrArg (fun s => s.toList.length) h
  simp only [String.toList_append, hm, List.length_append, List.length_singleton] at hlength
  omega

theorem not_blurs_self (hc : separator.toList = [c]) : ¬ Blurs separator x x := by
  intro h
  cases h with
  | whole h => exact ne_append_mark hc h
  | name hname => exact ne_append_mark hc hname
  | value _ hvalue => exact ne_append_mark rfl hvalue

theorem not_blurred_self (hc : separator.toList = [c]) : ¬ Blurred separator x x :=
  fun h => h.elim (not_blurs_self hc) (not_blurs_self hc)

/-- **Two entries in front of equal texts** are equal, or one of them blurs the other. -/
theorem eq_or_blurred (hc : separator.toList = [c]) (hne : separator ≠ ";") {s t : String}
    (h : x.1 ++ separator ++ x.2 ++ ";" ++ s = y.1 ++ separator ++ y.2 ++ ";" ++ t) :
    x = y ∨ Blurred separator x y := by
  -- the name of `b` reads on over the separator of `a`
  have hname : ∀ {a b : String × String} {rest s t : String},
      b.1 = a.1 ++ separator ++ rest → a.2 ++ ";" ++ s = rest ++ separator ++ t →
        Blurs separator a b := by
    intro a b rest s t hb hrest
    rcases Text.append_mark rfl hc hrest with ⟨_, hmark, _⟩ | ⟨behind, hfront, _⟩ | ⟨_, hvalue, _⟩
    · exact absurd hmark.symm hne
    · exact .whole (hfront ▸ hb)
    · exact .name hb hvalue
  have hassoc : x.1 ++ separator ++ (x.2 ++ ";" ++ s) = y.1 ++ separator ++ (y.2 ++ ";" ++ t) := by
    simpa only [String.append_assoc] using h
  rcases Text.append_mark hc hc hassoc with ⟨hsame, _, hvalues⟩ | ⟨_, hy, hx⟩ | ⟨_, hx, hy⟩
  · rcases Text.append_mark rfl rfl hvalues with ⟨hvalue, _⟩ | ⟨_, hy, _⟩ | ⟨_, hx, _⟩
    · exact .inl (Prod.ext hsame hvalue)
    · exact .inr (.inl (.value hsame hy))
    · exact .inr (.inr (.value hsame.symm hx))
  · exact .inr (.inl (hname hy hx))
  · exact .inr (.inr (hname hx hy))

theorem entryList_cons (separator : String) (x : String × String) (xs : List (String × String)) :
    entryList separator (x :: xs) =
      x.1 ++ separator ++ x.2 ++ ";" ++ entryList separator xs := by
  rw [entryList, List.map_cons, String.join_cons]
  rfl

theorem entryList_cons_ne_nil (separator : String) (x : String × String)
    (xs : List (String × String)) : entryList separator (x :: xs) ≠ entryList separator [] := by
  intro h
  have hlength := congrArg String.length h
  rw [length_entryList, length_entryList, List.map_cons, List.map_cons, List.sum_cons] at hlength
  simp only [List.map_nil, List.sum_nil] at hlength
  omega

/-- **Lists with one listing** are equal, or one entry blurs another where they differ first. -/
theorem entryList_first (hc : separator.toList = [c]) (hne : separator ≠ ";") :
    ∀ {xs ys : List (String × String)}, entryList separator xs = entryList separator ys →
      xs = ys ∨ FirstAt (Blurred separator) xs ys := by
  intro xs
  induction xs with
  | nil =>
    intro ys h
    cases ys with
    | nil => exact .inl rfl
    | cons y ys => exact absurd h.symm (entryList_cons_ne_nil separator y ys)
  | cons x xs ih =>
    intro ys h
    cases ys with
    | nil => exact absurd h (entryList_cons_ne_nil separator x xs)
    | cons y ys =>
      rw [entryList_cons, entryList_cons] at h
      rcases eq_or_blurred hc hne h with rfl | hblurred
      · rcases ih ((String.append_right_inj _).1 h) with rfl | hlater
        · exact .inl rfl
        · exact .inr (.there x hlater)
      · exact .inr (.here hblurred)

/-- **Lists with one listing** are equal exactly if no entry blurs another one where they differ
    first. -/
theorem entryList_eq_iff (hc : separator.toList = [c]) (hne : separator ≠ ";")
    {xs ys : List (String × String)} (h : entryList separator xs = entryList separator ys) :
    xs = ys ↔ ¬ FirstAt (Blurred separator) xs ys :=
  ⟨fun heq hfirst => hfirst.ne (fun _ => not_blurred_self hc) heq,
    (entryList_first hc hne h).resolve_right⟩

end

/-! ## Definitions and options -/

namespace Definitions

/-- The sets that setting and merging lead to.  A copy of a set is the set itself. -/
inductive Reachable : Definitions → Prop
  | empty : Reachable empty
  | set {s : Definitions} (name value : String) : Reachable s → Reachable (s.set name value)
  | merge {s o : Definitions} : Reachable s → Reachable o → Reachable (s.merge o)

/-- No name has an equals sign, and no value a semicolon. -/
def Unmarked (s : Definitions) : Prop :=
  ∀ d ∈ s.toList, '=' ∉ d.name.toList ∧ ';' ∉ d.value.toList

instance (s : Definitions) : Decidable s.Unmarked :=
  inferInstanceAs (Decidable (∀ d ∈ s.toList, '=' ∉ d.name.toList ∧ ';' ∉ d.value.toList))

theorem mem_entries {s : Definitions} {x : String × String} (h : x ∈ s.entries) :
    ⟨x.1, x.2⟩ ∈ s.toList := by
  obtain ⟨d, hd, rfl⟩ := List.mem_map.1 h
  exact hd

theorem Unmarked.not_blurs {b : Definitions} (hb : b.Unmarked) {x y : String × String}
    (hy : y ∈ b.entries) : ¬ Blurs "=" x y := by
  obtain ⟨hname, hvalue⟩ := hb _ (mem_entries hy)
  intro h
  cases h with
  | whole h => exact hname (Text.mem_of_eq_append_mark rfl h)
  | name h => exact hname (Text.mem_of_eq_append_mark rfl h)
  | value _ h => exact hvalue (Text.mem_of_eq_append_mark rfl h)

end Definitions

namespace PermutationVector

/-- No name has both a colon and a semicolon. -/
def Unmarked (v : PermutationVector) : Prop :=
  ∀ o ∈ v.options, ':' ∉ o.name.toList ∨ ';' ∉ o.name.toList

instance (v : PermutationVector) : Decidable v.Unmarked :=
  inferInstanceAs (Decidable (∀ o ∈ v.options, ':' ∉ o.name.toList ∨ ';' ∉ o.name.toList))

/-- A count is written without marks. -/
theorem notMem_count (n : Int) : ':' ∉ (toString n).toList ∧ ';' ∉ (toString n).toList := by
  constructor
  · intro h
    rcases isDigit_of_mem_slot h with h | h
    · exact absurd h (by decide)
    · exact absurd h (by decide)
  · intro h
    rcases isDigit_of_mem_slot h with h | h
    · exact absurd h (by decide)
    · exact absurd h (by decide)

/-- **An option blurs another one** only if its name begins with all of the other one. -/
theorem exists_of_blurs {v w : PermutationVector} {x y : String × String} (hx : x ∈ v.entries)
    (hy : y ∈ w.entries) (h : Blurs ":" x y) :
    ∃ rest, y.1 = x.1 ++ ":" ++ (x.2 ++ ";" ++ rest) := by
  obtain ⟨o, _, rfl⟩ := List.mem_map.1 hx
  obtain ⟨o', _, rfl⟩ := List.mem_map.1 hy
  cases h with
  | whole h => exact ⟨_, h⟩
  | name _ hvalue => exact absurd (Text.mem_of_eq_append_mark rfl hvalue) (notMem_count _).1
  | value _ hvalue => exact absurd (Text.mem_of_eq_append_mark rfl hvalue) (notMem_count _).2

theorem Unmarked.not_blurs {v w : PermutationVector} (hw : w.Unmarked) {x y : String × String}
    (hx : x ∈ v.entries) (hy : y ∈ w.entries) : ¬ Blurs ":" x y := by
  intro h
  obtain ⟨rest, hname⟩ := exists_of_blurs hx hy h
  obtain ⟨o, ho, rfl⟩ := List.mem_map.1 hy
  rcases hw o ho with hcolon | hsemicolon
  · exact hcolon (Text.mem_of_eq_append_mark rfl hname)
  · refine hsemicolon ?_
    have hassoc : o.name = (x.1 ++ ":" ++ x.2) ++ ";" ++ rest := by
      simpa only [String.append_assoc] using hname
    exact Text.mem_of_eq_append_mark rfl hassoc

end PermutationVector

/-! ## What listings tell -/

/-- **Sets with one listing are equal** exactly if no entry blurs another where they differ
    first. -/
theorem Definitions.eq_iff_of_listing_eq {a b : Definitions} (h : a.listing = b.listing) :
    a = b ↔ ¬ FirstAt (Blurred "=") a.entries b.entries := by
  rw [a.listing_eq, b.listing_eq] at h
  rw [← entryList_eq_iff rfl (by decide) h]
  exact ⟨congrArg _, Definitions.entries_injective⟩

/-- **Vectors with one listing are equal** exactly if no entry blurs another where they differ
    first. -/
theorem PermutationVector.eq_iff_of_listing_eq {v w : PermutationVector}
    (h : v.listing = w.listing) : v = w ↔ ¬ FirstAt (Blurred ":") v.entries w.entries := by
  rw [v.listing_eq, w.listing_eq] at h
  rw [← entryList_eq_iff rfl (by decide) h]
  exact ⟨congrArg _, PermutationVector.entries_injective⟩

/-- **A listing tells its set** among those without marks in the wrong places. -/
theorem Definitions.listing_injOn : Set.InjOn Definitions.listing {s | s.Unmarked} := by
  intro a ha b hb h
  refine (Definitions.eq_iff_of_listing_eq h).2 fun hfirst => ?_
  obtain ⟨x, hx, y, hy, hxy | hyx⟩ := hfirst.exists_mem
  · exact Definitions.Unmarked.not_blurs hb hy hxy
  · exact Definitions.Unmarked.not_blurs ha hx hyx

/-- **A listing tells its vector** among those without marks in the wrong places. -/
theorem PermutationVector.listing_injOn :
    Set.InjOn PermutationVector.listing {v | v.Unmarked} := by
  intro v hv w hw h
  refine (PermutationVector.eq_iff_of_listing_eq h).2 fun hfirst => ?_
  obtain ⟨x, hx, y, hy, hxy | hyx⟩ := hfirst.exists_mem
  · exact PermutationVector.Unmarked.not_blurs hw hx hy hxy
  · exact PermutationVector.Unmarked.not_blurs hv hy hx hyx

/-- **What equal listings tell.**

    1. Of two sets of definitions, or two permutation vectors, with one listing: they are equal
       exactly if no entry blurs another one where they differ first.

    2. They are equal if the names of both sets have no equals sign and their values no semicolon,
       or if no name in the vectors has both a colon and a semicolon. -/
theorem listings_tell (a b : Definitions) (v w : PermutationVector) :
    (a.listing = b.listing →
      (a = b ↔ ¬ FirstAt (Blurred "=") a.entries b.entries) ∧
        (a.Unmarked → b.Unmarked → a = b)) ∧
    (v.listing = w.listing →
      (v = w ↔ ¬ FirstAt (Blurred ":") v.entries w.entries) ∧
        (v.Unmarked → w.Unmarked → v = w)) :=
  ⟨fun h => ⟨Definitions.eq_iff_of_listing_eq h, fun ha hb => Definitions.listing_injOn ha hb h⟩,
    fun h => ⟨PermutationVector.eq_iff_of_listing_eq h,
      fun hv hw => PermutationVector.listing_injOn hv hw h⟩⟩

/-! ### One listing, read twice -/

/-- One definition, whose value goes on behind a semicolon. -/
def joinedDefinition : Definitions := Definitions.empty.set "A" "1;B=2"

/-- Two definitions. -/
def splitDefinitions : Definitions := (Definitions.empty.set "A" "1").set "B" "2"

/-- One option, whose name begins with another option. -/
def joinedOption : PermutationVector := PermutationVector.empty.add "A:2;B" 3

/-- Two options. -/
def splitOptions : PermutationVector := (PermutationVector.empty.add "A" 2).add "B" 3

theorem listing_joinedDefinition : joinedDefinition.listing = splitDefinitions.listing := by decide

theorem listing_joinedOption : joinedOption.listing = splitOptions.listing := by decide

/-- The joined ones blur the split ones.  The split ones have another listing in another order. -/
theorem listings_tell_joined :
    (joinedDefinition.listing = splitDefinitions.listing ∧
      FirstAt (Blurred "=") joinedDefinition.entries splitDefinitions.entries) ∧
    (joinedOption.listing = splitOptions.listing ∧
      FirstAt (Blurred ":") joinedOption.entries splitOptions.entries) ∧
    ((Definitions.empty.set "B" "2").set "A" "1").listing ≠ splitDefinitions.listing ∧
    ((PermutationVector.empty.add "B" 3).add "A" 2).listing ≠ splitOptions.listing := by
  obtain ⟨hsets, hvectors⟩ :=
    listings_tell joinedDefinition splitDefinitions joinedOption splitOptions
  obtain ⟨hswapped, hturned⟩ := listings_tell ((Definitions.empty.set "B" "2").set "A" "1")
    splitDefinitions ((PermutationVector.empty.add "B" 3).add "A" 2) splitOptions
  refine ⟨⟨listing_joinedDefinition, ?_⟩, ⟨listing_joinedOption, ?_⟩, fun h => ?_, fun h => ?_⟩
  · by_contra hfirst
    exact absurd ((hsets listing_joinedDefinition).1.2 hfirst) (by decide)
  · by_contra hfirst
    exact absurd ((hvectors listing_joinedOption).1.2 hfirst) (by decide)
  · exact absurd ((hswapped h).2 (by decide) (by decide)) (by decide)
  · exact absurd ((hturned h).2 (by decide) (by decide)) (by decide)

/-- Equal listings do not mean equal definitions, nor equal options. -/
theorem not_listings_tell :
    (¬ ∀ a b : Definitions, a.Reachable → b.Reachable → a.listing = b.listing →
      a.toList = b.toList) ∧
    ¬ ∀ v w : PermutationVector, v.Reachable → w.Reachable → v.listing = w.listing → v = w := by
  constructor
  · intro h
    have hsame := h joinedDefinition splitDefinitions (.set _ _ .empty)
      (.set _ _ (.set _ _ .empty)) listing_joinedDefinition
    exact absurd hsame (by decide)
  · intro h
    have hsame := h joinedOption splitOptions (.add _ _ .empty) (.add _ _ (.add _ _ .empty))
      listing_joinedOption
    exact absurd hsame (by decide)

end KernelGraph
