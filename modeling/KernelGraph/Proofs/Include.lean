/-
  Expansion of include directives.

  1. Lines: a text whose first part is terminated has the lines of both parts.
  2. Directives: a line is a directive only if it begins, blanks aside, with the directive's word;
     a directive stays one, with the same path, when text is put behind it, and a line feed makes
     none.
  3. Depth: the depth that `expandFile` counts down is never used up, so an expansion depends only
     on the texts that the resolver gives (`expand_congr`).
  4. Lines that are no directives are copied and change nothing else (`expand_plain`).
-/
import KernelGraph.Include.Expansion
import Mathlib.Data.List.DropRight
import Mathlib.Data.List.Perm.Subperm

namespace KernelGraph

namespace Text

/-! ## Lines -/

/-- A text that is cut at a line feed has the lines of both parts. -/
theorem splitLines_append {a : List Char} (h : a = [] ∨ a.getLast? = some '\n') (b : List Char) :
    splitLines (a ++ b) = splitLines a ++ splitLines b := by
  induction a with
  | nil => rfl
  | cons c cs ih =>
    rw [List.cons_append, splitLines, splitLines]
    by_cases hc : c = '\n'
    · rw [if_pos hc, if_pos hc]
      cases cs with
      | nil => simp [splitLines]
      | cons d ds =>
        have htail : (d :: ds).getLast? = some '\n' := by
          rcases h with h | h
          · cases h
          · rwa [List.getLast?_cons_cons] at h
        rw [ih (Or.inr htail)]
        rfl
    · rw [if_neg hc, if_neg hc]
      -- the last character is a line feed and `c` is none, so something follows `c`
      cases cs with
      | nil => simp_all
      | cons d ds =>
        have htail : (d :: ds).getLast? = some '\n' := by
          rcases h with h | h
          · cases h
          · rwa [List.getLast?_cons_cons] at h
        rw [ih (Or.inr htail)]
        cases hs : splitLines (d :: ds) with
        | nil =>
          have hflat := flatten_splitLines (d :: ds)
          rw [hs] at hflat
          cases hflat
        | cons l ls => rfl

/-- A line feed behind characters that are none makes one line. -/
theorem splitLines_single {a : List Char} (h : '\n' ∉ a) :
    splitLines (a ++ ['\n']) = [a ++ ['\n']] := by
  induction a with
  | nil => rfl
  | cons c cs ih =>
    obtain ⟨hc, hcs⟩ := not_or.1 (fun h' => h (List.mem_cons.2 h'))
    rw [List.cons_append, splitLines, if_neg (Ne.symm hc), ih hcs]

theorem splitLines_cons (c : Char) (cs : List Char) :
    splitLines (c :: cs) =
      if c = '\n' then [c] :: splitLines cs
      else
        match splitLines cs with
        | [] => [[c]]
        | l :: ls => (c :: l) :: ls := rfl

/-- Text behind a text lengthens its last line and adds lines. -/
theorem splitLines_extend {a : List Char} (ha : a ≠ []) (b : List Char) :
    ∃ init last more rest, splitLines a = init ++ [last] ∧
      splitLines (a ++ b) = init ++ (last ++ more) :: rest := by
  induction a with
  | nil => exact absurd rfl ha
  | cons c cs ih =>
    cases cs with
    | nil =>
      by_cases hc : c = '\n'
      · exact ⟨[], [c], [], splitLines b, by simp [splitLines, hc], by simp [splitLines, hc]⟩
      · cases hb : splitLines b with
        | nil => exact ⟨[], [c], [], [], by simp [splitLines, hc], by simp [splitLines, hc, hb]⟩
        | cons l ls =>
          exact ⟨[], [c], l, ls, by simp [splitLines, hc], by simp [splitLines, hc, hb]⟩
    | cons d ds =>
      obtain ⟨init, last, more, rest, ha, hb⟩ := ih (List.cons_ne_nil d ds)
      rw [List.cons_append, splitLines_cons c (d :: ds), splitLines_cons c (d :: ds ++ b), ha, hb]
      by_cases hc : c = '\n'
      · rw [if_pos hc, if_pos hc]
        exact ⟨[c] :: init, last, more, rest, rfl, rfl⟩
      · rw [if_neg hc, if_neg hc]
        cases init with
        | nil => exact ⟨[], c :: last, more, rest, rfl, rfl⟩
        | cons i init => exact ⟨(c :: i) :: init, last, more, rest, rfl, rfl⟩

theorem isTerminated_iff {s : String} :
    isTerminated s ↔ s.toList = [] ∨ s.toList.getLast? = some '\n' := by
  simp [isTerminated]

theorem isTerminated_append_newline (s : String) : isTerminated (s ++ "\n") := by
  rw [isTerminated_iff]
  simp

theorem isTerminated_join {ss : List String} (h : ∀ s ∈ ss, isTerminated s) :
    isTerminated (String.join ss) := by
  induction ss with
  | nil => rfl
  | cons s ss ih =>
    have hs := isTerminated_iff.1 (h s (List.mem_cons_self ..))
    have hss := isTerminated_iff.1 (ih fun t ht => h t (List.mem_cons_of_mem s ht))
    rw [String.join_cons, isTerminated_iff, String.toList_append]
    rcases hss with hss | hss
    · rwa [hss, List.append_nil]
    · exact Or.inr (by rw [List.getLast?_append, hss]; rfl)

theorem lines_append {a : String} (h : isTerminated a) (b : String) :
    lines (a ++ b) = lines a ++ lines b := by
  rw [lines, lines, lines, String.toList_append, splitLines_append (isTerminated_iff.1 h),
    List.map_append]

/-- Characters that are no line feed, and a line feed, are one line. -/
theorem lines_single {s : String} (h : '\n' ∉ s.toList) : lines (s ++ "\n") = [s ++ "\n"] := by
  rw [lines, String.toList_append]
  show (splitLines (s.toList ++ ['\n'])).map String.ofList = _
  rw [splitLines_single h, List.map_singleton, String.ofList_append, String.ofList_toList]

/-- Characters that are no line feed are one line, unless there are none. -/
theorem lines_last {s : String} (h : '\n' ∉ s.toList) (hne : s.toList ≠ []) : lines s = [s] := by
  obtain ⟨init, last, more, rest, hsplit, hextended⟩ := splitLines_extend hne ['\n']
  -- with a line feed behind it the text is one line, so it is the last one of itself
  rw [splitLines_single h] at hextended
  cases init with
  | nil =>
    have hflat := flatten_splitLines s.toList
    rw [hsplit] at hflat
    have hlast : last = s.toList := by simpa using hflat
    rw [lines, hsplit, hlast, List.nil_append, List.map_singleton, String.ofList_toList]
  | cons i init =>
    have hlength := congrArg List.length hextended
    simp only [List.length_append, List.length_cons, List.length_nil] at hlength
    omega

/-- A concatenation of lines has these lines. -/
theorem lines_join {ss : List String} (h : ∀ s ∈ ss, isTerminated s ∧ lines s = [s]) :
    lines (String.join ss) = ss := by
  induction ss with
  | nil => rfl
  | cons s ss ih =>
    obtain ⟨hterm, hline⟩ := h s (List.mem_cons_self ..)
    rw [String.join_cons, lines_append hterm, hline, ih fun t ht => h t (List.mem_cons_of_mem s ht)]
    rfl

/-- The lines of a text concatenate to the text. -/
theorem join_lines (s : String) : String.join (lines s) = s := by
  apply String.toList_injective
  rw [String.toList_join, lines, List.flatMap_map]
  have : (fun a => String.toList (String.ofList a)) = (id : List Char → List Char) := by
    funext a
    simp
  rw [this, List.flatMap_id, flatten_splitLines]

/-! ## Trimming and leading patterns -/

/-- Trimming cuts blanks off both ends. -/
theorem eq_append_trimChars (cs : List Char) :
    ∃ front back, cs = front ++ trimChars cs ++ back ∧ ∀ c ∈ front, isBlank c := by
  obtain ⟨back, hback⟩ := List.rdropWhile_prefix isBlank (cs.dropWhile isBlank)
  refine ⟨cs.takeWhile isBlank, back, ?_, fun c hc => List.mem_takeWhile_imp hc⟩
  show cs = cs.takeWhile isBlank ++ (cs.dropWhile isBlank).rdropWhile isBlank ++ back
  rw [List.append_assoc, hback, List.takeWhile_append_dropWhile]

/-- Blanks in front are dropped, and what stands up to a character that is not blank is kept. -/
theorem trimChars_append {front : List Char} {c d : Char} (a rest : List Char)
    (hfront : ∀ x ∈ front, isBlank x) (hc : isBlank c = false) (hd : isBlank d = false) :
    trimChars (front ++ c :: (a ++ d :: rest)) = c :: (a ++ d :: rest.rdropWhile isBlank) := by
  have hdrop : (front ++ c :: (a ++ d :: rest)).dropWhile isBlank = c :: (a ++ d :: rest) := by
    rw [List.dropWhile_append_of_pos hfront, List.dropWhile_cons_of_neg (by simp [hc])]
  rw [trimChars, hdrop]
  show ((c :: (a ++ d :: rest)).reverse.dropWhile isBlank).reverse = _
  have hrev : (c :: (a ++ d :: rest)).reverse = rest.reverse ++ d :: (c :: a).reverse := by simp
  rw [hrev, List.dropWhile_append]
  split
  · rename_i hempty
    have hnil : rest.reverse.dropWhile isBlank = [] := List.isEmpty_iff.1 hempty
    rw [List.dropWhile_cons_of_neg (by simp [hd]), List.rdropWhile, hnil]
    simp
  · rw [List.rdropWhile]
    simp

theorem dropFront?_eq_some {p cs rest : List Char} :
    dropFront? p cs = some rest ↔ cs = p ++ rest := by
  fun_induction dropFront? p cs with
  | case1 cs => simp [eq_comm]
  | case2 p ps => simp
  | case3 ps c cs ih => simp [ih]
  | case4 p ps c cs hne => simp [Ne.symm hne]

/-- A text contains another one exactly if its characters do. -/
theorem contains_eq_true {s p : String} : contains s p = true ↔ p.toList <:+: s.toList := by
  unfold contains
  induction s.toList with
  | nil => simp [hasInfix]
  | cons c cs ih =>
    rw [hasInfix, Bool.or_eq_true, ih, List.infix_cons_iff, Option.isSome_iff_exists]
    refine or_congr_left (exists_congr fun rest => ?_)
    rw [dropFront?_eq_some, eq_comm]

theorem contains_append_left (t : String) {s p : String} (h : contains s p = true) :
    contains (t ++ s) p = true := by
  rw [contains_eq_true, String.toList_append]
  exact (contains_eq_true.1 h).trans (List.suffix_append ..).isInfix

theorem contains_append_right (t : String) {s p : String} (h : contains s p = true) :
    contains (s ++ t) p = true := by
  rw [contains_eq_true, String.toList_append]
  exact (contains_eq_true.1 h).trans (List.prefix_append ..).isInfix

/-- A text does not contain another one with a character that it does not have. -/
theorem contains_of_notMem {s p : String} {c : Char} (hp : c ∈ p.toList) (hs : c ∉ s.toList) :
    contains s p = false := by
  rw [← Bool.not_eq_true, contains_eq_true]
  exact fun h => hs (h.subset hp)

end Text

namespace Include

/-! ## Directives -/

theorem upTo?_eq_some {close : Char} {cs p : List Char} :
    upTo? close cs = some p ↔ ∃ rest, cs = p ++ close :: rest ∧ close ∉ p := by
  induction cs generalizing p with
  | nil => simp [upTo?]
  | cons c cs ih =>
    rw [upTo?]
    split
    · rename_i hc
      subst hc
      constructor
      · intro h
        cases h
        exact ⟨cs, rfl, by simp⟩
      · rintro ⟨rest, h, hp⟩
        cases p with
        | nil => rfl
        | cons d ds =>
          obtain ⟨rfl, _⟩ := List.cons.inj h
          exact absurd (List.mem_cons_self ..) hp
    · rename_i hc
      rw [Option.map_eq_some_iff]
      constructor
      · rintro ⟨q, hq, rfl⟩
        obtain ⟨rest, rfl, hmem⟩ := ih.1 hq
        exact ⟨rest, rfl, by simp [Ne.symm hc, hmem]⟩
      · rintro ⟨rest, h, hp⟩
        cases p with
        | nil => exact absurd (List.cons.inj h).1 hc
        | cons d ds =>
          obtain ⟨rfl, htail⟩ := List.cons.inj h
          exact ⟨ds, ih.2 ⟨rest, htail, fun hm => hp (List.mem_cons_of_mem _ hm)⟩, rfl⟩

/-- The marks that a path stands between. -/
def Marks (opening close : Char) : Prop :=
  (opening = '"' ∧ close = '"') ∨ (opening = '<' ∧ close = '>')

theorem delimited?_eq_some {cs p : List Char} :
    delimited? cs = some p ↔ ∃ opening close rest, Marks opening close ∧ close ∉ p ∧
      cs = opening :: (p ++ close :: rest) := by
  constructor
  · intro h
    unfold delimited? at h
    split at h
    · obtain ⟨rest, rfl, hp⟩ := upTo?_eq_some.1 h
      exact ⟨'"', '"', rest, Or.inl ⟨rfl, rfl⟩, hp, rfl⟩
    · obtain ⟨rest, rfl, hp⟩ := upTo?_eq_some.1 h
      exact ⟨'<', '>', rest, Or.inr ⟨rfl, rfl⟩, hp, rfl⟩
    · cases h
  · rintro ⟨opening, close, rest, ⟨rfl, rfl⟩ | ⟨rfl, rfl⟩, hp, rfl⟩
    · exact upTo?_eq_some.2 ⟨rest, rfl, hp⟩
    · exact upTo?_eq_some.2 ⟨rest, rfl, hp⟩

theorem Marks.isBlank_opening {opening close : Char} (h : Marks opening close) :
    Text.isBlank opening = false := by
  rcases h with ⟨rfl, rfl⟩ | ⟨rfl, rfl⟩ <;> decide

theorem Marks.isBlank_close {opening close : Char} (h : Marks opening close) :
    Text.isBlank close = false := by
  rcases h with ⟨rfl, rfl⟩ | ⟨rfl, rfl⟩ <;> decide

/-- **The lines that are directives**: the word, blanks around it, and a path between marks. -/
theorem pathChars?_eq_some {line p : List Char} :
    pathChars? line = some p ↔ ∃ front blanks opening close rest,
      (∀ c ∈ front, Text.isBlank c) ∧ (∀ c ∈ blanks, Text.isBlank c) ∧ Marks opening close ∧
      close ∉ p ∧
      line = front ++ "#include".toList ++ blanks ++ opening :: (p ++ close :: rest) := by
  constructor
  · intro h
    rw [pathChars?] at h
    split at h
    · cases h
    · rename_i tail htail
      obtain ⟨front, back, hline, hfront⟩ := Text.eq_append_trimChars line
      obtain ⟨blanks, back', htrim, hblanks⟩ := Text.eq_append_trimChars tail
      obtain ⟨opening, close, rest, hmarks, hp, hcs⟩ := delimited?_eq_some.1 h
      rw [Text.dropFront?_eq_some] at htail
      refine ⟨front, blanks, opening, close, rest ++ back' ++ back, hfront, hblanks, hmarks, hp, ?_⟩
      rw [hcs] at htrim
      rw [hline, htail, htrim]
      simp
  · rintro ⟨front, blanks, opening, close, rest, hfront, hblanks, hmarks, hp, rfl⟩
    have hword : "#include".toList = '#' :: "include".toList := by decide
    have houter : Text.trimChars
        (front ++ "#include".toList ++ blanks ++ opening :: (p ++ close :: rest)) =
        "#include".toList ++
          (blanks ++ opening :: (p ++ close :: rest.rdropWhile Text.isBlank)) := by
      have hhash : Text.isBlank '#' = false := by decide
      have := Text.trimChars_append ("include".toList ++ blanks ++ opening :: p) rest hfront hhash
        hmarks.isBlank_close
      rw [hword]
      simpa using this
    have hinner := Text.trimChars_append p (rest.rdropWhile Text.isBlank) hblanks
      hmarks.isBlank_opening hmarks.isBlank_close
    rw [pathChars?, houter, Text.dropFront?_eq_some.2 rfl]
    dsimp only
    rw [hinner]
    exact delimited?_eq_some.2 ⟨opening, close, _, hmarks, hp, rfl⟩

/-- A directive stays the same directive when text is put behind it. -/
theorem pathChars?_append {line p : List Char} (h : pathChars? line = some p) (more : List Char) :
    pathChars? (line ++ more) = some p := by
  obtain ⟨front, blanks, opening, close, rest, hfront, hblanks, hmarks, hp, rfl⟩ :=
    pathChars?_eq_some.1 h
  exact pathChars?_eq_some.2
    ⟨front, blanks, opening, close, rest ++ more, hfront, hblanks, hmarks, hp, by simp⟩

/-- A line whose first character is not blank is a directive only if the word stands there. -/
theorem pathChars?_eq_none {c : Char} {cs : List Char} (hc : Text.isBlank c = false)
    (h : Text.dropFront? "#include".toList (c :: cs) = none) : pathChars? (c :: cs) = none := by
  by_contra hne
  obtain ⟨p, hp⟩ := Option.ne_none_iff_exists'.1 hne
  obtain ⟨front, blanks, opening, close, rest, hfront, _, _, _, hline⟩ := pathChars?_eq_some.1 hp
  cases front with
  | nil =>
    have hword : Text.dropFront? "#include".toList (c :: cs) =
        some (blanks ++ opening :: (p ++ close :: rest)) := by
      rw [Text.dropFront?_eq_some, hline]
      simp
    rw [h] at hword
    cases hword
  | cons d ds =>
    obtain ⟨rfl, _⟩ := List.cons.inj hline
    rw [hfront c (List.mem_cons_self ..)] at hc
    cases hc

theorem paths_eq (text : String) :
    paths text = (Text.splitLines text.toList).filterMap fun l =>
      (pathChars? l).map String.ofList := by
  rw [paths, Text.lines, List.filterMap_map]
  congr 1
  funext l
  rw [Function.comp, path?, String.toList_ofList]

/-- **The directives of a text stay directives** when text is put behind it. -/
theorem paths_append (text more : String) : paths text <+: paths (text ++ more) := by
  rw [paths_eq, paths_eq, String.toList_append]
  by_cases hempty : text.toList = []
  · rw [hempty]
    exact List.nil_prefix
  · obtain ⟨init, last, extra, rest, ha, hb⟩ := Text.splitLines_extend hempty more.toList
    rw [ha, hb, List.filterMap_append, List.filterMap_append, List.prefix_append_right_inj]
    cases hp : pathChars? last with
    | none => simp [hp]
    | some p => simp [hp, pathChars?_append hp extra]

/-- A line feed behind a line makes no directive of it, and spoils none. -/
theorem pathChars?_newline (line : List Char) : pathChars? (line ++ ['\n']) = pathChars? line := by
  cases h : pathChars? line with
  | some p => exact pathChars?_append h ['\n']
  | none =>
    by_contra hne
    obtain ⟨p, hp⟩ := Option.ne_none_iff_exists'.1 hne
    obtain ⟨front, blanks, opening, close, rest, hfront, hblanks, hmarks, hclose, hline⟩ :=
      pathChars?_eq_some.1 hp
    -- the line feed stands behind the closing mark
    have hrest : rest ≠ [] := by
      rintro rfl
      have hlast := congrArg List.getLast? hline
      rw [List.getLast?_concat] at hlast
      have hmark : close = '\n' := by
        have : (front ++ "#include".toList ++ blanks ++ opening :: (p ++ [close])).getLast? =
            some close := by simp [List.getLast?_append, List.getLast?_cons]
        rw [this] at hlast
        exact (Option.some.inj hlast).symm
      rcases hmarks with ⟨_, rfl⟩ | ⟨_, rfl⟩ <;> exact absurd hmark (by decide)
    obtain ⟨rest', last, rfl⟩ := List.eq_nil_or_concat rest |>.resolve_left hrest
    have hsplit : line ++ ['\n'] =
        (front ++ "#include".toList ++ blanks ++ opening :: (p ++ close :: rest')) ++ [last] := by
      rw [hline]
      simp
    have hdirective : pathChars? line = some p :=
      pathChars?_eq_some.2 ⟨front, blanks, opening, close, rest', hfront, hblanks, hmarks, hclose,
        (List.append_inj' hsplit rfl).1⟩
    rw [h] at hdirective
    cases hdirective

/-- A text that is cut at a line feed has the directives of both parts. -/
theorem paths_append_of_isTerminated {a : String} (h : Text.isTerminated a) (b : String) :
    paths (a ++ b) = paths a ++ paths b := by
  rw [paths, Text.lines_append h, List.filterMap_append]
  rfl

/-- **A line feed behind a text** lengthens its last line or is a line of its own, and the
    directives are the same. -/
theorem paths_newline (text : String) : paths (text ++ "\n") = paths text := by
  rw [paths_eq, paths_eq, String.toList_append]
  by_cases hempty : text.toList = []
  · rw [hempty]
    decide
  · obtain ⟨init, last, more, rest, hsplit, hsplit'⟩ := Text.splitLines_extend hempty "\n".toList
    have hmore : more ++ rest.flatten = ['\n'] := by
      have hflat := Text.flatten_splitLines text.toList
      have hflat' := Text.flatten_splitLines (text.toList ++ "\n".toList)
      rw [hsplit] at hflat
      rw [hsplit', ← hflat] at hflat'
      simpa using hflat'
    have hlast : pathChars? (last ++ more) = pathChars? last := by
      rcases List.append_eq_singleton_iff.1 hmore with ⟨rfl, _⟩ | ⟨rfl, _⟩
      · rw [List.append_nil]
      · exact pathChars?_newline last
    have hrest : rest.filterMap (fun l => (pathChars? l).map String.ofList) = [] := by
      rw [List.filterMap_eq_nil_iff]
      intro l hl
      have hsub : l.Sublist ['\n'] :=
        ((List.sublist_flatten_of_mem hl).trans (List.sublist_append_right more _)).trans
          (hmore ▸ List.Sublist.refl _)
      rcases List.sublist_singleton.1 hsub with rfl | rfl <;> decide
    rw [hsplit, hsplit', List.filterMap_append, List.filterMap_append, List.filterMap_cons, hrest,
      List.filterMap_cons, List.filterMap_nil, hlast]

/-! ## The depth is never used up -/

/-- What one line of the file that ends the chain expands to. -/
def lineStep (r : Resolver) (depth : Nat) (chain : List String) (line : String)
    (done : List String) : Except Error (List Piece × List String) :=
  match path? line with
  | none => .ok ([.line line], done)
  | some path =>
    if path ∈ chain then .error (.cycle chain path)
    else if path ∈ done then .ok ([], done)
    else
      match r.source? path with
      | none => .error (.notFound path chain.getLast?)
      | some text =>
        match expandFile r depth (chain ++ [path]) text done with
        | .error e => .error e
        | .ok (pieces, done) =>
          let ending := if Text.isTerminated text then [] else [.terminator]
          .ok (.opened path :: pieces ++ ending ++ [.closed path], path :: done)

theorem expandFile_succ (r : Resolver) (depth : Nat) (chain : List String) (text : String)
    (done : List String) :
    expandFile r (depth + 1) chain text done =
      flatMapAccum (lineStep r depth chain) (Text.lines text) done := rfl

/-- A chain of distinct known paths is no longer than the list of known paths. -/
theorem length_chain_le {known chain : List String} (hnodup : chain.Nodup)
    (hknown : ∀ p ∈ chain, p ∈ known) : chain.length ≤ known.length :=
  (hnodup.subperm hknown).length_le

/-- A chain stays free of repetitions when a new path is put behind it. -/
theorem nodup_snoc {chain : List String} {path : String} (hnodup : chain.Nodup)
    (hpath : path ∉ chain) : (chain ++ [path]).Nodup := by
  rw [List.nodup_append]
  refine ⟨hnodup, by simp, fun a ha b hb hab => hpath ?_⟩
  rwa [← List.mem_singleton.1 hb, ← hab]

theorem forall_mem_snoc {P : String → Prop} {chain : List String} {path : String}
    (hchain : ∀ p ∈ chain, P p) (hpath : P path) : ∀ p ∈ chain ++ [path], P p := by
  intro p hp
  rcases List.mem_append.1 hp with hp | hp
  · exact hchain p hp
  · rwa [List.mem_singleton.1 hp]

/-- **The depth is never used up**: two depths that leave room for every known path behind the chain
    give the same expansion. -/
theorem expandFile_depth (r : Resolver) : ∀ (d d' : Nat) (chain : List String) (text : String)
    (done : List String), chain.Nodup → (∀ p ∈ chain, p ∈ r.known) →
    r.known.length + 1 ≤ d + chain.length → r.known.length + 1 ≤ d' + chain.length →
    expandFile r d chain text done = expandFile r d' chain text done := by
  intro d
  induction d with
  | zero =>
    -- without depth the chain would be longer than the list of known paths
    intro d' chain text done hnodup hknown hd _
    have := length_chain_le hnodup hknown
    omega
  | succ d ih =>
    intro d' chain text done hnodup hknown hd hd'
    have hlen := length_chain_le hnodup hknown
    obtain ⟨d', rfl⟩ : ∃ n, d' = n + 1 := ⟨d' - 1, by omega⟩
    rw [expandFile_succ, expandFile_succ]
    congr 1
    funext line done
    rw [lineStep, lineStep]
    split
    · rfl
    · rename_i path _
      split
      · rfl
      · rename_i hchain
        split
        · rfl
        · split
          · rfl
          · -- the path is known and new, so the longer chain has room as well
            rename_i text htext
            have hnodup' := nodup_snoc hnodup hchain
            have hknown' := forall_mem_snoc hknown (r.mem_known path text htext)
            have hlen' : (chain ++ [path]).length = chain.length + 1 := by simp
            rw [ih d' (chain ++ [path]) text done hnodup' hknown' (by omega) (by omega)]

/-- At one depth, an expansion depends only on the texts that the resolver gives. -/
theorem expandFile_congr {r r' : Resolver} (h : r.source? = r'.source?) : ∀ (d : Nat)
    (chain : List String) (text : String) (done : List String),
    expandFile r d chain text done = expandFile r' d chain text done := by
  intro d
  induction d with
  | zero => intro chain text done; rfl
  | succ d ih =>
    intro chain text done
    rw [expandFile_succ, expandFile_succ]
    congr 1
    funext line done
    rw [lineStep, lineStep, h]
    simp only [ih]

theorem expandPieces_congr {r r' : Resolver} (h : r.source? = r'.source?) (text : String) :
    expandPieces r text = expandPieces r' text := by
  let d := r.known.length + r'.known.length + 1
  have hl : expandFile r (r.known.length + 1) [] text [] = expandFile r d [] text [] :=
    expandFile_depth r _ _ [] text [] List.nodup_nil (by simp) (by simp) (by simp [d])
  have hr : expandFile r' (r'.known.length + 1) [] text [] = expandFile r' d [] text [] :=
    expandFile_depth r' _ _ [] text [] List.nodup_nil (by simp) (by simp) (by simp [d])
  rw [expandPieces, expandPieces, hl, hr, expandFile_congr h]

/-- **An expansion depends only on the texts that the resolver gives**, not on the list of paths
    that it knows. -/
theorem expand_congr {r r' : Resolver} (h : r.source? = r'.source?) (text : String) :
    expand r text = expand r' text := by
  rw [expand, expand, expandPieces_congr h]

/-! ## Lines that are no directives -/

theorem flatMapAccum_append {α β σ ε : Type} (step : α → σ → Except ε (List β × σ))
    (as bs : List α) (s : σ) :
    flatMapAccum step (as ++ bs) s =
      (flatMapAccum step as s).bind fun x =>
        (flatMapAccum step bs x.2).map fun y => (x.1 ++ y.1, y.2) := by
  induction as generalizing s with
  | nil =>
    show flatMapAccum step bs s = (flatMapAccum step bs s).map fun y => ([] ++ y.1, y.2)
    cases flatMapAccum step bs s <;> rfl
  | cons a as ih =>
    rw [List.cons_append, flatMapAccum, flatMapAccum]
    cases step a s with
    | error e => rfl
    | ok x =>
      obtain ⟨xs, s'⟩ := x
      dsimp only
      rw [ih]
      cases flatMapAccum step as s' with
      | error e => rfl
      | ok y =>
        obtain ⟨ys, s''⟩ := y
        dsimp only [Except.bind, Except.map]
        cases flatMapAccum step bs s'' with
        | error e => rfl
        | ok z => show Except.ok _ = Except.ok _; simp

/-- A text without directives. -/
def Plain (text : String) : Prop := ∀ line ∈ Text.lines text, path? line = none

theorem plain_iff {text : String} : Plain text ↔ paths text = [] :=
  List.filterMap_eq_nil_iff.symm

theorem flatMapAccum_plain (r : Resolver) (d : Nat) (chain done : List String) {ls : List String}
    (h : ∀ line ∈ ls, path? line = none) :
    flatMapAccum (lineStep r d chain) ls done = .ok (ls.map Piece.line, done) := by
  induction ls with
  | nil => rfl
  | cons l ls ih =>
    have hstep : lineStep r d chain l done = .ok ([.line l], done) := by
      rw [lineStep, h l (List.mem_cons_self ..)]
    rw [flatMapAccum, hstep]
    dsimp only
    rw [ih fun line hline => h line (List.mem_cons_of_mem l hline)]
    rfl

theorem join_render_lines (text : String) :
    String.join (((Text.lines text).map Piece.line).map Piece.render) = text := by
  rw [List.map_map]
  have : Piece.render ∘ Piece.line = id := rfl
  rw [this, List.map_id, Text.join_lines]

/-- **Lines that are no directives are copied** and change nothing else: the expansion around them
    is the same whatever they are. -/
theorem expand_plain (r : Resolver) {a : String} (ha : Text.isTerminated a) (b : String) :
    (∃ e, ∀ m, Text.isTerminated m → Plain m → expand r (a ++ (m ++ b)) = .error e) ∨
    (∃ x y, ∀ m, Text.isTerminated m → Plain m → expand r (a ++ (m ++ b)) = .ok (x ++ m ++ y)) := by
  -- `m` adds its own lines, and what follows it starts from the files that were done before it
  have hsplit : ∀ m, Text.isTerminated m → Plain m → expandPieces r (a ++ (m ++ b)) =
      ((flatMapAccum (lineStep r r.known.length []) (Text.lines a) []).bind fun x =>
        (flatMapAccum (lineStep r r.known.length []) (Text.lines b) x.2).map fun y =>
          x.1 ++ ((Text.lines m).map Piece.line ++ y.1)) := by
    intro m hm hplain
    rw [expandPieces, expandFile_succ, Text.lines_append ha, Text.lines_append hm,
      flatMapAccum_append]
    cases flatMapAccum (lineStep r r.known.length []) (Text.lines a) [] with
    | error e => rfl
    | ok x =>
      show Except.map _ (Except.map _ (flatMapAccum _ (Text.lines m ++ Text.lines b) x.2)) = _
      rw [flatMapAccum_append, flatMapAccum_plain r _ _ _ hplain]
      show Except.map _ (Except.map _ (Except.map _ (flatMapAccum _ (Text.lines b) x.2))) =
        Except.map _ (flatMapAccum _ (Text.lines b) x.2)
      cases flatMapAccum (lineStep r r.known.length []) (Text.lines b) x.2 <;> rfl
  cases hx : flatMapAccum (lineStep r r.known.length []) (Text.lines a) [] with
  | error e =>
    refine Or.inl ⟨e, fun m hm hplain => ?_⟩
    rw [expand, hsplit m hm hplain, hx]
    rfl
  | ok x =>
    cases hy : flatMapAccum (lineStep r r.known.length []) (Text.lines b) x.2 with
    | error e =>
      refine Or.inl ⟨e, fun m hm hplain => ?_⟩
      rw [expand, hsplit m hm hplain, hx]
      show Except.map _ (Except.map _ (flatMapAccum _ (Text.lines b) x.2)) = _
      rw [hy]
      rfl
    | ok y =>
      refine Or.inr ⟨String.join (x.1.map Piece.render), String.join (y.1.map Piece.render),
        fun m hm hplain => ?_⟩
      rw [expand, hsplit m hm hplain, hx]
      show Except.map _ (Except.map _ (flatMapAccum _ (Text.lines b) x.2)) = _
      rw [hy]
      show Except.ok (String.join ((x.1 ++ ((Text.lines m).map Piece.line ++ y.1)).map
        Piece.render)) = Except.ok _
      rw [List.map_append, List.map_append, String.join_append, String.join_append,
        join_render_lines, String.append_assoc]

end Include

end KernelGraph
