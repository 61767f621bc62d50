/-
  An expanded text includes nothing.

  An expansion is put together from lines of many files and from markers.  The last line of a file
  may lack its line feed, and then one is put behind it before anything else follows.  So no line
  grows into the next one, and no directive comes about that way:

      expand r source = .ok text  →  paths text = []  and  expand r' text = .ok text

  1. `Cut`: the lines of a text are free of line feeds, except at their ends.
  2. `Sealed` texts can be put in front of any other; markers are sealed, because a path that is
     included stands within one line.
  3. What a walk over lines expands to is `Plain`, and it is sealed if the lines are, since every
     file is sealed at its end (`Walks.plain`).
-/
import KernelGraph.Proofs.Fragments
import KernelGraph.Proofs.IncludeRegions

namespace KernelGraph

namespace Text

theorem isTerminated_append {a b : String} (ha : isTerminated a) (hb : isTerminated b) :
    isTerminated (a ++ b) := by
  have hjoin : isTerminated (String.join [a, b]) := isTerminated_join (by simp [ha, hb])
  simpa using hjoin

theorem isTerminated_of_append {a b : String} (h : isTerminated (a ++ b)) : isTerminated b := by
  rw [isTerminated_iff, String.toList_append] at h
  rw [isTerminated_iff]
  by_cases hempty : b.toList = []
  · exact .inl hempty
  · refine .inr ?_
    rcases h with h | h
    · exact absurd (List.append_eq_nil_iff.1 h).2 hempty
    · rwa [List.getLast?_append_of_ne_nil _ hempty] at h

end Text

namespace Include

/-! ## Lines -/

/-- Lines as a text is cut into them: each ends with its only line feed, and the last one may lack
    it. -/
inductive Cut : List String → Prop
  | nil : Cut []
  | last {s : String} (free : '\n' ∉ s.toList) (filled : s.toList ≠ []) : Cut [s]
  | cons {s : String} {lines : List String} (free : '\n' ∉ s.toList) (rest : Cut lines) :
      Cut ((s ++ "\n") :: lines)

theorem Cut.tail {line : String} {lines : List String} (h : Cut (line :: lines)) : Cut lines := by
  cases h with
  | last => exact .nil
  | cons _ rest => exact rest

/-- A line feed stands at the end of a line only. -/
theorem Cut.free {line : String} {lines : List String} (h : Cut (line :: lines)) :
    '\n' ∉ line.toList.dropLast := by
  cases h with
  | last free => exact fun hmem => free (List.dropLast_subset _ hmem)
  | @cons s _ free => simpa using free

theorem cut_splitLines (cs : List Char) : Cut ((Text.splitLines cs).map String.ofList) := by
  induction cs with
  | nil => exact .nil
  | cons c cs ih =>
    rw [Text.splitLines_cons]
    split
    · rename_i hc
      subst hc
      exact .cons (s := "") (by simp) ih
    · rename_i hc
      cases hsplit : Text.splitLines cs with
      | nil => exact .last (by simpa using Ne.symm hc) (by simp)
      | cons l ls =>
        rw [hsplit] at ih
        have hcons : String.ofList (c :: l) = String.ofList [c] ++ String.ofList l := by
          rw [← String.ofList_append]
          rfl
        rw [List.map_cons] at ih ⊢
        rw [hcons]
        generalize String.ofList l = line, ls.map String.ofList = rest at ih
        cases ih with
        | last free => exact .last (by simpa using ⟨Ne.symm hc, free⟩) (by simp)
        | cons free rest =>
          rw [← String.append_assoc]
          exact .cons (by simpa using ⟨Ne.symm hc, free⟩) rest

theorem cut_lines (text : String) : Cut (Text.lines text) := cut_splitLines text.toList

/-- If a text is terminated, so are its lines. -/
theorem Cut.terminated {lines : List String} (h : Cut lines)
    (hjoin : Text.isTerminated (String.join lines)) : ∀ line ∈ lines, Text.isTerminated line := by
  induction h with
  | nil => simp
  | last => simpa using hjoin
  | cons _ _ ih =>
    rw [String.join_cons] at hjoin
    intro line hline
    rcases List.mem_cons.1 hline with rfl | hline
    · exact Text.isTerminated_append_newline _
    · exact ih (Text.isTerminated_of_append hjoin) line hline

/-! ## Sealed texts -/

/-- A text that ends where a line ends, and has no directive. -/
structure Sealed (text : String) : Prop where
  terminated : Text.isTerminated text
  plain : Plain text

theorem plain_empty : Plain "" := by
  intro line hline
  cases hline

section
variable {a b : String}

theorem Sealed.append (ha : Sealed a) (hb : Sealed b) : Sealed (a ++ b) where
  terminated := Text.isTerminated_append ha.terminated hb.terminated
  plain := plain_append ha.terminated ha.plain hb.plain

/-- A line feed seals a text without directives. -/
theorem Plain.sealed (h : Plain a) : Sealed (a ++ "\n") where
  terminated := Text.isTerminated_append_newline a
  plain := plain_newline h

/-- A line that is no directive is a text without directives. -/
theorem plain_of_cut {line : String} {lines : List String} (h : Cut (line :: lines))
    (hline : path? line = none) : Plain line := by
  have hlines : Text.lines line = [line] := by
    cases h with
    | last free filled => exact Text.lines_last free filled
    | cons free => exact Text.lines_single free
  intro l hl
  rw [hlines] at hl
  rwa [List.mem_singleton.1 hl]

/-- The path of a directive has no line feed. -/
theorem newline_notMem_path {line path : String} (hfree : '\n' ∉ line.toList.dropLast)
    (hpath : path? line = some path) : '\n' ∉ path.toList := by
  rw [path?, Option.map_eq_some_iff] at hpath
  obtain ⟨p, hp, rfl⟩ := hpath
  obtain ⟨front, blanks, opening, close, rest, -, -, -, -, hline⟩ := pathChars?_eq_some.1 hp
  rw [String.toList_ofList]
  intro hmem
  apply hfree
  -- the closing mark stands behind the path
  have hsplit : line.toList = (front ++ "#include".toList ++ blanks ++ opening :: p) ++
      close :: rest := by simp [hline]
  rw [hsplit, List.dropLast_append_cons]
  simp [hmem]

theorem newline_notMem_display {path : String} (h : '\n' ∉ path.toList) :
    '\n' ∉ (VirtualPath.display path).toList := by
  rcases shownAs_display path with ⟨uid, -, -, hpath⟩ | ⟨hshown, -⟩
  · intro hmem
    apply h
    rw [hpath, VirtualPath.toList_generated]
    simp [hmem]
  · rwa [hshown]

/-- A comment is sealed. -/
theorem sealed_comment {text : String} (h : '\n' ∉ text.toList) :
    Sealed ("//" ++ text ++ "\n") := by
  have hfree : '\n' ∉ ("//" ++ text).toList := by simpa using h
  refine ⟨Text.isTerminated_append_newline _, fun line hline => ?_⟩
  rw [Text.lines_single hfree] at hline
  rw [List.mem_singleton.1 hline, path?, Option.map_eq_none_iff]
  have hchars : ("//" ++ text ++ "\n").toList = '/' :: '/' :: (text.toList ++ ['\n']) := by simp
  rw [hchars]
  exact pathChars?_eq_none (by decide) rfl

theorem Piece.render_line (text : String) : (Piece.line text).render = text := rfl

theorem Piece.render_terminator : Piece.terminator.render = "\n" := rfl

theorem Piece.render_opened (path : String) : (Piece.opened path).render =
    "// begin include \"" ++ VirtualPath.display path ++ "\"\n" := rfl

theorem Piece.render_closed (path : String) : (Piece.closed path).render =
    "// end include \"" ++ VirtualPath.display path ++ "\"\n" := rfl

/-- The markers of a path without line feed are sealed. -/
theorem sealed_markers {path : String} (h : '\n' ∉ path.toList) :
    Sealed (Piece.opened path).render ∧ Sealed (Piece.closed path).render := by
  have hmarker : ∀ word : String, '\n' ∉ word.toList →
      Sealed ("//" ++ (word ++ VirtualPath.display path ++ "\"") ++ "\n") := fun _ hword =>
    sealed_comment (by simpa using ⟨hword, newline_notMem_display h⟩)
  have hend : "\"\n" = "\"" ++ "\n" := by decide
  have hbegin : "// begin include \"" = "//" ++ " begin include \"" := by decide
  have hclose : "// end include \"" = "//" ++ " end include \"" := by decide
  constructor
  · rw [Piece.render_opened, hbegin, hend]
    simpa only [String.append_assoc] using hmarker " begin include \"" (by decide)
  · rw [Piece.render_closed, hclose, hend]
    simpa only [String.append_assoc] using hmarker " end include \"" (by decide)

/-- A file that expands to something without directives is sealed between its markers. -/
theorem sealed_enclose {path text : String} {pieces : List Piece} (h : '\n' ∉ path.toList)
    (hplain : Plain (String.join (pieces.map Piece.render)))
    (hterminated : Text.isTerminated text →
      Text.isTerminated (String.join (pieces.map Piece.render))) :
    Sealed (String.join ((enclose path text pieces).map Piece.render)) := by
  obtain ⟨hopened, hclosed⟩ := sealed_markers h
  have hinner : Sealed (String.join (pieces.map Piece.render) ++
      String.join
        ((if Text.isTerminated text then [] else [Piece.terminator]).map Piece.render)) := by
    by_cases hend : Text.isTerminated text
    · rw [if_pos hend, List.map_nil, String.join_nil, String.append_empty]
      exact ⟨hterminated hend, hplain⟩
    · rw [if_neg hend, List.map_singleton]
      simpa [Piece.render_terminator] using hplain.sealed
  have hall := (hopened.append hinner).append hclosed
  simpa [enclose, String.append_assoc] using hall

end

/-! ## Walks -/

/-- **A walk comes to a text without directives**, and to a terminated one if its lines are. -/
theorem Walks.plain {r : Resolver} {lines : List String} {w : Walk} (h : Walks r lines w)
    (hcut : Cut lines) : Plain (String.join (w.pieces.map Piece.render)) ∧
      ((∀ line ∈ lines, Text.isTerminated line) →
        Text.isTerminated (String.join (w.pieces.map Piece.render))) := by
  induction h with
  | nil => exact ⟨plain_empty, fun _ => rfl⟩
  | @line line lines w directive hrest ih =>
    obtain ⟨hplain, hterminated⟩ := ih hcut.tail
    have hline := plain_of_cut hcut directive
    rw [Walk.pieces, List.map_cons, String.join_cons]
    refine ⟨?_, fun hlines => Text.isTerminated_append (hlines line (List.mem_cons_self ..))
      (hterminated fun l hl => hlines l (List.mem_cons_of_mem _ hl))⟩
    cases hcut with
    | last =>
      -- nothing follows the last line
      cases hrest
      simpa [Walk.pieces, Piece.render_line] using hline
    | cons => exact plain_append (Text.isTerminated_append_newline _) hline hplain
  | dropped _ _ ih =>
    obtain ⟨hplain, hterminated⟩ := ih hcut.tail
    exact ⟨hplain, fun hlines => hterminated fun l hl => hlines l (List.mem_cons_of_mem _ hl)⟩
  | @opened line path text _ v w directive source _ _ ihinner ihrest =>
    obtain ⟨hplain, hterminated⟩ := ihrest hcut.tail
    obtain ⟨hplain', hterminated'⟩ := ihinner (cut_lines text)
    have hsealed : Sealed (String.join ((enclose path text v.pieces).map Piece.render)) :=
      sealed_enclose (newline_notMem_path hcut.free directive) hplain'
        fun hend => hterminated' ((cut_lines text).terminated (by rwa [Text.join_lines]))
    rw [Walk.pieces, List.map_append, String.join_append]
    exact ⟨plain_append hsealed.terminated hsealed.plain hplain, fun hlines =>
      Text.isTerminated_append hsealed.terminated
        (hterminated fun l hl => hlines l (List.mem_cons_of_mem _ hl))⟩

/-! ## Expanding an expanded text -/

/-- A text without directives expands to itself. -/
theorem Plain.expand_eq {text : String} (h : Plain text) (r : Resolver) :
    expand r text = .ok text := by
  rw [expand_eq_map, expandFile_succ, flatMapAccum_plain r _ _ _ h]
  exact congrArg Except.ok (join_render_lines text)

/-- **An expanded text includes nothing**, and expands to itself whatever the resolver. -/
theorem expand_expanded {r : Resolver} {source text : String} (h : expand r source = .ok text) :
    paths text = [] ∧ ∀ r', expand r' text = .ok text := by
  obtain ⟨w, hwalks, -, rfl⟩ := exists_walk h
  have hplain := (hwalks.plain (cut_lines source)).1
  exact ⟨plain_iff.1 hplain, hplain.expand_eq⟩

/-- A file that ends with a directive, in a text that ends with one. -/
theorem expand_expanded_diamond : expand diamond diamondSource = .ok diamondText ∧
    paths diamondText = [] ∧ ∀ r', expand r' diamondText = .ok diamondText :=
  ⟨expand_diamond, expand_expanded expand_diamond⟩

end Include

end KernelGraph
