/-
  Expanding a text that is put together from fragments.

  A fragment `Becomes` a text if the lines in front of any others expand to this text and leave the
  files beneath it done:

  1. a fragment without directives becomes itself;
  2. the include line of a new file becomes what the file becomes, between the file's markers;
  3. fragments one after the other become what they become one after the other.

  A whole text that becomes another one expands to it.  Each rule looks at its fragment alone, so
  the expansion of an assembled text is read off the way it was assembled.

  So are its directives.  A line is recognised exactly if it belongs to the grammar of directives,
  and an include line that is generated stands by itself wherever it is put: a line feed in front
  ends whatever line the text before it has left open, and one behind keeps what follows apart.
-/
import KernelGraph.Dialect
import KernelGraph.Proofs.IncludeWalks

namespace KernelGraph.Include

/-- A text between the markers of its path. -/
def framed (path text : String) : String :=
  (Piece.opened path).render ++ text ++ (Piece.closed path).render

theorem framed_inj {path a b : String} : framed path a = framed path b ↔ a = b := by
  rw [framed, framed, String.append_left_inj, String.append_right_inj]

/-- The lines of the fragment, in front of any others, expand to `result`.  The paths that are done
    before and after them are `done` and `done'`. -/
structure Becomes (r : Resolver) (chain done : List String) (fragment result : String)
    (done' : List String) : Prop where
  terminated : Text.isTerminated fragment
  expands : ∃ pieces, String.join (pieces.map Piece.render) = result ∧ ∀ lines out,
    Expands r chain lines done' out →
      Expands r chain (Text.lines fragment ++ lines) done (after pieces out)

theorem after_nil (out : Except Error (List Piece × List String)) : after [] out = out := by
  cases out <;> rfl

theorem after_after (ps qs : List Piece) (out : Except Error (List Piece × List String)) :
    after ps (after qs out) = after (ps ++ qs) out := by
  cases out with
  | error e => rfl
  | ok x => simp [after, Except.map]

section
variable {r : Resolver} {chain done done' done'' : List String} {a b x y path text : String}

/-! ## Texts without directives -/

theorem plain_iff_chars {text : String} :
    Plain text ↔ ∀ cs ∈ Text.splitLines text.toList, pathChars? cs = none := by
  simp [Plain, Text.lines, path?]

/-- Lines are not put together to texts, to be taken apart again. -/
instance (text : String) : Decidable (Plain text) :=
  decidable_of_iff (∀ cs ∈ Text.splitLines text.toList, pathChars? cs = none) plain_iff_chars.symm

/-- A text whose characters are written out is looked at without decoding it. -/
theorem lines_ofList {cs : List Char}
    (h : cs.getLast? = some '\n' ∧ ∀ l ∈ Text.splitLines cs, pathChars? l = none) :
    Text.isTerminated (String.ofList cs) ∧ Plain (String.ofList cs) := by
  refine ⟨?_, plain_iff_chars.2 ?_⟩
  · rw [Text.isTerminated, String.toList_ofList, h.1]
    simp
  · rw [String.toList_ofList]
    exact h.2

theorem plain_append (ha : Text.isTerminated a) (hplain : Plain a) (hplain' : Plain b) :
    Plain (a ++ b) := by
  rw [plain_iff, paths_append_of_isTerminated ha, plain_iff.1 hplain, plain_iff.1 hplain']
  rfl

theorem plain_join {texts : List String} (h : ∀ t ∈ texts, Text.isTerminated t ∧ Plain t) :
    Plain (String.join texts) := by
  induction texts with
  | nil =>
    intro line hline
    cases hline
  | cons t ts ih =>
    obtain ⟨hterm, hplain⟩ := h t (List.mem_cons_self ..)
    rw [String.join_cons]
    exact plain_append hterm hplain (ih fun t' ht' => h t' (List.mem_cons_of_mem t ht'))

/-- A text without directives has none with a line feed behind it. -/
theorem plain_newline (h : Plain a) : Plain (a ++ "\n") := by
  rw [plain_iff, paths_newline]
  exact plain_iff.1 h

/-! ## The rules -/

theorem expands_plain {ls : List String} (h : ∀ line ∈ ls, path? line = none) {lines : List String}
    {out : Except Error (List Piece × List String)} (hout : Expands r chain lines done out) :
    Expands r chain (ls ++ lines) done (after (ls.map Piece.line) out) := by
  induction ls with
  | nil =>
    rw [List.map_nil, after_nil]
    exact hout
  | cons l ls ih =>
    have hrest := ih fun line hline => h line (List.mem_cons_of_mem l hline)
    have hfirst := Expands.line (h l (List.mem_cons_self ..)) hrest
    rwa [after_after] at hfirst

/-- **A fragment without directives becomes itself.** -/
theorem Becomes.plain (hterm : Text.isTerminated text) (h : Plain text) :
    Becomes r chain done text text done where
  terminated := hterm
  expands := ⟨_, join_render_lines text, fun _ _ hout => expands_plain h hout⟩

/-- A fragment whose characters are written out becomes itself. -/
theorem Becomes.ofList {cs : List Char}
    (h : cs.getLast? = some '\n' ∧ ∀ l ∈ Text.splitLines cs, pathChars? l = none) :
    Becomes r chain done (String.ofList cs) (String.ofList cs) done :=
  .plain (lines_ofList h).1 (lines_ofList h).2

/-- Texts without directives, one after the other, become themselves. -/
theorem Becomes.joined {texts : List String} (h : ∀ t ∈ texts, Text.isTerminated t ∧ Plain t) :
    Becomes r chain done (String.join texts) (String.join texts) done :=
  .plain (Text.isTerminated_join fun t ht => (h t ht).1) (plain_join h)

/-- **Fragments one after the other** become what they become one after the other. -/
theorem Becomes.append (ha : Becomes r chain done a x done')
    (hb : Becomes r chain done' b y done'') :
    Becomes r chain done (a ++ b) (x ++ y) done'' := by
  obtain ⟨hterm, ps, rfl, hps⟩ := ha
  obtain ⟨hterm', qs, rfl, hqs⟩ := hb
  refine ⟨?_, ps ++ qs, by rw [List.map_append, String.join_append], fun lines out hout => ?_⟩
  · have hjoin := Text.isTerminated_join
      (by simp [hterm, hterm'] : ∀ s ∈ [a, b], Text.isTerminated s)
    simpa [String.join_cons] using hjoin
  · rw [Text.lines_append hterm, List.append_assoc, ← after_after]
    exact hps _ _ (hqs _ _ hout)

/-- An include line is one line and includes its path. -/
theorem lines_include (hquote : '"' ∉ path.toList) (hline : '\n' ∉ path.toList) :
    Text.lines ("#include \"" ++ path ++ "\"\n") = ["#include \"" ++ path ++ "\"\n"] ∧
      path? ("#include \"" ++ path ++ "\"\n") = some path := by
  have hend : "\"\n" = "\"" ++ "\n" := by decide
  rw [hend, ← String.append_assoc]
  exact lines_directive hquote hline (.inr rfl)

theorem isTerminated_include (path : String) :
    Text.isTerminated ("#include \"" ++ path ++ "\"\n") := by
  have hend : "\"\n" = "\"" ++ "\n" := by decide
  rw [hend, ← String.append_assoc]
  exact Text.isTerminated_append_newline _

/-- The dialects put a line feed in front of an include line. -/
theorem includeLine_eq (d : Dialect) (path : String) :
    d.includeLine path = "\n" ++ ("#include \"" ++ path ++ "\"\n") := by
  have hword : "\n#include \"" = "\n" ++ "#include \"" := by decide
  rw [Dialect.includeLine, hword, String.append_assoc, String.append_assoc, String.append_assoc]

/-- **The include line of a new file** becomes what the file becomes, between the file's markers. -/
theorem Becomes.directive (hquote : '"' ∉ path.toList) (hline : '\n' ∉ path.toList)
    (hchain : path ∉ chain) (hdone : path ∉ done) (hsource : r.source? path = some text)
    (h : Becomes r (chain ++ [path]) done text x done') :
    Becomes r chain done ("#include \"" ++ path ++ "\"\n") (framed path x) (path :: done') := by
  obtain ⟨hterm, ps, rfl, hps⟩ := h
  obtain ⟨hlines, hpath⟩ := lines_include hquote hline
  have hinner := hps [] _ .nil
  rw [List.append_nil, show after ps (.ok ([], done')) = .ok (ps ++ [], done') from rfl,
    List.append_nil] at hinner
  refine ⟨isTerminated_include path, enclose path text ps, ?_, fun lines out hout => ?_⟩
  · rw [enclose, if_pos hterm, framed]
    simp [String.join_cons, String.join_append, String.append_assoc]
  · rw [hlines]
    exact .opened hpath hchain hdone hsource hinner hout

/-- The same with the line feed that the dialects put in front of the line. -/
theorem Becomes.includeLine (d : Dialect) (hquote : '"' ∉ path.toList) (hline : '\n' ∉ path.toList)
    (hchain : path ∉ chain) (hdone : path ∉ done) (hsource : r.source? path = some text)
    (h : Becomes r (chain ++ [path]) done text x done') :
    Becomes r chain done (d.includeLine path) ("\n" ++ framed path x) (path :: done') := by
  have hblank : Becomes r chain done "\n" "\n" done := .plain (by decide) (by decide)
  rw [includeLine_eq]
  exact hblank.append (.directive hquote hline hchain hdone hsource h)

/-! ## Files and texts in a row -/

/-- A file stands by its include line, a text without a path as it is. -/
def standing (d : Dialect) : Option String × String → String
  | (some path, _) => d.includeLine path
  | (none, text) => text

/-- What a file or a text without directives becomes. -/
def shown : Option String × String → String
  | (some path, text) => "\n" ++ framed path text
  | (none, text) => text

/-- **Files and texts in a row**, all without directives, become themselves in this order, if no
    file is there twice. -/
theorem Becomes.row (d : Dialect) {parts : List (Option String × String)}
    (hplain : ∀ p ∈ parts, Text.isTerminated p.2 ∧ Plain p.2)
    (hpaths : ∀ path text, (some path, text) ∈ parts → '"' ∉ path.toList ∧ '\n' ∉ path.toList ∧
      path ∉ chain ∧ path ∉ done ∧ r.source? path = some text)
    (hnodup : (parts.filterMap Prod.fst).Nodup) :
    Becomes r chain done (String.join (parts.map (standing d))) (String.join (parts.map shown))
      ((parts.filterMap Prod.fst).reverse ++ done) := by
  induction parts generalizing done with
  | nil => exact .plain rfl fun line hline => by cases hline
  | cons p parts ih =>
    obtain ⟨hterm, htext⟩ := hplain p (List.mem_cons_self ..)
    have hrest := fun q hq => hplain q (List.mem_cons_of_mem p hq)
    rw [List.map_cons, List.map_cons, String.join_cons, String.join_cons]
    obtain ⟨path?, text⟩ := p
    cases path? with
    | none =>
      refine .append (.plain hterm htext) (ih hrest (fun path text h => ?_) hnodup)
      exact hpaths path text (List.mem_cons_of_mem _ h)
    | some path =>
      obtain ⟨hquote, hline, hchain, hdone, hsource⟩ := hpaths path text (List.mem_cons_self ..)
      obtain ⟨hnew, hnodup⟩ := List.nodup_cons.1 hnodup
      have hfirst := Becomes.includeLine d hquote hline hchain hdone hsource (.plain hterm htext)
      have hdone' : ((some path, text) :: parts).filterMap Prod.fst =
          path :: parts.filterMap Prod.fst := rfl
      rw [hdone', List.reverse_cons, List.append_assoc]
      refine hfirst.append (ih hrest (fun path' text' h => ?_) hnodup)
      obtain ⟨hquote', hline', hchain', hdone', hsource'⟩ :=
        hpaths path' text' (List.mem_cons_of_mem _ h)
      refine ⟨hquote', hline', hchain', fun hmem => ?_, hsource'⟩
      rcases List.mem_cons.1 hmem with rfl | hmem
      · exact hnew (List.mem_filterMap.2 ⟨_, h, rfl⟩)
      · exact hdone' hmem

/-- A whole text that becomes another one expands to it. -/
theorem Becomes.expand_eq (h : Becomes r [] [] text x done') : expand r text = .ok x := by
  obtain ⟨_, ps, rfl, hps⟩ := h
  have hrun := hps [] _ .nil
  rw [List.append_nil] at hrun
  rw [expand_eq_map, (expands_text r text).unique hrun]
  show Except.ok (String.join ((ps ++ []).map Piece.render)) = _
  rw [List.append_nil]

end

/-! ## The directives of an assembled text -/

/-- The line that a path is written in: `front` and `blanks` are blank, the path stands between
    marks, and it ends at the first closing mark. -/
structure Directive (line path : String) (front blanks rest : String) (opening close : Char) :
    Prop where
  blank_front : ∀ c ∈ front.toList, Text.isBlank c
  blank_between : ∀ c ∈ blanks.toList, Text.isBlank c
  marks : Marks opening close
  close_notMem : close ∉ path.toList
  line_eq : line = front ++ "#include" ++ blanks ++ String.singleton opening ++ path ++
    String.singleton close ++ rest

/-- **A line is recognised exactly if it is a directive**, and then by its path. -/
theorem path?_eq_some {line path : String} :
    path? line = some path ↔ ∃ front blanks rest opening close,
      Directive line path front blanks rest opening close := by
  rw [path?, Option.map_eq_some_iff]
  constructor
  · rintro ⟨p, hp, rfl⟩
    obtain ⟨front, blanks, opening, close, rest, hfront, hblanks, hmarks, hclose, hline⟩ :=
      pathChars?_eq_some.1 hp
    refine ⟨String.ofList front, String.ofList blanks, String.ofList rest, opening, close, ?_, ?_,
      hmarks, ?_, String.toList_injective ?_⟩
    · rwa [String.toList_ofList]
    · rwa [String.toList_ofList]
    · rwa [String.toList_ofList]
    · rw [hline]
      simp
  · rintro ⟨front, blanks, rest, opening, close, h⟩
    refine ⟨path.toList, pathChars?_eq_some.2 ⟨front.toList, blanks.toList, opening, close,
      rest.toList, h.blank_front, h.blank_between, h.marks, h.close_notMem, ?_⟩,
      String.ofList_toList⟩
    rw [h.line_eq]
    simp

/-- An include line is the directive of its path and nothing else. -/
theorem paths_includeLine (d : Dialect) {path : String} (hquote : '"' ∉ path.toList)
    (hline : '\n' ∉ path.toList) : ∃ line, d.includeLine path = "\n" ++ line ∧
      Text.isTerminated line ∧ paths line = [path] := by
  obtain ⟨hlines, hpath⟩ := lines_include hquote hline
  refine ⟨"#include \"" ++ path ++ "\"\n", includeLine_eq d path, ?_, ?_⟩
  · exact isTerminated_include path
  · rw [paths, hlines, List.filterMap_cons, hpath, List.filterMap_nil]

/-- **Include directives are recognised exactly, and generated ones compose.**

    1. A line includes a path exactly if it is a directive of the path: blanks, the word, blanks,
       and the path between quotes or angle brackets, in which the closing one does not occur.

    2. A generated include line adds its path to the directives in front of it and behind it,
       whatever the texts around it are. -/
theorem recognises_directives :
    (∀ line path, path? line = some path ↔ ∃ front blanks rest opening close,
      Directive line path front blanks rest opening close) ∧
    ∀ (d : Dialect) (a b path : String), '"' ∉ path.toList → '\n' ∉ path.toList →
      paths (a ++ d.includeLine path ++ b) = paths a ++ [path] ++ paths b := by
  refine ⟨fun line path => path?_eq_some, fun d a b path hquote hline => ?_⟩
  obtain ⟨line, hsplit, hterm, hpaths⟩ := paths_includeLine d hquote hline
  calc paths (a ++ d.includeLine path ++ b)
      = paths (a ++ "\n" ++ (line ++ b)) := by
        rw [hsplit, String.append_assoc, String.append_assoc, String.append_assoc]
    _ = paths (a ++ "\n") ++ paths (line ++ b) :=
        paths_append_of_isTerminated (Text.isTerminated_append_newline a) _
    _ = paths a ++ ([path] ++ paths b) := by
        rw [paths_newline, paths_append_of_isTerminated hterm, hpaths]
    _ = paths a ++ [path] ++ paths b := (List.append_assoc ..).symm

/-- Between a line that is left open and one that goes on behind its path. -/
theorem recognises_directives_open :
    '"' ∉ "/lib".toList ∧ '\n' ∉ "/lib".toList ∧
      paths ("#include <a" ++ Dialect.wgsl.includeLine "/lib" ++ " #include\t\"b\" c") =
        ["/lib", "b"] := by
  have hquote : '"' ∉ "/lib".toList := by decide
  have hline : '\n' ∉ "/lib".toList := by decide
  have hpaths := recognises_directives.2 .wgsl "#include <a" " #include\t\"b\" c" "/lib"
    hquote hline
  refine ⟨hquote, hline, ?_⟩
  rw [hpaths]
  decide

end KernelGraph.Include
