/-
  What an expansion consists of.

  Expanding a text is a walk over its lines.  A line that is no directive is copied.  At a directive
  the walk goes through the file, between two markers, or it drops the directive:

      line       ⟶  line
      directive  ⟶  opened path, the walk through the file, closed path
                 ⟶  nothing

  1. `Walks` says which walks there are over some lines; the recursion takes one of them
     (`Expands.walk`).
  2. `Firsts`: a directive is followed exactly if it is the first one of its path.  The recursion
     asks for the paths that are done instead, which is the same because no file includes a path of
     the chain that leads to it.
  3. `regions` reads the markers with a stack, and finds every line in the region of its file.
  4. `Whole` puts this together: every reached file is expanded once and nothing of it is lost.
-/
import KernelGraph.Proofs.GeneratedPaths
import KernelGraph.Proofs.IncludeWalks

namespace KernelGraph.Include

open Relation

/-! ## Walks -/

/-- How some lines are expanded, one after the other. -/
inductive Walk
  | nil
  /-- A line that is no directive. -/
  | line (text : String) (rest : Walk)
  /-- A directive that is dropped. -/
  | dropped (path : String) (rest : Walk)
  /-- A directive that is followed, and the walk through its file. -/
  | opened (path text : String) (inner rest : Walk)

namespace Walk

/-- What the lines expand to. -/
def pieces : Walk → List Piece
  | nil => []
  | line text rest => .line text :: rest.pieces
  | dropped _ rest => rest.pieces
  | opened path text inner rest => enclose path text inner.pieces ++ rest.pieces

/-- The directives in depth-first order, and whether they are followed. -/
def directives : Walk → List (String × Bool)
  | nil => []
  | line _ rest => rest.directives
  | dropped path rest => (path, false) :: rest.directives
  | opened path _ inner rest => (path, true) :: (inner.directives ++ rest.directives)

/-- The paths of all directives. -/
def mentioned (w : Walk) : List String := w.directives.map Prod.fst

/-- The files that the walk goes through. -/
def files : Walk → List String
  | nil => []
  | line _ rest | dropped _ rest => rest.files
  | opened path _ inner rest => path :: (inner.files ++ rest.files)

/-- The lines that are copied, each with the file that it stands in.  The walk begins in `file`. -/
def written (file : Option String) : Walk → List (Option String × String)
  | nil => []
  | line text rest => (file, text) :: rest.written file
  | dropped _ rest => rest.written file
  | opened path _ inner rest => inner.written (some path) ++ rest.written file

theorem files_eq (w : Walk) : w.files = (w.directives.filter Prod.snd).map Prod.fst := by
  induction w with
  | nil => rfl
  | line _ _ ih => exact ih
  | dropped _ _ ih => simp [files, directives, ih]
  | opened _ _ _ _ ihinner ihrest => simp [files, directives, ihinner, ihrest]

theorem mem_mentioned_opened {path text p : String} {v w : Walk} :
    p ∈ (opened path text v w).mentioned ↔ p = path ∨ p ∈ v.mentioned ∨ p ∈ w.mentioned := by
  simp [mentioned, directives]

end Walk

/-- The walks over some lines.  Each line takes one step, and a file that is gone through is the one
    that the resolver has. -/
inductive Walks (r : Resolver) : List String → Walk → Prop
  | nil : Walks r [] .nil
  | line {line : String} {lines : List String} {w : Walk} (plain : path? line = none)
      (rest : Walks r lines w) : Walks r (line :: lines) (.line line w)
  | dropped {line path : String} {lines : List String} {w : Walk}
      (directive : path? line = some path) (rest : Walks r lines w) :
      Walks r (line :: lines) (.dropped path w)
  | opened {line path text : String} {lines : List String} {v w : Walk}
      (directive : path? line = some path) (source : r.source? path = some text)
      (inner : Walks r (Text.lines text) v) (rest : Walks r lines w) :
      Walks r (line :: lines) (.opened path text v w)

/-! ## First directives -/

/-- A directive is followed exactly if its path has not been seen: neither before these directives
    nor among them. -/
def Firsts : (seen : List String) → List (String × Bool) → Prop
  | _, [] => True
  | seen, (path, followed) :: rest => (followed = true ↔ path ∉ seen) ∧ Firsts (path :: seen) rest

section
variable {seen seen' : List String} {ds ds' : List (String × Bool)}

theorem Firsts.congr (h : Firsts seen ds)
    (hseen : ∀ p ∈ ds.map Prod.fst, p ∈ seen ↔ p ∈ seen') : Firsts seen' ds := by
  induction ds generalizing seen seen' with
  | nil => trivial
  | cons d ds ih =>
    obtain ⟨path, followed⟩ := d
    refine ⟨h.1.trans (not_congr (hseen path (by simp))), ih h.2 fun p hp => ?_⟩
    rw [List.mem_cons, List.mem_cons, hseen p (List.mem_cons_of_mem _ hp)]

theorem Firsts.append (h : Firsts seen ds) (h' : Firsts seen' ds')
    (hseen : ∀ p, p ∈ seen' ↔ p ∈ seen ∨ p ∈ ds.map Prod.fst) : Firsts seen (ds ++ ds') := by
  induction ds generalizing seen with
  | nil => exact h'.congr fun p _ => by simp [hseen p]
  | cons d ds ih =>
    refine ⟨h.1, ih h.2 fun p => ?_⟩
    rw [hseen p, List.map_cons, List.mem_cons, List.mem_cons]
    tauto

theorem Firsts.first (h : Firsts seen ds) {before after : List (String × Bool)} {path : String}
    {followed : Bool} (hds : ds = before ++ (path, followed) :: after) :
    followed = true ↔ path ∉ seen ∧ path ∉ before.map Prod.fst := by
  induction before generalizing seen ds with
  | nil =>
    rw [hds] at h
    simpa using h.1
  | cons d before ih =>
    rw [hds] at h
    rw [ih h.2 rfl, List.map_cons, List.mem_cons, List.mem_cons]
    tauto

/-- Of the paths that have not been seen before, each is followed once. -/
theorem Firsts.once (h : Firsts seen ds) : ((ds.filter Prod.snd).map Prod.fst).Nodup ∧
    ∀ p, p ∈ (ds.filter Prod.snd).map Prod.fst ↔ p ∈ ds.map Prod.fst ∧ p ∉ seen := by
  induction ds generalizing seen with
  | nil => simp
  | cons d ds ih =>
    obtain ⟨path, followed⟩ := d
    obtain ⟨hnodup, hmem⟩ := ih h.2
    have hfollowed := h.1
    cases followed with
    | false =>
      have hpath : path ∈ seen := by simpa using hfollowed
      refine ⟨hnodup, fun p => ?_⟩
      show p ∈ (ds.filter Prod.snd).map Prod.fst ↔ _
      rw [hmem, List.map_cons, List.mem_cons, List.mem_cons]
      constructor
      · exact fun ⟨hp, hnot⟩ => ⟨.inr hp, fun hs => hnot (.inr hs)⟩
      · rintro ⟨hp, hnot⟩
        have hne : p ≠ path := fun heq => hnot (heq ▸ hpath)
        exact ⟨hp.resolve_left hne, fun hs => hs.elim hne hnot⟩
    | true =>
      have hpath : path ∉ seen := by simpa using hfollowed
      refine ⟨List.nodup_cons.2 ⟨fun hp => ((hmem path).1 hp).2 (by simp), hnodup⟩, fun p => ?_⟩
      show p ∈ path :: (ds.filter Prod.snd).map Prod.fst ↔ _
      rw [List.mem_cons, hmem, List.map_cons, List.mem_cons, List.mem_cons]
      constructor
      · rintro (rfl | ⟨hp, hnot⟩)
        · exact ⟨.inl rfl, hpath⟩
        · exact ⟨.inr hp, fun hs => hnot (.inr hs)⟩
      · rintro ⟨hp, hnot⟩
        by_cases heq : p = path
        · exact .inl heq
        · exact .inr ⟨hp.resolve_left heq, fun hs => hs.elim heq hnot⟩

end

/-! ## The walk that the recursion takes -/

/-- **The recursion takes a walk** on which every directive avoids the chain, and is followed
    exactly if it is the first of a path that is not done.  Its paths are done afterwards. -/
theorem Expands.walk {r : Resolver} {chain lines done done' : List String} {pieces : List Piece}
    {out : Except Error (List Piece × List String)} (h : Expands r chain lines done out)
    (hout : out = .ok (pieces, done')) :
    ∃ w, Walks r lines w ∧ w.pieces = pieces ∧ (∀ p ∈ w.mentioned, p ∉ chain) ∧
      Firsts done w.directives ∧ ∀ p, p ∈ done' ↔ p ∈ done ∨ p ∈ w.mentioned := by
  induction h generalizing pieces done' with
  | nil =>
    cases hout
    exact ⟨.nil, .nil, rfl, by simp [Walk.mentioned, Walk.directives], trivial,
      by simp [Walk.mentioned, Walk.directives]⟩
  | line plain _ ih =>
    obtain ⟨rest, rfl⟩ := after_eq_ok hout
    cases hout
    obtain ⟨w, hwalks, rfl, hchain, hfirsts, hdone⟩ := ih rfl
    exact ⟨.line _ w, .line plain hwalks, rfl, hchain, hfirsts, hdone⟩
  | cycle => cases hout
  | @dropped _ _ _ _ path _ directive fresh seen _ ih =>
    obtain ⟨rest, rfl⟩ := after_eq_ok hout
    cases hout
    obtain ⟨w, hwalks, rfl, hchain, hfirsts, hdone⟩ := ih rfl
    refine ⟨.dropped path w, .dropped directive hwalks, rfl, ?_, ⟨by simpa using seen, ?_⟩, ?_⟩
    · intro p hp
      rcases List.mem_cons.1 hp with rfl | hp
      · exact fresh
      · exact hchain p hp
    · refine hfirsts.congr fun p _ => ⟨List.mem_cons_of_mem _, fun hp => ?_⟩
      rcases List.mem_cons.1 hp with rfl | hp
      · exact seen
      · exact hp
    · intro p
      show _ ↔ _ ∨ p ∈ path :: w.mentioned
      rw [hdone p, List.mem_cons]
      constructor
      · exact fun hp => hp.imp_right .inr
      · rintro (hp | rfl | hp)
        · exact .inl hp
        · exact .inl seen
        · exact .inr hp
  | missing => cases hout
  | failed => cases hout
  | @opened chain _ done inner' _ path text _ _ directive fresh unseen source _ _ ihinner ihrest =>
    obtain ⟨rest, rfl⟩ := after_eq_ok hout
    cases hout
    obtain ⟨v, hinner, rfl, havoids, hfirst, hdone⟩ := ihinner rfl
    obtain ⟨w, hrest, rfl, hchain, hfirsts, hdone'⟩ := ihrest rfl
    have hself : path ∉ v.mentioned := fun hp => havoids path hp (by simp)
    have hpaths : ∀ p, p ∈ Walk.mentioned (.opened path text v w) ↔
        p = path ∨ p ∈ v.mentioned ∨ p ∈ w.mentioned := fun _ => Walk.mem_mentioned_opened
    refine ⟨.opened path text v w, .opened directive source hinner hrest, rfl, ?_,
      ⟨by simpa using unseen, ?_⟩, ?_⟩
    · intro p hp
      rcases (hpaths p).1 hp with rfl | hp | hp
      · exact fresh
      · exact fun hmem => havoids p hp (List.mem_append_left _ hmem)
      · exact hchain p hp
    · -- within the file its own path is on the chain, behind the file it is done
      have hfirst' : Firsts (path :: done) v.directives :=
        hfirst.congr fun p hp => by
          have hne : p ≠ path := fun heq => hself (heq ▸ hp)
          simp [hne]
      refine hfirst'.append hfirsts fun p => ?_
      rw [List.mem_cons, hdone p, List.mem_cons, or_assoc]
      rfl
    · intro p
      rw [hdone' p, hpaths p, List.mem_cons, hdone p]
      tauto

section
variable {r : Resolver} {source expanded : String}

theorem exists_expands (h : expand r source = .ok expanded) : ∃ pieces done,
    Expands r [] (Text.lines source) [] (.ok (pieces, done)) ∧
      expanded = String.join (pieces.map Piece.render) := by
  have hrun := expands_text r source
  rw [expand_eq_map] at h
  cases hout : expandFile r (r.known.length + 1) [] source [] with
  | error e =>
    rw [hout] at h
    cases h
  | ok x =>
    rw [hout] at h hrun
    exact ⟨x.1, x.2, hrun, (Except.ok.inj h).symm⟩

/-- An expansion renders a walk that follows first directives only. -/
theorem exists_walk (h : expand r source = .ok expanded) : ∃ w, Walks r (Text.lines source) w ∧
    Firsts [] w.directives ∧ expanded = String.join (w.pieces.map Piece.render) := by
  obtain ⟨pieces, done, hrun, htext⟩ := exists_expands h
  obtain ⟨w, hwalks, rfl, -, hfirsts, -⟩ := hrun.walk rfl
  exact ⟨w, hwalks, hfirsts, htext⟩

theorem walkable_of_expand (h : expand r source = .ok expanded) : Walkable r source := by
  obtain ⟨_, _, hrun, _⟩ := exists_expands h
  exact walkable_of_expands hrun

end

/-! ## Where the walk goes -/

section
variable {r : Resolver} {lines : List String} {w : Walk}

/-- The walk comes by every directive of its lines, and of the files that it goes through. -/
theorem Walks.mentions (h : Walks r lines w) :
    (∀ line ∈ lines, ∀ p, path? line = some p → p ∈ w.mentioned) ∧
      ∀ p ∈ w.files, ∀ q, Leads r p q → q ∈ w.mentioned := by
  induction h with
  | nil => exact ⟨by simp, by simp [Walk.files]⟩
  | line plain _ ih =>
    refine ⟨fun line hline p hp => ?_, ih.2⟩
    rcases List.mem_cons.1 hline with rfl | hline
    · rw [plain] at hp
      cases hp
    · exact ih.1 line hline p hp
  | dropped directive _ ih =>
    refine ⟨fun line hline p hp => ?_, fun p hp q hq => List.mem_cons_of_mem _ (ih.2 p hp q hq)⟩
    rcases List.mem_cons.1 hline with rfl | hline
    · rw [directive] at hp
      cases hp
      exact List.mem_cons_self ..
    · exact List.mem_cons_of_mem _ (ih.1 line hline p hp)
  | @opened _ path text _ v w directive source _ _ ihinner ihrest =>
    have hpaths : ∀ p, p ∈ Walk.mentioned (.opened path text v w) ↔
        p = path ∨ p ∈ v.mentioned ∨ p ∈ w.mentioned := fun _ => Walk.mem_mentioned_opened
    refine ⟨fun line hline p hp => ?_, fun p hp q hq => (hpaths q).2 ?_⟩
    · rw [hpaths]
      rcases List.mem_cons.1 hline with rfl | hline
      · rw [directive] at hp
        cases hp
        exact .inl rfl
      · exact .inr (.inr (ihrest.1 line hline p hp))
    · rcases List.mem_cons.1 hp with rfl | hp
      · -- the file itself: its directives are those of its lines
        obtain ⟨text', htext', hmem⟩ := hq
        rw [source] at htext'
        cases htext'
        obtain ⟨line, hline, hpath⟩ := mem_paths.1 hmem
        exact .inr (.inl (ihinner.1 line hline q hpath))
      · rcases List.mem_append.1 hp with hp | hp
        · exact .inr (.inl (ihinner.2 p hp q hq))
        · exact .inr (.inr (ihrest.2 p hp q hq))

/-- What holds of the paths that the lines include, and spreads along includes, holds of all that
    the walk comes by. -/
theorem Walks.spread (h : Walks r lines w) {P : String → Prop}
    (hleads : ∀ p q, P p → Leads r p q → P q)
    (hlines : ∀ line ∈ lines, ∀ p, path? line = some p → P p) : ∀ p ∈ w.mentioned, P p := by
  induction h with
  | nil => simp [Walk.mentioned, Walk.directives]
  | line _ _ ih => exact ih fun line hline => hlines line (List.mem_cons_of_mem _ hline)
  | dropped directive _ ih =>
    intro p hp
    rcases List.mem_cons.1 hp with rfl | hp
    · exact hlines _ (List.mem_cons_self ..) _ directive
    · exact ih (fun line hline => hlines line (List.mem_cons_of_mem _ hline)) p hp
  | @opened _ path text _ v w directive source _ _ ihinner ihrest =>
    intro p hp
    have hpath : P path := hlines _ (List.mem_cons_self ..) _ directive
    rcases Walk.mem_mentioned_opened.1 hp with rfl | hp | hp
    · exact hpath
    · exact ihinner (fun line hline q hq => hleads path q hpath
        ⟨text, source, mem_paths.2 ⟨line, hline, hq⟩⟩) p hp
    · exact ihrest (fun line hline => hlines line (List.mem_cons_of_mem _ hline)) p hp

/-- **A walk over a text that follows first directives only goes through every reached file,
    once.** -/
theorem Walks.files_iff {text : String} (h : Walks r (Text.lines text) w)
    (hfirsts : Firsts [] w.directives) : w.files.Nodup ∧ ∀ p, p ∈ w.files ↔ Reached r text p := by
  obtain ⟨hnodup, hmem⟩ := hfirsts.once
  rw [← Walk.files_eq] at hnodup
  have hfiles : ∀ p, p ∈ w.files ↔ p ∈ w.mentioned := fun p => by
    rw [Walk.files_eq, hmem]
    simp [Walk.mentioned]
  refine ⟨hnodup, fun p => (hfiles p).trans ⟨?_, ?_⟩⟩
  · refine h.spread (fun p q hp hq => ?_) (fun line hline p hp => ?_) p
    · obtain ⟨first, hfirst, hreach⟩ := hp
      exact ⟨first, hfirst, hreach.tail hq⟩
    · exact ⟨p, mem_paths.2 ⟨line, hline, hp⟩, .refl⟩
  · rintro ⟨first, hfirst, hreach⟩
    obtain ⟨line, hline, hpath⟩ := mem_paths.1 hfirst
    induction hreach with
    | refl => exact h.mentions.1 line hline first hpath
    | tail _ hlast ih => exact h.mentions.2 _ ((hfiles _).2 ih) _ hlast

end

/-! ## Regions -/

/-- The path at whose beginning a piece stands. -/
def Piece.opens? : Piece → Option String
  | opened path => some path
  | _ => none

/-- Reads the markers of an expansion with a stack of the files that are open.  Each line comes with
    the innermost of them; there is no reading if a marker closes another file than that one, or if
    files are left open. -/
def regions : (stack : List String) → List Piece → Option (List (Option String × String))
  | [], [] => some []
  | _ :: _, [] => none
  | stack, .line text :: rest => (regions stack rest).map ((stack.head?, text) :: ·)
  | stack, .opened path :: rest => regions (path :: stack) rest
  | stack, .terminator :: rest => regions stack rest
  | [], .closed _ :: _ => none
  | top :: stack, .closed path :: rest => if path = top then regions stack rest else none

/-- The lines that stand in a file's region. -/
def linesOf (file : Option String) (lines : List (Option String × String)) : List String :=
  (lines.filter (·.1 = file)).map Prod.snd

/-- The lines of a text that are no directives. -/
def plainLines (text : String) : List String :=
  (Text.lines text).filter fun line => (path? line).isNone

theorem Walk.opens_pieces (w : Walk) : w.pieces.filterMap Piece.opens? = w.files := by
  induction w with
  | nil => rfl
  | line _ _ ih => exact ih
  | dropped _ _ ih => exact ih
  | opened path text inner rest ihinner ihrest =>
    have hending : ∀ b : Bool, (if b then [] else [Piece.terminator]).filterMap Piece.opens? = [] :=
      fun b => by cases b <;> rfl
    simp only [pieces, files, enclose, List.filterMap_append, List.cons_append,
      List.filterMap_cons, Piece.opens?, ihinner, ihrest, hending, List.filterMap_nil,
      List.append_nil]

/-- **The markers of a walk are balanced and nested**, and its lines stand in their files. -/
theorem Walk.regions_pieces (w : Walk) (stack : List String) (rest : List Piece) :
    regions stack (w.pieces ++ rest) =
      (regions stack rest).map (w.written stack.head? ++ ·) := by
  induction w generalizing stack rest with
  | nil => simp [pieces, written]
  | line text w ih =>
    rw [pieces, List.cons_append, regions, ih, Option.map_map]
    rfl
  | dropped _ w ih => exact ih stack rest
  | opened path text inner w ihinner ihw =>
    -- what stands between the inner pieces and the mark at the end is no line
    have hending : ∀ (b : Bool) (ps : List Piece), regions (path :: stack)
        ((if b then [] else [Piece.terminator]) ++ ps) = regions (path :: stack) ps :=
      fun b ps => by cases b <;> rfl
    have hpieces : (opened path text inner w).pieces ++ rest = .opened path :: (inner.pieces ++
        ((if Text.isTerminated text then [] else [.terminator]) ++
          .closed path :: (w.pieces ++ rest))) := by simp [pieces, enclose]
    rw [hpieces, regions, ihinner, hending, regions, if_pos rfl, ihw, Option.map_map]
    congr 1
    funext ls
    simp [written]

theorem linesOf_append (file : Option String) (a b : List (Option String × String)) :
    linesOf file (a ++ b) = linesOf file a ++ linesOf file b := by
  rw [linesOf, List.filter_append, List.map_append]
  rfl

theorem linesOf_cons (file file' : Option String) (text : String)
    (rest : List (Option String × String)) : linesOf file ((file', text) :: rest) =
      if file' = file then text :: linesOf file rest else linesOf file rest := by
  rw [linesOf, List.filter_cons]
  by_cases h : file' = file <;> simp [h, linesOf]

section
variable {r : Resolver} {lines : List String} {w : Walk}

/-- The lines of a file that the walk does not go through: those it begins with. -/
theorem Walks.linesOf_outer (h : Walks r lines w) (file file' : Option String)
    (hfile : ∀ p ∈ w.files, file' ≠ some p) : linesOf file' (w.written file) =
      if file = file' then lines.filter fun line => (path? line).isNone else [] := by
  induction h generalizing file with
  | nil => simp [Walk.written, linesOf]
  | line plain _ ih =>
    rw [Walk.written, linesOf_cons, ih file hfile, List.filter_cons, plain]
    split <;> rfl
  | dropped directive _ ih =>
    rw [Walk.written, ih file hfile, List.filter_cons, directive]
    rfl
  | @opened _ path _ _ _ _ directive source _ _ ihinner ihrest =>
    have hself : some path ≠ file' := (hfile path (List.mem_cons_self ..)).symm
    rw [Walk.written, linesOf_append,
      ihinner (some path) fun p hp => hfile p (by simp [Walk.files, hp]), if_neg hself,
      ihrest file fun p hp => hfile p (by simp [Walk.files, hp]), List.filter_cons, directive]
    rfl

/-- The lines of a file that the walk goes through once. -/
theorem Walks.linesOf_inner (h : Walks r lines w) (hnodup : w.files.Nodup) {p text : String}
    (hp : p ∈ w.files) (hsource : r.source? p = some text) (file : Option String)
    (hfile : file ≠ some p) : linesOf (some p) (w.written file) = plainLines text := by
  induction h generalizing file with
  | nil => cases hp
  | line _ _ ih =>
    rw [Walk.written, linesOf_cons, if_neg hfile]
    exact ih hnodup hp file hfile
  | dropped _ _ ih => exact ih hnodup hp file hfile
  | @opened _ path _ _ v w directive source hinner hrest ihinner ihrest =>
    obtain ⟨hpath, hboth⟩ := List.nodup_cons.1 hnodup
    obtain ⟨hv, hw, hdisjoint⟩ := List.nodup_append.1 hboth
    have houter : ∀ {x : Walk}, p ∉ x.files → ∀ q ∈ x.files, some p ≠ some q := by
      rintro x hx q hq heq
      exact hx (Option.some.inj heq ▸ hq)
    rw [Walk.written, linesOf_append]
    by_cases heq : p = path
    · -- the file itself, which is not met again
      subst heq
      rw [hsource] at source
      cases source
      have hnot : p ∉ v.files ∧ p ∉ w.files := by simpa using hpath
      rw [hinner.linesOf_outer _ _ (houter hnot.1), hrest.linesOf_outer _ _ (houter hnot.2),
        if_pos rfl, if_neg hfile, List.append_nil, plainLines]
    · have hpath' : some path ≠ some p := fun h => heq (Option.some.inj h).symm
      rcases List.mem_append.1 ((List.mem_cons.1 hp).resolve_left heq) with hp | hp
      · have hnot : p ∉ w.files := fun hmem => hdisjoint p hp p hmem rfl
        rw [ihinner hv hp (some path) hpath', hrest.linesOf_outer _ _ (houter hnot),
          if_neg hfile, List.append_nil]
      · have hnot : p ∉ v.files := fun hmem => hdisjoint p hmem p hp rfl
        rw [ihrest hw hp file hfile, hinner.linesOf_outer _ _ (houter hnot), if_neg hpath',
          List.nil_append]

/-- The walk writes lines of the file it begins with and of those it goes through. -/
theorem Walk.mem_files_of_written {p line : String} {file : Option String}
    (h : (some p, line) ∈ w.written file) : some p = file ∨ p ∈ w.files := by
  induction w generalizing file with
  | nil => cases h
  | line text w ih =>
    rcases List.mem_cons.1 h with h | h
    · exact .inl (congrArg Prod.fst h)
    · exact ih h
  | dropped _ w ih => exact ih h
  | opened path text v w ihinner ihrest =>
    rcases List.mem_append.1 h with h | h
    · rcases ihinner h with h | h
      · exact .inr (by simp [files, Option.some.inj h])
      · exact .inr (by simp [files, h])
    · exact (ihrest h).imp_right fun h => by simp [files, h]

end

/-! ## Markers -/

/-- How a path is shown: a path of a generated interface source is shown without the part in front,
    which ends at the interface's unique name, and any other path is shown as it is. -/
def ShownAs (path shown : String) : Prop :=
  (∃ uid, '/' ∉ uid.toList ∧ Text.startsWith shown "/" ∧ path = VirtualPath.generated uid shown) ∨
    shown = path ∧ ∀ uid own, '/' ∉ uid.toList → Text.startsWith own "/" →
      path ≠ VirtualPath.generated uid own

theorem shownAs_display (path : String) : ShownAs path (VirtualPath.display path) := by
  -- a generated path has the root in front, and a slash behind the unique name
  have hgenerated : ∀ {uid own : String}, Text.startsWith own "/" →
      path = VirtualPath.generated uid own → ∃ tail,
        Text.dropFront? VirtualPath.interfaceRoot.toList path.toList =
          some (uid.toList ++ '/' :: tail) := by
    rintro uid own hown rfl
    obtain ⟨tail, htail⟩ := Option.isSome_iff_exists.1 hown
    have hlist : own.toList = '/' :: tail := Text.dropFront?_eq_some.1 htail
    exact ⟨tail, Text.dropFront?_eq_some.2 (by rw [VirtualPath.toList_generated, hlist])⟩
  rw [VirtualPath.display, VirtualPath.stripGenerated?]
  cases hroot : Text.dropFront? VirtualPath.interfaceRoot.toList path.toList with
  | none =>
    refine .inr ⟨rfl, fun uid own _ hown heq => ?_⟩
    obtain ⟨tail, htail⟩ := hgenerated hown heq
    rw [hroot] at htail
    cases htail
  | some rest =>
    have hpath := Text.dropFront?_eq_some.1 hroot
    dsimp only
    cases hown : rest.dropWhile (· ≠ '/') with
    | nil =>
      refine .inr ⟨rfl, fun uid own _ hown' heq => ?_⟩
      obtain ⟨tail, htail⟩ := hgenerated hown' heq
      rw [hroot] at htail
      have hslash := List.dropWhile_eq_nil_iff.1 hown '/' (by simp [Option.some.inj htail])
      simp at hslash
    | cons c own =>
      have hc : c = '/' := by
        have hhead := List.head?_dropWhile_not (fun d => decide (d ≠ '/')) rest
        rw [hown] at hhead
        simpa using hhead
      subst hc
      refine .inl ⟨String.ofList (rest.takeWhile (· ≠ '/')), ?_,
        by simp [Text.startsWith, Text.dropFront?], ?_⟩
      · rw [String.toList_ofList]
        intro hmem
        simpa using List.mem_takeWhile_imp hmem
      · apply String.toList_injective
        rw [VirtualPath.toList_generated, hpath]
        simp only [Option.getD_some, String.toList_ofList]
        rw [← hown, List.takeWhile_append_dropWhile]

/-! ## Nothing is lost, and nothing is there twice -/

/-- The text `expanded` is what the source comes to on the walk `w`, with the lines `lines` in the
    regions of their files. -/
structure Whole (r : Resolver) (source expanded : String) (w : Walk)
    (lines : List (Option String × String)) : Prop where
  /-- Line by line, the walk copies what is no directive, and follows or drops what is one. -/
  walks : Walks r (Text.lines source) w
  text : expanded = String.join (w.pieces.map Piece.render)
  /-- A directive is followed exactly if it is the first one of its path, in depth-first order. -/
  first : ∀ before path followed after, w.directives = before ++ (path, followed) :: after →
    (followed = true ↔ path ∉ before.map Prod.fst)
  /-- Every reached path begins once, and no other path begins. -/
  once : (w.pieces.filterMap Piece.opens?).Nodup
  reached : ∀ path, path ∈ w.pieces.filterMap Piece.opens? ↔ Reached r source path
  /-- The markers are balanced and nested. -/
  nested : regions [] w.pieces = some lines
  /-- The lines outside all markers are those of the source, in order. -/
  outside : linesOf none lines = plainLines source
  /-- The lines in the region of a reached file are those of the file, in order. -/
  inside : ∀ path, Reached r source path →
    ∃ text, r.source? path = some text ∧ linesOf (some path) lines = plainLines text
  /-- There are no other lines. -/
  only : ∀ path line, (some path, line) ∈ lines → Reached r source path
  /-- The markers show the path. -/
  shown : ∀ path, ∃ own, ShownAs path own ∧
    (Piece.opened path).render = "// begin include \"" ++ own ++ "\"\n" ∧
    (Piece.closed path).render = "// end include \"" ++ own ++ "\"\n"

/-- **Expansion loses nothing and repeats nothing.** -/
theorem expand_whole {r : Resolver} {source expanded : String}
    (h : expand r source = .ok expanded) : ∃ w lines, Whole r source expanded w lines := by
  obtain ⟨w, hwalks, hfirsts, rfl⟩ := exists_walk h
  have hwalkable := walkable_of_expand h
  obtain ⟨hnodup, hfiles⟩ := hwalks.files_iff hfirsts
  have hregions := w.regions_pieces [] []
  rw [List.append_nil] at hregions
  refine ⟨w, w.written none, hwalks, rfl, fun _ _ _ _ hds => ?_, ?_, fun p => ?_,
    by simpa [regions] using hregions, ?_, fun p hp => ?_, fun p line hline => ?_, fun p =>
      ⟨VirtualPath.display p, shownAs_display p, rfl, rfl⟩⟩
  · simpa using hfirsts.first hds
  · rwa [w.opens_pieces]
  · rw [w.opens_pieces]
    exact hfiles p
  · rw [hwalks.linesOf_outer none none (by simp), if_pos rfl, plainLines]
  · obtain ⟨text, htext⟩ := Option.isSome_iff_exists.1 (hwalkable p hp).1
    exact ⟨text, htext, hwalks.linesOf_inner hnodup ((hfiles p).2 hp) htext none nofun⟩
  · exact (hfiles p).1 ((Walk.mem_files_of_written hline).resolve_left nofun)

/-! ### A file that is included twice -/

/-- A file that ends within a line, and the file that it includes. -/
def diamond : Resolver := .ofList [("/a", "#include \"/b\"\na"), ("/b", "b\n")]

/-- A text that includes both. -/
def diamondSource : String := "#include \"/a\"\n#include \"/b\"\nmain"

/-- Its expansion: the second directive of `/b` is dropped, and the last line of `/a` is ended. -/
def diamondText : String :=
  "// begin include \"/a\"\n// begin include \"/b\"\nb\n// end include \"/b\"\na\n" ++
    "// end include \"/a\"\nmain"

theorem expand_diamond : expand diamond diamondSource = .ok diamondText := by decide

theorem expand_whole_diamond : expand diamond diamondSource = .ok diamondText ∧
    ∃ w lines, Whole diamond diamondSource diamondText w lines :=
  ⟨expand_diamond, expand_whole expand_diamond⟩

end KernelGraph.Include
