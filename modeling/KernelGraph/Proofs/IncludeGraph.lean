/-
  Which texts expand.

  The paths that a text includes, and those that their texts include in turn, form a graph.  The
  law:

      expand r text succeeds  ↔  every reached path has a text  and  no reached path reaches itself

  and where it fails, the error names a reached path without a text, or one that reaches itself.

  1. `Expands` is the recursion without a depth.  Every text has exactly one outcome under it, and
     this is what `expand` renders: the recursion ends, on every resolver.
  2. What is done is `Closed`: its includes are done, so nothing beneath it is missing or cyclic.
  3. Every path of the chain leads to every path that the current file still includes, so a path
     that is met again on the chain reaches itself.
-/
import KernelGraph.Proofs.Include
import Mathlib.Data.List.Chain
import Mathlib.Logic.Relation

namespace KernelGraph.Include

open Relation

/-! ## The graph -/

/-- The file at `p` includes `q`. -/
def Leads (r : Resolver) (p q : String) : Prop := ∃ text, r.source? p = some text ∧ q ∈ paths text

/-- The path is included by the text, or by a file that the text reaches. -/
def Reached (r : Resolver) (text p : String) : Prop := ∃ q ∈ paths text, ReflTransGen (Leads r) q p

theorem mem_paths {p text : String} :
    p ∈ paths text ↔ ∃ line ∈ Text.lines text, path? line = some p := by
  rw [paths, List.mem_filterMap]

/-- The file at `p` has a text, and so has everything beneath it, to a finite depth. -/
inductive Closed (r : Resolver) : String → Prop
  | intro {p text : String} (source : r.source? p = some text)
      (beneath : ∀ q ∈ paths text, Closed r q) : Closed r p

theorem Closed.leads {r : Resolver} {p q : String} (h : Closed r p) (hq : Leads r p q) :
    Closed r q := by
  obtain ⟨source, beneath⟩ := h
  obtain ⟨text, htext, hmem⟩ := hq
  rw [source] at htext
  cases htext
  exact beneath q hmem

theorem Closed.of_reaches {r : Resolver} {p q : String} (h : Closed r p)
    (hq : ReflTransGen (Leads r) p q) : Closed r q := by
  induction hq with
  | refl => exact h
  | tail _ hlast ih => exact ih.leads hlast

theorem Closed.isSome {r : Resolver} {p : String} (h : Closed r p) : (r.source? p).isSome := by
  obtain ⟨source, _⟩ := h
  rw [source]
  rfl

/-- Beneath a closed path there is no way back. -/
theorem Closed.acyclic {r : Resolver} {p : String} (h : Closed r p) :
    ¬ TransGen (Leads r) p p := by
  induction h with
  | @intro p text source beneath ih =>
    intro hback
    obtain ⟨q, hq, hqp⟩ := TransGen.head'_iff.1 hback
    obtain ⟨text', htext', hmem⟩ := id hq
    rw [source] at htext'
    cases htext'
    -- the same way, begun at the next file
    exact ih q hmem (TransGen.tail' hqp hq)

/-! ## The recursion without a depth -/

/-- Puts pieces before those of an outcome. -/
def after (pieces : List Piece) (out : Except Error (List Piece × List String)) :
    Except Error (List Piece × List String) :=
  out.map fun x => (pieces ++ x.1, x.2)

theorem after_eq_ok {front pieces : List Piece} {done : List String}
    {out : Except Error (List Piece × List String)} (h : after front out = .ok (pieces, done)) :
    ∃ rest, out = .ok (rest, done) := by
  cases out with
  | error e => cases h
  | ok x =>
    cases h
    exact ⟨x.1, rfl⟩

theorem after_eq_error {front : List Piece} {e : Error}
    {out : Except Error (List Piece × List String)} (h : after front out = .error e) :
    out = .error e := by
  cases out with
  | error e' =>
    cases h
    rfl
  | ok x => cases h

/-- What an included file expands to. -/
def enclose (path text : String) (pieces : List Piece) : List Piece :=
  .opened path :: pieces ++ (if Text.isTerminated text then [] else [.terminator]) ++ [.closed path]

/-- **The recursion itself**: the lines of the file that ends the chain `chain`, read when the paths
    `done` are expanded, come to an outcome.  There is no depth; an outcome has a finite
    derivation. -/
inductive Expands (r : Resolver) : (chain lines done : List String) →
    (out : Except Error (List Piece × List String)) → Prop
  | nil {chain done : List String} : Expands r chain [] done (.ok ([], done))
  | line {chain lines done : List String} {line : String}
      {out : Except Error (List Piece × List String)} (plain : path? line = none)
      (rest : Expands r chain lines done out) :
      Expands r chain (line :: lines) done (after [.line line] out)
  | cycle {chain lines done : List String} {line path : String} (directive : path? line = some path)
      (again : path ∈ chain) : Expands r chain (line :: lines) done (.error (.cycle chain path))
  | dropped {chain lines done : List String} {line path : String}
      {out : Except Error (List Piece × List String)} (directive : path? line = some path)
      (fresh : path ∉ chain) (seen : path ∈ done) (rest : Expands r chain lines done out) :
      Expands r chain (line :: lines) done (after [] out)
  | missing {chain lines done : List String} {line path : String}
      (directive : path? line = some path) (fresh : path ∉ chain) (unseen : path ∉ done)
      (source : r.source? path = none) :
      Expands r chain (line :: lines) done (.error (.notFound path chain.getLast?))
  | failed {chain lines done : List String} {line path text : String} {e : Error}
      (directive : path? line = some path) (fresh : path ∉ chain) (unseen : path ∉ done)
      (source : r.source? path = some text)
      (inner : Expands r (chain ++ [path]) (Text.lines text) done (.error e)) :
      Expands r chain (line :: lines) done (.error e)
  | opened {chain lines done done' : List String} {line path text : String} {pieces : List Piece}
      {out : Except Error (List Piece × List String)} (directive : path? line = some path)
      (fresh : path ∉ chain) (unseen : path ∉ done) (source : r.source? path = some text)
      (inner : Expands r (chain ++ [path]) (Text.lines text) done (.ok (pieces, done')))
      (rest : Expands r chain lines (path :: done') out) :
      Expands r chain (line :: lines) done (after (enclose path text pieces) out)

/-- The recursion has one outcome at most. -/
theorem Expands.unique {r : Resolver} {chain lines done : List String}
    {a b : Except Error (List Piece × List String)} (ha : Expands r chain lines done a)
    (hb : Expands r chain lines done b) : a = b := by
  induction ha generalizing b with
  | nil => cases hb; rfl
  | line plain rest ih =>
    cases hb with
    | line _ rest' => rw [ih rest']
    | _ => simp_all
  | cycle directive again => cases hb <;> simp_all
  | dropped directive fresh seen rest ih =>
    cases hb with
    | dropped _ _ _ rest' => rw [ih rest']
    | _ => simp_all
  | missing directive fresh unseen source => cases hb <;> simp_all
  | failed directive fresh unseen source inner ih =>
    cases hb with
    | failed directive' _ _ source' inner' =>
      obtain rfl : _ = _ := Option.some.inj (directive.symm.trans directive')
      obtain rfl : _ = _ := Option.some.inj (source.symm.trans source')
      exact ih inner'
    | opened directive' _ _ source' inner' _ =>
      obtain rfl : _ = _ := Option.some.inj (directive.symm.trans directive')
      obtain rfl : _ = _ := Option.some.inj (source.symm.trans source')
      cases ih inner'
    | _ => simp_all
  | opened directive fresh unseen source inner rest ihinner ihrest =>
    cases hb with
    | failed directive' _ _ source' inner' =>
      obtain rfl : _ = _ := Option.some.inj (directive.symm.trans directive')
      obtain rfl : _ = _ := Option.some.inj (source.symm.trans source')
      cases ihinner inner'
    | opened directive' _ _ source' inner' rest' =>
      obtain rfl : _ = _ := Option.some.inj (directive.symm.trans directive')
      obtain rfl : _ = _ := Option.some.inj (source.symm.trans source')
      cases ihinner inner'
      rw [ihrest rest']
    | _ => simp_all

/-- A list of lines comes to what the steps over its lines come to, if included files do. -/
theorem expands_lines {r : Resolver} {depth : Nat} {chain : List String}
    (hfile : ∀ path text done, path ∉ chain → r.source? path = some text →
      Expands r (chain ++ [path]) (Text.lines text) done
        (expandFile r depth (chain ++ [path]) text done)) (lines done : List String) :
    Expands r chain lines done (flatMapAccum (lineStep r depth chain) lines done) := by
  induction lines generalizing done with
  | nil => exact .nil
  | cons line lines ih =>
    -- the first line, and the rest after it
    have hcons : flatMapAccum (lineStep r depth chain) (line :: lines) done =
        (lineStep r depth chain line done).bind fun x =>
          after x.1 (flatMapAccum (lineStep r depth chain) lines x.2) := by
      rw [flatMapAccum]
      cases lineStep r depth chain line done with
      | error e => rfl
      | ok x =>
        obtain ⟨pieces, done'⟩ := x
        simp only [Except.bind]
        cases flatMapAccum (lineStep r depth chain) lines done' <;> rfl
    rw [hcons]
    cases hpath : path? line with
    | none =>
      have hstep : lineStep r depth chain line done = .ok ([.line line], done) := by
        rw [lineStep, hpath]
      rw [hstep]
      exact .line hpath (ih done)
    | some path =>
      by_cases hchain : path ∈ chain
      · have hstep : lineStep r depth chain line done = .error (.cycle chain path) := by
          simp [lineStep, hpath, hchain]
        rw [hstep]
        exact .cycle hpath hchain
      · by_cases hdone : path ∈ done
        · have hstep : lineStep r depth chain line done = .ok ([], done) := by
            simp [lineStep, hpath, hchain, hdone]
          rw [hstep]
          exact .dropped hpath hchain hdone (ih done)
        · cases hsource : r.source? path with
          | none =>
            have hstep : lineStep r depth chain line done =
                .error (.notFound path chain.getLast?) := by
              simp [lineStep, hpath, hchain, hdone, hsource]
            rw [hstep]
            exact .missing hpath hchain hdone hsource
          | some text =>
            have hinner := hfile path text done hchain hsource
            cases hfile : expandFile r depth (chain ++ [path]) text done with
            | error e =>
              have hstep : lineStep r depth chain line done = .error e := by
                simp [lineStep, hpath, hchain, hdone, hsource, hfile]
              rw [hfile] at hinner
              rw [hstep]
              exact .failed hpath hchain hdone hsource hinner
            | ok x =>
              have hstep : lineStep r depth chain line done =
                  .ok (enclose path text x.1, path :: x.2) := by
                simp [lineStep, hpath, hchain, hdone, hsource, hfile, enclose]
              rw [hfile] at hinner
              rw [hstep]
              exact .opened hpath hchain hdone hsource hinner (ih (path :: x.2))

/-- **The recursion ends**: with a depth that leaves room for every known path, a file comes to what
    `expandFile` computes. -/
theorem expandFile_expands (r : Resolver) : ∀ (depth : Nat) (chain : List String) (text : String)
    (done : List String), chain.Nodup → (∀ p ∈ chain, p ∈ r.known) →
    r.known.length + 1 ≤ depth + chain.length →
    Expands r chain (Text.lines text) done (expandFile r depth chain text done) := by
  intro depth
  induction depth with
  | zero =>
    intro chain text done hnodup hknown hdepth
    have := length_chain_le hnodup hknown
    omega
  | succ depth ih =>
    intro chain text done hnodup hknown hdepth
    rw [expandFile_succ]
    refine expands_lines (fun path text done hchain hsource => ?_) _ _
    have hlen : (chain ++ [path]).length = chain.length + 1 := by simp
    exact ih (chain ++ [path]) text done (nodup_snoc hnodup hchain)
      (forall_mem_snoc hknown (r.mem_known path text hsource)) (by omega)

/-! ## What is done is closed -/

/-- **Success closes**: if the paths done before are closed, so are those done after, and every path
    that the lines include is among them. -/
theorem Expands.closed {r : Resolver} {chain lines done done' : List String} {pieces : List Piece}
    {out : Except Error (List Piece × List String)} (h : Expands r chain lines done out)
    (hout : out = .ok (pieces, done')) (hdone : ∀ p ∈ done, Closed r p) :
    (∀ p ∈ done', Closed r p) ∧ (∀ p ∈ done, p ∈ done') ∧
      ∀ line ∈ lines, ∀ p, path? line = some p → p ∈ done' := by
  induction h generalizing pieces done' with
  | nil =>
    cases hout
    exact ⟨hdone, fun _ hp => hp, by simp⟩
  | line plain _ ih =>
    obtain ⟨_, hrest⟩ := after_eq_ok hout
    obtain ⟨hclosed, hsub, hlines⟩ := ih hrest hdone
    refine ⟨hclosed, hsub, fun line hline p hp => ?_⟩
    rcases List.mem_cons.1 hline with rfl | hline
    · rw [plain] at hp
      cases hp
    · exact hlines line hline p hp
  | cycle => cases hout
  | dropped directive _ seen _ ih =>
    obtain ⟨_, hrest⟩ := after_eq_ok hout
    obtain ⟨hclosed, hsub, hlines⟩ := ih hrest hdone
    refine ⟨hclosed, hsub, fun line hline p hp => ?_⟩
    rcases List.mem_cons.1 hline with rfl | hline
    · rw [directive] at hp
      cases hp
      exact hsub _ seen
    · exact hlines line hline p hp
  | missing => cases hout
  | failed => cases hout
  | @opened _ _ _ inner' _ path text _ _ directive _ _ source _ _ ihinner ihrest =>
    obtain ⟨_, hrest⟩ := after_eq_ok hout
    obtain ⟨hinner, hmono, hpaths⟩ := ihinner rfl hdone
    -- the file itself is closed, because what it includes is done
    have hfile : Closed r path := .intro source fun q hq => by
      obtain ⟨line, hline, hpath⟩ := mem_paths.1 hq
      exact hinner q (hpaths line hline q hpath)
    have hdone' : ∀ p ∈ path :: inner', Closed r p := by
      intro p hp
      rcases List.mem_cons.1 hp with rfl | hp
      · exact hfile
      · exact hinner p hp
    obtain ⟨hclosed, hsub, hlines⟩ := ihrest hrest hdone'
    refine ⟨hclosed, fun p hp => hsub p (List.mem_cons_of_mem _ (hmono p hp)),
      fun line hline p hp => ?_⟩
    rcases List.mem_cons.1 hline with rfl | hline
    · rw [directive] at hp
      cases hp
      exact hsub _ (List.mem_cons_self ..)
    · exact hlines line hline p hp

/-! ## What an error names -/

/-- The fault that an error reports about the expansion of a text. -/
def Error.Faults (r : Resolver) (text : String) : Error → Prop
  | .notFound path within => Reached r text path ∧ r.source? path = none ∧
      match within with
      | none => path ∈ paths text
      | some file => Leads r file path
  | .cycle chain path => Reached r text path ∧ TransGen (Leads r) path path ∧ path ∈ chain ∧
      chain.IsChain (Leads r) ∧ ∃ last, chain.getLast? = some last ∧ Leads r last path

/-- Where the expansion of a text stands: `chain` leads from it to the current file, which has the
    lines `lines` left. -/
structure Trail (r : Resolver) (text : String) (chain lines : List String) : Prop where
  steps : chain.IsChain (Leads r)
  reached : ∀ line ∈ lines, ∀ p, path? line = some p → Reached r text p
  within : ∀ line ∈ lines, ∀ p, path? line = some p →
    match chain.getLast? with
    | none => p ∈ paths text
    | some file => Leads r file p

namespace Trail

variable {r : Resolver} {text : String} {chain lines : List String}

theorem start (r : Resolver) (text : String) : Trail r text [] (Text.lines text) where
  steps := .nil
  reached line hline p hp := ⟨p, mem_paths.2 ⟨line, hline, hp⟩, .refl⟩
  within line hline _ hp := mem_paths.2 ⟨line, hline, hp⟩

theorem tail {line : String} (h : Trail r text chain (line :: lines)) :
    Trail r text chain lines where
  steps := h.steps
  reached l hl := h.reached l (List.mem_cons_of_mem _ hl)
  within l hl := h.within l (List.mem_cons_of_mem _ hl)

/-- The trail goes on into the file that a line includes. -/
theorem into {line path inner : String} (h : Trail r text chain (line :: lines))
    (hpath : path? line = some path) (hsource : r.source? path = some inner) :
    Trail r text (chain ++ [path]) (Text.lines inner) := by
  have hleads : ∀ l ∈ Text.lines inner, ∀ p, path? l = some p → Leads r path p :=
    fun l hl p hp => ⟨inner, hsource, mem_paths.2 ⟨l, hl, hp⟩⟩
  refine ⟨?_, fun l hl p hp => ?_, fun l hl p hp => ?_⟩
  · have hlast := h.within line (List.mem_cons_self ..) path hpath
    refine List.isChain_append.2 ⟨h.steps, .singleton path, fun last hmem first hfirst => ?_⟩
    cases hfirst
    rw [Option.mem_def.1 hmem] at hlast
    exact hlast
  · obtain ⟨q, hq, hreach⟩ := h.reached line (List.mem_cons_self ..) path hpath
    exact ⟨q, hq, hreach.tail (hleads l hl p hp)⟩
  · rw [List.getLast?_concat]
    exact hleads l hl p hp

end Trail

/-- In a chain every member reaches the last one. -/
theorem reflTransGen_getLast {r : Resolver} {chain : List String} {p last : String}
    (h : chain.IsChain (Leads r)) (hp : p ∈ chain) (hlast : chain.getLast? = some last) :
    ReflTransGen (Leads r) p last := by
  induction chain generalizing p with
  | nil => cases hp
  | cons c cs ih =>
    cases cs with
    | nil =>
      obtain rfl : c = last := Option.some.inj hlast
      rw [List.mem_singleton.1 hp]
    | cons d ds =>
      obtain ⟨hcd, htail⟩ := List.isChain_cons_cons.1 h
      rw [List.getLast?_cons_cons] at hlast
      rcases List.mem_cons.1 hp with rfl | hp
      · exact .head hcd (ih htail (List.mem_cons_self ..) hlast)
      · exact ih htail hp hlast

/-- **Every error names a fault** of the graph beneath the text. -/
theorem Expands.faults {r : Resolver} {text : String} {chain lines done : List String}
    {out : Except Error (List Piece × List String)} {e : Error}
    (h : Expands r chain lines done out) (hout : out = .error e)
    (htrail : Trail r text chain lines) :
    e.Faults r text := by
  induction h with
  | nil => cases hout
  | line _ _ ih => exact ih (after_eq_error hout) htrail.tail
  | @cycle chain _ _ _ path directive again =>
    cases hout
    have hwithin := htrail.within _ (List.mem_cons_self ..) path directive
    cases hlast : chain.getLast? with
    | none =>
      rw [List.getLast?_eq_none_iff.1 hlast] at again
      cases again
    | some last =>
      rw [hlast] at hwithin
      exact ⟨htrail.reached _ (List.mem_cons_self ..) path directive,
        .tail' (reflTransGen_getLast htrail.steps again hlast) hwithin, again, htrail.steps,
        last, hlast, hwithin⟩
  | dropped _ _ _ _ ih => exact ih (after_eq_error hout) htrail.tail
  | missing directive _ _ source =>
    cases hout
    exact ⟨htrail.reached _ (List.mem_cons_self ..) _ directive, source,
      htrail.within _ (List.mem_cons_self ..) _ directive⟩
  | failed directive _ _ source _ ih => exact ih hout (htrail.into directive source)
  | opened _ _ _ _ _ _ _ ihrest => exact ihrest (after_eq_error hout) htrail.tail

/-! ## Which texts expand -/

/-- Everything that the text reaches has a text, and nothing of it reaches itself. -/
def Walkable (r : Resolver) (text : String) : Prop :=
  ∀ p, Reached r text p → (r.source? p).isSome ∧ ¬ TransGen (Leads r) p p

theorem not_walkable_of_faults {r : Resolver} {text : String} {e : Error} (h : e.Faults r text) :
    ¬ Walkable r text := by
  intro hwalk
  cases e with
  | notFound path within =>
    obtain ⟨hreached, hsource, _⟩ := h
    have hsome := (hwalk path hreached).1
    rw [hsource] at hsome
    cases hsome
  | cycle chain path =>
    obtain ⟨hreached, hback, _⟩ := h
    exact (hwalk path hreached).2 hback

/-- The outcome of the recursion on a whole text. -/
theorem expands_text (r : Resolver) (text : String) :
    Expands r [] (Text.lines text) [] (expandFile r (r.known.length + 1) [] text []) :=
  expandFile_expands r _ [] text [] List.nodup_nil (by simp) (by simp)

theorem walkable_of_expands {r : Resolver} {text : String} {pieces : List Piece}
    {done : List String} (h : Expands r [] (Text.lines text) [] (.ok (pieces, done))) :
    Walkable r text := by
  obtain ⟨hclosed, _, hpaths⟩ := h.closed rfl (by simp)
  rintro p ⟨q, hq, hreach⟩
  obtain ⟨line, hline, hpath⟩ := mem_paths.1 hq
  have hp : Closed r p := (hclosed q (hpaths line hline q hpath)).of_reaches hreach
  exact ⟨hp.isSome, hp.acyclic⟩

/-- **A text expands exactly if its include graph is closed and acyclic.**  The recursion over the
    lines has exactly one outcome, whatever the resolver; the expansion renders it; it succeeds
    exactly if every path that the text reaches has a text and reaches itself never; and an error
    names a reached path that has no text, or one that reaches itself. -/
theorem expand_closed_acyclic (r : Resolver) (text : String) :
    ∃ out, Expands r [] (Text.lines text) [] out ∧
      (∀ out', Expands r [] (Text.lines text) [] out' → out' = out) ∧
      expand r text = out.map (fun x => String.join (x.1.map Piece.render)) ∧
      ((∃ expanded, expand r text = .ok expanded) ↔ Walkable r text) ∧
      match expand r text with
      | .ok _ => True
      | .error e => e.Faults r text := by
  have hrun := expands_text r text
  have hexpand : expand r text = (expandFile r (r.known.length + 1) [] text []).map
      (fun x => String.join (x.1.map Piece.render)) := by
    rw [expand, expandPieces]
    cases expandFile r (r.known.length + 1) [] text [] <;> rfl
  refine ⟨_, hrun, fun out' h' => h'.unique hrun, hexpand, ?_, ?_⟩
  · rw [hexpand]
    cases hout : expandFile r (r.known.length + 1) [] text [] with
    | ok x =>
      rw [hout] at hrun
      exact ⟨fun _ => walkable_of_expands hrun, fun _ => ⟨_, rfl⟩⟩
    | error e =>
      have hfault := hrun.faults hout (Trail.start r text)
      refine ⟨?_, fun hwalk => absurd hwalk (not_walkable_of_faults hfault)⟩
      rintro ⟨expanded, hok⟩
      cases hok
  · rw [hexpand]
    cases hout : expandFile r (r.known.length + 1) [] text [] with
    | ok x => exact trivial
    | error e => exact hrun.faults hout (Trail.start r text)

-- two files that include each other: the error names the one that is met again
example : expand (.ofList [("/x", "#include \"/y\"\n"), ("/y", "#include \"/x\"\n")])
    "#include \"/x\"\n" = .error (.cycle ["/x", "/y"] "/x") := by
  decide

end KernelGraph.Include
