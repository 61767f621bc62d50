/-
  Two walks over one include graph.

  The digest of a file and the expansion of a line that includes it go through the same files in the
  same order.  One remembers digests, also those of earlier walks, and the other remembers the paths
  that it has expanded; both keep the chain that leads to the current file.  The law, for a registry
  without stale digests and a path that leads to no generated file:

      digest fs id path format fails with e  ↔  expand r ‹include path› fails with e

  the including file apart, which only the expansion names in its error.

  What is remembered lies on no circle, so that it makes no difference: a path that the expansion
  has done is `Closed`, and a closed path has a digest whatever chain leads to it (`Closed.hashes`).
  Hence the first line that fails is the first include that fails (`Expands.failsAlike`).
-/
import KernelGraph.Proofs.DigestRecursion
import KernelGraph.Proofs.IncludeGraph

namespace KernelGraph

open Relation FileStore

namespace Include

/-! ## A text that only includes a file -/

/-- An include line, with or without a line feed at its end, is one line and includes its path. -/
theorem lines_directive {path ending : String} (hquote : '"' ∉ path.toList)
    (hline : '\n' ∉ path.toList) (hending : ending = "" ∨ ending = "\n") :
    Text.lines ("#include \"" ++ path ++ "\"" ++ ending) =
        ["#include \"" ++ path ++ "\"" ++ ending] ∧
      path? ("#include \"" ++ path ++ "\"" ++ ending) = some path := by
  have hfree : '\n' ∉ ("#include \"" ++ path ++ "\"").toList := by
    simp only [String.toList_append, List.mem_append, not_or]
    exact ⟨⟨by decide, hline⟩, by decide⟩
  constructor
  · rcases hending with rfl | rfl
    · rw [String.append_empty]
      exact Text.lines_last hfree (by simp)
    · exact Text.lines_single hfree
  · have hchars : pathChars? ("#include \"" ++ path ++ "\"" ++ ending).toList =
        some path.toList := by
      have hblank : ∀ c ∈ [' '], Text.isBlank c := List.forall_mem_singleton.2 (by decide)
      refine pathChars?_eq_some.2 ⟨[], [' '], '"', '"', ending.toList, by simp, hblank,
        Or.inl ⟨rfl, rfl⟩, hquote, ?_⟩
      simp
    rw [path?, hchars, Option.map_some, String.ofList_toList]

/-! ## What both walks report -/

/-- An error without the file whose include was not found. -/
def Error.withoutIncluder : Error → Error
  | notFound path _ => notFound path none
  | cycle chain path => cycle chain path

/-- The message of the error that an error is wrapped around. -/
def Error.sentinel : Error → String
  | notFound _ _ => "shader: include not found"
  | cycle _ _ => "shader: include cycle"

theorem Error.sentinel_withoutIncluder (e : Error) : e.withoutIncluder.sentinel = e.sentinel := by
  cases e <;> rfl

/-! ## The same walk -/

section
variable {r : Resolver} {format : String}

/-- No generated file is reached from the path. -/
def LeadsToNoGenerated (r : Resolver) (path : String) : Prop :=
  ∀ q, TransGen (Leads r) path q → VirtualPath.isGenerated q = false

theorem LeadsToNoGenerated.included_eq {path text : String} (h : LeadsToNoGenerated r path)
    (source : r.source? path = some text) : included text = paths text := by
  refine List.filter_eq_self.2 fun q hq => ?_
  rw [h q (.single ⟨text, source, hq⟩)]
  rfl

theorem LeadsToNoGenerated.leads {path q : String} (h : LeadsToNoGenerated r path)
    (hq : Leads r path q) : LeadsToNoGenerated r q := fun p hp => h p (.head hq hp)

/-- **A closed path has a digest**, whatever chain leads to it. -/
theorem Closed.hashes (format : String) {path : String} (h : Closed r path) {chain : List String}
    (hchain : ∀ c ∈ chain, TransGen (Leads r) c path) :
    ∃ d, Hashes r.source? format chain path (.ok d) := by
  induction h generalizing chain with
  | @intro path text source beneath ih =>
    have hfresh : path ∉ chain := fun hmem =>
      (Closed.intro source beneath).acyclic (hchain path hmem)
    have hbeneath : ∀ q ∈ included text,
        ∃ d, Hashes r.source? format (chain ++ [path]) q (.ok d) := by
      intro q hq
      have hmem : q ∈ paths text := List.mem_of_mem_filter hq
      have hleads : Leads r path q := ⟨text, source, hmem⟩
      exact ih q hmem (forall_mem_snoc (fun c hc => (hchain c hc).tail hleads) (.single hleads))
    exact hashes_of_forall hfresh source hbeneath

/-- Where a list of lines of the file that ends the chain fails, the digest recursion fails at the
    same include. -/
def FailsAlike (r : Resolver) (format : String) (chain lines : List String) (e : Error) : Prop :=
  ∃ before p rest, lines.filterMap path? = before ++ p :: rest ∧
    (∀ q ∈ before, ∃ d, Hashes r.source? format chain q (.ok d)) ∧
    Hashes r.source? format chain p (.error e.withoutIncluder)

theorem FailsAlike.cons_plain {chain lines : List String} {line : String} {e : Error}
    (h : FailsAlike r format chain lines e) (hplain : path? line = none) :
    FailsAlike r format chain (line :: lines) e := by
  obtain ⟨before, p, rest, hsplit, hbefore, hp⟩ := h
  exact ⟨before, p, rest, by rw [List.filterMap_cons, hplain, hsplit], hbefore, hp⟩

theorem FailsAlike.cons_closed {chain lines : List String} {line path : String} {e : Error}
    (h : FailsAlike r format chain lines e) (hpath : path? line = some path)
    (hok : ∃ d, Hashes r.source? format chain path (.ok d)) :
    FailsAlike r format chain (line :: lines) e := by
  obtain ⟨before, p, rest, hsplit, hbefore, hp⟩ := h
  refine ⟨path :: before, p, rest, by rw [List.filterMap_cons, hpath, hsplit]; rfl, ?_, hp⟩
  intro q hq
  rcases List.mem_cons.1 hq with rfl | hq
  · exact hok
  · exact hbefore q hq

theorem failsAlike_first {chain lines : List String} {line path : String} {e : Error}
    (hpath : path? line = some path)
    (h : Hashes r.source? format chain path (.error e.withoutIncluder)) :
    FailsAlike r format chain (line :: lines) e :=
  ⟨[], path, lines.filterMap path?, by rw [List.filterMap_cons, hpath]; rfl, by simp, h⟩

/-- **The walks fail at the same place**: the induction is on the expansion; what is done is closed,
    and every file of the chain leads to every path that the lines include. -/
theorem Expands.failsAlike (format : String) {chain lines done : List String}
    {out : Except Error (List Piece × List String)} {e : Error}
    (h : Expands r chain lines done out) (hout : out = .error e) (hdone : ∀ p ∈ done, Closed r p)
    (hchain : ∀ line ∈ lines, ∀ p, path? line = some p → ∀ c ∈ chain, TransGen (Leads r) c p)
    (hplain : ∀ line ∈ lines, ∀ p, path? line = some p → LeadsToNoGenerated r p) :
    FailsAlike r format chain lines e := by
  induction h with
  | nil => cases hout
  | line plain _ ih =>
    refine (ih (after_eq_error hout) hdone (fun l hl => hchain l (List.mem_cons_of_mem _ hl))
      fun l hl => hplain l (List.mem_cons_of_mem _ hl)).cons_plain plain
  | cycle directive again =>
    cases hout
    exact failsAlike_first directive (.cycle again)
  | @dropped chain lines _ line path _ directive _ seen _ ih =>
    have hrest := ih (after_eq_error hout) hdone (fun l hl => hchain l (List.mem_cons_of_mem _ hl))
      fun l hl => hplain l (List.mem_cons_of_mem _ hl)
    exact hrest.cons_closed directive
      ((hdone path seen).hashes format (hchain line (List.mem_cons_self ..) path directive))
  | missing directive fresh _ source =>
    cases hout
    exact failsAlike_first directive (.missing fresh source)
  | @failed chain lines _ line path text _ directive fresh _ source inner ih =>
    have hto := hchain line (List.mem_cons_self ..) path directive
    have hnone := hplain line (List.mem_cons_self ..) path directive
    have hleads : ∀ l ∈ Text.lines text, ∀ q, path? l = some q → Leads r path q :=
      fun l hl q hq => ⟨text, source, mem_paths.2 ⟨l, hl, hq⟩⟩
    obtain ⟨before, p, rest, hsplit, hbefore, hp⟩ := ih hout hdone
      (fun l hl q hq => forall_mem_snoc (fun c hc => (hto c hc).tail (hleads l hl q hq))
        (.single (hleads l hl q hq)))
      fun l hl q hq => hnone.leads (hleads l hl q hq)
    have hincluded : included text = before ++ p :: rest := (hnone.included_eq source).trans hsplit
    exact failsAlike_first directive (hashes_of_first fresh source hincluded hbefore hp)
  | @opened chain lines done done' line path text _ _ directive _ _ source inner _ _ ihrest =>
    obtain ⟨hclosed, _, hpaths⟩ := inner.closed rfl hdone
    have hfile : Closed r path := .intro source fun q hq => by
      obtain ⟨l, hl, hpath⟩ := mem_paths.1 hq
      exact hclosed q (hpaths l hl q hpath)
    have hrest := ihrest (after_eq_error hout)
      (fun p hp => (List.mem_cons.1 hp).elim (fun heq => heq ▸ hfile) (hclosed p))
      (fun l hl => hchain l (List.mem_cons_of_mem _ hl))
      fun l hl => hplain l (List.mem_cons_of_mem _ hl)
    exact hrest.cons_closed directive
      (hfile.hashes format (hchain line (List.mem_cons_self ..) path directive))

/-- A single line that expands includes a file that has a digest. -/
theorem Expands.hashes_of_ok (format : String) {line path : String}
    {out : Except Error (List Piece × List String)}
    {x : List Piece × List String} (h : Expands r [] [line] [] out) (hout : out = .ok x)
    (hpath : path? line = some path) : ∃ d, Hashes r.source? format [] path (.ok d) := by
  obtain ⟨pieces, done⟩ := x
  obtain ⟨hclosed, _, hpaths⟩ := h.closed hout (by simp)
  exact (hclosed path (hpaths line (by simp) path hpath)).hashes format (by simp)

/-- A single line that fails to expand includes a file whose digest fails alike. -/
theorem Expands.hashes_of_error (format : String) {line path : String}
    {out : Except Error (List Piece × List String)} {e : Error}
    (h : Expands r [] [line] [] out) (hout : out = .error e) (hpath : path? line = some path)
    (hplain : LeadsToNoGenerated r path) :
    Hashes r.source? format [] path (.error e.withoutIncluder) := by
  have honly : ∀ l ∈ [line], ∀ p, path? l = some p → p = path := by
    intro l hl p hp
    rw [List.mem_singleton.1 hl, hpath] at hp
    exact (Option.some.inj hp).symm
  obtain ⟨before, p, rest, hsplit, _, hp⟩ := h.failsAlike format hout (by simp)
    (by simp) fun l hl p hp => honly l hl p hp ▸ hplain
  rw [List.filterMap_cons, hpath, List.filterMap_nil] at hsplit
  cases before with
  | nil =>
    obtain ⟨rfl, _⟩ := List.cons.inj hsplit
    exact hp
  | cons b before => simp at hsplit

end

/-- Expanding a text renders the outcome of the recursion over its lines. -/
theorem expand_eq_map (r : Resolver) (text : String) :
    expand r text = (expandFile r (r.known.length + 1) [] text []).map
      fun x => String.join (x.1.map Piece.render) := by
  rw [expand, expandPieces]
  cases expandFile r (r.known.length + 1) [] text [] <;> rfl

end Include

/-! ## A registry and a path -/

section
variable {fs : FileStore} {id : Nat} {path format ending : String}

/-- **Taking the digest of a file and expanding a line that includes it agree.**  The registry has
    no stale digests, and the path, which fits between double quotes, leads to no generated file.
    Then either both succeed, or both fail with the same error, except that the expansion may name
    the file whose include was not found; in particular both errors have the same sentinel. -/
theorem FileStore.Current.digest_agrees_expand (h : Current fs id) (hquote : '"' ∉ path.toList)
    (hline : '\n' ∉ path.toList) (hending : ending = "" ∨ ending = "\n")
    (hplain : Include.LeadsToNoGenerated (fs.resolver id) path) :
    ((∃ d, (fs.digest id path format).1 = .ok d) ↔ ∃ text,
      Include.expand (fs.resolver id) ("#include \"" ++ path ++ "\"" ++ ending) = .ok text) ∧
    ∀ e e', (fs.digest id path format).1 = .error e →
      Include.expand (fs.resolver id) ("#include \"" ++ path ++ "\"" ++ ending) = .error e' →
      e.sentinel = e'.sentinel ∧ e = e'.withoutIncluder := by
  obtain ⟨hlines, hpath⟩ := Include.lines_directive hquote hline hending
  have hdigest : Hashes (fs.source? id) format [] path (fs.digest id path format).1 :=
    digestFile_hashes (fs.mem_known id) (fs.known.length + 2) [] path _ List.nodup_nil (by simp)
      (by simp) (by simp) h
  have hrun := Include.expands_text (fs.resolver id) ("#include \"" ++ path ++ "\"" ++ ending)
  rw [Include.expand_eq_map]
  rw [hlines] at hrun
  cases hout : Include.expandFile (fs.resolver id) ((fs.resolver id).known.length + 1) []
      ("#include \"" ++ path ++ "\"" ++ ending) [] with
  | ok x =>
    rw [hout] at hrun
    obtain ⟨d, hd⟩ := hrun.hashes_of_ok format rfl hpath
    rw [hdigest.unique hd]
    exact ⟨⟨fun _ => ⟨_, rfl⟩, fun _ => ⟨d, rfl⟩⟩, fun e e' he => by cases he⟩
  | error e =>
    rw [hout] at hrun
    have he := hrun.hashes_of_error format rfl hpath hplain
    rw [hdigest.unique he]
    refine ⟨⟨fun ⟨_, hd⟩ => (by cases hd), fun ⟨_, ht⟩ => (by cases ht)⟩, fun e₁ e₂ h₁ h₂ => ?_⟩
    cases h₁
    cases h₂
    exact ⟨e.sentinel_withoutIncluder, rfl⟩

end

/-- From the including file, only the library is reached. -/
theorem FileStore.leadsToNoGenerated_librarySources :
    Include.LeadsToNoGenerated ((librarySources "1").resolver 0) "/main.wgsl" := by
  obtain ⟨hmain, hlib⟩ := source?_librarySources "1"
  intro q hq
  suffices q = "/lib.wgsl" by rw [this]; decide
  induction hq with
  | single h =>
    obtain ⟨text, source, hmem⟩ := h
    obtain rfl := Option.some.inj (hmain.symm.trans source)
    have hpaths : Include.paths "#include \"/lib.wgsl\"\n" = ["/lib.wgsl"] := by decide
    exact List.mem_singleton.1 (hpaths ▸ hmem)
  | tail _ h ih =>
    subst ih
    obtain ⟨text, source, hmem⟩ := h
    obtain rfl := Option.some.inj (hlib.symm.trans source)
    have hpaths : Include.paths "1" = [] := by decide
    rw [hpaths] at hmem
    cases hmem

/-- The line that includes `/main.wgsl` expands, since the file has a digest. -/
theorem FileStore.expand_librarySources : ∃ text,
    Include.expand ((librarySources "1").resolver 0)
      ("#include \"" ++ "/main.wgsl" ++ "\"" ++ "\n") =
      .ok text :=
  ((current_librarySources "1").digest_agrees_expand (by decide) (by decide) (.inr rfl)
    leadsToNoGenerated_librarySources).1.1 (digest_librarySources "1" (by decide))

end KernelGraph
