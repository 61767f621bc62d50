/-
  Expansion of include directives.

  The expansion of a text replaces every directive, recursively, by the file it names.  A path is
  expanded once, at its first directive; later directives of it are dropped.  The result is a list
  of pieces (lines and markers), from which the text is rendered.  The markers show the path without
  the part that generated interface paths carry in front.

  A line is a directive when it reads, blanks aside, `#include "path"` or `#include <path>`; what
  follows the closing mark does not matter.  What text stands at a path is the answer of a resolver.
  It answers for finitely many paths and lists them, so a chain of includes without a repeated path
  cannot be longer than that list.
-/
import KernelGraph.Text.Lines
import KernelGraph.Text.Quoted
import KernelGraph.Text.Substring
import KernelGraph.VirtualPath

namespace KernelGraph.Include

/-! ## Directives -/

/-- The characters before the first `close`, if there is one. -/
def upTo? (close : Char) : List Char → Option (List Char)
  | [] => none
  | c :: cs => if c = close then some [] else (upTo? close cs).map (c :: ·)

/-- The path between the marks at the front of `cs`. -/
def delimited? : List Char → Option (List Char)
  | '"' :: cs => upTo? '"' cs
  | '<' :: cs => upTo? '>' cs
  | _ => none

/-- The path of an include directive. -/
def pathChars? (line : List Char) : Option (List Char) :=
  match Text.dropFront? "#include".toList (Text.trimChars line) with
  | none => none
  | some rest => delimited? (Text.trimChars rest)

/-- The path that a line includes. -/
def path? (line : String) : Option String := (pathChars? line.toList).map String.ofList

/-- The paths of all include directives of a text, in order. -/
def paths (text : String) : List String := (Text.lines text).filterMap path?

/-! ## Resolvers -/

/-- Why an include graph cannot be walked. -/
inductive Error
  /-- Nothing stands at `path`, which the file `within` includes. -/
  | notFound (path : String) (within : Option String)
  /-- The last of the files `chain`, each included by the one before it, includes `path` again. -/
  | cycle (chain : List String) (path : String)
  deriving DecidableEq, Inhabited

namespace Error

/-- The message of the error. -/
def message : Error → String
  | notFound path within =>
    "shader: include not found: " ++ Text.quoted path ++
      match within with
      | none => ""
      | some file => " (included from " ++ Text.quoted file ++ ")"
  | cycle chain path =>
    "shader: include cycle: " ++ " -> ".intercalate chain ++ " -> " ++ path

end Error

/-- A finite table of sources by virtual path. -/
structure Resolver where
  /-- The text at a path. -/
  source? : String → Option String
  /-- All paths that have a text, and possibly others. -/
  known : List String
  mem_known : ∀ path text, source? path = some text → path ∈ known

namespace Resolver

theorem mem_keys_of_lookup {files : List (String × String)} {path text : String}
    (h : files.lookup path = some text) : path ∈ files.map Prod.fst := by
  induction files with
  | nil => simp at h
  | cons f fs ih =>
    rw [List.lookup_cons] at h
    split at h
    · rename_i hp
      simp_all
    · simp [ih h]

/-- The resolver of a list of files. -/
def ofList (files : List (String × String)) : Resolver where
  source? path := files.lookup path
  known := files.map Prod.fst
  mem_known _ _ := mem_keys_of_lookup

/-- Asks `a` first and `b` for what `a` does not have. -/
def orElse (a b : Resolver) : Resolver where
  source? path := (a.source? path).or (b.source? path)
  known := a.known ++ b.known
  mem_known path text h := by
    rw [Option.or_eq_some_iff] at h
    rcases h with h | ⟨_, h⟩
    · exact List.mem_append_left _ (a.mem_known path text h)
    · exact List.mem_append_right _ (b.mem_known path text h)

end Resolver

/-! ## Expansion -/

/-- A part of an expanded text. -/
inductive Piece
  /-- A line that is no directive. -/
  | line (text : String)
  /-- The place where the file at `path` begins. -/
  | opened (path : String)
  /-- The line feed that the last line of a file lacks. -/
  | terminator
  /-- The place where the file at `path` ends. -/
  | closed (path : String)
  deriving DecidableEq, Inhabited

namespace Piece

/-- The text of a piece. -/
def render : Piece → String
  | line text => text
  | opened path => "// begin include \"" ++ VirtualPath.display path ++ "\"\n"
  | terminator => "\n"
  | closed path => "// end include \"" ++ VirtualPath.display path ++ "\"\n"

end Piece

/-- Runs `step` over a list with a running state and concatenates what it yields. -/
def flatMapAccum {α β σ ε : Type} (step : α → σ → Except ε (List β × σ)) :
    List α → σ → Except ε (List β × σ)
  | [], s => .ok ([], s)
  | a :: as, s =>
    match step a s with
    | .error e => .error e
    | .ok (bs, s) =>
      match flatMapAccum step as s with
      | .error e => .error e
      | .ok (cs, s) => .ok (bs ++ cs, s)

/-- Expands the text of the file that ends the chain `chain`; `done` are the paths expanded so far.
    The depth bounds the length of chains, see `expandPieces`. -/
def expandFile (r : Resolver) : (depth : Nat) → (chain : List String) → (text : String) →
    (done : List String) → Except Error (List Piece × List String)
  | 0, chain, _, _ => .error (.cycle chain (chain.getLast?.getD ""))
  | depth + 1, chain, text, done =>
    flatMapAccum (fun line done =>
      match path? line with
      | none => .ok ([.line line], done)
      | some path =>
        if path ∈ chain then .error (.cycle chain path)
        else if path ∈ done then .ok ([], done)
        else
          match r.source? path with
          | none => .error (.notFound path chain.getLast?)
          | some text =>
            match expandFile r depth (chain ++ [path]) text done with
            | .error e => .error e
            | .ok (pieces, done) =>
              let ending := if Text.isTerminated text then [] else [.terminator]
              .ok (.opened path :: pieces ++ ending ++ [.closed path], path :: done))
      (Text.lines text) done

/-- The pieces of the expansion of a text.  A chain of distinct resolvable paths is no longer than
    the list of known paths, so the depth is never used up. -/
def expandPieces (r : Resolver) (text : String) : Except Error (List Piece) :=
  (expandFile r (r.known.length + 1) [] text []).map Prod.fst

/-- Replaces every include directive of a text, recursively, by the file it names. -/
def expand (r : Resolver) (text : String) : Except Error String :=
  (expandPieces r text).map fun ps => String.join (ps.map Piece.render)

end KernelGraph.Include
