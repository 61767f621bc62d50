/-
  Auxiliary sources that kernels depend on.

  Sources live in a pool and name the sources they depend on by number.  `Pool.gather` lists the
  sources that a kernel needs, dependencies before dependents and every virtual path once.
-/

namespace KernelGraph

/-- An auxiliary source file.  A dependency that is `none` is an empty entry. -/
structure Source where
  path : String
  text : String
  dependencies : List (Option Nat) := []
  deriving DecidableEq, Repr, Inhabited

/-- Sources by number. -/
abbrev SourcePool := Array Source

namespace SourcePool

/-- The sources listed so far and the paths seen so far. -/
structure Gathered where
  sources : List Source := []
  seen : List String := []

/-- Adds the sources that the entries need.  A source is marked as seen before its dependencies are
    visited, so every nesting level sees a new path and the depth bounds the levels. -/
def gatherAux (pool : SourcePool) : (depth : Nat) → List (Option Nat) → Gathered → Gathered
  | 0, _, g => g
  | depth + 1, roots, g =>
    roots.foldl (fun g root =>
      match root.bind (pool[·]?) with
      | none => g
      | some s =>
        if s.path ∈ g.seen then g
        else
          let g := gatherAux pool depth s.dependencies { g with seen := s.path :: g.seen }
          { g with sources := g.sources ++ [s] }) g

/-- The sources that the roots need: dependencies first, each path once.  Every level of nesting
    marks a path of the pool, so as many levels as sources and one more suffice. -/
def gather (pool : SourcePool) (roots : List (Option Nat)) : List Source :=
  (gatherAux pool (pool.size + 1) roots {}).sources

end SourcePool

end KernelGraph
