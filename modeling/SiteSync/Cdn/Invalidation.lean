import SiteSync.Path
import SiteSync.Text.Order

/-!
# `SiteSync.Cdn.Invalidation`: from changed paths to invalidation patterns

A distribution is asked to forget at most a handful of patterns. Few
changed paths are listed one by one. Many are replaced by wildcards on
their directories, deepest first, until the list fits the threshold; a
list that never fits becomes the wildcard on the web root.
-/

set_option autoImplicit false

namespace SiteSync.Cdn

/-- How many patterns one invalidation request may hold. -/
def defaultThreshold : Nat := 8

/-- The name of the page that is served for its directory. -/
def indexPage : Text := ['i', 'n', 'd', 'e', 'x', '.', 'h', 't', 'm', 'l']

/-- The wildcard on everything under a web root. -/
def rootWildcard (root : Text) : Text :=
  Text.trimEnd Path.isSlash (Path.rooted root) ++ ['/', '*']

/-- A changed path, cleaned, with a leading slash. -/
def cleaned (p : Text) : Text := Path.rooted (Path.clean p)

/-- The pattern of one changed path: the cleaned path, and for a page
that is served for its directory that directory. -/
def exactPattern (p : Text) : Text :=
  let p := cleaned p
  if Path.baseName p = indexPage then Path.asDirectory (Path.parent p) else p

/-- The exact patterns of the changed paths. -/
def exactPatterns (paths : List Text) : List Text := Text.sortedSet (paths.map exactPattern)

/-- Replaces a path by a wildcard on one of its ancestors: of the `n`
segments of its directory the first `n + 1 - level` are kept, at least
one and at most all. -/
def collapse (level : Nat) (p : Text) : Text :=
  let parts := Path.segments (Text.trimStart Path.isSlash (Path.parent p))
  let keep := min (max (parts.length + 1 - level) 1) parts.length
  '/' :: Path.ofSegments (parts.take keep) ++ ['/', '*']

/-- Collapses the patterns that have more than `level` slashes. -/
def collapseDeeper (level : Nat) (patterns : List Text) : List Text :=
  Text.sortedSet (patterns.map fun p => if level < Path.depth p then collapse level p else p)

/-- Collapses at `level`, `level - 1`, … down to one, and stops as soon
as the list fits. -/
def collapseUntilFits (threshold : Nat) : Nat → List Text → List Text
  | 0, patterns => patterns
  | level + 1, patterns =>
    let collapsed := collapseDeeper (level + 1) patterns
    if collapsed.length ≤ threshold then collapsed
    else collapseUntilFits threshold level collapsed

/-- The greatest number of slashes among the cleaned paths. -/
def maxDepth (paths : List Text) : Nat :=
  paths.foldl (fun d p => max d (Path.depth (cleaned p))) 0

/-- The patterns of one invalidation, and how many there were when not
even the last collapse fitted. -/
structure Reduction where
  /-- The patterns to invalidate, in byte order. -/
  patterns : List Text
  /-- The number of patterns left over by the last collapse, where that
  was still above the threshold. -/
  exceeding : Option Nat := none
deriving Repr, DecidableEq

/-- Reduces the changed paths under `root` to at most `threshold`
patterns, or to the wildcard on the root: always if `force` is set, if
no collapse fits, and if that wildcard is among the patterns anyway. -/
def reduce (root : Text) (threshold : Nat) (force : Bool) (paths : List Text) : Reduction :=
  let all := rootWildcard root
  if force then ⟨[all], none⟩
  else
    let exact := exactPatterns paths
    let fitted :=
      if exact.length ≤ threshold then exact
      else collapseUntilFits threshold (maxDepth paths) exact
    -- The wildcard on the root makes all other patterns needless.
    if threshold < fitted.length then ⟨[all], some fitted.length⟩
    else if fitted.contains all then ⟨[all], none⟩
    else ⟨fitted, none⟩

/-- The patterns of a reduction. -/
def invalidationPatterns (root : Text) (threshold : Nat) (force : Bool)
    (paths : List Text) : List Text :=
  (reduce root threshold force paths).patterns

end SiteSync.Cdn
