import SiteSync.Gzip.Token

/-!
# `SiteSync.Gzip.Symbol`: the alphabet of compressed blocks

A block is written in symbols: a byte, the end of the block, or the
length of a copy, which is followed by a symbol for its distance.
Lengths and distances fall into ranges; the symbol tells the range, and
some extra bits tell the place in it.
-/

set_option autoImplicit false

namespace SiteSync.Gzip

/-- A range of lengths or distances: the least of them, and the number
of bits that tell them apart. -/
structure Span where
  /-- The least value. -/
  base : Nat
  /-- The number of extra bits. -/
  extra : Nat
deriving Repr, DecidableEq

/-- The ranges that start at `base` and have the given numbers of extra
bits. -/
def consecutive : Nat → List Nat → List Span
  | _, [] => []
  | base, extra :: more => ⟨base, extra⟩ :: consecutive (base + 1 <<< extra) more

/-- The ranges of the lengths of copies; the greatest length has one of
its own. -/
def lengthSpans : Array Span :=
  ((consecutive 3 [0, 0, 0, 0, 0, 0, 0, 0, 1, 1, 1, 1, 2, 2, 2, 2, 3, 3, 3, 3, 4, 4, 4, 4,
    5, 5, 5, 5]) ++ [Span.mk 258 0]).toArray

/-- The ranges of the distances of copies. -/
def distanceSpans : Array Span :=
  (consecutive 1 [0, 0, 0, 0, 1, 1, 2, 2, 3, 3, 4, 4, 5, 5, 6, 6, 7, 7, 8, 8, 9, 9, 10, 10,
    11, 11, 12, 12, 13, 13]).toArray

/-- The symbol that ends a block. -/
def endOfBlock : Nat := 256

/-- The symbol of the first range of lengths. -/
def firstLength : Nat := 257

/-- The number of the last range that starts at or below a value. -/
def spanOf (spans : Array Span) (value : Nat) : Nat :=
  (spans.filter fun s => s.base ≤ value).size - 1

/-- How many bits each symbol takes in a block with the fixed code. -/
def fixedLengths : List Nat :=
  List.replicate 144 8 ++ List.replicate 112 9 ++ List.replicate 24 7 ++ List.replicate 8 8

/-- How many bits the symbol of each range of distances takes there. -/
def fixedDistanceLengths : List Nat := List.replicate 30 5

end SiteSync.Gzip
