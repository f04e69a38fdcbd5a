import SiteSync.Unicode.CaseFolding

/-!
# `SiteSync.Pattern.CharClass`: sets of characters

A class is an expression over ranges: unions, intersections, negations
and closures under change of case. It is never flattened; membership is
read off the expression, so each operation means what its set-theoretic
name says (`contains_negate`, `contains_inter`, …).
-/

set_option autoImplicit false

namespace SiteSync.Pattern

/-- An expression for a set of code points. -/
inductive CharClass where
  /-- No code point. -/
  | none
  /-- The code points from `lo` to `hi`, both included. -/
  | range (lo hi : Nat)
  /-- The code points in one of the ranges. -/
  | ranges (rs : List (Nat × Nat))
  /-- The members of either class. -/
  | union (a b : CharClass)
  /-- The members of both classes. -/
  | inter (a b : CharClass)
  /-- The members of the first class that are not in the second. -/
  | diff (a b : CharClass)
  /-- The members of exactly one of the classes. -/
  | symmDiff (a b : CharClass)
  /-- Everything else. -/
  | negate (a : CharClass)
  /-- The members and what differs from them only in case. -/
  | foldCase (a : CharClass)
  /-- The members and what differs from them only in the case of an
  ASCII letter. -/
  | foldAscii (a : CharClass)
deriving Repr, DecidableEq

namespace CharClass

/-- The class of one code point. -/
def single (n : Nat) : CharClass := .range n n

/-- The class of one character. -/
def ofChar (c : Char) : CharClass := single c.toNat

/-- The code points that differ from `n` at most in the case of an ASCII
letter. -/
def asciiOrbit (n : Nat) : List Nat :=
  if 65 ≤ n ∧ n ≤ 90 then [n, n + 32]
  else if 97 ≤ n ∧ n ≤ 122 then [n, n - 32]
  else [n]

/-- Membership in a class. -/
def contains : CharClass → Nat → Bool
  | .none, _ => false
  | .range lo hi, n => lo ≤ n && n ≤ hi
  | .ranges rs, n => Unicode.inRanges rs n
  | .union a b, n => contains a n || contains b n
  | .inter a b, n => contains a n && contains b n
  | .diff a b, n => contains a n && !contains b n
  | .symmDiff a b, n => contains a n != contains b n
  | .negate a, n => !contains a n
  | .foldCase a, n => (Unicode.orbit n).any fun m => contains a m
  | .foldAscii a, n => (asciiOrbit n).any fun m => contains a m

/-- What is in a negated class is not in the class. -/
@[simp] theorem contains_negate (a : CharClass) (n : Nat) :
    (negate a).contains n = !a.contains n := rfl

/-- What is in a union is in either class. -/
@[simp] theorem contains_union (a b : CharClass) (n : Nat) :
    (union a b).contains n = (a.contains n || b.contains n) := rfl

/-- What is in an intersection is in both classes. -/
@[simp] theorem contains_inter (a b : CharClass) (n : Nat) :
    (inter a b).contains n = (a.contains n && b.contains n) := rfl

/-- The class of one code point contains that one only. -/
@[simp] theorem contains_single (m n : Nat) : (single m).contains n = decide (n = m) := by
  simp only [single, contains]
  by_cases h : n = m
  · simp [h]
  · simp only [h, decide_false, Bool.and_eq_false_iff, decide_eq_false_iff_not]
    omega

/-- The code points at which membership may change: where a range begins
and just behind its end. -/
def borders : CharClass → List Nat
  | .none => []
  | .range lo hi => [lo, hi + 1]
  | .ranges rs => rs.flatMap fun r => [r.1, r.2 + 1]
  | .union a b | .inter a b | .diff a b | .symmDiff a b => borders a ++ borders b
  | .negate a => borders a
  | .foldCase a => Unicode.caseOrbits.flatten.flatMap (fun n => [n, n + 1]) ++ borders a
  | .foldAscii a => [65, 91, 97, 123] ++ borders a

/-- The last code point. -/
def lastCodePoint : Nat := 0x10FFFF

/-- The maximal ranges that consist of members. -/
def toRanges (a : CharClass) : List (Nat × Nat) :=
  let starts := ((0 :: 0xD800 :: 0xE000 :: borders a).filter (· ≤ lastCodePoint)).mergeSort
  let ends := (starts.drop 1).map (· - 1) ++ [lastCodePoint]
  (starts.zip ends).foldr
    (fun piece acc =>
      if piece.2 < piece.1 || (0xD800 ≤ piece.1 && piece.1 ≤ 0xDFFF) || !a.contains piece.1 then acc
      else
        match acc with
        | [] => [piece]
        | next :: rest =>
          if next.1 = piece.2 + 1 || (piece.2 = 0xD7FF && next.1 = 0xE000) then
            (piece.1, next.2) :: rest
          else piece :: acc)
    []

end CharClass

end SiteSync.Pattern
