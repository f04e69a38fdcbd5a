/-!
# `SiteSync.Unicode.RangeTable`: sets of characters written as ranges

The tables of character properties are texts such as `41-5A 61-7A AA`:
code points in hexadecimal, a range written with a dash. This module
reads them.
-/

set_option autoImplicit false

namespace SiteSync.Unicode

/-- A set of code points: inclusive ranges. -/
abbrev Ranges := List (Nat × Nat)

/-- A set of characters under the names it is asked for, which stand
apart by spaces, in small letters and without separators. -/
structure NamedRanges where
  /-- The names of the set. -/
  names : String
  /-- The ranges of the set. -/
  ranges : String

/-- The value of a hexadecimal digit. -/
def hexValue? (c : Char) : Option Nat :=
  if '0' ≤ c ∧ c ≤ '9' then some (c.toNat - '0'.toNat)
  else if 'a' ≤ c ∧ c ≤ 'f' then some (c.toNat - 'a'.toNat + 10)
  else if 'A' ≤ c ∧ c ≤ 'F' then some (c.toNat - 'A'.toNat + 10)
  else none

/-- The number that hexadecimal digits write; other characters are
passed over. -/
def hexNumber (ds : List Char) : Nat :=
  ds.foldl (fun n d => match hexValue? d with | some v => 16 * n + v | none => n) 0

/-- Whether a character stands between the entries of a table. -/
def isGap (c : Char) : Bool := c == ' ' || c == '\n'

/-- The pieces of a text between spaces and line ends, empty ones
dropped. -/
def words : List Char → List (List Char)
  | [] => []
  | c :: cs =>
    if isGap c then words cs
    else
      match cs with
      | [] => [[c]]
      | d :: _ =>
        if isGap d then [c] :: words cs
        else
          match words cs with
          | [] => [[c]]
          | w :: ws => (c :: w) :: ws

/-- Reads one code point or range. -/
def decodeRange (w : List Char) : Nat × Nat :=
  let first := w.takeWhile (· != '-')
  match w.dropWhile (· != '-') with
  | [] => (hexNumber first, hexNumber first)
  | _ :: last => (hexNumber first, hexNumber last)

/-- Reads a table of ranges. -/
def decodeRanges (s : String) : Ranges := (words s.toList).map decodeRange

/-- Whether a code point lies in one of the ranges. -/
def inRanges (rs : Ranges) (n : Nat) : Bool := rs.any fun r => r.1 ≤ n && n ≤ r.2

/-- The ranges of the set with the given name. -/
def find? (table : List NamedRanges) (name : List Char) : Option Ranges :=
  (table.find? fun e => (words e.names.toList).contains name).map fun e => decodeRanges e.ranges

/-- The ranges of the set with the given name, none if there is no such
set. -/
def named (table : List NamedRanges) (name : String) : Ranges :=
  (find? table name.toList).getD []

/-- Reads lists of code points that stand apart by commas. -/
def decodeOrbits (s : String) : List (List Nat) :=
  (words s.toList).foldr
    (fun w acc =>
      if w = [','] then [] :: acc
      else
        match acc with
        | [] => [[hexNumber w]]
        | o :: os => (hexNumber w :: o) :: os)
    []

end SiteSync.Unicode
