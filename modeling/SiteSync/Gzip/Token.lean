import Std.Data.HashMap
import SiteSync.Text.Basic

/-!
# `SiteSync.Gzip.Token`: repetitions in a sequence of bytes

Compression writes a byte either as itself or, together with the bytes
after it, as a copy of earlier bytes. `Token.ofBytes` finds the copies
greedily, among the latest places where the same three bytes stood.
-/

set_option autoImplicit false

namespace SiteSync.Gzip

/-- A byte or a copy of earlier bytes. -/
inductive Token where
  /-- A byte. -/
  | literal (byte : UInt8)
  /-- `length` bytes as they stand `distance` bytes before. -/
  | copy (length distance : Nat)
deriving Repr, DecidableEq

/-- The least number of bytes that is worth a copy. -/
def minCopy : Nat := 3

/-- The greatest number of bytes in one copy. -/
def maxCopy : Nat := 258

/-- How far back a copy may reach. -/
def window : Nat := 32768

namespace Token

/-- The byte at a place. -/
def byteAt (bs : Array UInt8) (i : Nat) : UInt8 := bs.getD i 0

/-- The three bytes at a place as one number. -/
def key (bs : Array UInt8) (i : Nat) : Nat :=
  (byteAt bs i).toNat * 65536 + (byteAt bs (i + 1)).toNat * 256 + (byteAt bs (i + 2)).toNat

/-- How many of the bytes at `i` and `j` agree, at most `limit`. -/
def agreement (bs : Array UInt8) : Nat → Nat → Nat → Nat
  | 0, _, _ => 0
  | limit + 1, i, j =>
    if byteAt bs i == byteAt bs j then agreement bs limit (i + 1) (j + 1) + 1 else 0

/-- The latest place of every three bytes. -/
abbrev Places : Type := Std.HashMap Nat Nat

/-- Remembers the `n` places from `i` on. -/
def remember (bs : Array UInt8) : Nat → Nat → Places → Places
  | 0, _, places => places
  | n + 1, i, places => remember bs n (i + 1) (places.insert (key bs i) i)

/-- The copy that the bytes at `i` can be written as, if it is long
enough. -/
def copy? (bs : Array UInt8) (places : Places) (i : Nat) : Option Token :=
  if bs.size < i + minCopy then none
  else
    match places[key bs i]? with
    | none => none
    | some j =>
      let length := agreement bs (min maxCopy (bs.size - i)) j i
      if minCopy ≤ length ∧ j < i ∧ i - j ≤ window then some (.copy length (i - j)) else none

/-- The number of bytes that a token stands for. -/
def length : Token → Nat
  | literal _ => 1
  | copy n _ => n

/-- The tokens of the bytes from `i` on, behind those found before,
which are given latest first. -/
def collect (bs : Array UInt8) : Nat → Nat → Places → List Token → List Token
  | 0, _, _, found => found.reverse
  | fuel + 1, i, places, found =>
    if i < bs.size then
      let token := (copy? bs places i).getD (.literal (byteAt bs i))
      collect bs fuel (i + token.length) (remember bs token.length i places) (token :: found)
    else found.reverse

/-- The tokens of a sequence of bytes. -/
def ofBytes (bs : Array UInt8) : List Token := collect bs bs.size 0 {} []

end Token

end SiteSync.Gzip
