import SiteSync.Pattern.Expr

/-!
# `SiteSync.Pattern.Size`: how large a compiled pattern is

A pattern is refused when the automaton it stands for would take more
than `sizeLimit` bytes. The automaton reads the bytes of UTF-8 encoded
text; a repetition is written out, one copy of its body after the other,
so counted repetitions multiply.

A state takes 32 bytes, each way out of a choice 4, each range of a
choice between single bytes 8.
-/

set_option autoImplicit false

namespace SiteSync.Pattern

/-- The greatest size of a compiled pattern, in bytes. -/
def sizeLimit : Nat := 10 * 1024 * 1024

/-! ### Classes as sequences of byte ranges -/

/-- The code points whose encodings have the same number of bytes. -/
def encodedLengths : List (Nat × Nat) :=
  [(0, 0x7F), (0x80, 0x7FF), (0x800, 0xD7FF), (0xE000, 0xFFFF), (0x10000, 0x10FFFF)]

/-- The UTF-8 encoding of a code point. -/
def utf8 (n : Nat) : List Nat := (String.utf8EncodeChar (Char.ofNat n)).map UInt8.toNat

/-- Splits a range of code points of one encoded length into ranges
whose encodings are the combinations of one range for each byte. -/
def alignedRanges : Nat → Nat × Nat → List (Nat × Nat)
  | 0, r => [r]
  | fuel + 1, (lo, hi) =>
    let splitAt (m : Nat) : Option (Nat × Nat) :=
      if lo / (m + 1) = hi / (m + 1) then none
      else if lo % (m + 1) ≠ 0 then
        some (lo - lo % (m + 1) + m, lo - lo % (m + 1) + (m + 1))
      else if hi % (m + 1) ≠ m then
        some (hi - hi % (m + 1) - 1, hi - hi % (m + 1))
      else none
    match if hi < 0x80 then none else splitAt 0x3F <|> splitAt 0xFFF <|> splitAt 0x3FFFF with
    | some (last, next) => alignedRanges fuel (lo, last) ++ alignedRanges fuel (next, hi)
    | none => [(lo, hi)]

/-- The sequences of byte ranges that encode the members of a class. -/
def byteSequences (rs : List (Nat × Nat)) : List (List (Nat × Nat)) :=
  rs.flatMap fun r =>
    encodedLengths.flatMap fun e =>
      let lo := max r.1 e.1
      let hi := min r.2 e.2
      if hi < lo then []
      else (alignedRanges 8 (lo, hi)).map fun s => (utf8 s.1).zip (utf8 s.2)

/-- How many states a list of sorted sequences needs when sequences
share what they start with. -/
def sharedStates : List (Nat × Nat) → List (List (Nat × Nat)) → Nat
  | _, [] => 0
  | before, s :: ss =>
    let shared := ((before.zip s).takeWhile fun p => p.1 == p.2).length
    (s.length - shared) + sharedStates s ss

/-- The size of the states of a class. -/
def classSize (c : CharClass) : Nat :=
  let rs := c.toRanges
  if rs.all fun r => r.2 < 128 then
    match rs with
    | [_] => 32
    | rs => 64 + 8 * rs.length
  else
    let seqs := byteSequences rs
    match seqs with
    | [s] => 32 * s.length
    | seqs => 64 + 4 * seqs.length + 32 * sharedStates [] seqs

/-! ### Expressions -/

/-- Whether an expression can match nothing, wherever it stands. -/
def Expr.mayBeEmpty : Expr → Bool
  | .empty => true
  | .set _ => false
  | .anchor _ => true
  | .seq a b => mayBeEmpty a && mayBeEmpty b
  | .alt a b => mayBeEmpty a || mayBeEmpty b
  | .repeated min _ e => min == 0 || mayBeEmpty e

/-- The size of the states of an expression. -/
def Expr.size : Expr → Nat
  | .empty => 32
  | .set c => classSize c
  | .anchor _ => 32
  | .seq a b => size a + size b
  | .alt a b => size a + size b + 72
  | .repeated min max e =>
    let body := size e
    match max with
    | none =>
      if min = 0 then body + (if e.mayBeEmpty then 112 else 40) else min * body + 40
    | some m =>
      if m = min then if m = 0 then 32 else m * body
      else min * body + 32 + (m - min) * (body + 40)

/-- Whether an expression is too large to be compiled; around it stand a
start, an end, a search prefix and a match. -/
def Expr.isTooLarge (e : Expr) : Bool := decide (sizeLimit < e.size + 200)

end SiteSync.Pattern
