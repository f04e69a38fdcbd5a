import SiteSync.Text.Order

/-!
# `SiteSync.Tally`: what a deploy has done so far

The counters of a deploy, and the line that sums them up. They count
modulo 2^64.
-/

set_option autoImplicit false

namespace SiteSync

/-- The counters of a deploy. -/
structure Tally where
  /-- The objects deleted. -/
  deleted : UInt64 := 0
  /-- The objects that were to be deleted and were not. -/
  stale : UInt64 := 0
  /-- The files uploaded. -/
  uploaded : UInt64 := 0
  /-- The files whose objects are the same. -/
  skipped : UInt64 := 0
deriving Repr, DecidableEq

namespace Tally

/-- Counts deleted objects. -/
def addDeleted (n : UInt64) (t : Tally) : Tally := { t with deleted := t.deleted + n }

/-- Counts objects that were left. -/
def addStale (n : UInt64) (t : Tally) : Tally := { t with stale := t.stale + n }

/-- Counts uploaded files. -/
def addUploaded (n : UInt64) (t : Tally) : Tally := { t with uploaded := t.uploaded + n }

/-- Counts skipped files. -/
def addSkipped (n : UInt64) (t : Tally) : Tally := { t with skipped := t.skipped + n }

/-- The number of objects that were changed. -/
def changed (t : Tally) : UInt64 := t.deleted + t.uploaded

/-- The number of files and objects that were looked at. -/
def total (t : Tally) : UInt64 := t.changed + t.skipped

/-- The share of what was changed, in percent. -/
def percentage (t : Tally) : Float :=
  if t.total = 0 then 0 else t.changed.toFloat / t.total.toFloat * 100

/-! ### The percentage as a whole number -/

/-- The nearest integer to a fraction; a tie goes to the even
neighbour. -/
def roundDiv (num den : Nat) : Nat :=
  let q := num / den
  let twice := 2 * (num % den)
  if twice < den ∨ (twice = den ∧ q % 2 = 0) then q else q + 1

/-- The nearest integer to a double that is finite and not negative. Its
bits hold a mantissa of 52 bits, to which a leading one belongs unless
the exponent is zero, and the exponent, which counts from -1075. -/
def wholeOfBits (bits : UInt64) : Nat :=
  let leadingOne := 0x10000000000000
  let fraction := bits.toNat % leadingOne
  let exponent := bits.toNat / leadingOne % 0x800
  let mantissa := if exponent = 0 then fraction else fraction + leadingOne
  let exponent := max exponent 1
  if 1075 ≤ exponent then mantissa <<< (exponent - 1075)
  else roundDiv mantissa (1 <<< (1075 - exponent))

/-- The line that sums up a deploy. -/
def summary (t : Tally) : String :=
  "Deleted " ++ toString t.deleted.toNat ++ " of " ++ toString (t.deleted + t.stale).toNat ++
    ", uploaded " ++ toString t.uploaded.toNat ++ ", skipped " ++ toString t.skipped.toNat ++
    " (" ++ toString (wholeOfBits t.percentage.toBits) ++ "% changed)"

end Tally

/-- The keys of what was changed, the latest first. -/
abbrev ChangedKeys := List Text

namespace ChangedKeys

/-- Adds a key. -/
def track (key : Text) (c : ChangedKeys) : ChangedKeys := key :: c

/-- Adds some keys. -/
def trackAll (keys : List Text) (c : ChangedKeys) : ChangedKeys := keys.reverse ++ c

/-- The keys in byte order; a key that was changed twice comes twice. -/
def sorted (c : ChangedKeys) : List Text := Text.sort c

end ChangedKeys

end SiteSync
