import SiteSync.Text.Basic

/-!
# `SiteSync.Cdn.Escape`: percent escapes in invalidation paths

Letters, digits and `$-_.+!*'(),/:@=&` stand for themselves; every byte
of any other character is written as `%` and two capital hexadecimal
digits.
-/

set_option autoImplicit false

namespace SiteSync.Cdn

/-- The marks that need no escape. -/
def plainMarks : List Char :=
  ['$', '-', '_', '.', '+', '!', '*', '\'', '(', ')', ',', '/', ':', '@', '=', '&']

/-- Whether a character stands for itself in an escaped path. -/
def isPlain (c : Char) : Bool := c.isAlphanum || plainMarks.contains c

/-- The capital hexadecimal digit of a number below sixteen. -/
def hexDigit (n : Nat) : Char :=
  if n < 10 then Char.ofNat ('0'.toNat + n) else Char.ofNat ('A'.toNat + (n - 10))

/-- A byte as `%` and two digits. -/
def escapeByte (b : UInt8) : Text := ['%', hexDigit (b.toNat / 16), hexDigit (b.toNat % 16)]

/-- The escaped form of one character. -/
def escapeChar (c : Char) : Text :=
  if isPlain c then [c] else (String.utf8EncodeChar c).flatMap escapeByte

/-- The escaped form of a path. -/
def escape (path : Text) : Text := path.flatMap escapeChar

end SiteSync.Cdn
