import SiteSync.Text.Basic

/-!
# `SiteSync.Digest.Hex`: bytes in hexadecimal
-/

set_option autoImplicit false

namespace SiteSync.Digest

/-- The hexadecimal digit of a number below sixteen. -/
def hexDigit (n : Nat) : Char := "0123456789abcdef".toList.getD n '0'

/-- Two hexadecimal digits for every byte. -/
def hex (bs : Bytes) : Text :=
  bs.flatMap fun b => [hexDigit (b.toNat / 16), hexDigit (b.toNat % 16)]

end SiteSync.Digest
