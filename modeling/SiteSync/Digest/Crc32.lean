import SiteSync.Text.Basic

/-!
# `SiteSync.Digest.Crc32`: the checksum of compressed files
-/

set_option autoImplicit false

namespace SiteSync.Digest.Crc32

/-- Divides by the generator once for each of the `n` lowest bits. -/
def reduce : Nat → UInt32 → UInt32
  | 0, r => r
  | n + 1, r => reduce n (if r &&& 1 = 1 then (r >>> 1) ^^^ 0xedb88320 else r >>> 1)

/-- The remainders of all bytes. -/
def table : Array UInt32 := ((List.range 256).map fun b => reduce 8 b.toUInt32).toArray

/-- Takes one more byte in. -/
def push (r : UInt32) (b : UInt8) : UInt32 :=
  (r >>> 8) ^^^ table.getD ((r ^^^ b.toUInt32) &&& 0xff).toNat 0

/-- The checksum of a message. -/
def checksum (message : Bytes) : UInt32 := ~~~(message.foldl push 0xffffffff)

end SiteSync.Digest.Crc32
