import SiteSync.Gzip.Symbol

/-!
# `SiteSync.Gzip.Deflate`: compressed blocks

The bytes are written as one block with the fixed code, or as they are
in blocks without compression where that is shorter.
-/

set_option autoImplicit false

namespace SiteSync.Gzip

/-! ### Bits -/

/-- Bits that are being written: the full bytes, latest first, and the
bits of the byte that is not full yet. -/
structure BitWriter where
  /-- The full bytes, latest first. -/
  bytes : List UInt8 := []
  /-- The bits since the last full byte, as a number. -/
  hold : Nat := 0
  /-- How many bits these are. -/
  count : Nat := 0

namespace BitWriter

/-- Moves full bytes out of the held bits. -/
def flushBytes : Nat → BitWriter → BitWriter
  | 0, w => w
  | fuel + 1, w =>
    if w.count < 8 then w
    else flushBytes fuel ⟨w.hold.toUInt8 :: w.bytes, w.hold / 256, w.count - 8⟩

/-- Writes the `n` lowest bits of a number, the lowest first. -/
def write (n value : Nat) (w : BitWriter) : BitWriter :=
  flushBytes (w.count + n) ⟨w.bytes, w.hold + (value % (1 <<< n)) <<< w.count, w.count + n⟩

/-- The `n` lowest bits of a number in the opposite order. -/
def reversed : Nat → Nat → Nat
  | 0, _ => 0
  | n + 1, value => (value % 2) <<< n + reversed n (value / 2)

/-- Writes a code of `n` bits, the highest first. -/
def writeCode (n code : Nat) (w : BitWriter) : BitWriter := w.write n (reversed n code)

/-- The bytes written; the last one is filled with zeros. -/
def finish (w : BitWriter) : Bytes :=
  (if w.count = 0 then w.bytes else w.hold.toUInt8 :: w.bytes).reverse

end BitWriter

/-! ### The fixed code -/

/-- Writes a symbol in the fixed code. -/
def writeSymbol (symbol : Nat) (w : BitWriter) : BitWriter :=
  if symbol < 144 then w.writeCode 8 (0x30 + symbol)
  else if symbol < 256 then w.writeCode 9 (0x190 + (symbol - 144))
  else if symbol < 280 then w.writeCode 7 (symbol - 256)
  else w.writeCode 8 (0xc0 + (symbol - 280))

/-- Writes a token in the fixed code. -/
def writeToken (w : BitWriter) : Token → BitWriter
  | .literal b => writeSymbol b.toNat w
  | .copy length distance =>
    let l := spanOf lengthSpans length
    let ls := lengthSpans.getD l ⟨0, 0⟩
    let d := spanOf distanceSpans distance
    let ds := distanceSpans.getD d ⟨0, 0⟩
    let w := (writeSymbol (firstLength + l) w).write ls.extra (length - ls.base)
    (w.writeCode 5 d).write ds.extra (distance - ds.base)

/-- One block with the fixed code: the bit that says it is the last, the
two bits of its kind, and the symbols. -/
def fixedBlock (bs : Bytes) : Bytes :=
  let start := ((({} : BitWriter).write 1 1).write 2 1)
  (writeSymbol endOfBlock ((Token.ofBytes bs.toArray).foldl writeToken start)).finish

/-! ### Blocks without compression -/

/-- The greatest number of bytes in a block without compression. -/
def maxStored : Nat := 65535

/-- A block without compression: its kind, its length, the complement of
that, and the bytes. -/
def storedBlock (last : Bool) (bs : Bytes) : Bytes :=
  let n := bs.length
  let m := maxStored - n
  [if last then 1 else 0, n.toUInt8, (n / 256).toUInt8, m.toUInt8, (m / 256).toUInt8] ++ bs

/-- Blocks without compression. -/
def storedBlocks : Nat → Bytes → Bytes
  | 0, bs => storedBlock true bs
  | fuel + 1, bs =>
    if bs.length ≤ maxStored then storedBlock true bs
    else storedBlock false (bs.take maxStored) ++ storedBlocks fuel (bs.drop maxStored)

/-- Compressed bytes. -/
def deflate (bs : Bytes) : Bytes :=
  let fixed := fixedBlock bs
  let stored := storedBlocks (bs.length / maxStored + 1) bs
  if stored.length < fixed.length then stored else fixed

end SiteSync.Gzip
