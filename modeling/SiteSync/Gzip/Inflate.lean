import SiteSync.Gzip.Symbol

/-!
# `SiteSync.Gzip.Inflate`: reading compressed blocks

A block has a kind: bytes as they are, symbols in the fixed code, or
symbols in a code that the block describes first. A code is given by the
number of bits of every symbol; codes of one length are consecutive
numbers in the order of their symbols.
-/

set_option autoImplicit false

namespace SiteSync.Gzip

/-- Bits that are being read: the bytes ahead and the bits of the
current byte that are left. -/
structure BitReader where
  /-- The bytes ahead. -/
  bytes : Bytes
  /-- The bits left of the current byte, as a number. -/
  hold : Nat := 0
  /-- How many bits these are. -/
  count : Nat := 0

namespace BitReader

/-- The next bit. -/
def bit? (r : BitReader) : Option (Nat × BitReader) :=
  if r.count = 0 then
    match r.bytes with
    | [] => none
    | b :: bs => some (b.toNat % 2, ⟨bs, b.toNat / 2, 7⟩)
  else some (r.hold % 2, ⟨r.bytes, r.hold / 2, r.count - 1⟩)

/-- The next `n` bits as a number, the lowest first. -/
def bits? : Nat → BitReader → Option (Nat × BitReader)
  | 0, r => some (0, r)
  | n + 1, r => do
    let (b, r) ← r.bit?
    let (more, r) ← bits? n r
    pure (b + 2 * more, r)

end BitReader

/-! ### Codes -/

/-- A code: how many symbols have one, two, … bits, and the symbols in
the order of their codes. -/
structure Code where
  /-- The number of symbols of each length, from one bit on. -/
  counts : List Nat
  /-- The symbols in the order of their codes. -/
  symbols : Array Nat

namespace Code

/-- The greatest number of bits of a code. -/
def maxBits : Nat := 15

/-- The symbols of a length. -/
def symbolsOf (lengths : List Nat) (length : Nat) : List Nat :=
  (lengths.zipIdx.filter fun e => e.1 == length).map Prod.snd

/-- The code with the given numbers of bits, where zero is for symbols
that do not occur. -/
def ofLengths (lengths : List Nat) : Code :=
  let groups := (List.range maxBits).map fun n => symbolsOf lengths (n + 1)
  ⟨groups.map List.length, groups.flatten.toArray⟩

/-- How many codes of the greatest length are left over. -/
def left (c : Code) : Int := c.counts.foldl (fun (left : Int) (n : Nat) => 2 * left - n) 1

/-- Whether all codes are used, or there is only one, of one bit. -/
def isComplete (c : Code) : Bool := c.left == 0 || (0 < c.left && c.symbols.size ≤ 1)

/-- Reads bits until they are a code. `code` is the number read so far,
`first` the first code of the current length, and `index` the number of
symbols with shorter codes. -/
def search (symbols : Array Nat) : List Nat → Nat → Nat → Nat → BitReader →
    Option (Nat × BitReader)
  | [], _, _, _, _ => none
  | n :: counts, code, first, index, r => do
    let (b, r) ← r.bit?
    let code := code + b
    if code < first + n then
      let symbol ← symbols[index + (code - first)]?
      pure (symbol, r)
    else search symbols counts (2 * code) (2 * (first + n)) (index + n) r

/-- The next symbol. -/
def next? (c : Code) (r : BitReader) : Option (Nat × BitReader) :=
  search c.symbols c.counts 0 0 0 r

end Code

/-- The codes of a block: for bytes and lengths, and for distances. -/
structure Codes where
  /-- The code for bytes, the end of the block, and lengths. -/
  main : Code
  /-- The code for distances. -/
  distance : Code

/-- The fixed codes. -/
def Codes.fixed : Codes := ⟨.ofLengths fixedLengths, .ofLengths fixedDistanceLengths⟩

/-! ### The description of a code -/

/-- The order in which the lengths of the codes for lengths are
given. -/
def lengthOrder : List Nat :=
  [16, 17, 18, 0, 8, 7, 9, 6, 10, 5, 11, 4, 12, 3, 13, 2, 14, 1, 15]

/-- Reads the lengths of the codes for lengths. -/
def readLengthLengths : Nat → BitReader → Option (List Nat × BitReader)
  | 0, r => some ([], r)
  | n + 1, r => do
    let (l, r) ← r.bits? 3
    let (more, r) ← readLengthLengths n r
    pure (l :: more, r)

/-- Reads the lengths of `n` codes behind the `found` ones, which are
given latest first. -/
def readLengths (code : Code) (n : Nat) : Nat → List Nat → BitReader →
    Option (List Nat × BitReader)
  | 0, _, _ => none
  | fuel + 1, found, r =>
    if n ≤ found.length then
      if found.length = n then some (found.reverse, r) else none
    else do
      let (symbol, r) ← code.next? r
      if symbol < 16 then readLengths code n fuel (symbol :: found) r
      else if symbol = 16 then do
        let last ← found.head?
        let (times, r) ← r.bits? 2
        readLengths code n fuel (List.replicate (3 + times) last ++ found) r
      else if symbol = 17 then do
        let (times, r) ← r.bits? 3
        readLengths code n fuel (List.replicate (3 + times) 0 ++ found) r
      else do
        let (times, r) ← r.bits? 7
        readLengths code n fuel (List.replicate (11 + times) 0 ++ found) r

/-- Reads the description of the codes of a block. -/
def readCodes (r : BitReader) : Option (Codes × BitReader) := do
  let (nMain, r) ← r.bits? 5
  let (nDistance, r) ← r.bits? 5
  let (nLengths, r) ← r.bits? 4
  let (given, r) ← readLengthLengths (nLengths + 4) r
  let placed := lengthOrder.zip given
  let lengths := (List.range 19).map fun i => (placed.lookup i).getD 0
  let code := Code.ofLengths lengths
  if code.left != 0 || 29 < nMain || 29 < nDistance then none
  else
    let total := nMain + 257 + (nDistance + 1)
    let (all, r) ← readLengths code total (total + 1) [] r
    let main := Code.ofLengths (all.take (nMain + 257))
    let distance := Code.ofLengths (all.drop (nMain + 257))
    if main.isComplete && distance.isComplete then pure (⟨main, distance⟩, r) else none

/-! ### Blocks -/

/-- Repeats `length` bytes that stand `distance` bytes before the
end. -/
def copyBytes : Nat → Nat → Array UInt8 → Array UInt8
  | 0, _, out => out
  | n + 1, distance, out =>
    copyBytes n distance (out.push (out.getD (out.size - distance) 0))

/-- Reads the symbols of a block. -/
def readSymbols (codes : Codes) : Nat → Array UInt8 → BitReader →
    Option (Array UInt8 × BitReader)
  | 0, _, _ => none
  | fuel + 1, out, r => do
    let (symbol, r) ← codes.main.next? r
    if symbol < 256 then readSymbols codes fuel (out.push symbol.toUInt8) r
    else if symbol = endOfBlock then pure (out, r)
    else do
      let ls ← lengthSpans[symbol - firstLength]?
      let (l, r) ← r.bits? ls.extra
      let (d, r) ← codes.distance.next? r
      let ds ← distanceSpans[d]?
      let (d, r) ← r.bits? ds.extra
      let distance := ds.base + d
      -- A copy cannot reach back beyond the first byte.
      if out.size < distance then none
      else readSymbols codes fuel (copyBytes (ls.base + l) distance out) r

/-- Reads a block without compression. -/
def readStored (out : Array UInt8) (r : BitReader) : Option (Array UInt8 × BitReader) :=
  match r.bytes with
  | a :: b :: c :: d :: rest =>
    let n := a.toNat + 256 * b.toNat
    let m := c.toNat + 256 * d.toNat
    if n + m = 65535 ∧ n ≤ rest.length then some (out ++ (rest.take n).toArray, ⟨rest.drop n, 0, 0⟩)
    else none
  | _ => none

/-- Reads a block of a kind. -/
def readBlock (kind : Nat) (out : Array UInt8) (r : BitReader) :
    Option (Array UInt8 × BitReader) :=
  let fuel := 8 * r.bytes.length + 8
  match kind with
  | 0 => readStored out r
  | 1 => readSymbols .fixed fuel out r
  | 2 => do
    let (codes, r) ← readCodes r
    readSymbols codes fuel out r
  | _ => none

/-- Reads blocks up to the last one. -/
def readBlocks : Nat → Array UInt8 → BitReader → Option (Array UInt8 × BitReader)
  | 0, _, _ => none
  | fuel + 1, out, r => do
    let (last, r) ← r.bits? 1
    let (kind, r) ← r.bits? 2
    let (out, r) ← readBlock kind out r
    if last = 1 then pure (out, r) else readBlocks fuel out r

/-- The bytes that were compressed, and what follows the blocks. -/
def inflate? (bs : Bytes) : Option (Bytes × Bytes) := do
  let (out, r) ← readBlocks (8 * bs.length + 1) #[] ⟨bs, 0, 0⟩
  pure (out.toList, r.bytes)

end SiteSync.Gzip
