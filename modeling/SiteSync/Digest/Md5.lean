import SiteSync.Digest.Hex

/-!
# `SiteSync.Digest.Md5`: the MD5 digest

A message is padded to whole blocks of 64 bytes, and each block is mixed
into a state of four words in 64 rounds. Object stores use the digest as
a fingerprint of an object's content.
-/

set_option autoImplicit false

namespace SiteSync.Digest.Md5

/-- The state of the digest. -/
structure State where
  /-- The first word. -/
  a : UInt32 := 0x67452301
  /-- The second word. -/
  b : UInt32 := 0xefcdab89
  /-- The third word. -/
  c : UInt32 := 0x98badcfe
  /-- The fourth word. -/
  d : UInt32 := 0x10325476

/-- How far each round rotates. -/
def shifts : Array UInt32 :=
  #[7, 12, 17, 22, 7, 12, 17, 22, 7, 12, 17, 22, 7, 12, 17, 22,
    5, 9, 14, 20, 5, 9, 14, 20, 5, 9, 14, 20, 5, 9, 14, 20,
    4, 11, 16, 23, 4, 11, 16, 23, 4, 11, 16, 23, 4, 11, 16, 23,
    6, 10, 15, 21, 6, 10, 15, 21, 6, 10, 15, 21, 6, 10, 15, 21]

/-- What each round adds: the whole part of 2^32 times the sine of its
number. -/
def sines : Array UInt32 :=
  #[0xd76aa478, 0xe8c7b756, 0x242070db, 0xc1bdceee, 0xf57c0faf, 0x4787c62a, 0xa8304613, 0xfd469501,
    0x698098d8, 0x8b44f7af, 0xffff5bb1, 0x895cd7be, 0x6b901122, 0xfd987193, 0xa679438e, 0x49b40821,
    0xf61e2562, 0xc040b340, 0x265e5a51, 0xe9b6c7aa, 0xd62f105d, 0x02441453, 0xd8a1e681, 0xe7d3fbc8,
    0x21e1cde6, 0xc33707d6, 0xf4d50d87, 0x455a14ed, 0xa9e3e905, 0xfcefa3f8, 0x676f02d9, 0x8d2a4c8a,
    0xfffa3942, 0x8771f681, 0x6d9d6122, 0xfde5380c, 0xa4beea44, 0x4bdecfa9, 0xf6bb4b60, 0xbebfbc70,
    0x289b7ec6, 0xeaa127fa, 0xd4ef3085, 0x04881d05, 0xd9d4d039, 0xe6db99e5, 0x1fa27cf8, 0xc4ac5665,
    0xf4292244, 0x432aff97, 0xab9423a7, 0xfc93a039, 0x655b59c3, 0x8f0ccc92, 0xffeff47d, 0x85845dd1,
    0x6fa87e4f, 0xfe2ce6e0, 0xa3014314, 0x4e0811a1, 0xf7537e82, 0xbd3af235, 0x2ad7d2bb, 0xeb86d391]

/-- Rotates a word to the left. -/
def rotate (x n : UInt32) : UInt32 := (x <<< n) ||| (x >>> (32 - n))

/-- The mixed words of a round, and which word of the block it takes. -/
def mix (s : State) (round : Nat) : UInt32 × Nat :=
  if round < 16 then ((s.b &&& s.c) ||| (~~~s.b &&& s.d), round)
  else if round < 32 then ((s.d &&& s.b) ||| (~~~s.d &&& s.c), (5 * round + 1) % 16)
  else if round < 48 then (s.b ^^^ s.c ^^^ s.d, (3 * round + 5) % 16)
  else (s.c ^^^ (s.b ||| ~~~s.d), (7 * round) % 16)

/-- One round on a block. -/
def step (block : Array UInt32) (s : State) (round : Nat) : State :=
  let (mixed, word) := mix s round
  let sum := s.a + mixed + sines.getD round 0 + block.getD word 0
  ⟨s.d, s.b + rotate sum (shifts.getD round 0), s.b, s.c⟩

/-- Mixes a block into the state. -/
def addBlock (s : State) (block : Array UInt32) : State :=
  let t := (List.range 64).foldl (step block) s
  ⟨s.a + t.a, s.b + t.b, s.c + t.c, s.d + t.d⟩

/-- The word of four bytes, the lowest first. -/
def word (bs : List UInt8) : UInt32 := bs.foldr (fun b w => (w <<< 8) ||| b.toUInt32) 0

/-- The words of a block whose bytes are given latest first. -/
def words : List UInt8 → List UInt32 → Array UInt32
  | d :: c :: b :: a :: rest, later => words rest (word [a, b, c, d] :: later)
  | _, later => later.toArray

/-- A digest under way: the state, the bytes of the block that is not
full yet, latest first, and their number. -/
structure Progress where
  /-- The state after the full blocks. -/
  state : State := {}
  /-- The bytes since the last full block, latest first. -/
  pending : List UInt8 := []
  /-- The number of these bytes. -/
  count : Nat := 0

/-- Takes one more byte in. -/
def Progress.push (p : Progress) (b : UInt8) : Progress :=
  if p.count = 63 then { state := addBlock p.state (words (b :: p.pending) []) }
  else { p with pending := b :: p.pending, count := p.count + 1 }

/-- The `n` lowest bytes of a number, the lowest first. -/
def littleEndian : Nat → Nat → Bytes
  | 0, _ => []
  | n + 1, v => v.toUInt8 :: littleEndian n (v / 256)

/-- What follows a message of `n` bytes to fill the last block: a bit,
zeros and the number of bits. -/
def padding (n : Nat) : Bytes :=
  0x80 :: List.replicate ((119 - n % 64) % 64) 0 ++ littleEndian 8 (8 * n)

/-- The digest of a message, in sixteen bytes. -/
def digest (message : Bytes) : Bytes :=
  let absorbed := message.foldl Progress.push {}
  let s := ((padding message.length).foldl Progress.push absorbed).state
  [s.a, s.b, s.c, s.d].flatMap fun w => littleEndian 4 w.toNat

/-- The digest in hexadecimal. -/
def hexDigest (message : Bytes) : Text := hex (digest message)

end SiteSync.Digest.Md5
