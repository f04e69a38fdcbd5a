import SiteSync.Digest.Crc32
import SiteSync.Gzip.Deflate
import SiteSync.Gzip.Inflate

/-!
# `SiteSync.Gzip.Container`: compressed files

A compressed file is a header, the compressed blocks, and the checksum
and length of what was compressed.
-/

set_option autoImplicit false

namespace SiteSync.Gzip

/-- The header of the files written here: the two bytes that mark the
format, the method of compression, no flags, no time, nothing about the
effort, and no system. -/
def header : Bytes := [0x1f, 0x8b, 0x08, 0, 0, 0, 0, 0, 0, 0xff]

/-- A number below 2^32 in four bytes, the lowest first. -/
def word (n : Nat) : Bytes :=
  [n.toUInt8, (n / 0x100).toUInt8, (n / 0x10000).toUInt8, (n / 0x1000000).toUInt8]

/-- What follows the blocks: the checksum and length of the content. -/
def trailer (content : Bytes) : Bytes :=
  word (Digest.Crc32.checksum content).toNat ++ word (content.length % 0x100000000)

/-- The compressed file with some content. -/
def compress (content : Bytes) : Bytes := header ++ deflate content ++ trailer content

/-- Whether bytes start like a compressed file. -/
def isMarked (bs : Bytes) : Bool := [0x1f, 0x8b, 0x08].isPrefixOf bs

/-- What follows the text at the start that a zero ends. -/
def skipText (bs : Bytes) : Bytes := (bs.dropWhile (· != 0)).drop 1

/-- What follows the header. The flags say which parts it has: extra
data, a name, a comment, and a checksum of its own. -/
def skipHeader? (bs : Bytes) : Option Bytes :=
  match bs.take 10 with
  | [0x1f, 0x8b, 0x08, flags, _, _, _, _, _, _] =>
    let has (bit : UInt8) : Bool := flags &&& bit != 0
    let bs := bs.drop 10
    let bs :=
      if has 4 then
        match bs with
        | a :: b :: bs => bs.drop (a.toNat + 256 * b.toNat)
        | _ => []
      else bs
    let bs := if has 8 then skipText bs else bs
    let bs := if has 16 then skipText bs else bs
    let bs := if has 2 then bs.drop 2 else bs
    some bs
  | _ => none

/-- The content of a compressed file. -/
def decompress? (bs : Bytes) : Option Bytes := do
  let (content, rest) ← inflate? (← skipHeader? bs)
  if (trailer content).isPrefixOf rest then pure content else none

end SiteSync.Gzip
