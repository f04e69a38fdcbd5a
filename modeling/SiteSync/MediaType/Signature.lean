import SiteSync.Text.Basic

/-!
# `SiteSync.MediaType.Signature`: media types by leading bytes

Content is recognised by what it starts with: an HTML tag or the XML
declaration after white space, the signature of a binary format, or the
chunk names of a picture container. The four tests are the *stages*; the
first that applies decides. What none of them recognises is plain text,
unless it holds a byte that texts do not have.
-/

set_option autoImplicit false

namespace SiteSync.MediaType

/-- Plain text. -/
def plainText : Text := "text/plain; charset=utf-8".toList

/-- Content of no known type. -/
def octetStream : Text := "application/octet-stream".toList

/-! ### Tests -/

/-- A byte of ASCII text as a small letter, if it is a capital. -/
def lowerByte (b : UInt8) : UInt8 := if 0x41 ≤ b && b ≤ 0x5a then b + 0x20 else b

/-- Whether a byte is white space. -/
def isSpaceByte (b : UInt8) : Bool :=
  b == 0x09 || b == 0x0a || b == 0x0c || b == 0x0d || b == 0x20

/-- Whether a byte ends the name of a tag: a space or `>`. -/
def endsTag (b : UInt8) : Bool := b == 0x20 || b == 0x3e

/-- Whether a byte does not occur in texts. -/
def isBinaryByte (b : UInt8) : Bool :=
  b ≤ 0x08 || b == 0x0b || (0x0e ≤ b && b ≤ 0x1a) || (0x1c ≤ b && b ≤ 0x1f)

/-- The content behind leading white space. -/
def trimmed (content : Bytes) : Bytes := content.dropWhile isSpaceByte

/-- Whether content starts with a tag, in capitals or not, whose name
ends there. -/
def startsWithTag (tag content : Bytes) : Bool :=
  (content.take tag.length).map lowerByte == tag.map lowerByte
    && ((content.drop tag.length).head?.map endsTag).getD false

/-! ### Tables -/

/-- The tags that HTML content may start with. -/
def htmlTags : List Bytes :=
  ["<!DOCTYPE HTML", "<HTML", "<HEAD", "<SCRIPT", "<IFRAME", "<H1", "<DIV", "<FONT", "<TABLE",
   "<A", "<STYLE", "<TITLE", "<B", "<BODY", "<BR", "<P", "<!--"].map fun s => Text.toBytes s.toList

/-- The declaration that XML content starts with. -/
def xmlDeclaration : Bytes := Text.toBytes "<?xml".toList

/-- The bytes that binary formats start with, and their types. -/
def signatures : List (Bytes × Text) :=
  [([0x25, 0x50, 0x44, 0x46, 0x2d], "application/pdf".toList),
   (Text.toBytes "%!PS-Adobe-".toList, "application/postscript".toList),
   ([0xfe, 0xff], "text/plain; charset=utf-16be".toList),
   ([0xff, 0xfe], "text/plain; charset=utf-16le".toList),
   ([0xef, 0xbb, 0xbf], plainText),
   (Text.toBytes "GIF87a".toList, "image/gif".toList),
   (Text.toBytes "GIF89a".toList, "image/gif".toList),
   ([0x89, 0x50, 0x4e, 0x47, 0x0d, 0x0a, 0x1a, 0x0a], "image/png".toList),
   ([0xff, 0xd8, 0xff], "image/jpeg".toList),
   ([0x42, 0x4d], "image/bmp".toList),
   ([0x00, 0x00, 0x01, 0x00], "image/x-icon".toList),
   (Text.toBytes "wOFF".toList, "font/woff".toList),
   (Text.toBytes "wOF2".toList, "font/woff2".toList),
   ([0x1f, 0x8b, 0x08], "application/x-gzip".toList),
   ([0x50, 0x4b, 0x03, 0x04], "application/zip".toList),
   ([0x00, 0x61, 0x73, 0x6d], "application/wasm".toList)]

/-! ### Stages -/

/-- A test that recognises the type of some content. -/
abbrev Stage : Type := Bytes → Option Text

/-- Recognises HTML by one of the tags. -/
def htmlStage (tags : List Bytes) : Stage := fun content =>
  if tags.any (startsWithTag · (trimmed content)) then some "text/html; charset=utf-8".toList
  else none

/-- Recognises XML by its declaration. -/
def xmlStage : Stage := fun content =>
  if xmlDeclaration.isPrefixOf (trimmed content) then some "text/xml; charset=utf-8".toList
  else none

/-- Recognises binary formats by their signatures. -/
def signatureStage (table : List (Bytes × Text)) : Stage := fun content =>
  (table.find? fun s => s.1.isPrefixOf content).map Prod.snd

/-- Recognises pictures in a container of chunks: `RIFF`, the length of
the chunk in four bytes, and `WEBPVP`. -/
def containerStage : Stage := fun content =>
  if (Text.toBytes "RIFF".toList).isPrefixOf content
      && (Text.toBytes "WEBPVP".toList).isPrefixOf (content.drop 8) then
    some "image/webp".toList
  else none

/-- The type of content that no stage recognises. -/
def unrecognised (content : Bytes) : Text :=
  if content.any isBinaryByte then octetStream else plainText

/-- The type that the first of the stages recognises. -/
def sniffBy (stages : List Stage) (content : Bytes) : Text :=
  (stages.findSome? (· content)).getD (unrecognised content)

/-- The media type of content by its leading bytes. -/
def sniff (content : Bytes) : Text :=
  sniffBy [htmlStage htmlTags, xmlStage, signatureStage signatures, containerStage] content

end SiteSync.MediaType
