import SiteSync.Yaml.Cursor
import SiteSync.Yaml.Token

/-!
# `SiteSync.Yaml.Token.Properties`: directives, tags, anchors and aliases
-/

set_option autoImplicit false

namespace SiteSync.Yaml.Token

/-! ### Tag texts -/

/-- How many bytes the encoding of a character has whose first byte is
this. -/
def encodedLength? (b : Nat) : Option Nat :=
  if b < 0x80 then some 1
  else if b &&& 0xe0 = 0xc0 then some 2
  else if b &&& 0xf0 = 0xe0 then some 3
  else if b &&& 0xf8 = 0xf0 then some 4
  else none

/-- The byte of an escape such as `%2f`. -/
def escapedByte? : Text → Option Nat
  | '%' :: rest => hexNumber? 2 rest
  | _ => none

/-- The bytes of the `n` escapes that go on with an encoded character. -/
def escapedTail? : Nat → Text → Option Bytes
  | 0, _ => some []
  | n + 1, t => do
    let b ← escapedByte? t
    if b &&& 0xc0 = 0x80 then (b.toUInt8 :: ·) <$> escapedTail? n (t.drop 3) else none

/-- The bytes of an encoded character that is written in escapes. -/
def escapedBytes? (t : Text) : Option Bytes := do
  let b ← escapedByte? t
  let n ← encodedLength? b
  (b.toUInt8 :: ·) <$> escapedTail? (n - 1) (t.drop 3)

/-- Whether a character may stand in a tag; brackets and commas only
where the tag is `verbatim`. -/
def isTagChar (verbatim : Bool) (c : Char) : Bool :=
  isWord c || ";/?:@&=+$.%!~*'()".toList.contains c
    || (verbatim && (c == ',' || c == '[' || c == ']'))

/-- Reads the characters of a tag. -/
def tagText (verbatim : Bool) : Nat → Cursor → Except Error (Bytes × Cursor)
  | 0, c => .ok ([], c)
  | fuel + 1, c =>
    match c.rest with
    | '%' :: _ =>
      match escapedBytes? c.rest with
      | some bs => do
        let (more, c) ← tagText verbatim fuel (c.skip (3 * bs.length))
        pure (bs ++ more, c)
      | none => .error .badTag
    | x :: _ =>
      if isTagChar verbatim x then do
        let (more, c) ← tagText verbatim fuel (c.skip 1)
        pure (x.toNat.toUInt8 :: more, c)
      else .ok ([], c)
    | [] => .ok ([], c)

/-- Reads a tag text that may not be empty. -/
def someTagText (verbatim : Bool) (c : Cursor) : Except Error (Bytes × Cursor) := do
  let (bs, c) ← tagText verbatim c.rest.length c
  if bs = [] then .error .badTag else pure (bs, c)

/-- Reads `!`, the word after it and the `!` after that. -/
def tagHandle (c : Cursor) : Except Error (Text × Cursor) :=
  if c.at? '!' then
    let word := ((c.rest.drop 1).takeWhile isWord)
    let after := c.skip (word.length + 1)
    if after.at? '!' then .ok ('!' :: word ++ ['!'], after.skip 1)
    else .ok ('!' :: word, after)
  else .error .badTag

/-- Whether a handle ends with a second `!`. -/
def isFullHandle (mark : Text) : Bool := 1 < mark.length && mark.getLast? == some '!'

/-- Reads a tag. -/
def readTag (inFlow : Bool) (c : Cursor) : Except Error (Token × Cursor) := do
  let (token, c) ←
    if (c.rest.drop 1).head? = some '<' then do
      let (suffix, c) ← someTagText true (c.skip 2)
      if c.at? '>' then pure (tag [] suffix, c.skip 1) else .error .badTag
    else do
      let (mark, c) ← tagHandle c
      if isFullHandle mark then do
        let (suffix, c) ← someTagText false c
        pure (tag mark suffix, c)
      else do
        let (more, c) ← tagText false c.rest.length c
        let suffix := Text.toBytes (mark.drop 1) ++ more
        pure (if suffix = [] then tag [] (Text.toBytes ['!']) else tag ['!'] suffix, c)
  if atWordEnd c.rest || (inFlow && c.at? ',') then pure (token, c) else .error .badTag

/-! ### Anchors and aliases -/

/-- Whether the name of an anchor may end before this text. -/
def atNameEnd (t : Text) : Bool :=
  atWordEnd t || t.head?.any ("?:,]\x7d%@`".toList.contains ·)

/-- Reads the name behind `&` or `*`. -/
def readName (c : Cursor) : Except Error (Text × Cursor) :=
  let name := (c.rest.drop 1).takeWhile isWord
  let c := c.skip (name.length + 1)
  if name ≠ [] ∧ atNameEnd c.rest then .ok (name, c) else .error .badAnchor

/-! ### Directives -/

/-- Reads a version number of at most nine digits. -/
def versionNumber (c : Cursor) : Except Error (Nat × Cursor) :=
  let digits := c.rest.takeWhile Char.isDigit
  if digits = [] ∨ 9 < digits.length then .error .badDirective
  else .ok (digits.foldl (fun v d => v * 10 + (d.toNat - '0'.toNat)) 0, c.skip digits.length)

/-- Reads the value of a directive. -/
def directiveValue (name : Text) (c : Cursor) : Except Error (Token × Cursor) :=
  if name = ['Y', 'A', 'M', 'L'] then do
    let (major, c) ← versionNumber (c.skipWhile isBlank)
    if c.at? '.' then do
      let (minor, c) ← versionNumber (c.skip 1)
      pure (version major minor, c)
    else .error .badDirective
  else if name = ['T', 'A', 'G'] then do
    let (declared, c) ← tagHandle (c.skipWhile isBlank)
    if !(isFullHandle declared || declared == ['!']) || !c.rest.head?.any isBlank then
      .error .badDirective
    else do
      let (meaning, c) ← someTagText true (c.skipWhile isBlank)
      if atWordEnd c.rest then pure (handle declared meaning, c) else .error .badDirective
  else .error .badDirective

/-- Reads a directive with its whole line. -/
def readDirective (c : Cursor) : Except Error (Token × Cursor) := do
  let name := (c.rest.drop 1).takeWhile isWord
  let c := c.skip (name.length + 1)
  if name = [] ∨ !atWordEnd c.rest then .error .badDirective
  else do
    let (token, c) ← directiveValue name c
    let c := (c.skipWhile isBlank).skipComment
    if c.rest = [] ∨ c.atBreak then pure (token, c.takeBreak.2) else .error .badDirective

end SiteSync.Yaml.Token
