import SiteSync.Yaml.Cursor

/-!
# `SiteSync.Yaml.Token.QuotedScalar`: scalars between quotes

Between single quotes a quote is written twice and nothing else is
special. Between double quotes a backslash escapes a character or the
end of a line. In both, line breaks fold.
-/

set_option autoImplicit false

namespace SiteSync.Yaml.QuotedScalar

/-- The character of a one-letter escape. -/
def simpleEscape? (c : Char) : Option Nat :=
  match c with
  | '0' => some 0x00
  | 'a' => some 0x07
  | 'b' => some 0x08
  | 't' => some 0x09
  | '\t' => some 0x09
  | 'n' => some 0x0a
  | 'v' => some 0x0b
  | 'f' => some 0x0c
  | 'r' => some 0x0d
  | 'e' => some 0x1b
  | ' ' => some 0x20
  | '"' => some 0x22
  | '/' => some 0x2f
  | '\\' => some 0x5c
  | 'N' => some 0x85
  | '_' => some 0xa0
  | 'L' => some 0x2028
  | 'P' => some 0x2029
  | _ => none

/-- How many hexadecimal digits follow the letter of an escape. -/
def escapeDigits? (c : Char) : Option Nat :=
  match c with
  | 'x' => some 2
  | 'u' => some 4
  | 'U' => some 8
  | _ => none

/-- The character of an escape and the length of the escape, given the
text behind the backslash. -/
def escape? : Text → Option (Char × Nat)
  | [] => none
  | c :: rest =>
    match simpleEscape? c with
    | some n => some (Char.ofNat n, 2)
    | none => do
      let digits ← escapeDigits? c
      let n ← hexNumber? digits rest
      if n.isValidChar then some (Char.ofNat n, digits + 2) else none

/-- A run of characters without blanks or breaks. -/
structure Word where
  /-- The characters. -/
  text : Text
  /-- Whether the run ends with an escaped line end. -/
  escapedBreak : Bool
  /-- The place behind the run. -/
  cursor : Cursor

/-- Puts a character in front of a word. -/
def Word.push (c : Char) (w : Word) : Word := { w with text := c :: w.text }

/-- Reads up to a blank, a break or the closing quote. -/
def word (quote : Char) : Nat → Cursor → Except Error Word
  | 0, c => .ok ⟨[], false, c⟩
  | fuel + 1, c =>
    match c.rest with
    | [] => .ok ⟨[], false, c⟩
    | x :: rest =>
      if isSeparator x then .ok ⟨[], false, c⟩
      else if x == quote then
        if quote == '\'' && rest.head? == some '\'' then
          (Word.push '\'' ·) <$> word quote fuel (c.skip 2)
        else .ok ⟨[], false, c⟩
      else if quote == '"' && x == '\\' then
        if rest.head?.any isBreak then .ok ⟨[], true, (c.skip 1).takeBreak.2⟩
        else
          match escape? rest with
          | some (y, length) => (Word.push y ·) <$> word quote fuel (c.skip length)
          | none => .error .badEscape
      else (Word.push x ·) <$> word quote fuel (c.skip 1)

/-- Reads words and the gaps between them up to the closing quote. -/
def body (quote : Char) : Nat → Cursor → Except Error (Text × Cursor)
  | 0, _ => .error .unclosedQuote
  | fuel + 1, c =>
    if c.atDocumentMark || c.rest.isEmpty then .error .unclosedQuote
    else do
      let w ← word quote c.rest.length c
      if w.cursor.at? quote then pure (w.text, w.cursor.skip 1)
      else do
        let gap ← Gap.ofCursor 0 w.escapedBreak w.cursor
        let (more, c) ← body quote fuel gap.cursor
        pure (w.text ++ gap.text ++ more, c)

/-- Reads a quoted scalar from its opening quote on. -/
def read (quote : Char) (c : Cursor) : Except Error (Text × Cursor) :=
  body quote (c.rest.length + 1) (c.skip 1)

end SiteSync.Yaml.QuotedScalar
