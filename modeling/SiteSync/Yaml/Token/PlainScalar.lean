import SiteSync.Yaml.Cursor

/-!
# `SiteSync.Yaml.Token.PlainScalar`: scalars without marks

A plain scalar ends before `: `, before a comment, and within brackets
before their punctuation. It may go on over lines that are indented
more than the collection it stands in.
-/

set_option autoImplicit false

namespace SiteSync.Yaml.PlainScalar

/-- Whether a colon within brackets is followed by what it may not be
followed by. -/
def isBadColon (inFlow : Bool) (c : Char) (rest : Text) : Bool :=
  inFlow && c == ':' && rest.head?.any fun x => isFlowMark x || x == '?'

/-- Whether a plain scalar ends before this character. -/
def endsAt (inFlow : Bool) (c : Char) (rest : Text) : Bool :=
  isSeparator c || (c == ':' && atWordEnd rest) || (inFlow && isFlowMark c)

/-- Reads the characters up to the end of a word. -/
def word (inFlow : Bool) : Text → Except Error Text
  | [] => .ok []
  | c :: rest =>
    if !isSeparator c && isBadColon inFlow c rest then .error .unexpectedColon
    else if endsAt inFlow c rest then .ok []
    else (c :: ·) <$> word inFlow rest

/-- A plain scalar that has been read. -/
structure Reading where
  /-- The text of the scalar. -/
  text : Text
  /-- Whether a line has ended behind the scalar. -/
  broken : Bool
  /-- The place behind the scalar and the gap after it. -/
  cursor : Cursor

/-- Reads words and the gaps between them. `gap` is the gap before the
cursor, if any. -/
def body (inFlow : Bool) (indent : Nat) : Nat → Option Gap → Cursor → Except Error Reading
  | 0, gap, c => .ok ⟨[], gap.any (·.broken), c⟩
  | fuel + 1, gap, c =>
    if c.atDocumentMark || c.at? '#' then .ok ⟨[], gap.any (·.broken), c⟩
    else do
      let w ← word inFlow c.rest
      let after := c.skip w.length
      let (before, broken) := match gap with
        | some g => if w = [] then ([], g.broken) else (g.text, false)
        | none => ([], false)
      if !after.rest.head?.any isSeparator then pure ⟨before ++ w, broken, after⟩
      else do
        let next ← Gap.ofCursor indent broken after
        if !inFlow && next.cursor.column < indent then
          pure ⟨before ++ w, next.broken, next.cursor⟩
        else do
          let r ← body inFlow indent fuel (some next) next.cursor
          pure { r with text := before ++ w ++ r.text }

/-- Reads a plain scalar; `indent` is the least column of its later
lines. -/
def read (inFlow : Bool) (indent : Nat) (c : Cursor) : Except Error Reading :=
  body inFlow indent (c.rest.length + 1) none c

end SiteSync.Yaml.PlainScalar
