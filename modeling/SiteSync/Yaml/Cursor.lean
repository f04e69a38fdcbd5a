import SiteSync.Yaml.Chars
import SiteSync.Yaml.Error

/-!
# `SiteSync.Yaml.Cursor`: a place in a YAML text

A cursor holds the text ahead and counts what lies behind: the
characters, the lines, and the characters of the current line.
-/

set_option autoImplicit false

namespace SiteSync.Yaml

/-- A place in a text. -/
structure Cursor where
  /-- The text ahead. -/
  rest : Text
  /-- The number of characters behind. -/
  index : Nat := 0
  /-- The number of lines behind. -/
  line : Nat := 0
  /-- The number of characters behind on this line. -/
  column : Nat := 0

namespace Cursor

/-- Goes on by `n` characters of the same line. -/
def skip (n : Nat) (c : Cursor) : Cursor :=
  { c with rest := c.rest.drop n, index := c.index + n, column := c.column + n }

/-- Goes on while the characters satisfy `p`. -/
def skipWhile (p : Char → Bool) (c : Cursor) : Cursor := c.skip (c.rest.takeWhile p).length

/-- Goes on behind `n` characters that end a line. -/
def nextLine (n : Nat) (c : Cursor) : Cursor :=
  ⟨c.rest.drop n, c.index + n, c.line + 1, 0⟩

/-- Reads the end of a line, if the cursor is at one. All but the line
and paragraph separators read as a line feed. -/
def takeBreak (c : Cursor) : Text × Cursor :=
  match c.rest with
  | '\r' :: '\n' :: _ => (['\n'], c.nextLine 2)
  | b :: _ =>
    if isBreak b then
      (if b.toNat = 0x2028 ∨ b.toNat = 0x2029 then [b] else ['\n'], c.nextLine 1)
    else ([], c)
  | [] => ([], c)

/-- Whether the text ahead starts with a break. -/
def atBreak (c : Cursor) : Bool := c.rest.head?.any isBreak

/-- Whether the text ahead starts with a character. -/
def at? (c : Cursor) (x : Char) : Bool := c.rest.head? == some x

/-- Whether three characters that mark the start or end of a document
begin a line here. -/
def atMark (c : Cursor) (mark : Text) : Bool :=
  c.column == 0 && ((Text.stripPrefix? mark c.rest).map atWordEnd).getD false

/-- The mark that starts a document. -/
def startMark : Text := ['-', '-', '-']

/-- The mark that ends a document. -/
def endMark : Text := ['.', '.', '.']

/-- Whether a document starts or ends here. -/
def atDocumentMark (c : Cursor) : Bool := c.atMark startMark || c.atMark endMark

/-- Goes on behind a comment, up to the end of its line. -/
def skipComment (c : Cursor) : Cursor :=
  if c.at? '#' then c.skipWhile (!isBreak ·) else c

end Cursor

/-- What the end of a line and the empty lines after it read as in a
folded scalar: one line feed reads as a space. -/
def foldBreaks (first others : Text) : Text :=
  if first.head? = some '\n' then if others = [] then [' '] else others
  else first ++ others

/-- The blanks and breaks between two words of a flow scalar. -/
structure Gap where
  /-- What the gap reads as when more text follows. -/
  text : Text
  /-- Whether a line ends in the gap. -/
  broken : Bool
  /-- The place behind the gap. -/
  cursor : Cursor

namespace Gap

/-- Reads blanks and breaks. `spaces`, `first` and `others` are the
blanks before the first break, that break and the later ones, each read
so far; `indent` is the column before which a tab may not stand on a
later line. -/
def read (indent : Nat) : Nat → Bool → Text → Text → Text → Cursor → Except Error Gap
  | 0, broken, spaces, first, others, c =>
    .ok ⟨if broken then foldBreaks first others else spaces, broken, c⟩
  | fuel + 1, broken, spaces, first, others, c =>
    match c.rest with
    | x :: _ =>
      if isBlank x then
        if broken && c.column < indent && x == '\t' then .error .tabInIndentation
        else read indent fuel broken (if broken then spaces else spaces ++ [x]) first others
          (c.skip 1)
      else if isBreak x then
        let (b, c) := c.takeBreak
        if broken then read indent fuel true spaces first (others ++ b) c
        else read indent fuel true [] b others c
      else .ok ⟨if broken then foldBreaks first others else spaces, broken, c⟩
    | [] => .ok ⟨if broken then foldBreaks first others else spaces, broken, c⟩

/-- The gap at a cursor. `broken` says that a line has just ended with
an escape and reads as nothing. -/
def ofCursor (indent : Nat) (broken : Bool) (c : Cursor) : Except Error Gap :=
  read indent ((c.rest.takeWhile isSeparator).length + 1) broken [] [] [] c

end Gap

end SiteSync.Yaml
