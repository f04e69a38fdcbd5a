import SiteSync.Yaml.Cursor

/-!
# `SiteSync.Yaml.Token.BlockScalar`: scalars given as indented lines

A block scalar starts with a header: `|` keeps line breaks and `>` folds
them; a digit gives the indentation, which else is that of the first
line with text; `-` drops the final line breaks and `+` keeps them all.
-/

set_option autoImplicit false

namespace SiteSync.Yaml.BlockScalar

/-- What becomes of the line breaks at the end. -/
inductive Chomping where
  /-- All are dropped. -/
  | strip
  /-- One is kept. -/
  | clip
  /-- All are kept. -/
  | keep
deriving Repr, DecidableEq

/-- The header of a block scalar. -/
structure Header where
  /-- What becomes of the line breaks at the end. -/
  chomping : Chomping := .clip
  /-- The indentation, if it is given. -/
  increment : Option Nat := none

/-- Reads the sign for the line breaks at the end. -/
def chomping? (c : Cursor) : Option Chomping :=
  if c.at? '+' then some .keep
  else if c.at? '-' then some .strip
  else none

/-- Reads the digit for the indentation, which is not zero. -/
def increment? (c : Cursor) : Except Error (Option Nat) :=
  match c.rest with
  | d :: _ =>
    if d == '0' then .error .badBlockHeader
    else if d.isDigit then .ok (some (d.toNat - '0'.toNat))
    else .ok none
  | [] => .ok none

/-- Reads the signs of a header, in either order. -/
def signs (c : Cursor) : Except Error (Header × Cursor) :=
  match chomping? c with
  | some chomping => do
    let c := c.skip 1
    let increment ← increment? c
    pure (⟨chomping, increment⟩, if increment.isSome then c.skip 1 else c)
  | none => do
    match ← increment? c with
    | some n =>
      let c := c.skip 1
      match chomping? c with
      | some chomping => pure (⟨chomping, some n⟩, c.skip 1)
      | none => pure (⟨.clip, some n⟩, c)
    | none => pure (⟨.clip, none⟩, c)

/-- Reads a header with its whole line. -/
def header (c : Cursor) : Except Error (Header × Cursor) := do
  let (h, c) ← signs (c.skip 1)
  let c := (c.skipWhile isBlank).skipComment
  if c.rest = [] ∨ c.atBreak then pure (h, c.takeBreak.2) else .error .badBlockHeader

/-- Whether the cursor is still in the indentation; an `indent` of zero
is not known yet. -/
def inIndentation (indent : Nat) (c : Cursor) : Bool := indent == 0 || c.column < indent

/-- The empty lines before the next line with text. -/
structure Empties where
  /-- The breaks of the empty lines. -/
  breaks : Text
  /-- The greatest column that was reached. -/
  widest : Nat
  /-- The place behind the empty lines and the indentation. -/
  cursor : Cursor

/-- Reads empty lines and the indentation after them. -/
def empties (indent : Nat) : Nat → Nat → Cursor → Except Error Empties
  | 0, widest, c => .ok ⟨[], widest, c⟩
  | fuel + 1, widest, c =>
    let spaces := (c.rest.takeWhile (· == ' ')).length
    let c := c.skip (if indent = 0 then spaces else min spaces (indent - c.column))
    let widest := max widest c.column
    if inIndentation indent c && c.at? '\t' then .error .tabInIndentation
    else if c.atBreak then do
      let (b, c) := c.takeBreak
      let e ← empties indent fuel widest c
      pure { e with breaks := b ++ e.breaks }
    else .ok ⟨[], widest, c⟩

/-- The empty lines at a cursor. -/
def emptiesAt (indent : Nat) (c : Cursor) : Except Error Empties :=
  empties indent (c.rest.length + 1) 0 c

/-- What has been read of a block scalar: the text up to the last line
with text, the break of that line, whether it starts with a blank, and
the empty lines after it. -/
structure Reading where
  /-- The text up to the last line with text. -/
  text : Text := []
  /-- The break of the last line with text. -/
  lineEnd : Text := []
  /-- Whether the last line with text starts with a blank. -/
  blankStart : Bool := false
  /-- The empty lines after it. -/
  empties : Text
  /-- The place behind all that. -/
  cursor : Cursor

/-- The line break and the empty lines between two lines with text. In a
folded scalar they fold, but not next to a line that starts with a
blank. -/
def between (folds : Bool) (r : Reading) (blankStart : Bool) : Text :=
  if folds && r.lineEnd.head? == some '\n' && !r.blankStart && !blankStart then
    foldBreaks r.lineEnd r.empties
  else r.lineEnd ++ r.empties

/-- Reads lines as long as they are indented by `indent`. -/
def lines (folds : Bool) (indent : Nat) : Nat → Reading → Except Error Reading
  | 0, r => .ok r
  | fuel + 1, r =>
    let c := r.cursor
    if c.column = indent ∧ c.rest ≠ [] then do
      let blankStart := c.rest.head?.any isBlank
      let line := c.rest.takeWhile (!isBreak ·)
      let (lineEnd, after) := (c.skip line.length).takeBreak
      let e ← emptiesAt indent after
      lines folds indent fuel
        ⟨r.text ++ between folds r blankStart ++ line, lineEnd, blankStart, e.breaks, e.cursor⟩
    else .ok r

/-- Reads a block scalar from its first mark on, in a collection that is
indented by `parent` columns, which is -1 at the top. -/
def read (folds : Bool) (parent : Int) (c : Cursor) : Except Error (Text × Cursor) := do
  let (h, c) ← header c
  let given := match h.increment with
    | some n => parent.toNat + n
    | none => 0
  let e ← emptiesAt given c
  let indent := if given = 0 then max (max e.widest (parent + 1).toNat) 1 else given
  let r ← lines folds indent (c.rest.length + 1) ⟨[], [], false, e.breaks, e.cursor⟩
  let last := match h.chomping with
    | .strip => []
    | .clip => r.lineEnd
    | .keep => r.lineEnd ++ r.empties
  pure (r.text ++ last, r.cursor)

end SiteSync.Yaml.BlockScalar
