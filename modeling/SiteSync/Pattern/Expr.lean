import SiteSync.Pattern.CharClass
import SiteSync.Unicode.Classes

/-!
# `SiteSync.Pattern.Expr`: matching expressions

An expression matches a stretch of text at a place in a text: whether an
assertion such as `\b` holds depends on the characters before and after
the place. `isMatch` says whether an expression matches anywhere in a
text.

Matching runs through the text once and keeps the set of what is left to
match: `derivatives` gives, for one character, what an expression still
has to match behind it, and `nullable` says whether an expression
matches the empty stretch at a place.
-/

set_option autoImplicit false

namespace SiteSync.Pattern

/-- Where a place in a text may be. Those about words know two kinds of
words: of all word characters, or of the ASCII ones. -/
inductive Anchor where
  /-- The start of the text. -/
  | textStart
  /-- The end of the text. -/
  | textEnd
  /-- The start of a line; lines end with a line feed. -/
  | lineStart
  /-- The end of a line; lines end with a line feed. -/
  | lineEnd
  /-- The start of a line; lines end with a carriage return, a line
  feed, or both. -/
  | lineStartCrlf
  /-- The end of a line; lines end with a carriage return, a line feed,
  or both. -/
  | lineEndCrlf
  /-- Where a word starts or ends. -/
  | wordBoundary (ascii : Bool)
  /-- Where no word starts or ends. -/
  | notWordBoundary (ascii : Bool)
  /-- Where a word starts. -/
  | wordStart (ascii : Bool)
  /-- Where a word ends. -/
  | wordEnd (ascii : Bool)
  /-- Where no word character comes before. -/
  | wordStartHalf (ascii : Bool)
  /-- Where no word character follows. -/
  | wordEndHalf (ascii : Bool)
deriving Repr, DecidableEq

/-- Whether a character is a letter or digit of ASCII, or the
underscore. -/
def isAsciiWord (c : Char) : Bool := c.isAlphanum || c == '_'

/-- Whether a word character stands there; none stands beyond the ends
of the text. -/
def isWordAt (ascii : Bool) : Option Char → Bool
  | none => false
  | some c => if ascii then isAsciiWord c else Unicode.isWordCharacter c

/-- Whether an anchor holds between two characters; `none` is the end of
the text on that side. -/
def Anchor.holds (before after : Option Char) : Anchor → Bool
  | .textStart => before.isNone
  | .textEnd => after.isNone
  | .lineStart => before.isNone || before == some '\n'
  | .lineEnd => after.isNone || after == some '\n'
  | .lineStartCrlf =>
    before.isNone || before == some '\n' || (before == some '\r' && after != some '\n')
  | .lineEndCrlf =>
    after.isNone || after == some '\r' || (after == some '\n' && before != some '\r')
  | .wordBoundary ascii => isWordAt ascii before != isWordAt ascii after
  | .notWordBoundary ascii => isWordAt ascii before == isWordAt ascii after
  | .wordStart ascii => !isWordAt ascii before && isWordAt ascii after
  | .wordEnd ascii => isWordAt ascii before && !isWordAt ascii after
  | .wordStartHalf ascii => !isWordAt ascii before
  | .wordEndHalf ascii => !isWordAt ascii after

/-- A matching expression. -/
inductive Expr where
  /-- The empty stretch. -/
  | empty
  /-- One character of a class. -/
  | set (c : CharClass)
  /-- The empty stretch, where the anchor holds. -/
  | anchor (a : Anchor)
  /-- One expression after the other. -/
  | seq (a b : Expr)
  /-- Either expression. -/
  | alt (a b : Expr)
  /-- At least `min` times in a row and, if there is a `max`, at most so
  often. -/
  | repeated (min : Nat) (max : Option Nat) (e : Expr)
deriving Repr, DecidableEq

namespace Expr

/-- Whether an expression matches the empty stretch between two
characters. -/
def nullable (before after : Option Char) : Expr → Bool
  | .empty => true
  | .set _ => false
  | .anchor a => a.holds before after
  | .seq a b => nullable before after a && nullable before after b
  | .alt a b => nullable before after a || nullable before after b
  | .repeated min _ e => min == 0 || nullable before after e

/-- `a` and then `b`, where an `a` that is done leaves `b`. -/
def followedBy (a b : Expr) : Expr :=
  match a with
  | .empty => b
  | a => .seq a b

/-- What may be left to match of an expression once it has matched the
character `c`, standing after `before`. A repetition whose body matches
the empty stretch there owes nothing any more: the copies that were
still owed can all match it. -/
def derivatives (before : Option Char) (c : Char) : Expr → List Expr
  | .empty => []
  | .anchor _ => []
  | .set s => if s.contains c.toNat then [.empty] else []
  | .seq a b =>
    (derivatives before c a).map (followedBy · b) ++
      if nullable before (some c) a then derivatives before c b else []
  | .alt a b => derivatives before c a ++ derivatives before c b
  | .repeated min max e =>
    if max = some 0 then []
    else
      let owed := if nullable before (some c) e then 0 else min - 1
      (derivatives before c e).map (followedBy · (.repeated owed (max.map (· - 1)) e))

/-- Adds to a list what it does not hold yet. -/
def insertNew (e : Expr) (es : List Expr) : List Expr := if es.contains e then es else e :: es

/-- What is left of any of the expressions behind a character, each
once. -/
def step (before : Option Char) (c : Char) (es : List Expr) : List Expr :=
  (es.flatMap (derivatives before c)).foldr insertNew []

/-- Whether one of the expressions left over from earlier starts, or
`e` from here on, comes to a match. -/
def search (e : Expr) (before : Option Char) (left : List Expr) : Text → Bool
  | [] => (e :: left).any (nullable before none)
  | c :: cs =>
    (e :: left).any (nullable before (some c)) ||
      search e (some c) (step before c (e :: left)) cs

/-- Whether the expression matches some stretch of the text. -/
def isMatch (e : Expr) (t : Text) : Bool := search e none [] t

end Expr

end SiteSync.Pattern
