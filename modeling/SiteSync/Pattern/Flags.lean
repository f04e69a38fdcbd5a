import SiteSync.Pattern.Expr
import SiteSync.Pattern.Error
import SiteSync.Unicode.Query

/-!
# `SiteSync.Pattern.Flags`: what the parts of a pattern mean under flags

Flags such as `(?i)` change how a literal, a class or an assertion is
read. This module gives each part its meaning under the flags in force.
Without the flag `u` classes are sets of bytes; such a class is refused
if it could match a byte that is not a whole character.
-/

set_option autoImplicit false

namespace SiteSync.Pattern

/-- The flags in force. -/
structure Flags where
  /-- `i`: case does not count. -/
  ignoreCase : Bool := false
  /-- `m`: `^` and `$` hold at every line. -/
  multiLine : Bool := false
  /-- `s`: a dot matches the line feed, too. -/
  dotNewline : Bool := false
  /-- `U`: repetitions prefer few copies. It changes no answer. -/
  swapGreed : Bool := false
  /-- `u`: classes are sets of characters, not of bytes. -/
  unicode : Bool := true
  /-- `R`: lines end with a carriage return, a line feed, or both. -/
  crlf : Bool := false
  /-- `x`: white space and comments in the pattern do not count. -/
  ignoreSpace : Bool := false
deriving Repr, DecidableEq

/-- The classes that one letter asks for. -/
inductive Shorthand where
  /-- `\d`: decimal digits. -/
  | digit
  /-- `\s`: white space. -/
  | space
  /-- `\w`: word characters. -/
  | word
deriving Repr, DecidableEq

/-- A character of a pattern. -/
structure Literal where
  /-- The character. -/
  char : Char
  /-- Whether it is written as a byte, `\xFF`. -/
  asByte : Bool := false
deriving Repr, DecidableEq

/-- The assertions of a pattern, before flags settle which anchor they
are. -/
inductive Assertion where
  /-- `^`: the start of the text or of a line. -/
  | caret
  /-- `$`: the end of the text or of a line. -/
  | dollar
  /-- `\A`: the start of the text. -/
  | textStart
  /-- `\z`: the end of the text. -/
  | textEnd
  /-- `\b`: where a word starts or ends. -/
  | wordBoundary
  /-- `\B`: where no word starts or ends. -/
  | notWordBoundary
  /-- Where a word starts. -/
  | wordStart
  /-- Where a word ends. -/
  | wordEnd
  /-- Where no word character comes before. -/
  | wordStartHalf
  /-- Where no word character follows. -/
  | wordEndHalf
deriving Repr, DecidableEq

/-- What a single symbol or escape of a pattern stands for. -/
inductive Atom where
  /-- A character. -/
  | literal (l : Literal)
  /-- A class that one letter asks for, or everything else. -/
  | shorthand (s : Shorthand) (negated : Bool)
  /-- The characters with a property, or all others. -/
  | property (rs : List (Nat × Nat)) (negated : Bool)
  /-- An assertion. -/
  | assertion (a : Assertion)
deriving Repr, DecidableEq

/-- The ASCII classes that have a name, as in `[:alpha:]`. -/
def asciiClass? (name : String) : Option (List (Nat × Nat)) :=
  match name with
  | "alnum" => some [(48, 57), (65, 90), (97, 122)]
  | "alpha" => some [(65, 90), (97, 122)]
  | "ascii" => some [(0, 127)]
  | "blank" => some [(9, 9), (32, 32)]
  | "cntrl" => some [(0, 31), (127, 127)]
  | "digit" => some [(48, 57)]
  | "graph" => some [(33, 126)]
  | "lower" => some [(97, 122)]
  | "print" => some [(32, 126)]
  | "punct" => some [(33, 47), (58, 64), (91, 96), (123, 126)]
  | "space" => some [(9, 13), (32, 32)]
  | "upper" => some [(65, 90)]
  | "word" => some [(48, 57), (65, 90), (95, 95), (97, 122)]
  | "xdigit" => some [(48, 57), (65, 70), (97, 102)]
  | _ => none

namespace Flags

/-- The class closed under change of case, if case does not count. -/
def fold (f : Flags) (c : CharClass) : CharClass :=
  if f.ignoreCase then if f.unicode then .foldCase c else .foldAscii c else c

/-- The class, or everything else. The rest of a set of bytes holds
bytes that are no characters. -/
def negateIf (f : Flags) (negated : Bool) (c : CharClass) : Except Error CharClass :=
  if negated then if f.unicode then .ok (.negate c) else .error .splitsCharacters
  else .ok c

/-- The class of a shorthand. -/
def shorthand (f : Flags) (s : Shorthand) (negated : Bool) : Except Error CharClass :=
  f.negateIf negated <|
    match s, f.unicode with
    | .digit, true => .ranges Unicode.decimalDigits
    | .space, true => .ranges Unicode.whiteSpace
    | .word, true => .ranges Unicode.wordCharacters
    | .digit, false => .ranges [(48, 57)]
    | .space, false => .ranges [(9, 13), (32, 32)]
    | .word, false => .ranges [(48, 57), (65, 90), (95, 95), (97, 122)]

/-- The class of a property. -/
def property (f : Flags) (rs : List (Nat × Nat)) (negated : Bool) : Except Error CharClass :=
  if f.unicode then f.negateIf negated (f.fold (.ranges rs)) else .error .splitsCharacters

/-- Whether a literal is a byte that is not a whole character. -/
def isBareByte (f : Flags) (l : Literal) : Bool :=
  !f.unicode && l.asByte && 128 ≤ l.char.toNat

/-- The code point of a literal inside a class. -/
def member (f : Flags) (l : Literal) : Except Error Nat :=
  if f.unicode || l.char.toNat < 128 then .ok l.char.toNat else .error .splitsCharacters

/-- The expression of an anchor. -/
def anchor (f : Flags) : Assertion → Anchor
  | .caret => if f.multiLine then if f.crlf then .lineStartCrlf else .lineStart else .textStart
  | .dollar => if f.multiLine then if f.crlf then .lineEndCrlf else .lineEnd else .textEnd
  | .textStart => .textStart
  | .textEnd => .textEnd
  | .wordBoundary => .wordBoundary (!f.unicode)
  | .notWordBoundary => .notWordBoundary (!f.unicode)
  | .wordStart => .wordStart (!f.unicode)
  | .wordEnd => .wordEnd (!f.unicode)
  | .wordStartHalf => .wordStartHalf (!f.unicode)
  | .wordEndHalf => .wordEndHalf (!f.unicode)

/-- The expression of a literal: its character or, if case does not
count, whatever differs from it only in case. -/
def literal (f : Flags) (l : Literal) : Except Error Expr :=
  if f.isBareByte l then .error .splitsCharacters
  else .ok (.set (f.fold (CharClass.ofChar l.char)))

/-- The expression of an atom. -/
def atom (f : Flags) : Atom → Except Error Expr
  | .literal l => f.literal l
  | .shorthand s negated => (f.shorthand s negated).map Expr.set
  | .property rs negated => (f.property rs negated).map Expr.set
  | .assertion a => .ok (.anchor (f.anchor a))

/-- The class of an atom inside brackets. An assertion is no class. -/
def atomClass (f : Flags) : Atom → Except Error CharClass
  | .literal l => (f.member l).map CharClass.single
  | .shorthand s negated => f.shorthand s negated
  | .property rs negated => f.property rs negated
  | .assertion _ => .error .badEscape

/-- The class of a named ASCII class inside brackets. -/
def asciiMember (f : Flags) (rs : List (Nat × Nat)) (negated : Bool) : Except Error CharClass :=
  f.negateIf negated (f.fold (.ranges rs))

/-- The class of everything between brackets. -/
def bracket (f : Flags) (negated : Bool) (c : CharClass) : Except Error CharClass :=
  f.negateIf negated (f.fold c)

/-- The expression of a dot. -/
def dot (f : Flags) : Except Error Expr :=
  if !f.unicode then .error .splitsCharacters
  else if f.dotNewline then .ok (.set (.range 0 CharClass.lastCodePoint))
  else if f.crlf then .ok (.set (.negate (.ranges [(10, 10), (13, 13)])))
  else .ok (.set (.negate (.single 10)))

end Flags

end SiteSync.Pattern
