import SiteSync.Text.Basic

/-!
# `SiteSync.Yaml.Chars`: the classes of characters in YAML

What may stand in a YAML text at all, what ends a line, what separates
words, and what is punctuation of a flow collection.
-/

set_option autoImplicit false

namespace SiteSync.Yaml

/-- The byte order mark. -/
def byteOrderMark : Char := Char.ofNat 0xfeff

/-- Whether a character ends a line. -/
def isBreak (c : Char) : Bool :=
  c == '\n' || c == '\r' || c.toNat == 0x85 || c.toNat == 0x2028 || c.toNat == 0x2029

/-- Whether a character is a space or a tab. -/
def isBlank (c : Char) : Bool := c == ' ' || c == '\t'

/-- Whether a character separates words: a blank or the end of a line. -/
def isSeparator (c : Char) : Bool := isBlank c || isBreak c

/-- Whether a character is a letter, a digit, `-` or `_`. -/
def isWord (c : Char) : Bool := c.isAlphanum || c == '-' || c == '_'

/-- Whether a character is a bracket or comma of a flow collection. -/
def isFlowMark (c : Char) : Bool :=
  c == ',' || c == '[' || c == ']' || c == '\x7b' || c == '\x7d'

/-- Whether a character may stand in a YAML text. -/
def isAdmitted (c : Char) : Bool :=
  let n := c.toNat
  n == 0x09 || n == 0x0a || n == 0x0d || (0x20 ≤ n && n ≤ 0x7e) || n == 0x85
    || (0xa0 ≤ n && n ≤ 0xd7ff) || (0xe000 ≤ n && n ≤ 0xfffd) || 0x10000 ≤ n

/-- Whether a word ends here: at a separator or the end of the text. -/
def atWordEnd : Text → Bool
  | [] => true
  | c :: _ => isSeparator c

/-- The value of a hexadecimal digit. -/
def hexDigit? (c : Char) : Option Nat :=
  if '0' ≤ c && c ≤ '9' then some (c.toNat - '0'.toNat)
  else if 'a' ≤ c && c ≤ 'f' then some (c.toNat - 'a'.toNat + 10)
  else if 'A' ≤ c && c ≤ 'F' then some (c.toNat - 'A'.toNat + 10)
  else none

/-- The value of the first `n` characters as hexadecimal digits. -/
def hexNumber? (n : Nat) (t : Text) : Option Nat :=
  if t.length < n then none
  else (t.take n).foldlM (fun v c => (hexDigit? c).map (v * 16 + ·)) 0

end SiteSync.Yaml
