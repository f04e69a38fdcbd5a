import SiteSync.Text.Basic
import SiteSync.Unicode.Classes

/-!
# `SiteSync.Text.Quoted`: text between double quotes

Messages show a pattern or a list of paths between double quotes, so
that its ends are seen. Quotes, backslashes and whatever does not print
by itself are escaped.
-/

set_option autoImplicit false

namespace SiteSync.Text

/-- The categories of the characters that do not print: controls,
formats, unassigned and private ones, and separators. -/
def unprintedCategories : List String := ["cc", "cf", "cn", "co", "zl", "zp", "zs"]

/-- The characters that do not print. -/
def unprinted : Unicode.Ranges :=
  unprintedCategories.flatMap (Unicode.named Unicode.generalCategories)

/-- The characters that print as a part of the character before them. -/
def extending : Unicode.Ranges := Unicode.named Unicode.binaryProperties "grext"

/-- Whether a character stands for itself between quotes. -/
def printsPlainly (c : Char) : Bool :=
  c == ' ' || !(Unicode.inRanges extending c.toNat || Unicode.inRanges unprinted c.toNat)

/-- The written form of a character between quotes. -/
def quoteChar (c : Char) : Text :=
  match c with
  | '\x00' => ['\\', '0']
  | '\t' => ['\\', 't']
  | '\r' => ['\\', 'r']
  | '\n' => ['\\', 'n']
  | '\\' => ['\\', '\\']
  | '"' => ['\\', '"']
  | c =>
    if c.toNat < 127 && ' ' ≤ c || printsPlainly c then [c]
    else ['\\', 'u', '\x7b'] ++ Nat.toDigits 16 c.toNat ++ ['\x7d']

/-- The text between quotes. -/
def quote (t : Text) : Text := '"' :: t.flatMap quoteChar ++ ['"']

/-- A list of texts between brackets, each between quotes. -/
def quoteList (ts : List Text) : Text :=
  let rec inner : List Text → Text
    | [] => []
    | [t] => quote t
    | t :: ts => quote t ++ [',', ' '] ++ inner ts
  '[' :: inner ts ++ [']']

end SiteSync.Text
