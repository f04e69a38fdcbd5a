import SiteSync.Unicode.Classes
import SiteSync.Unicode.Script
import SiteSync.Unicode.ScriptExtensions
import SiteSync.Unicode.Age
import SiteSync.Unicode.Segmentation
import SiteSync.Text.Basic

/-!
# `SiteSync.Unicode.Query`: properties of characters by name

A property is asked for by one name (`Lu`, `Greek`, `Alphabetic`) or by
a property and a value (`Script=Greek`). Case, spaces, dashes,
underscores and a leading `is` do not count.
-/

set_option autoImplicit false

namespace SiteSync.Unicode

/-- Whether a character separates the words of a property name. -/
def isNameGap (c : Char) : Bool := c == ' ' || c == '_' || c == '-'

/-- The form in which names are compared: small letters, no gaps, ASCII
only, without a leading `is`. The name `isc` keeps it. -/
def normalName (name : Text) : Text :=
  let strip (t : Text) : Text :=
    ((t.filter fun c => !isNameGap c && c.toNat < 128).map Char.toLower)
  match name with
  | a :: b :: rest =>
    if (a == 'i' || a == 'I') && (b == 's' || b == 'S') then
      if strip rest = ['c'] then ['i', 's', 'c'] else strip rest
    else strip name
  | _ => strip name

/-- The general category with the given name: one category, a group of
categories, or one of the sets `any`, `assigned` and `ascii`. -/
def category? (name : Text) : Option Ranges :=
  let group (names : List String) : Option Ranges :=
    some (names.flatMap (named generalCategories))
  match find? generalCategories name with
  | some rs => some rs
  | none =>
    match String.ofList name with
    | "any" => some [(0, 0x10FFFF)]
    | "ascii" => some [(0, 0x7F)]
    | "assigned" =>
      some ((generalCategories.filter fun e => !(words e.names.toList).contains ['c', 'n']).flatMap
        fun e => decodeRanges e.ranges)
    | "l" | "letter" => group ["lu", "ll", "lt", "lm", "lo"]
    | "lc" | "casedletter" => group ["lu", "ll", "lt"]
    | "m" | "mark" | "combiningmark" => group ["mn", "mc", "me"]
    | "n" | "number" => group ["nd", "nl", "no"]
    | "p" | "punctuation" | "punct" => group ["pc", "pd", "ps", "pe", "pi", "pf", "po"]
    | "s" | "symbol" => group ["sm", "sc", "sk", "so"]
    | "z" | "separator" => group ["zs", "zl", "zp"]
    | "c" | "other" => group ["cc", "cf", "co", "cn"]
    | _ => none

/-- Names that stand for a general category although a property has the
same abbreviation. -/
def categoryFirst : List String := ["cf", "sc", "lc"]

/-- The set that one name asks for: a property, a general category or a
script, in this order. -/
def byName? (name : Text) : Option Ranges :=
  let n := normalName name
  let property :=
    if categoryFirst.contains (String.ofList n) then none else find? binaryProperties n
  property <|> category? n <|> find? scripts n

/-- The characters assigned up to the version with the given name. -/
def upToAge? (name : Text) : Option Ranges :=
  let isAge (e : NamedRanges) : Bool := (words e.names.toList).contains name
  if ages.any isAge then
    some ((ages.takeWhile (!isAge ·) ++ (ages.find? isAge).toList).flatMap fun e =>
      decodeRanges e.ranges)
  else none

/-- The set that a property and a value ask for. -/
def byValue? (property value : Text) : Option Ranges :=
  let v := normalName value
  match String.ofList (normalName property) with
  | "gc" | "generalcategory" => category? v
  | "sc" | "script" => find? scripts v
  | "scx" | "scriptextensions" => find? scriptExtensions v
  | "age" => upToAge? v
  | "gcb" | "graphemeclusterbreak" => find? graphemeClusterBreaks v
  | "wb" | "wordbreak" => find? wordBreaks v
  | "sb" | "sentencebreak" => find? sentenceBreaks v
  | _ => none

end SiteSync.Unicode
