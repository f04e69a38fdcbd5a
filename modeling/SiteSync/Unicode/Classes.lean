import SiteSync.Text.Basic
import SiteSync.Unicode.GeneralCategory
import SiteSync.Unicode.BinaryProperty

/-!
# `SiteSync.Unicode.Classes`: the classes of characters that rules ask for

White space, letters, digits and word characters, each defined from the
properties that make it up.
-/

set_option autoImplicit false

namespace SiteSync.Unicode

/-- The categories of a major class, all of whose names start with the
given letter. -/
def majorCategory (letter : Char) : Ranges :=
  (generalCategories.filter fun e => e.names.toList.head? = some letter).flatMap fun e =>
    decodeRanges e.ranges

/-- White space. -/
def whiteSpace : Ranges := named binaryProperties "whitespace"

/-- Decimal digits. -/
def decimalDigits : Ranges := named generalCategories "decimalnumber"

/-- Letters and what is written like them. -/
def alphabetic : Ranges := named binaryProperties "alphabetic"

/-- Everything that has a numeric value. -/
def numeric : Ranges := majorCategory 'n'

/-- The characters of words: letters, marks, decimal digits, connectors
such as the underscore, and the joiners. -/
def wordCharacters : Ranges :=
  alphabetic ++ majorCategory 'm' ++ decimalDigits ++ named generalCategories "pc"
    ++ named binaryProperties "joinc"

/-- Whether a character is white space. -/
def isWhiteSpace (c : Char) : Bool := inRanges whiteSpace c.toNat

/-- Whether a character is a word character. -/
def isWordCharacter (c : Char) : Bool := inRanges wordCharacters c.toNat

/-- Whether a character is a letter. -/
def isAlphabetic (c : Char) : Bool := inRanges alphabetic c.toNat

/-- Whether a character is a letter or has a numeric value. -/
def isAlphanumeric (c : Char) : Bool := isAlphabetic c || inRanges numeric c.toNat

end SiteSync.Unicode
