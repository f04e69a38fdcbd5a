/-!
# `SiteSync.Pattern.Error`: why a pattern is refused
-/

set_option autoImplicit false

namespace SiteSync.Pattern

/-- Why a pattern is refused. -/
inductive Error where
  /-- A group is opened and not closed. -/
  | unclosedGroup
  /-- A group is closed that is not open. -/
  | unopenedGroup
  /-- A group name is empty, used before, cut off, or holds a character
  that names do not have. -/
  | badGroupName
  /-- A flag is unknown, repeated, or the list of flags is cut off. -/
  | badFlags
  /-- Looking ahead or behind is not supported. -/
  | lookAround
  /-- A repetition has nothing to repeat. -/
  | nothingToRepeat
  /-- The counts of a repetition are missing, cut off or in the wrong
  order. -/
  | badCounts
  /-- A character class is not closed. -/
  | unclosedClass
  /-- The ends of a range are in the wrong order, or no characters. -/
  | badRange
  /-- An escape is unknown, cut off or names no character. -/
  | badEscape
  /-- No property of characters has this name. -/
  | unknownProperty
  /-- The pattern could match a part of an encoded character. -/
  | splitsCharacters
  /-- Groups and classes are nested too deeply. -/
  | tooDeep
  /-- The compiled pattern is too large. -/
  | tooLarge
deriving Repr, DecidableEq

end SiteSync.Pattern
