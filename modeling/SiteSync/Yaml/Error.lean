/-!
# `SiteSync.Yaml.Error`: why a YAML text is refused
-/

set_option autoImplicit false

namespace SiteSync.Yaml

/-- Why a YAML text is refused. -/
inductive Error where
  /-- The bytes are no text, or the text holds a character that YAML does
  not admit. -/
  | badCharacter
  /-- A directive is unknown, cut off or given twice. -/
  | badDirective
  /-- A tag is cut off, or its handle is not declared. -/
  | badTag
  /-- An anchor or alias has no name, or is followed by junk. -/
  | badAnchor
  /-- An alias names no anchor before it. -/
  | unknownAlias
  /-- A quoted scalar is not closed, or interrupted by a document mark. -/
  | unclosedQuote
  /-- An escape in a quoted scalar is unknown or names no character. -/
  | badEscape
  /-- The header of a block scalar is followed by junk. -/
  | badBlockHeader
  /-- A tab stands where the indentation is measured. -/
  | tabInIndentation
  /-- A colon stands where a plain scalar in brackets cannot go on. -/
  | unexpectedColon
  /-- A line that has to be a key has no colon. -/
  | missingColon
  /-- An entry, key or value stands where none can begin. -/
  | misplacedIndicator
  /-- A character can begin no token. -/
  | noToken
  /-- The tokens do not make up one document. -/
  | badStructure
  /-- There is more than one document. -/
  | secondDocument
  /-- Collections are nested too deeply. -/
  | tooDeep
  /-- Aliases are followed too often. -/
  | tooManyAliases
  /-- A value is not of the kind that is needed. -/
  | wrongKind
  /-- A field is given twice. -/
  | repeatedField
  /-- An integer is out of range. -/
  | integerTooLarge
deriving Repr, DecidableEq

end SiteSync.Yaml
