import SiteSync.Yaml.Error
import SiteSync.Text.Basic

/-!
# `SiteSync.Yaml.Token`: the tokens of a YAML text

Tokens make the indentation explicit: a block collection has a start and
an end, and a key is announced before the text that turns out to be one.
-/

set_option autoImplicit false

namespace SiteSync.Yaml

/-- How a scalar is written. -/
inductive ScalarStyle where
  /-- Without any marks. -/
  | plain
  /-- Between quotes. -/
  | quoted
  /-- As a block whose line breaks stay. -/
  | literal
  /-- As a block whose line breaks fold. -/
  | folded
deriving Repr, DecidableEq

/-- A token. -/
inductive Token where
  /-- The YAML version that a document asks for. -/
  | version (major minor : Nat)
  /-- The declaration of a tag handle, with what it stands for. -/
  | handle (name : Text) (meaning : Bytes)
  /-- The mark that starts a document. -/
  | documentStart
  /-- The mark that ends a document. -/
  | documentEnd
  /-- An indented list starts. -/
  | blockSequenceStart
  /-- An indented mapping starts. -/
  | blockMappingStart
  /-- An indented collection ends. -/
  | blockEnd
  /-- A list in brackets starts. -/
  | flowSequenceStart
  /-- A list in brackets ends. -/
  | flowSequenceEnd
  /-- A mapping in braces starts. -/
  | flowMappingStart
  /-- A mapping in braces ends. -/
  | flowMappingEnd
  /-- An item of an indented list starts. -/
  | blockEntry
  /-- An item ends within brackets or braces. -/
  | flowEntry
  /-- A key follows. -/
  | key
  /-- A value follows. -/
  | value
  /-- The node of an anchor stands here. -/
  | alias (name : Text)
  /-- The next node has a name. -/
  | anchor (name : Text)
  /-- The next node has a tag; without a handle the suffix is all of
  it. -/
  | tag (handle : Text) (suffix : Bytes)
  /-- A scalar. -/
  | scalar (style : ScalarStyle) (text : Text)
deriving Repr, DecidableEq

end SiteSync.Yaml
