import SiteSync.Yaml.Token.BlockScalar
import SiteSync.Yaml.Token.PlainScalar
import SiteSync.Yaml.Token.Properties
import SiteSync.Yaml.Token.QuotedScalar

/-!
# `SiteSync.Yaml.Token.Lexer`: from text to tokens

A key is seen to be one only when its colon comes. The lexer therefore
remembers, for every open collection, where a key may have started; when
the colon comes on the same line and within 1024 characters, the token
that announces the key goes in front of what has been read since.
Indentation that grows opens a block collection, and indentation that
shrinks closes the ones it falls short of.
-/

set_option autoImplicit false

namespace SiteSync.Yaml

/-- A place where a key may have started. -/
structure KeyStart where
  /-- Whether a key has to start here, as the indentation is that of a
  mapping's keys. -/
  required : Bool
  /-- The number of tokens before it. -/
  position : Nat
  /-- The place. -/
  start : Cursor

/-- The state of reading tokens. -/
structure Lexer where
  /-- The place in the text. -/
  cursor : Cursor
  /-- The tokens so far, the latest first. -/
  tokens : List Token := []
  /-- The number of tokens so far. -/
  count : Nat := 0
  /-- The indentation of the current block collection, or -1. -/
  indent : Int := -1
  /-- The indentations of the block collections around it. -/
  outerIndents : List Int := []
  /-- Whether a key may start here. -/
  keyAllowed : Bool := true
  /-- Where a key of the current collection may have started. -/
  keyStart : Option KeyStart := none
  /-- The same for the collections around the open brackets. -/
  outerKeyStarts : List (Option KeyStart) := []

namespace Lexer

/-- Whether the lexer is within brackets or braces. -/
def inFlow (l : Lexer) : Bool := !l.outerKeyStarts.isEmpty

/-- Adds a token. -/
def push (t : Token) (l : Lexer) : Lexer :=
  { l with tokens := t :: l.tokens, count := l.count + 1 }

/-- Adds a token behind the first `position` tokens. -/
def insert (position : Nat) (t : Token) (l : Lexer) : Lexer :=
  let later := l.count - position
  { l with
    tokens := l.tokens.take later ++ t :: l.tokens.drop later
    count := l.count + 1 }

/-- Goes on by `n` characters. -/
def skip (n : Nat) (l : Lexer) : Lexer := { l with cursor := l.cursor.skip n }

/-- Says whether a key may start at the next token. -/
def allowKey (allowed : Bool) (l : Lexer) : Lexer := { l with keyAllowed := allowed }

/-! ### Places where a key may have started -/

/-- Whether a place is too far behind for a key that starts there. -/
def isStale (c : Cursor) (k : KeyStart) : Bool :=
  k.start.line < c.line || k.start.index + 1024 < c.index

/-- Forgets a place that is too far behind. -/
def fresh (c : Cursor) : Option KeyStart → Except Error (Option KeyStart)
  | none => .ok none
  | some k =>
    if !isStale c k then .ok (some k)
    else if k.required then .error .missingColon
    else .ok none

/-- Forgets all places that are too far behind. -/
def dropStale (l : Lexer) : Except Error Lexer := do
  let keyStart ← fresh l.cursor l.keyStart
  let outer ← l.outerKeyStarts.mapM (fresh l.cursor)
  pure { l with keyStart := keyStart, outerKeyStarts := outer }

/-- Forgets where a key of the current collection may have started. -/
def dropKeyStart (l : Lexer) : Except Error Lexer :=
  match l.keyStart with
  | some k => if k.required then .error .missingColon else .ok { l with keyStart := none }
  | none => .ok l

/-- Remembers that a key may start here, if one may. -/
def saveKeyStart (l : Lexer) : Except Error Lexer :=
  if l.keyAllowed then do
    let required := !l.inFlow && l.indent == (l.cursor.column : Int)
    let l ← l.dropKeyStart
    pure { l with keyStart := some ⟨required, l.count, l.cursor⟩ }
  else .ok l

/-! ### Indentation -/

/-- Opens a block collection at a column that exceeds the current
indentation; its token goes behind the first `position` tokens. -/
def openBlock (column position : Nat) (t : Token) (l : Lexer) : Lexer :=
  if l.inFlow || (column : Int) ≤ l.indent then l
  else { l.insert position t with indent := column, outerIndents := l.indent :: l.outerIndents }

/-- Closes the block collections among `outer` and the current one that
are indented by more than `column`. -/
def closeOuter (column : Int) : List Int → Lexer → Lexer
  | [], l => l
  | i :: outer, l =>
    if column < l.indent then
      closeOuter column outer { l.push .blockEnd with indent := i, outerIndents := outer }
    else l

/-- Closes the block collections that are indented by more than
`column`. -/
def closeBlocks (column : Int) (l : Lexer) : Lexer :=
  if l.inFlow then l else closeOuter column l.outerIndents l

/-! ### Between tokens -/

/-- Skips blanks, comments and line ends. A tab counts as a blank only
where no key may start. -/
def skipBlanks : Nat → Lexer → Lexer
  | 0, l => l
  | fuel + 1, l =>
    -- The mark of the byte order counts for nothing at the start of the text.
    let c := if l.cursor.index = 0 ∧ l.cursor.at? byteOrderMark then l.cursor.skip 1 else l.cursor
    let tabs := l.inFlow || !l.keyAllowed
    let c := (c.skipWhile fun x => x == ' ' || (tabs && x == '\t')).skipComment
    if c.atBreak then
      skipBlanks fuel { l with cursor := c.takeBreak.2, keyAllowed := l.keyAllowed || !l.inFlow }
    else { l with cursor := c }

/-! ### One token -/

/-- Ends all block collections at a directive or document mark. -/
def atDocumentBorder (l : Lexer) : Except Error Lexer :=
  (allowKey false) <$> (l.closeBlocks (-1)).dropKeyStart

/-- Reads a directive. -/
def readDirective (l : Lexer) : Except Error Lexer := do
  let l ← l.atDocumentBorder
  let (t, c) ← Token.readDirective l.cursor
  pure { l.push t with cursor := c }

/-- Reads the mark that starts or ends a document. -/
def readDocumentMark (t : Token) (l : Lexer) : Except Error Lexer := do
  let l ← l.atDocumentBorder
  pure ((l.skip 3).push t)

/-- Reads an opening bracket or brace. -/
def openFlow (t : Token) (l : Lexer) : Except Error Lexer := do
  let l ← l.saveKeyStart
  let inner := { l with keyStart := none, outerKeyStarts := l.keyStart :: l.outerKeyStarts }
  pure (((inner.allowKey true).skip 1).push t)

/-- Reads a closing bracket or brace. -/
def closeFlow (t : Token) (l : Lexer) : Except Error Lexer := do
  let l ← l.dropKeyStart
  let outer := match l.outerKeyStarts with
    -- A closing bracket too many is left to those who read the tokens.
    | [] => l
    | k :: ks => { l with keyStart := k, outerKeyStarts := ks }
  pure (((outer.allowKey false).skip 1).push t)

/-- Reads a comma between items. -/
def readFlowEntry (l : Lexer) : Except Error Lexer := do
  let l ← l.dropKeyStart
  pure (((l.allowKey true).skip 1).push .flowEntry)

/-- Makes sure that a block collection may start or go on here, and
opens it if need be. -/
def enterBlock (t : Token) (l : Lexer) : Except Error Lexer :=
  if l.inFlow then .ok l
  else if l.keyAllowed then .ok (l.openBlock l.cursor.column l.count t)
  else .error .misplacedIndicator

/-- Reads the dash of a list item. -/
def readBlockEntry (l : Lexer) : Except Error Lexer := do
  let l ← l.enterBlock .blockSequenceStart
  let l ← l.dropKeyStart
  pure (((l.allowKey true).skip 1).push .blockEntry)

/-- Reads the question mark of a key. -/
def readKey (l : Lexer) : Except Error Lexer := do
  let l ← l.enterBlock .blockMappingStart
  let l ← l.dropKeyStart
  pure (((l.allowKey !l.inFlow).skip 1).push .key)

/-- Reads the colon of a value. -/
def readValue (l : Lexer) : Except Error Lexer :=
  match l.keyStart with
  | some k =>
    -- The mapping starts in front of the key, so its token is put there too.
    let l := (l.insert k.position .key).openBlock k.start.column k.position .blockMappingStart
    .ok ((({ l with keyStart := none }.allowKey false).skip 1).push .value)
  | none => do
    let l ← l.enterBlock .blockMappingStart
    pure (((l.allowKey !l.inFlow).skip 1).push .value)

/-- Reads a token that may be a key or start one. -/
def readKeyLike (read : Cursor → Except Error (Token × Cursor)) (l : Lexer) :
    Except Error Lexer := do
  let l ← l.saveKeyStart
  let (t, c) ← read l.cursor
  pure { (l.allowKey false).push t with cursor := c }

/-- Reads an anchor or alias. -/
def readNamed (t : Text → Token) (l : Lexer) : Except Error Lexer :=
  l.readKeyLike fun c => (fun (name, c) => (t name, c)) <$> Token.readName c

/-- Reads a quoted scalar. -/
def readQuoted (quote : Char) (l : Lexer) : Except Error Lexer :=
  l.readKeyLike fun c =>
    (fun (text, c) => (.scalar .quoted text, c)) <$> QuotedScalar.read quote c

/-- Reads a block scalar. -/
def readBlockScalar (style : ScalarStyle) (l : Lexer) : Except Error Lexer := do
  let l ← l.dropKeyStart
  let (text, c) ← BlockScalar.read (style == .folded) l.indent l.cursor
  pure { (l.allowKey true).push (.scalar style text) with cursor := c }

/-- Reads a plain scalar. -/
def readPlain (l : Lexer) : Except Error Lexer := do
  let l ← l.saveKeyStart
  let r ← PlainScalar.read l.inFlow (l.indent + 1).toNat l.cursor
  pure { (l.allowKey r.broken).push (.scalar .plain r.text) with cursor := r.cursor }

/-- Whether a plain scalar can start with this character. -/
def startsPlain (inFlow : Bool) (c : Char) (rest : Text) : Bool :=
  if c == '-' then !rest.head?.any isBlank
  else if c == '?' || c == ':' then !inFlow && !atWordEnd rest
  else !isSeparator c && !",[]\x7b\x7d#&*!|>'\"%@`".toList.contains c

/-- Reads the token that starts with the first character of the text
ahead. -/
def readToken (c : Char) (rest : Text) (l : Lexer) : Except Error Lexer :=
  let ended := atWordEnd rest
  if l.cursor.column = 0 ∧ c = '%' then l.readDirective
  else if l.cursor.atMark Cursor.startMark then l.readDocumentMark .documentStart
  else if l.cursor.atMark Cursor.endMark then l.readDocumentMark .documentEnd
  else if c = '[' then l.openFlow .flowSequenceStart
  else if c = '\x7b' then l.openFlow .flowMappingStart
  else if c = ']' then l.closeFlow .flowSequenceEnd
  else if c = '\x7d' then l.closeFlow .flowMappingEnd
  else if c = ',' then l.readFlowEntry
  else if c = '-' ∧ ended then l.readBlockEntry
  else if c = '?' ∧ (l.inFlow ∨ ended) then l.readKey
  else if c = ':' ∧ (l.inFlow ∨ ended) then l.readValue
  else if c = '*' then l.readNamed .alias
  else if c = '&' then l.readNamed .anchor
  else if c = '!' then l.readKeyLike (Token.readTag l.inFlow)
  else if c = '|' ∧ !l.inFlow then l.readBlockScalar .literal
  else if c = '>' ∧ !l.inFlow then l.readBlockScalar .folded
  else if c = '\'' ∨ c = '"' then l.readQuoted c
  else if startsPlain l.inFlow c rest then l.readPlain
  else .error .noToken

/-- Ends the last line and all block collections. -/
def finish (l : Lexer) : Except Error Lexer := (l.closeBlocks (-1)).dropKeyStart

/-- Reads tokens to the end of the text, which is shorter than `fuel`:
every token takes at least one character. -/
def run : Nat → Lexer → Except Error Lexer
  | 0, l => l.finish
  | fuel + 1, l => do
    let l ← (l.skipBlanks (fuel + 1)).dropStale
    let l := l.closeBlocks l.cursor.column
    match l.cursor.rest with
    | [] => l.finish
    | c :: rest => do
      let l ← l.readToken c rest
      run fuel l

end Lexer

namespace Token

/-- The tokens of a text. -/
def ofText (t : Text) : Except Error (List Token) :=
  if t.all isAdmitted then
    (fun l => l.tokens.reverse) <$> Lexer.run (t.length + 1) { cursor := ⟨t, 0, 0, 0⟩ }
  else .error .badCharacter

end Token

end SiteSync.Yaml
