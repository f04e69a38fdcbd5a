import SiteSync.Yaml.Node

/-!
# `SiteSync.Yaml.Node.OfTokens`: from tokens to a document

One recursive function per form of collection. Whatever is left out
where a node may stand, such as the value of a key, reads as the empty
scalar. A text holds at most one document.
-/

set_option autoImplicit false

namespace SiteSync.Yaml

/-- What a tag handle stands for. -/
abbrev Handles := List (Text × Bytes)

/-- The handles that need no declaration. -/
def Handles.standard : Handles :=
  [(['!'], Text.toBytes ['!']), (['!', '!'], Text.toBytes "tag:yaml.org,2002:".toList)]

/-- The state of reading a document. -/
structure Reader where
  /-- The tokens ahead. -/
  tokens : List Token
  /-- The declared handles, before the standard ones. -/
  handles : Handles := []
  /-- The names of anchors with their numbers, the latest first. -/
  names : List (Text × Nat) := []
  /-- The nodes with anchors so far. -/
  anchored : List Anchored := []
  /-- The size of what has been read. -/
  size : Nat := 0

/-- A step of reading a document. -/
abbrev Read (α : Type) : Type := StateT Reader (Except Error) α

namespace Reader

/-- The next token. -/
def peek : Read (Option Token) := return (← get).tokens.head?

/-- Goes on behind the next token. -/
def skip : Read Unit := modify fun r => { r with tokens := r.tokens.tail }

/-- Goes on behind the next token if it is `t`. -/
def accept (t : Token) : Read Bool := do
  if (← peek) = some t then
    skip
    pure true
  else pure false

/-- Requires the next token to be `t`. -/
def expect (t : Token) : Read Unit := do
  if !(← accept t) then throw .badStructure

/-- Whether the next token is one of `ts`. -/
def isAt (ts : List Token) : Read Bool := return (← peek).any ts.contains

/-- Counts a part of the document. -/
def count : Read Unit := modify fun r => { r with size := r.size + 1 }

/-! ### Properties of nodes -/

/-- Reads an anchor, if there is one. -/
def anchor? : Read (Option Text) := do
  match ← peek with
  | some (.anchor name) =>
    skip
    pure (some name)
  | _ => pure none

/-- Reads a tag, if there is one, and puts the meaning of its handle in
front. -/
def tag? : Read (Option Bytes) := do
  match ← peek with
  | some (.tag handle suffix) =>
    skip
    if handle = [] then pure (some suffix)
    else
      match ((← get).handles ++ Handles.standard).lookup handle with
      | some meaning => pure (some (meaning ++ suffix))
      | none => throw .badTag
  | _ => pure none

/-- Reads an anchor and a tag, in either order. -/
def properties : Read (Option Text × Option Bytes) := do
  match ← anchor? with
  | some name => pure (some name, ← tag?)
  | none => do
    match ← tag? with
    | some tag => pure (← anchor?, some tag)
    | none => pure (none, none)

/-- Gives an anchor its number: how many names there are before it. A
name that is used again is not counted twice. -/
def declare (name : Text) : Read Nat := do
  let r ← get
  let number := r.names.length
  set { r with names := (name, number) :: r.names.filter (·.1 ≠ name) }
  pure number

/-- Reads a node with an anchor by `read`, and keeps it. -/
def keeping (name : Option Text) (read : Read Node) : Read Node := do
  match name with
  | none => read
  | some name => do
    let number ← declare name
    let start := (← get).size
    let node ← read
    modify fun r => { r with anchored := ⟨number, start, node⟩ :: r.anchored }
    pure node

/-- The node of an alias. -/
def readAlias (name : Text) : Read Node := do
  skip
  count
  match (← get).names.lookup name with
  | some number => pure (.alias number)
  | none => throw .unknownAlias

/-- The tag `!`, which says that a scalar has none. -/
def nonSpecificTag : Bytes := Text.toBytes ['!']

/-- The empty scalar, counted as a part of the document. -/
def nothing : Read Node := do
  count
  pure .empty

/-- The tokens that show that a key or value of an indented mapping is
left out. -/
def afterBlockKey : List Token := [.key, .value, .blockEnd]

mutual

/-- Reads a node. Indented collections are admitted if `block`, and a
list that is not indented more than its key if `flush`. -/
def node : Nat → Bool → Bool → Read Node
  | 0, _, _ => throw .badStructure
  | fuel + 1, block, flush => do
    match ← peek with
    | some (.alias name) => readAlias name
    | _ => do
      let (name, tag) ← properties
      keeping name (content fuel block flush name.isSome tag)

/-- Reads what follows the properties of a node. -/
def content : Nat → Bool → Bool → Bool → Option Bytes → Read Node
  | 0, _, _, _, _ => throw .badStructure
  | fuel + 1, block, flush, anchored, tag => do
    count
    match ← peek with
    | some .blockEntry =>
      if flush then do
        let items ← flushItems fuel
        pure (.sequence tag items)
      else left anchored tag
    | some (.scalar style text) => do
      skip
      pure (.scalar (if tag = some nonSpecificTag then none else tag) style text)
    | some .flowSequenceStart => do
      skip
      let items ← flowItems fuel true
      pure (.sequence tag items)
    | some .flowMappingStart => do
      skip
      let entries ← flowEntries fuel true
      pure (.mapping tag entries)
    | some .blockSequenceStart =>
      if block then do
        skip
        let items ← blockItems fuel
        pure (.sequence tag items)
      else left anchored tag
    | some .blockMappingStart =>
      if block then do
        skip
        let entries ← blockEntries fuel
        pure (.mapping tag entries)
      else left anchored tag
    | _ => left anchored tag

/-- The empty scalar, which needs an anchor or a tag. -/
def left (anchored : Bool) (tag : Option Bytes) : Read Node :=
  if anchored || tag.isSome then pure (.scalar tag .plain []) else throw .badStructure

/-- Reads the items of an indented list. -/
def blockItems : Nat → Read (List Node)
  | 0 => throw .badStructure
  | fuel + 1 => do
    if ← accept .blockEntry then do
      let item ←
        if ← isAt [.blockEntry, .blockEnd] then nothing else node fuel true false
      return item :: (← blockItems fuel)
    else do
      expect .blockEnd
      count
      pure []

/-- Reads the items of a list that is not indented more than its key. -/
def flushItems : Nat → Read (List Node)
  | 0 => throw .badStructure
  | fuel + 1 => do
    if ← accept .blockEntry then do
      let item ←
        if ← isAt (.blockEntry :: afterBlockKey) then nothing else node fuel true false
      return item :: (← flushItems fuel)
    else do
      count
      pure []

/-- Reads the entries of an indented mapping. -/
def blockEntries : Nat → Read (List (Node × Node))
  | 0 => throw .badStructure
  | fuel + 1 => do
    if ← accept .key then do
      let key ← if ← isAt afterBlockKey then nothing else node fuel true true
      let value ←
        if ← accept .value then do
          if ← isAt afterBlockKey then nothing else node fuel true true
        else nothing
      return (key, value) :: (← blockEntries fuel)
    else do
      expect .blockEnd
      count
      pure []

/-- Reads the items of a list in brackets. -/
def flowItems : Nat → Bool → Read (List Node)
  | 0, _ => throw .badStructure
  | fuel + 1, first => do
    if ← accept .flowSequenceEnd then do
      count
      pure []
    else do
      if !first then expect .flowEntry
      if ← accept .key then do
        let entry ← pair fuel
        return .mapping none [entry] :: (← flowItems fuel false)
      else if ← accept .flowSequenceEnd then do
        count
        pure []
      else do
        let item ← node fuel false false
        return item :: (← flowItems fuel false)

/-- Reads a mapping of one entry in a list in brackets. A key that is
left out takes the token after it away with it. -/
def pair : Nat → Read (Node × Node)
  | 0 => throw .badStructure
  | fuel + 1 => do
    count
    let key ←
      if ← isAt [.value, .flowEntry, .flowSequenceEnd] then do
        skip
        nothing
      else node fuel false false
    let value ←
      if ← accept .value then do
        if ← isAt [.flowEntry, .flowSequenceEnd] then nothing else node fuel false false
      else nothing
    count
    pure (key, value)

/-- Reads the entries of a mapping in braces. -/
def flowEntries : Nat → Bool → Read (List (Node × Node))
  | 0, _ => throw .badStructure
  | fuel + 1, first => do
    if ← accept .flowMappingEnd then do
      count
      pure []
    else do
      if !first then expect .flowEntry
      if ← accept .key then do
        let key ←
          if ← isAt [.value, .flowEntry, .flowMappingEnd] then nothing
          else node fuel false false
        let value ←
          if ← accept .value then do
            if ← isAt [.flowEntry, .flowMappingEnd] then nothing else node fuel false false
          else nothing
        return (key, value) :: (← flowEntries fuel false)
      else if ← accept .flowMappingEnd then do
        count
        pure []
      else do
        let key ← node fuel false false
        let value ← nothing
        return (key, value) :: (← flowEntries fuel false)

end

/-! ### Documents -/

/-- Reads the directives of a document; `versioned` says whether there
was a version. -/
def directives : Nat → Bool → Read Unit
  | 0, _ => pure ()
  | fuel + 1, versioned => do
    match ← peek with
    | some (.version major minor) =>
      if versioned || major ≠ 1 || (minor ≠ 1 && minor ≠ 2) then throw .badDirective
      skip
      directives fuel true
    | some (.handle name meaning) =>
      let r ← get
      if (r.handles.lookup name).isSome then throw .badDirective
      set { r with handles := r.handles ++ [(name, meaning)] }
      skip
      directives fuel versioned
    | _ => pure ()

/-- The tokens that show that a document has no node. -/
def isBorder : Option Token → Bool
  | none => true
  | some (.version _ _) => true
  | some (.handle _ _) => true
  | some .documentStart => true
  | some .documentEnd => true
  | _ => false

/-- Requires the text to end, but for marks that end the document. -/
def finish : Nat → Read Unit
  | 0 => pure ()
  | fuel + 1 => do
    match ← peek with
    | none => pure ()
    | some .documentEnd =>
      skip
      finish fuel
    | some _ => throw .secondDocument

/-- Reads a document. -/
def document (fuel : Nat) : Read (Option Node) := do
  match ← peek with
  | none => pure none
  | some t => do
    let explicit := isBorder (some t) && t != .documentEnd
    let root ←
      if explicit then do
        directives fuel false
        expect .documentStart
        if isBorder (← peek) then nothing else node fuel true false
      else node fuel true false
    finish fuel
    pure (some root)

end Reader

/-- The document of a list of tokens. -/
def Document.ofTokens (ts : List Token) : Except Error Document := do
  let (root, r) ← (Reader.document (4 * ts.length + 8)).run { tokens := ts }
  pure ⟨root, r.anchored, r.size⟩

end SiteSync.Yaml
