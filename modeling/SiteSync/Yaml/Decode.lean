import SiteSync.Yaml.Node.OfTokens
import SiteSync.Yaml.Resolve
import SiteSync.Yaml.Token.Lexer
import SiteSync.Headers

/-!
# `SiteSync.Yaml.Decode`: reading values out of a document

A decoder knows what kind of value it needs where. It follows aliases,
but only so often as to keep a small document from growing without
bound, and nests only so deep.
-/

set_option autoImplicit false

namespace SiteSync.Yaml

/-- A step of reading a value out of a document. The state counts the
aliases that were followed. -/
abbrev Decode (α : Type) : Type := ReaderT Document (StateT Nat (Except Error)) α

namespace Decode

/-- How deep collections may be nested. -/
def maxDepth : Nat := 128

/-- How many aliases may be followed for each part of the document. -/
def aliasesPerPart : Nat := 100

/-- The node that an alias stands for; any other node is itself. -/
def follow (n : Node) : Decode Node := do
  match n with
  | .alias anchor =>
    let d ← read
    let followed := (← get) + 1
    set followed
    if d.size * aliasesPerPart < followed then throw .tooManyAliases
    match d.node? anchor with
    | some target => pure target
    | none => throw .unknownAlias
  | n => pure n

/-- A scalar as a text, however it is written. -/
def text (n : Node) : Decode Text := do
  match ← follow n with
  | .scalar _ _ t => pure t
  | _ => throw .wrongKind

/-- A scalar as a truth value. -/
def bool (n : Node) : Decode Bool := do
  match ← follow n with
  | .scalar tag style t =>
    if style = .plain ∨ (style = .literal ∧ tag = some (standardTag "bool")) then
      match bool? t with
      | some b => pure b
      | none => throw .wrongKind
    else throw .wrongKind
  | _ => throw .wrongKind

/-- The items of a list; the empty scalar is the empty list. -/
def items (n : Node) : Decode (List Node) := do
  match ← follow n with
  | .sequence _ items => pure items
  | n => if n.isEmpty then pure [] else throw .wrongKind

/-- The entries of a mapping; the empty scalar is the empty mapping. -/
def entries (n : Node) : Decode (List (Node × Node)) := do
  match ← follow n with
  | .mapping _ entries => pure entries
  | n => if n.isEmpty then pure [] else throw .wrongKind

/-- The entries of a mapping with their keys as texts. -/
def fields (n : Node) : Decode (List (Text × Node)) := do
  (← entries n).mapM fun (k, v) => return (← text k, v)

/-- A mapping from texts to texts; of entries with one key the last
stays. -/
def headers (n : Node) : Decode Headers := do
  return Headers.ofList (← (← fields n).mapM fun (k, v) => return (k, ← text v))

/-- What a value of any kind amounts to for a setting that may hold a
text. -/
inductive Loose where
  /-- Null. -/
  | null
  /-- A text. -/
  | text (t : Text)
  /-- A value that is neither. -/
  | other

/-- What a scalar amounts to. -/
def looseScalar (tag : Option Bytes) (style : ScalarStyle) (t : Text) : Decode Loose := do
  match resolveScalar tag style t with
  | .ok .null => pure .null
  | .ok .text => pure (.text t)
  | .ok (.int true) => throw .integerTooLarge
  | .ok _ => pure .other
  | .error e => throw e

mutual

/-- What a value amounts to. All of it has to be well formed, and
collections in it may be nested `depth` deep. -/
def loose : Nat → Node → Decode Loose
  | depth, n => do
    match ← follow n with
    | .alias _ => throw .unknownAlias
    | .scalar tag style t => looseScalar tag style t
    | .sequence tag items =>
      match depth with
      | 0 => throw .tooDeep
      | depth + 1 => do
        if tag.any isLocalTag then throw .wrongKind
        looseAll depth items
    | .mapping tag entries =>
      match depth with
      | 0 => throw .tooDeep
      | depth + 1 => do
        if tag.any isLocalTag then throw .wrongKind
        looseAll depth (entries.flatMap fun e => [e.1, e.2])

/-- Makes sure that all nodes of a collection are well formed. -/
def looseAll : Nat → List Node → Decode Loose
  | _, [] => pure .other
  | depth, n :: ns => do
    let _ ← loose depth n
    looseAll depth ns

end

end Decode

end SiteSync.Yaml
