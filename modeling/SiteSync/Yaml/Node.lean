import SiteSync.Yaml.Token

/-!
# `SiteSync.Yaml.Node`: the nodes of a YAML document

A document is a tree of scalars, lists and mappings. A node may carry an
anchor, and an alias stands for the node of an anchor; aliases are kept
as numbers, since a node can hold an alias of itself.
-/

set_option autoImplicit false

namespace SiteSync.Yaml

/-- A node. A tag is absent where none is written. -/
inductive Node where
  /-- Stands for the node of an anchor. -/
  | alias (anchor : Nat)
  /-- A scalar. -/
  | scalar (tag : Option Bytes) (style : ScalarStyle) (text : Text)
  /-- A list. -/
  | sequence (tag : Option Bytes) (items : List Node)
  /-- A mapping, in the order it is written in. -/
  | mapping (tag : Option Bytes) (entries : List (Node × Node))

/-- The scalar that stands where nothing is written. -/
def Node.empty : Node := .scalar none .plain []

/-- Whether a node is a scalar without text or marks. -/
def Node.isEmpty : Node → Bool
  | .scalar _ .plain [] => true
  | _ => false

/-- A node with an anchor. -/
structure Anchored where
  /-- The number of the anchor. -/
  anchor : Nat
  /-- How much of the document comes before the node. -/
  start : Nat
  /-- The node. -/
  node : Node

/-- A document. -/
structure Document where
  /-- The node of the document; an empty text has none. -/
  root : Option Node
  /-- The nodes with anchors. -/
  anchored : List Anchored
  /-- The number of scalars, aliases, and starts and ends of
  collections. -/
  size : Nat

/-- The node of an anchor; of several the one that starts last. -/
def Document.node? (d : Document) (anchor : Nat) : Option Node :=
  let later (best : Option Anchored) (a : Anchored) : Option Anchored :=
    if a.anchor ≠ anchor then best
    else
      match best with
      | some b => if b.start ≤ a.start then some a else some b
      | none => some a
  (d.anchored.foldl later none).map (·.node)

end SiteSync.Yaml
