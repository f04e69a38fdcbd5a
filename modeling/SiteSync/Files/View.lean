import SiteSync.Files.Tree

/-!
# `SiteSync.Files.View`: a file tree with its links resolved

Whoever walks through a tree sees no links, only what they lead to. A
link that leads nowhere, or back to a directory that the walk is in,
shows as a fault.
-/

set_option autoImplicit false

namespace SiteSync

/-- What is seen of a node. -/
inductive FileView where
  /-- A file with its size. -/
  | file (size : Nat)
  /-- A directory with what is seen of its entries. -/
  | directory (entries : List (Text × FileView))
  /-- A link that leads nowhere. -/
  | broken (fault : FileFault)

namespace FileView

/-- The fault of a link to a directory around it. -/
def cycle : FileFault := .other "File system loop found".toList

/-- What is seen of the node at a place. `around` are the places of the
directories that the walk is in. -/
def ofNode (top : FileNode) : Nat → List (List Text) → List Text → FileNode → FileView
  | 0, _, _, _ => .broken cycle
  | fuel + 1, around, place, n =>
    match n with
    | .file content => .file content.length
    | .link _ => .broken .linkLoop
    | .directory es =>
      let around := place :: around
      .directory (es.map fun e =>
        (e.1, match e.2 with
          | .link _ =>
            match top.resolve place e.1 with
            | .error fault => .broken fault
            | .ok (target, n) =>
              -- Only a link can lead back to a directory that the walk is in.
              if n.isDirectory && around.contains target then .broken cycle
              else ofNode top fuel around target n
          | n => ofNode top fuel around (e.1 :: place) n))

/-- How deep a walk through a tree of some size may get. Between two
links it passes every directory at most once, and it is in no directory
that two links around it lead to. -/
def depthLimit (size : Nat) : Nat := (size + 1) * (size + 1)

/-- What is seen of the node that a path leads to from the directory at
`place`. -/
def ofPath (top : FileNode) (place : List Text) (path : Text) : FileView :=
  match top.resolve place path with
  | .error fault => .broken fault
  | .ok (place, n) => ofNode top (depthLimit top.size) [] place n

/-- Whether a directory is seen. -/
def isDirectory : FileView → Bool
  | .directory _ => true
  | _ => false

end FileView

end SiteSync
