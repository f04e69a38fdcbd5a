import SiteSync.Error
import SiteSync.Path
import SiteSync.Text.Order

/-!
# `SiteSync.Files.Tree`: a tree of files with symbolic links

A tree holds files, directories and symbolic links. It stands for a
whole file system: its top is the root, which absolute paths start at,
be they given or the target of a link, and which `..` does not leave.
`FileNode.resolve` follows a path through it as a file system does:
segment by segment, replacing a link by its target, and giving up after a
number of links. Whoever asks for a relative path says which directory it
is relative to.
-/

set_option autoImplicit false

namespace SiteSync

/-- A node of a file tree. -/
inductive FileNode where
  /-- A file with its content. -/
  | file (content : Bytes)
  /-- A directory with the names of its entries. -/
  | directory (entries : List (Text × FileNode))
  /-- A symbolic link. -/
  | link (target : Text)

namespace FileNode

/-- An empty directory. -/
def empty : FileNode := .directory []

/-- The entries of a directory. -/
def entries : FileNode → List (Text × FileNode)
  | .directory es => es
  | _ => []

/-- Whether a node is a directory. -/
def isDirectory : FileNode → Bool
  | .directory _ => true
  | _ => false

/-- The node at a path that goes through directories only. -/
def at? : List Text → FileNode → Option FileNode
  | [], n => some n
  | name :: path, n => (n.entries.lookup name).bind (at? path)

mutual

/-- The number of nodes in a tree. -/
def size : FileNode → Nat
  | .file _ => 1
  | .directory es => 1 + entriesSize es
  | .link _ => 1

/-- The number of nodes in the trees of some entries. -/
def entriesSize : List (Text × FileNode) → Nat
  | [] => 0
  | (_, n) :: es => size n + entriesSize es

end

/-! ### Building -/

/-- Puts an entry into a list that is sorted by name, in place of the one
with its name. -/
def putEntry (name : Text) (n : FileNode) : List (Text × FileNode) → List (Text × FileNode)
  | [] => [(name, n)]
  | (m, x) :: es =>
    if name = m then (name, n) :: es
    else if name < m then (name, n) :: (m, x) :: es
    else (m, x) :: putEntry name n es

/-- Puts a node at a path, and makes the directories above it. -/
def insert (node : FileNode) : List Text → FileNode → FileNode
  | [], n =>
    -- A directory that is there already keeps its entries.
    if node.isDirectory && n.isDirectory then n else node
  | name :: path, n =>
    let child := (n.entries.lookup name).getD empty
    .directory (putEntry name (insert node path child) n.entries)

/-! ### Following paths -/

/-- Where a path starts that is met in the directory at `place`: a
relative one there, an absolute one at the root. -/
def start (place : List Text) (path : Text) : List Text :=
  if Path.isAbsolute path then [] else place

/-- Follows the segments of a path from the directory at `place`, which
is given from the last segment to the first. What comes of a symbolic
link is up to `onLink`, which is told the place of the directory that
holds the link, its target and the segments behind it. -/
def followUntilLink (top : FileNode)
    (onLink : List Text → Text → List Text → Except FileFault (List Text)) :
    List Text → List Text → Except FileFault (List Text)
  | place, [] => .ok place
  | place, s :: rest =>
    match top.at? place.reverse with
    | some (.directory es) =>
      if s = [] ∨ s = ['.'] then followUntilLink top onLink place rest
      -- The root is the directory above itself.
      else if s = ['.', '.'] then followUntilLink top onLink place.tail rest
      else
        match es.lookup s with
        | none => .error .notFound
        | some (.link target) => onLink place target rest
        | some _ => followUntilLink top onLink (s :: place) rest
    | _ => .error .notADirectory

/-- Follows the segments of a path from the directory at a place, and at
most `links` symbolic links on the way. The result is the place of a node
that is no link. -/
def follow (top : FileNode) : Nat → List Text → List Text → Except FileFault (List Text)
  | 0 => followUntilLink top fun _ _ _ => .error .linkLoop
  | links + 1 =>
    followUntilLink top fun place target rest =>
      if target = [] then .error .notFound
      else follow top links (start place target) (Path.segments target ++ rest)

/-- How many symbolic links are followed on one path. -/
def linkLimit : Nat := 40

/-- The place and node that a path leads to from a directory. The empty
path leads nowhere. -/
def resolve (top : FileNode) (place : List Text) (path : Text) :
    Except FileFault (List Text × FileNode) := do
  if path = [] then .error .notFound
  else
    let place ← follow top linkLimit (start place path) (Path.segments path)
    match top.at? place.reverse with
    | some n => pure (place, n)
    | none => .error .notFound

/-- The content of the file that a path leads to from a directory, which
is the root unless another is given. -/
def read (top : FileNode) (path : Text) (place : List Text := []) : Except FileFault Bytes := do
  match ← resolve top place path with
  | (_, .file content) => pure content
  | (_, .directory _) => .error .isADirectory
  | (_, .link _) => .error .linkLoop

end FileNode

end SiteSync
