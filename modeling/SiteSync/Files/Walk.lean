import SiteSync.Deploy.Event
import SiteSync.Files.View

/-!
# `SiteSync.Files.Walk`: finding the files of a tree

A walk goes through a tree and leaves out the directories that its
filter skips. What it comes across are its *sightings*. A link that is
broken is a sighting whatever the filter says of its name, and the first
such sighting ends the walk.
-/

set_option autoImplicit false

namespace SiteSync

/-- What a walk comes across. -/
inductive Sighting where
  /-- A file that takes part. -/
  | file (file : WalkedFile)
  /-- A file that is skipped. -/
  | skipped (path : Text)
  /-- A place that cannot be looked at. -/
  | fault (location : Text) (fault : FileFault)
deriving Repr, DecidableEq

namespace FileView

/-- The path of an entry, relative to the root of the walk. -/
def entryPath (path name : Text) : Text := if path = [] then name else path ++ '/' :: name

mutual

/-- What a walk comes across at a node and below it. `path` is relative
to the root of the walk, and `location` is where the node is. -/
def sightings (filter : WalkFilter) (path location : Text) : FileView → List Sighting
  | .file size => if filter.skipsFile path then [.skipped path] else [.file ⟨path, location, size⟩]
  | .directory es => entrySightings filter path location es
  | .broken fault => [.fault location fault]

/-- What a walk comes across below a directory. -/
def entrySightings (filter : WalkFilter) (path location : Text) :
    List (Text × FileView) → List Sighting
  | [] => []
  | (name, v) :: es =>
    let inner := entryPath path name
    (if v.isDirectory && filter.skipsDir inner then []
      else sightings filter inner (Path.within location name) v)
      ++ entrySightings filter path location es

end

end FileView

namespace Sighting

/-- The file that takes part, if it is one. -/
def file? : Sighting → Option WalkedFile
  | .file f => some f
  | _ => none

/-- What is said of a sighting. -/
def line? : Sighting → Option LogLine
  | .skipped path => some ⟨.debug, .files, path ++ " skipped by local file filter".toList⟩
  | _ => none

/-- The error that a sighting is, if it is one. -/
def error? : Sighting → Option Error
  | .fault location cause => some (.io location cause)
  | _ => none

/-- What comes of a walk: its files in the byte order of their paths, or
the first error, and what was said up to then. -/
def outcome (ss : List Sighting) : Attempt Error (List WalkedFile) × List LogLine :=
  match ss.findSome? error? with
  | none =>
    (.done ((ss.filterMap file?).mergeSort fun f g => Text.le f.path g.path),
      ss.filterMap line?)
  | some e => (.failed e, (ss.takeWhile fun s => s.error?.isNone).filterMap line?)

end Sighting

namespace LocalSource

/-- The files of a tree, as they are found from the directory at `place`,
which is the root unless another is given. -/
def ofTree (top : FileNode) (place : List Text := []) : LocalSource where
  walk := fun root filter =>
    Sighting.outcome ((FileView.ofPath top place root).sightings filter [] root)
  read := fun path =>
    match top.read path place with
    | .ok content => .done content
    | .error fault => .failed (.io path fault)

end LocalSource

end SiteSync
