import SiteSync.Deploy.Event

/-!
# `SiteSync.Files.Flat`: files in memory

The files of a site in a list, without directories. For trials some of
them cannot be read, or the whole list cannot be looked at.
-/

set_option autoImplicit false

namespace SiteSync

/-- What goes wrong when files are used. -/
inductive FileTrouble where
  /-- The use fails. -/
  | fails
  /-- The use kills the worker. -/
  | kills
deriving Repr, DecidableEq

/-- A file in memory. -/
structure FlatFile where
  /-- The path relative to the source. -/
  path : Text
  /-- The bytes. -/
  content : Bytes
  /-- What goes wrong when the file is read. -/
  trouble : Option FileTrouble := none
deriving Repr, DecidableEq

/-- Files in memory, in the byte order of their paths. -/
abbrev FlatFiles := List FlatFile

namespace FlatFiles

/-- The files without the one at a path. -/
def erase (path : Text) (fs : FlatFiles) : FlatFiles := fs.filter (·.path != path)

/-- Puts a file, in place of the one at its path. -/
def insert (f : FlatFile) : FlatFiles → FlatFiles
  | [] => [f]
  | g :: gs =>
    if f.path = g.path then f :: gs
    else if f.path < g.path then f :: g :: gs
    else g :: insert f gs

/-- The file at a path. -/
def find? (path : Text) (fs : FlatFiles) : Option FlatFile := List.find? (·.path == path) fs

/-- The error of a file that cannot be read. -/
def readError (location : Text) : Error := .io location (.other "Error opening file".toList)

/-- The error of files that cannot be looked at. -/
def walkError (root : Text) : Error := .io root (.other "walk failed".toList)

/-- How it ends to use something that has a value, or trouble. -/
def attempt {α : Type} (value : α) (error : Error) : Option FileTrouble → Attempt Error α
  | none => .done value
  | some .fails => .failed error
  | some .kills => .died

/-- The files that a filter accepts. -/
def walked (base : Text) (filter : WalkFilter) (fs : FlatFiles) : List WalkedFile :=
  (fs.filter (filter.accepts ·.path)).map fun f => ⟨f.path, base ++ f.path, f.content.length⟩

/-- Reads the file at a location, which is its path after `base`. -/
def read (base location : Text) (fs : FlatFiles) : Attempt Error Bytes :=
  match (Text.stripPrefix? base location).bind fs.find? with
  | none => .failed (.io location .notFound)
  | some f => attempt f.content (readError location) f.trouble

end FlatFiles

/-- Files in memory whose locations are their paths after `base`.
`trouble` is what goes wrong when they are walked. -/
def LocalSource.ofFlat (base : Text) (trouble : Option FileTrouble) (fs : FlatFiles) :
    LocalSource where
  walk := fun root filter =>
    (FlatFiles.attempt (fs.walked base filter) (FlatFiles.walkError root) trouble, [])
  read := fun location => fs.read base location

end SiteSync
