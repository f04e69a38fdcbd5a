import SiteSync.Error
import SiteSync.Store.Basic
import SiteSync.Tally
import SiteSync.WalkFilter

/-!
# `SiteSync.Deploy.Event`: what happens in a deploy, in order

A deploy leaves a trace: what it asks of its collaborators, what it
shows of its progress, and what it says. Uploads and readings may
overlap others, so the trace also marks their ends.
-/

set_option autoImplicit false

namespace SiteSync

/-- A local file that was found and not read yet. -/
structure WalkedFile where
  /-- The path relative to the source. -/
  path : Text
  /-- Where the file is. -/
  location : Text
  /-- The number of bytes. -/
  size : Nat
deriving Repr, DecidableEq

/-- What is asked of a collaborator. -/
inductive Call where
  /-- The bucket is to list the objects under a prefix. -/
  | list (start : Text)
  /-- A local file is to be read. -/
  | read (file : WalkedFile)
  /-- The bucket is to take a file. -/
  | put (upload : Upload) (acl : Option Text)
  /-- The bucket is to delete some keys. -/
  | delete (keys : List Text)
  /-- The distributions are to forget some keys. -/
  | invalidate (keys : List Text)
deriving Repr, DecidableEq

/-- What is shown of the progress. -/
inductive Progress where
  /-- The number of files. -/
  | total (files : Nat)
  /-- One more file is done with. -/
  | advance
  /-- What is going on. -/
  | message (text : Text)
  /-- The deploy is done; the line sums it up. -/
  | finish (text : Text)
  /-- The deploy has failed. -/
  | abandon
deriving Repr, DecidableEq

/-- What happens in a deploy. -/
inductive Event where
  /-- Something is asked of a collaborator. -/
  | call (c : Call)
  /-- The upload of a key has ended, well or not. -/
  | putEnded (key : Text) (succeeded : Bool)
  /-- The progress changes. -/
  | progress (p : Progress)
  /-- Something is said. -/
  | log (line : LogLine)
deriving Repr, DecidableEq

/-- What happens in a deploy, the latest first. -/
abbrev Trace := List Event

/-- The local files as a deploy sees them. -/
structure LocalSource where
  /-- Finds the files under a directory that a filter accepts. -/
  walk : Text → WalkFilter → Attempt Error (List WalkedFile) × List LogLine
  /-- Reads the file at a place. -/
  read : Text → Attempt Error Bytes

/-- The state of a deploy that all its parts share. -/
structure RunState (σ : Type) where
  /-- The state of the collaborators. -/
  world : σ
  /-- The objects that no file has been compared with yet. -/
  inventory : Inventory := .empty
  /-- The counters. -/
  tally : Tally := {}
  /-- The keys of what was changed. -/
  changed : ChangedKeys := []
  /-- The first error. Once there is one, nothing more is started. -/
  error : Option Error := none
  /-- What has happened. -/
  trace : Trace := []

namespace RunState

/-- Adds an event. -/
def emit {σ : Type} (e : Event) (r : RunState σ) : RunState σ := { r with trace := e :: r.trace }

/-- Adds what was said. -/
def say {σ : Type} (level : LogLevel) (source : LogSource) (text : Text) (r : RunState σ) :
    RunState σ :=
  r.emit (.log ⟨level, source, text⟩)

/-- Adds some log lines, the first of them first. -/
def relay {σ : Type} (lines : List LogLine) (r : RunState σ) : RunState σ :=
  lines.foldl (fun r l => r.emit (.log l)) r

/-- Takes over the state and the log lines of a reply. -/
def absorb {σ ε α : Type} (reply : Reply σ ε α) (r : RunState σ) : RunState σ :=
  relay reply.said { r with world := reply.state }

/-- Records an error, unless there is one. -/
def fail {σ : Type} (e : Error) (r : RunState σ) : RunState σ :=
  { r with error := r.error.or (some e) }

/-- Whether there is an error, so that nothing more is started. -/
def cancelled {σ : Type} (r : RunState σ) : Bool := r.error.isSome

end RunState

end SiteSync
