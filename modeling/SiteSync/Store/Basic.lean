import SiteSync.Inventory
import SiteSync.Log

/-!
# `SiteSync.Store.Basic`: buckets and distributions as a deploy sees them

A deploy knows a bucket only by what can be asked of it: to list the
objects under a prefix, to take a file, and to delete some keys. What it
answers may depend on a state, which the answer changes. An operation
may also end without an answer, when the worker that runs it dies.
-/

set_option autoImplicit false

namespace SiteSync

/-- How an operation ends. -/
inductive Attempt (ε α : Type) where
  /-- It gives a value. -/
  | done (value : α)
  /-- It fails. -/
  | failed (error : ε)
  /-- Whoever ran it died. -/
  | died
deriving Repr, DecidableEq

/-- How an operation ends, with the state after it and what was said. -/
structure Reply (σ ε α : Type) where
  /-- How the operation ends. -/
  outcome : Attempt ε α
  /-- The state after it. -/
  state : σ
  /-- What was said meanwhile. -/
  said : List LogLine := []

/-- A file on its way to the bucket. -/
structure Upload where
  /-- The file. -/
  file : LocalFile
  /-- Why it is uploaded. -/
  reason : UploadReason
deriving Repr, DecidableEq

/-- A bucket whose state is of type `σ`. -/
structure Store (σ : Type) where
  /-- Lists the objects whose keys start with a prefix. -/
  list : Text → σ → Reply σ Text Inventory
  /-- Uploads a file, with an access rule if there is one. -/
  put : Upload → Option Text → σ → Reply σ Text Unit
  /-- Deletes some keys in one request. -/
  delete : List Text → σ → Reply σ Text Unit

/-- The distributions that serve a bucket, whose state is of type `σ`
too. -/
structure Cdn (σ : Type) where
  /-- Makes the distributions forget what they know of some keys. -/
  invalidate : List Text → σ → Reply σ Text Unit

end SiteSync
