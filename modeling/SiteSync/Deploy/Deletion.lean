import SiteSync.Deploy.Event

/-!
# `SiteSync.Deploy.Deletion`: deleting what has no file any more

Keys are deleted in requests of bounded size, one after another, and
only up to the limit of the deploy. What is left over is *stale*. The
first request that fails is the last one.
-/

set_option autoImplicit false

namespace SiteSync

/-- The greatest number of keys in one request. -/
def maxBatch : Nat := 1000

/-- The keys in consecutive batches of `n`, the last of which may be
shorter. -/
def batchesOf (n : Nat) (keys : List Text) : List (List Text) :=
  if _h : keys = [] ∨ n = 0 then []
  else keys.take n :: batchesOf n (keys.drop n)
termination_by keys.length
decreasing_by
  rw [List.length_drop]
  have : keys.length ≠ 0 := fun h => _h (.inl (List.length_eq_zero_iff.1 h))
  omega

/-- How many keys were deleted and how many were left. -/
structure DeleteOutcome where
  /-- The keys that were deleted. -/
  deleted : Nat
  /-- The keys that were left. -/
  stale : Nat
deriving Repr, DecidableEq

namespace RunState

variable {σ : Type}

/-- Says of every key of a batch that it will be deleted. -/
def announceBatch (keys : List Text) (r : RunState σ) : RunState σ :=
  keys.foldl
    (fun r key => r.say .info .delete (key ++ " not found in source, deleting".toList)) r

/-- Counts a batch that was deleted. -/
def countBatch (keys : List Text) (r : RunState σ) : RunState σ :=
  { r with
    tally := r.tally.addDeleted keys.length.toUInt64
    changed := r.changed.trackAll keys }

/-- Asks the bucket to delete a batch. If the store dies, which stands
for a panic that would take the whole program with it, the deploy ends
like one whose worker dies. -/
def deleteBatch (st : Store σ) (keys : List Text) (r : RunState σ) :
    RunState σ × Except Error Unit :=
  let r := (r.announceBatch keys).emit (.call (.delete keys))
  let reply := st.delete keys r.world
  let r := r.absorb reply
  match reply.outcome with
  | .done () => (r.countBatch keys, .ok ())
  | .failed cause => (r, .error (.delete keys.length cause))
  | .died => (r, .error .task)

/-- Deletes batches one after another, up to the first that fails. -/
def deleteBatches (st : Store σ) : List (List Text) → RunState σ → RunState σ × Except Error Unit
  | [], r => (r, .ok ())
  | b :: bs, r =>
    match r.deleteBatch st b with
    | (r, .ok ()) => deleteBatches st bs r
    | (r, .error e) => (r, .error e)

/-- Counts the keys that were left, and says so if there are any. -/
def countStale (stale maxDelete : Nat) (r : RunState σ) : RunState σ :=
  if stale = 0 then r
  else
    let r := r.say .warn .delete (toString stale ++
      " files not found in source were not deleted (max-delete is " ++ toString maxDelete ++
      ")").toList
    { r with tally := r.tally.addStale stale.toUInt64 }

/-- Deletes at most `maxDelete` of some keys. -/
def deleteKeys (st : Store σ) (keys : List Text) (maxDelete : Nat) (r : RunState σ) :
    RunState σ × Except Error DeleteOutcome :=
  let limit := min keys.length maxDelete
  match r.deleteBatches st (batchesOf maxBatch (keys.take limit)) with
  | (r, .error e) => (r, .error e)
  | (r, .ok ()) =>
    let stale := keys.length - limit
    (r.countStale stale maxDelete, .ok ⟨limit, stale⟩)

end RunState

end SiteSync
