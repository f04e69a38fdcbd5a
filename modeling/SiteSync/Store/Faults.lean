import SiteSync.Store.Basic

/-!
# `SiteSync.Store.Faults`: buckets and distributions that fail on demand

To see how a deploy takes it when something fails, a bucket can be told
to fail at certain points. What fails never reaches the bucket itself.
-/

set_option autoImplicit false

namespace SiteSync

/-- Where a bucket is to fail. -/
structure BucketFaults where
  /-- Whether listing fails. -/
  list : Bool := false
  /-- The keys whose uploads fail. -/
  put : List Text := []
  /-- The keys whose uploads kill the worker. -/
  putDeath : List Text := []
  /-- Which request to delete fails, counted from zero. -/
  delete : Option Nat := none
deriving Repr, DecidableEq

/-- A state with the number of requests to delete so far. -/
structure Counted (σ : Type) where
  /-- The state. -/
  state : σ
  /-- The number of requests to delete. -/
  deletes : Nat := 0
deriving Repr, DecidableEq

namespace Store

variable {σ : Type}

/-- Hands a reply on, with the number of requests to delete. -/
def counted {α : Type} (deletes : Nat) (r : Reply σ Text α) : Reply (Counted σ) Text α :=
  ⟨r.outcome, ⟨r.state, deletes⟩, r.said⟩

/-- A bucket that fails where it is told to. -/
def failing (faults : BucketFaults) (st : Store σ) : Store (Counted σ) where
  list := fun start s =>
    if faults.list then { outcome := .failed "list failed".toList, state := s }
    else counted s.deletes (st.list start s.state)
  put := fun u acl s =>
    if faults.putDeath.contains u.file.key then { outcome := .died, state := s }
    else if faults.put.contains u.file.key then
      { outcome := .failed ("put of ".toList ++ u.file.key ++ " rejected".toList), state := s }
    else counted s.deletes (st.put u acl s.state)
  delete := fun keys s =>
    if faults.delete = some s.deletes then
      { outcome := .failed "delete failed".toList, state := { s with deletes := s.deletes + 1 } }
    else counted (s.deletes + 1) (st.delete keys s.state)

end Store

/-- Distributions that always refuse. -/
def Cdn.refusing {σ : Type} : Cdn σ where
  invalidate := fun _ s => { outcome := .failed "invalidation rejected".toList, state := s }

end SiteSync
