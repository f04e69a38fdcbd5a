import SiteSync.Store.Basic
import SiteSync.Text.Order

/-!
# `SiteSync.Store.Bucket`: a bucket in memory

The bucket keeps for every object what a listing shows, and the content
where it is known. Nothing that is asked of it fails.
-/

set_option autoImplicit false

namespace SiteSync

/-- An object of a bucket in memory. -/
structure StoredObject where
  /-- What a listing shows. -/
  object : RemoteObject
  /-- The bytes, if they are known. -/
  content : Option Bytes := none
deriving Repr, DecidableEq

/-- The objects of a bucket in memory, one for each key. -/
abbrev Bucket := List StoredObject

namespace Bucket

/-- The bucket without some keys. -/
def eraseAll (keys : List Text) (b : Bucket) : Bucket :=
  b.filter fun o => !keys.contains o.object.key

/-- Puts an object, in place of the one with its key. -/
def put (o : StoredObject) (b : Bucket) : Bucket := o :: eraseAll [o.object.key] b

/-- The object that a file becomes. -/
def objectOf (f : LocalFile) : StoredObject := ⟨⟨f.key, f.fingerprint, f.size⟩, some f.body⟩

/-- The objects whose keys start with a prefix. -/
def under (start : Text) (b : Bucket) : List RemoteObject :=
  (b.map (·.object)).filter fun o => Text.startsWith o.key start

/-- The objects in the byte order of their keys. -/
def sorted (b : Bucket) : List StoredObject :=
  b.mergeSort fun x y => Text.le x.object.key y.object.key

end Bucket

namespace Store

/-- A bucket in memory; an `unfiltered` one lists all objects whatever
the prefix. -/
def ofBucket (unfiltered : Bool) : Store Bucket where
  list := fun start b =>
    { outcome := .done (.ofList (b.under (if unfiltered then [] else start))), state := b }
  put := fun u _ b => { outcome := .done (), state := b.put (Bucket.objectOf u.file) }
  delete := fun keys b => { outcome := .done (), state := b.eraseAll keys }

end Store

/-- Distributions that take whatever they are told. -/
def Cdn.accepting {σ : Type} : Cdn σ where
  invalidate := fun _ s => { outcome := .done (), state := s }

end SiteSync
