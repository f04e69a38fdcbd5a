import SiteSync.LocalFile

/-!
# `SiteSync.Inventory`: what a bucket holds

An inventory is a snapshot of the objects of a bucket, taken when a
deploy starts. No two of its objects have the same key.
-/

set_option autoImplicit false

namespace SiteSync

/-- The objects of a bucket, one for each key. -/
structure Inventory where
  /-- The objects. -/
  objects : List RemoteObject
  /-- No two objects have the same key. -/
  nodup_keys : (objects.map RemoteObject.key).Nodup := by simp

namespace Inventory

/-- No objects. -/
def empty : Inventory := ⟨[], by simp⟩

/-- The number of objects. -/
def size (v : Inventory) : Nat := v.objects.length

/-- The keys of the objects. -/
def keys (v : Inventory) : List Text := v.objects.map RemoteObject.key

/-- The object of a key. -/
def find? (v : Inventory) (key : Text) : Option RemoteObject := v.objects.find? (·.key == key)

/-- Dropping objects gives no key twice. -/
theorem nodup_filter {os : List RemoteObject} (h : (os.map RemoteObject.key).Nodup)
    (p : RemoteObject → Bool) : ((os.filter p).map RemoteObject.key).Nodup :=
  h.sublist (List.filter_sublist.map _)

/-- The inventory without the object of a key. -/
def erase (v : Inventory) (key : Text) : Inventory :=
  ⟨v.objects.filter (·.key != key), nodup_filter v.nodup_keys _⟩

/-- The inventory with an object, in place of the one with its key. -/
def insert (v : Inventory) (o : RemoteObject) : Inventory where
  objects := o :: (v.erase o.key).objects
  nodup_keys := by
    rw [List.map_cons, List.nodup_cons]
    refine ⟨fun h => ?_, (v.erase o.key).nodup_keys⟩
    obtain ⟨x, hx, hk⟩ := List.mem_map.1 h
    have := (List.mem_filter.1 hx).2
    simp [hk] at this

/-- The inventory of a list of objects; of objects with one key the last
stays. -/
def ofList (os : List RemoteObject) : Inventory := os.foldl insert empty

end Inventory

end SiteSync
