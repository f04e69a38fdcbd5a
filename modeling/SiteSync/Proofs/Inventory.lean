import SiteSync.Inventory

/-!
# `SiteSync.Proofs.Inventory`: what an inventory holds after a change

An inventory is known by `find?`. The lemmas say what `find?` and `keys`
give after `erase` and `insert`, and `eraseAll` erases some keys one
after the other, as a deploy does while it compares files:

* `find?_eraseAll_of_not_mem`: the other keys keep their objects.
* `keys_eraseAll`: the keys that stay.
* `find?_foldl_insert`: of some objects put in one after the other, the
  last with a key stays.
-/

set_option autoImplicit false

namespace SiteSync.Inventory

/-- A key is in the inventory when it has an object there. -/
theorem mem_keys_iff {v : Inventory} {key : Text} : key ∈ v.keys ↔ v.find? key ≠ none := by
  rw [keys, find?, ne_eq, List.find?_eq_none, List.mem_map]
  simp

/-- The object of a key has that key. -/
theorem key_of_find? {v : Inventory} {key : Text} {o : RemoteObject} (h : v.find? key = some o) :
    o.key = key := by
  simpa using List.find?_some h

/-! ### Erasing -/

/-- Erasing one key leaves the objects of the others. -/
theorem find?_erase_of_ne {v : Inventory} {key other : Text} (h : other ≠ key) :
    (v.erase key).find? other = v.find? other := by
  rw [find?, erase, List.find?_filter, find?]
  congr 1
  funext o
  by_cases ho : o.key = other
  · simp [ho, h]
  · simp [ho]

/-- The keys left are all but that one. -/
theorem keys_erase (v : Inventory) (key : Text) :
    (v.erase key).keys = v.keys.filter (· != key) := by
  rw [keys, erase, keys, List.filter_map]
  rfl

/-- The inventory without the objects of some keys. -/
def eraseAll (keys : List Text) (v : Inventory) : Inventory := keys.foldl erase v

/-- The keys are erased from the first on. -/
@[simp] theorem eraseAll_cons (v : Inventory) (key : Text) (keys : List Text) :
    v.eraseAll (key :: keys) = (v.erase key).eraseAll keys := rfl

/-- Erasing two lists of keys is erasing one after the other. -/
theorem eraseAll_append (v : Inventory) (ks ls : List Text) :
    v.eraseAll (ks ++ ls) = (v.eraseAll ks).eraseAll ls :=
  List.foldl_append

/-- A key that is not erased keeps its object. -/
theorem find?_eraseAll_of_not_mem {v : Inventory} {keys : List Text} {key : Text}
    (h : key ∉ keys) : (v.eraseAll keys).find? key = v.find? key := by
  induction keys generalizing v with
  | nil => rfl
  | cons k ks ih =>
    rw [List.mem_cons, not_or] at h
    rw [eraseAll_cons, ih h.2, find?_erase_of_ne h.1]

/-- The keys left are those that were not erased, in the same order. -/
theorem keys_eraseAll (v : Inventory) (keys : List Text) :
    (v.eraseAll keys).keys = v.keys.filter fun k => !keys.contains k := by
  induction keys generalizing v with
  | nil => exact (List.filter_eq_self.2 fun _ _ => rfl).symm
  | cons k ks ih =>
    rw [eraseAll_cons, ih, keys_erase, List.filter_filter]
    refine List.filter_congr fun x _ => ?_
    by_cases hx : x = k <;> simp [hx]

/-! ### Inserting -/

/-- Nothing is in the empty inventory. -/
@[simp] theorem find?_empty (key : Text) : empty.find? key = none := rfl

/-- An object that is put in takes the place of the one with its key. -/
theorem find?_insert (v : Inventory) (o : RemoteObject) (key : Text) :
    (v.insert o).find? key = if key = o.key then some o else v.find? key := by
  split
  case isTrue h => simp [find?, insert, h]
  case isFalse h =>
    have hne : (o.key == key) = false := by simpa using Ne.symm h
    rw [← find?_erase_of_ne (v := v) h, find?, insert, List.find?_cons, hne]
    rfl

/-- Of the objects that are put in one after the other, the last with a
key stays; a key that none of them has keeps its object. -/
theorem find?_foldl_insert (os : List RemoteObject) (v : Inventory) (key : Text) :
    (os.foldl insert v).find? key = (os.reverse.find? (·.key == key)).or (v.find? key) := by
  induction os generalizing v with
  | nil => rfl
  | cons o os ih =>
    rw [List.foldl_cons, ih, find?_insert, List.reverse_cons, List.find?_append]
    by_cases h : key = o.key
    · simp [h]
    · have hne : (o.key == key) = false := by simpa using Ne.symm h
      simp [h, hne]

/-! ### Lists of objects without a repeated key -/

/-- If no key repeats, the first object with a key is the only one. -/
theorem find?_eq_some_iff_mem {os : List RemoteObject} (h : (os.map RemoteObject.key).Nodup)
    {key : Text} {o : RemoteObject} :
    os.find? (·.key == key) = some o ↔ o ∈ os ∧ o.key = key := by
  induction os with
  | nil => simp
  | cons p os ih =>
    rw [List.map_cons, List.nodup_cons] at h
    rw [List.find?_cons]
    split
    case h_1 hp =>
      have hp : p.key = key := by simpa using hp
      constructor
      · rintro ⟨rfl⟩
        exact ⟨List.mem_cons_self, hp⟩
      · rintro ⟨ho, hk⟩
        rcases List.mem_cons.1 ho with rfl | ho
        · rfl
        · -- Another object with the key would repeat it.
          exact absurd (List.mem_map.2 ⟨o, ho, hk.trans hp.symm⟩) h.1
    case h_2 hp =>
      have hp : p.key ≠ key := by simpa using hp
      rw [ih h.2, List.mem_cons]
      refine ⟨fun ⟨ho, hk⟩ => ⟨.inr ho, hk⟩, fun ⟨ho, hk⟩ => ⟨ho.resolve_left ?_, hk⟩⟩
      rintro rfl
      exact hp hk

/-- The order of the objects does not matter when they are looked up. -/
theorem find?_eq_of_perm {os ps : List RemoteObject} (hp : os.Perm ps)
    (h : (os.map RemoteObject.key).Nodup) (key : Text) :
    os.find? (·.key == key) = ps.find? (·.key == key) := by
  have hps : (ps.map RemoteObject.key).Nodup := (hp.map _).nodup_iff.1 h
  ext o
  rw [find?_eq_some_iff_mem h, find?_eq_some_iff_mem hps, hp.mem_iff]

/-- The inventory of a list of objects finds what the list holds. -/
theorem find?_foldl_insert_empty {os : List RemoteObject} (h : (os.map RemoteObject.key).Nodup)
    (key : Text) : (os.foldl insert empty).find? key = os.find? (·.key == key) := by
  rw [find?_foldl_insert, find?_empty, Option.or_none]
  exact (find?_eq_of_perm (List.reverse_perm os).symm h key).symm

end SiteSync.Inventory
