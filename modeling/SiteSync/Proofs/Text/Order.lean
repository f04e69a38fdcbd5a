import SiteSync.Text.Order

/-!
# `SiteSync.Proofs.Text.Order`: the byte order and sorted lists

`Text.le` is a linear order, so a list without repetitions has exactly
one sorted form:

* `sort_eq_of_mem_iff`: a sorted list is what `sort` makes of any list
  with the same members, as long as nothing is repeated.
* `mem_sortedSet`, `pairwise_sortedSet`: `sortedSet` keeps the members
  and puts them in strictly ascending order.
* `sortedSet_eq_of_mem_iff`: `sortedSet` depends on the members only.
-/

set_option autoImplicit false

namespace SiteSync.Text

/-! ### The order -/

/-- A text comes first or is the same if the other does not come before
it. -/
theorem le_iff {a b : Text} : le a b = true ↔ ¬b < a := by
  rw [le, Bool.not_eq_true', decide_eq_false_iff_not]

/-- The order is transitive, as sorting asks for. -/
theorem le_trans (a b c : Text) (hab : le a b = true) (hbc : le b c = true) : le a c = true := by
  rw [le_iff] at hab hbc ⊢
  exact List.not_lt.2 (List.le_trans (List.not_lt.1 hab) (List.not_lt.1 hbc))

/-- Of two texts one comes first or is the same. -/
theorem le_total (a b : Text) : (le a b || le b a) = true := by
  rw [Bool.or_eq_true, le_iff, le_iff, List.not_lt, List.not_lt]
  exact List.le_total a b

/-- Texts that neither comes before the other are the same. -/
theorem le_antisymm {a b : Text} (hab : le a b = true) (hba : le b a = true) : a = b := by
  rw [le_iff] at hab hba
  exact List.le_antisymm (List.not_lt.1 hab) (List.not_lt.1 hba)

/-! ### Sorting -/

/-- Sorting keeps every text, as often as it is there. -/
theorem sort_perm (ts : List Text) : (sort ts).Perm ts := List.mergeSort_perm ts le

/-- Sorting keeps the members. -/
@[simp] theorem mem_sort {a : Text} {ts : List Text} : a ∈ sort ts ↔ a ∈ ts :=
  (sort_perm ts).mem_iff

/-- Sorting keeps the length. -/
@[simp] theorem length_sort (ts : List Text) : (sort ts).length = ts.length :=
  (sort_perm ts).length_eq

/-- What is sorted is in order. -/
theorem pairwise_sort (ts : List Text) : (sort ts).Pairwise fun a b => le a b = true :=
  List.pairwise_mergeSort le_trans le_total ts

/-- Sorting repeats nothing. -/
theorem nodup_sort {ts : List Text} (h : ts.Nodup) : (sort ts).Nodup :=
  (sort_perm ts).nodup_iff.2 h

/-- Two sorted lists that are permutations of each other are equal. -/
theorem eq_of_perm_of_pairwise {ts us : List Text} (hp : ts.Perm us)
    (ht : ts.Pairwise fun a b => le a b = true) (hu : us.Pairwise fun a b => le a b = true) :
    ts = us :=
  List.Perm.eq_of_pairwise (fun _ _ _ _ hab hba => le_antisymm hab hba) ht hu hp

/-- Permutations have the same sorted form. -/
theorem sort_eq_of_perm {ts us : List Text} (h : ts.Perm us) : sort ts = sort us :=
  eq_of_perm_of_pairwise ((sort_perm ts).trans (h.trans (sort_perm us).symm))
    (pairwise_sort ts) (pairwise_sort us)

/-- A sorted list without repetitions is the sorted form of every list
without repetitions that has the same members. -/
theorem sort_eq_of_mem_iff {ts us : List Text} (hu : us.Pairwise fun a b => le a b = true)
    (hnt : ts.Nodup) (hnu : us.Nodup) (h : ∀ a, a ∈ ts ↔ a ∈ us) : sort ts = us :=
  eq_of_perm_of_pairwise
    ((sort_perm ts).trans ((List.perm_ext_iff_of_nodup hnt hnu).2 h)) (pairwise_sort ts) hu

/-! ### Sorted sets -/

/-- Dropping repeats keeps the members. -/
theorem mem_dropRepeats {a : Text} {ts : List Text} : a ∈ dropRepeats ts ↔ a ∈ ts := by
  induction ts with
  | nil => simp [dropRepeats]
  | cons b ts ih =>
    cases ts with
    | nil => simp [dropRepeats]
    | cons c ts =>
      unfold dropRepeats
      split
      case isTrue h => rw [ih, h]; simp
      case isFalse h => rw [List.mem_cons, ih, ← List.mem_cons]

/-- On a sorted list dropping repetitions leaves a strictly ascending
list. -/
theorem pairwise_dropRepeats {ts : List Text} (h : ts.Pairwise fun a b => le a b = true) :
    (dropRepeats ts).Pairwise (· < ·) := by
  induction ts with
  | nil => simp [dropRepeats]
  | cons b ts ih =>
    obtain ⟨hb, ht⟩ := List.pairwise_cons.1 h
    cases ts with
    | nil => simp [dropRepeats]
    | cons c ts =>
      unfold dropRepeats
      split
      case isTrue => exact ih ht
      case isFalse hne =>
        refine List.pairwise_cons.2 ⟨fun x hx => ?_, ih ht⟩
        rw [mem_dropRepeats] at hx
        -- `b ≤ c ≤ x`, and `x = b` would give `b = c`.
        have hbx := hb x hx
        refine Decidable.not_not.1 fun hxb => hne ?_
        have heq : b = x := le_antisymm hbx (le_iff.2 hxb)
        rcases List.mem_cons.1 hx with rfl | hx
        · exact heq
        · have hcx : le c x = true := (List.pairwise_cons.1 ht).1 x hx
          exact le_antisymm (hb c List.mem_cons_self) (heq ▸ hcx)

/-- The sorted set of some texts has their members. -/
@[simp] theorem mem_sortedSet {a : Text} {ts : List Text} : a ∈ sortedSet ts ↔ a ∈ ts := by
  rw [sortedSet, mem_dropRepeats, mem_sort]

/-- It is in order, and no text is in it twice. -/
theorem pairwise_sortedSet (ts : List Text) : (sortedSet ts).Pairwise (· < ·) :=
  pairwise_dropRepeats (pairwise_sort ts)

/-- A strictly ascending list repeats nothing. -/
theorem nodup_of_pairwise {ts : List Text} (h : ts.Pairwise (· < ·)) : ts.Nodup := by
  refine List.Pairwise.imp (fun {a b} hab he => ?_) h
  subst he
  exact List.lt_irrefl a hab

/-- So it has no repetitions. -/
theorem nodup_sortedSet (ts : List Text) : (sortedSet ts).Nodup :=
  nodup_of_pairwise (pairwise_sortedSet ts)

/-- Strictly ascending lists with the same members are equal. -/
theorem eq_of_mem_iff_of_pairwise {ts us : List Text} (ht : ts.Pairwise (· < ·))
    (hu : us.Pairwise (· < ·)) (h : ∀ a, a ∈ ts ↔ a ∈ us) : ts = us :=
  List.Perm.eq_of_pairwise (fun _ _ _ _ hab hba => absurd hba (List.lt_asymm hab)) ht hu
    ((List.perm_ext_iff_of_nodup (nodup_of_pairwise ht) (nodup_of_pairwise hu)).2 h)

/-- `sortedSet` depends on the members of a list only. -/
theorem sortedSet_eq_of_mem_iff {ts us : List Text} (h : ∀ a, a ∈ ts ↔ a ∈ us) :
    sortedSet ts = sortedSet us := by
  refine eq_of_mem_iff_of_pairwise (pairwise_sortedSet ts) (pairwise_sortedSet us) fun a => ?_
  rw [mem_sortedSet, mem_sortedSet, h]

/-- What is strictly ascending already is its own sorted set. -/
theorem sortedSet_of_pairwise {ts : List Text} (h : ts.Pairwise (· < ·)) : sortedSet ts = ts :=
  eq_of_mem_iff_of_pairwise (pairwise_sortedSet ts) h fun _ => mem_sortedSet

end SiteSync.Text
