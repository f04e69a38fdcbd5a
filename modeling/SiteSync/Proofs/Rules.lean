import SiteSync.Rules

/-!
# `SiteSync.Proofs.Rules`: what belongs to a site

The rules look at a local file by its path and at an object of the
bucket by its key, and the two views agree: a key belongs to the site
exactly when it is the key of a path (`isManaged_iff`), and is left alone
exactly when that path is (`ignoresKey_bucketKey`).

A file belongs to the upload group of the last pattern that matches it,
and to no other (`groupOf_eq_iff`).
-/

set_option autoImplicit false

namespace SiteSync.Rules

variable {rules : Rules}

/-! ### Keys and paths -/

/-- The keys of the site are those of some path. -/
theorem isManaged_iff {key : Text} :
    rules.isManaged key = true ↔ ∃ path, key = rules.bucketKey path :=
  Text.startsWith_iff

/-- The key of a file belongs to the site. -/
theorem isManaged_bucketKey (path : Text) : rules.isManaged (rules.bucketKey path) = true :=
  isManaged_iff.2 ⟨path, rfl⟩

/-- The path is read back from the key. -/
@[simp] theorem pathOfKey_bucketKey (path : Text) :
    rules.pathOfKey (rules.bucketKey path) = path := by
  rw [pathOfKey, bucketKey, Text.stripPrefix?_append, Option.getD_some]

/-- The object of a file is left alone when the file is. -/
theorem ignoresKey_bucketKey (path : Text) :
    rules.ignoresKey (rules.bucketKey path) = rules.ignoresPath path := by
  rw [ignoresKey, pathOfKey_bucketKey]

/-- Two paths have two keys. -/
theorem bucketKey_injective {path other : Text}
    (h : rules.bucketKey path = rules.bucketKey other) : path = other :=
  List.append_cancel_left h

/-- Distinct paths have distinct keys. -/
theorem nodup_bucketKey (rules : Rules) {paths : List Text} (h : paths.Nodup) :
    (paths.map rules.bucketKey).Nodup :=
  List.Pairwise.map rules.bucketKey (fun _ _ hne he => hne (bucketKey_injective he)) h

/-! ### What is left alone -/

/-- Whether a path is left alone: the pattern for that matches it, or an
`ignore` route does, wherever that route stands. -/
def Ignores (rules : Rules) (path : Text) : Prop :=
  (∃ e, rules.ignore = some e ∧ e.isMatch path = true) ∨
    ∃ r ∈ rules.routes, r.ignore = true ∧ r.matchesPath path = true

/-- The test agrees with `Ignores`. -/
theorem ignoresPath_iff {path : Text} : rules.ignoresPath path = true ↔ rules.Ignores path := by
  unfold ignoresPath Ignores Routes.ignores
  rw [Bool.or_eq_true, List.any_eq_true]
  refine or_congr ?_ (by simp)
  cases rules.ignore with
  | none => simp
  | some e => simp

/-- Where it fails, nothing says that the path is left alone. -/
theorem ignoresPath_eq_false_iff {path : Text} :
    rules.ignoresPath path = false ↔ ¬rules.Ignores path := by
  rw [← ignoresPath_iff, Bool.not_eq_true]

/-! ### Groups -/

/-- What is found is the number of one of the patterns, or what was found
before. -/
theorem groupOf_last_le (path : Text) (es : List Pattern.Expr) {n found : Nat} (h : found ≤ n) :
    groupOf.last path n found es ≤ n + es.length := by
  induction es generalizing n found with
  | nil => exact h
  | cons e es ih =>
    rw [groupOf.last]
    have hstep : (if e.isMatch path then n + 1 else found) ≤ n + 1 := by
      split <;> omega
    have := ih hstep
    rw [List.length_cons]
    omega

/-- Every file has a group that there is. -/
theorem groupOf_lt (rules : Rules) (path : Text) : rules.groupOf path < rules.groupCount := by
  have := groupOf_last_le path rules.order (Nat.le_refl 0)
  unfold groupOf groupCount
  omega

/-- Whether a path belongs to a group: the pattern of the group is the
last that matches it, and no pattern matches what is in the first
group. -/
def InGroup (rules : Rules) (path : Text) : Nat → Prop
  | 0 => ∀ e ∈ rules.order, e.isMatch path = false
  | i + 1 => (∃ e, rules.order[i]? = some e ∧ e.isMatch path = true) ∧
    ∀ j e, i < j → rules.order[j]? = some e → e.isMatch path = false

/-- The last pattern that matches counts, or what was found before if
none does. -/
theorem groupOf_last_spec (path : Text) (es : List Pattern.Expr) (n found : Nat) :
    (groupOf.last path n found es = found ∧ ∀ e ∈ es, e.isMatch path = false) ∨
      ∃ i e, groupOf.last path n found es = n + i + 1 ∧ es[i]? = some e ∧ e.isMatch path = true ∧
        ∀ j e', i < j → es[j]? = some e' → e'.isMatch path = false := by
  induction es generalizing n found with
  | nil => exact .inl ⟨rfl, fun _ he => nomatch he⟩
  | cons e es ih =>
    rw [groupOf.last]
    obtain ⟨hlast, hnone⟩ | ⟨i, e', hlast, hget, hmatch, hafter⟩ :=
      ih (n + 1) (if e.isMatch path then n + 1 else found)
    · cases he : e.isMatch path with
      | true =>
        rw [he] at hlast
        refine .inr ⟨0, e, hlast, rfl, he, fun j e' hj hget => ?_⟩
        obtain ⟨k, rfl⟩ := Nat.exists_eq_add_one_of_ne_zero (Nat.ne_of_gt hj)
        exact hnone e' (List.mem_of_getElem? hget)
      | false =>
        rw [he] at hlast
        exact .inl ⟨hlast, List.forall_mem_cons.2 ⟨he, hnone⟩⟩
    · refine .inr ⟨i + 1, e', by rw [hlast]; omega, hget, hmatch, fun j e'' hj hget' => ?_⟩
      obtain ⟨k, rfl⟩ := Nat.exists_eq_add_one_of_ne_zero (Nat.ne_of_gt (Nat.lt_of_le_of_lt
        (Nat.zero_le _) hj))
      exact hafter k e'' (by omega) hget'

/-- The group of a file is the one it belongs to. -/
theorem inGroup_groupOf (rules : Rules) (path : Text) :
    rules.InGroup path (rules.groupOf path) := by
  obtain ⟨hlast, hnone⟩ | ⟨i, e, hlast, hget, hmatch, hafter⟩ :=
    groupOf_last_spec path rules.order 0 0
  · rw [groupOf, hlast]
    exact hnone
  · rw [groupOf, hlast, Nat.zero_add]
    exact ⟨⟨e, hget, hmatch⟩, hafter⟩

/-- A file belongs to one group only, so that `groupOf` is no choice. -/
theorem InGroup.unique {path : Text} {i j : Nat} (hi : rules.InGroup path i)
    (hj : rules.InGroup path j) : i = j := by
  -- What is in the first group is matched by no pattern.
  have hnone : ∀ {k}, rules.InGroup path 0 → ¬rules.InGroup path (k + 1) := by
    rintro k h ⟨⟨e, hget, hmatch⟩, -⟩
    rw [h e (List.mem_of_getElem? hget)] at hmatch
    cases hmatch
  -- Of two patterns that match, the first is not the last.
  have hlt : ∀ {k l}, k < l → rules.InGroup path (k + 1) → ¬rules.InGroup path (l + 1) := by
    rintro k l hkl ⟨-, hafter⟩ ⟨⟨e, hget, hmatch⟩, -⟩
    rw [hafter l e hkl hget] at hmatch
    cases hmatch
  cases i with
  | zero =>
    cases j with
    | zero => rfl
    | succ j => exact absurd hj (hnone hi)
  | succ i =>
    cases j with
    | zero => exact absurd hi (hnone hj)
    | succ j =>
      rcases Nat.lt_trichotomy i j with h | rfl | h
      · exact absurd hj (hlt h hi)
      · rfl
      · exact absurd hi (hlt h hj)

/-- A path belongs to one group and no other. -/
theorem groupOf_eq_iff {path : Text} {i : Nat} :
    rules.groupOf path = i ↔ rules.InGroup path i := by
  constructor
  · rintro rfl
    exact inGroup_groupOf rules path
  · exact (inGroup_groupOf rules path).unique

end SiteSync.Rules
