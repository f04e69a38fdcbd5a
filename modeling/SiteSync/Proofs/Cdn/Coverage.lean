import SiteSync.Proofs.Cdn.Escape
import SiteSync.Proofs.Cdn.WebRoot

/-!
# `SiteSync.Proofs.Cdn.Coverage`: every changed path is forgotten

A distribution forgets a path when a pattern is that path, or is the
wildcard on a directory it is in. Paths are reduced to fewer and fewer
patterns, and each step puts wider patterns in place of narrower ones:

- `Entry.covers_topWildcard`: a collapse covers what it replaces.
- `exists_covers_fitted`: so does the whole loop.
- `exists_covers`: so does the wildcard on the root, which all paths are
  under.
- `exists_covers_requested`: files below the root are covered as they are
  asked for.
- `Covers.escape`: what covers a path still does when both are escaped.
- `length_invalidationPatterns_le_max`, `pairwise_invalidationPatterns`:
  there are few patterns, in ascending order.
-/

set_option autoImplicit false

namespace SiteSync.Cdn

variable {ss paths : List Text} {root p u x : Text} {threshold level : Nat} {force : Bool}

/-- Whether a pattern covers a path: it is that path, or the wildcard on
a directory that the path is in. -/
def Covers (x u : Text) : Prop :=
  x = u ∨ ∃ dir, x = dir ++ ['/', '*'] ∧ Text.startsWith u (dir ++ ['/']) = true

/-- How a path is asked for: a page that is served for its directory by
that directory, with a slash behind. -/
def requested (u : Text) : Text :=
  if Path.baseName u = indexPage then Path.upToLastSlash u else u

/-- The pattern of a path that does not climb is the way the cleaned path
is asked for. -/
theorem exactPattern_eq_requested (h : ¬Climbs p) : exactPattern p = requested (cleaned p) := by
  obtain ⟨e, he⟩ := exists_cleaned h
  unfold exactPattern requested
  dsimp only
  rw [he, e.parent_text, Path.asDirectory_ofSegments e.plain, Path.absolute_concat,
    ← Path.upToLastSlash_absolute e.dir e.no_slash, Entry.text]

/-! ### Wildcards -/

/-- What is asked for by name is covered. -/
theorem Covers.refl (u : Text) : Covers u u := .inl rfl

/-- The wildcard on a root covers what is under it. -/
theorem covers_of_under (h : Under ss u) : Covers (Path.absolute (ss ++ [['*']])) u :=
  .inr ⟨Path.absolute ss, Path.absolute_concat ss ['*'], h⟩

/-- Slashes and wildcards stay when patterns are escaped, so they cover
the escaped paths. -/
theorem Covers.escape (h : Covers x u) : Covers (escape x) (escape u) := by
  rcases h with rfl | ⟨dir, rfl, hstart⟩
  · exact .refl _
  · obtain ⟨rest, rfl⟩ := Text.startsWith_iff.1 hstart
    refine .inr ⟨Cdn.escape dir, escape_wildcard dir, Text.startsWith_iff.2 ⟨Cdn.escape rest, ?_⟩⟩
    rw [escape_append, escape_append]
    rfl

/-- The wildcard on the first directory of an entry covers the entry. -/
theorem Entry.covers_topWildcard {e : Entry} (h : e.dir ≠ []) :
    Covers (topWildcard e.text) e.text := by
  rw [topWildcard_text h]
  refine covers_of_under ((e.under_iff e.raised.plain).2 ?_)
  exact List.take_prefix 1 e.dir

/-! ### The collapses -/

/-- What is collapsed covers what was there before. -/
theorem exists_covers_collapsedTo {ps : List Text} {e : Entry} (hlevel : 0 < level)
    (he : e.text ∈ ps) : ∃ y ∈ collapsedTo level ps, Covers y e.text := by
  by_cases hdeep : level < Path.depth e.text
  · have hdir : e.dir ≠ [] := by
      rw [e.depth_text] at hdeep
      exact List.length_pos_iff.1 (by omega)
    exact ⟨topWildcard e.text, mem_collapsedTo.2 (.inr ⟨_, he, hdeep, rfl⟩),
      Entry.covers_topWildcard hdir⟩
  · exact ⟨e.text, mem_collapsedTo.2 (.inl ⟨he, Nat.not_lt.1 hdeep⟩), .refl _⟩

/-- What the loop comes to covers the exact patterns. -/
theorem exists_covers_fitted (hpaths : ∀ p ∈ paths, ¬Climbs p) (hx : x ∈ exactPatterns paths) :
    ∃ y ∈ fitted threshold paths, Covers y x := by
  by_cases hlarge : threshold < (exactPatterns paths).length
  · obtain ⟨-, -, -, e, -, rfl, -⟩ := exists_entry_of_mem_exactPatterns hpaths hx
    -- Wherever the loop stops, it has come to one collapse of the exact patterns.
    rcases fitted_spec hpaths hlarge with ⟨level, hstop, heq⟩ | ⟨-, heq⟩
    · rw [heq]
      exact exists_covers_collapsedTo hstop.pos hx
    · rw [heq]
      exact exists_covers_collapsedTo Nat.one_pos hx
  · rw [fitted, if_pos (Nat.not_lt.1 hlarge)]
    exact ⟨x, hx, .refl x⟩

/-- The exact patterns of paths under a root are under it, too. -/
theorem under_of_mem_exactPatterns (hss : ∀ s ∈ ss, Path.Plain s) (hpaths : ∀ p ∈ paths, ¬Climbs p)
    (hunder : ∀ p ∈ paths, Under ss (cleaned p)) (hx : x ∈ exactPatterns paths) : Under ss x := by
  obtain ⟨p, hp, e, f, he, rfl, hdir⟩ := exists_entry_of_mem_exactPatterns hpaths hx
  rw [f.under_iff hss, hdir, ← e.under_iff hss, ← he]
  exact hunder p hp

/-- The exact pattern of every path under the root is covered. -/
theorem exists_covers (hss : ∀ s ∈ ss, Path.Plain s)
    (hroot : Text.trimEnd Path.isSlash (Path.rooted root) = Path.absolute ss)
    (hpaths : ∀ p ∈ paths, ¬Climbs p) (hunder : ∀ p ∈ paths, Under ss (cleaned p))
    (hp : p ∈ paths) :
    ∃ y ∈ invalidationPatterns root threshold force paths, Covers y (exactPattern p) := by
  have hexact : exactPattern p ∈ exactPatterns paths :=
    Text.mem_sortedSet.2 (List.mem_map.2 ⟨p, hp, rfl⟩)
  rw [invalidationPatterns_eq]
  split
  · -- Only the wildcard on the root is left, but all exact patterns are under the root.
    refine ⟨rootWildcard root, List.mem_singleton_self _, ?_⟩
    rw [rootWildcard_eq hroot]
    exact covers_of_under (under_of_mem_exactPatterns hss hpaths hunder hexact)
  · exact exists_covers_fitted hpaths hexact

/-! ### How many patterns there are -/

/-- There is room for the wildcard on the root, even if no pattern is
allowed. -/
theorem length_invalidationPatterns_le_max (root : Text) (threshold : Nat) (force : Bool)
    (paths : List Text) :
    (invalidationPatterns root threshold force paths).length ≤ max 1 threshold := by
  rw [invalidationPatterns_eq]
  split
  case isTrue => exact Nat.le_max_left 1 threshold
  case isFalse h =>
    rw [not_or, not_or] at h
    exact Nat.le_trans (Nat.not_lt.1 h.2.1) (Nat.le_max_right 1 threshold)

/-- A threshold that allows a pattern at all is never exceeded. -/
theorem length_invalidationPatterns_le (hpos : 0 < threshold) (root : Text) (force : Bool)
    (paths : List Text) : (invalidationPatterns root threshold force paths).length ≤ threshold := by
  have h := length_invalidationPatterns_le_max root threshold force paths
  rwa [Nat.max_eq_right hpos] at h

/-! ### In which order they stand -/

/-- Every collapse sorts anew, so the loop hands on a sorted list however
often it turns. -/
theorem pairwise_collapseUntilFits {ps : List Text} (h : ps.Pairwise (· < ·)) (limit : Nat) :
    (collapseUntilFits threshold limit ps).Pairwise (· < ·) := by
  induction limit generalizing ps with
  | zero => exact h
  | succ limit ih =>
    have hstep : (collapseDeeper (limit + 1) ps).Pairwise (· < ·) := Text.pairwise_sortedSet _
    unfold collapseUntilFits
    dsimp only
    split
    · exact hstep
    · exact ih hstep

/-- Sorted they are also if no collapse is needed. -/
theorem pairwise_fitted (threshold : Nat) (paths : List Text) :
    (fitted threshold paths).Pairwise (· < ·) := by
  have hexact : (exactPatterns paths).Pairwise (· < ·) := Text.pairwise_sortedSet _
  unfold fitted
  split
  · exact hexact
  · exact pairwise_collapseUntilFits hexact _

/-- The patterns come in strictly ascending order. -/
theorem pairwise_invalidationPatterns (root : Text) (threshold : Nat) (force : Bool)
    (paths : List Text) :
    (invalidationPatterns root threshold force paths).Pairwise (· < ·) := by
  rw [invalidationPatterns_eq]
  split
  · exact List.pairwise_singleton _ _
  · exact pairwise_fitted threshold paths

/-- No pattern is asked for twice. -/
theorem nodup_invalidationPatterns (root : Text) (threshold : Nat) (force : Bool)
    (paths : List Text) : (invalidationPatterns root threshold force paths).Nodup :=
  Text.nodup_of_pairwise (pairwise_invalidationPatterns root threshold force paths)

/-! ### Files of a site -/

/-- A path with plain segments does not climb. -/
theorem not_climbs_absolute (h : ∀ s ∈ ss, Path.Plain s) : ¬Climbs (Path.absolute ss) := by
  rintro ⟨rest, hrest⟩
  rw [Path.cleanSegments_absolute h] at hrest
  have hdots : Path.Plain Path.dots := h _ (hrest ▸ List.mem_cons_self)
  exact hdots.ne_dots rfl

/-- There is nothing to clean in it. -/
theorem cleaned_absolute (h : ∀ s ∈ ss, Path.Plain s) (hne : ss ≠ []) :
    cleaned (Path.absolute ss) = Path.absolute ss :=
  Path.rooted_clean (Path.cleanSegments_absolute h) hne fun s hs =>
    ⟨(h s hs).ne_nil, (h s hs).no_slash⟩

/-- Its pattern is the way it is asked for. -/
theorem exactPattern_absolute (h : ∀ s ∈ ss, Path.Plain s) (hne : ss ≠ []) :
    exactPattern (Path.absolute ss) = requested (Path.absolute ss) := by
  rw [exactPattern_eq_requested (not_climbs_absolute h), cleaned_absolute h hne]

/-- The path of a file below a root, all of plain segments. -/
def Below (ss : List Text) (p : Text) : Prop :=
  ∃ ts, ts ≠ [] ∧ (∀ s ∈ ss ++ ts, Path.Plain s) ∧ p = Path.absolute (ss ++ ts)

/-- Such a path does not climb. -/
theorem Below.not_climbs (h : Below ss p) : ¬Climbs p := by
  obtain ⟨ts, -, hplain, rfl⟩ := h
  exact not_climbs_absolute hplain

/-- Cleaning leaves it under the root. -/
theorem Below.under_cleaned (h : Below ss p) : Under ss (cleaned p) := by
  obtain ⟨ts, hne, hplain, rfl⟩ := h
  obtain ⟨t, ts, rfl⟩ := List.exists_cons_of_ne_nil hne
  rw [cleaned_absolute hplain (List.append_ne_nil_of_right_ne_nil ss hne), Path.absolute_append]
  exact under_iff.2 ⟨t ++ Path.absolute ts, rfl⟩

/-- Its exact pattern is the way it is asked for. -/
theorem Below.exactPattern_eq (h : Below ss p) : exactPattern p = requested p := by
  obtain ⟨ts, hne, hplain, rfl⟩ := h
  exact exactPattern_absolute hplain (List.append_ne_nil_of_right_ne_nil ss hne)

/-- When files below a root have changed, each of them is covered as it
is asked for. -/
theorem exists_covers_requested (hss : ∀ s ∈ ss, Path.Plain s)
    (hroot : Text.trimEnd Path.isSlash (Path.rooted root) = Path.absolute ss)
    (hpaths : ∀ p ∈ paths, Below ss p) (hp : p ∈ paths) :
    ∃ y ∈ invalidationPatterns root threshold force paths, Covers y (requested p) := by
  rw [← (hpaths p hp).exactPattern_eq]
  exact exists_covers hss hroot (fun q hq => (hpaths q hq).not_climbs)
    (fun q hq => (hpaths q hq).under_cleaned) hp

end SiteSync.Cdn
