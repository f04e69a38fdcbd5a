import Mathlib.Data.List.Perm.Subperm
import SiteSync.Proofs.Cdn.Invalidation

/-!
# `SiteSync.Proofs.Cdn.WebRoot`: which patterns stay under the web root

The collapses look at the first segment of a path and never at the web
root. Under a root with at most one segment that does no harm, but under
a deeper one the wildcard on the first segment is a wildcard on an
ancestor of the root.

- `Entry.under_iff`: an entry is under a root when its directories start
  with those of the root.
- `fitted_of_deep`: under a deep root a list that does not fit as it is
  is collapsed beyond the root.
- `stays_under_iff`: exactly when all patterns stay under the root.
-/

set_option autoImplicit false

namespace SiteSync.Cdn

/-- Whether a pattern is under the root with some segments. -/
def Under (ss : List Text) (p : Text) : Prop :=
  Text.startsWith p (Path.absolute ss ++ ['/']) = true

instance (ss : List Text) (p : Text) : Decidable (Under ss p) :=
  inferInstanceAs (Decidable (_ = true))

variable {ss : List Text} {root p : Text} {paths : List Text} {threshold : Nat} {force : Bool}

/-- What is under a root has the root and a slash in front. -/
theorem under_iff : Under ss p ↔ ∃ rest, p = Path.absolute ss ++ '/' :: rest := by
  rw [Under, Text.startsWith_iff]
  constructor
  · rintro ⟨rest, rfl⟩
    exact ⟨rest, by rw [List.append_assoc, List.singleton_append]⟩
  · rintro ⟨rest, rfl⟩
    exact ⟨rest, by rw [List.append_assoc, List.singleton_append]⟩

/-- An entry is under a root when its directories start with those of
the root. -/
theorem Entry.under_iff (hss : ∀ s ∈ ss, Path.Plain s) (e : Entry) :
    Under ss e.text ↔ ss <+: e.dir := by
  rw [Cdn.under_iff]
  constructor
  · rintro ⟨rest, hrest⟩
    have hsegments := congrArg Path.segments hrest
    rw [e.segments_text, Path.segments_absolute_append fun s hs => (hss s hs).no_slash] at hsegments
    have hall : e.dir ++ [e.last] = ss ++ Path.segments rest := List.tail_eq_of_cons_eq hsegments
    -- The last segment of the rest is what stands behind the last slash.
    rcases List.eq_nil_or_concat (Path.segments rest) with hnil | ⟨dir, last, hconcat⟩
    · exact absurd hnil (Text.split_ne_nil '/' rest)
    · rw [hconcat, List.concat_eq_append, ← List.append_assoc] at hall
      exact ⟨dir, (List.append_inj_left' hall rfl).symm⟩
  · rintro ⟨dir, hdir⟩
    refine ⟨Path.ofSegments (dir ++ [e.last]), ?_⟩
    rw [Path.slash_ofSegments (by simp), ← Path.absolute_append, ← List.append_assoc, hdir,
      Entry.text]

/-! ### Paths under a root -/

/-- What is under a root with a plain segment does not climb. -/
theorem not_climbs_of_under (hss : ∀ s ∈ ss, Path.Plain s) (hne : ss ≠ [])
    (h : Under ss (cleaned p)) : ¬Climbs p := by
  intro hclimbs
  obtain ⟨rest, hrest, hcleaned⟩ := cleaned_of_climbs hclimbs
  obtain ⟨behind, hbehind⟩ := under_iff.1 h
  obtain ⟨s, ss, rfl⟩ := List.exists_cons_of_ne_nil hne
  have hslash : ∀ t ∈ Path.dots :: rest, '/' ∉ t := fun t ht => by
    rcases List.mem_cons.1 ht with rfl | ht
    · decide
    · exact hrest t ht
  have hsegments := congrArg Path.segments (hcleaned.symm.trans hbehind)
  rw [Path.segments_absolute hslash,
    Path.segments_absolute_append fun t ht => (hss t ht).no_slash] at hsegments
  -- The first segment would be a step up and a segment of the root at once.
  injection hsegments with _ hsegments
  injection hsegments with hdots _
  exact (hss s List.mem_cons_self).ne_dots hdots.symm

/-- The exact patterns of paths under a root are entries under it. -/
theorem exists_entry_of_mem (hss : ∀ s ∈ ss, Path.Plain s) (hne : ss ≠ [])
    (hpaths : ∀ p ∈ paths, Under ss (cleaned p)) (hp : p ∈ exactPatterns paths) :
    ∃ e : Entry, p = e.text ∧ ss <+: e.dir := by
  have hclimbs : ∀ q ∈ paths, ¬Climbs q := fun q hq => not_climbs_of_under hss hne (hpaths q hq)
  obtain ⟨q, hq, e, f, he, hf, hdir⟩ := exists_entry_of_mem_exactPatterns hclimbs hp
  refine ⟨f, hf, ?_⟩
  rw [hdir, ← Entry.under_iff hss, ← he]
  exact hpaths q hq

/-- The wildcard on a root has its segments and a star behind them. -/
theorem rootWildcard_eq (hroot : Text.trimEnd Path.isSlash (Path.rooted root) = Path.absolute ss) :
    rootWildcard root = Path.absolute (ss ++ [['*']]) := by
  rw [rootWildcard, hroot, Path.absolute_concat]

/-- So it is under the root. -/
theorem under_rootWildcard
    (hroot : Text.trimEnd Path.isSlash (Path.rooted root) = Path.absolute ss) :
    Under ss (rootWildcard root) := by
  rw [rootWildcard_eq hroot, Path.absolute_concat]
  exact under_iff.2 ⟨['*'], rfl⟩

/-- The wildcard on the first segment is under a root with one segment,
and not under a deeper one. -/
theorem under_topWildcard_iff (hss : ∀ s ∈ ss, Path.Plain s) (hne : ss ≠ []) {e : Entry}
    (he : ss <+: e.dir) : Under ss (topWildcard e.text) ↔ ss.length ≤ 1 := by
  have hdir : e.dir ≠ [] := fun h => hne (List.prefix_nil.1 (h ▸ he))
  -- The wildcard has one directory, and the root has to fit into it.
  rw [topWildcard_text hdir, Entry.under_iff hss, Entry.raised_dir]
  constructor
  · intro h
    exact Nat.le_trans h.length_le (List.length_take_le 1 e.dir)
  · intro h
    exact List.prefix_take_iff.2 ⟨he, h⟩

/-! ### Shallow roots -/

/-- What comes out of the loop went into it or was collapsed. -/
theorem mem_collapseUntilFits {limit : Nat} {ps : List Text} {x : Text}
    (hx : x ∈ collapseUntilFits threshold limit ps) : x ∈ ps ∨ ∃ level q, x = collapse level q := by
  induction limit generalizing ps with
  | zero => exact .inl hx
  | succ limit ih =>
    -- One turn keeps a pattern or collapses it, and the others do it once more.
    have hstep : x ∈ collapseDeeper (limit + 1) ps → x ∈ ps ∨ ∃ level q, x = collapse level q := by
      intro hmem
      rw [collapseDeeper, Text.mem_sortedSet, List.mem_map] at hmem
      obtain ⟨q, hq, hxq⟩ := hmem
      split at hxq
      · exact .inr ⟨limit + 1, q, hxq.symm⟩
      · exact .inl (hxq ▸ hq)
    unfold collapseUntilFits at hx
    dsimp only at hx
    split at hx
    · exact hstep hx
    · rcases ih hx with hmem | hcollapsed
      · exact hstep hmem
      · exact .inr hcollapsed

/-- An exact pattern starts with a slash, also if its path climbs. -/
theorem under_nil_exactPattern (p : Text) : Under [] (exactPattern p) := by
  obtain ⟨dir, last, hlast, hcleaned⟩ : ∃ dir last, '/' ∉ last ∧
      cleaned p = Path.absolute (dir ++ [last]) := by
    -- A path that climbs is no entry, but the last of its segments has no slash in it either.
    by_cases hclimbs : Climbs p
    · obtain ⟨rest, hrest, hcleaned⟩ := cleaned_of_climbs hclimbs
      have hsplit := List.dropLast_concat_getLast (List.cons_ne_nil Path.dots rest)
      refine ⟨_, _, ?_, hcleaned.trans (congrArg Path.absolute hsplit.symm)⟩
      rcases List.mem_cons.1 (List.getLast_mem (List.cons_ne_nil Path.dots rest)) with hdots | hmem
      · rw [hdots]
        decide
      · exact hrest _ hmem
    · obtain ⟨e, he⟩ := exists_cleaned hclimbs
      exact ⟨e.dir, e.last, e.no_slash, he⟩
  rw [under_iff]
  show ∃ rest, exactPattern p = '/' :: rest
  unfold exactPattern
  dsimp only
  rw [hcleaned, Path.baseName_absolute dir hlast, Path.parent_eq_cleanSegments dir hlast]
  split
  · rw [Path.asDirectory]
    split
    · exact ⟨_, rfl⟩
    · exact ⟨_, rfl⟩
  · rw [Path.absolute_append]
    cases dir with
    | nil => exact ⟨_, rfl⟩
    | cons s ss => exact ⟨_, rfl⟩

/-- Under a root with at most one segment all patterns stay under it. -/
theorem under_of_mem_fitted (hss : ∀ s ∈ ss, Path.Plain s) (hshort : ss.length ≤ 1)
    (hpaths : ∀ p ∈ paths, Under ss (cleaned p)) {x : Text} (hx : x ∈ fitted threshold paths) :
    Under ss x := by
  cases ss with
  | nil =>
    -- Under the top is all that has a slash in front.
    have hexact : ∀ y ∈ exactPatterns paths, Under [] y := fun y hy => by
      rw [exactPatterns, Text.mem_sortedSet, List.mem_map] at hy
      obtain ⟨p, -, rfl⟩ := hy
      exact under_nil_exactPattern p
    unfold fitted at hx
    split at hx
    · exact hexact x hx
    · rcases mem_collapseUntilFits hx with hx | ⟨level, q, rfl⟩
      · exact hexact x hx
      · exact under_iff.2 ⟨_, rfl⟩
  | cons s ss =>
    have hne : s :: ss ≠ [] := List.cons_ne_nil s ss
    have hexact : ∀ y ∈ exactPatterns paths, ∃ e : Entry, y = e.text ∧ s :: ss <+: e.dir :=
      fun y hy => exists_entry_of_mem hss hne hpaths hy
    -- The one segment of the root is the first of every pattern, and is kept by a collapse.
    have hcollapsed : ∀ level, ∀ y ∈ collapsedTo level (exactPatterns paths),
        Under (s :: ss) y := by
      intro level y hy
      rcases mem_collapsedTo.1 hy with ⟨hmem, -⟩ | ⟨p, hp, -, rfl⟩
      · obtain ⟨e, rfl, he⟩ := hexact y hmem
        exact (e.under_iff hss).2 he
      · obtain ⟨e, rfl, he⟩ := hexact p hp
        exact (under_topWildcard_iff hss hne he).2 hshort
    by_cases hlarge : threshold < (exactPatterns paths).length
    · rcases fitted_spec (fun p hp => not_climbs_of_under hss hne (hpaths p hp)) hlarge with
        ⟨level, -, heq⟩ | ⟨-, heq⟩
      · exact hcollapsed level x (heq ▸ hx)
      · exact hcollapsed 1 x (heq ▸ hx)
    · rw [fitted, if_pos (Nat.not_lt.1 hlarge)] at hx
      obtain ⟨e, rfl, he⟩ := hexact x hx
      exact (e.under_iff hss).2 he

/-! ### Deep roots -/

/-- What the collapses make of anything under a root: the wildcard on
the first segment of the root. -/
def ancestorWildcard (ss : List Text) : Text := Path.absolute (ss.take 1 ++ [['*']])

/-- Whatever its other directories are, the first is that of the root. -/
theorem topWildcard_of_prefix {e : Entry} (hne : ss ≠ []) (he : ss <+: e.dir) :
    topWildcard e.text = ancestorWildcard ss := by
  obtain ⟨s, ss, rfl⟩ := List.exists_cons_of_ne_nil hne
  obtain ⟨dir, hdir⟩ := he
  have hnil : e.dir ≠ [] := by
    rw [← hdir]
    exact List.cons_ne_nil s _
  rw [topWildcard_text hnil, Entry.text, Entry.raised_dir, ← hdir]
  rfl

/-- Paths under a root, collapsed to some level: those that are not
deeper, and for the others the wildcard on the first segment. -/
theorem mem_collapsedTo_iff (hss : ∀ s ∈ ss, Path.Plain s) (hne : ss ≠ [])
    (hpaths : ∀ p ∈ paths, Under ss (cleaned p)) {level : Nat} {x : Text} :
    x ∈ collapsedTo level (exactPatterns paths) ↔
      (x ∈ exactPatterns paths ∧ Path.depth x ≤ level) ∨
        (x = ancestorWildcard ss ∧ ∃ p ∈ exactPatterns paths, level < Path.depth p) := by
  have htop : ∀ p ∈ exactPatterns paths, topWildcard p = ancestorWildcard ss := fun p hp => by
    obtain ⟨e, rfl, he⟩ := exists_entry_of_mem hss hne hpaths hp
    exact topWildcard_of_prefix hne he
  rw [mem_collapsedTo]
  refine or_congr_right ⟨?_, ?_⟩
  · rintro ⟨p, hp, hdeep, rfl⟩
    exact ⟨htop p hp, p, hp, hdeep⟩
  · rintro ⟨rfl, p, hp, hdeep⟩
    exact ⟨p, hp, hdeep, (htop p hp).symm⟩

/-- What is asked for under a root is deeper than the root. -/
theorem depth_of_mem (hss : ∀ s ∈ ss, Path.Plain s) (hne : ss ≠ [])
    (hpaths : ∀ p ∈ paths, Under ss (cleaned p)) (hp : p ∈ exactPatterns paths) :
    ss.length < Path.depth p := by
  obtain ⟨e, rfl, he⟩ := exists_entry_of_mem hss hne hpaths hp
  rw [e.depth_text]
  exact Nat.lt_succ_of_le he.length_le

/-- Under a deep root, a list that does not fit as it is, and may hold a
pattern at all, is collapsed until it fits, and then has a wildcard on
an ancestor of the root. -/
theorem fitted_of_deep (hss : ∀ s ∈ ss, Path.Plain s) (hdeep : 2 ≤ ss.length)
    (hpaths : ∀ p ∈ paths, Under ss (cleaned p)) (hpos : 0 < threshold)
    (hlarge : threshold < (exactPatterns paths).length) :
    ∃ level, StopsAt threshold (maxDepth paths) (exactPatterns paths) level ∧
      fitted threshold paths = collapsedTo level (exactPatterns paths) ∧
      ∃ p ∈ exactPatterns paths, level < Path.depth p := by
  have hne : ss ≠ [] := List.length_pos_iff.1 (by omega)
  have hclimbs : ∀ p ∈ paths, ¬Climbs p := fun p hp => not_climbs_of_under hss hne (hpaths p hp)
  rcases fitted_spec hclimbs hlarge with ⟨level, hstop, heq⟩ | ⟨hnever, -⟩
  · refine ⟨level, hstop, heq, ?_⟩
    by_contra hshallow
    -- Otherwise nothing was collapsed, and the list would not fit.
    have hall : ∀ p ∈ exactPatterns paths, Path.depth p ≤ level := fun p hp =>
      Nat.not_lt.1 fun h => hshallow ⟨p, hp, h⟩
    have hfits := hstop.fits
    rw [collapsedTo_of_depth_le hall, sortedSet_exactPatterns] at hfits
    omega
  · -- At level one only the wildcard is left.
    exfalso
    obtain ⟨p, hp⟩ := List.exists_mem_of_length_pos (Nat.zero_lt_of_lt hlarge)
    have hdepth := depth_of_mem hss hne hpaths hp
    have hmax := depth_le_of_mem_exactPatterns hclimbs hp
    have hone := hnever 1 Nat.one_pos (by omega)
    have hsub : collapsedTo 1 (exactPatterns paths) ⊆ [ancestorWildcard ss] := by
      intro x hx
      rcases (mem_collapsedTo_iff hss hne hpaths).1 hx with ⟨hmem, hle⟩ | ⟨rfl, -⟩
      · have := depth_of_mem hss hne hpaths hmem
        omega
      · exact List.mem_singleton_self _
    have hlength := (List.subperm_of_subset (nodup_collapsedTo _ _) hsub).length_le
    rw [List.length_singleton] at hlength
    omega

/-- The wildcard on an ancestor of a deep root is not under the root. -/
theorem not_under_ancestorWildcard (hss : ∀ s ∈ ss, Path.Plain s) (hdeep : 2 ≤ ss.length) :
    ¬Under ss (ancestorWildcard ss) := by
  have hne : ss ≠ [] := List.length_pos_iff.1 (by omega)
  -- The root itself, as a directory, is an entry under it.
  let e : Entry := ⟨ss, [], hss, List.not_mem_nil⟩
  have he : ss <+: e.dir := List.prefix_refl ss
  rw [← topWildcard_of_prefix hne he, under_topWildcard_iff hss hne he]
  omega

/-! ### The theorem -/

/-- All patterns stay under the root if they are replaced by the
wildcard on it, or stay there as they are. -/
theorem within_iff (hroot : Text.trimEnd Path.isSlash (Path.rooted root) = Path.absolute ss) :
    (∀ x ∈ invalidationPatterns root threshold force paths, x = rootWildcard root ∨ Under ss x) ↔
      force = true ∨ threshold < (fitted threshold paths).length ∨
        rootWildcard root ∈ fitted threshold paths ∨ ∀ x ∈ fitted threshold paths, Under ss x := by
  rw [invalidationPatterns_eq]
  split
  -- It is the wildcard on the root alone.
  case isTrue h =>
    refine iff_of_true (fun x hx => .inl (List.mem_singleton.1 hx)) ?_
    rcases h with h | h | h
    · exact .inl h
    · exact .inr (.inl h)
    · exact .inr (.inr (.inl h))
  case isFalse h =>
    rw [not_or, not_or] at h
    obtain ⟨hforce, hlong, hall⟩ := h
    constructor
    · intro hwithin
      refine .inr (.inr (.inr fun x hx => ?_))
      rcases hwithin x hx with rfl | hunder
      · exact under_rootWildcard hroot
      · exact hunder
    · rintro (h | h | h | h)
      · exact absurd h hforce
      · exact absurd h hlong
      · exact absurd h hall
      · exact fun x hx => .inr (h x hx)

/-- Collapsing paths under a root adds at most one pattern to those that
are kept. -/
theorem length_collapsedTo_le (hss : ∀ s ∈ ss, Path.Plain s) (hne : ss ≠ [])
    (hpaths : ∀ p ∈ paths, Under ss (cleaned p)) (level : Nat) :
    (collapsedTo level (exactPatterns paths)).length
      ≤ ((exactPatterns paths).filter fun p => Path.depth p ≤ level).length + 1 := by
  have hsub : collapsedTo level (exactPatterns paths) ⊆ ancestorWildcard ss ::
      (exactPatterns paths).filter fun p => Path.depth p ≤ level := by
    intro x hx
    rcases (mem_collapsedTo_iff hss hne hpaths).1 hx with ⟨hx, hle⟩ | ⟨rfl, -⟩
    · exact List.mem_cons_of_mem _ (List.mem_filter.2 ⟨hx, decide_eq_true hle⟩)
    · exact List.mem_cons_self
  exact (List.subperm_of_subset (nodup_collapsedTo _ _) hsub).length_le

/-- Under a deep root it adds one if anything is collapsed, as the
wildcard was not there before. -/
theorem lt_length_collapsedTo (hss : ∀ s ∈ ss, Path.Plain s) (hdeep : 2 ≤ ss.length)
    (hpaths : ∀ p ∈ paths, Under ss (cleaned p)) {level : Nat}
    (hbelow : ∃ p ∈ exactPatterns paths, level < Path.depth p) :
    ((exactPatterns paths).filter fun p => Path.depth p ≤ level).length
      < (collapsedTo level (exactPatterns paths)).length := by
  have hne : ss ≠ [] := List.length_pos_iff.1 (by omega)
  -- The wildcard is no exact pattern, as it is not under the root.
  have hnodup : (ancestorWildcard ss ::
      (exactPatterns paths).filter fun p => Path.depth p ≤ level).Nodup := by
    refine List.nodup_cons.2 ⟨fun hin => ?_, (Text.nodup_sortedSet _).filter _⟩
    obtain ⟨e, htext, he⟩ := exists_entry_of_mem hss hne hpaths (List.mem_filter.1 hin).1
    exact not_under_ancestorWildcard hss hdeep (htext ▸ (e.under_iff hss).2 he)
  have hsub : (ancestorWildcard ss ::
      (exactPatterns paths).filter fun p => Path.depth p ≤ level)
        ⊆ collapsedTo level (exactPatterns paths) := by
    intro x hx
    rw [mem_collapsedTo_iff hss hne hpaths]
    rcases List.mem_cons.1 hx with rfl | hx
    · exact .inr ⟨rfl, hbelow⟩
    · obtain ⟨hx, hshallow⟩ := List.mem_filter.1 hx
      exact .inl ⟨hx, of_decide_eq_true hshallow⟩
  exact (List.subperm_of_subset hnodup hsub).length_le

/-- Under a deep root a list that does not fit as it is becomes the
wildcard on the root only if that is among the exact patterns, and still
there when the list fits: if it and the other patterns directly under
the root leave room for one more. -/
theorem rootWildcard_mem_fitted_iff (hss : ∀ s ∈ ss, Path.Plain s)
    (hroot : Text.trimEnd Path.isSlash (Path.rooted root) = Path.absolute ss)
    (hdeep : 2 ≤ ss.length) (hpaths : ∀ p ∈ paths, Under ss (cleaned p)) (hpos : 0 < threshold)
    (hlarge : threshold < (exactPatterns paths).length) :
    rootWildcard root ∈ fitted threshold paths ↔
      rootWildcard root ∈ exactPatterns paths ∧
        ((exactPatterns paths).filter fun p => Path.depth p ≤ ss.length + 1).length
          < threshold := by
  have hne : ss ≠ [] := List.length_pos_iff.1 (by omega)
  obtain ⟨level, hstop, hfitted, hbelow⟩ := fitted_of_deep hss hdeep hpaths hpos hlarge
  have hdepth : Path.depth (rootWildcard root) = ss.length + 1 :=
    (congrArg Path.depth (rootWildcard_eq hroot)).trans
      (Entry.depth_text ⟨ss, ['*'], hss, by decide⟩)
  rw [hfitted, mem_collapsedTo_iff hss hne hpaths, hdepth]
  constructor
  · rintro (⟨hmem, hle⟩ | ⟨heq, -⟩)
    · refine ⟨hmem, ?_⟩
      -- What lies directly under the root is kept at every level down to it.
      have hkept : ((exactPatterns paths).filter fun p => Path.depth p ≤ ss.length + 1).length
          ≤ ((exactPatterns paths).filter fun p => Path.depth p ≤ level).length := by
        rw [← List.countP_eq_length_filter, ← List.countP_eq_length_filter]
        exact List.countP_mono_left fun p _ hp =>
          decide_eq_true (Nat.le_trans (of_decide_eq_true hp) hle)
      have hadded := lt_length_collapsedTo hss hdeep hpaths hbelow
      have hfits := hstop.fits
      omega
    · exact absurd (heq ▸ under_rootWildcard hroot) (not_under_ancestorWildcard hss hdeep)
  · rintro ⟨hmem, hcount⟩
    refine .inl ⟨hmem, ?_⟩
    by_contra hlow
    -- The list fits at the level of the root already.
    have hclimbs : ∀ p ∈ paths, ¬Climbs p := fun p hp => not_climbs_of_under hss hne (hpaths p hp)
    have hmax := depth_le_of_mem_exactPatterns hclimbs hmem
    rw [hdepth] at hmax
    have hbefore := hstop.before (ss.length + 1) (Nat.not_le.1 hlow) hmax
    have hadded := length_collapsedTo_le hss hne hpaths (ss.length + 1)
    omega

/-- Under a deep root a list that does not fit as it is comes to fit,
with the wildcard on an ancestor of the root in it. -/
theorem ancestorWildcard_mem_fitted (hss : ∀ s ∈ ss, Path.Plain s) (hdeep : 2 ≤ ss.length)
    (hpaths : ∀ p ∈ paths, Under ss (cleaned p)) (hpos : 0 < threshold)
    (hlarge : threshold < (exactPatterns paths).length) :
    ¬threshold < (fitted threshold paths).length ∧
      ancestorWildcard ss ∈ fitted threshold paths := by
  have hne : ss ≠ [] := List.length_pos_iff.1 (by omega)
  obtain ⟨level, hstop, hfitted, hbelow⟩ := fitted_of_deep hss hdeep hpaths hpos hlarge
  rw [hfitted]
  refine ⟨Nat.not_lt.2 hstop.fits, ?_⟩
  exact (mem_collapsedTo_iff hss hne hpaths).2 (.inr ⟨rfl, hbelow⟩)

/-- Nothing takes that wildcard out again, as long as no file is named
like a wildcard. -/
theorem ancestorWildcard_mem (hss : ∀ s ∈ ss, Path.Plain s) (hdeep : 2 ≤ ss.length)
    (hroot : Text.trimEnd Path.isSlash (Path.rooted root) = Path.absolute ss)
    (hpaths : ∀ p ∈ paths, Under ss (cleaned p)) (hpos : 0 < threshold)
    (hlarge : threshold < (exactPatterns paths).length)
    (hall : rootWildcard root ∉ exactPatterns paths) :
    ancestorWildcard ss ∈ invalidationPatterns root threshold false paths := by
  obtain ⟨hlength, hmem⟩ := ancestorWildcard_mem_fitted hss hdeep hpaths hpos hlarge
  have hkept : rootWildcard root ∉ fitted threshold paths := fun h =>
    hall ((rootWildcard_mem_fitted_iff hss hroot hdeep hpaths hpos hlarge).1 h).1
  rw [invalidationPatterns_eq,
    if_neg (not_or.2 ⟨Bool.false_ne_true, not_or.2 ⟨hlength, hkept⟩⟩)]
  exact hmem

/-- The patterns of paths under a root all stay under it exactly when
the wildcard on the root is forced, or the root has at most one segment,
or no pattern is allowed at all, or the exact patterns fit, or one of
them is that wildcard and fewer lie directly under the root than are
allowed. -/
theorem stays_under_iff {root : Text} {ss : List Text} (hss : ∀ s ∈ ss, Path.Plain s)
    (hroot : Text.trimEnd Path.isSlash (Path.rooted root) = Path.absolute ss) (threshold : Nat)
    (force : Bool) {paths : List Text} (hpaths : ∀ p ∈ paths, Under ss (cleaned p)) :
    (∀ x ∈ invalidationPatterns root threshold force paths, x = rootWildcard root ∨ Under ss x) ↔
      force = true ∨ ss.length ≤ 1 ∨ threshold = 0 ∨ (exactPatterns paths).length ≤ threshold ∨
        (rootWildcard root ∈ exactPatterns paths ∧
          ((exactPatterns paths).filter fun p => Path.depth p ≤ ss.length + 1).length
            < threshold) := by
  rw [within_iff hroot]
  refine or_congr_right ?_
  by_cases hshort : ss.length ≤ 1
  · refine iff_of_true (.inr (.inr fun x hx => ?_)) (.inl hshort)
    exact under_of_mem_fitted hss hshort hpaths hx
  have hdeep : 2 ≤ ss.length := Nat.lt_of_not_le hshort
  have hne : ss ≠ [] := List.length_pos_iff.1 (by omega)
  rw [or_iff_right hshort]
  by_cases hnone : threshold = 0
  · -- Without room for a pattern every list is too long, but the empty one.
    refine iff_of_true ?_ (.inl hnone)
    rcases Nat.eq_zero_or_pos (fitted threshold paths).length with hlength | hlength
    · rw [List.length_eq_zero_iff.1 hlength]
      exact .inr (.inr fun x hx => nomatch hx)
    · rw [hnone] at hlength ⊢
      exact .inl hlength
  rw [or_iff_right hnone]
  -- What fits as it is, is not collapsed.
  by_cases hfits : (exactPatterns paths).length ≤ threshold
  · refine iff_of_true (.inr (.inr fun x hx => ?_)) (.inl hfits)
    rw [fitted, if_pos hfits] at hx
    obtain ⟨e, rfl, he⟩ := exists_entry_of_mem hss hne hpaths hx
    exact (e.under_iff hss).2 he
  have hpos : 0 < threshold := Nat.pos_of_ne_zero hnone
  have hlarge : threshold < (exactPatterns paths).length := Nat.lt_of_not_le hfits
  -- The collapses have left the root, so only the wildcard on it brings them back.
  obtain ⟨hlength, hmem⟩ := ancestorWildcard_mem_fitted hss hdeep hpaths hpos hlarge
  have hnot : ¬∀ x ∈ fitted threshold paths, Under ss x := fun hall =>
    not_under_ancestorWildcard hss hdeep (hall _ hmem)
  rw [or_iff_right hlength, or_iff_left hnot, or_iff_right hfits]
  exact rootWildcard_mem_fitted_iff hss hroot hdeep hpaths hpos hlarge

/-- Under a root with one segment every pattern stays there, also if
more pages have changed than there may be patterns. -/
theorem stays_under_sample :
    let paths := ["/blog/a".toList, "/blog/b".toList]
    (∀ s ∈ ["blog".toList], Path.Plain s) ∧ (∀ p ∈ paths, Under ["blog".toList] (cleaned p)) ∧
      ∀ x ∈ invalidationPatterns "/blog".toList 1 false paths,
        x = rootWildcard "/blog".toList ∨ Under ["blog".toList] x := by
  intro paths
  have hplain : ∀ s ∈ ["blog".toList], Path.Plain s := by decide
  have hpaths : ∀ p ∈ paths, Under ["blog".toList] (cleaned p) := by decide
  exact ⟨hplain, hpaths, (stays_under_iff hplain (by decide) 1 false hpaths).2
    (.inr (.inl (by decide)))⟩

/-- Nine pages directly under a root with two segments. -/
def ninePages : List Text :=
  ["/my/site/1".toList, "/my/site/2".toList, "/my/site/3".toList, "/my/site/4".toList,
    "/my/site/5".toList, "/my/site/6".toList, "/my/site/7".toList, "/my/site/8".toList,
    "/my/site/9".toList]

/-- When these pages change, everything under `/my` is to be forgotten,
and not only what is under `/my/site`. -/
theorem leaves_root_sample :
    let ss := ["my".toList, "site".toList]
    let root := "/my/site".toList
    (∀ p ∈ ninePages, Under ss (cleaned p)) ∧
      ¬∀ x ∈ invalidationPatterns root defaultThreshold false ninePages,
        x = rootWildcard root ∨ Under ss x := by
  intro ss root
  have hplain : ∀ s ∈ ss, Path.Plain s := by decide
  have hpaths : ∀ p ∈ ninePages, Under ss (cleaned p) := by decide
  -- The pages are sorted already, and none of them stands for its directory.
  have hexact : exactPatterns ninePages = ninePages := by
    have hsame : ninePages.map exactPattern = ninePages := by decide
    rw [exactPatterns, hsame]
    exact Text.sortedSet_of_pairwise (by decide)
  have hmem : ancestorWildcard ss ∈ invalidationPatterns root defaultThreshold false ninePages :=
    ancestorWildcard_mem hplain (by decide) (by decide) hpaths (by decide)
      (by rw [hexact]; decide) (by rw [hexact]; decide)
  refine ⟨hpaths, fun hwithin => ?_⟩
  have hne : ¬(ancestorWildcard ss = rootWildcard root ∨ Under ss (ancestorWildcard ss)) := by
    decide
  exact hne (hwithin _ hmem)

end SiteSync.Cdn
