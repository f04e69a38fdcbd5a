import SiteSync.Proofs.Cdn.ClosedForm

/-!
# `SiteSync.Proofs.Cdn.Threshold`: more room never means wider patterns

A reduction with a greater threshold stops at a higher level, so its
patterns are narrower. That alone does not settle it: the wildcard on the
root is put in place of other patterns, and under a deep root it is
narrower than what the collapses come to.

- `exists_covers_collapsedTo_of_le`: a collapse at a lower level covers
  one at a higher level.
- `exists_covers_fitted_of_le`: so the loop with less room covers the one
  with more.
- `length_fitted_le_of_deep`, `rootWildcard_mem_fitted_of_le`: under a
  deep root the wildcard on the root is only taken when it stands for a
  file, and then it is taken with more room as well.
- `never_coarsens`: every pattern is covered by one for less room.
-/

set_option autoImplicit false

namespace SiteSync.Cdn

variable {ss ps paths : List Text} {root x : Text} {threshold low high : Nat}

/-! ### Levels -/

/-- A collapse at a lower level covers one at a higher level. -/
theorem exists_covers_collapsedTo_of_le (hps : ∀ p ∈ ps, ∃ e : Entry, p = e.text)
    (hpos : 0 < low) (hle : low ≤ high) (hx : x ∈ collapsedTo high ps) :
    ∃ y ∈ collapsedTo low ps, Covers y x := by
  rcases mem_collapsedTo.1 hx with ⟨hmem, -⟩ | ⟨p, hp, hdeep, rfl⟩
  · obtain ⟨e, rfl⟩ := hps x hmem
    exact exists_covers_collapsedTo hpos hmem
  · -- What was collapsed already comes to the same wildcard.
    exact ⟨topWildcard p,
      mem_collapsedTo.2 (.inr ⟨p, hp, Nat.lt_of_le_of_lt hle hdeep, rfl⟩), .refl _⟩

/-- With more room patterns fit at a higher level. -/
theorem fittingLevel_mono (hle : low ≤ high) (limit : Nat) (ps : List Text) :
    fittingLevel low limit ps ≤ fittingLevel high limit ps :=
  Nat.findGreatest_mono_left (fun _ hfits => Nat.le_trans hfits hle) limit

/-- What the loop comes to is always one collapse. The level above the
deepest stands for no collapse at all, and if no level is low enough then
the last collapse is the lowest. -/
theorem fitted_eq_collapsedTo (hpaths : ∀ p ∈ paths, ¬Climbs p) :
    fitted threshold paths = collapsedTo
      (max 1 (fittingLevel threshold (maxDepth paths + 1) (exactPatterns paths)))
      (exactPatterns paths) := by
  have hdeepest := collapsedTo_maxDepth hpaths
  by_cases hlarge : threshold < (exactPatterns paths).length
  · -- The patterns as they are do not fit, so the greatest level is one of those below.
    have htop : ¬(collapsedTo (maxDepth paths + 1) (exactPatterns paths)).length ≤ threshold := by
      rw [hdeepest]
      exact Nat.not_le.2 hlarge
    have hbelow : fittingLevel threshold (maxDepth paths + 1) (exactPatterns paths)
        = fittingLevel threshold (maxDepth paths) (exactPatterns paths) :=
      Nat.findGreatest_of_not htop
    rw [hbelow]
    rcases fitted_spec hpaths hlarge with ⟨level, hstop, heq⟩ | ⟨hnever, heq⟩
    · rw [hstop.fittingLevel_eq, Nat.max_eq_right hstop.pos]
      exact heq
    · rw [fittingLevel_eq_zero_iff.2 hnever]
      exact heq
  · have hfits : (exactPatterns paths).length ≤ threshold := Nat.not_lt.1 hlarge
    have htop : fittingLevel threshold (maxDepth paths + 1) (exactPatterns paths)
        = maxDepth paths + 1 := by
      refine Nat.findGreatest_eq ?_
      rw [hdeepest]
      exact hfits
    rw [htop, Nat.max_eq_right (Nat.succ_pos _), hdeepest, fitted, if_pos hfits]

/-- The loop with less room covers the loop with more. -/
theorem exists_covers_fitted_of_le (hpaths : ∀ p ∈ paths, ¬Climbs p) (hle : low ≤ high)
    (hx : x ∈ fitted high paths) : ∃ y ∈ fitted low paths, Covers y x := by
  have hlevel := fittingLevel_mono hle (maxDepth paths + 1) (exactPatterns paths)
  rw [fitted_eq_collapsedTo hpaths] at hx ⊢
  refine exists_covers_collapsedTo_of_le (entry_of_mem_exactPatterns hpaths)
    (Nat.le_max_left 1 _) ?_ hx
  omega

/-- If the patterns come to fit, they do so with more room. -/
theorem length_fitted_le_of_le (hpaths : ∀ p ∈ paths, ¬Climbs p) (hle : low ≤ high)
    (hfits : (fitted low paths).length ≤ low) : (fitted high paths).length ≤ high := by
  rw [fitted_eq_collapsedTo hpaths] at hfits ⊢
  -- The level of the loop with less room is one at which they fit with more.
  have hlimit : max 1 (fittingLevel low (maxDepth paths + 1) (exactPatterns paths))
      ≤ maxDepth paths + 1 :=
    max_le (Nat.succ_le_succ (Nat.zero_le _)) (Nat.findGreatest_le _)
  have hmore := Nat.le_trans hfits hle
  have hpos : 1 ≤ fittingLevel high (maxDepth paths + 1) (exactPatterns paths) :=
    Nat.le_trans (Nat.le_max_left 1 _) (Nat.le_findGreatest hlimit hmore)
  rw [Nat.max_eq_right hpos]
  exact Nat.findGreatest_spec
    (P := fun level => (collapsedTo level (exactPatterns paths)).length ≤ high) hlimit hmore

/-! ### The wildcard on the root -/

/-- The wildcard on the root covers everything under it. -/
theorem covers_rootWildcard
    (hroot : Text.trimEnd Path.isSlash (Path.rooted root) = Path.absolute ss)
    (hx : Under ss x) : Covers (rootWildcard root) x := by
  rw [rootWildcard_eq hroot]
  exact covers_of_under hx

/-- Under a deep root the patterns come to fit. -/
theorem length_fitted_le_of_deep (hss : ∀ s ∈ ss, Path.Plain s) (hdeep : 2 ≤ ss.length)
    (hunder : ∀ p ∈ paths, Under ss (cleaned p)) (hpos : 0 < threshold) :
    (fitted threshold paths).length ≤ threshold := by
  by_cases hlarge : threshold < (exactPatterns paths).length
  · exact Nat.not_lt.1 (ancestorWildcard_mem_fitted hss hdeep hunder hpos hlarge).1
  · rw [fitted, if_pos (Nat.not_lt.1 hlarge)]
    exact Nat.not_lt.1 hlarge

/-- If the wildcard on a deep root is still there when they fit, it is
there with more room. -/
theorem rootWildcard_mem_fitted_of_le (hss : ∀ s ∈ ss, Path.Plain s)
    (hroot : Text.trimEnd Path.isSlash (Path.rooted root) = Path.absolute ss)
    (hdeep : 2 ≤ ss.length) (hunder : ∀ p ∈ paths, Under ss (cleaned p)) (hpos : 0 < low)
    (hle : low ≤ high) (hmem : rootWildcard root ∈ fitted low paths) :
    rootWildcard root ∈ fitted high paths := by
  by_cases hlarge : high < (exactPatterns paths).length
  · -- Neither list fits as it is.
    have hlow : low < (exactPatterns paths).length := Nat.lt_of_le_of_lt hle hlarge
    obtain ⟨hexact, hcount⟩ :=
      (rootWildcard_mem_fitted_iff hss hroot hdeep hunder hpos hlow).1 hmem
    exact (rootWildcard_mem_fitted_iff hss hroot hdeep hunder (Nat.lt_of_lt_of_le hpos hle)
      hlarge).2 ⟨hexact, Nat.lt_of_lt_of_le hcount hle⟩
  · rw [fitted, if_pos (Nat.not_lt.1 hlarge)]
    by_cases hlow : low < (exactPatterns paths).length
    · exact ((rootWildcard_mem_fitted_iff hss hroot hdeep hunder hpos hlow).1 hmem).1
    · rwa [fitted, if_pos (Nat.not_lt.1 hlow)] at hmem

/-! ### Whole reductions -/

/-- As long as the patterns come to fit, a reduction gives none but
them. -/
theorem mem_fitted_of_mem (hfits : (fitted threshold paths).length ≤ threshold)
    (hx : x ∈ invalidationPatterns root threshold false paths) : x ∈ fitted threshold paths := by
  rw [invalidationPatterns_eq] at hx
  split at hx
  case isTrue h =>
    rcases h with hforce | hlong | hall
    · exact absurd hforce Bool.false_ne_true
    · exact absurd hfits (Nat.not_le.2 hlong)
    · rwa [List.mem_singleton.1 hx]
  case isFalse => exact hx

/-- Where the wildcard on the root is given for less room, it covers what
is given for more. -/
theorem rootWildcard_covers_of_le (hss : ∀ s ∈ ss, Path.Plain s)
    (hroot : Text.trimEnd Path.isSlash (Path.rooted root) = Path.absolute ss)
    (hunder : ∀ p ∈ paths, Under ss (cleaned p)) (hpos : 0 < low) (hle : low ≤ high)
    (hall : low < (fitted low paths).length ∨ rootWildcard root ∈ fitted low paths)
    (hx : x ∈ invalidationPatterns root high false paths) : Covers (rootWildcard root) x := by
  by_cases hshort : ss.length ≤ 1
  · -- Nothing leaves a root that is not deep.
    have hwithin : ∀ y ∈ invalidationPatterns root high false paths,
        y = rootWildcard root ∨ Under ss y :=
      (within_iff hroot).2
        (.inr (.inr (.inr fun y hy => under_of_mem_fitted hss hshort hunder hy)))
    rcases hwithin x hx with rfl | hxunder
    · exact .refl _
    · exact covers_rootWildcard hroot hxunder
  · have hdeep : 2 ≤ ss.length := Nat.lt_of_not_le hshort
    -- Under a deep root the collapses always fit, so the wildcard is among them, and stays
    -- there.
    have hmem : rootWildcard root ∈ fitted low paths :=
      hall.resolve_left (Nat.not_lt.2 (length_fitted_le_of_deep hss hdeep hunder hpos))
    have hmore := rootWildcard_mem_fitted_of_le hss hroot hdeep hunder hpos hle hmem
    rw [invalidationPatterns_eq, if_pos (.inr (.inr hmore))] at hx
    rw [List.mem_singleton.1 hx]
    exact .refl _

/-- If more patterns are allowed, no pattern gets wider: each is one of
those for less room, or lies under one of them that is a wildcard. -/
theorem never_coarsens {root : Text} {ss paths : List Text} (hss : ∀ s ∈ ss, Path.Plain s)
    (hroot : Spells root ss) (hunder : ∀ p ∈ paths, Under ss (cleaned p))
    (hclimbs : ∀ p ∈ paths, ∀ rest, Path.segments (cleaned p) ≠ [] :: Path.dots :: rest)
    {low high : Nat} (hpos : 1 ≤ low) (hle : low ≤ high) :
    ∀ x ∈ invalidationPatterns root high false paths,
      ∃ y ∈ invalidationPatterns root low false paths, Covers y x := by
  intro x hx
  have hstays : ∀ p ∈ paths, ¬Climbs p := not_climbs_of_segments hclimbs
  rw [invalidationPatterns_eq root low]
  split
  case isTrue h =>
    have hall := h.resolve_left Bool.false_ne_true
    exact ⟨rootWildcard root, List.mem_singleton_self _,
      rootWildcard_covers_of_le hss (hroot.trimEnd_rooted hss) hunder hpos hle hall hx⟩
  case isFalse h =>
    -- The patterns fit in less room, and so they do in more.
    have hfits : (fitted low paths).length ≤ low := Nat.not_lt.1 fun hlong => h (.inr (.inl hlong))
    exact exists_covers_fitted_of_le hstays hle
      (mem_fitted_of_mem (length_fitted_le_of_le hstays hle hfits) hx)

/-- Under a root with two segments, three files that do not fit become
the wildcard on an ancestor of the root. It covers the files, which are
named where there is room for them. -/
theorem never_coarsens_sample :
    let ss := ["my".toList, "site".toList]
    let paths := ["/my/site/a".toList, "my/site/b/../b".toList, "/my/site/d/index.html".toList]
    (∀ s ∈ ss, Path.Plain s) ∧ Spells "/my/site".toList ss ∧
      (∀ p ∈ paths, Under ss (cleaned p)) ∧
      (∀ p ∈ paths, ∀ rest, Path.segments (cleaned p) ≠ [] :: Path.dots :: rest) ∧
      ∀ x ∈ invalidationPatterns "/my/site".toList 3 false paths,
        ∃ y ∈ invalidationPatterns "/my/site".toList 2 false paths, Covers y x := by
  intro ss paths
  have hplain : ∀ s ∈ ss, Path.Plain s := by decide
  have hroot : Spells "/my/site".toList ss := by decide
  have hunder : ∀ p ∈ paths, Under ss (cleaned p) := by decide
  have hclimbs : ∀ p ∈ paths, ∀ rest, Path.segments (cleaned p) ≠ [] :: Path.dots :: rest :=
    segments_ne_of_first (by decide)
  exact ⟨hplain, hroot, hunder, hclimbs,
    never_coarsens hplain hroot hunder hclimbs (by decide) (by decide)⟩

end SiteSync.Cdn
