import Mathlib.Data.List.Permutation
import Mathlib.Data.Nat.Find
import SiteSync.Proofs.Cdn.Reduction

/-!
# `SiteSync.Proofs.Cdn.ClosedForm`: a reduction without its loop

The loop collapses its list level by level and looks after each level
whether it fits. What comes out can be said without the loop: it is one
collapse of the changed paths, at the greatest level at which they fit.

- `requestedPaths`, `onceCollapsed?`: the changed paths, and their one
  collapse.
- `foldr_collapseDeeper`: collapses from the deepest level down to some
  level are one collapse at that level.
- `length_collapsedTo_mono`: a collapse at a lower level leaves fewer
  patterns.
- `length_collapsedTo_one`: how many the last one leaves.
- `reduces_at_once`: the whole reduction.
-/

set_option autoImplicit false

namespace SiteSync.Cdn

variable {ps paths : List Text} {threshold limit level : Nat}

/-! ### One collapse -/

/-- The changed paths, cleaned, as they are asked for. -/
def requestedPaths (paths : List Text) : List Text :=
  Text.sortedSet (paths.map fun p => requested (cleaned p))

/-- Paths that do not climb have their requests as exact patterns. -/
theorem exactPatterns_eq_requestedPaths (h : ∀ p ∈ paths, ¬Climbs p) :
    exactPatterns paths = requestedPaths paths :=
  congrArg Text.sortedSet (List.map_congr_left fun p hp => exactPattern_eq_requested (h p hp))

/-- The greatest level, up to `limit`, at which some patterns fit; zero
if they fit at none. -/
def fittingLevel (threshold limit : Nat) (ps : List Text) : Nat :=
  Nat.findGreatest (fun level => (collapsedTo level ps).length ≤ threshold) limit

/-- Some patterns as they are, if they fit, or else collapsed at the
greatest level at which they fit, if there is one. -/
def onceCollapsed? (threshold limit : Nat) (ps : List Text) : Option (List Text) :=
  if ps.length ≤ threshold then some ps
  else if fittingLevel threshold limit ps = 0 then none
  else some (collapsedTo (fittingLevel threshold limit ps) ps)

/-- The loop stops at the greatest level at which the patterns fit. -/
theorem StopsAt.fittingLevel_eq (h : StopsAt threshold limit ps level) :
    fittingLevel threshold limit ps = level :=
  Nat.findGreatest_eq_iff.2 ⟨h.le, fun _ => h.fits, fun l hlt hle =>
    Nat.not_le.2 (h.before l hlt hle)⟩

/-- The level is zero exactly when the patterns are too many at each of
the levels that a collapse may stop at. -/
theorem fittingLevel_eq_zero_iff : fittingLevel threshold limit ps = 0 ↔
    ∀ level, 0 < level → level ≤ limit → threshold < (collapsedTo level ps).length := by
  unfold fittingLevel
  rw [Nat.findGreatest_eq_zero_iff]
  simp only [Nat.not_le]

/-! ### Collapse after collapse -/

/-- Collapses at all levels from some depth down to `level`, the deepest
first, come to one collapse at `level`. -/
theorem foldr_collapseDeeper (hps : ∀ p ∈ ps, ∃ e : Entry, p = e.text) (hpos : 0 < level)
    (n : Nat) :
    (List.range' level n).foldr collapseDeeper (collapsedTo (level + n) ps) =
      collapsedTo level ps := by
  induction n generalizing level with
  | zero => rfl
  | succ n ih =>
    -- The last collapse, at `level`, comes behind those of the levels above it.
    have hbefore := ih (Nat.succ_pos level)
    rw [Nat.succ_add_eq_add_succ] at hbefore
    rw [List.range'_succ, List.foldr_cons, hbefore]
    exact collapseDeeper_collapsedTo hps hpos

/-- One more collapse does not make a list longer. -/
theorem length_collapseDeeper_le (level : Nat) (ps : List Text) :
    (collapseDeeper level ps).length ≤ ps.length := by
  let collapsed := ps.map fun p => if level < Path.depth p then collapse level p else p
  have hsub : Text.sortedSet collapsed ⊆ collapsed := fun x hx => Text.mem_sortedSet.1 hx
  have hlength := (List.subperm_of_subset (Text.nodup_sortedSet collapsed) hsub).length_le
  rwa [List.length_map] at hlength

/-- The lower the level, the fewer patterns are left. -/
theorem length_collapsedTo_mono (hps : ∀ p ∈ ps, ∃ e : Entry, p = e.text) {low high : Nat}
    (hpos : 0 < low) (hle : low ≤ high) :
    (collapsedTo low ps).length ≤ (collapsedTo high ps).length := by
  induction high, hle using Nat.le_induction with
  | base => exact Nat.le_refl _
  | succ high hle ih =>
    have hstep := length_collapseDeeper_le high (collapsedTo (high + 1) ps)
    rw [collapseDeeper_collapsedTo hps (by omega)] at hstep
    exact Nat.le_trans ih hstep

/-! ### The last collapse -/

/-- The first segment of a pattern. -/
def firstSegment (p : Text) : Text := (Path.segments p).getD 1 []

/-- How many patterns are directly under `/`, and in how many directories
there the others are. -/
def topCount (ps : List Text) : Nat :=
  (ps.filter fun p => Path.depth p ≤ 1).length +
    (Text.sortedSet ((ps.filter fun p => 1 < Path.depth p).map firstSegment)).length

/-- The wildcard on a directory that is directly under `/`. -/
def wildcardOn (s : Text) : Text := Path.absolute [s, ['*']]

/-- Two directories have two wildcards, so counting the one is counting
the other. -/
theorem wildcardOn_injective : Function.Injective wildcardOn := by
  intro s t h
  exact List.append_cancel_right (List.tail_eq_of_cons_eq h)

/-- The last collapse keeps what is directly under `/`, and leaves one
wildcard for each directory there that holds anything else. -/
theorem length_collapsedTo_one (hps : ∀ p ∈ ps, ∃ e : Entry, p = e.text) (hnodup : ps.Nodup) :
    (collapsedTo 1 ps).length = topCount ps := by
  let kept := ps.filter fun p => Path.depth p ≤ 1
  let dirs := Text.sortedSet ((ps.filter fun p => 1 < Path.depth p).map firstSegment)
  have hdirs : ∀ x, x ∈ dirs.map wildcardOn ↔ ∃ p ∈ ps, 1 < Path.depth p ∧ x = topWildcard p := by
    intro x
    simp only [dirs, List.mem_map, Text.mem_sortedSet, List.mem_filter, decide_eq_true_eq]
    constructor
    · rintro ⟨s, ⟨p, ⟨hp, hdeep⟩, rfl⟩, rfl⟩
      exact ⟨p, hp, hdeep, rfl⟩
    · rintro ⟨p, hp, hdeep, rfl⟩
      exact ⟨firstSegment p, ⟨p, ⟨hp, hdeep⟩, rfl⟩, rfl⟩
  -- The wildcards have two slashes, so none of them was kept.
  have hdisjoint : kept.Disjoint (dirs.map wildcardOn) := by
    intro x hkept hx
    obtain ⟨p, hp, hdeep, rfl⟩ := (hdirs x).1 hx
    obtain ⟨e, rfl⟩ := hps p hp
    have hdir : e.dir ≠ [] := by
      rw [e.depth_text] at hdeep
      exact List.length_pos_iff.1 (by omega)
    have hdepth := of_decide_eq_true (List.mem_filter.1 hkept).2
    rw [depth_topWildcard hdir] at hdepth
    omega
  have hall : (kept ++ dirs.map wildcardOn).Nodup :=
    List.Nodup.append (hnodup.filter _)
      ((Text.nodup_sortedSet _).map wildcardOn_injective) hdisjoint
  have hperm : (collapsedTo 1 ps).Perm (kept ++ dirs.map wildcardOn) := by
    refine (List.perm_ext_iff_of_nodup (nodup_collapsedTo 1 ps) hall).2 fun x => ?_
    rw [mem_collapsedTo, List.mem_append, hdirs, List.mem_filter, decide_eq_true_eq]
  rw [hperm.length_eq, List.length_append, List.length_map]
  rfl

/-! ### The whole reduction -/

/-- Something changed, so there is a level to collapse at. -/
theorem maxDepth_pos (hpaths : ∀ p ∈ paths, ¬Climbs p) (hne : exactPatterns paths ≠ []) :
    0 < maxDepth paths := by
  obtain ⟨x, hx⟩ := List.exists_mem_of_ne_nil _ hne
  have hdepth := depth_le_of_mem_exactPatterns hpaths hx
  obtain ⟨e, rfl⟩ := entry_of_mem_exactPatterns hpaths x hx
  rw [e.depth_text] at hdepth
  omega

/-- The patterns fit at no level exactly when the last collapse leaves
too many. -/
theorem onceCollapsed?_eq_none_iff (threshold : Nat) (hpaths : ∀ p ∈ paths, ¬Climbs p) :
    onceCollapsed? threshold (maxDepth paths) (exactPatterns paths) = none ↔
      threshold < (collapsedTo 1 (exactPatterns paths)).length := by
  have hentries := entry_of_mem_exactPatterns hpaths
  have hunfold : onceCollapsed? threshold (maxDepth paths) (exactPatterns paths) = none ↔
      threshold < (exactPatterns paths).length ∧
        fittingLevel threshold (maxDepth paths) (exactPatterns paths) = 0 := by
    unfold onceCollapsed?
    split
    case isTrue h => exact iff_of_false (Option.some_ne_none _) fun hnot => Nat.not_lt.2 h hnot.1
    case isFalse h =>
      rw [and_iff_right (Nat.not_le.1 h)]
      split
      case isTrue hzero => exact iff_of_true rfl hzero
      case isFalse hzero => exact iff_of_false (Option.some_ne_none _) hzero
  rw [hunfold, fittingLevel_eq_zero_iff]
  constructor
  · rintro ⟨hlarge, hnever⟩
    have hne : exactPatterns paths ≠ [] := List.length_pos_iff.1 (Nat.zero_lt_of_lt hlarge)
    exact hnever 1 Nat.one_pos (maxDepth_pos hpaths hne)
  · -- If the last collapse leaves too many, so does every one before it, and so does none at
    -- all.
    intro hlast
    refine ⟨?_, fun level hpos _ => ?_⟩
    · have hle := length_collapsedTo_mono hentries Nat.one_pos
        (Nat.succ_le_succ (Nat.zero_le (maxDepth paths)))
      rw [collapsedTo_maxDepth hpaths] at hle
      exact Nat.lt_of_lt_of_le hlast hle
    · exact Nat.lt_of_lt_of_le hlast (length_collapsedTo_mono hentries Nat.one_pos hpos)

/-- The loop comes to the one collapse, or else to the last. -/
theorem fitted_eq_onceCollapsed? (threshold : Nat) (hpaths : ∀ p ∈ paths, ¬Climbs p) :
    (∃ patterns, onceCollapsed? threshold (maxDepth paths) (exactPatterns paths) = some patterns ∧
        patterns.length ≤ threshold ∧ fitted threshold paths = patterns) ∨
      (onceCollapsed? threshold (maxDepth paths) (exactPatterns paths) = none ∧
        fitted threshold paths = collapsedTo 1 (exactPatterns paths)) := by
  by_cases hlarge : threshold < (exactPatterns paths).length
  · unfold onceCollapsed?
    rw [if_neg (Nat.not_le.2 hlarge)]
    rcases fitted_spec hpaths hlarge with ⟨level, hstop, heq⟩ | ⟨hnever, heq⟩
    · rw [hstop.fittingLevel_eq, if_neg hstop.pos.ne']
      exact .inl ⟨_, rfl, hstop.fits, heq⟩
    · rw [if_pos (fittingLevel_eq_zero_iff.2 hnever)]
      exact .inr ⟨rfl, heq⟩
  · have hfits : (exactPatterns paths).length ≤ threshold := Nat.not_lt.1 hlarge
    refine .inl ⟨exactPatterns paths, if_pos hfits, hfits, ?_⟩
    rw [fitted, if_pos hfits]

/-- For paths that do not climb a reduction gives the changed paths, if
they fit, or else collapsed at the greatest level at which they fit. If
they fit at no level, or the wildcard on the root is among them, it gives
that wildcard alone. They fit at no level exactly when what is directly
under the top, and the directories there, are too many. The collapses of
the loop, from the deepest level down to any, come to one collapse. -/
theorem reduces_at_once (root : Text) (threshold : Nat) {paths : List Text}
    (hclimbs : ∀ p ∈ paths, ∀ rest, Path.segments (cleaned p) ≠ [] :: Path.dots :: rest) :
    let all := rootWildcard root
    let changed := requestedPaths paths
    let collapsed? := onceCollapsed? threshold (maxDepth paths) changed
    reduce root threshold false paths = (match collapsed? with
      | some patterns => ⟨if all ∈ patterns then [all] else patterns, none⟩
      | none => ⟨[all], some (topCount changed)⟩) ∧
    (changed.length ≤ threshold → collapsed? = some changed) ∧
    (collapsed? = none ↔ threshold < topCount changed) ∧
    ∀ level, 0 < level → level ≤ maxDepth paths →
      (List.range' level (maxDepth paths + 1 - level)).foldr collapseDeeper changed =
        collapsedTo level changed := by
  intro all changed collapsed?
  have hstays : ∀ p ∈ paths, ¬Climbs p := not_climbs_of_segments hclimbs
  have hchanged : exactPatterns paths = changed := exactPatterns_eq_requestedPaths hstays
  have hentries := entry_of_mem_exactPatterns hstays
  -- The lemmas speak of exact patterns, which here are what was asked for.
  have hlast := length_collapsedTo_one hentries (Text.nodup_sortedSet _)
  have hnone := onceCollapsed?_eq_none_iff threshold hstays
  have hdeepest := collapsedTo_maxDepth hstays
  have hfitted := fitted_eq_onceCollapsed? threshold hstays
  rw [hchanged] at hentries hlast hnone hdeepest hfitted
  rw [hlast] at hnone
  refine ⟨?_, fun hfits => if_pos hfits, hnone, fun level hpos hle => ?_⟩
  · rw [reduce_eq, if_neg Bool.false_ne_true]
    rcases hfitted with ⟨patterns, hsome, hfits, heq⟩ | ⟨htoo, heq⟩
    · rw [heq, if_neg (Nat.not_lt.2 hfits)]
      show _ = match onceCollapsed? threshold (maxDepth paths) changed with
        | some patterns => _
        | none => _
      rw [hsome]
      dsimp only
      split
      · rfl
      · rfl
    · have hlong := hnone.1 htoo
      rw [heq, hlast, if_pos hlong]
      show _ = match onceCollapsed? threshold (maxDepth paths) changed with
        | some patterns => _
        | none => _
      rw [htoo]
  · have hfold := foldr_collapseDeeper hentries hpos (maxDepth paths + 1 - level)
    rwa [Nat.add_sub_cancel' (by omega), hdeepest] at hfold

/-- Of five changed files four patterns are left at the second level,
where what lies directly in a directory is still named. Where there is
room for two only, they fit at no level. -/
theorem reduces_at_once_sample :
    let paths := ["/a/x/1".toList, "a//x/../y/2".toList, "/a/index.html".toList, "/b/z".toList,
      "/c".toList]
    (∀ p ∈ paths, ∀ rest, Path.segments (cleaned p) ≠ [] :: Path.dots :: rest) ∧
      reduce "/".toList 4 false paths =
        ⟨["/a/".toList, "/a/*".toList, "/b/z".toList, "/c".toList], none⟩ ∧
      reduce "/".toList 2 false paths = ⟨["/*".toList], some 3⟩ := by
  intro paths
  have hclimbs : ∀ p ∈ paths, ∀ rest, Path.segments (cleaned p) ≠ [] :: Path.dots :: rest :=
    segments_ne_of_first (by decide)
  refine ⟨hclimbs, ?_, ?_⟩
  · rw [(reduces_at_once "/".toList 4 hclimbs).1]
    cbv
  · rw [(reduces_at_once "/".toList 2 hclimbs).1]
    cbv

end SiteSync.Cdn
