import SiteSync.Cdn.Invalidation
import SiteSync.Proofs.Path
import SiteSync.Proofs.Text.Order

/-!
# `SiteSync.Proofs.Cdn.Invalidation`: what the collapses come to

A pattern is an `Entry`: plain directories, and behind the last slash a
name, a wildcard or nothing. When the collapses reach the level of an
entry, they replace it by the wildcard on its first directory, and that
is never collapsed into anything else. So after any number of collapses
the list is the one that a single step gives:

- `exists_exactPattern`: the pattern of a path that does not climb is an
  entry, in the directory of the cleaned path.
- `collapse_eq_topWildcard`: what a collapse makes of a pattern at its
  level.
- `collapseDeeper_collapsedTo`: one more collapse.
- `collapseUntilFits_spec`: the whole loop, and where it stops.
- `fitted_spec`, `reduce_eq`, `invalidationPatterns_eq`: the reduction
  around it.
-/

set_option autoImplicit false

namespace SiteSync.Cdn

/-- A pattern with plain directories. -/
structure Entry where
  /-- The directories. -/
  dir : List Text
  /-- What stands behind the last slash. -/
  last : Text
  /-- The directories are plain. -/
  plain : ∀ s ∈ dir, Path.Plain s
  /-- The last slash is the last. -/
  no_slash : '/' ∉ last

namespace Entry

/-- The pattern as a text. -/
def text (e : Entry) : Text := Path.absolute (e.dir ++ [e.last])

/-- The wildcard on the first directory of an entry. -/
def raised (e : Entry) : Entry :=
  ⟨e.dir.take 1, ['*'], fun s hs => e.plain s (List.mem_of_mem_take hs), by decide⟩

/-- At most the first directory is left. -/
theorem raised_dir (e : Entry) : e.raised.dir = e.dir.take 1 := rfl

variable {e : Entry}

/-- None of the segments of an entry has a slash in it. -/
theorem no_slash_of_mem : ∀ s ∈ e.dir ++ [e.last], '/' ∉ s := by
  intro s hs
  rcases List.mem_append.1 hs with hs | hs
  · exact (e.plain s hs).no_slash
  · rw [List.mem_singleton.1 hs]
    exact e.no_slash

/-- An entry has a slash in front of each directory and one behind the
last. -/
theorem depth_text (e : Entry) : Path.depth e.text = e.dir.length + 1 := by
  rw [text, Path.depth_absolute no_slash_of_mem, List.length_append, List.length_singleton]

/-- An entry is split at its slashes as it was put together. -/
theorem segments_text (e : Entry) : Path.segments e.text = [] :: e.dir ++ [e.last] :=
  Path.segments_absolute no_slash_of_mem

/-- The parent of an entry are its directories. -/
theorem parent_text (e : Entry) : Path.parent e.text = '/' :: Path.ofSegments e.dir :=
  Path.parent_absolute e.plain e.no_slash

/-- The last segment of an entry is its base name. -/
theorem baseName_text (e : Entry) : Path.baseName e.text = e.last :=
  Path.baseName_absolute e.dir e.no_slash

end Entry

/-! ### Exact patterns -/

/-- A path climbs when its clean form starts with a step up. -/
def Climbs (p : Text) : Prop :=
  ∃ rest, Path.cleanSegments (Path.isAbsolute p) (Path.segments p) = Path.dots :: rest

/-- A cleaned path that does not climb is an entry. -/
theorem exists_cleaned {p : Text} (h : ¬Climbs p) : ∃ e : Entry, cleaned p = e.text := by
  have hslash : ∀ s ∈ Path.segments p, '/' ∉ s := fun s hs => Text.not_mem_of_mem_split hs
  obtain ⟨ups, plain, hsegments, -, hplain⟩ :=
    Path.cleanSegments_spec (Path.isAbsolute p) hslash
  cases ups with
  -- A step up would come first.
  | succ ups => exact absurd ⟨_, hsegments⟩ h
  | zero =>
    rw [List.replicate_zero, List.nil_append] at hsegments
    rcases List.eq_nil_or_concat plain with hnil | ⟨dir, last, hconcat⟩
    · rw [hnil] at hsegments
      rcases Path.rooted_clean_nil hsegments with heq | heq
      · exact ⟨⟨[], [], (fun _ h => nomatch h), List.not_mem_nil⟩, heq⟩
      · exact ⟨⟨[], ['.'], (fun _ h => nomatch h), by decide⟩, heq⟩
    · rw [hconcat, List.concat_eq_append] at hsegments hplain
      have hlast : Path.Plain last := hplain last (List.mem_append_right dir List.mem_cons_self)
      have hdir : ∀ s ∈ dir, Path.Plain s := fun s hs => hplain s (List.mem_append_left [last] hs)
      refine ⟨⟨dir, last, hdir, hlast.no_slash⟩, ?_⟩
      exact Path.rooted_clean hsegments (List.append_ne_nil_of_right_ne_nil dir (by simp))
        fun s hs => ⟨(hplain s hs).ne_nil, (hplain s hs).no_slash⟩

/-- A path that climbs starts with a step up. -/
theorem cleaned_of_climbs {p : Text} (h : Climbs p) :
    ∃ rest, (∀ s ∈ rest, '/' ∉ s) ∧ cleaned p = Path.absolute (Path.dots :: rest) := by
  have hslash : ∀ s ∈ Path.segments p, '/' ∉ s := fun s hs => Text.not_mem_of_mem_split hs
  obtain ⟨ups, plain, hsegments, -, hplain⟩ :=
    Path.cleanSegments_spec (Path.isAbsolute p) hslash
  obtain ⟨rest, hrest⟩ := h
  -- Steps up and names have no slash in them, and are not empty.
  have hall : ∀ s ∈ Path.dots :: rest, s ≠ [] ∧ '/' ∉ s := by
    intro s hs
    rw [← hrest, hsegments] at hs
    rcases List.mem_append.1 hs with hs | hs
    · rw [List.eq_of_mem_replicate hs]
      decide
    · exact ⟨(hplain s hs).ne_nil, (hplain s hs).no_slash⟩
  refine ⟨rest, fun s hs => (hall s (List.mem_cons_of_mem _ hs)).2, ?_⟩
  exact Path.rooted_clean hrest (List.cons_ne_nil _ _) hall

/-- The pattern of a path that does not climb is an entry in the
directory of the cleaned path. -/
theorem exists_exactPattern {p : Text} {e : Entry} (h : cleaned p = e.text) :
    ∃ f : Entry, f.dir = e.dir ∧ exactPattern p = f.text := by
  unfold exactPattern
  dsimp only
  rw [h, e.baseName_text]
  split
  · refine ⟨⟨e.dir, [], e.plain, List.not_mem_nil⟩, rfl, ?_⟩
    rw [e.parent_text]
    exact Path.asDirectory_ofSegments e.plain
  · exact ⟨e, rfl, rfl⟩

/-! ### One collapse -/

/-- The wildcard on the first segment of a pattern. -/
def topWildcard (p : Text) : Text := Path.absolute [(Path.segments p).getD 1 [], ['*']]

/-- The first segment of an entry with directories is the first of them.
-/
theorem topWildcard_text {e : Entry} (h : e.dir ≠ []) : topWildcard e.text = e.raised.text := by
  obtain ⟨dir, last, hplain, hslash⟩ := e
  obtain ⟨s, ss, rfl⟩ := List.exists_cons_of_ne_nil h
  rw [topWildcard, Entry.segments_text]
  rfl

/-- Raising leaves a directory if there was one. -/
theorem raised_dir_ne_nil {e : Entry} (h : e.dir ≠ []) : e.raised.dir ≠ [] := by
  obtain ⟨s, ss, hdir⟩ := List.exists_cons_of_ne_nil h
  rw [Entry.raised_dir, hdir]
  exact List.cons_ne_nil s []

/-- What was raised once is not changed by raising it again. -/
theorem raised_raised (e : Entry) : e.raised.raised = e.raised := by
  simp [Entry.raised, List.take_take]

/-- The wildcard on a first directory has two slashes, so no collapse to a
level above one makes it another. -/
theorem depth_topWildcard {e : Entry} (h : e.dir ≠ []) : Path.depth (topWildcard e.text) = 2 := by
  obtain ⟨s, ss, hdir⟩ := List.exists_cons_of_ne_nil h
  rw [topWildcard_text h, Entry.depth_text, Entry.raised_dir, hdir]
  rfl

/-- Collapsed once more it stays what it is. -/
theorem topWildcard_topWildcard {e : Entry} (h : e.dir ≠ []) :
    topWildcard (topWildcard e.text) = topWildcard e.text := by
  rw [topWildcard_text h, topWildcard_text (raised_dir_ne_nil h), raised_raised]

/-- A collapse keeps some of the directories of an entry. -/
theorem collapse_text {e : Entry} (h : e.dir ≠ []) (level : Nat) :
    collapse level e.text = Path.absolute
      (e.dir.take (min (max (e.dir.length + 1 - level) 1) e.dir.length) ++ [['*']]) := by
  have hparts : Path.segments (Text.trimStart Path.isSlash (Path.parent e.text)) = e.dir := by
    rw [e.parent_text]
    exact Path.segments_trimStart h fun s hs => ⟨(e.plain s hs).ne_nil, (e.plain s hs).no_slash⟩
  have hlength : 0 < e.dir.length := List.length_pos_iff.2 h
  unfold collapse
  dsimp only
  rw [hparts, Path.absolute_concat, ← Path.slash_ofSegments]
  -- At least one directory is kept.
  intro hnil
  have hzero := congrArg List.length hnil
  rw [List.length_take, List.length_nil] at hzero
  omega

/-- At the level of a pattern a collapse gives the wildcard on its first
directory. -/
theorem collapse_eq_topWildcard {e : Entry} {level : Nat} (hlevel : 0 < level)
    (h : Path.depth e.text = level + 1) : collapse level e.text = topWildcard e.text := by
  rw [e.depth_text] at h
  have hdir : e.dir ≠ [] := List.length_pos_iff.1 (by omega)
  -- The level is the number of directories, of which one is kept.
  have hkeep : min (max (e.dir.length + 1 - level) 1) e.dir.length = 1 := by omega
  rw [collapse_text hdir, hkeep, topWildcard_text hdir]
  rfl

/-! ### Collapse after collapse -/

/-- The patterns after one collapse of all that have more than `level`
slashes into the wildcard on their first segment. -/
def collapsedTo (level : Nat) (ps : List Text) : List Text :=
  Text.sortedSet (ps.map fun p => if level < Path.depth p then topWildcard p else p)

variable {ps : List Text} {level : Nat}

/-- A collapse leaves no pattern twice. -/
theorem nodup_collapsedTo (level : Nat) (ps : List Text) : (collapsedTo level ps).Nodup :=
  Text.nodup_sortedSet _

/-- A collapse leaves what is not too deep as it is, and has the wildcard
for all that is. -/
theorem mem_collapsedTo {x : Text} :
    x ∈ collapsedTo level ps ↔
      (x ∈ ps ∧ Path.depth x ≤ level) ∨ ∃ p ∈ ps, level < Path.depth p ∧ x = topWildcard p := by
  rw [collapsedTo, Text.mem_sortedSet, List.mem_map]
  constructor
  · rintro ⟨p, hp, hx⟩
    split at hx
    case isTrue h => exact .inr ⟨p, hp, h, hx.symm⟩
    case isFalse h =>
      rw [← hx]
      exact .inl ⟨hp, Nat.not_lt.1 h⟩
  · rintro (⟨hx, hdepth⟩ | ⟨p, hp, hdepth, rfl⟩)
    · exact ⟨x, hx, if_neg (Nat.not_lt.2 hdepth)⟩
    · exact ⟨p, hp, if_pos hdepth⟩

/-- Patterns that are not deeper than a level stay as they are. -/
theorem collapsedTo_of_depth_le (h : ∀ p ∈ ps, Path.depth p ≤ level) :
    collapsedTo level ps = Text.sortedSet ps := by
  refine Text.sortedSet_eq_of_mem_iff fun x => ?_
  rw [← Text.mem_sortedSet]
  show x ∈ collapsedTo level ps ↔ _
  rw [mem_collapsedTo]
  constructor
  · rintro (⟨hx, -⟩ | ⟨p, hp, hdeep, -⟩)
    · exact hx
    · exact absurd (h p hp) (Nat.not_le.2 hdeep)
  · exact fun hx => .inl ⟨hx, h x hx⟩

/-- A collapse of the next level. -/
theorem collapseDeeper_collapsedTo (hps : ∀ p ∈ ps, ∃ e : Entry, p = e.text) (hlevel : 0 < level) :
    collapseDeeper level (collapsedTo (level + 1) ps) = collapsedTo level ps := by
  -- Each pattern comes to the same in two steps and in one.
  have hstep : ∀ p ∈ ps,
      (let q := if level + 1 < Path.depth p then topWildcard p else p
       if level < Path.depth q then collapse level q else q)
        = if level < Path.depth p then topWildcard p else p := by
    intro p hp
    obtain ⟨e, rfl⟩ := hps p hp
    dsimp only
    by_cases hdeep : level + 1 < Path.depth e.text
    · have hdir : e.dir ≠ [] := by
        rw [e.depth_text] at hdeep
        exact List.length_pos_iff.1 (by omega)
      rw [if_pos hdeep, if_pos (show level < Path.depth e.text by omega), depth_topWildcard hdir]
      split
      · -- Only at the last level the wildcard is deeper, and collapses to itself.
        have hlast : Path.depth e.raised.text = level + 1 := by
          rw [← topWildcard_text hdir, depth_topWildcard hdir]
          omega
        rw [topWildcard_text hdir, collapse_eq_topWildcard hlevel hlast, ← topWildcard_text hdir,
          topWildcard_topWildcard hdir]
      · rfl
    · rw [if_neg hdeep]
      split
      · rename_i h
        exact collapse_eq_topWildcard hlevel (by omega)
      · rfl
  refine Text.sortedSet_eq_of_mem_iff fun x => ?_
  rw [List.mem_map, List.mem_map]
  constructor
  · rintro ⟨q, hq, hx⟩
    rw [collapsedTo, Text.mem_sortedSet, List.mem_map] at hq
    obtain ⟨p, hp, rfl⟩ := hq
    exact ⟨p, hp, (hstep p hp).symm.trans hx⟩
  · rintro ⟨p, hp, hx⟩
    refine ⟨_, ?_, (hstep p hp).trans hx⟩
    rw [collapsedTo, Text.mem_sortedSet, List.mem_map]
    exact ⟨p, hp, rfl⟩

/-- The greatest level, up to `limit`, at which the collapsed patterns
fit. -/
structure StopsAt (threshold limit : Nat) (ps : List Text) (level : Nat) : Prop where
  /-- The lowest level is one. -/
  pos : 0 < level
  /-- The loop starts at the limit. -/
  le : level ≤ limit
  /-- The patterns fit. -/
  fits : (collapsedTo level ps).length ≤ threshold
  /-- They have not fitted before. -/
  before : ∀ l, level < l → l ≤ limit → threshold < (collapsedTo l ps).length

/-- A loop that starts one level higher, and goes on there, stops at the
same level. -/
theorem StopsAt.succ {threshold limit : Nat} (h : StopsAt threshold limit ps level)
    (hlong : threshold < (collapsedTo (limit + 1) ps).length) :
    StopsAt threshold (limit + 1) ps level where
  pos := h.pos
  le := Nat.le_succ_of_le h.le
  fits := h.fits
  before := fun l hlt hle => by
    rcases Nat.le_succ_iff.1 hle with hle | rfl
    · exact h.before l hlt hle
    · exact hlong

/-- The loop gives the patterns collapsed to the level where it stops,
and if they never fit, those collapsed to level one. -/
theorem collapseUntilFits_spec (threshold limit : Nat) (hps : ∀ p ∈ ps, ∃ e : Entry, p = e.text) :
    (∃ level, StopsAt threshold limit ps level ∧
        collapseUntilFits threshold limit (collapsedTo (limit + 1) ps) = collapsedTo level ps) ∨
      ((∀ level, 0 < level → level ≤ limit → threshold < (collapsedTo level ps).length) ∧
        collapseUntilFits threshold limit (collapsedTo (limit + 1) ps) = collapsedTo 1 ps) := by
  induction limit with
  | zero =>
    refine .inr ⟨fun level hpos hle => ?_, rfl⟩
    omega
  | succ limit ih =>
    unfold collapseUntilFits
    dsimp only
    rw [collapseDeeper_collapsedTo hps (Nat.succ_pos limit)]
    split
    case isTrue hfits =>
      -- The loop stops at once.
      refine .inl ⟨limit + 1, ⟨Nat.succ_pos limit, Nat.le_refl _, hfits, fun l hlt hle => ?_⟩, rfl⟩
      omega
    case isFalse hfits =>
      have hlimit : threshold < (collapsedTo (limit + 1) ps).length := Nat.not_le.1 hfits
      rcases ih with ⟨level, hstop, heq⟩ | ⟨hnever, heq⟩
      · exact .inl ⟨level, hstop.succ hlimit, heq⟩
      · refine .inr ⟨fun level hpos hle => ?_, heq⟩
        rcases Nat.le_succ_iff.1 hle with hle | rfl
        · exact hnever level hpos hle
        · exact hlimit

/-! ### The whole reduction -/

/-- No cleaned path is deeper than the greatest depth. -/
theorem depth_le_maxDepth {p : Text} {paths : List Text} (hp : p ∈ paths) :
    Path.depth (cleaned p) ≤ maxDepth paths := by
  let deeper (d : Nat) (q : Text) : Nat := max d (Path.depth (cleaned q))
  -- The claim is about an accumulator, which never gets smaller either.
  have hfold : ∀ (qs : List Text) (d : Nat),
      d ≤ qs.foldl deeper d ∧ ∀ q ∈ qs, Path.depth (cleaned q) ≤ qs.foldl deeper d := by
    intro qs
    induction qs with
    | nil => exact fun d => ⟨Nat.le_refl d, fun _ h => nomatch h⟩
    | cons q qs ih =>
      intro d
      obtain ⟨hstart, hall⟩ := ih (max d (Path.depth (cleaned q)))
      refine ⟨Nat.le_trans (Nat.le_max_left _ _) hstart, fun r hr => ?_⟩
      rcases List.mem_cons.1 hr with rfl | hr
      · exact Nat.le_trans (Nat.le_max_right _ _) hstart
      · exact hall r hr
  exact (hfold paths 0).2 p hp

/-- The exact patterns of paths that do not climb are entries, none
deeper than the paths. -/
theorem exists_entry_of_mem_exactPatterns {x : Text} {paths : List Text}
    (hpaths : ∀ p ∈ paths, ¬Climbs p) (hx : x ∈ exactPatterns paths) :
    ∃ p ∈ paths, ∃ e f : Entry, cleaned p = e.text ∧ x = f.text ∧ f.dir = e.dir := by
  rw [exactPatterns, Text.mem_sortedSet, List.mem_map] at hx
  obtain ⟨p, hp, rfl⟩ := hx
  obtain ⟨e, he⟩ := exists_cleaned (hpaths p hp)
  obtain ⟨f, hdir, hf⟩ := exists_exactPattern he
  exact ⟨p, hp, e, f, he, hf, hdir⟩

/-- The exact patterns are no deeper than the paths. -/
theorem depth_le_of_mem_exactPatterns {x : Text} {paths : List Text}
    (hpaths : ∀ p ∈ paths, ¬Climbs p) (hx : x ∈ exactPatterns paths) :
    Path.depth x ≤ maxDepth paths := by
  obtain ⟨p, hp, e, f, he, rfl, hdir⟩ := exists_entry_of_mem_exactPatterns hpaths hx
  have hdepth := depth_le_maxDepth hp
  rw [he, e.depth_text] at hdepth
  rw [f.depth_text, hdir]
  exact hdepth

/-- They are sorted already. -/
theorem sortedSet_exactPatterns (paths : List Text) :
    Text.sortedSet (exactPatterns paths) = exactPatterns paths :=
  Text.sortedSet_of_pairwise (Text.pairwise_sortedSet _)

/-- The exact patterns of paths that do not climb are the ones before the
first collapse: nothing is deeper than its level. -/
theorem collapsedTo_maxDepth {paths : List Text} (hpaths : ∀ p ∈ paths, ¬Climbs p) :
    collapsedTo (maxDepth paths + 1) (exactPatterns paths) = exactPatterns paths := by
  rw [collapsedTo_of_depth_le fun x hx =>
    Nat.le_succ_of_le (depth_le_of_mem_exactPatterns hpaths hx)]
  exact sortedSet_exactPatterns paths

/-- They are entries. -/
theorem entry_of_mem_exactPatterns {paths : List Text} (hpaths : ∀ p ∈ paths, ¬Climbs p) :
    ∀ x ∈ exactPatterns paths, ∃ e : Entry, x = e.text := fun x hx => by
  obtain ⟨-, -, -, f, -, hf, -⟩ := exists_entry_of_mem_exactPatterns hpaths hx
  exact ⟨f, hf⟩

/-- The patterns before they are compared with the root: the exact ones
if they fit, and else what the collapses come to. -/
def fitted (threshold : Nat) (paths : List Text) : List Text :=
  if (exactPatterns paths).length ≤ threshold then exactPatterns paths
  else collapseUntilFits threshold (maxDepth paths) (exactPatterns paths)

/-- The loop on the exact patterns of paths that do not climb. -/
theorem fitted_spec {threshold : Nat} {paths : List Text} (hpaths : ∀ p ∈ paths, ¬Climbs p)
    (hlarge : threshold < (exactPatterns paths).length) :
    (∃ level, StopsAt threshold (maxDepth paths) (exactPatterns paths) level ∧
        fitted threshold paths = collapsedTo level (exactPatterns paths)) ∨
      ((∀ level, 0 < level → level ≤ maxDepth paths →
          threshold < (collapsedTo level (exactPatterns paths)).length) ∧
        fitted threshold paths = collapsedTo 1 (exactPatterns paths)) := by
  have hspec := collapseUntilFits_spec threshold (maxDepth paths)
    (entry_of_mem_exactPatterns hpaths)
  rw [collapsedTo_maxDepth hpaths] at hspec
  rw [fitted, if_neg (Nat.not_le.2 hlarge)]
  exact hspec

/-- A list that is too long, or has the wildcard on the root in it,
becomes that wildcard. -/
theorem reduce_eq (root : Text) (threshold : Nat) (force : Bool) (paths : List Text) :
    reduce root threshold force paths =
      if force = true then ⟨[rootWildcard root], none⟩
      else if threshold < (fitted threshold paths).length then
        ⟨[rootWildcard root], some (fitted threshold paths).length⟩
      else if rootWildcard root ∈ fitted threshold paths then ⟨[rootWildcard root], none⟩
      else ⟨fitted threshold paths, none⟩ := by
  simp only [← List.contains_iff_mem]
  rfl

/-- The patterns alone, without what is reported about them: three things
lead to the wildcard on the root. -/
theorem invalidationPatterns_eq (root : Text) (threshold : Nat) (force : Bool)
    (paths : List Text) :
    invalidationPatterns root threshold force paths =
      if force = true ∨ threshold < (fitted threshold paths).length ∨
          rootWildcard root ∈ fitted threshold paths then [rootWildcard root]
      else fitted threshold paths := by
  rw [invalidationPatterns, reduce_eq]
  by_cases hforce : force = true
  · rw [if_pos hforce, if_pos (.inl hforce)]
  by_cases hlong : threshold < (fitted threshold paths).length
  · rw [if_neg hforce, if_pos hlong, if_pos (.inr (.inl hlong))]
  by_cases hall : rootWildcard root ∈ fitted threshold paths
  · rw [if_neg hforce, if_neg hlong, if_pos hall, if_pos (.inr (.inr hall))]
  · rw [if_neg hforce, if_neg hlong, if_neg hall,
      if_neg (not_or.2 ⟨hforce, not_or.2 ⟨hlong, hall⟩⟩)]

end SiteSync.Cdn
