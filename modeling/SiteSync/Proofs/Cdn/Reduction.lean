import SiteSync.Proofs.Cdn.Coverage
import SiteSync.Proofs.Text.Bytes

/-!
# `SiteSync.Proofs.Cdn.Reduction`: what a reduction promises

A reduction is asked for with a web root as it is written in the
configuration and with paths as they come. What it promises is said here
in those terms, without the entries and levels of the collapses:

- `Spells.trimEnd_rooted`: how the root is written makes no difference.
- `climbs_iff`: whether a path climbs can be seen from the cleaned path.
- `reduces`: the patterns are few, come in byte order, and cover every
  path.
-/

set_option autoImplicit false

namespace SiteSync.Cdn

variable {ss paths : List Text} {root p : Text}

/-! ### The web root -/

/-- A web root is its segments with slashes between them, with or
without a slash in front. -/
def Spells (root : Text) (ss : List Text) : Prop :=
  root = Path.ofSegments ss ∨ root = '/' :: Path.ofSegments ss

instance (root : Text) (ss : List Text) : Decidable (Spells root ss) :=
  inferInstanceAs (Decidable (_ ∨ _))

/-- Either way the root is the absolute path with these segments. -/
theorem Spells.trimEnd_rooted (h : Spells root ss) (hss : ∀ s ∈ ss, Path.Plain s) :
    Text.trimEnd Path.isSlash (Path.rooted root) = Path.absolute ss := by
  cases ss with
  | nil =>
    rcases h with rfl | rfl
    · rfl
    · rfl
  | cons s ss =>
    have hs : Path.Plain s := hss s List.mem_cons_self
    have hslash : '/' :: Path.ofSegments (s :: ss) = Path.absolute (s :: ss) :=
      Path.slash_ofSegments (List.cons_ne_nil s ss)
    have hrooted : Path.rooted root = Path.absolute (s :: ss) := by
      rcases h with rfl | rfl
      · exact Path.rooted_ofSegments hs.ne_nil hs.no_slash ss
      · exact hslash
    rw [hrooted, Path.trimEnd_absolute hss]

/-! ### Paths that climb -/

/-- No segment is a step up once a path that does not climb is
cleaned. -/
theorem exists_cleaned_eq_absolute (h : ¬Climbs p) :
    ∃ ts, cleaned p = Path.absolute ts ∧ ∀ t ∈ ts, '/' ∉ t ∧ t ≠ Path.dots := by
  have hslash : ∀ s ∈ Path.segments p, '/' ∉ s := fun s hs => Text.not_mem_of_mem_split hs
  obtain ⟨ups, plain, hsegments, -, hplain⟩ :=
    Path.cleanSegments_spec (Path.isAbsolute p) hslash
  cases ups with
  | succ ups => exact absurd ⟨_, hsegments⟩ h
  | zero =>
    rw [List.replicate_zero, List.nil_append] at hsegments
    by_cases hnil : plain = []
    · rw [hnil] at hsegments
      rcases Path.rooted_clean_nil hsegments with heq | heq
      · exact ⟨[[]], heq, by decide⟩
      · exact ⟨[['.']], heq, by decide⟩
    · exact ⟨plain, Path.rooted_clean hsegments hnil fun s hs =>
        ⟨(hplain s hs).ne_nil, (hplain s hs).no_slash⟩, fun t ht =>
        ⟨(hplain t ht).no_slash, (hplain t ht).ne_dots⟩⟩

/-- A path climbs when the first segment of the cleaned path is a step
up. -/
theorem climbs_iff : Climbs p ↔ ∃ rest, Path.segments (cleaned p) = [] :: Path.dots :: rest := by
  constructor
  · intro h
    obtain ⟨rest, hrest, hcleaned⟩ := cleaned_of_climbs h
    refine ⟨rest, ?_⟩
    rw [hcleaned, Path.segments_absolute fun s hs => ?_]
    rcases List.mem_cons.1 hs with rfl | hs
    · decide
    · exact hrest s hs
  · rintro ⟨rest, hrest⟩
    by_contra hclimbs
    obtain ⟨ts, hcleaned, hts⟩ := exists_cleaned_eq_absolute hclimbs
    rw [hcleaned, Path.segments_absolute fun t ht => (hts t ht).1] at hrest
    have hmem : Path.dots ∈ ts := (List.cons.inj hrest).2 ▸ List.mem_cons_self
    exact (hts _ hmem).2 rfl

/-- Paths do not climb if none of them starts with a step up when it is
clean. -/
theorem not_climbs_of_segments
    (h : ∀ p ∈ paths, ∀ rest, Path.segments (cleaned p) ≠ [] :: Path.dots :: rest) :
    ∀ p ∈ paths, ¬Climbs p := fun p hp hclimbs => by
  obtain ⟨rest, hrest⟩ := climbs_iff.1 hclimbs
  exact h p hp rest hrest

/-- It is enough to look at the first segment. -/
theorem segments_ne_of_first
    (h : ∀ p ∈ paths, (Path.segments (cleaned p)).getD 1 [] ≠ Path.dots) :
    ∀ p ∈ paths, ∀ rest, Path.segments (cleaned p) ≠ [] :: Path.dots :: rest := by
  intro p hp rest hrest
  exact h p hp (by rw [hrest]; rfl)

/-! ### The promise -/

/-- For paths under the web root a reduction gives at most as many
patterns as are allowed, or the one on the root; the patterns stand in
strictly ascending order of their bytes; and every path is covered as it
is asked for. -/
theorem reduces (threshold : Nat) (force : Bool) (hss : ∀ s ∈ ss, Path.Plain s)
    (hroot : Spells root ss) (hunder : ∀ p ∈ paths, Under ss (cleaned p))
    (hclimbs : ∀ p ∈ paths, ∀ rest, Path.segments (cleaned p) ≠ [] :: Path.dots :: rest) :
    let patterns := invalidationPatterns root threshold force paths
    patterns.length ≤ max 1 threshold ∧ (patterns.map Text.toBytes).Pairwise (· < ·) ∧
      ∀ p ∈ paths, ∃ x ∈ patterns, Covers x (requested (cleaned p)) := by
  intro patterns
  have hstays : ∀ p ∈ paths, ¬Climbs p := fun p hp h => by
    obtain ⟨rest, hrest⟩ := climbs_iff.1 h
    exact hclimbs p hp rest hrest
  refine ⟨length_invalidationPatterns_le_max root threshold force paths, ?_, fun p hp => ?_⟩
  · have hsorted : patterns.Pairwise (· < ·) :=
      pairwise_invalidationPatterns root threshold force paths
    exact List.pairwise_map.2 (hsorted.imp fun h => Text.toBytes_lt_iff.2 h)
  · rw [← exactPattern_eq_requested (hstays p hp)]
    exact exists_covers hss (hroot.trimEnd_rooted hss) hstays hunder hp

/-- Four paths, one of them given with steps in it, are reduced to two
patterns at most. -/
theorem reduces_sample :
    let root := "blog".toList
    let paths := ["/blog/a/index.html".toList, "/blog/a/../b/c/d".toList, "blog//b/e".toList,
      "/blog/index.html".toList]
    let patterns := invalidationPatterns root 2 false paths
    (∀ s ∈ [root], Path.Plain s) ∧ Spells root [root] ∧
      (∀ p ∈ paths, Under [root] (cleaned p)) ∧
      (∀ p ∈ paths, ∀ rest, Path.segments (cleaned p) ≠ [] :: Path.dots :: rest) ∧
      patterns.length ≤ 2 ∧ (patterns.map Text.toBytes).Pairwise (· < ·) ∧
      ∀ p ∈ paths, ∃ x ∈ patterns, Covers x (requested (cleaned p)) := by
  intro root paths patterns
  have hplain : ∀ s ∈ [root], Path.Plain s := by decide
  have hroot : Spells root [root] := by decide
  have hunder : ∀ p ∈ paths, Under [root] (cleaned p) := by decide
  have hclimbs : ∀ p ∈ paths, ∀ rest,
      Path.segments (cleaned p) ≠ [] :: Path.dots :: rest := by
    intro p hp rest hrest
    have hfirst : ∀ q ∈ paths, (Path.segments (cleaned q)).getD 1 [] ≠ Path.dots := by decide
    exact hfirst p hp (by rw [hrest]; rfl)
  exact ⟨hplain, hroot, hunder, hclimbs, reduces 2 false hplain hroot hunder hclimbs⟩

end SiteSync.Cdn
