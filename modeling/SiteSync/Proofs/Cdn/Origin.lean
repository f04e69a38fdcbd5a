import SiteSync.Cdn.Origin
import SiteSync.Proofs.Path
import SiteSync.Rules

/-!
# `SiteSync.Proofs.Cdn.Origin`: where the keys of a site are served

The bucket path is in front of every key, and the origin path covers
some leading segments of it or none. The segments that it leaves are the
root of the site, and every file is served under that root:

- `stripSegments?_eq`: an origin path is taken off where its segments
  come first.
- `webRoot_cases`: the two ways to serve a site.
- `exists_absolute_of_strip`: what an origin path leaves of the bucket
  path are whole segments.
- `exists_servedUnder`: the root, and where the files are.
-/

set_option autoImplicit false

namespace SiteSync.Cdn

open SiteSync.Path (Plain absolute ofSegments rooted segments trimSlashes isSlash)

variable {ss : List Text} {bucket origin rest path : Text}

/-- A place in a bucket: the bucket itself, or some plain segments. -/
def IsPlace (bucket : Text) : Prop := bucket = [] ∨ ∀ s ∈ segments bucket, Plain s

instance (bucket : Text) : Decidable (IsPlace bucket) := inferInstanceAs (Decidable (_ ∨ _))

/-! ### The root -/

/-- Slashes around plain segments make no difference to the root. -/
theorem trimEnd_rooted_trimSlashes (h : ∀ s ∈ ss, Plain s) :
    Text.trimEnd isSlash (rooted ('/' :: trimSlashes (absolute ss))) = absolute ss := by
  cases ss with
  | nil => rfl
  | cons s ss =>
    have hs : Plain s := h s List.mem_cons_self
    have htrim : trimSlashes (absolute (s :: ss)) = ofSegments (s :: ss) := by
      show Text.trimEnd isSlash (Text.trimStart isSlash _) = _
      rw [← Path.slash_ofSegments (List.cons_ne_nil s ss)]
      show Text.trimEnd isSlash (Text.trimStart isSlash (ofSegments (s :: ss))) = _
      rw [Path.trimStart_ofSegments hs.ne_nil hs.no_slash, Path.trimEnd_ofSegments h]
    rw [htrim, Path.slash_ofSegments (List.cons_ne_nil s ss)]
    exact Path.trimEnd_absolute h

/-- What stands behind whole segments is nothing, or starts with a
slash. -/
theorem atSegmentEnd_iff :
    atSegmentEnd rest = true ↔ rest = [] ∨ ∃ behind, rest = '/' :: behind := by
  rw [atSegmentEnd, Bool.or_eq_true, List.isEmpty_iff, Path.isAbsolute_iff]

/-- Segments are stripped when the path starts with them and they end
there. -/
theorem stripSegments?_eq_some_iff :
    stripSegments? origin bucket = some rest ↔
      bucket = origin ++ rest ∧ atSegmentEnd rest = true := by
  rw [stripSegments?, Option.filter_eq_some_iff, Text.stripPrefix?_eq_some_iff]

/-- The segments of what is taken off come first. -/
theorem segments_prefix_of_strip (h : stripSegments? origin bucket = some rest) :
    segments origin <+: segments bucket := by
  obtain ⟨rfl, hend⟩ := stripSegments?_eq_some_iff.1 h
  rcases atSegmentEnd_iff.1 hend with rfl | ⟨behind, rfl⟩
  · simp only [List.append_nil, List.prefix_refl]
  · rw [segments, segments, Text.split_append_sep]
    exact List.prefix_append _ _

/-- Where the segments of one path come first in another, it is taken
off, and it is not taken off anywhere else. -/
theorem stripSegments?_eq (covered t : Text) :
    stripSegments? covered t = if segments covered <+: segments t then
      some (absolute ((segments t).drop (segments covered).length)) else none := by
  split
  case isTrue h =>
    obtain ⟨ts, hts⟩ := h
    -- Put together, the segments that are left stand behind the covered text.
    have ht : t = covered ++ absolute ts := by
      have happend := Path.ofSegments_append (Text.split_ne_nil '/' covered) ts
      rw [← segments, hts] at happend
      simpa only [ofSegments, segments, Text.join_split] using happend
    rw [← hts, List.drop_left]
    refine stripSegments?_eq_some_iff.2 ⟨ht, atSegmentEnd_iff.2 ?_⟩
    cases ts with
    | nil => exact .inl rfl
    | cons s ss => exact .inr ⟨_, rfl⟩
  case isFalse h =>
    cases hstrip : stripSegments? covered t with
    | none => rfl
    | some rest => exact absurd (segments_prefix_of_strip hstrip) h

/-- A site is served under what a covering origin path leaves of the
bucket path, or under the bucket path as it is. -/
theorem webRoot_cases (bucketPath originPath : Text) :
    (∃ rest, trimSlashes originPath ≠ [] ∧
        stripSegments? (trimSlashes originPath) (trimSlashes bucketPath) = some rest ∧
        webRoot bucketPath originPath = ⟨'/' :: trimSlashes rest, trimSlashes originPath⟩) ∨
      ((trimSlashes originPath = [] ∨
          stripSegments? (trimSlashes originPath) (trimSlashes bucketPath) = none) ∧
        webRoot bucketPath originPath = ⟨'/' :: trimSlashes bucketPath, []⟩) := by
  unfold webRoot
  dsimp only
  by_cases horigin : trimSlashes originPath = []
  · rw [if_pos horigin]
    exact .inr ⟨.inl horigin, rfl⟩
  · rw [if_neg horigin]
    cases hstrip : stripSegments? (trimSlashes originPath) (trimSlashes bucketPath) with
    | none => exact .inr ⟨.inr rfl, rfl⟩
    | some rest => exact .inl ⟨rest, horigin, rfl, rfl⟩

/-- What an origin path leaves of a bucket path are whole segments. -/
theorem exists_absolute_of_strip (hplace : IsPlace bucket)
    (h : stripSegments? origin bucket = some rest) :
    ∃ ss, (∀ s ∈ ss, Plain s) ∧ rest = absolute ss := by
  obtain ⟨hbucket, hend⟩ := stripSegments?_eq_some_iff.1 h
  rcases atSegmentEnd_iff.1 hend with rfl | ⟨behind, rfl⟩
  · exact ⟨[], by simp, rfl⟩
  · have hne : bucket ≠ [] := by
      rw [hbucket]
      exact List.append_ne_nil_of_right_ne_nil origin (List.cons_ne_nil _ _)
    refine ⟨segments behind, fun s hs => hplace.resolve_left hne s ?_,
      Path.slash_eq_absolute behind⟩
    rw [hbucket, segments, Text.split_append_sep]
    exact List.mem_append_right _ hs

/-! ### The keys -/

/-- A path with plain segments starts with one. -/
theorem exists_eq_ofSegments (h : ∀ s ∈ segments path, Plain s) :
    ∃ s ss, Plain s ∧ segments path = s :: ss ∧ path = ofSegments (s :: ss) := by
  obtain ⟨s, ss, hsegments⟩ : ∃ s ss, segments path = s :: ss :=
    List.exists_cons_of_ne_nil (Text.split_ne_nil '/' path)
  refine ⟨s, ss, h s (hsegments ▸ List.mem_cons_self), hsegments, ?_⟩
  rw [← hsegments]
  exact (Text.join_split '/' path).symm

/-- So it has no slash in front. -/
theorem trimStart_of_plain (h : ∀ s ∈ segments path, Plain s) :
    Text.trimStart isSlash path = path := by
  obtain ⟨s, ss, hs, -, rfl⟩ := exists_eq_ofSegments h
  exact Path.trimStart_ofSegments hs.ne_nil hs.no_slash ss

/-- With a slash in front it is the absolute path of its segments. -/
theorem rooted_of_plain (h : ∀ s ∈ segments path, Plain s) :
    rooted path = absolute (segments path) := by
  obtain ⟨s, ss, hs, hsegments, hpath⟩ := exists_eq_ofSegments h
  rw [hsegments, hpath]
  exact Path.rooted_ofSegments hs.ne_nil hs.no_slash ss

/-- The bucket path is in front of every key, as whole segments. -/
theorem bucketKey_eq (r : Rules) (hne : r.bucketPath ≠ []) (path : Text) :
    r.bucketKey path = r.bucketPath ++ '/' :: path := by
  rw [Rules.bucketKey, Rules.keyPrefix, if_neg hne, List.append_assoc, List.singleton_append]

/-- The segments of a bucket path are in front of those of every file. -/
theorem exists_segments_bucketKey (r : Rules) (hplace : IsPlace r.bucketPath) :
    ∃ ss, (∀ s ∈ ss, Plain s) ∧ Text.trimEnd isSlash ('/' :: r.bucketPath) = absolute ss ∧
      ∀ path, segments (r.bucketKey path) = ss ++ segments path := by
  by_cases hne : r.bucketPath = []
  · refine ⟨[], by simp, by rw [hne]; rfl, fun path => ?_⟩
    rw [Rules.bucketKey, Rules.keyPrefix, if_pos hne, List.nil_append, List.nil_append]
  · have hplain := hplace.resolve_left hne
    refine ⟨segments r.bucketPath, hplain, ?_, fun path => ?_⟩
    · rw [Path.slash_eq_absolute, Path.trimEnd_absolute hplain]
    · rw [bucketKey_eq r hne, segments, Text.split_append_sep]
      rfl

/-- All keys have plain segments. -/
theorem plain_bucketKey (r : Rules) (hplace : IsPlace r.bucketPath)
    (h : ∀ s ∈ segments path, Plain s) : ∀ s ∈ segments (r.bucketKey path), Plain s := by
  obtain ⟨ss, hss, -, hkey⟩ := exists_segments_bucketKey r hplace
  intro s hs
  rw [hkey path] at hs
  rcases List.mem_append.1 hs with hs | hs
  · exact hss s hs
  · exact h s hs

/-! ### The served paths -/

/-- A site is served under a root with some segments: the root is written
with them, and the path of every file has them in front. -/
structure ServedUnder (r : Rules) (web : WebRoot) (ss : List Text) : Prop where
  /-- The segments are plain. -/
  plain : ∀ s ∈ ss, Plain s
  /-- They are those of the root. -/
  root : Text.trimEnd isSlash (rooted web.root) = absolute ss
  /-- Every file is served under it. -/
  served : ∀ path, (∀ s ∈ segments path, Plain s) →
    servedPath (r.bucketKey path) web.subPath = absolute (ss ++ segments path)

/-- An origin path that covers nothing leaves the bucket path. -/
theorem exists_servedUnder_bucket (r : Rules) (hplace : IsPlace r.bucketPath) :
    ∃ ss, ServedUnder r ⟨'/' :: r.bucketPath, []⟩ ss := by
  obtain ⟨ss, hss, hroot, hkey⟩ := exists_segments_bucketKey r hplace
  refine ⟨ss, hss, hroot, fun path hpath => ?_⟩
  have hplain := plain_bucketKey r hplace hpath
  rw [servedPath, if_pos rfl, trimStart_of_plain hplain, rooted_of_plain hplain, hkey path]

/-- An origin path that covers leading segments leaves the others. -/
theorem exists_servedUnder_rest (r : Rules) (hplace : IsPlace r.bucketPath) (hne : origin ≠ [])
    (h : stripSegments? origin r.bucketPath = some rest) :
    ∃ ss, ServedUnder r ⟨'/' :: trimSlashes rest, origin⟩ ss := by
  obtain ⟨ss, hss, rfl⟩ := exists_absolute_of_strip hplace h
  refine ⟨ss, hss, trimEnd_rooted_trimSlashes hss, fun path hpath => ?_⟩
  obtain ⟨hbucket, hend⟩ := stripSegments?_eq_some_iff.1 h
  have hkey : r.bucketKey path = origin ++ absolute (ss ++ segments path) := by
    have hbucketNe : r.bucketPath ≠ [] := by
      rw [hbucket]
      exact List.append_ne_nil_of_left_ne_nil hne _
    rw [bucketKey_eq r hbucketNe, Path.slash_eq_absolute path, hbucket, List.append_assoc,
      Path.absolute_append]
  -- Behind the origin path every key goes on with a slash.
  obtain ⟨behind, hbehind⟩ : ∃ behind, absolute (ss ++ segments path) = '/' :: behind := by
    obtain ⟨s, ts, hcons⟩ := List.exists_cons_of_ne_nil
      (List.append_ne_nil_of_right_ne_nil ss (Text.split_ne_nil '/' path))
    rw [segments, hcons]
    exact ⟨_, rfl⟩
  have hstrip : stripSegments? origin (r.bucketKey path) = some (absolute (ss ++ segments path)) :=
    stripSegments?_eq_some_iff.2 ⟨hkey, atSegmentEnd_iff.2 (.inr ⟨behind, hbehind⟩)⟩
  rw [servedPath, if_neg hne, trimStart_of_plain (plain_bucketKey r hplace hpath), hstrip,
    Option.getD_some, rooted, if_pos (Path.isAbsolute_iff.2 ⟨behind, hbehind⟩)]

/-- Whatever the origin path of a distribution is, the site is served
under the root that is worked out for it. -/
theorem exists_servedUnder (r : Rules) {bucketPath : Text}
    (hrules : r.bucketPath = trimSlashes bucketPath) (hplace : IsPlace r.bucketPath)
    (originPath : Text) : ∃ ss, ServedUnder r (webRoot bucketPath originPath) ss := by
  rcases webRoot_cases bucketPath originPath with ⟨rest, hne, hstrip, heq⟩ | ⟨-, heq⟩
  · rw [← hrules] at hstrip
    rw [heq]
    exact exists_servedUnder_rest r hplace hne hstrip
  · rw [heq, ← hrules]
    exact exists_servedUnder_bucket r hplace

end SiteSync.Cdn
