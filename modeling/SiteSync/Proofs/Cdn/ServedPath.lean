import SiteSync.Config.Basic
import SiteSync.Proofs.Cdn.Origin
import SiteSync.Proofs.Deploy.Contracts

/-!
# `SiteSync.Proofs.Cdn.ServedPath`: keys and served paths agree

A file has two paths on a distribution. One is worked out from its key:
the bucket path is put in front of the file, and the part of the key that
the origin path covers is taken off again. The other is the path of the
file under the web root, which also stands in the wildcard on the whole
site. Both trim slashes, each in its own way, so they may differ in empty
segments, but in nothing that is left once they are cleaned.

- `servedPath_eq`: where a key is served, by its segments.
- `subPath_eq`: what the origin path covers, by the segments of the
  bucket path.
- `parts_servedPath_bucketKey`: the two paths of a file have the same
  parts.
- `Config.bucketPath_of_check`: how the rules of a site hold its bucket
  path.
- `serves_under_root`: so cleaning them gives the same, and an origin path
  is taken off as whole segments or not at all. For the rules of a site
  that was checked it is `clean_servedPath_of_check`.
- `served_below_origin_iff`: where a key under the origin path is served
  without it.
-/

set_option autoImplicit false

namespace SiteSync

/-! ### The rules of a site -/

/-- If two steps succeed, one after the other, then so does the first. -/
theorem exists_of_bind_eq_ok {ε α β : Type} {x : Except ε α} {f : α → Except ε β} {b : β}
    (h : x >>= f = .ok b) : ∃ a, x = .ok a ∧ f a = .ok b := by
  cases x with
  | error e => cases h
  | ok a => exact ⟨a, rfl, h⟩

/-- The rules hold the bucket path without the slashes around it. -/
theorem Config.bucketPath_of_check {c : Config} {parallelism : Nat} {r : Rules}
    (h : c.check parallelism = .ok r) : r.bucketPath = Path.trimSlashes c.bucketPath := by
  unfold check at h
  split at h
  case h_1 => cases h
  case h_2 =>
    -- None of the patterns has anything to do with the bucket path.
    obtain ⟨ignore, -, h⟩ := exists_of_bind_eq_ok h
    obtain ⟨order, -, h⟩ := exists_of_bind_eq_ok h
    obtain ⟨routes, -, h⟩ := exists_of_bind_eq_ok h
    obtain ⟨walkFilter, -, h⟩ := exists_of_bind_eq_ok h
    cases h
    rfl

namespace Cdn

open SiteSync.Path (absolute clean isAbsolute isSlash parts rooted segments trimSlashes)

variable {bucketPath originPath p : Text}

/-! ### Slashes in front -/

/-- A rooted path has a slash in front. -/
theorem isAbsolute_rooted (p : Text) : isAbsolute (rooted p) = true := by
  unfold rooted
  split
  case isTrue h => exact h
  case isFalse => rfl

/-- What is trimmed has no slash in front. -/
theorem not_isAbsolute_trimStart (p : Text) : ¬isAbsolute (Text.trimStart isSlash p) = true := by
  intro h
  obtain ⟨rest, hrest⟩ := Path.isAbsolute_iff.1 h
  have hfirst := List.head?_dropWhile_not isSlash p
  rw [show p.dropWhile isSlash = '/' :: rest from hrest] at hfirst
  exact Bool.false_ne_true hfirst.symm

/-- It has none either when something is put behind it, unless there is
nothing left of it. -/
theorem trimStart_trimSlashes_append (hne : trimSlashes p ≠ []) (t : Text) :
    Text.trimStart isSlash (trimSlashes p ++ t) = trimSlashes p ++ t := by
  -- The end is trimmed last, which takes nothing off the front.
  have hprefix : trimSlashes p <+: Text.trimStart isSlash p := by
    show (Text.trimStart isSlash p).rdropWhile isSlash <+: _
    exact List.rdropWhile_prefix isSlash _
  obtain ⟨c, cs, hcons⟩ := List.exists_cons_of_ne_nil hne
  obtain ⟨rest, hrest⟩ := hprefix
  have hc : ¬isSlash c = true := by
    intro hslash
    have heq : c = '/' := by simpa [isSlash] using hslash
    refine not_isAbsolute_trimStart p (Path.isAbsolute_iff.2 ⟨cs ++ rest, ?_⟩)
    rw [← hrest, hcons, heq, List.cons_append]
  rw [hcons, List.cons_append]
  exact List.dropWhile_cons_of_neg hc

/-! ### Where a key is served -/

/-- So has the path at which a key is served. -/
theorem isAbsolute_servedPath (key subPath : Text) :
    isAbsolute (servedPath key subPath) = true := by
  unfold servedPath
  dsimp only
  split
  · exact isAbsolute_rooted _
  · exact isAbsolute_rooted _

/-- A key is served without the covered segments, if they are its first,
and otherwise as it is. -/
theorem servedPath_eq (key subPath : Text) :
    let rest := Text.trimStart isSlash key
    servedPath key subPath = if segments subPath <+: segments rest then
      rooted (absolute ((segments rest).drop (segments subPath).length)) else '/' :: rest := by
  intro rest
  have hrelative : ¬isAbsolute rest = true := not_isAbsolute_trimStart key
  have hrooted : rooted rest = '/' :: rest := if_neg hrelative
  unfold servedPath
  dsimp only
  by_cases hsub : subPath = []
  · rw [if_pos hsub, hsub]
    split
    case isTrue h =>
      -- The empty path is one empty segment, so there is nothing in the key.
      obtain ⟨ts, hts⟩ := h
      have hnil : rest = [] := Path.eq_nil_of_segments hrelative hts.symm
      show rooted rest = _
      rw [hnil]
      rfl
    case isFalse => exact hrooted
  · rw [if_neg hsub, stripSegments?_eq]
    split
    case isTrue => rfl
    case isFalse => exact hrooted

/-! ### Where a site is served -/

/-- And so has the root of a site. -/
theorem exists_root_eq (bucketPath originPath : Text) :
    ∃ rest, (webRoot bucketPath originPath).root = '/' :: rest := by
  rcases webRoot_cases bucketPath originPath with ⟨rest, -, -, heq⟩ | ⟨-, heq⟩
  · exact ⟨_, congrArg WebRoot.root heq⟩
  · exact ⟨_, congrArg WebRoot.root heq⟩

/-- An origin path covers its segments if they are the first of the
bucket path, and nothing otherwise. -/
theorem subPath_eq (bucketPath originPath : Text) :
    (webRoot bucketPath originPath).subPath =
      if segments (trimSlashes originPath) <+: segments (trimSlashes bucketPath)
      then trimSlashes originPath else [] := by
  rcases webRoot_cases bucketPath originPath with ⟨rest, -, hstrip, heq⟩ | ⟨hnone, heq⟩
  · rw [heq, if_pos (segments_prefix_of_strip hstrip)]
  · rw [heq]
    rcases hnone with hnil | hstrip
    · rw [hnil, ite_self]
    · rw [stripSegments?_eq] at hstrip
      split at hstrip
      case isTrue => cases hstrip
      case isFalse h => rw [if_neg h]

/-! ### The files of a site -/

/-- A key has the parts of the bucket path and those of the file. -/
theorem parts_bucketKey (r : Rules) (path : Text) :
    parts (r.bucketKey path) = parts r.bucketPath ++ parts path := by
  by_cases hne : r.bucketPath = []
  · rw [Rules.bucketKey, Rules.keyPrefix, if_pos hne, hne]
    rfl
  · rw [bucketKey_eq r hne, Path.parts_append_slash]

/-- The path that a file is served at has the parts of the root and those
of the file. -/
theorem parts_servedPath_bucketKey (r : Rules) (hrules : r.bucketPath = trimSlashes bucketPath)
    (originPath path : Text) :
    parts (servedPath (r.bucketKey path) (webRoot bucketPath originPath).subPath) =
      parts (webRoot bucketPath originPath).root ++ parts path := by
  rcases webRoot_cases bucketPath originPath with ⟨rest, hne, hstrip, heq⟩ | ⟨-, heq⟩
  · rw [heq]
    obtain ⟨hbucket, hend⟩ := stripSegments?_eq_some_iff.1 hstrip
    have hbucketNe : trimSlashes bucketPath ≠ [] := by
      rw [hbucket]
      exact List.append_ne_nil_of_left_ne_nil hne rest
    have hkey : r.bucketKey path = trimSlashes bucketPath ++ '/' :: path := by
      rw [bucketKey_eq r (hrules ▸ hbucketNe), hrules]
    -- What follows the origin path in the bucket path is whole segments, so in the key as well.
    have hserved : stripSegments? (trimSlashes originPath) (trimSlashes bucketPath ++ '/' :: path)
        = some (rest ++ '/' :: path) := by
      refine stripSegments?_eq_some_iff.2 ⟨?_, atSegmentEnd_iff.2 (.inr ?_)⟩
      · rw [hbucket, List.append_assoc]
      · rcases atSegmentEnd_iff.1 hend with rfl | ⟨behind, rfl⟩
        · exact ⟨path, rfl⟩
        · exact ⟨behind ++ '/' :: path, rfl⟩
    rw [servedPath, if_neg hne, hkey, trimStart_trimSlashes_append hbucketNe, hserved,
      Option.getD_some, Path.parts_rooted, Path.parts_append_slash, Path.parts_slash,
      Path.parts_trimSlashes]
  · rw [heq, servedPath, if_pos rfl, Path.parts_rooted, Path.parts_trimStart, parts_bucketKey,
      hrules, Path.parts_slash]

/-- Cleaned, the path of a file by its key and its path under the web
root are the same. -/
theorem clean_servedPath_bucketKey (r : Rules) (hrules : r.bucketPath = trimSlashes bucketPath)
    (originPath path : Text) :
    let web := webRoot bucketPath originPath
    clean (servedPath (r.bucketKey path) web.subPath) = clean (web.root ++ '/' :: path) := by
  intro web
  refine Path.clean_eq_of_parts ?_ ?_
  · obtain ⟨rest, hroot⟩ := exists_root_eq bucketPath originPath
    have hunder : isAbsolute (web.root ++ '/' :: path) = true :=
      Path.isAbsolute_iff.2 ⟨rest ++ '/' :: path, congrArg (· ++ '/' :: path) hroot⟩
    rw [isAbsolute_servedPath, hunder]
  · rw [parts_servedPath_bucketKey r hrules, Path.parts_append_slash]

/-- Whatever slashes there are in the bucket path, the origin path and
the path of a file, the file is served under the web root: cleaned, the
path of its key and its path under the root are the same. The origin path
is taken off the bucket path, and what it covers off a key, only where
all its segments come first. The hypothesis is true of every set of rules
that a check of the settings gives (`Config.bucketPath_of_check`). -/
theorem serves_under_root (r : Rules) {bucketPath : Text}
    (hrules : r.bucketPath = trimSlashes bucketPath) (originPath path : Text) :
    let web := webRoot bucketPath originPath
    let origin := trimSlashes originPath
    clean (servedPath (r.bucketKey path) web.subPath) = clean (web.root ++ '/' :: path) ∧
      (web.subPath = if segments origin <+: segments r.bucketPath then origin else []) ∧
      ∀ key,
        let rest := Text.trimStart isSlash key
        servedPath key web.subPath = if segments web.subPath <+: segments rest then
          rooted (absolute ((segments rest).drop (segments web.subPath).length))
          else '/' :: rest := by
  intro web origin
  refine ⟨clean_servedPath_bucketKey r hrules originPath path, ?_,
    fun key => servedPath_eq key web.subPath⟩
  rw [hrules]
  exact subPath_eq bucketPath originPath

/-- The origin path covers a part of the bucket path, with slashes in odd
places, and the file climbs out of its directory. -/
theorem serves_under_root_sample :
    let r := { Sample.rules with bucketPath := "temp//forsale".toList }
    let web := webRoot "/temp//forsale/".toList "temp/".toList
    let path := "a/../b.css".toList
    r.bucketPath = trimSlashes "/temp//forsale/".toList ∧ web.subPath = "temp".toList ∧
      clean (servedPath (r.bucketKey path) web.subPath) = "/forsale/b.css".toList := by
  intro r web path
  have hrules : r.bucketPath = trimSlashes "/temp//forsale/".toList := by decide
  obtain ⟨hclean, hsub, -⟩ := serves_under_root r hrules "temp/".toList path
  refine ⟨hrules, ?_, ?_⟩
  · rw [hsub]
    decide
  · rw [hclean]
    decide

/-- The rules that a check of the settings gives hold the bucket path of
the settings, so their files are served under its web root. -/
theorem clean_servedPath_of_check {c : Config} {parallelism : Nat} {r : Rules}
    (h : c.check parallelism = .ok r) (originPath path : Text) :
    let web := webRoot c.bucketPath originPath
    clean (servedPath (r.bucketKey path) web.subPath) = clean (web.root ++ '/' :: path) :=
  clean_servedPath_bucketKey r (Config.bucketPath_of_check h) originPath path

/-! ### Keys under the origin path -/

/-- An origin path lies deeper than a bucket path if its segments go on
where those of the bucket path end. An empty bucket path has none. -/
def LiesDeeper (bucket origin : Text) : Prop :=
  bucket = [] ∨ (segments bucket <+: segments origin ∧ bucket ≠ origin)

/-- Paths with the same segments are the same. -/
theorem eq_of_segments_eq {q : Text} (h : segments p = segments q) : p = q := by
  have hjoin := congrArg Path.ofSegments h
  simpa only [Path.ofSegments, segments, Text.join_split] using hjoin

/-- An origin path that does not lie deeper is all of the bucket path or
stands above it. There is no third way for a key that is under both. -/
theorem liesDeeper_iff (r : Rules) {origin rest : Text} (hne : origin ≠ [])
    (hmanaged : r.isManaged (origin ++ '/' :: rest) = true) :
    LiesDeeper r.bucketPath origin ↔ ¬segments origin <+: segments r.bucketPath := by
  obtain ⟨path, hkey⟩ := Rules.isManaged_iff.1 hmanaged
  constructor
  · rintro (hnil | ⟨hstarts, hdiffers⟩) hcovers
    · -- The only segment of an empty path is the empty one.
      rw [hnil] at hcovers
      obtain ⟨s, ss, hcons⟩ := List.exists_cons_of_ne_nil (Text.split_ne_nil '/' origin)
      rw [segments, hcons] at hcovers
      obtain ⟨hs, hss⟩ := List.cons_prefix_cons.1 hcovers
      refine hne (eq_of_segments_eq (q := []) ?_)
      rw [segments, hcons, hs, List.prefix_nil.1 hss]
      rfl
    · exact hdiffers (eq_of_segments_eq (List.IsPrefix.eq_of_length_le hstarts hcovers.length_le))
  · intro hcovers
    by_cases hnil : r.bucketPath = []
    · exact .inl hnil
    rw [bucketKey_eq r hnil] at hkey
    have hsegments := congrArg segments hkey
    rw [segments, segments, Text.split_append_sep, Text.split_append_sep] at hsegments
    -- Both are leading segments of the key.
    have hcomparable := List.prefix_or_prefix_of_prefix ⟨_, hsegments⟩
      (List.prefix_append (segments r.bucketPath) (segments path))
    refine .inr ⟨hcomparable.resolve_left hcovers, fun heq => hcovers ?_⟩
    exact heq ▸ List.prefix_refl _

/-- A key of the site that lies under the origin path of a distribution is
served without it as long as the origin path is all of the bucket path or
stands above it, and only then. Under an origin path that lies deeper it
is taken to be served as it is, origin path and all. -/
theorem served_below_origin_iff (r : Rules) {bucketPath originPath rest : Text}
    (hrules : r.bucketPath = trimSlashes bucketPath) (hne : trimSlashes originPath ≠ [])
    (hmanaged : r.isManaged (trimSlashes originPath ++ '/' :: rest) = true) :
    let origin := trimSlashes originPath
    let key := origin ++ '/' :: rest
    let subPath := (webRoot bucketPath originPath).subPath
    (servedPath key subPath = '/' :: rest ↔ ¬LiesDeeper r.bucketPath origin) ∧
      (LiesDeeper r.bucketPath origin → servedPath key subPath = '/' :: key) := by
  intro origin key subPath
  have hdeeper := liesDeeper_iff r hne hmanaged
  have htrim : Text.trimStart isSlash key = key := trimStart_trimSlashes_append hne _
  have hsub : subPath = if segments origin <+: segments r.bucketPath then origin else [] := by
    rw [hrules]
    exact subPath_eq bucketPath originPath
  have hkept : LiesDeeper r.bucketPath origin → servedPath key subPath = '/' :: key := by
    intro h
    have hrelative : ¬isAbsolute key = true := htrim ▸ not_isAbsolute_trimStart key
    rw [hsub, if_neg (hdeeper.1 h), servedPath, if_pos rfl, htrim]
    exact if_neg hrelative
  refine ⟨⟨fun hserved h => ?_, fun h => ?_⟩, hkept⟩
  · -- With the origin path in front it is longer.
    have hlength := congrArg List.length ((hkept h).symm.trans hserved)
    have hpos : 0 < origin.length := List.length_pos_of_ne_nil hne
    rw [List.length_cons, List.length_cons, List.length_append, List.length_cons] at hlength
    omega
  · -- The origin path covers the bucket path, and is stripped.
    have hcovers : segments origin <+: segments r.bucketPath := by
      by_contra hnot
      exact h (hdeeper.2 hnot)
    have hstrip : stripSegments? origin key = some ('/' :: rest) :=
      stripSegments?_eq_some_iff.2 ⟨rfl, atSegmentEnd_iff.2 (.inr ⟨rest, rfl⟩)⟩
    rw [hsub, if_pos hcovers, servedPath, if_neg hne, htrim, hstrip]
    rfl

/-- The origin path is the first of two segments of the bucket path. -/
theorem served_below_origin_sample :
    let r := { Sample.rules with bucketPath := "temp/forsale".toList }
    r.isManaged "temp/forsale/a.css".toList = true ∧
      servedPath "temp/forsale/a.css".toList (webRoot "temp/forsale/".toList "/temp".toList).subPath
        = "/forsale/a.css".toList := by
  intro r
  have hrules : r.bucketPath = trimSlashes "temp/forsale/".toList := by decide
  have hmanaged :
      r.isManaged (trimSlashes "/temp".toList ++ '/' :: "forsale/a.css".toList) = true := by
    decide
  have hshallow : ¬LiesDeeper r.bucketPath (trimSlashes "/temp".toList) := by
    rw [liesDeeper_iff r (by decide) hmanaged]
    decide
  exact ⟨hmanaged, (served_below_origin_iff r hrules (by decide) hmanaged).1.2 hshallow⟩

/-- A whole bucket is a site, and one of its directories is the origin of
a distribution. The key of a page is not served under the name of that
directory, and yet that is where it is looked for. -/
theorem served_below_deeper_origin_sample :
    let r := { Sample.rules with bucketPath := [] }
    let key := "site/a.css".toList
    let subPath := (webRoot [] "site".toList).subPath
    r.isManaged key = true ∧ key = "site".toList ++ '/' :: "a.css".toList ∧
      servedPath key subPath = "/site/a.css".toList ∧
      servedPath key subPath ≠ '/' :: "a.css".toList := by
  decide

end Cdn

end SiteSync
