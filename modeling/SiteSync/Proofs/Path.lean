import Mathlib.Data.List.DropRight
import SiteSync.Path
import SiteSync.Proofs.Text.Split

/-!
# `SiteSync.Proofs.Path`: absolute paths and their segments

An absolute path is a list of segments with a slash before each. In that
form the operations on paths are operations on lists: the last segment
is the base name, the segments before it are the parent, and the depth
is the length.

- `Plain`: a segment that cleaning leaves as it is.
- `segments_absolute`: the segments of an absolute path are the ones it
  was made of.
- `cleanSegments_spec`: what is left of a path are steps up, of which an
  absolute path has none, and plain segments behind them.
- `exists_cleanSegments_relative`: the plain segments are the same
  whether a path is absolute or not.
- `trimEnd_absolute`: there is no slash behind plain segments.
- `parent_absolute`, `baseName_absolute`: the parent and the base name.
- `clean_eq_of_parts`: empty segments make no difference to a clean path.
- `getLast?_segments_iff`, `mem_dropLast_segments_iff`: where the last
  segment of any path and the ones before it stand.
-/

set_option autoImplicit false

namespace SiteSync.Path

variable {ss ts dir : List Text} {s last : Text}

/-- The segment that stands for the directory above. -/
abbrev dots : Text := ['.', '.']

/-- A segment that is a name. -/
structure Plain (s : Text) : Prop where
  /-- It is not empty. -/
  ne_nil : s ≠ []
  /-- It does not stand for the directory itself. -/
  ne_dot : s ≠ ['.']
  /-- It does not stand for the directory above. -/
  ne_dots : s ≠ dots
  /-- It is a single segment. -/
  no_slash : '/' ∉ s

instance (s : Text) : Decidable (Plain s) :=
  decidable_of_iff (s ≠ [] ∧ s ≠ ['.'] ∧ s ≠ dots ∧ '/' ∉ s)
    ⟨fun ⟨hnil, hdot, hdots, hslash⟩ => ⟨hnil, hdot, hdots, hslash⟩,
      fun h => ⟨h.ne_nil, h.ne_dot, h.ne_dots, h.no_slash⟩⟩

/-! ### Absolute paths -/

/-- The absolute path with some segments; without segments there is not
even a slash. -/
def absolute (ss : List Text) : Text := ss.flatMap ('/' :: ·)

/-- Without segments nothing is written. -/
theorem absolute_nil : absolute [] = [] := rfl

/-- The first segment is written with the slash in front of it. -/
theorem absolute_cons (s : Text) (ss : List Text) : absolute (s :: ss) = '/' :: s ++ absolute ss :=
  rfl

/-- Segments are written one after another. -/
theorem absolute_append (ss ts : List Text) : absolute (ss ++ ts) = absolute ss ++ absolute ts :=
  List.flatMap_append

/-- The last segment has a slash in front of it as well. -/
theorem absolute_concat (ss : List Text) (s : Text) :
    absolute (ss ++ [s]) = absolute ss ++ '/' :: s := by
  rw [absolute_append, absolute_cons, absolute_nil, List.append_nil]

/-- An absolute path is a slash and the rest. -/
theorem isAbsolute_iff {p : Text} : isAbsolute p = true ↔ ∃ rest, p = '/' :: rest := by
  unfold isAbsolute
  split
  case h_1 rest => exact iff_of_true rfl ⟨rest, rfl⟩
  case h_2 hnot => exact iff_of_false Bool.false_ne_true fun ⟨rest, h⟩ => hnot rest h

/-- Segments with slashes between them, and one in front. -/
theorem slash_ofSegments (hne : ss ≠ []) : '/' :: ofSegments ss = absolute ss := by
  induction ss with
  | nil => exact absurd rfl hne
  | cons s ss ih =>
    cases ss with
    | nil => rw [ofSegments, Text.join, absolute_cons, absolute_nil, List.append_nil]
    | cons t ts =>
      have hrest : '/' :: ofSegments (t :: ts) = absolute (t :: ts) := ih (List.cons_ne_nil t ts)
      rw [absolute_cons, ← hrest]
      rfl

/-- More segments come with a slash before each. -/
theorem ofSegments_append (hne : ss ≠ []) (ts : List Text) :
    ofSegments (ss ++ ts) = ofSegments ss ++ absolute ts := by
  have hrooted : '/' :: ofSegments (ss ++ ts) = '/' :: ofSegments ss ++ absolute ts := by
    rw [slash_ofSegments (List.append_ne_nil_of_left_ne_nil hne ts), slash_ofSegments hne,
      absolute_append]
  exact List.tail_eq_of_cons_eq hrooted

/-- Splitting takes a first segment and those of an absolute path apart,
whatever follows behind one more slash. -/
theorem split_append_absolute (hs : '/' ∉ s) (h : ∀ t ∈ ss, '/' ∉ t) (rest : Text) :
    Text.split '/' (s ++ absolute ss ++ '/' :: rest) = s :: ss ++ segments rest := by
  induction ss generalizing s with
  | nil => rw [absolute_nil, List.append_nil, Text.split_append hs, List.singleton_append, segments]
  | cons t ts ih =>
    have hrest := ih (h t List.mem_cons_self) fun u hu => h u (List.mem_cons_of_mem t hu)
    rw [absolute_cons, List.append_assoc, List.cons_append, List.cons_append, Text.split_append hs,
      hrest]
    rfl

/-- The segments of an absolute path with something behind it. -/
theorem segments_absolute_append (h : ∀ s ∈ ss, '/' ∉ s) (rest : Text) :
    segments (absolute ss ++ '/' :: rest) = [] :: ss ++ segments rest :=
  split_append_absolute (s := []) List.not_mem_nil h rest

/-- The segments of an absolute path are the ones it was made of, behind
an empty one. -/
theorem segments_absolute (h : ∀ s ∈ ss, '/' ∉ s) : segments (absolute ss) = [] :: ss := by
  rcases List.eq_nil_or_concat ss with rfl | ⟨before, last, hconcat⟩
  · rfl
  · rw [List.concat_eq_append] at hconcat
    subst hconcat
    have hlast : '/' ∉ last := h last (List.mem_append_right before List.mem_cons_self)
    rw [absolute_concat,
      segments_absolute_append (fun s hs => h s (List.mem_append_left [last] hs)) last, segments,
      Text.split_of_not_mem hlast, List.cons_append]

/-- The depth of an absolute path is the number of its segments. -/
theorem depth_absolute (h : ∀ s ∈ ss, '/' ∉ s) : depth (absolute ss) = ss.length := by
  induction ss with
  | nil => rfl
  | cons s ss ih =>
    have hs : List.count '/' s = 0 := List.count_eq_zero.2 (h s List.mem_cons_self)
    have hss : List.count '/' (absolute ss) = ss.length :=
      ih fun t ht => h t (List.mem_cons_of_mem s ht)
    rw [depth, Text.count, absolute_cons, List.cons_append, List.count_cons_self, List.count_append,
      hs, hss, List.length_cons, Nat.zero_add]

/-- A path whose first segment is not empty does not start with a
slash. -/
theorem exists_ofSegments_eq_cons (hne : s ≠ []) (hs : '/' ∉ s) (ss : List Text) :
    ∃ c cs, ofSegments (s :: ss) = c :: cs ∧ c ≠ '/' := by
  obtain ⟨c, cs, rfl⟩ := List.exists_cons_of_ne_nil hne
  have hc : c ≠ '/' := fun h => hs (h ▸ List.mem_cons_self)
  cases ss with
  | nil => exact ⟨c, cs, rfl, hc⟩
  | cons t ts => exact ⟨c, cs ++ '/' :: ofSegments (t :: ts), rfl, hc⟩

/-- A path whose first segment is not empty is not empty. -/
theorem ofSegments_cons_ne_nil (hne : s ≠ []) (hs : '/' ∉ s) (ss : List Text) :
    ofSegments (s :: ss) ≠ [] := by
  obtain ⟨c, cs, heq, -⟩ := exists_ofSegments_eq_cons hne hs ss
  rw [heq]
  exact List.cons_ne_nil c cs

/-- Such a path is relative. -/
theorem isAbsolute_ofSegments (hne : s ≠ []) (hs : '/' ∉ s) (ss : List Text) :
    isAbsolute (ofSegments (s :: ss)) = false := by
  obtain ⟨c, cs, heq, hc⟩ := exists_ofSegments_eq_cons hne hs ss
  rw [heq]
  simp [isAbsolute, hc]

/-- Rooting it gives the absolute path with its segments. -/
theorem rooted_ofSegments (hne : s ≠ []) (hs : '/' ∉ s) (ss : List Text) :
    rooted (ofSegments (s :: ss)) = absolute (s :: ss) := by
  rw [rooted, isAbsolute_ofSegments hne hs, if_neg Bool.false_ne_true,
    slash_ofSegments (List.cons_ne_nil s ss)]

/-- Only the empty path starts with an empty segment and not with a
slash. -/
theorem eq_nil_of_segments {p : Text} (hrelative : ¬isAbsolute p = true)
    (h : segments p = [] :: ts) : p = [] := by
  have hjoin : ofSegments ([] :: ts) = p := by
    rw [← h]
    exact Text.join_split '/' p
  cases ts with
  | nil => exact hjoin.symm
  | cons t ts => exact absurd (isAbsolute_iff.2 ⟨_, hjoin.symm⟩) hrelative

/-- Any path with a slash in front is the absolute path with its
segments. -/
theorem slash_eq_absolute (p : Text) : '/' :: p = absolute (segments p) := by
  rw [segments, ← slash_ofSegments (Text.split_ne_nil '/' p), ofSegments, Text.join_split]

/-! ### The last segment -/

/-- The last segment of a path is what is behind its last slash. -/
theorem getLast?_segments_iff {p : Text} :
    (segments p).getLast? = some s ↔ '/' ∉ s ∧ (p = s ∨ ∃ front, p = front ++ '/' :: s) := by
  constructor
  · intro h
    obtain ⟨before, hbefore⟩ := List.getLast?_eq_some_iff.1 h
    have hmem : s ∈ segments p := List.mem_of_getLast? h
    have hp : p = ofSegments (before ++ [s]) := by
      rw [← hbefore]
      exact (Text.join_split '/' p).symm
    refine ⟨Text.not_mem_of_mem_split hmem, ?_⟩
    -- The only segment is all of the text.
    by_cases hnil : before = []
    · subst hnil
      exact .inl hp
    · refine .inr ⟨ofSegments before, ?_⟩
      rw [hp, ofSegments_append hnil, absolute_cons, absolute_nil, List.append_nil]
  · rintro ⟨hs, rfl | ⟨front, rfl⟩⟩
    · rw [segments, Text.split_of_not_mem hs, List.getLast?_singleton]
    · rw [segments, Text.split_append_sep, Text.split_of_not_mem hs, List.getLast?_concat]

/-- The segments before the last one are those that what is before a
slash ends with. -/
theorem mem_dropLast_segments_iff {p : Text} :
    s ∈ (segments p).dropLast ↔
      ∃ front rest, p = front ++ '/' :: rest ∧ (segments front).getLast? = some s := by
  constructor
  · intro h
    obtain ⟨before, behind, hsplit⟩ := List.append_of_mem h
    have hne : segments p ≠ [] := Text.split_ne_nil '/' p
    -- The text is split behind the segment.
    have hsegments : segments p = (before ++ [s]) ++ (behind ++ [(segments p).getLast hne]) := by
      rw [← List.append_assoc, List.append_assoc before, List.singleton_append, ← hsplit,
        List.dropLast_append_getLast]
    have hfront : segments (ofSegments (before ++ [s])) = before ++ [s] := by
      refine Text.split_join (by simp) fun u hu => Text.not_mem_of_mem_split (t := p) ?_
      show u ∈ segments p
      rw [hsegments]
      exact List.mem_append_left _ hu
    refine ⟨ofSegments (before ++ [s]), ofSegments (behind ++ [(segments p).getLast hne]), ?_, ?_⟩
    · rw [slash_ofSegments (by simp), ← ofSegments_append (by simp), ← hsegments]
      exact (Text.join_split '/' p).symm
    · rw [hfront, List.getLast?_concat]
  · rintro ⟨front, rest, rfl, hlast⟩
    rw [segments, Text.split_append_sep,
      List.dropLast_append_of_ne_nil (Text.split_ne_nil '/' rest)]
    exact List.mem_append_left _ (List.mem_of_getLast? hlast)

/-! ### Trimming -/

/-- A path whose first segment is not empty has no slash in front. -/
theorem trimStart_ofSegments (hne : s ≠ []) (hs : '/' ∉ s) (ss : List Text) :
    Text.trimStart isSlash (ofSegments (s :: ss)) = ofSegments (s :: ss) := by
  obtain ⟨c, cs, heq, hc⟩ := exists_ofSegments_eq_cons hne hs ss
  have hslash : ¬isSlash c = true := by simpa [isSlash] using hc
  rw [heq, Text.trimStart, List.dropWhile_cons_of_neg hslash]

/-- Without its slash in front an absolute path has its segments. -/
theorem segments_trimStart (hss : ss ≠ []) (h : ∀ s ∈ ss, s ≠ [] ∧ '/' ∉ s) :
    segments (Text.trimStart isSlash ('/' :: ofSegments ss)) = ss := by
  obtain ⟨s, ss, rfl⟩ := List.exists_cons_of_ne_nil hss
  obtain ⟨hne, hs⟩ := h s List.mem_cons_self
  have htrim : Text.trimStart isSlash ('/' :: ofSegments (s :: ss)) = ofSegments (s :: ss) :=
    trimStart_ofSegments hne hs ss
  rw [htrim]
  exact Text.split_join (List.cons_ne_nil s ss) fun t ht => (h t ht).2

/-- What ends in a segment that is not empty has no slash behind. -/
theorem trimEnd_append (front : Text) (hne : s ≠ []) (hs : '/' ∉ s) :
    Text.trimEnd isSlash (front ++ s) = front ++ s := by
  refine List.rdropWhile_eq_self_iff.2 fun hall => ?_
  rw [List.getLast_append_of_ne_nil hall hne]
  intro hslash
  have hlast : s.getLast hne = '/' := by simpa [isSlash] using hslash
  exact hs (hlast ▸ List.getLast_mem hne)

/-- An absolute path with plain segments has no slash behind. -/
theorem trimEnd_absolute (h : ∀ s ∈ ss, Plain s) :
    Text.trimEnd isSlash (absolute ss) = absolute ss := by
  rcases List.eq_nil_or_concat ss with rfl | ⟨before, last, rfl⟩
  · rfl
  · rw [List.concat_eq_append] at h ⊢
    have hlast : Plain last := h last (List.mem_append_right before List.mem_cons_self)
    rw [absolute_concat, ← List.singleton_append, ← List.append_assoc]
    exact trimEnd_append _ hlast.ne_nil hlast.no_slash

/-- Neither has it without its slash in front. -/
theorem trimEnd_ofSegments (h : ∀ s ∈ ss, Plain s) :
    Text.trimEnd isSlash (ofSegments ss) = ofSegments ss := by
  by_cases hne : ss = []
  · rw [hne]
    rfl
  · have hrooted := trimEnd_absolute h
    rw [← slash_ofSegments hne] at hrooted
    -- The last character is the same with the slash in front and without it.
    refine List.rdropWhile_eq_self_iff.2 fun hnil => ?_
    have hlast := List.rdropWhile_eq_self_iff.1 hrooted (List.cons_ne_nil _ _)
    rwa [List.getLast_cons hnil] at hlast

/-! ### Cleaning -/

/-- What may have been kept, latest first: plain segments on top of
steps up, and no step up in an absolute path. -/
def Resolved (absolute : Bool) (kept : List Text) : Prop :=
  ∃ plain ups, kept = plain ++ List.replicate ups dots ∧ (absolute = true → ups = 0) ∧
    ∀ s ∈ plain, Plain s

/-- Before the first segment nothing is kept. -/
theorem Resolved.nil (absolute : Bool) : Resolved absolute [] :=
  ⟨[], 0, rfl, fun _ => rfl, fun _ h => nomatch h⟩

/-- A plain segment is kept. -/
theorem resolve_of_plain (absolute : Bool) (kept : List Text) (hs : Plain s) :
    resolve absolute kept s = s :: kept := by
  unfold resolve
  rw [if_neg (not_or.2 ⟨hs.ne_nil, hs.ne_dot⟩), if_neg hs.ne_dots]

/-- A step up takes the latest plain segment away, or is added in a
relative path that has none. -/
theorem Resolved.resolve_dots {absolute : Bool} {kept : List Text} (h : Resolved absolute kept) :
    Resolved absolute (resolve absolute kept dots) := by
  obtain ⟨plain, ups, rfl, hups, hplain⟩ := h
  have hdropped : ¬(dots = [] ∨ dots = ['.']) := by decide
  unfold Path.resolve
  rw [if_neg hdropped, if_pos rfl]
  cases plain with
  | cons last before =>
    -- A plain segment is no step up, so it can be taken away.
    have hlast : last ≠ dots := (hplain last List.mem_cons_self).ne_dots
    rw [List.cons_append]
    dsimp only
    rw [if_pos hlast]
    exact ⟨before, ups, rfl, hups, fun t ht => hplain t (List.mem_cons_of_mem last ht)⟩
  | nil =>
    cases absolute with
    | true =>
      rw [hups rfl]
      exact ⟨[], 0, rfl, fun _ => rfl, hplain⟩
    | false =>
      refine ⟨[], ups + 1, ?_, fun h => absurd h Bool.false_ne_true, hplain⟩
      cases ups <;> rfl

/-- Reading one more segment keeps that form. -/
theorem Resolved.resolve {absolute : Bool} {kept : List Text} (h : Resolved absolute kept)
    (hs : '/' ∉ s) : Resolved absolute (resolve absolute kept s) := by
  by_cases hdropped : s = [] ∨ s = ['.']
  · unfold Path.resolve
    rw [if_pos hdropped]
    exact h
  by_cases hdots : s = dots
  · rw [hdots]
    exact h.resolve_dots
  · -- A name is kept on top of the others.
    have hplain : Plain s :=
      ⟨fun h => hdropped (.inl h), fun h => hdropped (.inr h), hdots, hs⟩
    obtain ⟨plain, ups, rfl, hups, hall⟩ := h
    rw [resolve_of_plain absolute _ hplain]
    refine ⟨s :: plain, ups, rfl, hups, fun t ht => ?_⟩
    rcases List.mem_cons.1 ht with rfl | ht
    · exact hplain
    · exact hall t ht

/-- Reading segments one after another keeps the form. -/
theorem Resolved.foldl {absolute : Bool} {kept : List Text} (h : Resolved absolute kept)
    (hss : ∀ s ∈ ss, '/' ∉ s) : Resolved absolute (ss.foldl (Path.resolve absolute) kept) := by
  induction ss generalizing kept with
  | nil => exact h
  | cons s ss ih =>
    exact ih (h.resolve (hss s List.mem_cons_self)) fun t ht => hss t (List.mem_cons_of_mem s ht)

/-- What is left of a path are steps up, and plain segments behind them.
An absolute path has no steps up. -/
theorem cleanSegments_spec (absolute : Bool) (hss : ∀ s ∈ ss, '/' ∉ s) :
    ∃ ups plain, cleanSegments absolute ss = List.replicate ups dots ++ plain ∧
      (absolute = true → ups = 0) ∧ ∀ s ∈ plain, Plain s := by
  obtain ⟨plain, ups, hkept, hups, hplain⟩ := (Resolved.nil absolute).foldl hss
  refine ⟨ups, plain.reverse, ?_, hups, fun s hs => hplain s (List.mem_reverse.1 hs)⟩
  rw [cleanSegments, hkept, List.reverse_append, List.reverse_replicate]

/-- A relative path keeps what an absolute one does, and below that the
steps up that have nothing left to take away. -/
theorem Resolved.resolve_relative {kept : List Text} (h : Resolved true kept) (ups : Nat)
    (s : Text) : ∃ more, Path.resolve false (kept ++ List.replicate ups dots) s =
      Path.resolve true kept s ++ List.replicate more dots := by
  obtain ⟨plain, none, rfl, hnone, hplain⟩ := h
  rw [hnone rfl, List.replicate_zero, List.append_nil]
  unfold Path.resolve
  by_cases hdropped : s = [] ∨ s = ['.']
  · exact ⟨ups, by rw [if_pos hdropped, if_pos hdropped]⟩
  rw [if_neg hdropped, if_neg hdropped]
  by_cases hdots : s = dots
  · rw [if_pos hdots, if_pos hdots]
    cases plain with
    | cons last before =>
      have hlast : last ≠ dots := (hplain last List.mem_cons_self).ne_dots
      rw [List.cons_append]
      dsimp only
      rw [if_pos hlast, if_pos hlast]
      exact ⟨ups, rfl⟩
    | nil =>
      -- Here the two differ: the relative path goes up one more step.
      refine ⟨ups + 1, ?_⟩
      cases ups <;> rfl
  · exact ⟨ups, by rw [if_neg hdots, if_neg hdots, List.cons_append]⟩

/-- Read as relative, segments leave what they leave in an absolute path,
with steps up below it. -/
theorem Resolved.foldl_relative {kept : List Text} (h : Resolved true kept)
    (hss : ∀ s ∈ ss, '/' ∉ s) (ups : Nat) :
    ∃ more, ss.foldl (Path.resolve false) (kept ++ List.replicate ups dots) =
      ss.foldl (Path.resolve true) kept ++ List.replicate more dots := by
  induction ss generalizing kept ups with
  | nil => exact ⟨ups, rfl⟩
  | cons s ss ih =>
    obtain ⟨more, hmore⟩ := h.resolve_relative ups s
    rw [List.foldl_cons, List.foldl_cons, hmore]
    exact ih (h.resolve (hss s List.mem_cons_self)) (fun t ht => hss t (List.mem_cons_of_mem s ht))
      more

/-- Read as a relative path, the same segments leave steps up and then
what they leave as an absolute path. -/
theorem exists_cleanSegments_relative (hss : ∀ s ∈ ss, '/' ∉ s) :
    ∃ ups, cleanSegments false ss = List.replicate ups dots ++ cleanSegments true ss := by
  obtain ⟨ups, hkept⟩ := (Resolved.nil true).foldl_relative hss 0
  rw [List.replicate_zero, List.append_nil] at hkept
  exact ⟨ups, by rw [cleanSegments, hkept, List.reverse_append, List.reverse_replicate,
    cleanSegments]⟩

/-- Plain segments are kept as they are. -/
theorem foldl_resolve_of_plain (absolute : Bool) (kept : List Text) (h : ∀ s ∈ ss, Plain s) :
    ss.foldl (resolve absolute) kept = ss.reverse ++ kept := by
  induction ss generalizing kept with
  | nil => rfl
  | cons s ss ih =>
    rw [List.foldl_cons, resolve_of_plain absolute kept (h s List.mem_cons_self),
      ih _ fun t ht => h t (List.mem_cons_of_mem s ht), List.reverse_cons, List.append_assoc]
    rfl

/-- A clean path with a slash in front is the absolute path with the
segments that are left. -/
theorem rooted_clean {p : Text} (h : cleanSegments (isAbsolute p) (segments p) = ss) (hne : ss ≠ [])
    (hss : ∀ s ∈ ss, s ≠ [] ∧ '/' ∉ s) : rooted (clean p) = absolute ss := by
  obtain ⟨s, ss, rfl⟩ := List.exists_cons_of_ne_nil hne
  obtain ⟨hs, hslash⟩ := hss s List.mem_cons_self
  unfold clean
  dsimp only
  rw [h]
  cases isAbsolute p with
  | true =>
    rw [if_pos rfl, ← slash_ofSegments (List.cons_ne_nil s ss)]
    rfl
  | false =>
    rw [if_neg Bool.false_ne_true, if_neg (ofSegments_cons_ne_nil hs hslash ss),
      rooted_ofSegments hs hslash]

/-- Nothing is taken from an absolute path with plain segments. -/
theorem cleanSegments_absolute (h : ∀ s ∈ ss, Plain s) :
    cleanSegments (isAbsolute (absolute ss)) (segments (absolute ss)) = ss := by
  rw [segments_absolute fun s hs => (h s hs).no_slash, cleanSegments, List.foldl_cons]
  show (ss.foldl (resolve _) []).reverse = ss
  rw [foldl_resolve_of_plain _ [] h, List.append_nil, List.reverse_reverse]

/-- A path of which nothing is left is the root, or the directory
itself. -/
theorem rooted_clean_nil {p : Text} (h : cleanSegments (isAbsolute p) (segments p) = []) :
    rooted (clean p) = absolute [[]] ∨ rooted (clean p) = absolute [['.']] := by
  unfold clean
  dsimp only
  rw [h]
  cases isAbsolute p with
  | true => exact .inl rfl
  | false => exact .inr rfl

/-! ### Parents -/

/-- The base name of an absolute path is its last segment. -/
theorem baseName_absolute (dir : List Text) (h : '/' ∉ last) :
    baseName (absolute (dir ++ [last])) = last := by
  have hall : ∀ c ∈ last.reverse, (c != '/') = true := fun c hc => by
    rw [bne_iff_ne]
    exact fun he => h (he ▸ List.mem_reverse.1 hc)
  rw [baseName, absolute_concat, List.reverse_append, List.reverse_cons, List.append_assoc,
    List.takeWhile_append_of_pos hall]
  show (last.reverse ++ []).reverse = last
  rw [List.append_nil, List.reverse_reverse]

/-- Up to its last slash an absolute path is the one without its last
segment, and that slash. -/
theorem upToLastSlash_absolute (dir : List Text) (h : '/' ∉ last) :
    upToLastSlash (absolute (dir ++ [last])) = absolute dir ++ ['/'] := by
  have hall : ∀ c ∈ last.reverse, (c != '/') = true := fun c hc => by
    rw [bne_iff_ne]
    exact fun he => h (he ▸ List.mem_reverse.1 hc)
  rw [upToLastSlash, absolute_concat, List.reverse_append, List.reverse_cons, List.append_assoc,
    List.dropWhile_append_of_pos hall]
  show ('/' :: (absolute dir).reverse).reverse = _
  rw [List.reverse_cons, List.reverse_reverse]

/-- The parent of an absolute path is what is left of the segments
before the last. -/
theorem parent_eq_cleanSegments (dir : List Text) (h : '/' ∉ last) :
    parent (absolute (dir ++ [last])) =
      '/' :: ofSegments (cleanSegments true (segments (absolute dir ++ ['/']))) := by
  have hslash : '/' ∈ absolute (dir ++ [last]) := by
    rw [absolute_concat]
    exact List.mem_append_right _ List.mem_cons_self
  have habsolute : isAbsolute (absolute dir ++ ['/']) = true := by
    cases dir <;> rfl
  rw [parent, if_pos hslash, upToLastSlash_absolute dir h, clean, habsolute, if_pos rfl]

/-- The parent of an absolute path has the segments before the last. -/
theorem parent_absolute (hdir : ∀ s ∈ dir, Plain s) (h : '/' ∉ last) :
    parent (absolute (dir ++ [last])) = '/' :: ofSegments dir := by
  -- The slash in front and the one behind give an empty segment each, which cleaning drops.
  have hsegments : segments (absolute dir ++ ['/']) = [] :: dir ++ [[]] := by
    have hnil : ∀ s ∈ dir ++ [[]], '/' ∉ s := fun s hs => by
      rcases List.mem_append.1 hs with hs | hs
      · exact (hdir s hs).no_slash
      · rw [List.mem_singleton.1 hs]
        exact List.not_mem_nil
    rw [← absolute_concat, segments_absolute hnil]
    rfl
  have hclean : cleanSegments true ([] :: dir ++ [[]]) = dir := by
    rw [cleanSegments, List.foldl_append, List.foldl_cons]
    show (resolve true (dir.foldl (resolve true) []) []).reverse = dir
    rw [foldl_resolve_of_plain true [] hdir, List.append_nil]
    exact List.reverse_reverse dir
  rw [parent_eq_cleanSegments dir h, hsegments, hclean]

/-- The parent of an absolute path as a directory: a slash instead of
the last segment. -/
theorem asDirectory_ofSegments (hdir : ∀ s ∈ dir, Plain s) :
    asDirectory ('/' :: ofSegments dir) = absolute (dir ++ [[]]) := by
  rcases List.eq_nil_or_concat dir with rfl | ⟨before, s, hconcat⟩
  · rfl
  · rw [List.concat_eq_append] at hconcat
    subst hconcat
    have hs : Plain s := hdir s (List.mem_append_right before List.mem_cons_self)
    -- The last segment is plain, so the path does not end in a slash yet.
    have hends : Text.endsWith (absolute (before ++ [s])) ['/'] = false := by
      obtain ⟨c, cs, heq⟩ := List.exists_cons_of_ne_nil (mt List.reverse_eq_nil_iff.1 hs.ne_nil)
      have hc : '/' ≠ c := fun h => hs.no_slash (List.mem_reverse.1 (heq ▸ h ▸ List.mem_cons_self))
      rw [Text.endsWith, List.isSuffixOf, List.reverse_singleton, absolute_concat,
        List.reverse_append, List.reverse_cons, heq]
      exact Bool.and_eq_false_imp.2 fun hslash => absurd (beq_iff_eq.1 hslash) hc
    rw [slash_ofSegments (by simp), asDirectory, hends, if_neg Bool.false_ne_true,
      absolute_concat (before ++ [s]) []]

/-! ### Empty segments -/

/-- The segments of a path that are not empty. -/
def parts (p : Text) : List Text := (segments p).filter (· ≠ [])

/-- A slash stands between the parts before it and those behind it. -/
theorem parts_append_slash (p q : Text) : parts (p ++ '/' :: q) = parts p ++ parts q := by
  rw [parts, segments, Text.split_append_sep, List.filter_append]
  rfl

/-- The empty path has no parts. -/
@[simp] theorem parts_nil : parts [] = [] := rfl

/-- A slash in front adds no part. -/
@[simp] theorem parts_slash (p : Text) : parts ('/' :: p) = parts p := parts_append_slash [] p

/-- Rooting a path adds no part. -/
@[simp] theorem parts_rooted (p : Text) : parts (rooted p) = parts p := by
  unfold rooted
  split
  · rfl
  · exact parts_slash p

/-- Trimming in front takes no part away. -/
@[simp] theorem parts_trimStart (p : Text) : parts (Text.trimStart isSlash p) = parts p := by
  unfold Text.trimStart
  induction p with
  | nil => rfl
  | cons c p ih =>
    by_cases hc : isSlash c = true
    · have hslash : c = '/' := by simpa [isSlash] using hc
      rw [List.dropWhile_cons_of_pos hc, ih, hslash, parts_slash]
    · rw [List.dropWhile_cons_of_neg hc]

/-- Neither does trimming behind. -/
@[simp] theorem parts_trimEnd (p : Text) : parts (Text.trimEnd isSlash p) = parts p := by
  show parts (p.rdropWhile isSlash) = parts p
  -- The slashes behind a path go one by one, so the induction is from its end.
  induction p using List.reverseRecOn with
  | nil => rfl
  | append_singleton p c ih =>
    by_cases hc : isSlash c = true
    · have hslash : c = '/' := by simpa [isSlash] using hc
      rw [List.rdropWhile_concat_pos _ _ _ hc, ih, hslash, parts_append_slash, parts_nil,
        List.append_nil]
    · rw [List.rdropWhile_concat_neg _ _ _ hc]

/-- Nor does trimming both ends. -/
@[simp] theorem parts_trimSlashes (p : Text) : parts (trimSlashes p) = parts p := by
  rw [trimSlashes, Text.trim, parts_trimEnd, parts_trimStart]

/-- An empty segment is not kept, so it may as well be left out. -/
theorem foldl_resolve_filter (absolute : Bool) (kept ss : List Text) :
    (ss.filter (· ≠ [])).foldl (resolve absolute) kept = ss.foldl (resolve absolute) kept := by
  induction ss generalizing kept with
  | nil => rfl
  | cons s ss ih =>
    by_cases hs : s = []
    · have hkept : resolve absolute kept s = kept := if_pos (.inl hs)
      rw [List.filter_cons_of_neg (by simpa using hs), ih, List.foldl_cons, hkept]
    · rw [List.filter_cons_of_pos (by simpa using hs), List.foldl_cons, ih, List.foldl_cons]

/-- Paths that differ in empty segments only have the same clean form. -/
theorem clean_eq_of_parts {p q : Text} (habsolute : isAbsolute p = isAbsolute q)
    (hparts : parts p = parts q) : clean p = clean q := by
  have hsegments : ∀ absolute, cleanSegments absolute (segments p)
      = cleanSegments absolute (segments q) := fun absolute => by
    have hread := congrArg (List.foldl (resolve absolute) []) hparts
    rw [parts, foldl_resolve_filter, parts, foldl_resolve_filter] at hread
    exact congrArg List.reverse hread
  unfold clean
  dsimp only
  rw [habsolute, hsegments]

end SiteSync.Path
