import SiteSync.Proofs.Path

/-!
# `SiteSync.Proofs.Path.Canonical`: the clean form of a path

A path is followed segment by segment, and two paths may lead to the same
place from everywhere (`destination`). Of all the paths that do, one is
canonical: it goes up first and then down, or down only if it is absolute,
with nothing empty in it. Cleaning finds that path:

- `destination_clean`: a clean path leads where the path leads.
- `canonical_clean`: it is canonical.
- `Canonical.eq_of_destination`: there is no other canonical path that
  leads there.
- `cleans_canonically`: all of it together, with the laws.

The laws of cleaning follow from these three. A clean path is left alone
(`Canonical.clean_eq`), and the front of a path may be cleaned first
(`clean_append_slash`), because the path that is left to clean leads to the
same place. That canonical paths are what they are called is seen in their
segments: they are the paths that `spell` writes of `Straight` segments.
-/

set_option autoImplicit false

namespace SiteSync.Path

variable {ss : List Text} {p q s : Text} {top : Bool}

/-! ### Where a path leads -/

/-- The place that a segment leads to. A place is given by the names on
the way to it from the root, latest first; above the root there is the
root. -/
def enter (place : List Text) (segment : Text) : List Text :=
  if segment = [] ∨ segment = ['.'] then place
  else if segment = dots then place.tail
  else segment :: place

/-- Where a path leads to from some place, or from the root if it is
absolute. -/
def destination (place : List Text) (p : Text) : List Text :=
  (segments p).foldl enter (if isAbsolute p then [] else place)

/-- An empty segment and a dot lead nowhere else. -/
theorem enter_of_dropped (place : List Text) (hs : s = [] ∨ s = ['.']) : enter place s = place :=
  if_pos hs

/-- Two dots lead to the directory above; above the root that is the root.
-/
theorem enter_dots (place : List Text) : enter place dots = place.tail := by
  have hdropped : ¬(dots = [] ∨ dots = ['.']) := by decide
  rw [enter, if_neg hdropped, if_pos rfl]

/-- A name leads to the entry of that name. -/
theorem enter_of_plain (place : List Text) (hs : Plain s) : enter place s = s :: place := by
  rw [enter, if_neg (not_or.2 ⟨hs.ne_nil, hs.ne_dot⟩), if_neg hs.ne_dots]

/-- Where the segments kept so far lead, latest first. -/
def follow (place kept : List Text) : List Text := kept.foldr (fun s here => enter here s) place

/-- The latest segment is followed last. -/
theorem follow_cons (place kept : List Text) (s : Text) :
    follow place (s :: kept) = enter (follow place kept) s := rfl

/-- Reading one more segment leads on from where the segments kept so far
lead. -/
theorem Resolved.follow_resolve {kept place : List Text} (h : Resolved top kept)
    (hplace : top = true → place = []) (s : Text) :
    follow place (Path.resolve top kept s) = enter (follow place kept) s := by
  unfold Path.resolve
  by_cases hdropped : s = [] ∨ s = ['.']
  · rw [if_pos hdropped, enter_of_dropped _ hdropped]
  rw [if_neg hdropped]
  by_cases hdots : s = dots
  · rw [if_pos hdots, hdots, enter_dots]
    obtain ⟨plain, ups, rfl, hups, hplain⟩ := h
    cases plain with
    | cons last before =>
      -- The name that is taken away was entered last.
      have hlast : Plain last := hplain last List.mem_cons_self
      rw [List.cons_append]
      dsimp only
      rw [if_pos hlast.ne_dots, follow_cons, enter_of_plain _ hlast, List.tail_cons]
    | nil =>
      cases top with
      | true =>
        -- At the root there is no way up.
        rw [hups rfl, hplace rfl]
        rfl
      | false => cases ups <;> rfl
  · rw [if_neg hdots, follow_cons]

/-- Reading the rest of a path leads on from there. -/
theorem Resolved.follow_foldl {kept place : List Text} (h : Resolved top kept)
    (hplace : top = true → place = []) (hss : ∀ s ∈ ss, '/' ∉ s) :
    follow place (ss.foldl (Path.resolve top) kept) = ss.foldl enter (follow place kept) := by
  induction ss generalizing kept with
  | nil => rfl
  | cons s ss ih =>
    have hs : '/' ∉ s := hss s List.mem_cons_self
    rw [List.foldl_cons, ih (h.resolve hs) fun t ht => hss t (List.mem_cons_of_mem s ht),
      h.follow_resolve hplace, List.foldl_cons]

/-- Segments lead to the same place as what cleaning leaves of them. -/
theorem foldl_enter_cleanSegments (hss : ∀ s ∈ ss, '/' ∉ s) {place : List Text}
    (hplace : top = true → place = []) :
    (cleanSegments top ss).foldl enter place = ss.foldl enter place := by
  rw [cleanSegments, List.foldl_reverse]
  exact (Resolved.nil top).follow_foldl hplace hss

/-! ### Straight paths -/

/-- Segments that go up first and then down, from the root only down. -/
def Straight (top : Bool) (ss : List Text) : Prop :=
  ∃ ups plain, ss = List.replicate ups dots ++ plain ∧ (top = true → ups = 0) ∧
    ∀ s ∈ plain, Plain s

/-- The path with some segments, absolute or not. -/
def spell (top : Bool) (ss : List Text) : Text :=
  if top then '/' :: ofSegments ss else if ofSegments ss = [] then ['.'] else ofSegments ss

/-- Cleaning writes down the segments that are left. -/
theorem clean_eq_spell (p : Text) :
    clean p = spell (isAbsolute p) (cleanSegments (isAbsolute p) (segments p)) := rfl

/-- The segments that cleaning leaves are straight. -/
theorem straight_cleanSegments (top : Bool) (p : Text) :
    Straight top (cleanSegments top (segments p)) :=
  cleanSegments_spec top fun _ hs => Text.not_mem_of_mem_split hs

namespace Straight

/-- A straight segment is not empty and no dot, and has no slash in it. -/
theorem of_mem (h : Straight top ss) (hs : s ∈ ss) : s ≠ [] ∧ s ≠ ['.'] ∧ '/' ∉ s := by
  obtain ⟨ups, plain, rfl, -, hplain⟩ := h
  rcases List.mem_append.1 hs with hs | hs
  · rw [List.eq_of_mem_replicate hs]
    decide
  · exact ⟨(hplain s hs).ne_nil, (hplain s hs).ne_dot, (hplain s hs).no_slash⟩

/-- A path with segments of its own is written with nothing else. -/
theorem spell_of_ne_nil (h : Straight top ss) (hne : ss ≠ []) :
    spell top ss = if top then '/' :: ofSegments ss else ofSegments ss := by
  obtain ⟨s, ss, rfl⟩ := List.exists_cons_of_ne_nil hne
  obtain ⟨hs, -, hslash⟩ := h.of_mem List.mem_cons_self
  rw [spell, if_neg (ofSegments_cons_ne_nil hs hslash ss)]

/-- Straight segments are written down as an absolute path if that is
asked for. -/
theorem isAbsolute_spell (h : Straight top ss) : isAbsolute (spell top ss) = top := by
  cases ss with
  | nil => cases top <;> rfl
  | cons s ss =>
    obtain ⟨hs, -, hslash⟩ := h.of_mem List.mem_cons_self
    rw [h.spell_of_ne_nil (List.cons_ne_nil s ss)]
    cases top with
    | true => rfl
    | false =>
      rw [if_neg Bool.false_ne_true]
      exact isAbsolute_ofSegments hs hslash ss

/-- The segments of a straight path: besides its own there is the empty
one in front of an absolute path, and one that stands for no segments at
all. -/
theorem segments_spell (h : Straight top ss) :
    segments (spell top ss) =
      if ss = [] then if top then [[], []] else [['.']]
      else if top then [] :: ss else ss := by
  by_cases hnil : ss = []
  · rw [hnil]
    cases top <;> rfl
  · have hsegments : segments (ofSegments ss) = ss :=
      Text.split_join hnil fun s hs => (h.of_mem hs).2.2
    rw [if_neg hnil, h.spell_of_ne_nil hnil]
    cases top with
    | true =>
      have hslash : segments ('/' :: ofSegments ss) = [] :: segments (ofSegments ss) :=
        Text.split_append_sep [] (ofSegments ss)
      rw [if_pos rfl, if_pos rfl, hslash, hsegments]
    | false => rw [if_neg Bool.false_ne_true, if_neg Bool.false_ne_true, hsegments]

/-- What is written down leads where its segments lead. -/
theorem destination_spell (h : Straight top ss) (place : List Text) :
    destination place (spell top ss) = ss.foldl enter (if top then [] else place) := by
  rw [destination, h.isAbsolute_spell, h.segments_spell]
  by_cases hnil : ss = []
  · rw [hnil]
    cases top <;> rfl
  · rw [if_neg hnil]
    cases top <;> rfl

end Straight

/-- As many steps up take as many names off the place. -/
theorem foldl_enter_replicate_dots (ups : Nat) (place : List Text) :
    (List.replicate ups dots).foldl enter place = place.drop ups := by
  induction ups generalizing place with
  | zero => rfl
  | succ ups ih =>
    rw [List.replicate_succ, List.foldl_cons, ih, enter_dots, List.drop_tail]

/-- Names lead to the entry below, the last of them on top. -/
theorem foldl_enter_of_plain (hss : ∀ s ∈ ss, Plain s) (place : List Text) :
    ss.foldl enter place = ss.reverse ++ place := by
  induction ss generalizing place with
  | nil => rfl
  | cons s ss ih =>
    rw [List.foldl_cons, ih fun t ht => hss t (List.mem_cons_of_mem s ht),
      enter_of_plain place (hss s List.mem_cons_self), List.reverse_cons, List.append_assoc]
    rfl

/-- Straight paths that lead to the same place from everywhere are the
same. -/
theorem Straight.eq_of_foldl_enter {ts : List Text} (hs : Straight top ss) (ht : Straight top ts)
    (h : ∀ place, (top = true → place = []) → ss.foldl enter place = ts.foldl enter place) :
    ss = ts := by
  obtain ⟨ups, plain, rfl, hups, hplain⟩ := hs
  obtain ⟨ups', plain', rfl, hups', hplain'⟩ := ht
  have hplace : ∀ place, (top = true → place = []) →
      plain.reverse ++ place.drop ups = plain'.reverse ++ place.drop ups' := by
    intro place hroot
    have hsame := h place hroot
    rwa [List.foldl_append, List.foldl_append, foldl_enter_replicate_dots,
      foldl_enter_replicate_dots, foldl_enter_of_plain hplain, foldl_enter_of_plain hplain']
      at hsame
  -- From the root only the names count.
  have hnames : plain = plain' := by
    have hroot := hplace [] fun _ => rfl
    rw [List.drop_nil, List.drop_nil, List.append_nil, List.append_nil] at hroot
    exact List.reverse_injective hroot
  have hsteps : ups = ups' := by
    cases top with
    | true => rw [hups rfl, hups' rfl]
    | false =>
      -- From a place that is deep enough the steps up can be counted.
      have hdeep := congrArg List.length
        (hplace (List.replicate (ups + ups') dots) fun h => absurd h Bool.false_ne_true)
      simp only [hnames, List.length_append, List.length_drop, List.length_replicate] at hdeep
      omega
  rw [hnames, hsteps]

/-! ### Canonical paths -/

/-- An empty segment behind the first one stands between two slashes, or
behind the last one. -/
theorem nil_mem_tail_segments_iff :
    [] ∈ (segments p).tail ↔ ['/', '/'] <:+: p ∨ ['/'] <:+ p := by
  constructor
  · intro h
    -- The empty segment is the last one, or there is a slash behind it as well as before.
    obtain ⟨before, behind, htail⟩ := List.append_of_mem h
    obtain ⟨first, rest, hcons⟩ := List.exists_cons_of_ne_nil (Text.split_ne_nil '/' p)
    have hrest : rest = before ++ [] :: behind := by
      rw [← htail, segments, hcons, List.tail_cons]
    have hp : p = ofSegments (first :: before) ++ '/' :: absolute behind := by
      have hjoin := Text.join_split '/' p
      rw [hcons, hrest] at hjoin
      exact hjoin.symm.trans (ofSegments_append (List.cons_ne_nil first before) ([] :: behind))
    cases behind with
    | nil => exact .inr ⟨_, hp.symm⟩
    | cons s ss =>
      refine .inl ⟨ofSegments (first :: before), s ++ absolute ss, ?_⟩
      rw [hp, absolute_cons, List.append_assoc]
      rfl
  · -- Before the empty segment there is the text up to the slash.
    have hmem : ∀ front rest : Text, [] ∈ segments rest →
        [] ∈ (segments (front ++ '/' :: rest)).tail := by
      intro front rest hrest
      rw [segments, Text.split_append_sep,
        List.tail_append_of_ne_nil (Text.split_ne_nil '/' front)]
      exact List.mem_append_right _ hrest
    rintro (⟨front, rest, rfl⟩ | ⟨front, rfl⟩)
    · rw [List.append_assoc]
      refine hmem front ('/' :: rest) ?_
      rw [segments, Text.split, if_pos rfl]
      exact List.mem_cons_self
    · exact hmem front [] List.mem_cons_self

/-- A path in its simplest form. -/
structure Canonical (p : Text) : Prop where
  /-- It is not empty. -/
  ne_nil : p ≠ []
  /-- No segment between two slashes is empty. -/
  no_empty : ¬['/', '/'] <:+: p
  /-- No slash is at the end, but for the root. -/
  no_trailing : ['/'] <:+ p → p = ['/']
  /-- `.` is not a segment of a longer path. -/
  no_dot : ['.'] ∈ segments p → p = ['.']
  /-- A step up occurs in a relative path, with nothing but steps up before it. -/
  climbs_first : ∀ before behind, segments p = before ++ dots :: behind →
    isAbsolute p = false ∧ ∀ s ∈ before, s = dots

/-- Behind the first segment only the root has an empty one. -/
theorem Canonical.eq_slash (h : Canonical p) (hnil : [] ∈ (segments p).tail) : p = ['/'] := by
  rcases nil_mem_tail_segments_iff.1 hnil with hdouble | htrailing
  · exact absurd hdouble h.no_empty
  · exact h.no_trailing htrailing

namespace Straight

/-- An empty segment behind the first one is found only in the root. -/
theorem eq_slash (h : Straight top ss) (hnil : [] ∈ (segments (spell top ss)).tail) :
    spell top ss = ['/'] := by
  have hss : [] ∉ ss := fun hmem => (h.of_mem hmem).1 rfl
  rw [h.segments_spell] at hnil
  by_cases hempty : ss = []
  · rw [hempty] at hnil ⊢
    cases top with
    | true => rfl
    | false => cases hnil
  · rw [if_neg hempty] at hnil
    cases top with
    | true => exact absurd hnil hss
    | false => exact absurd (List.mem_of_mem_tail hnil) hss

/-- A dot is found only in the path of the place itself. -/
theorem eq_dot (h : Straight top ss) (hdot : ['.'] ∈ segments (spell top ss)) :
    spell top ss = ['.'] := by
  have hss : ['.'] ∉ ss := fun hmem => (h.of_mem hmem).2.1 rfl
  rw [h.segments_spell] at hdot
  by_cases hempty : ss = []
  · rw [hempty] at hdot ⊢
    cases top with
    | true => exact absurd hdot (by decide)
    | false => rfl
  · rw [if_neg hempty] at hdot
    cases top with
    | true =>
      rcases List.mem_cons.1 hdot with heq | hmem
      · cases heq
      · exact absurd hmem hss
    | false => exact absurd hdot hss

/-- A straight path goes up before it goes down. -/
theorem climbs_first (h : Straight top ss) {before behind : List Text}
    (hsegments : segments (spell top ss) = before ++ dots :: behind) :
    top = false ∧ ∀ s ∈ before, s = dots := by
  have hdots : dots ∈ segments (spell top ss) := by
    rw [hsegments]
    exact List.mem_append_right _ List.mem_cons_self
  rw [h.segments_spell] at hdots hsegments
  by_cases hempty : ss = []
  · rw [hempty] at hdots
    cases top <;> exact absurd hdots (by decide)
  rw [if_neg hempty] at hdots hsegments
  obtain ⟨ups, plain, rfl, hups, hplain⟩ := h
  have hnames : dots ∉ plain := fun hmem => (hplain dots hmem).ne_dots rfl
  cases top with
  | true =>
    rw [hups rfl] at hdots
    rcases List.mem_cons.1 hdots with heq | hmem
    · cases heq
    · exact absurd hmem hnames
  | false =>
    refine ⟨rfl, fun s hs => ?_⟩
    -- The step up is not among the names, so what is before it is not past the steps up.
    rcases List.append_eq_append_iff.1 hsegments with ⟨more, -, hmore⟩ | ⟨more, hmore, -⟩
    · refine absurd ?_ hnames
      rw [hmore]
      exact List.mem_append_right _ List.mem_cons_self
    · have hup : s ∈ List.replicate ups dots := by
        rw [hmore]
        exact List.mem_append_left _ hs
      exact List.eq_of_mem_replicate hup

/-- What straight segments are written down as is canonical. -/
theorem canonical_spell (h : Straight top ss) : Canonical (spell top ss) where
  ne_nil := by
    unfold spell
    split
    · exact List.cons_ne_nil _ _
    · split
      · exact List.cons_ne_nil _ _
      · assumption
  no_empty := by
    intro hdouble
    have hroot := h.eq_slash (nil_mem_tail_segments_iff.2 (.inl hdouble))
    rw [hroot] at hdouble
    exact absurd hdouble.length_le (by decide)
  no_trailing htrailing := h.eq_slash (nil_mem_tail_segments_iff.2 (.inr htrailing))
  no_dot := h.eq_dot
  climbs_first before behind hsegments := by
    rw [h.isAbsolute_spell]
    exact h.climbs_first hsegments

end Straight

/-- Where nothing but steps up stands before a step up, they come first. -/
theorem exists_replicate_append
    (h : ∀ before behind, ss = before ++ dots :: behind → ∀ s ∈ before, s = dots) :
    ∃ ups plain, ss = List.replicate ups dots ++ plain ∧ dots ∉ plain := by
  induction ss with
  | nil => exact ⟨0, [], rfl, List.not_mem_nil⟩
  | cons s ss ih =>
    by_cases hs : s = dots
    · obtain ⟨ups, plain, hss, hplain⟩ := ih fun before behind hsplit t ht =>
        h (s :: before) behind (by rw [hsplit, List.cons_append]) t (List.mem_cons_of_mem s ht)
      exact ⟨ups + 1, plain, by rw [hs, hss, List.replicate_succ, List.cons_append], hplain⟩
    · -- ss, rfl, fun hmem => ?_⟩ :: A step up behind a name would have that name before it.
      refine ⟨0, s :: ss, rfl, fun hmem => ?_⟩
      rcases List.mem_cons.1 hmem with heq | hmem
      · exact hs heq.symm
      · obtain ⟨before, behind, hsplit⟩ := List.append_of_mem hmem
        exact hs (h (s :: before) behind (by rw [hsplit, List.cons_append]) s List.mem_cons_self)

namespace Canonical

/-- Behind its slash a canonical path has names only, unless it is the
root. -/
theorem straight_of_slash {rest : Text} (h : Canonical ('/' :: rest)) (hne : rest ≠ []) :
    Straight true (segments rest) := by
  have hsegments : segments ('/' :: rest) = [] :: segments rest := Text.split_append_sep [] rest
  refine ⟨0, segments rest, rfl, fun _ => rfl, fun s hs => ?_⟩
  have hmem : s ∈ segments ('/' :: rest) := by
    rw [hsegments]
    exact List.mem_cons_of_mem _ hs
  refine ⟨?_, ?_, ?_, Text.not_mem_of_mem_split hs⟩
  · -- An empty segment would be all that there is.
    rintro rfl
    have hroot : '/' :: rest = ['/'] := h.eq_slash (by rwa [hsegments])
    exact hne (List.tail_eq_of_cons_eq hroot)
  · rintro rfl
    exact absurd (List.head_eq_of_cons_eq (h.no_dot hmem)) (by decide)
  · rintro rfl
    obtain ⟨before, behind, hsplit⟩ := List.append_of_mem hmem
    cases (h.climbs_first before behind hsplit).1

/-- A relative path that is canonical has steps up and names only, unless
it is `.`. -/
theorem straight_segments (h : Canonical p) (hrelative : isAbsolute p = false) (hne : p ≠ ['.']) :
    Straight false (segments p) := by
  obtain ⟨ups, plain, hsegments, hdots⟩ :=
    exists_replicate_append fun before behind hsplit => (h.climbs_first before behind hsplit).2
  refine ⟨ups, plain, hsegments, fun h => absurd h Bool.false_ne_true, fun s hs => ?_⟩
  have hmem : s ∈ segments p := by
    rw [hsegments]
    exact List.mem_append_right _ hs
  refine ⟨?_, ?_, fun heq => hdots (heq ▸ hs), Text.not_mem_of_mem_split hmem⟩
  · rintro rfl
    -- An empty segment is not the first, and behind the first only the root has one.
    obtain ⟨first, rest, hcons⟩ := List.exists_cons_of_ne_nil (Text.split_ne_nil '/' p)
    rw [segments, hcons] at hmem
    rcases List.mem_cons.1 hmem with heq | hrest
    · exact h.ne_nil (eq_nil_of_segments (by simp [hrelative]) (heq ▸ hcons))
    · have hroot : p = ['/'] := h.eq_slash (by rwa [segments, hcons])
      rw [hroot] at hrelative
      cases hrelative
  · rintro rfl
    exact hne (h.no_dot hmem)

/-- The canonical paths are the straight ones. -/
theorem exists_spell (h : Canonical p) :
    ∃ ss, Straight (isAbsolute p) ss ∧ p = spell (isAbsolute p) ss := by
  have hnothing : ∀ top, Straight top [] := fun top =>
    ⟨0, [], rfl, fun _ => rfl, fun _ hs => nomatch hs⟩
  cases habsolute : isAbsolute p with
  | true =>
    obtain ⟨rest, rfl⟩ := isAbsolute_iff.1 habsolute
    by_cases hroot : rest = []
    · exact ⟨[], hnothing true, by rw [hroot]; rfl⟩
    · refine ⟨segments rest, h.straight_of_slash hroot, ?_⟩
      rw [spell, if_pos rfl, ofSegments, segments, Text.join_split]
  | false =>
    by_cases hdot : p = ['.']
    · exact ⟨[], hnothing false, hdot⟩
    · refine ⟨segments p, h.straight_segments habsolute hdot, ?_⟩
      have hjoin : ofSegments (segments p) = p := Text.join_split '/' p
      rw [spell, if_neg Bool.false_ne_true, hjoin, if_neg h.ne_nil]

/-- Only one canonical path leads where a path leads. -/
theorem eq_of_destination (hp : Canonical p) (hq : Canonical q)
    (habsolute : isAbsolute p = isAbsolute q)
    (h : ∀ place, destination place p = destination place q) : p = q := by
  obtain ⟨ss, hss, hspell⟩ := hp.exists_spell
  obtain ⟨ts, hts, hspell'⟩ := hq.exists_spell
  rw [← habsolute] at hts hspell'
  have heq : ss = ts := by
    refine hss.eq_of_foldl_enter hts fun place hroot => ?_
    -- An absolute path starts at the root wherever it is followed.
    have hstart : (if isAbsolute p then [] else place) = place := by
      split
      case isTrue hp => exact (hroot hp).symm
      case isFalse => rfl
    have hsame := h place
    rw [hspell, hspell', hss.destination_spell, hts.destination_spell, hstart] at hsame
    exact hsame
  rw [hspell, hspell', heq]

end Canonical

/-! ### Cleaning -/

/-- A clean path is absolute if the path was. -/
theorem isAbsolute_clean (p : Text) : isAbsolute (clean p) = isAbsolute p :=
  (straight_cleanSegments _ p).isAbsolute_spell

/-- A clean path is canonical. -/
theorem canonical_clean (p : Text) : Canonical (clean p) :=
  (straight_cleanSegments _ p).canonical_spell

/-- A clean path leads where the path leads. -/
theorem destination_clean (place : List Text) (p : Text) :
    destination place (clean p) = destination place p := by
  rw [clean_eq_spell, (straight_cleanSegments _ p).destination_spell, destination]
  refine foldl_enter_cleanSegments (fun s hs => Text.not_mem_of_mem_split hs) fun h => ?_
  rw [h, if_pos rfl]

/-- There is nothing to clean in a canonical path. -/
theorem Canonical.clean_eq (h : Canonical p) : clean p = p :=
  (canonical_clean p).eq_of_destination h (isAbsolute_clean p) fun place => destination_clean place p

/-- The canonical paths are those that cleaning leaves as they are. -/
theorem clean_eq_self_iff : clean p = p ↔ Canonical p :=
  ⟨fun h => h ▸ canonical_clean p, Canonical.clean_eq⟩

instance (p : Text) : Decidable (Canonical p) := decidable_of_iff _ clean_eq_self_iff

/-- What is put behind a path does not make it absolute. -/
theorem isAbsolute_append_slash (hne : p ≠ []) (rest : Text) :
    isAbsolute (p ++ '/' :: rest) = isAbsolute p := by
  obtain ⟨c, cs, rfl⟩ := List.exists_cons_of_ne_nil hne
  by_cases hc : c = '/'
  · rw [hc]
    rfl
  · have hrelative : ∀ t, isAbsolute (c :: t) = false := fun t => by simp [isAbsolute, hc]
    rw [List.cons_append, hrelative, hrelative]

/-- Behind a slash the way goes on from where the front has led. -/
theorem destination_append_slash (hne : p ≠ []) (rest : Text) (place : List Text) :
    destination place (p ++ '/' :: rest) = (segments rest).foldl enter (destination place p) := by
  rw [destination, isAbsolute_append_slash hne, segments, Text.split_append_sep, List.foldl_append]
  rfl

/-- The front of a path may be cleaned before the rest is read. -/
theorem clean_append_slash (hne : p ≠ []) (rest : Text) :
    clean (p ++ '/' :: rest) = clean (clean p ++ '/' :: rest) := by
  have hclean : clean p ≠ [] := (canonical_clean p).ne_nil
  refine (canonical_clean _).eq_of_destination (canonical_clean _) ?_ fun place => ?_
  · rw [isAbsolute_clean, isAbsolute_clean, isAbsolute_append_slash hne,
      isAbsolute_append_slash hclean, isAbsolute_clean]
  · rw [destination_clean, destination_clean, destination_append_slash hne,
      destination_append_slash hclean, destination_clean]

/-- Cleaning finds the one canonical path that leads where a path leads,
absolute if the path is. So it changes nothing in a clean path, and the
front of a path may be cleaned first. -/
theorem cleans_canonically (p : Text) :
    isAbsolute (clean p) = isAbsolute p ∧ Canonical (clean p) ∧
      (∀ place, destination place (clean p) = destination place p) ∧
      (∀ q, Canonical q → isAbsolute q = isAbsolute p →
        (∀ place, destination place q = destination place p) → q = clean p) ∧
      clean (clean p) = clean p ∧
      (p ≠ [] → ∀ rest, clean (p ++ '/' :: rest) = clean (clean p ++ '/' :: rest)) := by
  refine ⟨isAbsolute_clean p, canonical_clean p, fun place => destination_clean place p,
    fun q hq habsolute hleads => ?_, (canonical_clean p).clean_eq,
    fun hne rest => clean_append_slash hne rest⟩
  refine hq.eq_of_destination (canonical_clean p) ?_ fun place => ?_
  · rw [habsolute, isAbsolute_clean]
  · rw [hleads, destination_clean]

/-- A relative path with slashes and dots in it that goes further up than
down. -/
theorem cleans_canonically_sample :
    let p := "a//./b/../../../c/".toList
    let q := "../c".toList
    p ≠ [] ∧ Canonical q ∧ isAbsolute q = isAbsolute p ∧
      (∀ place, destination place q = destination place p) ∧ q = clean p ∧
      clean (p ++ "/../d".toList) = clean (clean p ++ "/../d".toList) := by
  intro p q
  have hne : p ≠ [] := by decide
  have hq : Canonical q := by decide
  have hleads : ∀ place, destination place q = destination place p := fun _ => rfl
  obtain ⟨-, -, -, hunique, -, hfront⟩ := cleans_canonically p
  exact ⟨hne, hq, rfl, hleads, hunique q hq rfl hleads, hfront hne _⟩

end SiteSync.Path
