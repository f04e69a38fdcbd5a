import Mathlib.Data.List.Permutation
import SiteSync.Proofs.Path
import SiteSync.Proofs.Pattern.Meaning
import SiteSync.WalkFilter

/-!
# `SiteSync.Proofs.WalkFilter`: the files that a filter lets through

A filter looks at the path of a file and at what is before each of its
slashes (`accepts_iff`). With the patterns that it has by default that
comes down to the segments of the path: a file takes part unless it is
named `.DS_Store` or the name of a directory above it starts with a dot.

Both patterns match at the start of a segment and up to the end of the
text, so they look at the last segment of what they are given:

- `isMatch_atSegmentStart_iff`: such a pattern, whatever it is.
- `skipsFile_standard_iff`, `skipsDir_standard_iff`: the two patterns.
- `accepts_by_default_iff`: the filter.
-/

set_option autoImplicit false

namespace SiteSync

/-! ### Patterns on the last segment -/

namespace Pattern.Expr

variable {e : Expr} {L : Text → Prop} {p w : Text} {s : CharClass}

/-- From the start of a segment on, and with the slash before it. -/
def atSegmentStart (e : Expr) : Expr := .seq (.alt (.anchor .textStart) (.set (.ofChar '/'))) e

/-- A text, and something behind it. -/
def literally (t : Text) (e : Expr) : Expr := t.foldr (fun c e => .seq (.set (.ofChar c)) e) e

/-- The end of the text. -/
def textEnd : Expr := .anchor .textEnd

/-- An expression that matches up to the end of the text, wherever it
starts: there it matches the texts that `L` is true of. -/
structure MatchesToEnd (e : Expr) (L : Text → Prop) : Prop where
  /-- Its repetitions can be met. -/
  feasible : Feasible e
  /-- What it matches. -/
  matches_iff : ∀ {before w after}, Matches e before w after ↔ after = none ∧ L w

/-- The same texts, said in another way. -/
theorem MatchesToEnd.congr {L' : Text → Prop} (h : MatchesToEnd e L) (hL : ∀ w, L w ↔ L' w) :
    MatchesToEnd e L' where
  feasible := h.feasible
  matches_iff := h.matches_iff.trans (and_congr_right fun _ => hL _)

/-- At the end of the text only the empty text is left. -/
theorem matchesToEnd_textEnd : MatchesToEnd textEnd (· = []) where
  feasible := trivial
  matches_iff := by
    intro before w after
    rw [textEnd, Matches, Anchor.holds, Option.isNone_iff_eq_none]
    exact and_comm

/-- A class, and something behind it. -/
theorem MatchesToEnd.set_seq (h : MatchesToEnd e L) :
    MatchesToEnd (.seq (.set s) e) fun w =>
      ∃ c v, w = c :: v ∧ s.contains c.toNat = true ∧ L v where
  feasible := ⟨trivial, h.feasible⟩
  matches_iff := by
    intro before w after
    constructor
    · rintro ⟨u, v, rfl, ⟨c, rfl, hc⟩, hrest⟩
      obtain ⟨rfl, hv⟩ := h.matches_iff.1 hrest
      exact ⟨rfl, c, v, rfl, hc, hv⟩
    · rintro ⟨rfl, c, v, rfl, hc, hv⟩
      exact ⟨[c], v, rfl, ⟨c, rfl, hc⟩, h.matches_iff.2 ⟨rfl, hv⟩⟩

/-- A class as often as one likes, and something behind it. -/
theorem MatchesToEnd.many_seq (h : MatchesToEnd e L) :
    MatchesToEnd (.seq (.repeated 0 none (.set s)) e) fun w =>
      ∃ u v, w = u ++ v ∧ (∀ c ∈ u, s.contains c.toNat = true) ∧ L v where
  feasible := ⟨⟨nofun, trivial⟩, h.feasible⟩
  matches_iff := by
    intro before w after
    constructor
    · rintro ⟨u, v, rfl, hmany, hrest⟩
      obtain ⟨rfl, hv⟩ := h.matches_iff.1 hrest
      exact ⟨rfl, u, v, rfl, matches_many_iff.1 hmany, hv⟩
    · rintro ⟨rfl, u, v, rfl, hmany, hv⟩
      exact ⟨u, v, rfl, matches_many_iff.2 hmany, h.matches_iff.2 ⟨rfl, hv⟩⟩

/-- The class of a character has that one in it. -/
theorem contains_ofChar_iff {c d : Char} :
    (CharClass.ofChar c).contains d.toNat = true ↔ d = c := by
  rw [CharClass.ofChar, CharClass.contains_single, decide_eq_true_iff, Char.toNat_inj]

/-- A text, and something behind it. -/
theorem MatchesToEnd.literally (h : MatchesToEnd e L) (t : Text) :
    MatchesToEnd (literally t e) fun w => ∃ v, w = t ++ v ∧ L v := by
  induction t with
  | nil => exact h.congr fun w => by simp
  | cons c t ih =>
    refine ⟨ih.set_seq.feasible, ih.set_seq.matches_iff.trans (and_congr_right fun _ => ⟨?_, ?_⟩)⟩
    · rintro ⟨d, v, rfl, hd, u, rfl, hu⟩
      exact ⟨u, by rw [contains_ofChar_iff.1 hd, List.cons_append], hu⟩
    · rintro ⟨v, rfl, hv⟩
      exact ⟨c, t ++ v, rfl, contains_ofChar_iff.2 rfl, v, rfl, hv⟩

/-- A pattern from the start of a segment to the end of the text looks at
what is behind a slash, or at all of the text. -/
theorem isMatch_atSegmentStart_iff (h : MatchesToEnd e L) :
    (atSegmentStart e).isMatch p = true ↔ L p ∨ ∃ front t, p = front ++ '/' :: t ∧ L t := by
  have hfeasible : Feasible (atSegmentStart e) := ⟨⟨trivial, trivial⟩, h.feasible⟩
  rw [isMatch_iff hfeasible]
  constructor
  · rintro ⟨l, u, r, rfl, x, v, rfl, hstart, hrest⟩
    obtain ⟨hnone, hv⟩ := h.matches_iff.1 hrest
    obtain rfl : r = [] := ahead_eq_none_iff.1 hnone
    rw [List.append_nil]
    rcases hstart with ⟨rfl, hl⟩ | ⟨c, rfl, hc⟩
    · obtain rfl : l = [] := behind_eq_none_iff.1 (Option.isNone_iff_eq_none.1 hl)
      exact .inl hv
    · rw [contains_ofChar_iff.1 hc]
      exact .inr ⟨l, v, rfl, hv⟩
  · rintro (hp | ⟨front, t, rfl, ht⟩)
    · exact ⟨[], p, [], by rw [List.append_nil, List.nil_append], [], p, rfl, .inl ⟨rfl, rfl⟩,
        h.matches_iff.2 ⟨rfl, hp⟩⟩
    · exact ⟨front, '/' :: t, [], by rw [List.append_nil], ['/'], t, rfl,
        .inr ⟨'/', rfl, contains_ofChar_iff.2 rfl⟩, h.matches_iff.2 ⟨rfl, ht⟩⟩

/-- If it matches nothing with a slash in it, such a pattern looks at the
last segment. -/
theorem isMatch_atSegmentStart_iff_last (h : MatchesToEnd e fun t => '/' ∉ t ∧ L t) :
    (atSegmentStart e).isMatch p = true ↔ ∃ t, (Path.segments p).getLast? = some t ∧ L t := by
  rw [isMatch_atSegmentStart_iff h]
  constructor
  · rintro (⟨hslash, hp⟩ | ⟨front, t, rfl, hslash, ht⟩)
    · exact ⟨p, Path.getLast?_segments_iff.2 ⟨hslash, .inl rfl⟩, hp⟩
    · exact ⟨t, Path.getLast?_segments_iff.2 ⟨hslash, .inr ⟨front, rfl⟩⟩, ht⟩
  · rintro ⟨t, hlast, ht⟩
    obtain ⟨hslash, rfl | ⟨front, rfl⟩⟩ := Path.getLast?_segments_iff.1 hlast
    · exact .inl ⟨hslash, ht⟩
    · exact .inr ⟨front, t, rfl, hslash, ht⟩

end Pattern.Expr

/-! ### Reading a pattern -/

/-- A pattern that is read, and neither nested too deeply nor too large. -/
theorem Pattern.parse_of_run {t : Text} {e : Pattern.Expr} {depth : Nat}
    (hread : Pattern.Reader.run t.length { rest := t } = .ok { expr := e, depth := depth })
    (hdepth : depth ≤ Pattern.depthLimit) (hsize : e.isTooLarge = false) :
    Pattern.parse t = .ok e := by
  have hshallow : ¬Pattern.depthLimit < depth := Nat.not_lt.2 hdepth
  rw [Pattern.parse, hread]
  show (do
    if Pattern.depthLimit < depth then throw .tooDeep
    if e.isTooLarge then throw .tooLarge
    pure e : Except Pattern.Error Pattern.Expr) = .ok e
  rw [if_neg hshallow, hsize]
  rfl

namespace WalkFilter

/-! ### What a filter looks at -/

/-- The induction is on what has not been looked at yet: each slash in it
ends an ancestor, together with all that came before. -/
theorem mem_ancestors_go {before path a : Text} :
    a ∈ ancestors.go before path ↔
      ∃ front rest, path = front ++ '/' :: rest ∧ a = before.reverse ++ front := by
  induction path generalizing before with
  | nil =>
    refine iff_of_false List.not_mem_nil ?_
    rintro ⟨front, rest, h, -⟩
    cases front <;> cases h
  | cons c path ih =>
    rw [ancestors.go]
    constructor
    · intro h
      split at h
      case isTrue hc =>
        rcases List.mem_cons.1 h with rfl | h
        · exact ⟨[], path, by rw [hc]; rfl, (List.append_nil _).symm⟩
        · obtain ⟨front, rest, rfl, rfl⟩ := ih.1 h
          exact ⟨c :: front, rest, rfl, by rw [List.reverse_cons, List.append_assoc]; rfl⟩
      case isFalse =>
        obtain ⟨front, rest, rfl, rfl⟩ := ih.1 h
        exact ⟨c :: front, rest, rfl, by rw [List.reverse_cons, List.append_assoc]; rfl⟩
    · rintro ⟨front, rest, h, rfl⟩
      cases front with
      | nil =>
        obtain ⟨rfl, rfl⟩ := List.cons.inj h
        rw [if_pos rfl, List.append_nil]
        exact List.mem_cons_self
      | cons d front =>
        obtain ⟨rfl, rfl⟩ := List.cons.inj h
        have hmem : before.reverse ++ c :: front ∈
            ancestors.go (c :: before) (front ++ '/' :: rest) :=
          ih.2 ⟨front, rest, rfl, by rw [List.reverse_cons, List.append_assoc]; rfl⟩
        split
        case isTrue => exact List.mem_cons_of_mem _ hmem
        case isFalse => exact hmem

/-- The directories above a path are what comes before each of its
slashes. -/
theorem mem_ancestors {path a : Text} : a ∈ ancestors path ↔ ∃ rest, path = a ++ '/' :: rest := by
  rw [ancestors, mem_ancestors_go]
  constructor
  · rintro ⟨front, rest, rfl, rfl⟩
    exact ⟨rest, rfl⟩
  · rintro ⟨rest, rfl⟩
    exact ⟨a, rest, rfl, rfl⟩

/-- The filter accepts a path when it skips neither the file nor any
directory above it. -/
theorem accepts_iff {filter : WalkFilter} {path : Text} :
    filter.accepts path = true ↔
      filter.skipsFile path = false ∧
        ∀ a rest, path = a ++ '/' :: rest → filter.skipsDir a = false := by
  rw [accepts, Bool.and_eq_true, Bool.not_eq_true', List.all_eq_true]
  refine and_congr_right fun _ => ⟨fun h a rest hpath => ?_, fun h a ha => ?_⟩
  · have hskip := h a (mem_ancestors.2 ⟨rest, hpath⟩)
    rwa [Bool.not_eq_true'] at hskip
  · obtain ⟨rest, hpath⟩ := mem_ancestors.1 ha
    rw [h a rest hpath]
    rfl

/-! ### The filter by default -/

open Pattern

/-- The name of the files that are skipped by default. -/
def skippedName : Text := ".DS_Store".toList

/-- The filter by default. -/
def standard : WalkFilter where
  skipFiles := .atSegmentStart (.literally skippedName .textEnd)
  skipDirs := .atSegmentStart
    (.literally ['.'] (.seq (.repeated 0 none (.set (.negate (.ofChar '/')))) .textEnd))

/-- The text of the pattern is read as the filter has it. -/
theorem parse_defaultSkipFiles : Pattern.parse defaultSkipFiles = .ok standard.skipFiles :=
  parse_of_run rfl (by decide) (by cbv)

/-- The class of all characters but the slash takes many states. -/
theorem classSize_noSlash : classSize (.negate (.ofChar '/')) = 1000 := by
  have hranges : (CharClass.negate (.ofChar '/')).toRanges = [(0, 46), (48, 0x10FFFF)] := by cbv
  rw [classSize, hranges]
  decide

/-- The other pattern is not too large to be compiled, although its class
takes many states. -/
theorem isTooLarge_skipDirs : standard.skipDirs.isTooLarge = false := by
  have hslash : classSize (.ofChar '/') = 32 := by cbv
  have hdot : classSize (.ofChar '.') = 32 := by cbv
  have hsize : standard.skipDirs.size = 1240 := by
    simp only [standard, Expr.atSegmentStart, Expr.literally, Expr.textEnd, List.foldr, Expr.size,
      hslash, hdot, classSize_noSlash]
    rfl
  rw [Expr.isTooLarge, hsize]
  decide

/-- So its text is read, too. -/
theorem parse_defaultSkipDirs : Pattern.parse defaultSkipDirs = .ok standard.skipDirs :=
  parse_of_run rfl (by decide) isTooLarge_skipDirs

/-- The texts that stand for the default make the filter by default. -/
theorem compile_default : compile defaultSkipFiles defaultSkipDirs = .ok standard := by
  rw [compile, compilePattern, compilePattern, parse_defaultSkipFiles, parse_defaultSkipDirs]
  rfl

/-- By default a file is skipped for its name. -/
theorem skipsFile_standard_iff {path : Text} :
    standard.skipsFile path = true ↔ (Path.segments path).getLast? = some skippedName := by
  have hname : Expr.MatchesToEnd (.literally skippedName .textEnd)
      fun t => '/' ∉ t ∧ t = skippedName := by
    refine (Expr.matchesToEnd_textEnd.literally skippedName).congr fun t => ?_
    constructor
    · rintro ⟨v, rfl, rfl⟩
      exact ⟨by decide, List.append_nil _⟩
    · rintro ⟨-, rfl⟩
      exact ⟨[], (List.append_nil _).symm, rfl⟩
  rw [skipsFile, standard, Expr.isMatch_atSegmentStart_iff_last hname]
  simp

/-- By default a directory is skipped if its name starts with a dot. -/
theorem skipsDir_standard_iff {path : Text} :
    standard.skipsDir path = true ↔
      ∃ s, (Path.segments path).getLast? = some s ∧ Text.startsWith s ['.'] = true := by
  have hclass : ∀ c : Char,
      (CharClass.negate (.ofChar '/')).contains c.toNat = true ↔ c ≠ '/' := by
    intro c
    rw [CharClass.contains_negate, Bool.not_eq_true', ← Bool.not_eq_true, Expr.contains_ofChar_iff]
  -- A segment of the path up to its end, with a dot in front.
  have hhidden : Expr.MatchesToEnd
      (.literally ['.'] (.seq (.repeated 0 none (.set (.negate (.ofChar '/')))) .textEnd))
      fun t => '/' ∉ t ∧ Text.startsWith t ['.'] = true := by
    refine (Expr.matchesToEnd_textEnd.many_seq.literally ['.']).congr fun t => ?_
    rw [Text.startsWith_iff]
    constructor
    · rintro ⟨v, rfl, u, r, rfl, hu, rfl⟩
      have hslash : '/' ∉ u := fun hmem => (hclass '/').1 (hu '/' hmem) rfl
      rw [List.append_nil]
      exact ⟨by simp [hslash], u, rfl⟩
    · rintro ⟨hslash, u, rfl⟩
      refine ⟨u, rfl, u, [], (List.append_nil u).symm, fun c hc => (hclass c).2 ?_, rfl⟩
      rintro rfl
      exact hslash (List.mem_append_right _ hc)
  rw [skipsDir, standard, Expr.isMatch_atSegmentStart_iff_last hhidden]

/-- By default a file takes part unless it is named `.DS_Store` or the
name of a directory above it starts with a dot. -/
theorem accepts_by_default_iff :
    ∃ filter, compile defaultSkipFiles defaultSkipDirs = .ok filter ∧
      ∀ path, filter.accepts path = true ↔
        (∀ s ∈ (Path.segments path).dropLast, Text.startsWith s ['.'] = false) ∧
          (Path.segments path).getLast? ≠ some ".DS_Store".toList := by
  refine ⟨standard, compile_default, fun path => ?_⟩
  have hfile : standard.skipsFile path = false ↔
      (Path.segments path).getLast? ≠ some skippedName := by
    rw [← Bool.not_eq_true, skipsFile_standard_iff]
  rw [accepts_iff, hfile, and_comm]
  refine and_congr_left fun _ => ⟨fun h s hs => ?_, fun h a rest hpath => ?_⟩
  · -- A segment before the last is the name of a directory above.
    obtain ⟨a, rest, hpath, hlast⟩ := Path.mem_dropLast_segments_iff.1 hs
    rw [← Bool.not_eq_true]
    intro hdot
    have hskip : standard.skipsDir a = true := skipsDir_standard_iff.2 ⟨s, hlast, hdot⟩
    rw [h a rest hpath] at hskip
    cases hskip
  · rw [← Bool.not_eq_true, skipsDir_standard_iff]
    rintro ⟨s, hlast, hdot⟩
    rw [h s (Path.mem_dropLast_segments_iff.2 ⟨a, rest, hpath, hlast⟩)] at hdot
    cases hdot

end WalkFilter

end SiteSync
