import SiteSync.Pattern.Expr

/-!
# `SiteSync.Proofs.Pattern.Meaning`: the matcher finds what an expression means

What an expression matches can be said without an algorithm: a sequence
matches two stretches in a row, a repetition some copies of its body in
a row, an anchor the empty stretch at a place where it holds. `Matches`
says so, for a stretch and the characters that stand before and after
it.

The matcher runs through the text once and keeps what is left to match.
That comes to the same:

- `nullable_iff`: an expression is nullable where it matches the empty
  stretch.
- `exists_derivative_iff`: the derivatives of an expression match what
  may stand behind the first character of a match.
- `isMatch_iff`: the matcher says yes if some stretch of the text is
  matched where it stands.

The one condition is that no repetition asks for more copies than it
allows.
-/

set_option autoImplicit false

namespace SiteSync.Pattern

/-! ### Places in a text -/

/-- The character before what stands behind a stretch: the last of the
stretch, or the one before it if it is empty. -/
def behind (before : Option Char) : Text → Option Char
  | [] => before
  | c :: w => behind (some c) w

/-- The character after what stands in front of a stretch: the first of
the stretch, or the one after it if it is empty. -/
def ahead (after : Option Char) : Text → Option Char
  | [] => after
  | c :: _ => some c

variable {before after : Option Char} {c : Char} {w : Text}

/-- An empty stretch leaves the character before it. -/
@[simp] theorem behind_nil : behind before [] = before := rfl

/-- Behind the first character comes the rest of the stretch. -/
@[simp] theorem behind_cons : behind before (c :: w) = behind (some c) w := rfl

/-- An empty stretch leaves the character after it. -/
@[simp] theorem ahead_nil : ahead after [] = after := rfl

/-- A stretch that is not empty starts with its first character. -/
@[simp] theorem ahead_cons : ahead after (c :: w) = some c := rfl

/-- Behind a stretch stands its last character. -/
@[simp] theorem behind_concat : behind before (w ++ [c]) = some c := by
  induction w generalizing before with
  | nil => rfl
  | cons d w ih => rw [List.cons_append, behind_cons, ih]

/-- Only at the start of the text nothing stands before a place. -/
theorem behind_eq_none_iff : behind none w = none ↔ w = [] := by
  rcases List.eq_nil_or_concat w with rfl | ⟨u, c, rfl⟩
  · simp
  · simp

/-- Only at the end of the text nothing stands after a place. -/
theorem ahead_eq_none_iff : ahead none w = none ↔ w = [] := by
  cases w with
  | nil => simp
  | cons c w => simp

/-! ### Copies in a row -/

/-- The stretches that consist of `n` stretches in a row, each of which
`M` is true of where it stands. -/
def Copies (M : Option Char → Text → Option Char → Prop) :
    Nat → Option Char → Text → Option Char → Prop
  | 0, _, w, _ => w = []
  | n + 1, before, w, after =>
    ∃ u v, w = u ++ v ∧ M before u (ahead after v) ∧ Copies M n (behind before u) v after

section Copies

variable {M : Option Char → Text → Option Char → Prop} {n : Nat}

/-- Copies of the empty stretch may stand before other copies. -/
theorem Copies.pad (h : Copies M n before w after) (hempty : M before [] (ahead after w))
    (k : Nat) : Copies M (k + n) before w after := by
  induction k with
  | zero => rwa [Nat.zero_add]
  | succ k ih =>
    rw [Nat.add_right_comm]
    exact ⟨[], w, rfl, hempty, ih⟩

/-- The empty stretch is no copy, or every copy of it is empty. -/
theorem copies_nil_iff : Copies M n before [] after ↔ n = 0 ∨ M before [] after := by
  cases n with
  | zero => exact iff_of_true rfl (.inl rfl)
  | succ n =>
    refine ⟨fun ⟨u, v, hsplit, hfirst, _⟩ => ?_, fun h => ?_⟩
    · obtain ⟨rfl, rfl⟩ := List.append_eq_nil_iff.1 hsplit.symm
      exact .inr hfirst
    · have hempty : M before [] after := h.resolve_left (Nat.succ_ne_zero n)
      have hnone : Copies M 0 before [] after := rfl
      exact hnone.pad hempty (n + 1)

/-- Of copies in a row that are not all empty some are empty at the
start, and one has the first character. -/
theorem copies_cons_iff :
    Copies M n before (c :: w) after ↔
      ∃ j k, n = j + (k + 1) ∧ (j ≠ 0 → M before [] (some c)) ∧
        ∃ u v, w = u ++ v ∧ M before (c :: u) (ahead after v) ∧
          Copies M k (behind (some c) u) v after := by
  constructor
  · intro h
    induction n with
    | zero => exact absurd h (List.cons_ne_nil c w)
    | succ n ih =>
      obtain ⟨u, v, hsplit, hfirst, hrest⟩ := h
      cases u with
      -- The first copy is empty, and so may some more be.
      | nil =>
        obtain rfl : c :: w = v := hsplit
        obtain ⟨j, k, rfl, -, hlast⟩ := ih hrest
        exact ⟨j + 1, k, by omega, fun _ => hfirst, hlast⟩
      -- The first copy has the character, and none is in front of it.
      | cons d u =>
        obtain ⟨rfl, rfl⟩ := List.cons.inj hsplit
        exact ⟨0, n, by omega, fun h => absurd rfl h, u, v, rfl, hfirst, hrest⟩
  · rintro ⟨j, k, rfl, hempty, u, v, rfl, hfirst, hrest⟩
    have hone : Copies M (k + 1) before (c :: (u ++ v)) after := ⟨c :: u, v, rfl, hfirst, hrest⟩
    rcases Nat.eq_zero_or_pos j with rfl | hj
    · rwa [Nat.zero_add]
    · exact hone.pad (hempty (Nat.ne_of_gt hj)) j

end Copies

namespace Expr

/-! ### Meaning -/

/-- The stretches that an expression matches between two characters;
`none` is the end of the text on that side. -/
def Matches : Expr → Option Char → Text → Option Char → Prop
  | .empty, _, w, _ => w = []
  | .set s, _, w, _ => ∃ c : Char, w = [c] ∧ s.contains c.toNat = true
  | .anchor x, before, w, after => w = [] ∧ x.holds before after = true
  | .seq e f, before, w, after =>
    ∃ u v, w = u ++ v ∧ Matches e before u (ahead after v) ∧ Matches f (behind before u) v after
  | .alt e f, before, w, after => Matches e before w after ∨ Matches f before w after
  | .repeated min max e, before, w, after =>
    ∃ n, min ≤ n ∧ (∀ m ∈ max, n ≤ m) ∧ Copies (Matches e) n before w after

/-- No repetition in an expression asks for more copies than it
allows. -/
def Feasible : Expr → Prop
  | .empty => True
  | .set _ => True
  | .anchor _ => True
  | .seq e f => Feasible e ∧ Feasible f
  | .alt e f => Feasible e ∧ Feasible f
  | .repeated min max e => (∀ m ∈ max, min ≤ m) ∧ Feasible e

variable {e f d : Expr} {es left : List Expr} {t : Text}

/-- An expression is nullable where it matches the empty stretch. -/
theorem nullable_iff (he : Feasible e) :
    nullable before after e = true ↔ Matches e before [] after := by
  induction e generalizing before after with
  | empty => simp [nullable, Matches]
  | set s => simp [nullable, Matches]
  | anchor x => simp [nullable, Matches]
  | seq e f ihe ihf =>
    rw [nullable, Bool.and_eq_true, ihe he.1, ihf he.2]
    constructor
    · rintro ⟨hfirst, hsecond⟩
      exact ⟨[], [], rfl, hfirst, hsecond⟩
    · rintro ⟨u, v, hsplit, hfirst, hsecond⟩
      obtain ⟨rfl, rfl⟩ := List.append_eq_nil_iff.1 hsplit.symm
      exact ⟨hfirst, hsecond⟩
  | alt e f ihe ihf => rw [nullable, Bool.or_eq_true, ihe he.1, ihf he.2, Matches]
  | repeated min max e ih =>
    rw [nullable, Bool.or_eq_true, beq_iff_eq, ih he.2, Matches]
    constructor
    · intro h
      have hcopies : Copies (Matches e) min before [] after := copies_nil_iff.2 h
      exact ⟨min, Nat.le_refl min, he.1, hcopies⟩
    · -- If some number of copies matches nothing, none is owed, or one copy matches nothing.
      rintro ⟨n, hmin, -, hcopies⟩
      rcases copies_nil_iff.1 hcopies with rfl | hempty
      · exact .inl (Nat.le_zero.1 hmin)
      · exact .inr hempty

/-- Leaving out what is done changes nothing about what is matched. -/
theorem matches_followedBy_iff :
    Matches (followedBy e f) before w after ↔ Matches (.seq e f) before w after := by
  cases e with
  | empty =>
    constructor
    · exact fun h => ⟨[], w, rfl, rfl, h⟩
    · rintro ⟨u, v, rfl, rfl, h⟩
      exact h
  | _ => exact Iff.rfl

/-- A class as often as one likes matches the stretches of its
members. -/
theorem matches_many_iff {s : CharClass} :
    Matches (.repeated 0 none (.set s)) before w after ↔ ∀ c ∈ w, s.contains c.toNat = true := by
  constructor
  · rintro ⟨n, -, -, hcopies⟩
    induction n generalizing before w with
    | zero =>
      rw [show w = [] from hcopies]
      exact fun c hc => absurd hc List.not_mem_nil
    | succ n ih =>
      obtain ⟨u, v, rfl, ⟨c, rfl, hc⟩, hrest⟩ := hcopies
      exact List.forall_mem_cons.2 ⟨hc, ih hrest⟩
  · intro h
    refine ⟨w.length, Nat.zero_le _, nofun, ?_⟩
    induction w generalizing before with
    | nil => rfl
    | cons c w ih =>
      obtain ⟨hc, hrest⟩ := List.forall_mem_cons.1 h
      exact ⟨[c], w, rfl, ⟨c, rfl, hc⟩, ih hrest⟩

/-! ### Derivatives -/

/-- What is put together of feasible expressions is feasible. -/
theorem Feasible.followedBy (he : Feasible e) (hf : Feasible f) : Feasible (followedBy e f) := by
  cases e with
  | empty => exact hf
  | _ => exact ⟨he, hf⟩

/-- What is left to match of a feasible expression is feasible. A
repetition owes one copy less and allows one less. -/
theorem Feasible.of_mem_derivatives (he : Feasible e) (hd : d ∈ derivatives before c e) :
    Feasible d := by
  induction e generalizing d with
  | empty => exact absurd hd List.not_mem_nil
  | anchor x => exact absurd hd List.not_mem_nil
  | set s =>
    rw [derivatives] at hd
    split at hd
    · rw [List.mem_singleton.1 hd]
      trivial
    · exact absurd hd List.not_mem_nil
  | seq e f ihe ihf =>
    rw [derivatives, List.mem_append, List.mem_map] at hd
    rcases hd with ⟨x, hx, rfl⟩ | hd
    · exact (ihe he.1 hx).followedBy he.2
    · split at hd
      · exact ihf he.2 hd
      · exact absurd hd List.not_mem_nil
  | alt e f ihe ihf =>
    rw [derivatives, List.mem_append] at hd
    exact hd.elim (ihe he.1) (ihf he.2)
  | repeated min max e ih =>
    rw [derivatives] at hd
    split at hd
    · exact absurd hd List.not_mem_nil
    · obtain ⟨x, hx, rfl⟩ := List.mem_map.1 hd
      refine (ih he.2 hx).followedBy ⟨fun k hk => ?_, he.2⟩
      -- Both bounds have come down by one, or the lower was zero already.
      obtain ⟨m, hm, rfl⟩ := Option.map_eq_some_iff.1 hk
      have hmin : min ≤ m := he.1 m hm
      split <;> omega

/-- What a repetition matches behind a first character: one copy of its
body has that character, and as many copies follow as are still owed and
allowed. -/
theorem matches_repeated_cons_iff {min : Nat} {max : Option Nat}
    (he : Feasible (.repeated min max e)) :
    Matches (.repeated min max e) before (c :: w) after ↔
      max ≠ some 0 ∧ ∃ u v, w = u ++ v ∧ Matches e before (c :: u) (ahead after v) ∧
        Matches (.repeated (if nullable before (some c) e then 0 else min - 1) (max.map (· - 1)) e)
          (behind (some c) u) v after := by
  constructor
  · rintro ⟨n, hmin, hmax, hcopies⟩
    obtain ⟨j, k, rfl, hempty, u, v, rfl, hfirst, hrest⟩ := copies_cons_iff.1 hcopies
    refine ⟨?_, u, v, rfl, hfirst, k, ?_, ?_, hrest⟩
    · rintro rfl
      have hzero : j + (k + 1) ≤ 0 := hmax 0 rfl
      omega
    · rcases Nat.eq_zero_or_pos j with rfl | hj
      · split <;> omega
      · rw [if_pos ((nullable_iff he.2).2 (hempty (Nat.ne_of_gt hj)))]
        exact Nat.zero_le k
    · intro i hi
      obtain ⟨m, hm, rfl⟩ := Option.map_eq_some_iff.1 hi
      have hle : j + (k + 1) ≤ m := hmax m hm
      omega
  · rintro ⟨hne, u, v, rfl, hfirst, k, howed, hmax, hrest⟩
    have hallowed : ∀ m ∈ max, k + 1 ≤ m := by
      intro m hm
      have hle : k ≤ m - 1 := hmax _ (Option.mem_map_of_mem _ hm)
      have hpos : m ≠ 0 := fun hzero => hne (hzero ▸ hm)
      omega
    -- The copies that were owed at the start are empty ones there.
    refine ⟨min - (k + 1) + (k + 1), by omega, fun m hm => ?_, copies_cons_iff.2
      ⟨min - (k + 1), k, rfl, fun hmissing => ?_, u, v, rfl, hfirst, hrest⟩⟩
    · have hmin : min ≤ m := he.1 m hm
      have hk : k + 1 ≤ m := hallowed m hm
      omega
    · refine (nullable_iff he.2).1 (Decidable.byContradiction fun hnot => ?_)
      rw [if_neg hnot] at howed
      omega

/-- What is matched of a sequence whose first part is not empty, if the
derivatives of that part match what may stand behind a first
character. -/
theorem exists_map_followedBy_iff
    (ih : ∀ {w : Text} {after : Option Char},
      (∃ d ∈ derivatives before c e, Matches d (some c) w after) ↔
        Matches e before (c :: w) after) :
    (∃ d ∈ (derivatives before c e).map (followedBy · f), Matches d (some c) w after) ↔
      ∃ u v, w = u ++ v ∧ Matches e before (c :: u) (ahead after v) ∧
        Matches f (behind (some c) u) v after := by
  constructor
  · rintro ⟨d, hd, h⟩
    obtain ⟨x, hx, rfl⟩ := List.mem_map.1 hd
    obtain ⟨u, v, rfl, hfirst, hsecond⟩ := matches_followedBy_iff.1 h
    exact ⟨u, v, rfl, ih.1 ⟨x, hx, hfirst⟩, hsecond⟩
  · rintro ⟨u, v, rfl, hfirst, hsecond⟩
    obtain ⟨x, hx, hfirst⟩ := ih.2 hfirst
    exact ⟨_, List.mem_map_of_mem hx, matches_followedBy_iff.2 ⟨u, v, rfl, hfirst, hsecond⟩⟩

/-- The derivatives of an expression match what may stand behind the
first character of a match. -/
theorem exists_derivative_iff (he : Feasible e) :
    (∃ d ∈ derivatives before c e, Matches d (some c) w after) ↔
      Matches e before (c :: w) after := by
  induction e generalizing w after with
  | empty => simp [derivatives, Matches]
  | anchor x => simp [derivatives, Matches]
  | set s =>
    by_cases hmem : s.contains c.toNat = true
    · simp only [derivatives, hmem, if_true, List.mem_singleton, exists_eq_left, Matches]
      constructor
      · rintro rfl
        exact ⟨c, rfl, hmem⟩
      · rintro ⟨x, hx, -⟩
        exact (List.cons.inj hx).2
    · simp only [derivatives, hmem, Matches]
      constructor
      · rintro ⟨d, hd, -⟩
        exact absurd hd List.not_mem_nil
      · rintro ⟨x, hx, hmem'⟩
        obtain rfl : c = x := (List.cons.inj hx).1
        exact absurd hmem' hmem
  | seq e f ihe ihf =>
    simp only [derivatives, List.mem_append, or_and_right, exists_or,
      exists_map_followedBy_iff (ihe he.1)]
    -- The character is one of the first expression, or of the second if the first matches
    -- nothing there.
    constructor
    · rintro (⟨u, v, rfl, hfirst, hsecond⟩ | ⟨d, hd, h⟩)
      · exact ⟨c :: u, v, rfl, hfirst, hsecond⟩
      · split at hd
        case isTrue hempty =>
          exact ⟨[], c :: w, rfl, (nullable_iff he.1).1 hempty, (ihf he.2).1 ⟨d, hd, h⟩⟩
        case isFalse => exact absurd hd List.not_mem_nil
    · rintro ⟨u, v, hsplit, hfirst, hsecond⟩
      cases u with
      | nil =>
        obtain rfl : c :: w = v := hsplit
        have hempty : nullable before (some c) e = true := (nullable_iff he.1).2 hfirst
        rw [if_pos hempty]
        exact .inr ((ihf he.2).2 hsecond)
      | cons x u =>
        obtain ⟨rfl, rfl⟩ := List.cons.inj hsplit
        exact .inl ⟨u, v, rfl, hfirst, hsecond⟩
  | alt e f ihe ihf =>
    simp only [derivatives, List.mem_append, or_and_right, exists_or, ihe he.1, ihf he.2, Matches]
  | repeated min max e ih =>
    -- A copy takes the character; where no more is allowed there is no derivative.
    rw [matches_repeated_cons_iff he, derivatives]
    split
    case isTrue hnone => simp [hnone]
    case isFalse hsome =>
      rw [and_iff_right hsome]
      exact exists_map_followedBy_iff (ih he.2)

/-! ### Searching -/

/-- Adding only what is new keeps the members. -/
theorem mem_foldr_insertNew_iff : d ∈ es.foldr insertNew [] ↔ d ∈ es := by
  induction es with
  | nil => rfl
  | cons e es ih =>
    rw [List.foldr_cons, insertNew, List.mem_cons]
    split
    case isTrue hmem =>
      rw [List.contains_iff_mem] at hmem
      rw [ih]
      refine ⟨.inr, ?_⟩
      rintro (rfl | h)
      · exact ih.1 hmem
      · exact h
    case isFalse => rw [List.mem_cons, ih]

/-- What is left after a character is left of one of the expressions. -/
theorem mem_step_iff : d ∈ step before c es ↔ ∃ e ∈ es, d ∈ derivatives before c e := by
  rw [step, mem_foldr_insertNew_iff, List.mem_flatMap]

/-- An expression matches what some text starts with, behind a
character. -/
def MatchesStart (e : Expr) (before : Option Char) (t : Text) : Prop :=
  ∃ u v, t = u ++ v ∧ Matches e before u (ahead none v)

/-- At the end of the text only the empty stretch can be matched. -/
theorem matchesStart_nil_iff (he : Feasible e) :
    MatchesStart e before [] ↔ nullable before none e = true := by
  rw [nullable_iff he]
  constructor
  · rintro ⟨u, v, hsplit, h⟩
    obtain ⟨rfl, rfl⟩ := List.append_eq_nil_iff.1 hsplit.symm
    exact h
  · exact fun h => ⟨[], [], rfl, h⟩

/-- A match from some place on is empty, or goes on behind the first
character with what is left to match there. -/
theorem matchesStart_cons_iff (he : Feasible e) :
    MatchesStart e before (c :: t) ↔ nullable before (some c) e = true ∨
      ∃ d ∈ derivatives before c e, MatchesStart d (some c) t := by
  rw [nullable_iff he]
  constructor
  · rintro ⟨u, v, hsplit, h⟩
    cases u with
    | nil =>
      obtain rfl : c :: t = v := hsplit
      exact .inl h
    | cons x u =>
      obtain ⟨rfl, rfl⟩ := List.cons.inj hsplit
      obtain ⟨d, hd, h⟩ := (exists_derivative_iff he).2 h
      exact .inr ⟨d, hd, u, v, rfl, h⟩
  · rintro (h | ⟨d, hd, u, v, rfl, h⟩)
    · exact ⟨[], c :: t, rfl, h⟩
    · exact ⟨c :: u, v, rfl, (exists_derivative_iff he).1 ⟨d, hd, h⟩⟩

/-- What matches from a place on is nullable there, or goes on behind the
next character. -/
theorem exists_matchesStart_cons_iff (hes : ∀ e ∈ es, Feasible e) :
    (∃ e ∈ es, MatchesStart e before (c :: t)) ↔
      (∃ e ∈ es, nullable before (some c) e = true) ∨
        ∃ d ∈ step before c es, MatchesStart d (some c) t := by
  constructor
  · rintro ⟨e, he, h⟩
    rcases (matchesStart_cons_iff (hes e he)).1 h with h | ⟨d, hd, h⟩
    · exact .inl ⟨e, he, h⟩
    · exact .inr ⟨d, mem_step_iff.2 ⟨e, he, hd⟩, h⟩
  · rintro (⟨e, he, h⟩ | ⟨d, hd, h⟩)
    · exact ⟨e, he, (matchesStart_cons_iff (hes e he)).2 (.inl h)⟩
    · obtain ⟨e, he, hd⟩ := mem_step_iff.1 hd
      exact ⟨e, he, (matchesStart_cons_iff (hes e he)).2 (.inr ⟨d, hd, h⟩)⟩

/-- The search says yes if what is left over from earlier comes to a
match, or the expression does so from some place on. -/
theorem search_iff (he : Feasible e) (hleft : ∀ f ∈ left, Feasible f) :
    search e before left t = true ↔
      (∃ f ∈ left, MatchesStart f before t) ∨
        ∃ l r, t = l ++ r ∧ MatchesStart e (behind before l) r := by
  have hcons : ∀ {es : List Expr} (p : Expr → Prop),
      (∃ f ∈ e :: es, p f) ↔ (∃ f ∈ es, p f) ∨ p e := by
    intro es p
    simp [or_comm]
  induction t generalizing before left with
  | nil =>
    rw [search, List.any_eq_true, hcons, ← matchesStart_nil_iff he]
    refine or_congr (exists_congr fun f => and_congr_right fun hf =>
      (matchesStart_nil_iff (hleft f hf)).symm) ⟨fun h => ⟨[], [], rfl, h⟩, ?_⟩
    rintro ⟨l, r, hsplit, h⟩
    obtain ⟨rfl, rfl⟩ := List.append_eq_nil_iff.1 hsplit.symm
    exact h
  | cons c t ih =>
    have hall : ∀ f ∈ e :: left, Feasible f := List.forall_mem_cons.2 ⟨he, hleft⟩
    have hstep : ∀ d ∈ step before c (e :: left), Feasible d := by
      intro d hd
      obtain ⟨f, hf, hd⟩ := mem_step_iff.1 hd
      exact (hall f hf).of_mem_derivatives hd
    have hbehind : search e (some c) (step before c (e :: left)) t = true ↔
        (∃ d ∈ step before c (e :: left), MatchesStart d (some c) t) ∨
          ∃ l r, t = l ++ r ∧ MatchesStart e (behind (some c) l) r := ih hstep
    rw [search, Bool.or_eq_true, List.any_eq_true, hbehind, ← or_assoc,
      ← exists_matchesStart_cons_iff hall, hcons, or_assoc]
    -- From some place on means here, or from some place behind the next character.
    refine or_congr_right ⟨?_, ?_⟩
    · rintro (h | ⟨l, r, rfl, h⟩)
      · exact ⟨[], c :: t, rfl, h⟩
      · exact ⟨c :: l, r, rfl, h⟩
    · rintro ⟨l, r, hsplit, h⟩
      cases l with
      | nil =>
        obtain rfl : c :: t = r := hsplit
        exact .inl h
      | cons x l =>
        obtain ⟨rfl, rfl⟩ := List.cons.inj hsplit
        exact .inr ⟨l, r, rfl, h⟩

/-- The matcher says yes if some stretch of the text is matched where it
stands. -/
theorem isMatch_iff (he : Feasible e) :
    e.isMatch t = true ↔
      ∃ l u r, t = l ++ (u ++ r) ∧ Matches e (behind none l) u (ahead none r) := by
  rw [isMatch, search_iff he fun f hf => absurd hf List.not_mem_nil]
  constructor
  · rintro (⟨f, hf, -⟩ | ⟨l, r, rfl, u, v, rfl, h⟩)
    · exact absurd hf List.not_mem_nil
    · exact ⟨l, u, v, rfl, h⟩
  · rintro ⟨l, u, r, rfl, h⟩
    exact .inr ⟨l, u ++ r, rfl, u, r, rfl, h⟩

end Expr

end SiteSync.Pattern
