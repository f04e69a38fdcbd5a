import Mathlib.Data.List.Induction
import Mathlib.Data.List.Pairwise
import Mathlib.Tactic.Tauto
import SiteSync.Headers

/-!
# `SiteSync.Proofs.Headers`: putting headers in place of others

Headers are kept in the byte order of their names, and a name may be
there in several spellings. Once some headers are put in place of others,
one by one, every name is left in one spelling, the last that was put:

- `ascending_insert`: the order of the names is kept.
- `mem_merge_iff`: which entries are left.
- `distinct_merge`: no two of their names are the same but for case.
- `lookup_merge`: the value that is left of a name.
-/

set_option autoImplicit false

namespace SiteSync.Headers

variable {h given : Headers} {a b name value : Text} {e g : Text × Text}

/-! ### Names -/

/-- Names are the same but for case if their small letters are the same.
-/
theorem sameName_iff : sameName a b = true ↔ Text.toLowerAscii a = Text.toLowerAscii b :=
  Text.eqIgnoreCase_iff

/-- Every name is the same as itself. -/
theorem sameName_self (a : Text) : sameName a a = true := sameName_iff.2 rfl

/-- It does not matter which of two names comes first. -/
theorem sameName_comm (a b : Text) : sameName a b = sameName b a := by
  rw [Bool.eq_iff_iff, sameName_iff, sameName_iff, eq_comm]

/-- Names that are the same but for case are the same as the same
names. -/
theorem sameName_congr (hab : sameName a b = true) (c : Text) : sameName a c = sameName b c := by
  rw [Bool.eq_iff_iff, sameName_iff, sameName_iff, sameName_iff.1 hab]

/-- Two names that are the same as a third are the same as each other. -/
theorem sameName_of_sameName (ha : sameName a name = true) (hb : sameName b name = true) :
    sameName a b = true := by
  rw [sameName_congr ha, sameName_comm]
  exact hb

/-! ### The order of the names -/

/-- Headers as they are kept: their names ascend, so none is there
twice. -/
def Ascending (h : Headers) : Prop := h.Pairwise fun a b => a.1 < b.1

instance (h : Headers) : Decidable h.Ascending := inferInstanceAs (Decidable (List.Pairwise _ _))

/-- No two names are the same but for case. -/
def Distinct (h : Headers) : Prop := h.Pairwise fun a b => sameName a.1 b.1 = false

/-- In small letters no name is there twice. -/
theorem Distinct.nodup (hh : h.Distinct) : (h.map fun e => Text.toLowerAscii e.1).Nodup := by
  refine List.pairwise_map.2 (hh.imp fun hab heq => ?_)
  rw [sameName_iff.2 heq] at hab
  cases hab

/-- What is among the headers after an insertion is the new entry or was
there before. -/
theorem eq_or_mem_of_mem_insert (he : e ∈ insert name value h) : e = (name, value) ∨ e ∈ h := by
  induction h with
  | nil => exact .inl (List.mem_singleton.1 he)
  | cons first h ih =>
    unfold insert at he
    split at he
    · exact (List.mem_cons.1 he).imp_right (List.mem_cons_of_mem first)
    · split at he
      · exact List.mem_cons.1 he
      · rcases List.mem_cons.1 he with rfl | he
        · exact .inr List.mem_cons_self
        · exact (ih he).imp_right (List.mem_cons_of_mem first)

/-- An insertion keeps the names in order. It stops in front of the first
name that is greater. -/
theorem ascending_insert (hh : h.Ascending) : (insert name value h).Ascending := by
  induction h with
  | nil => exact List.pairwise_singleton _ _
  | cons first h ih =>
    obtain ⟨n, v⟩ := first
    obtain ⟨hfirst, hrest⟩ := List.pairwise_cons.1 hh
    unfold insert
    split
    case isTrue heq => exact List.pairwise_cons.2 ⟨heq ▸ hfirst, hrest⟩
    case isFalse hne =>
      split
      case isTrue hlt =>
        -- It comes before the first, and so before all.
        refine List.pairwise_cons.2 ⟨fun x hx => ?_, hh⟩
        rcases List.mem_cons.1 hx with rfl | hx
        · exact hlt
        · exact List.lt_trans hlt (hfirst x hx)
      case isFalse hnot =>
        have hlt : n < name := ((Std.lt_trichotomy name n).resolve_left hnot).resolve_left hne
        refine List.pairwise_cons.2 ⟨fun x hx => ?_, ih hrest⟩
        rcases eq_or_mem_of_mem_insert hx with rfl | hx
        · exact hlt
        · exact hfirst x hx

/-- An entry whose name is new is added, and nothing else changes. -/
theorem insert_perm (hnew : ∀ e ∈ h, e.1 ≠ name) :
    (insert name value h).Perm ((name, value) :: h) := by
  induction h with
  | nil => exact .refl _
  | cons first h ih =>
    obtain ⟨n, v⟩ := first
    have hne : name ≠ n := (hnew (n, v) List.mem_cons_self).symm
    unfold insert
    rw [if_neg hne]
    split
    · exact .refl _
    · have hrest := ih fun e he => hnew e (List.mem_cons_of_mem _ he)
      exact (hrest.cons (n, v)).trans (.swap _ _ h)

/-- An entry whose name comes last is added at the end. -/
theorem insert_of_forall_lt (hlast : ∀ e ∈ h, e.1 < name) :
    insert name value h = h ++ [(name, value)] := by
  induction h with
  | nil => rfl
  | cons first h ih =>
    obtain ⟨n, v⟩ := first
    have hlt : n < name := hlast (n, v) List.mem_cons_self
    have hne : name ≠ n := fun heq => List.lt_irrefl n (heq ▸ hlt)
    unfold insert
    rw [if_neg hne, if_neg (List.lt_asymm hlt), ih fun e he => hlast e (List.mem_cons_of_mem _ he)]
    rfl

/-- Any entries can be made headers. -/
theorem ascending_ofList (entries : List (Text × Text)) : (ofList entries).Ascending := by
  suffices ∀ h : Headers, h.Ascending →
      Ascending (entries.foldl (fun h e => insert e.1 e.2 h) h) from this [] .nil
  induction entries with
  | nil => exact fun _ hh => hh
  | cons e entries ih => exact fun h hh => ih _ (ascending_insert hh)

/-! ### Setting one header -/

/-- Setting a header drops the entries of its name and adds one. -/
theorem set_perm (h : Headers) (name value : Text) :
    (h.set name value).Perm ((name, value) :: h.filter fun e => !sameName e.1 name) := by
  refine insert_perm fun e he heq => ?_
  have hother := (List.mem_filter.1 he).2
  rw [heq, sameName_self] at hother
  cases hother

/-- After setting a header its entry is there, and so are those of all
other names. -/
theorem mem_set_iff :
    e ∈ h.set name value ↔ e = (name, value) ∨ (e ∈ h ∧ sameName e.1 name = false) := by
  rw [(set_perm h name value).mem_iff, List.mem_cons, List.mem_filter, Bool.not_eq_true']

/-- Setting a header keeps the names in order. -/
theorem ascending_set (hh : h.Ascending) : (h.set name value).Ascending :=
  ascending_insert (hh.sublist List.filter_sublist)

/-- Setting a header keeps names from being the same but for case. -/
theorem distinct_set (hh : h.Distinct) : (h.set name value).Distinct := by
  refine ((set_perm h name value).pairwise_iff fun {a b} hab => ?_).2 ?_
  · rwa [sameName_comm]
  · refine List.pairwise_cons.2 ⟨fun x hx => ?_, hh.sublist List.filter_sublist⟩
    have hother := (List.mem_filter.1 hx).2
    rwa [Bool.not_eq_true', sameName_comm] at hother

/-! ### Reading a header -/

/-- The value of the last entry whose name is the same but for case. -/
def lookupLast (h : Headers) (name : Text) : Option Text :=
  (h.reverse.find? fun e => sameName e.1 name).map Prod.snd

/-- An entry at the end is the one that is found by its name. -/
theorem lookupLast_concat (h : Headers) (e : Text × Text) (name : Text) :
    lookupLast (h ++ [e]) name = if sameName e.1 name then some e.2 else h.lookupLast name := by
  unfold lookupLast
  rw [List.reverse_concat, List.find?_cons]
  split
  case h_1 hsame => rw [hsame, if_pos rfl, Option.map_some]
  case h_2 hother => rw [hother, if_neg Bool.false_ne_true]

/-- It makes no difference how a name is spelled. -/
theorem lookup_congr (hab : sameName a b = true) (h : Headers) : h.lookup a = h.lookup b := by
  have hsame : ∀ e : Text × Text, sameName e.1 a = sameName e.1 b := fun e => by
    rw [sameName_comm, sameName_congr hab, sameName_comm]
  simp only [lookup, hsame]

/-- A name that is there is there for a first and for a last time. -/
theorem lookup_eq_none_iff : h.lookup name = none ↔ h.lookupLast name = none := by
  unfold lookup lookupLast
  rw [Option.map_eq_none_iff, Option.map_eq_none_iff, List.find?_eq_none, List.find?_eq_none]
  exact forall_congr' fun e => by rw [List.mem_reverse]

/-- Where names are distinct, two entries with the same name but for case
are one. -/
theorem Distinct.eq_of_sameName (hh : h.Distinct) (he : e ∈ h) (hg : g ∈ h)
    (hsame : sameName e.1 g.1 = true) : e = g := by
  by_contra hne
  have hsymm : Std.Symm fun a b : Text × Text => sameName a.1 b.1 = false :=
    ⟨fun a b hab => by rwa [sameName_comm]⟩
  have hother : sameName e.1 g.1 = false := List.Pairwise.forall hh he hg hne
  rw [hsame] at hother
  cases hother

/-- Where every name has one spelling, a value that is found is that of
the only entry for it. -/
theorem lookup_eq_some_iff (hh : h.Distinct) :
    h.lookup name = some value ↔ ∃ e ∈ h, sameName e.1 name = true ∧ e.2 = value := by
  constructor
  · intro hfound
    obtain ⟨e, he, rfl⟩ := Option.map_eq_some_iff.1 hfound
    have hsame := List.find?_some he
    exact ⟨e, List.mem_of_find?_eq_some he, hsame, rfl⟩
  · rintro ⟨e, he, hsame, rfl⟩
    cases hfound : h.find? fun e => sameName e.1 name with
    | none => exact absurd hsame (List.find?_eq_none.1 hfound e he)
    | some g =>
      have hg := List.find?_some hfound
      have heq : e = g :=
        hh.eq_of_sameName he (List.mem_of_find?_eq_some hfound) (sameName_of_sameName hsame hg)
      rw [lookup, hfound, heq, Option.map_some]

/-- There it makes no difference which end is looked at first. -/
theorem Distinct.lookupLast_eq (hh : h.Distinct) (name : Text) :
    h.lookupLast name = h.lookup name := by
  have hreverse : Distinct h.reverse := List.pairwise_reverse.2 (hh.imp fun hab => by
    rwa [sameName_comm])
  refine Option.ext fun v => ?_
  rw [lookup_eq_some_iff hh]
  refine (lookup_eq_some_iff hreverse).trans ?_
  exact exists_congr fun e => by rw [List.mem_reverse]

/-- After setting a header it is found by its name, and the others are
found as before. -/
theorem lookup_set (hh : h.Distinct) (n : Text) :
    (h.set n value).lookup name = if sameName n name then some value else h.lookup name := by
  refine Option.ext fun v => ?_
  rw [lookup_eq_some_iff (distinct_set hh)]
  split
  case isTrue hsame =>
    -- No other entry with this name is left.
    rw [Option.some_inj]
    constructor
    · rintro ⟨e, he, hname, rfl⟩
      rcases mem_set_iff.1 he with rfl | ⟨-, hother⟩
      · rfl
      · rw [sameName_of_sameName hname hsame] at hother
        cases hother
    · rintro rfl
      exact ⟨(n, value), mem_set_iff.2 (.inl rfl), hsame, rfl⟩
  case isFalse hother =>
    -- The new entry is not looked for, and what it replaced was not either.
    rw [lookup_eq_some_iff hh]
    constructor
    · rintro ⟨e, he, hname, rfl⟩
      rcases mem_set_iff.1 he with rfl | ⟨he, -⟩
      · exact absurd hname hother
      · exact ⟨e, he, hname, rfl⟩
    · rintro ⟨e, he, hname, rfl⟩
      have hdiffers : sameName e.1 n = false := by
        rw [sameName_congr hname, sameName_comm]
        exact Bool.eq_false_iff.2 hother
      exact ⟨e, mem_set_iff.2 (.inr ⟨he, hdiffers⟩), hname, rfl⟩

/-! ### Setting many -/

/-- The headers with those of a list in place of them, one by one. -/
def merge (h given : Headers) : Headers := given.foldl (fun h e => h.set e.1 e.2) h

/-- The last entry of a list is set last. -/
theorem merge_concat (h given : Headers) (g : Text × Text) :
    merge h (given ++ [g]) = (merge h given).set g.1 g.2 := List.foldl_append

/-- Setting many headers keeps the names in order. -/
theorem ascending_merge (hh : h.Ascending) (given : Headers) : (merge h given).Ascending := by
  induction given using List.reverseRecOn with
  | nil => exact hh
  | append_singleton given g ih => exact merge_concat h given g ▸ ascending_set ih

/-- Setting many headers keeps names from being the same but for case. -/
theorem distinct_merge (hh : h.Distinct) (given : Headers) : (merge h given).Distinct := by
  induction given using List.reverseRecOn with
  | nil => exact hh
  | append_singleton given g ih => exact merge_concat h given g ▸ distinct_set ih

/-- What is left of a name is the last value that was set, and the value
from before if none was. -/
theorem lookup_merge (hh : h.Distinct) (given : Headers) (name : Text) :
    (merge h given).lookup name = (given.lookupLast name).or (h.lookup name) := by
  induction given using List.reverseRecOn with
  | nil => rfl
  | append_singleton given g ih =>
    rw [merge_concat, lookup_set (distinct_merge hh given), lookupLast_concat, ih]
    split
    · rfl
    · rfl

/-- An entry is the last of its name if it stands behind all entries whose
names are the same but for case. -/
def IsLast (given : Headers) (e : Text × Text) : Prop :=
  e ∈ given ∧ ∀ g ∈ given, sameName g.1 e.1 = true → ¬e.1 < g.1

/-- One more entry at the end is the last of its name, and takes that from
another. -/
theorem isLast_concat_iff (hgiven : Ascending (given ++ [g])) :
    IsLast (given ++ [g]) e ↔ e = g ∨ (IsLast given e ∧ sameName e.1 g.1 = false) := by
  have hlast : ∀ x ∈ given, x.1 < g.1 := fun x hx =>
    (List.pairwise_append.1 hgiven).2.2 x hx g List.mem_cons_self
  constructor
  · rintro ⟨he, hbehind⟩
    rcases List.mem_append.1 he with he | he
    · refine .inr ⟨⟨he, fun x hx => hbehind x (List.mem_append_left _ hx)⟩, ?_⟩
      -- Of the same name, `g` would stand behind it.
      by_contra hsame
      rw [Bool.not_eq_false, sameName_comm] at hsame
      exact hbehind g (List.mem_append_right _ List.mem_cons_self) hsame (hlast e he)
    · exact .inl (List.mem_singleton.1 he)
  · rintro (rfl | ⟨⟨he, hbehind⟩, hother⟩)
    · refine ⟨List.mem_append_right _ List.mem_cons_self, fun x hx _ => ?_⟩
      rcases List.mem_append.1 hx with hx | hx
      · exact List.lt_asymm (hlast x hx)
      · rw [List.mem_singleton.1 hx]
        exact List.lt_irrefl _
    · refine ⟨List.mem_append_left _ he, fun x hx hsame => ?_⟩
      rcases List.mem_append.1 hx with hx | hx
      · exact hbehind x hx hsame
      · rw [List.mem_singleton.1 hx, sameName_comm, hother] at hsame
        cases hsame

/-- What is left are the entries that were set last, and from before those
whose names were not set. -/
theorem mem_merge_iff (hgiven : given.Ascending) :
    e ∈ merge h given ↔
      IsLast given e ∨ (e ∈ h ∧ ∀ g ∈ given, sameName g.1 e.1 = false) := by
  induction given using List.reverseRecOn with
  | nil => simp [merge, IsLast]
  | append_singleton given g ih =>
    have hbefore : Ascending given := (List.pairwise_append.1 hgiven).1
    rw [merge_concat, mem_set_iff, ih hbefore, isLast_concat_iff hgiven, List.forall_mem_append,
      List.forall_mem_singleton, sameName_comm g.1]
    tauto

end SiteSync.Headers
