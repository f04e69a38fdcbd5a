/-!
# `SiteSync.Text.Basic`: text as a list of characters

Keys, paths, patterns, header names and messages are all `Text`: a list
of characters, compared character by character. Comparing characters by
code point and comparing the UTF-8 encodings byte by byte give the same
order, so the order of `Text` is the byte order that object stores list
their keys in.

This module holds the general operations: prefixes, trimming, splitting
on a separator and joining again, and case-insensitive comparison of
ASCII names. Main statements: `stripPrefix?_eq_some_iff` (stripping a
prefix inverts putting it in front) and `join_split` (joining undoes
splitting). The operations are put together from the list functions of
the core library, so that the program needs no other.
-/

set_option autoImplicit false

namespace SiteSync

/-- Text is a list of characters. -/
abbrev Text := List Char

/-- Binary content is a list of bytes. -/
abbrev Bytes := List UInt8

namespace Text

/-- The text as a string, for messages. -/
def str (t : Text) : String := String.ofList t

/-! ### Prefixes -/

/-- Whether `t` starts with `p`. -/
def startsWith (t p : Text) : Bool := p.isPrefixOf t

/-- `stripPrefix? p t` is what follows `p` in `t`, if `t` starts with
`p`. -/
def stripPrefix? (p t : Text) : Option Text :=
  if startsWith t p then some (t.drop p.length) else none

/-- A text that starts with another is that one with something behind
it. -/
theorem startsWith_iff {t p : Text} : startsWith t p = true ↔ ∃ r, t = p ++ r := by
  rw [startsWith, List.isPrefixOf_iff_prefix]
  exact exists_congr fun r => eq_comm

/-- Stripping a prefix inverts putting it in front. -/
theorem stripPrefix?_eq_some_iff {p t r : Text} :
    stripPrefix? p t = some r ↔ t = p ++ r := by
  rw [stripPrefix?, Option.ite_none_right_eq_some, Option.some.injEq, startsWith_iff]
  constructor
  · rintro ⟨⟨r', rfl⟩, rfl⟩
    rw [List.drop_left]
  · rintro rfl
    exact ⟨⟨r, rfl⟩, List.drop_left⟩

/-- What is put in front of a text can be stripped again. -/
@[simp] theorem stripPrefix?_append (p r : Text) : stripPrefix? p (p ++ r) = some r :=
  stripPrefix?_eq_some_iff.2 rfl

/-- Whether `t` ends with `s`. -/
def endsWith (t s : Text) : Bool := s.isSuffixOf t

/-! ### Trimming -/

/-- `t` without the leading characters that satisfy `drop`. -/
def trimStart (drop : Char → Bool) (t : Text) : Text := t.dropWhile drop

/-- `t` without the trailing characters that satisfy `drop`. -/
def trimEnd (drop : Char → Bool) (t : Text) : Text := (t.reverse.dropWhile drop).reverse

/-- `t` without the leading and trailing characters that satisfy
`drop`. -/
def trim (drop : Char → Bool) (t : Text) : Text := trimEnd drop (trimStart drop t)

/-! ### Splitting and joining -/

/-- The pieces of a text between the separators. There is one piece
more than there are separators; the empty text is one empty piece. -/
def split (sep : Char) : Text → List Text
  | [] => [[]]
  | c :: cs =>
    if c = sep then [] :: split sep cs
    else
      match split sep cs with
      | [] => [[c]]
      | s :: ss => (c :: s) :: ss

/-- Puts the separator between the pieces. -/
def join (sep : Char) : List Text → Text
  | [] => []
  | [s] => s
  | s :: t :: ss => s ++ sep :: join sep (t :: ss)

/-- There is a piece even of the empty text. -/
theorem split_ne_nil (sep : Char) (t : Text) : split sep t ≠ [] := by
  cases t with
  | nil => simp [split]
  | cons c cs =>
    unfold split
    split
    · simp
    · split <;> simp

/-- Between a piece and those behind it is a separator. -/
theorem join_cons_of_ne_nil (sep : Char) (s : Text) {ss : List Text} (h : ss ≠ []) :
    join sep (s :: ss) = s ++ sep :: join sep ss := by
  cases ss with
  | nil => exact absurd rfl h
  | cons t ss => rfl

/-- Joining the pieces again gives the text back. -/
theorem join_split (sep : Char) (t : Text) : join sep (split sep t) = t := by
  induction t with
  | nil => rfl
  | cons c cs ih =>
    by_cases h : c = sep
    · simp [split, h, join_cons_of_ne_nil sep [] (split_ne_nil sep cs), ih]
    · cases hs : split sep cs with
      | nil => exact absurd hs (split_ne_nil sep cs)
      | cons s ss =>
        rw [hs] at ih
        simp only [split, h, if_false, hs]
        cases ss with
        | nil => simpa [join] using ih
        | cons s' ss => simpa [join] using ih

/-- How often a character occurs. -/
def count (c : Char) (t : Text) : Nat := List.count c t

/-! ### ASCII case -/

/-- Every ASCII capital replaced by its small letter. -/
def toLowerAscii (t : Text) : Text := t.map Char.toLower

/-- Equality of names in which ASCII case does not count. -/
def eqIgnoreCase (a b : Text) : Bool := toLowerAscii a == toLowerAscii b

/-- Names are equal up to case when their small letters are. -/
theorem eqIgnoreCase_iff {a b : Text} :
    eqIgnoreCase a b = true ↔ toLowerAscii a = toLowerAscii b := by
  simp [eqIgnoreCase]

/-! ### Encoding -/

/-- The UTF-8 encoding of a text. -/
def toBytes (t : Text) : Bytes := t.flatMap String.utf8EncodeChar

end Text

end SiteSync
