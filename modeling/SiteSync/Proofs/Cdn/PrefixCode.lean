import SiteSync.Proofs.Cdn.Coverage

/-!
# `SiteSync.Proofs.Cdn.PrefixCode`: escaped patterns match escaped paths

Patterns and paths are escaped before a distribution compares them, and
it compares what they look like then. That comes to the same: an escaped
path can be read back, no escaped path starts with another unless the
paths do, and the slashes and the star of a wildcard are written by
slashes and stars only.

A path is a sequence of characters here, and a request carries bytes.
Escaping the bytes of a path one by one gives the same text, and so does
leaving a path alone that has nothing to escape in it:

- `escapeBytes_toBytes`: byte by byte.
- `copyOrEscape_eq`: or not at all.
- `escaped_escape`: which characters an escaped path is made of.
- `covers_escape_iff`, `fits_escape_iff`: what a pattern matches.
- `escape_is_prefix_code`: all of it, for any path and any pattern.
-/

set_option autoImplicit false

namespace SiteSync.Cdn

variable {c m : Char} {s t d : Text}

/-! ### Characters and their bytes -/

/-- Whether a byte stands for itself in an escaped path. -/
def isPlainByte (b : UInt8) : Bool := isPlain (Char.ofNat b.toNat)

/-- Only ASCII characters stand for themselves. -/
theorem toNat_lt_of_isPlain (h : isPlain c = true) : c.toNat < 128 := by
  unfold isPlain at h
  rcases Bool.or_eq_true_iff.1 h with halnum | hmark
  · have hranges : (decide ('A'.val ≤ c.val ∧ c.val ≤ 'Z'.val) ||
        (decide ('a'.val ≤ c.val) && decide (c.val ≤ 'z'.val)) ||
        (decide ('0'.val ≤ c.val) && decide (c.val ≤ '9'.val))) = true := halnum
    simp only [Bool.or_eq_true, Bool.and_eq_true, decide_eq_true_eq, UInt32.le_iff_toNat_le,
      Char.toNat_val, Char.reduceToNat] at hranges
    omega
  · have hsmall : plainMarks.all (fun m => decide (m.toNat < 128)) = true := rfl
    exact of_decide_eq_true (List.all_eq_true.1 hsmall c (List.contains_iff_mem.1 hmark))

/-- No character above ASCII stands for itself. -/
theorem isPlain_eq_false_of_le (h : 128 ≤ c.toNat) : isPlain c = false := by
  rw [← Bool.not_eq_true]
  exact fun hplain => absurd (toNat_lt_of_isPlain hplain) (Nat.not_lt.2 h)

/-- An ASCII character is one byte. -/
theorem utf8EncodeChar_of_lt (h : c.toNat < 128) :
    String.utf8EncodeChar c = [UInt8.ofNat c.toNat] := by
  have hval : c.val.toNat ≤ 127 := Nat.le_of_lt_succ h
  unfold String.utf8EncodeChar
  dsimp only
  rw [if_pos hval]
  rfl

/-- The bytes of any other character are above those of ASCII. -/
theorem le_of_mem_utf8EncodeChar (h : 128 ≤ c.toNat) {b : UInt8}
    (hb : b ∈ String.utf8EncodeChar c) : 128 ≤ b.toNat := by
  have hlarge : ¬c.val.toNat ≤ 127 := Nat.not_le.2 h
  unfold String.utf8EncodeChar at hb
  dsimp only at hb
  rw [if_neg hlarge] at hb
  split at hb <;> (try split at hb) <;>
    simp only [List.mem_cons, List.not_mem_nil, or_false] at hb <;>
    rcases hb with rfl | rfl | rfl | rfl <;> simp <;> omega

/-- The number of an ASCII character fits in a byte. -/
theorem toNat_ofNat_of_lt (h : c.toNat < 128) : (UInt8.ofNat c.toNat).toNat = c.toNat :=
  UInt8.toNat_ofNat_of_lt' (Nat.lt_trans h (by decide))

/-- The byte of an ASCII character stands for itself when the character
does. -/
theorem isPlainByte_ofNat (h : c.toNat < 128) : isPlainByte (UInt8.ofNat c.toNat) = isPlain c := by
  rw [isPlainByte, toNat_ofNat_of_lt h, Char.ofNat_toNat]

/-- No byte above ASCII stands for itself. -/
theorem isPlainByte_eq_false_of_le {b : UInt8} (h : 128 ≤ b.toNat) : isPlainByte b = false := by
  have hvalid : b.toNat.isValidChar := .inl (Nat.lt_trans b.toNat_lt (by decide))
  have hchar : (Char.ofNat b.toNat).toNat = b.toNat := by
    rw [Char.ofNat, dif_pos hvalid]
    rfl
  refine isPlain_eq_false_of_le ?_
  rw [hchar]
  exact h

/-- A character stands for itself if its bytes do. -/
theorem all_isPlainByte_utf8EncodeChar (c : Char) :
    (String.utf8EncodeChar c).all isPlainByte = isPlain c := by
  rcases Nat.lt_or_ge c.toNat 128 with hsmall | hlarge
  · rw [utf8EncodeChar_of_lt hsmall, List.all_cons, List.all_nil, Bool.and_true,
      isPlainByte_ofNat hsmall]
  · have hplain : isPlain c = false := isPlain_eq_false_of_le hlarge
    obtain ⟨b, bs, hbs⟩ := List.exists_cons_of_ne_nil (String.utf8EncodeChar_ne_nil (c := c))
    have hb : isPlainByte b = false :=
      isPlainByte_eq_false_of_le (le_of_mem_utf8EncodeChar hlarge (hbs ▸ List.mem_cons_self))
    rw [hbs, List.all_cons, hb, Bool.false_and, hplain]

/-! ### Escaping bytes -/

/-- The escaped form of one byte. -/
def escapedByte (b : UInt8) : Text :=
  if isPlainByte b then [Char.ofNat b.toNat] else escapeByte b

/-- The escaped form of some bytes, one by one. -/
def escapeBytes (bs : Bytes) : Text := bs.flatMap escapedByte

/-- The escaped form of a path, which is the path itself if each of its
bytes stands for itself. -/
def copyOrEscape (t : Text) : Text :=
  if (Text.toBytes t).all isPlainByte then t else escapeBytes (Text.toBytes t)

/-- Bytes are escaped one by one. -/
theorem escapeBytes_append (as bs : Bytes) :
    escapeBytes (as ++ bs) = escapeBytes as ++ escapeBytes bs := List.flatMap_append

/-- The bytes of a character are escaped like the character. -/
theorem escapeBytes_utf8EncodeChar (c : Char) :
    escapeBytes (String.utf8EncodeChar c) = escapeChar c := by
  rcases Nat.lt_or_ge c.toNat 128 with hsmall | hlarge
  · have hbyte : (UInt8.ofNat c.toNat).toNat = c.toNat := toNat_ofNat_of_lt hsmall
    rw [escapeChar, utf8EncodeChar_of_lt hsmall, escapeBytes, List.flatMap_singleton,
      List.flatMap_singleton, escapedByte, isPlainByte_ofNat hsmall, hbyte, Char.ofNat_toNat]
  · have hnone : ∀ b ∈ String.utf8EncodeChar c, escapedByte b = escapeByte b := by
      intro b hb
      have hplain : isPlainByte b = false :=
        isPlainByte_eq_false_of_le (le_of_mem_utf8EncodeChar hlarge hb)
      rw [escapedByte, hplain, if_neg Bool.false_ne_true]
    rw [escapeChar, isPlain_eq_false_of_le hlarge, if_neg Bool.false_ne_true, escapeBytes]
    exact List.flatMap_congr hnone

/-- Escaping a path byte by byte is escaping it character by
character. -/
theorem escapeBytes_toBytes (t : Text) : escapeBytes (Text.toBytes t) = escape t := by
  induction t with
  | nil => rfl
  | cons c t ih =>
    rw [Text.toBytes_cons, escapeBytes_append, escapeBytes_utf8EncodeChar, ih, escape_cons]

/-- Every byte of a path stands for itself if every character does. -/
theorem all_isPlainByte_toBytes (t : Text) :
    (Text.toBytes t).all isPlainByte = t.all isPlain := by
  induction t with
  | nil => rfl
  | cons c t ih =>
    rw [Text.toBytes_cons, List.all_append, all_isPlainByte_utf8EncodeChar, ih, List.all_cons]

/-- A path that needs no escape is left as it is. -/
theorem escape_eq_self (h : t.all isPlain = true) : escape t = t := by
  induction t with
  | nil => rfl
  | cons c t ih =>
    rw [List.all_cons, Bool.and_eq_true] at h
    rw [escape_cons, escapeChar, if_pos h.1, ih h.2]
    rfl

/-- It makes no difference whether a path that needs no escape is escaped.
-/
theorem copyOrEscape_eq (t : Text) : copyOrEscape t = escape t := by
  unfold copyOrEscape
  split
  case isTrue h =>
    rw [all_isPlainByte_toBytes] at h
    exact (escape_eq_self h).symm
  case isFalse => exact escapeBytes_toBytes t

/-! ### What an escaped path is made of -/

/-- Letters, digits and marks, and percent signs with two capital
hexadecimal digits behind each. -/
inductive Escaped : Text → Prop
  /-- The end. -/
  | nil : Escaped []
  /-- A letter, a digit or a mark. -/
  | plain {c : Char} {t : Text} (hc : c.isAlphanum = true ∨ c ∈ "$-_.+!*'(),/:@=&".toList)
    (rest : Escaped t) : Escaped (c :: t)
  /-- A percent sign with its digits. -/
  | percent {a b : Char} {t : Text} (ha : a ∈ "0123456789ABCDEF".toList)
    (hb : b ∈ "0123456789ABCDEF".toList) (rest : Escaped t) : Escaped ('%' :: a :: b :: t)

/-- The digits that are written are capital ones. -/
theorem hexDigit_mem {n : Nat} (h : n < 16) : hexDigit n ∈ "0123456789ABCDEF".toList := by
  have hall : ∀ m < 16, hexDigit m ∈ "0123456789ABCDEF".toList := by decide
  exact hall n h

/-- The digits of some bytes, in front of what is escaped. -/
theorem Escaped.bytes (h : Escaped t) (bs : Bytes) : Escaped (bs.flatMap escapeByte ++ t) := by
  induction bs with
  | nil => exact h
  | cons b bs ih =>
    have hb : b.toNat < 256 := b.toNat_lt
    exact .percent (hexDigit_mem (by omega)) (hexDigit_mem (by omega)) ih

/-- An escaped path is made of nothing else. -/
theorem escaped_escape (t : Text) : Escaped (escape t) := by
  induction t with
  | nil => exact .nil
  | cons c t ih =>
    rw [escape_cons, escapeChar]
    split
    case isTrue h =>
      have hmark : c.isAlphanum = true ∨ c ∈ "$-_.+!*'(),/:@=&".toList :=
        (Bool.or_eq_true_iff.1 h).imp_right List.contains_iff_mem.1
      exact .plain hmark ih
    case isFalse => exact ih.bytes _

/-! ### Patterns -/

/-- What is not left as it is ends in a digit. -/
theorem escapeChar_eq_concat (h : isPlain c = false) :
    ∃ front n, n < 16 ∧ escapeChar c = front ++ [hexDigit n] := by
  obtain ⟨bs, b, hbytes⟩ : ∃ bs b, String.utf8EncodeChar c = bs ++ [b] :=
    ⟨_, _, (List.dropLast_append_getLast String.utf8EncodeChar_ne_nil).symm⟩
  refine ⟨bs.flatMap escapeByte ++ ['%', hexDigit (b.toNat / 16)], b.toNat % 16,
    Nat.mod_lt _ (by decide), ?_⟩
  rw [escapeChar, h, if_neg Bool.false_ne_true, hbytes, List.flatMap_append,
    List.flatMap_singleton, List.append_assoc]
  rfl

/-- A character at the end of an escaped path that is no digit stands for
itself. -/
theorem exists_of_escape_eq_concat (hm : m ∉ "0123456789ABCDEF".toList)
    (h : escape t = d ++ [m]) : ∃ front, t = front ++ [m] ∧ escape front = d := by
  induction t using List.reverseRecOn with
  | nil => exact absurd h.symm (List.append_ne_nil_of_right_ne_nil d (List.cons_ne_nil m []))
  | append_singleton front c =>
    have hlast : escape front ++ escapeChar c = d ++ [m] := by
      rw [← h, escape_append, escape, escape, List.flatMap_singleton]
    cases hplain : isPlain c with
    | true =>
      rw [escapeChar, if_pos hplain] at hlast
      obtain ⟨hfront, hc⟩ := List.append_inj' hlast rfl
      obtain rfl := List.singleton_inj.1 hc
      exact ⟨front, rfl, hfront⟩
    | false =>
      obtain ⟨w, n, hn, hdigit⟩ := escapeChar_eq_concat hplain
      rw [hdigit, ← List.append_assoc] at hlast
      have hc : hexDigit n = m := List.singleton_inj.1 (List.append_inj' hlast rfl).2
      exact absurd (hc ▸ hexDigit_mem hn) hm

/-- Whether a pattern matches a path: it is that path, or what is before
the star at its end is what the path starts with. -/
def Fits (x u : Text) : Prop := x = u ∨ ∃ stem, x = stem ++ ['*'] ∧ stem <+: u

/-- A path and a pattern may both be escaped: the one matches the other as
it did before. -/
theorem fits_escape_iff : Fits (escape t) (escape s) ↔ Fits t s := by
  refine or_congr escape_injective.eq_iff ⟨?_, ?_⟩
  · rintro ⟨stem, hstar, hstart⟩
    obtain ⟨front, rfl, rfl⟩ := exists_of_escape_eq_concat (by decide) hstar
    exact ⟨front, rfl, escape_prefix_iff.1 hstart⟩
  · rintro ⟨stem, rfl, hstart⟩
    exact ⟨escape stem, escape_append stem ['*'], escape_prefix_iff.2 hstart⟩

/-- An escaped wildcard covers an escaped path if the wildcard covers the
path, and only then. -/
theorem covers_escape_iff : Covers (escape t) (escape s) ↔ Covers t s := by
  refine ⟨?_, Covers.escape⟩
  rintro (heq | ⟨dir, hwild, hstart⟩)
  · rw [escape_injective heq]
    exact .refl s
  · have hstar : escape t = (dir ++ ['/']) ++ ['*'] := by rw [hwild, List.append_assoc]; rfl
    obtain ⟨front, rfl, hslash⟩ := exists_of_escape_eq_concat (by decide) hstar
    obtain ⟨dir, rfl, rfl⟩ := exists_of_escape_eq_concat (by decide) hslash
    obtain ⟨rest, hrest⟩ := Text.startsWith_iff.1 hstart
    have hunder : escape (dir ++ ['/']) <+: escape s :=
      ⟨rest, by rw [escape_append, hrest]; rfl⟩
    obtain ⟨rest, rfl⟩ := escape_prefix_iff.1 hunder
    exact .inr ⟨dir, List.append_assoc dir ['/'] ['*'], Text.startsWith_iff.2 ⟨rest, rfl⟩⟩

/-! ### The code -/

/-- Every escaped path can be read back, and has nothing but plain
characters and the digits of bytes in it. Byte by byte it is the same,
and a path with nothing to escape is left alone. It starts with another
if the paths do, and only then, so a pattern matches a path if the
escaped pattern matches the escaped path, and only then. -/
theorem escape_is_prefix_code (s t : Text) :
    unescape (escape s) = Text.toBytes s ∧ Escaped (escape s) ∧
      escapeBytes (Text.toBytes s) = escape s ∧ copyOrEscape s = escape s ∧
      (escape t <+: escape s ↔ t <+: s) ∧
      (Fits (escape t) (escape s) ↔ Fits t s) ∧ (Covers (escape t) (escape s) ↔ Covers t s) :=
  ⟨unescape_escape s, escaped_escape s, escapeBytes_toBytes s, copyOrEscape_eq s,
    escape_prefix_iff, fits_escape_iff, covers_escape_iff⟩

end SiteSync.Cdn
