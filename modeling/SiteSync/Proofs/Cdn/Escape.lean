import SiteSync.Cdn.Escape
import SiteSync.Proofs.Text.Bytes

/-!
# `SiteSync.Proofs.Cdn.Escape`: escaped paths can be read back

A percent sign stands for itself nowhere, so an escaped path has one
reading: behind a percent sign the digits of a byte, and anywhere else a
character that stands for itself.

- `unescape_escape`: what is read is the path, byte by byte.
- `escape_prefix_iff`: no escaped path starts with another by chance.
- `escape_injective`: two paths with the same escaped form are the same.
- `escape_append`, `escape_wildcard`: pieces are escaped on their own, so
  a wildcard on a directory is one on the escaped directory.
-/

set_option autoImplicit false

namespace SiteSync.Cdn

/-! ### Pieces -/

/-- A path is escaped piece by piece. -/
theorem escape_append (s t : Text) : escape (s ++ t) = escape s ++ escape t := List.flatMap_append

/-- The first piece is the first character. -/
theorem escape_cons (c : Char) (t : Text) : escape (c :: t) = escapeChar c ++ escape t := rfl

/-- A wildcard stands for itself. -/
theorem escape_wildcard (t : Text) : escape (t ++ ['/', '*']) = escape t ++ ['/', '*'] :=
  escape_append t ['/', '*']

/-! ### Reading -/

/-- The number of a hexadecimal digit, capital or small. -/
def digitValue? (c : Char) : Option Nat :=
  if c.isDigit then some (c.toNat - '0'.toNat)
  else if 'A' ≤ c ∧ c ≤ 'F' then some (c.toNat - 'A'.toNat + 10)
  else if 'a' ≤ c ∧ c ≤ 'f' then some (c.toNat - 'a'.toNat + 10)
  else none

/-- The bytes that a text with percent signs stands for: two digits
behind a percent sign are a byte, and all else stands for itself. -/
def unescape : Text → Bytes
  | [] => []
  | '%' :: a :: b :: rest =>
    match digitValue? a, digitValue? b with
    | some high, some low => UInt8.ofNat (16 * high + low) :: unescape rest
    | _, _ => String.utf8EncodeChar '%' ++ unescape (a :: b :: rest)
  | c :: rest => String.utf8EncodeChar c ++ unescape rest

/-- A digit that was written is read as its number. -/
theorem digitValue?_hexDigit {n : Nat} (h : n < 16) : digitValue? (hexDigit n) = some n := by
  have hall : ∀ m < 16, digitValue? (hexDigit m) = some m := by decide
  exact hall n h

/-- The digits of a byte are read as the byte. -/
theorem unescape_escapeByte (b : UInt8) (rest : Text) :
    unescape (escapeByte b ++ rest) = b :: unescape rest := by
  have hb : b.toNat < 256 := b.toNat_lt
  have hhigh : digitValue? (hexDigit (b.toNat / 16)) = some (b.toNat / 16) :=
    digitValue?_hexDigit (by omega)
  have hlow : digitValue? (hexDigit (b.toNat % 16)) = some (b.toNat % 16) :=
    digitValue?_hexDigit (by omega)
  show unescape ('%' :: hexDigit (b.toNat / 16) :: hexDigit (b.toNat % 16) :: rest) = _
  rw [unescape, hhigh, hlow]
  dsimp only
  rw [Nat.div_add_mod, UInt8.ofNat_toNat]

/-- So are the digits of many bytes, whatever follows them. -/
theorem unescape_escapeBytes (bs : Bytes) (rest : Text) :
    unescape (bs.flatMap escapeByte ++ rest) = bs ++ unescape rest := by
  induction bs with
  | nil => rfl
  | cons b bs ih =>
    rw [List.flatMap_cons, List.append_assoc, unescape_escapeByte, ih, List.cons_append]

/-- A character that stands for itself is no percent sign. -/
theorem ne_percent_of_isPlain {c : Char} (h : isPlain c = true) : c ≠ '%' := by
  rintro rfl
  exact absurd h (by decide)

/-- A character is read as its encoding, however it was written. -/
theorem unescape_escapeChar (c : Char) (rest : Text) :
    unescape (escapeChar c ++ rest) = String.utf8EncodeChar c ++ unescape rest := by
  unfold escapeChar
  split
  case isTrue h =>
    rw [List.singleton_append, unescape]
    exact fun _ _ _ hpercent => absurd hpercent (ne_percent_of_isPlain h)
  case isFalse => exact unescape_escapeBytes _ rest

/-- Whatever stands behind an escaped path, the path is read first. -/
theorem unescape_escape_append (t rest : Text) :
    unescape (escape t ++ rest) = Text.toBytes t ++ unescape rest := by
  induction t with
  | nil => rfl
  | cons c t ih =>
    rw [escape_cons, List.append_assoc, unescape_escapeChar, ih, Text.toBytes_cons,
      List.append_assoc]

/-- An escaped path stands for the bytes of the path. -/
theorem unescape_escape (t : Text) : unescape (escape t) = Text.toBytes t := by
  have h := unescape_escape_append t []
  rwa [List.append_nil, unescape, List.append_nil] at h

/-- An escaped path starts with another if the paths do, and only then. -/
theorem escape_prefix_iff {s t : Text} : escape t <+: escape s ↔ t <+: s := by
  constructor
  · rintro ⟨rest, hrest⟩
    have hbytes : Text.toBytes t ++ unescape rest = Text.toBytes s := by
      rw [← unescape_escape_append, hrest, unescape_escape]
    exact Text.toBytes_prefix_iff.1 ⟨unescape rest, hbytes⟩
  · rintro ⟨rest, rfl⟩
    exact ⟨escape rest, (escape_append t rest).symm⟩

/-- Different paths have different escaped forms. -/
theorem escape_injective : Function.Injective escape := by
  intro a b h
  have hbytes : Text.toBytes a = Text.toBytes b := by
    rw [← unescape_escape a, ← unescape_escape b, h]
  exact Text.toBytes_injective hbytes

end SiteSync.Cdn
