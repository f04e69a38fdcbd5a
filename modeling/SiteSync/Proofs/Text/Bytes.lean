import SiteSync.Text.Basic

/-!
# `SiteSync.Proofs.Text.Bytes`: texts and their encodings

Texts are compared character by character, stores and distributions
compare bytes. In UTF-8 that is the same: of two characters the one with
the smaller code point has the encoding that comes first, whatever
stands behind them.

- `toBytes_injective`: a text is known by its encoding.
- `utf8EncodeChar_append_lt`: one character.
- `toBytes_lt_iff`: the order of texts is the order of their encodings.
- `toBytes_prefix_iff`: so is what they start with.
-/

set_option autoImplicit false

namespace SiteSync.Text

variable {a b : Text}

/-- A text is known by its encoding. -/
theorem toBytes_injective : Function.Injective toBytes := by
  intro a b h
  have hencode : List.utf8Encode a = List.utf8Encode b := congrArg List.toByteArray h
  have hstring : String.ofList a = String.ofList b :=
    String.toByteArray_inj.1 (by rw [String.toByteArray_ofList, String.toByteArray_ofList, hencode])
  exact String.ofList_injective hstring

/-- The first character is encoded first. -/
theorem toBytes_cons (c : Char) (t : Text) :
    toBytes (c :: t) = String.utf8EncodeChar c ++ toBytes t := rfl

/-! ### The order of encodings -/

/-- The encoding of a smaller character comes first, whatever stands
behind the two. -/
theorem utf8EncodeChar_append_lt {c d : Char} (h : c < d) (s t : Bytes) :
    String.utf8EncodeChar c ++ s < String.utf8EncodeChar d ++ t := by
  have hlt : c.toNat < d.toNat := h
  have hlast : d.toNat < 0x110000 := by
    have hvalid := d.valid
    unfold UInt32.isValidChar Nat.isValidChar at hvalid
    have htoNat : d.toNat = d.val.toNat := rfl
    omega
  unfold String.utf8EncodeChar
  dsimp only
  -- Either the first bytes tell the lengths of the encodings apart, or the
  -- lengths are the same and the digits are compared from the highest down.
  split <;> split <;> (try split) <;> (try split) <;> (try split) <;> (try split) <;>
    simp (disch := omega) only [Char.toNat_val, List.cons_append, List.nil_append,
      List.cons_lt_cons_iff, UInt8.lt_iff_toNat_lt, ← UInt8.toNat_inj, UInt8.toNat_ofNat',
      Nat.reducePow, Nat.mod_eq_of_lt] at * <;> omega

/-- Encoding keeps the order: the first characters that differ decide
about the texts and about their encodings. -/
theorem toBytes_lt (h : a < b) : toBytes a < toBytes b := by
  induction a generalizing b with
  | nil =>
    cases b with
    | nil => exact absurd h (List.lt_irrefl _)
    | cons d b =>
      have hne : toBytes (d :: b) ≠ [] :=
        List.append_ne_nil_of_left_ne_nil String.utf8EncodeChar_ne_nil (toBytes b)
      obtain ⟨x, xs, hx⟩ := List.exists_cons_of_ne_nil hne
      rw [hx]
      exact List.nil_lt_cons x xs
  | cons c a ih =>
    cases b with
    | nil => exact absurd h (List.not_lt_nil _)
    | cons d b =>
      rw [toBytes_cons, toBytes_cons]
      -- The first characters differ, or what stands behind them does.
      rcases List.cons_lt_cons_iff.1 h with hlt | ⟨rfl, hlt⟩
      · exact utf8EncodeChar_append_lt hlt _ _
      · exact List.append_left_lt (ih hlt)

/-- The order of texts is the order of their encodings. -/
theorem toBytes_lt_iff : toBytes a < toBytes b ↔ a < b := by
  refine ⟨fun h => ?_, toBytes_lt⟩
  rcases Std.lt_trichotomy a b with hlt | rfl | hgt
  · exact hlt
  · exact absurd h (List.lt_irrefl _)
  · exact absurd h (List.lt_asymm (toBytes_lt hgt))

/-! ### Encodings that start with others -/

/-- Texts are encoded one after another. -/
theorem toBytes_append (a b : Text) : toBytes (a ++ b) = toBytes a ++ toBytes b :=
  List.flatMap_append

/-- No encoding of a character starts with that of another, so whatever
stands behind the two, equal bytes have the same first character. -/
theorem eq_of_utf8EncodeChar_append {c d : Char} {s t : Bytes}
    (h : String.utf8EncodeChar c ++ s = String.utf8EncodeChar d ++ t) : c = d := by
  rcases Std.lt_trichotomy c d with hlt | heq | hgt
  · exact absurd (h ▸ utf8EncodeChar_append_lt hlt s t) (List.lt_irrefl _)
  · exact heq
  · exact absurd (h ▸ utf8EncodeChar_append_lt hgt t s) (List.lt_irrefl _)

/-- The encoding of a text starts with that of another if the text does,
and only then. -/
theorem toBytes_prefix_iff : toBytes a <+: toBytes b ↔ a <+: b := by
  constructor
  · intro h
    induction a generalizing b with
    | nil => exact List.nil_prefix
    | cons c a ih =>
      obtain ⟨rest, hrest⟩ := h
      rw [toBytes_cons, List.append_assoc] at hrest
      cases b with
      | nil =>
        have hnil := List.append_eq_nil_iff.1 hrest
        exact absurd hnil.1 String.utf8EncodeChar_ne_nil
      | cons d b =>
        rw [toBytes_cons] at hrest
        -- No character is encoded as the start of another.
        obtain rfl := eq_of_utf8EncodeChar_append hrest
        exact List.cons_prefix_cons.2 ⟨rfl, ih ⟨rest, List.append_cancel_left hrest⟩⟩
  · rintro ⟨rest, rfl⟩
    exact ⟨toBytes rest, (toBytes_append a rest).symm⟩

end SiteSync.Text
