import SiteSync.Text.Basic

/-!
# `SiteSync.Proofs.Text.Split`: splitting undoes joining

`join_split` says that joining the pieces of a text gives the text back.
The other way round, pieces without the separator are the pieces of
their join:

* `split_append_sep`: a separator splits the pieces into those before it
  and those behind it.
* `split_join`: splitting undoes joining.
-/

set_option autoImplicit false

namespace SiteSync.Text

variable {sep : Char}

/-- No piece has the separator in it. -/
theorem not_mem_of_mem_split {s t : Text} (h : s ∈ split sep t) : sep ∉ s := by
  induction t generalizing s with
  | nil =>
    rw [split, List.mem_singleton] at h
    rw [h]
    exact List.not_mem_nil
  | cons c cs ih =>
    unfold split at h
    split at h
    case isTrue _ =>
      rcases List.mem_cons.1 h with rfl | h
      · exact List.not_mem_nil
      · exact ih h
    case isFalse hc =>
      cases hs : split sep cs with
      | nil => exact absurd hs (split_ne_nil sep cs)
      | cons p ps =>
        rw [hs] at h ih
        rcases List.mem_cons.1 h with rfl | h
        · intro hmem
          rcases List.mem_cons.1 hmem with rfl | hmem
          · exact hc rfl
          · exact ih List.mem_cons_self hmem
        · exact ih (List.mem_cons_of_mem _ h)

/-- A text without the separator is its only piece. -/
theorem split_of_not_mem {t : Text} (h : sep ∉ t) : split sep t = [t] := by
  induction t with
  | nil => rfl
  | cons c cs ih =>
    rw [List.mem_cons, not_or] at h
    rw [split, if_neg (Ne.symm h.1), ih h.2]

/-- The pieces of a text are those before a separator and those behind
it. -/
theorem split_append_sep (s t : Text) : split sep (s ++ sep :: t) = split sep s ++ split sep t := by
  induction s with
  | nil =>
    show split sep (sep :: t) = [] :: split sep t
    rw [split, if_pos rfl]
  | cons c cs ih =>
    rw [List.cons_append, split, split, ih]
    split
    case isTrue => rfl
    case isFalse =>
      obtain ⟨p, ps, hsplit⟩ := List.exists_cons_of_ne_nil (split_ne_nil sep cs)
      rw [hsplit]
      rfl

/-- The text up to the first separator is the first piece. -/
theorem split_append {s : Text} (h : sep ∉ s) (t : Text) :
    split sep (s ++ sep :: t) = s :: split sep t := by
  rw [split_append_sep, split_of_not_mem h, List.singleton_append]

/-- Splitting undoes joining, if no piece has the separator in it. -/
theorem split_join {ss : List Text} (hne : ss ≠ []) (h : ∀ s ∈ ss, sep ∉ s) :
    split sep (join sep ss) = ss := by
  induction ss with
  | nil => exact absurd rfl hne
  | cons s ss ih =>
    have hs : sep ∉ s := h s List.mem_cons_self
    cases ss with
    | nil => exact split_of_not_mem hs
    | cons t ts =>
      have hrest : split sep (join sep (t :: ts)) = t :: ts :=
        ih (List.cons_ne_nil t ts) fun u hu => h u (List.mem_cons_of_mem s hu)
      rw [join, split_append hs, hrest]

end SiteSync.Text
