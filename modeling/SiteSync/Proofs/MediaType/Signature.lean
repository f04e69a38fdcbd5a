import Mathlib.Data.List.Forall2
import Mathlib.Data.List.TakeWhile
import SiteSync.MediaType.OfFile

/-!
# `SiteSync.Proofs.MediaType.Signature`: no two media types fit the same content

`Recognised content type` says which types the leading bytes of some
content stand for, without an order in which they are tried: a tag, the
XML declaration, a signature, or the names of a chunk. Two of the tests
leave white space out and two do not, and one takes capitals and small
letters for the same. Still they can be compared: each test that applies
shows in the small letters that the trimmed content starts with
(`Recognised.exists_opening`), and no beginning of one type starts with a
beginning of another (`openings_exclusive`, checked pair by pair).

- `Recognised.unique`: content is recognised as one type at most.
- `findSome?_stages_eq_some_iff`: in whatever order the stages and their
  tables are, they find the type that the content is recognised as.
- `sniffBy_of_recognised`, `sniffBy_of_not_recognised`: the verdict.
- `ofFile_eq_sniff`: how much of a file it depends on.
- `sniffs_in_any_order`: all of it together.

A signature that is added to a table and starts with another of a
different type is noticed in `openings_exclusive`.
-/

set_option autoImplicit false

namespace SiteSync.MediaType

variable {content rest s : Bytes} {type : Text} {stages : List Stage}

/-! ### Bytes -/

/-- The same byte, or the same letter of ASCII, one a capital and one
small. -/
def SameButForCase (a b : UInt8) : Prop :=
  a = b ∨ (0x41 ≤ a ∧ a ≤ 0x5a ∧ b = a + 0x20) ∨ (0x41 ≤ b ∧ b ≤ 0x5a ∧ a = b + 0x20)

/-- White space: tabulators, line ends, form feeds and blanks. -/
def blanks : Bytes := [0x09, 0x0a, 0x0c, 0x0d, 0x20]

/-- A byte that texts do not have: a control character other than
`0x09`, `0x0a`, `0x0c`, `0x0d` and `0x1b`. -/
def IsControl (b : UInt8) : Prop :=
  b ≤ 0x08 ∨ b = 0x0b ∨ (0x0e ≤ b ∧ b ≤ 0x1a) ∨ (0x1c ≤ b ∧ b ≤ 0x1f)

/-- As a number, a capital of ASCII grows by the distance to its small
letter, and every other byte stays. The iffs below are proved on numbers.
-/
theorem toNat_lowerByte (b : UInt8) :
    (lowerByte b).toNat =
      if 0x41 ≤ b.toNat ∧ b.toNat ≤ 0x5a then b.toNat + 0x20 else b.toNat := by
  have hcapital : (0x41 ≤ b && b ≤ 0x5a) = true ↔ 0x41 ≤ b.toNat ∧ b.toNat ≤ 0x5a := by
    simp [UInt8.le_iff_toNat_le]
  by_cases h : 0x41 ≤ b.toNat ∧ b.toNat ≤ 0x5a
  · -- Capitals are far from the end of the bytes, so nothing is carried over.
    have hstep : (0x20 : UInt8).toNat = 0x20 := rfl
    rw [lowerByte, if_pos (hcapital.2 h), if_pos h, UInt8.toNat_add, hstep]
    omega
  · rw [lowerByte, if_neg (mt hcapital.1 h), if_neg h]

/-- Two bytes are the same in small letters if they are the same or the
same letter. -/
theorem lowerByte_eq_iff {a b : UInt8} : lowerByte a = lowerByte b ↔ SameButForCase a b := by
  have ha : a.toNat < 256 := a.toNat_lt
  have hb : b.toNat < 256 := b.toNat_lt
  simp only [SameButForCase, ← UInt8.toNat_inj, toNat_lowerByte, UInt8.le_iff_toNat_le,
    UInt8.toNat_add, UInt8.reduceToNat]
  split <;> split <;> omega

/-- The same for names, byte by byte. -/
theorem forall₂_sameButForCase_iff {name tag : Bytes} :
    List.Forall₂ SameButForCase name tag ↔ name.map lowerByte = tag.map lowerByte := by
  rw [← List.forall₂_eq_eq_eq, List.forall₂_map_left_iff, List.forall₂_map_right_iff]
  simp only [lowerByte_eq_iff]

/-- The test for white space is membership of its five bytes. -/
theorem isSpaceByte_iff {b : UInt8} : isSpaceByte b = true ↔ b ∈ blanks := by
  simp [isSpaceByte, blanks, or_assoc]

/-- The name of a tag ends in a blank or in `>`. -/
theorem endsTag_iff {b : UInt8} : endsTag b = true ↔ b = 0x20 ∨ b = 0x3e := by
  simp [endsTag]

/-- The test for bytes that texts do not have finds the control
characters. -/
theorem isBinaryByte_iff {b : UInt8} : isBinaryByte b = true ↔ IsControl b := by
  simp [isBinaryByte, IsControl, or_assoc]

/-! ### White space in front -/

/-- Some bytes are what content has behind white space, if there is any. -/
def Behind (content rest : Bytes) : Prop :=
  ∃ blank, (∀ b ∈ blank, b ∈ blanks) ∧ content = blank ++ rest

/-- Trimming leaves what is behind the white space. -/
theorem behind_trimmed (content : Bytes) : Behind content (trimmed content) := by
  refine ⟨content.takeWhile isSpaceByte, fun b hb => ?_, List.takeWhile_append_dropWhile.symm⟩
  exact isSpaceByte_iff.1 (List.mem_takeWhile_imp hb)

/-- From the first byte on that is no white space, that is all there is. -/
theorem Behind.trimmed_eq (h : Behind content (s ++ rest)) (hs : ∃ b ∈ s.head?, b ∉ blanks) :
    trimmed content = s ++ rest := by
  obtain ⟨blank, hblank, rfl⟩ := h
  obtain ⟨b, hhead, hb⟩ := hs
  obtain ⟨bs, rfl⟩ := List.head?_eq_some_iff.1 hhead
  rw [trimmed, List.dropWhile_append_of_pos fun c hc => isSpaceByte_iff.2 (hblank c hc)]
  exact List.dropWhile_cons_of_neg (mt isSpaceByte_iff.1 hb)

/-! ### What content is recognised as -/

/-- The content starts with a tag, in capitals or not, behind white space,
and a blank or `>` ends the name of the tag. -/
def OpensWithTag (tag content : Bytes) : Prop :=
  ∃ name e rest, List.Forall₂ SameButForCase name tag ∧ (e = 0x20 ∨ e = 0x3e) ∧
    Behind content (name ++ e :: rest)

/-- The content starts with the names of a container and of a picture in
it, four bytes apart. -/
def OpensContainer (content : Bytes) : Prop :=
  ∃ size rest, size.length = 4 ∧
    content = Text.toBytes "RIFF".toList ++ (size ++ (Text.toBytes "WEBPVP".toList ++ rest))

/-- The types that the leading bytes of some content stand for. -/
inductive Recognised (content : Bytes) : Text → Prop
  /-- A tag of HTML. -/
  | html {tag : Bytes} (htag : tag ∈ htmlTags) (h : OpensWithTag tag content) :
    Recognised content "text/html; charset=utf-8".toList
  /-- The declaration, behind white space. -/
  | xml {rest : Bytes} (h : Behind content (xmlDeclaration ++ rest)) :
    Recognised content "text/xml; charset=utf-8".toList
  /-- A signature right at the beginning. -/
  | signature {s : Bytes × Text} (hs : s ∈ signatures) (h : s.1 <+: content) :
    Recognised content s.2
  /-- A container with a picture. -/
  | container (h : OpensContainer content) : Recognised content "image/webp".toList

/-! ### Types exclude one another -/

/-- What content of each type starts with behind white space, in small
letters. -/
def openings : List (Bytes × Text) :=
  (xmlDeclaration.map lowerByte, "text/xml; charset=utf-8".toList) ::
    ((Text.toBytes "RIFF".toList).map lowerByte, "image/webp".toList) ::
    (htmlTags.map (fun tag => (tag.map lowerByte, "text/html; charset=utf-8".toList)) ++
      signatures.map fun s => (s.1.map lowerByte, s.2))

/-- Beginnings of which one starts with the other are of one type. -/
theorem openings_exclusive : ∀ s ∈ openings, ∀ t ∈ openings, s.1 <+: t.1 → s.2 = t.2 := by
  decide +kernel

/-- No signature has white space in front. -/
theorem signatures_not_blank : ∀ s ∈ signatures, ∃ b ∈ s.1.head?, b ∉ blanks := by decide

/-- Every tag starts with `<`, which is no white space. -/
theorem head?_of_mem_htmlTags : ∀ tag ∈ htmlTags, tag.head? = some 0x3c := by decide

/-- The name of a tag starts with `<` in whatever case it is written. -/
theorem head?_of_forall₂ {name tag : Bytes} (htag : tag ∈ htmlTags)
    (hname : List.Forall₂ SameButForCase name tag) : name.head? = some 0x3c := by
  obtain ⟨rest, rfl⟩ := List.head?_eq_some_iff.1 (head?_of_mem_htmlTags tag htag)
  cases hname with
  | cons hfirst _ =>
    rcases hfirst with rfl | ⟨hle, hge, heq⟩ | ⟨hle, -⟩
    · rfl
    · -- A small letter is not `<`.
      simp only [UInt8.le_iff_toNat_le, ← UInt8.toNat_inj, UInt8.toNat_add, UInt8.reduceToNat]
        at hle hge heq
      omega
    · exact absurd hle (by decide)

/-- What starts with a tag behind white space is what trimming leaves:
white space is never part of the tag. -/
theorem Behind.trimmed_eq_of_tag {name tag : Bytes} (h : Behind content (name ++ rest))
    (htag : tag ∈ htmlTags) (hname : List.Forall₂ SameButForCase name tag) :
    trimmed content = name ++ rest :=
  h.trimmed_eq ⟨0x3c, head?_of_forall₂ htag hname, by decide⟩

/-- There is nothing to trim before a first byte that is no white space. -/
theorem trimmed_eq_self (hs : ∃ b ∈ s.head?, b ∉ blanks) (rest : Bytes) :
    trimmed (s ++ rest) = s ++ rest :=
  Behind.trimmed_eq ⟨[], by simp, rfl⟩ hs

/-- A test that applies shows in the small letters of the trimmed content. -/
theorem Recognised.exists_opening (h : Recognised content type) :
    ∃ s ∈ openings, s.2 = type ∧ s.1 <+: (trimmed content).map lowerByte := by
  -- Each test looks at the trimmed content, or at content that has nothing to trim.
  have hstarts : ∀ s rest : Bytes, s.map lowerByte <+: (s ++ rest).map lowerByte :=
    fun s rest => (List.prefix_append s rest).map lowerByte
  cases h with
  | @html tag htag h =>
    obtain ⟨name, e, rest, hname, -, hbehind⟩ := h
    refine ⟨(tag.map lowerByte, _), ?_, rfl, ?_⟩
    · simp only [openings, List.mem_cons, List.mem_append, List.mem_map]
      exact .inr (.inr (.inl ⟨tag, htag, rfl⟩))
    · rw [hbehind.trimmed_eq_of_tag htag hname, ← forall₂_sameButForCase_iff.1 hname]
      exact hstarts name _
  | xml hbehind =>
    refine ⟨(xmlDeclaration.map lowerByte, _), List.mem_cons_self, rfl, ?_⟩
    rw [hbehind.trimmed_eq (by decide)]
    exact hstarts xmlDeclaration _
  | @signature s hs h =>
    obtain ⟨rest, rfl⟩ := h
    refine ⟨(s.1.map lowerByte, s.2), ?_, rfl, ?_⟩
    · simp only [openings, List.mem_cons, List.mem_append, List.mem_map]
      exact .inr (.inr (.inr ⟨s, hs, rfl⟩))
    · rw [trimmed_eq_self (signatures_not_blank s hs)]
      exact hstarts s.1 rest
  | container h =>
    obtain ⟨size, rest, -, rfl⟩ := h
    refine ⟨((Text.toBytes "RIFF".toList).map lowerByte, _),
      List.mem_cons_of_mem _ List.mem_cons_self, rfl, ?_⟩
    rw [trimmed_eq_self (by decide)]
    exact hstarts (Text.toBytes "RIFF".toList) _

/-- Content is recognised as one type at most. -/
theorem Recognised.unique {type' : Text} (h : Recognised content type)
    (h' : Recognised content type') : type = type' := by
  obtain ⟨s, hs, rfl, hstart⟩ := h.exists_opening
  obtain ⟨t, ht, rfl, hstart'⟩ := h'.exists_opening
  -- Of two beginnings of the same content one starts with the other.
  rcases List.prefix_or_prefix_of_prefix hstart hstart' with hprefix | hprefix
  · exact openings_exclusive s hs t ht hprefix
  · exact (openings_exclusive t ht s hs hprefix).symm

/-! ### What the stages find -/

/-- Content passes the test for a tag if it starts with the name of the
tag, in capitals or not, and with something that ends the name. -/
theorem startsWithTag_iff {tag : Bytes} :
    startsWithTag tag content = true ↔ ∃ name e rest, content = name ++ e :: rest ∧
      List.Forall₂ SameButForCase name tag ∧ (e = 0x20 ∨ e = 0x3e) := by
  rw [startsWithTag, Bool.and_eq_true, beq_iff_eq, ← forall₂_sameButForCase_iff]
  constructor
  · rintro ⟨hname, hend⟩
    -- A byte has to stand behind the name.
    cases hdrop : content.drop tag.length with
    | nil =>
      rw [hdrop] at hend
      cases hend
    | cons e rest =>
      rw [hdrop] at hend
      refine ⟨content.take tag.length, e, rest, ?_, hname, endsTag_iff.1 hend⟩
      rw [← hdrop, List.take_append_drop]
  · rintro ⟨name, e, rest, rfl, hname, hend⟩
    rw [List.take_left' hname.length_eq, List.drop_left' hname.length_eq]
    exact ⟨hname, endsTag_iff.2 hend⟩

/-- Tested without its white space in front, content passes if it opens
with the tag. -/
theorem startsWithTag_trimmed_iff {tag : Bytes} (htag : tag ∈ htmlTags) :
    startsWithTag tag (trimmed content) = true ↔ OpensWithTag tag content := by
  rw [startsWithTag_iff]
  constructor
  · rintro ⟨name, e, rest, heq, hname, hend⟩
    exact ⟨name, e, rest, hname, hend, heq ▸ behind_trimmed content⟩
  · rintro ⟨name, e, rest, hname, hend, hbehind⟩
    exact ⟨name, e, rest, hbehind.trimmed_eq_of_tag htag hname, hname, hend⟩

/-- The first stage finds content that opens with one of the tags,
whatever order they are tried in. -/
theorem htmlStage_eq_some_iff {tags : List Bytes} (htags : tags.Perm htmlTags) :
    htmlStage tags content = some type ↔
      type = "text/html; charset=utf-8".toList ∧ ∃ tag ∈ htmlTags, OpensWithTag tag content := by
  rw [htmlStage, Option.ite_none_right_eq_some, List.any_eq_true, Option.some_inj, and_comm,
    eq_comm]
  refine and_congr_right fun _ => exists_congr fun tag => ?_
  rw [htags.mem_iff]
  exact and_congr_right startsWithTag_trimmed_iff

/-- The second stage finds content that starts with an XML declaration. -/
theorem xmlStage_eq_some_iff :
    xmlStage content = some type ↔
      type = "text/xml; charset=utf-8".toList ∧ ∃ rest, Behind content (xmlDeclaration ++ rest) := by
  rw [xmlStage, Option.ite_none_right_eq_some, List.isPrefixOf_iff_prefix, Option.some_inj,
    and_comm, eq_comm]
  refine and_congr_right fun _ => ⟨fun ⟨rest, heq⟩ => ⟨rest, ?_⟩, fun ⟨rest, hbehind⟩ => ?_⟩
  · exact heq ▸ behind_trimmed content
  · rw [hbehind.trimmed_eq (by decide)]
    exact List.prefix_append _ _

/-- A signature that fits may not be the first one to fit, but the first
one is of the same type. -/
theorem signatureStage_eq_some_iff {table : List (Bytes × Text)} (htable : table.Perm signatures) :
    signatureStage table content = some type ↔ ∃ s ∈ signatures, s.1 <+: content ∧ s.2 = type := by
  have hfound : ∀ s, table.find? (fun s => s.1.isPrefixOf content) = some s →
      s ∈ signatures ∧ s.1 <+: content := by
    intro s hfind
    have hstarts := List.find?_some hfind
    exact ⟨htable.mem_iff.1 (List.mem_of_find?_eq_some hfind), List.isPrefixOf_iff_prefix.1 hstarts⟩
  rw [signatureStage, Option.map_eq_some_iff]
  constructor
  · rintro ⟨s, hfind, rfl⟩
    exact ⟨s, (hfound s hfind).1, (hfound s hfind).2, rfl⟩
  · rintro ⟨s, hs, hstarts, rfl⟩
    -- The first that is found may be another, but of the same type.
    have hsome : (table.find? fun s => s.1.isPrefixOf content).isSome = true :=
      List.find?_isSome.2 ⟨s, htable.mem_iff.2 hs, List.isPrefixOf_iff_prefix.2 hstarts⟩
    obtain ⟨first, hfind⟩ := Option.isSome_iff_exists.1 hsome
    obtain ⟨hfirst, hstarts'⟩ := hfound first hfind
    exact ⟨first, hfind,
      (Recognised.signature hfirst hstarts').unique (.signature hs hstarts)⟩

/-- The last stage finds the pictures in a container. -/
theorem containerStage_eq_some_iff :
    containerStage content = some type ↔ type = "image/webp".toList ∧ OpensContainer content := by
  have hname : (Text.toBytes "RIFF".toList).length = 4 := by decide
  have hpicture : (Text.toBytes "WEBPVP".toList).length = 6 := by decide
  rw [containerStage, Option.ite_none_right_eq_some, Bool.and_eq_true, List.isPrefixOf_iff_prefix,
    List.isPrefixOf_iff_prefix, Option.some_inj, and_comm, eq_comm]
  refine and_congr_right fun _ => ⟨?_, ?_⟩
  · rintro ⟨⟨behind, rfl⟩, rest, hrest⟩
    rw [List.drop_append, hname, List.drop_of_length_le (by omega), List.nil_append] at hrest
    refine ⟨behind.take 4, rest, ?_, ?_⟩
    · -- Something stands behind the four bytes, so all four are there.
      have hlength := congrArg List.length hrest
      rw [List.length_append, List.length_drop] at hlength
      rw [List.length_take]
      omega
    · rw [hrest]
      exact congrArg _ (List.take_append_drop 4 behind).symm
  · rintro ⟨size, rest, hsize, rfl⟩
    refine ⟨List.prefix_append _ _, rest, ?_⟩
    rw [← List.append_assoc]
    exact (List.drop_left' (by rw [List.length_append, hname, hsize])).symm

/-- The four stages in any order, each with its table in any order. -/
def IsOrdering (stages : List Stage) : Prop :=
  ∃ tags table, tags.Perm htmlTags ∧ table.Perm signatures ∧
    stages.Perm [htmlStage tags, xmlStage, signatureStage table, containerStage]

/-- Together the stages find what the content is recognised as. -/
theorem IsOrdering.exists_stage_iff (h : IsOrdering stages) :
    (∃ stage ∈ stages, stage content = some type) ↔ Recognised content type := by
  obtain ⟨tags, table, htags, htable, hstages⟩ := h
  have hmem : (∃ stage ∈ stages, stage content = some type) ↔
      htmlStage tags content = some type ∨ xmlStage content = some type ∨
        signatureStage table content = some type ∨ containerStage content = some type := by
    simp [hstages.mem_iff]
  rw [hmem, htmlStage_eq_some_iff htags, xmlStage_eq_some_iff, signatureStage_eq_some_iff htable,
    containerStage_eq_some_iff]
  constructor
  · rintro (⟨rfl, tag, htag, hopens⟩ | ⟨rfl, rest, hbehind⟩ | ⟨s, hs, hstarts, rfl⟩ | ⟨rfl, hopens⟩)
    · exact .html htag hopens
    · exact .xml hbehind
    · exact .signature hs hstarts
    · exact .container hopens
  · intro hrecognised
    cases hrecognised with
    | html htag hopens => exact .inl ⟨rfl, _, htag, hopens⟩
    | xml hbehind => exact .inr (.inl ⟨rfl, _, hbehind⟩)
    | signature hs hstarts => exact .inr (.inr (.inl ⟨_, hs, hstarts, rfl⟩))
    | container hopens => exact .inr (.inr (.inr ⟨rfl, hopens⟩))

/-- In whatever order the stages and the tables are, the first type that
is found is the one that the content is recognised as. -/
theorem findSome?_stages_eq_some_iff (h : IsOrdering stages) :
    stages.findSome? (· content) = some type ↔ Recognised content type := by
  constructor
  · intro hfound
    exact h.exists_stage_iff.1 (List.exists_of_findSome?_eq_some hfound)
  · intro hrecognised
    obtain ⟨stage, hstage, hfinds⟩ := h.exists_stage_iff.2 hrecognised
    have hsome : (stages.findSome? (· content)).isSome = true :=
      List.findSome?_isSome_iff.2 ⟨stage, hstage, by rw [hfinds]; rfl⟩
    obtain ⟨first, hfound⟩ := Option.isSome_iff_exists.1 hsome
    -- The first stage to find a type may be another one, but finds the same.
    have hfirst : Recognised content first :=
      h.exists_stage_iff.1 (List.exists_of_findSome?_eq_some hfound)
    rw [hfound, hfirst.unique hrecognised]

/-! ### The verdict -/

/-- The order in which the stages are tried is one of the orders. -/
theorem isOrdering_default :
    IsOrdering [htmlStage htmlTags, xmlStage, signatureStage signatures, containerStage] :=
  ⟨htmlTags, signatures, .refl _, .refl _, .refl _⟩

/-- Nothing is found in content that is not recognised. -/
theorem findSome?_stages_eq_none_iff (h : IsOrdering stages) :
    stages.findSome? (· content) = none ↔ ∀ type, ¬Recognised content type := by
  rw [Option.eq_none_iff_forall_ne_some]
  exact forall_congr' fun type => not_congr (findSome?_stages_eq_some_iff h)

/-- In every order, content that is recognised gets its type. -/
theorem sniffBy_of_recognised (h : IsOrdering stages) (hrecognised : Recognised content type) :
    sniffBy stages content = type := by
  rw [sniffBy, (findSome?_stages_eq_some_iff h).2 hrecognised]
  rfl

/-- In every order, content that is not recognised is told by its bytes.
-/
theorem sniffBy_of_not_recognised (h : IsOrdering stages)
    (hnot : ∀ type, ¬Recognised content type) :
    sniffBy stages content = unrecognised content := by
  rw [sniffBy, (findSome?_stages_eq_none_iff h).2 hnot]
  rfl

/-- So the order makes no difference. -/
theorem sniffBy_eq_sniff (h : IsOrdering stages) (content : Bytes) :
    sniffBy stages content = sniff content := by
  have hsame : stages.findSome? (· content)
      = [htmlStage htmlTags, xmlStage, signatureStage signatures, containerStage].findSome?
          (· content) := by
    ext type
    rw [findSome?_stages_eq_some_iff h, findSome?_stages_eq_some_iff isOrdering_default]
  rw [sniff, sniffBy, sniffBy, hsame]

/-- Content that is not recognised is a text if it has no control
characters. -/
theorem unrecognised_eq_plainText_iff :
    unrecognised content = plainText ↔ ∀ b ∈ content, ¬IsControl b := by
  unfold unrecognised
  split
  case isTrue h =>
    obtain ⟨b, hb, hbinary⟩ := List.any_eq_true.1 h
    refine iff_of_false (by decide) fun hall => ?_
    exact hall b hb (isBinaryByte_iff.1 hbinary)
  case isFalse h =>
    refine iff_of_true rfl fun b hb hcontrol => ?_
    exact h (List.any_eq_true.2 ⟨b, hb, isBinaryByte_iff.2 hcontrol⟩)

/-- It is a text or just bytes, and never anything else. -/
theorem unrecognised_cases (content : Bytes) :
    unrecognised content = plainText ∨ unrecognised content = octetStream := by
  unfold unrecognised
  split
  case isTrue => exact .inr rfl
  case isFalse => exact .inl rfl

/-- What neither a route nor the extension tells is told by the first
bytes. -/
theorem ofFile_eq_sniff {path : Text} {route : Option Route}
    (hroute : route.bind (·.header headerName) = none) (hpath : ofPath? path = none)
    (content : Bytes) : ofFile path route content = sniff (content.take sniffLength) := by
  rw [ofFile, hroute, hpath]
  rfl

/-- Contents whose bytes agree up to a place have the same beginning. -/
theorem take_eq_of_agree {other : Bytes} {n : Nat} (h : ∀ i < n, content[i]? = other[i]?) :
    content.take n = other.take n := by
  refine List.ext_getElem? fun i => ?_
  rw [List.getElem?_take, List.getElem?_take]
  split
  case isTrue hi => exact h i hi
  case isFalse => rfl

/-- Content is recognised as one type at most, and that is the verdict,
whatever order the stages and their tables are in. Content that is not
recognised is plain text exactly if it has no control character that texts
do not have. Where neither a route nor the extension tells the type of a
file, it is the verdict on the first 512 bytes, so files that agree there
have the same type. -/
theorem sniffs_in_any_order (content : Bytes) :
    (∀ type type', Recognised content type → Recognised content type' → type = type') ∧
    (∀ stages, IsOrdering stages → sniffBy stages content = sniff content) ∧
    (∀ type, Recognised content type → sniff content = type) ∧
    ((∀ type, ¬Recognised content type) →
      (sniff content = plainText ∨ sniff content = octetStream) ∧
        (sniff content = plainText ↔ ∀ b ∈ content, ¬IsControl b)) ∧
    ∀ path route, route.bind (·.header headerName) = none → ofPath? path = none →
      ofFile path route content = sniff (content.take 512) ∧
        ∀ other, (∀ i < 512, content[i]? = other[i]?) →
          ofFile path route content = ofFile path route other := by
  refine ⟨fun type type' h h' => h.unique h', fun stages h => sniffBy_eq_sniff h content,
    fun type h => sniffBy_of_recognised isOrdering_default h, fun hnot => ?_,
    fun path route hroute hpath => ⟨ofFile_eq_sniff hroute hpath content, fun other hagree => ?_⟩⟩
  · -- No stage applies, so what is left is the test for control bytes.
    have hsniff : sniff content = unrecognised content :=
      sniffBy_of_not_recognised isOrdering_default hnot
    rw [hsniff]
    exact ⟨unrecognised_cases content, unrecognised_eq_plainText_iff⟩
  · rw [ofFile_eq_sniff hroute hpath, ofFile_eq_sniff hroute hpath]
    exact congrArg sniff (take_eq_of_agree hagree)

/-- A tag in small letters behind a line end, tried last and with its table
the other way round; a word in angles that is no tag; and a byte that is
too far behind to be seen. -/
theorem sniffs_in_any_order_sample :
    let stages := [containerStage, signatureStage signatures.reverse, xmlStage,
      htmlStage htmlTags.reverse]
    let page := Text.toBytes "\n<!doctype html>".toList
    let word := Text.toBytes "<pre>".toList
    let letters := List.replicate 512 (0x61 : UInt8)
    (IsOrdering stages ∧ sniffBy stages page = sniff page) ∧
    (Recognised page "text/html; charset=utf-8".toList ∧
      sniff page = "text/html; charset=utf-8".toList) ∧
    ((∀ type, ¬Recognised word type) ∧ (∀ b ∈ word, ¬IsControl b) ∧ sniff word = plainText) ∧
    ((∀ i < 512, letters[i]? = (letters ++ [0x00])[i]?) ∧ ofPath? "README".toList = none ∧
      ofFile "README".toList none letters = ofFile "README".toList none (letters ++ [0x00])) := by
  intro stages page word letters
  have hordering : IsOrdering stages :=
    ⟨htmlTags.reverse, signatures.reverse, List.reverse_perm _, List.reverse_perm _,
      List.reverse_perm [htmlStage _, xmlStage, signatureStage _, containerStage]⟩
  have hpage : Recognised page "text/html; charset=utf-8".toList :=
    (findSome?_stages_eq_some_iff isOrdering_default).1 (by decide)
  have hword : ∀ type, ¬Recognised word type :=
    (findSome?_stages_eq_none_iff isOrdering_default).1 (by decide)
  have hcontrol : ∀ b ∈ word, ¬IsControl b := unrecognised_eq_plainText_iff.1 (by decide)
  have hagree : ∀ i < 512, letters[i]? = (letters ++ [0x00])[i]? := fun i hi =>
    (List.getElem?_append_left (by rwa [List.length_replicate])).symm
  have hpath : ofPath? "README".toList = none := by decide
  obtain ⟨-, horder, hverdict, -, -⟩ := sniffs_in_any_order page
  obtain ⟨-, -, -, hplain, -⟩ := sniffs_in_any_order word
  obtain ⟨-, -, -, -, hfile⟩ := sniffs_in_any_order letters
  exact ⟨⟨hordering, horder stages hordering⟩, ⟨hpage, hverdict _ hpage⟩,
    ⟨hword, hcontrol, (hplain hword).2.2 hcontrol⟩,
    hagree, hpath, (hfile _ none rfl hpath).2 _ hagree⟩

end SiteSync.MediaType
