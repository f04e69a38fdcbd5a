import Mathlib.Data.List.Nodup
import SiteSync.Cloud.BucketClient
import SiteSync.Proofs.LocalFile

/-!
# `SiteSync.Proofs.Cloud.ObjectHeaders`: the headers that travel with an object

Five headers have a meaning of their own for a store and travel in places
of their own, whatever the case of their names. All others travel as they
are, but in small letters. If a file had one name in two spellings, one of
the two would get lost on the way. It never has:

- `typed_ofHeaders`, `metadata_ofHeaders`: where a header goes.
- `holds_ofHeaders`: nothing is lost if no two names are the same but for
  case.
- `LocalFile.keeps_headers`: so all headers of a file are sent, and these
  are the ones its route asks for.
- `LocalFile.reports_sent_type_iff`: the media type that is sent is the
  last one the route names, and the one a file is said to have is the
  first.
-/

set_option autoImplicit false

namespace SiteSync

namespace Cloud.ObjectHeaders

open SiteSync.Headers (sameName)

variable {h : Headers} {e : Text × Text}

/-- The names with a meaning of their own, in small letters and in the
order of `typed`. -/
def typedNames : List Text :=
  ["content-type".toList, "cache-control".toList, "content-encoding".toList,
    "content-disposition".toList, "content-language".toList]

/-- Whether a header has a meaning of its own. -/
def isTyped (e : Text × Text) : Bool := typedNames.contains (Text.toLowerAscii e.1)

/-- The names are matched as strings, and compared as lists of characters.
-/
theorem ofList_eq_iff {t : Text} {s : String} : String.ofList t = s ↔ t = s.toList :=
  ⟨fun h => by rw [← h, String.toList_ofList], fun h => by rw [h, String.ofList_toList]⟩

/-- One more header goes to the place of its name, or to the rest. -/
theorem ofHeaders_concat (h : Headers) (e : Text × Text) :
    (ofHeaders (h ++ [e])).typed = List.zipWith
        (fun name value => if Text.toLowerAscii e.1 = name then some e.2 else value) typedNames
        (ofHeaders h).typed ∧
      (ofHeaders (h ++ [e])).metadata = if isTyped e then (ofHeaders h).metadata
        else Headers.insert e.1 e.2 (ofHeaders h).metadata := by
  unfold isTyped
  rw [ofHeaders, List.foldl_append, List.foldl_cons, List.foldl_nil, ← ofHeaders]
  split
  case h_6 h1 h2 h3 h4 h5 =>
    -- The name is none of the five.
    rw [ofList_eq_iff] at h1 h2 h3 h4 h5
    have hrest : ¬typedNames.contains (Text.toLowerAscii e.1) = true := by
      rw [List.contains_iff_mem]
      simp only [typedNames, List.mem_cons, List.not_mem_nil, or_false, not_or]
      exact ⟨h1, h2, h3, h4, h5⟩
    refine ⟨?_, (if_neg hrest).symm⟩
    simp only [typedNames, typed, List.zipWith_cons_cons, List.zipWith_nil_left, if_neg h1,
      if_neg h2, if_neg h3, if_neg h4, if_neg h5]
  all_goals
    rename_i hname
    rw [ofList_eq_iff.1 hname]
    exact ⟨rfl, rfl⟩

/-- The names are written in small letters already. -/
theorem sameName_typedName {name : Text} (hname : name ∈ typedNames) (a : Text) :
    sameName a name = true ↔ Text.toLowerAscii a = name := by
  have hsmall : ∀ name ∈ typedNames, Text.toLowerAscii name = name := by decide
  rw [Headers.sameName_iff, hsmall name hname]

/-- A header with a meaning of its own has the value that comes last. -/
theorem typed_ofHeaders (h : Headers) :
    (ofHeaders h).typed = typedNames.map h.lookupLast := by
  induction h using List.reverseRecOn with
  | nil => rfl
  | append_singleton h e ih =>
    rw [(ofHeaders_concat h e).1, ih, List.zipWith_map_right, List.zipWith_self]
    -- At each of the five places the question is the same, whether the name is that of the place.
    refine List.map_congr_left fun name hname => ?_
    rw [Headers.lookupLast_concat]
    exact if_congr (sameName_typedName hname e.1).symm rfl rfl

/-- All other headers are kept as they are. -/
theorem metadata_ofHeaders (hh : h.Ascending) :
    (ofHeaders h).metadata = h.filter fun e => !isTyped e := by
  induction h using List.reverseRecOn with
  | nil => rfl
  | append_singleton h e ih =>
    obtain ⟨hbefore, -, hlast⟩ := List.pairwise_append.1 hh
    rw [(ofHeaders_concat h e).2, ih hbefore, List.filter_append]
    cases htyped : isTyped e with
    | true => simp [htyped]
    | false =>
      -- The new name is behind all that are kept, so it is inserted at the end.
      have hall : ∀ x ∈ h.filter fun e => !isTyped e, x.1 < e.1 := fun x hx =>
        hlast x (List.mem_filter.1 hx).1 e List.mem_cons_self
      rw [if_neg Bool.false_ne_true, Headers.insert_of_forall_lt hall]
      simp [htyped]

/-! ### What travels -/

/-- A header with its name in small letters. -/
def lowered (e : Text × Text) : Text × Text := (Text.toLowerAscii e.1, e.2)

/-- The headers with a meaning of their own, by name. -/
def typedEntries (o : ObjectHeaders) : List (Text × Text) :=
  (typedNames.zip o.typed).filterMap fun p => p.2.map (p.1, ·)

/-- All headers of an object, with the names in small letters. -/
def entries (o : ObjectHeaders) : List (Text × Text) :=
  o.typedEntries ++ o.metadata.map lowered

/-- The headers of an object hold some headers, each of them once: the
five with a meaning of their own in their places, and all others as they
are. Small letters make no two names the same. -/
structure Holds (o : ObjectHeaders) (h : Headers) : Prop where
  /-- The five. -/
  typed : o.typed = typedNames.map h.lookup
  /-- The others. -/
  metadata : o.metadata = h.filter fun e => !isTyped e
  /-- All of them. -/
  entries : o.entries.Perm (h.map lowered)
  /-- No name is there twice. -/
  nodup : (o.entries.map Prod.fst).Nodup

/-- Each name has the last of its values, if it has one. -/
theorem typedEntries_ofHeaders (h : Headers) :
    (ofHeaders h).typedEntries
      = typedNames.filterMap fun name => (h.lookupLast name).map (name, ·) := by
  rw [typedEntries, typed_ofHeaders, List.zip_eq_zipWith, List.zipWith_map_right, List.zipWith_self,
    List.filterMap_map]
  rfl

/-- If no two names are the same then that is its only value. -/
theorem mem_typedEntries_iff (hh : h.Distinct) :
    e ∈ (ofHeaders h).typedEntries ↔ e.1 ∈ typedNames ∧ h.lookup e.1 = some e.2 := by
  rw [typedEntries_ofHeaders, List.mem_filterMap]
  constructor
  · rintro ⟨name, hname, hfound⟩
    obtain ⟨value, hvalue, rfl⟩ := Option.map_eq_some_iff.1 hfound
    exact ⟨hname, hh.lookupLast_eq name ▸ hvalue⟩
  · rintro ⟨hname, hfound⟩
    refine ⟨e.1, hname, Option.map_eq_some_iff.2 ⟨e.2, ?_, rfl⟩⟩
    exact (hh.lookupLast_eq e.1).trans hfound

/-- The names differ, so no entry comes twice. -/
theorem nodup_typedEntries (h : Headers) : (ofHeaders h).typedEntries.Nodup := by
  rw [typedEntries_ofHeaders]
  refine List.Nodup.filterMap (fun name other entry hname hother => ?_) (by decide)
  obtain ⟨value, -, rfl⟩ := Option.map_eq_some_iff.1 hname
  obtain ⟨value, -, heq⟩ := Option.map_eq_some_iff.1 hother
  exact (congrArg Prod.fst heq).symm

/-- The headers with a meaning of their own are in their places, each of
them once. -/
theorem typedEntries_perm (hh : h.Distinct) :
    (ofHeaders h).typedEntries.Perm ((h.filter isTyped).map lowered) := by
  have hnodup : ((h.filter isTyped).map lowered).Nodup := by
    have hkept : Headers.Distinct (h.filter isTyped) := hh.sublist List.filter_sublist
    refine List.Nodup.of_map Prod.fst ?_
    rw [List.map_map]
    exact hkept.nodup
  -- Neither has an entry twice, so it is enough that they have the same entries.
  refine (List.perm_ext_iff_of_nodup (nodup_typedEntries h) hnodup).2 fun e => ?_
  rw [mem_typedEntries_iff hh, List.mem_map, Headers.lookup_eq_some_iff hh]
  constructor
  · rintro ⟨hname, g, hg, hsame, hvalue⟩
    have hlower : Text.toLowerAscii g.1 = e.1 := (sameName_typedName hname g.1).1 hsame
    have htyped : isTyped g = true := List.contains_iff_mem.2 (hlower ▸ hname)
    exact ⟨g, List.mem_filter.2 ⟨hg, htyped⟩, Prod.ext hlower hvalue⟩
  · rintro ⟨g, hg, rfl⟩
    obtain ⟨hg, htyped⟩ := List.mem_filter.1 hg
    have hname : (lowered g).1 ∈ typedNames := List.contains_iff_mem.1 htyped
    exact ⟨hname, g, hg, (sameName_typedName hname g.1).2 rfl, rfl⟩

/-- The headers of a file travel without a loss: they ascend and are
distinct. -/
theorem holds_ofHeaders (hascending : h.Ascending) (hdistinct : h.Distinct) :
    (ofHeaders h).Holds h := by
  have hmetadata := metadata_ofHeaders hascending
  have hentries : (ofHeaders h).entries.Perm (h.map lowered) := by
    -- What has a meaning of its own comes first, then all the rest.
    rw [entries, hmetadata]
    refine ((typedEntries_perm hdistinct).append_right _).trans ?_
    rw [← List.map_append]
    exact (List.filter_append_perm isTyped h).map lowered
  refine ⟨?_, hmetadata, hentries, ?_⟩
  · rw [typed_ofHeaders]
    exact List.map_congr_left fun name _ => hdistinct.lookupLast_eq name
  · refine ((hentries.map Prod.fst).nodup_iff).2 ?_
    rw [List.map_map]
    exact hdistinct.nodup

/-- The media type is what the last entry for it says. -/
theorem contentType_ofHeaders (hdistinct : h.Distinct) :
    (ofHeaders h).contentType = h.lookup MediaType.headerName := by
  have hfirst := (List.cons.inj (typed_ofHeaders h)).1
  rw [hfirst, hdistinct.lookupLast_eq]
  exact Headers.lookup_congr (by decide) h

end Cloud.ObjectHeaders

/-! ### The headers of a file -/

namespace LocalFile

open SiteSync.Headers (sameName)

/-- The headers of a file are those of its route, of every name the entry
that comes last in byte order, and besides them the media type and the
encoding where the route does not name these; and every one of them
travels with the object once, in the place that is meant for it. The
hypothesis is true of all headers that are read from a configuration
(`Headers.ascending_ofList`). -/
theorem keeps_headers (path key location : Text) (content : Bytes) {route : Option Route}
    (hroute : ∀ r ∈ route, r.headers.Ascending) :
    let f := ofContent path key location content route
    Merged (givenHeaders route) (MediaType.ofFile path route content) (route.any (·.gzip))
        f.headers ∧
      (Cloud.ObjectHeaders.ofHeaders f.headers).Holds f.headers := by
  intro f
  have hgiven : (givenHeaders route).Ascending := by
    cases route with
    | none => exact .nil
    | some r => exact hroute r rfl
  have hmerged := merged_headers path key location content hgiven
  exact ⟨hmerged, Cloud.ObjectHeaders.holds_ofHeaders hmerged.ascending hmerged.distinct⟩

/-- A compressed style sheet whose route has two names in several
spellings. -/
theorem keeps_headers_sample :
    let headers := Headers.ofList [("content-type".toList, "text/css".toList),
      ("X-Tag".toList, ['1']), ("x-tag".toList, ['2']), ("CACHE-CONTROL".toList, "no-store".toList)]
    let route : Route := ⟨.set (.ofChar 'a'), headers, true, false⟩
    let f := ofContent "a.css".toList "my/a.css".toList "/site/a.css".toList [] (some route)
    let kept : Headers := [("CACHE-CONTROL".toList, "no-store".toList),
      ("Content-Encoding".toList, "gzip".toList), ("content-type".toList, "text/css".toList),
      ("x-tag".toList, ['2'])]
    headers.Ascending ∧ f.headers = kept ∧
      Merged headers "text/css".toList true kept ∧
      (Cloud.ObjectHeaders.ofHeaders kept).Holds kept := by
  intro headers route f kept
  have hascending : headers.Ascending := Headers.ascending_ofList _
  have hkept : f.headers = kept := by decide
  have hroute : ∀ r ∈ some route, r.headers.Ascending := fun r hr =>
    Option.some.inj hr ▸ hascending
  have hall : Merged headers "text/css".toList true f.headers ∧
      (Cloud.ObjectHeaders.ofHeaders f.headers).Holds f.headers :=
    keeps_headers "a.css".toList "my/a.css".toList "/site/a.css".toList [] hroute
  rw [hkept] at hall
  exact ⟨hascending, hkept, hall⟩

/-- Exactly one header of a file names its media type, and it is what is
sent with the object. It is the type that the file is said to have if the
route names the type in one spelling, or not at all; where it has several,
what is said is the first in byte order and what is sent the last, so
these two have to agree. -/
theorem reports_sent_type_iff {σ : Type} (c : Cloud.BucketClient σ) (path key location : Text)
    (content : Bytes) (route : Option Route) (acl : Option Text) :
    let f := ofContent path key location content route
    let given := givenHeaders route
    ∃ e ∈ f.headers, sameName e.1 MediaType.headerName = true ∧
      (∀ g ∈ f.headers, sameName g.1 MediaType.headerName = true → g = e) ∧
      (c.putRequest f acl).headers.contentType = some e.2 ∧
      (f.contentType = e.2 ↔
        given.lookup MediaType.headerName = given.lookupLast MediaType.headerName) := by
  intro f given
  have hdistinct : f.headers.Distinct := distinct_headers path key location content route
  have hsent : f.headers.lookup MediaType.headerName
      = some ((given.lookupLast MediaType.headerName).getD f.contentType) := by
    rw [lookup_headers, if_pos (Headers.sameName_self _)]
    cases given.lookupLast MediaType.headerName <;> rfl
  obtain ⟨e, he, hsame, hvalue⟩ := (Headers.lookup_eq_some_iff hdistinct).1 hsent
  refine ⟨e, he, hsame, fun g hg hother => ?_, ?_, ?_⟩
  · exact hdistinct.eq_of_sameName hg he (Headers.sameName_of_sameName hother hsame)
  · exact (Cloud.ObjectHeaders.contentType_ofHeaders hdistinct).trans (hvalue ▸ hsent)
  · rw [hvalue]
    exact ofFile_eq_getD_iff path route content

/-- A route with the type in two spellings and two values. The page is
said to be plain text, and is sent as a page. -/
theorem reports_other_type_sample :
    let route : Route :=
      ⟨.set (.ofChar 'a'), [("Content-Type".toList, "text/plain".toList),
        ("content-type".toList, "text/html".toList)], false, false⟩
    let f := ofContent "a.txt".toList "a.txt".toList "/site/a.txt".toList [] (some route)
    route.headers.Ascending ∧ f.contentType = "text/plain".toList ∧
      f.headers = [("content-type".toList, "text/html".toList)] ∧
      (Cloud.ObjectHeaders.ofHeaders f.headers).contentType = some "text/html".toList ∧
      ¬∃ e ∈ f.headers, sameName e.1 MediaType.headerName = true ∧ f.contentType = e.2 := by
  decide

end LocalFile

end SiteSync
