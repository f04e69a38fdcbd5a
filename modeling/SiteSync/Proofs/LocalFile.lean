import SiteSync.LocalFile
import SiteSync.Proofs.Headers

/-!
# `SiteSync.Proofs.LocalFile`: the headers of a file

A file has a media type, and an encoding if it is compressed. The headers
of its route are put in place of these two:

- `LocalFile.merged_headers`: so the headers of a file are those of its
  route, each name in the spelling that comes last, and the two others
  where the route does not name them.
- `LocalFile.ofFile_eq_getD_iff`: when the type that a file is said to
  have is also the last one that its route names.
-/

set_option autoImplicit false

namespace SiteSync.LocalFile

open SiteSync.Headers (sameName)

variable {contentType : Text} {compressed : Bool} {e : Text × Text}

/-- The headers of a route, if there is one. -/
def givenHeaders (route : Option Route) : Headers := (route.map (·.headers)).getD []

/-- How a compressed body is encoded. -/
abbrev gzipCoding : Text := "gzip".toList

/-! ### Without a route -/

/-- The coding comes first, if there is one. -/
theorem baseHeaders_eq (contentType : Text) (compressed : Bool) :
    baseHeaders contentType compressed =
      if compressed then [(encodingHeader, gzipCoding), (MediaType.headerName, contentType)]
      else [(MediaType.headerName, contentType)] := by
  cases compressed <;> rfl

/-- That is where it belongs in byte order. -/
theorem encodingHeader_lt : encodingHeader < MediaType.headerName := by decide

/-- The two names differ, whatever the case of their letters. -/
theorem sameName_encodingHeader : sameName encodingHeader MediaType.headerName = false := by decide

/-- The headers of a file without a route ascend. -/
theorem ascending_baseHeaders (contentType : Text) (compressed : Bool) :
    (baseHeaders contentType compressed).Ascending := by
  rw [baseHeaders_eq]
  cases compressed with
  | false => exact List.pairwise_singleton _ _
  | true => exact List.pairwise_pair.2 encodingHeader_lt

/-- Their names differ. -/
theorem distinct_baseHeaders (contentType : Text) (compressed : Bool) :
    (baseHeaders contentType compressed).Distinct := by
  rw [baseHeaders_eq]
  cases compressed with
  | false => exact List.pairwise_singleton _ _
  | true => exact List.pairwise_pair.2 sameName_encodingHeader

/-- They say the type, and the coding of a compressed body. -/
theorem mem_baseHeaders_iff :
    e ∈ baseHeaders contentType compressed ↔
      e = (MediaType.headerName, contentType) ∨
        (compressed = true ∧ e = (encodingHeader, gzipCoding)) := by
  rw [baseHeaders_eq]
  cases compressed with
  | false => simp
  | true => simp [or_comm]

/-- Asked for in letters of any case, they are found. -/
theorem lookup_baseHeaders (contentType : Text) (compressed : Bool) (name : Text) :
    (baseHeaders contentType compressed).lookup name =
      if sameName MediaType.headerName name then some contentType
      else if compressed && sameName encodingHeader name then some gzipCoding else none := by
  rw [baseHeaders_eq, Headers.lookup]
  cases compressed with
  | false =>
    cases htype : sameName MediaType.headerName name with
    | true => simp [htype]
    | false => simp [htype]
  | true =>
    -- The encoding comes first, but no name is that of both.
    cases hencoding : sameName encodingHeader name with
    | true =>
      have htype : sameName MediaType.headerName name = false := by
        by_contra hboth
        have hsame := Headers.sameName_of_sameName hencoding (Bool.not_eq_false _ ▸ hboth)
        rw [sameName_encodingHeader] at hsame
        cases hsame
      simp [hencoding, htype]
    | false =>
      cases htype : sameName MediaType.headerName name with
      | true => simp [hencoding, htype]
      | false => simp [hencoding, htype]

/-! ### With a route -/

/-- The headers of a file are those of its route, each name in the
spelling that comes last, and the media type and the encoding where the
route does not name them. -/
structure Merged (given : Headers) (contentType : Text) (compressed : Bool) (h : Headers) :
    Prop where
  /-- They are kept in the order of their names. -/
  ascending : h.Ascending
  /-- No name is there in two spellings. -/
  distinct : h.Distinct
  /-- There are no others. -/
  mem_iff : ∀ e, e ∈ h ↔ given.IsLast e ∨
    ((e = (MediaType.headerName, contentType) ∨
        (compressed = true ∧ e = (encodingHeader, gzipCoding))) ∧
      ∀ g ∈ given, sameName g.1 e.1 = false)
  /-- So this is the value of every name, however it is spelled. -/
  lookup_eq : ∀ name, h.lookup name = (given.lookupLast name).or
    (if sameName MediaType.headerName name then some contentType
      else if compressed && sameName encodingHeader name then some gzipCoding else none)

/-- The route says the media type, or the file does. -/
theorem ofFile_eq (path : Text) (route : Option Route) (content : Bytes) :
    MediaType.ofFile path route content =
      ((givenHeaders route).lookup MediaType.headerName).getD
        ((MediaType.ofPath? path).getD
          (MediaType.sniff (content.take MediaType.sniffLength))) := by
  have hgiven : route.bind (·.header MediaType.headerName)
      = (givenHeaders route).lookup MediaType.headerName := by
    cases route <;> rfl
  rw [MediaType.ofFile, hgiven]
  cases (givenHeaders route).lookup MediaType.headerName <;> rfl

/-- The last entry of the route agrees with what the file is said to be
if it agrees with the first, or if there is none. -/
theorem ofFile_eq_getD_iff (path : Text) (route : Option Route) (content : Bytes) :
    let given := givenHeaders route
    let contentType := MediaType.ofFile path route content
    contentType = (given.lookupLast MediaType.headerName).getD contentType ↔
      given.lookup MediaType.headerName = given.lookupLast MediaType.headerName := by
  intro given contentType
  have hsaid : contentType = (given.lookup MediaType.headerName).getD _ :=
    ofFile_eq path route content
  cases hlast : given.lookupLast MediaType.headerName with
  | none =>
    -- The route does not name the type, so there is nothing to disagree.
    exact iff_of_true rfl (Headers.lookup_eq_none_iff.2 hlast)
  | some last =>
    cases hfirst : given.lookup MediaType.headerName with
    | none =>
      rw [Headers.lookup_eq_none_iff.1 hfirst] at hlast
      cases hlast
    | some first =>
      rw [hsaid, hfirst, Option.getD_some, Option.getD_some, Option.some_inj]

/-- The headers of a file are those it would have, overruled by those of
its route. -/
theorem headers_ofContent (path key location : Text) (content : Bytes) (route : Option Route) :
    (ofContent path key location content route).headers =
      Headers.merge (baseHeaders (MediaType.ofFile path route content) (route.any (·.gzip)))
        (givenHeaders route) := rfl

/-- No two of them have the same name, up to case. -/
theorem distinct_headers (path key location : Text) (content : Bytes) (route : Option Route) :
    (ofContent path key location content route).headers.Distinct :=
  Headers.distinct_merge (distinct_baseHeaders _ _) _

/-- The value of a header is the last one of the route, and otherwise what
it would be without the route. -/
theorem lookup_headers (path key location : Text) (content : Bytes) (route : Option Route)
    (name : Text) :
    (ofContent path key location content route).headers.lookup name =
      ((givenHeaders route).lookupLast name).or
        (if sameName MediaType.headerName name then some (MediaType.ofFile path route content)
          else if route.any (·.gzip) && sameName encodingHeader name then some gzipCoding
          else none) := by
  rw [headers_ofContent, Headers.lookup_merge (distinct_baseHeaders _ _), lookup_baseHeaders]

/-- They are merged as they should be, if those of the route ascend. -/
theorem merged_headers (path key location : Text) (content : Bytes) {route : Option Route}
    (hgiven : (givenHeaders route).Ascending) :
    Merged (givenHeaders route) (MediaType.ofFile path route content) (route.any (·.gzip))
      (ofContent path key location content route).headers := by
  refine ⟨?_, distinct_headers path key location content route, fun e => ?_, ?_⟩
  · exact Headers.ascending_merge (ascending_baseHeaders _ _) _
  · rw [headers_ofContent, Headers.mem_merge_iff hgiven, mem_baseHeaders_iff]
  · exact lookup_headers path key location content route

end SiteSync.LocalFile
