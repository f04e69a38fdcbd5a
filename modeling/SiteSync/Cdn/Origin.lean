import SiteSync.Path

/-!
# `SiteSync.Cdn.Origin`: from bucket keys to served paths

A distribution serves a bucket from some *origin path*, and a site may
live under a *bucket path* of its own. `webRoot` splits the bucket path
into the root the site is served under and the part the origin covers;
`servedPath` strips that part from a key.
-/

set_option autoImplicit false

namespace SiteSync.Cdn

/-- Where a site is served: the path of its root on the distribution,
and the part of every key that the origin path already covers. -/
structure WebRoot where
  /-- The served root, with a leading slash. -/
  root : Text
  /-- The covered prefix of every key, without slashes around it. -/
  subPath : Text
deriving Repr, DecidableEq

/-- Whether `rest` is what remains behind whole segments: nothing, or
something that starts with a slash. -/
def atSegmentEnd (rest : Text) : Bool := rest.isEmpty || Path.isAbsolute rest

/-- What follows `covered` in `t`, if `covered` ends there at the end of
a segment. -/
def stripSegments? (covered t : Text) : Option Text :=
  (Text.stripPrefix? covered t).filter atSegmentEnd

/-- An origin path that covers leading segments of the bucket path is
taken off it; any other origin path leaves the bucket path as the
root. -/
def webRoot (bucketPath originPath : Text) : WebRoot :=
  let bucket := Path.trimSlashes bucketPath
  let origin := Path.trimSlashes originPath
  match if origin = [] then none else stripSegments? origin bucket with
  | some rest => ⟨'/' :: Path.trimSlashes rest, origin⟩
  | none => ⟨'/' :: bucket, []⟩

/-- The path a key is served at: the key without the covered prefix,
with a leading slash. -/
def servedPath (key subPath : Text) : Text :=
  let key := Text.trimStart Path.isSlash key
  if subPath = [] then Path.rooted key
  else Path.rooted ((stripSegments? subPath key).getD key)

end SiteSync.Cdn
