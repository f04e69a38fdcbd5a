import SiteSync.Digest.Md5
import SiteSync.Gzip.Container
import SiteSync.MediaType.OfFile
import SiteSync.UploadReason

/-!
# `SiteSync.LocalFile`: a file as it would be uploaded

A file that was read becomes a body, compressed if its route says so,
with the headers that go with it. `LocalFile.reason?` compares it with
the object of its key.
-/

set_option autoImplicit false

namespace SiteSync

/-- An object of the bucket as a listing shows it. -/
structure RemoteObject where
  /-- The key of the object. -/
  key : Text
  /-- The fingerprint of its content, in quotes. -/
  fingerprint : Text
  /-- The number of bytes. -/
  size : Nat
deriving Repr, DecidableEq

/-- A file ready to be uploaded. -/
structure LocalFile where
  /-- The path relative to the source. -/
  path : Text
  /-- The key to upload to. -/
  key : Text
  /-- Where the file was read. -/
  location : Text
  /-- The bytes to upload. -/
  body : Bytes
  /-- The media type. -/
  contentType : Text
  /-- The headers to send. -/
  headers : Headers
deriving Repr, DecidableEq

/-- The fingerprint of some content: its MD5 digest in quotes. -/
def fingerprintOf (content : Bytes) : Text := '"' :: Digest.Md5.hexDigest content ++ ['"']

namespace LocalFile

/-- The name of the header that says how a body is encoded. -/
def encodingHeader : Text := "Content-Encoding".toList

/-- The bytes to upload for some content. -/
def bodyOf (compressed : Bool) (content : Bytes) : Bytes :=
  if compressed then Gzip.compress content else content

/-- The headers that a file has without its route. -/
def baseHeaders (contentType : Text) (compressed : Bool) : Headers :=
  let typed : Headers := [(MediaType.headerName, contentType)]
  if compressed then Headers.insert encodingHeader "gzip".toList typed else typed

/-- The file with some content, governed by a route. The headers of the
route replace the others, one by one in the order of their names. -/
def ofContent (path key location : Text) (content : Bytes) (route : Option Route) :
    LocalFile :=
  let contentType := MediaType.ofFile path route content
  let compressed := route.any (·.gzip)
  let given := (route.map (·.headers)).getD []
  { path, key, location
    body := bodyOf compressed content
    contentType
    headers := given.foldl (fun h e => h.set e.1 e.2) (baseHeaders contentType compressed) }

/-- The number of bytes to upload. -/
def size (f : LocalFile) : Nat := f.body.length

/-- The fingerprint of the bytes to upload. -/
def fingerprint (f : LocalFile) : Text := fingerprintOf f.body

/-! ### Comparing with the bucket -/

/-- Why an object is to be replaced by a file, if it is. -/
def replaceReason? (f : LocalFile) (o : RemoteObject) : Option UploadReason :=
  if f.size ≠ o.size then some .size
  else if f.fingerprint ≠ o.fingerprint then some .fingerprint
  else none

/-- Why a file is to be uploaded, if it is: there is no object, or every
file is to be uploaded, or the object differs. -/
def reason? (f : LocalFile) (remote : Option RemoteObject) (force : Bool) :
    Option UploadReason :=
  match remote with
  | none => some .notFound
  | some o => if force then some .force else f.replaceReason? o

/-- Whether the fingerprint of a file is needed to compare it with an
object. -/
def comparesFingerprint (f : LocalFile) (o : RemoteObject) : Bool := f.size == o.size

end LocalFile

end SiteSync
