import SiteSync.Cloud.Service
import SiteSync.Store.Basic

/-!
# `SiteSync.Cloud.BucketClient`: a bucket of the cloud

Listing reads page after page, as long as a page says that more follow.
Uploading splits the headers of a file into those with a meaning of
their own and the rest. Deleting fails if a single object could not be
deleted.
-/

set_option autoImplicit false

namespace SiteSync.Cloud

/-- What can go wrong with a bucket. -/
inductive BucketError where
  /-- The objects under a prefix could not be listed. -/
  | list (bucket start cause : Text)
  /-- An object could not be uploaded. -/
  | upload (bucket key cause : Text)
  /-- Some objects could not be deleted. -/
  | delete (bucket : Text) (count : Nat) (cause : Text)
deriving Repr, DecidableEq

/-- The text of an error. -/
def BucketError.message : BucketError → Text
  | .list bucket start cause =>
    "Failed to list s3://".toList ++ bucket ++ ['/'] ++ start ++ [':', ' '] ++ cause
  | .upload bucket key cause =>
    "Failed to upload s3://".toList ++ bucket ++ ['/'] ++ key ++ [':', ' '] ++ cause
  | .delete bucket count cause =>
    ("Failed to delete " ++ toString count ++ " objects from s3://").toList ++ bucket
      ++ [':', ' '] ++ cause

/-- A bucket of the cloud. -/
structure BucketClient (σ : Type) where
  /-- The cloud. -/
  service : Service σ
  /-- The name of the bucket. -/
  bucket : Text

/-! ### Headers -/

/-- The headers of an object, from the headers of a file. -/
def ObjectHeaders.ofHeaders (h : Headers) : ObjectHeaders :=
  h.foldl
    (fun o e =>
      match String.ofList (Text.toLowerAscii e.1) with
      | "content-type" => { o with contentType := some e.2 }
      | "cache-control" => { o with cacheControl := some e.2 }
      | "content-encoding" => { o with contentEncoding := some e.2 }
      | "content-disposition" => { o with contentDisposition := some e.2 }
      | "content-language" => { o with contentLanguage := some e.2 }
      | _ => { o with metadata := Headers.insert e.1 e.2 o.metadata })
    {}

/-! ### Listing -/

/-- An object on a page, if it has a key. A missing fingerprint is empty,
and a missing or negative size is zero. -/
def Listed.object? (l : Listed) : Option RemoteObject :=
  l.key.map fun key => ⟨key, l.etag.getD [], (l.size.getD 0).toNat⟩

/-- The objects of a page. -/
def Page.objects (p : Page) : List RemoteObject := p.contents.filterMap Listed.object?

namespace BucketClient

variable {σ : Type}

/-- Reads pages as long as they say that more follow. `found` are the
objects so far. Pages of which none is the last give nothing. -/
def pages (c : BucketClient σ) (start : Text) (token : Option Text) (found : Inventory) (s : σ) :
    Option (Except Text Inventory × σ) :=
  let request : ListRequest := ⟨c.bucket, start, token⟩
  match send request.canBeSent (c.service.list request) s with
  | (.error cause, s) => some (.error cause, s)
  | (.ok page, s) =>
    let found := page.objects.foldl Inventory.insert found
    -- What comes of the other pages, by the token of the first of them.
    let rest := pages c start (s := s)
    if page.isTruncated then rest page.token found else some (.ok found, s)
partial_fixpoint

/-- Lists the objects under a prefix. Of pages without end there is no
inventory: whoever waits for it does not come back. -/
def list (c : BucketClient σ) (start : Text) (s : σ) : Reply σ BucketError Inventory :=
  let first : LogLine :=
    ⟨.debug, .bucket, "Listing s3://".toList ++ c.bucket ++ ['/'] ++ start ++ ['*']⟩
  match c.pages start none .empty s with
  | some (.ok found, s) =>
    let last : LogLine :=
      ⟨.debug, .bucket, ("  found " ++ toString found.size ++ " objects").toList⟩
    ⟨.done found, s, [first, last]⟩
  | some (.error cause, s) => ⟨.failed (.list c.bucket start cause), s, [first]⟩
  | none => ⟨.died, s, [first]⟩

/-! ### Uploading and deleting -/

/-- The request that uploads a file. -/
def putRequest (c : BucketClient σ) (f : LocalFile) (acl : Option Text) : PutRequest :=
  ⟨c.bucket, f.key, .ofHeaders f.headers, acl, f.body⟩

/-- Uploads a file. -/
def upload (c : BucketClient σ) (f : LocalFile) (acl : Option Text) (s : σ) :
    Reply σ BucketError Unit :=
  let request := c.putRequest f acl
  match send request.canBeSent (c.service.put request) s with
  | (.ok (), s) => ⟨.done (), s, [⟨.debug, .bucket, "  uploaded ".toList ++ f.key⟩]⟩
  | (.error cause, s) => ⟨.failed (.upload c.bucket f.key cause), s, []⟩

/-- What is said of an object that could not be deleted. -/
def failureText (f : DeleteFailure) : Text :=
  f.key.getD [] ++ [':', ' '] ++ f.message.getD "unknown error".toList

/-- Deletes some keys. -/
def delete (c : BucketClient σ) (keys : List Text) (s : σ) : Reply σ BucketError Unit :=
  let request : DeleteRequest := ⟨c.bucket, keys⟩
  match send request.canBeSent (c.service.delete request) s with
  | (.ok [], s) => ⟨.done (), s, []⟩
  | (.ok (f :: _), s) => ⟨.failed (.delete c.bucket keys.length (failureText f)), s, []⟩
  | (.error cause, s) => ⟨.failed (.delete c.bucket keys.length cause), s, []⟩

/-- A reply whose error is given by its text. -/
def worded {α : Type} (r : Reply σ BucketError α) : Reply σ Text α :=
  { outcome := match r.outcome with
      | .done a => .done a
      | .failed e => .failed e.message
      | .died => .died
    state := r.state
    said := r.said }

/-- The bucket as a deploy sees it. -/
def store (c : BucketClient σ) : Store σ where
  list := fun start s => worded (c.list start s)
  put := fun u acl s => worded (c.upload u.file acl s)
  delete := fun keys s => worded (c.delete keys s)

end BucketClient

end SiteSync.Cloud
