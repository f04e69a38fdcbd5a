import SiteSync.Headers

/-!
# `SiteSync.Cloud.Service`: what can be asked of the cloud

The cloud keeps objects in buckets and serves them through
distributions. Each kind of request has a type of its own, and a
`Service` answers them, with a state that may change.

A request is checked before it is sent (`send`): names may not be empty,
and what travels in a header has to be fit for one.
-/

set_option autoImplicit false

namespace SiteSync.Cloud

/-! ### Requests and answers -/

/-- Asks for a page of the objects of a bucket under a prefix. -/
structure ListRequest where
  /-- The bucket. -/
  bucket : Text
  /-- What the keys start with. -/
  start : Text
  /-- Where the page starts, as the page before said. -/
  token : Option Text
deriving Repr, DecidableEq

/-- An object on a page. -/
structure Listed where
  /-- The key. -/
  key : Option Text := none
  /-- The fingerprint of the content. -/
  etag : Option Text := none
  /-- The number of bytes. -/
  size : Option Int := none
deriving Repr, DecidableEq

/-- A page of objects. -/
structure Page where
  /-- The objects. -/
  contents : List Listed
  /-- Whether more pages follow, if the page says so. -/
  truncated : Option Bool := none
  /-- Where the next page starts. -/
  token : Option Text := none
deriving Repr, DecidableEq

/-- Whether a page says that more pages follow. -/
def Page.isTruncated (p : Page) : Bool := p.truncated == some true

/-- The headers of an object: five with a meaning of their own, and the
rest. -/
structure ObjectHeaders where
  /-- The media type. -/
  contentType : Option Text := none
  /-- How long the object may be kept by others. -/
  cacheControl : Option Text := none
  /-- How the content is encoded. -/
  contentEncoding : Option Text := none
  /-- How the object is to be shown. -/
  contentDisposition : Option Text := none
  /-- The language of the content. -/
  contentLanguage : Option Text := none
  /-- The headers without a meaning of their own. -/
  metadata : Headers := []
deriving Repr, DecidableEq

/-- Puts an object into a bucket. -/
structure PutRequest where
  /-- The bucket. -/
  bucket : Text
  /-- The key of the object. -/
  key : Text
  /-- The headers of the object. -/
  headers : ObjectHeaders
  /-- The access rule of the object. -/
  acl : Option Text
  /-- The content. -/
  body : Bytes
deriving Repr, DecidableEq

/-- Deletes objects from a bucket. -/
structure DeleteRequest where
  /-- The bucket. -/
  bucket : Text
  /-- The keys of the objects. -/
  keys : List Text
deriving Repr, DecidableEq

/-- An object that could not be deleted. -/
structure DeleteFailure where
  /-- The key. -/
  key : Option Text
  /-- What went wrong. -/
  message : Option Text
deriving Repr, DecidableEq

/-- Makes a distribution forget some paths. -/
structure InvalidationRequest where
  /-- The distribution. -/
  distribution : Text
  /-- The number of paths. -/
  quantity : Nat
  /-- The paths. -/
  paths : List Text
  /-- A text that tells this request from others. -/
  reference : Text
deriving Repr, DecidableEq

/-- What the cloud answers; a failure has a text. -/
structure Service (σ : Type) where
  /-- Lists a page of objects. -/
  list : ListRequest → σ → Except Text Page × σ
  /-- Puts an object. -/
  put : PutRequest → σ → Except Text Unit × σ
  /-- Deletes objects, and tells which could not be deleted. -/
  delete : DeleteRequest → σ → Except Text (List DeleteFailure) × σ
  /-- The paths of the origins of a distribution, where they have
  one. -/
  origins : Text → σ → Except Text (List (Option Text)) × σ
  /-- Makes a distribution forget some paths. -/
  invalidate : InvalidationRequest → σ → Except Text Unit × σ

/-- The cloud when there is no connection to it. -/
def Service.unreachable {σ : Type} : Service σ where
  list := fun _ s => (.error "dispatch failure".toList, s)
  put := fun _ s => (.error "dispatch failure".toList, s)
  delete := fun _ s => (.error "dispatch failure".toList, s)
  origins := fun _ s => (.error "dispatch failure".toList, s)
  invalidate := fun _ s => (.error "dispatch failure".toList, s)

/-! ### Requests that cannot be sent -/

/-- What is said of a request that cannot be sent. -/
def notSent : Text := "failed to construct request".toList

/-- Whether a character may stand in the value of a header: a tab, or
anything but a control character. -/
def isHeaderChar (c : Char) : Bool := c == '\t' || (' ' ≤ c && c != '\x7f')

/-- Whether a text is fit to be the value of a header. -/
def isHeaderValue (t : Text) : Bool := t.all isHeaderChar

/-- Whether a character may stand in the name of a header. -/
def isNameChar (c : Char) : Bool := c.isAlphanum || "!#$%&'*+-.^_`|~".toList.contains c

/-- Whether a text is fit to be a part of the name of a header. -/
def isNamePart (t : Text) : Bool := t.all isNameChar

namespace ObjectHeaders

/-- The headers with a meaning of their own. -/
def typed (h : ObjectHeaders) : List (Option Text) :=
  [h.contentType, h.cacheControl, h.contentEncoding, h.contentDisposition, h.contentLanguage]

/-- Whether all headers are fit to be sent. -/
def canBeSent (h : ObjectHeaders) : Bool :=
  h.typed.all (·.all isHeaderValue)
    && h.metadata.all fun e => isNamePart e.1 && isHeaderValue e.2

end ObjectHeaders

/-- Whether a page may be asked for. -/
def ListRequest.canBeSent (r : ListRequest) : Bool := !r.bucket.isEmpty

/-- Whether an object may be put. -/
def PutRequest.canBeSent (r : PutRequest) : Bool :=
  !r.bucket.isEmpty && !r.key.isEmpty && r.headers.canBeSent && r.acl.all isHeaderValue

/-- Whether objects may be deleted. -/
def DeleteRequest.canBeSent (r : DeleteRequest) : Bool := !r.bucket.isEmpty

/-- Whether a distribution may be asked about. -/
def isDistribution (id : Text) : Bool := !id.isEmpty

/-- Sends a request if that is possible. -/
def send {σ α : Type} (canBeSent : Bool) (ask : σ → Except Text α × σ) (s : σ) :
    Except Text α × σ :=
  if canBeSent then ask s else (.error notSent, s)

end SiteSync.Cloud
