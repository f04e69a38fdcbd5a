import SiteSync.Cloud.Service
import SiteSync.Store.Bucket

/-!
# `SiteSync.Cloud.Server`: a cloud in memory

The server keeps one bucket and some distributions. It lists objects in
the byte order of their keys, a page at a time, takes as fingerprint of
an object the digest of its content, and keeps a log of the requests.
For trials it can be told to give certain pages, or to fail at certain
requests.
-/

set_option autoImplicit false

namespace SiteSync.Cloud

/-- A distribution of the server. -/
structure Distribution where
  /-- The paths of its origins, where they have one. -/
  origins : List (Option Text)
  /-- Whether it refuses to forget anything. -/
  refuses : Bool := false
deriving Repr, DecidableEq

/-- An object that the server does not delete. -/
structure Undeletable where
  /-- The key that is asked for. -/
  asked : Text
  /-- What is answered. -/
  answer : DeleteFailure
deriving Repr, DecidableEq

/-- A request in the log of the server. -/
inductive Logged where
  /-- A page was asked for. -/
  | list (request : ListRequest)
  /-- An object was put. -/
  | put (request : PutRequest)
  /-- Objects were deleted. -/
  | delete (request : DeleteRequest)
  /-- A distribution was asked about. -/
  | origins (id : Text)
  /-- A distribution was to forget some paths. -/
  | invalidate (request : InvalidationRequest)
deriving Repr, DecidableEq

/-- A cloud in memory. -/
structure Server where
  /-- The objects of the bucket. -/
  bucket : Bucket := []
  /-- How many objects are on a page. -/
  pageSize : Nat := 1000
  /-- The pages to give, in place of those of the bucket. -/
  scripted : Option (List Page) := none
  /-- Which request for a page fails, counted from zero. -/
  failingList : Option Nat := none
  /-- The keys that cannot be put. -/
  failingPuts : List Text := []
  /-- Which request to delete fails, counted from zero. -/
  failingDelete : Option Nat := none
  /-- The objects that are not deleted. -/
  undeletable : List Undeletable := []
  /-- The distributions. -/
  distributions : List (Text × Distribution) := []
  /-- The requests so far, the latest first. -/
  log : List Logged := []

namespace Server

/-- What is said of a request that fails. -/
def refused : Text := "service error".toList

/-- How many requests for a page there were. -/
def listCount (s : Server) : Nat :=
  s.log.countP fun
    | .list _ => true
    | _ => false

/-- How many requests to delete there were. -/
def deleteCount (s : Server) : Nat :=
  s.log.countP fun
    | .delete _ => true
    | _ => false

/-- Adds a request to the log. -/
def record (r : Logged) (s : Server) : Server := { s with log := r :: s.log }

/-! ### Pages -/

/-- The token of the page that starts at a place. -/
def tokenOf (i : Nat) : Text := 'p' :: (toString i).toList

/-- The place where the page of a token starts. -/
def placeOf (token : Option Text) : Nat :=
  match token with
  | some ('p' :: digits) => ((String.ofList digits).toNat?).getD 0
  | _ => 0

/-- An object as a page shows it. -/
def listed (o : RemoteObject) : Listed := ⟨some o.key, some o.fingerprint, some o.size⟩

/-- The page of some objects that starts at a place. -/
def pageAt (size : Nat) (objects : List RemoteObject) (i : Nat) : Page :=
  let contents := ((objects.drop i).take size).map listed
  if i + size < objects.length then ⟨contents, some true, some (tokenOf (i + size))⟩
  else ⟨contents, some false, none⟩

/-- The objects under a prefix, in the byte order of their keys. -/
def objectsUnder (start : Text) (s : Server) : List RemoteObject :=
  (s.bucket.sorted.map (·.object)).filter fun o => Text.startsWith o.key start

/-- The page that a request asks for. -/
def pageFor (r : ListRequest) (s : Server) : Page :=
  match s.scripted with
  | some pages => pages.getD s.listCount ⟨[], none, none⟩
  | none => pageAt s.pageSize (s.objectsUnder r.start) (placeOf r.token)

/-! ### Requests -/

/-- Answers a request for a page. -/
def list (r : ListRequest) (s : Server) : Except Text Page × Server :=
  let answer := if s.failingList = some s.listCount then .error refused else .ok (s.pageFor r)
  (answer, s.record (.list r))

/-- The object that a request puts. -/
def objectOf (r : PutRequest) : StoredObject :=
  ⟨⟨r.key, fingerprintOf r.body, r.body.length⟩, some r.body⟩

/-- Answers a request to put an object. -/
def put (r : PutRequest) (s : Server) : Except Text Unit × Server :=
  let s := s.record (.put r)
  if s.failingPuts.contains r.key then (.error refused, s)
  else (.ok (), { s with bucket := s.bucket.put (objectOf r) })

/-- Answers a request to delete objects. -/
def delete (r : DeleteRequest) (s : Server) : Except Text (List DeleteFailure) × Server :=
  let fails := s.failingDelete = some s.deleteCount
  let s := s.record (.delete r)
  if fails then (.error refused, s)
  else
    let failures := r.keys.filterMap fun k =>
      (s.undeletable.find? (·.asked == k)).map (·.answer)
    let deleted := r.keys.filter fun k => !s.undeletable.any (·.asked == k)
    (.ok failures, { s with bucket := s.bucket.eraseAll deleted })

/-- Answers a question about a distribution. -/
def origins (id : Text) (s : Server) : Except Text (List (Option Text)) × Server :=
  let answer := match s.distributions.lookup id with
    | some d => .ok d.origins
    | none => .error refused
  (answer, s.record (.origins id))

/-- Answers a request to forget some paths. -/
def invalidate (r : InvalidationRequest) (s : Server) : Except Text Unit × Server :=
  let answer := match s.distributions.lookup r.distribution with
    | some d => if d.refuses then .error refused else .ok ()
    | none => .error refused
  (answer, s.record (.invalidate r))

end Server

/-- The cloud in memory, as a service. -/
def Service.inMemory : Service Server where
  list := Server.list
  put := Server.put
  delete := Server.delete
  origins := Server.origins
  invalidate := Server.invalidate

end SiteSync.Cloud
