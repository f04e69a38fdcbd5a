import Std.Data.String.ToNat
import SiteSync.Cloud.DistributionClient
import SiteSync.Cloud.Server
import SiteSync.Proofs.Cloud.Paging
import SiteSync.Proofs.Deploy.Contracts

/-!
# `SiteSync.Proofs.Cloud.Contracts`: the cloud keeps what a deploy relies on

A bucket of the cloud in memory is a bucket as a deploy expects it, and
the distributions of that cloud leave it alone:

- `BucketClient.store_records`: the pages of a listing show the objects
  as they are, and requests take effect when they succeed;
- `DistributionClient.cdn_frames`: no question and no invalidation
  changes an object.

What the clients do with the state of a service is told for any service
and any property that its answers preserve (`put_preserves`,
`invalidateAll_preserves`).
-/

set_option autoImplicit false

namespace SiteSync.Bucket

variable {b : Bucket} {start key : Text}

/-! ### What is listed of a bucket -/

/-- The objects under a prefix, in the byte order of their keys. -/
def listing (start : Text) (b : Bucket) : List RemoteObject :=
  (b.sorted.map (·.object)).filter fun o => Text.startsWith o.key start

/-- What is listed is what is under the prefix, in another order. -/
theorem listing_perm (start : Text) (b : Bucket) : (b.listing start).Perm (b.under start) :=
  ((List.mergeSort_perm _ _).map _).filter _

/-- No key is listed twice. -/
theorem nodup_listing (hb : (b.map (·.object.key)).Nodup) (start : Text) :
    ((b.listing start).map RemoteObject.key).Nodup :=
  ((listing_perm start b).map _).nodup_iff.2 (nodup_under hb start)

/-- The objects under a prefix of a key hold the object of that key. -/
theorem find?_listing (hb : (b.map (·.object.key)).Nodup)
    (hkey : Text.startsWith key start = true) :
    (b.listing start).find? (·.key == key) = (b.find? key).map (·.object) := by
  rw [Inventory.find?_eq_of_perm (listing_perm start b) (nodup_listing hb start),
    find?_under hkey]

/-- The inventory of a listing shows the objects under the prefix, and
nothing else. -/
theorem find?_ofList_listing (hb : (b.map (·.object.key)).Nodup) (start key : Text) :
    (Inventory.ofList (b.listing start)).find? key =
      if Text.startsWith key start then (b.find? key).map (·.object) else none := by
  rw [Inventory.ofList, Inventory.find?_foldl_insert_empty (nodup_listing hb start)]
  split
  case isTrue hkey => exact find?_listing hb hkey
  case isFalse hkey =>
    refine List.find?_eq_none.2 fun o ho heq => hkey ?_
    rw [← beq_iff_eq.1 heq]
    exact (List.mem_filter.1 ho).2

end SiteSync.Bucket

namespace SiteSync.Cloud

/-! ### Clients of any service -/

namespace BucketClient

variable {σ : Type} {c : BucketClient σ} {P : σ → Prop}

/-- What the service keeps of its state when it puts an object, the client
keeps. A request that cannot be sent changes nothing. -/
theorem put_preserves {u : Upload} {acl : Option Text} {s : σ} (hs : P s)
    (hput : P (c.service.put (c.putRequest u.file acl) s).2) : P (c.store.put u acl s).state := by
  have hsent := send_preserves (c.putRequest u.file acl).canBeSent hs hput
  show P (c.upload u.file acl s).state
  unfold upload
  dsimp only
  split <;> rename_i heq <;> rw [heq] at hsent <;> exact hsent

/-- The same for objects that are deleted. -/
theorem delete_preserves {keys : List Text} {s : σ} (hs : P s)
    (hdelete : P (c.service.delete ⟨c.bucket, keys⟩ s).2) : P (c.store.delete keys s).state := by
  have hsent := send_preserves (DeleteRequest.canBeSent ⟨c.bucket, keys⟩) hs hdelete
  show P (c.delete keys s).state
  unfold delete
  dsimp only
  split <;> rename_i heq <;> rw [heq] at hsent <;> exact hsent

/-- An upload that succeeds was put by the service. -/
theorem put_of_done {u : Upload} {acl : Option Text} {s : σ}
    (h : (c.store.put u acl s).outcome = .done ()) :
    c.service.put (c.putRequest u.file acl) s = (.ok (), (c.store.put u acl s).state) := by
  have hdone : (worded (c.upload u.file acl s)).outcome = .done () := h
  show c.service.put _ s = (.ok (), (c.upload u.file acl s).state)
  unfold upload at hdone ⊢
  dsimp only at hdone ⊢
  split at hdone
  · rename_i heq
    exact (send_of_ok (congrArg Prod.fst heq)).symm.trans heq
  · cases hdone

/-- A deletion that succeeds was answered without a single failure. -/
theorem delete_of_done {keys : List Text} {s : σ}
    (h : (c.store.delete keys s).outcome = .done ()) :
    c.service.delete ⟨c.bucket, keys⟩ s = (.ok [], (c.store.delete keys s).state) := by
  have hdone : (worded (c.delete keys s)).outcome = .done () := h
  show c.service.delete _ s = (.ok [], (c.delete keys s).state)
  unfold delete at hdone ⊢
  dsimp only at hdone ⊢
  split at hdone
  · rename_i heq
    exact (send_of_ok (congrArg Prod.fst heq)).symm.trans heq
  · cases hdone
  · cases hdone

end BucketClient

namespace DistributionClient

variable {σ : Type} {c : DistributionClient σ} {P : σ → Prop}

/-- Telling one distribution keeps what the answer to the question about
it and the answer to the invalidation keep. -/
theorem invalidateOne_preserves (horigins : ∀ id s, P s → P (c.service.origins id s).2)
    (hinvalidate : ∀ r s, P s → P (c.service.invalidate r s).2) {keys : List Text} {id : Text}
    {s : σ} (hs : P s) : P (c.invalidateOne keys id s).state := by
  have hpath : P (c.originPath id s).2 := by
    have hsent := send_preserves (isDistribution id) hs (horigins id s hs)
    unfold originPath
    split <;> rename_i heq <;> rw [heq] at hsent <;> exact hsent
  unfold invalidateOne
  split
  · rename_i heq
    rw [heq] at hpath
    exact hpath
  · rename_i path s' heq
    rw [heq] at hpath
    have hsent := send_preserves (isDistribution id) hpath
      (hinvalidate (c.request id (c.reduction path keys)) s' hpath)
    dsimp only
    split <;> rename_i heq' <;> rw [heq'] at hsent <;> exact hsent

/-- Telling the distributions keeps what the answers to its questions
and to its invalidations keep. -/
theorem invalidateAll_preserves (horigins : ∀ id s, P s → P (c.service.origins id s).2)
    (hinvalidate : ∀ r s, P s → P (c.service.invalidate r s).2) {keys ids : List Text} {s : σ}
    (hs : P s) : P (c.invalidateAll keys ids s).state := by
  induction ids generalizing s with
  | nil => exact hs
  | cons id ids ih =>
    have hone : P (c.invalidateOne keys id s).state :=
      invalidateOne_preserves horigins hinvalidate hs
    unfold invalidateAll
    dsimp only
    split
    · exact ih hone
    · exact hone

/-- So the distributions keep it as a deploy sees them. -/
theorem cdn_preserves (horigins : ∀ id s, P s → P (c.service.origins id s).2)
    (hinvalidate : ∀ r s, P s → P (c.service.invalidate r s).2) : c.cdn.Preserves P := by
  intro keys s hs
  show P (c.invalidate keys s).state
  unfold invalidate
  split
  · exact hs
  · exact invalidateAll_preserves horigins hinvalidate hs

end DistributionClient

/-! ### The cloud in memory -/

namespace Server

/-- The object of a key as a listing shows it. -/
def view (s : Server) (key : Text) : Option RemoteObject := (s.bucket.find? key).map (·.object)

/-- A server that gives the pages of its bucket, in which no two objects
have the same key. -/
structure Honest (s : Server) : Prop where
  /-- No pages are given in place of those of the bucket. -/
  unscripted : s.scripted = none
  /-- No two objects have the same key. -/
  nodup_keys : (s.bucket.map (·.object.key)).Nodup

/-- A request to put an object puts it, or is refused and changes nothing.
-/
theorem put_bucket (r : PutRequest) (s : Server) :
    (s.put r).2.bucket = s.bucket ∨ (s.put r).2.bucket = s.bucket.put (objectOf r) := by
  unfold put
  dsimp only
  split
  · exact .inl rfl
  · exact .inr rfl

/-- If it succeeds then the object is there. -/
theorem put_of_ok {r : PutRequest} {s t : Server} (h : s.put r = (.ok (), t)) :
    t.bucket = s.bucket.put (objectOf r) := by
  unfold put at h
  dsimp only at h
  split at h
  · cases h
  · cases h
    rfl

/-- A request to delete objects deletes some of them, or is refused and
changes nothing. -/
theorem delete_bucket (r : DeleteRequest) (s : Server) :
    (s.delete r).2.bucket = s.bucket ∨
      ∃ keys, keys.Sublist r.keys ∧ (s.delete r).2.bucket = s.bucket.eraseAll keys := by
  unfold delete
  dsimp only
  split
  · exact .inl rfl
  · exact .inr ⟨_, List.filter_sublist, rfl⟩

/-- If no object is reported as not deleted then all are deleted. -/
theorem delete_of_ok {r : DeleteRequest} {s t : Server} (h : s.delete r = (.ok [], t)) :
    t.bucket = s.bucket.eraseAll r.keys := by
  unfold delete at h
  dsimp only at h
  split at h
  · cases h
  · injection h with hfailures hstate
    injection hfailures with hfailures
    rw [List.filterMap_eq_nil_iff] at hfailures
    -- A key that was not deleted would have been reported.
    have hall : (r.keys.filter fun k => !s.undeletable.any (·.asked == k)) = r.keys := by
      refine List.filter_eq_self.2 fun key hkey => ?_
      have hnone : (s.undeletable.find? (·.asked == key)).map (·.answer) = none :=
        hfailures key hkey
      rw [Option.map_eq_none_iff, List.find?_eq_none] at hnone
      simpa using hnone
    rw [← hstate]
    exact congrArg s.bucket.eraseAll hall

/-! ### Pages of the bucket -/

/-- The token of a page leads to its place. -/
theorem placeOf_tokenOf (i : Nat) : placeOf (some (tokenOf i)) = i := by
  show ((String.ofList (Nat.repr i).toList).toNat?).getD 0 = i
  rw [String.ofList_toList, Nat.toNat?_repr, Option.getD_some]

/-- A page shows the objects from its place on, as many as fit. -/
theorem contents_pageAt (size : Nat) (objects : List RemoteObject) (i : Nat) :
    (pageAt size objects i).contents = ((objects.drop i).take size).map listed := by
  unfold pageAt
  split <;> rfl

/-- The objects of a page are the ones that it shows. -/
theorem objects_of_listed {page : Page} {os : List RemoteObject}
    (h : page.contents = os.map listed) : page.objects = os := by
  rw [Page.objects, h, List.filterMap_map]
  exact List.filterMap_some

/-- So a page has the objects from its place on, as many as fit. -/
theorem objects_pageAt (size : Nat) (objects : List RemoteObject) (i : Nat) :
    (pageAt size objects i).objects = (objects.drop i).take size :=
  objects_of_listed (contents_pageAt size objects i)

/-- After a page that says that more follow, the next place is behind
it; a page that does not say so is the last one. -/
theorem pageAt_next (size : Nat) (objects : List RemoteObject) (i : Nat) :
    if (pageAt size objects i).isTruncated then
      placeOf (pageAt size objects i).token = i + size
    else objects.length ≤ i + size := by
  unfold pageAt
  dsimp only
  split
  · exact placeOf_tokenOf (i + size)
  · rename_i hlast
    exact Nat.not_lt.1 hlast

/-- A page that is given shows the bucket from the place of its
token. -/
theorem list_of_ok {s t : Server} (hs : s.Honest) {r : ListRequest} {page : Page}
    (h : s.list r = (.ok page, t)) :
    page = pageAt s.pageSize (s.bucket.listing r.start) (placeOf r.token) ∧
      t = s.record (.list r) := by
  unfold list at h
  dsimp only at h
  split at h
  · cases h
  · injection h with hpage hstate
    injection hpage with hpage
    refine ⟨?_, hstate.symm⟩
    rw [← hpage, pageFor, hs.unscripted]
    rfl

/-- An entry in the log leaves a server honest. -/
theorem Honest.record {s : Server} (hs : s.Honest) (r : Logged) : (s.record r).Honest :=
  ⟨hs.unscripted, hs.nodup_keys⟩

/-- So does a request to put an object. -/
theorem Honest.put {s : Server} (hs : s.Honest) (r : PutRequest) : (s.put r).2.Honest := by
  refine ⟨?_, ?_⟩
  · unfold Server.put
    dsimp only
    split <;> exact hs.unscripted
  · rcases put_bucket r s with h | h
    · rw [h]
      exact hs.nodup_keys
    · rw [h]
      exact Bucket.nodup_put hs.nodup_keys _

/-- So does a request to delete objects. -/
theorem Honest.delete {s : Server} (hs : s.Honest) (r : DeleteRequest) :
    (s.delete r).2.Honest := by
  refine ⟨?_, ?_⟩
  · unfold Server.delete
    dsimp only
    split <;> exact hs.unscripted
  · rcases delete_bucket r s with h | ⟨keys, -, h⟩
    · rw [h]
      exact hs.nodup_keys
    · rw [h]
      exact hs.nodup_keys.sublist (List.filter_sublist.map _)

end Server

namespace BucketClient

variable {c : BucketClient Server}

/-- Pages that are read to the end show the objects from the place of
the first one on. -/
theorem Reads.objects_eq (hc : c.service = .inMemory) {start : Text} {token : Option Text}
    {s t : Server} {ps : List Page} (h : Reads c start token s ps t) (hs : s.Honest) :
    ps.flatMap Page.objects = (s.bucket.listing start).drop (Server.placeOf token) := by
  induction h with
  | @last token s t page answer hlast =>
    rw [hc] at answer
    obtain ⟨hpage, -⟩ := Server.list_of_ok hs answer
    dsimp only at hpage
    subst hpage
    have hend := Server.pageAt_next s.pageSize (s.bucket.listing start) (Server.placeOf token)
    rw [if_neg (Bool.eq_false_iff.1 hlast)] at hend
    rw [List.flatMap_singleton, Server.objects_pageAt, List.take_of_length_le]
    rw [List.length_drop]
    omega
  | @more token s t u page ps answer hmore rest ih =>
    rw [hc] at answer
    obtain ⟨hpage, rfl⟩ := Server.list_of_ok hs answer
    dsimp only at hpage
    subst hpage
    have hnext := Server.pageAt_next s.pageSize (s.bucket.listing start) (Server.placeOf token)
    rw [if_pos hmore] at hnext
    -- The other pages are those of the rest of the objects.
    rw [List.flatMap_cons, ih (hs.record _), Server.objects_pageAt, hnext, ← List.drop_drop]
    exact List.take_append_drop _ _

/-- What a listing shows of the objects under its prefix is what the
bucket holds. -/
theorem find?_list (hc : c.service = .inMemory) {start key : Text} {v : Inventory} {s : Server}
    (hs : s.Honest) (h : (c.store.list start s).outcome = .done v)
    (hkey : Text.startsWith key start = true) : v.find? key = s.view key := by
  have hdone : (c.list start s).outcome = .done v := done_of_worded h
  obtain ⟨ps, hps, rfl⟩ := reads_of_list hdone
  rw [hps.objects_eq hc hs]
  exact (Bucket.find?_ofList_listing hs.nodup_keys start key).trans (if_pos hkey)

/-- A bucket of the cloud in memory does what it is asked, and its
listings show what is compared. -/
theorem store_records (hc : c.service = .inMemory) (start : Text) :
    c.store.Records start Server.Honest Server.view where
  list := fun start s key =>
    list_preserves (P := fun t : Server => t.view key = s.view key)
      (fun r t ht => by rw [hc]; exact ht) rfl
  put := fun u acl s key hkey => by
    refine put_preserves (P := fun t : Server => t.view key = s.view key) rfl ?_
    rw [hc]
    show Option.map _ ((s.put (c.putRequest u.file acl)).2.bucket.find? key) = _
    -- Whether the server refuses or not, no other object changes.
    rcases Server.put_bucket (c.putRequest u.file acl) s with h | h
    · rw [h, Server.view]
    · rw [h, Bucket.find?_put_of_ne hkey, Server.view]
  delete := fun keys s key hkey => by
    refine delete_preserves (P := fun t : Server => t.view key = s.view key) rfl ?_
    rw [hc]
    show Option.map _ ((s.delete ⟨c.bucket, keys⟩).2.bucket.find? key) = _
    rcases Server.delete_bucket ⟨c.bucket, keys⟩ s with h | ⟨deleted, hsub, h⟩
    · rw [h, Server.view]
    · rw [h, Bucket.find?_eraseAll_of_not_mem fun hmem => hkey (hsub.subset hmem), Server.view]
  put_done := fun u acl s hdone => by
    have hput := put_of_done hdone
    rw [hc] at hput
    rw [Server.view, Server.put_of_ok hput]
    exact congrArg (Option.map _) (Bucket.find?_put (Server.objectOf (c.putRequest u.file acl)) _)
  delete_done := fun keys s hdone key hkey => by
    have hdelete := delete_of_done hdone
    rw [hc] at hdelete
    rw [Server.view, Server.delete_of_ok hdelete, Bucket.find?_eraseAll_of_mem hkey]
    rfl
  listing := fun s v hs h key hkey => find?_list hc hs h hkey
  valid_list := fun s hs =>
    list_preserves (fun r t ht => by rw [hc]; exact ht.record (.list r)) hs
  valid_put := fun u acl s hs => put_preserves hs (by rw [hc]; exact hs.put _)
  valid_delete := fun keys s hs => delete_preserves hs (by rw [hc]; exact hs.delete _)

end BucketClient

namespace DistributionClient

variable {c : DistributionClient Server}

/-- The distributions of the cloud in memory change no object. -/
theorem cdn_frames (hc : c.service = .inMemory) : c.cdn.Frames Server.view :=
  fun keys s key => cdn_preserves (P := fun t : Server => t.view key = s.view key)
    (fun id t ht => by rw [hc]; exact ht) (fun r t ht => by rw [hc]; exact ht) keys s rfl

/-- They leave the server honest. -/
theorem cdn_preserves_honest (hc : c.service = .inMemory) : c.cdn.Preserves Server.Honest :=
  cdn_preserves (fun id t ht => by rw [hc]; exact ht.record (.origins id))
    fun r t ht => by rw [hc]; exact ht.record (.invalidate r)

end DistributionClient

end SiteSync.Cloud
