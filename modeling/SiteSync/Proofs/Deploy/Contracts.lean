import SiteSync.Files.Flat
import SiteSync.Proofs.Deploy.Course
import SiteSync.Store.Bucket

/-!
# `SiteSync.Proofs.Deploy.Contracts`: what a deploy relies on

A deploy works with any collaborators. What is proved about the bucket
after a deploy needs to know what its requests do, and this module
states that once:

- `LocalSource.Finds`: a walk finds the files that its filter accepts;
- `LocalSource.FailsByIo`: what goes wrong with local files is that one
  of them cannot be used;
- `Store.Frames`: a request leaves the objects alone that it does not
  name, also when it fails;
- `Store.Keeps`: a request that succeeds takes effect as well;
- `Store.Records`: a listing shows what the bucket holds, and of an
  upload the fingerprint and the size;
- `Cdn.Frames`: the distributions leave the bucket alone.

Each contract is carried from one request to many, and from there to the
course of a deploy: `Course.view_other`, `Course.view_put` and
`Course.view_deleted` say what the bucket holds afterwards. The
collaborators in memory keep their contracts. So do the files of a tree
(`LocalSource.ofTree_finds`, `LocalSource.ofTree_failsByIo`) and the cloud
(`Cloud.BucketClient.store_records`).
-/

set_option autoImplicit false

namespace SiteSync

/-! ### Files -/

/-- A walk that succeeds finds the files of `tree` that its filter
accepts. -/
def LocalSource.Finds (source : LocalSource) (root : Text) (filter : WalkFilter)
    (tree : List WalkedFile) : Prop :=
  ∀ found, (source.walk root filter).1 = .done found →
    found.Perm (tree.filter (filter.accepts ·.path))

/-- What goes wrong with local files is that a file or directory cannot
be used. -/
structure LocalSource.FailsByIo (source : LocalSource) : Prop where
  /-- A walk fails because of a file or directory. -/
  walk : ∀ root filter e, (source.walk root filter).1 = .failed e →
    ∃ path fault, e = .io path fault
  /-- A reading fails because of a file. -/
  read : ∀ location e, source.read location = .failed e → ∃ path fault, e = .io path fault

namespace FlatFiles

/-- Files in memory as a walk shows them. -/
def tree (base : Text) (fs : FlatFiles) : List WalkedFile :=
  fs.map fun f => ⟨f.path, base ++ f.path, f.content.length⟩

end FlatFiles

/-- A walk through files in memory finds those that its filter accepts. -/
theorem LocalSource.ofFlat_finds (base root : Text) (filter : WalkFilter)
    (trouble : Option FileTrouble) (fs : FlatFiles) :
    (LocalSource.ofFlat base trouble fs).Finds root filter (fs.tree base) := by
  intro found hfound
  have hwalked : found = fs.walked base filter := by
    unfold ofFlat at hfound
    cases trouble with
    | none =>
      injection hfound with h
      exact h.symm
    | some t => cases t <;> cases hfound
  rw [hwalked, FlatFiles.walked, FlatFiles.tree, List.filter_map]
  exact .refl _

/-- An attempt that is made to fail fails with its error. -/
theorem FlatFiles.eq_error_of_attempt {α : Type} {value : α} {error e : Error}
    {trouble : Option FileTrouble} (h : attempt value error trouble = .failed e) : e = error := by
  cases trouble with
  | none => cases h
  | some t =>
    cases t with
    | fails => cases h; rfl
    | kills => cases h

/-- What goes wrong with files in memory is that one of them cannot be
used. -/
theorem LocalSource.ofFlat_failsByIo (base : Text) (trouble : Option FileTrouble)
    (fs : FlatFiles) : (LocalSource.ofFlat base trouble fs).FailsByIo where
  walk := fun root _ _ he => ⟨root, _, FlatFiles.eq_error_of_attempt he⟩
  read := fun location e he => by
    change fs.read base location = .failed e at he
    unfold FlatFiles.read at he
    split at he
    · cases he
      exact ⟨location, .notFound, rfl⟩
    · exact ⟨location, _, FlatFiles.eq_error_of_attempt he⟩

/-! ### Buckets -/

section Store

variable {σ α : Type}

/-- A request changes no object but those it names. `view` tells what
the bucket holds under a key. -/
structure Store.Frames (st : Store σ) (view : σ → Text → Option α) : Prop where
  /-- Listing changes nothing. -/
  list : ∀ start s key, view (st.list start s).state key = view s key
  /-- An upload changes at most the object of its key. -/
  put : ∀ u acl s key, key ≠ u.file.key → view (st.put u acl s).state key = view s key
  /-- A deletion changes at most the objects of its keys. -/
  delete : ∀ keys s key, key ∉ keys → view (st.delete keys s).state key = view s key

/-- A request that succeeds takes effect. `stored` is what a file
becomes in the bucket. -/
structure Store.Keeps (st : Store σ) (view : σ → Text → Option α)
    (stored : LocalFile → Option Text → α) : Prop extends st.Frames view where
  /-- An upload that succeeds puts the file. -/
  put_done : ∀ u acl s, (st.put u acl s).outcome = .done () →
    view (st.put u acl s).state u.file.key = some (stored u.file acl)
  /-- A deletion that succeeds removes the objects. -/
  delete_done : ∀ keys s, (st.delete keys s).outcome = .done () →
    ∀ key ∈ keys, view (st.delete keys s).state key = none

/-- The object of a file as a listing shows it. -/
def LocalFile.remote (f : LocalFile) : RemoteObject := ⟨f.key, f.fingerprint, f.size⟩

/-- A listing of the objects under `start` shows what the bucket holds,
and of a file its fingerprint and size. `valid` are the states in which
the bucket does so; requests lead from one of them to another. -/
structure Store.Records (st : Store σ) (start : Text) (valid : σ → Prop)
    (view : σ → Text → Option RemoteObject) : Prop
    extends st.Keeps view fun f _ => f.remote where
  /-- A listing shows the objects under `start` as they are. -/
  listing : ∀ s v, valid s → (st.list start s).outcome = .done v →
    ∀ key, Text.startsWith key start = true → v.find? key = view s key
  /-- Listing leads to a valid state. -/
  valid_list : ∀ s, valid s → valid (st.list start s).state
  /-- An upload leads to a valid state. -/
  valid_put : ∀ u acl s, valid s → valid (st.put u acl s).state
  /-- A deletion leads to a valid state. -/
  valid_delete : ∀ keys s, valid s → valid (st.delete keys s).state

/-- Telling the distributions leads from one valid state to another. -/
def Cdn.Preserves (cdn : Cdn σ) (valid : σ → Prop) : Prop :=
  ∀ keys s, valid s → valid (cdn.invalidate keys s).state

/-- Telling the distributions leaves the bucket alone. -/
def Cdn.Frames (cdn : Cdn σ) (view : σ → Text → Option α) : Prop :=
  ∀ keys s key, view (cdn.invalidate keys s).state key = view s key

variable {st : Store σ} {view : σ → Text → Option α} {stored : LocalFile → Option Text → α}
  {acl : Option Text} {s t : σ} {key : Text}

namespace Store.Frames

/-- Uploads change no object but those of their keys. -/
theorem view_puts (h : st.Frames view) {log : List (Upload × Attempt Text Unit)}
    (hlog : Asked (st.put · acl) s log t) (hkey : ∀ x ∈ log, key ≠ x.1.file.key) :
    view t key = view s key :=
  hlog.preserves (P := fun t => view t key = view s key) rfl fun x hx t ht _ =>
    (h.put x.1 acl t key (hkey x hx)).trans ht

/-- Deletions change no object but those of their keys. -/
theorem view_deletions (h : st.Frames view) {log : List (List Text × Attempt Text Unit)}
    (hlog : Asked st.delete s log t) (hkey : ∀ x ∈ log, key ∉ x.1) : view t key = view s key :=
  hlog.preserves (P := fun t => view t key = view s key) rfl fun x hx t ht _ =>
    (h.delete x.1 t key (hkey x hx)).trans ht

end Store.Frames

namespace Store.Keeps

/-- Uploads of distinct keys that all succeed put their files. -/
theorem view_puts (h : st.Keeps view stored) {log : List (Upload × Attempt Text Unit)}
    (hlog : Asked (st.put · acl) s log t) (hdone : ∀ x ∈ log, x.2 = .done ())
    (hkeys : (log.map (·.1.file.key)).Nodup) :
    ∀ x ∈ log, view t x.1.file.key = some (stored x.1.file acl) := by
  induction hlog with
  | nil => exact fun x hx => nomatch hx
  | @snoc log t hlog u ih =>
    rw [List.map_append, List.nodup_append] at hkeys
    obtain ⟨hnodup, -, hne⟩ := hkeys
    intro x hmem
    rcases List.mem_append.1 hmem with hx | hx
    · -- The last upload has another key.
      have hkey : x.1.file.key ≠ u.file.key :=
        hne _ (List.mem_map_of_mem hx) _ (List.mem_singleton_self _)
      rw [h.put u acl t _ hkey]
      exact ih (fun y hy => hdone y (List.mem_append_left _ hy)) hnodup x hx
    · have hu := hdone x hmem
      rw [List.mem_singleton.1 hx] at hu ⊢
      exact h.put_done u acl t hu

/-- Deletions that all succeed remove their objects. -/
theorem view_deletions (h : st.Keeps view stored) {log : List (List Text × Attempt Text Unit)}
    (hlog : Asked st.delete s log t) (hdone : ∀ x ∈ log, x.2 = .done ()) :
    ∀ x ∈ log, ∀ key ∈ x.1, view t key = none := by
  induction hlog with
  | nil => exact fun x hx => nomatch hx
  | @snoc log t hlog keys ih =>
    have hlast : (st.delete keys t).outcome = .done () :=
      hdone (keys, _) (List.mem_append_right _ (List.mem_singleton_self _))
    intro x hx key hkey
    -- A key may be deleted twice, and then the last request counts.
    by_cases hmem : key ∈ keys
    · exact h.delete_done keys t hlast key hmem
    · rcases List.mem_append.1 hx with hx | hx
      · rw [h.delete keys t key hmem]
        exact ih (fun y hy => hdone y (List.mem_append_left _ hy)) x hx key hkey
      · rw [List.mem_singleton.1 hx] at hkey
        exact absurd hkey hmem

end Store.Keeps

end Store

/-! ### The bucket after a deploy -/

/-- Telling the distributions changes no object, if they leave the bucket
alone. -/
theorem Deployment.view_tell {σ α : Type} (d : Deployment σ) {view : σ → Text → Option α}
    (hcdn : ∀ cdn ∈ d.cdn, cdn.Frames view) (told : Option (List Text)) (s : σ) (key : Text) :
    view (d.tell told s) key = view s key := by
  unfold tell
  split
  · rename_i cdn keys hc
    exact hcdn cdn hc keys s key
  · rfl

namespace Deployment.Course

variable {σ α : Type} {d : Deployment σ} {w : σ} {h : History} {log : Deletions}
  {told : Option (List Text)} {report : Report σ} {view : σ → Text → Option α}
  {stored : LocalFile → Option Text → α} {key : Text}

/-- What is neither uploaded nor deleted stays as it is, whoever fails. -/
theorem view_other (hc : d.Course w h log told report) (hstore : d.store.Frames view)
    (hcdn : ∀ cdn ∈ d.cdn, cdn.Frames view) (hput : ∀ x ∈ h.finished, key ≠ x.1.file.key)
    (hdeleted : ∀ x ∈ log, key ∉ x.1) : view report.world key = view w key := by
  obtain ⟨s, t, hasked, hdel, hworld⟩ := hc.world
  rw [hworld, d.view_tell hcdn, hstore.view_deletions hdel hdeleted, hstore.view_puts hasked hput,
    hstore.list]

/-- A deploy leads from one valid state to another. -/
theorem valid_world (hc : d.Course w h log told report) {valid : σ → Prop}
    {view : σ → Text → Option RemoteObject}
    (hstore : d.store.Records d.rules.keyPrefix valid view)
    (hcdn : ∀ cdn ∈ d.cdn, cdn.Preserves valid) (hw : valid w) : valid report.world := by
  obtain ⟨s, t, hasked, hdel, hworld⟩ := hc.world
  have hs : valid s := hasked.preserves (hstore.valid_list w hw) fun x _ s hs _ =>
    hstore.valid_put x.1 d.rules.acl s hs
  have ht : valid t := hdel.preserves hs fun x _ s hs _ => hstore.valid_delete x.1 s hs
  rw [hworld]
  unfold tell
  split
  · rename_i cdn keys hcdn'
    exact hcdn cdn hcdn' keys t ht
  · exact ht

/-- What is deleted is gone. -/
theorem view_deleted (hc : d.Course w h log told report) (hstore : d.store.Keeps view stored)
    (hcdn : ∀ cdn ∈ d.cdn, cdn.Frames view) (hdone : ∀ x ∈ log, x.2 = .done ())
    (hdeleted : ∃ x ∈ log, key ∈ x.1) : view report.world key = none := by
  obtain ⟨s, t, -, hdel, hworld⟩ := hc.world
  obtain ⟨x, hx, hkey⟩ := hdeleted
  rw [hworld, d.view_tell hcdn]
  exact hstore.view_deletions hdel hdone x hx key hkey

/-- What is uploaded and not deleted is there. -/
theorem view_put (hc : d.Course w h log told report) (hstore : d.store.Keeps view stored)
    (hcdn : ∀ cdn ∈ d.cdn, cdn.Frames view) (hdone : ∀ x ∈ h.finished, x.2 = .done ())
    (hnodup : (h.finished.map (·.1.file.key)).Nodup) {f : LocalFile}
    (hput : f ∈ h.finished.map (·.1.file)) (hkept : ∀ x ∈ log, f.key ∉ x.1) :
    view report.world f.key = some (stored f d.rules.acl) := by
  obtain ⟨s, t, hasked, hdel, hworld⟩ := hc.world
  obtain ⟨x, hx, rfl⟩ := List.mem_map.1 hput
  rw [hworld, d.view_tell hcdn, hstore.toFrames.view_deletions hdel hkept]
  exact hstore.view_puts hasked hdone hnodup x hx

end Deployment.Course

/-! ### Collaborators that do not fail -/

namespace Deployment

variable {σ : Type}

/-- Whatever a deploy asks for succeeds. -/
structure Reliable (d : Deployment σ) : Prop where
  /-- The bucket can be listed. -/
  list : ∀ start s, ∃ v, (d.store.list start s).outcome = .done v
  /-- Every file can be uploaded. -/
  put : ∀ u acl s, (d.store.put u acl s).outcome = .done ()
  /-- Every object can be deleted. -/
  delete : ∀ keys s, (d.store.delete keys s).outcome = .done ()
  /-- The local files can be found. -/
  walk : ∃ found, (d.source.walk d.rules.source d.rules.walkFilter).1 = .done found
  /-- Every local file can be read. -/
  read : ∀ f ∈ d.kept, ∃ content, d.source.read f.location = .done content
  /-- The distributions can be told. -/
  cdn : ∀ cdn ∈ d.cdn, ∀ keys s, (cdn.invalidate keys s).outcome = .done ()

/-- If nothing fails then a deploy succeeds. -/
theorem Reliable.run_ok {d : Deployment σ} (hd : d.Reliable) (schedule : Group.Schedule σ) (w : σ) :
    ∃ t, (d.run schedule w).result = .ok t := by
  obtain ⟨h, log, told, hc⟩ := d.run_course schedule w
  cases hresult : (d.run schedule w).result with
  | ok t => exact ⟨t, rfl⟩
  | error e =>
    exfalso
    -- Each of the places where a deploy may stop is excluded.
    obtain ⟨s, t, hasked, hdel, -⟩ := hc.world
    cases hc.stopped e hresult with
    | listing hlist =>
      obtain ⟨v, hv⟩ := hd.list d.rules.keyPrefix w
      exact Attempt.ne_done_of_error? hlist v hv
    | walking _ hwalk =>
      obtain ⟨found, hfound⟩ := hd.walk
      exact Attempt.ne_done_of_error? hwalk found hfound
    | files _ _ hfirst =>
      obtain ⟨files, hfiles, hh⟩ := hc.handled
      obtain ⟨f, hf, he⟩ | ⟨x, hx, he⟩ := hh.causes e (List.mem_of_mem_head? hfirst)
      · have hkept : f ∈ d.kept := d.ordered_perm.mem_iff.1 (hfiles.subset (hh.reads.subset hf))
        obtain ⟨content, hcontent⟩ := hd.read f hkept
        rw [LocalSource.ready, hcontent] at he
        cases he
      · obtain ⟨s, hs⟩ := hasked.exists_state hx
        exact Attempt.ne_done_of_error? he () (hs.trans (hd.put _ _ s))
    | deleting _ _ _ _ hlog =>
      obtain ⟨x, hx, hne⟩ := hlog.exists_ne_done
      obtain ⟨s, hs⟩ := hdel.exists_state hx
      exact hne (hs.trans (hd.delete _ s))
    | telling _ _ _ _ _ _ htold =>
      obtain ⟨cdn, hmem, keys, s, -, he⟩ := htold
      exact Attempt.ne_done_of_error? he () (hd.cdn cdn hmem keys s)

end Deployment

/-! ### The bucket in memory -/

namespace Bucket

/-- The object of a key. -/
def find? (b : Bucket) (key : Text) : Option StoredObject := List.find? (·.object.key == key) b

/-- Removing keys leaves the objects of the others. -/
theorem find?_eraseAll_of_not_mem {b : Bucket} {keys : List Text} {key : Text} (h : key ∉ keys) :
    (b.eraseAll keys).find? key = b.find? key := by
  unfold find? eraseAll
  rw [List.find?_filter]
  refine congrArg (List.find? · b) (funext fun o => ?_)
  by_cases ho : o.object.key = key
  · simp [ho, h]
  · simp [ho]

/-- Of the keys that are removed there is no object left. -/
theorem find?_eraseAll_of_mem {b : Bucket} {keys : List Text} {key : Text} (h : key ∈ keys) :
    (b.eraseAll keys).find? key = none := by
  unfold find? eraseAll
  rw [List.find?_filter, List.find?_eq_none]
  intro o _ ho
  by_cases hk : o.object.key = key
  · simp [hk, h] at ho
  · simp [hk] at ho

/-- An object that is put is found under its key. -/
theorem find?_put (o : StoredObject) (b : Bucket) : (b.put o).find? o.object.key = some o := by
  rw [find?, put, List.find?_cons_of_pos (by simp)]

/-- Putting an object leaves those of other keys. -/
theorem find?_put_of_ne {o : StoredObject} {b : Bucket} {key : Text} (h : key ≠ o.object.key) :
    (b.put o).find? key = b.find? key := by
  have hne : (o.object.key == key) = false := by simpa using Ne.symm h
  rw [find?, put, List.find?_cons_of_neg (by simp [hne])]
  exact find?_eraseAll_of_not_mem (by simpa using h)

/-- The objects under a prefix of a key hold the object of that key. -/
theorem find?_under {b : Bucket} {start key : Text} (h : Text.startsWith key start = true) :
    (b.under start).find? (·.key == key) = (b.find? key).map (·.object) := by
  rw [under, List.find?_filter, List.find?_map]
  refine congrArg (Option.map _) (congrArg (List.find? · b) (funext fun o => ?_))
  by_cases ho : o.object.key = key
  · simp [ho, h]
  · simp [ho]

/-- No key is under a prefix twice. -/
theorem nodup_under {b : Bucket} (h : (b.map (·.object.key)).Nodup) (start : Text) :
    ((b.under start).map RemoteObject.key).Nodup := by
  have hobjects : ((b.map (·.object)).map RemoteObject.key).Nodup := by
    rw [List.map_map]
    exact h
  exact hobjects.sublist (List.filter_sublist.map _)

/-- Putting an object leaves every key there once: it takes the place of
the one that had its key. -/
theorem nodup_put {b : Bucket} (h : (b.map (·.object.key)).Nodup) (o : StoredObject) :
    ((b.put o).map (·.object.key)).Nodup := by
  rw [put, List.map_cons, List.nodup_cons]
  refine ⟨fun hmem => ?_, h.sublist (List.filter_sublist.map _)⟩
  obtain ⟨x, hx, hk⟩ := List.mem_map.1 hmem
  have := (List.mem_filter.1 hx).2
  simp [hk] at this

end Bucket

/-- The bucket in memory does what it is asked. -/
theorem Store.ofBucket_keeps (unfiltered : Bool) :
    (Store.ofBucket unfiltered).Keeps Bucket.find? fun f _ => Bucket.objectOf f where
  list := fun _ _ _ => rfl
  put := fun _ _ _ _ hkey => Bucket.find?_put_of_ne hkey
  delete := fun _ _ _ hkey => Bucket.find?_eraseAll_of_not_mem hkey
  put_done := fun u _ s _ => Bucket.find?_put (Bucket.objectOf u.file) s
  delete_done := fun _ _ _ _ hkey => Bucket.find?_eraseAll_of_mem hkey

/-- Every file in memory can be read where it is, unless it is made to
fail. -/
theorem FlatFiles.read_done {base : Text} {fs : FlatFiles} (htrouble : ∀ f ∈ fs, f.trouble = none)
    {f : FlatFile} (hf : f ∈ fs) : ∃ content, fs.read base (base ++ f.path) = .done content := by
  unfold read
  rw [Text.stripPrefix?_append, Option.bind_some]
  cases hfind : fs.find? f.path with
  | none => exact absurd (by simp) (List.find?_eq_none.1 hfind f hf)
  | some g =>
    dsimp only
    rw [htrouble g (List.mem_of_find?_eq_some hfind)]
    exact ⟨g.content, rfl⟩

/-- With files and a bucket in memory nothing fails. -/
theorem Deployment.reliable_of_memory {d : Deployment Bucket} {base : Text} {fs : FlatFiles}
    {unfiltered : Bool} (hsource : d.source = .ofFlat base none fs)
    (htrouble : ∀ f ∈ fs, f.trouble = none) (hstore : d.store = .ofBucket unfiltered)
    (hcdn : d.cdn = some .accepting) : d.Reliable where
  list := fun start s => by rw [hstore]; exact ⟨_, rfl⟩
  put := fun u acl s => by rw [hstore]; rfl
  delete := fun keys s => by rw [hstore]; rfl
  walk := by rw [hsource]; exact ⟨_, rfl⟩
  read := fun f hf => by
    unfold kept at hf
    rw [hsource] at hf
    have hf := (List.mem_filter.1 hf).1
    obtain ⟨g, hg, rfl⟩ := List.mem_map.1 hf
    rw [hsource]
    exact FlatFiles.read_done htrouble (List.mem_filter.1 hg).1
  cdn := fun cdn hmem keys s => by
    rw [hcdn] at hmem
    cases hmem
    rfl

/-- Of the objects in memory a listing shows what is compared. -/
theorem Store.ofBucket_records (unfiltered : Bool) (start : Text) :
    (Store.ofBucket unfiltered).Records start (fun b => (b.map (·.object.key)).Nodup)
      fun b key => (b.find? key).map (·.object) where
  list := fun _ _ _ => rfl
  put := fun u acl s key hkey =>
    congrArg (Option.map _) ((Store.ofBucket_keeps unfiltered).put u acl s key hkey)
  delete := fun keys s key hkey =>
    congrArg (Option.map _) ((Store.ofBucket_keeps unfiltered).delete keys s key hkey)
  put_done := fun u acl s ho =>
    congrArg (Option.map _) ((Store.ofBucket_keeps unfiltered).put_done u acl s ho)
  delete_done := fun keys s ho key hkey =>
    congrArg (Option.map _) ((Store.ofBucket_keeps unfiltered).delete_done keys s ho key hkey)
  listing := fun s v hs hv key hkey => by
    cases hv
    -- A bucket that shows everything shows the key as well.
    have hkey' : Text.startsWith key (if unfiltered then [] else start) = true := by
      cases unfiltered with
      | true => rfl
      | false => exact hkey
    rw [Inventory.ofList, ← Bucket.find?_under hkey']
    exact Inventory.find?_foldl_insert_empty (Bucket.nodup_under hs _) key
  valid_list := fun _ hs => hs
  valid_put := fun u _ _ hs => Bucket.nodup_put hs (Bucket.objectOf u.file)
  valid_delete := fun keys s hs => hs.sublist (List.filter_sublist.map _)

/-- Distributions that accept everything leave the bucket alone. -/
theorem Cdn.accepting_frames {σ α : Type} (view : σ → Text → Option α) :
    (Cdn.accepting (σ := σ)).Frames view :=
  fun _ _ _ => rfl

/-! ### A small site -/

namespace Sample

/-- The site lives under `my`, leaves alone what has a `t` in its path,
and deletes at most one object in a deploy. -/
def rules : Rules where
  source := "site".toList
  bucketPath := "my".toList
  routes := [{ expr := .set (.ofChar 't'), headers := [], gzip := false, ignore := true }]
  order := []
  ignore := none
  walkFilter := ⟨.set .none, .set .none⟩
  acl := none
  workers := 2
  maxDelete := 1
  force := false

/-- Three files, of which the last is left alone. -/
def files : FlatFiles := [⟨['a'], [1], none⟩, ⟨['b'], [2], none⟩, ⟨['t'], [3], none⟩]

/-- An object with some content. -/
def object (key : String) (content : Bytes) : StoredObject :=
  ⟨⟨key.toList, fingerprintOf content, content.length⟩, some content⟩

/-- The first file is there already, `my/x` and `my/y` have no file any
more, and the rest is nobody's business. -/
def bucket : Bucket :=
  [object "my/a" [1], object "my/t" [7], object "my/x" [9], object "my/y" [9],
    object "other/z" [7]]

/-- The deploy of the site. -/
def deployment : Deployment Bucket where
  rules := rules
  source := .ofFlat [] none files
  store := .ofBucket false
  cdn := some .accepting

/-- Nothing fails in the deploy of the small site. -/
theorem reliable : deployment.Reliable :=
  Deployment.reliable_of_memory rfl (by decide) rfl rfl

end Sample

end SiteSync
