import Mathlib.Data.List.Perm.Basic
import SiteSync.Proofs.Deploy.Contracts
import SiteSync.Proofs.Deploy.Success

/-!
# `SiteSync.Proofs.Deploy.Reconciliation`: a deploy brings the bucket in line

A deploy that succeeds uploads exactly the files whose objects are
missing or differ, and deletes exactly the first of the objects that
have no file any more. Both are stated by the tree of local files and
the listing alone, without a word about readers, planners and workers:

- `LocalFile.NeedsUpload`: which files are to be uploaded;
- `Rules.obsolete`: which objects may be deleted;
- `Deployment.Reconciled`: what a deploy did, and what the bucket holds
  after it.

`Deployment.reconciles` is the theorem.
-/

set_option autoImplicit false

namespace SiteSync

/-! ### What there is to do -/

namespace LocalFile

/-- Whether a file is to be uploaded: its object is missing, every file
is to be uploaded, or the object has another size or fingerprint. -/
def NeedsUpload (v : Inventory) (force : Bool) (f : LocalFile) : Prop :=
  v.find? f.key = none ∨ force = true ∨
    ∃ o, v.find? f.key = some o ∧ (f.size ≠ o.size ∨ f.fingerprint ≠ o.fingerprint)

/-- The planner finds a reason exactly when there is one. -/
theorem reason?_ne_none_iff {v : Inventory} {force : Bool} {f : LocalFile} :
    f.reason? (v.find? f.key) force ≠ none ↔ f.NeedsUpload v force := by
  unfold NeedsUpload reason?
  cases v.find? f.key with
  | none => simp
  | some o =>
    cases force with
    | true => simp
    | false =>
      unfold replaceReason?
      by_cases hsize : f.size = o.size <;> by_cases hprint : f.fingerprint = o.fingerprint <;>
        simp [hsize, hprint]

instance (v : Inventory) (force : Bool) (f : LocalFile) : Decidable (f.NeedsUpload v force) :=
  decidable_of_iff _ reason?_ne_none_iff

end LocalFile

namespace Rules

/-- Whether a local file takes part in a deploy: the walk accepts it and
it is not left alone. -/
def deploys (rules : Rules) (f : WalkedFile) : Bool :=
  rules.walkFilter.accepts f.path && !rules.ignoresPath f.path

/-- The objects of a listing that have no file in `site`, belong to the
site and are not left alone, in byte order. -/
def obsolete (rules : Rules) (v : Inventory) (site : List WalkedFile) : List Text :=
  Text.sort (v.keys.filter fun key => rules.isManaged key && !rules.ignoresKey key
    && !(site.map (rules.bucketKey ·.path)).contains key)

/-- No key is obsolete twice. -/
theorem nodup_obsolete (rules : Rules) (v : Inventory) (site : List WalkedFile) :
    (rules.obsolete v site).Nodup :=
  Text.nodup_sort (v.nodup_keys.filter _)

end Rules

namespace Deployment

variable {σ α : Type} {d : Deployment σ} {w : σ} {h : History} {log : Deletions}
  {told : Option (List Text)} {report : Report σ} {tree site : List WalkedFile} {t : Tally}

/-! ### The files of a deploy that succeeds -/

/-- The files of the groups are those of the tree that take part. -/
theorem ordered_perm_deploys (hfinds : d.source.Finds d.rules.source d.rules.walkFilter tree)
    {found : List WalkedFile}
    (hfound : (d.source.walk d.rules.source d.rules.walkFilter).1 = .done found) :
    d.ordered.Perm (tree.filter d.rules.deploys) := by
  have hkept : d.kept = found.filter (!d.rules.ignoresPath ·.path) := by rw [kept, hfound]
  have hfilter : (tree.filter (d.rules.walkFilter.accepts ·.path)).filter
      (!d.rules.ignoresPath ·.path) = tree.filter d.rules.deploys := by
    rw [List.filter_filter]
    exact List.filter_congr fun f _ => Bool.and_comm _ _
  rw [← hfilter]
  exact d.ordered_perm.trans (hkept ▸ (hfinds found hfound).filter _)

/-- A deploy that succeeds has read and compared the files of the site,
each of them once. -/
theorem Course.compared_perm (hc : d.Course w h log told report) (hsite : d.ordered.Perm site)
    (hok : report.result = .ok t) :
    ∃ files : List LocalFile, site.map (d.source.ready d.rules) = files.map .done ∧
      files.Perm h.compared := by
  have hperm : (site.map (d.source.ready d.rules)).Perm (h.compared.map .done) := by
    rw [← hc.compared_eq hok]
    exact (hsite.map _).symm
  -- Not the order of the reading matters, but which files were read.
  have hcomp : Relation.Comp (· = List.map Attempt.done ·) List.Perm
      (site.map (d.source.ready d.rules)) h.compared := by
    rw [List.eq_map_comp_perm]
    exact hperm
  exact hcomp

/-- A file that was read has the key of its path. -/
theorem keys_of_ready {files : List LocalFile}
    (hready : site.map (d.source.ready d.rules) = files.map .done) :
    files.map LocalFile.key = site.map (d.rules.bucketKey ·.path) := by
  induction site generalizing files with
  | nil =>
    cases files with
    | nil => rfl
    | cons file files => cases hready
  | cons f site ih =>
    cases files with
    | nil => cases hready
    | cons file files =>
      rw [List.map_cons, List.map_cons, List.cons.injEq] at hready
      rw [List.map_cons, List.map_cons, LocalSource.key_of_ready hready.1, ih hready.2]

/-- Files with distinct paths have distinct keys. -/
theorem nodup_keys_of_ready {files : List LocalFile}
    (hready : site.map (d.source.ready d.rules) = files.map .done)
    (hdistinct : (site.map WalkedFile.path).Nodup) : (files.map LocalFile.key).Nodup := by
  have hpaths := d.rules.nodup_bucketKey hdistinct
  rw [List.map_map] at hpaths
  rw [keys_of_ready hready]
  exact hpaths

/-- The planner's decisions about files with distinct keys, as a
question about each file. -/
theorem Course.decided_eq (hc : d.Course w h log told report)
    (hnodup : (h.compared.map LocalFile.key).Nodup) :
    h.decided = h.compared.map fun f =>
      (f, f.reason? ((d.listed w).find? f.key) d.rules.force) := by
  rw [hc.decided, decisions_of_nodup _ _ hnodup]

/-- The uploads that the planner asks for are those of the files that
need one. -/
theorem Course.wanted_eq (hc : d.Course w h log told report)
    (hnodup : (h.compared.map LocalFile.key).Nodup) :
    h.wanted.map Upload.file
      = h.compared.filter fun f => decide (f.NeedsUpload (d.listed w) d.rules.force) := by
  rw [History.wanted, hc.decided_eq hnodup, List.filterMap_map, List.map_filterMap,
    ← List.filterMap_eq_filter]
  refine List.filterMap_congr fun f _ => ?_
  rw [Function.comp_apply, Option.guard]
  cases hreason : f.reason? ((d.listed w).find? f.key) d.rules.force with
  | none =>
    have hno : ¬f.NeedsUpload (d.listed w) d.rules.force := fun hn =>
      LocalFile.reason?_ne_none_iff.2 hn hreason
    rw [if_neg (by simpa using hno)]
    rfl
  | some reason =>
    have hyes : f.NeedsUpload (d.listed w) d.rules.force :=
      LocalFile.reason?_ne_none_iff.1 (by rw [hreason]; simp)
    rw [if_pos (by simpa using hyes)]
    rfl

/-- The files that the planner skips are the others. -/
theorem Course.skipped_eq (hc : d.Course w h log told report)
    (hnodup : (h.compared.map LocalFile.key).Nodup) :
    h.skipped
      = h.compared.filter fun f => decide ¬f.NeedsUpload (d.listed w) d.rules.force := by
  rw [History.skipped, hc.decided_eq hnodup, List.filterMap_map, ← List.filterMap_eq_filter]
  refine List.filterMap_congr fun f _ => ?_
  rw [Function.comp_apply, Option.guard]
  have hiff : f.reason? ((d.listed w).find? f.key) d.rules.force ≠ none ↔
      f.NeedsUpload (d.listed w) d.rules.force := LocalFile.reason?_ne_none_iff
  by_cases hn : f.NeedsUpload (d.listed w) d.rules.force
  · rw [if_neg (hiff.2 hn), if_neg (by simpa using hn)]
  · rw [if_pos (Classical.not_not.1 (mt hiff.1 hn)), if_pos (by simpa using hn)]

/-- What a deploy may delete are the objects without a file. -/
theorem candidates_eq_obsolete
    (hkeys : (h.compared.map LocalFile.key).Perm (site.map (d.rules.bucketKey ·.path))) :
    d.candidates w h = d.rules.obsolete (d.listed w) site := by
  unfold candidates deleteCandidates Rules.obsolete
  rw [Inventory.keys_eraseAll, List.filter_filter]
  refine congrArg Text.sort (List.filter_congr fun key _ => ?_)
  -- What was compared has left the inventory.
  have hmem : (h.compared.map LocalFile.key).contains key
      = (site.map (d.rules.bucketKey ·.path)).contains key := by
    rw [Bool.eq_iff_iff, List.contains_iff_mem, List.contains_iff_mem]
    exact hkeys.mem_iff
  rw [hmem]

/-- So, up to their order, they are the files of the site that need
one. -/
theorem Course.wanted_perm (hc : d.Course w h log told report) {files : List LocalFile}
    (hperm : files.Perm h.compared) (hnodup : (files.map LocalFile.key).Nodup) :
    (h.wanted.map Upload.file).Perm
      (files.filter fun f => decide (f.NeedsUpload (d.listed w) d.rules.force)) := by
  rw [hc.wanted_eq ((hperm.map _).nodup_iff.1 hnodup)]
  exact hperm.symm.filter _

/-- The uploads that ended are theirs. -/
theorem Course.finished_perm (hc : d.Course w h log told report) (hok : report.result = .ok t)
    {files : List LocalFile} (hperm : files.Perm h.compared)
    (hnodup : (files.map LocalFile.key).Nodup) :
    (h.finished.map (·.1.file)).Perm
      (files.filter fun f => decide (f.NeedsUpload (d.listed w) d.rules.force)) := by
  have hended := (hc.finished_perm_wanted hok).map Upload.file
  rw [List.map_map] at hended
  exact hended.trans (hc.wanted_perm hperm hnodup)

/-- A file that takes part is not obsolete. -/
theorem not_mem_obsolete {rules : Rules} {v : Inventory} {site : List WalkedFile} {key : Text}
    (hkey : key ∈ site.map (rules.bucketKey ·.path)) : key ∉ rules.obsolete v site := by
  intro hold
  unfold Rules.obsolete at hold
  rw [Text.mem_sort, List.mem_filter, List.contains_iff_mem.2 hkey] at hold
  simp at hold

/-! ### What was asked for -/

/-- The requests of a deploy that succeeds, by the files `site`, which
were read as `files`, and the listing `v`. -/
structure Requested (d : Deployment σ) (v : Inventory) (site : List WalkedFile)
    (files : List LocalFile) (report : Report σ) : Prop where
  /-- All files are read, each once. -/
  reads : (report.events.filterMap Event.read?).Perm site
  /-- The files that need it are uploaded, each once, and no others. -/
  puts : (report.events.filterMap Event.put?).map (fun p => (p.1.file, p.2))
    |>.Perm ((files.filter fun f => decide (f.NeedsUpload v d.rules.force)).map (·, d.rules.acl))
  /-- The first of the objects without a file are deleted, in byte
  order. -/
  deletions : (report.events.filterMap Event.deletion?).flatten
    = (d.rules.obsolete v site).take d.rules.maxDelete
  /-- No key is deleted twice. -/
  nodup : (report.events.filterMap Event.deletion?).flatten.Nodup
  /-- The distributions, if there are any, are told of both. -/
  told : report.events.filterMap Event.invalidation? = d.cdn.toList.map fun _ =>
    Text.sort ((files.filter fun f => decide (f.NeedsUpload v d.rules.force)).map LocalFile.key
      ++ (d.rules.obsolete v site).take d.rules.maxDelete)
  /-- What was done, skipped and left is counted. -/
  tally : report.tally = {
    deleted := ((d.rules.obsolete v site).take d.rules.maxDelete).length.toUInt64
    stale := ((d.rules.obsolete v site).length - d.rules.maxDelete).toUInt64
    uploaded := (files.filter fun f =>
      decide (f.NeedsUpload v d.rules.force)).length.toUInt64
    skipped := (files.filter fun f =>
      decide ¬f.NeedsUpload v d.rules.force).length.toUInt64 }

/-- What a deploy did with a site whose files have distinct paths. -/
theorem Course.requested (hc : d.Course w h log told report) (hok : report.result = .ok t)
    (hsite : d.ordered.Perm site) {files : List LocalFile}
    (hkeys : files.map LocalFile.key = site.map (d.rules.bucketKey ·.path))
    (hnodup : (files.map LocalFile.key).Nodup) (hperm : files.Perm h.compared) :
    d.Requested (d.listed w) site files report := by
  have hh := (hc.complete t hok).handles
  have hcandidates : d.candidates w h = d.rules.obsolete (d.listed w) site :=
    candidates_eq_obsolete (hkeys ▸ (hperm.map _).symm)
  have hwanted := hc.wanted_perm hperm hnodup
  have hdeletions : (report.events.filterMap Event.deletion?).flatten
      = (d.rules.obsolete (d.listed w) site).take d.rules.maxDelete := by
    rw [hc.deletions, hc.flatten_eq hok, hcandidates]
  refine ⟨?_, ?_, hdeletions, ?_, ?_, ?_⟩
  · rw [hc.reads, hc.reads_eq hok]
    exact hsite
  · -- Every upload that was started has ended, if not in the same order.
    have hputs := ((hh.ended.map Upload.file).trans
      (List.map_map ▸ hc.finished_perm hok hperm hnodup)).map fun f => (f, d.rules.acl)
    rw [List.map_map] at hputs
    rw [hc.puts, List.map_map]
    exact hputs
  · rw [hdeletions]
    exact (d.rules.nodup_obsolete _ _).sublist (List.take_sublist _ _)
  · -- Sorted, the keys are the same in whatever order they have changed.
    have hsorted := Text.sort_eq_of_perm ((hwanted.map LocalFile.key).append_right
      ((d.rules.obsolete (d.listed w) site).take d.rules.maxDelete))
    rw [List.map_map] at hsorted
    rw [hc.invalidations_of_ok hok, hcandidates, ← hsorted]
    rfl
  · have huploaded := hwanted.length_eq
    have hskipped : h.skipped.length = (files.filter fun f =>
        decide ¬f.NeedsUpload (d.listed w) d.rules.force).length := by
      rw [hc.skipped_eq ((hperm.map _).nodup_iff.1 hnodup), (hperm.filter _).length_eq]
    rw [List.length_map] at huploaded
    rw [← (hc.complete t hok).tally, hc.tally_of_ok hok, hcandidates, huploaded, hskipped]

/-! ### What the bucket holds -/

/-- A deploy of the files `site`, which were read as `files`, has
brought the bucket in line: `v` is what the bucket listed, `view` tells
what it holds under a key, and `stored` is what a file becomes in it. -/
structure Reconciled (d : Deployment σ) (view : σ → Text → Option α)
    (stored : LocalFile → Option Text → α) (v : Inventory) (site : List WalkedFile)
    (files : List LocalFile) (w : σ) (report : Report σ) : Prop
    extends d.Requested v site files report where
  /-- The bucket holds the files that were uploaded. -/
  uploaded : ∀ f ∈ files, f.NeedsUpload v d.rules.force →
    view report.world f.key = some (stored f d.rules.acl)
  /-- The bucket does not hold what was deleted. -/
  deleted : ∀ key ∈ (d.rules.obsolete v site).take d.rules.maxDelete,
    view report.world key = none
  /-- Everything else is as it was. -/
  untouched : ∀ key, (∀ f ∈ files, f.NeedsUpload v d.rules.force → f.key ≠ key) →
    key ∉ (d.rules.obsolete v site).take d.rules.maxDelete →
    view report.world key = view w key

/-- A deploy that succeeds has brought the bucket in line with its
files, if their paths are distinct. -/
theorem Course.reconciled (hc : d.Course w h log told report) (hok : report.result = .ok t)
    {view : σ → Text → Option α} {stored : LocalFile → Option Text → α}
    (hstore : d.store.Keeps view stored) (hcdn : ∀ cdn ∈ d.cdn, cdn.Frames view)
    (hsite : d.ordered.Perm site) (hdistinct : (site.map WalkedFile.path).Nodup) :
    ∃ files, (d.store.list d.rules.keyPrefix w).outcome = .done (d.listed w) ∧
      site.map (d.source.ready d.rules) = files.map .done ∧
      d.Reconciled view stored (d.listed w) site files w report := by
  obtain ⟨files, hready, hperm⟩ := hc.compared_perm hsite hok
  obtain ⟨hlisted, -, hfailures, hh, -, hdone, -⟩ := hc.complete t hok
  obtain ⟨-, -, -, hput⟩ := hh.complete hfailures
  have hkeys := keys_of_ready hready
  have hfiles := nodup_keys_of_ready hready hdistinct
  have hrequested := hc.requested hok hsite hkeys hfiles hperm
  have hfinished := hc.finished_perm hok hperm hfiles
  have hmem : ∀ f, f ∈ h.finished.map (·.1.file) ↔
      f ∈ files ∧ f.NeedsUpload (d.listed w) d.rules.force := fun f => by
    rw [hfinished.mem_iff, List.mem_filter, decide_eq_true_eq]
  -- What was asked to be deleted are the obsolete keys that there is room for.
  have hlog : ∀ key, (∃ x ∈ log, key ∈ x.1) ↔
      key ∈ (d.rules.obsolete (d.listed w) site).take d.rules.maxDelete := fun key => by
    simp [← hrequested.deletions, hc.deletions]
  refine ⟨files, hlisted, hready, hrequested, fun f hf hneeds => ?_, fun key hkey => ?_,
    fun key hneeds hkey => ?_⟩
  · -- The object of a file that takes part outlives the deletions.
    have hkept : ∀ x ∈ log, f.key ∉ x.1 := fun x hx hin => by
      have hold := List.mem_of_mem_take ((hlog _).1 ⟨x, hx, hin⟩)
      exact not_mem_obsolete (hkeys ▸ List.mem_map_of_mem hf) hold
    have hnodup : (h.finished.map (·.1.file.key)).Nodup := by
      have hp := (hfinished.map LocalFile.key).nodup_iff.2
        (hfiles.sublist (List.filter_sublist.map _))
      rwa [List.map_map] at hp
    exact hc.view_put hstore hcdn hput hnodup ((hmem f).2 ⟨hf, hneeds⟩) hkept
  · exact hc.view_deleted hstore hcdn hdone ((hlog key).2 hkey)
  · -- No upload and no deletion is of any other key.
    refine hc.view_other hstore.toFrames hcdn (fun x hx he => ?_) fun x hx hin => ?_
    · obtain ⟨hf, hn⟩ := (hmem x.1.file).1 (List.mem_map_of_mem (f := (·.1.file)) hx)
      exact hneeds _ hf hn he.symm
    · exact hkey ((hlog key).1 ⟨x, hx, hin⟩)

/-- A deploy that succeeds brings the bucket in line with the files,
whatever the schedule chooses: with the files of any tree that the walk
may have found, if their paths are distinct. -/
theorem reconciles (d : Deployment σ) (schedule : Group.Schedule σ) (w : σ)
    {view : σ → Text → Option α} {stored : LocalFile → Option Text → α}
    (hstore : d.store.Keeps view stored) (hcdn : ∀ cdn ∈ d.cdn, cdn.Frames view)
    {tree : List WalkedFile} (hfinds : d.source.Finds d.rules.source d.rules.walkFilter tree)
    (hdistinct : (tree.map WalkedFile.path).Nodup) {t : Tally}
    (hok : (d.run schedule w).result = .ok t) :
    ∃ v files, (d.store.list d.rules.keyPrefix w).outcome = .done v ∧
      (tree.filter d.rules.deploys).map (d.source.ready d.rules) = files.map .done ∧
      d.Reconciled view stored v (tree.filter d.rules.deploys) files w (d.run schedule w) := by
  obtain ⟨h, log, told, hc⟩ := d.run_course schedule w
  obtain ⟨-, ⟨found, hfound⟩, -⟩ := hc.complete t hok
  have hsite := ordered_perm_deploys hfinds hfound
  have hdistinct' : ((tree.filter d.rules.deploys).map WalkedFile.path).Nodup :=
    hdistinct.sublist (List.filter_sublist.map _)
  obtain ⟨files, hlisted, hready, hreconciled⟩ :=
    hc.reconciled hok hstore hcdn hsite hdistinct'
  exact ⟨d.listed w, files, hlisted, hready, hreconciled⟩

/-- The deploy of a small site brings its bucket in line. -/
theorem reconciles_sample :
    ∃ t v files, (Sample.deployment.run Group.oneByOne Sample.bucket).result = .ok t ∧
      (Sample.deployment.store.list Sample.rules.keyPrefix Sample.bucket).outcome = .done v ∧
      ((Sample.files.tree []).filter Sample.rules.deploys).map
        (Sample.deployment.source.ready Sample.rules) = files.map .done ∧
      Sample.deployment.Reconciled Bucket.find? (fun f _ => Bucket.objectOf f) v
        ((Sample.files.tree []).filter Sample.rules.deploys) files Sample.bucket
        (Sample.deployment.run Group.oneByOne Sample.bucket) := by
  obtain ⟨t, hok⟩ := Sample.reliable.run_ok Group.oneByOne Sample.bucket
  have hcdn : ∀ cdn ∈ Sample.deployment.cdn, cdn.Frames Bucket.find? := by
    rintro cdn ⟨⟩
    exact Cdn.accepting_frames _
  obtain ⟨v, files, hlisted, hready, hreconciled⟩ :=
    reconciles Sample.deployment Group.oneByOne Sample.bucket (Store.ofBucket_keeps false) hcdn
      (LocalSource.ofFlat_finds [] _ _ none Sample.files) (by decide) hok
  exact ⟨t, v, files, hok, hlisted, hready, hreconciled⟩

end Deployment

end SiteSync
