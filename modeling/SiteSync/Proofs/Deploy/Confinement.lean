import SiteSync.Proofs.Deploy.Contracts
import SiteSync.Proofs.Text.Order

/-!
# `SiteSync.Proofs.Deploy.Confinement`: a deploy keeps to its site

Several sites may share a bucket, and a site may have files that a
deploy is to leave alone. Whatever the bucket lists and whoever fails, a
deploy asks only for changes to objects of its own site that are not
left alone, and reads no file that is: `Deployment.confined`.

`Event.keys` are the keys that an event asks the bucket to change.
-/

set_option autoImplicit false

namespace SiteSync

/-- The keys of the objects that an event asks the bucket to change. -/
def Event.keys : Event → List Text
  | .call (.put u _) => [u.file.key]
  | .call (.delete keys) => keys
  | _ => []

/-- They are those of an upload, or of a deletion. -/
theorem Event.mem_keys_iff {e : Event} {key : Text} :
    key ∈ e.keys ↔ (∃ p, e.put? = some p ∧ p.1.file.key = key) ∨
      ∃ keys, e.deletion? = some keys ∧ key ∈ keys := by
  unfold keys put? deletion?
  split <;> simp [eq_comm]

namespace Deployment

variable {σ : Type} {d : Deployment σ} {w : σ} {h : History} {log : Deletions}
  {told : Option (List Text)} {report : Report σ} {key : Text}

/-- A key that a deploy may change: it belongs to the site and is not
left alone. -/
def MayChange (d : Deployment σ) (key : Text) : Prop :=
  ∃ path, key = d.rules.keyPrefix ++ path ∧ ¬d.rules.Ignores path

/-- The two tests of the rules decide it. -/
theorem mayChange_iff :
    d.MayChange key ↔ d.rules.isManaged key = true ∧ d.rules.ignoresKey key = false := by
  constructor
  · rintro ⟨path, rfl, hnot⟩
    refine ⟨Rules.isManaged_bucketKey path, ?_⟩
    exact (Rules.ignoresKey_bucketKey path).trans (Rules.ignoresPath_eq_false_iff.2 hnot)
  · rintro ⟨hmanaged, hnot⟩
    obtain ⟨path, rfl⟩ := Rules.isManaged_iff.1 hmanaged
    rw [Rules.ignoresKey_bucketKey] at hnot
    exact ⟨path, rfl, Rules.ignoresPath_eq_false_iff.1 hnot⟩

/-! ### Files -/

/-- The files that take part in a deploy are found and not left alone. -/
theorem mem_kept {f : WalkedFile} (hf : f ∈ d.kept) :
    (∃ found, (d.source.walk d.rules.source d.rules.walkFilter).1 = .done found ∧ f ∈ found) ∧
      ¬d.rules.Ignores f.path := by
  unfold kept at hf
  split at hf
  · rename_i found hfound
    obtain ⟨hmem, hnot⟩ := List.mem_filter.1 hf
    exact ⟨⟨found, hfound, hmem⟩, Rules.ignoresPath_eq_false_iff.1 (by simpa using hnot)⟩
  · cases hf

/-- What a deploy reads takes part in it. -/
theorem Course.mem_kept_of_read (hc : d.Course w h log told report) {f : WalkedFile}
    (hf : f ∈ h.reads) : f ∈ d.kept := by
  obtain ⟨files, hfiles, hh⟩ := hc.handled
  exact d.ordered_perm.mem_iff.1 (hfiles.subset (hh.reads.subset hf))

/-! ### Requests -/

/-- What a deploy uploads are files of the site that are not left
alone. -/
theorem Course.mayChange_of_started (hc : d.Course w h log told report) {u : Upload}
    (hu : u ∈ h.started) : d.MayChange u.file.key := by
  obtain ⟨files, hfiles, hh⟩ := hc.handled
  -- From the upload back to the file that was compared, and to the one that was read.
  have hwanted : u ∈ h.wanted := hh.started.subset hu
  have hcompared : u.file ∈ h.compared := by
    obtain ⟨x, hx, hxu⟩ := List.mem_filterMap.1 hwanted
    obtain ⟨reason, -, rfl⟩ := Option.map_eq_some_iff.1 hxu
    exact List.mem_map_of_mem hx
  obtain ⟨f, hf, hready⟩ := hh.compared _ hcompared
  exact ⟨f.path, LocalSource.key_of_ready hready, (mem_kept (hc.mem_kept_of_read hf)).2⟩

/-- What may be deleted belongs to the site and is not left alone. -/
theorem mayChange_of_candidate {v : Inventory} (hkey : key ∈ deleteCandidates d.rules v) :
    d.MayChange key := by
  unfold deleteCandidates at hkey
  rw [Text.mem_sort, List.mem_filter, Bool.and_eq_true, Bool.not_eq_true'] at hkey
  exact mayChange_iff.2 hkey.2

/-- Every key of a deletion may be changed, also of one that fails. -/
theorem Course.mayChange_of_deletion (hc : d.Course w h log told report)
    {x : List Text × Attempt Text Unit} (hx : x ∈ log) (hkey : key ∈ x.1) : d.MayChange key := by
  -- A request that was sent is one of the batches, also if it is not the last of them.
  have hbatch : x.1 ∈ batchesOf maxBatch ((d.candidates w h).take d.rules.maxDelete) :=
    hc.batches.subset (List.mem_map_of_mem hx)
  have hflat : key ∈ (d.candidates w h).take d.rules.maxDelete := by
    rw [← flatten_batchesOf maxBatch_pos ((d.candidates w h).take d.rules.maxDelete)]
    exact List.mem_flatten_of_mem hbatch hkey
  exact mayChange_of_candidate (List.mem_of_mem_take hflat)

/-! ### The theorem -/

/-- What a deploy keeps to, whether it succeeds or fails. -/
structure Confined (d : Deployment σ) (w : σ) (report : Report σ) : Prop where
  /-- Only objects of the site that are not left alone are uploaded or
  deleted. -/
  requests : ∀ e ∈ report.events, ∀ key ∈ e.keys, d.MayChange key
  /-- Only files that were found and are not left alone are read. -/
  reads : ∀ f ∈ report.events.filterMap Event.read?,
    (∃ found, (d.source.walk d.rules.source d.rules.walkFilter).1 = .done found ∧ f ∈ found) ∧
      ¬d.rules.Ignores f.path
  /-- No file is read that the walk should have skipped. -/
  accepted : ∀ tree, d.source.Finds d.rules.source d.rules.walkFilter tree →
    ∀ f ∈ report.events.filterMap Event.read?,
      f ∈ tree ∧ d.rules.walkFilter.accepts f.path = true
  /-- The objects of others, and those that are left alone, are as they
  were. -/
  objects : ∀ {α : Type} (view : σ → Text → Option α), d.store.Frames view →
    (∀ cdn ∈ d.cdn, cdn.Frames view) →
    ∀ key, ¬d.MayChange key → view report.world key = view w key

/-- So a deploy keeps to its site. -/
theorem Course.keepsToSite (hc : d.Course w h log told report) : d.Confined w report := by
  have hreads : ∀ f ∈ report.events.filterMap Event.read?, f ∈ d.kept := fun f hf =>
    hc.mem_kept_of_read (hc.reads ▸ hf)
  refine ⟨fun e he key hkey => ?_, fun f hf => mem_kept (hreads f hf),
    fun tree hfinds f hf => ?_, fun view hstore hcdn key hkey => ?_⟩
  · obtain ⟨p, hp, rfl⟩ | ⟨keys, hkeys, hmem⟩ := Event.mem_keys_iff.1 hkey
    · have hput : p ∈ report.events.filterMap Event.put? := List.mem_filterMap.2 ⟨e, he, hp⟩
      rw [hc.puts] at hput
      obtain ⟨u, hu, rfl⟩ := List.mem_map.1 hput
      exact hc.mayChange_of_started hu
    · have hdel : keys ∈ report.events.filterMap Event.deletion? :=
        List.mem_filterMap.2 ⟨e, he, hkeys⟩
      rw [hc.deletions] at hdel
      obtain ⟨x, hx, rfl⟩ := List.mem_map.1 hdel
      exact hc.mayChange_of_deletion hx hmem
  · obtain ⟨⟨found, hfound, hmem⟩, -⟩ := mem_kept (hreads f hf)
    exact List.mem_filter.1 ((hfinds found hfound).mem_iff.1 hmem)
  · -- Only uploads that ended and requests to delete touch the bucket.
    obtain ⟨files, -, hh⟩ := hc.handled
    refine hc.view_other hstore hcdn (fun x hx he => ?_) fun x hx hin => ?_
    · have hstarted : x.1 ∈ h.started := hh.ended.mem_iff.2 (List.mem_map_of_mem hx)
      exact hkey (he ▸ hc.mayChange_of_started hstarted)
    · exact hkey (hc.mayChange_of_deletion hx hin)

/-- Whatever the bucket lists, whoever fails and whatever the schedule
chooses, a deploy keeps to its site. What belongs to the site and what is
left alone is the same for local files and for objects. -/
theorem confined (d : Deployment σ) (schedule : Group.Schedule σ) (w : σ) :
    d.Confined w (d.run schedule w) ∧
      (∀ key, d.rules.isManaged key = true ↔ ∃ path, key = d.rules.bucketKey path) ∧
      ∀ path, d.rules.ignoresKey (d.rules.bucketKey path) = d.rules.ignoresPath path := by
  obtain ⟨h, log, told, hc⟩ := d.run_course schedule w
  exact ⟨hc.keepsToSite, fun key => Rules.isManaged_iff, Rules.ignoresKey_bucketKey⟩

/-- The small site has a neighbour, and a file that is left alone. -/
theorem confined_sample :
    ∀ key ∈ ["other/z".toList, "my/t".toList],
      Bucket.find? (Sample.deployment.run Group.oneByOne Sample.bucket).world key
        = Bucket.find? Sample.bucket key := by
  intro key hkey
  obtain ⟨hconfined, -⟩ := confined Sample.deployment Group.oneByOne Sample.bucket
  have hcdn : ∀ cdn ∈ Sample.deployment.cdn, cdn.Frames Bucket.find? := by
    rintro cdn ⟨⟩
    exact Cdn.accepting_frames _
  refine hconfined.objects _ (Store.ofBucket_keeps false).toFrames hcdn key ?_
  rw [mayChange_iff]
  have hall : ∀ key ∈ ["other/z".toList, "my/t".toList],
      ¬(Sample.rules.isManaged key = true ∧ Sample.rules.ignoresKey key = false) := by decide
  exact hall key hkey

end Deployment

end SiteSync
