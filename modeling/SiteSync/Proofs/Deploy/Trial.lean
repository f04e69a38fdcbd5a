import SiteSync.Proofs.Deploy.Reconciliation
import SiteSync.Store.DryRun

/-!
# `SiteSync.Proofs.Deploy.Trial`: a trial run foretells a deploy

A trial run lists the bucket and only pretends to upload and delete. It
decides as the deploy does, for all decisions are made by the listing
and the local files, and never by what an upload or a deletion has done:

- `Deployment.ChangesNothing`: the bucket stays as it is, at every point
  of a trial run;
- `Deployment.Foretold`: what a trial run tells of the deploy;
- `Deployment.trouble`: what goes wrong when nothing is changed, and so
  in both;
- `Deployment.AllNew`: without a bucket every file is new.

`Deployment.trial_foretells` is the theorem.
-/

set_option autoImplicit false

namespace SiteSync

/-- Requests that leave the state as it is leave it so together. -/
theorem Asked.eq_of_still {σ ε α : Type} {ask : α → σ → Reply σ ε Unit}
    (hstill : ∀ a s, (ask a s).state = s) {s t : σ} {log : List (α × Attempt ε Unit)}
    (h : Asked ask s log t) : t = s :=
  h.preserves (P := (· = s)) rfl fun x _ u hu _ => (hstill x.1 u).trans hu

namespace Deployment

variable {σ : Type} {d : Deployment σ} {w : σ} {h : History} {log : Deletions}
  {told : Option (List Text)} {report : Report σ} {t : Tally}

/-! ### What goes wrong without a change -/

variable (d) in
/-- The first thing that goes wrong when the bucket is listed, the files
are found, and the files are read in the order of their groups. -/
def trouble (w : σ) : Option Error :=
  (d.store.list d.rules.keyPrefix w).outcome.error? (.list d.rules.keyPrefix)
    <|> (d.source.walk d.rules.source d.rules.walkFilter).1.error? id
    <|> d.ordered.findSome? fun f => (d.source.read f.location).error? id

/-- A deploy comes to its end, or is stopped only while the
distributions are told. -/
def EndsUnlessUntold (cdn : Option (Cdn σ)) (result : Except Error Tally) : Prop :=
  (∃ t, result = .ok t) ∨ ∃ c ∈ cdn, ∃ keys s e,
    (c.invalidate keys s).outcome.error? .cdn = some e ∧ result = .error e

namespace Course

/-- If no upload fails then the first error with the files is that of
the first file that cannot be read. -/
theorem findSome?_of_failures (hc : d.Course w h log told report)
    (hput : ∀ x ∈ h.finished, x.2 = .done ()) {e : Error} (hfirst : h.failures.head? = some e) :
    d.ordered.findSome? (fun f => (d.source.read f.location).error? id) = some e := by
  obtain ⟨files, hfiles, hh⟩ := hc.handled
  obtain ⟨f, hf, he⟩ | ⟨x, hx, he⟩ := hh.causes e (List.mem_of_mem_head? hfirst)
  · -- The file is the last that was read, and all before it could be read.
    have hne : h.reads ≠ [] := List.ne_nil_of_mem hf
    have hsplit := List.dropLast_concat_getLast hne
    have hbefore : h.reads.dropLast.findSome? (fun f => (d.source.read f.location).error? id)
        = none := by
      refine List.findSome?_eq_none_iff.2 fun g hg => ?_
      obtain ⟨file, hready⟩ := hh.orderly g hg
      rw [← LocalSource.error?_ready d.source d.rules, hready]
      rfl
    have hlast : h.reads.getLast hne = f := by
      rw [← hsplit] at hf
      rcases List.mem_append.1 hf with hmem | hmem
      · obtain ⟨file, hready⟩ := hh.orderly f hmem
        exact absurd hready (Attempt.ne_done_of_error? he file)
      · exact (List.mem_singleton.1 hmem).symm
    obtain ⟨rest, hrest⟩ := hh.reads.trans hfiles
    rw [LocalSource.error?_ready] at he
    rw [← hrest, ← hsplit, hlast, List.findSome?_append, List.findSome?_append, hbefore,
      List.findSome?_singleton, he]
    rfl
  · exact absurd (hput x hx) (Attempt.ne_done_of_error? he ())

/-- A deploy that has come through its files has had no trouble. -/
theorem trouble_eq_none (hlist : (d.store.list d.rules.keyPrefix w).outcome = .done (d.listed w))
    (hwalk : ∃ found, (d.source.walk d.rules.source d.rules.walkFilter).1 = .done found)
    (hh : h.Handles d.source d.rules d.ordered) (hnone : h.failures = []) :
    d.trouble w = none := by
  obtain ⟨found, hfound⟩ := hwalk
  have hread : d.ordered.findSome? (fun f => (d.source.read f.location).error? id) = none := by
    refine List.findSome?_eq_none_iff.2 fun f hf => ?_
    obtain ⟨file, hready⟩ := hh.readable hnone f hf
    rw [← LocalSource.error?_ready d.source d.rules, hready]
    rfl
  rw [trouble, hlist, hfound, hread]
  rfl

/-- If no upload and no request to delete fails, then a deploy ends with
the trouble that there is. -/
theorem result_of_trouble (hc : d.Course w h log told report)
    (hput : ∀ x ∈ h.finished, x.2 = .done ()) (hdelete : ∀ x ∈ log, x.2 = .done ()) :
    (∃ e, d.trouble w = some e ∧ report.result = .error e) ∨
      d.trouble w = none ∧ EndsUnlessUntold d.cdn report.result := by
  cases hresult : report.result with
  | ok t =>
    have hall := hc.complete t hresult
    have hnone := trouble_eq_none hall.listed hall.found hall.handles hall.failures
    exact .inr ⟨hnone, .inl ⟨t, rfl⟩⟩
  | error e =>
    cases hc.stopped e hresult with
    | listing hlist =>
      refine .inl ⟨e, ?_, rfl⟩
      rw [trouble, hlist]
      rfl
    | walking hlist hwalk =>
      refine .inl ⟨e, ?_, rfl⟩
      rw [trouble, hlist, hwalk]
      rfl
    | files hlist hwalk hfirst =>
      obtain ⟨found, hfound⟩ := hwalk
      refine .inl ⟨e, ?_, rfl⟩
      rw [trouble, hlist, hfound, hc.findSome?_of_failures hput hfirst]
      rfl
    -- A request to delete would have failed.
    | deleting _ _ _ _ hlog =>
      obtain ⟨x, hx, hne⟩ := hlog.exists_ne_done
      exact absurd (hdelete x hx) hne
    | telling hlist hwalk hnone hh _ _ htold =>
      obtain ⟨cdn, hcdn, keys, s, -, ho⟩ := htold
      exact .inr ⟨trouble_eq_none hlist hwalk hh hnone, .inr ⟨cdn, hcdn, keys, s, e, ho, rfl⟩⟩

end Course

/-! ### The trial run -/

variable (d) in
/-- The trial run of a deploy, with distributions that may be others. -/
def trial (cdn : Option (Cdn σ)) : Deployment σ := { d with store := d.store.dryRun, cdn }

variable {cdn : Option (Cdn σ)}

/-- In a trial run every upload and every deletion succeeds. -/
theorem Course.done_of_trial (hc : (d.trial cdn).Course w h log told report) :
    (∀ x ∈ h.finished, x.2 = .done ()) ∧ ∀ x ∈ log, x.2 = .done () := by
  obtain ⟨s, t, hput, hdelete, -⟩ := hc.world
  constructor
  · intro x hx
    obtain ⟨s, hs⟩ := hput.exists_state hx
    exact hs
  · intro x hx
    obtain ⟨s, hs⟩ := hdelete.exists_state hx
    exact hs

/-- What a trial run does to the bucket, which is nothing. -/
structure ChangesNothing (d : Deployment σ) (cdn : Option (Cdn σ)) (w : σ) (report : Report σ) :
    Prop where
  /-- Of the bucket only the listing counts: whatever else it would do
  with uploads and deletions, the trial run is the same. -/
  listing : ∀ st : Store σ, st.list = d.store.list →
    ({ d with store := st } : Deployment σ).trial cdn = d.trial cdn
  /-- Whatever happens in a group, the state stays. -/
  groups : ∀ schedule n g,
    (Group.steps d.source (d.trial cdn).store d.rules schedule n g).run.world = g.run.world
  /-- Whatever is deleted, the state stays. -/
  deletions : ∀ batches r, (RunState.deleteBatches (d.trial cdn).store batches r).1.world = r.world
  /-- The state at the end is the one that the listing has left, and what
  the distributions make of it if they are told. -/
  world : ∃ told, report.events.filterMap Event.invalidation? = told.toList ∧
    report.world = (d.trial cdn).tell told (d.store.list d.rules.keyPrefix w).state
  /-- The objects are the same as before, if listing and telling leave
  them alone. -/
  bucket : ∀ {α : Type} {view : σ → Text → Option α},
    (∀ start s key, view (d.store.list start s).state key = view s key) →
    (∀ c ∈ cdn, c.Frames view) → ∀ key, view report.world key = view w key

/-- A trial run changes nothing, whatever its schedule chooses and
whatever fails. -/
theorem changesNothing (d : Deployment σ) (cdn : Option (Cdn σ)) (schedule : Group.Schedule σ)
    (w : σ) : d.ChangesNothing cdn w ((d.trial cdn).run schedule w) := by
  obtain ⟨h, log, told, hc⟩ := (d.trial cdn).run_course schedule w
  obtain ⟨s, t, hput, hdelete, hworld⟩ := hc.world
  -- Neither an upload nor a deletion moves the world of a trial run.
  have hs : s = (d.store.list d.rules.keyPrefix w).state := hput.eq_of_still fun _ _ => rfl
  have ht : t = s := hdelete.eq_of_still fun _ _ => rfl
  rw [ht, hs] at hworld
  refine ⟨fun st hst => ?_, fun schedule n g => ?_, fun batches r => ?_,
    ⟨told, hc.invalidations, hworld⟩, fun hlist hcdn key => ?_⟩
  · unfold trial Store.dryRun
    rw [hst]
  · obtain ⟨h, hruns⟩ := Group.steps_runs d.source (d.trial cdn).store d.rules schedule n g
    exact hruns.accounts.world.eq_of_still fun _ _ => rfl
  · obtain ⟨log, hlog, -⟩ := RunState.deleteBatches_spec (d.trial cdn).store batches r
    exact hlog.world.eq_of_still fun _ _ => rfl
  · rw [hworld, view_tell (d.trial cdn) hcdn, hlist]

/-! ### What a trial run tells -/

/-- What a trial run with the report `tried` tells of the deploy with
the report `real`. -/
structure Foretold (d : Deployment σ) (cdn : Option (Cdn σ)) (w : σ) (real tried : Report σ) :
    Prop where
  /-- If both succeed then they count the same. -/
  tally : ∀ t t', real.result = .ok t → tried.result = .ok t' → t' = t
  /-- If both succeed then the distributions are told of the same keys. -/
  told : ∀ t t', real.result = .ok t → tried.result = .ok t' → ∃ keys,
    real.events.filterMap Event.invalidation? = d.cdn.toList.map (fun _ => keys) ∧
    tried.events.filterMap Event.invalidation? = cdn.toList.map fun _ => keys
  /-- If no upload and no request to delete of the deploy fails then both
  are stopped by the same trouble with the listing or the files, or both
  come to their end. -/
  trouble : ∀ h log told, d.Course w h log told real → (∀ x ∈ h.finished, x.2 = .done ()) →
    (∀ x ∈ log, x.2 = .done ()) →
    (∃ e, d.trouble w = some e ∧ real.result = .error e ∧ tried.result = .error e) ∨
      d.trouble w = none ∧ EndsUnlessUntold d.cdn real.result ∧
        EndsUnlessUntold cdn tried.result

/-- A trial run decides as the deploy does, if both succeed. -/
theorem Course.decided_of_trial {h' : History} {log' : Deletions} {told' : Option (List Text)}
    {real tried : Report σ} {t t' : Tally} (hc : d.Course w h log told real)
    (hc' : (d.trial cdn).Course w h' log' told' tried) (hok : real.result = .ok t)
    (hok' : tried.result = .ok t') : h'.compared = h.compared ∧ h'.decided = h.decided := by
  have hcompared : h'.compared = h.compared := by
    have hsame : h'.compared.map (Attempt.done (ε := Error)) = h.compared.map .done :=
      (hc'.compared_eq hok').symm.trans (hc.compared_eq hok)
    exact List.map_injective_iff.2 (fun f g hfg => Attempt.done.inj hfg) hsame
  refine ⟨hcompared, ?_⟩
  rw [hc'.decided, hc.decided, hcompared]
  rfl

/-- Both runs start from the same listing and the same files, so that one
tells of the other, each with a schedule of its own. -/
theorem foretold (d : Deployment σ) (cdn : Option (Cdn σ)) (schedule schedule' : Group.Schedule σ)
    (w : σ) : d.Foretold cdn w (d.run schedule w) ((d.trial cdn).run schedule' w) := by
  obtain ⟨h, log, told, hc⟩ := d.run_course schedule w
  obtain ⟨h', log', told', hc'⟩ := (d.trial cdn).run_course schedule' w
  -- The same files are compared, so the same objects are candidates.
  have hcandidates : h'.compared = h.compared → (d.trial cdn).candidates w h' = d.candidates w h :=
    fun hcompared => by
      unfold candidates
      rw [hcompared]
      rfl
  refine ⟨fun t t' hok hok' => ?_, fun t t' hok hok' => ?_, fun h log told hc hput hdelete => ?_⟩
  · obtain ⟨hcompared, hdecided⟩ := hc.decided_of_trial hc' hok hok'
    rw [hc.tally_of_ok hok, hc'.tally_of_ok hok', hcandidates hcompared, History.wanted,
      History.skipped, hdecided]
    rfl
  · obtain ⟨hcompared, hdecided⟩ := hc.decided_of_trial hc' hok hok'
    refine ⟨_, hc.invalidations_of_ok hok, ?_⟩
    rw [hc'.invalidations_of_ok hok', hcandidates hcompared, History.wanted, hdecided]
    rfl
  · obtain ⟨hput', hdelete'⟩ := hc'.done_of_trial
    have htrouble : (d.trial cdn).trouble w = d.trouble w := rfl
    obtain ⟨e, he, hreal⟩ | ⟨hnone, hreal⟩ := hc.result_of_trouble hput hdelete
    · obtain ⟨e', he', htried⟩ | ⟨hnone, -⟩ := hc'.result_of_trouble hput' hdelete'
      · rw [htrouble, he] at he'
        cases he'
        exact .inl ⟨e, he, hreal, htried⟩
      · rw [htrouble, he] at hnone
        cases hnone
    · obtain ⟨e', he', -⟩ | ⟨-, htried⟩ := hc'.result_of_trouble hput' hdelete'
      · rw [htrouble, hnone] at he'
        cases he'
      · exact .inr ⟨hnone, hreal, htried⟩

/-! ### Without a bucket -/

/-- What a trial run without a bucket does: every file is new. -/
structure AllNew (d : Deployment σ) (report : Report σ) : Prop where
  /-- Whatever is uploaded is uploaded because it was not found. -/
  reason : ∀ u acl, Event.call (.put u acl) ∈ report.events → u.reason = .notFound
  /-- Nothing is deleted. -/
  deletions : report.events.filterMap Event.deletion? = []
  /-- If the run succeeds then all files are uploaded. -/
  puts : ∀ t, report.result = .ok t → ((report.events.filterMap Event.put?).map
    fun p => d.rules.pathOfKey p.1.file.key).Perm (d.kept.map WalkedFile.path)
  /-- If the run succeeds then all files count as uploaded. -/
  tally : ∀ t, report.result = .ok t →
    t = { deleted := 0, stale := 0, uploaded := d.kept.length.toUInt64, skipped := 0 }

/-- Compared with nothing, every file is new. -/
theorem decisions_empty (force : Bool) (fs : List LocalFile) :
    decisions force .empty fs = fs.map fun f => (f, some .notFound) := by
  induction fs with
  | nil => rfl
  | cons f fs ih =>
    rw [decisions, List.map_cons]
    exact congrArg (List.cons _) ih

section

variable (hc : ({ d with store := .absent } : Deployment σ).Course w h log told report)
include hc

/-- So the planner asks for the upload of every file. -/
theorem Course.wanted_of_absent : h.wanted = h.compared.map fun f => ⟨f, .notFound⟩ := by
  have hdecided := hc.decided.trans (decisions_empty d.rules.force h.compared)
  rw [History.wanted, hdecided, List.filterMap_map, ← List.filterMap_eq_map]
  rfl

/-- It skips none. -/
theorem Course.skipped_of_absent : h.skipped = [] := by
  have hdecided := hc.decided.trans (decisions_empty d.rules.force h.compared)
  rw [History.skipped, hdecided, List.filterMap_map]
  exact List.filterMap_eq_nil_iff.2 fun _ _ => rfl

end

/-- What was never listed is no candidate. -/
theorem candidates_of_absent (d : Deployment σ) (w : σ) (h : History) :
    ({ d with store := .absent } : Deployment σ).candidates w h = [] := by
  have hkeys : (Inventory.eraseAll (h.compared.map LocalFile.key) .empty).keys = [] := by
    rw [Inventory.keys_eraseAll]
    rfl
  show Text.sort (List.filter _ (Inventory.eraseAll (h.compared.map LocalFile.key) .empty).keys)
    = []
  rw [hkeys]
  exact (Text.sort_perm _).eq_nil

/-- Where there is no bucket, every file is new and nothing is deleted. -/
theorem allNew (d : Deployment σ) (schedule : Group.Schedule σ) (w : σ) :
    d.AllNew (({ d with store := .absent } : Deployment σ).run schedule w) := by
  obtain ⟨h, log, told, hc⟩ := ({ d with store := .absent } : Deployment σ).run_course schedule w
  have hwanted := hc.wanted_of_absent
  have hcandidates := d.candidates_of_absent w h
  refine ⟨fun u acl hmem => ?_, ?_, fun t hok => ?_, fun t hok => ?_⟩
  · -- What is uploaded was asked for, and all that is asked for is new.
    obtain ⟨files, -, hh⟩ := hc.handled
    have hput : (u, acl) ∈ h.started.map fun u => (u, d.rules.acl) := by
      rw [← hc.puts]
      exact List.mem_filterMap.2 ⟨_, hmem, rfl⟩
    obtain ⟨u', hu, he⟩ := List.mem_map.1 hput
    cases he
    have hu := hh.started.subset hu
    rw [hwanted] at hu
    obtain ⟨f, -, rfl⟩ := List.mem_map.1 hu
    rfl
  · have hbatches := hc.batches
    rw [hcandidates, List.take_nil, batchesOf_nil, List.prefix_nil] at hbatches
    rw [hc.deletions, hbatches]
  · -- The files that were compared have the paths of those that were found.
    have hkeys := keys_of_ready (d := d) (hc.compared_eq hok)
    rw [hc.puts, hc.started_eq hok, hwanted, List.map_map, List.map_map]
    show (h.compared.map (d.rules.pathOfKey ∘ LocalFile.key)).Perm _
    rw [← List.map_map, hkeys, List.map_map]
    have hpaths : (d.rules.pathOfKey ∘ fun f : WalkedFile => d.rules.bucketKey f.path)
        = WalkedFile.path := funext fun f => Rules.pathOfKey_bucketKey f.path
    rw [hpaths]
    exact d.ordered_perm.map _
  · have hlength := congrArg List.length (hc.compared_eq hok)
    rw [List.length_map, List.length_map] at hlength
    rw [hc.tally_of_ok hok, hcandidates, hc.skipped_of_absent, hwanted, List.take_nil,
      List.length_map, ← hlength, ← d.ordered_perm.length_eq, List.length_nil, List.length_nil,
      Nat.zero_sub]
    rfl

/-! ### The theorem -/

/-- A trial run changes nothing and tells what the deploy would do,
whatever the schedules choose: both count the same and tell the
distributions of the same keys, or both are stopped by the same trouble,
if no upload and no deletion of the deploy fails. Without a bucket every
file is new. -/
theorem trial_foretells (d : Deployment σ) (cdn : Option (Cdn σ))
    (schedule schedule' : Group.Schedule σ) (w : σ) :
    d.ChangesNothing cdn w ((d.trial cdn).run schedule' w) ∧
      d.Foretold cdn w (d.run schedule w) ((d.trial cdn).run schedule' w) ∧
      d.AllNew (({ d with store := .absent } : Deployment σ).run schedule' w) :=
  ⟨d.changesNothing cdn schedule' w, d.foretold cdn schedule schedule' w, d.allNew schedule' w⟩

/-- A trial run of a reliable deploy is reliable. -/
theorem Reliable.trial (hd : d.Reliable) : (d.trial d.cdn).Reliable :=
  ⟨hd.list, fun _ _ _ => rfl, fun _ _ => rfl, hd.walk, hd.read, hd.cdn⟩

/-- The trial run of the small site counts what the deploy counts. -/
theorem trial_foretells_sample :
    ∃ t, (Sample.deployment.run Group.oneByOne Sample.bucket).result = .ok t ∧
      ((Sample.deployment.trial Sample.deployment.cdn).run Group.oneByOne Sample.bucket).result
        = .ok t := by
  obtain ⟨-, hforetold, -⟩ := Sample.deployment.trial_foretells Sample.deployment.cdn
    Group.oneByOne Group.oneByOne Sample.bucket
  obtain ⟨t, ht⟩ := Sample.reliable.run_ok Group.oneByOne Sample.bucket
  obtain ⟨t', ht'⟩ := Sample.reliable.trial.run_ok Group.oneByOne Sample.bucket
  rw [hforetold.tally t t' ht ht'] at ht'
  exact ⟨t, ht, ht'⟩

end Deployment

end SiteSync
