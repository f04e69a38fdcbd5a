import SiteSync.Proofs.Deploy.Course
import SiteSync.Proofs.Text.Order

/-!
# `SiteSync.Proofs.Deploy.Success`: what a deploy that succeeds comes to

A deploy that succeeds has carried out all that was decided: every file
was compared, every upload that the planner asked for has ended well,
and the first of the candidates were deleted. What it tells and counts
can therefore be said by the decisions alone.

- `Course.reads_eq`, `Course.compared_eq`: all files were read and
  compared.
- `Course.succeeded_perm_wanted`, `Course.deleted_eq`: the decisions were
  carried out.
- `Course.invalidations_of_ok`, `Course.tally_of_ok`: what is told and
  counted.
-/

set_option autoImplicit false

namespace SiteSync.Deployment.Course

variable {σ : Type} {d : Deployment σ} {w : σ} {h : History} {log : Deletions}
  {told : Option (List Text)} {report : Report σ} {t : Tally}

/-- All files have been read. -/
theorem reads_eq (hc : d.Course w h log told report) (hok : report.result = .ok t) :
    h.reads = d.ordered := by
  have hall := hc.complete t hok
  obtain ⟨hreads, -⟩ := hall.handles.complete hall.failures
  exact hreads

/-- All of them have been compared. -/
theorem compared_eq (hc : d.Course w h log told report) (hok : report.result = .ok t) :
    d.ordered.map (d.source.ready d.rules) = h.compared.map .done := by
  have hall := hc.complete t hok
  obtain ⟨-, hready, -⟩ := hall.handles.complete hall.failures
  exact hready

/-- All uploads that the planner asks for have been started. -/
theorem started_eq (hc : d.Course w h log told report) (hok : report.result = .ok t) :
    h.started = h.wanted := by
  have hall := hc.complete t hok
  obtain ⟨-, -, hstarted, -⟩ := hall.handles.complete hall.failures
  exact hstarted

/-- All of them have ended. -/
theorem finished_perm_wanted (hc : d.Course w h log told report) (hok : report.result = .ok t) :
    (h.finished.map Prod.fst).Perm h.wanted := by
  rw [← hc.started_eq hok]
  exact (hc.complete t hok).handles.ended.symm

/-- All of them have ended well. -/
theorem succeeded_perm_wanted (hc : d.Course w h log told report) (hok : report.result = .ok t) :
    h.succeeded.Perm h.wanted := by
  have hall := hc.complete t hok
  obtain ⟨-, -, -, hdone⟩ := hall.handles.complete hall.failures
  rw [History.succeeded_eq hdone]
  exact hc.finished_perm_wanted hok

/-- The first of the candidates are asked to be deleted. -/
theorem flatten_eq (hc : d.Course w h log told report) (hok : report.result = .ok t) :
    (log.map Prod.fst).flatten = (d.candidates w h).take d.rules.maxDelete := by
  rw [(hc.complete t hok).batches, flatten_batchesOf maxBatch_pos]

/-- All of them are deleted. -/
theorem deleted_eq (hc : d.Course w h log told report) (hok : report.result = .ok t) :
    log.deleted = (d.candidates w h).take d.rules.maxDelete := by
  rw [Deletions.deleted_eq_flatten (hc.complete t hok).deleted, hc.flatten_eq hok]

/-- The counters, by the decisions and the candidates. -/
theorem tally_of_ok (hc : d.Course w h log told report) (hok : report.result = .ok t) :
    t = {
      deleted := ((d.candidates w h).take d.rules.maxDelete).length.toUInt64
      stale := ((d.candidates w h).length - d.rules.maxDelete).toUInt64
      uploaded := h.wanted.length.toUInt64
      skipped := h.skipped.length.toUInt64 } := by
  have hall := hc.complete t hok
  have hstale := hall.stale
  obtain ⟨stale, htally⟩ := hc.tally
  rw [hall.tally, htally] at hstale ⊢
  dsimp only at hstale
  rw [hstale, hc.deleted_eq hok, (hc.succeeded_perm_wanted hok).length_eq]

/-- The distributions, if there are any, are told of what is uploaded and
deleted. -/
theorem invalidations_of_ok (hc : d.Course w h log told report) (hok : report.result = .ok t) :
    report.events.filterMap Event.invalidation? = d.cdn.toList.map fun _ =>
      Text.sort (h.wanted.map (·.file.key) ++ (d.candidates w h).take d.rules.maxDelete) := by
  have htold := (hc.complete t hok).announced
  have hsort : Text.sort (log.deleted.reverse ++ (h.succeeded.map (·.file.key)).reverse)
      = Text.sort (h.wanted.map (·.file.key) ++ (d.candidates w h).take d.rules.maxDelete) := by
    -- The keys were collected latest first, the deletions after the uploads.
    refine Text.sort_eq_of_perm (List.perm_append_comm.trans ?_)
    rw [← hc.deleted_eq hok]
    exact ((List.reverse_perm _).trans ((hc.succeeded_perm_wanted hok).map _)).append
      (List.reverse_perm _)
  rw [hc.invalidations]
  cases hcdn : d.cdn with
  | none =>
    rw [hc.alone hcdn]
    rfl
  | some cdn =>
    rw [hcdn, Option.isSome_some, Option.isSome_iff_exists] at htold
    obtain ⟨keys, rfl⟩ := htold
    rw [hc.keys keys rfl, hsort]
    rfl

end SiteSync.Deployment.Course
