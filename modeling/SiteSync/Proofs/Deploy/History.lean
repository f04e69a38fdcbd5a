import SiteSync.Proofs.Deploy.Effects
import SiteSync.Proofs.Inventory

/-!
# `SiteSync.Proofs.Deploy.History`: what a history does to a run

The reader, the planner and the workers of a group act in any order. A
*history* writes down what they did, one `Happening` after another, and
`RunState.Accounts` says what a history makes of the state of the
deploy: the inventory without the keys that were compared, the
decisions of the planner, the state of the bucket, the effects, the
counters, the changed keys and the first error.

`Accounts.trans` puts histories together, so an account of every single
happening gives an account of a group, and the accounts of the groups
that of a deploy.

`decisions` is what the planner decides, written as a function of the
inventory and the files; `decisions_of_nodup` says that with distinct
keys every file is compared with the inventory as it was listed.
-/

set_option autoImplicit false

namespace SiteSync

/-! ### Files made ready -/

/-- A file that was read, ready to be uploaded. -/
def Rules.prepare (rules : Rules) (f : WalkedFile) (content : Bytes) : LocalFile :=
  .ofContent f.path (rules.bucketKey f.path) f.location content (rules.routes.governing f.path)

/-- What comes of reading a file and making it ready. -/
def LocalSource.ready (source : LocalSource) (rules : Rules) (f : WalkedFile) :
    Attempt Error LocalFile :=
  match source.read f.location with
  | .done content => .done (rules.prepare f content)
  | .failed e => .failed e
  | .died => .died

/-- A file that was made ready has the key of its path. -/
theorem LocalSource.key_of_ready {source : LocalSource} {rules : Rules} {f : WalkedFile}
    {file : LocalFile} (h : source.ready rules f = .done file) :
    file.key = rules.bucketKey f.path := by
  unfold ready at h
  cases hr : source.read f.location with
  | done content =>
    rw [hr] at h
    cases h
    rfl
  | failed e => rw [hr] at h; cases h
  | died => rw [hr] at h; cases h

/-- Making a file ready fails as reading it does. -/
theorem LocalSource.error?_ready (source : LocalSource) (rules : Rules) (f : WalkedFile) :
    (source.ready rules f).error? id = (source.read f.location).error? id := by
  unfold ready
  cases source.read f.location <;> rfl

/-! ### Happenings -/

/-- What happens in a group, one at a time. -/
inductive Happening where
  /-- The reader reads a file. -/
  | read (f : WalkedFile)
  /-- The planner compares a file; there may be a reason to upload it. -/
  | compare (f : LocalFile) (reason : Option UploadReason)
  /-- The planner is handed an error instead of a file. -/
  | refuse (e : Error)
  /-- A worker starts an upload. -/
  | start (u : Upload)
  /-- An upload ends. -/
  | finish (u : Upload) (outcome : Attempt Text Unit)
  /-- At the end of the group it is noticed that the reader or a worker
  died. -/
  | notice

/-- What happened in a group, the first of it first. -/
abbrev History := List Happening

namespace Happening

/-- What a happening is for others. -/
def effect? (acl : Option Text) : Happening → Option Event
  | .read f => some (.call (.read f))
  | .compare _ _ => none
  | .refuse _ => none
  | .start u => some (.call (.put u acl))
  | .finish u outcome => some (.putEnded u.file.key (decide (outcome = .done ())))
  | .notice => none

/-- The file that is read. -/
def read? : Happening → Option WalkedFile
  | .read f => some f
  | _ => none

/-- The file that is compared, and the reason to upload it. -/
def decision? : Happening → Option (LocalFile × Option UploadReason)
  | .compare f reason => some (f, reason)
  | _ => none

/-- The upload that starts. -/
def start? : Happening → Option Upload
  | .start u => some u
  | _ => none

/-- The upload that ends, and how. -/
def finish? : Happening → Option (Upload × Attempt Text Unit)
  | .finish u outcome => some (u, outcome)
  | _ => none

/-- What goes wrong. -/
def failure? : Happening → Option Error
  | .refuse e => some e
  | .finish u (.failed cause) => some (.upload u.file.key cause)
  | .notice => some .task
  | _ => none

end Happening

namespace History

/-- The files that were read. -/
def reads (h : History) : List WalkedFile := h.filterMap Happening.read?

/-- The files that were compared, each with the reason to upload it. -/
def decided (h : History) : List (LocalFile × Option UploadReason) :=
  h.filterMap Happening.decision?

/-- The files that were compared. -/
def compared (h : History) : List LocalFile := h.decided.map Prod.fst

/-- The uploads that started. -/
def started (h : History) : List Upload := h.filterMap Happening.start?

/-- The uploads that ended, and how. -/
def finished (h : History) : List (Upload × Attempt Text Unit) := h.filterMap Happening.finish?

/-- The errors. -/
def failures (h : History) : List Error := h.filterMap Happening.failure?

/-- The effects. -/
def effects (acl : Option Text) (h : History) : List Event := h.filterMap (Happening.effect? acl)

variable (g h : History)

/-- What two histories in a row read is what the first reads and then what
the second reads. -/
@[simp] theorem reads_append : reads (g ++ h) = g.reads ++ h.reads := List.filterMap_append

/-- Decisions come in the order of the histories. -/
@[simp] theorem decided_append : decided (g ++ h) = g.decided ++ h.decided :=
  List.filterMap_append

/-- So do comparisons. -/
@[simp] theorem compared_append : compared (g ++ h) = g.compared ++ h.compared := by
  simp [compared]

/-- So do the uploads that start. -/
@[simp] theorem started_append : started (g ++ h) = g.started ++ h.started :=
  List.filterMap_append

/-- So do the uploads that end. -/
@[simp] theorem finished_append : finished (g ++ h) = g.finished ++ h.finished :=
  List.filterMap_append

/-- The errors of the first history come first, which decides which of
them counts. -/
@[simp] theorem failures_append : failures (g ++ h) = g.failures ++ h.failures :=
  List.filterMap_append

/-- Others see the first history before the second. -/
@[simp] theorem effects_append (acl : Option Text) :
    effects acl (g ++ h) = g.effects acl ++ h.effects acl :=
  List.filterMap_append

end History

namespace History

variable (g h : History)

/-- The files that need no upload. -/
def skipped (h : History) : List LocalFile :=
  h.decided.filterMap fun d => if d.2 = none then some d.1 else none

/-- The uploads that the planner asks for. -/
def wanted (h : History) : List Upload := h.decided.filterMap fun d => d.2.map (⟨d.1, ·⟩)

/-- The uploads that succeeded. -/
def succeeded (h : History) : List Upload :=
  h.finished.filterMap fun x => if x.2 = .done () then some x.1 else none

/-- Files that need no upload come in the order of the histories. -/
@[simp] theorem skipped_append : skipped (g ++ h) = g.skipped ++ h.skipped := by
  simp [skipped]

/-- So do the uploads that the planner asks for. -/
@[simp] theorem wanted_append : wanted (g ++ h) = g.wanted ++ h.wanted := by
  simp [wanted]

/-- So do the uploads that succeed. -/
@[simp] theorem succeeded_append : succeeded (g ++ h) = g.succeeded ++ h.succeeded := by
  simp [succeeded]

end History

/-! ### Decisions -/

/-- What the planner decides about some files: each is compared with the
object of its key, which then leaves the inventory. -/
def decisions (force : Bool) : Inventory → List LocalFile → List (LocalFile × Option UploadReason)
  | _, [] => []
  | v, f :: fs => (f, f.reason? (v.find? f.key) force) :: decisions force (v.erase f.key) fs

/-- Decisions about more files go by the inventory that the first of them
leave. -/
theorem decisions_append (force : Bool) (v : Inventory) (fs gs : List LocalFile) :
    decisions force v (fs ++ gs)
      = decisions force v fs ++ decisions force (v.eraseAll (fs.map LocalFile.key)) gs := by
  induction fs generalizing v with
  | nil => rfl
  | cons f fs ih => rw [List.cons_append, decisions, ih]; rfl

/-- Files with distinct keys are compared with the inventory as it was
listed: what leaves it on the way has another key. -/
theorem decisions_of_nodup (force : Bool) (v : Inventory) {fs : List LocalFile}
    (h : (fs.map LocalFile.key).Nodup) :
    decisions force v fs = fs.map fun f => (f, f.reason? (v.find? f.key) force) := by
  induction fs generalizing v with
  | nil => rfl
  | cons f fs ih =>
    rw [List.map_cons, List.nodup_cons] at h
    rw [decisions, ih _ h.2, List.map_cons]
    congr 1
    refine List.map_congr_left fun g hg => ?_
    -- The file before has another key, so its object is none of theirs.
    have hne : g.key ≠ f.key := fun he => h.1 (he ▸ List.mem_map_of_mem hg)
    rw [Inventory.find?_erase_of_ne hne]

/-! ### Accounts -/

namespace RunState

variable {σ : Type}

/-- What the history `h` makes of the state `r` of a deploy. -/
structure Accounts (st : Store σ) (rules : Rules) (r : RunState σ) (h : History)
    (r' : RunState σ) : Prop where
  /-- What was compared has left the inventory. -/
  inventory : r'.inventory = r.inventory.eraseAll (h.compared.map LocalFile.key)
  /-- The planner decided by the inventory. -/
  decided : h.decided = decisions rules.force r.inventory h.compared
  /-- The bucket was asked for the uploads that ended, in this order. -/
  world : Asked (st.put · rules.acl) r.world h.finished r'.world
  /-- Nobody was asked for anything else. -/
  effects : r'.effects = r.effects ++ h.effects rules.acl
  /-- The keys of the uploads that succeeded are changed. -/
  changed : r'.changed = (h.succeeded.map (·.file.key)).reverse ++ r.changed
  /-- The uploads that succeeded and the files that need none are
  counted. -/
  tally : r'.tally = { r.tally with
    uploaded := r.tally.uploaded + h.succeeded.length.toUInt64
    skipped := r.tally.skipped + h.skipped.length.toUInt64 }
  /-- The first error stays. -/
  error : r'.error = r.error.or h.failures.head?

namespace Accounts

variable {st : Store σ} {rules : Rules} {r r' r'' : RunState σ} {g h : History}

/-- Changes of the log are no happening. -/
theorem refl (st : Store σ) (rules : Rules) (r : RunState σ) : Accounts st rules r [] r where
  inventory := rfl
  decided := rfl
  world := .nil
  effects := by simp [History.effects]
  changed := rfl
  tally := by simp [History.succeeded, History.finished, History.skipped, History.decided]
  error := by simp [History.failures]

/-- What two histories make of a run, one after the other, is what they
make of it together. -/
theorem trans (hg : Accounts st rules r g r') (hh : Accounts st rules r' h r'') :
    Accounts st rules r (g ++ h) r'' where
  inventory := by
    rw [hh.inventory, hg.inventory, History.compared_append, List.map_append,
      Inventory.eraseAll_append]
  decided := by
    rw [History.decided_append, History.compared_append, decisions_append, ← hg.decided,
      ← hg.inventory, ← hh.decided]
  world := by
    rw [History.finished_append]
    exact hg.world.trans hh.world
  effects := by rw [hh.effects, hg.effects, History.effects_append, List.append_assoc]
  changed := by
    rw [hh.changed, hg.changed, History.succeeded_append, List.map_append, List.reverse_append,
      List.append_assoc]
  tally := by
    rw [hh.tally, hg.tally, History.succeeded_append, History.skipped_append]
    simp [UInt64.add_assoc]
  error := by
    rw [hh.error, hg.error, History.failures_append, List.head?_append, Option.or_assoc]

end Accounts

end RunState

end SiteSync
