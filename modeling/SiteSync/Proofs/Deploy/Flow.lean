import Mathlib.Data.List.Perm.Basic
import SiteSync.Proofs.Deploy.Moves

/-!
# `SiteSync.Proofs.Deploy.Flow`: nothing is lost between the queues

Two invariants of a group that works on some files, each preserved by
every move:

- `Group.Reading`: what the planner was handed and what waits for it is
  what came of the files that were read, in the order of the files;
- `Group.Uploading`: what the planner asked for was started or waits for
  a worker, in that order, what was started has ended or is under way,
  and no worker is lost unnoticed.

`Group.handles_of_runs` puts them together: every upload that a group
starts ends and is one that the planner asked for, and a group without
an error has read, compared and brought to the bucket all its files.
-/

set_option autoImplicit false

namespace SiteSync

open RunState (Accounts)

namespace History

/-- What the planner takes from the queue behind the reader. -/
def handed? : Happening → Option (Attempt Error LocalFile)
  | .compare f _ => some (.done f)
  | .refuse e => some (.failed e)
  | _ => none

/-- What the planner has taken. -/
def handed (h : History) : List (Attempt Error LocalFile) := h.filterMap handed?

/-- The workers that died. -/
def deaths (h : History) : Nat := h.finished.countP fun x => decide (x.2 = .died)

/-- What is handed to the planner comes in the order of the histories. -/
@[simp] theorem handed_append (g h : History) : handed (g ++ h) = g.handed ++ h.handed :=
  List.filterMap_append

/-- Workers that died in two histories add up. -/
@[simp] theorem deaths_append (g h : History) : deaths (g ++ h) = g.deaths + h.deaths := by
  simp [deaths]

/-- The files that are handed to the planner are those that it compares.
-/
theorem done_mem_handed_iff {h : History} {f : LocalFile} :
    .done f ∈ h.handed ↔ f ∈ h.compared := by
  simp only [handed, compared, decided, List.mem_filterMap, List.mem_map]
  constructor
  · rintro ⟨x, hx, hf⟩
    cases x <;> simp [handed?] at hf
    case compare f' reason =>
      subst hf
      exact ⟨(f', reason), ⟨_, hx, rfl⟩, rfl⟩
  · rintro ⟨d, ⟨x, hx, hd⟩, rfl⟩
    cases x <;> simp [Happening.decision?] at hd
    case compare f' reason =>
      subst hd
      exact ⟨_, hx, rfl⟩

/-- If all uploads succeed then all of them have succeeded. -/
theorem succeeded_eq {h : History} (hdone : ∀ x ∈ h.finished, x.2 = .done ()) :
    h.succeeded = h.finished.map Prod.fst := by
  rw [succeeded, ← List.filterMap_eq_map]
  exact List.filterMap_congr fun x hx => if_pos (hdone x hx)

/-- Without an error all that was handed over was compared. -/
theorem handed_eq_of_failures {h : History} (he : h.failures = []) :
    h.handed = h.compared.map .done := by
  induction h with
  | nil => rfl
  | cons x h ih =>
    have hx : Happening.failure? x = none ∧ failures h = [] := by
      rw [failures, List.filterMap_cons] at he
      split at he
      · exact ⟨‹_›, he⟩
      · cases he
    have ih := ih hx.2
    cases x with
    | compare f reason =>
      show Attempt.done f :: handed h = _
      rw [ih]
      rfl
    | refuse e => cases hx.1
    | read f => exact ih
    | start u => exact ih
    | finish u outcome => exact ih
    | notice => exact ih

end History

namespace Group

variable {σ : Type} {source : LocalSource} {st : Store σ} {rules : Rules} {g g' : Group σ}
  {h : History} {x : Happening} {files : List WalkedFile}

/-! ### Reading and comparing -/

/-- What waits for the planner. -/
def awaiting (g : Group σ) : List (Attempt Error LocalFile) :=
  g.received.map fun
    | .ok f => .done f
    | .error e => .failed e

/-- The reader and the planner go through `files` in order. -/
structure Reading (source : LocalSource) (rules : Rules) (files : List WalkedFile) (h : History)
    (g : Group σ) : Prop where
  /-- What came of the files that were read was handed over, waits for
  the planner, or was the death of the reader. -/
  handed : h.reads.map (source.ready rules)
    = h.handed ++ g.awaiting ++ if g.readerDied then [.died] else []
  /-- The files that were read are the first, and the rest is still to
  be read unless one of them could not be read. -/
  rest : ∃ rest, files = h.reads ++ rest ∧
    (g.pending = rest ∨ g.pending = [] ∧ ∃ f ∈ h.reads, ∀ file, source.ready rules f ≠ .done file)
  /-- A reader that died reads nothing. -/
  died : g.readerDied = true → g.pending = []
  /-- Nothing is read after a file that could not be read. -/
  orderly : ∀ f ∈ h.reads.dropLast, ∃ file, source.ready rules f = .done file
  /-- While there are files to read none has failed. -/
  readable : g.pending ≠ [] → ∀ f ∈ h.reads, ∃ file, source.ready rules f = .done file

namespace Reading

/-- Before anything has happened nothing is read. -/
theorem initial (source : LocalSource) (rules : Rules) (files : List WalkedFile) (r : RunState σ)
    (idle : Nat) :
    Reading source rules files [] { run := r, pending := files, idle } where
  handed := rfl
  rest := ⟨files, rfl, .inl rfl⟩
  died := fun hd => nomatch hd
  orderly := fun _ hf => nomatch hf
  readable := fun _ _ hf => nomatch hf

/-- A reader that has files to read is alive. -/
theorem alive (hi : Reading source rules files h g) {f : WalkedFile} {fs : List WalkedFile}
    (hp : g.pending = f :: fs) : g.readerDied = false := by
  cases hd : g.readerDied with
  | false => rfl
  | true => rw [hi.died hd] at hp; cases hp

/-- The next file is the one after those that were read. -/
theorem next (hi : Reading source rules files h g) {f : WalkedFile} {fs : List WalkedFile}
    (hp : g.pending = f :: fs) : files = (h ++ [Happening.read f]).reads ++ fs := by
  obtain ⟨rest, hf, hr | ⟨hn, -⟩⟩ := hi.rest
  · rw [hf, ← hr, hp, History.reads_append, List.append_assoc]
    rfl
  · rw [hn] at hp; cases hp

/-- What is read goes behind what waits. -/
theorem handed_of_read (hi : Reading source rules files h g) {f : WalkedFile}
    {fs : List WalkedFile} (hp : g.pending = f :: fs)
    (hw : g.awaiting ++ [source.ready rules f]
      = g'.awaiting ++ if g'.readerDied then [.died] else []) :
    (h ++ [Happening.read f]).reads.map (source.ready rules)
      = (h ++ [Happening.read f]).handed ++ g'.awaiting
        ++ if g'.readerDied then [.died] else [] := by
  have hh : (h ++ [Happening.read f]).handed = h.handed := by
    rw [History.handed_append]
    exact List.append_nil _
  rw [History.reads_append, List.map_append, hi.handed, hi.alive hp, hh]
  show h.handed ++ g.awaiting ++ [] ++ [source.ready rules f] = _
  rw [List.append_nil, List.append_assoc, hw, List.append_assoc]

/-- What the planner takes is the first that waits. -/
theorem handed_of_plan (hi : Reading source rules files h g) {as : List (Attempt Error LocalFile)}
    (hx : History.reads [x] = []) (ha : History.handed [x] = as)
    (hw : g.awaiting = as ++ g'.awaiting) (hd : g'.readerDied = g.readerDied) :
    (h ++ [x]).reads.map (source.ready rules)
      = (h ++ [x]).handed ++ g'.awaiting ++ if g'.readerDied then [.died] else [] := by
  rw [History.reads_append, hx, List.append_nil, hi.handed, History.handed_append, ha, hw, hd,
    ← List.append_assoc]

/-- Happenings that are no reading leave the files that were read as
they are. -/
theorem extend_other (hi : Reading source rules files h g) (hx : History.reads [x] = [])
    (hp : g'.pending = g.pending) (hd : g'.readerDied = g.readerDied)
    (handed : (h ++ [x]).reads.map (source.ready rules)
      = (h ++ [x]).handed ++ g'.awaiting ++ if g'.readerDied then [.died] else []) :
    Reading source rules files (h ++ [x]) g' := by
  have hreads : (h ++ [x]).reads = h.reads := by
    rw [History.reads_append, hx, List.append_nil]
  refine ⟨handed, ?_, ?_, ?_, ?_⟩
  · rw [hreads, hp]
    exact hi.rest
  · rw [hd, hp]
    exact hi.died
  · rw [hreads]
    exact hi.orderly
  · rw [hreads, hp]
    exact hi.readable

/-- One more file is read. A file that cannot be read is the last. -/
theorem extend_read (hi : Reading source rules files h g) {f : WalkedFile} {fs : List WalkedFile}
    (hp : g.pending = f :: fs)
    (hw : g.awaiting ++ [source.ready rules f]
      = g'.awaiting ++ if g'.readerDied then [.died] else [])
    (hg : g'.pending = fs ∧ g'.readerDied = false ∧ (∃ file, source.ready rules f = .done file) ∨
      g'.pending = [] ∧ ∀ file, source.ready rules f ≠ .done file) :
    Reading source rules files (h ++ [.read f]) g' := by
  have hreads : (h ++ [Happening.read f]).reads = h.reads ++ [f] := History.reads_append _ _
  have hbefore := hi.readable (by rw [hp]; exact List.cons_ne_nil f fs)
  refine ⟨hi.handed_of_read hp hw, ⟨fs, hi.next hp, ?_⟩, fun hd => ?_, ?_, fun hmore => ?_⟩
  · -- What is read next is the file behind, unless this one cannot be read.
    obtain ⟨hg, -, -⟩ | ⟨hg, hno⟩ := hg
    · exact .inl hg
    · refine .inr ⟨hg, f, ?_, hno⟩
      rw [hreads]
      exact List.mem_append_right _ (List.mem_singleton_self f)
  · obtain ⟨-, halive, -⟩ | ⟨hg, -⟩ := hg
    · rw [halive] at hd; cases hd
    · exact hg
  · rw [hreads, List.dropLast_concat]
    exact hbefore
  · obtain ⟨-, -, hdone⟩ | ⟨hg, -⟩ := hg
    · rw [hreads]
      rintro f' hf'
      rcases List.mem_append.1 hf' with hf' | hf'
      · exact hbefore f' hf'
      · rw [List.mem_singleton.1 hf']
        exact hdone
    · exact absurd hg hmore

/-- Every move keeps this up. Reading adds to both sides, planning takes
what was received first, and the other moves change neither. -/
theorem move (hi : Reading source rules files h g) (hm : Move source st rules g x g') :
    Reading source rules files (h ++ [x]) g' := by
  cases hm with
  | @read f fs file r hp hready hr =>
    refine hi.extend_read hp ?_ (.inl ⟨rfl, hi.alive hp, file, hready⟩)
    simp [awaiting, hready, hi.alive hp]
  -- A reader that fails or dies gives the other files up, because of this one.
  | @readFailed f fs e r hp hready hr =>
    refine hi.extend_read hp ?_ (.inr ⟨rfl, fun file => ?_⟩)
    · simp [awaiting, hready, hi.alive hp]
    · rw [hready]; simp
  | @readDied f fs r hp hready hr =>
    refine hi.extend_read hp ?_ (.inr ⟨rfl, fun file => ?_⟩)
    · simp [awaiting, hready]
    · rw [hready]; simp
  | queue hp _ _ | drop hp _ _ | skip hp _ | refuse hp _ =>
    -- The planner takes the first that waits.
    exact hi.extend_other rfl rfl rfl (hi.handed_of_plan rfl rfl (by rw [awaiting, hp]; rfl) rfl)
  | start _ _ _ _ | finish _ _ _ | finishDied _ _ =>
    exact hi.extend_other rfl rfl rfl (hi.handed_of_plan rfl rfl rfl rfl)

end Reading

/-! ### Uploading -/

/-- The workers take the uploads in order, and none of them is lost
unnoticed. -/
structure Uploading (workers : Nat) (h : History) (g : Group σ) : Prop where
  /-- What the planner asked for was started or waits, unless nobody was
  left to take it. -/
  queued : ∃ dropped, h.wanted = h.started ++ g.queue ++ dropped ∧
    (g.plannerStopped = false → dropped = [])
  /-- What was started has ended or is under way. -/
  started : h.started.Perm (h.finished.map Prod.fst ++ g.busy)
  /-- Every worker waits, is busy or died. -/
  staff : g.idle + g.busy.length + g.lost = max 1 workers
  /-- The workers that died are counted. -/
  lost : g.lost = h.deaths
  /-- The planner stops when all workers have died. -/
  stopped : g.plannerStopped = true → g.idle = 0 ∧ g.busy = []

namespace Uploading

variable {workers : Nat}

/-- Before anything has happened there is no upload, and all workers are
idle. -/
theorem initial (workers : Nat) (files : List WalkedFile) (r : RunState σ) :
    Uploading workers [] { run := r, pending := files, idle := max 1 workers } where
  queued := ⟨[], rfl, fun _ => rfl⟩
  started := .refl _
  staff := rfl
  lost := rfl
  stopped := fun hs => nomatch hs

/-- While a worker is left nothing is dropped. -/
theorem wanted_of_staff (hi : Uploading workers h g) (hw : ¬(g.idle = 0 ∧ g.busy = [])) :
    h.wanted = h.started ++ g.queue := by
  obtain ⟨dropped, hq, hd⟩ := hi.queued
  cases hs : g.plannerStopped with
  | false => rw [hq, hd hs, List.append_nil]
  | true => exact absurd (hi.stopped hs) hw

/-- A happening adds what it asks for, what it starts and what it
ends. -/
theorem extend {wanted started : List Upload} {ended : List (Upload × Attempt Text Unit)}
    (hw : History.wanted [x] = wanted) (hs : History.started [x] = started)
    (hf : History.finished [x] = ended)
    (queued : ∃ dropped, h.wanted ++ wanted = h.started ++ started ++ g'.queue ++ dropped ∧
      (g'.plannerStopped = false → dropped = []))
    (busy : (h.started ++ started).Perm (h.finished.map Prod.fst ++ ended.map Prod.fst ++ g'.busy))
    (staff : g'.idle + g'.busy.length + g'.lost = max 1 workers)
    (lost : g'.lost = h.deaths + ended.countP fun e => decide (e.2 = .died))
    (stopped : g'.plannerStopped = true → g'.idle = 0 ∧ g'.busy = []) :
    Uploading workers (h ++ [x]) g' := by
  refine ⟨?_, ?_, staff, ?_, stopped⟩
  · rw [History.wanted_append, History.started_append, hw, hs]
    exact queued
  · rw [History.started_append, History.finished_append, List.map_append, hs, hf]
    exact busy
  · rw [History.deaths_append, lost, ← hf]
    rfl

/-- Happenings that concern no upload leave the invariant alone. -/
theorem extend_other (hi : Uploading workers h g) (hw : History.wanted [x] = [])
    (hs : History.started [x] = []) (hf : History.finished [x] = [])
    (hg : g'.queue = g.queue ∧ g'.busy = g.busy ∧ g'.idle = g.idle ∧ g'.lost = g.lost ∧
      g'.plannerStopped = g.plannerStopped) : Uploading workers (h ++ [x]) g' := by
  obtain ⟨hqueue, hbusy, hidle, hlost, hstop⟩ := hg
  refine extend hw hs hf ?_ ?_ ?_ ?_ ?_
  · rw [List.append_nil, List.append_nil, hqueue, hstop]
    exact hi.queued
  · rw [List.append_nil, List.map_nil, List.append_nil, hbusy]
    exact hi.started
  · rw [hidle, hbusy, hlost]
    exact hi.staff
  · rw [hlost, hi.lost]
    rfl
  · rw [hstop, hidle, hbusy]
    exact hi.stopped

/-- An upload that ends was under way, and what is queued stays. -/
theorem extend_finish (hi : Uploading workers h g) {i : Nat} {u : Upload}
    {outcome : Attempt Text Unit} (hb : g.busy[i]? = some u) (hqueue : g'.queue = g.queue)
    (hbusy : g'.busy = g.busy.eraseIdx i) (hstop : g'.plannerStopped = g.plannerStopped)
    (hstaff : g'.idle + g'.lost = g.idle + g.lost + 1)
    (hlost : g'.lost = g.lost + List.countP (fun e => decide (e.2 = .died)) [(u, outcome)]) :
    Uploading workers (h ++ [.finish u outcome]) g' := by
  obtain ⟨hlt, hu⟩ := List.getElem?_eq_some_iff.1 hb
  refine extend rfl rfl rfl ?_ ?_ ?_ ?_ ?_
  · rw [hqueue, hstop]
    show ∃ dropped, h.wanted ++ [] = h.started ++ [] ++ g.queue ++ dropped ∧ _
    rw [List.append_nil, List.append_nil]
    exact hi.queued
  · have hp : (u :: g.busy.eraseIdx i).Perm g.busy := hu ▸ List.getElem_cons_eraseIdx_perm hlt
    show (h.started ++ []).Perm (h.finished.map Prod.fst ++ [u] ++ g'.busy)
    rw [hbusy, List.append_nil, List.append_assoc]
    exact hi.started.trans (hp.symm.append_left _)
  · have hs := hi.staff
    have hl : (g.busy.eraseIdx i).length = g.busy.length - 1 := List.length_eraseIdx_of_lt hlt
    rw [hbusy]
    omega
  · rw [hlost, hi.lost]
    rfl
  · intro hs
    -- A worker that is busy has not made the planner stop.
    rw [hstop] at hs
    rw [(hi.stopped hs).2] at hb
    cases hb

/-- Every move keeps this up: an upload goes from the queue to a worker
and from there to the end, and a worker is idle, busy or dead. -/
theorem move (hi : Uploading workers h g) (hm : Move source st rules g x g') :
    Uploading workers (h ++ [x]) g' := by
  cases hm with
  | read | readFailed | readDied | skip | refuse =>
    exact hi.extend_other rfl rfl rfl ⟨rfl, rfl, rfl, rfl, rfl⟩
  | @queue f rest reason r hp hw hr =>
    refine extend rfl rfl rfl ⟨[], ?_, fun _ => rfl⟩ ?_ hi.staff hi.lost hi.stopped
    · show h.wanted ++ [⟨f, reason⟩] = h.started ++ [] ++ (g.queue ++ [⟨f, reason⟩]) ++ []
      rw [hi.wanted_of_staff hw, List.append_nil, List.append_nil, List.append_assoc]
    · show (h.started ++ []).Perm (h.finished.map Prod.fst ++ [] ++ g.busy)
      rw [List.append_nil, List.append_nil]
      exact hi.started
  | @drop f rest reason r hp hw hr =>
    obtain ⟨dropped, hq, -⟩ := hi.queued
    refine extend rfl rfl rfl ⟨dropped ++ [⟨f, reason⟩], ?_, fun hs => nomatch hs⟩ ?_ hi.staff
      hi.lost fun _ => hw
    · show h.wanted ++ [⟨f, reason⟩] = h.started ++ [] ++ g.queue ++ (dropped ++ [⟨f, reason⟩])
      rw [hq, List.append_nil, List.append_assoc _ dropped]
    · show (h.started ++ []).Perm (h.finished.map Prod.fst ++ [] ++ g.busy)
      rw [List.append_nil, List.append_nil]
      exact hi.started
  | @start u us r hnone hq hidle hr =>
    refine extend rfl rfl rfl ?_ ?_ ?_ hi.lost fun hs => ?_
    · obtain ⟨dropped, hw, hd⟩ := hi.queued
      refine ⟨dropped, ?_, hd⟩
      show h.wanted ++ [] = h.started ++ [u] ++ us ++ dropped
      rw [List.append_nil, hw, hq, List.append_assoc h.started [u] us]
      rfl
    · show (h.started ++ [u]).Perm (h.finished.map Prod.fst ++ [] ++ (g.busy ++ [u]))
      rw [List.append_nil, ← List.append_assoc]
      exact hi.started.append_right [u]
    · have hs := hi.staff
      show g.idle - 1 + (g.busy ++ [u]).length + g.lost = _
      rw [List.length_append, List.length_singleton]
      omega
    · have := (hi.stopped hs).1
      omega
  | @finish i u outcome r hb ho hr =>
    refine hi.extend_finish hb rfl rfl rfl ?_ ?_
    · show g.idle + 1 + g.lost = _
      omega
    · rw [List.countP_singleton, if_neg (by simpa using ho)]
      rfl
  | finishDied hb hr => exact hi.extend_finish hb rfl rfl rfl rfl rfl

end Uploading

/-! ### The whole group -/

/-- So it holds after every run. -/
theorem Reading.of_runs {r : RunState σ} {idle : Nat}
    (hr : Runs source st rules { run := r, pending := files, idle } h g) :
    Reading source rules files h g := by
  induction hr with
  | nil => exact .initial source rules files r idle
  | snoc _ hm ih => exact ih.move hm

/-- So it holds after every run. -/
theorem Uploading.of_runs {r : RunState σ} {workers : Nat}
    (hr : Runs source st rules { run := r, pending := files, idle := max 1 workers } h g) :
    Uploading workers h g := by
  induction hr with
  | nil => exact .initial workers files r
  | snoc _ hm ih => exact ih.move hm

/-- What is left when nothing is possible any more: no upload is under
way, and if nothing went wrong then nothing is left at all. -/
theorem Uploading.nothing_left {workers : Nat} (hi : Uploading workers h g)
    (he : g.enabled workers = []) (hrun : g.run.error = none) (hlost : g.lost = 0) :
    g.queue = [] ∧ g.received = [] ∧ g.pending = [] := by
  simp only [enabled, List.append_eq_nil_iff, List.map_eq_nil_iff, List.range_eq_nil,
    List.length_eq_zero_iff] at he
  obtain ⟨⟨⟨hbusy, hs⟩, hp⟩, hr⟩ := he
  -- Without busy or dead workers there is an idle one.
  have hstaff := hi.staff
  rw [hbusy, hlost] at hstaff
  have hidle : 0 < g.idle := by
    simp only [List.length_nil, Nat.add_zero] at hstaff
    omega
  -- So planning goes on, and one thing after another would be possible if anything were left.
  have hplans : g.plans = true := by
    have hstop : g.plannerStopped = false := by
      cases hs : g.plannerStopped with
      | false => rfl
      | true =>
        have := (hi.stopped hs).1
        omega
    simp [plans, RunState.cancelled, hrun, hstop]
  have hqueue : g.queue = [] := by
    simpa [canStart, RunState.cancelled, hrun, hidle] using hs
  have hreceived : g.received = [] := by
    simpa [canPlan, hplans, hqueue] using hp
  have hpending : g.pending = [] := by
    simpa [canRead, hplans, hreceived] using hr
  exact ⟨hqueue, hreceived, hpending⟩

end Group

namespace History

/-- What a group that handles `files` does, however it ends. -/
structure Handles (source : LocalSource) (rules : Rules) (files : List WalkedFile)
    (h : History) : Prop where
  /-- The files are read in order. -/
  reads : h.reads <+: files
  /-- A file that is compared was read. -/
  compared : ∀ f ∈ h.compared, ∃ w ∈ h.reads, source.ready rules w = .done f
  /-- The uploads that start are the first that the planner asked for. -/
  started : h.started <+: h.wanted
  /-- Every upload that starts ends. -/
  ended : h.started.Perm (h.finished.map Prod.fst)
  /-- If nothing goes wrong then all files are read and compared, and
  all uploads succeed. -/
  complete : h.failures = [] → h.reads = files ∧
    files.map (source.ready rules) = h.compared.map .done ∧ h.started = h.wanted ∧
    ∀ x ∈ h.finished, x.2 = .done ()
  /-- Nothing is read after a file that could not be read. -/
  orderly : ∀ f ∈ h.reads.dropLast, ∃ file, source.ready rules f = .done file
  /-- An upload ends only after it has started. -/
  begun : ∀ k : History, k <+: h → ∃ busy, k.started.Perm (k.finished.map Prod.fst ++ busy)
  /-- What goes wrong is a reading or an upload. -/
  causes : ∀ e ∈ h.failures, (∃ f ∈ h.reads, (source.ready rules f).error? id = some e) ∨
    ∃ x ∈ h.finished, x.2.error? (.upload x.1.file.key) = some e

namespace Handles

variable {source : LocalSource} {rules : Rules} {files files' : List WalkedFile} {h k : History}

/-- A group without files has nothing to handle. -/
theorem nil (source : LocalSource) (rules : Rules) : Handles source rules [] [] where
  reads := List.prefix_refl _
  compared := fun _ hf => nomatch hf
  started := List.prefix_refl _
  ended := .refl _
  complete := fun _ => ⟨rfl, rfl, rfl, fun _ hx => nomatch hx⟩
  orderly := fun _ hf => nomatch hf
  begun := fun k hk => ⟨[], by rw [List.prefix_nil.1 hk]; exact .refl _⟩
  causes := fun _ he => nomatch he

/-- If nothing goes wrong then every file can be read. -/
theorem readable (hh : Handles source rules files h) (hf : h.failures = []) :
    ∀ f ∈ files, ∃ file, source.ready rules f = .done file := by
  intro f hmem
  obtain ⟨-, hready, -, -⟩ := hh.complete hf
  have hm : source.ready rules f ∈ h.compared.map Attempt.done := by
    rw [← hready]
    exact List.mem_map_of_mem hmem
  obtain ⟨file, -, he⟩ := List.mem_map.1 hm
  exact ⟨file, he.symm⟩

/-- A group without an error is followed by the next. -/
theorem append (hh : Handles source rules files h) (hk : Handles source rules files' k)
    (hf : h.failures = []) : Handles source rules (files ++ files') (h ++ k) := by
  -- The first group has done all it was to do, so the second goes on where it ends.
  obtain ⟨hreads, hready, hstarted, hdone⟩ := hh.complete hf
  refine ⟨?_, fun f hf => ?_, ?_, ?_, fun hfail => ?_, ?_, fun l hl => ?_, fun e he => ?_⟩
  · rw [reads_append, hreads]
    exact (List.prefix_append_right_inj _).2 hk.reads
  · rw [compared_append, List.mem_append] at hf
    rw [reads_append]
    rcases hf with hf | hf
    · obtain ⟨w, hw, hwf⟩ := hh.compared f hf
      exact ⟨w, List.mem_append_left _ hw, hwf⟩
    · obtain ⟨w, hw, hwf⟩ := hk.compared f hf
      exact ⟨w, List.mem_append_right _ hw, hwf⟩
  · rw [started_append, wanted_append, hstarted]
    exact (List.prefix_append_right_inj _).2 hk.started
  · rw [started_append, finished_append, List.map_append]
    exact hh.ended.append hk.ended
  · rw [failures_append, List.append_eq_nil_iff] at hfail
    obtain ⟨kreads, kready, kstarted, kdone⟩ := hk.complete hfail.2
    refine ⟨?_, ?_, ?_, fun x hx => ?_⟩
    · rw [reads_append, hreads, kreads]
    · rw [List.map_append, hready, kready, compared_append, List.map_append]
    · rw [started_append, hstarted, kstarted, wanted_append]
    · rw [finished_append, List.mem_append] at hx
      exact hx.elim (hdone x) (kdone x)
  · -- All files of the group before could be read.
    rw [reads_append, hreads]
    intro f hmem
    by_cases hk' : k.reads = []
    · rw [hk', List.append_nil] at hmem
      exact hh.readable hf f (List.dropLast_subset _ hmem)
    · rw [List.dropLast_append_of_ne_nil hk', List.mem_append] at hmem
      exact hmem.elim (hh.readable hf f) (hk.orderly f)
  · rcases List.prefix_or_prefix_of_prefix hl (List.prefix_append h k) with hl' | ⟨k', rfl⟩
    · exact hh.begun l hl'
    · obtain ⟨busy, hbusy⟩ := hk.begun k' ((List.prefix_append_right_inj h).1 hl)
      refine ⟨busy, ?_⟩
      rw [started_append, finished_append, List.map_append, List.append_assoc]
      exact hh.ended.append hbusy
  · rw [failures_append, hf, List.nil_append] at he
    rw [reads_append, finished_append]
    obtain ⟨f, hmem, hne⟩ | ⟨x, hmem, hne⟩ := hk.causes e he
    · exact .inl ⟨f, List.mem_append_right _ hmem, hne⟩
    · exact .inr ⟨x, List.mem_append_right _ hmem, hne⟩

/-- After an error no other group is begun. -/
theorem stop (hh : Handles source rules files h) (hf : h.failures ≠ [])
    (files' : List WalkedFile) : Handles source rules (files ++ files') h where
  reads := hh.reads.trans (List.prefix_append _ _)
  compared := hh.compared
  started := hh.started
  ended := hh.ended
  complete := fun h => absurd h hf
  orderly := hh.orderly
  begun := hh.begun
  causes := hh.causes

end Handles

end History

namespace Group

variable {σ : Type} {source : LocalSource} {st : Store σ} {rules : Rules} {g : Group σ}
  {h : History} {files : List WalkedFile}

/-- A file that was compared had been read and made ready. -/
theorem Reading.compared (hi : Reading source rules files h g) {f : LocalFile}
    (hf : f ∈ h.compared) : ∃ w ∈ h.reads, source.ready rules w = .done f := by
  have hm : .done f ∈ h.reads.map (source.ready rules) := by
    rw [hi.handed]
    exact List.mem_append_left _ (List.mem_append_left _ (History.done_mem_handed_iff.2 hf))
  exact List.mem_map.1 hm

/-- Without an error, all files were read and compared once nothing is
left. -/
theorem Reading.complete (hi : Reading source rules files h g) (hf : h.failures = [])
    (hd : g.readerDied = false) (hreceived : g.received = []) (hpending : g.pending = []) :
    h.reads = files ∧ files.map (source.ready rules) = h.compared.map .done := by
  have hready : h.reads.map (source.ready rules) = h.compared.map .done := by
    rw [hi.handed, hd, awaiting, hreceived, History.handed_eq_of_failures hf]
    simp
  obtain ⟨rest, hfiles, hrest | ⟨-, f, hmem, hne⟩⟩ := hi.rest
  -- The reader has come to the end, or has given up because of a file that was not compared.
  · rw [← hrest, hpending, List.append_nil] at hfiles
    rw [hfiles]
    exact ⟨rfl, hready⟩
  · have hm : source.ready rules f ∈ h.compared.map Attempt.done := by
      rw [← hready]
      exact List.mem_map_of_mem hmem
    obtain ⟨file, -, he⟩ := List.mem_map.1 hm
    exact absurd he.symm (hne file)

/-- Without an error, uploads end well unless a worker dies. -/
theorem done_of_mem_finished (hf : h.failures = []) (hd : h.deaths = 0)
    {x : Upload × Attempt Text Unit} (hx : x ∈ h.finished) : x.2 = .done () := by
  have hdied : x.2 ≠ .died := by
    intro he
    have := List.countP_eq_zero.1 hd x hx
    exact this (by simpa using he)
  obtain ⟨y, hy, hyx⟩ := List.mem_filterMap.1 hx
  cases y <;> simp [Happening.finish?] at hyx
  case finish u outcome =>
    subst hyx
    cases outcome with
    | done _ => rfl
    | died => exact absurd rfl hdied
    -- It would be a failure of the history.
    | failed cause =>
      have hm : Error.upload u.file.key cause ∈ h.failures := List.mem_filterMap.2 ⟨_, hy, rfl⟩
      rw [hf] at hm
      cases hm

/-- No move is the closing of the group. -/
theorem Runs.notice_not_mem {g₀ : Group σ} (hr : Runs source st rules g₀ h g) : .notice ∉ h := by
  induction hr with
  | nil => exact List.not_mem_nil
  | snoc _ hm ih =>
    rw [List.mem_append, not_or]
    refine ⟨ih, ?_⟩
    cases hm <;> simp

/-- What goes wrong before a group is closed is a reading or an
upload. -/
theorem Reading.causes (hi : Reading source rules files h g) (hn : .notice ∉ h) {e : Error}
    (he : e ∈ h.failures) :
    (∃ f ∈ h.reads, (source.ready rules f).error? id = some e) ∨
      ∃ x ∈ h.finished, x.2.error? (.upload x.1.file.key) = some e := by
  obtain ⟨x, hx, hxe⟩ := List.mem_filterMap.1 he
  cases x with
  | refuse e' =>
    -- A refusal comes of a file that was handed over, and that file was read.
    have hm : .failed e' ∈ h.reads.map (source.ready rules) := by
      rw [hi.handed]
      refine List.mem_append_left _ (List.mem_append_left _ ?_)
      exact List.mem_filterMap.2 ⟨_, hx, rfl⟩
    obtain ⟨f, hf, hready⟩ := List.mem_map.1 hm
    exact .inl ⟨f, hf, by rw [hready]; exact hxe⟩
  | finish u outcome =>
    refine .inr ⟨(u, outcome), List.mem_filterMap.2 ⟨_, hx, rfl⟩, ?_⟩
    cases outcome with
    | failed cause => exact hxe
    | done _ => cases hxe
    | died => cases hxe
  | notice => exact absurd hx hn
  | read f => cases hxe
  | compare f reason => cases hxe
  | start u => cases hxe

/-- What happens when a group is closed. -/
def closing (g : Group σ) : History := if 0 < g.lost || g.readerDied then [.notice] else []

/-- Closing a group records that somebody died, if anybody did, and
changes nothing else. -/
theorem accounts_close (st : Store σ) (rules : Rules) (g : Group σ) :
    Accounts st rules g.run g.closing g.close := by
  unfold closing close
  split
  · exact { Accounts.refl st rules g.run with
      effects := by simp [History.effects, Happening.effect?]
      error := rfl }
  · exact .refl st rules g.run

/-- Closing a group is no work. -/
theorem closing_idle (g : Group σ) : g.closing.reads = [] ∧ g.closing.decided = [] ∧
    g.closing.started = [] ∧ g.closing.finished = [] := by
  unfold closing
  split <;> exact ⟨rfl, rfl, rfl, rfl⟩

/-- Closing a group reads, compares, starts and ends nothing. -/
theorem append_closing (h : History) (g : Group σ) :
    (h ++ g.closing).reads = h.reads ∧ (h ++ g.closing).decided = h.decided ∧
      (h ++ g.closing).started = h.started ∧ (h ++ g.closing).finished = h.finished := by
  obtain ⟨hreads, hdecided, hstarted, hfinished⟩ := g.closing_idle
  refine ⟨?_, ?_, ?_, ?_⟩
  · rw [History.reads_append, hreads, List.append_nil]
  · rw [History.decided_append, hdecided, List.append_nil]
  · rw [History.started_append, hstarted, List.append_nil]
  · rw [History.finished_append, hfinished, List.append_nil]

/-- A group is closed without an error only if nobody died. -/
theorem alive_of_closing (hf : g.closing.failures = []) : g.lost = 0 ∧ g.readerDied = false := by
  unfold closing at hf
  split at hf
  · cases hf
  · rename_i hc
    simpa using hc

/-- What is noticed when a group is closed is a reading or an upload as
well. -/
theorem causes_of_closing {workers : Nat} (hi : Reading source rules files h g)
    (hu : Uploading workers h g) {e : Error} (he : e ∈ g.closing.failures) :
    (∃ f ∈ h.reads, (source.ready rules f).error? id = some e) ∨
      ∃ x ∈ h.finished, x.2.error? (.upload x.1.file.key) = some e := by
  have hclosed : (0 < g.lost ∨ g.readerDied = true) ∧ e = .task := by
    unfold closing at he
    split at he
    · rename_i hc
      exact ⟨by simpa using hc, List.mem_singleton.1 he⟩
    · cases he
  obtain ⟨hlost | hdied, rfl⟩ := hclosed
  · -- A worker that is lost has died over an upload.
    rw [hu.lost, History.deaths, List.countP_pos_iff] at hlost
    obtain ⟨x, hx, hdied⟩ := hlost
    exact .inr ⟨x, hx, by rw [of_decide_eq_true hdied]; rfl⟩
  · -- A reader that has died has died over a file.
    have hm : .died ∈ h.reads.map (source.ready rules) := by
      rw [hi.handed, hdied]
      exact List.mem_append_right _ (List.mem_singleton_self _)
    obtain ⟨f, hf, hready⟩ := List.mem_map.1 hm
    exact .inl ⟨f, hf, by rw [hready]; rfl⟩

/-- At every moment of a group, what has started has ended or is under
way. -/
theorem begun_of_runs {r : RunState σ} {workers : Nat}
    (hr : Runs source st rules { run := r, pending := files, idle := max 1 workers } h g)
    {k : History} (hk : k <+: h ++ g.closing) :
    ∃ busy, k.started.Perm (k.finished.map Prod.fst ++ busy) := by
  have hbefore : ∀ k : History, k <+: h →
      ∃ busy, k.started.Perm (k.finished.map Prod.fst ++ busy) := by
    intro k hk
    obtain ⟨rest, rfl⟩ := hk
    obtain ⟨g', hr', -⟩ := hr.exists_of_append
    exact ⟨g'.busy, (Uploading.of_runs hr').started⟩
  unfold closing at hk
  split at hk
  · rcases List.prefix_concat_iff.1 hk with rfl | hk
    · -- Closing the group starts and ends nothing.
      obtain ⟨busy, hbusy⟩ := hbefore h (List.prefix_refl h)
      refine ⟨busy, ?_⟩
      rw [History.started_append, History.finished_append]
      show (h.started ++ []).Perm ((h.finished ++ []).map Prod.fst ++ busy)
      rw [List.append_nil, List.append_nil]
      exact hbusy
    · exact hbefore k hk
  · rw [List.append_nil] at hk
    exact hbefore k hk

/-- Once the queue is empty, all uploads were started if no worker
died. -/
theorem Uploading.all_started {workers : Nat} (hu : Uploading workers h g) (hqueue : g.queue = [])
    (hlost : g.lost = 0) : h.started = h.wanted := by
  obtain ⟨dropped, hdropped, hnone⟩ := hu.queued
  have hstop : g.plannerStopped = false := by
    cases hs : g.plannerStopped with
    | false => rfl
    | true =>
      have hstaff := hu.staff
      obtain ⟨hidle, hbusy⟩ := hu.stopped hs
      rw [hidle, hbusy, hlost, List.length_nil] at hstaff
      omega
  rw [hdropped, hnone hstop, hqueue, List.append_nil, List.append_nil]

/-- When nobody can move any more and the group is closed, its files
were handled. -/
theorem handles_of_runs {r : RunState σ} (hr : r.error = none)
    (hruns : Runs source st rules { run := r, pending := files, idle := max 1 rules.workers } h g)
    (he : g.enabled rules.workers = []) :
    History.Handles source rules files (h ++ g.closing) := by
  have hreading := Reading.of_runs hruns
  have huploading := Uploading.of_runs hruns
  obtain ⟨reads, decided, started, finished⟩ := append_closing h g
  have compared : (h ++ g.closing).compared = h.compared := congrArg (List.map Prod.fst) decided
  have wanted : (h ++ g.closing).wanted = h.wanted := congrArg (List.filterMap _) decided
  obtain ⟨rest, hrest, -⟩ := hreading.rest
  obtain ⟨dropped, hdropped, -⟩ := huploading.queued
  refine ⟨?_, ?_, ?_, ?_, fun hf => ?_, ?_, fun k hk => begun_of_runs hruns hk, fun e hf => ?_⟩
  · rw [reads]
    exact ⟨rest, hrest.symm⟩
  · rw [reads, compared]
    exact fun f hf => hreading.compared hf
  · rw [started, wanted, hdropped, List.append_assoc]
    exact List.prefix_append _ _
  · -- Nobody is busy when no move is left.
    have hbusy : g.busy = [] := by
      simp only [enabled, List.append_eq_nil_iff, List.map_eq_nil_iff, List.range_eq_nil,
        List.length_eq_zero_iff] at he
      exact he.1.1.1
    have hstarted := huploading.started
    rw [hbusy, List.append_nil] at hstarted
    rw [started, finished]
    exact hstarted
  · rw [History.failures_append, List.append_eq_nil_iff] at hf
    obtain ⟨hlost, hdied⟩ := alive_of_closing hf.2
    have hrun : g.run.error = none := by rw [hruns.accounts.error, hr, hf.1]; rfl
    obtain ⟨hqueue, hreceived, hpending⟩ := huploading.nothing_left he hrun hlost
    obtain ⟨hall, hready⟩ := hreading.complete hf.1 hdied hreceived hpending
    rw [reads, compared, started, wanted, finished]
    refine ⟨hall, hready, huploading.all_started hqueue hlost, fun x hx => ?_⟩
    have hdeaths : h.deaths = 0 := by rw [← huploading.lost, hlost]
    exact done_of_mem_finished hf.1 hdeaths hx
  · rw [reads]
    exact hreading.orderly
  · rw [reads, finished]
    rw [History.failures_append, List.mem_append] at hf
    -- An error is one of the moves, or comes with the closing.
    exact hf.elim (hreading.causes hruns.notice_not_mem) (causes_of_closing hreading huploading)

end Group

end SiteSync
