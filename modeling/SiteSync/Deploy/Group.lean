import SiteSync.Deploy.Event
import SiteSync.Rules

/-!
# `SiteSync.Deploy.Group`: one group of files on its way to the bucket

The files of a group are read in order by a *reader*, compared with the
inventory in the same order by the *planner*, and uploaded by a number
of *workers*, all at the same time. Between them stand two queues of
bounded length, so that nobody runs far ahead.

What may happen next in a group is an `Action`, and a *schedule* chooses
among the actions that are possible. Every action makes the work that is
left smaller (`Group.work_step_lt`), so every schedule comes to an end
(`Group.enabled_steps`).

A property of all schedules is one of everything that the reader, the
planner and the workers can do in parallel, as far as an action is one
step of theirs. In one step

- the reader or the planner sees that nothing has failed, takes its next
  file, deals with it and passes it on;
- a worker sees that nothing has failed, takes the next upload and starts
  its request;
- the request of a worker takes effect and ends, and the worker counts
  the upload or records the failure, which all the others see from then
  on.

What happens between the parts of one step is not modelled: that a
failure is recorded after a worker has looked for one and before its
request goes out, or that a request goes out after another has failed and
before that failure is recorded.
-/

set_option autoImplicit false

namespace SiteSync

/-- What may happen in a group. -/
inductive Action where
  /-- The reader reads the next file. -/
  | read
  /-- The planner compares the next file that was read. -/
  | plan
  /-- A worker starts the next upload. -/
  | start
  /-- One of the uploads that have started ends. -/
  | finish (i : Nat)
deriving Repr, DecidableEq

/-- A group of files on its way to the bucket. -/
structure Group (σ : Type) where
  /-- The state that all parts of the deploy share. -/
  run : RunState σ
  /-- The files that are not read yet. -/
  pending : List WalkedFile
  /-- What was read and is not compared yet, the earliest first. -/
  received : List (Except Error LocalFile) := []
  /-- The uploads that are not started yet, the earliest first. -/
  queue : List Upload := []
  /-- The uploads that have started. -/
  busy : List Upload := []
  /-- The number of workers that wait for an upload. -/
  idle : Nat
  /-- The number of workers that died. -/
  lost : Nat := 0
  /-- Whether the reader died. -/
  readerDied : Bool := false
  /-- Whether the planner has found that nobody takes uploads any
  more. -/
  plannerStopped : Bool := false

namespace Group

variable {σ : Type}

/-- How much is left to do: every file has to be read, compared, started
and finished. -/
def work (g : Group σ) : Nat :=
  4 * g.pending.length + 3 * g.received.length + 2 * g.queue.length + g.busy.length

/-- Whether the planner goes on. -/
def plans (g : Group σ) : Bool := !g.run.cancelled && !g.plannerStopped

/-- Whether the next file may be read. The reader waits while the queue
behind it is full and it holds one more file. -/
def canRead (g : Group σ) (workers : Nat) : Bool :=
  g.plans && !g.pending.isEmpty && g.received.length ≤ workers

/-- Whether the next file may be compared. The planner waits while the
queue behind it is full and it holds one more upload. -/
def canPlan (g : Group σ) (workers : Nat) : Bool :=
  g.plans && !g.received.isEmpty && g.queue.length ≤ workers

/-- Whether the next upload may start. -/
def canStart (g : Group σ) : Bool := !g.run.cancelled && !g.queue.isEmpty && 0 < g.idle

/-- The actions that are possible, those that are furthest in the course
of a file first. -/
def enabled (g : Group σ) (workers : Nat) : List Action :=
  (List.range g.busy.length).map .finish
    ++ (if g.canStart then [.start] else [])
    ++ (if g.canPlan workers then [.plan] else [])
    ++ (if g.canRead workers then [.read] else [])

/-- Reads the next file and makes it ready to be uploaded. -/
def read (source : LocalSource) (rules : Rules) (g : Group σ) : Group σ :=
  match g.pending with
  | [] => g
  | f :: pending =>
    let g := { g with run := g.run.emit (.call (.read f)) }
    match source.read f.location with
    | .done content =>
      let file := LocalFile.ofContent f.path (rules.bucketKey f.path) f.location content
        (rules.routes.governing f.path)
      { g with pending, received := g.received ++ [.ok file] }
    -- After a failure nothing more is read, but what was read goes on.
    | .failed e => { g with pending := [], received := g.received ++ [.error e] }
    | .died => { g with pending := [], readerDied := true }

/-- Queues an upload, unless no worker is left to take it. -/
def submit (u : Upload) (g : Group σ) : Group σ :=
  -- A worker that is busy will take uploads again; one that died will not.
  if g.idle = 0 ∧ g.busy = [] then { g with plannerStopped := true }
  else { g with queue := g.queue ++ [u] }

/-- Compares a file with the object of its key, which leaves the
inventory. -/
def planFile (rules : Rules) (f : LocalFile) (g : Group σ) : Group σ :=
  -- What stays in the inventory to the end has no file and may be deleted.
  let remote := g.run.inventory.find? f.key
  let run := { g.run with inventory := g.run.inventory.erase f.key }
  match f.reason? remote rules.force with
  | some reason =>
    let run := run.say .info .planner
      (f.key ++ (" (" ++ reason.text ++ ") uploading").toList)
    submit ⟨f, reason⟩ { g with run }
  | none =>
    let run := run.say .debug .planner (f.key ++ " skipping".toList)
    { g with run := { run with tally := run.tally.addSkipped 1 }.emit (.progress .advance) }

/-- Compares the next file that was read. -/
def plan (rules : Rules) (g : Group σ) : Group σ :=
  match g.received with
  | [] => g
  | .ok f :: received => planFile rules f { g with received }
  | .error e :: received =>
    { g with received, run := (g.run.say .error .planner e.message.toList).fail e }

/-- A worker starts the next upload. -/
def start (rules : Rules) (g : Group σ) : Group σ :=
  match g.queue with
  | [] => g
  | u :: queue =>
    { g with
      queue
      busy := g.busy ++ [u]
      idle := g.idle - 1
      run := g.run.emit (.call (.put u rules.acl)) }

/-- Counts an upload that has succeeded. -/
def countUpload (u : Upload) (r : RunState σ) : RunState σ :=
  { r with
    changed := r.changed.track u.file.key
    tally := r.tally.addUploaded 1 }.emit (.progress .advance)

/-- An upload that has started ends. -/
def finish (st : Store σ) (rules : Rules) (i : Nat) (g : Group σ) : Group σ :=
  match g.busy[i]? with
  | none => g
  | some u =>
    -- An upload that has started is not broken off by an error elsewhere.
    let reply := st.put u rules.acl g.run.world
    let g := { g with busy := g.busy.eraseIdx i }
    let run := g.run.absorb reply
    match reply.outcome with
    | .done () =>
      { g with idle := g.idle + 1, run := countUpload u (run.emit (.putEnded u.file.key true)) }
    | .failed cause =>
      let e := Error.upload u.file.key cause
      let run := run.emit (.putEnded u.file.key false)
      { g with idle := g.idle + 1, run := (run.say .error .upload e.message.toList).fail e }
    | .died => { g with lost := g.lost + 1, run := run.emit (.putEnded u.file.key false) }

/-- What an action does. -/
def step (source : LocalSource) (st : Store σ) (rules : Rules) (g : Group σ) : Action → Group σ
  | .read => g.read source rules
  | .plan => g.plan rules
  | .start => g.start rules
  | .finish i => g.finish st rules i

/-! ### Every action leaves less to do -/

/-- What is possible in a group is one of four things, each under its own condition. -/
theorem mem_enabled {g : Group σ} {workers : Nat} {a : Action} (h : a ∈ g.enabled workers) :
    (a = .read ∧ g.canRead workers = true) ∨ (a = .plan ∧ g.canPlan workers = true) ∨
      (a = .start ∧ g.canStart = true) ∨ ∃ i, a = .finish i ∧ i < g.busy.length := by
  simp only [enabled, List.mem_append, List.mem_map, List.mem_range, List.mem_ite_nil_right,
    List.mem_singleton] at h
  obtain ((⟨i, hi, rfl⟩ | ⟨hs, rfl⟩) | ⟨hp, rfl⟩) | ⟨hr, rfl⟩ := h
  · exact .inr (.inr (.inr ⟨i, rfl, hi⟩))
  · exact .inr (.inr (.inl ⟨rfl, hs⟩))
  · exact .inr (.inl ⟨rfl, hp⟩)
  · exact .inl ⟨rfl, hr⟩

/-- Reading a file leaves less to do. -/
theorem work_read_lt (source : LocalSource) (rules : Rules) (g : Group σ) (h : g.pending ≠ []) :
    (g.read source rules).work < g.work := by
  unfold read
  split
  case h_1 hp => exact absurd hp h
  case h_2 f fs hp =>
    dsimp only
    split <;> simp [work, hp] <;> omega

/-- Queueing an upload adds at most the work of starting and finishing it. -/
theorem work_submit_le (u : Upload) (g : Group σ) : (submit u g).work ≤ g.work + 2 := by
  unfold submit
  split
  · simp [work]
  · simp [work]
    omega

/-- Comparing a file leaves less to do. -/
theorem work_plan_lt (rules : Rules) (g : Group σ) (h : g.received ≠ []) :
    (g.plan rules).work < g.work := by
  unfold plan
  split
  case h_1 hr => exact absurd hr h
  case h_2 f fs hr =>
    unfold planFile
    dsimp only
    split
    · refine Nat.lt_of_le_of_lt (work_submit_le _ _) ?_
      simp only [work, hr, List.length_cons]
      omega
    · simp [work, hr]
  case h_3 e fs hr => simp [work, hr]

/-- Starting an upload leaves less to do. -/
theorem work_start_lt (rules : Rules) (g : Group σ) (h : g.queue ≠ []) :
    (g.start rules).work < g.work := by
  unfold start
  split
  case h_1 hq => exact absurd hq h
  case h_2 u us hq => simp [work, hq]; omega

/-- Finishing an upload leaves less to do. -/
theorem work_finish_lt (st : Store σ) (rules : Rules) (g : Group σ) {i : Nat}
    (h : i < g.busy.length) : (g.finish st rules i).work < g.work := by
  have he : (g.busy.eraseIdx i).length = g.busy.length - 1 := List.length_eraseIdx_of_lt h
  unfold finish
  split
  case h_1 hb => simp at hb; omega
  case h_2 u hb =>
    dsimp only
    split <;> simp [work, he] <;> omega

/-- Every possible action leaves less to do. -/
theorem work_step_lt (source : LocalSource) (st : Store σ) (rules : Rules) {g : Group σ}
    {workers : Nat} {a : Action} (h : a ∈ g.enabled workers) :
    (g.step source st rules a).work < g.work := by
  rcases mem_enabled h with ⟨rfl, hr⟩ | ⟨rfl, hp⟩ | ⟨rfl, hs⟩ | ⟨i, rfl, hi⟩
  · exact work_read_lt source rules g (by rintro he; simp [canRead, he] at hr)
  · exact work_plan_lt rules g (by rintro he; simp [canPlan, he] at hp)
  · exact work_start_lt rules g (by rintro he; simp [canStart, he] at hs)
  · exact work_finish_lt st rules g hi

/-! ### Schedules -/

/-- Chooses among the possible actions by their place in the list. A
place beyond the end stands for the first action. -/
abbrev Schedule (σ : Type) : Type := Group σ → List Action → Nat

/-- The schedule that takes one file at a time: a file is read when all
files before it are done with. -/
def oneByOne : Schedule σ := fun _ _ => 0

/-- The action that a schedule chooses. -/
def choose (schedule : Schedule σ) (g : Group σ) : List Action → Option Action
  | [] => none
  | a :: as => some ((a :: as).getD (schedule g (a :: as)) a)

/-- Takes at most `n` actions. -/
def steps (source : LocalSource) (st : Store σ) (rules : Rules) (schedule : Schedule σ) :
    Nat → Group σ → Group σ
  | 0, g => g
  | n + 1, g =>
    match choose schedule g (g.enabled rules.workers) with
    | none => g
    | some a => steps source st rules schedule n (g.step source st rules a)

/-- A schedule chooses an action that is possible. -/
theorem choose_mem {schedule : Schedule σ} {g : Group σ} {as : List Action} {a : Action}
    (h : choose schedule g as = some a) : a ∈ as := by
  cases as with
  | nil => simp [choose] at h
  | cons b bs =>
    simp only [choose, Option.some.injEq] at h
    rw [← h, List.getD_eq_getElem?_getD]
    cases hn : (b :: bs)[schedule g (b :: bs)]? with
    | none => simp
    | some c => exact List.mem_of_getElem? hn

/-- A schedule chooses nothing only when nothing is possible. -/
theorem choose_eq_none_iff {schedule : Schedule σ} {g : Group σ} {as : List Action} :
    choose schedule g as = none ↔ as = [] := by
  cases as <;> simp [choose]

/-- A schedule that may take as many actions as there is work to do leaves
a group in which nothing is possible any more. -/
theorem enabled_steps (source : LocalSource) (st : Store σ) (rules : Rules)
    (schedule : Schedule σ) {n : Nat} {g : Group σ} (h : g.work ≤ n) :
    (steps source st rules schedule n g).enabled rules.workers = [] := by
  induction n generalizing g with
  | zero =>
    rw [steps]
    -- An action that is possible would take some of the work, and there is none.
    refine List.eq_nil_iff_forall_not_mem.2 fun a ha => ?_
    have := work_step_lt source st rules ha
    omega
  | succ n ih =>
    rw [steps]
    split
    case h_1 hc => exact choose_eq_none_iff.1 hc
    case h_2 a hc =>
      have := work_step_lt source st rules (choose_mem hc)
      exact ih (by omega)

/-- Records the death of a worker or of the reader, if nothing else went
wrong before. -/
def close (g : Group σ) : RunState σ :=
  if 0 < g.lost || g.readerDied then g.run.fail .task else g.run

/-- Brings a group of files to the bucket. -/
def process (source : LocalSource) (st : Store σ) (rules : Rules) (schedule : Schedule σ)
    (files : List WalkedFile) (r : RunState σ) : RunState σ :=
  let g : Group σ := { run := r, pending := files, idle := max 1 rules.workers }
  (steps source st rules schedule g.work g).close

end Group

end SiteSync
