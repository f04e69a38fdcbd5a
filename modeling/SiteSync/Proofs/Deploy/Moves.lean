import SiteSync.Proofs.Deploy.History

/-!
# `SiteSync.Proofs.Deploy.Moves`: a group as moves with a history

`Group.Move` says once what an action of a group can do: which
happening it is, and how the queues, the workers and the state of the
deploy change. `Group.exists_move` finds a move for every action that is
possible, and `Group.steps_runs` a history for everything that a
schedule makes a group do. From here on no proof unfolds the actions.
-/

set_option autoImplicit false

namespace SiteSync

open RunState (Accounts)

namespace Group

variable {σ : Type}

/-- One move of a group. The state of the deploy changes as the
happening says; each rule gives what else changes. -/
inductive Move (source : LocalSource) (st : Store σ) (rules : Rules) (g : Group σ) :
    Happening → Group σ → Prop where
  /-- A file is read and handed to the planner. -/
  | read {f : WalkedFile} {fs : List WalkedFile} {file : LocalFile} {r : RunState σ}
      (hp : g.pending = f :: fs) (hready : source.ready rules f = .done file)
      (hr : Accounts st rules g.run [.read f] r) :
      Move source st rules g (.read f)
        { g with run := r, pending := fs, received := g.received ++ [.ok file] }
  /-- A file cannot be read, and no other is. -/
  | readFailed {f : WalkedFile} {fs : List WalkedFile} {e : Error} {r : RunState σ}
      (hp : g.pending = f :: fs) (hready : source.ready rules f = .failed e)
      (hr : Accounts st rules g.run [.read f] r) :
      Move source st rules g (.read f)
        { g with run := r, pending := [], received := g.received ++ [.error e] }
  /-- The reader dies. -/
  | readDied {f : WalkedFile} {fs : List WalkedFile} {r : RunState σ}
      (hp : g.pending = f :: fs) (hready : source.ready rules f = .died)
      (hr : Accounts st rules g.run [.read f] r) :
      Move source st rules g (.read f) { g with run := r, pending := [], readerDied := true }
  /-- A file is queued for its upload. -/
  | queue {f : LocalFile} {rest : List (Except Error LocalFile)} {reason : UploadReason}
      {r : RunState σ} (hp : g.received = .ok f :: rest) (hw : ¬(g.idle = 0 ∧ g.busy = []))
      (hr : Accounts st rules g.run [.compare f (some reason)] r) :
      Move source st rules g (.compare f (some reason))
        { g with run := r, received := rest, queue := g.queue ++ [⟨f, reason⟩] }
  /-- A file is to be uploaded and nobody takes it. -/
  | drop {f : LocalFile} {rest : List (Except Error LocalFile)} {reason : UploadReason}
      {r : RunState σ} (hp : g.received = .ok f :: rest) (hw : g.idle = 0 ∧ g.busy = [])
      (hr : Accounts st rules g.run [.compare f (some reason)] r) :
      Move source st rules g (.compare f (some reason))
        { g with run := r, received := rest, plannerStopped := true }
  /-- A file needs no upload. -/
  | skip {f : LocalFile} {rest : List (Except Error LocalFile)} {r : RunState σ}
      (hp : g.received = .ok f :: rest) (hr : Accounts st rules g.run [.compare f none] r) :
      Move source st rules g (.compare f none) { g with run := r, received := rest }
  /-- The planner is handed an error. -/
  | refuse {e : Error} {rest : List (Except Error LocalFile)} {r : RunState σ}
      (hp : g.received = .error e :: rest) (hr : Accounts st rules g.run [.refuse e] r) :
      Move source st rules g (.refuse e) { g with run := r, received := rest }
  /-- A worker takes an upload, unless there is an error. -/
  | start {u : Upload} {us : List Upload} {r : RunState σ} (hnone : g.run.error = none)
      (hq : g.queue = u :: us) (hi : 0 < g.idle) (hr : Accounts st rules g.run [.start u] r) :
      Move source st rules g (.start u)
        { g with run := r, queue := us, busy := g.busy ++ [u], idle := g.idle - 1 }
  /-- An upload ends, and its worker waits for the next one. -/
  | finish {i : Nat} {u : Upload} {outcome : Attempt Text Unit} {r : RunState σ}
      (hb : g.busy[i]? = some u) (ho : outcome ≠ .died)
      (hr : Accounts st rules g.run [.finish u outcome] r) :
      Move source st rules g (.finish u outcome)
        { g with run := r, busy := g.busy.eraseIdx i, idle := g.idle + 1 }
  /-- A worker dies at its upload. -/
  | finishDied {i : Nat} {u : Upload} {r : RunState σ} (hb : g.busy[i]? = some u)
      (hr : Accounts st rules g.run [.finish u .died] r) :
      Move source st rules g (.finish u .died)
        { g with run := r, busy := g.busy.eraseIdx i, lost := g.lost + 1 }

/-! ### The account of a single happening -/

section Single

variable (st : Store σ) (rules : Rules) (r : RunState σ)

/-- Reading a file adds the call for it to the trace, and nothing else. -/
theorem accounts_read (f : WalkedFile) : Accounts st rules r [.read f] (r.emit (.call (.read f))) :=
  { Accounts.refl st rules r with
    effects := RunState.effects_emit _ r }

/-- Starting an upload adds the call for it. -/
theorem accounts_start (u : Upload) :
    Accounts st rules r [.start u] (r.emit (.call (.put u rules.acl))) :=
  { Accounts.refl st rules r with
    effects := RunState.effects_emit _ r }

/-- Being handed an error in place of a file records the error. -/
theorem accounts_refuse (e : Error) (text : Text) :
    Accounts st rules r [.refuse e] ((r.say .error .planner text).fail e) :=
  { Accounts.refl st rules r with
    effects := by simp [History.effects, Happening.effect?]
    error := rfl }

/-- A file that is queued, or dropped because nobody takes it. -/
theorem accounts_upload {f : LocalFile} {reason : UploadReason} (text : Text)
    (h : f.reason? (r.inventory.find? f.key) rules.force = some reason) :
    Accounts st rules r [.compare f (some reason)]
      (({ r with inventory := r.inventory.erase f.key } : RunState σ).say .info .planner text) :=
  { Accounts.refl st rules r with
    inventory := rfl
    decided := by
      show [(f, some reason)] = decisions rules.force r.inventory [f]
      rw [decisions, h, decisions]
    effects := by
      rw [RunState.effects_say]
      show r.effects = r.effects ++ []
      rw [List.append_nil] }

/-- A file without a reason to upload it leaves the inventory and is
counted as skipped. -/
theorem accounts_skip {f : LocalFile} (text : Text)
    (h : f.reason? (r.inventory.find? f.key) rules.force = none) :
    Accounts st rules r [.compare f none]
      (let run := ({ r with inventory := r.inventory.erase f.key } : RunState σ).say .debug
        .planner text
      ({ run with tally := run.tally.addSkipped 1 } : RunState σ).emit (.progress .advance)) :=
  { Accounts.refl st rules r with
    inventory := rfl
    decided := by
      show [(f, none)] = decisions rules.force r.inventory [f]
      rw [decisions, h, decisions]
    effects := by
      rw [RunState.effects_emit]
      show (RunState.say _ _ _ _).effects ++ [] = r.effects ++ []
      rw [RunState.effects_say]
      rfl
    tally := by
      show r.tally.addSkipped 1 = { r.tally with
        uploaded := r.tally.uploaded + 0, skipped := r.tally.skipped + 1 }
      rw [UInt64.add_zero]
      rfl }

variable {u : Upload}

/-- An upload that succeeds is counted and its key is tracked. -/
theorem accounts_finish_done (h : (st.put u rules.acl r.world).outcome = .done ()) :
    Accounts st rules r [.finish u (.done ())]
      (countUpload u ((r.absorb (st.put u rules.acl r.world)).emit (.putEnded u.file.key true))) :=
  { Accounts.refl st rules r with
    inventory := by rw [RunState.absorb_eq]; rfl
    decided := rfl
    world := by
      rw [RunState.absorb_eq, ← h]
      exact .single u r.world
    effects := by
      rw [countUpload, RunState.effects_emit]
      show RunState.effects _ ++ [] = r.effects ++ [.putEnded u.file.key true]
      rw [List.append_nil, ← RunState.effects_absorb (st.put u rules.acl r.world) r]
      exact RunState.effects_emit _ _
    changed := by rw [RunState.absorb_eq]; rfl
    tally := by
      rw [RunState.absorb_eq]
      show r.tally.addUploaded 1 = { r.tally with
        uploaded := r.tally.uploaded + 1, skipped := r.tally.skipped + 0 }
      rw [UInt64.add_zero]
      rfl
    error := by
      rw [RunState.absorb_eq]
      exact (Option.or_none).symm }

/-- An upload that fails records its error and counts for nothing. -/
theorem accounts_finish_failed {cause : Text} (text : Text)
    (h : (st.put u rules.acl r.world).outcome = .failed cause) :
    Accounts st rules r [.finish u (.failed cause)]
      ((((r.absorb (st.put u rules.acl r.world)).emit (.putEnded u.file.key false)).say .error
        .upload text).fail (.upload u.file.key cause)) :=
  { Accounts.refl st rules r with
    inventory := by rw [RunState.absorb_eq]; rfl
    decided := rfl
    world := by
      rw [RunState.absorb_eq, ← h]
      exact .single u r.world
    effects := by
      rw [RunState.effects_fail, RunState.effects_say]
      rw [← RunState.effects_absorb (st.put u rules.acl r.world) r]
      exact RunState.effects_emit _ _
    changed := by rw [RunState.absorb_eq]; rfl
    tally := by
      rw [RunState.absorb_eq]
      exact (Accounts.refl st rules r).tally
    error := by rw [RunState.absorb_eq]; rfl }

/-- An upload that takes its worker along counts for nothing either, and
records no error yet. -/
theorem accounts_finish_died (h : (st.put u rules.acl r.world).outcome = .died) :
    Accounts st rules r [.finish u .died]
      ((r.absorb (st.put u rules.acl r.world)).emit (.putEnded u.file.key false)) :=
  { Accounts.refl st rules r with
    inventory := by rw [RunState.absorb_eq]; rfl
    decided := rfl
    world := by
      rw [RunState.absorb_eq, ← h]
      exact .single u r.world
    effects := by
      rw [← RunState.effects_absorb (st.put u rules.acl r.world) r]
      exact RunState.effects_emit _ _
    changed := by rw [RunState.absorb_eq]; rfl
    tally := by
      rw [RunState.absorb_eq]
      exact (Accounts.refl st rules r).tally
    error := by
      rw [RunState.absorb_eq]
      exact (Option.or_none).symm }

end Single

/-! ### Every action is a move -/

variable {source : LocalSource} {st : Store σ} {rules : Rules} {g g' : Group σ}

/-- With a file pending, reading is a move. -/
theorem move_read (h : g.pending ≠ []) :
    ∃ x, Move source st rules g x (g.read source rules) := by
  obtain ⟨f, fs, hp⟩ := List.exists_cons_of_ne_nil h
  have hr := accounts_read st rules g.run f
  refine ⟨.read f, ?_⟩
  unfold read
  rw [hp]
  dsimp only
  cases hc : source.read f.location with
  | done content =>
    have hready : source.ready rules f = .done (rules.prepare f content) := by
      rw [LocalSource.ready, hc]
    exact .read hp hready hr
  | failed e =>
    have hready : source.ready rules f = .failed e := by rw [LocalSource.ready, hc]
    exact .readFailed hp hready hr
  | died =>
    have hready : source.ready rules f = .died := by rw [LocalSource.ready, hc]
    exact .readDied hp hready hr

/-- With a file received, planning is a move: it skips the file, asks for
its upload, or records an error. -/
theorem move_plan (h : g.received ≠ []) : ∃ x, Move source st rules g x (g.plan rules) := by
  obtain ⟨a, rest, hp⟩ := List.exists_cons_of_ne_nil h
  unfold plan
  rw [hp]
  cases a with
  | error e => exact ⟨.refuse e, .refuse hp (accounts_refuse st rules g.run e _)⟩
  | ok f =>
    dsimp only [planFile]
    -- A file is skipped, or queued, or dropped when no worker is left.
    cases hreason : f.reason? (g.run.inventory.find? f.key) rules.force with
    | none => exact ⟨.compare f none, .skip hp (accounts_skip st rules g.run _ hreason)⟩
    | some reason =>
      have hr := accounts_upload st rules g.run
        (f.key ++ (" (" ++ reason.text ++ ") uploading").toList) hreason
      refine ⟨.compare f (some reason), ?_⟩
      by_cases hw : g.idle = 0 ∧ g.busy = []
      · simp only [submit, if_pos hw]
        exact .drop hp hw hr
      · simp only [submit, if_neg hw]
        exact .queue hp hw hr

/-- With an upload in the queue, a worker to take it and no error,
starting is a move. -/
theorem move_start (hnone : g.run.error = none) (hq : g.queue ≠ []) (hi : 0 < g.idle) :
    ∃ x, Move source st rules g x (g.start rules) := by
  obtain ⟨u, us, hu⟩ := List.exists_cons_of_ne_nil hq
  refine ⟨.start u, ?_⟩
  unfold start
  rw [hu]
  exact .start hnone hu hi (accounts_start st rules g.run u)

/-- With an upload on its way, its end is a move, however it ends. -/
theorem move_finish {i : Nat} (h : i < g.busy.length) :
    ∃ x, Move source st rules g x (g.finish st rules i) := by
  have hb : g.busy[i]? = some g.busy[i] := List.getElem?_eq_getElem h
  unfold finish
  rw [hb]
  dsimp only
  -- Only when the worker dies does the number of workers change.
  cases ho : (st.put g.busy[i] rules.acl g.run.world).outcome with
  | done _ =>
    exact ⟨.finish g.busy[i] (.done ()), .finish hb (by simp)
      (accounts_finish_done st rules g.run ho)⟩
  | failed cause =>
    exact ⟨.finish g.busy[i] (.failed cause), .finish hb (by simp)
      (accounts_finish_failed st rules g.run _ ho)⟩
  | died => exact ⟨.finish g.busy[i] .died, .finishDied hb (accounts_finish_died st rules g.run ho)⟩

/-- Whatever is possible in a group is a move. -/
theorem exists_move {workers : Nat} {a : Action} (h : a ∈ g.enabled workers) :
    ∃ x, Move source st rules g x (g.step source st rules a) := by
  rcases mem_enabled h with ⟨rfl, hr⟩ | ⟨rfl, hp⟩ | ⟨rfl, hs⟩ | ⟨i, rfl, hi⟩
  · exact move_read (by rintro he; simp [canRead, he] at hr)
  · exact move_plan (by rintro he; simp [canPlan, he] at hp)
  · simp only [canStart, Bool.and_eq_true, decide_eq_true_eq, Bool.not_eq_true',
      List.isEmpty_eq_false_iff, RunState.cancelled, Option.isSome_eq_false_iff,
      Option.isNone_iff_eq_none] at hs
    exact move_start hs.1.1 hs.1.2 hs.2
  · exact move_finish hi

/-- Every move is accounted for. -/
theorem Move.accounts {x : Happening} (h : Move source st rules g x g') :
    Accounts st rules g.run [x] g'.run := by
  cases h <;> assumption

/-! ### Moves one after another -/

/-- Moves one after another, with what happened. -/
inductive Runs (source : LocalSource) (st : Store σ) (rules : Rules) (g : Group σ) :
    History → Group σ → Prop where
  | nil : Runs source st rules g [] g
  | snoc {h : History} {g' g'' : Group σ} {x : Happening} (hr : Runs source st rules g h g')
      (hm : Move source st rules g' x g'') : Runs source st rules g (h ++ [x]) g''

namespace Runs

/-- One move is a run. -/
theorem single {x : Happening} (hm : Move source st rules g x g') :
    Runs source st rules g [x] g' :=
  .snoc .nil hm

/-- A run after a run is one run. -/
theorem trans {h k : History} {g'' : Group σ} (hg : Runs source st rules g h g')
    (hk : Runs source st rules g' k g'') : Runs source st rules g (h ++ k) g'' := by
  induction hk with
  | nil => rw [List.append_nil]; exact hg
  | snoc _ hm ih => rw [← List.append_assoc]; exact ih.snoc hm

/-- Between two parts of what happened the group is in some state. -/
theorem exists_of_append {h k : History} (hr : Runs source st rules g (h ++ k) g') :
    ∃ g'', Runs source st rules g h g'' ∧ Runs source st rules g'' k g' := by
  generalize hl : h ++ k = l at hr
  induction hr generalizing k with
  | nil =>
    obtain ⟨rfl, rfl⟩ := List.append_eq_nil_iff.1 hl
    exact ⟨g, .nil, .nil⟩
  | @snoc l g₁ g₂ x hr hm ih =>
    -- The last step belongs to the second part, unless there is none.
    rcases List.eq_nil_or_concat k with rfl | ⟨k, y, rfl⟩
    · rw [List.append_nil] at hl
      exact ⟨g₂, hl ▸ hr.snoc hm, .nil⟩
    · rw [List.concat_eq_append] at hl ⊢
      rw [← List.append_assoc] at hl
      obtain ⟨hl, hy⟩ := List.append_inj' hl rfl
      obtain ⟨g'', hfirst, hrest⟩ := ih hl
      rw [List.singleton_inj.1 hy]
      exact ⟨g'', hfirst, hrest.snoc hm⟩

/-- If nothing happens then nothing changes. -/
theorem eq_of_nil (hr : Runs source st rules g [] g') : g' = g := by
  generalize hl : ([] : History) = l at hr
  cases hr with
  | nil => rfl
  | snoc _ _ => exact absurd hl.symm (List.append_ne_nil_of_right_ne_nil _ (List.cons_ne_nil _ _))

/-- What happens first is a move. -/
theorem exists_of_cons {h : History} {x : Happening} (hr : Runs source st rules g (x :: h) g') :
    ∃ g'', Move source st rules g x g'' ∧ Runs source st rules g'' h g' := by
  obtain ⟨g'', hfirst, hrest⟩ := exists_of_append (h := [x]) hr
  refine ⟨g'', ?_, hrest⟩
  generalize hl : [x] = l at hfirst
  cases hfirst with
  | nil => cases hl
  | @snoc l g₁ _ y hr hm =>
    obtain ⟨rfl, hy⟩ := List.append_inj' ((List.nil_append [x]).trans hl) rfl
    rw [List.singleton_inj.1 hy, ← hr.eq_of_nil]
    exact hm

/-- Everything that happens in a group is accounted for. -/
theorem accounts {h : History} (hr : Runs source st rules g h g') :
    Accounts st rules g.run h g'.run := by
  induction hr with
  | nil => exact .refl st rules g.run
  | snoc _ hm ih => exact ih.trans hm.accounts

end Runs

/-- Whatever a schedule makes a group do has a history. -/
theorem steps_runs (source : LocalSource) (st : Store σ) (rules : Rules) (schedule : Schedule σ)
    (n : Nat) (g : Group σ) :
    ∃ h, Runs source st rules g h (steps source st rules schedule n g) := by
  induction n generalizing g with
  | zero => exact ⟨[], .nil⟩
  | succ n ih =>
    rw [steps]
    cases hc : choose schedule g (g.enabled rules.workers) with
    | none => exact ⟨[], .nil⟩
    | some a =>
      -- One move, and then those of the rest.
      obtain ⟨x, hm⟩ := exists_move (choose_mem hc)
      obtain ⟨h, hr⟩ := ih (g.step source st rules a)
      exact ⟨[x] ++ h, (Runs.single hm).trans hr⟩

end Group

end SiteSync
