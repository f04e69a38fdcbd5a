import SiteSync.Proofs.Deploy.Flow

/-!
# `SiteSync.Proofs.Deploy.Tidy`: nothing twice, and nothing after a failure

A history is `Tidy` when every file that is compared has a reading of
its own, so that none is brought to the bucket twice, and when it
`Halts`: after an upload that failed no other starts. The uploads that
are under way at that moment are not broken off. At most one of them
belongs to each of the other workers, and they end as others do.

- `Group.Runs.started_eq_nil`: once there is an error, nothing starts;
- `Group.tidy_of_runs`: what happens in a group is tidy;
- `Group.process_history`: every group has a history that accounts for
  it, handles its files, and is tidy.
-/

set_option autoImplicit false

namespace SiteSync

open RunState (Accounts)

/-- An error stays. -/
theorem RunState.Accounts.error_ne_none {σ : Type} {st : Store σ} {rules : Rules}
    {r r' : RunState σ} {h : History} (hacc : Accounts st rules r h r') (he : r.error ≠ none) :
    r'.error ≠ none := by
  obtain ⟨e, he⟩ := Option.ne_none_iff_exists'.1 he
  rw [hacc.error, he, Option.some_or]
  exact Option.some_ne_none e

namespace History

/-- After an upload that failed no other starts, and those that end were
under way, at most one for each of the other workers. -/
def Halts (workers : Nat) (h : History) : Prop :=
  ∀ (before : History) (u : Upload) (cause : Text) (after : History),
    h = before ++ .finish u (.failed cause) :: after →
    after.started = [] ∧ after.finished.length < max 1 workers

namespace Halts

variable {workers : Nat} {h k : History}

/-- Where no upload ends none fails. -/
theorem of_finished (hf : h.finished = []) : Halts workers h := by
  rintro before u cause after rfl
  have hlast : History.finished (.finish u (.failed cause) :: after)
      = (u, .failed cause) :: after.finished := rfl
  rw [finished_append, hlast, List.append_eq_nil_iff] at hf
  cases hf.2

/-- A history without an error may be followed by any that halts, and
one with an error by what concerns no upload. -/
theorem append (hh : Halts workers h) (hk : Halts workers k)
    (hrest : h.failures = [] ∨ k.started = [] ∧ k.finished = []) : Halts workers (h ++ k) := by
  intro before u cause after hsplit
  obtain ⟨between, rfl, hk'⟩ | ⟨between, rfl, hk'⟩ := List.append_eq_append_iff.1 hsplit
  · exact hk between u cause after hk'
  · cases between with
    | nil => exact hk [] u cause after hk'.symm
    | cons x between =>
      rw [List.cons_append, List.cons.injEq] at hk'
      obtain ⟨rfl, rfl⟩ := hk'
      obtain ⟨hstarted, hfinished⟩ := hh before u cause between rfl
      -- The failure is one of the first part, so nothing begins in the second.
      obtain hnone | ⟨hks, hkf⟩ := hrest
      · rw [failures_append, List.append_eq_nil_iff] at hnone
        cases hnone.2
      · rw [started_append, finished_append, hks, hkf, List.append_nil, List.append_nil]
        exact ⟨hstarted, hfinished⟩

end Halts

/-- Every file that is compared is one that the planner was handed. -/
theorem compared_sublist_handed (h : History) :
    (h.compared.map Attempt.done).Sublist h.handed := by
  induction h with
  | nil => exact .slnil
  | cons x h ih =>
    cases x with
    | compare f reason => exact ih.cons_cons _
    | refuse e => exact ih.cons _
    | read | start | finish | notice => exact ih

/-- What a history never does, however it ends: bring a file to the
bucket twice, or start something after a failure. -/
structure Tidy (source : LocalSource) (rules : Rules) (h : History) : Prop where
  /-- Every file that is compared has a reading of its own. -/
  compared : (h.compared.map Attempt.done).Sublist (h.reads.map (source.ready rules))
  /-- Nothing starts after an upload that failed. -/
  halts : h.Halts rules.workers

namespace Tidy

variable {source : LocalSource} {rules : Rules} {h k : History}

/-- Where nothing has happened, all is tidy. -/
theorem nil (source : LocalSource) (rules : Rules) : Tidy source rules [] where
  compared := .slnil
  halts := .of_finished rfl

/-- A group without an error is followed by the next. -/
theorem append (hh : Tidy source rules h) (hk : Tidy source rules k)
    (hrest : h.failures = [] ∨ k.started = [] ∧ k.finished = []) :
    Tidy source rules (h ++ k) where
  compared := by
    rw [compared_append, reads_append, List.map_append, List.map_append]
    exact hh.compared.append hk.compared
  halts := hh.halts.append hk.halts hrest

end Tidy

end History

namespace Group

variable {σ : Type} {source : LocalSource} {st : Store σ} {rules : Rules} {g g' : Group σ}
  {h : History} {files : List WalkedFile}

/-- Once there is an error, no upload starts. -/
theorem Runs.started_eq_nil (hr : Runs source st rules g h g') (he : g.run.error ≠ none) :
    h.started = [] := by
  induction hr with
  | nil => rfl
  | snoc hr hm ih =>
    rw [History.started_append, ih, List.nil_append]
    cases hm with
    | start hnone _ _ _ => exact absurd hnone (hr.accounts.error_ne_none he)
    | read | readFailed | readDied | queue | drop | skip | refuse | finish | finishDied => rfl

/-- What happens in a group halts at every upload that fails. Until then
no more uploads are under way than there are workers, and afterwards
only they can end. -/
theorem halts_of_runs {r : RunState σ} {workers : Nat}
    (hr : Runs source st rules { run := r, pending := files, idle := max 1 workers } h g) :
    h.Halts workers := by
  rintro before u cause after rfl
  obtain ⟨g₁, hbefore, hrest⟩ := hr.exists_of_append
  obtain ⟨g₂, hmove, hafter⟩ := hrest.exists_of_cons
  -- Behind the failure there is an error, and with one nothing starts.
  have hstarted : after.started = [] := by
    refine hafter.started_eq_nil ?_
    rw [hmove.accounts.error, Option.ne_none_iff_isSome, Option.isSome_or]
    exact Bool.or_true _
  refine ⟨hstarted, ?_⟩
  -- What still ends is what the other workers were busy with.
  have hi := Uploading.of_runs hbefore
  have hlast := (Uploading.of_runs hr).started.length_eq
  have hfirst := hi.started.length_eq
  have hstaff := hi.staff
  have hbusy : 0 < g₁.busy.length := by
    cases hmove with
    | finish hb _ _ => exact List.length_pos_of_mem (List.mem_of_getElem? hb)
  have hs : History.started (.finish u (.failed cause) :: after) = [] := hstarted
  have hf : History.finished (.finish u (.failed cause) :: after)
      = (u, .failed cause) :: after.finished := rfl
  rw [History.started_append, History.finished_append, hs, hf] at hlast
  simp only [List.append_nil, List.length_append, List.length_map, List.length_cons] at hlast hfirst
  omega

/-- The steps of a group are tidy, from files that wait and workers that
are idle on. -/
theorem tidy_of_runs {r : RunState σ}
    (hr : Runs source st rules { run := r, pending := files, idle := max 1 rules.workers } h g) :
    h.Tidy source rules where
  compared := by
    -- What was compared is among what was handed over, and that comes before what waits.
    rw [(Reading.of_runs hr).handed, List.append_assoc]
    exact h.compared_sublist_handed.trans (List.sublist_append_left _ _)
  halts := halts_of_runs hr

/-- Closing a group is tidy. -/
theorem tidy_closing (source : LocalSource) (rules : Rules) (g : Group σ) :
    g.closing.Tidy source rules := by
  obtain ⟨-, hdecided, -, hfinished⟩ := g.closing_idle
  refine ⟨?_, .of_finished hfinished⟩
  rw [History.compared, hdecided]
  exact List.nil_sublist _

/-- Whatever a schedule makes of a group, its history accounts for the
state that the group leaves, says that no file is lost, compared twice
or uploaded twice, and that nothing starts after an upload that
failed. -/
theorem process_history (source : LocalSource) (st : Store σ) (rules : Rules)
    (schedule : Schedule σ) (files : List WalkedFile) {r : RunState σ} (hr : r.error = none) :
    ∃ h, Accounts st rules r h (process source st rules schedule files r) ∧
      History.Handles source rules files h ∧ h.Tidy source rules := by
  let g : Group σ := { run := r, pending := files, idle := max 1 rules.workers }
  obtain ⟨h, hruns⟩ := steps_runs source st rules schedule g.work g
  have he : (steps source st rules schedule g.work g).enabled rules.workers = [] :=
    enabled_steps source st rules schedule (Nat.le_refl _)
  refine ⟨_, hruns.accounts.trans (accounts_close st rules _), handles_of_runs hr hruns he, ?_⟩
  obtain ⟨-, -, hidle⟩ := closing_idle (steps source st rules schedule g.work g)
  exact (tidy_of_runs hruns).append (tidy_closing source rules _) (.inr hidle)

end Group

end SiteSync
