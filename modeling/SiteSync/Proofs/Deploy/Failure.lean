import SiteSync.Proofs.Deploy.Contracts
import SiteSync.Proofs.Deploy.Stages
import SiteSync.Proofs.Files.Walk
import SiteSync.Store.Faults

/-!
# `SiteSync.Proofs.Deploy.Failure`: a failure tells how far a deploy got

A deploy succeeds only if everything it asked for did. Otherwise it was
stopped at one of its stages by something that failed there, and what
the stages before it had to do is done, and nothing of the stages behind
it was begun:

- `Deployment.Flawless`: everything that a deploy asked for succeeded;
- `Deployment.StoppedAt`: what a deploy did that was stopped at a stage;
- `Error.ArisesAt`: the stages at which an error may stop a deploy.

`Deployment.fails_openly` is the theorem. What it asks of the local files
for the error to be one of the stage is true of a tree of files
(`Course.exists_stoppedAt_of_tree`). A deploy that is stopped while the
distributions are told has done what it does without distributions
(`Deployment.run_telling`).
-/

set_option autoImplicit false

namespace SiteSync

/-! ### Errors and stages -/

/-- Whether an error may stop a deploy at a stage. A worker or a reader
may die at any stage, and files are looked at in two. -/
def Error.ArisesAt : Error → Stage → Prop
  | .list _ _, s => s = .listing
  | .io _ _, s => s = .walking ∨ ∃ i, s = .group i
  | .upload _ _, s => ∃ i, s = .group i
  | .delete _ _, s => s = .deleting
  | .cdn _, s => s = .telling
  | .task, _ => True
  | .config _, _ => False
  | .invalidPattern _ _, _ => False
  | .configFile _, _ => False

/-- An attempt may stop a deploy at a stage if its failures may, for
somebody may die anywhere. -/
theorem Error.arisesAt_of_error? {ε α : Type} {wrap : ε → Error} {a : Attempt ε α} {e : Error}
    {s : Stage} (he : a.error? wrap = some e)
    (hwrap : ∀ cause, a = .failed cause → (wrap cause).ArisesAt s) : e.ArisesAt s := by
  cases a with
  | done _ => cases he
  | failed cause =>
    cases he
    exact hwrap cause rfl
  | died =>
    cases he
    trivial

/-! ### Files that are done with -/

namespace History

variable {source : LocalSource} {rules : Rules} {files : List WalkedFile} {h k : History}
  {f : WalkedFile}

/-- A file is done with: it was read and needs no upload, or its upload
has succeeded. -/
def Processed (source : LocalSource) (rules : Rules) (h : History) (f : WalkedFile) : Prop :=
  f ∈ h.reads ∧ ∃ file, source.ready rules f = .done file ∧
    (file ∈ h.skipped ∨ ∃ reason, (⟨file, reason⟩, .done ()) ∈ h.finished)

/-- What is done with stays so. -/
theorem Processed.append (hf : h.Processed source rules f) (k : History) :
    (h ++ k).Processed source rules f := by
  obtain ⟨hread, file, hready, hend⟩ := hf
  refine ⟨?_, file, hready, ?_⟩
  · rw [reads_append]
    exact List.mem_append_left _ hread
  · rw [skipped_append, finished_append]
    exact hend.imp (List.mem_append_left _) fun ⟨reason, hr⟩ =>
      ⟨reason, List.mem_append_left _ hr⟩

/-- If nothing goes wrong then all files are done with. -/
theorem Handles.processed (hh : h.Handles source rules files) (hnone : h.failures = [])
    (hf : f ∈ files) : h.Processed source rules f := by
  obtain ⟨hreads, hready, hstarted, hdone⟩ := hh.complete hnone
  have hm : source.ready rules f ∈ h.compared.map Attempt.done := by
    rw [← hready]
    exact List.mem_map_of_mem hf
  obtain ⟨file, hcompared, he⟩ := List.mem_map.1 hm
  obtain ⟨⟨file, reason⟩, hdecided, rfl⟩ := List.mem_map.1 hcompared
  refine ⟨by rw [hreads]; exact hf, file, he.symm, ?_⟩
  cases reason with
  | none => exact .inl (List.mem_filterMap.2 ⟨_, hdecided, rfl⟩)
  | some reason =>
    -- The upload was asked for, was started, and has ended well.
    have hwanted : (⟨file, reason⟩ : Upload) ∈ h.wanted :=
      List.mem_filterMap.2 ⟨_, hdecided, rfl⟩
    rw [← hstarted, hh.ended.mem_iff] at hwanted
    obtain ⟨⟨u, outcome⟩, hx, rfl⟩ := List.mem_map.1 hwanted
    have ho : outcome = .done () := hdone _ hx
    subst ho
    exact .inr ⟨reason, hx⟩

end History

namespace Deployment

variable {σ : Type} {d : Deployment σ}

/-! ### A deploy that tells nobody -/

/-- The same deploy without distributions. -/
def unannounced (d : Deployment σ) : Deployment σ := { d with cdn := none }

/-- What is left alone does not depend on the distributions. -/
theorem keepFiles_unannounced : d.unannounced.keepFiles = d.keepFiles := by
  funext files
  induction files with
  | nil => rfl
  | cons f files ih =>
    funext r
    rw [keepFiles, keepFiles, ih]
    rfl

/-- Nor does the walk. -/
theorem walk_unannounced : d.unannounced.walk = d.walk := by
  funext r
  unfold walk
  rw [keepFiles_unannounced]
  rfl

/-- Nor do the groups. -/
theorem processGroups_unannounced : d.unannounced.processGroups = d.processGroups := by
  funext schedule number groups
  induction groups generalizing number with
  | nil => rfl
  | cons files groups ih =>
    funext r
    rw [processGroups, processGroups, ih]
    rfl

/-- Without distributions a deploy ends with the deletions and the
summary. -/
theorem conclude_unannounced (r : RunState σ) :
    d.unannounced.conclude r
      = match r.deleteKeys d.store (deleteCandidates d.rules r.inventory) d.rules.maxDelete with
        | (r, .error e) => (r, .error e)
        | (r, .ok _) => (r.say .info .deployer r.tally.summary.toList, .ok r.tally) :=
  rfl

/-- The conclusion of a deploy is that without distributions, which are
told when all else has succeeded. -/
theorem conclude_telling {cdn : Cdn σ} (hcdn : d.cdn = some cdn) (r : RunState σ) :
    (∀ e, (d.unannounced.conclude r).2 = .error e → d.conclude r = d.unannounced.conclude r) ∧
    ∀ t, (d.unannounced.conclude r).2 = .ok t → ∃ keys,
      let bare := (d.unannounced.conclude r).1
      let reply := cdn.invalidate keys bare.world
      (d.conclude r).1.world = reply.state ∧ (d.conclude r).1.tally = bare.tally ∧
      (d.conclude r).1.effects = bare.effects ++ [.call (.invalidate keys)] ∧
      (reply.outcome = .done () → (d.conclude r).2 = .ok t) ∧
      ∀ e, reply.outcome.error? .cdn = some e → (d.conclude r).2 = .error e := by
  rw [conclude_unannounced]
  unfold conclude
  dsimp only
  generalize r.deleteKeys d.store (deleteCandidates d.rules r.inventory) d.rules.maxDelete = ended
  obtain ⟨r₁, result⟩ := ended
  cases result with
  | error e => exact ⟨fun _ _ => rfl, fun _ ht => nomatch ht⟩
  | ok _ =>
    refine ⟨(fun _ he => nomatch he), fun t ht => ⟨r₁.changed.sorted, ?_⟩⟩
    -- All keys are deleted, so what is left to do is to tell the distributions.
    cases ht
    obtain ⟨hstate, heffects, hdone, hfailed⟩ := invalidate_spec (d := d) r₁
    rw [hcdn] at heffects
    dsimp only
    generalize d.invalidate r₁ = told at hstate heffects hdone hfailed
    obtain ⟨r₂, answer⟩ := told
    dsimp only at hstate heffects hdone hfailed
    have hworld : r₂.world = (cdn.invalidate r₁.changed.sorted r₁.world).state := by
      rw [hstate, ← d.tell_some hcdn, hcdn]
      rfl
    have htally : r₂.tally = r₁.tally := by rw [hstate]
    rw [RunState.effects_say]
    cases answer with
    | error e =>
      -- They refuse, and that is the result.
      obtain ⟨cdn', hmem, he⟩ := hfailed e rfl
      rw [hcdn] at hmem
      cases hmem
      refine ⟨hworld, htally, heffects, fun ho => ?_, fun e' he' => ?_⟩
      · exact absurd ho (Attempt.ne_done_of_error? he ())
      · exact congrArg Except.error (Option.some.inj (he.symm.trans he'))
    | ok _ =>
      -- They accept, and the result is what it was without them.
      have ho := hdone rfl cdn hcdn
      refine ⟨hworld, htally, ?_, fun _ => ?_, fun e' he' => ?_⟩
      · rw [RunState.effects_say]
        exact heffects
      · exact congrArg Except.ok htally
      · exact absurd ho (Attempt.ne_done_of_error? he' ())

/-- The steps of a deploy are those without distributions up to the
conclusion, if they come to it. -/
theorem steps_unannounced (schedule : Group.Schedule σ) (r : RunState σ) :
    (d.steps schedule r = d.unannounced.steps schedule r ∧
      ∃ e, (d.unannounced.steps schedule r).2 = .error e) ∨
    ∃ r', d.steps schedule r = d.conclude r' ∧
      d.unannounced.steps schedule r = d.unannounced.conclude r' := by
  have hlist : d.unannounced.list = d.list := rfl
  have hgroups : d.unannounced.groupsOf = d.groupsOf := rfl
  unfold steps
  rw [hlist, hgroups, walk_unannounced, processGroups_unannounced]
  generalize d.list r = listed
  obtain ⟨r₁, listing⟩ := listed
  cases listing with
  | error e => exact .inl ⟨rfl, e, rfl⟩
  | ok v =>
    dsimp only
    generalize d.walk { r₁ with inventory := v } = walked
    obtain ⟨r₂, found⟩ := walked
    cases found with
    | error e => exact .inl ⟨rfl, e, rfl⟩
    | ok files =>
      dsimp only
      generalize d.processGroups schedule 1 (d.groupsOf files)
        (r₂.emit (.progress (.total files.length))) = r₃
      -- Up to here nobody has looked at the distributions.
      cases r₃.error with
      | some e => exact .inl ⟨rfl, e, rfl⟩
      | none => exact .inr ⟨r₃, rfl, rfl⟩

/-- A deploy does what it does without distributions, which are told
when all else has succeeded. -/
theorem run_telling {cdn : Cdn σ} (hcdn : d.cdn = some cdn) (schedule : Group.Schedule σ) (w : σ) :
    let bare := d.unannounced.run schedule w
    (∀ e, bare.result = .error e → d.run schedule w = bare) ∧
    ∀ t, bare.result = .ok t → ∃ keys,
      let reply := cdn.invalidate keys bare.world
      let report := d.run schedule w
      report.world = reply.state ∧ report.tally = bare.tally ∧
      report.events.filter Event.isEffect
        = bare.events.filter Event.isEffect ++ [.call (.invalidate keys)] ∧
      (reply.outcome = .done () → report.result = .ok t) ∧
      ∀ e, reply.outcome.error? .cdn = some e → report.result = .error e := by
  dsimp only
  rw [filter_isEffect_run, filter_isEffect_run]
  obtain ⟨hsame, e, he⟩ | ⟨r, hd, hbare⟩ := steps_unannounced (d := d) schedule { world := w }
  · refine ⟨fun _ _ => ?_, fun t ht => ?_⟩
    · unfold run
      rw [hsame]
    · have : (d.unannounced.run schedule w).result = .error e := he
      rw [this] at ht
      cases ht
  · unfold run
    rw [hd, hbare]
    obtain ⟨herror, hok⟩ := conclude_telling hcdn r
    exact ⟨fun e he => by rw [herror e he], hok⟩

/-! ### How a deploy ends -/

variable (d) in
/-- Everything that a deploy asked for has succeeded. -/
structure Flawless (schedule : Group.Schedule σ) (w : σ) (h : History) (log : Deletions)
    (told : Option (List Text)) : Prop where
  /-- The bucket was listed. -/
  listed : ∃ v, (d.store.list d.rules.keyPrefix w).outcome = .done v
  /-- The files were found. -/
  walked : ∃ found, (d.source.walk d.rules.source d.rules.walkFilter).1 = .done found
  /-- What was read could be read. -/
  read : ∀ f ∈ h.reads, ∃ content, d.source.read f.location = .done content
  /-- Every upload that was started has ended. -/
  ended : h.started.Perm (h.finished.map Prod.fst)
  /-- No upload failed. -/
  uploaded : ∀ x ∈ h.finished, x.2 = .done ()
  /-- No request to delete failed. -/
  deleted : ∀ x ∈ log, x.2 = .done ()
  /-- The distributions were told, once all else was done. -/
  told : ∀ cdn ∈ d.cdn, ∃ keys, told = some keys ∧
    (cdn.invalidate keys (d.unannounced.run schedule w).world).outcome = .done ()

variable (d) in
/-- What a deploy did that was stopped by the error `e` at a stage: what
failed there, and how far the deploy had got. -/
inductive StoppedAt (schedule : Group.Schedule σ) (w : σ) (h : History) (log : Deletions)
    (told : Option (List Text)) (e : Error) : Stage → Prop where
  /-- The bucket was not listed, and nothing else was asked for. -/
  | listing
      (cause : (d.store.list d.rules.keyPrefix w).outcome.error? (.list d.rules.keyPrefix) = some e)
      (effects : (d.run schedule w).events.filter Event.isEffect
        = [.call (.list d.rules.keyPrefix)]) :
      StoppedAt schedule w h log told e .listing
  /-- The files were not found. Only the bucket was listed. -/
  | walking
      (cause : (d.source.walk d.rules.source d.rules.walkFilter).1.error? id = some e)
      (effects : (d.run schedule w).events.filter Event.isEffect
        = [.call (.list d.rules.keyPrefix)]) :
      StoppedAt schedule w h log told e .walking
  /-- A file of a group was not read or not uploaded. The files of the
  groups before are done with, and nothing behind the group was
  begun. -/
  | group {i : Nat} (hi : i < d.rules.groupCount)
      (cause : (∃ f ∈ h.reads, d.rules.groupOf f.path = i ∧
          (d.source.read f.location).error? id = some e) ∨
        ∃ x ∈ h.finished, d.rules.stageOfKey x.1.file.key = .group i ∧
          x.2.error? (.upload x.1.file.key) = some e)
      (before : ∀ f ∈ d.kept, d.rules.groupOf f.path < i → h.Processed d.source d.rules f)
      (behind : ∀ s ∈ (d.run schedule w).events.filterMap (Event.stage? d.rules), s ≤ .group i) :
      StoppedAt schedule w h log told e (.group i)
  /-- A batch was not deleted. All files are done with, all uploads have
  succeeded, so have the batches before, and nothing came behind. -/
  | deleting (before : ∀ f ∈ d.kept, h.Processed d.source d.rules f)
      (ended : h.started.Perm (h.finished.map Prod.fst))
      (uploaded : ∀ x ∈ h.finished, x.2 = .done ())
      (cause : log.Broken e)
      (batches : log.map Prod.fst
        <+: batchesOf maxBatch ((d.candidates w h).take d.rules.maxDelete))
      (behind : ∀ s ∈ (d.run schedule w).events.filterMap (Event.stage? d.rules), s ≤ .deleting) :
      StoppedAt schedule w h log told e .deleting
  /-- The distributions were not told. Everything else was done as
  without distributions. -/
  | telling {cdn : Cdn σ} {keys : List Text} (hcdn : d.cdn = some cdn) (htold : told = some keys)
      (bare : (d.unannounced.run schedule w).result = .ok (d.unannounced.run schedule w).tally)
      (cause : (cdn.invalidate keys (d.unannounced.run schedule w).world).outcome.error? .cdn
        = some e)
      (tally : (d.run schedule w).tally = (d.unannounced.run schedule w).tally)
      (effects : (d.run schedule w).events.filter Event.isEffect
        = (d.unannounced.run schedule w).events.filter Event.isEffect
          ++ [.call (.invalidate keys)])
      (world : (d.run schedule w).world
        = (cdn.invalidate keys (d.unannounced.run schedule w).world).state)
      (bucket : ∀ {α : Type} {view : σ → Text → Option α}, cdn.Frames view → ∀ key,
        view (d.run schedule w).world key = view (d.unannounced.run schedule w).world key) :
      StoppedAt schedule w h log told e .telling

section

variable {w : σ} {h : History} {log : Deletions} {told : Option (List Text)} {report : Report σ}
  {e : Error}

/-- An error with the files is that of a group. The groups before it are
done with, and those behind it were not begun. -/
theorem Course.exists_group (hc : d.Course w h log told report)
    (hfirst : h.failures.head? = some e) :
    ∃ i, i < d.rules.groupCount ∧
      ((∃ f ∈ h.reads, d.rules.groupOf f.path = i ∧
          (d.source.read f.location).error? id = some e) ∨
        ∃ x ∈ h.finished, d.rules.stageOfKey x.1.file.key = .group i ∧
          x.2.error? (.upload x.1.file.key) = some e) ∧
      (∀ f ∈ d.kept, d.rules.groupOf f.path < i → h.Processed d.source d.rules f) ∧
      ∀ s ∈ h.stages d.rules, s ≤ .group i := by
  obtain ⟨groups, hs, hprefix, ht, rfl, hgroups⟩ := hc.exists_groups
  -- There is an error, so one of the groups is the first that has one.
  have hsome : History.failures hs.flatten ≠ [] := fun hnone => by
    rw [hnone] at hfirst
    cases hfirst
  obtain ⟨before, files, after, hsBefore, last, rfl, rfl, hlen, hnone, hbefore, hlast, -⟩ :=
    ht.exists_stop hsome
  rw [List.flatten_append, List.flatten_singleton] at hfirst ⊢
  have hgroup : (before ++ files :: after)[before.length]? = some files := by simp
  have hfiles : ∀ f ∈ files, d.rules.groupOf f.path = before.length := fun f hf =>
    ((hgroups _ _ hgroup f).1 hf).2
  refine ⟨before.length, ?_, ?_, fun f hf hlt => ?_, fun s hs => ?_⟩
  · have hle := hprefix.length_le
    rw [d.length_groupsOf, List.length_append, List.length_cons] at hle
    rw [Rules.groupCount]
    omega
  · -- The groups before have no error, so the first is one of the last group.
    rw [History.failures_append, hnone, List.nil_append] at hfirst
    rw [History.reads_append, History.finished_append]
    obtain ⟨f, hf, he⟩ | ⟨x, hx, he⟩ := hlast.causes e (List.mem_of_mem_head? hfirst)
    · rw [LocalSource.error?_ready] at he
      exact .inl ⟨f, List.mem_append_right _ hf, hfiles f (hlast.reads.subset hf), he⟩
    · refine .inr ⟨x, List.mem_append_right _ hx, ?_, he⟩
      exact hlast.stageOfKey hfiles (hlast.compared_of_started (hlast.started_of_finished hx))
  · -- A file of an earlier group is in one of the groups before.
    have hmem : f ∈ before.flatten := by
      have hget : before[d.rules.groupOf f.path]? = some before[d.rules.groupOf f.path] :=
        List.getElem?_eq_getElem hlt
      have hin := (hgroups _ before[d.rules.groupOf f.path]
        (by rw [List.getElem?_append_left hlt, hget]) f).2 ⟨hf, rfl⟩
      exact List.mem_flatten.2 ⟨_, List.getElem_mem hlt, hin⟩
    exact (hbefore.processed hnone hmem).append last
  · -- What is begun belongs to one of the groups that were begun.
    rw [← List.flatten_singleton (l := last), ← List.flatten_append] at hs
    obtain ⟨j, hlt, rfl⟩ := ht.exists_of_mem_stages
      (fun j files' hj f hf => ((hgroups j files' hj f).1 hf).2) hs
    rw [List.length_append, List.length_singleton] at hlt
    rw [Stage.group_le_group]
    omega

/-- What the distributions were told is the last thing that was asked
for, if it is not what a deploy without distributions asks for. -/
theorem Course.told_of_effects (hc : d.Course w h log told report) (schedule : Group.Schedule σ)
    (keys : Option (List Text))
    (heffects : report.events.filter Event.isEffect
      = (d.unannounced.run schedule w).events.filter Event.isEffect
        ++ keys.toList.map fun keys => .call (.invalidate keys)) : told = keys := by
  have hpick : ∀ e : Event, e.isEffect = false → e.invalidation? = none := fun e he => by
    cases e <;> first | rfl | cases he
  obtain ⟨h', log', told', hbare⟩ := d.unannounced.run_course schedule w
  have hnone : told' = none := hbare.alone rfl
  have htold := hc.invalidations
  rw [← filterMap_filter_isEffect hpick, heffects, List.filterMap_append,
    filterMap_filter_isEffect hpick, hbare.invalidations, hnone, List.filterMap_map] at htold
  cases keys <;> cases told <;> simp_all [Event.invalidation?]

/-- A deploy that is stopped while the distributions are told has done
what it does without distributions. -/
theorem Course.stoppedAt_telling {schedule : Group.Schedule σ}
    (hc : d.Course w h log told (d.run schedule w)) (he : (d.run schedule w).result = .error e)
    {cdn : Cdn σ} (hcdn : d.cdn = some cdn) (htold : told ≠ none) :
    d.StoppedAt schedule w h log told e .telling := by
  obtain ⟨hsame, hall⟩ := run_telling hcdn schedule w
  obtain ⟨h', log', told', hbare⟩ := d.unannounced.run_course schedule w
  cases hresult : (d.unannounced.run schedule w).result with
  | error e' =>
    -- Then the distributions would not have been told.
    have heq := hsame e' hresult
    refine absurd (hc.told_of_effects schedule none ?_) htold
    rw [heq]
    exact (List.append_nil _).symm
  | ok t =>
    have htally := (hbare.complete t hresult).tally
    obtain ⟨keys, hworld, hsum, heffects, hdone, hfailed⟩ := hall t hresult
    have hkeys := hc.told_of_effects schedule (some keys) heffects
    refine .telling hcdn hkeys (htally ▸ hresult) ?_ hsum heffects hworld fun hframes key => ?_
    · cases ho : (cdn.invalidate keys (d.unannounced.run schedule w).world).outcome.error? .cdn with
      | none =>
        rw [hdone (Attempt.eq_done_of_error? ho)] at he
        cases he
      | some e' =>
        rw [hfailed e' ho] at he
        cases he
        rfl
    · rw [hworld]
      exact hframes keys _ key

/-- A deploy that succeeds is flawless. -/
theorem Course.flawless {schedule : Group.Schedule σ}
    (hc : d.Course w h log told (d.run schedule w)) {t : Tally}
    (ht : (d.run schedule w).result = .ok t) : d.Flawless schedule w h log told := by
  have hcompleted := hc.complete t ht
  have hh := hcompleted.handles
  obtain ⟨hreads, -, -, huploaded⟩ := hh.complete hcompleted.failures
  refine ⟨⟨_, hcompleted.listed⟩, hcompleted.found, fun f hf => ?_, hh.ended, huploaded,
    hcompleted.deleted, fun cdn hcdn => ?_⟩
  · -- A file that is ready was read.
    obtain ⟨file, hready⟩ := hh.readable hcompleted.failures f (hreads ▸ hf)
    have hread := d.source.error?_ready d.rules f
    rw [hready] at hread
    exact Attempt.error?_eq_none_iff.1 hread.symm
  · -- If the distributions had refused, the deploy would not have succeeded.
    obtain ⟨hsame, hall⟩ := run_telling hcdn schedule w
    cases hresult : (d.unannounced.run schedule w).result with
    | error e' =>
      rw [hsame e' hresult, hresult] at ht
      cases ht
    | ok t' =>
      obtain ⟨keys, -, -, heffects, -, hfailed⟩ := hall t' hresult
      refine ⟨keys, hc.told_of_effects schedule (some keys) heffects, ?_⟩
      cases ho : (cdn.invalidate keys (d.unannounced.run schedule w).world).outcome.error? .cdn with
      | none => exact Attempt.eq_done_of_error? ho
      | some e' =>
        rw [hfailed e' ho] at ht
        cases ht

/-- A deploy that does not succeed was stopped at a stage, and if local
files fail as files do then the error is one of that stage. The cases are
the places at which a deploy stops. -/
theorem Course.exists_stoppedAt {schedule : Group.Schedule σ}
    (hc : d.Course w h log told (d.run schedule w)) (he : (d.run schedule w).result = .error e) :
    ∃ stage, d.StoppedAt schedule w h log told e stage ∧
      (d.source.FailsByIo → e.ArisesAt stage) := by
  have hbegun := hc.stages_eq
  cases hc.stopped e he with
  | listing hlist hfiles hlog htold =>
    subst hfiles hlog htold
    refine ⟨.listing, .listing hlist hc.effects, fun _ => ?_⟩
    exact Error.arisesAt_of_error? hlist fun _ _ => rfl
  | walking hlist hwalk hfiles hlog htold =>
    subst hfiles hlog htold
    refine ⟨.walking, .walking hwalk hc.effects, fun hio => ?_⟩
    refine Error.arisesAt_of_error? hwalk fun cause hcause => ?_
    obtain ⟨path, fault, rfl⟩ := hio.walk _ _ cause hcause
    exact .inl rfl
  | files hlist hwalk hfirst hlog htold =>
    subst hlog htold
    -- The error is that of a file, or that of an upload.
    obtain ⟨i, hi, hcause, hbefore, hstages⟩ := hc.exists_group hfirst
    refine ⟨.group i, .group hi hcause hbefore ?_, fun hio => ?_⟩
    · rw [hbegun]
      simpa using hstages
    · obtain ⟨f, -, -, hread⟩ | ⟨x, -, -, hput⟩ := hcause
      · refine Error.arisesAt_of_error? hread fun cause hcause => ?_
        obtain ⟨path, fault, rfl⟩ := hio.read _ cause hcause
        exact .inr ⟨i, rfl⟩
      · exact Error.arisesAt_of_error? hput fun _ _ => ⟨i, rfl⟩
  | deleting hlist hwalk hnone hh hlog htold =>
    subst htold
    obtain ⟨-, -, -, huploaded⟩ := hh.complete hnone
    refine ⟨.deleting, .deleting (fun f hf => hh.processed hnone (d.ordered_perm.mem_iff.2 hf))
      hh.ended huploaded hlog hc.batches (fun s hs => ?_), fun _ => ?_⟩
    · -- No stage comes behind: there is the listing, there are the groups, and there are the
      -- deletions.
      rw [hbegun, List.mem_cons, Option.toList_none, List.map_nil, List.append_nil,
        List.mem_append] at hs
      obtain rfl | hs | hs := hs
      · exact Stage.listing_le
      · obtain ⟨i, rfl⟩ := hc.exists_group_of_mem_stages hs
        exact le_of_lt Stage.group_lt_deleting
      · obtain ⟨-, -, rfl⟩ := List.mem_map.1 hs
        exact le_refl _
    · obtain ⟨before, keys, outcome, -, -, ho⟩ := hlog
      exact Error.arisesAt_of_error? ho fun _ _ => rfl
  | telling hlist hwalk hnone hh hall hlog htold =>
    obtain ⟨cdn, hcdn, keys, s, hkeys, ho⟩ := htold
    refine ⟨.telling, hc.stoppedAt_telling he hcdn (by rw [hkeys]; simp), fun _ => ?_⟩
    exact Error.arisesAt_of_error? ho fun _ _ => rfl

/-- A deploy of the files of a tree is stopped at a stage by an error of
that stage. -/
theorem Course.exists_stoppedAt_of_tree {top : FileNode} {here : List Text}
    (hsource : d.source = .ofTree top here) {schedule : Group.Schedule σ}
    (hc : d.Course w h log told (d.run schedule w)) (he : (d.run schedule w).result = .error e) :
    ∃ stage, d.StoppedAt schedule w h log told e stage ∧ e.ArisesAt stage := by
  obtain ⟨stage, hstopped, harises⟩ := hc.exists_stoppedAt he
  exact ⟨stage, hstopped, harises (hsource ▸ LocalSource.ofTree_failsByIo top here)⟩

end

/-- Nothing that fails goes unnoticed, and the error tells how far the
deploy got. Whatever the schedule chooses and whoever fails: a deploy
that succeeds has asked for nothing that failed, and one that does not
was stopped at a stage by what failed there, with all that comes before
done and nothing begun that comes behind. -/
theorem fails_openly (d : Deployment σ) (schedule : Group.Schedule σ) (w : σ) :
    ∃ h log told, d.Course w h log told (d.run schedule w) ∧
      (∀ t, (d.run schedule w).result = .ok t → d.Flawless schedule w h log told) ∧
      ∀ e, (d.run schedule w).result = .error e →
        ∃ stage, d.StoppedAt schedule w h log told e stage ∧
          (d.source.FailsByIo → e.ArisesAt stage) := by
  obtain ⟨h, log, told, hc⟩ := d.run_course schedule w
  exact ⟨h, log, told, hc, fun t ht => hc.flawless ht, fun e he => hc.exists_stoppedAt he⟩

/-! ### A small site whose distributions refuse -/

/-- Without distributions there is less that could fail. -/
theorem Reliable.unannounced (hd : d.Reliable) : d.unannounced.Reliable :=
  ⟨hd.list, hd.put, hd.delete, hd.walk, hd.read, fun _ hcdn => nomatch hcdn⟩

/-- A deploy fails if all it asks for succeeds but for the
distributions. -/
theorem Reliable.run_refused (hd : d.Reliable) (schedule : Group.Schedule σ) (w : σ) :
    (({ d with cdn := some .refusing } : Deployment σ).run schedule w).result
      = .error (.cdn "invalidation rejected".toList) := by
  obtain ⟨t, ht⟩ := hd.unannounced.run_ok schedule w
  obtain ⟨-, hall⟩ := run_telling (d := { d with cdn := some .refusing }) rfl schedule w
  obtain ⟨keys, -, -, -, -, hfailed⟩ := hall t ht
  exact hfailed _ rfl

/-- The deploy of the small site is flawless, and with distributions
that refuse it is stopped when they are told. -/
theorem fails_openly_sample :
    (∃ h log told, Sample.deployment.Flawless Group.oneByOne Sample.bucket h log told) ∧
    ∃ h log told, ({ Sample.deployment with cdn := some .refusing } : Deployment Bucket).StoppedAt
      Group.oneByOne Sample.bucket h log told (.cdn "invalidation rejected".toList) .telling := by
  constructor
  · obtain ⟨h, log, told, -, hok, -⟩ := Sample.deployment.fails_openly Group.oneByOne Sample.bucket
    obtain ⟨t, ht⟩ := Sample.reliable.run_ok Group.oneByOne Sample.bucket
    exact ⟨h, log, told, hok t ht⟩
  · obtain ⟨h, log, told, -, -, herror⟩ :=
      ({ Sample.deployment with cdn := some .refusing } : Deployment Bucket).fails_openly
        Group.oneByOne Sample.bucket
    obtain ⟨stage, hstopped, harises⟩ :=
      herror _ (Sample.reliable.run_refused Group.oneByOne Sample.bucket)
    -- The error arises only while the distributions are told.
    have hstage : stage = .telling := harises (LocalSource.ofFlat_failsByIo [] none Sample.files)
    exact ⟨h, log, told, hstage ▸ hstopped⟩

end Deployment

end SiteSync
