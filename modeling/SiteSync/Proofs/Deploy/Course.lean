import SiteSync.Deploy.Basic
import SiteSync.Proofs.Deploy.Deletion
import SiteSync.Proofs.Deploy.Turns
import SiteSync.Proofs.Rules

/-!
# `SiteSync.Proofs.Deploy.Course`: the course of a deploy

`Deployment.Course` says what a deploy did, whether it succeeded or not:
what it asked of others and in which order, how the planner decided, and
what the counters count. It is assembled from one lemma for each stage.

- `Deployment.run_course`: every deploy has a course, whatever the
  schedule chooses and whoever fails.
- `Deployment.Stopped`: where a deploy that fails is stopped, by what,
  and what it had done before.
- `Deployment.ordered_perm`: the groups hold every file once.

Everything that is proved about whole deploys starts from the course and
unfolds no stage again.
-/

set_option autoImplicit false

namespace SiteSync

open RunState (Accounts Quiet Deletes)

/-! ### The groups -/

/-- Filtering by every value of a bounded function in turn loses
nothing. -/
theorem flatten_map_filter_perm {α : Type} (f : α → Nat) (n : Nat) (as : List α)
    (h : ∀ a ∈ as, f a < n) :
    ((List.range n).map fun i => as.filter (f · == i)).flatten.Perm as := by
  induction n generalizing as with
  | zero =>
    cases as with
    | nil => exact .refl _
    | cons a as => exact absurd (h a (by simp)) (Nat.not_lt_zero _)
  | succ n ih =>
    -- The last value is split off; the others are those of the rest.
    have hrest := ih (as.filter fun a => !(f a == n)) fun a ha => by
      obtain ⟨hm, hne⟩ := List.mem_filter.1 ha
      have := h a hm
      simp only [Bool.not_eq_true', beq_eq_false_iff_ne] at hne
      omega
    have hsame : ((List.range n).map fun i => (as.filter fun a => !(f a == n)).filter (f · == i))
        = (List.range n).map fun i => as.filter (f · == i) := by
      refine List.map_congr_left fun i hi => ?_
      rw [List.filter_filter]
      refine List.filter_congr fun a _ => ?_
      have hlt := List.mem_range.1 hi
      by_cases hf : f a = i
      · have hne : i ≠ n := by omega
        simp [hf, hne]
      · simp [hf]
    rw [hsame] at hrest
    rw [List.range_succ, List.map_append, List.flatten_append]
    simp only [List.map_cons, List.map_nil, List.flatten_cons, List.flatten_nil, List.append_nil]
    exact (hrest.append_right _).trans (List.perm_append_comm.trans (List.filter_append_perm _ as))

namespace Deployment

variable {σ : Type} (d : Deployment σ)

/-! ### What a deploy starts from -/

/-- The objects that are listed at the start; none if the listing
fails. -/
def listed (w : σ) : Inventory :=
  match (d.store.list d.rules.keyPrefix w).outcome with
  | .done v => v
  | _ => .empty

/-- The files that are found and not left alone; none if the walk
fails. -/
def kept : List WalkedFile :=
  match (d.source.walk d.rules.source d.rules.walkFilter).1 with
  | .done files => files.filter (!d.rules.ignoresPath ·.path)
  | _ => []

/-- The files in the order of their groups. -/
def ordered : List WalkedFile := (d.groupsOf d.kept).flatten

/-- The groups hold every file once. -/
theorem ordered_perm : d.ordered.Perm d.kept :=
  flatten_map_filter_perm _ _ _ fun f _ => d.rules.groupOf_lt f.path

/-- The state after the distributions were told of some keys, if they
were. -/
def tell (told : Option (List Text)) (s : σ) : σ :=
  match d.cdn, told with
  | some cdn, some keys => (cdn.invalidate keys s).state
  | _, _ => s

/-! ### The stages -/

variable {d}

/-- The bucket is asked for its objects, and nothing else changes. -/
theorem list_spec (r : RunState σ) :
    let reply := d.store.list d.rules.keyPrefix r.world
    (d.list r).1 = { r with world := reply.state, trace := (d.list r).1.trace } ∧
      (d.list r).1.effects = r.effects ++ [.call (.list d.rules.keyPrefix)] ∧
      (∀ v, (d.list r).2 = .ok v ↔ reply.outcome = .done v) ∧
      ∀ e, (d.list r).2 = .error e → reply.outcome.error? (.list d.rules.keyPrefix) = some e := by
  have heffects : ((r.emit (.call (.list d.rules.keyPrefix))).absorb
      (d.store.list d.rules.keyPrefix r.world)).effects
        = r.effects ++ [.call (.list d.rules.keyPrefix)] := by
    rw [RunState.effects_absorb, RunState.effects_emit]
    rfl
  unfold list
  dsimp only [RunState.emit]
  cases ho : (d.store.list d.rules.keyPrefix r.world).outcome with
  | done v =>
    refine ⟨?_, ?_, fun v' => by simp, fun _ he => nomatch he⟩
    · rw [RunState.absorb_eq]
      rfl
    · rw [← heffects]
      exact RunState.effects_say _ _ _ _
  | failed cause =>
    exact ⟨by rw [RunState.absorb_eq], heffects, fun v => by simp, by simp [Attempt.error?]⟩
  | died => exact ⟨by rw [RunState.absorb_eq], heffects, fun v => by simp, by simp [Attempt.error?]⟩

/-- The files that are left alone are only said to be. -/
theorem keepFiles_spec (files : List WalkedFile) (r : RunState σ) :
    r.Quiet (d.keepFiles files r).1 ∧
      (d.keepFiles files r).2 = files.filter (!d.rules.ignoresPath ·.path) := by
  induction files generalizing r with
  | nil => exact ⟨.refl r, rfl⟩
  | cons f files ih =>
    rw [keepFiles]
    by_cases hf : d.rules.ignoresPath f.path = true
    · rw [if_pos hf, List.filter_cons_of_neg (by simp [hf])]
      obtain ⟨hq, hk⟩ := ih (r.say .debug .deployer (f.path ++ " ignored".toList))
      exact ⟨(Quiet.say _ _ _ r).trans hq, hk⟩
    · rw [if_neg hf, List.filter_cons_of_pos (by simpa using hf)]
      obtain ⟨hq, hk⟩ := ih r
      exact ⟨hq, by rw [← hk]⟩

/-- The walk asks nobody for anything that a trace shows. -/
theorem walk_spec (r : RunState σ) :
    r.Quiet (d.walk r).1 ∧ (∀ files, (d.walk r).2 = .ok files → files = d.kept ∧
      ∃ found, (d.source.walk d.rules.source d.rules.walkFilter).1 = .done found) ∧
    ∀ e, (d.walk r).2 = .error e →
      (d.source.walk d.rules.source d.rules.walkFilter).1.error? id = some e := by
  unfold walk kept
  obtain ⟨outcome, said⟩ := d.source.walk d.rules.source d.rules.walkFilter
  cases outcome with
  | done found =>
    obtain ⟨hq, hk⟩ := d.keepFiles_spec found (r.relay said)
    refine ⟨(Quiet.relay said r).trans hq, fun files hf => ?_, fun e he => ?_⟩
    · cases hf
      exact ⟨hk, found, rfl⟩
    · cases he
  | failed cause =>
    refine ⟨.relay said r, fun files hf => ?_, fun e he => ?_⟩
    · cases hf
    · cases he
      rfl
  | died =>
    refine ⟨.relay said r, fun files hf => ?_, fun e he => ?_⟩
    · cases hf
    · cases he
      rfl

/-- A group is announced, and nothing happens by that. -/
theorem quiet_announceGroup (count number files : Nat) (r : RunState σ) :
    r.Quiet (announceGroup count number files r) := by
  unfold announceGroup
  split
  · exact .refl r
  · exact (Quiet.say _ _ _ r).trans (.emit rfl _)

/-- What is only logged is no happening. -/
theorem accounts_of_quiet {st : Store σ} {rules : Rules} {r r' : RunState σ} (h : r.Quiet r') :
    Accounts st rules r [] r' := by
  have hr := Accounts.refl st rules r
  refine ⟨?_, rfl, ?_, ?_, ?_, ?_, ?_⟩
  · rw [h.eq]; exact hr.inventory
  · rw [h.eq]; exact hr.world
  · rw [h.effects]; exact hr.effects
  · rw [h.eq]; exact hr.changed
  · rw [h.eq]; exact hr.tally
  · rw [h.eq]; exact hr.error

/-- The groups one after another: each has a history, and after the
first that fails there is none. -/
theorem processGroups_history (schedule : Group.Schedule σ) (number : Nat)
    (groups : List (List WalkedFile)) {r : RunState σ} (hr : r.error = none) :
    ∃ hs : List History,
      Accounts d.store d.rules r hs.flatten (d.processGroups schedule number groups r) ∧
      History.InTurn d.source d.rules groups hs ∧ History.Tidy d.source d.rules hs.flatten := by
  induction groups generalizing number r with
  | nil => exact ⟨[], .refl d.store d.rules r, .nil, .nil d.source d.rules⟩
  | cons files groups ih =>
    rw [processGroups]
    by_cases hfiles : files = []
    · -- Without files nothing happens.
      rw [if_pos hfiles, hfiles]
      obtain ⟨hs, hacc, ht, htidy⟩ := ih (number + 1) hr
      exact ⟨[] :: hs, hacc, .next (.nil d.source d.rules) rfl ht, htidy⟩
    · rw [if_neg hfiles]
      have hq := quiet_announceGroup d.rules.groupCount number files.length r
      have hr' : (announceGroup d.rules.groupCount number files.length r).error = none := by
        rw [hq.eq]
        exact hr
      obtain ⟨h, hacc, hh, htidy⟩ :=
        Group.process_history d.source d.store d.rules schedule files hr'
      -- Announcing the group is quiet, so the history is that of the group.
      have hacc := (accounts_of_quiet hq).trans hacc
      rw [List.nil_append] at hacc
      have herror := hacc.error
      rw [hr, Option.none_or] at herror
      dsimp only
      split
      · -- The group has an error, and is the last.
        rename_i hcancelled
        refine ⟨[h], ?_, .stop groups hh fun hf => ?_, ?_⟩
        · rw [List.flatten_singleton]
          exact hacc
        · rw [RunState.cancelled, herror, hf] at hcancelled
          cases hcancelled
        · rw [List.flatten_singleton]
          exact htidy
      · rename_i hcancelled
        -- The group has none, and the next follows.
        have hnone := Option.not_isSome_iff_eq_none.1 hcancelled
        obtain ⟨hs, hacc', ht, htidy'⟩ := ih (number + 1) hnone
        rw [hnone] at herror
        have hf := List.head?_eq_none_iff.1 herror.symm
        exact ⟨h :: hs, hacc.trans hacc', .next hh hf ht, htidy.append htidy' (.inl hf)⟩

/-- The distributions are told of all changed keys, in byte order. -/
theorem invalidate_spec (r : RunState σ) :
    let told := d.cdn.map fun _ => r.changed.sorted
    (d.invalidate r).1 = { r with
        world := d.tell told r.world, trace := (d.invalidate r).1.trace } ∧
      (d.invalidate r).1.effects
        = r.effects ++ told.toList.map (fun keys => .call (.invalidate keys)) ∧
      ((d.invalidate r).2 = .ok () → ∀ cdn ∈ d.cdn,
        (cdn.invalidate r.changed.sorted r.world).outcome = .done ()) ∧
      ∀ e, (d.invalidate r).2 = .error e → ∃ cdn ∈ d.cdn,
        (cdn.invalidate r.changed.sorted r.world).outcome.error? .cdn = some e := by
  unfold invalidate tell
  cases hc : d.cdn with
  | none => exact ⟨rfl, (List.append_nil _).symm, (fun _ _ h => nomatch h), fun _ he => nomatch he⟩
  | some cdn =>
    have heffects : ((r.emit (.call (.invalidate r.changed.sorted))).absorb
        (cdn.invalidate r.changed.sorted r.world)).effects
          = r.effects ++ [.call (.invalidate r.changed.sorted)] := by
      rw [RunState.effects_absorb, RunState.effects_emit]
      rfl
    dsimp only [RunState.emit]
    cases ho : (cdn.invalidate r.changed.sorted r.world).outcome with
    | done _ => exact ⟨by rw [RunState.absorb_eq]; rfl, heffects, by simp [ho], by simp⟩
    | failed cause =>
      exact ⟨by rw [RunState.absorb_eq]; rfl, heffects, by simp, by simp [ho, Attempt.error?]⟩
    | died =>
      exact ⟨by rw [RunState.absorb_eq]; rfl, heffects, by simp, by simp [ho, Attempt.error?]⟩

/-! ### Deleting and telling -/

variable (d)

/-- What deleting and telling the distributions makes of the state `r`.
`log` are the requests to delete, and `told` are the keys that the
distributions were told of, if they were. -/
structure Conclusion (r : RunState σ) (log : Deletions) (told : Option (List Text))
    (r' : RunState σ) (result : Except Error Tally) : Prop where
  /-- The requests to delete come before the distributions are told. -/
  effects : r'.effects = r.effects ++ log.map (fun x => .call (.delete x.1))
    ++ told.toList.map fun keys => .call (.invalidate keys)
  /-- The first candidates are deleted, batch by batch. -/
  batches : log.map Prod.fst
    <+: batchesOf maxBatch ((deleteCandidates d.rules r.inventory).take d.rules.maxDelete)
  /-- The bucket was asked, then the distributions. -/
  world : ∃ s, Asked d.store.delete r.world log s ∧ r'.world = d.tell told s
  /-- What was deleted is changed. -/
  changed : r'.changed = log.deleted.reverse ++ r.changed
  /-- The distributions are told of what was changed. -/
  keys : ∀ keys, told = some keys → keys = r'.changed.sorted
  /-- Without distributions nobody is told. -/
  alone : d.cdn = none → told = none
  /-- What was deleted is counted, and perhaps what was left. -/
  tally : ∃ stale, r'.tally = (r.tally.addDeleted log.deleted.length.toUInt64).addStale stale
  /-- If nothing fails then all is done. -/
  complete : ∀ t, result = .ok t →
    t = (r.tally.addDeleted log.deleted.length.toUInt64).addStale
      ((deleteCandidates d.rules r.inventory).length - d.rules.maxDelete).toUInt64 ∧
    t = r'.tally ∧
    log.map Prod.fst
      = batchesOf maxBatch ((deleteCandidates d.rules r.inventory).take d.rules.maxDelete) ∧
    (∀ x ∈ log, x.2 = .done ()) ∧ told.isSome = d.cdn.isSome

/-- If nobody is told then nothing changes. -/
theorem tell_none (s : σ) : d.tell none s = s := by
  unfold tell
  split
  · contradiction
  · rfl

/-- If the distributions are told then they make of the state what they
will. -/
theorem tell_some {cdn : Cdn σ} (hcdn : d.cdn = some cdn) (keys : List Text) (s : σ) :
    d.tell (some keys) s = (cdn.invalidate keys s).state := by
  unfold tell
  rw [hcdn]

/-- Nothing is deleted when something went wrong before. -/
theorem Conclusion.stop (r : RunState σ) (e : Error) : d.Conclusion r [] none r (.error e) where
  effects := by simp
  batches := List.nil_prefix
  world := ⟨r.world, .nil, (d.tell_none _).symm⟩
  changed := rfl
  keys := fun _ h => nomatch h
  alone := fun _ => rfl
  tally := ⟨0, by simp [Tally.addDeleted, Tally.addStale, Deletions.deleted]⟩
  complete := fun _ h => nomatch h

/-- Once the keys are deleted the distributions are told, and that is
all but for the log. -/
theorem Conclusion.of_deletes {r r₁ r' : RunState σ} {log : Deletions} {result : Except Error Tally}
    (hlog : Deletes d.store r log r₁)
    (hbatches : log.map Prod.fst
      = batchesOf maxBatch ((deleteCandidates d.rules r.inventory).take d.rules.maxDelete))
    (hdone : ∀ x ∈ log, x.2 = .done ())
    (hq : Quiet (d.invalidate (r₁.countStale
      ((deleteCandidates d.rules r.inventory).length - d.rules.maxDelete) d.rules.maxDelete)).1 r')
    (hresult : ∀ t, result = .ok t → t = r'.tally) :
    d.Conclusion r log (d.cdn.map fun _ => r'.changed.sorted) r' result := by
  have hstale := RunState.quiet_countStale
    ((deleteCandidates d.rules r.inventory).length - d.rules.maxDelete) d.rules.maxDelete r₁
  generalize r₁.countStale
    ((deleteCandidates d.rules r.inventory).length - d.rules.maxDelete) d.rules.maxDelete = r₂
    at hstale hq
  -- Neither counting what is left nor telling the distributions changes any key.
  obtain ⟨heq, heffects, -⟩ := invalidate_spec (d := d) r₂
  have hchanged : r'.changed = log.deleted.reverse ++ r.changed := by
    rw [hq.eq, heq, hstale.eq, hlog.changed]
  have hsame : r₂.changed = r'.changed := by rw [hchanged, hstale.eq, hlog.changed]
  have htally : r'.tally = (r.tally.addDeleted log.deleted.length.toUInt64).addStale
      ((deleteCandidates d.rules r.inventory).length - d.rules.maxDelete).toUInt64 := by
    rw [hq.eq, heq, hstale.eq, hlog.tally]
  refine ⟨?_, ?_, ⟨r₁.world, hlog.world, ?_⟩, hchanged, ?_, fun hc => by rw [hc]; rfl,
    ⟨_, htally⟩, fun t ht => ?_⟩
  · rw [hq.effects, heffects, hstale.effects, hsame, ← hlog.effects]
    rfl
  · exact ⟨[], by rw [List.append_nil, hbatches]⟩
  · have hworld : r₂.world = r₁.world := by rw [hstale.eq]
    rw [hq.eq, heq, hworld, hsame]
  · intro keys hk
    obtain ⟨-, -, rfl⟩ := Option.map_eq_some_iff.1 hk
    rfl
  · exact ⟨(hresult t ht).trans htally, hresult t ht, hbatches, hdone, by simp⟩

/-- Deleting and telling fails only at a request to delete, and then it
is the last, or when everything is deleted and the distributions are
told. -/
theorem conclude_spec (r : RunState σ) :
    ∃ log told, d.Conclusion r log told (d.conclude r).1 (d.conclude r).2 ∧
      ∀ e, (d.conclude r).2 = .error e → (told = none ∧ log.Broken e) ∨
        (log.map Prod.fst
          = batchesOf maxBatch ((deleteCandidates d.rules r.inventory).take d.rules.maxDelete) ∧
        (∀ x ∈ log, x.2 = .done ()) ∧ ∃ cdn ∈ d.cdn, ∃ keys s, told = some keys ∧
          (cdn.invalidate keys s).outcome.error? .cdn = some e) := by
  obtain ⟨log, r₁, hlog, hprefix, hend⟩ := RunState.deleteKeys_spec d.store
    (deleteCandidates d.rules r.inventory) d.rules.maxDelete r
  unfold conclude
  dsimp only
  obtain ⟨e, he, hbroken⟩ | ⟨hn, hbatches, hdone⟩ := hend
  · -- A request to delete fails, and the distributions are not told.
    rw [he]
    refine ⟨log, none, ⟨?_, hprefix, ⟨_, hlog.world, (d.tell_none _).symm⟩, hlog.changed,
      (fun _ h => nomatch h), (fun _ => rfl), ⟨0, ?_⟩, fun _ h => nomatch h⟩, fun e' he' => .inl ?_⟩
    · simpa using hlog.effects
    · simp [hlog.tally, Tally.addStale]
    · cases he'
      exact ⟨rfl, hbroken⟩
  · rw [hn]
    dsimp only
    generalize hr₂ : r₁.countStale
      ((deleteCandidates d.rules r.inventory).length - d.rules.maxDelete) d.rules.maxDelete = r₂
    obtain ⟨htelling, -, -, htold⟩ := invalidate_spec (d := d) r₂
    generalize hi : d.invalidate r₂ = invalidated at htelling htold
    obtain ⟨r₃, result⟩ := invalidated
    cases result with
    | error e =>
      -- They refuse. Telling them changes none of the keys that they are told of.
      have hsame : r₃.changed = r₂.changed := by
        dsimp only at htelling
        rw [htelling]
      refine ⟨log, _, Conclusion.of_deletes d hlog hbatches hdone ?_ (fun t ht => ?_),
        fun e' he => .inr ⟨hbatches, hdone, ?_⟩⟩
      · rw [hr₂, hi]
        exact .refl r₃
      · cases ht
      · cases he
        obtain ⟨cdn, hmem, ho⟩ := htold e rfl
        refine ⟨cdn, hmem, r₃.changed.sorted, r₂.world, ?_, ?_⟩
        · rw [Option.mem_def.1 hmem]
          rfl
        · rw [hsame]
          exact ho
    | ok _ =>
      refine ⟨log, _, Conclusion.of_deletes d hlog hbatches hdone ?_ (fun t ht => ?_),
        fun e he => ?_⟩
      · rw [hr₂, hi]
        exact .say _ _ _ r₃
      · cases ht
        rfl
      · cases he

/-! ### The whole deploy -/

/-- The state once the bucket is listed. -/
def opening (w : σ) : RunState σ where
  world := (d.store.list d.rules.keyPrefix w).state
  inventory := d.listed w
  trace := [.call (.list d.rules.keyPrefix)]

/-- The objects that may be deleted once the files of a history were
compared, in byte order. -/
def candidates (w : σ) (h : History) : List Text :=
  deleteCandidates d.rules ((d.listed w).eraseAll (h.compared.map LocalFile.key))

/-- Where a deploy that fails with the error `e` is stopped, and by
what. `h` is the history of its files, `log` are its requests to delete,
and `told` are the keys that the distributions were told of, if they
were. -/
inductive Stopped (w : σ) (h : History) (log : Deletions) (told : Option (List Text))
    (e : Error) : Prop where
  /-- The bucket cannot be listed. -/
  | listing
      (hlist : (d.store.list d.rules.keyPrefix w).outcome.error? (.list d.rules.keyPrefix) = some e)
      (hfiles : h = []) (hlog : log = []) (htold : told = none)
  /-- The files cannot be found. -/
  | walking (hlist : (d.store.list d.rules.keyPrefix w).outcome = .done (d.listed w))
      (hwalk : (d.source.walk d.rules.source d.rules.walkFilter).1.error? id = some e)
      (hfiles : h = []) (hlog : log = []) (htold : told = none)
  /-- Something goes wrong with the files of a group. -/
  | files (hlist : (d.store.list d.rules.keyPrefix w).outcome = .done (d.listed w))
      (hwalk : ∃ found, (d.source.walk d.rules.source d.rules.walkFilter).1 = .done found)
      (hfirst : h.failures.head? = some e) (hlog : log = []) (htold : told = none)
  /-- Some objects cannot be deleted. -/
  | deleting (hlist : (d.store.list d.rules.keyPrefix w).outcome = .done (d.listed w))
      (hwalk : ∃ found, (d.source.walk d.rules.source d.rules.walkFilter).1 = .done found)
      (hnone : h.failures = []) (hh : h.Handles d.source d.rules d.ordered)
      (hlog : log.Broken e) (htold : told = none)
  /-- The distributions cannot be told. -/
  | telling (hlist : (d.store.list d.rules.keyPrefix w).outcome = .done (d.listed w))
      (hwalk : ∃ found, (d.source.walk d.rules.source d.rules.walkFilter).1 = .done found)
      (hnone : h.failures = []) (hh : h.Handles d.source d.rules d.ordered)
      (hall : log.map Prod.fst = batchesOf maxBatch ((d.candidates w h).take d.rules.maxDelete))
      (hlog : ∀ x ∈ log, x.2 = .done ())
      (htold : ∃ cdn ∈ d.cdn, ∃ keys s, told = some keys ∧
        (cdn.invalidate keys s).outcome.error? .cdn = some e)

/-- What the steps of a deploy have come to: the files were handled up
to the state `r`, and from there the deploy came to its conclusion `r'`
with `result`. -/
structure Ended (w : σ) (h : History) (r : RunState σ) (log : Deletions)
    (told : Option (List Text)) (r' : RunState σ) (result : Except Error Tally) : Prop where
  /-- The history accounts for the state that the files leave. -/
  accounts : Accounts d.store d.rules (d.opening w) h r
  /-- The groups were handled one after another. -/
  turns : ∃ groups hs, groups <+: d.groupsOf d.kept ∧
    History.InTurn d.source d.rules groups hs ∧ h = hs.flatten
  /-- No file was handled twice, and nothing started after a failure. -/
  tidy : h.Tidy d.source d.rules
  /-- What came after the files. -/
  conclusion : d.Conclusion r log told r' result
  /-- Success means that nothing failed on the way. -/
  complete : ∀ t, result = .ok t →
    (d.store.list d.rules.keyPrefix w).outcome = .done (d.listed w) ∧
    (∃ found, (d.source.walk d.rules.source d.rules.walkFilter).1 = .done found) ∧
    h.failures = [] ∧ h.Handles d.source d.rules d.ordered
  /-- A failure stops the deploy. -/
  stopped : ∀ e, result = .error e → d.Stopped w h log told e

/-- Nothing happens to a file before the groups begin. -/
theorem Ended.stop {w : σ} {r : RunState σ} {e : Error} (hq : Quiet (d.opening w) r)
    (hstopped : d.Stopped w [] [] none e) : d.Ended w [] r [] none r (.error e) where
  accounts := accounts_of_quiet hq
  turns := ⟨[], [], List.nil_prefix, .nil, rfl⟩
  tidy := .nil d.source d.rules
  conclusion := .stop d r e
  complete := fun _ ht => nomatch ht
  stopped := fun _ he => by
    cases he
    exact hstopped

/-- Once the files are found their groups are handled, and if nothing
goes wrong with them the deploy is concluded. -/
theorem ended_of_groups (schedule : Group.Schedule σ) {w : σ} {r : RunState σ}
    (hq : Quiet (d.opening w) r)
    (hlisted : (d.store.list d.rules.keyPrefix w).outcome = .done (d.listed w))
    (hfound : ∃ found, (d.source.walk d.rules.source d.rules.walkFilter).1 = .done found) :
    let r₁ := d.processGroups schedule 1 (d.groupsOf d.kept) r
    ∃ (h : History) (log : Deletions) (told : Option (List Text)),
      (∀ e, r₁.error = some e → d.Ended w h r₁ log told r₁ (.error e)) ∧
      (r₁.error = none → d.Ended w h r₁ log told (d.conclude r₁).1 (d.conclude r₁).2) := by
  intro r₁
  have hr : r.error = none := by
    rw [hq.eq]
    rfl
  obtain ⟨hs, hgroups, ht, htidy⟩ := d.processGroups_history schedule 1 (d.groupsOf d.kept) hr
  have hacc : Accounts d.store d.rules (d.opening w) hs.flatten r₁ :=
    (accounts_of_quiet hq).trans hgroups
  have hturns : ∃ groups hs', groups <+: d.groupsOf d.kept ∧
      History.InTurn d.source d.rules groups hs' ∧ hs.flatten = hs'.flatten :=
    ⟨_, hs, List.prefix_refl _, ht, rfl⟩
  have herror := hacc.error
  rw [opening, Option.none_or] at herror
  cases he : r₁.error with
  | some e =>
    -- The error of the state is the first of the history.
    rw [he] at herror
    refine ⟨hs.flatten, [], none, fun e' he' => ?_, fun hnone => by cases hnone⟩
    cases he'
    refine ⟨hacc, hturns, htidy, .stop d r₁ e, (fun _ ht => by cases ht), fun e' he' => ?_⟩
    cases he'
    exact .files hlisted hfound herror.symm rfl rfl
  | none =>
    rw [he] at herror
    have hnone : History.failures hs.flatten = [] := List.head?_eq_none_iff.1 herror.symm
    obtain ⟨log, told, hc, hstopped⟩ := d.conclude_spec r₁
    refine ⟨hs.flatten, log, told, (fun e' he' => by cases he'), fun _ => ?_⟩
    refine ⟨hacc, hturns, htidy, hc, fun _ _ => ⟨hlisted, hfound, hnone, ht.handles⟩, fun e he => ?_⟩
    obtain ⟨htold, hbroken⟩ | ⟨hall, hdone, htold⟩ := hstopped e he
    · exact .deleting hlisted hfound hnone ht.handles hbroken htold
    · rw [hacc.inventory] at hall
      exact .telling hlisted hfound hnone ht.handles hall hdone htold

/-- Every deploy lists the bucket, has a history of its files, and
deletes and tells the distributions if nothing went wrong. -/
theorem steps_spec (schedule : Group.Schedule σ) (w : σ) :
    ∃ h r log told, d.Ended w h r log told (d.steps schedule { world := w }).1
      (d.steps schedule { world := w }).2 := by
  obtain ⟨hlist, heffects, hlisted, hunlisted⟩ := list_spec (d := d) { world := w }
  unfold steps
  generalize d.list { world := w } = after at hlist heffects hlisted hunlisted
  obtain ⟨r₁, listing⟩ := after
  dsimp only at hlist heffects hlisted hunlisted ⊢
  cases listing with
  | error e =>
    have hno := hunlisted e rfl
    have hv : d.listed w = .empty := by
      unfold listed
      split
      · rename_i v ho
        exact absurd ho (Attempt.ne_done_of_error? hno v)
      · rfl
    have hq : Quiet (d.opening w) r₁ := ⟨by rw [hlist, opening, hv], heffects⟩
    exact ⟨[], r₁, [], none, .stop d hq (.listing hno rfl rfl rfl)⟩
  | ok v =>
    dsimp only
    have ho := (hlisted v).1 rfl
    have hv : d.listed w = v := by rw [listed, ho]
    -- With the listing the state is the one from which the history is told.
    have hq₁ : Quiet (d.opening w) { r₁ with inventory := v } :=
      ⟨by rw [hlist, opening, hv], heffects⟩
    obtain ⟨hq₂, hwalk, hnowalk⟩ := walk_spec (d := d) { r₁ with inventory := v }
    generalize d.walk { r₁ with inventory := v } = after at hq₂ hwalk hnowalk
    obtain ⟨r₂, found⟩ := after
    dsimp only at hq₂ hwalk hnowalk ⊢
    cases found with
    | error e =>
      exact ⟨[], r₂, [], none,
        .stop d (hq₁.trans hq₂) (.walking (hv ▸ ho) (hnowalk e rfl) rfl rfl rfl)⟩
    | ok files =>
      obtain ⟨rfl, hfound⟩ := hwalk files rfl
      dsimp only
      have hq₃ : Quiet (d.opening w) (r₂.emit (.progress (.total d.kept.length))) :=
        (hq₁.trans hq₂).trans (.emit rfl r₂)
      obtain ⟨h, log, told, hstopped, hdone⟩ := d.ended_of_groups schedule hq₃ (hv ▸ ho) hfound
      split
      · rename_i e he
        exact ⟨h, _, log, told, hstopped e he⟩
      · rename_i he
        exact ⟨h, _, log, told, hdone he⟩

/-- What a deploy that succeeds with the counters `t` has done: all that
there was to do. -/
structure Completed (w : σ) (h : History) (log : Deletions) (told : Option (List Text))
    (report : Report σ) (t : Tally) : Prop where
  /-- The bucket was listed. -/
  listed : (d.store.list d.rules.keyPrefix w).outcome = .done (d.listed w)
  /-- The files were found. -/
  found : ∃ found, (d.source.walk d.rules.source d.rules.walkFilter).1 = .done found
  /-- Nothing went wrong with them. -/
  failures : h.failures = []
  /-- All of them were handled. -/
  handles : h.Handles d.source d.rules d.ordered
  /-- All batches were asked for. -/
  batches : log.map Prod.fst = batchesOf maxBatch ((d.candidates w h).take d.rules.maxDelete)
  /-- None of these requests failed. -/
  deleted : ∀ x ∈ log, x.2 = .done ()
  /-- The distributions were told, if there are any. -/
  announced : told.isSome = d.cdn.isSome
  /-- The counters are those of the report. -/
  tally : t = report.tally
  /-- The candidates that were left alone are counted. -/
  stale : t.stale = ((d.candidates w h).length - d.rules.maxDelete).toUInt64

/-- What a deploy from the state `w` did. `h` is the history of its
files, `log` are its requests to delete, and `told` are the keys that
the distributions were told of, if they were. -/
structure Course (w : σ) (h : History) (log : Deletions) (told : Option (List Text))
    (report : Report σ) : Prop where
  /-- The bucket is listed, then come the files, then the requests to
  delete, and the distributions are told last. -/
  effects : report.events.filter Event.isEffect
    = .call (.list d.rules.keyPrefix) :: (h.effects d.rules.acl
      ++ log.map (fun x => .call (.delete x.1))
      ++ told.toList.map fun keys => .call (.invalidate keys))
  /-- The planner decided by the listing. -/
  decided : h.decided = decisions d.rules.force (d.listed w) h.compared
  /-- The groups were handled one after another. -/
  turns : ∃ groups hs, groups <+: d.groupsOf d.kept ∧
    History.InTurn d.source d.rules groups hs ∧ h = hs.flatten
  /-- The first of the candidates were deleted, batch by batch. -/
  batches : log.map Prod.fst
    <+: batchesOf maxBatch ((d.candidates w h).take d.rules.maxDelete)
  /-- The distributions were told of what was changed. -/
  keys : ∀ keys, told = some keys →
    keys = Text.sort (log.deleted.reverse ++ (h.succeeded.map (·.file.key)).reverse)
  /-- Without distributions nobody is told. -/
  alone : d.cdn = none → told = none
  /-- The bucket was asked for the uploads that ended, then for the
  deletions, and then the distributions were told. -/
  world : ∃ s t, Asked (d.store.put · d.rules.acl) (d.store.list d.rules.keyPrefix w).state
      h.finished s ∧
    Asked d.store.delete s log t ∧ report.world = d.tell told t
  /-- What was done is counted. -/
  tally : ∃ stale, report.tally = {
    deleted := log.deleted.length.toUInt64
    stale
    uploaded := h.succeeded.length.toUInt64
    skipped := h.skipped.length.toUInt64 }
  /-- A deploy that succeeds did all that there was to do. -/
  complete : ∀ t, report.result = .ok t → d.Completed w h log told report t
  /-- A deploy that fails was stopped by something that was asked of
  others. -/
  stopped : ∀ e, report.result = .error e → d.Stopped w h log told e

/-- What a deploy did to others is what its steps did. -/
theorem filter_isEffect_run (schedule : Group.Schedule σ) (w : σ) :
    (d.run schedule w).events.filter Event.isEffect
      = (d.steps schedule { world := w }).1.effects := by
  unfold run
  dsimp only
  rw [List.filter_reverse]
  -- The last event is no effect.
  exact (Quiet.emit rfl _).effects

variable {d}

/-- The keys that the steps of a deploy leave as changed. -/
theorem Ended.changed {w : σ} {h : History} {r r' : RunState σ} {log : Deletions}
    {told : Option (List Text)} {result : Except Error Tally}
    (hended : d.Ended w h r log told r' result) :
    r'.changed = log.deleted.reverse ++ (h.succeeded.map (·.file.key)).reverse := by
  rw [hended.conclusion.changed, hended.accounts.changed]
  exact congrArg _ (List.append_nil _)

/-- What the steps of a deploy have come to is its course. -/
theorem Ended.course {schedule : Group.Schedule σ} {w : σ} {h : History} {r : RunState σ}
    {log : Deletions} {told : Option (List Text)}
    (hended : d.Ended w h r log told (d.steps schedule { world := w }).1
      (d.steps schedule { world := w }).2) : d.Course w h log told (d.run schedule w) := by
  have heffects := d.filter_isEffect_run schedule w
  unfold run at heffects ⊢
  generalize d.steps schedule { world := w } = ended at hended heffects
  obtain ⟨r', result⟩ := ended
  have hchanged := hended.changed
  obtain ⟨hacc, hturns, -, hc, hcomplete, hstopped⟩ := hended
  dsimp only at hc hchanged hcomplete hstopped heffects ⊢
  have hinventory : deleteCandidates d.rules r.inventory = d.candidates w h := by
    rw [hacc.inventory]
    rfl
  have hbatches := hc.batches
  rw [hinventory] at hbatches
  -- Nothing was counted when the files began.
  have htally : ∀ stale, (r.tally.addDeleted log.deleted.length.toUInt64).addStale stale = {
      deleted := log.deleted.length.toUInt64
      stale
      uploaded := h.succeeded.length.toUInt64
      skipped := h.skipped.length.toUInt64 } := fun stale => by
    rw [hacc.tally]
    simp [Tally.addDeleted, Tally.addStale, opening]
  refine ⟨?_, hacc.decided, hturns, hbatches, ?_, hc.alone, ?_, ?_, fun t ht => ?_, hstopped⟩
  · -- The first effect is the listing.
    have hfirst : (d.opening w).effects = [.call (.list d.rules.keyPrefix)] := rfl
    rw [heffects, hc.effects, hacc.effects, hfirst, List.append_assoc, List.append_assoc,
      List.append_assoc]
    rfl
  · intro keys hk
    rw [hc.keys keys hk, hchanged]
    rfl
  · obtain ⟨t, hdeleted, hw⟩ := hc.world
    exact ⟨r.world, t, hacc.world, hdeleted, hw⟩
  · obtain ⟨stale, hstale⟩ := hc.tally
    exact ⟨stale, by rw [hstale, htally]⟩
  · obtain ⟨hlisted, hfound, hfailures, hh⟩ := hcomplete t ht
    obtain ⟨hstale, hsame, hall, hdone, htold⟩ := hc.complete t ht
    rw [hinventory] at hall hstale
    refine ⟨hlisted, hfound, hfailures, hh, hall, hdone, htold, hsame, ?_⟩
    rw [hstale, htally]

variable (d)

/-- Every deploy has a course. -/
theorem run_course (schedule : Group.Schedule σ) (w : σ) :
    ∃ h log told, d.Course w h log told (d.run schedule w) := by
  obtain ⟨h, r, log, told, hended⟩ := d.steps_spec schedule w
  exact ⟨h, log, told, hended.course⟩

/-! ### The calls in the trace -/

/-- What picks only effects picks the same from the whole trace. -/
theorem filterMap_filter_isEffect {α : Type} {pick : Event → Option α}
    (hpick : ∀ e, e.isEffect = false → pick e = none) (events : List Event) :
    (events.filter Event.isEffect).filterMap pick = events.filterMap pick := by
  rw [List.filterMap_filter]
  refine List.filterMap_congr fun e _ => ?_
  cases he : e.isEffect with
  | true => rfl
  | false => exact (hpick e he).symm

/-- What is picked from the effects of a history. -/
theorem filterMap_effects {α : Type} (pick : Event → Option α) (acl : Option Text) (h : History) :
    (h.effects acl).filterMap pick = h.filterMap fun x => (x.effect? acl).bind pick :=
  List.filterMap_filterMap

namespace Course

variable {d} {w : σ} {h : History} {log : Deletions} {told : Option (List Text)}
  {report : Report σ}

/-- The files were handled in the order of their groups. -/
theorem handled (hc : d.Course w h log told report) :
    ∃ files, files <+: d.ordered ∧ h.Handles d.source d.rules files := by
  obtain ⟨groups, hs, ⟨rest, hgroups⟩, ht, rfl⟩ := hc.turns
  refine ⟨groups.flatten, ⟨rest.flatten, ?_⟩, ht.handles⟩
  rw [← List.flatten_append, hgroups]
  rfl

/-- What is picked from the trace of a deploy. -/
theorem filterMap_events (hc : d.Course w h log told report) {α : Type} {pick : Event → Option α}
    (hpick : ∀ e, e.isEffect = false → pick e = none)
    (hlist : pick (.call (.list d.rules.keyPrefix)) = none) :
    report.events.filterMap pick = (h.filterMap fun x => (x.effect? d.rules.acl).bind pick)
      ++ log.filterMap (fun x => pick (.call (.delete x.1)))
      ++ told.toList.filterMap fun keys => pick (.call (.invalidate keys)) := by
  rw [← filterMap_filter_isEffect hpick, hc.effects, List.filterMap_cons_none hlist,
    List.filterMap_append, List.filterMap_append, filterMap_effects, List.filterMap_map,
    List.filterMap_map]
  rfl

/-- What is picked from the trace and concerns only the files. -/
theorem filterMap_files (hc : d.Course w h log told report) {α : Type} {pick : Event → Option α}
    (hpick : ∀ e, e.isEffect = false → pick e = none)
    (hlist : pick (.call (.list d.rules.keyPrefix)) = none)
    (hdelete : ∀ keys, pick (.call (.delete keys)) = none)
    (htell : ∀ keys, pick (.call (.invalidate keys)) = none) :
    report.events.filterMap pick = h.filterMap fun x => (x.effect? d.rules.acl).bind pick := by
  have hlog : (log.filterMap fun x => pick (.call (.delete x.1))) = [] :=
    List.filterMap_eq_nil_iff.2 fun x _ => hdelete x.1
  have htold : (told.toList.filterMap fun keys => pick (.call (.invalidate keys))) = [] :=
    List.filterMap_eq_nil_iff.2 fun keys _ => htell keys
  rw [hc.filterMap_events hpick hlist, hlog, htold, List.append_nil, List.append_nil]

/-- The files that a deploy read. -/
theorem reads (hc : d.Course w h log told report) :
    report.events.filterMap Event.read? = h.reads := by
  rw [hc.filterMap_files (fun e he => by cases e <;> first | rfl | cases he) rfl (fun _ => rfl)
    fun _ => rfl]
  refine List.filterMap_congr fun x _ => ?_
  cases x <;> rfl

/-- The uploads that a deploy started. -/
theorem puts (hc : d.Course w h log told report) :
    report.events.filterMap Event.put? = h.started.map fun u => (u, d.rules.acl) := by
  rw [hc.filterMap_files (fun e he => by cases e <;> first | rfl | cases he) rfl (fun _ => rfl)
    fun _ => rfl, History.started, List.map_filterMap]
  refine List.filterMap_congr fun x _ => ?_
  cases x <;> rfl

/-- The requests to delete. -/
theorem deletions (hc : d.Course w h log told report) :
    report.events.filterMap Event.deletion? = log.map Prod.fst := by
  rw [hc.filterMap_events (fun e he => by cases e <;> first | rfl | cases he) rfl]
  have hfiles : (h.filterMap fun x => (x.effect? d.rules.acl).bind Event.deletion?) = [] := by
    refine List.filterMap_eq_nil_iff.2 fun x _ => ?_
    cases x <;> rfl
  show _ ++ log.filterMap (fun x => some x.1) ++ told.toList.filterMap (fun _ => none) = _
  rw [hfiles, List.filterMap_eq_map']
  simp

/-- What the distributions were told. -/
theorem invalidations (hc : d.Course w h log told report) :
    report.events.filterMap Event.invalidation? = told.toList := by
  rw [hc.filterMap_events (fun e he => by cases e <;> first | rfl | cases he) rfl]
  have hfiles : (h.filterMap fun x => (x.effect? d.rules.acl).bind Event.invalidation?) = [] := by
    refine List.filterMap_eq_nil_iff.2 fun x _ => ?_
    cases x <;> rfl
  show _ ++ log.filterMap (fun _ => none) ++ told.toList.filterMap some = _
  rw [hfiles]
  simp

end Course

end Deployment

end SiteSync
