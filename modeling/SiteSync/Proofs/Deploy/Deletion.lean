import SiteSync.Deploy.Deletion
import SiteSync.Proofs.Deploy.Effects

/-!
# `SiteSync.Proofs.Deploy.Deletion`: what a deletion asks for

Keys are deleted in batches, and the first request that fails is the
last. `RunState.Deletes` says what some requests to delete make of the
state of a deploy, and `RunState.deleteKeys_spec` that the requests of a
deletion are the batches of its first keys, up to the first failure.

- `flatten_batchesOf`: the batches hold the keys, each as often as it was
  given and in the same order.
- `RunState.deleteKeys_spec`: what is asked, deleted and counted.
-/

set_option autoImplicit false

namespace SiteSync

/-! ### Batches -/

/-- Of no keys there are no batches. -/
theorem batchesOf_nil (n : Nat) : batchesOf n [] = [] := by
  rw [batchesOf, dif_pos (.inl rfl)]

/-- Otherwise the first batch is full, or has all keys that are left. -/
theorem batchesOf_of_ne_nil {n : Nat} {keys : List Text} (hn : 0 < n) (hk : keys ≠ []) :
    batchesOf n keys = keys.take n :: batchesOf n (keys.drop n) := by
  rw [batchesOf, dif_neg]
  rintro (h | h)
  · exact hk h
  · omega

/-- Every key is in a batch, in the order of the keys. -/
theorem flatten_batchesOf {n : Nat} (hn : 0 < n) (keys : List Text) :
    (batchesOf n keys).flatten = keys := by
  by_cases hk : keys = []
  · rw [hk, batchesOf_nil]
    rfl
  · have hlt : (keys.drop n).length < keys.length := by
      have := List.length_pos_iff.2 hk
      rw [List.length_drop]
      omega
    rw [batchesOf_of_ne_nil hn hk, List.flatten_cons, flatten_batchesOf hn (keys.drop n),
      List.take_append_drop]
termination_by keys.length

/-- A batch has room for a key, so cutting keys into batches comes to an
end. -/
theorem maxBatch_pos : 0 < maxBatch := by decide

/-! ### Requests to delete -/

/-- Some requests to delete, and how each ended. -/
abbrev Deletions := List (List Text × Attempt Text Unit)

namespace Deletions

/-- The keys of the requests that succeeded. -/
def deleted (log : Deletions) : List Text :=
  log.flatMap fun x => if x.2 = .done () then x.1 else []

/-- What two logs deleted is what the first did and then what the second
did. -/
@[simp] theorem deleted_append (log log' : Deletions) :
    deleted (log ++ log') = log.deleted ++ log'.deleted :=
  List.flatMap_append

/-- A request deletes its keys if it succeeds, and none otherwise. -/
@[simp] theorem deleted_cons (x : List Text × Attempt Text Unit) (log : Deletions) :
    deleted (x :: log) = (if x.2 = .done () then x.1 else []) ++ log.deleted := rfl

/-- Some requests to delete that the last of them breaks off with an
error: the others succeeded. -/
def Broken (log : Deletions) (e : Error) : Prop :=
  ∃ (before : Deletions) (keys : List Text) (outcome : Attempt Text Unit),
    log = before ++ [(keys, outcome)] ∧ (∀ x ∈ before, x.2 = .done ()) ∧
    outcome.error? (.delete keys.length) = some e

/-- A request that succeeds comes before those that are broken off. -/
theorem Broken.cons {log : Deletions} {e : Error} (h : log.Broken e)
    {x : List Text × Attempt Text Unit} (hx : x.2 = .done ()) : Broken (x :: log) e := by
  obtain ⟨before, keys, outcome, rfl, hbefore, he⟩ := h
  exact ⟨x :: before, keys, outcome, rfl, List.forall_mem_cons.2 ⟨hx, hbefore⟩, he⟩

/-- Of requests that are broken off one did not succeed. -/
theorem Broken.exists_ne_done {log : Deletions} {e : Error} (h : log.Broken e) :
    ∃ x ∈ log, x.2 ≠ .done () := by
  obtain ⟨before, keys, outcome, rfl, -, he⟩ := h
  exact ⟨_, List.mem_append_right _ (List.mem_singleton_self _), Attempt.ne_done_of_error? he ()⟩

/-- If all requests succeed then all their keys are deleted. -/
theorem deleted_eq_flatten {log : Deletions} (h : ∀ x ∈ log, x.2 = .done ()) :
    log.deleted = (log.map Prod.fst).flatten := by
  induction log with
  | nil => rfl
  | cons x log ih =>
    rw [deleted_cons, if_pos (h x (by simp)), ih fun y hy => h y (by simp [hy])]
    rfl

end Deletions

namespace RunState

variable {σ : Type}

/-- What the requests `log` to delete make of the state of a deploy. -/
structure Deletes (st : Store σ) (r : RunState σ) (log : Deletions) (r' : RunState σ) : Prop where
  /-- The bucket was asked, request by request. -/
  world : Asked st.delete r.world log r'.world
  /-- Nobody was asked for anything else. -/
  effects : r'.effects = r.effects ++ log.map fun x => .call (.delete x.1)
  /-- The inventory stays as it is. -/
  inventory : r'.inventory = r.inventory
  /-- What was deleted is changed. -/
  changed : r'.changed = log.deleted.reverse ++ r.changed
  /-- What was deleted is counted. -/
  tally : r'.tally = r.tally.addDeleted log.deleted.length.toUInt64

namespace Deletes

variable {st : Store σ} {r r' r'' : RunState σ}

/-- Without a request nothing is deleted. -/
theorem refl (st : Store σ) (r : RunState σ) : Deletes st r [] r where
  world := .nil
  effects := (List.append_nil _).symm
  inventory := rfl
  changed := rfl
  tally := by simp [Deletions.deleted, Tally.addDeleted]

/-- Requests after requests are one log. -/
theorem trans {log log' : Deletions} (h : Deletes st r log r') (h' : Deletes st r' log' r'') :
    Deletes st r (log ++ log') r'' where
  world := h.world.trans h'.world
  effects := by rw [h'.effects, h.effects, List.map_append, List.append_assoc]
  inventory := h'.inventory.trans h.inventory
  changed := by
    rw [h'.changed, h.changed, Deletions.deleted_append, List.reverse_append, List.append_assoc]
  tally := by
    rw [h'.tally, h.tally, Deletions.deleted_append, List.length_append]
    simp [Tally.addDeleted, UInt64.add_assoc]

end Deletes

/-- Saying which keys will be deleted is quiet. -/
theorem quiet_announceBatch (keys : List Text) (r : RunState σ) :
    r.Quiet (r.announceBatch keys) := by
  unfold announceBatch
  induction keys generalizing r with
  | nil => exact .refl r
  | cons key keys ih => exact (Quiet.say _ _ _ r).trans (ih _)

/-- A batch is announced, the bucket is asked, and it answers. -/
def askBatch (st : Store σ) (keys : List Text) (r : RunState σ) : RunState σ :=
  ((r.announceBatch keys).emit (.call (.delete keys))).absorb (st.delete keys r.world)

/-- Asking for a batch changes the state of the bucket and the trace, and
adds nothing but the call to the effects. -/
theorem askBatch_spec (st : Store σ) (keys : List Text) (r : RunState σ) :
    r.askBatch st keys = { r with
        world := (st.delete keys r.world).state, trace := (r.askBatch st keys).trace } ∧
      (r.askBatch st keys).effects = r.effects ++ [.call (.delete keys)] := by
  have hq := quiet_announceBatch keys r
  refine ⟨?_, ?_⟩
  · rw [askBatch, absorb_eq, emit, hq.eq]
  · rw [askBatch, effects_absorb, effects_emit, hq.effects]
    rfl

/-- A batch is asked for, and counted if that succeeds. -/
theorem deleteBatch_eq (st : Store σ) (keys : List Text) (r : RunState σ) :
    r.deleteBatch st keys = match (st.delete keys r.world).outcome with
      | .done () => ((r.askBatch st keys).countBatch keys, .ok ())
      | .failed cause => (r.askBatch st keys, .error (.delete keys.length cause))
      | .died => (r.askBatch st keys, .error .task) := by
  have hworld : ((r.announceBatch keys).emit (.call (.delete keys))).world = r.world := by
    rw [emit, (quiet_announceBatch keys r).eq]
  unfold deleteBatch askBatch
  dsimp only
  generalize ((r.announceBatch keys).emit (.call (.delete keys))).world = w at hworld
  subst hworld
  rfl

/-- A request that fails deletes and counts nothing. -/
theorem deletes_of_ne_done {st : Store σ} {keys : List Text} {r : RunState σ}
    {outcome : Attempt Text Unit} (ho : (st.delete keys r.world).outcome = outcome)
    (hne : outcome ≠ .done ()) : Deletes st r [(keys, outcome)] (r.askBatch st keys) := by
  obtain ⟨heq, heffects⟩ := askBatch_spec st keys r
  have hnone : Deletions.deleted [(keys, outcome)] = [] := by simp [Deletions.deleted, hne]
  refine ⟨?_, heffects, ?_, ?_, ?_⟩
  · rw [heq, ← ho]
    exact .single keys r.world
  · rw [heq]
  · rw [heq, hnone]
    rfl
  · rw [heq, hnone]
    simp [Tally.addDeleted]

/-- A request that succeeds deletes and counts its keys. -/
theorem deletes_of_done {st : Store σ} {keys : List Text} {r : RunState σ}
    (ho : (st.delete keys r.world).outcome = .done ()) :
    Deletes st r [(keys, .done ())] ((r.askBatch st keys).countBatch keys) := by
  obtain ⟨heq, heffects⟩ := askBatch_spec st keys r
  have hall : Deletions.deleted [(keys, .done ())] = keys := by simp [Deletions.deleted]
  refine ⟨?_, heffects, ?_, ?_, ?_⟩
  · rw [countBatch, heq, ← ho]
    exact .single keys r.world
  · rw [countBatch, heq]
  · rw [countBatch, heq, hall]
    rfl
  · rw [countBatch, heq, hall]

/-- A request asks for its batch, and counts it if it succeeds. -/
theorem deleteBatch_spec (st : Store σ) (keys : List Text) (r : RunState σ) :
    ∃ outcome, Deletes st r [(keys, outcome)] (r.deleteBatch st keys).1 ∧
      ((r.deleteBatch st keys).2 = .ok () → outcome = .done ()) ∧
      ∀ e, (r.deleteBatch st keys).2 = .error e →
        outcome.error? (.delete keys.length) = some e := by
  rw [deleteBatch_eq]
  cases ho : (st.delete keys r.world).outcome with
  | done _ => exact ⟨.done (), deletes_of_done ho, by simp⟩
  | failed cause => exact ⟨.failed cause, deletes_of_ne_done ho (by simp), by simp [Attempt.error?]⟩
  | died => exact ⟨.died, deletes_of_ne_done ho (by simp), by simp [Attempt.error?]⟩

/-- The requests are the batches, up to the first that fails. -/
theorem deleteBatches_spec (st : Store σ) (batches : List (List Text)) (r : RunState σ) :
    ∃ log : Deletions, Deletes st r log (r.deleteBatches st batches).1 ∧
      log.map Prod.fst <+: batches ∧
      ((r.deleteBatches st batches).2 = .ok () →
        log.map Prod.fst = batches ∧ ∀ x ∈ log, x.2 = .done ()) ∧
      ∀ e, (r.deleteBatches st batches).2 = .error e → log.Broken e := by
  induction batches generalizing r with
  | nil =>
    exact ⟨[], .refl st r, List.nil_prefix, fun _ => ⟨rfl, fun _ hx => nomatch hx⟩,
      fun _ he => nomatch he⟩
  | cons b bs ih =>
    -- Both sides go by how the first batch ends.
    obtain ⟨outcome, hb, hdone, hfailed⟩ := deleteBatch_spec st b r
    unfold deleteBatches
    split
    · -- The batch is deleted, and the others follow.
      rename_i r' heq
      rw [heq] at hb hdone
      obtain ⟨log, hlog, hprefix, hok, herror⟩ := ih r'
      refine ⟨_ :: log, hb.trans hlog, ?_, fun h => ⟨?_, fun x hx => ?_⟩, fun e he => ?_⟩
      · rw [List.map_cons]
        exact List.cons_prefix_cons.2 ⟨rfl, hprefix⟩
      · rw [List.map_cons, (hok h).1]
      · rcases List.mem_cons.1 hx with rfl | hx
        · exact hdone rfl
        · exact (hok h).2 x hx
      · exact (herror e he).cons (hdone rfl)
    · -- The batch is not deleted, and is the last.
      rename_i r' e heq
      rw [heq] at hb hfailed
      refine ⟨_, hb, List.cons_prefix_cons.2 ⟨rfl, List.nil_prefix⟩, (fun h => nomatch h),
        fun e' he => ?_⟩
      exact ⟨[], b, outcome, rfl, (fun _ hx => nomatch hx), hfailed e' he⟩

/-- What is left over is counted as stale. -/
theorem quiet_countStale (stale maxDelete : Nat) (r : RunState σ) :
    RunState.Quiet { r with tally := r.tally.addStale stale.toUInt64 }
      (r.countStale stale maxDelete) := by
  unfold countStale
  split
  · -- Nothing is counted, which is the same as counting zero.
    rename_i h
    refine ⟨?_, rfl⟩
    rw [h]
    simp [Tally.addStale]
  · exact ⟨rfl, (effects_say _ _ _ _)⟩

/-- A deletion asks for the first keys, batch by batch. If no request
fails then it counts the other keys as stale, and says how many there are
of both. -/
theorem deleteKeys_spec (st : Store σ) (keys : List Text) (maxDelete : Nat) (r : RunState σ) :
    ∃ (log : Deletions) (r' : RunState σ), Deletes st r log r' ∧
      log.map Prod.fst <+: batchesOf maxBatch (keys.take maxDelete) ∧
      ((∃ e, r.deleteKeys st keys maxDelete = (r', .error e) ∧ log.Broken e) ∨
        r.deleteKeys st keys maxDelete
            = (r'.countStale (keys.length - maxDelete) maxDelete,
                .ok ⟨min keys.length maxDelete, keys.length - maxDelete⟩) ∧
          log.map Prod.fst = batchesOf maxBatch (keys.take maxDelete) ∧
          ∀ x ∈ log, x.2 = .done ()) := by
  -- The limit is cut to the number of keys, which makes no difference to what is taken.
  have htake : keys.take (min keys.length maxDelete) = keys.take maxDelete := by
    rw [Nat.min_comm, ← List.take_take, List.take_length]
  obtain ⟨log, hlog, hprefix, hok, herror⟩ :=
    deleteBatches_spec st (batchesOf maxBatch (keys.take maxDelete)) r
  have hstale : keys.length - min keys.length maxDelete = keys.length - maxDelete := by omega
  unfold deleteKeys
  dsimp only
  rw [htake, hstale]
  generalize r.deleteBatches st (batchesOf maxBatch (keys.take maxDelete)) = ended
    at hlog hok herror
  obtain ⟨r', result⟩ := ended
  refine ⟨log, r', hlog, hprefix, ?_⟩
  cases result with
  | error e => exact .inl ⟨e, rfl, herror e rfl⟩
  | ok _ => exact .inr ⟨rfl, hok rfl⟩

end RunState

end SiteSync
