import SiteSync.Proofs.Deploy.Deletion

/-!
# `SiteSync.Proofs.Deploy.Batching`: a deletion batch by batch

A deletion cuts its keys in two ways: the limit of the deploy bounds how
many there are at all, and `maxBatch` how many go into one request. The
batch with number `i` begins at `maxBatch * i`, so a deletion whose
request with number `n` fails has deleted the first `maxBatch * n` keys,
whatever the limit is.

- `getElem?_batchesOf`: which batch has which number, and which numbers
  have none. Everything else about the batches follows from it.
- `flatten_map_batchAt`: the first `k` batches hold the first `n * k` keys.
- `Deletions.deleted_of_batched`: what is deleted when the first requests
  succeed.
- `RunState.deletes_in_batches`: the requests, the result, the counters
  and the changed keys of a deletion, for every store.
-/

set_option autoImplicit false

namespace SiteSync

/-! ### Batches by number -/

/-- The batch with number `i` of some keys, in batches of `n`. -/
def batchAt (n : Nat) (keys : List Text) (i : Nat) : List Text := (keys.drop (n * i)).take n

/-- A batch is full, or has what is left. -/
theorem length_batchAt (n : Nat) (keys : List Text) (i : Nat) :
    (batchAt n keys i).length = min n (keys.length - n * i) := by
  rw [batchAt, List.length_take, List.length_drop]

/-- A batch of what follows the first batch is the next one of all. -/
theorem batchAt_drop (n : Nat) (keys : List Text) (i : Nat) :
    batchAt n (keys.drop n) i = batchAt n keys (i + 1) := by
  rw [batchAt, batchAt, List.drop_drop, Nat.mul_succ, Nat.add_comm]

/-- There is a batch for every number whose batch begins before the end of
the keys. The induction is on the number. -/
theorem getElem?_batchesOf {n : Nat} (hn : 0 < n) (keys : List Text) (i : Nat) :
    (batchesOf n keys)[i]? = if n * i < keys.length then some (batchAt n keys i) else none := by
  induction i generalizing keys with
  | zero =>
    by_cases hk : keys = []
    · rw [hk, batchesOf_nil]
      rfl
    · rw [batchesOf_of_ne_nil hn hk, Nat.mul_zero, if_pos (List.length_pos_iff.2 hk)]
      rfl
  | succ i ih =>
    by_cases hk : keys = []
    · rw [hk, batchesOf_nil]
      rfl
    · have hlt : n * i < (keys.drop n).length ↔ n * (i + 1) < keys.length := by
        rw [List.length_drop, Nat.mul_succ]
        omega
      rw [batchesOf_of_ne_nil hn hk, List.getElem?_cons_succ, ih, batchAt_drop]
      simp only [hlt]

/-- There are as many batches as have a key to begin with. -/
theorem lt_length_batchesOf {n : Nat} (hn : 0 < n) (keys : List Text) (i : Nat) :
    i < (batchesOf n keys).length ↔ n * i < keys.length := by
  have hget := getElem?_batchesOf hn keys i
  split at hget
  · rename_i hlt
    obtain ⟨hi, -⟩ := List.getElem?_eq_some_iff.1 hget
    exact ⟨fun _ => hlt, fun _ => hi⟩
  · have hi := List.getElem?_eq_none_iff.1 hget
    omega

/-- The first batches are the batches with the first numbers. -/
theorem batches_eq_map_batchAt {n : Nat} (hn : 0 < n) {keys : List Text}
    {batches : List (List Text)} (h : batches <+: batchesOf n keys) :
    batches = (List.range batches.length).map (batchAt n keys) := by
  refine List.ext_getElem? fun i => ?_
  by_cases hi : i < batches.length
  · have hlt : n * i < keys.length :=
      (lt_length_batchesOf hn keys i).1 (Nat.lt_of_lt_of_le hi h.length_le)
    obtain ⟨rest, hrest⟩ := h
    rw [List.getElem?_map, List.getElem?_range hi, ← List.getElem?_append_left hi, hrest,
      getElem?_batchesOf hn, if_pos hlt]
    rfl
  · rw [List.getElem?_eq_none (by omega), List.getElem?_eq_none (by simpa using hi)]

/-- The first `k` batches hold the first `n * k` keys. -/
theorem flatten_map_batchAt (n : Nat) (keys : List Text) (k : Nat) :
    ((List.range k).map (batchAt n keys)).flatten = keys.take (n * k) := by
  induction k with
  | zero => rfl
  | succ k ih =>
    rw [List.range_succ, List.map_append, List.flatten_append, ih, Nat.mul_succ, List.take_add]
    simp [batchAt]

/-! ### What the requests of a deletion have deleted -/

namespace Deletions

variable {log : Deletions} {keys : List Text}

/-- Every request is for a batch that begins before the end of the keys. -/
theorem begins_in_keys (h : log.map Prod.fst <+: batchesOf maxBatch keys) {i : Nat}
    (hi : i < log.length) : maxBatch * i < keys.length := by
  have hlen := h.length_le
  rw [List.length_map] at hlen
  exact (lt_length_batchesOf maxBatch_pos keys i).1 (Nat.lt_of_lt_of_le hi hlen)

/-- The first requests, if all of them succeed, delete the first keys. -/
theorem deleted_of_batched (h : log.map Prod.fst <+: batchesOf maxBatch keys)
    (hdone : ∀ x ∈ log, x.2 = .done ()) : log.deleted = keys.take (maxBatch * log.length) := by
  rw [deleted_eq_flatten hdone, batches_eq_map_batchAt maxBatch_pos h, List.length_map,
    flatten_map_batchAt]

/-- If the requests for all batches succeed then all keys are deleted. -/
theorem deleted_of_all (h : log.map Prod.fst = batchesOf maxBatch keys)
    (hdone : ∀ x ∈ log, x.2 = .done ()) :
    keys.length ≤ maxBatch * log.length ∧ log.deleted = keys := by
  constructor
  · -- Otherwise one more batch would begin before the end.
    have hend := lt_length_batchesOf maxBatch_pos keys log.length
    rw [← h, List.length_map] at hend
    omega
  · rw [deleted_eq_flatten hdone, h, flatten_batchesOf maxBatch_pos]

/-- Requests that are broken off end with the first that does not succeed,
and what is deleted is what comes before the batch of this one. -/
theorem Broken.deleted {e : Error} (hb : log.Broken e)
    (h : log.map Prod.fst <+: batchesOf maxBatch keys) :
    ∃ n outcome, log.length = n + 1 ∧ log[n]? = some (batchAt maxBatch keys n, outcome) ∧
      (∀ x ∈ log.take n, x.2 = .done ()) ∧
      outcome.error? (.delete (batchAt maxBatch keys n).length) = some e ∧
      log.deleted = keys.take (maxBatch * n) := by
  obtain ⟨before, last, outcome, rfl, hbefore, he⟩ := hb
  -- The last request is for the batch whose number is how many came before it.
  have hlast : last = batchAt maxBatch keys before.length := by
    have hget := congrArg (·[before.length]?) (batches_eq_map_batchAt maxBatch_pos h)
    simpa using hget
  subst hlast
  refine ⟨before.length, outcome, by simp, by simp, by simpa using hbefore, he, ?_⟩
  have hprefix : before.map Prod.fst <+: batchesOf maxBatch keys := by
    refine .trans ?_ h
    rw [List.map_append]
    exact List.prefix_append _ _
  rw [deleted_append, deleted_of_batched hprefix hbefore, deleted_cons,
    if_neg (Attempt.ne_done_of_error? he ())]
  exact List.append_nil _

end Deletions

/-! ### A deletion -/

namespace RunState

variable {σ : Type}

/-- If the first keys are what was deleted then they are counted and
changed. -/
theorem Deletes.counts_first {st : Store σ} {r r' : RunState σ} {log : Deletions}
    (h : Deletes st r log r') {keys : List Text} {count : Nat} (hcount : count ≤ keys.length)
    (hdeleted : log.deleted = keys.take count) :
    r'.tally = r.tally.addDeleted count.toUInt64 ∧
      r'.changed = r.changed.trackAll (keys.take count) := by
  constructor
  · rw [h.tally, hdeleted, List.length_take, Nat.min_eq_left hcount]
  · rw [h.changed, hdeleted]
    rfl

/-- A deletion asks for the batches of the first `limit` keys, one after
another, up to the first request that does not succeed.

If every request succeeds then the result says how many keys were deleted
and how many were left, the counters grow by these two numbers, and the
changed keys by the keys that were deleted. If request number `n` does not
succeed then the result is an error with the size of that batch, the first
`maxBatch * n` keys are counted and changed, and nothing is counted as
stale. What was counted and changed before the deletion stays, since `r` is
any state of a deploy. -/
theorem deletes_in_batches (st : Store σ) (keys : List Text) (maxDelete : Nat)
    (r : RunState σ) :
    let limit := min keys.length maxDelete
    let batch := batchAt maxBatch (keys.take limit)
    let ended := r.deleteKeys st keys maxDelete
    ∃ log : Deletions,
      Asked st.delete r.world log ended.1.world ∧
      ended.1.effects = r.effects ++ log.map (fun x => .call (.delete x.1)) ∧
      ended.1.inventory = r.inventory ∧
      log.map Prod.fst = (List.range log.length).map batch ∧
      (∀ i < log.length, maxBatch * i < limit ∧
        (batch i).length = min maxBatch (limit - maxBatch * i)) ∧
      ((limit ≤ maxBatch * log.length ∧ (∀ x ∈ log, x.2 = .done ()) ∧
          ended.2 = .ok ⟨limit, keys.length - limit⟩ ∧
          ended.1.tally = (r.tally.addDeleted limit.toUInt64).addStale
            (keys.length - limit).toUInt64 ∧
          ended.1.changed = r.changed.trackAll (keys.take limit)) ∨
        ∃ n outcome, log.length = n + 1 ∧ log[n]? = some (batch n, outcome) ∧
          (∀ x ∈ log.take n, x.2 = .done ()) ∧
          ((∃ cause, outcome = .failed cause ∧
              ended.2 = .error (.delete (batch n).length cause)) ∨
            (outcome = .died ∧ ended.2 = .error .task)) ∧
          ended.1.tally = r.tally.addDeleted (maxBatch * n).toUInt64 ∧
          ended.1.changed = r.changed.trackAll (keys.take (maxBatch * n))) := by
  intro limit batch ended
  have hlimit : (keys.take limit).length = limit := by
    rw [List.length_take]
    omega
  -- The limit is what is taken, also if there are fewer keys than may be deleted.
  have htake : keys.take maxDelete = keys.take limit := by
    rw [List.take_eq_take_min, Nat.min_comm]
  obtain ⟨log, r', hlog, hprefix, hend⟩ := deleteKeys_spec st keys maxDelete r
  rw [htake] at hprefix hend
  have hbatches : log.map Prod.fst = (List.range log.length).map batch := by
    have hmap := batches_eq_map_batchAt maxBatch_pos hprefix
    rwa [List.length_map] at hmap
  have hsizes : ∀ i < log.length, maxBatch * i < limit ∧
      (batch i).length = min maxBatch (limit - maxBatch * i) := by
    intro i hi
    have hbegins := Deletions.begins_in_keys hprefix hi
    rw [hlimit] at hbegins
    refine ⟨hbegins, ?_⟩
    show (batchAt maxBatch (keys.take limit) i).length = _
    rw [length_batchAt, hlimit]
  have hstale : keys.length - maxDelete = keys.length - limit := by omega
  rcases hend with ⟨e, heq, hbroken⟩ | ⟨heq, hall, hdone⟩
  · -- A request does not succeed, and nothing happens after it.
    have hended : ended = (r', .error e) := heq
    obtain ⟨n, outcome, hlength, hget, hbefore, he, hdeleted⟩ := hbroken.deleted hprefix
    have hn : maxBatch * n < limit := (hsizes n (by omega)).1
    rw [List.take_take, Nat.min_eq_left (Nat.le_of_lt hn)] at hdeleted
    obtain ⟨htally, hchanged⟩ := hlog.counts_first (by omega) hdeleted
    rw [hended]
    refine ⟨log, hlog.world, hlog.effects, hlog.inventory, hbatches, hsizes, .inr
      ⟨n, outcome, hlength, hget, hbefore, ?_, htally, hchanged⟩⟩
    rcases Attempt.error?_eq_some_iff.1 he with ⟨cause, ho, rfl⟩ | ⟨ho, rfl⟩
    · exact .inl ⟨cause, ho, rfl⟩
    · exact .inr ⟨ho, rfl⟩
  · -- Every request succeeds, and the keys that are left are counted.
    rw [hstale] at heq
    have hended : ended = (r'.countStale (keys.length - limit) maxDelete, _) := heq
    obtain ⟨hreached, hdeleted⟩ := Deletions.deleted_of_all hall hdone
    rw [hlimit] at hreached
    obtain ⟨htally, hchanged⟩ := hlog.counts_first (Nat.min_le_left _ _) hdeleted
    obtain ⟨hq, heffects⟩ := quiet_countStale (keys.length - limit) maxDelete r'
    rw [hended]
    refine ⟨log, ?_, heffects.trans hlog.effects, ?_, hbatches, hsizes,
      .inl ⟨hreached, hdone, rfl, ?_, ?_⟩⟩
    · rw [hq]
      exact hlog.world
    · rw [hq]
      exact hlog.inventory
    · rw [hq]
      exact congrArg (Tally.addStale _) htally
    · rw [hq]
      exact hchanged

end RunState

end SiteSync
