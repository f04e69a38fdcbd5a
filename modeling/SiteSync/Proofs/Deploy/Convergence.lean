import Mathlib.Data.List.Nodup
import SiteSync.Proofs.Cloud.Contracts
import SiteSync.Proofs.Deploy.Reconciliation
import SiteSync.Proofs.Files.Prune

/-!
# `SiteSync.Proofs.Deploy.Convergence`: deploying again and again

Once a deploy has succeeded, the bucket shows every file of the site as
the next deploy compares it. So from the second deploy on nothing is
uploaded, each deploy deletes the next slice of the objects without a
file, and once these are used up a deploy changes nothing at all.

- `Deployment.Settled`: the bucket shows every file as it is.
- `Course.settled`, `Reconciled.obsolete_eq_drop`: what one deploy leaves
  for the next.
- `Deployment.idle_of_exhausted`: once these are used up.
- `Deployment.converges`: any number of deploys, one after another.
- `Deployment.idle_in_cloud`: for a directory of a file system and a
  bucket of the cloud, whose contracts are proved.
-/

set_option autoImplicit false

namespace SiteSync

namespace LocalFile

/-- A file whose object is as it would be after an upload needs none. -/
theorem not_needsUpload_of_remote {v : Inventory} {f : LocalFile}
    (h : v.find? f.key = some f.remote) : ¬f.NeedsUpload v false := by
  rintro (hnone | hforce | ⟨o, ho, hdiff⟩)
  · rw [h] at hnone
    cases hnone
  · cases hforce
  · rw [h] at ho
    cases ho
    exact hdiff.elim (fun hs => hs rfl) fun hp => hp rfl

/-- A file that needs no upload has an object as it would be after
one. -/
theorem remote_of_not_needsUpload {v : Inventory} {f : LocalFile}
    (h : ¬f.NeedsUpload v false) : v.find? f.key = some f.remote := by
  cases hfind : v.find? f.key with
  | none => exact absurd (.inl hfind) h
  | some o =>
    have hkey := Inventory.key_of_find? hfind
    have hsize : f.size = o.size := by
      by_contra hne
      exact h (.inr (.inr ⟨o, hfind, .inl hne⟩))
    have hprint : f.fingerprint = o.fingerprint := by
      by_contra hne
      exact h (.inr (.inr ⟨o, hfind, .inr hne⟩))
    rw [remote, hsize, hprint, ← hkey]

end LocalFile

namespace Deployment

variable {σ : Type} {d : Deployment σ} {s w : σ} {valid : σ → Prop}
  {view : σ → Text → Option RemoteObject} {site : List WalkedFile} {files : List LocalFile}
  {v : Inventory} {report : Report σ}

/-- The bucket shows every file of `site` as it would be after an
upload. -/
def Settled (d : Deployment σ) (view : σ → Text → Option RemoteObject) (site : List WalkedFile)
    (s : σ) : Prop :=
  ∀ f ∈ site, ∀ file, d.source.ready d.rules f = .done file →
    view s file.key = some file.remote

/-! ### What one deploy leaves for the next -/

/-- For the keys of the site the listing shows what the bucket does. -/
theorem find?_eq_view {start : Text} (hstore : d.store.Records start valid view) (hs : valid s)
    (hlisted : (d.store.list start s).outcome = .done v) {key : Text}
    (hkey : Text.startsWith key start = true) : v.find? key = view s key :=
  hstore.listing s v hs hlisted key hkey

/-- The files of a site are what came of reading it. -/
theorem mem_files_iff (hready : site.map (d.source.ready d.rules) = files.map .done)
    {file : LocalFile} : file ∈ files ↔ ∃ f ∈ site, d.source.ready d.rules f = .done file := by
  rw [← List.mem_map, hready, List.mem_map]
  simp

/-- The files of a site are where the listing looks. -/
theorem startsWith_of_mem (hready : site.map (d.source.ready d.rules) = files.map .done)
    {f : LocalFile} (hf : f ∈ files) : Text.startsWith f.key d.rules.keyPrefix = true := by
  have hmem : f.key ∈ site.map (d.rules.bucketKey ·.path) :=
    keys_of_ready hready ▸ List.mem_map_of_mem hf
  obtain ⟨walked, -, hkey⟩ := List.mem_map.1 hmem
  rw [← hkey]
  exact Rules.isManaged_bucketKey walked.path

/-- After a deploy that compares, the bucket shows every file as it
is. -/
theorem Reconciled.settled
    (hr : d.Reconciled view (fun f _ => f.remote) v site files s report)
    (hready : site.map (d.source.ready d.rules) = files.map .done)
    (hnodup : (files.map LocalFile.key).Nodup) (hforce : d.rules.force = false)
    (hv : ∀ key, Text.startsWith key d.rules.keyPrefix = true → v.find? key = view s key) :
    d.Settled view site report.world := by
  intro walked hwalked f hfile
  have hf : f ∈ files := (mem_files_iff hready).2 ⟨walked, hwalked, hfile⟩
  -- The file was uploaded, or its object was as it should be and nobody touched it.
  by_cases hneeds : f.NeedsUpload v d.rules.force
  · exact hr.uploaded f hf hneeds
  · rw [hforce] at hneeds
    have hold : view s f.key = some f.remote := by
      rw [← hv f.key (startsWith_of_mem hready hf)]
      exact LocalFile.remote_of_not_needsUpload hneeds
    rw [← hold]
    refine hr.untouched f.key (fun g hg hn he => ?_) fun hdel => ?_
    · have hsame : g = f := List.inj_on_of_nodup_map hnodup hg hf he
      rw [hsame, hforce] at hn
      exact hneeds hn
    · have hsite : f.key ∈ site.map (d.rules.bucketKey ·.path) :=
        keys_of_ready hready ▸ List.mem_map_of_mem hf
      exact not_mem_obsolete hsite (List.mem_of_mem_take hdel)

/-- Of a list without repetitions, what is dropped is what is not
taken. -/
theorem mem_drop_iff_of_nodup {α : Type} {as : List α} (h : as.Nodup) (n : Nat) (a : α) :
    a ∈ as.drop n ↔ a ∈ as ∧ a ∉ as.take n := by
  have hsplit := List.take_append_drop n as
  constructor
  · intro ha
    refine ⟨List.mem_of_mem_drop ha, fun ht => ?_⟩
    rw [← hsplit, List.nodup_append] at h
    exact h.2.2 a ht a ha rfl
  · rintro ⟨ha, hnot⟩
    rw [← hsplit, List.mem_append] at ha
    exact ha.resolve_left hnot

/-- What may be deleted, by what the bucket holds. -/
theorem mem_obsolete_iff {rules : Rules} {key : Text} :
    key ∈ rules.obsolete v site ↔ v.find? key ≠ none ∧ rules.isManaged key = true ∧
      rules.ignoresKey key = false ∧ key ∉ site.map (rules.bucketKey ·.path) := by
  unfold Rules.obsolete
  rw [Text.mem_sort, List.mem_filter, Inventory.mem_keys_iff]
  simp only [Bool.and_eq_true, Bool.not_eq_true', ← Bool.not_eq_true, List.contains_iff_mem,
    and_assoc]

/-- A deploy leaves to the next what it did not delete. -/
theorem Reconciled.obsolete_eq_drop {v' : Inventory}
    (hr : d.Reconciled view (fun f _ => f.remote) v site files s report)
    (hready : site.map (d.source.ready d.rules) = files.map .done)
    (hv : ∀ key, Text.startsWith key d.rules.keyPrefix = true → v.find? key = view s key)
    (hv' : ∀ key, Text.startsWith key d.rules.keyPrefix = true →
      v'.find? key = view report.world key) :
    d.rules.obsolete v' site = (d.rules.obsolete v site).drop d.rules.maxDelete := by
  have hnodup := d.rules.nodup_obsolete v site
  have hsorted : ((d.rules.obsolete v site).drop d.rules.maxDelete).Pairwise
      fun a b => Text.le a b = true :=
    (Text.pairwise_sort _).sublist (List.drop_sublist _ _)
  -- Both are sorted, so it is enough that they have the same members.
  refine Text.sort_eq_of_mem_iff hsorted (v'.nodup_keys.filter _)
    (hnodup.sublist (List.drop_sublist _ _)) fun key => ?_
  rw [mem_drop_iff_of_nodup hnodup, ← Text.mem_sort]
  show key ∈ d.rules.obsolete v' site ↔ _
  rw [mem_obsolete_iff, mem_obsolete_iff]
  constructor
  · rintro ⟨hin, hmanaged, hnot, hsite⟩
    have hkept : key ∉ (d.rules.obsolete v site).take d.rules.maxDelete := fun hdel =>
      hin (by rw [hv' key hmanaged, hr.deleted key hdel])
    have hsame : view report.world key = view s key :=
      hr.untouched key (fun f hf _ he => hsite (he ▸ keys_of_ready hready ▸
        List.mem_map_of_mem hf)) hkept
    rw [hv' key hmanaged, hsame, ← hv key hmanaged] at hin
    exact ⟨⟨hin, hmanaged, hnot, hsite⟩, hkept⟩
  · rintro ⟨⟨hin, hmanaged, hnot, hsite⟩, hkept⟩
    have hsame : view report.world key = view s key :=
      hr.untouched key (fun f hf _ he => hsite (he ▸ keys_of_ready hready ▸
        List.mem_map_of_mem hf)) hkept
    rw [hv key hmanaged, ← hsame, ← hv' key hmanaged] at hin
    exact ⟨hin, hmanaged, hnot, hsite⟩

/-! ### One deploy after another -/

/-- What may differ from one deploy to the next: the distributions that
are told, and what happens at the same time. -/
structure Turn (σ : Type) where
  /-- The distributions, if any are to be told what changed. -/
  cdn : Option (Cdn σ)
  /-- What happens next in a group. -/
  schedule : Group.Schedule σ

/-- One deploy. -/
def turn (d : Deployment σ) (t : Turn σ) (w : σ) : Report σ :=
  ({ d with cdn := t.cdn } : Deployment σ).run t.schedule w

/-- Deploys one after another, each from the state that the one before
has left. -/
def turns (d : Deployment σ) : List (Turn σ) → σ → List (σ × Report σ)
  | [], _ => []
  | t :: ts, w => (w, d.turn t w) :: turns d ts (d.turn t w).world

/-- What a deploy that succeeds does from a valid state, and what it
leaves. -/
theorem turn_spec {t : Turn σ} (hforce : d.rules.force = false)
    (hstore : d.store.Records d.rules.keyPrefix valid view)
    (hcdn : ∀ cdn ∈ t.cdn, cdn.Frames view ∧ cdn.Preserves valid)
    (hsite : d.ordered.Perm site) (hdistinct : (site.map WalkedFile.path).Nodup)
    (hs : valid s) {tally : Tally} (hok : (d.turn t s).result = .ok tally) :
    ∃ files, (d.store.list d.rules.keyPrefix s).outcome = .done (d.listed s) ∧
      site.map (d.source.ready d.rules) = files.map .done ∧
      ({ d with cdn := t.cdn } : Deployment σ).Reconciled view (fun f _ => f.remote)
        (d.listed s) site files s (d.turn t s) ∧
      valid (d.turn t s).world ∧ d.Settled view site (d.turn t s).world := by
  obtain ⟨h, log, told, hc⟩ := ({ d with cdn := t.cdn } : Deployment σ).run_course t.schedule s
  obtain ⟨files, hlisted, hready, hr⟩ := hc.reconciled hok hstore.toKeeps
    (fun cdn hmem => (hcdn cdn hmem).1) hsite hdistinct
  have hnodup := nodup_keys_of_ready (d := d) hready hdistinct
  refine ⟨files, hlisted, hready, hr, ?_, ?_⟩
  · -- Both are needed for the next deploy: the state is valid, and the files are settled.
    exact hc.valid_world hstore (fun cdn hmem => (hcdn cdn hmem).2) hs
  · exact hr.settled hready hnodup hforce fun key hkey => find?_eq_view hstore hs hlisted hkey

/-- Each of several deploys is a deploy from the state before it. -/
theorem exists_turn {ts : List (Turn σ)} {i : Nat} {x : σ × Report σ}
    (hx : (d.turns ts w)[i]? = some x) : ∃ t, ts[i]? = some t ∧ x.2 = d.turn t x.1 := by
  induction ts generalizing w i with
  | nil => cases hx
  | cons t ts ih =>
    cases i with
    | zero =>
      cases hx
      exact ⟨t, rfl, rfl⟩
    | succ i => exact ih hx

/-- The state before each of several deploys that succeed: what the ones
before it have deleted is gone, and from the second on the bucket shows
every file. -/
theorem turns_state (hforce : d.rules.force = false)
    (hstore : d.store.Records d.rules.keyPrefix valid view)
    (hsite : d.ordered.Perm site) (hdistinct : (site.map WalkedFile.path).Nodup)
    {ts : List (Turn σ)}
    (hcdn : ∀ t ∈ ts, ∀ cdn ∈ t.cdn, cdn.Frames view ∧ cdn.Preserves valid) (hw : valid w)
    (hok : ∀ x ∈ d.turns ts w, ∃ tally, x.2.result = .ok tally) {i : Nat} {x : σ × Report σ}
    (hx : (d.turns ts w)[i]? = some x) :
    valid x.1 ∧
      d.rules.obsolete (d.listed x.1) site
        = (d.rules.obsolete (d.listed w) site).drop (i * d.rules.maxDelete) ∧
      (0 < i ∨ d.Settled view site w → d.Settled view site x.1) := by
  induction ts generalizing w i with
  | nil => cases hx
  | cons t ts ih =>
    cases i with
    | zero =>
      cases hx
      refine ⟨hw, ?_, fun h => h.resolve_left (Nat.lt_irrefl 0)⟩
      rw [Nat.zero_mul, List.drop_zero]
    | succ i =>
      obtain ⟨tally, htally⟩ := hok _ (List.mem_cons_self ..)
      obtain ⟨files, hlisted, hready, hr, hvalid, hsettled⟩ :=
        turn_spec hforce hstore (hcdn t (by simp)) hsite hdistinct hw htally
      have hok' : ∀ x ∈ d.turns ts (d.turn t w).world, ∃ tally, x.2.result = .ok tally :=
        fun x hmem => hok x (List.mem_cons_of_mem _ hmem)
      have hcdn' : ∀ t ∈ ts, ∀ cdn ∈ t.cdn, cdn.Frames view ∧ cdn.Preserves valid :=
        fun t hmem => hcdn t (List.mem_cons_of_mem _ hmem)
      obtain ⟨hvalid', hobsolete, hsettled'⟩ := ih hcdn' hvalid hok' hx
      refine ⟨hvalid', ?_, fun _ => hsettled' (.inr hsettled)⟩
      -- The next deploy lists what this one has left.
      have hnext : (d.store.list d.rules.keyPrefix (d.turn t w).world).outcome
          = .done (d.listed (d.turn t w).world) := by
        cases ts with
        | nil => cases hx
        | cons t₂ ts =>
          obtain ⟨tally₂, htally₂⟩ := hok' _ (List.mem_cons_self ..)
          obtain ⟨-, h, -⟩ :=
            turn_spec hforce hstore (hcdn' t₂ (by simp)) hsite hdistinct hvalid htally₂
          exact h
      rw [hobsolete, hr.obsolete_eq_drop hready
        (fun key hkey => find?_eq_view hstore hw hlisted hkey)
        (fun key hkey => find?_eq_view hstore hvalid hnext hkey), List.drop_drop,
        Nat.succ_mul, Nat.add_comm]

/-- A deploy that finds the bucket settled uploads nothing and skips
every file. -/
theorem Requested.of_settled (hr : d.Requested v site files report)
    (hready : site.map (d.source.ready d.rules) = files.map .done)
    (hforce : d.rules.force = false)
    (hv : ∀ key, Text.startsWith key d.rules.keyPrefix = true → v.find? key = view s key)
    (hs : d.Settled view site s) :
    report.events.filterMap Event.put? = [] ∧ report.tally.uploaded = 0 ∧
      report.tally.skipped = site.length.toUInt64 ∧
      (∀ f ∈ files, ¬f.NeedsUpload v d.rules.force) := by
  -- The listing shows every file as it is.
  have hnone : ∀ f ∈ files, ¬f.NeedsUpload v d.rules.force := fun f hf => by
    obtain ⟨walked, hwalked, hfile⟩ := (mem_files_iff hready).1 hf
    rw [hforce]
    refine LocalFile.not_needsUpload_of_remote ?_
    rw [hv f.key (startsWith_of_mem hready hf)]
    exact hs walked hwalked f hfile
  have hfilter : (files.filter fun f => decide (f.NeedsUpload v d.rules.force)) = [] :=
    List.filter_eq_nil_iff.2 fun f hf => by simpa using hnone f hf
  have hall : (files.filter fun f => decide ¬f.NeedsUpload v d.rules.force) = files :=
    List.filter_eq_self.2 fun f hf => by simpa using hnone f hf
  have hlength : files.length = site.length := by
    have := congrArg List.length hready
    simpa using this.symm
  have hputs := hr.puts
  rw [hfilter, List.map_nil, List.perm_nil, List.map_eq_nil_iff] at hputs
  refine ⟨hputs, ?_, ?_, hnone⟩
  · rw [hr.tally, hfilter]
    rfl
  · rw [hr.tally, hall, hlength]

/-! ### Nothing to do -/

/-- A deploy that changed nothing. -/
structure Idle (d : Deployment σ) (view : σ → Text → Option RemoteObject) (t : Turn σ) (s : σ)
    (report : Report σ) : Prop where
  /-- Nothing is uploaded. -/
  puts : report.events.filterMap Event.put? = []
  /-- Nothing is deleted. -/
  deletions : report.events.filterMap Event.deletion? = []
  /-- No key is changed. -/
  told : ∀ keys ∈ report.events.filterMap Event.invalidation?, keys = []
  /-- The bucket holds what it held. -/
  objects : ∀ key, view report.world key = view s key
  /-- Distributions of the cloud are asked nothing, so that listing the
  bucket is all that was asked of anybody. -/
  silent : (∀ cdn ∈ t.cdn, ∃ c : Cloud.DistributionClient σ, cdn = c.cdn) →
    report.world = (d.store.list d.rules.keyPrefix s).state

/-- Without changed keys the distributions of the cloud are asked
nothing. -/
theorem invalidate_nil (c : Cloud.DistributionClient σ) (s : σ) :
    (c.cdn.invalidate [] s).state = s := rfl

/-- A deploy that uploads nothing and deletes nothing leaves the state
that the listing has left to the distributions. -/
theorem Course.world_of_idle {h : History} {log : Deletions} {told : Option (List Text)}
    (hc : d.Course s h log told report) (hputs : report.events.filterMap Event.put? = [])
    (hdel : report.events.filterMap Event.deletion? = []) :
    report.world = d.tell told (d.store.list d.rules.keyPrefix s).state := by
  obtain ⟨files, -, hh⟩ := hc.handled
  have hstarted : h.started = [] := by
    rw [hc.puts, List.map_eq_nil_iff] at hputs
    exact hputs
  have hfinished : h.finished = [] := by
    have := hh.ended
    rw [hstarted, List.nil_perm, List.map_eq_nil_iff] at this
    exact this
  have hlog : log = [] := by
    rw [hc.deletions, List.map_eq_nil_iff] at hdel
    exact hdel
  obtain ⟨t, t', hasked, hasked', hworld⟩ := hc.world
  rw [hfinished] at hasked
  rw [hlog] at hasked'
  rw [hworld, hasked'.eq_of_nil, hasked.eq_of_nil]

/-- A deploy that succeeds has no empty request to delete. -/
theorem Course.deletions_eq_nil {h : History} {log : Deletions} {told : Option (List Text)}
    {tally : Tally} (hc : d.Course s h log told report) (hok : report.result = .ok tally)
    (hdel : (report.events.filterMap Event.deletion?).flatten = []) :
    report.events.filterMap Event.deletion? = [] := by
  have hbatches := (hc.complete tally hok).batches
  rw [hc.deletions, hc.flatten_eq hok] at hdel
  rw [hc.deletions, hbatches, hdel, batchesOf_nil]

/-- A deploy that finds the bucket settled and nothing to delete changes
nothing. -/
theorem idle_of_settled {t : Turn σ}
    (hr : ({ d with cdn := t.cdn } : Deployment σ).Reconciled view (fun f _ => f.remote) v site
      files s (d.turn t s))
    (hnone : ∀ f ∈ files, ¬f.NeedsUpload v d.rules.force)
    (hputs : (d.turn t s).events.filterMap Event.put? = [])
    (hobsolete : (d.rules.obsolete v site).take d.rules.maxDelete = [])
    {tally : Tally} (hok : (d.turn t s).result = .ok tally) : d.Idle view t s (d.turn t s) := by
  obtain ⟨h, log, told, hc⟩ := ({ d with cdn := t.cdn } : Deployment σ).run_course t.schedule s
  have hdel : (d.turn t s).events.filterMap Event.deletion? = [] :=
    hc.deletions_eq_nil hok (hr.deletions.trans hobsolete)
  have htold : ∀ keys ∈ (d.turn t s).events.filterMap Event.invalidation?, keys = [] := by
    intro keys hkeys
    have hfilter : (files.filter fun f => decide (f.NeedsUpload v d.rules.force)) = [] :=
      List.filter_eq_nil_iff.2 fun f hf => by simpa using hnone f hf
    rw [hr.told, hfilter, hobsolete] at hkeys
    obtain ⟨-, -, rfl⟩ := List.mem_map.1 hkeys
    exact List.mergeSort_nil
  refine ⟨hputs, hdel, htold, fun key => hr.untouched key (fun f hf hn => absurd hn (hnone f hf))
    (hobsolete ▸ List.not_mem_nil), fun hcloud => ?_⟩
  have hworld : (d.turn t s).world = ({ d with cdn := t.cdn } : Deployment σ).tell told
      (d.store.list d.rules.keyPrefix s).state := hc.world_of_idle hputs hdel
  rw [hworld]
  -- Without a changed key the distributions of the cloud are not asked.
  unfold tell
  split
  · rename_i cdn keys hcdn'
    obtain ⟨c, rfl⟩ := hcloud cdn hcdn'
    have hnil : keys = [] := htold keys (hc.invalidations ▸ by simp)
    rw [hnil, invalidate_nil]
  · rfl

/-! ### The theorem -/

/-- A deploy among several that succeed has the files that a walk
finds. -/
theorem ordered_perm_of_turns {tree : List WalkedFile}
    (hfinds : d.source.Finds d.rules.source d.rules.walkFilter tree) {ts : List (Turn σ)}
    (hok : ∀ x ∈ d.turns ts w, ∃ tally, x.2.result = .ok tally) {i : Nat} {x : σ × Report σ}
    (hx : (d.turns ts w)[i]? = some x) : d.ordered.Perm (tree.filter d.rules.deploys) := by
  obtain ⟨tally, htally⟩ := hok _ (List.mem_of_getElem? hx)
  obtain ⟨t, -, hturn⟩ := exists_turn hx
  rw [hturn] at htally
  obtain ⟨h, log, told, hc⟩ := ({ d with cdn := t.cdn } : Deployment σ).run_course t.schedule x.1
  obtain ⟨-, ⟨found, hfound⟩, -⟩ := hc.complete tally htally
  exact ordered_perm_deploys hfinds hfound

/-- From the second deploy on, once the objects without a file are used
up, a deploy changes nothing. -/
theorem idle_of_exhausted (hforce : d.rules.force = false)
    (hstore : d.store.Records d.rules.keyPrefix valid view)
    (hsite : d.ordered.Perm site) (hdistinct : (site.map WalkedFile.path).Nodup)
    {ts : List (Turn σ)}
    (hcdn : ∀ t ∈ ts, ∀ cdn ∈ t.cdn, cdn.Frames view ∧ cdn.Preserves valid) (hw : valid w)
    (hok : ∀ x ∈ d.turns ts w, ∃ tally, x.2.result = .ok tally) {i : Nat}
    (hx : (d.turns ts w)[i]? = some (s, report)) (hi : 0 < i)
    (hlength : (d.rules.obsolete (d.listed w) site).length ≤ i * d.rules.maxDelete) :
    ∃ t, ts[i]? = some t ∧ d.Idle view t s report := by
  obtain ⟨tally, htally⟩ := hok _ (List.mem_of_getElem? hx)
  obtain ⟨t, hti, hturn⟩ := exists_turn hx
  dsimp only at hturn htally
  subst hturn
  obtain ⟨hs, hobsolete, hsettled⟩ := turns_state hforce hstore hsite hdistinct hcdn hw hok hx
  obtain ⟨files, hlisted, hready, hr, -⟩ :=
    turn_spec hforce hstore (hcdn t (List.mem_of_getElem? hti)) hsite hdistinct hs htally
  obtain ⟨hputs, -, -, hnone⟩ := hr.toRequested.of_settled hready hforce
    (fun key hkey => find?_eq_view hstore hs hlisted hkey) (hsettled (.inl hi))
  -- The slices before have taken all that there was.
  have hnothing : (d.rules.obsolete (d.listed s) site).take d.rules.maxDelete = [] := by
    rw [hobsolete, List.drop_of_length_le hlength, List.take_nil]
  exact ⟨t, hti, idle_of_settled hr hnone hputs hnothing htally⟩

/-- Deploys of the same files, one after another, that all succeed and
upload only what differs: each deletes the next slice of the objects
that had no file at the start, and counts the others as stale. From the
second on every file is skipped. Once the slices are used up, which is
after the first deploy if that leaves nothing stale, a deploy changes
nothing. -/
theorem converges (d : Deployment σ) (hforce : d.rules.force = false) {valid : σ → Prop}
    {view : σ → Text → Option RemoteObject}
    (hstore : d.store.Records d.rules.keyPrefix valid view) {tree : List WalkedFile}
    (hfinds : d.source.Finds d.rules.source d.rules.walkFilter tree)
    (hdistinct : (tree.map WalkedFile.path).Nodup) {ts : List (Turn σ)}
    (hcdn : ∀ t ∈ ts, ∀ cdn ∈ t.cdn, cdn.Frames view ∧ cdn.Preserves valid) {w : σ}
    (hw : valid w) (hok : ∀ x ∈ d.turns ts w, ∃ tally, x.2.result = .ok tally) :
    let site := tree.filter d.rules.deploys
    let obsolete := d.rules.obsolete (d.listed w) site
    let max := d.rules.maxDelete
    ∀ (i : Nat) (s : σ) (report : Report σ), (d.turns ts w)[i]? = some (s, report) →
      (report.events.filterMap Event.deletion?).flatten = (obsolete.drop (i * max)).take max ∧
      report.tally.deleted = ((obsolete.drop (i * max)).take max).length.toUInt64 ∧
      report.tally.stale = (obsolete.length - (i + 1) * max).toUInt64 ∧
      (report.events.filterMap Event.read?).Perm site ∧
      (0 < i → report.events.filterMap Event.put? = [] ∧ report.tally.uploaded = 0 ∧
        report.tally.skipped = site.length.toUInt64) ∧
      (0 < i → obsolete.length ≤ i * max → ∃ t, ts[i]? = some t ∧ d.Idle view t s report) := by
  intro site obsolete max i s report hx
  obtain ⟨tally, htally⟩ := hok _ (List.mem_of_getElem? hx)
  obtain ⟨t, hti, hturn⟩ := exists_turn hx
  have hsite : d.ordered.Perm site := ordered_perm_of_turns hfinds hok hx
  have hdistinct' : (site.map WalkedFile.path).Nodup :=
    hdistinct.sublist (List.filter_sublist.map _)
  obtain ⟨hs, hobsolete, hsettled⟩ := turns_state hforce hstore hsite hdistinct' hcdn hw hok hx
  rw [hturn] at htally
  obtain ⟨files, hlisted, hready, hr, -⟩ :=
    turn_spec hforce hstore (hcdn t (List.mem_of_getElem? hti)) hsite hdistinct' hs htally
  rw [← hturn] at hr
  have hdeletions := hr.deletions
  have htallied := hr.tally
  dsimp only at hobsolete hdeletions htallied
  rw [hobsolete] at hdeletions htallied
  refine ⟨hdeletions, ?_, ?_, hr.reads, fun hi => ?_, fun hi hlength => ?_⟩
  · rw [htallied]
  · -- What the deploys before have deleted, and what this one deletes, is not left.
    have hleft : (obsolete.drop (i * max)).length - max = obsolete.length - (i + 1) * max := by
      rw [List.length_drop, Nat.succ_mul]
      omega
    rw [htallied, ← hleft]
  · obtain ⟨hputs, huploaded, hskipped, -⟩ := hr.toRequested.of_settled hready hforce
      (fun key hkey => find?_eq_view hstore hs hlisted hkey) (hsettled (.inl hi))
    exact ⟨hputs, huploaded, hskipped⟩
  · exact idle_of_exhausted hforce hstore hsite hdistinct' hcdn hw hok hx hi hlength

/-- Three deploys of a small site, of which the first leaves one stale
object, the second deletes it, and the third changes nothing. -/
theorem converges_sample :
    let ts := List.replicate 3 ⟨some Cdn.accepting, Group.oneByOne⟩
    (∀ x ∈ Sample.deployment.turns ts Sample.bucket, ∃ tally, x.2.result = .ok tally) ∧
      ∃ s report, (Sample.deployment.turns ts Sample.bucket)[2]? = some (s, report) ∧
        report.tally.uploaded = 0 ∧ report.tally.stale = 0 ∧
        ∃ t, ts[2]? = some t ∧
          Sample.deployment.Idle (fun b key => (b.find? key).map (·.object)) t s report := by
  intro ts
  have hturn : ∀ t ∈ ts, t = ⟨some Cdn.accepting, Group.oneByOne⟩ := fun t ht =>
    List.eq_of_mem_replicate ht
  have hok : ∀ x ∈ Sample.deployment.turns ts Sample.bucket, ∃ tally, x.2.result = .ok tally := by
    intro x hx
    obtain ⟨i, hi⟩ := List.mem_iff_getElem?.1 hx
    obtain ⟨t, ht, hreport⟩ := exists_turn hi
    rw [hreport, hturn t (List.mem_of_getElem? ht)]
    exact Sample.reliable.run_ok Group.oneByOne x.1
  have hcdn : ∀ t ∈ ts, ∀ cdn ∈ t.cdn, cdn.Frames (fun b key => (b.find? key).map (·.object)) ∧
      cdn.Preserves fun b : Bucket => (b.map (·.object.key)).Nodup := by
    intro t ht cdn hmem
    rw [hturn t ht] at hmem
    cases hmem
    exact ⟨Cdn.accepting_frames _, fun _ _ h => h⟩
  obtain ⟨s, report, hx⟩ : ∃ s report,
      (Sample.deployment.turns ts Sample.bucket)[2]? = some (s, report) := ⟨_, _, rfl⟩
  have hsample := converges Sample.deployment rfl (Store.ofBucket_records false _)
    (LocalSource.ofFlat_finds [] _ _ none Sample.files) (by decide) hcdn (by decide) hok 2 s report
    hx
  obtain ⟨-, -, hstale, -, hskipped, hidle⟩ := hsample
  -- The first listing has the stale objects `my/x` and `my/y`.
  have hlength : (Sample.deployment.rules.obsolete (Sample.deployment.listed Sample.bucket)
      ((Sample.files.tree []).filter Sample.deployment.rules.deploys)).length = 2 := by
    rw [Rules.obsolete, Text.length_sort]
    decide
  rw [hlength] at hstale hidle
  exact ⟨hok, s, report, hx, (hskipped (by decide)).2.1, hstale, hidle (by decide) (by decide)⟩

/-! ### In the cloud -/

/-- A directory of a file system is deployed to a bucket of the cloud
again and again, and the distributions that are told belong to that
cloud. Once the objects without a file are used up, a deploy asks the
cloud for a listing and for nothing else, and changes no object. -/
theorem idle_in_cloud {top : FileNode} (hnamed : top.Named) (hnames : top.Distinct)
    {here : List Text} {d : Deployment Cloud.Server} (hsource : d.source = .ofTree top here)
    (hroot : ∃ s, top.Starts here d.rules.source s) (hforce : d.rules.force = false)
    {c : Cloud.BucketClient Cloud.Server} (hstore : d.store = c.store)
    (hcloud : c.service = .inMemory) {ts : List (Turn Cloud.Server)}
    (hcdn : ∀ t ∈ ts, ∀ cdn ∈ t.cdn,
      ∃ n : Cloud.DistributionClient Cloud.Server, n.service = .inMemory ∧ cdn = n.cdn)
    {w : Cloud.Server} (hw : w.Honest)
    (hok : ∀ x ∈ d.turns ts w, ∃ tally, x.2.result = .ok tally) :
    let tree := (FileView.ofPath top here d.rules.source).files [] d.rules.source
    let obsolete := d.rules.obsolete (d.listed w) (tree.filter d.rules.deploys)
    ∀ (i : Nat) (s : Cloud.Server) (report : Report Cloud.Server),
      (d.turns ts w)[i]? = some (s, report) → 0 < i → obsolete.length ≤ i * d.rules.maxDelete →
      report.world = (c.store.list d.rules.keyPrefix s).state ∧
        ∀ key, report.world.view key = s.view key := by
  intro tree obsolete i s report hx hi hlength
  obtain ⟨start, hstart⟩ := hroot
  have hfinds : d.source.Finds d.rules.source d.rules.walkFilter tree := by
    rw [hsource]
    exact LocalSource.ofTree_finds hnamed here d.rules.source d.rules.walkFilter
  have hpaths : (tree.map WalkedFile.path).Nodup := hstart.nodup_paths hnamed hnames
  have hrecords : d.store.Records d.rules.keyPrefix Cloud.Server.Honest Cloud.Server.view :=
    hstore ▸ Cloud.BucketClient.store_records hcloud d.rules.keyPrefix
  have hframes : ∀ t ∈ ts, ∀ cdn ∈ t.cdn,
      cdn.Frames Cloud.Server.view ∧ cdn.Preserves Cloud.Server.Honest := by
    intro t ht cdn hmem
    obtain ⟨n, hn, rfl⟩ := hcdn t ht cdn hmem
    exact ⟨Cloud.DistributionClient.cdn_frames hn, Cloud.DistributionClient.cdn_preserves_honest hn⟩
  obtain ⟨t, hti, hidle⟩ := idle_of_exhausted hforce hrecords
    (ordered_perm_of_turns hfinds hok hx) (hpaths.sublist (List.filter_sublist.map _)) hframes hw
    hok hx hi hlength
  rw [← hstore]
  refine ⟨hidle.silent fun cdn hmem => ?_, hidle.objects⟩
  obtain ⟨n, -, rfl⟩ := hcdn t (List.mem_of_getElem? hti) cdn hmem
  exact ⟨n, rfl⟩

end Deployment

end SiteSync
