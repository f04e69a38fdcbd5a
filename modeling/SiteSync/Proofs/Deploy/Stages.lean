import Mathlib.Data.Prod.Lex
import SiteSync.Proofs.Deploy.Course

/-!
# `SiteSync.Proofs.Deploy.Stages`: the stages of a deploy

A deploy is occupied with one stage after another: it lists the bucket,
finds the files, brings the groups to the bucket, deletes, and tells the
distributions. `Stage` orders them, and `Event.stage?` says to which of
them an event belongs; an upload belongs to the group of its key.

- `History.Handles.stage`: what happens in a group belongs to it.
- `Deployment.Course.stages_sorted`: the events of a deploy come in the
  order of their stages, whatever the schedule chooses and whoever
  fails.
-/

set_option autoImplicit false

namespace SiteSync

/-! ### Stages and their order -/

/-- What a deploy is occupied with. -/
inductive Stage where
  /-- The bucket is listed. -/
  | listing
  /-- The local files are found. -/
  | walking
  /-- The files of a group are read, compared and uploaded. -/
  | group (i : Nat)
  /-- Objects are deleted. -/
  | deleting
  /-- The distributions are told what changed. -/
  | telling
deriving Repr, DecidableEq

namespace Stage

/-- The place of a stage: the groups are one stage after another. -/
def place : Stage → Nat ×ₗ Nat
  | .listing => toLex (0, 0)
  | .walking => toLex (1, 0)
  | .group i => toLex (2, i)
  | .deleting => toLex (3, 0)
  | .telling => toLex (4, 0)

/-- Stages at the same place are the same. -/
theorem place_injective : Function.Injective place := by
  intro s t h
  cases s <;> cases t <;> simp_all [place]

instance : LinearOrder Stage := LinearOrder.lift' place place_injective

variable {s t : Stage} {i j : Nat}

/-- Stages are ordered by their places. -/
theorem le_iff : s ≤ t ↔ s.place ≤ t.place := .rfl

/-- One stage is before another by its place as well. -/
theorem lt_iff : s < t ↔ s.place < t.place := .rfl

/-- Groups come in the order of their numbers. -/
@[simp] theorem group_le_group : group i ≤ group j ↔ i ≤ j := by
  simp [le_iff, place, Prod.Lex.toLex_le_toLex]

/-- So does one group before another. -/
@[simp] theorem group_lt_group : group i < group j ↔ i < j := by
  simp [lt_iff, place, Prod.Lex.toLex_lt_toLex]

/-- The listing comes before everything else. -/
@[simp] theorem listing_le : listing ≤ s := by
  cases s <;> simp [le_iff, place, Prod.Lex.toLex_le_toLex]

/-- Every group comes before the deletions. -/
@[simp] theorem group_lt_deleting : group i < deleting := by
  simp [lt_iff, place, Prod.Lex.toLex_lt_toLex]

/-- The deletions come before the distributions are told. -/
@[simp] theorem deleting_lt_telling : deleting < telling := by
  simp [lt_iff, place, Prod.Lex.toLex_lt_toLex]

/-- So does every group. -/
@[simp] theorem group_lt_telling : group i < telling :=
  lt_trans group_lt_deleting deleting_lt_telling

/-- Nothing comes after the distributions are told. -/
@[simp] theorem telling_le_iff : telling ≤ s ↔ s = telling := by
  cases s <;> simp [le_iff, place, Prod.Lex.toLex_le_toLex]

end Stage

/-! ### The stage of an event -/

namespace Rules

variable (rules : Rules)

/-- The stage in which the file of a key is uploaded. -/
def stageOfKey (key : Text) : Stage := .group (rules.groupOf (rules.pathOfKey key))

/-- The key of a file belongs to the stage of the group of the file. -/
@[simp] theorem stageOfKey_bucketKey (path : Text) :
    rules.stageOfKey (rules.bucketKey path) = .group (rules.groupOf path) := by
  rw [stageOfKey, pathOfKey_bucketKey]

end Rules

/-- The stage to which an event belongs, if it concerns a
collaborator. -/
def Event.stage? (rules : Rules) : Event → Option Stage
  | .call (.list _) => some .listing
  | .call (.read f) => some (.group (rules.groupOf f.path))
  | .call (.put u _) => some (rules.stageOfKey u.file.key)
  | .putEnded key _ => some (rules.stageOfKey key)
  | .call (.delete _) => some .deleting
  | .call (.invalidate _) => some .telling
  | .progress _ => none
  | .log _ => none

/-- What is no effect belongs to no stage. -/
theorem Event.stage?_of_isEffect {rules : Rules} {e : Event} (h : e.isEffect = false) :
    e.stage? rules = none := by
  cases e <;> first | rfl | cases h

/-- Every effect belongs to a stage. -/
theorem Event.exists_stage? (rules : Rules) {e : Event} (h : e.isEffect = true) :
    ∃ s, e.stage? rules = some s := by
  cases e with
  | call c => cases c <;> exact ⟨_, rfl⟩
  | putEnded key ok => exact ⟨_, rfl⟩
  | progress p => cases h
  | log line => cases h

/-- Of the events, the last stage has only those that tell the
distributions. -/
theorem Event.invalidation?_of_stage? {rules : Rules} {e : Event}
    (h : e.stage? rules = some .telling) : e.invalidation?.isSome = true := by
  cases e with
  | call c => cases c <;> first | rfl | cases h
  | putEnded key ok => cases h
  | progress p => cases h
  | log line => cases h

namespace History

variable {source : LocalSource} {rules : Rules} {files : List WalkedFile} {h : History} {i : Nat}

/-- The stages of the effects of a history. -/
def stages (rules : Rules) (h : History) : List Stage :=
  (h.effects rules.acl).filterMap (Event.stage? rules)

/-- The files that are compared in a group belong to it. -/
theorem Handles.stageOfKey (hh : h.Handles source rules files)
    (hfiles : ∀ f ∈ files, rules.groupOf f.path = i) {f : LocalFile} (hf : f ∈ h.compared) :
    rules.stageOfKey f.key = .group i := by
  obtain ⟨w, hw, hready⟩ := hh.compared f hf
  rw [LocalSource.key_of_ready hready, Rules.stageOfKey_bucketKey,
    hfiles w (hh.reads.subset hw)]

/-- The uploads that start in a group are of files that were compared. -/
theorem Handles.compared_of_started (hh : h.Handles source rules files) {u : Upload}
    (hu : u ∈ h.started) : u.file ∈ h.compared := by
  obtain ⟨d, hd, hwanted⟩ := List.mem_filterMap.1 (hh.started.subset hu)
  obtain ⟨reason, -, rfl⟩ := Option.map_eq_some_iff.1 hwanted
  exact List.mem_map_of_mem hd

/-- What ends in a group was started there. -/
theorem Handles.started_of_finished (hh : h.Handles source rules files)
    {x : Upload × Attempt Text Unit} (hx : x ∈ h.finished) : x.1 ∈ h.started :=
  hh.ended.mem_iff.2 (List.mem_map_of_mem hx)

/-- What happens in a group belongs to it. -/
theorem Handles.stage (hh : h.Handles source rules files)
    (hfiles : ∀ f ∈ files, rules.groupOf f.path = i) : ∀ s ∈ h.stages rules, s = .group i := by
  intro s hs
  obtain ⟨e, he, hstage⟩ := List.mem_filterMap.1 hs
  obtain ⟨x, hx, hxe⟩ := List.mem_filterMap.1 he
  cases x with
  | read f =>
    cases hxe
    cases hstage
    have hf : f ∈ h.reads := List.mem_filterMap.2 ⟨_, hx, rfl⟩
    rw [hfiles f (hh.reads.subset hf)]
  | start u =>
    cases hxe
    cases hstage
    have hu : u ∈ h.started := List.mem_filterMap.2 ⟨_, hx, rfl⟩
    exact hh.stageOfKey hfiles (hh.compared_of_started hu)
  | finish u outcome =>
    cases hxe
    cases hstage
    have hu : (u, outcome) ∈ h.finished := List.mem_filterMap.2 ⟨_, hx, rfl⟩
    exact hh.stageOfKey hfiles (hh.compared_of_started (hh.started_of_finished hu))
  | compare f reason => cases hxe
  | refuse e => cases hxe
  | notice => cases hxe

/-- The stages of many histories are those of each, one after another. -/
theorem stages_flatten (rules : Rules) (hs : List History) :
    stages rules hs.flatten = (hs.map (stages rules)).flatten := by
  unfold stages effects
  rw [List.filterMap_flatten, List.filterMap_flatten, List.map_map]
  rfl

/-- What happens in groups that are handled one after another belongs to
one that was begun. -/
theorem InTurn.exists_of_mem_stages {groups : List (List WalkedFile)} {hs : List History}
    (ht : InTurn source rules groups hs)
    (hgroups : ∀ i files, groups[i]? = some files → ∀ f ∈ files, rules.groupOf f.path = i)
    {s : Stage} (hmem : s ∈ stages rules hs.flatten) : ∃ i, i < hs.length ∧ s = .group i := by
  rw [stages_flatten, List.mem_flatten] at hmem
  obtain ⟨l, hl, hmem⟩ := hmem
  obtain ⟨h, hh, rfl⟩ := List.mem_map.1 hl
  obtain ⟨i, hi⟩ := List.getElem?_of_mem hh
  obtain ⟨files, hfiles, hh⟩ := ht.handles_getElem hi
  exact ⟨i, (List.getElem?_eq_some_iff.1 hi).1, hh.stage (hgroups i files hfiles) s hmem⟩

/-- Groups that are handled one after another come one stage after
another. -/
theorem InTurn.stages_sorted {groups : List (List WalkedFile)} {hs : List History}
    (ht : InTurn source rules groups hs)
    (hgroups : ∀ i files, groups[i]? = some files → ∀ f ∈ files, rules.groupOf f.path = i) :
    (stages rules hs.flatten).Pairwise (· ≤ ·) := by
  -- All that happens in a history is of one stage, which is its place among the histories.
  have hstage : ∀ i h, hs[i]? = some h → ∀ s ∈ stages rules h, s = .group i := by
    intro i h hi
    obtain ⟨files, hfiles, hh⟩ := ht.handles_getElem hi
    exact hh.stage (hgroups i files hfiles)
  rw [stages_flatten, List.pairwise_flatten, List.pairwise_map]
  constructor
  · rintro l hl
    obtain ⟨h, hmem, rfl⟩ := List.mem_map.1 hl
    obtain ⟨i, hi⟩ := List.getElem?_of_mem hmem
    refine List.pairwise_of_forall_mem_list fun s hs t ht => ?_
    rw [hstage i h hi s hs, hstage i h hi t ht]
  · rw [List.pairwise_iff_getElem]
    intro i j hi hj hij s hs t ht
    rw [hstage i _ (List.getElem?_eq_getElem hi) s hs,
      hstage j _ (List.getElem?_eq_getElem hj) t ht]
    exact Stage.group_le_group.2 (Nat.le_of_lt hij)

end History

/-! ### The stages of a deploy -/

namespace Deployment

variable {σ : Type} {d : Deployment σ} {w : σ} {h : History} {log : Deletions}
  {told : Option (List Text)} {report : Report σ}

/-- There is a group for every pattern of the order, and one for the rest.
-/
theorem length_groupsOf (d : Deployment σ) (files : List WalkedFile) :
    (d.groupsOf files).length = d.rules.order.length + 1 := by
  rw [groupsOf, List.length_map, List.length_range, Rules.groupCount]

/-- A group holds the files whose group it is. -/
theorem mem_group_iff {files group : List WalkedFile} {i : Nat}
    (hi : (d.groupsOf files)[i]? = some group) {f : WalkedFile} :
    f ∈ group ↔ f ∈ files ∧ d.rules.groupOf f.path = i := by
  rw [groupsOf, List.getElem?_map] at hi
  obtain ⟨j, hj, rfl⟩ := Option.map_eq_some_iff.1 hi
  obtain ⟨hlt, rfl⟩ := List.getElem?_eq_some_iff.1 hj
  rw [List.mem_filter, List.getElem_range, beq_iff_eq]

namespace Course

/-- The groups that were begun are the first. -/
theorem exists_groups (hc : d.Course w h log told report) :
    ∃ groups hs, groups <+: d.groupsOf d.kept ∧ History.InTurn d.source d.rules groups hs ∧
      h = hs.flatten ∧
      ∀ i files, groups[i]? = some files → ∀ f, f ∈ files ↔
        f ∈ d.kept ∧ d.rules.groupOf f.path = i := by
  obtain ⟨groups, hs, hprefix, ht, rfl⟩ := hc.turns
  refine ⟨groups, hs, hprefix, ht, rfl, fun i files hi f => mem_group_iff ?_⟩
  obtain ⟨rest, hrest⟩ := hprefix
  rw [← hrest]
  exact List.getElem?_append_left (List.getElem?_eq_some_iff.1 hi).1 ▸ hi

/-- The stages of what a deploy did. -/
theorem stages_eq (hc : d.Course w h log told report) :
    report.events.filterMap (Event.stage? d.rules) = .listing :: (h.stages d.rules
      ++ log.map (fun _ => .deleting) ++ told.toList.map fun _ => .telling) := by
  have hlist : Event.stage? d.rules (.call (.list d.rules.keyPrefix)) = some .listing := rfl
  rw [← filterMap_filter_isEffect (fun _ => Event.stage?_of_isEffect), hc.effects,
    List.filterMap_cons_some hlist, List.filterMap_append, List.filterMap_append,
    List.filterMap_map, List.filterMap_map]
  show Stage.listing :: (h.stages d.rules ++ log.filterMap (fun _ => some .deleting)
    ++ told.toList.filterMap fun _ => some .telling) = _
  rw [List.filterMap_eq_map', List.filterMap_eq_map']

/-- What happens to the files of a deploy belongs to a group. -/
theorem exists_group_of_mem_stages (hc : d.Course w h log told report) {s : Stage}
    (hs : s ∈ h.stages d.rules) : ∃ i, s = .group i := by
  obtain ⟨groups, histories, -, ht, rfl, hgroups⟩ := hc.exists_groups
  obtain ⟨i, -, hi⟩ := ht.exists_of_mem_stages
    (fun i files hfiles f hf => ((hgroups i files hfiles f).1 hf).2) hs
  exact ⟨i, hi⟩

/-- The events of a deploy come in the order of their stages. -/
theorem stages_sorted (hc : d.Course w h log told report) :
    (report.events.filterMap (Event.stage? d.rules)).Pairwise (· ≤ ·) := by
  have hfiles : (h.stages d.rules).Pairwise (· ≤ ·) := by
    obtain ⟨groups, hs, -, ht, rfl, hgroups⟩ := hc.exists_groups
    exact ht.stages_sorted fun i files hi f hf => ((hgroups i files hi f).1 hf).2
  have hsame : ∀ {α : Type} (s : Stage) (as : List α), (as.map fun _ => s).Pairwise (· ≤ ·) :=
    fun s as => List.pairwise_map.2 (List.pairwise_of_forall fun _ _ => le_refl s)
  rw [hc.stages_eq, List.pairwise_cons, List.pairwise_append, List.pairwise_append]
  refine ⟨fun s _ => Stage.listing_le, ⟨hfiles, hsame _ log, ?_⟩, hsame _ told.toList, ?_⟩
  · -- Every group comes before the deletions.
    intro s hs t ht
    obtain ⟨i, rfl⟩ := hc.exists_group_of_mem_stages hs
    obtain ⟨-, -, rfl⟩ := List.mem_map.1 ht
    exact le_of_lt Stage.group_lt_deleting
  · -- Whatever came before, the distributions are told last.
    intro s hs t ht
    obtain ⟨-, -, rfl⟩ := List.mem_map.1 ht
    rcases List.mem_append.1 hs with hs | hs
    · obtain ⟨i, rfl⟩ := hc.exists_group_of_mem_stages hs
      exact le_of_lt Stage.group_lt_telling
    · obtain ⟨-, -, rfl⟩ := List.mem_map.1 hs
      exact le_of_lt Stage.deleting_lt_telling

end Course

end Deployment

end SiteSync
