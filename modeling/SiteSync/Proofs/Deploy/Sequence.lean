import SiteSync.Proofs.Deploy.Contracts
import SiteSync.Proofs.Deploy.Stages
import SiteSync.Proofs.Deploy.Success

/-!
# `SiteSync.Proofs.Deploy.Sequence`: no stage overlaps another

Within a group, readings and uploads overlap as the schedule will have
it. Between groups nothing does: the workers have come to an end before
the next group begins, and all groups before anything is deleted. This
holds of every run, for a group is only left when no move is possible
any more, and then no worker is busy.

- `Over`: the uploads of a key are over at some point of a run.
- `Deployment.Course.uploads_over`: when something of a stage begins, the
  uploads of the stages before are over.
- `Deployment.Sequential`: the order of what a deploy does.

`Deployment.keeps_order` is the theorem.
-/

set_option autoImplicit false

namespace SiteSync

/-! ### Uploads in a trace -/

namespace Event

/-- The key of an upload that starts. -/
def starts? (e : Event) : Option Text := e.put?.map (·.1.file.key)

/-- The key of an upload that ends. -/
def ends? : Event → Option Text
  | .putEnded key _ => some key
  | _ => none

/-- An event of an upload. -/
def upload? (e : Event) : Option Event :=
  if e.starts?.isSome || e.ends?.isSome then some e else none

variable {rules : Rules} {e : Event} {key : Text}

/-- The start of an upload is at the stage of its key. -/
theorem stage?_of_starts? (h : e.starts? = some key) :
    e.stage? rules = some (rules.stageOfKey key) := by
  obtain ⟨x, hput, rfl⟩ := Option.map_eq_some_iff.1 h
  rw [eq_of_put? hput]
  rfl

/-- So is its end. -/
theorem stage?_of_ends? (h : e.ends? = some key) :
    e.stage? rules = some (rules.stageOfKey key) := by
  cases e with
  | putEnded key ok => cases h; rfl
  | call c => cases h
  | progress p => cases h
  | log line => cases h

/-- The events of uploads are all that start one. -/
theorem upload?_bind_starts? (e : Event) : e.upload?.bind starts? = e.starts? := by
  cases e with
  | call c => cases c <;> rfl
  | putEnded key ok => rfl
  | progress p => rfl
  | log line => rfl

/-- They are all that end one. -/
theorem upload?_bind_ends? (e : Event) : e.upload?.bind ends? = e.ends? := by
  cases e with
  | call c => cases c <;> rfl
  | putEnded key ok => rfl
  | progress p => rfl
  | log line => rfl

end Event

/-- The number of uploads of a key that start. -/
def startsOf (key : Text) (events : List Event) : Nat :=
  (events.filterMap Event.starts?).count key

/-- The number of uploads of a key that end. -/
def endsOf (key : Text) (events : List Event) : Nat := (events.filterMap Event.ends?).count key

/-- The uploads of a key are over between two parts of a run: all that
were started have ended, and no other starts or ends. -/
structure Over (key : Text) (before after : List Event) : Prop where
  /-- What was started has ended. -/
  ended : endsOf key before = startsOf key before
  /-- Nothing starts any more. -/
  no_start : startsOf key after = 0
  /-- Nothing ends any more. -/
  no_end : endsOf key after = 0

namespace Deployment

variable {σ : Type} {d : Deployment σ} {w : σ} {h : History} {log : Deletions}
  {told : Option (List Text)} {report : Report σ}

/-- Events whose uploads are those of a history start and end what it
starts and ends. -/
theorem uploads_of_filterMap {events : List Event} {k : History} {acl : Option Text}
    (huploads : events.filterMap Event.upload?
      = k.filterMap fun x => (x.effect? acl).bind Event.upload?) :
    events.filterMap Event.starts? = k.started.map (·.file.key) ∧
      events.filterMap Event.ends? = k.finished.map (·.1.file.key) := by
  -- What is picked of an upload is picked of its event, on both sides.
  have hpick : ∀ {pick : Event → Option Text}, (∀ e : Event, e.upload?.bind pick = pick e) →
      events.filterMap pick
        = k.filterMap fun x => ((x.effect? acl).bind Event.upload?).bind pick := by
    intro pick h
    rw [← List.filterMap_filterMap, ← huploads, List.filterMap_filterMap]
    exact List.filterMap_congr fun e _ => (h e).symm
  constructor
  · rw [hpick Event.upload?_bind_starts?, History.started, List.map_filterMap]
    refine List.filterMap_congr fun x _ => ?_
    cases x <;> rfl
  · rw [hpick Event.upload?_bind_ends?, History.finished, List.map_filterMap]
    refine List.filterMap_congr fun x _ => ?_
    cases x <;> rfl

namespace Course

/-- The events of the uploads of a deploy are those of its history. -/
theorem uploads (hc : d.Course w h log told report) :
    report.events.filterMap Event.upload?
      = h.filterMap fun x => (x.effect? d.rules.acl).bind Event.upload? :=
  hc.filterMap_files (fun e he => by cases e <;> first | rfl | cases he) rfl (fun _ => rfl)
    fun _ => rfl

/-- At every point of a deploy, the uploads up to there are those of the
first part of its history. -/
theorem exists_begun (hc : d.Course w h log told report) {before : List Event}
    (hb : before <+: report.events) : ∃ k : History, k <+: h ∧
      before.filterMap Event.starts? = k.started.map (·.file.key) ∧
      before.filterMap Event.ends? = k.finished.map (·.1.file.key) := by
  have hprefix := hb.filterMap Event.upload?
  rw [hc.uploads, List.prefix_filterMap_iff] at hprefix
  obtain ⟨k, hk, huploads⟩ := hprefix
  exact ⟨k, hk, uploads_of_filterMap huploads⟩

/-- An upload ends only after it has started. -/
theorem endsOf_le_startsOf (hc : d.Course w h log told report) {before : List Event}
    (hb : before <+: report.events) (key : Text) : endsOf key before ≤ startsOf key before := by
  obtain ⟨k, hk, hstarts, hends⟩ := hc.exists_begun hb
  obtain ⟨files, -, hh⟩ := hc.handled
  obtain ⟨busy, hbusy⟩ := hh.begun k hk
  rw [endsOf, startsOf, hstarts, hends, (hbusy.map (·.file.key)).count_eq, List.map_append,
    List.count_append, List.map_map]
  exact Nat.le_add_right _ _

/-- Every upload that starts in a deploy ends. -/
theorem endsOf_eq_startsOf (hc : d.Course w h log told report) (key : Text) :
    endsOf key report.events = startsOf key report.events := by
  obtain ⟨hstarts, hends⟩ := uploads_of_filterMap hc.uploads
  obtain ⟨files, -, hh⟩ := hc.handled
  rw [endsOf, startsOf, hstarts, hends, (hh.ended.map (·.file.key)).count_eq, List.map_map]
  rfl

/-- What belongs to an earlier stage than an event does not come behind
it. -/
theorem stage_le (hc : d.Course w h log told report) {before after : List Event} {x y : Event}
    {s t : Stage} (hevents : report.events = before ++ x :: after)
    (hx : x.stage? d.rules = some s) (hy : y ∈ after) (ht : y.stage? d.rules = some t) :
    s ≤ t := by
  have hsorted := hc.stages_sorted
  rw [hevents, List.pairwise_filterMap, List.pairwise_append, List.pairwise_cons] at hsorted
  exact hsorted.2.1.1 y hy s hx t ht

/-- When something of a stage begins, the uploads of the stages before
are over. -/
theorem uploads_over (hc : d.Course w h log told report) {before after : List Event} {x : Event}
    {s : Stage} (hevents : report.events = before ++ x :: after)
    (hx : x.stage? d.rules = some s) {key : Text} (hkey : d.rules.stageOfKey key < s) :
    Over key before after := by
  -- Neither the event itself nor what comes behind it is of an upload of the key.
  have hbehind : ∀ y ∈ x :: after, y.stage? d.rules ≠ some (d.rules.stageOfKey key) := by
    rintro y hy hstage
    rcases List.mem_cons.1 hy with rfl | hy
    · exact absurd (Option.some.inj (hx.symm.trans hstage)) (ne_of_gt hkey)
    · exact absurd (hc.stage_le hevents hx hy hstage) (not_le_of_gt hkey)
  have hstart : startsOf key (x :: after) = 0 := by
    refine List.count_eq_zero.2 fun hmem => ?_
    obtain ⟨y, hy, he⟩ := List.mem_filterMap.1 hmem
    exact hbehind y hy (Event.stage?_of_starts? he)
  have hend : endsOf key (x :: after) = 0 := by
    refine List.count_eq_zero.2 fun hmem => ?_
    obtain ⟨y, hy, he⟩ := List.mem_filterMap.1 hmem
    exact hbehind y hy (Event.stage?_of_ends? he)
  have hsplit : ∀ pick : Event → Option Text, (before ++ x :: after).filterMap pick
      = before.filterMap pick ++ (x :: after).filterMap pick :=
    fun pick => List.filterMap_append
  have htotal := hc.endsOf_eq_startsOf key
  rw [endsOf, startsOf, hevents, hsplit, hsplit, List.count_append, List.count_append] at htotal
  unfold startsOf at hstart
  unfold endsOf at hend
  rw [hstart, hend] at htotal
  have hcons : ∀ pick : Event → Option Text,
      (after.filterMap pick).count key ≤ ((x :: after).filterMap pick).count key :=
    fun pick => ((List.sublist_cons_self x after).filterMap pick).count_le key
  exact ⟨htotal, Nat.le_zero.1 (hstart ▸ hcons _), Nat.le_zero.1 (hend ▸ hcons _)⟩

end Course

/-! ### The order of what a deploy does -/

/-- Whether with an event the reading or the upload of a file begins. -/
def Begins (rules : Rules) (f : WalkedFile) (x : Event) : Prop :=
  x = .call (.read f) ∨ ∃ u acl, x = .call (.put u acl) ∧ u.file.key = rules.bucketKey f.path

/-- The order of what a deploy does. -/
structure Sequential (d : Deployment σ) (report : Report σ) : Prop where
  /-- There is a group for every pattern and one more. -/
  groups : (d.groupsOf d.kept).length = d.rules.order.length + 1
  /-- A file belongs to one group and no other: that of the last pattern
  that matches it, or the first if none does. -/
  one_group : ∀ f ∈ d.kept, ∃ i, i ≤ d.rules.order.length ∧ d.rules.InGroup f.path i ∧
    ∀ j group, (d.groupsOf d.kept)[j]? = some group → (f ∈ group ↔ j = i)
  /-- The events come in the order of their stages. -/
  sorted : (report.events.filterMap (Event.stage? d.rules)).Pairwise (· ≤ ·)
  /-- An upload ends only after it has started. -/
  begun : ∀ before, before <+: report.events → ∀ key, endsOf key before ≤ startsOf key before
  /-- Before the reading or the upload of a file begins, the files of the
  groups before are read and their uploads are over. -/
  files : ∀ f g i j, d.rules.InGroup f.path i → d.rules.InGroup g.path j → i < j →
    ∀ before x after, report.events = before ++ x :: after → Begins d.rules g x →
      Event.call (.read f) ∉ after ∧ Over (d.rules.bucketKey f.path) before after
  /-- Before anything is deleted all files are read and all uploads are
  over. -/
  deletions : ∀ before keys after, report.events = before ++ .call (.delete keys) :: after →
    (∀ f, Event.call (.read f) ∉ after) ∧ ∀ key, Over key before after
  /-- The requests to delete are made one after another, each in the
  state that the one before has left, and the distributions are told in
  the state that the last has left. -/
  chained : ∃ s log t told, Asked d.store.delete s log t ∧
    report.events.filterMap Event.deletion? = log.map Prod.fst ∧
    report.events.filterMap Event.invalidation? = told.toList ∧ report.world = d.tell told t
  /-- The distributions are told last. -/
  telling : ∀ before keys after, report.events = before ++ .call (.invalidate keys) :: after →
    ∀ y ∈ after, y.isEffect = false

namespace Course

/-- A file is not read when its group is over. -/
theorem read_not_mem (hc : d.Course w h log told report) {before after : List Event} {x : Event}
    {s : Stage} (hevents : report.events = before ++ x :: after)
    (hx : x.stage? d.rules = some s) {f : WalkedFile}
    (hf : Stage.group (d.rules.groupOf f.path) < s) : Event.call (.read f) ∉ after :=
  fun hmem => absurd (hc.stage_le hevents hx hmem rfl) (not_le_of_gt hf)

/-- Nothing is asked of anybody once the distributions are told. -/
theorem telling_last (hc : d.Course w h log told report) {before after : List Event}
    {keys : List Text} (hevents : report.events = before ++ .call (.invalidate keys) :: after)
    {y : Event} (hy : y ∈ after) : y.isEffect = false := by
  cases he : y.isEffect with
  | false => rfl
  | true =>
    exfalso
    -- What comes behind would be another call to tell them, and there is at most one.
    obtain ⟨s, hs⟩ := Event.exists_stage? d.rules he
    have hle := hc.stage_le hevents (s := .telling) rfl hy hs
    rw [Stage.telling_le_iff.1 hle] at hs
    obtain ⟨keys', hkeys⟩ := Option.isSome_iff_exists.1 (Event.invalidation?_of_stage? hs)
    have hmem : keys' ∈ after.filterMap Event.invalidation? := List.mem_filterMap.2 ⟨y, hy, hkeys⟩
    have htold := congrArg List.length hc.invalidations
    have hfirst : (Event.call (.invalidate keys)).invalidation? = some keys := rfl
    rw [hevents, List.filterMap_append, List.filterMap_cons_some hfirst, List.length_append,
      List.length_cons] at htold
    have hpos := List.length_pos_of_mem hmem
    have hle : told.toList.length ≤ 1 := by cases told <;> simp
    omega

end Course

/-- Whatever the schedule chooses and whoever fails, a deploy brings one
group after another to the bucket, then deletes one batch after another,
and then tells the distributions. No stage begins before the uploads of
the stages before it are over. -/
theorem keeps_order (d : Deployment σ) (schedule : Group.Schedule σ) (w : σ) :
    d.Sequential (d.run schedule w) := by
  obtain ⟨h, log, told, hc⟩ := d.run_course schedule w
  have hgroup : ∀ {path : Text} {i : Nat}, d.rules.InGroup path i → d.rules.groupOf path = i :=
    fun hi => Rules.groupOf_eq_iff.2 hi
  refine ⟨d.length_groupsOf d.kept, fun f hf => ?_, hc.stages_sorted,
    fun before hb key => hc.endsOf_le_startsOf hb key, ?_, ?_, ?_,
    fun before keys after hevents y hy => hc.telling_last hevents hy⟩
  · refine ⟨d.rules.groupOf f.path, ?_, d.rules.inGroup_groupOf f.path, fun j group hj => ?_⟩
    · exact Nat.le_of_lt_succ (d.rules.groupOf_lt f.path)
    · rw [mem_group_iff hj]
      exact ⟨fun h => h.2.symm, fun h => ⟨hf, h.symm⟩⟩
  · -- A file of a later group is read or uploaded at the stage of that group.
    intro f g i j hi hj hij before x after hevents hx
    have hlt : Stage.group (d.rules.groupOf f.path) < .group (d.rules.groupOf g.path) := by
      rw [hgroup hi, hgroup hj]
      exact Stage.group_lt_group.2 hij
    have hstage : x.stage? d.rules = some (.group (d.rules.groupOf g.path)) := by
      obtain rfl | ⟨u, acl, rfl, hkey⟩ := hx
      · rfl
      · show some (d.rules.stageOfKey u.file.key) = _
        rw [hkey, Rules.stageOfKey_bucketKey]
    refine ⟨hc.read_not_mem hevents hstage hlt, hc.uploads_over hevents hstage ?_⟩
    rw [Rules.stageOfKey_bucketKey]
    exact hlt
  · -- Deletions come behind every group.
    intro before keys after hevents
    have hstage : (Event.call (.delete keys)).stage? d.rules = some .deleting := rfl
    exact ⟨fun f => hc.read_not_mem hevents hstage Stage.group_lt_deleting,
      fun key => hc.uploads_over hevents hstage Stage.group_lt_deleting⟩
  · obtain ⟨s, t, -, hdeleted, hworld⟩ := hc.world
    exact ⟨s, log, t, told, hdeleted, hc.deletions, hc.invalidations, hworld⟩

/-- The small site in two groups: what has a `b` in its path comes last. -/
def inTwoGroups : Deployment Bucket :=
  { Sample.deployment with rules := { Sample.rules with order := [.set (.ofChar 'b')] } }

/-- When `b` is read, the only other file is read and its upload is
over. -/
theorem keeps_order_sample :
    ∃ before after, (inTwoGroups.run Group.oneByOne Sample.bucket).events
        = before ++ .call (.read ⟨['b'], ['b'], 1⟩) :: after ∧
      Event.call (.read ⟨['a'], ['a'], 1⟩) ∉ after ∧ Over "my/a".toList before after := by
  have hreliable : inTwoGroups.Reliable := reliable_of_memory rfl (by decide) rfl rfl
  obtain ⟨h, log, told, hc⟩ := inTwoGroups.run_course Group.oneByOne Sample.bucket
  obtain ⟨t, ht⟩ := hreliable.run_ok Group.oneByOne Sample.bucket
  have hread : (⟨['b'], ['b'], 1⟩ : WalkedFile) ∈ h.reads := by
    rw [hc.reads_eq ht, inTwoGroups.ordered_perm.mem_iff]
    decide
  rw [← hc.reads] at hread
  obtain ⟨x, hx, hpick⟩ := List.mem_filterMap.1 hread
  obtain ⟨before, after, hevents⟩ := List.append_of_mem hx
  obtain rfl := Event.eq_of_read? hpick
  obtain ⟨hread, hover⟩ := (keeps_order inTwoGroups Group.oneByOne Sample.bucket).files
    ⟨['a'], ['a'], 1⟩ ⟨['b'], ['b'], 1⟩ 0 1 (Rules.groupOf_eq_iff.1 (by decide))
    (Rules.groupOf_eq_iff.1 (by decide)) (by decide) before _ after hevents (.inl rfl)
  exact ⟨before, after, hevents, hread, hover⟩

end Deployment

end SiteSync
