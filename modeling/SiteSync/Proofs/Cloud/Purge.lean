import Mathlib.Data.List.Nodup
import SiteSync.Cloud.DistributionClient
import SiteSync.Cloud.Server
import SiteSync.Proofs.Cdn.Coverage
import SiteSync.Proofs.Cdn.Origin
import SiteSync.Proofs.Deploy.Contracts

/-!
# `SiteSync.Proofs.Cloud.Purge`: every distribution forgets every changed key

What a client asks of the cloud is seen in a service that writes down
every request and its answer. Writing down changes nothing else, so the
record is that of the plain run.

- `Dialogue`, `Conversation`: the requests for one distribution, and for
  one after another up to the first that fails.
- `invalidateAll_recorded`: a run is such a conversation.
- `purges_request`: the patterns that are sent are few, and cover the
  paths of all changed keys.
- `DistributionClient.purges`: both together.
-/

set_option autoImplicit false

namespace SiteSync

variable {σ : Type}

/-- A reply of a run with a record, from the reply without it. -/
def Reply.withRecord {ε α ρ : Type} (r : Reply σ ε α) (record : ρ) : Reply (σ × ρ) ε α :=
  ⟨r.outcome, (r.state, record), r.said⟩

namespace Cloud

/-! ### A service that writes down its requests -/

/-- A request to the cloud, and what was answered. -/
inductive Exchange where
  /-- A page was asked for. -/
  | list (request : ListRequest) (answer : Except Text Page)
  /-- An object was put. -/
  | put (request : PutRequest) (answer : Except Text Unit)
  /-- Objects were deleted. -/
  | delete (request : DeleteRequest) (answer : Except Text (List DeleteFailure))
  /-- A distribution was asked about. -/
  | origins (id : Text) (answer : Except Text (List (Option Text)))
  /-- A distribution was to forget some paths. -/
  | invalidate (request : InvalidationRequest) (answer : Except Text Unit)

/-- Answers a request, and writes it down behind the earlier ones. -/
def recording {α : Type} (exchange : Except Text α → Exchange) (ask : σ → Except Text α × σ)
    (s : σ × List Exchange) : Except Text α × σ × List Exchange :=
  let answer := ask s.1
  (answer.1, answer.2, s.2 ++ [exchange answer.1])

/-- The same service, with a record of the requests in its state. -/
def Service.recorded (v : Service σ) : Service (σ × List Exchange) where
  list := fun r => recording (.list r) (v.list r)
  put := fun r => recording (.put r) (v.put r)
  delete := fun r => recording (.delete r) (v.delete r)
  origins := fun id => recording (.origins id) (v.origins id)
  invalidate := fun r => recording (.invalidate r) (v.invalidate r)

/-- The same distributions, asked through a service that keeps a
record. -/
def DistributionClient.recorded (c : DistributionClient σ) :
    DistributionClient (σ × List Exchange) :=
  ⟨c.service.recorded, c.ids, c.bucketPath, c.force, c.reference⟩

/-! ### The order of the requests -/

/-- What may be asked for one distribution, and how that ends. `P` is what
an invalidation has to satisfy for the path of the first origin. -/
inductive Dialogue (P : Text → InvalidationRequest → Prop) (id : Text) :
    List Exchange → Attempt DistributionError Unit → Prop
  /-- Without a name nothing can be sent. -/
  | unsent (hid : id = []) : Dialogue P id [] (.failed (.distribution id notSent))
  /-- The question fails. -/
  | unanswered (cause : Text) :
    Dialogue P id [.origins id (.error cause)] (.failed (.distribution id cause))
  /-- There is no origin. -/
  | originless : Dialogue P id [.origins id (.ok [])] (.failed (.noOrigin id))
  /-- The invalidation fails. -/
  | refused (path : Option Text) (more : List (Option Text)) (r : InvalidationRequest)
    (cause : Text) (hr : P (path.getD []) r) :
    Dialogue P id [.origins id (.ok (path :: more)), .invalidate r (.error cause)]
      (.failed (.invalidation id r.quantity cause))
  /-- Both succeed. -/
  | told (path : Option Text) (more : List (Option Text)) (r : InvalidationRequest)
    (hr : P (path.getD []) r) :
    Dialogue P id [.origins id (.ok (path :: more)), .invalidate r (.ok ())] (.done ())

/-- One distribution after another, in their order, up to the first that
fails. -/
inductive Conversation (P : Text → Text → InvalidationRequest → Prop) :
    List Text → List Exchange → Attempt DistributionError Unit → Prop
  /-- There is none left. -/
  | nil : Conversation P [] [] (.done ())
  /-- The first has forgotten, and the next one follows. -/
  | next {id : Text} {ids : List Text} {here there : List Exchange}
    {outcome : Attempt DistributionError Unit} (first : Dialogue (P id) id here (.done ()))
    (rest : Conversation P ids there outcome) : Conversation P (id :: ids) (here ++ there) outcome
  /-- The first fails, and is the last. -/
  | stop {id : Text} {ids : List Text} {here : List Exchange} {e : DistributionError}
    (first : Dialogue (P id) id here (.failed e)) : Conversation P (id :: ids) here (.failed e)

namespace DistributionClient

variable {c : DistributionClient σ} {P : Text → Text → InvalidationRequest → Prop}
  {keys : List Text}

/-- What is asked for one distribution is a dialogue, and is written
down behind what was asked before. -/
theorem invalidateOne_recorded (hP : ∀ id path, P id path (c.request id (c.reduction path keys)))
    (id : Text) (s : σ) (log : List Exchange) :
    ∃ here, Dialogue (P id) id here (c.invalidateOne keys id s).outcome ∧
      c.recorded.invalidateOne keys id (s, log) =
        (c.invalidateOne keys id s).withRecord (log ++ here) := by
  unfold invalidateOne originPath
  by_cases hid : isDistribution id = true
  · have hasked : c.recorded.service.origins id (s, log) = ((c.service.origins id s).1,
        (c.service.origins id s).2, log ++ [.origins id (c.service.origins id s).1]) := rfl
    rw [send, send, if_pos hid, if_pos hid, hasked]
    obtain ⟨answer, s⟩ := c.service.origins id s
    cases answer with
    | error cause => exact ⟨_, .unanswered cause, rfl⟩
    | ok found =>
      cases found with
      | nil => exact ⟨_, .originless, rfl⟩
      | cons path more =>
        dsimp only
        -- The request is the same with the record and without it.
        have hsame : c.recorded.request id (c.recorded.reduction (path.getD []) keys)
            = c.request id (c.reduction (path.getD []) keys) := rfl
        have hr := hP id (path.getD [])
        rw [hsame]
        generalize c.request id (c.reduction (path.getD []) keys) = r at hr ⊢
        have hsent : ∀ log, c.recorded.service.invalidate r (s, log) =
            ((c.service.invalidate r s).1, (c.service.invalidate r s).2,
              log ++ [.invalidate r (c.service.invalidate r s).1]) := fun _ => rfl
        rw [send, send, if_pos hid, if_pos hid, hsent, List.append_assoc]
        obtain ⟨answer, s⟩ := c.service.invalidate r s
        cases answer with
        | error cause => exact ⟨_, .refused path more r cause hr, rfl⟩
        | ok => exact ⟨_, .told path more r hr, rfl⟩
  · -- Nothing is sent without a name, so nothing is written down.
    have hnil : id = [] := by simpa [isDistribution] using hid
    rw [send, send, if_neg hid, if_neg hid]
    refine ⟨[], .unsent hnil, ?_⟩
    rw [List.append_nil]
    rfl

/-- A run goes on behind a distribution that has forgotten. -/
theorem invalidateAll_of_done {id : Text} {s : σ}
    (h : (c.invalidateOne keys id s).outcome = .done ()) (ids : List Text) :
    let rest := c.invalidateAll keys ids (c.invalidateOne keys id s).state
    c.invalidateAll keys (id :: ids) s =
      ⟨rest.outcome, rest.state, (c.invalidateOne keys id s).said ++ rest.said⟩ := by
  rw [invalidateAll]
  dsimp only
  rw [h]

/-- It ends with one that fails. -/
theorem invalidateAll_of_failed {id : Text} {s : σ} {e : DistributionError}
    (h : (c.invalidateOne keys id s).outcome = .failed e) (ids : List Text) :
    c.invalidateAll keys (id :: ids) s = c.invalidateOne keys id s := by
  rw [invalidateAll]
  dsimp only
  rw [h]

/-- The requests of a run are a conversation about the distributions. -/
theorem invalidateAll_recorded (hP : ∀ id path, P id path (c.request id (c.reduction path keys)))
    (ids : List Text) (s : σ) (log : List Exchange) :
    ∃ asked, Conversation P ids asked (c.invalidateAll keys ids s).outcome ∧
      c.recorded.invalidateAll keys ids (s, log) =
        (c.invalidateAll keys ids s).withRecord (log ++ asked) := by
  -- The rest of the run starts with what the first distribution has left in the record.
  induction ids generalizing s log with
  | nil =>
    refine ⟨[], .nil, ?_⟩
    rw [List.append_nil]
    rfl
  | cons id ids ih =>
    obtain ⟨here, hdialogue, hhere⟩ := invalidateOne_recorded hP id s log
    have houtcome : (c.recorded.invalidateOne keys id (s, log)).outcome
        = (c.invalidateOne keys id s).outcome := congrArg Reply.outcome hhere
    cases h : (c.invalidateOne keys id s).outcome with
    | done =>
      obtain ⟨there, hthere, hrest⟩ := ih (c.invalidateOne keys id s).state (log ++ here)
      have hstate : ((c.invalidateOne keys id s).withRecord (log ++ here)).state
          = ((c.invalidateOne keys id s).state, log ++ here) := rfl
      rw [h] at hdialogue houtcome
      rw [invalidateAll_of_done h, invalidateAll_of_done houtcome, hhere, hstate, hrest,
        List.append_assoc]
      exact ⟨here ++ there, .next hdialogue hthere, rfl⟩
    | failed e =>
      rw [h] at hdialogue houtcome
      rw [invalidateAll_of_failed h, invalidateAll_of_failed houtcome, hhere, h]
      exact ⟨here, .stop hdialogue, rfl⟩
    | died =>
      rw [h] at hdialogue
      cases hdialogue

/-! ### What is sent -/

/-- An invalidation of one distribution, whose first origin has some path,
purges some keys: it has a few patterns, as many as it says and each of
them once, and every key is served at a path that one of them covers. -/
structure Purges (bucketPath : Text) (keys : List Text) (id originPath : Text)
    (r : InvalidationRequest) : Prop where
  /-- The distribution is the one that was asked about. -/
  distribution : r.distribution = id
  /-- The number of patterns is right. -/
  quantity : r.quantity = r.paths.length
  /-- There is a pattern. -/
  pos : 1 ≤ r.paths.length
  /-- There are at most eight. -/
  le : r.paths.length ≤ 8
  /-- None is there twice. -/
  nodup : r.paths.Nodup
  /-- Every key is covered, as its page is asked for. -/
  covers : ∀ key ∈ keys, ∃ x ∈ r.paths, Cdn.Covers x
    (Cdn.escape (Cdn.requested (Cdn.servedPath key (Cdn.webRoot bucketPath originPath).subPath)))

/-- The keys of some files of a site. -/
def AreKeys (r : Rules) (keys : List Text) : Prop :=
  ∀ key ∈ keys, ∃ path, key = r.bucketKey path ∧ ∀ s ∈ Path.segments path, Path.Plain s

/-- The patterns for the keys of a site cover the paths of all of
them. -/
theorem exists_covers_key {r : Rules} (hrules : r.bucketPath = Path.trimSlashes c.bucketPath)
    (hplace : Cdn.IsPlace r.bucketPath) (hkeys : AreKeys r keys) (originPath : Text) :
    ∀ key ∈ keys, ∃ x ∈ (c.reduction originPath keys).patterns, Cdn.Covers x
      (Cdn.requested (Cdn.servedPath key (Cdn.webRoot c.bucketPath originPath).subPath)) := by
  obtain ⟨ss, hunder⟩ := Cdn.exists_servedUnder r hrules hplace originPath
  let served := (Cdn.servedPath · (Cdn.webRoot c.bucketPath originPath).subPath)
  -- Every key is served below the root of the site, as the keys are those of files.
  have hbelow : ∀ p ∈ keys.map served, Cdn.Below ss p := by
    intro p hp
    obtain ⟨key, hkey, rfl⟩ := List.mem_map.1 hp
    obtain ⟨path, rfl, hpath⟩ := hkeys key hkey
    refine ⟨Path.segments path, Text.split_ne_nil '/' path, fun s hs => ?_,
      hunder.served path hpath⟩
    exact (List.mem_append.1 hs).elim (hunder.plain s) (hpath s)
  intro key hkey
  exact Cdn.exists_covers_requested hunder.plain hunder.root hbelow (List.mem_map_of_mem hkey)

/-- So the request with these patterns purges the keys. -/
theorem purges_request {r : Rules} (hrules : r.bucketPath = Path.trimSlashes c.bucketPath)
    (hplace : Cdn.IsPlace r.bucketPath) (hkeys : AreKeys r keys) (hne : keys ≠ [])
    (id originPath : Text) :
    Purges c.bucketPath keys id originPath (c.request id (c.reduction originPath keys)) := by
  have hcovers := exists_covers_key hrules hplace hkeys originPath
  have hlength : (c.request id (c.reduction originPath keys)).paths.length
      = (c.reduction originPath keys).patterns.length := List.length_map _
  refine ⟨rfl, rfl, ?_, ?_, ?_, fun key hkey => ?_⟩
  · -- Some key has changed, and what covers it is a pattern.
    obtain ⟨key, hkey⟩ := List.exists_mem_of_ne_nil keys hne
    obtain ⟨x, hx, -⟩ := hcovers key hkey
    rw [hlength]
    exact List.length_pos_of_mem hx
  · rw [hlength]
    exact Cdn.length_invalidationPatterns_le (by decide) _ _ _
  · exact List.Nodup.map Cdn.escape_injective (Cdn.nodup_invalidationPatterns _ _ _ _)
  · obtain ⟨x, hx, hcovered⟩ := hcovers key hkey
    exact ⟨Cdn.escape x, List.mem_map_of_mem hx, hcovered.escape⟩

/-! ### The whole run -/

/-- Whatever changed in a site, and wherever its distributions have their
origins, each of them is asked about its origins and then told to forget
all changed files, one distribution after another and up to the first
request that fails. Without changes nothing is asked. -/
theorem purges (c : DistributionClient σ) (r : Rules)
    (hrules : r.bucketPath = Path.trimSlashes c.bucketPath) (hplace : Cdn.IsPlace r.bucketPath)
    {keys : List Text} (hkeys : AreKeys r keys) (s : σ) :
    ∃ log, c.recorded.invalidate keys (s, []) = (c.invalidate keys s).withRecord log ∧
      (keys = [] → log = [] ∧ (c.invalidate keys s).outcome = .done ()) ∧
      (keys ≠ [] → Conversation (Purges c.bucketPath keys) c.ids log
        (c.invalidate keys s).outcome) := by
  unfold invalidate
  split
  case isTrue hnil => exact ⟨[], rfl, fun _ => ⟨rfl, rfl⟩, fun hne => absurd hnil hne⟩
  case isFalse hne =>
    obtain ⟨log, hconversation, hrecorded⟩ :=
      invalidateAll_recorded (purges_request hrules hplace hkeys hne) c.ids s []
    exact ⟨log, hrecorded, fun hnil => absurd hnil hne, fun _ => hconversation⟩

/-- Two files of the small site have changed, and the one distribution
that serves it from its bucket path is asked and told. -/
theorem purges_sample :
    let server : Server := { distributions := [("E1".toList, ⟨[some "/my".toList], false⟩)] }
    let c : DistributionClient Server :=
      ⟨.inMemory, ["E1".toList], "/my/".toList, false, "20240229120000".toList⟩
    let keys := ["my/index.html".toList, "my/a b.css".toList]
    ∃ r, (c.recorded.invalidate keys (server, [])).state.2
        = [.origins "E1".toList (.ok [some "/my".toList]), .invalidate r (.ok ())] ∧
      Purges "/my/".toList keys "E1".toList "/my".toList r := by
  intro server c keys
  have hkeys : AreKeys Sample.rules keys := by
    refine List.forall_mem_cons.2 ⟨⟨"index.html".toList, by decide, by decide⟩, ?_⟩
    exact List.forall_mem_cons.2 ⟨⟨"a b.css".toList, by decide, by decide⟩, by simp⟩
  obtain ⟨log, hrecorded, -, hconversation⟩ :=
    purges c Sample.rules (by decide) (by decide) hkeys server
  have hlog : (c.recorded.invalidate keys (server, [])).state.2 = log :=
    congrArg (·.state.2) hrecorded
  have hdone : (c.invalidate keys server).outcome = .done () := rfl
  have hasked : log.head? = some (.origins "E1".toList (.ok [some "/my".toList])) := by
    rw [← hlog]
    rfl
  have hall := hconversation (by decide)
  rw [hdone] at hall
  rw [hlog]
  cases hall with
  | next first rest =>
    cases rest
    cases first with
    | told path more r hr =>
      cases hasked
      exact ⟨r, rfl, hr⟩

end DistributionClient

end Cloud

end SiteSync
