import SiteSync.Deploy.Basic

/-!
# `SiteSync.Proofs.Deploy.Effects`: the part of a trace that others see

Most events of a deploy are log lines and progress. Its *effects* are
the rest: the calls of the collaborators and the ends of the uploads.
`RunState.effects` keeps them, the first of them first, and the
projections of `Event` pick the calls of one kind.

The simp lemmas `effects_…` say that logging adds no effect, so the
proofs about a deploy never look at its log.

`Asked` is a run of requests to one collaborator: what was asked, how
each request ended, and the state that the last of them left.
`Attempt.error?` is what a request that did not succeed means for the
deploy.
-/

set_option autoImplicit false

namespace SiteSync

/-! ### Attempts that do not succeed -/

namespace Attempt

variable {ε α : Type} {wrap : ε → Error} {a : Attempt ε α}

/-- What an attempt that does not succeed is to a deploy: an error of
its own, or the death of whoever made the attempt. -/
def error? (wrap : ε → Error) : Attempt ε α → Option Error
  | .done _ => none
  | .failed e => some (wrap e)
  | .died => some .task

/-- An attempt means no error to a deploy if it succeeds, and only then.
-/
theorem error?_eq_none_iff : a.error? wrap = none ↔ ∃ v, a = .done v := by
  cases a <;> simp [error?]

/-- There are two ways not to succeed. -/
theorem error?_eq_some_iff {e : Error} : a.error? wrap = some e ↔
    (∃ cause, a = .failed cause ∧ e = wrap cause) ∨ (a = .died ∧ e = .task) := by
  cases a <;> simp [error?, eq_comm]

/-- What means an error has not succeeded. -/
theorem ne_done_of_error? {e : Error} (h : a.error? wrap = some e) (v : α) : a ≠ .done v := by
  rintro rfl
  cases h

/-- An attempt without a result of its own that means no error has
succeeded. -/
theorem eq_done_of_error? {a : Attempt ε Unit} (h : a.error? wrap = none) : a = .done () := by
  obtain ⟨_, rfl⟩ := error?_eq_none_iff.1 h
  rfl

end Attempt

/-! ### Kinds of events -/

namespace Event

/-- Whether an event concerns a collaborator: a call, or the end of an
upload. -/
def isEffect : Event → Bool
  | .call _ => true
  | .putEnded _ _ => true
  | .progress _ => false
  | .log _ => false

/-- The file that is to be read. -/
def read? : Event → Option WalkedFile
  | .call (.read f) => some f
  | _ => none

/-- The upload that the bucket is to take, and its access rule. -/
def put? : Event → Option (Upload × Option Text)
  | .call (.put u acl) => some (u, acl)
  | _ => none

/-- The event in which a file is read is the call for it. -/
theorem eq_of_read? {e : Event} {f : WalkedFile} (h : e.read? = some f) : e = .call (.read f) := by
  unfold read? at h
  split at h
  · cases h
    rfl
  · cases h

/-- The event in which an upload is put is the call for it. -/
theorem eq_of_put? {e : Event} {x : Upload × Option Text} (h : e.put? = some x) :
    e = .call (.put x.1 x.2) := by
  unfold put? at h
  split at h
  · cases h
    rfl
  · cases h

/-- The keys that the bucket is to delete. -/
def deletion? : Event → Option (List Text)
  | .call (.delete keys) => some keys
  | _ => none

/-- The keys that the distributions are to forget. -/
def invalidation? : Event → Option (List Text)
  | .call (.invalidate keys) => some keys
  | _ => none

end Event

/-! ### The effects of a run -/

namespace RunState

variable {σ : Type}

/-- What a deploy did to others, the first of it first. -/
def effects (r : RunState σ) : List Event := (r.trace.filter Event.isEffect).reverse

/-- Log lines are all that `relay` changes. -/
theorem relay_eq (lines : List LogLine) (r : RunState σ) :
    relay lines r = { r with trace := (lines.map Event.log).reverse ++ r.trace } := by
  induction lines generalizing r with
  | nil => rfl
  | cons l lines ih =>
    show relay lines (r.emit (.log l)) = _
    rw [ih]
    simp [emit]

/-- The state and the log are all that `absorb` changes. -/
theorem absorb_eq {ε α : Type} (reply : Reply σ ε α) (r : RunState σ) :
    r.absorb reply = { r with
      world := reply.state, trace := (reply.said.map Event.log).reverse ++ r.trace } :=
  relay_eq _ _

/-- An event adds itself if it is an effect, and nothing otherwise. -/
theorem effects_emit (e : Event) (r : RunState σ) :
    (r.emit e).effects = r.effects ++ if e.isEffect then [e] else [] := by
  cases h : e.isEffect <;> simp [effects, emit, h]

/-- Saying something adds no effect. -/
@[simp] theorem effects_say (level : LogLevel) (source : LogSource) (text : Text)
    (r : RunState σ) : (r.say level source text).effects = r.effects := by
  simp [say, effects_emit, Event.isEffect]

/-- Neither does passing on what a collaborator said. -/
@[simp] theorem effects_relay (lines : List LogLine) (r : RunState σ) :
    (relay lines r).effects = r.effects := by
  rw [relay_eq]
  simp only [effects, List.filter_append, List.filter_reverse]
  rw [List.filter_eq_nil_iff.2 (by simp [Event.isEffect])]
  rfl

/-- Taking over the state and the words of a reply adds none. -/
@[simp] theorem effects_absorb {ε α : Type} (reply : Reply σ ε α) (r : RunState σ) :
    (r.absorb reply).effects = r.effects :=
  effects_relay _ _

/-- Recording an error adds none. -/
@[simp] theorem effects_fail (e : Error) (r : RunState σ) : (r.fail e).effects = r.effects := rfl

/-- `r.Quiet r'` says that `r'` is `r` but for its log and what it shows
of the progress. -/
structure Quiet (r r' : RunState σ) : Prop where
  /-- The log is all that differs. -/
  eq : r' = { r with trace := r'.trace }
  /-- Nothing was asked of anybody. -/
  effects : r'.effects = r.effects

namespace Quiet

variable {r r' r'' : RunState σ}

/-- Doing nothing is quiet. -/
theorem refl (r : RunState σ) : r.Quiet r := ⟨rfl, rfl⟩

/-- What is quiet twice is quiet. -/
theorem trans (h : r.Quiet r') (h' : r'.Quiet r'') : r.Quiet r'' where
  eq := by rw [h'.eq, h.eq]
  effects := h'.effects.trans h.effects

/-- An event that is no effect is quiet. -/
theorem emit {e : Event} (he : e.isEffect = false) (r : RunState σ) : r.Quiet (r.emit e) where
  eq := rfl
  effects := by rw [effects_emit, he]; exact List.append_nil _

/-- Saying something is quiet. -/
theorem say (level : LogLevel) (source : LogSource) (text : Text) (r : RunState σ) :
    r.Quiet (r.say level source text) :=
  emit rfl r

/-- Passing on what a collaborator said is quiet. -/
theorem relay (lines : List LogLine) (r : RunState σ) : r.Quiet (RunState.relay lines r) where
  eq := by rw [relay_eq]
  effects := effects_relay lines r

end Quiet

end RunState

/-! ### Requests one after another -/

/-- `Asked ask s log t`: the requests of `log` were made one after
another from the state `s`, each ended as `log` says, and the state
after them is `t`. -/
inductive Asked {σ ε α : Type} (ask : α → σ → Reply σ ε Unit) (s : σ) :
    List (α × Attempt ε Unit) → σ → Prop where
  | nil : Asked ask s [] s
  | snoc {log : List (α × Attempt ε Unit)} {t : σ} (h : Asked ask s log t) (a : α) :
      Asked ask s (log ++ [(a, (ask a t).outcome)]) (ask a t).state

namespace Asked

variable {σ ε α : Type} {ask : α → σ → Reply σ ε Unit}

/-- One request is a run of requests. -/
theorem single (a : α) (s : σ) : Asked ask s [(a, (ask a s).outcome)] (ask a s).state :=
  .snoc .nil a

/-- Requests after requests are one run. -/
theorem trans {s t u : σ} {l m : List (α × Attempt ε Unit)} (hl : Asked ask s l t)
    (hm : Asked ask t m u) : Asked ask s (l ++ m) u := by
  induction hm with
  | nil => rw [List.append_nil]; exact hl
  | snoc _ a ih => rw [← List.append_assoc]; exact ih.snoc a

/-- Without a request the state stays. -/
theorem eq_of_nil {s t : σ} (h : Asked ask s [] t) : t = s := by
  -- The cases need the log as a variable.
  generalize hl : ([] : List (α × Attempt ε Unit)) = log at h
  cases h with
  | nil => rfl
  | snoc _ a => exact absurd hl.symm (by simp)

/-- Every request ended as it did in some state. -/
theorem exists_state {s t : σ} {log : List (α × Attempt ε Unit)} (h : Asked ask s log t)
    {x : α × Attempt ε Unit} (hx : x ∈ log) : ∃ s, x.2 = (ask x.1 s).outcome := by
  induction h with
  | nil => exact nomatch hx
  | @snoc log t _ a ih =>
    rcases List.mem_append.1 hx with hx | hx
    · exact ih hx
    · rw [List.mem_singleton.1 hx]
      exact ⟨t, rfl⟩

/-- What every request preserves, the requests preserve together. -/
theorem preserves {P : σ → Prop} {s t : σ} {log : List (α × Attempt ε Unit)}
    (h : Asked ask s log t) (hs : P s)
    (hstep : ∀ x ∈ log, ∀ s, P s → x.2 = (ask x.1 s).outcome → P (ask x.1 s).state) : P t := by
  induction h with
  | nil => exact hs
  | @snoc log t _ a ih =>
    -- The last request starts from the state that the others have left.
    have ht : P t := ih fun x hx => hstep x (by simp [hx])
    exact hstep (a, (ask a t).outcome) (by simp) t ht rfl

end Asked

end SiteSync
