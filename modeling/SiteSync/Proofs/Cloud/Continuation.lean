import SiteSync.Proofs.Cloud.Listing

/-!
# `SiteSync.Proofs.Cloud.Continuation`: how a listing goes on

A page says whether more pages follow, and it has a token for the next
one. These are two fields, and a page may have the one without the other.
The loop goes on whenever more is to follow, and takes the token as it
is. Behind a page without a token it asks for the first page again, and
if that is the page it was just given, it asks so forever.

A listing that does not come back shows nothing of what it has asked, so
it is watched through a service that stops answering: `exchanges n` is
the record of the listing when the connection breaks after `n` answers.
The module goes from one turn of the loop to all of them:

- `turn`: a turn is the last one, or its page says that more follow.
- `exchanges_eq`: what is asked is known without running the loop.
- `died_iff`: the listing does not come back if it asks without end.
- `exists_recorded_list_eq`: if it comes back, its record is what it
  has asked.
- `continues_by_token_iff`: when every request but the first has a token,
  and which page is asked for again and again.
-/

set_option autoImplicit false

namespace SiteSync.Cloud

variable {σ : Type}

/-- What is said when the connection is broken. -/
def hungUp : Text := "connection closed".toList

/-- The same service with a record. It gives no more pages when there are
`n` exchanges in the record. -/
def Service.cutAfter (v : Service σ) (n : Nat) : Service (σ × List Exchange) :=
  { v.recorded with
    list := fun r s => if s.2.length < n then v.recorded.list r s else (.error hungUp, s) }

namespace BucketClient

/-- The same bucket, asked through a service that breaks off after `n`
exchanges. -/
def cutAfter (c : BucketClient σ) (n : Nat) : BucketClient (σ × List Exchange) :=
  ⟨c.service.cutAfter n, c.bucket⟩

/-- The first `n` exchanges of a listing, or all of them if they are
fewer. -/
def exchanges (c : BucketClient σ) (start : Text) (s : σ) (n : Nat) : List Exchange :=
  ((c.cutAfter n).list start (s, [])).state.2

variable {c : BucketClient σ} {start : Text} {token : Option Text} {found : Inventory}
  {s t : σ} {page : Page} {cause : Text} {n m : Nat}

/-! ### One turn -/

/-- What comes of asking for one page. -/
inductive Turn (c : BucketClient σ) (start : Text) (token : Option Text) (s : σ) : Prop
  /-- Nothing is asked of a bucket without a name. -/
  | unnamed (hname : c.bucket = [])
  /-- There is no page. -/
  | failed {cause : Text} {t : σ} (hname : c.bucket ≠ [])
    (answer : c.service.list ⟨c.bucket, start, token⟩ s = (.error cause, t))
  /-- The page is the last one. -/
  | last {page : Page} {t : σ} (hname : c.bucket ≠ [])
    (answer : c.service.list ⟨c.bucket, start, token⟩ s = (.ok page, t))
    (hlast : page.isTruncated = false)
  /-- More pages follow. -/
  | more {page : Page} {t : σ} (hname : c.bucket ≠ [])
    (answer : c.service.list ⟨c.bucket, start, token⟩ s = (.ok page, t))
    (hmore : page.isTruncated = true)

/-- Nothing else can come of it. -/
theorem turn (c : BucketClient σ) (start : Text) (token : Option Text) (s : σ) :
    Turn c start token s := by
  by_cases hname : c.bucket = []
  · exact .unnamed hname
  · cases hanswer : c.service.list ⟨c.bucket, start, token⟩ s with
    | mk answer t =>
      cases answer with
      | error cause => exact .failed hname hanswer
      | ok page =>
        cases htruncated : page.isTruncated with
        | false => exact .last hname hanswer htruncated
        | true => exact .more hname hanswer htruncated

/-! ### All turns -/

/-- The first `n` exchanges of the loop from a token on, as the service
answers. -/
def dialogue (c : BucketClient σ) (start : Text) : Nat → Option Text → σ → List Exchange
  | 0, _, _ => []
  | n + 1, token, s =>
    let request : ListRequest := ⟨c.bucket, start, token⟩
    if request.canBeSent then
      match c.service.list request s with
      | (.ok page, t) =>
        .list request (.ok page) ::
          if page.isTruncated then dialogue c start n page.token t else []
      | (.error cause, _) => [.list request (.error cause)]
    else []

/-- A bucket without a name is asked nothing. -/
theorem dialogue_of_unnamed (hname : c.bucket = []) : c.dialogue start n token s = [] := by
  cases n with
  | zero => rfl
  | succ n =>
    rw [dialogue, ListRequest.canBeSent, hname]
    rfl

/-- The loop ends with a request that fails. -/
theorem dialogue_of_error (hname : c.bucket ≠ [])
    (answer : c.service.list ⟨c.bucket, start, token⟩ s = (.error cause, t)) :
    c.dialogue start (n + 1) token s = [.list ⟨c.bucket, start, token⟩ (.error cause)] := by
  rw [dialogue, if_pos (ListRequest.canBeSent_iff.2 hname), answer]

/-- It ends with a page behind which there is none. -/
theorem dialogue_of_last (hname : c.bucket ≠ [])
    (answer : c.service.list ⟨c.bucket, start, token⟩ s = (.ok page, t))
    (hlast : page.isTruncated = false) :
    c.dialogue start (n + 1) token s = [.list ⟨c.bucket, start, token⟩ (.ok page)] := by
  rw [dialogue, if_pos (ListRequest.canBeSent_iff.2 hname), answer]
  dsimp only
  rw [hlast, if_neg Bool.false_ne_true]

/-- Otherwise the token of the page is asked with next. -/
theorem dialogue_of_more (hname : c.bucket ≠ [])
    (answer : c.service.list ⟨c.bucket, start, token⟩ s = (.ok page, t))
    (hmore : page.isTruncated = true) :
    c.dialogue start (n + 1) token s =
      .list ⟨c.bucket, start, token⟩ (.ok page) :: c.dialogue start n page.token t := by
  rw [dialogue, if_pos (ListRequest.canBeSent_iff.2 hname), answer]
  dsimp only
  rw [if_pos hmore]

/-- There are no more exchanges than turns. -/
theorem length_dialogue_le (c : BucketClient σ) (start : Text) (n : Nat) (token : Option Text)
    (s : σ) : (c.dialogue start n token s).length ≤ n := by
  induction n generalizing token s with
  | zero => exact Nat.le_refl 0
  | succ n ih =>
    cases c.turn start token s with
    | unnamed hname =>
      rw [dialogue_of_unnamed hname]
      exact Nat.zero_le _
    | failed hname answer =>
      rw [dialogue_of_error hname answer]
      exact Nat.succ_le_succ (Nat.zero_le n)
    | last hname answer hlast =>
      rw [dialogue_of_last hname answer hlast]
      exact Nat.succ_le_succ (Nat.zero_le n)
    | @more page t hname answer hmore =>
      rw [dialogue_of_more hname answer hmore]
      exact Nat.succ_le_succ (ih page.token t)

/-- A dialogue that ends before `n` exchanges is the same for every later
end. -/
theorem dialogue_eq_of_length_lt (h : (c.dialogue start n token s).length < n) (hle : n ≤ m) :
    c.dialogue start m token s = c.dialogue start n token s := by
  induction n generalizing m token s with
  | zero => exact absurd h (Nat.not_lt_zero _)
  | succ n ih =>
    obtain ⟨m, rfl⟩ : ∃ k, m = k + 1 := Nat.exists_eq_succ_of_ne_zero (by omega)
    cases c.turn start token s with
    | unnamed hname => rw [dialogue_of_unnamed hname, dialogue_of_unnamed hname]
    | failed hname answer => rw [dialogue_of_error hname answer, dialogue_of_error hname answer]
    | last hname answer hlast =>
      rw [dialogue_of_last hname answer hlast, dialogue_of_last hname answer hlast]
    | more hname answer hmore =>
      rw [dialogue_of_more hname answer hmore] at h ⊢
      rw [dialogue_of_more hname answer hmore,
        ih (Nat.lt_of_succ_lt_succ h) (Nat.le_of_succ_le_succ hle)]

/-! ### The loop and its dialogue -/

/-- A loop whose dialogue ends comes back, and its record is the
dialogue. -/
theorem pages_eq_of_length_lt (h : (c.dialogue start n token s).length < n) (found : Inventory) :
    ∃ r t, c.pages start token found s = some (r, t) ∧ ∀ log,
      c.recorded.pages start token found (s, log) =
        some (r, t, log ++ c.dialogue start n token s) := by
  induction n generalizing token found s with
  | zero => exact absurd h (Nat.not_lt_zero _)
  | succ n ih =>
    cases c.turn start token s with
    | unnamed hname =>
      refine ⟨_, _, pages_of_unnamed hname, fun log => ?_⟩
      rw [dialogue_of_unnamed hname, List.append_nil]
      exact pages_of_unnamed (c := c.recorded) hname
    | failed hname answer =>
      refine ⟨_, _, pages_of_error hname answer, fun log => ?_⟩
      rw [dialogue_of_error hname answer]
      exact pages_of_error (c := c.recorded) hname (Service.recorded_list answer log)
    | last hname answer hlast =>
      refine ⟨_, _, pages_of_last hname answer hlast, fun log => ?_⟩
      rw [dialogue_of_last hname answer hlast]
      exact pages_of_last (c := c.recorded) hname (Service.recorded_list answer log) hlast
    | @more page t hname answer hmore =>
      -- What follows has an exchange less to go.
      rw [dialogue_of_more hname answer hmore] at h
      obtain ⟨r, u, hplain, hrecorded⟩ :=
        ih (Nat.lt_of_succ_lt_succ h) (page.objects.foldl Inventory.insert found)
      refine ⟨r, u, (pages_of_more hname answer hmore).trans hplain, fun log => ?_⟩
      refine (pages_of_more (c := c.recorded) hname (Service.recorded_list answer log)
        hmore).trans ?_
      rw [hrecorded, dialogue_of_more hname answer hmore, List.append_assoc]
      rfl

/-- A loop that comes back has a dialogue that ends. The induction is on
the approximations of the loop. -/
theorem exists_length_lt_of_pages {r : Except Text Inventory × σ}
    (h : c.pages start token found s = some r) :
    ∃ n, (c.dialogue start n token s).length < n := by
  refine pages.partial_correctness c start
    (fun token _ s _ => ∃ n, (c.dialogue start n token s).length < n) ?_ token found s r h
  intro loop ih token found s r hstep
  cases c.turn start token s with
  | unnamed hname => exact ⟨1, by rw [dialogue_of_unnamed hname]; exact Nat.one_pos⟩
  | failed hname answer =>
    exact ⟨2, by rw [dialogue_of_error hname answer]; exact Nat.one_lt_two⟩
  | last hname answer hlast =>
    exact ⟨2, by rw [dialogue_of_last hname answer hlast]; exact Nat.one_lt_two⟩
  | more hname answer hmore =>
    -- The approximation takes the same turn as the loop.
    dsimp only at hstep
    rw [send_list hname, answer] at hstep
    dsimp only at hstep
    rw [if_pos hmore] at hstep
    obtain ⟨n, hn⟩ := ih _ _ _ _ hstep
    refine ⟨n + 1, ?_⟩
    rw [dialogue_of_more hname answer hmore]
    exact Nat.succ_lt_succ hn

/-- With a service that breaks off the loop comes back, and leaves as much
of its dialogue in the record as there was room for. -/
theorem exists_pages_cutAfter (c : BucketClient σ) (start : Text) (k : Nat)
    (token : Option Text) (found : Inventory) (s : σ) (log : List Exchange) :
    ∃ r t, (c.cutAfter (log.length + k)).pages start token found (s, log) =
      some (r, t, log ++ c.dialogue start k token s) := by
  induction k generalizing token found s log with
  | zero =>
    rw [dialogue, List.append_nil]
    by_cases hname : c.bucket = []
    · exact ⟨_, _, pages_of_unnamed (c := c.cutAfter _) hname⟩
    · exact ⟨_, _, pages_of_error (c := c.cutAfter _) hname (if_neg (Nat.lt_irrefl _))⟩
  | succ k ih =>
    -- There is room for one more exchange, so this turn is that of the service itself.
    have hroom : log.length < log.length + (k + 1) := Nat.lt_add_of_pos_right k.succ_pos
    have hturn : ∀ {answer t}, c.service.list ⟨c.bucket, start, token⟩ s = (answer, t) →
        (c.cutAfter (log.length + (k + 1))).service.list ⟨c.bucket, start, token⟩ (s, log) =
          (answer, t, log ++ [.list ⟨c.bucket, start, token⟩ answer]) :=
      fun hanswer => (if_pos hroom).trans (Service.recorded_list hanswer log)
    cases c.turn start token s with
    | unnamed hname =>
      rw [dialogue_of_unnamed hname, List.append_nil]
      exact ⟨_, _, pages_of_unnamed (c := c.cutAfter _) hname⟩
    | failed hname answer =>
      rw [dialogue_of_error hname answer]
      exact ⟨_, _, pages_of_error (c := c.cutAfter _) hname (hturn answer)⟩
    | last hname answer hlast =>
      rw [dialogue_of_last hname answer hlast]
      exact ⟨_, _, pages_of_last (c := c.cutAfter _) hname (hturn answer) hlast⟩
    | @more page t hname answer hmore =>
      obtain ⟨r, u, hrest⟩ := ih page.token (page.objects.foldl Inventory.insert found) t
        (log ++ [.list ⟨c.bucket, start, token⟩ (.ok page)])
      rw [List.length_append, List.length_singleton, Nat.add_assoc, Nat.add_comm 1 k,
        List.append_assoc] at hrest
      rw [dialogue_of_more hname answer hmore]
      exact ⟨r, u, (pages_of_more (c := c.cutAfter _) hname (hturn answer) hmore).trans hrest⟩

/-! ### The whole listing -/

/-- What is exchanged is known without running the loop. -/
theorem exchanges_eq (c : BucketClient σ) (start : Text) (s : σ) (n : Nat) :
    c.exchanges start s n = c.dialogue start n none s := by
  obtain ⟨r, t, hpages⟩ := c.exists_pages_cutAfter start n none .empty s []
  rw [List.length_nil, Nat.zero_add] at hpages
  unfold exchanges list
  dsimp only
  rw [hpages]
  cases r <;> rfl

/-- No more exchanges are seen than were allowed. -/
theorem length_exchanges_le (c : BucketClient σ) (start : Text) (s : σ) (n : Nat) :
    (c.exchanges start s n).length ≤ n := by
  rw [exchanges_eq]
  exact length_dialogue_le c start n none s

/-- A listing comes back if its exchanges end, and then its record are
these exchanges. -/
theorem recorded_list_eq_of_length_lt (h : (c.exchanges start s n).length < n) :
    (c.list start s).outcome ≠ .died ∧
      c.recorded.list start (s, []) = (c.list start s).withRecord (c.exchanges start s n) := by
  rw [exchanges_eq] at h ⊢
  obtain ⟨r, t, hplain, hrecorded⟩ := pages_eq_of_length_lt h .empty
  have hlog := hrecorded []
  unfold list
  dsimp only
  rw [hplain, hlog]
  -- The same is said whether there is a record or not.
  cases r with
  | ok found => exact ⟨nofun, rfl⟩
  | error cause => exact ⟨nofun, rfl⟩

/-- A listing does not come back if it asks without end, and only then. -/
theorem died_iff :
    (c.list start s).outcome = .died ↔ ∀ n, (c.exchanges start s n).length = n := by
  constructor
  · intro hdied n
    refine Nat.le_antisymm (length_exchanges_le c start s n) (Nat.not_lt.1 fun hlt => ?_)
    exact (recorded_list_eq_of_length_lt hlt).1 hdied
  · intro hfull
    unfold list
    dsimp only
    cases hpages : c.pages start none .empty s with
    | none => rfl
    | some r =>
      -- A loop that comes back has a last exchange, and there is none.
      obtain ⟨n, hlt⟩ := exists_length_lt_of_pages hpages
      rw [← exchanges_eq, hfull n] at hlt
      exact absurd hlt (Nat.lt_irrefl n)

/-- A listing that comes back has a last exchange, and its record are the
exchanges up to it. -/
theorem exists_recorded_list_eq (h : (c.list start s).outcome ≠ .died) :
    ∃ n, ∀ m, n ≤ m →
      c.recorded.list start (s, []) = (c.list start s).withRecord (c.exchanges start s m) := by
  rw [ne_eq, died_iff, not_forall] at h
  obtain ⟨n, hne⟩ := h
  have hlt : (c.exchanges start s n).length < n :=
    Nat.lt_of_le_of_ne (length_exchanges_le c start s n) hne
  refine ⟨n, fun m hle => ?_⟩
  rw [(recorded_list_eq_of_length_lt hlt).2, exchanges_eq, exchanges_eq]
  rw [exchanges_eq] at hlt
  rw [dialogue_eq_of_length_lt hlt hle]

/-! ### Tokens -/

/-- The first request is sent if the bucket has a name. -/
theorem getElem?_zero_dialogue (hname : c.bucket ≠ []) :
    ∃ answer, (c.dialogue start (n + 1) token s)[0]? =
      some (.list ⟨c.bucket, start, token⟩ answer) := by
  cases c.turn start token s with
  | unnamed hunnamed => exact absurd hunnamed hname
  | failed hname answer => exact ⟨_, by rw [dialogue_of_error hname answer]; rfl⟩
  | last hname answer hlast => exact ⟨_, by rw [dialogue_of_last hname answer hlast]; rfl⟩
  | more hname answer hmore => exact ⟨_, by rw [dialogue_of_more hname answer hmore]; rfl⟩

/-- The first request is made with the token that the loop starts with. -/
theorem eq_of_getElem?_zero_dialogue {r : ListRequest} {answer : Except Text Page}
    (h : (c.dialogue start n token s)[0]? = some (.list r answer)) :
    r = ⟨c.bucket, start, token⟩ := by
  cases n with
  | zero => cases h
  | succ n =>
    by_cases hname : c.bucket = []
    · rw [dialogue_of_unnamed hname] at h
      cases h
    · obtain ⟨first, hfirst⟩ : ∃ first, (c.dialogue start (n + 1) token s)[0]? =
          some (.list ⟨c.bucket, start, token⟩ first) := getElem?_zero_dialogue hname
      rw [hfirst] at h
      cases h
      rfl

/-- Behind a page that says that more follow the next request has its
token. -/
theorem getElem?_dialogue_of_more {i : Nat} {q : ListRequest}
    (h : (c.dialogue start n token s)[i]? = some (.list q (.ok page)))
    (hmore : page.isTruncated = true) :
    ∃ answer, (c.dialogue start (n + 1) token s)[i + 1]? =
      some (.list ⟨c.bucket, start, page.token⟩ answer) := by
  induction n generalizing i token s with
  | zero => cases h
  | succ n ih =>
    cases c.turn start token s with
    | unnamed hname =>
      rw [dialogue_of_unnamed hname] at h
      cases h
    | failed hname answer =>
      rw [dialogue_of_error hname answer] at h
      cases i <;> cases h
    | last hname answer hlast =>
      rw [dialogue_of_last hname answer hlast] at h
      cases i with
      | zero =>
        cases h
        exact absurd hmore (Bool.eq_false_iff.1 hlast)
      | succ i => cases h
    | more hname answer hfollows =>
      rw [dialogue_of_more hname answer hfollows] at h ⊢
      cases i with
      | zero =>
        cases h
        exact getElem?_zero_dialogue hname
      | succ i => exact ih h

/-- A request that is not the first has the token of the page before,
which says that more follow. -/
theorem exists_page_of_getElem?_dialogue {i : Nat} {r : ListRequest}
    {answer : Except Text Page}
    (h : (c.dialogue start n token s)[i + 1]? = some (.list r answer)) :
    ∃ q page, (c.dialogue start n token s)[i]? = some (.list q (.ok page)) ∧
      page.isTruncated = true ∧ r = ⟨c.bucket, start, page.token⟩ := by
  induction n generalizing i token s with
  | zero => cases h
  | succ n ih =>
    cases c.turn start token s with
    | unnamed hname =>
      rw [dialogue_of_unnamed hname] at h
      cases h
    | failed hname answer =>
      rw [dialogue_of_error hname answer] at h
      cases h
    | last hname answer hlast =>
      rw [dialogue_of_last hname answer hlast] at h
      cases h
    | @more page t hname answer hmore =>
      rw [dialogue_of_more hname answer hmore] at h ⊢
      cases i with
      | zero => exact ⟨_, page, rfl, hmore, eq_of_getElem?_zero_dialogue h⟩
      | succ i => exact ih h

/-- A page without a token that says that more follow is asked for again
and again, if it is always what the first request is answered with. -/
theorem dialogue_eq_replicate (hname : c.bucket ≠ [])
    (hsame : ∀ s, (c.service.list ⟨c.bucket, start, none⟩ s).1 = .ok page)
    (hmore : page.isTruncated = true) (htoken : page.token = none) (n : Nat) (s : σ) :
    c.dialogue start n none s =
      List.replicate n (.list ⟨c.bucket, start, none⟩ (.ok page)) := by
  induction n generalizing s with
  | zero => rfl
  | succ n ih =>
    have hanswer : c.service.list ⟨c.bucket, start, none⟩ s =
        (.ok page, (c.service.list ⟨c.bucket, start, none⟩ s).2) := by rw [← hsame s]
    rw [dialogue_of_more hname hanswer hmore, htoken, ih, List.replicate_succ]

/-! ### How the listing goes on -/

/-- A request that is not the first follows a page that says that more
follow, and has the token of that page. -/
theorem exists_page_of_getElem?_exchanges {i : Nat} {r : ListRequest} {answer : Except Text Page}
    (h : (c.exchanges start s n)[i + 1]? = some (.list r answer)) :
    ∃ q page, (c.exchanges start s n)[i]? = some (.list q (.ok page)) ∧
      page.isTruncated = true ∧ r = ⟨c.bucket, start, page.token⟩ := by
  rw [exchanges_eq] at h ⊢
  exact exists_page_of_getElem?_dialogue h

/-- All of these requests have a token if all of these pages have one. -/
theorem forall_token_iff :
    (∀ n i r answer, (c.exchanges start s n)[i + 1]? = some (.list r answer) →
        r.token.isSome = true) ↔
      ∀ n q page, .list q (.ok page) ∈ c.exchanges start s n → page.isTruncated = true →
        page.token.isSome = true := by
  constructor
  · intro h n q page hmem hmore
    -- The token of the page is that of the request behind it.
    obtain ⟨i, hi⟩ := List.mem_iff_getElem?.1 hmem
    rw [exchanges_eq] at hi
    obtain ⟨answer, hnext⟩ := getElem?_dialogue_of_more hi hmore
    rw [← exchanges_eq] at hnext
    exact h (n + 1) i ⟨c.bucket, start, page.token⟩ answer hnext
  · intro h n i r answer hr
    obtain ⟨q, page, hpage, hmore, rfl⟩ := exists_page_of_getElem?_exchanges hr
    exact h n q page (List.mem_of_getElem? hpage) hmore

/-- A page that is given whenever a page is asked for without a token is
the only one that is ever asked for if it says that more follow and has
no token, and only then. -/
theorem exchanges_eq_replicate_iff
    (hsame : ∀ t, (c.service.list ⟨c.bucket, start, none⟩ t).1 = .ok page) :
    (∀ n, c.exchanges start s n =
        List.replicate n (.list ⟨c.bucket, start, none⟩ (.ok page))) ↔
      c.bucket ≠ [] ∧ page.isTruncated = true ∧ page.token = none := by
  constructor
  · intro h
    have htwice : c.exchanges start s 2 = List.replicate 2 _ := h 2
    have hname : c.bucket ≠ [] := by
      intro hunnamed
      rw [exchanges_eq, dialogue_of_unnamed hunnamed] at htwice
      cases htwice
    -- The second request is that of the first page, so it shows the token of that page.
    have hsecond : (c.exchanges start s 2)[0 + 1]? =
        some (.list ⟨c.bucket, start, none⟩ (.ok page)) := by
      rw [htwice]
      rfl
    obtain ⟨q, first, hfirst, hmore, hr⟩ := exists_page_of_getElem?_exchanges hsecond
    rw [htwice] at hfirst
    cases hfirst
    exact ⟨hname, hmore, (congrArg ListRequest.token hr).symm⟩
  · rintro ⟨hname, hmore, htoken⟩ n
    rw [exchanges_eq]
    exact dialogue_eq_replicate hname hsame hmore htoken n s

/-- When a listing goes on, and with which token. A request that is not
the first has the token of the page before, which says that more follow;
so all these requests have one if every such page has. And a service that
answers the first request with one page whenever it is asked makes the
listing ask for that page forever if the page says that more follow and
has no token, and only then. -/
theorem continues_by_token_iff (c : BucketClient σ) (start : Text) (s : σ) :
    ((c.list start s).outcome = .died ↔ ∀ n, (c.exchanges start s n).length = n) ∧
    ((c.list start s).outcome ≠ .died → ∃ n, ∀ m, n ≤ m →
      c.recorded.list start (s, []) = (c.list start s).withRecord (c.exchanges start s m)) ∧
    (∀ n i r answer, (c.exchanges start s n)[i + 1]? = some (.list r answer) →
      ∃ q page, (c.exchanges start s n)[i]? = some (.list q (.ok page)) ∧
        page.isTruncated = true ∧ r = ⟨c.bucket, start, page.token⟩) ∧
    ((∀ n i r answer, (c.exchanges start s n)[i + 1]? = some (.list r answer) →
        r.token.isSome = true) ↔
      ∀ n q page, .list q (.ok page) ∈ c.exchanges start s n → page.isTruncated = true →
        page.token.isSome = true) ∧
    ∀ page, (∀ t, (c.service.list ⟨c.bucket, start, none⟩ t).1 = .ok page) →
      ((∀ n, c.exchanges start s n =
          List.replicate n (.list ⟨c.bucket, start, none⟩ (.ok page))) ↔
        c.bucket ≠ [] ∧ page.isTruncated = true ∧ page.token = none) :=
  ⟨died_iff, exists_recorded_list_eq, fun _ _ _ _ => exists_page_of_getElem?_exchanges,
    forall_token_iff, fun _ => exchanges_eq_replicate_iff⟩

/-- A page that says that more follow, but not where. -/
def openPage : Page := ⟨[⟨some "a".toList, none, none⟩], some true, none⟩

/-- Such a page, and behind it the last one. -/
def openPages (i : Nat) : Page :=
  if i = 0 then openPage else ⟨[⟨some "b".toList, none, none⟩], none, none⟩

/-- Behind such a page the first page is asked for again; and if it is
given again, the listing does not come back. -/
theorem restarts_sample :
    let c : BucketClient Nat := ⟨.ofPages openPages, "bucket".toList⟩
    let d : BucketClient Nat := ⟨.ofPages fun _ => openPage, "bucket".toList⟩
    let first : ListRequest := ⟨"bucket".toList, [], none⟩
    c.exchanges [] 0 2 = [.list first (.ok (openPages 0)), .list first (.ok (openPages 1))] ∧
      (∀ n, d.exchanges [] 0 n = List.replicate n (.list first (.ok openPage))) ∧
      (d.list [] 0).outcome = .died := by
  intro c d first
  have hforever : ∀ n, d.exchanges [] 0 n = List.replicate n (.list first (.ok openPage)) := by
    intro n
    rw [exchanges_eq]
    exact dialogue_eq_replicate (List.cons_ne_nil _ _) (fun _ => rfl) rfl rfl n 0
  refine ⟨?_, hforever, died_iff.2 fun n => ?_⟩
  · rw [exchanges_eq]
    rfl
  · rw [hforever, List.length_replicate]

/-- Two pages of which the first has a token: the second is asked for
with it, and what was asked is in the record. A page without a token is
asked for forever. -/
theorem continues_by_token_sample :
    let c : BucketClient Nat := ⟨.ofPages samplePages, "bucket".toList⟩
    let d : BucketClient Nat := ⟨.ofPages fun _ => openPage, "bucket".toList⟩
    let second : ListRequest := ⟨"bucket".toList, [], some "next".toList⟩
    (c.exchanges [] 0 2)[1]? = some (.list second (.ok (samplePages 1))) ∧
      (∃ page : Page, page.isTruncated = true ∧ second = ⟨"bucket".toList, [], page.token⟩) ∧
      (c.list [] 0).outcome ≠ .died ∧
      (∃ n, ∀ m, n ≤ m →
        c.recorded.list [] (0, []) = (c.list [] 0).withRecord (c.exchanges [] 0 m)) ∧
      (∀ i, (d.service.list ⟨d.bucket, [], none⟩ i).1 = .ok openPage) ∧
      (∀ n, d.exchanges [] 0 n =
        List.replicate n (.list ⟨"bucket".toList, [], none⟩ (.ok openPage))) := by
  intro c d second
  have hsecond : (c.exchanges [] 0 2)[1]? = some (.list second (.ok (samplePages 1))) := by
    rw [exchanges_eq]
    rfl
  have hends : (c.list [] 0).outcome ≠ .died := by
    refine (recorded_list_eq_of_length_lt (n := 3) ?_).1
    rw [exchanges_eq]
    decide
  obtain ⟨-, hrecord, htoken, -, -⟩ := continues_by_token_iff c [] 0
  obtain ⟨-, -, -, -, hforever⟩ := continues_by_token_iff d [] 0
  obtain ⟨q, page, -, hmore, hr⟩ := htoken 2 0 second _ hsecond
  exact ⟨hsecond, ⟨page, hmore, hr⟩, hends, hrecord hends, fun _ => rfl,
    (hforever openPage fun _ => rfl).2 ⟨List.cons_ne_nil _ _, rfl, rfl⟩⟩

end BucketClient

end SiteSync.Cloud
