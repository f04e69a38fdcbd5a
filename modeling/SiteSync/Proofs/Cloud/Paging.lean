import SiteSync.Cloud.BucketClient
import SiteSync.Proofs.Inventory

/-!
# `SiteSync.Proofs.Cloud.Paging`: a listing reads pages to the last one

`Reads` is what a service answers when it is asked for page after page,
each with the token of the one before, up to the first that does not say
that more follow. The loop of a listing and this relation are the same
thing, seen from both sides:

- `pages_of_last`, `pages_of_more`: what a single page makes of the loop.
- `Reads.pages_eq`: if the service answers so, the loop ends, and has
  found the objects of these pages.
- `reads_of_pages`: if the loop ends with an inventory, the service has
  answered so.

`pages_preserves` says that reading keeps what every answer keeps, also
if a request fails.
-/

set_option autoImplicit false

namespace SiteSync.Cloud

/-! ### Sending -/

section Send

variable {σ α : Type} {ask : σ → Except Text α × σ} {s : σ}

/-- A request that is not sent changes nothing. -/
theorem send_preserves {P : σ → Prop} (canBeSent : Bool) (hs : P s) (hask : P (ask s).2) :
    P (send canBeSent ask s).2 := by
  unfold send
  split
  · exact hask
  · exact hs

/-- A request that succeeds was sent. -/
theorem send_of_ok {canBeSent : Bool} {a : α} (h : (send canBeSent ask s).1 = .ok a) :
    send canBeSent ask s = ask s := by
  unfold send at h ⊢
  split
  · rfl
  · rename_i hnot
    rw [if_neg hnot] at h
    cases h

end Send

/-- A page may be asked for when the bucket has a name. -/
theorem ListRequest.canBeSent_iff {r : ListRequest} : r.canBeSent = true ↔ r.bucket ≠ [] := by
  rw [ListRequest.canBeSent, Bool.not_eq_true', List.isEmpty_eq_false_iff]

namespace BucketClient

variable {σ : Type} {c : BucketClient σ} {start : Text} {token : Option Text}
  {found v : Inventory} {s t : σ} {page : Page} {ps : List Page} {cause : Text}

/-! ### One page -/

/-- A bucket without a name cannot be listed. -/
theorem pages_of_unnamed (hname : c.bucket = []) :
    c.pages start token found s = some (.error notSent, s) := by
  rw [pages, ListRequest.canBeSent, hname]
  rfl

/-- A bucket with a name is asked. -/
theorem send_list (hname : c.bucket ≠ []) :
    send (ListRequest.canBeSent ⟨c.bucket, start, token⟩)
      (c.service.list ⟨c.bucket, start, token⟩) s = c.service.list ⟨c.bucket, start, token⟩ s :=
  if_pos (ListRequest.canBeSent_iff.2 hname)

/-- A page that is not given ends the listing. -/
theorem pages_of_error (hname : c.bucket ≠ [])
    (answer : c.service.list ⟨c.bucket, start, token⟩ s = (.error cause, t)) :
    c.pages start token found s = some (.error cause, t) := by
  rw [pages, send_list hname, answer]

/-- The last page is added to what was found. -/
theorem pages_of_last (hname : c.bucket ≠ [])
    (answer : c.service.list ⟨c.bucket, start, token⟩ s = (.ok page, t))
    (hlast : page.isTruncated = false) :
    c.pages start token found s = some (.ok (page.objects.foldl Inventory.insert found), t) := by
  rw [pages, send_list hname, answer]
  dsimp only
  rw [hlast, if_neg Bool.false_ne_true]

/-- Any other page is added, and the next one is asked for with its token.
-/
theorem pages_of_more (hname : c.bucket ≠ [])
    (answer : c.service.list ⟨c.bucket, start, token⟩ s = (.ok page, t))
    (hmore : page.isTruncated = true) :
    c.pages start token found s =
      c.pages start page.token (page.objects.foldl Inventory.insert found) t := by
  rw [pages, send_list hname, answer]
  dsimp only
  rw [if_pos hmore]

/-! ### Page after page -/

/-- The pages that a service gives from a token on, up to the first that
does not say that more follow, and the state after them. -/
inductive Reads (c : BucketClient σ) (start : Text) :
    Option Text → σ → List Page → σ → Prop
  /-- There is one page left. -/
  | last {token : Option Text} {s t : σ} {page : Page}
    (answer : c.service.list ⟨c.bucket, start, token⟩ s = (.ok page, t))
    (hlast : page.isTruncated = false) : Reads c start token s [page] t
  /-- More pages follow, from the token of the first on. -/
  | more {token : Option Text} {s t u : σ} {page : Page} {ps : List Page}
    (answer : c.service.list ⟨c.bucket, start, token⟩ s = (.ok page, t))
    (hmore : page.isTruncated = true) (rest : Reads c start page.token t ps u) :
    Reads c start token s (page :: ps) u

/-- The loop reads these pages, and puts their objects in one after the
other. -/
theorem Reads.pages_eq (h : Reads c start token s ps t) (hname : c.bucket ≠ [])
    (found : Inventory) :
    c.pages start token found s =
      some (.ok ((ps.flatMap Page.objects).foldl Inventory.insert found), t) := by
  induction h generalizing found with
  | last answer hlast =>
    rw [pages_of_last hname answer hlast, List.flatMap_singleton]
  | more answer hmore rest ih =>
    rw [pages_of_more hname answer hmore, ih, List.flatMap_cons, List.foldl_append]

/-- What the loop has found are the objects of such pages. The induction
is on the approximations of the loop, so it covers a loop that ends, and
says nothing of one that does not. -/
theorem reads_of_pages (h : c.pages start token found s = some (.ok v, t)) :
    ∃ ps, Reads c start token s ps t ∧
      v = (ps.flatMap Page.objects).foldl Inventory.insert found := by
  -- It is said of loops that give an inventory; a loop that fails may have read anything.
  let motive (token : Option Text) (found : Inventory) (s : σ)
      (r : Except Text Inventory × σ) : Prop :=
    ∀ v, r.1 = .ok v → ∃ ps, Reads c start token s ps r.2 ∧
      v = (ps.flatMap Page.objects).foldl Inventory.insert found
  refine pages.partial_correctness c start motive ?_ token found s (.ok v, t) h v rfl
  rintro loop ih token found s ⟨answer, u⟩ hstep v rfl
  dsimp only at hstep
  split at hstep
  case h_1 => cases hstep
  case h_2 page t heq =>
    have hanswer := (send_of_ok (congrArg Prod.fst heq)).symm.trans heq
    split at hstep
    case isTrue hmore =>
      obtain ⟨ps, hps, hv⟩ := ih _ _ _ _ hstep v rfl
      refine ⟨page :: ps, .more hanswer hmore hps, ?_⟩
      rw [hv, List.flatMap_cons, List.foldl_append]
    case isFalse hlast =>
      cases hstep
      refine ⟨[page], .last hanswer (Bool.eq_false_iff.2 hlast), ?_⟩
      rw [List.flatMap_singleton]

/-- Reading pages keeps what every answer to a request for a page
keeps. -/
theorem pages_preserves {P : σ → Prop} (hlist : ∀ r s, P s → P (c.service.list r s).2)
    {r : Except Text Inventory × σ} (hs : P s) (h : c.pages start token found s = some r) :
    P r.2 := by
  refine pages.partial_correctness c start (fun _ _ s r => P s → P r.2) ?_ token found s r h hs
  intro loop ih token found s r hstep hs
  have hsent : P (send (ListRequest.canBeSent ⟨c.bucket, start, token⟩)
      (c.service.list ⟨c.bucket, start, token⟩) s).2 := send_preserves _ hs (hlist _ s hs)
  dsimp only at hstep
  split at hstep
  case h_1 cause t heq =>
    rw [heq] at hsent
    cases hstep
    exact hsent
  case h_2 page t heq =>
    rw [heq] at hsent
    split at hstep
    case isTrue => exact ih _ _ _ _ hstep hsent
    case isFalse =>
      cases hstep
      exact hsent

/-! ### The whole listing -/

/-- A listing of pages up to a last one gives their objects. -/
theorem Reads.list_eq (h : Reads c start none s ps t) (hname : c.bucket ≠ []) :
    (c.list start s).outcome = .done (.ofList (ps.flatMap Page.objects)) ∧
      (c.list start s).state = t := by
  unfold list
  dsimp only
  rw [h.pages_eq hname .empty]
  exact ⟨rfl, rfl⟩

/-- The inventory of a listing are the objects of such pages. -/
theorem reads_of_list (h : (c.list start s).outcome = .done v) :
    ∃ ps, Reads c start none s ps (c.list start s).state ∧
      v = .ofList (ps.flatMap Page.objects) := by
  unfold list at h ⊢
  dsimp only at h ⊢
  split at h
  case h_1 found t heq =>
    cases h
    exact reads_of_pages heq
  case h_2 => cases h
  case h_3 => cases h

/-- A reply gives a value whether its error is worded or not. -/
theorem done_of_worded {α : Type} {r : Reply σ BucketError α} {a : α}
    (h : (worded r).outcome = .done a) : r.outcome = .done a := by
  obtain ⟨outcome, state, said⟩ := r
  cases outcome with
  | done b =>
    cases h
    rfl
  | failed e => cases h
  | died => cases h

/-- A listing keeps what every answer to a request for a page keeps. -/
theorem list_preserves {P : σ → Prop} (hlist : ∀ r s, P s → P (c.service.list r s).2)
    (hs : P s) : P (c.store.list start s).state := by
  show P (c.list start s).state
  unfold list
  dsimp only
  split
  case h_1 heq => exact pages_preserves hlist hs heq
  case h_2 heq => exact pages_preserves hlist hs heq
  case h_3 => exact hs

end BucketClient

end SiteSync.Cloud
