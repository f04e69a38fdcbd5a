import SiteSync.Proofs.Cloud.Contracts
import SiteSync.Proofs.Cloud.Purge

/-!
# `SiteSync.Proofs.Cloud.Listing`: a listing does not depend on its pages

How the objects of a bucket are spread over pages is up to the service.
A listing reads every page up to the last one, once, and gives the
objects of all of them:

- `Reads.recorded_list_eq`: it asks for these pages and for nothing
  else.
- `find?_ofList_objects`: of the entries with a key the last one counts,
  on whatever page it is.
- `Paginates.exists_reads`: a service that shows some objects at a time,
  in their order, shows all of them, on as few pages as they fit on.
- `BucketClient.lists_whatever_the_pages`: what comes out, for any pages
  and for those of such a service.

`Server.paginates` says that the cloud in memory is such a service.
-/

set_option autoImplicit false

namespace SiteSync.Cloud

/-! ### Entries on pages -/

/-- What some entries say of a key: the last entry with it counts; a
missing fingerprint is empty, and a missing or negative size is zero. -/
def lastEntry (entries : List Listed) (key : Text) : Option RemoteObject :=
  (entries.reverse.find? (·.key == some key)).map fun l =>
    ⟨key, l.etag.getD [], (l.size.getD 0).toNat⟩

/-- An inventory of the objects of some entries shows what the last entry
with a key says. Entries without a key are no objects. -/
theorem find?_ofList_objects (entries : List Listed) (key : Text) :
    (Inventory.ofList (entries.filterMap Listed.object?)).find? key = lastEntry entries key := by
  have hentry : ∀ l : Listed, (l.object?.any (·.key == key)) = (l.key == some key) := by
    rintro ⟨_ | k, etag, size⟩
    · rfl
    · rfl
  rw [Inventory.ofList, Inventory.find?_foldl_insert, Inventory.find?_empty, Option.or_none,
    ← List.filterMap_reverse, List.find?_filterMap, lastEntry, funext hentry]
  cases hfound : entries.reverse.find? (·.key == some key) with
  | none => rfl
  | some l =>
    have hkey : l.key = some key := by simpa using List.find?_some hfound
    rw [Option.bind_some, Listed.object?, hkey]
    rfl

variable {σ : Type}

/-- An answer is the same with the record and without it, and is written
down. -/
theorem Service.recorded_list {v : Service σ} {r : ListRequest} {s t : σ}
    {answer : Except Text Page} (h : v.list r s = (answer, t)) (log : List Exchange) :
    v.recorded.list r (s, log) = (answer, t, log ++ [.list r answer]) := by
  show ((v.list r s).1, (v.list r s).2, log ++ [.list r (v.list r s).1]) = _
  rw [h]

namespace BucketClient

variable {c : BucketClient σ} {start : Text} {token : Option Text} {s t : σ}
  {ps : List Page}

/-! ### What is asked -/

/-- The same bucket, asked through a service that keeps a record. -/
def recorded (c : BucketClient σ) : BucketClient (σ × List Exchange) :=
  ⟨c.service.recorded, c.bucket⟩

/-- The requests for some pages, from a token on, with the answers. -/
def asked (c : BucketClient σ) (start : Text) : Option Text → List Page → List Exchange
  | _, [] => []
  | token, page :: ps =>
    .list ⟨c.bucket, start, token⟩ (.ok page) :: asked c start page.token ps

/-- There is one request for each page. -/
theorem length_asked (token : Option Text) (ps : List Page) :
    (c.asked start token ps).length = ps.length := by
  induction ps generalizing token with
  | nil => rfl
  | cons page ps ih => rw [asked, List.length_cons, List.length_cons, ih]

/-- The same pages are read with the record and without it. -/
theorem Reads.recorded (h : Reads c start token s ps t) (log : List Exchange) :
    Reads c.recorded start token (s, log) ps (t, log ++ c.asked start token ps) := by
  induction h generalizing log with
  | last answer hlast =>
    exact .last (Service.recorded_list answer log) hlast
  | @more token s t u page ps answer hmore rest ih =>
    have hrest := ih (log ++ [.list ⟨c.bucket, start, token⟩ (.ok page)])
    rw [List.append_assoc] at hrest
    exact .more (Service.recorded_list answer log) hmore hrest

/-- A listing asks for the pages that it reads, and for nothing else. -/
theorem Reads.recorded_list_eq (h : Reads c start none s ps t) (hname : c.bucket ≠ []) :
    c.recorded.list start (s, []) = (c.list start s).withRecord (c.asked start none ps) := by
  have hplain := h.pages_eq hname .empty
  have hrecorded := (h.recorded []).pages_eq hname .empty
  unfold list
  dsimp only
  rw [hplain, hrecorded]
  rfl

/-- A listing that gives an inventory, and what it asks for: the
requests in the record and no others. -/
structure Lists (c : BucketClient σ) (start : Text) (s t : σ) (record : List Exchange)
    (v : Inventory) : Prop where
  /-- The listing gives the inventory. -/
  outcome : (c.list start s).outcome = .done v
  /-- The state of the service after it. -/
  state : (c.list start s).state = t
  /-- All requests of the listing, with their answers. Writing them down
  changes nothing else. -/
  record : c.recorded.list start (s, []) = (c.list start s).withRecord record

/-- The pages that were read are what the listing gives. -/
theorem Reads.lists (h : Reads c start none s ps t) (hname : c.bucket ≠ []) :
    Lists c start s t (c.asked start none ps) (.ofList (ps.flatMap Page.objects)) where
  outcome := (h.list_eq hname).1
  state := (h.list_eq hname).2
  record := h.recorded_list_eq hname

/-! ### Any sequence of pages -/

/-- The token that a page is asked for with: that of the page before, and
`first` for the first. -/
def tokenOf (first : Option Text) (page : Nat → Page) : Nat → Option Text
  | 0 => first
  | i + 1 => (page i).token

/-- A service that gives the pages of a sequence, each when it is asked
for with the token of the one before. Page `n` is the first that does not
say that more follow. -/
structure Gives (c : BucketClient σ) (start : Text) (first : Option Text) (n : Nat)
    (page : Nat → Page) (state : Nat → σ) : Prop where
  /-- Every page up to that one is given. -/
  answer : ∀ i ≤ n, c.service.list ⟨c.bucket, start, tokenOf first page i⟩ (state i) =
    (.ok (page i), state (i + 1))
  /-- Before it every page says that more follow. -/
  more : ∀ i < n, (page i).isTruncated = true
  /-- It does not say so. -/
  last : (page n).isTruncated = false

/-- Behind the first page there is such a sequence, too. -/
theorem Gives.tail {n : Nat} {page : Nat → Page} {state : Nat → σ}
    (h : Gives c start token (n + 1) page state) :
    Gives c start (page 0).token n (fun i => page (i + 1)) fun i => state (i + 1) where
  answer := fun i hi => by
    have hanswer := h.answer (i + 1) (Nat.succ_le_succ hi)
    cases i with
    | zero => exact hanswer
    | succ i => exact hanswer
  more := fun i hi => h.more (i + 1) (Nat.succ_lt_succ hi)
  last := h.last

/-- The pages of the sequence are read, and no more. The induction is on
how many are left. -/
theorem Gives.reads {n : Nat} {page : Nat → Page} {state : Nat → σ}
    (h : Gives c start token n page state) :
    Reads c start token (state 0) ((List.range (n + 1)).map page) (state (n + 1)) := by
  induction n generalizing token page state with
  | zero => exact .last (h.answer 0 (Nat.le_refl 0)) h.last
  | succ n ih =>
    rw [List.range_succ_eq_map, List.map_cons, List.map_map]
    exact .more (h.answer 0 (Nat.zero_le _)) (h.more 0 (Nat.succ_pos n)) (ih h.tail)

/-- Each of them is asked for with the token of the one before. -/
theorem asked_map_range (page : Nat → Page) (n : Nat) :
    c.asked start token ((List.range n).map page) =
      (List.range n).map fun i =>
        .list ⟨c.bucket, start, tokenOf token page i⟩ (.ok (page i)) := by
  induction n generalizing token page with
  | zero => rfl
  | succ n ih =>
    rw [List.range_succ_eq_map, List.map_cons, List.map_map, List.map_cons, List.map_map, asked]
    refine congrArg _ ((ih fun i => page (i + 1)).trans (List.map_congr_left fun i _ => ?_))
    cases i <;> rfl

/-! ### The pages of a bucket -/

/-- How many pages some objects fit on. There is always one. -/
def pageCount (size count : Nat) : Nat := max 1 ((count + size - 1) / size)

/-- What fits on a page takes one. -/
theorem pageCount_of_le {size count : Nat} (h : count ≤ size) : pageCount size count = 1 := by
  have hle : (count + size - 1) / size ≤ 1 := by
    rcases Nat.eq_zero_or_pos size with rfl | hsize
    · rw [Nat.div_zero]
      exact Nat.zero_le 1
    · refine Nat.le_of_lt_succ ((Nat.div_lt_iff_lt_mul hsize).2 ?_)
      omega
  exact Nat.max_eq_left hle

/-- What does not takes one more page than what is left over. -/
theorem pageCount_of_lt {size count : Nat} (hsize : 0 < size) (h : size < count) :
    pageCount size count = pageCount size (count - size) + 1 := by
  have hsub : count + size - 1 = count - size + size - 1 + size := by omega
  have hpos : 1 ≤ (count - size + size - 1) / size := by
    refine (Nat.one_le_div_iff hsize).2 ?_
    omega
  rw [pageCount, pageCount, hsub, Nat.add_div_right _ hsize, Nat.max_eq_right hpos,
    Nat.max_eq_right (Nat.succ_pos _)]

/-- A service that shows the objects of a bucket under a prefix in the
byte order of their keys, `size` at a time, as long as `P` is true of its
state. `mark` are the tokens of the places in that order. -/
structure Paginates (c : BucketClient σ) (start : Text) (b : Bucket) (size : Nat)
    (mark : Nat → Option Text) (P : σ → Prop) : Prop where
  /-- The first page is asked for without a token. -/
  first : mark 0 = none
  /-- The page of a place shows as many objects as fit. If more are left,
  it says so, and has the token of the next place. -/
  answer : ∀ i ≤ (b.listing start).length, ∀ s, P s → ∃ page t,
    c.service.list ⟨c.bucket, start, mark i⟩ s = (.ok page, t) ∧ P t ∧
      page.contents = (((b.listing start).drop i).take size).map Server.listed ∧
      page.isTruncated = decide (i + size < (b.listing start).length) ∧
      (page.isTruncated = true → page.token = mark (i + size))

/-- From any place on such a service shows the objects that are left. The
induction is on how many these are. -/
theorem Paginates.exists_reads {b : Bucket} {size : Nat} {mark : Nat → Option Text}
    {P : σ → Prop} (h : Paginates c start b size mark P) (hsize : 0 < size) (i : Nat)
    (hi : i ≤ (b.listing start).length) (s : σ) (hs : P s) :
    ∃ ps t, Reads c start (mark i) s ps t ∧ P t ∧
      ps.flatMap Page.objects = (b.listing start).drop i ∧
      ps.length = pageCount size ((b.listing start).length - i) := by
  generalize hleft : (b.listing start).length - i = left
  induction left using Nat.strong_induction_on generalizing i s with
  | h left ih =>
    obtain ⟨page, t, hanswer, ht, hcontents, htruncated, htoken⟩ := h.answer i hi s hs
    have hobjects : page.objects = ((b.listing start).drop i).take size :=
      Server.objects_of_listed hcontents
    -- The page is full and more objects follow, or it is the last.
    by_cases hmore : i + size < (b.listing start).length
    · have htrue : page.isTruncated = true := by rw [htruncated, decide_eq_true hmore]
      obtain ⟨ps, u, hps, hu, hrest, hcount⟩ :=
        ih (left - size) (by omega) (i + size) (Nat.le_of_lt hmore) t ht (by omega)
      rw [← htoken htrue] at hps
      refine ⟨page :: ps, u, .more hanswer htrue hps, hu, ?_, ?_⟩
      · rw [List.flatMap_cons, hobjects, hrest, ← List.drop_drop, List.take_append_drop]
      · rw [List.length_cons, hcount, ← pageCount_of_lt hsize (by omega)]
    · have hfalse : page.isTruncated = false := by rw [htruncated, decide_eq_false hmore]
      refine ⟨[page], t, .last hanswer hfalse, ht, ?_, ?_⟩
      · rw [List.flatMap_singleton, hobjects, List.take_of_length_le]
        rw [List.length_drop]
        omega
      · rw [pageCount_of_le (by omega), List.length_singleton]

end BucketClient

namespace Server

/-- The token of a place; there is none for the first. -/
def mark (i : Nat) : Option Text := if i = 0 then none else some (tokenOf i)

/-- A place is read back from its token. -/
theorem placeOf_mark (i : Nat) : placeOf (mark i) = i := by
  unfold mark
  split
  case isTrue h => exact h.symm
  case isFalse => exact placeOf_tokenOf i

/-- A server that shows a bucket and refuses no page of it. -/
structure Steady (b : Bucket) (size : Nat) (s : Server) : Prop where
  /-- It has that bucket. -/
  bucket : s.bucket = b
  /-- So many objects are on a page. -/
  pageSize : s.pageSize = size
  /-- No pages are given in place of those of the bucket. -/
  unscripted : s.scripted = none
  /-- No request for a page fails. -/
  answering : s.failingList = none

/-- The cloud in memory shows its bucket page by page. -/
theorem paginates {c : BucketClient Server} (hc : c.service = .inMemory) (start : Text)
    (b : Bucket) {size : Nat} (hsize : 0 < size) :
    c.Paginates start b size mark (Steady b size) where
  first := rfl
  answer := fun i _ s hs => by
    rw [hc]
    refine ⟨pageAt size (b.listing start) i, s.record (.list ⟨c.bucket, start, mark i⟩), ?_,
      ⟨hs.bucket, hs.pageSize, hs.unscripted, hs.answering⟩, ?_, ?_, ?_⟩
    · show s.list _ = _
      rw [list, hs.answering, if_neg nofun, pageFor, hs.unscripted]
      dsimp only
      rw [placeOf_mark, hs.pageSize, ← hs.bucket]
      rfl
    · exact contents_pageAt size (b.listing start) i
    · unfold pageAt
      dsimp only
      split
      case isTrue h => exact (decide_eq_true h).symm
      case isFalse h => exact (decide_eq_false h).symm
    · unfold pageAt
      dsimp only
      split
      case isTrue => exact fun _ => (if_neg (Nat.ne_of_gt (Nat.add_pos_right i hsize))).symm
      case isFalse => exact fun h => absurd h Bool.false_ne_true

end Server

/-- A service that gives the pages of a sequence, one for each request,
and counts the requests. -/
def Service.ofPages (page : Nat → Page) : Service Nat :=
  { Service.unreachable with list := fun _ i => (.ok (page i), i + 1) }

namespace BucketClient

/-- Every sequence of pages with a last one is given by a service. -/
theorem gives_ofPages {page : Nat → Page} {n : Nat} (bucket start : Text)
    (hmore : ∀ i < n, (page i).isTruncated = true) (hlast : (page n).isTruncated = false) :
    Gives ⟨.ofPages page, bucket⟩ start none n page id where
  answer := fun _ _ => rfl
  more := hmore
  last := hlast

/-! ### The listing -/

/-- Whatever pages a service gives, a listing reads them up to the first
that does not say that more follow, and binds every key on them to its
last entry. So of a service that shows a bucket page by page it gives
the objects under the prefix and no others, the same for every size of
the pages, after as many requests as there are pages. -/
theorem lists_whatever_the_pages (c : BucketClient σ) (hname : c.bucket ≠ []) (start : Text) :
    (∀ n page state, Gives c start none n page state →
      ∃ v, Lists c start (state 0) (state (n + 1))
          ((List.range (n + 1)).map fun i =>
            .list ⟨c.bucket, start, tokenOf none page i⟩ (.ok (page i))) v ∧
        ∀ key, v.find? key =
          lastEntry ((List.range (n + 1)).flatMap fun i => (page i).contents) key) ∧
    ∀ (b : Bucket) size mark P s, (b.map (·.object.key)).Nodup → 0 < size →
      Paginates c start b size mark P → P s →
      ∃ t record, Lists c start s t record (.ofList (b.listing start)) ∧
        record.length = max 1 (((b.under start).length + size - 1) / size) ∧
        ∀ key, (Inventory.ofList (b.listing start)).find? key =
          if Text.startsWith key start then (b.find? key).map (·.object) else none := by
  refine ⟨fun n page state hgives => ?_, fun b size mark P s hb hsize hpages hs => ?_⟩
  · have hlists := hgives.reads.lists hname
    rw [asked_map_range] at hlists
    refine ⟨_, hlists, fun key => ?_⟩
    rw [List.flatMap_map, ← find?_ofList_objects, List.filterMap_flatMap]
    rfl
  · -- The pages hold the objects under the prefix, however they are cut.
    obtain ⟨ps, t, hreads, -, hobjects, hcount⟩ :=
      hpages.exists_reads hsize 0 (Nat.zero_le _) s hs
    rw [hpages.first] at hreads
    have hlists := hreads.lists hname
    rw [hobjects, List.drop_zero] at hlists
    refine ⟨t, _, hlists, ?_, Bucket.find?_ofList_listing hb start⟩
    rw [length_asked, hcount, Nat.sub_zero, (Bucket.listing_perm start b).length_eq]
    rfl

/-- Two pages: a key that is on both, and an entry without a key. -/
def samplePages (i : Nat) : Page :=
  [⟨[⟨some "a".toList, some "old".toList, some 3⟩, ⟨none, some "tag".toList, some 1⟩],
      some true, some "next".toList⟩,
    ⟨[⟨some "a".toList, none, some (-1)⟩, ⟨some "b".toList, some "new".toList, none⟩],
      none, none⟩].getD i ⟨[], none, none⟩

/-- A bucket with three objects, two of them under `a`. -/
def sampleBucket : Bucket :=
  [⟨⟨"ab".toList, "1".toList, 1⟩, none⟩, ⟨⟨"b".toList, "2".toList, 2⟩, none⟩,
    ⟨⟨"a".toList, "3".toList, 3⟩, none⟩]

/-- The two pages are read, and the second one counts for the key that is
on both; and of the bucket the two objects under `a` are listed, also if
each page has room for one only. -/
theorem lists_whatever_sample :
    let c : BucketClient Nat := ⟨.ofPages samplePages, "bucket".toList⟩
    let d : BucketClient Server := ⟨.inMemory, "bucket".toList⟩
    let server : Server := { bucket := sampleBucket, pageSize := 1 }
    c.bucket ≠ [] ∧ Gives c [] none 1 samplePages id ∧
      (∃ v, Lists c [] 0 2 ((List.range 2).map fun i =>
          .list ⟨"bucket".toList, [], tokenOf none samplePages i⟩ (.ok (samplePages i))) v ∧
        v.find? "a".toList = some ⟨"a".toList, [], 0⟩) ∧
      d.bucket ≠ [] ∧ (sampleBucket.map (·.object.key)).Nodup ∧
      Paginates d ['a'] sampleBucket 1 Server.mark (Server.Steady sampleBucket 1) ∧
      Server.Steady sampleBucket 1 server ∧
      ∃ t record v, Lists d ['a'] server t record v ∧ record.length = 2 ∧
        v.find? "ab".toList = some ⟨"ab".toList, "1".toList, 1⟩ ∧ v.find? "b".toList = none := by
  intro c d server
  have hc : c.bucket ≠ [] := by decide
  have hd : d.bucket ≠ [] := by decide
  have hgives : Gives c [] none 1 samplePages id :=
    gives_ofPages _ _ (by decide) (by decide)
  have hnodup : (sampleBucket.map (·.object.key)).Nodup := by decide
  have hpages : Paginates d ['a'] sampleBucket 1 Server.mark (Server.Steady sampleBucket 1) :=
    Server.paginates rfl ['a'] sampleBucket Nat.one_pos
  have hsteady : Server.Steady sampleBucket 1 server := ⟨rfl, rfl, rfl, rfl⟩
  obtain ⟨v, hlists, hv⟩ := (lists_whatever_the_pages c hc []).1 1 samplePages id hgives
  obtain ⟨t, record, hserver, hlength, hfound⟩ := (lists_whatever_the_pages d hd ['a']).2
    sampleBucket 1 Server.mark _ server hnodup Nat.one_pos hpages hsteady
  refine ⟨hc, hgives, ⟨v, hlists, ?_⟩, hd, hnodup, hpages, hsteady, t, record, _, hserver,
    hlength.trans (by decide), ?_, ?_⟩
  · rw [hv]
    decide
  · rw [hfound]
    decide
  · rw [hfound]
    decide

end BucketClient

end SiteSync.Cloud
