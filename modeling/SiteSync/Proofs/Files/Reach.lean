import SiteSync.Proofs.Files.Walk
import SiteSync.Proofs.Path

/-!
# `SiteSync.Proofs.Files.Reach`: where a walk gets to

A walk through a tree goes from a directory to its entries, and from a
link to what it leads to. Written down one step at a time (`Spot.Step`),
without a filter and without a limit, this is what there is to see. A
link without a step (`Spot.Breaks`) leads nowhere, or back to a directory
that the walk is in. The view of a tree has a limit on its depth, but it
is never reached:

- `FileNode.ne_link_of_resolve`: what a link leads to is no link again.
- `FileNode.resolve_absolute`: what is in the tree is found under its
  absolute path from everywhere.
- `Spot.weight_lt`: every step comes closer to an end. To an entry the
  node gets smaller, and behind a link to a directory there is one less
  that the walk is not in.
- `Spot.within_depthLimit`: so the limit is enough wherever a walk
  starts.
- `Spot.view_directory`: the view shows every step and every link that
  breaks.
-/

set_option autoImplicit false

namespace SiteSync

/-! ### Trees without repeated names -/

namespace FileNode

mutual

/-- In every directory of a tree the names are distinct. -/
def Distinct : FileNode → Prop
  | .directory es => (es.map Prod.fst).Nodup ∧ EntriesDistinct es
  | _ => True

/-- The same for the trees of some entries. -/
def EntriesDistinct : List (Text × FileNode) → Prop
  | [] => True
  | (_, n) :: es => Distinct n ∧ EntriesDistinct es

end

variable {top n : FileNode} {es : List (Text × FileNode)} {name : Text}

/-- What is true of some entries is true of each. -/
theorem EntriesDistinct.of_mem (h : EntriesDistinct es) (hmem : (name, n) ∈ es) : n.Distinct := by
  induction es with
  | nil => cases hmem
  | cons e es ih =>
    rcases List.mem_cons.1 hmem with rfl | hmem
    · exact h.1
    · exact ih h.2 hmem

/-- Where names are distinct, every entry is the one of its name. -/
theorem lookup_of_mem (h : (es.map Prod.fst).Nodup) (hmem : (name, n) ∈ es) :
    es.lookup name = some n := by
  induction es with
  | nil => cases hmem
  | cons e es ih =>
    rw [List.map_cons, List.nodup_cons] at h
    rcases List.mem_cons.1 hmem with rfl | hmem
    · exact List.lookup_cons_self
    · have hne : (name == e.1) = false := beq_eq_false_iff_ne.2 fun heq =>
        h.1 (heq ▸ List.mem_map_of_mem hmem)
      rw [List.lookup_cons, hne]
      exact ih h.2 hmem

/-- More segments lead on from where the first ones lead to. -/
theorem at?_append (path more : List Text) :
    top.at? (path ++ more) = (top.at? path).bind (at? more) := by
  induction path generalizing top with
  | nil => rfl
  | cons first path ih =>
    show (top.entries.lookup first).bind (at? (path ++ more))
      = ((top.entries.lookup first).bind (at? path)).bind _
    rw [Option.bind_assoc]
    exact Option.bind_congr fun n _ => ih

/-- One more segment leads to an entry. -/
theorem at?_concat (path : List Text) (name : Text) :
    top.at? (path ++ [name]) = (top.at? path).bind fun n => n.entries.lookup name := by
  rw [at?_append]
  refine Option.bind_congr fun n _ => ?_
  show (n.entries.lookup name).bind (at? []) = n.entries.lookup name
  cases n.entries.lookup name <;> rfl

/-- What is found in a tree without repeated names has none. -/
theorem Distinct.of_at? {path : List Text} (h : top.Distinct) (hat : top.at? path = some n) :
    n.Distinct := by
  induction path generalizing top with
  | nil =>
    cases hat
    exact h
  | cons name path ih =>
    obtain ⟨child, hchild, hrest⟩ := Option.bind_eq_some_iff.1 hat
    cases top with
    | file content => cases hchild
    | link target => cases hchild
    | directory es => exact ih (EntriesDistinct.of_mem h.2 (mem_of_lookup hchild)) hrest

/-! ### Sizes -/

/-- An entry is smaller than its directory. -/
theorem size_lt_of_mem (h : (name, n) ∈ es) : n.size < (directory es).size := by
  have hle : n.size ≤ entriesSize es := by
    induction es with
    | nil => cases h
    | cons e es ih =>
      rw [entriesSize]
      rcases List.mem_cons.1 h with rfl | h
      · exact Nat.le_add_right _ _
      · exact Nat.le_trans (ih h) (Nat.le_add_left _ _)
  rw [size]
  omega

/-- No tree is without a node. -/
theorem size_pos (n : FileNode) : 0 < n.size := by
  cases n with
  | file content => exact Nat.one_pos
  | link target => exact Nat.one_pos
  | directory es =>
    rw [size]
    omega

/-- What is found in a tree is no larger than the tree. -/
theorem size_le_of_at? {path : List Text} (h : top.at? path = some n) : n.size ≤ top.size := by
  induction path generalizing top with
  | nil =>
    cases h
    exact Nat.le_refl _
  | cons name path ih =>
    obtain ⟨child, hchild, hrest⟩ := Option.bind_eq_some_iff.1 h
    cases top with
    | file content => cases hchild
    | link target => cases hchild
    | directory es =>
      exact Nat.le_trans (ih hrest) (Nat.le_of_lt (size_lt_of_mem (mem_of_lookup hchild)))

/-! ### The directories of a tree -/

mutual

/-- The places of the directories of a tree that is at a place. -/
def directories (place : List Text) : FileNode → List (List Text)
  | .directory es => place :: entryDirectories place es
  | _ => []

/-- The places of the directories below a place. -/
def entryDirectories (place : List Text) : List (Text × FileNode) → List (List Text)
  | [] => []
  | (name, n) :: es => directories (name :: place) n ++ entryDirectories place es

end

-- A tree and its entries are one nested type, so the two bounds are
-- proved together.
mutual

/-- A tree has no more directories than nodes. -/
theorem length_directories_le :
    ∀ (n : FileNode) (place : List Text), (n.directories place).length ≤ n.size
  | .file content, _ => Nat.zero_le _
  | .link target, _ => Nat.zero_le _
  | .directory es, place => by
    have hes := length_entryDirectories_le es place
    rw [directories, size, List.length_cons]
    omega

/-- Neither have the trees of some entries. -/
theorem length_entryDirectories_le :
    ∀ (es : List (Text × FileNode)) (place : List Text),
      (entryDirectories place es).length ≤ entriesSize es
  | [], _ => Nat.le_refl 0
  | (name, n) :: es, place => by
    have hn := length_directories_le n (name :: place)
    have hes := length_entryDirectories_le es place
    rw [entryDirectories, entriesSize, List.length_append]
    omega

end

/-- The directories of an entry are among those of all. -/
theorem mem_entryDirectories (hmem : (name, n) ∈ es) {p place : List Text}
    (hp : p ∈ n.directories (name :: place)) : p ∈ entryDirectories place es := by
  induction es with
  | nil => cases hmem
  | cons e es ih =>
    rw [entryDirectories]
    rcases List.mem_cons.1 hmem with rfl | hmem
    · exact List.mem_append_left _ hp
    · exact List.mem_append_right _ (ih hmem)

/-- Every directory that a path leads to is among them. -/
theorem mem_directories {path : List Text} (hdir : n.isDirectory = true)
    (h : top.at? path = some n) (place : List Text) :
    path.reverse ++ place ∈ top.directories place := by
  induction path generalizing top place with
  | nil =>
    have heq : top = n := Option.some.inj h
    subst heq
    cases top with
    | file content => cases hdir
    | link target => cases hdir
    | directory es => exact List.mem_cons_self
  | cons name path ih =>
    obtain ⟨child, hchild, hrest⟩ := Option.bind_eq_some_iff.1 h
    cases top with
    | file content => cases hchild
    | link target => cases hchild
    | directory es =>
      rw [List.reverse_cons, List.append_assoc]
      exact List.mem_cons_of_mem _
        (mem_entryDirectories (mem_of_lookup hchild) (ih hrest (name :: place)))

/-! ### Following paths -/

/-- Above what is found there is a directory. -/
theorem exists_directory_of_at?_concat {path : List Text}
    (h : top.at? (path ++ [name]) = some n) : ∃ es, top.at? path = some (.directory es) := by
  rw [at?_concat] at h
  obtain ⟨m, hm, hlookup⟩ := Option.bind_eq_some_iff.1 h
  cases m with
  | file content => cases hlookup
  | link target => cases hlookup
  | directory es => exact ⟨es, hm⟩

/-- A tree with something below its top is a directory. -/
theorem top_ne_link_of_at? {path : List Text} (h : top.at? path = some (.directory es))
    (target : Text) : top ≠ .link target := by
  rintro rfl
  cases path with
  | nil => cases h
  | cons name path => cases h

/-- Neither a directory nor the root above it is a link, so no path that
is met in a directory starts at one. -/
theorem start_ne_link {place : List Text} (h : top.at? place.reverse = some (.directory es))
    (path target : Text) : top.at? (start place path).reverse ≠ some (.link target) := by
  unfold start
  split
  · exact fun heq => top_ne_link_of_at? h target (Option.some.inj heq)
  · rw [h]
    rintro ⟨⟩

/-- What is followed up to a link does not end there, if what is done at
the link does not end at another. The links that are met are in
directories. -/
theorem followUntilLink_ne_link
    {onLink : List Text → Text → List Text → Except FileFault (List Text)}
    (honLink : ∀ place es target rest place', top.at? place.reverse = some (.directory es) →
      onLink place target rest = .ok place' → ∀ t, top.at? place'.reverse ≠ some (.link t))
    {place segments place' : List Text}
    (hplace : ∀ target, top.at? place.reverse ≠ some (.link target))
    (h : top.followUntilLink onLink place segments = .ok place') :
    ∀ target, top.at? place'.reverse ≠ some (.link target) := by
  induction segments generalizing place with
  | nil =>
    cases h
    exact hplace
  | cons s rest ih =>
    unfold followUntilLink at h
    split at h
    case h_2 => cases h
    case h_1 es hes =>
      split at h
      case isTrue => exact ih hplace h
      case isFalse =>
        split at h
        case isTrue =>
          refine ih (fun target => ?_) h
          -- A step up leads to the directory around, or stays at the root.
          cases place with
          | nil => exact hplace target
          | cons last above =>
            rw [List.reverse_cons] at hes
            obtain ⟨es', hes'⟩ := exists_directory_of_at?_concat hes
            rw [List.tail_cons, hes']
            rintro ⟨⟩
        case isFalse =>
          split at h
          case h_1 => cases h
          -- At a link the rest is left to what is done there.
          case h_2 target hlookup => exact honLink _ _ _ _ _ hes h
          case h_3 m hnot hlookup =>
            refine ih (fun target => ?_) h
            rw [List.reverse_cons, at?_concat, hes, Option.bind_some]
            show es.lookup s ≠ _
            rw [hlookup]
            exact fun heq => hnot target (Option.some.inj heq)

/-- A path that is followed does not end at a link. The induction is on
the links that may be followed: behind each of them there is one less,
however many segments its target has. -/
theorem follow_ne_link {links : Nat} {place segments place' : List Text}
    (hplace : ∀ target, top.at? place.reverse ≠ some (.link target))
    (h : top.follow links place segments = .ok place') :
    ∀ target, top.at? place'.reverse ≠ some (.link target) := by
  induction links generalizing place segments place' with
  | zero =>
    refine followUntilLink_ne_link (fun _ _ _ _ _ _ hloop => ?_) hplace h
    cases hloop
  | succ links ih =>
    refine followUntilLink_ne_link (fun place es target rest place' hes hlink => ?_) hplace h
    split at hlink
    · cases hlink
    · exact ih (start_ne_link hes target) hlink

/-- Only from a directory does a segment lead anywhere. -/
theorem exists_directory_of_follow {links : Nat} {place rest place' : List Text} {s : Text}
    (h : top.follow links place (s :: rest) = .ok place') :
    ∃ es, top.at? place.reverse = some (.directory es) := by
  have hfirst : ∀ onLink, top.followUntilLink onLink place (s :: rest) = .ok place' →
      ∃ es, top.at? place.reverse = some (.directory es) := by
    intro onLink h
    unfold followUntilLink at h
    split at h
    case h_1 es hes => exact ⟨es, hes⟩
    case h_2 => cases h
  cases links with
  | zero => exact hfirst _ h
  | succ links => exact hfirst _ h

/-- What a path leads to is no link. -/
theorem ne_link_of_resolve {place place' : List Text} {path : Text}
    (h : top.resolve place path = .ok (place', n)) (target : Text) : n ≠ .link target := by
  obtain ⟨hfollow, hat⟩ := follow_of_resolve h
  rintro rfl
  refine follow_ne_link (fun target' hlink => ?_) hfollow target hat
  -- A path has a segment, so it starts in a directory.
  obtain ⟨s, rest, hsegments⟩ := List.exists_cons_of_ne_nil (Text.split_ne_nil '/' path)
  rw [Path.segments, hsegments] at hfollow
  obtain ⟨es, hes⟩ := exists_directory_of_follow hfollow
  cases hes.symm.trans hlink

/-- Names that go through directories are followed one by one, and no
link is met. -/
theorem followUntilLink_of_at?
    (onLink : List Text → Text → List Text → Except FileFault (List Text))
    {place names : List Text} (hnames : ∀ s ∈ names, Path.Plain s)
    (hat : top.at? (place.reverse ++ names) = some n) (hlink : ∀ target, n ≠ .link target) :
    top.followUntilLink onLink place names = .ok (names.reverse ++ place) := by
  induction names generalizing place with
  | nil => rfl
  | cons s rest ih =>
    obtain ⟨hs, hrest⟩ := List.forall_mem_cons.1 hnames
    have hbehind : top.at? ((s :: place).reverse ++ rest) = some n := by
      rwa [List.reverse_cons, List.append_assoc]
    have hfound := hat
    rw [at?_append] at hfound
    obtain ⟨m, hm, hdown⟩ := Option.bind_eq_some_iff.1 hfound
    obtain ⟨child, hchild, hrest'⟩ := Option.bind_eq_some_iff.1 hdown
    have hstep : top.followUntilLink onLink (s :: place) rest
        = .ok (rest.reverse ++ s :: place) := ih hrest hbehind
    unfold followUntilLink
    cases m with
    | file content => cases hchild
    | link target => cases hchild
    | directory es =>
      rw [hm]
      dsimp only
      rw [if_neg (not_or.2 ⟨hs.ne_nil, hs.ne_dot⟩), if_neg hs.ne_dots, List.reverse_cons,
        List.append_assoc, List.singleton_append, ← hstep]
      split
      case h_1 hnone => cases hchild.symm.trans hnone
      case h_2 target hsome =>
        -- Behind a link there is nothing, and the last name is none.
        cases hchild.symm.trans hsome
        cases rest with
        | nil =>
          cases hrest'
          exact absurd rfl (hlink target)
        | cons t rest => cases hrest'
      case h_3 => rfl

/-- What is in the tree is found under its absolute path, whatever
directory that is met in. -/
theorem resolve_absolute {names : List Text} (hne : names ≠ [])
    (hnames : ∀ s ∈ names, Path.Plain s) (hat : top.at? names = some n)
    (hlink : ∀ target, n ≠ .link target) (here : List Text) :
    top.resolve here (Path.absolute names) = .ok (names.reverse, n) := by
  obtain ⟨s, rest, rfl⟩ := List.exists_cons_of_ne_nil hne
  have hsegments : Path.segments (Path.absolute (s :: rest)) = [] :: s :: rest :=
    Path.segments_absolute fun t ht => (hnames t ht).no_slash
  have hdirectory : ∃ es, top = .directory es := by
    cases top with
    | file content => cases hat
    | link target => cases hat
    | directory es => exact ⟨es, rfl⟩
  obtain ⟨es, rfl⟩ := hdirectory
  have hnone : Path.absolute (s :: rest) ≠ [] := List.cons_ne_nil _ _
  have hstart : start here (Path.absolute (s :: rest)) = [] := if_pos rfl
  -- The empty segment in front of the first slash leads nowhere else.
  have hfollow : (directory es).follow linkLimit [] ([] :: s :: rest) = .ok (s :: rest).reverse := by
    have hat' : (directory es).at? (([] : List Text).reverse ++ s :: rest) = some n := hat
    rw [← List.append_nil (s :: rest).reverse]
    exact followUntilLink_of_at? _ hnames hat' hlink
  rw [resolve, if_neg hnone, hstart, hsegments, hfollow]
  dsimp only [bind, Except.bind]
  rw [List.reverse_reverse, hat]
  rfl

end FileNode

/-! ### Steps -/

/-- Where a walk is. -/
structure Spot where
  /-- The places of the directories that the walk is in. -/
  around : List (List Text)
  /-- The place, from the last segment to the first. -/
  place : List Text
  /-- The node there. -/
  node : FileNode

namespace Spot

/-- A step to the entry with a name. What an entry is depends on what it
is for whoever follows links. -/
inductive Step (top : FileNode) (s : Spot) (name : Text) : Spot → Prop
  /-- The entry is a file or a directory. -/
  | entry {es : List (Text × FileNode)} {n : FileNode} (hes : s.node = .directory es)
    (hmem : (name, n) ∈ es) (hlink : ∀ target, n ≠ .link target) :
    Step top s name ⟨s.place :: s.around, name :: s.place, n⟩
  /-- The entry is a link to something else than a directory that the walk
  is in. -/
  | link {es : List (Text × FileNode)} {target : Text} {place : List Text} {n : FileNode}
    (hes : s.node = .directory es) (hmem : (name, .link target) ∈ es)
    (hresolve : top.resolve s.place name = .ok (place, n))
    (hnew : n.isDirectory = true → place ∉ s.place :: s.around) :
    Step top s name ⟨s.place :: s.around, place, n⟩

/-- A link that there is no step for. -/
inductive Breaks (top : FileNode) (s : Spot) (name : Text) : FileFault → Prop
  /-- It leads nowhere. -/
  | nowhere {es : List (Text × FileNode)} {target : Text} {fault : FileFault}
    (hes : s.node = .directory es) (hmem : (name, .link target) ∈ es)
    (hresolve : top.resolve s.place name = .error fault) : Breaks top s name fault
  /-- It leads back to a directory that the walk is in. -/
  | back {es : List (Text × FileNode)} {target : Text} {place : List Text} {n : FileNode}
    (hes : s.node = .directory es) (hmem : (name, .link target) ∈ es)
    (hresolve : top.resolve s.place name = .ok (place, n)) (hdir : n.isDirectory = true)
    (haround : place ∈ s.place :: s.around) : Breaks top s name FileView.cycle

/-- Some steps, with the names of the entries. -/
inductive Leads (top : FileNode) : Spot → List Text → Spot → Prop
  /-- No step. -/
  | here {s : Spot} : Leads top s [] s
  /-- A step, and some behind it. -/
  | on {s t u : Spot} {name : Text} {names : List Text} (first : Step top s name t)
    (rest : Leads top t names u) : Leads top s (name :: names) u

/-- A spot is in a tree when its node is at its place, and is no link. -/
structure In (top : FileNode) (s : Spot) : Prop where
  /-- The node is the one at the place. -/
  found : top.at? s.place.reverse = some s.node
  /-- Links have been followed. -/
  no_link : ∀ target, s.node ≠ .link target

variable {top : FileNode} {s t u : Spot} {name : Text} {names : List Text} {fault : FileFault}

/-- Every step starts in a directory. -/
theorem Step.isDirectory (h : Step top s name t) : s.node.isDirectory = true := by
  cases h with
  | entry hes => rw [hes]; rfl
  | link hes => rw [hes]; rfl

/-- A link that breaks is in a directory as well. -/
theorem Breaks.isDirectory (h : Breaks top s name fault) : s.node.isDirectory = true := by
  cases h with
  | nowhere hes => rw [hes]; rfl
  | back hes => rw [hes]; rfl

/-- The steps stay in a tree. -/
theorem Step.stays (htop : top.Distinct) (hs : s.In top) (h : Step top s name t) : t.In top := by
  cases h with
  | @entry es n hes hmem hlink =>
    refine ⟨?_, hlink⟩
    have hfound := hs.found
    rw [hes] at hfound
    have hlookup : es.lookup name = some n :=
      FileNode.lookup_of_mem (htop.of_at? hfound).1 hmem
    rw [List.reverse_cons, FileNode.at?_concat, hfound]
    exact hlookup
  | link hes hmem hresolve hnew =>
    exact ⟨FileNode.at?_of_resolve hresolve, FileNode.ne_link_of_resolve hresolve⟩

/-- A step goes by the name of an entry. -/
theorem Step.isName (htop : top.Named) (hs : s.In top) (h : Step top s name t) :
    Path.IsName name := by
  have hnamed : s.node.Named := htop.of_at? hs.found
  cases h with
  | entry hes hmem =>
    rw [hes] at hnamed
    exact (FileNode.EntriesNamed.of_mem hnamed hmem).1
  | link hes hmem =>
    rw [hes] at hnamed
    exact (FileNode.EntriesNamed.of_mem hnamed hmem).1

/-- Wherever a link breaks, all steps start in a directory. -/
theorem Leads.isDirectory (h : Leads top s names t) (hbreaks : Breaks top t name fault) :
    s.node.isDirectory = true := by
  cases h with
  | here => exact hbreaks.isDirectory
  | on first => exact first.isDirectory

/-- All steps go by names. -/
theorem Leads.isName (htop : top.Named) (hdistinct : top.Distinct) (hs : s.In top)
    (h : Leads top s names t) : ∀ name ∈ names, Path.IsName name := by
  induction h with
  | here => exact fun _ hname => nomatch hname
  | on first rest ih =>
    intro name hname
    rcases List.mem_cons.1 hname with rfl | hname
    · exact first.isName htop hs
    · exact ih (first.stays hdistinct hs) name hname

/-! ### How far it is to an end -/

/-- How many directories of a tree a walk at a spot is not in. -/
def fresh (top : FileNode) (s : Spot) : Nat :=
  (top.directories []).countP fun p => !(s.place :: s.around).contains p

/-- A bound on the steps that are left at a spot. The directories that
the walk is not in count more than any node. -/
def weight (top : FileNode) (s : Spot) : Nat := s.fresh top * (top.size + 1) + s.node.size

/-- What is counted with one element less is less. -/
theorem countP_lt_of_mem {p q : List Text → Bool} {ps : List (List Text)} {a : List Text}
    (hqp : ∀ x, q x = true → p x = true) (hmem : a ∈ ps) (hp : p a = true) (hq : q a = false) :
    ps.countP q < ps.countP p := by
  induction ps with
  | nil => cases hmem
  | cons b ps ih =>
    rw [List.countP_cons, List.countP_cons]
    rcases List.mem_cons.1 hmem with rfl | hmem
    · -- The first is the one that only `p` counts.
      have hle : ps.countP q ≤ ps.countP p := List.countP_mono_left fun x _ => hqp x
      rw [hq, hp, if_neg Bool.false_ne_true, if_pos rfl]
      omega
    · have hlt := ih hmem
      have hb := hqp b
      split
      case isTrue h =>
        rw [if_pos (hb h)]
        omega
      case isFalse => omega

/-- What a walk has been in before it is not in anew. -/
theorem fresh_le (haround : s.place :: s.around ⊆ t.place :: t.around) :
    t.fresh top ≤ s.fresh top := by
  refine List.countP_mono_left fun p _ hp => ?_
  rw [Bool.not_eq_true', ← Bool.not_eq_true, List.contains_iff_mem] at hp ⊢
  exact fun hmem => hp (haround hmem)

/-- In a directory that the walk has not been in there is one less. -/
theorem fresh_lt (ht : t.In top) (hdir : t.node.isDirectory = true)
    (haround : s.place :: s.around ⊆ t.around) (hnew : t.place ∉ s.place :: s.around) :
    t.fresh top < s.fresh top := by
  have hmem : t.place ∈ top.directories [] := by
    have hplace := FileNode.mem_directories hdir ht.found []
    rwa [List.reverse_reverse, List.append_nil] at hplace
  refine countP_lt_of_mem (fun p hp => ?_) hmem ?_ ?_
  · rw [Bool.not_eq_true', ← Bool.not_eq_true, List.contains_iff_mem] at hp ⊢
    exact fun h => hp (List.mem_cons_of_mem _ (haround h))
  · rw [Bool.not_eq_true', ← Bool.not_eq_true, List.contains_iff_mem]
    exact hnew
  · rw [Bool.not_eq_false', List.contains_iff_mem]
    exact List.mem_cons_self

/-- What is at a spot is no larger than the tree. -/
theorem size_le (hs : s.In top) : s.node.size ≤ top.size := FileNode.size_le_of_at? hs.found

/-- Every step to a directory is a step closer to an end. -/
theorem weight_lt (htop : top.Distinct) (hs : s.In top) (h : Step top s name t)
    (hdir : t.node.isDirectory = true) : t.weight top < s.weight top := by
  have ht : t.In top := h.stays htop hs
  have hsize : t.node.size ≤ top.size := size_le ht
  unfold weight
  cases h with
  | @entry es n hes hmem hlink =>
    -- There are as many directories left, but the node is smaller.
    have hle : fresh top ⟨s.place :: s.around, name :: s.place, n⟩ ≤ s.fresh top :=
      fresh_le (List.subset_cons_self _ _)
    have hlt : n.size < s.node.size := by
      rw [hes]
      exact FileNode.size_lt_of_mem hmem
    have hmul := Nat.mul_le_mul_right (top.size + 1) hle
    dsimp only at hsize ⊢
    omega
  | @link es target place n hes hmem hresolve hnew =>
    -- The node may be any of the tree, but there is a directory less.
    have hlt := fresh_lt (s := s) ht hdir (List.Subset.refl _) (hnew hdir)
    have hmul := Nat.mul_le_mul_right (top.size + 1) (Nat.succ_le_of_lt hlt)
    rw [Nat.succ_mul] at hmul
    dsimp only at hsize ⊢
    omega

/-- How far a view has to reach from a spot on. -/
structure Within (top : FileNode) (fuel : Nat) (s : Spot) : Prop where
  /-- The spot itself is seen. -/
  pos : 0 < fuel
  /-- So is what is below a directory. -/
  weight_le : s.node.isDirectory = true → s.weight top ≤ fuel

/-- Behind a step it is enough to see one level less. -/
theorem Within.step {fuel : Nat} (htop : top.Distinct) (hs : s.In top)
    (hfuel : s.Within top (fuel + 1)) (h : Step top s name t) : t.Within top fuel := by
  have hle := hfuel.weight_le h.isDirectory
  refine ⟨?_, fun hdir => ?_⟩
  · -- A directory with an entry has two nodes at least.
    have htwo : 2 ≤ s.node.size := by
      cases h with
      | @entry es n hes hmem =>
        rw [hes]
        exact Nat.lt_of_le_of_lt n.size_pos (FileNode.size_lt_of_mem hmem)
      | @link es target place n hes hmem =>
        rw [hes]
        exact Nat.lt_of_le_of_lt (FileNode.link target).size_pos (FileNode.size_lt_of_mem hmem)
    rw [weight] at hle
    omega
  · have hlt := weight_lt htop hs h hdir
    omega

/-- The limit of a view is enough wherever it starts. -/
theorem within_depthLimit (hs : s.In top) : s.Within top (FileView.depthLimit top.size) := by
  have hfresh : s.fresh top ≤ top.size :=
    Nat.le_trans List.countP_le_length (FileNode.length_directories_le top [])
  have hsize := size_le hs
  have hmul := Nat.mul_le_mul_right (top.size + 1) hfresh
  have hlimit : FileView.depthLimit top.size = top.size * (top.size + 1) + (top.size + 1) := by
    rw [FileView.depthLimit, Nat.add_mul, Nat.one_mul]
  refine ⟨by omega, fun _ => ?_⟩
  rw [weight]
  omega

/-! ### What is seen from a spot -/

/-- What is seen from a spot, up to a depth. -/
def view (top : FileNode) (fuel : Nat) (s : Spot) : FileView :=
  FileView.ofNode top fuel s.around s.place s.node

/-- A file is seen with its size. -/
theorem view_file {fuel : Nat} {content : Bytes} (h : s.node = .file content) :
    s.view top (fuel + 1) = .file content.length := by
  rw [view, h, FileView.ofNode]

/-- What is seen of an entry of the directory at a spot. -/
def viewEntry (top : FileNode) (fuel : Nat) (s : Spot) (name : Text) (n : FileNode) : FileView :=
  match n with
  | .link _ =>
    match top.resolve s.place name with
    | .error fault => .broken fault
    | .ok (target, n) =>
      if n.isDirectory && (s.place :: s.around).contains target then .broken FileView.cycle
      else FileView.ofNode top fuel (s.place :: s.around) target n
  | n => FileView.ofNode top fuel (s.place :: s.around) (name :: s.place) n

/-- A directory is seen as what is seen of its entries. -/
theorem view_eq_directory (top : FileNode) {es : List (Text × FileNode)}
    (hes : s.node = .directory es) (fuel : Nat) :
    s.view top (fuel + 1) = .directory (es.map fun e => (e.1, s.viewEntry top fuel e.1 e.2)) := by
  rw [view, hes, FileView.ofNode]
  rfl

/-- An entry is seen as what is seen behind the step to it. -/
theorem Step.exists_viewEntry_eq (h : Step top s name t) {es : List (Text × FileNode)}
    (hes : s.node = .directory es) (fuel : Nat) :
    ∃ n, (name, n) ∈ es ∧ s.viewEntry top fuel name n = t.view top fuel := by
  cases h with
  | @entry es' n hes' hmem hlink =>
    cases hes.symm.trans hes'
    refine ⟨n, hmem, ?_⟩
    cases n with
    | file content => rfl
    | directory es' => rfl
    | link target => exact absurd rfl (hlink target)
  | @link es' target place n hes' hmem hresolve hnew =>
    cases hes.symm.trans hes'
    have hnot : ¬(n.isDirectory && (s.place :: s.around).contains place) = true := by
      rw [Bool.and_eq_true, List.contains_iff_mem, not_and]
      exact hnew
    refine ⟨.link target, hmem, ?_⟩
    unfold viewEntry
    dsimp only
    rw [hresolve]
    exact if_neg hnot

/-- A link that there is no step for is seen as broken. -/
theorem Breaks.exists_viewEntry_eq (h : Breaks top s name fault) {es : List (Text × FileNode)}
    (hes : s.node = .directory es) (fuel : Nat) :
    ∃ n, (name, n) ∈ es ∧ s.viewEntry top fuel name n = .broken fault := by
  cases h with
  | @nowhere es' target fault hes' hmem hresolve =>
    cases hes.symm.trans hes'
    refine ⟨.link target, hmem, ?_⟩
    unfold viewEntry
    dsimp only
    rw [hresolve]
  | @back es' target place n hes' hmem hresolve hdir haround =>
    cases hes.symm.trans hes'
    have hback : (n.isDirectory && (s.place :: s.around).contains place) = true := by
      rw [Bool.and_eq_true, List.contains_iff_mem]
      exact ⟨hdir, haround⟩
    refine ⟨.link target, hmem, ?_⟩
    unfold viewEntry
    dsimp only
    rw [hresolve]
    exact if_pos hback

/-- There is a step for an entry, or it is a link that there is none
for. -/
theorem step_or_breaks {es : List (Text × FileNode)} (hes : s.node = .directory es) {n : FileNode}
    (hmem : (name, n) ∈ es) (fuel : Nat) :
    (∃ t, Step top s name t ∧ s.viewEntry top fuel name n = t.view top fuel) ∨
      ∃ fault, Breaks top s name fault ∧ s.viewEntry top fuel name n = .broken fault := by
  cases n with
  | file content => exact .inl ⟨_, .entry hes hmem nofun, rfl⟩
  | directory es' => exact .inl ⟨_, .entry hes hmem nofun, rfl⟩
  | link target =>
    unfold viewEntry
    dsimp only
    split
    case h_1 fault hresolve => exact .inr ⟨fault, .nowhere hes hmem hresolve, rfl⟩
    case h_2 place n hresolve =>
      split
      case isTrue h =>
        rw [Bool.and_eq_true, List.contains_iff_mem] at h
        exact .inr ⟨_, .back hes hmem hresolve h.1 h.2, rfl⟩
      case isFalse h =>
        rw [Bool.and_eq_true, List.contains_iff_mem, not_and] at h
        exact .inl ⟨_, .link hes hmem hresolve h, rfl⟩

/-- In a directory the entries that there is a step for are seen as what
is seen behind it, and the others as broken links. -/
theorem view_directory (top : FileNode) {es : List (Text × FileNode)}
    (hes : s.node = .directory es) (fuel : Nat) :
    ∃ vs, s.view top (fuel + 1) = .directory vs ∧ vs.map Prod.fst = es.map Prod.fst ∧
      ∀ name v, (name, v) ∈ vs ↔
        (∃ t, Step top s name t ∧ v = t.view top fuel) ∨
          ∃ fault, Breaks top s name fault ∧ v = .broken fault := by
  have hseen : ∀ name v,
      (name, v) ∈ es.map (fun e => (e.1, s.viewEntry top fuel e.1 e.2)) ↔
        ∃ n, (name, n) ∈ es ∧ s.viewEntry top fuel name n = v := fun name v => by
    rw [List.mem_map]
    constructor
    · rintro ⟨⟨_, n⟩, hmem, heq⟩
      obtain ⟨rfl, rfl⟩ := Prod.mk.inj heq
      exact ⟨n, hmem, rfl⟩
    · rintro ⟨n, hmem, rfl⟩
      exact ⟨(name, n), hmem, rfl⟩
  refine ⟨_, view_eq_directory top hes fuel, by rw [List.map_map]; rfl, fun name v => ?_⟩
  rw [hseen]
  constructor
  · rintro ⟨n, hmem, rfl⟩
    exact step_or_breaks hes hmem fuel
  · rintro (⟨t, hstep, rfl⟩ | ⟨fault, hbreaks, rfl⟩)
    · exact hstep.exists_viewEntry_eq hes fuel
    · exact hbreaks.exists_viewEntry_eq hes fuel

end Spot

end SiteSync
