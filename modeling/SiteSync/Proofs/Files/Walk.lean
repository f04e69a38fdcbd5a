import SiteSync.Files.Walk
import SiteSync.Proofs.Deploy.Contracts
import SiteSync.Proofs.Text.Split

/-!
# `SiteSync.Proofs.Files.Walk`: a walk finds what its filter accepts

A filter decides about a file by its path and the paths of the
directories above it. A walk never enters a directory that is skipped,
and does not look at what is below it. Both come to the same:

- `FileView.files_sightings`: of all files that could be seen, the walk
  finds those that the filter accepts;
- `LocalSource.ofTree_finds`: a walk through a tree of files keeps the
  contract of `LocalSource.Finds`, which the deploy relies on. It keeps
  that of `LocalSource.FailsByIo` as well (`ofTree_failsByIo`).

The names of the entries must be single segments of a path
(`FileNode.Named`), as they are in a file system.
-/

set_option autoImplicit false

namespace SiteSync

/-! ### The directories above a file -/

namespace WalkFilter

/-- A name has no directories above it. -/
theorem ancestors_go_of_not_mem {name : Text} (h : '/' ∉ name) (before : Text) :
    ancestors.go before name = [] := by
  induction name generalizing before with
  | nil => rfl
  | cons c name ih =>
    rw [List.mem_cons, not_or] at h
    rw [ancestors.go, if_neg (Ne.symm h.1), ih h.2]

/-- Above a name at the end of a path is that path, and what is above the
path. -/
theorem ancestors_go_slash {name : Text} (h : '/' ∉ name) (before path : Text) :
    ancestors.go before (path ++ '/' :: name)
      = ancestors.go before path ++ [before.reverse ++ path] := by
  induction path generalizing before with
  | nil =>
    have hgo : ancestors.go before ('/' :: name)
        = before.reverse :: ancestors.go ('/' :: before) name := rfl
    rw [List.nil_append, hgo, ancestors_go_of_not_mem h, List.append_nil]
    rfl
  | cons c path ih =>
    rw [List.cons_append, ancestors.go, ancestors.go, ih, List.reverse_cons, List.append_assoc]
    split <;> rfl

/-- The directories that the entries of a directory are in. The root of
a walk has no path of its own. -/
def around (path : Text) : List Text := if path = [] then [] else ancestors path ++ [path]

/-- Above an entry is its directory, and what is above the directory. -/
theorem ancestors_entryPath {name : Text} (h : '/' ∉ name) (path : Text) :
    ancestors (FileView.entryPath path name) = around path := by
  unfold FileView.entryPath around
  by_cases hpath : path = []
  · rw [if_pos hpath, if_pos hpath]
    exact ancestors_go_of_not_mem h []
  · rw [if_neg hpath, if_neg hpath]
    exact ancestors_go_slash h [] path

/-- What is above a directory is above its entries. -/
theorem ancestors_subset_around (path : Text) : ancestors path ⊆ around path := by
  intro a ha
  unfold around
  split
  · rename_i hpath
    rw [hpath] at ha
    cases ha
  · exact List.mem_append_left _ ha

/-- A directory is above its entries. -/
theorem mem_around_self {path : Text} (h : path ≠ []) : path ∈ around path := by
  rw [around, if_neg h]
  exact List.mem_append_right _ (List.mem_singleton.2 rfl)

/-- A file below a directory that is skipped takes no part. -/
theorem accepts_eq_false {filter : WalkFilter} {path a : Text} (ha : a ∈ ancestors path)
    (hskip : filter.skipsDir a = true) : filter.accepts path = false := by
  rw [accepts, Bool.and_eq_false_iff, List.all_eq_false]
  exact .inr ⟨a, ha, by simp [hskip]⟩

end WalkFilter

/-! ### What could be seen -/

/-- A name that is one segment of a path. -/
def Path.IsName (name : Text) : Prop := name ≠ [] ∧ '/' ∉ name

namespace FileView

open WalkFilter

mutual

/-- Every entry that is seen has a name. -/
def Named : FileView → Prop
  | .directory es => EntriesNamed es
  | _ => True

/-- Some entries and all below them have names. -/
def EntriesNamed : List (Text × FileView) → Prop
  | [] => True
  | (name, v) :: es => Path.IsName name ∧ Named v ∧ EntriesNamed es

end

mutual

/-- All files that are seen, whether or not they take part. -/
def files (path location : Text) : FileView → List WalkedFile
  | .file size => [⟨path, location, size⟩]
  | .directory es => entryFiles path location es
  | .broken _ => []

/-- All files that are seen below a directory. -/
def entryFiles (path location : Text) : List (Text × FileView) → List WalkedFile
  | [] => []
  | (name, v) :: es =>
    files (entryPath path name) (Path.within location name) v ++ entryFiles path location es

end

/-- The path of an entry is not empty: it ends in its name. -/
theorem entryPath_ne_nil {name : Text} (h : name ≠ []) (path : Text) :
    entryPath path name ≠ [] := by
  unfold entryPath
  split
  · exact h
  · simp

-- The views and their entries are one nested type, so the two statements
-- are proved together.
mutual

/-- What is above a place is above every file that is seen there. -/
theorem ancestors_subset_of_mem_files {f : WalkedFile} :
    ∀ (v : FileView), v.Named → ∀ path location, f ∈ v.files path location →
      ancestors path ⊆ ancestors f.path
  | .file size, _, path, location, hf => by
    rw [files, List.mem_singleton] at hf
    rw [hf]
    exact List.Subset.refl _
  | .directory es, hv, path, location, hf => by
    rw [files] at hf
    exact List.Subset.trans (ancestors_subset_around path)
      (around_subset_of_mem_entryFiles es hv path location hf)
  | .broken fault, _, path, location, hf => by
    rw [files] at hf
    cases hf

/-- A directory is above every file that is seen below it. -/
theorem around_subset_of_mem_entryFiles {f : WalkedFile} :
    ∀ (es : List (Text × FileView)), EntriesNamed es → ∀ path location,
      f ∈ entryFiles path location es → around path ⊆ ancestors f.path
  | [], _, path, location, hf => by
    rw [entryFiles] at hf
    cases hf
  | (name, v) :: es, ⟨hname, hv, hes⟩, path, location, hf => by
    rw [entryFiles, List.mem_append] at hf
    rcases hf with hf | hf
    · rw [← ancestors_entryPath hname.2 path]
      exact ancestors_subset_of_mem_files v hv _ _ hf
    · exact around_subset_of_mem_entryFiles es hes path location hf

end

/-! ### What a walk finds -/

variable {filter : WalkFilter}

/-- Below a directory that is skipped no file takes part. -/
theorem filter_files_of_skipsDir {v : FileView} (hv : v.Named) (hdir : v.isDirectory = true)
    {path : Text} (hpath : path ≠ []) (hskip : filter.skipsDir path = true) (location : Text) :
    (v.files path location).filter (filter.accepts ·.path) = [] := by
  refine List.filter_eq_nil_iff.2 fun f hf => ?_
  cases v with
  | file size => cases hdir
  | broken fault => cases hdir
  | directory es =>
    rw [files] at hf
    have habove := around_subset_of_mem_entryFiles es hv path location hf (mem_around_self hpath)
    rw [accepts_eq_false habove hskip]
    exact Bool.false_ne_true

mutual

/-- Where no directory above is skipped, the walk finds the files that
the filter accepts. -/
theorem files_sightings :
    ∀ (v : FileView), v.Named → ∀ path location,
      (ancestors path).all (!filter.skipsDir ·) = true →
      (v.isDirectory = true → (around path).all (!filter.skipsDir ·) = true) →
      (v.sightings filter path location).filterMap Sighting.file?
        = (v.files path location).filter (filter.accepts ·.path)
  | .file size, _, path, location, habove, _ => by
    have haccepts : filter.accepts path = !filter.skipsFile path := by
      rw [accepts, habove, Bool.and_true]
    rw [sightings, files, List.filter_singleton, haccepts]
    cases filter.skipsFile path <;> rfl
  | .directory es, hv, path, location, _, hopen => by
    rw [sightings, files]
    exact files_entrySightings es hv path location (hopen rfl)
  | .broken fault, _, path, location, _, _ => by
    rw [sightings, files]
    rfl

/-- The same for the entries of a directory that is not skipped. -/
theorem files_entrySightings :
    ∀ (es : List (Text × FileView)), EntriesNamed es → ∀ path location,
      (around path).all (!filter.skipsDir ·) = true →
      (entrySightings filter path location es).filterMap Sighting.file?
        = (entryFiles path location es).filter (filter.accepts ·.path)
  | [], _, path, location, _ => by
    rw [entrySightings, entryFiles]
    rfl
  | (name, v) :: es, ⟨hname, hv, hes⟩, path, location, hopen => by
    have hne := entryPath_ne_nil hname.1 path
    have habove := hopen
    rw [← ancestors_entryPath hname.2 path] at habove
    rw [entrySightings, entryFiles, List.filterMap_append, List.filter_append,
      files_entrySightings es hes path location hopen]
    congr 1
    by_cases hskip : (v.isDirectory && filter.skipsDir (entryPath path name)) = true
    · -- The walk does not enter the directory, and the filter accepts nothing below it.
      rw [Bool.and_eq_true] at hskip
      rw [if_pos (Bool.and_eq_true_iff.2 hskip), filter_files_of_skipsDir hv hskip.1 hne hskip.2]
      rfl
    · rw [if_neg hskip]
      refine files_sightings v hv _ _ habove fun hdir => ?_
      rw [hdir, Bool.true_and, Bool.not_eq_true] at hskip
      rw [around, if_neg hne, List.all_append, habove, List.all_cons, hskip]
      rfl

end

end FileView

/-! ### Trees -/

namespace FileNode

mutual

/-- Every entry of a tree has a name. -/
def Named : FileNode → Prop
  | .directory es => EntriesNamed es
  | _ => True

/-- Some entries and all below them have names. -/
def EntriesNamed : List (Text × FileNode) → Prop
  | [] => True
  | (name, n) :: es => Path.IsName name ∧ Named n ∧ EntriesNamed es

end

variable {top n : FileNode} {es : List (Text × FileNode)}

/-- What is true of some entries is true of each. -/
theorem EntriesNamed.of_mem (h : EntriesNamed es) {e : Text × FileNode} (he : e ∈ es) :
    Path.IsName e.1 ∧ e.2.Named := by
  induction es with
  | nil => cases he
  | cons e' es ih =>
    rcases List.mem_cons.1 he with rfl | he
    · exact ⟨h.1, h.2.1⟩
    · exact ih h.2.2 he

/-- What is found by a name is an entry of that name. -/
theorem mem_of_lookup {name : Text} (h : es.lookup name = some n) : (name, n) ∈ es := by
  induction es with
  | nil => cases h
  | cons e es ih =>
    rw [List.lookup_cons] at h
    split at h
    · rename_i heq
      rw [beq_iff_eq] at heq
      cases h
      rw [heq]
      exact List.mem_cons_self ..
    · exact List.mem_cons_of_mem _ (ih h)

/-- What is found in a tree with names has names. -/
theorem Named.of_at? {path : List Text} (h : top.Named) (hat : top.at? path = some n) :
    n.Named := by
  induction path generalizing top with
  | nil =>
    cases hat
    exact h
  | cons name path ih =>
    obtain ⟨child, hchild, hrest⟩ := Option.bind_eq_some_iff.1 hat
    cases top with
    | file content => cases hchild
    | link target => cases hchild
    | directory es => exact ih (EntriesNamed.of_mem h (mem_of_lookup hchild)).2 hrest

/-- A path that leads somewhere has been followed, and there is a node at
its end. -/
theorem follow_of_resolve {place target : List Text} {path : Text}
    (h : top.resolve place path = .ok (target, n)) :
    top.follow linkLimit (start place path) (Path.segments path) = .ok target ∧
      top.at? target.reverse = some n := by
  unfold resolve at h
  split at h
  · cases h
  · cases hfollow : top.follow linkLimit (start place path) (Path.segments path) with
    | error fault =>
      rw [hfollow] at h
      cases h
    | ok end' =>
      rw [hfollow] at h
      dsimp only [bind, Except.bind] at h
      split at h
      · rename_i m hm
        cases h
        exact ⟨rfl, hm⟩
      · cases h

/-- Following a path leads to a node of the tree. -/
theorem at?_of_resolve {place target : List Text} {path : Text}
    (h : top.resolve place path = .ok (target, n)) : top.at? target.reverse = some n :=
  (follow_of_resolve h).2

end FileNode

namespace FileView

variable {top : FileNode}

/-- What is true of each entry is true of all. -/
theorem entriesNamed_of_forall {es : List (Text × FileView)}
    (h : ∀ e ∈ es, Path.IsName e.1 ∧ e.2.Named) : EntriesNamed es := by
  induction es with
  | nil => trivial
  | cons e es ih =>
    obtain ⟨hname, hv⟩ := h e (List.mem_cons_self ..)
    exact ⟨hname, hv, ih fun e' he => h e' (List.mem_cons_of_mem _ he)⟩

/-- A tree with names is seen with names. -/
theorem named_ofNode (htop : top.Named) :
    ∀ (fuel : Nat) (around : List (List Text)) (place : List Text) (n : FileNode), n.Named →
      (ofNode top fuel around place n).Named := by
  intro fuel
  induction fuel with
  | zero =>
    intro around place n hn
    trivial
  | succ fuel ih =>
    intro around place n hn
    cases n with
    | file content => trivial
    | link target => trivial
    | directory es =>
      refine entriesNamed_of_forall fun seen hseen => ?_
      obtain ⟨⟨name, child⟩, he, rfl⟩ := List.mem_map.1 hseen
      obtain ⟨hname, hchild⟩ := FileNode.EntriesNamed.of_mem hn he
      refine ⟨hname, ?_⟩
      dsimp only
      cases child with
      | file content => exact ih _ _ _ hchild
      | directory es' => exact ih _ _ _ hchild
      | link target =>
        dsimp only
        -- The link leads to another node of the tree, or nowhere.
        split
        · trivial
        · rename_i place' n' hresolve
          split
          · trivial
          · exact ih _ _ _ (htop.of_at? (FileNode.at?_of_resolve hresolve))

/-- So what a path leads to is seen with names. -/
theorem named_ofPath (htop : top.Named) (place : List Text) (path : Text) :
    (ofPath top place path).Named := by
  unfold ofPath
  split
  · trivial
  · rename_i target n hresolve
    exact named_ofNode htop _ _ _ _ (htop.of_at? (FileNode.at?_of_resolve hresolve))

end FileView

/-- A walk that succeeds has come across no fault, and returns the files
that it has seen. -/
theorem Sighting.outcome_done {ss : List Sighting} {found : List WalkedFile}
    (h : (outcome ss).1 = .done found) : found.Perm (ss.filterMap file?) := by
  unfold outcome at h
  split at h
  · cases h
    exact List.mergeSort_perm _ _
  · cases h

/-- A walk through a tree of files finds the files that its filter
accepts. -/
theorem LocalSource.ofTree_finds {top : FileNode} (h : top.Named) (place : List Text)
    (root : Text) (filter : WalkFilter) :
    (LocalSource.ofTree top place).Finds root filter
      ((FileView.ofPath top place root).files [] root) := by
  intro found hfound
  rw [← FileView.files_sightings _ (FileView.named_ofPath h place root) [] root rfl fun _ => rfl]
  exact Sighting.outcome_done hfound

/-- A walk that fails has come across a fault. -/
theorem Sighting.outcome_failed {ss : List Sighting} {e : Error}
    (h : (outcome ss).1 = .failed e) : ∃ location cause, e = .io location cause := by
  unfold outcome at h
  split at h
  · cases h
  · rename_i e' hfind
    cases h
    obtain ⟨s, -, hs⟩ := List.exists_of_findSome?_eq_some hfind
    cases s with
    | file f => cases hs
    | skipped path => cases hs
    | fault location cause =>
      cases hs
      exact ⟨location, cause, rfl⟩

/-- What goes wrong with a tree of files is that one of them cannot be
used. -/
theorem LocalSource.ofTree_failsByIo (top : FileNode) (place : List Text) :
    (LocalSource.ofTree top place).FailsByIo where
  walk := fun _ _ _ he => Sighting.outcome_failed he
  read := fun location e he => by
    unfold ofTree at he
    dsimp only at he
    split at he
    · cases he
    · cases he
      exact ⟨location, _, rfl⟩

end SiteSync
