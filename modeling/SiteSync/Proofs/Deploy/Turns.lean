import SiteSync.Proofs.Deploy.Tidy

/-!
# `SiteSync.Proofs.Deploy.Turns`: one group after another

`History.InTurn` says that some groups were handled one after another,
each with a history of its own, and that none was begun after the first
that had an error. The histories put together handle the files of all
the groups (`InTurn.handles`), and at an error they are those of the
groups before, which had none, and of the group that had it
(`InTurn.exists_stop`).
-/

set_option autoImplicit false

namespace SiteSync.History

/-- The groups are handled one after another, each as its history says.
After an error no other group is begun. -/
inductive InTurn (source : LocalSource) (rules : Rules) :
    List (List WalkedFile) → List History → Prop where
  | nil : InTurn source rules [] []
  /-- A group without an error is followed by the next. -/
  | next {files : List WalkedFile} {h : History} {groups : List (List WalkedFile)}
      {hs : List History} (hh : h.Handles source rules files) (hf : h.failures = [])
      (rest : InTurn source rules groups hs) : InTurn source rules (files :: groups) (h :: hs)
  /-- A group with an error is the last. -/
  | stop {files : List WalkedFile} {h : History} (groups : List (List WalkedFile))
      (hh : h.Handles source rules files) (hf : h.failures ≠ []) :
      InTurn source rules (files :: groups) [h]

namespace InTurn

variable {source : LocalSource} {rules : Rules} {groups : List (List WalkedFile)}
  {hs : List History}

/-- Put together, the histories of the groups handle all their files. -/
theorem handles (ht : InTurn source rules groups hs) :
    Handles source rules groups.flatten hs.flatten := by
  induction ht with
  | nil => exact .nil source rules
  | next hh hf _ ih => exact hh.append ih hf
  | stop groups hh hf =>
    rw [List.flatten_singleton]
    exact hh.stop hf groups.flatten

/-- Every history is that of the group at its place. -/
theorem handles_getElem (ht : InTurn source rules groups hs) {i : Nat} {h : History}
    (hi : hs[i]? = some h) : ∃ files, groups[i]? = some files ∧ Handles source rules files h := by
  induction ht generalizing i with
  | nil => cases hi
  | @next files h' groups hs hh hf _ ih =>
    cases i with
    | zero =>
      cases hi
      exact ⟨files, rfl, hh⟩
    | succ i => exact ih hi
  | @stop files h' groups hh hf =>
    cases i with
    | zero =>
      cases hi
      exact ⟨files, rfl, hh⟩
    | succ i => cases hi

/-- An error is that of one group. The groups before it had none, and
those behind it were not begun. -/
theorem exists_stop (ht : InTurn source rules groups hs) (hf : failures hs.flatten ≠ []) :
    ∃ (before : List (List WalkedFile)) (files : List WalkedFile) (after : List (List WalkedFile))
      (hsBefore : List History) (last : History), groups = before ++ files :: after ∧
      hs = hsBefore ++ [last] ∧ hsBefore.length = before.length ∧
      failures hsBefore.flatten = [] ∧ Handles source rules before.flatten hsBefore.flatten ∧
      Handles source rules files last ∧ last.failures ≠ [] := by
  induction ht with
  | nil => exact absurd rfl hf
  | @next files h groups hs hh hnone _ ih =>
    rw [List.flatten_cons, failures_append, hnone, List.nil_append] at hf
    -- This group has no error, so it is one of those before.
    obtain ⟨before, files', after, hsBefore, last, rfl, rfl, hlen, hb, hbh, hl, hlf⟩ := ih hf
    refine ⟨files :: before, files', after, h :: hsBefore, last, rfl, rfl, ?_, ?_, ?_, hl, hlf⟩
    · rw [List.length_cons, List.length_cons, hlen]
    · rw [List.flatten_cons, failures_append, hnone, hb, List.append_nil]
    · exact hh.append hbh hnone
  | @stop files h groups hh hsome =>
    exact ⟨[], files, groups, [], h, rfl, rfl, rfl, rfl, .nil source rules, hh, hsome⟩

end InTurn

end SiteSync.History
