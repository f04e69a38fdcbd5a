import SiteSync.Config.Basic
import SiteSync.Proofs.Path
import SiteSync.Proofs.WalkFilter

/-!
# `SiteSync.Proofs.Config`: what the check of a configuration refuses

The check looks at the settings one after another and compiles the
patterns after that, so a fault of the settings is reported whatever the
patterns are, and nothing behind it can be taken for one:

- `check_eq_fault_iff`: a fault is reported exactly when it is the first
  of the settings.
- `isRoot_iff`: which source the check takes for the root of the file
  system.
- `refuses_root_iff`: which sources are refused for that. Of the paths
  that lead to the root wherever they are followed, these are the ones
  without a step up.
-/

set_option autoImplicit false

namespace SiteSync

/-! ### Faulty patterns -/

/-- The only thing that can go wrong is that a pattern is not well
formed. -/
def PatternFaultsOnly {α : Type} (x : Except Error α) : Prop :=
  ∀ e, x = .error e → ∃ setting pattern, e = .invalidPattern setting pattern

namespace PatternFaultsOnly

variable {α β : Type} {x : Except Error α} {f : α → Except Error β}

/-- Where nothing goes wrong, no fault has to be looked at. -/
theorem ok (a : α) : PatternFaultsOnly (.ok a : Except Error α) := nofun

/-- Two steps in a row, if neither has another fault. -/
theorem bind (hx : PatternFaultsOnly x) (hf : ∀ a, PatternFaultsOnly (f a)) :
    PatternFaultsOnly (x >>= f) := by
  intro e h
  cases x with
  | error d =>
    cases h
    exact hx e rfl
  | ok a => exact hf a e h

/-- What is made of a result brings no fault of its own. -/
theorem map (hx : PatternFaultsOnly x) (g : α → β) : PatternFaultsOnly (g <$> x) := by
  intro e h
  cases x with
  | error d =>
    cases h
    exact hx e rfl
  | ok a => cases h

/-- A step for each of a list, if none has another fault. -/
theorem mapM (hf : ∀ a, PatternFaultsOnly (f a)) (as : List α) : PatternFaultsOnly (as.mapM f) := by
  induction as with
  | nil => exact ok []
  | cons a as ih =>
    rw [List.mapM_cons]
    exact (hf a).bind fun b => ih.bind fun bs => ok (b :: bs)

end PatternFaultsOnly

/-- A pattern of the settings is compiled or not well formed. -/
theorem patternFaultsOnly_compilePattern (setting : String) (pattern : Text) :
    PatternFaultsOnly (compilePattern setting pattern) := by
  intro e h
  unfold compilePattern at h
  split at h
  case h_1 => cases h
  case h_2 =>
    cases h
    exact ⟨setting.toList, pattern, rfl⟩

/-- A route has one pattern. -/
theorem patternFaultsOnly_routes (settings : List RouteSettings) :
    PatternFaultsOnly (Routes.compile settings) := by
  have hroute : ∀ s, PatternFaultsOnly (Route.compile s) := fun s =>
    (patternFaultsOnly_compilePattern "route" s.route).bind fun _ => .ok _
  exact .mapM hroute settings

/-- The filter of the walk has two. -/
theorem patternFaultsOnly_walkFilter (skipFiles skipDirs : Text) :
    PatternFaultsOnly (WalkFilter.compile skipFiles skipDirs) :=
  (patternFaultsOnly_compilePattern _ skipFiles).bind fun _ =>
    (patternFaultsOnly_compilePattern _ skipDirs).bind fun _ => .ok _

namespace Config

variable {c : Config} {parallelism : Nat}

/-- What is left alone is said with one pattern, or with none. -/
theorem patternFaultsOnly_ignore (c : Config) : PatternFaultsOnly c.compileIgnore := by
  unfold compileIgnore
  split
  · exact .ok none
  · split
    · exact .ok none
    · exact (patternFaultsOnly_compilePattern _ _).map some

/-- A fault is reported exactly when it is the first of the settings. -/
theorem check_eq_fault_iff {fault : ConfigFault} :
    c.check parallelism = .error (.config fault) ↔ c.fault? = some fault := by
  unfold check
  split
  case h_1 first hfirst =>
    rw [hfirst]
    constructor
    · intro h
      cases h
      rfl
    · intro h
      cases h
      rfl
  case h_2 hnone =>
    refine iff_of_false (fun h => ?_) (by rw [hnone]; nofun)
    have hpatterns := (patternFaultsOnly_ignore c).bind fun ignore =>
      (PatternFaultsOnly.mapM (patternFaultsOnly_compilePattern "order") c.order).bind fun order =>
        (patternFaultsOnly_routes c.routes).bind fun routes =>
          (patternFaultsOnly_walkFilter c.skipFiles c.skipDirs).bind fun walkFilter =>
            PatternFaultsOnly.ok (show Rules from {
              source := c.sourcePath
              bucketPath := Path.trimSlashes c.bucketPath
              routes, order, ignore, walkFilter
              acl := c.effectiveAcl
              workers := c.chosenWorkers.getD (max 1 parallelism)
              maxDelete := c.maxDelete
              force := c.force })
    obtain ⟨setting, pattern, heq⟩ := hpatterns _ h
    cases heq

/-! ### The root of the file system -/

/-- The test goes by the path alone: it is absolute, and its segments are
empty or a dot. -/
theorem isRoot_iff {path : Text} :
    isRoot path = true ↔
      Path.isAbsolute path = true ∧ ∀ s ∈ Path.segments path, s = [] ∨ s = ['.'] := by
  simp [isRoot]

/-- The source is looked at when the bucket has a name, and before
anything else. -/
theorem fault?_eq_sourceIsRoot_iff :
    c.fault? = some .sourceIsRoot ↔ c.bucket ≠ [] ∧ isRoot c.sourcePath = true := by
  unfold fault?
  by_cases hbucket : c.bucket = []
  · rw [if_pos hbucket]
    exact iff_of_false nofun fun h => h.1 hbucket
  by_cases hroot : isRoot c.sourcePath = true
  · rw [if_neg hbucket, if_pos hroot]
    exact iff_of_true rfl ⟨hbucket, hroot⟩
  · rw [if_neg hbucket, if_neg hroot]
    refine iff_of_false (fun h => ?_) fun h => hroot h.2
    split at h <;> cases h

/-- A path that leads to the root of the file system wherever it is
followed: it starts there and never goes down. -/
def LeadsToRoot (path : Text) : Prop :=
  Path.isAbsolute path = true ∧ ∀ s ∈ Path.segments path, s = [] ∨ s = ['.'] ∨ s = Path.dots

/-- The test sees every path to the root that has no step up in it, and no
other. -/
theorem isRoot_iff_leadsToRoot {path : Text} :
    isRoot path = true ↔ LeadsToRoot path ∧ Path.dots ∉ Path.segments path := by
  rw [isRoot_iff, LeadsToRoot, and_assoc]
  refine and_congr_right fun _ =>
    ⟨fun h => ⟨fun s hs => ?_, fun hdots => ?_⟩, fun ⟨h, hdots⟩ s hs => ?_⟩
  · exact (h s hs).imp_right .inl
  · rcases h _ hdots with h | h <;> cases h
  · rcases h s hs with rfl | rfl | rfl
    · exact .inl rfl
    · exact .inr rfl
    · exact absurd hs hdots

/-- A source is refused as the root of the file system exactly when there
is a bucket and the source leads to the root without a step up. So no
source is refused that may lead elsewhere, and of those that lead to the
root the ones with a step up are let through. -/
theorem refuses_root_iff (c : Config) (parallelism : Nat) :
    (c.check parallelism = .error (.config .sourceIsRoot) ↔
      c.bucket ≠ [] ∧ LeadsToRoot c.sourcePath ∧ Path.dots ∉ Path.segments c.sourcePath) ∧
    (Error.config .sourceIsRoot).message = "invalid source path: cannot deploy from root" := by
  refine ⟨?_, rfl⟩
  rw [check_eq_fault_iff, fault?_eq_sourceIsRoot_iff, isRoot_iff_leadsToRoot]

/-- The directory above the root is the root, and is let through. -/
theorem lets_root_through :
    let c : Config := { source := some "/..".toList, bucket := "b".toList }
    c.bucket ≠ [] ∧ LeadsToRoot c.sourcePath ∧
      ∃ rules, c.check 1 = .ok rules ∧ rules.source = "/..".toList := by
  intro c
  have hroot : LeadsToRoot c.sourcePath := ⟨rfl, by decide⟩
  refine ⟨by decide, hroot, ?_⟩
  have hfilter : WalkFilter.compile c.skipFiles c.skipDirs = .ok .standard :=
    WalkFilter.compile_default
  unfold check
  rw [hfilter]
  exact ⟨_, rfl, rfl⟩

end Config

end SiteSync
