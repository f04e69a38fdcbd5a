import SiteSync.Cdn.DryRun
import SiteSync.Store.Basic
import SiteSync.Text.Quoted

/-!
# `SiteSync.Store.DryRun`: trial runs

A trial run reads the inventory of the bucket and then only pretends:
every upload and deletion succeeds and changes nothing. Without a bucket
the inventory is empty. In place of telling the distributions what
changed, the patterns that they would be told are logged.
-/

set_option autoImplicit false

namespace SiteSync

namespace Store

/-- A bucket that is read and never changed. -/
def dryRun {σ : Type} (st : Store σ) : Store σ where
  list := st.list
  put := fun _ _ s => { outcome := .done (), state := s }
  delete := fun _ s => { outcome := .done (), state := s }

/-- No bucket at all. -/
def absent {σ : Type} : Store σ where
  list := fun _ s => { outcome := .done .empty, state := s }
  put := fun _ _ s => { outcome := .done (), state := s }
  delete := fun _ s => { outcome := .done (), state := s }

end Store

namespace Cdn

/-- What is said of a reduction that did not fit. -/
def exceedingLine (r : Reduction) : List LogLine :=
  match r.exceeding with
  | none => []
  | some n =>
    [⟨.debug, .invalidation, (toString n ++ " invalidation paths exceed threshold " ++
      toString defaultThreshold ++ ", purging ").toList ++ r.patterns.flatten⟩]

/-- Distributions that are not told anything. -/
def dryRun {σ : Type} (bucketPath : Text) (force : Bool) : Cdn σ where
  invalidate := fun keys s =>
    if keys = [] then { outcome := .done (), state := s }
    else
      let r := dryRunReduction bucketPath force keys
      { outcome := .done ()
        state := s
        said := exceedingLine r ++
          [⟨.info, .store, "Would invalidate CDN paths ".toList ++ Text.quoteList r.patterns⟩] }

end Cdn

end SiteSync
