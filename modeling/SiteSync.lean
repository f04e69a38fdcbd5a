import SiteSync.Cloud.Server
import SiteSync.Files.Flat
import SiteSync.Main
import SiteSync.Proofs.Deploy.Moves
import SiteSync.Proofs.Text.Order
import SiteSync.Store.Faults
import SiteSync.Proofs.Deploy.Flow
import SiteSync.Proofs.Deploy.Turns
import SiteSync.Proofs.Deploy.Deletion
import SiteSync.Proofs.Deploy.Course
import SiteSync.Proofs.Deploy.Contracts
import SiteSync.Proofs.Deploy.Success
import SiteSync.Proofs.Deploy.Reconciliation
import SiteSync.Proofs.Deploy.Confinement
import SiteSync.Proofs.Deploy.Convergence
import SiteSync.Proofs.Deploy.Stages
import SiteSync.Proofs.Deploy.Failure
import SiteSync.Proofs.Deploy.Sequence
import SiteSync.Proofs.Deploy.Trial
import SiteSync.Proofs.Cloud.Paging
import SiteSync.Proofs.Cloud.Contracts
import SiteSync.Proofs.Path
import SiteSync.Proofs.Cdn.Invalidation
import SiteSync.Proofs.Cdn.WebRoot
import SiteSync.Proofs.Cdn.Escape
import SiteSync.Proofs.Cdn.Coverage
import SiteSync.Proofs.Text.Bytes
import SiteSync.Proofs.Cdn.Reduction
import SiteSync.Proofs.Cdn.Origin
import SiteSync.Proofs.Cdn.PrefixCode
import SiteSync.Proofs.Cloud.Purge
import SiteSync.Proofs.Files.Walk
import SiteSync.Proofs.Cloud.Listing
import SiteSync.Proofs.Files.Prune
import SiteSync.Proofs.Deploy.Accounting
import SiteSync.Proofs.Cdn.ServedPath
import SiteSync.Proofs.Cdn.ClosedForm
import SiteSync.Proofs.Cdn.Threshold
import SiteSync.Proofs.Deploy.Batching
import SiteSync.Proofs.Cloud.Preview
import SiteSync.Proofs.Headers
import SiteSync.Proofs.LocalFile
import SiteSync.Proofs.Cloud.ObjectHeaders
import SiteSync.Proofs.Pattern.Meaning
import SiteSync.Proofs.WalkFilter
import SiteSync.Proofs.Config
import SiteSync.Proofs.Cloud.Continuation
import SiteSync.Proofs.MediaType.Signature
import SiteSync.Proofs.Path.Canonical
