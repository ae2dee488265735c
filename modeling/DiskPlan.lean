import DiskPlan.CommandLine.Command
import DiskPlan.Main
import DiskPlan.Policy.Document
import DiskPlan.Proofs.Allocation.Requests
import DiskPlan.Proofs.Customization.Rules
import DiskPlan.Proofs.Documents.Requests
import DiskPlan.Proofs.Growth.Accounts
import DiskPlan.Proofs.Plan.Completeness
import DiskPlan.Proofs.Plan.Composition
import DiskPlan.Proofs.Plan.Queries
import DiskPlan.Proofs.Plan.Reordered
import DiskPlan.Proofs.Plan.Requirements
import DiskPlan.Proofs.Identification.Drawn
import DiskPlan.Proofs.Identification.Gaps
import DiskPlan.Proofs.Identification.Shared
import DiskPlan.Proofs.Lifecycle.Finalized
import DiskPlan.Proofs.Paths.Order
import DiskPlan.Proofs.Policy.Nearest
import DiskPlan.Proofs.Template.Realized
import DiskPlan.Proofs.Template.Volumes
import DiskPlan.Proofs.Volumes.Runs
