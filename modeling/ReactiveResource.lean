import ReactiveResource.Gateway.Clients
import ReactiveResource.Main
import ReactiveResource.Proofs.Resource.Fencing
import ReactiveResource.Proofs.Resource.Loading
import ReactiveResource.Proofs.Resource.Pages
import ReactiveResource.Proofs.Resource.Results
import ReactiveResource.Proofs.Registry.Consistency
import ReactiveResource.Proofs.Registry.Convergence
import ReactiveResource.Proofs.Registry.Staleness
import ReactiveResource.Proofs.Registry.Surplus
import ReactiveResource.Registry.Basic
import ReactiveResource.Proofs.Resource.Handover
import ReactiveResource.Proofs.Session.Course
import ReactiveResource.Proofs.Registry.Incidents
import ReactiveResource.Proofs.Registry.Finality
import ReactiveResource.Proofs.Registry.Progress
import ReactiveResource.Proofs.Resource.Revision
import ReactiveResource.Proofs.Session.Vigilance
import ReactiveResource.Proofs.Registry.Announcement
import ReactiveResource.Proofs.Resource.Prospects
import ReactiveResource.Proofs.Resource.Placeholder
import ReactiveResource.Proofs.Session.Seclusion
import ReactiveResource.Proofs.Registry.Withdrawal
import ReactiveResource.Proofs.Registry.Attachment
import ReactiveResource.Proofs.Resource.Warrant
import ReactiveResource.Proofs.Session.Hearing
import ReactiveResource.Proofs.Registry.Refusal
import ReactiveResource.Proofs.Registry.Restoration
import ReactiveResource.Proofs.Resource.Displacement
import ReactiveResource.Proofs.Resource.Overtaking
import ReactiveResource.Proofs.Resource.Undoing
import ReactiveResource.Proofs.Registry.FirstError
import ReactiveResource.Proofs.Catalog.Overrun
import ReactiveResource.Proofs.Catalog.Paths
import ReactiveResource.Proofs.Json.Numerals
import ReactiveResource.Proofs.Json.Printing
import ReactiveResource.Proofs.Settings.Storage
import ReactiveResource.Proofs.Catalog.Merge
import ReactiveResource.Proofs.CommandLine.Fetching
import ReactiveResource.Proofs.CommandLine.Windows
import ReactiveResource.Proofs.Gateway.Wiring
import ReactiveResource.Proofs.Gateway.Delivery
import ReactiveResource.Proofs.Gateway.Refinement
import ReactiveResource.Proofs.Gateway.Reports
import ReactiveResource.Proofs.Gateway.Statuses
import ReactiveResource.Proofs.Gateway.Confinement
import ReactiveResource.Proofs.Gateway.Endpoints
import ReactiveResource.Proofs.CommandLine.Assignment
import ReactiveResource.Proofs.CommandLine.Remembrance
import ReactiveResource.Proofs.Gateway.Excerpts
import ReactiveResource.Proofs.Registry.Noticing
