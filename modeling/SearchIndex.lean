import SearchIndex.Main
import SearchIndex.Proofs.Table
import SearchIndex.Proofs.Concurrency.Transcript
import SearchIndex.Proofs.Indexing.Delivery
import SearchIndex.Proofs.Indexing.Notification
import SearchIndex.Proofs.Indexing.Outcome
import SearchIndex.Proofs.Indexing.FirstFailure
import SearchIndex.Proofs.Manager.Perform
import SearchIndex.Proofs.Manager.Bind
import SearchIndex.Proofs.Indexing.Tenants
import SearchIndex.Proofs.Service.Runs
import SearchIndex.Proofs.Schema.Access
import SearchIndex.Proofs.Schema.Operation
import SearchIndex.Proofs.Schema.Permission
import SearchIndex.Proofs.Schema.Merging
import SearchIndex.Proofs.Mapping.Extension
import SearchIndex.Proofs.Schema.Convergence
import SearchIndex.Proofs.Descriptor.Target
import SearchIndex.Proofs.Concurrency.Interleaving
import SearchIndex.Proofs.Indexing.Resolution
import SearchIndex.Proofs.Indexing.Ledger
import SearchIndex.Proofs.Indexing.Errand
import SearchIndex.Proofs.Indexing.Whereabouts
import SearchIndex.Proofs.Indexing.Failing
import SearchIndex.Proofs.Indexing.Answering
import SearchIndex.Proofs.Indexing.Happenings
import SearchIndex.Proofs.Indexing.Tally
import SearchIndex.Proofs.Indexing.Reporting
import SearchIndex.Proofs.Indexing.Handling
import SearchIndex.Proofs.Service.Failures
import SearchIndex.Proofs.Concurrency.Completion
import SearchIndex.Proofs.Concurrency.Tameness
import SearchIndex.Proofs.Manager.Working
import SearchIndex.Proofs.Manager.Calling
import SearchIndex.Proofs.Manager.Holding
import SearchIndex.Proofs.Mapping.Paths
import SearchIndex.Proofs.Mapping.Walking
import SearchIndex.Proofs.Mapping.Adding
import SearchIndex.Proofs.Schema.Fitting
import SearchIndex.Proofs.Schema.Strictness
import SearchIndex.Proofs.Schema.Exactness
import SearchIndex.Proofs.Mapping.Report
import SearchIndex.Proofs.Service.Served
import SearchIndex.Proofs.Concurrency.Leaving
import SearchIndex.Proofs.Service.Clients
import SearchIndex.Proofs.Schema.Keeping
import SearchIndex.Proofs.Schema.Inspecting
import SearchIndex.Proofs.Schema.Conflicting
import SearchIndex.Proofs.Schema.Retyping
import SearchIndex.Proofs.Schema.Remerging
import SearchIndex.Proofs.Schema.Racing
import SearchIndex.Proofs.Schema.Presence
import SearchIndex.Proofs.Manager.Applying
import SearchIndex.Proofs.Manager.Validating
import SearchIndex.Proofs.Number.Rounding
import SearchIndex.Proofs.Number.Decimals
import SearchIndex.Proofs.Number.Scanning
import SearchIndex.Proofs.Json.Quoting
import SearchIndex.Proofs.Json.Reading
import SearchIndex.Proofs.Indexing.Framing
import SearchIndex.Proofs.CommandLine.Surviving
import SearchIndex.Proofs.Indexing.Settling
import SearchIndex.Proofs.Indexing.Custody
import SearchIndex.Proofs.Concurrency.Paths
import SearchIndex.Proofs.Indexing.Sparing
import SearchIndex.Proofs.Indexing.Duty
import SearchIndex.Proofs.Indexing.Visibility
import SearchIndex.Proofs.Indexing.Owing
import SearchIndex.Proofs.Manager.Telling
import SearchIndex.Proofs.Manager.Swallowing
import SearchIndex.Proofs.Manager.Reordering
import SearchIndex.Proofs.Indexing.Order
import SearchIndex.Proofs.Descriptor.Acceptance
import SearchIndex.Proofs.Mapping.Codec
import SearchIndex.Proofs.Indexing.Verdicts
import SearchIndex.Proofs.Indexing.Bystanders
import SearchIndex.Proofs.Manager.Initializing
