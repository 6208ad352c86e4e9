import BatchFlow.Configuration.Folder
import BatchFlow.Configuration.Writing
import BatchFlow.Handoff.Session
import BatchFlow.Item.JsonReader
import BatchFlow.Main
import BatchFlow.Proofs.Adaptor.Cancellation
import BatchFlow.Proofs.Adaptor.FailFast
import BatchFlow.Proofs.Adaptor.Interleaving
import BatchFlow.Proofs.Adaptor.NodeLifecycle
import BatchFlow.Proofs.Adaptor.NodeOrder
import BatchFlow.Proofs.Adaptor.RepeatedRuns
import BatchFlow.Proofs.Adaptor.Report
import BatchFlow.Proofs.Handoff.AcceptedItems
import BatchFlow.Proofs.Handoff.Acknowledgement
import BatchFlow.Proofs.Handoff.Draining
import BatchFlow.Proofs.Handoff.ResourceCalls
import BatchFlow.Proofs.Handoff.Safety
import BatchFlow.Proofs.Handoff.Shutdown
import BatchFlow.Proofs.Handoff.Steps
import BatchFlow.Proofs.Handoff.Traffic
import BatchFlow.Proofs.Handoff.WaitingCallers
import BatchFlow.Proofs.Item.FailedItem
import BatchFlow.Proofs.Kinds.Order
import BatchFlow.Proofs.Metadata.ConcurrentMessages
import BatchFlow.Proofs.Node.Calls
import BatchFlow.Proofs.Node.Classification
import BatchFlow.Proofs.Node.Enrichment
import BatchFlow.Proofs.Node.Registration
import BatchFlow.Proofs.Node.Unbatching
import BatchFlow.Proofs.Response.Merging
import BatchFlow.Proofs.Router.Atomicity
import BatchFlow.Proofs.Router.CatchAll
import BatchFlow.Proofs.Router.Completeness
import BatchFlow.Proofs.Router.Fallback
import BatchFlow.Proofs.Router.MessageContext
import BatchFlow.Proofs.Router.NonemptyBatches
import BatchFlow.Proofs.Router.Pipeline
import BatchFlow.Proofs.Router.Termination
import BatchFlow.Proofs.Router.Wiring
import BatchFlow.Proofs.Text.Casing
import BatchFlow.Proofs.Topology.ErrorRules
import BatchFlow.Proofs.Topology.Expansion
import BatchFlow.Proofs.Topology.Validation
import BatchFlow.Proofs.Transaction.Lifetime
import BatchFlow.Proofs.Transaction.Operations
import BatchFlow.Proofs.Work.Contract
import BatchFlow.Proofs.Worker.CancellationCheck
import BatchFlow.Proofs.Worker.CursorRollover
import BatchFlow.Proofs.Worker.PollLoop
import BatchFlow.Proofs.Worker.PollOrder
import BatchFlow.Proofs.Worker.RestartBudget
import BatchFlow.Proofs.Worker.Resumption
import BatchFlow.Stage.Description
import BatchFlow.Stage.Perform
