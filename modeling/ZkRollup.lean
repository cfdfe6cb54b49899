import ZkRollup.Foundation.Imperative
import ZkRollup.Foundation.Transition
import ZkRollup.Foundation.Journal
import ZkRollup.SharedTypes.Encoding
import ZkRollup.SharedTypes.StateMap
import ZkRollup.Stf.Ledger
import ZkRollup.Stf.Conservation
import ZkRollup.Stf.ApplyBatch
import ZkRollup.Stf.Binding
import ZkRollup.Stf.Authorization
import ZkRollup.Stf.Disjoint
import ZkRollup.Stf.Malleability
import ZkRollup.Sequencer.Genesis
import ZkRollup.Sequencer.ComputeRoot
import ZkRollup.Sequencer.State
import ZkRollup.Sequencer.Consistency
import ZkRollup.Sequencer.Conservation
import ZkRollup.Sequencer.Arithmetic
import ZkRollup.Sequencer.Pending
import ZkRollup.Sequencer.PartialCommit
import ZkRollup.Sequencer.Routes
import ZkRollup.Sequencer.Failures
import ZkRollup.Contracts.Rollup
import ZkRollup.Contracts.Soundness
import ZkRollup.Contracts.Chain
import ZkRollup.Contracts.Replays
import ZkRollup.Contracts.Deploy
import ZkRollup.System.Model
import ZkRollup.System.Transitions
import ZkRollup.System.Uninterrupted
import ZkRollup.System.Requests
import ZkRollup.System.Settlement
import ZkRollup.System.Commits
import ZkRollup.System.Receipts
import ZkRollup.System.Transfers
import ZkRollup.System.Acceptance
import ZkRollup.System.Losses
import ZkRollup.System.Answers
import ZkRollup.System.Recovery
import ZkRollup.System.Lifetime
import ZkRollup.System.Served
import ZkRollup.System.Conflicts
import ZkRollup.System.Reads
import ZkRollup.Client.Web
import ZkRollup.Client.Orchestrator
import ZkRollup.Client.Demo
