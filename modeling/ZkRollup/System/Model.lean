import ZkRollup.Contracts.Soundness
import ZkRollup.Foundation.Transition
import ZkRollup.Sequencer.Routes

/-!
Contract: the sequencer with concurrent requests, the settlement contract, and
everybody else who may call it.

A `/tx` request is one step: it holds the lock throughout. A `/batch` request is
a sequence of steps, cut where `trigger_batch` awaits: drain, prover answer,
send, receipt, then commit or restore under the lock, then the answer. Any other
step may come in between. At any of these cuts the server drops the handler if
its client has closed the connection, and then nothing of it runs any more. A
call sent to the L1 stays pending until it is executed, whatever the sender has
learnt about it.

Three components record history and are read by no step: the admitted transfers,
the commits and the settlements.

Owns: the step function and one lemma for each event that says what it does.
-/

set_option autoImplicit false

namespace ZkRollup

open Foundation

/-- Where a `/batch` request stands. -/
inductive Phase where
  | proving
  | proveFailed (cause : String)
  | submitting (prove : ProveResponse) (submission : Submission)
  | awaiting (prove : ProveResponse) (submission : Submission)
  | submitFailed (cause : SubmitError)
  /-- `submit_batch` returned `Ok`; the commit is next. -/
  | confirmed (prove : ProveResponse) (submission : Submission) (outcome : SettleOutcome)
  | committed (prove : ProveResponse) (submission : Submission) (outcome : SettleOutcome)
  /-- Answered `Ok`. -/
  | answered (submission : Submission) (response : BatchResponse)
  /-- Answered with an error after the mempool was restored. -/
  | restored (failure : ApiError)
  /-- Answered with an error without a restore. -/
  | dropped (failure : ApiError)
  /-- Answered with the error of `commit_batch`. -/
  | commitFailed (failure : ApiError)
  /-- The handler was dropped before it had committed or restored: no answer. -/
  | cancelled
deriving DecidableEq

/-- The handler awaits something other than `send`, and has not committed. A
committed one only loses its answer when it is dropped. -/
def Phase.isOpen : Phase → Bool
  | .proving | .proveFailed _ | .awaiting _ _ | .submitFailed _ | .confirmed _ _ _ => true
  | _ => false

/-- What the L1 has done with the call of a request. -/
inductive L1Status where
  | unsent
  | pending (submission : Submission)
  | settled
  | reverted
deriving DecidableEq

structure BatchRequest where
  prevState : State
  batch : Batch
  phase : Phase
  l1 : L1Status
deriving DecidableEq

/-- What arrives at a request while it holds no lock. -/
inductive Arrival where
  | proverAnswer (reply : Except String ProveResponse)
  | sent
  /-- `send` returned an error, although the call may have been broadcast. -/
  | sendFailed (cause : String) (broadcast : Bool)
  | receipt (answer : RoundTrip)
  /-- The read lock for the answer. -/
  | readLock
  /-- The client has closed the connection. While `send` is awaited the call may
  have been broadcast already. -/
  | disconnected (broadcast : Bool)

inductive Event where
  | submitTx (request : TxRequest)
  | startBatch
  | arrive (index : Nat) (arrival : Arrival)
  /-- The write lock after the prover or the L1 has answered. -/
  | writeLock (index : Nat)
  /-- The L1 executes the pending call of a request. -/
  | execute (index : Nat) (verifyProof : VerifyProof)
  /-- Anybody else calls the contract. -/
  | foreignCall (call : SettleCall)

structure Commit where
  batch : Batch
  newRoot : Hash
deriving DecidableEq

structure System where
  sequencer : SequencerState
  rollup : Rollup
  requests : List BatchRequest
  admitted : List Tx
  commits : List Commit
  settlements : List (State × Batch)
deriving DecidableEq

/-- Whether the L1 can give this answer about a call: a receipt tells the truth,
an error tells nothing. -/
def L1Status.Answers (status : L1Status) : RoundTrip → Prop
  | .sendFailed _ => False
  | .receiptFailed _ => True
  | .mined receipt => if receipt.status then status = .settled else status = .reverted

instance (status : L1Status) (answer : RoundTrip) : Decidable (status.Answers answer) := by
  cases answer <;> unfold L1Status.Answers <;> infer_instance

/-- The part of `trigger_batch` between two locks. -/
def BatchRequest.arrive (request : BatchRequest) (sequencer : SequencerState) :
    Arrival → Option BatchRequest
  | .proverAnswer reply =>
      match request.phase, reply with
      | .proving, .error cause => some { request with phase := .proveFailed cause }
      | .proving, .ok prove =>
          match decodeProof prove with
          | .error failure => some { request with phase := .dropped failure }
          | .ok submission => some { request with phase := .submitting prove submission }
      | _, _ => none
  | .sent =>
      match request.phase with
      | .submitting prove submission =>
          some { request with phase := .awaiting prove submission, l1 := .pending submission }
      | _ => none
  | .sendFailed cause broadcast =>
      match request.phase with
      | .submitting _ submission =>
          some { request with
            phase := .submitFailed (.send cause)
            l1 := if broadcast then .pending submission else .unsent }
      | _ => none
  | .receipt answer =>
      match request.phase with
      | .awaiting prove submission =>
          if request.l1.Answers answer then
            match L1Client.submitBatch answer with
            | .error cause => some { request with phase := .submitFailed cause }
            | .ok outcome => some { request with phase := .confirmed prove submission outcome }
          else
            none
      | _ => none
  | .readLock =>
      match request.phase with
      | .committed prove submission outcome =>
          let response := batchResponse request.batch.txs.length prove outcome sequencer
          some { request with phase := .answered submission response }
      | _ => none
  | .disconnected broadcast =>
      match request.phase with
      | .submitting _ submission =>
          some { request with
            phase := .cancelled
            l1 := if broadcast then .pending submission else .unsent }
      | phase => if phase.isOpen then some { request with phase := .cancelled } else none

section

variable [Primitives]

/-- The exits under the write lock: restore, or commit. -/
def BatchRequest.writeLock (request : BatchRequest) (sequencer : SequencerState) :
    Option (BatchRequest × SequencerState) :=
  match request.phase with
  | .proveFailed cause =>
      some ({ request with phase := .restored (.internal (.proveFailed cause)) },
        sequencer.restoreMempool request.batch)
  | .submitFailed cause =>
      some ({ request with phase := .restored (.internal (.submitBatchFailed cause)) },
        sequencer.restoreMempool request.batch)
  | .confirmed prove submission outcome =>
      match (commitSettled request.batch submission.newRoot outcome).run sequencer with
      | .ok () next =>
          some ({ request with phase := .committed prove submission outcome }, next)
      | .error failure next => some ({ request with phase := .commitFailed failure }, next)
  | _ => none

omit [Primitives] in
/-- The commit that a request has just made, if it has. -/
def BatchRequest.newCommit (request : BatchRequest) : List Commit :=
  match request.phase with
  | .committed _ submission _ => [{ batch := request.batch, newRoot := submission.newRoot }]
  | _ => []

namespace System

def initial (start : State) (rollup : Rollup) : System where
  sequencer := .fromGenesis start
  rollup := rollup
  requests := []
  admitted := []
  commits := []
  settlements := []

def step (system : System) : Event → Option System
  | .submitTx request =>
      match (submitTx request).run system.sequencer with
      | .ok _ sequencer =>
          some { system with
            sequencer, admitted := system.admitted ++ request.intoTx.toOption.toList }
      | .error _ sequencer => some { system with sequencer }
  | .startBatch =>
      match takeBatch.run system.sequencer with
      | .ok (prevState, batch) sequencer =>
          some { system with
            sequencer
            requests := system.requests ++ [{ prevState, batch, phase := .proving, l1 := .unsent }] }
      | .error _ sequencer => some { system with sequencer }
  | .arrive index arrival => do
      let request ← system.requests[index]?
      let moved ← request.arrive system.sequencer arrival
      return { system with requests := system.requests.set index moved }
  | .writeLock index => do
      let request ← system.requests[index]?
      let (moved, sequencer) ← request.writeLock system.sequencer
      return { system with
        sequencer
        requests := system.requests.set index moved
        commits := system.commits ++ moved.newCommit }
  | .execute index verifyProof => do
      let request ← system.requests[index]?
      match request.l1 with
      | .pending submission =>
          match system.rollup.submitBatch verifyProof submission.publicValues submission.proof with
          | .ok (rollup, _) =>
              return { system with
                rollup
                requests := system.requests.set index { request with l1 := .settled }
                settlements := system.settlements ++ [(request.prevState, request.batch)] }
          | .error _ =>
              return { system with
                requests := system.requests.set index { request with l1 := .reverted } }
      | _ => none
  | .foreignCall call =>
      match call.submit system.rollup with
      | .ok rollup =>
          some { system with
            rollup, settlements := system.settlements ++ [(call.prevState, call.batch)] }
      | .error _ => some system

end System

end

end ZkRollup
