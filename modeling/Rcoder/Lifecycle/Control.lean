import Rcoder.Lifecycle.FinalEvidence

/-!
# Compute controls

The records of the compute ledger: physical Stop and Restart controls with their stages, the
reports of their executors, and the finite policy that relates two consecutive stages.
-/

namespace Rcoder.Lifecycle

open Json

inductive ControlAction
  | stop
  | restart
  deriving DecidableEq

inductive ControlState
  | pending
  | running
  | recoveryRequired
  | succeeded
  | failed
  | superseded
  deriving DecidableEq

namespace ControlState

def isTerminal : ControlState → Bool
  | .succeeded | .failed | .superseded => true
  | _ => false

def isProgress : ControlState → Bool
  | .running | .recoveryRequired | .succeeded | .failed => true
  | .pending | .superseded => false

def name : ControlState → String
  | .pending => "pending"
  | .running => "running"
  | .recoveryRequired => "recovery_required"
  | .succeeded => "succeeded"
  | .failed => "failed"
  | .superseded => "superseded"

end ControlState

inductive ControlStage
  | drainingPrevious
  | stopping
  | stopped
  | starting
  | verifying
  | completed
  deriving DecidableEq

namespace ControlStage

def asStr : ControlStage → String
  | .drainingPrevious => "draining_previous"
  | .stopping => "stopping"
  | .stopped => "stopped"
  | .starting => "starting"
  | .verifying => "verifying"
  | .completed => "completed"

def fromStorageValue : String → Option ControlStage
  | "draining_previous" => some .drainingPrevious
  | "stopping" => some .stopping
  | "stopped" => some .stopped
  | "starting" => some .starting
  | "verifying" => some .verifying
  | "completed" => some .completed
  | _ => none

end ControlStage

structure ControlRequest where
  appId : String
  lifecycleId : String
  scope : OperationScope
  operationId : String
  requestId : String
  requestFingerprint : String
  action : ControlAction
  restartImageRoll : Bool := false
  builderStartupMode : BuilderStartupMode := .preserveBusinessIntent

structure ControlRecord where
  createdAt : Int
  appId : String
  lifecycleId : String
  requestId : String
  scope : OperationScope
  operationId : String
  requestFingerprint : String
  generation : Int
  revision : Int
  action : ControlAction
  state : ControlState
  executorId : Option String
  stage : String
  checkpoint : Json
  errorCode : Option String
  errorMessage : Option String
  lease : Option LeaseReceipt
  interruptedOperations : List String
  deriving DecidableEq

structure ExecutorIdentity where
  appId : String
  lifecycleId : String
  scope : OperationScope
  operationId : String
  generation : Int
  executorId : String

structure ControlProgress where
  identity : ExecutorIdentity
  expectedRevision : Int
  state : ControlState
  stage : ControlStage
  checkpoint : Json := .null
  errorCode : Option String := none
  errorMessage : Option String := none

def OperationScope.leaseFamily : OperationScope → Option ServiceType
  | .dev => some .userappBuilder
  | .prod => some .userapp
  | .application => none

/-! ### The stage policy -/

inductive DiagnosticValue
  | absent
  | empty
  | nonEmpty
  deriving DecidableEq

def DiagnosticValue.fromOption : Option String → DiagnosticValue
  | none => .absent
  | some "" => .empty
  | some _ => .nonEmpty

inductive ProgressPolicyError
  | invalidState
  | invalidStageTransition
  | successRequiresCompletedEvidence
  | completedRequiresSuccess
  | failureRequiresDiagnostics
  | progressCannotRetainDiagnostics
  | mutationFailureRequiresRecovery
  | mutationRequiresLeaseAndCheckpoint
  deriving DecidableEq

def ProgressPolicyError.message : ProgressPolicyError → String
  | .invalidState => "Invalid compute execution transition"
  | .invalidStageTransition => "Invalid compute stage transition"
  | .successRequiresCompletedEvidence => "Compute success requires completed evidence"
  | .completedRequiresSuccess => "Completed compute stage requires success"
  | .failureRequiresDiagnostics => "Compute failure requires structured diagnostics"
  | .progressCannotRetainDiagnostics =>
    "Compute success or progress cannot retain failure diagnostics"
  | .mutationFailureRequiresRecovery => "Compute mutation failure requires recovery"
  | .mutationRequiresLeaseAndCheckpoint =>
    "Compute mutation requires a lease and structured checkpoint"

def stageFollows (action : ControlAction) (current : Option ControlStage) (next : ControlStage) :
    Bool :=
  current = some next ||
    match current, next with
    | some .drainingPrevious, .stopping | some .stopping, .stopped | some .stopped, .starting
    | some .starting, .verifying => true
    | some .verifying, .completed => action = .restart
    | some .stopped, .completed => action = .stop
    | _, _ => false

def validateProgressTransition (action : ControlAction) (current : Option ControlStage)
    (state : ControlState) (next : ControlStage) (errorCode errorMessage : DiagnosticValue)
    (leasePresent : Bool) : Except ProgressPolicyError Unit := do
  failIf (state.isProgress = false) .invalidState
  failIf (stageFollows action current next = false ∨
    (action = .stop ∧ (next = .starting ∨ next = .verifying))) .invalidStageTransition
  failIf (state = .succeeded ∧ next ≠ .completed) .successRequiresCompletedEvidence
  failIf (next = .completed ∧ state ≠ .succeeded) .completedRequiresSuccess
  failIf ((state = .failed ∨ state = .recoveryRequired) ∧
    (errorCode ≠ .nonEmpty ∨ errorMessage ≠ .nonEmpty)) .failureRequiresDiagnostics
  failIf ((state = .running ∨ state = .succeeded) ∧
    (errorCode ≠ .absent ∨ errorMessage ≠ .absent)) .progressCannotRetainDiagnostics
  -- a failure after physical work began stays uncertain
  failIf (state = .failed ∧ (current ≠ some .drainingPrevious ∨ leasePresent))
    .mutationFailureRequiresRecovery

def validateMutationEvidence (stage : ControlStage) (leasePresent checkpointIsObject : Bool) :
    Except ProgressPolicyError Unit :=
  failIf (stage ≠ .drainingPrevious ∧ (leasePresent = false ∨ checkpointIsObject = false))
    .mutationRequiresLeaseAndCheckpoint

/-! ### The early phase -/

inductive EarlyBoundary
  | beforeContainerSubmission
  | outcomeUnconfirmed
  | outsideEarlyPhase
  deriving DecidableEq

def earlyCheckpointBoundary (checkpoint : Json) : EarlyBoundary :=
  if checkpoint = .null then .beforeContainerSubmission
  else match record (maybe "unknown_write" boolean) checkpoint with
    | none | some (some true) => .outcomeUnconfirmed
    | some _ => .beforeContainerSubmission

namespace ControlRecord

variable (control : ControlRecord)

def earlyComputeBoundary : EarlyBoundary :=
  if ControlStage.fromStorageValue control.stage ≠ some .drainingPrevious ∨
      control.executorId = none then .outsideEarlyPhase
  else earlyCheckpointBoundary control.checkpoint

def canRecoverComputeDrain : Bool :=
  (control.state = .running || control.state = .recoveryRequired) &&
    control.earlyComputeBoundary = .beforeContainerSubmission

def executionContext : Except String ExecutionContext := do
  let executorId ← demand control.executorId "Compute executor is not claimed"
  let context : ExecutionContext :=
    ⟨control.appId, control.lifecycleId, control.operationId, executorId,
      control.requestFingerprint⟩
  context.validateIdentity control.appId
  pure context

def isLive : Bool := !control.state.isTerminal

end ControlRecord

/-! ### Requests -/

def automaticRepairPrefix : String := "auto-repair-"

def isAutomaticRepair (requestId : String) : Bool :=
  automaticRepairPrefix.toList.isPrefixOf requestId.toList

def validateUserComputeRequestId (requestId : String) : Except String Unit := do
  validateIdentifier requestId "request_id"
  failIf (isAutomaticRepair requestId)
    "request_id prefix 'auto-repair-' is reserved for internal repair"

end Rcoder.Lifecycle
