import Rcoder.Lifecycle.Observations
import Rcoder.Lifecycle.Operations

/-!
# Recovery of business operations

Transactions that continue or close an operation whose executor is gone, on evidence found by
somebody else. Each compares the whole snapshot it was decided on with the stored record. Where
a record is closed out of recovery, the state `running` is only an internal hop of the
transaction: it satisfies the claim of the state machine and grants no further write.
-/

namespace Rcoder.Lifecycle

open Effect

namespace Recovery

/-! ### Steps shared by the transactions -/

def report (operation : OperationRecord) (executorId : String) (state : OperationState)
    (step : String) (checkpoint : Json) (errorCode errorMessage : Option String) :
    OperationProgress where
  appId := operation.appId
  lifecycleId := operation.lifecycleId
  operationId := operation.operationId
  expectedRevision := operation.revision
  executorId
  state
  step
  checkpoint
  errorCode
  errorMessage

def hop (operation : OperationRecord) : OperationRecord := { operation with state := .running }

def closeHop (app : LifecycleRecord) (snapshot : OperationRecord) (progress : OperationProgress) :
    Tx OperationRecord := do
  let (next, closed) ← fromExcept (Domain.advance app (hop snapshot) progress)
  Operations.saveProgress app next snapshot closed
  deleteInput closed.operationId
  pure closed

def currentSnapshot (snapshot : OperationRecord) (eligible : Bool) :
    Tx (LifecycleRecord × OperationRecord) := do
  let (app, operation) ←
    currentOperation snapshot.appId snapshot.operationId snapshot.lifecycleId
  failIf (operation ≠ snapshot ∨ eligible = false) .versionConflict
  pure (app, operation)

def isRecovering (operation : OperationRecord) : Bool :=
  operation.state = .running || operation.state = .recoveryRequired

def heldLease (operation : OperationRecord) : Tx LeaseBinding := do
  let bound ← reads fun db => db.readLease operation.appId operation.operationId
  demand bound .notFound

def checkLease (operation : OperationRecord) (context : ExecutionContext) : Tx Unit := do
  let lease ← heldLease operation
  failIf (lease.context ≠ context ∨ owns lease.context operation = false) .versionConflict

def revised (operation : OperationRecord) : Except StoreError OperationRecord := do
  let revision ← demand (checkedSucc operation.revision)
    (.invalidOperation "Operation revision exhausted")
  pure { operation with revision }

def annotated (checkpoint : Json) (key : String) (value : Json) : Except StoreError Json :=
  demand (checkpoint.assign key value) (.storage "cannot index the checkpoint")

/-! ### Database passwords -/

def passwordResolves (before after : DatabasePasswordEvidence) : Bool :=
  before.receiptProtocol = some 1 && after.receiptProtocol = some 1 &&
    before.context = after.context && before.target = after.target &&
    before.username = after.username && before.stage ≠ .captured &&
    (after.stage = .verified || after.stage = .cancelled) &&
    (before.stage = .writeSubmitted || before.stage = after.stage)

/-- The report is made twice: as progress under the hop, and then as the outcome. -/
def closeTwice (app : LifecycleRecord) (operation : OperationRecord)
    (progress : OperationProgress) (outcome : OperationProgress → OperationProgress) :
    Tx OperationRecord := do
  let (app', running) ← fromExcept (Domain.advance app (hop operation) progress)
  let last := outcome { progress with expectedRevision := running.revision }
  let (next, closed) ← fromExcept (Domain.advance app' running last)
  reads fun db => Configuration.validateTerminal db closed last.state
  Operations.saveProgress app next operation closed
  pure closed

def finalizePasswordRecovery (snapshot : OperationRecord) (evidence : DatabasePasswordEvidence) :
    Tx OperationRecord := do
  let (app, operation) ← currentSnapshot snapshot (isRecovering snapshot)
  fromExcept (invalid (evidence.validateOperation operation))
  let before ← demand (DatabasePasswordEvidence.read operation.checkpoint)
    (.storage "invalid checkpoint")
  fromExcept (invalid (before.validateOperation operation))
  failIf (passwordResolves before evidence = false)
    (.invalidOperation "Password recovery evidence changed identity or outcome")
  checkLease operation evidence.context
  closeTwice app operation
    (report operation evidence.context.executorId .running operation.step evidence.encode none none)
    fun progress => { progress with
      state := if evidence.stage = .verified then .succeeded else .failed }

def explicitPasswordResolves (before after : ExplicitDeploymentPasswordEvidence) : Bool :=
  before.receiptProtocol = some 1 && after.receiptProtocol = some 1 &&
    before.context = after.context && before.explicitPgTarget = after.explicitPgTarget &&
    before.username = after.username && before.stage ≠ .captured &&
    (after.stage = .verified || after.stage = .cancelled) &&
    (before.stage = .writeSubmitted || before.stage = after.stage)

def deployPgFailure (stage : DatabasePasswordStage) : String :=
  if stage = .verified then
    "Explicit deployment password committed and verified; deployment completion was not recorded; re-issue the deployment"
  else "Explicit deployment password write was cancelled; deployment did not complete"

/-- The deployment itself was never recorded as complete, so both outcomes are failures. -/
def finalizeDeployPgRecovery (snapshot : OperationRecord)
    (evidence : ExplicitDeploymentPasswordEvidence) : Tx OperationRecord := do
  let (app, operation) ← currentSnapshot snapshot (snapshot.state = .recoveryRequired)
  fromExcept (invalid (evidence.validateOperation operation))
  let before ← demand (ExplicitDeploymentPasswordEvidence.read operation.checkpoint)
    (.storage "invalid checkpoint")
  fromExcept (invalid (before.validateOperation operation))
  failIf (explicitPasswordResolves before evidence = false)
    (.invalidOperation "Deployment password recovery evidence changed identity or outcome")
  checkLease operation evidence.context
  closeTwice app operation
    (report operation evidence.context.executorId .running operation.step evidence.encode none none)
    fun progress => { progress with
      state := .failed
      step := "deploy_pg_reconciled"
      errorCode := some "ERR_BACKEND_ERROR"
      errorMessage := some (deployPgFailure evidence.stage) }

def confirmDatabasePreparationRecovery (snapshot : OperationRecord)
    (evidence : DatabasePreparationEvidence) : Tx OperationRecord := do
  let (app, operation) ← currentSnapshot snapshot (isRecovering snapshot)
  fromExcept (Domain.validateActive app)
  let before ← demand (DatabasePreparationEvidence.read operation.checkpoint)
    (.storage "invalid checkpoint")
  fromExcept (invalid (before.validateOperation operation))
  fromExcept (invalid (evidence.validateOperation operation))
  failIf (before.stage ≠ .startSubmitted ∨ evidence.stage ≠ .managementReady ∨
      before.target ≠ evidence.target ∨
      before.deploymentGeneration ≠ evidence.deploymentGeneration)
    (.invalidOperation "Management recovery evidence changed identity or stage")
  checkLease operation evidence.target.context
  let (next, running) ← fromExcept (Domain.advance app (hop operation)
    (report operation evidence.target.context.executorId .running "database_management"
      evidence.encode none none))
  Operations.saveProgress app next operation running
  pure running

/-! ### Builder creation -/

/-- The refusal closes an attempt that timed out; without one, acknowledged writes are over. -/
def creationIsClosable (operation : OperationRecord) (rejection : Option RuntimeRequestRejection) :
    Bool :=
  operation.kind = .ensureBuilder && operation.checkpoint = .null &&
    match rejection with
    | some rejection => operation.state = .recoveryRequired &&
        operation.step = "creation_confirmation_timed_out" && rejection.isDefinite
    | none => operation.builderCreationNeedsRuntimeReceipt

/-- `finalize_builder_creation_rejection`, and the cancellation that has no refusal. -/
def finalizeBuilderCreationRejection (snapshot : OperationRecord)
    (rejection : Option RuntimeRequestRejection) : Tx OperationRecord := do
  let (app, operation) ← currentSnapshot snapshot (creationIsClosable snapshot rejection)
  let executorId ← demand operation.executorId .versionConflict
  closeHop app operation (report operation executorId .failed "creation_result"
    (if rejection.isNone then Json.object [("creation_cancelled", .bool true)] else .null)
    (some "ERR_BACKEND_ERROR")
    (some ((rejection.map (·.text)).getD
      "Builder creation cancelled after acknowledged writes")))

def checkObservedCreation (operation : OperationRecord) (evidence : BuilderCreationEvidence) :
    Except StoreError Unit := do
  failIf (operation.state ≠ .recoveryRequired ∨ operation.step ≠ "builder_created_observed")
    .versionConflict
  let before ← demand (BuilderCreationEvidence.read operation.checkpoint)
    (.storage "invalid checkpoint")
  invalid (before.validateOperation operation)
  failIf (before.target ≠ evidence.target ∨
      before.registrationPredecessor ≠ evidence.registrationPredecessor) .versionConflict

def confirmBuilderCreationRecovery (snapshot : OperationRecord)
    (evidence : BuilderCreationEvidence) (managementReady : Bool) : Tx OperationRecord := do
  let (app, operation) ←
    currentOperation snapshot.appId snapshot.operationId snapshot.lifecycleId
  fromExcept (Domain.validateActive app)
  failIf (operation ≠ snapshot) .versionConflict
  fromExcept (invalid (evidence.validateOperation operation))
  fromExcept (if managementReady then checkObservedCreation operation evidence
    else failIf (operation.builderCreationNeedsRuntimeReceipt = false) .versionConflict)
  let next ← fromExcept (revised operation)
  let confirmed := { next with
    state := .recoveryRequired
    step := if managementReady then "builder_ready_confirmed" else "builder_created_observed"
    checkpoint := evidence.encode }
  saveOperation confirmed operation
  pure confirmed

/-! ### Completed operations -/

/-- A builder needs its active application, every other operation its own lease. -/
def checkCompletion (app : LifecycleRecord) (operation : OperationRecord) : Tx Unit :=
  if operation.kind = .ensureBuilder then fromExcept (Domain.validateActive app)
  else do
    let lease ← heldLease operation
    failIf (owns lease.context operation = false) .versionConflict

/-- `reserve_completed_operation`: a record that proves its effects may report success. -/
def reserveCompletedOperation (snapshot : OperationRecord) : Tx OperationRecord := do
  let (app, operation) ←
    currentOperation snapshot.appId snapshot.operationId snapshot.lifecycleId
  reads fun db => Compute.checkBusinessAuthority db operation
  failIf (operation ≠ snapshot ∨ isRecovering operation = false ∨
    operation.hasFinalEvidence = false) .versionConflict
  checkCompletion app operation
  let next ← fromExcept (revised operation)
  saveOperation (hop next) operation
  pure (hop next)

/-! ### Observed outcomes -/

def ownsWakeTarget (operation : OperationRecord) : Bool :=
  ((operation.checkpoint.get "target").bind MutationTarget.read).any fun target =>
    target.context.appId = operation.appId && target.context.Executes operation

def isObservedWake (operation : OperationRecord) : Bool :=
  operation.kind = .start && operation.state = .recoveryRequired &&
    operation.step = "traffic_wake_observing" && ownsWakeTarget operation

def finalizeObservedWake (snapshot : OperationRecord) : Tx OperationRecord := do
  let (app, operation) ← currentSnapshot snapshot (isObservedWake snapshot &&
    snapshot.checkpoint.get "start_write_acknowledged" = some (.bool true))
  let executorId ← demand operation.executorId .versionConflict
  closeHop app operation (report operation executorId .failed "traffic_wake_observation_failed"
    operation.checkpoint (operation.errorCode <|> some "ERR_BACKEND_ERROR")
    (operation.errorMessage <|> some "Wake readiness observation did not complete"))

/-- A record from before the acknowledgement was kept; the evidence is added for audit. -/
def finalizeLegacyObservedWake (snapshot : OperationRecord) (evidence : Json) :
    Tx OperationRecord := do
  let (app, operation) ← currentSnapshot snapshot (isObservedWake snapshot &&
    (snapshot.checkpoint.get "start_write_acknowledged").isNone)
  let checkpoint ← fromExcept
    (annotated operation.checkpoint "legacy_start_write_verified" evidence)
  let executorId ← demand operation.executorId .versionConflict
  closeHop app operation (report operation executorId .failed "traffic_wake_observation_failed"
    checkpoint (operation.errorCode <|> some "ERR_BACKEND_ERROR")
    (operation.errorMessage <|> some ("Wake readiness observation did not complete " ++
      "(legacy record; start write verified by runtime receipt)")))

/-- `settle_fenced_operation`: the physical state is definite, so the slot is given back. -/
def settleFencedOperation (snapshot : OperationRecord) (evidence : Json) (releaseNote : String) :
    Tx OperationRecord := do
  let (app, operation) ← currentSnapshot snapshot
    (snapshot.state = .recoveryRequired && snapshot.executorId.isSome)
  let checkpoint ← fromExcept
    (annotated operation.checkpoint Domain.fenceReleasedEvidenceKey evidence)
  let executorId ← demand operation.executorId .versionConflict
  closeHop app operation (report operation executorId .failed operation.step checkpoint
    (operation.errorCode <|> some "ERR_CONFLICT")
    (some (operation.errorMessage.getD "operation fenced" ++ "; fence released: " ++
      releaseNote)))

def settleStaleRunningBuilder (snapshot : OperationRecord) (evidence : Json)
    (releaseNote : String) : Tx OperationRecord := do
  let (app, operation) ← currentSnapshot snapshot
    (snapshot.kind = .ensureBuilder && snapshot.state = .running &&
      snapshot.executorId.isSome && snapshot.builderCreationNeedsRuntimeReceipt)
  let checkpoint ← fromExcept
    (annotated operation.checkpoint Domain.fenceReleasedEvidenceKey evidence)
  let executorId ← demand operation.executorId .versionConflict
  closeHop app operation (report operation executorId .failed operation.step checkpoint
    (operation.errorCode <|> some "ERR_OPERATION_RECOVERY")
    (some (operation.errorMessage.getD "builder creation executor stopped without a receipt" ++
      "; stale running released: " ++ releaseNote)))

def finalizeObservedHotSuccess (snapshot : OperationRecord) (evidence : Json) :
    Tx OperationRecord := do
  let (app, operation) ← currentSnapshot snapshot (snapshot.state = .recoveryRequired &&
    (snapshot.step = "hot_execution" || snapshot.step = "hot_converging") &&
    snapshot.kind.supportsHotDeployment)
  let checkpoint ← fromExcept (annotated operation.checkpoint "hot_success_observed" evidence)
  let executorId ← demand operation.executorId .versionConflict
  closeHop app operation (report operation executorId .succeeded "hot_execution_succeeded"
    checkpoint none none)

def finalizeObservedHotFailure (snapshot : OperationRecord)
    (evidence : HotDeploymentFailureEvidence) : Tx OperationRecord := do
  let (app, operation) ← currentSnapshot snapshot (snapshot.state = .recoveryRequired &&
    snapshot.step = "hot_execution" && snapshot.kind.supportsHotDeployment)
  fromExcept (invalid (evidence.validate operation))
  let checkpoint ← fromExcept
    (annotated operation.checkpoint "hot_failure_observed" evidence.document)
  let executorId ← demand operation.executorId .versionConflict
  closeHop app operation (report operation executorId .failed "hot_execution_failed" checkpoint
    (some "ERR_BACKEND_ERROR")
    (some (evidence.error.getD "Hot deployment failed on the original runtime owner")))

/-! ### Deletions -/

def deletionSnapshot (snapshot : OperationRecord) : Tx OperationRecord := do
  let (_, operation) ← currentSnapshot snapshot (snapshot.scope = snapshot.kind.scope &&
    snapshot.kind.isDeletion && isRecovering snapshot)
  let checkpoint ← demand (DeletionCheckpoint.read operation.checkpoint)
    (.invalidOperation "Deletion recovery requires its original captured targets")
  fromExcept (invalid (checkpoint.validateOperation operation))
  let bound ← reads fun db => db.readLease operation.appId operation.operationId
  let binding ← demand bound (.invalidOperation "Deletion recovery lease receipt is missing")
  failIf (binding.context ≠ checkpoint.context ∨ owns binding.context operation = false)
    .versionConflict
  pure operation

def inspected (operation : OperationRecord) (message : String) : Tx OperationRecord := do
  let next ← fromExcept (revised operation)
  let inspected := { next with
    state := .recoveryRequired
    errorCode := some "ERR_DELETION_INSPECTION"
    errorMessage := some message }
  saveOperation inspected operation
  pure inspected

def reserveInterruptedDeletion (snapshot : OperationRecord) : Tx OperationRecord := do
  let operation ← deletionSnapshot snapshot
  inspected operation
    "Inspecting the original captured deletion; resource writes are not replayed"

def recordDeletionRecoveryProblem (snapshot : OperationRecord) (message : String) :
    Tx OperationRecord := do
  let operation ← deletionSnapshot snapshot
  failIf (operation.state ≠ .recoveryRequired ∨ message = "") .versionConflict
  if operation.errorMessage = some message then pure operation
  else inspected operation message

def finalizeInterruptedDeletion (snapshot : OperationRecord) (evidence : Json) :
    Tx OperationRecord := do
  let operation ← deletionSnapshot snapshot
  failIf (operation.state ≠ .recoveryRequired ∨
      (operation.kind ≠ .deleteCompute ∧ operation.kind ≠ .purgeResources) ∨
      evidence.get "execution_quiescent" ≠ some (.bool true) ∨
      evidence.get "captured_checkpoint" ≠ some operation.checkpoint ∨
      evidence.get "context" ≠ operation.checkpoint.get "context")
    (.invalidOperation ("Deletion finalization requires all original write scopes to be " ++
      "retired; lifecycle deletion remains protected"))
  settleFencedOperation operation evidence
    "original deletion execution retired; incomplete deletion was not replayed"

/-! ### Deployments -/

def validatedExecutionInput (db : Store) (operation : OperationRecord) :
    Except StoreError ExecutionInput := do
  let row ← demand (db.inputs.find? operation.operationId) (.storage "record not found")
  failIf (row.appId ≠ operation.appId ∨ row.lifecycleId ≠ operation.lifecycleId) .lifecycleConflict
  Operations.validateInput operation.kind operation.requestFingerprint operation.command
    (some row.input)
  pure row.input

def expiredDeadline (db : Store) (operation : OperationRecord) (nowMs : Int) :
    Except StoreError DeadlineRow := do
  let row ← demand (db.deadlines.find? operation.operationId) .versionConflict
  failIf (row.appId ≠ operation.appId ∨ row.lifecycleId ≠ operation.lifecycleId ∨
    row.deadlineMs ≤ 0 ∨ row.deadlineMs > nowMs) .versionConflict
  pure row

def resumeRunning (operation : OperationRecord) : Tx OperationRecord :=
  if operation.state = .recoveryRequired then do
    let next ← fromExcept (revised operation)
    saveOperation (hop next) operation
    pure (hop next)
  else pure operation

def expireDeploymentUpdate (snapshot : OperationRecord) (nowMs : Int) : Tx OperationRecord := do
  claimApp snapshot.appId
  let operation ← readOperation snapshot.appId snapshot.operationId
  failIf (operation ≠ snapshot ∨ isRecovering operation = false ∨
    operation.hasDeploymentUpdateReceipt = false) .versionConflict
  let deadline ← reads fun db => expiredDeadline db operation nowMs
  let input ← reads fun db => validatedExecutionInput db operation
  failIf (operation.deploymentUpdatePrecedesCredentials input = false) .versionConflict
  let running ← resumeRunning operation
  let checkpoint ← fromExcept (annotated running.checkpoint "deployment_update_expiry"
    (Json.object [("deadline_ms", .num deadline.deadlineMs),
      ("next_write_intent", .str "explicit_pg_applying"), ("input_digest", .str input.digest),
      ("deployment_completed", .bool false)]))
  let executorId ← demand running.executorId .versionConflict
  Operations.advance (report running executorId .failed "deployment_update_expired" checkpoint
    (some "ERR_DEADLINE_EXCEEDED")
    (some ("Deployment deadline expired after the configuration update returned and before " ++
      "the credential write intent; remaining deployment writes were not replayed")))

def isInterruptedHot (operation : OperationRecord) (binding : LeaseBinding) : Bool :=
  (operation.checkpoint.get "hot_execution").any fun hot =>
    (hot.get "context").bind ExecutionContext.read = some binding.context &&
      owns binding.context operation && binding.receipt.serviceType = .userapp &&
      (hot.get "receipt_protocol").bind Json.asU64 = some 1 &&
      (hot.get "phase").bind Json.asStr =
        (if operation.step = "hot_execution" then some "submit"
          else if operation.step = "hot_converging" then some "converging" else none) &&
      (operation.step = "hot_execution" || operation.step = "hot_converging") &&
      ((hot.get "target").bind RuntimeConfigurationTarget.read).any fun target =>
        target.physicalUid ≠ "" && target.deploymentGeneration ≠ ""

def reserveInterruptedHot (snapshot : OperationRecord) (expected : LeaseBinding) :
    Tx OperationRecord := do
  let (app, operation) ← currentSnapshot snapshot (snapshot.state = .running &&
    snapshot.kind.supportsHotDeployment && snapshot.scope = .prod)
  fromExcept (Domain.validateActive app)
  reads fun db => Compute.checkBusinessAuthority db operation
  let bound ← reads fun db => db.readLease operation.appId operation.operationId
  failIf (bound ≠ some expected ∨ isInterruptedHot operation expected = false) .versionConflict
  let next ← fromExcept (revised operation)
  let reserved := { next with
    state := .recoveryRequired
    errorCode := some "ERR_HOT_INSPECTION"
    errorMessage := some ("Inspecting the original hot deployment after its coordinator lease " ++
      "expired; writes are not replayed") }
  saveOperation reserved operation
  pure reserved

end Recovery

end Rcoder.Lifecycle
