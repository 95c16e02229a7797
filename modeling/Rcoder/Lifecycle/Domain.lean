import Rcoder.Lifecycle.FinalEvidence

/-!
# Pure transitions of the lifecycle

Admission and progress of business operations, and metadata patches, as functions of the
records. Progress is checked against the evidence that the kind of the operation requires
before any of it is recorded.
-/

namespace Rcoder.Lifecycle

open Json

namespace Domain

def identity (appId lifecycleId : String) (now : Int) : Except StoreError LifecycleRecord := do
  invalid (validateIdentifier appId "app_id")
  pure { appId, lifecycleId, lifecycleEpoch := 1, metadataRevision := 1, state := .active,
         createdAt := now }

def validateActive (app : LifecycleRecord) : Except StoreError Unit :=
  failIf (app.state ≠ .active) .lifecycleConflict

def operationOwnsAnySlot (app : LifecycleRecord) (operationId : String) : Bool :=
  OperationScope.blockers.any fun scope => app.activeOperations.slot scope = some operationId

def slotMatchesOperation (app : LifecycleRecord) (operation : OperationRecord) : Bool :=
  app.activeOperations.slot operation.scope = some operation.operationId

def validateRequestId (requestId : String) : Except StoreError Unit :=
  failIf (isBlank requestId ∨ requestId.utf8ByteSize > 128)
    (.invalidOperation "request identity must contain between 1 and 128 bytes")

def patchMetadata (app : LifecycleRecord) (patch : MetadataPatch) :
    Except StoreError LifecycleRecord := do
  validateActive app
  failIf (app.appId ≠ patch.appId ∨ app.lifecycleId ≠ patch.lifecycleId) .lifecycleConflict
  failIf (app.metadataRevision ≠ patch.expectedRevision) .versionConflict
  let updated := { app with
    name := patch.name.getD app.name
    tenantId := patch.tenantId.getD app.tenantId
    spaceId := patch.spaceId.getD app.spaceId }
  if updated ≠ app then do
    let revision ← demand (checkedSucc app.metadataRevision)
      (.invalidOperation "metadata revision exhausted")
    pure { updated with metadataRevision := revision }
  else pure app

/-! ### Admission -/

/-- What a request has to be, whatever the state of the application. -/
def validateRequest (request : Admission) : Except StoreError Unit := do
  failIf (request.runtimePolicyOnSuccess ≠ none ∧ request.kind ≠ .create ∧
      request.kind ≠ .update ∧ request.kind ≠ .startDeployment ∧
      request.kind ≠ .restartDeployment)
    (.invalidOperation "Configuration policy projection requires a create or update operation")
  failIf (request.command = some (.setRecyclePolicy {}))
    (.invalidOperation "At least one runtime policy field is required")
  failIf (request.command.any (·.kind ≠ request.kind))
    (.invalidOperation "Control command does not match operation kind")
  failIf (validateIdentifier request.operationId "operation_id" ≠ .ok ())
    (.invalidOperation "invalid operation identity")
  request.requestId.forM validateRequestId
  failIf (request.operationId = "" ∨ request.requestFingerprint = "" ∨ request.requestId = some "")
    (.invalidOperation "operation identity and fingerprint must be nonempty")

def validateLifecycle (app : LifecycleRecord) (request : Admission) : Except StoreError Unit :=
  failIf (request.lifecycleId.any (· ≠ app.lifecycleId) ∨
    (app.lifecycleEpoch > 1 ∧ request.lifecycleId = none)) .lifecycleConflict

def replay (app : LifecycleRecord) (request : Admission) (duplicate : OperationRecord) :
    Except StoreError AdmissionOutcome := do
  failIf (duplicate.lifecycleId ≠ app.lifecycleId) .lifecycleConflict
  failIf (¬(duplicate.kind = request.kind ∧ duplicate.scope = request.kind.scope ∧
      duplicate.command = request.command ∧
      duplicate.runtimePolicyOnSuccess = request.runtimePolicyOnSuccess ∧
      duplicate.requestFingerprint = request.requestFingerprint ∧
      duplicate.admittedMetadata = request.metadata))
    (.invalidOperation "request identity was reused with different parameters")
  pure (.existing duplicate)

/-- A builder request joins the one of the same input that is already in the dev slot. -/
def joins (app : LifecycleRecord) (request : Admission) (joined : OperationRecord) : Bool :=
  request.kind.scope = .dev && !joined.state.isTerminal && joined.state ≠ .recoveryRequired &&
    joined.kind = .ensureBuilder && request.kind = joined.kind &&
    joined.lifecycleId = app.lifecycleId &&
    joined.requestFingerprint = request.requestFingerprint && joined.command = request.command &&
    joined.runtimePolicyOnSuccess = request.runtimePolicyOnSuccess &&
    joined.admittedMetadata = request.metadata

/-- The first occupied slot that blocks a request in `scope`. -/
def blocker (active : ActiveOperationRecords) (scope : OperationScope) : Option OperationBlocker :=
  (OperationScope.blockers.filter scope.blocksRequest).findSome? fun blockerScope =>
    (active.slot blockerScope).map fun operation =>
      { operation.blocker with scope := blockerScope }

def admitted (app : LifecycleRecord) (request : Admission) (now : Int) : OperationRecord where
  runtimePolicyOnSuccess := request.runtimePolicyOnSuccess
  command := request.command
  admittedMetadata := request.metadata
  operationId := request.operationId
  appId := app.appId
  lifecycleId := app.lifecycleId
  requestId := request.requestId
  requestFingerprint := request.requestFingerprint
  kind := request.kind
  scope := request.kind.scope
  state := .pending
  revision := 1
  executorId := none
  step := "admitted"
  checkpoint := .null
  errorCode := none
  errorMessage := none
  createdAt := now

def occupy (app : LifecycleRecord) (operation : OperationRecord) : LifecycleRecord :=
  { app with
    activeOperations := app.activeOperations.set operation.scope (some operation.operationId)
    state := if operation.kind.endsLifecycle then .deleting else app.state }

/-- A request that is neither a replay nor a join takes a free slot. -/
def accept (app : LifecycleRecord) (request : Admission) (active : ActiveOperationRecords)
    (now : Int) : Except StoreError (LifecycleRecord × AdmissionOutcome) :=
  match blocker active request.kind.scope with
  | some detail => throw (.operationInProgress detail)
  | none => do
    let app ← match request.metadata with
      | some patch => patchMetadata app patch
      | none => pure app
    let operation := admitted app request now
    pure (occupy app operation, .accepted operation)

def admission (app : LifecycleRecord) (request : Admission) (duplicate : Option OperationRecord)
    (active : ActiveOperationRecords) (now : Int) :
    Except StoreError (LifecycleRecord × AdmissionOutcome) := do
  validateRequest request
  validateLifecycle app request
  match duplicate with
  | some duplicate => do
    let outcome ← replay app request duplicate
    pure (app, outcome)
  | none => do
    validateActive app
    match active.dev.filter (joins app request) with
    | some joined => pure (app, .existing joined)
    | none => accept app request active now

/-! ### Progress -/

def fenceReleasedEvidenceKey : String := "fence_released_evidence"

/-- The captured evidence is kept; only the record of a released fence may be added. -/
def failureCheckpointPreserved (previous next : Json) : Bool :=
  previous = next ||
    match next with
    | .obj fields =>
      let fields := fields.erase fenceReleasedEvidenceKey
      (previous = .null && fields = .nil) || previous = .obj fields
    | _ => false

def stagePrecedes : DeletionStage → DeletionStage → Bool
  | .captured, .computeRemoved => true
  | .computeRemoved, .productionStorageRemoved => true
  | .productionStorageRemoved, .developmentRemoved => true
  | _, _ => false

def isFailure (state : OperationState) : Bool := state = .failed || state = .recoveryRequired

def validateDeletionStage (operation : OperationRecord) (progress : OperationProgress)
    (previous next : DeletionCheckpoint) : Except StoreError Unit := do
  failIf ({ next with stage := previous.stage } ≠ previous)
    (.invalidOperation "Deletion resource evidence cannot change during execution")
  if progress.state = .succeeded then
    failIf (next.stage ≠ operation.kind.finalDeletionStage ∨
        previous.stage ≠ operation.kind.finalDeletionStage)
      (.invalidOperation "Deletion cannot succeed before its final confirmed stage")
  else
    failIf (progress.state ≠ .running ∨ stagePrecedes previous.stage next.stage = false)
      (.invalidOperation "Deletion stages must advance in order")

def validateDeletionProgress (operation : OperationRecord) (progress : OperationProgress) :
    Except StoreError Unit :=
  if operation.kind.isDeletion = false then pure ()
  else if isFailure progress.state then
    failIf (failureCheckpointPreserved operation.checkpoint progress.checkpoint = false)
      (.invalidOperation "Deletion failure must preserve its last recorded evidence")
  else if progress.state = .running ∧ progress.checkpoint = .null ∧ operation.checkpoint = .null then
    pure ()
  else do
    let next ← demand (DeletionCheckpoint.read progress.checkpoint)
      (.invalidOperation "Deletion progress requires a complete typed checkpoint")
    invalid (next.validateOperation operation)
    if operation.checkpoint = .null then
      failIf (progress.state ≠ .running ∨ next.stage ≠ .captured)
        (.invalidOperation "Deletion must first record its captured resources")
    else do
      let previous ← demand (DeletionCheckpoint.read operation.checkpoint)
        (.invalidOperation "Stored deletion evidence requires explicit reconciliation")
      validateDeletionStage operation progress previous next

def destructionOrdered (production : Bool) (step next : String) : Bool :=
  (step = "storage_captured" && next = "production_storage_removed" && production) ||
    (step = "storage_captured" && next = StorageDestruction.completeStep && !production) ||
    (step = "production_storage_removed" && next = StorageDestruction.completeStep && production)

def validateDestruction (production : Bool) (operation : OperationRecord)
    (progress : OperationProgress) : Except StoreError Unit :=
  if isFailure progress.state then
    failIf (failureCheckpointPreserved operation.checkpoint progress.checkpoint = false)
      (.invalidOperation "Storage failure must preserve captured identities")
  else if progress.state = .running ∧ progress.checkpoint = .null ∧ operation.checkpoint = .null then
    pure ()
  else do
    let evidence ← demand (StorageDestruction.read progress.checkpoint)
      (.invalidOperation "Storage destruction requires typed resource evidence")
    invalid evidence.validate
    failIf (¬(evidence.context.appId = operation.appId ∧ evidence.context.Executes operation ∧
        evidence.production.isSome = production))
      (.invalidOperation "Storage evidence does not match operation identity or scope")
    if operation.checkpoint = .null then
      failIf (¬(progress.state = .running ∧ progress.step = "storage_captured"))
        (.invalidOperation "Storage destruction must capture resources before execution")
    else do
      failIf (progress.checkpoint ≠ operation.checkpoint)
        (.invalidOperation "Storage destruction cannot replace captured resources")
      failIf (¬((progress.state = .running ∧
            destructionOrdered production operation.step progress.step) ∨
          (progress.state = .succeeded ∧ operation.step = StorageDestruction.completeStep)))
        (.invalidOperation "Storage destruction must confirm each stage before success")

def validateStorageDestructionProgress (operation : OperationRecord)
    (progress : OperationProgress) : Except StoreError Unit :=
  match operation.kind with
  | .destroyProdStorage => validateDestruction true operation progress
  | .destroyDevStorage => validateDestruction false operation progress
  | _ => pure ()

def clearScopeMatches (production : Bool) (app : LifecycleRecord) : StorageClearTarget → Bool
  | .production snapshot directories =>
    production && snapshot.appId = app.appId && directories.all (·.isAbsolute)
  | .development baseUrl _ _ receipt =>
    !production && receipt.runtime.appId = app.appId && baseUrl ≠ ""

def validateClear (production : Bool) (app : LifecycleRecord) (operation : OperationRecord)
    (progress : OperationProgress) : Except StoreError Unit :=
  if isFailure progress.state then
    failIf (failureCheckpointPreserved operation.checkpoint progress.checkpoint = false)
      (.invalidOperation "Storage clear failure must preserve its target evidence")
  else if progress.state = .running ∧ progress.checkpoint = .null ∧ operation.checkpoint = .null then
    pure ()
  else do
    let evidence ← demand (StorageClear.read progress.checkpoint)
      (.invalidOperation "Storage clear requires typed target evidence")
    invalid evidence.validate
    invalid (evidence.context.validateIdentity operation.appId)
    failIf (¬evidence.context.Executes operation)
      (.invalidOperation "Storage clear evidence does not belong to the operation")
    failIf (clearScopeMatches production app evidence.target = false)
      (.invalidOperation "Storage clear target scope mismatch")
    if operation.checkpoint = .null then
      failIf (¬(progress.state = .running ∧ progress.step = "clear_target_captured"))
        (.invalidOperation "Storage clear must capture targets before execution")
    else do
      failIf (operation.checkpoint ≠ progress.checkpoint)
        (.invalidOperation "Storage clear cannot change captured targets")
      failIf (¬((progress.state = .running ∧ operation.step = "clear_target_captured" ∧
            progress.step = StorageClear.completeStep) ∨
          (progress.state = .succeeded ∧ operation.step = StorageClear.completeStep)))
        (.invalidOperation "Storage clear cannot succeed before confirmed completion")

def validateStorageClearProgress (app : LifecycleRecord) (operation : OperationRecord)
    (progress : OperationProgress) : Except StoreError Unit :=
  match operation.kind with
  | .clearProdStorage => validateClear true app operation progress
  | .clearDevStorage => validateClear false app operation progress
  | _ => pure ()

def withoutEvidence (progress : OperationProgress) : Bool :=
  isFailure progress.state || (progress.state = .running && progress.step = "claimed")

def passwordStepAllowed (state : OperationState) (before after : DatabasePasswordEvidence) :
    Bool :=
  match state with
  | .recoveryRequired => before = after
  | .failed => before = after && (before.stage = .captured || before.stage = .cancelled)
  | .succeeded => before = after && before.stage = .verified
  | .running =>
    before = after || (before.stage = .captured && after.stage = .writeSubmitted) ||
      (before.stage = .writeSubmitted && (after.stage = .verified || after.stage = .cancelled))
  | .pending | .waitingRetry => false

def passwordInvalid : StoreError := .invalidOperation
  "Database password writes require ordered physical evidence; uncertain writes remain protected"

def validateDatabasePasswordProgress (operation : OperationRecord)
    (progress : OperationProgress) : Except StoreError Unit :=
  if operation.kind ≠ .resetDevDatabasePassword ∧ operation.kind ≠ .resetProdDatabasePassword then
    pure ()
  else if operation.checkpoint = .null then
    if failureCheckpointPreserved operation.checkpoint progress.checkpoint then
      failIf (withoutEvidence progress = false) passwordInvalid
    else do
      let evidence ← demand (DatabasePasswordEvidence.read progress.checkpoint) passwordInvalid
      invalid (evidence.validateOperation operation)
      failIf (¬(progress.state = .running ∧ evidence.stage = .captured)) passwordInvalid
  else do
    let before ← demand (DatabasePasswordEvidence.read operation.checkpoint) passwordInvalid
    let after ← demand (DatabasePasswordEvidence.read progress.checkpoint) passwordInvalid
    invalid (before.validateOperation operation)
    invalid (after.validateOperation operation)
    failIf (before.receiptProtocol ≠ after.receiptProtocol ∨ before.context ≠ after.context ∨
      before.username ≠ after.username ∨ before.target ≠ after.target) passwordInvalid
    failIf (passwordStepAllowed progress.state before after = false) passwordInvalid

def preparationStepAllowed (state : OperationState)
    (before after : DatabasePreparationEvidence) : Bool :=
  match state with
  | .recoveryRequired => before = after
  | .failed => before = after && before.stage = .captured
  | .succeeded => before = after && before.stage = .managementReady
  | .running =>
    before = after || (before.stage = .captured && after.stage = .startSubmitted) ||
      (before.stage = .startSubmitted && after.stage = .managementReady)
  | .pending | .waitingRetry => false

def preparationInvalid : StoreError := .invalidOperation
  "Database management preparation requires ordered identity-bound evidence"

def validateDatabasePreparationProgress (operation : OperationRecord)
    (progress : OperationProgress) : Except StoreError Unit :=
  if operation.kind ≠ .prepareProdDatabase then pure ()
  else if operation.checkpoint = .null ∧
      failureCheckpointPreserved operation.checkpoint progress.checkpoint = true then
    failIf (withoutEvidence progress = false) preparationInvalid
  else do
    let after ← demand (DatabasePreparationEvidence.read progress.checkpoint) preparationInvalid
    invalid (after.validateOperation operation)
    if operation.checkpoint = .null then
      failIf (¬(progress.state = .running ∧ after.stage = .captured)) preparationInvalid
    else do
      let before ← demand (DatabasePreparationEvidence.read operation.checkpoint)
        preparationInvalid
      invalid (before.validateOperation operation)
      failIf (before.target ≠ after.target ∨
        before.deploymentGeneration ≠ after.deploymentGeneration) preparationInvalid
      failIf (preparationStepAllowed progress.state before after = false) preparationInvalid

def appliedPolicy (operation : OperationRecord) : Option RuntimePolicy :=
  match operation.command with
  | some (.setRecyclePolicy policy) => some policy
  | some (.start _) | some .restart => some { wakeOnTraffic := some true }
  | none | some (.create _) | some (.update _) | some (.deploy ..) =>
    operation.runtimePolicyOnSuccess
  | _ => none

def publishPolicy (app : LifecycleRecord) (policy : RuntimePolicy) :
    Except StoreError LifecycleRecord :=
  if app.runtimePolicy.merge policy ≠ app.runtimePolicy then do
    let revision ← demand (checkedSucc app.metadataRevision)
      (.invalidOperation "metadata revision exhausted")
    pure { app with metadataRevision := revision, runtimePolicy := app.runtimePolicy.merge policy }
  else pure app

def vacate (app : LifecycleRecord) (operation : OperationRecord) (state : OperationState) :
    LifecycleRecord :=
  { app with
    activeOperations := app.activeOperations.set operation.scope none
    state := if operation.kind.endsLifecycle then
        if state = .succeeded then .deleted else .active
      else app.state }

/-- What terminal progress does to the application. -/
def close (app : LifecycleRecord) (operation : OperationRecord) (state : OperationState) :
    Except StoreError LifecycleRecord := do
  let app ← match if state = .succeeded then appliedPolicy operation else none with
    | some policy => publishPolicy app policy
    | none => pure app
  pure (vacate app operation state)

def progressed (operation : OperationRecord) (progress : OperationProgress) (revision : Int) :
    OperationRecord :=
  { operation with
    revision
    state := progress.state
    step := progress.step
    checkpoint := progress.checkpoint
    errorCode := progress.errorCode
    errorMessage := progress.errorMessage }

def claimed (operation : OperationRecord) (progress : OperationProgress) :
    Except StoreError OperationRecord := do
  failIf (validateIdentifier progress.executorId "executor_id" ≠ .ok ())
    (.invalidOperation "invalid executor identity")
  let claim ← demand (authorizeProgressClaim operation.state progress.state
      (operation.executorId = some progress.executorId))
    (.invalidOperation "operation requires an exclusive execution claim")
  pure (if claim = .acquireExecutor then
    { operation with executorId := some progress.executorId } else operation)

def validateProgress (app : LifecycleRecord) (operation : OperationRecord)
    (progress : OperationProgress) : Except StoreError Unit := do
  failIf (operation.state.isTerminal ∨ progress.state = .pending ∨ progress.step = "")
    (.invalidOperation "invalid operation state transition")
  failIf (progress.state = .failed ∧ operation.kind.endsLifecycle ∧
      (operation.step ≠ "claimed" ∨ operation.checkpoint ≠ .null))
    (.invalidOperation "incomplete deletion requires recovery, not terminal failure")
  validateDeletionProgress operation progress
  validateStorageDestructionProgress operation progress
  validateStorageClearProgress app operation progress
  validateDatabasePasswordProgress operation progress
  validateDatabasePreparationProgress operation progress

def advance (app : LifecycleRecord) (operation : OperationRecord) (progress : OperationProgress) :
    Except StoreError (LifecycleRecord × OperationRecord) := do
  failIf (app.lifecycleId ≠ progress.lifecycleId ∨ operation.lifecycleId ≠ progress.lifecycleId)
    .lifecycleConflict
  failIf (app.activeOperations.slot operation.scope ≠ some operation.operationId ∨
    operation.revision ≠ progress.expectedRevision) .versionConflict
  let operation ← claimed operation progress
  validateProgress app operation progress
  let app ← if progress.state.isTerminal then close app operation progress.state else pure app
  let revision ← demand (checkedSucc operation.revision)
    (.invalidOperation "operation revision exhausted")
  pure (app, progressed operation progress revision)

end Domain

end Rcoder.Lifecycle
