import Rcoder.Lifecycle.Recovery

/-!
# The compute ledger: execution

What the executor of a control reports, and the transactions that continue or close a control
whose executor is gone. Apart from the cleanup of old receipts and the expiry of a deadline,
all of them act on the live control that the head of its scope names. The stages `stopped`,
`starting` and `verifying` can be written by an observation as well as by the executor.
-/

namespace Rcoder.Lifecycle

open Effect

namespace Execution

open Compute

def owns (control : ControlRecord) (identity : ExecutorIdentity) : Bool :=
  control.appId = identity.appId && control.lifecycleId = identity.lifecycleId &&
    control.scope = identity.scope && control.operationId = identity.operationId &&
    control.generation = identity.generation && control.executorId = some identity.executorId

def validateReceipt (scope : OperationScope) (receipt : LeaseReceipt) :
    Except StoreError Unit := do
  invalid receipt.validate
  let family ← demand scope.leaseFamily (invalidCompute "Invalid compute scope")
  failIf (receipt.serviceType ≠ family) (invalidCompute "Compute lease scope differs")

def identityOf (snapshot : ControlRecord) (executorId : String) : ExecutorIdentity where
  appId := snapshot.appId
  lifecycleId := snapshot.lifecycleId
  scope := snapshot.scope
  operationId := snapshot.operationId
  generation := snapshot.generation
  executorId

def nextRevision (revision : Int) : Except StoreError Int :=
  demand (checkedSucc revision) (invalidCompute "Compute revision exhausted")

def rewrite (snapshot : ControlRecord) (condition : ControlRecord → Bool)
    (change : ControlRecord → ControlRecord) : Tx Unit :=
  updateControl snapshot.operationId
    (fun row => row.revision = snapshot.revision && condition row) change

/-! ### The executor -/

def bindLease (identity : ExecutorIdentity) (receipt : LeaseReceipt) : Tx ControlRecord := do
  fromExcept (validateReceipt identity.scope receipt)
  claimApp identity.appId
  let record ← checkExecutor identity
  match record.lease with
  | some previous => do
    failIf (previous ≠ receipt) (invalidCompute "Compute lease is immutable")
    pure record
  | none => do
    rewrite record (·.lease.isNone) fun row =>
      { row with lease := some receipt, revision := row.revision + 1 }
    readControl identity.appId identity.operationId

def readTarget (observation : Bool) (checkpoint : Json) : Option BuilderControlTarget :=
  if observation then BuilderControlTarget.fromObservationCheckpoint checkpoint
  else BuilderControlTarget.read checkpoint

/-- A builder's restart keeps its target, unless its compute was found absent. -/
def checkBuilderTarget (record : ControlRecord) (progress : ControlProgress) :
    Except StoreError Unit :=
  if record.scope = .dev ∧ record.action = .restart ∧
      (record.checkpoint.get "context").isSome = true then do
    let observation := decide (ControlStage.fromStorageValue record.stage = some .verifying ∧
      progress.stage = .completed ∧ progress.state = .succeeded ∧
      record.checkpoint = progress.checkpoint)
    let original ← demand (readTarget observation record.checkpoint)
      (.storage "invalid checkpoint")
    let next ← demand (readTarget observation progress.checkpoint) (.storage "invalid checkpoint")
    let absent := progress.stage = .starting ∧ record.stoppedBuilderAbsence next = true ∧
      record.checkpoint.get "builder_volumes" = progress.checkpoint.get "builder_volumes"
    failIf (original.workload.isSome = true ∧ next.workload = none ∧ ¬absent)
      (invalidCompute "Builder recreation requires a stopped retained-volume boundary")
    failIf (original.restartRuntimeWorkspace ≠ next.restartRuntimeWorkspace ∧ ¬absent)
      (invalidCompute "Builder restart workspace intent is immutable")
  else pure ()

/-- Beyond draining, everything the control interrupted has ended. -/
def checkMutation (db : Store) (record : ControlRecord) (progress : ControlProgress) :
    Except StoreError Unit :=
  if progress.stage ≠ .drainingPrevious then do
    drained db record
    mapFailure (fun e => invalidCompute e.message)
      (validateMutationEvidence progress.stage record.lease.isSome progress.checkpoint.isObject)
  else pure ()

def progressed (progress : ControlProgress) (row : ControlRecord) : ControlRecord :=
  { row with
    state := progress.state
    stage := progress.stage.asStr
    checkpoint := progress.checkpoint
    errorCode := progress.errorCode
    errorMessage := progress.errorMessage
    revision := row.revision + 1 }

def restoreWakePolicy (identity : ExecutorIdentity) : Tx Unit := do
  let app ← readApp identity.appId
  let revision ← demand (checkedSucc app.metadataRevision)
    (invalidCompute "Metadata revision exhausted")
  saveApp { app with
      runtimePolicy := { app.runtimePolicy with wakeOnTraffic := some true }
      metadataRevision := revision } identity.lifecycleId app.metadataRevision

def advanceControl (progress : ControlProgress) : Tx ControlRecord := do
  let identity := progress.identity
  claimApp identity.appId
  let record ← checkExecutor identity
  failIf (record.revision ≠ progress.expectedRevision) .versionConflict
  fromExcept (mapFailure (fun e => invalidCompute e.message)
    (validateProgressTransition record.action (ControlStage.fromStorageValue record.stage)
      progress.state progress.stage (DiagnosticValue.fromOption progress.errorCode)
      (DiagnosticValue.fromOption progress.errorMessage) record.lease.isSome))
  reads fun db => checkMutation db record progress
  fromExcept (checkBuilderTarget record progress)
  rewrite record (fun row => row.executorId = some identity.executorId && row.state = .running)
    (progressed progress)
  onlyIf (progress.state = .succeeded ∧ record.action = .restart ∧ identity.scope = .prod)
    (restoreWakePolicy identity)
  readControl identity.appId identity.operationId

/-- Receipts of ended controls are forgotten whatever the head names now. -/
def forgetLease (identity : ExecutorIdentity) (receipt : LeaseReceipt) : Tx Unit := do
  fromExcept (validateReceipt identity.scope receipt)
  claimApp identity.appId
  let record ← readControl identity.appId identity.operationId
  failIf (owns record identity = false ∨ (record.state ≠ .succeeded ∧ record.state ≠ .failed))
    .versionConflict
  match record.lease with
  | none => pure ()
  | some stored => do
    failIf (stored ≠ receipt) .versionConflict
    rewrite record (fun _ => true) fun row =>
      { row with lease := none, revision := row.revision + 1 }

/-! ### Closing a superseded executor -/

def conditionalWriteFenced (record : ControlRecord) (stage : String) (checkpoint : Json) : Bool :=
  record.action = .restart && record.stage = stage && record.lease.isSome &&
    checkpoint = record.checkpoint && record.hasConditionalComputeWrite &&
    match record.scope with
    | .prod => (ComputeStartTarget.read checkpoint).any fun target =>
        target.volumes ≠ [] && record.executes target.target.context
    | .dev => (BuilderControlTarget.read checkpoint).any fun target =>
        target.validate = .ok () && target.workload.any (·.kind = .statefulSet) &&
          record.executes target.context
    | .application => false

/-- The evidence shows that the superseded executor has no write under way. -/
def drainConfirmed (record : ControlRecord) : DrainEvidence → Bool
  | .noMutationSubmitted => record.stage = "draining_previous"
  | .persistedRuntimeAcknowledgement checkpoint =>
    record.action = .restart && (record.stage = "starting" || record.stage = "stopping") &&
      record.lease.isSome && checkpoint = record.checkpoint &&
      (record.hasDockerComputeTarget ||
        (record.stage = "starting" && record.retainedBuilderCreation))
  | .conditionalStartupFenced checkpoint => conditionalWriteFenced record "starting" checkpoint
  | .conditionalStopFenced checkpoint => conditionalWriteFenced record "stopping" checkpoint
  | .persistedMutationBoundary checkpoint =>
    record.action = .restart && (record.stage = "stopped" || record.stage = "verifying") &&
      record.lease.isSome && checkpoint.isObject && checkpoint = record.checkpoint
  | .mutationCompleted checkpoint => record.lease.isSome && checkpoint.isObject

def acknowledgeDrain (identity : ExecutorIdentity) (expectedRevision : Int)
    (evidence : DrainEvidence) : Tx ControlRecord := do
  claimApp identity.appId
  let record ← readControl identity.appId identity.operationId
  failIf (owns record identity = false ∨ record.revision ≠ expectedRevision ∨
    record.state ≠ .superseded) .versionConflict
  failIf (drainConfirmed record evidence = false)
    (invalidCompute "Superseded compute executor has no confirmed drain evidence")
  rewrite record (fun row => row.state = .superseded && row.executorId = some identity.executorId)
    fun row => { row with
      state := .failed
      stage := "superseded_drained"
      checkpoint := Json.object [("previous", record.checkpoint), ("drain", evidence.encode)]
      errorCode := some "ERR_CANCELLED"
      errorMessage := some "Superseded executor confirmed drained"
      revision := row.revision + 1 }
  readControl identity.appId identity.operationId

def closesInterrupted (control : ControlRecord) (operation : OperationRecord) : Bool :=
  operation.lifecycleId = control.lifecycleId && !operation.kind.endsLifecycle &&
    control.interruptedOperations.contains operation.operationId &&
    Recovery.isRecovering operation && operation.hasDrainEvidence

/-- `finalize_interrupted`: proven effects of an interrupted operation end as a cancellation. -/
def finalizeInterrupted (identity : ExecutorIdentity) (snapshot : OperationRecord) :
    Tx OperationRecord := do
  claimApp identity.appId
  let control ← currentControl identity
  failIf (owns control identity = false ∨ ¬(control.state = .running ∨
    (control.state = .recoveryRequired ∧ control.canRecoverComputeDrain = true))) .versionConflict
  let operation ← readOperation identity.appId snapshot.operationId
  failIf (operation ≠ snapshot ∨ closesInterrupted control operation = false) .versionConflict
  let running ← Recovery.resumeRunning operation
  let executorId ← demand running.executorId .versionConflict
  Operations.advance (Recovery.report running executorId .failed "interrupted_effects_confirmed"
    running.checkpoint (some "COMPUTE_INTERRUPTED")
    (some ("Interrupted by compute operation " ++ identity.operationId ++
      " after effects were confirmed")))

/-! ### Confirmed outcomes -/

def isRecovering (control : ControlRecord) : Bool :=
  control.state = .running || control.state = .recoveryRequired

def currentSnapshot (snapshot : ControlRecord) (executorId : String) : Tx Unit := do
  let actual ← currentControl (identityOf snapshot executorId)
  failIf (actual ≠ snapshot) .versionConflict

def isConfirmed (control : ControlRecord) : Bool :=
  match control.action with
  | .stop => control.stage = "stopped"
  | .restart => control.stage = "verifying"

/-- `finalize_confirmed`: the claim of the state `running` is solely for the commit. -/
def finalizeConfirmed (snapshot : ControlRecord) : Tx ControlRecord := do
  claimApp snapshot.appId
  let executorId ← demand snapshot.executorId .versionConflict
  currentSnapshot snapshot executorId
  failIf (snapshot.lease = none ∨ isRecovering snapshot = false ∨ isConfirmed snapshot = false)
    .versionConflict
  let revision ← fromExcept (nextRevision snapshot.revision)
  rewrite snapshot (fun _ => true) fun row => { row with state := .running, revision }
  advanceControl
    { identity := identityOf snapshot executorId
      expectedRevision := revision
      state := .succeeded
      stage := .completed
      checkpoint := snapshot.checkpoint }

def validStopTarget (snapshot : ControlRecord) (context : ExecutionContext) :
    Except StoreError Bool := do
  let observed ← demand
    (ComputeStopObservation.fromCheckpoint snapshot.checkpoint snapshot.scope)
    (.storage "invalid checkpoint")
  match observed with
  | .absent _ => pure (observed.context = context)
  | .orphan orphan => do
    invalid orphan.validate
    pure (observed.context = context)
  | .builder target => do
    invalid target.validate
    pure (observed.context = context && target.workload.any fun workload =>
      workload.kind = .statefulSet || workload.kind = .container)
  | .application target => pure (observed.context = context &&
      (target.resource.kind = .deployment || target.resource.kind = .container))

def validStartTarget (snapshot : ControlRecord) (context : ExecutionContext) (created : Bool) :
    Except StoreError Bool :=
  match snapshot.scope with
  | .prod => do
    let target ← demand (MutationTarget.read snapshot.checkpoint) (.storage "invalid checkpoint")
    pure (target.context = context &&
      (target.resource.kind = .deployment || target.resource.kind = .container))
  | .dev => do
    let target ← demand (BuilderControlTarget.fromObservationCheckpoint snapshot.checkpoint)
      (.storage "invalid checkpoint")
    invalid target.validate
    pure (target.context = context && (created || target.workload.any fun workload =>
      workload.kind = .statefulSet || workload.kind = .container))
  | .application => pure false

def observedStages : ControlAction → String × String
  | .stop => ("stopping", "stopped")
  | .restart => ("starting", "verifying")

def overlay (checkpoint : Json) : Json.Fields → Except StoreError Json
  | .nil => pure checkpoint
  | .cons key value rest => do
    let checkpoint ← Recovery.annotated checkpoint key value
    overlay checkpoint rest

def observedCheckpoint (checkpoint : Json) : Option BuilderControlTarget → Except StoreError Json
  | none => pure checkpoint
  | some observed =>
    match observed.encode with
    | .obj fields => overlay checkpoint fields
    | _ => throw (invalidCompute "Observed builder target is not an object")

def validObservedTarget (snapshot : ControlRecord) (action : ControlAction)
    (context : ExecutionContext) (created : Bool) : Except StoreError Bool :=
  match action with
  | .stop => validStopTarget snapshot context
  | .restart => validStartTarget snapshot context created

/-- `finalize_observed`: no mutation is replayed. -/
def finalizeObserved (snapshot : ControlRecord) (action : ControlAction)
    (creation : Option BuilderControlTarget) : Tx ControlRecord := do
  claimApp snapshot.appId
  let context ← fromExcept (invalid snapshot.executionContext)
  let valid ← fromExcept (validObservedTarget snapshot action context creation.isSome)
  failIf (snapshot.action ≠ action ∨ snapshot.stage ≠ (observedStages action).1 ∨
      snapshot.lease = none ∨ isRecovering snapshot = false ∨ valid = false)
    (invalidCompute "Invalid observed compute recovery snapshot")
  currentSnapshot snapshot context.executorId
  let revision ← fromExcept (nextRevision snapshot.revision)
  let checkpoint ← fromExcept (observedCheckpoint snapshot.checkpoint creation)
  rewrite snapshot (fun _ => true) fun row =>
    { row with state := .running, stage := (observedStages action).2, revision, checkpoint }
  let confirmed ← currentControl (identityOf snapshot context.executorId)
  finalizeConfirmed confirmed

def finalizeObservedStop (snapshot : ControlRecord) : Tx ControlRecord :=
  finalizeObserved snapshot .stop none

def finalizeObservedRestart (snapshot : ControlRecord) : Tx ControlRecord :=
  finalizeObserved snapshot .restart none

def createsIntended (snapshot : ControlRecord) (original observed : BuilderControlTarget)
    (volumes expected : List ResourceIdentity) : Bool :=
  snapshot.retainedBuilderVolumeEvidence && original.workload.isNone && original.pod.isNone &&
    original.resourceBinding.isNone && observed.context = original.context &&
    observed.workload.any (·.kind = .statefulSet) && observed.pod.isSome &&
    (observed.resourceBinding.all fun binding => binding.serviceType = .userappBuilder) &&
    observed.restartImage = original.restartImage &&
    observed.restartRuntimeWorkspace = original.restartRuntimeWorkspace &&
    observed.builderStartupMode = original.builderStartupMode && volumes = expected

def finalizeObservedCreation (snapshot : ControlRecord) (observed : BuilderControlTarget)
    (volumes : List ResourceIdentity) : Tx ControlRecord := do
  let original ← demand (BuilderControlTarget.fromObservationCheckpoint snapshot.checkpoint)
    (.storage "invalid checkpoint")
  fromExcept (invalid original.validate)
  fromExcept (invalid observed.validate)
  let document ← demand (snapshot.checkpoint.get "builder_volumes")
    (invalidCompute "Original retained volumes missing")
  let expected ← demand (Json.list ResourceIdentity.read document) (.storage "invalid checkpoint")
  failIf (createsIntended snapshot original observed volumes expected = false)
    (invalidCompute "Observed builder creation differs from original intent or retained data")
  finalizeObserved snapshot .restart (some observed)

/-! ### The stop boundary of a restart -/

def isDockerBuilder : LeaseReceipt → Bool
  | .docker serviceType .. => serviceType = .userappBuilder
  | .kubernetes .. => false

def isKubernetes : LeaseReceipt → Bool
  | .kubernetes .. => true
  | .docker .. => false

def isStoppingBuilderRestart (snapshot : ControlRecord) : Bool :=
  snapshot.scope = .dev && snapshot.action = .restart && snapshot.stage = "stopping" &&
    isRecovering snapshot

def capturedTarget (snapshot : ControlRecord) (missing : String) :
    Except StoreError (BuilderControlTarget × List ResourceIdentity) := do
  let original ← demand (BuilderControlTarget.fromObservationCheckpoint snapshot.checkpoint)
    (.storage "invalid checkpoint")
  let document ← demand (snapshot.checkpoint.get "builder_volumes")
    (invalidCompute missing)
  let volumes ← demand (Json.list ResourceIdentity.read document) (.storage "invalid checkpoint")
  pure (original, volumes)

def stillStopping (executorId : String) (row : ControlRecord) : Bool :=
  row.executorId = some executorId && row.stage = "stopping" && isRecovering row

def checkBoundary (snapshot : ControlRecord) (executorId : String) : Tx Unit := do
  currentSnapshot snapshot executorId
  reads fun db => drained db snapshot

def confirmStopped (snapshot : ControlRecord) (executorId key : String) (evidence : Json) :
    Tx ControlRecord := do
  checkBoundary snapshot executorId
  let revision ← fromExcept (nextRevision snapshot.revision)
  failIf (snapshot.checkpoint.isObject = false)
    (invalidCompute "Builder checkpoint must be an object")
  let checkpoint ← fromExcept (Recovery.annotated snapshot.checkpoint key evidence)
  rewrite snapshot (stillStopping executorId) fun row =>
    { row with stage := "stopped", checkpoint, revision }
  currentControl (identityOf snapshot executorId)

def confirmBuilderRestartStopped (snapshot : ControlRecord)
    (observation : BuilderRestartStopObservation) : Tx ControlRecord := do
  claimApp snapshot.appId
  fromExcept (invalid observation.validate)
  let context ← fromExcept (invalid snapshot.executionContext)
  let lease ← demand snapshot.lease .versionConflict
  fromExcept (validateReceipt snapshot.scope lease)
  let (original, volumes) ← fromExcept
    (capturedTarget snapshot "Original builder mount witness missing")
  failIf (isStoppingBuilderRestart snapshot = false ∨ isDockerBuilder lease = false ∨
      original ≠ observation.target ∨ original.context ≠ context ∨ volumes ≠ observation.volumes)
    (invalidCompute "Invalid original Docker Restart stop observation")
  confirmStopped snapshot context.executorId builderRestartStopObservationKey
    (restartStopRecoveryEvidence snapshot observation none)

def confirmKubernetesRestartStopped (snapshot : ControlRecord)
    (evidence : KubernetesRestartStopEvidence) : Tx ControlRecord := do
  claimApp snapshot.appId
  let context ← fromExcept (invalid snapshot.executionContext)
  let lease ← demand snapshot.lease .versionConflict
  fromExcept (validateReceipt snapshot.scope lease)
  let original ← demand (BuilderControlTarget.fromObservationCheckpoint snapshot.checkpoint)
    (.storage "invalid checkpoint")
  failIf (isStoppingBuilderRestart snapshot = false ∨ isKubernetes lease = false ∨
      original.workload.any (·.kind = .statefulSet) = false ∨ original.context ≠ context)
    (invalidCompute "Invalid original Kubernetes Restart stop confirmation")
  confirmStopped snapshot context.executorId kubernetesRestartStopConfirmationKey
    (kubernetesStopConfirmation snapshot evidence)

def unrebuildableReason (reference : Option Json) (original : BuilderControlTarget)
    (volumes : List ResourceIdentity) (unavailable : Option BuilderRestartArchiveUnavailable) :
    Except StoreError UnrebuildableReason :=
  match reference with
  | none => do
    failIf (unavailable.isSome = true)
      (invalidCompute "Unavailable recipe witness has no original reference")
    pure .missingArchive
  | some value =>
    match BuilderRestartTemplate.read value with
    | none => do
      failIf (unavailable.isSome = true)
        (invalidCompute "Unavailable recipe witness cannot replace an unreadable reference")
      pure .unreadableArchive
    | some template =>
      if template.archives original volumes then do
        let witness ← demand unavailable
          (invalidCompute "A readable recipe needs positive runtime unavailability")
        failIf (witness.template ≠ template ∨ witness.template.encode ≠ value)
          (invalidCompute "Unavailable recipe witness differs from the original private archive")
        pure .archiveUnavailable
      else do
        failIf (unavailable.isSome = true)
          (invalidCompute "An unbound historical recipe cannot borrow a runtime witness")
        pure .unreadableArchive

/-- `fail_unrebuildable_builder_restart`: the captured container is gone and nothing can bring
it back. -/
def failUnrebuildableBuilderRestart (snapshot : ControlRecord)
    (observation : BuilderRestartStopObservation)
    (unavailable : Option BuilderRestartArchiveUnavailable) : Tx ControlRecord := do
  claimApp snapshot.appId
  fromExcept (invalid observation.validate)
  let context ← fromExcept (invalid snapshot.executionContext)
  let lease ← demand snapshot.lease .versionConflict
  fromExcept (validateReceipt snapshot.scope lease)
  let (original, volumes) ← fromExcept
    (capturedTarget snapshot "Original builder mounts missing")
  failIf (isStoppingBuilderRestart snapshot = false ∨ isDockerBuilder lease = false ∨
      observation.kind ≠ .capturedContainerAbsent ∨ original ≠ observation.target ∨
      original.context ≠ context ∨ volumes ≠ observation.volumes)
    (invalidCompute "Unrebuildable restart requires original pre-start Docker Container absence")
  let reason ← fromExcept (unrebuildableReason
    (snapshot.checkpoint.get "builder_restart_template") original volumes unavailable)
  checkBoundary snapshot context.executorId
  let checkpoint ← fromExcept (Recovery.annotated snapshot.checkpoint
    builderRestartStopObservationKey (restartStopRecoveryEvidence snapshot observation
      (some (unrebuildableEvidence reason observation unavailable))))
  let revision ← fromExcept (nextRevision snapshot.revision)
  rewrite snapshot (stillStopping context.executorId) fun row =>
    { row with state := .failed, stage := "stopped", checkpoint, revision }
  readControl snapshot.appId snapshot.operationId

/-! ### Continuing a stopped restart -/

def continueStart (snapshot : ControlRecord) (executorId : String) (checkpoint : Json) :
    Tx ControlRecord := do
  let revision ← fromExcept (nextRevision snapshot.revision)
  rewrite snapshot (fun _ => true) fun row =>
    { row with
      state := .running
      stage := "starting"
      checkpoint
      errorCode := none
      errorMessage := none
      revision }
  currentControl (identityOf snapshot executorId)

def restoredApplication (snapshot : ControlRecord) (old : MutationTarget) : Bool :=
  match old.resource.kind with
  | .deployment =>
    ((snapshot.checkpoint.get "app_restart_template").bind AppRestartTemplate.read).any
      fun template => template.source = old && template.archive.kind = .secret &&
        template.archive.uid ≠ ""
  | .container => (ComputeStartTarget.read snapshot.checkpoint).any fun captured =>
      captured.volumes ≠ [] && captured.restartImage.any (· ≠ "")
  | _ => false

def continuesApplication (snapshot : ControlRecord) (context : ExecutionContext)
    (old target : MutationTarget) : Bool :=
  let restored := snapshot.stage = "stopped" && old.resource.uid ≠ target.resource.uid &&
    restoredApplication snapshot old
  snapshot.action = .restart && snapshot.scope = .prod &&
    (snapshot.stage = "stopped" || snapshot.stage = "starting") && snapshot.lease.isSome &&
    isRecovering snapshot && old.context = context && target.context = context &&
    (target.resource.kind = .deployment ||
      (snapshot.stage = "stopped" && target.resource.kind = .container)) &&
    old.resource.kind = target.resource.kind && target.resource.uid ≠ "" &&
    (old.resource.uid = target.resource.uid || restored) &&
    old.resource.name = target.resource.name

/-- A start that was submitted before is repeated only as a single write. -/
def checkStartRetry (snapshot : ControlRecord) : Except StoreError Unit :=
  if snapshot.stage = "starting" then do
    let captured ← demand (ComputeStartTarget.read snapshot.checkpoint)
      (.storage "invalid checkpoint")
    failIf (captured.computeStartSingleWrite = false ∨ captured.volumes.isEmpty = true)
      (invalidCompute "Restart retry requires the original single-write volume witness")
  else pure ()

def resumeStoppedRestart (snapshot : ControlRecord) (target : MutationTarget) :
    Tx ControlRecord := do
  claimApp snapshot.appId
  let context ← fromExcept (invalid snapshot.executionContext)
  let old ← demand (MutationTarget.read snapshot.checkpoint) (.storage "invalid checkpoint")
  failIf (continuesApplication snapshot context old target = false)
    (invalidCompute "Invalid restart continuation target")
  fromExcept (checkStartRetry snapshot)
  currentSnapshot snapshot context.executorId
  let checkpoint ← fromExcept
    (Recovery.annotated snapshot.checkpoint "resource" target.resource.encode)
  continueStart snapshot context.executorId checkpoint

def capturesStopped (snapshot : ControlRecord) (context : ExecutionContext)
    (original source : BuilderControlTarget) (old current : ResourceIdentity)
    (template : BuilderRestartTemplate) (volumes : List ResourceIdentity) : Bool :=
  snapshot.scope = .dev && snapshot.action = .restart && snapshot.stage = "stopped" &&
    isRecovering snapshot && snapshot.lease.isSome && old.kind = .container &&
    old.kind = current.kind && old.uid = current.uid && old.name = current.name &&
    original.context = context && source.context = context &&
    original.resourceBinding = source.resourceBinding &&
    original.restartImage = source.restartImage &&
    original.restartRuntimeWorkspace = source.restartRuntimeWorkspace &&
    original.builderStartupMode = source.builderStartupMode && source.pod.isNone &&
    template.archives source volumes && volumes ≠ []

def templateHistory (checkpoint : Json) : Except StoreError Json :=
  let prior := checkpoint.get "builder_restart_template"
  let entry := Json.object [("was_present", .bool prior.isSome), ("value", prior.getD .null)]
  match (checkpoint.get "builder_restart_template_history").getD (Json.array []) with
  | .arr items => pure (Json.array (items.toList ++ [entry]))
  | _ => throw (invalidCompute "Builder restart reference history must be an array")

def archivedCheckpoint (snapshot : ControlRecord) (source : BuilderControlTarget)
    (template : BuilderRestartTemplate) : Except StoreError Json := do
  failIf (snapshot.checkpoint.isObject = false)
    (invalidCompute "Builder checkpoint must be an object")
  let history ← templateHistory snapshot.checkpoint
  let checkpoint ← Recovery.annotated snapshot.checkpoint "builder_restart_template_history" history
  let checkpoint ← Recovery.annotated checkpoint "builder_restart_template" template.encode
  match source.encode with
  | .obj fields => overlay checkpoint fields
  | _ => throw (invalidCompute "Builder source must be an object")

/-- Bookkeeping of the archive; no write is granted. -/
def captureStoppedBuilderTemplate (snapshot : ControlRecord) (source : BuilderControlTarget)
    (template : BuilderRestartTemplate) : Tx ControlRecord := do
  claimApp snapshot.appId
  let context ← fromExcept (invalid snapshot.executionContext)
  let original ← demand (BuilderControlTarget.read snapshot.checkpoint)
    (.storage "invalid checkpoint")
  fromExcept (invalid original.validate)
  fromExcept (invalid source.validate)
  let old ← demand original.workload (invalidCompute "Original retained builder missing")
  let current ← demand source.workload (invalidCompute "Retained builder source missing")
  let document ← demand (snapshot.checkpoint.get "builder_volumes")
    (invalidCompute "Original builder volume witness missing")
  let volumes ← demand (Json.list ResourceIdentity.read document) (.storage "invalid checkpoint")
  failIf (capturesStopped snapshot context original source old current template volumes = false)
    (invalidCompute "Invalid stopped builder archive capture witness")
  checkBoundary snapshot context.executorId
  let revision ← fromExcept (nextRevision snapshot.revision)
  let checkpoint ← fromExcept (archivedCheckpoint snapshot source template)
  rewrite snapshot (fun _ => true) fun row => { row with checkpoint, revision }
  currentControl (identityOf snapshot context.executorId)

def restoredBuilder (snapshot : ControlRecord) (old target : BuilderControlTarget)
    (original : ResourceIdentity) : Except StoreError Bool := do
  let document ← demand (snapshot.checkpoint.get "builder_restart_template")
    (invalidCompute "Restart template missing")
  let template ← demand (BuilderRestartTemplate.read document) (.storage "invalid checkpoint")
  pure (template.source = old &&
    ((original.kind = .statefulSet && template.archive.kind = .secret) ||
      (original.kind = .container && template.archive.kind = .file)) &&
    template.archive.uid ≠ "" && template.volumes ≠ [] && target.resourceBinding.isNone)

def samePhysicalIntent (snapshot : ControlRecord) (old target : BuilderControlTarget) :
    Except StoreError Bool :=
  match old.workload, target.workload with
  | some original, some workload => do
    let restored ← if snapshot.stage = "stopped" ∧ original.uid ≠ workload.uid then
        restoredBuilder snapshot old target original
      else pure false
    pure ((workload.kind = .statefulSet ||
        (snapshot.stage = "stopped" && workload.kind = .container)) &&
      original.kind = workload.kind && (original.uid = workload.uid || restored) &&
      original.name = workload.name &&
      (old.resourceBinding = target.resourceBinding || restored))
  | none, none => pure (snapshot.retainedBuilderCreation && target.resourceBinding.isNone)
  | some _, none => pure (snapshot.stoppedBuilderAbsence target)
  | none, some _ => pure false

def continuesBuilder (snapshot : ControlRecord) (context : ExecutionContext)
    (old target : BuilderControlTarget) (sameIntent : Bool) : Bool :=
  snapshot.action = .restart && snapshot.scope = .dev &&
    (snapshot.stage = "stopped" || (snapshot.stage = "starting" &&
      (snapshot.hasConditionalComputeWrite ||
        (old.workload.isNone && target.workload.isNone)))) &&
    snapshot.lease.isSome && isRecovering snapshot && old.context = context &&
    target.context = context && sameIntent && target.restartImage = old.restartImage &&
    (target.restartRuntimeWorkspace = old.restartRuntimeWorkspace ||
      snapshot.stoppedBuilderAbsence target) &&
    target.builderStartupMode = old.builderStartupMode && target.pod.isNone

def keptWitnesses (snapshot : ControlRecord) : List (String × Json) :=
  ["builder_volumes", "builder_restart_template", "builder_restart_template_history",
    "builder_startup_mode", builderRestartStopObservationKey,
    kubernetesRestartStopConfirmationKey].filterMap fun key =>
      (snapshot.checkpoint.get key).map fun value => (key, value)

def continuedCheckpoint (snapshot : ControlRecord) (target : BuilderControlTarget) :
    Except StoreError Json := do
  let single := if target.workload.isSome ∧ snapshot.hasConditionalComputeWrite then
    [("builder_compute_single_write", Json.bool true)] else []
  (single ++ keptWitnesses snapshot).foldlM (fun checkpoint entry =>
    Recovery.annotated checkpoint entry.1 entry.2) target.encode

def resumeBuilderRestart (snapshot : ControlRecord) (target : BuilderControlTarget) :
    Tx ControlRecord := do
  claimApp snapshot.appId
  let context ← fromExcept (invalid snapshot.executionContext)
  let old ← demand (BuilderControlTarget.read snapshot.checkpoint) (.storage "invalid checkpoint")
  fromExcept (invalid old.validate)
  fromExcept (invalid target.validate)
  let sameIntent ← fromExcept (samePhysicalIntent snapshot old target)
  failIf (continuesBuilder snapshot context old target sameIntent = false)
    (invalidCompute "Invalid stopped builder continuation witness")
  currentSnapshot snapshot context.executorId
  let checkpoint ← fromExcept (continuedCheckpoint snapshot target)
  continueStart snapshot context.executorId checkpoint

def markArchiveCleaned (snapshot : ControlRecord) : Tx Unit := do
  let record ← readControl snapshot.appId snapshot.operationId
  failIf (record ≠ snapshot ∨ record.state ≠ .succeeded ∨ record.lease ≠ none ∨
    record.checkpoint.get "builder_restart_template" = none) .versionConflict
  let checkpoint ← fromExcept
    (Recovery.annotated record.checkpoint "builder_restart_archive_cleaned" (.bool true))
  rewrite record (fun row => row.state = .succeeded && row.lease.isNone) fun row =>
    { row with checkpoint, revision := row.revision + 1 }

/-! ### Recovery of the early phase -/

def currentDrain (snapshot : ControlRecord) : Tx Unit := do
  claimApp snapshot.appId
  let executorId ← demand snapshot.executorId .versionConflict
  currentSnapshot snapshot executorId
  failIf (snapshot.canRecoverComputeDrain = false) .versionConflict

def reserveDrain (snapshot : ControlRecord) : Tx ControlRecord := do
  currentDrain snapshot
  rewrite snapshot
    (fun row => row.state = snapshot.state && row.executorId = snapshot.executorId) fun row =>
    { row with
      state := .recoveryRequired
      errorCode := some "COMPUTE_RECOVERING"
      errorMessage := some "Continuing original compute operation after early execution handoff"
      revision := row.revision + 1 }
  readControl snapshot.appId snapshot.operationId

def LeaseReceipt.token : LeaseReceipt → String
  | .docker _ _ _ token => token
  | .kubernetes _ _ _ _ _ token => token

def belongsToAttempt (snapshot : ControlRecord) (receipt : LeaseReceipt)
    (attempt : ExecutionContext) : Bool :=
  snapshot.scope.leaseFamily = some receipt.serviceType &&
    attempt.lifecycleId = snapshot.lifecycleId && attempt.operationId = snapshot.operationId &&
    attempt.requestFingerprint = snapshot.requestFingerprint &&
    attempt.executorId = LeaseReceipt.token receipt

def captureDrain (snapshot : ControlRecord) (receipt : LeaseReceipt)
    (attempt : ExecutionContext) : Tx ControlRecord := do
  fromExcept (invalid (attempt.validateIdentity snapshot.appId))
  currentDrain snapshot
  failIf (snapshot.state ≠ .recoveryRequired) .versionConflict
  fromExcept (invalid receipt.validate)
  failIf (belongsToAttempt snapshot receipt attempt = false)
    (invalidCompute "Recovered compute lease belongs to another attempt")
  match snapshot.lease with
  | some previous => do
    failIf (previous ≠ receipt) .versionConflict
    pure snapshot
  | none => do
    rewrite snapshot (fun row => row.state = .recoveryRequired && row.lease.isNone) fun row =>
      { row with lease := some receipt, revision := row.revision + 1 }
    readControl snapshot.appId snapshot.operationId

/-- `resume`: a drained control without a lease can be claimed again. -/
def resumeDrain (snapshot : ControlRecord) (released : Option LeaseReceipt) :
    Tx ControlRecord := do
  currentDrain snapshot
  failIf (snapshot.state ≠ .recoveryRequired ∨ snapshot.lease ≠ released) .versionConflict
  reads fun db => drained db snapshot
  rewrite snapshot (·.state = .recoveryRequired) fun row =>
    { row with
      state := .pending
      executorId := none
      lease := none
      stage := "accepted"
      errorCode := none
      errorMessage := none
      revision := row.revision + 1 }
  readControl snapshot.appId snapshot.operationId

def recordDrainProblem (snapshot : ControlRecord) (code message : String) : Tx ControlRecord := do
  currentDrain snapshot
  failIf (snapshot.state ≠ .recoveryRequired) .versionConflict
  if snapshot.errorCode = some code ∧ snapshot.errorMessage = some message then pure snapshot
  else do
    rewrite snapshot (·.state = .recoveryRequired) fun row =>
      { row with errorCode := some code, errorMessage := some message,
                 revision := row.revision + 1 }
    readControl snapshot.appId snapshot.operationId

def failed (code message : String) (row : ControlRecord) : ControlRecord :=
  { row with
    state := .failed
    errorCode := some code
    errorMessage := some message
    revision := row.revision + 1 }

def failUnrecoverable (snapshot : ControlRecord) (code message : String) : Tx ControlRecord := do
  currentDrain snapshot
  failIf (snapshot.state.isTerminal = true) .versionConflict
  rewrite snapshot (·.state = .recoveryRequired) (failed code message)
  readControl snapshot.appId snapshot.operationId

/-! ### Deadlines -/

def insertDeadline (snapshot : ControlRecord) (deadlineMs : Int) : Tx Int := do
  let actual ← readControl snapshot.appId snapshot.operationId
  failIf (actual.lifecycleId ≠ snapshot.lifecycleId ∨ actual.generation ≠ snapshot.generation ∨
    actual.scope ≠ snapshot.scope ∨ actual.state.isTerminal = true) .versionConflict
  let row : DeadlineRow :=
    ⟨snapshot.operationId, snapshot.appId, snapshot.lifecycleId, deadlineMs, none⟩
  modify fun db => { db with controlDeadlines := db.controlDeadlines.insert row }
  pure deadlineMs

def bindDeadline (snapshot : ControlRecord) (deadlineMs : Int) : Tx Int := do
  failIf (deadlineMs ≤ 0) (invalidCompute "Compute control deadline must be positive")
  claimApp snapshot.appId
  let db ← get
  match db.controlDeadlines.find? snapshot.operationId with
  | some row => do
    failIf (row.appId ≠ snapshot.appId ∨ row.lifecycleId ≠ snapshot.lifecycleId) .lifecycleConflict
    pure row.deadlineMs
  | none => insertDeadline snapshot deadlineMs

/-- The deadline has passed by `nowMs`, and the lease is observed unheld since `unheldMs`. -/
def checkExpiry (db : Store) (snapshot : ControlRecord) (unheldMs nowMs : Int) :
    Except StoreError Unit := do
  let found := db.controlDeadlines.find? snapshot.operationId
  failIf (((found.filter (·.appId = snapshot.appId)).any (·.deadlineMs ≤ nowMs)) = false)
    (invalidCompute "Compute control deadline has not expired")
  failIf (found.any (·.unheldObservedMs = some unheldMs) = false) .versionConflict

/-- `expire`: the last resort does not ask for the head, the application or an executor. -/
def expire (snapshot : ControlRecord) (code message : String) (unheldMs nowMs : Int) :
    Tx ControlRecord := do
  claimApp snapshot.appId
  let actual ← readControl snapshot.appId snapshot.operationId
  failIf (actual ≠ snapshot ∨ actual.state.isTerminal = true) .versionConflict
  reads fun db => checkExpiry db snapshot unheldMs nowMs
  rewrite snapshot isRecovering (failed code message)
  readControl snapshot.appId snapshot.operationId

def setUnheld (row : DeadlineRow) (unheldObservedMs : Option Int) : Tx Unit :=
  modify fun db => { db with
    controlDeadlines := db.controlDeadlines.set { row with unheldObservedMs } }

def anchorUnheld (snapshot : ControlRecord) (row : DeadlineRow) (observedMs : Int) : Tx Int := do
  let actual ← readControl snapshot.appId snapshot.operationId
  failIf (actual ≠ snapshot ∨ actual.state.isTerminal = true) .versionConflict
  setUnheld row (some observedMs)
  pure observedMs

def markUnheld (snapshot : ControlRecord) (observedMs : Int) : Tx Int := do
  let db ← get
  let row ← demand (db.controlDeadlines.find? snapshot.operationId)
    (invalidCompute "Unheld observation requires a bound compute control deadline")
  failIf (row.appId ≠ snapshot.appId ∨ row.lifecycleId ≠ snapshot.lifecycleId) .lifecycleConflict
  match row.unheldObservedMs with
  | some anchor => pure anchor
  | none => anchorUnheld snapshot row observedMs

def clearUnheld (snapshot : ControlRecord) : Tx Unit := do
  let db ← get
  match db.controlDeadlines.find? snapshot.operationId with
  | none => pure ()
  | some row => setUnheld row none

end Execution

end Rcoder.Lifecycle
