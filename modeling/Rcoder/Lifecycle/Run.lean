import Rcoder.Lib.Machine
import Rcoder.Lifecycle.ExecutionMoves

/-!
# Runs of the store

The transactions of the store's interface that change it, as the inputs of a machine that starts
empty. Each is committed or rolled back as a whole, so a run is a sequence of them in any order.
What holds of every move of the ledger holds along every run.
-/

namespace Rcoder.Lifecycle

open Effect Ledger Quiet

inductive Op
  -- applications
  | ensureIdentity (appId : String) (fresh : Fresh)
  | restoreStorageIdentity (storage : Operations.RetainedStorage) (fresh : Fresh)
  | restoreIdentity (found : DiscoveredIdentity) (now : Int)
  | patchMetadata (patch : MetadataPatch)
  | recreate (appId expectedLifecycleId requestId : String) (fresh : Fresh)
  | flushBatch (reports : List Operations.ActivityReport)
  | deleteActivity (appId lifecycleId : String)
  -- configuration
  | saveConfiguration (appId : String) (scope : OperationScope)
      (request : Configuration.SaveRequest)
  | bindConfiguration (context : ExecutionContext) (version : Int)
      (target : RuntimeConfigurationTarget)
  | recordConfiguration (context : ExecutionContext) (version : Int)
      (target : RuntimeConfigurationTarget) (credential : CredentialState)
      (business : BusinessState)
  -- business operations
  | admitWithConfiguration (request : Admission) (input : Option ExecutionInput)
      (pg : Option StartPgCredential) (fresh : Fresh)
  | advance (progress : OperationProgress)
  | bindOperationDeadline (appId operationId lifecycleId : String) (deadlineMs : Int)
  | bindOperationLease (context : ExecutionContext) (receipt : LeaseReceipt)
  | forgetOperationLease (binding : LeaseBinding)
  | commitResourceBinding (binding : ResourceBinding) (progress : OperationProgress)
  | quarantineLocalRestart
  -- business recovery
  | finalizePasswordRecovery (snapshot : OperationRecord) (evidence : DatabasePasswordEvidence)
  | finalizeDeployPgRecovery (snapshot : OperationRecord)
      (evidence : ExplicitDeploymentPasswordEvidence)
  | confirmDatabasePreparationRecovery (snapshot : OperationRecord)
      (evidence : DatabasePreparationEvidence)
  | finalizeBuilderCreationRejection (snapshot : OperationRecord)
      (rejection : Option RuntimeRequestRejection)
  | confirmBuilderCreationRecovery (snapshot : OperationRecord)
      (evidence : BuilderCreationEvidence) (managementReady : Bool)
  | reserveCompletedOperation (snapshot : OperationRecord)
  | finalizeObservedWake (snapshot : OperationRecord)
  | finalizeLegacyObservedWake (snapshot : OperationRecord) (evidence : Json)
  | settleFencedOperation (snapshot : OperationRecord) (evidence : Json) (releaseNote : String)
  | settleStaleRunningBuilder (snapshot : OperationRecord) (evidence : Json)
      (releaseNote : String)
  | finalizeObservedHotSuccess (snapshot : OperationRecord) (evidence : Json)
  | finalizeObservedHotFailure (snapshot : OperationRecord)
      (evidence : HotDeploymentFailureEvidence)
  | reserveInterruptedDeletion (snapshot : OperationRecord)
  | recordDeletionRecoveryProblem (snapshot : OperationRecord) (message : String)
  | finalizeInterruptedDeletion (snapshot : OperationRecord) (evidence : Json)
  | expireDeploymentUpdate (snapshot : OperationRecord) (nowMs : Int)
  | reserveInterruptedHot (snapshot : OperationRecord) (expected : LeaseBinding)
  -- compute controls
  | admitControl (request : ControlRequest) (idleOnly : Bool) (now : Int)
  | claimControl (identity : ExecutorIdentity) (revision : Int)
  | checkAccess (appId : String) (scope : OperationScope) (explicitStart : Bool)
  | bindLease (identity : ExecutorIdentity) (receipt : LeaseReceipt)
  | advanceControl (progress : ControlProgress)
  | forgetLease (identity : ExecutorIdentity) (receipt : LeaseReceipt)
  | acknowledgeDrain (identity : ExecutorIdentity) (expectedRevision : Int)
      (evidence : DrainEvidence)
  | finalizeInterrupted (identity : ExecutorIdentity) (snapshot : OperationRecord)
  -- compute recovery
  | finalizeConfirmed (snapshot : ControlRecord)
  | finalizeObservedStop (snapshot : ControlRecord)
  | finalizeObservedRestart (snapshot : ControlRecord)
  | finalizeObservedCreation (snapshot : ControlRecord) (observed : BuilderControlTarget)
      (volumes : List ResourceIdentity)
  | confirmBuilderRestartStopped (snapshot : ControlRecord)
      (observation : BuilderRestartStopObservation)
  | confirmKubernetesRestartStopped (snapshot : ControlRecord)
      (evidence : KubernetesRestartStopEvidence)
  | failUnrebuildableBuilderRestart (snapshot : ControlRecord)
      (observation : BuilderRestartStopObservation)
      (unavailable : Option BuilderRestartArchiveUnavailable)
  | resumeStoppedRestart (snapshot : ControlRecord) (target : MutationTarget)
  | captureStoppedBuilderTemplate (snapshot : ControlRecord) (source : BuilderControlTarget)
      (template : BuilderRestartTemplate)
  | resumeBuilderRestart (snapshot : ControlRecord) (target : BuilderControlTarget)
  | markArchiveCleaned (snapshot : ControlRecord)
  | reserveDrain (snapshot : ControlRecord)
  | captureDrain (snapshot : ControlRecord) (receipt : LeaseReceipt) (attempt : ExecutionContext)
  | resumeDrain (snapshot : ControlRecord) (released : Option LeaseReceipt)
  | recordDrainProblem (snapshot : ControlRecord) (code message : String)
  | failUnrecoverable (snapshot : ControlRecord) (code message : String)
  | bindDeadline (snapshot : ControlRecord) (deadlineMs : Int)
  | expire (snapshot : ControlRecord) (code message : String) (unheldMs nowMs : Int)
  | markUnheld (snapshot : ControlRecord) (observedMs : Int)
  | clearUnheld (snapshot : ControlRecord)

inductive Answer
  | application (app : LifecycleRecord)
  | admission (outcome : AdmissionOutcome)
  | operation (operation : OperationRecord)
  | control (control : ControlRecord)
  | number (n : Int)
  | done
  deriving DecidableEq

def respond {α : Type} (answer : α → Answer) (m : Tx α) : Tx Answer := do
  let a ← m
  pure (answer a)

def Op.run : Op → Tx Answer
  | .ensureIdentity appId fresh => respond .application (Operations.ensureIdentity appId fresh)
  | .restoreStorageIdentity storage fresh =>
    respond .application (Operations.restoreStorageIdentity storage fresh)
  | .restoreIdentity found now => respond .application (Compute.restoreIdentity found now)
  | .patchMetadata patch => respond .application (Operations.patchMetadata patch)
  | .recreate appId expected requestId fresh =>
    respond .application (Operations.recreate appId expected requestId fresh)
  | .flushBatch reports => respond (fun _ => .done) (Operations.flushBatch reports)
  | .deleteActivity appId lifecycleId =>
    respond (fun _ => .done) (Operations.deleteActivity appId lifecycleId)
  | .saveConfiguration appId scope request =>
    respond .number (Configuration.save appId scope request)
  | .bindConfiguration context version target =>
    respond (fun _ => .done) (Configuration.bind context version target)
  | .recordConfiguration context version target credential business =>
    respond (fun _ => .done) (Configuration.recordResult context version target credential business)
  | .admitWithConfiguration request input pg fresh =>
    respond .admission (Operations.admitWithConfiguration request input pg fresh)
  | .advance progress => respond .operation (Operations.advance progress)
  | .bindOperationDeadline appId operationId lifecycleId deadlineMs =>
    respond .number (Operations.bindOperationDeadline appId operationId lifecycleId deadlineMs)
  | .bindOperationLease context receipt =>
    respond (fun _ => .done) (Operations.bindOperationLease context receipt)
  | .forgetOperationLease binding =>
    respond (fun _ => .done) (Operations.forgetOperationLease binding)
  | .commitResourceBinding binding progress =>
    respond .operation (Operations.commitResourceBinding binding progress)
  | .quarantineLocalRestart => respond (fun _ => .done) Operations.quarantineLocalRestart
  | .finalizePasswordRecovery snapshot evidence =>
    respond .operation (Recovery.finalizePasswordRecovery snapshot evidence)
  | .finalizeDeployPgRecovery snapshot evidence =>
    respond .operation (Recovery.finalizeDeployPgRecovery snapshot evidence)
  | .confirmDatabasePreparationRecovery snapshot evidence =>
    respond .operation (Recovery.confirmDatabasePreparationRecovery snapshot evidence)
  | .finalizeBuilderCreationRejection snapshot rejection =>
    respond .operation (Recovery.finalizeBuilderCreationRejection snapshot rejection)
  | .confirmBuilderCreationRecovery snapshot evidence managementReady =>
    respond .operation (Recovery.confirmBuilderCreationRecovery snapshot evidence managementReady)
  | .reserveCompletedOperation snapshot =>
    respond .operation (Recovery.reserveCompletedOperation snapshot)
  | .finalizeObservedWake snapshot => respond .operation (Recovery.finalizeObservedWake snapshot)
  | .finalizeLegacyObservedWake snapshot evidence =>
    respond .operation (Recovery.finalizeLegacyObservedWake snapshot evidence)
  | .settleFencedOperation snapshot evidence releaseNote =>
    respond .operation (Recovery.settleFencedOperation snapshot evidence releaseNote)
  | .settleStaleRunningBuilder snapshot evidence releaseNote =>
    respond .operation (Recovery.settleStaleRunningBuilder snapshot evidence releaseNote)
  | .finalizeObservedHotSuccess snapshot evidence =>
    respond .operation (Recovery.finalizeObservedHotSuccess snapshot evidence)
  | .finalizeObservedHotFailure snapshot evidence =>
    respond .operation (Recovery.finalizeObservedHotFailure snapshot evidence)
  | .reserveInterruptedDeletion snapshot =>
    respond .operation (Recovery.reserveInterruptedDeletion snapshot)
  | .recordDeletionRecoveryProblem snapshot message =>
    respond .operation (Recovery.recordDeletionRecoveryProblem snapshot message)
  | .finalizeInterruptedDeletion snapshot evidence =>
    respond .operation (Recovery.finalizeInterruptedDeletion snapshot evidence)
  | .expireDeploymentUpdate snapshot nowMs =>
    respond .operation (Recovery.expireDeploymentUpdate snapshot nowMs)
  | .reserveInterruptedHot snapshot expected =>
    respond .operation (Recovery.reserveInterruptedHot snapshot expected)
  | .admitControl request idleOnly now => respond .control (Compute.admitControl request idleOnly now)
  | .claimControl identity revision => respond .control (Compute.claimControl identity revision)
  | .checkAccess appId scope explicitStart =>
    respond (fun _ => .done) (Compute.checkAccess appId scope explicitStart)
  | .bindLease identity receipt => respond .control (Execution.bindLease identity receipt)
  | .advanceControl progress => respond .control (Execution.advanceControl progress)
  | .forgetLease identity receipt => respond (fun _ => .done) (Execution.forgetLease identity receipt)
  | .acknowledgeDrain identity expectedRevision evidence =>
    respond .control (Execution.acknowledgeDrain identity expectedRevision evidence)
  | .finalizeInterrupted identity snapshot =>
    respond .operation (Execution.finalizeInterrupted identity snapshot)
  | .finalizeConfirmed snapshot => respond .control (Execution.finalizeConfirmed snapshot)
  | .finalizeObservedStop snapshot => respond .control (Execution.finalizeObservedStop snapshot)
  | .finalizeObservedRestart snapshot => respond .control (Execution.finalizeObservedRestart snapshot)
  | .finalizeObservedCreation snapshot observed volumes =>
    respond .control (Execution.finalizeObservedCreation snapshot observed volumes)
  | .confirmBuilderRestartStopped snapshot observation =>
    respond .control (Execution.confirmBuilderRestartStopped snapshot observation)
  | .confirmKubernetesRestartStopped snapshot evidence =>
    respond .control (Execution.confirmKubernetesRestartStopped snapshot evidence)
  | .failUnrebuildableBuilderRestart snapshot observation unavailable =>
    respond .control (Execution.failUnrebuildableBuilderRestart snapshot observation unavailable)
  | .resumeStoppedRestart snapshot target =>
    respond .control (Execution.resumeStoppedRestart snapshot target)
  | .captureStoppedBuilderTemplate snapshot source template =>
    respond .control (Execution.captureStoppedBuilderTemplate snapshot source template)
  | .resumeBuilderRestart snapshot target =>
    respond .control (Execution.resumeBuilderRestart snapshot target)
  | .markArchiveCleaned snapshot =>
    respond (fun _ => .done) (Execution.markArchiveCleaned snapshot)
  | .reserveDrain snapshot => respond .control (Execution.reserveDrain snapshot)
  | .captureDrain snapshot receipt attempt =>
    respond .control (Execution.captureDrain snapshot receipt attempt)
  | .resumeDrain snapshot released => respond .control (Execution.resumeDrain snapshot released)
  | .recordDrainProblem snapshot code message =>
    respond .control (Execution.recordDrainProblem snapshot code message)
  | .failUnrecoverable snapshot code message =>
    respond .control (Execution.failUnrecoverable snapshot code message)
  | .bindDeadline snapshot deadlineMs => respond .number (Execution.bindDeadline snapshot deadlineMs)
  | .expire snapshot code message unheldMs nowMs =>
    respond .control (Execution.expire snapshot code message unheldMs nowMs)
  | .markUnheld snapshot observedMs => respond .number (Execution.markUnheld snapshot observedMs)
  | .clearUnheld snapshot => respond (fun _ => .done) (Execution.clearUnheld snapshot)

def store : Machine Store Op (Except StoreError Answer) := ⟨fun s op => transact op.run s⟩

/-- The right that a transaction has beyond its own bookkeeping. -/
def Op.act : Op → Act
  | .advance progress => .advance progress
  | .commitResourceBinding _ progress => .advance progress
  | .recreate _ _ _ fresh => .recreate fresh.lifecycleId
  | .advanceControl progress => .control progress
  | .admitWithConfiguration request _ _ _ => .admission request.operationId
  | .admitControl request _ _ => .admitControl request.operationId
  | .checkAccess appId scope _ => .release appId scope
  | .forgetLease identity receipt => .forget identity.operationId receipt
  | .resumeDrain snapshot released => .resume snapshot released
  | _ => .other

variable {α : Type} {m : Tx α} {answer : α → Answer}

theorem Performs.of {act : Act} (h : Performs act m) : Performs act (respond answer m) :=
  fun db => (h db).bind fun _ _ h => .pure h

theorem Quiet.of {act : Act} (h : Quiet m) : Performs act (respond answer m) :=
  (Performs.of_quiet h).of

open Compute Execution Recovery in
theorem Op.performs (op : Op) : Performs op.act op.run := by
  cases op with
  | ensureIdentity => exact (performs_ensureIdentity _ _).of
  | restoreStorageIdentity => exact (performs_restoreStorageIdentity _ _).of
  | restoreIdentity => exact (performs_restoreIdentity _ _).of
  | patchMetadata => exact (performs_patchMetadata _).of
  | recreate => exact (performs_recreate _ _ _ _).of
  | flushBatch => exact of (quiet_flushBatch _)
  | deleteActivity => exact of (quiet_deleteActivity _ _)
  | saveConfiguration => exact of (Configuration.quiet_save _ _ _)
  | bindConfiguration => exact of (Configuration.quiet_bind _ _ _)
  | recordConfiguration => exact of (Configuration.quiet_recordResult _ _ _ _ _)
  | admitWithConfiguration => exact (performs_admitWithConfiguration _ _ _ _).of
  | advance => exact (performs_advance _).of
  | bindOperationDeadline => exact of (quiet_bindOperationDeadline _ _ _ _)
  | bindOperationLease => exact (performs_bindOperationLease _ _).of
  | forgetOperationLease => exact (performs_forgetOperationLease _).of
  | commitResourceBinding => exact (performs_commitResourceBinding _ _).of
  | quarantineLocalRestart => exact performs_quarantineLocalRestart.of
  | finalizePasswordRecovery => exact (performs_finalizePasswordRecovery _ _).of
  | finalizeDeployPgRecovery => exact (performs_finalizeDeployPgRecovery _ _).of
  | confirmDatabasePreparationRecovery =>
    exact (performs_confirmDatabasePreparationRecovery _ _).of
  | finalizeBuilderCreationRejection =>
    exact (performs_finalizeBuilderCreationRejection _ _).of
  | confirmBuilderCreationRecovery =>
    exact (performs_confirmBuilderCreationRecovery _ _ _).of
  | reserveCompletedOperation => exact (performs_reserveCompletedOperation _).of
  | finalizeObservedWake => exact (performs_finalizeObservedWake _).of
  | finalizeLegacyObservedWake => exact (performs_finalizeLegacyObservedWake _ _).of
  | settleFencedOperation => exact (performs_settleFencedOperation _ _ _).of
  | settleStaleRunningBuilder => exact (performs_settleStaleRunningBuilder _ _ _).of
  | finalizeObservedHotSuccess => exact (performs_finalizeObservedHotSuccess _ _).of
  | finalizeObservedHotFailure => exact (performs_finalizeObservedHotFailure _ _).of
  | reserveInterruptedDeletion => exact (performs_reserveInterruptedDeletion _).of
  | recordDeletionRecoveryProblem =>
    exact (performs_recordDeletionRecoveryProblem _ _).of
  | finalizeInterruptedDeletion => exact (performs_finalizeInterruptedDeletion _ _).of
  | expireDeploymentUpdate => exact (performs_expireDeploymentUpdate _ _).of
  | reserveInterruptedHot => exact (performs_reserveInterruptedHot _ _).of
  | admitControl => exact (performs_admitControl _ _ _).of
  | claimControl => exact (performs_claimControl _ _).of
  | checkAccess => exact (performs_checkAccess _ _ _).of
  | bindLease => exact (performs_bindLease _ _).of
  | advanceControl => exact (performs_advanceControl _).of
  | forgetLease => exact (performs_forgetLease _ _).of
  | acknowledgeDrain => exact (performs_acknowledgeDrain _ _ _).of
  | finalizeInterrupted => exact (performs_finalizeInterrupted _ _).of
  | finalizeConfirmed => exact (performs_finalizeConfirmed _).of
  | finalizeObservedStop | finalizeObservedRestart => exact (performs_finalizeObserved _ _ _).of
  | finalizeObservedCreation => exact (performs_finalizeObservedCreation _ _ _).of
  | confirmBuilderRestartStopped =>
    exact (performs_confirmBuilderRestartStopped _ _).of
  | confirmKubernetesRestartStopped =>
    exact (performs_confirmKubernetesRestartStopped _ _).of
  | failUnrebuildableBuilderRestart =>
    exact (performs_failUnrebuildableBuilderRestart _ _ _).of
  | resumeStoppedRestart => exact (performs_resumeStoppedRestart _ _).of
  | captureStoppedBuilderTemplate =>
    exact (performs_captureStoppedBuilderTemplate _ _ _).of
  | resumeBuilderRestart => exact (performs_resumeBuilderRestart _ _).of
  | markArchiveCleaned => exact (performs_markArchiveCleaned _).of
  | reserveDrain => exact (performs_reserveDrain _).of
  | captureDrain => exact (performs_captureDrain _ _ _).of
  | resumeDrain => exact (performs_resumeDrain _ _).of
  | recordDrainProblem => exact (performs_recordDrainProblem _ _ _).of
  | failUnrecoverable => exact (performs_failUnrecoverable _ _ _).of
  | bindDeadline => exact of (quiet_bindDeadline _ _)
  | expire => exact (performs_expire _ _ _ _ _).of
  | markUnheld => exact of (quiet_markUnheld _ _)
  | clearUnheld => exact of (quiet_clearUnheld _)

variable {s : Store}

theorem gives_respond {Q : α → Store → Prop} (h : Gives m s Q) :
    Gives (respond answer m) s fun a t => ∃ r, a = answer r ∧ Q r t :=
  h.bind fun r _ hr => .pure ⟨r, rfl, hr⟩

/-- What a transaction establishes where it is answered, it establishes in the store. -/
theorem store_answered {op : Op} {answer : Answer} {Q : Answer → Store → Prop}
    (h : (store.exec s op).1 = .ok answer) (hgives : Gives op.run s Q) :
    Q answer (store.exec s op).2 := by
  have hexec : store.exec s op = transact op.run s := rfl
  rw [hexec] at h ⊢
  unfold transact at h ⊢
  cases hr : op.run s with
  | ok =>
    rw [hr] at h
    cases h
    exact hgives _ _ hr
  | error =>
    rw [hr] at h
    cases h

theorem store_failed {op : Op} {e : StoreError} (h : (store.exec s op).1 = .error e) :
    (store.exec s op).2 = s := by
  have hexec : store.exec s op = transact op.run s := rfl
  rw [hexec] at h ⊢
  unfold transact at h ⊢
  cases hr : op.run s with
  | ok =>
    rw [hr] at h
    cases h
  | error => rfl

/-- Every step of the store moves the ledger by what its transaction may do. -/
theorem store_moves (s : Store) (op : Op) : Moves op.act s.ledger (store.exec s op).2.ledger := by
  cases h : (store.exec s op).1 with
  | ok => exact store_answered h (op.performs s)
  | error =>
    rw [store_failed h]
    exact .refl _

/-- What every move keeps holds along every run. -/
theorem Run.keeps {ok : Store → Op → Prop} {t : Store} {tr : List (Op × Except StoreError Answer)}
    {P : Ledger → Prop} (hr : store.Run ok s tr t) (hs : P s.ledger)
    (step : ∀ act L L', Move act L L' → P L → P L') : P t.ledger :=
  hr.invariant hs fun s op _ h =>
    (store_moves s op).keeps h fun L L' hm hL => step op.act L L' hm hL

/-! ### Sample inputs -/

namespace Sample

def digest : String := "0123456789abcdef0123456789abcdef0123456789abcdef0123456789abcdef"

def fresh : Fresh := ⟨"life", "seed", 1⟩

def controlRequest (operationId : String) (action : ControlAction) : ControlRequest where
  appId := "app"
  lifecycleId := "life"
  scope := .prod
  operationId
  requestId := "request-" ++ operationId
  requestFingerprint := digest
  action

def executor (operationId : String) (generation : Int) : ExecutorIdentity :=
  ⟨"app", "life", .prod, operationId, generation, "executor-" ++ operationId⟩

def admission (operationId : String) (command : ControlCommand) : Admission where
  appId := "app"
  operationId
  requestId := some ("request-" ++ operationId)
  requestFingerprint := digest
  kind := command.kind
  command := some command

def progress (operationId : String) (expectedRevision : Int) (state : OperationState)
    (step : String) (checkpoint : Json) : OperationProgress where
  appId := "app"
  operationId
  lifecycleId := "life"
  expectedRevision
  executorId := "executor-" ++ operationId
  state
  step
  checkpoint

def contextIn (lifecycleId operationId : String) : Json :=
  .object
    [("app_id", .str "app"), ("lifecycle_id", .str lifecycleId),
      ("operation_id", .str operationId), ("executor_id", .str ("executor-" ++ operationId)),
      ("request_fingerprint", .str digest)]

def context : String → Json := contextIn "life"

def production (operationId : String) : Json :=
  .object
    [("app_id", .str "app"), ("operation_id", .str operationId), ("resources", .array [])]

/-- The report that takes a control into the stage `stopping`. -/
def entersStopping (operationId : String) (generation expectedRevision : Int) : Op :=
  .advanceControl
    { identity := executor operationId generation
      expectedRevision
      state := .running
      stage := .stopping
      checkpoint := Json.object [] }

/-- The report of a control that could not drain what it interrupted. -/
def failsDraining (operationId : String) (generation expectedRevision : Int) : Op :=
  .advanceControl
    { identity := executor operationId generation
      expectedRevision
      state := .failed
      stage := .drainingPrevious
      errorCode := some "ERR_BACKEND"
      errorMessage := some "unreachable" }

end Sample

end Rcoder.Lifecycle
