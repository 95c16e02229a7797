import Rcoder.Runtime.Reconcile

/-!
# Admission

A request passes a gate (validation, replay, holds, recovery, revision, busy control), is
persisted as accepted together with the intent it expresses, and then occupies a slot. The
gate is the only part that can answer without a record; a failure after the record was
persisted holds the operation for recovery.
-/

namespace Rcoder.Runtime

open Effect

structure AdmissionRejection where
  code : String
  message : String
  activeOperationId : Option String
  deriving DecidableEq, Repr

inductive AdmissionOutcome
  | replayed (view : RuntimeOperationView)
  | accepted (view : RuntimeOperationView)
  deriving DecidableEq, Repr

/-- The holds a caller passes along: an unresolved owner recovery, a native control
operation with its stage, a configuration write with its stage. -/
structure AdmissionHolds where
  ownerRecoveryHold : Bool := false
  nativeControl : Option (String × String) := none
  auxiliary : Option (Option String × String) := none
  deriving DecidableEq, Repr

abbrev AdmitM := EStateM AdmissionRejection Kernel

def backendError (context : String) (e : Anyhow) : AdmissionRejection :=
  ⟨errBackendError, context ++ ": " ++ e.render, none⟩

def ArtifactInput.debug : ArtifactInput → String
  | .artifactId id => "ArtifactId \x7b artifact_id: " ++ id.quote ++ " \x7d"
  | .retainedWorkspace id => "RetainedWorkspace \x7b release_id: " ++ id.quote ++ " \x7d"
  | .url address sha256 => "Url \x7b url: " ++ address.quote ++ ", sha256: " ++
      (match sha256 with
        | none => "None"
        | some digest => "Some(" ++ digest.quote ++ ")") ++ " \x7d"

def RunProfileInput.debug : RunProfileInput → String
  | .source id => "Source \x7b workspace_id: " ++ id.quote ++ " \x7d"
  | .artifact input => "Artifact \x7b artifact: " ++ input.debug ++ " \x7d"

def supported : RuntimeOperationKind → RunProfileInput → Bool
  | .deploy, .artifact _ | .start, .source _ | .restart, .source _ | .stop, _ => true
  | _, _ => false

def checkRequest (identity : RuntimeIdentityView) (request : RuntimeOperationRequest) :
    Except AdmissionRejection Unit := do
  match validateRuntimeOperationRequest request with
  | .error e => throw ⟨errValidation, e, none⟩
  | .ok () => pure ()
  if ¬supported request.kind request.profile then
    throw ⟨errProtocolUnsupported, "operation kind " ++ request.kind.asStr ++ " with profile " ++
      request.profile.debug ++ " is not implemented in this build; supported: " ++
      "deploy+artifact(url or artifact_id), start/restart+source, stop", none⟩
  if request.expectedRuntimeInstanceId ≠ identity.runtimeInstanceId then
    throw ⟨errRuntimeInstanceMismatch, "expected runtime instance " ++
      request.expectedRuntimeInstanceId ++ " does not match current " ++
      identity.runtimeInstanceId, none⟩
  if request.workspaceId ≠ identity.workspaceId then
    throw ⟨errWorkspaceMismatch, "workspace " ++ request.workspaceId ++
      " does not match owner binding " ++ identity.workspaceId, none⟩

/-- What keeps everything but a Stop out: an exiting foreground owner, a configuration
write, a native control operation, an unresolved owner recovery. -/
def checkHolds (a : AdmissionState) (holds : AdmissionHolds) (request : RuntimeOperationRequest) :
    Except AdmissionRejection Unit :=
  if request.kind = .stop then .ok ()
  else
    match a.foregroundExitingOperation, holds.auxiliary, holds.nativeControl with
    | some id, _, _ => .error ⟨errOperationInProgress, "foreground owner is exiting after operation "
        ++ id ++ "; retry after it exits", some id⟩
    | none, some (id, stage), _ => .error ⟨errOperationInProgress,
        "configuration write is in progress at " ++ stage ++ "; retry after it finishes", id⟩
    | none, none, some (id, stage) => .error ⟨errOperationInProgress, "native control operation "
        ++ id ++ " is in progress at " ++ stage ++ "; retry after it finishes", some id⟩
    | none, none, none =>
      if holds.ownerRecoveryHold then .error ⟨errRecoveryRequired,
        "owner recovery must be resolved before starting business", none⟩
      else .ok ()

/-- Under recovery protection a start first retries the startup settlement. -/
def settleBeforeAdmission (env : KernelEnv) (request : RuntimeOperationRequest) : AdmitM Unit := do
  if (← get).admission.recoveryProtection ∧ request.kind ≠ .stop then do
    let _ ← mapError (fun e => ⟨errRecoveryRequired,
      "automatic recovery failed: " ++ Anyhow.render e, none⟩) (settleUnresolvedRecoveries env)
    ensure ((← get).admission.recoveryProtection = false) ⟨errRecoveryRequired,
      "a previous operation has an unconfirmed result; recovery is required", none⟩
  else pure ()

/-- A start or restart from source: it takes over from an older Source build. -/
def isLatestSource (request : RuntimeOperationRequest) : Bool :=
  match request.kind, request.profile with
  | .start, .source _ | .restart, .source _ => true
  | _, _ => false

def isBusyControl : Option StoredOperation → Bool
  | some op => (op.view.kind = .stop ∨ op.view.kind = .restart) ∧ ¬op.view.state.isTerminal
  | none => false

def checkBusyControl (env : KernelEnv) (request : RuntimeOperationRequest) : AdmitM Unit := do
  let a := (← get).admission
  if request.kind ≠ .stop ∧ ¬isLatestSource request ∧
      (a.pendingStop.isSome ∨ a.activeOperationId.isSome) then do
    let active ← readActive a.pendingStop a.activeOperationId
    ensure (¬(a.pendingStop.isSome ∨ isBusyControl active)) ⟨errOperationInProgress,
      "a stop/restart control operation is executing; retry after it reaches a terminal state " ++
        "(active: " ++ ((a.activeOperationId.or a.pendingStop).getD "unknown") ++ ")",
      a.activeOperationId.or a.pendingStop⟩
  else pure ()
where
  readActive : Option String → Option String → AdmitM (Option StoredOperation)
    | none, some id => mapError (backendError "read active operation record")
        (onDisk (loadOperation env id))
    | _, _ => pure none

inductive GateVerdict
  | replay (view : RuntimeOperationView)
  | proceed (revision nextRevision : Nat)
  deriving DecidableEq, Repr

def admissionRevisions (a : AdmissionState) (request : RuntimeOperationRequest) (revision : Nat) :
    Except AdmissionRejection Nat :=
  match request.kind, a.pendingStop with
  | .stop, some pending => .error ⟨errOperationInProgress,
      "another runtime operation is in progress", some pending⟩
  | _, _ =>
    if request.expectedRevision ≠ revision then .error ⟨errRevisionMismatch, "expected revision " ++
      toString request.expectedRevision ++ " but current revision is " ++ toString revision, none⟩
    else if request.kind = .stop then
      match checkedSucc revision with
      | some next => .ok next
      | none => .error ⟨errBackendError, "revision overflow", none⟩
    else .ok revision

def admissionGate (env : KernelEnv) (holds : AdmissionHolds) (request : RuntimeOperationRequest) :
    AdmitM GateVerdict := do
  let k ← get
  fromExcept (checkRequest k.identity request)
  let existing ← mapError (backendError "read operation history")
    (onDisk (loadOperation env request.operationId))
  match existing with
  | some existing => do
    ensure (existing.view.requestDigest = runtimeRequestDigest env request)
      ⟨errOperationIdConflict, "operation " ++ request.operationId ++
        " was accepted with a different request", none⟩
    pure (.replay existing.view)
  | none => do
    fromExcept (checkHolds k.admission holds request)
    settleBeforeAdmission env request
    let (_, revision) ← mapError (backendError "read desired state") (onDisk (loadDesired env))
    let nextRevision ← fromExcept (admissionRevisions (← get).admission request revision)
    checkBusyControl env request
    pure (.proceed revision nextRevision)

def acceptedRecord (env : KernelEnv) (identity : RuntimeIdentityView)
    (request : RuntimeOperationRequest) (revision : Nat) : StoredOperation where
  view :=
    { operationId := request.operationId
      kind := request.kind
      state := .accepted
      requestDigest := runtimeRequestDigest env request
      revision := revision
      runtimeInstanceId := identity.runtimeInstanceId
      errorCode := none
      errorMessage := none
      failureDetail := none }
  request := request

def heldRecord (stored : StoredOperation) (reason : String) : StoredOperation :=
  { stored with view := { stored.view with
    state := .recoveryRequired
    errorCode := some errRecoveryRequired
    errorMessage := some reason } }

/-- A partly committed admission: keep the record for recovery and reject the request. -/
def holdPartialAdmission {α : Type} (env : KernelEnv) (stored : StoredOperation)
    (reason : String) : AdmitM α := do
  persistHeld
  throw ⟨errRecoveryRequired, "admission persisted but intent write failed; operation " ++
    stored.view.operationId ++ " held for recovery: " ++ reason, some stored.view.operationId⟩
where
  persistHeld : AdmitM Unit := do
    match ← attempt (onDisk (storeOperation (heldRecord stored reason))) with
    | .error _ => pure ()
    | .ok () => emitTerminalRecord env (heldRecord stored reason)

/-- Protect and hold: the way out of every failure after the record was persisted. -/
def holdAdmission {α : Type} (env : KernelEnv) (stored : StoredOperation) (reason : String) :
    AdmitM α := do
  protect
  holdPartialAdmission env stored reason

def intentOf (kind : RuntimeOperationKind) : DesiredState :=
  if kind = .stop then .stopped else .running

def intentFailure (kind : RuntimeOperationKind) : String :=
  if kind = .stop then "persist stop intent: " else "persist running intent: "

def persistIntent (env : KernelEnv) (stored : StoredOperation) (nextRevision : Nat) :
    AdmitM Unit := do
  match ← attempt (onDisk (storeDesired env (intentOf stored.view.kind) nextRevision)) with
  | .ok () => pure ()
  | .error e =>
    holdAdmission env stored (intentFailure stored.view.kind ++ Anyhow.render e)

/-- Settle the queued operation a newer intent replaces; on failure it gets its slot back
and the newer admission is held. -/
def supersedeQueued (env : KernelEnv) (stored : StoredOperation) (queuedId message : String) :
    AdmitM Unit := do
  match ← attempt (writeTerminal env queuedId .cancelled (some (errSuperseded, message)) none) with
  | .ok _ => pure ()
  | .error e => do
    modifyAdmission fun a => { a with pendingRestart := some queuedId }
    holdAdmission env stored ("persist superseded terminal state: " ++ Anyhow.render e)

def occupyStop (env : KernelEnv) (stored : StoredOperation) : AdmitM Unit := do
  clearQueue
  modifyAdmission fun a => { a with
    queuedInput := none, pendingStop := some stored.view.operationId }
where
  clearQueue : AdmitM Unit := do
    match (← get).admission.pendingRestart with
    | none => pure ()
    | some superseded => do
      modifyAdmission fun a => { a with pendingRestart := none }
      supersedeQueued env stored superseded "superseded by a newer stop intent before execution"

def cancelActiveSource (env : KernelEnv) (stored : StoredOperation) (activeId : String) :
    AdmitM Unit := do
  match ← attempt (onDisk (loadOperation env activeId)) with
  | .error e => holdAdmission env stored ("read superseded Source: " ++ Anyhow.render e)
  | .ok none => pure ()
  | .ok (some active) =>
    if active.isSource then do
      match ← attempt (onDisk (storeCancellation active)) with
      | .error e => do
        markCancelled activeId
        holdAdmission env stored
          ("persist superseded Source cancellation: " ++ Anyhow.render e)
      | .ok () => do
        markCancelled activeId
        dispatch (.cancelSource activeId)
    else pure ()

def enqueue (env : KernelEnv) (stored : StoredOperation) : AdmitM Unit := do
  let previous := (← get).admission.pendingRestart
  modifyAdmission fun a => { a with pendingRestart := some stored.view.operationId }
  replace previous
  modifyAdmission fun a => { a with queuedInput := some stored }
where
  replace : Option String → AdmitM Unit
    | none => pure ()
    | some superseded =>
      supersedeQueued env stored superseded "superseded by a newer start/restart request"

def occupyQueue (env : KernelEnv) (stored : StoredOperation) : AdmitM Unit := do
  enqueue env stored
  match isLatestSource stored.request, (← get).admission.activeOperationId with
  | true, some activeId => cancelActiveSource env stored activeId
  | _, _ => pure ()

def occupyActive (env : KernelEnv) (stored : StoredOperation) : AdmitM Unit := do
  settleQueued
  modifyAdmission fun a => { a with activeOperationId := some stored.view.operationId }
where
  settleQueued : AdmitM Unit := do
    match (← get).admission.pendingRestart with
    | none => pure ()
    | some queuedId => do
      match ← attempt (writeTerminal env queuedId .cancelled
          (some (errSuperseded, "superseded by a newer request admitted while idle")) none) with
      | .error e =>
        holdAdmission env stored ("settle superseded queued operation: " ++ Anyhow.render e)
      | .ok _ => modifyAdmission fun a => { a with pendingRestart := none, queuedInput := none }

def occupySlot (env : KernelEnv) (stored : StoredOperation) : AdmitM Bool := do
  let a := (← get).admission
  if stored.view.kind = .stop then do
    occupyStop env stored
    pure false
  else if a.activeOperationId.isSome ∨ a.pendingStop.isSome then do
    occupyQueue env stored
    pure true
  else do
    occupyActive env stored
    pure false

def openAdmission (env : KernelEnv) (stored : StoredOperation) (nextRevision : Nat) :
    AdmitM Unit := do
  mapError (backendError "persist accepted operation") (onDisk (storeOperation stored))
  persistIntent env stored nextRevision

def persistAdmission (env : KernelEnv) (stored : StoredOperation) (nextRevision : Nat) :
    AdmitM AdmissionOutcome := do
  openAdmission env stored nextRevision
  let queued ← occupySlot env stored
  modifyAdmission fun a => { a with latestAdmittedOperationId := some stored.view.operationId }
  emit env stored.view.operationId "accepted" none (some stored.view.kind.asStr)
  onlyIf (queued = false) (dispatch (dispatchActionFor stored))
  pure (.accepted stored.view)

def admitWithAuxiliaryHold (env : KernelEnv) (holds : AdmissionHolds)
    (request : RuntimeOperationRequest) :
    AdmitM AdmissionOutcome := do
  match ← admissionGate env holds request with
  | .replay view => pure (.replayed view)
  | .proceed revision nextRevision => do
    let k ← get
    persistAdmission env (acceptedRecord env k.identity request revision) nextRevision

end Rcoder.Runtime
