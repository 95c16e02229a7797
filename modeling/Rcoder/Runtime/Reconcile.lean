import Rcoder.Runtime.Session

/-!
# Startup reconciliation

Before the remaining unfinished records are failed, startup completes the persisted Stop
intent and the deployment whose journal receipt confirms how far it got. Both require empty
execution slots.
-/

namespace Rcoder.Runtime

open Effect

def AdmissionState.slotsEmpty (a : AdmissionState) : Bool :=
  a.activeOperationId.isNone && a.pendingStop.isNone && a.pendingRestart.isNone

/-- A Stop in recovery that claims the current revision. -/
def claimsStop (revision : Nat) (op : StoredOperation) : Bool :=
  op.view.state = .recoveryRequired ∧ op.view.kind = .stop ∧ op.view.revision = revision

def stopIdentityMatches (env : KernelEnv) (identity : RuntimeIdentityView) (revision : Nat)
    (op : StoredOperation) : Bool :=
  op.request.kind = .stop ∧ op.request.workspaceId = identity.workspaceId ∧
    op.view.operationId = op.request.operationId ∧
    checkedSucc op.request.expectedRevision = some revision ∧
    op.view.requestDigest = runtimeRequestDigest env op.request

def findQuiescedStop (env : KernelEnv) (identity : RuntimeIdentityView) (revision : Nat)
    (candidate : Option StoredOperation) : List String → StoreM (Option StoredOperation)
  | [] => pure candidate
  | id :: ids => do
    access []
    access []
    match (← get).store.operations.lookup id with
    | none => throw ⟨["No such file or directory"]⟩
    | some (.error cause) => throw ⟨[cause]⟩
    | some (.ok op) =>
      if claimsStop revision op.1 then do
        ensure (stopIdentityMatches env identity revision op.1)
          ⟨["persisted stop identity mismatch"]⟩
        ensure (candidate = none) ⟨["multiple operations claim the same stop revision"]⟩
        findQuiescedStop env identity revision (some op.1) ids
      else findQuiescedStop env identity revision candidate ids

def confirmedStop (op : StoredOperation) : StoredOperation :=
  { op with view := { op.view with
    state := .succeeded, errorCode := none, errorMessage := none, failureDetail := none } }

def reconcileQuiescedStop (env : KernelEnv) : KernelM Bool := do
  let k ← get
  ensure k.admission.slotsEmpty ⟨["runtime execution is active during stop recovery"]⟩
  let (desired, revision) ← onDisk (loadDesired env)
  if desired ≠ .stopped then pure false
  else do
    let candidate ← onDisk (scanStops k.identity revision)
    match candidate with
    | none => pure false
    | some operation => do
      onDisk (storeOperation (confirmedStop operation))
      emitTerminalRecord env (confirmedStop operation)
      refreshRecoveryProtection
      pure true
where
  scanStops (identity : RuntimeIdentityView) (revision : Nat) :
      StoreM (Option StoredOperation) := do
    access []
    findQuiescedStop env identity revision none (← get).store.operations.keys

inductive Boundary
  | preparing
  | switching
  | activated
  | active
  | restoredActive
  | startupFailed
  | failed
  deriving DecidableEq, Repr

inductive AppCliDeployPhase
  | idle
  | deploying
  | orchestrating
  | running
  | failed
  deriving DecidableEq, Repr

inductive AppDeploymentStage
  | pending
  | succeeded
  | failed
  deriving DecidableEq, Repr

/-- A deployment journal receipt, as far as the kernel reads it. -/
structure Receipt where
  generation : String
  boundary : Boundary
  phase : AppCliDeployPhase
  deployStage : AppDeploymentStage
  persisted : Bool
  recoveryRecorded : Bool
  operationId : String
  runtimeOperationId : Option String
  error : Option String
  deriving DecidableEq, Repr

namespace Receipt

def preparationOnly (r : Receipt) : Bool :=
  r.boundary = .preparing ∧ (r.phase = .deploying ∨ r.phase = .failed) ∧
    (r.deployStage = .pending ∨ r.deployStage = .failed)

def confirmedBoundary (r : Receipt) : Bool :=
  ((r.boundary = .startupFailed ∧ r.phase = .failed) ∨
    (r.boundary = .active ∧ r.phase = .running)) ∧ r.persisted ∧ r.deployStage = .succeeded

def errorCode (r : Receipt) (cancelled : Bool) : String :=
  if cancelled then "ERR_CANCELLED"
  else if r.boundary = .active ∨ r.preparationOnly then "ERR_OPERATION_INTERRUPTED"
  else "ERR_STARTUP_FAILED"

def errorMessage (r : Receipt) : Option String :=
  if r.preparationOnly then
    r.error.or (some "Previous owner stopped during preparation before directory activation")
  else if r.boundary = .active then
    some "Previous owner was stopped before the operation terminal result was committed"
  else r.error

end Receipt

def reconciledRecord (r : Receipt) (cancelled : Bool) (op : StoredOperation) : StoredOperation :=
  let state := if cancelled then RuntimeOperationState.cancelled else .failed
  if op.hasRecordedDiagnostic then { op with view := { op.view with state := state } }
  else
    { op with view := { op.view with
      state := state
      errorCode := some (r.errorCode cancelled)
      errorMessage := r.errorMessage
      failureDetail := some ⟨"startup_reconciled", none, none, true⟩ } }

def deploymentIdentityMatches (env : KernelEnv) (identity : RuntimeIdentityView) (id : String)
    (op : StoredOperation) : Bool :=
  op.view.kind ≠ .stop ∧ op.request.workspaceId = identity.workspaceId ∧
    op.request.operationId = id ∧ op.view.requestDigest = runtimeRequestDigest env op.request

def reconcileQuiescedOperation (env : KernelEnv) (receipt : Receipt) : KernelM Bool := do
  let k ← get
  if ¬(receipt.preparationOnly ∨ receipt.confirmedBoundary) ∨
      receipt.generation ≠ k.identity.deploymentGenerationId ∨ receipt.recoveryRecorded then
    pure false
  else
    match receipt.runtimeOperationId with
    | none => pure false
    | some id => do
      ensure (id = receipt.operationId) ⟨["startup failure journal operation mismatch"]⟩
      ensure k.admission.slotsEmpty ⟨["runtime execution is active during recovery"]⟩
      match ← onDisk (loadOperation env id) with
      | none => pure false
      | some operation =>
        if operation.view.state ≠ .recoveryRequired then pure false
        else do
          ensure (deploymentIdentityMatches env k.identity id operation)
            ⟨["startup failure runtime identity mismatch"]⟩
          let cancelled ← onDisk (cancellationRecorded env operation)
          onDisk (storeOperation (reconciledRecord receipt cancelled operation))
          emitTerminalRecord env (reconciledRecord receipt cancelled operation)
          refreshRecoveryProtection
          pure true

def foregroundIdentityMatches (env : KernelEnv) (identity : RuntimeIdentityView) (id : String)
    (op : StoredOperation) : Bool :=
  op.view.operationId = id ∧ op.request.operationId = id ∧
    op.view.runtimeInstanceId = identity.runtimeInstanceId ∧
    op.request.expectedRuntimeInstanceId = identity.runtimeInstanceId ∧
    op.request.workspaceId = identity.workspaceId ∧
    op.view.requestDigest = runtimeRequestDigest env op.request

/-- Some slot, or the retained input, belongs to another operation. -/
def AdmissionState.otherRequest (a : AdmissionState) (id : String) : Bool :=
  (a.activeOperationId.toList ++ a.pendingRestart.toList ++ a.pendingStop.toList).any (· ≠ id) ||
    a.queuedInput.any (·.view.operationId ≠ id)

/-- Latch the exit of a foreground owner whose last operation failed. -/
def beginForegroundFailureExit (env : KernelEnv) (id : String) : KernelM (Option String) := do
  let k ← get
  let stored ← require (← onDisk (loadOperation env id))
    ⟨["foreground operation record missing"]⟩
  ensure (foregroundIdentityMatches env k.identity id stored)
    ⟨["foreground operation identity changed"]⟩
  if ¬(stored.view.state = .failed ∨ stored.view.state = .recoveryRequired) then pure none
  else do
    let (_, revision) ← onDisk (loadDesired env)
    if stored.request.expectedRevision ≠ revision ∨ stored.view.revision ≠ revision ∨
        k.admission.latestAdmittedOperationId ≠ some id ∨ k.admission.otherRequest id then
      pure none
    else do
      modifyAdmission fun a => { a with foregroundExitingOperation := some id }
      pure (some ("foreground operation " ++ id ++ " failed: " ++
        stored.view.errorMessage.getD "runtime operation did not complete"))

end Rcoder.Runtime
