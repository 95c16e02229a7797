import Rcoder.Runtime.Kernel

/-!
# The runtime kernel: execution, session hand-over and recovery

The entry points other than admission: what the execution driver reports (consumption,
commit, terminal results, cancellation), what a session hand-over settles, and what startup
recovery makes of the records a previous owner left.
-/

namespace Rcoder.Runtime

open Effect

def finish (env : KernelEnv) (id : String) (state : RuntimeOperationState)
    (error : Option (String × String)) (failureDetail : Option RuntimeFailureDetail) :
    KernelM Unit := do
  let stored ← writeTerminal env id state error failureDetail
  releaseSlots env id stored.view.state

def writeTerminalLocked (env : KernelEnv) (id : String) (state : RuntimeOperationState) :
    KernelM Unit := do
  let stored ← writeTerminal env id state none none
  releaseSlots env id stored.view.state

inductive CommitBarrierOutcome
  | committed
  | cancelled
  | superseded
  | notActive
  deriving DecidableEq, Repr

/-- The commit barrier: still active, not cancelled, and accepted at the current revision. -/
def commitExecution (env : KernelEnv) (id : String) : KernelM CommitBarrierOutcome := do
  let k ← get
  if k.admission.activeOperationId ≠ some id then pure .notActive
  else if id ∈ k.cancelled then pure .cancelled
  else do
    let (_, currentRevision) ← onDisk (loadDesired env)
    let stored ← require (← onDisk (loadOperation env id)) ⟨["commit unknown operation"]⟩
    if currentRevision ≠ stored.view.revision then pure .superseded
    else do
      writeTerminalLocked env id .succeeded
      pure .committed

def requestCancel (env : KernelEnv) (id : String) : KernelM Bool := do
  if (← get).admission.activeOperationId ≠ some id then pure false
  else do
    let operation ← require (← onDisk (loadOperation env id)) ⟨["active operation missing"]⟩
    match ← attempt (onDisk (storeCancellation operation)) with
    | .error e => do
      markCancelled id
      protect
      throw ⟨"persist cancellation intent" :: Anyhow.chain e⟩
    | .ok () => do
      markCancelled id
      onlyIf operation.isSource (dispatch (.cancelSource id))
      pure true

def markExecutionConsumed (env : KernelEnv) (id : String) : KernelM Bool := do
  let k ← get
  if k.admission.activeOperationId ≠ some id ∧ k.admission.pendingStop ≠ some id then pure false
  else do
    let stored ← require (← onDisk (loadOperation env id))
      ⟨["consumed operation record is missing"]⟩
    if stored.view.state.Settled then pure false
    else do
      ensure (stored.view.operationId = id ∧ stored.request.operationId = id ∧
        stored.view.runtimeInstanceId = k.identity.runtimeInstanceId ∧
        stored.request.workspaceId = k.identity.workspaceId)
        ⟨["consumed operation identity changed"]⟩
      modifyAdmission fun a => { a with consumedOperations := a.consumedOperations.insert id }
      pure true

def AdmissionState.interrupt (a : AdmissionState) (id : String) : AdmissionState :=
  { a with
    activeOperationId := if a.activeOperationId = some id then none else a.activeOperationId
    pendingStop := if a.pendingStop = some id then none else a.pendingStop
    interruptedStop := if a.pendingStop = some id then some id else a.interruptedStop
    interruptedOperations :=
      if id ∈ a.interruptedOperations then a.interruptedOperations
      else a.interruptedOperations ++ [id] }

def AdmissionState.endSession (a : AdmissionState) : AdmissionState :=
  a.consumedOperations.foldl AdmissionState.interrupt { a with consumedOperations := [] }

def noteExecutionSessionEnded (reachedDriver : Bool) : KernelM Unit := do
  if ¬reachedDriver ∧ (← get).admission.consumedOperations = [] then pure ()
  else modifyAdmission AdmissionState.endSession

def ensureStoppedIfIdle (env : KernelEnv) : KernelM Bool := do
  let a := (← get).admission
  if a.activeOperationId.isSome ∨ a.pendingStop.isSome ∨ a.pendingRestart.isSome ∨
      a.queuedInput.isSome ∨ a.consumedOperations ≠ [] ∨ a.interruptedOperations ≠ [] ∨
      a.interruptedStop.isSome then pure false
  else do
    let (desired, revision) ← onDisk (loadDesired env)
    if desired = .stopped then pure false
    else do
      let nextRevision ← require (checkedSucc revision) ⟨["revision overflow"]⟩
      onDisk (storeDesired env .stopped nextRevision)
      pure true

def dispatchPendingAfterQuiescence (env : KernelEnv) : KernelM Bool := do
  let a := (← get).admission
  if a.activeOperationId.isSome ∨ a.pendingStop.isSome ∨ a.interruptedStop.isSome ∨
      a.interruptedOperations ≠ [] ∨ a.recoveryProtection ∨ a.pendingRestart = none then
    pure false
  else do
    promoteQueued env
    pure true

/-- Settle what an ended session left behind: its Stop succeeded, the rest is unknown. -/
def settleStale (env : KernelEnv) (stop : Option String) :
    List String → KernelM (List String × Option Anyhow)
  | [] => pure ([], none)
  | id :: ids => do
    let failure ← settleOne id
    let (unsettled, firstError) ← settleStale env stop ids
    match failure with
    | none => pure (unsettled, firstError)
    | some e => pure (id :: unsettled, some e)
where
  settleOne (id : String) : KernelM (Option Anyhow) := do
    match ← attempt (onDisk (loadOperation env id)) with
    | .error e => pure (some e)
    | .ok none => pure none
    | .ok (some operation) =>
      if operation.view.state.isTerminal then pure none
      else do
        let settled ← attempt <|
          if stop = some id then writeTerminal env id .succeeded none none
          else writeTerminal env id .recoveryRequired (some (errRecoveryRequired,
            "business session ended before the operation completed")) none
        match settled with
        | .error e => pure (some e)
        | .ok _ => pure none

def AdmissionState.staleOperations (a : AdmissionState) : List String :=
  match a.interruptedStop with
  | some stop =>
    if stop ∈ a.interruptedOperations then a.interruptedOperations
    else a.interruptedOperations ++ [stop]
  | none => a.interruptedOperations

def prepareRelaunch (env : KernelEnv) : KernelM Unit := do
  let a := (← get).admission
  let stop := a.interruptedStop
  modifyAdmission fun a => { a with interruptedStop := none, interruptedOperations := [] }
  if a.staleOperations = [] then pure ()
  else do
    let (unsettled, firstError) ← settleStale env stop a.staleOperations
    if unsettled ≠ [] then do
      modifyAdmission fun a => { a with
        interruptedOperations := unsettled
        interruptedStop := match stop with
          | some id => if id ∈ unsettled then some id else a.interruptedStop
          | none => a.interruptedStop
        recoveryProtection := true }
      throw ⟨["settle interrupted session operations: " ++
        (firstError.map Anyhow.render).getD "operations remain unsettled"]⟩
    else refreshRecoveryProtection

/-- Restore the cancellation marks of the recovered operations; a receipt that cannot be
read counts as a cancellation and keeps the protection. -/
def restoreCancellations (env : KernelEnv) : List String → KernelM Unit
  | [] => pure ()
  | id :: ids => do
    restore id
    restoreCancellations env ids
where
  restore (id : String) : KernelM Unit := do
    match ← attempt (readCancellation id) with
    | .ok requested => onlyIf requested (markCancelled id)
    | .error (_ : Anyhow) => do
      protect
      markCancelled id
  readCancellation (id : String) : KernelM Bool := do
    let operation ← require (← onDisk (loadOperation env id))
      ⟨["recovered operation disappeared"]⟩
    onDisk (cancellationRecorded env operation)

def recover (env : KernelEnv) : KernelM (List String) := do
  let live := (← get).live
  onDisk (repairDesiredAfterQuiescence env)
  let scan ← onDisk (recoverUnfinishedOperations live)
  modifyAdmission fun a => { a with
    recoveredOperations := scan.recovered.foldl (fun ids id => ids.insert id) a.recoveredOperations
    recoveryProtection := scan.recovered ≠ [] ∨ scan.blocked ≠ [] ∨
      a.interruptedOperations ≠ [] ∨ a.interruptedStop.isSome }
  restoreCancellations env scan.recovered
  pure scan.recovered

/-- Startup may settle an operation of a previous owner, never the current owner's work. -/
def AdmissionState.mayResolve (a : AdmissionState) (op : StoredOperation) : Bool :=
  !(op.view.state.isTerminal ∨ op.view.operationId ∉ a.recoveredOperations ∨
    a.activeOperationId = some op.view.operationId ∨ a.pendingStop = some op.view.operationId ∨
    a.pendingRestart = some op.view.operationId)

/-- A receipt that cannot be read counts as a cancellation. -/
def countsAsCancelled : Except Anyhow Bool → Bool
  | .ok requested => requested
  | .error _ => true

def settleEntry (env : KernelEnv) (id : String) : KernelM (List String) := do
  onDisk (access ["read operations dir entry"])
  match ← attempt (onDisk (access [])) with
  | .error e =>
    throw ⟨["read operation record " ++ operationPath env id ++ ": " ++ Anyhow.render e]⟩
  | .ok () => do
    let k ← get
    match k.disk.store.operations.lookup id with
    | none => pure []
    | some (.error cause) =>
      throw ⟨["decode operation record " ++ operationPath env id ++ ": " ++ cause]⟩
    | some (.ok op) =>
      if k.admission.mayResolve op.1 then do
        resolve op.1
        modifyAdmission fun a => { a with
          recoveredOperations := a.recoveredOperations.filter (· ≠ op.1.view.operationId) }
        pure [op.1.view.operationId]
      else pure []
where
  resolve (op : StoredOperation) : KernelM Unit := do
    let recorded ← attempt (onDisk (cancellationRecorded env op))
    if op.view.kind = .stop then do
      let _ ← writeTerminal env op.view.operationId .succeeded none none
      pure ()
    else do
      onDisk (storeOperation (interruptedRecord op))
      onlyIf (countsAsCancelled recorded) (markCancelled op.view.operationId)
      emitTerminalRecord env (interruptedRecord op)

def settleEntries (env : KernelEnv) : List String → KernelM (List String)
  | [] => pure []
  | id :: ids => do
    let settled ← settleEntry env id
    let rest ← settleEntries env ids
    pure (settled ++ rest)

/-- `settle_unresolved_recoveries`; admission runs it too, under its own lock. -/
def settleUnresolvedRecoveries (env : KernelEnv) : KernelM (List String) := do
  onDisk (access ["scan operations dir"])
  let settled ← settleEntries env (← get).disk.store.operations.keys
  refreshRecoveryProtection
  pure settled

end Rcoder.Runtime
