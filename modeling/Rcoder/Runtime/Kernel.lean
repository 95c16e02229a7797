import Rcoder.Runtime.Store

/-!
# The runtime kernel: state, slots and settlement

The kernel owns one executor. An accepted operation waits in one of three slots: the active
one, a pending Stop, or the single queued start that is dispatched once the slots before it
are released. The functions here are the pieces the entry points share: publishing events,
settling a record, promoting or superseding the queued operation, and recomputing the
recovery protection.
-/

namespace Rcoder.Runtime

open Effect

inductive DispatchAction
  | deployArtifact (operationId url : String) (sha256 : Option String)
      (pg : Option StartPgCredential)
  | deployLocalArtifact (operationId artifactId : String) (sha256 : Option String)
      (pg : Option StartPgCredential)
  | orchestrateSource (operationId : String) (devProfile : Bool) (pg : Option StartPgCredential)
  | recoverArtifact (operationId releaseId : String) (pg : Option StartPgCredential)
  | stopBusiness (operationId : String)
  | cancelSource (operationId : String)
  deriving DecidableEq, Repr

structure AdmissionState where
  activeOperationId : Option String := none
  pendingStop : Option String := none
  pendingRestart : Option String := none
  queuedInput : Option StoredOperation := none
  recoveryProtection : Bool := false
  recoveredOperations : List String := []
  interruptedStop : Option String := none
  consumedOperations : List String := []
  interruptedOperations : List String := []
  latestAdmittedOperationId : Option String := none
  foregroundExitingOperation : Option String := none
  deriving DecidableEq, Repr

/-- The kernel with its store and, in order, the actions it has dispatched. -/
structure Kernel where
  disk : Disk
  identity : RuntimeIdentityView
  admission : AdmissionState
  cancelled : List String
  dispatched : List DispatchAction

abbrev KernelM := EStateM Anyhow Kernel

def liveExecutionIds (a : AdmissionState) : List String :=
  a.activeOperationId.toList ++ a.pendingStop.toList ++ a.pendingRestart.toList ++
    a.interruptedStop.toList ++ a.interruptedOperations

namespace Kernel

def new (store : RuntimeStore) (identity : RuntimeIdentityView) : Kernel where
  disk := ⟨store, []⟩
  identity := identity
  admission := {}
  cancelled := []
  dispatched := []

def record? (k : Kernel) (id : String) : Option StoredOperation := k.disk.store.record? id

def revision (k : Kernel) : Nat := k.disk.store.revision

def live (k : Kernel) : List String := liveExecutionIds k.admission

end Kernel

variable {ε α : Type}

def onDisk (m : EStateM ε Disk α) : EStateM ε Kernel α :=
  zoom Kernel.disk (fun d k => { k with disk := d }) m

def modifyAdmission (f : AdmissionState → AdmissionState) : EStateM ε Kernel Unit :=
  modify fun k => { k with admission := f k.admission }

def dispatch (action : DispatchAction) : EStateM ε Kernel Unit :=
  modify fun k => { k with dispatched := k.dispatched ++ [action] }

def markCancelled (id : String) : EStateM ε Kernel Unit :=
  modify fun k => { k with cancelled := k.cancelled.insert id }

def protect : EStateM ε Kernel Unit :=
  modifyAdmission fun a => { a with recoveryProtection := true }

def nextSequence (history : List RuntimeEventRecord) : Option Nat :=
  match history.getLast? with
  | none => some 1
  | some event => checkedSucc event.sequence

/-- Append an event; a failure is reported, never raised. -/
def emitWithPayload (env : KernelEnv) (id stage : String) (service eventName : Option String)
    (payload : Option Json) : EStateM ε Kernel Bool := do
  match ← attempt (onDisk (replayEvents env id 0)) with
  | .error _ => pure false
  | .ok history =>
    if history.any fun event => event.stage == "terminal" then pure false
    else
      match nextSequence history with
      | none => pure false
      | some sequence => do
        let k ← get
        match ← attempt (onDisk (appendEvent env
            ⟨id, sequence, k.identity.runtimeInstanceId, stage, service, eventName, payload⟩)) with
        | .error _ => pure false
        | .ok () => pure true

def emit (env : KernelEnv) (id stage : String) (service eventName : Option String) :
    EStateM ε Kernel Unit := do
  let _ ← emitWithPayload env id stage service eventName none
  pure ()

def emitTerminalRecord (env : KernelEnv) (stored : StoredOperation) : EStateM ε Kernel Unit := do
  let eventName := if stored.view.state = .succeeded then "Completed" else "Failed"
  let payload := stored.view.errorCode.map fun code =>
    Json.object [("code", .str code), ("error", .str (stored.view.errorMessage.getD ""))]
  let _ ← emitWithPayload env stored.view.operationId "terminal" none (some eventName) payload
  pure ()

/-- An event of the orchestration of a known operation; it does not take the admission lock. -/
def appendOrchestrationEvent (env : KernelEnv) (id stage : String) (service : Option String)
    (eventName : String) (payload : Option Json) : KernelM Bool := do
  match ← attempt (onDisk (loadOperation env id)) with
  | .ok (some _) => emitWithPayload env id stage service (some eventName) payload
  | .ok none => pure false
  | .error (_ : Anyhow) => pure false

def StoredOperation.settle (op : StoredOperation) (state : RuntimeOperationState)
    (error : Option (String × String)) (failureDetail : Option RuntimeFailureDetail) :
    StoredOperation :=
  { op with view := { op.view with
    state := state
    errorCode := (error.map Prod.fst).or op.view.errorCode
    errorMessage := (error.map Prod.snd).or op.view.errorMessage
    failureDetail := failureDetail } }

/-- Persist a terminal or recovery state. A record that already has one is left alone. -/
def writeTerminal (env : KernelEnv) (id : String) (state : RuntimeOperationState)
    (error : Option (String × String)) (failureDetail : Option RuntimeFailureDetail) :
    KernelM StoredOperation := do
  let stored ← require (← onDisk (loadOperation env id)) ⟨["finish unknown operation"]⟩
  ensure state.Settled
    ⟨["finish requires a terminal or recovery state"]⟩
  if stored.view.state.Settled then do
    emitTerminalRecord env stored
    pure stored
  else do
    onDisk (storeOperation (stored.settle state error failureDetail))
    emitTerminalRecord env (stored.settle state error failureDetail)
    pure (stored.settle state error failureDetail)

def dispatchActionFor (stored : StoredOperation) : DispatchAction :=
  let pg := stored.request.runConfig.bind OperationRunConfig.pg
  match stored.request.kind, stored.request.profile with
  | .deploy, .artifact (.url url sha256) =>
    .deployArtifact stored.view.operationId url sha256 pg
  | .deploy, .artifact (.artifactId artifactId) =>
    .deployLocalArtifact stored.view.operationId artifactId none pg
  | .deploy, .artifact (.retainedWorkspace releaseId) =>
    .recoverArtifact stored.view.operationId releaseId pg
  | .stop, _ => .stopBusiness stored.view.operationId
  | .start, .source _ | .restart, .source _ =>
    .orchestrateSource stored.view.operationId true pg
  | _, _ => .stopBusiness stored.view.operationId

/-- The queued record as read back: accepted, not yet executed, and not a Stop. -/
def isWaiting : Except Anyhow (Option StoredOperation) → Bool
  | .ok (some op) => op.view.state = .accepted ∧ op.view.kind ≠ .stop
  | _ => false

/-- Hand the queued operation to the executor, from the input retained at its admission. -/
def promoteQueued (env : KernelEnv) : KernelM Unit := do
  let k ← get
  match k.admission.pendingRestart with
  | none => pure ()
  | some id =>
    if k.admission.recoveryProtection then pure ()
    else do
      let loaded ← attempt (onDisk (loadOperation env id))
      match isWaiting loaded, k.admission.queuedInput.filter (·.view.operationId = id) with
      | true, some input => do
        modifyAdmission fun a => { a with
          queuedInput := none, pendingRestart := none, activeOperationId := some id }
        emit env id "dispatched" none (some "QueuedDispatch")
        dispatch (dispatchActionFor input)
      | _, _ => do
        protect
        throw ⟨["queued operation " ++ id ++
          " lacks confirmed execution input; recovery required"]⟩

/-- Settle the queued operation as superseded; on failure it keeps its slot. -/
def settleQueuedRestartOnTerminalFailure (env : KernelEnv) (reason : String) : KernelM Unit := do
  match (← get).admission.pendingRestart with
  | none => pure ()
  | some queuedId => do
    modifyAdmission fun a => { a with pendingRestart := none }
    match ← attempt (writeTerminal env queuedId .cancelled (some (errSuperseded,
        "superseded: active operation finished without success (" ++ reason ++
          "); re-admit to retry")) none) with
    | .error e => do
      modifyAdmission fun a => { a with pendingRestart := some queuedId }
      throw ⟨["settle superseded queued operation: " ++ Anyhow.render e]⟩
    | .ok _ => modifyAdmission fun a => { a with queuedInput := none }

/-- The slot bookkeeping after a terminal write, shared by `finish` and the commit. -/
def releaseSlots (env : KernelEnv) (id : String) (state : RuntimeOperationState) :
    KernelM Unit := do
  modify fun k => { k with cancelled := k.cancelled.filter (· ≠ id) }
  onlyIf (state = .recoveryRequired) protect
  releaseActive
  releaseStop
where
  releaseActive : KernelM Unit := do
    if (← get).admission.activeOperationId = some id then do
      modifyAdmission fun a => { a with activeOperationId := none }
      if state.isTerminal ∧ (← get).admission.pendingStop = none then promoteQueued env
      else
        onlyIf (state = .recoveryRequired)
          (settleQueuedRestartOnTerminalFailure env "active failed, cancelled or unknown outcome")
    else pure ()
  releaseStop : KernelM Unit := do
    if (← get).admission.pendingStop = some id then do
      modifyAdmission fun a => { a with pendingStop := none }
      if state.isTerminal ∧ (← get).admission.activeOperationId = none then promoteQueued env
      else
        onlyIf (state = .recoveryRequired)
          (settleQueuedRestartOnTerminalFailure env "stop cleanup unknown")
    else pure ()

/-- Whether some readable record outside `live` has no terminal state; a record that cannot
be read is a failure. -/
def scanUnresolved (live : List String) : List String → StoreM Bool
  | [] => pure false
  | id :: ids => do
    access []
    access []
    match (← get).store.operations.lookup id with
    | none => throw ⟨["No such file or directory"]⟩
    | some (.error cause) => throw ⟨[cause]⟩
    | some (.ok op) =>
      if op.1.view.operationId ∈ live then scanUnresolved live ids
      else if op.1.view.state.isTerminal then scanUnresolved live ids
      else pure true

def scanOperations (live : List String) : StoreM Bool := do
  access []
  scanUnresolved live (← get).store.operations.keys

def refreshRecoveryProtection : EStateM ε Kernel Unit := do
  let live := (← get).live
  match ← attempt (onDisk (scanOperations live)) with
  | .ok unresolved => modifyAdmission fun a => { a with recoveryProtection := unresolved }
  | .error _ => protect

end Rcoder.Runtime
