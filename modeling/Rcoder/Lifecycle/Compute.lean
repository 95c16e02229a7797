import Mathlib.Data.List.Dedup
import Mathlib.Data.List.Sort
import Rcoder.Lifecycle.Configuration

/-!
# The compute ledger: intents and admission

Each environment of an application has a head, its current compute intent, that names the
control with authority. Admitting a control may supersede the one named by the head and
records which operations it interrupts; claiming it cancels the interrupted business work that
never had a chance to write. Superseding takes authority away and proves nothing about writes
that are still under way.
-/

namespace Rcoder.Lifecycle

open Effect

namespace Compute

def invalidCompute (message : String) : StoreError := .invalidOperation message

/-- A Stop or Restart that still holds a scope, as the blocker of a request. -/
def controlConflict (control : ControlRecord) : StoreError :=
  .operationInProgress
    { operationId := control.operationId
      scope := control.scope
      kind := match control.scope, control.action with
        | .dev, .stop => .stopBuilder
        | .dev, .restart => .restartBuilder
        | _, .stop => .stop
        | _, .restart => .restart
      state := match control.state with
        | .pending => .pending
        | .recoveryRequired => .recoveryRequired
        | _ => .running
      step := control.stage }

/-- `UPDATE userapp_compute_controls`: exactly one row has to meet the condition. -/
def updateControl (operationId : String) (condition : ControlRecord → Bool)
    (change : ControlRecord → ControlRecord) : Tx Unit := do
  let db ← get
  let row ← demand ((db.controls.find? operationId).filter condition) .versionConflict
  let row := change row
  failIf (row.state = .running ∧ (row.executorId = none ∨ row.executorId = some ""))
    (.storage "CHECK constraint failed: userapp_compute_controls")
  modify fun db => { db with
    controls := db.controls.set row
    history := db.history.control row }

/-! ### Draining -/

def neverClaimed (control : ControlRecord) : Bool :=
  control.state = .superseded && control.executorId.isNone && control.stage = "accepted"

def drainedOne (db : Store) (record : ControlRecord) (id : String) : Except StoreError Unit := do
  let business ← db.readOperation record.appId id
  match business with
  | some old => do
    failIf (old.lifecycleId ≠ record.lifecycleId ∨ old.state.isTerminal = false)
      (invalidCompute "Interrupted business operation is not reconciled")
    failIf (db.leases.find? id ≠ none) (invalidCompute "Interrupted business lease is not released")
  | none => do
    let control ← db.readControl record.appId id
    let old ← demand control (invalidCompute "Interrupted operation evidence is missing")
    failIf (old.lifecycleId ≠ record.lifecycleId ∨
        ¬(old.state = .succeeded ∨ old.state = .failed ∨ neverClaimed old) ∨ old.lease ≠ none)
      (invalidCompute "Interrupted compute operation is not reconciled")

def drained (db : Store) (record : ControlRecord) : Except StoreError Unit :=
  record.interruptedOperations.forM (drainedOne db record)

/-! ### Heads -/

inductive ScopedHead
  | absent
  | current (head : IntentRow)
  | historical (head : IntentRow)

def headControls (db : Store) (head : IntentRow) : List ControlRecord :=
  db.controls.rows.filter fun control =>
    control.appId = head.appId ∧ control.lifecycleId = head.lifecycleId ∧
      control.scope = head.scope

def settledControl (db : Store) (head : IntentRow) (row : ControlRecord) :
    Except StoreError Unit := do
  let control ← decodeControl row
  failIf (head.controlOperationId = some control.operationId ∧
      control.generation ≠ head.generation)
    (invalidCompute "Compute intent operation identity mismatch")
  failIf (control.state = .superseded ∧
    (control.executorId ≠ none ∨ control.stage ≠ "accepted" ∨ control.lease ≠ none))
    .lifecycleConflict
  failIf control.isLive .lifecycleConflict
  drained db control

def validateSettledHead (db : Store) (head : IntentRow) : Except StoreError Unit := do
  failIf (head.generation < 1 ∨ head.revision < 1)
    (invalidCompute "Invalid compute intent revision")
  failIf (head.scope = .application) (invalidCompute "Invalid compute intent scope")
  (headControls db head).forM (settledControl db head)
  failIf (head.controlOperationId.any fun id =>
      (headControls db head).all (·.operationId ≠ id))
    (invalidCompute "Compute intent operation missing or outside its scope")

def classifyHead (db : Store) (app : LifecycleRecord) (head : IntentRow) :
    Except StoreError ScopedHead :=
  if head.lifecycleId = app.lifecycleId then pure (.current head)
  else do
    validateSettledHead db head
    pure (.historical head)

def readScopedHead (db : Store) (app : LifecycleRecord) (scope : OperationScope) :
    Except StoreError ScopedHead :=
  match db.intents.find? (app.appId, scope) with
  | none => pure .absent
  | some head => classifyHead db app head

def retireHead (head : IntentRow) : Tx Unit :=
  modify fun db => { db with intents := db.intents.erase (head.appId, head.scope) }

def retireScopedHead (app : LifecycleRecord) (scope : OperationScope) : Tx Unit := do
  let found ← reads fun db => readScopedHead db app scope
  match found with
  | .absent => pure ()
  | .historical head => retireHead head
  | .current head => do
    reads fun db => validateSettledHead db head
    retireHead head

def retireLifecycleHeads (app : LifecycleRecord) : Tx Unit := do
  retireScopedHead app .dev
  retireScopedHead app .prod

def environments : OperationScope → List OperationScope
  | .application => [.dev, .prod]
  | .dev => [.dev]
  | .prod => [.prod]

def namedControl (db : Store) (head : IntentRow) (missing : String) :
    Except StoreError (Option ControlRecord) :=
  match head.controlOperationId with
  | none => pure none
  | some id => do
    let control ← db.readControl head.appId id
    some <$> demand control (invalidCompute missing)

def headControl (db : Store) (app : LifecycleRecord) (scope : OperationScope) :
    Except StoreError (Option ControlRecord) := do
  let found ← readScopedHead db app scope
  match found with
  | .current head => namedControl db head "Compute intent target is missing"
  | _ => pure none

def checkBusinessAuthority (db : Store) (operation : OperationRecord) :
    Except StoreError Unit := do
  let found ← db.readApp operation.appId
  let app ← demand found .notFound
  failIf (app.lifecycleId ≠ operation.lifecycleId) .lifecycleConflict
  (environments operation.scope).forM fun scope => do
    let control ← headControl db app scope
    failIf (control.any fun c => c.interruptedOperations.contains operation.operationId)
      .versionConflict

/-- `guard_admission`: no business work starts while a control holds its scope. -/
def guardAdmission (db : Store) (app : LifecycleRecord) (scope : OperationScope) :
    Except StoreError Unit :=
  (environments scope).forM fun scope => do
    let control ← headControl db app scope
    match control.filter (·.isLive) with
    | some control => throw (controlConflict control)
    | none => pure ()

/-! ### Admission -/

def lastGeneration (db : Store) (appId : String) (scope : OperationScope) : Int :=
  ((db.controls.rows.filter fun control => control.appId = appId ∧ control.scope = scope).map
    (·.generation)).foldl max 0

def nextGeneration (db : Store) (appId : String) (scope : OperationScope) :
    Except StoreError Int :=
  demand (checkedSucc (lastGeneration db appId scope))
    (invalidCompute "Compute generation exhausted")

def sortDedup (ids : List String) : List String :=
  ids.dedup.insertionSort fun a b => textBefore b a = false

theorem mem_sortDedup {id : String} {ids : List String} : id ∈ sortDedup ids ↔ id ∈ ids := by
  simp [sortDedup]

/-- User requests and automatic repairs have separate request ids. -/
def validateRequestNamespace (requestId : String) (idleOnly : Bool) : Except StoreError Unit :=
  if idleOnly = false then invalid (validateUserComputeRequestId requestId)
  else failIf (isAutomaticRepair requestId = false)
    (invalidCompute "Automatic repair requires an internal request identity")

def validateControlRequest (request : ControlRequest) (idleOnly : Bool) :
    Except StoreError Unit := do
  invalid (validateIdentifier request.appId "app_id")
  invalid (validateIdentifier request.lifecycleId "lifecycle_id")
  invalid (validateIdentifier request.operationId "operation_id")
  invalid (validateIdentifier request.requestId "request_id")
  validateRequestNamespace request.requestId idleOnly
  failIf (request.scope = .application)
    (invalidCompute "Compute control requires dev or prod scope")
  failIf (request.requestFingerprint.utf8ByteSize ≠ 64 ∨
      request.requestFingerprint.toUTF8.data.toList.all isAsciiHexdigit = false)
    (invalidCompute "Invalid compute request fingerprint")

def replayedControl (db : Store) (request : ControlRequest) : Option ControlRecord :=
  db.controls.rows.find? fun control =>
    control.appId = request.appId ∧ control.scope = request.scope ∧
      control.requestId = request.requestId

def supersedes (request : ControlRequest) (idleOnly : Bool) (old : ControlRecord) : Bool :=
  (request.action = .stop && old.action = .restart) ||
    (!idleOnly && request.action = .restart && isAutomaticRepair old.requestId)

/-- What the head's control hands on: its interrupted operations, and itself while it is live. -/
structure Inherited where
  interrupted : List String
  superseded : Option String

def inheritFrom (request : ControlRequest) (idleOnly : Bool) (old : ControlRecord) :
    Except StoreError Inherited :=
  if old.isLive then do
    failIf (supersedes request idleOnly old = false) (controlConflict old)
    pure ⟨old.interruptedOperations ++ [old.operationId], some old.operationId⟩
  else pure ⟨old.interruptedOperations, none⟩

def inherited (db : Store) (request : ControlRequest) (idleOnly : Bool) :
    Option IntentRow → Except StoreError Inherited
  | none => pure ⟨[], none⟩
  | some head => do
    let control ← namedControl db head "Compute intent target is missing"
    match control with
    | none => pure ⟨[], none⟩
    | some old => inheritFrom request idleOnly old

def admittedControl (request : ControlRequest) (generation : Int) (interrupted : List String)
    (now : Int) : ControlRecord where
  createdAt := now
  appId := request.appId
  lifecycleId := request.lifecycleId
  requestId := request.requestId
  scope := request.scope
  operationId := request.operationId
  requestFingerprint := request.requestFingerprint
  generation
  revision := 1
  action := request.action
  state := .pending
  executorId := none
  stage := "accepted"
  checkpoint := Json.object [("restart_image_roll", .bool request.restartImageRoll),
    ("builder_startup_mode", .str (match request.builderStartupMode with
      | .preserveBusinessIntent => "preserve_business_intent"
      | .managementOnly => "management_only"))]
  errorCode := none
  errorMessage := none
  lease := none
  interruptedOperations := interrupted

def supersede (row : ControlRecord) : ControlRecord :=
  { row with state := .superseded, revision := row.revision + 1 }

def supersedeControl (id : String) : Tx Unit := do
  let db ← get
  match (db.controls.find? id).filter (·.isLive) with
  | none => pure ()
  | some row => modify fun db => { db with
      controls := db.controls.set (supersede row)
      history := db.history.control (supersede row) }

def insertControl (control : ControlRecord) : Tx Unit := do
  let db ← get
  failIf (db.controls.find? control.operationId ≠ none ∨
      db.controls.rows.any fun row => row.appId = control.appId ∧ row.scope = control.scope ∧
        (row.requestId = control.requestId ∨ row.generation = control.generation))
    (.storage "UNIQUE constraint failed: userapp_compute_controls")
  modify fun db => { db with
    controls := db.controls.insert control
    history := db.history.control control }

def nextHeadRevision : Option IntentRow → Except StoreError Int
  | some head => demand (checkedSucc head.revision) (invalidCompute "Compute revision exhausted")
  | none => pure 1

def pointHead (request : ControlRequest) (head : Option IntentRow) (generation revision : Int) :
    Tx Unit := do
  let desiredState := match request.action with
    | .stop => DesiredState.stopped
    | .restart => .running
  match head with
  | some head => do
    let head := { head with
      generation, revision, desiredState, controlOperationId := some request.operationId }
    modify fun db => { db with intents := db.intents.set head }
  | none => do
    let head : IntentRow := ⟨request.appId, request.scope, request.lifecycleId, generation,
      revision, desiredState, some request.operationId⟩
    modify fun db => { db with intents := db.intents.insert head }

def takeHead (app : LifecycleRecord) (scope : OperationScope) : Tx (Option IntentRow) := do
  let found ← reads fun db => readScopedHead db app scope
  match found with
  | .current head => pure (some head)
  | .historical head => do
    retireHead head
    pure none
  | .absent => pure none

/-- A request that is not a replay becomes the control of its scope. -/
def admitNew (app : LifecycleRecord) (request : ControlRequest) (idleOnly : Bool) (now : Int) :
    Tx ControlRecord := do
  let active ← reads fun db => db.readActive app
  failIf (idleOnly = true ∧ (request.scope ≠ .dev ∨ request.action ≠ .restart ∨
    active.dev ≠ none ∨ active.application ≠ none)) .versionConflict
  failIf (active.application.any (·.kind.endsLifecycle)) .lifecycleConflict
  let head ← takeHead app request.scope
  failIf (idleOnly = true ∧ head.any (·.desiredState = .stopped)) .versionConflict
  let handed ← reads fun db => inherited db request idleOnly head
  let generation ← reads fun db => nextGeneration db request.appId request.scope
  let revision ← fromExcept (nextHeadRevision head)
  let slots := (app.activeOperations.slot request.scope).toList ++
    (app.activeOperations.slot .application).toList
  handed.superseded.forM supersedeControl
  insertControl (admittedControl request generation (sortDedup (handed.interrupted ++ slots)) now)
  pointHead request head generation revision
  readControl request.appId request.operationId

/-- `compute::admit`; `idleOnly` is the low-priority automatic repair. -/
def admitControl (request : ControlRequest) (idleOnly : Bool) (now : Int) : Tx ControlRecord := do
  fromExcept (validateControlRequest request idleOnly)
  claimApp request.appId
  let app ← readApp request.appId
  fromExcept (Domain.validateActive app)
  failIf (app.lifecycleId ≠ request.lifecycleId) .lifecycleConflict
  let db ← get
  match replayedControl db request with
  | some replay => do
    failIf (replay.lifecycleId ≠ request.lifecycleId ∨
        replay.requestFingerprint ≠ request.requestFingerprint ∨ replay.action ≠ request.action)
      (.requestReplayConflict "Compute request identity was reused with different input")
    fromExcept (decodeControl replay)
  | none => admitNew app request idleOnly now

/-! ### The current control -/

def headNames (head : IntentRow) (identity : ExecutorIdentity) : Bool :=
  head.lifecycleId = identity.lifecycleId && head.generation = identity.generation &&
    head.controlOperationId = some identity.operationId

def currentControl (identity : ExecutorIdentity) : Tx ControlRecord := do
  failIf (identity.scope = .application ∨ identity.generation < 1)
    (invalidCompute "Invalid compute executor scope or generation")
  fromExcept (invalid (validateIdentifier identity.executorId "executor_id"))
  let app ← readApp identity.appId
  fromExcept (Domain.validateActive app)
  failIf (app.lifecycleId ≠ identity.lifecycleId) .lifecycleConflict
  let db ← get
  let head ← demand (db.intents.find? (identity.appId, identity.scope)) .notFound
  failIf (headNames head identity = false) .versionConflict
  let record ← readControl identity.appId identity.operationId
  failIf (record.lifecycleId ≠ identity.lifecycleId ∨ record.scope ≠ identity.scope ∨
    record.generation ≠ identity.generation ∨ record.state.isTerminal) .versionConflict
  pure record

def checkExecutor (identity : ExecutorIdentity) : Tx ControlRecord := do
  let record ← currentControl identity
  failIf (record.state ≠ .running ∨ record.executorId ≠ some identity.executorId) .versionConflict
  pure record

/-! ### Claiming -/

/-- A wake whose runtime write was acknowledged and that only observes readiness. -/
def confirmedWake (old : OperationRecord) : Bool :=
  old.kind = .start && (old.state = .running || old.state = .recoveryRequired) &&
    old.step = "traffic_wake_observing" &&
    old.checkpoint.get "start_write_acknowledged" = some (.bool true) &&
    ((old.checkpoint.get "target").bind MutationTarget.read).any fun target =>
      target.context.appId = old.appId && target.context.Executes old

/-- An observed wake ends in the same transaction; the internal hop grants no further write. -/
def cancelWake (control : ControlRecord) (app : LifecycleRecord) (old : OperationRecord) :
    Tx LifecycleRecord := do
  reads fun db => Configuration.validateTerminal db old .failed
  let executorId ← demand old.executorId .versionConflict
  let checkpoint ← demand
    (old.checkpoint.assign "compute_operation_id" (.str control.operationId))
    (.storage "cannot index the checkpoint")
  let (app, closed) ← fromExcept (Domain.advance app { old with state := .running }
    { appId := old.appId
      lifecycleId := old.lifecycleId
      operationId := old.operationId
      expectedRevision := old.revision
      executorId
      state := .failed
      step := "traffic_wake_observation_failed"
      checkpoint
      errorCode := some "ERR_OPERATION_CANCELLED"
      errorMessage :=
        some "Read-only wake observation interrupted by explicit compute control" })
  saveOperation closed old
  deleteInput old.operationId
  pure app

def cancelled (control : ControlRecord) (old : OperationRecord) : OperationRecord :=
  { old with
    state := .failed
    revision := old.revision + 1
    step := "cancelled_before_execution"
    errorCode := some "ERR_OPERATION_CANCELLED"
    errorMessage := some "Superseded by an explicit compute control before execution"
    checkpoint := Json.object [("compute_operation_id", .str control.operationId),
      ("no_execution_claim", .bool true)] }

def cancelPending (control : ControlRecord) (app : LifecycleRecord) (old : OperationRecord) :
    Tx LifecycleRecord := do
  let db ← get
  failIf (old.revision ≠ 1 ∨ old.executorId ≠ none ∨ old.kind.endsLifecycle ∨
      Domain.slotMatchesOperation app old = false ∨ db.leases.find? old.operationId ≠ none)
    (invalidCompute "Unclaimed operation has inconsistent execution evidence")
  reads fun db => Configuration.validateTerminal db old .failed
  saveOperation (cancelled control old) old
  deleteInput old.operationId
  pure { app with activeOperations := app.activeOperations.set old.scope none }

def cancelOne (control : ControlRecord) (app : LifecycleRecord) (id : String) :
    Tx LifecycleRecord := do
  let found ← reads fun db => db.readOperation control.appId id
  match found with
  | none => pure app
  | some old => do
    failIf (old.lifecycleId ≠ control.lifecycleId) .lifecycleConflict
    if confirmedWake old then cancelWake control app old
    else if old.state = .pending then cancelPending control app old
    else pure app

def cancelEach (control : ControlRecord) : List String → LifecycleRecord → Tx LifecycleRecord
  | [], app => pure app
  | id :: ids, app => do
    let app ← cancelOne control app id
    cancelEach control ids app

/-- `cancel_interruptible_business`: the slots are saved once, after the loop. -/
def cancelInterruptibleBusiness (control : ControlRecord) : Tx Unit := do
  let before ← readApp control.appId
  let app ← cancelEach control control.interruptedOperations before
  saveSlots app before

def claimControl (identity : ExecutorIdentity) (revision : Int) : Tx ControlRecord := do
  claimApp identity.appId
  let record ← currentControl identity
  failIf (record.revision ≠ revision ∨ record.state ≠ .pending ∨ record.executorId ≠ none)
    .versionConflict
  let next ← demand (checkedSucc revision) (invalidCompute "Compute revision exhausted")
  updateControl identity.operationId
    (fun row => row.revision = revision && row.executorId.isNone && row.state = .pending) fun row =>
    { row with
      executorId := some identity.executorId
      state := .running
      revision := next
      stage := "draining_previous" }
  cancelInterruptibleBusiness record
  readControl identity.appId identity.operationId

/-! ### Access and restoration -/

/-- `check_access`: an explicit start lifts a completed stop and lets go of its control. -/
def checkAccess (appId : String) (scope : OperationScope) (explicitStart : Bool) : Tx Unit := do
  onlyIf (explicitStart = true) (claimApp appId)
  let db ← get
  match db.intents.find? (appId, scope) with
  | none => pure ()
  | some head => do
    let found ← reads fun db => db.readApp appId
    let app ← demand found .lifecycleConflict
    onlyIf (explicitStart = true) (fromExcept (Domain.validateActive app))
    let found ← reads fun db => classifyHead db app head
    match found with
    | .current head => do
      let control ← reads fun db => namedControl db head "Compute intent operation missing"
      match control.filter (·.isLive) with
      | some control => throw (controlConflict control)
      | none =>
        if head.desiredState = .stopped then do
          failIf (explicitStart = false) (invalidCompute
            "Compute is stopped; explicitly start or restart it before accessing this service")
          let head := { head with
            desiredState := .running, controlOperationId := none, revision := head.revision + 1 }
          modify fun db => { db with intents := db.intents.set head }
        else pure ()
    | _ => pure ()


def DiscoveredIdentity.volumesInvalid (owner : Option String) (volumes : List ResourceIdentity) :
    Bool :=
  volumes.any (fun volume => owner.isNone || volume.kind ≠ .persistentVolumeClaim ||
    volume.name = "" || volume.uid = "") || !(volumes.map (·.name)).Nodup

def validateDiscovered (found : DiscoveredIdentity) : Except String Unit := do
  validateIdentifier found.appId "app_id"
  validateIdentifier found.lifecycleId "lifecycle_id"
  failIf ((found.devUid = none ∧ found.prodUid = none) ∨ found.devUid = some "" ∨
      found.prodUid = some "" ∨ (found.devStopped = true ∧ found.devUid = none) ∨
      (found.prodStopped = true ∧ found.prodUid = none))
    "Invalid discovered compute identity"
  failIf (DiscoveredIdentity.volumesInvalid found.devUid found.devVolumes ∨
      DiscoveredIdentity.volumesInvalid found.prodUid found.prodVolumes)
    "Invalid discovered volume identity"

def rootIsUsed (db : Store) (app : LifecycleRecord) : Bool :=
  (db.operations.rows.any fun operation => operation.appId = app.appId &&
      (operation.lifecycleId ≠ app.lifecycleId || operation.kind ≠ .ensureBuilder ||
        operation.scope ≠ .dev || operation.state ≠ .failed ||
        operation.step ≠ "creation_result" || operation.checkpoint ≠ .null)) ||
    (db.requests.rows.any fun request => request.appId = app.appId &&
      match request.target with
      | .control _ lifecycleId => lifecycleId ≠ app.lifecycleId
      | .recreate _ _ => true) ||
    (db.leases.rows.any (·.context.appId = app.appId)) ||
    (db.bindings.rows.any (·.appId = app.appId)) ||
    (db.activity.rows.any (·.appId = app.appId)) ||
    (db.configVersions.rows.any (·.appId = app.appId)) ||
    (db.configs.rows.any (·.appId = app.appId)) ||
    (db.intents.rows.any (·.appId = app.appId)) ||
    (db.controls.rows.any (·.appId = app.appId)) ||
    db.witnesses.rows.any (·.appId = app.appId)

def rebound (app : LifecycleRecord) (found : DiscoveredIdentity) : LifecycleRecord :=
  { app with
    lifecycleId := found.lifecycleId
    lifecycleEpoch := app.lifecycleEpoch + 1
    metadataRevision := app.metadataRevision + 1
    runtimePolicy := if found.prodStopped then
      { app.runtimePolicy with wakeOnTraffic := some false } else app.runtimePolicy }

def replaceSlots (app : LifecycleRecord) (oldLifecycle : String) : Tx Unit := do
  let db ← get
  failIf (((db.slots.find? app.appId).filter fun row =>
    row.lifecycleId = oldLifecycle ∧ row.active.isEmpty = true) = none) .versionConflict
  let row : SlotsRow := ⟨app.appId, app.lifecycleId, {}⟩
  modify fun db => { db with slots := (db.slots.erase app.appId).insert row }

/-- `restore_unprovisioned_root`: an unused root takes over a discovered lifecycle. -/
def restoreUnprovisionedRoot (app : LifecycleRecord) (found : DiscoveredIdentity) :
    Tx LifecycleRecord := do
  failIf (app.lifecycleEpoch ≠ 1 ∨ app.metadataRevision ≠ 1 ∨ app.activeOperations ≠ {})
    .lifecycleConflict
  let db ← get
  failIf (rootIsUsed db app) .lifecycleConflict
  let restored := rebound app found
  replaceSlots restored app.lifecycleId
  saveApp restored app.lifecycleId app.metadataRevision
  pure { restored with activeOperations := {} }

def insertStoppedIntent (found : DiscoveredIdentity) (scope : OperationScope) (stopped : Bool) :
    Tx Unit := do
  let db ← get
  onlyIf (stopped = true ∧ db.intents.find? (found.appId, scope) = none)
    (modify fun db => { db with
      intents := db.intents.insert ⟨found.appId, scope, found.lifecycleId, 1, 1, .stopped, none⟩ })

def recordDiscovery (found : DiscoveredIdentity) : Tx Unit := do
  let db ← get
  failIf (db.witnesses.find? (found.appId, found.lifecycleId) ≠ none)
    (.storage "UNIQUE constraint failed: userapp_recovery_witnesses")
  modify fun db => { db with witnesses := db.witnesses.insert found }
  insertStoppedIntent found .dev found.devStopped
  insertStoppedIntent found .prod found.prodStopped

def restoreMissingRoot (found : DiscoveredIdentity) (now : Int) : Tx LifecycleRecord := do
  let proposed ← fromExcept (Domain.identity found.appId found.lifecycleId now)
  let (app, created) ← ensureWithCreated proposed
  fromExcept (Domain.validateActive app)
  failIf (app.lifecycleId ≠ found.lifecycleId) .lifecycleConflict
  onlyIf (created = true) (recordDiscovery found)
  pure app

/-- `restore_identity`: no operation or success is invented for a discovered application. -/
def restoreIdentity (found : DiscoveredIdentity) (now : Int) : Tx LifecycleRecord := do
  fromExcept (invalid (validateDiscovered found))
  let existing ← reads fun db => db.readApp found.appId
  match existing with
  | none => restoreMissingRoot found now
  | some _ => do
    claimApp found.appId
    let app ← readApp found.appId
    fromExcept (Domain.validateActive app)
    if app.lifecycleId = found.lifecycleId then pure app
    else do
      let app ← restoreUnprovisionedRoot app found
      fromExcept (Domain.validateActive app)
      recordDiscovery found
      pure app

end Compute

end Rcoder.Lifecycle
