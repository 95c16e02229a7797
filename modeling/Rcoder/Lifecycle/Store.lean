import Rcoder.Lib.Table
import Rcoder.Lifecycle.Control
import Rcoder.Lifecycle.Domain

/-!
# The lifecycle tables

The rows of the store and the statements issued against them. Every entry point of the store
is one transaction over these tables; a statement that finds no row to change, or a key that
is already taken, fails the transaction. Reading a row decodes it: a row that breaks a rule of
the codec is an error and never an absent row.
-/

namespace Rcoder.Lifecycle

structure ApplicationRow where
  appId : String
  lifecycleId : String
  lifecycleEpoch : Int
  state : LifecycleState
  metadataRevision : Int
  controlRevision : Int
  name : Option String
  tenantId : Option String
  spaceId : Option String
  policy : RuntimePolicy
  createdAt : Int
  deriving DecidableEq

structure SlotsRow where
  appId : String
  lifecycleId : String
  active : ActiveOperations
  deriving DecidableEq

inductive RequestTarget
  | control (operationId lifecycleId : String)
  | recreate (previousLifecycleId newLifecycleId : String)
  deriving DecidableEq

structure RequestRow where
  appId : String
  requestId : String
  target : RequestTarget
  deriving DecidableEq

structure InputRow where
  operationId : String
  appId : String
  lifecycleId : String
  input : ExecutionInput
  deriving DecidableEq

structure DeadlineRow where
  operationId : String
  appId : String
  lifecycleId : String
  deadlineMs : Int
  unheldObservedMs : Option Int
  deriving DecidableEq

inductive DesiredState
  | running
  | stopped
  deriving DecidableEq

/-- The current compute intent of a scope: its head. -/
structure IntentRow where
  appId : String
  scope : OperationScope
  lifecycleId : String
  generation : Int
  revision : Int
  desiredState : DesiredState
  controlOperationId : Option String
  deriving DecidableEq

structure DiscoveredIdentity where
  appId : String
  lifecycleId : String
  devUid : Option String
  prodUid : Option String
  devStopped : Bool
  prodStopped : Bool
  devVolumes : List ResourceIdentity
  prodVolumes : List ResourceIdentity
  deriving DecidableEq

structure ActivityRow where
  appId : String
  lifecycleId : String
  scope : OperationScope
  lastAccessedAt : Int
  deriving DecidableEq

structure ConfigVersionRow where
  appId : String
  lifecycleId : String
  scope : OperationScope
  version : Int
  requestId : String
  expectedRevision : Int
  pg : StartPgCredential
  deriving DecidableEq

structure ConfigRow where
  appId : String
  lifecycleId : String
  scope : OperationScope
  revision : Int
  savedVersion : Int
  appliedVersion : Option Int
  applyingVersion : Option Int
  applyingOperationId : Option String
  deriving DecidableEq

inductive CredentialState
  | captured
  | applying
  | applied
  | failed
  | unknown
  deriving DecidableEq

inductive BusinessState
  | notStarted
  | starting
  | ready
  | failed
  | unknown
  deriving DecidableEq

structure OperationConfigRow where
  operationId : String
  appId : String
  lifecycleId : String
  scope : OperationScope
  configVersion : Int
  target : Option RuntimeConfigurationTarget
  credentials : CredentialState
  business : BusinessState
  deriving DecidableEq

/-- What committed statements have written to a row of these tables, oldest first. It is a
history variable: no transaction reads it. -/
structure History where
  applications : List LifecycleRecord := []
  operations : List OperationRecord := []
  controls : List ControlRecord := []

namespace History

def application (history : History) (record : LifecycleRecord) : History :=
  { history with applications := history.applications ++ [record] }

def operation (history : History) (record : OperationRecord) : History :=
  { history with operations := history.operations ++ [record] }

def control (history : History) (record : ControlRecord) : History :=
  { history with controls := history.controls ++ [record] }

end History

structure Store where
  apps : Table ApplicationRow.appId := .empty
  slots : Table SlotsRow.appId := .empty
  operations : Table OperationRecord.operationId := .empty
  requests : Table (fun r : RequestRow => (r.appId, r.requestId)) := .empty
  inputs : Table InputRow.operationId := .empty
  leases : Table (fun b : LeaseBinding => b.context.operationId) := .empty
  deadlines : Table DeadlineRow.operationId := .empty
  bindings : Table (fun b : ResourceBinding => (b.serviceType, b.physicalUid)) := .empty
  activity : Table (fun a : ActivityRow => (a.appId, a.lifecycleId, a.scope)) := .empty
  intents : Table (fun i : IntentRow => (i.appId, i.scope)) := .empty
  controls : Table ControlRecord.operationId := .empty
  controlDeadlines : Table DeadlineRow.operationId := .empty
  witnesses : Table (fun d : DiscoveredIdentity => (d.appId, d.lifecycleId)) := .empty
  configVersions : Table (fun v : ConfigVersionRow =>
    (v.appId, v.lifecycleId, v.scope, v.version)) := .empty
  configs : Table (fun c : ConfigRow => (c.appId, c.lifecycleId, c.scope)) := .empty
  operationConfigs : Table OperationConfigRow.operationId := .empty
  history : History := {}

abbrev Tx := EStateM StoreError Store

open Effect

/-! ### Decoding -/

def decodeApplication (row : ApplicationRow) (slots : SlotsRow) :
    Except StoreError LifecycleRecord := do
  failIf (row.appId = "" ∨ row.lifecycleId = "") (.storage "persisted identity is empty")
  failIf (row.appId ≠ slots.appId ∨ row.lifecycleId ≠ slots.lifecycleId)
    (.storage "active operation slots belong to a different lifecycle")
  failIf (slots.active.application ≠ none ∧
      (slots.active.dev ≠ none ∨ slots.active.prod ≠ none))
    (.storage "application operation overlaps an environment operation")
  failIf (slots.active.dev ≠ none ∧ slots.active.dev = slots.active.prod)
    (.storage "same operation occupies both environment slots")
  failIf (slots.active.dev = some "" ∨ slots.active.prod = some "" ∨
      slots.active.application = some "") (.storage "persisted identity is empty")
  failIf (row.lifecycleEpoch < 1 ∨ row.metadataRevision < 1)
    (.storage "persisted revision or epoch must be positive")
  pure { runtimePolicy := row.policy, appId := row.appId, lifecycleId := row.lifecycleId,
         lifecycleEpoch := row.lifecycleEpoch, metadataRevision := row.metadataRevision,
         state := row.state, name := row.name, tenantId := row.tenantId, spaceId := row.spaceId,
         createdAt := row.createdAt, activeOperations := slots.active }

def decodeOperation (row : OperationRecord) : Except StoreError OperationRecord := do
  failIf (row.operationId = "" ∨ row.appId = "" ∨ row.lifecycleId = "")
    (.storage "persisted identity is empty")
  failIf (row.kind.scope ≠ row.scope) (.storage "persisted operation kind/scope mismatch")
  failIf (row.state = .running ∧ (row.executorId = none ∨ row.executorId = some ""))
    (.storage "running operation is missing executor identity")
  failIf (row.requestFingerprint.utf8ByteSize ≠ 64 ∨
      row.requestFingerprint.toUTF8.data.toList.all isAsciiHexdigit = false)
    (.storage "invalid persisted request fingerprint")
  failIf (row.revision < 1) (.storage "persisted revision or epoch must be positive")
  pure row

def decodeLease (row : ControlRecord) : Except StoreError Unit :=
  match row.lease with
  | none => pure ()
  | some receipt => do
    invalid receipt.validate
    let family ← demand row.scope.leaseFamily (.invalidOperation "Invalid compute receipt scope")
    failIf (receipt.serviceType ≠ family ∨ row.executorId = none ∨ row.executorId = some "")
      (.invalidOperation "Invalid compute receipt owner")

def decodeControl (row : ControlRecord) : Except StoreError ControlRecord := do
  failIf (row.generation < 1 ∨ row.revision < 1)
    (.invalidOperation "Invalid compute control revision")
  decodeLease row
  pure row

def decodeLeaseBinding (row : LeaseBinding) : Except StoreError LeaseBinding := do
  invalid (row.context.validateIdentity row.context.appId)
  invalid row.receipt.validate
  pure row

/-! ### Reading -/

namespace Store

variable (db : Store)

def readApp (appId : String) : Except StoreError (Option LifecycleRecord) :=
  match db.apps.find? appId with
  | none => pure none
  | some row => do
    let slots ← demand (db.slots.find? appId)
      (.invalidOperation "Application active-operation slots are missing")
    some <$> decodeApplication row slots

def readOperation (appId operationId : String) : Except StoreError (Option OperationRecord) :=
  match (db.operations.find? operationId).filter (·.appId = appId) with
  | none => pure none
  | some row => some <$> decodeOperation row

def readControl (appId operationId : String) : Except StoreError (Option ControlRecord) :=
  match (db.controls.find? operationId).filter (·.appId = appId) with
  | none => pure none
  | some row => some <$> decodeControl row

def readLease (appId operationId : String) : Except StoreError (Option LeaseBinding) :=
  match (db.leases.find? operationId).filter (·.context.appId = appId) with
  | none => pure none
  | some row => some <$> decodeLeaseBinding row

def readSlot (app : LifecycleRecord) (scope : OperationScope) :
    Except StoreError (Option OperationRecord) :=
  match app.activeOperations.slot scope with
  | none => pure none
  | some id => do
    let found ← db.readOperation app.appId id
    let operation ← demand found (.invalidOperation "Active operation record is missing")
    failIf (operation.lifecycleId ≠ app.lifecycleId ∨ operation.scope ≠ scope ∨
        operation.state.isTerminal)
      (.invalidOperation "Active operation identity/scope/state is inconsistent")
    pure (some operation)

def readActive (app : LifecycleRecord) : Except StoreError ActiveOperationRecords := do
  let dev ← db.readSlot app .dev
  let prod ← db.readSlot app .prod
  let application ← db.readSlot app .application
  pure { dev, prod, application }

def readRequestOperation (appId : String) (request : RequestRow) :
    Except StoreError (Option OperationRecord) :=
  match request.target with
  | .recreate _ _ => pure none
  | .control operationId lifecycleId => do
    failIf (request.appId ≠ appId) (.invalidOperation "Invalid request mapping")
    let found ← db.readOperation appId operationId
    let operation ← demand found (.invalidOperation "Request operation is missing")
    failIf (lifecycleId ≠ operation.lifecycleId) .lifecycleConflict
    pure (some operation)

end Store

/-! ### Statements -/

def readApp (appId : String) : Tx LifecycleRecord := do
  let found ← reads fun db => db.readApp appId
  demand found .notFound

def readOperation (appId operationId : String) : Tx OperationRecord := do
  let found ← reads fun db => db.readOperation appId operationId
  demand found .notFound

def readControl (appId operationId : String) : Tx ControlRecord := do
  let found ← reads fun db => db.readControl appId operationId
  demand found .notFound

/-- `claim_app`: the root token that every writer competes on. -/
def claimApp (appId : String) : Tx Unit := do
  let db ← get
  match db.apps.find? appId with
  | none => pure ()
  | some row => do
    let next ← demand ((checkedSucc row.controlRevision).filter fun _ => 0 < row.controlRevision)
      (.invalidOperation "Application control revision exhausted")
    modify fun db => { db with apps := db.apps.set { row with controlRevision := next } }

def encodeApplication (record : LifecycleRecord) (controlRevision : Int) :
    Except StoreError ApplicationRow := do
  failIf (record.lifecycleEpoch < 1 ∨ record.metadataRevision < 1)
    (.storage "persisted revision or epoch must be positive")
  failIf (record.runtimePolicy.idleTimeoutSeconds.any (i64Max < ·))
    (.storage "idle timeout exceeds database integer range")
  pure { appId := record.appId, lifecycleId := record.lifecycleId,
         lifecycleEpoch := record.lifecycleEpoch, state := record.state,
         metadataRevision := record.metadataRevision, controlRevision, name := record.name,
         tenantId := record.tenantId, spaceId := record.spaceId, policy := record.runtimePolicy,
         createdAt := record.createdAt }

/-- `INSERT INTO userapps .. ON CONFLICT DO NOTHING`, with the slots of a new application. -/
def ensureRow (proposed : LifecycleRecord) : Tx Bool := do
  let row ← fromExcept (encodeApplication proposed 1)
  let db ← get
  match db.apps.find? row.appId with
  | some _ => do
    claimApp row.appId
    pure false
  | none => do
    failIf (row.lifecycleId = "") (.storage "CHECK constraint failed: userapps")
    modify fun db => { db with
      apps := db.apps.insert row
      history := db.history.application proposed }
    claimApp row.appId
    failIf (db.slots.find? row.appId ≠ none)
      (.storage "UNIQUE constraint failed: userapp_active_operations")
    modify fun db => { db with slots := db.slots.insert ⟨row.appId, row.lifecycleId, {}⟩ }
    pure true

def ensureWithCreated (proposed : LifecycleRecord) : Tx (LifecycleRecord × Bool) := do
  let created ← ensureRow proposed
  let app ← readApp proposed.appId
  pure (app, created)

def ensureApp (proposed : LifecycleRecord) : Tx LifecycleRecord := do
  let (app, _) ← ensureWithCreated proposed
  pure app

def saveApp (record : LifecycleRecord) (oldLifecycle : String) (oldRevision : Int) : Tx Unit := do
  let db ← get
  let row ← demand ((db.apps.find? record.appId).filter fun row =>
    row.lifecycleId = oldLifecycle ∧ row.metadataRevision = oldRevision) .versionConflict
  let saved ← fromExcept (encodeApplication record row.controlRevision)
  failIf (saved.lifecycleId = "") (.storage "CHECK constraint failed: userapps")
  modify fun db => { db with
    apps := db.apps.set saved
    history := db.history.application record }

/-- `save_slots`: no other transaction's slots are overwritten. -/
def saveSlots (app previous : LifecycleRecord) : Tx Unit := do
  let db ← get
  let row ← demand ((db.slots.find? app.appId).filter fun row =>
    row.lifecycleId = app.lifecycleId ∧ row.active = previous.activeOperations) .versionConflict
  failIf (app.activeOperations.application ≠ none ∧
      (app.activeOperations.dev ≠ none ∨ app.activeOperations.prod ≠ none))
    (.storage "CHECK constraint failed: application_slot_exclusive")
  failIf (app.activeOperations.dev ≠ none ∧
      app.activeOperations.dev = app.activeOperations.prod)
    (.storage "CHECK constraint failed: environment_slots_distinct")
  modify fun db => { db with slots := db.slots.set { row with active := app.activeOperations } }

/-- `insert_operation`, with the checks of the table. -/
def insertOperation (record : OperationRecord) : Tx Unit := do
  failIf (record.kind.scope ≠ record.scope) (.storage "operation kind/scope mismatch")
  failIf (record.revision < 1) (.storage "persisted revision or epoch must be positive")
  failIf (record.operationId = "" ∨ record.lifecycleId = "" ∨
      record.requestFingerprint.length ≠ 64 ∨
      (record.state = .running ∧ (record.executorId = none ∨ record.executorId = some "")))
    (.storage "CHECK constraint failed: userapp_operations")
  -- the scope check of the table does not list the adoption of an application
  failIf (record.kind = .adoptApplication) (.storage "CHECK constraint failed: operation_scope")
  let db ← get
  failIf (db.operations.find? record.operationId ≠ none)
    (.storage "UNIQUE constraint failed: userapp_operations")
  modify fun db => { db with
    operations := db.operations.insert record
    history := db.history.operation record }

def mergeProgress (row record : OperationRecord) : OperationRecord :=
  { row with
    state := record.state
    revision := record.revision
    executorId := record.executorId
    step := record.step
    errorCode := record.errorCode
    errorMessage := record.errorMessage
    checkpoint := record.checkpoint }

/-- `save_operation`: the identity and the command of a record are never written again. -/
def saveOperation (record previous : OperationRecord) : Tx Unit := do
  failIf (record.kind.scope ≠ record.scope) (.storage "operation kind/scope mismatch")
  failIf (record.revision < 1) (.storage "persisted revision or epoch must be positive")
  let db ← get
  let row ← demand (db.operations.find? record.operationId) (.storage "record not found")
  failIf (¬(row.appId = record.appId ∧ row.lifecycleId = record.lifecycleId ∧
    row.revision = previous.revision ∧ row.state = previous.state ∧
    row.executorId = previous.executorId)) .versionConflict
  failIf (record.state = .running ∧ (record.executorId = none ∨ record.executorId = some ""))
    (.storage "CHECK constraint failed: operation_executor")
  modify fun db => { db with
    operations := db.operations.set (mergeProgress row record)
    history := db.history.operation (mergeProgress row record) }

/-! ### The operation in its slot -/

/-- `ops::current`: the named operation of the current lifecycle, in the slot of its scope. -/
def currentOperation (appId operationId lifecycleId : String) :
    Tx (LifecycleRecord × OperationRecord) := do
  claimApp appId
  let app ← readApp appId
  failIf (app.lifecycleId ≠ lifecycleId ∨ Domain.operationOwnsAnySlot app operationId = false)
    .lifecycleConflict
  let operation ← readOperation appId operationId
  failIf (Domain.slotMatchesOperation app operation = false) .lifecycleConflict
  pure (app, operation)

def owns (context : ExecutionContext) (operation : OperationRecord) : Bool :=
  operation.appId = context.appId && context.Executes operation

def deleteInput (operationId : String) : Tx Unit :=
  modify fun db => { db with inputs := db.inputs.erase operationId }

end Rcoder.Lifecycle
