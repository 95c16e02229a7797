import Rcoder.Lifecycle.Compute

/-!
# Transactions of business operations

Identity, metadata, admission, progress and leases of the operations that an application runs,
and the two transitions that begin anew: recreating a deleted application and the restart of a
local owner. Each is one transaction. Generated identities and the clock are arguments.
-/

namespace Rcoder.Lifecycle

open Effect

structure Fresh where
  lifecycleId : String
  seedRequestId : String
  now : Int

namespace Operations

/-! ### Identity and metadata -/

def ensureIdentity (appId : String) (fresh : Fresh) : Tx LifecycleRecord := do
  let proposed ← fromExcept (Domain.identity appId fresh.lifecycleId fresh.now)
  let app ← ensureApp proposed
  fromExcept (Domain.validateActive app)
  pure app

def patchMetadata (patch : MetadataPatch) : Tx LifecycleRecord := do
  claimApp patch.appId
  let previous ← readApp patch.appId
  let app ← fromExcept (Domain.patchMetadata previous patch)
  onlyIf (app ≠ previous) (saveApp app previous.lifecycleId previous.metadataRevision)
  pure app

structure RetainedStorage where
  appId : String
  scope : OperationScope
  lifecycleId : Option String
  volumes : List ResourceIdentity
  services : List ResourceIdentity

def RetainedStorage.validate (storage : RetainedStorage) : Except String Unit := do
  validateIdentifier storage.appId "app_id"
  failIf (storage.scope = .application) "Storage recovery requires dev or prod scope"
  storage.lifecycleId.forM fun id => validateIdentifier id "lifecycle_id"
  failIf (storage.volumes = []) "Storage recovery requires surviving volumes"
  failIf ((storage.volumes.any fun volume => volume.kind ≠ .persistentVolumeClaim ∨
      volume.name = "" ∨ volume.uid = "") ∨ ¬(storage.volumes.map (·.name)).Nodup)
    "Invalid retained volume identity"
  failIf ((storage.services.any fun service => service.kind ≠ .service ∨ service.name = "" ∨
      service.uid = "") ∨ ¬((storage.volumes ++ storage.services).map (·.name)).Nodup)
    "Invalid retained Service identity"

def restoreStorageIdentity (storage : RetainedStorage) (fresh : Fresh) : Tx LifecycleRecord := do
  fromExcept (invalid storage.validate)
  let proposed ← fromExcept (Domain.identity storage.appId
    (storage.lifecycleId.getD fresh.lifecycleId) fresh.now)
  let app ← ensureApp proposed
  fromExcept (Domain.validateActive app)
  failIf (storage.lifecycleId.any (· ≠ app.lifecycleId)) .lifecycleConflict
  pure app

/-! ### Admission -/

def inputDigest : ControlCommand → Option String
  | .create digest | .update digest | .deploy _ digest _ => some digest
  | _ => none

def validateInput (kind : OperationKind) (fingerprint : String)
    (command : Option ControlCommand) (input : Option ExecutionInput) :
    Except StoreError Unit :=
  match command, input with
  | none, some input =>
    if kind = .adoptBuilder then
      failIf (fingerprint ≠ input.digest)
        (.invalidOperation "Adoption requires its original input digest")
    else if kind = .ensureBuilder then
      failIf (fingerprint ≠ input.digest)
        (.invalidOperation "Builder creation requires its original input digest")
    else throw (.invalidOperation "Private execution input does not match command digest")
  | none, none =>
    failIf (kind = .adoptBuilder) (.invalidOperation "Adoption requires its original input digest")
  | some command, input =>
    failIf (inputDigest command ≠ input.map (·.digest))
      (.invalidOperation "Private execution input does not match command digest")

def isDeploy : Option ControlCommand → Bool
  | some (.deploy ..) => true
  | _ => false

def insertInput (operation : OperationRecord) (input : ExecutionInput) : Tx Unit := do
  let db ← get
  failIf (db.inputs.find? operation.operationId ≠ none)
    (.storage "UNIQUE constraint failed: userapp_operation_inputs")
  let row : InputRow := ⟨operation.operationId, operation.appId, operation.lifecycleId, input⟩
  modify fun db => { db with inputs := db.inputs.insert row }

def seedCredentials (operation : OperationRecord) (seedRequestId : String)
    (pg : StartPgCredential) : Tx Unit := do
  Configuration.seedDeploymentCredentials operation pg seedRequestId
  Configuration.capture operation

def recordAccepted (previous app : LifecycleRecord) (operation : OperationRecord)
    (input : Option ExecutionInput) (pg : Option StartPgCredential) (seedRequestId : String) :
    Tx Unit := do
  reads fun db => Compute.guardAdmission db app operation.scope
  fromExcept (Configuration.guardDatabaseAdmin operation)
  insertOperation operation
  pg.forM (seedCredentials operation seedRequestId)
  input.forM (insertInput operation)
  saveApp app previous.lifecycleId previous.metadataRevision
  saveSlots app previous

def recordOutcome (previous app : LifecycleRecord) (outcome : AdmissionOutcome)
    (input : Option ExecutionInput) (pg : Option StartPgCredential) (seedRequestId : String) :
    Tx OperationRecord :=
  match outcome with
  | .accepted operation => do
    recordAccepted previous app operation input pg seedRequestId
    pure operation
  | .existing operation => do
    pg.forM fun pg => reads fun db => Configuration.verifyCapturedCredentials db operation pg
    pure operation

def RequestTarget.isRecreate : RequestTarget → Bool
  | .recreate .. => true
  | .control .. => false

def RequestTarget.operationId : RequestTarget → Option String
  | .control operationId _ => some operationId
  | .recreate .. => none

/-- A request id stands for the operation that it was first answered with. -/
def nameRequest (request : Admission) (mapping : Option RequestRow) (operation : OperationRecord) :
    Tx Unit :=
  match request.requestId, mapping with
  | none, _ => pure ()
  | some _, some row =>
    failIf (RequestTarget.operationId row.target ≠ some operation.operationId) .versionConflict
  | some requestId, none => do
    let row : RequestRow :=
      ⟨operation.appId, requestId, .control operation.operationId operation.lifecycleId⟩
    modify fun db => { db with requests := db.requests.insert row }

def requestMapping (db : Store) (request : Admission) : Except StoreError (Option RequestRow) := do
  let mapping := request.requestId.bind fun id => db.requests.find? (request.appId, id)
  failIf (mapping.any fun row => RequestTarget.isRecreate row.target)
    (.invalidOperation "request identity was already used for lifecycle recreation")
  pure mapping

def requestedOperation (db : Store) (request : Admission) :
    Option RequestRow → Except StoreError (Option OperationRecord)
  | some row => db.readRequestOperation request.appId row
  | none => pure none

def duplicateOf (byId byRequest : Option OperationRecord) :
    Except StoreError (Option OperationRecord) := do
  failIf (∃ a ∈ byId, ∃ b ∈ byRequest, a.operationId ≠ b.operationId)
    (.invalidOperation "request and operation identities refer to different operations")
  pure (byId <|> byRequest)

def admitWithConfiguration (request : Admission) (input : Option ExecutionInput)
    (pg : Option StartPgCredential) (fresh : Fresh) : Tx AdmissionOutcome := do
  failIf (pg ≠ none ∧ (isDeploy request.command = false ∨ input = none))
    (.invalidOperation "Inline credentials require a private deployment input")
  fromExcept (validateInput request.kind request.requestFingerprint request.command input)
  let proposed ← fromExcept (Domain.identity request.appId fresh.lifecycleId fresh.now)
  let previous ← ensureApp proposed
  let byId ← reads fun db => db.readOperation request.appId request.operationId
  let mapping ← reads fun db => requestMapping db request
  let byRequest ← reads fun db => requestedOperation db request mapping
  let duplicate ← fromExcept (duplicateOf byId byRequest)
  let active ← reads fun db => db.readActive previous
  let (app, outcome) ← fromExcept (Domain.admission previous request duplicate active fresh.now)
  let operation ← recordOutcome previous app outcome input pg fresh.seedRequestId
  nameRequest request mapping operation
  pure outcome

/-! ### Progress -/

/-- Evidence of a write already sent is recorded in any case; success, retries and new claims
need the authority of the current intents. -/
def needsAuthority (operation : OperationRecord) (state : OperationState) : Bool :=
  state = .succeeded || state = .waitingRetry ||
    (state = .running && (operation.state = .pending || operation.state = .waitingRetry))

def saveProgress (previous app : LifecycleRecord) (before operation : OperationRecord) :
    Tx Unit := do
  saveOperation operation before
  saveApp app previous.lifecycleId previous.metadataRevision
  saveSlots app previous

def advance (progress : OperationProgress) : Tx OperationRecord := do
  claimApp progress.appId
  let previous ← readApp progress.appId
  let before ← readOperation progress.appId progress.operationId
  onlyIf (needsAuthority before progress.state = true)
    (reads fun db => Compute.checkBusinessAuthority db before)
  let (app, operation) ← fromExcept (Domain.advance previous before progress)
  reads fun db => Configuration.validateTerminal db operation progress.state
  saveProgress previous app before operation
  onlyIf (operation.state.isTerminal = true) (deleteInput operation.operationId)
  pure operation

/-! ### Deadlines and leases -/

def bindOperationDeadline (appId operationId lifecycleId : String) (deadlineMs : Int) :
    Tx Int := do
  failIf (deadlineMs ≤ 0) (.invalidOperation "Operation deadline must be positive")
  let (_, operation) ← currentOperation appId operationId lifecycleId
  failIf (operation.lifecycleId ≠ lifecycleId ∨ operation.state.isTerminal = true) .versionConflict
  let db ← get
  match db.deadlines.find? operationId with
  | some row => do
    failIf (row.appId ≠ appId ∨ row.lifecycleId ≠ lifecycleId) .lifecycleConflict
    pure row.deadlineMs
  | none => do
    let row : DeadlineRow := ⟨operationId, appId, lifecycleId, deadlineMs, none⟩
    modify fun db => { db with deadlines := db.deadlines.insert row }
    pure deadlineMs

def bindOperationLease (context : ExecutionContext) (receipt : LeaseReceipt) : Tx Unit := do
  fromExcept (invalid (context.validateIdentity context.appId))
  fromExcept (invalid receipt.validate)
  let (_, operation) ← currentOperation context.appId context.operationId context.lifecycleId
  failIf (owns context operation = false ∨ operation.state ≠ .running ∨
    (operation.scope = .dev ↔ receipt.serviceType ≠ .userappBuilder)) .versionConflict
  reads fun db => Compute.checkBusinessAuthority db operation
  let bound ← reads fun db => db.readLease context.appId context.operationId
  match bound with
  | some previous => failIf (previous ≠ ⟨context, receipt⟩) .versionConflict
  | none => do
    let db ← get
    failIf (db.leases.find? context.operationId ≠ none)
      (.storage "UNIQUE constraint failed: userapp_operation_leases")
    let row : LeaseBinding := ⟨context, receipt⟩
    modify fun db => { db with leases := db.leases.insert row }

def forgetOperationLease (binding : LeaseBinding) : Tx Unit := do
  claimApp binding.context.appId
  let operation ← readOperation binding.context.appId binding.context.operationId
  failIf (operation.state.isTerminal = false ∨ owns binding.context operation = false)
    .versionConflict
  let bound ← reads fun db => db.readLease binding.context.appId binding.context.operationId
  match bound with
  | none => pure ()
  | some stored => do
    failIf (stored ≠ binding) .versionConflict
    modify fun db => { db with leases := db.leases.erase binding.context.operationId }

/-! ### Adoption -/

/-- `INSERT .. ON CONFLICT DO NOTHING`, and the row that is there afterwards. -/
def claimBinding (binding : ResourceBinding) : Tx Unit := do
  modify fun db => { db with bindings := db.bindings.insert binding }
  let db ← get
  let previous ← demand (db.bindings.find? (binding.serviceType, binding.physicalUid)) .notFound
  failIf (previous.serviceType ≠ .userappBuilder)
    (.invalidOperation "Unsupported physical binding family")
  failIf (previous ≠ binding) .lifecycleConflict

def commitResourceBinding (binding : ResourceBinding) (progress : OperationProgress) :
    Tx OperationRecord := do
  failIf (progress.appId ≠ binding.appId ∨ progress.lifecycleId ≠ binding.lifecycleId ∨
      progress.state ≠ .succeeded ∨ binding.adoptedByOperation ≠ progress.operationId)
    (.invalidOperation "Binding requires its successful adoption operation")
  claimApp binding.appId
  let app ← readApp binding.appId
  fromExcept (Domain.validateActive app)
  failIf (app.lifecycleId ≠ binding.lifecycleId) .lifecycleConflict
  let operation ← readOperation binding.appId progress.operationId
  failIf (operation.kind ≠ .adoptBuilder)
    (.invalidOperation "Binding requires explicit adoption admission")
  let context : ExecutionContext := ⟨app.appId, app.lifecycleId, operation.operationId,
    progress.executorId, operation.requestFingerprint⟩
  fromExcept (invalid (binding.validate context binding.physicalUid))
  claimBinding binding
  advance progress

/-! ### Beginning anew -/

def recreated (app : LifecycleRecord) (fresh : Fresh) (epoch : Int) : LifecycleRecord :=
  { app with
    lifecycleId := fresh.lifecycleId
    lifecycleEpoch := epoch
    metadataRevision := 1
    state := .active
    createdAt := fresh.now
    name := none
    tenantId := none
    spaceId := none
    runtimePolicy := {} }

def writeIncarnation (app next : LifecycleRecord) (requestId : String) : Tx Unit := do
  modify fun db => { db with
    slots := db.slots.erase app.appId
    activity := (db.activity.erase (app.appId, app.lifecycleId, .dev)).erase
      (app.appId, app.lifecycleId, .prod) }
  saveApp next app.lifecycleId app.metadataRevision
  let slots : SlotsRow := ⟨app.appId, next.lifecycleId, {}⟩
  let request : RequestRow := ⟨app.appId, requestId, .recreate app.lifecycleId next.lifecycleId⟩
  modify fun db => { db with
    slots := db.slots.insert slots
    requests := db.requests.insert request }

def replayRecreate (app : LifecycleRecord) (expectedLifecycleId : String) :
    RequestTarget → Except StoreError LifecycleRecord
  | .control .. => throw (.invalidOperation
      "request identity was already used for a control operation")
  | .recreate previousLifecycleId newLifecycleId => do
    failIf (previousLifecycleId ≠ expectedLifecycleId ∨ newLifecycleId ≠ app.lifecycleId)
      .lifecycleConflict
    pure app

def recreate (appId expectedLifecycleId requestId : String) (fresh : Fresh) :
    Tx LifecycleRecord := do
  fromExcept (Domain.validateRequestId requestId)
  claimApp appId
  let app ← readApp appId
  let db ← get
  match db.requests.find? (appId, requestId) with
  | some previous => fromExcept (replayRecreate app expectedLifecycleId previous.target)
  | none => do
    failIf (app.lifecycleId ≠ expectedLifecycleId ∨ app.state ≠ .deleted ∨
      app.activeOperations.isEmpty = false) .lifecycleConflict
    Compute.retireLifecycleHeads app
    let epoch ← demand (checkedSucc app.lifecycleEpoch)
      (.invalidOperation "lifecycle epoch exhausted")
    writeIncarnation app (recreated app fresh epoch) requestId
    pure (recreated app fresh epoch)

def quarantined (operation : OperationRecord) (revision : Int) : OperationRecord :=
  { operation with
    revision
    state := .recoveryRequired
    errorCode := some "ERR_BACKEND_ERROR"
    errorMessage :=
      some "Previous local executor stopped; remote outcome requires verification" }

def quarantineOne (operationId : String) : Tx Unit := do
  let db ← get
  let row ← demand (db.operations.find? operationId) (.storage "record not found")
  let operation ← fromExcept (decodeOperation row)
  let app ← readApp operation.appId
  failIf (app.lifecycleId ≠ operation.lifecycleId ∨
    Domain.slotMatchesOperation app operation = false) .lifecycleConflict
  let revision ← demand (checkedSucc operation.revision)
    (.invalidOperation "Operation revision exhausted during restart")
  saveOperation (quarantined operation revision) operation

def underWay (db : Store) : List String :=
  ((db.operations.rows.filter fun operation =>
    operation.state = .running ∨ operation.state = .waitingRetry).map
      (·.operationId)).insertionSort (· ≤ ·)

def quarantineEach : List String → Tx Unit
  | [] => pure ()
  | id :: ids => do
    quarantineOne id
    quarantineEach ids

def quarantineLocalRestart : Tx Unit := do
  let db ← get
  quarantineEach (underWay db)

/-! ### Activity -/

/-- The last access that a proxy has seen, in the incarnation it saw it. -/
structure ActivityReport where
  appId : String
  lifecycleId : String
  lifecycleEpoch : Int
  lastAccessed : Option Int

/-- An access moves forward and never back. -/
def recordAccess (appId lifecycleId : String) (lastAccessedAt : Int) (db : Store) : Store :=
  let row : ActivityRow := ⟨appId, lifecycleId, .prod, lastAccessedAt⟩
  match db.activity.find? (appId, lifecycleId, .prod) with
  | none => { db with activity := db.activity.insert row }
  | some old =>
    if old.lastAccessedAt < lastAccessedAt then { db with activity := db.activity.set row } else db

def flushOne (report : ActivityReport) : Tx Unit :=
  match report.lastAccessed with
  | none => pure ()
  | some lastAccessedAt => do
    claimApp report.appId
    let found ← reads fun db => db.readApp report.appId
    onlyIf (found.any (fun app => app.lifecycleId = report.lifecycleId ∧
        app.lifecycleEpoch = report.lifecycleEpoch ∧ app.state = .active) = true)
      (modify (recordAccess report.appId report.lifecycleId lastAccessedAt))

def flushEach : List ActivityReport → Tx Unit
  | [] => pure ()
  | report :: reports => do
    flushOne report
    flushEach reports

def flushBatch (reports : List ActivityReport) : Tx Unit :=
  flushEach (reports.insertionSort fun a b => a.appId ≤ b.appId)

def deleteActivity (appId lifecycleId : String) : Tx Unit := do
  claimApp appId
  modify fun db => { db with activity := db.activity.erase (appId, lifecycleId, .prod) }

end Operations

end Rcoder.Lifecycle
