import Rcoder.Lifecycle.Store

/-!
# Versioned runtime configuration

The saved database credentials of a scope and the version that an admitted operation captured
of them. Admission seeds and captures a configuration in its own transaction, and no operation
ends while the outcome of its credential write is unknown.
-/

namespace Rcoder.Lifecycle

open Effect

namespace Configuration

structure SaveRequest where
  lifecycleId : String
  requestId : String
  expectedRevision : Int
  pg : StartPgCredential

def requireScope (scope : OperationScope) : Except StoreError Unit :=
  failIf (scope = .application)
    (.invalidOperation "Runtime configuration requires dev or prod scope")

def head (db : Store) (appId lifecycleId : String) (scope : OperationScope) :
    Except StoreError (Option ConfigRow) := do
  requireScope scope
  pure (db.configs.find? (appId, lifecycleId, scope))

def status (row : ConfigRow) : Except StoreError ConfigRow := do
  failIf (row.revision < 1 ∨ row.savedVersion < 1 ∨ row.revision ≠ row.savedVersion ∨
      row.appliedVersion.any (fun v => v < 1 ∨ v > row.savedVersion) ∨
      row.applyingVersion.any (fun v => v < 1 ∨ v > row.savedVersion) ∨
      row.applyingVersion.isSome ≠ row.applyingOperationId.isSome)
    (.invalidOperation "Invalid persisted runtime configuration head")
  pure row

def validatePg (pg : StartPgCredential) : Except StoreError Unit := do
  invalid (validatePgIdentifier pg.username)
  failIf (pg.password = "" ∨ '\x00' ∈ pg.password.toList)
    (.invalidOperation "PG password must be nonempty and contain no NUL bytes")

def savedBy (db : Store) (appId : String) (scope : OperationScope) (request : SaveRequest) :
    Option ConfigVersionRow :=
  db.configVersions.rows.find? fun row =>
    row.appId = appId ∧ row.lifecycleId = request.lifecycleId ∧ row.scope = scope ∧
      row.requestId = request.requestId

def currentApp (appId lifecycleId : String) : Tx LifecycleRecord := do
  claimApp appId
  let app ← readApp appId
  failIf (app.lifecycleId ≠ lifecycleId) .lifecycleConflict
  fromExcept (Domain.validateActive app)
  pure app

def insertVersion (appId : String) (scope : OperationScope) (request : SaveRequest)
    (previous : Option ConfigRow) (version : Int) : Tx Unit := do
  let db ← get
  failIf (db.configVersions.find? (appId, request.lifecycleId, scope, version) ≠ none)
    (.storage "UNIQUE constraint failed: userapp_runtime_config_versions")
  let saved : ConfigVersionRow :=
    { appId, lifecycleId := request.lifecycleId, scope, version, requestId := request.requestId,
      expectedRevision := request.expectedRevision, pg := request.pg }
  modify fun db => { db with configVersions := db.configVersions.insert saved }
  match previous with
  | none => do
    let row : ConfigRow :=
      { appId, lifecycleId := request.lifecycleId, scope, revision := version,
        savedVersion := version, appliedVersion := none, applyingVersion := none,
        applyingOperationId := none }
    modify fun db => { db with configs := db.configs.insert row }
  | some row =>
    modify fun db => { db with
      configs := db.configs.set { row with revision := version, savedVersion := version } }

def isPasswordReset (operation : OperationRecord) : Bool :=
  match operation.command with
  | some (.resetDatabasePassword ..) => true
  | _ => false

/-- No account becomes managed while its explicit password write is in flight. -/
def guardPasswordReset (app : LifecycleRecord) (scope : OperationScope) : Tx Unit := do
  let active ← reads fun db => db.readActive app
  match (active.slot scope).filter isPasswordReset with
  | some operation => throw (.operationInProgress operation.blocker)
  | none => pure ()

def save (appId : String) (scope : OperationScope) (request : SaveRequest) : Tx Int := do
  fromExcept (requireScope scope)
  failIf (validateIdentifier request.requestId "request_id" ≠ .ok ())
    (.invalidOperation "Invalid configuration save request identity")
  fromExcept (validatePg request.pg)
  failIf (request.expectedRevision < 0)
    (.invalidOperation "Configuration revision must not be negative")
  let app ← currentApp appId request.lifecycleId
  let previous ← reads fun db => head db appId request.lifecycleId scope
  let db ← get
  match savedBy db appId scope request with
  | some replay => do
    failIf (replay.expectedRevision ≠ request.expectedRevision ∨ replay.pg ≠ request.pg)
      (.invalidOperation "Configuration save identity was reused with different input")
    let row ← demand previous (.invalidOperation "Configuration replay has no current head")
    let _ ← fromExcept (status row)
    pure replay.version
  | none => do
    guardPasswordReset app scope
    let known ← fromExcept (previous.mapM status)
    let revision := (known.map (·.revision)).getD 0
    failIf (revision ≠ request.expectedRevision) .versionConflict
    let version ← demand (checkedSucc revision)
      (.invalidOperation "Configuration version exhausted")
    insertVersion appId scope request previous version
    pure version

def guardDatabaseAdmin (operation : OperationRecord) : Except StoreError Unit :=
  if operation.kind ≠ .resetDevDatabasePassword ∧ operation.kind ≠ .resetProdDatabasePassword then
    pure ()
  else match operation.command with
    | some (.resetDatabasePassword _ username) => invalid (validatePgIdentifier username)
    | _ => throw (.invalidOperation "Database administration requires an explicit target account")

def verifyVersionCredentials (db : Store) (operation : OperationRecord) (version : Int)
    (pg : StartPgCredential) : Except StoreError Unit := do
  requireScope operation.scope
  let row ← demand (db.configVersions.find?
      (operation.appId, operation.lifecycleId, operation.scope, version))
    (.invalidOperation "Deployment configuration version is missing")
  failIf (row.pg ≠ pg)
    (.invalidOperation "Explicit deployment credentials differ from the saved configuration")

def receipt (db : Store) (operation : OperationRecord) :
    Except StoreError (Option OperationConfigRow) := do
  let row := db.operationConfigs.find? operation.operationId
  failIf (row.any fun row => ¬(row.appId = operation.appId ∧
      row.lifecycleId = operation.lifecycleId ∧ row.scope = operation.scope ∧
      1 ≤ row.configVersion))
    (.invalidOperation "Runtime configuration receipt identity mismatch")
  pure row

def verifyCapturedCredentials (db : Store) (operation : OperationRecord)
    (pg : StartPgCredential) : Except StoreError Unit := do
  let found ← receipt db operation
  let row ← demand found (.invalidOperation "Replayed deployment has no captured credentials")
  verifyVersionCredentials db operation row.configVersion pg

/-- The first deployment with credentials saves them under `seedRequestId`. -/
def seedDeploymentCredentials (operation : OperationRecord) (pg : StartPgCredential)
    (seedRequestId : String) : Tx Unit := do
  fromExcept (validatePg pg)
  let existing ← reads fun db => head db operation.appId operation.lifecycleId operation.scope
  match existing with
  | some row => do
    let row ← fromExcept (status row)
    reads fun db => verifyVersionCredentials db operation row.savedVersion pg
  | none => do
    let _ ← save operation.appId operation.scope
      { lifecycleId := operation.lifecycleId, requestId := seedRequestId, expectedRevision := 0,
        pg }
    pure ()

def captures (kind : OperationKind) : Bool :=
  [.ensureBuilder, .restartBuilder, .create, .startDeployment, .restartDeployment, .start,
    .restart, .hotDeploy].contains kind

def selectedVersion (operation : OperationRecord) (row : ConfigRow) : Option Int :=
  if operation.command = some (.start true) ∨ operation.kind = .ensureBuilder ∨
      operation.kind = .hotDeploy then row.appliedVersion
  else some row.savedVersion

def insertCapture (operation : OperationRecord) (version : Int) : Tx Unit := do
  let db ← get
  failIf (db.operationConfigs.find? operation.operationId ≠ none)
    (.storage "UNIQUE constraint failed: userapp_operation_configs")
  let row : OperationConfigRow :=
    { operationId := operation.operationId, appId := operation.appId,
      lifecycleId := operation.lifecycleId, scope := operation.scope, configVersion := version,
      target := none, credentials := .captured, business := .notStarted }
  modify fun db => { db with operationConfigs := db.operationConfigs.insert row }

def captureSelected (operation : OperationRecord) (row : ConfigRow) : Tx Unit := do
  failIf (row.applyingOperationId ≠ none)
    (.invalidOperation "Runtime credential application requires recovery")
  failIf (operation.kind = .hotDeploy ∧ row.appliedVersion ≠ some row.savedVersion)
    (.invalidOperation "Runtime credential changes require a cold deployment")
  match selectedVersion operation row with
  | none => pure ()
  | some version => insertCapture operation version

def capture (operation : OperationRecord) : Tx Unit :=
  if captures operation.kind = false then pure ()
  else do
    let found ← reads fun db => head db operation.appId operation.lifecycleId operation.scope
    match found with
    | none => pure ()
    | some row => do
      let row ← fromExcept (status row)
      captureSelected operation row

def owned (context : ExecutionContext) : Tx OperationRecord := do
  fromExcept (invalid (context.validateIdentity context.appId))
  let (_, operation) ← currentOperation context.appId context.operationId context.lifecycleId
  failIf (owns context operation = false ∨ operation.state ≠ .running) .versionConflict
  pure operation

def bind (context : ExecutionContext) (version : Int) (target : RuntimeConfigurationTarget) :
    Tx Unit := do
  failIf (target.physicalUid = "" ∨ target.deploymentGeneration = "")
    (.invalidOperation "Runtime configuration target identity is empty")
  let operation ← owned context
  let found ← reads fun db => receipt db operation
  let row ← demand found .notFound
  failIf (row.configVersion ≠ version) .versionConflict
  match row.target with
  | some bound => failIf (bound ≠ target) .versionConflict
  | none => do
    failIf (row.credentials ≠ .captured)
      (.invalidOperation "Unbound configuration is not captured")
    modify fun db => { db with
      operationConfigs := db.operationConfigs.set { row with target := some target } }

def credentialFollows : CredentialState → CredentialState → Bool
  | .captured, .applying | .captured, .failed | .applying, .applied | .applying, .failed
  | .applying, .unknown | .unknown, .applied => true
  | before, after => before = after

def businessFollows : BusinessState → BusinessState → Bool
  | .notStarted, .starting | .notStarted, .failed | .starting, .ready | .starting, .failed
  | .starting, .unknown | .unknown, .ready | .unknown, .failed => true
  | before, after => before = after

def validateTransition (before after : CredentialState) (startup business : BusinessState) :
    Except StoreError Unit :=
  failIf (credentialFollows before after = false ∨ businessFollows startup business = false ∨
      (after ≠ .applied ∧ business ≠ .notStarted ∧ business ≠ .failed))
    (.invalidOperation "Invalid runtime configuration result transition")

def recordedHead (head : ConfigRow) (operationId : String) (version : Int)
    (credential : CredentialState) : ConfigRow :=
  let applying := credential = .applying ∨ credential = .unknown
  { head with
    appliedVersion := if credential = .applied then some version else head.appliedVersion
    applyingVersion := if applying then some version else none
    applyingOperationId := if applying then some operationId else none }

def recordResult (context : ExecutionContext) (version : Int)
    (target : RuntimeConfigurationTarget) (credential : CredentialState)
    (business : BusinessState) : Tx Unit := do
  let operation ← owned context
  let found ← reads fun db => receipt db operation
  let row ← demand found .notFound
  failIf (row.configVersion ≠ version ∨ row.target ≠ some target) .versionConflict
  fromExcept (validateTransition row.credentials credential row.business business)
  let known ← reads fun db => head db operation.appId operation.lifecycleId operation.scope
  let current ← demand known .notFound
  let current ← fromExcept (status current)
  failIf (current.applyingOperationId.any (· ≠ operation.operationId)) .versionConflict
  modify fun db => { db with
    operationConfigs := db.operationConfigs.set { row with credentials := credential, business }
    configs := db.configs.set (recordedHead current operation.operationId version credential) }

def validateTerminal (db : Store) (operation : OperationRecord) (state : OperationState) :
    Except StoreError Unit :=
  if state.isTerminal = false then pure ()
  else do
    let found ← receipt db operation
    match found with
    | none => pure ()
    | some row => do
      failIf (row.credentials = .applying ∨ row.credentials = .unknown ∨
          row.business = .starting ∨ row.business = .unknown)
        (.invalidOperation "Uncertain runtime configuration outcome requires recovery")
      failIf (state = .succeeded ∧ (row.credentials ≠ .applied ∨ row.business ≠ .ready))
        (.invalidOperation "Runtime credentials and business readiness are not confirmed")

end Configuration

end Rcoder.Lifecycle
