import Rcoder.Identifier
import Rcoder.Lib.Check
import Rcoder.Lib.Json

/-!
# The userApp control records

The data of the lifecycle store: application records with their per-scope slots, operation
records, admissions and progress reports, and the errors of the store. The names are those of
the shared types without their common `UserApp` word. Times are microseconds, and the 64-bit
counters are integers with a checked successor.
-/

namespace Rcoder.Lifecycle

def i64Max : Int := 9223372036854775807

/-- `checked_add(1)` on a signed 64-bit counter. -/
def checkedSucc (n : Int) : Option Int := if n < i64Max then some (n + 1) else none

theorem checkedSucc_eq_some {n m : Int} (h : checkedSucc n = some m) : m = n + 1 := by
  unfold checkedSucc at h
  split at h
  · exact (Option.some.inj h).symm
  · simp at h

theorem checkedSucc_lt {n m : Int} (h : checkedSucc n = some m) : n < m :=
  checkedSucc_eq_some h ▸ Int.lt_succ n

/-- Identity of an admitted and claimed operation. -/
structure ExecutionContext where
  appId : String
  lifecycleId : String
  operationId : String
  executorId : String
  requestFingerprint : String
  deriving DecidableEq

def isAsciiHexdigit (byte : UInt8) : Bool :=
  (48 ≤ byte && byte ≤ 57) || (65 ≤ byte && byte ≤ 70) || (97 ≤ byte && byte ≤ 102)

namespace ExecutionContext

/-- `validate_identity`: the named application, whitelisted ids and a hexadecimal digest. -/
def validateIdentity (context : ExecutionContext) (appId : String) : Except String Unit := do
  failIf (context.appId ≠ appId) "Application execution identity mismatch"
  [("app_id", context.appId), ("lifecycle_id", context.lifecycleId),
    ("operation_id", context.operationId), ("executor_id", context.executorId)].forM fun field =>
      failIf (validateIdentifier field.2 field.1 ≠ .ok ())
        ("Invalid application execution " ++ field.1)
  failIf (context.requestFingerprint.utf8ByteSize ≠ 64 ∨
      context.requestFingerprint.toUTF8.data.toList.all isAsciiHexdigit = false)
    "Invalid application execution fingerprint"

end ExecutionContext

inductive LifecycleState
  | active
  | deleting
  | deleted
  deriving DecidableEq

inductive OperationScope
  | dev
  | prod
  | application
  deriving DecidableEq

namespace OperationScope

/-- The order in which blockers are looked for: the scope that fences both others first. -/
def blockers : List OperationScope := [.application, .dev, .prod]

def blocksRequest (requested blocker : OperationScope) : Bool :=
  match requested with
  | .application => true
  | .dev => blocker = .dev || blocker = .application
  | .prod => blocker = .prod || blocker = .application

end OperationScope

inductive OperationState
  | pending
  | running
  | waitingRetry
  | recoveryRequired
  | succeeded
  | failed
  deriving DecidableEq

def OperationState.isTerminal : OperationState → Bool
  | .succeeded | .failed => true
  | _ => false

inductive ProgressClaim
  | acquireExecutor
  | retainExecutor
  deriving DecidableEq

def authorizeProgressClaim (current progress : OperationState) (executorMatches : Bool) :
    Option ProgressClaim :=
  match current with
  | .pending | .waitingRetry => if progress = .running then some .acquireExecutor else none
  | .running => if executorMatches then some .retainExecutor else none
  | _ => none

inductive OperationKind
  | ensureBuilder
  | adoptBuilder
  | adoptApplication
  | stopBuilder
  | restartBuilder
  | create
  | startDeployment
  | restartDeployment
  | update
  | start
  | restart
  | stop
  | setRecyclePolicy
  | hotDeploy
  | deleteCompute
  | purgeResources
  | destroyDevStorage
  | destroyProdStorage
  | clearDevStorage
  | clearProdStorage
  | resetDevDatabasePassword
  | resetProdDatabasePassword
  | prepareProdDatabase
  | deleteApplication
  deriving DecidableEq

namespace OperationKind

def supportsHotDeployment : OperationKind → Bool
  | .hotDeploy | .startDeployment | .restartDeployment => true
  | _ => false

def endsLifecycle (kind : OperationKind) : Bool := kind = .deleteApplication

def scope : OperationKind → OperationScope
  | .ensureBuilder | .adoptBuilder | .stopBuilder | .restartBuilder | .destroyDevStorage
  | .clearDevStorage | .resetDevDatabasePassword => .dev
  | .create | .update | .startDeployment | .restartDeployment | .start | .restart | .stop
  | .setRecyclePolicy | .hotDeploy | .deleteCompute | .destroyProdStorage | .clearProdStorage
  | .resetProdDatabasePassword | .prepareProdDatabase | .adoptApplication => .prod
  | .purgeResources | .deleteApplication => .application

def ofName : String → Option OperationKind
  | "EnsureBuilder" => some .ensureBuilder
  | "AdoptBuilder" => some .adoptBuilder
  | "AdoptApplication" => some .adoptApplication
  | "StopBuilder" => some .stopBuilder
  | "RestartBuilder" => some .restartBuilder
  | "Create" => some .create
  | "StartDeployment" => some .startDeployment
  | "RestartDeployment" => some .restartDeployment
  | "Update" => some .update
  | "Start" => some .start
  | "Restart" => some .restart
  | "Stop" => some .stop
  | "SetRecyclePolicy" => some .setRecyclePolicy
  | "HotDeploy" => some .hotDeploy
  | "DeleteCompute" => some .deleteCompute
  | "PurgeResources" => some .purgeResources
  | "DestroyDevStorage" => some .destroyDevStorage
  | "DestroyProdStorage" => some .destroyProdStorage
  | "ClearDevStorage" => some .clearDevStorage
  | "ClearProdStorage" => some .clearProdStorage
  | "ResetDevDatabasePassword" => some .resetDevDatabasePassword
  | "ResetProdDatabasePassword" => some .resetProdDatabasePassword
  | "PrepareProdDatabase" => some .prepareProdDatabase
  | "DeleteApplication" => some .deleteApplication
  | _ => none

end OperationKind

structure RuntimePolicy where
  recycleEnabled : Option Bool := none
  idleTimeoutSeconds : Option Nat := none
  wakeOnTraffic : Option Bool := none
  deriving DecidableEq

def RuntimePolicy.merge (policy patch : RuntimePolicy) : RuntimePolicy where
  recycleEnabled := patch.recycleEnabled <|> policy.recycleEnabled
  idleTimeoutSeconds := patch.idleTimeoutSeconds <|> policy.idleTimeoutSeconds
  wakeOnTraffic := patch.wakeOnTraffic <|> policy.wakeOnTraffic

inductive ControlCommand
  | deploy (restart : Bool) (inputDigest : String) (servingRecovery : Bool)
  | stopBuilder
  | restartBuilder
  | create (inputDigest : String)
  | update (inputDigest : String)
  | start (traffic : Bool)
  | restart
  | prepareProdDatabase
  | stop (wakeOnTraffic : Bool)
  | setRecyclePolicy (policy : RuntimePolicy)
  | deleteResources (purge : Bool) (expectedResourceVersion : Option String)
  | deleteApplication
  | destroyStorage (production : Bool)
  | resetDatabasePassword (production : Bool) (username : String)
  | clearStorage (production : Bool)
  deriving DecidableEq

namespace ControlCommand

def kind : ControlCommand → OperationKind
  | .stopBuilder => .stopBuilder
  | .restartBuilder => .restartBuilder
  | .create _ => .create
  | .deploy false _ _ => .startDeployment
  | .deploy true _ _ => .restartDeployment
  | .update _ => .update
  | .start _ => .start
  | .restart => .restart
  | .prepareProdDatabase => .prepareProdDatabase
  | .stop _ => .stop
  | .setRecyclePolicy _ => .setRecyclePolicy
  | .deleteResources false _ => .deleteCompute
  | .deleteResources true _ => .purgeResources
  | .deleteApplication => .deleteApplication
  | .destroyStorage false => .destroyDevStorage
  | .destroyStorage true => .destroyProdStorage
  | .resetDatabasePassword false _ => .resetDevDatabasePassword
  | .resetDatabasePassword true _ => .resetProdDatabasePassword
  | .clearStorage false => .clearDevStorage
  | .clearStorage true => .clearProdStorage

end ControlCommand

/-- `none` keeps a field; `some none` clears it. -/
structure MetadataPatch where
  appId : String
  lifecycleId : String
  expectedRevision : Int
  name : Option (Option String) := none
  tenantId : Option (Option String) := none
  spaceId : Option (Option String) := none
  deriving DecidableEq

structure ActiveOperations where
  dev : Option String := none
  prod : Option String := none
  application : Option String := none
  deriving DecidableEq

namespace ActiveOperations

def slot (active : ActiveOperations) : OperationScope → Option String
  | .dev => active.dev
  | .prod => active.prod
  | .application => active.application

def set (active : ActiveOperations) (scope : OperationScope) (value : Option String) :
    ActiveOperations :=
  match scope with
  | .dev => { active with dev := value }
  | .prod => { active with prod := value }
  | .application => { active with application := value }

def isEmpty (active : ActiveOperations) : Bool :=
  active.dev.isNone && active.prod.isNone && active.application.isNone

theorem slot_set (active : ActiveOperations) (scope : OperationScope) (value : Option String) :
    (active.set scope value).slot = Function.update active.slot scope value := by
  funext other
  cases scope <;> cases other <;> rfl

end ActiveOperations

structure LifecycleRecord where
  runtimePolicy : RuntimePolicy := {}
  appId : String
  lifecycleId : String
  lifecycleEpoch : Int
  metadataRevision : Int
  state : LifecycleState
  name : Option String := none
  tenantId : Option String := none
  spaceId : Option String := none
  createdAt : Int
  activeOperations : ActiveOperations := {}
  deriving DecidableEq

structure OperationRecord where
  runtimePolicyOnSuccess : Option RuntimePolicy := none
  command : Option ControlCommand := none
  admittedMetadata : Option MetadataPatch := none
  operationId : String
  appId : String
  lifecycleId : String
  requestId : Option String
  requestFingerprint : String
  kind : OperationKind
  scope : OperationScope
  state : OperationState
  revision : Int
  executorId : Option String
  step : String
  checkpoint : Json
  errorCode : Option String
  errorMessage : Option String
  createdAt : Int
  deriving DecidableEq

structure OperationBlocker where
  scope : OperationScope
  operationId : String
  kind : OperationKind
  state : OperationState
  step : String
  deriving DecidableEq

def OperationRecord.blocker (operation : OperationRecord) : OperationBlocker where
  scope := operation.scope
  operationId := operation.operationId
  kind := operation.kind
  state := operation.state
  step := operation.step

structure ActiveOperationRecords where
  dev : Option OperationRecord := none
  prod : Option OperationRecord := none
  application : Option OperationRecord := none

def ActiveOperationRecords.slot (active : ActiveOperationRecords) :
    OperationScope → Option OperationRecord
  | .dev => active.dev
  | .prod => active.prod
  | .application => active.application

structure Admission where
  runtimePolicyOnSuccess : Option RuntimePolicy := none
  command : Option ControlCommand := none
  metadata : Option MetadataPatch := none
  appId : String
  lifecycleId : Option String := none
  operationId : String
  requestId : Option String := none
  requestFingerprint : String
  kind : OperationKind

inductive AdmissionOutcome
  | accepted (operation : OperationRecord)
  | existing (operation : OperationRecord)
  deriving DecidableEq

structure OperationProgress where
  appId : String
  operationId : String
  lifecycleId : String
  expectedRevision : Int
  executorId : String
  state : OperationState
  step : String
  checkpoint : Json := .null
  errorCode : Option String := none
  errorMessage : Option String := none

inductive StoreError
  | ownershipConflict
  | lifecycleConflict
  | operationInProgress (blocker : OperationBlocker)
  | versionConflict
  | requestReplayConflict (message : String)
  | notFound
  | invalidOperation (message : String)
  | storage (message : String)
  deriving DecidableEq

def invalid {α : Type} (x : Except String α) : Except StoreError α :=
  mapFailure .invalidOperation x

@[simp] theorem invalid_eq_ok {α : Type} {x : Except String α} {a : α} :
    invalid x = .ok a ↔ x = .ok a :=
  mapFailure_eq_ok

end Rcoder.Lifecycle
