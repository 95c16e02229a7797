import Rcoder.Identifier
import Rcoder.Lib.Json

/-!
# Runtime control: requests, records, events

The wire types of the runtime owner (`runtime_control`) that the kernel and its store read
or write, with the request validation and the request digest. SHA-256 is a parameter: the
digest is whatever function of the canonical request it computes.
-/

namespace Rcoder.Runtime

inductive RuntimeOperationKind
  | start
  | restart
  | deploy
  | stop
  deriving DecidableEq, Repr

namespace RuntimeOperationKind

def asStr : RuntimeOperationKind → String
  | start => "start"
  | restart => "restart"
  | deploy => "deploy"
  | stop => "stop"

end RuntimeOperationKind

inductive ArtifactInput
  | artifactId (artifactId : String)
  | retainedWorkspace (releaseId : String)
  | url (url : String) (sha256 : Option String)
  deriving DecidableEq, Repr

inductive RunProfileInput
  | source (workspaceId : String)
  | artifact (artifact : ArtifactInput)
  deriving DecidableEq, Repr

structure StartPgCredential where
  username : String
  password : String
  deriving DecidableEq, Repr

structure OperationRunConfig where
  pg : Option StartPgCredential
  deriving DecidableEq, Repr

structure RuntimeOperationRequest where
  operationId : String
  expectedRuntimeInstanceId : String
  expectedRevision : Nat
  workspaceId : String
  kind : RuntimeOperationKind
  profile : RunProfileInput
  runConfig : Option OperationRunConfig
  requestContext : Option String
  deriving DecidableEq, Repr

/-- The owner's identity, as far as the kernel compares it. -/
structure RuntimeIdentityView where
  workspaceId : String
  runtimeInstanceId : String
  deploymentGenerationId : String
  deriving DecidableEq, Repr

inductive DesiredState
  | running
  | stopped
  deriving DecidableEq, Repr

inductive RuntimeOperationState
  | accepted
  | preparing
  | stopping
  | activating
  | starting
  | succeeded
  | failed
  | cancelled
  | recoveryRequired
  deriving DecidableEq, Repr

namespace RuntimeOperationState

def isTerminal : RuntimeOperationState → Bool
  | succeeded | failed | cancelled => true
  | _ => false

@[simp]
theorem isTerminal_accepted : accepted.isTerminal = false := rfl

@[simp]
theorem isTerminal_recoveryRequired : recoveryRequired.isTerminal = false := rfl

/-- The states a settlement writes, and never overwrites. -/
def Settled (s : RuntimeOperationState) : Prop := s.isTerminal = true ∨ s = recoveryRequired

instance (s : RuntimeOperationState) : Decidable s.Settled :=
  inferInstanceAs (Decidable (_ ∨ _))

end RuntimeOperationState

structure RuntimeFailureDetail where
  stage : String
  exitCode : Option Int
  stderrTail : Option String
  cleanupConfirmed : Bool
  deriving DecidableEq, Repr

structure RuntimeOperationView where
  operationId : String
  kind : RuntimeOperationKind
  state : RuntimeOperationState
  requestDigest : String
  revision : Nat
  runtimeInstanceId : String
  errorCode : Option String
  errorMessage : Option String
  failureDetail : Option RuntimeFailureDetail
  deriving DecidableEq, Repr

/-- The unit of persistence: the public view with the request it was accepted from. -/
structure StoredOperation where
  view : RuntimeOperationView
  request : RuntimeOperationRequest
  deriving DecidableEq, Repr

namespace StoredOperation

def hasRecordedDiagnostic (op : StoredOperation) : Bool :=
  op.view.errorCode.isSome || op.view.errorMessage.isSome || op.view.failureDetail.isSome

/-- A Source build: the operations a newer Source request cancels. -/
def isSource (op : StoredOperation) : Bool :=
  match op.view.kind, op.request.profile with
  | .start, .source _ | .restart, .source _ => true
  | _, _ => false

end StoredOperation

structure RuntimeEventRecord where
  operationId : String
  sequence : Nat
  runtimeInstanceId : String
  stage : String
  service : Option String
  eventName : Option String
  payload : Option Json
  deriving DecidableEq

def errOperationIdConflict : String := "ERR_OPERATION_ID_CONFLICT"
def errRuntimeInstanceMismatch : String := "ERR_RUNTIME_INSTANCE_MISMATCH"
def errRevisionMismatch : String := "ERR_REVISION_MISMATCH"
def errWorkspaceMismatch : String := "ERR_WORKSPACE_MISMATCH"
def errRecoveryRequired : String := "ERR_RECOVERY_REQUIRED"
def errInterruptedOwnerExit : String := "ERR_INTERRUPTED_OWNER_EXIT"
def errProtocolUnsupported : String := "ERR_PROTOCOL_UNSUPPORTED"
def errOperationInProgress : String := "ERR_OPERATION_IN_PROGRESS"
def errValidation : String := "ERR_VALIDATION"
def errBackendError : String := "ERR_BACKEND_ERROR"
def errSuperseded : String := "ERR_SUPERSEDED"

/-- The fields the request digest is computed over. -/
structure CanonicalRequest where
  v : Nat
  kind : RuntimeOperationKind
  profile : RunProfileInput
  expectedRevision : Nat
  workspaceId : String
  deriving DecidableEq, Repr

def RuntimeOperationRequest.canonical (request : RuntimeOperationRequest) : CanonicalRequest where
  v := 1
  kind := request.kind
  profile := request.profile
  expectedRevision := request.expectedRevision
  workspaceId := request.workspaceId

/-- What the kernel takes from outside: the digest of a canonical request and the display
form of the state root. -/
structure KernelEnv where
  sha256 : CanonicalRequest → String
  root : String

def runtimeRequestDigest (env : KernelEnv) (request : RuntimeOperationRequest) : String :=
  env.sha256 request.canonical

def validateRuntimeOperationRequest (request : RuntimeOperationRequest) : Except String Unit := do
  validateIdentifier request.operationId "operation_id"
  validateIdentifier request.workspaceId "workspace_id"
  if isBlank request.expectedRuntimeInstanceId then
    throw "expected_runtime_instance_id must not be empty"
  match request.profile with
  | .artifact (.artifactId artifactId) => validateIdentifier artifactId "artifact_id"
  | .artifact (.retainedWorkspace releaseId) => validateIdentifier releaseId "release_id"
  | _ => pure ()

/-- `u64::MAX`. -/
def u64Max : Nat := 18446744073709551615

/-- `u64::checked_add(1)`. -/
def checkedSucc (n : Nat) : Option Nat :=
  if n + 1 ≤ u64Max then some (n + 1) else none

theorem checkedSucc_eq_some {n m : Nat} (h : checkedSucc n = some m) : m = n + 1 := by
  unfold checkedSucc at h
  split_ifs at h
  exact (Option.some.inj h).symm

end Rcoder.Runtime
