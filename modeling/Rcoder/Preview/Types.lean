import Rcoder.Lifecycle.Types

/-!
# The preview contract

The shared types of the preview registry: instance records with their state machine, the inputs
and outcomes of its calls, and the two changes of a record that both stores share. Instants are
microseconds, the precision of the stored rows; one call reads the clock once.
-/

namespace Rcoder.Preview

open Lifecycle (checkedSucc)

def previewPortMin : Nat := 4000

def previewPortMax : Nat := 55000

def previewPortReservedMin : Nat := 8000

def previewPortReservedMax : Nat := 9000

def isPreviewPort (port : Nat) : Bool :=
  (previewPortMin ≤ port ∧ port ≤ previewPortMax) ∧
    ¬(previewPortReservedMin ≤ port ∧ port ≤ previewPortReservedMax)

def portPool : List Nat := List.range' previewPortMin (previewPortMax + 1 - previewPortMin)

inductive PreviewInstanceState
  | starting
  | ready
  | stopping
  | stopped
  | failed
  | unknown
  deriving DecidableEq, Repr

namespace PreviewInstanceState

/-- The port is still taken, and a new start has to wait. -/
def isActive : PreviewInstanceState → Bool
  | starting | ready | stopping | unknown => true
  | stopped | failed => false

def debug : PreviewInstanceState → String
  | starting => "Starting"
  | ready => "Ready"
  | stopping => "Stopping"
  | stopped => "Stopped"
  | failed => "Failed"
  | unknown => "Unknown"

end PreviewInstanceState

inductive PreviewOperationKind
  | start
  | stop
  deriving DecidableEq, Repr

inductive PreviewOperationState
  | accepted
  | running
  | succeeded
  | failed
  | uncertain
  deriving DecidableEq, Repr

def PreviewOperationState.inflight : PreviewOperationState → Bool
  | accepted | running | uncertain => true
  | succeeded | failed => false

structure PreviewHostIdentity where
  hostId : String
  podName : Option String
  podIp : Option String
  deriving DecidableEq, Repr

structure PreviewInstanceRecord where
  previewKey : String
  projectId : String
  projectPath : String
  instanceId : String
  revision : Int
  operationId : String
  hostId : String
  podName : Option String
  podIp : Option String
  pid : Option Int
  port : Option Nat
  basePath : Option String
  state : PreviewInstanceState
  lastHeartbeatAt : Option Nat
  lastActivityAt : Nat
  detail : Option String
  updatedAt : Nat
  deriving DecidableEq, Repr

structure PreviewRecoveryEvidence where
  instanceId : String
  revision : Int
  detail : String
  deriving DecidableEq, Repr

structure AcceptStartInput where
  previewKey : String
  projectId : String
  projectPath : String
  host : PreviewHostIdentity
  operationId : String
  instanceId : String
  requestedPort : Option Nat
  basePath : Option String
  recoverUnknownEvidence : Option PreviewRecoveryEvidence
  deriving DecidableEq, Repr

structure PreviewStartPortRetry where
  previewKey : String
  operationId : String
  instanceId : String
  revision : Int
  previousPort : Nat
  nextPort : Nat
  deriving DecidableEq, Repr

inductive AcceptStartOutcome
  | admitted (record : PreviewInstanceRecord)
  | existingReady (record : PreviewInstanceRecord)
  | blocked (record : PreviewInstanceRecord)
  deriving DecidableEq, Repr

structure ActivityFlushEntry where
  previewKey : String
  instanceId : String
  activityAt : Nat
  deriving DecidableEq, Repr

inductive PreviewStoreError
  | unavailable (message : String)
  | conflict (message : String)
  | invalid (message : String)
  deriving DecidableEq, Repr

namespace PreviewInstanceRecord

def revise (r : PreviewInstanceRecord) (revision : Int) (now : Nat) : PreviewInstanceRecord :=
  { r with revision := revision, updatedAt := now }

/-- Move the admission, still without a process, to another port. `false` confirms a move that
was made before and changes nothing. -/
def applyStartPortRetry (r : PreviewInstanceRecord) (input : PreviewStartPortRetry) (now : Nat) :
    Except PreviewStoreError (Bool × PreviewInstanceRecord) := do
  failIf (input.previewKey = "" ∨ input.operationId = "" ∨ input.instanceId = "" ∨
      input.revision < 1 ∨ ¬isPreviewPort input.previousPort ∨ ¬isPreviewPort input.nextPort ∨
      input.previousPort = input.nextPort)
    (PreviewStoreError.invalid "Invalid preview port retry input")
  let nextRevision ← demand (checkedSucc input.revision)
    (PreviewStoreError.invalid "Preview port retry revision exhausted")
  failIf (r.previewKey ≠ input.previewKey ∨ r.operationId ≠ input.operationId ∨
      r.instanceId ≠ input.instanceId ∨ r.pid.isSome)
    (PreviewStoreError.conflict "Port retry belongs to another preview execution")
  failIf (r.state ≠ .starting)
    (PreviewStoreError.conflict "Port retry requires the original starting admission")
  if r.revision = nextRevision ∧ r.port = some input.nextPort then return (false, r)
  failIf (r.revision ≠ input.revision ∨ r.port ≠ some input.previousPort)
    (PreviewStoreError.conflict "Port retry lost its original revision or allocated port")
  return (true, { r.revise nextRevision now with port := some input.nextPort })

/-- Publish the process of the admitted operation on its port. `true` is the first publication; a
later one only fills in a missing base path. -/
def applyRunningPublication (r : PreviewInstanceRecord) (operationId : String) (revision pid : Int)
    (port : Nat) (basePath : Option String) (now : Nat) :
    Except PreviewStoreError (Bool × PreviewInstanceRecord) := do
  failIf (r.operationId ≠ operationId ∨ r.revision ≠ revision ∨ r.port ≠ some port ∨ pid ≤ 0)
    (PreviewStoreError.conflict
      "Publish running requires the admitted operation, revision, PID and port")
  failIf (¬(r.state = .starting ∨ r.state = .ready ∧ r.pid = some pid))
    (PreviewStoreError.conflict "Publish running belongs to another process or lifecycle state")
  let firstPublication : Bool := r.state = .starting
  failIf (r.basePath.isSome ∧ basePath.isSome ∧ r.basePath ≠ basePath)
    (PreviewStoreError.conflict "Publish running cannot replace the admitted base path")
  let completeBase : Bool := r.basePath.isNone ∧ basePath.isSome
  let r := if firstPublication then
      { r with
        state := .ready
        pid := some pid
        lastHeartbeatAt := some now
        lastActivityAt := max r.lastActivityAt now }
    else r
  let r := if completeBase then { r with basePath := basePath } else r
  let r := if firstPublication ∨ completeBase then { r with updatedAt := now } else r
  return (firstPublication, r)

/-- The stop `operationId` takes the instance over from the operation that held it. -/
def toStopping (r : PreviewInstanceRecord) (operationId : String) : PreviewInstanceRecord :=
  { r with state := .stopping, operationId := operationId }

def toStopped (r : PreviewInstanceRecord) (now : Nat) : PreviewInstanceRecord :=
  { r with state := .stopped, pid := none, updatedAt := now }

def toFailed (r : PreviewInstanceRecord) (detail : String) (now : Nat) : PreviewInstanceRecord :=
  { r with state := .failed, pid := none, detail := some detail, updatedAt := now }

def toUnknown (r : PreviewInstanceRecord) (detail : String) (now : Nat) : PreviewInstanceRecord :=
  { r with state := .unknown, detail := some detail, updatedAt := now }

def toRecovered (r : PreviewInstanceRecord) (evidence : String) (now : Nat) :
    PreviewInstanceRecord :=
  { r with state := .stopped, pid := none, detail := some evidence, updatedAt := now }

end PreviewInstanceRecord

def AcceptStartInput.record (input : AcceptStartInput) (revision : Int) (port now : Nat) :
    PreviewInstanceRecord where
  previewKey := input.previewKey
  projectId := input.projectId
  projectPath := input.projectPath
  instanceId := input.instanceId
  revision := revision
  operationId := input.operationId
  hostId := input.host.hostId
  podName := input.host.podName
  podIp := input.host.podIp
  pid := none
  port := some port
  basePath := input.basePath
  state := .starting
  lastHeartbeatAt := none
  lastActivityAt := now
  detail := input.recoverUnknownEvidence.map (·.detail)
  updatedAt := now

inductive Call
  | acceptStart (input : AcceptStartInput)
  | retryStartPort (input : PreviewStartPortRetry)
  | publishRunning (previewKey operationId : String) (revision pid : Int) (port : Nat)
      (basePath : Option String)
  | acceptStop (previewKey operationId : String)
  | markStopped (previewKey operationId : String) (revision : Int)
  | markFailed (previewKey instanceId : String) (revision : Int) (detail : String)
  | markUnknown (previewKey instanceId detail : String)
  | resolveUnknownStopped (previewKey instanceId evidence : String)
  | refreshHeartbeat (previewKey instanceId : String)
  | flushActivity (entries : List ActivityFlushEntry)
  | get (previewKey : String)
  | findActiveByPort (port : Nat)
  | activePorts
  | listByHost (hostId : String) (activeOnly : Bool)
  | listActive
  | reconcileHostReboot (podUid bootId : String)
  deriving DecidableEq, Repr

inductive Answer
  | outcome (outcome : AcceptStartOutcome)
  | record (record : PreviewInstanceRecord)
  | found (record : Option PreviewInstanceRecord)
  | count (updated : Nat)
  | ports (ports : List Nat)
  | records (records : List PreviewInstanceRecord)
  | error (e : PreviewStoreError)
  deriving DecidableEq, Repr

structure Request where
  call : Call
  now : Nat
  deriving DecidableEq, Repr

def exampleStart (operationId instanceId : String) : AcceptStartInput where
  previewKey := "p"
  projectId := "project"
  projectPath := "/p"
  host := ⟨"pod:boot", none, none⟩
  operationId := operationId
  instanceId := instanceId
  requestedPort := some 5000
  basePath := none
  recoverUnknownEvidence := none

def answer {α : Type} (f : α → Answer) : Except PreviewStoreError α → Answer
  | .ok a => f a
  | .error e => .error e

end Rcoder.Preview
