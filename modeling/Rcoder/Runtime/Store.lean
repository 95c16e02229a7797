import Mathlib.Data.List.AList
import Mathlib.Data.List.Sort
import Rcoder.Lib.Effect
import Rcoder.Runtime.Types

/-!
# The runtime owner's store

Operation records, the desired state, cancellation receipts and event logs on disk. Every
access to the disk draws one outcome from a script: success, a failure that leaves the disk
as it was, or (for operation records, whose publication is followed by a directory sync) a
failure reported after the file was published. An empty script is a disk without faults.

A readable operation file holds a record of its own name: `store_operation` is the only
writer of the directory and takes the file name from the record.
-/

namespace Rcoder.Runtime

open Effect

/-- The error chain of `anyhow`, outermost context first. -/
structure Anyhow where
  chain : List String
  deriving DecidableEq, Repr

def Anyhow.render (e : Anyhow) : String := ": ".intercalate e.chain

/-- The outcome of one access to the disk. -/
inductive Fault
  | none
  | fail (cause : List String)
  | published (cause : List String)
  deriving DecidableEq, Repr

/-- A file of the operations directory: a record of that name, or the decoder's report. -/
abbrev OperationFile (id : String) : Type :=
  Except String {op : StoredOperation // op.view.operationId = id}

/-- `desired.json`: absent, not JSON, JSON but not an object, an object without readable
fields, or a desired state with its revision. -/
inductive DesiredFile
  | absent
  | undecodable (cause : String)
  | notObject
  | incomplete
  | record (desired : DesiredState) (revision : Nat)
  deriving DecidableEq, Repr

structure CancellationReceipt where
  operationId : String
  requestDigest : String
  deriving DecidableEq, Repr

structure RuntimeStore where
  operations : AList OperationFile
  quarantined : List String
  desired : DesiredFile
  legacyDesired : Option (DesiredState × Nat)
  cancellations : AList fun _ : String => Except String CancellationReceipt
  events : AList fun _ : String => List RuntimeEventRecord

/-- The store with the outcomes its next accesses will meet. -/
structure Disk where
  store : RuntimeStore
  script : List Fault

abbrev StoreM := EStateM Anyhow Disk

def operationPath (env : KernelEnv) (id : String) : String :=
  env.root ++ "/operations/" ++ id ++ ".json"

def desiredPath (env : KernelEnv) : String := env.root ++ "/desired.json"

def eventsPath (env : KernelEnv) (id : String) : String :=
  env.root ++ "/events/" ++ id ++ ".jsonl"

def cancellationPath (env : KernelEnv) (id : String) : String :=
  env.root ++ "/cancellations/" ++ id ++ ".json"

namespace RuntimeStore

def record? (s : RuntimeStore) (id : String) : Option StoredOperation :=
  match s.operations.lookup id with
  | some (.ok op) => some op.1
  | _ => none

/-- `operations/{id}.json` replaced by the record's own content. -/
def publish (s : RuntimeStore) (op : StoredOperation) : RuntimeStore :=
  { s with operations := s.operations.insert op.view.operationId (.ok ⟨op, rfl⟩) }

def setAside (s : RuntimeStore) (id : String) : RuntimeStore :=
  { s with operations := s.operations.erase id, quarantined := s.quarantined ++ [id] }

/-- What `load_desired` reads: damaged metadata suppresses the launch. -/
def currentDesired (s : RuntimeStore) : DesiredState × Nat :=
  match s.desired with
  | .record desired revision => (desired, revision)
  | .absent => s.legacyDesired.getD (.running, 0)
  | _ => (.stopped, 0)

def revision (s : RuntimeStore) : Nat := s.currentDesired.2

end RuntimeStore

def nextFault : StoreM Fault := fun d =>
  match d.script with
  | [] => .ok .none d
  | f :: rest => .ok f { d with script := rest }

/-- An access that changes nothing on disk before it can fail. -/
def access (context : List String) : StoreM Unit := do
  match ← nextFault with
  | .none => pure ()
  | .fail cause | .published cause => throw ⟨context ++ cause⟩

def loadOperation (env : KernelEnv) (id : String) : StoreM (Option StoredOperation) := do
  access ["read state " ++ operationPath env id]
  match (← get).store.operations.lookup id with
  | none => pure none
  | some (.error cause) => throw ⟨[cause]⟩
  | some (.ok op) => pure (some op.1)

def storeOperation (op : StoredOperation) : StoreM Unit := do
  match ← nextFault with
  | .none => modify fun d => { d with store := d.store.publish op }
  | .fail cause => throw ⟨cause⟩
  | .published cause => do
    modify fun d => { d with store := d.store.publish op }
    throw ⟨"sync private record directory" :: cause⟩

def loadDesired (env : KernelEnv) : StoreM (DesiredState × Nat) := do
  access ["read state " ++ desiredPath env]
  return (← get).store.currentDesired

def storeDesired (env : KernelEnv) (desired : DesiredState) (revision : Nat) : StoreM Unit := do
  access ["read state " ++ desiredPath env]
  match (← get).store.desired with
  | .undecodable cause => throw ⟨["decode state record", cause]⟩
  | .notObject => throw ⟨["desired state must be an object"]⟩
  | _ => do
    access []
    modify fun d => { d with store := { d.store with desired := .record desired revision } }

/-- Startup keeps malformed intent aside and continues in Stopped. -/
def repairDesiredAfterQuiescence (env : KernelEnv) : StoreM Unit := do
  access ["read desired state during recovery"]
  match (← get).store.desired with
  | .absent | .record _ _ => pure ()
  | _ => do
    access []
    modify fun d => { d with store := { d.store with
      desired := .absent, quarantined := d.store.quarantined ++ ["desired.json"] } }
    storeDesired env .stopped 0

def storeCancellation (op : StoredOperation) : StoreM Unit := do
  access []
  modify fun d => { d with store := { d.store with
    cancellations := d.store.cancellations.insert op.view.operationId
      (.ok ⟨op.view.operationId, op.view.requestDigest⟩) } }

def cancellationRecorded (env : KernelEnv) (op : StoredOperation) : StoreM Bool := do
  access ["read state " ++ cancellationPath env op.view.operationId]
  match (← get).store.cancellations.lookup op.view.operationId with
  | none => pure false
  | some (.error cause) => throw ⟨[cause]⟩
  | some (.ok receipt) => do
    ensure (receipt.operationId = op.view.operationId ∧
      receipt.requestDigest = op.view.requestDigest)
      ⟨["cancellation receipt identity mismatch"]⟩
    pure true

def appendEvent (env : KernelEnv) (event : RuntimeEventRecord) : StoreM Unit := do
  access ["open event log " ++ eventsPath env event.operationId]
  modify fun d => { d with store := { d.store with
    events := d.store.events.insert event.operationId
      ((d.store.events.lookup event.operationId).getD [] ++ [event]) } }

def replayEvents (env : KernelEnv) (id : String) (afterSeq : Nat) :
    StoreM (List RuntimeEventRecord) := do
  -- `path.is_file()`: a failed stat counts as a missing log
  match ← attempt (access []) with
  | .error (_ : Anyhow) => pure []
  | .ok () =>
    match (← get).store.events.lookup id with
    | none => pure []
    | some log => do
      access ["read event log " ++ eventsPath env id]
      return (log.filter fun event => afterSeq < event.sequence).insertionSort
        fun a b => a.sequence ≤ b.sequence

/-- `recovered` operations left unfinished by a previous owner, and the names of records
that were `quarantined` or, when that failed too, `blocked`. -/
structure RecoveryScan where
  recovered : List String
  quarantined : List String
  blocked : List String
  deriving DecidableEq, Repr

def reportUnreadableRecord (id : String) (scan : RecoveryScan) : StoreM RecoveryScan := do
  match ← attempt (access []) with
  | .ok () => do
    modify fun d => { d with store := d.store.setAside id }
    return { scan with quarantined := scan.quarantined ++ [id] }
  | .error _ => return { scan with blocked := scan.blocked ++ [id] }

/-- What the scan makes of an unfinished record: an accepted Stop of a business that was
never started is done, everything else has an unknown outcome. -/
def recoveredRecord (op : StoredOperation) : StoredOperation :=
  if op.view.kind = .stop ∧ op.view.state = .accepted then
    { op with view := { op.view with state := .succeeded, errorCode := none, errorMessage := none } }
  else
    { op with view := { op.view with state := .recoveryRequired } }

def recoverEntry (live : List String) (scan : RecoveryScan) (id : String) :
    StoreM RecoveryScan := do
  access ["read operations dir entry"]
  match ← attempt (access []) with
  | .error _ => reportUnreadableRecord id scan
  | .ok () =>
    match (← get).store.operations.lookup id with
    | none => pure scan
    | some (.error _) => reportUnreadableRecord id scan
    | some (.ok op) =>
      if op.1.view.operationId ∈ live then pure scan
      else if op.1.view.state.isTerminal then pure scan
      else do
        storeOperation (recoveredRecord op.1)
        return { scan with recovered := scan.recovered ++ [op.1.view.operationId] }

def recoverEntries (live : List String) (scan : RecoveryScan) : List String → StoreM RecoveryScan
  | [] => pure scan
  | id :: ids => do
    let scan ← recoverEntry live scan id
    recoverEntries live scan ids

def recoverUnfinishedOperations (live : List String) : StoreM RecoveryScan := do
  access ["scan operations dir"]
  recoverEntries live ⟨[], [], []⟩ (← get).store.operations.keys

/-- The record of an interrupted request: Failed, its own diagnosis kept if it has one. -/
def interruptedRecord (op : StoredOperation) : StoredOperation :=
  if op.hasRecordedDiagnostic then { op with view := { op.view with state := .failed } }
  else
    { op with view := { op.view with
      state := .failed
      errorCode := some errInterruptedOwnerExit
      errorMessage :=
        some "operation result was not committed before runtime management recovery"
      failureDetail := some ⟨"startup_reconciled", none, none, false⟩ } }

end Rcoder.Runtime
