import Mathlib.Data.List.Sort
import Rcoder.Lib.Table
import Rcoder.Lib.Machine
import Rcoder.Preview.Types

/-!
# The PostgreSQL store

Every call is one transaction over two tables, rolled back where it fails. The rows of the
instances are decoded when they are read and checked against the constraints of the schema when
they are written; the operations are a ledger in which a repeated start is recognised. A text of
the model may hold a U+0000, which a `TEXT` of the database may not.
-/

namespace Rcoder.Preview.Postgres

open Effect
open Lifecycle (checkedSucc)

structure OperationRow where
  operationId : String
  previewKey : String
  instanceId : String
  requestFingerprint : String
  kind : PreviewOperationKind
  state : PreviewOperationState
  allocatedPort : Option Nat
  payloadVersion : Nat
  deriving DecidableEq, Repr

structure Tables where
  instances : Table PreviewInstanceRecord.previewKey
  operations : Table OperationRow.operationId

def Tables.new : Tables := ⟨.empty, .empty⟩

/-- The digest of a request document, and the order of texts in the database. -/
structure Env where
  sha256 : Json → String
  collation : String → String → Bool

abbrev TxM := EStateM PreviewStoreError Tables

def decode (row : PreviewInstanceRecord) : Except PreviewStoreError PreviewInstanceRecord := do
  failIf (row.port.any (65535 < ·))
    (PreviewStoreError.unavailable "out of range integral type conversion attempted")
  failIf (row.revision < 1 ∨ row.instanceId = "" ∨ row.hostId = "" ∨ row.pid.any (· ≤ 0) ∨
      row.port = some 0 ∨ (row.state.isActive ∧ row.port.isNone))
    (PreviewStoreError.unavailable "Invalid persisted preview identity or port")
  failIf (row.operationId = "")
    (PreviewStoreError.unavailable "Preview operation pointer is missing")
  pure row

def rowAllowed (row : PreviewInstanceRecord) : Bool :=
  row.previewKey ≠ "" ∧ row.instanceId ≠ "" ∧ 1 ≤ row.revision ∧ row.pid.all (0 < ·) ∧
    row.port.all (fun port => 1 ≤ port ∧ port ≤ 65535) ∧ (row.state.isActive → row.port.isSome)

/-- The constraints on the instances: instance ids are unique, and so are the ports of the active
rows. -/
def constraintsHold (rows : List PreviewInstanceRecord) : Prop :=
  (∀ row ∈ rows, rowAllowed row) ∧ (rows.map (·.instanceId)).Nodup ∧
    ((rows.filter (·.state.isActive)).map (·.port)).Nodup

instance (rows : List PreviewInstanceRecord) : Decidable (constraintsHold rows) :=
  inferInstanceAs (Decidable (_ ∧ _))

def writeInstances (instances : Table PreviewInstanceRecord.previewKey) : TxM Unit := do
  ensure (constraintsHold instances.rows) (.unavailable "constraint violated")
  modify fun t => { t with instances := instances }

def writeOperation (op : OperationRow) : TxM Unit :=
  modify fun t => { t with operations := t.operations.set op }

def getInstance (key : String) : TxM (Option PreviewInstanceRecord) := do
  match (← get).instances.find? key with
  | none => pure none
  | some row => do
    let record ← fromExcept (decode row)
    pure (some record)

def current (key : String) : TxM PreviewInstanceRecord := do
  let found ← getInstance key
  require found (.invalid "Preview has no current instance")

def save (before row : PreviewInstanceRecord) : TxM Unit := do
  let t ← get
  let stored ← require (t.instances.find? before.previewKey)
    (.conflict "Preview instance CAS failed")
  ensure (stored.instanceId = before.instanceId ∧ stored.revision = before.revision ∧
      stored.operationId = before.operationId ∧ stored.state = before.state)
    (.conflict "Preview instance CAS failed")
  writeInstances (t.instances.set { stored with
    revision := row.revision
    operationId := row.operationId
    pid := row.pid
    port := row.port
    basePath := row.basePath
    state := row.state
    lastHeartbeatAt := row.lastHeartbeatAt
    lastActivityAt := row.lastActivityAt
    detail := row.detail
    updatedAt := row.updatedAt })

def operation (id : String) : TxM (Option OperationRow) := do
  return (← get).operations.find? id

def insertOperation (env : Env) (row : PreviewInstanceRecord) (kind : PreviewOperationKind)
    (input : Json) : TxM Unit := do
  ensure ((← get).operations.find? row.operationId = none) (.unavailable "duplicate key")
  let op : OperationRow :=
    { operationId := row.operationId
      previewKey := row.previewKey
      instanceId := row.instanceId
      requestFingerprint := env.sha256 input
      kind := kind
      state := .accepted
      allocatedPort := row.port
      payloadVersion := 1 }
  modify fun t => { t with operations := t.operations.insert op }

/-- Settle the operation of the row, if it is still open. -/
def finish (row : PreviewInstanceRecord) (state : PreviewOperationState) : TxM Unit := do
  let found ← operation row.operationId
  let op ← require found (.unavailable "Preview operation record missing")
  ensure (op.previewKey = row.previewKey ∧ op.instanceId = row.instanceId ∧ op.payloadVersion = 1)
    (.conflict "Preview operation belongs to a different instance")
  onlyIf op.state.inflight (writeOperation { op with state := state })

def ordered (env : Env) (rows : List PreviewInstanceRecord) : List PreviewInstanceRecord :=
  rows.insertionSort fun a b => env.collation b.previewKey a.previewKey = false

def active (env : Env) : TxM (List PreviewInstanceRecord) := do
  fromExcept ((ordered env ((← get).instances.rows.filter (·.state.isActive))).mapM decode)

def ports (env : Env) : TxM (List Nat) := do
  let rows ← active env
  fromExcept (rows.mapM fun row => demand row.port
    (PreviewStoreError.unavailable "Active preview port is missing"))

def allocate (occupied : List Nat) : Option Nat → Except PreviewStoreError Nat
  | some port => do
    failIf (¬isPreviewPort port ∨ port ∈ occupied) (PreviewStoreError.invalid
      "Requested preview port is outside the pool, reserved, or occupied")
    pure port
  | none => demand (portPool.find? fun port => isPreviewPort port ∧ port ∉ occupied)
      (PreviewStoreError.invalid "Preview port pool exhausted")

def optionalText : Option String → Json
  | none => .null
  | some text => .str text

/-- The request document of a start, without its operation id; a missing base path is left out. -/
def startInput (input : AcceptStartInput) : Json :=
  Json.object ([("preview_key", .str input.previewKey), ("project_id", .str input.projectId),
    ("project_path", .str input.projectPath), ("instance_id", .str input.instanceId),
    ("host_id", .str input.host.hostId), ("pod_name", optionalText input.host.podName),
    ("pod_ip", optionalText input.host.podIp),
    ("requested_port", (input.requestedPort.map fun port => Json.num port).getD .null),
    ("recovery", (input.recoverUnknownEvidence.map evidence).getD .null)] ++
    (input.basePath.map fun base => ("base_path", Json.str base)).toList)
where
  evidence (e : PreviewRecoveryEvidence) : Json :=
    Json.object [("instance_id", .str e.instanceId), ("revision", .num e.revision),
      ("detail", .str e.detail)]

/-- A start whose operation id is recorded already. -/
def replayStart (env : Env) (input : AcceptStartInput) (existing : Option PreviewInstanceRecord)
    (previous : OperationRow) : TxM AcceptStartOutcome := do
  ensure (previous.kind = .start ∧ previous.previewKey = input.previewKey ∧
      previous.instanceId = input.instanceId ∧
      previous.requestFingerprint = env.sha256 (startInput input) ∧ previous.payloadVersion = 1)
    (.conflict "Preview start identity was reused with different input")
  let row ← require existing (.unavailable "Preview request lost its instance")
  ensure (row.instanceId = input.instanceId ∧ row.operationId = input.operationId)
    (.conflict "Preview request belongs to an older instance")
  pure (if row.state = .ready then .existingReady row else .blocked row)

/-- The revision a start is admitted at, or why it is not admitted. An Unknown row is settled on
its evidence first. -/
def startRevision (input : AcceptStartInput) (now : Nat) :
    Option PreviewInstanceRecord → TxM (Int ⊕ AcceptStartOutcome)
  | none => pure (.inl 1)
  | some row =>
    match row.state, input.recoverUnknownEvidence with
    | .ready, _ => pure (.inr (.existingReady row))
    | .starting, _ | .stopping, _ => pure (.inr (.blocked row))
    | .unknown, none => pure (.inr (.blocked row))
    | .unknown, some evidence => do
      ensure (evidence.instanceId = row.instanceId ∧ evidence.revision = row.revision ∧
          evidence.detail ≠ "")
        (.conflict "Unknown recovery evidence belongs to another preview generation")
      save row (row.toRecovered evidence.detail now)
      finish (row.toRecovered evidence.detail now) .failed
      next row
    | .stopped, _ | .failed, _ => next row
where
  next (row : PreviewInstanceRecord) : TxM (Int ⊕ AcceptStartOutcome) := do
    let revision ← require (checkedSucc row.revision) (.unavailable "Preview revision exhausted")
    pure (.inl revision)

/-- Write the admitted row, over the row that was observed or as a new one. -/
def admitRow (record : PreviewInstanceRecord) : Option PreviewInstanceRecord → TxM Unit
  | some previous => do
    let found ← getInstance record.previewKey
    let observed ← require found (.conflict "Preview disappeared")
    ensure (observed.instanceId = previous.instanceId ∧ observed.revision = previous.revision ∧
      ¬observed.state.isActive) (.conflict "Preview changed during start admission")
    writeInstances ((← get).instances.set record)
  | none => do
    ensure ((← get).instances.find? record.previewKey = none) (.unavailable "duplicate key")
    writeInstances ((← get).instances.insert record)

def acceptStart (env : Env) (input : AcceptStartInput) (now : Nat) : TxM AcceptStartOutcome := do
  ensure (input.previewKey ≠ "" ∧ input.projectId ≠ "" ∧ input.instanceId ≠ "" ∧
      input.operationId ≠ "" ∧ input.host.hostId ≠ "")
    (.invalid "Preview start identity is empty")
  let existing ← getInstance input.previewKey
  match ← operation input.operationId with
  | some previous => replayStart env input existing previous
  | none => do
    match ← startRevision input now existing with
    | .inr outcome => pure outcome
    | .inl revision => do
      let occupied ← ports env
      let port ← fromExcept (allocate occupied input.requestedPort)
      admitRow (input.record revision port now) existing
      let found ← getInstance input.previewKey
      let row ← require found (.unavailable "Admitted preview is missing")
      insertOperation env row .start (startInput input)
      pure (.admitted row)

def retryStartPort (env : Env) (input : PreviewStartPortRetry) (now : Nat) :
    TxM PreviewInstanceRecord := do
  let before ← current input.previewKey
  let (changed, row) ← fromExcept (before.applyStartPortRetry input now)
  let found ← operation input.operationId
  let op ← require found (.conflict "Preview start operation is missing")
  ensure (op.kind = .start ∧ op.previewKey = input.previewKey ∧ op.instanceId = input.instanceId ∧
      op.allocatedPort = before.port ∧ op.payloadVersion = 1 ∧ op.state.inflight)
    (.conflict "Port retry requires the matching inflight start operation")
  if ¬changed then pure before
  else do
    let occupied ← ports env
    let _ ← fromExcept (allocate occupied (some input.nextPort))
    save before row
    -- the conditions of the second `UPDATE` that were not checked above
    ensure (op.allocatedPort = some input.previousPort)
      (.conflict "Preview port retry operation CAS failed")
    writeOperation { op with allocatedPort := some input.nextPort }
    pure row

def publishRunning (key operationId : String) (revision pid : Int) (port : Nat)
    (basePath : Option String) (now : Nat) : TxM PreviewInstanceRecord := do
  let before ← current key
  let (firstPublication, row) ←
    fromExcept (before.applyRunningPublication operationId revision pid port basePath now)
  onlyIf (row ≠ before) (save before row)
  onlyIf firstPublication (finish row .succeeded)
  pure row

def acceptStop (env : Env) (key operationId : String) (now : Nat) : TxM PreviewInstanceRecord := do
  ensure (operationId ≠ "") (.invalid "Stop operation identity is empty")
  let before ← current key
  match ← operation operationId with
  | some op => do
    ensure (op.kind = .stop ∧ op.previewKey = key ∧ op.instanceId = before.instanceId ∧
      before.operationId = operationId)
      (.conflict "Stop operation belongs to another instance or request")
    pure before
  | none =>
    if ¬before.state.isActive then pure before
    else do
      ensure (before.state ≠ .stopping) (.conflict "Another stop operation is in progress")
      let revision ← require (checkedSucc before.revision)
        (.unavailable "Preview revision exhausted")
      let row := (before.toStopping operationId).revise revision now
      finish before .failed
      save before row
      insertOperation env row .stop
        (Json.object [("preview_key", .str key), ("instance_id", .str row.instanceId)])
      pure row

def markStopped (key operationId : String) (revision : Int) (now : Nat) :
    TxM PreviewInstanceRecord := do
  let before ← current key
  ensure (before.operationId = operationId ∧ before.revision = revision)
    (.conflict "Stop completion belongs to another generation")
  if before.state = .stopped then pure before
  else do
    ensure (before.state = .stopping) (.conflict "Preview is not stopping")
    save before (before.toStopped now)
    finish (before.toStopped now) .succeeded
    pure (before.toStopped now)

def markFailed (key instanceId : String) (revision : Int) (detail : String) (now : Nat) :
    TxM PreviewInstanceRecord := do
  let before ← current key
  ensure (before.instanceId = instanceId ∧ before.revision = revision ∧
      (before.state = .starting ∨ before.state = .ready))
    (.conflict "Failure belongs to another preview generation")
  save before (before.toFailed detail now)
  finish (before.toFailed detail now) .failed
  pure (before.toFailed detail now)

def markUnknown (key instanceId detail : String) (now : Nat) : TxM PreviewInstanceRecord := do
  let before ← current key
  ensure (before.instanceId = instanceId ∧ before.state.isActive)
    (.conflict "Unknown observation belongs to another preview generation")
  save before (before.toUnknown detail now)
  finish (before.toUnknown detail now) .uncertain
  pure (before.toUnknown detail now)

/-- How a recovery settles the operation of the row. -/
def finishRecovered (row : PreviewInstanceRecord) : TxM Unit := do
  let found ← operation row.operationId
  let op ← require found (.unavailable "Missing preview operation")
  finish row (if op.kind = .stop then .succeeded else .failed)

def resolveUnknownStopped (key instanceId evidence : String) (now : Nat) :
    TxM PreviewInstanceRecord := do
  let before ← current key
  ensure (evidence ≠ "" ∧ before.instanceId = instanceId ∧ before.state = .unknown)
    (.conflict "Unknown recovery evidence belongs to another preview generation")
  save before (before.toRecovered evidence now)
  finishRecovered (before.toRecovered evidence now)
  pure (before.toRecovered evidence now)

def refreshHeartbeat (key instanceId : String) (now : Nat) :
    TxM (Option PreviewInstanceRecord) := do
  match ← getInstance key with
  | none => pure none
  | some before =>
    if before.instanceId = instanceId ∧ (before.state = .ready ∨ before.state = .unknown) then do
      let row := { before with
        lastHeartbeatAt := some ((before.lastHeartbeatAt.map (max · now)).getD now) }
      save before row
      pure (some row)
    else pure none

def entryBefore (a b : ActivityFlushEntry) : Bool :=
  textBefore a.previewKey b.previewKey ∨
    a.previewKey = b.previewKey ∧ textBefore a.instanceId b.instanceId

def flushEntry (entry : ActivityFlushEntry) : TxM Nat := do
  let t ← get
  match t.instances.find? entry.previewKey with
  | none => pure 0
  | some row =>
    if row.instanceId = entry.instanceId ∧ row.lastActivityAt < entry.activityAt ∧
        row.state.isActive then do
      writeInstances (t.instances.set { row with
        lastActivityAt := max row.lastActivityAt entry.activityAt })
      pure 1
    else pure 0

def flushEntries : List ActivityFlushEntry → TxM Nat
  | [] => pure 0
  | entry :: entries => do
    let moved ← flushEntry entry
    let rest ← flushEntries entries
    pure (moved + rest)

def flushActivity (entries : List ActivityFlushEntry) : TxM Nat :=
  flushEntries (entries.insertionSort fun a b => entryBefore b a = false)

def findActiveByPort (port : Nat) : TxM (Option PreviewInstanceRecord) := do
  match (← get).instances.rows.find? fun r => r.port = some port ∧ r.state.isActive with
  | none => pure none
  | some row => do
    let record ← fromExcept (decode row)
    pure (some record)

def listByHost (env : Env) (hostId : String) (activeOnly : Bool) :
    TxM (List PreviewInstanceRecord) := do
  let rows ← fromExcept
    ((ordered env ((← get).instances.rows.filter (·.hostId = hostId))).mapM decode)
  pure (rows.filter fun r => activeOnly = false ∨ r.state.isActive)

def podOf (hostId : String) : Option String :=
  if ':' ∈ hostId.toList then some (String.ofList (hostId.toList.takeWhile (· ≠ ':'))) else none

def rebootDetail (podUid bootId : String) : String :=
  "Host reboot reconciled by " ++ (podUid ++ ":" ++ bootId)

def reconcileEach (podUid bootId : String) (now : Nat) :
    List PreviewInstanceRecord → TxM (List PreviewInstanceRecord)
  | [] => pure []
  | candidate :: candidates =>
    if podOf candidate.hostId ≠ some podUid ∨ candidate.hostId = podUid ++ ":" ++ bootId then
      reconcileEach podUid bootId now candidates
    else do
      let before ← current candidate.previewKey
      if before.instanceId ≠ candidate.instanceId ∨ before.hostId ≠ candidate.hostId ∨
          ¬before.state.isActive then
        reconcileEach podUid bootId now candidates
      else do
        let row := before.toRecovered (rebootDetail podUid bootId) now
        save before row
        finishRecovered row
        let changed ← reconcileEach podUid bootId now candidates
        pure (row :: changed)

def reconcileHostReboot (env : Env) (podUid bootId : String) (now : Nat) :
    TxM (List PreviewInstanceRecord) := do
  ensure (podUid ≠ "" ∧ bootId ≠ "" ∧ ':' ∉ podUid.toList ∧ ':' ∉ bootId.toList)
    (.invalid "Invalid preview host identity")
  let candidates ← active env
  reconcileEach podUid bootId now candidates

def respond {α : Type} (f : α → Answer) (m : TxM α) (t : Tables) : Answer × Tables :=
  ((answer f (transact m t).1), (transact m t).2)

def exec (env : Env) (t : Tables) (request : Request) : Answer × Tables :=
  match request.call with
  | .acceptStart input => respond .outcome (acceptStart env input request.now) t
  | .retryStartPort input => respond .record (retryStartPort env input request.now) t
  | .publishRunning key operationId revision pid port basePath =>
    respond .record (publishRunning key operationId revision pid port basePath request.now) t
  | .acceptStop key operationId => respond .record (acceptStop env key operationId request.now) t
  | .markStopped key operationId revision =>
    respond .record (markStopped key operationId revision request.now) t
  | .markFailed key instanceId revision detail =>
    respond .record (markFailed key instanceId revision detail request.now) t
  | .markUnknown key instanceId detail =>
    respond .record (markUnknown key instanceId detail request.now) t
  | .resolveUnknownStopped key instanceId evidence =>
    respond .record (resolveUnknownStopped key instanceId evidence request.now) t
  | .refreshHeartbeat key instanceId => respond .found (refreshHeartbeat key instanceId request.now) t
  | .flushActivity entries => respond .count (flushActivity entries) t
  | .get key => respond .found (getInstance key) t
  | .findActiveByPort port => respond .found (findActiveByPort port) t
  | .activePorts => respond .ports (ports env) t
  | .listByHost hostId activeOnly => respond .records (listByHost env hostId activeOnly) t
  | .listActive => respond .records (active env) t
  | .reconcileHostReboot podUid bootId =>
    respond .records (reconcileHostReboot env podUid bootId request.now) t

def machine (env : Env) : Machine Tables Request Answer := ⟨exec env⟩

end Rcoder.Preview.Postgres
