import Mathlib.Data.List.Sort
import Rcoder.Lib.Table
import Rcoder.Lib.Machine
import Rcoder.Preview.Types

/-!
# The in-process store

One lock around two maps. A call changes them in place and nothing is undone where it fails:
an error that is found behind a change leaves the change.
-/

namespace Rcoder.Preview

open Effect
open Lifecycle (checkedSucc)

structure PreviewOperationRecord where
  operationId : String
  previewKey : String
  kind : PreviewOperationKind
  state : PreviewOperationState
  allocatedPort : Option Nat
  deriving DecidableEq, Repr

namespace InProcess

structure State where
  instances : Table PreviewInstanceRecord.previewKey
  operations : Table PreviewOperationRecord.operationId

def State.new : State := ⟨.empty, .empty⟩

abbrev StoreM := EStateM PreviewStoreError State

def values {α : Type} {key : α → String} (t : Table key) : List α :=
  t.rows.insertionSort fun a b => textBefore (key b) (key a) = false

def conflict (context : String) (record : PreviewInstanceRecord) : PreviewStoreError :=
  .conflict (context ++ ": state=" ++ record.state.debug ++ ", revision=" ++ toString record.revision)

def putInstance (record : PreviewInstanceRecord) : StoreM Unit :=
  modify fun s => { s with instances := s.instances.put record }

def putOperation (operation : PreviewOperationRecord) : StoreM Unit :=
  modify fun s => { s with operations := s.operations.put operation }

def occupiedPorts (s : State) : List Nat :=
  ((values s.instances).filter (·.state.isActive)).filterMap (·.port)

/-- The revision a start is admitted at, or why it is not admitted. -/
def startRevision (input : AcceptStartInput) :
    Option PreviewInstanceRecord → Except PreviewStoreError (Int ⊕ AcceptStartOutcome)
  | none => pure (.inl 1)
  | some record =>
    match record.state, input.recoverUnknownEvidence with
    | .ready, _ => pure (.inr (.existingReady record))
    | .starting, _ | .stopping, _ => pure (.inr (.blocked record))
    | .unknown, none => pure (.inr (.blocked record))
    | .unknown, some evidence => do
      failIf (evidence.instanceId ≠ record.instanceId ∨ evidence.revision ≠ record.revision ∨
          evidence.detail = "")
        (conflict "Unknown recovery evidence belongs to another instance" record)
      next record
    | .stopped, _ | .failed, _ => next record
where
  next (record : PreviewInstanceRecord) : Except PreviewStoreError (Int ⊕ AcceptStartOutcome) := do
    let revision ← demand (checkedSucc record.revision)
      (PreviewStoreError.unavailable "Preview revision exhausted")
    pure (.inl revision)

def startPort (occupied : List Nat) : Option Nat → Except PreviewStoreError Nat
  | some requested => do
    failIf (¬isPreviewPort requested) (PreviewStoreError.invalid
      ("requested preview port " ++ toString requested ++ " outside pool or reserved"))
    failIf (requested ∈ occupied) (PreviewStoreError.invalid
      ("requested preview port " ++ toString requested ++ " occupied by an active instance"))
    pure requested
  | none =>
    demand (portPool.filter fun p =>
        ¬(previewPortReservedMin ≤ p ∧ p ≤ previewPortReservedMax) ∧ p ∉ occupied).min?
      (PreviewStoreError.invalid "preview port pool exhausted")

def acceptStart (input : AcceptStartInput) (now : Nat) : StoreM AcceptStartOutcome := do
  let s ← get
  match ← fromExcept (startRevision input (s.instances.find? input.previewKey)) with
  | .inr outcome => pure outcome
  | .inl revision => do
    let occupied := ((values s.instances).filter fun row =>
      row.state.isActive ∧ row.previewKey ≠ input.previewKey).filterMap (·.port)
    let port ← fromExcept (startPort occupied input.requestedPort)
    let record := input.record revision port now
    putOperation ⟨input.operationId, input.previewKey, .start, .accepted, some port⟩
    putInstance record
    pure (.admitted record)

def retryStartPort (input : PreviewStartPortRetry) (now : Nat) : StoreM PreviewInstanceRecord := do
  let s ← get
  let before ← require (s.instances.find? input.previewKey)
    (.invalid "Preview has no current instance")
  let (changed, row) ← fromExcept (before.applyStartPortRetry input now)
  let operation ← require (s.operations.find? input.operationId)
    (.invalid "Preview start operation is missing")
  ensure (operation.kind = .start ∧ operation.previewKey = input.previewKey ∧
      operation.operationId = input.operationId ∧ operation.allocatedPort = before.port ∧
      operation.state.inflight)
    (conflict "Port retry requires the matching inflight start operation" before)
  if ¬changed then pure before
  else do
    ensure (¬((values s.instances).any fun record =>
        record.state.isActive ∧ record.port = some input.nextPort))
      (.invalid "Requested preview retry port is occupied")
    putOperation { operation with allocatedPort := row.port }
    putInstance row
    pure row

def publishRunning (key operationId : String) (revision pid : Int) (port : Nat)
    (basePath : Option String) (now : Nat) : StoreM PreviewInstanceRecord := do
  let s ← get
  let record ← require (s.instances.find? key) (.invalid ("preview " ++ key ++ " not found"))
  let (firstPublication, updated) ←
    fromExcept (record.applyRunningPublication operationId revision pid port basePath now)
  putInstance updated
  onlyIf firstPublication (complete operationId)
  pure updated
where
  complete (operationId : String) : StoreM Unit := do
    match (← get).operations.find? operationId with
    | some op => putOperation { op with state := .succeeded }
    | none => pure ()

def acceptStop (key operationId : String) (now : Nat) : StoreM PreviewInstanceRecord := do
  let s ← get
  let record ← require (s.instances.find? key)
    (.invalid ("preview " ++ key ++ " has no instance to stop"))
  match s.operations.find? operationId with
  | some operation => do
    ensure (operation.kind = .stop ∧ operation.previewKey = key ∧ record.operationId = operationId)
      (conflict "Stop operation belongs to another request or instance" record)
    pure record
  | none =>
    if ¬record.state.isActive then pure record
    else do
      ensure (record.state ≠ .stopping) (conflict "Another stop operation is in progress" record)
      -- the record is changed in place before its next revision is known to exist
      let stopping := record.toStopping operationId
      putInstance stopping
      let revision ← require (checkedSucc record.revision)
        (.unavailable "Preview revision exhausted")
      putInstance (stopping.revise revision now)
      putOperation ⟨operationId, key, .stop, .accepted, record.port⟩
      pure (stopping.revise revision now)

def markStopped (key operationId : String) (revision : Int) (now : Nat) :
    StoreM PreviewInstanceRecord := do
  let s ← get
  let record ← require (s.instances.find? key) (.invalid ("preview " ++ key ++ " not found"))
  let updated ← stop record
  publishRunning.complete operationId
  pure updated
where
  stop (record : PreviewInstanceRecord) : StoreM PreviewInstanceRecord := do
    if record.operationId = operationId ∧ record.revision = revision ∧ record.state = .stopping then
      putInstance (record.toStopped now)
      pure (record.toStopped now)
    else do
      ensure (record.state = .stopped ∧ record.operationId = operationId ∧
        record.revision = revision) (conflict "mark_stopped lost the race" record)
      pure record

def failOperation (key : String) (op : PreviewOperationRecord) : PreviewOperationRecord :=
  if op.previewKey = key ∧ (op.state = .accepted ∨ op.state = .running) then
    { op with state := .failed }
  else op

theorem failOperation_id (key : String) (op : PreviewOperationRecord) :
    (failOperation key op).operationId = op.operationId := by
  unfold failOperation
  split_ifs <;> rfl

def markFailed (key instanceId : String) (revision : Int) (detail : String) (now : Nat) :
    StoreM PreviewInstanceRecord := do
  let s ← get
  let record ← require (s.instances.find? key) (.invalid ("preview " ++ key ++ " not found"))
  ensure (record.instanceId = instanceId ∧ record.revision = revision ∧
    (record.state = .starting ∨ record.state = .ready)) (conflict "mark_failed lost the race" record)
  putInstance (record.toFailed detail now)
  modify fun s => { s with
    operations := s.operations.rewrite (failOperation key) (failOperation_id key) }
  pure (record.toFailed detail now)

/-- Change one record under the lock, on a condition. -/
def mutate (key : String)
    (actor : PreviewInstanceRecord → Except PreviewStoreError PreviewInstanceRecord) :
    StoreM PreviewInstanceRecord := do
  let record ← require ((← get).instances.find? key) (.invalid ("preview " ++ key ++ " not found"))
  let updated ← fromExcept (actor record)
  putInstance updated
  pure updated

def markUnknown (key instanceId detail : String) (now : Nat) : StoreM PreviewInstanceRecord :=
  mutate key fun record => do
    failIf (record.instanceId ≠ instanceId ∨ ¬record.state.isActive)
      (conflict "mark_unknown lost the race" record)
    pure (record.toUnknown detail now)

def resolveUnknownStopped (key instanceId evidence : String) (now : Nat) :
    StoreM PreviewInstanceRecord :=
  mutate key fun record => do
    failIf (record.instanceId ≠ instanceId ∨ record.state ≠ .unknown)
      (conflict "resolve_unknown_stopped lost the race" record)
    pure (record.toRecovered evidence now)

def refreshHeartbeat (key instanceId : String) (now : Nat) :
    StoreM (Option PreviewInstanceRecord) := do
  match (← get).instances.find? key with
  | none => pure none
  | some record =>
    if record.instanceId = instanceId ∧ (record.state = .ready ∨ record.state = .unknown) then do
      let updated := { record with lastHeartbeatAt := some now, updatedAt := now }
      putInstance updated
      pure (some updated)
    else pure none

def flushEntry (entry : ActivityFlushEntry) : StoreM Nat := do
  match (← get).instances.find? entry.previewKey with
  | none => pure 0
  | some record =>
    if record.state.isActive ∧ record.instanceId = entry.instanceId ∧
        record.lastActivityAt < entry.activityAt then do
      putInstance { record with lastActivityAt := entry.activityAt }
      pure 1
    else pure 0

def flushActivity : List ActivityFlushEntry → StoreM Nat
  | [] => pure 0
  | entry :: entries => do
    let moved ← flushEntry entry
    let rest ← flushActivity entries
    pure (moved + rest)

/-- One step of `max_by_key` over the revisions, which keeps the last of equal maxima. -/
def later : Option PreviewInstanceRecord → PreviewInstanceRecord → Option PreviewInstanceRecord
  | none, r => some r
  | some best, r => if best.revision ≤ r.revision then some r else some best

def findActiveByPort (s : State) (port : Nat) : Option PreviewInstanceRecord :=
  ((values s.instances).filter fun r => r.state.isActive ∧ r.port = some port).foldl later none

def listByHost (s : State) (hostId : String) (activeOnly : Bool) : List PreviewInstanceRecord :=
  (values s.instances).filter fun r => r.hostId = hostId ∧ (activeOnly = false ∨ r.state.isActive)

def listActive (s : State) : List PreviewInstanceRecord :=
  (values s.instances).filter (·.state.isActive)

def outlived (podUid bootId : String) (r : PreviewInstanceRecord) : Bool :=
  (podUid ++ ":").toList.isPrefixOf r.hostId.toList ∧ r.hostId ≠ podUid ++ ":" ++ bootId ∧
    r.state.isActive

def rebootDetail (podUid bootId : String) : String :=
  "host reboot reconciled by " ++ (podUid ++ ":" ++ bootId)

def reboot (podUid bootId : String) (now : Nat) (r : PreviewInstanceRecord) :
    PreviewInstanceRecord :=
  if outlived podUid bootId r then r.toRecovered (rebootDetail podUid bootId) now else r

theorem reboot_key (podUid bootId : String) (now : Nat) (r : PreviewInstanceRecord) :
    (reboot podUid bootId now r).previewKey = r.previewKey := by
  unfold reboot
  split_ifs <;> rfl

def reconcileHostReboot (podUid bootId : String) (now : Nat) :
    StoreM (List PreviewInstanceRecord) := do
  let s ← get
  set { s with
    instances := s.instances.rewrite (reboot podUid bootId now) (reboot_key podUid bootId now) }
  pure (((values s.instances).filter (outlived podUid bootId)).map (reboot podUid bootId now))

def respond {α : Type} (f : α → Answer) (m : StoreM α) (s : State) : Answer × State :=
  match m s with
  | .ok a s' => (f a, s')
  | .error e s' => (.error e, s')

def exec (s : State) (request : Request) : Answer × State :=
  match request.call with
  | .acceptStart input => respond .outcome (acceptStart input request.now) s
  | .retryStartPort input => respond .record (retryStartPort input request.now) s
  | .publishRunning key operationId revision pid port basePath =>
    respond .record (publishRunning key operationId revision pid port basePath request.now) s
  | .acceptStop key operationId => respond .record (acceptStop key operationId request.now) s
  | .markStopped key operationId revision =>
    respond .record (markStopped key operationId revision request.now) s
  | .markFailed key instanceId revision detail =>
    respond .record (markFailed key instanceId revision detail request.now) s
  | .markUnknown key instanceId detail =>
    respond .record (markUnknown key instanceId detail request.now) s
  | .resolveUnknownStopped key instanceId evidence =>
    respond .record (resolveUnknownStopped key instanceId evidence request.now) s
  | .refreshHeartbeat key instanceId => respond .found (refreshHeartbeat key instanceId request.now) s
  | .flushActivity entries => respond .count (flushActivity entries) s
  | .get key => (.found (s.instances.find? key), s)
  | .findActiveByPort port => (.found (findActiveByPort s port), s)
  | .activePorts => (.ports (occupiedPorts s), s)
  | .listByHost hostId activeOnly => (.records (listByHost s hostId activeOnly), s)
  | .listActive => (.records (listActive s), s)
  | .reconcileHostReboot podUid bootId =>
    respond .records (reconcileHostReboot podUid bootId request.now) s

def machine : Machine State Request Answer := ⟨exec⟩

end InProcess

end Rcoder.Preview
