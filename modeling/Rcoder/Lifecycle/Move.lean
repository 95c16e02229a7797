import Mathlib.Logic.Relation
import Rcoder.Lifecycle.Steps

/-!
# Moves of the ledger

Everything that any transaction of the store does to the ledger, as one relation. A transaction
is a sequence of moves, and every invariant of the ledger is checked against this relation only.
The label of a move names the rights that only some transactions have.
-/

namespace Rcoder.Lifecycle

variable {appId : String}

namespace Ledger

/-- One interrupted operation has ended and let go of its lease. -/
def DrainedOne (L : Ledger) (control : ControlRecord) (id : String) : Prop :=
  (∃ operation, L.operation id = some operation ∧ operation.appId = control.appId ∧
      operation.lifecycleId = control.lifecycleId ∧ operation.state.isTerminal = true ∧
      L.lease id = none) ∨
    ((∀ operation, L.operation id = some operation → operation.appId ≠ control.appId) ∧
      ∃ old, L.control id = some old ∧ old.appId = control.appId ∧
        old.lifecycleId = control.lifecycleId ∧
        (old.state = .succeeded ∨ old.state = .failed ∨ Compute.neverClaimed old = true) ∧
        old.lease = none)

/-- Everything the control interrupted has ended. -/
def Drained (L : Ledger) (control : ControlRecord) : Prop :=
  ∀ id ∈ control.interruptedOperations, L.DrainedOne control id

/-- The control is settled: it has ended, or nobody ever claimed it. -/
structure SettledControl (L : Ledger) (control : ControlRecord) : Prop where
  ended : control.isLive = false
  unclaimed : control.state = .superseded →
    control.executorId = none ∧ control.stage = "accepted" ∧ control.lease = none
  drained : L.Drained control

/-- No control of the head's lifecycle and scope is unresolved. -/
def SettledHead (L : Ledger) (head : IntentRow) : Prop :=
  ∀ id control, L.control id = some control → control.appId = head.appId →
    control.lifecycleId = head.lifecycleId → control.scope = head.scope → L.SettledControl control

/-- Settlement is about controls, operations and leases, whatever the heads are. -/
theorem settledHead_dropHead {L : Ledger} {scope : OperationScope} {head : IntentRow}
    (h : (L.dropHead appId scope).SettledHead head) : L.SettledHead head := by
  intro id control hc happ hlife hscope
  obtain ⟨hended, hunclaimed, hdrained⟩ := h id control hc happ hlife hscope
  exact ⟨hended, hunclaimed, hdrained⟩

/-- The head of an active application names the control. -/
structure Current (L : Ledger) (control : ControlRecord) : Prop where
  application : ∃ app, L.Holds app ∧ app.appId = control.appId ∧
    app.lifecycleId = control.lifecycleId ∧ app.state = .active
  head : ∃ head, L.head (control.appId, control.scope) = some head ∧
    head.lifecycleId = control.lifecycleId ∧ head.generation = control.generation ∧
    head.controlOperationId = some control.operationId

/-- What a new control takes over from the head of its scope: the operations handed on, and the
control that loses its authority to the new one. -/
inductive Inherits (L : Ledger) (new : ControlRecord) :
    List String → Option ControlRecord → Prop
  | absent (missing : L.head (new.appId, new.scope) = none) : Inherits L new [] none
  | historical {head : IntentRow} (stored : L.head (new.appId, new.scope) = some head)
      (earlier : head.lifecycleId ≠ new.lifecycleId) (settled : L.SettledHead head) :
      Inherits L new [] none
  | unnamed {head : IntentRow} (stored : L.head (new.appId, new.scope) = some head)
      (same : head.lifecycleId = new.lifecycleId) (unnamed : head.controlOperationId = none) :
      Inherits L new [] none
  | ended {head : IntentRow} {old : ControlRecord}
      (stored : L.head (new.appId, new.scope) = some head)
      (same : head.lifecycleId = new.lifecycleId)
      (named : head.controlOperationId = some old.operationId)
      (found : L.control old.operationId = some old) (ended : old.isLive = false) :
      Inherits L new old.interruptedOperations none
  | superseded {head : IntentRow} {old : ControlRecord}
      (stored : L.head (new.appId, new.scope) = some head)
      (same : head.lifecycleId = new.lifecycleId)
      (named : head.controlOperationId = some old.operationId)
      (found : L.control old.operationId = some old) (live : old.isLive = true) :
      Inherits L new (old.interruptedOperations ++ [old.operationId]) (some old)

structure NewControl (control : ControlRecord) : Prop where
  pending : control.state = .pending
  unclaimed : control.executorId = none
  stage : control.stage = "accepted"
  unbound : control.lease = none
  revision : control.revision = 1

structure Names (head : IntentRow) (control : ControlRecord) : Prop where
  appId : head.appId = control.appId
  scope : head.scope = control.scope
  lifecycleId : head.lifecycleId = control.lifecycleId
  generation : head.generation = control.generation
  named : head.controlOperationId = some control.operationId

structure AdmitsControl (L : Ledger) (app : LifecycleRecord) (new : ControlRecord)
    (handed : List String) (old : Option ControlRecord) (head : IntentRow) : Prop where
  holds : L.Holds app
  active : app.state = .active
  appId : new.appId = app.appId
  lifecycleId : new.lifecycleId = app.lifecycleId
  environment : new.scope ≠ .application
  start : NewControl new
  fresh : L.control new.operationId = none
  generation : ∀ id control, L.control id = some control → control.appId = new.appId →
    control.scope = new.scope → control.generation < new.generation
  inherits : L.Inherits new handed old
  interrupted : ∀ id, id ∈ new.interruptedOperations ↔ id ∈ handed ∨
    app.activeOperations.slot new.scope = some id ∨
    app.activeOperations.slot .application = some id
  names : Names head new

/-- A control loses its authority. -/
def supersede (L : Ledger) : Option ControlRecord → Ledger
  | none => L
  | some old => L.setControl (Compute.supersede old)

structure NewRoot (app : LifecycleRecord) : Prop where
  epoch : app.lifecycleEpoch = 1
  revision : app.metadataRevision = 1
  state : app.state = .active
  slots : app.activeOperations = {}

structure NextIncarnation (app next : LifecycleRecord) : Prop where
  appId : next.appId = app.appId
  epoch : next.lifecycleEpoch = app.lifecycleEpoch + 1
  state : next.state = .active
  slots : next.activeOperations = {}

inductive Move (act : Act) (L : Ledger) : Ledger → Prop
  | openRoot {app : LifecycleRecord} (missing : L.root app.appId = none)
      (unslotted : L.slots app.appId = none) (start : NewRoot app) : Move act L (L.saveApp app)
  | patch {app app' : LifecycleRecord} (holds : L.Holds app) (same : SameIncarnation app app')
      (state : app'.state = app.state) (slots : app'.activeOperations = app.activeOperations) :
      Move act L (L.saveApp app')
  | accept {app app' : LifecycleRecord} {request : Admission} {active : ActiveOperationRecords}
      {now : Int} {operation : OperationRecord} (holds : L.Holds app)
      (slots : ∀ scope, active.slot scope = none → app.activeOperations.slot scope = none)
      (accepted : Domain.Accepted app request active now app' operation)
      (fresh : L.operation operation.operationId = none)
      (by_admission : act = .admission operation.operationId) :
      Move act L ((L.setOperation operation).saveApp app')
  | nameRequest {row : RequestRow} {operation : OperationRecord}
      (unnamed : L.request (row.appId, row.requestId) = none)
      (stored : L.operation operation.operationId = some operation)
      (target : row.target = .control operation.operationId operation.lifecycleId)
      (sameApp : row.appId = operation.appId) : Move act L (L.setRequest row)
  | step {app app' : LifecycleRecord} {operation operation' : OperationRecord}
      (inSlot : L.InSlot app operation) (current : operation.lifecycleId = app.lifecycleId)
      (step : OperationStep act app operation operation')
      (follows : Follows app operation operation'.state app') :
      Move act L ((L.setOperation operation').saveApp app')
  | touch {app app' : LifecycleRecord} {operation operation' : OperationRecord}
      (inSlot : L.InSlot app operation) (current : operation.lifecycleId = app.lifecycleId)
      (step : OperationStep act app operation operation')
      (follows : Follows app operation operation'.state app')
      (bare : app'.bare = app.bare) : Move act L ((L.setOperation operation').put app')
  | bindLease {app : LifecycleRecord} {operation : OperationRecord} {binding : LeaseBinding}
      (inSlot : L.InSlot app operation) (running : operation.state = .running)
      (unbound : L.lease operation.operationId = none) :
      Move act L (L.setLease operation.operationId (some binding))
  | forgetLease {operation : OperationRecord}
      (stored : L.operation operation.operationId = some operation)
      (ended : operation.state.isTerminal = true) :
      Move act L (L.setLease operation.operationId none)
  | recreate {app next : LifecycleRecord} {row : RequestRow} (holds : L.Holds app)
      (deleted : app.state = .deleted) (empty : app.activeOperations = {})
      (settled : ∀ scope head, scope ≠ .application → L.head (app.appId, scope) = some head →
        L.SettledHead head)
      (following : NextIncarnation app next) (revision : next.metadataRevision = 1)
      (unnamed : L.request (row.appId, row.requestId) = none) (sameApp : row.appId = app.appId)
      (target : row.target = .recreate app.lifecycleId next.lifecycleId)
      (by_recreate : act = .recreate next.lifecycleId) :
      Move act L ((((L.dropHead app.appId .dev).dropHead app.appId .prod).saveApp next).setRequest
        row)
  | rebind {app next : LifecycleRecord} (holds : L.Holds app) (active : app.state = .active)
      (empty : app.activeOperations = {}) (epoch : app.lifecycleEpoch = 1)
      (following : NextIncarnation app next) (changed : next.lifecycleId ≠ app.lifecycleId)
      (unused : ∀ id operation, L.operation id = some operation → operation.appId = app.appId →
        operation.state.isTerminal = true)
      (controls : ∀ id control, L.control id = some control → control.appId ≠ app.appId)
      (heads : ∀ scope, L.head (app.appId, scope) = none) : Move act L (L.saveApp next)
  | openHead {app : LifecycleRecord} {head : IntentRow} (holds : L.Holds app)
      (appId : head.appId = app.appId) (lifecycleId : head.lifecycleId = app.lifecycleId)
      (environment : head.scope ≠ .application)
      (missing : L.head (head.appId, head.scope) = none)
      (unnamed : head.controlOperationId = none) : Move act L (L.setHead head)
  | admitControl {app : LifecycleRecord} {new : ControlRecord} {handed : List String}
      {old : Option ControlRecord} {head : IntentRow}
      (admits : L.AdmitsControl app new handed old head)
      (by_admission : act = .admitControl new.operationId) :
      Move act L (((L.supersede old).setControl new).setHead head)
  | control {control control' : ControlRecord}
      (stored : L.control control.operationId = some control)
      (step : ControlStep act control control')
      (stopping : control'.stage = "stopping" → control.stage ≠ "stopping" →
        L.Current control ∧ L.Drained control) : Move act L (L.setControl control')
  | release {head head' : IntentRow} (stored : L.head (head.appId, head.scope) = some head)
      (ended : ∀ id control, head.controlOperationId = some id → L.control id = some control →
        control.isLive = false)
      (freed : head' = { head with
        desiredState := .running, controlOperationId := none, revision := head.revision + 1 })
      (by_access : act = .release head.appId head.scope) : Move act L (L.setHead head')

theorem Move.of_live {act : Act} {L : Ledger} {app : LifecycleRecord}
    {operation operation' : OperationRecord} (inSlot : L.InSlot app operation)
    (current : operation.lifecycleId = app.lifecycleId)
    (step : OperationStep act app operation operation')
    (live : operation'.state.isTerminal = false) : Move act L (L.setOperation operation') := by
  have hholds : (L.setOperation operation').Holds app := inSlot.holds
  rw [← put_of_holds hholds]
  exact .touch inSlot current step (follows_refl live) rfl

/-- What a transaction does to the ledger. -/
def Moves (act : Act) : Ledger → Ledger → Prop := Relation.ReflTransGen (Move act)

variable {act : Act} {L L' L'' : Ledger}

theorem Moves.refl (L : Ledger) : Moves act L L := Relation.ReflTransGen.refl

theorem Moves.of_eq (h : L' = L) : Moves act L L' := by
  rw [h]
  exact .refl L

theorem Moves.one (h : Move act L L') : Moves act L L' := .single h

theorem Moves.trans (h : Moves act L L') (h' : Moves act L' L'') : Moves act L L'' :=
  Relation.ReflTransGen.trans h h'

/-- What every move keeps, every transaction keeps. -/
theorem Moves.keeps {P : Ledger → Prop} (h : Moves act L L') (hL : P L)
    (step : ∀ M M', Move act M M' → P M → P M') : P L' := by
  induction h with
  | refl => exact hL
  | tail _ hm ih => exact step _ _ hm ih

end Ledger

open Effect

variable {α β : Type} {act : Act} {m : Tx α}

/-- The transaction moves the ledger by what its label allows. -/
def Performs (act : Act) (m : Tx α) : Prop :=
  ∀ db, Gives m db fun _ db' => Ledger.Moves act db.ledger db'.ledger

namespace Performs

theorem of_quiet (h : Quiet m) : Performs act m :=
  fun db => (h db).mono fun _ _ heq => .of_eq heq

theorem after {f : α → Tx β} {db : Store} (hm : Quiet m)
    (hf : ∀ a db', db'.ledger = db.ledger → Gives (f a) db' fun _ db'' =>
      Ledger.Moves act db'.ledger db''.ledger) :
    Gives (m >>= f) db fun _ db' => Ledger.Moves act db.ledger db'.ledger :=
  (hm db).bind fun a db₁ h₁ => by
    rw [← h₁]
    exact hf a db₁ h₁

/-- A transaction that begins with the claim of its application. -/
theorem claimed {f : Unit → Tx β} (hf : Performs act (f ())) :
    Performs act (claimApp appId >>= f) :=
  fun _ => after (quiet_claimApp appId) fun _ db₁ _ => hf db₁

end Performs

end Rcoder.Lifecycle
