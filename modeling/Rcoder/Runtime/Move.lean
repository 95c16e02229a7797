import Mathlib.Logic.Relation
import Rcoder.Runtime.Rules

/-!
# What the kernel can do

Every entry point is a sequence of moves. A move names one change of the kernel's state
together with what the code has established when it makes it; invariants are checked move by
move and hold for every entry point and every pattern of disk faults. The parameter `W` says
which records the running entry point may settle, and with which diagnosis.

Accepting a request is kept apart (`Admits`): it is the only change that opens a new record
and occupies a slot. An admission that breaks off in between leaves `Disturbs` behind.
-/

namespace Rcoder.Runtime

open Effect

/-- `desired.json` is there and holds no desired state. -/
def RuntimeStore.Damaged (s : RuntimeStore) : Prop :=
  s.desired = .notObject ∨ s.desired = .incomplete ∨ ∃ cause, s.desired = .undecodable cause

namespace Kernel

/-- The record of `id` is readable and its outcome is not known to be final. -/
def Unknown (k : Kernel) (id : String) : Prop :=
  ∃ r, k.record? id = some r ∧ r.view.state.isTerminal = false

def Readable (k : Kernel) (id : String) : Prop := ∃ r, k.record? id = some r

def withAdmission (k : Kernel) (a : AdmissionState) : Kernel := { k with admission := a }

def shielded (k : Kernel) : Kernel :=
  k.withAdmission { k.admission with recoveryProtection := true }

def unqueued (k : Kernel) : Kernel :=
  k.withAdmission { k.admission with pendingRestart := none, queuedInput := none }

def promoted (k : Kernel) (id : String) (input : StoredOperation) : Kernel :=
  { k with
    admission := { k.admission with
      queuedInput := none, pendingRestart := none, activeOperationId := some id }
    dispatched := k.dispatched ++ [dispatchActionFor input] }

/-- The operations of an ended session, settled or kept for a later attempt. -/
def handedOver (k : Kernel) (stop : Option String) (unsettled : List String)
    (protection : Bool) : Kernel :=
  k.withAdmission { k.admission with
    interruptedStop := stop, interruptedOperations := unsettled, recoveryProtection := protection }

end Kernel

def StoredOperation.superseded (r : StoredOperation) (message : String) : StoredOperation :=
  r.settle .cancelled (some (errSuperseded, message)) none

/-- What an entry point may settle: which records, with which error code and message and in
which state, whose slots it releases then, whether the queue, and whether records that are held
for recovery. Startup also sets files aside that it cannot read. -/
structure Settles where
  records : String → Option (String × String) → Prop
  queue : Prop
  states : String → RuntimeOperationState → Prop
  releases : String → Prop
  revives : Prop
  setsAside : Prop

def Settles.nothing : Settles :=
  ⟨fun _ _ => False, False, fun _ _ => False, fun _ => False, True, False⟩

def Settles.none : Settles :=
  ⟨fun _ _ => False, False, fun _ _ => False, fun _ => False, False, False⟩

inductive Move (W : Settles) : Kernel → Kernel → Prop
  | quiet {k : Kernel} {d : Disk} (disk : Quiet k.disk d) : Move W k { k with disk := d }
  -- marks and bookkeeping
  | cancel {k : Kernel} {id : String} (file : k.Readable id) :
      Move W k { k with cancelled := k.cancelled.insert id }
  | uncancel {k : Kernel} {id : String} {r : StoredOperation} (record : k.record? id = some r)
      (settled : r.view.state.Settled) (releases : W.releases id) :
      Move W k { k with cancelled := k.cancelled.filter (· ≠ id) }
  | receipt {k : Kernel} {r : StoredOperation}
      (record : k.record? r.view.operationId = some r) : Move W k (k.recordCancellation r)
  | cancelSource {k : Kernel} {id : String} :
      Move W k { k with dispatched := k.dispatched ++ [.cancelSource id] }
  | consume {k : Kernel} {id : String}
      (slot : k.admission.activeOperationId = some id ∨ k.admission.pendingStop = some id) :
      Move W k (k.withAdmission { k.admission with
        consumedOperations := k.admission.consumedOperations.insert id })
  | note {k : Kernel} {latest exiting : Option String} :
      Move W k (k.withAdmission { k.admission with
        latestAdmittedOperationId := latest, foregroundExitingOperation := exiting })
  | forget {k : Kernel} {id : String} :
      Move W k (k.withAdmission { k.admission with
        recoveredOperations := k.admission.recoveredOperations.filter (· ≠ id) })
  -- protection
  | protect {k : Kernel} : Move W k k.shielded
  | assess {k : Kernel} {ids : List String} {protection : Bool}
      (sound : protection = false → ∀ id, k.Unknown id → id ∈ k.live) :
      Move W k (k.withAdmission { k.admission with
        recoveredOperations := ids, recoveryProtection := protection })
  -- records
  | settle {k : Kernel} {id : String} {r : StoredOperation} {state : RuntimeOperationState}
      {error : Option (String × String)} {detail : Option RuntimeFailureDetail}
      (record : k.record? id = some r) (unsettled : ¬r.view.state.Settled)
      (final : state.Settled) (diagnosis : W.records id error) (writes : W.states id state) :
      Move W k (k.publish (r.settle state error detail))
  | complete {k : Kernel} {r : StoredOperation} (record : k.record? r.view.operationId = some r)
      (previous : k.admission.mayResolve r = true) (unsettled : ¬r.view.state.Settled)
      (stop : r.view.kind = .stop) : Move W k (k.publish (r.settle .succeeded none none))
  | resolve {k : Kernel} {r : StoredOperation} (record : k.record? r.view.operationId = some r)
      (previous : k.admission.mayResolve r = true) (revives : W.revives) :
      Move W k (k.publish (interruptedRecord r))
  | recover {k : Kernel} {r : StoredOperation} (record : k.record? r.view.operationId = some r)
      (dead : r.view.operationId ∉ k.live) (unfinished : r.view.state.isTerminal = false) :
      Move W k (k.publish (recoveredRecord r))
  | confirm {k : Kernel} {r : StoredOperation} (record : k.record? r.view.operationId = some r)
      (empty : k.admission.slotsEmpty = true)
      (claims : claimsStop k.revision r = true) (revives : W.revives) :
      Move W k (k.publish (confirmedStop r))
  | reconcile {k : Kernel} {r : StoredOperation} {receipt : Receipt} {cancelled : Bool}
      (record : k.record? r.view.operationId = some r) (empty : k.admission.slotsEmpty = true)
      (unknown : r.view.state = .recoveryRequired) (kind : r.view.kind ≠ .stop)
      (revives : W.revives) : Move W k (k.publish (reconciledRecord receipt cancelled r))
  | setAside {k : Kernel} {id : String}
      (unreadable : k.record? id = none ∨ k.disk.script ≠ []) (setsAside : W.setsAside) :
      Move W k { k with disk := { k.disk with store := k.disk.store.setAside id } }
  -- slots
  | releaseActive {k : Kernel} {id : String} (slot : k.admission.activeOperationId = some id)
      (known : k.admission.recoveryProtection = true ∨ ¬k.Unknown id) :
      Move W k (k.withAdmission { k.admission with activeOperationId := none })
  | releaseStop {k : Kernel} {id : String} (slot : k.admission.pendingStop = some id)
      (known : k.admission.recoveryProtection = true ∨ ¬k.Unknown id) :
      Move W k (k.withAdmission { k.admission with pendingStop := none })
  | promote {k : Kernel} {id : String} {r input : StoredOperation}
      (slot : k.admission.pendingRestart = some id)
      (idle : k.admission.activeOperationId = none)
      (unprotected : k.admission.recoveryProtection = false)
      (record : k.record? id = some r) (accepted : r.view.state = .accepted)
      (kind : r.view.kind ≠ .stop) (retained : k.admission.queuedInput = some input)
      (same : input.view.operationId = id) : Move W k (k.promoted id input)
  | supersede {k : Kernel} {id message : String} {r : StoredOperation}
      (slot : k.admission.pendingRestart = some id)
      (guarded : k.admission.recoveryProtection = true) (record : k.record? id = some r)
      (unsettled : ¬r.view.state.Settled) (queue : W.queue) :
      Move W k (k.publish (r.superseded message)).unqueued
  | tornSupersede {k : Kernel} {id message : String} {r : StoredOperation}
      (torn : k.disk.script ≠ []) (guarded : k.admission.recoveryProtection = true)
      (record : k.record? id = some r) (unsettled : ¬r.view.state.Settled) :
      Move W k (k.publish (r.superseded message))
  | drop {k : Kernel} {id : String} {r : StoredOperation}
      (slot : k.admission.pendingRestart = some id)
      (guarded : k.admission.recoveryProtection = true) (record : k.record? id = some r)
      (settled : r.view.state.Settled) : Move W k k.unqueued
  | endSession {k : Kernel} : Move W k (k.withAdmission k.admission.endSession)
  | handOver {k : Kernel} {protection : Bool}
      (sound : protection = false → ∀ id, k.Unknown id → id ∈ (k.handedOver none [] false).live) :
      Move W k (k.handedOver none [] protection)
  | retain {k : Kernel} {stop : Option String} {unsettled : List String}
      (listed : ∀ id, stop = some id → k.admission.interruptedStop = some id ∧ id ∈ unsettled)
      (subset : ∀ id ∈ unsettled, id ∈ k.admission.staleOperations) :
      Move W k (k.handedOver stop unsettled true)
  -- intent
  | asideDesired {k : Kernel} (damaged : k.disk.store.Damaged) :
      Move W k { k with disk := { k.disk with store := { k.disk.store with desired := .absent } } }
  | repair {k : Kernel} (damaged : k.disk.store.Damaged) : Move W k (k.setDesired .stopped 0)
  | stopIntent {k : Kernel} {next : Nat} (succ : checkedSucc k.revision = some next)
      (idle : k.admission.slotsEmpty = true) (running : k.disk.store.currentDesired.1 = .running) :
      Move W k (k.setDesired .stopped next)

abbrev Moves (W : Settles) : Kernel → Kernel → Prop :=
  Relation.ReflTransGen (Move W)

structure Opens (stored : StoredOperation) (next : Nat) (k : Kernel) : Prop where
  fresh : stored.view.operationId ∉ k.disk.store.operations
  accepted : stored.view.state = .accepted
  revision : stored.view.revision = k.revision
  undiagnosed : stored.view.errorCode = none
  same_kind : stored.request.kind = stored.view.kind
  supported : supported stored.request.kind stored.request.profile = true
  next_stop : stored.view.kind = .stop → checkedSucc k.revision = some next
  next_start : stored.view.kind ≠ .stop → next = k.revision
  unprotected : stored.view.kind ≠ .stop → k.admission.recoveryProtection = false
  no_stop : stored.view.kind = .stop → k.admission.pendingStop = none

/-- The queued operation, if there is one, gives way to a newer intent. -/
inductive Clears : Kernel → Kernel → Prop
  | vacant {k : Kernel} (slot : k.admission.pendingRestart = none) : Clears k k
  | settled {k : Kernel} {id : String} {r : StoredOperation}
      (slot : k.admission.pendingRestart = some id) (record : k.record? id = some r)
      (settled : r.view.state.Settled) : Clears k k
  | superseded {k : Kernel} {id message : String} {r : StoredOperation}
      (slot : k.admission.pendingRestart = some id) (record : k.record? id = some r)
      (unsettled : ¬r.view.state.Settled) : Clears k (k.publish (r.superseded message))

namespace Kernel

/-- The new record and the intent it expresses, both persisted. -/
def opened (k : Kernel) (stored : StoredOperation) (next : Nat) : Kernel :=
  (k.publish stored).setDesired (intentOf stored.view.kind) next

def stopAccepted (k : Kernel) (stored : StoredOperation) : Kernel :=
  { k with
    admission := { k.admission with
      pendingRestart := none
      queuedInput := none
      pendingStop := some stored.view.operationId
      latestAdmittedOperationId := some stored.view.operationId }
    dispatched := k.dispatched ++ [dispatchActionFor stored] }

def enqueued (k : Kernel) (stored : StoredOperation) : Kernel :=
  k.withAdmission { k.admission with
    pendingRestart := some stored.view.operationId, queuedInput := some stored }

def activated (k : Kernel) (stored : StoredOperation) : Kernel :=
  { k with
    admission := { k.admission with
      pendingRestart := none
      queuedInput :=
        if k.admission.pendingRestart = none then k.admission.queuedInput else none
      activeOperationId := some stored.view.operationId
      latestAdmittedOperationId := some stored.view.operationId }
    dispatched := k.dispatched ++ [dispatchActionFor stored] }

end Kernel

inductive Admits (stored : StoredOperation) (next : Nat) : Kernel → Kernel → Prop
  | stop {k k' : Kernel} (opens : Opens stored next k) (kind : stored.view.kind = .stop)
      (clears : Clears (k.opened stored next) k') : Admits stored next k (k'.stopAccepted stored)
  | queue {k k' : Kernel} (opens : Opens stored next k) (kind : stored.view.kind ≠ .stop)
      (busy : k.admission.activeOperationId ≠ none ∨ k.admission.pendingStop ≠ none)
      (clears : Clears (k.opened stored next) k') : Admits stored next k (k'.enqueued stored)
  | active {k k' : Kernel} (opens : Opens stored next k) (kind : stored.view.kind ≠ .stop)
      (idle : k.admission.activeOperationId = none ∧ k.admission.pendingStop = none)
      (clears : Clears (k.opened stored next) k') : Admits stored next k (k'.activated stored)

/-- What an admission of `stored` that breaks off can leave behind, where `queued` was waiting
when it began. -/
inductive Disturb (stored : StoredOperation) (next : Nat) (queued : Option String) :
    Kernel → Kernel → Prop
  | quiet {k : Kernel} {d : Disk} (disk : Quiet k.disk d) :
      Disturb stored next queued k { k with disk := d }
  | slots {k : Kernel} {a : AdmissionState}
      (stop : a.interruptedStop = k.admission.interruptedStop)
      (operations : a.interruptedOperations = k.admission.interruptedOperations)
      (active : a.activeOperationId = k.admission.activeOperationId)
      (pending : a.pendingStop = k.admission.pendingStop)
      (queue : a.pendingRestart = k.admission.pendingRestart ∨ a.pendingRestart = none ∨
        a.pendingRestart = some stored.view.operationId ∨ a.pendingRestart = queued) :
      Disturb stored next queued k (k.withAdmission a)
  | cancel {k : Kernel} (id : String) :
      Disturb stored next queued k { k with cancelled := k.cancelled.insert id }
  | receipt {k : Kernel} (r : StoredOperation) :
      Disturb stored next queued k (k.recordCancellation r)
  | record {k : Kernel} : Disturb stored next queued k (k.publish stored)
  | intent {k : Kernel} :
      Disturb stored next queued k (k.setDesired (intentOf stored.view.kind) next)
  | supersede {k : Kernel} {id message : String} {r : StoredOperation}
      (record : k.record? id = some r) (unsettled : ¬r.view.state.Settled) :
      Disturb stored next queued k (k.publish (r.superseded message))
  | hold {k : Kernel} (reason : String) :
      Disturb stored next queued k (k.publish (heldRecord stored reason))

abbrev Disturbs (stored : StoredOperation) (next : Nat) (k : Kernel) : Kernel → Prop :=
  Relation.ReflTransGen (Disturb stored next k.admission.pendingRestart) k

namespace Kernel

/-- What makes an admission break off: a scheduled fault, an intent file that cannot be
replaced, or an occupied slot whose record cannot be read. -/
def Broken (k : Kernel) : Prop :=
  k.disk.script ≠ [] ∨ k.disk.store.desired = .notObject ∨
    (∃ cause, k.disk.store.desired = .undecodable cause) ∨
    ∃ id, (k.admission.pendingRestart = some id ∨ k.admission.activeOperationId = some id) ∧
      k.record? id = none

end Kernel

inductive Fails (stored : StoredOperation) (next : Nat) (k k' : Kernel) : Prop
  /-- nothing was written -/
  | unwritten (quiet : Quietly k k')
  /-- the record is there although its write was reported as failed -/
  | torn {cause : List String} {rest : List Fault}
      (script : k.disk.script = .published cause :: rest) (record : Quietly (k.publish stored) k')
  /-- the protection keeps what was written for recovery -/
  | held (broken : k.Broken) (left : Disturbs stored next k k')
      (guarded : k'.admission.recoveryProtection = true)

end Rcoder.Runtime
