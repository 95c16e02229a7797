import Rcoder.Lifecycle.Transitions

/-!
# Steps of operations and controls

What can happen to one record, whichever transaction it is part of. A business operation takes
a report, is closed or continued out of recovery, is put under inspection or is cancelled before
anyone executed it. A compute control is claimed, reported on, superseded, drained, or continued
and closed by observations.
-/

namespace Rcoder.Lifecycle

open ControlRecord Execution Recovery ControlState

inductive Act
  | advance (progress : OperationProgress)
  | recreate (lifecycleId : String)
  | control (progress : ControlProgress)
  | admission (operationId : String)
  | admitControl (operationId : String)
  | release (appId : String) (scope : OperationScope)
  | forget (operationId : String) (receipt : LeaseReceipt)
  | resume (snapshot : ControlRecord) (released : Option LeaseReceipt)
  | other

/-! ### Business operations -/

/-- What may be reported on a record that hops out of recovery. -/
def HopOutcome (operation : OperationRecord) : OperationState → Prop
  | .failed => True
  | .running => operation.kind = .prepareProdDatabase
  | .succeeded => operation.kind.supportsHotDeployment = true
  | _ => False

/-- The kinds whose password write may be resolved, and how each may end. -/
def PasswordOutcome (operation : OperationRecord) (state : OperationState) : Prop :=
  ((operation.kind = .resetDevDatabasePassword ∨ operation.kind = .resetProdDatabasePassword) ∧
      (state = .succeeded ∨ state = .failed)) ∨
    ((operation.kind = .startDeployment ∨ operation.kind = .restartDeployment) ∧ state = .failed)

open Domain Recovery in
inductive OperationStep (act : Act) (app : LifecycleRecord) (operation : OperationRecord) :
    OperationRecord → Prop
  | report {progress : OperationProgress} {app' : LifecycleRecord} {operation' : OperationRecord}
      (by_advance : act = .advance progress ∨ progress.state = .failed)
      (advanced : Advanced app operation progress app' operation') :
      OperationStep act app operation operation'
  | hop {progress : OperationProgress} {app' : LifecycleRecord} {operation' : OperationRecord}
      (recovering : isRecovering operation = true) (outcome : HopOutcome operation progress.state)
      (advanced : Advanced app (hop operation) progress app' operation') :
      OperationStep act app operation operation'
  | twice {progress last : OperationProgress} {app' : LifecycleRecord}
      {between operation' : OperationRecord} (recovering : isRecovering operation = true)
      (running : progress.state = .running) (same : last.checkpoint = progress.checkpoint)
      (outcome : PasswordOutcome operation last.state)
      (advanced : Advanced app (hop operation) progress app between)
      (closed : Advanced app between last app' operation') :
      OperationStep act app operation operation'
  | resume (recovering : isRecovering operation = true)
      (evidence : operation.hasDrainEvidence = true ∨
        operation.hasDeploymentUpdateReceipt = true) :
      OperationStep act app operation
        { operation with state := .running, revision := operation.revision + 1 }
  | inspect (code message : String) (live : operation.state = .running ∨
        operation.state = .waitingRetry ∨ operation.state = .recoveryRequired) :
      OperationStep act app operation
        { operation with
          state := .recoveryRequired
          revision := operation.revision + 1
          errorCode := some code
          errorMessage := some message }
  | observe (step : String) (checkpoint : Json) (kind : operation.kind = .ensureBuilder)
      (recovering : isRecovering operation = true) :
      OperationStep act app operation
        { operation with
          state := .recoveryRequired
          revision := operation.revision + 1
          step
          checkpoint }
  | cancel (control : ControlRecord) (pending : operation.state = .pending)
      (unclaimed : operation.executorId = none) (keeps : operation.kind.endsLifecycle = false) :
      OperationStep act app operation (Compute.cancelled control operation)

/-- The application once an operation has been taken to its next version. -/
def Follows (app : LifecycleRecord) (operation : OperationRecord) (state : OperationState)
    (app' : LifecycleRecord) : Prop :=
  if state.isTerminal then Domain.Closes app operation state app' else app' = app

section Follows

variable {app app' : LifecycleRecord} {operation : OperationRecord} {state : OperationState}

variable (h : Follows app operation state app')
include h

theorem Follows.same : SameIncarnation app app' := by
  unfold Follows at h
  split at h
  · exact h.same
  · rw [h]
    exact .refl app

theorem Follows.of_live
    (hs : state.isTerminal = false) : app' = app := by
  simpa [Follows, hs] using h

theorem Follows.of_terminal
    (hs : state.isTerminal = true) : Domain.Closes app operation state app' := by
  simpa [Follows, hs] using h

omit h

theorem follows_refl (hs : state.isTerminal = false) : Follows app operation state app := by
  simp [Follows, hs]

theorem Follows.congr {other : OperationRecord} (h : Follows app operation state app')
    (hkind : other.kind = operation.kind) (hscope : other.scope = operation.scope) :
    Follows app other state app' := by
  unfold Follows at h ⊢
  split at h
  · rw [if_pos ‹_›]
    refine ⟨h.same, ?_, ?_, fun hs => ?_⟩
    · rw [h.state, Domain.closedState, Domain.closedState, hkind]
    · rw [h.slots, hscope]
    · rw [h.unpublished hs, Domain.vacate, Domain.vacate, hkind, hscope]
  · rwa [if_neg ‹_›]

theorem Recovery.isRecovering_live (h : isRecovering operation = true) :
    operation.state = .running ∨ operation.state = .recoveryRequired := by
  simpa [isRecovering] using h

theorem Recovery.not_terminal (h : isRecovering operation = true) :
    operation.state.isTerminal = false := by
  obtain hs | hs := isRecovering_live h <;> rw [hs] <;> rfl

end Follows

namespace Domain.Advanced

variable {app app' : LifecycleRecord} {operation operation' : OperationRecord}
  {progress : OperationProgress}

theorem state (h : Advanced app operation progress app' operation') :
    operation'.state = progress.state := by
  rw [h.record]
  rfl

theorem follows (h : Advanced app operation progress app' operation') :
    Follows app operation operation'.state app' := by
  rw [h.state]
  exact h.application

theorem follows_of_hop (h : Advanced app (hop operation) progress app' operation') :
    Follows app operation operation'.state app' :=
  h.follows.congr rfl rfl

end Domain.Advanced

namespace OperationStep

variable {act : Act} {app : LifecycleRecord} {operation operation' : OperationRecord}

variable (h : OperationStep act app operation operation')
include h

theorem live : operation.state.isTerminal = false := by
  cases h with
  | report _ advanced => exact advanced.progress_running_or
  | hop recovering => exact not_terminal recovering
  | twice recovering => exact not_terminal recovering
  | resume recovering => exact not_terminal recovering
  | inspect _ _ hlive => obtain hs | hs | hs := hlive <;> rw [hs] <;> rfl
  | observe _ _ _ recovering => exact not_terminal recovering
  | cancel _ pending => rw [pending]; rfl

theorem merge : mergeProgress operation operation' = operation' := by
  cases h with
  | report _ advanced => exact advanced.merge
  | hop _ _ advanced => rw [advanced.record]; rfl
  | twice _ _ _ _ advanced closed => rw [closed.record, advanced.record]; rfl
  | resume | inspect | observe | cancel => rfl

theorem revision_lt : operation.revision < operation'.revision := by
  cases h with
  | report _ advanced =>
    rw [advanced.record]
    exact Int.lt_succ _
  | hop _ _ advanced =>
    rw [advanced.record]
    exact Int.lt_succ operation.revision
  | @twice _ _ _ between _ _ _ _ _ advanced closed =>
    have h₁ : between.revision = operation.revision + 1 := advanced.revision_eq
    have h₂ := closed.revision_eq
    omega
  | resume | inspect | observe | cancel => exact Int.lt_succ _

end OperationStep

/-! ### Compute controls -/

namespace Execution

/-- A report that the stage policy lets through, from the executor of a running control. -/
structure Reported (control : ControlRecord) (progress : ControlProgress) : Prop where
  running : control.state = .running
  executor : control.executorId = some progress.identity.executorId
  follows : validateProgressTransition control.action
    (ControlStage.fromStorageValue control.stage) progress.state progress.stage
    (DiagnosticValue.fromOption progress.errorCode)
    (DiagnosticValue.fromOption progress.errorMessage) control.lease.isSome = .ok ()
  leased : progress.stage ≠ .drainingPrevious → control.lease.isSome = true

end Execution

open Execution in
inductive ControlStep (act : Act) (control : ControlRecord) : ControlRecord → Prop
  | claim (executorId : String) (pending : control.state = .pending)
      (unclaimed : control.executorId = none) :
      ControlStep act control
        { control with
          executorId := some executorId
          state := .running
          revision := control.revision + 1
          stage := "draining_previous" }
  | bind (receipt : LeaseReceipt) (running : control.state = .running)
      (unbound : control.lease = none) :
      ControlStep act control
        { control with lease := some receipt, revision := control.revision + 1 }
  | report {progress : ControlProgress}
      (by_advance : act = .control progress ∨ progress.stage = .completed)
      (reported : Reported control progress) :
      ControlStep act control (Execution.progressed progress control)
  | forget {receipt : LeaseReceipt} (ended : control.state = .succeeded ∨ control.state = .failed)
      (leased : control.lease = some receipt)
      (by_forget : act = .forget control.operationId receipt) :
      ControlStep act control { control with lease := none, revision := control.revision + 1 }
  | acknowledge (checkpoint : Json) (superseded : control.state = .superseded)
      (claimed : control.executorId.isSome = true) :
      ControlStep act control
        { control with
          state := .failed
          stage := "superseded_drained"
          checkpoint
          errorCode := some "ERR_CANCELLED"
          errorMessage := some "Superseded executor confirmed drained"
          revision := control.revision + 1 }
  | recommit (recovering : isRecovering control = true) (leased : control.lease.isSome = true)
      (confirmed : isConfirmed control = true) :
      ControlStep act control { control with state := .running, revision := control.revision + 1 }
  | observe (checkpoint : Json) (recovering : isRecovering control = true)
      (leased : control.lease.isSome = true)
      (stage : control.stage = (observedStages control.action).1) :
      ControlStep act control
        { control with
          state := .running
          stage := (observedStages control.action).2
          revision := control.revision + 1
          checkpoint }
  | confirmStopped (checkpoint : Json) (state : ControlState)
      (kept : state = control.state ∨ state = .failed) (recovering : isRecovering control = true)
      (leased : control.lease.isSome = true) (restart : control.action = .restart)
      (stage : control.stage = "stopping") :
      ControlStep act control
        { control with state, stage := "stopped", checkpoint, revision := control.revision + 1 }
  | continueStart (checkpoint : Json) (recovering : isRecovering control = true)
      (leased : control.lease.isSome = true) (restart : control.action = .restart)
      (stage : control.stage = "stopped" ∨ control.stage = "starting") :
      ControlStep act control
        { control with
          state := .running
          stage := "starting"
          checkpoint
          errorCode := none
          errorMessage := none
          revision := control.revision + 1 }
  | annotate (checkpoint : Json)
      (settled : isRecovering control = true ∨ control.state = .succeeded) :
      ControlStep act control { control with checkpoint, revision := control.revision + 1 }
  | reserve (code message : String) (early : control.canRecoverComputeDrain = true) :
      ControlStep act control
        { control with
          state := .recoveryRequired
          errorCode := some code
          errorMessage := some message
          revision := control.revision + 1 }
  | capture (receipt : LeaseReceipt) (early : control.canRecoverComputeDrain = true)
      (unbound : control.lease = none) :
      ControlStep act control
        { control with lease := some receipt, revision := control.revision + 1 }
  | resume (early : control.canRecoverComputeDrain = true)
      (reserved : control.state = .recoveryRequired)
      (by_resume : act = .resume control control.lease) :
      ControlStep act control
        { control with
          state := .pending
          executorId := none
          lease := none
          stage := "accepted"
          errorCode := none
          errorMessage := none
          revision := control.revision + 1 }
  | fail (code message : String) (recovering : isRecovering control = true) :
      ControlStep act control (Execution.failed code message control)

structure SameControl (control control' : ControlRecord) : Prop where
  appId : control'.appId = control.appId
  lifecycleId : control'.lifecycleId = control.lifecycleId
  scope : control'.scope = control.scope
  operationId : control'.operationId = control.operationId
  generation : control'.generation = control.generation
  action : control'.action = control.action
  interrupted : control'.interruptedOperations = control.interruptedOperations

theorem SameControl.refl (control : ControlRecord) : SameControl control control :=
  ⟨rfl, rfl, rfl, rfl, rfl, rfl, rfl⟩

theorem SameControl.trans {a b c : ControlRecord} (h : SameControl a b) (h' : SameControl b c) :
    SameControl a c :=
  ⟨h'.appId.trans h.appId, h'.lifecycleId.trans h.lifecycleId, h'.scope.trans h.scope,
    h'.operationId.trans h.operationId, h'.generation.trans h.generation,
    h'.action.trans h.action, h'.interrupted.trans h.interrupted⟩

theorem SameControl.supersede (control : ControlRecord) :
    SameControl control (Compute.supersede control) :=
  ⟨rfl, rfl, rfl, rfl, rfl, rfl, rfl⟩

variable {control : ControlRecord}

theorem Execution.isRecovering_iff :
    isRecovering control = true ↔
      control.state = .running ∨ control.state = .recoveryRequired := by
  simp [isRecovering]

theorem Execution.open_of_recovering
    (h : isRecovering control = true) :
    control.state ≠ .pending ∧ control.state ≠ .succeeded ∧ control.state ≠ .superseded := by
  obtain h | h := isRecovering_iff.mp h <;> simp [h]

theorem ControlRecord.recovering_of_drain
    (h : control.canRecoverComputeDrain = true) : isRecovering control = true := by
  simp only [canRecoverComputeDrain, Bool.and_eq_true] at h
  exact h.1

theorem Execution.live_of_recovering
    (h : isRecovering control = true) : control.isLive = true := by
  obtain h | h := isRecovering_iff.mp h <;>
    simp [isLive, h, isTerminal]

namespace ControlStep

variable {act : Act} {control control' : ControlRecord}

variable (h : ControlStep act control control')
include h

theorem same : SameControl control control' := by
  cases h <;> exact ⟨rfl, rfl, rfl, rfl, rfl, rfl, rfl⟩

theorem not_superseded : control'.state ≠ .superseded := by
  cases h with
  | claim | acknowledge | recommit | observe | continueStart | reserve | resume | fail => nofun
  | @report progress _ reported =>
    obtain ⟨hp, -⟩ := Check.failIf_bind reported.follows
    intro hs
    have hs : progress.state = .superseded := hs
    exact hp (by rw [hs]; rfl)
  | bind receipt running =>
    simp [running]
  | forget ended =>
    obtain h | h := ended <;> simp [h]
  | confirmStopped _ state kept recovering =>
    obtain rfl | rfl := kept
    · exact (open_of_recovering recovering).2.2
    · nofun
  | annotate _ settled =>
    obtain h | h := settled
    · exact (open_of_recovering h).2.2
    · simp [h]
  | capture receipt early =>
    exact (open_of_recovering (recovering_of_drain early)).2.2

theorem live_of_live (hl : control'.isLive = true) : control.isLive = true := by
  have hrec : isRecovering control = true → control.isLive = true :=
    live_of_recovering
  cases h with
  | claim _ pending => simp [isLive, pending, isTerminal]
  | bind _ running => simp [isLive, running, isTerminal]
  | report _ reported =>
    simp [isLive, reported.running, isTerminal]
  | forget | annotate => exact hl
  | acknowledge => simp [isLive, isTerminal] at hl
  | recommit recovering => exact hrec recovering
  | observe _ recovering => exact hrec recovering
  | confirmStopped _ _ _ recovering => exact hrec recovering
  | continueStart _ recovering => exact hrec recovering
  | reserve _ _ early => exact hrec (recovering_of_drain early)
  | capture _ early => exact hrec (recovering_of_drain early)
  | resume early => exact hrec (recovering_of_drain early)
  | fail _ _ recovering => exact hrec recovering

end ControlStep

end Rcoder.Lifecycle
