import Rcoder.Lifecycle.Stages

/-!
# The lease receipts of controls

A control that holds the physical mutex of its scope keeps the receipt in its row. About fifteen
updates write that row. None of them overwrites a receipt, and only two remove one: the executor
forgets it once its control has ended, or the recovery of an early drain gives it back. Both name
the receipt they expect to find.
-/

namespace Rcoder.Lifecycle

open Effect Ledger

variable {act : Act} {L L' : Ledger}

/-- The transaction takes a receipt from a control. -/
def Act.TakesReceipt (act : Act) : Prop :=
  (∃ operationId receipt, act = .forget operationId receipt) ∨
    ∃ snapshot released, act = .resume snapshot released

variable {control control' : ControlRecord} {receipt : LeaseReceipt}

theorem ControlStep.lease_kept (h : ControlStep act control control')
    (hact : ¬act.TakesReceipt) (hlease : control.lease = some receipt) :
    control'.lease = some receipt := by
  cases h with
  | bind _ _ unbound =>
    rw [unbound] at hlease
    cases hlease
  | capture _ _ unbound =>
    rw [unbound] at hlease
    cases hlease
  | forget _ _ by_forget => exact absurd (.inl ⟨_, _, by_forget⟩) hact
  | resume _ _ by_resume => exact absurd (.inr ⟨_, _, by_resume⟩) hact
  | claim | report | acknowledge | recommit | observe | confirmStopped | continueStart | annotate
  | reserve | fail => exact hlease

def Ledger.Receipted (L : Ledger) (id : String) (receipt : LeaseReceipt) : Prop :=
  ∃ control, L.control id = some control ∧ control.lease = some receipt

variable {id : String}

theorem Ledger.Receipted.move (h : L.Receipted id receipt)
    (hm : Move act L L') (hact : ¬act.TakesReceipt) : L'.Receipted id receipt := by
  obtain ⟨control, hc, hlease⟩ := h
  obtain ⟨control', hc', rfl | hstep | ⟨-, rfl⟩⟩ := hm.control_next hc
  · exact ⟨control', hc', hlease⟩
  · exact ⟨control', hc', hstep.lease_kept hact hlease⟩
  · exact ⟨_, hc', hlease⟩

theorem Ledger.Receipted.setControl
    (h : L.Receipted id receipt) (hne : id ≠ control.operationId) :
    (L.setControl control).Receipted id receipt := by
  obtain ⟨found, hf, hlease⟩ := h
  exact ⟨found, control_setControl.mpr (.inr ⟨hne, hf⟩), hlease⟩

/-- The transaction may take the receipt from the control, and says which one it expects. -/
inductive Op.Removes : Op → ControlRecord → LeaseReceipt → Prop
  | forget {identity : ExecutorIdentity} {control : ControlRecord} {receipt : LeaseReceipt}
      (named : identity.operationId = control.operationId)
      (ended : control.state = .succeeded ∨ control.state = .failed) :
      Op.Removes (.forgetLease identity receipt) control receipt
  | resume {control : ControlRecord} {receipt : LeaseReceipt}
      (early : control.canRecoverComputeDrain = true)
      (reserved : control.state = .recoveryRequired) :
      Op.Removes (.resumeDrain control (some receipt)) control receipt

def Store.KeepsReceipt (s : Store) (op : Op) (id : String) (receipt : LeaseReceipt) : Prop :=
  ∃ control', (store.exec s op).2.ledger.control id = some control' ∧
    (control'.lease = some receipt ∨
      (control'.lease = none ∧
        ∃ control, s.ledger.control id = some control ∧ op.Removes control receipt))

variable {op : Op}

theorem Ledger.Receipted.keeps {s : Store}
    (h : (store.exec s op).2.ledger.Receipted id receipt) : s.KeepsReceipt op id receipt := by
  obtain ⟨control', hc', hlease⟩ := h
  exact ⟨control', hc', .inl hlease⟩

variable {s : Store} {id : String} {receipt : LeaseReceipt}

section

variable (h : s.ledger.Receipted id receipt)
include h

theorem Ledger.Receipted.failed {e : StoreError} (hanswer : (store.exec s op).1 = .error e) :
    s.KeepsReceipt op id receipt := by
  refine Receipted.keeps ?_
  rw [store_failed hanswer]
  exact h

/-- The transaction has rewritten one control, and may have taken its receipt. -/
theorem Ledger.Receipted.rewritten (hstored : s.ledger.control control.operationId = some control)
    (heq : (store.exec s op).2.ledger = s.ledger.setControl control')
    (hid : control'.operationId = control.operationId) (hlease : control'.lease = none)
    (hremoves : control.lease = some receipt → op.Removes control receipt) :
    s.KeepsReceipt op id receipt := by
  by_cases hsame : id = control.operationId
  · subst hsame
    obtain ⟨found, hf, hreceipt⟩ := h
    cases hstored.symm.trans hf
    refine ⟨control', ?_, .inr ⟨hlease, control, hstored, hremoves hreceipt⟩⟩
    rw [heq, ← hid]
    exact control_setControl_self ..
  · refine Receipted.keeps ?_
    rw [heq]
    exact h.setControl (by rw [hid]; exact hsame)

theorem store_forgetLease {identity : ExecutorIdentity} {named : LeaseReceipt} :
    s.KeepsReceipt (.forgetLease identity named) id receipt := by
  cases hanswer : (store.exec s (.forgetLease identity named)).1 with
  | error => exact h.failed hanswer
  | ok =>
    obtain ⟨_, _, heq | ⟨control, hstored, hid, hended, hlease, heq⟩⟩ :=
      store_answered hanswer (gives_respond (Execution.gives_forgetLease identity named))
    · refine Receipted.keeps ?_
      rw [heq]
      exact h
    · refine h.rewritten hstored heq rfl rfl fun hreceipt => ?_
      cases hlease.symm.trans hreceipt
      exact .forget hid.symm hended

theorem store_resumeDrain {snapshot : ControlRecord} {released : Option LeaseReceipt} :
    s.KeepsReceipt (.resumeDrain snapshot released) id receipt := by
  cases hanswer : (store.exec s (.resumeDrain snapshot released)).1 with
  | error => exact h.failed hanswer
  | ok =>
    obtain ⟨_, _, hstored, hearly, hstate, hlease, heq⟩ :=
      store_answered hanswer (gives_respond (Execution.gives_resumeDrain snapshot released))
    refine h.rewritten hstored heq rfl rfl fun hreceipt => ?_
    rw [hreceipt] at hlease
    subst hlease
    exact .resume hearly hstate

end

theorem Op.takes_of_act (h : op.act.TakesReceipt) :
    (∃ identity receipt, op = .forgetLease identity receipt) ∨
      ∃ snapshot released, op = .resumeDrain snapshot released := by
  cases op with
  | forgetLease identity receipt => exact .inl ⟨identity, receipt, rfl⟩
  | resumeDrain snapshot released => exact .inr ⟨snapshot, released, rfl⟩
  | _ => obtain ⟨_, _, h⟩ | ⟨_, _, h⟩ := h <;> cases h

/-- No transaction replaces a receipt, and it is removed only where it is named. -/
theorem store_keepsReceipt (op : Op) (h : s.ledger.Receipted id receipt) :
    s.KeepsReceipt op id receipt := by
  by_cases hact : op.act.TakesReceipt
  · obtain ⟨identity, named, rfl⟩ | ⟨snapshot, released, rfl⟩ := Op.takes_of_act hact
    · exact store_forgetLease h
    · exact store_resumeDrain h
  · have hkept : (store.exec s op).2.ledger.Receipted id receipt :=
      (store_moves s op).keeps (P := fun M => M.Receipted id receipt) h
        fun _ _ hm hM => hM.move hm hact
    exact hkept.keeps

/-- What holds of the receipts in a store. -/
structure ReceiptsConserved (s : Store) : Prop where
  kept : ∀ op id control receipt, s.ledger.control id = some control →
    control.lease = some receipt →
    ∃ control', (store.exec s op).2.ledger.control id = some control' ∧
      (control'.lease = some receipt ∨ (control'.lease = none ∧ op.Removes control receipt))
  running : ∀ id control, s.ledger.control id = some control → control.state = .running →
    control.stage ≠ "draining_previous" → control.lease.isSome = true

theorem receipts_conserved {ok : Store → Op → Prop} {tr : List (Op × Except StoreError Answer)}
    (hr : store.Run ok {} tr s) : ReceiptsConserved s := by
  refine ⟨fun op id control receipt hc hlease => ?_, fun id control hc hrunning hstage => ?_⟩
  · obtain ⟨control', hc', hkept | ⟨hnone, found, hf, hremoves⟩⟩ :=
      store_keepsReceipt op ⟨control, hc, hlease⟩
    · exact ⟨control', hc', .inl hkept⟩
    · cases hc.symm.trans hf
      exact ⟨control', hc', .inr ⟨hnone, hremoves⟩⟩
  · have hversions := (Run.controlsLogged hr).versions_of_some hc
    have hlive := Execution.isRecovering_iff.mpr (.inl hrunning)
    obtain ⟨-, -, path, -, -, hpath⟩ := (stageHistory_of_versions hversions).live hlive
    exact hpath.leased control hpath.current hstage

/-- The stop that went through all its stages gives its receipt back. -/
theorem receipts_conserved_completedStop :
    ReceiptsConserved (store.after {} completedStop) ∧
      ((store.after {} completedStop).ledger.control "stop").map ControlRecord.lease =
        some (some (.docker .userapp 1 1 "token")) ∧
      ((store.exec (store.after {} completedStop)
        (.forgetLease (Sample.executor "stop" 1) (.docker .userapp 1 1 "token"))).2.ledger.control
          "stop").map ControlRecord.lease = some none :=
  ⟨receipts_conserved (.of_follows (Machine.follows_of_forall fun _ _ _ => trivial)),
    by decide +kernel, by decide +kernel⟩

end Rcoder.Lifecycle
