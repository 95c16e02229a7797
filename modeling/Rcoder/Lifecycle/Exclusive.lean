import Rcoder.Lifecycle.Journal

/-!
# One executor at a time

Reports on an operation are accepted from the executor that claimed it last. Recovery may put the
record back to running, settle it or cut it off, but it never hands it to another executor, and
every version has a revision of its own.
-/

namespace Rcoder.Lifecycle

open Effect Ledger

variable {act : Act} {L L' : Ledger}

/-! ### One step -/

variable {app app' : LifecycleRecord} {operation operation' : OperationRecord}
  {progress : OperationProgress} {id : String}

section

variable (h : Domain.Advanced app operation progress app' operation')
include h

theorem Domain.Advanced.executorId_eq : operation'.executorId = some progress.executorId := by
  rw [h.record]
  rfl

theorem Domain.Advanced.executor_kept
    (hclaims : progress.state ≠ .running ∨ operation.state = .running) :
    operation'.executorId = operation.executorId := by
  rw [h.executorId_eq]
  obtain ⟨hfree, hrunning⟩ | ⟨-, hexecutor⟩ := h.claim
  · obtain hne | hstate := hclaims
    · exact absurd hrunning hne
    · obtain hs | hs := hfree <;> rw [hs] at hstate <;> cases hstate
  · exact hexecutor.symm

end

theorem OperationStep.executor_kept (h : OperationStep act app operation operation')
    (hact : ∀ progress, act ≠ .advance progress) :
    operation'.executorId = operation.executorId := by
  cases h with
  | @report progress _ _ by_advance advanced =>
    obtain hadv | hfailed := by_advance
    · exact absurd hadv (hact progress)
    · exact advanced.executor_kept (.inl (by rw [hfailed]; nofun))
  | hop _ _ advanced => exact advanced.executor_kept (.inr rfl)
  | @twice progress last _ between _ _ running _ _ advanced closed =>
    have hbetween : between.state = .running := by rw [advanced.state, running]
    exact (closed.executor_kept (.inr hbetween)).trans (advanced.executor_kept (.inr rfl))
  | resume | inspect | observe | cancel => rfl

structure Unreported (operation operation' : OperationRecord) : Prop where
  version : operation' = operation ∨
    (operation.revision < operation'.revision ∧ operation.state.isTerminal = false)
  executor : operation'.executorId = operation.executorId

theorem Unreported.step {first : OperationRecord}
    (h : Unreported first operation) (step : OperationStep act app operation operation')
    (hact : ∀ progress, act ≠ .advance progress) : Unreported first operation' := by
  have hlt := step.revision_lt
  refine ⟨.inr ?_, (step.executor_kept hact).trans h.executor⟩
  obtain rfl | ⟨hfirst, hlive⟩ := h.version
  · exact ⟨hlt, step.live⟩
  · exact ⟨hfirst.trans hlt, hlive⟩

/-- What a transaction without a report leaves of an operation, old or new. -/
theorem Ledger.Moves.unreported (hm : Moves act L L') (hact : ∀ progress, act ≠ .advance progress)
    (id : String) :
    (∀ operation, L.operation id = some operation → ∃ operation',
        L'.operation id = some operation' ∧ Unreported operation operation') ∧
      (L.operation id = none → ∀ operation', L'.operation id = some operation' →
        operation'.executorId = none) := by
  refine hm.keeps (P := fun M => (∀ operation, L.operation id = some operation →
    ∃ operation', M.operation id = some operation' ∧ Unreported operation operation') ∧
      (L.operation id = none → ∀ operation', M.operation id = some operation' →
        operation'.executorId = none)) ⟨?_, ?_⟩ fun M M' hmove hM => ?_
  · intro operation ho
    exact ⟨operation, ho, .inl rfl, rfl⟩
  · intro hnone operation' ho
    rw [hnone] at ho
    cases ho
  · obtain ⟨hold, hnew⟩ := hM
    refine ⟨fun operation ho => ?_, fun hnone operation' ho => ?_⟩
    · obtain ⟨operation', ho', hunreported⟩ := hold operation ho
      obtain hkept | ⟨app, after, ha, step⟩ := hmove.operation_next ho'
      · exact ⟨operation', hkept, hunreported⟩
      · exact ⟨after, ha, hunreported.step step hact⟩
    · obtain ho | ⟨-, start⟩ | ⟨app, before, hb, step⟩ := hmove.operation_found ho
      · exact hnew hnone operation' ho
      · exact start.unclaimed
      · rw [step.executor_kept hact]
        exact hnew hnone before hb

inductive OperationOutcome (s : Store) (op : Op) (id : String) : Prop
  | reported {progress : OperationProgress} {app app' : LifecycleRecord}
      {before after : OperationRecord} (reports : op.progress = some progress)
      (target : progress.operationId = id)
      (committed : acceptedOne id (op, (store.exec s op).1) = some progress)
      (stored : s.ledger.operation id = some before)
      (written : (store.exec s op).2.ledger.operation id = some after)
      (advanced : Domain.Advanced app before progress app' after)
  | unreported (silent : acceptedOne id (op, (store.exec s op).1) = none)
      (old : ∀ before, s.ledger.operation id = some before → ∃ after,
        (store.exec s op).2.ledger.operation id = some after ∧ Unreported before after)
      (new : s.ledger.operation id = none → ∀ after,
        (store.exec s op).2.ledger.operation id = some after → after.executorId = none)

theorem store_operation (s : Store) (op : Op) (id : String) : OperationOutcome s op id := by
  obtain ⟨progress, operation, hp, haccepted, ⟨hadv⟩⟩ | ⟨hnone, act, hact, hmoves⟩ :=
    store_reports s op
  · have hrows : (store.exec s op).2.ledger.operation =
        (s.ledger.setOperation operation).operation := by
      rw [hadv.written]
      rfl
    have hid : operation.operationId = progress.operationId :=
      (mergeProgress_same hadv.advanced.merge).1.trans hadv.operationId
    by_cases hself : progress.operationId = id
    · subst hself
      refine .reported hp rfl (by rw [haccepted, if_pos rfl]) ?_ ?_ hadv.advanced
      · rw [← hadv.operationId]
        exact hadv.inSlot.stored
      · rw [hrows, ← hid]
        exact operation_setOperation_self ..
    · have hkept : (store.exec s op).2.ledger.operation id = s.ledger.operation id := by
        rw [hrows]
        exact Function.update_of_ne (fun heq => hself (hid.symm.trans heq.symm)) ..
      refine .unreported (by rw [haccepted, if_neg hself]) ?_ ?_
      · intro before hb
        exact ⟨before, hkept.trans hb, .inl rfl, rfl⟩
      · intro hmissing after ha
        rw [hkept, hmissing] at ha
        cases ha
  · obtain ⟨hold, hnew⟩ := hmoves.unreported hact id
    exact .unreported (hnone id) hold hnew

/-! ### Whole runs -/

/-- The record is free: whoever reports on it as running claims it. -/
def OperationRecord.isFree (operation : OperationRecord) : Prop :=
  operation.state = .pending ∨ operation.state = .waitingRetry

/-- The executor `e` claimed the operation, and every report committed since was its own. -/
def HeldSince (ok : Store → Op → Prop) (tr : List (Op × Except StoreError Answer)) (id e : String) :
    Prop :=
  ∃ tr₁ tr₂ u op answer claim record, tr = tr₁ ++ (op, .ok answer) :: tr₂ ∧
    store.Run ok {} tr₁ u ∧ u.ledger.operation id = some record ∧ record.isFree ∧
    op.progress = some claim ∧ claim.operationId = id ∧ claim.state = .running ∧
    claim.executorId = e ∧ ∀ report ∈ accepted id tr₂, report.executorId = e

variable {ok : Store → Op → Prop} {tr : List (Op × Except StoreError Answer)} {s : Store}
  {e : String}

theorem HeldSince.snoc {step : Op × Except StoreError Answer} (h : HeldSince ok tr id e)
    (hstep : ∀ report, acceptedOne id step = some report → report.executorId = e) :
    HeldSince ok (tr ++ [step]) id e := by
  obtain ⟨tr₁, tr₂, u, op, answer, claim, record, rfl, hrun, hrecord, hfree, hp, hid, hstate,
    hexecutor, hall⟩ := h
  refine ⟨tr₁, tr₂ ++ [step], u, op, answer, claim, record, by simp, hrun, hrecord, hfree, hp, hid,
    hstate, hexecutor, fun report hreport => ?_⟩
  rw [accepted_snoc] at hreport
  obtain hreport | hreport := List.mem_append.mp hreport
  · exact hall report hreport
  · exact hstep report (by simpa using hreport)

theorem acceptedOne_ok {op : Op} {answer : Except StoreError Answer}
    (h : acceptedOne id (op, answer) = some progress) :
    ∃ a, answer = .ok a := by
  cases answer with
  | ok a => exact ⟨a, rfl⟩
  | error => cases h

/-- Whoever is recorded as the executor of an operation holds it since its last claim. -/
theorem Run.heldSince (hr : store.Run ok {} tr s) (ho : s.ledger.operation id = some operation)
    (he : operation.executorId = some e) : HeldSince ok tr id e := by
  have hall : store.Run ok {} tr s ∧ ∀ operation, s.ledger.operation id = some operation →
      operation.executorId = some e → HeldSince ok tr id e := by
    refine hr.trace_invariant (I := fun tr s => store.Run ok {} tr s ∧
      ∀ operation, s.ledger.operation id = some operation → operation.executorId = some e →
        HeldSince ok tr id e) ⟨.nil, ?_⟩ fun tr s op hok h => ⟨.snoc h.1 hok, ?_⟩
    · intro operation ho
      cases ho
    · intro operation ho he
      cases store_operation s op id with
      | @reported progress app app' before after reports target committed stored written advanced =>
        cases written.symm.trans ho
        obtain ⟨answer, hanswer⟩ := acceptedOne_ok committed
        have hexecutor : progress.executorId = e :=
          Option.mem_unique advanced.executorId_eq he
        obtain ⟨hfree, hrunning⟩ | ⟨-, hheld⟩ := advanced.claim
        · exact ⟨tr, [], s, op, answer, progress, before, by rw [hanswer], h.1, stored, hfree,
            reports, target, hrunning, hexecutor, fun report hreport => by cases hreport⟩
        · refine (h.2 before stored (hheld.trans (congrArg some hexecutor))).snoc ?_
          intro report hreport
          cases committed.symm.trans hreport
          exact hexecutor
      | unreported silent old new =>
        cases hb : s.ledger.operation id with
        | none =>
          rw [new hb operation ho] at he
          cases he
        | some before =>
          obtain ⟨after, ha, hunreported⟩ := old before hb
          cases ha.symm.trans ho
          rw [hunreported.executor] at he
          refine (h.2 before hb he).snoc fun report hreport => ?_
          rw [silent] at hreport
          cases hreport
  exact hall.2 operation ho he

/-- What the store guarantees to the executors of its operations. -/
structure ExclusiveExecution (ok : Store → Op → Prop) (tr : List (Op × Except StoreError Answer))
    (s : Store) : Prop where
  revisions : ∀ id, (versions OperationRecord.operationId s.history.operations id).Pairwise
    fun earlier later => earlier.revision < later.revision
  change : ∀ op id before, s.ledger.operation id = some before → ∃ after,
    (store.exec s op).2.ledger.operation id = some after ∧
      (after = before ∨ (before.revision < after.revision ∧ before.state.isTerminal = false)) ∧
      (after.executorId ≠ before.executorId → ∃ progress, op.progress = some progress ∧
        progress.operationId = id ∧ progress.state = .running ∧ before.isFree ∧
        after.executorId = some progress.executorId)
  ended : ∀ tr' t, store.Run ok s tr' t → ∀ id record, s.ledger.operation id = some record →
    record.state.isTerminal = true → t.ledger.operation id = some record
  fenced : ∀ op progress answer, op.progress = some progress →
    (store.exec s op).1 = .ok answer →
    ∃ before, s.ledger.operation progress.operationId = some before ∧
      before.revision = progress.expectedRevision ∧
      ((before.isFree ∧ progress.state = .running) ∨
        (before.executorId = some progress.executorId ∧
          HeldSince ok tr progress.operationId progress.executorId))

/-- A report or a step without one leaves a later version, and nothing of an ended record. -/
theorem OperationOutcome.version {op : Op} {before : OperationRecord}
    (h : OperationOutcome s op id) (hb : s.ledger.operation id = some before) :
    ∃ after, (store.exec s op).2.ledger.operation id = some after ∧
      (after = before ∨ (before.revision < after.revision ∧ before.state.isTerminal = false)) := by
  cases h with
  | @reported progress app app' found after reports target committed stored written advanced =>
    cases hb.symm.trans stored
    refine ⟨after, written, .inr ⟨?_, advanced.progress_running_or⟩⟩
    rw [advanced.revision_eq]
    exact Int.lt_succ _
  | unreported silent old =>
    obtain ⟨after, ha, hunreported⟩ := old before hb
    exact ⟨after, ha, hunreported.version⟩

theorem exclusive_execution (hr : store.Run ok {} tr s) : ExclusiveExecution ok tr s := by
  refine ⟨fun id => ?_, fun op id before hb => ?_, fun tr' t later id record ho hends => ?_,
    fun op progress answer hp hexec => ?_⟩
  · cases ho : s.ledger.operation id with
    | none =>
      have hempty : versions OperationRecord.operationId s.history.operations id = [] :=
        (Run.operationsLogged hr).versions_of_none ho
      rw [hempty]
      exact .nil
    | some =>
      refine ((Run.operationsLogged hr).versions_of_some ho).pairwise ?_ fun _ _ _ => Int.lt_trans
      rintro a b ⟨act, app, step⟩
      exact step.revision_lt
  · obtain ⟨after, ha, hversion⟩ := (store_operation s op id).version hb
    refine ⟨after, ha, hversion, fun hne => ?_⟩
    cases store_operation s op id with
    | @reported progress app app' found written reports target _ stored hwritten advanced =>
      cases hb.symm.trans stored
      cases ha.symm.trans hwritten
      obtain ⟨hfree, hrunning⟩ | ⟨-, hheld⟩ := advanced.claim
      · exact ⟨progress, reports, target, hrunning, hfree, advanced.executorId_eq⟩
      · exact absurd (advanced.executorId_eq.trans hheld.symm) hne
    | unreported _ old =>
      obtain ⟨found, hf, hunreported⟩ := old before hb
      cases ha.symm.trans hf
      exact absurd hunreported.executor hne
  · refine later.invariant (I := fun t => t.ledger.operation id = some record) ho ?_
    intro t op _ ht
    obtain ⟨after, ha, rfl | ⟨-, hlive⟩⟩ := (store_operation t op id).version ht
    · exact ha
    · rw [hends] at hlive
      cases hlive
  · cases store_operation s op progress.operationId with
    | @reported found app app' before after reports target committed stored written advanced =>
      cases hp.symm.trans reports
      refine ⟨before, stored, advanced.revision, ?_⟩
      obtain ⟨hfree, hrunning⟩ | ⟨-, hheld⟩ := advanced.claim
      · exact .inl ⟨hfree, hrunning⟩
      · exact .inr ⟨hheld, Run.heldSince hr stored hheld⟩
    | unreported silent =>
      rw [hexec] at silent
      simp [acceptedOne, hp] at silent

/-- A restart waits for a retry and is claimed again, by another executor. -/
def reclaimedRestart : List Op :=
  [.admitWithConfiguration (Sample.admission "work" .restart) none none Sample.fresh,
    .advance (Sample.progress "work" 1 .running "restarting" .null),
    .advance (Sample.progress "work" 2 .waitingRetry "restarting" .null),
    .advance { Sample.progress "work" 3 .running "restarting" .null with executorId := "second" }]

theorem exclusive_execution_reclaimed :
    ExclusiveExecution (fun _ _ => True) (store.trace {} reclaimedRestart)
        (store.after {} reclaimedRestart) ∧
      ((store.after {} reclaimedRestart).ledger.operation "work").any
        (fun operation => operation.executorId = some "second" ∧ operation.revision = 4) = true ∧
      (store.exec (store.after {} reclaimedRestart)
        (.advance (Sample.progress "work" 4 .succeeded "restarted" .null))).1.isOk = false :=
  ⟨exclusive_execution (.of_follows (Machine.follows_of_forall fun _ _ _ => trivial)),
    by decide +kernel, by decide +kernel⟩

end Rcoder.Lifecycle
