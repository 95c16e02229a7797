import Rcoder.Lifecycle.AdmissionMoves

/-!
# Moves of business recovery

The transactions that continue or close an operation on evidence found by somebody else. All of
them come down to a few steps: closing after the hop, reporting twice, resuming, inspecting and
observing.
-/

namespace Rcoder.Lifecycle

open Effect Ledger Check

variable {db : Store} {act : Act}

/-! ### What the evidence of an operation says about its kind -/

variable {operation : OperationRecord}

theorem DatabasePasswordEvidence.kind_of_validateOperation {evidence : DatabasePasswordEvidence}
    (h : evidence.validateOperation operation = .ok ()) :
    operation.kind = .resetDevDatabasePassword ∨ operation.kind = .resetProdDatabasePassword := by
  obtain ⟨_, -, h⟩ := bind_eq_ok.mp h
  obtain ⟨-, h⟩ := failIf_bind h
  obtain ⟨-, h⟩ := failIf_bind h
  unfold validateCommand at h
  split at h
  · rename_i production username _
    obtain ⟨_, -, h⟩ := bind_eq_ok.mp h
    obtain ⟨hkind, -⟩ := failIf_bind h
    rw [not_not.mp (not_or.mp hkind).2]
    cases production with
    | false => exact .inl rfl
    | true => exact .inr rfl
  · cases h

theorem ExplicitDeploymentPasswordEvidence.kind_of_validateOperation
    {evidence : ExplicitDeploymentPasswordEvidence}
    (h : evidence.validateOperation operation = .ok ()) :
    operation.kind = .startDeployment ∨ operation.kind = .restartDeployment := by
  obtain ⟨_, -, h⟩ := bind_eq_ok.mp h
  obtain ⟨-, h⟩ := failIf_bind h
  obtain ⟨-, h⟩ := failIf_bind h
  obtain ⟨_, -, h⟩ := bind_eq_ok.mp h
  split at h
  · obtain ⟨hdeploy, -⟩ := failIf_bind h
    simp only [isDeployment, Bool.not_eq_false, Bool.and_eq_true, Bool.or_eq_true,
      decide_eq_true_eq] at hdeploy
    exact hdeploy.1.1
  · cases h

theorem DatabasePreparationEvidence.kind_of_validateOperation
    {evidence : DatabasePreparationEvidence} (h : evidence.validateOperation operation = .ok ()) :
    operation.kind = .prepareProdDatabase := by
  obtain ⟨_, -, h⟩ := bind_eq_ok.mp h
  obtain ⟨hkind, -⟩ := failIf_bind h
  exact (not_not.mp hkind).1

theorem BuilderCreationEvidence.kind_of_validateOperation {evidence : BuilderCreationEvidence}
    (h : evidence.validateOperation operation = .ok ()) : operation.kind = .ensureBuilder := by
  obtain ⟨_, -, h⟩ := bind_eq_ok.mp h
  obtain ⟨hkind, -⟩ := failIf_bind h
  exact (not_not.mp hkind).2.1

namespace Recovery

/-! ### Steps shared by the transactions -/

variable (snapshot : OperationRecord)

theorem gives_currentSnapshot (eligible : Bool) :
    Gives (currentSnapshot snapshot eligible) db fun found db' =>
      db'.ledger = db.ledger ∧ db.ledger.InSlot found.1 snapshot ∧ found.2 = snapshot ∧
        eligible = true ∧ snapshot.lifecycleId = found.1.lifecycleId := by
  refine (gives_currentOperation _ _ _).bind fun found db₁ h₁ => ?_
  obtain ⟨heq, hin, -, -, hlife, -⟩ := h₁
  refine .failIf_bind fun hsame => .pure ?_
  obtain ⟨hsame, heligible⟩ := not_or.mp hsame
  obtain rfl := not_not.mp hsame
  exact ⟨heq, hin, rfl, by simpa using heligible, hlife.symm⟩

/-- A transaction that begins with the record as the caller has seen it. -/
theorem performs_current {snapshot : OperationRecord} {eligible : Bool}
    {f : LifecycleRecord × OperationRecord → Tx OperationRecord}
    (hf : ∀ app db, eligible = true → snapshot.lifecycleId = app.lifecycleId →
      db.ledger.InSlot app snapshot →
      Gives (f (app, snapshot)) db fun _ db' => Moves act db.ledger db'.ledger) :
    Performs act (currentSnapshot snapshot eligible >>= f) := by
  intro db
  refine (gives_currentSnapshot snapshot eligible).bind fun found db₁ h₁ => ?_
  obtain ⟨app, operation⟩ := found
  obtain ⟨heq, hin, rfl, heligible, hlife⟩ := h₁
  rw [← heq] at hin ⊢
  exact hf app db₁ heligible hlife hin

variable {operation : OperationRecord} {app : LifecycleRecord} {progress : OperationProgress}

theorem recovering_of_required
    (h : operation.state = .recoveryRequired) : isRecovering operation = true := by
  simp [isRecovering, h]

theorem recovering_of_receipt
    (h : operation.builderCreationNeedsRuntimeReceipt = true) : isRecovering operation = true := by
  simp only [OperationRecord.builderCreationNeedsRuntimeReceipt, Bool.and_eq_true] at h
  exact h.1.1.1.2

theorem performs_closeHop {snapshot : OperationRecord} (hin : db.ledger.InSlot app snapshot)
    (recovering : isRecovering snapshot = true) (outcome : HopOutcome snapshot progress.state) :
    Gives (closeHop app snapshot progress) db fun _ db' =>
      Moves act db.ledger db'.ledger := by
  refine .fromExcept_bind fun result hresult => ?_
  obtain ⟨next, closed⟩ := result
  have hadv := Domain.advance_ok hresult
  have hstep : OperationStep act app snapshot closed := .hop recovering outcome hadv
  refine (gives_saveProgress hin.stored hstep.merge).bind fun _ db₁ h₁ => ?_
  refine (quiet_deleteInput _ db₁).bind fun _ db₂ h₂ => .pure ?_
  rw [h₂, h₁]
  exact .one (.step hin hadv.operationLifecycle hstep hadv.follows_of_hop)

theorem performs_closeTwice {outcome : OperationProgress → OperationProgress}
    (hin : db.ledger.InSlot app operation) (recovering : isRecovering operation = true)
    (running : progress.state = .running)
    (same : ∀ p : OperationProgress, (outcome p).checkpoint = p.checkpoint)
    (ends : ∀ p : OperationProgress, PasswordOutcome operation (outcome p).state) :
    Gives (closeTwice app operation progress outcome) db fun _ db' =>
      Moves act db.ledger db'.ledger := by
  refine .fromExcept_bind fun result hresult => ?_
  obtain ⟨app', between⟩ := result
  have hadv := Domain.advance_ok hresult
  obtain rfl : app' = app := by
    have happ := hadv.application
    simpa [running, OperationState.isTerminal] using happ
  refine .fromExcept_bind fun result hresult => ?_
  obtain ⟨next, closed⟩ := result
  have hclosed := Domain.advance_ok hresult
  have hstep : OperationStep act app' operation closed :=
    .twice recovering running (same { progress with expectedRevision := between.revision })
      (ends _) hadv hclosed
  refine .reads_bind fun _ _ => ?_
  refine (gives_saveProgress hin.stored hstep.merge).bind fun _ db₁ h₁ => .pure ?_
  rw [h₁]
  refine .one (.step hin hadv.operationLifecycle hstep (hclosed.follows.congr ?_ ?_))
  · rw [hadv.record]
    rfl
  · rw [hadv.record]
    rfl

theorem quiet_checkLease {context : ExecutionContext} : Quiet (checkLease operation context) :=
  ((Quiet.reads _).bind fun _ => .demand _ _).bind fun _ => .failIf _ _

theorem revised_ok {next : OperationRecord} (h : revised operation = .ok next) :
    next = { operation with revision := operation.revision + 1 } := by
  obtain ⟨revision, hrevision, h⟩ := demand_bind h
  cases h
  rw [checkedSucc_eq_some hrevision]

theorem gives_saveLive (act : Act) {operation' : OperationRecord}
    (hin : db.ledger.InSlot app operation) (hlife : operation.lifecycleId = app.lifecycleId)
    (step : OperationStep act app operation operation')
    (live : operation'.state.isTerminal = false) :
    Gives (saveOperation operation' operation) db fun _ db' =>
      Moves act db.ledger db'.ledger := by
  refine (gives_saveOperation hin.stored step.merge).mono fun _ db₁ h₁ => ?_
  rw [h₁]
  exact .one (.of_live hin hlife step live)

/-! ### Database operations -/

theorem performs_finalizePasswordRecovery (evidence : DatabasePasswordEvidence) :
    Performs act (finalizePasswordRecovery snapshot evidence) := by
  refine performs_current fun app db₁ hrec _ hin => ?_
  refine .fromExcept_bind fun _ hvalid => Gives.demand_bind fun before _ => ?_
  refine Gives.fromExcept_bind fun _ _ => Gives.failIf_bind fun _ => ?_
  refine Performs.after quiet_checkLease fun _ db₂ h₂ => ?_
  rw [← h₂] at hin
  have hkind := evidence.kind_of_validateOperation (invalid_eq_ok.mp hvalid)
  refine performs_closeTwice hin hrec rfl (fun _ => rfl) fun p => .inl ⟨hkind, ?_⟩
  by_cases hs : evidence.stage = .verified
  · exact .inl (if_pos hs)
  · exact .inr (if_neg hs)

theorem performs_finalizeDeployPgRecovery (evidence : ExplicitDeploymentPasswordEvidence) :
    Performs act (finalizeDeployPgRecovery snapshot evidence) := by
  refine performs_current fun app db₁ hstate _ hin => ?_
  refine .fromExcept_bind fun _ hvalid => Gives.demand_bind fun before _ => ?_
  refine Gives.fromExcept_bind fun _ _ => Gives.failIf_bind fun _ => ?_
  refine Performs.after quiet_checkLease fun _ db₂ h₂ => ?_
  rw [← h₂] at hin
  have hkind := evidence.kind_of_validateOperation (invalid_eq_ok.mp hvalid)
  exact performs_closeTwice hin (recovering_of_required (of_decide_eq_true hstate)) rfl
    (fun _ => rfl) fun p => .inr ⟨hkind, rfl⟩

theorem performs_confirmDatabasePreparationRecovery (evidence : DatabasePreparationEvidence) :
    Performs act (confirmDatabasePreparationRecovery snapshot evidence) := by
  refine performs_current fun app db₁ hrec hlife hin => ?_
  refine .fromExcept_bind fun _ _ => .demand_bind fun before _ => ?_
  refine Gives.fromExcept_bind fun _ _ => Gives.fromExcept_bind fun _ hvalid => ?_
  refine Gives.failIf_bind fun _ => ?_
  refine Performs.after quiet_checkLease fun _ db₂ h₂ => ?_
  rw [← h₂] at hin
  refine .fromExcept_bind fun result hresult => ?_
  obtain ⟨next, running⟩ := result
  have hadv := Domain.advance_ok hresult
  have hkind := evidence.kind_of_validateOperation (invalid_eq_ok.mp hvalid)
  have houtcome : HopOutcome snapshot .running := hkind
  have hstep : OperationStep act app snapshot running := .hop hrec houtcome hadv
  refine (gives_saveProgress hin.stored hstep.merge).bind fun _ db₃ h₃ => .pure ?_
  rw [h₃]
  exact .one (.step hin hlife hstep hadv.follows_of_hop)

/-! ### Builder creation -/

theorem performs_finalizeBuilderCreationRejection (rejection : Option RuntimeRequestRejection) :
    Performs act (finalizeBuilderCreationRejection snapshot rejection) := by
  refine performs_current fun app db₁ hclosable _ hin => ?_
  refine .demand_bind fun executorId _ => performs_closeHop hin ?_ trivial
  unfold creationIsClosable at hclosable
  cases rejection with
  | some =>
    simp only [Bool.and_eq_true, decide_eq_true_eq] at hclosable
    exact recovering_of_required hclosable.2.1.1
  | none =>
    simp only [Bool.and_eq_true] at hclosable
    exact recovering_of_receipt hclosable.2

theorem performs_confirmBuilderCreationRecovery (evidence : BuilderCreationEvidence)
    (managementReady : Bool) :
    Performs act (confirmBuilderCreationRecovery snapshot evidence managementReady) := by
  intro db
  refine (gives_currentOperation _ _ _).bind fun found db₁ h₁ => ?_
  obtain ⟨app, operation⟩ := found
  obtain ⟨heq, hin, -, -, hlife, -⟩ := h₁
  rw [← heq] at hin ⊢
  refine .fromExcept_bind fun _ _ => .failIf_bind fun hsame => ?_
  obtain rfl := not_not.mp hsame
  refine .fromExcept_bind fun _ hvalid => .fromExcept_bind fun _ hcheck => ?_
  refine .fromExcept_bind fun next hnext => ?_
  obtain rfl := revised_ok hnext
  have hkind := evidence.kind_of_validateOperation (invalid_eq_ok.mp hvalid)
  have hrec : isRecovering operation = true := by
    cases managementReady with
    | true =>
      obtain ⟨hobserved, -⟩ := failIf_bind hcheck
      exact recovering_of_required (not_not.mp (not_or.mp hobserved).1)
    | false =>
      have hreceipt := failIf_eq_ok.mp hcheck
      exact recovering_of_receipt (by simpa using hreceipt)
  exact (gives_saveLive act hin hlife.symm (.observe _ _ hkind hrec) rfl).bind
    fun _ _ h => .pure h

/-! ### Completed operations -/

theorem quiet_checkCompletion (app : LifecycleRecord) (operation : OperationRecord) :
    Quiet (checkCompletion app operation) := by
  unfold checkCompletion
  split
  · exact .fromExcept _
  · exact ((Quiet.reads _).bind fun _ => .demand _ _).bind fun _ => .failIf _ _

/-- A reserved operation had authority, and goes on as its next version. -/
theorem gives_reserveCompletedOperation :
    Gives (reserveCompletedOperation snapshot) db fun _ db' =>
      (∃ app, db.ledger.InSlot app snapshot) ∧ db.ledger.Authorized snapshot ∧
        Moves act db.ledger db'.ledger := by
  refine (gives_currentOperation _ _ _).bind fun found db₁ h₁ => ?_
  obtain ⟨app, operation⟩ := found
  obtain ⟨heq, hin, -, -, hlife, -⟩ := h₁
  rw [← heq] at hin ⊢
  refine .reads_bind fun _ hauth => .failIf_bind fun hsame => ?_
  obtain ⟨hsame, hrec⟩ := not_or.mp hsame
  obtain ⟨hrec, hfinal⟩ := not_or.mp hrec
  obtain rfl := not_not.mp hsame
  refine (quiet_checkCompletion app operation db₁).bind fun _ db₂ h₂ => ?_
  refine .fromExcept_bind fun next hnext => ?_
  obtain rfl := revised_ok hnext
  have hevidence : operation.hasDrainEvidence = true := by
    simp [OperationRecord.hasDrainEvidence, show operation.hasFinalEvidence = true by
      simpa using hfinal]
  have hin₂ : db₂.ledger.InSlot app operation := by rw [h₂]; exact hin
  refine (gives_saveLive act hin₂ hlife.symm
    (.resume (by simpa using hrec) (.inl hevidence)) rfl).bind fun _ db₃ h₃ => .pure ?_
  refine ⟨⟨app, hin⟩, Compute.checkBusinessAuthority_ok hauth, ?_⟩
  rw [← h₂]
  exact h₃

theorem performs_reserveCompletedOperation : Performs act (reserveCompletedOperation snapshot) :=
  fun _ => (gives_reserveCompletedOperation snapshot).mono fun _ _ h => h.2.2

/-! ### Observed outcomes -/

theorem performs_finalizeObservedWake : Performs act (finalizeObservedWake snapshot) := by
  refine performs_current fun app db heligible _ hin => ?_
  simp only [isObservedWake, Bool.and_eq_true, decide_eq_true_eq] at heligible
  exact .demand_bind fun _ _ =>
    performs_closeHop hin (recovering_of_required heligible.1.1.1.2) trivial

theorem performs_finalizeLegacyObservedWake (evidence : Json) :
    Performs act (finalizeLegacyObservedWake snapshot evidence) := by
  refine performs_current fun app db heligible _ hin => ?_
  simp only [isObservedWake, Bool.and_eq_true, decide_eq_true_eq] at heligible
  exact .fromExcept_bind fun _ _ => .demand_bind fun _ _ =>
    performs_closeHop hin (recovering_of_required heligible.1.1.1.2) trivial

theorem performs_settleFencedOperation (evidence : Json)
    (releaseNote : String) : Performs act (settleFencedOperation snapshot evidence releaseNote) := by
  refine performs_current fun app db heligible _ hin => ?_
  simp only [Bool.and_eq_true, decide_eq_true_eq] at heligible
  exact .fromExcept_bind fun _ _ => .demand_bind fun _ _ =>
    performs_closeHop hin (recovering_of_required heligible.1) trivial

theorem performs_settleStaleRunningBuilder (evidence : Json) (releaseNote : String) :
    Performs act (settleStaleRunningBuilder snapshot evidence releaseNote) := by
  refine performs_current fun app db heligible _ hin => ?_
  simp only [Bool.and_eq_true] at heligible
  exact .fromExcept_bind fun _ _ => .demand_bind fun _ _ =>
    performs_closeHop hin (recovering_of_receipt heligible.2) trivial

theorem performs_finalizeObservedHotSuccess (evidence : Json) :
    Performs act (finalizeObservedHotSuccess snapshot evidence) := by
  refine performs_current fun app db heligible _ hin => ?_
  simp only [Bool.and_eq_true, decide_eq_true_eq] at heligible
  exact .fromExcept_bind fun _ _ => .demand_bind fun _ _ =>
    performs_closeHop hin (recovering_of_required heligible.1.1) heligible.2

theorem performs_finalizeObservedHotFailure (evidence : HotDeploymentFailureEvidence) :
    Performs act (finalizeObservedHotFailure snapshot evidence) := by
  refine performs_current fun app db heligible _ hin => ?_
  simp only [Bool.and_eq_true, decide_eq_true_eq] at heligible
  exact .fromExcept_bind fun _ _ => .fromExcept_bind fun _ _ =>
    .demand_bind fun _ _ =>
      performs_closeHop hin (recovering_of_required heligible.1.1) trivial

/-! ### Deletions -/

theorem gives_deletionSnapshot :
    Gives (deletionSnapshot snapshot) db fun operation db' =>
      db'.ledger = db.ledger ∧ operation = snapshot ∧ isRecovering snapshot = true ∧
        ∃ app, db.ledger.InSlot app snapshot ∧ snapshot.lifecycleId = app.lifecycleId := by
  refine (gives_currentSnapshot snapshot _).bind fun found db₁ h₁ => ?_
  obtain ⟨app, operation⟩ := found
  obtain ⟨heq, hin, rfl, heligible, hlife⟩ := h₁
  simp only [Bool.and_eq_true] at heligible
  refine .demand_bind fun _ _ => .fromExcept_bind fun _ _ => ?_
  refine .reads_bind fun bound _ => .demand_bind fun binding _ => ?_
  exact .failIf_bind fun _ => .pure ⟨heq, rfl, heligible.2, app, hin, hlife⟩

theorem gives_inspected (message : String) (hin : db.ledger.InSlot app operation)
    (hlife : operation.lifecycleId = app.lifecycleId) (hrec : isRecovering operation = true) :
    Gives (inspected operation message) db fun _ db' => Moves act db.ledger db'.ledger := by
  refine .fromExcept_bind fun next hnext => ?_
  obtain rfl := revised_ok hnext
  refine (gives_saveLive act hin hlife (.inspect _ _ ?_) rfl).bind fun _ _ h => .pure h
  obtain hs | hs := isRecovering_live hrec
  · exact .inl hs
  · exact .inr (.inr hs)

theorem performs_reserveInterruptedDeletion :
    Performs act (reserveInterruptedDeletion snapshot) := by
  intro db
  refine (gives_deletionSnapshot snapshot).bind fun operation db₁ h₁ => ?_
  obtain ⟨heq, rfl, hrec, app, hin, hlife⟩ := h₁
  rw [← heq] at hin ⊢
  exact gives_inspected _ hin hlife hrec

theorem performs_recordDeletionRecoveryProblem (message : String) :
    Performs act (recordDeletionRecoveryProblem snapshot message) := by
  intro db
  refine (gives_deletionSnapshot snapshot).bind fun operation db₁ h₁ => ?_
  obtain ⟨heq, rfl, hrec, app, hin, hlife⟩ := h₁
  rw [← heq] at hin ⊢
  refine .failIf_bind fun _ => .ite (fun _ => .pure (.refl _)) fun _ => ?_
  exact gives_inspected _ hin hlife hrec

theorem performs_finalizeInterruptedDeletion (evidence : Json) :
    Performs act (finalizeInterruptedDeletion snapshot evidence) := by
  have hquiet : Quiet (deletionSnapshot snapshot) := fun _ =>
    (gives_deletionSnapshot snapshot).mono fun _ _ h => h.1
  exact fun _ => Performs.after hquiet fun operation db₁ _ => .failIf_bind fun _ =>
    performs_settleFencedOperation operation evidence _ db₁

/-! ### Deployments -/

def resumed (operation : OperationRecord) : OperationRecord :=
  if operation.state = .recoveryRequired then
    { operation with state := .running, revision := operation.revision + 1 }
  else operation

theorem gives_resumeRunning (stored : db.ledger.operation operation.operationId = some operation) :
    Gives (resumeRunning operation) db fun running db' =>
      running = resumed operation ∧ db'.ledger = if operation.state = .recoveryRequired then
        db.ledger.setOperation (resumed operation) else db.ledger := by
  unfold resumeRunning resumed
  split
  · refine .fromExcept_bind fun next hnext => ?_
    obtain rfl := revised_ok hnext
    exact (gives_saveOperation stored rfl).bind fun _ db₁ h₁ => .pure ⟨rfl, h₁⟩
  · exact .pure ⟨rfl, rfl⟩

/-- A recovering record that is taken back to `running` and fails. That it is in its slot is
found out only by the report. -/
theorem moves_of_resumed {L L₁ L' : Ledger} {result : OperationRecord}
    (stored : L.operation operation.operationId = some operation)
    (readable : Store.Readable operation) (hrec : isRecovering operation = true)
    (hevidence : operation.hasDrainEvidence = true ∨ operation.hasDeploymentUpdateReceipt = true)
    (hresumed : L₁ = if operation.state = .recoveryRequired then
      L.setOperation (resumed operation) else L)
    (hid : progress.operationId = operation.operationId) (hstate : progress.state = .failed)
    (hadv : L₁.Advances progress result L') : Moves act L L' := by
  by_cases hs : operation.state = .recoveryRequired
  · rw [if_pos hs, resumed, if_pos hs] at hresumed
    subst hresumed
    have hbefore : hadv.before =
        { operation with state := .running, revision := operation.revision + 1 } := by
      have hst := hadv.inSlot.stored
      rw [hadv.operationId, hid] at hst
      obtain ⟨-, h⟩ | ⟨h, -⟩ := operation_setOperation.mp hst
      · exact h
      · exact absurd rfl h
    have hin₁ := hadv.inSlot
    have hlife := hadv.advanced.operationLifecycle
    rw [hbefore] at hin₁ hlife
    have hin : L.InSlot hadv.app operation :=
      ⟨hin₁.holds, stored, hin₁.sameApp, hin₁.inSlot, readable⟩
    exact (Moves.one (.of_live hin hlife (.resume hrec hevidence) rfl)).trans
      (hadv.moves (.inr hstate))
  · rw [if_neg hs] at hresumed
    subst hresumed
    exact hadv.moves (.inr hstate)

theorem performs_expireDeploymentUpdate (nowMs : Int) :
    Performs act (expireDeploymentUpdate snapshot nowMs) := by
  refine .claimed fun db₁ => ?_
  refine (gives_readOperation _ _).query_bind fun operation ⟨hstored, hid, _, hread⟩ => ?_
  refine .failIf_bind fun hsame => ?_
  obtain ⟨hsame, hrec⟩ := not_or.mp hsame
  obtain ⟨hrec, hreceipt⟩ := not_or.mp hrec
  obtain rfl := not_not.mp hsame
  refine .reads_bind fun deadline _ => .reads_bind fun input _ => ?_
  refine .failIf_bind fun _ => ?_
  refine (gives_resumeRunning hstored).bind fun running db₃ h₃ => ?_
  obtain ⟨rfl, h₃⟩ := h₃
  refine .fromExcept_bind fun checkpoint _ => .demand_bind fun executorId _ => ?_
  refine (gives_advance _).mono fun result db₄ ⟨h₄⟩ => ?_
  refine moves_of_resumed hstored hread (by simpa using hrec) (.inr (by simpa using hreceipt)) h₃ ?_
    rfl h₄
  unfold resumed
  split <;> rfl

theorem performs_reserveInterruptedHot (expected : LeaseBinding) :
    Performs act (reserveInterruptedHot snapshot expected) := by
  refine performs_current fun app db₁ heligible hlife hin => ?_
  simp only [Bool.and_eq_true, decide_eq_true_eq] at heligible
  refine .fromExcept_bind fun _ _ => .reads_bind fun _ _ => ?_
  refine .reads_bind fun bound _ => .failIf_bind fun _ => ?_
  refine .fromExcept_bind fun next hnext => ?_
  obtain rfl := revised_ok hnext
  exact (gives_saveLive act hin hlife (.inspect _ _ (.inl heligible.1.1)) rfl).bind
    fun _ _ h => .pure h

end Recovery

end Rcoder.Lifecycle
