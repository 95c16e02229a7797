import Rcoder.Lifecycle.ComputeMoves

/-!
# Moves of compute execution

The reports of an executor, and the transactions that continue or close a control on evidence
found by somebody else. Each of them rewrites one control that the ledger still has as it was
read, by one of the steps of controls.
-/

namespace Rcoder.Lifecycle

open Effect Ledger

variable {db : Store} {act : Act}

namespace Execution

open Compute

/-! ### Steps shared by the transactions -/

variable {snapshot control : ControlRecord}

variable {condition : ControlRecord → Bool} {change : ControlRecord → ControlRecord}

theorem gives_rewrite (stored : db.ledger.control snapshot.operationId = some snapshot)
    (hkey : condition snapshot = true → (change snapshot).operationId = snapshot.operationId) :
    Gives (rewrite snapshot condition change) db fun _ db' =>
      condition snapshot = true ∧ db'.ledger = db.ledger.setControl (change snapshot) := by
  refine .mono (gives_updateControl stored fun h => ?_) fun _ db' h => ?_
  · exact hkey (Bool.and_eq_true_iff.mp h).2
  · exact ⟨(Bool.and_eq_true_iff.mp h.1).2, h.2⟩

/-- A step that does not enter the stage `stopping` needs no drained predecessors. -/
theorem moves_of_control {L : Ledger} {control' : ControlRecord}
    (stored : L.control control.operationId = some control)
    (step : ControlStep act control control')
    (stage : control'.stage = control.stage ∨ control'.stage ≠ "stopping") :
    Moves act L (L.setControl control') := by
  refine .one (.control stored step fun hstopping hne => ?_)
  obtain hsame | hnot := stage
  · exact absurd (hsame.symm.trans hstopping) hne
  · exact absurd hstopping hnot

theorem performs_rewrite (stored : db.ledger.control snapshot.operationId = some snapshot)
    (step : condition snapshot = true → ControlStep act snapshot (change snapshot))
    (stage : (change snapshot).stage = snapshot.stage ∨ (change snapshot).stage ≠ "stopping") :
    Gives (rewrite snapshot condition change) db fun _ db' =>
      Moves act db.ledger db'.ledger := by
  refine (gives_rewrite stored fun h => (step h).same.operationId).mono fun _ db' h => ?_
  rw [h.2]
  exact moves_of_control stored (step h.1) stage

theorem quiet_readControl {appId id : String} : Quiet (readControl appId id) :=
  fun _ => (gives_readControl appId id).mono fun _ _ h => congrArg Store.ledger h.1

variable (identity : ExecutorIdentity)

theorem quiet_currentControl : Quiet (currentControl identity) :=
  fun _ => (gives_currentControl identity).mono fun _ _ h => congrArg Store.ledger h.1

/-- A transaction that ends with a query. -/
theorem moves_then {α β : Type} {m : Tx α} {k : Tx β}
    (hm : Gives m db fun _ db' => Moves act db.ledger db'.ledger) (hk : Quiet k) :
    Gives (m >>= fun _ => k) db fun _ db' => Moves act db.ledger db'.ledger :=
  hm.bind fun _ db₁ h₁ => (hk db₁).mono fun _ _ h₂ => by
    rw [h₂]
    exact h₁

theorem gives_currentSnapshot (snapshot : ControlRecord) (executorId : String) :
    Gives (currentSnapshot snapshot executorId) db fun _ db' =>
      db' = db ∧ db.ledger.Current snapshot ∧
        db.ledger.control snapshot.operationId = some snapshot := by
  refine (gives_currentControl (identityOf snapshot executorId)).query_bind
    fun actual ⟨hcurrent, hstored, _⟩ => ?_
  refine .failIf fun hsame => ?_
  obtain rfl := not_not.mp hsame
  exact ⟨rfl, hcurrent, hstored⟩

theorem gives_checkExecutor :
    Gives (checkExecutor identity) db fun control db' =>
      db' = db ∧ db.ledger.Current control ∧
        db.ledger.control control.operationId = some control ∧ control.state = .running ∧
        control.executorId = some identity.executorId ∧ control.appId = identity.appId ∧
        control.operationId = identity.operationId ∧
        control.lifecycleId = identity.lifecycleId ∧ control.scope = identity.scope := by
  refine (gives_currentControl identity).query_bind
    fun control ⟨hcurrent, hstored, _, happ, hid, hlife, hscope, _⟩ => ?_
  refine .failIf_bind fun hrun => .pure ?_
  obtain ⟨hrun, hexec⟩ := not_or.mp hrun
  exact ⟨rfl, hcurrent, hstored, not_not.mp hrun, not_not.mp hexec, happ, hid, hlife, hscope⟩

theorem nextRevision_bind {α : Type} {f : Int → Tx α} {Q : α → Store → Prop} {revision : Int}
    (h : Gives (f (revision + 1)) db Q) : Gives (fromExcept (nextRevision revision) >>= f) db Q :=
  .fromExcept_bind fun _ hnext => checkedSucc_eq_some (Check.demand_eq_ok.mp hnext) ▸ h

/-! ### The executor -/

theorem gives_bindLease (receipt : LeaseReceipt) :
    Gives (bindLease identity receipt) db fun _ db' =>
      ∃ control, db.ledger.Current control ∧ control.appId = identity.appId ∧
        control.lifecycleId = identity.lifecycleId ∧ Moves act db.ledger db'.ledger := by
  refine .fromExcept_bind fun _ _ => ?_
  refine (quiet_claimApp identity.appId db).bind fun _ db₁ h₁ => ?_
  rw [← h₁]
  refine (gives_checkExecutor identity).query_bind
    fun control ⟨hcurrent, hstored, hrun, _, happ, _, hlife, _⟩ => ?_
  cases hlease : control.lease with
  | some =>
    exact .failIf_bind fun _ => .pure ⟨control, hcurrent, happ, hlife, .refl _⟩
  | none =>
    have hwrite : Gives (rewrite control (·.lease.isNone) fun row =>
        { row with lease := some receipt, revision := row.revision + 1 }) db₁ fun _ db' =>
        Moves act db₁.ledger db'.ledger :=
      performs_rewrite hstored (fun _ => .bind receipt hrun hlease) (.inl rfl)
    exact (moves_then hwrite quiet_readControl).mono fun _ _ h =>
      ⟨control, hcurrent, happ, hlife, h⟩

theorem performs_bindLease (receipt : LeaseReceipt) : Performs act (bindLease identity receipt) :=
  fun _ => (gives_bindLease identity receipt).mono fun _ _ ⟨_, _, _, _, h⟩ => h

def wakeable (app : LifecycleRecord) : LifecycleRecord :=
  { app with
    runtimePolicy := { app.runtimePolicy with wakeOnTraffic := some true }
    metadataRevision := app.metadataRevision + 1 }

structure AdvancesControl (L : Ledger) (progress : ControlProgress)
    (control : ControlRecord) (L' : Ledger) : Prop where
  current : L.Current control
  stored : L.control control.operationId = some control
  appId : control.appId = progress.identity.appId
  operationId : control.operationId = progress.identity.operationId
  lifecycleId : control.lifecycleId = progress.identity.lifecycleId
  revision : control.revision = progress.expectedRevision
  reported : Reported control progress
  drained : progress.stage ≠ .drainingPrevious → L.Drained control
  written : L' = L.setControl (progressed progress control) ∨
    ∃ app, L.Holds app ∧ app.appId = control.appId ∧
      L' = (L.setControl (progressed progress control)).saveApp (wakeable app)

namespace AdvancesControl

variable {L L' : Ledger} {progress : ControlProgress} {control : ControlRecord}

variable (h : AdvancesControl L progress control L')
include h

theorem control_eq : L'.control = (L.setControl (progressed progress control)).control := by
  obtain hw | ⟨app, -, -, hw⟩ := h.written
  · rw [hw]
  · rw [hw]
    rfl

theorem operation_eq : L'.operation = L.operation := by
  obtain hw | ⟨app, -, -, hw⟩ := h.written <;> (rw [hw]; rfl)

theorem lease_eq : L'.lease = L.lease := by
  obtain hw | ⟨app, -, -, hw⟩ := h.written <;> (rw [hw]; rfl)

end AdvancesControl

variable {progress : ControlProgress}

theorem checkMutation_ok
    (h : checkMutation db control progress = .ok ()) :
    (progress.stage ≠ .drainingPrevious → db.ledger.Drained control) ∧
      (progress.stage ≠ .drainingPrevious → control.lease.isSome = true) := by
  unfold checkMutation at h
  by_cases hstage : progress.stage = .drainingPrevious
  · exact ⟨fun hne => absurd hstage hne, fun hne => absurd hstage hne⟩
  · rw [if_pos hstage] at h
    obtain ⟨_, hdrained, h⟩ := Check.bind_eq_ok.mp h
    refine ⟨fun _ => drained_ok hdrained, fun _ => ?_⟩
    have hevidence := Check.failIf_eq_ok.mp (mapFailure_eq_ok.mp h)
    by_contra hlease
    exact hevidence ⟨hstage, .inl (by simpa using hlease)⟩

theorem gives_restoreWakePolicy :
    Gives (restoreWakePolicy identity) db fun _ db' =>
      ∃ app, db.ledger.Holds app ∧ app.appId = identity.appId ∧
        db'.ledger = db.ledger.saveApp (wakeable app) := by
  refine (gives_readApp identity.appId).query_bind fun app ⟨hholds, happ, _⟩ => ?_
  refine .demand_bind fun revision hrevision => ?_
  obtain rfl := checkedSucc_eq_some hrevision
  have hsame : SameIncarnation app (wakeable app) := ⟨rfl, rfl, rfl, .inl rfl⟩
  exact (gives_saveApp_of_holds hholds hsame rfl).mono fun _ db₂ h₂ => ⟨app, hholds, happ, h₂⟩

theorem gives_advanceControl (progress : ControlProgress) :
    Gives (advanceControl progress) db fun result db' =>
      ∃ control, AdvancesControl db.ledger progress control db'.ledger ∧
        result = progressed progress control := by
  refine (quiet_claimApp _ db).bind fun _ db₁ h₁ => ?_
  rw [← h₁]
  refine (gives_checkExecutor progress.identity).query_bind
    fun control ⟨hcurrent, hstored, hrun, hexec, happ, hid, hlife, _⟩ => ?_
  refine .failIf_bind fun hrevision => .fromExcept_bind fun _ hfollows => ?_
  refine .reads_bind fun _ hmutation => .fromExcept_bind fun _ _ => ?_
  obtain ⟨hdrained, hleased⟩ := checkMutation_ok hmutation
  have hreported : Reported control progress :=
    ⟨hrun, hexec, mapFailure_eq_ok.mp hfollows, hleased⟩
  refine .bind (gives_rewrite hstored fun _ => rfl) fun _ db₃ h₃ => ?_
  have hpolicy : Gives (onlyIf (progress.state = .succeeded ∧ control.action = .restart ∧
      progress.identity.scope = .prod) (restoreWakePolicy progress.identity)) db₃ fun _ db' =>
      db'.ledger = db₁.ledger.setControl (progressed progress control) ∨
        ∃ app, db₁.ledger.Holds app ∧ app.appId = control.appId ∧ db'.ledger =
          (db₁.ledger.setControl (progressed progress control)).saveApp (wakeable app) := by
    refine .onlyIf (fun _ => ?_) fun _ => .inl h₃.2
    refine (gives_restoreWakePolicy progress.identity).mono fun _ db₄ h₄ => .inr ?_
    obtain ⟨app, hholds, happApp, h₄⟩ := h₄
    rw [h₃.2] at hholds h₄
    exact ⟨app, hholds, happApp.trans happ.symm, h₄⟩
  refine hpolicy.bind fun _ db₄ h₄ => (gives_readControl _ _).mono fun result db₅ h₅ => ?_
  obtain ⟨rfl, hresult, -, -⟩ := h₅
  refine ⟨control, ⟨hcurrent, hstored, happ, hid, hlife, not_not.mp hrevision, hreported, hdrained,
    h₄⟩, ?_⟩
  have hwritten : db₅.ledger.control control.operationId = some (progressed progress control) := by
    obtain h₄ | ⟨app, -, -, h₄⟩ := h₄ <;> rw [h₄] <;> exact Function.update_self ..
  rw [hid] at hwritten
  exact Option.mem_unique hresult hwritten

theorem AdvancesControl.moves {L L' : Ledger} (h : AdvancesControl L progress control L')
    (hact : act = .control progress ∨ progress.stage = .completed) : Moves act L L' := by
  have hmove : Move act L (L.setControl (progressed progress control)) := by
    refine .control h.stored (.report hact h.reported) fun hstage _ => ⟨h.current, h.drained ?_⟩
    intro hdraining
    have hstage : progress.stage.asStr = "stopping" := hstage
    rw [hdraining] at hstage
    exact absurd hstage (by decide)
  obtain hw | ⟨app, hholds, -, hw⟩ := h.written
  · rw [hw]
    exact .one hmove
  · rw [hw]
    have hholds' : (L.setControl (progressed progress control)).Holds app := hholds
    exact (Moves.one hmove).trans (.one (.patch hholds' ⟨rfl, rfl, rfl, .inl rfl⟩ rfl rfl))

theorem performs_advanceControl (progress : ControlProgress) :
    Performs (.control progress) (advanceControl progress) :=
  fun _ => (gives_advanceControl progress).mono fun _ _ ⟨_, h, _⟩ => h.moves (.inl rfl)

theorem gives_forgetLease (receipt : LeaseReceipt) :
    Gives (forgetLease identity receipt) db fun _ db' =>
      db'.ledger = db.ledger ∨
        ∃ control, db.ledger.control control.operationId = some control ∧
          control.operationId = identity.operationId ∧
          (control.state = .succeeded ∨ control.state = .failed) ∧
          control.lease = some receipt ∧
          db'.ledger = db.ledger.setControl
            { control with lease := none, revision := control.revision + 1 } := by
  refine .fromExcept_bind fun _ _ => ?_
  refine (quiet_claimApp _ db).bind fun _ db₁ h₁ => ?_
  rw [← h₁]
  refine (gives_readControl _ _).query_bind fun control ⟨hstored, hid, _⟩ => ?_
  rw [← hid] at hstored
  refine .failIf_bind fun hended => ?_
  obtain ⟨-, hended⟩ := not_or.mp hended
  have hended : control.state = .succeeded ∨ control.state = .failed := by
    by_contra hne
    exact hended (not_or.mp hne)
  cases hlease : control.lease with
  | none => exact .pure (.inl rfl)
  | some =>
    refine .failIf_bind fun hsame => ?_
    rw [not_not.mp hsame] at hlease
    refine .mono (gives_rewrite hstored ?_) fun _ db' h => ?_
    · exact fun _ => rfl
    · exact .inr ⟨control, hstored, hid, hended, hlease, h.2⟩

theorem performs_forgetLease (receipt : LeaseReceipt) :
    Performs (.forget identity.operationId receipt) (forgetLease identity receipt) := by
  refine fun db => (gives_forgetLease identity receipt).mono fun _ db' h => ?_
  obtain heq | ⟨control, hstored, hid, hended, hlease, heq⟩ := h
  · exact .of_eq heq
  · rw [heq, ← hid]
    exact moves_of_control hstored (.forget hended hlease rfl) (.inl rfl)

/-! ### Closing a superseded executor -/

theorem performs_acknowledgeDrain (expectedRevision : Int) (evidence : DrainEvidence) :
    Performs act (acknowledgeDrain identity expectedRevision evidence) := by
  refine .claimed fun db₁ => ?_
  refine (gives_readControl _ _).query_bind fun control ⟨hstored, hid, _⟩ => ?_
  rw [← hid] at hstored
  refine .failIf_bind fun howns => .failIf_bind fun _ => ?_
  obtain ⟨-, howns⟩ := not_or.mp howns
  have hstate := not_not.mp (not_or.mp howns).2
  refine moves_then (performs_rewrite hstored (fun hcond => ?_) (.inr ?_)) quiet_readControl
  · refine .acknowledge _ hstate ?_
    simp only [Bool.and_eq_true, decide_eq_true_eq] at hcond
    rw [hcond.2]
    rfl
  · have hne : "superseded_drained" ≠ "stopping" := by decide
    exact hne

theorem performs_finalizeInterrupted (snapshot : OperationRecord) :
    Performs act (finalizeInterrupted identity snapshot) := by
  refine .claimed fun db₁ => ?_
  refine (gives_currentControl identity).query_bind fun control _ => ?_
  refine .failIf_bind fun _ => ?_
  refine (gives_readOperation _ _).query_bind fun operation ⟨hstored, hid, _, hread⟩ => ?_
  refine .failIf_bind fun hcloses => ?_
  obtain ⟨hsame, hcloses⟩ := not_or.mp hcloses
  obtain rfl := not_not.mp hsame
  have hcloses : closesInterrupted control operation = true := by simpa using hcloses
  simp only [closesInterrupted, Bool.and_eq_true] at hcloses
  obtain ⟨⟨-, hrec⟩, hevidence⟩ := hcloses
  refine (Recovery.gives_resumeRunning hstored).bind fun running db₄ h₄ => ?_
  obtain ⟨rfl, h₄⟩ := h₄
  refine .demand_bind fun executorId _ => ?_
  refine (gives_advance _).mono fun result db₅ ⟨h₅⟩ => ?_
  refine Recovery.moves_of_resumed hstored hread hrec (.inl hevidence) h₄ ?_ rfl h₅
  unfold Recovery.resumed
  split <;> rfl

/-! ### Confirmed outcomes -/

theorem lease_isSome (h : ¬control.lease = none) : control.lease.isSome = true :=
  Option.isSome_iff_ne_none.mpr h

variable (snapshot)

theorem performs_finalizeConfirmed : Performs act (finalizeConfirmed snapshot) := by
  refine .claimed fun db₁ => ?_
  refine .demand_bind fun executorId _ => ?_
  refine (gives_currentSnapshot snapshot executorId).query_bind fun _ ⟨_, hstored⟩ => ?_
  refine .failIf_bind fun hconfirmed => nextRevision_bind ?_
  obtain ⟨hlease, hconfirmed⟩ := not_or.mp hconfirmed
  obtain ⟨hrec, hconfirmed⟩ := not_or.mp hconfirmed
  have hstep : ControlStep act snapshot
      { snapshot with state := .running, revision := snapshot.revision + 1 } :=
    .recommit (by simpa using hrec) (lease_isSome hlease) (by simpa using hconfirmed)
  refine .bind (performs_rewrite hstored (fun _ => hstep) (.inl rfl))
    fun _ db₃ h₃ => ?_
  exact (gives_advanceControl _).mono fun _ _ ⟨_, h₄, _⟩ => h₃.trans (h₄.moves (.inr rfl))

theorem performs_finalizeObserved (action : ControlAction) (creation : Option BuilderControlTarget)
    : Performs act (finalizeObserved snapshot action creation) := by
  refine .claimed fun db₁ => ?_
  refine .fromExcept_bind fun context _ => .fromExcept_bind fun valid _ => ?_
  refine .failIf_bind fun hobserved => ?_
  obtain ⟨haction, hobserved⟩ := not_or.mp hobserved
  obtain ⟨hstage, hobserved⟩ := not_or.mp hobserved
  obtain ⟨hlease, hobserved⟩ := not_or.mp hobserved
  obtain ⟨hrec, -⟩ := not_or.mp hobserved
  obtain rfl := not_not.mp haction
  refine (gives_currentSnapshot snapshot context.executorId).query_bind fun _ ⟨_, hstored⟩ => ?_
  refine nextRevision_bind (.fromExcept_bind fun checkpoint _ => ?_)
  have hstep : ControlStep act snapshot _ :=
    .observe checkpoint (by simpa using hrec) (lease_isSome hlease) (not_not.mp hstage)
  refine .bind (performs_rewrite hstored (fun _ => hstep) (.inr ?_))
    fun _ db₃ h₃ => ?_
  · have hne : ∀ action, (observedStages action).2 ≠ "stopping" := by rintro (_ | _) <;> decide
    exact hne snapshot.action
  refine (gives_currentControl _).query_bind fun confirmed _ => ?_
  exact (performs_finalizeConfirmed confirmed db₃).mono fun _ _ h₅ => h₃.trans h₅

theorem performs_finalizeObservedCreation
    (observed : BuilderControlTarget) (volumes : List ResourceIdentity) :
    Performs act (finalizeObservedCreation snapshot observed volumes) := by
  intro db
  refine .demand_bind fun original _ => .fromExcept_bind fun _ _ => ?_
  refine .fromExcept_bind fun _ _ => .demand_bind fun document _ => ?_
  refine .demand_bind fun expected _ => .failIf_bind fun _ => ?_
  exact performs_finalizeObserved snapshot .restart (some observed) db

/-! ### The stop boundary of a restart -/

theorem gives_checkBoundary (executorId : String) :
    Gives (checkBoundary snapshot executorId) db fun _ db' =>
      db' = db ∧ db.ledger.control snapshot.operationId = some snapshot := by
  refine (gives_currentSnapshot snapshot executorId).query_bind fun _ ⟨_, hstored⟩ => ?_
  exact Gives.reads.mono fun _ _ h => ⟨h.1, hstored⟩

/-- A builder's restart whose stop was submitted under a lease, and may be confirmed. -/
theorem stopping_of_builder {snapshot : ControlRecord}
    (h : ¬isStoppingBuilderRestart snapshot = false) :
    isRecovering snapshot = true ∧ snapshot.action = .restart ∧ snapshot.stage = "stopping" := by
  have h : isStoppingBuilderRestart snapshot = true := by simpa using h
  simp only [isStoppingBuilderRestart, Bool.and_eq_true, decide_eq_true_eq] at h
  exact ⟨h.2, h.1.1.2, h.1.2⟩

theorem performs_confirmStopped {snapshot : ControlRecord} {executorId key : String}
    {evidence : Json} {lease : LeaseReceipt} (leased : snapshot.lease = some lease)
    (stopping : ¬isStoppingBuilderRestart snapshot = false) :
    Performs act (confirmStopped snapshot executorId key evidence) := by
  intro db
  obtain ⟨hrec, hrestart, hstage⟩ := stopping_of_builder stopping
  refine (gives_checkBoundary snapshot executorId).query_bind fun _ hstored => ?_
  refine nextRevision_bind (.failIf_bind fun _ => .fromExcept_bind fun checkpoint _ => ?_)
  have hstep : ControlStep act snapshot _ :=
    .confirmStopped checkpoint snapshot.state (.inl rfl) hrec (by rw [leased]; rfl) hrestart hstage
  have hne : "stopped" ≠ "stopping" := by decide
  exact moves_then (performs_rewrite hstored (fun _ => hstep) (.inr hne)) (quiet_currentControl _)

theorem performs_confirmBuilderRestartStopped
    (observation : BuilderRestartStopObservation) :
    Performs act (confirmBuilderRestartStopped snapshot observation) := by
  refine .claimed fun db₁ => ?_
  refine .fromExcept_bind fun _ _ => .fromExcept_bind fun context _ => ?_
  refine .demand_bind fun lease hlease => .fromExcept_bind fun _ _ => ?_
  refine .fromExcept_bind fun captured _ => ?_
  exact .failIf_bind fun hstopping => performs_confirmStopped hlease (not_or.mp hstopping).1 db₁

theorem performs_confirmKubernetesRestartStopped
    (evidence : KubernetesRestartStopEvidence) :
    Performs act (confirmKubernetesRestartStopped snapshot evidence) := by
  refine .claimed fun db₁ => ?_
  refine .fromExcept_bind fun context _ => .demand_bind fun lease hlease => ?_
  refine .fromExcept_bind fun _ _ => .demand_bind fun original _ => ?_
  exact .failIf_bind fun hstopping => performs_confirmStopped hlease (not_or.mp hstopping).1 db₁

theorem performs_failUnrebuildableBuilderRestart
    (observation : BuilderRestartStopObservation)
    (unavailable : Option BuilderRestartArchiveUnavailable) :
    Performs act (failUnrebuildableBuilderRestart snapshot observation unavailable) := by
  refine .claimed fun db₁ => ?_
  refine .fromExcept_bind fun _ _ => .fromExcept_bind fun context _ => ?_
  refine .demand_bind fun lease hlease => .fromExcept_bind fun _ _ => ?_
  refine .fromExcept_bind fun captured _ => ?_
  refine .failIf_bind fun hstopping => .fromExcept_bind fun reason _ => ?_
  obtain ⟨hrec, hrestart, hstage⟩ := stopping_of_builder (not_or.mp hstopping).1
  refine (gives_checkBoundary snapshot context.executorId).query_bind fun _ hstored => ?_
  refine .fromExcept_bind fun checkpoint _ => nextRevision_bind ?_
  have hstep : ControlStep act snapshot _ :=
    .confirmStopped checkpoint .failed (.inr rfl) hrec (by rw [hlease]; rfl) hrestart hstage
  have hne : "stopped" ≠ "stopping" := by decide
  exact moves_then (performs_rewrite hstored (fun _ => hstep) (.inr hne)) quiet_readControl

/-! ### Continuing a stopped restart -/

theorem performs_continueStart {snapshot : ControlRecord} {executorId : String}
    {encoded : Except StoreError Json} (recovering : isRecovering snapshot = true)
    (leased : snapshot.lease.isSome = true) (restart : snapshot.action = .restart)
    (stage : snapshot.stage = "stopped" ∨ snapshot.stage = "starting") : Performs act (do
      currentSnapshot snapshot executorId
      let checkpoint ← fromExcept encoded
      continueStart snapshot executorId checkpoint) := by
  intro db
  refine (gives_currentSnapshot snapshot executorId).query_bind fun _ ⟨_, stored⟩ => ?_
  refine .fromExcept_bind fun checkpoint _ => nextRevision_bind ?_
  have hstep : ControlStep act snapshot _ :=
    .continueStart checkpoint recovering leased restart stage
  have hne : "starting" ≠ "stopping" := by decide
  exact moves_then (performs_rewrite stored (fun _ => hstep) (.inr hne)) (quiet_currentControl _)

theorem performs_resumeStoppedRestart (target : MutationTarget) :
    Performs act (resumeStoppedRestart snapshot target) := by
  refine .claimed fun db₁ => ?_
  refine .fromExcept_bind fun context _ => .demand_bind fun old _ => ?_
  refine .failIf_bind fun hcontinues => .fromExcept_bind fun _ _ => ?_
  have hcontinues : continuesApplication snapshot context old target = true := by
    simpa using hcontinues
  simp only [continuesApplication, Bool.and_eq_true, Bool.or_eq_true, decide_eq_true_eq]
    at hcontinues
  obtain ⟨⟨⟨⟨⟨⟨⟨⟨⟨⟨⟨haction, -⟩, hstage⟩, hlease⟩, hrec⟩, -⟩, -⟩, -⟩, -⟩, -⟩, -⟩, -⟩ := hcontinues
  exact performs_continueStart hrec hlease haction hstage db₁

theorem performs_captureStoppedBuilderTemplate
    (source : BuilderControlTarget) (template : BuilderRestartTemplate) :
    Performs act (captureStoppedBuilderTemplate snapshot source template) := by
  refine .claimed fun db₁ => ?_
  refine .fromExcept_bind fun context _ => .demand_bind fun original _ => ?_
  refine .fromExcept_bind fun _ _ => .fromExcept_bind fun _ _ => ?_
  refine .demand_bind fun old _ => .demand_bind fun current _ => ?_
  refine .demand_bind fun document _ => .demand_bind fun volumes _ => ?_
  refine .failIf_bind fun hcaptures => ?_
  have hcaptures : capturesStopped snapshot context original source old current template volumes =
      true := by simpa using hcaptures
  have hrec : isRecovering snapshot = true := by
    simp only [capturesStopped, Bool.and_eq_true] at hcaptures
    exact hcaptures.1.1.1.1.1.1.1.1.1.1.1.1.1.1.2
  refine (gives_checkBoundary snapshot context.executorId).query_bind fun _ hstored => ?_
  refine nextRevision_bind (.fromExcept_bind fun checkpoint _ => ?_)
  have hstep : ControlStep act snapshot _ := .annotate checkpoint (.inl hrec)
  exact moves_then (performs_rewrite hstored (fun _ => hstep) (.inl rfl)) (quiet_currentControl _)

theorem performs_resumeBuilderRestart (target : BuilderControlTarget) :
    Performs act (resumeBuilderRestart snapshot target) := by
  refine .claimed fun db₁ => ?_
  refine .fromExcept_bind fun context _ => .demand_bind fun old _ => ?_
  refine .fromExcept_bind fun _ _ => .fromExcept_bind fun _ _ => ?_
  refine .fromExcept_bind fun sameIntent _ => .failIf_bind fun hcontinues => ?_
  have hcontinues : continuesBuilder snapshot context old target sameIntent = true := by
    simpa using hcontinues
  simp only [continuesBuilder, Bool.and_eq_true, Bool.or_eq_true, decide_eq_true_eq] at hcontinues
  obtain ⟨⟨⟨⟨⟨⟨⟨⟨⟨⟨⟨haction, -⟩, hstage⟩, hlease⟩, hrec⟩, -⟩, -⟩, -⟩, -⟩, -⟩, -⟩, -⟩ := hcontinues
  exact performs_continueStart hrec hlease haction (hstage.imp_right (·.1)) db₁

theorem performs_markArchiveCleaned : Performs act (markArchiveCleaned snapshot) := by
  intro db
  refine (gives_readControl _ _).query_bind fun control ⟨hstored, hid, _⟩ => ?_
  rw [← hid] at hstored
  refine .failIf_bind fun hdone => .fromExcept_bind fun checkpoint _ => ?_
  obtain ⟨-, hdone⟩ := not_or.mp hdone
  have hdone := not_not.mp (not_or.mp hdone).1
  exact performs_rewrite hstored (fun _ => .annotate checkpoint (.inr hdone))
    (.inl rfl)

/-! ### Recovery of the early phase -/

theorem gives_currentDrain :
    Gives (currentDrain snapshot) db fun _ db' =>
      db'.ledger = db.ledger ∧ db.ledger.control snapshot.operationId = some snapshot ∧
        snapshot.canRecoverComputeDrain = true := by
  refine (quiet_claimApp _ db).bind fun _ db₁ h₁ => .demand_bind fun executorId _ => ?_
  refine (gives_currentSnapshot snapshot executorId).query_bind fun _ ⟨_, hstored⟩ => ?_
  refine .failIf fun hearly => ?_
  rw [← h₁]
  exact ⟨rfl, hstored, by simpa using hearly⟩

/-- A transaction on the exact control in its early phase. -/
theorem performs_early {snapshot : ControlRecord} {α : Type} {f : Unit → Tx α}
    (hf : ∀ db, db.ledger.control snapshot.operationId = some snapshot →
      snapshot.canRecoverComputeDrain = true →
      Gives (f ()) db fun _ db' => Moves act db.ledger db'.ledger) :
    Performs act (currentDrain snapshot >>= f) := by
  intro db
  refine (gives_currentDrain snapshot).bind fun _ db₁ h₁ => ?_
  obtain ⟨heq, hstored, hearly⟩ := h₁
  rw [← heq] at hstored ⊢
  exact hf db₁ hstored hearly

theorem performs_reserveDrain : Performs act (reserveDrain snapshot) := by
  refine performs_early fun db hstored hearly => ?_
  exact moves_then (performs_rewrite hstored (fun _ => .reserve _ _ hearly)
    (.inl rfl)) quiet_readControl

theorem performs_captureDrain (receipt : LeaseReceipt)
    (attempt : ExecutionContext) : Performs act (captureDrain snapshot receipt attempt) := by
  intro db
  refine .fromExcept_bind fun _ _ => performs_early (fun db hstored hearly => ?_) db
  refine .failIf_bind fun _ => .fromExcept_bind fun _ _ => .failIf_bind fun _ => ?_
  cases hlease : snapshot.lease with
  | some => exact .failIf_bind fun _ => .pure (.refl _)
  | none =>
    exact moves_then (performs_rewrite hstored (fun _ => .capture receipt hearly hlease) (.inl rfl))
      quiet_readControl

def resumedDrain (control : ControlRecord) : ControlRecord :=
  { control with
    state := .pending
    executorId := none
    lease := none
    stage := "accepted"
    errorCode := none
    errorMessage := none
    revision := control.revision + 1 }

/-- A control starts over only with the receipt released that it still has. -/
theorem gives_resumeDrain (released : Option LeaseReceipt) :
    Gives (resumeDrain snapshot released) db fun _ db' =>
      db.ledger.control snapshot.operationId = some snapshot ∧
        snapshot.canRecoverComputeDrain = true ∧ snapshot.state = .recoveryRequired ∧
        snapshot.lease = released ∧
        db'.ledger = db.ledger.setControl (resumedDrain snapshot) := by
  refine (gives_currentDrain snapshot).bind fun _ db₁ h₁ => ?_
  obtain ⟨heq, hstored, hearly⟩ := h₁
  rw [← heq] at hstored ⊢
  refine .failIf_bind fun hreserved => .reads_bind fun _ _ => ?_
  obtain ⟨hstate, hlease⟩ := not_or.mp hreserved
  refine .bind (gives_rewrite hstored ?_) fun _ db₂ h₂ => ?_
  · exact fun _ => rfl
  refine (quiet_readControl db₂).mono fun _ db₃ h₃ => ?_
  rw [h₃]
  exact ⟨hstored, hearly, not_not.mp hstate, not_not.mp hlease, h₂.2⟩

theorem performs_resumeDrain (released : Option LeaseReceipt) :
    Performs (.resume snapshot released) (resumeDrain snapshot released) := by
  refine fun db => (gives_resumeDrain snapshot released).mono fun _ db' h => ?_
  obtain ⟨hstored, hearly, hstate, hlease, heq⟩ := h
  have hne : "accepted" ≠ "stopping" := by decide
  rw [heq, ← hlease]
  exact moves_of_control hstored (.resume hearly hstate rfl) (.inr hne)

theorem performs_recordDrainProblem (code message : String) :
    Performs act (recordDrainProblem snapshot code message) := by
  refine performs_early fun db hstored hearly => ?_
  refine .failIf_bind fun hstate => .ite (fun _ => .pure (.refl _)) fun _ => ?_
  have hstep : ControlStep act snapshot _ := .reserve code message hearly
  rw [← not_not.mp hstate] at hstep
  exact moves_then (performs_rewrite hstored (fun _ => hstep) (.inl rfl)) quiet_readControl

theorem performs_failUnrecoverable (code message : String) :
    Performs act (failUnrecoverable snapshot code message) := by
  refine performs_early fun db hstored hearly => .failIf_bind fun _ => ?_
  exact moves_then (performs_rewrite hstored
    (fun _ => .fail code message (ControlRecord.recovering_of_drain hearly)) (.inl rfl))
    quiet_readControl

/-! ### Deadlines -/

theorem quiet_bindDeadline (deadlineMs : Int) : Quiet (bindDeadline snapshot deadlineMs) := by
  intro db
  refine .failIf_bind fun _ => ?_
  refine (quiet_claimApp _ db).bind fun _ db₁ h₁ => .get_bind ?_
  rw [← h₁]
  cases db₁.controlDeadlines.find? snapshot.operationId with
  | some => exact .failIf_bind fun _ => .pure rfl
  | none =>
    refine (gives_readControl _ _).query_bind fun control _ => ?_
    exact .failIf_bind fun _ => .update_bind (.pure rfl)

theorem performs_expire (code message : String) (unheldMs nowMs : Int) :
    Performs act (expire snapshot code message unheldMs nowMs) := by
  refine .claimed fun db₁ => ?_
  refine (gives_readControl _ _).query_bind fun control ⟨hstored, hid, _⟩ => ?_
  refine .failIf_bind fun hsame => .reads_bind fun _ _ => ?_
  obtain rfl := not_not.mp (not_or.mp hsame).1
  exact moves_then (performs_rewrite hstored (fun hrec => .fail code message hrec)
    (.inl rfl)) quiet_readControl

theorem quiet_markUnheld (observedMs : Int) : Quiet (markUnheld snapshot observedMs) := by
  intro db
  refine .get_bind (.demand_bind fun row _ => .failIf_bind fun _ => ?_)
  cases row.unheldObservedMs with
  | some => exact .pure rfl
  | none =>
    refine (gives_readControl _ _).query_bind fun control _ => ?_
    exact .failIf_bind fun _ => .update_bind (.pure rfl)

theorem quiet_clearUnheld : Quiet (clearUnheld snapshot) := by
  intro db
  refine .get_bind ?_
  cases db.controlDeadlines.find? snapshot.operationId with
  | none => exact .pure rfl
  | some => exact .update rfl

end Execution

end Rcoder.Lifecycle
