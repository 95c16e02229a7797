import Rcoder.Lifecycle.Checkpoints

/-!
# The order of deletions

A deletion records the resources it captured, then each boundary it has confirmed, and succeeds
at the last one of its kind. The evidence itself is the stage, which no failure, inspection or
recovery can move, so the order holds in every history. The application is deleted by the success
of its deletion and by nothing else.
-/

namespace Rcoder.Lifecycle

open Effect Ledger Check Domain DeletionCheckpoint OperationKind

/-- The boundaries up to the given one. -/
def DeletionStage.upTo : DeletionStage → List DeletionStage
  | .captured => [.captured]
  | .computeRemoved => [.captured, .computeRemoved]
  | .productionStorageRemoved => [.captured, .computeRemoved, .productionStorageRemoved]
  | .developmentRemoved =>
    [.captured, .computeRemoved, .productionStorageRemoved, .developmentRemoved]

theorem DeletionStage.upTo_of_precedes {stage next : DeletionStage}
    (h : stagePrecedes stage next = true) : next.upTo = stage.upTo ++ [next] := by
  cases stage <;> cases next <;> simp [stagePrecedes] at h <;> rfl

/-! ### One report -/

inductive DeletionReport (operation : OperationRecord) (progress : OperationProgress) : Prop
  | fails (failure : Domain.isFailure progress.state = true)
      (kept : Domain.failureCheckpointPreserved operation.checkpoint progress.checkpoint = true)
  | claims (running : progress.state = .running) (blank : progress.checkpoint = .null)
  | captures {next : DeletionCheckpoint} (running : progress.state = .running)
      (typed : DeletionCheckpoint.read progress.checkpoint = some next)
      (valid : next.validateOperation operation = .ok ()) (stage : next.stage = .captured)
  | confirms {previous next : DeletionCheckpoint} (running : progress.state = .running)
      (before : DeletionCheckpoint.read operation.checkpoint = some previous)
      (typed : DeletionCheckpoint.read progress.checkpoint = some next)
      (valid : next.validateOperation operation = .ok ())
      (same : { next with stage := previous.stage } = previous)
      (order : Domain.stagePrecedes previous.stage next.stage = true)
  | succeeds {next : DeletionCheckpoint} (succeeded : progress.state = .succeeded)
      (before : DeletionCheckpoint.read operation.checkpoint = some next)
      (typed : DeletionCheckpoint.read progress.checkpoint = some next)
      (valid : next.validateOperation operation = .ok ())
      (last : next.stage = operation.kind.finalDeletionStage)

variable {operation operation' : OperationRecord} {progress : OperationProgress}
  {app app' : LifecycleRecord} {evidence : DeletionCheckpoint} {act : Act} {L L' : Ledger}

theorem validateDeletionProgress_ok
    (h : validateDeletionProgress operation progress = .ok ())
    (hkind : operation.kind.isDeletion = true) : DeletionReport operation progress := by
  unfold validateDeletionProgress at h
  rw [if_neg (by rw [hkind]; nofun)] at h
  split at h
  · exact .fails ‹_› (by simpa using failIf_eq_ok.mp h)
  split at h
  · rename_i hblank
    exact .claims hblank.1 hblank.2.1
  obtain ⟨next, hnext, h⟩ := demand_bind h
  obtain ⟨_, hvalid, h⟩ := bind_eq_ok.mp h
  have hvalid := mapFailure_eq_ok.mp hvalid
  split at h
  · obtain ⟨hrunning, hstage⟩ := not_or.mp (failIf_eq_ok.mp h)
    exact .captures (not_not.mp hrunning) hnext hvalid (not_not.mp hstage)
  · obtain ⟨previous, hprevious, h⟩ := demand_bind h
    obtain ⟨hsame, h⟩ := failIf_bind h
    have hsame := not_not.mp hsame
    split at h
    · rename_i hsucceeded
      obtain ⟨hlast, hfirst⟩ := not_or.mp (failIf_eq_ok.mp h)
      have hlast := not_not.mp hlast
      obtain rfl : next = previous := by
        rw [← hsame, not_not.mp hfirst, ← hlast]
      exact .succeeds hsucceeded hprevious hnext hvalid hlast
    · obtain ⟨hrunning, horder⟩ := not_or.mp (failIf_eq_ok.mp h)
      exact .confirms (not_not.mp hrunning) hprevious hnext hvalid hsame (by simpa using horder)

theorem Domain.Advanced.deletion (h : Advanced app operation progress app' operation')
    (hkind : operation.kind.isDeletion = true) :
    DeletionReport (underExecutor operation progress.executorId) progress :=
  validateDeletionProgress_ok (validateProgress_ok h.valid).deletion hkind

theorem deletion_kept {previous next : Json} (h : failureCheckpointPreserved previous next = true)
    (hread : read next = some evidence) : read previous = some evidence := by
  rw [failureCheckpointPreserved_strict h hread (by decide) rfl]
  exact hread

/-! ### Whole histories -/

/-- The boundaries up to the stage of the evidence were confirmed in order, each by a report of a
running executor that carried the evidence at that stage. -/
def ConfirmedStages (reports : List OperationProgress) (evidence : DeletionCheckpoint) : Prop :=
  ∃ confirming : List OperationProgress, confirming.Sublist reports ∧
    (∀ report ∈ confirming, report.state = .running) ∧
    confirming.map (fun report => DeletionCheckpoint.read report.checkpoint) =
      evidence.stage.upTo.map fun stage => some { evidence with stage }

theorem ConfirmedStages.mono {reports reports' : List OperationProgress}
    (h : ConfirmedStages reports evidence)
    (hsub : reports.Sublist reports') : ConfirmedStages reports' evidence := by
  obtain ⟨confirming, hconfirming, hrest⟩ := h
  exact ⟨confirming, hconfirming.trans hsub, hrest⟩

theorem ConfirmedStages.confirm {reports : List OperationProgress}
    {previous next : DeletionCheckpoint} (h : ConfirmedStages reports previous)
    (hrunning : progress.state = .running) (hread : read progress.checkpoint = some next)
    (hsame : { next with stage := previous.stage } = previous)
    (horder : stagePrecedes previous.stage next.stage = true) :
    ConfirmedStages (reports ++ [progress]) next := by
  obtain ⟨confirming, hsub, hall, hmap⟩ := h
  refine ⟨confirming ++ [progress], hsub.append (.refl _), fun report hr => ?_, ?_⟩
  · obtain hr | hr := List.mem_append.mp hr
    · exact hall report hr
    · rw [List.mem_singleton.mp hr]
      exact hrunning
  · rw [List.map_append, hmap, DeletionStage.upTo_of_precedes horder, List.map_append, ← hsame]
    simp [hread]

/-- A deletion and the reports on it, until it fails. -/
structure DeletionHistory (reports : List OperationProgress) (operation : OperationRecord) :
    Prop where
  recorded : operation.state ≠ .failed → ∀ evidence,
    DeletionCheckpoint.read operation.checkpoint = some evidence →
    ConfirmedStages reports evidence
  succeeded : operation.state = .succeeded → ∃ earlier last evidence,
    reports = earlier ++ [last] ∧ last.state = .succeeded ∧
    DeletionCheckpoint.read operation.checkpoint = some evidence ∧
    evidence.stage = operation.kind.finalDeletionStage ∧ ConfirmedStages earlier evidence

namespace DeletionHistory

variable {reports : List OperationProgress} {operation operation' : OperationRecord}
  {app app' : LifecycleRecord} {progress : OperationProgress}

theorem report (h : DeletionHistory reports operation) (hkind : operation.kind.isDeletion = true)
    (hadv : Advanced app operation progress app' operation') :
    DeletionHistory (reports ++ [progress]) operation' := by
  have hstate := hadv.state
  have hc := hadv.checkpoint_eq
  have hlive : operation.state ≠ .failed := by
    intro hs
    have hlive := hadv.progress_running_or
    rw [hs] at hlive
    cases hlive
  have hsub : reports.Sublist (reports ++ [progress]) := List.sublist_append_left ..
  cases hadv.deletion hkind with
  | fails failure kept =>
    refine ⟨fun _ evidence hread => ?_, fun hs => ?_⟩
    · rw [hc] at hread
      exact (h.recorded hlive evidence (deletion_kept kept hread)).mono hsub
    · rw [← hstate, hs] at failure
      cases failure
  | claims running blank =>
    refine ⟨fun _ evidence hread => ?_, fun hs => ?_⟩
    · rw [hc, blank] at hread
      cases hread
    · rw [hstate, running] at hs
      cases hs
  | @captures next running typed _ stage =>
    refine ⟨fun _ evidence hread => ?_, fun hs => ?_⟩
    · rw [hc, typed] at hread
      obtain rfl := Option.some.inj hread
      refine ⟨[progress], List.sublist_append_right .., by simpa using running, ?_⟩
      rw [stage]
      simp [DeletionStage.upTo, typed, ← stage]
    · rw [hstate, running] at hs
      cases hs
  | @confirms previous next running before typed _ same order =>
    refine ⟨fun _ evidence hread => ?_, fun hs => ?_⟩
    · rw [hc, typed] at hread
      obtain rfl := Option.some.inj hread
      exact (h.recorded hlive previous before).confirm running typed same order
    · rw [hstate, running] at hs
      cases hs
  | @succeeds next succeeded before typed _ last =>
    have hconfirmed := h.recorded hlive next before
    refine ⟨fun _ evidence hread => ?_, fun _ => ?_⟩
    · rw [hc, typed] at hread
      obtain rfl := Option.some.inj hread
      exact hconfirmed.mono hsub
    · refine ⟨reports, progress, next, rfl, succeeded, by rw [hc]; exact typed, ?_, hconfirmed⟩
      rw [hadv.kind_eq]
      exact last

theorem recovers (h : DeletionHistory reports operation)
    (hstep : Recovers operation operation') : DeletionHistory reports operation' := by
  cases hstep with
  | fails failed =>
    refine ⟨fun hne => absurd failed hne, fun hs => ?_⟩
    rw [failed] at hs
    cases hs
  | resumes live =>
    refine ⟨fun _ => h.recorded ?_, nofun⟩
    obtain hs | hs := live <;> rw [hs] <;> nofun
  | inspects code message live =>
    refine ⟨fun _ => h.recorded ?_, nofun⟩
    obtain hs | hs | hs := live <;> rw [hs] <;> nofun

end DeletionHistory

theorem OperationKind.isDeletion_cases {kind : OperationKind} (h : kind.isDeletion = true) :
    kind = .deleteCompute ∨ kind = .purgeResources ∨ kind = .deleteApplication := by
  simpa [isDeletion, or_assoc] using h

theorem Run.deletionHistory {ok : Store → Op → Prop} {tr : List (Op × Except StoreError Answer)}
    {s : Store} (hr : store.Run ok {} tr s) :
    Reports (fun reports operation => operation.kind.isDeletion = true →
      DeletionHistory reports operation) (fun id => accepted id tr) s.ledger.operation := by
  refine Run.reports ?_ ?_ ?_ hr
  · intro operation hnew _
    refine ⟨fun _ evidence hread => ?_, fun hs => ?_⟩
    · rw [hnew.checkpoint] at hread
      cases hread
    · rw [hnew.pending] at hs
      cases hs
  · intro s op progress ps app app' before after _ _ _ h hadv hkind
    rw [hadv.kind_eq] at hkind
    exact (h hkind).report hkind hadv
  · intro act ps app before after hact h hstep hkind
    obtain ⟨-, -, -, -, hk⟩ := mergeProgress_same hstep.merge
    rw [hk] at hkind
    refine (h hkind).recovers (hstep.recovers hact ?_ ?_)
    · obtain hs | hs | hs := isDeletion_cases hkind <;> rw [hs] <;> rfl
    · obtain hs | hs | hs := isDeletion_cases hkind <;> rw [hs] <;>
        exact ⟨nofun, nofun⟩

/-! ### Deletions of the compute alone -/

/-- The evidence of a deletion of the compute alone never says more than that. -/
def ComputeOnly (operation : OperationRecord) : Prop :=
  operation.kind = .deleteCompute → ∀ evidence,
    DeletionCheckpoint.read operation.checkpoint = some evidence →
    evidence.stage = .captured ∨ evidence.stage = .computeRemoved

theorem DeletionCheckpoint.stage_of_valid (h : evidence.validateOperation operation = .ok ())
    (hkind : operation.kind = .deleteCompute) :
    evidence.stage = .captured ∨ evidence.stage = .computeRemoved := by
  obtain ⟨_, hvalid, h⟩ := bind_eq_ok.mp h
  obtain ⟨-, -, hk⟩ := not_not.mp (failIf_eq_ok.mp h)
  obtain ⟨-, hvalid⟩ := failIf_bind hvalid
  obtain ⟨_, -, hvalid⟩ := bind_eq_ok.mp hvalid
  obtain ⟨-, hvalid⟩ := failIf_bind hvalid
  obtain ⟨-, hvalid⟩ := failIf_bind hvalid
  obtain ⟨hstage, -⟩ := failIf_bind hvalid
  rw [hkind] at hk
  cases hs : evidence.stage with
  | captured => exact .inl rfl
  | computeRemoved => exact .inr rfl
  | productionStorageRemoved => exact absurd ⟨by simp [hk], .inl hs⟩ hstage
  | developmentRemoved => exact absurd ⟨by simp [hk], .inr hs⟩ hstage

theorem ComputeOnly.report (h : ComputeOnly operation)
    (hadv : Advanced app operation progress app' operation') : ComputeOnly operation' := by
  intro hkind evidence hread
  have hk : operation.kind = .deleteCompute := hadv.kind_eq.symm.trans hkind
  rw [hadv.checkpoint_eq] at hread
  have hvalid {next : DeletionCheckpoint}
      (typed : read progress.checkpoint = some next)
      (valid : next.validateOperation (underExecutor operation progress.executorId) =
        .ok ()) : evidence.stage = .captured ∨ evidence.stage = .computeRemoved := by
    cases typed.symm.trans hread
    exact stage_of_valid valid hk
  cases hadv.deletion (by rw [hk]; rfl) with
  | fails _ kept => exact h hk evidence (deletion_kept kept hread)
  | claims _ blank =>
    rw [blank] at hread
    cases hread
  | captures _ typed valid => exact hvalid typed valid
  | confirms _ _ typed valid => exact hvalid typed valid
  | succeeds _ _ typed valid => exact hvalid typed valid

theorem ComputeOnly.step (h : ComputeOnly operation)
    (hstep : OperationStep act app operation operation') : ComputeOnly operation' := by
  cases hstep with
  | report _ advanced => exact h.report advanced
  | hop _ _ advanced =>
    have hhop : ComputeOnly (Recovery.hop operation) := h
    exact hhop.report advanced
  | twice _ _ _ _ advanced closed =>
    have hhop : ComputeOnly (Recovery.hop operation) := h
    exact (hhop.report advanced).report closed
  | resume | inspect => exact h
  | observe _ _ kind =>
    intro hkind
    rw [kind] at hkind
    cases hkind
  | cancel =>
    intro _ evidence hread
    have hkey : ("compute_operation_id" : String) ∈ fields.names :=
      Json.strict_keys hread _ (by simp)
    exact absurd hkey (by decide)

/-! ### Deleted applications -/

/-- No application of this name is deleted. -/
def Ledger.Undeleted (L : Ledger) (appId : String) : Prop :=
  ∀ app, L.Holds app → app.appId = appId → app.state ≠ .deleted

variable {appId : String}

theorem Ledger.Undeleted.put (h : L.Undeleted appId) (hroot : L'.root = (L.put app).root)
    (hslots : L'.slots = (L.put app).slots) (hstate : app.appId = appId → app.state ≠ .deleted) :
    L'.Undeleted appId := by
  intro other ho hid
  rw [Holds, hroot, hslots] at ho
  obtain rfl | ⟨-, ho⟩ := L.holds_put_iff.mp ho
  · exact hstate hid
  · exact h other ho hid

/-- A success outside of the executor's own reports is no deletion. -/
theorem OperationStep.succeeded_elsewhere (h : OperationStep act app operation operation')
    (hact : ∀ progress, act ≠ .advance progress) (hs : operation'.state = .succeeded) :
    operation.kind.endsLifecycle = false := by
  by_contra hends
  have hkind : operation.kind = .deleteApplication := by
    simpa [endsLifecycle] using hends
  have hrecovers := h.recovers hact (by rw [hkind]; rfl)
    (by rw [hkind]; exact ⟨(by rintro ⟨⟩), (by rintro ⟨⟩)⟩)
  cases hrecovers with
  | fails failed =>
    rw [failed] at hs
    cases hs
  | resumes | inspects => cases hs

theorem Ledger.Undeleted.move (h : L.Undeleted appId) (hm : Move act L L')
    (hact : ∀ progress, act ≠ .advance progress) : L'.Undeleted appId := by
  have hfollows : ∀ {app app' : LifecycleRecord} {operation operation' : OperationRecord},
      L.InSlot app operation → OperationStep act app operation operation' →
      Follows app operation operation'.state app' → app'.appId = appId →
      app'.state ≠ .deleted := by
    intro app app' operation operation' hin hstep hfollows hid
    have hbefore := h app hin.holds (hfollows.same.appId.symm.trans hid)
    cases hends : operation'.state.isTerminal with
    | false =>
      rw [hfollows.of_live hends]
      exact hbefore
    | true =>
      rw [(hfollows.of_terminal hends).state, closedState]
      by_cases hs : operation'.state = .succeeded
      · rw [if_neg (by rw [hstep.succeeded_elsewhere hact hs]; rintro ⟨⟩)]
        exact hbefore
      · split
        · rintro ⟨⟩
        · exact hbefore
  cases hm with
  | openRoot _ _ start => exact h.put rfl rfl fun _ => by rw [start.state]; rintro ⟨⟩
  | patch holds same state =>
    refine h.put rfl rfl fun hid => ?_
    rw [state]
    exact h _ holds (same.appId.symm.trans hid)
  | accept holds _ accepted =>
    refine h.put rfl rfl fun hid => ?_
    obtain ⟨patched, hsame, hstate, -, rfl, -⟩ := accepted.application
    have hbefore := h _ holds (hsame.appId.symm.trans hid)
    simp only [occupy]
    split
    · rintro ⟨⟩
    · rw [hstate]
      exact hbefore
  | step inSlot _ step follows => exact h.put rfl rfl (hfollows inSlot step follows)
  | touch inSlot _ step follows => exact h.put rfl rfl (hfollows inSlot step follows)
  | recreate _ _ _ _ following =>
    exact h.put rfl rfl fun _ => by rw [following.state]; rintro ⟨⟩
  | rebind _ _ _ _ following =>
    exact h.put rfl rfl fun _ => by rw [following.state]; rintro ⟨⟩
  | @admitControl _ _ _ old => cases old <;> exact h
  | nameRequest | bindLease | forgetLease | openHead | control | release => exact h

theorem Ledger.Advances.deletes (h : L.Advances progress operation L')
    (hundeleted : L.Undeleted app'.appId) (ha : L'.Holds app') (hdeleted : app'.state = .deleted) :
    ∃ id before after, L.operation id = some before ∧ before.kind = .deleteApplication ∧
      before.appId = app'.appId ∧ before.state.isTerminal = false ∧
      L'.operation id = some after ∧ after.state = .succeeded := by
  rw [h.written] at ha
  have hadv := h.advanced
  obtain rfl : app' = h.app' := by
    obtain heq | ⟨-, ha⟩ := (L.setOperation operation).holds_put_iff.mp ha
    · exact heq
    · exact absurd hdeleted (hundeleted app' ha rfl)
  have hwritten : L'.operation operation.operationId = some operation := by
    rw [h.written]
    exact operation_setOperation_self L operation
  have hsame := hadv.follows.same
  have hbefore := hundeleted h.app h.inSlot.holds hsame.appId.symm
  have hcloses : Closes h.app h.before operation.state h.app' := by
    cases hends : operation.state.isTerminal with
    | true => exact hadv.follows.of_terminal hends
    | false =>
      rw [hadv.follows.of_live hends] at hdeleted
      exact absurd hdeleted hbefore
  have hclosed := hcloses.state
  rw [hdeleted, closedState] at hclosed
  split at hclosed
  · rename_i hends
    split at hclosed
    · rename_i hsucceeded
      refine ⟨h.before.operationId, h.before, operation, h.inSlot.stored, ?_,
        h.inSlot.sameApp.trans hsame.appId.symm, hadv.progress_running_or, ?_, hsucceeded⟩
      · simpa [endsLifecycle] using hends
      · rw [← (mergeProgress_same hadv.merge).1]
        exact hwritten
    · cases hclosed
  · exact absurd hclosed.symm hbefore

structure DeletionsInOrder (tr : List (Op × Except StoreError Answer)) (s : Store) : Prop where
  succeeded : ∀ id operation, s.ledger.operation id = some operation →
    operation.kind.isDeletion = true → operation.state = .succeeded →
    ∃ earlier last evidence, accepted id tr = earlier ++ [last] ∧ last.state = .succeeded ∧
      (accepted id tr).Pairwise (fun report later =>
        report.expectedRevision < later.expectedRevision) ∧
      DeletionCheckpoint.read operation.checkpoint = some evidence ∧
      evidence.stage = operation.kind.finalDeletionStage ∧ ConfirmedStages earlier evidence
  computeOnly : ∀ id operation, s.ledger.operation id = some operation →
    ∀ version ∈ versions OperationRecord.operationId s.history.operations id, ComputeOnly version
  deleted : ∀ op app', (store.exec s op).2.ledger.Holds app' → app'.state = .deleted →
    s.ledger.Undeleted app'.appId → ∃ id before after,
      s.ledger.operation id = some before ∧ before.kind = .deleteApplication ∧
      before.appId = app'.appId ∧ before.state.isTerminal = false ∧
      (store.exec s op).2.ledger.operation id = some after ∧ after.state = .succeeded

theorem deletions_in_order {ok : Store → Op → Prop} {tr : List (Op × Except StoreError Answer)}
    {s : Store} (hr : store.Run ok {} tr s) : DeletionsInOrder tr s := by
  refine ⟨fun id operation ho hkind hs => ?_, fun id operation ho version hv => ?_,
    fun op app' ha hdeleted hundeleted => ?_⟩
  · obtain ⟨earlier, last, evidence, hreports, hlast, hread, hstage, hconfirmed⟩ :=
      ((Run.deletionHistory hr).of_some ho hkind).succeeded hs
    exact ⟨earlier, last, evidence, hreports, hlast, ((Run.reports_increasing hr).of_some ho).1,
      hread, hstage, hconfirmed⟩
  · refine ((Run.operationsLogged hr).versions_of_some ho).forall_mem ?_ ?_ version hv
    · intro first hnew _ evidence hread
      rw [hnew.checkpoint] at hread
      cases hread
    · rintro a b h ⟨act, app, step⟩
      exact h.step step
  · obtain ⟨progress, operation, -, -, ⟨hadv⟩⟩ | ⟨-, act, hact, hmoves⟩ := store_reports s op
    · exact hadv.deletes hundeleted ha hdeleted
    · have hkeeps : (store.exec s op).2.ledger.Undeleted app'.appId :=
        hmoves.keeps (P := fun L => L.Undeleted app'.appId) hundeleted fun _ _ hm h =>
          h.move hm hact
      exact absurd hdeleted (hkeeps app' ha rfl)

def Sample.deletion (stage : String) : Json :=
  .object
    [("stage", .str stage), ("schema_version", .num 1), ("kind", .str "DeleteCompute"),
      ("context", Sample.context "delete"), ("production", Sample.production "delete")]

def orderlyDeletion : List Op :=
  [.admitWithConfiguration (Sample.admission "delete" (.deleteResources false none)) none none
      Sample.fresh,
    .advance (Sample.progress "delete" 1 .running "captured" (Sample.deletion "captured")),
    .advance
      (Sample.progress "delete" 2 .running "compute_removed" (Sample.deletion "compute_removed")),
    .advance
      (Sample.progress "delete" 3 .succeeded "deleted" (Sample.deletion "compute_removed"))]

theorem deletions_in_order_compute :
    DeletionsInOrder (store.trace {} orderlyDeletion) (store.after {} orderlyDeletion) ∧
      ((store.after {} orderlyDeletion).ledger.operation "delete").any (fun operation =>
        operation.kind = .deleteCompute ∧ operation.state = .succeeded) = true :=
  ⟨deletions_in_order (.of_follows (Machine.follows_of_forall fun _ _ _ => trivial)),
    by decide +kernel⟩

end Rcoder.Lifecycle
