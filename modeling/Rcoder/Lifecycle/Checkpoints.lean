import Rcoder.Lifecycle.Journal

/-!
# Evidence kept in checkpoints

A failure may add the record of a released fence to the checkpoint of an operation and nothing
else, so a checkpoint that still reads as strict evidence is the one from before. Every kind with
evidence has its own rule for the next report; `Domain.Valid` collects the rules that an accepted
report has passed.
-/

namespace Rcoder.Lifecycle

open Effect Ledger Check Domain OperationRecord

/-- Whatever reads as strict evidence after a failure was there before it. -/
theorem Domain.failureCheckpointPreserved_strict {α : Type} {r : Json.Record α}
    {previous next : Json} {evidence : α} (h : failureCheckpointPreserved previous next = true)
    (hread : Json.strict r next = some evidence) (hname : fenceReleasedEvidenceKey ∉ r.names)
    (hnil : r.fromObject .nil = none) : previous = next := by
  simp only [failureCheckpointPreserved, Bool.or_eq_true, decide_eq_true_eq] at h
  obtain rfl | h := h
  · rfl
  cases next with
  | obj fields =>
    have hkey : fenceReleasedEvidenceKey ∉ fields.keys :=
      fun hmem => hname (Json.strict_keys hread _ hmem)
    simp only [Json.Fields.erase_of_not_mem hkey, Bool.or_eq_true, Bool.and_eq_true,
      decide_eq_true_eq] at h
    obtain ⟨-, rfl⟩ | rfl := h
    · simp [Json.strict, hnil] at hread
    · rfl
  | null | bool | num | str | arr => simp at h

structure Domain.Valid (app : LifecycleRecord) (operation : OperationRecord)
    (progress : OperationProgress) : Prop where
  state : progress.state ≠ .pending
  deletion : Domain.validateDeletionProgress operation progress = .ok ()
  destruction : Domain.validateStorageDestructionProgress operation progress = .ok ()
  clear : Domain.validateStorageClearProgress app operation progress = .ok ()
  password : Domain.validateDatabasePasswordProgress operation progress = .ok ()
  preparation : Domain.validateDatabasePreparationProgress operation progress = .ok ()

variable {app : LifecycleRecord} {operation : OperationRecord}

theorem Domain.validateProgress_ok {progress : OperationProgress}
    (h : validateProgress app operation progress = .ok ()) : Valid app operation progress := by
  obtain ⟨hstate, h⟩ := failIf_bind h
  obtain ⟨-, h⟩ := failIf_bind h
  obtain ⟨_, hdeletion, h⟩ := bind_eq_ok.mp h
  obtain ⟨_, hdestruction, h⟩ := bind_eq_ok.mp h
  obtain ⟨_, hclear, h⟩ := bind_eq_ok.mp h
  obtain ⟨_, hpassword, hpreparation⟩ := bind_eq_ok.mp h
  exact ⟨fun hs => hstate (.inr (.inl hs)), hdeletion, hdestruction, hclear, hpassword,
    hpreparation⟩

/-- The kinds that recovery closes or continues only over their own evidence. -/
def OperationKind.evidenced (kind : OperationKind) : Bool :=
  kind ≠ .ensureBuilder && kind ≠ .prepareProdDatabase && !kind.supportsHotDeployment

/-- Recovery puts an evidenced record back to running only over its final evidence. -/
theorem OperationRecord.final_of_resumed (hkind : operation.kind.evidenced = true)
    (h : operation.hasDrainEvidence = true ∨ operation.hasDeploymentUpdateReceipt = true) :
    operation.hasFinalEvidence = true := by
  simp only [OperationKind.evidenced, Bool.and_eq_true, decide_eq_true_eq] at hkind
  obtain ⟨⟨hbuilder, -⟩, hdeploy⟩ := hkind
  obtain h | h := h
  · simpa [hasDrainEvidence, hbuilder] using h
  · unfold hasDeploymentUpdateReceipt at h
    split at h
    · rename_i restart inputDigest servingRecovery hcommand
      simp only [Bool.and_eq_true, decide_eq_true_eq] at h
      obtain ⟨⟨⟨⟨⟨hk, -⟩, -⟩, -⟩, -⟩, -⟩ := h
      rw [← hk] at hdeploy
      cases restart <;> cases servingRecovery <;> cases hdeploy
    · cases h

inductive Recovers (operation : OperationRecord) : OperationRecord → Prop
  | fails {operation' : OperationRecord} (failed : operation'.state = .failed) :
      Recovers operation operation'
  | resumes (live : operation.state = .running ∨ operation.state = .recoveryRequired)
      (final : operation.hasFinalEvidence = true) :
      Recovers operation { operation with state := .running, revision := operation.revision + 1 }
  | inspects (code message : String) (live : operation.state = .running ∨
        operation.state = .waitingRetry ∨ operation.state = .recoveryRequired) :
      Recovers operation
        { operation with
          state := .recoveryRequired
          revision := operation.revision + 1
          errorCode := some code
          errorMessage := some message }

/-- Password writes apart, a step without a report is one of these three. -/
theorem OperationStep.recovers {act : Act} {operation' : OperationRecord}
    (h : OperationStep act app operation operation') (hact : ∀ progress, act ≠ .advance progress)
    (hkind : operation.kind.evidenced = true)
    (hpassword : operation.kind ≠ .resetDevDatabasePassword ∧
      operation.kind ≠ .resetProdDatabasePassword) : Recovers operation operation' := by
  have hkinds := hkind
  simp only [OperationKind.evidenced, Bool.and_eq_true, decide_eq_true_eq] at hkinds
  obtain ⟨⟨hbuilder, hprepare⟩, hdeploy⟩ := hkinds
  cases h with
  | @report progress _ _ by_advance advanced =>
    obtain hadv | hfailed := by_advance
    · exact absurd hadv (hact progress)
    · exact .fails (advanced.state.trans hfailed)
  | @hop progress _ _ recovering outcome advanced =>
    cases hs : progress.state with
    | failed => exact .fails (advanced.state.trans hs)
    | running =>
      rw [hs] at outcome
      exact absurd outcome hprepare
    | succeeded =>
      rw [hs] at outcome
      rw [outcome] at hdeploy
      cases hdeploy
    | pending | waitingRetry | recoveryRequired =>
      rw [hs] at outcome
      exact outcome.elim
  | twice _ _ _ outcome =>
    obtain ⟨hk | hk, -⟩ | ⟨hk | hk, -⟩ := outcome
    · exact absurd hk hpassword.1
    · exact absurd hk hpassword.2
    · rw [hk] at hdeploy
      cases hdeploy
    · rw [hk] at hdeploy
      cases hdeploy
  | resume recovering evidence =>
    exact .resumes (Recovery.isRecovering_live recovering)
      (final_of_resumed hkind evidence)
  | inspect code message live => exact .inspects code message live
  | observe _ _ kind => exact absurd kind hbuilder
  | cancel => exact .fails rfl

end Rcoder.Lifecycle
