import Rcoder.Lifecycle.Checkpoints

/-!
# The order of password resets

A password reset captures its target, submits the write, and verifies or cancels it. A reset
whose write was submitted has an unknown outcome until one of the two is recorded, by its
executor or by the recovery that finalizes it in one transaction.
-/

namespace Rcoder.Lifecycle

open Effect Ledger Check OperationRecord Domain DatabasePasswordEvidence List

def OperationKind.isPasswordReset (kind : OperationKind) : Bool :=
  kind = .resetDevDatabasePassword || kind = .resetProdDatabasePassword

def DatabasePasswordStage.upTo : DatabasePasswordStage → List DatabasePasswordStage
  | .captured => [.captured]
  | .writeSubmitted => [.captured, .writeSubmitted]
  | .verified => [.captured, .writeSubmitted, .verified]
  | .cancelled => [.captured, .writeSubmitted, .cancelled]

def OperationRecord.passwordEvidence (operation : OperationRecord) :
    Option DatabasePasswordEvidence :=
  DatabasePasswordEvidence.read operation.checkpoint

/-- The evidence goes on: nothing but its stage changes, and that only forward. -/
structure DatabasePasswordEvidence.Continues (before after : DatabasePasswordEvidence) :
    Prop where
  same : after = { before with stage := after.stage }
  forward : before.stage.upTo <+: after.stage.upTo

theorem DatabasePasswordEvidence.Continues.refl (evidence : DatabasePasswordEvidence) :
    evidence.Continues evidence :=
  ⟨rfl, prefix_rfl⟩

theorem DatabasePasswordEvidence.Continues.trans {a b c : DatabasePasswordEvidence}
    (h : a.Continues b) (h' : b.Continues c) : a.Continues c :=
  ⟨by rw [h'.same, h.same], h.forward.trans h'.forward⟩

/-- The evidence of a record lasts. -/
def KeepsPassword (operation operation' : OperationRecord) : Prop :=
  ∀ evidence, operation.passwordEvidence = some evidence → ∃ evidence',
    operation'.passwordEvidence = some evidence' ∧ evidence.Continues evidence'

variable {operation operation' : OperationRecord} {progress : OperationProgress}
  {app : LifecycleRecord}

theorem OperationRecord.passwordEvidence_null (h : operation.checkpoint = .null) :
    operation.passwordEvidence = none := by
  rw [passwordEvidence, h]
  rfl

theorem KeepsPassword.of_eq
    (h : operation'.checkpoint = operation.checkpoint) : KeepsPassword operation operation' := by
  intro evidence hread
  refine ⟨evidence, ?_, .refl evidence⟩
  rw [passwordEvidence, h]
  exact hread

theorem KeepsPassword.trans {a b c : OperationRecord} (h : KeepsPassword a b)
    (h' : KeepsPassword b c) : KeepsPassword a c := by
  intro evidence hread
  obtain ⟨evidence', hread', hcontinues⟩ := h evidence hread
  obtain ⟨last, hlast, hrest⟩ := h' evidence' hread'
  exact ⟨last, hlast, hcontinues.trans hrest⟩

/-! ### One report -/

inductive PasswordReport (operation : OperationRecord) (progress : OperationProgress) : Prop
  | blank (empty : operation.checkpoint = .null)
      (untyped : DatabasePasswordEvidence.read progress.checkpoint = none)
      (open_ : progress.state ≠ .succeeded)
  | captures {evidence : DatabasePasswordEvidence} (empty : operation.checkpoint = .null)
      (running : progress.state = .running)
      (typed : DatabasePasswordEvidence.read progress.checkpoint = some evidence)
      (stage : evidence.stage = .captured)
  | goesOn {before after : DatabasePasswordEvidence}
      (typed : DatabasePasswordEvidence.read operation.checkpoint = some before)
      (typed' : DatabasePasswordEvidence.read progress.checkpoint = some after)
      (same : after = { before with stage := after.stage })
      (allowed : Domain.passwordStepAllowed progress.state before after = true)

theorem validateDatabasePasswordProgress_ok
    (h : validateDatabasePasswordProgress operation progress = .ok ())
    (hkind : operation.kind.isPasswordReset = true) : PasswordReport operation progress := by
  have hkind : ¬(operation.kind ≠ .resetDevDatabasePassword ∧
      operation.kind ≠ .resetProdDatabasePassword) := by
    simp only [OperationKind.isPasswordReset, Bool.or_eq_true, decide_eq_true_eq] at hkind
    tauto
  unfold validateDatabasePasswordProgress at h
  rw [if_neg hkind] at h
  split at h
  · rename_i hempty
    split at h
    · rename_i hkept
      have hfails : withoutEvidence progress = true := by
        simpa using failIf_eq_ok.mp h
      refine .blank hempty ?_ ?_
      · cases hread : read progress.checkpoint with
        | none => rfl
        | some =>
          have hsame := failureCheckpointPreserved_strict hkept hread (by decide) rfl
          rw [← hsame, hempty] at hread
          cases hread
      · intro hs
        simp [withoutEvidence, isFailure, hs] at hfails
    · obtain ⟨evidence, hread, h⟩ := demand_bind h
      obtain ⟨_, -, h⟩ := bind_eq_ok.mp h
      obtain ⟨hrunning, hstage⟩ := not_not.mp (failIf_eq_ok.mp h)
      exact .captures hempty hrunning hread hstage
  · obtain ⟨before, hbefore, h⟩ := demand_bind h
    obtain ⟨after, hafter, h⟩ := demand_bind h
    obtain ⟨_, -, h⟩ := bind_eq_ok.mp h
    obtain ⟨_, -, h⟩ := bind_eq_ok.mp h
    obtain ⟨hsame, h⟩ := failIf_bind h
    refine .goesOn hbefore hafter ?_ (by simpa using failIf_eq_ok.mp h)
    simp_all

theorem passwordStepAllowed_ok {state : OperationState} {before after : DatabasePasswordEvidence}
    (h : passwordStepAllowed state before after = true) :
    (after.stage = before.stage ∨ after.stage.upTo = before.stage.upTo ++ [after.stage]) ∧
      (state = .succeeded → before = after ∧ before.stage = .verified) ∧
      (state = .failed → before = after ∧
        (before.stage = .captured ∨ before.stage = .cancelled)) := by
  cases state <;>
    simp only [passwordStepAllowed, Bool.and_eq_true, Bool.or_eq_true, decide_eq_true_eq,
      Bool.false_eq_true] at h
  case running =>
    refine ⟨?_, nofun, nofun⟩
    obtain (rfl | ⟨hbefore, hafter⟩) | ⟨hbefore, hafter | hafter⟩ := h
    · exact .inl rfl
    · exact .inr (by rw [hbefore, hafter]; rfl)
    · exact .inr (by rw [hbefore, hafter]; rfl)
    · exact .inr (by rw [hbefore, hafter]; rfl)
  case recoveryRequired => exact ⟨.inl (by rw [h]), nofun, nofun⟩
  case succeeded => exact ⟨.inl (by rw [h.1]), fun _ => h, nofun⟩
  case failed => exact ⟨.inl (by rw [h.1]), nofun, fun _ => h⟩

structure PasswordAdvance (operation operation' : OperationRecord) : Prop where
  keeps : KeepsPassword operation operation'
  next : ∀ evidence', operation'.passwordEvidence = some evidence' →
    evidence'.stage.upTo = [evidence'.stage] ∨ ∃ evidence,
      operation.passwordEvidence = some evidence ∧ (evidence'.stage = evidence.stage ∨
        evidence'.stage.upTo = evidence.stage.upTo ++ [evidence'.stage])
  succeeded : operation'.state = .succeeded → ∃ evidence,
    operation.passwordEvidence = some evidence ∧ evidence.stage = .verified ∧
      operation'.passwordEvidence = some evidence
  failed : operation'.state = .failed → ∀ evidence,
    operation'.passwordEvidence = some evidence → operation.passwordEvidence = some evidence ∧
      (evidence.stage = .captured ∨ evidence.stage = .cancelled)

variable {app' : LifecycleRecord}

theorem Domain.Advanced.password (h : Advanced app operation progress app' operation')
    (hkind : operation.kind.isPasswordReset = true) : PasswordAdvance operation operation' := by
  have hreport : PasswordReport (underExecutor operation progress.executorId) progress :=
    validateDatabasePasswordProgress_ok (validateProgress_ok h.valid).password hkind
  have hstate := h.state
  have hread : operation'.passwordEvidence = read progress.checkpoint := by
    rw [h.record]
    rfl
  cases hreport with
  | blank empty untyped open_ =>
    have hblank : operation.passwordEvidence = none := passwordEvidence_null empty
    rw [untyped] at hread
    refine ⟨fun evidence he => ?_, fun evidence he => ?_, fun hs => ?_, fun _ evidence he => ?_⟩
    · rw [hblank] at he
      cases he
    · rw [hread] at he
      cases he
    · exact absurd (hstate.symm.trans hs) open_
    · rw [hread] at he
      cases he
  | @captures evidence empty running typed stage =>
    have hblank : operation.passwordEvidence = none := passwordEvidence_null empty
    rw [typed] at hread
    refine ⟨fun evidence he => ?_, fun evidence he => ?_, fun hs => ?_, fun hs => ?_⟩
    · rw [hblank] at he
      cases he
    · cases hread.symm.trans he
      rw [stage]
      exact .inl rfl
    · rw [hstate, running] at hs
      cases hs
    · rw [hstate, running] at hs
      cases hs
  | @goesOn before after typed typed' same allowed =>
    have hbefore : operation.passwordEvidence = some before := typed
    rw [typed'] at hread
    obtain ⟨hnext, hsucceeded, hfailed⟩ := passwordStepAllowed_ok allowed
    have hforward : before.stage.upTo <+: after.stage.upTo := by
      obtain hs | hs := hnext
      · exact hs ▸ prefix_rfl
      · exact ⟨[after.stage], hs.symm⟩
    refine ⟨fun evidence he => ?_, fun evidence he => ?_, fun hs => ?_, fun hs evidence he => ?_⟩
    · cases hbefore.symm.trans he
      exact ⟨after, hread, same, hforward⟩
    · cases hread.symm.trans he
      exact .inr ⟨before, hbefore, hnext⟩
    · obtain ⟨rfl, hstage⟩ := hsucceeded (hstate.symm.trans hs)
      exact ⟨before, hbefore, hstage, hread⟩
    · obtain ⟨rfl, hstage⟩ := hfailed (hstate.symm.trans hs)
      cases hread.symm.trans he
      exact ⟨hbefore, hstage⟩

/-! ### One step -/

/-- The record was closed from the given stage, recorded before or in the same transaction. -/
def ClosedFrom (operation operation' : OperationRecord) (stage : DatabasePasswordStage) : Prop :=
  ∃ recorded app app' progress,
    (recorded.checkpoint = operation.checkpoint ∨ ∃ report : OperationProgress,
      report.state = .running ∧ Domain.Advanced app (Recovery.hop operation) report app recorded) ∧
    recorded.passwordEvidence.map DatabasePasswordEvidence.stage = some stage ∧
    Domain.Advanced app recorded progress app' operation'

structure PasswordStep (operation operation' : OperationRecord) : Prop where
  claimed : operation'.state ≠ .pending
  keeps : KeepsPassword operation operation'
  next : ∀ evidence', operation'.passwordEvidence = some evidence' →
    evidence'.stage.upTo = [evidence'.stage] ∨ ∃ evidence,
      operation.passwordEvidence = some evidence ∧ (evidence'.stage = evidence.stage ∨
        evidence'.stage.upTo = evidence.stage.upTo ++ [evidence'.stage])
  succeeded : operation'.state = .succeeded → ClosedFrom operation operation' .verified ∧
    operation'.passwordEvidence.map DatabasePasswordEvidence.stage = some .verified
  failed : operation'.state = .failed → ∀ evidence,
    operation'.passwordEvidence = some evidence → evidence.stage = .captured ∨
      (evidence.stage = .cancelled ∧ ClosedFrom operation operation' .cancelled)

theorem PasswordStep.of_kept (hcheckpoint : operation'.checkpoint = operation.checkpoint)
    (hstate : operation'.state = .running ∨ operation'.state = .recoveryRequired) :
    PasswordStep operation operation' := by
  refine ⟨?_, .of_eq hcheckpoint, fun evidence he => .inr ⟨evidence, ?_, .inl rfl⟩, ?_, ?_⟩
  · obtain hs | hs := hstate <;> rw [hs] <;> nofun
  · rw [passwordEvidence, ← hcheckpoint]
    exact he
  · obtain hs | hs := hstate <;> rw [hs] <;> nofun
  · obtain hs | hs := hstate <;> rw [hs] <;> nofun

theorem PasswordStep.of_closed {recorded : OperationRecord}
    (hrecorded : recorded.checkpoint = operation.checkpoint ∨ ∃ report : OperationProgress,
      report.state = .running ∧ Advanced app (Recovery.hop operation) report app recorded)
    (hkind : recorded.kind.isPasswordReset = true) (hkeeps : KeepsPassword operation recorded)
    (hadv : Advanced app recorded progress app' operation')
    (hnext : ∀ evidence', operation'.passwordEvidence = some evidence' →
      evidence'.stage.upTo = [evidence'.stage] ∨ ∃ evidence,
        operation.passwordEvidence = some evidence ∧ (evidence'.stage = evidence.stage ∨
          evidence'.stage.upTo = evidence.stage.upTo ++ [evidence'.stage])) :
    PasswordStep operation operation' := by
  have hpassword := hadv.password hkind
  have hclosed : ∀ stage, recorded.passwordEvidence.map DatabasePasswordEvidence.stage =
      some stage → ClosedFrom operation operation' stage := fun stage hstage =>
    ⟨recorded, app, app', progress, hrecorded, hstage, hadv⟩
  refine ⟨?_, hkeeps.trans hpassword.keeps, hnext, fun hs => ?_, fun hs evidence he => ?_⟩
  · rw [hadv.state]
    exact (validateProgress_ok hadv.valid).state
  · obtain ⟨evidence, hbefore, hstage, hafter⟩ := hpassword.succeeded hs
    exact ⟨hclosed _ (by rw [hbefore, Option.map_some, hstage]),
      by rw [hafter, Option.map_some, hstage]⟩
  · obtain ⟨hbefore, hstage | hstage⟩ := hpassword.failed hs evidence he
    · exact .inl hstage
    · exact .inr ⟨hstage, hclosed _ (by rw [hbefore, Option.map_some, hstage])⟩

theorem PasswordStep.of_advance {claimed : OperationRecord}
    (hadv : Advanced app claimed progress app' operation')
    (hclaimed : claimed.checkpoint = operation.checkpoint)
    (hkind : claimed.kind.isPasswordReset = true) : PasswordStep operation operation' := by
  refine .of_closed (.inl hclaimed) hkind (.of_eq hclaimed) hadv ?_
  have hread : claimed.passwordEvidence = operation.passwordEvidence := by
    rw [passwordEvidence, hclaimed]
    rfl
  rw [← hread]
  exact (hadv.password hkind).next

theorem OperationStep.password {act : Act} (h : OperationStep act app operation operation')
    (hkind : operation.kind.isPasswordReset = true)
    (hblank : operation.state = .pending → operation.checkpoint = .null) :
    PasswordStep operation operation' := by
  cases h with
  | report _ advanced => exact .of_advance advanced rfl hkind
  | hop _ _ advanced => exact .of_advance advanced rfl hkind
  | @twice progress last app' between _ _ running same _ advanced closed =>
    have hfirst := advanced.password hkind
    refine .of_closed (.inr ⟨progress, running, advanced⟩) ?_ hfirst.keeps closed ?_
    · rw [advanced.kind_eq]
      exact hkind
    · have hread : operation'.passwordEvidence = between.passwordEvidence := by
        rw [passwordEvidence, closed.checkpoint_eq, same,
          ← advanced.checkpoint_eq]
        rfl
      rw [hread]
      exact hfirst.next
  | resume => exact .of_kept rfl (.inl rfl)
  | inspect => exact .of_kept rfl (.inr rfl)
  | observe _ _ kind =>
    rw [kind] at hkind
    cases hkind
  | cancel control pending =>
    have huntyped : (Compute.cancelled control operation).passwordEvidence = none := by
      cases hread : (Compute.cancelled control operation).passwordEvidence with
      | none => rfl
      | some =>
        have hkey : ("compute_operation_id" : String) ∈ fields.names :=
          Json.strict_keys hread _ (by simp)
        exact absurd hkey (by decide)
    refine ⟨nofun, fun evidence he => ?_, fun evidence he => ?_, nofun, fun _ evidence he => ?_⟩
    · rw [passwordEvidence, hblank pending] at he
      cases he
    · rw [huntyped] at he
      cases he
    · rw [huntyped] at he
      cases he

/-! ### Whole histories -/

/-- The stages were recorded in this order, each in a version of its own. -/
def ReachedStages (versions : List OperationRecord) (stages : List DatabasePasswordStage) : Prop :=
  ∃ reached : List OperationRecord, reached.Sublist versions ∧
    reached.map (fun version => version.passwordEvidence.map DatabasePasswordEvidence.stage) =
      stages.map some

structure PasswordHistory (versions : List OperationRecord) (operation : OperationRecord) :
    Prop where
  blank : operation.state = .pending → operation.checkpoint = .null
  identity : versions.Pairwise KeepsPassword
  kept : ∀ version ∈ versions, KeepsPassword version operation
  reached : ∀ evidence, operation.passwordEvidence = some evidence →
    ReachedStages versions evidence.stage.upTo
  succeeded : operation.state = .succeeded →
    operation.passwordEvidence.map DatabasePasswordEvidence.stage = some .verified ∧
      ∃ earlier before, versions = earlier ++ [before, operation] ∧
        ClosedFrom before operation .verified
  failed : operation.state = .failed → ∀ evidence, operation.passwordEvidence = some evidence →
    evidence.stage = .captured ∨ (evidence.stage = .cancelled ∧
      ∃ earlier before, versions = earlier ++ [before, operation] ∧
        ClosedFrom before operation .cancelled)

theorem PasswordHistory.first (h : NewOperation operation) :
    PasswordHistory [operation] operation := by
  have hblank := passwordEvidence_null h.checkpoint
  refine ⟨fun _ => h.checkpoint, pairwise_singleton .., ?_, fun evidence he => ?_,
    fun hs => ?_, fun hs => ?_⟩
  · intro version hv
    rw [mem_singleton.mp hv]
    exact .of_eq rfl
  · rw [hblank] at he
    cases he
  · rw [h.pending] at hs
    cases hs
  · rw [h.pending] at hs
    cases hs

variable {l : List OperationRecord}

theorem PasswordHistory.next (h : PasswordHistory l operation)
    (hl : ∃ earlier, l = earlier ++ [operation]) (hstep : PasswordStep operation operation') :
    PasswordHistory (l ++ [operation']) operation' := by
  obtain ⟨earlier, rfl⟩ := hl
  have hkept : ∀ version ∈ earlier ++ [operation], KeepsPassword version operation' :=
    fun version hv => (h.kept version hv).trans hstep.keeps
  have hends : (earlier ++ [operation]) ++ [operation'] = earlier ++ [operation, operation'] := by
    simp
  have hsub : (earlier ++ [operation]).Sublist (earlier ++ [operation] ++ [operation']) :=
    sublist_append_left ..
  refine ⟨fun hs => absurd hs hstep.claimed, ?_, ?_, fun evidence he => ?_, fun hs => ?_,
    fun hs evidence he => ?_⟩
  · refine pairwise_append.mpr ⟨h.identity, pairwise_singleton .., ?_⟩
    intro version hv last hlast
    rw [mem_singleton.mp hlast]
    exact hkept version hv
  · intro version hv
    obtain hv | hv := mem_append.mp hv
    · exact hkept version hv
    · rw [mem_singleton.mp hv]
      exact .of_eq rfl
  · obtain hfirst | ⟨before, hbefore, hsame | hnext⟩ := hstep.next evidence he
    · refine ⟨[operation'], sublist_append_right .., ?_⟩
      rw [hfirst]
      simp [he]
    · obtain ⟨reached, hreached, hmap⟩ := h.reached before hbefore
      rw [hsame]
      exact ⟨reached, hreached.trans hsub, hmap⟩
    · obtain ⟨reached, hreached, hmap⟩ := h.reached before hbefore
      refine ⟨reached ++ [operation'], hreached.append (.refl _), ?_⟩
      rw [map_append, hmap, hnext]
      simp [he]
  · obtain ⟨hclosed, hverified⟩ := hstep.succeeded hs
    exact ⟨hverified, earlier, operation, hends, hclosed⟩
  · obtain hcaptured | ⟨hcancelled, hclosed⟩ := hstep.failed hs evidence he
    · exact .inl hcaptured
    · exact .inr ⟨hcancelled, earlier, operation, hends, hclosed⟩

theorem passwordHistory_of_versions (h : Versions NewOperation OperationVersion l operation)
    (hkind : operation.kind.isPasswordReset = true) : PasswordHistory l operation := by
  induction h with
  | first start => exact .first start
  | @next l before after earlier change ih =>
    obtain ⟨act, app, step⟩ := change
    obtain ⟨-, -, -, -, hk⟩ := mergeProgress_same step.merge
    rw [hk] at hkind
    have hbefore := ih hkind
    exact hbefore.next earlier.ends (step.password hkind hbefore.blank)

/-- What holds of the versions of a password reset. -/
structure PasswordInOrder (versions : List OperationRecord) (operation : OperationRecord) :
    Prop where
  identity : versions.Pairwise KeepsPassword
  succeeded : operation.state = .succeeded →
    ReachedStages versions [.captured, .writeSubmitted, .verified] ∧
      ∃ earlier before, versions = earlier ++ [before, operation] ∧
        ClosedFrom before operation .verified
  failed : operation.state = .failed → (∃ version ∈ versions,
      version.passwordEvidence.map DatabasePasswordEvidence.stage = some .writeSubmitted) →
    ReachedStages versions [.captured, .writeSubmitted, .cancelled] ∧
      ∃ earlier before, versions = earlier ++ [before, operation] ∧
        ClosedFrom before operation .cancelled

theorem password_in_order {ok : Store → Op → Prop} {tr : List (Op × Except StoreError Answer)}
    {s : Store} (hr : store.Run ok {} tr s) {id : String} {operation : OperationRecord}
    (ho : s.ledger.operation id = some operation)
    (hkind : operation.kind.isPasswordReset = true) :
    PasswordInOrder (versions OperationRecord.operationId s.history.operations id) operation := by
  have h := passwordHistory_of_versions ((Run.operationsLogged hr).versions_of_some ho) hkind
  refine ⟨h.identity, fun hs => ?_, fun hs hsubmitted => ?_⟩
  · obtain ⟨hverified, hclosed⟩ := h.succeeded hs
    obtain ⟨evidence, he, hstage⟩ := Option.map_eq_some_iff.mp hverified
    have hreached := h.reached evidence he
    rw [hstage] at hreached
    exact ⟨hreached, hclosed⟩
  · obtain ⟨version, hv, hsubmitted⟩ := hsubmitted
    obtain ⟨evidence, he, hstage⟩ := Option.map_eq_some_iff.mp hsubmitted
    obtain ⟨last, hlast, hcontinues⟩ := h.kept version hv evidence he
    obtain hcaptured | ⟨hcancelled, hclosed⟩ := h.failed hs last hlast
    · have hforward := hcontinues.forward
      rw [hstage, hcaptured] at hforward
      exact absurd hforward (by decide)
    · have hreached := h.reached last hlast
      rw [hcancelled] at hreached
      exact ⟨hreached, hclosed⟩

def Sample.passwordReset (stage : String) : Json :=
  .object
    [("stage", .str stage), ("username", .str "owner"), ("receipt_protocol", .num 1),
      ("context", Sample.context "reset"),
      ("target", .object
        [("scope", .str "prod"),
          ("target", .object
            [("physical_uid", .str "uid"), ("deployment_generation", .str "1")])])]

def orderlyReset : List Op :=
  [.admitWithConfiguration (Sample.admission "reset" (.resetDatabasePassword true "owner")) none
      none Sample.fresh,
    .advance (Sample.progress "reset" 1 .running "captured" (Sample.passwordReset "captured")),
    .advance
      (Sample.progress "reset" 2 .running "submitted" (Sample.passwordReset "write_submitted")),
    .advance (Sample.progress "reset" 3 .running "verified" (Sample.passwordReset "verified")),
    .advance (Sample.progress "reset" 4 .succeeded "verified" (Sample.passwordReset "verified"))]

theorem password_in_order_reset :
    ∃ operation, (store.after {} orderlyReset).ledger.operation "reset" = some operation ∧
      operation.state = .succeeded ∧ PasswordInOrder (versions OperationRecord.operationId
        (store.after {} orderlyReset).history.operations "reset") operation := by
  have hrecord : ((store.after {} orderlyReset).ledger.operation "reset").any (fun operation =>
      operation.kind = .resetProdDatabasePassword ∧ operation.state = .succeeded) = true := by
    decide +kernel
  obtain ⟨operation, ho, hp⟩ := (Option.any_eq_true _ _).mp hrecord
  obtain ⟨hkind, hstate⟩ := of_decide_eq_true hp
  exact ⟨operation, ho, hstate, password_in_order
    (.of_follows (Machine.follows_of_forall fun _ _ _ => trivial)) ho (by rw [hkind]; rfl)⟩

end Rcoder.Lifecycle
