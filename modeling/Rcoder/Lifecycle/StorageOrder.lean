import Rcoder.Lib.Walks
import Rcoder.Lifecycle.Checkpoints

/-!
# The order of destructive storage operations

A storage operation captures its targets, confirms every removal and then succeeds, each
confirmation a report of its running executor over the captured targets. A report that asks for
recovery keeps the targets but may name any step, and recovery takes the completing step of a
record for its completion: the order depends on what such reports name.
-/

namespace Rcoder.Lifecycle

open Effect Ledger Check Domain OperationKind OperationRecord

def OperationKind.storageSteps : OperationKind → List String
  | .destroyProdStorage =>
    ["storage_captured", "production_storage_removed", StorageDestruction.completeStep]
  | .destroyDevStorage => ["storage_captured", StorageDestruction.completeStep]
  | .clearProdStorage | .clearDevStorage => ["clear_target_captured", StorageClear.completeStep]
  | _ => []

def OperationKind.isStorage (kind : OperationKind) : Bool :=
  kind = .destroyProdStorage || kind = .destroyDevStorage || kind = .clearProdStorage ||
    kind = .clearDevStorage

variable {kind : OperationKind}

theorem OperationKind.isStorage_cases (h : kind.isStorage = true) :
    kind = .destroyProdStorage ∨ kind = .destroyDevStorage ∨ kind = .clearProdStorage ∨
      kind = .clearDevStorage := by
  simpa [isStorage, or_assoc] using h

/-! ### One report -/

inductive StorageReport (operation : OperationRecord) (progress : OperationProgress) : Prop
  | fails (failure : Domain.isFailure progress.state = true)
      (kept : Domain.failureCheckpointPreserved operation.checkpoint progress.checkpoint = true)
  | claims (running : progress.state = .running) (blank : progress.checkpoint = .null)
  | captures (running : progress.state = .running)
      (first : upTo operation.kind.storageSteps progress.step = [progress.step])
  | goesOn (running : progress.state = .running) (captured : operation.checkpoint ≠ .null)
      (kept : progress.checkpoint = operation.checkpoint)
      (next : upTo operation.kind.storageSteps progress.step =
        upTo operation.kind.storageSteps operation.step ++ [progress.step])
  | succeeds (succeeded : progress.state = .succeeded) (captured : operation.checkpoint ≠ .null)
      (kept : progress.checkpoint = operation.checkpoint)
      (last : upTo operation.kind.storageSteps operation.step = operation.kind.storageSteps)

variable {operation : OperationRecord} {progress : OperationProgress} {production : Bool}

theorem validateDestruction_ok
    (h : validateDestruction production operation progress = .ok ())
    (hkind : operation.kind = if production then .destroyProdStorage else .destroyDevStorage) :
    StorageReport operation progress := by
  unfold validateDestruction at h
  split at h
  · exact .fails ‹_› (by simpa using failIf_eq_ok.mp h)
  split at h
  · rename_i hblank
    exact .claims hblank.1 hblank.2.1
  obtain ⟨evidence, hread, h⟩ := demand_bind h
  obtain ⟨_, -, h⟩ := bind_eq_ok.mp h
  obtain ⟨-, h⟩ := failIf_bind h
  split at h
  · obtain ⟨hrunning, hstep⟩ := not_not.mp (failIf_eq_ok.mp h)
    refine .captures hrunning ?_
    rw [hkind, hstep]
    cases production <;> decide
  · obtain ⟨hkept, h⟩ := failIf_bind h
    have hkept := not_not.mp hkept
    obtain ⟨hrunning, hordered⟩ | ⟨hsucceeded, hstep⟩ := not_not.mp (failIf_eq_ok.mp h)
    · refine .goesOn hrunning ‹_› hkept ?_
      simp only [destructionOrdered, Bool.or_eq_true, Bool.and_eq_true, decide_eq_true_eq,
        Bool.not_eq_true'] at hordered
      obtain (⟨⟨hbefore, hafter⟩, hp⟩ | ⟨⟨hbefore, hafter⟩, hp⟩) | ⟨⟨hbefore, hafter⟩, hp⟩ :=
        hordered <;> (rw [hkind, hp, hbefore, hafter]; decide)
    · refine .succeeds hsucceeded ‹_› hkept ?_
      rw [hkind, hstep]
      cases production <;> decide

theorem validateClear_ok {app : LifecycleRecord}
    (h : validateClear production app operation progress = .ok ())
    (hkind : operation.kind = if production then .clearProdStorage else .clearDevStorage) :
    StorageReport operation progress := by
  have hsteps : operation.kind.storageSteps =
      ["clear_target_captured", StorageClear.completeStep] := by
    rw [hkind]
    cases production <;> rfl
  unfold validateClear at h
  split at h
  · exact .fails ‹_› (by simpa using failIf_eq_ok.mp h)
  split at h
  · rename_i hblank
    exact .claims hblank.1 hblank.2.1
  obtain ⟨evidence, hread, h⟩ := demand_bind h
  obtain ⟨_, -, h⟩ := bind_eq_ok.mp h
  obtain ⟨_, -, h⟩ := bind_eq_ok.mp h
  obtain ⟨-, h⟩ := failIf_bind h
  obtain ⟨-, h⟩ := failIf_bind h
  split at h
  · obtain ⟨hrunning, hstep⟩ := not_not.mp (failIf_eq_ok.mp h)
    refine .captures hrunning ?_
    rw [hsteps, hstep]
    decide
  · obtain ⟨hkept, h⟩ := failIf_bind h
    have hkept := not_not.mp hkept
    obtain ⟨hrunning, hbefore, hafter⟩ | ⟨hsucceeded, hstep⟩ :=
      not_not.mp (failIf_eq_ok.mp h)
    · refine .goesOn hrunning ‹_› hkept.symm ?_
      rw [hsteps, hbefore, hafter]
      decide
    · refine .succeeds hsucceeded ‹_› hkept.symm ?_
      rw [hsteps, hstep]
      decide

theorem Domain.Advanced.storage {app app' : LifecycleRecord} {operation' : OperationRecord}
    (h : Advanced app operation progress app' operation') (hkind : operation.kind.isStorage = true)
    : StorageReport (underExecutor operation progress.executorId) progress := by
  have hvalid := validateProgress_ok h.valid
  have hdestruction := hvalid.destruction
  have hclear := hvalid.clear
  replace hkind : (underExecutor operation progress.executorId).kind.isStorage = true :=
    hkind
  obtain hk | hk | hk | hk := isStorage_cases hkind
  · rw [validateStorageDestructionProgress, hk] at hdestruction
    exact validateDestruction_ok hdestruction hk
  · rw [validateStorageDestructionProgress, hk] at hdestruction
    exact validateDestruction_ok hdestruction hk
  · rw [validateStorageClearProgress, hk] at hclear
    exact validateClear_ok hclear hk
  · rw [validateStorageClearProgress, hk] at hclear
    exact validateClear_ok hclear hk

/-- Final evidence of a storage operation: its last step, over targets that still read as such. -/
theorem OperationRecord.final_storage (hkind : operation.kind.isStorage = true)
    (h : operation.hasFinalEvidence = true) :
    operation.kind.storageSteps.getLast? = some operation.step ∧
      ((∃ evidence, StorageDestruction.read operation.checkpoint = some evidence) ∨
        ∃ evidence, StorageClear.read operation.checkpoint = some evidence) := by
  unfold hasFinalEvidence holdsEvidence at h
  obtain hk | hk | hk | hk := isStorage_cases hkind <;>
    simp only [hk, Bool.and_eq_true, decide_eq_true_eq] at h <;>
    obtain ⟨hstep, hread⟩ := h <;>
    obtain ⟨evidence, hread, -⟩ := (Option.any_eq_true _ _).mp hread <;>
    rw [hk, hstep]
  · exact ⟨rfl, .inl ⟨evidence, hread⟩⟩
  · exact ⟨rfl, .inl ⟨evidence, hread⟩⟩
  · exact ⟨rfl, .inr ⟨evidence, hread⟩⟩
  · exact ⟨rfl, .inr ⟨evidence, hread⟩⟩

theorem OperationKind.upTo_last (hkind : kind.isStorage = true) {step : String}
    (h : kind.storageSteps.getLast? = some step) :
    upTo kind.storageSteps step = kind.storageSteps := by
  obtain rfl | rfl | rfl | rfl := isStorage_cases hkind <;> cases h <;> decide

/-- A failure that leaves typed targets has left them as they were. -/
theorem storage_kept {previous next : Json} (h : failureCheckpointPreserved previous next = true)
    (hread : (∃ evidence, StorageDestruction.read next = some evidence) ∨
      ∃ evidence, StorageClear.read next = some evidence) : previous = next ∧ previous ≠ .null := by
  have hkept : previous = next := by
    obtain ⟨evidence, hread⟩ | ⟨evidence, hread⟩ := hread
    · exact failureCheckpointPreserved_strict h hread (by decide) rfl
    · exact failureCheckpointPreserved_strict h hread (by decide) rfl
  refine ⟨hkept, ?_⟩
  rintro rfl
  rw [← hkept] at hread
  obtain ⟨evidence, hread⟩ | ⟨evidence, hread⟩ := hread <;> cases hread

/-! ### Whole histories -/

/-- The steps were confirmed in order, each by a report of a running executor that carried the
checkpoint. -/
def Confirmed (reports : List OperationProgress) (checkpoint : Json) (steps : List String) : Prop :=
  ∃ confirming : List OperationProgress, confirming.Sublist reports ∧
    confirming.map OperationProgress.step = steps ∧
    ∀ report ∈ confirming, report.state = .running ∧ report.checkpoint = checkpoint

variable {steps : List String} {checkpoint : Json}

theorem Confirmed.mono {reports reports' : List OperationProgress}
    (h : Confirmed reports checkpoint steps) (hsub : reports.Sublist reports') :
    Confirmed reports' checkpoint steps := by
  obtain ⟨confirming, hconfirming, hrest⟩ := h
  exact ⟨confirming, hconfirming.trans hsub, hrest⟩

theorem Confirmed.snoc {reports : List OperationProgress} (h : Confirmed reports checkpoint steps)
    (hrunning : progress.state = .running) (hcheckpoint : progress.checkpoint = checkpoint) :
    Confirmed (reports ++ [progress]) checkpoint (steps ++ [progress.step]) := by
  obtain ⟨confirming, hsub, hsteps, hall⟩ := h
  refine ⟨confirming ++ [progress], hsub.append (.refl _), by simp [hsteps], fun report hr => ?_⟩
  obtain hr | hr := List.mem_append.mp hr
  · exact hall report hr
  · rw [List.mem_singleton.mp hr]
    exact ⟨hrunning, hcheckpoint⟩

structure StorageHistory (reports : List OperationProgress) (operation : OperationRecord) :
    Prop where
  patient : operation.state ≠ .waitingRetry
  blank : operation.state = .pending → operation.checkpoint = .null
  running : operation.state = .running → operation.checkpoint ≠ .null →
    Confirmed reports operation.checkpoint
      (upTo operation.kind.storageSteps operation.step)
  final : operation.hasFinalEvidence = true → operation.state = .recoveryRequired →
    Confirmed reports operation.checkpoint operation.kind.storageSteps
  succeeded : operation.state = .succeeded → ∃ last earlier, reports = earlier ++ [last] ∧
    last.state = .succeeded ∧ Confirmed earlier operation.checkpoint operation.kind.storageSteps

namespace StorageHistory

variable {reports : List OperationProgress} {operation operation' : OperationRecord}
  {app app' : LifecycleRecord} {progress : OperationProgress}

theorem of_running (hs : operation.state = .running)
    (h : operation.checkpoint ≠ .null → Confirmed reports operation.checkpoint
      (upTo operation.kind.storageSteps operation.step)) : StorageHistory reports operation := by
  refine ⟨?_, ?_, fun _ => h, ?_, ?_⟩ <;> rw [hs] <;> nofun

variable (h : StorageHistory reports operation)
include h

/-- Whoever reports on captured targets is the executor of the running record. -/
theorem running_of_captured
    (hclaim : ClaimedBy operation progress) (hcaptured : operation.checkpoint ≠ .null) :
    operation.state = .running := by
  obtain ⟨hs | hs, -⟩ | ⟨hs, -⟩ := hclaim
  · exact absurd (h.blank hs) hcaptured
  · exact absurd hs h.patient
  · exact hs

theorem report (hkind : operation.kind.isStorage = true)
    (hadv : Advanced app operation progress app' operation')
    (hstep : progress.state = .recoveryRequired →
      operation.kind.storageSteps.getLast? = some progress.step →
      operation.step = progress.step) : StorageHistory (reports ++ [progress]) operation' := by
  have hstate := hadv.state
  have hk : operation'.kind = (underExecutor operation progress.executorId).kind :=
    hadv.kind_eq
  have hc := hadv.checkpoint_eq
  have hs : operation'.step = progress.step := by rw [hadv.record]; rfl
  cases hadv.storage hkind with
  | fails failure kept =>
    simp only [isFailure, Bool.or_eq_true, decide_eq_true_eq] at failure
    refine ⟨?_, ?_, ?_, fun hfinal hrecovering => ?final, ?_⟩
    case final =>
      -- the completing step over typed targets was there before the report
      obtain ⟨hlast, hread⟩ := final_storage (hk ▸ hkind) hfinal
      rw [hc] at hread
      obtain ⟨hsame, hcaptured⟩ := storage_kept kept hread
      have hrunning := h.running_of_captured hadv.claim hcaptured
      rw [hk, hs] at hlast
      have hbefore := hstep (hstate.symm.trans hrecovering) hlast
      have hconfirmed := h.running hrunning hcaptured
      rw [hbefore, upTo_last hkind hlast] at hconfirmed
      rw [hc, hk, ← hsame]
      exact hconfirmed.mono (List.sublist_append_left ..)
    all_goals
      rw [hstate]
      obtain hf | hf := failure <;> rw [hf] <;> nofun
  | claims running blank =>
    exact of_running (hstate.trans running) fun hne => absurd (hc.trans blank) hne
  | captures running first =>
    refine of_running (hstate.trans running) fun _ => ?_
    have hempty : Confirmed reports progress.checkpoint [] := ⟨[], by simp, rfl, by simp⟩
    rw [hk, hs, hc, first]
    exact hempty.snoc running rfl
  | goesOn running captured kept next =>
    have hbefore := h.running (h.running_of_captured hadv.claim captured) captured
    refine of_running (hstate.trans running) fun _ => ?_
    rw [hk, hs, hc, next, kept]
    exact hbefore.snoc running kept
  | succeeds succeeded captured kept last =>
    have hbefore := h.running (h.running_of_captured hadv.claim captured) captured
    refine ⟨?_, ?_, ?_, ?_, fun _ => ⟨progress, reports, rfl, succeeded, ?last⟩⟩
    case last =>
      rw [hc, hk, kept, ← last]
      exact hbefore
    all_goals
      rw [hstate, succeeded]
      nofun

theorem recovers (hkind : operation.kind.isStorage = true)
    (hstep : Recovers operation operation') : StorageHistory reports operation' := by
  have hfinal : operation.hasFinalEvidence = true →
      operation.state = .running ∨ operation.state = .recoveryRequired →
      Confirmed reports operation.checkpoint operation.kind.storageSteps := by
    intro hfinal hlive
    obtain ⟨hlast, hread⟩ := final_storage hkind hfinal
    obtain hs | hs := hlive
    · have hcaptured : operation.checkpoint ≠ .null := by
        intro hnull
        rw [hnull] at hread
        obtain ⟨evidence, hread⟩ | ⟨evidence, hread⟩ := hread <;> cases hread
      have hconfirmed := h.running hs hcaptured
      rwa [upTo_last hkind hlast] at hconfirmed
    · exact h.final hfinal hs
  cases hstep with
  | fails failed =>
    refine ⟨?_, ?_, ?_, ?_, ?_⟩ <;> rw [failed] <;> nofun
  | resumes live final =>
    obtain ⟨hlast, -⟩ := final_storage hkind final
    have hconfirmed := hfinal final live
    rw [← upTo_last hkind hlast] at hconfirmed
    exact of_running rfl fun _ => hconfirmed
  | inspects code message live =>
    refine ⟨nofun, nofun, nofun, fun hfinal' _ => ?_, nofun⟩
    have hlive : operation.state = .running ∨ operation.state = .recoveryRequired := by
      obtain hs | hs | hs := live
      · exact .inl hs
      · exact absurd hs h.patient
      · exact .inr hs
    exact hfinal hfinal' hlive

end StorageHistory

/-- A report that asks for recovery names the completing step of a storage operation only if the
operation had reached it. -/
def CompletesInOrder (s : Store) (op : Op) : Prop :=
  ∀ progress before, op.progress = some progress → progress.state = .recoveryRequired →
    s.ledger.operation progress.operationId = some before → before.kind.isStorage = true →
    before.kind.storageSteps.getLast? = some progress.step → before.step = progress.step

/-- A storage operation has succeeded only after its steps were confirmed in order, over the
targets that were captured first. -/
theorem storage_order {tr : List (Op × Except StoreError Answer)} {s : Store}
    (hr : store.Run CompletesInOrder {} tr s) {id : String} {operation : OperationRecord}
    (ho : s.ledger.operation id = some operation) (hkind : operation.kind.isStorage = true)
    (hs : operation.state = .succeeded) :
    ∃ earlier last, accepted id tr = earlier ++ [last] ∧ last.state = .succeeded ∧
      Confirmed earlier operation.checkpoint operation.kind.storageSteps := by
  have hall : Reports (fun reports operation => operation.kind.isStorage = true →
      StorageHistory reports operation) (fun id => accepted id tr) s.ledger.operation := by
    refine Run.reports ?_ ?_ ?_ hr
    · intro operation hnew _
      refine ⟨?_, fun _ => hnew.checkpoint, ?_, ?_, ?_⟩ <;> rw [hnew.pending] <;> nofun
    · intro s op progress ps app app' before after hok hp hstored h hadv hkind
      rw [hadv.kind_eq] at hkind
      exact (h hkind).report hkind hadv fun hrecovering hlast =>
        hok progress before hp hrecovering hstored hkind hlast
    · intro act ps app before after hact h hstep hkind
      obtain ⟨-, -, -, -, hk⟩ := mergeProgress_same hstep.merge
      rw [hk] at hkind
      refine (h hkind).recovers hkind (hstep.recovers hact ?_ ?_)
      · obtain hs | hs | hs | hs := isStorage_cases hkind <;> rw [hs] <;> rfl
      · obtain hs | hs | hs | hs := isStorage_cases hkind <;> rw [hs] <;>
          exact ⟨nofun, nofun⟩
  obtain ⟨last, earlier, hreports, hlast, hconfirmed⟩ := (hall.of_some ho hkind).succeeded hs
  exact ⟨earlier, last, hreports, hlast, hconfirmed⟩

def Sample.clearTarget : Json :=
  .object
    [("context", Sample.context "clear"),
      ("target", .object
        [("type", .str "production"), ("directories", .array []),
          ("snapshot", Sample.production "clear")])]

/-- A clearing that confirms its completion before it succeeds. -/
def orderlyClear : List Op :=
  [.admitWithConfiguration (Sample.admission "clear" (.clearStorage true)) none none Sample.fresh,
    .advance (Sample.progress "clear" 1 .running "clear_target_captured" Sample.clearTarget),
    .advance (Sample.progress "clear" 2 .running StorageClear.completeStep Sample.clearTarget),
    .advance (Sample.progress "clear" 3 .succeeded "cleared" Sample.clearTarget)]

theorem storage_order_clear :
    ∃ earlier last, accepted "clear" (store.trace {} orderlyClear) = earlier ++ [last] ∧
      last.state = .succeeded ∧ Confirmed earlier Sample.clearTarget
        ["clear_target_captured", StorageClear.completeStep] := by
  have hfollows : store.Follows CompletesInOrder {} orderlyClear := by
    refine Machine.follows_of_forall fun t op hop progress before hp hrecovering => ?_
    simp only [orderlyClear, List.mem_cons, List.not_mem_nil, or_false] at hop
    obtain rfl | rfl | rfl | rfl := hop <;> cases hp <;> cases hrecovering
  have hrecord : ((store.after {} orderlyClear).ledger.operation "clear").any (fun operation =>
      operation.kind = .clearProdStorage ∧ operation.state = .succeeded ∧
        operation.checkpoint = Sample.clearTarget) = true := by decide +kernel
  obtain ⟨operation, ho, hp⟩ := (Option.any_eq_true _ _).mp hrecord
  obtain ⟨hkind, hstate, hcheckpoint⟩ := of_decide_eq_true hp
  have horder := storage_order (.of_follows hfollows) ho (by rw [hkind]; rfl) hstate
  rwa [hcheckpoint, hkind] at horder

/-- A clearing whose executor asks for recovery in the name of the completing step. -/
def claimedClear : List Op :=
  [.admitWithConfiguration (Sample.admission "clear" (.clearStorage true)) none none Sample.fresh,
    .advance (Sample.progress "clear" 1 .running "clear_target_captured" Sample.clearTarget),
    .bindOperationLease ⟨"app", "life", "clear", "executor-clear", Sample.digest⟩
      (.docker .userapp 1 1 "token"),
    .advance
      (Sample.progress "clear" 2 .recoveryRequired StorageClear.completeStep Sample.clearTarget)]

def claimedClearRecord : OperationRecord where
  runtimePolicyOnSuccess := none
  command := some (.clearStorage true)
  admittedMetadata := none
  operationId := "clear"
  appId := "app"
  lifecycleId := "life"
  requestId := some "request-clear"
  requestFingerprint := Sample.digest
  kind := .clearProdStorage
  scope := .prod
  state := .recoveryRequired
  revision := 3
  executorId := some "executor-clear"
  step := StorageClear.completeStep
  checkpoint := Sample.clearTarget
  errorCode := none
  errorMessage := none
  createdAt := 1

/-- Recovery continues the clearing as completed, and it succeeds. -/
def recoveredClear : List Op :=
  claimedClear ++ [.reserveCompletedOperation claimedClearRecord,
    .advance (Sample.progress "clear" 4 .succeeded "cleared" Sample.clearTarget)]

theorem storage_disorder :
    ∃ operation, (store.after {} recoveredClear).ledger.operation "clear" = some operation ∧
      operation.kind.isStorage = true ∧ operation.state = .succeeded ∧
      ¬Confirmed (accepted "clear" (store.trace {} recoveredClear)) operation.checkpoint
        operation.kind.storageSteps := by
  have hrecord : ((store.after {} recoveredClear).ledger.operation "clear").any (fun operation =>
      operation.kind = .clearProdStorage ∧ operation.state = .succeeded) = true := by
    decide +kernel
  obtain ⟨operation, ho, hp⟩ := (Option.any_eq_true _ _).mp hrecord
  obtain ⟨hkind, hstate⟩ := of_decide_eq_true hp
  refine ⟨operation, ho, by rw [hkind]; rfl, hstate, ?_⟩
  rintro ⟨confirming, hsub, hsteps, hall⟩
  -- only one committed report came from a running executor
  have hcount : ((accepted "clear" (store.trace {} recoveredClear)).filter
      (fun report => report.state = .running)).length = 1 := by decide +kernel
  have hrunning : confirming.filter (fun report => report.state = .running) = confirming :=
    List.filter_eq_self.mpr fun report hr => by simpa using (hall report hr).1
  have hle := (hsub.filter fun report => report.state = .running).length_le
  rw [hrunning] at hle
  have hlength := congrArg List.length hsteps
  rw [hkind] at hlength
  simp [storageSteps] at hlength
  omega

end Rcoder.Lifecycle
