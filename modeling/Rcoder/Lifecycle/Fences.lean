import Rcoder.Lifecycle.PasswordOrder

/-!
# Releasing a fence

A fenced operation is settled as failed, and the evidence of the scanner is added to its checkpoint.
Every kind of operation checks a reported checkpoint in its own way, so the question is where it
takes this addition as it would take the checkpoint itself.
-/

namespace Rcoder

theorem Json.Fields.erase_insert {key : String} {value : Json} :
    ∀ {fs : Fields}, (fs.insert key value).erase key = fs.erase key
  | .nil => by simp [insert, erase]
  | .cons k v fs => by
    rw [insert]
    split
    · rename_i hk
      simp [erase, hk]
    · split
      · simp [erase]
      · simp [erase, erase_insert]

theorem Json.Fields.not_mem_keys_erase {key : String} :
    ∀ {fs : Fields}, key ∉ (fs.erase key).keys
  | .nil => by simp [erase, keys]
  | .cons k v fs => by
    rw [erase]
    split
    · exact not_mem_keys_erase
    · rename_i hk
      simp [keys, Ne.symm hk, not_mem_keys_erase]

namespace Lifecycle

open Effect Check Domain Recovery

variable {db db₁ : Store} {app next : LifecycleRecord} {snapshot closed : OperationRecord}
  {progress : OperationProgress} {executorId : String} {checkpoint : Json} {message : Option String}

/-- The kinds whose failures have to keep the evidence that was captured. -/
def OperationKind.keepsEvidence (kind : OperationKind) : Bool :=
  kind.isDeletion || kind = .destroyProdStorage || kind = .destroyDevStorage ||
    kind = .clearProdStorage || kind = .clearDevStorage

/-- A field can be added to nothing but an object or null. The strict readers of the database
operations refuse it, and captured evidence must not have it yet, or have it with this value. -/
def OperationRecord.takesRelease (operation : OperationRecord) (evidence : Json) : Bool :=
  match operation.checkpoint with
  | .null => true
  | .obj fields =>
    !operation.kind.isPasswordReset && operation.kind ≠ .prepareProdDatabase &&
      (!operation.kind.keepsEvidence || !fields.keys.contains fenceReleasedEvidenceKey ||
        fields.insert fenceReleasedEvidenceKey evidence = fields)
  | _ => false

/-- The failure that leaves the checkpoint as it is. -/
def plainFailure (operation : OperationRecord) (executorId : String) (message : Option String) :
    OperationProgress :=
  report operation executorId .failed operation.step operation.checkpoint
    (operation.errorCode <|> some "ERR_CONFLICT") message

/-- Evidence that was captured for a database is read with its own fields only. -/
theorem not_passwordReset {operation : OperationRecord} {fields : Json.Fields}
    (hstored : operation.checkpoint ≠ .null) (hcheckpoint : progress.checkpoint = .obj fields)
    (hkey : fenceReleasedEvidenceKey ∈ fields.keys)
    (hvalid : validateDatabasePasswordProgress operation progress = .ok ()) :
    operation.kind.isPasswordReset = false := by
  by_contra hreset
  unfold validateDatabasePasswordProgress at hvalid
  rw [if_neg (by simpa [OperationKind.isPasswordReset] using hreset), if_neg hstored] at hvalid
  obtain ⟨before, -, h⟩ := demand_bind hvalid
  obtain ⟨after, hread, -⟩ := demand_bind h
  rw [hcheckpoint] at hread
  exact absurd (Json.strict_keys hread _ hkey) (by decide)

theorem not_prepareProdDatabase {operation : OperationRecord} {fields : Json.Fields}
    (hstored : operation.checkpoint ≠ .null) (hcheckpoint : progress.checkpoint = .obj fields)
    (hkey : fenceReleasedEvidenceKey ∈ fields.keys)
    (hvalid : validateDatabasePreparationProgress operation progress = .ok ()) :
    operation.kind ≠ .prepareProdDatabase := by
  intro hprepare
  unfold validateDatabasePreparationProgress at hvalid
  rw [if_neg (by simp [hprepare]), if_neg fun h => hstored h.1] at hvalid
  obtain ⟨after, hread, -⟩ := demand_bind hvalid
  rw [hcheckpoint] at hread
  exact absurd (Json.strict_keys hread _ hkey) (by decide)

theorem preserved_of_valid {operation : OperationRecord} (hfailed : progress.state = .failed)
    (hdeletion : validateDeletionProgress operation progress = .ok ())
    (hdestruction : validateStorageDestructionProgress operation progress = .ok ())
    (hclear : validateStorageClearProgress app operation progress = .ok ())
    (hkeeps : operation.kind.keepsEvidence = true) :
    failureCheckpointPreserved operation.checkpoint progress.checkpoint = true := by
  simp only [OperationKind.keepsEvidence, Bool.or_eq_true, decide_eq_true_eq] at hkeeps
  obtain (((hk | hk) | hk) | hk) | hk := hkeeps
  · simpa [validateDeletionProgress, hk, hfailed, isFailure] using hdeletion
  all_goals
    simp_all [validateStorageDestructionProgress, validateDestruction,
      validateStorageClearProgress, validateClear, isFailure]

variable {evidence : Json} (htakes : snapshot.takesRelease evidence = true)
  (hassign : snapshot.checkpoint.assign fenceReleasedEvidenceKey evidence = some checkpoint)
include htakes hassign

theorem preserved_of_takesRelease
    (hkept : snapshot.kind.keepsEvidence = true ∨ snapshot.checkpoint = .null) :
    failureCheckpointPreserved snapshot.checkpoint checkpoint = true := by
  unfold OperationRecord.takesRelease at htakes
  split at htakes
  · rename_i hnull
    rw [hnull] at hassign ⊢
    cases hassign
    simp [failureCheckpointPreserved, Json.Fields.erase]
  · rename_i fields hobj
    rw [hobj] at hassign ⊢
    cases hassign
    obtain hkey | hsame : fenceReleasedEvidenceKey ∉ fields.keys ∨
        fields.insert fenceReleasedEvidenceKey evidence = fields := by simp_all
    · simp [failureCheckpointPreserved, Json.Fields.erase_insert,
        Json.Fields.erase_of_not_mem hkey]
    · simp [failureCheckpointPreserved, hsame]
  · cases htakes

/-- Every kind that takes its plain failure takes the release. -/
theorem validateProgress_released (message : Option String) {operation : OperationRecord}
    (hkind : operation.kind = snapshot.kind) (hsame : operation.checkpoint = snapshot.checkpoint)
    (hfailed : progress.state = .failed)
    (hplain : validateProgress app operation progress = .ok ()) :
    validateProgress app operation { progress with checkpoint, errorMessage := message } =
      .ok () := by
  obtain ⟨hstate, h⟩ := failIf_bind hplain
  obtain ⟨hends, -⟩ := failIf_bind h
  have hkept (hk : snapshot.kind.keepsEvidence = true) :=
    preserved_of_takesRelease htakes hassign (.inl hk)
  have hnull (hk : snapshot.checkpoint = .null) :=
    preserved_of_takesRelease htakes hassign (.inr hk)
  have hread (hk : snapshot.kind.isPasswordReset = true ∨ snapshot.kind = .prepareProdDatabase) :
      snapshot.checkpoint = .null := by
    unfold OperationRecord.takesRelease at htakes
    split at htakes <;> simp_all
  simp only [OperationKind.keepsEvidence, OperationKind.isPasswordReset, Bool.or_eq_true,
    decide_eq_true_eq] at hkept hread
  unfold validateProgress
  rw [failIf_passed hstate, failIf_passed hends]
  simp only [bind_eq_ok]
  refine ⟨(), ?_, (), ?_, (), ?_, (), ?_, ?_⟩
  · unfold validateDeletionProgress
    simp only [hkind, hsame, hfailed, isFailure]
    split <;> simp_all [pure, Except.pure]
  · unfold validateStorageDestructionProgress validateDestruction
    simp only [hkind, hsame, hfailed, isFailure]
    split <;> simp_all [pure, Except.pure]
  · unfold validateStorageClearProgress validateClear
    simp only [hkind, hsame, hfailed, isFailure]
    split <;> simp_all [pure, Except.pure]
  · unfold validateDatabasePasswordProgress
    simp only [hkind, hsame, hfailed, withoutEvidence, isFailure]
    split
    · rfl
    · have hcheckpoint := hread (by tauto)
      simp_all
  · unfold validateDatabasePreparationProgress
    simp only [hkind, hsame, hfailed, withoutEvidence, isFailure]
    split <;> simp_all [pure, Except.pure]

theorem advance_released
    (hplain : Domain.advance app (hop snapshot) (plainFailure snapshot executorId message) =
      .ok (next, closed)) (message' : Option String) :
    Domain.advance app (hop snapshot) (report snapshot executorId .failed snapshot.step checkpoint
      (snapshot.errorCode <|> some "ERR_CONFLICT") message') =
      .ok (next, { closed with checkpoint, errorMessage := message' }) ∧
    next = vacate app snapshot .failed := by
  obtain ⟨hlife, h⟩ := failIf_bind hplain
  obtain ⟨hslot, h⟩ := failIf_bind h
  obtain ⟨running, hclaimed, h⟩ := bind_eq_ok.mp h
  obtain ⟨_, hvalid, h⟩ := bind_eq_ok.mp h
  obtain ⟨-, -, hrunning⟩ := claimed_ok hclaimed
  have hvalid := validateProgress_released htakes hassign message' (by rw [hrunning]; rfl)
    (by rw [hrunning]; rfl) rfl hvalid
  obtain ⟨app', happ, h⟩ := bind_eq_ok.mp h
  obtain ⟨revision, hrevision, h⟩ := demand_bind h
  cases h
  have hvacated : next = vacate app running .failed := (Except.ok.inj happ).symm
  rw [hrunning] at hvacated
  refine ⟨(failIf_passed hlife).trans ((failIf_passed hslot).trans ?_), hvacated⟩
  refine bind_eq_ok.mpr ⟨running, hclaimed, bind_eq_ok.mpr ⟨(), hvalid, ?_⟩⟩
  refine bind_eq_ok.mpr ⟨next, happ, bind_eq_ok.mpr ⟨revision, ?_, rfl⟩⟩
  exact demand_eq_ok.mpr hrevision

omit htakes

/-- Where a failure is accepted with the field added, the checkpoint takes the release. -/
theorem takesRelease_of_validateProgress {operation : OperationRecord}
    (hkind : operation.kind = snapshot.kind) (hsame : operation.checkpoint = snapshot.checkpoint)
    (hfailed : progress.state = .failed) (hcheckpoint : progress.checkpoint = checkpoint)
    (hvalid : validateProgress app operation progress = .ok ()) :
    snapshot.takesRelease evidence = true := by
  obtain ⟨-, h⟩ := failIf_bind hvalid
  obtain ⟨-, h⟩ := failIf_bind h
  simp only [bind_eq_ok] at h
  obtain ⟨_, hdeletion, _, hdestruction, _, hclear, _, hpassword, hpreparation⟩ := h
  unfold OperationRecord.takesRelease
  cases hc : snapshot.checkpoint with
  | null => rfl
  | obj fields =>
    rw [hc] at hassign hsame
    obtain rfl := Option.some.inj hassign
    have hkey : fenceReleasedEvidenceKey ∈
        (fields.insert fenceReleasedEvidenceKey evidence).keys := by simp
    have hstored : operation.checkpoint ≠ .null := by rw [hsame]; exact Json.noConfusion
    have hreset := not_passwordReset hstored hcheckpoint hkey hpassword
    have hprepare := not_prepareProdDatabase hstored hcheckpoint hkey hpreparation
    have hkept := preserved_of_valid hfailed hdeletion hdestruction hclear
    rw [hkind] at hreset hprepare hkept
    rw [hsame, hcheckpoint] at hkept
    cases hkeeps : snapshot.kind.keepsEvidence with
    | false => simp [hreset, hprepare]
    | true =>
      have hkept := hkept hkeeps
      simp only [failureCheckpointPreserved, Json.Fields.erase_insert, Bool.or_eq_true,
        Bool.and_eq_true, decide_eq_true_eq, Json.obj.injEq, reduceCtorEq, false_and, false_or]
        at hkept
      obtain hsame | herased := hkept
      · simp [hreset, hprepare, ← hsame]
      · have habsent : fenceReleasedEvidenceKey ∉ fields.keys := by
          rw [herased]
          exact Json.Fields.not_mem_keys_erase
        simp [hreset, hprepare, habsent]
  | _ =>
    rw [hc] at hassign
    cases hassign

omit hassign

theorem saveOperation_returns (hstored : db.operations.find? snapshot.operationId = some snapshot)
    (hreadable : Store.Readable snapshot) (hmerge : mergeProgress snapshot closed = closed)
    (hrevision : 1 ≤ closed.revision) (hstate : closed.state ≠ .running) :
    Returns (saveOperation closed snapshot) db fun _ t =>
      t.apps = db.apps ∧ t.slots = db.slots := by
  obtain ⟨hid, happ, hlife, hscope, hkind⟩ := mergeProgress_same hmerge
  refine .failIf_bind (by simp [hkind, hscope, hreadable.scope]) ?_
  refine .failIf_bind (by omega) ?_
  refine .demand_bind (hid ▸ hstored) ?_
  refine .failIf_bind (by simp [happ, hlife]) ?_
  exact .failIf_bind (by simp [hstate]) ⟨_, _, rfl, rfl, rfl⟩

/-- An application that was read can be saved with one of its slots vacated. -/
theorem saveApp_returns {appId : String} (happ : db.readApp appId = .ok (some app))
    (hfits : ¬app.runtimePolicy.idleTimeoutSeconds.any (i64Max < ·)) {t : Store}
    (happs : t.apps = db.apps) (hslots : t.slots = db.slots) (operation : OperationRecord)
    (state : OperationState) :
    Returns (do
      saveApp (vacate app operation state) app.lifecycleId app.metadataRevision
      saveSlots (vacate app operation state) app) t fun _ _ => True := by
  obtain ⟨row, slots, hrow, hslot, h⟩ := Store.readApp_rows happ
  obtain ⟨hempty, h⟩ := failIf_bind h
  obtain ⟨hsame, h⟩ := failIf_bind h
  obtain ⟨hexclusive, h⟩ := failIf_bind h
  obtain ⟨hdistinct, h⟩ := failIf_bind h
  obtain ⟨-, h⟩ := failIf_bind h
  obtain ⟨hpositive, h⟩ := failIf_bind h
  cases h
  obtain rfl : row.appId = appId := Table.find?_key hrow
  refine .bind (R := fun _ t => t.slots = db.slots) ?_ fun _ t₁ hslots => ?_
  · refine .demand_bind (a := row) (by simp [happs, hrow, vacate]) ?_
    refine .fromExcept_bind ((failIf_passed hpositive).trans (failIf_passed hfits)) ?_
    exact .failIf_bind (not_or.mp hempty).2 ⟨_, _, rfl, hslots⟩
  · have hlife : slots.lifecycleId = row.lifecycleId := (not_not.mp (not_or.mp hsame).2).symm
    refine .demand_bind (a := slots) (by simp [hslots, hslot, vacate, hlife]) ?_
    refine .failIf_bind ?_ (.failIf_bind ?_ ⟨_, _, rfl, trivial⟩)
    · cases hscope : operation.scope <;> simp_all [vacate, ActiveOperations.set]
    · cases hscope : operation.scope <;> simp_all [vacate, ActiveOperations.set]

theorem gives_takesRelease (releaseNote : String) :
    Gives (settleFencedOperation snapshot evidence releaseNote) db fun _ _ =>
      snapshot.takesRelease evidence = true := by
  refine (gives_currentSnapshot snapshot _).bind fun found _ h => ?_
  obtain ⟨_, operation⟩ := found
  obtain ⟨-, -, rfl, -⟩ := h
  refine .fromExcept_bind fun checkpoint hassign => .demand_bind fun executorId _ => ?_
  refine .fromExcept_bind fun advanced hadvance => ?_
  obtain ⟨-, h⟩ := failIf_bind hadvance
  obtain ⟨-, h⟩ := failIf_bind h
  obtain ⟨running, hclaimed, h⟩ := bind_eq_ok.mp h
  obtain ⟨_, hvalid, -⟩ := bind_eq_ok.mp h
  obtain ⟨-, -, hrunning⟩ := claimed_ok hclaimed
  intro _ _ _
  refine takesRelease_of_validateProgress (demand_eq_ok.mp hassign) ?_ ?_ rfl rfl hvalid
  · rw [hrunning]
    rfl
  · rw [hrunning]
    rfl

/-- Wherever the plain failure of a fenced operation is accepted, the fence can be released with
this evidence exactly if the checkpoint takes it: the release leaves what the plain failure leaves,
with the evidence in the checkpoint and a text of its own. The idle timeout is kept in a signed
column. -/
theorem fence_released (evidence : Json) (releaseNote : String)
    (hcurrent : currentOperation snapshot.appId snapshot.operationId snapshot.lifecycleId db =
      .ok (app, snapshot) db₁)
    (hfits : ¬app.runtimePolicy.idleTimeoutSeconds.any (i64Max < ·))
    (hstate : snapshot.state = .recoveryRequired)
    (hexecutor : snapshot.executorId = some executorId)
    (hplain : Domain.advance app (hop snapshot) (plainFailure snapshot executorId message) =
      .ok (next, closed)) :
    (snapshot.takesRelease evidence = true → ∃ checkpoint released,
      snapshot.checkpoint.assign fenceReleasedEvidenceKey evidence = some checkpoint ∧
      released = { closed with
        checkpoint
        errorMessage := some (snapshot.errorMessage.getD "operation fenced" ++
          "; fence released: " ++ releaseNote) } ∧
      Returns (settleFencedOperation snapshot evidence releaseNote) db fun settled t =>
        settled = released ∧ t.ledger = (db.ledger.setOperation released).saveApp next) ∧
    (Returns (settleFencedOperation snapshot evidence releaseNote) db (fun _ _ => True) →
      snapshot.takesRelease evidence = true) := by
  refine ⟨fun htakes => ?_, fun hreturns => ?_⟩
  swap
  · obtain ⟨settled, t, hsettled, -⟩ := hreturns
    exact gives_takesRelease releaseNote settled t hsettled
  have hassigned : ∃ checkpoint,
      snapshot.checkpoint.assign fenceReleasedEvidenceKey evidence = some checkpoint := by
    unfold OperationRecord.takesRelease at htakes
    split at htakes <;> simp_all [Json.assign]
  obtain ⟨checkpoint, hassign⟩ := hassigned
  obtain ⟨hsame, hin, -, -, -, happ⟩ := gives_currentOperation _ _ _ _ _ hcurrent
  rw [← hsame] at hin
  obtain ⟨hreleased, hnext⟩ := advance_released htakes hassign hplain (some
    (snapshot.errorMessage.getD "operation fenced" ++ "; fence released: " ++ releaseNote))
  have hadv := Domain.advance_ok hreleased
  refine ⟨checkpoint, _, hassign, rfl, ?_⟩
  have hsnapshot : Returns (currentSnapshot snapshot
      (snapshot.state = .recoveryRequired && snapshot.executorId.isSome)) db fun found t =>
        found = (app, snapshot) ∧ t = db₁ := by
    refine .bind (R := fun found t => found = (app, snapshot) ∧ t = db₁)
      ⟨_, _, hcurrent, rfl, rfl⟩ fun found t h => ?_
    obtain ⟨rfl, rfl⟩ := h
    exact .failIf_bind (by simp [hstate, hexecutor]) ⟨_, _, rfl, rfl, rfl⟩
  refine hsnapshot.bind fun found t h => ?_
  obtain ⟨rfl, rfl⟩ := h
  refine .fromExcept_bind (demand_eq_ok.mpr hassign) (.demand_bind hexecutor ?_)
  refine .fromExcept_bind hreleased ?_
  have hrevision : closed.revision = snapshot.revision + 1 :=
    congrArg OperationRecord.revision hadv.record
  have hfailed : closed.state = .failed := congrArg OperationRecord.state hadv.record
  have hpositive : 1 ≤ snapshot.revision := hin.readable.revision
  have hmerge : mergeProgress snapshot _ = _ := hadv.merge
  obtain ⟨_, saved, hsaved, -⟩ := (saveOperation_returns hin.stored hin.readable hmerge
    (by dsimp only; omega) (by simp [hfailed])).bind fun _ t h =>
      saveApp_returns happ hfits h.1 h.2 snapshot .failed
  rw [← hnext] at hsaved
  have hledger := gives_saveProgress hin.stored hmerge _ _ hsaved
  rw [hsame] at hledger
  exact .bind (R := fun _ t => t = saved) ⟨_, _, hsaved, rfl⟩ fun _ t h =>
    ⟨_, _, rfl, rfl, h ▸ hledger⟩

/-- Of the operation `reset` that is fenced in the store. -/
def fencedReset (db : Store) (p : LifecycleRecord → OperationRecord → Bool) : Bool :=
  match currentOperation "app" "reset" "life" db with
  | .ok (app, reset) _ => reset.lifecycleId = "life" && reset.state = .recoveryRequired &&
      reset.executorId = some "executor-reset" && p app reset
  | .error .. => false

theorem of_fencedReset {p : LifecycleRecord → OperationRecord → Bool}
    (h : fencedReset db p = true) :
    ∃ app reset db₁, currentOperation reset.appId reset.operationId reset.lifecycleId db =
        .ok (app, reset) db₁ ∧ reset.state = .recoveryRequired ∧
      reset.executorId = some "executor-reset" ∧ p app reset = true := by
  unfold fencedReset at h
  split at h
  · rename_i app reset db₁ hcurrent
    simp only [Bool.and_eq_true, decide_eq_true_eq] at h
    obtain ⟨⟨⟨hlife, hstate⟩, hexecutor⟩, hp⟩ := h
    obtain ⟨-, hin, happ, hid, -⟩ := gives_currentOperation _ _ _ _ _ hcurrent
    exact ⟨app, reset, db₁, by rw [hin.sameApp, happ, hid, hlife, hcurrent], hstate, hexecutor, hp⟩
  · cases h

/-- The executor of a reset is lost in the step `step`, with this checkpoint reported. -/
def lostReset (step : String) (checkpoint : Json) : Store :=
  store.after {} (orderlyReset.take 1 ++
    [.advance (Sample.progress "reset" 1 .running step checkpoint),
      .advance (Sample.progress "reset" 2 .recoveryRequired step checkpoint)])

theorem fence_released_lostReset : ∃ reset, Returns
    (settleFencedOperation reset (.bool true) "gone") (lostReset "claimed" .null) fun settled _ =>
      settled.checkpoint.get fenceReleasedEvidenceKey = some (.bool true) := by
  have hcheck : fencedReset (lostReset "claimed" .null) (fun app reset =>
      !app.runtimePolicy.idleTimeoutSeconds.any (i64Max < ·) && reset.checkpoint = .null &&
        (Domain.advance app (hop reset) (plainFailure reset "executor-reset" none)).isOk) =
          true := by
    decide +kernel
  obtain ⟨app, reset, db₁, hcurrent, hstate, hexecutor, h⟩ := of_fencedReset hcheck
  simp only [Bool.and_eq_true, Bool.not_eq_true', decide_eq_true_eq] at h
  obtain ⟨⟨hfits, hnull⟩, hok⟩ := h
  cases hplain : Domain.advance app (hop reset) (plainFailure reset "executor-reset" none) with
  | error => simp [hplain, Except.toBool] at hok
  | ok =>
    obtain ⟨checkpoint, released, hassign, hreleased, hreturns⟩ :=
      (fence_released (.bool true) "gone" hcurrent (by rw [hfits]; simp) hstate hexecutor hplain).1
        (by simp [OperationRecord.takesRelease, hnull])
    rw [hnull] at hassign
    cases hassign
    obtain ⟨settled, t, hsettled, hsame, -⟩ := hreturns
    exact ⟨reset, settled, t, hsettled, by rw [hsame, hreleased]; rfl⟩

/-- A reset that was captured reads its checkpoint strictly, and is never released. -/
theorem captured_reset_fenced :
    ∃ app reset db, currentOperation reset.appId reset.operationId reset.lifecycleId
        (lostReset "captured" (Sample.passwordReset "captured")) = .ok (app, reset) db ∧
      reset.state = .recoveryRequired ∧ reset.executorId = some "executor-reset" ∧
      (Domain.advance app (hop reset) (plainFailure reset "executor-reset" none)).isOk = true ∧
      (transact (settleFencedOperation reset .null "")
        (lostReset "captured" (Sample.passwordReset "captured"))).1.isOk = false := by
  have hcheck : fencedReset (lostReset "captured" (Sample.passwordReset "captured"))
      (fun app reset =>
        (Domain.advance app (hop reset) (plainFailure reset "executor-reset" none)).isOk &&
          !(transact (settleFencedOperation reset .null "")
            (lostReset "captured" (Sample.passwordReset "captured"))).1.isOk) = true := by
    decide +kernel
  obtain ⟨app, reset, db₁, hcurrent, hstate, hexecutor, h⟩ := of_fencedReset hcheck
  simp only [Bool.and_eq_true, Bool.not_eq_true'] at h
  exact ⟨app, reset, db₁, hcurrent, hstate, hexecutor, h.1, h.2⟩

end Lifecycle

end Rcoder
