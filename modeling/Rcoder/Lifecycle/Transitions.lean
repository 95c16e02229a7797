import Rcoder.Lifecycle.Ledger

/-!
# What the pure transitions establish

One lemma for each pure transition of the lifecycle: metadata patches, admission, progress and
the closing of an operation. Later modules cite these and never unfold the transitions.
-/

namespace Rcoder.Lifecycle

open Check

/-- The metadata is unchanged, or it is the next revision. -/
def MetadataStep (app app' : LifecycleRecord) : Prop :=
  app'.metadataRevision = app.metadataRevision + 1 ∨
    (app'.metadataRevision = app.metadataRevision ∧ app'.name = app.name ∧
      app'.tenantId = app.tenantId ∧ app'.spaceId = app.spaceId ∧
      app'.runtimePolicy = app.runtimePolicy)

theorem MetadataStep.refl (app : LifecycleRecord) : MetadataStep app app :=
  .inr ⟨rfl, rfl, rfl, rfl, rfl⟩

structure SameIncarnation (app app' : LifecycleRecord) : Prop where
  appId : app'.appId = app.appId
  lifecycleId : app'.lifecycleId = app.lifecycleId
  epoch : app'.lifecycleEpoch = app.lifecycleEpoch
  metadata : MetadataStep app app'

theorem SameIncarnation.refl (app : LifecycleRecord) : SameIncarnation app app :=
  ⟨rfl, rfl, rfl, .refl app⟩

namespace Domain

/-! ### Metadata -/

variable {app app' : LifecycleRecord} {active : ActiveOperationRecords} {request : Admission}
  {now : Int} {operation : OperationRecord} {outcome : AdmissionOutcome}

theorem validateActive_ok (h : validateActive app = .ok ()) : app.state = .active := by
  simpa [validateActive] using h

theorem patchMetadata_ok {patch : MetadataPatch} (h : patchMetadata app patch = .ok app') :
    app.state = .active ∧ app.appId = patch.appId ∧ app.lifecycleId = patch.lifecycleId ∧
      app.metadataRevision = patch.expectedRevision ∧ SameIncarnation app app' ∧
      app'.state = app.state ∧ app'.activeOperations = app.activeOperations := by
  obtain ⟨_, hactive, h⟩ := bind_eq_ok.mp h
  obtain ⟨hid, h⟩ := failIf_bind h
  obtain ⟨hrev, h⟩ := failIf_bind h
  obtain ⟨happ, hlife⟩ := not_or.mp hid
  refine ⟨validateActive_ok hactive, not_not.mp happ, not_not.mp hlife, not_not.mp hrev, ?_⟩
  dsimp only at h
  split at h
  · obtain ⟨revision, hnext, h⟩ := demand_bind h
    cases h
    exact ⟨⟨rfl, rfl, rfl, .inl (checkedSucc_eq_some hnext)⟩, rfl, rfl⟩
  · cases h
    exact ⟨.refl app, rfl, rfl⟩

/-! ### Admission -/

theorem blocker_none {scope : OperationScope} (h : blocker active scope = none) :
    ∀ blockerScope, scope.blocksRequest blockerScope = true → active.slot blockerScope = none := by
  intro blockerScope hblocks
  have hmem : blockerScope ∈ OperationScope.blockers.filter scope.blocksRequest :=
    List.mem_filter.mpr ⟨by cases blockerScope <;> simp [OperationScope.blockers], hblocks⟩
  have hnone := List.findSome?_eq_none_iff.mp h blockerScope hmem
  simpa using hnone

/-- An accepted request: a fresh record in a slot that was free. -/
structure Accepted (app : LifecycleRecord) (request : Admission) (active : ActiveOperationRecords)
    (now : Int) (app' : LifecycleRecord) (operation : OperationRecord) : Prop where
  wasActive : app.state = .active
  free : ∀ scope, request.kind.scope.blocksRequest scope = true → active.slot scope = none
  patches : ∀ patch, request.metadata = some patch → app.appId = patch.appId ∧
    app.lifecycleId = patch.lifecycleId ∧ app.metadataRevision = patch.expectedRevision
  application : ∃ patched, SameIncarnation app patched ∧ patched.state = app.state ∧
    patched.activeOperations = app.activeOperations ∧ app' = occupy patched operation ∧
    operation = admitted patched request now

theorem Accepted.same
    (h : Accepted app request active now app' operation) : SameIncarnation app app' := by
  obtain ⟨patched, hsame, -, -, rfl, -⟩ := h.application
  exact ⟨hsame.appId, hsame.lifecycleId, hsame.epoch, hsame.metadata⟩

theorem accept_ok (hactive : app.state = .active)
    (h : accept app request active now = .ok (app', outcome)) :
    ∃ operation, outcome = .accepted operation ∧
      Accepted app request active now app' operation := by
  unfold accept at h
  cases hb : blocker active request.kind.scope with
  | some => simp [hb] at h
  | none =>
    simp only [hb] at h
    cases hm : request.metadata with
    | none =>
      simp only [hm] at h
      cases h
      exact ⟨_, rfl, hactive, blocker_none hb, fun patch hp => absurd hp (by simp [hm]), app,
        .refl app, rfl, rfl, rfl, rfl⟩
    | some =>
      simp only [hm] at h
      obtain ⟨patched, hpatch, h⟩ := bind_eq_ok.mp h
      cases h
      obtain ⟨-, happ, hlife, hrevision, hsame, hstate, hslots⟩ := patchMetadata_ok hpatch
      refine ⟨_, rfl, hactive, blocker_none hb, fun other hother => ?_, patched, hsame, hstate,
        hslots, rfl, rfl⟩
      rw [hm] at hother
      obtain rfl := Option.some.inj hother
      exact ⟨happ, hlife, hrevision⟩

/-- The duplicate carries the same parameters as the request. -/
def SameRequest (request : Admission) (operation : OperationRecord) : Prop :=
  operation.kind = request.kind ∧ operation.scope = request.kind.scope ∧
    operation.command = request.command ∧
    operation.runtimePolicyOnSuccess = request.runtimePolicyOnSuccess ∧
    operation.requestFingerprint = request.requestFingerprint ∧
    operation.admittedMetadata = request.metadata

inductive Admits (app : LifecycleRecord) (request : Admission)
    (active : ActiveOperationRecords) (now : Int) :
    Option OperationRecord → LifecycleRecord → AdmissionOutcome → Prop
  | replay {operation : OperationRecord} (lifecycle : operation.lifecycleId = app.lifecycleId)
      (same : SameRequest request operation) :
      Admits app request active now (some operation) app (.existing operation)
  | join {operation : OperationRecord} (inSlot : active.dev = some operation)
      (joined : joins app request operation = true) :
      Admits app request active now none app (.existing operation)
  | accept {app' : LifecycleRecord} {operation : OperationRecord}
      (accepted : Accepted app request active now app' operation) :
      Admits app request active now none app' (.accepted operation)

theorem replay_ok {duplicate : OperationRecord} (h : replay app request duplicate = .ok outcome) :
    duplicate.lifecycleId = app.lifecycleId ∧ SameRequest request duplicate ∧
      outcome = .existing duplicate := by
  obtain ⟨hlife, h⟩ := failIf_bind h
  obtain ⟨hsame, h⟩ := failIf_bind h
  cases h
  exact ⟨not_not.mp hlife, not_not.mp hsame, rfl⟩

theorem admission_ok {duplicate : Option OperationRecord}
    (h : admission app request duplicate active now = .ok (app', outcome)) :
    validateRequest request = .ok () ∧ validateLifecycle app request = .ok () ∧
      Admits app request active now duplicate app' outcome := by
  obtain ⟨_, hrequest, h⟩ := bind_eq_ok.mp h
  obtain ⟨_, hlife, h⟩ := bind_eq_ok.mp h
  refine ⟨hrequest, hlife, ?_⟩
  cases duplicate with
  | some =>
    obtain ⟨answer, hreplay, h⟩ := bind_eq_ok.mp h
    cases h
    obtain ⟨hl, hsame, rfl⟩ := replay_ok hreplay
    exact .replay hl hsame
  | none =>
    obtain ⟨_, hactive, h⟩ := bind_eq_ok.mp h
    cases hj : active.dev.filter (joins app request) with
    | some =>
      simp only [hj] at h
      cases h
      obtain ⟨hdev, hjoins⟩ := Option.filter_eq_some_iff.mp hj
      exact .join hdev hjoins
    | none =>
      simp only [hj] at h
      obtain ⟨operation, rfl, haccepted⟩ := accept_ok (validateActive_ok hactive) h
      exact .accept haccepted

/-! ### Closing -/

theorem publishPolicy_ok {policy : RuntimePolicy} (h : publishPolicy app policy = .ok app') :
    SameIncarnation app app' ∧ app'.state = app.state ∧
      app'.activeOperations = app.activeOperations := by
  unfold publishPolicy at h
  split at h
  · obtain ⟨revision, hnext, h⟩ := demand_bind h
    cases h
    exact ⟨⟨rfl, rfl, rfl, .inl (checkedSucc_eq_some hnext)⟩, rfl, rfl⟩
  · cases h
    exact ⟨.refl app, rfl, rfl⟩

def closedState (app : LifecycleRecord) (operation : OperationRecord) (state : OperationState) :
    LifecycleState :=
  if operation.kind.endsLifecycle then if state = .succeeded then .deleted else .active
  else app.state

structure Closes (app : LifecycleRecord) (operation : OperationRecord) (ends : OperationState)
    (app' : LifecycleRecord) : Prop where
  same : SameIncarnation app app'
  state : app'.state = closedState app operation ends
  slots : app'.activeOperations = app.activeOperations.set operation.scope none
  unpublished : ends ≠ .succeeded → app' = vacate app operation ends

theorem close_ok {state : OperationState} (h : close app operation state = .ok app') :
    Closes app operation state app' := by
  have hclosed : ∀ published : LifecycleRecord, SameIncarnation app published →
      published.state = app.state → published.activeOperations = app.activeOperations →
      (state ≠ .succeeded → published = app) →
      Closes app operation state (vacate published operation state) := by
    intro published hsame hstate hslots hunpublished
    refine ⟨⟨hsame.appId, hsame.lifecycleId, hsame.epoch, hsame.metadata⟩, ?_, ?_, ?_⟩
    · simp only [vacate, closedState, hstate]
    · simp only [vacate, hslots]
    · intro hs
      rw [hunpublished hs]
  unfold close at h
  split at h
  · rename_i policy hpolicy
    obtain ⟨published, hpub, h⟩ := bind_eq_ok.mp h
    cases h
    obtain ⟨hsame, hstate, hslots⟩ := publishPolicy_ok hpub
    refine hclosed published hsame hstate hslots fun hs => ?_
    simp [hs] at hpolicy
  · cases h
    exact hclosed app (.refl app) rfl rfl fun _ => rfl

/-! ### Progress -/

def underExecutor (operation : OperationRecord) (executorId : String) : OperationRecord :=
  { operation with executorId := some executorId }

/-- A report on a record nobody holds claims it; any other one comes from its executor. -/
def ClaimedBy (operation : OperationRecord) (progress : OperationProgress) : Prop :=
  ((operation.state = .pending ∨ operation.state = .waitingRetry) ∧ progress.state = .running) ∨
    (operation.state = .running ∧ operation.executorId = some progress.executorId)

structure Advanced (app : LifecycleRecord) (operation : OperationRecord)
    (progress : OperationProgress) (app' : LifecycleRecord) (operation' : OperationRecord) :
    Prop where
  lifecycle : app.lifecycleId = progress.lifecycleId
  operationLifecycle : operation.lifecycleId = app.lifecycleId
  inSlot : app.activeOperations.slot operation.scope = some operation.operationId
  revision : operation.revision = progress.expectedRevision
  executor : progress.executorId ≠ ""
  claim : ClaimedBy operation progress
  valid : validateProgress app (underExecutor operation progress.executorId) progress = .ok ()
  record : operation' =
    progressed (underExecutor operation progress.executorId) progress (operation.revision + 1)
  application : if progress.state.isTerminal then Closes app operation progress.state app'
    else app' = app

variable {progress : OperationProgress}

theorem claimed_ok {claimed' : OperationRecord} (h : claimed operation progress = .ok claimed') :
    progress.executorId ≠ "" ∧ ClaimedBy operation progress ∧
      claimed' = underExecutor operation progress.executorId := by
  obtain ⟨hid, h⟩ := failIf_bind h
  obtain ⟨claim, hclaim, h⟩ := demand_bind h
  cases h
  refine ⟨fun h0 => hid (by rw [h0]; decide), ?_⟩
  unfold authorizeProgressClaim at hclaim
  cases hs : operation.state <;> simp only [hs] at hclaim <;>
    simp only [Option.ite_none_right_eq_some, Option.some.injEq, reduceCtorEq,
      decide_eq_true_eq] at hclaim
  case pending =>
    obtain ⟨hrun, rfl⟩ := hclaim
    exact ⟨.inl ⟨.inl hs, hrun⟩, by simp [underExecutor, hs]⟩
  case waitingRetry =>
    obtain ⟨hrun, rfl⟩ := hclaim
    exact ⟨.inl ⟨.inr hs, hrun⟩, by simp [underExecutor, hs]⟩
  case running =>
    obtain ⟨hexec, rfl⟩ := hclaim
    refine ⟨.inr ⟨hs, hexec⟩, ?_⟩
    simp [underExecutor, ← hexec]

theorem advance_ok {operation' : OperationRecord}
    (h : advance app operation progress = .ok (app', operation')) :
    Advanced app operation progress app' operation' := by
  obtain ⟨hlife, h⟩ := failIf_bind h
  obtain ⟨hslot, h⟩ := failIf_bind h
  obtain ⟨claimed', hclaimed, h⟩ := bind_eq_ok.mp h
  obtain ⟨_, hvalid, h⟩ := bind_eq_ok.mp h
  obtain ⟨hexec, hclaim, rfl⟩ := claimed_ok hclaimed
  obtain ⟨happ, hop⟩ := not_or.mp hlife
  obtain ⟨hin, hrev⟩ := not_or.mp hslot
  have hadvanced : ∀ {app'' operation'' : _} {revision : Int},
      checkedSucc operation.revision = some revision →
      operation'' = progressed (underExecutor operation progress.executorId) progress revision →
      (if progress.state.isTerminal then Closes app operation progress.state app''
        else app'' = app) → Advanced app operation progress app'' operation'' := by
    intro app'' operation'' revision hnext hrecord hclosed
    rw [checkedSucc_eq_some hnext] at hrecord
    exact ⟨not_not.mp happ, (not_not.mp hop).trans (not_not.mp happ).symm, not_not.mp hin,
      not_not.mp hrev, hexec, hclaim, hvalid, hrecord, hclosed⟩
  split at h
  · obtain ⟨closed, hclosed, h⟩ := bind_eq_ok.mp h
    obtain ⟨revision, hrevision, h⟩ := demand_bind h
    cases h
    obtain ⟨hsame, hstate, hslots, hun⟩ := close_ok hclosed
    exact hadvanced hrevision rfl (by rw [if_pos ‹_›]; exact ⟨hsame, hstate, hslots, hun⟩)
  · obtain ⟨revision, hrevision, h⟩ := demand_bind h
    cases h
    exact hadvanced hrevision rfl (by rw [if_neg ‹_›])

namespace Advanced

variable {app app' : LifecycleRecord} {operation operation' : OperationRecord}
  {progress : OperationProgress}

variable (h : Advanced app operation progress app' operation')
include h

theorem merge : mergeProgress operation operation' = operation' := by
  rw [h.record]
  rfl

theorem kind_eq : operation'.kind = operation.kind := by
  rw [h.record]
  rfl

theorem checkpoint_eq : operation'.checkpoint = progress.checkpoint := by
  rw [h.record]
  rfl

theorem revision_eq : operation'.revision = operation.revision + 1 := by
  rw [h.record]
  rfl

theorem progress_running_or : operation.state.isTerminal = false := by
  obtain ⟨hs | hs, -⟩ | ⟨hs, -⟩ := h.claim <;> rw [hs] <;> rfl

end Advanced

end Domain

end Rcoder.Lifecycle
