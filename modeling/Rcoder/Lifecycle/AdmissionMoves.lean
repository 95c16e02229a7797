import Rcoder.Lifecycle.BusinessMoves

/-!
# Moves of admissions

How an admission is answered, and what it writes. Runtime configuration is bookkeeping as far
as the ledger is concerned: every transaction on it is quiet.
-/

namespace Rcoder.Lifecycle

open Effect Ledger Check Operations Store

variable {db : Store} {act : Act}

/-! ### Configuration -/

namespace Configuration

theorem quiet_currentApp (appId lifecycleId : String) : Quiet (currentApp appId lifecycleId) := by
  intro db
  refine (quiet_claimApp appId db).bind fun _ db₁ h₁ => ?_
  refine (gives_readApp appId).query_bind fun app _ => ?_
  exact .failIf_bind fun _ => .fromExcept_bind fun _ _ => .pure h₁

theorem quiet_insertVersion (appId : String) (scope : OperationScope) (request : SaveRequest)
    (previous : Option ConfigRow) (version : Int) :
    Quiet (insertVersion appId scope request previous version) := by
  intro db
  refine .get_bind (.failIf_bind fun _ => .update_bind ?_)
  cases previous with
  | none | some => exact .update rfl

theorem quiet_guardPasswordReset (app : LifecycleRecord) (scope : OperationScope) :
    Quiet (guardPasswordReset app scope) := by
  refine (Quiet.reads _).bind fun active => ?_
  split
  · exact Quiet.throw _
  · exact .pure ()

theorem quiet_save (appId : String) (scope : OperationScope) (request : SaveRequest) :
    Quiet (save appId scope request) := by
  refine (Quiet.fromExcept _).bind fun _ => (Quiet.failIf _ _).bind fun _ => ?_
  refine (Quiet.fromExcept _).bind fun _ => (Quiet.failIf _ _).bind fun _ => ?_
  refine (quiet_currentApp appId request.lifecycleId).bind fun app => ?_
  refine (Quiet.reads _).bind fun previous => Quiet.get_bind fun db => ?_
  cases savedBy db appId scope request with
  | some =>
    refine .failIf_bind fun _ => .demand_bind fun row _ => ?_
    exact .fromExcept_bind fun _ _ => .pure rfl
  | none =>
    refine (quiet_guardPasswordReset app scope db).bind fun _ db₁ h₁ => ?_
    rw [← h₁]
    refine .fromExcept_bind fun known _ => .failIf_bind fun _ => ?_
    refine .demand_bind fun version _ => ?_
    exact (quiet_insertVersion appId scope request previous version db₁).bind
      fun _ _ h₂ => .pure h₂

variable (operation : OperationRecord)

theorem quiet_seedDeploymentCredentials (pg : StartPgCredential)
    (seedRequestId : String) : Quiet (seedDeploymentCredentials operation pg seedRequestId) := by
  refine (Quiet.fromExcept _).bind fun _ => (Quiet.reads _).bind fun existing => ?_
  cases existing with
  | some => exact (Quiet.fromExcept _).bind fun _ => .reads _
  | none => exact (quiet_save _ _ _).bind fun _ => .pure ()

theorem quiet_insertCapture (version : Int) : Quiet (insertCapture operation version) :=
  fun _ => .get_bind (.failIf_bind fun _ => .update rfl)

theorem quiet_captureSelected (row : ConfigRow) : Quiet (captureSelected operation row) := by
  refine (Quiet.failIf _ _).bind fun _ => (Quiet.failIf _ _).bind fun _ => ?_
  cases selectedVersion operation row with
  | none => exact .pure ()
  | some version => exact quiet_insertCapture operation version

theorem quiet_capture : Quiet (capture operation) := by
  unfold capture
  split
  · exact Quiet.pure ()
  · refine (Quiet.reads _).bind fun found => ?_
    cases found with
    | none => exact .pure ()
    | some => exact (Quiet.fromExcept _).bind fun _ => quiet_captureSelected operation _

theorem quiet_owned (context : ExecutionContext) : Quiet (owned context) := by
  intro db
  refine .fromExcept_bind fun _ _ => ?_
  refine (gives_currentOperation _ _ _).bind fun found db₁ h₁ => ?_
  exact .failIf_bind fun _ => .pure h₁.1

theorem quiet_bind (context : ExecutionContext) (version : Int)
    (target : RuntimeConfigurationTarget) : Quiet (bind context version target) := by
  refine (Quiet.failIf _ _).bind fun _ => (quiet_owned context).bind fun operation => ?_
  refine (Quiet.reads _).bind fun found => (Quiet.demand _ _).bind fun row => ?_
  refine (Quiet.failIf _ _).bind fun _ => ?_
  cases row.target with
  | some => exact .failIf _ _
  | none => exact (Quiet.failIf _ _).bind fun _ => .update fun _ => rfl

theorem quiet_recordResult (context : ExecutionContext) (version : Int)
    (target : RuntimeConfigurationTarget) (credential : CredentialState) (business : BusinessState)
    : Quiet (recordResult context version target credential business) := by
  refine (quiet_owned context).bind fun operation => (Quiet.reads _).bind fun found => ?_
  refine (Quiet.demand _ _).bind fun row => (Quiet.failIf _ _).bind fun _ => ?_
  refine (Quiet.fromExcept _).bind fun _ => (Quiet.reads _).bind fun known => ?_
  refine (Quiet.demand _ _).bind fun current => (Quiet.fromExcept _).bind fun current => ?_
  exact (Quiet.failIf _ _).bind fun _ => .update fun _ => rfl

end Configuration

/-! ### Admission -/

theorem quiet_seedCredentials (operation : OperationRecord) (seedRequestId : String)
    (pg : StartPgCredential) : Quiet (seedCredentials operation seedRequestId pg) :=
  (Configuration.quiet_seedDeploymentCredentials _ _ _).bind fun _ => Configuration.quiet_capture _

theorem quiet_insertInput (operation : OperationRecord) (input : ExecutionInput) :
    Quiet (insertInput operation input) :=
  fun _ => .get_bind (.failIf_bind fun _ => .update rfl)

theorem quiet_forM {α : Type} (o : Option α) {f : α → Tx PUnit} (h : ∀ a, Quiet (f a)) :
    Quiet (o.forM f) := by
  cases o with
  | none => exact .pure _
  | some a => exact h a

def AdmissionOutcome.operation : AdmissionOutcome → OperationRecord
  | .accepted operation | .existing operation => operation

variable {request : Lifecycle.Admission} {mapping : Option RequestRow} {operation : OperationRecord}
  {previous app : LifecycleRecord} {outcome : AdmissionOutcome} {input : Option ExecutionInput}
  {seedRequestId : String} {pg : Option StartPgCredential}

theorem gives_recordAccepted
    :
    Gives (recordAccepted previous app operation input pg seedRequestId) db
      fun _ db' => db.ledger.operation operation.operationId = none ∧
        db'.ledger = (db.ledger.setOperation operation).saveApp app := by
  refine .reads_bind fun _ _ => .fromExcept_bind fun _ _ => ?_
  refine (gives_insertOperation operation).bind fun _ db₁ h₁ => ?_
  refine (quiet_forM pg (fun _ => quiet_seedCredentials _ _ _) db₁).bind fun _ db₂ h₂ => ?_
  refine (quiet_forM input (fun _ => quiet_insertInput _ _) db₂).bind fun _ db₃ h₃ => ?_
  refine (gives_saveApp app previous.lifecycleId previous.metadataRevision).bind fun _ db₄ h₄ => ?_
  refine (gives_saveSlots app previous).mono fun _ db₅ h₅ => ⟨h₁.1, ?_⟩
  have hledger : db₃.ledger = db.ledger.setOperation operation := h₃.trans (h₂.trans h₁.2)
  have hhistory : db₃.history = (db.ledger.setOperation operation).history :=
    congrArg Ledger.history hledger
  rw [h₅.2, h₄, hledger, hhistory]
  rfl

/-- What an admission writes for its outcome, besides the name of the request. -/
inductive Ledger.Records (L : Ledger) (app : LifecycleRecord) : AdmissionOutcome → Ledger → Prop
  | existing {operation : OperationRecord} : Records L app (.existing operation) L
  | accepted {operation : OperationRecord} (fresh : L.operation operation.operationId = none) :
      Records L app (.accepted operation) ((L.setOperation operation).saveApp app)

theorem gives_recordOutcome
    :
    Gives (recordOutcome previous app outcome input pg seedRequestId) db
      fun operation db' =>
        operation = outcome.operation ∧ db.ledger.Records app outcome db'.ledger := by
  cases outcome with
  | accepted =>
    refine gives_recordAccepted.bind fun _ db₁ h₁ => .pure ⟨rfl, ?_⟩
    rw [h₁.2]
    exact .accepted h₁.1
  | existing =>
    refine (quiet_forM pg (fun _ => .reads _) db).bind fun _ db₁ h₁ => .pure ⟨rfl, ?_⟩
    rw [h₁]
    exact .existing

inductive Ledger.NamesRequest (L : Ledger) (request : Admission) (operation : OperationRecord) :
    Ledger → Prop
  | anonymous (unnamed : request.requestId = none) : NamesRequest L request operation L
  | known {requestId : String} {row : RequestRow} (named : request.requestId = some requestId)
      (stored : L.request (request.appId, requestId) = some row)
      (target : ∃ lifecycleId, row.target = .control operation.operationId lifecycleId) :
      NamesRequest L request operation L
  | anew {requestId : String} (named : request.requestId = some requestId)
      (free : L.request (request.appId, requestId) = none) :
      NamesRequest L request operation (L.setRequest ⟨operation.appId, requestId,
        .control operation.operationId operation.lifecycleId⟩)

theorem gives_nameRequest (happ : operation.appId = request.appId)
    (hmapping : mapping = request.requestId.bind fun id =>
      db.ledger.request (request.appId, id)) :
    Gives (nameRequest request mapping operation) db fun _ db' =>
      db.ledger.NamesRequest request operation db'.ledger := by
  unfold nameRequest
  cases hr : request.requestId with
  | none => exact .pure (.anonymous hr)
  | some requestId =>
    have hmap : mapping = db.ledger.request (request.appId, requestId) := by
      rw [hmapping, hr]
      rfl
    cases hm : mapping with
    | some row =>
      refine .failIf fun htarget => ?_
      have htarget := not_not.mp htarget
      refine .known hr (hmap.symm.trans hm) ?_
      cases ht : row.target with
      | control operationId lifecycleId =>
        rw [ht] at htarget
        exact ⟨lifecycleId, by rw [Option.some.inj htarget]⟩
      | recreate => simp [ht, RequestTarget.operationId] at htarget
    | none =>
      refine .update ?_
      have hfree : db.ledger.request (request.appId, requestId) = none := hmap.symm.trans hm
      rw [ledger_insertRequest
        ⟨operation.appId, requestId, .control operation.operationId operation.lifecycleId⟩
        (by rw [happ]; exact hfree)]
      exact .anew hr hfree

inductive Ledger.Answers (L : Ledger) (app : LifecycleRecord) (request : Admission) (now : Int) :
    AdmissionOutcome → Ledger → Prop
  | replay {operation : OperationRecord} {L' : Ledger}
      (stored : L.operation operation.operationId = some operation)
      (sameApp : operation.appId = app.appId)
      (lifecycle : operation.lifecycleId = app.lifecycleId)
      (same : Domain.SameRequest request operation)
      (known : ∀ other, L.operation request.operationId = some other →
        other.appId = app.appId → other = operation)
      (names : L.NamesRequest request operation L') :
      Answers L app request now (.existing operation) L'
  | join {operation : OperationRecord} {L' : Ledger}
      (stored : L.operation operation.operationId = some operation)
      (sameApp : operation.appId = app.appId) (unknown : ∀ other,
        L.operation request.operationId = some other → other.appId ≠ app.appId)
      (joined : Domain.joins app request operation = true)
      (names : L.NamesRequest request operation L') :
      Answers L app request now (.existing operation) L'
  | accept {app' : LifecycleRecord} {active : ActiveOperationRecords}
      {operation : OperationRecord} {L' : Ledger}
      (slots : ∀ scope, active.slot scope = none → app.activeOperations.slot scope = none)
      (accepted : Domain.Accepted app request active now app' operation)
      (fresh : L.operation operation.operationId = none)
      (names : ((L.setOperation operation).saveApp app').NamesRequest request operation L') :
      Answers L app request now (.accepted operation) L'

theorem Store.readOperation_stored {appId id : String}
    (h : db.readOperation appId id = .ok (some operation)) :
    db.ledger.operation operation.operationId = some operation ∧ operation.appId = appId := by
  obtain ⟨ho, happ, -⟩ := readOperation_some h
  rw [operationId_of_find ho]
  exact ⟨ho, happ⟩

theorem Store.readSlot_ok {scope : OperationScope} {found : Option OperationRecord}
    (h : db.readSlot app scope = .ok found) :
    (found = none → app.activeOperations.slot scope = none) ∧
      ∀ operation, found = some operation →
        db.ledger.operation operation.operationId = some operation ∧
          operation.appId = app.appId := by
  unfold readSlot at h
  cases hs : app.activeOperations.slot scope with
  | none =>
    simp only [hs] at h
    cases h
    exact ⟨fun _ => rfl, fun _ ho => absurd ho.symm (Option.some_ne_none _)⟩
  | some =>
    simp only [hs] at h
    obtain ⟨read, hr, h⟩ := bind_eq_ok.mp h
    obtain ⟨operation, rfl, h⟩ := demand_bind h
    obtain ⟨-, h⟩ := failIf_bind h
    cases h
    refine ⟨fun ho => absurd ho (Option.some_ne_none _), fun other hother => ?_⟩
    obtain rfl := Option.some.inj hother
    exact readOperation_stored hr

theorem Store.readActive_ok {active : ActiveOperationRecords} (h : db.readActive app = .ok active)
    (scope : OperationScope) : db.readSlot app scope = .ok (active.slot scope) := by
  obtain ⟨dev, hdev, h⟩ := bind_eq_ok.mp h
  obtain ⟨prod, hprod, h⟩ := bind_eq_ok.mp h
  obtain ⟨application, happ, h⟩ := bind_eq_ok.mp h
  cases h
  cases scope with
  | dev => exact hdev
  | prod => exact hprod
  | application => exact happ

theorem requestMapping_ok (h : requestMapping db request = .ok mapping) :
    mapping = request.requestId.bind fun id => db.ledger.request (request.appId, id) := by
  obtain ⟨-, h⟩ := failIf_bind h
  cases h
  rfl

theorem requestedOperation_ok
    (h : requestedOperation db request mapping = .ok (some operation)) :
    db.ledger.operation operation.operationId = some operation ∧
      operation.appId = request.appId := by
  cases mapping with
  | none => cases h
  | some row =>
    simp only [requestedOperation, readRequestOperation] at h
    cases ht : row.target with
    | recreate =>
      simp only [ht] at h
      cases h
    | control =>
      simp only [ht] at h
      obtain ⟨-, h⟩ := failIf_bind h
      obtain ⟨found, hf, h⟩ := bind_eq_ok.mp h
      obtain ⟨read, rfl, h⟩ := demand_bind h
      obtain ⟨-, h⟩ := failIf_bind h
      cases h
      exact readOperation_stored hf

theorem duplicateOf_ok {byId byRequest duplicate : Option OperationRecord}
    (hid : db.readOperation request.appId request.operationId = .ok byId)
    (hrequest : requestedOperation db request mapping = .ok byRequest)
    (h : duplicateOf byId byRequest = .ok duplicate) :
    (∀ operation, duplicate = some operation →
      db.ledger.operation operation.operationId = some operation ∧
        operation.appId = request.appId) ∧
      (duplicate = none → byId = none) ∧
      ∀ found, db.ledger.operation request.operationId = some found →
        found.appId = request.appId → duplicate = some found := by
  obtain ⟨-, h⟩ := failIf_bind h
  cases h
  cases byId with
  | none =>
    refine ⟨fun operation ho => ?_, fun _ => rfl, fun found hf happ =>
      absurd happ (readOperation_none hid found hf)⟩
    have ho : byRequest = some operation := by simpa using ho
    rw [ho] at hrequest
    exact requestedOperation_ok hrequest
  | some found =>
    refine ⟨fun operation hop => ?_, fun hnone => absurd hnone (by simp), fun other hother _ => ?_⟩
    · obtain rfl : found = operation := by simpa using hop
      exact readOperation_stored hid
    · rw [← Option.mem_unique (readOperation_some hid).1 hother]
      rfl

structure Ledger.Admission (L : Ledger) (request : Lifecycle.Admission) (fresh : Fresh)
    (outcome : AdmissionOutcome) (L' : Ledger) where
  proposed : LifecycleRecord
  opened : Ledger
  app : LifecycleRecord
  start : NewRoot proposed
  appId : proposed.appId = request.appId
  opens : L.Opens proposed opened
  holds : opened.Holds app
  sameApp : app.appId = request.appId
  lifecycle : Domain.validateLifecycle app request = .ok ()
  answers : opened.Answers app request fresh.now outcome L'

variable {L L' : Ledger}

theorem Ledger.Admission.holds_of_root {fresh : Fresh} (h : L.Admission request fresh outcome L')
    (hroot : L.root request.appId ≠ none) : L.Holds h.app := by
  have hholds := h.holds
  obtain hopen | ⟨hnone, -, -⟩ := h.opens
  · rw [hopen] at hholds
    exact hholds
  · rw [h.appId] at hnone
    exact absurd hnone hroot

theorem gives_admitWithConfiguration (request : Lifecycle.Admission) (input : Option ExecutionInput)
    (pg : Option StartPgCredential) (fresh : Fresh) :
    Gives (admitWithConfiguration request input pg fresh) db fun outcome db' =>
      Nonempty (db.ledger.Admission request fresh outcome db'.ledger) := by
  refine .failIf_bind fun _ => .fromExcept_bind fun _ _ => ?_
  refine .fromExcept_bind fun proposed hproposed => ?_
  obtain ⟨start, hpid, -⟩ := Domain.identity_ok hproposed
  refine (gives_ensureApp proposed start).bind fun previous db₁ h₁ => ?_
  obtain ⟨hopens, hholds, hprev⟩ := h₁
  have happ : previous.appId = request.appId := hprev.trans hpid
  refine .reads_bind fun byId hbyId => .reads_bind fun mapping hmapping => ?_
  refine .reads_bind fun byRequest hbyRequest => ?_
  refine .fromExcept_bind fun duplicate hduplicate => ?_
  refine .reads_bind fun active hactive => .fromExcept_bind fun result hresult => ?_
  obtain ⟨app, outcome⟩ := result
  obtain ⟨-, hlife, hadmits⟩ := Domain.admission_ok hresult
  have hmapping := requestMapping_ok hmapping
  have hdup := duplicateOf_ok hbyId hbyRequest hduplicate
  have hslot (scope : OperationScope) := readSlot_ok (readActive_ok hactive scope)
  refine gives_recordOutcome.bind fun operation db₂ h₂ => ?_
  obtain ⟨rfl, hrecords⟩ := h₂
  have hoapp : outcome.operation.appId = request.appId := by
    cases hadmits with
    | replay => exact (hdup.1 _ rfl).2
    | join inSlot => exact ((hslot .dev).2 _ inSlot).2.trans happ
    | accept accepted =>
      obtain ⟨patched, hsame, -, -, -, rfl⟩ := accepted.application
      exact hsame.appId.trans happ
  refine .bind (gives_nameRequest hoapp ?_) fun _ db₃ hnames => .pure
    ⟨proposed, db₁.ledger, previous, start, hpid, hopens, hholds, happ, hlife, ?_⟩
  · generalize db₂.ledger = L₂ at hrecords
    cases hrecords <;> exact hmapping
  generalize db₂.ledger = L₂ at hrecords hnames
  cases hadmits with
  | replay lifecycle same =>
    cases hrecords
    refine .replay (hdup.1 _ rfl).1 (hoapp.trans happ.symm) lifecycle same
      (fun other hother hsame => ?_) hnames
    exact (Option.some.inj (hdup.2.2 other hother (hsame.trans happ))).symm
  | join inSlot joined =>
    cases hrecords
    obtain ⟨ho, hoapp⟩ := (hslot .dev).2 _ inSlot
    refine .join ho hoapp ?_ joined hnames
    rw [hdup.2.1 rfl] at hbyId
    rw [happ]
    exact readOperation_none hbyId
  | accept accepted =>
    cases hrecords with
    | accepted fresh => exact .accept (fun scope => (hslot scope).1) accepted fresh hnames

theorem Ledger.NamesRequest.moves (h : L.NamesRequest request operation L')
    (stored : L.operation operation.operationId = some operation)
    (sameApp : operation.appId = request.appId) : Moves act L L' := by
  cases h with
  | anonymous | known => exact .refl _
  | anew _ free => exact .one (.nameRequest (by rw [sameApp]; exact free) stored rfl rfl)

theorem Ledger.Answers.moves {now : Int} (h : L.Answers app request now outcome L')
    (holds : L.Holds app) (sameApp : app.appId = request.appId) :
    Moves (.admission request.operationId) L L' := by
  cases h with
  | replay stored hoapp _ _ _ names => exact names.moves stored (hoapp.trans sameApp)
  | join stored hoapp _ _ names => exact names.moves stored (hoapp.trans sameApp)
  | @accept app' _ operation _ slots accepted fresh names =>
    obtain ⟨patched, hsame, -, -, -, hop⟩ := accepted.application
    have hid : operation.operationId = request.operationId := by rw [hop]; rfl
    have happ : operation.appId = request.appId := by
      rw [hop]
      exact hsame.appId.trans sameApp
    have hmove : Move (.admission request.operationId) L _ :=
      .accept holds slots accepted fresh (by rw [hid])
    exact (Moves.one hmove).trans (names.moves (Function.update_self ..) happ)

theorem performs_admitWithConfiguration (request : Lifecycle.Admission)
    (input : Option ExecutionInput) (pg : Option StartPgCredential) (fresh : Fresh) :
    Performs (.admission request.operationId)
      (admitWithConfiguration request input pg fresh) :=
  fun _ => (gives_admitWithConfiguration request input pg fresh).mono fun _ _ ⟨h⟩ =>
    (h.opens.moves h.start).trans (h.answers.moves h.holds h.sameApp)

end Rcoder.Lifecycle
