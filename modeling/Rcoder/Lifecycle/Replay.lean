import Rcoder.Lifecycle.Journal

/-!
# Repeated admissions

An admission carries an operation id and, if the client sent one, a request id. Whatever either
of them was answered with is what it is answered with again; nothing else is written then. An
operation id that was answered with another operation, for the sake of its request id or of a
builder already under way, leaves no trace and can still be used.
-/

namespace Rcoder.Lifecycle

open Effect Ledger

structure SameAdmission (operation operation' : OperationRecord) : Prop where
  operationId : operation'.operationId = operation.operationId
  appId : operation'.appId = operation.appId
  lifecycleId : operation'.lifecycleId = operation.lifecycleId
  kind : operation'.kind = operation.kind
  scope : operation'.scope = operation.scope
  command : operation'.command = operation.command
  requestFingerprint : operation'.requestFingerprint = operation.requestFingerprint
  runtimePolicyOnSuccess : operation'.runtimePolicyOnSuccess = operation.runtimePolicyOnSuccess
  admittedMetadata : operation'.admittedMetadata = operation.admittedMetadata

theorem SameAdmission.refl (operation : OperationRecord) : SameAdmission operation operation :=
  ⟨rfl, rfl, rfl, rfl, rfl, rfl, rfl, rfl, rfl⟩

variable {operation' : OperationRecord}

theorem SameAdmission.of_merge {before operation : OperationRecord}
    (h : SameAdmission before operation) (hmerge : mergeProgress operation operation' = operation') :
    SameAdmission before operation' := by
  rw [← hmerge]
  exact ⟨h.operationId, h.appId, h.lifecycleId, h.kind, h.scope, h.command, h.requestFingerprint,
    h.runtimePolicyOnSuccess, h.admittedMetadata⟩

variable {appId operationId requestId : String}

namespace Ledger

variable {act : Act} {L L' : Ledger}

/-- The operation is stored, as it was admitted. -/
def Keeps (L : Ledger) (operation : OperationRecord) : Prop :=
  ∃ operation', L.operation operation.operationId = some operation' ∧
    SameAdmission operation operation'

theorem Keeps.move {operation : OperationRecord} (h : L.Keeps operation) (hm : Move act L L') :
    L'.Keeps operation := by
  obtain ⟨found, hf, hsame⟩ := h
  obtain hkept | ⟨app, after, ha, step⟩ := hm.operation_next hf
  · exact ⟨found, hkept, hsame⟩
  · exact ⟨after, ha, hsame.of_merge step.merge⟩

/-! ### What an answer leaves behind -/

variable {request : Lifecycle.Admission} {fresh : Fresh} {outcome : AdmissionOutcome}
  {operation : OperationRecord}

/-- The request id stands for the operation. -/
def Stands (L : Ledger) (appId requestId operationId : String) : Prop :=
  ∃ row lifecycleId, L.request (appId, requestId) = some row ∧
    row.target = .control operationId lifecycleId

theorem NamesRequest.stands (h : L.NamesRequest request operation L')
    (happ : operation.appId = request.appId) (hrequest : request.requestId = some requestId) :
    L'.Stands request.appId requestId operation.operationId := by
  cases h with
  | anonymous unnamed =>
    rw [hrequest] at unnamed
    cases unnamed
  | known named stored target =>
    cases hrequest.symm.trans named
    obtain ⟨lifecycleId, ht⟩ := target
    exact ⟨_, lifecycleId, stored, ht⟩
  | anew named =>
    cases hrequest.symm.trans named
    refine ⟨⟨operation.appId, requestId, .control operation.operationId operation.lifecycleId⟩,
      operation.lifecycleId, ?_, rfl⟩
    rw [← happ]
    exact Function.update_self ..

/-- A request id that stands for an operation is answered with no other. -/
theorem NamesRequest.eq_of_stands (h : L.NamesRequest request operation L')
    (hrequest : request.requestId = some requestId)
    (hstands : L.Stands request.appId requestId operationId) :
    operation.operationId = operationId := by
  obtain ⟨row, lifecycleId, hrow, htarget⟩ := hstands
  cases h with
  | anonymous unnamed =>
    rw [hrequest] at unnamed
    cases unnamed
  | known named stored target =>
    cases hrequest.symm.trans named
    cases hrow.symm.trans stored
    obtain ⟨lifecycleId', ht⟩ := target
    exact (RequestTarget.control.inj (ht.symm.trans htarget)).1
  | anew named free =>
    cases hrequest.symm.trans named
    rw [hrow] at free
    cases free

theorem NamesRequest.frame (h : L.NamesRequest request operation L') :
    L'.root = L.root ∧ L'.slots = L.slots ∧ L'.operation = L.operation := by
  cases h <;> exact ⟨rfl, rfl, rfl⟩

namespace Admission

section

variable (h : L.Admission request fresh outcome L')
include h

theorem answered :
    L'.operation outcome.operation.operationId = some outcome.operation ∧
      outcome.operation.appId = request.appId ∧ ∀ requestId, request.requestId = some requestId →
        L'.Stands request.appId requestId outcome.operation.operationId := by
  have hsame := h.sameApp
  cases h.answers with
  | replay stored sameApp _ _ _ names =>
    have happ := sameApp.trans hsame
    refine ⟨?_, happ, fun requestId hr => names.stands happ hr⟩
    rw [names.frame.2.2]
    exact stored
  | join stored sameApp _ _ names =>
    have happ := sameApp.trans hsame
    refine ⟨?_, happ, fun requestId hr => names.stands happ hr⟩
    rw [names.frame.2.2]
    exact stored
  | @accept app' active operation L' slots accepted _ names =>
    obtain ⟨patched, hpatched, -, -, -, hop⟩ := accepted.application
    have happ : operation.appId = request.appId := by
      rw [hop]
      exact hpatched.appId.trans hsame
    refine ⟨?_, happ, fun requestId hr => names.stands happ hr⟩
    rw [names.frame.2.2]
    exact operation_setOperation_self ..

theorem opened_rows : h.opened.operation = L.operation ∧ h.opened.request = L.request := by
  obtain heq | ⟨-, -, heq⟩ := h.opens <;> rw [heq] <;> exact ⟨rfl, rfl⟩

theorem opened_eq (hroot : L.root request.appId ≠ none) : h.opened = L := by
  obtain heq | ⟨hnone, -, -⟩ := h.opens
  · exact heq
  · rw [h.appId] at hnone
    exact absurd hnone hroot

theorem opened_stands (hstands : L.Stands appId requestId operationId) :
    h.opened.Stands appId requestId operationId := by
  obtain ⟨row, lifecycleId, hrow, htarget⟩ := hstands
  refine ⟨row, lifecycleId, ?_, htarget⟩
  rw [h.opened_rows.2]
  exact hrow

end

/-- An answer with an operation that exists leaves applications, slots and operations alone. -/
theorem frame (h : L.Admission request fresh (.existing operation) L')
    (hroot : L.root request.appId ≠ none) :
    L'.root = L.root ∧ L'.slots = L.slots ∧ L'.operation = L.operation := by
  have hframe : L'.root = h.opened.root ∧ L'.slots = h.opened.slots ∧
      L'.operation = h.opened.operation := by
    cases h.answers with
    | replay _ _ _ _ _ names => exact names.frame
    | join _ _ _ _ names => exact names.frame
  rw [h.opened_eq hroot] at hframe
  exact hframe

/-- An accepted operation has the id of its request, under which nothing was stored; nor does its
request id stand for anything that is. -/
theorem accepted (h : L.Admission request fresh (.accepted operation) L') :
    operation.operationId = request.operationId ∧ L.operation request.operationId = none ∧
      ∀ requestId operationId, request.requestId = some requestId →
        L.Stands request.appId requestId operationId → L.operation operationId = none := by
  have hrows := h.opened_rows.1
  have hstands : ∀ requestId operationId, L.Stands request.appId requestId operationId →
      h.opened.Stands request.appId requestId operationId := fun _ _ hs => h.opened_stands hs
  cases h.answers with
  | @accept app' active _ L' slots accepted fresh names =>
    obtain ⟨patched, hpatched, -, -, -, hop⟩ := accepted.application
    have hid : operation.operationId = request.operationId := by rw [hop]; rfl
    rw [hrows] at fresh
    refine ⟨hid, by rw [← hid]; exact fresh, fun requestId operationId hr hs => ?_⟩
    rw [← names.eq_of_stands hr (hstands requestId operationId hs)]
    exact fresh

/-- An answer to a known operation id or request id is the operation it stands for. -/
theorem replays (h : L.Admission request fresh outcome L') {known : OperationRecord}
    (hkept : L.operation known.operationId = some known) (happ : known.appId = request.appId)
    (hidentity : request.operationId = known.operationId ∨ ∃ requestId,
      request.requestId = some requestId ∧
        L.Stands request.appId requestId known.operationId) : outcome = .existing known := by
  have hsame := h.sameApp
  have hstored : h.opened.operation known.operationId = some known := by
    rw [h.opened_rows.1]
    exact hkept
  have hidentity : request.operationId = known.operationId ∨ ∃ requestId,
      request.requestId = some requestId ∧
        h.opened.Stands request.appId requestId known.operationId := by
    obtain hid | ⟨requestId, hr, hs⟩ := hidentity
    · exact .inl hid
    · exact .inr ⟨requestId, hr, h.opened_stands hs⟩
  cases h.answers with
  | @replay operation _ stored sameApp lifecycle same hknown names =>
    obtain hid | ⟨requestId, hr, hs⟩ := hidentity
    · rw [← hid] at hstored
      rw [hknown known hstored (happ.trans hsame.symm)]
    · rw [names.eq_of_stands hr hs, hstored] at stored
      rw [Option.some.inj stored]
  | @join operation _ stored sameApp unknown joined names =>
    obtain hid | ⟨requestId, hr, hs⟩ := hidentity
    · rw [← hid] at hstored
      exact absurd (happ.trans hsame.symm) (unknown known hstored)
    · rw [names.eq_of_stands hr hs, hstored] at stored
      rw [Option.some.inj stored]
  | @accept app' active operation _ slots accepted fresh names =>
    obtain ⟨patched, hpatched, -, -, -, hop⟩ := accepted.application
    have hopid : operation.operationId = request.operationId := by rw [hop]; rfl
    obtain hid | ⟨requestId, hr, hs⟩ := hidentity
    · rw [hopid, hid, hstored] at fresh
      cases fresh
    · rw [names.eq_of_stands hr hs, hstored] at fresh
      cases fresh

end Admission

end Ledger

/-! ### Whole runs -/

theorem Ledger.Stands.move {act : Act} {L L' : Ledger} (h : L.Stands appId requestId operationId)
    (hm : Move act L L') : L'.Stands appId requestId operationId := by
  obtain ⟨row, lifecycleId, hrow, htarget⟩ := h
  exact ⟨row, lifecycleId, hm.request_kept hrow, htarget⟩

/-- Applications, slots and operations are as they were. -/
def Untouched (t t' : Store) : Prop :=
  t'.ledger.root = t.ledger.root ∧ t'.ledger.slots = t.ledger.slots ∧
    t'.ledger.operation = t.ledger.operation

/-- The admission fails and changes nothing, or it is answered with the operation as it is now. -/
def Replayed (t : Store) (op : Op) (operation : OperationRecord) : Prop :=
  (∃ e, store.exec t op = (.error e, t)) ∨ ∃ operation',
    (store.exec t op).1 = .ok (.admission (.existing operation')) ∧
      SameAdmission operation operation' ∧
      t.ledger.operation operation.operationId = some operation' ∧
      Untouched t (store.exec t op).2

/-- The later request has the identity of the earlier one: the request id, or the operation id
that the earlier one was answered with. -/
def SameIdentity (request : Admission) (outcome : AdmissionOutcome) (again : Admission) : Prop :=
  again.appId = request.appId ∧
    ((∃ requestId, request.requestId = some requestId ∧ again.requestId = some requestId) ∨
      (again.operationId = request.operationId ∧
        outcome.operation.operationId = request.operationId))

/-- How admissions in `t` relate to one that was answered before. -/
structure IdempotentAdmission (request : Admission) (outcome : AdmissionOutcome) (t : Store) :
    Prop where
  replayed : ∀ again input pg fresh, SameIdentity request outcome again →
    Replayed t (.admitWithConfiguration again input pg fresh) outcome.operation
  once : ∀ operation again input pg fresh operation', outcome = .accepted operation →
    (store.exec t (.admitWithConfiguration again input pg fresh)).1 =
      .ok (.admission (.accepted operation')) →
    again.operationId ≠ request.operationId ∧ (again.appId = request.appId →
      ∀ requestId, request.requestId = some requestId → again.requestId ≠ some requestId)
  unchanged : ∀ again input pg fresh operation',
    (store.exec t (.admitWithConfiguration again input pg fresh)).1 =
      .ok (.admission (.existing operation')) →
    Untouched t (store.exec t (.admitWithConfiguration again input pg fresh)).2

variable {ok : Store → Op → Prop} {tr tr' : List (Op × Except StoreError Answer)} {s t : Store}

variable {input : Option ExecutionInput} {pg : Option StartPgCredential} {fresh : Fresh}

theorem store_admission {request : Admission} {outcome : AdmissionOutcome}
    (h : (store.exec s (.admitWithConfiguration request input pg fresh)).1 =
      .ok (.admission outcome)) :
    Nonempty (s.ledger.Admission request fresh outcome
      (store.exec s (.admitWithConfiguration request input pg fresh)).2.ledger) := by
  obtain ⟨result, hresult, hadmission⟩ := store_answered h
    (gives_respond (gives_admitWithConfiguration request input pg fresh))
  cases hresult
  exact hadmission

/-- Nothing but an admission is answered by an admission. -/
theorem store_admission_or {request : Admission} :
    (∃ e, store.exec s (.admitWithConfiguration request input pg fresh) = (.error e, s)) ∨
      ∃ outcome, (store.exec s (.admitWithConfiguration request input pg fresh)).1 =
        .ok (.admission outcome) := by
  cases hexec : (store.exec s (.admitWithConfiguration request input pg fresh)).1 with
  | error e => exact .inl ⟨e, Prod.ext hexec (store_failed hexec)⟩
  | ok =>
    obtain ⟨outcome, rfl, -⟩ := store_answered hexec
      (gives_respond (gives_admitWithConfiguration request input pg fresh))
    exact .inr ⟨outcome, rfl⟩

theorem Ledger.Slotted.root_of_operation {L : Ledger} (h : L.Slotted) {id : String}
    {operation : OperationRecord} (ho : L.operation id = some operation) :
    L.root operation.appId ≠ none := by
  obtain ⟨-, -, app, ha, happ⟩ := h.keyed id operation ho
  rw [← happ, ha.1]
  exact Option.some_ne_none _

theorem existing_untouched (hr : store.Run ok {} tr t) {again : Admission}
    (h : (store.exec t (.admitWithConfiguration again input pg fresh)).1 =
      .ok (.admission (.existing operation'))) :
    Untouched t (store.exec t (.admitWithConfiguration again input pg fresh)).2 := by
  obtain ⟨hadmission⟩ := store_admission h
  have hslotted : t.ledger.Slotted := Run.keeps hr .empty fun _ _ _ hm h => h.move hm
  refine hadmission.frame fun hnone => ?_
  -- a new application has no operations that could be answered with
  have hfound : ∀ {operation : OperationRecord},
      hadmission.opened.operation operation.operationId = some operation →
      operation.appId = hadmission.app.appId → False := by
    intro operation ho happ
    rw [hadmission.opened_rows.1] at ho
    refine hslotted.root_of_operation ho ?_
    rw [happ, hadmission.sameApp]
    exact hnone
  cases hadmission.answers with
  | replay stored sameApp => exact hfound stored sameApp
  | join stored sameApp => exact hfound stored sameApp

theorem admission_idempotent {request : Admission} {input : Option ExecutionInput}
    {pg : Option StartPgCredential} {fresh : Fresh} {outcome : AdmissionOutcome}
    (hr : store.Run ok {} tr s)
    (hanswer : (store.exec s (.admitWithConfiguration request input pg fresh)).1 =
      .ok (.admission outcome))
    (hr' : store.Run ok (store.exec s (.admitWithConfiguration request input pg fresh)).2 tr' t) :
    IdempotentAdmission request outcome t := by
  have hwhole : store.Run (fun _ _ => True) {} _ t :=
    ((hr.mono fun _ _ _ => trivial).snoc trivial).append (hr'.mono fun _ _ _ => trivial)
  obtain ⟨hadmission⟩ := store_admission hanswer
  obtain ⟨hstored, happ, hnamed⟩ := hadmission.answered
  obtain ⟨current, hcurrent, hsame⟩ : t.ledger.Keeps outcome.operation :=
    Run.keeps (P := fun L => L.Keeps outcome.operation) hr' ⟨_, hstored, .refl _⟩
      fun _ _ _ hm h => h.move hm
  have hstands : ∀ requestId, request.requestId = some requestId →
      t.ledger.Stands request.appId requestId outcome.operation.operationId :=
    fun requestId hrequest =>
      Run.keeps (P := fun L => L.Stands request.appId requestId outcome.operation.operationId) hr'
        (hnamed requestId hrequest) fun _ _ _ hm h => h.move hm
  refine ⟨fun again input' pg' fresh' hidentity => ?_,
    fun operation again input' pg' fresh' operation' haccepted hagain => ?_,
    fun again input' pg' fresh' operation' hagain => existing_untouched hwhole hagain⟩
  · obtain ⟨hsameApp, hidentity⟩ := hidentity
    obtain hfailed | ⟨outcome', hagain⟩ := store_admission_or
    · exact .inl hfailed
    · obtain ⟨hlater⟩ := store_admission hagain
      rw [← hsame.operationId] at hcurrent
      have hexisting : outcome' = .existing current := by
        refine hlater.replays hcurrent (hsame.appId.trans (happ.trans hsameApp.symm)) ?_
        obtain ⟨requestId, hrequest, hrepeated⟩ | ⟨hid, hop⟩ := hidentity
        · refine .inr ⟨requestId, hrepeated, ?_⟩
          rw [hsameApp, hsame.operationId]
          exact hstands requestId hrequest
        · exact .inl (hid.trans (hop.symm.trans hsame.operationId.symm))
      subst hexisting
      rw [hsame.operationId] at hcurrent
      exact .inr ⟨current, hagain, hsame, hcurrent, existing_untouched hwhole hagain⟩
  · subst haccepted
    obtain ⟨hid, -⟩ := hadmission.accepted
    obtain ⟨hlater⟩ := store_admission hagain
    obtain ⟨-, hfree, hunnamed⟩ := hlater.accepted
    refine ⟨fun heq => ?_, fun hsameApp requestId hrequest hrepeated => ?_⟩
    · rw [heq, ← hid] at hfree
      rw [show (AdmissionOutcome.accepted operation).operation = operation from rfl, hfree]
        at hcurrent
      cases hcurrent
    · have hnone := hunnamed requestId _ hrepeated
        (by rw [hsameApp]; exact hstands requestId hrequest)
      rw [hnone] at hcurrent
      cases hcurrent

/-- A restart is admitted, and the same request is sent again under another operation id. -/
def repeatedRequest : List Op :=
  [.admitWithConfiguration (Sample.admission "work" .restart) none none Sample.fresh,
    .admitWithConfiguration
      { Sample.admission "other" .restart with requestId := some "request-work" } none none
      Sample.fresh]

theorem admission_idempotent_repeatedRequest :
    ∃ operation, (store.exec {} (.admitWithConfiguration (Sample.admission "work" .restart) none none
        Sample.fresh)).1 = .ok (.admission (.accepted operation)) ∧
      IdempotentAdmission (Sample.admission "work" .restart) (.accepted operation)
        (store.after {} repeatedRequest) := by
  refine ⟨Domain.admitted ⟨{}, "app", "life", 1, 1, .active, none, none, none, 1, {}⟩
    (Sample.admission "work" .restart) 1, by decide +kernel, ?_⟩
  have hfollows : store.Follows (fun _ _ => True) (store.exec {} (.admitWithConfiguration
      (Sample.admission "work" .restart) none none Sample.fresh)).2 (repeatedRequest.drop 1) :=
    Machine.follows_of_forall fun _ _ _ => trivial
  have hstart : store.Run (fun _ _ => True) {} [] {} := .nil
  exact admission_idempotent hstart (by decide +kernel) (.of_follows hfollows)

/-- The id `other` was answered with the restart, and yet it is accepted for another operation. -/
theorem discarded_operationId :
    ((store.trace {} repeatedRequest).map Prod.snd)[1]?.any (fun answer => match answer with
        | .ok (.admission (.existing operation)) => operation.operationId = "work"
        | _ => false) = true ∧
      (match (store.exec (store.after {} repeatedRequest) (.admitWithConfiguration
          (Sample.admission "other" .restartBuilder) none none Sample.fresh)).1 with
        | .ok (.admission (.accepted operation)) => operation.operationId = "other"
        | _ => false) = true :=
  ⟨by decide +kernel, by decide +kernel⟩

end Rcoder.Lifecycle
