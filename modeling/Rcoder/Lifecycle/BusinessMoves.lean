import Rcoder.Lifecycle.Authority

/-!
# Moves of business transactions

The transactions of identity, metadata, admission, progress and leases, each as the moves it
makes on the ledger.
-/

namespace Rcoder.Lifecycle

open Effect Ledger Function Operations Compute Store Domain

variable {db : Store} {act : Act}

/-! ### Identity -/

variable {app : LifecycleRecord}

theorem Domain.identity_ok {appId lifecycleId : String} {now : Int}
    (h : identity appId lifecycleId now = .ok app) :
    NewRoot app ∧ app.appId = appId ∧ app.lifecycleId = lifecycleId := by
  obtain ⟨_, -, h⟩ := Check.bind_eq_ok.mp h
  cases h
  exact ⟨⟨rfl, rfl, rfl, rfl⟩, rfl, rfl⟩

theorem gives_ensureRow (proposed : LifecycleRecord) (start : NewRoot proposed) :
    Gives (ensureRow proposed) db fun created db' =>
      if created then db.ledger.root proposed.appId = none ∧
        db.ledger.slots proposed.appId = none ∧ db'.ledger = db.ledger.saveApp proposed
      else db'.ledger = db.ledger := by
  refine .fromExcept_bind fun row hrow => .get_bind ?_
  obtain ⟨hid, hbare⟩ := encodeApplication_ok hrow
  cases ha : db.apps.find? row.appId with
  | some =>
    exact (quiet_claimApp row.appId db).bind fun _ db₁ h₁ => .pure (by simpa using h₁)
  | none =>
    refine .failIf_bind fun _ => .update_bind ?_
    refine (quiet_claimApp row.appId _).bind fun _ db₁ h₁ => ?_
    refine .failIf_bind fun hslots => .update_bind (.pure ?_)
    have hslots := not_not.mp hslots
    have hroot : db.ledger.root proposed.appId = none := by
      simp only [ledger, ← hid, ha, Option.map_none]
    have hs : db₁.slots.find? = db.slots.find? := congrArg Ledger.slots h₁
    have hlife : row.lifecycleId = proposed.lifecycleId := congrArg LifecycleRecord.lifecycleId hbare
    have hrow : (⟨row.appId, row.lifecycleId, {}⟩ : SlotsRow) = proposed.slotsRow := by
      rw [LifecycleRecord.slotsRow, hid, hlife, start.slots]
    refine (if_pos rfl).mpr ⟨hroot, by rw [← hid]; exact hslots, ?_⟩
    rw [ledger_insertSlots _ (by rw [hs]; exact hslots), h₁, ledger_insertApp ha, hrow,
      hbare, hid]
    rfl

/-- The root is there already, or it is opened as proposed. -/
def Ledger.Opens (L : Ledger) (proposed : LifecycleRecord) (L' : Ledger) : Prop :=
  L' = L ∨ (L.root proposed.appId = none ∧ L.slots proposed.appId = none ∧
    L' = L.saveApp proposed)

theorem Ledger.Opens.moves {L L' : Ledger} {proposed : LifecycleRecord} (h : L.Opens proposed L')
    (start : NewRoot proposed) : Moves act L L' := by
  obtain rfl | ⟨hroot, hslots, rfl⟩ := h
  · exact .refl _
  · exact .one (.openRoot hroot hslots start)

theorem gives_ensureWithCreated (proposed : LifecycleRecord) (start : NewRoot proposed) :
    Gives (ensureWithCreated proposed) db fun found db' =>
      db.ledger.Opens proposed db'.ledger ∧ db'.ledger.Holds found.1 ∧
        found.1.appId = proposed.appId ∧ (found.2 = true → found.1 = proposed) := by
  refine (gives_ensureRow proposed start).bind fun created db₁ h₁ => ?_
  refine (gives_readApp proposed.appId).query_bind fun app ⟨hholds, happ, _⟩ => .pure ?_
  cases created with
  | true =>
    obtain ⟨hroot, hslots, heq⟩ := (if_pos rfl).mp h₁
    refine ⟨.inr ⟨hroot, hslots, heq⟩, hholds, happ, fun _ => ?_⟩
    rw [heq] at hholds
    exact hholds.eq (holds_put _ proposed) happ
  | false => exact ⟨.inl (by simpa using h₁), hholds, happ, nofun⟩

theorem gives_ensureApp (proposed : LifecycleRecord) (start : NewRoot proposed) :
    Gives (ensureApp proposed) db fun app db' =>
      db.ledger.Opens proposed db'.ledger ∧ db'.ledger.Holds app ∧ app.appId = proposed.appId :=
  (gives_ensureWithCreated proposed start).bind fun _ _ h => .pure ⟨h.1, h.2.1, h.2.2.1⟩

theorem performs_ensureIdentity (appId : String) (fresh : Fresh) :
    Performs act (ensureIdentity appId fresh) := by
  intro db
  refine .fromExcept_bind fun proposed hp => ?_
  obtain ⟨start, -⟩ := identity_ok hp
  refine (gives_ensureApp proposed start).bind fun app db₁ h₁ => ?_
  exact .fromExcept_bind fun _ _ => .pure (h₁.1.moves start)

theorem performs_restoreStorageIdentity (storage : RetainedStorage) (fresh : Fresh) :
    Performs act (restoreStorageIdentity storage fresh) := by
  intro db
  refine .fromExcept_bind fun _ _ => .fromExcept_bind fun proposed hp => ?_
  obtain ⟨start, -⟩ := identity_ok hp
  refine (gives_ensureApp proposed start).bind fun app db₁ h₁ => ?_
  exact .fromExcept_bind fun _ _ => .failIf_bind fun _ => .pure (h₁.1.moves start)

/-! ### Metadata -/

theorem gives_saveApp_of_holds {app' : LifecycleRecord} {oldLifecycle : String} {oldRevision : Int}
    (holds : db.ledger.Holds app) (same : SameIncarnation app app')
    (slots : app'.activeOperations = app.activeOperations) :
    Gives (saveApp app' oldLifecycle oldRevision) db fun _ db' =>
      db'.ledger = db.ledger.saveApp app' := by
  refine (gives_saveApp app' oldLifecycle oldRevision).mono fun _ db' h => ?_
  rw [h]
  have hrow : app'.slotsRow = app.slotsRow := by
    rw [LifecycleRecord.slotsRow, same.appId, same.lifecycleId, slots]
    rfl
  have hslots : update db.ledger.slots app'.appId (some app'.slotsRow) = db.ledger.slots := by
    rw [hrow, same.appId, ← holds.2, update_eq_self]
  simp only [Ledger.saveApp, Ledger.put, hslots]
  rfl

theorem gives_patchMetadata (patch : MetadataPatch) :
    Gives (patchMetadata patch) db fun _ db' =>
      ∃ app, db.ledger.Holds app ∧ app.appId = patch.appId ∧
        app.lifecycleId = patch.lifecycleId ∧ app.metadataRevision = patch.expectedRevision ∧
        Moves act db.ledger db'.ledger := by
  refine (quiet_claimApp patch.appId db).bind fun _ db₁ h₁ => ?_
  rw [← h₁]
  refine (gives_readApp patch.appId).query_bind fun previous ⟨hholds, _⟩ => ?_
  refine .fromExcept_bind fun app happ => ?_
  obtain ⟨-, hid, hlife, hrevision, hsame, hstate, hslots⟩ := patchMetadata_ok happ
  refine (Gives.onlyIf (fun _ => ?_)
    fun _ => .refl _).bind fun _ _ h => .pure ⟨previous, hholds, hid, hlife, hrevision, h⟩
  refine (gives_saveApp_of_holds hholds hsame hslots).mono fun _ db' h => ?_
  rw [h]
  exact .one (.patch hholds hsame hstate hslots)

theorem performs_patchMetadata (patch : MetadataPatch) : Performs act (patchMetadata patch) :=
  fun _ => (gives_patchMetadata patch).mono fun _ _ ⟨_, _, _, _, _, h⟩ => h

/-! ### Progress -/

variable {before operation : OperationRecord}

theorem gives_saveProgress {previous : LifecycleRecord}
    (hprev : db.ledger.operation before.operationId = some before)
    (hmerge : mergeProgress before operation = operation) :
    Gives (saveProgress previous app before operation) db fun _ db' =>
      db'.ledger = (db.ledger.setOperation operation).saveApp app := by
  refine (gives_saveOperation hprev hmerge).bind fun _ db₁ h₁ => ?_
  refine (gives_saveApp app previous.lifecycleId previous.metadataRevision).bind fun _ db₂ h₂ => ?_
  refine (gives_saveSlots app previous).mono fun _ db₃ h₃ => ?_
  have hhistory : db₁.history = (db.ledger.setOperation operation).history :=
    congrArg Ledger.history h₁
  rw [h₃.2, h₂, h₁, hhistory]
  rfl

theorem mergeProgress_same (h : mergeProgress before operation = operation) :
    operation.operationId = before.operationId ∧ operation.appId = before.appId ∧
      operation.lifecycleId = before.lifecycleId ∧ operation.scope = before.scope ∧
      operation.kind = before.kind := by
  rw [← h]
  exact ⟨rfl, rfl, rfl, rfl, rfl⟩

structure Ledger.Advances (L : Ledger) (progress : OperationProgress) (operation : OperationRecord)
    (L' : Ledger) where
  app : LifecycleRecord
  app' : LifecycleRecord
  before : OperationRecord
  inSlot : L.InSlot app before
  appId : app.appId = progress.appId
  operationId : before.operationId = progress.operationId
  authorized : Operations.needsAuthority before progress.state = true → L.Authorized before
  advanced : Domain.Advanced app before progress app' operation
  written : L' = (L.setOperation operation).saveApp app'

theorem gives_advance (progress : OperationProgress) :
    Gives (advance progress) db fun operation db' =>
      Nonempty (db.ledger.Advances progress operation db'.ledger) := by
  refine (quiet_claimApp progress.appId db).bind fun _ db₁ h₁ => ?_
  rw [← h₁]
  refine (gives_readApp progress.appId).query_bind fun app ⟨hholds, happ, _⟩ => ?_
  refine (gives_readOperation progress.appId progress.operationId).query_bind
    fun before ⟨hstored, hid, hopApp, hread⟩ => ?_
  refine (Gives.onlyIf (Q := fun _ db' => db' = db₁ ∧
    (needsAuthority before progress.state = true → db₁.ledger.Authorized before))
    (fun _ => Gives.reads.mono fun _ _ h => ⟨h.1, fun _ =>
      checkBusinessAuthority_ok h.2⟩) fun hn => ⟨rfl, fun h => absurd h hn⟩).bind
    fun _ db₄ h₄ => ?_
  obtain ⟨rfl, hauth⟩ := h₄
  refine Gives.fromExcept_bind fun result hresult => ?_
  obtain ⟨app', operation⟩ := result
  have hadv := advance_ok hresult
  refine .reads_bind fun _ _ => ?_
  have hprev : db₄.ledger.operation before.operationId = some before := by rw [hid]; exact hstored
  refine (gives_saveProgress hprev hadv.merge).bind fun _ db₅ h₅ => ?_
  refine (Gives.onlyIf
    (fun _ => quiet_deleteInput _ _) fun _ => rfl).bind fun _ db₆ h₆ => .pure ?_
  exact ⟨app, app', before, ⟨hholds, hprev, hopApp.trans happ.symm, hadv.inSlot, hread⟩, happ, hid,
    hauth, hadv, by rw [h₆, h₅]⟩

theorem Ledger.Advances.moves {L L' : Ledger} {progress : OperationProgress}
    (h : L.Advances progress operation L')
    (hact : act = .advance progress ∨ progress.state = .failed) : Moves act L L' := by
  rw [h.written]
  exact .one (.step h.inSlot h.advanced.operationLifecycle (.report hact h.advanced)
    h.advanced.follows)

theorem performs_advance (progress : OperationProgress) :
    Performs (.advance progress) (advance progress) :=
  fun _ => (gives_advance progress).mono fun _ _ ⟨h⟩ => h.moves (.inl rfl)

/-! ### Deadlines and leases -/

theorem quiet_bindOperationDeadline (appId operationId lifecycleId : String) (deadlineMs : Int) :
    Quiet (bindOperationDeadline appId operationId lifecycleId deadlineMs) := by
  intro db
  refine .failIf_bind fun _ => ?_
  refine (gives_currentOperation appId operationId lifecycleId).bind fun found db₁ h₁ => ?_
  rw [← h₁.1]
  refine .failIf_bind fun _ => .get_bind ?_
  cases db₁.deadlines.find? operationId with
  | some => exact .failIf_bind fun _ => .pure rfl
  | none => exact .update_bind (.pure rfl)

structure Ledger.BindsLease (L : Ledger) (context : ExecutionContext) (binding : LeaseBinding)
    (L' : Ledger) where
  app : LifecycleRecord
  operation : OperationRecord
  inSlot : L.InSlot app operation
  lifecycle : app.lifecycleId = context.lifecycleId
  appId : app.appId = context.appId
  operationId : operation.operationId = context.operationId
  running : operation.state = .running
  executes : owns context operation = true
  authorized : L.Authorized operation
  written : L' = L ∨ (L.lease operation.operationId = none ∧
    L' = L.setLease operation.operationId (some binding))

theorem gives_bindOperationLease (context : ExecutionContext) (receipt : LeaseReceipt) :
    Gives (bindOperationLease context receipt) db fun _ db' =>
      Nonempty (db.ledger.BindsLease context ⟨context, receipt⟩ db'.ledger) := by
  refine .fromExcept_bind fun _ _ => .fromExcept_bind fun _ _ => ?_
  refine (gives_currentOperation context.appId context.operationId context.lifecycleId).bind
    fun found db₁ h₁ => ?_
  obtain ⟨app, operation⟩ := found
  obtain ⟨heq, hin, happ, hid, hlife, -⟩ := h₁
  rw [← heq] at hin ⊢
  refine .failIf_bind fun hrun => .reads_bind fun _ hauth => ?_
  obtain ⟨howns, hrun⟩ := not_or.mp hrun
  have hbinds : ∀ L', (L' = db₁.ledger ∨ (db₁.ledger.lease operation.operationId = none ∧
      L' = db₁.ledger.setLease operation.operationId (some ⟨context, receipt⟩))) →
      Nonempty (db₁.ledger.BindsLease context ⟨context, receipt⟩ L') := fun L' hL =>
    ⟨app, operation, hin, hlife, happ, hid, not_not.mp (not_or.mp hrun).1, by simpa using howns,
      checkBusinessAuthority_ok hauth, hL⟩
  refine .reads_bind fun bound _ => ?_
  cases bound with
  | some => exact .failIf fun _ => hbinds _ (.inl rfl)
  | none =>
    refine .get_bind (.failIf_bind fun hnone => .update ?_)
    have hnone := not_not.mp hnone
    refine hbinds _ (.inr ⟨by rw [hid]; exact hnone, ?_⟩)
    rw [ledger_insertLease ⟨context, receipt⟩ hnone, hid]

theorem performs_bindOperationLease (context : ExecutionContext) (receipt : LeaseReceipt) :
    Performs act (bindOperationLease context receipt) := by
  intro db
  refine (gives_bindOperationLease context receipt).mono fun _ db' ⟨h⟩ => ?_
  obtain heq | ⟨hnone, heq⟩ := h.written
  · exact .of_eq heq
  · rw [heq]
    exact .one (.bindLease h.inSlot h.running hnone)

theorem performs_forgetOperationLease (binding : LeaseBinding) :
    Performs act (forgetOperationLease binding) := by
  refine .claimed fun db₁ => ?_
  refine (gives_readOperation _ _).query_bind fun operation ⟨hstored, hid, _⟩ => ?_
  refine .failIf_bind fun hended => .reads_bind fun bound _ => ?_
  cases bound with
  | none => exact .pure (.refl _)
  | some =>
    refine .failIf_bind fun _ => .update ?_
    rw [ledger_eraseLease, ← hid]
    exact .one (.forgetLease (by rw [hid]; exact hstored) (by simpa using (not_or.mp hended).1))

/-! ### Adoption -/

theorem quiet_claimBinding (binding : ResourceBinding) : Quiet (claimBinding binding) := by
  intro db
  refine .update_bind (.get_bind (.demand_bind fun previous _ => ?_))
  exact .failIf_bind fun _ => .failIf fun _ => rfl

theorem gives_commitResourceBinding (binding : ResourceBinding) (progress : OperationProgress) :
    Gives (commitResourceBinding binding progress) db fun operation db' =>
      progress.state = .succeeded ∧
        Nonempty (db.ledger.Advances progress operation db'.ledger) := by
  refine .failIf_bind fun hsucc => ?_
  obtain ⟨-, hsucc⟩ := not_or.mp hsucc
  obtain ⟨-, hsucc⟩ := not_or.mp hsucc
  refine (quiet_claimApp binding.appId db).bind fun _ db₁ h₁ => ?_
  rw [← h₁]
  refine (gives_readApp binding.appId).query_bind fun app _ => ?_
  refine .fromExcept_bind fun _ _ => .failIf_bind fun _ => ?_
  refine (gives_readOperation _ _).query_bind fun operation _ => ?_
  refine .failIf_bind fun _ => .fromExcept_bind fun _ _ => ?_
  refine (quiet_claimBinding binding db₁).bind fun _ db₄ h₄ => ?_
  rw [← h₄]
  exact (gives_advance progress).mono fun _ _ h => ⟨not_not.mp (not_or.mp hsucc).1, h⟩

theorem performs_commitResourceBinding (binding : ResourceBinding) (progress : OperationProgress) :
    Performs (.advance progress) (commitResourceBinding binding progress) :=
  fun _ => (gives_commitResourceBinding binding progress).mono fun _ _ ⟨_, ⟨h⟩⟩ =>
    h.moves (.inl rfl)

/-! ### Local restarts and activity -/

/-- The execution is under way, or was cut off already. -/
def UnderWay (L : Ledger) (id : String) : Prop :=
  ∃ operation, L.operation id = some operation ∧ (operation.state = .running ∨
    operation.state = .waitingRetry ∨ operation.state = .recoveryRequired)

theorem gives_quarantineOne (act : Act) {operationId : String} (h : UnderWay db.ledger operationId) :
    Gives (quarantineOne operationId) db fun _ db' =>
      Moves act db.ledger db'.ledger ∧ ∀ id, UnderWay db.ledger id → UnderWay db'.ledger id := by
  refine .get_bind (.demand_bind fun row hrow => ?_)
  refine .fromExcept_bind fun operation hop => ?_
  obtain ⟨rfl, hread⟩ := decodeOperation_ok hop
  refine (gives_readApp operation.appId).query_bind fun app ⟨hholds, happ, _⟩ => ?_
  refine .failIf_bind fun hslot => .demand_bind fun revision hrevision => ?_
  obtain ⟨hlife, hslot⟩ := not_or.mp hslot
  obtain rfl := checkedSucc_eq_some hrevision
  obtain rfl : operation.operationId = operationId := operationId_of_find hrow
  obtain ⟨found, hfound, hlive⟩ := h
  obtain rfl : operation = found := Option.mem_unique hrow hfound
  refine (gives_saveOperation hfound rfl).mono fun _ db₂ h₂ => ?_
  rw [h₂]
  refine ⟨.one (.of_live ⟨hholds, hfound, happ.symm, ?_, hread⟩ (not_not.mp hlife).symm
    (.inspect _ _ hlive) rfl), fun id hid => ?_⟩
  · simpa [slotMatchesOperation] using hslot
  · by_cases hk : id = operation.operationId
    · subst hk
      exact ⟨_, update_self .., .inr (.inr rfl)⟩
    · obtain ⟨other, hother, hstate⟩ := hid
      exact ⟨other, (update_of_ne hk ..).trans hother, hstate⟩

theorem gives_quarantineEach (ids : List String) : ∀ db : Store,
    (∀ id ∈ ids, UnderWay db.ledger id) →
      Gives (quarantineEach ids) db fun _ db' => Moves act db.ledger db'.ledger := by
  induction ids with
  | nil => exact fun _ _ => .pure (.refl _)
  | cons id ids ih =>
    intro db h
    refine (gives_quarantineOne act (h id (List.mem_cons_self ..))).bind fun _ db₁ h₁ => ?_
    refine (ih db₁ fun i hi => h₁.2 i (h i (List.mem_cons_of_mem _ hi))).mono fun _ _ h₂ => ?_
    exact h₁.1.trans h₂

theorem performs_quarantineLocalRestart : Performs act quarantineLocalRestart := by
  intro db
  refine .get_bind (gives_quarantineEach _ db fun id hid => ?_)
  simp only [underWay, List.mem_insertionSort, List.mem_map, List.mem_filter] at hid
  obtain ⟨operation, ⟨hmem, hstate⟩, rfl⟩ := hid
  refine ⟨operation, Table.find?_of_mem hmem, ?_⟩
  obtain h | h := of_decide_eq_true hstate
  · exact .inl h
  · exact .inr (.inl h)

theorem quiet_flushOne (report : ActivityReport) : Quiet (flushOne report) := by
  intro db
  unfold flushOne
  cases report.lastAccessed with
  | none => exact .pure rfl
  | some =>
    refine (quiet_claimApp _ db).bind fun _ db₁ h₁ => ?_
    refine .reads_bind fun found _ => .onlyIf (fun _ => .update ?_) fun _ => h₁
    rw [← h₁]
    unfold recordAccess
    split
    · rfl
    · split <;> rfl

theorem quiet_flushEach (reports : List ActivityReport) : Quiet (flushEach reports) := by
  induction reports with
  | nil => exact .pure ()
  | cons report reports ih => exact (quiet_flushOne report).bind fun _ => ih

theorem quiet_flushBatch (reports : List ActivityReport) : Quiet (flushBatch reports) :=
  quiet_flushEach _

theorem quiet_deleteActivity (appId lifecycleId : String) :
    Quiet (deleteActivity appId lifecycleId) :=
  (quiet_claimApp appId).bind fun _ => .update fun _ => rfl

/-! ### Beginning anew -/

theorem gives_retireScopedHead (app : LifecycleRecord) (scope : OperationScope) :
    Gives (retireScopedHead app scope) db fun _ db' =>
      (∀ head, db.ledger.head (app.appId, scope) = some head → db.ledger.SettledHead head) ∧
        db'.ledger = db.ledger.dropHead app.appId scope := by
  refine .reads_bind fun found hfound => ?_
  have hfinds := readScopedHead_ok hfound
  have hdrop : ∀ head, db.ledger.head (app.appId, scope) = some head → db.ledger.SettledHead head →
      Gives (retireHead head) db fun _ db' =>
        (∀ head, db.ledger.head (app.appId, scope) = some head → db.ledger.SettledHead head) ∧
          db'.ledger = db.ledger.dropHead app.appId scope := by
    intro head hhead hsettled
    obtain ⟨hid, hs⟩ := key_of_head hhead
    refine .update ⟨fun other hother => ?_, ?_⟩
    · rw [← Option.mem_unique hhead hother]
      exact hsettled
    · rw [ledger_eraseHead, hid, hs]
  cases hfinds with
  | absent missing =>
    refine .pure ⟨fun head hhead => ?_, ?_⟩
    · rw [missing] at hhead
      cases hhead
    · rw [dropHead, ← missing, update_eq_self]
  | historical stored _ settled => exact hdrop _ stored settled
  | current stored =>
    exact .reads_bind fun _ hsettled =>
      hdrop _ stored (validateSettledHead_ok hsettled)

theorem gives_retireLifecycleHeads (app : LifecycleRecord) :
    Gives (retireLifecycleHeads app) db fun _ db' =>
      (∀ scope head, scope ≠ .application → db.ledger.head (app.appId, scope) = some head →
        db.ledger.SettledHead head) ∧
        db'.ledger = (db.ledger.dropHead app.appId .dev).dropHead app.appId .prod := by
  refine (gives_retireScopedHead app .dev).bind fun _ db₁ h₁ => ?_
  refine (gives_retireScopedHead app .prod).mono fun _ db₂ h₂ => ?_
  rw [h₁.2] at h₂
  refine ⟨fun scope head hscope hhead => ?_, h₂.2⟩
  cases scope with
  | dev => exact h₁.1 head hhead
  | prod =>
    have hne : (app.appId, OperationScope.prod) ≠ (app.appId, .dev) := by simp
    exact settledHead_dropHead (h₂.1 head ((update_of_ne hne ..).trans hhead))
  | application => exact absurd rfl hscope

theorem ActiveOperations.eq_empty {active : ActiveOperations} (h : active.isEmpty = true) :
    active = {} := by
  simp only [ActiveOperations.isEmpty] at h
  cases active
  simp_all

theorem gives_writeIncarnation (app next : LifecycleRecord) {requestId : String}
    (hid : next.appId = app.appId) (hslots : next.activeOperations = {})
    (hrequest : db.ledger.request (app.appId, requestId) = none) :
    Gives (writeIncarnation app next requestId) db fun _ db' =>
      db'.ledger = (db.ledger.saveApp next).setRequest
        ⟨app.appId, requestId, .recreate app.lifecycleId next.lifecycleId⟩ := by
  refine .update_bind ?_
  refine (gives_saveApp next app.lifecycleId app.metadataRevision).bind fun _ db₁ h₁ => ?_
  refine .update ?_
  rw [ledger_eraseSlots] at h₁
  have hs : db₁.slots.find? app.appId = none := by
    have hall : db₁.slots.find? = _ := congrArg Ledger.slots h₁
    rw [hall]
    exact update_self ..
  have hr : db₁.requests.find? (app.appId, requestId) = none := by
    have hall : db₁.requests.find? = _ := congrArg Ledger.request h₁
    rw [hall]
    exact hrequest
  have hrow : (⟨app.appId, next.lifecycleId, {}⟩ : SlotsRow) = next.slotsRow := by
    rw [LifecycleRecord.slotsRow, hid, hslots]
  rw [ledger_insertIncarnation ⟨app.appId, next.lifecycleId, {}⟩
    ⟨app.appId, requestId, .recreate app.lifecycleId next.lifecycleId⟩ hs hr, h₁, hrow]
  have hkey : next.slotsRow.appId = app.appId := hid
  simp only [Ledger.saveApp, put, hid, hkey, update_idem]
  rfl

inductive Ledger.Recreates (L : Ledger) (app : LifecycleRecord) (expected requestId : String)
    (fresh : Fresh) : LifecycleRecord → Ledger → Prop
  | replay {row : RequestRow} (named : L.request (app.appId, requestId) = some row)
      (target : row.target = .recreate expected app.lifecycleId) :
      Recreates L app expected requestId fresh app L
  | anew (unnamed : L.request (app.appId, requestId) = none)
      (lifecycle : app.lifecycleId = expected) (deleted : app.state = .deleted)
      (empty : app.activeOperations = {})
      (settled : ∀ scope head, scope ≠ .application → L.head (app.appId, scope) = some head →
        L.SettledHead head) :
      Recreates L app expected requestId fresh
        (Operations.recreated app fresh (app.lifecycleEpoch + 1))
        ((((L.dropHead app.appId .dev).dropHead app.appId .prod).saveApp
          (Operations.recreated app fresh (app.lifecycleEpoch + 1))).setRequest
          ⟨app.appId, requestId, .recreate app.lifecycleId fresh.lifecycleId⟩)

theorem gives_recreate (appId expected requestId : String) (fresh : Fresh) :
    Gives (recreate appId expected requestId fresh) db fun result db' =>
      ∃ app, db.ledger.Holds app ∧ app.appId = appId ∧
        db.ledger.Recreates app expected requestId fresh result db'.ledger := by
  refine .fromExcept_bind fun _ _ => ?_
  refine (quiet_claimApp appId db).bind fun _ db₁ h₁ => ?_
  rw [← h₁]
  refine (gives_readApp appId).bind fun app db₂ h₂ => ?_
  obtain ⟨rfl, hholds, rfl, -⟩ := h₂
  refine .get_bind ?_
  cases hr : db₂.requests.find? (app.appId, requestId) with
  | some previous =>
    refine Gives.fromExcept.mono fun result db' h => ?_
    obtain ⟨rfl, hreplay⟩ := h
    unfold replayRecreate at hreplay
    cases ht : previous.target with
    | control => simp [ht] at hreplay
    | recreate =>
      simp only [ht] at hreplay
      obtain ⟨hsame, hreplay⟩ := Check.failIf_bind hreplay
      obtain ⟨hbefore, hafter⟩ := not_or.mp hsame
      cases hreplay
      refine ⟨app, hholds, rfl, .replay hr ?_⟩
      rw [ht, not_not.mp hbefore, not_not.mp hafter]
  | none =>
    refine .failIf_bind fun hstate => ?_
    obtain ⟨hlife, hstate⟩ := not_or.mp hstate
    obtain ⟨hdeleted, hempty⟩ := not_or.mp hstate
    have hempty := ActiveOperations.eq_empty (by simpa using hempty)
    refine (gives_retireLifecycleHeads app).bind fun _ db₃ h₃ => ?_
    refine .demand_bind fun epoch hepoch => ?_
    obtain rfl := checkedSucc_eq_some hepoch
    have hreq : db₃.ledger.request (app.appId, requestId) = none := by
      rw [h₃.2]
      exact hr
    refine (gives_writeIncarnation app (recreated app fresh (app.lifecycleEpoch + 1)) rfl
      hempty hreq).bind fun _ db₄ h₄ => .pure ⟨app, hholds, rfl, ?_⟩
    rw [h₄, h₃.2]
    exact .anew hr (not_not.mp hlife) (not_not.mp hdeleted) hempty h₃.1

theorem performs_recreate (appId expected requestId : String) (fresh : Fresh) :
    Performs (.recreate fresh.lifecycleId)
      (recreate appId expected requestId fresh) := by
  intro db
  refine (gives_recreate appId expected requestId fresh).mono fun _ db' h => ?_
  obtain ⟨app, hholds, -, hrec⟩ := h
  generalize db'.ledger = L' at hrec
  cases hrec with
  | replay => exact .refl _
  | anew unnamed lifecycle deleted empty settled =>
    exact .one (.recreate hholds deleted empty settled ⟨rfl, rfl, rfl, empty⟩ rfl unnamed rfl rfl rfl)

end Rcoder.Lifecycle
