import Rcoder.Lifecycle.Execution

/-!
# The ledger

The store without its bookkeeping: applications with their slots, operations, requests, leases,
intents and controls, each table as a function of its key. Everything the transactions decide
about these tables can be said of the ledger, and every statement changes it by one of a few
updates. The lemmas of this module say which.
-/

namespace Rcoder.Lifecycle

open Effect Function Check Store Table LifecycleRecord

def LifecycleRecord.bare (app : LifecycleRecord) : LifecycleRecord :=
  { app with activeOperations := {} }

def LifecycleRecord.slotsRow (app : LifecycleRecord) : SlotsRow :=
  ⟨app.appId, app.lifecycleId, app.activeOperations⟩

theorem LifecycleRecord.same_of_bare {app app' : LifecycleRecord} (h : app'.bare = app.bare) :
    app'.appId = app.appId ∧ app'.lifecycleId = app.lifecycleId := by
  have happ := congrArg appId h
  have hlife := congrArg lifecycleId h
  exact ⟨happ, hlife⟩

/-- The record of a row, whatever its slots hold. -/
def ApplicationRow.bare (row : ApplicationRow) : LifecycleRecord where
  runtimePolicy := row.policy
  appId := row.appId
  lifecycleId := row.lifecycleId
  lifecycleEpoch := row.lifecycleEpoch
  metadataRevision := row.metadataRevision
  state := row.state
  name := row.name
  tenantId := row.tenantId
  spaceId := row.spaceId
  createdAt := row.createdAt

structure Ledger where
  root : String → Option LifecycleRecord
  slots : String → Option SlotsRow
  operation : String → Option OperationRecord
  request : String × String → Option RequestRow
  lease : String → Option LeaseBinding
  head : String × OperationScope → Option IntentRow
  control : String → Option ControlRecord
  history : History

def Store.ledger (db : Store) : Ledger where
  root id := (db.apps.find? id).map ApplicationRow.bare
  slots := db.slots.find?
  operation := db.operations.find?
  request := db.requests.find?
  lease := db.leases.find?
  head := db.intents.find?
  control := db.controls.find?
  history := db.history

variable {head : IntentRow}

namespace Ledger

/-! ### Updates -/

/-- The row and the slots of the application are those of the record. -/
def Holds (L : Ledger) (app : LifecycleRecord) : Prop :=
  L.root app.appId = some app.bare ∧ L.slots app.appId = some app.slotsRow

def put (L : Ledger) (app : LifecycleRecord) : Ledger :=
  { L with
    root := update L.root app.appId (some app.bare)
    slots := update L.slots app.appId (some app.slotsRow) }

def saveApp (L : Ledger) (app : LifecycleRecord) : Ledger :=
  { L.put app with history := L.history.application app }

def setOperation (L : Ledger) (operation : OperationRecord) : Ledger :=
  { L with
    operation := update L.operation operation.operationId (some operation)
    history := L.history.operation operation }

def setControl (L : Ledger) (control : ControlRecord) : Ledger :=
  { L with
    control := update L.control control.operationId (some control)
    history := L.history.control control }

def setHead (L : Ledger) (head : IntentRow) : Ledger :=
  { L with head := update L.head (head.appId, head.scope) (some head) }

def dropHead (L : Ledger) (appId : String) (scope : OperationScope) : Ledger :=
  { L with head := update L.head (appId, scope) none }

def setLease (L : Ledger) (operationId : String) (binding : Option LeaseBinding) : Ledger :=
  { L with lease := update L.lease operationId binding }

def setRequest (L : Ledger) (row : RequestRow) : Ledger :=
  { L with request := update L.request (row.appId, row.requestId) (some row) }

variable {L : Ledger} {id : String} {app : LifecycleRecord}

theorem operation_setOperation {operation found : OperationRecord} :
    (L.setOperation operation).operation id = some found ↔
      (id = operation.operationId ∧ found = operation) ∨
        (id ≠ operation.operationId ∧ L.operation id = some found) :=
  update_eq_some

theorem operation_setOperation_self (L : Ledger) (operation : OperationRecord) :
    (L.setOperation operation).operation operation.operationId = some operation :=
  update_self ..

theorem control_setControl {control found : ControlRecord} :
    (L.setControl control).control id = some found ↔
      (id = control.operationId ∧ found = control) ∨
        (id ≠ control.operationId ∧ L.control id = some found) :=
  update_eq_some

theorem control_setControl_self (L : Ledger) (control : ControlRecord) :
    (L.setControl control).control control.operationId = some control :=
  update_self ..

theorem head_setHead {found : IntentRow} {key : String × OperationScope} :
    (L.setHead head).head key = some found ↔
      (key = (head.appId, head.scope) ∧ found = head) ∨
        (key ≠ (head.appId, head.scope) ∧ L.head key = some found) :=
  update_eq_some

theorem head_setHead_self (L : Ledger) (head : IntentRow) :
    (L.setHead head).head (head.appId, head.scope) = some head :=
  update_self ..

theorem Holds.eq {a b : LifecycleRecord} (ha : L.Holds a) (hb : L.Holds b)
    (h : a.appId = b.appId) : a = b := by
  obtain ⟨har, has⟩ := ha
  obtain ⟨hbr, hbs⟩ := hb
  rw [h, hbr] at har
  rw [h, hbs] at has
  have hr := Option.some.inj har
  have hs := Option.some.inj has
  cases a
  cases b
  simp only [bare] at hr
  simp only [slotsRow] at hs
  simp_all

@[simp] theorem holds_put (L : Ledger) (app : LifecycleRecord) : (L.put app).Holds app :=
  ⟨update_self .., update_self ..⟩

variable {other : LifecycleRecord}

theorem holds_put_of_ne (L : Ledger) {app : LifecycleRecord} (h : other.appId ≠ app.appId) :
    (L.put app).Holds other ↔ L.Holds other := by
  simp [Holds, put, update_of_ne h]

theorem holds_put_iff (L : Ledger) {app : LifecycleRecord} :
    (L.put app).Holds other ↔ other = app ∨ (other.appId ≠ app.appId ∧ L.Holds other) := by
  by_cases h : other.appId = app.appId
  · constructor
    · exact fun ho => .inl (ho.eq (L.holds_put app) h)
    · rintro (rfl | ⟨hne, -⟩)
      · exact L.holds_put other
      · exact absurd h hne
  · rw [holds_put_of_ne L h]
    constructor
    · exact fun ho => .inr ⟨h, ho⟩
    · rintro (rfl | ⟨-, ho⟩)
      · exact absurd rfl h
      · exact ho

theorem put_of_holds (h : L.Holds app) : L.put app = L := by
  unfold put
  rw [← h.1, ← h.2, update_eq_self, update_eq_self]

end Ledger

/-! ### Reading -/

variable {row : ApplicationRow}

namespace Store

variable {db : Store} {appId id : String} {app : LifecycleRecord} {operation : OperationRecord}
  {control : ControlRecord}

theorem decodeApplication_ok {slots : SlotsRow} (h : decodeApplication row slots = .ok app) :
    app.bare = row.bare ∧ app.appId = row.appId ∧ app.slotsRow = slots := by
  obtain ⟨-, h⟩ := failIf_bind h
  obtain ⟨hid, h⟩ := failIf_bind h
  obtain ⟨-, h⟩ := failIf_bind h
  obtain ⟨-, h⟩ := failIf_bind h
  obtain ⟨-, h⟩ := failIf_bind h
  obtain ⟨-, h⟩ := failIf_bind h
  obtain ⟨happ, hlife⟩ := not_or.mp hid
  cases h
  refine ⟨rfl, rfl, ?_⟩
  rw [slotsRow, not_not.mp happ, not_not.mp hlife]

theorem readApp_rows (h : db.readApp appId = .ok (some app)) :
    ∃ row slots, db.apps.find? appId = some row ∧ db.slots.find? appId = some slots ∧
      decodeApplication row slots = .ok app := by
  unfold readApp at h
  cases ha : db.apps.find? appId with
  | none => simp [ha, pure, Except.pure] at h
  | some row =>
    simp only [ha] at h
    obtain ⟨slots, hs, h⟩ := demand_bind h
    exact ⟨row, slots, rfl, hs, map_some_eq_ok.mp h⟩

theorem readApp_some
    (h : db.readApp appId = .ok (some app)) : db.ledger.Holds app ∧ app.appId = appId := by
  obtain ⟨row, slots, ha, hs, hd⟩ := readApp_rows h
  obtain ⟨hbare, happ, hslots⟩ := decodeApplication_ok hd
  have hkey : app.appId = appId := happ.trans (find?_key ha)
  refine ⟨⟨?_, ?_⟩, hkey⟩
  · simp only [ledger, hkey, ha, hbare, Option.map_some]
  · simp only [ledger, hkey, hs, hslots]

structure Readable (operation : OperationRecord) : Prop where
  scope : operation.kind.scope = operation.scope
  executor : operation.state = .running → ∃ e, operation.executorId = some e ∧ e ≠ ""
  revision : 1 ≤ operation.revision

theorem decodeOperation_ok {row operation : OperationRecord}
    (h : decodeOperation row = .ok operation) : operation = row ∧ Readable operation := by
  obtain ⟨-, h⟩ := failIf_bind h
  obtain ⟨hscope, h⟩ := failIf_bind h
  obtain ⟨hexec, h⟩ := failIf_bind h
  obtain ⟨-, h⟩ := failIf_bind h
  obtain ⟨hrev, h⟩ := failIf_bind h
  cases h
  refine ⟨rfl, not_not.mp hscope, fun hr => ?_, not_lt.mp hrev⟩
  cases he : row.executorId with
  | none => exact absurd ⟨hr, .inl he⟩ hexec
  | some e => exact ⟨e, rfl, fun h0 => hexec ⟨hr, .inr (by rw [he, h0])⟩⟩

theorem readOperation_some (h : db.readOperation appId id = .ok (some operation)) :
    db.ledger.operation id = some operation ∧ operation.appId = appId ∧ Readable operation := by
  unfold readOperation at h
  cases ho : (db.operations.find? id).filter (·.appId = appId) with
  | none => simp [ho, pure, Except.pure] at h
  | some =>
    simp only [ho] at h
    obtain ⟨rfl, hr⟩ := decodeOperation_ok (map_some_eq_ok.mp h)
    obtain ⟨hf, happ⟩ := Option.filter_eq_some_iff.mp ho
    exact ⟨hf, by simpa using happ, hr⟩

theorem readOperation_none (h : db.readOperation appId id = .ok none) :
    ∀ operation, db.ledger.operation id = some operation → operation.appId ≠ appId := by
  intro operation ho happ
  unfold readOperation at h
  have hf : (db.operations.find? id).filter (·.appId = appId) = some operation :=
    Option.filter_eq_some_iff.mpr ⟨ho, by simpa using happ⟩
  simp only [hf] at h
  cases hd : decodeOperation operation <;> simp [hd] at h

theorem decodeControl_ok {row control : ControlRecord} (h : decodeControl row = .ok control) :
    control = row := by
  obtain ⟨-, h⟩ := failIf_bind h
  obtain ⟨-, -, h⟩ := bind_eq_ok.mp h
  cases h
  rfl

theorem readControl_some (h : db.readControl appId id = .ok (some control)) :
    db.ledger.control id = some control ∧ control.appId = appId := by
  unfold readControl at h
  cases hc : (db.controls.find? id).filter (·.appId = appId) with
  | none => simp [hc, pure, Except.pure] at h
  | some =>
    simp only [hc] at h
    obtain rfl := decodeControl_ok (map_some_eq_ok.mp h)
    obtain ⟨hf, happ⟩ := Option.filter_eq_some_iff.mp hc
    exact ⟨hf, by simpa using happ⟩

theorem operationId_of_find
    (h : db.ledger.operation id = some operation) : operation.operationId = id :=
  find?_key h

theorem controlId_of_find (h : db.ledger.control id = some control) : control.operationId = id :=
  find?_key h

end Store

/-! ### Statements -/

namespace Store

variable {db : Store}

theorem ledger_insertApp (h : db.apps.find? row.appId = none) (history : History) :
    ledger { db with apps := db.apps.insert row, history } =
      { db.ledger with
        root := update db.ledger.root row.appId (some row.bare)
        history } := by
  unfold ledger
  simp only [find?_insert h, Ledger.mk.injEq, and_self, and_true]
  funext id
  by_cases hid : id = row.appId
  · subst hid
    simp only [update_self, Option.map_some]
  · simp only [update_of_ne hid]

theorem ledger_insertSlots (row : SlotsRow) (h : db.slots.find? row.appId = none) :
    ledger { db with slots := db.slots.insert row } =
      { db.ledger with slots := update db.ledger.slots row.appId (some row) } := by
  unfold ledger
  simp only [find?_insert h]

theorem ledger_eraseSlots (appId : String) (activity) :
    ledger { db with slots := db.slots.erase appId, activity } =
      { db.ledger with slots := update db.ledger.slots appId none } := by
  unfold ledger
  simp only [find?_erase]

theorem ledger_insertLease (binding : LeaseBinding)
    (h : db.leases.find? binding.context.operationId = none) :
    ledger { db with leases := db.leases.insert binding } =
      db.ledger.setLease binding.context.operationId (some binding) := by
  unfold ledger Ledger.setLease
  simp only [find?_insert h]

theorem ledger_eraseLease (id : String) :
    ledger { db with leases := db.leases.erase id } = db.ledger.setLease id none := by
  unfold ledger Ledger.setLease
  simp only [find?_erase]

theorem ledger_insertRequest (row : RequestRow)
    (h : db.requests.find? (row.appId, row.requestId) = none) :
    ledger { db with requests := db.requests.insert row } = db.ledger.setRequest row := by
  unfold ledger Ledger.setRequest
  simp only [find?_insert h]

theorem ledger_insertIncarnation (slots : SlotsRow) (request : RequestRow)
    (hs : db.slots.find? slots.appId = none)
    (hr : db.requests.find? (request.appId, request.requestId) = none) :
    ledger { db with
      slots := db.slots.insert slots
      requests := db.requests.insert request } =
      Ledger.setRequest { db.ledger with
        slots := update db.ledger.slots slots.appId (some slots) } request := by
  unfold ledger Ledger.setRequest
  simp only [find?_insert hs, find?_insert hr]

theorem ledger_eraseHead (appId : String) (scope : OperationScope) :
    ledger { db with intents := db.intents.erase (appId, scope) } =
      db.ledger.dropHead appId scope := by
  unfold ledger Ledger.dropHead
  simp only [find?_erase]

theorem ledger_insertHead (h : db.intents.find? (head.appId, head.scope) = none) :
    ledger { db with intents := db.intents.insert head } = db.ledger.setHead head := by
  unfold ledger Ledger.setHead
  simp only [find?_insert h]

theorem ledger_setHead (head old : IntentRow)
    (h : db.intents.find? (head.appId, head.scope) = some old) :
    ledger { db with intents := db.intents.set head } = db.ledger.setHead head := by
  unfold ledger Ledger.setHead
  simp only [find?_set h]

theorem ledger_insertControl {control : ControlRecord}
    (h : db.controls.find? control.operationId = none) :
    ledger { db with
      controls := db.controls.insert control
      history := db.history.control control } = db.ledger.setControl control := by
  unfold ledger Ledger.setControl
  simp only [find?_insert h]

theorem ledger_setControl (control old : ControlRecord)
    (h : db.controls.find? control.operationId = some old) :
    ledger { db with
      controls := db.controls.set control
      history := db.history.control control } = db.ledger.setControl control := by
  unfold ledger Ledger.setControl
  simp only [find?_set h]

end Store

section Statements

variable {db : Store}

/-- The transaction does not change the ledger. -/
def Quiet {α : Type} (m : Tx α) : Prop :=
  ∀ db, Gives m db fun _ db' => db'.ledger = db.ledger

namespace Quiet

variable {α β : Type}

theorem pure (a : α) : Quiet (Pure.pure a) := fun _ => .pure rfl

theorem throw (e : StoreError) : Quiet (MonadExcept.throw e : Tx α) := fun _ => .throw

theorem bind {m : Tx α} {f : α → Tx β} (hm : Quiet m) (hf : ∀ a, Quiet (f a)) : Quiet (m >>= f) :=
  fun db => (hm db).bind fun a db₁ h₁ => (hf a db₁).mono fun _ _ h₂ => h₂.trans h₁

theorem get_bind {f : Store → Tx β} (hf : ∀ db, Gives (f db) db fun _ db' =>
    db'.ledger = db.ledger) : Quiet (get >>= f) :=
  hf

theorem reads (f : Store → Except StoreError α) : Quiet (Effect.reads f) :=
  fun _ => Gives.reads.mono fun _ _ h => by rw [h.1]

theorem fromExcept (x : Except StoreError α) : Quiet (Effect.fromExcept x : Tx α) :=
  fun _ => Gives.fromExcept.mono fun _ _ h => by rw [h.1]

theorem failIf (bad : Prop) [Decidable bad] (e : StoreError) : Quiet (Rcoder.failIf bad e) :=
  fun _ => .failIf fun _ => rfl

theorem demand (o : Option α) (e : StoreError) : Quiet (Rcoder.demand o e : Tx α) :=
  fun _ => Gives.demand.mono fun _ _ h => by rw [h.1]

theorem update {f : Store → Store} (h : ∀ db, (f db).ledger = db.ledger) :
    Quiet (modify f : Tx Unit) :=
  fun db => .update (h db)

end Quiet

theorem quiet_claimApp (appId : String) : Quiet (claimApp appId) := by
  intro db
  refine .get_bind ?_
  cases ha : db.apps.find? appId with
  | none => exact .pure rfl
  | some row =>
    refine .demand_bind fun next _ => .update ?_
    obtain rfl : row.appId = appId := find?_key ha
    have hset := find?_set (r := { row with controlRevision := next }) ha
    unfold ledger
    simp only [hset, Ledger.mk.injEq, and_true]
    funext id
    by_cases hid : id = row.appId
    · subst hid
      simp only [update_self, ha]
      rfl
    · simp only [update_of_ne hid]

theorem gives_readApp (appId : String) :
    Gives (readApp appId) db fun app db' =>
      db' = db ∧ db.ledger.Holds app ∧ app.appId = appId ∧ db.readApp appId = .ok (some app) := by
  refine .reads_bind fun found hf => ?_
  refine Gives.demand.mono fun app db' hd => ?_
  obtain ⟨rfl, rfl⟩ := hd
  obtain ⟨hholds, happ⟩ := readApp_some hf
  exact ⟨rfl, hholds, happ, hf⟩

theorem gives_readOperation (appId id : String) :
    Gives (readOperation appId id) db fun operation db' =>
      db' = db ∧ db.ledger.operation id = some operation ∧ operation.operationId = id ∧
        operation.appId = appId ∧ Readable operation := by
  refine .reads_bind fun found hf => ?_
  refine Gives.demand.mono fun operation db' hd => ?_
  obtain ⟨rfl, rfl⟩ := hd
  obtain ⟨ho, happ, hr⟩ := readOperation_some hf
  exact ⟨rfl, ho, operationId_of_find ho, happ, hr⟩

theorem gives_readControl (appId id : String) :
    Gives (readControl appId id) db fun control db' =>
      db' = db ∧ db.ledger.control id = some control ∧ control.operationId = id ∧
        control.appId = appId := by
  refine .reads_bind fun found hf => ?_
  refine Gives.demand.mono fun control db' hd => ?_
  obtain ⟨rfl, rfl⟩ := hd
  obtain ⟨hc, happ⟩ := readControl_some hf
  exact ⟨rfl, hc, controlId_of_find hc, happ⟩

theorem encodeApplication_ok {record : LifecycleRecord} {revision : Int}
    (h : encodeApplication record revision = .ok row) :
    row.appId = record.appId ∧ row.bare = record.bare := by
  obtain ⟨-, h⟩ := failIf_bind h
  obtain ⟨-, h⟩ := failIf_bind h
  cases h
  exact ⟨rfl, rfl⟩

/-- `save_app` writes the row of the lifecycle and revision that were read. -/
theorem gives_saveApp (record : LifecycleRecord) (oldLifecycle : String) (oldRevision : Int) :
    Gives (saveApp record oldLifecycle oldRevision) db fun _ db' =>
      db'.ledger = { db.ledger with
        root := update db.ledger.root record.appId (some record.bare)
        history := db.history.application record } := by
  refine .get_bind (.demand_bind fun row hrow => ?_)
  refine .fromExcept_bind fun saved hsaved => .failIf_bind fun _ => .update ?_
  obtain ⟨hid, hbare⟩ := encodeApplication_ok hsaved
  obtain ⟨hrow, -⟩ := Option.filter_eq_some_iff.mp hrow
  have hset := find?_set (t := db.apps) (by rw [hid]; exact hrow)
  unfold ledger
  simp only [hset, Ledger.mk.injEq, and_self, and_true]
  funext id
  by_cases h : id = record.appId
  · subst h
    rw [update_self, ← hid, update_self, Option.map_some, hbare]
  · rw [update_of_ne h, update_of_ne (hid ▸ h)]

theorem gives_saveSlots (app previous : LifecycleRecord) :
    Gives (saveSlots app previous) db fun _ db' =>
      (∃ row, db.ledger.slots app.appId = some row ∧ row.lifecycleId = app.lifecycleId ∧
        row.active = previous.activeOperations) ∧
      db'.ledger = { db.ledger with
        slots := update db.ledger.slots app.appId (some app.slotsRow) } := by
  refine .get_bind (.demand_bind fun row hrow => ?_)
  refine .failIf_bind fun _ => .failIf_bind fun _ => .update ?_
  obtain ⟨hrow, hsame⟩ := Option.filter_eq_some_iff.mp hrow
  simp only [decide_eq_true_eq] at hsame
  have hkey : row.appId = app.appId := find?_key hrow
  refine ⟨⟨row, hrow, hsame⟩, ?_⟩
  have hnew : { row with active := app.activeOperations } = app.slotsRow := by
    rw [slotsRow, ← hkey, ← hsame.1]
  have hset := find?_set (r := app.slotsRow) hrow
  unfold ledger
  simp only [hnew, hset]
  rfl

theorem gives_insertOperation (record : OperationRecord) :
    Gives (insertOperation record) db fun _ db' =>
      db.ledger.operation record.operationId = none ∧
        db'.ledger = db.ledger.setOperation record := by
  refine .failIf_bind fun _ => .failIf_bind fun _ => ?_
  refine .failIf_bind fun _ => .failIf_bind fun _ => ?_
  refine .get_bind (.failIf_bind fun hnone => .update ?_)
  have hnone := not_not.mp hnone
  refine ⟨hnone, ?_⟩
  unfold ledger Ledger.setOperation
  simp only [find?_insert hnone]

/-- `save_operation` over the record that was read writes the new record itself, as only the
progress of a record ever differs. -/
theorem gives_saveOperation {record previous : OperationRecord}
    (hprev : db.ledger.operation previous.operationId = some previous)
    (hsame : mergeProgress previous record = record) :
    Gives (saveOperation record previous) db fun _ db' =>
      db'.ledger = db.ledger.setOperation record := by
  refine .failIf_bind fun _ => .failIf_bind fun _ => .get_bind ?_
  refine .demand_bind fun row hrow => .failIf_bind fun _ => ?_
  refine .failIf_bind fun _ => .update ?_
  have hrow' : db.ledger.operation previous.operationId = some row := by
    rw [← hsame] at hrow
    exact hrow
  obtain rfl : previous = row := Option.mem_unique hprev hrow'
  unfold ledger Ledger.setOperation
  simp only [hsame, find?_set hrow]

theorem quiet_deleteInput (id : String) : Quiet (deleteInput id) :=
  fun _ => .update rfl

structure Ledger.InSlot (L : Ledger) (app : LifecycleRecord) (operation : OperationRecord) :
    Prop where
  holds : L.Holds app
  stored : L.operation operation.operationId = some operation
  sameApp : operation.appId = app.appId
  inSlot : app.activeOperations.slot operation.scope = some operation.operationId
  readable : Store.Readable operation

theorem gives_currentOperation (appId operationId lifecycleId : String) :
    Gives (currentOperation appId operationId lifecycleId) db fun found db' =>
      db'.ledger = db.ledger ∧ db.ledger.InSlot found.1 found.2 ∧ found.1.appId = appId ∧
        found.2.operationId = operationId ∧ found.1.lifecycleId = lifecycleId ∧
        db'.readApp appId = .ok (some found.1) := by
  refine (quiet_claimApp appId db).bind fun _ db₁ h₁ => ?_
  refine (gives_readApp appId).query_bind fun app ⟨hholds, happ, happ'⟩ => ?_
  refine .failIf_bind fun hlife => ?_
  refine (gives_readOperation appId operationId).query_bind
    fun operation ⟨ho, hid, hoapp, hread⟩ => ?_
  refine .failIf_bind fun hslot => .pure ?_
  rw [← h₁]
  refine ⟨rfl, ⟨hholds, hid ▸ ho, hoapp.trans happ.symm, ?_, hread⟩, happ, hid, ?_, happ'⟩
  · simpa [Domain.slotMatchesOperation] using hslot
  · exact not_not.mp (not_or.mp hlife).1

end Statements

end Rcoder.Lifecycle
