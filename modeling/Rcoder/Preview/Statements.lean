import Rcoder.Preview.Ports

/-!
# The statements of the PostgreSQL store return

On lawful rows nothing fails that is not a decision of the call: rows decode, the constraints
hold for what is written, and the operation of a row is found.
-/

namespace Rcoder.Preview.Postgres

open Effect Function Table List

variable {env : Env} {t : Tables} {r row before : PreviewInstanceRecord} {op : OperationRow}
  {key : String} {port : Nat}

section Rows

theorem decode_run (h : Lawful t.table) (hr : r ∈ t.instances.rows) : decode r = .ok r := by
  have hrow : t.table r.previewKey = some r := find?_of_mem hr
  exact decode_eq (h.exclusive.sound _ _ hrow) (h.named _ _ hrow)

theorem getInstance_run (h : Lawful t.table) : getInstance key t = .ok (t.table key) t := by
  refine (bind_of_ok get_run).trans ?_
  change _ = EStateM.Result.ok (t.instances.find? key) t
  cases hr : t.instances.find? key with
  | none => rfl
  | some => exact bind_of_ok (fromExcept_run (decode_run h (find?_mem hr)))

theorem current_run (h : Lawful t.table) (hr : t.table key = some r) : current key t = .ok r t :=
  (bind_of_ok (getInstance_run h)).trans (require_run hr)

theorem rowAllowed_of (h : Sound r) (hn : Named r) : rowAllowed r = true := by
  obtain ⟨port, hport, hpool⟩ := h.port
  have hrange : 4000 ≤ port ∧ port ≤ 55000 := (of_decide_eq_true hpool).1
  have hpid : r.pid.all (0 < ·) = true := by
    cases hp : r.pid with
    | none => rfl
    | some pid => exact decide_eq_true (h.pid pid hp)
  refine decide_eq_true ⟨hn.key, hn.inst, h.revision, hpid, ?_, ?_⟩
  · rw [hport]
    exact decide_eq_true ⟨by omega, by omega⟩
  · rw [hport]
    exact fun _ => rfl

variable {instances : Table PreviewInstanceRecord.previewKey}

/-- Lawful rows satisfy the constraints of the schema. -/
theorem constraintsHold_of (h : Lawful instances.find?) : constraintsHold instances.rows := by
  have hfind {r : PreviewInstanceRecord} (hr : r ∈ instances.rows) :
      instances.find? r.previewKey = some r := find?_of_mem hr
  have hsame {r r' : PreviewInstanceRecord} (hr : r ∈ instances.rows) (hr' : r' ∈ instances.rows)
      (hkey : r.previewKey = r'.previewKey) : r = r' :=
    Option.some.inj ((hfind hr).symm.trans (hkey ▸ hfind hr'))
  have hnodup : instances.rows.Nodup := instances.nodup.of_map
  refine ⟨fun r hr => ?_, hnodup.map_on fun r hr r' hr' hi => ?_,
    (hnodup.filter _).map_on fun r hr r' hr' hp => ?_⟩
  · exact rowAllowed_of (h.exclusive.sound _ _ (hfind hr)) (h.named _ _ (hfind hr))
  · exact hsame hr hr' (h.apart _ _ _ _ (hfind hr) (hfind hr') hi)
  · obtain ⟨hr, hactive⟩ := mem_filter.mp hr
    obtain ⟨hr', hactive'⟩ := mem_filter.mp hr'
    exact hsame hr hr' (h.exclusive.apart _ _ _ _ (hfind hr) (hfind hr') hactive hactive' hp)

theorem writeInstances_run (h : Lawful instances.find?) :
    writeInstances instances t = .ok () { t with instances := instances } :=
  (bind_of_ok (ensure_run (constraintsHold_of h))).trans modify_run

theorem save_run (hbefore : t.table before.previewKey = some before)
    (hrow : writeColumns before row = row)
    (h : Lawful (update t.table before.previewKey (some row))) :
    save before row t = .ok () { t with instances := t.instances.set row } := by
  have hkey : row.previewKey = before.previewKey := by rw [← hrow]; rfl
  refine (bind_of_ok get_run).trans ((bind_of_ok (require_run hbefore)).trans ?_)
  refine (bind_of_ok (ensure_run ⟨rfl, rfl, rfl, rfl⟩)).trans ?_
  change writeInstances (t.instances.set (writeColumns before row)) t = _
  rw [hrow]
  refine writeInstances_run ?_
  have htable := table_save hbefore hkey
  unfold Tables.table at htable
  rwa [htable]

theorem save_kept (h : Lawful t.table) (hbefore : t.table before.previewKey = some before)
    (hk : Kept before row) (hrow : writeColumns before row = row) :
    save before row t = .ok () { t with instances := t.instances.set row } :=
  save_run hbefore hrow (h.kept hbefore hk)

theorem mapM_run {α β : Type} {g : α → Except PreviewStoreError β} {f : α → β} {l : List α}
    (h : ∀ a ∈ l, g a = .ok (f a)) : l.mapM g = .ok (l.map f) := by
  induction l with
  | nil => rfl
  | cons a l ih =>
    rw [mapM_cons, h a mem_cons_self, ih fun b hb => h b (mem_cons_of_mem a hb)]
    rfl

theorem mapM_decode_run (h : Lawful t.table) {rows : List PreviewInstanceRecord}
    (hrows : rows ⊆ t.instances.rows) : rows.mapM decode = .ok rows := by
  have hrun := mapM_run (f := id) fun r hr => decode_run h (hrows hr)
  rwa [map_id] at hrun

theorem ordered_subset {p : PreviewInstanceRecord → Bool} :
    ordered env (t.instances.rows.filter p) ⊆ t.instances.rows := fun _ hr =>
  mem_of_mem_filter (mem_ordered.mp hr)

theorem active_run (h : Lawful t.table) :
    active env t = .ok (ordered env (t.instances.rows.filter (·.state.isActive))) t :=
  (bind_of_ok get_run).trans (fromExcept_run (mapM_decode_run h ordered_subset))

theorem listByHost_run (h : Lawful t.table) {hostId : String} {activeOnly : Bool} :
    listByHost env hostId activeOnly t =
      .ok ((ordered env (t.instances.rows.filter (·.hostId = hostId))).filter fun r =>
        activeOnly = false ∨ r.state.isActive) t :=
  (bind_of_ok get_run).trans (bind_of_ok (fromExcept_run (mapM_decode_run h ordered_subset)))

theorem ports_run (h : Lawful t.table) :
    ports env t = .ok ((ordered env (t.instances.rows.filter (·.state.isActive))).filterMap
      (·.port)) t := by
  refine (bind_of_ok (active_run h)).trans (fromExcept_run ?_)
  have hsub : ordered env (t.instances.rows.filter (·.state.isActive)) ⊆ t.instances.rows :=
    ordered_subset
  generalize ordered env (t.instances.rows.filter (·.state.isActive)) = rows at hsub
  induction rows with
  | nil => rfl
  | cons row rows ih =>
    obtain ⟨hrow, hrest⟩ := cons_subset.mp hsub
    obtain ⟨port, hport, -⟩ := (h.exclusive.sound _ _ (find?_of_mem hrow)).port
    rw [mapM_cons, hport, filterMap_cons_some hport, ih hrest]
    rfl

end Rows

section Operations

structure Linked (op : OperationRow) (row : PreviewInstanceRecord) : Prop where
  key : op.previewKey = row.previewKey
  inst : op.instanceId = row.instanceId
  payload : op.payloadVersion = 1

theorem Linked.kept {op : OperationRow} {r r' : PreviewInstanceRecord} (h : Linked op r)
    (hk : Kept r r') : Linked op r' :=
  ⟨h.key.trans hk.key.symm, h.inst.trans hk.inst.symm, h.payload⟩

theorem operation_run {id : String} : operation id t = .ok (t.operations.find? id) t := rfl

/-- The program settles the operation of the row and does nothing else. -/
def Closes (settle : TxM Unit) (row : PreviewInstanceRecord) : Prop :=
  ∀ t op, t.operations.find? row.operationId = some op → Linked op row →
    ∃ t' state', settle t = .ok () t' ∧ t'.instances = t.instances ∧
      t'.operations.find? = update t.operations.find? row.operationId
        (some { op with state := state' })

theorem finish_run (state : PreviewOperationState) : Closes (finish row state) row := by
  intro t op hop hl
  have hid : op.operationId = row.operationId := find?_key hop
  have hrun : finish row state t =
      (onlyIf op.state.inflight (writeOperation { op with state := state }) : TxM Unit) t :=
    (bind_of_ok operation_run).trans ((bind_of_ok (require_run hop)).trans
      (bind_of_ok (ensure_run ⟨hl.key, hl.inst, hl.payload⟩)))
  rw [hrun]
  by_cases hflight : op.state.inflight = true
  · refine ⟨{ t with operations := t.operations.set { op with state := state } }, state, ?_, rfl, ?_⟩
    · rw [onlyIf, if_pos hflight]
      rfl
    · rw [← hid]
      exact find?_set (hid ▸ hop)
  · refine ⟨t, op.state, ?_, rfl, ?_⟩
    · rw [onlyIf, if_neg hflight]
      rfl
    · exact (update_eq_self_iff.mpr hop.symm).symm

theorem finishRecovered_run : Closes (finishRecovered row) row := by
  intro t op hop hl
  obtain ⟨t', state', hrun, h⟩ :=
    finish_run (if op.kind = .stop then .succeeded else .failed) t op hop hl
  exact ⟨t', state', (bind_of_ok operation_run).trans ((bind_of_ok (require_run hop)).trans hrun), h⟩

def newOperation (env : Env) (row : PreviewInstanceRecord) (kind : PreviewOperationKind)
    (input : Json) : OperationRow where
  operationId := row.operationId
  previewKey := row.previewKey
  instanceId := row.instanceId
  requestFingerprint := env.sha256 input
  kind := kind
  state := .accepted
  allocatedPort := row.port
  payloadVersion := 1

theorem insertOperation_run (env : Env) (kind : PreviewOperationKind) (input : Json)
    (h : t.operations.find? row.operationId = none) :
    ∃ t', insertOperation env row kind input t = .ok () t' ∧ t'.instances = t.instances ∧
      t'.operations.find? = update t.operations.find? row.operationId
        (some (newOperation env row kind input)) := by
  refine ⟨{ t with operations := t.operations.insert (newOperation env row kind input) }, ?_, rfl,
    find?_insert h⟩
  exact (bind_of_ok get_run).trans ((bind_of_ok (ensure_run h)).trans modify_run)

end Operations

end Rcoder.Preview.Postgres
