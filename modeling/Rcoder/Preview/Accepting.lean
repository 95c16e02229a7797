import Rcoder.Preview.Contract

/-!
# Calls that accept an operation

A stop and a start write a new operation beside the row. The PostgreSQL store settles the operation
that held the row before; the in-process store leaves it as it is.
-/

namespace Rcoder.Preview

open Effect Function Check PreviewInstanceRecord Table Postgres
open Lifecycle (checkedSucc)

variable {env : Postgres.Env} {w : String → String} {s s' : InProcess.State}
  {t t₁ t' : Postgres.Tables} {r r' x x' : PreviewInstanceRecord} {key operationId : String}
  {now port : Nat} {revision : Int}

theorem Postgres.Settles.refl : Settles key t t :=
  Related.refl (fun _ => ⟨rfl, rfl, fun _ => rfl⟩) _

variable {op : Postgres.OperationRow} {o : PreviewOperationRecord}

theorem Mirrors.accept (h : Mirrors w s t) (hs : s'.table = Function.update s.table key (some x))
    (ht : t'.table = Function.update t.table key (some x')) (hx : Alike w x x')
    (hnew : s.operations.find? x'.operationId = none)
    (hsops : s'.operations.find? = Function.update s.operations.find? x'.operationId (some o))
    (hsettles : Settles key t t₁)
    (htops : t'.operations.find? = Function.update t₁.operations.find? x'.operationId (some op))
    (hsame : SameOperation o op) (hl : Linked op x')
    (hopen : x'.state = .starting → OpenStart o.kind o.allocatedPort o.state x' ∧
      OpenStart op.kind op.allocatedPort op.state x') : Mirrors w s' t' := by
  have hfresh : t.operations.find? x'.operationId = none := (Related.none_iff h.ledger).mp hnew
  have hso : s'.operations.find? x'.operationId = some o := by rw [hsops, update_self]
  have hto : t'.operations.find? x'.operationId = some op := by rw [htops, update_self]
  refine h.update hs ht hx ⟨?_, fun id o' ho' _ => ?_, fun id op' hop' hne => ?_⟩
    ⟨op, hto, hl⟩ fun hst => ⟨⟨o, hso, (hopen hst).1⟩, op, hto, (hopen hst).2⟩
  · rw [hsops, htops]
    refine Related.update (Related.comp h.ledger hsettles fun _ _ _ hsame hst => ?_) (.some hsame)
    exact ⟨hsame.1.trans hst.1.symm, hsame.2.trans hst.2.1.symm⟩
  · have hi : id ≠ x'.operationId := by
      rintro rfl
      cases hnew.symm.trans ho'
    rw [hsops, update_of_ne hi]
    exact ho'
  · have hi : id ≠ x'.operationId := by
      rintro rfl
      cases hfresh.symm.trans hop'
    obtain ⟨op₁, hop₁, hst⟩ := Related.of_left hsettles hop'
    rw [htops, update_of_ne hi, hop₁, hst.2.2 hne]

section Stop

/-- The PostgreSQL store stops: it gives the operation of the row up and writes a new one. -/
theorem Postgres.stop_run (env : Env) (input : Json) (now : Nat) (h : Lawful t.table)
    (hr : t.table r.previewKey = some r) (hop : t.operations.find? r.operationId = some op)
    (hl : Linked op r) (hactive : r.state.isActive = true)
    (hrev : checkedSucc r.revision = some revision) (hid : operationId ≠ "")
    (hnew : t.operations.find? operationId = none) :
    let row := (r.toStopping operationId).revise revision now
    ∃ t₁ t', (do
        finish r .failed
        save r row
        insertOperation env row .stop input
        pure row : TxM _) t = .ok row t' ∧
      Settles r.previewKey t t₁ ∧
      t'.table = update t.table r.previewKey (some row) ∧
      t'.operations.find? = update t₁.operations.find? operationId
        (some (newOperation env row .stop input)) := by
  intro row
  obtain ⟨t₁, state', hrun₁, hinst₁, hops₁⟩ := finish_run .failed t op hop hl
  have htable₁ : t₁.table = t.table := congrArg find? hinst₁
  have hr₁ : t₁.table r.previewKey = some r := htable₁ ▸ hr
  obtain ⟨port, hport, hpool⟩ := (h.exclusive.sound _ _ hr).port
  have hsound : Sound row := ⟨checkedSucc_pos hrev (h.exclusive.sound _ _ hr).revision,
    (h.exclusive.sound _ _ hr).pid, port, hport, hpool⟩
  have hnames := h.named _ _ hr
  have hlawful : Lawful (update t₁.table r.previewKey (some row)) := by
    rw [htable₁]
    exact h.update hsound ⟨hnames.key, hnames.inst, hid, hnames.host⟩ hport
      (fun _ => h.exclusive.free hr hactive hport) fun k x hx hk => h.other_instance hr k x hx hk
  have hrun₂ : save r row t₁ = _ := save_run hr₁ rfl hlawful
  have hne : operationId ≠ r.operationId := by
    rintro rfl
    cases hnew.symm.trans hop
  have hnew₁ : t₁.operations.find? row.operationId = none := by
    rw [hops₁]
    exact (update_of_ne hne ..).trans hnew
  obtain ⟨t', hrun₃, hinst₃, hops₃⟩ := insertOperation_run
    (t := { t₁ with instances := t₁.instances.set row }) env .stop input hnew₁
  refine ⟨t₁, t', ?_, .at hop hops₁ rfl rfl hl.key, ?_, hops₃⟩
  · exact (bind_of_ok hrun₁).trans ((bind_of_ok hrun₂).trans (bind_of_ok hrun₃))
  · have htable : Tables.table { t₁ with instances := t₁.instances.set row } = _ :=
      table_save hr₁ rfl
    rw [htable₁] at htable
    exact (congrArg find? hinst₃).trans htable

theorem Twins.acceptStop (h : Twins w s t) (hid : operationId ≠ "")
    (hmax : ∀ r ∈ s.instances.find? key, (checkedSucc r.revision).isSome) :
    Coincide w .record .record s (InProcess.acceptStop key operationId now) s
      (acceptStop env key operationId now) t := by
  refine .getLeft (.ensureRight hid
    (h.current fun r beat updated d hs hkey ht hbeat hdetail => ?_))
  subst hkey
  have halike : Alike w r (r.stamped beat updated d) := alike_stamped hbeat hdetail
  obtain ⟨o₀, op₀, -, -, hop₀, hl₀, -⟩ := h.operation ht
  refine Paired.right operation_run ?_
  obtain ⟨ho, hop⟩ | ⟨o, op, ho, hop, hsame⟩ := Related.cases h.ledger operationId <;> rw [ho, hop]
  swap
  · -- the operation is recorded: it has to be the stop that holds the row
    refine .ensure_bind ?_ ⟨rfl, rfl⟩ fun _ => .pure ⟨.record halike, h.toMirrors⟩
    rw [hsame.1, hsame.2]
    refine and_congr_right fun _ => and_congr_right fun _ => ⟨fun hheld => ⟨?_, hheld⟩, And.right⟩
    have hown : r.operationId = operationId := hheld
    rw [← hown] at hop
    cases hop₀.symm.trans hop
    exact hl₀.inst
  refine .ite .rfl (fun _ => .pure ⟨.record halike, h.toMirrors⟩) fun hactive => ?_
  refine .ensure_bind .rfl ⟨rfl, rfl⟩ fun _ => ?_
  obtain ⟨next, hnext⟩ := Option.isSome_iff_exists.mp (hmax r hs)
  obtain ⟨t₁, t', hrun', hsettles, htable, hops⟩ := stop_run env
    (Json.object [("preview_key", .str r.previewKey), ("instance_id", .str r.instanceId)]) now
    h.lawful ht hop₀ hl₀ (not_not.mp hactive) hnext hid hop
  refine .left modify_run (.left (require_run hnext) (.left modify_run
    (.left modify_run (.right (require_run hnext) ?_))))
  have hstopping : Alike w ((r.toStopping operationId).revise next now)
      (((r.stamped beat updated d).toStopping operationId).revise next now) :=
    alike_stamped hbeat hdetail
  let o : PreviewOperationRecord := ⟨operationId, r.previewKey, .stop, .accepted, r.port⟩
  have hsops : (s.operations.put o).find? = update s.operations.find? operationId
    (some o) := find?_put
  refine .inl ⟨_, _, _, t', rfl, hrun', .record hstopping, ?_⟩
  refine h.accept ?_ htable hstopping ho hsops hsettles hops ⟨rfl, rfl⟩ ⟨rfl, rfl, rfl⟩
    (by rintro ⟨⟩)
  -- the second write of the record replaces the first
  change ((s.instances.put _).put _).find? = _
  rw [find?_put, find?_put]
  exact update_idem ..

end Stop

section Occupied

variable {T T' : Instances} {requested : Option Nat} {occupied occupied' : List Nat}

/-- An active row holds the port. -/
def Taken (T : Instances) (port : Nat) : Prop :=
  ∃ k r, T k = some r ∧ r.state.isActive = true ∧ r.port = some port

theorem SameRows.taken (h : SameRows w T T') : Taken T port ↔ Taken T' port := by
  constructor
  · rintro ⟨k, r, hr, hactive, hport⟩
    obtain ⟨r', hr', halike⟩ := Related.of_left h hr
    exact ⟨k, r', hr', halike.active.trans hactive, halike.port.trans hport⟩
  · rintro ⟨k, r', hr', hactive, hport⟩
    obtain ⟨r, hr, halike⟩ := Related.of_right h hr'
    exact ⟨k, r, hr, halike.active.symm.trans hactive, halike.port.symm.trans hport⟩

theorem taken_iff {rows : Table PreviewInstanceRecord.previewKey} :
    Taken rows.find? port ↔ ∃ r ∈ rows.rows, r.state.isActive = true ∧ r.port = some port := by
  constructor
  · rintro ⟨k, r, hr, h⟩
    exact ⟨r, find?_mem hr, h⟩
  · rintro ⟨r, hr, h⟩
    exact ⟨r.previewKey, r, find?_of_mem hr, h⟩

theorem Postgres.mem_occupied :
    port ∈ (ordered env (t.instances.rows.filter (·.state.isActive))).filterMap (·.port) ↔
      Taken t.table port := by
  simp only [Tables.table, taken_iff, List.mem_filterMap, mem_ordered,
    List.mem_filter, and_assoc]

theorem InProcess.any_taken : (InProcess.values s.instances).any (fun record =>
    record.state.isActive ∧ record.port = some port) = true ↔ Taken s.table port := by
  simp only [InProcess.State.table, taken_iff, List.any_eq_true, decide_eq_true_eq,
    InProcess.mem_values]

theorem InProcess.mem_others : port ∈ ((InProcess.values s.instances).filter fun row =>
    row.state.isActive ∧ row.previewKey ≠ key).filterMap (·.port) ↔
      Taken (update s.table key none) port := by
  rw [InProcess.State.table, ← find?_erase, taken_iff]
  simp only [List.mem_filterMap, List.mem_filter, decide_eq_true_eq, InProcess.mem_values,
    mem_erase]
  exact exists_congr fun r => by tauto

/-- In an ordered pool the least free port is the first one. -/
theorem freePort_eq (h : ∀ p, p ∈ occupied ↔ p ∈ occupied') :
    (portPool.filter fun p => ¬(previewPortReservedMin ≤ p ∧ p ≤ previewPortReservedMax) ∧
        p ∉ occupied).min? =
      portPool.find? fun p => isPreviewPort p ∧ p ∉ occupied' := by
  have hpool : portPool.filter (fun p => ¬(previewPortReservedMin ≤ p ∧ p ≤ previewPortReservedMax) ∧
      p ∉ occupied) = portPool.filter fun p => isPreviewPort p ∧ p ∉ occupied' := by
    refine List.filter_congr fun p hp => ?_
    have hrange : previewPortMin ≤ p ∧ p ≤ previewPortMax := by
      obtain ⟨i, hi, rfl⟩ := List.mem_range'.mp hp
      omega
    refine decide_eq_decide.mpr (and_congr ?_ (not_congr (h p)))
    simp only [isPreviewPort, hrange, true_and, decide_eq_true_eq]
  have hsorted : portPool.Pairwise fun a b => min a b = a :=
    (List.pairwise_lt_range' 1).imp fun hlt => min_eq_left hlt.le
  rw [hpool, List.min?_eq_head? (hsorted.filter _), List.head?_filter]

theorem startPort_allocate (h : ∀ p, p ∈ occupied ↔ p ∈ occupied') :
    (∃ p, InProcess.startPort occupied requested = .ok p ∧
      allocate occupied' requested = .ok p) ∨
    ∃ e e', InProcess.startPort occupied requested = .error e ∧
      allocate occupied' requested = .error e' ∧ SameKind e e' := by
  cases requested with
  | some p =>
    by_cases hpool : isPreviewPort p = true
    · by_cases hfree : p ∈ occupied
      · exact .inr ⟨_, _, (failIf_passed (not_not.mpr hpool)).trans (failIf_failed hfree),
          failIf_failed (.inr ((h p).mp hfree)), rfl⟩
      · refine .inl ⟨p, (failIf_passed (not_not.mpr hpool)).trans (failIf_passed hfree),
          failIf_passed ?_⟩
        exact not_or.mpr ⟨not_not.mpr hpool, fun hmem => hfree ((h p).mpr hmem)⟩
    · exact .inr ⟨_, _, failIf_failed hpool, failIf_failed (.inl hpool), rfl⟩
  | none =>
    unfold InProcess.startPort allocate
    rw [freePort_eq h]
    cases portPool.find? fun p => isPreviewPort p ∧ p ∉ occupied' with
    | some p => exact .inl ⟨p, rfl, rfl⟩
    | none => exact .inr ⟨_, _, rfl, rfl, rfl⟩

end Occupied

section Retry

variable {input : PreviewStartPortRetry}

/-- The stamps of a record have no say in a port retry. -/
theorem applyStartPortRetry_stamped {beat : Option Nat} {updated : Nat} {d : Option String} :
    (r.stamped beat updated d).applyStartPortRetry input now =
      (fun a => (a.1, a.2.stamped beat (if a.1 then now else updated) d)) <$>
        r.applyStartPortRetry input now := by
  simp only [applyStartPortRetry, map_bind, apply_ite, map_pure]
  rfl

theorem Mirrors.open_start (h : Mirrors w s t) (hr' : t.table r'.previewKey = some r')
    (hstate : r'.state = .starting) :
    ∃ o op, s.operations.find? r'.operationId = some o ∧ o.previewKey = r'.previewKey ∧
      OpenStart o.kind o.allocatedPort o.state r' ∧
      t.operations.find? r'.operationId = some op ∧ Linked op r' ∧
      OpenStart op.kind op.allocatedPort op.state r' := by
  obtain ⟨o, op, ho, hokey, hop, hl, -⟩ := h.operation hr'
  obtain ⟨⟨o₁, ho₁, hopen⟩, op₁, hop₁, hopen₁⟩ := h.starting _ r' hr' hstate
  cases ho.symm.trans ho₁
  cases hop.symm.trans hop₁
  exact ⟨o, op, ho, hokey, hopen, hop, hl, hopen₁⟩

/-- The row moves to another port, and its operation with it. -/
theorem Mirrors.move (h : Mirrors w s t) (hr' : t.table r'.previewKey = some r')
    (hstate : r'.state = .starting) (hx : Alike w x { r'.revise revision now with port := some port })
    (hs : s'.table = Function.update s.table r'.previewKey (some x))
    (hsops : ∀ o, s.operations.find? r'.operationId = some o → s'.operations.find? =
      Function.update s.operations.find? r'.operationId (some { o with allocatedPort := some port }))
    (ht : t'.table = Function.update t.table r'.previewKey
      (some { r'.revise revision now with port := some port }))
    (htops : ∀ op, t.operations.find? r'.operationId = some op → t'.operations.find? =
      Function.update t.operations.find? r'.operationId
        (some { op with allocatedPort := some port })) : Mirrors w s' t' := by
  obtain ⟨o, op, ho, hokey, hopen, hop, hl, hopen'⟩ := h.open_start hr' hstate
  have hso : s'.operations.find? r'.operationId = some { o with allocatedPort := some port } := by
    rw [hsops o ho, update_self]
  have hto : t'.operations.find? r'.operationId = some { op with allocatedPort := some port } := by
    rw [htops op hop, update_self]
  exact h.update hs ht hx (h.attends (.at ho (hsops o ho) rfl rfl hokey)
    (.at hop (htops op hop) rfl rfl hl.key)) ⟨_, hto, hl.key, hl.inst, hl.payload⟩
      fun _ => ⟨⟨_, hso, hopen.1, rfl, hopen.2.2⟩, _, hto, hopen'.1, rfl, hopen'.2.2⟩

theorem Twins.retryStartPort (h : Twins w s t) :
    Coincide w .record .record s (InProcess.retryStartPort input now) s
      (retryStartPort env input now) t := by
  refine .getLeft (h.current fun r beat updated d hs hkey ht hbeat hdetail => ?_)
  have hstored : (r.stamped beat updated d).applyStartPortRetry input now = _ :=
    applyStartPortRetry_stamped
  cases hlocal : r.applyStartPortRetry input now with
  | error e =>
    rw [hlocal] at hstored
    exact .fails (fromExcept_fails rfl) (fromExcept_fails hstored) ⟨rfl, rfl⟩
  | ok a =>
  obtain ⟨moved, x⟩ := a
  rw [hlocal] at hstored
  obtain ⟨hpool, -, hk, hid, hinst, hpid, hstate, hmoved⟩ := applyStartPortRetry_ok hlocal
  replace hstate : (r.stamped beat updated d).state = .starting := hstate
  obtain ⟨o, op, ho, hokey, hopen, hop, hl, hopen'⟩ := h.open_start ht hstate
  refine .left (fromExcept_run rfl) (.right (fromExcept_run hstored) ?_)
  refine .left (require_run (hid ▸ ho)) (.right operation_run
    (.right (require_run (hid ▸ hop)) ?_))
  refine .left (ensure_run ?_) (.ensureRight ?_ ?_)
  · exact ⟨hopen.1, hokey.trans hkey, (find?_key ho).trans hid, hopen.2.1, hopen.2.2⟩
  · exact ⟨hopen'.1, hl.key.trans hkey, hl.inst.trans hinst, hopen'.2.1, hl.payload, hopen'.2.2⟩
  obtain ⟨rfl, rfl, -⟩ | ⟨rfl, -, hport, next, hnext, rfl⟩ := hmoved
  · exact .pure ⟨.record (alike_stamped hbeat hdetail), h.toMirrors⟩
  refine .ite .rfl (fun hfalse => absurd rfl hfalse) fun _ => ?_
  refine .right (ports_run h.lawful) ?_
  have htaken : input.nextPort ∈ (ordered env
      (t.instances.rows.filter (·.state.isActive))).filterMap (·.port) ↔
      (InProcess.values s.instances).any (fun record =>
        record.state.isActive ∧ record.port = some input.nextPort) = true :=
    mem_occupied.trans (h.rows.taken.symm.trans InProcess.any_taken.symm)
  by_cases hfree : (InProcess.values s.instances).any (fun record =>
      record.state.isActive ∧ record.port = some input.nextPort) = true
  · exact .fails (ensure_fails (not_not.mpr hfree))
      (fromExcept_fails (failIf_failed (.inr (htaken.mpr hfree)))) ⟨rfl, rfl⟩
  refine .left (ensure_run hfree) (.right (fromExcept_run (failIf_passed ?_)) ?_)
  · exact not_or.mpr ⟨not_not.mpr hpool, fun hmem => hfree (htaken.mp hmem)⟩
  let x' : PreviewInstanceRecord :=
    { (r.stamped beat updated d).revise next now with port := some input.nextPort }
  have hsound := h.lawful.exclusive.sound _ _ ht
  have hnames := h.lawful.named _ _ ht
  have hvacant : Free t.table r.previewKey input.nextPort := ⟨hpool, fun k y hy _ hactive hp =>
    hfree (htaken.mp (mem_occupied.mpr ⟨k, y, hy, hactive, hp⟩))⟩
  have hlawful : Lawful (update t.table r.previewKey (some x')) :=
    h.lawful.update ⟨checkedSucc_pos hnext hsound.revision, hsound.pid, _, rfl, hpool⟩
      ⟨hnames.key, hnames.inst, hnames.operation, hnames.host⟩ rfl (fun _ => hvacant)
      fun k y hy hk => h.lawful.other_instance ht k y hy hk
  have hsave : save (r.stamped beat updated d) x' t = _ :=
    save_run ht rfl hlawful
  have hallocated : op.allocatedPort = some input.previousPort := hopen'.2.1.trans hport
  have hx : Alike w { r.revise next now with port := some input.nextPort } x' :=
    alike_stamped hbeat hdetail
  refine .left modify_run (.left modify_run (.right hsave
    (.ensureRight hallocated (.right modify_run (.pure ⟨.record hx, ?_⟩)))))
  have hkey' : x'.previewKey = (r.stamped beat updated d).previewKey := rfl
  refine h.move ht hstate hx InProcess.putInstance_table (fun o₁ ho₁ => ?_)
    (table_save ht hkey') fun op₁ hop₁ => ?_
  · cases ho.symm.trans ho₁
    have hoid : o.operationId = r.operationId := find?_key ho
    rw [find?_put]
    exact congrArg (update _ · _) hoid
  · cases hop.symm.trans hop₁
    have hopid : op.operationId = r.operationId := find?_key hop
    rw [find?_set (hopid ▸ hop)]
    exact congrArg (update _ · _) hopid

end Retry

section Start

variable {input : AcceptStartInput}

/-- The row of the key is out of the way of a start. -/
structure Cleared (key : String) (t t₁ : Postgres.Tables) : Prop where
  lawful : Lawful t₁.table
  others : ∀ k, k ≠ key → t₁.table k = t.table k
  settles : Postgres.Settles key t t₁
  idle : (t.table key = none ∧ t₁.table key = none) ∨
    ∃ r r₁, t.table key = some r ∧ t₁.table key = some r₁ ∧ r₁.instanceId = r.instanceId ∧
      r₁.revision = r.revision ∧ r₁.state.isActive = false

theorem Cleared.rows_update (h : Cleared key t t₁) (row : Option PreviewInstanceRecord) :
    update t₁.table key row = update t.table key row := by
  funext k
  by_cases hk : k = key
  · rw [hk, update_self, update_self]
  · rw [update_of_ne hk, update_of_ne hk, h.others k hk]

theorem Cleared.taken (h : Cleared key t t₁) :
    Taken t₁.table port ↔ Taken (update t.table key none) port := by
  rw [← h.rows_update]
  constructor
  · rintro ⟨k, r, hr, hactive, hport⟩
    have hk : k ≠ key := by
      rintro rfl
      rcases h.idle with ⟨-, hnone⟩ | ⟨-, r₁, -, hr₁, -, -, hidle⟩
      · cases hnone.symm.trans hr
      · cases hr₁.symm.trans hr
        cases hactive.symm.trans hidle
    exact ⟨k, r, update_none_eq_some.mpr ⟨hk, hr⟩, hactive, hport⟩
  · rintro ⟨k, r, hr, h⟩
    exact ⟨k, r, (update_none_eq_some.mp hr).2, h⟩

theorem Cleared.of_idle (h : Lawful t.table) (hr : t.table key = some r)
    (hidle : r.state.isActive = false) : Cleared key t t where
  lawful := h
  others _ _ := rfl
  settles := .refl
  idle := .inr ⟨r, r, hr, hr, rfl, rfl, hidle⟩

theorem startRevision_next (hsound : Sound r) {beat : Option Nat} {updated : Nat}
    {d : Option String} :
    (∃ revision, InProcess.startRevision.next r = .ok (.inl revision) ∧ 1 ≤ revision ∧
      Postgres.startRevision.next (r.stamped beat updated d) t = .ok (.inl revision) t) ∨
    ∃ e, InProcess.startRevision.next r = .error e ∧
      Postgres.startRevision.next (r.stamped beat updated d) t = .error e t := by
  cases hnext : checkedSucc r.revision with
  | none =>
    refine .inr ⟨.unavailable "Preview revision exhausted", ?_, require_fails hnext⟩
    rw [InProcess.startRevision.next, hnext]
    rfl
  | some next =>
    refine .inl ⟨next, ?_, checkedSucc_pos hnext hsound.revision, bind_of_ok (require_run hnext)⟩
    rw [InProcess.startRevision.next, hnext]
    rfl

/-- The row is in the way of a start. -/
def Blocks (input : AcceptStartInput) (r : PreviewInstanceRecord) : Prop :=
  r.state = .starting ∨ r.state = .stopping ∨
    r.state = .unknown ∧ input.recoverUnknownEvidence = none

theorem InProcess.startRevision_blocked (h : Blocks input r) :
    InProcess.startRevision input (some r) = .ok (.inr (.blocked r)) := by
  unfold InProcess.startRevision
  obtain hs | hs | ⟨hs, he⟩ := h <;> simp only [hs]
  · rfl
  · rfl
  · rw [he]
    rfl

theorem Postgres.startRevision_blocked (now : Nat) (h : Blocks input r) :
    Postgres.startRevision input now (some r) t = .ok (.inr (.blocked r)) t := by
  unfold Postgres.startRevision
  obtain hs | hs | ⟨hs, he⟩ := h <;> simp only [hs]
  · rfl
  · rfl
  · rw [he]
    rfl

theorem InProcess.startRevision_ready (h : r.state = .ready) :
    InProcess.startRevision input (some r) = .ok (.inr (.existingReady r)) := by
  simp only [InProcess.startRevision, h]
  rfl

/-- The PostgreSQL store settles an Unknown row on its evidence. -/
theorem Twins.recover_run (h : Twins w s t) (evidence : String) (now : Nat)
    (hr' : t.table r'.previewKey = some r') (hunknown : r'.state = .unknown) :
    ∃ t₀ t₁, save r' (r'.toRecovered evidence now) t = .ok () t₀ ∧
      finish (r'.toRecovered evidence now) .failed t₀ = .ok () t₁ ∧
      Cleared r'.previewKey t t₁ := by
  have hactive : r'.state.isActive = true := by
    rw [hunknown]
    rfl
  have hk : Kept r' (r'.toRecovered evidence now) :=
    ⟨rfl, rfl, rfl, rfl, rfl, rfl, fun _ => hactive, by rintro _ ⟨⟩⟩
  obtain ⟨t₀, t₁, hsave, hrun, op, state, hop, hl, htable, hops⟩ :=
    h.save_finish hr' hk rfl (finish_run .failed)
  refine ⟨t₀, t₁, hsave, hrun, ?_, fun k hne => ?_, .at hop hops rfl rfl hl.key,
    .inr ⟨r', r'.toRecovered evidence now, hr', ?_, rfl, rfl, rfl⟩⟩
  · rw [htable]
    exact h.lawful.kept hr' hk
  · rw [htable, update_of_ne hne]
  · rw [htable, update_self]

/-- How the stores decide on a start: they answer, make way for it, or reject it. -/
def Decided (w : String → String) (input : AcceptStartInput) (now : Nat) (t : Postgres.Tables)
    (o o' : Option PreviewInstanceRecord) : Prop :=
  (∃ outcome outcome', InProcess.startRevision input o = .ok (.inr outcome) ∧
    Postgres.startRevision input now o' t = .ok (.inr outcome') t ∧
    Agree w (.outcome outcome) (.outcome outcome')) ∨
  (∃ revision t₁, InProcess.startRevision input o = .ok (.inl revision) ∧
    Postgres.startRevision input now o' t = .ok (.inl revision) t₁ ∧
    1 ≤ revision ∧ Cleared input.previewKey t t₁) ∨
  ∃ e e' t', InProcess.startRevision input o = .error e ∧
    Postgres.startRevision input now o' t = .error e' t' ∧ SameKind e e'

theorem Twins.startRevision (h : Twins w s t) (now : Nat) :
    Decided w input now t (s.instances.find? input.previewKey) (t.table input.previewKey) := by
  rcases h.rows.cases input.previewKey with ⟨hs, ht⟩ | ⟨r, beat, updated, d, hs, ht, hbeat, hdetail⟩
  · rw [show s.instances.find? input.previewKey = none from hs, ht]
    exact .inr (.inl ⟨1, t, rfl, rfl, le_rfl, h.lawful, fun _ _ => rfl, .refl, .inl ⟨ht, ht⟩⟩)
  rw [show s.instances.find? input.previewKey = some r from hs, ht]
  have halike : Alike w r (r.stamped beat updated d) := alike_stamped hbeat hdetail
  have hsound : Sound r := h.exclusive.sound _ _ hs
  -- the row is idle, and the start follows it
  have follow {t₁ : Tables} (hcleared : Cleared input.previewKey t t₁)
      (heq : InProcess.startRevision input (some r) = InProcess.startRevision.next r)
      (heq' : Postgres.startRevision input now (some (r.stamped beat updated d)) t =
        Postgres.startRevision.next (r.stamped beat updated d) t₁) :
      Decided w input now t (some r) (some (r.stamped beat updated d)) := by
    rcases startRevision_next hsound with ⟨revision, hlocal, hpos, hstored⟩ |
      ⟨e, hlocal, hstored⟩
    · exact .inr (.inl ⟨revision, t₁, heq.trans hlocal, heq'.trans hstored, hpos, hcleared⟩)
    · exact .inr (.inr ⟨e, e, t₁, heq.trans hlocal, heq'.trans hstored, rfl⟩)
  have hold (hb : Blocks input r) :
      Decided w input now t (some r) (some (r.stamped beat updated d)) :=
    .inl ⟨_, _, InProcess.startRevision_blocked hb, startRevision_blocked now hb,
      .blocked halike⟩
  cases hstate : r.state with
  | ready =>
    refine .inl ⟨_, .existingReady (r.stamped beat updated d), InProcess.startRevision_ready hstate,
      ?_, .existingReady halike⟩
    simp only [stamped, hstate]
    rfl
  | starting => exact hold (.inl hstate)
  | stopping => exact hold (.inr (.inl hstate))
  | stopped | failed =>
    refine follow (.of_idle h.lawful ht ?_) ?_ ?_
    · change r.state.isActive = false
      rw [hstate]
      rfl
    · simp only [InProcess.startRevision, hstate]
    · simp only [Postgres.startRevision, stamped, hstate]
  | unknown =>
    cases hevidence : input.recoverUnknownEvidence with
    | none => exact hold (.inr (.inr ⟨hstate, hevidence⟩))
    | some evidence =>
      have hstate' : (r.stamped beat updated d).state = .unknown := hstate
      by_cases hown : evidence.instanceId = r.instanceId ∧ evidence.revision = r.revision ∧
          evidence.detail ≠ ""
      · have hkey : r.previewKey = input.previewKey := InProcess.table_key hs
        have ht' : t.table r.previewKey = some (r.stamped beat updated d) := hkey ▸ ht
        obtain ⟨t₀, t₁, hsave, hfinish, hcleared⟩ := h.recover_run evidence.detail now ht' hstate'
        rw [show (r.stamped beat updated d).previewKey = input.previewKey from hkey] at hcleared
        refine follow hcleared ?_ ?_
        · simp only [InProcess.startRevision, hstate, hevidence]
          exact failIf_passed fun hbad => hbad.elim (· hown.1) (·.elim (· hown.2.1) hown.2.2)
        · simp only [Postgres.startRevision, hstate', hevidence]
          exact (bind_of_ok (ensure_run hown)).trans ((bind_of_ok hsave).trans (bind_of_ok hfinish))
      · refine .inr (.inr ⟨InProcess.conflict
          "Unknown recovery evidence belongs to another instance" r, .conflict
          "Unknown recovery evidence belongs to another preview generation", t, ?_, ?_, rfl⟩)
        · simp only [InProcess.startRevision, hstate, hevidence]
          exact failIf_failed (by tauto)
        · simp only [Postgres.startRevision, hstate', hevidence]
          exact ensure_fails hown

/-- The PostgreSQL store writes an admission. -/
theorem Postgres.admit_run (env : Env) (input : Json) (row : PreviewInstanceRecord)
    {e : PreviewStoreError} (h : Cleared row.previewKey t t₁)
    (hlawful : Lawful (update t₁.table row.previewKey (some row)))
    (hnew : t₁.operations.find? row.operationId = none) :
    ∃ t', (do
        admitRow row (t.table row.previewKey)
        let found ← getInstance row.previewKey
        let row ← require found e
        insertOperation env row .start input
        pure (.admitted row) : TxM AcceptStartOutcome) t₁ = .ok (.admitted row) t' ∧
      t'.table = update t.table row.previewKey (some row) ∧
      t'.operations.find? = update t₁.operations.find? row.operationId
        (some (newOperation env row .start input)) := by
  -- the row is written, over an idle one or as a new one
  have hwrite : ∃ t₂, admitRow row (t.table row.previewKey) t₁ = .ok () t₂ ∧
      t₂.operations = t₁.operations ∧ t₂.table = update t₁.table row.previewKey (some row) := by
    rcases h.idle with ⟨hnone, hnone₁⟩ | ⟨r, r₁, hr, hr₁, hri, hrev, hidle⟩
    · have htable : (t₁.instances.insert row).find? = update t₁.table row.previewKey (some row) :=
        find?_insert hnone₁
      refine ⟨{ t₁ with instances := t₁.instances.insert row }, ?_, rfl, htable⟩
      rw [hnone]
      refine (bind_of_ok get_run).trans ((bind_of_ok (ensure_run hnone₁)).trans
        ((bind_of_ok get_run).trans (writeInstances_run ?_)))
      rwa [htable]
    · have htable : (t₁.instances.set row).find? = update t₁.table row.previewKey (some row) :=
        find?_set hr₁
      refine ⟨{ t₁ with instances := t₁.instances.set row }, ?_, rfl, htable⟩
      rw [hr]
      refine (bind_of_ok (getInstance_run h.lawful)).trans
        ((bind_of_ok (require_run hr₁)).trans ?_)
      have hobserved : r₁.instanceId = r.instanceId ∧ r₁.revision = r.revision ∧
          ¬r₁.state.isActive = true := ⟨hri, hrev, by rw [hidle]; exact Bool.false_ne_true⟩
      refine (bind_of_ok (ensure_run hobserved)).trans
        ((bind_of_ok get_run).trans (writeInstances_run ?_))
      rwa [htable]
  obtain ⟨t₂, hrun₂, hops₂, htable₂⟩ := hwrite
  have hfound : t₂.table row.previewKey = some row := by rw [htable₂, update_self]
  obtain ⟨t', hrun, hinst', hops⟩ := insertOperation_run env .start input (hops₂ ▸ hnew)
  refine ⟨t', ?_, ?_, hops₂ ▸ hops⟩
  · exact (bind_of_ok hrun₂).trans ((bind_of_ok (getInstance_run (htable₂ ▸ hlawful))).trans
      ((bind_of_ok (require_run hfound)).trans (bind_of_ok hrun)))
  · exact (congrArg find? hinst').trans (htable₂.trans (h.rows_update _))

/-- The start repeats, without a change, the request whose admission still stands. -/
def Repeats (env : Postgres.Env) (t : Postgres.Tables) (input : AcceptStartInput) : Prop :=
  (∃ previous ∈ t.operations.find? input.operationId, previous.kind = .start ∧
    previous.requestFingerprint = env.sha256 (Postgres.startInput input)) ∧
  ∃ row ∈ t.instances.find? input.previewKey, row.instanceId = input.instanceId ∧
    row.operationId = input.operationId ∧ (row.state = .starting ∨ row.state = .ready ∨
      row.state = .unknown ∧ input.recoverUnknownEvidence = none)

/-- A start that is repeated finds its admission in both stores. -/
theorem Twins.repeats (h : Twins w s t) (hrep : Repeats env t input) :
    ∃ outcome outcome' previous,
      InProcess.startRevision input (s.instances.find? input.previewKey) = .ok (.inr outcome) ∧
      t.operations.find? input.operationId = some previous ∧
      replayStart env input (t.table input.previewKey) previous t = .ok outcome' t ∧
      Agree w (.outcome outcome) (.outcome outcome') := by
  obtain ⟨⟨previous, hop, hkind, hprint⟩, row, hrow, hri, hro, hstate⟩ := hrep
  obtain ⟨op, hop', hl⟩ := h.linked _ row hrow
  rw [hro] at hop'
  cases hop.symm.trans hop'
  have hpk : previous.previewKey = input.previewKey := hl.key.trans (table_key hrow)
  have hreplay : replayStart env input (t.table input.previewKey) previous t =
      .ok (if row.state = .ready then .existingReady row else .blocked row) t :=
    (bind_of_ok (ensure_run ⟨hkind, hpk, hl.inst.trans hri, hprint, hl.payload⟩)).trans
      ((bind_of_ok (require_run hrow)).trans (bind_of_ok (ensure_run ⟨hri, hro⟩)))
  obtain ⟨r, hs, halike⟩ := Related.of_right h.rows hrow
  obtain ⟨beat, updated, d, rfl, -⟩ := halike.exists_stamped
  rw [show s.instances.find? input.previewKey = some r from hs]
  by_cases hready : (r.stamped beat updated d).state = .ready
  · rw [if_pos hready] at hreplay
    exact ⟨_, _, previous, InProcess.startRevision_ready hready, hop, hreplay, .existingReady halike⟩
  · rw [if_neg hready] at hreplay
    refine ⟨_, _, previous, InProcess.startRevision_blocked ?_, hop, hreplay, .blocked halike⟩
    exact hstate.imp_right fun h => .inr (h.resolve_left hready)

theorem Twins.acceptStart (h : Twins w s t) (hn : Introduces ⟨.acceptStart input, now⟩)
    (hproject : input.projectId ≠ "")
    (hinst : ∀ x ∈ t.instances.rows, x.previewKey ≠ input.previewKey →
      x.instanceId ≠ input.instanceId)
    (hnew : t.operations.find? input.operationId = none ∨ Repeats env t input) :
    Coincide w .outcome .outcome s (InProcess.acceptStart input now) s
      (acceptStart env input now) t := by
  obtain ⟨hkey, hid, hop, hhost⟩ := hn
  refine .getLeft (.ensureRight ⟨hkey, hproject, hid, hop, hhost⟩ ?_)
  refine .right (getInstance_run h.lawful) (.right operation_run ?_)
  rcases hnew with hnew | hrep
  swap
  · obtain ⟨outcome, outcome', previous, hlocal, hprevious, hreplay, hagree⟩ := h.repeats hrep
    rw [hprevious]
    exact .left (fromExcept_run hlocal)
      (.inl ⟨outcome, s, outcome', t, rfl, hreplay, hagree, h.toMirrors⟩)
  rw [hnew]
  rcases h.startRevision now with ⟨outcome, outcome', hlocal, hstored, hagree⟩ |
      ⟨revision, t₁, hlocal, hstored, hpos, hcleared⟩ | ⟨e, e', t', hlocal, hstored, hkind⟩
  · exact .left (fromExcept_run hlocal) (.right hstored
      (.pure ⟨hagree, h.toMirrors⟩))
  · refine .left (fromExcept_run hlocal) (.right hstored ?_)
    refine Paired.right (ports_run hcleared.lawful) ?_
    have hports (p : Nat) : p ∈ ((InProcess.values s.instances).filter fun row =>
          row.state.isActive ∧ row.previewKey ≠ input.previewKey).filterMap (·.port) ↔
        p ∈ (ordered env (t₁.instances.rows.filter (·.state.isActive))).filterMap (·.port) :=
      InProcess.mem_others.trans (SameRows.taken (Related.update h.rows .none) |>.trans
        (hcleared.taken.symm.trans mem_occupied.symm))
    rcases startPort_allocate hports with ⟨port, hport, hport'⟩ | ⟨e, e', hfull, hfull', hkind⟩
    swap
    · exact .fails (fromExcept_fails hfull) (fromExcept_fails hfull') ⟨hkind, rfl⟩
    refine .left (fromExcept_run hport) (.right (fromExcept_run hport') ?_)
    obtain ⟨hpool, hvacant⟩ := allocate_ok hport'
    have hfree : Free t₁.table input.previewKey port := ⟨hpool, fun k x hx _ hactive hp =>
      hvacant (mem_occupied.mpr ⟨k, x, hx, hactive, hp⟩)⟩
    have hother : ∀ k x, t.table k = some x → k ≠ input.previewKey →
        x.instanceId ≠ input.instanceId := fun k x hx hk =>
      hinst x (find?_mem hx) (table_key hx ▸ hk)
    have hlocalNew : s.operations.find? input.operationId = none :=
      (Related.none_iff h.ledger).mpr hnew
    have hlawful : Lawful
      (update t₁.table input.previewKey (some (input.record revision port now))) :=
      hcleared.lawful.update ⟨hpos, by rintro _ ⟨⟩, port, rfl, hpool⟩ ⟨hkey, hid, hop, hhost⟩ rfl
        (fun _ => hfree) fun k x hx hk => hother k x (hcleared.others k hk ▸ hx) hk
    obtain ⟨t', hrun, htable, hops⟩ := admit_run env (startInput input)
      (input.record revision port now) hcleared hlawful ((Related.none_iff hcleared.settles).mp hnew)
    let o : PreviewOperationRecord :=
      ⟨input.operationId, input.previewKey, .start, .accepted, some port⟩
    have hsops : (s.operations.put o).find? =
      update s.operations.find? input.operationId (some o) := find?_put
    refine .left modify_run (.left modify_run
      (.inl ⟨_, _, _, t', rfl, hrun, .admitted .refl, ?_⟩))
    exact h.accept InProcess.putInstance_table htable .refl hlocalNew hsops hcleared.settles hops
      ⟨rfl, rfl⟩ ⟨rfl, rfl, rfl⟩ fun _ => ⟨⟨rfl, rfl, rfl⟩, rfl, rfl, rfl⟩
  · exact .fails (fromExcept_fails hlocal) (bind_of_error hstored) ⟨hkind, rfl⟩

end Start

end Rcoder.Preview
