import Rcoder.Lib.Versions
import Rcoder.Lifecycle.Heads

/-!
# Histories of single records

Every version of an operation, a control or an application is logged when it is written. A move
writes at most one version of a row, and the versions of a row follow one another by the steps of
its record. Reports on an operation are also read off the trace of a run: `accepted` lists those
that the store took, in order.
-/

namespace Rcoder.Lifecycle

open Effect Function

structure NewOperation (operation : OperationRecord) : Prop where
  pending : operation.state = .pending
  unclaimed : operation.executorId = none
  checkpoint : operation.checkpoint = .null
  revision : operation.revision = 1
  step : operation.step = "admitted"

variable {operation : OperationRecord} {I : List OperationProgress → OperationRecord → Prop}
  {app app' : LifecycleRecord}

theorem Domain.Accepted.new {request : Admission} {active : ActiveOperationRecords} {now : Int}
    (h : Domain.Accepted app request active now app' operation) : NewOperation operation := by
  obtain ⟨patched, -, -, -, -, rfl⟩ := h.application
  exact ⟨rfl, rfl, rfl, rfl, rfl⟩

theorem SameIncarnation.bare (h : SameIncarnation app app') : SameIncarnation app.bare app'.bare :=
  ⟨h.appId, h.lifecycleId, h.epoch, h.metadata⟩

namespace Ledger

variable {act : Act} {L L' : Ledger}

/-! ### Operations -/

inductive WritesOperation (act : Act) (L L' : Ledger) : Prop
  | none (rows : L'.operation = L.operation)
      (log : L'.history.operations = L.history.operations)
  | new {operation : OperationRecord} (start : NewOperation operation)
      (fresh : L.operation operation.operationId = none)
      (by_admission : act = .admission operation.operationId)
      (rows : L'.operation = (L.setOperation operation).operation)
      (log : L'.history.operations = L.history.operations ++ [operation])
  | next {app : LifecycleRecord} {operation operation' : OperationRecord}
      (inSlot : L.InSlot app operation) (step : OperationStep act app operation operation')
      (rows : L'.operation = (L.setOperation operation').operation)
      (log : L'.history.operations = L.history.operations ++ [operation'])

theorem Move.writesOperation (hm : Move act L L') : WritesOperation act L L' := by
  cases hm with
  | accept _ _ accepted fresh by_admission => exact .new accepted.new fresh by_admission rfl rfl
  | step inSlot _ step => exact .next inSlot step rfl rfl
  | touch inSlot _ step => exact .next inSlot step rfl rfl
  | @admitControl _ _ _ old => cases old <;> exact .none rfl rfl
  | openRoot | patch | nameRequest | bindLease | forgetLease | recreate | rebind | openHead
  | control | release => exact .none rfl rfl

theorem Move.operation_next {id : String} (hm : Move act L L')
    (h : L.operation id = some operation) : L'.operation id = some operation ∨
      ∃ app operation', L'.operation id = some operation' ∧
        OperationStep act app operation operation' := by
  cases hm.writesOperation with
  | none rows =>
    rw [rows]
    exact .inl h
  | new _ fresh _ rows =>
    rw [rows]
    refine .inl (operation_setOperation.mpr (.inr ⟨?_, h⟩))
    rintro rfl
    rw [fresh] at h
    cases h
  | @next app before after inSlot step rows =>
    rw [rows]
    have hid := (mergeProgress_same step.merge).1
    by_cases heq : id = before.operationId
    · subst heq
      cases inSlot.stored.symm.trans h
      exact .inr ⟨app, after, operation_setOperation.mpr (.inl ⟨hid.symm, rfl⟩), step⟩
    · refine .inl (operation_setOperation.mpr (.inr ⟨?_, h⟩))
      rw [hid]
      exact heq

theorem Move.operation_found {id : String} (hm : Move act L L')
    (h : L'.operation id = some operation) : L.operation id = some operation ∨
      (act = .admission id ∧ NewOperation operation) ∨
        ∃ app before, L.operation id = some before ∧ OperationStep act app before operation := by
  cases hm.writesOperation with
  | none rows =>
    rw [rows] at h
    exact .inl h
  | new start _ by_admission rows =>
    rw [rows] at h
    obtain ⟨rfl, rfl⟩ | ⟨-, h⟩ := operation_setOperation.mp h
    · exact .inr (.inl ⟨by_admission, start⟩)
    · exact .inl h
  | @next app before after inSlot step rows =>
    rw [rows] at h
    obtain ⟨rfl, rfl⟩ | ⟨-, h⟩ := operation_setOperation.mp h
    · rw [(mergeProgress_same step.merge).1]
      exact .inr (.inr ⟨app, before, inSlot.stored, step⟩)
    · exact .inl h

/-- The next version of an operation, whichever transaction wrote it. -/
def OperationVersion (operation operation' : OperationRecord) : Prop :=
  ∃ act app, OperationStep act app operation operation'

/-- Every operation is the last of its logged versions. -/
def OperationsLogged (L : Ledger) : Prop :=
  Logged OperationRecord.operationId NewOperation OperationVersion L.history.operations L.operation

theorem OperationsLogged.move (h : L.OperationsLogged) (hm : Move act L L') :
    L'.OperationsLogged := by
  unfold OperationsLogged
  cases hm.writesOperation with
  | none rows log =>
    rw [rows, log]
    exact h
  | new start fresh _ rows log =>
    rw [rows, log]
    exact h.insert fresh start
  | @next app operation operation' inSlot step rows log =>
    rw [rows, log]
    have hid := (mergeProgress_same step.merge).1
    exact h.set (by rw [hid]; exact inSlot.stored) ⟨act, app, step⟩

/-! ### Controls -/

/-- The next version of a control: a step of its own, or a newer control takes its authority. -/
def ControlVersion (control control' : ControlRecord) : Prop :=
  (∃ act, ControlStep act control control') ∨
    (control.isLive = true ∧ control' = Compute.supersede control)

/-- Every control is the last of its logged versions. -/
def ControlsLogged (L : Ledger) : Prop :=
  Logged ControlRecord.operationId NewControl ControlVersion L.history.controls L.control

theorem ControlsLogged.write (h : L.ControlsLogged) {control control' : ControlRecord}
    (stored : L.control control.operationId = some control) (same : SameControl control control')
    (step : ControlVersion control control') : (L.setControl control').ControlsLogged := by
  refine .set h ?_ step
  rw [same.operationId]
  exact stored

theorem ControlsLogged.supersede (h : L.ControlsLogged) {new : ControlRecord} {handed : List String}
    {old : Option ControlRecord} (inherits : L.Inherits new handed old) :
    (L.supersede old).ControlsLogged := by
  cases inherits with
  | superseded _ _ _ found live => exact h.write found (.supersede _) (.inr ⟨live, rfl⟩)
  | absent | historical | unnamed | ended => exact h

theorem ControlsLogged.move (h : L.ControlsLogged) (hm : Move act L L') : L'.ControlsLogged := by
  cases hm with
  | @admitControl app new handed old head admits =>
    have hfresh : (L.supersede old).control new.operationId = none := by
      by_contra hne
      obtain ⟨found, hf⟩ := Option.ne_none_iff_exists'.mp hne
      obtain ⟨before, hb, -⟩ := control_supersede_some admits.inherits.stored hf
      rw [admits.fresh] at hb
      cases hb
    exact .insert (h.supersede admits.inherits) hfresh admits.start
  | control stored step => exact h.write stored step.same (.inl ⟨act, step⟩)
  | openRoot | patch | accept | nameRequest | step | touch | bindLease | forgetLease | recreate
  | rebind | openHead | release => exact h

/-! ### Requests -/

theorem Move.request_kept (hm : Move act L L') {key : String × String} {row : RequestRow}
    (h : L.request key = some row) : L'.request key = some row := by
  have hset : ∀ new : RequestRow, L.request (new.appId, new.requestId) = none →
      update L.request (new.appId, new.requestId) (some new) key = some row := by
    intro new hnone
    refine update_eq_some.mpr (.inr ⟨fun hkey => ?_, h⟩)
    rw [hkey, hnone] at h
    cases h
  cases hm with
  | nameRequest unnamed => exact hset _ unnamed
  | recreate _ _ _ _ _ _ unnamed => exact hset _ unnamed
  | @admitControl _ _ _ old => cases old <;> exact h
  | openRoot | patch | accept | step | touch | bindLease | forgetLease | rebind | openHead
  | control | release => exact h

/-! ### Applications -/

inductive ApplicationVersion (app app' : LifecycleRecord) : Prop
  | same (same : SameIncarnation app app')
  | recreated (deleted : app.state = .deleted) (following : NextIncarnation app app')
  | rebound (epoch : app.lifecycleEpoch = 1) (following : NextIncarnation app app')
      (changed : app'.lifecycleId ≠ app.lifecycleId)

/-- Every application is the last of its logged versions. -/
def ApplicationsLogged (L : Ledger) : Prop :=
  Logged LifecycleRecord.appId NewRoot ApplicationVersion
    (L.history.applications.map LifecycleRecord.bare) L.root

theorem log_saveApp (L : Ledger) (app : LifecycleRecord) :
    (L.saveApp app).history.applications.map LifecycleRecord.bare =
      L.history.applications.map LifecycleRecord.bare ++ [app.bare] :=
  List.map_append ..

theorem ApplicationsLogged.save (h : L.ApplicationsLogged) (holds : L.Holds app)
    (appId : app'.appId = app.appId) (step : ApplicationVersion app.bare app'.bare) :
    (L.saveApp app').ApplicationsLogged := by
  have hstored : L.root (LifecycleRecord.appId app'.bare) = some app.bare := by
    have hid : LifecycleRecord.appId app'.bare = app.appId := appId
    rw [hid]
    exact holds.1
  rw [ApplicationsLogged, log_saveApp]
  exact .set h hstored step

theorem NextIncarnation.bare (h : NextIncarnation app app') : NextIncarnation app.bare app'.bare :=
  ⟨h.appId, h.epoch, h.state, rfl⟩

theorem ApplicationsLogged.move (h : L.ApplicationsLogged) (hm : Move act L L') :
    L'.ApplicationsLogged := by
  cases hm with
  | @openRoot app missing _ start =>
    rw [ApplicationsLogged, log_saveApp]
    exact .insert h missing ⟨start.epoch, start.revision, start.state, rfl⟩
  | patch holds same => exact h.save holds same.appId (.same same.bare)
  | accept holds _ accepted =>
    exact h.save holds accepted.same.appId (.same accepted.same.bare)
  | step inSlot _ _ follows =>
    exact h.save inSlot.holds follows.same.appId (.same follows.same.bare)
  | @touch app app' operation operation' inSlot _ _ follows bare =>
    have hroot : L.root app'.appId = some app'.bare := by
      rw [follows.same.appId, bare]
      exact inSlot.holds.1
    have hkept : ((L.setOperation operation').put app').root = L.root :=
      (congrArg (update L.root app'.appId) hroot.symm).trans (update_eq_self app'.appId L.root)
    unfold ApplicationsLogged
    rw [hkept]
    exact h
  | recreate holds deleted _ _ following =>
    exact h.save holds following.appId (.recreated deleted following.bare)
  | rebind holds _ _ epoch following changed =>
    exact h.save holds following.appId (.rebound epoch following.bare changed)
  | @admitControl _ _ _ old => cases old <;> exact h
  | nameRequest | bindLease | forgetLease | openHead | control | release => exact h

end Ledger

open Ledger

variable {ok : Store → Op → Prop} {tr : List (Op × Except StoreError Answer)} {s : Store}

theorem Run.operationsLogged (hr : store.Run ok {} tr s) : s.ledger.OperationsLogged :=
  Run.keeps hr Logged.empty fun _ _ _ hm h => h.move hm

theorem Run.controlsLogged (hr : store.Run ok {} tr s) : s.ledger.ControlsLogged :=
  Run.keeps hr Logged.empty fun _ _ _ hm h => h.move hm

theorem Run.applicationsLogged (hr : store.Run ok {} tr s) : s.ledger.ApplicationsLogged :=
  Run.keeps hr Logged.empty fun _ _ _ hm h => h.move hm

/-! ### Reports on an operation -/

/-- The progress that an operation of the store reports. -/
def Op.progress : Op → Option OperationProgress
  | .advance progress => some progress
  | .commitResourceBinding _ progress => some progress
  | _ => none

/-- The progress on the operation `id` that a step of a run has committed. -/
def acceptedOne (id : String) (step : Op × Except StoreError Answer) : Option OperationProgress :=
  match step.2 with
  | .ok _ => step.1.progress.filter fun progress => progress.operationId = id
  | .error _ => none

/-- The progress on the operation `id` that a run has committed, in order. -/
def accepted (id : String) (tr : List (Op × Except StoreError Answer)) : List OperationProgress :=
  tr.filterMap (acceptedOne id)

theorem accepted_snoc (id : String) (tr : List (Op × Except StoreError Answer))
    (step : Op × Except StoreError Answer) :
    accepted id (tr ++ [step]) = accepted id tr ++ (acceptedOne id step).toList := by
  cases h : acceptedOne id step <;> simp [accepted, h]

/-- A step commits one report on one operation, or it moves the ledger without any report. -/
theorem store_reports (s : Store) (op : Op) :
    (∃ progress operation, op.progress = some progress ∧
        (∀ id, acceptedOne id (op, (store.exec s op).1) =
          if progress.operationId = id then some progress else none) ∧
        Nonempty (s.ledger.Advances progress operation (store.exec s op).2.ledger)) ∨
      ((∀ id, acceptedOne id (op, (store.exec s op).1) = none) ∧
        ∃ act, (∀ progress, act ≠ .advance progress) ∧
          Moves act s.ledger (store.exec s op).2.ledger) := by
  cases hexec : (store.exec s op).1 with
  | error =>
    refine .inr ⟨fun _ => rfl, .other, nofun, ?_⟩
    rw [store_failed hexec]
    exact .refl _
  | ok =>
    cases hp : op.progress with
    | none =>
      refine .inr ⟨fun id => by simp [acceptedOne, hp], op.act, fun progress hact => ?_,
        store_moves s op⟩
      cases op with
      | advance | commitResourceBinding => cases hp
      | _ => cases hact
    | some progress =>
      have hadvances : ∃ operation,
          Nonempty (s.ledger.Advances progress operation (store.exec s op).2.ledger) := by
        cases op with
        | advance =>
          cases hp
          obtain ⟨operation, -, h⟩ :=
            store_answered hexec (gives_respond (gives_advance progress))
          exact ⟨operation, h⟩
        | commitResourceBinding binding =>
          cases hp
          obtain ⟨operation, -, -, h⟩ :=
            store_answered hexec (gives_respond (gives_commitResourceBinding binding progress))
          exact ⟨operation, h⟩
        | _ => cases hp
      obtain ⟨operation, h⟩ := hadvances
      refine .inl ⟨progress, operation, rfl, fun id => ?_, h⟩
      by_cases hid : progress.operationId = id <;> simp [acceptedOne, hp, Option.filter]

/-- A property of an operation and the reports on it, at every row of a table. -/
def Reports (I : List OperationProgress → OperationRecord → Prop)
    (reports : String → List OperationProgress) (rows : String → Option OperationRecord) : Prop :=
  ∀ id, match rows id with
    | none => reports id = []
    | some operation => I (reports id) operation

variable {rows : String → Option OperationRecord}

theorem Reports.of_some {reports : String → List OperationProgress} (h : Reports I reports rows)
    {id : String} (ho : rows id = some operation) : I (reports id) operation := by
  have hid := h id
  rw [ho] at hid
  exact hid

theorem Reports.update {reports reports' : String → List OperationProgress}
    (h : Reports I reports rows) (hself : I (reports' operation.operationId) operation)
    (hother : ∀ id, id ≠ operation.operationId → reports' id = reports id) :
    Reports I reports' (update rows operation.operationId (some operation)) := by
  intro id
  by_cases hid : id = operation.operationId
  · rw [hid, update_self]
    exact hself
  · rw [update_of_ne hid, hother id hid]
    exact h id

/-- What holds of a new operation, and is kept by reports and by steps without a report, holds
of every operation and the reports that a run has committed on it. -/
theorem Run.reports (hnew : ∀ operation, NewOperation operation → I [] operation)
    (hreport : ∀ s op progress ps app app' before after, ok s op → op.progress = some progress →
      s.ledger.operation progress.operationId = some before → I ps before →
      Domain.Advanced app before progress app' after → I (ps ++ [progress]) after)
    (hstep : ∀ act ps app before after, (∀ progress, act ≠ .advance progress) → I ps before →
      OperationStep act app before after → I ps after) (hr : store.Run ok {} tr s) :
    Reports I (fun id => accepted id tr) s.ledger.operation := by
  refine hr.trace_invariant (I := fun tr s => Reports I (fun id => accepted id tr)
    s.ledger.operation) (fun _ => rfl) fun tr s op hok h => ?_
  obtain ⟨progress, operation, hp, haccepted, ⟨hadv⟩⟩ | ⟨hnone, act, hact, hmoves⟩ :=
    store_reports s op
  · have hrows : (store.exec s op).2.ledger.operation =
        update s.ledger.operation operation.operationId (some operation) := by
      rw [hadv.written]
      rfl
    have hid : operation.operationId = progress.operationId :=
      (mergeProgress_same hadv.advanced.merge).1.trans hadv.operationId
    have hstored := hadv.inSlot.stored
    rw [hadv.operationId] at hstored
    rw [hrows]
    refine h.update ?_ fun id hne => ?_
    · rw [accepted_snoc, haccepted, if_pos hid.symm]
      refine hreport s op progress _ _ _ _ _ hok hp hstored ?_ hadv.advanced
      rw [hid]
      exact h.of_some hstored
    · rw [accepted_snoc, haccepted, if_neg fun hself => hne (hself.symm.trans hid.symm)]
      exact List.append_nil _
  · have hsame : (fun id => accepted id (tr ++ [(op, (store.exec s op).1)])) =
        fun id => accepted id tr := by
      funext id
      rw [accepted_snoc, hnone]
      exact List.append_nil _
    rw [hsame]
    refine hmoves.keeps (P := fun L => Reports I (fun id => accepted id tr) L.operation) h
      fun L L' hm hL => ?_
    cases hm.writesOperation with
    | none rows =>
      rw [rows]
      exact hL
    | @new operation start fresh _ rows =>
      rw [rows]
      refine hL.update ?_ fun _ _ => rfl
      have hempty : accepted operation.operationId tr = [] := by
        have hid := hL operation.operationId
        rwa [fresh] at hid
      rw [hempty]
      exact hnew operation start
    | @next app operation operation' inSlot step rows =>
      rw [rows]
      refine hL.update ?_ fun _ _ => rfl
      rw [(mergeProgress_same step.merge).1]
      exact hstep act _ app operation operation' hact (hL.of_some inSlot.stored) step

/-- Every committed report is about a revision of its own, older than the present one. -/
theorem Run.reports_increasing (hr : store.Run ok {} tr s) :
    Reports (fun reports operation => reports.Pairwise (fun earlier later =>
        earlier.expectedRevision < later.expectedRevision) ∧
      ∀ report ∈ reports, report.expectedRevision < operation.revision)
      (fun id => accepted id tr) s.ledger.operation := by
  refine Run.reports ?_ ?_ ?_ hr
  · intro operation _
    exact ⟨.nil, fun report hreport => by cases hreport⟩
  · intro s op progress ps app app' before after _ _ _ h hadv
    obtain ⟨hpairwise, hbefore⟩ := h
    refine ⟨List.pairwise_append.mpr ⟨hpairwise, List.pairwise_singleton .., ?_⟩, ?_⟩
    · intro report hreport last hlast
      rw [List.mem_singleton.mp hlast, ← hadv.revision]
      exact hbefore report hreport
    · intro report hreport
      rw [hadv.revision_eq]
      obtain hreport | hreport := List.mem_append.mp hreport
      · exact (hbefore report hreport).trans (Int.lt_succ _)
      · rw [List.mem_singleton.mp hreport, ← hadv.revision]
        exact Int.lt_succ _
  · intro act ps app before after _ h hstep
    exact ⟨h.1, fun report hreport => (h.2 report hreport).trans hstep.revision_lt⟩

variable (ops : List Op) (id : String)

theorem run_after : store.Run (fun _ _ => True) {} (store.trace {} ops) (store.after {} ops) :=
  .of_follows (Machine.follows_of_forall fun _ _ _ => trivial)

/-- Whatever the calls, no report on an operation is committed twice, or behind a later one. -/
theorem reports_committed_in_order : (accepted id (store.trace {} ops)).Pairwise
    fun earlier later => earlier.expectedRevision < later.expectedRevision := by
  have h := Run.reports_increasing (run_after ops) id
  split at h
  · rw [show accepted id _ = [] from h]
    exact .nil
  · exact h.1

/-- Whatever the calls, every version of a control has a revision of its own, and what the control
was admitted for stays. -/
theorem control_versions_in_order :
    (versions ControlRecord.operationId (store.after {} ops).history.controls id).Pairwise
      fun earlier later => earlier.revision < later.revision ∧ SameControl earlier later := by
  refine (Run.controlsLogged (run_after ops)).pairwise ?_
    fun _ _ _ h h' => ⟨h.1.trans h'.1, h.2.trans h'.2⟩
  rintro control control' (⟨act, step⟩ | ⟨-, rfl⟩)
  · refine ⟨?_, step.same⟩
    cases step <;> exact Int.lt_succ _
  · exact ⟨Int.lt_succ _, .supersede control⟩

end Rcoder.Lifecycle
