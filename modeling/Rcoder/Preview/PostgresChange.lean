import Rcoder.Preview.Change
import Rcoder.Preview.Postgres

/-!
# The changes of the PostgreSQL store
-/

namespace Rcoder.Preview.Postgres

open Effect Function Check Table
open Lifecycle (checkedSucc)

variable {env : Env} {request : Request} {t t' : Tables} {r row before : PreviewInstanceRecord}
  {key id operationId : String} {now port : Nat} {α β : Type} {f : α → Answer}

def Tables.table (t : Tables) : Instances := t.instances.find?

theorem table_key (h : t.table key = some r) : r.previewKey = key := find?_key h

/-- A transaction that commits a change of the instances. -/
def Performs (request : Request) (f : α → Answer) (m : TxM α) (t : Tables) : Prop :=
  Gives m t fun v t' => Change request (f v) t.table t'.table

theorem Performs.respond {m : TxM α} (h : Performs request f m t) :
    Change request (respond f m t).1 t.table (respond f m t).2.table := by
  unfold Postgres.respond
  obtain ⟨a, t', hm, ht⟩ | ⟨e, ht⟩ := transact_cases m t
  · rw [ht]
    exact h a t' hm
  · rw [ht]
    exact .refused

section Statements

theorem decode_ok (h : decode row = .ok r) : r = row := by
  obtain ⟨-, h⟩ := failIf_bind h
  obtain ⟨-, h⟩ := failIf_bind h
  obtain ⟨-, h⟩ := failIf_bind h
  cases h
  rfl

theorem gives_getInstance :
    Gives (getInstance key) t fun found t' => t' = t ∧ found = t.table key := by
  refine .get_bind ?_
  cases hr : t.instances.find? key with
  | none => exact .pure ⟨rfl, hr.symm⟩
  | some =>
    refine .fromExcept_bind fun record hdecode => .pure ⟨rfl, ?_⟩
    rw [decode_ok hdecode]
    exact hr.symm

variable {Q : α → Tables → Prop}

theorem gives_getInstance_bind {m : Option PreviewInstanceRecord → TxM α}
    (h : Gives (m (t.table key)) t Q) : Gives (getInstance key >>= m) t Q := by
  refine gives_getInstance.bind ?_
  rintro found t ⟨rfl, rfl⟩
  exact h

theorem gives_current_bind {m : PreviewInstanceRecord → TxM α}
    (h : ∀ before, t.table before.previewKey = some before → before.previewKey = key →
      Gives (m before) t Q) : Gives (current key >>= m) t Q := by
  refine .bind (gives_getInstance_bind .require) ?_
  rintro before t ⟨rfl, hbefore⟩
  obtain rfl := table_key hbefore
  exact h before hbefore rfl

theorem gives_writeInstances {instances : Table PreviewInstanceRecord.previewKey} :
    Gives (writeInstances instances) t fun _ t' =>
      t' = { t with instances := instances } ∧ constraintsHold instances.rows :=
  .ensure_bind fun h => .update ⟨rfl, h⟩

/-- The stored row with the columns that an update writes. -/
def writeColumns (stored row : PreviewInstanceRecord) : PreviewInstanceRecord :=
  { stored with
    revision := row.revision
    operationId := row.operationId
    pid := row.pid
    port := row.port
    basePath := row.basePath
    state := row.state
    lastHeartbeatAt := row.lastHeartbeatAt
    lastActivityAt := row.lastActivityAt
    detail := row.detail
    updatedAt := row.updatedAt }

theorem gives_save (hbefore : t.table before.previewKey = some before)
    (hrow : writeColumns before row = row) :
    Gives (save before row) t fun _ t' => t' = { t with instances := t.instances.set row } := by
  refine .get_bind (.require_bind fun stored hstored => .ensure_bind fun _ => ?_)
  obtain rfl : before = stored := Option.mem_unique hbefore hstored
  change Gives (writeInstances (t.instances.set (writeColumns before row))) t _
  rw [hrow]
  exact gives_writeInstances.mono fun _ _ h => h.1

theorem gives_operation_bind {m : Option OperationRow → TxM α}
    (h : ∀ found, Gives (m found) t Q) : Gives (operation id >>= m) t Q := .get_bind (h _)

theorem gives_finish {state : PreviewOperationState} :
    Gives (finish row state) t fun _ t' => t'.instances = t.instances := by
  refine gives_operation_bind fun found => ?_
  refine .require_bind fun op _ => .ensure_bind fun _ => ?_
  exact .onlyIf (fun _ => .update rfl) fun _ => rfl

theorem gives_finishRecovered :
    Gives (finishRecovered row) t fun _ t' => t'.instances = t.instances :=
  gives_operation_bind fun _ => .require_bind fun _ _ => gives_finish

theorem gives_insertOperation {kind : PreviewOperationKind} {input : Json} :
    Gives (insertOperation env row kind input) t fun _ t' => t'.instances = t.instances :=
  .get_bind (.ensure_bind fun _ => .update rfl)

theorem table_set (hbefore : t.table row.previewKey = some before) :
    Tables.table { t with instances := t.instances.set row } =
      update t.table row.previewKey (some row) := find?_set hbefore

theorem table_save (hbefore : t.table before.previewKey = some before)
    (hkey : row.previewKey = before.previewKey) :
    Tables.table { t with instances := t.instances.set row } =
      update t.table before.previewKey (some row) := by
  rw [← hkey] at hbefore ⊢
  exact table_set hbefore

/-- Reading a list one by one: the results in order. -/
theorem mapM_ok {g : α → Except PreviewStoreError β} {l : List α} {l' : List β}
    (h : l.mapM g = .ok l') : List.Forall₂ (fun a b => g a = .ok b) l l' := by
  induction l generalizing l' with
  | nil =>
    cases h
    exact .nil
  | cons a l ih =>
    rw [List.mapM_cons] at h
    obtain ⟨b, hb, h⟩ := bind_eq_ok.mp h
    obtain ⟨bs, hbs, h⟩ := bind_eq_ok.mp h
    cases h
    exact .cons hb (ih hbs)

variable {rows : List PreviewInstanceRecord} {occupied : List Nat}

theorem mapM_decode {rows' : List PreviewInstanceRecord} (h : rows.mapM decode = .ok rows') :
    rows' = rows := by
  have hall := (mapM_ok h).imp fun _ _ hd => (decode_ok hd).symm
  rw [List.forall₂_eq_eq_eq] at hall
  exact hall.symm

theorem gives_active : Gives (active env) t fun rows t' =>
    t' = t ∧ rows = ordered env (t.instances.rows.filter (·.state.isActive)) := by
  refine .get_bind (Gives.fromExcept.mono ?_)
  rintro rows _ ⟨rfl, hrows⟩
  exact ⟨rfl, mapM_decode hrows⟩

theorem mem_ordered : r ∈ ordered env rows ↔ r ∈ rows :=
  List.mem_insertionSort _

theorem mapM_port {e : PreviewStoreError}
    (h : rows.mapM (fun row => (demand row.port e : Except PreviewStoreError Nat)) = .ok occupied) :
    rows.map (·.port) = occupied.map some := by
  have hall := (mapM_ok h).imp fun _ _ hp => demand_eq_ok.mp hp
  clear h
  induction hall with
  | nil => rfl
  | cons hp _ ih => rw [List.map_cons, List.map_cons, hp, ih]

theorem gives_ports : Gives (ports env) t fun occupied t' => t' = t ∧
    (ordered env (t.instances.rows.filter (·.state.isActive))).map (·.port) =
      occupied.map some := by
  refine gives_active.bind ?_
  rintro rows _ ⟨rfl, rfl⟩
  refine Gives.fromExcept.mono ?_
  rintro occupied t ⟨rfl, hports⟩
  exact ⟨rfl, mapM_port hports⟩

theorem mem_ports
    (h : (ordered env (t.instances.rows.filter (·.state.isActive))).map (·.port) =
      occupied.map some) (hr : t.table key = some r) (hactive : r.state.isActive = true)
    (hport : r.port = some port) : port ∈ occupied := by
  have hmem : r ∈ ordered env (t.instances.rows.filter (·.state.isActive)) :=
    mem_ordered.mpr (List.mem_filter.mpr ⟨find?_mem hr, hactive⟩)
  have hlisted : some port ∈ occupied.map some := h ▸ hport ▸ List.mem_map_of_mem hmem
  simpa using hlisted

theorem allocate_ok {requested : Option Nat}
    (h : allocate occupied requested = .ok port) : isPreviewPort port = true ∧ port ∉ occupied := by
  cases requested with
  | some =>
    obtain ⟨hcond, h⟩ := failIf_bind h
    cases h
    simp only [not_or, not_not] at hcond
    exact hcond
  | none =>
    have hfound := List.find?_some (demand_eq_ok.mp h)
    exact of_decide_eq_true hfound

/-- A requested port is given out as it is. -/
theorem allocate_some {requested : Nat}
    (h : allocate occupied (some requested) = .ok port) : port = requested := by
  obtain ⟨-, h⟩ := failIf_bind h
  cases h
  rfl

end Statements

section Start

variable {input : AcceptStartInput}

theorem next_ok : Gives (startRevision.next row) t fun verdict t' =>
    t' = t ∧ ∃ revision, verdict = .inl revision ∧ checkedSucc row.revision = some revision :=
  .require_bind fun revision hrev => .pure ⟨rfl, revision, rfl, hrev⟩

/-- What has been established, and what has been changed, when a revision is given out. -/
structure Revised (input : AcceptStartInput) (key : String) (found : Option PreviewInstanceRecord)
    (revision : Int) (t t' : Tables) : Prop where
  revised : nextRevision found = some revision
  idle : ∀ r, found = some r → r.state.isActive = true →
    r.state = .unknown ∧ input.recoverUnknownEvidence.isSome = true
  others : ∀ k, k ≠ key → t'.table k = t.table k

/-- How the revision is answered: an outcome without a change, or a revision. -/
def Verdict (input : AcceptStartInput) (key : String) (found : Option PreviewInstanceRecord)
    (t : Tables) (verdict : Int ⊕ AcceptStartOutcome) (t' : Tables) : Prop :=
  (∃ outcome, verdict = .inr outcome ∧ t' = t ∧
    ∀ r, Answer.outcome outcome ≠ .outcome (.admitted r)) ∨
  ∃ revision, verdict = .inl revision ∧ Revised input key found revision t t'

theorem startRevision_verdict {found : Option PreviewInstanceRecord} (hfound : t.table key = found) :
    Gives (startRevision input now found) t (Verdict input key found t) := by
  cases found with
  | none =>
    exact .pure (.inr ⟨1, rfl, rfl, fun _ hr => absurd hr (Option.some_ne_none _).symm,
      fun _ _ => rfl⟩)
  | some row =>
    have kept {outcome : AcceptStartOutcome}
        (h : ∀ r, Answer.outcome outcome ≠ .outcome (.admitted r)) :
        Gives (pure (.inr outcome) : TxM _) t (Verdict input key (some row) t) :=
      .pure (.inl ⟨outcome, rfl, rfl, h⟩)
    have next {t' : Tables} (hidle : row.state.isActive = true →
        row.state = .unknown ∧ input.recoverUnknownEvidence.isSome = true)
        (hothers : ∀ k, k ≠ key → t'.table k = t.table k) :
        Gives (startRevision.next row) t' (Verdict input key (some row) t) := by
      refine next_ok.mono ?_
      rintro _ _ ⟨rfl, revision, rfl, hrev⟩
      refine .inr ⟨revision, rfl, hrev, ?_, hothers⟩
      rintro _ ⟨⟩
      exact hidle
    unfold startRevision
    simp only
    split
    · exact kept fun _ => by rintro ⟨⟩
    · exact kept fun _ => by rintro ⟨⟩
    · exact kept fun _ => by rintro ⟨⟩
    · exact kept fun _ => by rintro ⟨⟩
    · rename_i evidence hs he
      obtain rfl := table_key hfound
      refine .ensure_bind fun _ => ?_
      refine (gives_save hfound rfl).bind ?_
      rintro _ _ rfl
      refine gives_finish.bind fun _ t' hinst => next (fun _ => ⟨hs, by rw [he]; rfl⟩) fun k hk => ?_
      have htable : t'.table = _ := (congrArg find? hinst).trans (table_save hfound rfl)
      rw [htable]
      exact update_of_ne hk ..
    · rename_i hs
      exact next (fun h => by rw [hs] at h; cases h) fun _ _ => rfl
    · rename_i hs
      exact next (fun h => by rw [hs] at h; cases h) fun _ _ => rfl

theorem gives_admitRow {previous : Option PreviewInstanceRecord} :
    Gives (admitRow row previous) t fun _ t' =>
      t'.table = update t.table row.previewKey (some row) ∧
        constraintsHold t'.instances.rows := by
  cases previous with
  | some =>
    refine gives_getInstance.bind ?_
    rintro found t₁ ⟨rfl, hfound⟩
    refine .require_bind fun observed hobserved => .ensure_bind fun _ => .get_bind ?_
    refine gives_writeInstances.mono ?_
    rintro _ _ ⟨rfl, hold⟩
    exact ⟨table_set (hfound ▸ hobserved), hold⟩
  | none =>
    refine .get_bind (.ensure_bind fun hfree => .get_bind ?_)
    refine gives_writeInstances.mono ?_
    rintro _ _ ⟨rfl, hold⟩
    exact ⟨find?_insert hfree, hold⟩

/-- An admission is written under the constraints, and every other outcome leaves the rows. -/
theorem gives_acceptStart : Gives (acceptStart env input now) t fun outcome t' =>
    Change ⟨.acceptStart input, now⟩ (.outcome outcome) t.table t'.table ∧
      (t'.instances = t.instances ∨ constraintsHold t'.instances.rows) := by
  refine .ensure_bind fun _ => gives_getInstance_bind (gives_operation_bind fun found => ?_)
  cases found with
  | some =>
    refine .ensure_bind fun _ => .require_bind fun row _ => .ensure_bind fun _ => ?_
    refine .pure ⟨.same fun r => ?_, .inl rfl⟩
    split_ifs <;> rintro ⟨⟩
  | none =>
    refine (startRevision_verdict rfl).bind ?_
    rintro _ t₁ (⟨outcome, rfl, rfl, hout⟩ | ⟨revision, rfl, hrev⟩)
    · exact .pure ⟨.same hout, .inl rfl⟩
    refine gives_ports.bind ?_
    rintro occupied t₁ ⟨rfl, hports⟩
    refine .fromExcept_bind fun port hport => ?_
    obtain ⟨hpool, hfree⟩ := allocate_ok hport
    refine gives_admitRow.bind fun _ t₂ ⟨htable, hold⟩ => ?_
    -- off its key the tables are as they were before the start
    have hupdate : t₂.table = update t.table input.previewKey
        (some (input.record revision port now)) := by
      funext k
      by_cases hk : k = input.previewKey
      · subst hk
        rw [htable, update_self]
        exact update_self ..
      · rw [update_of_ne hk, ← hrev.others k hk, htable]
        exact update_of_ne hk ..
    refine gives_getInstance_bind (.require_bind fun row hrow =>
      gives_insertOperation.bind fun _ t₃ hinst => ?_)
    have hrow : input.record revision port now = row := by
      rw [hupdate, update_self] at hrow
      exact Option.some.inj hrow
    subst hrow
    refine .pure ⟨?_, .inr (hinst ▸ hold)⟩
    have htable₃ : t₃.table = t₂.table := congrArg find? hinst
    rw [htable₃, hupdate]
    refine .admission hrev.idle hrev.revised ⟨hpool, fun k r hr hk hactive hp => hfree ?_⟩
    exact mem_ports hports ((hrev.others k hk).trans hr) hactive hp

theorem acceptStart_performs :
    Performs ⟨.acceptStart input, now⟩ .outcome (acceptStart env input now) t :=
  gives_acceptStart.mono fun _ _ h => h.1

end Start

section Callbacks

variable {instanceId detail evidence : String} {revision pid : Int} {basePath : Option String}

theorem gives_touch {m : TxM Unit} (hbefore : t.table before.previewKey = some before)
    (hrow : writeColumns before row = row) (ht : Touch request before row)
    (hm : ∀ t, Gives m t fun _ t' => t'.instances = t.instances) :
    Performs request .record (save before row >>= fun _ => m >>= fun _ => pure row) t := by
  refine (gives_save hbefore hrow).bind ?_
  rintro _ _ rfl
  refine (hm _).bind fun _ t' hinst => .pure ?_
  have htable : t'.table = update t.table before.previewKey (some row) :=
    (congrArg find? hinst).trans (table_save hbefore ht.kept.key)
  rw [htable]
  exact .one (fun _ => Answer.noConfusion) hbefore ht

theorem retryStartPort_performs {input : PreviewStartPortRetry} :
    Performs ⟨.retryStartPort input, now⟩ .record (retryStartPort env input now) t := by
  refine gives_current_bind fun before hbefore hkey => Gives.fromExcept_bind fun moved happlied => ?_
  obtain ⟨changed, row⟩ := moved
  refine gives_operation_bind fun found => .require_bind fun op _ => .ensure_bind fun _ => ?_
  refine .ite (fun _ => .pure (.same fun _ => Answer.noConfusion)) fun hchanged => ?_
  obtain rfl : changed = true := by simpa using hchanged
  refine gives_ports.bind ?_
  rintro occupied t ⟨rfl, hports⟩
  refine .fromExcept_bind fun port hport => ?_
  obtain ⟨hpool, -, -, -, -, -, -, h⟩ := applyStartPortRetry_ok happlied
  rcases h with ⟨h, -⟩ | ⟨-, -, -, next, -, hrow⟩
  · cases h
  obtain rfl := allocate_some hport
  have hfree : Free t.table input.previewKey input.nextPort :=
    ⟨hpool, fun k r hr _ hactive hp => (allocate_ok hport).2 (mem_ports hports hr hactive hp)⟩
  have hrowKey : row.previewKey = before.previewKey := by
    rw [hrow]
    rfl
  have hsave : Gives (save before row) t _ := gives_save hbefore (by rw [hrow]; rfl)
  refine hsave.bind ?_
  rintro _ _ rfl
  refine .ensure_bind fun _ => .update_bind (.pure ?_)
  have hset := table_save hbefore hrowKey
  have hchange := Change.retry (hkey ▸ hbefore) happlied hfree
  rwa [← hkey, ← hset] at hchange

theorem publishRunning_performs :
    Performs ⟨.publishRunning key operationId revision pid port basePath, now⟩ .record
      (publishRunning key operationId revision pid port basePath now) t := by
  refine gives_current_bind fun before hbefore hkey => .fromExcept_bind fun published happlied => ?_
  obtain ⟨first, row⟩ := published
  subst hkey
  obtain ⟨-, -, -, -, -, -, hrow⟩ := applyRunningPublication_ok happlied
  have hkey : before.previewKey = row.previewKey := by rw [hrow]
  have hwritten : Gives (onlyIf (row ≠ before) (save before row)) t fun _ t' =>
      t'.table = update t.table row.previewKey (some row) := by
    refine .onlyIf (fun _ => (gives_save hbefore (by rw [hrow]; rfl)).mono ?_) fun hsame => ?_
    · rintro _ _ rfl
      exact table_set (hkey ▸ hbefore)
    · obtain rfl := not_not.mp hsame
      exact (update_eq_self_iff.mpr hbefore.symm).symm
  refine hwritten.bind fun _ t₁ htable => ?_
  have hfinish : Gives (onlyIf (first = true) (finish row .succeeded)) t₁ fun _ t' =>
      t'.instances = t₁.instances := .onlyIf (fun _ => gives_finish) fun _ => rfl
  refine hfinish.bind fun _ t₂ hinst => .pure ?_
  have htable₂ : t₂.table = t₁.table := congrArg find? hinst
  rw [htable₂, htable]
  exact .one (fun _ => Answer.noConfusion) (hkey ▸ hbefore) (.publish happlied)

theorem acceptStop_performs :
    Performs ⟨.acceptStop key operationId, now⟩ .record (acceptStop env key operationId now) t := by
  refine .ensure_bind fun _ => gives_current_bind fun before hbefore hkey => ?_
  subst hkey
  refine gives_operation_bind fun found => ?_
  cases found with
  | some =>
    exact .ensure_bind fun _ => .pure (.same fun _ => Answer.noConfusion)
  | none =>
    refine .ite (fun _ => .pure (.same fun _ => Answer.noConfusion)) fun hactive => ?_
    have hactive : before.state.isActive = true := by simpa using hactive
    refine .ensure_bind fun _ => .require_bind fun revision hrev => ?_
    refine gives_finish.bind fun _ t₁ hinst => ?_
    have hbefore₁ : t₁.table before.previewKey = some before :=
      (congrArg (find? · _) hinst).trans hbefore
    refine (gives_save hbefore₁ rfl).bind ?_
    rintro _ _ rfl
    refine gives_insertOperation.bind fun _ t₂ hinst₂ => .pure ?_
    have htable₁ : t₁.table = t.table := congrArg find? hinst
    have htable₂ : t₂.table = update t₁.table before.previewKey _ :=
      (congrArg find? hinst₂).trans (table_save hbefore₁ rfl)
    rw [htable₂, htable₁]
    exact .stop hbefore hactive hrev

theorem markStopped_performs :
    Performs ⟨.markStopped key operationId revision, now⟩ .record
      (markStopped key operationId revision now) t := by
  refine gives_current_bind fun before hbefore hkey => ?_
  subst hkey
  refine .ensure_bind fun hids => .ite (fun _ => ?_) fun _ => ?_
  · exact .pure (.same fun _ => Answer.noConfusion)
  refine .ensure_bind fun hstopping => ?_
  exact gives_touch hbefore rfl (.stopped hids.1 hids.2 hstopping) fun t => gives_finish

theorem markFailed_performs :
    Performs ⟨.markFailed key instanceId revision detail, now⟩ .record
      (markFailed key instanceId revision detail now) t := by
  refine gives_current_bind fun before hbefore hkey => ?_
  subst hkey
  refine .ensure_bind fun hids => ?_
  exact gives_touch hbefore rfl (.failed hids.1 hids.2.1 hids.2.2) fun t => gives_finish

theorem markUnknown_performs :
    Performs ⟨.markUnknown key instanceId detail, now⟩ .record
      (markUnknown key instanceId detail now) t := by
  refine gives_current_bind fun before hbefore hkey => ?_
  subst hkey
  refine .ensure_bind fun hids => ?_
  exact gives_touch hbefore rfl (.unknown hids.1 hids.2) fun t => gives_finish

theorem resolveUnknownStopped_performs :
    Performs ⟨.resolveUnknownStopped key instanceId evidence, now⟩ .record
      (resolveUnknownStopped key instanceId evidence now) t := by
  refine gives_current_bind fun before hbefore hkey => ?_
  subst hkey
  refine .ensure_bind fun hids => ?_
  exact gives_touch hbefore rfl (.resolved hids.2.1 hids.2.2) fun t => gives_finishRecovered

theorem refreshHeartbeat_performs :
    Performs ⟨.refreshHeartbeat key instanceId, now⟩ .found (refreshHeartbeat key instanceId now)
      t := by
  refine gives_getInstance.bind ?_
  rintro found t ⟨rfl, hfound⟩
  cases found with
  | none => exact .pure (.same fun _ => Answer.noConfusion)
  | some =>
    obtain rfl := table_key hfound.symm
    refine .ite (fun hlive => ?_) fun _ => .pure (.same fun _ => Answer.noConfusion)
    refine (gives_save hfound.symm rfl).bind ?_
    rintro _ _ rfl
    refine .pure ?_
    rw [table_save hfound.symm]
    · exact .one (fun _ => Answer.noConfusion) hfound.symm (.heartbeat _ _ hlive.1 hlive.2)
    · rfl

theorem flushEntries_touched (now : Nat) (all : List ActivityFlushEntry) {T : Instances}
    (entries : List ActivityFlushEntry) (hsub : entries ⊆ all)
    (h : Touched ⟨.flushActivity all, now⟩ T t.table) :
    Gives (flushEntries entries) t fun _ t' => Touched ⟨.flushActivity all, now⟩ T t'.table := by
  induction entries generalizing t with
  | nil => exact .pure h
  | cons entry entries ih =>
    obtain ⟨hentry, hrest⟩ := List.cons_subset.mp hsub
    have hone : Gives (flushEntry entry) t fun _ t' =>
        Touched ⟨.flushActivity all, now⟩ T t'.table := by
      refine .get_bind ?_
      cases hr : t.instances.find? entry.previewKey with
      | none => exact .pure h
      | some row =>
        refine .ite (fun hmoved => ?_) fun _ => .pure h
        refine gives_writeInstances.bind ?_
        rintro _ _ ⟨rfl, -⟩
        refine .pure ?_
        have hkey : row.previewKey = entry.previewKey := find?_key hr
        have hrow : t.table row.previewKey = some row := hkey ▸ hr
        rw [table_save hrow]
        · exact h.activity hentry hrow hkey hmoved.1 hmoved.2.2 _
        · rfl
    refine hone.bind fun moved t₁ h₁ => ?_
    exact (ih hrest h₁).bind fun rest t₂ h₂ => .pure h₂

theorem flushActivity_performs {entries : List ActivityFlushEntry} :
    Performs ⟨.flushActivity entries, now⟩ .count (flushActivity entries) t := by
  have hsub : (entries.insertionSort fun a b => entryBefore b a = false) ⊆ entries :=
    (List.perm_insertionSort _ entries).subset
  refine (flushEntries_touched now entries _ hsub Touched.refl).mono fun _ _ h => ?_
  exact .touch (fun _ => Answer.noConfusion) h

variable {bootId podUid : String}

theorem reconcileEach_touched (now : Nat) {T : Instances} (candidates : List PreviewInstanceRecord)
    (h : Touched ⟨.reconcileHostReboot podUid bootId, now⟩ T t.table) :
    Gives (reconcileEach podUid bootId now candidates) t fun _ t' =>
      Touched ⟨.reconcileHostReboot podUid bootId, now⟩ T t'.table := by
  induction candidates generalizing t with
  | nil => exact .pure h
  | cons candidate candidates ih =>
    refine .ite (fun _ => ih h) fun _ => gives_current_bind fun before hbefore _ => ?_
    refine .ite (fun _ => ih h) fun hactive => ?_
    simp only [not_or, not_not] at hactive
    refine (gives_save hbefore rfl).bind ?_
    rintro _ _ rfl
    refine gives_finishRecovered.bind fun _ t₁ hinst => ?_
    have htable : t₁.table = update t.table before.previewKey _ :=
      (congrArg find? hinst).trans (table_save hbefore rfl)
    have h₁ := h.reboot hbefore hactive.2.2 (rebootDetail podUid bootId)
    rw [← htable] at h₁
    exact (ih h₁).bind fun changed t₂ h₂ => .pure h₂

theorem reconcileHostReboot_performs :
    Performs ⟨.reconcileHostReboot podUid bootId, now⟩ .records
      (reconcileHostReboot env podUid bootId now) t := by
  refine .ensure_bind fun _ => gives_active.bind ?_
  rintro candidates t ⟨rfl, -⟩
  refine (reconcileEach_touched now candidates Touched.refl).mono fun _ _ h => ?_
  exact .touch (fun _ => Answer.noConfusion) h

end Callbacks

section Reads

theorem performs_read {m : TxM α} {P : α → Prop} (hm : Gives m t fun v t' => t' = t ∧ P v)
    (hf : ∀ v r, f v ≠ .outcome (.admitted r)) : Performs request f m t := by
  refine hm.mono ?_
  rintro v _ ⟨rfl, -⟩
  exact .same (hf v)

theorem gives_findActiveByPort : Gives (findActiveByPort port) t fun found t' => t' = t ∧
    found = t.instances.rows.find? fun r => r.port = some port ∧ r.state.isActive := by
  refine .get_bind ?_
  cases hr : t.instances.rows.find? fun r => r.port = some port ∧ r.state.isActive with
  | none => exact .pure ⟨rfl, rfl⟩
  | some =>
    refine .fromExcept_bind fun record hdecode => .pure ⟨rfl, ?_⟩
    rw [decode_ok hdecode]

theorem gives_listByHost {hostId : String} {activeOnly : Bool} :
    Gives (listByHost env hostId activeOnly) t fun _ t' => t' = t ∧ True :=
  .get_bind (.fromExcept_bind fun _ _ => .pure ⟨rfl, trivial⟩)

end Reads

theorem exec_change (env : Env) (t : Tables) (request : Request) :
    Change request (exec env t request).1 t.table (exec env t request).2.table := by
  obtain ⟨call, now⟩ := request
  cases call with
  | acceptStart => exact acceptStart_performs.respond
  | retryStartPort => exact retryStartPort_performs.respond
  | publishRunning =>
    exact publishRunning_performs.respond
  | acceptStop => exact acceptStop_performs.respond
  | markStopped => exact markStopped_performs.respond
  | markFailed => exact markFailed_performs.respond
  | markUnknown => exact markUnknown_performs.respond
  | resolveUnknownStopped => exact resolveUnknownStopped_performs.respond
  | refreshHeartbeat => exact refreshHeartbeat_performs.respond
  | flushActivity => exact flushActivity_performs.respond
  | reconcileHostReboot => exact reconcileHostReboot_performs.respond
  | get => exact (performs_read gives_getInstance fun _ _ => Answer.noConfusion).respond
  | findActiveByPort =>
    exact (performs_read gives_findActiveByPort fun _ _ => Answer.noConfusion).respond
  | activePorts => exact (performs_read gives_ports fun _ _ => Answer.noConfusion).respond
  | listByHost =>
    exact (performs_read gives_listByHost fun _ _ => Answer.noConfusion).respond
  | listActive => exact (performs_read gives_active fun _ _ => Answer.noConfusion).respond

end Rcoder.Preview.Postgres
