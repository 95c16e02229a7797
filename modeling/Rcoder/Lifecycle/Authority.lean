import Rcoder.Lifecycle.Move

/-!
# Authority over a scope

What the checks of the compute ledger establish about the ledger: that interrupted work has
ended, that a head of an earlier lifecycle is settled, that the current intents have not
interrupted an operation, and that a control is the one its head names.
-/

namespace Rcoder.Lifecycle

open Effect Check Compute Store

namespace Compute

variable {db : Store} {record : ControlRecord}

theorem drainedOne_ok {id : String} (h : drainedOne db record id = .ok ()) :
    db.ledger.DrainedOne record id := by
  obtain ⟨business, hb, h⟩ := bind_eq_ok.mp h
  cases business with
  | some old =>
    obtain ⟨hold, h⟩ := failIf_bind h
    have hlease := not_not.mp (failIf_eq_ok.mp h)
    obtain ⟨hlife, hterm⟩ := not_or.mp hold
    obtain ⟨ho, happ, -⟩ := readOperation_some hb
    exact .inl ⟨old, ho, happ, not_not.mp hlife, by simpa using hterm, hlease⟩
  | none =>
    obtain ⟨control, hc, h⟩ := bind_eq_ok.mp h
    obtain ⟨old, rfl, h⟩ := demand_bind h
    have hold := failIf_eq_ok.mp h
    obtain ⟨hlife, hrest⟩ := not_or.mp hold
    obtain ⟨hended, hlease⟩ := not_or.mp hrest
    obtain ⟨hfound, happ⟩ := readControl_some hc
    exact .inr ⟨readOperation_none hb, old, hfound, happ, not_not.mp hlife,
      not_not.mp hended, not_not.mp hlease⟩

theorem drained_ok (h : drained db record = .ok ()) : db.ledger.Drained record :=
  fun id hid => drainedOne_ok (forM_eq_ok.mp h id hid)

variable {head : IntentRow} {scope : OperationScope}

theorem settledControl_ok {row : ControlRecord}
    (h : settledControl db head row = .ok ()) : db.ledger.SettledControl row := by
  obtain ⟨control, hd, hc⟩ := bind_eq_ok.mp h
  obtain rfl := decodeControl_ok hd
  obtain ⟨-, hc⟩ := failIf_bind hc
  obtain ⟨hsup, hc⟩ := failIf_bind hc
  obtain ⟨hlive, hc⟩ := failIf_bind hc
  refine ⟨by simpa using hlive, fun hs => ?_, drained_ok hc⟩
  have hnot : ¬(control.executorId ≠ none ∨ control.stage ≠ "accepted" ∨ control.lease ≠ none) :=
    fun hbad => hsup ⟨hs, hbad⟩
  obtain ⟨he, hrest⟩ := not_or.mp hnot
  obtain ⟨hstage, hlease⟩ := not_or.mp hrest
  exact ⟨not_not.mp he, not_not.mp hstage, not_not.mp hlease⟩

theorem validateSettledHead_ok (h : validateSettledHead db head = .ok ()) :
    db.ledger.SettledHead head := by
  obtain ⟨-, h⟩ := failIf_bind h
  obtain ⟨-, h⟩ := failIf_bind h
  obtain ⟨_, hall, -⟩ := bind_eq_ok.mp h
  intro id control hc happ hlife hscope
  refine settledControl_ok (forM_eq_ok.mp hall control ?_)
  exact List.mem_filter.mpr ⟨Table.find?_mem hc, by simpa using ⟨happ, hlife, hscope⟩⟩

inductive FindsHead (L : Ledger) (app : LifecycleRecord) (scope : OperationScope) :
    ScopedHead → Prop
  | absent (missing : L.head (app.appId, scope) = none) : FindsHead L app scope .absent
  | current {head : IntentRow} (stored : L.head (app.appId, scope) = some head)
      (same : head.lifecycleId = app.lifecycleId) : FindsHead L app scope (.current head)
  | historical {head : IntentRow} (stored : L.head (app.appId, scope) = some head)
      (earlier : head.lifecycleId ≠ app.lifecycleId) (settled : L.SettledHead head) :
      FindsHead L app scope (.historical head)

variable {app : LifecycleRecord} {found : ScopedHead}

theorem classifyHead_ok (hh : db.ledger.head (app.appId, scope) = some head)
    (h : classifyHead db app head = .ok found) : FindsHead db.ledger app scope found := by
  unfold classifyHead at h
  split at h
  · cases h
    exact .current hh ‹_›
  · obtain ⟨_, hsettled, h⟩ := bind_eq_ok.mp h
    cases h
    exact .historical hh ‹_› (validateSettledHead_ok hsettled)

theorem readScopedHead_ok (h : readScopedHead db app scope = .ok found) :
    FindsHead db.ledger app scope found := by
  unfold readScopedHead at h
  cases hh : db.intents.find? (app.appId, scope) with
  | none =>
    simp only [hh] at h
    cases h
    exact .absent hh
  | some =>
    simp only [hh] at h
    exact classifyHead_ok hh h

theorem namedControl_ok {missing : String} {found : Option ControlRecord}
    (h : namedControl db head missing = .ok found) :
    (head.controlOperationId = none ∧ found = none) ∨
      ∃ control, head.controlOperationId = some control.operationId ∧
        db.ledger.control control.operationId = some control ∧ control.appId = head.appId ∧
        found = some control := by
  unfold namedControl at h
  cases hid : head.controlOperationId with
  | none =>
    simp only [hid] at h
    cases h
    exact .inl ⟨rfl, rfl⟩
  | some =>
    simp only [hid] at h
    obtain ⟨read, hc, h⟩ := bind_eq_ok.mp h
    cases read with
    | none => simp [demand, throw, throwThe, MonadExceptOf.throw] at h
    | some control =>
      obtain ⟨hfound, happ⟩ := readControl_some hc
      have hkey := controlId_of_find hfound
      cases h
      exact .inr ⟨control, by rw [hkey], by rw [hkey]; exact hfound, happ, rfl⟩

theorem key_of_head {appId : String} (h : db.ledger.head (appId, scope) = some head) :
    head.appId = appId ∧ head.scope = scope := by
  have hkey := Table.find?_key h
  exact Prod.mk.inj hkey

end Compute

/-- The current intents have not interrupted the operation. -/
structure Ledger.Authorized (L : Ledger) (operation : OperationRecord) : Prop where
  application : ∃ app, L.Holds app ∧ app.appId = operation.appId ∧
    app.lifecycleId = operation.lifecycleId
  heads : ∀ scope ∈ Compute.environments operation.scope, ∀ head control,
    L.head (operation.appId, scope) = some head → head.lifecycleId = operation.lifecycleId →
    head.controlOperationId = some control.operationId →
    L.control control.operationId = some control →
    operation.operationId ∉ control.interruptedOperations

theorem Compute.checkBusinessAuthority_ok {db : Store} {operation : OperationRecord}
    (h : checkBusinessAuthority db operation = .ok ()) : db.ledger.Authorized operation := by
  obtain ⟨found, hf, h⟩ := bind_eq_ok.mp h
  obtain ⟨app, rfl, h⟩ := demand_bind h
  obtain ⟨hlife, h⟩ := failIf_bind h
  obtain ⟨hholds, happ⟩ := readApp_some hf
  have hlife := not_not.mp hlife
  refine ⟨⟨app, hholds, happ, hlife⟩, ?_⟩
  intro scope hscope head control hhead hsame hnamed hcontrol
  obtain ⟨named, hn, h⟩ := bind_eq_ok.mp (forM_eq_ok.mp h scope hscope)
  obtain ⟨read, hread, hn⟩ := bind_eq_ok.mp hn
  have hfinds := readScopedHead_ok hread
  rw [← happ] at hhead
  cases hfinds with
  | absent missing => rw [hhead] at missing; cases missing
  | historical stored earlier =>
    cases hhead.symm.trans stored
    exact absurd (hsame.trans hlife.symm) earlier
  | current stored =>
    cases hhead.symm.trans stored
    obtain ⟨hnone, -⟩ | ⟨found, hfid, hfound, -, rfl⟩ := namedControl_ok hn
    · rw [hnamed] at hnone
      cases hnone
    · have hid := Option.mem_unique hnamed hfid
      obtain rfl : control = found := by
        rw [hid] at hcontrol
        exact Option.mem_unique hcontrol hfound
      have hnot := failIf_eq_ok.mp h
      simpa using hnot

theorem Compute.gives_currentControl {db : Store} (identity : ExecutorIdentity) :
    Gives (currentControl identity) db fun control db' =>
      db' = db ∧ db.ledger.Current control ∧
        db.ledger.control control.operationId = some control ∧ control.isLive = true ∧
        control.appId = identity.appId ∧ control.operationId = identity.operationId ∧
        control.lifecycleId = identity.lifecycleId ∧ control.scope = identity.scope ∧
        control.generation = identity.generation ∧ control.scope ≠ .application := by
  refine .failIf_bind fun hscope => .fromExcept_bind fun _ _ => ?_
  refine (gives_readApp identity.appId).query_bind fun app ⟨hholds, happ, _⟩ => ?_
  refine .fromExcept_bind fun _ hactive => .failIf_bind fun hlife => ?_
  refine .get_bind (.demand_bind fun head hhead => .failIf_bind fun hnames => ?_)
  refine (gives_readControl identity.appId identity.operationId).query_bind
    fun control ⟨hc, hid, hcapp⟩ => ?_
  refine .failIf_bind fun hsame => .pure ?_
  obtain ⟨hl, hsame⟩ := not_or.mp hsame
  obtain ⟨hs, hsame⟩ := not_or.mp hsame
  obtain ⟨hg, hterm⟩ := not_or.mp hsame
  have hl := not_not.mp hl
  have hs := not_not.mp hs
  have hg := not_not.mp hg
  have hnames : headNames head identity = true := by simpa using hnames
  simp only [headNames, Bool.and_eq_true, decide_eq_true_eq] at hnames
  refine ⟨rfl, ⟨⟨app, hholds, happ.trans hcapp.symm, ?_, Domain.validateActive_ok hactive⟩,
    head, ?_, hnames.1.1.trans hl.symm, hnames.1.2.trans hg.symm, hnames.2.trans (by rw [hid])⟩,
    by rw [hid]; exact hc, by simpa [ControlRecord.isLive] using hterm, hcapp, hid, hl, hs, hg, ?_⟩
  · rw [hl]
    exact not_not.mp hlife
  · rw [hcapp, hs]
    exact hhead
  · rw [hs]
    exact (not_or.mp hscope).1

end Rcoder.Lifecycle
