import Rcoder.Lifecycle.RecoveryMoves

/-!
# Moves of compute admission and claims

Admission over the head of a scope, the claim with its cancellation of interrupted work, the
access check that lifts a completed stop, and the restoration of discovered applications.
-/

namespace Rcoder.Lifecycle

open Effect Ledger Function Check Store LifecycleRecord Domain

variable {db : Store} {act : Act}

theorem Ledger.put_setOperation_put (L : Ledger) (app app' : LifecycleRecord)
    {operation : OperationRecord} (h : app'.appId = app.appId) :
    ((L.put app).setOperation operation).put app' = (L.setOperation operation).put app' := by
  simp [put, setOperation, h]

namespace Compute

variable {id : String} {control : ControlRecord} {request : ControlRequest} {idleOnly : Bool}
  {app : LifecycleRecord} {found : DiscoveredIdentity}

theorem gives_updateControl {condition : ControlRecord → Bool}
    {change : ControlRecord → ControlRecord} {row : ControlRecord}
    (stored : db.ledger.control id = some row)
    (hkey : condition row = true → (change row).operationId = row.operationId) :
    Gives (updateControl id condition change) db fun _ db' =>
      condition row = true ∧ db'.ledger = db.ledger.setControl (change row) := by
  refine .get_bind (.demand_bind fun found hfound => .failIf_bind fun _ => ?_)
  obtain ⟨hfound, hcond⟩ := Option.filter_eq_some_iff.mp hfound
  obtain rfl : row = found := Option.mem_unique stored hfound
  have hid : row.operationId = id := Table.find?_key hfound
  refine .update ⟨hcond, ?_⟩
  exact ledger_setControl _ row (by rw [hkey hcond, hid]; exact hfound)

/-! ### Admission -/

theorem le_lastGeneration (db : Store) (appId : String) (scope : OperationScope)
    (hc : db.ledger.control id = some control) (happ : control.appId = appId)
    (hscope : control.scope = scope) :
    control.generation ≤ lastGeneration db appId scope := by
  refine (List.max?_eq_some_iff.mp List.max?_cons').2 _ (List.mem_cons_of_mem _ (List.mem_map.mpr
    ⟨control, List.mem_filter.mpr ⟨?_, ?_⟩, rfl⟩))
  · exact Table.find?_mem hc
  · simpa using ⟨happ, hscope⟩

/-- The head that an admission finds in its scope: one of its lifecycle, or one that it retires. -/
inductive TakesHead (L : Ledger) (app : LifecycleRecord) (scope : OperationScope) :
    Option IntentRow → Ledger → Prop
  | current {head : IntentRow} (stored : L.head (app.appId, scope) = some head)
      (same : head.lifecycleId = app.lifecycleId) : TakesHead L app scope (some head) L
  | retired (earlier : ∀ head, L.head (app.appId, scope) = some head →
        head.lifecycleId ≠ app.lifecycleId ∧ L.SettledHead head) :
      TakesHead L app scope none (L.dropHead app.appId scope)

theorem gives_takeHead (app : LifecycleRecord) (scope : OperationScope) :
    Gives (takeHead app scope) db fun taken db' =>
      TakesHead db.ledger app scope taken db'.ledger := by
  refine .reads_bind fun found hfound => ?_
  have hfinds := readScopedHead_ok hfound
  cases hfinds with
  | absent missing =>
    have hretired : TakesHead db.ledger app scope none _ := .retired fun head hhead => by
      rw [missing] at hhead
      cases hhead
    have hsame : db.ledger.dropHead app.appId scope = db.ledger := by
      rw [dropHead, ← missing, update_eq_self]
    rw [hsame] at hretired
    exact .pure hretired
  | current stored same => exact .pure (.current stored same)
  | historical stored earlier settled =>
    obtain ⟨hid, hs⟩ := key_of_head stored
    refine .update_bind (.pure ?_)
    rw [ledger_eraseHead, hid, hs]
    refine .retired fun head hhead => ?_
    cases stored.symm.trans hhead
    exact ⟨earlier, settled⟩

variable {handed : Inherited}

theorem inheritFrom_ok {old : ControlRecord} (h : inheritFrom request idleOnly old = .ok handed) :
    (old.isLive = false ∧ handed = ⟨old.interruptedOperations, none⟩) ∨
      (old.isLive = true ∧
        handed = ⟨old.interruptedOperations ++ [old.operationId], some old.operationId⟩) := by
  unfold inheritFrom at h
  by_cases hlive : old.isLive = true
  · rw [if_pos hlive] at h
    obtain ⟨-, h⟩ := failIf_bind h
    cases h
    exact .inr ⟨hlive, rfl⟩
  · rw [if_neg hlive] at h
    cases h
    exact .inl ⟨by simpa using hlive, rfl⟩

variable {old : Option ControlRecord}

theorem gives_supersede
    (hold : ∀ c, old = some c → db.ledger.control c.operationId = some c ∧ c.isLive = true) :
    Gives ((old.map ControlRecord.operationId).forM supersedeControl) db fun _ db' =>
      db'.ledger = db.ledger.supersede old := by
  cases old with
  | none => exact .pure rfl
  | some c =>
    refine .get_bind ?_
    have hf : (db.controls.find? c.operationId).filter (·.isLive) = some c :=
      Option.filter_eq_some_iff.mpr (hold c rfl)
    simp only [hf]
    exact .update (ledger_setControl (supersede c) c (hold c rfl).1)

theorem gives_insertControl (control : ControlRecord) :
    Gives (insertControl control) db fun _ db' =>
      db.ledger.control control.operationId = none ∧
        db'.ledger = db.ledger.setControl control := by
  refine .get_bind (.failIf_bind fun hfresh => .update ?_)
  have hnone := not_not.mp (not_or.mp hfresh).1
  exact ⟨hnone, ledger_insertControl hnone⟩

variable {L L' : Ledger} {taken : Option IntentRow}

theorem gives_pointHead {generation revision : Int}
    (htaken : TakesHead L app request.scope taken L') (hheads : db.ledger.head = L'.head)
    (happ : request.appId = app.appId) (hlife : request.lifecycleId = app.lifecycleId) :
    Gives (pointHead request taken generation revision) db fun _ db' =>
      ∃ head, (∀ ids now, Names head (admittedControl request generation ids now)) ∧
        db'.ledger = db.ledger.setHead head := by
  cases htaken with
  | @current head stored same =>
    rw [← hheads] at stored
    obtain ⟨hid, hs⟩ := key_of_head stored
    refine .update ⟨_, fun _ _ => ?_, ledger_setHead _ head ?_⟩
    · exact ⟨hid.trans happ.symm, hs, same.trans hlife.symm, rfl, rfl⟩
    simp only [hid, hs]
    exact stored
  | retired =>
    refine .update ⟨_, fun _ _ => ⟨rfl, rfl, rfl, rfl, rfl⟩, ledger_insertHead ?_⟩
    rw [happ]
    exact (congrFun hheads _).trans (update_self ..)

/-- What the operations of a new control's scope have been interrupted by. -/
theorem inherited_ok (htaken : TakesHead L app request.scope taken L')
    (h : inherited db request idleOnly taken = .ok handed)
    (hcontrols : db.ledger.control = L.control) (happ : request.appId = app.appId)
    (hlife : request.lifecycleId = app.lifecycleId) :
    ∃ old, handed.superseded = old.map ControlRecord.operationId ∧
      (∀ c, old = some c → L.control c.operationId = some c ∧ c.isLive = true) ∧
      ∀ generation ids now,
        L.Inherits (admittedControl request generation ids now) handed.interrupted old := by
  cases htaken with
  | retired earlier =>
    cases h
    refine ⟨none, rfl, by simp, fun _ _ _ => ?_⟩
    cases hh : L.head (request.appId, request.scope) with
    | none => exact .absent hh
    | some head =>
      obtain ⟨hne, hsettled⟩ := earlier head (happ ▸ hh)
      exact .historical hh (fun h => hne (h.trans hlife)) hsettled
  | @current head stored same =>
    rw [← happ] at stored
    rw [← hlife] at same
    obtain ⟨control, hc, h⟩ := bind_eq_ok.mp h
    obtain ⟨hunnamed, rfl⟩ | ⟨old, hnamed, hold, -, rfl⟩ := namedControl_ok hc
    · cases h
      exact ⟨none, rfl, by simp, fun _ _ _ => .unnamed stored same hunnamed⟩
    · rw [hcontrols] at hold
      obtain ⟨hended, rfl⟩ | ⟨hlive, rfl⟩ := inheritFrom_ok h
      · exact ⟨none, rfl, by simp, fun _ _ _ => .ended stored same hnamed hold hended⟩
      · refine ⟨some old, rfl, fun c hc => ?_, fun _ _ _ =>
          .superseded stored same hnamed hold hlive⟩
        obtain rfl := Option.some.inj hc
        exact ⟨hold, hlive⟩

theorem control_supersede (h : (L.supersede old).control id = none) : L.control id = none := by
  cases old with
  | none => exact h
  | some c =>
    by_cases hid : id = (Compute.supersede c).operationId
    · rw [hid] at h
      rw [show (L.supersede (some c)).control (Compute.supersede c).operationId = _ from
        control_setControl_self ..] at h
      cases h
    · exact (update_of_ne hid ..).symm.trans h

theorem gives_admitNew {now : Int} (hholds : db.ledger.Holds app) (hactive : app.state = .active)
    (happ : request.appId = app.appId) (hlife : request.lifecycleId = app.lifecycleId)
    (hscope : request.scope ≠ .application) :
    Gives (admitNew app request idleOnly now) db fun control db' =>
      ∃ new handed old head, new.operationId = request.operationId ∧ control = new ∧
        db.ledger.AdmitsControl app new handed old head ∧
        db'.ledger = ((db.ledger.supersede old).setControl new).setHead head := by
  refine .reads_bind fun active _ => .failIf_bind fun _ => .failIf_bind fun _ => ?_
  refine (gives_takeHead app request.scope).bind fun taken db₁ htaken => ?_
  refine .failIf_bind fun _ => .reads_bind fun handed hhanded => ?_
  refine .reads_bind fun generation hgeneration => .fromExcept_bind fun revision _ => ?_
  have hcontrols : db₁.ledger.control = db.ledger.control := by
    generalize db₁.ledger = L₁ at htaken
    cases htaken <;> rfl
  obtain ⟨old, hsuperseded, hold, hinherits⟩ := inherited_ok htaken hhanded hcontrols happ hlife
  rw [← hcontrols] at hold
  rw [hsuperseded]
  refine (gives_supersede hold).bind fun _ db₂ h₂ => (gives_insertControl _).bind fun _ db₃ h₃ => ?_
  obtain ⟨hfresh, h₃⟩ := h₃
  have hheads : db₃.ledger.head = db₁.ledger.head := by
    rw [h₃, h₂]
    cases old <;> rfl
  refine (gives_pointHead htaken hheads happ hlife).bind fun _ db₄ h₄ => ?_
  obtain ⟨head, hnames, h₄⟩ := h₄
  refine (gives_readControl request.appId request.operationId).mono fun control db₅ h₅ => ?_
  obtain ⟨rfl, hfound, -, -⟩ := h₅
  rw [h₄, h₃] at hfound
  cases (update_self ..).symm.trans hfound
  refine ⟨_, handed.interrupted, old, head, by rfl, rfl, ?_, ?_⟩
  · refine ⟨hholds, hactive, happ, hlife, hscope, ⟨rfl, rfl, rfl, rfl, rfl⟩, ?_, ?_,
      hinherits _ _ _, ?_, hnames _ _⟩
    · rw [h₂] at hfresh
      rw [← hcontrols]
      exact control_supersede hfresh
    · intro id control hc hcapp hcscope
      obtain rfl : generation = lastGeneration db₁ request.appId request.scope + 1 :=
        checkedSucc_eq_some (demand_eq_ok.mp hgeneration)
      have hle := le_lastGeneration db₁ request.appId request.scope (hcontrols ▸ hc) hcapp hcscope
      exact Int.lt_add_one_iff.mpr hle
    · simp [admittedControl, mem_sortDedup]
  · rw [h₄, h₃, h₂]
    -- the retired head is overwritten by the new one
    have hkey : (head.appId, head.scope) = (app.appId, request.scope) := by
      rw [(hnames [] now).appId, (hnames [] now).scope, ← happ]
      rfl
    generalize db₁.ledger = L₁ at htaken
    cases htaken with
    | current => rfl
    | retired => cases old <;> simp [setHead, dropHead, Ledger.supersede, setControl, hkey]

/-- A control as it was first admitted, or the application it is admitted to. -/
theorem gives_admitControl (request : ControlRequest) (idleOnly : Bool) (now : Int) :
    Gives (admitControl request idleOnly now) db fun control db' =>
      ∃ app, db.ledger.Holds app ∧ app.appId = request.appId ∧
        app.lifecycleId = request.lifecycleId ∧
        ((db'.ledger = db.ledger ∧ db.ledger.control control.operationId = some control) ∨
          ∃ new handed old head, new.operationId = request.operationId ∧ control = new ∧
            db.ledger.AdmitsControl app new handed old head ∧
            db'.ledger = ((db.ledger.supersede old).setControl new).setHead head) := by
  refine .fromExcept_bind fun _ hvalid => ?_
  have hscope : request.scope ≠ .application := by
    obtain ⟨_, -, h⟩ := bind_eq_ok.mp hvalid
    obtain ⟨_, -, h⟩ := bind_eq_ok.mp h
    obtain ⟨_, -, h⟩ := bind_eq_ok.mp h
    obtain ⟨_, -, h⟩ := bind_eq_ok.mp h
    obtain ⟨_, -, h⟩ := bind_eq_ok.mp h
    exact (failIf_bind h).1
  refine (quiet_claimApp request.appId db).bind fun _ db₁ h₁ => ?_
  rw [← h₁]
  refine (gives_readApp request.appId).query_bind fun app ⟨hholds, happ, _⟩ => ?_
  refine .fromExcept_bind fun _ hactive => .failIf_bind fun hlife => .get_bind ?_
  have hlife := not_not.mp hlife
  cases hreplay : replayedControl db₁ request with
  | some =>
    refine .failIf_bind fun _ => Gives.fromExcept.mono fun control db₃ h₃ => ?_
    obtain ⟨rfl, hdecode⟩ := h₃
    obtain rfl := decodeControl_ok hdecode
    refine ⟨app, hholds, happ, hlife, .inl ⟨rfl, ?_⟩⟩
    exact Table.find?_of_mem (List.mem_of_find?_eq_some hreplay)
  | none =>
    refine (gives_admitNew hholds (validateActive_ok hactive) happ.symm hlife.symm
      hscope).mono fun control db₃ h₃ => ?_
    exact ⟨app, hholds, happ, hlife, .inr h₃⟩

theorem performs_admitControl (request : ControlRequest) (idleOnly : Bool) (now : Int) :
    Performs (.admitControl request.operationId) (admitControl request idleOnly now) := by
  intro db
  refine (gives_admitControl request idleOnly now).mono fun _ db' h => ?_
  obtain ⟨app, -, -, -, ⟨heq, -⟩ | ⟨new, handed, old, head, hid, -, hadmits, heq⟩⟩ := h
  · exact .of_eq heq
  · rw [heq]
    exact .one (.admitControl hadmits (by rw [hid]))

/-! ### Claiming -/

/-- The slots that the loop has still to save are those of `app`; the ledger is read as if they
were saved already. -/
def Cancels (act : Act) (db : Store) (app app' : LifecycleRecord) (db' : Store) : Prop :=
  Moves act (db.ledger.put app) (db'.ledger.put app') ∧ app'.bare = app.bare ∧
    db'.ledger.root = db.ledger.root

variable {old : OperationRecord}

theorem gives_close {closed : OperationRecord} {app' : LifecycleRecord}
    (hslot : (db.ledger.put app).InSlot app old) (hlife : old.lifecycleId = app.lifecycleId)
    (hstep : OperationStep act app old closed) (hfollows : Follows app old closed.state app')
    (hbare : app'.bare = app.bare) :
    Gives (do
      saveOperation closed old
      deleteInput old.operationId
      pure app') db (Cancels act db app) := by
  refine (gives_saveOperation hslot.stored hstep.merge).bind fun _ db₁ h₁ =>
    (quiet_deleteInput _ db₁).bind fun _ db₂ h₂ => .pure ?_
  rw [h₁] at h₂
  refine ⟨?_, hbare, by rw [h₂]; rfl⟩
  have hmove : Move act (db.ledger.put app) _ := .touch hslot hlife hstep hfollows hbare
  rw [put_setOperation_put _ _ _ (same_of_bare hbare).1, ← h₂] at hmove
  exact .one hmove

theorem gives_cancelWake (hstored : db.ledger.operation old.operationId = some old)
    (happ : old.appId = app.appId) (hread : Readable old) (hwake : confirmedWake old = true) :
    Gives (cancelWake control app old) db (Cancels act db app) := by
  simp only [confirmedWake, Bool.and_eq_true, decide_eq_true_eq] at hwake
  obtain ⟨⟨⟨⟨hkind, hrec⟩, -⟩, -⟩, -⟩ := hwake
  refine .reads_bind fun _ _ => .demand_bind fun executorId _ => ?_
  refine .demand_bind fun checkpoint _ => .fromExcept_bind fun result hresult => ?_
  obtain ⟨app', closed⟩ := result
  have hadv := advance_ok hresult
  have houtcome : HopOutcome old .failed := trivial
  have hstep : OperationStep act app old closed := .hop hrec houtcome hadv
  have hcloses : Closes app old .failed app' := by
    have hfollows := hadv.follows_of_hop
    rw [hadv.state] at hfollows
    exact hfollows.of_terminal rfl
  have hbare : app'.bare = app.bare := by
    rw [hcloses.unpublished nofun]
    simp [vacate, bare, OperationKind.endsLifecycle, hkind]
  exact gives_close ⟨holds_put .., hstored, happ, hadv.inSlot, hread⟩ hadv.operationLifecycle hstep
    hadv.follows_of_hop hbare

theorem gives_cancelPending (hstored : db.ledger.operation old.operationId = some old)
    (happ : old.appId = app.appId) (hlife : old.lifecycleId = app.lifecycleId)
    (hread : Readable old) (hpending : old.state = .pending) :
    Gives (cancelPending control app old) db (Cancels act db app) := by
  refine .get_bind (.failIf_bind fun hconsistent => .reads_bind fun _ _ => ?_)
  obtain ⟨-, hconsistent⟩ := not_or.mp hconsistent
  obtain ⟨hexec, hconsistent⟩ := not_or.mp hconsistent
  obtain ⟨hends, hconsistent⟩ := not_or.mp hconsistent
  obtain ⟨hslot, -⟩ := not_or.mp hconsistent
  have hends : old.kind.endsLifecycle = false := by simpa using hends
  have hstep : OperationStep act app old (cancelled control old) :=
    .cancel control hpending (not_not.mp hexec) hends
  have hfollows : Follows app old .failed
      { app with activeOperations := app.activeOperations.set old.scope none } := by
    refine (if_pos rfl).mpr ⟨⟨rfl, rfl, rfl, .refl _⟩, ?_, rfl, fun _ => ?_⟩
    · simp [closedState, hends]
    · simp [vacate, hends]
  exact gives_close
    ⟨holds_put .., hstored, happ, by simpa [slotMatchesOperation] using hslot, hread⟩ hlife
    hstep hfollows rfl

theorem gives_cancelOne (act : Act) (happ : app.appId = control.appId)
    (hlife : app.lifecycleId = control.lifecycleId) :
    Gives (cancelOne control app id) db (Cancels act db app) := by
  refine .reads_bind fun found hfound => ?_
  cases found with
  | none => exact .pure ⟨.refl _, rfl, rfl⟩
  | some old =>
    obtain ⟨hstored, holdApp, hread⟩ := readOperation_some hfound
    rw [← operationId_of_find hstored] at hstored
    have happ : old.appId = app.appId := holdApp.trans happ.symm
    refine .failIf_bind fun hold => ?_
    have hlife : old.lifecycleId = app.lifecycleId := (not_not.mp hold).trans hlife.symm
    refine .ite (fun hwake => gives_cancelWake hstored happ hread hwake) fun _ => ?_
    refine .ite (fun hp => gives_cancelPending hstored happ hlife hread hp) fun _ => ?_
    exact .pure ⟨.refl _, rfl, rfl⟩

theorem gives_cancelEach (act : Act) (ids : List String) :
    ∀ (db : Store) (app : LifecycleRecord), app.appId = control.appId →
      app.lifecycleId = control.lifecycleId →
      Gives (cancelEach control ids app) db (Cancels act db app) := by
  induction ids with
  | nil => exact fun _ _ _ _ => .pure ⟨.refl _, rfl, rfl⟩
  | cons id ids ih =>
    intro db app happ hlife
    refine (gives_cancelOne act happ hlife).bind fun app₁ db₁ h₁ => ?_
    obtain ⟨hmoves, hbare, hroot⟩ := h₁
    obtain ⟨happ₁, hlife₁⟩ := same_of_bare hbare
    refine (ih db₁ app₁ (happ₁.trans happ) (hlife₁.trans hlife)).mono fun app₂ db₂ h₂ => ?_
    obtain ⟨hmoves₂, hbare₂, hroot₂⟩ := h₂
    exact ⟨hmoves.trans hmoves₂, hbare₂.trans hbare, hroot₂.trans hroot⟩

theorem performs_cancelInterruptibleBusiness (act : Act)
    (hlife : ∀ app, db.ledger.Holds app → app.appId = control.appId →
      app.lifecycleId = control.lifecycleId) :
    Gives (cancelInterruptibleBusiness control) db fun _ db' =>
      Moves act db.ledger db'.ledger := by
  refine (gives_readApp control.appId).query_bind fun before ⟨hholds, happ, _⟩ => ?_
  refine (gives_cancelEach act _ db before happ (hlife before hholds happ)).bind
    fun app db₂ h₂ => ?_
  obtain ⟨hmoves, hbare, hroot⟩ := h₂
  rw [put_of_holds hholds] at hmoves
  refine (gives_saveSlots app before).mono fun _ db₃ h₃ => ?_
  obtain ⟨happ₂, -⟩ := same_of_bare hbare
  have hput : db₃.ledger = db₂.ledger.put app := by
    have hsame : update db₂.ledger.root app.appId (some app.bare) = db₂.ledger.root := by
      rw [hbare, happ₂, ← hholds.1, ← hroot, update_eq_self]
    rw [h₃.2, put, hsame]
  rw [hput]
  exact hmoves

theorem gives_claimControl (identity : ExecutorIdentity) (revision : Int) :
    Gives (claimControl identity revision) db fun _ db' =>
      ∃ control, db.ledger.Current control ∧ control.appId = identity.appId ∧
        control.lifecycleId = identity.lifecycleId ∧ Moves act db.ledger db'.ledger := by
  refine (quiet_claimApp identity.appId db).bind fun _ db₁ h₁ => ?_
  rw [← h₁]
  refine (gives_currentControl identity).query_bind
    fun control ⟨hcurrent, hstored, _, happ, hid, hlife, _⟩ => ?_
  refine .failIf_bind fun hclaim => .demand_bind fun next hnext => ?_
  obtain ⟨hrev, hclaim⟩ := not_or.mp hclaim
  obtain ⟨hpending, hexec⟩ := not_or.mp hclaim
  have hpending := not_not.mp hpending
  have hexec := not_not.mp hexec
  obtain rfl := checkedSucc_eq_some hnext
  refine .bind (gives_updateControl (hid ▸ hstored) fun _ => rfl) fun _ db₃ ⟨_, h₃⟩ => ?_
  have hmove : Move act db₁.ledger db₃.ledger := by
    rw [h₃, ← not_not.mp hrev]
    refine .control hstored (.claim identity.executorId hpending hexec) fun hstage => ?_
    have hne : "draining_previous" ≠ "stopping" := by decide
    exact absurd hstage hne
  obtain ⟨app, hholds, happApp, happLife, -⟩ := hcurrent.application
  have hsame : ∀ other, db₃.ledger.Holds other → other.appId = control.appId →
      other.lifecycleId = control.lifecycleId := by
    intro other hother hsame
    rw [h₃] at hother
    rw [hother.eq hholds (hsame.trans happApp.symm)]
    exact happLife
  refine (performs_cancelInterruptibleBusiness act hsame).bind fun _ db₄ h₄ =>
    (gives_readControl _ _).mono fun _ db₅ h₅ => ?_
  obtain ⟨rfl, -⟩ := h₅
  exact ⟨control, hcurrent, happ, hlife, (Moves.one hmove).trans h₄⟩

theorem performs_claimControl (identity : ExecutorIdentity) (revision : Int) :
    Performs act (claimControl identity revision) :=
  fun _ => (gives_claimControl identity revision).mono fun _ _ ⟨_, _, _, _, h⟩ => h

/-! ### Access -/

/-- What an access check has done: nothing, or it has freed a head whose control has ended. -/
theorem gives_checkAccess (appId : String) (scope : OperationScope) (explicitStart : Bool) :
    Gives (checkAccess appId scope explicitStart) db fun _ db' =>
      db'.ledger = db.ledger ∨ ∃ head, explicitStart = true ∧
        db.ledger.head (appId, scope) = some head ∧ head.desiredState = .stopped ∧
        (∀ id control, head.controlOperationId = some id → db.ledger.control id = some control →
          control.isLive = false) ∧
        db'.ledger = db.ledger.setHead { head with
          desiredState := .running, controlOperationId := none, revision := head.revision + 1 } := by
  refine (Gives.onlyIf (fun _ => quiet_claimApp appId db) fun _ => rfl).bind fun _ db₁ h₁ => ?_
  rw [← h₁]
  refine Gives.get_bind ?_
  cases hhead : db₁.intents.find? (appId, scope) with
  | none => exact .pure (.inl rfl)
  | some head =>
    have hstored : db₁.ledger.head (appId, scope) = some head := hhead
    obtain ⟨hid, hs⟩ := key_of_head hstored
    refine .reads_bind fun found hfound => Gives.demand_bind fun app happ => ?_
    obtain rfl := happ
    obtain ⟨-, happ⟩ := readApp_some hfound
    refine (Gives.onlyIf
      (fun _ => Gives.fromExcept.mono fun _ _ h => h.1) fun _ => rfl).bind fun _ db₂ h₂ => ?_
    obtain rfl := h₂
    refine .reads_bind fun classified hclassified => ?_
    rw [← happ] at hstored
    have hfinds := classifyHead_ok hstored hclassified
    cases hfinds with
    | absent | historical => exact .pure (.inl rfl)
    | @current found stored =>
      obtain rfl : head = found := by
        rw [happ] at stored
        exact Option.mem_unique hhead stored
      refine .reads_bind fun control hcontrol => ?_
      cases hlive : control.filter (·.isLive) with
      | some => exact .throw
      | none =>
        refine .ite (fun hstopped => ?_) fun _ => .pure (.inl rfl)
        refine .failIf_bind fun hexplicit => .update (.inr ⟨head, ?_, hhead, hstopped, ?_, ?_⟩)
        · simpa using hexplicit
        · intro id found hnamed hfound
          obtain ⟨hnone, -⟩ | ⟨named, hnid, hn, -, rfl⟩ := namedControl_ok hcontrol
          · rw [hnone] at hnamed
            cases hnamed
          · cases hnid.symm.trans hnamed
            cases hn.symm.trans hfound
            simpa [Option.filter] using hlive
        · exact ledger_setHead _ head (by rw [hid, hs]; exact hhead)

theorem performs_checkAccess (appId : String) (scope : OperationScope) (explicitStart : Bool) :
    Performs (.release appId scope) (checkAccess appId scope explicitStart) := by
  intro db
  refine (gives_checkAccess appId scope explicitStart).mono fun _ db' h => ?_
  obtain heq | ⟨head, -, hhead, -, hended, heq⟩ := h
  · exact .of_eq heq
  · obtain ⟨hid, hs⟩ := key_of_head hhead
    rw [heq]
    refine .one (.release (by rw [hid, hs]; exact hhead) hended rfl (by rw [hid, hs]))

/-! ### Restoration -/

theorem performs_insertStoppedIntent (act : Act) {scope : OperationScope} {stopped : Bool}
    (hholds : db.ledger.Holds app) (happ : found.appId = app.appId)
    (hlife : found.lifecycleId = app.lifecycleId) (hscope : scope ≠ .application) :
    Gives (insertStoppedIntent found scope stopped) db fun _ db' =>
      Moves act db.ledger db'.ledger ∧ db'.ledger.Holds app := by
  refine .get_bind (.onlyIf (fun h => .update ?_) fun _ => ⟨.refl _, hholds⟩)
  rw [ledger_insertHead h.2]
  exact ⟨.one (.openHead hholds happ hlife hscope h.2 rfl), hholds⟩

theorem performs_recordDiscovery (act : Act) (hholds : db.ledger.Holds app)
    (happ : found.appId = app.appId) (hlife : found.lifecycleId = app.lifecycleId) :
    Gives (recordDiscovery found) db fun _ db' => Moves act db.ledger db'.ledger := by
  refine .get_bind (.failIf_bind fun _ => .update_bind ?_)
  refine .bind (performs_insertStoppedIntent act hholds happ hlife (by decide))
    fun _ db₁ h₁ => ?_
  exact (performs_insertStoppedIntent act h₁.2 happ hlife (by decide)).mono
    fun _ _ h₂ => h₁.1.trans h₂.1

theorem performs_restoreMissingRoot (found : DiscoveredIdentity) (now : Int) :
    Performs act (restoreMissingRoot found now) := by
  intro db
  refine .fromExcept_bind fun proposed hproposed => ?_
  obtain ⟨start, hid, -⟩ := identity_ok hproposed
  refine (gives_ensureWithCreated proposed start).bind fun result db₁ h₁ => ?_
  obtain ⟨hopens, hholds, happ, -⟩ := h₁
  refine .fromExcept_bind fun _ _ => .failIf_bind fun hlife => ?_
  refine (Gives.onlyIf
    (fun _ => performs_recordDiscovery act hholds (hid.symm.trans happ.symm)
      (not_not.mp hlife).symm) fun _ => .refl _).bind fun _ db₂ h₂ => .pure ?_
  exact (hopens.moves start).trans h₂

/-- An unused root has only work that was rejected, and no intent or control. -/
theorem rootIsUsed_false (h : ¬rootIsUsed db app = true) :
    (∀ id operation, db.ledger.operation id = some operation → operation.appId = app.appId →
        operation.state.isTerminal = true) ∧
      (∀ id control, db.ledger.control id = some control → control.appId ≠ app.appId) ∧
      ∀ scope, db.ledger.head (app.appId, scope) = none := by
  simp only [rootIsUsed, Bool.or_eq_true, not_or, Bool.not_eq_true, List.any_eq_false,
    Bool.and_eq_true, decide_eq_true_eq] at h
  obtain ⟨⟨⟨⟨⟨⟨⟨⟨⟨hops, -⟩, -⟩, -⟩, -⟩, -⟩, -⟩, hheads⟩, hcontrols⟩, -⟩ := h
  refine ⟨fun id operation ho happ => ?_, fun id control hc => hcontrols _ (Table.find?_mem hc),
    fun scope => ?_⟩
  · have hfailed := hops operation (Table.find?_mem ho)
    have hstate : operation.state = .failed := by
      by_contra hne
      exact hfailed ⟨happ, .inl (.inl (.inr hne))⟩
    rw [hstate]
    rfl
  · cases hh : db.ledger.head (app.appId, scope) with
    | none => rfl
    | some head => exact absurd (key_of_head hh).1 (hheads head (Table.find?_mem hh))

theorem gives_restoreUnprovisionedRoot (act : Act) (hholds : db.ledger.Holds app)
    (hactive : app.state = .active) (hchanged : app.lifecycleId ≠ found.lifecycleId) :
    Gives (restoreUnprovisionedRoot app found) db fun next db' =>
      Moves act db.ledger db'.ledger ∧ db'.ledger.Holds next ∧ next.appId = app.appId ∧
        next.lifecycleId = found.lifecycleId := by
  refine .failIf_bind fun hfirst => .get_bind (.failIf_bind fun hused => ?_)
  obtain ⟨hepoch, hfirst⟩ := not_or.mp hfirst
  have hempty := not_not.mp (not_or.mp hfirst).2
  obtain ⟨hops, hcontrols, hheads⟩ := rootIsUsed_false hused
  have hreplace : Gives (replaceSlots (rebound app found) app.lifecycleId) db fun _ db' =>
      db'.ledger = { db.ledger with
        slots := update db.ledger.slots app.appId (some ⟨app.appId, found.lifecycleId, {}⟩)
      } := by
    refine .get_bind (.failIf_bind fun _ => .update ?_)
    obtain ⟨erased, herased⟩ : ∃ erased : Store,
      erased = { db with slots := db.slots.erase app.appId } := ⟨_, rfl⟩
    have hnone : erased.slots.find? app.appId = none := by
      rw [herased]
      exact Table.find?_erase_self
    have hinsert := ledger_insertSlots ⟨app.appId, found.lifecycleId, {}⟩ hnone
    rw [herased, ledger_eraseSlots app.appId db.activity] at hinsert
    refine hinsert.trans ?_
    simp
  refine hreplace.bind fun _ db₁ h₁ => ?_
  refine (gives_saveApp _ _ _).bind fun _ db₂ h₂ => .pure ?_
  have hslots : (rebound app found).activeOperations = {} := hempty
  have hsaved : db₂.ledger = db.ledger.saveApp (rebound app found) := by
    have hhistory : db₁.history = db.history := congrArg Ledger.history h₁
    rw [h₂, h₁, hhistory]
    simp only [Ledger.saveApp, put, slotsRow, hslots]
    rfl
  have hnext : { rebound app found with activeOperations := {} } = rebound app found := by
    rw [← hslots]
  rw [hnext, hsaved]
  refine ⟨.one (.rebind hholds hactive hempty (not_not.mp hepoch) ⟨rfl, rfl, hactive, hslots⟩
    hchanged.symm hops hcontrols hheads), holds_put .., rfl, rfl⟩

theorem performs_restoreIdentity (found : DiscoveredIdentity) (now : Int) :
    Performs act (restoreIdentity found now) := by
  intro db
  refine Gives.fromExcept_bind fun _ _ => Gives.reads_bind fun existing _ => ?_
  cases existing with
  | none => exact performs_restoreMissingRoot found now db
  | some =>
    refine Performs.after (quiet_claimApp _) fun _ db₁ _ => ?_
    refine (gives_readApp found.appId).query_bind fun app ⟨hholds, happ, _⟩ => ?_
    refine Gives.fromExcept_bind fun _ hactive => ?_
    refine .ite (fun _ => .pure (.refl _)) fun hne => ?_
    refine (gives_restoreUnprovisionedRoot act hholds (validateActive_ok hactive)
      hne).bind fun next db₃ h₃ => ?_
    obtain ⟨hmoves, hholds₃, happ₃, hlife₃⟩ := h₃
    refine .fromExcept_bind fun _ _ => ?_
    refine (performs_recordDiscovery act hholds₃ (happ.symm.trans happ₃.symm)
      hlife₃.symm).bind fun _ db₄ h₄ => .pure (hmoves.trans h₄)

end Compute

end Rcoder.Lifecycle
