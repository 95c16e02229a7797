import Rcoder.Lifecycle.Incarnations

/-!
# Recreations

A deleted application is recreated under a new lifecycle id. Each entry point compares lifecycle
ids for itself; since no id comes back, whatever names the old incarnation is refused from then
on. The recreation looks for unresolved controls only where a head is left, and it finds them
all: a control of the current incarnation has a head.
-/

namespace Rcoder.Lifecycle

open Effect Ledger Operations Sample ApplicationRow

namespace Ledger

variable {act : Act} {L L' : Ledger}

/-- Controls of the current incarnation have a head. -/
def HeadedNow (L : Ledger) : Prop :=
  ∀ id control app, L.control id = some control → L.Holds app → app.appId = control.appId →
    app.lifecycleId = control.lifecycleId →
    ∃ head, L.head (control.appId, control.scope) = some head

/-- Controls belong to logged incarnations, and those of the current one have a head. -/
structure Governed (L : Ledger) : Prop where
  logged : ∀ id control, L.control id = some control → ∃ version ∈ L.history.applications,
    version.appId = control.appId ∧ version.lifecycleId = control.lifecycleId
  headed : L.HeadedNow

namespace Governed

theorem empty : (Store.ledger {}).Governed :=
  ⟨fun _ control h => absurd h.symm (Option.some_ne_none control),
    fun _ control _ h => absurd h.symm (Option.some_ne_none control)⟩

variable (h : L.Governed)
include h

/-- Controls are as they were, heads are not fewer, and applications are as they were or have no
control of their own. -/
theorem keep
    (controls : ∀ id found, L'.control id = some found →
      ∃ control, L.control id = some control ∧ SameControl control found)
    (heads : ∀ key head, L.head key = some head → ∃ head', L'.head key = some head')
    (apps : ∀ app', L'.Holds app' → (∃ app, L.Holds app ∧ app.appId = app'.appId ∧
        app.lifecycleId = app'.lifecycleId) ∨
      ∀ id control, L.control id = some control → control.appId = app'.appId →
        control.lifecycleId ≠ app'.lifecycleId) : HeadedNow L' := by
  intro id found app' hf ha happ hlife
  obtain ⟨control, hc, hsame⟩ := controls id found hf
  obtain ⟨app, hholds, happ', hlife'⟩ | hnone := apps app' ha
  · obtain ⟨head, hh⟩ := h.headed id control app hc hholds
      (happ'.trans (happ.trans hsame.appId)) (hlife'.trans (hlife.trans hsame.lifecycleId))
    rw [hsame.appId, hsame.scope]
    exact heads _ head hh
  · refine absurd ?_ (hnone id control hc ?_)
    · rw [hlife, hsame.lifecycleId]
    · rw [happ, hsame.appId]

theorem put {app app' : LifecycleRecord} (holds : L.Holds app) (same : SameIncarnation app app')
    (hroot : L'.root = (L.put app').root) (hslots : L'.slots = (L.put app').slots)
    (hcontrol : L'.control = L.control) (hhead : L'.head = L.head) : HeadedNow L' := by
  refine h.keep (fun id found hf => ?_) (fun key head hh => ?_) fun other ho => .inl ?_
  · rw [hcontrol] at hf
    exact ⟨found, hf, .refl found⟩
  · rw [hhead]
    exact ⟨head, hh⟩
  · rw [Holds, hroot, hslots] at ho
    obtain rfl | ⟨-, ho⟩ := L.holds_put_iff.mp ho
    · exact ⟨app, holds, same.appId.symm, same.lifecycleId.symm⟩
    · exact ⟨other, ho, rfl, rfl⟩

theorem setHead (head : IntentRow) : HeadedNow (L.setHead head) := by
  refine h.keep (fun id found hf => ⟨found, hf, .refl found⟩) (fun key found hh => ?_)
    fun app ha => .inl ⟨app, ha, rfl, rfl⟩
  by_cases hkey : key = (head.appId, head.scope)
  · exact ⟨head, by rw [hkey]; exact head_setHead_self L head⟩
  · exact ⟨found, head_setHead.mpr (.inr ⟨hkey, hh⟩)⟩

theorem admitControl {app : LifecycleRecord} {new : ControlRecord}
    {handed : List String} {old : Option ControlRecord} {head : IntentRow}
    (admits : L.AdmitsControl app new handed old head) :
    HeadedNow (((L.supersede old).setControl new).setHead head) := by
  obtain ⟨hroot, hslots, hhead⟩ : (L.supersede old).root = L.root ∧
      (L.supersede old).slots = L.slots ∧ (L.supersede old).head = L.head := by
    cases old <;> exact ⟨rfl, rfl, rfl⟩
  intro id found other hf ho happ hlife
  have ho : (L.supersede old).Holds other := ho
  rw [Holds, hroot, hslots] at ho
  by_cases hfound : (found.appId, found.scope) = (head.appId, head.scope)
  · exact ⟨head, by rw [hfound]; exact head_setHead_self _ head⟩
  · obtain ⟨-, rfl⟩ | ⟨-, before, hb, hsame, -⟩ := admits.found hf
    · exact absurd (by rw [admits.names.appId, admits.names.scope]) hfound
    · obtain ⟨kept, hk⟩ := h.headed id before other hb ho (happ.trans hsame.appId)
        (hlife.trans hsame.lifecycleId)
      refine ⟨kept, head_setHead.mpr (.inr ⟨hfound, ?_⟩)⟩
      change (L.supersede old).head _ = _
      rw [hhead, hsame.appId, hsame.scope]
      exact hk

theorem renew {app next : LifecycleRecord} (hnext : next.appId = app.appId)
    (hnone : ∀ id control, L.control id = some control → control.appId = next.appId →
      control.lifecycleId ≠ next.lifecycleId) (hroot : L'.root = (L.put next).root)
    (hslots : L'.slots = (L.put next).slots) (hcontrol : L'.control = L.control)
    (heads : ∀ id scope head, id ≠ app.appId → L.head (id, scope) = some head →
      L'.head (id, scope) = some head) : HeadedNow L' := by
  intro id control other hc ho happ hlife
  rw [hcontrol] at hc
  rw [Holds, hroot, hslots] at ho
  obtain rfl | ⟨hne, ho⟩ := L.holds_put_iff.mp ho
  · exact absurd hlife.symm (hnone id control hc happ.symm)
  · obtain ⟨head, hh⟩ := h.headed id control other hc ho happ hlife
    refine ⟨head, heads _ _ head ?_ hh⟩
    rw [← happ, ← hnext]
    exact hne

theorem logged_move (hlog : L.ApplicationsLogged) (hm : Move act L L')
    {id : String} {control : ControlRecord} (hc : L'.control id = some control) :
    ∃ version ∈ L'.history.applications,
      version.appId = control.appId ∧ version.lifecycleId = control.lifecycleId := by
  obtain ⟨-, -, _, _, _, _, admits⟩ | ⟨before, hb, hsame, -⟩ := hm.control_found hc
  · obtain ⟨version, hv, hbare, hid⟩ := hlog.mem admits.holds.1
    obtain ⟨-, hlife⟩ := LifecycleRecord.same_of_bare hbare
    exact ⟨version, hm.applications_mono hv, hid.trans admits.appId.symm,
      hlife.trans admits.lifecycleId.symm⟩
  · obtain ⟨version, hv, hvapp, hvlife⟩ := h.logged id before hb
    exact ⟨version, hm.applications_mono hv, hvapp.trans hsame.appId.symm,
      hvlife.trans hsame.lifecycleId.symm⟩

/-- A move keeps controls under heads, if the lifecycle id that it draws is new. -/
theorem move (hlog : L.ApplicationsLogged) (hm : Move act L L') (fresh : ∀ id, act = .recreate id →
      ∀ version ∈ L.history.applications, version.lifecycleId ≠ id) : L'.Governed := by
  refine ⟨fun _ _ => h.logged_move hlog hm, ?_⟩
  have hrows : L'.control = L.control → L'.head = L.head → L'.root = L.root →
      L'.slots = L.slots → HeadedNow L' := by
    intro hc hh hroot hslots
    refine h.keep (fun id found hf => ⟨found, by rwa [hc] at hf, .refl found⟩)
      (fun key head hk => ⟨head, by rw [hh]; exact hk⟩) fun app ha => .inl ⟨app, ?_, rfl, rfl⟩
    rwa [Holds, hroot, hslots] at ha
  cases hm with
  | @openRoot app missing =>
    have hsame : app.appId = app.appId := rfl
    refine h.renew hsame (fun id control hc happ _ => ?_) rfl rfl rfl fun _ _ _ _ hh => hh
    obtain ⟨version, hv, hvapp, -⟩ := h.logged id control hc
    obtain ⟨root, hroot⟩ := hlog.root_of_mem hv
    rw [hvapp, happ, missing] at hroot
    cases hroot
  | patch holds same => exact h.put holds same rfl rfl rfl rfl
  | accept holds _ accepted => exact h.put holds accepted.same rfl rfl rfl rfl
  | step inSlot _ _ follows => exact h.put inSlot.holds follows.same rfl rfl rfl rfl
  | touch inSlot _ _ follows => exact h.put inSlot.holds follows.same rfl rfl rfl rfl
  | @recreate app next row _ _ _ _ following _ _ _ _ by_recreate =>
    refine h.renew following.appId (fun id control hc _ hlife => ?_) rfl rfl rfl
      fun id scope head hne hh => ?_
    · obtain ⟨version, hv, -, hvlife⟩ := h.logged id control hc
      exact fresh _ by_recreate version hv (hvlife.trans hlife)
    · simpa [setRequest, saveApp, Ledger.put, dropHead, Function.update, hne] using hh
  | @rebind app next _ _ _ _ following _ _ controls =>
    refine h.renew following.appId (fun id control hc happ _ => ?_) rfl rfl rfl
      fun _ _ _ _ hh => hh
    exact controls id control hc (happ.trans following.appId)
  | openHead | release => exact h.setHead _
  | admitControl admits => exact h.admitControl admits
  | control stored step =>
    refine h.keep (fun id found hf => ?_) (fun key head hh => ⟨head, hh⟩)
      fun app ha => .inl ⟨app, ha, rfl, rfl⟩
    obtain ⟨before, hb, hsame, -⟩ := control_turned stored step hf
    exact ⟨before, hb, hsame⟩
  | nameRequest | bindLease | forgetLease => exact hrows rfl rfl rfl rfl

end Governed

end Ledger

/-! ### What names an incarnation -/

/-- A request of the executors and clients of an incarnation, by its lifecycle id; an admission
may leave the id out. -/
def Op.AddressedTo (appId lifecycleId : String) : Op → Prop
  | .admitWithConfiguration request _ _ _ => request.appId = appId ∧
      (request.lifecycleId = some lifecycleId ∨ request.lifecycleId = none)
  | .advance progress => progress.appId = appId ∧ progress.lifecycleId = lifecycleId
  | .commitResourceBinding _ progress => progress.appId = appId ∧
      progress.lifecycleId = lifecycleId
  | .bindOperationLease context _ => context.appId = appId ∧ context.lifecycleId = lifecycleId
  | .admitControl request _ _ => request.appId = appId ∧ request.lifecycleId = lifecycleId
  | .claimControl identity _ => identity.appId = appId ∧ identity.lifecycleId = lifecycleId
  | .bindLease identity _ => identity.appId = appId ∧ identity.lifecycleId = lifecycleId
  | .advanceControl progress => progress.identity.appId = appId ∧
      progress.identity.lifecycleId = lifecycleId
  | _ => False

variable {appId requestId : String} {fresh : Fresh} {app next : LifecycleRecord} {s : Store}

/-- What is answered finds the application in the incarnation that it names, or in its first. -/
theorem store_addressed {op : Op} {answer : Answer} {lifecycleId : String}
    (hexec : (store.exec s op).1 = .ok answer) (h : op.AddressedTo appId lifecycleId)
    (hroot : s.ledger.root appId ≠ none) :
    ∃ app, s.ledger.Holds app ∧ app.appId = appId ∧
      (app.lifecycleId = lifecycleId ∨ app.lifecycleEpoch ≤ 1) := by
  have hcurrent : ∀ {control : ControlRecord}, s.ledger.Current control →
      control.appId = appId → control.lifecycleId = lifecycleId →
      ∃ app, s.ledger.Holds app ∧ app.appId = appId ∧
        (app.lifecycleId = lifecycleId ∨ app.lifecycleEpoch ≤ 1) := by
    intro control hc happ hlife
    obtain ⟨app, hholds, hid, hsame, -⟩ := hc.application
    exact ⟨app, hholds, hid.trans happ, .inl (hsame.trans hlife)⟩
  cases op with
  | admitWithConfiguration request input pg fresh =>
    obtain ⟨rfl, hlife⟩ := h
    obtain ⟨_, _, ⟨h⟩⟩ := store_answered hexec
      (gives_respond (gives_admitWithConfiguration request input pg fresh))
    refine ⟨h.app, h.holds_of_root hroot, h.sameApp, ?_⟩
    obtain ⟨hnamed, hlater⟩ := not_or.mp (Check.failIf_eq_ok.mp h.lifecycle)
    obtain hl | hl := hlife
    · rw [hl] at hnamed
      have heq : lifecycleId = h.app.lifecycleId := by simpa using hnamed
      exact .inl heq.symm
    · exact .inr (not_lt.mp fun hlt => hlater ⟨hlt, hl⟩)
  | advance progress =>
    obtain ⟨rfl, rfl⟩ := h
    obtain ⟨_, _, ⟨h⟩⟩ := store_answered hexec (gives_respond (gives_advance progress))
    exact ⟨h.app, h.inSlot.holds, h.appId, .inl h.advanced.lifecycle⟩
  | commitResourceBinding binding progress =>
    obtain ⟨rfl, rfl⟩ := h
    obtain ⟨_, _, -, ⟨h⟩⟩ :=
      store_answered hexec (gives_respond (gives_commitResourceBinding binding progress))
    exact ⟨h.app, h.inSlot.holds, h.appId, .inl h.advanced.lifecycle⟩
  | bindOperationLease context receipt =>
    obtain ⟨rfl, rfl⟩ := h
    obtain ⟨_, _, ⟨h⟩⟩ :=
      store_answered hexec (gives_respond (gives_bindOperationLease context receipt))
    exact ⟨h.app, h.inSlot.holds, h.appId, .inl h.lifecycle⟩
  | admitControl request idleOnly now =>
    obtain ⟨rfl, rfl⟩ := h
    obtain ⟨_, _, app, hholds, happ, hlife, -⟩ :=
      store_answered hexec (gives_respond (Compute.gives_admitControl request idleOnly now))
    exact ⟨app, hholds, happ, .inl hlife⟩
  | claimControl identity revision =>
    obtain ⟨_, _, control, hc, happ, hlife, -⟩ := store_answered hexec
      (gives_respond (@Compute.gives_claimControl s .other identity revision))
    exact hcurrent hc (happ.trans h.1) (hlife.trans h.2)
  | bindLease identity receipt =>
    obtain ⟨_, _, control, hc, happ, hlife, -⟩ := store_answered hexec
      (gives_respond (@Execution.gives_bindLease s .other identity receipt))
    exact hcurrent hc (happ.trans h.1) (hlife.trans h.2)
  | advanceControl progress =>
    obtain ⟨_, _, control, hadv, -⟩ :=
      store_answered hexec (gives_respond (Execution.gives_advanceControl progress))
    exact hcurrent hadv.current (hadv.appId.trans h.1) (hadv.lifecycleId.trans h.2)
  | _ => exact h.elim

/-! ### Asking again -/

/-- The application can still be claimed: its control revision is not exhausted. -/
def Claimable (s : Store) (appId : String) : Prop := ∃ u, claimApp appId s = .ok () u

theorem decodeApplication_bare {row row' : ApplicationRow} (h : row'.bare = row.bare)
    (slots : SlotsRow) : decodeApplication row' slots = decodeApplication row slots := by
  simp only [bare] at h
  simp only [decodeApplication]
  simp_all

theorem readApp_congr {s u : Store} (h : u.ledger = s.ledger) (appId : String) :
    u.readApp appId = s.readApp appId := by
  have hroot : (u.apps.find? appId).map bare =
      (s.apps.find? appId).map bare := congrFun (congrArg Ledger.root h) appId
  have hslots : u.slots.find? appId = s.slots.find? appId :=
    congrFun (congrArg Ledger.slots h) appId
  unfold Store.readApp
  cases hu : u.apps.find? appId with
  | none =>
    cases hs : s.apps.find? appId with
    | none => rfl
    | some => simp [hu, hs] at hroot
  | some row' =>
    cases hs : s.apps.find? appId with
    | none => simp [hu, hs] at hroot
    | some row =>
      rw [hu, hs] at hroot
      have hbare : row'.bare = row.bare := Option.some.inj hroot
      simp only [hslots, decodeApplication_bare hbare]

variable {expected : String}

theorem recreate_replayed {row : RequestRow} (hvalid : Domain.validateRequestId requestId = .ok ())
    (hclaim : Claimable s appId) (hread : s.readApp appId = .ok (some app))
    (hrow : s.ledger.request (appId, requestId) = some row)
    (htarget : row.target = .recreate expected app.lifecycleId) :
    (store.exec s (.recreate appId expected requestId fresh)).1 = .ok (.application app) := by
  obtain ⟨u, hu⟩ := hclaim
  have hledger : u.ledger = s.ledger := quiet_claimApp appId s () u hu
  have hrowu : u.requests.find? (appId, requestId) = some row :=
    (congrFun (congrArg Ledger.request hledger) _).trans hrow
  have hreplay : replayRecreate app expected row.target = .ok app := by
    rw [htarget]
    simp [replayRecreate]
    rfl
  have hanswer : Returns (respond .application (recreate appId expected requestId fresh))
      s fun answer _ => answer = .application app := by
    refine .bind (R := fun found _ => found = app) ?_ fun _ _ h => ⟨_, _, rfl, h ▸ rfl⟩
    refine .fromExcept_bind hvalid (.bind (R := fun _ t => t = u) ⟨_, _, hu, rfl⟩ ?_)
    rintro _ u rfl
    refine .bind (R := fun found t => found = app ∧ t = u) ⟨_, _, ?_, rfl, rfl⟩ ?_
    · simp only [readApp, Effect.reads, bind, EStateM.bind, readApp_congr hledger, hread]
      rfl
    · rintro app u ⟨rfl, rfl⟩
      refine ⟨app, u, (bind_of_ok get_run).trans ?_, rfl⟩
      simp only [hrowu, hreplay]
      rfl
  obtain ⟨_, _, hrun, rfl⟩ := hanswer
  have hexec : store.exec s (.recreate appId expected requestId fresh) =
      transact (respond .application (recreate appId expected requestId fresh)) s := rfl
  rw [hexec]
  unfold transact
  rw [hrun]

/-! ### Recreations -/

theorem gives_recreate_valid (appId expected requestId : String) (fresh : Fresh) :
    Gives (recreate appId expected requestId fresh) s fun _ _ =>
      Domain.validateRequestId requestId = .ok () :=
  .fromExcept_bind fun _ hvalid _ _ _ => hvalid

structure Recreates (s : Store) (app next : LifecycleRecord) (requestId : String) (fresh : Fresh) :
    Prop where
  valid : Domain.validateRequestId requestId = .ok ()
  deleted : app.state = .deleted
  empty : app.activeOperations = {}
  settled : ∀ scope head, scope ≠ .application → s.ledger.head (app.appId, scope) = some head →
    s.ledger.SettledHead head
  incarnation : next = Operations.recreated app fresh (app.lifecycleEpoch + 1)
  written : (store.exec s (.recreate app.appId app.lifecycleId requestId fresh)).2.ledger =
    (((s.ledger.dropHead app.appId .dev).dropHead app.appId .prod).saveApp next).setRequest
      ⟨app.appId, requestId, .recreate app.lifecycleId next.lifecycleId⟩

theorem store_recreated
    (hexec : (store.exec s (.recreate app.appId expected requestId fresh)).1 =
      .ok (.application next)) (hholds : s.ledger.Holds app)
    (hmoved : next.lifecycleId ≠ app.lifecycleId) :
    expected = app.lifecycleId ∧ Recreates s app next requestId fresh := by
  obtain ⟨_, -, hvalid⟩ := store_answered hexec
    (gives_respond (gives_recreate_valid app.appId expected requestId fresh))
  obtain ⟨result, hresult, found, hfound, hid, hrec⟩ := store_answered hexec
    (gives_respond (gives_recreate app.appId expected requestId fresh))
  obtain rfl := hfound.eq hholds hid
  cases hresult
  generalize hL : (store.exec s (.recreate found.appId expected requestId fresh)).2.ledger = L'
    at hrec
  cases hrec with
  | replay => exact absurd rfl hmoved
  | anew _ lifecycle deleted empty settled =>
    subst lifecycle
    exact ⟨rfl, hvalid, deleted, empty, settled, rfl, hL⟩

theorem Recreates.holds (h : Recreates s app next requestId fresh) :
    (store.exec s (.recreate app.appId app.lifecycleId requestId fresh)).2.ledger.Holds next := by
  rw [h.written]
  exact holds_put _ next

/-- A request id that stands for a recreation is never given another. -/
theorem store_repeated {t : Store} {before after : String}
    (hrow : t.ledger.request (appId, requestId) =
      some ⟨appId, requestId, .recreate before after⟩) (expected : String) (fresh : Fresh) :
    (store.exec t (.recreate appId expected requestId fresh)).2.ledger = t.ledger ∧
      ∀ answer, (store.exec t (.recreate appId expected requestId fresh)).1 = .ok answer →
        ∃ current, answer = .application current ∧ t.ledger.Holds current ∧
          current.appId = appId ∧ current.lifecycleId = after := by
  have hanswered : ∀ answer,
      (store.exec t (.recreate appId expected requestId fresh)).1 = .ok answer →
      (store.exec t (.recreate appId expected requestId fresh)).2.ledger = t.ledger ∧
        ∃ current, answer = .application current ∧ t.ledger.Holds current ∧
          current.appId = appId ∧ current.lifecycleId = after := by
    intro answer hanswer
    obtain ⟨result, rfl, current, ht, rfl, hrec⟩ := store_answered hanswer
      (gives_respond (gives_recreate appId expected requestId fresh))
    generalize (store.exec t (.recreate current.appId expected requestId fresh)).2.ledger = L'
      at hrec ⊢
    cases hrec with
    | replay named target =>
      rw [hrow] at named
      obtain rfl := Option.some.inj named
      obtain ⟨-, rfl⟩ := RequestTarget.recreate.inj target
      exact ⟨rfl, result, rfl, ht, rfl, rfl⟩
    | anew unnamed =>
      rw [hrow] at unnamed
      cases unnamed
  refine ⟨?_, fun answer hanswer => (hanswered answer hanswer).2⟩
  cases hanswer : (store.exec t (.recreate appId expected requestId fresh)).1 with
  | error => rw [store_failed hanswer]
  | ok answer => exact (hanswered answer hanswer).1

variable {s t : Store} {tr tr' : List (Op × Except StoreError Answer)}

theorem Run.governed (hr : store.Run DrawsFresh {} tr s) : s.ledger.Governed := by
  have h : s.ledger.ApplicationsLogged ∧ s.ledger.Governed := by
    refine Run.keeps_fresh (P := fun L => L.ApplicationsLogged ∧ L.Governed) hr
      ⟨Logged.empty, .empty⟩ fun act L L' hm fresh h => ?_
    exact ⟨h.1.move hm, h.2.move h.1 hm fresh⟩
  exact h.2

variable {control : ControlRecord}

/-- Every control of the application's incarnation is settled, whether a head names it or not. -/
theorem Recreates.controls (h : Recreates s app next requestId fresh)
    (hr : store.Run DrawsFresh {} tr s) (hholds : s.ledger.Holds app) {id : String}
    (hc : s.ledger.control id = some control) (happ : control.appId = app.appId)
    (hlife : control.lifecycleId = app.lifecycleId) : s.ledger.SettledControl control := by
  obtain ⟨head, hh⟩ := (Run.governed hr).headed id control app hc hholds happ.symm hlife.symm
  obtain ⟨-, hscope⟩ := (Run.headed hr).keyed id control hc
  obtain ⟨hhapp, hhscope, -, other, hother, hoapp, holife⟩ :=
    (Run.headed hr).current control.appId control.scope head hh
  obtain rfl := hother.eq hholds (hoapp.trans happ)
  refine h.settled control.scope head hscope ?_ id control hc hhapp.symm ?_ hhscope.symm
  · rw [← happ]
    exact hh
  · exact hlife.trans holife.symm

/-- What holds once a recreation has moved its application from one incarnation to the next. -/
structure IncarnationsApart (s : Store) (app next : LifecycleRecord) (requestId : String)
    (t : Store) : Prop where
  deleted : app.state = .deleted ∧ app.activeOperations = {}
  settled : ∀ id control, s.ledger.control id = some control → control.appId = app.appId →
    control.lifecycleId = app.lifecycleId →
    (control.state = .succeeded ∨ control.state = .failed ∨ (control.state = .superseded ∧
      control.executorId = none ∧ control.stage = "accepted" ∧ control.lease = none)) ∧
    s.ledger.Drained control
  refused : ∀ op : Op, op.AddressedTo app.appId app.lifecycleId →
    ∃ e, store.exec t op = (.error e, t)
  repeated : ∀ expected fresh,
    (store.exec t (.recreate app.appId expected requestId fresh)).2.ledger = t.ledger ∧
      ∀ answer, (store.exec t (.recreate app.appId expected requestId fresh)).1 = .ok answer →
        ∃ current, answer = .application current ∧ t.ledger.Holds current ∧
          current.lifecycleId = next.lifecycleId ∧ current.lifecycleEpoch = next.lifecycleEpoch
  answered : ∀ current fresh, t.readApp app.appId = .ok (some current) →
    current.lifecycleId = next.lifecycleId → Claimable t app.appId →
    (store.exec t (.recreate app.appId app.lifecycleId requestId fresh)).1 =
      .ok (.application current)

theorem ControlRecord.ended_cases (h : control.isLive = false) :
    control.state = .succeeded ∨ control.state = .failed ∨ control.state = .superseded := by
  cases hs : control.state <;> simp [ControlRecord.isLive, ControlState.isTerminal, hs] at h ⊢

theorem incarnations_apart {app next : LifecycleRecord} {expected requestId : String}
    {fresh : Fresh} (hr : store.Run DrawsFresh {} tr s) (hholds : s.ledger.Holds app)
    (hfresh : DrawsFresh s (.recreate app.appId expected requestId fresh))
    (hexec : (store.exec s (.recreate app.appId expected requestId fresh)).1 =
      .ok (.application next))
    (hmoved : next.lifecycleId ≠ app.lifecycleId)
    (hr' : store.Run DrawsFresh
      (store.exec s (.recreate app.appId expected requestId fresh)).2 tr' t) :
    IncarnationsApart s app next requestId t := by
  obtain ⟨rfl, h⟩ := store_recreated hexec hholds hmoved
  have hstep := hr.snoc hfresh
  have hnext : next.appId = app.appId := by rw [h.incarnation]; rfl
  have hepoch : next.lifecycleEpoch = app.lifecycleEpoch + 1 := by rw [h.incarnation]; rfl
  have hrow : t.ledger.request (app.appId, requestId) =
      some ⟨app.appId, requestId, .recreate app.lifecycleId next.lifecycleId⟩ := by
    refine Run.keeps hr' ?_ fun _ _ _ hm hL => hm.request_kept hL
    rw [h.written]
    exact Function.update_self ..
  refine ⟨⟨h.deleted, h.empty⟩, fun id control hc happ hlife => ?_, fun op haddressed => ?_,
    fun expected' fresh' => ?_, fun current fresh' hread hlife hclaim => ?_⟩
  · have hsettled := h.controls hr hholds hc happ hlife
    refine ⟨?_, hsettled.drained⟩
    obtain hs | hs | hs := ControlRecord.ended_cases hsettled.ended
    · exact .inl hs
    · exact .inr (.inl hs)
    · exact .inr (.inr ⟨hs, hsettled.unclaimed hs⟩)
  · cases hanswer : (store.exec t op).1 with
    | error e => exact ⟨e, Prod.ext hanswer (store_failed hanswer)⟩
    | ok =>
      have hroot : t.ledger.root app.appId ≠ none := by
        refine Run.root_kept hr' ?_
        have hroot := h.holds.1
        rw [hnext] at hroot
        rw [hroot]
        exact Option.some_ne_none _
      obtain ⟨current, ht, hid, hnames⟩ := store_addressed hanswer haddressed hroot
      obtain ⟨hlater, -⟩ := Run.later hstep hr' h.holds ht (hid.trans hnext.symm)
      have hback : store.Run DrawsFresh s _ t := (Machine.Run.nil.snoc hfresh).append hr'
      obtain ⟨-, hsame⟩ := Run.later hr hback hholds ht hid
      have hle := hlater.epoch
      obtain hlife | hfirst := hnames
      · have hsame := hsame hlife
        omega
      · obtain ⟨version, hv, hbare, -⟩ := (Run.applicationsLogged hr).mem hholds.1
        have hone := (Run.applicationsLogged hr).one_le_epoch hv
        rw [LifecycleRecord.epoch_of_bare hbare] at hone
        omega
  · obtain ⟨hsame, hanswers⟩ := store_repeated hrow expected' fresh'
    refine ⟨hsame, fun answer hanswer => ?_⟩
    obtain ⟨current, rfl, ht, hid, hlife⟩ := hanswers answer hanswer
    obtain ⟨-, hepochs⟩ := Run.later hstep hr' h.holds ht (hid.trans hnext.symm)
    exact ⟨current, rfl, ht, hlife, hepochs hlife⟩
  · exact recreate_replayed h.valid hclaim hread hrow (by rw [hlife])

/-! ### A control that is given back -/

def Sample.wholeDeletion (lifecycleId operationId stage : String) : Json :=
  .object
    [("stage", .str stage), ("schema_version", .num 1), ("kind", .str "DeleteApplication"),
      ("context", Sample.contextIn lifecycleId operationId),
      ("production", Sample.production operationId),
      ("development", .object
        [("runtime", .object
            [("app_id", .str "app"), ("operation_id", .str operationId), ("resources", .array []),
              ("docker_bind_cleanup", .bool false)]),
          ("registry", .null)])]

/-- The deletion of the application in an incarnation, to its end. -/
def Sample.deletes (lifecycleId operationId : String) : List Op :=
  .admitWithConfiguration
      { Sample.admission operationId .deleteApplication with lifecycleId := some lifecycleId }
      none none Sample.fresh ::
    [(1, .running, "captured"), (2, .running, "compute_removed"),
      (3, .running, "production_storage_removed"), (4, .running, "development_removed"),
      (5, .succeeded, "development_removed")].map fun (revision, state, stage) =>
        .advance { Sample.progress operationId revision state stage
          (Sample.wholeDeletion lifecycleId operationId stage) with lifecycleId }

def Sample.claimedRestart : ControlRecord :=
  { Compute.admittedControl (Sample.controlRequest "restart" .restart) 1 [] 1 with
    revision := 2
    state := .running
    executorId := some "executor-restart"
    stage := "draining_previous" }

def Sample.reservedRestart : ControlRecord :=
  { Sample.claimedRestart with
    state := .recoveryRequired
    errorCode := some "COMPUTE_RECOVERING"
    errorMessage := some "Continuing original compute operation after early execution handoff"
    revision := 3 }

/-- A claimed restart is given back by its recovery and superseded by a stop, which fails; the
application is deleted then. -/
def givenBack : List Op :=
  [.ensureIdentity "app" Sample.fresh,
    .admitControl (Sample.controlRequest "restart" .restart) false 1,
    .claimControl (Sample.executor "restart" 1) 1,
    .reserveDrain Sample.claimedRestart,
    .resumeDrain Sample.reservedRestart none,
    .admitControl (Sample.controlRequest "stop" .stop) false 1,
    .claimControl (Sample.executor "stop" 2) 1,
    Sample.failsDraining "stop" 2 2] ++ Sample.deletes "life" "delete"

def Sample.deletedApp : LifecycleRecord where
  appId := "app"
  lifecycleId := "life"
  lifecycleEpoch := 1
  metadataRevision := 1
  state := .deleted
  createdAt := 1

def Sample.again : Fresh := ⟨"second", "seed", 2⟩

theorem givenBack_run :
    store.Run DrawsFresh {} (store.trace {} givenBack) (store.after {} givenBack) := by
  refine .of_follows (Machine.follows_of_forall fun t op hop => ?_)
  simp only [givenBack, deletes, List.map_cons, List.map_nil, List.cons_append, List.nil_append,
    List.mem_cons, List.not_mem_nil, or_false] at hop
  obtain rfl | rfl | rfl | rfl | rfl | rfl | rfl | rfl | rfl | rfl | rfl | rfl | rfl | rfl :=
    hop <;> trivial

theorem givenBack_deleted : (store.after {} givenBack).ledger.Holds deletedApp :=
  ⟨by decide +kernel, by decide +kernel⟩

theorem givenBack_draws :
    DrawsFresh (store.after {} givenBack) (.recreate "app" "life" "again" again) := by
  have h : (store.after {} givenBack).history.applications.all
      (fun app => app.lifecycleId ≠ again.lifecycleId) = true := by decide +kernel
  intro app happ
  simpa using List.all_eq_true.mp h app happ

theorem givenBack_recreated :
    (store.exec (store.after {} givenBack) (.recreate "app" "life" "again" again)).1 =
      .ok (.application (recreated deletedApp again 2)) := by
  decide +kernel

theorem incarnations_apart_givenBack :
    IncarnationsApart (store.after {} givenBack) Sample.deletedApp
      (Operations.recreated Sample.deletedApp Sample.again 2) "again"
      (store.exec (store.after {} givenBack) (.recreate "app" "life" "again" Sample.again)).2 :=
  incarnations_apart givenBack_run givenBack_deleted givenBack_draws givenBack_recreated
    (by decide) .nil

/-- The recreated application is deleted and recreated once more. -/
def recreatedTwice : List Op :=
  givenBack ++ .recreate "app" "life" "again" Sample.again :: Sample.deletes "second" "delete-again"
    ++ [.recreate "app" "second" "later" ⟨"third", "seed", 3⟩]

/-- The recreation succeeds although a superseded control of the old lifecycle was claimed once,
and asking for it again is refused once the application is recreated from there. -/
theorem claimed_before_recreation :
    store.Run DrawsFresh {} (store.trace {} givenBack) (store.after {} givenBack) ∧
      (store.exec (store.after {} givenBack) (.recreate "app" "life" "again" Sample.again)).1 =
        .ok (.application (Operations.recreated Sample.deletedApp Sample.again 2)) ∧
      ((store.after {} givenBack).ledger.control "restart").any (fun control =>
        control.appId = "app" ∧ control.lifecycleId = "life" ∧ control.state = .superseded) = true ∧
      (versions ControlRecord.operationId (store.after {} givenBack).history.controls
        "restart").any (fun version => version.executorId = some "executor-restart") = true ∧
      (store.trace {} recreatedTwice).all (·.2.isOk) = true ∧
      (store.exec (store.after {} recreatedTwice)
        (.recreate "app" "life" "again" Sample.again)).1 = .error .lifecycleConflict :=
  ⟨givenBack_run, givenBack_recreated, by decide +kernel, by decide +kernel, by decide +kernel,
    by decide +kernel⟩

end Rcoder.Lifecycle
