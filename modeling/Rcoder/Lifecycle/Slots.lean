import Rcoder.Lifecycle.Run

/-!
# Slots

An application has one slot for each scope. The operations that are under way, the slots and the
state of the application are three tables; every move keeps them in agreement.
-/

namespace Rcoder.Lifecycle

open Function Domain

namespace Ledger

/-- The slots of an application hold what is under way in it, and its state agrees with them. -/
structure FitsSlots (operations : String → Option OperationRecord) (app : LifecycleRecord) :
    Prop where
  named : ∀ scope id, app.activeOperations.slot scope = some id →
    ∃ operation, operations id = some operation ∧ operation.appId = app.appId ∧
      operation.lifecycleId = app.lifecycleId ∧ operation.scope = scope ∧
      operation.state.isTerminal = false
  slotted : ∀ id operation, operations id = some operation → operation.appId = app.appId →
    operation.state.isTerminal = false → app.activeOperations.slot operation.scope = some id
  exclusive : app.activeOperations.slot .application ≠ none →
    app.activeOperations.slot .dev = none ∧ app.activeOperations.slot .prod = none
  deleting : app.state = .deleting ↔ ∃ id operation,
    app.activeOperations.slot .application = some id ∧ operations id = some operation ∧
      operation.kind.endsLifecycle = true

structure Slotted (L : Ledger) : Prop where
  rows : ∀ id root, L.root id = some root → ∃ app, L.Holds app ∧ app.appId = id
  keyed : ∀ id operation, L.operation id = some operation → operation.operationId = id ∧
    operation.scope = operation.kind.scope ∧ ∃ app, L.Holds app ∧ app.appId = operation.appId
  fits : ∀ app, L.Holds app → FitsSlots L.operation app

namespace FitsSlots

variable {operations : String → Option OperationRecord} {app app' : LifecycleRecord}
  {operation operation' : OperationRecord}

theorem congr (h : FitsSlots operations app) (happ : app'.appId = app.appId)
    (hlife : app'.lifecycleId = app.lifecycleId) (hstate : app'.state = app.state)
    (hslots : app'.activeOperations = app.activeOperations) : FitsSlots operations app' := by
  obtain ⟨hnamed, hslotted, hexclusive, hdeleting⟩ := h
  refine ⟨?_, ?_, ?_, ?_⟩
  · rw [hslots, happ, hlife]
    exact hnamed
  · rw [hslots, happ]
    exact hslotted
  · rw [hslots]
    exact hexclusive
  · rw [hstate, hslots]
    exact hdeleting

theorem idle (hslots : app.activeOperations = {}) (hstate : app.state ≠ .deleting)
    (hended : ∀ id operation, operations id = some operation → operation.appId = app.appId →
      operation.state.isTerminal = true) : FitsSlots operations app := by
  have hnone : ∀ scope, app.activeOperations.slot scope = none := by
    intro scope
    rw [hslots]
    cases scope <;> rfl
  refine ⟨?_, ?_, ?_, ?_⟩
  · intro scope id hs
    rw [hnone] at hs
    cases hs
  · intro id operation ho happ hlive
    rw [hended id operation ho happ] at hlive
    cases hlive
  · exact fun hs => absurd (hnone _) hs
  · refine ⟨fun hs => absurd hs hstate, ?_⟩
    rintro ⟨id, operation, hs, -⟩
    rw [hnone] at hs
    cases hs

theorem ended_of_empty (h : FitsSlots operations app) (hslots : app.activeOperations = {}) :
    ∀ id operation, operations id = some operation → operation.appId = app.appId →
      operation.state.isTerminal = true := by
  intro id operation ho happ
  by_contra hlive
  have hslot := h.slotted id operation ho happ (by simpa using hlive)
  rw [hslots] at hslot
  cases hs : operation.scope <;> rw [hs] at hslot <;> cases hslot

/-- What the slots of an application know of an operation. -/
def slotView (operation : OperationRecord) :
    String × String × OperationScope × OperationKind × Bool :=
  (operation.appId, operation.lifecycleId, operation.scope, operation.kind,
    operation.state.isTerminal)

variable (h : FitsSlots operations app)
include h

theorem of_view {operations' : String → Option OperationRecord}
    (hkept : ∀ id found, operations id = some found → found.appId = app.appId →
      ∃ found', operations' id = some found' ∧ slotView found' = slotView found)
    (hcame : ∀ id found', operations' id = some found' → found'.appId = app.appId →
      ∃ found, operations id = some found ∧ slotView found' = slotView found) :
    FitsSlots operations' app := by
  simp only [slotView, Prod.mk.injEq] at hkept hcame
  refine ⟨?_, ?_, h.exclusive, ?_⟩
  · intro scope id hs
    obtain ⟨found, hf, hsame, hlife, hsc, hlive⟩ := h.named scope id hs
    obtain ⟨found', hf', ha, hl, hs', -, ht⟩ := hkept id found hf hsame
    exact ⟨found', hf', ha.trans hsame, hl.trans hlife, hs'.trans hsc, ht.trans hlive⟩
  · intro id found' hf' hsame hlive
    obtain ⟨found, hf, ha, -, hs, -, ht⟩ := hcame id found' hf' hsame
    rw [hs]
    exact h.slotted id found hf (ha.symm.trans hsame) (ht.symm.trans hlive)
  · rw [h.deleting]
    refine exists_congr fun id => ⟨?_, ?_⟩
    · rintro ⟨found, hs, hf, hends⟩
      obtain ⟨named, hn, hsame, -⟩ := h.named _ id hs
      cases hf.symm.trans hn
      obtain ⟨found', hf', -, -, -, hk, -⟩ := hkept id found hf hsame
      exact ⟨found', hs, hf', by rw [hk]; exact hends⟩
    · rintro ⟨found', hs, hf', hends⟩
      obtain ⟨named, hn, hsame, -⟩ := h.named _ id hs
      obtain ⟨kept, hkf, -, -, -, hk, -⟩ := hkept id named hn hsame
      cases hkf.symm.trans hf'
      exact ⟨named, hs, hn, by rw [← hk]; exact hends⟩

theorem frame (happ : operation'.appId ≠ app.appId)
    (hold : ∀ old, operations operation'.operationId = some old → old.appId ≠ app.appId) :
    FitsSlots (update operations operation'.operationId (some operation')) app := by
  refine h.of_view (fun id found hf hsame => ⟨found, ?_, rfl⟩) fun id found hf hsame => ?_
  · refine update_eq_some.mpr (.inr ⟨fun hid => ?_, hf⟩)
    subst hid
    exact hold found hf hsame
  · obtain ⟨-, rfl⟩ | ⟨-, hf⟩ := update_eq_some.mp hf
    · exact absurd hsame happ
    · exact ⟨found, hf, rfl⟩

theorem live
    (stored : operations operation.operationId = some operation)
    (merge : mergeProgress operation operation' = operation')
    (started : operation.state.isTerminal = false) (going : operation'.state.isTerminal = false) :
    FitsSlots (update operations operation.operationId (some operation')) app := by
  obtain ⟨-, happ, hlife, hscope, hkind⟩ := mergeProgress_same merge
  have hview : slotView operation' = slotView operation := by
    simp only [slotView, happ, hlife, hscope, hkind, started, going]
  refine h.of_view (fun id found hf _ => ?_) fun id found hf _ => ?_
  · by_cases hid : id = operation.operationId
    · subst hid
      cases stored.symm.trans hf
      exact ⟨operation', update_self .., hview⟩
    · exact ⟨found, (update_of_ne hid ..).trans hf, rfl⟩
  · obtain ⟨rfl, rfl⟩ | ⟨-, hf⟩ := update_eq_some.mp hf
    · exact ⟨operation, stored, hview⟩
    · exact ⟨found, hf, rfl⟩

omit h

theorem scope_of_endsLifecycle {kind : OperationKind} (h : kind.endsLifecycle = true) :
    kind.scope = .application := by
  have hkind : kind = .deleteApplication := by simpa [OperationKind.endsLifecycle] using h
  rw [hkind]
  rfl

theorem close (h : FitsSlots operations app)
    (stored : operations operation.operationId = some operation)
    (ofKind : operation.scope = operation.kind.scope)
    (inSlot : app.activeOperations.slot operation.scope = some operation.operationId)
    (ends : operation'.state.isTerminal = true)
    (closes : Closes app operation operation'.state app') :
    FitsSlots (update operations operation.operationId (some operation')) app' := by
  obtain ⟨hsame, hstate, hslots, -⟩ := closes
  have hslot : app'.activeOperations.slot =
      update app.activeOperations.slot operation.scope none := by
    rw [hslots, ActiveOperations.slot_set]
  -- the slots of `app'` are those of `app` but for the freed one
  have hfreed : ∀ scope id, app'.activeOperations.slot scope = some id ↔
      id ≠ operation.operationId ∧ app.activeOperations.slot scope = some id := by
    intro scope id
    by_cases hsc : scope = operation.scope
    · rw [hslot, hsc, inSlot]
      simp [eq_comm]
    · rw [hslot, update_of_ne hsc]
      refine (and_iff_right_of_imp fun hs => ?_).symm
      rintro rfl
      obtain ⟨found, hf, -, -, hfound, -⟩ := h.named scope _ hs
      cases stored.symm.trans hf
      exact hsc hfound.symm
  refine ⟨?_, ?_, ?_, ?_⟩
  · intro scope id hs
    obtain ⟨hid, hs⟩ := (hfreed scope id).mp hs
    obtain ⟨found, hf, hrest⟩ := h.named scope id hs
    refine ⟨found, (update_of_ne hid ..).trans hf, ?_⟩
    rw [hsame.appId, hsame.lifecycleId]
    exact hrest
  · intro id found hf hfapp hlive
    obtain ⟨-, rfl⟩ | ⟨hid, hf⟩ := update_eq_some.mp hf
    · rw [ends] at hlive
      cases hlive
    · exact (hfreed _ id).mpr ⟨hid, h.slotted id found hf (hfapp.trans hsame.appId) hlive⟩
  · intro hs
    obtain ⟨id, hs⟩ := Option.ne_none_iff_exists'.mp hs
    have hold := ((hfreed _ id).mp hs).2
    obtain ⟨hdev, hprod⟩ := h.exclusive (by rw [hold]; exact Option.some_ne_none id)
    simp [hslot, update_apply, hdev, hprod]
  · rw [hstate]
    unfold closedState
    by_cases hends : operation.kind.endsLifecycle = true
    · -- the operation was the one in the slot of the whole application
      rw [if_pos hends, hslot, ofKind, scope_of_endsLifecycle hends]
      constructor
      · intro hs
        split at hs <;> cases hs
      · rintro ⟨id, found, hs, -⟩
        cases hs
    · rw [if_neg hends, h.deleting]
      constructor
      · rintro ⟨id, found, hs, hf, hfends⟩
        have hid : id ≠ operation.operationId := by
          rintro rfl
          cases stored.symm.trans hf
          exact hends hfends
        exact ⟨id, found, (hfreed _ id).mpr ⟨hid, hs⟩, (update_of_ne hid ..).trans hf, hfends⟩
      · rintro ⟨id, found, hs, hf, hfends⟩
        obtain ⟨hid, hs⟩ := (hfreed _ id).mp hs
        rw [update_of_ne hid] at hf
        exact ⟨id, found, hs, hf, hfends⟩

theorem accept {request : Lifecycle.Admission} {active : ActiveOperationRecords} {now : Int}
    (h : FitsSlots operations app)
    (slots : ∀ scope, active.slot scope = none → app.activeOperations.slot scope = none)
    (accepted : Accepted app request active now app' operation)
    (fresh : operations operation.operationId = none) :
    FitsSlots (update operations operation.operationId (some operation)) app' := by
  obtain ⟨hactive, hfree, -, patched, hsame, hstate, hslots, rfl, rfl⟩ := accepted
  have hfree : ∀ scope, request.kind.scope.blocksRequest scope = true →
      app.activeOperations.slot scope = none := fun scope hb => slots scope (hfree scope hb)
  have hslot : (app.activeOperations.set request.kind.scope (some request.operationId)).slot =
      update app.activeOperations.slot request.kind.scope (some request.operationId) :=
    ActiveOperations.slot_set ..
  have hown := hfree request.kind.scope (by cases request.kind.scope <;> rfl)
  simp only [occupy, admitted, hslots, hstate] at fresh ⊢
  refine ⟨?_, ?_, ?_, ?_⟩ <;> dsimp only <;> rw [hslot]
  · intro scope id hs
    rw [hsame.appId, hsame.lifecycleId]
    obtain ⟨rfl, rfl⟩ | hs := (update_fresh hown).mp hs
    · exact ⟨_, update_self .., rfl, rfl, rfl, rfl⟩
    · obtain ⟨found, hf, hrest⟩ := h.named scope id hs
      exact ⟨found, (update_fresh fresh).mpr (.inr hf), hrest⟩
  · intro id found hf hfapp hlive
    refine (update_fresh hown).mpr ?_
    obtain ⟨rfl, rfl⟩ | hf := (update_fresh fresh).mp hf
    · exact .inl ⟨rfl, rfl⟩
    · exact .inr (h.slotted id found hf (hfapp.trans hsame.appId) hlive)
  · intro hs
    obtain ⟨id, hs⟩ := Option.ne_none_iff_exists'.mp hs
    obtain ⟨hsc, -⟩ | hs := (update_fresh hown).mp hs
    · rw [← hsc] at hfree ⊢
      simp [hfree .dev rfl, hfree .prod rfl]
    · rw [hfree .application (by cases request.kind.scope <;> rfl)] at hs
      cases hs
  · by_cases hends : request.kind.endsLifecycle = true
    · rw [if_pos hends, scope_of_endsLifecycle hends]
      exact ⟨fun _ => ⟨_, _, update_self .., update_self .., hends⟩, fun _ => rfl⟩
    · rw [if_neg hends, h.deleting]
      refine exists_congr fun id => ⟨?_, ?_⟩
      · rintro ⟨found, hs, hf, hfends⟩
        exact ⟨found, (update_fresh hown).mpr (.inr hs), (update_fresh fresh).mpr (.inr hf), hfends⟩
      · rintro ⟨found, hs, hf, hfends⟩
        obtain ⟨-, rfl⟩ | hf := (update_fresh fresh).mp hf
        · exact absurd hfends hends
        · obtain ⟨-, rfl⟩ | hs := (update_fresh hown).mp hs
          · rw [fresh] at hf
            cases hf
          · exact ⟨found, hs, hf, hfends⟩

end FitsSlots

namespace Slotted

variable {act : Act} {L L' : Ledger} {app app' : LifecycleRecord}
  {operation operation' : OperationRecord}

theorem congr (h : L.Slotted) (hroot : L'.root = L.root) (hslots : L'.slots = L.slots)
    (hoperation : L'.operation = L.operation) : L'.Slotted := by
  have hholds : ∀ app, L'.Holds app ↔ L.Holds app := by
    intro app
    rw [Holds, Holds, hroot, hslots]
  refine ⟨?_, ?_, ?_⟩
  · intro id root hr
    rw [hroot] at hr
    obtain ⟨app, ha, hid⟩ := h.rows id root hr
    exact ⟨app, (hholds app).mpr ha, hid⟩
  · intro id operation ho
    rw [hoperation] at ho
    obtain ⟨hid, hscope, app, ha, happ⟩ := h.keyed id operation ho
    exact ⟨hid, hscope, app, (hholds app).mpr ha, happ⟩
  · intro app ha
    rw [hoperation]
    exact h.fits app ((hholds app).mp ha)

theorem holds_put_kept {other : LifecycleRecord} (ho : L.Holds other) :
    ∃ kept, (L.put app).Holds kept ∧ kept.appId = other.appId := by
  by_cases hid : other.appId = app.appId
  · exact ⟨app, L.holds_put app, hid.symm⟩
  · exact ⟨other, (L.holds_put_of_ne hid).mpr ho, rfl⟩

variable (h : L.Slotted)
include h

theorem rows_put {id : String} {root : LifecycleRecord} (hr : (L.put app).root id = some root) :
    ∃ kept, (L.put app).Holds kept ∧ kept.appId = id := by
  obtain ⟨rfl, -⟩ | ⟨-, hr⟩ := update_eq_some.mp hr
  · exact ⟨app, L.holds_put app, rfl⟩
  · obtain ⟨other, ho, rfl⟩ := h.rows id root hr
    exact holds_put_kept ho

theorem keyed_put {id : String} (ho : L.operation id = some operation) :
    operation.operationId = id ∧ operation.scope = operation.kind.scope ∧
      ∃ kept, (L.put app).Holds kept ∧ kept.appId = operation.appId := by
  obtain ⟨hid, hscope, other, hother, happ⟩ := h.keyed id operation ho
  obtain ⟨kept, hk, hkapp⟩ := holds_put_kept hother
  exact ⟨hid, hscope, kept, hk, hkapp.trans happ⟩

theorem save (hfits : FitsSlots L.operation app) : (L.put app).Slotted := by
  refine ⟨fun _ _ hr => h.rows_put hr, fun _ _ ho => h.keyed_put ho, ?_⟩
  intro other ho
  obtain rfl | ⟨-, ho⟩ := L.holds_put_iff.mp ho
  · exact hfits
  · exact h.fits other ho

theorem write (happ : operation.appId = app.appId) (hscope : operation.scope = operation.kind.scope)
    (hold : ∀ old, L.operation operation.operationId = some old → old.appId = app.appId)
    (hfits : FitsSlots (L.setOperation operation).operation app) :
    ((L.setOperation operation).put app).Slotted := by
  refine ⟨fun _ _ hr => h.rows_put hr, ?_, ?_⟩
  · intro id found hf
    obtain ⟨rfl, rfl⟩ | ⟨-, hf⟩ := operation_setOperation.mp hf
    · exact ⟨rfl, hscope, app, holds_put _ app, happ.symm⟩
    · exact h.keyed_put hf
  · intro other ho
    obtain rfl | ⟨hne, ho⟩ := (holds_put_iff _).mp ho
    · exact hfits
    · refine (h.fits other ho).frame ?_ fun old hstored hsame => ?_
      · rw [happ]
        exact hne.symm
      · exact hne (hsame.symm.trans (hold old hstored))

theorem taken (inSlot : L.InSlot app operation) (step : OperationStep act app operation operation')
    (follows : Follows app operation operation'.state app') :
    ((L.setOperation operation').put app').Slotted := by
  obtain ⟨hid, happ, -, hscope, hkind⟩ := mergeProgress_same step.merge
  have hfits := h.fits app inSlot.holds
  have hscoped : operation.scope = operation.kind.scope := inSlot.readable.scope.symm
  refine h.write ?_ ?_ ?_ ?_
  · exact happ.trans (inSlot.sameApp.trans follows.same.appId.symm)
  · rw [hscope, hkind]
    exact hscoped
  · intro old hold
    rw [hid, inSlot.stored] at hold
    obtain rfl := Option.some.inj hold
    exact inSlot.sameApp.trans follows.same.appId.symm
  · have hupdate : (L.setOperation operation').operation =
        update L.operation operation.operationId (some operation') := by
      rw [← hid]
      rfl
    rw [hupdate]
    by_cases hends : operation'.state.isTerminal = true
    · exact hfits.close inSlot.stored hscoped inSlot.inSlot hends (follows.of_terminal hends)
    · rw [follows.of_live (by simpa using hends)]
      exact hfits.live inSlot.stored step.merge step.live (by simpa using hends)

theorem move (hm : Move act L L') : L'.Slotted := by
  cases hm with
  | @openRoot app missing unslotted start =>
    have hended : ∀ id operation, L.operation id = some operation →
        operation.appId = app.appId → operation.state.isTerminal = true := by
      intro id operation ho happ
      obtain ⟨-, -, other, hother, hsame⟩ := h.keyed id operation ho
      have hroot := hother.1
      rw [hsame, happ, missing] at hroot
      cases hroot
    have hidle : FitsSlots L.operation app :=
      .idle start.slots (by rw [start.state]; nofun) hended
    exact (h.save hidle).congr rfl rfl rfl
  | patch holds same state slots =>
    exact (h.save ((h.fits _ holds).congr same.appId same.lifecycleId state slots)).congr
      rfl rfl rfl
  | @accept app app' request active now operation holds slots accepted fresh =>
    have hfits := (h.fits app holds).accept slots accepted fresh
    obtain ⟨-, -, -, patched, hsame, -, -, rfl, rfl⟩ := accepted
    refine (h.write rfl rfl (fun old hold => ?_) hfits).congr rfl rfl rfl
    rw [fresh] at hold
    cases hold
  | nameRequest | bindLease | forgetLease | openHead | control
  | release => exact h.congr rfl rfl rfl
  | step inSlot _ step follows => exact (h.taken inSlot step follows).congr rfl rfl rfl
  | touch inSlot _ step follows => exact h.taken inSlot step follows
  | @recreate app next row holds _ empty _ following =>
    have hidle : FitsSlots L.operation next := by
      refine .idle following.slots ?_ ?_
      · rw [following.state]
        nofun
      · rw [following.appId]
        exact (h.fits app holds).ended_of_empty empty
    exact (h.save hidle).congr rfl rfl rfl
  | @rebind app next holds _ _ _ following _ unused =>
    have hidle : FitsSlots L.operation next := by
      refine .idle following.slots ?_ ?_
      · rw [following.state]
        nofun
      · rw [following.appId]
        exact unused
    exact (h.save hidle).congr rfl rfl rfl
  | @admitControl _ _ _ old => cases old <;> exact h.congr rfl rfl rfl

omit h

theorem empty : (Store.ledger {}).Slotted :=
  ⟨fun _ root h => absurd h.symm (Option.some_ne_none root),
    fun _ operation h => absurd h.symm (Option.some_ne_none operation),
    fun app h => absurd h.1.symm (Option.some_ne_none app.bare)⟩

end Slotted

end Ledger

/-- In every state of every run the slots of an application hold exactly its operations under
way. A restart of the local owner therefore finds every live execution in its slot. -/
theorem slots_agree {ok : Store → Op → Prop} {tr : List (Op × Except StoreError Answer)} {s : Store}
    (hr : store.Run ok {} tr s) :
    s.ledger.Slotted ∧ ∀ id operation, s.ledger.operation id = some operation →
      operation.state = .running ∨ operation.state = .waitingRetry →
      ∃ app, s.ledger.Holds app ∧ app.appId = operation.appId ∧
        app.lifecycleId = operation.lifecycleId ∧
        Domain.slotMatchesOperation app operation = true := by
  have hslotted : s.ledger.Slotted := Run.keeps hr .empty fun _ _ _ hm h => h.move hm
  refine ⟨hslotted, fun id operation ho hstate => ?_⟩
  obtain ⟨rfl, -, app, ha, happ⟩ := hslotted.keyed id operation ho
  have hlive : operation.state.isTerminal = false := by
    obtain hs | hs := hstate <;> rw [hs] <;> rfl
  have hfits := hslotted.fits app ha
  have hslot := hfits.slotted _ operation ho happ.symm hlive
  obtain ⟨named, hn, -, hlife, -⟩ := hfits.named _ _ hslot
  cases ho.symm.trans hn
  exact ⟨app, ha, happ, hlife.symm, by simpa [slotMatchesOperation] using hslot⟩

/-- The deletion of an application is admitted while a restart is under way, and refused. -/
def blockedDeletion : List Op :=
  [.admitWithConfiguration (Sample.admission "restart" .restart) none none Sample.fresh,
    .advance (Sample.progress "restart" 1 .running "restarting" .null),
    .admitWithConfiguration (Sample.admission "delete" .deleteApplication) none none Sample.fresh]

theorem slots_agree_blockedDeletion :
    (store.after {} blockedDeletion).ledger.Slotted ∧
      ((store.after {} blockedDeletion).slots.find? "app").any
        (fun row => row.active.slot .prod = some "restart") = true ∧
      (store.after {} blockedDeletion).ledger.operation "delete" = none :=
  ⟨(slots_agree (.of_follows (Machine.follows_of_forall fun _ _ _ => trivial))).1, by decide +kernel,
    by decide +kernel⟩

end Rcoder.Lifecycle
