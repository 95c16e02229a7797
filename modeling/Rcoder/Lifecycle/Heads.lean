import Rcoder.Lifecycle.Slots

/-!
# Heads and controls

The head of a scope names the control that has authority over it. Moves fall into six kinds by
what they do to heads and controls. A live control is always the one that the head of its scope
names, whatever has been admitted, freed or recreated, and generations only grow.
-/

namespace Rcoder.Lifecycle

namespace Ledger

/-- Every application is still there, in the lifecycle it had. -/
def KeepsApps (L L' : Ledger) : Prop :=
  ∀ app, L.Holds app → ∃ app', L'.Holds app' ∧ app'.appId = app.appId ∧
    app'.lifecycleId = app.lifecycleId

theorem KeepsApps.of_eq {L L' : Ledger} (hroot : L'.root = L.root) (hslots : L'.slots = L.slots) :
    KeepsApps L L' := by
  intro app h
  refine ⟨app, ?_, rfl, rfl⟩
  rw [Holds, hroot, hslots]
  exact h

theorem KeepsApps.of_put {L L' : Ledger} {app app' : LifecycleRecord} (holds : L.Holds app)
    (same : SameIncarnation app app') (hroot : L'.root = (L.put app').root)
    (hslots : L'.slots = (L.put app').slots) : KeepsApps L L' := by
  have hholds : ∀ other, L'.Holds other ↔ (L.put app').Holds other := by
    intro other
    rw [Holds, Holds, hroot, hslots]
  intro other ho
  by_cases hid : other.appId = app'.appId
  · have heq := ho.eq holds (hid.trans same.appId)
    refine ⟨app', (hholds _).mpr (L.holds_put app'), hid.symm, ?_⟩
    rw [heq]
    exact same.lifecycleId
  · exact ⟨other, (hholds _).mpr ((L.holds_put_of_ne hid).mpr ho), rfl, rfl⟩

/-- What a move does to heads and controls. -/
inductive Steers (act : Act) (L L' : Ledger) : Prop
  | keeps (heads : L'.head = L.head) (controls : L'.control = L.control) (apps : L.KeepsApps L')
  | renews {app : LifecycleRecord} (holds : L.Holds app)
      (settled : ∀ scope head, scope ≠ .application → L.head (app.appId, scope) = some head →
        L.SettledHead head)
      (heads : ∀ id scope, scope ≠ .application →
        L'.head (id, scope) = if id = app.appId then none else L.head (id, scope))
      (whole : ∀ id, L'.head (id, .application) = L.head (id, .application))
      (controls : L'.control = L.control)
      (apps : ∀ other, L.Holds other → other.appId ≠ app.appId → L'.Holds other)
  | opens {app : LifecycleRecord} {head : IntentRow} (holds : L.Holds app)
      (appId : head.appId = app.appId) (lifecycleId : head.lifecycleId = app.lifecycleId)
      (environment : head.scope ≠ .application)
      (missing : L.head (head.appId, head.scope) = none)
      (unnamed : head.controlOperationId = none) (written : L' = L.setHead head)
  | hands {app : LifecycleRecord} {new : ControlRecord} {handed : List String}
      {old : Option ControlRecord} {head : IntentRow}
      (admits : L.AdmitsControl app new handed old head)
      (by_admission : act = .admitControl new.operationId)
      (written : L' = ((L.supersede old).setControl new).setHead head)
  | turns {control control' : ControlRecord}
      (stored : L.control control.operationId = some control)
      (step : ControlStep act control control') (written : L' = L.setControl control')
  | frees {head head' : IntentRow} (stored : L.head (head.appId, head.scope) = some head)
      (ended : ∀ id control, head.controlOperationId = some id → L.control id = some control →
        control.isLive = false)
      (freed : head' = { head with
        desiredState := .running, controlOperationId := none, revision := head.revision + 1 })
      (by_access : act = .release head.appId head.scope) (written : L' = L.setHead head')

variable {act : Act} {L L' : Ledger}

theorem Move.steers (hm : Move act L L') : Steers act L L' := by
  cases hm with
  | @openRoot app missing =>
    refine .keeps rfl rfl fun other ho => ⟨other, ?_, rfl, rfl⟩
    have hne : other.appId ≠ app.appId := by
      intro hid
      have hroot := ho.1
      rw [hid, missing] at hroot
      cases hroot
    exact (L.holds_put_of_ne hne).mpr ho
  | patch holds same => exact .keeps rfl rfl (.of_put holds same rfl rfl)
  | accept holds _ accepted =>
    exact .keeps rfl rfl (.of_put holds accepted.same rfl rfl)
  | nameRequest | bindLease | forgetLease => exact .keeps rfl rfl (.of_eq rfl rfl)
  | step inSlot _ _ follows => exact .keeps rfl rfl (.of_put inSlot.holds follows.same rfl rfl)
  | touch inSlot _ _ follows =>
    exact .keeps rfl rfl (.of_put inSlot.holds follows.same rfl rfl)
  | @recreate app next row holds _ _ settled following =>
    refine .renews holds settled (fun id scope hscope => ?_) (fun id => ?_) rfl
      fun other ho hne => ?_
    · simp only [setRequest, saveApp, put, dropHead]
      by_cases hid : id = app.appId
      · subst hid
        cases scope with
        | application => exact absurd rfl hscope
        | dev | prod => simp
      · simp [hid]
    · simp [setRequest, saveApp, put, dropHead]
    · have hnext : other.appId ≠ next.appId := by rw [following.appId]; exact hne
      exact (L.holds_put_of_ne hnext).mpr ho
  | @rebind app next holds _ _ _ following _ _ _ heads =>
    refine .renews holds (fun scope head _ hh => ?_) (fun id scope _ => ?_) (fun _ => rfl) rfl
      fun other ho hne => ?_
    · rw [heads] at hh
      cases hh
    · by_cases hid : id = app.appId
      · rw [if_pos hid, hid]
        exact heads scope
      · rw [if_neg hid]
        rfl
    · have hnext : other.appId ≠ next.appId := by rw [following.appId]; exact hne
      exact (L.holds_put_of_ne hnext).mpr ho
  | openHead holds appId lifecycleId environment missing unnamed =>
    exact .opens holds appId lifecycleId environment missing unnamed rfl
  | admitControl admits by_admission => exact .hands admits by_admission rfl
  | control stored step => exact .turns stored step rfl
  | release stored ended freed by_access => exact .frees stored ended freed by_access rfl

/-- Heads name controls of their own application, scope, lifecycle and generation; a live control
is named by the head of its scope. -/
structure Headed (L : Ledger) : Prop where
  keyed : ∀ id control, L.control id = some control → control.operationId = id ∧
    control.scope ≠ .application
  current : ∀ id scope head, L.head (id, scope) = some head → head.appId = id ∧
    head.scope = scope ∧ scope ≠ .application ∧
    ∃ app, L.Holds app ∧ app.appId = id ∧ head.lifecycleId = app.lifecycleId
  named : ∀ key head id, L.head key = some head → head.controlOperationId = some id →
    ∃ control, L.control id = some control ∧ Names head control
  live : ∀ id control, L.control id = some control → control.isLive = true →
    ∃ head, L.head (control.appId, control.scope) = some head ∧ Names head control
  distinct : ∀ id id' control control', L.control id = some control →
    L.control id' = some control' → control'.appId = control.appId →
    control'.scope = control.scope → control'.generation = control.generation → id = id'

variable {id : String} {app : LifecycleRecord} {head : IntentRow}
  {new control control' : ControlRecord} {handed : List String} {old : Option ControlRecord}

theorem Names.congr (h : Names head control)
    (same : SameControl control control') : Names head control' :=
  ⟨h.appId.trans same.appId.symm, h.scope.trans same.scope.symm,
    h.lifecycleId.trans same.lifecycleId.symm, h.generation.trans same.generation.symm,
    h.named.trans (congrArg some same.operationId.symm)⟩

theorem control_supersede_some {found : ControlRecord}
    (hold : ∀ c, old = some c → L.control c.operationId = some c)
    (h : (L.supersede old).control id = some found) :
    ∃ before, L.control id = some before ∧ SameControl before found ∧
      ((found = before ∧ ∀ c, old = some c → id ≠ c.operationId) ∨
        (old = some before ∧ found = Compute.supersede before)) := by
  cases old with
  | none => exact ⟨found, h, .refl found, .inl ⟨rfl, by simp⟩⟩
  | some c =>
    obtain ⟨rfl, rfl⟩ | ⟨hid, h⟩ := control_setControl.mp h
    · exact ⟨c, hold c rfl, .supersede c, .inr ⟨rfl, rfl⟩⟩
    · refine ⟨found, h, .refl found, .inl ⟨rfl, fun c' hc' => ?_⟩⟩
      obtain rfl := Option.some.inj hc'
      exact hid

theorem control_turned {found : ControlRecord}
    (stored : L.control control.operationId = some control)
    (step : ControlStep act control control') (h : (L.setControl control').control id = some found) :
    ∃ before, L.control id = some before ∧ SameControl before found ∧
      (found = before ∨ (before = control ∧ found = control')) := by
  obtain ⟨rfl, rfl⟩ | ⟨-, h⟩ := control_setControl.mp h
  · refine ⟨control, ?_, step.same, .inr ⟨rfl, rfl⟩⟩
    rw [step.same.operationId]
    exact stored
  · exact ⟨found, h, .refl found, .inl rfl⟩

theorem control_kept {found : ControlRecord} (stored : L.control control.operationId = some control)
    (step : ControlStep act control control') (h : L.control id = some found) :
    ∃ found', (L.setControl control').control id = some found' ∧ SameControl found found' := by
  by_cases hid : id = control'.operationId
  · subst hid
    rw [step.same.operationId, stored] at h
    obtain rfl := Option.some.inj h
    exact ⟨control', control_setControl_self .., step.same⟩
  · exact ⟨found, (Function.update_of_ne hid ..).trans h, .refl found⟩

theorem Inherits.stored
    (h : L.Inherits new handed old) : ∀ c, old = some c → L.control c.operationId = some c := by
  intro c hc
  cases h with
  | superseded _ _ _ found =>
    obtain rfl := Option.some.inj hc
    exact found
  | absent | historical | unnamed | ended => cases hc

/-- What a new control inherits where the head of its scope names a control. -/
theorem Inherits.of_named (h : L.Inherits new handed old)
    (hh : L.head (new.appId, new.scope) = some head)
    (hnamed : head.controlOperationId = some control.operationId)
    (hc : L.control control.operationId = some control) :
    L.SettledHead head ∨ (head.lifecycleId = new.lifecycleId ∧
      control.interruptedOperations ⊆ handed ∧ (control.isLive = true → old = some control)) := by
  have hheld : ∀ before : ControlRecord, head.controlOperationId = some before.operationId →
      L.control before.operationId = some before → before = control := by
    intro before hb hbefore
    rw [Option.mem_unique hb hnamed] at hbefore
    exact Option.mem_unique hbefore hc
  cases h with
  | absent missing => cases hh.symm.trans missing
  | historical stored _ settled =>
    cases hh.symm.trans stored
    exact .inl settled
  | unnamed stored _ unnamed =>
    cases hh.symm.trans stored
    cases hnamed.symm.trans unnamed
  | ended stored same named found ended =>
    cases hh.symm.trans stored
    obtain rfl := hheld _ named found
    refine .inr ⟨same, List.Subset.refl _, fun hlive => ?_⟩
    cases hlive.symm.trans ended
  | superseded stored same named found =>
    cases hh.symm.trans stored
    obtain rfl := hheld _ named found
    exact .inr ⟨same, List.subset_append_left .., fun _ => rfl⟩

theorem AdmitsControl.found (h : L.AdmitsControl app new handed old head)
    (hc : (((L.supersede old).setControl new).setHead head).control id = some control) :
    (id = new.operationId ∧ control = new) ∨
      (id ≠ new.operationId ∧ ∃ before, L.control id = some before ∧ SameControl before control ∧
        ((control = before ∧ ∀ c, old = some c → id ≠ c.operationId) ∨
          (old = some before ∧ control = Compute.supersede before))) := by
  obtain ⟨hid, rfl⟩ | ⟨hid, hc⟩ := control_setControl.mp hc
  · exact .inl ⟨hid, rfl⟩
  · exact .inr ⟨hid, control_supersede_some h.inherits.stored hc⟩

theorem AdmitsControl.kept (h : L.AdmitsControl app new handed old head)
    (hc : L.control id = some control) :
    ∃ control', (((L.supersede old).setControl new).setHead head).control id = some control' ∧
      SameControl control control' := by
  have hid : id ≠ new.operationId := by
    rintro rfl
    rw [h.fresh] at hc
    cases hc
  have hsome : ∃ control', (L.supersede old).control id = some control' := by
    cases hfound : (L.supersede old).control id with
    | some control' => exact ⟨control', rfl⟩
    | none =>
      rw [Compute.control_supersede hfound] at hc
      cases hc
  obtain ⟨control', hc'⟩ := hsome
  obtain ⟨before, hbefore, hsame, -⟩ := control_supersede_some h.inherits.stored hc'
  cases hbefore.symm.trans hc
  exact ⟨control', (Function.update_of_ne hid ..).trans hc', hsame⟩

/-- What is found after a move has just been admitted, or was there before: it has changed by a step
of its own, lost its authority, or stayed as it was. -/
theorem Move.control_found (hm : Move act L L') (hc : L'.control id = some control) :
    (act = .admitControl id ∧ control.operationId = id ∧
        ∃ app handed old head, L.AdmitsControl app control handed old head) ∨
      ∃ before, L.control id = some before ∧ SameControl before control ∧
        (control = before ∨ ControlStep act before control ∨
          (before.isLive = true ∧ control = Compute.supersede before)) := by
  cases hm with
  | admitControl admits by_admission =>
    obtain ⟨rfl, rfl⟩ | ⟨-, before, hb, hsame, heq⟩ := admits.found hc
    · exact .inl ⟨by_admission, rfl, _, _, _, _, admits⟩
    · refine .inr ⟨before, hb, hsame, ?_⟩
      obtain ⟨heq, -⟩ | ⟨rfl, heq⟩ := heq
      · exact .inl heq
      · cases admits.inherits with
        | superseded _ _ _ _ live => exact .inr (.inr ⟨live, heq⟩)
  | control stored step =>
    obtain ⟨before, hb, hsame, heq | ⟨rfl, rfl⟩⟩ := control_turned stored step hc
    · exact .inr ⟨before, hb, hsame, .inl heq⟩
    · exact .inr ⟨before, hb, hsame, .inr (.inl step)⟩
  | openRoot | patch | accept | nameRequest | step | touch | bindLease | forgetLease | recreate
  | rebind | openHead | release => exact .inr ⟨control, hc, .refl control, .inl rfl⟩

namespace Headed

theorem empty : (Store.ledger {}).Headed :=
  ⟨fun _ c h => absurd h.symm (Option.some_ne_none c),
    fun _ _ head h => absurd h.symm (Option.some_ne_none head),
    fun _ head _ h => absurd h.symm (Option.some_ne_none head),
    fun _ c h => absurd h.symm (Option.some_ne_none c),
    fun _ _ c _ h => absurd h.symm (Option.some_ne_none c)⟩

variable (h : L.Headed)
include h

/-- A live control loses its authority when its scope is handed to a new one. -/
theorem superseded_of_live (admits : L.AdmitsControl app new handed old head)
    (hc : L.control id = some control) (hlive : control.isLive = true)
    (happ : control.appId = new.appId)
    (hscope : control.scope = new.scope) : old = some control := by
  obtain ⟨named, hnamed, hnames⟩ := h.live id control hc hlive
  rw [happ, hscope] at hnamed
  obtain ⟨rfl, -⟩ := h.keyed id control hc
  obtain settled | ⟨-, -, hold⟩ := admits.inherits.of_named hnamed hnames.named hc
  · have hended := (settled _ control hc hnames.appId.symm hnames.lifecycleId.symm
      hnames.scope.symm).ended
    rw [hlive] at hended
    cases hended
  · exact hold hlive

theorem keyed_move (hm : Move act L L') (hc : L'.control id = some control) :
    control.operationId = id ∧ control.scope ≠ .application := by
  obtain ⟨-, hid, _, _, _, _, admits⟩ | ⟨before, hb, hsame, -⟩ := hm.control_found hc
  · exact ⟨hid, admits.environment⟩
  · obtain ⟨hid, hscope⟩ := h.keyed id before hb
    exact ⟨hsame.operationId.trans hid, by rw [hsame.scope]; exact hscope⟩

theorem distinct_move (hm : Move act L L') {id' : String}
    (hc : L'.control id = some control) (hc' : L'.control id' = some control')
    (happ : control'.appId = control.appId) (hscope : control'.scope = control.scope)
    (hgen : control'.generation = control.generation) : id = id' := by
  obtain ⟨hact, -, _, _, _, _, admits⟩ | ⟨before, hb, hsame, -⟩ := hm.control_found hc <;>
    obtain ⟨hact', -, _, _, _, _, admits'⟩ | ⟨before', hb', hsame', -⟩ := hm.control_found hc'
  · exact Act.admitControl.inj (hact.symm.trans hact')
  · have hlt := admits.generation id' before' hb' (hsame'.appId.symm.trans happ)
      (hsame'.scope.symm.trans hscope)
    rw [← hsame'.generation, hgen] at hlt
    exact absurd hlt (lt_irrefl _)
  · have hlt := admits'.generation id before hb (hsame.appId.symm.trans happ.symm)
      (hsame.scope.symm.trans hscope.symm)
    rw [← hsame.generation, hgen] at hlt
    exact absurd hlt (lt_irrefl _)
  · refine h.distinct id id' before before' hb hb' ?_ ?_ ?_
    · rw [← hsame.appId, ← hsame'.appId, happ]
    · rw [← hsame.scope, ← hsame'.scope, hscope]
    · rw [← hsame.generation, ← hsame'.generation, hgen]

theorem hands (hm : Move act L L') (admits : L.AdmitsControl app new handed old head)
    (written : L' = ((L.supersede old).setControl new).setHead head) : L'.Headed := by
  have hholds : ∀ a, L.Holds a → L'.Holds a := by
    intro a ha
    rw [written]
    cases old <;> exact ha
  have hnew : L'.control new.operationId = some new := by
    rw [written]
    exact control_setControl_self ..
  have hheads : ∀ key found, L'.head key = some found →
      (key = (head.appId, head.scope) ∧ found = head) ∨
        (key ≠ (head.appId, head.scope) ∧ L.head key = some found) := by
    intro key found hf
    rw [written] at hf
    obtain hf | ⟨hne, hf⟩ := head_setHead.mp hf
    · exact .inl hf
    · refine .inr ⟨hne, ?_⟩
      cases old <;> exact hf
  refine ⟨fun _ _ => h.keyed_move hm, ?_, ?_, ?_, fun _ _ _ _ => h.distinct_move hm⟩
  · intro id scope found hf
    obtain ⟨hkey, rfl⟩ | ⟨-, hf⟩ := hheads _ found hf
    · obtain ⟨rfl, rfl⟩ := Prod.mk.inj hkey
      refine ⟨rfl, rfl, ?_, app, hholds app admits.holds, ?_, ?_⟩
      · rw [admits.names.scope]
        exact admits.environment
      · exact (admits.names.appId.trans admits.appId).symm
      · exact admits.names.lifecycleId.trans admits.lifecycleId
    · obtain ⟨happ, hscope, hne, a, ha, hrest⟩ := h.current id scope found hf
      exact ⟨happ, hscope, hne, a, hholds a ha, hrest⟩
  · intro key found id hf hid
    obtain ⟨-, rfl⟩ | ⟨-, hf⟩ := hheads key found hf
    · cases hid.symm.trans admits.names.named
      exact ⟨new, hnew, admits.names⟩
    · obtain ⟨control, hc, hnames⟩ := h.named key found id hf hid
      obtain ⟨control', hc', hsame⟩ := admits.kept hc
      rw [← written] at hc'
      exact ⟨control', hc', hnames.congr hsame⟩
  · intro id control hc hlive
    have hself : L'.head (head.appId, head.scope) = some head := by
      rw [written]
      exact head_setHead_self ..
    rw [written] at hc
    obtain ⟨-, rfl⟩ | ⟨hne, before, hb, hsame, heq⟩ := admits.found hc
    · refine ⟨head, ?_, admits.names⟩
      rw [admits.names.appId, admits.names.scope] at hself
      exact hself
    · obtain ⟨rfl, hkept⟩ | ⟨-, rfl⟩ := heq
      · obtain ⟨named, hn, hnames⟩ := h.live id control hb hlive
        refine ⟨named, ?_, hnames⟩
        have hkey : (control.appId, control.scope) ≠ (head.appId, head.scope) := by
          intro hkey
          obtain ⟨happ, hscope⟩ := Prod.mk.inj hkey
          rw [admits.names.appId] at happ
          rw [admits.names.scope] at hscope
          -- the control that lost its authority is not live
          have hold := h.superseded_of_live admits hb hlive happ hscope
          exact hkept control hold (h.keyed id control hb).1.symm
        rw [written]
        refine head_setHead.mpr (.inr ⟨hkey, ?_⟩)
        cases old <;> exact hn
      · cases hlive

theorem turns (stored : L.control control.operationId = some control)
    (step : ControlStep act control control') (hm : Move act L (L.setControl control')) :
    (L.setControl control').Headed := by
  refine ⟨fun _ _ => h.keyed_move hm, h.current, ?_, ?_, fun _ _ _ _ => h.distinct_move hm⟩
  · intro key head id hh hid
    obtain ⟨before, hb, hnames⟩ := h.named key head id hh hid
    obtain ⟨found, hf, hs⟩ := control_kept stored step hb
    exact ⟨found, hf, hnames.congr hs⟩
  · intro id found hf hlive
    obtain ⟨before, hb, hs, heq⟩ := control_turned stored step hf
    have hl : before.isLive = true := by
      obtain rfl | ⟨rfl, rfl⟩ := heq
      · exact hlive
      · exact step.live_of_live hlive
    obtain ⟨head, hh, hnames⟩ := h.live id before hb hl
    refine ⟨head, ?_, hnames.congr hs⟩
    rw [hs.appId, hs.scope]
    exact hh

theorem replaces (holds : L.Holds app) (appId : head.appId = app.appId)
    (lifecycleId : head.lifecycleId = app.lifecycleId) (environment : head.scope ≠ .application)
    (unnamed : head.controlOperationId = none)
    (idle : ∀ id control, L.control id = some control → control.isLive = true →
      (control.appId, control.scope) ≠ (head.appId, head.scope)) : (L.setHead head).Headed := by
  refine ⟨h.keyed, ?_, ?_, ?_, h.distinct⟩
  · intro id scope found hf
    obtain ⟨hkey, rfl⟩ | ⟨-, hf⟩ := head_setHead.mp hf
    · obtain ⟨rfl, rfl⟩ := Prod.mk.inj hkey
      exact ⟨rfl, rfl, environment, app, holds, appId.symm, lifecycleId⟩
    · exact h.current id scope found hf
  · intro key found id hf hid
    obtain ⟨-, rfl⟩ | ⟨-, hf⟩ := head_setHead.mp hf
    · rw [unnamed] at hid
      cases hid
    · exact h.named key found id hf hid
  · intro id control hc hlive
    obtain ⟨found, hf, hnames⟩ := h.live id control hc hlive
    exact ⟨found, head_setHead.mpr (.inr ⟨idle id control hc hlive, hf⟩), hnames⟩

theorem move (hm : Move act L L') : L'.Headed := by
  cases hm.steers with
  | keeps heads controls apps =>
    refine ⟨fun _ _ => h.keyed_move hm, ?_, ?_, ?_, fun _ _ _ _ => h.distinct_move hm⟩
    · intro id scope head hh
      rw [heads] at hh
      obtain ⟨happ, hscope, hne, app, ha, hid, hlife⟩ := h.current id scope head hh
      obtain ⟨app', ha', happ', hlife'⟩ := apps app ha
      exact ⟨happ, hscope, hne, app', ha', happ'.trans hid, hlife.trans hlife'.symm⟩
    · rw [heads, controls]
      exact h.named
    · rw [heads, controls]
      exact h.live
  | @renews app holds settled heads whole controls apps =>
    have hkept : ∀ key found, L'.head key = some found → key.1 ≠ app.appId ∧
        L.head key = some found := by
      rintro ⟨id, scope⟩ found hf
      by_cases hscope : scope = .application
      · subst hscope
        rw [whole] at hf
        exact absurd rfl (h.current id _ found hf).2.2.1
      · rw [heads id scope hscope] at hf
        split at hf
        · cases hf
        · exact ⟨‹_›, hf⟩
    refine ⟨fun _ _ => h.keyed_move hm, ?_, ?_, ?_, fun _ _ _ _ => h.distinct_move hm⟩
    · intro id scope head hh
      obtain ⟨hne, hh⟩ := hkept _ head hh
      obtain ⟨happ, hscope, henv, other, ho, hid, hlife⟩ := h.current id scope head hh
      exact ⟨happ, hscope, henv, other, apps other ho (by rw [hid]; exact hne), hid, hlife⟩
    · intro key head id hh hid
      obtain ⟨-, hh⟩ := hkept key head hh
      rw [controls]
      exact h.named key head id hh hid
    · intro id control hc hlive
      rw [controls] at hc
      obtain ⟨head, hh, hnames⟩ := h.live id control hc hlive
      obtain ⟨-, hscope⟩ := h.keyed id control hc
      refine ⟨head, ?_, hnames⟩
      rw [heads _ _ hscope]
      split
      · -- a settled head has no live control
        rename_i happ
        rw [happ] at hh
        have hended := (settled _ head hscope hh id control hc hnames.appId.symm
          hnames.lifecycleId.symm hnames.scope.symm).ended
        rw [hlive] at hended
        cases hended
      · exact hh
  | opens holds appId lifecycleId environment missing unnamed written =>
    rw [written]
    refine h.replaces holds appId lifecycleId environment unnamed fun id control hc hlive hkey => ?_
    obtain ⟨found, hf, -⟩ := h.live id control hc hlive
    rw [hkey, missing] at hf
    cases hf
  | hands admits _ written => exact h.hands hm admits written
  | turns stored step written =>
    subst written
    exact h.turns stored step hm
  | @frees head head' stored ended freed by_access written =>
    obtain ⟨-, -, henv, app, ha, happ, hlife⟩ := h.current _ _ head stored
    rw [written, freed]
    refine h.replaces ha happ.symm hlife henv rfl fun id control hc hlive hkey => ?_
    obtain ⟨found, hf, hnames⟩ := h.live id control hc hlive
    obtain ⟨hid, -⟩ := h.keyed id control hc
    rw [hkey, stored] at hf
    obtain rfl := Option.some.inj hf
    have hnot := ended id control (by rw [hnames.named, hid]) hc
    rw [hlive] at hnot
    cases hnot

end Headed

/-- Controls keep what identifies them, and a control that is admitted later has a greater
generation than those of its application and scope before it. -/
structure Grows (L L' : Ledger) : Prop where
  kept : ∀ id control, L.control id = some control →
    ∃ control', L'.control id = some control' ∧ SameControl control control'
  later : ∀ id new, L'.control id = some new → L.control id = none →
    ∀ id' control, L.control id' = some control → control.appId = new.appId →
      control.scope = new.scope → control.generation < new.generation

namespace Grows

theorem of_eq (h : L'.control = L.control) : Grows L L' := by
  refine ⟨fun id control hc => ⟨control, by rw [h]; exact hc, .refl control⟩, ?_⟩
  intro id new hn hnone
  rw [h, hnone] at hn
  cases hn

theorem trans {L'' : Ledger} (h : Grows L L') (h' : Grows L' L'') : Grows L L'' := by
  refine ⟨?_, ?_⟩
  · intro id control hc
    obtain ⟨between, hb, hsame⟩ := h.kept id control hc
    obtain ⟨control', hc', hsame'⟩ := h'.kept id between hb
    exact ⟨control', hc', hsame.trans hsame'⟩
  · intro id new hn hnone id' control hc happ hscope
    cases hb : L'.control id with
    | some between =>
      obtain ⟨found, hf, hsame⟩ := h'.kept id between hb
      cases hn.symm.trans hf
      rw [hsame.generation]
      exact h.later id between hb hnone id' control hc (happ.trans hsame.appId)
        (hscope.trans hsame.scope)
    | none =>
      obtain ⟨kept, hk, hsame⟩ := h.kept id' control hc
      rw [← hsame.generation]
      exact h'.later id new hn hb id' kept hk (hsame.appId.trans happ) (hsame.scope.trans hscope)

theorem of_move (hm : Move act L L') : Grows L L' := by
  refine ⟨fun id control hc => ?_, fun id new hn hnone id' control hc => ?_⟩
  · cases hm with
    | admitControl admits => exact admits.kept hc
    | control stored step => exact control_kept stored step hc
    | openRoot | patch | accept | nameRequest | step | touch | bindLease | forgetLease | recreate
    | rebind | openHead | release => exact ⟨control, hc, .refl control⟩
  · obtain ⟨-, -, _, _, _, _, admits⟩ | ⟨before, hb, -⟩ := hm.control_found hn
    · exact admits.generation id' control hc
    · rw [hb] at hnone
      cases hnone

end Grows

/-- A control stays stored; it changes by a step of its own or loses its authority. -/
theorem Move.control_next (hm : Move act L L') (hc : L.control id = some control) :
    ∃ control', L'.control id = some control' ∧
      (control' = control ∨ ControlStep act control control' ∨
        (control.isLive = true ∧ control' = Compute.supersede control)) := by
  obtain ⟨control', hc', -⟩ := (Grows.of_move hm).kept id control hc
  refine ⟨control', hc', ?_⟩
  obtain ⟨-, hid, _, _, _, _, admits⟩ | ⟨before, hb, -, hchange⟩ := hm.control_found hc'
  · rw [← hid, admits.fresh] at hc
    cases hc
  · cases hc.symm.trans hb
    exact hchange

end Ledger

variable {ok : Store → Op → Prop} {tr : List (Op × Except StoreError Answer)} {s t : Store}

theorem Run.headed (hr : store.Run ok {} tr s) : s.ledger.Headed :=
  Run.keeps hr .empty fun _ _ _ hm h => h.move hm

theorem Run.grows (hr : store.Run ok s tr t) : s.ledger.Grows t.ledger :=
  Run.keeps hr (.of_eq rfl) fun _ _ _ hm h => h.trans (.of_move hm)

/-- At most one live control in a scope, which the head of the scope names in its generation, and
generations in the order of admission. -/
structure OneLiveControl (s : Store) : Prop where
  headed : ∀ app id control, s.ledger.Holds app → s.ledger.control id = some control →
    control.appId = app.appId → control.lifecycleId = app.lifecycleId → control.isLive = true →
    ∃ head, s.ledger.head (app.appId, control.scope) = some head ∧
      head.lifecycleId = app.lifecycleId ∧ head.controlOperationId = some id ∧
      head.generation = control.generation
  unique : ∀ app id id' control control', s.ledger.Holds app →
    s.ledger.control id = some control → s.ledger.control id' = some control' →
    control.appId = app.appId → control'.appId = app.appId →
    control.lifecycleId = app.lifecycleId → control'.lifecycleId = app.lifecycleId →
    control'.scope = control.scope → control.isLive = true → control'.isLive = true → id = id'
  distinct : ∀ id id' control control', s.ledger.control id = some control →
    s.ledger.control id' = some control' → control'.appId = control.appId →
    control'.scope = control.scope → id ≠ id' → control'.generation ≠ control.generation
  ordered : ∀ ok tr t, store.Run ok s tr t → ∀ id id' control control',
    s.ledger.control id = some control → s.ledger.control id' = none →
    t.ledger.control id' = some control' → control'.appId = control.appId →
    control'.scope = control.scope → control.generation < control'.generation

theorem one_live_control (hr : store.Run ok {} tr s) : OneLiveControl s := by
  have hheaded := Run.headed hr
  have hnamed : ∀ id control, s.ledger.control id = some control → control.isLive = true →
      ∃ head, s.ledger.head (control.appId, control.scope) = some head ∧
        head.lifecycleId = control.lifecycleId ∧ head.controlOperationId = some id ∧
        head.generation = control.generation := by
    intro id control hc hlive
    obtain ⟨head, hh, hnames⟩ := hheaded.live id control hc hlive
    obtain ⟨rfl, -⟩ := hheaded.keyed id control hc
    exact ⟨head, hh, hnames.lifecycleId, hnames.named, hnames.generation⟩
  refine ⟨?_, ?_, ?_, ?_⟩
  · intro app id control _ hc happ hlife hlive
    rw [← happ, ← hlife]
    exact hnamed id control hc hlive
  · intro app id id' control control' _ hc hc' happ happ' _ _ hscope hlive hlive'
    obtain ⟨head, hh, -, hid, -⟩ := hnamed id control hc hlive
    obtain ⟨head', hh', -, hid', -⟩ := hnamed id' control' hc' hlive'
    rw [happ', ← happ, hscope] at hh'
    cases hh.symm.trans hh'
    exact Option.mem_unique hid hid'
  · intro id id' control control' hc hc' happ hscope hne hgen
    exact hne (hheaded.distinct id id' control control' hc hc' happ hscope hgen)
  · intro ok tr t hrun id id' control control' hc hnone hc' happ hscope
    exact (Run.grows hrun).later id' control' hc' hnone id control hc happ.symm hscope.symm

/-- A restart that was claimed loses its scope to a stop. -/
def takeover : List Op :=
  [.ensureIdentity "app" Sample.fresh,
    .admitControl (Sample.controlRequest "restart" .restart) false 1,
    .claimControl (Sample.executor "restart" 1) 1,
    .admitControl (Sample.controlRequest "stop" .stop) false 1]

theorem one_live_control_takeover :
    OneLiveControl (store.after {} takeover) ∧
      ((store.after {} takeover).ledger.control "restart").any (fun c => c.generation = 1) = true ∧
      ((store.after {} takeover).ledger.control "stop").any (fun c => c.generation = 2 ∧ c.isLive) =
        true :=
  ⟨one_live_control (.of_follows (Machine.follows_of_forall fun _ _ _ => trivial)),
    by decide +kernel, by decide +kernel⟩

end Rcoder.Lifecycle
