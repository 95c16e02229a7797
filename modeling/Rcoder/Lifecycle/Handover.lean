import Rcoder.Lifecycle.Journal

/-!
# Handing over interrupted work

A control interrupts what is under way in its scope and answers for it until it has ended. When
another control takes the scope, it takes over the list. What a control answers for is therefore
settled, or named by the control that the head of the scope names; unless the head was freed
while something on its list was not settled, which nothing in the store prevents.
-/

namespace Rcoder.Lifecycle

open Function

namespace Ledger

variable {act : Act} {L L' : Ledger}

/-! ### What a move does to operations -/

/-- The same operation later on; nothing happens to it once it has ended. -/
structure LaterOperation (operation operation' : OperationRecord) : Prop where
  appId : operation'.appId = operation.appId
  lifecycleId : operation'.lifecycleId = operation.lifecycleId
  scope : operation'.scope = operation.scope
  kind : operation'.kind = operation.kind
  ended : operation.state.isTerminal = true → operation' = operation

theorem LaterOperation.refl (operation : OperationRecord) : LaterOperation operation operation :=
  ⟨rfl, rfl, rfl, rfl, fun _ => rfl⟩

variable {operation : OperationRecord} {id : String} {control : ControlRecord}
  {operation' : OperationRecord}

theorem OperationStep.later {app : LifecycleRecord}
    (h : OperationStep act app operation operation') : LaterOperation operation operation' := by
  obtain ⟨-, happ, hlife, hscope, hkind⟩ := mergeProgress_same h.merge
  refine ⟨happ, hlife, hscope, hkind, fun hends => ?_⟩
  rw [h.live] at hends
  cases hends

theorem Move.operation_kept (hm : Move act L L') (h : L.operation id = some operation) :
    ∃ operation', L'.operation id = some operation' ∧ LaterOperation operation operation' := by
  obtain hkept | ⟨app, after, ha, step⟩ := hm.operation_next h
  · exact ⟨operation, hkept, .refl operation⟩
  · exact ⟨after, ha, OperationStep.later step⟩

theorem Move.operation_new (hm : Move act L L') (h : L'.operation id = some operation)
    (hnone : L.operation id = none) : act = .admission id := by
  obtain hold | ⟨by_admission, -⟩ | ⟨app, before, hb, -⟩ := hm.operation_found h
  · rw [hnone] at hold
    cases hold
  · exact by_admission
  · rw [hnone] at hb
    cases hb

theorem Move.lease_none (hm : Move act L L') (h : L.lease id = none)
    (hended : ∀ operation, L.operation id = some operation →
      operation.state.isTerminal = true) : L'.lease id = none := by
  cases hm with
  | @bindLease app operation binding inSlot running =>
    refine (update_of_ne ?_ ..).trans h
    rintro rfl
    have hstate := hended operation inSlot.stored
    rw [running] at hstate
    cases hstate
  | @forgetLease operation =>
    by_cases hid : id = operation.operationId
    · subst hid
      exact update_self ..
    · exact (update_of_ne hid ..).trans h
  | @admitControl _ _ _ old => cases old <;> exact h
  | openRoot | patch | accept | nameRequest | step | touch | recreate | rebind | openHead
  | control | release => exact h

/-! ### Identities of one kind -/

/-- The identity that is admitted is not one of the other ledger. -/
structure Apart (act : Act) (L : Ledger) : Prop where
  admission : ∀ id, act = .admission id → L.control id = none
  admitControl : ∀ id, act = .admitControl id → L.operation id = none

theorem Apart.move (h : Apart act L) (hm : Move act L L') : Apart act L' := by
  refine ⟨?_, ?_⟩
  · intro id hact
    have hnone := h.admission id hact
    cases hc : L'.control id with
    | none => rfl
    | some =>
      obtain ⟨hcontrol, -⟩ | ⟨before, hb, -⟩ := hm.control_found hc
      · rw [hact] at hcontrol
        cases hcontrol
      · rw [hnone] at hb
        cases hb
  · intro id hact
    have hnone := h.admitControl id hact
    cases ho : L'.operation id with
    | none => rfl
    | some =>
      have hadmission := hm.operation_new ho hnone
      rw [hact] at hadmission
      cases hadmission

/-! ### What a control answers for -/

/-- What has to be settled before the control acts on its scope: what it interrupted and, once it
has lost its authority, the control itself. -/
def Owed (control : ControlRecord) (id : String) : Prop :=
  id ∈ control.interruptedOperations ∨
    (control.state = .superseded ∧ id = control.operationId)

/-- The control that the head of the scope names answers for it now. -/
def Covers (L : Ledger) (control : ControlRecord) (id : String) : Prop :=
  ∃ head heir, L.head (control.appId, control.scope) = some head ∧
    head.lifecycleId = control.lifecycleId ∧
    head.controlOperationId = some heir.operationId ∧
    L.control heir.operationId = some heir ∧ id ∈ heir.interruptedOperations

/-- The identity is that of a control, or of an operation that a control of this scope can
interrupt. -/
def Known (L : Ledger) (control : ControlRecord) (id : String) : Prop :=
  (∃ old, L.control id = some old) ∨ ∃ operation, L.operation id = some operation ∧
    operation.appId = control.appId ∧ operation.lifecycleId = control.lifecycleId ∧
    (operation.scope = control.scope ∨ operation.scope = .application)

/-- No identity belongs to both an operation and a control. -/
def Distinct (L : Ledger) : Prop :=
  ∀ id operation control, L.operation id = some operation → L.control id = some control → False

/-- A notion of being settled that lasts. -/
structure Lasting (Settled : Ledger → ControlRecord → String → Prop) : Prop where
  same : ∀ {L : Ledger} {control control' : ControlRecord} {id : String},
    control'.appId = control.appId → control'.lifecycleId = control.lifecycleId →
    Settled L control id → Settled L control' id
  lasts : ∀ {act : Act} {L L' : Ledger} {control : ControlRecord} {id : String},
    Move act L L' → Apart act L → L.Headed → L.Known control id → Settled L control id →
    Settled L' control id
  settled : ∀ {L : Ledger} {control : ControlRecord} {id : String},
    L.control control.operationId = some control → Distinct L →
    L.SettledControl control → Owed control id → Settled L control id

/-- Everything that controls answer for is settled or has been handed on. -/
structure Handed (Settled : Ledger → ControlRecord → String → Prop) (L : Ledger) : Prop where
  apart : L.Distinct
  known : ∀ id control o, L.control id = some control → o ∈ control.interruptedOperations →
    L.Known control o
  owed : ∀ id control o, L.control id = some control → Owed control o →
    Settled L control o ∨ L.Covers control o

theorem Known.move (h : L.Known control id) (hm : Move act L L') : L'.Known control id := by
  obtain ⟨old, hold⟩ | ⟨operation, ho, happ, hlife, hscope⟩ := h
  · obtain ⟨kept, hk, -⟩ := (Grows.of_move hm).kept id old hold
    exact .inl ⟨kept, hk⟩
  · obtain ⟨later, hl, hsame⟩ := hm.operation_kept ho
    refine .inr ⟨later, hl, hsame.appId.trans happ, hsame.lifecycleId.trans hlife, ?_⟩
    rw [hsame.scope]
    exact hscope

variable {control' : ControlRecord}

theorem Known.congr (h : L.Known control id) (same : SameControl control control') :
    L.Known control' id := by
  obtain hold | ⟨operation, ho, happ, hlife, hscope⟩ := h
  · exact .inl hold
  · refine .inr ⟨operation, ho, happ.trans same.appId.symm, hlife.trans same.lifecycleId.symm, ?_⟩
    rw [same.scope]
    exact hscope

/-- The controls of the ledger change only in their progress. -/
theorem Covers.congr (h : L.Covers control id)
    (hhead : L'.head (control.appId, control.scope) = L.head (control.appId, control.scope))
    (hkept : ∀ i c, L.control i = some c → ∃ c', L'.control i = some c' ∧ SameControl c c') :
    L'.Covers control id := by
  obtain ⟨head, heir, hh, hlife, hnamed, hheir, hmem⟩ := h
  obtain ⟨heir', hheir', hsame⟩ := hkept _ heir hheir
  rw [← hsame.operationId] at hnamed hheir'
  exact ⟨head, heir', hhead.trans hh, hlife, hnamed, hheir', by rw [hsame.interrupted]; exact hmem⟩

theorem Covers.of_same (h : L.Covers control id) (same : SameControl control control') :
    L.Covers control' id := by
  obtain ⟨head, heir, hh, hlife, hrest⟩ := h
  refine ⟨head, heir, ?_, hlife.trans same.lifecycleId.symm, hrest⟩
  rw [same.appId, same.scope]
  exact hh

namespace Handed

variable {Settled : Ledger → ControlRecord → String → Prop}

theorem empty : Handed Settled (Store.ledger {}) :=
  ⟨fun _ operation _ h => absurd h.symm (Option.some_ne_none operation),
    fun _ control _ h => absurd h.symm (Option.some_ne_none control),
    fun _ control _ h => absurd h.symm (Option.some_ne_none control)⟩

variable {o : String} {control new : ControlRecord} {app : LifecycleRecord} {handed : List String}
  {old : Option ControlRecord} {head : IntentRow}

/-- What a control answers for, by the kind of identity it is. -/
theorem known_of_owed (h : Handed Settled L) (hc : L.control id = some control)
    (hid : control.operationId = id) (howed : Owed control o) : L.Known control o := by
  obtain hmem | ⟨-, rfl⟩ := howed
  · exact h.known id control o hc hmem
  · exact .inl ⟨control, by rw [hid]; exact hc⟩

theorem apart_move (h : Handed Settled L) (hm : Move act L L') (apart : Apart act L) :
    L'.Distinct := by
  intro id operation control ho hc
  obtain ⟨hcontrol, -⟩ | ⟨before, hb, -⟩ := hm.control_found hc
  · obtain hold | ⟨hadmission, -⟩ | ⟨_, found, hold, -⟩ := hm.operation_found ho
    · cases hold.symm.trans (apart.admitControl id hcontrol)
    · cases hcontrol.symm.trans hadmission
    · cases hold.symm.trans (apart.admitControl id hcontrol)
  · obtain hold | ⟨hadmission, -⟩ | ⟨_, found, hold, -⟩ := hm.operation_found ho
    · exact h.apart id operation before hold hb
    · cases hb.symm.trans (apart.admission id hadmission)
    · exact h.apart id found before hold hb

variable (headed : L.Headed)
include headed

/-- A control that loses its authority belongs to the scope of the new one, which answers for
it. -/
theorem superseded_into (admits : L.AdmitsControl app new handed (some control) head) :
    control.appId = new.appId ∧ control.scope = new.scope ∧
      control.lifecycleId = new.lifecycleId ∧
      control.operationId ∈ new.interruptedOperations := by
  cases admits.inherits with
  | @superseded found _ stored same named hold =>
    obtain ⟨before, hb, hnames⟩ := headed.named _ found _ stored named
    cases hold.symm.trans hb
    obtain ⟨hfapp, hfscope, -⟩ := headed.current _ _ found stored
    refine ⟨hnames.appId.symm.trans hfapp, hnames.scope.symm.trans hfscope,
      hnames.lifecycleId.symm.trans same, (admits.interrupted _).mpr (.inl ?_)⟩
    exact List.mem_append_right _ (List.mem_singleton_self _)

variable (h : Handed Settled L)
include h

/-- What a new control interrupts is known: it is handed on, or in a slot. -/
theorem known_of_new (slotted : L.Slotted) (admits : L.AdmitsControl app new handed old head)
    (ho : o ∈ new.interruptedOperations) : L.Known new o := by
  have hslot : ∀ scope, app.activeOperations.slot scope = some o →
      scope = new.scope ∨ scope = .application → L.Known new o := by
    intro scope hs hscope
    obtain ⟨operation, hop, happ, hlife, hsc, -⟩ := (slotted.fits app admits.holds).named scope o hs
    refine .inr ⟨operation, hop, happ.trans admits.appId.symm, hlife.trans admits.lifecycleId.symm,
      ?_⟩
    rw [hsc]
    exact hscope
  have hheir : ∀ {found : IntentRow} {before : ControlRecord},
      L.head (new.appId, new.scope) = some found → found.lifecycleId = new.lifecycleId →
      found.controlOperationId = some before.operationId →
      L.control before.operationId = some before → o ∈ before.interruptedOperations →
      L.Known new o := by
    intro found before stored same named hbefore hmem
    obtain ⟨control, hc, hnames⟩ := headed.named _ found _ stored named
    cases hbefore.symm.trans hc
    obtain ⟨hfapp, hfscope, -⟩ := headed.current _ _ found stored
    obtain hold | ⟨operation, hop, happ, hlife, hscope⟩ := h.known _ before o hbefore hmem
    · exact .inl hold
    · refine .inr ⟨operation, hop, ?_, ?_, ?_⟩
      · exact happ.trans (hnames.appId.symm.trans hfapp)
      · exact hlife.trans (hnames.lifecycleId.symm.trans same)
      · rw [← hfscope, hnames.scope]
        exact hscope
  obtain hhanded | hs | hs := (admits.interrupted o).mp ho
  · cases admits.inherits with
    | absent | historical | unnamed => cases hhanded
    | ended stored same named found => exact hheir stored same named found hhanded
    | superseded stored same named found =>
      obtain hmem | hmem := List.mem_append.mp hhanded
      · exact hheir stored same named found hmem
      · obtain rfl := List.mem_singleton.mp hmem
        exact .inl ⟨_, found⟩
  · exact hslot new.scope hs (.inl rfl)
  · exact hslot .application hs (.inr rfl)

theorem known_move (slotted : L.Slotted) (hm : Move act L L') (hc : L'.control id = some control)
    (hmem : o ∈ control.interruptedOperations) : L'.Known control o := by
  obtain ⟨-, -, _, _, _, _, admits⟩ | ⟨before, hb, hsame, -⟩ := hm.control_found hc
  · exact (h.known_of_new headed slotted admits hmem).move hm
  · rw [hsame.interrupted] at hmem
    exact ((h.known id before o hb hmem).congr hsame).move hm

variable (lasting : Lasting Settled)
include lasting

/-- What the head's control answers for in a scope is settled, or the new control takes it over. -/
theorem taken_over (admits : L.AdmitsControl app new handed old head)
    (hc : L.control id = some control) (howed : Owed control o)
    (happ : control.appId = new.appId) (hscope : control.scope = new.scope)
    (hcovers : L.Covers control o) :
    Settled L control o ∨
      (control.lifecycleId = new.lifecycleId ∧ o ∈ new.interruptedOperations) := by
  obtain ⟨found, heir, hh, hlife, hnamed, hheir, hmem⟩ := hcovers
  rw [happ, hscope] at hh
  obtain ⟨hid, -⟩ := headed.keyed id control hc
  obtain settled | ⟨hsame, hsub, -⟩ := admits.inherits.of_named hh hnamed hheir
  · obtain ⟨hfapp, hfscope, -⟩ := headed.current _ _ found hh
    have hsettled := settled id control hc (happ.trans hfapp.symm) hlife.symm
      (hscope.trans hfscope.symm)
    exact .inl (lasting.settled (by rw [hid]; exact hc) h.apart hsettled howed)
  · exact .inr ⟨hlife.symm.trans hsame, (admits.interrupted o).mpr (.inl (hsub hmem))⟩

variable (hm : Move act L L') (apart : Apart act L)
include hm apart

/-- What a control answers for stays so where its head does; where it moves, it is asked for. -/
theorem carried (hc : L.control id = some control) (howed : Owed control o)
    (hmoved : L.Covers control o →
      L'.head (control.appId, control.scope) ≠ L.head (control.appId, control.scope) →
      Settled L control o ∨ L'.Covers control o) : Settled L' control o ∨ L'.Covers control o := by
  obtain ⟨hid, -⟩ := headed.keyed id control hc
  have hlasts := lasting.lasts hm apart headed (h.known_of_owed hc hid howed)
  obtain hsettled | hcovers := h.owed id control o hc howed
  · exact .inl (hlasts hsettled)
  · by_cases hhead : L'.head (control.appId, control.scope) = L.head (control.appId, control.scope)
    · exact .inr (hcovers.congr hhead (Grows.of_move hm).kept)
    · exact (hmoved hcovers hhead).imp_left hlasts

theorem hands (admits : L.AdmitsControl app new handed old head)
    (written : L' = ((L.supersede old).setControl new).setHead head)
    (hc : L'.control id = some control) (howed : Owed control o) :
    Settled L' control o ∨ L'.Covers control o := by
  have hhead : L'.head (head.appId, head.scope) = some head := by
    rw [written]
    exact head_setHead_self ..
  have hnew : L'.control new.operationId = some new := by
    rw [written]
    exact control_setControl_self ..
  have hcovered : ∀ control : ControlRecord, ∀ o, control.appId = new.appId →
      control.scope = new.scope → control.lifecycleId = new.lifecycleId →
      o ∈ new.interruptedOperations → L'.Covers control o := by
    intro control o happ hscope hlife hmem
    refine ⟨head, new, ?_, admits.names.lifecycleId.trans hlife.symm, admits.names.named, hnew,
      hmem⟩
    rw [happ, hscope, ← admits.names.appId, ← admits.names.scope]
    exact hhead
  have hbefore : ∀ control, L.control id = some control → Owed control o →
      Settled L' control o ∨ L'.Covers control o := by
    intro control hc howed
    refine h.carried headed lasting hm apart hc howed fun hcovers hne => ?_
    have hkey : control.appId = new.appId ∧ control.scope = new.scope := by
      by_contra hkey
      refine hne ?_
      rw [written]
      refine (update_of_ne ?_ ..).trans (by cases old <;> rfl)
      rw [admits.names.appId, admits.names.scope]
      exact fun heq => hkey (Prod.mk.inj heq)
    obtain ⟨happ, hscope⟩ := hkey
    obtain hsettled | ⟨hlife, hmem⟩ :=
      h.taken_over headed lasting admits hc howed happ hscope hcovers
    · exact .inl hsettled
    · exact .inr (hcovered control o happ hscope hlife hmem)
  rw [written] at hc
  obtain ⟨-, rfl⟩ | ⟨-, before, hb, hsame, heq⟩ := admits.found hc
  · obtain hmem | ⟨hstate, -⟩ := howed
    · exact .inr (hcovered control o rfl rfl rfl hmem)
    · rw [admits.start.pending] at hstate
      cases hstate
  · obtain ⟨rfl, -⟩ | ⟨rfl, rfl⟩ := heq
    · exact hbefore control hb howed
    · obtain hmem | ⟨-, rfl⟩ := howed
      · obtain hsettled | hcovers := hbefore before hb (.inl hmem)
        · exact .inl (lasting.same hsame.appId hsame.lifecycleId hsettled)
        · exact .inr (hcovers.of_same hsame)
      · obtain ⟨happ, hscope, hlife, hmem⟩ := superseded_into headed admits
        exact .inr (hcovered _ _ happ hscope hlife hmem)

/-- Every move keeps what controls answer for; only the freeing of a head asks for more. -/
theorem move (slotted : L.Slotted)
    (release : ∀ head heir o, act = .release head.appId head.scope →
      L.head (head.appId, head.scope) = some head →
      head.controlOperationId = some heir.operationId →
      L.control heir.operationId = some heir → o ∈ heir.interruptedOperations →
      Settled L heir o) : Handed Settled L' := by
  refine ⟨h.apart_move hm apart, fun _ _ _ => h.known_move headed slotted hm,
    fun id control o hc howed => ?_⟩
  -- a move that leaves the controls as they are is asked for the scopes whose heads it changes
  have hsteady (hcontrols : L'.control = L.control) (hmoved : L.control id = some control →
      L.Covers control o →
      L'.head (control.appId, control.scope) ≠ L.head (control.appId, control.scope) →
      Settled L control o) : Settled L' control o ∨ L'.Covers control o := by
    rw [hcontrols] at hc
    exact h.carried headed lasting hm apart hc howed fun hcovers hne =>
      .inl (hmoved hc hcovers hne)
  cases hm.steers with
  | keeps heads controls => exact hsteady controls fun _ _ hne => absurd (by rw [heads]) hne
  | @renews app holds settled heads _ controls =>
    refine hsteady controls fun hc hcovers hne => ?_
    obtain ⟨hid, hscope⟩ := headed.keyed id control hc
    have happ : control.appId = app.appId := by
      by_contra happ
      exact hne (by rw [heads _ _ hscope, if_neg happ])
    -- the application begins anew only once all its controls are settled
    obtain ⟨head, heir, hh, hlife, -⟩ := hcovers
    obtain ⟨hhapp, hhscope, -⟩ := headed.current _ _ head hh
    have hsettled := settled _ head hscope (by rw [← happ]; exact hh) id control hc
      hhapp.symm hlife.symm hhscope.symm
    exact lasting.settled (by rw [hid]; exact hc) h.apart hsettled howed
  | @opens app head _ _ _ _ missing _ written =>
    refine hsteady (by rw [written]; rfl) fun _ hcovers hne => ?_
    have hkey : (control.appId, control.scope) = (head.appId, head.scope) := by
      by_contra hkey
      exact hne (by rw [written]; exact update_of_ne hkey ..)
    obtain ⟨found, heir, hh, -⟩ := hcovers
    rw [hkey, missing] at hh
    cases hh
  | hands admits _ written => exact h.hands headed lasting hm apart admits written hc howed
  | turns stored step written =>
    rw [written] at hc
    obtain ⟨before, hb, hsame, heq⟩ := control_turned stored step hc
    have howed' : Owed before o := by
      obtain rfl | ⟨rfl, rfl⟩ := heq
      · exact howed
      · obtain hmem | ⟨hstate, -⟩ := howed
        · rw [hsame.interrupted] at hmem
          exact .inl hmem
        · exact absurd hstate step.not_superseded
    obtain hsettled | hcovers := h.carried headed lasting hm apart hb howed'
      fun _ hne => absurd (by rw [written]; rfl) hne
    · exact .inl (lasting.same hsame.appId hsame.lifecycleId hsettled)
    · exact .inr (hcovers.of_same hsame)
  | @frees head head' stored ended freed by_access written =>
    refine hsteady (by rw [written]; rfl) fun _ hcovers hne => ?_
    have hkey : (control.appId, control.scope) = (head.appId, head.scope) := by
      by_contra hkey
      exact hne (by rw [written, freed]; exact update_of_ne hkey ..)
    obtain ⟨found, heir, hh, hlife, hnamed, hheir, hmem⟩ := hcovers
    rw [hkey, stored] at hh
    obtain rfl := Option.some.inj hh
    obtain ⟨named, hn, hnames⟩ := headed.named _ head _ stored hnamed
    cases hheir.symm.trans hn
    refine lasting.same ?_ ?_ (release head heir o by_access stored hnamed hheir hmem)
    · exact (Prod.mk.inj hkey).1.trans hnames.appId
    · exact hlife.symm.trans hnames.lifecycleId

end Handed

end Ledger

open Ledger

/-- No identity is used both for a business operation and for a compute control. -/
def OwnIdentities (s : Store) : Op → Prop
  | .admitWithConfiguration request _ _ _ => s.ledger.control request.operationId = none
  | .admitControl request _ _ => s.ledger.operation request.operationId = none
  | _ => True

/-- An explicit start that finds a stopped head, whose control is no longer live, finds this of the
control. -/
def AtRelease (found : Store → ControlRecord → Prop) (s : Store) : Op → Prop
  | .checkAccess appId scope explicitStart => explicitStart = true → ∀ head heir,
      s.ledger.head (appId, scope) = some head → head.desiredState = .stopped →
      head.controlOperationId = some heir.operationId →
      s.ledger.control heir.operationId = some heir → heir.isLive = false → found s heir
  | _ => True

/-- No explicit start frees a head while something that its control answers for is unsettled. -/
def ReleasesSettled (Settled : Ledger → ControlRecord → String → Prop) : Store → Op → Prop :=
  AtRelease fun s heir => ∀ o ∈ heir.interruptedOperations, Settled s.ledger heir o

theorem OwnIdentities.apart {s : Store} {op : Op} (h : OwnIdentities s op) :
    Apart op.act s.ledger := by
  refine ⟨?_, ?_⟩
  · intro id hact
    cases op with
    | admitWithConfiguration =>
      cases hact
      exact h
    | _ => cases hact
  · intro id hact
    cases op with
    | admitControl =>
      cases hact
      exact h
    | _ => cases hact

/-- The access check frees at most one head, which it finds in the state it starts from. -/
theorem checkAccess_moves (s : Store) (appId : String) (scope : OperationScope)
    (explicitStart : Bool) : let t := (store.exec s (.checkAccess appId scope explicitStart)).2
    t.ledger = s.ledger ∨ ∃ head, explicitStart = true ∧
      s.ledger.head (appId, scope) = some head ∧ head.desiredState = .stopped ∧
      (∀ id control, head.controlOperationId = some id → s.ledger.control id = some control →
        control.isLive = false) ∧ Move (.release appId scope) s.ledger t.ledger := by
  intro t
  cases hexec : (store.exec s (.checkAccess appId scope explicitStart)).1 with
  | error =>
    have ht : t = s := store_failed hexec
    exact .inl (by rw [ht])
  | ok =>
    obtain ⟨-, -, heq | ⟨head, hexplicit, hhead, hstopped, hended, heq⟩⟩ := store_answered hexec
      (gives_respond (Compute.gives_checkAccess appId scope explicitStart))
    · exact .inl heq
    · refine .inr ⟨head, hexplicit, hhead, hstopped, hended, ?_⟩
      obtain ⟨hid, hs⟩ := Compute.key_of_head hhead
      have ht : t.ledger = _ := heq
      rw [ht]
      exact .release (by rw [hid, hs]; exact hhead) hended rfl (by rw [hid, hs])

/-- Along a run that frees heads only once they are settled, nothing gets lost. -/
theorem Run.handed {ok : Store → Op → Prop} {tr : List (Op × Except StoreError Answer)} {s : Store}
    {Settled : Ledger → ControlRecord → String → Prop} (lasting : Lasting Settled)
    (hown : ∀ s op, ok s op → OwnIdentities s op)
    (hrelease : ∀ s op, ok s op → ReleasesSettled Settled s op)
    (hr : store.Run ok {} tr s) : s.ledger.Headed ∧ s.ledger.Slotted ∧ Handed Settled s.ledger := by
  refine hr.invariant (I := fun s => s.ledger.Headed ∧ s.ledger.Slotted ∧ Handed Settled s.ledger)
    ⟨.empty, .empty, .empty⟩ fun s op hok h => ?_
  have hapart := (hown s op hok).apart
  by_cases haccess : ∃ appId scope explicitStart, op = .checkAccess appId scope explicitStart
  · obtain ⟨appId, scope, explicitStart, rfl⟩ := haccess
    obtain ⟨hheaded, hslotted, hhanded⟩ := h
    obtain heq | ⟨head, hexplicit, hhead, hstopped, hended, hm⟩ :=
      checkAccess_moves s appId scope explicitStart
    · rw [heq]
      exact ⟨hheaded, hslotted, hhanded⟩
    · refine ⟨hheaded.move hm, hslotted.move hm,
        hhanded.move hheaded lasting hm hapart hslotted fun found heir o hact hfound hnamed hheir =>
          ?_⟩
      have hcond := hrelease s _ hok hexplicit found heir
      cases hact
      cases hfound.symm.trans hhead
      exact hcond hfound hstopped hnamed hheir (hended _ heir hnamed hheir) o
  · have hkeeps := (store_moves s op).keeps (P := fun L => (L.Headed ∧ L.Slotted ∧
      Handed Settled L) ∧ Apart op.act L) ⟨h, hapart⟩ fun L L' hm hL => ?_
    · exact hkeeps.1
    · obtain ⟨⟨hheaded, hslotted, hhanded⟩, hapart⟩ := hL
      refine ⟨⟨hheaded.move hm, hslotted.move hm,
        hhanded.move hheaded lasting hm hapart hslotted fun found heir o hact => ?_⟩,
      hapart.move hm⟩
      cases op with
      | checkAccess appId scope explicitStart =>
        exact absurd ⟨appId, scope, explicitStart, rfl⟩ haccess
      | _ => cases hact

end Rcoder.Lifecycle
