import Rcoder.Lifecycle.Interruption

/-!
# Draining before a stop

A control enters the stage `stopping` only in a report of its executor, and only once everything
on its own list has ended. Whether that list still names everything an earlier control answered
for depends on how the head of the scope was freed in between.
-/

namespace Rcoder.Lifecycle

open Effect Ledger ControlRecord Execution Compute

variable {act : Act} {L L' : Ledger}

/-- The control has ended, or lost its authority before anyone claimed it. -/
def Reconciled (control : ControlRecord) : Prop :=
  control.state = .succeeded ∨ control.state = .failed ∨ Compute.neverClaimed control = true

variable {control control' : ControlRecord} {id : String}

theorem Reconciled.dead (h : Reconciled control) : control.isLive = false := by
  obtain hs | hs | hs := h
  · rw [isLive, hs]
    rfl
  · rw [isLive, hs]
    rfl
  · simp only [neverClaimed, Bool.and_eq_true, decide_eq_true_eq] at hs
    rw [isLive, hs.1.1]
    rfl

theorem ControlStep.reconciled (h : ControlStep act control control') (hended : Reconciled control)
    (hlease : control.lease = none) : Reconciled control' ∧ control'.lease = none := by
  have hdead := hended.dead
  have hnot : ∀ {p : Prop}, (control.isLive = true) → p := by
    intro p hlive
    rw [hlive] at hdead
    cases hdead
  have hrec : isRecovering control = true → control.isLive = true :=
    live_of_recovering
  cases h with
  | claim _ pending => exact hnot (by rw [isLive, pending]; rfl)
  | bind _ running => exact hnot (by rw [isLive, running]; rfl)
  | report _ reported => exact hnot (by rw [isLive, reported.running]; rfl)
  | forget ended => exact ⟨ended.elim .inl fun hs => .inr (.inl hs), rfl⟩
  | acknowledge => exact ⟨.inr (.inl rfl), hlease⟩
  | recommit recovering => exact hnot (hrec recovering)
  | observe _ recovering => exact hnot (hrec recovering)
  | confirmStopped _ _ _ recovering => exact hnot (hrec recovering)
  | continueStart _ recovering => exact hnot (hrec recovering)
  | annotate checkpoint settled =>
    obtain hr | hs := settled
    · exact hnot (hrec hr)
    · exact ⟨.inl hs, hlease⟩
  | reserve _ _ early => exact hnot (hrec (recovering_of_drain early))
  | capture _ early => exact hnot (hrec (recovering_of_drain early))
  | resume early => exact hnot (hrec (recovering_of_drain early))
  | fail _ _ recovering => exact hnot (hrec recovering)

theorem Ledger.Move.control_ended (hm : Move act L L') (hc : L.control id = some control)
    (hdead : control.isLive = false) :
    ∃ control', L'.control id = some control' ∧
      (control' = control ∨ ControlStep act control control') := by
  obtain ⟨control', hc', heq | hstep | ⟨hlive, -⟩⟩ := hm.control_next hc
  · exact ⟨control', hc', .inl heq⟩
  · exact ⟨control', hc', .inr hstep⟩
  · rw [hlive] at hdead
    cases hdead

theorem Ledger.DrainedOne.lasts (h : L.DrainedOne control id) (hm : Move act L L')
    (apart : Apart act L) : L'.DrainedOne control id := by
  obtain ⟨operation, ho, happ, hlife, hends, hlease⟩ |
    ⟨hnone, old, hold, happ, hlife, hended, hlease⟩ :=
    h
  · obtain ⟨later, hl, hlater⟩ := hm.operation_kept ho
    obtain rfl := hlater.ended hends
    refine .inl ⟨later, hl, happ, hlife, hends, hm.lease_none hlease fun found hf => ?_⟩
    cases ho.symm.trans hf
    exact hends
  · have hended : Reconciled old := hended
    obtain ⟨old', hold', hstep⟩ := hm.control_ended hold hended.dead
    refine .inr ⟨fun operation ho => ?_, old', hold', ?_⟩
    · cases hbefore : L.operation id with
      | some before =>
        obtain ⟨later, hl, hlater⟩ := hm.operation_kept hbefore
        cases ho.symm.trans hl
        rw [hlater.appId]
        exact hnone before hbefore
      | none =>
        rw [apart.admission id (hm.operation_new ho hbefore)] at hold
        cases hold
    · obtain rfl | hstep := hstep
      · exact ⟨happ, hlife, hended, hlease⟩
      · obtain ⟨hended, hlease⟩ := hstep.reconciled hended hlease
        exact ⟨hstep.same.appId.trans happ, hstep.same.lifecycleId.trans hlife, hended, hlease⟩

/-- What has been drained stays drained, and a settled head leaves nothing to drain. -/
theorem drainedOne_lasting : Lasting DrainedOne := by
  refine ⟨?_, fun hm apart _ _ h => h.lasts hm apart, ?_⟩
  · intro L control control' id happ hlife h
    rw [DrainedOne, happ, hlife]
    exact h
  · intro L control id stored distinct hsettled howed
    obtain hmem | ⟨hstate, rfl⟩ := howed
    · exact hsettled.drained id hmem
    · obtain ⟨hexec, hstage, hlease⟩ := hsettled.unclaimed hstate
      refine .inr ⟨fun operation ho => (distinct _ operation control ho stored).elim, control,
        stored, rfl, rfl, ?_, hlease⟩
      simp [neverClaimed, hstate, hexec, hstage]

/-! ### Entering the stage -/

theorem ControlStep.reported_of_stopping (h : ControlStep act control control')
    (hs : control'.stage = "stopping")
    (hne : control.stage ≠ "stopping") : ∃ progress, act = .control progress := by
  cases h with
  | claim | acknowledge | confirmStopped | continueStart | resume => exact absurd hs (by simp)
  | bind | forget | recommit | annotate | reserve | capture | fail => exact absurd hs hne
  | @report progress by_advance =>
    obtain hact | hcompleted := by_advance
    · exact ⟨progress, hact⟩
    · have hs : progress.stage.asStr = "stopping" := hs
      rw [hcompleted] at hs
      exact absurd hs (by decide)
  | observe => exact absurd hs (by cases control.action <;> simp [observedStages])

/-- Only the report of an executor takes a control into the stage `stopping`. -/
theorem Ledger.Moves.reported_of_stopping (h : Moves act L L') (hc' : L'.control id = some control')
    (henters : control'.stage = "stopping")
    (hbefore : ∀ control, L.control id = some control → control.stage ≠ "stopping") :
    ∃ progress, act = .control progress := by
  have hkeeps : ∀ c, L'.control id = some c → c.stage = "stopping" →
      (∃ progress, act = .control progress) ∨
        ∃ control, L.control id = some control ∧ control.stage = "stopping" := by
    refine h.keeps (P := fun M => ∀ c, M.control id = some c → c.stage = "stopping" →
      (∃ progress, act = .control progress) ∨
        ∃ control, L.control id = some control ∧ control.stage = "stopping")
      (fun c hc hs => .inr ⟨c, hc, hs⟩) fun M M' hm ih c hc hs => ?_
    obtain ⟨-, -, _, _, _, _, admits⟩ | ⟨before, hb, -, hchange⟩ := hm.control_found hc
    · rw [admits.start.stage] at hs
      have hne : "accepted" ≠ "stopping" := by decide
      exact absurd hs hne
    · obtain rfl | step | ⟨-, rfl⟩ := hchange
      · exact ih c hb hs
      · by_cases hstage : before.stage = "stopping"
        · exact ih before hb hstage
        · exact .inl (step.reported_of_stopping hs hstage)
      · exact ih before hb hs
  obtain hreported | ⟨control, hc, hs⟩ := hkeeps control' hc' henters
  · exact hreported
  · exact absurd hs (hbefore control hc)

/-- The step that takes a control into the stage `stopping` is an accepted report on it. -/
theorem advances_of_stopping {s : Store} {op : Op}
    (hc' : (store.exec s op).2.ledger.control id = some control')
    (henters : control'.stage = "stopping")
    (hbefore : ∀ control, s.ledger.control id = some control → control.stage ≠ "stopping") :
    ∃ progress control, AdvancesControl s.ledger progress control
        (store.exec s op).2.ledger ∧ control.operationId = id ∧
      control' = progressed progress control ∧ progress.stage ≠ .drainingPrevious := by
  obtain ⟨progress, hact⟩ := (store_moves s op).reported_of_stopping hc' henters hbefore
  obtain rfl : op = .advanceControl progress := by
    cases op with
    | advanceControl => cases hact; rfl
    | _ => cases hact
  cases hexec : (store.exec s (.advanceControl progress)).1 with
  | error =>
    rw [store_failed hexec] at hc'
    exact absurd henters (hbefore control' hc')
  | ok =>
    obtain ⟨-, -, control, hadv, -⟩ :=
      store_answered hexec (gives_respond (gives_advanceControl progress))
    refine ⟨progress, control, hadv, ?_⟩
    rw [hadv.control_eq] at hc'
    obtain ⟨rfl, rfl⟩ | ⟨-, hc'⟩ := control_setControl.mp hc'
    · refine ⟨rfl, rfl, fun hdraining => ?_⟩
      have henters : progress.stage.asStr = "stopping" := henters
      rw [hdraining] at henters
      exact absurd henters (by decide)
    · exact absurd henters (hbefore control' hc')

/-- Every explicit start that finds a stopped head, whose control is no longer live, finds that the
control passes the drain check, and no identity is used for both ledgers. -/
def FreesDrained (s : Store) (op : Op) : Prop :=
  OwnIdentities s op ∧ AtRelease (fun s heir => Compute.drained s heir = .ok ()) s op

theorem FreesDrained.releasesSettled {s : Store} {op : Op} (h : FreesDrained s op) :
    ReleasesSettled DrainedOne s op := by
  cases op with
  | checkAccess =>
    intro hexplicit head heir hhead hstopped hnamed hheir hended
    exact drained_ok (h.2 hexplicit head heir hhead hstopped hnamed hheir hended)
  | _ => trivial

/-- Around the control `id`, no other control of its application, lifecycle and scope that was
claimed is left undrained, and what any of them interrupted has ended and let go of its lease. -/
def Ledger.DrainedAround (L : Ledger) (id : String) (control : ControlRecord) : Prop :=
  ∀ id' other, L.control id' = some other → other.appId = control.appId →
    other.lifecycleId = control.lifecycleId → other.scope = control.scope →
    (id' ≠ id → ¬(other.state = .superseded ∧ other.executorId ≠ none)) ∧
      ∀ o ∈ other.interruptedOperations, ∀ operation, L.operation o = some operation →
        operation.state.isTerminal = true ∧ L.lease o = none

/-- The control `earlier` is admitted while `o` is in the slot of its scope, or of the whole
application. -/
structure Interrupts (s : Store) (op : Op) (earlier : ControlRecord) (o : String) : Prop where
  admission : ∃ request idleOnly now, op = .admitControl request idleOnly now
  fresh : s.ledger.control earlier.operationId = none
  admitted : (store.exec s op).2.ledger.control earlier.operationId = some earlier
  slotted : ∃ app, s.ledger.Holds app ∧ app.appId = earlier.appId ∧
    (app.activeOperations.slot earlier.scope = some o ∨
      app.activeOperations.slot .application = some o)

theorem Interrupts.listed {s : Store} {op : Op} {earlier : ControlRecord} {o : String}
    (h : Interrupts s op earlier o) : o ∈ earlier.interruptedOperations := by
  obtain ⟨request, idleOnly, now, rfl⟩ := h.admission
  have hnew := h.admitted
  have hchanged : (store.exec s (.admitControl request idleOnly now)).2.ledger ≠ s.ledger := by
    intro hsame
    rw [hsame, h.fresh] at hnew
    cases hnew
  cases hexec : (store.exec s (.admitControl request idleOnly now)).1 with
  | error => exact absurd (by rw [store_failed hexec]) hchanged
  | ok =>
    obtain ⟨_, -, app, -, -, -, ⟨hsame, -⟩ | ⟨new, handed, old, head, -, -, admits, hafter⟩⟩ :=
      store_answered hexec (gives_respond (gives_admitControl request idleOnly now))
    · exact absurd hsame hchanged
    · rw [hafter] at hnew
      obtain ⟨-, rfl⟩ | ⟨-, before, hb, -⟩ := admits.found hnew
      · obtain ⟨found, hfound, happ, hslot⟩ := h.slotted
        obtain rfl := hfound.eq admits.holds (happ.trans admits.appId)
        exact (admits.interrupted o).mpr (.inr hslot)
      · rw [h.fresh] at hb
        cases hb

/-- The control is there as it was admitted, and so is the operation. -/
def Ledger.Remembers (L : Ledger) (earlier : ControlRecord) (o : String) : Prop :=
  (∃ kept, L.control earlier.operationId = some kept ∧ SameControl earlier kept) ∧
    ∃ operation, L.operation o = some operation

theorem Ledger.Remembers.move {o : String} (h : L.Remembers control o) (hm : Move act L L') :
    L'.Remembers control o := by
  obtain ⟨⟨kept, hkept, hsame⟩, operation, ho⟩ := h
  obtain ⟨next, hnext, hnextSame⟩ := (Grows.of_move hm).kept _ kept hkept
  obtain ⟨later, hlater, -⟩ := hm.operation_kept ho
  exact ⟨⟨next, hnext, hsame.trans hnextSame⟩, later, hlater⟩

theorem Interrupts.remembered {s : Store} {op : Op} {earlier : ControlRecord} {o : String}
    (h : Interrupts s op earlier o) (slotted : s.ledger.Slotted) :
    (store.exec s op).2.ledger.Remembers earlier o := by
  obtain ⟨app, holds, -, hslot⟩ := h.slotted
  have hnamed : ∃ operation, s.ledger.operation o = some operation := by
    obtain hslot | hslot := hslot
    all_goals
      obtain ⟨operation, ho, -⟩ := (slotted.fits app holds).named _ o hslot
      exact ⟨operation, ho⟩
  refine ⟨⟨earlier, h.admitted, .refl earlier⟩, (store_moves s op).keeps
    (P := fun L => ∃ operation, L.operation o = some operation) hnamed fun L L' hm hL => ?_⟩
  obtain ⟨operation, ho⟩ := hL
  obtain ⟨later, hlater, -⟩ := hm.operation_kept ho
  exact ⟨later, hlater⟩

/-- Whatever an earlier control of the scope answered for is on the list of the control at its
head, so that it is drained with that list. -/
theorem Ledger.Handed.drainedOne {s : Store} {other : ControlRecord} {o : String}
    (h : Handed DrainedOne s.ledger) (hcurrent : s.ledger.Current control)
    (hstored : s.ledger.control control.operationId = some control)
    (hdrained : ∀ o ∈ control.interruptedOperations, s.ledger.DrainedOne control o)
    (hother : s.ledger.control id = some other) (happ : other.appId = control.appId)
    (hlife : other.lifecycleId = control.lifecycleId) (hscope : other.scope = control.scope)
    (howed : Owed other o) : s.ledger.DrainedOne control o := by
  obtain ⟨head, hhead, -, -, hnamed⟩ := hcurrent.head
  obtain hsettled | ⟨found, heir, hfound, -, hfnamed, hheir, hmem⟩ := h.owed id other o hother howed
  · exact drainedOne_lasting.same happ.symm hlife.symm hsettled
  · rw [happ, hscope] at hfound
    cases hhead.symm.trans hfound
    have hid := Option.mem_unique hnamed hfnamed
    rw [← hid, hstored] at hheir
    obtain rfl := Option.some.inj hheir
    exact hdrained o hmem

section Stopping

variable {tr : List (Op × Except StoreError Answer)} {s : Store}
  (hr : store.Run FreesDrained {} tr s) {op : Op} {id : String} {control' : ControlRecord}
  (hc' : (store.exec s op).2.ledger.control id = some control')
  (henters : control'.stage = "stopping")
  (hbefore : ∀ control, s.ledger.control id = some control → control.stage ≠ "stopping")
include hr hc' henters hbefore

theorem drainedAround_of_stopping : (store.exec s op).2.ledger.DrainedAround id control' := by
  obtain ⟨hheaded, hslotted, hhanded⟩ := Run.handed drainedOne_lasting (fun _ _ h => h.1)
    (fun _ _ h => h.releasesSettled) hr
  obtain ⟨progress, control, hadv, rfl, rfl, hstage⟩ :=
    advances_of_stopping hc' henters hbefore
  have hdrained := hadv.drained hstage
  rw [DrainedAround, hadv.control_eq, hadv.operation_eq, hadv.lease_eq]
  intro id' other hother happ hlife hscope
  have hfound : ∃ before, s.ledger.control id' = some before ∧ SameControl before other ∧
      (id' ≠ control.operationId → other = before) := by
    obtain ⟨rfl, rfl⟩ | ⟨-, hother⟩ := control_setControl.mp hother
    · exact ⟨control, hadv.stored, ⟨rfl, rfl, rfl, rfl, rfl, rfl, rfl⟩, fun hne => absurd rfl hne⟩
    · exact ⟨other, hother, .refl other, fun _ => rfl⟩
  obtain ⟨before, hbefore', hsame, heq⟩ := hfound
  refine ⟨fun hne hundrained => ?_, fun o hmem operation ho => ?_⟩
  · obtain rfl := heq hne
    obtain ⟨hstate, hexec⟩ := hundrained
    obtain ⟨hid, -⟩ := hheaded.keyed id' other hbefore'
    have howed : Owed other other.operationId := .inr ⟨hstate, rfl⟩
    obtain ⟨operation, ho, -⟩ | ⟨-, old, hold, -, -, hended, -⟩ :=
      hhanded.drainedOne hadv.current hadv.stored hdrained hbefore' happ hlife hscope howed
    · rw [hid] at ho
      exact hhanded.apart id' operation other ho hbefore'
    · rw [hid, hbefore'] at hold
      obtain rfl := Option.some.inj hold
      have hended : Reconciled other := hended
      simp [Reconciled, neverClaimed, hstate, hexec] at hended
  · rw [hsame.interrupted] at hmem
    have hone := hhanded.drainedOne hadv.current hadv.stored hdrained hbefore'
      (hsame.appId.symm.trans happ) (hsame.lifecycleId.symm.trans hlife)
      (hsame.scope.symm.trans hscope) (.inl hmem)
    obtain ⟨found, hf, -, -, hends, hlease⟩ | ⟨-, old, hold, -⟩ := hone
    · cases ho.symm.trans hf
      exact ⟨hends, hlease⟩
    · exact (hhanded.apart o operation old ho hold).elim

/-- When a control enters `stopping`, no other claimed control of its scope is left undrained, and
whatever was in its slot when a control of this scope interrupted it has ended and let go of its
lease. -/
theorem drained_on_stopping : (store.exec s op).2.ledger.DrainedAround id control' ∧
    ∀ tr₁ s₁ op₁ tr₂ earlier o, store.Run FreesDrained {} tr₁ s₁ → Interrupts s₁ op₁ earlier o →
      store.Run FreesDrained (store.exec s₁ op₁).2 tr₂ s → earlier.appId = control'.appId →
      earlier.lifecycleId = control'.lifecycleId → earlier.scope = control'.scope →
      ∃ operation, (store.exec s op).2.ledger.operation o = some operation ∧
        operation.state.isTerminal = true ∧ (store.exec s op).2.ledger.lease o = none := by
  have haround := drainedAround_of_stopping hr hc' henters hbefore
  refine ⟨haround, fun tr₁ s₁ op₁ tr₂ earlier o hr₁ h later happ hlife hscope => ?_⟩
  have hslotted : s₁.ledger.Slotted := Run.keeps hr₁ .empty fun _ _ _ hm h => h.move hm
  have hs := Run.keeps (P := fun L => L.Remembers earlier o) later (h.remembered hslotted)
    fun _ _ _ hm h => h.move hm
  obtain ⟨⟨kept, hkept, hsame⟩, operation, ho⟩ := (store_moves s op).keeps
    (P := fun L => L.Remembers earlier o) hs fun _ _ hm h => h.move hm
  have hlisted := h.listed
  rw [← hsame.interrupted] at hlisted
  exact ⟨operation, ho, (haround _ kept hkept (hsame.appId.trans happ)
    (hsame.lifecycleId.trans hlife) (hsame.scope.trans hscope)).2 o hlisted operation ho⟩

end Stopping

/-- The stop that interrupts a restart waits until the restart has failed. -/
def drainedRestart : List Op :=
  [.claimControl (Sample.executor "stop" 1) 1,
    .advance { Sample.progress "work" 2 .failed "restarting" .null with
      errorCode := some "ERR_BACKEND", errorMessage := some "interrupted" },
    .bindLease (Sample.executor "stop" 1) (.docker .userapp 1 1 "token")]

/-- The restart is in the slot of the scope when the stop is admitted. -/
theorem stop_interrupts_slotted : ∃ earlier,
    Interrupts (store.after {} (interruptedRestart.take 2))
      (.admitControl (Sample.controlRequest "stop" .stop) false 1) earlier "work" ∧
      earlier.appId = "app" ∧ earlier.lifecycleId = "life" ∧ earlier.scope = .prod := by
  have hfresh : (store.after {} (interruptedRestart.take 2)).ledger.control "stop" = none :=
    Option.isNone_iff_eq_none.mp (by decide +kernel)
  have hadmitted : ((store.after {} (interruptedRestart.take 3)).ledger.control "stop").any
      (fun c => c.operationId = "stop" ∧ c.appId = "app" ∧ c.lifecycleId = "life" ∧
        c.scope = .prod) = true := by decide +kernel
  have hslotted : (((store.after {} (interruptedRestart.take 2)).readApp "app").toOption.join).any
      (fun app => app.activeOperations.slot .prod = some "work") = true := by decide +kernel
  obtain ⟨earlier, hc, hp⟩ := (Option.any_eq_true _ _).mp hadmitted
  obtain ⟨hid, happ, hlife, hscope⟩ := of_decide_eq_true hp
  obtain ⟨app, hread, hslot⟩ := (Option.any_eq_true _ _).mp hslotted
  have hread : (store.after {} (interruptedRestart.take 2)).readApp "app" = .ok (some app) := by
    revert hread
    cases (store.after {} (interruptedRestart.take 2)).readApp "app" <;> simp [Except.toOption]
  obtain ⟨hholds, hid'⟩ := Store.readApp_some hread
  rw [← hid] at hfresh hc
  refine ⟨earlier, ⟨⟨_, _, _, rfl⟩, hfresh, hc, app, hholds, hid'.trans happ.symm, .inl ?_⟩,
    happ, hlife, hscope⟩
  rw [hscope]
  exact of_decide_eq_true hslot

def stoppingBehindRestart : Store :=
  store.after (store.after {} (interruptedRestart.take 3)) drainedRestart

theorem drained_on_stopping_drainedRestart : ∃ operation,
    (store.exec stoppingBehindRestart (Sample.entersStopping "stop" 1 3)).2.ledger.operation
        "work" = some operation ∧ operation.state.isTerminal = true ∧
      (store.exec stoppingBehindRestart (Sample.entersStopping "stop" 1 3)).2.ledger.lease "work" =
        none := by
  have hwork : (store.after {} []).ledger.control "work" = none :=
    Option.isNone_iff_eq_none.mp (by decide +kernel)
  have hstop : (store.after {} (interruptedRestart.take 2)).ledger.operation "stop" = none :=
    Option.isNone_iff_eq_none.mp (by decide +kernel)
  have hbefore : (stoppingBehindRestart.ledger.control "stop").all
      (fun c => c.stage ≠ "stopping") = true := by decide +kernel
  have hafter : ((store.exec stoppingBehindRestart
      (Sample.entersStopping "stop" 1 3)).2.ledger.control "stop").any (fun c => c.stage =
        "stopping" ∧ c.appId = "app" ∧ c.lifecycleId = "life" ∧ c.scope = .prod) = true := by
    decide +kernel
  obtain ⟨control, hc, hp⟩ := (Option.any_eq_true _ _).mp hafter
  obtain ⟨hstage, happ, hlife, hscope⟩ := of_decide_eq_true hp
  obtain ⟨earlier, hinterrupts, happ', hlife', hscope'⟩ := stop_interrupts_slotted
  have hrun : store.Run FreesDrained {} _ (store.after {} (interruptedRestart.take 3)) :=
    .of_follows ⟨⟨hwork, trivial⟩, ⟨trivial, trivial⟩, ⟨hstop, trivial⟩, trivial⟩
  have hdrained : store.Run FreesDrained (store.after {} (interruptedRestart.take 3)) _
      stoppingBehindRestart :=
    .of_follows ⟨⟨trivial, trivial⟩, ⟨trivial, trivial⟩, ⟨trivial, trivial⟩, trivial⟩
  have hfirst : store.Run FreesDrained {} _ (store.after {} (interruptedRestart.take 2)) :=
    .of_follows ⟨⟨hwork, trivial⟩, ⟨trivial, trivial⟩, trivial⟩
  refine (drained_on_stopping (hrun.append hdrained) hc hstage ?_).2 _ _ _ _ earlier "work" hfirst
    hinterrupts hdrained (happ'.trans happ.symm) (hlife'.trans hlife.symm)
      (hscope'.trans hscope.symm)
  intro before hb
  exact of_decide_eq_true ((Option.all_eq_true _ _).mp hbefore before hb)

/-- A stop interrupts a claimed restart and fails while draining it. The explicit start that
follows frees the head, so the next control starts from an empty list. -/
def forgottenExecutor : List Op :=
  [.ensureIdentity "app" Sample.fresh,
    .admitControl (Sample.controlRequest "first" .restart) false 1,
    .claimControl (Sample.executor "first" 1) 1,
    .admitControl (Sample.controlRequest "stop" .stop) false 1,
    .claimControl (Sample.executor "stop" 2) 1,
    Sample.failsDraining "stop" 2 2,
    .checkAccess "app" .prod true,
    .admitControl (Sample.controlRequest "second" .restart) false 1,
    .claimControl (Sample.executor "second" 3) 1,
    .bindLease (Sample.executor "second" 3) (.docker .userapp 1 1 "token")]

theorem undrained_on_stopping :
    ∃ control, (store.exec (store.after {} forgottenExecutor)
        (Sample.entersStopping "second" 3 3)).2.ledger.control "second" = some control ∧
      control.stage = "stopping" ∧
      (∀ before, (store.after {} forgottenExecutor).ledger.control "second" = some before →
        before.stage ≠ "stopping") ∧
      ¬(store.exec (store.after {} forgottenExecutor)
        (Sample.entersStopping "second" 3 3)).2.ledger.DrainedAround "second" control := by
  have hbefore : ((store.after {} forgottenExecutor).ledger.control "second").all
      (fun c => c.stage ≠ "stopping") = true := by decide +kernel
  have hafter : ((store.exec (store.after {} forgottenExecutor)
      (Sample.entersStopping "second" 3 3)).2.ledger.control "second").any
      (fun c => c.stage = "stopping" ∧ c.appId = "app" ∧ c.lifecycleId = "life" ∧
        c.scope = .prod) = true := by decide +kernel
  have hfirst : ((store.exec (store.after {} forgottenExecutor)
      (Sample.entersStopping "second" 3 3)).2.ledger.control "first").any
      (fun c => c.appId = "app" ∧ c.lifecycleId = "life" ∧ c.scope = .prod ∧
        c.state = .superseded ∧ c.executorId ≠ none) = true := by decide +kernel
  obtain ⟨control, hc, hp⟩ := (Option.any_eq_true _ _).mp hafter
  obtain ⟨hstage, happ, hlife, hscope⟩ := of_decide_eq_true hp
  obtain ⟨first, hf, hq⟩ := (Option.any_eq_true _ _).mp hfirst
  obtain ⟨happ', hlife', hscope', hundrained⟩ := of_decide_eq_true hq
  refine ⟨control, hc, hstage, ?_, fun hdrained => ?_⟩
  · intro before hb
    exact of_decide_eq_true ((Option.all_eq_true _ _).mp hbefore before hb)
  · exact (hdrained "first" first hf (happ'.trans happ.symm) (hlife'.trans hlife.symm)
      (hscope'.trans hscope.symm)).1 (by decide) hundrained

end Rcoder.Lifecycle
