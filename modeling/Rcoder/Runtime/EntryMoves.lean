import Rcoder.Runtime.Move

/-!
# The entry points as sequences of moves

For each function of the kernel, the moves it makes, whichever way it ends. `Moves W k₀` is
itself a steady assertion, so the rules for the store accesses apply to it directly.
-/

namespace Rcoder.Runtime

open Effect Kernel

variable {ε α : Type} {W : Settles} {P : Kernel → Prop}
  {env : KernelEnv} {id : String} {k k₀ k' : Kernel} {op r : StoredOperation}

theorem Quietly.refl (k : Kernel) : Quietly k k := ⟨rfl, .refl _⟩

theorem Quietly.script (h : Quietly k k') : k'.disk.script <:+ k.disk.script := h.2.2

theorem steady_quietly : Steady (Quietly k) := by
  rintro k' d hd ⟨hk, hq⟩
  refine ⟨?_, hq.trans hd⟩
  rw [hk]

theorem Kernel.Steady.quietly (hP : Steady P) (hq : Quietly k k') (hk : P k) : P k' := by
  rw [hq.1]
  exact hP k k'.disk hq.2 hk

theorem Quietly.map (hq : Quietly k k') (f : AdmissionState → AdmissionState) :
    Quietly (k.withAdmission (f k.admission)) (k'.withAdmission (f k'.admission)) := by
  refine ⟨?_, hq.2⟩
  rw [hq.1]
  rfl

theorem not_calm_of_torn_quietly (h : Torn (Quietly k) k') : k.disk.script ≠ [] := by
  obtain ⟨k₁, hq, hs, -⟩ := h
  intro hk
  exact hs (List.suffix_nil.mp (hk ▸ hq.script))

theorem moves_quietly (h : Moves W k₀ k) (hq : Quietly k k') : Moves W k₀ k' := by
  rw [hq.1]
  exact h.tail (.quiet hq.2)

theorem steady_moves : Steady (Moves W k₀) :=
  fun _ _ hq h => h.tail (.quiet hq)

theorem steady_record : Steady fun k => k.record? id = some r := by
  intro k d hq hk
  have hs : d.store.record? id = k.disk.store.record? id := by rw [hq.1]; rfl
  exact hs.trans hk

theorem steady_admission {R : AdmissionState → Prop} : Steady fun k => R k.admission :=
  fun _ _ _ h => h

@[simp]
theorem admission_withAdmission (a : AdmissionState) : (k.withAdmission a).admission = a := rfl

theorem record?_publish_self : (k.publish op).record? op.view.operationId = some op :=
  RuntimeStore.record?_publish_self

theorem record?_publish_ne (h : id ≠ op.view.operationId) :
    (k.publish op).record? id = k.record? id :=
  RuntimeStore.record?_publish_ne h

theorem Quietly.record? (h : Quietly k k') : k'.record? id = k.record? id := by
  have hs : k'.disk.store.record? id = k.disk.store.record? id := by rw [h.2.1]; rfl
  exact hs

theorem Quietly.admission (h : Quietly k k') : k'.admission = k.admission := by rw [h.1]

theorem Quietly.cancelled (h : Quietly k k') : k'.cancelled = k.cancelled := by rw [h.1]

variable {E : ε → Kernel → Prop} {Q : Unit → Kernel → Prop}

theorem modifyAdmission_rule {f : AdmissionState → AdmissionState}
    (h : ∀ k, P k → Q () (k.withAdmission (f k.admission))) : Triple P (modifyAdmission f) Q E :=
  .modify h

theorem protect_rule (h : ∀ k, P k → Q () k.shielded) :
    Triple P (protect : EStateM ε Kernel Unit) Q E :=
  .modify h

@[simp]
theorem StoredOperation.settle_id (state : RuntimeOperationState) (error : Option (String × String))
    (detail : Option RuntimeFailureDetail) :
    (r.settle state error detail).view.operationId = r.view.operationId := rfl

variable {error : Option (String × String)} {detail : Option RuntimeFailureDetail}
  {state : RuntimeOperationState}

/-- A settlement either finds its record settled already, or publishes the new outcome; it
fails on a torn disk, on a record that cannot be read, or when asked for another state. -/
theorem writeTerminal_rule (hP : Steady P)
    :
    Triple P (writeTerminal env id state error detail)
    (fun stored k => (P k ∧ k.record? id = some stored ∧ stored.view.state.Settled) ∨
      ∃ k₁ r, P k₁ ∧ k₁.record? id = some r ∧ ¬r.view.state.Settled ∧ state.Settled ∧
        stored = r.settle state error detail ∧ Quietly (k₁.publish stored) k)
    fun _ k => (P k ∧ (Torn P k ∨ k.record? id = none ∨ ¬state.Settled)) ∨
      ∃ k₁ r, P k₁ ∧ k₁.disk.script ≠ [] ∧ k₁.record? id = some r ∧ ¬r.view.state.Settled ∧
        state.Settled ∧ Quietly (k₁.publish (r.settle state error detail)) k := by
  refine .bind ((loadOperation_kernel hP).fails
    fun _ _ h => .inl ⟨h.1, h.2.imp_right .inl⟩) fun loaded => ?_
  refine .bind (R := fun stored k => P k ∧ k.record? id = some stored)
    (.require (fun r k hr h => ⟨h.1, by rw [← h.2.1, hr]⟩)
      fun k hn h => .inl ⟨h.1, .inr (.inl (h.2.1 ▸ hn))⟩) fun stored => ?_
  refine .bind (R := fun _ k => (P k ∧ k.record? id = some stored) ∧ state.Settled)
    (.ensure (fun k hs h => ⟨h, hs⟩) fun k hs h => .inl ⟨h.1, .inr (.inr hs)⟩) fun _ => ?_
  refine .ite (fun hsettled => ?_) fun hunsettled => ?_
  · have hst : Steady fun k => P k ∧ k.record? id = some stored := hP.and steady_record
    refine .bind ((emitTerminalRecord_rule hst).pre fun _ h => h.1) fun _ => ?_
    exact .pure fun k h => .inl ⟨h.1, h.2, hsettled⟩
  · have hst : Steady fun k => (P k ∧ k.record? id = some stored) ∧ state.Settled :=
      (hP.and steady_record).and (steady_admission (R := fun _ => state.Settled))
    have torn {k : Kernel} :
        Torn (fun k => (P k ∧ k.record? id = some stored) ∧ state.Settled) k → Torn P k :=
      fun ⟨k, hk, hs⟩ => ⟨k, hk.1.1, hs⟩
    refine .bind ((storeOperation_kernel hst).fails ?_) fun _ => ?_
    · rintro e k (⟨hk, ht⟩ | ⟨k₁, hk₁, hs, hq⟩)
      · exact .inl ⟨hk.1.1, .inl (torn ht)⟩
      · exact .inr ⟨k₁, stored, hk₁.1.1, hs, hk₁.1.2, hunsettled, hk₁.2, hq⟩
    · let settled := stored.settle state error detail
      have hst' : Steady fun k => ∃ k₁, ((P k₁ ∧ k₁.record? id = some stored) ∧ state.Settled) ∧
          Quietly (k₁.publish settled) k :=
        fun k d hq ⟨k₁, hk₁, hk⟩ => ⟨k₁, hk₁, steady_quietly k d hq hk⟩
      refine .bind ((emitTerminalRecord_rule hst').pre ?_) fun _ => .pure ?_
      · rintro _ ⟨k₁, hk₁, rfl⟩
        exact ⟨k₁, hk₁, .refl _⟩
      · rintro k ⟨k₁, hk₁, hk⟩
        exact .inr ⟨k₁, stored, hk₁.1.1, hk₁.1.2, hunsettled, hk₁.2, rfl, hk⟩

theorem isWaiting_eq_true {loaded : Except Anyhow (Option StoredOperation)}
    (h : isWaiting loaded = true) :
    ∃ op, loaded = .ok (some op) ∧ op.view.state = .accepted ∧ op.view.kind ≠ .stop := by
  cases loaded with
  | error => simp [isWaiting] at h
  | ok o =>
    cases o with
    | none => simp [isWaiting] at h
    | some op => exact ⟨op, rfl, by simpa [isWaiting] using h⟩

/-- A promotion hands over an accepted record with its own retained input, or protects. -/
theorem promoteQueued_rule (hP : Steady P) (hshield : ∀ k, P k → P k.shielded)
    (hpromote : ∀ k id r input, P k → k.admission.pendingRestart = some id →
      k.admission.activeOperationId = none → k.admission.recoveryProtection = false →
        k.record? id = some r →
      r.view.state = .accepted → r.view.kind ≠ .stop → k.admission.queuedInput = some input →
      input.view.operationId = id → P (k.promoted id input)) :
    Triple (fun k => P k ∧ k.admission.activeOperationId = none) (promoteQueued env)
      (fun _ => P) fun _ => P := by
  refine .read fun k₁ ⟨_, hidle⟩ => ?_
  cases hslot : k₁.admission.pendingRestart with
  | none => exact .pure fun k h => h.1 ▸ h.2.1
  | some id =>
    refine .ite (fun _ => .pure fun k h => h.1 ▸ h.2.1) fun hprot => ?_
    have hst : Steady fun k => k.admission = k₁.admission ∧ P k :=
      (steady_admission (R := (· = k₁.admission))).and hP
    refine .bind (R := fun loaded k => (k.admission = k₁.admission ∧ P k) ∧
        ∀ op, loaded = .ok (some op) → k.record? id = some op)
      (.attempt ((loadOperation_kernel hst).imp ?_ ?_ ?_)) fun loaded => ?_
    · rintro _ ⟨rfl, hk, -⟩
      exact ⟨rfl, hk⟩
    · intro o k h
      exact ⟨h.1, fun op ho => by rw [← h.2.1]; exact Except.ok.inj ho⟩
    · intro e k h
      exact ⟨h.1, fun op ho => by cases ho⟩
    have fails : Triple (fun k => (k.admission = k₁.admission ∧ P k) ∧
        ∀ op, loaded = .ok (some op) → k.record? id = some op)
        (do protect; throw ⟨["queued operation " ++ id ++
          " lacks confirmed execution input; recovery required"]⟩ : KernelM Unit)
        (fun _ => P) fun _ => P :=
      .bind (protect_rule fun k h => hshield k h.1.2) fun _ =>
        .throw fun _ h => h
    cases hw : isWaiting loaded with
    | false => exact fails
    | true =>
      cases hi : k₁.admission.queuedInput.filter (·.view.operationId = id) with
      | none => exact fails
      | some input =>
        obtain ⟨op, rfl, hacc, hkind⟩ := isWaiting_eq_true hw
        obtain ⟨hinput, hsame⟩ := Option.filter_eq_some_iff.mp hi
        -- the promoted kernel, before its action is dispatched
        let waiting (k : Kernel) : Kernel := k.withAdmission { k.admission with
          queuedInput := none, pendingRestart := none, activeOperationId := some id }
        have hst' : Steady fun k => ∃ k₂, (k₂.admission = k₁.admission ∧ P k₂ ∧
            k₂.record? id = some op) ∧ Quietly (waiting k₂) k :=
          fun k d hq ⟨k₂, hk₂, hk⟩ => ⟨k₂, hk₂, steady_quietly k d hq hk⟩
        refine .bind (R := fun _ k => ∃ k₂, (k₂.admission = k₁.admission ∧ P k₂ ∧
            k₂.record? id = some op) ∧ Quietly (waiting k₂) k)
          (modifyAdmission_rule fun k h =>
            ⟨k, ⟨h.1.1, h.1.2, h.2 op rfl⟩, .refl _⟩) fun _ => ?_
        refine .bind (emit_rule hst' _ _ _) fun _ => .modify ?_
        rintro k ⟨k₂, ⟨ha, hk₂, hrec⟩, hq⟩
        have hprom : P (k₂.promoted id input) :=
          hpromote k₂ id op input hk₂ (ha ▸ hslot) (ha ▸ hidle) (by rw [ha]; simpa using hprot) hrec
            hacc hkind (ha ▸ hinput) (by simpa using hsame)
        rw [hq.1]
        exact hP (k₂.promoted id input) k.disk hq.2 hprom

/-- What becomes of the slots when the queued operation was written, or was not. -/
def AdmissionState.afterSettling (id : String) (a : AdmissionState) :
    Except Anyhow StoredOperation → AdmissionState
  | .ok _ => { a with queuedInput := none }
  | .error _ => { a with pendingRestart := some id }

variable {reason : String}

/-- Settling the queued operation clears its slot; a failure leaves it there. -/
theorem settleQueued_rule (hP : Steady P)
    (hclear : ∀ k id r message, P k → k.admission.pendingRestart = some id →
      k.record? id = some r → ¬r.view.state.Settled → P (k.publish (r.superseded message)).unqueued)
    (hdrop : ∀ k id r, P k → k.admission.pendingRestart = some id → k.record? id = some r →
      r.view.state.Settled → P k.unqueued)
    (htorn : ∀ k id r message, P k → k.disk.script ≠ [] → k.record? id = some r →
      ¬r.view.state.Settled → P (k.publish (r.superseded message))) :
    Keeps P (settleQueuedRestartOnTerminalFailure env reason) := by
  refine Triple.get fun k₁ => ?_
  cases hslot : k₁.admission.pendingRestart with
  | none => exact Triple.pure fun k h => h.1 ▸ h.2
  | some id =>
    let taken (k : Kernel) : Kernel := k.withAdmission { k.admission with pendingRestart := none }
    let Taken (k : Kernel) : Prop :=
      ∃ k₂, P k₂ ∧ k₂.admission.pendingRestart = some id ∧ k = taken k₂
    have hst : Steady Taken := by
      rintro _ d hq ⟨k₂, hk₂, hs, rfl⟩
      exact ⟨{ k₂ with disk := d }, hP k₂ d hq hk₂, hs, rfl⟩
    -- putting the slot back undoes the take
    have putBack {k : Kernel} (hs : k.admission.pendingRestart = some id) :
        (taken k).withAdmission { (taken k).admission with pendingRestart := some id } = k := by
      simp only [taken, withAdmission, ← hs]
    refine Triple.bind (R := fun _ => Taken) (modifyAdmission_rule ?_) fun _ => ?_
    · rintro _ ⟨rfl, hk⟩
      exact ⟨_, hk, hslot, rfl⟩
    refine Triple.bind (R := fun written k =>
        P (k.withAdmission (k.admission.afterSettling id written)))
      (Triple.attempt ((writeTerminal_rule hst).post ?_ ?_)) fun written => ?_
    · rintro stored k (⟨⟨k₂, hk₂, hs, rfl⟩, hr, hset⟩ |
        ⟨_, r, ⟨k₂, hk₂, hs, rfl⟩, hr, hu, -, rfl, hq⟩)
      · exact hdrop k₂ id stored hk₂ hs hr hset
      · exact hP.quietly (hq.map fun a => { a with queuedInput := none })
          (hclear k₂ id r _ hk₂ hs hr hu)
    · rintro e k (⟨⟨k₂, hk₂, hs, rfl⟩, -⟩ | ⟨_, r, ⟨k₂, hk₂, hs, rfl⟩, hscript, hr, hu, -, hq⟩)
      · exact (congrArg P (putBack hs)).mpr hk₂
      · refine hP.quietly (hq.map fun a => { a with pendingRestart := some id }) ?_
        exact (congrArg P (putBack (k := k₂.publish _) hs)).mpr (htorn k₂ id r _ hk₂ hscript hr hu)
    cases written with
    | error =>
      exact Triple.bind (modifyAdmission_rule fun k h => h) fun _ =>
        .throw fun _ h => h
    | ok => exact modifyAdmission_rule fun k h => h

theorem promoteQueued_moves :
    Triple (fun k => Moves W k₀ k ∧ k.admission.activeOperationId = none) (promoteQueued env)
      (fun _ => Moves W k₀) fun _ => Moves W k₀ :=
  promoteQueued_rule steady_moves (fun _ h => h.tail .protect)
    fun _ _ _ _ h hs hidle hp hr ha hk hi he => h.tail (.promote hs hidle hp hr ha hk hi he)

/-- A slot is released only when its operation's outcome is known or protection is on. -/
def Releasing (W : Settles) (k₀ : Kernel) (id : String)
    (state : RuntimeOperationState) (k : Kernel) : Prop :=
  Moves W k₀ k ∧ (state = .recoveryRequired → k.admission.recoveryProtection = true) ∧
    (k.admission.recoveryProtection = true ∨ ¬k.Unknown id)

section Release

variable {state : RuntimeOperationState}

theorem unknown_publish_iff : (k.publish op).Unknown id ↔
    (id = op.view.operationId ∧ op.view.state.isTerminal = false) ∨
      (id ≠ op.view.operationId ∧ k.Unknown id) := by
  unfold Unknown
  by_cases h : id = op.view.operationId
  · subst h
    simp [record?_publish_self]
  · simp [record?_publish_ne h, h]

theorem Quietly.unknown (h : Quietly k k') : k'.Unknown id ↔ k.Unknown id := by
  unfold Unknown
  rw [h.record?]

theorem steady_unknown : Steady fun k => ¬k.Unknown id := by
  intro k d hq hk
  have : Quietly k { k with disk := d } := ⟨rfl, hq⟩
  rwa [this.unknown]

theorem steady_releasing : Steady (Releasing W k₀ id state) := by
  rintro k d hq ⟨hm, hs, hu⟩
  exact ⟨steady_moves k d hq hm, hs, hu.imp_right fun h => steady_unknown k d hq h⟩

theorem promoteQueued_releasing :
    Triple (fun k => Releasing W k₀ id state k ∧ k.admission.activeOperationId = none)
      (promoteQueued env) (fun _ => Releasing W k₀ id state)
      fun _ => Releasing W k₀ id state := by
  refine promoteQueued_rule steady_releasing ?_ ?_
  · rintro k ⟨hm, hs, -⟩
    exact ⟨hm.tail .protect, fun _ => rfl, .inl rfl⟩
  · rintro k q r input ⟨hm, hs, hu⟩ hslot hidle hp hr ha hk hi he
    exact ⟨hm.tail (.promote hslot hidle hp hr ha hk hi he), hs, hu⟩

theorem settleQueued_releasing (hW : W.queue) :
    Triple (fun k => Releasing W k₀ id state k ∧ k.admission.recoveryProtection = true)
      (settleQueuedRestartOnTerminalFailure env reason)
      (fun _ => Releasing W k₀ id state) fun _ => Releasing W k₀ id state := by
  have hst : Steady fun k => Moves W k₀ k ∧ k.admission.recoveryProtection = true :=
    steady_moves.and (steady_admission (R := fun a => a.recoveryProtection = true))
  have keeps : Keeps (fun k => Moves W k₀ k ∧ k.admission.recoveryProtection = true)
      (settleQueuedRestartOnTerminalFailure env reason) := by
    refine settleQueued_rule hst ?_ ?_ ?_
    · rintro k q r message ⟨hm, hp⟩ hs hr hu
      exact ⟨hm.tail (.supersede hs hp hr hu hW), hp⟩
    · rintro k q r ⟨hm, hp⟩ hs hr hset
      exact ⟨hm.tail (.drop hs hp hr hset), hp⟩
    · rintro k q r message ⟨hm, hp⟩ htorn hr hu
      exact ⟨hm.tail (.tornSupersede htorn hp hr hu), hp⟩
  refine .imp keeps (fun k h => ⟨h.1.1, h.2⟩) ?_ ?_
  · exact fun _ k h => ⟨h.1, fun _ => h.2, .inl h.2⟩
  · exact fun _ k h => ⟨h.1, fun _ => h.2, .inl h.2⟩

variable (hW : state = .recoveryRequired → W.queue)
include hW

theorem releaseActive_moves :
    Keeps (Releasing W k₀ id state) (releaseSlots.releaseActive env id state) := by
  refine Triple.get fun k₁ => Triple.ite (fun hslot => ?_) fun _ => Triple.pure fun k h => h.1 ▸ h.2
  refine Triple.bind (R := fun _ k => Releasing W k₀ id state k ∧
    k.admission.activeOperationId = none) (modifyAdmission_rule ?_) fun _ => ?_
  · rintro _ ⟨rfl, hm, hs, hu⟩
    exact ⟨⟨hm.tail (.releaseActive hslot hu), hs, hu⟩, rfl⟩
  refine Triple.get fun k₂ => .ite (fun _ => ?_) fun _ => ?_
  · exact promoteQueued_releasing.pre fun k h => h.1 ▸ h.2
  · refine .onlyIf (fun hstate => ?_) fun k _ h => h.1 ▸ h.2.1
    exact (settleQueued_releasing (hW hstate)).pre fun k h =>
      ⟨h.1 ▸ h.2.1, h.1 ▸ h.2.1.2.1 hstate⟩

theorem releaseStop_moves :
    Keeps (Releasing W k₀ id state) (releaseSlots.releaseStop env id state) := by
  refine Triple.get fun k₁ => Triple.ite (fun hslot => ?_) fun _ => Triple.pure fun k h => h.1 ▸ h.2
  refine Triple.bind (R := fun _ => Releasing W k₀ id state) (modifyAdmission_rule ?_) fun _ => ?_
  · rintro _ ⟨rfl, hm, hs, hu⟩
    exact ⟨hm.tail (.releaseStop hslot hu), hs, hu⟩
  refine Triple.get fun k₂ => .ite (fun hidle => ?_) fun _ => ?_
  · exact promoteQueued_releasing.pre fun k h => ⟨h.1 ▸ h.2, h.1 ▸ hidle.2⟩
  · refine .onlyIf (fun hstate => ?_) fun k _ h => h.1 ▸ h.2
    exact (settleQueued_releasing (hW hstate)).pre fun k h => ⟨h.1 ▸ h.2, h.1 ▸ h.2.2.1 hstate⟩

theorem releaseSlots_moves (hr : r.view.state = state) (hset : state.Settled) (hR : W.releases id) :
    Triple (fun k => Moves W k₀ k ∧ k.record? id = some r) (releaseSlots env id state)
      (fun _ => Moves W k₀) fun _ => Moves W k₀ := by
  subst hr
  refine .bind (R := fun _ k => Moves W k₀ k ∧ k.record? id = some r)
    (.modify fun k h => ⟨h.1.tail (.uncancel h.2 hset hR), h.2⟩) fun _ => ?_
  refine .bind (R := fun _ => Releasing W k₀ id r.view.state) (.onlyIf ?_ ?_) fun _ => ?_
  · exact fun _ => protect_rule fun k h => ⟨h.1.tail .protect, fun _ => rfl, .inl rfl⟩
  · rintro k hstate ⟨hm, hrec⟩
    refine ⟨hm, fun h => absurd h hstate, .inr ?_⟩
    rintro ⟨r', hr', hterm⟩
    obtain rfl : r = r' := Option.mem_unique hrec hr'
    exact hset.elim (fun h => by simp [h] at hterm) hstate
  refine .bind ((releaseActive_moves hW).fails fun _ _ h => h.1) fun _ => ?_
  exact (releaseStop_moves hW).post (fun _ _ h => h.1) fun _ _ h => h.1

omit hW

theorem releaseSlots_out (hset : r.view.state.Settled) (hR : W.releases id)
    (hactive : k₀.admission.activeOperationId ≠ some id)
    (hstop : k₀.admission.pendingStop ≠ some id) :
    Triple (fun k => Moves W k₀ k ∧ k.record? id = some r ∧ k.admission = k₀.admission)
      (releaseSlots env id state) (fun _ => Moves W k₀) fun _ => Moves W k₀ := by
  let Out (k : Kernel) : Prop := Moves W k₀ k ∧
    k.admission.activeOperationId ≠ some id ∧ k.admission.pendingStop ≠ some id
  refine .bind (R := fun _ => Out) (.modify ?_) fun _ => ?_
  · rintro k ⟨hm, hr, ha⟩
    exact ⟨hm.tail (.uncancel hr hset hR), ha ▸ hactive, ha ▸ hstop⟩
  refine .bind (R := fun _ => Out) (.onlyIf (fun _ => protect_rule fun k h =>
    ⟨h.1.tail .protect, h.2⟩) fun _ _ h => h) fun _ => ?_
  refine .bind (R := fun _ => Out) (.get fun k₁ => .ite (fun hslot => ?_) fun _ =>
    .pure fun k h => h.1 ▸ h.2) fun _ => .get fun k₁ => .ite (fun hslot => ?_)
    fun _ => .pure fun k h => h.1 ▸ h.2.1
  · exact fun k h => absurd hslot h.2.2.1
  · exact fun k h => absurd hslot h.2.2.2

end Release

/-- The settlement of `id` with `state` leaves what was handed to the executor with an unknown
outcome; a settled record keeps its own. -/
def EndsUnknown (k : Kernel) (id : String) (state : RuntimeOperationState) : Prop :=
  (k.admission.activeOperationId = some id ∨ k.admission.pendingStop = some id) ∧
    (state = .recoveryRequired ∨ ∃ r, k.record? id = some r ∧ r.view.state = .recoveryRequired)

theorem finish_moves (hW : W.records id error)
    (hS : W.states id state) (hR : W.releases id) (hqueue : EndsUnknown k₀ id state → W.queue) :
    Triple (Quietly k₀) (finish env id state error detail) (fun _ => Moves W k₀)
      fun _ => Moves W k₀ := by
  refine .bind (R := fun stored k => (Moves W k₀ k ∧ k.record? id = some stored ∧
      k.admission = k₀.admission) ∧ stored.view.state.Settled ∧
      (stored.view.state = .recoveryRequired → state = .recoveryRequired ∨
        ∃ r, k₀.record? id = some r ∧ r.view.state = .recoveryRequired))
    ((writeTerminal_rule steady_quietly).post ?_ ?_) fun stored k h => ?_
  · rintro stored k (⟨hq, hr, hs⟩ | ⟨k₁, r, hk₁, hr, hu, hs, rfl, hq⟩)
    · exact ⟨⟨moves_quietly .refl hq, hr, hq.admission⟩, hs,
        fun hrr => .inr ⟨stored, hq.record? ▸ hr, hrr⟩⟩
    · refine ⟨⟨moves_quietly ((moves_quietly .refl hk₁).tail (.settle hr hu hs hW hS)) hq, ?_,
        hq.admission.trans hk₁.admission⟩, hs, .inl⟩
      rw [hq.record?, ← RuntimeStore.record?_id hr]
      exact record?_publish_self
  · rintro e k (h | ⟨k₁, r, hk₁, -, hr, hu, hs, hq⟩)
    · exact moves_quietly .refl h.1
    · exact moves_quietly ((moves_quietly .refl hk₁).tail (.settle hr hu hs hW hS)) hq
  · by_cases hslot : k₀.admission.activeOperationId = some id ∨ k₀.admission.pendingStop = some id
    · exact releaseSlots_moves (fun hrr => hqueue ⟨hslot, h.2.2 hrr⟩) rfl h.2.1 hR k ⟨h.1.1, h.1.2.1⟩
    · rw [not_or] at hslot
      exact releaseSlots_out h.2.1 hR hslot.1 hslot.2 k h.1

theorem writeTerminalLocked_moves (hW : W.records id none)
    (hS : W.states id state) (hR : W.releases id) (hqueue : EndsUnknown k₀ id state → W.queue) :
    Triple (Quietly k₀) (writeTerminalLocked env id state) (fun _ => Moves W k₀)
      fun _ => Moves W k₀ :=
  finish_moves hW hS hR hqueue

end Rcoder.Runtime
