import Rcoder.Runtime.ReconcileMoves

/-!
# Admission

The gate is a sequence of moves; a request that passes it is accepted, or its admission
breaks off and leaves what `Fails` says.
-/

namespace Rcoder.Runtime

open Effect Kernel AdmissionState

variable {W : Settles} {P : Kernel → Prop} {env : KernelEnv}
  {id : String} {k k₀ k' : Kernel} {op r stored : StoredOperation} {next : Nat}

abbrev Slots := Option String × Option String × Option String × Option StoredOperation

/-- Who executes, who stops, who waits, and the input retained for it. -/
def AdmissionState.slots (a : AdmissionState) : Slots :=
  (a.activeOperationId, a.pendingStop, a.pendingRestart, a.queuedInput)

/-- An admission that is about to break off, and leaves the given slots. -/
def Breaking (slots : Slots) (stored : StoredOperation) (next : Nat) (k₀ k : Kernel) : Prop :=
  k₀.Broken ∧ Disturbs stored next k₀ k ∧ k.admission.slots = slots

/-- An admission that broke off. -/
def Breaks (slots : Slots) (stored : StoredOperation) (next : Nat) (k₀ k : Kernel) : Prop :=
  k₀.Broken ∧ Fails stored next k₀ k ∧ k.admission.slots = slots

variable {k₁ : Kernel}

section Broken

variable (h : Quietly k k')
include h

theorem Quietly.trans {k'' : Kernel} (h' : Quietly k' k'') : Quietly k k'' := by
  refine ⟨?_, h.2.trans h'.2⟩
  rw [h'.1, h.1]

theorem Quietly.publish (op : StoredOperation) : Quietly (k.publish op) (k'.publish op) := by
  refine ⟨?_, ?_, h.2.2⟩
  · rw [h.1]
    rfl
  · simp only [Kernel.publish, Disk.publish]
    rw [h.2.1]
    rfl

theorem Quietly.setDesired {desired : DesiredState} :
    Quietly (k.setDesired desired next) (k'.setDesired desired next) := by
  refine ⟨?_, ?_, h.2.2⟩
  · rw [h.1]
    rfl
  · simp only [Kernel.setDesired, Disk.setDesired]
    rw [h.2.1]

theorem Quietly.desired : k'.disk.store.desired = k.disk.store.desired := by
  rw [h.2.1]

theorem Quietly.broken (hb : k'.Broken) : k.Broken := by
  rcases hb with hs | hd | ⟨cause, hd⟩ | ⟨id, hslot, hr⟩
  · exact .inl fun hnil => hs (List.suffix_nil.mp (hnil ▸ h.script))
  · exact .inr (.inl (h.desired ▸ hd))
  · exact .inr (.inr (.inl ⟨cause, h.desired ▸ hd⟩))
  · exact .inr (.inr (.inr ⟨id, h.admission ▸ hslot, h.record? ▸ hr⟩))

omit h

theorem steady_disturbs : Steady (Disturbs stored next k₀) :=
  fun _ _ hq h => h.tail (.quiet hq)

theorem Disturbs.quietly (h : Disturbs stored next k₀ k) (hq : Quietly k k') :
    Disturbs stored next k₀ k' :=
  steady_disturbs.quietly hq h

variable {reason : String} {α : Type} {Q : α → Kernel → Prop}

theorem holdAdmission_rule :
    Triple (fun k => Disturbs stored next k₀ k ∧ k.admission.slots = k₁.admission.slots)
      (holdAdmission env stored reason) Q
      fun _ k => Disturbs stored next k₀ k ∧ k.admission.recoveryProtection = true ∧
        k.admission.slots = k₁.admission.slots := by
  let Held (k : Kernel) : Prop := Disturbs stored next k₀ k ∧
    k.admission.recoveryProtection = true ∧ k.admission.slots = k₁.admission.slots
  have hst : Steady Held := steady_disturbs.and (steady_admission (R := fun a =>
    a.recoveryProtection = true ∧ a.slots = k₁.admission.slots))
  refine .bind (R := fun _ => Held) (protect_rule fun k h =>
    ⟨h.1.tail (.slots rfl rfl rfl rfl (.inl rfl)), rfl, h.2⟩) fun _ => ?_
  refine .bind ?_ fun _ => .throw fun _ h => h
  refine .bind (R := fun _ => Held) (.attempt ((storeOperation_kernel hst).post ?_ ?_))
    fun written => ?_
  · rintro _ _ ⟨k, hk, rfl⟩
    exact ⟨hk.1.tail (.hold reason), hk.2⟩
  · rintro _ k (h | ⟨k', hk', -, hq⟩)
    · exact h.1
    · exact hst.quietly hq ⟨hk'.1.tail (.hold reason), hk'.2⟩
  cases written with
  | error => exact .pure fun _ h => h
  | ok => exact emitTerminalRecord_rule hst

theorem holdAdmission_fails {slots : Slots} (hP : ∀ k, P k → Breaking slots stored next k₀ k) :
    Triple P (holdAdmission env stored reason) Q fun _ => Breaks slots stored next k₀ := by
  intro k hk
  obtain ⟨hb, hd, hslots⟩ := hP k hk
  refine (holdAdmission_rule.fails fun _ _ h => ⟨hb, .held hb h.1 h.2.1, ?_⟩) k ⟨hd, rfl⟩
  exact h.2.2.trans hslots

end Broken

section Persist

theorem backendError_code {context : String} {e : Anyhow} :
    (backendError context e).code ≠ errRecoveryRequired :=
  (by decide : errBackendError ≠ errRecoveryRequired)

/-- Where the first fault of a write leaves the kernel, before the file is written. -/
def Kernel.AtFault (k₀ k : Kernel) : Fault → Prop
  | .none | .fail _ => Quietly k₀ k
  | .published cause => Quietly k₀ k ∧ ∃ rest, k₀.disk.script = .published cause :: rest

/-- The write of the new record draws the next outcome of the script. -/
theorem storeOperation_first : Triple (· = k₀) (onDisk (storeOperation stored))
    (fun _ => Quietly (k₀.publish stored)) fun _ k =>
      Fails stored next k₀ k ∧ k.admission.slots = k₀.admission.slots := by
  refine onDisk_rule fun k => .bind (R := fun f d => k₀.AtFault { k with disk := d } f) ?_
    fun f => ?_
  · rintro d rfl
    obtain ⟨store, script⟩ := d
    cases script with
    | nil => exact .refl _
    | cons f rest =>
      have hq : Quietly { k with disk := ⟨store, f :: rest⟩ } { k with disk := ⟨store, rest⟩ } :=
        ⟨rfl, rfl, List.suffix_cons f rest⟩
      cases f with
      | none | fail => exact hq
      | published => exact ⟨hq, rest, rfl⟩
  cases f with
  | none => exact .modify fun d h => h.publish stored
  | fail => exact .throw fun d h => ⟨.unwritten h, congrArg slots h.admission⟩
  | published cause =>
    refine .bind (R := fun _ d => Quietly (k₀.publish stored) { k with disk := d } ∧
      ∃ rest, k₀.disk.script = .published cause :: rest)
        (.modify fun d h => ⟨h.1.publish stored, h.2⟩)
      fun _ => .throw fun d h => ?_
    obtain ⟨hq, rest, hs⟩ := h
    exact ⟨.torn hs hq, congrArg slots hq.admission⟩

theorem broken_of_torn (b : Kernel) (hb : b.disk.script = k₀.disk.script)
    (h : Torn (Quietly b) k) : k₀.Broken :=
  .inl (hb ▸ not_calm_of_torn_quietly h)

theorem persistIntent_rule : Triple (Quietly (k₀.publish stored)) (persistIntent env stored next)
    (fun _ => Quietly (k₀.opened stored next))
    fun _ => Breaks k₀.admission.slots stored next k₀ := by
  refine .bind (R := fun written k => match written with
      | .ok _ => Quietly (k₀.opened stored next) k
      | .error _ => Breaking k₀.admission.slots stored next k₀ k)
    (.attempt ((storeDesired_kernel steady_quietly _ _).post ?_ ?_)) fun written => ?_
  · rintro _ _ ⟨k, hk, rfl⟩
    exact hk.setDesired
  · rintro _ k ⟨hk, hcause⟩
    refine ⟨?_, .quietly (.single .record) hk, congrArg slots hk.admission⟩
    rcases hcause with h | h | h
    · exact broken_of_torn (k₀.publish stored) rfl h
    · exact .inr (.inl (hk.desired ▸ h))
    · exact .inr (.inr (.inl (hk.desired ▸ h)))
  cases written with
  | ok => exact .pure fun _ h => h
  | error => exact holdAdmission_fails fun _ h => h

theorem openAdmission_rule : Triple (· = k₀) (openAdmission env stored next)
    (fun _ => Quietly (k₀.opened stored next)) fun e k => Fails stored next k₀ k ∧
      k.admission.slots = k₀.admission.slots ∧ (e.code = errRecoveryRequired → k₀.Broken) :=
  .bind (.mapError (storeOperation_first.fails fun _ _ h =>
    ⟨h.1, h.2, fun hcode => absurd hcode backendError_code⟩)) fun _ =>
    persistIntent_rule.fails fun _ _ h => ⟨h.2.1, h.2.2, fun _ => h.1⟩

/-- The kernel while the queued operation gives way: its slot is already taken. -/
def replaced (k : Kernel) (slot : Option String) : Kernel :=
  k.withAdmission { k.admission with pendingRestart := slot }

theorem record?_opened : (k.opened stored next).record? id = (k.publish stored).record? id := rfl

theorem broken_of_missing (hslot : k₀.admission.pendingRestart = some id ∨
    k₀.admission.activeOperationId = some id)
    (h : (k₀.opened stored next).record? id = none) : k₀.Broken := by
  refine .inr (.inr (.inr ⟨id, hslot, ?_⟩))
  rw [record?_opened] at h
  by_cases hid : id = stored.view.operationId
  · rw [hid, record?_publish_self] at h
    cases h
  · rwa [record?_publish_ne hid] at h

theorem disturbs_opened : Disturbs stored next k₀ (k₀.opened stored next) :=
  (Relation.ReflTransGen.single .record).tail .intent

/-- What the queue may hold while an admission takes it over: nothing, the new operation, or
still the one that was waiting. -/
def TakesQueue (stored : StoredOperation) (k₀ : Kernel) (slot : Option String) : Prop :=
  slot = none ∨ slot = some stored.view.operationId ∨ slot = k₀.admission.pendingRestart

variable {message : String} {slot : Option String}

/-- The queued operation is superseded, or the admission breaks off. -/
theorem supersede_rule (stored : StoredOperation) (next : Nat)
    (hslot : k₀.admission.pendingRestart = some id) (htakes : TakesQueue stored k₀ slot)
    {E : AdmissionRejection → Kernel → Prop} :
    Triple (Quietly (replaced (k₀.opened stored next) slot))
      (attempt (writeTerminal env id .cancelled (some (errSuperseded, message)) none))
      (fun written k => match written with
        | .ok _ => ∃ k₁, Clears (k₀.opened stored next) k₁ ∧ Quietly (replaced k₁ slot) k
        | .error _ => k₀.Broken ∧ Disturbs stored next k₀ k ∧
          k.admission = { k₀.admission with pendingRestart := slot }) E := by
  have hleft : Disturbs stored next k₀ (replaced (k₀.opened stored next) slot) :=
    disturbs_opened.tail (.slots rfl rfl rfl rfl (.inr htakes))
  refine .attempt ((writeTerminal_rule steady_quietly).post ?_ ?_)
  · rintro written k (⟨hq, hr, hs⟩ | ⟨k₁, r, hk₁, hr, hu, -, rfl, hq⟩)
    · exact ⟨_, .settled hslot (hq.record? ▸ hr) hs, hq⟩
    · refine ⟨(k₀.opened stored next).publish (r.superseded message),
        .superseded hslot (hk₁.record? ▸ hr) hu, ?_⟩
      have hpublished := hk₁.publish (r.superseded message)
      exact hpublished.trans hq
  · rintro e k (⟨hq, hcause⟩ | ⟨k₁, r, hk₁, hscript, hr, hu, -, hq⟩)
    · refine ⟨?_, hleft.quietly hq, hq.admission⟩
      rcases hcause with h | h | h
      · exact broken_of_torn (replaced (k₀.opened stored next) slot) rfl h
      · exact broken_of_missing (.inl hslot) (hq.record? ▸ h)
      · exact absurd (by decide) h
    · refine ⟨.inl fun h => hscript (List.suffix_nil.mp (h ▸ hk₁.script)), ?_, ?_⟩
      · exact .quietly ((hleft.quietly hk₁).tail (.supersede hr hu)) hq
      · exact hq.admission.trans hk₁.admission

theorem supersedeQueued_rule (hslot : k₀.admission.pendingRestart = some id)
    (htakes : TakesQueue stored k₀ slot) :
    Triple (Quietly (replaced (k₀.opened stored next) slot))
      (supersedeQueued env stored id message)
      (fun _ k => ∃ k₁, Clears (k₀.opened stored next) k₁ ∧ Quietly (replaced k₁ slot) k)
      fun _ => Breaks k₀.admission.slots stored next k₀ := by
  refine .bind (supersede_rule stored next hslot htakes) fun written => ?_
  cases written with
  | ok => exact .pure fun _ h => h
  | error =>
    refine .bind (modifyAdmission_rule fun k h =>
      ⟨h.1, h.2.1.tail (.slots rfl rfl rfl rfl (.inr (.inr (.inr hslot.symm)))), ?_⟩) fun _ =>
      holdAdmission_fails fun _ h => h
    simp [slots, h.2.2, hslot]

theorem replaced_self (h : k.admission.pendingRestart = slot) : replaced k slot = k := by
  subst h
  rfl

/-- The answer of an occupied slot: only the announcement is missing. -/
def announced (stored : StoredOperation) (k : Kernel) : Kernel :=
  { k with
    admission := { k.admission with latestAdmittedOperationId := some stored.view.operationId }
    dispatched := k.dispatched ++ [dispatchActionFor stored] }

theorem Quietly.announced (h : Quietly k k') :
    Quietly (announced stored k) (announced stored k') := by
  refine ⟨?_, h.2⟩
  rw [h.1]
  rfl

theorem Quietly.queued (hq : Quietly (k₀.opened stored next) k)
    (hslot : k.admission.pendingRestart = slot) :
    (k₀.opened stored next).admission.pendingRestart = slot :=
  (congrArg _ hq.admission).symm.trans hslot

theorem occupyStop_rule (hopens : Opens stored next k₀) (hkind : stored.view.kind = .stop) :
    Triple (Quietly (k₀.opened stored next)) (occupyStop env stored)
      (fun _ k => ∃ k₁, Admits stored next k₀ k₁ ∧ Quietly k₁ (announced stored k))
      fun _ => Breaks k₀.admission.slots stored next k₀ := by
  refine .bind (R := fun _ k => ∃ k₁, Clears (k₀.opened stored next) k₁ ∧
    Quietly (replaced k₁ none) k) ?_ fun _ => modifyAdmission_rule ?_
  · refine .read fun k₂ hq => ?_
    cases hslot : k₂.admission.pendingRestart with
    | none =>
      have hvacant := hq.queued hslot
      exact .pure fun _ h => ⟨_, .vacant hvacant, (replaced_self hvacant).symm ▸ h.1 ▸ hq⟩
    | some id =>
      refine .bind
        (modifyAdmission_rule ?_) fun _ => supersedeQueued_rule (hq.queued hslot) (.inl rfl)
      rintro _ ⟨rfl, -⟩
      exact hq.map fun a => { a with pendingRestart := none }
  · rintro k ⟨k₁, hc, hq⟩
    exact ⟨k₁.stopAccepted stored, .stop hopens hkind hc, (hq.map fun a => { a with
      queuedInput := none, pendingStop := some stored.view.operationId }).announced⟩

theorem occupyActive_rule (hopens : Opens stored next k₀) (hkind : stored.view.kind ≠ .stop)
    (hidle : k₀.admission.activeOperationId = none ∧ k₀.admission.pendingStop = none) :
    Triple (Quietly (k₀.opened stored next)) (occupyActive env stored)
      (fun _ k => ∃ k₁, Admits stored next k₀ k₁ ∧ Quietly k₁ (announced stored k))
      fun _ => Breaks k₀.admission.slots stored next k₀ := by
  refine .bind (R := fun _ k => ∃ k₁, Clears (k₀.opened stored next) k₁ ∧
    Quietly (k₁.withAdmission { k₁.admission with
      pendingRestart := none
      queuedInput :=
        if k₁.admission.pendingRestart = none then k₁.admission.queuedInput else none }) k)
    ?_ fun _ => modifyAdmission_rule ?_
  · refine .read fun k₂ hq => ?_
    cases hslot : k₂.admission.pendingRestart with
    | none =>
      have hvacant := hq.queued hslot
      refine .pure fun _ h => ⟨_, .vacant hvacant, ?_⟩
      rw [h.1]
      exact (replaced_self hvacant).symm ▸ hq
    | some id =>
      have hslot₀ : k₀.admission.pendingRestart = some id := hq.queued hslot
      refine .bind ((supersede_rule stored next hslot₀ (.inr (.inr hslot₀.symm))).pre fun _ h =>
        h.1 ▸ (replaced_self hslot₀).symm ▸ hq) fun written => ?_
      cases written with
      | error =>
        refine holdAdmission_fails fun k h => ⟨h.1, h.2.1, ?_⟩
        simp [slots, h.2.2, hslot₀]
      | ok =>
        refine modifyAdmission_rule ?_
        rintro k ⟨k₁, hc, hq⟩
        refine ⟨k₁, hc, ?_⟩
        have hslot₁ : k₁.admission.pendingRestart = some id := by
          cases hc <;> exact hslot₀
        simp only [hslot₁]
        exact hq.map fun a => { a with pendingRestart := none, queuedInput := none }
  · rintro k ⟨k₁, hc, hq⟩
    exact ⟨k₁.activated stored, .active hopens hkind hidle hc, (hq.map fun a => { a with
      activeOperationId := some stored.view.operationId }).announced⟩

theorem Clears.disturbs (h : Clears (k₀.opened stored next) k₁) : Disturbs stored next k₀ k₁ := by
  cases h with
  | vacant | settled => exact disturbs_opened
  | superseded _ record unsettled => exact disturbs_opened.tail (.supersede record unsettled)

theorem Clears.missing (h : Clears k k₁) (hr : k₁.record? id = none) : k.record? id = none := by
  cases h with
  | vacant | settled => exact hr
  | @superseded _ message r =>
    by_cases hid : id = (r.superseded message).view.operationId
    · rw [hid, record?_publish_self] at hr
      cases hr
    · rwa [record?_publish_ne hid] at hr

theorem Clears.script (h : Clears k k₁) : k₁.disk.script = k.disk.script := by
  cases h <;> rfl

theorem Clears.admission (h : Clears k k₁) : k₁.admission = k.admission := by
  cases h <;> rfl

theorem Clears.slots (h : Clears (k.opened stored next) k₁) : k₁.admission = k.admission :=
  h.admission

/-- What follows an acceptance: an older active Source is told to stop. -/
inductive AnnounceMove : Kernel → Kernel → Prop
  | quiet {k : Kernel} {d : Disk} (disk : Quiet k.disk d) : AnnounceMove k { k with disk := d }
  | cancel {k : Kernel} {id : String} (slot : k.admission.activeOperationId = some id)
      (file : k.Readable id) : AnnounceMove k { k with cancelled := k.cancelled.insert id }
  | receipt {k : Kernel} {r : StoredOperation}
      (record : k.record? r.view.operationId = some r) : AnnounceMove k (k.recordCancellation r)
  | cancelSource {k : Kernel} {id : String} :
      AnnounceMove k { k with dispatched := k.dispatched ++ [.cancelSource id] }
  | note {k : Kernel} {latest : Option String} :
      AnnounceMove k (k.withAdmission { k.admission with latestAdmittedOperationId := latest })

abbrev AnnounceMoves : Kernel → Kernel → Prop := Relation.ReflTransGen AnnounceMove

theorem AnnounceMove.move (h : AnnounceMove k k') : Move W k k' := by
  cases h with
  | quiet disk => exact .quiet disk
  | cancel _ file => exact .cancel file
  | receipt record => exact .receipt record
  | cancelSource => exact .cancelSource
  | note => exact .note

theorem AnnounceMoves.moves (h : AnnounceMoves k k') : Moves W k k' :=
  Relation.ReflTransGen.mono (fun _ _ => AnnounceMove.move) _ _ h

theorem steady_announceMoves : Steady (AnnounceMoves k₀) :=
  fun _ _ hq h => h.tail (.quiet hq)

theorem announceMoves_quietly (h : Quietly k k') : AnnounceMoves k k' :=
  steady_announceMoves.quietly h .refl

/-- The newer Source request is queued; cancelling the active one changes no slot. -/
theorem cancelActiveSource_rule (hc : Clears (k₀.opened stored next) k₁)
    (hslot : k₀.admission.activeOperationId = some id) :
    Triple (Quietly (k₁.enqueued stored)) (cancelActiveSource env stored id)
      (fun _ => AnnounceMoves (k₁.enqueued stored))
      fun _ => Breaks (k₁.enqueued stored).admission.slots stored next k₀ := by
  have hslot₁ : (k₁.enqueued stored).admission.activeOperationId = some id :=
    (congrArg activeOperationId hc.admission).trans hslot
  have hleft : Disturbs stored next k₀ (k₁.enqueued stored) :=
    hc.disturbs.tail (.slots rfl rfl rfl rfl (.inr (.inr (.inl rfl))))
  have hscript {k : Kernel} (h : Torn (Quietly (k₁.enqueued stored)) k) : k₀.Broken :=
    broken_of_torn (k₁.enqueued stored) hc.script h
  refine .bind (R := fun loaded k => match loaded with
      | .ok o => Quietly (k₁.enqueued stored) k ∧ o = k.record? id
      | .error _ => Breaking (k₁.enqueued stored).admission.slots stored next k₀ k)
    (.attempt ((loadOperation_kernel steady_quietly).post (fun _ _ h => ⟨h.1, h.2.1⟩) ?_))
    fun loaded => ?_
  · rintro _ k ⟨hq, hcause⟩
    refine ⟨?_, hleft.quietly hq, congrArg slots hq.admission⟩
    rcases hcause with h | h
    · exact hscript h
    · rw [hq.record?] at h
      exact broken_of_missing (.inr hslot) (hc.missing h)
  cases loaded with
  | error => exact holdAdmission_fails fun _ h => h
  | ok loaded =>
    cases loaded with
    | none => exact .pure fun _ h => announceMoves_quietly h.1
    | some active =>
      refine .ite (fun _ => ?_) fun _ => .pure fun _ h => announceMoves_quietly h.1
      have hst : Steady fun k => Quietly (k₁.enqueued stored) k ∧ k.record? id = some active :=
        steady_quietly.and steady_record
      refine .bind (R := fun written k => match written with
          | .ok _ => AnnounceMoves (k₁.enqueued stored) k ∧ k.Readable id ∧
              k.admission.activeOperationId = some id
          | .error _ => Breaking (k₁.enqueued stored).admission.slots stored next k₀ k)
        (.attempt (((storeCancellation_kernel hst).pre fun _ h => ⟨h.1, h.2.symm⟩).post ?_ ?_))
        fun written => ?_
      · rintro _ _ ⟨k, ⟨hq, hr⟩, rfl⟩
        have hid := RuntimeStore.record?_id hr
        refine ⟨(announceMoves_quietly hq).tail (.receipt (by rw [hid]; exact hr)), ⟨active, hr⟩, ?_⟩
        exact (congrArg activeOperationId hq.admission).trans hslot₁
      · rintro _ k ⟨⟨hq, -⟩, htorn⟩
        exact ⟨hscript (htorn.imp fun _ h => ⟨h.1.1, h.2⟩), hleft.quietly hq,
          congrArg slots hq.admission⟩
      cases written with
      | error =>
        exact .bind (.modify fun k h => ⟨h.1, h.2.1.tail (.cancel _), h.2.2⟩) fun _ =>
          holdAdmission_fails fun _ h => h
      | ok =>
        exact .bind (R := fun _ => AnnounceMoves (k₁.enqueued stored))
          (.modify fun k h => h.1.tail (.cancel h.2.2 h.2.1)) fun _ =>
          .modify fun k h => h.tail .cancelSource

theorem enqueue_rule : Triple (Quietly (k₀.opened stored next)) (enqueue env stored)
    (fun _ k => ∃ k₁, Clears (k₀.opened stored next) k₁ ∧ Quietly (k₁.enqueued stored) k)
    fun _ => Breaks k₀.admission.slots stored next k₀ := by
  refine .get fun k₂ => ?_
  refine .bind (R := fun _ k => Quietly (replaced (k₀.opened stored next)
      (some stored.view.operationId)) k ∧ k₀.admission.pendingRestart = k₂.admission.pendingRestart)
    (modifyAdmission_rule ?_) fun _ => ?_
  · rintro _ ⟨rfl, hq⟩
    exact ⟨hq.map fun a => { a with pendingRestart := some stored.view.operationId },
      (congrArg pendingRestart hq.admission).symm⟩
  refine .bind (R := fun _ k => ∃ k₁, Clears (k₀.opened stored next) k₁ ∧
    Quietly (replaced k₁ (some stored.view.operationId)) k) ?_ fun _ => modifyAdmission_rule ?_
  · cases hslot : k₂.admission.pendingRestart with
    | none => exact .pure fun _ h => ⟨_, .vacant h.2, h.1⟩
    | some => exact fun k h => supersedeQueued_rule h.2 (.inr (.inl rfl)) k h.1
  · rintro k ⟨k₁, hc, hq⟩
    exact ⟨k₁, hc, hq.map fun a => { a with queuedInput := some stored }⟩

theorem Clears.active_enqueued (hc : Clears (k₀.opened stored next) k₁)
    (hq : Quietly (k₁.enqueued stored) k) :
    k.admission.activeOperationId = k₀.admission.activeOperationId := by
  rw [hq.admission]
  exact congrArg (·.activeOperationId) hc.slots

theorem occupyQueue_rule (hopens : Opens stored next k₀) (hkind : stored.view.kind ≠ .stop)
    (hbusy : k₀.admission.activeOperationId ≠ none ∨ k₀.admission.pendingStop ≠ none) :
    Triple (Quietly (k₀.opened stored next)) (occupyQueue env stored)
      (fun _ k => ∃ k₁, Admits stored next k₀ k₁ ∧ AnnounceMoves k₁ k)
      fun _ k => k₀.Broken ∧ Fails stored next k₀ k := by
  refine .bind (enqueue_rule.fails fun _ _ h => ⟨h.1, h.2.1⟩) fun _ => .get fun k₃ => ?_
  have done {k₁ : Kernel} (hc : Clears (k₀.opened stored next) k₁) :
      Admits stored next k₀ (k₁.enqueued stored) := .queue hopens hkind hbusy hc
  have waits : Triple (fun k => k = k₃ ∧ ∃ k₁, Clears (k₀.opened stored next) k₁ ∧
      Quietly (k₁.enqueued stored) k₃) (pure () : AdmitM Unit)
      (fun _ k => ∃ k₁, Admits stored next k₀ k₁ ∧ AnnounceMoves k₁ k)
      fun _ k => k₀.Broken ∧ Fails stored next k₀ k := by
    refine .pure ?_
    rintro _ ⟨rfl, k₁, hc, hq⟩
    exact ⟨_, done hc, announceMoves_quietly hq⟩
  cases hlatest : isLatestSource stored.request with
  | false => exact waits
  | true =>
    cases hactive : k₃.admission.activeOperationId with
    | none => exact waits
    | some id =>
      rintro _ ⟨rfl, k₁, hc, hq⟩
      exact ((cancelActiveSource_rule hc ((hc.active_enqueued hq).symm.trans hactive)).post
        (fun _ _ h => ⟨_, done hc, h⟩) fun _ _ h => ⟨h.1, h.2.1⟩) _ hq

/-- An occupied slot; a queued operation waits, any other is announced at once. -/
def Placed (stored : StoredOperation) (next : Nat) (k₀ : Kernel) (queued : Bool)
    (k : Kernel) : Prop :=
  ∃ k₁, Admits stored next k₀ k₁ ∧
    if queued then AnnounceMoves k₁ k else Quietly k₁ (announced stored k)

theorem occupySlot_rule (hopens : Opens stored next k₀) :
    Triple (Quietly (k₀.opened stored next)) (occupySlot env stored)
      (Placed stored next k₀) fun _ k => k₀.Broken ∧ Fails stored next k₀ k := by
  refine .get fun k₂ => ?_
  have slots {k : Kernel} (h : k = k₂ ∧ Quietly (k₀.opened stored next) k₂) :
      k₂.admission = k₀.admission := h.2.admission
  refine .ite (fun hkind => ?_) fun hkind => ?_
  · exact .bind ((occupyStop_rule hopens hkind).imp (fun k h => h.1 ▸ h.2) (fun _ _ h => h)
      fun _ _ h => ⟨h.1, h.2.1⟩) fun _ => .pure fun _ h => h
  refine .ite (fun hbusy => ?_) fun hidle k h => ?_
  · intro k h
    have hbusy₀ : k₀.admission.activeOperationId ≠ none ∨ k₀.admission.pendingStop ≠ none := by
      rw [← slots h]
      simpa [Option.isSome_iff_ne_none] using hbusy
    exact Triple.bind (occupyQueue_rule hopens hkind hbusy₀) (fun _ => .pure fun _ h => h) k
      (h.1 ▸ h.2)
  · have hidle₀ : k₀.admission.activeOperationId = none ∧ k₀.admission.pendingStop = none := by
      rw [← slots h]
      simpa using hidle
    exact Triple.bind ((occupyActive_rule hopens hkind hidle₀).fails fun _ _ h => ⟨h.1, h.2.1⟩)
      (fun _ => .pure fun _ h => h) k (h.1 ▸ h.2)

/-- A request that passed the gate is accepted, or its admission breaks off. -/
theorem persistAdmission_rule (hopens : Opens stored next k₀) :
    Triple (· = k₀) (persistAdmission env stored next)
      (fun answer k => answer = .accepted stored.view ∧
        ∃ k₁, Admits stored next k₀ k₁ ∧ AnnounceMoves k₁ k)
      fun e k => Fails stored next k₀ k ∧ (e.code = errRecoveryRequired → k₀.Broken) := by
  refine .bind (openAdmission_rule.fails fun _ _ h => ⟨h.1, h.2.2⟩) fun _ => ?_
  refine .bind ((occupySlot_rule hopens).fails fun _ _ h => ⟨h.2, fun _ => h.1⟩) fun queued => ?_
  cases queued with
  | true =>
    let Accepted (k : Kernel) : Prop := ∃ k₁, Admits stored next k₀ k₁ ∧ AnnounceMoves k₁ k
    have hst : Steady Accepted := fun k d hq ⟨k₁, ha, hm⟩ => ⟨k₁, ha, steady_announceMoves k d hq hm⟩
    refine .bind (R := fun _ => Accepted) (modifyAdmission_rule ?_) fun _ => ?_
    · rintro k ⟨k₁, ha, hm⟩
      exact ⟨k₁, ha, hm.tail .note⟩
    refine .bind (emit_rule hst _ _ _) fun _ => ?_
    exact .bind (.onlyIf (fun h => by cases h)
      fun _ _ h => h) fun _ => .pure fun _ h => ⟨rfl, h⟩
  | false =>
    let Undispatched (k : Kernel) : Prop := ∃ k₁, Admits stored next k₀ k₁ ∧
      Quietly k₁ { k with dispatched := k.dispatched ++ [dispatchActionFor stored] }
    have hst : Steady Undispatched := fun k d hq ⟨k₁, ha, hk⟩ => 
      ⟨k₁, ha, steady_quietly { k with dispatched := _ } d hq hk⟩
    refine .bind (R := fun _ => Undispatched) (modifyAdmission_rule fun k h => h) fun _ => ?_
    refine .bind (emit_rule hst _ _ _) fun _ => ?_
    refine .bind (R := fun _ k => ∃ k₁, Admits stored next k₀ k₁ ∧ Quietly k₁ k)
      (.onlyIf (fun _ => .modify fun k h => h) fun _ h => absurd rfl h) fun _ => ?_
    refine .pure ?_
    rintro k ⟨k₁, ha, hq⟩
    exact ⟨rfl, k₁, ha, announceMoves_quietly hq⟩

end Persist

section Gate

variable {request : RuntimeOperationRequest} {holds : AdmissionHolds}

theorem Quietly.files (h : Quietly k k') : k'.disk.store.operations = k.disk.store.operations := by
  rw [h.2.1]

theorem mem_publish : id ∈ (k.publish op).disk.store.operations ↔
    id = op.view.operationId ∨ id ∈ k.disk.store.operations :=
  AList.mem_insert _

theorem SettleMoves.fresh (h : SettleMoves k k') (hid : id ∉ k.disk.store.operations) :
    id ∉ k'.disk.store.operations := by
  induction h with
  | refl => exact hid
  | @tail k₁ k₂ _ hstep ih =>
    have published {op r : StoredOperation} (hop : op.view.operationId = r.view.operationId)
        (hr : k₁.record? r.view.operationId = some r) :
        id ∉ (k₁.publish op).disk.store.operations := by
      rw [mem_publish, hop]
      rintro (rfl | hmem)
      · exact ih (RuntimeStore.record?_mem hr)
      · exact ih hmem
    cases hstep with
    | quiet disk => rwa [Quietly.files ⟨rfl, disk⟩]
    | succeed record => exact published (StoredOperation.settle_id _ _ _) record
    | resolve record => exact published interruptedRecord_id record
    | cancel | forget | assess => exact ih

/-- What the gate may have done: settled unresolved recoveries, if it found the protection on. -/
def Gated (k₀ k : Kernel) : Prop :=
  SettleMoves k₀ k ∧ (k₀.admission.recoveryProtection = false → Quietly k₀ k)

theorem gated_of_quietly (h : Quietly k₀ k) : Gated k₀ k :=
  ⟨steady_settleMoves.quietly h .refl, fun _ => h⟩

theorem steady_gated : Steady (Gated k₀) :=
  fun k d hq h => ⟨steady_settleMoves k d hq h.1, fun hoff => steady_quietly k d hq (h.2 hoff)⟩

/-- A start that goes on finds the protection off. -/
theorem settleBeforeAdmission_rule : Triple (Quietly k₀) (settleBeforeAdmission env request)
    (fun _ k => Gated k₀ k ∧ (request.kind ≠ .stop → k.admission.recoveryProtection = false))
    fun _ k => SettleMoves k₀ k ∧ k₀.admission.recoveryProtection = true := by
  refine .get fun k₁ => .ite (fun hprot => ?_) fun hskip => .pure ?_
  · refine .bind (R := fun _ k => SettleMoves k₀ k ∧ k₀.admission.recoveryProtection = true)
      (.mapError ?_) fun _ => ?_
    · rintro _ ⟨rfl, hq⟩
      have hon : k₀.admission.recoveryProtection = true := hq.admission ▸ hprot.1
      exact Triple.post settleUnresolvedRecoveries_rule (fun _ _ h => ⟨h, hon⟩)
        (fun _ _ h => ⟨h, hon⟩) _ (gated_of_quietly hq).1
    refine .get fun k₂ => .ensure ?_ fun k _ h => h.1 ▸ h.2
    rintro _ hoff ⟨rfl, hk, hon⟩
    exact ⟨⟨hk, fun h => by simp [h] at hon⟩, fun _ => hoff⟩
  · rintro k ⟨rfl, hq⟩
    refine ⟨gated_of_quietly hq, fun hkind => ?_⟩
    by_contra hp
    exact hskip ⟨by simpa using hp, hkind⟩

theorem checkBusyControl_rule (hP : Steady P) : Triple P (checkBusyControl env request)
    (fun _ => P) fun e k => P k ∧ e.code ≠ errRecoveryRequired := by
  refine .get fun k₁ => .ite (fun _ => ?_) fun _ => .pure fun k h => h.1 ▸ h.2
  refine .bind (.pre ?_ fun k h => h.1 ▸ h.2) fun active =>
    .ensure (fun _ _ h => h) fun _ _ h =>
      ⟨h, (by decide : errOperationInProgress ≠ errRecoveryRequired)⟩
  have load {id : String} : Triple P (mapError (backendError "read active operation record")
      (onDisk (loadOperation env id))) (fun _ => P) fun e k => P k ∧ e.code ≠ errRecoveryRequired :=
    .mapError ((loadOperation_kernel hP).post (fun _ _ h => h.1)
      fun _ _ h => ⟨h.1, backendError_code⟩)
  cases k₁.admission.pendingStop with
  | some => cases k₁.admission.activeOperationId <;> exact .pure fun _ h => h
  | none =>
    cases k₁.admission.activeOperationId with
    | none => exact .pure fun _ h => h
    | some => exact load

variable {identity : RuntimeIdentityView} {e : AdmissionRejection}

theorem checkRequest_code (h : checkRequest identity request = .error e) :
    e.code ≠ errRecoveryRequired := by
  unfold checkRequest at h
  simp only [bind, Except.bind, pure, Except.pure, throw, throwThe, MonadExceptOf.throw] at h
  split at h
  · cases h
    exact (by decide : errValidation ≠ errRecoveryRequired)
  · split_ifs at h <;> cases h <;> dsimp only <;> decide

variable {a : AdmissionState}

theorem checkHolds_code (h : checkHolds a holds request = .error e)
    (hcode : e.code = errRecoveryRequired) : holds.ownerRecoveryHold = true := by
  have busy : errOperationInProgress ≠ errRecoveryRequired := by decide
  unfold checkHolds at h
  by_cases hkind : request.kind = .stop
  · rw [if_pos hkind] at h
    cases h
  rw [if_neg hkind] at h
  split at h
  case h_4 =>
    split_ifs at h with hhold
    exact hhold
  all_goals
    cases h
    exact absurd hcode busy

variable {revision : Nat}

theorem admissionRevisions_code (h : admissionRevisions a request revision = .error e) :
    e.code ≠ errRecoveryRequired := by
  unfold admissionRevisions at h
  split at h
  · cases h
    exact (by decide : errOperationInProgress ≠ errRecoveryRequired)
  · split_ifs at h
    · cases h
      exact (by decide : errRevisionMismatch ≠ errRecoveryRequired)
    · split at h <;> cases h
      exact (by decide : errBackendError ≠ errRecoveryRequired)

theorem checkRequest_supported (h : checkRequest identity request = .ok ()) :
    supported request.kind request.profile = true := by
  unfold checkRequest at h
  cases hv : validateRuntimeOperationRequest request with
  | error => simp [hv] at h; cases h
  | ok =>
    by_contra hsup
    simp [hv, hsup] at h
    cases h

theorem admissionRevisions_ok (h : admissionRevisions a request revision = .ok next) :
    (request.kind = .stop → a.pendingStop = none ∧ checkedSucc revision = some next) ∧
      (request.kind ≠ .stop → next = revision) := by
  unfold admissionRevisions at h
  split at h
  · cases h
  · rename_i hfree
    split_ifs at h with hrev hkind
    · refine ⟨fun _ => ⟨?_, ?_⟩, fun hne => absurd hkind hne⟩
      · cases hstop : a.pendingStop with
        | none => rfl
        | some pending => exact absurd hstop (hfree pending hkind)
      · cases hsucc : checkedSucc revision with
        | none => simp [hsucc] at h
        | some => simpa [hsucc] using h
    · exact ⟨fun hstop => absurd hstop hkind, fun _ => (Except.ok.inj h).symm⟩

/-- The gate asks for a recovery only under the owner's hold or the recovery protection. -/
def Refused (holds : AdmissionHolds) (k₀ : Kernel) (rejection : AdmissionRejection)
    (k : Kernel) : Prop :=
  SettleMoves k₀ k ∧ (rejection.code = errRecoveryRequired →
    holds.ownerRecoveryHold = true ∨ k₀.admission.recoveryProtection = true)

/-- What the gate has established when it lets a request through. -/
theorem admissionGate_rule : Triple (· = k₀) (admissionGate env holds request)
    (fun verdict k => Gated k₀ k ∧ match verdict with
      | .replay _ => k.Readable request.operationId
      | .proceed revision next =>
        ∀ identity, Opens (acceptedRecord env identity request revision) next k)
    (Refused holds k₀) := by
  have refused {rejection : AdmissionRejection} {k : Kernel} (h : Gated k₀ k)
      (hcode : rejection.code ≠ errRecoveryRequired) : Refused holds k₀ rejection k :=
    ⟨h.1, fun heq => absurd heq hcode⟩
  refine .get fun k₁ => ?_
  refine .bind (R := fun _ k => Quietly k₀ k ∧
      supported request.kind request.profile = true) (.fromExcept ?_ ?_) fun _ => ?_
  · rintro _ _ hok ⟨rfl, rfl⟩
    exact ⟨.refl _, checkRequest_supported hok⟩
  · rintro _ _ he ⟨rfl, rfl⟩
    exact refused (gated_of_quietly (.refl _)) (checkRequest_code he)
  let Fresh (k : Kernel) : Prop := (Gated k₀ k ∧
    supported request.kind request.profile = true) ∧ request.operationId ∉ k.disk.store.operations
  refine .bind (R := fun existing k => Quietly k₀ k ∧
      existing = k.record? request.operationId ∧ (existing = none → Fresh k))
    (.mapError ((loadOperation_kernel (steady_quietly.and fun _ _ _ h => h)).post
      (fun _ _ h => ⟨h.1.1, h.2.1, fun hn => ⟨⟨gated_of_quietly h.1.1, h.1.2⟩, h.2.2 hn⟩⟩)
      fun _ _ h => refused (gated_of_quietly h.1.1) backendError_code)) fun existing => ?_
  cases existing with
  | some existing =>
    refine .bind (R := fun _ k => Gated k₀ k ∧ k.Readable request.operationId)
      (.ensure (fun _ _ h => ⟨gated_of_quietly h.1, existing, h.2.1.symm⟩)
        fun _ _ h => refused (gated_of_quietly h.1)
          (by decide : errOperationIdConflict ≠ errRecoveryRequired)) fun _ => ?_
    exact .pure fun _ h => h
  | none =>
    refine .bind (R := fun _ k => Quietly k₀ k ∧ Fresh k)
      (.fromExcept (fun _ _ _ h => ⟨h.1, h.2.2 rfl⟩) fun _ _ he h =>
        ⟨(gated_of_quietly h.1).1, fun hcode => .inl (checkHolds_code he hcode)⟩) fun _ => ?_
    let Ready (k : Kernel) : Prop := Fresh k ∧
      (request.kind ≠ .stop → k.admission.recoveryProtection = false)
    refine .bind (R := fun _ => Ready) ?_ fun _ => ?_
    · rintro k ⟨hq, ⟨-, hsup⟩, hid⟩
      refine settleBeforeAdmission_rule.post ?_ (fun _ _ h => ⟨h.1, fun _ => .inr h.2⟩) k hq
      exact fun _ k' h => ⟨⟨⟨h.1, hsup⟩, h.1.1.fresh (hq.files ▸ hid)⟩, h.2⟩
    have hready : Steady Ready := by
      rintro k d hq ⟨⟨⟨hk, hsup⟩, hid⟩, hoff⟩
      exact ⟨⟨⟨steady_gated k d hq hk, hsup⟩, by rwa [Quietly.files ⟨rfl, hq⟩]⟩, hoff⟩
    refine .bind (R := fun current k => Ready k ∧ k.revision = current.2)
      (.mapError ((loadDesired_kernel hready).post ?_
        fun _ _ h => refused h.1.1.1.1 backendError_code)) fun current => ?_
    · rintro current k ⟨hk, rfl⟩
      exact ⟨hk, rfl⟩
    obtain ⟨desired, revision⟩ := current
    refine .get fun k₂ => ?_
    refine .bind (R := fun next k => (Ready k ∧ k.revision = revision) ∧
        admissionRevisions k.admission request revision = .ok next) (.fromExcept ?_ ?_)
      fun next => ?_
    · rintro next _ hok ⟨rfl, h⟩
      exact ⟨h, hok⟩
    · rintro _ _ he ⟨rfl, h⟩
      exact refused h.1.1.1.1 (admissionRevisions_code he)
    refine .bind ((checkBusyControl_rule ((hready.and steady_revision).and
      (steady_admission (R := fun a => admissionRevisions a request revision = .ok next)))).post
      (fun _ _ h => h) fun _ _ h => refused h.1.1.1.1.1.1 h.2) fun _ => .pure ?_
    rintro k ⟨⟨⟨⟨⟨hk, hsup⟩, hid⟩, hoff⟩, hrev⟩, hnext⟩
    refine ⟨hk, fun identity => ?_⟩
    obtain ⟨hstop, hstart⟩ := admissionRevisions_ok hnext
    exact ⟨hid, rfl, hrev.symm, rfl, rfl, hsup, fun hs => hrev ▸ (hstop hs).2,
      fun hs => hrev ▸ hstart hs, hoff, fun hs => (hstop hs).1⟩

/-- A request answered as accepted: it passed the gate in `k₁` and was admitted there. -/
def Accepts (env : KernelEnv) (request : RuntimeOperationRequest)
    (view : RuntimeOperationView) (k k' : Kernel) : Prop :=
  ∃ k₁ k₂ next, SettleMoves k k₁ ∧
    Admits (acceptedRecord env k₁.identity request k₁.revision) next k₁ k₂ ∧ AnnounceMoves k₂ k' ∧
    view = (acceptedRecord env k₁.identity request k₁.revision).view

/-- A request that is not accepted: refused by the gate, or broken off behind it. -/
inductive Refuses (env : KernelEnv) (request : RuntimeOperationRequest) (k k' : Kernel) : Prop
  | gate (moves : SettleMoves k k')
  | fails {k₁ : Kernel} {next : Nat} (moves : SettleMoves k k₁)
      (opens : Opens (acceptedRecord env k₁.identity request k₁.revision) next k₁)
      (fails : Fails (acceptedRecord env k₁.identity request k₁.revision) next k₁ k')

theorem admit_rule : Triple (· = k₀) (admitWithAuxiliaryHold env holds request)
    (fun answer k => match answer with
      | .replayed _ => SettleMoves k₀ k ∧ k.Readable request.operationId
      | .accepted view => Accepts env request view k₀ k)
    fun e k => Refuses env request k₀ k ∧
      (e.code = errRecoveryRequired → holds.ownerRecoveryHold = true ∨
        k₀.admission.recoveryProtection = true ∨ k₀.Broken) := by
  refine .bind (admissionGate_rule.fails fun _ k h => ⟨.gate h.1,
    fun hcode => (h.2 hcode).imp_right .inl⟩) fun verdict => ?_
  cases verdict with
  | replay => exact .pure fun _ h => ⟨h.1.1, h.2⟩
  | proceed revision next =>
    refine .get fun k₁ => ?_
    rintro k ⟨rfl, ⟨hk, hquiet⟩, hall⟩
    have hopens := hall k.identity
    obtain rfl : revision = k.revision := hopens.revision
    refine (persistAdmission_rule hopens).post ?_ ?_ k rfl
    · rintro answer k' ⟨rfl, k₂, ha, hm⟩
      exact ⟨k, k₂, next, hk, ha, hm, rfl⟩
    · refine fun _ k' h => ⟨.fails hk hopens h.1, fun hcode => .inr ?_⟩
      by_cases hoff : k₀.admission.recoveryProtection = false
      · exact .inr ((hquiet hoff).broken (h.2 hcode))
      · exact .inl (by simpa using hoff)

end Gate

end Rcoder.Runtime
