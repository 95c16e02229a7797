import Rcoder.Lib.Transaction
import Rcoder.Runtime.Cancellation
import Rcoder.Runtime.Dispatch

/-!
# Rejected admissions

An admission that breaks off gives back the slots it has changed, with one exception: a newer Source
request is queued before the older one is cancelled, and stays in the queue if that fails.
-/

namespace Rcoder.Runtime

open Effect Kernel Machine Sample

variable {env : KernelEnv} {id : String} {k k₀ k₁ k' : Kernel} {next : Nat}
  {stored : StoredOperation} {request : RuntimeOperationRequest} {holds : AdmissionHolds}

theorem SettleMoves.slots (h : SettleMoves k k') : k'.admission.slots = k.admission.slots := by
  induction h with
  | refl => rfl
  | tail _ hstep ih => cases hstep <;> exact ih

section Cancel

variable {d : Disk} {context : List String} {α ε : Type} {m : StoreM α}

theorem access_passes (h : d.script.headD .none = .none) :
    access context d = .ok () { d with script := d.script.tail } := by
  obtain ⟨store, _ | ⟨f, rest⟩⟩ := d
  · rfl
  · cases (show f = .none from h)
    rfl

theorem access_fails (h : d.script.headD .none ≠ .none) :
    ∃ e d', access context d = .error e d' := by
  obtain ⟨store, _ | ⟨f, rest⟩⟩ := d
  · exact absurd rfl h
  · cases f with
    | none => exact absurd rfl h
    | fail | published => exact ⟨_, _, rfl⟩

theorem attempt_ok {a : α} (h : m k.disk = .ok a d) :
    (attempt (onDisk m) : EStateM ε Kernel _) k = .ok (.ok a) { k with disk := d } := by
  simp only [attempt, onDisk, zoom, h]

theorem attempt_error {e : Anyhow} (h : m k.disk = .error e d) :
    (attempt (onDisk m) : EStateM ε Kernel _) k = .ok (.error e) { k with disk := d } := by
  simp only [attempt, onDisk, zoom, h]

theorem loadOperation_eq (h : d.script.headD .none = .none) :
    loadOperation env id d = match d.store.operations.lookup id with
      | none => .ok none { d with script := d.script.tail }
      | some (.error cause) => .error ⟨[cause]⟩ { d with script := d.script.tail }
      | some (.ok op) => .ok (some op.1) { d with script := d.script.tail } := by
  refine (bind_of_ok (access_passes h)).trans ((bind_of_ok get_run).trans ?_)
  dsimp only
  rcases d.store.operations.lookup id with _ | _ | _ <;> rfl

theorem holdAdmission_error {reason : String} :
    ∃ e k', holdAdmission (α := α) env stored reason k = .error e k' := by
  have h : Triple (fun k₁ => Disturbs stored 0 k k₁ ∧ k₁.admission.slots = k.admission.slots)
      (holdAdmission (α := α) env stored reason) (fun _ _ => False) _ := holdAdmission_rule
  cases hm : holdAdmission (α := α) env stored reason k with
  | ok => exact (h.ok ⟨.refl, rfl⟩ hm).elim
  | error e k' => exact ⟨e, k', rfl⟩

/-- The record of `id` can be read and, where it is a Source, its receipt be written: the next
access does not fail, nor does then the one behind it. -/
def Disk.letsCancel (d : Disk) (id : String) : Bool :=
  d.script.headD .none = .none && match d.store.operations.lookup id with
    | none => true
    | some (.error _) => false
    | some (.ok op) => !op.1.isSource || d.script.tail.headD .none = .none

theorem cancelActiveSource_eq (env : KernelEnv) (stored : StoredOperation) (id : String)
    (k : Kernel) : if k.disk.letsCancel id then
      ∃ k', cancelActiveSource env stored id k = .ok () k'
    else ∃ e k', cancelActiveSource env stored id k = .error e k' := by
  unfold Disk.letsCancel
  by_cases hread : k.disk.script.headD .none = .none
  swap
  · obtain ⟨e, d, hd⟩ : ∃ e d, access ["read state " ++ operationPath env id] k.disk = .error e d :=
      access_fails hread
    have hload : loadOperation env id k.disk = .error e d := bind_of_error hd
    rw [decide_eq_false hread, Bool.false_and, if_neg Bool.false_ne_true, cancelActiveSource,
      bind_of_ok (attempt_error hload)]
    exact holdAdmission_error
  have hload : loadOperation env id k.disk = _ := loadOperation_eq hread
  rw [decide_eq_true hread, Bool.true_and]
  split at hload
  · rw [if_pos rfl]
    exact ⟨_, bind_of_ok (attempt_ok hload)⟩
  · rw [if_neg Bool.false_ne_true, cancelActiveSource, bind_of_ok (attempt_error hload)]
    exact holdAdmission_error
  · next op _ =>
    rw [cancelActiveSource, bind_of_ok (attempt_ok hload)]
    by_cases hsource : op.1.isSource = true
    swap
    · simp only [hsource]
      exact ⟨_, rfl⟩
    simp only [hsource, if_true, Bool.not_true, Bool.false_or]
    by_cases hwrite : k.disk.script.tail.headD .none = .none
    · have hstore : storeCancellation op.1 { k.disk with script := k.disk.script.tail } =
        .ok () _ := bind_of_ok (access_passes hwrite)
      rw [if_pos (decide_eq_true hwrite)]
      exact ⟨_, bind_of_ok (attempt_ok (k := { k with disk := _ }) hstore)⟩
    · obtain ⟨e, d, hd⟩ : ∃ e d, access [] { k.disk with script := k.disk.script.tail } =
        .error e d := access_fails hwrite
      have hstore : storeCancellation op.1 { k.disk with script := k.disk.script.tail } =
        .error e d := bind_of_error hd
      rw [if_neg (by simpa using hwrite),
        bind_of_ok (attempt_error (k := { k with disk := _ }) hstore)]
      exact holdAdmission_error

end Cancel

section Turn

variable {e : AdmissionRejection}

/-- A newer Source request, up to where it turns to the active operation, which it returns: the
request is written, and waits. -/
def turnToActive (env : KernelEnv) (holds : AdmissionHolds) (request : RuntimeOperationRequest) :
    AdmitM (Option String) := do
  match ← admissionGate env holds request with
  | .replay _ => pure none
  | .proceed revision nextRevision => do
    let k ← get
    openAdmission env (acceptedRecord env k.identity request revision) nextRevision
    let k₁ ← get
    if isLatestSource request ∧ k₁.admission.activeOperationId.isSome then do
      enqueue env (acceptedRecord env k.identity request revision)
      pure k₁.admission.activeOperationId
    else pure none

/-- Where the request turns to an active operation, that can be cancelled. -/
def RuntimeOperationRequest.FitsQueue (env : KernelEnv) (holds : AdmissionHolds)
    (request : RuntimeOperationRequest) (k : Kernel) : Bool :=
  match turnToActive env holds request k with
  | .ok (some id) k₁ => k₁.disk.letsCancel id
  | _ => true

theorem occupyQueue_error (hq : Quietly (k₀.opened stored next) k)
    (h : occupyQueue env stored k = .error e k') :
    k'.admission.slots = k₀.admission.slots ∨ isLatestSource stored.request = true ∧
      ∃ id k₁, k.admission.activeOperationId = some id ∧ enqueue env stored k = .ok () k₁ ∧
        k₁.disk.letsCancel id = false := by
  rcases error_of_bind h with h | ⟨_, k₁, hqueued, h⟩
  · exact .inl (enqueue_rule.error hq h).2.2
  rw [bind_of_ok get_run] at h
  cases hlatest : isLatestSource stored.request with
  | false =>
    rw [hlatest] at h
    cases h
  | true =>
    cases hactive : k₁.admission.activeOperationId with
    | none =>
      rw [hlatest, hactive] at h
      cases h
    | some id =>
      rw [hlatest, hactive] at h
      obtain ⟨kc, hc, hq₁⟩ := enqueue_rule.ok hq hqueued
      have hslot := (hc.active_enqueued hq₁).symm.trans hactive
      refine .inr ⟨rfl, id, k₁, ?_, hqueued, Bool.eq_false_iff.mpr fun hlets => ?_⟩
      · rw [hq.admission]
        exact hslot
      · have hrun := cancelActiveSource_eq env stored id k₁
        rw [if_pos hlets] at hrun
        obtain ⟨k₂, hk₂⟩ := hrun
        cases h.symm.trans hk₂

/-- Nothing fails behind the occupied slot. -/
theorem persistAdmission_error (h : persistAdmission env stored next k = .error e k') :
    openAdmission env stored next k = .error e k' ∨
      ∃ k₁, openAdmission env stored next k = .ok () k₁ ∧
        occupySlot env stored k₁ = .error e k' := by
  rcases error_of_bind h with h | ⟨_, k₁, hopened, h⟩
  · exact .inl h
  rcases error_of_bind h with h | ⟨queued, k₂, -, h⟩
  · exact .inr ⟨k₁, hopened, h⟩
  rcases error_of_bind h with h | ⟨_, k₃, -, h⟩
  · cases h
  rcases error_of_bind h with h | ⟨_, k₄, -, h⟩
  · have hemit : Triple (fun _ => True) (emit env stored.view.operationId "accepted" none
        (some stored.view.kind.asStr)) _ fun (_ : AdmissionRejection) _ => False :=
      emit_rule (fun _ _ _ _ => trivial) _ _ _
    exact (hemit.error trivial h).elim
  · cases queued <;> cases h

theorem rejected_slots (hfits : request.FitsQueue env holds k = true)
    (h : admitWithAuxiliaryHold env holds request k = .error e k') :
    k'.admission.slots = k.admission.slots := by
  rcases error_of_bind h with h | ⟨verdict, kg, hgate, h⟩
  · exact (admissionGate_rule.error rfl h).1.slots
  obtain ⟨⟨hmoves, -⟩, hopens⟩ := admissionGate_rule.ok rfl hgate
  cases verdict with
  | replay => cases h
  | proceed revision next =>
  change persistAdmission env (acceptedRecord env kg.identity request revision) next kg = _ at h
  rw [← hmoves.slots]
  replace hopens := hopens kg.identity
  rcases persistAdmission_error h with h | ⟨ko, hopened, h⟩
  · exact (openAdmission_rule.error rfl h).2.1
  have hq := openAdmission_rule.ok rfl hopened
  rw [occupySlot, bind_of_ok get_run] at h
  split_ifs at h with hkind hbusy
  · rcases error_of_bind h with h | ⟨_, _, -, h⟩
    · exact ((occupyStop_rule hopens hkind).error hq h).2.2
    · cases h
  · rcases error_of_bind h with h | ⟨_, _, -, h⟩
    · rcases occupyQueue_error hq h with h | ⟨hlatest, id, k₁, hactive, hqueued, hlets⟩
      · exact h
      have hturn : turnToActive env holds request k = .ok (some id) k₁ := by
        refine (bind_of_ok hgate).trans ((bind_of_ok get_run).trans ((bind_of_ok hopened).trans
          ((bind_of_ok get_run).trans ?_)))
        rw [if_pos ⟨hlatest, by rw [hactive]; rfl⟩, bind_of_ok hqueued, hactive]
        rfl
      have hcancelled : k₁.disk.letsCancel id = true := by
        simpa only [RuntimeOperationRequest.FitsQueue, hturn] using hfits
      cases hcancelled.symm.trans hlets
    · cases h
  · rcases error_of_bind h with h | ⟨_, _, -, h⟩
    · have hidle : kg.admission.activeOperationId = none ∧ kg.admission.pendingStop = none := by
        rw [show kg.admission = ko.admission from hq.admission.symm]
        simpa using hbusy
      exact ((occupyActive_rule hopens hkind hidle).error hq h).2.2
    · cases h

end Turn

def Answer.rejects : Answer → Bool
  | .admission (.error _) => true
  | _ => false

def Answer.accepted? : Answer → Option String
  | .admission (.ok (.accepted view)) => some view.operationId
  | _ => none

/-- The rejection of an admission. -/
theorem admission_rejected {k : Kernel}
    (h : ((Op.admitWithAuxiliaryHold holds request).run env k).1.rejects = true) :
    ∃ e, admitWithAuxiliaryHold env holds request k =
      .error e ((Op.admitWithAuxiliaryHold holds request).run env k).2 := by
  change (answerAdmission _).1.rejects = true at h
  change ∃ e, _ = EStateM.Result.error e (answerAdmission _).2
  cases hm : admitWithAuxiliaryHold env holds request k with
  | ok =>
    rw [hm] at h
    cases h
  | error e => exact ⟨e, rfl⟩

/-- `id` does not wait, and has not been executed since `before`. -/
def Kernel.KeepsOut (id : String) (before : List String) (k : Kernel) : Prop :=
  k.admission.pendingRestart ≠ some id ∧ k.executed.count id = before.count id

section KeepsOut

variable {before : List String} {W : Settles}

theorem Kernel.KeepsOut.moves (h : k.KeepsOut id before) (hm : Moves W k k') :
    k'.KeepsOut id before := by
  induction hm with
  | refl => exact h
  | tail _ hstep ih =>
    rcases hstep.dispatches with ⟨hexec, -, hqueue⟩ | ⟨q, input, r, hslot, -, -, -, hid, rfl⟩
    · exact ⟨fun hq => ih.1 (hqueue id hq).1, hexec ▸ ih.2⟩
    · refine ⟨fun hq => (by cases hq), ?_⟩
      have hne : q ≠ id := fun hq => ih.1 (hq ▸ hslot)
      rw [promoted_executed hid, List.count_append, ih.2]
      simp [hne]

theorem Kernel.KeepsOut.admits (h : k.KeepsOut id before) (ha : Admits stored next k k')
    (hne : stored.view.operationId ≠ id) : k'.KeepsOut id before := by
  rcases ha.dispatches with ⟨hexec, -, hqueue⟩ | ⟨hexec, -, -, hqueue, -⟩
  · refine ⟨by simp [hqueue], ?_⟩
    rw [hexec, List.count_append, h.2]
    simp [hne]
  · exact ⟨by simpa [hqueue], hexec ▸ h.2⟩

theorem Disturbs.dispatched (hd : Disturbs stored next k k') : k'.dispatched = k.dispatched := by
  induction hd with
  | refl => rfl
  | tail _ hstep ih => cases hstep <;> exact ih

theorem Disturbs.queue (hd : Disturbs stored next k k') :
    k'.admission.pendingRestart = k.admission.pendingRestart ∨ k'.admission.pendingRestart = none ∨
      k'.admission.pendingRestart = some stored.view.operationId := by
  induction hd with
  | refl => exact .inl rfl
  | tail _ hstep ih =>
    cases hstep with
    | slots _ _ _ _ queue =>
      rcases queue with hq | hq | hq | hq <;> simp [hq, ih]
    | _ => exact ih

theorem Kernel.KeepsOut.fails (h : k.KeepsOut id before) (hf : Fails stored next k k')
    (hout : stored.view.operationId = id → k'.admission.pendingRestart ≠ some id) :
    k'.KeepsOut id before := by
  have quietly {k₁ : Kernel} (hq : Quietly k₁ k') (hk₁ : k₁.KeepsOut id before) :
      k'.KeepsOut id before := hk₁.moves (W := .nothing) (moves_quietly .refl hq)
  cases hf with
  | unwritten quiet => exact quietly quiet h
  | torn _ record => exact quietly record h
  | held _ left =>
    refine ⟨fun hq => ?_, ?_⟩
    · rcases left.queue with hslot | hslot | hslot
      · exact h.1 (hslot ▸ hq)
      · simp [hslot] at hq
      · exact hout (Option.some.inj (hslot.symm.trans hq)) hq
    · rw [executed, left.dispatched]
      exact h.2

/-- Another admission of `id` is neither accepted nor queued by a failure. -/
theorem Kernel.KeepsOut.exec {step : Step} (h : k.KeepsOut id before)
    (hfits : ∀ holds request, step.op = .admitWithAuxiliaryHold holds request →
      request.operationId = id →
        request.FitsQueue env holds (k.withFaults step.faults) = true)
    (hanswer : ((kernelMachine env).exec k step).1.accepted? ≠ some id) :
    ((kernelMachine env).exec k step).2.KeepsOut id before := by
  have hk : (k.withFaults step.faults).KeepsOut id before := h
  have hact : Acts env step.op (k.withFaults step.faults) _ _ := step.op.run_acts
  change (step.op.run env (k.withFaults step.faults)).1.accepted? ≠ _ at hanswer
  change (step.op.run env (k.withFaults step.faults)).2.KeepsOut id before
  generalize hrun : step.op.run env (k.withFaults step.faults) = out at hact hanswer ⊢
  obtain ⟨answer, k'⟩ := out
  cases hact with
  | moves moves => exact hk.moves moves
  | replays _ moves => exact hk.moves moves.moves
  | accepts call accepts =>
    obtain ⟨k₁, k₂, next, hgate, ha, hafter, rfl⟩ := accepts
    have hk₂ := (hk.moves hgate.moves).admits ha fun hid => hanswer (congrArg some hid)
    exact hk₂.moves (W := .nothing) hafter.moves
  | @refuses holds request rejection _ call refuses =>
    have hout : request.operationId = id → k'.admission.pendingRestart ≠ some id := by
      intro hid
      have hrejected : (step.op.run env (k.withFaults step.faults)).1.rejects = true := by
        rw [hrun]
        rfl
      rw [call] at hrejected hrun
      obtain ⟨e, hm⟩ := admission_rejected hrejected
      have hslots := rejected_slots (hfits holds request call hid) hm
      rw [hrun] at hslots
      have hqueue : k'.admission.pendingRestart = k.admission.pendingRestart :=
        congrArg (fun slots => slots.2.2.1) hslots
      exact hqueue ▸ h.1
    cases refuses with
    | gate moves => exact hk.moves moves.moves
    | fails moves _ fails => exact (hk.moves moves.moves).fails fails hout

end KeepsOut

namespace Sample

def building : Kernel := (kernelMachine owner).after recovered [calm (source "a" .start 0)]

/-- The disk is full from the given access on, once. -/
def full (op : Op) (accesses : Nat) : Step :=
  ⟨op, List.replicate accesses .none ++ [.fail ["full"]]⟩

/-- The intent of the newer build cannot be written. -/
def refused : Kernel := ((kernelMachine owner).exec building (full (source "b" .start 0) 4)).2

end Sample

end Rcoder.Runtime
