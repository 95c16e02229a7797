import Rcoder.Runtime.Admission

/-!
# Rules for the store accesses

Each access to the store gets one rule. An assertion is *steady* when it survives drawing
outcomes from the script and writing events; every invariant of the kernel is. The failure
postconditions record that the disk was *torn*: the assertion held with an outcome left to
draw. An assertion that excludes this has no failing access to consider.
-/

namespace Rcoder.Runtime

open Effect

/-- `d'` is `d` up to drawn outcomes, written events and the list of files set aside. -/
def Quiet (d d' : Disk) : Prop :=
  d'.store = { d.store with events := d'.store.events, quarantined := d'.store.quarantined } ∧
    d'.script <:+ d.script

theorem Quiet.refl (d : Disk) : Quiet d d := ⟨rfl, List.suffix_rfl⟩

theorem Quiet.trans {d d' d'' : Disk} (h : Quiet d d') (h' : Quiet d' d'') : Quiet d d'' := by
  refine ⟨?_, h'.2.trans h.2⟩
  rw [h'.1, h.1]

namespace Disk

def Steady (D : Disk → Prop) : Prop := ∀ d d', Quiet d d' → D d → D d'

/-- `d` came from a disk with `D` and an outcome left to draw. -/
def Torn (D : Disk → Prop) (d : Disk) : Prop := ∃ d', D d' ∧ d'.script ≠ [] ∧ Quiet d' d

def publish (d : Disk) (op : StoredOperation) : Disk := { d with store := d.store.publish op }

def setDesired (d : Disk) (desired : DesiredState) (revision : Nat) : Disk :=
  { d with store := { d.store with desired := .record desired revision } }

def recordCancellation (d : Disk) (op : StoredOperation) : Disk :=
  { d with store := { d.store with
    cancellations := d.store.cancellations.insert op.view.operationId
      (.ok ⟨op.view.operationId, op.view.requestDigest⟩) } }

end Disk

namespace RuntimeStore

variable {s : RuntimeStore} {op r : StoredOperation} {id : String}

theorem record?_eq_some :
    s.record? id = some r ↔ ∃ f, s.operations.lookup id = some (.ok f) ∧ f.1 = r := by
  unfold record?
  split <;> simp_all

theorem record?_id (h : s.record? id = some r) : r.view.operationId = id := by
  obtain ⟨f, -, rfl⟩ := record?_eq_some.mp h
  exact f.2

theorem record?_mem (h : s.record? id = some r) : id ∈ s.operations := by
  obtain ⟨f, hf, -⟩ := record?_eq_some.mp h
  rw [← AList.lookup_isSome, hf]
  rfl

@[simp]
theorem record?_publish_self : (s.publish op).record? op.view.operationId = some op := by
  simp [record?, publish]

theorem record?_publish_ne (h : id ≠ op.view.operationId) :
    (s.publish op).record? id = s.record? id := by
  simp only [record?, publish, AList.lookup_insert_ne h]

end RuntimeStore

section DiskRules

variable {D : Disk → Prop} {context : List String} {id : String} {op : StoredOperation}
  {env : KernelEnv}

variable (hD : Disk.Steady D)
include hD

theorem nextFault_rule : Triple D nextFault
    (fun f d => D d ∧ (f ≠ .none → Disk.Torn D d)) fun _ _ => False := by
  intro d hd
  cases hs : d.script with
  | nil => simpa [nextFault, hs] using hd
  | cons f rest =>
    have hq : Quiet d { d with script := rest } := ⟨rfl, by simp [hs]⟩
    simp only [nextFault, hs]
    exact ⟨hD _ _ hq hd, fun _ => ⟨d, hd, by simp [hs], hq⟩⟩

theorem access_rule : Triple D (access context) (fun _ => D) fun _ d => D d ∧ Disk.Torn D d := by
  refine .bind ((nextFault_rule hD).fails fun _ _ h => h.elim) ?_
  intro f
  cases f with
  | none => exact .pure fun _ h => h.1
  | fail | published => exact .throw fun _ h => ⟨h.1, h.2 (by simp)⟩

/-- A readable record is read as it is; a missing file is `none`; the rest fails. -/
theorem loadOperation_rule : Triple D (loadOperation env id)
    (fun o d => D d ∧ o = d.store.record? id ∧ (o = none → id ∉ d.store.operations))
    fun _ d => D d ∧ (Disk.Torn D d ∨ d.store.record? id = none) := by
  refine .bind ((access_rule hD).fails fun _ _ h => ⟨h.1, .inl h.2⟩) ?_
  intro _
  refine .get fun d => ?_
  cases hl : d.store.operations.lookup id with
  | none =>
    refine .pure fun d' h => ?_
    obtain ⟨rfl, hd⟩ := h
    exact ⟨hd, by simp [RuntimeStore.record?, hl], fun _ => AList.lookup_eq_none.mp hl⟩
  | some file =>
    cases file with
    | error =>
      refine .throw fun d' h => ?_
      obtain ⟨rfl, hd⟩ := h
      exact ⟨hd, .inr (by simp [RuntimeStore.record?, hl])⟩
    | ok =>
      refine .pure fun d' h => ?_
      obtain ⟨rfl, hd⟩ := h
      exact ⟨hd, by simp [RuntimeStore.record?, hl], by simp⟩

/-- A write that fails may have been published all the same. -/
theorem storeOperation_rule : Triple D (storeOperation op)
    (fun _ d => ∃ d', D d' ∧ d = d'.publish op)
    fun _ d => (D d ∧ Disk.Torn D d) ∨
      ∃ d', D d' ∧ d'.script ≠ [] ∧ Quiet (d'.publish op) d := by
  refine .bind ((nextFault_rule hD).fails fun _ _ h => h.elim) ?_
  intro f
  cases f with
  | none => exact .modify fun d h => ⟨d, h.1, rfl⟩
  | fail => exact .throw fun d h => .inl ⟨h.1, h.2 (by simp)⟩
  | published =>
    refine .bind (.modify fun d h => ?_) fun _ => .throw fun d h => .inr h
    obtain ⟨d', hd', hs, hq⟩ := h.2 (by simp)
    refine ⟨d', hd', hs, ?_, hq.2⟩
    simp only [Disk.publish, RuntimeStore.publish]
    rw [hq.1]

theorem loadDesired_rule : Triple D (loadDesired env)
    (fun x d => D d ∧ x = d.store.currentDesired) fun _ d => D d ∧ Disk.Torn D d := by
  refine .bind (access_rule hD) fun _ => .get fun d => .pure fun d' h => ?_
  obtain ⟨rfl, hd⟩ := h
  exact ⟨hd, rfl⟩

/-- The desired state is replaced, or the disk is as before: torn, or holding a file that
is not a JSON object. -/
theorem storeDesired_rule (desired : DesiredState) (revision : Nat) :
    Triple D (storeDesired env desired revision)
    (fun _ d => ∃ d', D d' ∧ d = d'.setDesired desired revision)
    fun _ d => D d ∧ (Disk.Torn D d ∨ d.store.desired = .notObject ∨
      ∃ cause, d.store.desired = .undecodable cause) := by
  refine .bind ((access_rule hD).fails fun _ _ h => ⟨h.1, .inl h.2⟩) ?_
  intro _
  refine .get fun d => ?_
  have write : Triple (fun d' => d' = d ∧ D d) (do
      access []
      modify fun d => { d with store := { d.store with desired := .record desired revision } })
      (fun _ d => ∃ d', D d' ∧ d = d'.setDesired desired revision)
      fun _ d => D d ∧ (Disk.Torn D d ∨ d.store.desired = .notObject ∨
        ∃ cause, d.store.desired = .undecodable cause) := by
    refine .bind (((access_rule hD).pre ?_).fails
      fun _ _ h => ⟨h.1, .inl h.2⟩) fun _ => .modify fun d' h => ⟨d', h, rfl⟩
    rintro _ ⟨rfl, hd⟩
    exact hd
  cases hf : d.store.desired with
  | undecodable cause =>
    refine .throw fun d' h => ?_
    obtain ⟨rfl, hd⟩ := h
    exact ⟨hd, .inr (.inr ⟨cause, hf⟩)⟩
  | notObject =>
    refine .throw fun d' h => ?_
    obtain ⟨rfl, hd⟩ := h
    exact ⟨hd, .inr (.inl hf)⟩
  | absent | incomplete | record => exact write

theorem storeCancellation_rule : Triple D (storeCancellation op)
    (fun _ d => ∃ d', D d' ∧ d = d'.recordCancellation op) fun _ d => D d ∧ Disk.Torn D d :=
  .bind (access_rule hD) fun _ => .modify fun d h => ⟨d, h, rfl⟩

theorem cancellationRecorded_keeps : Keeps D (cancellationRecorded env op) := by
  refine Triple.bind ((access_rule hD).fails fun _ _ h => h.1) fun _ => ?_
  refine Triple.get fun d => ?_
  cases d.store.cancellations.lookup op.view.operationId with
  | none => exact Triple.pure fun d' h => h.1 ▸ h.2
  | some receipt =>
    cases receipt with
    | error => exact Triple.throw fun d' h => h.1 ▸ h.2
    | ok =>
      refine Triple.bind (Triple.ensure ?_ ?_) fun _ => .pure fun _ h => h
      · exact fun d' _ h => h.1 ▸ h.2
      · exact fun d' _ h => h.1 ▸ h.2

theorem replayEvents_keeps (afterSeq : Nat) : Keeps D (replayEvents env id afterSeq) := by
  refine Triple.bind (R := fun _ => D)
    (Triple.attempt ((access_rule hD).fails fun _ _ h => h.1)) fun stat => ?_
  cases stat with
  | error => exact .pure fun _ h => h
  | ok =>
    refine .get fun d => ?_
    cases d.store.events.lookup id with
    | none => exact .pure fun d' h => h.1 ▸ h.2
    | some =>
      refine .bind (((access_rule hD).pre ?_).fails fun _ _ h => h.1)
        fun _ => .pure fun _ h => h
      exact fun d' h => h.1 ▸ h.2

theorem appendEvent_keeps (event : RuntimeEventRecord) : Keeps D (appendEvent env event) :=
  .bind ((access_rule hD).fails fun _ _ h => h.1) fun _ =>
    .modify fun d h => hD d _ ⟨rfl, List.suffix_rfl⟩ h

end DiskRules

namespace Kernel

def Steady (P : Kernel → Prop) : Prop :=
  ∀ k d, Quiet k.disk d → P k → P { k with disk := d }

/-- No fault is scheduled. -/
def Calm (k : Kernel) : Prop := k.disk.script = []

variable {P : Kernel → Prop}

theorem Steady.disk (hP : Steady P) (k : Kernel) : Disk.Steady fun d => P { k with disk := d } :=
  fun d d' hq h => hP { k with disk := d } d' hq h

theorem Steady.and {P P' : Kernel → Prop} (h : Steady P) (h' : Steady P') :
    Steady fun k => P k ∧ P' k :=
  fun k d hq hk => ⟨h k d hq hk.1, h' k d hq hk.2⟩

theorem steady_calm : Steady Calm := by
  intro k d hq hk
  exact List.suffix_nil.mp (hk ▸ hq.2)

def publish (k : Kernel) (op : StoredOperation) : Kernel := { k with disk := k.disk.publish op }

def setDesired (k : Kernel) (desired : DesiredState) (revision : Nat) : Kernel :=
  { k with disk := k.disk.setDesired desired revision }

def recordCancellation (k : Kernel) (op : StoredOperation) : Kernel :=
  { k with disk := k.disk.recordCancellation op }

end Kernel

/-- `k'` is `k` up to drawn outcomes and written events. -/
def Quietly (k k' : Kernel) : Prop := k' = { k with disk := k'.disk } ∧ Quiet k.disk k'.disk

/-- `k` came from a kernel with `P` and an outcome left to draw. -/
def Kernel.Torn (P : Kernel → Prop) (k : Kernel) : Prop :=
  ∃ k', P k' ∧ k'.disk.script ≠ [] ∧ Quietly k' k

theorem Kernel.torn_of_disk {k : Kernel} {d : Disk}
    (h : Disk.Torn (fun d => P { k with disk := d }) d) : Torn P { k with disk := d } :=
  let ⟨d', hd, hs, hq⟩ := h
  ⟨{ k with disk := d' }, hd, hs, rfl, hq⟩

theorem Kernel.not_torn {k : Kernel} (h : ∀ k, P k → k.Calm) : ¬Torn P k :=
  fun ⟨k', hk, hs, _⟩ => hs (h k' hk)

section KernelRules

open Kernel

variable {ε α : Type} {P : Kernel → Prop} {context : List String} {id : String}
  {op : StoredOperation} {env : KernelEnv} {E : ε → Kernel → Prop}

theorem onDisk_rule {m : EStateM ε Disk α} {Q : α → Kernel → Prop}
    (h : ∀ k : Kernel, Triple (fun d => P { k with disk := d }) m
      (fun a d => Q a { k with disk := d })
      fun e d => E e { k with disk := d }) : Triple P (onDisk m) Q E :=
  .zoom fun k hk => (h k).pre fun _ hd => hd ▸ hk

variable (hP : Steady P)
include hP

theorem access_kernel : Triple P (onDisk (access context)) (fun _ => P) fun _ k => P k ∧ Torn P k :=
  onDisk_rule fun k => (access_rule (hP.disk k)).fails fun _ _ h => ⟨h.1, torn_of_disk h.2⟩

theorem loadOperation_kernel : Triple P (onDisk (loadOperation env id))
    (fun o k => P k ∧ o = k.record? id ∧ (o = none → id ∉ k.disk.store.operations))
    fun _ k => P k ∧ (Torn P k ∨ k.record? id = none) :=
  onDisk_rule fun k => (loadOperation_rule (hP.disk k)).fails
    fun _ _ h => ⟨h.1, h.2.imp torn_of_disk fun h => h⟩

theorem storeOperation_kernel : Triple P (onDisk (storeOperation op))
    (fun _ k => ∃ k', P k' ∧ k = k'.publish op)
    fun _ k => (P k ∧ Torn P k) ∨
      ∃ k', P k' ∧ k'.disk.script ≠ [] ∧ Quietly (k'.publish op) k := by
  refine onDisk_rule fun k => (storeOperation_rule (hP.disk k)).post ?_ ?_
  · rintro _ d ⟨d', hd, rfl⟩
    exact ⟨{ k with disk := d' }, hd, rfl⟩
  · rintro e d (h | ⟨d', hd, hs, hq⟩)
    · exact .inl ⟨h.1, torn_of_disk h.2⟩
    · exact .inr ⟨{ k with disk := d' }, hd, hs, rfl, hq⟩

theorem loadDesired_kernel : Triple P (onDisk (loadDesired env))
    (fun x k => P k ∧ x = k.disk.store.currentDesired) fun _ k => P k ∧ Torn P k :=
  onDisk_rule fun k => (loadDesired_rule (hP.disk k)).fails fun _ _ h => ⟨h.1, torn_of_disk h.2⟩

theorem storeDesired_kernel (desired : DesiredState) (revision : Nat) :
    Triple P (onDisk (storeDesired env desired revision))
    (fun _ k => ∃ k', P k' ∧ k = k'.setDesired desired revision)
    fun _ k => P k ∧ (Torn P k ∨ k.disk.store.desired = .notObject ∨
      ∃ cause, k.disk.store.desired = .undecodable cause) :=
  onDisk_rule fun k => (storeDesired_rule (hP.disk k) desired revision).post
    (fun _ _ ⟨d', hd, h⟩ => ⟨{ k with disk := d' }, hd, h ▸ rfl⟩)
    fun _ _ h => ⟨h.1, h.2.imp torn_of_disk fun h => h⟩

theorem storeCancellation_kernel : Triple P (onDisk (storeCancellation op))
    (fun _ k => ∃ k', P k' ∧ k = k'.recordCancellation op) fun _ k => P k ∧ Torn P k :=
  onDisk_rule fun k => (storeCancellation_rule (hP.disk k)).post
    (fun _ _ ⟨d', hd, h⟩ => ⟨{ k with disk := d' }, hd, h ▸ rfl⟩)
    fun _ _ h => ⟨h.1, torn_of_disk h.2⟩

theorem cancellationRecorded_kernel : Keeps P (onDisk (cancellationRecorded env op)) :=
  onDisk_rule fun k => cancellationRecorded_keeps (hP.disk k)

/-- Publishing an event changes nothing but the journal, and never fails. -/
theorem emitWithPayload_rule (stage : String) (service eventName : Option String)
    (payload : Option Json) :
    Triple P (emitWithPayload env id stage service eventName payload) (fun _ => P) E := by
  refine .bind (R := fun _ => P) (.attempt (onDisk_rule fun k =>
    replayEvents_keeps (hP.disk k) 0)) fun history => ?_
  cases history with
  | error => exact .pure fun _ h => h
  | ok history =>
    refine .ite (fun _ => .pure fun _ h => h) fun _ => ?_
    cases nextSequence history with
    | none => exact .pure fun _ h => h
    | some =>
      refine .get fun k0 => .bind (R := fun _ => P) ?_ fun written => ?_
      · refine .attempt (onDisk_rule fun k => ?_)
        exact (appendEvent_keeps (hP.disk k) _).pre fun d h => h.1.symm ▸ h.2
      · cases written with
        | error | ok => exact .pure fun _ h => h

theorem emit_rule (stage : String) (service eventName : Option String) :
    Triple P (emit env id stage service eventName) (fun _ => P) E :=
  .bind (emitWithPayload_rule hP stage service eventName none) fun _ =>
    .pure fun _ h => h

theorem emitTerminalRecord_rule : Triple P (emitTerminalRecord env op) (fun _ => P) E :=
  .bind (emitWithPayload_rule hP _ _ _ _) fun _ => .pure fun _ h => h

end KernelRules

end Rcoder.Runtime
