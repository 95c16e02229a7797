import Rcoder.Runtime.Protection

/-!
# Fault-free runs

On a disk without faults, with a readable intent file, the slots stay in order: what runs has a
readable record that is not settled, the three slots name different operations, and the
operations of an ended session are in none of them. `X` excepts the operation an entry point is
just settling.
-/

namespace Rcoder.Runtime

open Effect Kernel Machine RuntimeStore AdmissionState

variable {W : Settles} {env : KernelEnv} {id : String} {k k₀ k₁ k' : Kernel}
  {op r stored : StoredOperation} {next : Nat} {X : String → Prop}

namespace Kernel

/-- Handed to the executor: active, or a Stop in progress. -/
def Running (k : Kernel) (id : String) : Prop :=
  k.admission.activeOperationId = some id ∨ k.admission.pendingStop = some id

/-- A known operation in no slot. -/
def Out (k : Kernel) (id : String) : Prop :=
  k.Readable id ∧ ¬k.Running id ∧ k.admission.pendingRestart ≠ some id

structure Orderly (X : String → Prop) (k : Kernel) : Prop where
  calm : k.Calm
  intact : ¬k.disk.store.Damaged
  running : ∀ id, k.Running id → ∃ r, k.record? id = some r ∧ (X id ∨ ¬r.view.state.Settled)
  apart : ∀ id, k.admission.activeOperationId = some id → k.admission.pendingStop ≠ some id
  queued : ∀ id, k.admission.pendingRestart = some id → k.Readable id ∧ ¬k.Running id
  stopped : ∀ id, k.admission.interruptedStop = some id → k.Out id
  interrupted : ∀ id ∈ k.admission.interruptedOperations, k.Out id
  consumed : ∀ id ∈ k.admission.consumedOperations,
    k.Readable id ∧ k.admission.pendingRestart ≠ some id
  cancelled : ∀ id ∈ k.cancelled, k.Readable id
  revisions : ∀ id r, k.Running id ∨ k.admission.pendingRestart = some id →
    k.record? id = some r → r.view.revision ≤ k.revision

theorem Orderly.mono {Y : String → Prop} (h : k.Orderly X) (hXY : ∀ id, X id → Y id) :
    k.Orderly Y :=
  { h with running := fun id hid => (h.running id hid).imp fun _ hr =>
    ⟨hr.1, hr.2.imp_left (hXY id)⟩ }

/-- Once the excepted operation no longer runs, there is no exception. -/
theorem Orderly.settled (h : k.Orderly X) (hX : ∀ id, X id → ¬k.Running id) :
    k.Orderly fun _ => False :=
  { h with running := fun id hid => (h.running id hid).imp fun _ hr =>
      ⟨hr.1, hr.2.imp_left fun hx => hX id hx hid⟩ }

end Kernel

section Records

theorem Kernel.Readable.publish (h : k.Readable id) : (k.publish op).Readable id := by
  by_cases hid : id = op.view.operationId
  · exact ⟨op, hid ▸ record?_publish_self⟩
  · obtain ⟨r, hr⟩ := h
    exact ⟨r, (record?_publish_ne hid).trans hr⟩

theorem Kernel.Out.publish (h : k.Out id) : (k.publish op).Out id :=
  ⟨h.1.publish, h.2⟩

/-- Rewriting a record that does not run, at its own revision. -/
theorem Kernel.Orderly.publish (h : k.Orderly X) (hr : k.record? id = some r)
    (hid : op.view.operationId = id) (hrev : op.view.revision = r.view.revision)
    (hout : X id ∨ ¬k.Running id) : (k.publish op).Orderly X := by
  subst hid
  refine ⟨h.calm, h.intact, fun id hrun => ?_, h.apart, ?_, fun id hid => (h.stopped id hid).publish,
    fun id hid => (h.interrupted id hid).publish, ?_, fun id hid => (h.cancelled id hid).publish,
    fun id r' hocc hr' => ?_⟩
  · by_cases heq : id = op.view.operationId
    · subst heq
      exact ⟨op, record?_publish_self, .inl (hout.resolve_right fun hn => hn hrun)⟩
    · rw [record?_publish_ne heq]
      exact h.running id hrun
  · exact fun id hid => ⟨(h.queued id hid).1.publish, (h.queued id hid).2⟩
  · exact fun id hid => ⟨(h.consumed id hid).1.publish, (h.consumed id hid).2⟩
  · by_cases heq : id = op.view.operationId
    · subst heq
      obtain rfl : op = r' := Option.mem_unique record?_publish_self hr'
      rw [hrev]
      exact h.revisions _ r hocc hr
    · rw [record?_publish_ne heq] at hr'
      exact h.revisions id r' hocc hr'

end Records

variable {a : AdmissionState}

section Moves

theorem not_running_of_mayResolve (h : k.admission.mayResolve r = true) :
    ¬k.Running r.view.operationId := by
  simp only [mayResolve, Bool.not_eq_true', decide_eq_false_iff_not, not_or] at h
  exact fun hrun => hrun.elim h.2.2.1 h.2.2.2.1

theorem not_running_of_empty (h : k.admission.slotsEmpty = true) : ¬k.Running id := by
  simp only [slotsEmpty, Bool.and_eq_true, Option.isNone_iff_eq_none] at h
  rintro (hid | hid)
  · simp [h.1.1] at hid
  · simp [h.1.2] at hid

theorem not_running_of_dead (h : id ∉ k.live) : ¬k.Running id := by
  rw [mem_live] at h
  rintro (hid | hid)
  · exact h (.inl hid)
  · exact h (.inr (.inl hid))

@[simp]
theorem interruptedRecord_revision : (interruptedRecord r).view.revision = r.view.revision := by
  unfold interruptedRecord
  split_ifs <;> rfl

@[simp]
theorem recoveredRecord_revision : (recoveredRecord r).view.revision = r.view.revision := by
  unfold recoveredRecord
  split_ifs <;> rfl

@[simp]
theorem reconciledRecord_revision {receipt : Receipt} {cancelled : Bool} :
    (reconciledRecord receipt cancelled r).view.revision = r.view.revision := by
  unfold reconciledRecord
  split_ifs <;> rfl

theorem Kernel.Orderly.setDesired {desired : DesiredState} (h : k.Orderly X)
    (hle : k.revision ≤ next) : (k.setDesired desired next).Orderly X := by
  refine ⟨h.calm, ?_, h.running, h.apart, h.queued, h.stopped, h.interrupted, h.consumed,
    h.cancelled, fun id r hid hr => (h.revisions id r hid hr).trans hle⟩
  rintro (hd | hd | ⟨cause, hd⟩) <;> cases hd

theorem Kernel.Orderly.release (h : k.Orderly X)
    (hactive : ∀ id, a.activeOperationId = some id → k.admission.activeOperationId = some id)
    (hstop : ∀ id, a.pendingStop = some id → k.admission.pendingStop = some id)
    (hqueue : ∀ id, a.pendingRestart = some id → k.admission.pendingRestart = some id)
    (hrest : a.interruptedStop = k.admission.interruptedStop ∧
      a.interruptedOperations = k.admission.interruptedOperations ∧
      a.consumedOperations = k.admission.consumedOperations) : (k.withAdmission a).Orderly X := by
  have running {id : String} (hid : (k.withAdmission a).Running id) : k.Running id :=
    hid.imp (hactive id) (hstop id)
  have out {id : String} (hid : k.Out id) : (k.withAdmission a).Out id :=
    ⟨hid.1, fun hr => hid.2.1 (running hr), fun hq => hid.2.2 (hqueue id hq)⟩
  obtain ⟨hs, ho, hc⟩ := hrest
  refine ⟨h.calm, h.intact, fun id hid => h.running id (running hid), ?_, ?_, ?_, ?_, ?_,
    h.cancelled, fun id r hid => h.revisions id r (hid.imp running (hqueue id))⟩
  · exact fun id ha hp => h.apart id (hactive id ha) (hstop id hp)
  · exact fun id hq => ⟨(h.queued id (hqueue id hq)).1,
      fun hr => (h.queued id (hqueue id hq)).2 (running hr)⟩
  · exact fun id hid => out (h.stopped id (hs ▸ hid))
  · exact fun id hid => out (h.interrupted id (ho ▸ hid))
  · exact fun id hid => ⟨(h.consumed id (hc ▸ hid)).1,
      fun hq => (h.consumed id (hc ▸ hid)).2 (hqueue id hq)⟩

theorem Kernel.Orderly.disk {d : Disk} (h : k.Orderly X) (hcalm : d.script = [])
    (hdesired : d.store.desired = k.disk.store.desired) (hrev : d.store.revision = k.revision)
    (hrec : ∀ id, d.store.record? id = k.record? id) : Orderly X { k with disk := d } := by
  have readable {id : String} (hr : k.Readable id) : Readable { k with disk := d } id :=
    hr.imp fun _ => (hrec id).trans
  refine ⟨hcalm, ?_, fun id hid => ?_, h.apart, ?_, ?_, ?_, ?_, ?_, ?_⟩
  · unfold Damaged
    rw [hdesired]
    exact h.intact
  · obtain ⟨r, hr, hopen⟩ := h.running id hid
    exact ⟨r, (hrec id).trans hr, hopen⟩
  · exact fun id hid => ⟨readable (h.queued id hid).1, (h.queued id hid).2⟩
  · exact fun id hid => ⟨readable (h.stopped id hid).1, (h.stopped id hid).2⟩
  · exact fun id hid => ⟨readable (h.interrupted id hid).1, (h.interrupted id hid).2⟩
  · exact fun id hid => ⟨readable (h.consumed id hid).1, (h.consumed id hid).2⟩
  · exact fun id hid => readable (h.cancelled id hid)
  · exact fun id r hid hr => (h.revisions id r hid ((hrec id).symm.trans hr)).trans_eq hrev.symm

theorem Kernel.Orderly.quiet {d : Disk} (h : k.Orderly X) (hq : Quiet k.disk d) :
    Orderly X { k with disk := d } :=
  have hk : Quietly k { k with disk := d } := ⟨rfl, hq⟩
  h.disk (steady_calm k d hq h.calm) hk.desired (steady_revision k d hq rfl) fun _ => hk.record?

theorem record?_setAside {s : RuntimeStore} {q : String} (hq : s.record? q = none) :
    (s.setAside q).record? id = s.record? id := by
  by_cases hid : id = q
  · subst hid
    exact record?_setAside_self.trans hq.symm
  · exact record?_setAside_ne hid

theorem Kernel.Orderly.promoted {input : StoredOperation} (h : k.Orderly X)
    (slot : k.admission.pendingRestart = some id) (record : k.record? id = some r)
    (accepted : r.view.state = .accepted) : (k.promoted id input).Orderly X := by
  obtain ⟨hread, hidle⟩ := h.queued id slot
  have running {i : String} (hi : (k.promoted id input).Running i) : i = id ∨ k.Running i :=
    hi.imp (fun h => (Option.some.inj h).symm) .inr
  have out {i : String} (hi : k.Out i) : (k.promoted id input).Out i := by
    refine ⟨hi.1, fun hr => ?_, by simp [Kernel.promoted]⟩
    rcases running hr with rfl | hr
    · exact hi.2.2 slot
    · exact hi.2.1 hr
  refine ⟨h.calm, h.intact, fun i hi => ?_, fun i hi hs => ?_, (fun i hi => by cases hi),
    fun i hi => out (h.stopped i hi), fun i hi => out (h.interrupted i hi),
    fun i hi => ⟨(h.consumed i hi).1, by simp [Kernel.promoted]⟩, h.cancelled, ?_⟩
  · rcases running hi with rfl | hi
    · exact ⟨r, record, .inr (by simp [accepted, RuntimeOperationState.Settled])⟩
    · exact h.running i hi
  · obtain rfl : id = i := Option.some.inj hi
    exact hidle (.inr hs)
  · rintro i r' (hi | hi) hr'
    · rcases running hi with rfl | hi
      · exact h.revisions i r' (.inr slot) hr'
      · exact h.revisions i r' (.inl hi) hr'
    · cases hi

theorem Kernel.Orderly.interrupt {q : String} (h : (k.withAdmission a).Orderly X)
    (hread : k.Readable q) (hq : a.pendingRestart ≠ some q) :
    (k.withAdmission (a.interrupt q)).Orderly X := by
  have active {i : String} (hi : (a.interrupt q).activeOperationId = some i) :
      a.activeOperationId = some i ∧ i ≠ q := by
    simp only [AdmissionState.interrupt] at hi
    split_ifs at hi with hne
    exact ⟨hi, fun h => hne (h ▸ hi)⟩
  have stop {i : String} (hi : (a.interrupt q).pendingStop = some i) :
      a.pendingStop = some i ∧ i ≠ q := by
    simp only [AdmissionState.interrupt] at hi
    split_ifs at hi with hne
    exact ⟨hi, fun h => hne (h ▸ hi)⟩
  have running {i : String} (hi : (k.withAdmission (a.interrupt q)).Running i) :
      (k.withAdmission a).Running i ∧ i ≠ q :=
    hi.elim (fun hi => ⟨.inl (active hi).1, (active hi).2⟩)
      fun hi => ⟨.inr (stop hi).1, (stop hi).2⟩
  have out {i : String} (hi : (k.withAdmission a).Out i) :
      (k.withAdmission (a.interrupt q)).Out i :=
    ⟨hi.1, fun hr => hi.2.1 (running hr).1, hi.2.2⟩
  have hout : (k.withAdmission (a.interrupt q)).Out q := ⟨hread, fun hr => (running hr).2 rfl, hq⟩
  refine ⟨h.calm, h.intact, fun i hi => h.running i (running hi).1, fun i ha hs => ?_, ?_, ?_, ?_,
    h.consumed, h.cancelled, fun i r hi => h.revisions i r (hi.imp_left fun hi => (running hi).1)⟩
  · exact h.apart i (active ha).1 (stop hs).1
  · exact fun i hi => ⟨(h.queued i hi).1, fun hr => (h.queued i hi).2 (running hr).1⟩
  · intro i hi
    by_cases hs : a.pendingStop = some q
    · simp only [AdmissionState.interrupt, hs] at hi
      exact Option.some.inj hi ▸ hout
    · simp only [AdmissionState.interrupt, hs] at hi
      exact out (h.stopped i hi)
  · intro i hi
    simp only [AdmissionState.interrupt, admission_withAdmission] at hi
    split_ifs at hi with hmem
    · exact out (h.interrupted i hi)
    · rcases List.mem_append.mp hi with hi | hi
      · exact out (h.interrupted i hi)
      · exact List.mem_singleton.mp hi ▸ hout

theorem Kernel.Orderly.interrupts (ids : List String) (h : (k.withAdmission a).Orderly X)
    (hids : ∀ q ∈ ids, k.Readable q ∧ a.pendingRestart ≠ some q) :
    (k.withAdmission (ids.foldl AdmissionState.interrupt a)).Orderly X := by
  induction ids generalizing a with
  | nil => exact h
  | cons q ids ih =>
    obtain ⟨hread, hq⟩ := hids q (.head _)
    exact ih (h.interrupt hread hq) fun i hi => hids i (.tail _ hi)

theorem Kernel.Orderly.endSession (h : k.Orderly X) :
    (k.withAdmission k.admission.endSession).Orderly X := by
  refine .interrupts _ ?_ h.consumed
  exact { h with consumed := fun i hi => by cases hi }

theorem mem_staleOperations (h : k.Orderly X) (hid : id ∈ k.admission.staleOperations) :
    k.Out id := by
  unfold staleOperations at hid
  split at hid
  · split_ifs at hid
    · exact h.interrupted id hid
    · rcases List.mem_append.mp hid with hmem | hmem
      · exact h.interrupted id hmem
      · exact h.stopped id (List.mem_singleton.mp hmem ▸ ‹_›)
  · exact h.interrupted id hid

/-- The operations of an ended session that remain to be settled. -/
theorem Kernel.Orderly.handedOver {stop : Option String} {unsettled : List String}
    {protection : Bool} (h : k.Orderly X) (hlisted : ∀ i, stop = some i → i ∈ unsettled)
    (hsub : ∀ i ∈ unsettled, i ∈ k.admission.staleOperations) :
    (k.handedOver stop unsettled protection).Orderly X := by
  have out (i : String) (hi : i ∈ unsettled) : k.Out i := mem_staleOperations h (hsub i hi)
  exact ⟨h.calm, h.intact, h.running, h.apart, h.queued, fun i hi => out i (hlisted i hi), out,
    h.consumed, h.cancelled, h.revisions⟩

theorem Kernel.Orderly.move (h : k.Orderly X) (hm : Move W k k')
    (hW : ∀ i e, W.records i e → X i ∨ k.Out i) : k'.Orderly X := by
  cases hm with
  | quiet disk => exact h.quiet disk
  | receipt | cancelSource | note | forget | protect | assess =>
    exact ⟨h.calm, h.intact, h.running, h.apart, h.queued, h.stopped, h.interrupted, h.consumed,
      h.cancelled, h.revisions⟩
  | cancel file =>
    refine { h with cancelled := fun i hi => ?_ }
    rcases List.mem_insert_iff.mp hi with rfl | hi
    · exact file
    · exact h.cancelled i hi
  | uncancel => exact { h with cancelled := fun i hi => h.cancelled i (List.mem_filter.mp hi).1 }
  | consume slot =>
    refine { h with consumed := fun i hi => ?_ }
    rcases List.mem_insert_iff.mp hi with rfl | hi
    · obtain ⟨r, hr, -⟩ := h.running i slot
      exact ⟨⟨r, hr⟩, fun hq => (h.queued i hq).2 slot⟩
    · exact h.consumed i hi
  | settle record _ _ diagnosis =>
    have hid := record?_id record
    exact h.publish record hid rfl ((hW _ _ diagnosis).imp_right fun ho => ho.2.1)
  | complete record previous =>
    exact h.publish record rfl rfl (.inr (not_running_of_mayResolve previous))
  | resolve record previous =>
    exact h.publish record interruptedRecord_id interruptedRecord_revision
      (.inr (not_running_of_mayResolve previous))
  | recover record dead =>
    exact h.publish record recoveredRecord_id recoveredRecord_revision
      (.inr (not_running_of_dead dead))
  | confirm record empty => exact h.publish record rfl rfl (.inr (not_running_of_empty empty))
  | reconcile record empty =>
    exact h.publish record reconciledRecord_id reconciledRecord_revision
      (.inr (not_running_of_empty empty))
  | setAside unreadable =>
    have hnone := unreadable.resolve_right fun hs => hs h.calm
    exact h.disk h.calm rfl rfl fun _ => record?_setAside hnone
  | releaseActive => exact h.release (by simp) (fun _ h => h) (fun _ h => h) ⟨rfl, rfl, rfl⟩
  | releaseStop => exact h.release (fun _ h => h) (by simp) (fun _ h => h) ⟨rfl, rfl, rfl⟩
  | promote slot _ _ record accepted => exact h.promoted slot record accepted
  | supersede slot _ record =>
    have hid := record?_id record
    refine .release ?_ (fun _ h => h) (fun _ h => h) (by simp) ⟨rfl, rfl, rfl⟩
    exact h.publish record hid rfl (.inr (h.queued _ slot).2)
  | tornSupersede torn => exact absurd h.calm torn
  | drop => exact h.release (fun _ h => h) (fun _ h => h) (by simp) ⟨rfl, rfl, rfl⟩
  | endSession => exact h.endSession
  | handOver => exact h.handedOver (by simp) (by simp)
  | retain listed subset => exact h.handedOver (fun i hi => (listed i hi).2) subset
  | asideDesired damaged => exact absurd damaged h.intact
  | repair damaged => exact absurd damaged h.intact
  | stopIntent succ => exact h.setDesired (checkedSucc_eq_some succ ▸ Nat.le_succ _)

theorem interrupts_slots {i : String} (ids : List String) :
    ((ids.foldl AdmissionState.interrupt a).activeOperationId = some i →
      a.activeOperationId = some i) ∧
    ((ids.foldl AdmissionState.interrupt a).pendingStop = some i → a.pendingStop = some i) ∧
    (ids.foldl AdmissionState.interrupt a).pendingRestart = a.pendingRestart := by
  induction ids generalizing a with
  | nil => exact ⟨fun h => h, fun h => h, rfl⟩
  | cons q ids ih =>
    obtain ⟨hactive, hstop, hqueue⟩ := ih
    refine ⟨fun h => ?_, fun h => ?_, hqueue⟩
    · have := hactive h
      simp only [AdmissionState.interrupt] at this
      split_ifs at this
      exact this
    · have := hstop h
      simp only [AdmissionState.interrupt] at this
      split_ifs at this
      exact this

/-- Only the queued operation can start to run, and nothing enters the queue. -/
theorem Move.slots (hm : Move W k k') (id : String) :
    (k'.Running id → k.Running id ∨ k.admission.pendingRestart = some id) ∧
      (k'.admission.pendingRestart = some id → k.admission.pendingRestart = some id) := by
  cases hm with
  | releaseActive => exact ⟨fun h => .inl (h.elim (fun h => by cases h) .inr), fun h => h⟩
  | releaseStop => exact ⟨fun h => .inl (h.elim .inl fun h => by cases h), fun h => h⟩
  | promote slot =>
    exact ⟨fun h => h.elim (fun h => .inr (h ▸ slot)) fun h => .inl (.inr h), fun h => by cases h⟩
  | supersede | drop => exact ⟨.inl, fun h => by cases h⟩
  | endSession =>
    obtain ⟨hactive, hstop, hqueue⟩ := interrupts_slots
      (a := { k.admission with consumedOperations := [] }) k.admission.consumedOperations
    exact ⟨fun h => .inl (h.imp hactive hstop), fun h => hqueue ▸ h⟩
  | _ => exact ⟨.inl, fun h => h⟩

theorem Kernel.Readable.move (h : k.Readable id) (hcalm : k.Calm) (hm : Move W k k') :
    k'.Readable id := by
  cases hm with
  | quiet disk => exact h.imp fun _ => (Quietly.record? ⟨rfl, disk⟩).trans
  | settle | complete | resolve | recover | confirm | reconcile | supersede | tornSupersede =>
    exact h.publish
  | setAside unreadable =>
    exact h.imp fun _ => (record?_setAside (unreadable.resolve_right fun hs => hs hcalm)).trans
  | _ => exact h

theorem Kernel.Out.move (h : k.Out id) (hcalm : k.Calm) (hm : Move W k k') : k'.Out id := by
  obtain ⟨hrun, hqueue⟩ := hm.slots id
  exact ⟨h.1.move hcalm hm, fun hr => (hrun hr).elim h.2.1 h.2.2, fun hq => h.2.2 (hqueue hq)⟩

theorem Kernel.Orderly.moves (h : k.Orderly X) (hm : Moves W k k')
    (hW : ∀ i e, W.records i e → X i ∨ k.Out i) : k'.Orderly X := by
  suffices k'.Orderly X ∧ ∀ i e, W.records i e → X i ∨ k'.Out i from this.1
  induction hm with
  | refl => exact ⟨h, hW⟩
  | tail _ hstep ih =>
    exact ⟨ih.1.move hstep ih.2, fun i e hi => (ih.2 i e hi).imp_right fun ho =>
      ho.move ih.1.calm hstep⟩

end Moves

section Admission

theorem Opens.revision_le (h : Opens stored next k) : k.revision ≤ next := by
  by_cases hkind : stored.view.kind = .stop
  · exact checkedSucc_eq_some (h.next_stop hkind) ▸ Nat.le_succ _
  · exact (h.next_start hkind).ge

theorem Kernel.Orderly.opened (h : k.Orderly X) (hopens : Opens stored next k) :
    (k.opened stored next).Orderly X := by
  have other {i : String} (hi : k.Readable i) : i ≠ stored.view.operationId :=
    hi.elim fun _ => hopens.record_ne
  have hpublish : (k.publish stored).Orderly X := by
    refine ⟨h.calm, h.intact, fun i hi => ?_, h.apart, ?_, fun i hi => (h.stopped i hi).publish,
      fun i hi => (h.interrupted i hi).publish, ?_, fun i hi => (h.cancelled i hi).publish, ?_⟩
    · obtain ⟨r, hr, hopen⟩ := h.running i hi
      exact ⟨r, (record?_publish_ne (other ⟨r, hr⟩)).trans hr, hopen⟩
    · exact fun i hi => ⟨(h.queued i hi).1.publish, (h.queued i hi).2⟩
    · exact fun i hi => ⟨(h.consumed i hi).1.publish, (h.consumed i hi).2⟩
    · intro i r hi hr
      have hne : i ≠ stored.view.operationId := by
        rcases hi with hi | hi
        · obtain ⟨r', hr', -⟩ := h.running i hi
          exact other ⟨r', hr'⟩
        · exact other (h.queued i hi).1
      rw [record?_publish_ne hne] at hr
      exact h.revisions i r hi hr
  exact hpublish.setDesired hopens.revision_le

theorem Kernel.Orderly.clears (h : k.Orderly X) (hc : Clears k k') : k'.Orderly X := by
  cases hc with
  | vacant | settled => exact h
  | superseded slot record =>
    have hid := record?_id record
    exact h.publish record hid rfl (.inr (h.queued _ slot).2)

/-- The new operation before it takes its slot. -/
structure Kernel.Ready (stored : StoredOperation) (k : Kernel) : Prop where
  record : k.record? stored.view.operationId = some stored
  out : k.Out stored.view.operationId
  stopped : k.admission.interruptedStop ≠ some stored.view.operationId
  interrupted : stored.view.operationId ∉ k.admission.interruptedOperations
  consumed : stored.view.operationId ∉ k.admission.consumedOperations

theorem Kernel.Orderly.ready (h : k.Orderly X) (hopens : Opens stored next k)
    (hc : Clears (k.opened stored next) k₁) : k₁.Ready stored := by
  have fresh : ¬k.Readable stored.view.operationId :=
    fun ⟨r, hr⟩ => hopens.fresh (record?_mem hr)
  have hslots : k₁.admission = k.admission := hc.admission
  have hidle : ¬k.Running stored.view.operationId := fun hr =>
    fresh ((h.running _ hr).imp fun _ hr => hr.1)
  have hqueue : k.admission.pendingRestart ≠ some stored.view.operationId :=
    fun hq => fresh (h.queued _ hq).1
  have hrecord : k₁.record? stored.view.operationId = some stored := by
    cases hc with
    | vacant | settled => exact record?_publish_self
    | superseded slot record =>
      have hid := record?_id record
      refine (record?_publish_ne fun heq => hqueue ?_).trans record?_publish_self
      exact slot.trans (congrArg some (hid.symm.trans heq.symm))
  refine ⟨hrecord, ⟨⟨stored, hrecord⟩, ?_, ?_⟩, ?_, ?_, ?_⟩
  · unfold Kernel.Running
    rw [hslots]
    exact hidle
  · rw [hslots]
    exact hqueue
  · rw [hslots]
    exact fun hs => fresh (h.stopped _ hs).1
  · rw [hslots]
    exact fun hs => fresh (h.interrupted _ hs).1
  · rw [hslots]
    exact fun hs => fresh (h.consumed _ hs).1

/-- A ready operation takes a slot and the queue holds nothing else. -/
theorem Kernel.Orderly.place (h : k.Orderly X) (hready : k.Ready stored)
    (haccepted : stored.view.state = .accepted) (hrev : stored.view.revision ≤ k.revision)
    (hrun : ∀ i, (k.withAdmission a).Running i → k.Running i ∨ i = stored.view.operationId)
    (hapart : ∀ i, a.activeOperationId = some i → a.pendingStop ≠ some i)
    (hqueue : ∀ i, a.pendingRestart = some i →
      i = stored.view.operationId ∧ ¬(k.withAdmission a).Running i)
    (hrest : a.interruptedStop = k.admission.interruptedStop ∧
      a.interruptedOperations = k.admission.interruptedOperations ∧
      a.consumedOperations = k.admission.consumedOperations) : (k.withAdmission a).Orderly X := by
  obtain ⟨hs, ho, hc⟩ := hrest
  have out {i : String} (hi : k.Out i) (hne : i ≠ stored.view.operationId) :
      (k.withAdmission a).Out i :=
    ⟨hi.1, fun hr => (hrun i hr).elim hi.2.1 hne, fun hq => hne (hqueue i hq).1⟩
  refine ⟨h.calm, h.intact, fun i hi => ?_, hapart, fun i hi => ?_, fun i hi => ?_, fun i hi => ?_,
    fun i hi => ?_, h.cancelled, fun i r hi hr => ?_⟩
  · rcases hrun i hi with hi | rfl
    · exact h.running i hi
    · exact ⟨stored, hready.record, .inr (by simp [haccepted, RuntimeOperationState.Settled])⟩
  · obtain ⟨rfl, hidle⟩ := hqueue i hi
    exact ⟨hready.out.1, hidle⟩
  · have hi' : k.admission.interruptedStop = some i := hs ▸ hi
    exact out (h.stopped i hi') fun heq => hready.stopped (heq ▸ hi')
  · have hi' : i ∈ k.admission.interruptedOperations := ho ▸ hi
    exact out (h.interrupted i hi') fun heq => hready.interrupted (heq ▸ hi')
  · have hi' : i ∈ k.admission.consumedOperations := hc ▸ hi
    exact ⟨(h.consumed i hi').1, fun hq => hready.consumed ((hqueue i hq).1 ▸ hi')⟩
  · have new : i = stored.view.operationId → r.view.revision ≤ k.revision := by
      rintro rfl
      obtain rfl : stored = r := Option.mem_unique hready.record hr
      exact hrev
    rcases hi with hi | hi
    · exact (hrun i hi).elim (fun hi => h.revisions i r (.inl hi) hr) new
    · exact new (hqueue i hi).1

theorem Kernel.Orderly.dispatched {actions : List DispatchAction} (h : k.Orderly X) :
    Orderly X { k with dispatched := actions } :=
  ⟨h.calm, h.intact, h.running, h.apart, h.queued, h.stopped, h.interrupted, h.consumed, h.cancelled,
    h.revisions⟩

theorem Clears.revision (hc : Clears k k') : k'.revision = k.revision := by
  cases hc <;> rfl

theorem Kernel.Orderly.admits (h : k.Orderly X) (ha : Admits stored next k k') : k'.Orderly X := by
  have hrev {k₁ : Kernel} (hopens : Opens stored next k) (hc : Clears (k.opened stored next) k₁) :
      stored.view.revision ≤ k₁.revision := by
    rw [hopens.revision, hc.revision]
    exact hopens.revision_le
  cases ha with
  | @stop k₁ opens kind clears =>
    have hready := h.ready opens clears
    refine (((h.opened opens).clears clears).place (a := (k₁.stopAccepted stored).admission) hready
      opens.accepted (hrev opens clears)
      (fun i hi => hi.elim (fun hi => .inl (.inl hi)) fun hi => .inr (Option.some.inj hi).symm)
      (fun i hi hs => hready.out.2.1 (.inl ?_)) (fun i hi => by cases hi) ⟨rfl, rfl, rfl⟩).dispatched
    exact Option.some.inj hs ▸ hi
  | queue opens kind busy clears =>
    have hready := h.ready opens clears
    refine ((h.opened opens).clears clears).place hready opens.accepted (hrev opens clears)
      (fun i hi => .inl hi) ((h.opened opens).clears clears).apart (fun i hi => ?_) ⟨rfl, rfl, rfl⟩
    obtain rfl := Option.some.inj hi
    exact ⟨rfl, hready.out.2.1⟩
  | @active k₁ opens kind idle clears =>
    have hready := h.ready opens clears
    refine (((h.opened opens).clears clears).place (a := (k₁.activated stored).admission) hready
      opens.accepted (hrev opens clears)
      (fun i hi => hi.elim (fun hi => .inr (Option.some.inj hi).symm) fun hi => .inl (.inr hi))
      (fun i hi hs => ?_) (fun i hi => by cases hi) ⟨rfl, rfl, rfl⟩).dispatched
    have hstop : k.admission.pendingStop = some i := clears.slots ▸ hs
    rw [idle.2] at hstop
    cases hstop

/-- On an orderly disk no admission breaks off. -/
theorem Kernel.Orderly.not_broken (h : k.Orderly X) : ¬k.Broken := by
  rintro (hs | hd | hd | ⟨id, hid | hid, hr⟩)
  · exact hs h.calm
  · exact h.intact (.inl hd)
  · exact h.intact (.inr (.inr hd))
  · obtain ⟨r, hr'⟩ := (h.queued id hid).1
    simp [hr] at hr'
  · obtain ⟨r, hr', -⟩ := h.running id (.inl hid)
    simp [hr] at hr'

theorem Kernel.Orderly.fails (h : k.Orderly X) (hf : Fails stored next k k') : Quietly k k' := by
  cases hf with
  | unwritten quiet => exact quiet
  | torn script =>
    have hcalm := h.calm
    rw [Kernel.Calm, script] at hcalm
    cases hcalm
  | held broken => exact absurd broken h.not_broken

end Admission

end Rcoder.Runtime
