import Rcoder.Runtime.Barrier

/-!
# Cancellation is durable

A confirmed cancellation marks the active operation in memory and leaves a receipt. The commit
reads the mark while the operation holds its slot. Once it has left the slot nothing hands it
back: only an admission or the queue can, and its id is taken and not queued. Every other way to
a success is one of a Stop, so the slots never confuse a Stop with a start.
-/

namespace Rcoder.Runtime

open Effect Kernel Machine

variable {W : Settles} {env : KernelEnv} {id : String} {k k₁ k' : Kernel}
  {op r r' stored : StoredOperation} {next : Nat} {faults : List Fault} {was : Prop}

section Records

/-- A success is written for a Stop, or by an entry point that reports it. -/
theorem Overwrites.succeeded (h : Overwrites W faults id r (some r'))
    (hs : r'.view.state = .succeeded) : r.view.kind = .stop ∨ W.states id .succeeded := by
  cases h with
  | @settled state _ _ _ writes =>
    obtain rfl : state = .succeeded := hs
    exact .inr writes
  | completed _ stop => exact .inl stop
  | confirmed _ stop => exact .inl stop
  | superseded => cases hs
  | interrupted =>
    rw [interruptedRecord_state] at hs
    cases hs
  | recovered =>
    unfold recoveredRecord at hs
    split_ifs at hs with hstop
    exact .inl hstop.1
  | @reconciled receipt cancelled =>
    rw [reconciledRecord_state] at hs
    cases cancelled <;> cases hs

theorem Move.readable_of (hm : Move W k k') (h : k'.Readable id) : k.Readable id := by
  obtain ⟨r', hr'⟩ := h
  cases hr : k.record? id with
  | none =>
    rw [hm.absent hr] at hr'
    cases hr'
  | some r => exact ⟨r, hr⟩

theorem Moves.readable_of (hm : Moves W k k') (h : k'.Readable id) : k.Readable id := by
  induction hm with
  | refl => exact h
  | tail _ hstep ih => exact ih (hstep.readable_of h)

/-- An entry point that sets nothing aside loses no record. -/
theorem Move.readable (hm : Move W k k') (hW : ¬W.setsAside) (h : k.Readable id) :
    k'.Readable id := by
  obtain ⟨r, hr⟩ := h
  rcases hm.overwrites hr with h | h
  · exact ⟨r, h⟩
  · cases hr' : k'.record? id with
    | some r' => exact ⟨r', hr'⟩
    | none =>
      rw [hr'] at h
      cases h with
      | setAside _ setsAside => exact absurd setsAside hW

theorem Moves.readable (hm : Moves W k k') (hW : ¬W.setsAside) (h : k.Readable id) :
    k'.Readable id := by
  induction hm with
  | refl => exact h
  | tail _ hstep ih => exact hstep.readable hW ih

end Records

variable {reported : Prop}

section Slots

/-- The record `r` goes on as `r'`: of the same kind, and a success only if it was one, if it is a
Stop or if `reported`. -/
def StoredOperation.Continues (reported : Prop) (r r' : StoredOperation) : Prop :=
  r'.view.kind = r.view.kind ∧ (r'.view.state = .succeeded →
    r.view.state = .succeeded ∨ r.view.kind = .stop ∨ reported)

theorem StoredOperation.Continues.refl (reported : Prop) (r : StoredOperation) :
    r.Continues reported r := ⟨rfl, .inl⟩

theorem StoredOperation.Continues.trans {r'' : StoredOperation} (h : r.Continues reported r')
    (h' : r'.Continues reported r'') : r.Continues reported r'' := by
  refine ⟨h'.1.trans h.1, fun hs => ?_⟩
  rcases h'.2 hs with hs | hstop | hrep
  · exact h.2 hs
  · exact .inr (.inl (h.1 ▸ hstop))
  · exact .inr (.inr hrep)

/-- The kernel `k'` came from `k` without handing `id` anything: it holds no slot it did not hold
before, and its record, if there was one, goes on. -/
structure Kernel.Spares (reported : Prop) (k k' : Kernel) (id : String) : Prop where
  active : k'.admission.activeOperationId = some id → k.admission.activeOperationId = some id
  queue : k'.admission.pendingRestart = some id → k.admission.pendingRestart = some id
  stop : k'.admission.pendingStop = some id ∨ k'.admission.interruptedStop = some id →
    k.admission.pendingStop = some id ∨ k.admission.interruptedStop = some id
  record : ∀ r, k.record? id = some r → ∃ r', k'.record? id = some r' ∧ r.Continues reported r'

theorem Kernel.Spares.of_same (ha : k'.admission = k.admission)
    (hr : k'.record? id = k.record? id) : k.Spares reported k' id :=
  ⟨fun h => ha ▸ h, fun h => ha ▸ h, fun h => ha ▸ h, fun r h => ⟨r, hr.trans h, .refl reported r⟩⟩

theorem Kernel.Spares.trans (h : k.Spares reported k₁ id) (h' : k₁.Spares reported k' id) :
    k.Spares reported k' id := by
  refine ⟨fun ha => h.active (h'.active ha), fun hq => h.queue (h'.queue hq),
    fun hs => h.stop (h'.stop hs), fun r hr => ?_⟩
  obtain ⟨r₁, hr₁, hcont⟩ := h.record r hr
  obtain ⟨r₂, hr₂, hcont'⟩ := h'.record r₁ hr₁
  exact ⟨r₂, hr₂, hcont.trans hcont'⟩

theorem Quietly.spares (hq : Quietly k k') : k.Spares reported k' id :=
  .of_same hq.admission hq.record?

/-- A Stop that is interrupted waited in its slot. -/
theorem interrupts_stop {a : AdmissionState} (ids : List String)
    (h : (ids.foldl AdmissionState.interrupt a).pendingStop = some id ∨
      (ids.foldl AdmissionState.interrupt a).interruptedStop = some id) :
    a.pendingStop = some id ∨ a.interruptedStop = some id := by
  induction ids generalizing a with
  | nil => exact h
  | cons q ids ih =>
    have h₁ := ih h
    simp only [AdmissionState.interrupt] at h₁
    split_ifs at h₁ with hq
    · rcases h₁ with h₁ | h₁
      · cases h₁
      · exact .inl (hq.trans h₁)
    · exact h₁

/-- Only the queued operation is handed a slot, once its record is read as a waiting start. -/
theorem Move.spares (hm : Move W k k') (hkept : k.Readable id → k'.Readable id) :
    k.Spares (W.states id .succeeded) k' id ∨ k.admission.pendingRestart = some id ∧
      (∃ r, k.record? id = some r ∧ r.view.kind ≠ .stop) ∧ ∃ input, k' = k.promoted id input := by
  have record (r : StoredOperation) (hr : k.record? id = some r) :
      ∃ r', k'.record? id = some r' ∧ r.Continues (W.states id .succeeded) r' := by
    obtain ⟨r', hr'⟩ := hkept ⟨r, hr⟩
    rcases hm.overwrites hr with h | h
    · exact ⟨r, h, .refl _ r⟩
    · rw [hr'] at h
      exact ⟨r', hr', h.same.2.1, fun hs => .inr (h.succeeded hs)⟩
  cases hm with
  | releaseActive =>
    exact .inl ⟨by rintro ⟨⟩, fun h => h, fun h => h, record⟩
  | releaseStop =>
    exact .inl ⟨fun h => h, fun h => h, fun h => .inr (h.resolve_left (by rintro ⟨⟩)), record⟩
  | @promote q r input slot _ _ hr _ kind =>
    by_cases hid : q = id
    · subst hid
      exact .inr ⟨slot, ⟨r, hr, kind⟩, input, rfl⟩
    · exact .inl ⟨fun h => absurd (Option.some.inj h) hid, by rintro ⟨⟩, fun h => h, record⟩
  | supersede | drop => exact .inl ⟨fun h => h, by rintro ⟨⟩, fun h => h, record⟩
  | endSession =>
    obtain ⟨hactive, -, hqueue⟩ := interrupts_slots k.admission.consumedOperations
    exact .inl ⟨hactive, fun h => hqueue ▸ h, interrupts_stop _, record⟩
  | handOver =>
    exact .inl ⟨fun h => h, fun h => h, fun h => .inl (h.resolve_right (by rintro ⟨⟩)), record⟩
  | retain listed =>
    exact .inl ⟨fun h => h, fun h => h, fun h => h.imp_right fun h => (listed id h).1, record⟩
  | _ => exact .inl ⟨fun h => h, fun h => h, fun h => h, record⟩

variable (reported : Prop)

theorem superseded_continues {q message : String} {r₁ : StoredOperation}
    (hq : k.record? q = some r₁) (hr : k.record? id = some r) :
    ∃ r', (k.publish (r₁.superseded message)).record? id = some r' ∧ r.Continues reported r' := by
  have hid : (r₁.superseded message).view.operationId = q := (RuntimeStore.record?_id hq :)
  by_cases heq : id = q
  · subst heq
    obtain rfl : r₁ = r := Option.mem_unique hq hr
    refine ⟨r₁.superseded message, ?_, rfl, by rintro ⟨⟩⟩
    exact (congrArg _ hid).symm.trans record?_publish_self
  · refine ⟨r, (record?_publish_ne ?_).trans hr, .refl reported r⟩
    exact fun h => heq (h.trans hid)

theorem Clears.continues (hc : Clears k k') (hr : k.record? id = some r) :
    ∃ r', k'.record? id = some r' ∧ r.Continues reported r' := by
  cases hc with
  | vacant | settled => exact ⟨r, hr, .refl reported r⟩
  | superseded _ record => exact superseded_continues reported record hr

variable (hne : id ≠ stored.view.operationId)
include hne

/-- An acceptance hands a slot to its own operation only. -/
theorem Admits.spares (ha : Admits stored next k k') : k.Spares reported k' id := by
  have other : some stored.view.operationId ≠ some id := fun h => hne (Option.some.inj h).symm
  have record {k₁ : Kernel} (hc : Clears (k.opened stored next) k₁) (r : StoredOperation)
      (hr : k.record? id = some r) : ∃ r', k₁.record? id = some r' ∧ r.Continues reported r' :=
    hc.continues reported ((record?_publish_ne hne).trans hr)
  cases ha with
  | @stop k₁ opens kind clears =>
    refine ⟨fun h => ?_, by rintro ⟨⟩, fun h => .inr ?_, fun r hr => record clears r hr⟩
    · simpa only [stopAccepted, clears.slots] using h
    · simpa only [stopAccepted, clears.slots, other, false_or] using h
  | @queue k₁ opens kind busy clears =>
    refine ⟨fun h => ?_, fun h => absurd h other, fun h => ?_, fun r hr => record clears r hr⟩
    · simpa only [enqueued, withAdmission, clears.slots] using h
    · simpa only [enqueued, withAdmission, clears.slots] using h
  | @active k₁ opens kind idle clears =>
    refine ⟨fun h => absurd h other, by rintro ⟨⟩, fun h => ?_, fun r hr => record clears r hr⟩
    simpa only [activated, clears.slots] using h

/-- What an admission that breaks off leaves of another operation. -/
theorem Disturbs.spares (hd : Disturbs stored next k k') : k.Spares reported k' id := by
  have other : some stored.view.operationId ≠ some id := fun h => hne (Option.some.inj h).symm
  induction hd with
  | refl => exact .of_same rfl rfl
  | tail _ hstep ih =>
    cases hstep with
    | quiet disk => exact ih.trans (Quietly.spares ⟨rfl, disk⟩)
    | slots stop _ active pending queue =>
      refine ⟨fun h => ih.active (active ▸ h), fun h => ?_, fun h => ih.stop ?_, ih.record⟩
      · rcases queue with hq | hq | hq | hq
        · exact ih.queue (hq ▸ h)
        · cases hq.symm.trans h
        · exact absurd (hq.symm.trans h) other
        · exact hq.symm.trans h
      · exact h.imp (pending ▸ ·) (stop ▸ ·)
    | record | hold => exact ih.trans (.of_same rfl (record?_publish_ne hne))
    | supersede record =>
      exact ih.trans ⟨fun h => h, fun h => h, fun h => h, fun _ => superseded_continues _ record⟩
    | cancel | receipt | intent => exact ih.trans (.of_same rfl rfl)

theorem Fails.spares (hf : Fails stored next k k') : k.Spares reported k' id := by
  cases hf with
  | unwritten quiet => exact quiet.spares
  | torn _ record =>
    have hpublished : k.Spares reported (k.publish stored) id := .of_same rfl (record?_publish_ne hne)
    exact hpublished.trans record.spares
  | held _ left => exact Disturbs.spares reported hne left

end Slots

variable {answer : Answer}

section Filed

/-- The slots tell Stops from starts: an active operation has the record of a start and does not
wait behind itself, and the slots for Stops hold Stops. -/
structure Kernel.Filed (k : Kernel) (id : String) : Prop where
  active : k.admission.activeOperationId = some id →
    (∃ r, k.record? id = some r ∧ r.view.kind ≠ .stop) ∧ k.admission.pendingRestart ≠ some id
  stop : k.admission.pendingStop = some id ∨ k.admission.interruptedStop = some id →
    ∃ r, k.record? id = some r ∧ r.view.kind = .stop

theorem filed_new (store : RuntimeStore) (identity : RuntimeIdentityView) :
    (Kernel.new store identity).Filed id :=
  ⟨by rintro ⟨⟩, by rintro (⟨⟨⟩⟩ | ⟨⟨⟩⟩)⟩

theorem Kernel.Filed.spares (h : k.Filed id) (hs : k.Spares reported k' id) : k'.Filed id := by
  refine ⟨fun hactive => ?_, fun hstop => ?_⟩
  · obtain ⟨⟨r, hr, hkind⟩, hqueue⟩ := h.active (hs.active hactive)
    obtain ⟨r', hr', hcont⟩ := hs.record r hr
    exact ⟨⟨r', hr', hcont.1 ▸ hkind⟩, fun hq => hqueue (hs.queue hq)⟩
  · obtain ⟨r, hr, hkind⟩ := h.stop (hs.stop hstop)
    obtain ⟨r', hr', hcont⟩ := hs.record r hr
    exact ⟨r', hr', hcont.1.trans hkind⟩

theorem Kernel.Filed.move (h : k.Filed id) (hm : Move W k k')
    (hkept : k.Readable id → k'.Readable id) : k'.Filed id := by
  rcases hm.spares hkept with hs | ⟨-, hrecord, input, rfl⟩
  · exact h.spares hs
  · exact ⟨fun _ => ⟨hrecord, by rintro ⟨⟩⟩, h.stop⟩

theorem Kernel.Filed.moves (h : k.Filed id) (hm : Moves W k k')
    (hkept : k.Readable id → k'.Readable id) : k'.Filed id := by
  induction hm with
  | refl => exact h
  | tail hmoves hstep ih =>
    have h₁ := ih fun hread => hstep.readable_of (hkept hread)
    exact h₁.move hstep fun hread => hkept (Moves.readable_of hmoves hread)

/-- The accepted operation enters the slot of its kind. -/
theorem Kernel.Filed.admits (h : k.Filed id) (ha : Admits stored next k k') : k'.Filed id := by
  by_cases hne : id = stored.view.operationId
  swap
  · exact h.spares (ha.spares False hne)
  subst hne
  have fresh (hopens : Opens stored next k) (r : StoredOperation) :
      k.record? stored.view.operationId ≠ some r := fun hr => hopens.record_ne hr rfl
  have record {k₁ : Kernel} (hc : Clears (k.opened stored next) k₁) :
      ∃ r, k₁.record? stored.view.operationId = some r ∧ r.view.kind = stored.view.kind := by
    obtain ⟨r, hr, hcont⟩ := hc.continues False record?_publish_self
    exact ⟨r, hr, hcont.1⟩
  cases ha with
  | @stop k₁ opens kind clears =>
    obtain ⟨r, hr, hrkind⟩ := record clears
    refine ⟨fun hactive => ?_, fun _ => ⟨r, hr, hrkind.trans kind⟩⟩
    simp only [stopAccepted, clears.slots] at hactive
    obtain ⟨⟨r, hr, -⟩, -⟩ := h.active hactive
    exact absurd hr (fresh opens r)
  | @queue k₁ opens kind busy clears =>
    refine ⟨fun hactive => ?_, fun hstop => ?_⟩
    · simp only [enqueued, clears.slots] at hactive
      obtain ⟨⟨r, hr, -⟩, -⟩ := h.active hactive
      exact absurd hr (fresh opens r)
    · simp only [enqueued, clears.slots] at hstop
      obtain ⟨r, hr, -⟩ := h.stop hstop
      exact absurd hr (fresh opens r)
  | @active k₁ opens kind idle clears =>
    obtain ⟨r, hr, hrkind⟩ := record clears
    refine ⟨fun _ => ⟨⟨r, hr, hrkind ▸ kind⟩, by rintro ⟨⟩⟩, fun hstop => ?_⟩
    simp only [activated, clears.slots] at hstop
    obtain ⟨r, hr, -⟩ := h.stop hstop
    exact absurd hr (fresh opens r)

theorem Fails.slots (hf : Fails stored next k k') :
    k'.admission.activeOperationId = k.admission.activeOperationId ∧
      k'.admission.pendingStop = k.admission.pendingStop ∧
      k'.admission.interruptedStop = k.admission.interruptedStop := by
  cases hf with
  | unwritten quiet => exact quiet.admission ▸ ⟨rfl, rfl, rfl⟩
  | torn _ record => exact record.admission ▸ ⟨rfl, rfl, rfl⟩
  | held _ left =>
    clear * - left
    induction left with
    | refl => exact ⟨rfl, rfl, rfl⟩
    | tail _ hstep ih =>
      cases hstep with
      | slots stop _ active pending =>
          exact ⟨active.trans ih.1, pending.trans ih.2.1, stop.trans ih.2.2⟩
      | _ => exact ih

theorem Kernel.Filed.fails (h : k.Filed id) (hopens : Opens stored next k)
    (hf : Fails stored next k k') : k'.Filed id := by
  by_cases hne : id = stored.view.operationId
  swap
  · exact h.spares (hf.spares False hne)
  subst hne
  obtain ⟨hactive, hpending, hstop⟩ := hf.slots
  refine ⟨fun h' => ?_, fun h' => ?_⟩
  · obtain ⟨⟨r, hr, -⟩, -⟩ := h.active (hactive ▸ h')
    exact absurd rfl (hopens.record_ne hr)
  · obtain ⟨r, hr, -⟩ := h.stop (hpending ▸ hstop ▸ h')
    exact absurd rfl (hopens.record_ne hr)

theorem Kernel.Filed.acts {op : Op} (h : k.Filed id) (hacts : Acts env op k answer k')
    (hkept : k.Readable id → k'.Readable id) : k'.Filed id := by
  refine hacts.keeps (I := (Filed · id)) h (fun hm => h.moves hm hkept) (fun hm h => ?_)
    (fun _ _ ha h => h.admits ha) fun _ _ hopens hf h => h.fails hopens hf
  exact h.moves hm (Moves.readable hm not_false)

end Filed

section Doomed

/-- A cancelled start: its record is not that of a success unless it `was`, and it does not wait
for the slot. -/
structure Kernel.Doomed (k : Kernel) (id : String) (was : Prop) : Prop where
  record : ∃ r, k.record? id = some r ∧ r.view.kind ≠ .stop ∧ (r.view.state = .succeeded → was)
  queue : k.admission.pendingRestart ≠ some id

/-- While the operation holds the slot it is marked. -/
def Kernel.Marked (k : Kernel) (id : String) : Prop :=
  k.admission.activeOperationId = some id → id ∈ k.cancelled

theorem Kernel.Doomed.spares (h : k.Doomed id was) (hs : k.Spares reported k' id)
    (hrep : ¬reported) : k'.Doomed id was := by
  obtain ⟨r, hr, hkind, hsucc⟩ := h.record
  obtain ⟨r', hr', hcont⟩ := hs.record r hr
  refine ⟨⟨r', hr', hcont.1 ▸ hkind, fun hstate => ?_⟩, fun hq => h.queue (hs.queue hq)⟩
  rcases hcont.2 hstate with hstate | hstop | hrep'
  · exact hsucc hstate
  · exact absurd hstop hkind
  · exact absurd hrep' hrep

theorem Kernel.Doomed.moves (h : k.Doomed id was) (hm : Moves W k k') (hread : k'.Readable id)
    (hW : ¬W.states id .succeeded) : k'.Doomed id was := by
  induction hm with
  | refl => exact h
  | tail _ hstep ih =>
    have h₁ := ih (hstep.readable_of hread)
    rcases hstep.spares fun _ => hread with hs | ⟨hqueue, -⟩
    · exact h₁.spares hs hW
    · exact absurd hqueue h₁.queue

/-- A mark goes only with the slot that the entry point releases. -/
theorem Kernel.Marked.moves (h : k.Marked id) (hd : k.Doomed id was) (hm : Moves W k k')
    (hread : k'.Readable id) (hW : ¬W.states id .succeeded) (hR : ¬W.releases id) :
    k'.Marked id := by
  induction hm with
  | refl => exact h
  | @tail k₁ k₂ hmoves hstep ih =>
    have hread₁ := hstep.readable_of hread
    have hd₁ : k₁.Doomed id was := hd.moves hmoves hread₁ hW
    rcases hstep.spares fun _ => hread with hs | ⟨hqueue, -⟩
    swap
    · exact absurd hqueue hd₁.queue
    intro hactive
    have hmark : id ∈ k₁.cancelled := ih hread₁ (hs.active hactive)
    cases hstep with
    | cancel => exact List.mem_insert_of_mem hmark
    | @uncancel q _ _ _ releases =>
      refine List.mem_filter.mpr ⟨hmark, ?_⟩
      simp only [decide_not, Bool.not_eq_true', decide_eq_false_iff_not]
      rintro rfl
      exact hR releases
    | _ => exact hmark

theorem Fails.marks (hf : Fails stored next k k') (h : id ∈ k.cancelled) : id ∈ k'.cancelled := by
  cases hf with
  | unwritten quiet => exact quiet.cancelled ▸ h
  | torn _ record => exact record.cancelled ▸ h
  | held _ left =>
    clear * - left h
    induction left with
    | refl => exact h
    | tail _ hstep ih =>
      cases hstep with
      | cancel => exact List.mem_insert_of_mem ih
      | _ => exact ih

/-- An entry point that does not report the success of `id`. -/
theorem Kernel.Doomed.acts {op : Op} (h : k.Doomed id was) (hmark : k.Marked id)
    (hacts : Acts env op k answer k') (hread : k'.Readable id)
    (hS : ¬(op.settles k).states id .succeeded) :
    k'.Doomed id was ∧ (¬(op.settles k).releases id → k'.Marked id) := by
  refine hacts.keeps (I := fun k₁ => k₁.Doomed id was ∧ (¬(op.settles k).releases id → k₁.Marked id))
    ⟨h, fun _ => hmark⟩ (fun hm => ⟨h.moves hm hread hS, hmark.moves h hm hread hS⟩)
    (fun {k₁ k₂} hm h => ?_) (fun _ _ ha h => ?_) fun _ _ hopens hf h => ?_
  · have hread : k₂.Readable id := Moves.readable hm not_false (h.1.record.imp fun _ hr => hr.1)
    exact ⟨h.1.moves hm hread not_false, fun hrel =>
      (h.2 hrel).moves h.1 hm hread not_false not_false⟩
  · obtain ⟨k₃, hopens, -, -, hmarks⟩ := ha.cleared
    obtain ⟨r, hr, -⟩ := h.1.record
    have hs := ha.spares False (hopens.record_ne hr)
    exact ⟨h.1.spares hs not_false, fun hrel hactive => hmarks ▸ h.2 hrel (hs.active hactive)⟩
  · obtain ⟨r, hr, -⟩ := h.1.record
    have hs := hf.spares False (hopens.record_ne hr)
    exact ⟨h.1.spares hs not_false, fun hrel hactive => hf.marks (h.2 hrel (hs.active hactive))⟩

/-- A report on the operation itself takes the mark only together with the slot. -/
theorem finish_marked (state : RuntimeOperationState) (error : Option (String × String))
    (detail : Option RuntimeFailureDetail) (hf : k.Filed id) (hmark : k.Marked id) :
    Marked (respond (fun _ => .done) (finish env id state error detail) k).2 id := by
  have hapart : k.admission.activeOperationId = some id → k.admission.pendingStop ≠ some id := by
    intro hactive hstop
    obtain ⟨⟨r, hr, hkind⟩, -⟩ := hf.active hactive
    obtain ⟨r', hr', hkind'⟩ := hf.stop (.inl hstop)
    exact hkind (Option.mem_unique hr hr' ▸ hkind')
  have hfinish : Triple (Quietly k) (finish env id state error detail) _ _ :=
    finish_releases hapart
  unfold respond
  cases hm : finish env id state error detail k with
  | ok => exact fun hactive => absurd (.inl hactive) (hfinish.ok (.refl k) hm)
  | error =>
    intro hactive
    rcases hfinish.error (.refl k) hm with hidle | hq | ⟨-, hslots, hmarks⟩
    · exact absurd (.inl hactive) hidle
    · exact hq.cancelled ▸ hmark (hq.admission ▸ hactive)
    · exact hmarks ▸ hmark (hslots ▸ hactive)

/-- The commit of a marked operation does nothing. -/
theorem commitExecution_marked (hmark : k.Marked id) : Triple (· = k) (commitExecution env id)
    (fun outcome k' => k' = k ∧ outcome ≠ .committed) fun _ _ => False := by
  refine .get fun k₁ => .ite (fun _ => .pure ?_) fun hactive =>
    .ite (fun _ => .pure ?_) fun hunmarked => ?_
  · rintro _ ⟨rfl, rfl⟩
    exact ⟨rfl, by decide⟩
  · rintro _ ⟨rfl, rfl⟩
    exact ⟨rfl, by decide⟩
  · rintro _ ⟨rfl, rfl⟩
    exact absurd (hmark (not_not.mp hactive)) hunmarked

theorem commitExecution_answer (hmark : k.Marked id) :
    (respond .barrier (commitExecution env id) k).2 = k ∧
      (respond .barrier (commitExecution env id) k).1 ≠ .barrier .committed := by
  unfold respond
  cases hm : commitExecution env id k with
  | ok =>
    obtain ⟨hk, hne⟩ := (commitExecution_marked hmark).ok rfl hm
    exact ⟨hk, fun h => hne (Answer.barrier.inj h)⟩
  | error => exact ((commitExecution_marked hmark).error rfl hm).elim

end Doomed

section Runs

variable {tr tr' : List (OwnerInput × Answer)} {s s' t : Kernel}

/-- No recovery sets the record of `id` aside. -/
def KeepsRecord (env : KernelEnv) (id : String) (k : Kernel) (input : OwnerInput) : Prop :=
  ¬SetsAside env id k input

/-- Besides, no executor reports the success of `id` by itself. -/
def KeepsCancelled (env : KernelEnv) (id : String) (k : Kernel) (input : OwnerInput) : Prop :=
  KeepsRecord env id k input ∧
    ∀ error detail faults, input ≠ .call ⟨.finish id .succeeded error detail, faults⟩

theorem Moves.readable_calm (hm : Moves W k k') (hcalm : k.Calm) (h : k.Readable id) :
    k'.Readable id := by
  induction hm with
  | refl => exact h
  | tail hmoves hstep ih =>
    exact ih.move (List.suffix_nil.mp (hcalm ▸ Moves.script hmoves)) hstep

theorem Acts.keeps_readable {op : Op} (hacts : Acts env op k answer k') (h : k.Readable id)
    (hok : op = .recover → k.disk.script ≠ [] → k'.Readable id) : k'.Readable id := by
  refine hacts.keeps h (fun hm => ?_) (fun hm => Moves.readable hm not_false)
    (fun _ _ ha => ha.readable) fun _ _ hopens hf hread => ?_
  · by_cases hop : op = .recover
    · by_cases hcalm : k.Calm
      · exact Moves.readable_calm hm hcalm h
      · exact hok hop hcalm
    · refine Moves.readable hm (fun hW => ?_) h
      cases op with
      | recover => exact hop rfl
      | _ => exact hW
  · obtain ⟨r, hr⟩ := hread
    obtain ⟨r', hr', -⟩ := (hf.spares False (hopens.record_ne hr)).record r hr
    exact ⟨r', hr'⟩

theorem exec_readable {step : Step} (hok : KeepsRecord env id k (.call step))
    (h : k.Readable id) : ((kernelMachine env).exec k step).2.Readable id := by
  have hacts : Acts env step.op (k.withFaults step.faults) _ _ := step.op.run_acts
  refine hacts.keeps_readable h fun hop hfaults => ?_
  obtain ⟨op, faults⟩ := step
  obtain rfl : op = .recover := hop
  cases hr : ((kernelMachine env).exec k ⟨.recover, faults⟩).2.record? id with
  | some r => exact ⟨r, hr⟩
  | none => exact absurd ⟨h, ⟨faults, rfl, hfaults⟩, hr⟩ hok

theorem spares_withFaults (faults : List Fault) : k.Spares False (k.withFaults faults) id :=
  .of_same rfl rfl

variable {input : OwnerInput}

theorem Kernel.Filed.exec (h : k.Filed id) (hok : KeepsRecord env id k input) :
    ((ownerMachine env).exec k input).2.Filed id := by
  cases input with
  | restart identity => exact filed_new _ identity
  | orchestration q stage service eventName payload faults =>
    obtain ⟨k', hq, hk'⟩ := orchestration_quietly env k q stage service eventName payload faults
    rw [hk']
    exact h.spares (((spares_withFaults faults).trans hq.spares).trans (spares_withFaults []))
  | call step =>
    have hacts : Acts env step.op (k.withFaults step.faults) _ _ := step.op.run_acts
    exact ((h.spares (spares_withFaults step.faults)).acts hacts (exec_readable hok)).spares
      (spares_withFaults [])

/-- The ways in which an entry point reports a success are barred for a cancelled operation. -/
theorem Kernel.Doomed.not_reported {op : Op} (h : k.Doomed id was) (hf : k.Filed id)
    (hmark : k.Marked id) (hok : KeepsCancelled env id k (.call ⟨op, faults⟩)) :
    ¬(op.settles (k.withFaults faults)).states id .succeeded := by
  intro hS
  cases op with
  | finish q state error detail =>
    obtain ⟨rfl, rfl⟩ : id = q ∧ .succeeded = state := hS
    exact hok.2 error detail faults rfl
  | commitExecution q =>
    obtain ⟨rfl, -, hactive, hunmarked⟩ : id = q ∧ _ ∧ _ ∧ q ∉ k.cancelled := hS
    exact hunmarked (hmark hactive)
  | prepareRelaunch =>
    rcases hS with hS | ⟨-, hstop⟩
    · cases hS
    · obtain ⟨r, hr, hkind, -⟩ := h.record
      obtain ⟨r', hr', hstop⟩ := hf.stop (.inr hstop)
      exact hkind (Option.mem_unique hr hr' ▸ hstop)
  | _ => exact hS

/-- What a further input does to a cancelled operation. -/
theorem Kernel.Doomed.exec (h : k.Doomed id was) (hf : k.Filed id) (hmark : k.Marked id)
    (hok : KeepsCancelled env id k input) :
    ((ownerMachine env).exec k input).2.Doomed id was ∧
      ((ownerMachine env).exec k input).2.Marked id := by
  cases input with
  | restart => exact ⟨⟨h.record, by rintro ⟨⟩⟩, by rintro ⟨⟩⟩
  | orchestration q stage service eventName payload faults =>
    obtain ⟨k', hq, hk'⟩ := orchestration_quietly env k q stage service eventName payload faults
    rw [hk']
    refine ⟨h.spares (((spares_withFaults faults).trans hq.spares).trans (spares_withFaults []))
      not_false, fun hactive => ?_⟩
    have hmarks : k'.cancelled = k.cancelled := hq.cancelled
    have hslots : k'.admission = k.admission := hq.admission
    exact hmarks ▸ hmark (hslots ▸ hactive)
  | call step =>
    obtain ⟨op, faults⟩ := step
    have hread := exec_readable hok.1 (h.record.imp fun _ hr => hr.1)
    have h₁ : (k.withFaults faults).Doomed id was := h.spares (spares_withFaults faults) not_false
    have hacts : Acts env op (k.withFaults faults) _ _ := op.run_acts
    obtain ⟨h₂, hmark₂⟩ := h₁.acts hmark hacts hread (h.not_reported hf hmark hok)
    refine ⟨h₂.spares (spares_withFaults []) not_false, ?_⟩
    have hf₁ : (k.withFaults faults).Filed id := hf.spares (spares_withFaults faults)
    cases op with
    | finish q state error detail =>
      by_cases hq : id = q
      · subst hq
        exact finish_marked state error detail hf₁ hmark
      · exact hmark₂ hq
    | commitExecution q =>
      by_cases hq : id = q
      · subst hq
        have hsame : (respond .barrier (Runtime.commitExecution env id) (k.withFaults faults)).2 =
            k.withFaults faults := (commitExecution_answer (k := k.withFaults faults) hmark).1
        have hkept : Marked (respond .barrier (Runtime.commitExecution env id)
            (k.withFaults faults)).2 id := hsame.symm ▸ hmark
        exact hkept
      · exact hmark₂ hq
    | _ => exact hmark₂ not_false

/-- What holds of the operation once its cancellation is confirmed. -/
theorem cancelled_of_confirmed (hf : s.Filed id)
    (hcancel : (ownerMachine env).exec s (.call ⟨.requestCancel id, faults⟩) = (.flag true, s')) :
    s'.Filed id ∧
      s'.Doomed id (∃ r, s.record? id = some r ∧ r.view.state = .succeeded) ∧ s'.Marked id := by
  have hrule : Triple (· = s.withFaults faults) (requestCancel env id) _ _ :=
    requestCancel_rule (W := .none)
  have hanswer : (respond .flag (requestCancel env id) (s.withFaults faults)).1 = .flag true :=
    congrArg Prod.fst hcancel
  have hstate : (respond .flag (requestCancel env id) (s.withFaults faults)).2.withFaults [] = s' :=
    congrArg Prod.snd hcancel
  subst hstate
  cases hm : requestCancel env id (s.withFaults faults) with
  | error =>
    rw [respond, hm] at hanswer
    cases hanswer
  | ok b k₁ =>
    rw [respond, hm] at hanswer ⊢
    have hb : b = true := Answer.flag.inj hanswer
    obtain ⟨⟨hactive, hslots, hrecord⟩, hmark⟩ := (hrule.ok rfl hm).2 hb
    have hspares : s.Spares False (k₁.withFaults []) id := .of_same hslots hrecord
    obtain ⟨⟨r, hr, hkind⟩, hqueue⟩ := hf.active hactive
    exact ⟨hf.spares hspares, ⟨⟨r, hrecord.trans hr, hkind, fun hs => ⟨r, hr, hs⟩⟩,
      fun h => hqueue (hspares.queue h)⟩, fun _ => hmark⟩

/-- A confirmed cancellation is durable. In every continuation in which no recovery sets the
record aside and no executor reports the success by itself, the commit is refused and the record
does not become a success. -/
theorem cancellation_durable {store : RuntimeStore} {identity : RuntimeIdentityView}
    {faults : List Fault}
    (hbefore : (ownerMachine env).Run (KeepsRecord env id) (Kernel.new store identity) tr s)
    (hcancel : (ownerMachine env).exec s (.call ⟨.requestCancel id, faults⟩) = (.flag true, s'))
    (hafter : (ownerMachine env).Run (KeepsCancelled env id) s' tr' t) :
    (∀ faults, (.call ⟨.commitExecution id, faults⟩, .barrier .committed) ∉ tr') ∧
      ∀ r, t.record? id = some r → r.view.state = .succeeded →
        ∃ r₀, s.record? id = some r₀ ∧ r₀.view.state = .succeeded := by
  have hfiled : s.Filed id := hbefore.invariant (I := fun k => k.Filed id)
    (filed_new store identity) fun _ _ hok h => h.exec hok
  obtain ⟨hfiled', hdoomed, hmark⟩ := cancelled_of_confirmed hfiled hcancel
  have hinv := hafter.trace_invariant (I := fun tr t => (t.Filed id ∧
        t.Doomed id (∃ r, s.record? id = some r ∧ r.view.state = .succeeded) ∧ t.Marked id) ∧
      ∀ faults, (.call ⟨.commitExecution id, faults⟩, .barrier .committed) ∉ tr)
    ⟨⟨hfiled', hdoomed, hmark⟩, fun _ => List.not_mem_nil⟩ ?_
  · obtain ⟨⟨-, hd, -⟩, htrace⟩ := hinv
    refine ⟨htrace, fun r hr hstate => ?_⟩
    obtain ⟨r', hr', -, hwas⟩ := hd.record
    exact hwas (Option.mem_unique hr hr' ▸ hstate)
  · rintro tr t input hok ⟨⟨hf, hd, hm⟩, htrace⟩
    refine ⟨⟨hf.exec hok.1, hd.exec hf hm hok⟩, fun faults hmem => ?_⟩
    rcases List.mem_append.mp hmem with hmem | hmem
    · exact htrace faults hmem
    · obtain ⟨rfl, hanswer⟩ := Prod.mk.inj (List.mem_singleton.mp hmem)
      exact (commitExecution_answer (k := t.withFaults faults) hm).2 hanswer.symm

/-- A recovery on a sound disk sets nothing aside that it can read. -/
theorem keepsRecord_of_calm (h : ∀ faults, input = .call ⟨.recover, faults⟩ → faults = []) :
    KeepsRecord env id k input := by
  rintro ⟨-, ⟨faults, heq, hfaults⟩, -⟩
  exact hfaults (h faults heq)

namespace Sample

/-- One start, in execution. -/
def startInputs : List OwnerInput := [.call (calm .recover), .call (calm (source "a" .start 0))]

def running : Kernel := (ownerMachine owner).after (Kernel.new store identity) startInputs

def requestedCancel : Kernel :=
  ((ownerMachine owner).exec running (.call ⟨.requestCancel "a", []⟩)).2

/-- The executor tries to commit; then the owner is replaced and the next one recovers. -/
def cancelledInputs : List OwnerInput :=
  [.call (calm (.commitExecution "a")), .restart identity, .call (calm .recover),
    .call (calm .settleUnresolvedRecoveries)]

end Sample

open Sample

theorem cancellation_durable_restarted :
    (∀ faults, (.call ⟨.commitExecution "a", faults⟩, .barrier .committed) ∉
        (ownerMachine owner).trace requestedCancel cancelledInputs) ∧
      ∀ r, ((ownerMachine owner).after requestedCancel cancelledInputs).record? "a" = some r →
        r.view.state = .succeeded →
        ∃ r₀, running.record? "a" = some r₀ ∧ r₀.view.state = .succeeded := by
  have hcancel : (ownerMachine owner).exec running (.call ⟨.requestCancel "a", []⟩) =
      (.flag true, requestedCancel) := Prod.ext (by decide +kernel) rfl
  refine cancellation_durable (.of_follows (follows_of_forall fun _ i hi => ?_))
    hcancel (.of_follows (follows_of_forall fun _ i hi => ⟨?_, ?_⟩))
  · refine keepsRecord_of_calm fun faults heq => ?_
    subst heq
    simpa [startInputs, calm, source] using hi
  · refine keepsRecord_of_calm fun faults heq => ?_
    subst heq
    simpa [cancelledInputs, calm] using hi
  · rintro error detail faults rfl
    simp [cancelledInputs, calm] at hi

/-- An executor that reports a success by itself is believed, cancelled or not. -/
theorem cancelled_reportedSucceeded :
    ((ownerMachine owner).exec running (.call ⟨.requestCancel "a", []⟩)).1 = .flag true ∧
      (running.record? "a").map (·.view.state) = some .accepted ∧
      (((ownerMachine owner).after requestedCancel
        [.call (calm (.finish "a" .succeeded none none))]).record? "a").map (·.view.state) =
        some .succeeded := by
  decide +kernel

end Runs

end Rcoder.Runtime
