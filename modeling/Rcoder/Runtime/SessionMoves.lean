import Rcoder.Runtime.EntryMoves

/-!
# Execution, hand-over and recovery as sequences of moves
-/

namespace Rcoder.Runtime

open Effect Kernel

variable {ε α : Type} {W : Settles} {P : Kernel → Prop}
  {env : KernelEnv} {id : String} {k k₀ k' : Kernel} {op r : StoredOperation}

theorem Disk.steady_operations (ops : AList OperationFile) :
    Disk.Steady fun d => d.store.operations = ops := by
  intro d d' hq hd
  rw [← hd, hq.1]

variable {D : Disk → Prop}

theorem Disk.Steady.and {D' : Disk → Prop} (h : Disk.Steady D) (h' : Disk.Steady D') :
    Disk.Steady fun d => D d ∧ D' d :=
  fun d d' hq hd => ⟨h d d' hq hd.1, h' d d' hq hd.2⟩

/-- A scan that answers `false` has read every listed file and found no open outcome. -/
theorem scanUnresolved_rule (hD : Disk.Steady D) (ops : AList OperationFile)
    (live ids : List String) :
    Triple (fun d => D d ∧ d.store.operations = ops) (scanUnresolved live ids)
      (fun b d => (D d ∧ d.store.operations = ops) ∧ (b = false → ∀ id ∈ ids, ∀ f,
        ops.lookup id = some (.ok f) → id ∈ live ∨ f.1.view.state.isTerminal = true))
      fun _ d => D d ∧ d.store.operations = ops := by
  have hst := hD.and (Disk.steady_operations ops)
  induction ids with
  | nil => exact .pure fun d h => ⟨h, by simp⟩
  | cons id ids ih =>
    refine .bind ((access_rule hst).fails fun _ _ h => h.1) fun _ => ?_
    refine .bind ((access_rule hst).fails fun _ _ h => h.1) fun _ => ?_
    refine .get fun d₁ => ?_
    cases hl : d₁.store.operations.lookup id with
    | none => exact .throw fun d h => h.1 ▸ h.2
    | some file =>
      cases file with
      | error => exact .throw fun d h => h.1 ▸ h.2
      | ok f =>
        have rest (hf : id ∈ live ∨ f.1.view.state.isTerminal = true) :
            Triple (fun d => d = d₁ ∧ D d₁ ∧ d₁.store.operations = ops) (scanUnresolved live ids)
            (fun b d => (D d ∧ d.store.operations = ops) ∧ (b = false → ∀ id' ∈ id :: ids, ∀ f,
              ops.lookup id' = some (.ok f) → id' ∈ live ∨ f.1.view.state.isTerminal = true))
            fun _ d => D d ∧ d.store.operations = ops := by
          intro d hd
          obtain ⟨rfl, hd⟩ := hd
          refine (ih.post (fun b d' h => ⟨h.1, fun hb id' hid' f' hf' => ?_⟩) fun _ _ h => h) d hd
          rcases List.mem_cons.mp hid' with rfl | hid'
          · rw [← hd.2, hl] at hf'
            cases hf'
            exact hf
          · exact h.2 hb id' hid' f' hf'
        refine .ite (fun hlive => rest (.inl (f.2 ▸ hlive))) fun _ => ?_
        refine .ite (fun hterm => rest (.inr hterm)) fun _ => ?_
        exact .pure fun d h => ⟨h.1 ▸ h.2, by simp⟩

theorem scanOperations_rule (hP : Steady P) (live : List String) :
    Triple P (onDisk (scanOperations live))
      (fun b k => P k ∧ (b = false → ∀ id, k.Unknown id → id ∈ live)) fun _ => P := by
  refine onDisk_rule fun k => ?_
  refine .bind ((access_rule (hP.disk k)).fails fun _ _ h => h.1) fun _ => ?_
  refine .get fun d₁ => ?_
  refine (scanUnresolved_rule (hP.disk k) d₁.store.operations live _).imp ?_ ?_ ?_
  · rintro _ ⟨rfl, hd⟩
    exact ⟨hd, rfl⟩
  · rintro b d ⟨⟨hd, hops⟩, hb⟩
    refine ⟨hd, ?_⟩
    rintro rfl id ⟨r, hr, hterm⟩
    have hmem : id ∈ d₁.store.operations.keys :=
      AList.mem_keys.mp (hops ▸ RuntimeStore.record?_mem hr)
    obtain ⟨f, hf, rfl⟩ := RuntimeStore.record?_eq_some.mp hr
    exact (hb rfl id hmem f (hops ▸ hf)).resolve_right (by simp [hterm])
  · exact fun _ _ h => h.1

variable {E : ε → Kernel → Prop}

/-- The protection is dropped only where every open outcome is live. -/
theorem refresh_rule (hP : Steady P) :
    Triple P refreshRecoveryProtection
      (fun _ k => ∃ k₁ b, P k₁ ∧ (b = false → ∀ id, k₁.Unknown id → id ∈ k₁.live) ∧
        k = k₁.withAdmission { k₁.admission with recoveryProtection := b }) E := by
  refine .get fun k₁ => ?_
  have hst : Steady fun k => P k ∧ k.admission = k₁.admission :=
    hP.and (steady_admission (R := (· = k₁.admission)))
  refine .bind (R := fun found k => (P k ∧ k.admission = k₁.admission) ∧
      (found = .ok false → ∀ id, k.Unknown id → id ∈ k₁.live))
    (.attempt ((scanOperations_rule hst k₁.live).imp ?_ ?_ ?_)) fun found => ?_
  · rintro _ ⟨rfl, hk⟩
    exact ⟨hk, rfl⟩
  · exact fun b k h => ⟨h.1, fun hb => h.2 (Except.ok.inj hb)⟩
  · exact fun e k h => ⟨h, fun hb => by cases hb⟩
  cases found with
  | error => exact protect_rule fun k h => ⟨k, true, h.1.1, by simp, rfl⟩
  | ok b =>
    refine modifyAdmission_rule fun k h => ⟨k, b, h.1.1, ?_, rfl⟩
    rintro rfl id hu
    have := h.2 rfl id hu
    rwa [Kernel.live, h.1.2]

theorem refresh_moves : Triple (Moves W k₀) refreshRecoveryProtection (fun _ => Moves W k₀) E := by
  refine (refresh_rule steady_moves).post ?_ fun _ _ h => h
  rintro _ k ⟨k₁, b, hk₁, hb, rfl⟩
  exact hk₁.tail (.assess hb)

theorem steady_revision {revision : Nat} : Steady fun k => k.revision = revision := by
  intro k d hq hk
  have hs : d.store.revision = k.disk.store.revision := by
    rw [hq.1]
    rfl
  exact hs.trans hk

/-- The active operation passes the barrier unless it is cancelled or its revision is stale, and
then ends as succeeded. -/
theorem commitExecution_rule (hP : Steady P) {Q : CommitBarrierOutcome → Kernel → Prop}
    {E : Anyhow → Kernel → Prop} (hstay : ∀ outcome k, P k → outcome ≠ .committed →
      (k₀.admission.activeOperationId ≠ some id ∨ id ∈ k₀.cancelled ∨
        ∃ r, k.record? id = some r ∧ k.revision ≠ r.view.revision) → Q outcome k)
    (hfails : ∀ e k, P k → Torn P k ∨ k.record? id = none → E e k)
    (hpass : ∀ r, k₀.admission.activeOperationId = some id → id ∉ k₀.cancelled →
      Triple (fun k => P k ∧ k.record? id = some r ∧ k.revision = r.view.revision)
        (writeTerminalLocked env id .succeeded) (fun _ => Q .committed) E) :
    Triple (fun k => k = k₀ ∧ P k) (commitExecution env id) Q E := by
  refine .read ?_
  rintro k₁ ⟨rfl, -⟩
  refine .ite (fun hidle => .pure fun k h => ?_) fun hactive => ?_
  · exact hstay _ k (h.1 ▸ h.2.2) (by decide) (.inl hidle)
  refine .ite (fun hmarked => .pure fun k h => ?_) fun hmark => ?_
  · exact hstay _ k (h.1 ▸ h.2.2) (by decide) (.inr (.inl hmarked))
  refine .bind (R := fun current k => P k ∧ k.revision = current.2)
    ((loadDesired_kernel hP).imp (fun k h => h.1 ▸ h.2.2) ?_
      fun e k h => hfails e k h.1 (.inl h.2)) fun current => ?_
  · rintro current k ⟨h, rfl⟩
    exact ⟨h, rfl⟩
  refine .bind (R := fun loaded k => (P k ∧ k.revision = current.2) ∧ loaded = k.record? id)
    ((loadOperation_kernel (hP.and steady_revision)).post (fun _ _ h => ⟨h.1, h.2.1⟩)
      fun e k h => hfails e k h.1.1 (h.2.imp_left (.imp fun _ ht => ⟨ht.1.1, ht.2⟩)))
    fun loaded => ?_
  refine .bind (R := fun r k => (P k ∧ k.revision = current.2) ∧ k.record? id = some r)
    (.require (fun _ _ hr h => ⟨h.1, h.2.symm.trans hr⟩)
      fun k hn h => hfails _ k h.1.1 (.inr (h.2.symm.trans hn))) fun r => ?_
  refine .ite (fun hstale => .pure fun k h => ?_) fun hsame => ?_
  · exact hstay _ k h.1.1 (by decide) (.inr (.inr ⟨r, h.2, h.1.2 ▸ hstale⟩))
  exact .bind ((hpass r (not_not.mp hactive) hmark).pre
    fun k h => ⟨h.1.1, h.2, h.1.2.trans (not_not.mp hsame)⟩) fun _ => .pure fun _ h => h

theorem commitExecution_moves (hW : W.records id none)
    (hS : k₀.admission.activeOperationId = some id → id ∉ k₀.cancelled → W.states id .succeeded)
    (hR : W.releases id) (hqueue : EndsUnknown k₀ id .succeeded → W.queue) :
    Triple (Quietly k₀) (commitExecution env id) (fun _ => Moves W k₀) fun _ => Moves W k₀ := by
  intro k hk
  refine commitExecution_rule steady_quietly (fun _ _ h _ _ => moves_quietly .refl h)
    (fun _ _ h _ => moves_quietly .refl h) (fun _ hactive hmark => ?_) k ⟨rfl, hk⟩
  rw [hk.admission] at hactive
  rw [hk.cancelled] at hmark
  exact (writeTerminalLocked_moves hW (hS hactive hmark) hR hqueue).pre fun _ h => h.1

/-- The slots and the records, as a confirmed cancellation finds and leaves them. -/
def Confirms (id : String) (k k' : Kernel) : Prop :=
  k.admission.activeOperationId = some id ∧ k'.admission = k.admission ∧
    k'.record? id = k.record? id

theorem requestCancel_rule : Triple (· = k₀) (requestCancel env id)
    (fun b k => Moves W k₀ k ∧ (b = true → Confirms id k₀ k ∧ id ∈ k.cancelled))
    fun _ => Moves W k₀ := by
  refine .read ?_
  rintro k₁ rfl
  refine .ite (fun _ => .pure ?_) fun hactive => ?_
  · rintro _ ⟨rfl, -⟩
    exact ⟨.refl, fun h => by cases h⟩
  refine .bind (R := fun loaded k => Quietly k₁ k ∧ loaded = k.record? id)
    ((loadOperation_kernel steady_quietly).imp (fun _ h => h.1 ▸ Quietly.refl _)
      (fun _ _ h => ⟨h.1, h.2.1⟩) fun _ _ h => moves_quietly .refl h.1) fun loaded => ?_
  refine .bind (R := fun r k => Quietly k₁ k ∧ k.record? id = some r)
    (.require (fun _ _ hr h => ⟨h.1, h.2.symm.trans hr⟩)
      fun _ _ h => moves_quietly .refl h.1) fun operation => ?_
  have confirms {k : Kernel} (hq : Quietly k₁ k) : Confirms id k₁ k :=
    ⟨not_not.mp hactive, hq.admission, hq.record?⟩
  refine .bind (R := fun _ k => (Moves W k₁ k ∧ k.Readable id) ∧ Confirms id k₁ k)
    (.attempt ((storeCancellation_kernel (steady_quietly.and steady_record)).post ?_ ?_))
    fun stored => ?_
  · rintro _ _ ⟨k, ⟨hq, hr⟩, rfl⟩
    have hid := RuntimeStore.record?_id hr
    exact ⟨⟨(moves_quietly .refl hq).tail (.receipt (by rw [hid]; exact hr)), operation, hr⟩,
      (confirms hq :)⟩
  · exact fun _ k h => ⟨⟨moves_quietly .refl h.1.1, operation, h.1.2⟩, confirms h.1.1⟩
  cases stored with
  | error =>
    exact .bind (R := fun _ => Moves W k₁) (.modify fun k h => h.1.1.tail
      (.cancel h.1.2)) fun _ => .bind
      (protect_rule fun k h => h.tail .protect) fun _ => .throw fun k h => h
  | ok =>
    refine .bind (R := fun _ k => Moves W k₁ k ∧ Confirms id k₁ k ∧ id ∈ k.cancelled)
      (.modify fun k h => ⟨h.1.1.tail (.cancel h.1.2), h.2, List.mem_insert_self⟩) fun _ => ?_
    refine .bind (R := fun _ k => Moves W k₁ k ∧ Confirms id k₁ k ∧ id ∈ k.cancelled)
      (.onlyIf (fun _ => .modify fun k h => ⟨h.1.tail .cancelSource, h.2⟩)
        fun _ _ h => h) fun _ => .pure fun k h => ⟨h.1, fun _ => h.2⟩

theorem markExecutionConsumed_moves : Keeps (Moves W k₀) (markExecutionConsumed env id) := by
  refine Triple.get fun k₁ => ?_
  refine Triple.ite (fun _ => Triple.pure fun k h => h.1 ▸ h.2) fun hslot => ?_
  have hst : Steady fun k => Moves W k₀ k ∧ k.admission = k₁.admission :=
    steady_moves.and (steady_admission (R := (· = k₁.admission)))
  refine Triple.bind
    ((loadOperation_kernel hst).imp ?_ (fun _ _ h => h.1) fun _ _ h => h.1.1) fun loaded => ?_
  · rintro _ ⟨rfl, hk⟩
    exact ⟨hk, rfl⟩
  refine Triple.bind (.require (fun _ k _ h => h) fun k _ h => h.1) fun stored => ?_
  refine .ite (fun _ => .pure fun k h => h.1) fun _ => ?_
  refine .bind (R := fun _ k => Moves W k₀ k ∧ k.admission = k₁.admission)
    (.ensure (fun k _ h => h) fun k _ h => h.1) fun _ => ?_
  refine .bind (modifyAdmission_rule ?_) fun _ =>
    .pure fun k h => h
  rintro k ⟨hm, ha⟩
  refine hm.tail (.consume ?_)
  rw [ha]
  tauto

theorem noteExecutionSessionEnded_moves (reached : Bool) :
    Keeps (Moves W k₀) (noteExecutionSessionEnded reached) := by
  refine Triple.get fun k₁ => ?_
  refine Triple.ite (fun _ => Triple.pure fun k h => h.1 ▸ h.2) fun _ => ?_
  refine modifyAdmission_rule ?_
  rintro _ ⟨rfl, hk⟩
  exact hk.tail .endSession

theorem ensureStoppedIfIdle_moves : Keeps (Moves W k₀) (ensureStoppedIfIdle env) := by
  refine Triple.get fun k₁ => ?_
  refine Triple.ite (fun _ => Triple.pure fun k h => h.1 ▸ h.2) fun hidle => ?_
  have hst : Steady fun k => Moves W k₀ k ∧ k.admission = k₁.admission :=
    steady_moves.and (steady_admission (R := (· = k₁.admission)))
  refine Triple.bind ((loadDesired_kernel hst).imp ?_ (fun _ _ h => h) fun _ _ h => h.1.1)
    fun current => ?_
  · rintro _ ⟨rfl, hk⟩
    exact ⟨hk, rfl⟩
  obtain ⟨desired, revision⟩ := current
  refine Triple.ite (fun _ => .pure fun k h => h.1.1) fun hrunning => ?_
  have hst' : Steady fun k => (Moves W k₀ k ∧ k.admission = k₁.admission) ∧
      (desired, revision) = k.disk.store.currentDesired := by
    intro k d hq hk
    refine ⟨hst k d hq hk.1, hk.2.trans ?_⟩
    rw [hq.1]
    rfl
  refine .bind (R := fun next k => ((Moves W k₀ k ∧ k.admission = k₁.admission) ∧
      (desired, revision) = k.disk.store.currentDesired) ∧ checkedSucc revision = some next)
    (.require (fun next k hn h => ⟨h, hn⟩) fun k _ h => h.1.1) fun next => ?_
  refine .bind ?_ fun _ => .pure fun k h => h
  have hst'' := hst'.and (steady_admission (R := fun _ => checkedSucc revision = some next))
  refine (storeDesired_kernel hst'' .stopped next).post ?_ fun _ _ h => h.1.1.1.1
  rintro _ _ ⟨k₂, ⟨⟨⟨hm, ha⟩, hcur⟩, hnext⟩, rfl⟩
  refine hm.tail (.stopIntent ?_ ?_ ?_)
  · rw [Kernel.revision, RuntimeStore.revision, ← hcur]
    exact hnext
  · rw [ha]
    simp only [not_or, Option.not_isSome_iff_eq_none] at hidle
    simp [AdmissionState.slotsEmpty, hidle.1, hidle.2.1, hidle.2.2.1]
  · rw [← hcur]
    cases desired with
    | running => rfl
    | stopped => exact absurd rfl hrunning

theorem dispatchPendingAfterQuiescence_moves :
    Keeps (Moves W k₀) (dispatchPendingAfterQuiescence env) := by
  refine Triple.get fun k₁ => ?_
  refine Triple.ite (fun _ => Triple.pure fun k h => h.1 ▸ h.2) fun hidle => ?_
  refine Triple.bind (promoteQueued_moves.pre ?_) fun _ => Triple.pure fun k h => h
  rintro _ ⟨rfl, h⟩
  simp only [not_or, Option.not_isSome_iff_eq_none] at hidle
  exact ⟨h, hidle.1⟩

end Rcoder.Runtime
