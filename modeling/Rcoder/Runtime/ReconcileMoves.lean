import Rcoder.Runtime.RecoveryMoves

/-!
# Startup reconciliation as a sequence of moves
-/

namespace Rcoder.Runtime

open Effect Kernel

variable {W : Settles} {P : Kernel → Prop} {env : KernelEnv}
  {id : String} {k k₀ k' : Kernel} {op r : StoredOperation}

section Settle

@[simp]
theorem interruptedRecord_id : (interruptedRecord r).view.operationId = r.view.operationId := by
  unfold interruptedRecord
  split_ifs <;> rfl

theorem interruptedRecord_state : (interruptedRecord r).view.state = .failed := by
  unfold interruptedRecord
  split_ifs <;> rfl

/-- What the settlement of a previous owner's records does; no occupied slot is touched. -/
inductive SettleMove : Kernel → Kernel → Prop
  | quiet {k : Kernel} {d : Disk} (disk : Quiet k.disk d) : SettleMove k { k with disk := d }
  | succeed {k : Kernel} {r : StoredOperation} (record : k.record? r.view.operationId = some r)
      (previous : k.admission.mayResolve r = true) (unsettled : ¬r.view.state.Settled)
      (stop : r.view.kind = .stop) : SettleMove k (k.publish (r.settle .succeeded none none))
  | resolve {k : Kernel} {r : StoredOperation} (record : k.record? r.view.operationId = some r)
      (previous : k.admission.mayResolve r = true) : SettleMove k (k.publish (interruptedRecord r))
  | cancel {k : Kernel} {id : String} (file : k.Readable id) :
      SettleMove k { k with cancelled := k.cancelled.insert id }
  | forget {k : Kernel} {id : String} :
      SettleMove k (k.withAdmission { k.admission with
        recoveredOperations := k.admission.recoveredOperations.filter (· ≠ id) })
  | assess {k : Kernel} {protection : Bool}
      (sound : protection = false → ∀ id, k.Unknown id → id ∈ k.live) :
      SettleMove k (k.withAdmission { k.admission with recoveryProtection := protection })

abbrev SettleMoves : Kernel → Kernel → Prop := Relation.ReflTransGen SettleMove

theorem SettleMove.move (hW : W.revives) (h : SettleMove k k') : Move W k k' := by
  cases h with
  | quiet disk => exact .quiet disk
  | succeed record previous unsettled stop => exact .complete record previous unsettled stop
  | resolve record previous => exact .resolve record previous hW
  | cancel file => exact .cancel file
  | forget => exact .forget
  | assess sound => exact .assess sound

theorem SettleMoves.lift (hW : W.revives) (h : SettleMoves k k') : Moves W k k' :=
  Relation.ReflTransGen.mono (fun _ _ => SettleMove.move hW) _ _ h

theorem SettleMoves.moves (h : SettleMoves k k') : Moves .nothing k k' := h.lift trivial

theorem steady_settleMoves : Steady (SettleMoves k₀) :=
  fun _ _ hq h => h.tail (.quiet hq)

/-- A record of a previous owner that startup may settle. -/
def Resolvable (k₀ : Kernel) (op : StoredOperation) (k : Kernel) : Prop :=
  SettleMoves k₀ k ∧ k.record? op.view.operationId = some op ∧ k.admission.mayResolve op = true

theorem Resolvable.steady : Steady (Resolvable k₀ op) :=
  steady_settleMoves.and (steady_record.and (steady_admission (R := (·.mayResolve op = true))))

theorem succeed_rule (hstop : op.view.kind = .stop) : Triple (Resolvable k₀ op)
    (writeTerminal env op.view.operationId .succeeded none none) (fun _ => SettleMoves k₀)
    fun _ => SettleMoves k₀ := by
  have settled {k₁ k : Kernel} {r : StoredOperation} (h : Resolvable k₀ op k₁)
      (hr : k₁.record? op.view.operationId = some r) (hu : ¬r.view.state.Settled)
      (hq : Quietly (k₁.publish (r.settle .succeeded none none)) k) : SettleMoves k₀ k := by
    obtain rfl : op = r := Option.mem_unique h.2.1 hr
    exact steady_settleMoves.quietly hq (h.1.tail (.succeed hr h.2.2 hu hstop))
  refine (writeTerminal_rule .steady).post ?_ ?_
  · rintro _ k (h | ⟨k₁, r, hk₁, hr, hu, -, rfl, hq⟩)
    · exact h.1.1
    · exact settled hk₁ hr hu hq
  · rintro _ k (h | ⟨k₁, r, hk₁, -, hr, hu, -, hq⟩)
    · exact h.1.1
    · exact settled hk₁ hr hu hq

theorem resolve_rule :
    Triple (Resolvable k₀ op) (settleEntry.resolve env op) (fun _ => SettleMoves k₀)
      fun _ => SettleMoves k₀ := by
  refine .bind (R := fun _ => Resolvable k₀ op)
    (.attempt (cancellationRecorded_kernel .steady)) fun recorded => ?_
  refine .ite (fun hstop => ?_) fun _ => ?_
  · exact .bind (succeed_rule hstop) fun _ => .pure fun _ h => h
  have published {k : Kernel} (h : Resolvable k₀ op k) :
      SettleMoves k₀ (k.publish (interruptedRecord op)) := h.1.tail (.resolve h.2.1 h.2.2)
  refine .bind (R := fun _ k => SettleMoves k₀ k ∧ k.Readable op.view.operationId)
    ((storeOperation_kernel .steady).post ?_ ?_) fun _ => ?_
  · rintro _ _ ⟨k, hk, rfl⟩
    have hrecord : (k.publish (interruptedRecord op)).record? _ = _ := record?_publish_self
    exact ⟨published hk, interruptedRecord op, by simpa using hrecord⟩
  · rintro _ k (h | ⟨k', hk', -, hq⟩)
    · exact h.1.1
    · exact steady_settleMoves.quietly hq (published hk')
  refine .bind (.onlyIf (fun _ => ?_) fun _ _ h => h.1)
    fun _ => emitTerminalRecord_rule steady_settleMoves
  exact .modify fun k h => h.1.tail (.cancel h.2)

theorem settleEntry_rule : Keeps (SettleMoves k₀) (settleEntry env id) := by
  refine .bind ((access_kernel steady_settleMoves).fails fun _ _ h => h.1) fun _ => ?_
  refine Triple.bind (R := fun _ => SettleMoves k₀) (Triple.attempt
    ((access_kernel steady_settleMoves).fails fun _ _ h => h.1)) fun read => ?_
  cases read with
  | error => exact .throw fun _ h => h
  | ok =>
    refine .get fun k₁ => ?_
    cases hl : k₁.disk.store.operations.lookup id with
    | none => exact .pure fun k h => h.1 ▸ h.2
    | some file =>
      cases file with
      | error => exact .throw fun k h => h.1 ▸ h.2
      | ok f =>
        obtain ⟨op, rfl⟩ := f
        refine .ite (fun hmay => ?_) fun _ => .pure fun k h => h.1 ▸ h.2
        refine .bind (resolve_rule.pre ?_) fun _ => ?_
        · rintro _ ⟨rfl, h⟩
          exact ⟨h, by simp [Kernel.record?, RuntimeStore.record?, hl], hmay⟩
        · exact .bind
            (modifyAdmission_rule fun k h => h.tail .forget) fun _ => .pure fun _ h => h

theorem settleEntries_rule (ids : List String) : Keeps (SettleMoves k₀) (settleEntries env ids) := by
  induction ids with
  | nil => exact Triple.pure fun _ h => h
  | cons id ids ih =>
    exact Triple.bind settleEntry_rule fun settled => Triple.bind ih fun rest =>
      Triple.pure fun _ h => h

theorem settleUnresolvedRecoveries_rule :
    Keeps (SettleMoves k₀) (settleUnresolvedRecoveries env) := by
  refine Triple.bind ((access_kernel steady_settleMoves).fails fun _ _ h => h.1) fun _ => ?_
  refine .get fun k₁ => ?_
  refine Triple.bind ((settleEntries_rule _).pre fun k h => h.1 ▸ h.2) fun settled => ?_
  refine Triple.bind ((refresh_rule steady_settleMoves).post ?_
    fun _ _ h => h) fun _ => Triple.pure fun _ h => h
  rintro _ _ ⟨k₂, b, hk₂, hb, rfl⟩
  exact hk₂.tail (.assess hb)

theorem settleUnresolvedRecoveries_moves (hW : W.revives) :
    Keeps (Moves W k₀) (settleUnresolvedRecoveries env) := by
  intro k hk
  refine Triple.post settleUnresolvedRecoveries_rule ?_ ?_ k .refl
  · exact fun _ _ h => hk.trans (h.lift hW)
  · exact fun _ _ h => hk.trans (h.lift hW)

theorem SettleMove.queue (h : SettleMove k k') :
    k'.admission.pendingRestart = k.admission.pendingRestart ∧
      ∀ id, k.admission.pendingRestart = some id → k'.record? id = k.record? id := by
  have other {r : StoredOperation} (hr : k.admission.mayResolve r = true) {id : String}
      (hid : k.admission.pendingRestart = some id) : id ≠ r.view.operationId := by
    rintro rfl
    simp [AdmissionState.mayResolve, hid] at hr
  cases h with
  | quiet disk => exact ⟨rfl, fun id _ => Quietly.record? ⟨rfl, disk⟩⟩
  | succeed _ previous => exact ⟨rfl, fun id hid => record?_publish_ne (other previous hid)⟩
  | resolve _ previous =>
    exact ⟨rfl, fun id hid => record?_publish_ne (by simpa using other previous hid)⟩
  | cancel | forget | assess => exact ⟨rfl, fun _ _ => rfl⟩

theorem SettleMoves.queue (h : SettleMoves k k') :
    k'.admission.pendingRestart = k.admission.pendingRestart ∧
      ∀ id, k.admission.pendingRestart = some id → k'.record? id = k.record? id := by
  induction h with
  | refl => exact ⟨rfl, fun _ _ => rfl⟩
  | tail _ hstep ih =>
    obtain ⟨hslot, hrec⟩ := hstep.queue
    exact ⟨hslot.trans ih.1, fun id hid => (hrec id (ih.1.trans hid)).trans (ih.2 id hid)⟩

end Settle

/-- A reconciled record is persisted and reported, and the protection assessed again. -/
theorem publishReconciled_moves (hP : Steady P) (h : ∀ k, P k → Moves W k₀ (k.publish op)) :
    Triple P (do
        onDisk (storeOperation op)
        emitTerminalRecord env op
        refreshRecoveryProtection
        pure true)
      (fun _ => Moves W k₀) fun _ k => Moves W k₀ k ∨ P k := by
  refine .bind (R := fun _ => Moves W k₀) ((storeOperation_kernel hP).post ?_ ?_) fun _ => ?_
  · rintro _ _ ⟨k, hk, rfl⟩
    exact h k hk
  · rintro _ k (hk | ⟨k', hk', -, hq⟩)
    · exact .inr hk.1
    · exact .inl (moves_quietly (h k' hk') hq)
  refine .bind (emitTerminalRecord_rule steady_moves) fun _ => ?_
  exact .bind refresh_moves fun _ => .pure fun _ h => h

section Stop

/-- The search for the persisted Stop with `todo` left: the candidate is a readable record that
claims the revision, and no other scanned record does. -/
structure Candidate (revision : Nat) (todo : List String) (candidate : Option StoredOperation)
    (s : RuntimeStore) : Prop where
  claims : ∀ op, candidate = some op →
    s.record? op.view.operationId = some op ∧ claimsStop revision op = true
  only : ∀ id r, s.record? id = some r → claimsStop revision r = true →
    id ∈ todo ∨ candidate = some r

variable {revision : Nat} {todo : List String} {candidate : Option StoredOperation}
  {s : RuntimeStore}

theorem Candidate.skip (h : Candidate revision (id :: todo) candidate s)
    (hother : ∀ r, s.record? id = some r → ¬claimsStop revision r = true) :
    Candidate revision todo candidate s := by
  refine ⟨h.claims, fun i r hr hclaims => ?_⟩
  rcases h.only i r hr hclaims with hi | hi
  · rcases List.mem_cons.mp hi with rfl | hi
    · exact absurd hclaims (hother r hr)
    · exact .inl hi
  · exact .inr hi

theorem Candidate.take (h : Candidate revision (id :: todo) none s) (hr : s.record? id = some r)
    (hclaims : claimsStop revision r = true) : Candidate revision todo (some r) s := by
  refine ⟨fun op hop => ?_, fun i r' hr' hclaims' => ?_⟩
  · obtain rfl := Option.some.inj hop
    exact ⟨RuntimeStore.record?_id hr ▸ hr, hclaims⟩
  · rcases h.only i r' hr' hclaims' with hi | hi
    · rcases List.mem_cons.mp hi with rfl | hi
      · exact .inr (hr.symm.trans hr')
      · exact .inl hi
    · cases hi

variable {identity : RuntimeIdentityView}

theorem findQuiescedStop_rule {D : Disk → Prop} (hD : Disk.Steady D)
    (candidate : Option StoredOperation) (ids : List String) :
    Triple (fun d => D d ∧ Candidate revision ids candidate d.store)
      (findQuiescedStop env identity revision candidate ids)
      (fun found d => D d ∧ Candidate revision [] found d.store) fun _ => D := by
  have hst {todo : List String} {candidate : Option StoredOperation} :
      Disk.Steady fun d => D d ∧ Candidate revision todo candidate d.store := by
    refine hD.and fun d d' hq h => ?_
    rw [hq.1]
    exact { h with }
  induction ids generalizing candidate with
  | nil => exact .pure fun _ h => h
  | cons id ids ih =>
    refine .bind ((access_rule hst).fails fun _ _ h => h.1.1) fun _ => ?_
    refine .bind ((access_rule hst).fails fun _ _ h => h.1.1) fun _ => ?_
    refine .get fun d₁ => ?_
    cases hl : d₁.store.operations.lookup id with
    | none => exact .throw fun d h => h.1 ▸ h.2.1
    | some file =>
      cases file with
      | error => exact .throw fun d h => h.1 ▸ h.2.1
      | ok f =>
        have hr : d₁.store.record? id = some f.1 := by simp [RuntimeStore.record?, hl]
        refine .ite (fun hclaims => ?_) fun hother => (ih candidate).pre ?_
        · refine .bind (R := fun _ d => d = d₁ ∧ D d₁ ∧
              Candidate revision (id :: ids) candidate d₁.store)
            (.ensure (fun d _ h => h) fun d _ h => h.1 ▸ h.2.1) fun _ => ?_
          refine .bind (R := fun _ d => d = d₁ ∧ D d₁ ∧
              Candidate revision (id :: ids) none d₁.store)
            (.ensure (fun d hc h => hc ▸ h) fun d _ h => h.1 ▸ h.2.1) fun _ => ?_
          refine (ih (some f.1)).pre ?_
          rintro _ ⟨rfl, h, hcandidate⟩
          exact ⟨h, hcandidate.take hr hclaims⟩
        · rintro _ ⟨rfl, h, hcandidate⟩
          refine ⟨h, hcandidate.skip fun r hr' => ?_⟩
          rwa [← Option.mem_unique hr hr']

@[simp]
theorem confirmedStop_id : (confirmedStop r).view.operationId = r.view.operationId := rfl

theorem scanStops_rule (hP : Steady P) :
    Triple P (onDisk (reconcileQuiescedStop.scanStops env identity revision))
      (fun found k => P k ∧ Candidate revision [] found k.disk.store) fun _ => P := by
  refine onDisk_rule fun k => ?_
  refine .bind ((access_rule (hP.disk k)).fails fun _ _ h => h.1) fun _ => ?_
  refine .get fun d₁ => (findQuiescedStop_rule (hP.disk k) none _).pre ?_
  rintro _ ⟨rfl, h⟩
  exact ⟨h, by simp, fun id r hr _ => .inl (AList.mem_keys.mp (RuntimeStore.record?_mem hr))⟩

/-- The moves have led to empty slots. -/
def Emptied (W : Settles) (k₀ k : Kernel) : Prop := Moves W k₀ k ∧ k.admission.slotsEmpty = true

theorem steady_emptied : Steady (Emptied W k₀) :=
  steady_moves.and (steady_admission (R := (·.slotsEmpty = true)))

theorem reconcileQuiescedStop_moves (hW : W.revives) :
    Keeps (Moves W k₀) (reconcileQuiescedStop env) := by
  refine Triple.get fun k₁ => ?_
  refine Triple.bind (R := fun _ => Emptied W k₀)
    (Triple.ensure ?_ fun k _ h => h.1 ▸ h.2) fun _ => ?_
  · rintro _ hc ⟨rfl, h⟩
    exact ⟨h, hc⟩
  refine .bind ((loadDesired_kernel steady_emptied).fails fun _ _ h => h.1.1) fun current => ?_
  obtain ⟨desired, revision⟩ := current
  refine .ite (fun _ => .pure fun _ h => h.1.1) fun _ => ?_
  have hst' : Steady fun k => Emptied W k₀ k ∧ k.revision = revision :=
    steady_emptied.and steady_revision
  refine .bind (((scanStops_rule hst').pre ?_).fails fun _ _ h => h.1.1) fun found => ?_
  · exact fun k h => ⟨h.1, (congrArg Prod.snd h.2).symm⟩
  cases found with
  | none => exact .pure fun _ h => h.1.1.1
  | some op =>
    refine (publishReconciled_moves (P := fun k => (Emptied W k₀ k ∧ k.revision = revision) ∧
      k.record? op.view.operationId = some op ∧ claimsStop revision op = true) ?_ ?_).imp ?_ (fun _ _ h => h) ?_
    · exact hst'.and (steady_record.and fun _ _ _ h => h)
    · rintro k ⟨⟨⟨hm, he⟩, hrev⟩, hr, hc⟩
      exact hm.tail (.confirm hr he (hrev ▸ hc) hW)
    · exact fun k h => ⟨h.1, h.2.claims op rfl⟩
    · exact fun _ k h => h.elim id fun h => h.1.1.1

end Stop

section Deployment

@[simp]
theorem reconciledRecord_id {receipt : Receipt} {cancelled : Bool} :
    (reconciledRecord receipt cancelled r).view.operationId = r.view.operationId := by
  unfold reconciledRecord
  split_ifs <;> rfl

theorem reconcileQuiescedOperation_moves (hW : W.revives) (receipt : Receipt) :
    Keeps (Moves W k₀) (reconcileQuiescedOperation env receipt) := by
  refine Triple.get fun k₁ => ?_
  refine Triple.ite (fun _ => Triple.pure fun k h => h.1 ▸ h.2) fun _ => ?_
  cases receipt.runtimeOperationId with
  | none => exact Triple.pure fun k h => h.1 ▸ h.2
  | some id =>
    refine Triple.bind (R := fun _ k => k = k₁ ∧ Moves W k₀ k₁)
      (.ensure (fun k _ h => h) fun k _ h => h.1 ▸ h.2) fun _ => ?_
    refine .bind (R := fun _ => Emptied W k₀) (.ensure ?_ fun k _ h => h.1 ▸ h.2) fun _ => ?_
    · rintro _ hc ⟨rfl, h⟩
      exact ⟨h, hc⟩
    refine .bind (R := fun loaded k => Emptied W k₀ k ∧ loaded = k.record? id)
      ((loadOperation_kernel steady_emptied).post (fun _ _ h => ⟨h.1, h.2.1⟩) fun _ _ h => h.1.1)
      fun loaded => ?_
    cases loaded with
    | none => exact .pure fun _ h => h.1.1
    | some op =>
      refine .ite (fun _ => .pure fun _ h => h.1.1) fun hstate => ?_
      let Found (k : Kernel) : Prop := Emptied W k₀ k ∧ k.record? op.view.operationId = some op
      have hfound : Steady Found := steady_emptied.and steady_record
      refine .bind (R := fun _ k => Found k ∧ op.view.kind ≠ .stop)
        (.ensure ?_ fun _ _ h => h.1.1) fun _ => ?_
      · intro k hc h
        have hid : op.view.operationId = id := RuntimeStore.record?_id h.2.symm
        simp only [deploymentIdentityMatches, decide_eq_true_eq] at hc
        exact ⟨⟨h.1, hid ▸ h.2.symm⟩, hc.1⟩
      refine .bind ((cancellationRecorded_kernel
        (hfound.and fun _ _ _ h => h)).fails fun _ _ h => h.1.1.1)
        fun cancelled => ?_
      refine (publishReconciled_moves (hfound.and fun _ _ _ h => h) ?_).fails ?_
      · rintro k ⟨⟨⟨hm, he⟩, hr⟩, hk⟩
        exact hm.tail (.reconcile hr he (not_not.mp hstate) hk hW)
      · exact fun _ k h => h.elim (fun h => h) fun h => h.1.1.1

theorem beginForegroundFailureExit_moves :
    Keeps (Moves W k₀) (beginForegroundFailureExit env id) := by
  refine .get fun k₁ => .bind
    ((loadOperation_kernel steady_moves).post (fun _ _ h => h.1) fun _ _ h => h.1) fun loaded => ?_
  refine Keeps.require.bind fun stored => Keeps.ensure.bind fun _ =>
    .ite (fun _ => .pure) fun _ => .bind
    ((loadDesired_kernel steady_moves).post (fun _ _ h => h.1) fun _ _ h => h.1) fun current => ?_
  refine .ite (fun _ => .pure) fun _ => ?_
  exact .bind (modifyAdmission_rule fun k h => h.tail .note) fun _ => .pure

end Deployment

end Rcoder.Runtime
