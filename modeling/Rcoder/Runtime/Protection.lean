import Rcoder.Runtime.Run

/-!
# Fail-closed recovery protection

Without protection, every persisted operation whose outcome is not known to be final is named
by a live slot. A successful recovery establishes this and every move keeps it, whatever the
disk does. Two admissions do not: one whose record write is reported as failed after the file
was published, and one that drops a queued operation whose record is already held for
recovery, because a settled record is never overwritten.
-/

namespace Rcoder.Runtime

open Effect Kernel Machine RuntimeStore Sample

variable {W : Settles} {env : KernelEnv} {id : String} {k k₀ k₁ k' : Kernel}
  {op r stored : StoredOperation} {next : Nat}

/-- Every open outcome is live. -/
def Kernel.Accounted (k : Kernel) : Prop := ∀ id, k.Unknown id → id ∈ k.live

/-- Fail-closed: without protection every open outcome is live. -/
def Kernel.Guarded (k : Kernel) : Prop :=
  k.admission.recoveryProtection = false → k.Accounted

theorem mem_live : id ∈ k.live ↔ k.admission.activeOperationId = some id ∨
    k.admission.pendingStop = some id ∨ k.admission.pendingRestart = some id ∨
    k.admission.interruptedStop = some id ∨ id ∈ k.admission.interruptedOperations := by
  simp [Kernel.live, liveExecutionIds]

theorem guarded_of_protection (h : k.admission.recoveryProtection = true) : k.Guarded := by
  intro hoff
  simp [h] at hoff

/-- Rewriting an open record in place keeps the outcomes accounted for. -/
theorem Kernel.Accounted.publish (h : k.Accounted) (hu : k.Unknown op.view.operationId) :
    (k.publish op).Accounted := by
  intro id hid
  rcases unknown_publish_iff.mp hid with ⟨rfl, -⟩ | ⟨-, hid⟩
  · exact h _ hu
  · exact h id hid

theorem Kernel.Accounted.mono (h : k.Accounted) (hu : ∀ id, k'.Unknown id → k.Unknown id)
    (hlive : ∀ id ∈ k.live, k'.Unknown id → id ∈ k'.live) : k'.Accounted :=
  fun id hid => hlive id (h id (hu id hid)) hid

/-- The Stop of an ended session is listed with its other operations. -/
def AdmissionState.StopListed (a : AdmissionState) : Prop :=
  ∀ id, a.interruptedStop = some id → id ∈ a.interruptedOperations

section Moves

variable {a : AdmissionState} {q : String}

variable (ha : a.StopListed)
include ha

theorem mem_live_interrupt (h : id ∈ liveExecutionIds a) : id ∈ liveExecutionIds (a.interrupt q) := by
  simp only [liveExecutionIds, AdmissionState.interrupt, List.mem_append, Option.mem_toList] at h ⊢
  by_cases hq : id = q
  · subst hq
    by_cases hmem : id ∈ a.interruptedOperations <;> simp [hmem]
  · rcases h with ((((h | h) | h) | h) | h)
    · simp [h, hq]
    · simp [h, hq]
    · simp [h]
    · have hmem := ha id h
      by_cases hq' : q ∈ a.interruptedOperations <;> simp [hmem, hq']
    · by_cases hmem : q ∈ a.interruptedOperations <;> simp [h, hmem]

theorem AdmissionState.StopListed.interrupt (q : String) : (a.interrupt q).StopListed := by
  intro id hid
  simp only [AdmissionState.interrupt] at hid ⊢
  by_cases hq : q ∈ a.interruptedOperations
  · simp only [hq]
    split_ifs at hid
    · exact Option.some.inj hid ▸ hq
    · exact ha id hid
  · simp only [hq, if_false, List.mem_append, List.mem_singleton]
    split_ifs at hid
    · exact .inr (Option.some.inj hid).symm
    · exact .inl (ha id hid)

theorem interrupts_live (ids : List String) :
    (ids.foldl AdmissionState.interrupt a).StopListed ∧ ∀ id ∈ liveExecutionIds a,
      id ∈ liveExecutionIds (ids.foldl AdmissionState.interrupt a) := by
  induction ids generalizing a with
  | nil => exact ⟨ha, fun _ h => h⟩
  | cons q ids ih =>
    obtain ⟨hlisted, hlive⟩ := ih (ha.interrupt q)
    exact ⟨hlisted, fun id h => hlive id (mem_live_interrupt ha h)⟩

theorem endSession_live :
    a.endSession.StopListed ∧ ∀ id ∈ liveExecutionIds a, id ∈ liveExecutionIds a.endSession :=
  interrupts_live (a := { a with consumedOperations := [] }) ha _

omit ha

theorem recoveryProtection_endSession : a.endSession.recoveryProtection = a.recoveryProtection := by
  suffices h : ∀ (ids : List String) (a : AdmissionState),
      (ids.foldl .interrupt a).recoveryProtection = a.recoveryProtection from
    h a.consumedOperations { a with consumedOperations := [] }
  intro ids
  induction ids with
  | nil => exact fun _ => rfl
  | cons q ids ih => exact fun a => ih (a.interrupt q)

structure Kernel.FailClosed (k : Kernel) : Prop where
  guarded : k.Guarded
  listed : k.admission.StopListed

theorem Quietly.accounted (h : Quietly k k') (hk : k.Accounted) : k'.Accounted :=
  hk.mono (fun _ => h.unknown.mp) fun id hid _ => by rwa [Kernel.live, h.admission]

theorem isTerminal_of_not_settled {state : RuntimeOperationState} (h : ¬state.Settled) :
    state.isTerminal = false := by
  cases state <;> simp_all [RuntimeOperationState.Settled, RuntimeOperationState.isTerminal]

theorem isTerminal_of_mayResolve (h : k.admission.mayResolve r = true) :
    r.view.state.isTerminal = false := by
  simp only [AdmissionState.mayResolve, Bool.not_eq_true', decide_eq_false_iff_not, not_or] at h
  simpa using h.1

/-- A released slot loses nothing that is still open. -/
theorem Kernel.Guarded.release (h : k.Guarded)
    (hprot : a.recoveryProtection = k.admission.recoveryProtection)
    (known : k.admission.recoveryProtection = true ∨ ¬k.Unknown id)
    (hlive : ∀ i ∈ k.live, i ≠ id → i ∈ liveExecutionIds a) : (k.withAdmission a).Guarded := by
  intro hoff
  rw [admission_withAdmission, hprot] at hoff
  refine (h hoff).mono (fun _ hu => hu) fun i hi hu => hlive i hi ?_
  rintro rfl
  exact known.elim (fun hon => by simp [hon] at hoff) fun hn => hn hu

theorem record?_setAside_self {s : RuntimeStore} : (s.setAside id).record? id = none := by
  simp [RuntimeStore.record?, RuntimeStore.setAside]

theorem record?_setAside_ne {s : RuntimeStore} (h : id ≠ q) :
    (s.setAside q).record? id = s.record? id := by
  simp only [RuntimeStore.record?, RuntimeStore.setAside, AList.lookup_erase_ne h]

theorem record?_of_setAside {s : RuntimeStore} {r : StoredOperation}
    (h : (s.setAside q).record? id = some r) : s.record? id = some r := by
  by_cases hid : id = q
  · subst hid
    cases h.symm.trans record?_setAside_self
  · exact (record?_setAside_ne hid).symm.trans h

theorem Unknown.of_setAside
    (h : Kernel.Unknown { k with disk := { k.disk with store := k.disk.store.setAside q } } id) :
    k.Unknown id := by
  obtain ⟨r, hr, ht⟩ := h
  exact ⟨r, record?_of_setAside hr, ht⟩

theorem listed_of_move (hm : Move W k k') (hl : k.admission.StopListed) :
    k'.admission.StopListed := by
  cases hm with
  | endSession => exact (endSession_live hl).1
  | handOver => exact fun id hid => by cases hid
  | retain listed => exact fun i hi => (listed i hi).2
  | _ => exact hl

theorem listed_of_moves (hl : k.admission.StopListed) (hm : Moves W k k') :
    k'.admission.StopListed := by
  induction hm with
  | refl => exact hl
  | tail _ hstep ih => exact listed_of_move hstep ih

theorem Kernel.FailClosed.move (h : k.FailClosed) (hm : Move W k k') : k'.FailClosed := by
  refine ⟨?_, listed_of_move hm h.listed⟩
  obtain ⟨hg, hl⟩ := h
  have keep {op r : StoredOperation} (hr : k.record? r.view.operationId = some r)
      (ho : r.view.state.isTerminal = false) (hid : op.view.operationId = r.view.operationId) :
      (k.publish op).Guarded :=
    fun hoff => (hg hoff).publish (hid ▸ ⟨r, hr, ho⟩)
  cases hm with
  | quiet disk => exact fun hoff => Quietly.accounted ⟨rfl, disk⟩ (hg hoff)
  | cancel | uncancel | receipt | cancelSource | consume | note | forget | stopIntent | repair
    | asideDesired => exact hg
  | protect | retain => exact guarded_of_protection rfl
  | assess sound => exact sound
  | settle record unsettled =>
    have hid := record?_id record
    exact keep (by rw [hid]; exact record) (isTerminal_of_not_settled unsettled) rfl
  | complete record previous => exact keep record (isTerminal_of_mayResolve previous) rfl
  | resolve record previous =>
    exact keep record (isTerminal_of_mayResolve previous) interruptedRecord_id
  | recover record _ unfinished => exact keep record unfinished recoveredRecord_id
  | confirm record _ claims =>
    simp only [claimsStop, decide_eq_true_eq] at claims
    exact keep record (by rw [claims.1]; rfl) confirmedStop_id
  | reconcile record _ unknown =>
    exact keep record (by rw [unknown]; rfl) reconciledRecord_id
  | setAside => exact fun hoff => (hg hoff).mono (fun _ => Unknown.of_setAside) fun _ hi _ => hi
  | releaseActive slot known =>
    refine hg.release rfl known fun i hi hne => ?_
    simpa [Kernel.live, liveExecutionIds, slot, hne] using hi
  | releaseStop slot known =>
    refine hg.release rfl known fun i hi hne => ?_
    simpa [Kernel.live, liveExecutionIds, slot, hne] using hi
  | promote slot idle =>
    refine fun hoff => (hg hoff).mono (fun _ hu => hu) fun i hi _ => ?_
    rw [mem_live] at hi ⊢
    simp only [slot, idle] at hi ⊢
    tauto
  | supersede _ guarded => exact guarded_of_protection guarded
  | tornSupersede _ guarded => exact guarded_of_protection guarded
  | drop _ guarded => exact guarded_of_protection guarded
  | endSession =>
    intro hoff
    rw [admission_withAdmission, recoveryProtection_endSession] at hoff
    exact (hg hoff).mono (fun _ hu => hu) fun id hid _ => (endSession_live hl).2 id hid
  | handOver sound => exact sound

end Moves

theorem Kernel.FailClosed.moves (h : k.FailClosed) (hm : Moves W k k') : k'.FailClosed := by
  induction hm with
  | refl => exact h
  | tail _ hstep ih => exact ih.move hstep

section Admission

/-- The queued operation is not already held for recovery. -/
def Kernel.QueueSound (k : Kernel) : Prop :=
  ∀ id r, k.admission.pendingRestart = some id → k.record? id = some r →
    r.view.state ≠ .recoveryRequired

theorem unknown_opened (h : (k.opened stored next).Unknown id) :
    id = stored.view.operationId ∨ k.Unknown id :=
  (unknown_publish_iff.mp h).imp (fun h => h.1) fun h => h.2

theorem Kernel.QueueSound.opened (h : k.QueueSound) (hacc : stored.view.state = .accepted) :
    (k.opened stored next).QueueSound := by
  intro id r hslot hr
  rw [record?_opened] at hr
  by_cases hid : id = stored.view.operationId
  · rw [hid, record?_publish_self] at hr
    cases hr
    simp [hacc]
  · rw [record?_publish_ne hid] at hr
    exact h id r hslot hr

theorem Opens.record_ne (hopens : Opens stored next k) (hr : k.record? id = some r) :
    id ≠ stored.view.operationId := by
  rintro rfl
  exact hopens.fresh (record?_mem hr)

/-- A queue that gives way leaves no open outcome behind. -/
theorem Clears.unknown (hc : Clears k k') (hq : k.QueueSound) (hu : k'.Unknown id) :
    k.Unknown id ∧ k.admission.pendingRestart ≠ some id := by
  cases hc with
  | vacant slot => exact ⟨hu, by simp [slot]⟩
  | @settled q r slot record settled =>
    refine ⟨hu, fun hid => ?_⟩
    obtain rfl : q = id := Option.mem_unique slot hid
    obtain ⟨r', hr', ht⟩ := hu
    obtain rfl : r = r' := Option.mem_unique record hr'
    exact settled.elim (fun h => by simp [h] at ht) (hq q r slot record)
  | @superseded q message r slot record =>
    have hid := record?_id record
    rcases unknown_publish_iff.mp hu with ⟨-, ht⟩ | ⟨hne, hu⟩
    · cases ht
    · refine ⟨hu, fun h => hne ?_⟩
      exact (Option.mem_unique h slot).trans hid.symm

theorem Admits.accounted (h : Admits stored next k k') (hk : k.Accounted) (hq : k.QueueSound) :
    k'.Accounted := by
  have opened {k₁ : Kernel} {id : String} (hopens : Opens stored next k)
      (hc : Clears (k.opened stored next) k₁) (hu : k₁.Unknown id) :
      (id = stored.view.operationId ∨ id ∈ k.live) ∧ k.admission.pendingRestart ≠ some id := by
    obtain ⟨hu, hne⟩ := hc.unknown (hq.opened hopens.accepted) hu
    exact ⟨(unknown_opened hu).imp_right (hk id), hne⟩
  intro id hid
  cases h with
  | stop opens kind clears =>
    obtain ⟨hlive, hne⟩ := opened opens clears hid
    have hstop := opens.no_stop kind
    simp only [mem_live, stopAccepted] at hlive ⊢
    grind [clears.slots]
  | queue opens kind busy clears =>
    obtain ⟨hlive, hne⟩ := opened opens clears hid
    simp only [mem_live, enqueued, withAdmission] at hlive ⊢
    grind [clears.slots]
  | active opens kind idle clears =>
    obtain ⟨hlive, hne⟩ := opened opens clears hid
    simp only [mem_live, activated] at hlive ⊢
    grind [clears.slots]

/-- An acceptance changes the three slots only. -/
theorem Admits.frame (h : Admits stored next k k') :
    k'.admission.recoveryProtection = k.admission.recoveryProtection ∧
      k'.admission.interruptedStop = k.admission.interruptedStop ∧
      k'.admission.interruptedOperations = k.admission.interruptedOperations ∧
      k'.admission.consumedOperations = k.admission.consumedOperations := by
  cases h with
  | stop _ _ clears =>
    simp only [stopAccepted, clears.slots, and_self]
  | queue _ _ _ clears =>
    simp only [enqueued, withAdmission, clears.slots, and_self]
  | active _ _ _ clears =>
    simp only [activated, clears.slots, and_self]

theorem Kernel.FailClosed.admits (h : k.FailClosed) (ha : Admits stored next k k')
    (hq : k.QueueSound) : k'.FailClosed := by
  obtain ⟨hprot, hstop, hops, -⟩ := ha.frame
  refine ⟨fun hoff => ha.accounted (h.guarded (hprot ▸ hoff)) hq, fun id hid => ?_⟩
  rw [hops]
  exact h.listed id (hstop ▸ hid)

theorem SettleMove.script (h : SettleMove k k') : k'.disk.script <:+ k.disk.script := by
  cases h with
  | quiet disk => exact disk.2
  | succeed | resolve | cancel | forget | assess => exact List.suffix_rfl

theorem SettleMoves.script (h : SettleMoves k k') : k'.disk.script <:+ k.disk.script := by
  induction h with
  | refl => exact List.suffix_rfl
  | tail _ hstep ih => exact hstep.script.trans ih

theorem SettleMoves.queueSound (h : SettleMoves k k') (hq : k.QueueSound) : k'.QueueSound := by
  obtain ⟨hslot, hrec⟩ := h.queue
  intro id r hid hr
  rw [hslot] at hid
  exact hq id r hid (hrec id hid ▸ hr)

/-- What is asked of a step: an admission finds its queued operation not held for recovery,
and no record write of it is reported as failed after the file was published. -/
def Step.Sound (k : Kernel) (step : Step) : Prop :=
  match step.op with
  | .admitWithAuxiliaryHold _ _ => k.QueueSound ∧ ∀ cause, Fault.published cause ∉ step.faults
  | _ => True

theorem Disturbs.listed (h : Disturbs stored next k k') (hl : k.admission.StopListed) :
    k'.admission.StopListed := by
  induction h with
  | refl => exact hl
  | tail _ hstep ih =>
    cases hstep with
    | slots stop operations => exact fun id hid => operations ▸ ih id (stop ▸ hid)
    | quiet | cancel | receipt | record | intent | supersede | hold => exact ih

theorem Fails.failClosed (h : Fails stored next k k') (hk : k.FailClosed)
    (hwrite : ∀ cause, Fault.published cause ∉ k.disk.script) : k'.FailClosed := by
  cases h with
  | unwritten quiet => exact hk.moves (W := .nothing) (moves_quietly .refl quiet)
  | @torn cause rest script => exact absurd (by simp [script]) (hwrite cause)
  | held _ left guarded => exact ⟨guarded_of_protection guarded, left.listed hk.listed⟩

theorem Kernel.FailClosed.acts {op : Op} {answer : Answer} (h : k.FailClosed)
    (hact : Acts env op k answer k')
    (hsound : Step.Sound k ⟨op, k.disk.script⟩) : k'.FailClosed := by
  refine hact.keeps h h.moves (fun hm h => h.moves hm) (fun call hgate ha h => ?_)
    fun call hgate _ hf h => hf.failClosed h fun cause hmem => ?_
  · subst call
    exact h.admits ha (hgate.queueSound hsound.1)
  · subst call
    exact hsound.2 cause (hgate.script.subset hmem)

theorem Kernel.FailClosed.withFaults (h : k.FailClosed) (faults : List Fault) :
    (k.withFaults faults).FailClosed :=
  ⟨h.guarded, h.listed⟩

theorem Kernel.FailClosed.exec (h : k.FailClosed) {step : Step} (hsound : step.Sound k) :
    ((kernelMachine env).exec k step).2.FailClosed :=
  ((h.withFaults step.faults).acts (Op.run_acts step.op) hsound).withFaults []

end Admission

/-- A successful recovery leaves a fail-closed kernel, whatever the disk did. -/
theorem recover_failClosed (hl : k₀.admission.StopListed) :
    Triple (· = k₀) (recover env) (fun _ => FailClosed) fun _ _ => True := by
  let W : Settles := { Settles.none with setsAside := True }
  have start (k : Kernel) (h : k = k₀) : Moves W k₀ k := h ▸ .refl
  refine (recover_rule trivial).imp start ?_ fun _ _ _ => trivial
  rintro _ k ⟨k₁, ids, protection, hm, sound, hafter⟩
  have hlisted : k₁.admission.StopListed := listed_of_moves hl hm
  have h₁ : FailClosed (k₁.withAdmission { k₁.admission with
      recoveredOperations := ids, recoveryProtection := protection }) :=
    ⟨sound, hlisted⟩
  exact h₁.moves hafter

theorem exec_recover {faults : List Fault} {ids : List String} (hl : k.admission.StopListed)
    (h : (kernelMachine env).exec k ⟨.recover, faults⟩ = (.operations ids, k')) :
    k'.FailClosed := by
  obtain ⟨hanswer, rfl⟩ := Prod.mk.inj h
  change (respond _ _ _).1 = _ at hanswer
  change FailClosed ((respond _ _ _).2.withFaults [])
  unfold respond at hanswer ⊢
  cases hm : recover env (k.withFaults faults) with
  | ok =>
    have hk : Triple (· = k.withFaults faults) (recover env) _ _ := recover_failClosed hl
    exact (hk.ok rfl hm).withFaults []
  | error => simp [hm] at hanswer

theorem AnnounceMoves.protection (h : AnnounceMoves k k') :
    k'.admission.recoveryProtection = k.admission.recoveryProtection := by
  induction h with
  | refl => rfl
  | tail _ hstep ih => cases hstep <;> exact ih

/-- A start is accepted only where every open outcome is live. -/
theorem Kernel.FailClosed.accepted {step : Step} {view : RuntimeOperationView} (h : k.FailClosed)
    (hsound : step.Sound k) (hkind : view.kind ≠ .stop)
    (hacc : ((kernelMachine env).exec k step).1 = .admission (.ok (.accepted view))) :
    ((kernelMachine env).exec k step).2.Accounted := by
  obtain ⟨holds, request, -, k₁, k₂, next, hgate, hadmits, hafter, rfl⟩ :=
    (Op.run_acts step.op).accepted hacc
  have hexec : ((kernelMachine env).exec k step).2.FailClosed := h.exec hsound
  refine hexec.guarded ?_
  have hoff : k₁.admission.recoveryProtection = false := by
    cases hadmits with
    | stop _ kind => exact absurd kind hkind
    | queue opens => exact opens.unprotected hkind
    | active opens => exact opens.unprotected hkind
  exact hafter.protection.trans (hadmits.frame.1.trans hoff)

/-- The recovery protection fails closed. After a successful recovery, in every run whose
admissions meet `Step.Sound`, with any other disk faults: without protection every open outcome
is live, and no start is accepted while one is not. -/
theorem recoveryProtection_failsClosed (env : KernelEnv) (store : RuntimeStore)
    (identity : RuntimeIdentityView) {faults : List Fault} {ids : List String} {k t : Kernel}
    {tr : List (Step × Answer)}
    (hrecover : (kernelMachine env).exec (Kernel.new store identity) ⟨.recover, faults⟩ =
      (.operations ids, k))
    (hrun : (kernelMachine env).Run Step.Sound k tr t) :
    t.Guarded ∧ ∀ step view, step.Sound t → view.kind ≠ .stop →
      ((kernelMachine env).exec t step).1 = .admission (.ok (.accepted view)) →
      ((kernelMachine env).exec t step).2.Accounted := by
  have ht : t.FailClosed := hrun.invariant (exec_recover (fun id hid => by cases hid) hrecover)
    fun _ _ hok h => h.exec hok
  exact ⟨ht.guarded, fun step view hsound hkind hacc => ht.accepted hsound hkind hacc⟩

/-- Two Source builds run one after the other on a recovered owner. -/
theorem recoveryProtection_failsClosed_twoBuilds :
    ((kernelMachine Sample.owner).after Sample.recovered [Sample.calm (Sample.source "a" .start 0),
      Sample.calm (Sample.source "b" .start 0), Sample.calm (.finish "a" .cancelled none none),
      Sample.calm (.commitExecution "b")]).Guarded := by
  have hsound : (kernelMachine Sample.owner).Follows Step.Sound Sample.recovered
      [calm (source "a" .start 0), calm (source "b" .start 0),
        calm (.finish "a" .cancelled none none), calm (.commitExecution "b")] := by
    have vacant (k : Kernel) (h : k.admission.pendingRestart = none) : k.QueueSound := by
      intro id r hid
      simp [h] at hid
    exact ⟨⟨vacant _ (by decide +kernel), by simp [calm]⟩,
      ⟨vacant _ (by decide +kernel), by simp [calm]⟩, trivial, trivial, trivial⟩
  exact (recoveryProtection_failsClosed Sample.owner Sample.store Sample.identity
    Sample.exec_recover (.of_follows hsound)).1

/-- The receipt that would cancel the older build cannot be written, so the newer one is held
for recovery in the queue. The next request finds it there, live, drops the protection and then
the queued operation itself, whose outcome nothing names any more. -/
theorem recoveryProtection_dropsQueuedOutcome : ∃ tr t,
    (kernelMachine Sample.owner).Run (fun _ _ => True) Sample.recovered tr t ∧ ¬t.Guarded := by
  refine ⟨_, (kernelMachine Sample.owner).after Sample.recovered
    [calm (source "a" .start 0),
      ⟨source "b" .start 0, List.replicate 6 .none ++ [.fail ["disk full"]]⟩,
      calm (source "c" .start 0)],
    .of_follows (follows_of_forall fun _ _ _ => trivial), fun h => ?_⟩
  have hlost := h (by decide +kernel) "b" (unknown_of_any (by decide +kernel))
  revert hlost
  decide +kernel

end Rcoder.Runtime
