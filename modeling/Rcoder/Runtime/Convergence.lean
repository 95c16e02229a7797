import Rcoder.Runtime.Startup

/-!
# When startup converges

The three startup passes leave exactly one kind of outcome unknown: a Stop that was neither
terminal nor merely accepted and does not claim the current revision. Without one, the
protection is off and a start is not refused for an unresolved recovery.
-/

namespace Rcoder.Runtime

open Effect Kernel Machine Sample

variable {env : KernelEnv} {id : String} {k k' : Kernel} {s : RuntimeStore} {r : StoredOperation}

section Start

variable {holds : AdmissionHolds} {request : RuntimeOperationRequest}

structure Free (k : Kernel) : Prop where
  calm : k.Calm
  intact : ¬k.disk.store.Damaged
  idle : k.live = []
  unprotected : k.admission.recoveryProtection = false

theorem Free.slots (h : Free k) : k.admission.activeOperationId = none ∧
    k.admission.pendingStop = none ∧ k.admission.pendingRestart = none := by
  have hidle := h.idle
  simp only [Kernel.live, liveExecutionIds, List.append_eq_nil_iff,
    Option.toList_eq_nil_iff] at hidle
  exact ⟨hidle.1.1.1.1, hidle.1.1.1.2, hidle.1.1.2⟩

theorem Free.unbroken (h : Free k) : ¬k.Broken := by
  rintro (hscript | hobject | hdecode | ⟨id, hslot, -⟩)
  · exact hscript h.calm
  · exact h.intact (.inl hobject)
  · exact h.intact (.inr (.inr hdecode))
  · simp [h.slots] at hslot

/-- The rejection is for another reason than an unresolved recovery. -/
def OtherReason (rejection : AdmissionRejection) (_ : Kernel) : Prop :=
  rejection.code ≠ errRecoveryRequired

/-- An idle, unprotected owner does not ask for a recovery. -/
theorem admit_free (hhold : holds.ownerRecoveryHold = false) :
    Triple Free (admitWithAuxiliaryHold env holds request) (fun _ _ => True) OtherReason := by
  intro k hk
  refine (admit_rule.post (fun _ _ _ => trivial) fun _ _ h hcode => ?_) k rfl
  rcases h.2 hcode with hheld | hon | hbroken
  · simp [hhold] at hheld
  · simp [hk.unprotected] at hon
  · exact hk.unbroken hbroken

end Start

section Converges

/-- The outcome of `r` stays unknown: a Stop that was neither terminal nor merely accepted, and
does not claim the current revision of a Stopped intent. -/
def Stuck (current : DesiredState × Nat) (r : StoredOperation) : Prop :=
  r.view.kind = .stop ∧ r.view.state.isTerminal = false ∧ r.view.state ≠ .accepted ∧
    ¬(current.1 = .stopped ∧ r.view.revision = current.2)

theorem recoveredForm_open (hopen : r.view.state.isTerminal = false) :
    (recoveredForm r).view.kind = r.view.kind ∧ (recoveredForm r).view.revision = r.view.revision ∧
      (recoveredForm r).view.state = if r.view.kind = .stop ∧ r.view.state = .accepted then
        .succeeded else .recoveryRequired := by
  simp only [recoveredForm, hopen, Bool.false_eq_true, if_false, recoveredRecord]
  split_ifs <;> exact ⟨rfl, rfl, rfl⟩

theorem recoveredForm_unknown (h : (recoveredForm r).view.state.isTerminal = false) :
    (recoveredForm r).view.state = .recoveryRequired := by
  cases hopen : r.view.state.isTerminal with
  | true => simp [recoveredForm, hopen] at h
  | false =>
    obtain ⟨-, -, hstate⟩ := recoveredForm_open hopen
    rw [hstate] at h ⊢
    split_ifs at h ⊢
    · cases h
    · rfl

theorem reconciledForm_unknown {current : DesiredState × Nat}
    (h : (reconciledForm current (recoveredForm r)).view.state.isTerminal = false) :
    (reconciledForm current (recoveredForm r)).view.state = .recoveryRequired := by
  unfold reconciledForm at h ⊢
  split_ifs at h ⊢
  · cases h
  · exact recoveredForm_unknown h

/-- A terminal record is left alone by every pass. -/
theorem forms_terminal (current : DesiredState × Nat) (h : r.view.state.isTerminal = true) :
    settledForm (reconciledForm current r) = r := by
  have hclaims : ¬claimsStop current.2 r = true := by
    intro hc
    simp only [claimsStop, decide_eq_true_eq] at hc
    simp [hc.1] at h
  simp [reconciledForm, settledForm, hclaims, h]

/-- Of the records in recovery, the Stops that claim nothing stay there. -/
theorem forms_unknown (current : DesiredState × Nat) (h : r.view.state = .recoveryRequired) :
    (settledForm (reconciledForm current r)).view.state.isTerminal = false ↔
      r.view.kind = .stop ∧ ¬(current.1 = .stopped ∧ r.view.revision = current.2) := by
  by_cases hkind : r.view.kind = .stop
  · by_cases hclaims : current.1 = .stopped ∧ r.view.revision = current.2
    · have hform : reconciledForm current r = confirmedStop r := by
        simp [reconciledForm, claimsStop, h, hkind, hclaims]
      rw [hform]
      simp [settledForm, confirmedStop, RuntimeOperationState.isTerminal, hclaims]
    · have hform : reconciledForm current r = r := by
        simp [reconciledForm, claimsStop, h, hkind, hclaims]
      rw [hform]
      simp [settledForm, h, hkind, hclaims]
  · have hform : reconciledForm current r = r := by simp [reconciledForm, claimsStop, hkind]
    rw [hform]
    simp [settledForm, h, hkind, interruptedRecord_state, RuntimeOperationState.isTerminal]

theorem settled_iff_not_stuck (current : DesiredState × Nat) :
    (settledForm (reconciledForm current (recoveredForm r))).view.state.isTerminal = true ↔
      ¬Stuck current r := by
  cases hopen : r.view.state.isTerminal with
  | true =>
    have hform : recoveredForm r = r := by simp [recoveredForm, hopen]
    rw [hform, forms_terminal current hopen]
    simp [Stuck, hopen]
  | false =>
    obtain ⟨hkind, hrevision, hstate⟩ := recoveredForm_open hopen
    by_cases hdone : r.view.kind = .stop ∧ r.view.state = .accepted
    · rw [if_pos hdone] at hstate
      have hterm : (recoveredForm r).view.state.isTerminal = true := by rw [hstate]; rfl
      rw [forms_terminal current hterm]
      simp [hterm, Stuck, hdone]
    · rw [if_neg hdone] at hstate
      rw [← Bool.not_eq_false, forms_unknown current hstate, hkind, hrevision, Stuck]
      tauto

theorem exec_respond {α : Type} {answer : α → Answer} {m : KernelM α} {P Q : Kernel → Prop}
    {x : Answer} {op : Op} (hop : op.run env k = respond answer m k)
    (htriple : Triple P m (fun _ => Q) fun _ _ => True) (hk : P k) (hcalm : k.Calm)
    (hQ : ∀ k, Q k → k.Calm) (hexec : (kernelMachine env).exec k ⟨op, []⟩ = (x, k'))
    (hx : ∀ e, x ≠ .error e) : Q k' := by
  have hk₀ : k.withFaults [] = k := withFaults_of_calm hcalm
  rw [exec_eq, hk₀, hop, respond] at hexec
  cases hm : m k with
  | error e =>
    rw [hm] at hexec
    exact absurd (congrArg Prod.fst hexec).symm (hx e)
  | ok a k₁ =>
    have hq := htriple.ok hk hm
    rw [hm] at hexec
    obtain rfl : k₁.withFaults [] = k' := congrArg Prod.snd hexec
    rwa [withFaults_of_calm (hQ k₁ hq)]

/-- Startup converges exactly on the stores without a stuck Stop. -/
theorem startup_converges {identity : RuntimeIdentityView} (hread : s.AllReadable)
    {recovered settled : List String} {b : Bool} {k₁ k₂ k₃ : Kernel}
    (hrecover : (kernelMachine env).exec (Kernel.new s identity) ⟨.recover, []⟩ =
      (.operations recovered, k₁))
    (hstop : (kernelMachine env).exec k₁ ⟨.reconcileQuiescedStop, []⟩ = (.flag b, k₂))
    (hsettle : (kernelMachine env).exec k₂ ⟨.settleUnresolvedRecoveries, []⟩ =
      (.operations settled, k₃)) :
    ((∀ id r, k₃.record? id = some r → r.view.state.isTerminal = true) ∧
      k₃.admission.recoveryProtection = false ∧
      ∀ holds request rejection, holds.ownerRecoveryHold = false → request.kind ≠ .stop →
        ((kernelMachine env).exec k₃ ⟨.admitWithAuxiliaryHold holds request, []⟩).1 =
            .admission (.error rejection) → rejection.code ≠ errRecoveryRequired) ↔
      ∀ id r, s.record? id = some r → ¬Stuck s.currentDesired r := by
  obtain ⟨hstage₁, hlisted₁⟩ := exec_respond rfl
    ((recover_stage hread).fails fun _ _ _ => trivial) rfl rfl
    (fun _ h => h.1.calm) hrecover (by simp)
  obtain ⟨hstage₂, hlisted₂⟩ := exec_respond rfl reconcileQuiescedStop_stage ⟨hstage₁, hlisted₁⟩
    hstage₁.calm (fun _ h => h.1.calm) hstop (by simp)
  obtain ⟨hstage₃, hprotection⟩ := exec_respond rfl
    ((settleUnresolved_stage fun _ => reconciledForm_unknown).fails
      fun _ _ _ => trivial) ⟨hstage₂, hlisted₂⟩ hstage₂.calm (fun _ h => h.1.calm) hsettle (by simp)
  constructor
  · rintro ⟨hterminal, -⟩ id r hr
    refine (settled_iff_not_stuck _).mp (hterminal id _ ?_)
    exact (hstage₃.rewrites id).trans (by rw [hr]; rfl)
  · intro hfree
    have hterminal (id : String) (r : StoredOperation) (hr : k₃.record? id = some r) :
        r.view.state.isTerminal = true := by
      obtain ⟨r₀, hr₀, rfl⟩ := Option.map_eq_some_iff.mp ((hstage₃.rewrites id).symm.trans hr)
      exact (settled_iff_not_stuck _).mpr (hfree id r₀ hr₀)
    have hopen : k₃.admission.recoveryProtection = false :=
      hprotection fun id ⟨r, hr, hopen⟩ => by simp [hterminal id r hr] at hopen
    refine ⟨hterminal, hopen, fun holds request rejection hhold _ hanswer => ?_⟩
    have hk₃ : k₃.withFaults [] = k₃ := withFaults_of_calm hstage₃.calm
    rw [exec_eq, hk₃] at hanswer
    have hfree : Free k₃ := ⟨hstage₃.calm, hstage₃.intact, hstage₃.idle, hopen⟩
    change (answerAdmission (admitWithAuxiliaryHold env holds request k₃)).1 = _ at hanswer
    cases hm : admitWithAuxiliaryHold env holds request k₃ with
    | ok =>
      rw [hm] at hanswer
      cases hanswer
    | error =>
      rw [hm] at hanswer
      cases hanswer
      exact (admit_free hhold).error hfree hm

theorem RuntimeStore.allReadable_of_all
    (h : (s.operations.keys.all fun id => (s.record? id).isSome) = true) : s.AllReadable := by
  intro id hid
  exact Option.isSome_iff_exists.mp (List.all_eq_true.mp h id (AList.mem_keys.mp hid))

def Sample.left (ops : List Op) : RuntimeStore :=
  ((kernelMachine Sample.owner).after Sample.recovered (ops.map Sample.calm)).disk.store

/-- The next owner, started on that store, after the given calls. -/
def Sample.restarted (s : RuntimeStore) (ops : List Op) : Kernel :=
  (kernelMachine Sample.owner).after (Kernel.new s Sample.identity) (ops.map Sample.calm)

theorem Sample.exec_restarted (s : RuntimeStore) (ops : List Op) (op : Op) (answer : Answer)
    (h : ((kernelMachine owner).exec (restarted s ops) (calm op)).1 = answer) :
    (kernelMachine owner).exec (restarted s ops) (calm op) =
      (answer, restarted s (ops ++ [op])) := by
  refine Prod.ext h ?_
  simp only [restarted, List.map_append, List.map_singleton, after_concat]

/-- A build and the Stop accepted after it are both settled by the next owner. -/
theorem startup_converges_stoppedBuild :
    (Sample.restarted (Sample.left [Sample.source "a" .start 0, Sample.source "s" .stop 0])
      [.recover, .reconcileQuiescedStop, .settleUnresolvedRecoveries]).admission.recoveryProtection =
      false := by
  generalize hs : left [source "a" .start 0, source "s" .stop 0] = s
  have hread : s.AllReadable := by
    subst hs
    exact RuntimeStore.allReadable_of_all (by decide +kernel)
  have hfree : ∀ id r, s.record? id = some r → ¬Stuck s.currentDesired r := by
    intro id r hr hstuck
    have hmem := AList.mem_keys.mp (RuntimeStore.record?_mem hr)
    have hall : (s.operations.keys.all fun id => (s.record? id).all fun r =>
        r.view.kind ≠ .stop ∨ r.view.state = .accepted) = true := by
      subst hs
      decide +kernel
    have hr' := List.all_eq_true.mp hall id hmem
    simp only [hr, Option.all_some, decide_eq_true_eq] at hr'
    exact hr'.elim (fun h => h hstuck.1) hstuck.2.2.1
  have hrecover := exec_restarted s [] .recover (.operations ["s", "a"])
    (by subst hs; decide +kernel)
  have hstop := exec_restarted s [.recover] .reconcileQuiescedStop (.flag false)
    (by subst hs; decide +kernel)
  have hsettle := exec_restarted s [.recover, .reconcileQuiescedStop]
    .settleUnresolvedRecoveries (.operations ["a"]) (by subst hs; decide +kernel)
  exact ((startup_converges hread hrecover hstop hsettle).mpr hfree).2.1

/-- A Stop whose cleanup was not confirmed is recorded at the revision before the one its own
admission advanced the intent to. The next owner never settles it, and refuses every start. -/
theorem startup_stuckStop : ∃ s : RuntimeStore, s.AllReadable ∧
    ∃ recovered settled b k₁ k₂ k₃,
      (kernelMachine Sample.owner).exec (Kernel.new s Sample.identity) ⟨.recover, []⟩ =
        (.operations recovered, k₁) ∧
      (kernelMachine Sample.owner).exec k₁ ⟨.reconcileQuiescedStop, []⟩ = (.flag b, k₂) ∧
      (kernelMachine Sample.owner).exec k₂ ⟨.settleUnresolvedRecoveries, []⟩ =
        (.operations settled, k₃) ∧
      k₃.Unknown "s" ∧ k₃.admission.recoveryProtection = true ∧
      ((kernelMachine Sample.owner).exec k₃ (Sample.calm (Sample.source "a" .start 1))).1 =
        .admission (.error ⟨errRecoveryRequired,
          "a previous operation has an unconfirmed result; recovery is required", none⟩) := by
  obtain ⟨s, hs⟩ : ∃ s, s = left
    [source "s" .stop 0, .finish "s" .recoveryRequired none none] := ⟨_, rfl⟩
  have hread : s.AllReadable := by
    subst hs
    exact RuntimeStore.allReadable_of_all (by decide +kernel)
  have hrecover := exec_restarted s [] .recover (.operations ["s"])
    (by subst hs; decide +kernel)
  have hstop := exec_restarted s [.recover] .reconcileQuiescedStop (.flag false)
    (by subst hs; decide +kernel)
  have hsettle := exec_restarted s [.recover, .reconcileQuiescedStop]
    .settleUnresolvedRecoveries (.operations ["s"]) (by subst hs; decide +kernel)
  refine ⟨s, hread, _, _, _, _, _, _, hrecover, hstop, hsettle, ?_⟩
  subst hs
  exact ⟨unknown_of_any (by decide +kernel), by decide +kernel, by decide +kernel⟩

end Converges

end Rcoder.Runtime
