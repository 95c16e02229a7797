import Rcoder.Runtime.Owner
import Rcoder.Runtime.Protection

/-!
# Outcomes are final

A record that holds an outcome is never written again: the entry points that settle records look
at the state they find, and the ones that may settle a record held for recovery are those of
startup. The scan of `recover` reads a file before it knows whether the file matters, so a record
it cannot read is set aside whatever its state, and its id is free again.
-/

namespace Rcoder.Runtime

open Effect Kernel Machine RuntimeStore

variable {W : Settles} {env : KernelEnv} {id : String} {k k₁ k' : Kernel}
  {op r stored : StoredOperation} {next : Nat} {faults : List Fault}
  {o : Option StoredOperation} {q : String} {r' : StoredOperation}

section Overwriting

variable {s : RuntimeStore}

theorem reconciledRecord_state {receipt : Receipt} {cancelled : Bool} :
    (reconciledRecord receipt cancelled r).view.state =
      if cancelled then .cancelled else .failed := by
  unfold reconciledRecord
  cases r.hasRecordedDiagnostic <;> rfl

/-- What an entry point may write over the record `r` of `id`, or `none` for a file set aside. -/
inductive Overwrites (W : Settles) (faults : List Fault) (id : String) (r : StoredOperation) :
    Option StoredOperation → Prop
  | settled {state : RuntimeOperationState} {error : Option (String × String)}
      {detail : Option RuntimeFailureDetail} (unsettled : ¬r.view.state.Settled)
      (writes : W.states id state) : Overwrites W faults id r (some (r.settle state error detail))
  | completed (unsettled : ¬r.view.state.Settled) (stop : r.view.kind = .stop) :
      Overwrites W faults id r (some (r.settle .succeeded none none))
  | interrupted (unfinished : r.view.state.isTerminal = false) (revives : W.revives) :
      Overwrites W faults id r (some (interruptedRecord r))
  | recovered (unfinished : r.view.state.isTerminal = false) :
      Overwrites W faults id r (some (recoveredRecord r))
  | confirmed (held : r.view.state = .recoveryRequired) (stop : r.view.kind = .stop)
      (revives : W.revives) : Overwrites W faults id r (some (confirmedStop r))
  | reconciled {receipt : Receipt} {cancelled : Bool} (held : r.view.state = .recoveryRequired)
      (revives : W.revives) :
      Overwrites W faults id r (some (reconciledRecord receipt cancelled r))
  | superseded {message : String} (unsettled : ¬r.view.state.Settled) :
      Overwrites W faults id r (some (r.superseded message))
  | setAside (torn : faults ≠ []) (setsAside : W.setsAside) : Overwrites W faults id r none

theorem publish_overwrites (hr : k.record? id = some r) (hq : k.record? q = some r')
    (hid : op.view.operationId = q) (h : q = id → r' = r → Overwrites W faults id r (some op)) :
    (k.publish op).record? id = some r ∨
      Overwrites W faults id r ((k.publish op).record? id) := by
  by_cases heq : q = id
  · have hsame : r' = r := Option.mem_unique hq (heq ▸ hr)
    rw [← heq, ← hid, record?_publish_self, hid, heq]
    exact .inr (h heq hsame)
  · refine .inl ((record?_publish_ne ?_).trans hr)
    rintro rfl
    exact heq hid.symm

theorem Move.overwrites (hm : Move W k k') (hr : k.record? id = some r) :
    k'.record? id = some r ∨ Overwrites W k.disk.script id r (k'.record? id) := by
  cases hm with
  | quiet disk => exact .inl ((Quietly.record? ⟨rfl, disk⟩).trans hr)
  | settle record unsettled _ _ writes =>
    refine publish_overwrites hr record (record?_id record :) ?_
    rintro rfl rfl
    exact .settled unsettled writes
  | complete record _ unsettled stop =>
    refine publish_overwrites hr record rfl ?_
    rintro - rfl
    exact .completed unsettled stop
  | resolve record previous revives =>
    refine publish_overwrites hr record interruptedRecord_id ?_
    rintro - rfl
    exact .interrupted (isTerminal_of_mayResolve previous) revives
  | recover record _ unfinished =>
    refine publish_overwrites hr record recoveredRecord_id ?_
    rintro - rfl
    exact .recovered unfinished
  | confirm record _ claims revives =>
    refine publish_overwrites hr record rfl ?_
    rintro - rfl
    simp only [claimsStop, decide_eq_true_eq] at claims
    exact .confirmed claims.1 claims.2.1 revives
  | reconcile record _ unknown _ revives =>
    refine publish_overwrites hr record reconciledRecord_id ?_
    rintro - rfl
    exact .reconciled unknown revives
  | supersede _ _ record unsettled =>
    refine publish_overwrites hr record (record?_id record :) ?_
    rintro - rfl
    exact .superseded unsettled
  | tornSupersede _ _ record unsettled =>
    refine publish_overwrites hr record (record?_id record :) ?_
    rintro - rfl
    exact .superseded unsettled
  | @setAside q unreadable setsAside =>
    by_cases heq : id = q
    · subst heq
      have htorn : k.disk.script ≠ [] := unreadable.resolve_left (by simp [hr])
      have haside : Overwrites W k.disk.script id r ((k.disk.store.setAside id).record? id) := by
        rw [record?_setAside_self]
        exact .setAside htorn setsAside
      exact .inr haside
    · exact .inl ((record?_setAside_ne heq).trans hr)
  | _ => exact .inl hr

/-- No entry point but an admission opens a record. -/
theorem Move.absent (hm : Move W k k') (hr : k.record? id = none) : k'.record? id = none := by
  have publish {q : String} {op r' : StoredOperation} (hq : k.record? q = some r')
      (hid : op.view.operationId = q) : (k.publish op).record? id = none := by
    refine (record?_publish_ne ?_).trans hr
    rintro rfl
    rw [hid, hq] at hr
    cases hr
  cases hm with
  | quiet disk => exact (Quietly.record? ⟨rfl, disk⟩).trans hr
  | settle record => exact publish record (record?_id record :)
  | complete record => exact publish record rfl
  | resolve record => exact publish record interruptedRecord_id
  | recover record => exact publish record recoveredRecord_id
  | confirm record => exact publish record rfl
  | reconcile record => exact publish record reconciledRecord_id
  | supersede _ _ record => exact publish record (record?_id record :)
  | tornSupersede _ _ record => exact publish record (record?_id record :)
  | @setAside q =>
    by_cases heq : id = q
    · exact heq ▸ record?_setAside_self
    · exact (record?_setAside_ne heq).trans hr
  | _ => exact hr

theorem Move.script (hm : Move W k k') : k'.disk.script <:+ k.disk.script := by
  cases hm with
  | quiet disk => exact disk.2
  | _ => exact List.suffix_rfl

theorem Moves.script (hm : Moves W k k') : k'.disk.script <:+ k.disk.script := by
  induction hm with
  | refl => exact List.suffix_rfl
  | tail _ hstep ih => exact hstep.script.trans ih

end Overwriting

section Settled

/-- What an entry point leaves of the settled record `r`. -/
def Ends (W : Settles) (faults : List Fault) (r : StoredOperation) (o : Option StoredOperation) :
    Prop :=
  o = some r ∨ (W.setsAside ∧ faults ≠ [] ∧ o = none) ∨
    W.revives ∧ r.view.state = .recoveryRequired ∧
      ∃ r', o = some r' ∧ r'.view.state.isTerminal = true

theorem held_of_settled {state : RuntimeOperationState} (hs : state.Settled)
    (hu : state.isTerminal = false) : state = .recoveryRequired :=
  hs.resolve_left (by simp [hu])

theorem Overwrites.ends (h : Overwrites W faults id r o) (hs : r.view.state.Settled) :
    Ends W faults r o := by
  have revived {r' : StoredOperation} (hheld : r.view.state = .recoveryRequired)
      (hW : W.revives) (hterm : r'.view.state.isTerminal = true) : Ends W faults r (some r') :=
    .inr (.inr ⟨hW, hheld, r', rfl, hterm⟩)
  cases h with
  | settled unsettled => exact absurd hs unsettled
  | completed unsettled => exact absurd hs unsettled
  | superseded unsettled => exact absurd hs unsettled
  | interrupted unfinished revives =>
    exact revived (held_of_settled hs unfinished) revives (by rw [interruptedRecord_state]; rfl)
  | recovered unfinished =>
    -- a record that is held for recovery is written back as it is
    have hheld := held_of_settled hs unfinished
    have hsame : recoveredRecord r = r := by
      unfold recoveredRecord
      rw [if_neg (by simp [hheld]), ← hheld]
    exact .inl (congrArg some hsame)
  | confirmed held _ revives => exact revived held revives rfl
  | @reconciled receipt cancelled held revives =>
    exact revived held revives (by rw [reconciledRecord_state]; cases cancelled <;> rfl)
  | setAside torn setsAside => exact .inr (.inl ⟨setsAside, torn, rfl⟩)

variable (hr : k.record? id = some r) (hs : r.view.state.Settled)
include hr hs

theorem Moves.ends (hm : Moves W k k') :
    Ends W k.disk.script r (k'.record? id) := by
  induction hm with
  | refl => exact .inl hr
  | @tail k₁ k₂ hmoves hstep ih =>
    have torn (h : k₁.disk.script ≠ []) : k.disk.script ≠ [] := by
      intro hnil
      exact h (List.suffix_nil.mp (hnil ▸ Moves.script hmoves))
    rcases ih with hkept | ⟨hW, hscript, hnone⟩ | ⟨hW, hheld, r', hr', hterm⟩
    · rcases hstep.overwrites hkept with hkept | hover
      · exact .inl hkept
      · rcases hover.ends hs with h | ⟨hW, hscript, h⟩ | h
        · exact .inl h
        · exact .inr (.inl ⟨hW, torn hscript, h⟩)
        · exact .inr (.inr h)
    · exact .inr (.inl ⟨hW, hscript, hstep.absent hnone⟩)
    · -- the outcome it was settled with is final in turn
      rcases hstep.overwrites hr' with hkept | hover
      · exact .inr (.inr ⟨hW, hheld, r', hkept, hterm⟩)
      · rcases hover.ends (.inl hterm) with h | ⟨hW', hscript, h⟩ | ⟨-, hheld', -⟩
        · exact .inr (.inr ⟨hW, hheld, r', h, hterm⟩)
        · exact .inr (.inl ⟨hW', torn hscript, h⟩)
        · rw [hheld'] at hterm
          cases hterm

/-- An entry point that neither revives nor sets aside leaves settled records alone. -/
theorem Moves.settled_kept (hm : Moves W k k') (haside : ¬W.setsAside) (hrevives : ¬W.revives) :
    k'.record? id = some r := by
  rcases Moves.ends hr hs hm with h | ⟨hW, -⟩ | ⟨hW, -⟩
  · exact h
  · exact absurd hW haside
  · exact absurd hW hrevives

omit hr hs

/-- The settlement that an admission runs first fails what was held for recovery. -/
def Interrupts (r : StoredOperation) (o : Option StoredOperation) : Prop :=
  o = some r ∨ r.view.state = .recoveryRequired ∧ o = some (interruptedRecord r)

include hr hs

theorem SettleMoves.interrupts (hm : SettleMoves k k') : Interrupts r (k'.record? id) := by
  induction hm with
  | refl => exact .inl hr
  | @tail k₁ k₂ _ hstep ih =>
    have publish {op r' : StoredOperation} (hr' : k₁.record? r'.view.operationId = some r')
        (hid : op.view.operationId = r'.view.operationId)
        (h : k₁.record? id = some r' → Interrupts r (some op)) :
        Interrupts r ((k₁.publish op).record? id) := by
      by_cases heq : id = r'.view.operationId
      · have hself : (k₁.publish op).record? id = some op := by
          rw [heq, ← hid]
          exact record?_publish_self
        exact hself ▸ h (heq ▸ hr')
      · exact (record?_publish_ne (hid ▸ heq)).symm ▸ ih
    cases hstep with
    | @quiet d disk =>
      have hq : Quietly k₁ { k₁ with disk := d } := ⟨rfl, disk⟩
      exact hq.record?.symm ▸ ih
    | @succeed r' record _ unsettled =>
      refine publish record rfl fun hr' => absurd ?_ unsettled
      rcases ih with hkept | ⟨-, hint⟩
      · exact Option.mem_unique hr' hkept ▸ hs
      · rw [Option.mem_unique hr' hint]
        exact .inl (by rw [interruptedRecord_state]; rfl)
    | @resolve r' record previous =>
      have hopen := isTerminal_of_mayResolve previous
      refine publish record interruptedRecord_id fun hr' => ?_
      rcases ih with hkept | ⟨-, hint⟩
      · obtain rfl : r' = r := Option.mem_unique hr' hkept
        exact .inr ⟨held_of_settled hs hopen, rfl⟩
      · rw [Option.mem_unique hr' hint, interruptedRecord_state] at hopen
        cases hopen
    | cancel | forget | assess => exact ih

end Settled

section Admission

variable (hr : k.record? id = some r) (hs : r.view.state.Settled)
include hr hs

theorem superseded_kept {message : String} (hq : k.record? q = some r')
    (hu : ¬r'.view.state.Settled) :
    (k.publish (r'.superseded message)).record? id = some r := by
  have hid : r'.view.operationId = q := record?_id hq
  refine (record?_publish_ne ?_).trans hr
  rintro rfl
  have hsame : r' = r := Option.mem_unique hq (hid ▸ hr)
  exact hu (hsame ▸ hs)

theorem Clears.settled_kept (hc : Clears k k') : k'.record? id = some r := by
  cases hc with
  | vacant | settled => exact hr
  | superseded _ record unsettled => exact superseded_kept hr hs record unsettled

theorem Admits.settled_kept (ha : Admits stored next k k') : k'.record? id = some r := by
  have opened (hopens : Opens stored next k) : (k.opened stored next).record? id = some r :=
    (record?_publish_ne (hopens.record_ne hr)).trans hr
  cases ha with
  | stop opens _ clears => exact (clears.settled_kept (opened opens) hs :)
  | queue opens _ _ clears => exact (clears.settled_kept (opened opens) hs :)
  | active opens _ _ clears => exact (clears.settled_kept (opened opens) hs :)

theorem Disturbs.settled_kept (hd : Disturbs stored next k k') (hne : id ≠ stored.view.operationId) :
    k'.record? id = some r := by
  induction hd with
  | refl => exact hr
  | tail _ hstep ih =>
    cases hstep with
    | quiet disk => exact (Quietly.record? ⟨rfl, disk⟩).trans ih
    | record => exact (record?_publish_ne hne).trans ih
    | hold reason =>
      have hheld : id ≠ (heldRecord stored reason).view.operationId := hne
      exact (record?_publish_ne hheld).trans ih
    | supersede record unsettled => exact superseded_kept ih hs record unsettled
    | slots | cancel | receipt | intent => exact ih

theorem Fails.settled_kept (hf : Fails stored next k k') (hopens : Opens stored next k) :
    k'.record? id = some r := by
  have hne := hopens.record_ne hr
  cases hf with
  | unwritten quiet => exact quiet.record?.trans hr
  | torn _ record => exact record.record?.trans ((record?_publish_ne hne).trans hr)
  | held _ left => exact Disturbs.settled_kept hr hs left hne

theorem Acts.ends {op : Op} {answer : Answer} (h : Acts env op k answer k') :
    Ends (op.settles k) k.disk.script r (k'.record? id) ∨
      ∃ holds request, op = .admitWithAuxiliaryHold holds request ∧
        r.view.state = .recoveryRequired ∧ k'.record? id = some (interruptedRecord r) := by
  have behind {k₁ : Kernel} (hm : SettleMoves k k₁)
      (hkept : ∀ r₁, k₁.record? id = some r₁ → r₁.view.state.Settled →
        k'.record? id = some r₁) : Interrupts r (k'.record? id) := by
    rcases hm.interrupts hr hs with h | ⟨hheld, h⟩
    · exact .inl (hkept r h hs)
    · exact .inr ⟨hheld, hkept _ h (.inl (by rw [interruptedRecord_state]; rfl))⟩
  cases h with
  | moves moves => exact .inl (Moves.ends hr hs moves)
  | replays call moves =>
    exact (SettleMoves.interrupts hr hs moves).imp .inl fun h => ⟨_, _, call, h⟩
  | accepts call accepts =>
    obtain ⟨k₁, k₂, next, hm, ha, hann, -⟩ := accepts
    refine (behind hm fun r₁ hr₁ hs₁ => ?_).imp .inl fun h => ⟨_, _, call, h⟩
    exact Moves.settled_kept (W := .none) (ha.settled_kept hr₁ hs₁) hs₁ hann.moves not_false
      not_false
  | refuses call refuses =>
    cases refuses with
    | gate moves =>
      exact (SettleMoves.interrupts hr hs moves).imp .inl fun h => ⟨_, _, call, h⟩
    | fails moves opens fails =>
      exact (behind moves fun r₁ hr₁ hs₁ => fails.settled_kept hr₁ hs₁ opens).imp .inl
        fun h => ⟨_, _, call, h⟩

end Admission

section Runs

variable {input : OwnerInput} {tr : List (OwnerInput × Answer)} {t : Kernel}

/-- A recovery whose disk has faults sets the record of `id` aside. -/
def SetsAside (env : KernelEnv) (id : String) (k : Kernel) (input : OwnerInput) : Prop :=
  k.Readable id ∧ (∃ faults, input = .call ⟨.recover, faults⟩ ∧ faults ≠ []) ∧
    ((ownerMachine env).exec k input).2.record? id = none

/-- The entry points that settle a record held for recovery, and what they make of it. -/
inductive Resolves : OwnerInput → StoredOperation → StoredOperation → Prop
  | settleUnresolvedRecoveries {faults : List Fault} {r r' : StoredOperation} :
      Resolves (.call ⟨.settleUnresolvedRecoveries, faults⟩) r r'
  | reconcileQuiescedStop {faults : List Fault} {r r' : StoredOperation} :
      Resolves (.call ⟨.reconcileQuiescedStop, faults⟩) r r'
  | reconcileQuiescedOperation {receipt : Receipt} {faults : List Fault}
      {r r' : StoredOperation} :
      Resolves (.call ⟨.reconcileQuiescedOperation receipt, faults⟩) r r'
  | settleInterruptedOperation {holds : AdmissionHolds} {request : RuntimeOperationRequest}
      {faults : List Fault} {r : StoredOperation} :
      Resolves (.call ⟨.admitWithAuxiliaryHold holds request, faults⟩) r (interruptedRecord r)

/-- The input settles the record of `id`, which was held for recovery. -/
def ResolvesRecovery (env : KernelEnv) (id : String) (k : Kernel) (input : OwnerInput) : Prop :=
  ∃ r r', k.record? id = some r ∧ r.view.state = .recoveryRequired ∧
    ((ownerMachine env).exec k input).2.record? id = some r' ∧
    r'.view.state.isTerminal = true ∧ Resolves input r r'

theorem exec_settled (env : KernelEnv) (input : OwnerInput) (hr : k.record? id = some r)
    (hs : r.view.state.Settled) :
    ((ownerMachine env).exec k input).2.record? id = some r ∨ SetsAside env id k input ∨
      r.view.state = .recoveryRequired ∧ ResolvesRecovery env id k input := by
  cases input with
  | restart => exact .inl hr
  | orchestration q stage service eventName payload faults =>
    obtain ⟨k', hq, hk'⟩ := orchestration_quietly env k q stage service eventName payload faults
    refine .inl ?_
    rw [hk']
    exact hq.record?.trans hr
  | call step =>
    obtain ⟨op, faults⟩ := step
    have hacts : Acts env op (k.withFaults faults) _ _ := op.run_acts
    rcases hacts.ends (k := k.withFaults faults) hr hs with
      (h | ⟨hW, htorn, h⟩ | ⟨hW, hheld, r', hr', hterm⟩) | ⟨holds, request, rfl, hheld, h⟩
    · exact .inl h
    · cases op with
      | recover => exact .inr (.inl ⟨⟨r, hr⟩, ⟨faults, rfl, htorn⟩, h⟩)
      | _ => exact hW.elim
    · refine .inr (.inr ⟨hheld, r, r', hr, hheld, hr', hterm, ?_⟩)
      cases op with
      | settleUnresolvedRecoveries => exact .settleUnresolvedRecoveries
      | reconcileQuiescedStop => exact .reconcileQuiescedStop
      | reconcileQuiescedOperation => exact .reconcileQuiescedOperation
      | _ => exact hW.elim
    · refine .inr (.inr ⟨hheld, r, interruptedRecord r, hr, hheld, h, ?_,
        .settleInterruptedOperation⟩)
      rw [interruptedRecord_state]
      rfl

/-- Over every run of successive owners, whatever their disks do, an outcome is final unless a
recovery sets its record aside, and a record that is held for recovery leaves that state only by
the settlements of startup. -/
theorem outcomes_final (hr : (ownerMachine env).Run (fun _ _ => True) k tr t)
    (hrec : k.record? id = some r) (hs : r.view.state.Settled) :
    t.record? id = some r ∨ (ownerMachine env).Passes k (SetsAside env id) tr ∨
      r.view.state = .recoveryRequired ∧
        (ownerMachine env).Passes k (ResolvesRecovery env id) tr := by
  induction hr with
  | nil => exact .inl hrec
  | snoc run _ ih =>
    rcases ih with hkept | hlost | ⟨hheld, hresolved⟩
    · rcases exec_settled env _ hkept hs with h | h | ⟨hheld, h⟩
      · exact .inl h
      · exact .inr (.inl (run.passes h))
      · exact .inr (.inr ⟨hheld, run.passes h⟩)
    · exact .inr (.inl (hlost.append _))
    · exact .inr (.inr ⟨hheld, hresolved.append _⟩)

namespace Sample

/-- One start, committed by its owner. -/
def committed : Kernel :=
  (ownerMachine owner).after (Kernel.new store identity)
    [.call (calm .recover), .call (calm (source "a" .start 0)),
      .call (calm (.commitExecution "a"))]

def committedStart : StoredOperation :=
  (acceptedRecord owner identity ⟨"a", "rt", 0, "ws", .start, .source "ws", none, none⟩ 0).settle
    .succeeded none none

/-- The next owner recovers and accepts another start. -/
def handedOn : List OwnerInput :=
  [.restart identity, .call (calm .recover), .call (calm (source "b" .restart 0))]

end Sample

open Sample

theorem outcomes_final_committed : committed.record? "a" = some committedStart ∧
    (((ownerMachine owner).after committed handedOn).record? "a" = some committedStart ∨
      (ownerMachine owner).Passes committed (SetsAside owner "a")
        ((ownerMachine owner).trace committed handedOn) ∨
      committedStart.view.state = .recoveryRequired ∧
        (ownerMachine owner).Passes committed (ResolvesRecovery owner "a")
          ((ownerMachine owner).trace committed handedOn)) := by
  have hrec : committed.record? "a" = some committedStart := by decide +kernel
  exact ⟨hrec, outcomes_final (.of_follows (follows_of_forall fun _ _ _ => trivial)) hrec
    (.inl rfl)⟩

/-- A read error of the next owner's recovery frees the id of a committed start: the same id is
then accepted again. -/
theorem outcome_setAside_readmitted :
    (committed.record? "a").map (·.view.state) = some .succeeded ∧
      (((ownerMachine owner).after committed
        [.restart identity, .call ⟨.recover, [.none, .none, .none, .fail ["I/O error"]]⟩,
          .call (calm (source "a" .start 0))]).record? "a").map (·.view.state) =
        some .accepted := by
  decide +kernel

end Runs

end Rcoder.Runtime
