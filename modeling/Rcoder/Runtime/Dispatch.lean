import Rcoder.Runtime.Barrier

/-!
# Dispatch: at most once, in order of admission

An operation is handed to the executor when it is accepted by an idle owner, or when the queue is
promoted. The queue holds one operation, accepted later than everything dispatched before it, so
no operation is dispatched twice and the starts are dispatched in the order they were accepted.
-/

namespace Rcoder.Runtime

open Effect Kernel Machine List DispatchAction Sample

variable {W : Settles} {env : KernelEnv} {id : String} {k k₁ k' : Kernel}
  {r r' stored : StoredOperation} {next : Nat} {X : String → Prop}

section Actions

namespace DispatchAction

def execution : DispatchAction → Option String
  | deployArtifact id _ _ _ | deployLocalArtifact id _ _ _ | orchestrateSource id _ _
  | recoverArtifact id _ _ | stopBusiness id => some id
  | cancelSource _ => none

def start : DispatchAction → Option String
  | stopBusiness _ => none
  | action => action.execution

end DispatchAction

def Kernel.executed (k : Kernel) : List String := k.dispatched.filterMap DispatchAction.execution

def Kernel.started (k : Kernel) : List String := k.dispatched.filterMap DispatchAction.start

theorem execution_dispatchActionFor :
    (dispatchActionFor stored).execution = some stored.view.operationId := by
  unfold dispatchActionFor
  split <;> rfl

/-- The action of a supported request starts it, unless it is a Stop. -/
theorem start_dispatchActionFor (hsup : supported stored.request.kind stored.request.profile = true) :
    (dispatchActionFor stored).start =
      if stored.request.kind = .stop then none else some stored.view.operationId := by
  obtain ⟨view, ⟨_, _, _, _, kind, profile, _, _⟩⟩ := stored
  cases kind <;> cases profile
  case deploy.artifact input => cases input <;> rfl
  all_goals first | rfl | cases hsup

end Actions

section Records

/-- The rewriting of a record by a settlement that does not supersede it. -/
def Settlement (r r' : StoredOperation) : Prop :=
  r'.view.state.Settled ∧
    (r'.view.errorCode = some errSuperseded → r.view.errorCode = some errSuperseded)

theorem interruptedRecord_settlement : Settlement r (interruptedRecord r) := by
  unfold interruptedRecord
  split_ifs
  · exact ⟨.inl rfl, fun h => h⟩
  · exact ⟨.inl rfl, fun h => absurd (Option.some.inj h)
      (by decide : errInterruptedOwnerExit ≠ errSuperseded)⟩

theorem recoveredRecord_settlement : Settlement r (recoveredRecord r) := by
  unfold recoveredRecord
  split_ifs
  · exact ⟨.inl rfl, fun h => by cases h⟩
  · exact ⟨.inr rfl, fun h => h⟩

theorem reconciledRecord_settlement {receipt : Receipt} {cancelled : Bool} :
    Settlement r (reconciledRecord receipt cancelled r) := by
  have hcode : receipt.errorCode cancelled ≠ errSuperseded := by
    unfold Receipt.errorCode
    split_ifs <;> decide
  unfold reconciledRecord
  cases cancelled <;> cases r.hasRecordedDiagnostic
  all_goals first
    | exact ⟨.inl rfl, fun h => absurd (Option.some.inj h) hcode⟩
    | exact ⟨.inl rfl, fun h => h⟩

/-- What a move in `k` may make of the record `r` of `id`: it leaves it alone, or settles it if it
was not terminal. The diagnosis of a superseded operation comes from the entry point's own
argument or from the queue. -/
def Rewritten (W : Settles) (k : Kernel) (id : String) (r r' : StoredOperation) : Prop :=
  r' = r ∨ r.view.state.isTerminal = false ∧ r'.view.state.Settled ∧
    (r'.view.errorCode = some errSuperseded → r.view.errorCode = some errSuperseded ∨
      (∃ message, W.records id (some (errSuperseded, message))) ∨
      W.queue ∧ k.admission.pendingRestart = some id)

theorem Move.rewrites (hm : Move W k k') (hcalm : k.Calm) (hr' : k'.record? id = some r') :
    ∃ r, k.record? id = some r ∧ Rewritten W k id r r' := by
  have keep (h : k.record? id = some r') : ∃ r, k.record? id = some r ∧ Rewritten W k id r r' :=
    ⟨r', h, .inl rfl⟩
  have publish {q : String} {r op : StoredOperation} (hr' : (k.publish op).record? id = some r')
      (hr : k.record? q = some r) (hid : op.view.operationId = q) (hop : Rewritten W k q r op) :
      ∃ r, k.record? id = some r ∧ Rewritten W k id r r' := by
    rcases record_publish_cases hr' with hr' | ⟨rfl, rfl⟩
    · exact keep hr'
    · exact ⟨r, hid ▸ hr, hid ▸ hop⟩
  have settled {q : String} {r op : StoredOperation} (hopen : r.view.state.isTerminal = false)
      (h : Settlement r op) : Rewritten W k q r op :=
    .inr ⟨hopen, h.1, fun hcode => .inl (h.2 hcode)⟩
  cases hm with
  | quiet disk => exact keep ((Quietly.record? ⟨rfl, disk⟩).symm.trans hr')
  | @settle q r state error detail record unsettled final diagnosis =>
    refine publish hr' record (RuntimeStore.record?_id record :)
      (.inr ⟨isTerminal_of_not_settled unsettled, final, fun hcode => ?_⟩)
    cases error with
    | none => exact .inl hcode
    | some error =>
      obtain ⟨code, message⟩ := error
      obtain rfl : code = errSuperseded := Option.some.inj hcode
      exact .inr (.inl ⟨message, diagnosis⟩)
  | complete record _ unsettled =>
    exact publish hr' record rfl
      (settled (isTerminal_of_not_settled unsettled) ⟨.inl rfl, fun h => h⟩)
  | resolve record previous =>
    exact publish hr' record interruptedRecord_id
      (settled (isTerminal_of_mayResolve previous) interruptedRecord_settlement)
  | recover record _ unfinished =>
    exact publish hr' record recoveredRecord_id (settled unfinished recoveredRecord_settlement)
  | confirm record _ claims =>
    refine publish hr' record rfl (settled ?_ ⟨.inl rfl, fun h => by cases h⟩)
    simp only [claimsStop, decide_eq_true_eq] at claims
    simp [claims.1]
  | reconcile record _ unknown =>
    exact publish hr' record reconciledRecord_id
      (settled (by simp [unknown]) reconciledRecord_settlement)
  | supersede slot _ record unsettled queue =>
    exact publish hr' record (RuntimeStore.record?_id record :)
      (.inr ⟨isTerminal_of_not_settled unsettled, .inl rfl, fun _ => .inr (.inr ⟨queue, slot⟩)⟩)
  | tornSupersede torn => exact absurd hcalm torn
  | setAside unreadable =>
    exact keep ((record?_setAside (unreadable.resolve_right fun hs => hs hcalm)).symm.trans hr')
  | _ => exact keep hr'

/-- An acceptance changes no other record but that of the operation it supersedes. -/
theorem Admits.rewrites (ha : Admits stored next k k') (hne : id ≠ stored.view.operationId)
    (hr' : k'.record? id = some r') :
    ∃ r, k.record? id = some r ∧ (r' = r ∨ k.admission.pendingRestart = some id ∧
      r.view.state.isTerminal = false ∧ r'.view.state = .cancelled) := by
  obtain ⟨k₁, -, hc, hdisk, -⟩ := ha.cleared
  have hr₁ : k₁.record? id = some r' := by
    rw [← hr', Kernel.record?, ← hdisk]
    rfl
  have opened {r : StoredOperation} (h : (k.opened stored next).record? id = some r) :
      k.record? id = some r := (record?_publish_ne hne).symm.trans h
  cases hc with
  | vacant | settled => exact ⟨r', opened hr₁, .inl rfl⟩
  | @superseded q message r slot record unsettled =>
    rcases record_publish_cases hr₁ with hr₁ | ⟨hid, rfl⟩
    · exact ⟨r', opened hr₁, .inl rfl⟩
    · obtain rfl : id = q := hid.trans (RuntimeStore.record?_id record :)
      exact ⟨r, opened record, .inr ⟨slot, isTerminal_of_not_settled unsettled, rfl⟩⟩

/-- A terminal record is final. -/
theorem kept_terminal (hterm : r.view.state.isTerminal = true) :
    Kept fun k => k.record? id = some r where
  move ho hm hr := by
    obtain ⟨r', hr'⟩ := Readable.move ⟨r, hr⟩ ho.calm hm
    obtain ⟨r₀, hr₀, hrew⟩ := hm.rewrites ho.calm hr'
    obtain rfl : r = r₀ := Option.mem_unique hr hr₀
    rcases hrew with rfl | ⟨hopen, -⟩
    · exact hr'
    · simp [hterm] at hopen
  admits _ ha hr := by
    obtain ⟨r', hr'⟩ := ha.readable ⟨r, hr⟩
    obtain ⟨_, hopens, -⟩ := ha.cleared
    obtain ⟨r₀, hr₀, hrew⟩ := ha.rewrites (hopens.ne_of_readable ⟨r, hr⟩) hr'
    obtain rfl : r = r₀ := Option.mem_unique hr hr₀
    rcases hrew with rfl | ⟨-, hopen, -⟩
    · exact hr'
    · simp [hterm] at hopen

end Records

variable {accepted : List String}

section Once

/-- What the dispatched actions, the slots and the records have to do with each other. -/
structure Kernel.Once (k : Kernel) : Prop where
  nodup : k.executed.Nodup
  known : ∀ id ∈ k.executed, k.Readable id
  queued : ∀ id, k.admission.pendingRestart = some id → id ∉ k.executed
  input : ∀ id input, k.admission.pendingRestart = some id → k.admission.queuedInput = some input →
    input.view.operationId = id → (dispatchActionFor input).start = some id
  unspoiled : ∀ id r, k.record? id = some r →
    id ∈ k.executed ∨ k.admission.pendingRestart = some id ∧ r.view.state = .accepted →
    r.view.errorCode ≠ some errSuperseded

/-- What is dispatched, and what waits, is in the order of the accepted starts. -/
def Kernel.InTurn (accepted : List String) (k : Kernel) : Prop :=
  k.started.Sublist accepted ∧ ∀ id, k.admission.pendingRestart = some id →
    (k.started ++ [id]).Sublist accepted

theorem interrupts_queue (a : AdmissionState) (ids : List String) :
    (ids.foldl AdmissionState.interrupt a).pendingRestart = a.pendingRestart ∧
      (ids.foldl AdmissionState.interrupt a).queuedInput = a.queuedInput := by
  induction ids generalizing a with
  | nil => exact ⟨rfl, rfl⟩
  | cons id ids ih => exact ih (a.interrupt id)

/-- A move dispatches nothing for execution, or hands the queue over. -/
theorem Move.dispatches (hm : Move W k k') :
    (k'.executed = k.executed ∧ k'.started = k.started ∧
      ∀ id, k'.admission.pendingRestart = some id →
        k.admission.pendingRestart = some id ∧
          k'.admission.queuedInput = k.admission.queuedInput) ∨
    ∃ q input r, k.admission.pendingRestart = some q ∧ k.record? q = some r ∧
      r.view.state = .accepted ∧ k.admission.queuedInput = some input ∧
      input.view.operationId = q ∧ k' = k.promoted q input := by
  cases hm with
  | promote slot _ _ record accepted _ retained same =>
    exact .inr ⟨_, _, _, slot, record, accepted, retained, same, rfl⟩
  | cancelSource =>
    refine .inl ⟨?_, ?_, fun id h => ⟨h, rfl⟩⟩
    · simp [Kernel.executed, execution]
    · simp [Kernel.started, start, execution]
  | supersede | drop => exact .inl ⟨rfl, rfl, fun id h => by cases h⟩
  | endSession =>
    obtain ⟨hqueue, hinput⟩ := interrupts_queue { k.admission with consumedOperations := [] }
      k.admission.consumedOperations
    exact .inl ⟨rfl, rfl, fun id h => ⟨hqueue.symm.trans h, hinput⟩⟩
  | _ => exact .inl ⟨rfl, rfl, fun id h => ⟨h, rfl⟩⟩

variable {action : DispatchAction}

theorem executed_append (h : k'.dispatched = k.dispatched ++ [action]) :
    k'.executed = k.executed ++ action.execution.toList := by
  rw [Kernel.executed, h]
  cases ha : action.execution <;> simp [Kernel.executed, ha]

theorem started_append (h : k'.dispatched = k.dispatched ++ [action]) :
    k'.started = k.started ++ action.start.toList := by
  rw [Kernel.started, h]
  cases ha : action.start <;> simp [Kernel.started, ha]

variable {q : String} {input : StoredOperation}

theorem promoted_executed (h : input.view.operationId = q) :
    (k.promoted q input).executed = k.executed ++ [q] := by
  rw [executed_append rfl, execution_dispatchActionFor, h]
  rfl

theorem promoted_started (h : (dispatchActionFor input).start = some q) :
    (k.promoted q input).started = k.started ++ [q] := by
  rw [started_append rfl, h]
  rfl

theorem not_settled_accepted : ¬RuntimeOperationState.accepted.Settled := by decide

theorem Kernel.Once.move (h : k.Once) (ho : k.Orderly X) (hm : Move W k k')
    (hcode : ∀ id message, ¬W.records id (some (errSuperseded, message))) : k'.Once := by
  rcases hm.dispatches with ⟨hexec, -, hqueue⟩ | ⟨q, input, r, hslot, hr, hacc, hinput, hid, rfl⟩
  · refine ⟨hexec ▸ h.nodup, fun id hi => (h.known id (hexec ▸ hi)).move ho.calm hm,
      fun id hq => hexec ▸ h.queued id (hqueue id hq).1, fun id input hq hi => ?_,
      fun id r' hr' hslot hsup => ?_⟩
    · exact h.input id input (hqueue id hq).1 ((hqueue id hq).2 ▸ hi)
    · obtain ⟨r, hr, hrew⟩ := hm.rewrites ho.calm hr'
      rw [hexec] at hslot
      rcases hrew with rfl | ⟨-, hset, hdiagnosis⟩
      · exact h.unspoiled id r' hr (hslot.imp_right fun hq => ⟨(hqueue id hq.1).1, hq.2⟩) hsup
      · have hi := hslot.resolve_right fun hq => not_settled_accepted (hq.2 ▸ hset)
        rcases hdiagnosis hsup with hold | ⟨message, hW⟩ | ⟨-, hq⟩
        · exact h.unspoiled id r hr (.inl hi) hold
        · exact hcode id message hW
        · exact h.queued id hq hi
  · have hexec := promoted_executed (k := k) hid
    refine ⟨?_, fun id hi => ?_, fun id hq => ?_, fun id input hq => ?_, fun id r' hr' hi => ?_⟩
    · rw [hexec]
      exact nodup_append.mpr ⟨h.nodup, nodup_singleton q, fun a ha b hb hab =>
        h.queued q hslot (by rwa [← mem_singleton.mp hb, ← hab])⟩
    · rw [hexec, mem_append, mem_singleton] at hi
      rcases hi with hi | rfl
      · exact h.known id hi
      · exact ⟨r, hr⟩
    · cases hq
    · cases hq
    · rw [hexec, mem_append, mem_singleton] at hi
      rcases hi with (hi | rfl) | ⟨hq, -⟩
      · exact h.unspoiled id r' hr' (.inl hi)
      · obtain rfl : r = r' := Option.mem_unique hr hr'
        exact h.unspoiled id r hr (.inr ⟨hslot, hacc⟩)
      · cases hq

theorem Kernel.InTurn.move (h : k.InTurn accepted) (ho : k.Once) (hm : Move W k k') :
    k'.InTurn accepted := by
  rcases hm.dispatches with ⟨-, hstart, hqueue⟩ | ⟨q, input, r, hslot, hr, hacc, hinput, hid, rfl⟩
  · rw [Kernel.InTurn, hstart]
    exact ⟨h.1, fun id hq => h.2 id (hqueue id hq).1⟩
  · rw [Kernel.InTurn, promoted_started (ho.input q input hslot hinput hid)]
    exact ⟨h.2 q hslot, fun id hq => by cases hq⟩

theorem Opens.start (hopens : Opens stored next k) : (dispatchActionFor stored).start =
    if stored.view.kind = .stop then none else some stored.view.operationId := by
  rw [start_dispatchActionFor hopens.supported, hopens.same_kind]

theorem Kernel.Once.not_mem (h : k.Once) (hopens : Opens stored next k) :
    stored.view.operationId ∉ k.executed :=
  fun hi => hopens.ne_of_readable (h.known _ hi) rfl

theorem Admits.dispatches (ha : Admits stored next k k') :
    (k'.executed = k.executed ++ [stored.view.operationId] ∧
      k'.started = k.started ++ (dispatchActionFor stored).start.toList ∧
      k'.admission.pendingRestart = none) ∨
    (k'.executed = k.executed ∧ k'.started = k.started ∧ stored.view.kind ≠ .stop ∧
      k'.admission.pendingRestart = some stored.view.operationId ∧
      k'.admission.queuedInput = some stored) := by
  have kept {k₁ : Kernel} (hc : Clears (k.opened stored next) k₁) :
      k₁.dispatched = k.dispatched := by cases hc <;> rfl
  have dispatched {k₁ : Kernel} (hc : Clears (k.opened stored next) k₁) (k' : Kernel)
      (h : k'.dispatched = k₁.dispatched ++ [dispatchActionFor stored]) :
      k'.executed = k.executed ++ [stored.view.operationId] ∧
        k'.started = k.started ++ (dispatchActionFor stored).start.toList := by
    rw [kept hc] at h
    exact ⟨by rw [executed_append h, execution_dispatchActionFor]; rfl, started_append h⟩
  cases ha with
  | stop opens kind clears =>
    obtain ⟨hexec, hstart⟩ := dispatched clears (stopAccepted _ stored) rfl
    exact .inl ⟨hexec, hstart, rfl⟩
  | queue opens kind busy clears =>
    refine .inr ⟨?_, ?_, kind, rfl, rfl⟩
    · exact (congrArg (filterMap execution) (kept clears) :)
    · exact (congrArg (filterMap start) (kept clears) :)
  | active opens kind idle clears =>
    obtain ⟨hexec, hstart⟩ := dispatched clears (activated _ stored) rfl
    exact .inl ⟨hexec, hstart, rfl⟩

theorem Kernel.Once.admits (h : k.Once) (ho : k.Orderly X) (ha : Admits stored next k k') :
    k'.Once := by
  obtain ⟨_, hopens, -⟩ := ha.cleared
  have hnew := h.not_mem hopens
  have hrecord := ha.record ho
  -- the other records are as before, or superseded in the queue
  have unspoiled {id : String} {r' : StoredOperation} (hr' : k'.record? id = some r')
      (hi : id ∈ k.executed ∨ id = stored.view.operationId) :
      r'.view.errorCode ≠ some errSuperseded := by
    by_cases heq : id = stored.view.operationId
    · subst heq
      obtain rfl : stored = r' := Option.mem_unique hrecord hr'
      simp [hopens.undiagnosed]
    · obtain ⟨r, hr, rfl | ⟨hq, -⟩⟩ := ha.rewrites heq hr'
      · exact h.unspoiled id r' hr (.inl (hi.resolve_right heq))
      · exact absurd (hi.resolve_right heq) (h.queued id hq)
  have known {id : String} (hi : id ∈ k.executed ∨ id = stored.view.operationId) :
      k'.Readable id := by
    rcases hi with hi | rfl
    · exact ha.readable (h.known id hi)
    · exact ⟨stored, hrecord⟩
  rcases ha.dispatches with ⟨hexec, -, hqueue⟩ | ⟨hexec, -, hkind, hqueue, hinput⟩
  · have mem {id : String} : id ∈ k'.executed ↔ id ∈ k.executed ∨ id = stored.view.operationId := by
      rw [hexec, mem_append, mem_singleton]
    refine ⟨?_, fun id hi => known (mem.mp hi), fun id hq => ?_, fun id input hq => ?_,
      fun id r' hr' hi => unspoiled hr' (mem.mp (hi.resolve_right fun hq => ?_))⟩
    · rw [hexec]
      exact nodup_append.mpr ⟨h.nodup, nodup_singleton _, fun a ha b hb hab =>
        hnew (by rwa [← mem_singleton.mp hb, ← hab])⟩
    all_goals simp [hqueue] at hq
  · refine ⟨hexec ▸ h.nodup, fun id hi => known (.inl (hexec ▸ hi)), fun id hq => ?_,
      fun id input hq hi _ => ?_, fun id r' hr' hi => unspoiled hr' ?_⟩
    · cases hqueue.symm.trans hq
      rwa [hexec]
    · cases hqueue.symm.trans hq
      cases hinput.symm.trans hi
      rw [hopens.start, if_neg hkind]
    · rw [hexec] at hi
      exact hi.imp_right fun hq => (Option.mem_unique hqueue hq.1).symm

/-- The start an acceptance adds to the order. -/
def StoredOperation.start? (stored : StoredOperation) : Option String :=
  if stored.view.kind = .stop then none else some stored.view.operationId

theorem Kernel.InTurn.admits (h : k.InTurn accepted) (ha : Admits stored next k k') :
    k'.InTurn (accepted ++ stored.start?.toList) := by
  obtain ⟨_, hopens, -⟩ := ha.cleared
  rcases ha.dispatches with ⟨-, hstart, hqueue⟩ | ⟨-, hstart, hkind, hqueue, -⟩
  · rw [Kernel.InTurn, hstart, hqueue, hopens.start]
    exact ⟨h.1.append (.refl _), fun id hq => by cases hq⟩
  · rw [Kernel.InTurn, hstart, hqueue, StoredOperation.start?, if_neg hkind]
    refine ⟨h.1.trans (sublist_append_left _ _), fun id hq => ?_⟩
    obtain rfl := Option.some.inj hq
    exact h.1.append (.refl _)

end Once

section Run

def Answer.start? : Answer → Option String
  | .admission (.ok (.accepted view)) => if view.kind = .stop then none else some view.operationId
  | _ => none

def acceptedStarts (tr : List (Step × Answer)) : List String := tr.filterMap fun x => x.2.start?

/-- A fault-free call whose caller leaves the diagnosis of superseded operations to the kernel. -/
def Step.Plain (k : Kernel) (step : Step) : Prop :=
  step.faultFree k ∧ ∀ id state message detail,
    step.op ≠ .finish id state (some (errSuperseded, message)) detail

/-- The call reports that what was handed to the executor has an unknown outcome. -/
def Step.EndsUnknown (k : Kernel) (step : Step) : Prop :=
  ∃ id error detail, step.op = .finish id .recoveryRequired error detail ∧ k.Running id

variable {step : Step}

theorem Step.Plain.diagnosis (h : step.Plain k₁) (id message : String) :
    ¬(step.op.settles k).records id (some (errSuperseded, message)) := by
  intro hW
  obtain ⟨op, faults⟩ := step
  cases op with
  | finish i state error detail =>
    obtain ⟨-, rfl⟩ := hW
    exact h.2 i state message detail rfl
  | commitExecution => cases hW.2
  | prepareRelaunch =>
    rcases hW.2 with h | h
    · cases h
    · have hcode : errSuperseded = errRecoveryRequired :=
        Option.some.inj (congrArg (Option.map Prod.fst) h)
      exact absurd hcode (by decide)
  | _ => exact hW

/-- The state of the dispatch after a trace. -/
def Dispatched (tr : List (Step × Answer)) (k : Kernel) : Prop :=
  k.InOrder ∧ k.Once ∧ k.InTurn (acceptedStarts tr)

theorem Kernel.Once.moves (ho : k.Orderly X) (hm : Moves W k k')
    (hW : ∀ i e, W.records i e → X i ∨ k.Out i)
    (hcode : ∀ id message, ¬W.records id (some (errSuperseded, message)))
    (h : k.Once ∧ k.InTurn accepted) : k'.Once ∧ k'.InTurn accepted := by
  induction hm with
  | refl => exact h
  | tail hm hstep ih => exact ⟨ih.1.move (ho.moves hm hW) hstep hcode, ih.2.move ih.1 hstep⟩

theorem Dispatched.exec {tr : List (Step × Answer)} (hplain : step.Plain k) (h : Dispatched tr k) :
    Dispatched (tr ++ [(step, ((kernelMachine env).exec k step).1)])
      ((kernelMachine env).exec k step).2 := by
  obtain ⟨ho, hk⟩ := h
  generalize hexec : (kernelMachine env).exec k step = out
  obtain ⟨answer, k'⟩ := out
  obtain ⟨-, hact, ho'⟩ := exec_acts ho hplain.1 hexec
  refine ⟨ho', ?_⟩
  have nothing {accepted : List String} {k₁ k₂ : Kernel} (ho : k₁.InOrder)
      (hm : Moves .nothing k₁ k₂) (h : k₁.Once ∧ k₁.InTurn accepted) :
      k₂.InOrder ∧ k₂.Once ∧ k₂.InTurn accepted :=
    ⟨ho.moves hm fun _ _ h => h.elim, Once.moves ho hm (fun _ _ h => h.elim) (fun _ _ h => h) h⟩
  have same (hanswer : answer.start? = none) :
      acceptedStarts (tr ++ [(step, answer)]) = acceptedStarts tr := by
    simp [acceptedStarts, hanswer]
  cases hact with
  | moves moves other =>
    have hanswer : answer.start? = none := by
      unfold Answer.start?
      split
      · exact absurd rfl (other _)
      · rfl
    rw [same hanswer]
    exact Once.moves (ho.mono fun _ h => h.elim) moves
      (X := fun i => ∃ e, (step.op.settles k).records i e) (fun _ e hi => .inl ⟨e, hi⟩)
      (fun id message => hplain.diagnosis id message) hk
  | replays _ moves =>
    rw [same rfl]
    exact (nothing ho moves.moves hk).2
  | accepts _ accepts =>
    obtain ⟨k₁, k₂, next, hgate, hadmits, hafter, rfl⟩ := accepts
    obtain ⟨ho₁, hk₁⟩ := nothing ho hgate.moves hk
    have hk₂ := And.intro (hk₁.1.admits ho₁ hadmits) (hk₁.2.admits hadmits)
    have haccepted (stored : StoredOperation) : acceptedStarts (tr ++ [(step,
        .admission (.ok (.accepted stored.view)))]) = acceptedStarts tr ++ stored.start?.toList := by
      unfold acceptedStarts
      cases hs : stored.start? <;> simp [StoredOperation.start?, Answer.start?] at hs ⊢ <;> simp [hs]
    rw [haccepted]
    exact (nothing (ho₁.admits hadmits) hafter.moves hk₂).2
  | refuses _ refuses =>
    rw [same rfl]
    cases refuses with
    | gate moves => exact (nothing ho moves.moves hk).2
    | fails moves _ fails =>
      obtain ⟨ho₁, hk₁⟩ := nothing ho moves.moves hk
      exact (nothing ho₁ (moves_quietly .refl (ho₁.fails fails)) hk₁).2

theorem dispatched_new {store : RuntimeStore} {identity : RuntimeIdentityView}
    (hstore : ¬store.Damaged) : Dispatched [] (Kernel.new store identity) := by
  refine ⟨inOrder_new hstore, ⟨nodup_nil, ?_, ?_, ?_, ?_⟩, .refl _, ?_⟩
  case refine_3 => rintro id input ⟨⟩
  case refine_4 => rintro id r - (⟨⟨⟩⟩ | ⟨⟨⟩, -⟩)
  all_goals rintro id ⟨⟩

/-- The record of `id` is not diagnosed as superseded. -/
def Kernel.Unspoiled (k : Kernel) (id : String) : Prop :=
  ∃ r, k.record? id = some r ∧ r.view.errorCode ≠ some errSuperseded

/-- Nothing but the end of an operation with unknown outcome supersedes the queue. -/
theorem Kernel.Unspoiled.moves (ho : k.Orderly X) (hm : Moves W k k')
    (hW : ∀ i e, W.records i e → X i ∨ k.Out i)
    (hcode : ∀ id message, ¬W.records id (some (errSuperseded, message))) (hqueue : ¬W.queue)
    (h : k.Unspoiled id) : k'.Unspoiled id := by
  induction hm with
  | refl => exact h
  | tail hm hstep ih =>
    obtain ⟨r, hr, hclean⟩ := ih
    have hcalm := (ho.moves hm hW).calm
    obtain ⟨r', hr'⟩ := Readable.move ⟨r, hr⟩ hcalm hstep
    refine ⟨r', hr', fun hsup => hclean ?_⟩
    obtain ⟨r₀, hr₀, rfl | ⟨-, -, hdiagnosis⟩⟩ := hstep.rewrites hcalm hr'
    · rwa [Option.mem_unique hr hr₀]
    · rw [Option.mem_unique hr hr₀]
      exact (hdiagnosis hsup).resolve_right fun h =>
        h.elim (fun ⟨message, h⟩ => hcode id message h) fun h => hqueue h.1

theorem Step.settles_queue (ho : k.InOrder) (h : ¬step.EndsUnknown k) :
    ¬(step.op.settles k).queue := by
  intro hqueue
  have known {id : String} (hrun : k.Running id) :
      ¬∃ r, k.record? id = some r ∧ r.view.state = .recoveryRequired := by
    rintro ⟨r, hr, hstate⟩
    obtain ⟨r', hr', hopen⟩ := ho.running id hrun
    obtain rfl : r = r' := Option.mem_unique hr hr'
    exact hopen.resolve_left not_false (.inr hstate)
  obtain ⟨op, faults⟩ := step
  cases op with
  | finish id state error detail =>
    obtain ⟨hrun, rfl | hunknown⟩ := hqueue
    · exact h ⟨id, error, detail, rfl, hrun⟩
    · exact known hrun hunknown
  | commitExecution =>
    obtain ⟨hrun, hstate | hunknown⟩ := hqueue
    · cases hstate
    · exact known hrun hunknown
  | _ => exact hqueue

theorem Kernel.Unspoiled.exec (ho : k.InOrder) (hplain : step.Plain k) (hends : ¬step.EndsUnknown k)
    (hanswer : ∀ view, ((kernelMachine env).exec k step).1 ≠ .admission (.ok (.accepted view)))
    (h : k.Unspoiled id) : ((kernelMachine env).exec k step).2.Unspoiled id := by
  generalize hexec : (kernelMachine env).exec k step = out at hanswer ⊢
  obtain ⟨answer, k'⟩ := out
  obtain ⟨-, hact, -⟩ := exec_acts ho hplain.1 hexec
  have nothing {k₁ k₂ : Kernel} (ho : k₁.InOrder) (hm : Moves .nothing k₁ k₂)
      (h : k₁.Unspoiled id) : k₂.Unspoiled id :=
    h.moves ho hm (fun _ _ h => h.elim) (fun _ _ h => h) fun h => h
  cases hact with
  | moves moves =>
    exact h.moves (ho.mono fun _ h => h.elim) moves
      (X := fun i => ∃ e, (step.op.settles k).records i e) (fun _ e hi => .inl ⟨e, hi⟩)
      (fun id message => hplain.diagnosis id message) (Step.settles_queue ho hends)
  | replays _ moves => exact nothing ho moves.moves h
  | accepts => exact absurd rfl (hanswer _)
  | refuses _ refuses =>
    cases refuses with
    | gate moves => exact nothing ho moves.moves h
    | fails moves _ fails =>
      have ho₁ : InOrder _ := ho.moves moves.moves fun _ _ h => h.elim
      exact nothing ho₁ (moves_quietly .refl (ho₁.fails fails)) (nothing ho moves.moves h)

/-- An accepted operation is not superseded by its own admission. -/
theorem Kernel.Orderly.unspoiled {view : RuntimeOperationView} (ho : k.InOrder)
    (hfree : step.faultFree k)
    (hanswer : ((kernelMachine env).exec k step).1 = .admission (.ok (.accepted view))) :
    ((kernelMachine env).exec k step).2.Unspoiled view.operationId := by
  obtain ⟨-, hact, -⟩ := exec_acts ho hfree (Prod.ext hanswer rfl)
  obtain ⟨holds, request, -, k₁, k₂, next, hgate, hadmits, hafter, rfl⟩ := hact.accepted rfl
  have ho₁ : k₁.InOrder := ho.moves hgate.moves fun _ _ h => h.elim
  exact .moves (W := .nothing) (ho₁.admits hadmits) hafter.moves (fun _ _ h => h.elim)
    (fun _ _ h => h) (fun h => h) ⟨_, hadmits.record ho₁, by simp [acceptedRecord]⟩

/-- At most once, in order of admission, and never after being superseded; the last accepted
start is superseded only by a Stop, or when what it waits behind ends with an unknown outcome. -/
theorem dispatch_once {store : RuntimeStore} {identity : RuntimeIdentityView}
    (hstore : ¬store.Damaged) {tr : List (Step × Answer)} {t : Kernel}
    (hrun : (kernelMachine env).Run Step.Plain (Kernel.new store identity) tr t) :
    t.executed.Nodup ∧ t.started.Sublist (acceptedStarts tr) ∧
    (∀ id r, t.record? id = some r → r.view.state = .cancelled →
      r.view.errorCode = some errSuperseded →
      ∀ tr' u, (kernelMachine env).Run Step.Plain t tr' u → id ∉ u.executed) ∧
    ∀ (step : Step) (view : RuntimeOperationView), step.Plain t →
      ((kernelMachine env).exec t step).1 = .admission (.ok (.accepted view)) →
      view.kind ≠ .stop → ∀ tr' u,
      (kernelMachine env).Run (fun k step => step.Plain k ∧ ¬step.EndsUnknown k)
        ((kernelMachine env).exec t step).2 tr' u →
      (∀ x ∈ tr', ∀ view', x.2 ≠ .admission (.ok (.accepted view'))) →
      ∃ r, u.record? view.operationId = some r ∧ r.view.errorCode ≠ some errSuperseded := by
  have reached {tr : List (Step × Answer)} {t : Kernel}
      (hrun : (kernelMachine env).Run Step.Plain (Kernel.new store identity) tr t) :
      Dispatched tr t :=
    hrun.trace_invariant (dispatched_new hstore) fun _ _ _ hplain h => h.exec hplain
  obtain ⟨ho, honce, hturn⟩ := reached hrun
  refine ⟨honce.nodup, hturn.1, fun id r hr hstate hcode tr' u hrun' hmem => ?_, ?_⟩
  · obtain ⟨-, hr'⟩ := (kept_terminal (by simp [hstate, RuntimeOperationState.isTerminal])).run
      (hrun'.mono fun _ _ h => h.1) ho hr
    exact (reached (hrun.append hrun')).2.1.unspoiled id r hr' (.inl hmem) hcode
  · intro step view hplain hanswer _ tr' u hrun' hlast
    have ho' : ((kernelMachine env).exec t step).2.InOrder := ho.exec hplain.1
    refine (hrun'.trace_invariant (I := fun tr' k =>
      (∀ x ∈ tr', ∀ view', x.2 ≠ .admission (.ok (.accepted view'))) →
        k.InOrder ∧ k.Unspoiled view.operationId)
      (fun _ => ⟨ho', ho.unspoiled hplain.1 hanswer⟩) ?_ hlast).2
    rintro tr' k step' ⟨hplain', hends⟩ ih hlast
    obtain ⟨hok, hk⟩ := ih fun x hx => hlast x (mem_append_left _ hx)
    exact ⟨hok.exec hplain'.1, hk.exec hok hplain' hends
      (hlast _ (mem_append_right _ (mem_singleton.mpr rfl)))⟩

/-- A recovered owner, a build, and a newer one that waits for it to end. -/
def Sample.rebuild (outcome : RuntimeOperationState) : List Step :=
  [Sample.calm .recover, Sample.calm (Sample.source "a" .start 0),
    Sample.calm (Sample.source "b" .start 0), Sample.calm (.finish "a" outcome none none)]

theorem Sample.follows_rebuild (outcome : RuntimeOperationState) (k : Kernel) :
    (kernelMachine owner).Follows Step.Plain k (rebuild outcome) := by
  refine follows_of_forall fun t step hstep => ?_
  simp only [rebuild, mem_cons, not_mem_nil, or_false] at hstep
  rcases hstep with rfl | rfl | rfl | rfl <;>
    exact ⟨rfl, fun _ _ _ _ h => by simp [calm, source] at h⟩

/-- The older build is cancelled: both were dispatched, in the order they were accepted. -/
theorem dispatch_once_rebuild :
    ((kernelMachine Sample.owner).after (Kernel.new Sample.store Sample.identity)
      (Sample.rebuild .cancelled)).executed = ["a", "b"] ∧
    ((kernelMachine Sample.owner).after (Kernel.new Sample.store Sample.identity)
      (Sample.rebuild .cancelled)).executed.Nodup := by
  have hstore : ¬store.Damaged := by
    rintro (h | h | ⟨_, h⟩) <;> cases h
  exact ⟨by decide +kernel,
    (dispatch_once hstore (.of_follows (follows_rebuild .cancelled _))).1⟩

/-- The older build ends with an unknown outcome: the newer one, accepted last and followed by no
Stop, is superseded. -/
theorem dispatch_supersedesLastAccepted : ∃ tr t r,
    (kernelMachine Sample.owner).Run Step.Plain (Kernel.new Sample.store Sample.identity) tr t ∧
    acceptedStarts tr = ["a", "b"] ∧ (∀ x ∈ tr, ¬StopAccepted x) ∧ t.record? "b" = some r ∧
    r.view.state = .cancelled ∧ r.view.errorCode = some errSuperseded := by
  obtain ⟨k, hk⟩ : ∃ k, k = Kernel.new store identity := ⟨_, rfl⟩
  have hstarts : acceptedStarts ((kernelMachine owner).trace k
      (rebuild .recoveryRequired)) = ["a", "b"] := by
    subst hk
    decide +kernel
  have hstop : (((kernelMachine owner).trace k (rebuild .recoveryRequired)).all
      fun x => match x.2 with
        | .admission (.ok (.accepted view)) => view.kind ≠ .stop
        | _ => true) = true := by
    subst hk
    decide +kernel
  have hrecord : ((((kernelMachine owner).after k
      (rebuild .recoveryRequired))).record? "b").any (fun r =>
        r.view.state = .cancelled ∧ r.view.errorCode = some errSuperseded) = true := by
    subst hk
    decide +kernel
  obtain ⟨r, hr, hsuperseded⟩ := (Option.any_eq_true ..).mp hrecord
  simp only [decide_eq_true_eq] at hsuperseded
  refine ⟨_, _, r, hk ▸ Run.of_follows (follows_rebuild .recoveryRequired k), hstarts, ?_,
    hr, hsuperseded⟩
  rintro x hx ⟨view, hview, hkind⟩
  have := all_eq_true.mp hstop x hx
  simp [hview, hkind] at this

end Run

end Rcoder.Runtime
