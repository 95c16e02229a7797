import Rcoder.Lib.Machine
import Rcoder.Runtime.AdmissionMoves

/-!
# Runs of the kernel

The entry points that change the kernel, as the inputs of a machine. A step names the entry
point and the outcomes its disk accesses meet; each one holds the admission lock for its
whole duration, so a run is a sequence of steps in any order.
-/

namespace Rcoder.Runtime

open Effect Kernel

inductive Op
  | admitWithAuxiliaryHold (holds : AdmissionHolds) (request : RuntimeOperationRequest)
  | finish (id : String) (state : RuntimeOperationState) (error : Option (String × String))
      (failureDetail : Option RuntimeFailureDetail)
  | commitExecution (id : String)
  | requestCancel (id : String)
  | markExecutionConsumed (id : String)
  | noteExecutionSessionEnded (reachedDriver : Bool)
  | prepareRelaunch
  | dispatchPendingAfterQuiescence
  | ensureStoppedIfIdle
  | recover
  | settleUnresolvedRecoveries
  | reconcileQuiescedStop
  | reconcileQuiescedOperation (receipt : Receipt)
  | beginForegroundFailureExit (id : String)
  deriving DecidableEq, Repr

inductive Answer
  | admission (outcome : Except AdmissionRejection AdmissionOutcome)
  | barrier (outcome : CommitBarrierOutcome)
  | flag (b : Bool)
  | operations (ids : List String)
  | notice (message : Option String)
  | done
  | error (e : Anyhow)
  deriving DecidableEq

def respond {α : Type} (answer : α → Answer) (m : KernelM α) (k : Kernel) : Answer × Kernel :=
  match m k with
  | .ok a k' => (answer a, k')
  | .error e k' => (.error e, k')

def answerAdmission :
    EStateM.Result AdmissionRejection Kernel AdmissionOutcome → Answer × Kernel
  | .ok outcome k => (.admission (.ok outcome), k)
  | .error rejection k => (.admission (.error rejection), k)

def Op.run (env : KernelEnv) (k : Kernel) : Op → Answer × Kernel
  | .admitWithAuxiliaryHold holds request =>
      answerAdmission (Runtime.admitWithAuxiliaryHold env holds request k)
  | .finish id state error detail =>
    respond (fun _ => .done) (Runtime.finish env id state error detail) k
  | .commitExecution id => respond .barrier (Runtime.commitExecution env id) k
  | .requestCancel id => respond .flag (Runtime.requestCancel env id) k
  | .markExecutionConsumed id => respond .flag (Runtime.markExecutionConsumed env id) k
  | .noteExecutionSessionEnded reached =>
    respond (fun _ => .done) (Runtime.noteExecutionSessionEnded reached) k
  | .prepareRelaunch => respond (fun _ => .done) (Runtime.prepareRelaunch env) k
  | .dispatchPendingAfterQuiescence =>
    respond .flag (Runtime.dispatchPendingAfterQuiescence env) k
  | .ensureStoppedIfIdle => respond .flag (Runtime.ensureStoppedIfIdle env) k
  | .recover => respond .operations (Runtime.recover env) k
  | .settleUnresolvedRecoveries => respond .operations (Runtime.settleUnresolvedRecoveries env) k
  | .reconcileQuiescedStop => respond .flag (Runtime.reconcileQuiescedStop env) k
  | .reconcileQuiescedOperation receipt =>
    respond .flag (Runtime.reconcileQuiescedOperation env receipt) k
  | .beginForegroundFailureExit id => respond .notice (Runtime.beginForegroundFailureExit env id) k

/-- An entry point called while the disk answers as `faults` says, then without faults. -/
structure Step where
  op : Op
  faults : List Fault
  deriving DecidableEq, Repr

namespace Kernel

def withFaults (k : Kernel) (faults : List Fault) : Kernel :=
  { k with disk := { k.disk with script := faults } }

end Kernel

def kernelMachine (env : KernelEnv) : Machine Kernel Step Answer where
  exec k step :=
    let (answer, k') := step.op.run env (k.withFaults step.faults)
    (answer, k'.withFaults [])

/-- What an entry point called in `k` may settle. -/
def Op.settles (k : Kernel) : Op → Settles
  | .finish id state error _ =>
    { Settles.none with
      records := fun i e => i = id ∧ e = error
      queue := EndsUnknown k id state
      states := fun i s => i = id ∧ s = state
      releases := (· = id) }
  | .commitExecution id =>
    { Settles.none with
      records := fun i e => i = id ∧ e = none
      queue := EndsUnknown k id .succeeded
      states := fun i s => i = id ∧ s = .succeeded ∧
        k.admission.activeOperationId = some id ∧ id ∉ k.cancelled
      releases := (· = id) }
  | .prepareRelaunch =>
    { Settles.none with
      records := fun i e => i ∈ k.admission.staleOperations ∧ (e = none ∨ e = sessionEnded)
      states := fun i s => s = .recoveryRequired ∨
        (s = .succeeded ∧ k.admission.interruptedStop = some i) }
  | .recover => { Settles.none with setsAside := True }
  | .settleUnresolvedRecoveries | .reconcileQuiescedStop | .reconcileQuiescedOperation _ =>
    { Settles.none with revives := True }
  | _ => .none

inductive Acts (env : KernelEnv) (op : Op) (k : Kernel) : Answer → Kernel → Prop
  | moves {answer : Answer} {k' : Kernel} (moves : Moves (op.settles k) k k')
      (other : ∀ outcome, answer ≠ .admission (.ok outcome)) : Acts env op k answer k'
  | replays {holds : AdmissionHolds} {request : RuntimeOperationRequest}
      {view : RuntimeOperationView} {k' : Kernel} (call : op = .admitWithAuxiliaryHold holds request)
      (moves : SettleMoves k k') (known : k'.Readable request.operationId) :
      Acts env op k (.admission (.ok (.replayed view))) k'
  | accepts {holds : AdmissionHolds} {request : RuntimeOperationRequest}
      {view : RuntimeOperationView} {k' : Kernel} (call : op = .admitWithAuxiliaryHold holds request)
      (accepts : Accepts env request view k k') :
      Acts env op k (.admission (.ok (.accepted view))) k'
  | refuses {holds : AdmissionHolds} {request : RuntimeOperationRequest}
      {rejection : AdmissionRejection} {k' : Kernel}
        (call : op = .admitWithAuxiliaryHold holds request)
      (refuses : Refuses env request k k') : Acts env op k (.admission (.error rejection)) k'

variable {env : KernelEnv} {k k' : Kernel} {op : Op} {α : Type} {m : KernelM α}

section

variable {answer : α → Answer} (hanswer : ∀ a outcome, answer a ≠ .admission (.ok outcome))
include hanswer

theorem respond_acts
    (h : Triple (· = k) m (fun _ => Moves (op.settles k) k) fun _ => Moves (op.settles k) k) :
    Acts env op k (respond answer m k).1 (respond answer m k).2 := by
  unfold respond
  cases hm : m k with
  | ok a => exact .moves (h.ok rfl hm) (hanswer a)
  | error => exact .moves (h.error rfl hm) (by simp)

theorem respond_keeps (h : Keeps (Moves (op.settles k) k) m) :
    Acts env op k (respond answer m k).1 (respond answer m k).2 :=
  respond_acts hanswer (h.pre fun _ hk => hk ▸ .refl)

end

theorem quietly_moves {W : Settles}
    (h : Triple (Quietly k) m (fun _ => Moves W k) fun _ => Moves W k) :
    Triple (· = k) m (fun _ => Moves W k) fun _ => Moves W k :=
  h.pre fun _ hk => hk ▸ Quietly.refl _

theorem Op.run_acts (op : Op) : Acts env op k (op.run env k).1 (op.run env k).2 := by
  cases op with
  | admitWithAuxiliaryHold holds request =>
    change Acts env _ k (answerAdmission _).1 (answerAdmission _).2
    cases hm : Runtime.admitWithAuxiliaryHold env holds request k with
    | ok outcome =>
      have h := admit_rule.ok rfl hm
      cases outcome with
      | replayed => exact .replays rfl h.1 h.2
      | accepted => exact .accepts rfl h
    | error => exact .refuses rfl (admit_rule.error rfl hm).1
  | finish =>
    exact respond_acts (by simp) (quietly_moves (finish_moves ⟨rfl, rfl⟩ ⟨rfl, rfl⟩ rfl fun h => h))
  | commitExecution =>
    exact respond_acts (by simp) (quietly_moves (commitExecution_moves ⟨rfl, rfl⟩
      (fun hactive hmark => ⟨rfl, rfl, hactive, hmark⟩) rfl fun h => h))
  | requestCancel =>
    exact respond_acts (by simp) (requestCancel_rule.post (fun _ _ h => h.1) fun _ _ h => h)
  | markExecutionConsumed => exact respond_keeps (by simp) markExecutionConsumed_moves
  | noteExecutionSessionEnded reached =>
    exact respond_keeps (by simp) (noteExecutionSessionEnded_moves reached)
  | prepareRelaunch =>
    exact respond_acts (by simp) (prepareRelaunch_moves
      (fun _ h => ⟨⟨h, .inl rfl⟩, h, .inr rfl⟩) fun _ _ => ⟨fun hstop => .inr ⟨rfl, hstop⟩, .inl rfl⟩)
  | dispatchPendingAfterQuiescence =>
    exact respond_keeps (by simp) dispatchPendingAfterQuiescence_moves
  | ensureStoppedIfIdle => exact respond_keeps (by simp) ensureStoppedIfIdle_moves
  | recover => exact respond_keeps (by simp) (recover_moves trivial)
  | settleUnresolvedRecoveries =>
    exact respond_keeps (by simp) (settleUnresolvedRecoveries_moves trivial)
  | reconcileQuiescedStop => exact respond_keeps (by simp) (reconcileQuiescedStop_moves trivial)
  | reconcileQuiescedOperation receipt =>
    exact respond_keeps (by simp) (reconcileQuiescedOperation_moves trivial receipt)
  | beginForegroundFailureExit => exact respond_keeps (by simp) beginForegroundFailureExit_moves

variable {answer : Answer}

/-- What a call keeps: what its own moves lead to, and what an admission that it makes keeps. -/
theorem Acts.keeps {I : Kernel → Prop} (hact : Acts env op k answer k') (hk : I k)
    (moves : Moves (op.settles k) k k' → I k')
    (nothing : ∀ {k₁ k₂}, Moves .nothing k₁ k₂ → I k₁ → I k₂)
    (admits : ∀ {holds request stored next k₁ k₂}, op = .admitWithAuxiliaryHold holds request →
      SettleMoves k k₁ → Admits stored next k₁ k₂ → I k₁ → I k₂)
    (fails : ∀ {holds request stored next k₁}, op = .admitWithAuxiliaryHold holds request →
      SettleMoves k k₁ → Opens stored next k₁ → Fails stored next k₁ k' → I k₁ → I k') : I k' := by
  cases hact with
  | moves hmoves => exact moves hmoves
  | replays _ hmoves => exact nothing hmoves.moves hk
  | accepts call accepts =>
    obtain ⟨k₁, k₂, next, hgate, hadmits, hafter, -⟩ := accepts
    exact nothing hafter.moves (admits call hgate hadmits (nothing hgate.moves hk))
  | refuses call refuses =>
    cases refuses with
    | gate hmoves => exact nothing hmoves.moves hk
    | fails hmoves opens hfails =>
      exact fails call hmoves opens hfails (nothing hmoves.moves hk)

/-- An answer of acceptance comes from the admission it answers. -/
theorem Acts.accepted {view : RuntimeOperationView} (h : Acts env op k answer k')
    (hanswer : answer = .admission (.ok (.accepted view))) :
    ∃ holds request, op = .admitWithAuxiliaryHold holds request ∧ Accepts env request view k k' := by
  cases h with
  | moves _ other => exact absurd hanswer (other _)
  | replays | refuses => cases hanswer
  | accepts call accepts =>
    cases hanswer
    exact ⟨_, _, call, accepts⟩

theorem exec_eq (step : Step) : (kernelMachine env).exec k step =
    ((step.op.run env (k.withFaults step.faults)).1,
      (step.op.run env (k.withFaults step.faults)).2.withFaults []) := rfl

/-- A disk without faults. -/
def Step.faultFree (_ : Kernel) (step : Step) : Prop := step.faults = []

theorem withFaults_of_calm (h : k.Calm) : k.withFaults [] = k := by
  obtain ⟨⟨store, script⟩, identity, admission, cancelled, dispatched⟩ := k
  obtain rfl : script = [] := h
  rfl

namespace Sample

/-! A small owner for concrete runs. -/

def owner : KernelEnv := ⟨fun request => request.kind.asStr, "/state"⟩

def identity : RuntimeIdentityView := ⟨"ws", "rt", "gen"⟩

def store : RuntimeStore := ⟨∅, [], .absent, none, ∅, ∅⟩

def source (id : String) (kind : RuntimeOperationKind) (revision : Nat) : Op :=
  .admitWithAuxiliaryHold {} ⟨id, "rt", revision, "ws", kind, .source "ws", none, none⟩

def calm (op : Op) : Step := ⟨op, []⟩

def recovered : Kernel :=
  ((kernelMachine owner).exec (Kernel.new store identity) (calm .recover)).2

theorem exec_recover : (kernelMachine owner).exec (Kernel.new store identity) (calm .recover) =
    (.operations [], recovered) :=
  Prod.ext (by decide +kernel) rfl

theorem unknown_of_any {id : String} (h : (k.record? id).any (!·.view.state.isTerminal) = true) :
    k.Unknown id := by
  cases hr : k.record? id with
  | none => simp [hr] at h
  | some r => exact ⟨r, hr, by simpa [hr] using h⟩

end Sample

end Rcoder.Runtime
