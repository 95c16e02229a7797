import Rcoder.Runtime.Orderly

/-!
# The order of the slots along fault-free runs

A settled operation leaves its slot in the same call, so every entry point of a fault-free run
keeps the slots in order without exception.
-/

namespace Rcoder.Runtime

open Effect Kernel Machine

variable {W : Settles} {env : KernelEnv} {id : String} {k k₀ k₁ k' : Kernel}
  {op r stored : StoredOperation} {next : Nat} {X : String → Prop}
  {error : Option (String × String)} {detail : Option RuntimeFailureDetail}

section Release

variable {state : RuntimeOperationState}

/-- A settled operation that does not run. -/
def Freed (id : String) (r : StoredOperation) (k : Kernel) : Prop :=
  k.record? id = some r ∧ ¬k.Running id

theorem Freed.steady : Steady (Freed id r) :=
  steady_record.and fun _ _ _ h => h

variable {q : String} {r' : StoredOperation}

theorem Freed.promoted {input : StoredOperation} (h : Freed id r k) (hset : r.view.state.Settled)
    (hr' : k.record? q = some r') (hacc : r'.view.state = .accepted) :
    Freed id r (k.promoted q input) := by
  refine ⟨h.1, fun hrun => hrun.elim (fun hactive => ?_) fun hstop => h.2 (.inr hstop)⟩
  obtain rfl : q = id := Option.some.inj hactive
  obtain rfl : r = r' := Option.mem_unique h.1 hr'
  rw [hacc] at hset
  exact absurd hset (by decide)

theorem Freed.superseded {message : String} (h : Freed id r k) (hset : r.view.state.Settled)
    (hr' : k.record? q = some r') (hu : ¬r'.view.state.Settled) :
    Freed id r (k.publish (r'.superseded message)) := by
  have hid := RuntimeStore.record?_id hr'
  refine ⟨(record?_publish_ne fun heq => hu ?_).trans h.1, h.2⟩
  obtain rfl : id = q := heq.trans hid
  obtain rfl : r = r' := Option.mem_unique h.1 hr'
  exact hset

section

variable (hset : r.view.state.Settled)
include hset

theorem promoteQueued_freed :
    Triple (fun k => Freed id r k ∧ k.admission.activeOperationId = none) (promoteQueued env)
      (fun _ => Freed id r) fun _ => Freed id r :=
  promoteQueued_rule .steady (fun _ h => h)
    fun _ _ _ _ h _ _ _ hr hacc _ _ _ => h.promoted hset hr hacc

theorem settleQueued_freed {reason : String} :
    Keeps (Freed id r) (settleQueuedRestartOnTerminalFailure env reason) :=
  settleQueued_rule .steady (fun _ _ _ _ h _ hr hu => h.superseded hset hr hu)
    (fun _ _ _ h _ _ _ => h) fun _ _ _ _ h _ hr hu => h.superseded hset hr hu

theorem releaseActive_frees :
    Triple (fun k => k.record? id = some r ∧
        (k.admission.activeOperationId = some id → k.admission.pendingStop ≠ some id))
      (releaseSlots.releaseActive env id state)
      (fun _ k => k.record? id = some r ∧ k.admission.activeOperationId ≠ some id)
      fun _ k => ¬k.Running id := by
  refine .get fun k₁ => .ite (fun hslot => ?_) fun hslot => .pure ?_
  · refine .bind (R := fun _ k => Freed id r k ∧ k.admission.activeOperationId = none)
      (modifyAdmission_rule ?_) fun _ => ?_
    · rintro _ ⟨rfl, hr, hapart⟩
      exact ⟨⟨hr, fun h => h.elim (fun h => by cases h) (hapart hslot)⟩, rfl⟩
    have released {k : Kernel} (h : Freed id r k) :
        k.record? id = some r ∧ k.admission.activeOperationId ≠ some id :=
      ⟨h.1, fun hactive => h.2 (.inl hactive)⟩
    refine .get fun k₂ => .ite (fun _ => ?_) fun _ => ?_
    · exact (promoteQueued_freed hset).imp (fun k h => h.1 ▸ h.2) (fun _ _ h => released h)
        fun _ _ h => h.2
    · refine .onlyIf (fun _ => ?_) fun k _ h => released (h.1 ▸ h.2.1)
      exact (settleQueued_freed hset).imp (fun k h => h.1 ▸ h.2.1) (fun _ _ h => released h)
        fun _ _ h => h.2
  · rintro _ ⟨rfl, hr, -⟩
    exact ⟨hr, hslot⟩

theorem releaseStop_frees :
    Triple (fun k => k.record? id = some r ∧ k.admission.activeOperationId ≠ some id)
      (releaseSlots.releaseStop env id state) (fun _ k => ¬k.Running id)
      fun _ k => ¬k.Running id := by
  refine .get fun k₁ => .ite (fun hslot => ?_) fun hslot => .pure ?_
  · refine .bind (R := fun _ => Freed id r) (modifyAdmission_rule ?_) fun _ => ?_
    · rintro _ ⟨rfl, hr, hactive⟩
      exact ⟨hr, fun h => h.elim hactive fun h => by cases h⟩
    refine .get fun k₂ => .ite (fun hidle => ?_) fun _ => ?_
    · refine (promoteQueued_freed hset).imp ?_ (fun _ _ h => h.2) fun _ _ h => h.2
      rintro _ ⟨rfl, h⟩
      exact ⟨h, hidle.2⟩
    · refine .onlyIf (fun _ => ?_) ?_
      · exact (settleQueued_freed hset).imp (fun k h => h.1 ▸ h.2) (fun _ _ h => h.2)
          fun _ _ h => h.2
      · rintro _ - ⟨rfl, h⟩
        exact h.2
  · rintro _ ⟨rfl, -, hactive⟩
    exact fun h => h.elim hactive hslot

theorem releaseSlots_frees :
    Triple (fun k => k.record? id = some r ∧
        (k.admission.activeOperationId = some id → k.admission.pendingStop ≠ some id))
      (releaseSlots env id state) (fun _ k => ¬k.Running id) fun _ k => ¬k.Running id := by
  refine .bind (R := fun _ k => k.record? id = some r ∧
      (k.admission.activeOperationId = some id → k.admission.pendingStop ≠ some id))
    (.modify fun k h => h) fun _ => ?_
  refine .bind (R := fun _ k => k.record? id = some r ∧
      (k.admission.activeOperationId = some id → k.admission.pendingStop ≠ some id))
    (.onlyIf (fun _ => protect_rule fun k h => h) fun k _ h => h) fun _ => ?_
  exact .bind (releaseActive_frees hset) fun _ => releaseStop_frees hset

end

/-- A finished operation no longer runs; a call that fails before has released nothing. -/
theorem finish_releases
    (hapart : k₀.admission.activeOperationId = some id → k₀.admission.pendingStop ≠ some id) :
    Triple (Quietly k₀) (finish env id state error detail) (fun _ k => ¬k.Running id)
      fun _ k => ¬k.Running id ∨ Quietly k₀ k ∨ k₀.disk.script ≠ [] ∧
        k.admission = k₀.admission ∧ k.cancelled = k₀.cancelled := by
  have apart {k : Kernel} (hq : k.admission = k₀.admission) :
      k.admission.activeOperationId = some id → k.admission.pendingStop ≠ some id :=
    hq ▸ hapart
  refine .bind (R := fun stored k => (k.record? id = some stored ∧
      (k.admission.activeOperationId = some id → k.admission.pendingStop ≠ some id)) ∧
      stored.view.state.Settled)
    ((writeTerminal_rule steady_quietly).post ?_ ?_) fun stored k hk => ?_
  · rintro stored k (⟨hq, hr, hs⟩ | ⟨k₁, r, hk₁, hr, hu, hs, rfl, hq⟩)
    · exact ⟨⟨hr, apart hq.admission⟩, hs⟩
    · refine ⟨⟨?_, apart (hq.admission.trans hk₁.admission)⟩, hs⟩
      rw [hq.record?, ← RuntimeStore.record?_id hr]
      exact record?_publish_self
  · rintro e k (⟨hq, -⟩ | ⟨k₁, r, hk₁, hscript, -, -, -, hq⟩)
    · exact .inr (.inl hq)
    · refine .inr (.inr ⟨fun hnil => hscript ?_, hq.admission.trans hk₁.admission, ?_⟩)
      · exact List.suffix_nil.mp (hnil ▸ hk₁.2.2)
      · exact hq.cancelled.trans hk₁.cancelled
  · exact (releaseSlots_frees hk.2).fails (fun _ _ h => .inl h) k hk.1

/-- Without faults, a call that fails before the release has changed nothing. -/
theorem finish_frees (h : k₀.Orderly X) :
    Triple (Quietly k₀) (finish env id state error detail) (fun _ k => ¬k.Running id)
      fun _ k => ¬k.Running id ∨ Quietly k₀ k := by
  refine (finish_releases (h.apart id)).fails fun _ k hk => ?_
  rcases hk with hk | hk | ⟨htorn, -⟩
  · exact .inl hk
  · exact .inr hk
  · exact absurd h.calm htorn

end Release

section Runs

/-- The slots are in order, without exception. -/
abbrev Kernel.InOrder (k : Kernel) : Prop := k.Orderly fun _ => False

theorem finish_inOrder {state : RuntimeOperationState}
    : Keeps InOrder (finish env id state error detail) := by
  intro k hk
  let W : Settles := Op.settles k (.finish id state error detail)
  have settled {k' : Kernel} (hm : Moves W k k') (hidle : ¬k'.Running id) : k'.InOrder :=
    ((hk.mono fun _ h => h.elim).moves hm fun _ _ h => .inl h.1).settled fun _ h => h ▸ hidle
  refine ((finish_moves (W := W) ⟨rfl, rfl⟩ ⟨rfl, rfl⟩ rfl fun h => h).and (finish_frees hk)).imp
    (fun _ h => h) ?_ ?_ k ⟨.refl k, .refl k⟩
  · exact fun _ k' h => settled h.1 h.2
  · rintro _ k' ⟨hm, hidle | hq⟩
    · exact settled hm hidle
    · exact hk.moves (W := .nothing) (moves_quietly .refl hq) fun _ _ h => h.elim

theorem steady_inOrder : Steady InOrder :=
  fun _ _ hq h => h.quiet hq

theorem commitExecution_inOrder : Keeps InOrder (commitExecution env id) := by
  intro k hk
  exact commitExecution_rule steady_inOrder (fun _ _ h _ _ => h) (fun _ _ h _ => h)
    (fun _ _ _ => .pre finish_inOrder fun _ h => h.1) k ⟨rfl, hk⟩

variable {answer : Answer} {P : Kernel → Prop} {step : Step}

theorem Kernel.Orderly.acts {op : Op} (h : k.Orderly X) (hact : Acts env op k answer k')
    (hW : ∀ i e, (op.settles k).records i e → X i ∨ k.Out i) : k'.Orderly X := by
  have nothing {k₁ k₂ : Kernel} (h : k₁.Orderly X) (hm : Moves .nothing k₁ k₂) : k₂.Orderly X :=
    h.moves hm fun _ _ h => h.elim
  exact hact.keeps h (fun hm => h.moves hm hW) (fun hm h => nothing h hm)
    (fun _ _ ha h => h.admits ha) fun _ _ _ hf h => nothing h (moves_quietly .refl (h.fails hf))

theorem respond_snd {α : Type} {answer : α → Answer} {m : KernelM α} (h : Keeps P m)
    (hk : P k) : P (respond answer m k).2 := by
  unfold respond
  cases hm : m k with
  | ok => exact h.ok hk hm
  | error => exact h.error hk hm

theorem Op.run_inOrder (op : Op) (h : k.InOrder) : (op.run env k).2.InOrder := by
  cases op with
  | finish => exact respond_snd finish_inOrder h
  | commitExecution => exact respond_snd commitExecution_inOrder h
  | prepareRelaunch =>
    exact h.acts (Op.run_acts .prepareRelaunch) fun _ _ hi => .inr (mem_staleOperations h hi.1)
  | _ => exact h.acts (Op.run_acts _) fun _ _ hi => hi.elim

theorem exec_calm (h : k.InOrder) (hfree : step.faultFree k) :
    (kernelMachine env).exec k step = step.op.run env k := by
  obtain ⟨op, faults⟩ := step
  obtain rfl : faults = [] := hfree
  have hk : k.withFaults [] = k := withFaults_of_calm h.calm
  rw [exec_eq, hk, withFaults_of_calm (op.run_inOrder h).calm]

theorem exec_acts (h : k.InOrder) (hfree : step.faultFree k)
    (hexec : (kernelMachine env).exec k step = (answer, k')) :
    step.op.run env k = (answer, k') ∧ Acts env step.op k answer k' ∧ k'.InOrder := by
  rw [exec_calm h hfree] at hexec
  have hact : Acts env step.op k _ _ := Op.run_acts step.op
  have horder : (step.op.run env k).2.InOrder := step.op.run_inOrder h
  rw [hexec] at hact horder
  exact ⟨hexec, hact, horder⟩

theorem Kernel.Orderly.exec (h : k.InOrder) (hfree : step.faultFree k) :
    ((kernelMachine env).exec k step).2.InOrder := by
  rw [exec_calm h hfree]
  exact step.op.run_inOrder h

/-- What every move and every acceptance of an orderly kernel keeps. -/
structure Kept (P : Kernel → Prop) : Prop where
  move : ∀ {X W k k'}, k.Orderly X → Move W k k' → P k → P k'
  admits : ∀ {X stored next k k'}, k.Orderly X → Admits stored next k k' → P k → P k'

theorem Kept.moves (hP : Kept P) (h : k.Orderly X) (hm : Moves W k k')
    (hW : ∀ i e, W.records i e → X i ∨ k.Out i) (hk : P k) : P k' := by
  induction hm with
  | refl => exact hk
  | tail hm hstep ih => exact hP.move (h.moves hm hW) hstep ih

theorem Kept.acts (hP : Kept P) {op : Op} (h : k.InOrder) (hact : Acts env op k answer k')
    (h' : k'.InOrder) (hk : P k) : P k' := by
  have nothing {k₁ k₂ : Kernel} (hm : Moves .nothing k₁ k₂) (h : k₁.InOrder ∧ P k₁) :
      k₂.InOrder ∧ P k₂ :=
    ⟨h.1.moves hm fun _ _ h => h.elim, hP.moves h.1 hm (fun _ _ h => h.elim) h.2⟩
  refine (hact.keeps ⟨h, hk⟩ (fun hm => ⟨h', ?_⟩) nothing
    (fun _ _ ha h => ⟨h.1.admits ha, hP.admits h.1 ha h.2⟩)
    fun _ _ _ hf h => nothing (moves_quietly .refl (h.1.fails hf)) h).2
  exact hP.moves (h.mono fun _ h => h.elim) hm (X := fun i => ∃ e, (op.settles k).records i e)
    (fun _ e hi => .inl ⟨e, hi⟩) hk

theorem Kept.exec (hP : Kept P) (h : k.InOrder) (hfree : step.faultFree k)
    (hk : P k) : P ((kernelMachine env).exec k step).2 := by
  rw [exec_calm h hfree]
  exact hP.acts h (Op.run_acts step.op) (step.op.run_inOrder h) hk

variable {tr : List (Step × Answer)}

/-- Along a fault-free run the slots stay in order, and what is kept stays. -/
theorem Kept.run (hP : Kept P) (hrun : (kernelMachine env).Run Step.faultFree k tr k')
    (h : k.InOrder) (hk : P k) : k'.InOrder ∧ P k' :=
  hrun.invariant (I := fun k => k.InOrder ∧ P k) ⟨h, hk⟩ fun _ _ hfree hk =>
    ⟨hk.1.exec hfree, hP.exec hk.1 hfree hk.2⟩

theorem inOrder_run (hrun : (kernelMachine env).Run Step.faultFree k tr k') (h : k.InOrder) :
    k'.InOrder :=
  hrun.invariant h fun _ _ hfree hk => hk.exec hfree

theorem inOrder_new {store : RuntimeStore} {identity : RuntimeIdentityView}
    (hstore : ¬store.Damaged) : (Kernel.new store identity).InOrder where
  calm := rfl
  intact := hstore
  running id h := by rcases h with h | h <;> cases h
  apart id h := by cases h
  queued id h := by cases h
  stopped id h := by cases h
  interrupted id h := by cases h
  consumed id h := by cases h
  cancelled id h := by cases h
  revisions id r h := by rcases h with (h | h) | h <;> cases h

end Runs

end Rcoder.Runtime
