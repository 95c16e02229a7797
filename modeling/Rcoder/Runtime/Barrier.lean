import Rcoder.Runtime.FaultFree
import Rcoder.Runtime.Final

/-!
# The Stop barrier

The revision of the intent never goes back, a record keeps the revision it was accepted at, and
a Stop advances the intent past everything accepted before it. So nothing accepted before a Stop
passes the commit barrier after it, while a request queued behind the Stop still can.
-/

namespace Rcoder.Runtime

open Effect Kernel Machine

variable {W : Settles} {env : KernelEnv} {id : String} {k k₀ k₁ k' : Kernel}
  {op r stored : StoredOperation} {next : Nat} {X : String → Prop} {r' : StoredOperation}

section Revisions

/-- The parts of a record that no later write changes. -/
def StoredOperation.Same (r r' : StoredOperation) : Prop :=
  r'.view.revision = r.view.revision ∧ r'.view.kind = r.view.kind ∧ r'.request = r.request

theorem StoredOperation.Same.refl (r : StoredOperation) : r.Same r := ⟨rfl, rfl, rfl⟩

theorem interruptedRecord_same : r.Same (interruptedRecord r) := by
  unfold interruptedRecord
  split_ifs <;> exact .refl r

theorem recoveredRecord_same : r.Same (recoveredRecord r) := by
  unfold recoveredRecord
  split_ifs <;> exact .refl r

theorem reconciledRecord_same {receipt : Receipt} {cancelled : Bool} :
    r.Same (reconciledRecord receipt cancelled r) := by
  unfold reconciledRecord
  split_ifs <;> exact .refl r

/-- A published record is the one of its operation; the others are as before. -/
theorem record_publish_cases (hr' : (k.publish op).record? id = some r') :
    k.record? id = some r' ∨ id = op.view.operationId ∧ r' = op := by
  by_cases hid : id = op.view.operationId
  · subst hid
    exact .inr ⟨rfl, (Option.mem_unique record?_publish_self hr').symm⟩
  · exact .inl ((record?_publish_ne hid).symm.trans hr')

theorem Overwrites.same {faults : List Fault} (h : Overwrites W faults id r (some r')) :
    r.Same r' := by
  cases h with
  | settled | completed | confirmed | superseded => exact .refl r
  | interrupted => exact interruptedRecord_same
  | recovered => exact recoveredRecord_same
  | reconciled => exact reconciledRecord_same

/-- A move opens no record and changes none in what it was accepted for. -/
theorem Move.record (hm : Move W k k') (hr' : k'.record? id = some r') :
    ∃ r, k.record? id = some r ∧ r.Same r' := by
  cases hr : k.record? id with
  | none => cases hr'.symm.trans (hm.absent hr)
  | some r =>
    refine ⟨r, rfl, ?_⟩
    rcases hm.overwrites hr with hkept | hover
    · obtain rfl := Option.mem_unique hkept hr'
      exact .refl r
    · rw [hr'] at hover
      exact hover.same

/-- The revision of the intent never goes back. -/
theorem Move.revision_le (hm : Move W k k') (hintact : ¬k.disk.store.Damaged) :
    k.revision ≤ k'.revision := by
  cases hm with
  | quiet disk => exact (steady_revision k _ disk rfl).ge
  | asideDesired damaged => exact absurd damaged hintact
  | repair damaged => exact absurd damaged hintact
  | stopIntent succ => exact checkedSucc_eq_some succ ▸ Nat.le_succ _
  | _ => exact le_rfl

end Revisions

/-- Whatever slot the operation is in, the intent has moved past it. -/
def Kernel.Barred (k : Kernel) (id : String) : Prop :=
  k.Readable id ∧ ∀ r, k.Running id ∨ k.admission.pendingRestart = some id →
    k.record? id = some r → r.view.revision < k.revision

section Barred

theorem Kernel.Barred.move (h : k.Barred id) (ho : k.Orderly X) (hm : Move W k k') :
    k'.Barred id := by
  obtain ⟨hrun, hqueue⟩ := hm.slots id
  refine ⟨h.1.move ho.calm hm, fun r' hslot hr' => ?_⟩
  obtain ⟨r, hr, hsame⟩ := hm.record hr'
  rw [hsame.1]
  exact (h.2 r (hslot.elim hrun fun hq => .inr (hqueue hq)) hr).trans_le (hm.revision_le ho.intact)

theorem Clears.record (hc : Clears k k') (hr' : k'.record? id = some r') :
    ∃ r, k.record? id = some r ∧ r.Same r' := by
  cases hc with
  | vacant | settled => exact ⟨r', hr', .refl r'⟩
  | @superseded q message r slot record =>
    rcases record_publish_cases hr' with hr' | ⟨hid, rfl⟩
    · exact ⟨r', hr', .refl r'⟩
    · obtain rfl : id = q := hid.trans (RuntimeStore.record?_id record :)
      exact ⟨r, record, rfl, rfl, rfl⟩

theorem Opens.ne_of_readable (hopens : Opens stored next k) (h : k.Readable id) :
    id ≠ stored.view.operationId := by
  obtain ⟨r, hr⟩ := h
  exact hopens.record_ne hr

section

variable (ha : Admits stored next k k')
include ha

theorem Admits.slots (hne : id ≠ stored.view.operationId)
    (h : k'.Running id ∨ k'.admission.pendingRestart = some id) :
    k.Running id ∨ k.admission.pendingRestart = some id := by
  have other : some stored.view.operationId ≠ some id := fun h => hne (Option.some.inj h).symm
  cases ha with
  | stop opens kind clears =>
    simp only [Kernel.Running, stopAccepted, clears.slots, other, reduceCtorEq, or_false] at h ⊢
    exact .inl (.inl h)
  | queue opens kind busy clears =>
    simp only [enqueued, withAdmission, clears.slots, other, or_false] at h ⊢
    exact .inl h
  | active opens kind idle clears =>
    simp only [Kernel.Running, activated, clears.slots, other, reduceCtorEq, false_or,
      or_false] at h ⊢
    exact .inl (.inr h)

theorem Admits.cleared : ∃ k₁, Opens stored next k ∧
    Clears (k.opened stored next) k₁ ∧ k'.disk = k₁.disk ∧ k'.cancelled = k.cancelled := by
  have marks {k₁ : Kernel} (hc : Clears (k.opened stored next) k₁) : k₁.cancelled = k.cancelled := by
    cases hc <;> rfl
  cases ha with
  | stop opens _ clears => exact ⟨_, opens, clears, rfl, (marks clears :)⟩
  | queue opens _ _ clears => exact ⟨_, opens, clears, rfl, (marks clears :)⟩
  | active opens _ _ clears => exact ⟨_, opens, clears, rfl, (marks clears :)⟩

theorem Admits.record (h : k.Orderly X) : k'.record? stored.view.operationId = some stored := by
  obtain ⟨k₁, hopens, hc, hdisk, -⟩ := ha.cleared
  rw [Kernel.record?, hdisk]
  exact (h.ready hopens hc).record

theorem Admits.readable (hread : k.Readable id) : k'.Readable id := by
  obtain ⟨k₁, hopens, hc, hdisk, -⟩ := ha.cleared
  have hopened : (k.opened stored next).Readable id := .publish hread
  have hrecord : k'.record? id = k₁.record? id := by rw [Kernel.record?, hdisk]; rfl
  unfold Kernel.Readable
  rw [hrecord]
  cases hc with
  | vacant | settled => exact hopened
  | superseded => exact hopened.publish

/-- An older operation keeps its record and gets no new slot when another is accepted. -/
theorem Admits.barred (hread : k.Readable id)
    (hlt : ∀ r, k.Running id ∨ k.admission.pendingRestart = some id → k.record? id = some r →
      r.view.revision < next) : k'.Barred id := by
  obtain ⟨k₁, hopens, hc, hdisk, -⟩ := ha.cleared
  have hne := hopens.ne_of_readable hread
  have hrecord (i : String) : k'.record? i = k₁.record? i := by rw [Kernel.record?, hdisk]; rfl
  have hrevision : k'.revision = next := by
    rw [Kernel.revision, hdisk]
    exact hc.revision
  refine ⟨ha.readable hread, fun r' hslot hr' => ?_⟩
  rw [hrecord] at hr'
  obtain ⟨r, hr, hsame⟩ := hc.record hr'
  rw [hsame.1, hrevision]
  exact hlt r (ha.slots hne hslot) ((record?_publish_ne hne).symm.trans hr)

end

theorem Kernel.Barred.admits (h : k.Barred id) (ha : Admits stored next k k') : k'.Barred id := by
  obtain ⟨_, hopens, -⟩ := ha.cleared
  exact ha.barred h.1 fun r hslot hr => (h.2 r hslot hr).trans_le hopens.revision_le

/-- A Stop bars everything accepted before it. -/
theorem Kernel.Orderly.barred (h : k.Orderly X) (ha : Admits stored next k k')
    (hkind : stored.view.kind = .stop) (hread : k.Readable id) : k'.Barred id := by
  obtain ⟨_, hopens, -⟩ := ha.cleared
  refine ha.barred hread fun r hslot hr => (h.revisions id r hslot hr).trans_lt ?_
  rw [checkedSucc_eq_some (hopens.next_stop hkind)]
  exact Nat.lt_succ_self _

theorem kept_readable : Kept fun k => k.Readable id where
  move ho hm h := h.move ho.calm hm
  admits _ ha h := ha.readable h

theorem kept_barred : Kept fun k => k.Barred id where
  move ho hm h := h.move ho hm
  admits _ ha h := h.admits ha

theorem steady_barred : Steady fun k => k.Barred id := by
  intro k d hq h
  have hk : Quietly k { k with disk := d } := ⟨rfl, hq⟩
  refine ⟨h.1.imp fun _ => hk.record?.trans, fun r hslot hr => ?_⟩
  rw [hk.record?] at hr
  exact (h.2 r hslot hr).trans_eq (steady_revision k d hq rfl).symm

/-- A barred operation does not pass the commit barrier. -/
theorem commitExecution_barred : Triple (fun k => k.Barred id) (commitExecution env id)
    (fun outcome _ => outcome ≠ .committed) fun _ _ => True := by
  intro k₀ hk₀
  have hst : Steady fun k => k.Barred id ∧ k.admission = k₀.admission :=
    steady_barred.and fun _ _ _ h => h
  refine commitExecution_rule hst (fun _ _ _ h _ => h) (fun _ _ _ _ => trivial)
    (fun r hactive _ k h => ?_) k₀ ⟨rfl, hk₀, rfl⟩
  obtain ⟨⟨hbarred, hslots⟩, hr, hcurrent⟩ := h
  exact absurd hcurrent (hbarred.2 r (.inl (.inl (hslots ▸ hactive))) hr).ne'

end Barred

section Run

/-- The request of that operation was answered with its view. -/
def Admitted (id : String) (x : Step × Answer) : Prop :=
  ∃ holds request outcome, x.1.op = .admitWithAuxiliaryHold holds request ∧ request.operationId = id ∧
    x.2 = .admission (.ok outcome)

/-- A Stop was accepted. -/
def StopAccepted (x : Step × Answer) : Prop :=
  ∃ view, x.2 = .admission (.ok (.accepted view)) ∧ view.kind = .stop

/-- The operation passed the commit barrier. -/
def Committed (id : String) (x : Step × Answer) : Prop :=
  x.1.op = .commitExecution id ∧ x.2 = .barrier .committed

variable {answer : Answer}

/-- An admitted operation has a record. -/
theorem Acts.readable {op : Op} (hact : Acts env op k answer k') (h : k.InOrder)
    (hcall : ∃ holds request outcome, op = .admitWithAuxiliaryHold holds request ∧
      request.operationId = id ∧
      answer = .admission (.ok outcome)) : k'.Readable id := by
  obtain ⟨holds, request, outcome, rfl, rfl, rfl⟩ := hcall
  cases hact with
  | moves _ other => exact absurd rfl (other outcome)
  | replays call _ known =>
    cases call
    exact known
  | accepts call accepts =>
    cases call
    obtain ⟨k₁, k₂, next, hgate, hadmits, hafter, -⟩ := accepts
    have h₁ : k₁.InOrder := h.moves hgate.moves fun _ _ h => h.elim
    exact kept_readable.moves (W := .nothing) (h₁.admits hadmits) hafter.moves
      (fun _ _ h => h.elim) ⟨_, hadmits.record h₁⟩

/-- An accepted Stop bars every operation with a record. -/
theorem Acts.barred {op : Op} {view : RuntimeOperationView} (hact : Acts env op k answer k')
    (h : k.InOrder) (hread : k.Readable id)
    (hstop : answer = .admission (.ok (.accepted view)) ∧ view.kind = .stop) : k'.Barred id := by
  obtain ⟨holds, request, -, k₁, k₂, next, hgate, hadmits, hafter, rfl⟩ := hact.accepted hstop.1
  have h₁ : k₁.InOrder := h.moves hgate.moves fun _ _ h => h.elim
  have hread₁ := kept_readable.moves h hgate.moves (fun _ _ h => h.elim) hread
  exact kept_barred.moves (W := .nothing) (h₁.admits hadmits) hafter.moves (fun _ _ h => h.elim)
    (h₁.barred hadmits hstop.2 hread₁)

theorem respond_barrier_ne (h : k.Barred id) :
    (Op.run env k (.commitExecution id)).1 ≠ .barrier .committed := by
  change (respond _ _ _).1 ≠ _
  unfold respond
  cases hm : commitExecution env id k with
  | ok =>
    have hne := commitExecution_barred.ok h hm
    simpa using hne
  | error => simp

/-- Nothing admitted before a Stop passes the commit barrier after it. -/
theorem not_committed_after_stop {tr₁ tr₂ tr₃ : List (Step × Answer)} {a s c : Step × Answer}
    {t : Kernel} (h : k.InOrder)
    (hrun : (kernelMachine env).Run Step.faultFree k (tr₁ ++ [a] ++ tr₂ ++ [s] ++ tr₃ ++ [c]) t)
    (ha : Admitted id a) (hs : StopAccepted s) : ¬Committed id c := by
  obtain ⟨k₆, hrun, hfree₆, hc⟩ := hrun.last
  obtain ⟨k₅, hrun, hrun₅⟩ := hrun.split
  obtain ⟨k₄, hrun, hfree₄, hs₄⟩ := hrun.last
  obtain ⟨k₃, hrun, hrun₃⟩ := hrun.split
  obtain ⟨k₂, hrun₂, hfree₂, ha₂⟩ := hrun.last
  obtain ⟨-, hact, h₃⟩ := exec_acts (inOrder_run hrun₂ h) hfree₂ ha₂
  have hread := hact.readable (inOrder_run hrun₂ h) ha
  obtain ⟨h₄, hread₄⟩ := kept_readable.run hrun₃ h₃ hread
  obtain ⟨-, hact, h₅⟩ := exec_acts h₄ hfree₄ hs₄
  obtain ⟨view, hview⟩ := hs
  obtain ⟨h₆, hbarred⟩ := kept_barred.run hrun₅ h₅ (hact.barred h₄ hread₄ hview)
  obtain ⟨hop, -, -⟩ := exec_acts h₆ hfree₆ hc
  rintro ⟨hcommit, hanswer⟩
  rw [hcommit, hanswer] at hop
  exact respond_barrier_ne hbarred (congrArg Prod.fst hop)

end Run

end Rcoder.Runtime
