import Rcoder.Preview.InProcessChange
import Rcoder.Preview.PostgresChange

/-!
# Ports belong to one instance

Every stored row holds a port of the pool, whatever became of it, and the active rows hold
different ones. Both facts are kept by every change of the instances, so they hold in both
stores; the PostgreSQL store also has to be able to decode the rows it looks through.
-/

namespace Rcoder.Preview

open Effect Function Table
open Lifecycle (checkedSucc checkedSucc_lt)

variable {T T' : Instances} {request : Request} {a : Answer} {r r' : PreviewInstanceRecord}
  {key : String} {port : Nat}

structure Sound (r : PreviewInstanceRecord) : Prop where
  revision : 1 ≤ r.revision
  pid : ∀ pid, r.pid = some pid → 0 < pid
  port : ∃ port, r.port = some port ∧ isPreviewPort port = true

structure Exclusive (T : Instances) : Prop where
  sound : ∀ k r, T k = some r → Sound r
  apart : ∀ k k' r r', T k = some r → T k' = some r' → r.state.isActive = true →
    r'.state.isActive = true → r.port = r'.port → k = k'

variable {found : Option PreviewInstanceRecord}

section Steps

theorem Exclusive.empty : Exclusive fun _ => none :=
  ⟨fun _ _ => by rintro ⟨⟩, fun _ _ _ _ => by rintro ⟨⟩⟩

theorem checkedSucc_pos {n m : Int} (h : checkedSucc n = some m) (hn : 1 ≤ n) : 1 ≤ m :=
  hn.trans (checkedSucc_lt h).le

theorem nextRevision_pos {revision : Int} (h : nextRevision found = some revision)
    (hfound : ∀ r, found = some r → Sound r) : 1 ≤ revision := by
  cases found with
  | none =>
    cases h
    exact le_rfl
  | some r => exact checkedSucc_pos h (hfound r rfl).revision

theorem Sound.kept (h : Sound r) (hk : Kept r r') : Sound r' where
  revision := hk.revision ▸ h.revision
  pid pid hpid := (hk.pid pid hpid).elim (h.pid pid) id
  port := hk.port ▸ h.port

variable (h : Exclusive T)
include h

theorem Exclusive.update (hr : Sound r) (hport : r.port = some port)
    (hfree : r.state.isActive = true → Free T key port) :
    Exclusive (update T key (some r)) where
  sound k r₁ hr₁ := by
    obtain ⟨-, rfl⟩ | ⟨-, hr₁⟩ := update_eq_some.mp hr₁
    · exact hr
    · exact h.sound k r₁ hr₁
  apart k k' r₁ r₂ hr₁ hr₂ ha₁ ha₂ hp := by
    refine apart_update (R := fun x y => x.state.isActive = true ∧ y.state.isActive = true ∧
        x.port = y.port) (fun _ _ h => ⟨h.2.1, h.1, h.2.2.symm⟩)
      (fun i j x y hx hy hR => h.apart i j x y hx hy hR.1 hR.2.1 hR.2.2)
      (fun i x hx hi hR => ?_) k k' r₁ r₂ hr₁ hr₂ ⟨ha₁, ha₂, hp⟩
    exact (hfree hR.2.1).vacant i x hx hi hR.1 (hR.2.2.trans hport)

theorem Exclusive.free (hr : T key = some r) (hactive : r.state.isActive = true)
    (hport : r.port = some port) : Free T key port where
  pool := by
    obtain ⟨port', hport', hpool⟩ := (h.sound key r hr).port
    cases hport.symm.trans hport'
    exact hpool
  vacant k r₁ hr₁ hk ha hp := hk (h.apart k key r₁ r hr₁ hr ha hactive (hp.trans hport.symm))

theorem Exclusive.touched (ht : Touched request T T') : Exclusive T' := by
  refine ⟨fun k r' hr' => ?_, fun k k' r₁ r₂ hr₁ hr₂ ha₁ ha₂ hp => ?_⟩
  · obtain ⟨r, hr, hkept⟩ := ht.origin hr'
    exact (h.sound k r hr).kept hkept
  · obtain ⟨s₁, hs₁, hk₁⟩ := ht.origin hr₁
    obtain ⟨s₂, hs₂, hk₂⟩ := ht.origin hr₂
    exact h.apart k k' s₁ s₂ hs₁ hs₂ (hk₁.active ha₁) (hk₂.active ha₂) (hk₁.port ▸ hk₂.port ▸ hp)

theorem Exclusive.change (hc : Change request a T T') : Exclusive T' := by
  cases hc with
  | admission idle revised free =>
    refine h.update ⟨nextRevision_pos revised fun r => h.sound _ r, ?_, _, rfl, free.pool⟩ rfl
      fun _ => free
    rintro _ ⟨⟩
  | retry stored applied free =>
    obtain ⟨-, -, -, -, -, hpid, -, ⟨hfalse, -⟩ | ⟨-, -, -, next, hnext, rfl⟩⟩ :=
      applyStartPortRetry_ok applied
    · cases hfalse
    refine h.update ⟨checkedSucc_pos hnext (h.sound _ _ stored).revision, fun pid hp => ?_, _, rfl,
      free.pool⟩ rfl fun _ => free
    exact absurd (hpid.symm.trans hp) (Option.some_ne_none pid).symm
  | stop stored active revised =>
    obtain ⟨port, hport, hpool⟩ := (h.sound _ _ stored).port
    refine h.update ⟨checkedSucc_pos revised (h.sound _ _ stored).revision,
      (h.sound _ _ stored).pid, port, hport, hpool⟩ hport fun _ => h.free stored active hport
  | exhausted stored active =>
    obtain ⟨port, hport, hpool⟩ := (h.sound _ _ stored).port
    exact h.update ⟨(h.sound _ _ stored).revision, (h.sound _ _ stored).pid, port, hport, hpool⟩
      hport fun _ => h.free stored active hport
  | touch _ touched => exact h.touched touched

end Steps

section Names

structure Named (r : PreviewInstanceRecord) : Prop where
  key : r.previewKey ≠ ""
  inst : r.instanceId ≠ ""
  operation : r.operationId ≠ ""
  host : r.hostId ≠ ""

/-- A new generation comes with its names. -/
def Introduces (request : Request) : Prop :=
  match request.call with
  | .acceptStart input =>
    input.previewKey ≠ "" ∧ input.instanceId ≠ "" ∧ input.operationId ≠ "" ∧ input.host.hostId ≠ ""
  | .acceptStop _ operationId => operationId ≠ ""
  | _ => True

theorem Named.kept (h : Named r) (hk : Kept r r') : Named r' where
  key := hk.key ▸ h.key
  inst := hk.inst ▸ h.inst
  operation := hk.operation ▸ h.operation
  host := hk.host ▸ h.host

theorem named_update (h : ∀ k r, T k = some r → Named r) (hr : Named r) :
    ∀ k r', update T key (some r) k = some r' → Named r' := by
  intro k r' hr'
  obtain ⟨-, rfl⟩ | ⟨-, hr'⟩ := update_eq_some.mp hr'
  · exact hr
  · exact h k r' hr'

theorem named_change (h : ∀ k r, T k = some r → Named r) (hc : Change request a T T')
    (hnames : Introduces request) : ∀ k r, T' k = some r → Named r := by
  cases hc with
  | admission =>
    obtain ⟨hkey, hinst, hop, hhost⟩ := hnames
    exact named_update h ⟨hkey, hinst, hop, hhost⟩
  | retry stored applied =>
    obtain ⟨-, -, -, -, -, -, -, ⟨hfalse, -⟩ | ⟨-, -, -, next, -, rfl⟩⟩ :=
      applyStartPortRetry_ok applied
    · cases hfalse
    have hr := h _ _ stored
    exact named_update h ⟨hr.key, hr.inst, hr.operation, hr.host⟩
  | stop stored | exhausted stored =>
    have hr := h _ _ stored
    exact named_update h ⟨hr.key, hr.inst, hnames, hr.host⟩
  | touch _ touched =>
    intro k r' hr'
    obtain ⟨r, hr, hkept⟩ := touched.origin hr'
    exact (h k r hr).kept hkept

/-- Rows of different keys are of different instances. -/
def InstancesApart (T : Instances) : Prop :=
  ∀ k k' r r', T k = some r → T k' = some r' → r.instanceId = r'.instanceId → k = k'

theorem InstancesApart.update (h : InstancesApart T) (hr : T key = some r)
    (hinst : r'.instanceId = r.instanceId) : InstancesApart (Function.update T key (some r')) :=
  apart_update (fun _ _ => .symm) h fun i x hx hi heq =>
    hi (h i key x r hx hr (heq.trans hinst))

/-- Only an admission brings a new instance. -/
theorem apart_change (h : InstancesApart T) (hc : Change request a T T')
    (hstart : ∀ input, request.call ≠ .acceptStart input) : InstancesApart T' := by
  cases hc with
  | admission => exact absurd rfl (hstart _)
  | retry stored applied =>
    obtain ⟨-, -, -, -, -, -, -, ⟨hfalse, -⟩ | ⟨-, -, -, next, -, rfl⟩⟩ :=
      applyStartPortRetry_ok applied
    · cases hfalse
    exact h.update stored rfl
  | stop stored | exhausted stored => exact h.update stored rfl
  | touch _ touched =>
    intro k k' x x' hx hx' hxx
    obtain ⟨x₀, hx₀, hkept⟩ := touched.origin hx
    obtain ⟨x₀', hx₀', hkept'⟩ := touched.origin hx'
    exact h k k' x₀ x₀' hx₀ hx₀' (hkept.inst ▸ hkept'.inst ▸ hxx)

structure Lawful (T : Instances) : Prop where
  exclusive : Exclusive T
  named : ∀ k r, T k = some r → Named r
  apart : InstancesApart T

theorem Lawful.empty : Lawful fun _ => none where
  exclusive := .empty
  named _ _ := by rintro ⟨⟩
  apart _ _ _ _ := by rintro ⟨⟩

theorem Lawful.update (h : Lawful T) (hs : Sound r) (hn : Named r) (hport : r.port = some port)
    (hfree : r.state.isActive = true → Free T key port)
    (hinst : ∀ k x, T k = some x → k ≠ key → x.instanceId ≠ r.instanceId) :
    Lawful (update T key (some r)) where
  exclusive := h.exclusive.update hs hport hfree
  named := named_update h.named hn
  apart := apart_update (fun _ _ => .symm) h.apart hinst

theorem Lawful.other_instance (h : Lawful T) (hr : T key = some r) :
    ∀ k x, T k = some x → k ≠ key → x.instanceId ≠ r.instanceId :=
  fun k _ hx hk heq => hk (h.apart k key _ r hx hr heq)

theorem Lawful.kept (h : Lawful T) (hr : T key = some r) (hk : Kept r r') :
    Lawful (Function.update T key (some r')) where
  exclusive := by
    obtain ⟨port, hport, -⟩ := (h.exclusive.sound key r hr).port
    exact h.exclusive.update ((h.exclusive.sound key r hr).kept hk) (hk.port ▸ hport) fun ha =>
      h.exclusive.free hr (hk.active ha) hport
  named := named_update h.named ((h.named key r hr).kept hk)
  apart := h.apart.update hr hk.inst

end Names

namespace Postgres

variable {env : Env} {t : Tables}

theorem decode_eq (h : Sound r) (hn : Named r) : decode r = .ok r := by
  obtain ⟨port, hport, hpool⟩ := h.port
  have hrange : 4000 ≤ port ∧ port ≤ 55000 := (of_decide_eq_true hpool).1
  have hpid : ¬r.pid.any (· ≤ 0) = true := by
    cases hp : r.pid with
    | none => simp
    | some pid =>
      have := h.pid pid hp
      simpa using this
  have hrev := h.revision
  have hnum : ¬r.port.any (65535 < ·) = true := by
    rw [hport]
    simp only [Option.any_some, decide_eq_true_eq]
    omega
  have hids : ¬(r.revision < 1 ∨ r.instanceId = "" ∨ r.hostId = "" ∨ r.pid.any (· ≤ 0) ∨
      r.port = some 0 ∨ (r.state.isActive ∧ r.port.isNone)) := by
    rw [hport]
    simp only [Option.some.injEq, Option.isNone_some, Bool.false_eq_true, and_false, or_false,
      not_or]
    exact ⟨by omega, hn.inst, hn.host, hpid, by omega⟩
  unfold decode failIf
  rw [if_neg hnum, if_neg hids, if_neg hn.operation]
  rfl

/-- A call that fails leaves the tables, and one that succeeds has been given the names it
introduces. -/
theorem exec_introduces (env : Env) (t : Tables) (request : Request) :
    (exec env t request).2 = t ∨ Introduces request := by
  have checked {α : Type} {f : α → Answer} {m : TxM α} {P : Prop} (hm : Gives m t fun _ _ => P) :
      (respond f m t).2 = t ∨ P := by
    obtain ⟨v, t', hrun, -⟩ | ⟨e, ht⟩ := transact_cases m t
    · exact .inr (hm v t' hrun)
    · exact .inl (congrArg Prod.snd ht)
  obtain ⟨call, now⟩ := request
  cases call with
  | acceptStart =>
    exact checked (.ensure_bind fun h _ _ _ => ⟨h.1, h.2.2.1, h.2.2.2.1, h.2.2.2.2⟩)
  | acceptStop => exact checked (.ensure_bind fun h _ _ _ => h)
  | _ => exact .inr trivial

/-- Rows that satisfy the constraints have instance ids of their own. -/
theorem constraintsHold_apart (h : constraintsHold t.instances.rows) {k k' : String}
    (hr : t.table k = some r) (hr' : t.table k' = some r') (hinst : r.instanceId = r'.instanceId) :
    k = k' := by
  have hsame := List.inj_on_of_nodup_map h.2.1 (find?_mem hr) (find?_mem hr') hinst
  rw [← table_key hr, ← table_key hr', hsame]

/-- The rows of a PostgreSQL store after a call. -/
theorem lawful_exec (h : Lawful t.table) : Lawful (exec env t request).2.table where
  exclusive := h.exclusive.change (exec_change env t request)
  named := by
    rcases exec_introduces env t request with hsame | hnames
    · rw [hsame]
      exact h.named
    · exact named_change h.named (exec_change env t request) hnames
  apart := by
    have hchange := exec_change env t request
    by_cases hstart : ∃ input, request.call = .acceptStart input
    · obtain ⟨input, hcall⟩ := hstart
      obtain ⟨call, now⟩ := request
      obtain rfl : call = .acceptStart input := hcall
      have hrun : (exec env t ⟨.acceptStart input, now⟩).2.instances = t.instances ∨
          constraintsHold (exec env t ⟨.acceptStart input, now⟩).2.instances.rows :=
        Gives.transact (gives_acceptStart.mono fun _ _ h => h.2) (.inl rfl)
      rcases hrun with hsame | hold
      · rw [show (exec env t ⟨.acceptStart input, now⟩).2.table = t.table from
          congrArg find? hsame]
        exact h.apart
      · exact fun k k' r r' => constraintsHold_apart hold
    · exact apart_change h.apart hchange fun input hcall => hstart ⟨input, hcall⟩

theorem lawful_after (env : Env) (requests : List Request) :
    Lawful ((machine env).after .new requests).table :=
  Machine.after_invariant (s := Tables.new) (I := fun t => Lawful t.table) Lawful.empty
    (fun _ _ h => lawful_exec h) requests

end Postgres

section Lookup

/-- The answer to a lookup by port: the active row that holds it. -/
def FindsOwner (T : Instances) (port : Nat) (a : Answer) : Prop :=
  ∃ found, a = .found found ∧
    ∀ r, found = some r ↔ ∃ k, T k = some r ∧ r.state.isActive = true ∧ r.port = some port

/-- Where ports are exclusive, any active row on the port that comes from the table is the owner. -/
theorem Exclusive.finds (h : Exclusive T)
    (hfound : ∀ r, found = some r → ∃ k, T k = some r ∧ r.state.isActive = true ∧
      r.port = some port) (hmissed : found = none → ∀ k r, T k = some r → r.state.isActive = true →
      r.port ≠ some port) : FindsOwner T port (.found found) := by
  refine ⟨found, rfl, fun r => ⟨hfound r, ?_⟩⟩
  rintro ⟨k, hr, hactive, hport⟩
  cases found with
  | none => exact absurd hport (hmissed rfl k r hr hactive)
  | some r₁ =>
    obtain ⟨k₁, hr₁, hactive₁, hport₁⟩ := hfound r₁ rfl
    obtain rfl := h.apart k₁ k r₁ r hr₁ hr hactive₁ hactive (hport₁.trans hport.symm)
    exact hr₁.symm.trans hr

variable {rows : List PreviewInstanceRecord}

theorem later_cases (best : Option PreviewInstanceRecord) (row : PreviewInstanceRecord) :
    InProcess.later best row = some row ∨ InProcess.later best row = best := by
  cases best with
  | none => exact .inl rfl
  | some =>
    exact ite_eq_or_eq ..

/-- `max_by_key` answers with one of the rows it runs over. -/
theorem foldl_later_mem {best : Option PreviewInstanceRecord}
    (h : rows.foldl InProcess.later best = some r) : best = some r ∨ r ∈ rows := by
  induction rows generalizing best with
  | nil => exact .inl h
  | cons row rows ih =>
    rcases ih h with hstep | hmem
    · rcases later_cases best row with hlater | hlater
      · cases hlater.symm.trans hstep
        exact .inr List.mem_cons_self
      · exact .inl (hlater.symm.trans hstep)
    · exact .inr (List.mem_cons_of_mem row hmem)

theorem foldl_later_isSome {best : PreviewInstanceRecord} :
    (rows.foldl InProcess.later (some best)).isSome = true := by
  induction rows generalizing best with
  | nil => rfl
  | cons row rows ih =>
    rcases later_cases (some best) row with hlater | hlater <;> rw [List.foldl_cons, hlater] <;>
      exact ih

theorem InProcess.findActiveByPort_finds {s : State} (h : Exclusive s.table) :
    FindsOwner s.table port (.found (findActiveByPort s port)) := by
  let rows := (values s.instances).filter fun r => r.state.isActive ∧ r.port = some port
  have mem_rows {r : PreviewInstanceRecord} : r ∈ rows ↔
      r ∈ s.instances.rows ∧ r.state.isActive = true ∧ r.port = some port := by
    rw [List.mem_filter, mem_values]
    simp
  refine h.finds (fun r hr => ?_) fun hnone k r hr hactive hport => ?_
  · rcases foldl_later_mem hr with hbest | hmem
    · cases hbest
    · obtain ⟨hstored, hactive⟩ := mem_rows.mp hmem
      exact ⟨r.previewKey, find?_of_mem hstored, hactive⟩
  · have hmem : r ∈ rows := mem_rows.mpr ⟨find?_mem hr, hactive, hport⟩
    obtain ⟨row, rest, hrows⟩ := List.exists_cons_of_ne_nil (List.ne_nil_of_mem hmem)
    have hsome : (rows.foldl later none).isSome = true := by
      rw [hrows]
      exact foldl_later_isSome
    rw [show rows.foldl later none = none from hnone] at hsome
    cases hsome

theorem Postgres.findActiveByPort_run {t : Tables} (h : Lawful t.table) (port : Nat) :
    findActiveByPort port t =
      .ok (t.instances.rows.find? fun r => r.port = some port ∧ r.state.isActive) t := by
  refine (bind_of_ok get_run).trans ?_
  cases hr : t.instances.rows.find? fun r => r.port = some port ∧ r.state.isActive with
  | none => rfl
  | some row =>
    have hrow : t.table row.previewKey = some row :=
      find?_of_mem (List.mem_of_find?_eq_some hr)
    exact bind_of_ok (fromExcept_run (decode_eq (h.exclusive.sound _ _ hrow) (h.named _ _ hrow)))

theorem Postgres.findActiveByPort_finds {env : Env} {t : Tables} (h : Lawful t.table) (now : Nat) :
    FindsOwner t.table port (exec env t ⟨.findActiveByPort port, now⟩).1 := by
  have hrun := findActiveByPort_run h port
  have hexec : (exec env t ⟨.findActiveByPort port, now⟩).1 =
      .found (t.instances.rows.find? fun r => r.port = some port ∧ r.state.isActive) := by
    simp only [exec, respond, transact, hrun, answer]
  rw [hexec]
  refine h.exclusive.finds (fun r hr => ?_) fun hnone k r hr hactive hport => ?_
  · have holder := List.find?_some hr
    obtain ⟨hport, hactive⟩ := of_decide_eq_true holder
    exact ⟨r.previewKey, find?_of_mem (List.mem_of_find?_eq_some hr), hactive, hport⟩
  · have hno := List.find?_eq_none.mp hnone r (find?_mem hr)
    exact hno (decide_eq_true ⟨hport, hactive⟩)

end Lookup

theorem InProcess.exclusive_after (requests : List Request) :
    Exclusive (InProcess.machine.after .new requests).table :=
  Machine.after_invariant (I := fun s => Exclusive s.table) .empty
    (fun s request h => h.change (exec_change s request)) requests

/-- No two active rows hold the same port, and each holds one of the pool. -/
def PortsUnique (T : Instances) : Prop :=
  (∀ k r, T k = some r → r.state.isActive = true →
    ∃ port, r.port = some port ∧ isPreviewPort port = true) ∧
  ∀ k k' r r', T k = some r → T k' = some r' → r.state.isActive = true →
    r'.state.isActive = true → r.port = r'.port → k = k'

theorem Exclusive.portsUnique (h : Exclusive T) : PortsUnique T :=
  ⟨fun k r hr _ => (h.sound k r hr).port, h.apart⟩

/-- Whatever calls have been made, in either store: the active instances hold different ports of
the pool, and a lookup by port answers with the one that holds it. -/
theorem ports_unique (env : Postgres.Env) (requests : List Request) (port now : Nat) :
    (PortsUnique (InProcess.machine.after .new requests).table ∧
      FindsOwner (InProcess.machine.after .new requests).table port
        (InProcess.exec (InProcess.machine.after .new requests) ⟨.findActiveByPort port, now⟩).1) ∧
    PortsUnique ((Postgres.machine env).after .new requests).table ∧
      FindsOwner ((Postgres.machine env).after .new requests).table port
        (Postgres.exec env ((Postgres.machine env).after .new requests)
          ⟨.findActiveByPort port, now⟩).1 := by
  have hlocal := InProcess.exclusive_after requests
  have hstored := Postgres.lawful_after env requests
  refine ⟨⟨hlocal.portsUnique, ?_⟩, hstored.exclusive.portsUnique, ?_⟩
  · exact InProcess.findActiveByPort_finds hlocal
  · exact Postgres.findActiveByPort_finds hstored now

end Rcoder.Preview
