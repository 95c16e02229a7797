import Rcoder.Preview.Change
import Rcoder.Preview.InProcess

/-!
# The changes of the in-process store
-/

namespace Rcoder.Preview.InProcess

open Effect Function Check
open Lifecycle (checkedSucc)

variable {request : Request} {s : State} {r r' : PreviewInstanceRecord} {key : String}
  {now port : Nat} {α : Type} {f : α → Answer}

def State.table (s : State) : Instances := s.instances.find?

/-- A program whose every way out is a change of the instances. -/
def Performs (request : Request) (f : α → Answer) (m : StoreM α) (s : State) : Prop :=
  Triple (fun s' => s' = s) m (fun v s' => Change request (f v) s.table s'.table)
    fun e s' => Change request (.error e) s.table s'.table

theorem Performs.respond {m : StoreM α} (h : Performs request f m s) :
    Change request (respond f m s).1 s.table (respond f m s).2.table := by
  unfold InProcess.respond
  cases hm : m s with
  | ok => exact h.ok rfl hm
  | error => exact h.error rfl hm

theorem mem_values {key : α → String} {t : Table key} {x : α} :
    x ∈ values t ↔ x ∈ t.rows := List.mem_insertionSort _

theorem putInstance_table : ({ s with instances := s.instances.put r } : State).table =
      update s.table r.previewKey (some r) := Table.find?_put

theorem table_key (h : s.table key = some r) : r.previewKey = key := Table.find?_key h

theorem table_mem (h : s.table key = some r) : r ∈ values s.instances :=
  mem_values.mpr (Table.find?_mem h)

section Checks

variable {β : Type} {e : PreviewStoreError} {m : β → StoreM α}

theorem performs_get {m : State → StoreM α} (h : Performs request f (m s) s) :
    Performs request f (get >>= m) s := by
  refine .get fun s₁ => ?_
  rintro _ ⟨rfl, rfl⟩
  exact h _ rfl

theorem performs_ensure {c : Prop} [Decidable c] {m : Unit → StoreM α}
    (h : c → Performs request f (m ()) s) : Performs request f (ensure c e >>= m) s :=
  .bind (.ensure (fun _ hc hs => ⟨hs, hc⟩)
    fun _ _ hs => hs ▸ Change.refused) fun _ => .assume h

theorem performs_require {o : Option β} (h : ∀ a, o = some a → Performs request f (m a) s) :
    Performs request f (require o e >>= m) s :=
  .bind (.require (fun _ _ ha hs => ⟨hs, ha⟩)
    fun _ _ hs => hs ▸ Change.refused) fun a => .assume (h a)

theorem performs_fromExcept {x : Except PreviewStoreError β}
    (h : ∀ a, x = .ok a → Performs request f (m a) s) : Performs request f (fromExcept x >>= m) s :=
  .bind (.fromExcept (fun _ _ ha hs => ⟨hs, ha⟩)
    fun _ _ _ hs => hs ▸ Change.refused) fun a => .assume (h a)

theorem performs_pure {v : α} (h : ∀ r, f v ≠ .outcome (.admitted r)) :
    Performs request f (pure v) s :=
  .pure fun _ hs => hs ▸ Change.same h

theorem performs_record {m : State → PreviewInstanceRecord → StoreM α}
    (h : ∀ r, s.table key = some r → Performs request f (m s r) s) :
    Performs request f (get >>= fun s₁ => require (s₁.instances.find? key) e >>= m s₁) s :=
  performs_get (performs_require h)

end Checks

section Start

variable {input : AcceptStartInput} {o : Option PreviewInstanceRecord}

/-- A revision is given out over an idle row; every other outcome admits nothing. -/
theorem startRevision_ok {verdict : Int ⊕ AcceptStartOutcome}
    (h : startRevision input o = .ok verdict) :
    verdict.elim (fun revision => nextRevision o = some revision ∧ ∀ r, o = some r →
        r.state.isActive = true → r.state = .unknown ∧ input.recoverUnknownEvidence.isSome = true)
      fun outcome => ∀ r, Answer.outcome outcome ≠ .outcome (.admitted r) := by
  cases o with
  | none =>
    cases h
    exact ⟨rfl, fun _ hr => absurd hr (Option.some_ne_none _).symm⟩
  | some =>
    unfold startRevision at h
    simp only at h
    split at h
    case _ | _ | _ | _ =>
      cases h
      rintro _ ⟨⟩
    · rename_i hs he
      obtain ⟨-, h⟩ := failIf_bind h
      obtain ⟨revision, hrevision, h⟩ := demand_bind h
      cases h
      refine ⟨hrevision, ?_⟩
      rintro _ ⟨⟩ -
      exact ⟨hs, by rw [he]; rfl⟩
    all_goals
      rename_i hs
      obtain ⟨revision, hrevision, h⟩ := demand_bind h
      cases h
      refine ⟨hrevision, ?_⟩
      rintro _ ⟨⟩ hactive
      rw [hs] at hactive
      cases hactive

theorem mem_portPool : port ∈ portPool ↔ previewPortMin ≤ port ∧ port ≤ previewPortMax := by
  simp only [portPool, List.mem_range'_1]
  omega

theorem startPort_ok {occupied : List Nat} {requested : Option Nat}
    (h : startPort occupied requested = .ok port) : isPreviewPort port = true ∧ port ∉ occupied := by
  cases requested with
  | some =>
    obtain ⟨hpool, h⟩ := failIf_bind h
    obtain ⟨hfree, h⟩ := failIf_bind h
    cases h
    exact ⟨not_not.mp hpool, hfree⟩
  | none =>
    have hmem := List.min?_mem (demand_eq_ok.mp h)
    simp only [List.mem_filter, mem_portPool, decide_eq_true_eq] at hmem
    refine ⟨?_, hmem.2.2⟩
    exact decide_eq_true ⟨hmem.1, hmem.2.1⟩

theorem acceptStart_performs :
    Performs ⟨.acceptStart input, now⟩ .outcome (acceptStart input now) s := by
  refine performs_get (performs_fromExcept fun verdict hv => ?_)
  cases verdict with
  | inr => exact performs_pure (startRevision_ok hv)
  | inl revision =>
    refine performs_fromExcept fun port hp => ?_
    rintro s rfl
    obtain ⟨hrev, hidle⟩ := startRevision_ok hv
    obtain ⟨hpool, hfree⟩ := startPort_ok hp
    have htable := putInstance_table (s := { s with
      operations := s.operations.put
        ⟨input.operationId, input.previewKey, .start, .accepted, some port⟩ })
      (r := input.record revision port now)
    change Change _ _ _ (State.table _)
    rw [htable]
    refine .admission hidle hrev ⟨hpool, fun k r hr hk hactive hport => hfree ?_⟩
    have hkey : r.previewKey ≠ input.previewKey := by rwa [table_key hr]
    exact List.mem_filterMap.mpr ⟨r, List.mem_filter.mpr ⟨table_mem hr, by simp [hactive, hkey]⟩,
      hport⟩

end Start

section Callbacks

variable {operationId instanceId detail evidence : String} {revision pid : Int}
  {basePath : Option String}

theorem retryStartPort_performs {input : PreviewStartPortRetry} :
    Performs ⟨.retryStartPort input, now⟩ .record (retryStartPort input now) s := by
  refine performs_record fun before hbefore => ?_
  refine performs_fromExcept fun moved happlied => ?_
  obtain ⟨changed, row⟩ := moved
  refine performs_require fun operation _ => performs_ensure fun _ => ?_
  refine .ite (fun _ => performs_pure fun _ => Answer.noConfusion) fun hchanged => ?_
  obtain rfl : changed = true := by simpa using hchanged
  refine performs_ensure fun hfree => ?_
  rintro s rfl
  obtain ⟨hpool, -, hkey, -, -, -, -, ⟨h, -⟩ | ⟨-, -, -, next, -, hrow⟩⟩ :=
    applyStartPortRetry_ok happlied
  · cases h
  have hrowkey : row.previewKey = input.previewKey := by rw [hrow]; exact hkey
  have htable := putInstance_table (r := row) (s := { s with
    operations := s.operations.put { operation with allocatedPort := row.port } })
  rw [hrowkey] at htable
  change Change _ _ _ (State.table _)
  rw [htable]
  refine .retry hbefore happlied ⟨hpool, fun k r hr _ hactive hport => hfree ?_⟩
  exact List.any_eq_true.mpr ⟨r, table_mem hr, by simp [hactive, hport]⟩

variable {E : PreviewStoreError → State → Prop} {T : Instances}

/-- Behind the change of its row a call only writes operations. -/
theorem putInstance_rule (hkey : r'.previewKey = key) :
    Triple (fun s' => s'.table = T) (putInstance r')
      (fun _ s' => s'.table = update T key (some r')) E := by
  rintro _ rfl
  subst hkey
  exact putInstance_table

theorem putOperation_rule {op : PreviewOperationRecord}
    : Triple (fun s' => s'.table = T) (putOperation op) (fun _ s' => s'.table = T) E :=
  .modify fun _ h => h

theorem complete_keeps : Keeps (fun s' => s'.table = T) (publishRunning.complete operationId) := by
  refine .get fun s₁ => ?_
  split
  · exact putOperation_rule
  · exact .pure

theorem performs_touch {m : StoreM Unit} (hr : s.table key = some r) (ht : Touch request r r')
    (hkey : r'.previewKey = key) (hm : ∀ T, Keeps (fun s' => s'.table = T) m) :
    Performs request .record (putInstance r' >>= fun _ => m >>= fun _ => pure r') s := by
  have touched : Change request (.record r') s.table (update s.table key (some r')) :=
    .one (fun _ => Answer.noConfusion) hr ht
  have kept : Triple (fun s' => s'.table = update s.table key (some r')) m
      (fun _ s' => s'.table = update s.table key (some r'))
      fun e s' => Change request (.error e) s.table s'.table :=
    (hm _).fails fun e s' h => h ▸ Change.one (fun _ => Answer.noConfusion) hr ht
  exact .bind ((putInstance_rule hkey).pre fun _ h => h ▸ rfl) fun _ =>
    .bind kept fun _ => .pure fun s' h => h ▸ touched

theorem publishRunning_performs :
    Performs ⟨.publishRunning key operationId revision pid port basePath, now⟩ .record
      (publishRunning key operationId revision pid port basePath now) s := by
  refine performs_record fun record hr => ?_
  refine performs_fromExcept fun published happlied => ?_
  obtain rfl := table_key hr
  obtain ⟨-, -, -, -, -, -, hupdated⟩ := applyRunningPublication_ok happlied
  exact performs_touch hr (.publish happlied) (by rw [hupdated])
    fun T => .onlyIf fun _ => complete_keeps

theorem acceptStop_performs :
    Performs ⟨.acceptStop key operationId, now⟩ .record (acceptStop key operationId now) s := by
  refine performs_record fun record hr => ?_
  split
  · exact performs_ensure fun _ => performs_pure fun _ => Answer.noConfusion
  refine .ite (fun _ => performs_pure fun _ => Answer.noConfusion) fun hactive => ?_
  have hactive : record.state.isActive = true := by simpa using hactive
  refine performs_ensure fun _ => ?_
  have hkey := table_key hr
  have hput (r' : PreviewInstanceRecord) (T : Instances) (hr' : r'.previewKey = key) :
      Triple (fun s' => s'.table = T) (putInstance r')
        (fun _ s' => s'.table = update T key (some r'))
        fun e s' => Change ⟨.acceptStop key operationId, now⟩ (.error e) s.table s'.table :=
    putInstance_rule hr'
  refine .bind ((hput (record.toStopping operationId) s.table hkey).pre fun _ h => h ▸ rfl)
    fun _ => ?_
  refine .bind (R := fun revision s' => checkedSucc record.revision = some revision ∧
      s'.table = update s.table key (some (record.toStopping operationId)))
    (.require (fun _ _ hrev h => ⟨hrev, h⟩) ?_) fun revision => ?_
  · exact fun s' hrev h => h ▸ Change.exhausted hr hactive hrev
  by_cases hrev : checkedSucc record.revision = some revision
  swap
  · exact fun s' h => absurd h.1 hrev
  refine .bind ((hput ((record.toStopping operationId).revise revision now) _ hkey).pre
    fun _ h => h.2) fun _ => .bind putOperation_rule fun _ => .pure fun s' h => ?_
  rw [h, update_idem]
  exact .stop hr hactive hrev

theorem markStopped_performs :
    Performs ⟨.markStopped key operationId revision, now⟩ .record
      (markStopped key operationId revision now) s := by
  refine performs_record fun record hr => ?_
  by_cases hstop : record.operationId = operationId ∧ record.revision = revision ∧
    record.state = .stopping
  · unfold markStopped.stop
    rw [if_pos hstop]
    obtain rfl := table_key hr
    exact performs_touch hr (.stopped hstop.1 hstop.2.1 hstop.2.2) rfl fun T => complete_keeps
  · unfold markStopped.stop
    rw [if_neg hstop]
    refine .bind (R := fun _ s' => s'.table = s.table) (.bind (R := fun _ s' => s' = s)
      (.ensure (fun _ _ h => h) fun _ _ h => h ▸ Change.refused) fun _ =>
        .pure fun s' h => h ▸ rfl) fun updated => ?_
    have kept : Triple (fun s' => s'.table = s.table) (publishRunning.complete operationId)
        (fun _ s' => s'.table = s.table)
        fun e s' => Change ⟨.markStopped key operationId revision, now⟩ (.error e) s.table s'.table :=
      complete_keeps.fails fun e s' h => h ▸ Change.refused
    exact .bind kept fun _ => .pure fun s' h =>
      h ▸ Change.same fun _ => Answer.noConfusion

theorem markFailed_performs :
    Performs ⟨.markFailed key instanceId revision detail, now⟩ .record
      (markFailed key instanceId revision detail now) s := by
  refine performs_record fun record hr => ?_
  refine performs_ensure fun hc => ?_
  obtain rfl := table_key hr
  exact performs_touch hr (.failed hc.1 hc.2.1 hc.2.2) rfl fun T => .modify fun _ h => h

theorem mutate_performs
    {actor : PreviewInstanceRecord → Except PreviewStoreError PreviewInstanceRecord}
    (h : ∀ r r', r.previewKey = key → actor r = .ok r' → Touch request r r' ∧ r'.previewKey = key) :
    Performs request .record (mutate key actor) s := by
  refine performs_record fun record hr => ?_
  refine performs_fromExcept fun updated hactor => ?_
  obtain ⟨ht, hkey⟩ := h record updated (table_key hr) hactor
  exact performs_touch (m := pure ()) hr ht hkey fun T => .pure

theorem markUnknown_performs :
    Performs ⟨.markUnknown key instanceId detail, now⟩ .record
      (markUnknown key instanceId detail now) s := by
  refine mutate_performs fun r r' hkey hactor => ?_
  obtain ⟨hcond, hr'⟩ := failIf_bind hactor
  simp only [not_or, not_not] at hcond
  cases hr'
  subst hkey
  exact ⟨.unknown hcond.1 hcond.2, rfl⟩

theorem resolveUnknownStopped_performs :
    Performs ⟨.resolveUnknownStopped key instanceId evidence, now⟩ .record
      (resolveUnknownStopped key instanceId evidence now) s := by
  refine mutate_performs fun r r' hkey hactor => ?_
  obtain ⟨hcond, hr'⟩ := failIf_bind hactor
  simp only [not_or, not_not] at hcond
  cases hr'
  subst hkey
  exact ⟨.resolved hcond.1 hcond.2, rfl⟩

theorem refreshHeartbeat_performs :
    Performs ⟨.refreshHeartbeat key instanceId, now⟩ .found
      (refreshHeartbeat key instanceId now) s := by
  refine .get fun s₁ => ?_
  rintro s ⟨rfl, rfl⟩
  cases hr : s.instances.find? key with
  | none => exact .same fun _ => Answer.noConfusion
  | some record =>
    obtain rfl := table_key hr
    by_cases hlive : record.instanceId = instanceId ∧
      (record.state = .ready ∨ record.state = .unknown)
    · simp only [if_pos hlive]
      change Change _ _ _ (State.table { s with instances := s.instances.put _ })
      rw [putInstance_table]
      exact .one (fun _ => Answer.noConfusion) hr (.heartbeat now now hlive.1 hlive.2)
    · simp only [if_neg hlive]
      exact .same fun _ => Answer.noConfusion

theorem flushActivity_touched (now : Nat) (all : List ActivityFlushEntry)
    (entries : List ActivityFlushEntry) (hsub : entries ⊆ all) :
    Keeps (fun s' => Touched ⟨.flushActivity all, now⟩ T s'.table) (flushActivity entries) := by
  induction entries with
  | nil => exact .pure
  | cons entry entries ih =>
    obtain ⟨hentry, hrest⟩ := List.cons_subset.mp hsub
    refine .bind ?_ fun moved => .bind (ih hrest) fun rest => .pure
    refine Triple.get fun s₁ => ?_
    rintro s ⟨rfl, h⟩
    cases hr : s.instances.find? entry.previewKey with
    | none => exact h
    | some record =>
      by_cases hmoved : record.state.isActive = true ∧ record.instanceId = entry.instanceId ∧
        record.lastActivityAt < entry.activityAt
      · simp only [if_pos hmoved]
        change Touched _ T (State.table { s with instances := s.instances.put _ })
        rw [putInstance_table]
        have hkey : record.previewKey = entry.previewKey := Table.find?_key hr
        exact h.activity hentry (hkey ▸ hr) hkey hmoved.2.1 hmoved.1 entry.activityAt
      · simp only [if_neg hmoved]
        exact h

theorem flushActivity_performs {entries : List ActivityFlushEntry} :
    Performs ⟨.flushActivity entries, now⟩ .count (flushActivity entries) s := by
  have flushed := flushActivity_touched now (T := s.table) entries entries fun _ h => h
  refine flushed.imp ?_ ?_ ?_
  · rintro _ rfl k
    exact .inl rfl
  · exact fun _ _ h => .touch (fun _ => Answer.noConfusion) h
  · exact fun _ _ h => .touch (fun _ => Answer.noConfusion) h

theorem reconcileHostReboot_performs {podUid bootId : String} :
    Performs ⟨.reconcileHostReboot podUid bootId, now⟩ .records
      (reconcileHostReboot podUid bootId now) s := by
  rintro s rfl
  refine .touch (fun _ => Answer.noConfusion) fun k => ?_
  let rebooted := s.instances.rewrite (reboot podUid bootId now) (reboot_key podUid bootId now)
  have hrow : rebooted.find? k = (s.table k).map (reboot podUid bootId now) := Table.find?_rewrite
  cases hr : s.table k with
  | none => exact .inl (by rw [hr] at hrow; exact hrow)
  | some r =>
    rw [hr] at hrow
    by_cases hout : outlived podUid bootId r = true
    · refine .inr ⟨r, _, rfl, hrow, ?_⟩
      rw [reboot, if_pos hout]
      have hactive : r.state.isActive = true := by
        exact (of_decide_eq_true hout).2.2
      exact .reboot _ hactive
    · refine .inl (hrow.trans ?_)
      rw [Option.map_some, reboot, if_neg hout]

end Callbacks

theorem exec_change (s : State) (request : Request) :
    Change request (exec s request).1 s.table (exec s request).2.table := by
  obtain ⟨call, now⟩ := request
  cases call with
  | acceptStart => exact acceptStart_performs.respond
  | retryStartPort => exact retryStartPort_performs.respond
  | publishRunning =>
    exact publishRunning_performs.respond
  | acceptStop => exact acceptStop_performs.respond
  | markStopped => exact markStopped_performs.respond
  | markFailed => exact markFailed_performs.respond
  | markUnknown => exact markUnknown_performs.respond
  | resolveUnknownStopped => exact resolveUnknownStopped_performs.respond
  | refreshHeartbeat => exact refreshHeartbeat_performs.respond
  | flushActivity => exact flushActivity_performs.respond
  | reconcileHostReboot => exact reconcileHostReboot_performs.respond
  | _ => exact .same fun _ => Answer.noConfusion

end Rcoder.Preview.InProcess
