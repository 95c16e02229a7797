import Mathlib.Logic.Function.Basic
import Rcoder.Preview.Types

/-!
# What a call may do to the instances

Seen as a function of the preview key, the instances change in four ways: a start is admitted, it
moves to another port, a stop is accepted, or rows are touched without a change of generation.
Both stores make no other change.
-/

namespace Rcoder.Preview

open Function

open Lifecycle (checkedSucc checkedSucc_eq_some)
open Check

abbrev Instances := String → Option PreviewInstanceRecord

variable {T T' : Instances} {request : Request} {a : Answer} {r r' : PreviewInstanceRecord}
  {key : String} {port : Nat}

structure Free (T : Instances) (key : String) (port : Nat) : Prop where
  pool : isPreviewPort port = true
  vacant : ∀ k r, T k = some r → k ≠ key → r.state.isActive = true → r.port ≠ some port

def nextRevision : Option PreviewInstanceRecord → Option Int
  | none => some 1
  | some r => checkedSucc r.revision

/-- What a call makes of a row without giving it to another generation. -/
inductive Touch : Request → PreviewInstanceRecord → PreviewInstanceRecord → Prop
  | publish {operationId : String} {revision pid : Int} {port now : Nat} {basePath : Option String}
      {first : Bool} {r r' : PreviewInstanceRecord}
      (applied : r.applyRunningPublication operationId revision pid port basePath now =
        .ok (first, r')) :
      Touch ⟨.publishRunning r.previewKey operationId revision pid port basePath, now⟩ r r'
  | stopped {operationId : String} {revision : Int} {now : Nat} {r : PreviewInstanceRecord}
      (operation : r.operationId = operationId) (current : r.revision = revision)
      (stopping : r.state = .stopping) :
      Touch ⟨.markStopped r.previewKey operationId revision, now⟩ r
        (r.toStopped now)
  | failed {instanceId : String} {revision : Int} {detail : String} {now : Nat}
      {r : PreviewInstanceRecord} (inst : r.instanceId = instanceId)
      (current : r.revision = revision) (live : r.state = .starting ∨ r.state = .ready) :
      Touch ⟨.markFailed r.previewKey instanceId revision detail, now⟩ r
        (r.toFailed detail now)
  | unknown {instanceId detail : String} {now : Nat} {r : PreviewInstanceRecord}
      (inst : r.instanceId = instanceId) (active : r.state.isActive = true) :
      Touch ⟨.markUnknown r.previewKey instanceId detail, now⟩ r
        (r.toUnknown detail now)
  | resolved {instanceId evidence : String} {now : Nat} {r : PreviewInstanceRecord}
      (inst : r.instanceId = instanceId) (unknown : r.state = .unknown) :
      Touch ⟨.resolveUnknownStopped r.previewKey instanceId evidence, now⟩ r
        (r.toRecovered evidence now)
  | heartbeat {instanceId : String} {now : Nat} {r : PreviewInstanceRecord} (beat updated : Nat)
      (inst : r.instanceId = instanceId) (live : r.state = .ready ∨ r.state = .unknown) :
      Touch ⟨.refreshHeartbeat r.previewKey instanceId, now⟩ r
        { r with lastHeartbeatAt := some beat, updatedAt := updated }
  | activity {entries : List ActivityFlushEntry} {now : Nat} {r : PreviewInstanceRecord}
      (since : Nat) (listed : ∃ e ∈ entries, e.previewKey = r.previewKey ∧
        e.instanceId = r.instanceId) (active : r.state.isActive = true) :
      Touch ⟨.flushActivity entries, now⟩ r { r with lastActivityAt := since }
  | reboot {podUid bootId : String} {now : Nat} {r : PreviewInstanceRecord} (detail : String)
      (active : r.state.isActive = true) :
      Touch ⟨.reconcileHostReboot podUid bootId, now⟩ r
        (r.toRecovered detail now)

/-- Every row is as it was or touched. -/
def Touched (request : Request) (T T' : Instances) : Prop :=
  ∀ k, T' k = T k ∨ ∃ r r', T k = some r ∧ T' k = some r' ∧ Touch request r r'

inductive Change : Request → Answer → Instances → Instances → Prop
  | admission {input : AcceptStartInput} {now port : Nat} {revision : Int} {T : Instances}
      (idle : ∀ r, T input.previewKey = some r → r.state.isActive = true →
        r.state = .unknown ∧ input.recoverUnknownEvidence.isSome)
      (revised : nextRevision (T input.previewKey) = some revision)
      (free : Free T input.previewKey port) :
      Change ⟨.acceptStart input, now⟩ (.outcome (.admitted (input.record revision port now))) T
        (update T input.previewKey (some (input.record revision port now)))
  | retry {input : PreviewStartPortRetry} {now : Nat} {r r' : PreviewInstanceRecord} {T : Instances}
      (stored : T input.previewKey = some r)
      (applied : r.applyStartPortRetry input now = .ok (true, r'))
      (free : Free T input.previewKey input.nextPort) :
      Change ⟨.retryStartPort input, now⟩ (.record r') T
        (update T input.previewKey (some r'))
  | stop {key operationId : String} {now : Nat} {revision : Int} {r : PreviewInstanceRecord}
      {T : Instances} (stored : T key = some r) (active : r.state.isActive = true)
      (revised : checkedSucc r.revision = some revision) :
      Change ⟨.acceptStop key operationId, now⟩
        (.record ((r.toStopping operationId).revise revision now)) T
        (update T key (some ((r.toStopping operationId).revise revision now)))
  /-- The in-process store finds out too late that no revision is left. -/
  | exhausted {key operationId : String} {now : Nat} {e : PreviewStoreError}
      {r : PreviewInstanceRecord} {T : Instances} (stored : T key = some r)
      (active : r.state.isActive = true) (exhausted : checkedSucc r.revision = none) :
      Change ⟨.acceptStop key operationId, now⟩ (.error e) T
        (update T key (some (r.toStopping operationId)))
  | touch {request : Request} {a : Answer} {T T' : Instances}
      (unadmitted : ∀ r, a ≠ .outcome (.admitted r))
      (touched : Touched request T T') : Change request a T T'

section Records

variable {input : PreviewStartPortRetry} {now : Nat}

/-- A port retry on the record of its own generation: a move, or the confirmation of one. -/
theorem applyStartPortRetry_ok {changed : Bool} (h : r.applyStartPortRetry input now =
      .ok (changed, r')) :
    isPreviewPort input.nextPort = true ∧ input.previousPort ≠ input.nextPort ∧
      r.previewKey = input.previewKey ∧ r.operationId = input.operationId ∧
      r.instanceId = input.instanceId ∧ r.pid = none ∧ r.state = .starting ∧
      ((changed = false ∧ r' = r ∧ r.port = some input.nextPort) ∨
        changed = true ∧ r.revision = input.revision ∧ r.port = some input.previousPort ∧
          ∃ next, checkedSucc r.revision = some next ∧
            r' = { r.revise next now with port := some input.nextPort }) := by
  obtain ⟨hinput, h⟩ := failIf_bind h
  obtain ⟨next, hnext, h⟩ := demand_bind h
  obtain ⟨hids, h⟩ := failIf_bind h
  obtain ⟨hstate, h⟩ := failIf_bind h
  simp only [not_or, not_not, Option.not_isSome_iff_eq_none] at hinput hids hstate
  obtain ⟨-, -, -, -, -, hpool, hports⟩ := hinput
  obtain ⟨hkey, hop, hinst, hpid⟩ := hids
  refine ⟨hpool, hports, hkey, hop, hinst, hpid, hstate, ?_⟩
  split_ifs at h with hdone
  · cases h
    exact .inl ⟨rfl, rfl, hdone.2⟩
  · obtain ⟨hcur, h⟩ := failIf_bind h
    simp only [not_or, not_not] at hcur
    cases h
    exact .inr ⟨rfl, hcur.1, hcur.2, next, hcur.1 ▸ hnext, rfl⟩

theorem applyRunningPublication_ok {operationId : String} {revision pid : Int}
    {basePath : Option String} {first : Bool}
    (h : r.applyRunningPublication operationId revision pid port basePath now = .ok (first, r')) :
    r.operationId = operationId ∧ r.revision = revision ∧ r.port = some port ∧ 0 < pid ∧
      (r.state = .starting ∨ r.state = .ready ∧ r.pid = some pid) ∧
      first = decide (r.state = .starting) ∧
      r' = { r with
        state := .ready, pid := some pid, basePath := r'.basePath,
        lastHeartbeatAt := if first then some now else r.lastHeartbeatAt,
        lastActivityAt := r'.lastActivityAt, updatedAt := r'.updatedAt } := by
  obtain ⟨hids, h⟩ := failIf_bind h
  obtain ⟨hstate, h⟩ := failIf_bind h
  obtain ⟨-, h⟩ := failIf_bind h
  simp only [not_or, not_not, Int.not_le] at hids
  replace hstate := not_not.mp hstate
  obtain ⟨hop, hrev, hport, hpid⟩ := hids
  obtain ⟨rfl, rfl⟩ := Prod.mk.inj (Except.ok.inj h)
  refine ⟨hop, hrev, hport, hpid, hstate, rfl, ?_⟩
  rcases hstate with hs | ⟨hs, hp⟩
  · simp only [hs, decide_true, if_true, true_or]
    split_ifs <;> rfl
  · obtain ⟨⟩ := r
    simp only at hs hp
    subst hs hp
    split_ifs <;> rfl

end Records

/-- What a touched row keeps of its generation, and how it may have moved. -/
structure Kept (r r' : PreviewInstanceRecord) : Prop where
  key : r'.previewKey = r.previewKey
  inst : r'.instanceId = r.instanceId
  operation : r'.operationId = r.operationId
  revision : r'.revision = r.revision
  host : r'.hostId = r.hostId
  port : r'.port = r.port
  active : r'.state.isActive = true → r.state.isActive = true
  pid : ∀ pid, r'.pid = some pid → r.pid = some pid ∨ 0 < pid

theorem Touch.kept (h : Touch request r r') : Kept r r' := by
  cases h with
  | publish applied =>
    obtain ⟨-, -, -, hpid, hstate, -, hr⟩ := applyRunningPublication_ok applied
    rw [hr]
    refine ⟨rfl, rfl, rfl, rfl, rfl, rfl, fun _ => ?_, ?_⟩
    · rcases hstate with hs | ⟨hs, -⟩ <;> rw [hs] <;> rfl
    · rintro _ ⟨⟩
      exact .inr hpid
  | stopped _ _ stopping =>
    exact ⟨rfl, rfl, rfl, rfl, rfl, rfl, fun _ => by rw [stopping]; rfl, by rintro _ ⟨⟩⟩
  | failed _ _ live =>
    refine ⟨rfl, rfl, rfl, rfl, rfl, rfl, fun h => ?_, by rintro _ ⟨⟩⟩
    rcases live with hs | hs <;> rw [hs] <;> rfl
  | unknown _ active => exact ⟨rfl, rfl, rfl, rfl, rfl, rfl, fun _ => active, fun _ h => .inl h⟩
  | resolved _ unknown =>
    exact ⟨rfl, rfl, rfl, rfl, rfl, rfl, fun _ => by rw [unknown]; rfl, by rintro _ ⟨⟩⟩
  | heartbeat | activity => exact ⟨rfl, rfl, rfl, rfl, rfl, rfl, fun h => h, fun _ h => .inl h⟩
  | reboot _ active => exact ⟨rfl, rfl, rfl, rfl, rfl, rfl, fun _ => active, by rintro _ ⟨⟩⟩

theorem Kept.refl : Kept r r := ⟨rfl, rfl, rfl, rfl, rfl, rfl, id, fun _ h => .inl h⟩

section Rules

theorem Touched.refl : Touched request T T := fun _ => .inl rfl

theorem Touched.origin (h : Touched request T T') (hr' : T' key = some r') :
    ∃ r, T key = some r ∧ Kept r r' := by
  rcases h key with hsame | ⟨r, r₁, hr, hr₁, ht⟩
  · exact ⟨r', hsame ▸ hr', .refl⟩
  · cases hr₁.symm.trans hr'
    exact ⟨r, hr, ht.kept⟩

variable {T₁ : Instances}

theorem Touched.update (h : Touched request T T₁) (hr : T₁ key = some r)
    (hfresh : T key = some r → Touch request r r')
    (hagain : ∀ r₀, T key = some r₀ → Touch request r₀ r → Touch request r₀ r') :
    Touched request T (update T₁ key (some r')) := by
  intro k
  by_cases hk : k = key
  · subst hk
    rw [update_self]
    rcases h k with hsame | ⟨r₀, r₁, hr₀, hr₁, ht⟩
    · have hr₀ : T k = some r := hsame ▸ hr
      exact .inr ⟨r, r', hr₀, rfl, hfresh hr₀⟩
    · cases hr₁.symm.trans hr
      exact .inr ⟨r₀, r', hr₀, rfl, hagain r₀ hr₀ ht⟩
  · rw [update_of_ne hk]
    exact h k

theorem Touched.activity {entries : List ActivityFlushEntry} {now : Nat}
    (h : Touched ⟨.flushActivity entries, now⟩ T T₁) {entry : ActivityFlushEntry}
    (hmem : entry ∈ entries) (hr : T₁ r.previewKey = some r)
    (hkey : r.previewKey = entry.previewKey) (hinst : r.instanceId = entry.instanceId)
    (hactive : r.state.isActive = true) (since : Nat) :
    Touched ⟨.flushActivity entries, now⟩ T
      (Function.update T₁ r.previewKey (some { r with lastActivityAt := since })) := by
  refine h.update hr (fun _ => ?_) fun r₀ _ ht => ?_
  · exact .activity since ⟨entry, hmem, hkey.symm, hinst.symm⟩ hactive
  · cases ht with
    | activity _ listed hactive₀ => exact .activity since listed hactive₀

theorem Touched.reboot {podUid bootId : String} {now : Nat}
    (h : Touched ⟨.reconcileHostReboot podUid bootId, now⟩ T T₁) (hr : T₁ r.previewKey = some r)
    (hactive : r.state.isActive = true) (detail : String) :
    Touched ⟨.reconcileHostReboot podUid bootId, now⟩ T
      (Function.update T₁ r.previewKey (some (r.toRecovered detail now))) := by
  refine h.update hr (fun _ => .reboot detail hactive) fun r₀ _ ht => ?_
  -- a row that was settled before is not active any more
  cases ht with
  | reboot => cases hactive

theorem Change.same (h : ∀ r, a ≠ .outcome (.admitted r)) : Change request a T T :=
  .touch h .refl

theorem Change.refused {e : PreviewStoreError} : Change request (.error e) T T :=
  .same fun _ => Answer.noConfusion

theorem Change.one (h : ∀ r, a ≠ .outcome (.admitted r)) (hr : T key = some r)
    (ht : Touch request r r') : Change request a T (update T key (some r')) := by
  refine .touch h fun k => ?_
  by_cases hk : k = key
  · subst hk
    exact .inr ⟨r, r', hr, update_self .., ht⟩
  · exact .inl (update_of_ne hk ..)

end Rules

end Rcoder.Preview
