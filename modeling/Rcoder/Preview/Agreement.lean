import Rcoder.Preview.Reboot

/-!
# The two stores on the same calls

The stores run side by side from empty. As long as a start brings an operation that is not recorded
yet, or repeats the request of the admission that stands, as long as instance ids are not shared
between previews, and where `w` makes nothing of the two wordings of a settled reboot, the stores
give the same answers and keep the same rows.
-/

namespace Rcoder.Preview

open Effect
open Lifecycle (checkedSucc)

variable {env : Postgres.Env} {w : String → String} {s : InProcess.State} {t : Postgres.Tables}
  {request : Request}

def Call.texts : Call → List String
  | .acceptStart input => [input.previewKey, input.projectId, input.projectPath, input.host.hostId,
      input.operationId, input.instanceId] ++ input.host.podName.toList ++ input.host.podIp.toList ++
      input.basePath.toList ++
      input.recoverUnknownEvidence.toList.flatMap fun e => [e.instanceId, e.detail]
  | .retryStartPort input => [input.previewKey, input.operationId, input.instanceId]
  | .publishRunning key operationId _ _ _ basePath => [key, operationId] ++ basePath.toList
  | .acceptStop key id | .markStopped key id _ | .refreshHeartbeat key id => [key, id]
  | .markFailed key instanceId _ detail | .markUnknown key instanceId detail
  | .resolveUnknownStopped key instanceId detail => [key, instanceId, detail]
  | .flushActivity entries => entries.flatMap fun e => [e.previewKey, e.instanceId]
  | .get text | .listByHost text _ => [text]
  | .reconcileHostReboot podUid bootId => [podUid, bootId]
  | .findActiveByPort _ | .activePorts | .listActive => []

/-- The ids and texts of a call are there, without a U+0000, which the database has no text for,
and a revision is left for a stop. -/
def WellFormed (s : InProcess.State) (request : Request) : Prop :=
  (∀ text ∈ request.call.texts, '\x00' ∉ text.toList) ∧
  match request.call with
  | .acceptStart input => input.previewKey ≠ "" ∧ input.projectId ≠ "" ∧ input.instanceId ≠ "" ∧
      input.operationId ≠ "" ∧ input.host.hostId ≠ ""
  | .acceptStop key operationId =>
    operationId ≠ "" ∧ ∀ r ∈ s.instances.find? key, (checkedSucc r.revision).isSome
  | .resolveUnknownStopped _ _ evidence => evidence ≠ ""
  | .reconcileHostReboot podUid bootId =>
    (podUid ≠ "" ∧ bootId ≠ "") ∧ ':' ∉ podUid.toList ∧ ':' ∉ bootId.toList
  | _ => True

/-- The calls on which the stores do not part. -/
def Comparable (env : Postgres.Env) (w : String → String) (t : Postgres.Tables)
    (request : Request) : Prop :=
  match request.call with
  | .acceptStart input =>
    (∀ x ∈ t.instances.rows, x.previewKey ≠ input.previewKey → x.instanceId ≠ input.instanceId) ∧
      (t.operations.find? input.operationId = none ∨ Repeats env t input)
  | .reconcileHostReboot podUid bootId =>
    (∃ r ∈ t.instances.rows, InProcess.outlived podUid bootId r = true) →
      w (InProcess.rebootDetail podUid bootId) = w (Postgres.rebootDetail podUid bootId)
  | _ => True

/-- Both stores are given the same calls. -/
def bothStores (env : Postgres.Env) :
    Machine (InProcess.State × Postgres.Tables) Request (Answer × Answer) where
  exec p request :=
    (((InProcess.exec p.1 request).1, (Postgres.exec env p.2 request).1),
      (InProcess.exec p.1 request).2, (Postgres.exec env p.2 request).2)

theorem Twins.unchanged {a : Answer} {b : Answer × Postgres.Tables} (h : Twins w s t)
    (hread : Agree w a b.1 ∧ b.2 = t) : Agree w a b.1 ∧ Mirrors w s b.2 :=
  ⟨hread.1, hread.2.symm ▸ h.toMirrors⟩

theorem Twins.exec (h : Twins w s t) (hwf : WellFormed s request)
    (hcomp : Comparable env w t request) :
    Agree w (InProcess.exec s request).1 (Postgres.exec env t request).1 ∧
      Mirrors w (InProcess.exec s request).2 (Postgres.exec env t request).2 := by
  obtain ⟨call, now⟩ := request
  replace hwf := hwf.2
  cases call with
  | acceptStart =>
    obtain ⟨hkey, hproject, hinst, hop, hhost⟩ := hwf
    exact h.respond (h.acceptStart ⟨hkey, hinst, hop, hhost⟩ hproject hcomp.1 hcomp.2)
  | retryStartPort => exact h.respond h.retryStartPort
  | publishRunning => exact h.respond h.publishRunning
  | acceptStop => exact h.respond (h.acceptStop hwf.1 hwf.2)
  | markStopped => exact h.respond h.markStopped
  | markFailed => exact h.respond h.markFailed
  | markUnknown => exact h.respond h.markUnknown
  | resolveUnknownStopped => exact h.respond (h.resolveUnknownStopped hwf)
  | refreshHeartbeat => exact h.respond h.refreshHeartbeat
  | flushActivity entries => exact h.respond (h.flushActivity entries)
  | get => exact h.unchanged h.get
  | findActiveByPort => exact h.unchanged h.findActiveByPort
  | activePorts => exact h.unchanged h.activePorts
  | listByHost => exact h.unchanged h.listByHost
  | listActive => exact h.unchanged h.listActive
  | reconcileHostReboot => exact h.respond (h.reconcileHostReboot hcomp hwf.1 hwf.2)

theorem Twins.new : Twins w .new .new where
  rows _ := .none
  ledger _ := .none
  linked _ _ := by rintro ⟨⟩
  starting _ _ := by rintro ⟨⟩
  lawful := .empty
  exclusive := .empty

/-- The stores answer every call alike and end with the same rows, on comparable calls. -/
theorem stores_agree (env : Postgres.Env) (w : String → String)
    {tr : List (Request × Answer × Answer)}
    {p : InProcess.State × Postgres.Tables}
    (hr : (bothStores env).Run
      (fun p request => WellFormed p.1 request ∧ Comparable env w p.2 request) (.new, .new) tr p) :
    (∀ step ∈ tr, Agree w step.2.1 step.2.2) ∧ SameRows w p.1.table p.2.table := by
  have hinv : (∀ step ∈ tr, Agree w step.2.1 step.2.2) ∧ Twins w p.1 p.2 := by
    refine hr.trace_invariant (I := fun tr p => (∀ step ∈ tr, Agree w step.2.1 step.2.2) ∧
      Twins w p.1 p.2) ⟨by simp, .new⟩ fun tr p request hok ih => ?_
    obtain ⟨hagree, hmirrors⟩ := ih.2.exec hok.1 hok.2
    refine ⟨fun step hstep => ?_, hmirrors.twins (Postgres.lawful_exec ih.2.lawful)⟩
    rcases List.mem_append.mp hstep with hstep | hstep
    · exact ih.1 step hstep
    · cases List.mem_singleton.mp hstep
      exact hagree
  exact ⟨hinv.1, hinv.2.rows⟩

/-- A start, its repetition, and the publication of its process. -/
theorem stores_agree_repeated_start :
    let env : Postgres.Env := ⟨fun _ => "", textBefore⟩
    let l : List Request := [⟨.acceptStart (exampleStart "op-1" "inst-1"), 1⟩,
      ⟨.acceptStart (exampleStart "op-1" "inst-1"), 2⟩,
      ⟨.publishRunning "p" "op-1" 1 77 5000 none, 3⟩]
    (∀ step ∈ (bothStores env).trace (.new, .new) l, Agree id step.2.1 step.2.2) ∧
      SameRows id ((bothStores env).after (.new, .new) l).1.table
        ((bothStores env).after (.new, .new) l).2.table := by
  refine stores_agree ⟨fun _ => "", textBefore⟩ id
    (.of_follows ⟨⟨?_, ?_⟩, ⟨?_, ?_⟩, ⟨?_, ?_⟩, trivial⟩)
  · unfold WellFormed
    decide
  · unfold Comparable Repeats
    decide
  · unfold WellFormed
    decide
  · unfold Comparable Repeats
    decide +kernel
  · unfold WellFormed
    decide
  · trivial

/-- A start is repeated after its instance failed: the in-process store admits it a second time, the
PostgreSQL store recognises its operation and blocks it. -/
theorem stores_disagree :
    let env : Postgres.Env := ⟨fun _ => "", textBefore⟩
    let l : List Request := [⟨.acceptStart (exampleStart "op-1" "inst-1"), 1⟩,
      ⟨.markFailed "p" "inst-1" 1 "exited", 2⟩, ⟨.acceptStart (exampleStart "op-1" "inst-1"), 3⟩]
    (bothStores env).Follows (fun p request => WellFormed p.1 request) (.new, .new) l ∧
      ¬∃ w, ∀ step ∈ (bothStores env).trace (.new, .new) l, Agree w step.2.1 step.2.2 := by
  refine ⟨⟨?_, ?_, ?_, trivial⟩, ?_⟩
  · unfold WellFormed
    decide
  · unfold WellFormed
    decide
  · unfold WellFormed
    decide
  · rintro ⟨w, hagree⟩
    let again : Request := ⟨.acceptStart (exampleStart "op-1" "inst-1"), 3⟩
    have hlast : (again, .outcome (.admitted ((exampleStart "op-1" "inst-1").record 2 5000 3)),
        .outcome (.blocked (((exampleStart "op-1" "inst-1").record 1 5000 1).toFailed "exited" 2)))
        ∈ (bothStores ⟨fun _ => "", textBefore⟩).trace (.new, .new)
          [⟨.acceptStart (exampleStart "op-1" "inst-1"), 1⟩,
            ⟨.markFailed "p" "inst-1" 1 "exited", 2⟩, again] := by
      decide +kernel
    rcases hagree _ hlast with ⟨⟩

end Rcoder.Preview
