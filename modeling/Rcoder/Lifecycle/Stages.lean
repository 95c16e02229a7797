import Rcoder.Lib.Walks
import Rcoder.Lifecycle.Journal

/-!
# The stages of a control

A claimed control drains what it interrupted, stops the compute and, if it restarts, starts and
verifies it again. Reports go through the stage policy; observations and recovery write the stage
themselves. Whichever wrote it, the stages since the last claim of a control that succeeds are
those of its action, in order, under one executor and with a lease.
-/

namespace Rcoder.Lifecycle

open Effect Ledger Check Execution ControlAction

def ControlAction.stages : ControlAction → List String
  | .stop => ["draining_previous", "stopping", "stopped", "completed"]
  | .restart =>
    ["draining_previous", "stopping", "stopped", "starting", "verifying", "completed"]

/-- One stage after the other, or the same again. -/
def ControlAction.StageStep (action : ControlAction) (stage next : String) : Prop :=
  next = stage ∨ (next ∈ action.stages ∧ upTo action.stages next = upTo action.stages stage ++ [next])

variable {stage : String}

theorem stageStep_of_follows {action : ControlAction} {next : ControlStage}
    (h : stageFollows action (ControlStage.fromStorageValue stage) next = true)
    (hstop : ¬(action = .stop ∧ (next = .starting ∨ next = .verifying)))
    (hmem : stage ∈ action.stages) : action.StageStep stage next.asStr := by
  unfold StageStep
  cases action <;> simp only [stages, List.mem_cons, List.not_mem_nil, or_false] at hmem
  · obtain rfl | rfl | rfl | rfl := hmem <;> cases next <;> revert h hstop <;> decide
  · obtain rfl | rfl | rfl | rfl | rfl | rfl := hmem <;> cases next <;> revert h hstop <;> decide

theorem stageStep_observed (action : ControlAction) :
    action.StageStep (observedStages action).1 (observedStages action).2 := by
  cases action <;> exact .inr (by decide)

theorem stageStep_stopped : restart.StageStep "stopping" "stopped" :=
  .inr (by decide)

theorem stageStep_starting : restart.StageStep "stopped" "starting" :=
  .inr (by decide)

structure ClaimedPath (path : List ControlRecord) (control : ControlRecord) : Prop where
  current : control ∈ path
  executor : ∃ executorId, ∀ version ∈ path, version.executorId = some executorId
  claimed : ∀ version ∈ path, version.state ≠ .pending
  leased : ∀ version ∈ path, version.stage ≠ "draining_previous" → version.lease.isSome = true
  stage : control.stage ∈ control.action.stages
  walks : Walks (upTo control.action.stages control.stage) (path.map ControlRecord.stage)

/-- The last claim in a history, and what followed it. -/
def SinceClaim (l : List ControlRecord) (control : ControlRecord) : Prop :=
  ∃ earlier pending path, l = earlier ++ pending :: path ∧ pending.state = .pending ∧
    ClaimedPath path control

variable {control control' : ControlRecord} {l : List ControlRecord}

theorem SinceClaim.claim {earlier : List ControlRecord} (hpending : control.state = .pending)
    (hstate : control'.state = .running) (hexecutor : control'.executorId.isSome = true)
    (hstage : control'.stage = "draining_previous") :
    SinceClaim (earlier ++ [control] ++ [control']) control' := by
  obtain ⟨executorId, he⟩ := Option.isSome_iff_exists.mp hexecutor
  have hfirst : upTo control'.action.stages control'.stage = ["draining_previous"] := by
    rw [hstage]
    cases control'.action <;> decide
  refine ⟨earlier, control, [control'], by simp, hpending, by simp, ⟨executorId, by simpa using he⟩,
    ?_, ?_, ?_, ?_⟩
  · simp [hstate]
  · simp [hstage]
  · rw [hstage]
    cases control'.action <;> decide
  · rw [hfirst]
    simpa [hstage] using .start "draining_previous"

theorem SinceClaim.extend (h : SinceClaim l control) (haction : control'.action = control.action)
    (hexecutor : control'.executorId = control.executorId) (hstate : control'.state ≠ .pending)
    (hlease : control'.stage ≠ "draining_previous" → control'.lease.isSome = true)
    (hstage : control.action.StageStep control.stage control'.stage) :
    SinceClaim (l ++ [control']) control' := by
  obtain ⟨earlier, pending, path, rfl, hpending, hpath⟩ := h
  obtain ⟨executorId, hexecutors⟩ := hpath.executor
  have hsnoc : ∀ {P : ControlRecord → Prop}, (∀ version ∈ path, P version) → P control' →
      ∀ version ∈ path ++ [control'], P version := by
    intro P hall hlast version hv
    obtain hv | hv := List.mem_append.mp hv
    · exact hall version hv
    · rw [List.mem_singleton.mp hv]
      exact hlast
  refine ⟨earlier, pending, path ++ [control'], by simp, hpending, by simp, ⟨executorId, ?_⟩,
    hsnoc hpath.claimed hstate, hsnoc hpath.leased hlease, ?_, ?_⟩
  · exact hsnoc hexecutors (hexecutor.trans (hexecutors control hpath.current))
  · rw [haction]
    obtain hsame | ⟨hmem, -⟩ := hstage
    · rw [hsame]
      exact hpath.stage
    · exact hmem
  · rw [haction, List.map_append]
    obtain hsame | ⟨hmem, hnext⟩ := hstage
    · rw [List.map_singleton, hsame]
      exact hpath.walks.stay hpath.stage
    · exact hpath.walks.next hmem hnext

theorem SinceClaim.stay (h : SinceClaim l control) (haction : control'.action = control.action)
    (hexecutor : control'.executorId = control.executorId) (hstate : control'.state ≠ .pending)
    (hstage : control'.stage = control.stage)
    (hlease : control.lease.isSome = true → control'.lease.isSome = true) :
    SinceClaim (l ++ [control']) control' := by
  refine h.extend haction hexecutor hstate (fun hne => hlease ?_) (.inl hstage)
  obtain ⟨-, -, path, -, -, hpath⟩ := h
  exact hpath.leased control hpath.current (by rw [← hstage]; exact hne)

/-! ### Whole histories -/

/-- The versions of a control, the last of which is given: claimed while it is under way, and
through with its stages when it first succeeds. -/
structure StageHistory (l : List ControlRecord) (control : ControlRecord) : Prop where
  live : Execution.isRecovering control = true → SinceClaim l control
  succeeded : control.state = .succeeded →
    (∃ earlier, l = earlier ++ [control] ∧ ∃ version ∈ earlier, version.state = .succeeded) ∨
      (control.stage = "completed" ∧ SinceClaim l control)

theorem StageHistory.of_live (h : SinceClaim l control)
    (hstate : control.state ≠ .succeeded) : StageHistory l control :=
  ⟨fun _ => h, fun hs => absurd hs hstate⟩

theorem StageHistory.of_other (hrecovering : isRecovering control = false)
    (hstate : control.state ≠ .succeeded) : StageHistory l control := by
  refine ⟨fun hlive => ?_, fun hs => absurd hs hstate⟩
  rw [hrecovering] at hlive
  cases hlive

/-- What follows the success of a control. -/
theorem StageHistory.of_earlier (hmem : control ∈ l) (hbefore : control.state = .succeeded)
    (hstate : control'.state = .succeeded) : StageHistory (l ++ [control']) control' := by
  refine ⟨fun hlive => ?_, fun _ => .inl ⟨l, rfl, control, hmem, hbefore⟩⟩
  obtain hs | hs := isRecovering_iff.mp hlive <;> rw [hs] at hstate <;> cases hstate

variable {progress : ControlProgress}

theorem StageHistory.report (h : StageHistory l control) (hreported : Reported control progress) :
    StageHistory (l ++ [progressed progress control])
      (progressed progress control) := by
  have hsince := h.live (isRecovering_iff.mpr (.inl hreported.running))
  obtain ⟨hprogress, hrest⟩ := failIf_bind hreported.follows
  obtain ⟨hstage, hrest⟩ := failIf_bind hrest
  obtain ⟨hcompleted, -⟩ := failIf_bind hrest
  obtain ⟨hfollows, hstop⟩ := not_or.mp hstage
  have hmem : control.stage ∈ control.action.stages := by
    obtain ⟨-, -, path, -, -, hpath⟩ := hsince
    exact hpath.stage
  have hnext : SinceClaim (l ++ [progressed progress control])
      (progressed progress control) := by
    refine hsince.extend rfl rfl ?_ (fun hne => hreported.leased ?_)
      (stageStep_of_follows (by simpa using hfollows) hstop hmem)
    · intro hs
      have hs : progress.state = .pending := hs
      exact hprogress (by rw [hs]; rfl)
    · intro hdraining
      have hne : progress.stage.asStr ≠ "draining_previous" := hne
      rw [hdraining] at hne
      exact hne rfl
  refine ⟨fun _ => hnext, fun hs => .inr ⟨?_, hnext⟩⟩
  have hlast : progress.stage = .completed := not_not.mp fun hne => hcompleted ⟨hs, hne⟩
  change progress.stage.asStr = "completed"
  rw [hlast]
  rfl

theorem StageHistory.step {act : Act} (h : StageHistory l control)
    (hl : ∃ earlier, l = earlier ++ [control])
    (hstep : ControlStep act control control') : StageHistory (l ++ [control']) control' := by
  have hmem : control ∈ l := by
    obtain ⟨earlier, rfl⟩ := hl
    simp
  cases hstep with
  | claim executorId pending =>
    obtain ⟨earlier, rfl⟩ := hl
    exact .of_live (.claim pending rfl rfl rfl) (by rintro ⟨⟩)
  | bind receipt running =>
    have hsince := h.live (isRecovering_iff.mpr (.inl running))
    refine .of_live (hsince.stay rfl rfl ?_ rfl fun _ => rfl) ?_ <;> rw [running] <;> rintro ⟨⟩
  | report _ reported => exact h.report reported
  | forget ended =>
    obtain hs | hs := ended
    · exact .of_earlier hmem hs hs
    · refine .of_other ?_ ?_
      · simp [isRecovering, hs]
      · rw [hs]
        rintro ⟨⟩
  | acknowledge | resume | fail => exact .of_other rfl (by rintro ⟨⟩)
  | recommit recovering leased =>
    exact .of_live ((h.live recovering).stay rfl rfl (by rintro ⟨⟩) rfl fun _ => leased)
      (by rintro ⟨⟩)
  | observe _ recovering leased stage =>
    refine .of_live ((h.live recovering).extend rfl rfl (by rintro ⟨⟩) (fun _ => leased) ?_)
      (by rintro ⟨⟩)
    rw [stage]
    exact stageStep_observed control.action
  | confirmStopped _ state kept recovering leased restart stage =>
    obtain rfl | rfl := kept
    · obtain ⟨hpending, hsucceeded, -⟩ := open_of_recovering recovering
      refine .of_live ((h.live recovering).extend rfl rfl hpending (fun _ => leased) ?_) hsucceeded
      rw [stage, restart]
      exact stageStep_stopped
    · exact .of_other rfl (by rintro ⟨⟩)
  | continueStart _ recovering leased restart stage =>
    refine .of_live ((h.live recovering).extend rfl rfl (by rintro ⟨⟩) (fun _ => leased) ?_)
      (by rintro ⟨⟩)
    rw [restart]
    obtain hs | hs := stage <;> rw [hs]
    · exact stageStep_starting
    · exact .inl rfl
  | annotate _ settled =>
    obtain hr | hs := settled
    · obtain ⟨hpending, hsucceeded, -⟩ := open_of_recovering hr
      exact .of_live ((h.live hr).stay rfl rfl hpending rfl fun hleased => hleased) hsucceeded
    · exact .of_earlier hmem hs hs
  | reserve _ _ early =>
    have hsince := h.live (ControlRecord.recovering_of_drain early)
    exact .of_live (hsince.stay rfl rfl (by rintro ⟨⟩) rfl fun hleased => hleased) (by rintro ⟨⟩)
  | capture receipt early =>
    have hrecovering := ControlRecord.recovering_of_drain early
    obtain ⟨hpending, hsucceeded, -⟩ := open_of_recovering hrecovering
    exact .of_live ((h.live hrecovering).stay rfl rfl hpending rfl fun _ => rfl) hsucceeded

theorem stageHistory_of_versions
    (h : Versions NewControl ControlVersion l control) : StageHistory l control := by
  induction h with
  | first start =>
    refine .of_other ?_ ?_
    · simp [isRecovering, start.pending]
    · rw [start.pending]
      rintro ⟨⟩
  | next earlier change ih =>
    obtain ⟨act, step⟩ | ⟨-, rfl⟩ := change
    · exact ih.step earlier.ends step
    · exact .of_other rfl (by rintro ⟨⟩)

/-- A control that only stops never starts anything. -/
def OnlyStops (control : ControlRecord) : Prop :=
  control.action = .stop → control.stage ≠ "starting" ∧ control.stage ≠ "verifying"

theorem OnlyStops.step {act : Act} (h : OnlyStops control)
    (hstep : ControlStep act control control') : OnlyStops control' := by
  cases hstep with
  | claim | acknowledge | confirmStopped | resume => exact fun _ => ⟨by simp, by simp⟩
  | bind | forget | recommit | annotate | reserve | capture | fail => exact h
  | @report progress _ reported =>
    intro haction
    obtain ⟨-, hrest⟩ := failIf_bind reported.follows
    obtain ⟨hstage, -⟩ := failIf_bind hrest
    have hstop := (not_or.mp hstage).2
    change progress.stage.asStr ≠ "starting" ∧ progress.stage.asStr ≠ "verifying"
    cases hs : progress.stage with
    | starting => exact absurd ⟨haction, .inl hs⟩ hstop
    | verifying => exact absurd ⟨haction, .inr hs⟩ hstop
    | _ => exact ⟨by decide, by decide⟩
  | observe =>
    intro haction
    have haction : control.action = .stop := haction
    simp [haction, observedStages]
  | continueStart _ _ _ restart =>
    intro haction
    have haction : control.action = .stop := haction
    rw [restart] at haction
    cases haction

theorem stage_of_fromStorageValue (h : ControlStage.fromStorageValue stage = some .drainingPrevious) :
    stage = "draining_previous" := by
  unfold ControlStage.fromStorageValue at h
  split at h <;> simp_all

/-- Only a control that has not touched anything may be reported failed. -/
theorem unleased_of_failed (h : Reported control progress) (hfailed : progress.state = .failed) :
    control.stage = "draining_previous" ∧ control.lease = none := by
  obtain ⟨-, hrest⟩ := failIf_bind h.follows
  obtain ⟨-, hrest⟩ := failIf_bind hrest
  obtain ⟨-, hrest⟩ := failIf_bind hrest
  obtain ⟨-, hrest⟩ := failIf_bind hrest
  obtain ⟨-, hrest⟩ := failIf_bind hrest
  obtain ⟨-, hrest⟩ := failIf_bind hrest
  have hbegun := failIf_eq_ok.mp hrest
  obtain ⟨hstage, hlease⟩ := not_or.mp fun hbegan => hbegun ⟨hfailed, hbegan⟩
  refine ⟨stage_of_fromStorageValue (not_not.mp hstage), ?_⟩
  simpa using hlease

/-- What holds of the versions of a control, and of a report that fails it. -/
structure StageDiscipline (s : Store) : Prop where
  succeeded : ∀ id control, s.ledger.control id = some control → ∀ before version after,
    versions ControlRecord.operationId s.history.controls id = before ++ version :: after →
    version.state = .succeeded → (∀ earlier ∈ before, earlier.state ≠ .succeeded) →
    ∃ earlier pending path, before ++ [version] = earlier ++ pending :: path ∧
      pending.state = .pending ∧ (∀ v ∈ path, v.state ≠ .pending) ∧
      (∃ executorId, ∀ v ∈ path, v.executorId = some executorId) ∧
      (∀ v ∈ path, v.stage ≠ "draining_previous" → v.lease.isSome = true) ∧
      Walks version.action.stages (path.map ControlRecord.stage)
  stop : ∀ id control, s.ledger.control id = some control →
    ∀ version ∈ versions ControlRecord.operationId s.history.controls id, OnlyStops version
  failed : ∀ progress answer, (store.exec s (.advanceControl progress)).1 = .ok answer →
    progress.state = .failed → ∃ control,
      s.ledger.control progress.identity.operationId = some control ∧
      control.stage = "draining_previous" ∧ control.lease = none

theorem stage_discipline {ok : Store → Op → Prop} {tr : List (Op × Except StoreError Answer)}
    {s : Store} (hr : store.Run ok {} tr s) : StageDiscipline s := by
  refine ⟨fun id control hc before version after hsplit hs hfirst => ?_,
    fun id control hc version hv => ?_, fun progress answer hexec hfailed => ?_⟩
  · have hversions := ((Run.controlsLogged hr).versions_of_some hc).cut hsplit
    obtain ⟨earlier, heq, v, hv, hvs⟩ | ⟨hstage, hsince⟩ :=
      (stageHistory_of_versions hversions).succeeded hs
    · obtain rfl := (List.append_inj' heq rfl).1
      exact absurd hvs (hfirst v hv)
    · obtain ⟨earlier, pending, path, heq, hpending, hpath⟩ := hsince
      refine ⟨earlier, pending, path, heq, hpending, hpath.claimed, hpath.executor, hpath.leased, ?_⟩
      have hall : upTo version.action.stages version.stage = version.action.stages := by
        rw [hstage]
        cases version.action <;> decide
      have hwalks := hpath.walks
      rwa [hall] at hwalks
  · refine ((Run.controlsLogged hr).versions_of_some hc).forall_mem ?_ ?_ version hv
    · intro first start _
      rw [start.stage]
      exact ⟨by decide, by decide⟩
    · rintro a b h (⟨act, step⟩ | ⟨-, rfl⟩)
      · exact h.step step
      · exact h
  · obtain ⟨_, _, control, hadv, -⟩ :=
      store_answered hexec (gives_respond (gives_advanceControl progress))
    exact ⟨control, by rw [← hadv.operationId]; exact hadv.stored,
      unleased_of_failed hadv.reported hfailed⟩

/-- A stop that goes through all its stages. -/
def completedStop : List Op :=
  [.ensureIdentity "app" Sample.fresh,
    .admitControl (Sample.controlRequest "stop" .stop) false 1,
    .claimControl (Sample.executor "stop" 1) 1,
    .bindLease (Sample.executor "stop" 1) (.docker .userapp 1 1 "token"),
    Sample.entersStopping "stop" 1 3,
    .advanceControl
      { identity := Sample.executor "stop" 1
        expectedRevision := 4
        state := .running
        stage := .stopped
        checkpoint := Json.object [] },
    .advanceControl
      { identity := Sample.executor "stop" 1
        expectedRevision := 5
        state := .succeeded
        stage := .completed
        checkpoint := Json.object [] }]

theorem stage_discipline_completedStop :
    StageDiscipline (store.after {} completedStop) ∧
      (versions ControlRecord.operationId (store.after {} completedStop).history.controls
        "stop").map (fun version => (version.stage, version.state)) =
      [("accepted", .pending), ("draining_previous", .running), ("draining_previous", .running),
        ("stopping", .running), ("stopped", .running), ("completed", .succeeded)] :=
  ⟨stage_discipline (.of_follows (Machine.follows_of_forall fun _ _ _ => trivial)),
    by decide +kernel⟩

end Rcoder.Lifecycle
