import Rcoder.Runtime.Barrier

/-!
# A request queued behind a Stop

Once the active operation and the Stop are finished, the queued request is promoted and passes
the commit barrier: it was accepted at the revision the Stop advanced the intent to.
-/

namespace Rcoder.Runtime

open Effect Kernel Machine Sample

variable {env : KernelEnv} {id a s : String} {k k' : Kernel} {P Q : Kernel → Prop}
  {op stored : StoredOperation} {next : Nat}

variable {state : RuntimeOperationState} {active stop : Option String}

/-- On a calm disk an open record is settled as asked. -/
theorem writeTerminal_open (hP : Steady P) (hcalm : ∀ k, P k → k.Calm)
    (hopen : ∀ k, P k → ∃ r, k.record? id = some r ∧ ¬r.view.state.Settled) (hstate : state.Settled)
    {error : Option (String × String)}
    {detail : Option RuntimeFailureDetail} :
    Triple P (writeTerminal env id state error detail)
      (fun stored k => stored.view.state = state ∧ ∃ k₁, P k₁ ∧
        stored.view.operationId = id ∧ Quietly (k₁.publish stored) k) fun _ _ => False := by
  refine (writeTerminal_rule hP).post ?_ ?_
  · rintro stored k (⟨hk, hr, hset⟩ | ⟨k₁, r, hk₁, hr, -, -, rfl, hq⟩)
    · obtain ⟨r, hr', hopen⟩ := hopen k hk
      obtain rfl : stored = r := Option.mem_unique hr hr'
      exact absurd hset hopen
    · exact ⟨rfl, k₁, hk₁, (RuntimeStore.record?_id hr :), hq⟩
  · rintro e k (⟨hk, htorn | hnone | hset⟩ | ⟨k₁, r, hk₁, hscript, -⟩)
    · exact not_torn hcalm htorn
    · obtain ⟨r, hr, -⟩ := hopen k hk
      simp [hnone] at hr
    · exact hset hstate
    · exact hscript (hcalm k₁ hk₁)

/-- The queued operation, accepted at the current revision and not cancelled. -/
structure Waiting (stored : StoredOperation) (k : Kernel) : Prop where
  calm : k.Calm
  queued : k.admission.pendingRestart = some stored.view.operationId
  input : k.admission.queuedInput = some stored
  record : k.record? stored.view.operationId = some stored
  accepted : stored.view.state = .accepted
  kind : stored.view.kind ≠ .stop
  unprotected : k.admission.recoveryProtection = false
  unmarked : stored.view.operationId ∉ k.cancelled
  current : k.revision = stored.view.revision

theorem Waiting.steady : Steady (Waiting stored) := by
  intro k d hq h
  exact { h with
    calm := steady_calm k d hq h.calm
    record := steady_record k d hq h.record
    current := steady_revision k d hq h.current }

theorem Waiting.publish (h : Waiting stored k) (hne : op.view.operationId ≠ stored.view.operationId) :
    Waiting stored (k.publish op) :=
  { h with record := (record?_publish_ne hne.symm).trans h.record }

/-- Forget what is no concern of the queue: other marks, the slots of what runs. -/
theorem Waiting.frame {marks : List String} (h : Waiting stored k)
    (hmarks : ∀ i ∈ marks, i ∈ k.cancelled) : Waiting stored { k with
      admission := { k.admission with activeOperationId := active, pendingStop := stop }
      cancelled := marks } :=
  { h with unmarked := fun hmem => h.unmarked (hmarks _ hmem) }

theorem steady_open : Steady fun k => ∃ r, k.record? id = some r ∧ ¬r.view.state.Settled := by
  rintro k d hq ⟨r, hr, hopen⟩
  exact ⟨r, steady_record k d hq hr, hopen⟩

/-- The queued operation behind a Stop, while `active` runs. -/
def Behind (stored : StoredOperation) (active stop : Option String) (k : Kernel) : Prop :=
  Waiting stored k ∧ k.admission.activeOperationId = active ∧ k.admission.pendingStop = stop

theorem Behind.steady : Steady (Behind stored active stop) :=
  Waiting.steady.and fun _ _ _ h => h

/-- A terminal result of another open operation only releases its slot. -/
theorem finish_behind (hother : id ≠ stored.view.operationId) (hstate : state.isTerminal = true)
    (hrelease : Triple (Behind stored active stop) (do
        releaseSlots.releaseActive env id state
        releaseSlots.releaseStop env id state) (fun _ => Q) fun _ _ => False) :
    Triple (fun k => Behind stored active stop k ∧
        ∃ r, k.record? id = some r ∧ ¬r.view.state.Settled)
      (finish env id state none none) (fun _ => Q) fun _ _ => False := by
  refine .bind (R := fun r k => r.view.state = state ∧ Behind stored active stop k)
    ((writeTerminal_open (Behind.steady.and steady_open) (fun _ h => h.1.1.calm) (fun _ h => h.2)
      (.inl hstate)).post ?_ fun _ _ h => h) fun r => ?_
  · rintro r k ⟨hr, k₁, ⟨hk₁, -⟩, hid, hq⟩
    exact ⟨hr, Behind.steady.quietly hq ⟨hk₁.1.publish (hid ▸ hother), hk₁.2⟩⟩
  rintro k ⟨hr, hk⟩
  rw [hr]
  refine Triple.bind (R := fun _ => Behind stored active stop) (Triple.modify ?_) (fun _ => ?_) k hk
  · exact fun k hk => ⟨hk.1.frame fun _ => List.mem_of_mem_filter, hk.2⟩
  refine .bind
    (.onlyIf (fun h => ?_) fun _ _ h => h) fun _ => hrelease
  subst h
  cases hstate

theorem finish_active_behind (has : a ≠ s) (ha : a ≠ stored.view.operationId) :
    Triple (fun k => Behind stored (some a) (some s) k ∧
        ∃ r, k.record? a = some r ∧ ¬r.view.state.Settled)
      (finish env a .cancelled none none)
      (fun _ => Behind stored none (some s)) fun _ _ => False := by
  refine finish_behind ha rfl ?_
  refine .bind (R := fun _ => Behind stored none (some s)) ?_ fun _ => ?_
  · refine .read fun k₁ hk => .ite (fun _ => ?_) fun hother => absurd hk.2.1 hother
    refine .bind (R := fun _ => Behind stored none (some s)) (modifyAdmission_rule ?_)
      fun _ => .read fun k₂ hk₂ => .ite (fun hfree => ?_) fun _ => ?_
    · rintro _ ⟨rfl, -⟩
      exact ⟨hk.1.frame fun _ h => h, rfl, hk.2.2⟩
    · exact absurd (hk₂.2.2.symm.trans hfree.2) (by simp)
    · exact .onlyIf (fun h => by cases h) fun _ _ h => h.1 ▸ h.2
  · refine .read fun k₁ hk => .ite (fun hstop => ?_) fun _ => .pure fun _ h => h.1 ▸ h.2
    exact absurd (Option.mem_unique hstop hk.2.2) has

/-- The operation runs, alone, accepted at the current revision and not cancelled. -/
structure Executing (stored : StoredOperation) (k : Kernel) : Prop where
  calm : k.Calm
  active : k.admission.activeOperationId = some stored.view.operationId
  stop : k.admission.pendingStop = none
  queue : k.admission.pendingRestart = none
  record : k.record? stored.view.operationId = some stored
  accepted : stored.view.state = .accepted
  unmarked : stored.view.operationId ∉ k.cancelled
  current : k.revision = stored.view.revision

theorem Executing.steady : Steady (Executing stored) := by
  intro k d hq h
  exact { h with
    calm := steady_calm k d hq h.calm
    record := steady_record k d hq h.record
    current := steady_revision k d hq h.current }

/-- The queued operation is handed over, with the input retained at its admission. -/
theorem promoteQueued_behind : Triple (Behind stored none none) (promoteQueued env)
    (fun _ => Executing stored) fun _ _ => False := by
  refine .read fun k₁ hk₁ => ?_
  rw [hk₁.1.queued, hk₁.1.input, hk₁.1.unprotected]
  refine .bind (R := fun loaded k => Behind stored none none k ∧ loaded = .ok (some stored))
    (.attempt ((loadOperation_kernel .steady).imp (fun _ h => h.1 ▸ h.2) ?_ ?_))
    fun loaded => ?_
  · rintro o k ⟨hk, rfl, -⟩
    exact ⟨hk, congrArg Except.ok hk.1.record⟩
  · rintro e k ⟨hk, htorn | hnone⟩
    · exact absurd htorn (not_torn fun _ h => h.1.calm)
    · simp [hk.1.record] at hnone
  by_cases hloaded : loaded = .ok (some stored)
  swap
  · exact fun _ h => absurd h.2 hloaded
  subst hloaded
  have hwaiting : isWaiting (.ok (some stored)) = true := by
    simp [isWaiting, hk₁.1.accepted, hk₁.1.kind]
  rw [hwaiting]
  simp only [Option.filter_some]
  refine .bind (R := fun _ => Executing stored) (modifyAdmission_rule ?_) fun _ => ?_
  · rintro k ⟨⟨hk, -, hstop⟩, -⟩
    exact ⟨hk.calm, rfl, hstop, rfl, hk.record, hk.accepted, hk.unmarked, hk.current⟩
  · exact .bind (emit_rule .steady _ _ _) fun _ => .modify fun _ h => { h with }

theorem finish_stop_behind (hs : s ≠ stored.view.operationId) :
    Triple (fun k => Behind stored none (some s) k ∧
        ∃ r, k.record? s = some r ∧ ¬r.view.state.Settled)
      (finish env s .succeeded none none) (fun _ => Executing stored) fun _ _ => False := by
  refine finish_behind hs rfl ?_
  refine .bind (R := fun _ => Behind stored none (some s)) ?_ fun _ => ?_
  · refine .read fun k₁ hk => .ite (fun hactive => ?_) fun _ => .pure fun _ h => h.1 ▸ h.2
    exact absurd (hk.2.1.symm.trans hactive) (by simp)
  · refine .read fun k₁ hk => .ite (fun _ => ?_) fun hother => absurd hk.2.2 hother
    refine .bind (R := fun _ => Behind stored none none) (modifyAdmission_rule ?_)
      fun _ => .read fun k₂ hk₂ => .ite (fun _ => ?_) fun hbusy => absurd ⟨rfl, hk₂.2.1⟩ hbusy
    · rintro _ ⟨rfl, -⟩
      exact ⟨hk.1.frame fun _ h => h, hk.2.1, rfl⟩
    · exact promoteQueued_behind.pre fun _ h => h.1 ▸ h.2

/-- With nothing queued and no Stop pending, releasing a slot cannot fail. -/
theorem releaseSlots_alone (hstate : state.isTerminal = true) :
    Triple (fun k => k.admission.pendingStop = none ∧ k.admission.pendingRestart = none)
      (releaseSlots env id state) (fun _ _ => True) fun _ _ => False := by
  let Alone (k : Kernel) : Prop := k.admission.pendingStop = none ∧ k.admission.pendingRestart = none
  refine .bind (R := fun _ => Alone) (.modify fun _ h => h) fun _ => ?_
  refine .bind (R := fun _ => Alone) (.onlyIf (fun _ => protect_rule fun _ h => h)
    fun _ _ h => h) fun _ => ?_
  refine .bind (R := fun _ => Alone) ?_ fun _ => ?_
  · refine .get fun k₁ => .ite (fun _ => ?_) fun _ => .pure fun _ h => h.1 ▸ h.2
    refine .bind (R := fun _ => Alone) (modifyAdmission_rule fun _ h => h.1 ▸ h.2) fun _ => ?_
    refine .read fun k₂ hk => .ite (fun _ => .get fun k₃ => ?_) fun hbusy =>
      absurd ⟨hstate, hk.1⟩ hbusy
    cases hqueue : k₃.admission.pendingRestart with
    | none => exact .pure fun _ h => h.1 ▸ h.2.1 ▸ h.2.2
    | some =>
      rintro _ ⟨rfl, rfl, -⟩
      exact absurd (hk.2.symm.trans hqueue) (by simp)
  · refine .read fun k₁ hk => .ite (fun hstop => ?_) fun _ => .pure fun _ _ => trivial
    exact absurd (hk.1.symm.trans hstop) (by simp)

theorem commitExecution_executing : Triple (Executing stored)
    (commitExecution env stored.view.operationId) (fun outcome _ => outcome = .committed)
    fun _ _ => False := by
  intro k hk
  have hpass (r : StoredOperation) : Triple (fun k => Executing stored k ∧
      k.record? stored.view.operationId = some r ∧ k.revision = r.view.revision)
      (writeTerminalLocked env stored.view.operationId .succeeded) (fun _ _ => True)
      fun _ _ => False := by
    refine .bind (R := fun r k => r.view.state = .succeeded ∧
        k.admission.pendingStop = none ∧ k.admission.pendingRestart = none)
      ((writeTerminal_open .steady (fun _ h => h.calm)
        (fun _ h => ⟨stored, h.record, by rw [h.accepted]; decide⟩) (by decide)).imp
        (fun _ h => h.1) ?_ fun _ _ h => h) fun r => ?_
    · rintro r k ⟨hr, k₁, hk₁, -, hq⟩
      have hslots : k.admission = k₁.admission := hq.admission
      exact ⟨hr, hslots ▸ hk₁.stop, hslots ▸ hk₁.queue⟩
    · rintro k ⟨hr, hk⟩
      rw [hr]
      exact releaseSlots_alone rfl k hk
  refine commitExecution_rule .steady ?_ ?_ (fun r _ _ => (hpass r).post (fun _ _ _ => rfl)
    fun _ _ h => h) k ⟨rfl, hk⟩
  · rintro outcome k₁ hk₁ - (hidle | hmarked | ⟨r, hr, hstale⟩)
    · exact absurd hk.active hidle
    · exact absurd hmarked hk.unmarked
    · obtain rfl : r = stored := Option.mem_unique hr hk₁.record
      exact absurd hk₁.current hstale
  · rintro e k₁ hk₁ (htorn | hnone)
    · exact not_torn (fun _ h => h.calm) htorn
    · simp [hk₁.record] at hnone

section Run

variable {active stop : Option String}

theorem respond_total {α : Type} {m : KernelM α} {R : α → Kernel → Prop}
    (h : Triple P m R fun _ _ => False) (hk : P k) (answer : α → Answer) :
    ∃ x, (respond answer m k).1 = answer x ∧ R x (respond answer m k).2 := by
  unfold respond
  cases hm : m k with
  | ok x => exact ⟨x, rfl, h.ok hk hm⟩
  | error => exact (h.error hk hm).elim

/-- The operation can be brought through the commit barrier. -/
def Committable (env : KernelEnv) (id : String) (k : Kernel) : Prop :=
  ∃ tr u, (kernelMachine env).Run Step.faultFree k tr u ∧
    ((kernelMachine env).exec u ⟨.commitExecution id, []⟩).1 = .barrier .committed

theorem SettleMoves.pendingStop (h : SettleMoves k k') :
    k'.admission.pendingStop = k.admission.pendingStop := by
  induction h with
  | refl => rfl
  | tail _ hstep ih => cases hstep <;> exact ih

variable (horder : k.InOrder)
include horder

theorem Committable.of_finish
    (htriple : Triple P (finish env a state none none) (fun _ => Q) fun _ _ => False) (hk : P k)
    (hnext : ∀ k', k'.InOrder → Q k' → Committable env id k') : Committable env id k := by
  obtain ⟨-, -, hq⟩ := respond_total htriple hk (fun _ => Answer.done)
  let step : Step := ⟨.finish a state none none, []⟩
  have hexec : (kernelMachine env).exec k step = step.op.run env k := exec_calm horder rfl
  have hstep : (kernelMachine env).Run Step.faultFree k _ _ := .snoc (i := step) .nil rfl
  rw [hexec] at hstep
  obtain ⟨tr, u, hrun, hcommit⟩ := hnext _ (step.op.run_inOrder horder) hq
  exact ⟨_, u, hstep.append hrun, hcommit⟩

theorem Executing.committable (h : Executing stored k) :
    Committable env stored.view.operationId k := by
  obtain ⟨outcome, hanswer, rfl⟩ :=
    respond_total commitExecution_executing h .barrier
  have hfree : (⟨.commitExecution stored.view.operationId, []⟩ : Step).faultFree k := rfl
  refine ⟨[], k, .nil, ?_⟩
  rw [exec_calm horder hfree]
  exact hanswer

theorem Kernel.Orderly.isOpen (hrun : k.Running id) :
    ∃ r, k.record? id = some r ∧ ¬r.view.state.Settled :=
  (horder.running id hrun).imp fun _ hr => ⟨hr.1, hr.2.resolve_left not_false⟩

theorem Kernel.Orderly.ne_queued (hrun : k.Running id) (h : Waiting stored k) :
    id ≠ stored.view.operationId := by
  rintro rfl
  exact (horder.queued _ h.queued).2 hrun

/-- What the operation waits for, the active operation and the Stop, can be finished. -/
theorem Behind.committable (h : Behind stored active (some s) k) :
    Committable env stored.view.operationId k := by
  have behindStop {k : Kernel} (h : Behind stored none (some s) k) (horder : k.InOrder) :
      Committable env stored.view.operationId k :=
    .of_finish horder (finish_stop_behind (horder.ne_queued (.inr h.2.2) h.1))
      ⟨h, horder.isOpen (.inr h.2.2)⟩ fun k' horder' hk' => hk'.committable horder'
  cases active with
  | none => exact behindStop h horder
  | some a =>
    have has : a ≠ s := by
      rintro rfl
      exact horder.apart a h.2.1 h.2.2
    exact .of_finish horder (finish_active_behind has (horder.ne_queued (.inl h.2.1) h.1))
      ⟨h, horder.isOpen (.inl h.2.1)⟩ fun k' horder' hk' => behindStop hk' horder'

theorem AnnounceMove.behind (hm : AnnounceMove k k')
    (h : Behind stored active stop k) : Behind stored active stop k' := by
  cases hm with
  | quiet disk => exact .steady k _ disk h
  | cancel slot =>
    refine ⟨{ h.1 with unmarked := fun hmem => ?_ }, h.2⟩
    rcases List.mem_insert_iff.mp hmem with heq | hmem
    · exact horder.ne_queued (.inl slot) h.1 heq.symm
    · exact h.1.unmarked hmem
  | receipt | cancelSource | note => exact ⟨{ h.1 with }, h.2⟩

/-- A request accepted while a Stop is pending waits behind it. -/
theorem Kernel.Orderly.behind (ha : Admits stored next k k') (hkind : stored.view.kind ≠ .stop)
    (hstop : k.admission.pendingStop = some s) :
    Behind stored k.admission.activeOperationId (some s) k' := by
  cases ha with
  | stop _ kind => exact absurd kind hkind
  | active _ _ idle => simp [hstop] at idle
  | queue opens _ _ clears =>
    have hslots := clears.admission
    refine ⟨⟨clears.script.trans horder.calm, rfl, rfl, (horder.ready opens clears).record,
      opens.accepted, hkind, ?_, fun hmem => ?_, ?_⟩, ?_, ?_⟩
    · exact (congrArg AdmissionState.recoveryProtection hslots).trans (opens.unprotected hkind)
    · obtain ⟨k₁, -, -, -, hmarks⟩ := (Admits.queue opens hkind ‹_› clears).cleared
      rw [hmarks] at hmem
      exact opens.ne_of_readable (horder.cancelled _ hmem) rfl
    · exact (clears.revision.trans (opens.next_start hkind)).trans opens.revision.symm
    · exact (congrArg AdmissionState.activeOperationId hslots :)
    · exact (congrArg AdmissionState.pendingStop hslots).trans hstop

theorem AnnounceMoves.behind (h : AnnounceMoves k k') (hk : Behind stored active stop k) :
    Behind stored active stop k' := by
  induction h with
  | refl => exact hk
  | tail hm hstep ih =>
    exact hstep.behind (horder.moves (W := .nothing) (AnnounceMoves.moves hm) fun _ _ h => h.elim) ih

omit horder

/-- The Stop barrier. After a Stop is accepted, nothing admitted before it is committed; a
request accepted while the Stop is pending can still be. -/
theorem stop_barrier {store : RuntimeStore} {identity : RuntimeIdentityView}
    (hstore : ¬store.Damaged) {tr : List (Step × Answer)} {t : Kernel}
    (hrun : (kernelMachine env).Run Step.faultFree (Kernel.new store identity) tr t) :
    (∀ (id : String) (tr₁ tr₂ tr₃ : List (Step × Answer)) (a s c : Step × Answer),
      tr = tr₁ ++ [a] ++ tr₂ ++ [s] ++ tr₃ ++ [c] → Admitted id a → StopAccepted s →
        ¬Committed id c) ∧
    ∀ (stop : String) (step : Step) (view : RuntimeOperationView),
      t.admission.pendingStop = some stop → step.faultFree t →
      ((kernelMachine env).exec t step).1 = .admission (.ok (.accepted view)) →
      view.kind ≠ .stop →
        ∃ tr' u, (kernelMachine env).Run Step.faultFree ((kernelMachine env).exec t step).2 tr' u ∧
          ((kernelMachine env).exec u ⟨.commitExecution view.operationId, []⟩).1 =
            .barrier .committed := by
  have hnew : (Kernel.new store identity).InOrder := inOrder_new hstore
  refine ⟨?_, fun stop step view hstop hfree hanswer hkind => ?_⟩
  · rintro id tr₁ tr₂ tr₃ a s c rfl ha hs
    exact not_committed_after_stop hnew hrun ha hs
  obtain ⟨-, hact, horder'⟩ := exec_acts (inOrder_run hrun hnew) hfree (Prod.ext hanswer rfl)
  obtain ⟨holds, request, -, k₁, k₂, next, hgate, hadmits, hafter, rfl⟩ := hact.accepted rfl
  have h₁ : k₁.InOrder := (inOrder_run hrun hnew).moves hgate.moves fun _ _ h => h.elim
  have hbehind := h₁.behind hadmits hkind (hgate.pendingStop.trans hstop)
  exact (hafter.behind (h₁.admits hadmits) hbehind).committable horder'

/-- A kernel with a Stop pending behind a build. -/
def Sample.stopping : Kernel :=
  (kernelMachine Sample.owner).after (Kernel.new Sample.store Sample.identity)
    [Sample.calm .recover, Sample.calm (Sample.source "a" .start 0),
      Sample.calm (Sample.source "s" .stop 0)]

/-- A build requested while another is being stopped can be committed. -/
theorem stop_barrier_rebuild : Sample.stopping.admission.pendingStop = some "s" ∧
    ∃ tr u, (kernelMachine Sample.owner).Run Step.faultFree
      ((kernelMachine Sample.owner).exec Sample.stopping
        (Sample.calm (Sample.source "b" .start 1))).2 tr u ∧
      ((kernelMachine Sample.owner).exec u ⟨.commitExecution "b", []⟩).1 = .barrier .committed := by
  have hstop : stopping.admission.pendingStop = some "s" := by decide +kernel
  have hstore : ¬store.Damaged := by
    rintro (h | h | ⟨_, h⟩) <;> cases h
  have hrun : (kernelMachine owner).Run Step.faultFree
      (.new store identity) _ stopping :=
    .of_follows ⟨rfl, rfl, rfl, trivial⟩
  exact ⟨hstop, (stop_barrier hstore hrun).2 "s" (calm (source "b" .start 1))
    ⟨"b", .start, .accepted, "start", 1, "rt", none, none, none⟩ hstop rfl (by decide +kernel)
    (by decide)⟩

end Run

end Rcoder.Runtime
