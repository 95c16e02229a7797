import Rcoder.Preview.Attempt

/-!
# A confirmed stop excludes a later start

Every step of the attempt and of its callers is one of a few effects. Once the completion is set,
no native start is under way and none can begin any more; a cancelled attempt is let into its
native phase by nobody, but a start that was let in before the cancel may still begin behind it.
-/

namespace Rcoder.Preview.Startup

variable {input : AcceptStartInput} {s s' : OwnedStartAttempt} {e : Event} {reply : Reply} {t : Turn}
  {pc : Pc}

/-- The native phase is open: let in, under way, or not yet closed again. -/
def Pc.running : Pc → Bool
  | beginDone _ _ | launching _ _ | native _ _ | idleWait (.native _ _ _) => true
  | _ => false

def Pc.isLaunching : Pc → Bool
  | launching _ _ => true
  | _ => false

/-- The task does not come back to a native start. -/
def Pc.spent : Pc → Bool
  | refused _ _ | publish _ _ _ | publishing _ _ _ | published _ _ | superseded _ _ | fail _ _
  | marking _ _ | rereading _ _ | cancelled _ | settle _ _ | settling _ _ | unknown _ _
  | successor _ _ | finishing _ | finished _ | ended _ => true
  | _ => false

section Effects

inductive Effect (s : OwnedStartAttempt) : Event → OwnedStartAttempt → Prop
  /-- The task goes on without a step on shared fields. -/
  | goto {pc : Pc} (alive : s.pc.isEnded = false) (unlocked : s.pc.holds = false)
      (unlocked' : pc.holds = false) (calm : s.pc.running = false) (calm' : pc.running = false)
      (spent : s.pc.spent = true → pc.spent = true) : Effect s .quiet { s with pc := pc }
  | note {attempt : Nat} {record : PreviewInstanceRecord} (at_pc : s.pc = .admitted attempt record) :
      Effect s .quiet
        { s with admitted := some record, pc := .idleWait (.admitted attempt record) }
  | idleEnter {rest : AfterIdle} (at_pc : s.pc = .idleWait rest) (free : s.lock = .free) :
      Effect s .quiet { s with lock := .attempt, phase := .idle, pc := .idleRead rest }
  | idleSee {rest : AfterIdle} (at_pc : s.pc = .idleRead rest) (seen : s.cancelled = true) :
      Effect s .quiet { s with pc := .idleDone rest }
  | idleSkip {rest : AfterIdle} (at_pc : s.pc = .idleRead rest) :
      Effect s .quiet { s with lock := .free, pc := rest.next }
  | idleMark {rest : AfterIdle} (at_pc : s.pc = .idleDone rest) :
      Effect s .quiet { s with executionDone := true, lock := .free, pc := rest.next }
  | beginEnter {attempt : Nat} {record : PreviewInstanceRecord}
      (at_pc : s.pc = .beginWait attempt record) (free : s.lock = .free) :
      Effect s .quiet { s with lock := .attempt, pc := .beginRead attempt record }
  | beginRefuse {attempt : Nat} {record : PreviewInstanceRecord}
      (at_pc : s.pc = .beginRead attempt record) :
      Effect s .quiet { s with lock := .free, pc := .cancelled record }
  | beginGrant {attempt : Nat} {record : PreviewInstanceRecord}
      (at_pc : s.pc = .beginRead attempt record) (unseen : s.cancelled = false) :
      Effect s .quiet { s with phase := .running, pc := .beginDone attempt record }
  | beginOpen {attempt : Nat} {record : PreviewInstanceRecord}
      (at_pc : s.pc = .beginDone attempt record) :
      Effect s .opened
        { s with executionDone := false, lock := .free, pc := .launching attempt record }
  | launch {attempt : Nat} {record : PreviewInstanceRecord}
      (at_pc : s.pc = .launching attempt record) :
      Effect s .began { s with pc := .native attempt record }
  | land {attempt : Nat} {record : PreviewInstanceRecord} {started : Started}
      (at_pc : s.pc = .native attempt record) :
      Effect s .over { s with pc := .idleWait (.native attempt record started) }
  | finishPhase {result : StartupResult} (at_pc : s.pc = .finishing result)
      (free : s.lock = .free) : Effect s .quiet { s with phase := .finished, pc := .finished result }
  | finishDone {result : StartupResult} (at_pc : s.pc = .finished result) :
      Effect s .quiet { s with executionDone := true, pc := .ended (some result) }
  | panic (alive : s.pc.isEnded = false) (unlocked : s.pc.holds = false) :
      Effect s (if s.pc.isNative then .over else .quiet)
      { s with pc := .ended none }
  | observePhase (ended : s.pc.isEnded = true) (free : s.lock = .free) :
      Effect s .quiet { s with phase := .finished, observer := .closing }
  | observeDone (closing : s.observer = .closing) :
      Effect s .quiet { s with executionDone := true, observer := .closed }
  | cancelEnter {caller : Nat} (free : s.lock = .free) :
      Effect s .quiet { s with lock := .canceller caller, cancelled := true }
  | cancelLeave {caller : Nat} (held : s.lock = .canceller caller) :
      Effect s (.cancelReturned caller)
        { s with
          executionDone := s.executionDone || (s.phase = .idle ∨ s.phase = .finished)
          lock := .free
          stage := Function.update s.stage caller .cancelled }
  | wait {caller : Nat} (done : s.executionDone = true) {stage : Nat → Stage} :
      Effect s (.waitReturned caller) { s with stage := stage }
  | stop {caller : Nat} (waited : s.stage caller = .waited) : Effect s (.exactStop caller) s
  | idle : Effect s .quiet s

/-- The task neither holds the lock nor has the native phase open. -/
def Pc.plain (pc : Pc) : Bool := !pc.holds && !pc.running

theorem Pc.plain_iff : pc.plain = true ↔ pc.holds = false ∧ pc.running = false := by
  simp [Pc.plain]

theorem Pc.plain_of_spent (h : pc.spent = true) : pc.plain = true := by
  cases pc <;> first | rfl | cases h

variable {record : PreviewInstanceRecord} {error : PreviewCoordinationError}
  {result : StartupResult} {attempt : Nat}

theorem acceptedPc_plain (r : Except PreviewStoreError AcceptStartOutcome) :
    (acceptedPc input r).plain = true := by
  unfold acceptedPc
  split <;> try split_ifs
  all_goals rfl

variable (r : Except PreviewStoreError (Option PreviewInstanceRecord))

theorem confirmedPc_plain : (confirmedPc attempt record r).plain = true := by
  unfold confirmedPc
  split <;> try split_ifs
  all_goals rfl

theorem startedPc_plain (started : Started) : (startedPc attempt record started).plain = true := by
  unfold startedPc
  split <;> try split_ifs
  all_goals try split
  all_goals rfl

theorem portsPc_plain {previous : Nat} {r : Except PreviewStoreError (List Nat)}
    (h : portsPc attempt record previous r = some pc) : pc.plain = true := by
  unfold portsPc at h
  split at h
  · obtain ⟨next, -, rfl⟩ := Option.map_eq_some_iff.mp h
    split <;> rfl
  · cases h
    rfl
  · cases h
    rfl

theorem movedPc_plain {retry : PreviewStartPortRetry}
    (r : Except PreviewStoreError PreviewInstanceRecord) :
    (movedPc attempt record retry r).plain = true := by
  unfold movedPc
  split <;> rfl

theorem publishedPc_spent {pid : Int} {port : Nat}
    (r : Except PreviewStoreError PreviewInstanceRecord) :
    (publishedPc record pid port r).spent = true := by
  unfold publishedPc
  split <;> rfl

theorem supersededPc_spent (r : Except String ExecutorStopOutcome) :
    (supersededPc record error r).spent = true := by
  unfold supersededPc
  split <;> rfl

theorem rereadPc_spent : (rereadPc record error r).spent = true := by
  unfold rereadPc
  split <;> try split_ifs
  all_goals try split
  all_goals rfl

theorem cancelledPc_spent (r : Except String ExecutorStopOutcome) :
    (cancelledPc record r).spent = true := by
  unfold cancelledPc
  split <;> rfl

theorem settlePc_spent : (settlePc record result r).spent = true := by
  unfold settlePc
  split <;> try split_ifs
  all_goals try split
  all_goals rfl

theorem unknownPc_spent (r : Except String ExecutorStopOutcome) :
    (unknownPc record error r).spent = true := by
  unfold unknownPc
  split <;> rfl

theorem successorPc_spent : (successorPc record error r).spent = true := by
  unfold successorPc
  split <;> try split_ifs
  all_goals rfl

/-- A decision leaves the lock and the native phase alone, and no way leads back from the end. -/
def Pc.LeadsTo (pc pc' : Pc) : Prop :=
  (pc.plain && !pc.isEnded) = true ∧ pc'.plain = true ∧ (pc.spent = true → pc'.spent = true)

variable {pc' : Pc}

theorem Pc.to_spent (h : (pc.plain && !pc.isEnded) = true) (h' : pc'.spent = true) :
    pc.LeadsTo pc' :=
  ⟨h, plain_of_spent h', fun _ => h'⟩

theorem Pc.to_plain (h : (pc.plain && !pc.isEnded) = true) (hopen : pc.spent = false)
    (h' : pc'.plain = true) : pc.LeadsTo pc' :=
  ⟨h, h', fun hspent => by simp [hopen] at hspent⟩

theorem quietPc_leadsTo (h : quietPc input s reply = some pc) : s.pc.LeadsTo pc := by
  unfold quietPc at h
  cases reply with
  | none =>
    simp only at h
    split at h
    case h_12 => cases h
    all_goals
      rename_i hpc
      rw [hpc]
      split_ifs at h
    all_goals obtain rfl := Option.some.inj h
    all_goals first
      | exact Pc.to_spent rfl rfl
      | exact Pc.to_plain rfl rfl rfl
      | exact Pc.to_plain rfl rfl (startedPc_plain _)
  | accepted r =>
    simp only at h
    split at h
    · rename_i hpc
      obtain rfl := Option.some.inj h
      rw [hpc]
      exact Pc.to_plain rfl rfl (acceptedPc_plain r)
    · cases h
  | got r =>
    simp only at h
    split at h
    case h_5 => cases h
    all_goals
      rename_i hpc
      obtain rfl := Option.some.inj h
      rw [hpc]
    · exact Pc.to_plain rfl rfl (confirmedPc_plain r)
    · exact Pc.to_spent rfl (rereadPc_spent r)
    · exact Pc.to_spent rfl (settlePc_spent r)
    · exact Pc.to_spent rfl (successorPc_spent r)
  | ports =>
    simp only at h
    split at h
    · rename_i hpc
      rw [hpc]
      exact Pc.to_plain rfl rfl (portsPc_plain h)
    · cases h
  | written r =>
    simp only at h
    split at h
    case h_5 => cases h
    all_goals
      rename_i hpc
      obtain rfl := Option.some.inj h
      rw [hpc]
    · exact Pc.to_plain rfl rfl (movedPc_plain r)
    · exact Pc.to_spent rfl (publishedPc_spent r)
    · exact Pc.to_spent rfl (by split <;> rfl)
    · exact Pc.to_spent rfl (by split <;> rfl)
  | stopped r =>
    simp only at h
    split at h
    case h_4 => cases h
    all_goals
      rename_i hpc
      obtain rfl := Option.some.inj h
      rw [hpc]
    · exact Pc.to_spent rfl (supersededPc_spent r)
    · exact Pc.to_spent rfl (cancelledPc_spent r)
    · exact Pc.to_spent rfl (unknownPc_spent r)
  | started => cases h

theorem sharedStep_effect (h : sharedStep s reply = some (e, s')) : Effect s e s' := by
  unfold sharedStep at h
  split at h
  case h_12 => cases h
  all_goals rename_i hpc
  · cases h
    exact .note hpc
  · split_ifs at h with hfree
    cases h
    exact .idleEnter hpc hfree
  · split_ifs at h with hseen
    · cases h
      exact .idleSee hpc hseen
    · cases h
      exact .idleSkip hpc
  · cases h
    exact .idleMark hpc
  · split_ifs at h with hfree
    cases h
    exact .beginEnter hpc hfree
  · split_ifs at h with hseen
    · cases h
      exact .beginRefuse hpc
    · cases h
      exact .beginGrant hpc (Bool.eq_false_iff.mpr hseen)
  · cases h
    exact .beginOpen hpc
  · cases h
    exact .launch hpc
  · cases h
    exact .land hpc
  · split_ifs at h with hfree
    cases h
    exact .finishPhase hpc hfree
  · cases h
    exact .finishDone hpc

theorem taskStep_effect (h : taskStep input s reply = some (e, s')) : Effect s e s' := by
  unfold taskStep at h
  cases hshared : sharedStep s reply with
  | some =>
    rw [hshared] at h
    cases h
    exact sharedStep_effect hshared
  | none =>
    rw [hshared] at h
    obtain ⟨pc, hpc, heq⟩ := Option.map_eq_some_iff.mp h
    cases heq
    obtain ⟨hfrom, hto, hspent⟩ := quietPc_leadsTo hpc
    simp only [Bool.and_eq_true, Bool.not_eq_true'] at hfrom
    obtain ⟨hheld, hrunning⟩ := Pc.plain_iff.mp hfrom.1
    obtain ⟨hheld', hrunning'⟩ := Pc.plain_iff.mp hto
    exact .goto hfrom.2 hheld hheld' hrunning hrunning' hspent

theorem turn_effect (h : turn input s t = some (e, s')) : Effect s e s' := by
  cases t with
  | task => exact taskStep_effect h
  | panic =>
    simp only [turn] at h
    by_cases hc : s.pc.holds = true ∨ s.pc.isEnded = true
    · rw [if_pos hc] at h
      cases h
    · rw [if_neg hc] at h
      cases h
      simp only [not_or, Bool.not_eq_true] at hc
      exact .panic hc.2 hc.1
  | observe =>
    simp only [turn] at h
    split at h
    · split_ifs at h with hc
      cases h
      exact .observePhase hc.1 hc.2
    · rename_i hclosing
      cases h
      exact .observeDone hclosing
    · cases h
  | cancelEnter =>
    simp only [turn] at h
    split_ifs at h with hfree
    cases h
    exact .cancelEnter hfree
  | cancelLeave =>
    simp only [turn] at h
    split_ifs at h with hheld
    cases h
    exact .cancelLeave hheld
  | wait =>
    simp only [turn] at h
    split_ifs at h with hdone
    all_goals
      cases h
      exact .wait hdone
  | stop =>
    simp only [turn] at h
    split_ifs at h with hwaited
    cases h
    exact .stop hwaited

theorem exec_effect (input : AcceptStartInput) (s : OwnedStartAttempt) (t : Turn) :
    Effect s ((machine input).exec s t).1 ((machine input).exec s t).2 := by
  simp only [machine]
  cases h : turn input s t with
  | none => exact .idle
  | some => exact turn_effect h

end Effects

section Invariant

structure Kept (s : OwnedStartAttempt) : Prop where
  held : s.lock = .attempt ↔ s.pc.holds = true
  marked : ∀ caller, s.lock = .canceller caller → s.cancelled = true
  running : s.pc.running = true → s.phase = .running
  seen : ∀ rest, s.pc = .idleDone rest → s.cancelled = true
  observed : s.observer ≠ .waiting → s.pc.isEnded = true
  /-- The completion is a proof that no start is under way and none will begin. -/
  done : s.executionDone = true → s.pc.running = false ∧ (s.cancelled = true ∨ s.pc.spent = true)
  waited : ∀ caller, s.stage caller = .waited → s.executionDone = true

theorem Kept.new : Kept .new := by
  constructor <;> simp [OwnedStartAttempt.new, Pc.holds, Pc.running]

theorem AfterIdle.next_plain (rest : AfterIdle) : rest.next.plain = true := by
  cases rest <;> rfl

theorem Pc.of_isEnded (h : pc.isEnded = true) : pc.running = false ∧ pc.spent = true := by
  cases pc <;> first | exact ⟨rfl, rfl⟩ | cases h

theorem Kept.effect (h : Kept s) (he : Effect s e s') : Kept s' := by
  obtain ⟨held, marked, running, seen, observed, done, waited⟩ := h
  have unlocked (hlock : s.lock ≠ .attempt) : s.pc.holds ≠ true := fun hpc => hlock (held.mpr hpc)
  cases he with
  | goto alive hfrom hto calm calm' spent =>
    refine ⟨iff_of_false (fun hlock => ?_) (by simp [hto]), marked, fun hrun => ?_,
      fun rest hpc => ?_, fun hobs => ?_, fun hdone => ⟨calm', (done hdone).2.imp_right spent⟩,
      waited⟩
    · simp [hfrom] at held
      exact held hlock
    · cases calm'.symm.trans hrun
    · cases hpc
      cases hto
    · cases alive.symm.trans (observed hobs)
  | note at_pc | launch at_pc | land at_pc =>
    rw [at_pc] at held running observed done
    exact ⟨held, marked, running, by rintro _ ⟨⟩, observed, done, waited⟩
  | idleEnter at_pc free =>
    rw [at_pc] at observed done
    exact ⟨iff_of_true rfl rfl, by rintro _ ⟨⟩, by rintro ⟨⟩, by rintro _ ⟨⟩, observed,
      fun hdone => ⟨rfl, (done hdone).2⟩, waited⟩
  | idleSee at_pc hseen =>
    rw [at_pc] at held running observed done
    exact ⟨held, marked, running, fun _ _ => hseen, observed, done, waited⟩
  | @idleSkip rest at_pc =>
    obtain ⟨hheld, hcalm⟩ := Pc.plain_iff.mp rest.next_plain
    rw [at_pc] at observed done
    refine ⟨iff_of_false (by rintro ⟨⟩) (by simp [hheld]), by rintro _ ⟨⟩, by simp [hcalm],
      fun rest' hpc => ?_, fun hobs => ?_, fun hdone => ⟨hcalm, ?_⟩, waited⟩
    · cases hheld.symm.trans (congrArg Pc.holds hpc)
    · cases observed hobs
    · exact .inl ((done hdone).2.resolve_right (by rintro ⟨⟩))
  | @idleMark rest at_pc =>
    obtain ⟨hheld, hcalm⟩ := Pc.plain_iff.mp rest.next_plain
    have hseen := seen rest at_pc
    rw [at_pc] at observed
    refine ⟨iff_of_false (by rintro ⟨⟩) (by simp [hheld]), by rintro _ ⟨⟩, by simp [hcalm],
      fun _ _ => hseen, fun hobs => ?_, fun _ => ⟨hcalm, .inl hseen⟩, fun _ _ => rfl⟩
    cases observed hobs
  | beginEnter at_pc free =>
    rw [at_pc] at running observed done
    exact ⟨iff_of_true rfl rfl, by rintro _ ⟨⟩, running, by rintro _ ⟨⟩, observed, done, waited⟩
  | beginRefuse at_pc =>
    rw [at_pc] at running observed
    exact ⟨iff_of_false (by rintro ⟨⟩) (by rintro ⟨⟩), by rintro _ ⟨⟩, running, by rintro _ ⟨⟩,
      observed, fun _ => ⟨rfl, .inr rfl⟩, waited⟩
  | beginGrant at_pc unseen =>
    rw [at_pc] at held observed done
    refine ⟨held, marked, fun _ => rfl, by rintro _ ⟨⟩, observed, fun hdone => ?_, waited⟩
    -- had the completion been set, the attempt would have been cancelled
    obtain hcancelled | ⟨⟨⟩⟩ := (done hdone).2
    cases unseen.symm.trans hcancelled
  | beginOpen at_pc =>
    rw [at_pc] at running observed done
    refine ⟨iff_of_false (by rintro ⟨⟩) (by rintro ⟨⟩), by rintro _ ⟨⟩, running, by rintro _ ⟨⟩,
      observed, by rintro ⟨⟩, fun caller hwaited => ?_⟩
    cases (done (waited caller hwaited)).1
  | finishPhase at_pc free =>
    rw [at_pc] at held observed done
    exact ⟨held, marked, by rintro ⟨⟩, by rintro _ ⟨⟩, observed, done, waited⟩
  | finishDone at_pc =>
    rw [at_pc] at held running
    exact ⟨held, marked, running, by rintro _ ⟨⟩, fun _ => rfl, fun _ => ⟨rfl, .inr rfl⟩,
      fun _ _ => rfl⟩
  | panic alive hfrom =>
    rw [hfrom] at held
    exact ⟨held, marked, by rintro ⟨⟩, by rintro _ ⟨⟩, fun _ => rfl, fun _ => ⟨rfl, .inr rfl⟩,
      waited⟩
  | observePhase ended free =>
    refine ⟨held, marked, fun hrun => ?_, seen, fun _ => ended, done, waited⟩
    cases (Pc.of_isEnded ended).1.symm.trans hrun
  | observeDone closing =>
    have hended := observed (by simp [closing])
    obtain ⟨hcalm, hspent⟩ := Pc.of_isEnded hended
    exact ⟨held, marked, running, seen, fun _ => hended, fun _ => ⟨hcalm, .inr hspent⟩,
      fun _ _ => rfl⟩
  | cancelEnter free =>
    exact ⟨iff_of_false (by rintro ⟨⟩) (unlocked (by simp [free])), fun _ _ => rfl, running,
      fun _ _ => rfl, observed, fun hdone => ⟨(done hdone).1, .inl rfl⟩, waited⟩
  | @cancelLeave caller hheld =>
    have hcancelled := marked caller hheld
    refine ⟨iff_of_false (by rintro ⟨⟩) (unlocked (by simp [hheld])), by rintro _ ⟨⟩, running,
      fun _ _ => hcancelled, observed, fun hdone => ⟨?_, .inl hcancelled⟩, fun caller' hstage => ?_⟩
    · -- the completion was set before, or the phase shows that no native start is under way
      by_contra hrun
      have hphase := running (Bool.not_eq_false _ ▸ hrun)
      simp only [hphase, reduceCtorEq, or_self, decide_false, Bool.or_false] at hdone
      exact hrun (done hdone).1
    · simp only [Function.update_apply] at hstage
      split_ifs at hstage
      simp [waited caller' hstage]
  | wait hdone => exact ⟨held, marked, running, seen, observed, done, fun _ _ => hdone⟩
  | stop | idle => exact ⟨held, marked, running, seen, observed, done, waited⟩

end Invariant

section Runs

variable {tr : List (Turn × Event)}

def seen (e : Event) (tr : List (Turn × Event)) : Nat := (tr.map Prod.snd).count e

theorem seen_append (e : Event) (tr tr' : List (Turn × Event)) :
    seen e (tr ++ tr') = seen e tr + seen e tr' := by
  simp [seen]

theorem seen_single (e e' : Event) (t : Turn) : seen e [(t, e')] = if e' = e then 1 else 0 := by
  simp [seen, List.count_singleton]

theorem Pc.native_running (h : pc.running = false) : pc.isNative = false := by
  cases pc <;> first | rfl | cases h

theorem Pc.launching_running (h : pc.running = false) : pc.isLaunching = false := by
  cases pc <;> first | rfl | cases h

/-- A start begins from outside the native call and is over inside it. -/
theorem Effect.native (he : Effect s e s') :
    (e = .began ∧ s.pc.isNative = false ∧ s'.pc.isNative = true) ∨
      (e = .over ∧ s.pc.isNative = true ∧ s'.pc.isNative = false) ∨
      (e ≠ .began ∧ e ≠ .over ∧ s'.pc.isNative = s.pc.isNative) := by
  cases he with
  | goto => grind [Pc.native_running]
  | @idleSkip rest | @idleMark rest =>
    have hnext := Pc.native_running (Pc.plain_iff.mp rest.next_plain).2
    grind [Pc.isNative]
  | _ => grind [Pc.isNative]

/-- The task is about to start only after it was let in, and until it begins. -/
theorem Effect.launching (he : Effect s e s') (h : s'.pc.isLaunching = true) :
    e = .opened ∨ (s.pc.isLaunching = true ∧ e ≠ .began) := by
  cases he with
  | goto => grind [Pc.launching_running]
  | @idleSkip rest | @idleMark rest =>
    have hnext := Pc.launching_running (Pc.plain_iff.mp rest.next_plain).2
    cases hnext.symm.trans h
  | _ => grind [Pc.isLaunching]

/-- Nobody is let in any more. -/
structure Barred (s : OwnedStartAttempt) : Prop where
  cancelled : s.cancelled = true
  shut : ∀ attempt record, s.pc ≠ .beginDone attempt record

/-- Behind a cancel the only start that can begin is the one that was let in before it. -/
theorem Barred.effect (h : Barred s) (he : Effect s e s') :
    Barred s' ∧ e ≠ .opened ∧ (e = .began → s.pc.isLaunching = true ∧ s'.pc.isLaunching = false) := by
  obtain ⟨cancelled, shut⟩ := h
  cases he with
  | @idleSkip rest | @idleMark rest =>
    have hnext := (Pc.plain_iff.mp rest.next_plain).1
    exact ⟨⟨cancelled, by grind [Pc.holds]⟩, by simp, by simp⟩
  | beginGrant _ unseen => simp [cancelled] at unseen
  | beginOpen at_pc => exact absurd at_pc (shut _ _)
  | _ => exact ⟨⟨by grind, by grind [Pc.holds]⟩, by grind, by grind [Pc.isLaunching]⟩

variable {caller : Nat}

/-- A cancel that returns leaves the attempt barred. -/
theorem Effect.barred (h : Kept s) (he : Effect s e s') (hevent : e = .cancelReturned caller) :
    Barred s' := by
  have held := h.held
  have marked := h.marked
  cases he with
  | cancelLeave => exact ⟨by grind, by grind [Pc.holds]⟩
  | _ => grind

theorem Effect.done_of_wait (he : Effect s e s') (hevent : e = .waitReturned caller) :
    s.executionDone = true := by
  cases he <;> grind

theorem Effect.waited_of_stop (he : Effect s e s') (hevent : e = .exactStop caller) :
    s.stage caller = .waited := by
  cases he <;> grind

/-- The completion stays, and behind it no start begins. -/
theorem Kept.quiesced (h : Kept s) (hd : s.executionDone = true) (he : Effect s e s') :
    s'.executionDone = true ∧ e ≠ .began := by
  have hcalm := (h.done hd).1
  cases he <;> grind [Pc.running]

variable {u : OwnedStartAttempt} {ok : OwnedStartAttempt → Turn → Prop}

theorem kept_run (hr : (machine input).Run ok s tr u) (h : Kept s) : Kept u :=
  hr.invariant h fun t i _ ht => ht.effect (exec_effect input t i)

/-- Every start that began is over, but for the one that is under way. -/
theorem balanced_run (hr : (machine input).Run ok .new tr u) :
    seen .began tr = seen .over tr + u.pc.isNative.toNat := by
  refine hr.trace_invariant (I := fun tr u => seen .began tr = seen .over tr + u.pc.isNative.toNat)
    rfl fun tr t i _ ih => ?_
  rw [seen_append, seen_append, seen_single, seen_single]
  rcases (exec_effect input t i).native with ⟨he, hfrom, hto⟩ | ⟨he, hfrom, hto⟩ | ⟨hb, ho, hsame⟩
  · simp [he, hfrom, hto] at ih ⊢
    omega
  · simp [he, hfrom, hto] at ih ⊢
    omega
  · rw [if_neg hb, if_neg ho, hsame]
    exact ih

/-- A task that is about to start was let in, and has not begun since. -/
theorem opened_run (hr : (machine input).Run ok .new tr u) (h : u.pc.isLaunching = true) :
    ∃ a b turn, tr = a ++ (turn, .opened) :: b ∧ seen .began b = 0 := by
  refine hr.trace_invariant (I := fun tr u => u.pc.isLaunching = true →
    ∃ a b turn, tr = a ++ (turn, .opened) :: b ∧ seen .began b = 0) (by rintro ⟨⟩)
    (fun tr t i _ ih hto => ?_) h
  rcases (exec_effect input t i).launching hto with he | ⟨hfrom, hb⟩
  · exact ⟨tr, [], i, by rw [he], rfl⟩
  · obtain ⟨a, b, turn, rfl, hnone⟩ := ih hfrom
    refine ⟨a, b ++ [(i, ((machine input).exec t i).1)], turn, by simp, ?_⟩
    rw [seen_append, seen_single, hnone, if_neg hb]

/-- Behind a cancel at most one start begins, if it was let in before. -/
theorem barred_run (hr : (machine input).Run ok s tr u) (h : Barred s) :
    seen .opened tr = 0 ∧ seen .began tr + u.pc.isLaunching.toNat ≤ s.pc.isLaunching.toNat := by
  have hinv : Barred u ∧ seen .opened tr = 0 ∧
      seen .began tr + u.pc.isLaunching.toNat ≤ s.pc.isLaunching.toNat := by
    refine hr.trace_invariant (I := fun tr u => Barred u ∧ seen .opened tr = 0 ∧
      seen .began tr + u.pc.isLaunching.toNat ≤ s.pc.isLaunching.toNat)
      ⟨h, rfl, Nat.le_of_eq (Nat.zero_add _)⟩ fun tr t i _ ih => ?_
    obtain ⟨hbarred, hopened, hcount⟩ := ih
    obtain ⟨hbarred', hno, hbegan⟩ := hbarred.effect (exec_effect input t i)
    refine ⟨hbarred', ?_, ?_⟩
    · rw [seen_append, seen_single, hopened, if_neg hno]
    · rw [seen_append, seen_single]
      by_cases hb : ((machine input).exec t i).1 = .began
      · obtain ⟨hfrom, hto⟩ := hbegan hb
        simp [hb, hfrom, hto] at hcount ⊢
        omega
      · rw [if_neg hb, Nat.add_zero]
        refine Nat.le_trans (Nat.add_le_add_left ?_ _) hcount
        by_cases hto : ((machine input).exec t i).2.pc.isLaunching = true
        · rcases (exec_effect input t i).launching hto with he | ⟨hfrom, -⟩
          · exact absurd he hno
          · exact Nat.le_of_eq (by rw [hto, hfrom])
        · rw [Bool.eq_false_iff.mpr hto]
          exact Nat.zero_le _
  exact hinv.2

/-- Behind the completion no start begins. -/
theorem quiesced_run (hr : (machine input).Run ok s tr u) (h : Kept s)
    (hd : s.executionDone = true) : seen .began tr = 0 := by
  have hinv : Kept u ∧ u.executionDone = true ∧ seen .began tr = 0 := by
    refine hr.trace_invariant (I := fun tr u => Kept u ∧ u.executionDone = true ∧
      seen .began tr = 0) ⟨h, hd, rfl⟩ fun tr t i _ ih => ?_
    obtain ⟨hkept, hdone, hnone⟩ := ih
    have he := exec_effect input t i
    obtain ⟨hdone', hno⟩ := hkept.quiesced hdone he
    refine ⟨hkept.effect he, hdone', ?_⟩
    rw [seen_append, seen_single, hnone, if_neg hno]
  exact hinv.2.2

/-- What a run shows of an attempt and those who stop it. -/
structure ExcludesSpawn (tr : List (Turn × Event)) : Prop where
  /-- Behind a cancel that has returned nobody is let in, and a start begins at most once, and only
  if it was let in before the cancel. -/
  cancelled : ∀ tr₁ turn caller tr₂, tr = tr₁ ++ (turn, .cancelReturned caller) :: tr₂ →
    seen .opened tr₂ = 0 ∧ seen .began tr₂ ≤ 1 ∧
      (0 < seen .began tr₂ → ∃ a b turn, tr₁ = a ++ (turn, .opened) :: b ∧ seen .began b = 0)
  /-- Where a wait returns, every start is over and none begins any more. -/
  waited : ∀ tr₁ turn caller tr₂, tr = tr₁ ++ (turn, .waitReturned caller) :: tr₂ →
    seen .began tr₁ = seen .over tr₁ ∧ seen .began tr₂ = 0
  /-- The exact stop of a caller that has cancelled and waited comes behind every start. -/
  stopped : ∀ tr₁ turn caller tr₂, tr = tr₁ ++ (turn, .exactStop caller) :: tr₂ →
    seen .began tr₁ = seen .over tr₁ ∧ seen .began tr₂ = 0

theorem done_at {tr₁ tr₂ : List (Turn × Event)} (hr : (machine input).Run ok .new tr₁ s)
    (hd : s.executionDone = true)
    (hrest : (machine input).Run ok ((machine input).exec s t).2 tr₂ u) :
    seen .began tr₁ = seen .over tr₁ ∧ seen .began tr₂ = 0 := by
  have hkept := kept_run hr .new
  have he := exec_effect input s t
  constructor
  · have hbalance := balanced_run hr
    rw [Pc.native_running (hkept.done hd).1] at hbalance
    exact hbalance
  · exact quiesced_run hrest (hkept.effect he) (hkept.quiesced hd he).1

/-- Over every interleaving of a start attempt with those who cancel it and wait for it. -/
theorem stop_excludes_spawn (hr : (machine input).Run (fun _ _ => True) .new tr u) :
    ExcludesSpawn tr where
  cancelled tr₁ t caller tr₂ htr := by
    subst htr
    obtain ⟨s, hs, -, hevent, hrest⟩ := hr.step_at
    have he := exec_effect input s t
    have hkept := kept_run hs .new
    obtain ⟨hopened, hcount⟩ := barred_run hrest (he.barred hkept hevent)
    have hbound := Bool.toNat_le ((machine input).exec s t).2.pc.isLaunching
    refine ⟨hopened, by omega, fun hbegan => ?_⟩
    have hlaunching : ((machine input).exec s t).2.pc.isLaunching = true := by
      cases hl : ((machine input).exec s t).2.pc.isLaunching with
      | true => rfl
      | false =>
        rw [hl, Bool.toNat_false] at hcount
        omega
    rcases he.launching hlaunching with hopen | ⟨hfrom, -⟩
    · cases hevent.symm.trans hopen
    · exact opened_run hs hfrom
  waited tr₁ t caller tr₂ htr := by
    subst htr
    obtain ⟨s, hs, -, hevent, hrest⟩ := hr.step_at
    exact done_at hs ((exec_effect input s t).done_of_wait hevent) hrest
  stopped tr₁ t caller tr₂ htr := by
    subst htr
    obtain ⟨s, hs, -, hevent, hrest⟩ := hr.step_at
    have hwaited := (exec_effect input s t).waited_of_stop hevent
    exact done_at hs ((kept_run hs .new).waited caller hwaited) hrest

/-- The task is let in, is cancelled before its start begins, and stopped behind it. -/
def exampleTurns : List Turn :=
  let row := (exampleStart "op-1" "inst-1").record 1 5000 1
  [.task .none, .task (.accepted (.ok (.admitted row))), .task .none, .task .none, .task .none,
    .task .none, .task .none, .task (.got (.ok (some row))), .task .none, .task .none, .task .none,
    .task .none, .cancelEnter 0, .cancelLeave 0, .task .none, .task (.started (.failed "exited")),
    .task .none, .task .none, .task .none, .wait 0, .stop 0]

theorem stop_excludes_spawn_example :
    let tr := (machine (exampleStart "op-1" "inst-1")).trace .new exampleTurns
    seen (.cancelReturned 0) tr = 1 ∧ seen (.exactStop 0) tr = 1 ∧ ExcludesSpawn tr :=
  ⟨by decide +kernel, by decide +kernel,
    stop_excludes_spawn (.of_follows (Machine.follows_of_forall fun _ _ _ => trivial))⟩

/-- A start begins behind a cancel that has returned. -/
theorem spawn_behind_cancel : ∃ tr u tr₁ turn tr₂,
    (machine (exampleStart "op-1" "inst-1")).Run (fun _ _ => True) .new tr u ∧
      tr = tr₁ ++ (turn, .cancelReturned 0) :: tr₂ ∧ 0 < seen .began tr₂ := by
  let m := machine (exampleStart "op-1" "inst-1")
  exact ⟨m.trace .new exampleTurns, m.after .new exampleTurns, (m.trace .new exampleTurns).take 13,
    .cancelLeave 0, (m.trace .new exampleTurns).drop 14,
    .of_follows (Machine.follows_of_forall fun _ _ _ => trivial), rfl, by decide +kernel⟩

end Runs

end Rcoder.Preview.Startup
