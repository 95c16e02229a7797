import Rcoder.Lib.Stream
import Rcoder.Lib.Transaction
import Rcoder.Runtime.Run

/-!
# Event streams under concurrent producers

The kernel and the orchestration of its operations append to one stream per operation, from many
threads. A call reads the stream, takes the next number and appends, in steps of its own; the
lock `event_write` keeps two calls from doing so at once. The calls here take their steps in any
order, and each step meets its own outcomes of the disk.
-/

namespace Rcoder.Runtime

open Effect Machine RuntimeStore List

structure EventDraft where
  operationId : String
  stage : String
  service : Option String
  eventName : Option String
  payload : Option Json
  deriving DecidableEq

/-- The record for the next place in the stream; a closed or exhausted stream takes none. -/
def nextRecord (runtimeInstanceId : String) (draft : EventDraft)
    (history : List RuntimeEventRecord) : Option RuntimeEventRecord :=
  if history.any fun event => event.stage == "terminal" then none
  else (nextSequence history).map fun sequence =>
    ⟨draft.operationId, sequence, runtimeInstanceId, draft.stage, draft.service, draft.eventName,
      draft.payload⟩

/-- Where a call is: `append_orchestration_event` first looks for the operation's record, and both
then take the lock, read the stream and append. -/
inductive EmitPhase
  | checking (draft : EventDraft)
  | entering (draft : EventDraft)
  | reading (draft : EventDraft)
  | appending (record : RuntimeEventRecord)
  | returned (written : Bool)
  deriving DecidableEq

/-- The producers of one kernel: its store, the holder of `event_write` and the calls so far. -/
structure Producers where
  store : RuntimeStore
  runtimeInstanceId : String
  writer : Option Nat
  calls : List EmitPhase

inductive Turn
  | emitWithPayload (draft : EventDraft)
  | appendOrchestrationEvent (draft : EventDraft)
  /-- the next step of a call -/
  | step (call : Nat) (faults : List Fault)
  /-- the kernel writes something other than events -/
  | store (store : RuntimeStore)

namespace Producers

variable (env : KernelEnv)

def setPhase (p : Producers) (call : Nat) (phase : EmitPhase) : Producers :=
  { p with calls := p.calls.set call phase }

/-- The call returns and drops the lock. -/
def release (p : Producers) (call : Nat) (written : Bool) : Producers :=
  { p.setPhase call (.returned written) with writer := none }

def check (p : Producers) (call : Nat) (draft : EventDraft) (faults : List Fault) : Producers :=
  match loadOperation env draft.operationId ⟨p.store, faults⟩ with
  | .ok (some _) _ => p.setPhase call (.entering draft)
  | _ => p.setPhase call (.returned false)

def enter (p : Producers) (call : Nat) (draft : EventDraft) : Producers :=
  if p.writer = none then { p.setPhase call (.reading draft) with writer := some call } else p

def read (p : Producers) (call : Nat) (draft : EventDraft) (faults : List Fault) : Producers :=
  match replayEvents env draft.operationId 0 ⟨p.store, faults⟩ with
  | .error _ _ => p.release call false
  | .ok history _ =>
    match nextRecord p.runtimeInstanceId draft history with
    | none => p.release call false
    | some record => p.setPhase call (.appending record)

def append (p : Producers) (call : Nat) (record : RuntimeEventRecord) (faults : List Fault) :
    Producers :=
  match appendEvent env record ⟨p.store, faults⟩ with
  | .ok _ d => { p.release call true with store := d.store }
  | .error _ d => { p.release call false with store := d.store }

def step (p : Producers) (call : Nat) (faults : List Fault) : Producers :=
  match p.calls[call]? with
  | some (.checking draft) => p.check env call draft faults
  | some (.entering draft) => p.enter call draft
  | some (.reading draft) => p.read env call draft faults
  | some (.appending record) => p.append env call record faults
  | some (.returned _) => p
  | none => p

def turn (p : Producers) : Turn → Producers
  | .emitWithPayload draft => { p with calls := p.calls ++ [.entering draft] }
  | .appendOrchestrationEvent draft => { p with calls := p.calls ++ [.checking draft] }
  | .step call faults => p.step env call faults
  | .store store => { p with store := { store with events := p.store.events } }

end Producers

def producersMachine (env : KernelEnv) : Machine Producers Turn Unit where
  exec p turn := ((), p.turn env turn)

/-- The durable stream of an operation. -/
def RuntimeStore.log (s : RuntimeStore) (id : String) : List RuntimeEventRecord :=
  (s.events.lookup id).getD []

def RuntimeEventRecord.Terminal (event : RuntimeEventRecord) : Prop := event.stage = "terminal"

/-- Numbered from 1, with nothing after a terminal event. -/
abbrev Gapless (log : List RuntimeEventRecord) : Prop :=
  Numbered RuntimeEventRecord.sequence RuntimeEventRecord.Terminal log

variable {env : KernelEnv} {p p' s t : Producers} {draft : EventDraft} {id : String}
  {record : RuntimeEventRecord} {log history : List RuntimeEventRecord} {store : RuntimeStore}
  {faults : List Fault} {c : Nat} {instanceId : String}

section Log

/-- The existence check of the log does not fail on a log that is there. -/
def SeesLog (store : RuntimeStore) (id : String) (faults : List Fault) : Prop :=
  store.events.lookup id ≠ none → ∀ f, faults.head? = some f → f = .none

theorem Gapless.insertionSort (h : Gapless log) :
    log.insertionSort (fun a b => a.sequence ≤ b.sequence) = log :=
  (h.pairwise.imp Nat.le_of_lt).insertionSort_eq

theorem nextRecord_eq_some (h : nextRecord instanceId draft log = some record) :
    (∀ event ∈ log, ¬event.Terminal) ∧ nextSequence log = some record.sequence ∧
      record.operationId = draft.operationId ∧ record.stage = draft.stage ∧
      record.eventName = draft.eventName := by
  unfold nextRecord at h
  split_ifs at h with hterm
  obtain ⟨sequence, hseq, rfl⟩ := Option.map_eq_some_iff.mp h
  refine ⟨fun event hmem hevent => hterm ?_, hseq, rfl, rfl, rfl⟩
  exact any_eq_true.mpr ⟨event, hmem, beq_iff_eq.mpr hevent⟩

theorem Gapless.nextSequence (h : Gapless log) {n : Nat}
    (hn : Runtime.nextSequence log = some n) : n = log.length + 1 := by
  unfold Runtime.nextSequence at hn
  cases hlast : log.getLast? with
  | none =>
    rw [getLast?_eq_none_iff.mp hlast] at hn ⊢
    exact (Option.some.inj hn).symm
  | some =>
    rw [hlast] at hn
    rw [checkedSucc_eq_some hn, h.seq_getLast hlast]

/-- The store with one event more. -/
def RuntimeStore.appended (s : RuntimeStore) (event : RuntimeEventRecord) : RuntimeStore :=
  { s with events := s.events.insert event.operationId (s.log event.operationId ++ [event]) }

theorem log_appended_self : (store.appended record).log record.operationId =
    store.log record.operationId ++ [record] := by
  simp [log, appended]

theorem log_appended_ne (h : id ≠ record.operationId) :
    (store.appended record).log id = store.log id := by
  simp only [log, appended, AList.lookup_insert_ne h]

theorem access_store (store : RuntimeStore) (faults : List Fault) {context : List String} :
    Triple (· = ⟨store, faults⟩) (access context) (fun _ d => d = ⟨store, faults.tail⟩)
      fun _ d => d.store = store ∧ ∃ f, faults.head? = some f ∧ f ≠ .none := by
  rintro _ rfl
  cases faults with
  | nil => exact rfl
  | cons f =>
    cases f with
    | none => exact rfl
    | fail | published => exact ⟨rfl, _, rfl, by simp⟩

/-- A replay that sees the log returns what lies behind the cursor. -/
theorem replayEvents_rule : Triple (· = ⟨store, faults⟩) (replayEvents env id c)
    (fun history d => d.store = store ∧ (SeesLog store id faults →
      history = ((store.log id).filter fun event => c < event.sequence).insertionSort
        fun a b => a.sequence ≤ b.sequence)) fun _ d => d.store = store := by
  refine .bind (R := fun seen d => d.store = store ∧
      ∀ e, seen = .error e → ∃ f, faults.head? = some f ∧ f ≠ .none)
    (.attempt ((access_store store faults).post ?_ ?_)) fun seen => ?_
  · rintro _ _ rfl
    exact ⟨rfl, by rintro _ ⟨⟩⟩
  · exact fun _ _ h => ⟨h.1, fun _ _ => h.2⟩
  cases seen with
  | error e =>
    refine .pure fun d h => ⟨h.1, fun hsees => ?_⟩
    -- a log that is not seen is taken for a missing one
    have hmissing : store.events.lookup id = none := by
      by_contra hthere
      obtain ⟨f, hf, hne⟩ := h.2 e rfl
      exact hne (hsees hthere f hf)
    simp [log, hmissing]
  | ok =>
    refine .read ?_
    rintro d₁ ⟨rfl, -⟩
    cases hlog : d₁.store.events.lookup id with
    | none => exact .pure fun d h => ⟨h.1 ▸ rfl, fun _ => by simp [log, hlog]⟩
    | some =>
      refine .bind (R := fun _ d => d.store = d₁.store)
        ((access_store d₁.store d₁.script).imp (fun _ h => h.1) ?_ fun _ _ h => h.1) fun _ => ?_
      · rintro _ _ rfl
        rfl
      · exact .pure fun d h => ⟨h, fun _ => by simp [log, hlog]⟩

theorem appendEvent_rule : Triple (·.store = store) (appendEvent env record)
    (fun _ d => d.store = store.appended record) fun _ d => d.store = store := by
  refine .bind (R := fun _ d => d.store = store) ?_ fun _ => .modify ?_
  · rintro ⟨_, script⟩ rfl
    refine (access_store _ script).post ?_ (fun _ _ h => h.1) _ rfl
    rintro _ _ rfl
    rfl
  · rintro d rfl
    rfl

end Log

variable {phase : EmitPhase}

section Sound

/-- The invariant of the producers: at most the holder of the lock is about to append, and what it
is about to append is the next event of the stream as it stands. -/
structure Producers.Sound (p : Producers) (id : String) : Prop where
  gapless : Gapless (p.store.log id)
  reads : ∀ (i : Nat) (draft : EventDraft), p.calls[i]? = some (.reading draft) → p.writer = some i
  writes : ∀ (i : Nat) (record : RuntimeEventRecord), p.calls[i]? = some (.appending record) →
    p.writer = some i
  next : ∀ (i : Nat) (record : RuntimeEventRecord), p.calls[i]? = some (.appending record) →
    record.operationId = id →
    (∀ event ∈ p.store.log id, ¬event.Terminal) ∧
      record.sequence = (p.store.log id).length + 1

variable {x : EmitPhase} {calls : List EmitPhase} {i : Nat}

theorem phase_set {call : Nat} (h : (calls.set call phase)[i]? = some x) :
    (i = call ∧ x = phase) ∨ i ≠ call ∧ calls[i]? = some x := by
  by_cases hi : i = call
  · subst hi
    obtain ⟨hlt, hx⟩ := List.getElem?_eq_some_iff.mp h
    exact .inl ⟨rfl, by simpa using hx.symm⟩
  · rw [getElem?_set_ne (.symm hi)] at h
    exact .inr ⟨hi, h⟩

/-- A phase without the lock. -/
def EmitPhase.Outside : EmitPhase → Prop
  | .reading _ => False
  | .appending _ => False
  | _ => True

theorem phase_append (h : (calls ++ [phase])[i]? = some x) : x = phase ∨ calls[i]? = some x := by
  rcases Nat.lt_or_ge i calls.length with hi | hi
  · exact .inr ((getElem?_append_left hi).symm.trans h)
  · rw [getElem?_append_right hi] at h
    exact .inl (mem_singleton.mp (mem_of_getElem? h))

section

variable (h : p.Sound id)
include h

/-- Calls that come in or leave do so outside. -/
theorem Producers.Sound.of_calls
    (hcalls : ∀ (i : Nat) x, calls[i]? = some x → x.Outside ∨ p.calls[i]? = some x) :
    Producers.Sound { p with calls := calls } id := by
  refine ⟨h.gapless, fun i draft hi => h.reads i draft ?_, fun i record hi => h.writes i record ?_,
    fun i record hi => h.next i record ?_⟩
  all_goals exact (hcalls i _ hi).resolve_left not_false

theorem Producers.Sound.setPhase {call : Nat} (hphase : phase.Outside) :
    (p.setPhase call phase).Sound id := by
  refine h.of_calls fun i x hi => ?_
  obtain ⟨-, rfl⟩ | ⟨-, hi⟩ := phase_set hi
  · exact .inl hphase
  · exact .inr hi

theorem Producers.Sound.call (hphase : phase.Outside) :
    Producers.Sound { p with calls := p.calls ++ [phase] } id := by
  refine h.of_calls fun i x hi => (phase_append hi).imp_left ?_
  rintro rfl
  exact hphase

/-- When the lock is free, or its holder returns, nobody is inside. -/
theorem Producers.Sound.outside {call : Nat} (hwriter : p.writer = none ∨ p.writer = some call)
    (hi : i ≠ call) (hphase : p.calls[i]? = some phase) : phase.Outside := by
  have free (hinside : p.writer = some i) : False := by
    rcases hwriter with hw | hw
    · cases hw.symm.trans hinside
    · exact hi (Option.mem_unique hw hinside).symm
  cases phase with
  | reading draft => exact free (h.reads i draft hphase)
  | appending record => exact free (h.writes i record hphase)
  | _ => trivial

theorem Producers.Sound.alone {call : Nat} (hwriter : p.writer = none ∨ p.writer = some call)
    (hi : (p.calls.set call phase)[i]? = some x) (hx : ¬x.Outside) : i = call ∧ x = phase :=
  (phase_set hi).resolve_right fun hother => hx (h.outside hwriter hother.1 hother.2)

/-- The holder of the lock returns, and leaves a gapless stream. -/
theorem Producers.Sound.release {call : Nat} {written : Bool} (hwriter : p.writer = some call)
    (hlog : Gapless (store.log id)) :
    Producers.Sound { p.release call written with store := store } id := by
  have nobody {i : Nat} {phase : EmitPhase}
      (hi : (p.calls.set call (.returned written))[i]? = some phase) : phase.Outside := by
    rcases phase_set hi with ⟨-, rfl⟩ | ⟨hne, hi⟩
    · trivial
    · exact h.outside (.inr hwriter) hne hi
  exact ⟨hlog, fun i draft hi => (nobody hi).elim, fun i record hi => (nobody hi).elim,
    fun i record hi _ => (nobody hi).elim⟩

theorem Producers.Sound.check (call : Nat) (draft : EventDraft)
    (faults : List Fault) : (p.check env call draft faults).Sound id := by
  unfold Producers.check
  split
  · exact h.setPhase trivial
  · exact h.setPhase trivial

theorem Producers.Sound.enter (call : Nat) (draft : EventDraft) :
    (p.enter call draft).Sound id := by
  unfold Producers.enter
  split_ifs with hfree
  swap
  · exact h
  refine ⟨h.gapless, fun i draft' hi => ?_, fun i record hi => ?_, fun i record hi _ => ?_⟩
  · obtain ⟨rfl, -⟩ := h.alone (.inl hfree) hi not_false
    rfl
  all_goals obtain ⟨-, ⟨⟩⟩ := h.alone (.inl hfree) hi not_false

/-- The number is taken from the stream as the lock holder sees it. -/
theorem Producers.Sound.read {call : Nat} (hcall : p.calls[call]? = some (.reading draft))
    (hsees : SeesLog p.store draft.operationId faults) :
    (p.read env call draft faults).Sound id := by
  have hwriter := h.reads call draft hcall
  have gone : (p.release call false).Sound id := h.release hwriter h.gapless
  unfold Producers.read
  cases hread : replayEvents env draft.operationId 0 ⟨p.store, faults⟩ with
  | error => exact gone
  | ok history =>
    cases hnext : nextRecord p.runtimeInstanceId draft history with
    | none => simpa only [hnext] using gone
    | some =>
      simp only [hnext]
      obtain ⟨-, hhistory⟩ := replayEvents_rule.ok rfl hread
      obtain ⟨hopen, hseq, hid, -⟩ := nextRecord_eq_some hnext
      refine ⟨h.gapless, fun i draft' hi => ?_, fun i record' hi => ?_, fun i record' hi hid' => ?_⟩
      all_goals obtain ⟨rfl, ⟨⟩⟩ := h.alone (.inr hwriter) hi not_false
      · exact hwriter
      · have hlog : history = p.store.log id := by
          rw [hhistory hsees, ← hid, hid', h.gapless.filter_eq_drop, drop_zero,
            h.gapless.insertionSort]
        subst hlog
        exact ⟨hopen, h.gapless.nextSequence hseq⟩

theorem Producers.Sound.append {call : Nat} (hcall : p.calls[call]? = some (.appending record)) :
    (p.append env call record faults).Sound id := by
  have hwriter := h.writes call record hcall
  unfold Producers.append
  cases happend : appendEvent env record ⟨p.store, faults⟩ with
  | error e d =>
    have hstore : d.store = p.store := appendEvent_rule.error rfl happend
    exact h.release hwriter (hstore ▸ h.gapless)
  | ok _ d =>
    have hstore : d.store = p.store.appended record := appendEvent_rule.ok rfl happend
    refine h.release hwriter ?_
    rw [hstore]
    by_cases hid : record.operationId = id
    · subst hid
      obtain ⟨hopen, hseq⟩ := h.next call record hcall rfl
      rw [log_appended_self]
      exact h.gapless.snoc hopen hseq
    · rw [log_appended_ne (.symm hid)]
      exact h.gapless

end

/-- The step of a call that reads the stream sees the log, if there is one. -/
def LogSeen (p : Producers) (turn : Turn) : Prop :=
  ∀ (call : Nat) (faults : List Fault) (draft : EventDraft), turn = .step call faults →
    p.calls[call]? = some (.reading draft) →
    SeesLog p.store draft.operationId faults

theorem Producers.Sound.turn (h : p.Sound id) {turn : Turn} (hok : LogSeen p turn) :
    (p.turn env turn).Sound id := by
  cases turn with
  | emitWithPayload | appendOrchestrationEvent => exact h.call trivial
  | store => exact ⟨h.gapless, h.reads, h.writes, h.next⟩
  | step call faults =>
    change (p.step env call faults).Sound id
    unfold Producers.step
    cases hcall : p.calls[call]? with
    | none => exact h
    | some phase =>
      cases phase with
      | checking draft => exact h.check call draft faults
      | entering draft => exact h.enter call draft
      | reading draft => exact h.read hcall (hok call faults draft rfl hcall)
      | appending => exact h.append hcall
      | returned => exact h

/-- A stream only grows, at its end. -/
theorem Producers.log_turn (p : Producers) (turn : Turn) :
    p.store.log id <+: (p.turn env turn).store.log id := by
  cases turn with
  | step call faults =>
    change _ <+: (p.step env call faults).store.log id
    unfold Producers.step
    cases hcall : p.calls[call]? with
    | none => exact prefix_rfl
    | some phase =>
      cases phase with
      | checking =>
        simp only [Producers.check]
        split <;> exact prefix_rfl
      | entering =>
        simp only [Producers.enter]
        split_ifs <;> exact prefix_rfl
      | reading =>
        simp only [Producers.read]
        split
        · exact prefix_rfl
        · split <;> exact prefix_rfl
      | appending record =>
        simp only [Producers.append]
        cases happend : appendEvent env record ⟨p.store, faults⟩ with
        | error e d =>
          have hstore : d.store = p.store := appendEvent_rule.error rfl happend
          exact hstore ▸ prefix_rfl
        | ok _ d =>
          have hstore : d.store = p.store.appended record := appendEvent_rule.ok rfl happend
          change _ <+: d.store.log id
          rw [hstore]
          by_cases hid : id = record.operationId
          · subst hid
            rw [log_appended_self]
            exact prefix_append _ _
          · rw [log_appended_ne hid]
      | returned => exact prefix_rfl
  | _ => exact prefix_rfl

theorem Producers.log_run {tr : List (Turn × Unit)} {ok : Producers → Turn → Prop}
    (hr : (producersMachine env).Run ok s tr t) : s.store.log id <+: t.store.log id := by
  induction hr with
  | nil => exact prefix_rfl
  | snoc _ _ ih => exact ih.trans (Producers.log_turn _ _)

end Sound

section Kernel

/-- One call without interruption, on a disk. -/
def emitEvent (env : KernelEnv) (runtimeInstanceId : String) (draft : EventDraft) (d : Disk) :
    Bool × Disk :=
  match replayEvents env draft.operationId 0 d with
  | .error _ d₁ => (false, d₁)
  | .ok history d₁ =>
    match nextRecord runtimeInstanceId draft history with
    | none => (false, d₁)
    | some record =>
      match appendEvent env record d₁ with
      | .error _ d₂ => (false, d₂)
      | .ok _ d₂ => (true, d₂)

section Emission

variable {ε ε' α : Type} {k : Kernel} {m : EStateM ε Disk α} {d : Disk}

theorem attempt_onDisk_ok {a : α} (h : m k.disk = .ok a d) :
    (attempt (onDisk m) : EStateM ε' Kernel _) k = .ok (.ok a) { k with disk := d } := by
  simp only [attempt, onDisk, zoom, h]

theorem attempt_onDisk_error {e : ε} (h : m k.disk = .error e d) :
    (attempt (onDisk m) : EStateM ε' Kernel _) k = .ok (.error e) { k with disk := d } := by
  simp only [attempt, onDisk, zoom, h]

/-- The kernel's own emission is one such call. -/
theorem emitWithPayload_eq (draft : EventDraft) (k : Kernel) :
    (emitWithPayload env draft.operationId draft.stage draft.service draft.eventName draft.payload :
      EStateM ε Kernel Bool) k =
    .ok (emitEvent env k.identity.runtimeInstanceId draft k.disk).1
      { k with disk := (emitEvent env k.identity.runtimeInstanceId draft k.disk).2 } := by
  unfold emitEvent emitWithPayload
  cases hread : replayEvents env draft.operationId 0 k.disk with
  | error =>
    rw [bind_of_ok (attempt_onDisk_error hread)]
    rfl
  | ok history d =>
    rw [bind_of_ok (attempt_onDisk_ok hread)]
    simp only [nextRecord]
    split_ifs
    · rfl
    · cases hseq : nextSequence history with
      | none => rfl
      | some sequence =>
        simp only [Option.map_some]
        have hget : (get : EStateM ε Kernel Kernel) { k with disk := d } =
            .ok { k with disk := d } { k with disk := d } := rfl
        cases happend : appendEvent env ⟨draft.operationId, sequence,
            k.identity.runtimeInstanceId, draft.stage, draft.service, draft.eventName,
            draft.payload⟩ d with
        | error =>
          exact (bind_of_ok hget).trans ((bind_of_ok (attempt_onDisk_error happend)).trans rfl)
        | ok =>
          exact (bind_of_ok hget).trans ((bind_of_ok (attempt_onDisk_ok happend)).trans rfl)

/-- The faults that are left behind the reading of a stream. -/
def scriptBehind (env : KernelEnv) (id : String) (d : Disk) : List Fault :=
  match replayEvents env id 0 d with
  | .ok _ d₁ | .error _ d₁ => d₁.script

/-- The kernel's emission is one call that nobody interrupts, whatever other calls wait: it reads
with the faults of the disk, and appends with those left behind the read. -/
theorem emitWithPayload_refines (k : Kernel) (draft : EventDraft) (calls : List EmitPhase) :
    ∃ written disk,
      (emitWithPayload env draft.operationId draft.stage draft.service draft.eventName
        draft.payload : EStateM ε Kernel Bool) k = .ok written { k with disk } ∧
      (producersMachine env).after ⟨k.disk.store, k.identity.runtimeInstanceId, none, calls⟩
          [.emitWithPayload draft, .step calls.length [], .step calls.length k.disk.script,
            .step calls.length (scriptBehind env draft.operationId k.disk)] =
        ⟨disk.store, k.identity.runtimeInstanceId, none, calls ++ [.returned written]⟩ := by
  simp only [emitWithPayload_eq, emitEvent, scriptBehind, Machine.after, producersMachine,
    Producers.turn, Producers.step, Producers.enter, Producers.setPhase, Producers.read, Producers.release,
    getElem?_concat_length, set_append_right, Nat.le_refl, Nat.sub_self, set_cons_zero, if_true]
  cases hread : replayEvents env draft.operationId 0 k.disk with
  | error e d => exact ⟨_, _, rfl, by simp [replayEvents_rule.error rfl hread]⟩
  | ok history d =>
    obtain ⟨hd, -⟩ := replayEvents_rule.ok rfl hread
    cases hrecord : nextRecord k.identity.runtimeInstanceId draft history with
    | none => exact ⟨_, _, rfl, by simp [hrecord, hd]⟩
    | some record =>
      refine ⟨_, _, rfl, ?_⟩
      cases happend : appendEvent env record d with
      | error | ok =>
        simp [hrecord, Producers.append, ← hd, happend, Producers.release, Producers.setPhase]

end Emission

end Kernel

section Runs

variable {u : Producers} {tr : List (Turn × Unit)} {received : List RuntimeEventRecord} {c₀ : Nat}

/-- No call yet, on a store whose stream is in order. -/
structure Producers.Fresh (p : Producers) (id : String) : Prop where
  idle : p.calls = []
  unlocked : p.writer = none
  stream : Gapless (p.store.log id)

theorem Producers.Fresh.sound (h : p.Fresh id) : p.Sound id := by
  have none {i : Nat} {phase : EmitPhase} (hi : p.calls[i]? = some phase) : False := by
    simp [h.idle] at hi
  exact ⟨h.stream, fun _ _ hi => (none hi).elim, fun _ _ hi => (none hi).elim,
    fun _ _ hi => (none hi).elim⟩

theorem Producers.Sound.run (h : s.Sound id) (hr : (producersMachine env).Run LogSeen s tr t) :
    t.Sound id :=
  hr.invariant (I := fun p => p.Sound id) h fun _ _ hok h => h.turn hok

theorem replayEvents_gapless {d : Disk} (h : Gapless (store.log id))
    (hsees : SeesLog store id faults)
    (hreplay : replayEvents env id c ⟨store, faults⟩ = .ok history d) :
    history = (store.log id).filter fun event => c < event.sequence := by
  rw [(replayEvents_rule.ok rfl hreplay).2 hsees]
  have hsub : ((store.log id).filter fun event => c < event.sequence).Pairwise
      fun a b => a.sequence ≤ b.sequence :=
    (h.pairwise.imp Nat.le_of_lt).sublist filter_sublist
  exact hsub.insertionSort_eq

/-- A reader that replays again and again, each time from the cursor of what it has received,
while the producers go on. -/
inductive Subscribed (env : KernelEnv) (id : String) (s : Producers) (c₀ : Nat) :
    List RuntimeEventRecord → Nat → Producers → Prop
  | start : Subscribed env id s c₀ [] c₀ s
  | wait {received : List RuntimeEventRecord} {c : Nat} {t u : Producers} {tr : List (Turn × Unit)}
      (subscribed : Subscribed env id s c₀ received c t)
      (run : (producersMachine env).Run LogSeen t tr u) : Subscribed env id s c₀ received c u
  | replay {received events : List RuntimeEventRecord} {c : Nat} {t : Producers}
      {faults : List Fault} {d : Disk} (subscribed : Subscribed env id s c₀ received c t)
      (sees : SeesLog t.store id faults)
      (answer : replayEvents env id c ⟨t.store, faults⟩ = .ok events d) :
      Subscribed env id s c₀ (received ++ events)
        (cursorAfter RuntimeEventRecord.sequence c events) t

/-- What has been received is the stream from the first cursor on, as far as the cursor. -/
theorem Subscribed.received_prefix (h : Subscribed env id s c₀ received c t) (hs : s.Sound id) :
    t.Sound id ∧ received <+: (t.store.log id).drop c₀ ∧ c = c₀ + received.length := by
  induction h with
  | start => exact ⟨hs, nil_prefix, rfl⟩
  | wait _ run ih =>
    obtain ⟨hsound, hprefix, hcursor⟩ := ih
    exact ⟨hsound.run run, hprefix.trans ((Producers.log_run run).drop c₀), hcursor⟩
  | @replay received events c t faults d _ sees answer ih =>
    obtain ⟨hsound, hprefix, hcursor⟩ := ih
    have hevents : events = (t.store.log id).drop c := by
      rw [replayEvents_gapless hsound.gapless sees answer, hsound.gapless.filter_eq_drop]
    have hall : received ++ events = (t.store.log id).drop c₀ := by
      rw [hevents, hcursor, append_drop_of_prefix hprefix]
    refine ⟨hsound, hall ▸ prefix_rfl, ?_⟩
    rw [hevents, hsound.gapless.cursorAfter_drop, length_append]
    omega

/-- Whatever the producers do at the same time, the stream of an operation is numbered 1, 2, …
in the order of the appends and ends with its first terminal event; a replay returns exactly what
lies behind its cursor, and replays from successive cursors add up to one replay from the first. -/
theorem events_gapless (hs : s.Fresh id) (hr : (producersMachine env).Run LogSeen s tr t) :
    (t.store.log id).map RuntimeEventRecord.sequence =
        List.range' 1 (t.store.log id).length ∧
      (∀ event ∈ (t.store.log id).dropLast, event.stage ≠ "terminal") ∧
      (∀ c faults events d, SeesLog t.store id faults →
        replayEvents env id c ⟨t.store, faults⟩ = .ok events d →
        events = (t.store.log id).filter fun event => c < event.sequence) ∧
      ∀ c₀ received c u faults events d, Subscribed env id s c₀ received c u →
        SeesLog u.store id faults → replayEvents env id c ⟨u.store, faults⟩ = .ok events d →
        received ++ events = (u.store.log id).filter fun event => c₀ < event.sequence := by
  have hsound : t.Sound id := hs.sound.run hr
  refine ⟨hsound.gapless.seqs, hsound.gapless.closed, ?_, ?_⟩
  · exact fun c faults events d hsees hreplay =>
      replayEvents_gapless hsound.gapless hsees hreplay
  · intro c₀ received c u faults events d hsub hsees hreplay
    obtain ⟨hu, hprefix, hcursor⟩ := hsub.received_prefix hs.sound
    rw [replayEvents_gapless hu.gapless hsees hreplay, hu.gapless.filter_eq_drop,
      hu.gapless.filter_eq_drop, hcursor, append_drop_of_prefix hprefix]

theorem logSeen_of_calm {turn : Turn} (h : ∀ call faults, turn = .step call faults → faults = []) :
    LogSeen p turn := by
  rintro call faults draft rfl - - f hf
  rw [h call faults rfl] at hf
  cases hf

namespace Sample

def producers : Producers := ⟨Sample.store, "rt", none, []⟩

def progress : EventDraft := ⟨"a", "build", none, some "Progress", none⟩

/-- Two calls at once; the second finds the lock taken. -/
def interleaved : List Turn :=
  [.emitWithPayload progress, .emitWithPayload progress, .step 0 [], .step 1 [], .step 0 [],
    .step 0 [], .step 1 [], .step 1 [], .step 1 []]

end Sample

open Sample

theorem events_gapless_interleaved :
    (((producersMachine owner).after producers interleaved).store.log "a").length = 2 ∧
      (((producersMachine owner).after producers interleaved).store.log "a").map
          RuntimeEventRecord.sequence =
        List.range' 1 (((producersMachine owner).after producers interleaved).store.log
          "a").length := by
  have hfresh : producers.Fresh "a" := ⟨rfl, rfl, .nil⟩
  refine ⟨by decide +kernel, (events_gapless hfresh
    (.of_follows (follows_of_forall fun _ turn hturn => logSeen_of_calm fun call faults heq =>
      ?_))).1⟩
  simp only [interleaved, mem_cons] at hturn
  grind

/-- A stat error hides the log from the second call, which starts again from 1. -/
theorem events_renumbered :
    (((producersMachine owner).after producers
      [.emitWithPayload progress, .step 0 [], .step 0 [], .step 0 [], .emitWithPayload progress,
        .step 1 [], .step 1 [.fail ["I/O error"]], .step 1 []]).store.log "a").map
      RuntimeEventRecord.sequence = [1, 1] := by
  decide +kernel

end Runs

end Rcoder.Runtime
